import FinStream.Finance.Schedule

/-! The write side of the finance repository: each operation as one transaction on the tables. -/

namespace FinStream

open Store

/-- A finance transaction: an error that rolls back, or a result with the tables to commit. -/
abbrev FinanceResult (α : Type) := Except FinanceError α

/-- Refuses blank text. -/
def validateNonempty (label value : String) : FinanceResult Unit :=
  ensure (!isBlank value) (.validation s!"{label} cannot be empty")

/-- Refuses numbers that are not finite. -/
def validateFinite (label : String) (value : F64) : FinanceResult Unit :=
  ensure value.isFinite (.validation s!"{label} must be finite")

/-- Refuses negative numbers. -/
def validateMagnitude (label : String) (value : F64) : FinanceResult Unit := do
  validateFinite label value
  ensure (0 ≤ value.value) (.validation s!"{label} must be a non-negative magnitude")

/-- Refuses negative numbers and zero. -/
def validatePositiveMagnitude (label : String) (value : F64) : FinanceResult Unit := do
  validateMagnitude label value
  ensure (value.value != 0) (.validation s!"{label} must be greater than zero")

/-- A balance and its date are given together or not at all. -/
def validateOptionalBalance (balance : Option F64) (asOfDate : Option IsoDate) :
    FinanceResult Unit := do
  balance.forM (validateFinite "account balance")
  ensure (balance.isSome == asOfDate.isSome) (.validation
    "account balance and balance as-of date must be set or cleared together")

/-- Refuses text that is not JSON. -/
def validateJson (platform : Platform) (label : String) (value : Option String) :
    FinanceResult Unit :=
  ensure (value.all platform.jsonValid) (.validation s!"{label} must be valid JSON")

/-- The schema's CHECK on a stored amount. -/
def checkMagnitude (value : ℚ) : FinanceResult Unit :=
  ensure (magnitudeFits value) (.storage "CHECK constraint failed: amount")

/-- The schema's CHECK on a stored date, whose year has four digits and no sign. -/
def checkDate (date : IsoDate) : FinanceResult Unit :=
  ensure (0 ≤ date.year) (.storage "CHECK constraint failed: date")

/-- The active account with this id must exist. -/
def requireActiveAccount (db : Finance) (id : ℕ) : FinanceResult Unit :=
  ensure ((db.accounts.get? id).any (·.isActive)) (.notFound s!"active account {id}")

/-- The active stream with this id must exist; its name is returned. -/
def requireActiveStream (db : Finance) (id : ℕ) : FinanceResult String := do
  let stream ← required ((db.streams.get? id).filter (·.isActive))
    (.notFound s!"active stream {id}")
  pure stream.name

/-! ### Accounts -/

/-- The row an account update leaves, which keeps the balance's provenance if the balance stays. -/
def Account.replacedBy (account : Account) (now : String) (draft : AccountDraft) : Account :=
  let balance := draft.balance.map F64.value
  let same := account.balance == balance && account.balanceAsOfDate == draft.balanceAsOfDate
  { account with
    name := trim draft.name
    kind := trim draft.kind
    balance
    balanceAsOfDate := draft.balanceAsOfDate
    sourceType := if balance.isNone then none else if same then account.sourceType else "manual"
    sourceRef := if same then account.sourceRef else none
    metadata := if same then account.metadata else none
    balanceUpdatedAt :=
      if balance.isNone then none else if same then account.balanceUpdatedAt else now
    isPrimary := draft.isPrimary
    notes := cleanOptional draft.notes
    updatedAt := now }

/-- The row an account insertion creates. -/
def AccountDraft.row (now : String) (draft : AccountDraft) : Account where
  name := trim draft.name
  kind := trim draft.kind
  balance := draft.balance.map F64.value
  balanceAsOfDate := draft.balanceAsOfDate
  sourceType := if draft.balance.isNone then none else "manual"
  sourceRef := none
  metadata := none
  balanceUpdatedAt := if draft.balance.isNone then none else now
  isPrimary := draft.isPrimary
  isActive := true
  notes := cleanOptional draft.notes
  updatedAt := now

/-- An update that names no primary account must not demote the current one. -/
def refuseDemotion (db : Finance) (draft : AccountDraft) : FinanceResult Unit :=
  match draft.id with
  | some id =>
    if draft.isPrimary then pure ()
    else do
      let account ← required ((db.accounts.get? id).filter (·.isActive))
        (.notFound s!"active account {id}")
      ensure (!account.isPrimary) (.conflict
        "the current primary account cannot be demoted; make another account primary instead")
  | none => pure ()

/-- Takes the primary flag from every account but the one about to receive it. -/
def clearPrimary (now : String) (keep : Option ℕ) (accounts : Table Account) : Table Account :=
  accounts.updateWhere (fun id account => account.isPrimary && keep != some id)
    fun account => { account with isPrimary := false, updatedAt := now }

/-- Creates or replaces an account. -/
def saveAccount (now : String) (draft : AccountDraft) (db : Finance) :
    FinanceResult (ℕ × Finance) := do
  validateNonempty "account name" draft.name
  validateNonempty "account kind" draft.kind
  validateOptionalBalance draft.balance draft.balanceAsOfDate
  refuseDemotion db draft
  ensure (draft.balance.all fun balance => realFits balance.value)
    (.storage "CHECK constraint failed: balance")
  draft.balanceAsOfDate.forM checkDate
  let accounts := if draft.isPrimary then clearPrimary now draft.id db.accounts else db.accounts
  match draft.id with
  | some id => do
    ensure ((accounts.get? id).any (·.isActive)) (.notFound s!"active account {id}")
    pure (id, { db with
      accounts := accounts.updateWhere (fun stored account => stored == id && account.isActive)
        fun account => account.replacedBy now draft })
  | none => pure (accounts.next, { db with accounts := accounts.insert (draft.row now) })

/-- The primary account the application creates when there is none. -/
def primaryCashAccount (now : String) : Account where
  name := "Primary Cash"
  kind := "cash"
  balance := none
  balanceAsOfDate := none
  sourceType := none
  sourceRef := none
  metadata := none
  balanceUpdatedAt := none
  isPrimary := true
  isActive := true
  notes := none
  updatedAt := now

/-- Finds the active primary account or creates one without a balance. -/
def ensurePrimaryAccountOn (now : String) (db : Finance) : ℕ × Finance :=
  match db.accounts.find? fun _ account => account.isPrimary && account.isActive with
  | some (id, _) => (id, db)
  | none =>
    (db.accounts.next, { db with accounts := db.accounts.insert (primaryCashAccount now) })

/-- Records the confirmed balance of the primary account. -/
def setStartingBalance (platform : Platform) (now : String) (amount : F64) (asOfDate : IsoDate)
    (sourceType : String) (sourceRef metadata : Option String) (db : Finance) :
    FinanceResult Finance := do
  validateFinite "starting balance" amount
  validateNonempty "balance source type" sourceType
  validateJson platform "balance metadata" metadata
  let (accountId, db) := ensurePrimaryAccountOn now db
  ensure (realFits amount.value) (.storage "CHECK constraint failed: balance")
  checkDate asOfDate
  ensure ((db.accounts.get? accountId).any fun account => account.isActive && account.isPrimary)
    (.conflict "primary account disappeared while setting its balance")
  pure { db with
    accounts := db.accounts.updateWhere
      (fun id account => id == accountId && account.isActive && account.isPrimary)
      fun account => { account with
        balance := amount.value
        balanceAsOfDate := asOfDate
        sourceType := trim sourceType
        sourceRef := cleanOptional sourceRef
        metadata := metadata.map .text
        balanceUpdatedAt := now
        updatedAt := now } }

/-! ### Schedule refresh -/

/-- Open source rows of a stream in the window that carry no user decision. -/
def isRetirable (streamId : ℕ) (window : ProjectionWindow) (event : StreamEvent) : Bool :=
  event.streamId == streamId && event.sourceType == some .streamSchedule &&
    window.contains event.expectedDate && event.isOpen && !event.isOverridden &&
    event.exclusionReason != some .user

/-- The tombstone a retired or deleted projection is left with. -/
def StreamEvent.tombstoned (now : String) (event : StreamEvent) : StreamEvent :=
  { event with exclusionReason := some .schedule, updatedAt := now }

/-- The row a refresh inserts for an occurrence whose slot is not stored yet. -/
def projectedEvent (now : String) (streamId : ℕ) (streamName : String) (scheduleId : ℕ)
    (schedule : StreamSchedule) (occurrence : IsoDate) : StreamEvent where
  streamId
  accountId := schedule.accountId
  label := some (schedule.label.getD s!"{streamName} due")
  expectedDate := occurrence
  amount := schedule.amount
  overrideLabel := none
  hasLabelOverride := false
  overrideDate := none
  overrideAmount := none
  overrideAccountId := none
  hasAccountOverride := false
  actualDate := none
  actualAmount := none
  status := .projected
  exclusionReason := none
  sourceId := some (.streamSchedule scheduleId
    (projectionSlot schedule.frequency schedule.startDate occurrence))
  sourceType := some .streamSchedule
  metadata := some (.projection scheduleId streamName)
  notes := none
  updatedAt := now

/-- The conflict branch of the refresh: new base values, user exclusion kept, received untouched. -/
def StreamEvent.reprojected (fresh event : StreamEvent) : StreamEvent :=
  if event.isOpen then
    { event with
      accountId := fresh.accountId
      label := fresh.label
      expectedDate := fresh.expectedDate
      amount := fresh.amount
      metadata := fresh.metadata
      exclusionReason := if event.exclusionReason == some .user then some .user else none
      updatedAt := fresh.updatedAt }
  else event

/-- Whether two rows conflict on the UNIQUE key of `stream_event`. -/
def sameSource (left right : StreamEvent) : Bool := left.key.isSome && left.key == right.key

/-- Stores one occurrence under its slot. -/
def upsertProjection (fresh : StreamEvent) (events : Table StreamEvent) : Table StreamEvent :=
  (events.upsert (sameSource fresh) fresh fresh.reprojected).2

/-- The dates of a window a schedule is active on, none when it ends before they start. -/
def scheduleRange (schedule : StreamSchedule) (window : ProjectionWindow) :
    Option (IsoDate × IsoDate) :=
  let rangeStart := max schedule.startDate window.from_
  let rangeEnd := min (schedule.endDate.getD window.through) window.through
  if rangeEnd < rangeStart then none else some (rangeStart, rangeEnd)

/-- The occurrences of one schedule that fall in the window and its own dates. -/
def occurrencesIn (schedule : StreamSchedule) (window : ProjectionWindow) :
    FinanceResult (List IsoDate) :=
  match scheduleRange schedule window with
  | none => pure []
  | some (rangeStart, rangeEnd) =>
    scheduleOccurrences schedule.frequency schedule.startDate rangeStart rangeEnd
      schedule.dayOfMonth

/-- Projects the schedules one after the other, counting the occurrences. -/
def projectSchedules (now : String) (streamId : ℕ) (streamName : String)
    (window : ProjectionWindow) :
    List (ℕ × StreamSchedule) → Table StreamEvent → FinanceResult (ℕ × Table StreamEvent)
  | [], events => pure (0, events)
  | (scheduleId, schedule) :: rest, events => do
    let occurrences ← occurrencesIn schedule window
    let events := occurrences.foldl (fun events occurrence =>
      upsertProjection
        (projectedEvent now streamId streamName scheduleId schedule occurrence) events) events
    let (projected, events) ← projectSchedules now streamId streamName window rest events
    pure (occurrences.length + projected, events)

/-- The active schedules of a stream in id order. -/
def activeSchedules (db : Finance) (streamId : ℕ) : List (ℕ × StreamSchedule) :=
  db.schedules.rows.filter fun entry => entry.2.streamId == streamId && entry.2.isActive

/-- Tombstones the untouched projections of the window. -/
def retireProjections (now : String) (streamId : ℕ) (window : ProjectionWindow)
    (events : Table StreamEvent) : Table StreamEvent :=
  events.updateWhere (fun _ event => isRetirable streamId window event) (·.tombstoned now)

/-- Retires the stream's untouched projections, then stores every current occurrence again. -/
def refreshStreamScheduleEventsOn (now : String) (streamId : ℕ) (streamName : String)
    (window : ProjectionWindow) (db : Finance) : FinanceResult (ℕ × Finance) := do
  let (projected, events) ← projectSchedules now streamId streamName window
    (activeSchedules db streamId) (retireProjections now streamId window db.events)
  pure (projected, { db with events })

/-- Refreshes the projections of one active stream. -/
def refreshStreamScheduleEvents (now : String) (streamId : ℕ) (window : ProjectionWindow)
    (db : Finance) : FinanceResult (ℕ × Finance) := do
  let streamName ← requireActiveStream db streamId
  refreshStreamScheduleEventsOn now streamId streamName window db

/-! ### Streams -/

/-- The checks on one schedule of a stream draft. -/
def validateScheduleDraft (platform : Platform) (schedule : ScheduleDraft) :
    FinanceResult Unit := do
  validateMagnitude "schedule amount" schedule.amount
  validateJson platform "schedule metadata" schedule.metadata
  ensure (!(schedule.frequency == .monthly && schedule.dayOfMonth.isNone))
    (.validation "monthly schedules require a day of month")
  ensure (schedule.dayOfMonth.all fun day => 1 ≤ day && day ≤ 31)
    (.validation "schedule day of month must be between 1 and 31")
  ensure (schedule.endDate.all fun endDate => schedule.startDate ≤ endDate)
    (.validation "schedule end date cannot precede its start date")

/-- The checks on a stream draft. -/
def validateStreamDraft (platform : Platform) (draft : StreamDraft) : FinanceResult Unit := do
  validateNonempty "stream name" draft.name
  validateNonempty "stream type" draft.streamType
  validateNonempty "stream kind" draft.kind
  validateJson platform "stream configuration" draft.configuration
  draft.schedules.forM (validateScheduleDraft platform)

/-- The accounts and the parent stream a draft refers to must be active. -/
def requireReferences (db : Finance) (draft : StreamDraft) : FinanceResult Unit := do
  draft.defaultAccountId.forM (requireActiveAccount db)
  draft.parentId.forM fun parentId => do
    let _ ← requireActiveStream db parentId
  draft.schedules.forM fun schedule => schedule.accountId.forM (requireActiveAccount db)

/-- The row a stream insertion creates. -/
def StreamDraft.row (now : String) (draft : StreamDraft) : Stream where
  name := trim draft.name
  streamType := trim draft.streamType
  kind := trim draft.kind
  direction := draft.direction
  amountCertainty := draft.amountCertainty
  description := cleanOptional draft.description
  defaultAccountId := draft.defaultAccountId
  configuration := draft.configuration
  parentId := draft.parentId
  isActive := true
  updatedAt := now

/-- Inserts the stream of a draft, or replaces every column of the active stream it names. -/
def saveStreamRow (now : String) (draft : StreamDraft) (db : Finance) :
    FinanceResult (ℕ × Finance) :=
  match draft.id with
  | some id => do
    ensure ((db.streams.get? id).any (·.isActive)) (.notFound s!"active stream {id}")
    pure (id, { db with
      streams := db.streams.updateWhere (fun stored stream => stored == id && stream.isActive)
        fun _ => draft.row now })
  | none => pure (db.streams.next, { db with streams := db.streams.insert (draft.row now) })

/-- The row a schedule draft stands for on its stream. -/
def ScheduleDraft.row (now : String) (streamId : ℕ) (schedule : ScheduleDraft) :
    StreamSchedule where
  streamId
  accountId := schedule.accountId
  label := cleanOptional schedule.label
  amount := schedule.amount.value
  frequency := schedule.frequency
  dayOfMonth := schedule.dayOfMonth
  startDate := schedule.startDate
  endDate := schedule.endDate
  isActive := true
  metadata := schedule.metadata
  updatedAt := now

/-- Replaces every column of the schedule a draft names on its stream, or inserts a new schedule. -/
def saveScheduleOn (now : String) (streamId : ℕ) (schedule : ScheduleDraft) (db : Finance) :
    FinanceResult (ℕ × Finance) := do
  checkMagnitude schedule.amount.value
  checkDate schedule.startDate
  schedule.endDate.forM checkDate
  match schedule.id with
  | some id => do
    ensure ((db.schedules.get? id).any (·.streamId == streamId))
      (.notFound s!"schedule {id} on stream {streamId}")
    pure (id, { db with
      schedules := db.schedules.updateWhere
        (fun stored row => stored == id && row.streamId == streamId)
        fun _ => schedule.row now streamId })
  | none =>
    pure (db.schedules.next,
      { db with schedules := db.schedules.insert (schedule.row now streamId) })

/-- Saves the schedules of a draft in order and returns the ids to retain. -/
def saveSchedules (now : String) (streamId : ℕ) :
    List ScheduleDraft → List ℕ → Finance → FinanceResult (List ℕ × Finance)
  | [], retained, db => pure (retained, db)
  | schedule :: rest, retained, db => do
    let (id, db) ← saveScheduleOn now streamId schedule db
    ensure (!retained.contains id) (.validation s!"schedule {id} appears more than once")
    saveSchedules now streamId rest (id :: retained) db

/-- Deactivates the active schedules of a stream that a draft did not retain. -/
def deactivateMissing (now : String) (streamId : ℕ) (retained : List ℕ) (db : Finance) : Finance :=
  { db with
    schedules := db.schedules.updateWhere
      (fun id row => row.streamId == streamId && row.isActive && !retained.contains id)
      fun row => { row with isActive := false, updatedAt := now } }

/-- Adds a stream to every active default view. -/
def attachToDefaultView (streamId : ℕ) (db : Finance) : Finance :=
  let defaults := db.views.rows.filter fun entry => entry.2.isDefault && entry.2.isActive
  { db with
    viewStreams := db.viewStreams ∪ (defaults.map fun entry => (entry.1, streamId)).toFinset }

/-- Creates or replaces a stream with its complete schedule set and refreshes its projections. -/
def saveStream (platform : Platform) (now : String) (draft : StreamDraft)
    (window : ProjectionWindow) (db : Finance) : FinanceResult (ℕ × Finance) := do
  validateStreamDraft platform draft
  requireReferences db draft
  let (streamId, db) ← saveStreamRow now draft db
  let (retained, db) ← saveSchedules now streamId draft.schedules [] db
  let db := attachToDefaultView streamId (deactivateMissing now streamId retained db)
  -- The refresh receives the name as drafted, before trimming.
  let (_, db) ← refreshStreamScheduleEventsOn now streamId draft.name window db
  pure (streamId, db)

/-- Open projections a stream deletion excludes. -/
def isDeletable (streamId : ℕ) (event : StreamEvent) : Bool :=
  event.streamId == streamId && event.sourceType == some .streamSchedule &&
    event.status != .received && !event.isExcluded

/-- Deactivates a stream with its schedules and excludes its open projections. -/
def deleteStream (now : String) (streamId : ℕ) (db : Finance) : FinanceResult Finance := do
  ensure ((db.streams.get? streamId).any (·.isActive)) (.notFound s!"active stream {streamId}")
  pure { db with
    streams := db.streams.updateWhere (fun id stream => id == streamId && stream.isActive)
      fun stream => { stream with isActive := false, updatedAt := now }
    schedules := db.schedules.updateWhere (fun _ row => row.streamId == streamId && row.isActive)
      fun row => { row with isActive := false, updatedAt := now }
    events := db.events.updateWhere (fun _ event => isDeletable streamId event)
      (·.tombstoned now) }

/-! ### Views -/

/-- The row a view insertion creates. -/
def StreamViewDraft.row (now : String) (draft : StreamViewDraft) : StreamView where
  name := trim draft.name
  description := cleanOptional draft.description
  isDefault := draft.isDefault
  isActive := true
  updatedAt := now

/-- Takes the default flag from every view but the one about to receive it. -/
def clearDefault (now : String) (keep : Option ℕ) (views : Table StreamView) : Table StreamView :=
  views.updateWhere (fun id view => view.isDefault && keep != some id)
    fun view => { view with isDefault := false, updatedAt := now }

/-- Inserts the view of a draft, or replaces every column of the active view it names. -/
def saveViewRow (now : String) (draft : StreamViewDraft) (views : Table StreamView) :
    FinanceResult (ℕ × Table StreamView) :=
  match draft.id with
  | some id => do
    ensure ((views.get? id).any (·.isActive)) (.notFound s!"active stream view {id}")
    pure (id, views.updateWhere (fun stored view => stored == id && view.isActive)
      fun _ => draft.row now)
  | none => pure (views.next, views.insert (draft.row now))

/-- Creates or replaces a stream view together with its members. -/
def saveView (now : String) (draft : StreamViewDraft) (db : Finance) :
    FinanceResult (ℕ × Finance) := do
  validateNonempty "stream view name" draft.name
  ensure draft.streamIds.Nodup
    (.validation "stream view members contain duplicate stream ids")
  draft.streamIds.forM fun streamId => do
    let _ ← requireActiveStream db streamId
  let views := if draft.isDefault then clearDefault now draft.id db.views else db.views
  let (viewId, views) ← saveViewRow now draft views
  pure (viewId, { db with
    views
    viewStreams := db.viewStreams.filter (·.1 ≠ viewId) ∪
      (draft.streamIds.map (viewId, ·)).toFinset })

/-! ### Events -/

/-- The row a manual event starts as, before its source id is assigned. -/
def EventDraft.row (now : String) (draft : EventDraft) : StreamEvent where
  streamId := draft.streamId
  accountId := draft.accountId
  label := some (trim draft.label)
  expectedDate := draft.expectedDate
  amount := draft.amount.value
  overrideLabel := none
  hasLabelOverride := false
  overrideDate := none
  overrideAmount := none
  overrideAccountId := none
  hasAccountOverride := false
  actualDate := none
  actualAmount := none
  status := draft.status
  exclusionReason := none
  sourceId := none
  sourceType := some .manual
  metadata := draft.metadata.map .text
  notes := cleanOptional draft.notes
  updatedAt := now

/-- Creates a manual event and gives it the source id its row id determines. -/
def createManualEvent (platform : Platform) (now : String) (draft : EventDraft) (db : Finance) :
    FinanceResult (ℕ × Finance) := do
  validateNonempty "event label" draft.label
  validatePositiveMagnitude "event amount" draft.amount
  validateJson platform "event metadata" draft.metadata
  ensure (draft.status != .received) (.validation
    "a received event must be created by reconciliation with actual fields")
  let _ ← requireActiveStream db draft.streamId
  draft.accountId.forM (requireActiveAccount db)
  checkMagnitude draft.amount.value
  checkDate draft.expectedDate
  let eventId := db.events.next
  let named := { draft.row now with sourceId := some (.manual eventId) }
  ensure (db.events.find? fun _ event => sameSource named event).isNone
    (.storage "UNIQUE constraint failed: stream_event")
  pure (eventId, { db with
    events := (db.events.insert (draft.row now)).updateWhere (fun id _ => id == eventId)
      fun event => { event with sourceId := some (.manual eventId) } })

/-- The stored word for a status. -/
def EventStatus.asStr : EventStatus → String
  | .projected => "projected"
  | .confirmed => "confirmed"
  | .received => "received"

/-- The stored word for a source type. -/
def SourceType.asStr : SourceType → String
  | .manual => "manual"
  | .streamSchedule => "stream_schedule"
  | .tmoHistory => "tmo_history"
  | .schedule => "schedule"

/-- Why an event operation matched no row. -/
def immutableOrMissingEvent (db : Finance) (eventId : ℕ) (operation : String) : FinanceError :=
  match db.events.get? eventId with
  | none => .notFound s!"event {eventId}"
  | some event =>
    let sourceType := (event.sourceType.map SourceType.asStr).getD "unknown"
    .conflict s!"cannot {operation} event {eventId} (status={event.status.asStr}, source_type={sourceType}, excluded={event.isExcluded})"

/-- Rows a user may patch or reconcile: open manual events and open projections. -/
def isUserEvent (event : StreamEvent) : Bool :=
  event.isOpen && (event.sourceType == some .manual || event.sourceType == some .streamSchedule)

/-- Rows a user may exclude and restore: open projections. -/
def isOpenProjection (event : StreamEvent) : Bool :=
  event.sourceType == some .streamSchedule && event.isOpen

/-- Checks the value a patch sets, if it sets one. -/
def Patch.check {α : Type} (patch : Patch α) (checked : α → FinanceResult Unit) :
    FinanceResult Unit :=
  match patch with
  | .set value => checked value
  | _ => pure ()

/-- What a patch leaves of a nullable column. -/
def Patch.applied {α β : Type} (patch : Patch α) (stored : Option β) (value : α → β) : Option β :=
  match patch with
  | .keep => stored
  | .clear => none
  | .set given => some (value given)

/-- The override columns after a patch; a cleared label stays overridden, with no text. -/
def StreamEvent.patched (now : String) (patch : EventPatch) (event : StreamEvent) : StreamEvent :=
  { event with
    overrideLabel := patch.label.applied event.overrideLabel trim
    hasLabelOverride := match patch.label with
      | .keep => event.hasLabelOverride
      | _ => true
    overrideDate := patch.expectedDate.applied event.overrideDate id
    overrideAmount := patch.amount.applied event.overrideAmount F64.value
    overrideAccountId := patch.accountId.applied event.overrideAccountId id
    hasAccountOverride := match patch.accountId with
      | .keep => event.hasAccountOverride
      | .clear => false
      | .set _ => true
    notes := patch.notes.applied event.notes trim
    updatedAt := now }

/-- Changes the override columns of one open manual or scheduled event. -/
def patchEvent (now : String) (eventId : ℕ) (patch : EventPatch) (db : Finance) :
    FinanceResult Finance := do
  patch.amount.check (validatePositiveMagnitude "event amount override")
  patch.label.check (validateNonempty "event label override")
  patch.accountId.check (requireActiveAccount db)
  ensure ((db.events.get? eventId).any isUserEvent) (immutableOrMissingEvent db eventId "edit")
  patch.amount.check fun amount => checkMagnitude amount.value
  patch.expectedDate.check checkDate
  pure { db with
    events := db.events.updateWhere (fun id event => id == eventId && isUserEvent event)
      (·.patched now patch) }

/-- Deletes an open manual event, or excludes an open projection for good. -/
def removeEvent (now : String) (eventId : ℕ) (db : Finance) : FinanceResult Finance :=
  if (db.events.get? eventId).any fun event =>
      event.sourceType == some .manual && event.isOpen then
    pure { db with
      events := db.events.deleteWhere fun id event =>
        id == eventId && event.sourceType == some .manual && event.isOpen }
  else do
    ensure ((db.events.get? eventId).any isOpenProjection)
      (immutableOrMissingEvent db eventId "remove")
    pure { db with
      events := db.events.updateWhere (fun id event => id == eventId && isOpenProjection event)
        fun event => { event with exclusionReason := some .user, updatedAt := now } }

/-- Takes a user exclusion back. -/
def restoreScheduledEvent (now : String) (eventId : ℕ) (db : Finance) : FinanceResult Finance := do
  let restorable := fun event : StreamEvent =>
    isOpenProjection event && event.exclusionReason == some .user
  ensure ((db.events.get? eventId).any restorable) (immutableOrMissingEvent db eventId "restore")
  pure { db with
    events := db.events.updateWhere (fun id event => id == eventId && restorable event)
      fun event => { event with exclusionReason := none, updatedAt := now } }

/-- Collapses an expectation that is not excluded into what was received. -/
def reconcileEvent (now : String) (eventId : ℕ) (actualDate : IsoDate) (actualAmount : F64)
    (db : Finance) : FinanceResult Finance := do
  validatePositiveMagnitude "actual event amount" actualAmount
  let reconcilable := fun event : StreamEvent => isUserEvent event && !event.isExcluded
  ensure ((db.events.get? eventId).any reconcilable)
    (immutableOrMissingEvent db eventId "reconcile")
  checkMagnitude actualAmount.value
  checkDate actualDate
  pure { db with
    events := db.events.updateWhere (fun id event => id == eventId && reconcilable event)
      fun event => { event with
        actualDate := actualDate
        actualAmount := actualAmount.value
        status := .received
        updatedAt := now } }

/-! ### Bootstrap -/

/-- A stream the application starts with. -/
structure StreamSeed where
  name : String
  streamType : String
  kind : String
  direction : Direction
  certainty : AmountCertainty
  description : String

/-- The default streams, in the order they are seeded. -/
def streamSeeds : List StreamSeed := [
  ⟨"Trust Deeds", "mortgage_portfolio", "tmo_trust", .in_, .known,
    "Payments flowing into your trust deed cash view."⟩,
  ⟨"One-off Income", "manual_income", "manual_income", .in_, .known, "Manual one-time inflows."⟩,
  ⟨"One-off Expense", "manual_expense", "manual_expense", .out, .known,
    "Manual one-time outflows and bills."⟩,
  ⟨"Hannah Costco", "credit_card_due", "credit_card", .out, .estimated,
    "Monthly Hannah Costco payment due date."⟩,
  ⟨"Drew Costco", "credit_card_due", "credit_card", .out, .estimated,
    "Monthly Drew Costco payment due date."⟩,
  ⟨"Apple Card", "credit_card_due", "credit_card", .out, .estimated,
    "Monthly Apple Card payment due date."⟩]

/-- Which seeded streams get a monthly schedule, by position, and on which day. -/
def scheduleSeeds : List (ℕ × ℕ) := [(3, 21), (4, 22), (5, 31)]

/-- Resets and reactivates the oldest stream of the seed's name, or inserts one. -/
def ensureSeedStreamOn (now : String) (seed : StreamSeed) (accountId : ℕ) (db : Finance) :
    ℕ × Finance :=
  match db.streams.find? fun _ stream => stream.name == seed.name with
  | some (id, _) =>
    (id, { db with
      streams := db.streams.updateWhere (fun stored _ => stored == id) fun stream =>
        { stream with
          name := seed.name
          streamType := seed.streamType
          kind := seed.kind
          direction := seed.direction
          amountCertainty := seed.certainty
          description := some seed.description
          defaultAccountId := some accountId
          isActive := true
          updatedAt := now } })
  | none =>
    (db.streams.next, { db with
      streams := db.streams.insert {
        name := seed.name
        streamType := seed.streamType
        kind := seed.kind
        direction := seed.direction
        amountCertainty := seed.certainty
        description := some seed.description
        defaultAccountId := some accountId
        configuration := none
        parentId := none
        isActive := true
        updatedAt := now } })

/-- Ensures every seeded stream in order and returns their ids. -/
def ensureSeedStreams (now : String) (accountId : ℕ) : List StreamSeed → Finance → List ℕ × Finance
  | [], db => ([], db)
  | seed :: rest, db =>
    let (id, db) := ensureSeedStreamOn now seed accountId db
    let (ids, db) := ensureSeedStreams now accountId rest db
    (id :: ids, db)

/-- Resets and reactivates the stream's oldest schedule as the seeded monthly one, or inserts it. -/
def ensureSeedMonthlyScheduleOn (now : String) (streamId : ℕ) (streamName : String) (day : ℕ)
    (startDate : IsoDate) (accountId : ℕ) (db : Finance) : Finance :=
  match db.schedules.find? fun _ schedule => schedule.streamId == streamId with
  | some (id, _) =>
    { db with
      schedules := db.schedules.updateWhere (fun stored _ => stored == id) fun schedule =>
        { schedule with
          accountId := some accountId
          label := some s!"{streamName} due"
          amount := 0
          frequency := .monthly
          dayOfMonth := some day
          startDate
          endDate := none
          isActive := true
          updatedAt := now } }
  | none =>
    { db with
      schedules := db.schedules.insert {
        streamId
        accountId := some accountId
        label := some s!"{streamName} due"
        amount := 0
        frequency := .monthly
        dayOfMonth := some day
        startDate
        endDate := none
        isActive := true
        metadata := none
        updatedAt := now } }

/-- The view row of the default view. -/
def allStreamsView (now : String) : StreamView where
  name := "All Streams"
  description := some "Merged view across every active stream."
  isDefault := true
  isActive := true
  updatedAt := now

/-- The view that becomes the default: the first flagged one, else the oldest of that name. -/
def defaultViewCandidate (views : Table StreamView) : Option ℕ :=
  ((views.find? fun _ view => view.isDefault).or
    (views.find? fun _ view => view.name == "All Streams")).map Prod.fst

/-- Makes exactly one view the active default view. -/
def ensureDefaultViewOn (now : String) (db : Finance) : ℕ × Finance :=
  match defaultViewCandidate db.views with
  | some id =>
    let cleared := db.views.updateWhere (fun stored view => view.isDefault && stored != id)
      fun view => { view with isDefault := false }
    (id, { db with
      views := cleared.updateWhere (fun stored _ => stored == id) fun _ => allStreamsView now })
  | none => (db.views.next, { db with views := db.views.insert (allStreamsView now) })

/-- Refreshes the given streams one after the other. -/
def refreshStreams (now : String) (window : ProjectionWindow) :
    List ℕ → Finance → FinanceResult Finance
  | [], db => pure db
  | streamId :: rest, db => do
    let (_, db) ← refreshStreamScheduleEvents now streamId window db
    refreshStreams now window rest db

/-- What the bootstrap reports. -/
structure BootstrapResult where
  primaryAccountId : ℕ
  defaultViewId : ℕ
  streamIds : List ℕ

/-- Installs the default account, streams, schedules and view, and projects the next year. -/
def bootstrapDefaults (now : String) (today : IsoDate) (db : Finance) :
    FinanceResult (BootstrapResult × Finance) := do
  let (primaryAccountId, db) := ensurePrimaryAccountOn now db
  let (streamIds, db) := ensureSeedStreams now primaryAccountId streamSeeds db
  checkDate today.firstOfMonth
  let db := scheduleSeeds.foldl (fun db seed =>
    ensureSeedMonthlyScheduleOn now (streamIds.getD seed.1 0)
      ((streamSeeds.map (·.name)).getD seed.1 "") seed.2 today.firstOfMonth primaryAccountId db) db
  let (defaultViewId, db) := ensureDefaultViewOn now db
  let active := db.streams.rows.filter (·.2.isActive)
  let db := { db with
    viewStreams := db.viewStreams ∪ (active.map fun entry => (defaultViewId, entry.1)).toFinset }
  let through ← (today.addDays 365).mapError .date
  let window ← required (ProjectionWindow.new today through)
    (.storage "projection window ends before it starts")
  let db ← refreshStreams now window streamIds db
  pure (⟨primaryAccountId, defaultViewId, streamIds⟩, db)

end FinStream
