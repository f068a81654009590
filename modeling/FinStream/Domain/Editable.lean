import FinStream.Domain.References
import FinStream.Domain.StreamUpdate
import FinStream.Finance.Occurrences

/-! Requests that only repeat a name, which every listed entity is to accept. -/

namespace FinStream

open Store

/-! ### The updates -/

/-- A request that repeats the name of an account. -/
def AccountRequest.repeating (name : String) : AccountRequest where
  name
  kind := none
  balance := .missing
  isPrimary := none
  notes := .missing

/-- A request that repeats the name of a stream. -/
def StreamRequest.repeating (name : String) : StreamRequest where
  name
  kind := none
  amountCertainty := none
  description := .missing
  defaultAccountId := .missing
  scheduleId := none
  scheduleAmount := .missing
  scheduleFrequency := .missing
  dueDay := .missing
  startDate := .missing
  endDate := .missing
  schedules := .missing

/-- A request that repeats the name of a view. -/
def ViewRequest.repeating (name : String) : ViewRequest where
  name
  description := .missing
  streamIds := none
  isDefault := none

/-- An account as its update lists it. -/
def listedAccount (db : Finance) (id : ℕ) : Option Account :=
  (db.accounts.get? id).filter (·.isActive)

/-- An account update with no other writer between its read and its write. -/
def updateAccount (now : String) (today : IsoDate) (id : ℕ) (request : AccountRequest)
    (db : Finance) : FinanceResult (ℕ × Finance) := do
  let existing ← required (listedAccount db id) (.notFound "Account not found.")
  saveAccount now (request.draft (some id) today (some existing)) db

/-- A view as its update lists it, with the active streams that are its members. -/
def listedView (db : Finance) (id : ℕ) : Option ViewEditor :=
  ((db.views.get? id).filter (·.isActive)).map fun view =>
    ⟨view, ((db.streams.rows.filter (·.2.isActive)).map Prod.fst).filter
      fun streamId => (id, streamId) ∈ db.viewStreams⟩

/-- A view update with no other writer between its reads and its write. -/
def updateView (now : String) (id : ℕ) (request : ViewRequest) (db : Finance) :
    FinanceResult (ℕ × Finance) := do
  let existing ← required (listedView db id) (.notFound "View not found.")
  saveView now (request.draft (some id) (some existing)) db

/-! ### Acceptance -/

/-- Whether the days that are projected from a day on end before the last year of the calendar. -/
def YearAhead (today : IsoDate) : Prop :=
  ∃ through, today.addDays projectionDays = .ok through ∧ through.year < 9999

/-- A request is accepted; only the calendar may refuse it, and only when time runs out. -/
def Accepted {α : Type} (inTime : Prop) (outcome : FinanceResult α) : Prop :=
  (∃ value, outcome = .ok value) ∨ ¬inTime ∧ ∃ error, outcome = .error (.date error)

/-- Every account, stream and view that is listed accepts its own name. -/
structure Finance.Editable (platform : Platform) (db : Finance) : Prop where
  accounts : ∀ id account, listedAccount db id = some account → ∀ now today,
    ∃ result, updateAccount now today id (.repeating account.name) db = .ok result
  streams : ∀ id config, listedStream db id = some config → ∀ now today,
    Accepted (YearAhead today)
      (updateStream platform now today id (.repeating config.stream.name) db)
  views : ∀ id editor, listedView db id = some editor → ∀ now,
    ∃ result, updateView now id (.repeating editor.view.name) db = .ok result

/-- A computation whose parts are accepted is accepted. -/
theorem Accepted.bind {α β : Type} {inTime : Prop} {first : FinanceResult α}
    {rest : α → FinanceResult β} (accepted : Accepted inTime first)
    (others : ∀ value, first = .ok value → Accepted inTime (rest value)) :
    Accepted inTime (first >>= rest) := by
  rcases accepted with ⟨value, rfl⟩ | ⟨late, error, rfl⟩
  · exact others value rfl
  · exact Or.inr ⟨late, error, rfl⟩

/-- A computation that cannot fail is accepted. -/
theorem Accepted.of_ok {α : Type} {inTime : Prop} {outcome : FinanceResult α} {value : α}
    (done : outcome = .ok value) : Accepted inTime outcome := Or.inl ⟨value, done⟩

/-- A date computation is accepted unless it fails. -/
theorem mapError_outcome {α : Type} (outcome : Except DateError α) :
    (∃ value, outcome.mapError FinanceError.date = .ok value) ∨
      ∃ error, outcome.mapError FinanceError.date = .error (.date error) := by
  cases outcome with
  | ok value => exact Or.inl ⟨value, rfl⟩
  | error error => exact Or.inr ⟨error, rfl⟩

/-! ### Projections -/

/-- Occurrences are found, or a date computation fails. -/
theorem scheduleOccurrences_outcome {frequency : ScheduleFrequency}
    {anchor from_ through : IsoDate} {dayOfMonth : Option ℕ}
    (given : frequency = .monthly → dayOfMonth.isSome = true) :
    (∃ dates, scheduleOccurrences frequency anchor from_ through dayOfMonth = .ok dates) ∨
      ∃ error, scheduleOccurrences frequency anchor from_ through dayOfMonth =
        .error (.date error) := by
  unfold scheduleOccurrences
  split
  · exact Or.inl ⟨[], rfl⟩
  · cases frequency with
    | monthly =>
      obtain ⟨day, there⟩ := Option.isSome_iff_exists.mp (given rfl)
      rw [there]
      exact mapError_outcome _
    | semimonthly | weekly | biweekly | annual => exact mapError_outcome _
    | oneTime => exact Or.inl ⟨_, rfl⟩

/-- The occurrences of a schedule in a window that ends before the last year are found. -/
theorem occurrencesIn_accepted {schedule : StreamSchedule} (window : ProjectionWindow)
    (given : schedule.frequency = .monthly → schedule.dayOfMonth.isSome = true) :
    Accepted (window.through.year < 9999) (occurrencesIn schedule window) := by
  unfold occurrencesIn
  cases range : scheduleRange schedule window with
  | none => exact .of_ok rfl
  | some ends =>
    obtain ⟨start, finish⟩ := ends
    dsimp only
    simp only [scheduleRange] at range
    split at range
    · cases range
    · rename_i open_
      obtain ⟨rfl, rfl⟩ := Prod.mk.inj (Option.some.inj range)
      by_cases inTime : window.through.year < 9999
      · -- The range ends with the window at the latest.
        have years := year_mono (min_le_right (schedule.endDate.getD window.through) window.through)
        have ends : EndsInTime (min (schedule.endDate.getD window.through) window.through) := by
          simp only [EndsInTime, lastMonthIndex, IsoDate.year] at *
          omega
        have found : MeetsSpec schedule.frequency schedule.startDate _ _ schedule.dayOfMonth :=
          (scheduleOccurrences_meets (not_lt.mp open_) ends given).mpr fun last => by
            rw [last.2.2] at years
            omega
        obtain ⟨dates, found, -⟩ := found
        exact .of_ok found
      · exact (scheduleOccurrences_outcome given).imp id fun failed => ⟨inTime, failed⟩

/-- The schedules of a stream are projected. -/
theorem projectSchedules_accepted {now : String} {streamId : ℕ} {streamName : String}
    (window : ProjectionWindow) (pending : List (ℕ × StreamSchedule))
    (given : ∀ entry ∈ pending, entry.2.frequency = .monthly → entry.2.dayOfMonth.isSome = true)
    (events : Table StreamEvent) : Accepted (window.through.year < 9999)
      (projectSchedules now streamId streamName window pending events) := by
  induction pending generalizing events with
  | nil => exact .of_ok rfl
  | cons entry rest ih =>
    rw [projectSchedules]
    refine (occurrencesIn_accepted window (given entry List.mem_cons_self)).bind
      fun occurrences _ => ?_
    exact (ih (fun other member => given other (List.mem_cons_of_mem _ member)) _).bind
      fun _ _ => .of_ok rfl

/-- The projections of a stream are refreshed. -/
theorem refresh_accepted {now : String} {streamId : ℕ} {streamName : String}
    (window : ProjectionWindow) {db : Finance}
    (given : ∀ id schedule, (id, schedule) ∈ db.schedules → schedule.frequency = .monthly →
      schedule.dayOfMonth.isSome = true) : Accepted (window.through.year < 9999)
      (refreshStreamScheduleEventsOn now streamId streamName window db) := by
  refine (projectSchedules_accepted window _ (fun entry member => ?_) _).bind fun _ _ => .of_ok rfl
  exact given entry.1 entry.2 (mem_activeSchedules.mp member).1

/-- The window that is projected a year ahead. -/
theorem projectionWindow_accepted (today : IsoDate) :
    Accepted (YearAhead today) (projectionWindow today) ∧
      ∀ window, projectionWindow today = .ok window →
        (window.through.year < 9999 ↔ YearAhead today) := by
  cases moved : today.addDays projectionDays with
  -- The date a year ahead may lie outside the calendar.
  | error error =>
    have late : projectionWindow today = .error (.date error) := by
      rw [projectionWindow, moved]
      rfl
    refine ⟨Or.inr ⟨?_, error, late⟩, fun window done => ?_⟩
    · rintro ⟨through, ahead, -⟩
      rw [moved] at ahead
      cases ahead
    · rw [late] at done
      cases done
  | ok through =>
    -- A window that ends after it starts is never refused.
    have ordered : today ≤ through := by
      rw [IsoDate.le_def, (IsoDate.addDays_eq_ok.mp moved), projectionDays]
      omega
    have done : projectionWindow today = .ok ⟨today, through, ordered⟩ := by
      simp only [projectionWindow, bind_eq_ok, mapError_eq_ok, required_eq_ok]
      refine ⟨through, moved, ?_⟩
      rw [ProjectionWindow.new, dif_pos ordered]
    refine ⟨.of_ok done, fun window same => ?_⟩
    rw [done] at same
    obtain rfl := Except.ok.inj same
    refine ⟨fun early => ⟨through, moved, early⟩, ?_⟩
    rintro ⟨other, ahead, early⟩
    rw [moved] at ahead
    obtain rfl := Except.ok.inj ahead
    exact early

/-! ### Accounts and views -/

variable {platform : Platform} {now : String} {db : Finance} {id : ℕ}

/-- An account that is valid accepts its own name. -/
theorem updateAccount_accepted {account : Account} (valid : account.Valid)
    (listed : listedAccount db id = some account) (today : IsoDate) :
    ∃ result, updateAccount now today id (.repeating account.name) db = .ok result := by
  obtain ⟨found, active⟩ := Option.filter_eq_some_iff.mp listed
  let draft := (AccountRequest.repeating account.name).draft (some id) today (some account)
  have balance : draft.balance = account.balance.map F64.finite := rfl
  have dated : draft.balanceAsOfDate = account.balanceAsOfDate := rfl
  have primary : draft.isPrimary = account.isPrimary := rfl
  -- The values are those that are stored, and all of them pass.
  have together : validateOptionalBalance draft.balance draft.balanceAsOfDate = .ok ⟨⟩ := by
    simp only [validateOptionalBalance, bind_eq_ok, option_forM_eq_ok, ensure_eq_ok, beq_iff_eq,
      balance, dated, Option.isSome_map]
    refine ⟨⟨⟩, fun value given => ?_, valid.dated⟩
    obtain ⟨stored, -, rfl⟩ := Option.map_eq_some_iff.mp given
    rfl
  have bounded : draft.balance.all (fun balance => realFits balance.value) = true := by
    rw [balance, Option.all_map]
    exact valid.balance
  have dates : draft.balanceAsOfDate.forM checkDate = .ok ⟨⟩ := by
    rw [option_forM_eq_ok]
    intro date given
    simp only [checkDate, ensure_eq_ok]
    exact (Option.all_eq_true _ _).mp valid.date date given
  have keeps : refuseDemotion db draft = .ok ⟨⟩ := by
    cases leads : account.isPrimary with
    | true => simp [refuseDemotion, draft, AccountRequest.draft, AccountRequest.repeating, leads]
    | false =>
      simp only [refuseDemotion, draft, AccountRequest.draft, AccountRequest.repeating,
        Option.any_some, Option.getD_none, leads, Bool.false_eq_true, if_false, bind_eq_ok,
        required_eq_ok, ensure_eq_ok, Bool.not_eq_true']
      exact ⟨account, listed, leads⟩
  -- The account is active after the flag is taken from the others, too.
  let accounts := if draft.isPrimary then clearPrimary now draft.id db.accounts else db.accounts
  have there : ((accounts.get? id).any (·.isActive)) = true := by
    simp only [accounts]
    rw [Option.any_eq_true]
    split
    · obtain ⟨row, stored, held⟩ := (clearPrimary_stand now draft.id db.accounts).active id
        ⟨account, Table.get?_eq_some.mp found, active⟩
      exact ⟨row, Table.get?_eq_some.mpr stored, held⟩
    · exact ⟨account, found, active⟩
  have done : saveAccount now draft db = .ok (id, { db with
      accounts := accounts.updateWhere (fun stored account => stored == id && account.isActive)
        fun account => account.replacedBy now draft }) := by
    simp only [saveAccount, validateNonempty, bind_eq_ok, ensure_eq_ok, Bool.not_eq_true',
      together, keeps, bounded, dates]
    refine ⟨⟨⟩, valid.name, ⟨⟩, valid.kind, ⟨⟩, trivial, ⟨⟩, trivial, ⟨⟩, trivial, ⟨⟩, trivial, ?_⟩
    exact bind_eq_ok.mpr ⟨⟨⟩, ensure_eq_ok.mpr there, rfl⟩
  exact ⟨_, bind_eq_ok.mpr ⟨account, required_eq_ok.mpr listed, done⟩⟩

/-- A view with a name accepts it. -/
theorem updateView_accepted {editor : ViewEditor} (valid : editor.view.Valid)
    (listed : listedView db id = some editor) :
    ∃ result, updateView now id (.repeating editor.view.name) db = .ok result := by
  obtain ⟨view, found, rfl⟩ := Option.map_eq_some_iff.mp listed
  obtain ⟨found, active⟩ := Option.filter_eq_some_iff.mp found
  let members := ((db.streams.rows.filter (·.2.isActive)).map Prod.fst).filter
    fun streamId => (id, streamId) ∈ db.viewStreams
  let draft := (ViewRequest.repeating view.name).draft (some id) (some ⟨view, members⟩)
  -- The members are listed from the active streams, each of them once.
  have accepted : draft.Accepted db := by
    refine ⟨valid, ?_, fun streamId member => ?_⟩
    · refine List.Nodup.filter _ (List.Nodup.sublist (List.filter_sublist.map _) ?_)
      exact db.streams.ascending.imp fun below => Nat.ne_of_lt below
    · obtain ⟨⟨at_, stream⟩, kept, rfl⟩ := List.mem_map.mp (List.mem_filter.mp member).1
      obtain ⟨stored, held⟩ := List.mem_filter.mp kept
      exact ⟨stream, stored, held⟩
  let views := if draft.isDefault then clearDefault now draft.id db.views else db.views
  have there : ((views.get? id).any (·.isActive)) = true := by
    simp only [views]
    rw [Option.any_eq_true]
    split
    · obtain ⟨row, stored, held⟩ : (clearDefault now draft.id db.views).Holder
          StreamView.isActive id := Table.holder_updateWhere_of (fun _ _ _ _ same => same)
            ⟨view, Table.get?_eq_some.mp found, active⟩
      exact ⟨row, Table.get?_eq_some.mpr stored, held⟩
    · exact ⟨view, found, active⟩
  have row : saveViewRow now draft views = .ok (id, views.updateWhere
      (fun stored view => stored == id && view.isActive) fun _ => draft.row now) :=
    bind_eq_ok.mpr ⟨⟨⟩, ensure_eq_ok.mpr there, rfl⟩
  exact ⟨_, bind_eq_ok.mpr ⟨_, required_eq_ok.mpr listed,
    saveView_eq_ok.mpr ⟨accepted, _, row, rfl⟩⟩⟩

/-! ### Streams -/

/-- The checks on a schedule pass for what is stored. -/
theorem scheduleFromView_checked {entry : ℕ × StreamSchedule} (valid : entry.2.Valid platform) :
    validateScheduleDraft platform (scheduleFromView entry) = .ok ⟨⟩ := by
  refine validateScheduleDraft_eq_ok.mpr ⟨rfl, ?_, valid.metadata, valid.given, valid.day,
    valid.ordered⟩
  have amount := valid.amount
  simp only [magnitudeFits, Bool.and_eq_true, decide_eq_true_eq] at amount
  exact amount.1

/-- A stored schedule is saved over itself. -/
theorem saveScheduleOn_repeated {streamId : ℕ} {entry : ℕ × StreamSchedule}
    (valid : entry.2.Valid platform)
    (stored : ∃ row, (entry.1, row) ∈ db.schedules ∧ row.streamId = streamId) :
    saveScheduleOn now streamId (scheduleFromView entry) db = .ok (entry.1, { db with
      schedules := db.schedules.updateWhere
        (fun stored row => stored == entry.1 && row.streamId == streamId)
        fun _ => (scheduleFromView entry).row now streamId }) := by
  have own : ((db.schedules.get? entry.1).any (·.streamId == streamId)) = true := by
    obtain ⟨row, there, same⟩ := stored
    exact (Option.any_eq_true _ _).mpr ⟨row, Table.get?_eq_some.mpr there, beq_iff_eq.mpr same⟩
  have ends : (scheduleFromView entry).endDate.forM checkDate = .ok ⟨⟩ := by
    rw [option_forM_eq_ok]
    intro date given
    simp only [checkDate, ensure_eq_ok]
    exact (Option.all_eq_true _ _).mp valid.ends date given
  simp only [saveScheduleOn, checkMagnitude, checkDate, bind_eq_ok, ensure_eq_ok,
    decide_eq_true_eq]
  exact ⟨⟨⟩, valid.amount, ⟨⟩, valid.start, ⟨⟩, ends,
    bind_eq_ok.mpr ⟨⟨⟩, ensure_eq_ok.mpr own, rfl⟩⟩

/-- Stored schedules of one stream are saved over themselves. -/
theorem saveSchedules_repeated {streamId : ℕ} (pending : List (ℕ × StreamSchedule))
    (distinct : (pending.map Prod.fst).Nodup) {retained : List ℕ}
    (apart : ∀ entry ∈ pending, entry.1 ∉ retained)
    (valid : ∀ entry ∈ pending, entry.2.Valid platform)
    (stored : ∀ entry ∈ pending, ∃ row, (entry.1, row) ∈ db.schedules ∧ row.streamId = streamId) :
    ∃ result, saveSchedules now streamId (pending.map scheduleFromView) retained db =
      .ok result := by
  induction pending generalizing retained db with
  | nil => exact ⟨_, rfl⟩
  | cons entry rest ih =>
    obtain ⟨fresh, distinct⟩ := List.nodup_cons.mp distinct
    let after : Finance := { db with
      schedules := db.schedules.updateWhere
        (fun stored row => stored == entry.1 && row.streamId == streamId)
        fun _ => (scheduleFromView entry).row now streamId }
    have one : saveScheduleOn now streamId (scheduleFromView entry) db = .ok (entry.1, after) :=
      saveScheduleOn_repeated (valid entry List.mem_cons_self) (stored entry List.mem_cons_self)
    -- The schedules behind it are still those of the stream.
    have remaining : ∀ other ∈ rest,
        ∃ row, (other.1, row) ∈ after.schedules ∧ row.streamId = streamId := by
      intro other member
      obtain ⟨row, there, same⟩ := stored other (List.mem_cons_of_mem _ member)
      refine ⟨_, Table.mem_updateWhere.mpr ⟨row, there, rfl⟩, ?_⟩
      split
      · rfl
      · exact same
    have behind : ∀ other ∈ rest, other.1 ∉ entry.1 :: retained := by
      intro other member
      refine List.not_mem_cons_of_ne_of_not_mem (fun same => fresh ?_)
        (apart other (List.mem_cons_of_mem _ member))
      exact same ▸ List.mem_map_of_mem member
    obtain ⟨result, others⟩ := ih distinct behind
      (fun other member => valid other (List.mem_cons_of_mem _ member)) remaining
    refine ⟨result, ?_⟩
    have new : (!retained.contains entry.1) = true := by
      simpa using apart entry List.mem_cons_self
    simp only [List.map_cons, saveSchedules, bind_eq_ok, ensure_eq_ok]
    exact ⟨_, one, ⟨⟩, new, others⟩

/-- A stream whose rows can be saved is saved. -/
theorem saveStream_accepted {draft : StreamDraft} {window : ProjectionWindow}
    {saved : ℕ × Finance} {second : List ℕ × Finance}
    (checked : validateStreamDraft platform draft = .ok ⟨⟩)
    (references : requireReferences db draft = .ok ⟨⟩)
    (row : saveStreamRow now draft db = .ok saved)
    (saves : saveSchedules now saved.1 draft.schedules [] saved.2 = .ok second)
    (given : ∀ id schedule, (id, schedule) ∈ (attachToDefaultView saved.1
      (deactivateMissing now saved.1 second.1 second.2)).schedules →
        schedule.frequency = .monthly → schedule.dayOfMonth.isSome = true) :
    Accepted (window.through.year < 9999) (saveStream platform now draft window db) := by
  refine (Accepted.of_ok checked).bind fun _ _ => (Accepted.of_ok references).bind fun _ _ => ?_
  refine (Accepted.of_ok row).bind fun _ same => ?_
  obtain rfl := Except.ok.inj (row.symm.trans same)
  refine (Accepted.of_ok saves).bind fun _ same => ?_
  obtain rfl := Except.ok.inj (saves.symm.trans same)
  exact (refresh_accepted window given).bind fun _ _ => .of_ok rfl

/-- The draft that repeats a listed stream. -/
def StreamConfig.repeated (id : ℕ) (config : StreamConfig) : StreamDraft where
  id := some id
  name := config.stream.name
  streamType := config.stream.streamType
  kind := config.stream.kind
  direction := config.stream.direction
  amountCertainty := config.stream.amountCertainty
  description := config.stream.description
  defaultAccountId := config.stream.defaultAccountId
  configuration := config.stream.configuration
  parentId := config.stream.parentId
  schedules := config.schedules.map scheduleFromView

/-- A request that repeats a name is merged into the draft that repeats everything. -/
theorem buildStreamDraft_repeating (id : ℕ) (config : StreamConfig) (today : IsoDate) :
    buildStreamDraft (some id) (.repeating config.stream.name) (some config) today =
      .ok (config.repeated id) := by
  have same : (some config).filter (·.stream.kind == config.stream.kind) = some config := by
    simp [Option.filter]
  simp only [buildStreamDraft, bind_eq_ok, pure_eq_ok, typeAndDirection, StreamRequest.kindOver,
    StreamRequest.repeating, Option.map_some, Option.getD_some, same, StreamRequest.certaintyOver,
    StreamRequest.schedulesOver, flattenedSchedules, StreamRequest.isFlattened, WireField.isNamed,
    WireField.merged, Option.bind_some]
  exact ⟨_, rfl, _, rfl, _, rfl, rfl⟩

/-- A listed stream whose references are good accepts its own name. -/
theorem updateStream_accepted {config : StreamConfig} (valid : db.Valid platform)
    (attached : db.Attached) (listed : listedStream db id = some config) (today : IsoDate) :
    Accepted (YearAhead today)
      (updateStream platform now today id (.repeating config.stream.name) db) := by
  obtain ⟨stream, found, rfl⟩ := Option.map_eq_some_iff.mp listed
  obtain ⟨stored, active⟩ := Option.filter_eq_some_iff.mp found
  have there := Table.get?_eq_some.mp stored
  have rows : ∀ entry ∈ activeSchedules db id, entry.2.Valid platform := fun entry member =>
    valid.schedules entry.1 entry.2 (mem_activeSchedules.mp member).1
  -- Everything that is written back was valid, and refers to what is active.
  let draft := StreamConfig.repeated id ⟨stream, activeSchedules db id⟩
  have was := valid.streams id stream there
  have row : (draft.row now).Valid platform :=
    ⟨(isBlank_trim _).trans was.name, (isBlank_trim _).trans was.streamType,
      (isBlank_trim _).trans was.kind, was.configuration⟩
  have scheduled : ∀ schedule ∈ draft.schedules,
      validateScheduleDraft platform schedule = .ok ⟨⟩ := by
    intro schedule member
    obtain ⟨entry, listed, rfl⟩ := List.mem_map.mp member
    exact scheduleFromView_checked (rows entry listed)
  have checked : validateStreamDraft platform draft = .ok ⟨⟩ :=
    (validateStreamDraft_eq_ok now).mpr ⟨row, scheduled⟩
  have paid : ∀ schedule ∈ draft.schedules, ∀ account ∈ schedule.accountId,
      db.hasAccount account := by
    intro schedule member account given
    obtain ⟨entry, listed, rfl⟩ := List.mem_map.mp member
    obtain ⟨kept, -, held⟩ := mem_activeSchedules.mp listed
    exact attached.schedules entry.1 entry.2 kept held account given
  have default : ∀ account ∈ draft.defaultAccountId, db.hasAccount account :=
    attached.defaults id stream there active
  have above : ∀ parent ∈ draft.parentId, db.hasStream parent :=
    attached.parents id stream there active
  have references : requireReferences db draft = .ok ⟨⟩ :=
    requireReferences_eq_ok.mpr ⟨default, above, paid⟩
  -- The row is replaced, and each active schedule is saved over itself.
  let first : Finance := { db with
    streams := db.streams.updateWhere (fun stored stream => stored == id && stream.isActive)
      fun _ => draft.row now }
  have present : ((db.streams.get? id).any (·.isActive)) = true :=
    (Option.any_eq_true _ _).mpr ⟨stream, stored, active⟩
  have replaced : saveStreamRow now draft db = .ok (id, first) :=
    bind_eq_ok.mpr ⟨⟨⟩, ensure_eq_ok.mpr present, rfl⟩
  obtain ⟨second, saves⟩ : ∃ second, saveSchedules now id draft.schedules [] first = .ok second :=
    saveSchedules_repeated (activeSchedules db id) activeSchedules_nodup
      (fun _ _ => List.not_mem_nil) rows fun entry member =>
        ⟨entry.2, (mem_activeSchedules.mp member).1, (mem_activeSchedules.mp member).2.1⟩
  have stand : PlansStand platform db.hasAccount db.hasStream first :=
    (saveStreamRow_stand (plansStand_iff.mpr ⟨valid.streams, valid.schedules, attached⟩) row default
      above replaced).1
  have last : PlansStand platform db.hasAccount db.hasStream (attachToDefaultView id
      (deactivateMissing now id second.1 second.2)) :=
    deactivateMissing_stand (saveSchedules_stand draft.schedules stand scheduled paid saves)
  -- What is left is the projection of a year ahead.
  refine (Accepted.of_ok (required_eq_ok.mpr listed)).bind fun _ same => ?_
  obtain rfl := Option.some.inj (listed.symm.trans (required_eq_ok.mp same))
  have built := buildStreamDraft_repeating id ⟨stream, activeSchedules db id⟩ today
  refine (Accepted.of_ok built).bind fun _ same => ?_
  obtain rfl := Except.ok.inj (built.symm.trans same)
  obtain ⟨ahead, ends⟩ := projectionWindow_accepted today
  refine ahead.bind fun window done => ?_
  rw [← ends window done]
  exact saveStream_accepted checked references replaced saves fun other schedule kept =>
    (last.schedules other schedule kept).1.given

/-- A stream whose parent is not active refuses its own name. -/
theorem updateStream_orphan {config : StreamConfig} {parent : ℕ}
    (listed : listedStream db id = some config) (given : config.stream.parentId = some parent)
    (gone : ¬db.hasStream parent) {today : IsoDate} (ahead : YearAhead today) :
    ¬Accepted (YearAhead today)
      (updateStream platform now today id (.repeating config.stream.name) db) := by
  rintro (⟨result, done⟩ | ⟨late, -⟩)
  · simp only [updateStream, bind_eq_ok, required_eq_ok, listed, Option.some.injEq] at done
    obtain ⟨_, rfl, draft, built, window, -, done⟩ := done
    obtain rfl := Except.ok.inj ((buildStreamDraft_repeating id config today).symm.trans built)
    simp only [saveStream, bind_eq_ok] at done
    obtain ⟨_, -, _, references, -⟩ := done
    exact gone ((requireReferences_eq_ok.mp references).2.1 parent given)
  · exact late ahead

/-! ### Runs -/

/-- The runs of finance operations from any database with valid rows. -/
def financeSystem (platform : Platform) : System Finance FinanceOp where
  init db := db.Valid platform
  step op before after := op.apply platform before = .ok after

/-- Rows that are valid and attached can all be edited. -/
theorem Finance.Attached.editable (attached : db.Attached) (valid : db.Valid platform) :
    db.Editable platform where
  accounts _ account listed _ today := by
    obtain ⟨found, -⟩ := Option.filter_eq_some_iff.mp listed
    exact updateAccount_accepted (valid.accounts _ account (Table.get?_eq_some.mp found)) listed
      today
  streams _ _ listed _ today := updateStream_accepted valid attached listed today
  views _ editor listed _ := by
    refine updateView_accepted ?_ listed
    obtain ⟨view, found, rfl⟩ := Option.map_eq_some_iff.mp listed
    obtain ⟨found, -⟩ := Option.filter_eq_some_iff.mp found
    exact valid.views _ view (Table.get?_eq_some.mp found)

/-- A deleted stream is not active, and every other one is as it was. -/
theorem deleteStream_spares {streamId : ℕ} {after : Finance}
    (done : deleteStream now streamId db = .ok after) : ¬after.hasStream streamId ∧
      ∀ id stream, (id, stream) ∈ db.streams → id ≠ streamId → (id, stream) ∈ after.streams := by
  simp only [deleteStream, bind_eq_ok, pure_eq_ok] at done
  obtain ⟨_, -, rfl⟩ := done
  constructor
  · intro held
    obtain ⟨row, -, held⟩ := Table.holder_updateWhere.mp held
    split at held
    · cases held
    · rename_i kept
      simp [held] at kept
  · intro id stream stored other
    refine Table.mem_updateWhere.mpr ⟨stream, stored, ?_⟩
    rw [if_neg (by simp [other])]

/-- A deletion leaves every listed entity editable exactly when it deletes no other one's parent. -/
theorem deleteStream_editable {streamId : ℕ} {after : Finance} {today : IsoDate}
    (ahead : YearAhead today) (valid : db.Valid platform) (attached : db.Attached)
    (done : (FinanceOp.deleteStream now streamId).apply platform db = .ok after) :
    after.Editable platform ↔ (FinanceOp.deleteStream now streamId).KeepsParents db := by
  constructor
  · intro editable child stream stored active given
    by_contra other
    -- The child is still listed, and its parent is not active any more.
    obtain ⟨gone, spared⟩ := deleteStream_spares done
    have there := Table.get?_eq_some.mpr (spared child stream stored other)
    have listed : listedStream after child = some ⟨stream, activeSchedules after child⟩ :=
      Option.map_eq_some_iff.mpr ⟨stream, Option.filter_eq_some_iff.mpr ⟨there, active⟩, rfl⟩
    exact updateStream_orphan listed given gone ahead (editable.streams child _ listed now today)
  · intro keeps
    obtain ⟨valid, attached⟩ := operation_attached valid attached keeps done
    exact attached.editable valid

/--
In a run that starts with valid rows whose references are good, and in which no operation leaves an
active stream with an inactive parent, every listed account, stream and view accepts its own name.
-/
theorem entities_editable {platform : Platform} {start db : Finance} {ops : List FinanceOp}
    (valid : start.Valid platform) (attached : start.Attached)
    (run : ((financeSystem platform).restrict fun db op => op.KeepsParents db).Run start ops db) :
    db.Editable platform := by
  have kept := run.preserves (.init valid) (fun db => db.Valid platform ∧ db.Attached)
    (fun _ => True) (fun op before after _ _ holds taken =>
      operation_attached holds.1 holds.2 taken.1 taken.2) (fun _ _ => trivial) ⟨valid, attached⟩
  exact kept.2.editable kept.1

/-- An empty database has nothing that could be wrong. -/
theorem empty_attached (platform : Platform) :
    Finance.empty.Valid platform ∧ Finance.empty.Attached := by
  have none_ : ∀ {α : Type} {property : ℕ → α → Prop} (id : ℕ) (row : α),
      (id, row) ∈ (Table.empty : Table α) → property id row :=
    fun _ _ stored => absurd stored (Table.not_mem_empty _)
  exact ⟨⟨none_, none_, none_, none_⟩, ⟨none_, none_, none_⟩⟩

/-- The tables that finance operations lead to one after the other, if none of them fails. -/
def financeAfter (ops : List FinanceOp) : Option Finance :=
  System.play (fun db op => (op.apply plainPlatform db).toOption) ops .empty

/-- Operations that do not fail are a run. -/
theorem financeAfter_run {ops : List FinanceOp} {db : Finance} (played : financeAfter ops = some db) :
    (financeSystem plainPlatform).Run .empty ops db :=
  System.play_run (fun _ _ _ done => toOption_eq_some.mp done) ops played

/-- A stream for the whole household, and the allowance below it. -/
def familyOps : List FinanceOp := [
  .saveStream "2026-01-05T08:00:00.000Z" { allowanceStream none [] with name := "Household" }
    twoWeeks,
  .saveStream "2026-01-05T09:00:00.000Z" { allowanceStream none [] with parentId := some 1 }
    twoWeeks]

/-- The allowance is deleted, the defaults are installed, and everything can be edited. -/
theorem entities_editable_household : ∃ db,
    financeAfter (familyOps ++ [.deleteStream "2026-01-06T08:00:00.000Z" 2,
      .bootstrapDefaults "2026-01-06T09:00:00.000Z" firstMonday]) = some db ∧
      db.Editable plainPlatform := by
  let ops := familyOps ++ [.deleteStream "2026-01-06T08:00:00.000Z" 2,
    .bootstrapDefaults "2026-01-06T09:00:00.000Z" firstMonday]
  let step := fun (db : Finance) (op : FinanceOp) =>
    if op.KeepsParents db then (op.apply plainPlatform db).toOption else none
  have played : (System.play step ops .empty).isSome = true ∧
      System.play step ops .empty = financeAfter ops := by decide +kernel
  obtain ⟨db, done⟩ := Option.isSome_iff_exists.mp played.1
  refine ⟨db, played.2.symm.trans done, ?_⟩
  have run : ((financeSystem plainPlatform).restrict fun db op => op.KeepsParents db).Run .empty
      ops db := by
    refine System.play_run (fun op before after taken => ?_) ops done
    simp only [step] at taken
    split at taken
    · exact ⟨‹_›, toOption_eq_some.mp taken⟩
    · cases taken
  exact entities_editable (empty_attached plainPlatform).1 (empty_attached plainPlatform).2 run

/-- The household is deleted, and the allowance below it refuses its own name. -/
theorem entities_orphaned : ∃ db,
    financeAfter (familyOps ++ [.deleteStream "2026-01-06T08:00:00.000Z" 1]) = some db ∧
      (financeSystem plainPlatform).Reachable db ∧
      updateStream plainPlatform "2026-01-07T08:00:00.000Z" firstMonday 2 (.repeating "Allowance")
        db = .error (.notFound "active stream 1") ∧
      ¬db.Editable plainPlatform := by
  have played : (financeAfter (familyOps ++ [.deleteStream "2026-01-06T08:00:00.000Z" 1])).isSome =
      true := by decide +kernel
  have refused : (financeAfter (familyOps ++ [.deleteStream "2026-01-06T08:00:00.000Z" 1])).all
      (fun db => updateStream plainPlatform "2026-01-07T08:00:00.000Z" firstMonday 2
        (.repeating "Allowance") db = .error (.notFound "active stream 1")) = true := by
    decide +kernel
  have listed : (financeAfter (familyOps ++ [.deleteStream "2026-01-06T08:00:00.000Z" 1])).all
      (fun db => (listedStream db 2).any (·.stream.name == "Allowance")) = true := by
    decide +kernel
  obtain ⟨db, done⟩ := Option.isSome_iff_exists.mp played
  rw [done] at refused listed
  have refused := of_decide_eq_true refused
  refine ⟨db, done, (financeAfter_run done).reachable (.init (empty_attached _).1), refused,
    fun editable => ?_⟩
  obtain ⟨config, listed, name⟩ := (Option.any_eq_true _ _).mp listed
  -- The refusal is no matter of the calendar.
  have accepted := editable.streams 2 config listed "2026-01-07T08:00:00.000Z" firstMonday
  rw [beq_iff_eq.mp name, refused] at accepted
  rcases accepted with ⟨_, accepted⟩ | ⟨-, _, late⟩
  · cases accepted
  · cases late

end FinStream
