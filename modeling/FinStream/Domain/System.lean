import FinStream.Integrations.Monarch
import FinStream.Integrations.TmoSync
import FinStream.Store.Transition

/-! The published data as a transition system, and the invariants of its reachable states. -/

namespace FinStream

open Store

/-- The write transactions on the published data. -/
inductive DomainOp where
  | finance (op : FinanceOp)
  | tmoSync (capture : TmoSyncCapture)
  | tmoError (connectionId : ℕ) (publicMessage updatedAt : String)
  | monarchBalance (connectionId : ℕ) (asOfDate : IsoDate) (capture : MonarchBalanceCapture)
      (persistedAt : String)
  | monarchError (connectionId : ℕ) (message updatedAt : String)

/-- The state a transaction commits; a failed one commits nothing. -/
def DomainOp.commit (platform : Platform) (db : Domain) : DomainOp → Option Domain
  | .finance op => (op.apply platform db.finance).toOption.map fun finance =>
      cascadeLinks { db with finance }
  | .tmoSync capture => (applyTmoSync platform capture db).toOption.map Prod.snd
  | .tmoError connectionId publicMessage updatedAt =>
    (markTmoError platform connectionId publicMessage updatedAt db).toOption
  | .monarchBalance connectionId asOfDate capture persistedAt =>
    (applyMonarchBalance platform connectionId asOfDate capture persistedAt db).toOption
  | .monarchError connectionId message updatedAt =>
    (markMonarchError platform connectionId message updatedAt db).toOption

/-- A fresh schema in which an operator has registered the integration connections. -/
structure Domain.Fresh (db : Domain) : Prop where
  /-- Nothing has been planned yet. -/
  finance : db.finance = .empty
  /-- Slugs are unique. -/
  connections : UniqueKey (fun connection => some connection.slug) db.integrations.connections
  /-- Nothing has been imported yet. -/
  imported : db.integrations = {
    connections := db.integrations.connections
    tmoAccount := none
    overviews := .empty
    snapshots := .empty
    loans := .empty
    payments := .empty
    links := []
    settings := .empty }

/-- Every order in which the transactions can commit. -/
def domainSystem (platform : Platform) : System Domain DomainOp where
  init := Domain.Fresh
  step op before after := op.commit platform before = some after

/-- The state a sequence of transactions commits when none of them fails. -/
def commitAll (platform : Platform) : List DomainOp → Domain → Option Domain
  | [], db => some db
  | op :: rest, db => (op.commit platform db).bind (commitAll platform rest)

/-- Committing transactions one after the other is a run of the system. -/
theorem commitAll_run {platform : Platform} (ops : List DomainOp) {before after : Domain}
    (done : commitAll platform ops before = some after) :
    (domainSystem platform).Run before ops after := by
  induction ops generalizing before with
  | nil =>
    obtain rfl : before = after := by simpa [commitAll] using done
    exact .nil before
  | cons op rest ih =>
    obtain ⟨middle, first, others⟩ := Option.bind_eq_some_iff.mp done
    exact .cons first (ih others)

/-- What transactions commit from a reachable state is reachable. -/
theorem commitAll_reachable {platform : Platform} {ops : List DomainOp} {before after : Domain}
    (reached : (domainSystem platform).Reachable before)
    (done : commitAll platform ops before = some after) :
    (domainSystem platform).Reachable after := (commitAll_run ops done).reachable reached

/-- The state a sequence of transactions leads to, or the state before it if one of them fails. -/
def replay (platform : Platform) (ops : List DomainOp) (db : Domain) : Domain :=
  (commitAll platform ops db).getD db

/-- Transactions that do not fail commit the state they are replayed to. -/
theorem commitAll_replay {platform : Platform} {ops : List DomainOp} {db : Domain}
    (committed : (commitAll platform ops db).isSome = true) :
    commitAll platform ops db = some (replay platform ops db) := by
  obtain ⟨after, done⟩ := Option.isSome_iff_exists.mp committed
  simp [replay, done]

/-- A fresh schema in which the TMO connection is registered. -/
def Domain.registered : Domain where
  finance := .empty
  integrations := {
    connections := Table.empty.insert {
      slug := "tmo"
      name := "The Mortgage Office"
      provider := "tmo"
      status := "active"
      syncCadence := "daily"
      lastSyncedAt := none
      lastError := none
      metadata := none
      nextScheduledAt := none
      updatedAt := "2026-01-01T00:00:00Z" }
    tmoAccount := none
    overviews := .empty
    snapshots := .empty
    loans := .empty
    payments := .empty
    links := []
    settings := .empty }

/-- A draft of a schedule that pays 100 a week from the given date on. -/
def weeklySchedule (id : Option ℕ) (startDate : IsoDate) : ScheduleDraft where
  id
  accountId := none
  label := some "Allowance"
  amount := .finite 100
  frequency := .weekly
  dayOfMonth := none
  startDate
  endDate := none
  metadata := none

/-- A draft of a stream with the given schedules. -/
def allowanceStream (id : Option ℕ) (schedules : List ScheduleDraft) : StreamDraft where
  id
  name := "Allowance"
  streamType := "manual_expense"
  kind := "allowance"
  direction := .out
  amountCertainty := .known
  description := none
  defaultAccountId := none
  configuration := none
  parentId := none
  schedules

/-- The fifth of January 2026, a Monday. -/
def firstMonday : IsoDate := ⟨739986, by decide⟩

/-- The Monday after it. -/
def secondMonday : IsoDate := ⟨739993, by decide⟩

/-- The two weeks that start on the first Monday. -/
def twoWeeks : ProjectionWindow := ⟨firstMonday, ⟨739999, by decide⟩, by decide⟩

/-- Registering the TMO connection leaves the schema fresh. -/
theorem Domain.registered_fresh : Domain.registered.Fresh where
  finance := rfl
  connections :=
    (UniqueKey.empty _).insert fun _ _ _ stored => absurd stored (Table.not_mem_empty _)
  imported := rfl

/-- Transactions replayed on the registered schema lead to a reachable state. -/
theorem replay_reachable {platform : Platform} {ops : List DomainOp}
    (committed : (commitAll platform ops .registered).isSome = true) :
    (domainSystem platform).Reachable (replay platform ops .registered) :=
  commitAll_reachable (.init Domain.registered_fresh) (commitAll_replay committed)

/-- What each transaction may do to event rows. -/
def DomainOp.eventRules (schedules : Table StreamSchedule) : DomainOp → Rules StreamEvent
  | .finance op => op.eventRules schedules
  | .tmoSync _ => syncRules
  | _ => {
      create := fun _ => False
      change := fun _ _ _ => False
      remove := fun _ _ => False }

/-- What a committed transaction does to events, schedules, keys and links. -/
structure Committed (op : DomainOp) (before after : Domain) : Prop where
  /-- Keys and links stay in order. -/
  consistent : after.Consistent
  /-- Events change by the transaction's rules. -/
  events : Evolves (op.eventRules after.finance.schedules) before.finance.events
    after.finance.events
  /-- Schedules change by their rules. -/
  schedules : Evolves scheduleRules before.finance.schedules after.finance.schedules

/-- No transaction changes the origin of a stored event. -/
theorem domainRules_origin (op : DomainOp) (schedules : Table StreamSchedule) {id : ℕ}
    {before after : StreamEvent} (changed : (op.eventRules schedules).change id before after) :
    after.origin = before.origin := by
  cases op with
  | finance op => exact eventRules_origin op schedules changed
  | tmoSync capture =>
    obtain ⟨-, fresh, rfl⟩ := changed
    rfl
  | tmoError | monarchBalance | monarchError => exact changed.elim

/-- A finance transaction keeps keys and links in order. -/
theorem finance_committed {platform : Platform} {op : FinanceOp} {before : Domain}
    {finance : Finance} (consistent : before.Consistent)
    (done : op.apply platform before.finance = .ok finance) :
    Committed (.finance op) before (cascadeLinks { before with finance }) := by
  obtain ⟨writes, schedules⟩ := operation_writes done
  refine ⟨⟨writes.unique consistent.eventKeys, consistent.paymentKeys, ?_, ?_⟩, writes.evolves,
    schedules⟩
  · intro paymentId left right leftLinked rightLinked
    exact consistent.functional paymentId left right (linked_cascadeLinks.mp leftLinked).1
      (linked_cascadeLinks.mp rightLinked).1
  · -- An event that is still stored has the key it had when it was linked.
    intro paymentId eventId linked
    obtain ⟨linked, ⟨row, payment⟩, event, stored⟩ := linked_cascadeLinks.mp linked
    obtain ⟨_, old, payment', stored', type, source⟩ := consistent.sound paymentId eventId linked
    obtain rfl := Table.unique payment payment'
    have key : event.key = some (old.streamId, .tmoHistory, .history row.externalId) := by
      rw [writes.evolves.column_eq (fun _ _ => eventRules_fixes op _ _ _ _) stored' stored]
      exact StreamEvent.key_eq_some.mpr ⟨rfl, type, source⟩
    obtain ⟨-, type, source⟩ := StreamEvent.key_eq_some.mp key
    exact ⟨row, event, payment, stored, type, source⟩

/-- A Monarch refresh touches accounts, settings and connections only. -/
theorem applyMonarchBalance_frame {platform : Platform} {connectionId : ℕ} {asOfDate : IsoDate}
    {capture : MonarchBalanceCapture} {persistedAt : String} {before after : Domain}
    (done : applyMonarchBalance platform connectionId asOfDate capture persistedAt before
      = .ok after) :
    after = {
      finance := { before.finance with accounts := after.finance.accounts }
      integrations := { before.integrations with
        settings := after.integrations.settings
        connections := after.integrations.connections } } := by
  simp only [applyMonarchBalance, bind_eq_ok, pure_eq_ok] at done
  obtain ⟨_, -, _, -, _, -, _, -, _, -, _, -, rfl⟩ := done
  rw [ensurePrimaryAccountOn_frame]

/-- Marking a TMO connection touches connections only. -/
theorem markTmoError_frame {platform : Platform} {connectionId : ℕ} {message now : String}
    {before after : Domain}
    (marked : markTmoError platform connectionId message now before = .ok after) :
    after = { before with integrations := { before.integrations with
      connections := after.integrations.connections } } := by
  simp only [markTmoError, bind_eq_ok, pure_eq_ok] at marked
  obtain ⟨_, -, _, -, rfl⟩ := marked
  rfl

/-- Marking a Monarch connection touches connections only. -/
theorem markMonarchError_frame {platform : Platform} {connectionId : ℕ} {message now : String}
    {before after : Domain}
    (marked : markMonarchError platform connectionId message now before = .ok after) :
    after = { before with integrations := { before.integrations with
      connections := after.integrations.connections } } := by
  simp only [markMonarchError, bind_eq_ok, pure_eq_ok] at marked
  obtain ⟨_, -, _, -, rfl⟩ := marked
  rfl

/-- Every transaction from a consistent state commits what its rules allow. -/
theorem DomainOp.commit_committed {platform : Platform} {op : DomainOp} {before after : Domain}
    (consistent : before.Consistent) (done : op.commit platform before = some after) :
    Committed op before after := by
  -- The planner and the sync have their own specifications; the others write no event.
  cases op with
  | finance op =>
    obtain ⟨finance, applied, rfl⟩ := Option.map_eq_some_iff.mp done
    exact finance_committed consistent (toOption_eq_some.mp applied)
  | tmoSync capture =>
    obtain ⟨result, applied, rfl⟩ := Option.map_eq_some_iff.mp done
    obtain ⟨streamId, entries, -, -, -, -, replaced⟩ :=
      applyTmoSync_replaced consistent (toOption_eq_some.mp applied)
    have schedules : result.2.finance.schedules = before.finance.schedules := by
      rw [replaced.finance]
    exact ⟨replaced.consistent, replaced.evolves, by rw [schedules]; exact .refl _ _⟩
  | tmoError connectionId publicMessage updatedAt =>
    rw [markTmoError_frame (toOption_eq_some.mp done)]
    exact ⟨consistent.congr rfl rfl rfl, .refl _ _, .refl _ _⟩
  | monarchBalance connectionId asOfDate capture persistedAt =>
    rw [applyMonarchBalance_frame (toOption_eq_some.mp done)]
    exact ⟨consistent.congr rfl rfl rfl, .refl _ _, .refl _ _⟩
  | monarchError connectionId message updatedAt =>
    rw [markMonarchError_frame (toOption_eq_some.mp done)]
    exact ⟨consistent.congr rfl rfl rfl, .refl _ _, .refl _ _⟩

/-- A fresh schema is consistent. -/
theorem Domain.Fresh.consistent {db : Domain} (fresh : db.Fresh) : db.Consistent := by
  have links : db.integrations.links = [] := by rw [fresh.imported]
  have payments : db.integrations.payments = .empty := by rw [fresh.imported]
  have events : db.finance.events = .empty := by
    rw [fresh.finance]
    rfl
  refine ⟨events ▸ UniqueKey.empty _, payments ▸ UniqueKey.empty _, ?_, ?_⟩
  · rintro _ _ _ ⟨link, stored, -⟩
    simp [links] at stored
  · rintro _ _ ⟨link, stored, -⟩
    simp [links] at stored

variable {platform : Platform}

/-- Every reachable state is consistent. -/
theorem reachable_consistent {db : Domain} (reached : (domainSystem platform).Reachable db) :
    db.Consistent :=
  reached.invariant Domain.Consistent (fun _ fresh => Domain.Fresh.consistent fresh)
    fun _ _ _ _ consistent done => (DomainOp.commit_committed consistent done).consistent

/-- Whether an event claims to be a projection, by its source type or by its source id. -/
def StreamEvent.IsProjected (event : StreamEvent) : Prop :=
  event.sourceType = some .streamSchedule ∨
    ∃ scheduleId slot, event.sourceId = some (.streamSchedule scheduleId slot)

/-- Whether an event that claims to be a projection belongs to a schedule of its stream. -/
def OnSchedule (schedules : Table StreamSchedule) (event : StreamEvent) : Prop :=
  event.IsProjected → event.sourceType = some .streamSchedule ∧
    ∃ scheduleId slot schedule, event.sourceId = some (.streamSchedule scheduleId slot) ∧
      (scheduleId, schedule) ∈ schedules ∧ schedule.streamId = event.streamId

/-- Every projected event belongs to a slot of a stored schedule of its own stream. -/
def Finance.Scheduled (db : Finance) : Prop :=
  ∀ id event, (id, event) ∈ db.events → OnSchedule db.schedules event

/-- Statements that leave origins alone keep events with their schedules if they create such. -/
theorem Finance.Scheduled.evolves {before after : Finance} {rules : Rules StreamEvent}
    (scheduled : before.Scheduled) (events : Evolves rules before.events after.events)
    (schedules : Evolves scheduleRules before.schedules after.schedules)
    (fixes : ∀ id row now, rules.change id row now → now.origin = row.origin)
    (creates : ∀ row, rules.create row → OnSchedule after.schedules row) : after.Scheduled := by
  -- What is claimed of an event depends on its origin alone.
  refine events.forall_rows (fun _ => OnSchedule after.schedules) (fun _ => creates) ?_ ?_
  · intro id row now holds changed
    have origin := fixes id row now changed
    simp only [StreamEvent.origin, Prod.mk.injEq] at origin
    simpa only [OnSchedule, StreamEvent.IsProjected, origin] using holds
  · intro id event stored claimed
    obtain ⟨type, scheduleId, slot, schedule, source, there, stream⟩ :=
      scheduled id event stored claimed
    obtain ⟨now, there, same⟩ := schedules.survives
      (fun schedule => schedule.streamId = event.streamId)
      (fun _ _ holds changed => changed.trans holds) (fun _ _ removed => removed) there stream
    exact ⟨type, scheduleId, slot, now, source, there, same⟩

/-- A projection of a stored schedule belongs to it. -/
theorem IsProjection.onSchedule {schedules : Table StreamSchedule} {event : StreamEvent}
    (projection : IsProjection schedules event) : OnSchedule schedules event := by
  obtain ⟨now, name, scheduleId, schedule, occurrence, stored, rfl⟩ := projection
  exact fun _ => ⟨rfl, scheduleId, _, schedule, rfl, stored, rfl⟩

/-- Every transaction keeps projected events with their schedules. -/
theorem Committed.scheduled {op : DomainOp} {before after : Domain}
    (done : Committed op before after) (scheduled : before.finance.Scheduled) :
    after.finance.Scheduled := by
  refine scheduled.evolves done.events done.schedules (fun _ _ _ => domainRules_origin op _) ?_
  intro event created
  cases op with
  | finance op =>
    cases op with
    | saveStream | refreshStreamScheduleEvents | deleteStream | bootstrapDefaults =>
      exact IsProjection.onSchedule created
    | createManualEvent =>
      -- Neither the type nor the id of a manual event is that of a projection.
      obtain ⟨-, _, rfl⟩ := created
      rintro (⟨⟨⟩⟩ | ⟨_, _, ⟨⟩⟩)
    | saveAccount | ensurePrimaryAccount | setStartingBalance | saveView | patchEvent
    | removeEvent | restoreScheduledEvent | reconcileEvent => exact created.elim
  | tmoSync capture =>
    obtain ⟨type, identity, source⟩ : event.sourceType = some .tmoHistory ∧
      ∃ identity, event.sourceId = some (.history identity) := created
    rintro (claimed | ⟨_, _, claimed⟩)
    · cases type.symm.trans claimed
    · cases source.symm.trans claimed
  | tmoError | monarchBalance | monarchError => exact created.elim

/-- In every reachable state projected events belong to schedules of their streams. -/
theorem reachable_scheduled {db : Domain} (reached : (domainSystem platform).Reachable db) :
    db.finance.Scheduled := by
  refine reached.invariant (fun db => db.finance.Scheduled) (fun _ fresh => ?_)
    fun _ _ _ earlier scheduled done => ?_
  · have fresh : Domain.Fresh _ := fresh
    intro id event stored
    rw [fresh.finance] at stored
    exact absurd stored (Table.not_mem_empty _)
  · exact (DomainOp.commit_committed (reachable_consistent earlier) done).scheduled scheduled

/-- A change of a projection, or of an event of the user's, is not one of a payment's event. -/
theorem financeRules_shown (op : FinanceOp) (schedules : Table StreamSchedule) {id : ℕ}
    {before after : StreamEvent} (changed : (op.eventRules schedules).change id before after) :
    before.sourceType ≠ some .tmoHistory := by
  intro history
  have notUser : isUserEvent before = true → False := by simp [isUserEvent, history]
  have notProjection : isOpenProjection before = true → False := by
    simp [isOpenProjection, history]
  cases op with
  | saveStream | refreshStreamScheduleEvents | deleteStream | bootstrapDefaults =>
    cases changed with
    | tombstoned _ _ type => cases type.symm.trans history
    | reprojected projection _ same =>
      -- The stored event has the source type of the projection.
      obtain ⟨_, _, _, _, _, -, rfl⟩ := projection
      obtain ⟨key, fresh, stored⟩ := sameSource_iff.mp same
      obtain ⟨-, type, -⟩ := StreamEvent.key_eq_some.mp (fresh ▸ stored)
      cases type.symm.trans history
  | patchEvent => exact notUser changed.2.1
  | reconcileEvent => exact notUser changed.2.1
  | removeEvent => exact notProjection changed.2.1
  | restoreScheduledEvent => exact notProjection changed.2.1
  | saveAccount | ensurePrimaryAccount | setStartingBalance | saveView | createManualEvent =>
    exact changed.elim

/-- No operation of the plan creates an event of a payment. -/
theorem financeRules_create (op : FinanceOp) (schedules : Table StreamSchedule) {event : StreamEvent}
    (created : (op.eventRules schedules).create event) : event.sourceType ≠ some .tmoHistory := by
  cases op with
  | saveStream | refreshStreamScheduleEvents | deleteStream | bootstrapDefaults =>
    obtain ⟨_, _, _, _, _, -, rfl⟩ := created
    nofun
  | createManualEvent =>
    obtain ⟨-, _, rfl⟩ := created
    nofun
  | saveAccount | ensurePrimaryAccount | setStartingBalance | saveView | patchEvent | removeEvent
  | restoreScheduledEvent | reconcileEvent => exact created.elim

/-- No transaction excludes an event of a payment. -/
theorem DomainOp.commit_shown {op : DomainOp} {before after : Domain}
    (shown : HistoryShown before.finance.events) (done : op.commit platform before = some after) :
    HistoryShown after.finance.events := by
  cases op with
  | finance op =>
    obtain ⟨finance, applied, rfl⟩ := Option.map_eq_some_iff.mp done
    obtain ⟨writes, -⟩ := operation_writes (toOption_eq_some.mp applied)
    have excluded : ∀ id event, (id, event) ∈ before.finance.events →
        event.sourceType = some .tmoHistory → event.isExcluded = false := shown
    refine writes.evolves.forall_rows
      (fun _ event => event.sourceType = some .tmoHistory → event.isExcluded = false) ?_ ?_ excluded
    · exact fun _ _ created history => absurd history (financeRules_create op _ created)
    · intro id event now _ changed history
      have same := eventRules_origin op _ changed
      simp only [StreamEvent.origin, Prod.mk.injEq] at same
      exact absurd (same.2.1.symm.trans history) (financeRules_shown op _ changed)
  | tmoSync capture =>
    obtain ⟨result, applied, rfl⟩ := Option.map_eq_some_iff.mp done
    have applied := toOption_eq_some.mp applied
    simp only [applyTmoSync, replacePaymentProjection, bind_eq_ok, pure_eq_ok] at applied
    obtain ⟨_, -, _, -, streamId, -, integrations, -, _, ⟨middle, walked, rfl⟩, rfl⟩ := applied
    -- The removals only delete events.
    have staged : HistoryShown
        (stagePayments capture { before with integrations }).finance.events := shown
    have stored := normalizePayments_shown _ staged walked
    exact fun id event there =>
      stored id event ((removals_shrunk capture streamId middle).events _ there)
  | tmoError connectionId publicMessage updatedAt =>
    rw [markTmoError_frame (toOption_eq_some.mp done)]
    exact shown
  | monarchBalance connectionId asOfDate capture persistedAt =>
    rw [applyMonarchBalance_frame (toOption_eq_some.mp done)]
    exact shown
  | monarchError connectionId message updatedAt =>
    rw [markMonarchError_frame (toOption_eq_some.mp done)]
    exact shown

/-- In every reachable state no event of a payment is excluded. -/
theorem reachable_shown {db : Domain} (reached : (domainSystem platform).Reachable db) :
    HistoryShown db.finance.events := by
  refine reached.invariant (fun db => HistoryShown db.finance.events) (fun _ fresh => ?_)
    fun _ _ _ _ shown done => DomainOp.commit_shown shown done
  have fresh : Domain.Fresh _ := fresh
  intro id event stored
  rw [fresh.finance] at stored
  exact absurd stored (Table.not_mem_empty _)

end FinStream
