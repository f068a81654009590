import FinStream.Domain.ScheduleRefresh
import FinStream.Finance.ScheduleEdit

/-! When an edited schedule keeps one event for each of its cadence periods. -/

namespace FinStream

open Store

variable {platform : Platform}

/-! ### Periods and decisions -/

/-- Whether two dates fall in one cadence period of a schedule. -/
def StreamSchedule.SamePeriod (schedule : StreamSchedule) (date other : IsoDate) : Prop :=
  match schedule.frequency with
  | .monthly => other.monthIndex = date.monthIndex
  | .semimonthly => other.monthIndex = date.monthIndex ∧ (other.day ≤ 15 ↔ date.day ≤ 15)
  | .weekly => schedule.startDate.daysUntil other / 7 = schedule.startDate.daysUntil date / 7
  | .biweekly => schedule.startDate.daysUntil other / 14 = schedule.startDate.daysUntil date / 14
  | .annual => other.year = date.year
  | .oneTime => other = date

/-- A date falls in its own period. -/
theorem StreamSchedule.samePeriod_self (schedule : StreamSchedule) (date : IsoDate) :
    schedule.SamePeriod date date := by
  unfold StreamSchedule.SamePeriod
  split <;> simp

/-- Whether an event carries a received payment, a user's exclusion or a user's override. -/
def StreamEvent.IsDecided (event : StreamEvent) : Prop :=
  event.status = .received ∨ event.exclusionReason = some .user ∨ event.isOverridden = true

/-- Whether an event is one of a schedule's. -/
def StreamEvent.IsOf (scheduleId : ℕ) (event : StreamEvent) : Prop :=
  ∃ slot, event.sourceId = some (.streamSchedule scheduleId slot)

/-- Whether an event counts for a date: expected on it, or received in its period. -/
structure StreamEvent.CountsFor (scheduleId : ℕ) (schedule : StreamSchedule) (date : IsoDate)
    (event : StreamEvent) : Prop where
  /-- The event is one of the schedule's. -/
  ofSchedule : event.IsOf scheduleId
  /-- The event is not retired. -/
  live : event.exclusionReason ≠ some .schedule
  /-- The event is expected on the date, or received in the date's period. -/
  dated : event.expectedDate = date ∨
    (event.status = .received ∧ schedule.SamePeriod date event.expectedDate)

/-- What an edit owes to each date its schedule occurs on. -/
structure StandsFor (before after : Finance) (scheduleId : ℕ) (schedule : StreamSchedule)
    (date : IsoDate) : Prop where
  /-- Exactly one event counts for the date. -/
  once : ∃ eventId event, (eventId, event) ∈ after.events ∧
    event.CountsFor scheduleId schedule date ∧
    ∀ other otherEvent, (other, otherEvent) ∈ after.events →
      otherEvent.CountsFor scheduleId schedule date → other = eventId
  /-- A decision that stands for the date was made for a date of the same period. -/
  attributed : ∀ eventId old now, (eventId, old) ∈ before.events → (eventId, now) ∈ after.events →
    now.sourceId = some (schedule.sourceId scheduleId date) → old.IsDecided →
    schedule.SamePeriod date old.expectedDate

/-- Whether the decisions stored before an edit leave a date of the edited schedule alone. -/
structure Aligned (events : Table StreamEvent) (scheduleId : ℕ) (schedule : StreamSchedule)
    (window : ProjectionWindow) (date : IsoDate) : Prop where
  /-- A decision stored under the date's slot was made for a date of the same period. -/
  own : ∀ eventId event, (eventId, event) ∈ events →
    event.sourceId = some (schedule.sourceId scheduleId date) → event.IsDecided →
    schedule.SamePeriod date event.expectedDate
  /-- A payment stored under another slot was not received for the date's period. -/
  received : ∀ eventId event, (eventId, event) ∈ events → event.IsOf scheduleId →
    event.sourceId ≠ some (schedule.sourceId scheduleId date) → event.status = .received →
    ¬ schedule.SamePeriod date event.expectedDate
  /-- An open decision stored under a slot that no date has any more is not expected on the date. -/
  lingering : ∀ eventId event, (eventId, event) ∈ events → event.IsOf scheduleId →
    (∀ other, schedule.OccursOn window other →
      event.sourceId ≠ some (schedule.sourceId scheduleId other)) →
    event.status ≠ .received → event.IsDecided → event.exclusionReason ≠ some .schedule →
    event.expectedDate ≠ date

/-! ### Received projections are not excluded -/

/-- No transaction excludes a received projection, nor receives an excluded one. -/
theorem change_received {op : DomainOp} {schedules : Table StreamSchedule} {id : ℕ}
    {before after : StreamEvent} (changed : (op.eventRules schedules).change id before after)
    (projected : before.sourceType = some .streamSchedule) (received : after.status = .received) :
    after.exclusionReason = none := by
  -- Only a reconciliation makes an open row received, and it asks for one that counts.
  cases op with
  | finance op =>
    cases op with
    | saveStream | refreshStreamScheduleEvents | deleteStream | bootstrapDefaults =>
      rcases changed with ⟨now, open_, -, -⟩ | ⟨-, open_, -⟩
      · exact absurd received (StreamEvent.isOpen_iff.mp open_)
      · rw [StreamEvent.reprojected, if_pos open_] at received
        exact absurd received (StreamEvent.isOpen_iff.mp open_)
    | patchEvent =>
      obtain ⟨-, user, rfl⟩ := changed
      simp only [isUserEvent, Bool.and_eq_true] at user
      exact absurd received (StreamEvent.isOpen_iff.mp user.1)
    | removeEvent | restoreScheduledEvent =>
      obtain ⟨-, projection, rest⟩ := changed
      simp only [isOpenProjection, Bool.and_eq_true] at projection
      have open_ := StreamEvent.isOpen_iff.mp projection.2
      first
        | obtain rfl := rest
          exact absurd received open_
        | obtain ⟨-, rfl⟩ := rest
          exact absurd received open_
    | reconcileEvent =>
      obtain ⟨-, -, counted, rfl⟩ := changed
      simpa [StreamEvent.isExcluded] using counted
    | saveAccount | ensurePrimaryAccount | setStartingBalance | saveView | createManualEvent =>
      exact changed.elim
  | tmoSync =>
    rw [changed.1] at projected
    cases projected
  | tmoError | monarchBalance | monarchError => exact changed.elim

/-- In every reachable state received projections are not excluded. -/
theorem reachable_received {db : Domain} (reached : (domainSystem platform).Reachable db) :
    ∀ id event, (id, event) ∈ db.finance.events → event.sourceType = some .streamSchedule →
      event.status = .received → event.exclusionReason = none := by
  refine reached.invariant (fun db => ∀ id event, (id, event) ∈ db.finance.events →
    event.sourceType = some .streamSchedule → event.status = .received →
    event.exclusionReason = none) ?_ ?_
  · intro db fresh id event stored
    have fresh : Domain.Fresh db := fresh
    rw [fresh.finance] at stored
    exact absurd stored (Table.not_mem_empty _)
  · intro op before after earlier holds done
    have committed := DomainOp.commit_committed (reachable_consistent earlier) done
    refine committed.events.forall_rows (fun _ event => event.sourceType = some .streamSchedule →
      event.status = .received → event.exclusionReason = none) ?_ ?_ holds
    · -- Nothing is created as a received projection.
      intro id event created type received
      cases op with
      | finance op =>
        cases op with
        | saveStream | refreshStreamScheduleEvents | deleteStream | bootstrapDefaults =>
          obtain ⟨_, _, _, _, _, -, rfl⟩ := created
          cases received
        | createManualEvent =>
          obtain ⟨-, _, rfl⟩ := created
          cases type
        | saveAccount | ensurePrimaryAccount | setStartingBalance | saveView | patchEvent
        | removeEvent | restoreScheduledEvent | reconcileEvent => exact created.elim
      | tmoSync =>
        have history : event.sourceType = some .tmoHistory := created.1
        rw [history] at type
        cases type
      | tmoError | monarchBalance | monarchError => exact created.elim
    · intro id row now _ changed type received
      have origin := domainRules_origin op _ changed
      simp only [StreamEvent.origin, Prod.mk.injEq] at origin
      exact change_received changed (origin.2.1.symm.trans type) received

/-! ### One occurrence -/

/-- What the events of a reachable state are known to satisfy, and what a refresh makes of them. -/
structure Recast (now : String) (streamId : ℕ) (streamName : String) (window : ProjectionWindow)
    (before after : Finance) : Prop where
  /-- The refresh goes row by row as it should. -/
  refreshed : Refreshed now streamId streamName window before after
  /-- Keys are unique before. -/
  keys : UniqueKey StreamEvent.key before.events
  /-- Projections belong to their schedules before. -/
  scheduled : before.Scheduled
  /-- Projections belong to their schedules after. -/
  rescheduled : after.Scheduled
  /-- Received projections are not excluded before. -/
  received : ∀ id event, (id, event) ∈ before.events → event.sourceType = some .streamSchedule →
    event.status = .received → event.exclusionReason = none

section Occurrence

variable {now streamName : String} {streamId : ℕ} {window : ProjectionWindow}
  {before after : Finance} {scheduleId : ℕ} {schedule : StreamSchedule} {date : IsoDate}

/-- An event of a current schedule is a projection on the schedule's stream. -/
theorem IsCurrent.origin {db : Finance} (scheduled : db.Scheduled)
    (current : IsCurrent db streamId window scheduleId schedule date) {eventId : ℕ}
    {event : StreamEvent} (stored : (eventId, event) ∈ db.events)
    (ofSchedule : event.IsOf scheduleId) :
    event.sourceType = some .streamSchedule ∧ event.streamId = streamId := by
  obtain ⟨slot, source⟩ := ofSchedule
  obtain ⟨type, id, _, owner, sourceId, known, stream⟩ :=
    scheduled eventId event stored (.inr ⟨_, _, source⟩)
  rw [source, Option.some.injEq, SourceId.streamSchedule.injEq] at sourceId
  rw [← sourceId.1] at known
  obtain rfl := Table.unique known current.stored
  exact ⟨type, stream.symm.trans current.stream⟩

/-- The key of a current occurrence's event is determined by its source id. -/
theorem IsCurrent.key {db : Finance} (scheduled : db.Scheduled)
    (current : IsCurrent db streamId window scheduleId schedule date) {eventId : ℕ}
    {event : StreamEvent} (stored : (eventId, event) ∈ db.events)
    (source : event.sourceId = some (schedule.sourceId scheduleId date)) :
    event.key = some (streamId, .streamSchedule, schedule.sourceId scheduleId date) := by
  obtain ⟨type, stream⟩ := current.origin scheduled stored ⟨_, source⟩
  exact StreamEvent.key_eq_some.mpr ⟨stream, type, source⟩

/-- The event stored under the slot of an occurrence counts for it when decisions are aligned. -/
theorem Recast.counted (recast : Recast now streamId streamName window before after)
    (current : IsCurrent before streamId window scheduleId schedule date)
    (own : ∀ eventId event, (eventId, event) ∈ before.events →
      event.sourceId = some (schedule.sourceId scheduleId date) → event.status = .received →
      schedule.SamePeriod date event.expectedDate) :
    ∃ eventId event, (eventId, event) ∈ after.events ∧
      event.sourceId = some (schedule.sourceId scheduleId date) ∧
      event.CountsFor scheduleId schedule date := by
  obtain ⟨eventId, event, stored, key, -, origin⟩ := recast.refreshed.event current
  obtain ⟨-, -, source⟩ := StreamEvent.key_eq_some.mp (key.trans (projectedEvent_key _ _ _))
  suffices counts : event.exclusionReason ≠ some .schedule ∧ (event.expectedDate = date ∨
      (event.status = .received ∧ schedule.SamePeriod date event.expectedDate)) from
    ⟨eventId, event, stored, source, ⟨_, source⟩, counts.1, counts.2⟩
  rcases origin with ⟨old, there, sameKey, rfl⟩ | ⟨-, rfl⟩
  · obtain ⟨-, type, oldSource⟩ :=
      StreamEvent.key_eq_some.mp (sameKey.trans (projectedEvent_key _ _ _))
    by_cases closed : old.status = .received
    · -- A received row is left as it is, and counts by its period.
      rw [reprojected_closed closed]
      have counted := recast.received eventId old there type closed
      exact ⟨by simp [counted], .inr ⟨closed, own eventId old there oldSource closed⟩⟩
    · rw [reprojected_open closed]
      refine ⟨?_, .inl rfl⟩
      simp only
      split <;> simp
  · exact ⟨by simp [projectedEvent], .inl rfl⟩

/-- An event of another slot counts for no date when decisions are aligned. -/
theorem Recast.uncounted (recast : Recast now streamId streamName window before after)
    (current : IsCurrent before streamId window scheduleId schedule date)
    (aligned : Aligned before.events scheduleId schedule window date) {eventId : ℕ}
    {event : StreamEvent} (stored : (eventId, event) ∈ after.events)
    (other : event.sourceId ≠ some (schedule.sourceId scheduleId date)) :
    ¬ event.CountsFor scheduleId schedule date := by
  rintro ⟨ofSchedule, live, dated⟩
  -- A received row counts only by its period, which the alignment rules out.
  have closed : ∀ id old, (id, old) ∈ before.events → old.IsOf scheduleId →
      old.sourceId ≠ some (schedule.sourceId scheduleId date) → old.status = .received →
      ¬ (old.expectedDate = date ∨
        (old.status = .received ∧ schedule.SamePeriod date old.expectedDate)) := by
    rintro id old there isOf apart received (on | ⟨-, same⟩)
    · exact aligned.received id old there isOf apart received (on ▸ schedule.samePeriod_self _)
    · exact aligned.received id old there isOf apart received same
  by_cases moved : ∃ otherDate, schedule.OccursOn window otherDate ∧
      event.sourceId = some (schedule.sourceId scheduleId otherDate)
  · -- The row stands for another date, on which it is expected now unless it was received.
    obtain ⟨otherDate, occurs, source⟩ := moved
    have otherCurrent : IsCurrent before streamId window scheduleId schedule otherDate :=
      ⟨current.stored, current.stream, current.active, occurs⟩
    have currentAfter : IsCurrent after streamId window scheduleId schedule otherDate :=
      ⟨by rw [recast.refreshed.frame]; exact current.stored, current.stream, current.active, occurs⟩
    have apart : otherDate ≠ date := by
      rintro rfl
      exact other source
    obtain ⟨_, _, -, -, alone, origin⟩ := recast.refreshed.event otherCurrent
    obtain ⟨rfl, rfl⟩ := alone eventId event stored
      ((currentAfter.key recast.rescheduled stored source).trans
        (projectedEvent_key scheduleId schedule otherDate).symm)
    rcases origin with ⟨old, there, -, rfl⟩ | ⟨-, rfl⟩
    · by_cases received : old.status = .received
      · rw [reprojected_closed received] at ofSchedule other dated
        exact closed _ old there ofSchedule other received dated
      · rw [reprojected_open received] at dated
        rcases dated with on | ⟨again, -⟩
        · exact apart on
        · exact received again
    · rcases dated with on | ⟨again, -⟩
      · exact apart on
      · cases again
  · -- The row stands for no date any more: it is retired, or left as it was.
    have retired := (recast.refreshed.others eventId event fun id row day here key => by
      obtain ⟨slot, ofSchedule⟩ := ofSchedule
      have source := (StreamEvent.key_eq_some.mp key).2.2
      have same := ofSchedule.symm.trans source
      simp only [StreamSchedule.sourceId, Option.some.injEq, SourceId.streamSchedule.injEq] at same
      obtain ⟨rfl, -⟩ := same
      obtain rfl := Table.unique here.stored current.stored
      exact moved ⟨day, here.occurs, source⟩).mp stored
    obtain ⟨old, there, same⟩ := Table.mem_updateWhere.mp retired
    split at same
    · rw [same] at live
      exact live rfl
    · rename_i spared
      subst same
      by_cases received : event.status = .received
      · exact closed eventId event there ofSchedule other received dated
      · rcases dated with on | ⟨again, -⟩
        · -- Nothing but a user's decision keeps a row of the window from being retired.
          refine aligned.lingering eventId event there ofSchedule
            (fun day occurs same => moved ⟨day, occurs, same⟩) received ?_ live on
          obtain ⟨type, stream⟩ := current.origin recast.scheduled there ofSchedule
          by_contra undecided
          simp only [StreamEvent.IsDecided, not_or] at undecided
          refine spared ?_
          simp [isRetirable, type, stream, StreamEvent.isOpen_iff.mpr received, undecided,
            ProjectionWindow.contains, on, current.occurs.2.2.1, current.occurs.2.2.2.1]
        · exact received again

/-- A decision that stands for no date any more is left as it was. -/
theorem Recast.lingers (recast : Recast now streamId streamName window before after)
    (current : IsCurrent before streamId window scheduleId schedule date) {eventId : ℕ}
    {event : StreamEvent} (stored : (eventId, event) ∈ before.events)
    (ofSchedule : event.IsOf scheduleId)
    (obsolete : ∀ other, schedule.OccursOn window other →
      event.sourceId ≠ some (schedule.sourceId scheduleId other))
    (decided : event.IsDecided) : (eventId, event) ∈ after.events := by
  refine (recast.refreshed.others eventId event fun id row day here key => ?_).mpr ?_
  · obtain ⟨slot, ofSchedule⟩ := ofSchedule
    have source := (StreamEvent.key_eq_some.mp key).2.2
    have same := ofSchedule.symm.trans source
    simp only [StreamSchedule.sourceId, Option.some.injEq, SourceId.streamSchedule.injEq] at same
    obtain ⟨rfl, -⟩ := same
    obtain rfl := Table.unique here.stored current.stored
    exact obsolete day here.occurs source
  · refine Table.mem_updateWhere.mpr ⟨event, stored, ?_⟩
    have spared : isRetirable streamId window event = false := by
      simp only [isRetirable, StreamEvent.isOpen]
      rcases decided with received | excluded | overridden <;> simp_all
    simp [spared]

/-- An occurrence is served as it should exactly when the decisions stored before are aligned. -/
theorem Recast.standsFor_iff (recast : Recast now streamId streamName window before after)
    (current : IsCurrent before streamId window scheduleId schedule date) :
    StandsFor before after scheduleId schedule date ↔
      Aligned before.events scheduleId schedule window date := by
  constructor
  · intro stands
    have own : ∀ eventId event, (eventId, event) ∈ before.events →
        event.sourceId = some (schedule.sourceId scheduleId date) → event.IsDecided →
        schedule.SamePeriod date event.expectedDate := by
      intro eventId event stored source decided
      have merged := recast.refreshed.merged scheduleId schedule date current eventId event stored
        (current.key recast.scheduled stored source)
      refine stands.attributed eventId event _ stored merged ?_ decided
      obtain ⟨-, -, kept⟩ := StreamEvent.key_eq_some.mp ((reprojected_key _ event).trans
        (current.key recast.scheduled stored source))
      exact kept
    -- The event under the date's own slot counts, so nothing else may.
    obtain ⟨ownId, ownEvent, ownStored, ownSource, ownCounts⟩ := recast.counted current
      fun eventId event stored source received => own eventId event stored source (.inl received)
    obtain ⟨_, _, -, -, alone⟩ := stands.once
    have apart : ∀ eventId event, (eventId, event) ∈ after.events →
        event.sourceId ≠ some (schedule.sourceId scheduleId date) →
        ¬ event.CountsFor scheduleId schedule date := by
      intro eventId event stored other counts
      have same := (alone eventId event stored counts).trans
        (alone ownId ownEvent ownStored ownCounts).symm
      subst same
      obtain rfl := Table.unique stored ownStored
      exact other ownSource
    refine ⟨own, ?_, ?_⟩
    · intro eventId event stored ofSchedule other received same
      obtain ⟨type, -⟩ := current.origin recast.scheduled stored ofSchedule
      have kept := ((recast.refreshed.spec recast.rescheduled).untouched eventId event
        (.inl received)).mpr stored
      have counted := recast.received eventId event stored type received
      exact apart eventId event kept other
        ⟨ofSchedule, by simp [counted], .inr ⟨received, same⟩⟩
    · intro eventId event stored ofSchedule obsolete _ decided live on
      exact apart eventId event (recast.lingers current stored ofSchedule obsolete decided)
        (obsolete date current.occurs) ⟨ofSchedule, live, .inl on⟩
  · intro aligned
    obtain ⟨ownId, ownEvent, ownStored, ownSource, ownCounts⟩ := recast.counted current
      fun eventId event stored source received =>
        aligned.own eventId event stored source (.inl received)
    have currentAfter : IsCurrent after streamId window scheduleId schedule date :=
      ⟨by rw [recast.refreshed.frame]; exact current.stored, current.stream, current.active,
        current.occurs⟩
    have ownKey := currentAfter.key recast.rescheduled ownStored ownSource
    refine ⟨⟨ownId, ownEvent, ownStored, ownCounts, fun other otherEvent stored counts => ?_⟩, ?_⟩
    · by_contra different
      refine recast.uncounted current aligned stored (fun source => different ?_) counts
      exact (recast.refreshed.unique.row_eq stored ownStored
        (currentAfter.key recast.rescheduled stored source) ownKey).1
    · -- The row that stands for the date was stored under the same source id before.
      intro eventId old now stored there source decided
      obtain ⟨_, _, -, -, alone, origin⟩ := recast.refreshed.event current
      obtain ⟨rfl, rfl⟩ := alone eventId now there
        ((currentAfter.key recast.rescheduled there source).trans
          (projectedEvent_key scheduleId schedule date).symm)
      rcases origin with ⟨row, rowStored, sameKey, -⟩ | ⟨fresh, -⟩
      · obtain rfl := Table.unique rowStored stored
        exact aligned.own _ row stored
          (StreamEvent.key_eq_some.mp (sameKey.trans (projectedEvent_key _ _ _))).2.2 decided
      · exact absurd stored (fresh old)

end Occurrence

/-! ### Edits -/

/-- The refresh that ends an edit of a reachable state starts from events in good order. -/
theorem saveStream_recast {db : Domain} (reached : (domainSystem platform).Reachable db)
    {now : String} {draft : StreamDraft} {window : ProjectionWindow} {result : ℕ × Finance}
    (done : saveStream platform now draft window db.finance = .ok result) :
    ∃ saved, Edited now draft result.1 db.finance saved ∧
      Recast now result.1 draft.name window saved result.2 := by
  -- The save edits schedules and leaves events alone; the refresh does the rest.
  obtain ⟨saved, count, edited, refreshed⟩ := saveStream_edited done
  have keys : UniqueKey StreamEvent.key saved.events := by
    rw [edited.events]
    exact (reachable_consistent reached).eventKeys
  have scheduled : saved.Scheduled := by
    refine (reachable_scheduled reached).evolves ?_ edited.evolves
      (fun _ _ _ => projectionRules_origin saved.schedules)
      (fun _ => IsProjection.onSchedule)
    rw [edited.events]
    exact .refl _ _
  obtain ⟨writes, frame⟩ := refreshStreamScheduleEventsOn_writes refreshed
  have same : result.2.schedules = saved.schedules := by rw [frame]
  have rowwise := refreshStreamScheduleEventsOn_refreshed keys refreshed
  refine ⟨saved, edited, rowwise, keys, scheduled, ?_, ?_⟩
  · refine scheduled.evolves writes.evolves (by rw [same]; exact .refl _ _)
      (fun _ _ _ => projectionRules_origin _) fun _ projection => ?_
    rw [same]
    exact IsProjection.onSchedule projection
  · rw [edited.events]
    exact reachable_received reached

/-- An edit serves every date exactly when no decision under a drafted schedule is misplaced. -/
theorem schedule_edit_iff {db : Domain} (reached : (domainSystem platform).Reachable db)
    {now : String} {draft : StreamDraft} {streamId : ℕ} {window : ProjectionWindow}
    {result : ℕ × Finance} (edits : draft.id = some streamId)
    (done : saveStream platform now draft window db.finance = .ok result) :
    (∀ scheduleId schedule date, IsCurrent result.2 streamId window scheduleId schedule date →
      StandsFor db.finance result.2 scheduleId schedule date) ↔
    (∀ drafted ∈ draft.schedules, ∀ scheduleId, drafted.id = some scheduleId → ∀ date,
      (drafted.row now streamId).OccursOn window date →
      Aligned db.finance.events scheduleId (drafted.row now streamId) window date) := by
  obtain ⟨saved, edited, recast⟩ := saveStream_recast reached done
  rw [saveStream_id edits done] at edited recast
  have schedules : result.2.schedules = saved.schedules := by rw [recast.refreshed.frame]
  have current : ∀ scheduleId schedule date,
      IsCurrent result.2 streamId window scheduleId schedule date ↔
        IsCurrent saved streamId window scheduleId schedule date := by
    intro scheduleId schedule date
    constructor
    · rintro ⟨stored, stream, active, occurs⟩
      exact ⟨schedules ▸ stored, stream, active, occurs⟩
    · rintro ⟨stored, stream, active, occurs⟩
      exact ⟨schedules ▸ stored, stream, active, occurs⟩
  -- Events are stored by the refresh alone, so the state before it has those before the edit.
  have iff_ : ∀ scheduleId schedule date,
      IsCurrent saved streamId window scheduleId schedule date →
      (StandsFor db.finance result.2 scheduleId schedule date ↔
        Aligned db.finance.events scheduleId schedule window date) := by
    intro scheduleId schedule date here
    have stands := recast.standsFor_iff here
    rw [edited.events] at stands
    rw [← stands]
    constructor <;> rintro ⟨once, attributed⟩ <;> refine ⟨once, ?_⟩
    · rwa [edited.events]
    · rwa [edited.events] at attributed
  constructor
  · intro serves drafted member scheduleId named date occurs
    obtain ⟨id, isSaved, stored⟩ := edited.stored drafted member
    obtain rfl : scheduleId = id := by
      rcases isSaved with same | ⟨unnamed, -⟩
      · exact Option.some.inj (named.symm.trans same)
      · rw [named] at unnamed
        cases unnamed
    have here : IsCurrent saved streamId window scheduleId (drafted.row now streamId) date :=
      ⟨stored, rfl, rfl, occurs⟩
    exact (iff_ _ _ _ here).mp (serves _ _ _ ((current _ _ _).mpr here))
  · intro aligned scheduleId schedule date here
    have here := (current _ _ _).mp here
    refine (iff_ _ _ _ here).mpr ?_
    obtain ⟨drafted, member, isSaved, rfl⟩ := edited.drafted _ _ here.stored here.stream here.active
    rcases isSaved with named | ⟨-, above⟩
    · exact aligned drafted member scheduleId named date here.occurs
    · -- A schedule the edit created has no events yet.
      have none_ : ∀ eventId event, (eventId, event) ∈ db.finance.events →
          ¬ event.IsOf scheduleId := by
        rintro eventId event stored ⟨slot, source⟩
        obtain ⟨-, _, _, _, sourceId, known, -⟩ :=
          reachable_scheduled reached eventId event stored (.inr ⟨_, _, source⟩)
        rw [source, Option.some.injEq, SourceId.streamSchedule.injEq] at sourceId
        rw [← sourceId.1] at known
        exact absurd (Table.lt_next known) (Nat.not_lt.mpr above)
      exact ⟨fun eventId event stored source => absurd ⟨_, source⟩ (none_ eventId event stored),
        fun eventId event stored ofSchedule => absurd ofSchedule (none_ eventId event stored),
        fun eventId event stored ofSchedule => absurd ofSchedule (none_ eventId event stored)⟩

/-- A weekly stream is saved, and its second week is paid. -/
def paidSecondOps : List DomainOp := [
  .finance (.saveStream "2026-01-05T00:00:00Z"
    (allowanceStream none [weeklySchedule none firstMonday]) twoWeeks),
  .finance (.reconcileEvent "2026-01-12T00:00:00Z" 2 secondMonday (.finite 100))]

/-- The state in which the second week is paid. -/
def paidSecondDomain : Domain := replay plainPlatform paidSecondOps .registered

/-- The Monday after the second one. -/
def thirdMonday : IsoDate := ⟨740000, by decide⟩

/-- The three weeks that start on the first Monday. -/
def threeWeeks : ProjectionWindow := ⟨firstMonday, ⟨740006, by decide⟩, by decide⟩

/-- The weekly schedule, moved to start a week later. -/
def movedSchedule : ScheduleDraft := weeklySchedule (some 1) secondMonday

/-- The stream with the moved schedule. -/
def movedStream : StreamDraft := allowanceStream (some 1) [movedSchedule]

/-- The week is paid in a reachable state. -/
theorem paidSecondDomain_reachable : (domainSystem plainPlatform).Reachable paidSecondDomain :=
  replay_reachable (by decide +kernel)

/-- Moving the schedule serves its dates exactly when the payment is not misplaced. -/
theorem schedule_edit_iff_moved :
    ∃ result, saveStream plainPlatform "2026-01-13T00:00:00Z" movedStream threeWeeks
      paidSecondDomain.finance = .ok result ∧
      ((∀ scheduleId schedule date, IsCurrent result.2 1 threeWeeks scheduleId schedule date →
        StandsFor paidSecondDomain.finance result.2 scheduleId schedule date) ↔
      (∀ drafted ∈ movedStream.schedules, ∀ scheduleId, drafted.id = some scheduleId → ∀ date,
        (drafted.row "2026-01-13T00:00:00Z" 1).OccursOn threeWeeks date →
        Aligned paidSecondDomain.finance.events scheduleId
          (drafted.row "2026-01-13T00:00:00Z" 1) threeWeeks date)) := by
  have saves : (saveStream plainPlatform "2026-01-13T00:00:00Z" movedStream threeWeeks
      paidSecondDomain.finance).toOption.isSome = true := by decide +kernel
  obtain ⟨result, done⟩ := Option.isSome_iff_exists.mp saves
  have done := toOption_eq_some.mp done
  exact ⟨result, done, schedule_edit_iff paidSecondDomain_reachable rfl done⟩

/-- Moving the schedule loses its new second week to the payment of the old one. -/
theorem schedule_edit_loses_week :
    (domainSystem plainPlatform).Reachable paidSecondDomain ∧
      ∃ result, saveStream plainPlatform "2026-01-13T00:00:00Z" movedStream threeWeeks
        paidSecondDomain.finance = .ok result ∧
      ∃ schedule, IsCurrent result.2 1 threeWeeks 1 schedule thirdMonday ∧
        (∀ eventId event, (eventId, event) ∈ result.2.events →
          ¬ event.CountsFor 1 schedule thirdMonday) ∧
        ¬ StandsFor paidSecondDomain.finance result.2 1 schedule thirdMonday := by
  refine ⟨paidSecondDomain_reachable, ?_⟩
  -- Both rows are expected on the second Monday: one for the new first week, one as received.
  have rows : ((saveStream plainPlatform "2026-01-13T00:00:00Z" movedStream threeWeeks
      paidSecondDomain.finance).toOption.map fun result =>
        (result.2.schedules.get? 1, result.2.events.rows.map fun entry => entry.2.expectedDate)) =
      some (some (movedSchedule.row "2026-01-13T00:00:00Z" 1), [secondMonday, secondMonday]) := by
    decide +kernel
  obtain ⟨result, done, found⟩ := Option.map_eq_some_iff.mp rows
  simp only [Prod.mk.injEq, Table.get?_eq_some] at found
  obtain ⟨stored, dates⟩ := found
  have elsewhere : ∀ eventId event, (eventId, event) ∈ result.2.events →
      ¬ event.CountsFor 1 (movedSchedule.row "2026-01-13T00:00:00Z" 1) thirdMonday := by
    rintro eventId event there ⟨-, -, dated⟩
    have listed : event.expectedDate ∈ result.2.events.rows.map fun entry => entry.2.expectedDate :=
      List.mem_map_of_mem there
    rw [dates] at listed
    obtain on : event.expectedDate = secondMonday := by simpa using listed
    rw [on] at dated
    rcases dated with same | ⟨-, same⟩
    · exact absurd same (by decide)
    · have weeks :
          secondMonday.daysUntil secondMonday / 7 = secondMonday.daysUntil thirdMonday / 7 :=
        same
      exact absurd weeks (by decide)
  refine ⟨result, toOption_eq_some.mp done, _, ⟨stored, rfl, rfl, ?_⟩, elsewhere, fun stands => ?_⟩
  · refine ⟨by decide, by simp [movedSchedule, weeklySchedule, ScheduleDraft.row], by decide,
      by decide, ?_⟩
    have weeks : (7 : ℤ) ∣ secondMonday.daysUntil thirdMonday := by decide
    exact weeks
  · obtain ⟨eventId, event, there, counts, -⟩ := stands.once
    exact elsewhere eventId event there counts

end FinStream
