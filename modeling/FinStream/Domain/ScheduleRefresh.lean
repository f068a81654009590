import FinStream.Domain.Decisions
import FinStream.Finance.Refresh

/-! The specification of a schedule refresh, met from every reachable state. -/

namespace FinStream

open Store

variable {platform : Platform}

/-- Whether an event has the date, amount, account and label of an occurrence. -/
structure StreamEvent.Carries (streamName : String) (schedule : StreamSchedule) (date : IsoDate)
    (event : StreamEvent) : Prop where
  expectedDate : event.expectedDate = date
  amount : event.amount = schedule.amount
  accountId : event.accountId = schedule.accountId
  label : event.label = some (schedule.label.getD s!"{streamName} due")

/-- What a refresh of a stream is for. -/
structure RefreshSpec (streamId : ℕ) (streamName : String) (window : ProjectionWindow)
    (before after : Finance) : Prop where
  /-- Each occurrence has one event: the payment received for it, or its current projection. -/
  occurrences : ∀ scheduleId schedule date,
    IsCurrent before streamId window scheduleId schedule date →
    ∃ eventId event, (eventId, event) ∈ after.events ∧ event.streamId = streamId ∧
      event.sourceType = some .streamSchedule ∧
      event.sourceId = some (schedule.sourceId scheduleId date) ∧
      (∀ other otherEvent, (other, otherEvent) ∈ after.events →
        otherEvent.sourceId = event.sourceId → other = eventId) ∧
      ((event.status = .received ∧ (eventId, event) ∈ before.events) ∨
        (event.status ≠ .received ∧ event.Carries streamName schedule date ∧
          (event.isExcluded = true ↔
            ∃ old, (eventId, old) ∈ before.events ∧ old.exclusionReason = some .user)))
  /-- Every other open projection of the window that carries no user decision is retired. -/
  retired : ∀ eventId event, (eventId, event) ∈ after.events → event.streamId = streamId →
    event.sourceType = some .streamSchedule → event.isOpen = true →
    window.contains event.expectedDate = true → event.exclusionReason ≠ some .user →
    event.isOverridden = false →
    (∀ scheduleId schedule date, IsCurrent before streamId window scheduleId schedule date →
      event.sourceId ≠ some (schedule.sourceId scheduleId date)) →
    event.exclusionReason = some .schedule
  /-- Received events, events of other sources and events of other streams are untouched. -/
  untouched : ∀ eventId event, event.status = .received ∨
    event.sourceType ≠ some .streamSchedule ∨ event.streamId ≠ streamId →
    ((eventId, event) ∈ after.events ↔ (eventId, event) ∈ before.events)

section

variable {now streamName : String} {streamId : ℕ} {window : ProjectionWindow}
  {before after : Finance}

/-- A projection that is not received carries its occurrence, and only a user excludes it. -/
theorem Refreshed.carries {scheduleId : ℕ} {schedule : StreamSchedule} {date : IsoDate}
    {eventId : ℕ} {old : StreamEvent} (stored : (eventId, old) ∈ before.events)
    (open_ : old.status ≠ .received) :
    let event := (projectedEvent now streamId streamName scheduleId schedule date).reprojected old
    event.status ≠ .received ∧ event.Carries streamName schedule date ∧
      (event.isExcluded = true ↔
        ∃ old, (eventId, old) ∈ before.events ∧ old.exclusionReason = some .user) := by
  intro event
  -- An open row is projected over, and keeps an exclusion only when it is the user's.
  have row : event = _ := reprojected_open open_
  refine ⟨by rw [row]; exact open_, ?_, ?_⟩
  · rw [row]
    exact ⟨rfl, rfl, rfl, rfl⟩
  · rw [row]
    simp only [StreamEvent.isExcluded]
    constructor
    · intro excluded
      refine ⟨old, stored, ?_⟩
      by_contra undecided
      simp [undecided] at excluded
    · rintro ⟨row, there, user⟩
      obtain rfl := Table.unique there stored
      simp [user]

/-- A received event of an occurrence is the one that was stored before. -/
theorem Refreshed.untouched_current
    (refreshed : Refreshed now streamId streamName window before after) {scheduleId : ℕ}
    {schedule : StreamSchedule} {date : IsoDate}
    (current : IsCurrent before streamId window scheduleId schedule date) {eventId : ℕ}
    {event : StreamEvent}
    (key : event.key = some (streamId, .streamSchedule, schedule.sourceId scheduleId date))
    (received : event.status = .received) :
    (eventId, event) ∈ after.events ↔ (eventId, event) ∈ before.events := by
  constructor
  · intro there
    obtain ⟨id, row, -, -, alone, origin⟩ := refreshed.event current
    obtain ⟨rfl, rfl⟩ := alone eventId event there key
    rcases origin with ⟨old, stored, -, rfl⟩ | ⟨-, rfl⟩
    · -- A row that is received after a projection was received before it.
      by_cases closed : old.status = .received
      · rwa [reprojected_closed closed]
      · rw [reprojected_open closed] at received
        exact absurd received closed
    · cases received
  · intro stored
    have merged := refreshed.merged scheduleId schedule date current eventId event stored key
    rwa [reprojected_closed received] at merged

/-- A refresh that goes row by row as it should meets the specification. -/
theorem Refreshed.spec (refreshed : Refreshed now streamId streamName window before after)
    (scheduled : after.Scheduled) : RefreshSpec streamId streamName window before after := by
  constructor
  · intro scheduleId schedule date current
    obtain ⟨eventId, event, stored, key, alone, origin⟩ := refreshed.event current
    rw [projectedEvent_key] at key alone
    obtain ⟨stream, type, source⟩ := StreamEvent.key_eq_some.mp key
    refine ⟨eventId, event, stored, stream, type, source, ?_, ?_⟩
    · -- A row of the same source id belongs to the same schedule, hence to the same stream.
      intro other otherEvent there same
      have otherSource := same.trans source
      obtain ⟨otherType, id, slot, owner, sourceId, known, onStream⟩ :=
        scheduled other otherEvent there (.inr ⟨_, _, otherSource⟩)
      rw [otherSource, Option.some.injEq, StreamSchedule.sourceId,
        SourceId.streamSchedule.injEq] at sourceId
      have storedSchedule : (scheduleId, schedule) ∈ after.schedules := by
        rw [refreshed.frame]
        exact current.stored
      rw [← sourceId.1] at known
      obtain rfl := Table.unique known storedSchedule
      refine (alone other otherEvent there (StreamEvent.key_eq_some.mpr ⟨?_, otherType, ?_⟩)).1
      · exact onStream.symm.trans current.stream
      · exact otherSource
    · rcases origin with ⟨old, before_, -, rfl⟩ | ⟨fresh, rfl⟩
      · by_cases closed : old.status = .received
        · rw [reprojected_closed closed]
          exact .inl ⟨closed, before_⟩
        · exact .inr (Refreshed.carries before_ closed)
      · refine .inr ⟨by simp [projectedEvent], ⟨rfl, rfl, rfl, rfl⟩, ?_⟩
        simp [projectedEvent, StreamEvent.isExcluded, fresh]
  · intro eventId event stored stream type open_ inside undecided plain other
    have retired := (refreshed.others eventId event fun scheduleId schedule date current key =>
      other scheduleId schedule date current (StreamEvent.key_eq_some.mp key).2.2).mp stored
    obtain ⟨old, -, rfl⟩ := Table.mem_updateWhere.mp retired
    split
    · rfl
    · -- The event is as it was, and meets every condition of the retirement.
      rename_i spared
      rw [if_neg spared] at stream type open_ inside undecided plain
      exact absurd (by simp [isRetirable, stream, type, inside, open_, plain, undecided]) spared
  · intro eventId event reason
    by_cases current : ∃ scheduleId schedule date,
        IsCurrent before streamId window scheduleId schedule date ∧
          event.key = some (streamId, .streamSchedule, schedule.sourceId scheduleId date)
    · obtain ⟨scheduleId, schedule, date, current, key⟩ := current
      obtain ⟨stream, type, -⟩ := StreamEvent.key_eq_some.mp key
      have received : event.status = .received := by
        rcases reason with received | foreign | elsewhere
        · exact received
        · exact absurd type foreign
        · exact absurd stream elsewhere
      exact refreshed.untouched_current current key received
    · -- The retirement passes over every row of this status and origin.
      have spared : ∀ row : StreamEvent, row.status = event.status → row.origin = event.origin →
          isRetirable streamId window row = false := by
        intro row status origin
        simp only [StreamEvent.origin, Prod.mk.injEq] at origin
        simp only [isRetirable, StreamEvent.isOpen, status, origin.1, origin.2.1,
          Bool.and_eq_false_iff, beq_eq_false_iff_ne]
        rcases reason with received | foreign | elsewhere <;> simp_all
      rw [refreshed.others eventId event fun scheduleId schedule date here key =>
        current ⟨scheduleId, schedule, date, here, key⟩]
      refine Table.mem_updateWhere.trans ⟨?_, fun stored => ⟨event, stored, ?_⟩⟩
      · rintro ⟨old, stored, same⟩
        have kept := spared old (by rw [same]; split <;> rfl) (by rw [same]; split <;> rfl)
        rw [if_neg (by simp [kept])] at same
        rwa [same]
      · simp [spared event rfl rfl]

end

/-- A refresh of a reachable state that succeeds meets its specification. -/
theorem refresh_meets_spec {db : Domain} (reached : (domainSystem platform).Reachable db)
    {now streamName : String} {streamId : ℕ} {window : ProjectionWindow} {result : ℕ × Finance}
    (done : refreshStreamScheduleEventsOn now streamId streamName window db.finance = .ok result) :
    RefreshSpec streamId streamName window db.finance result.2 := by
  obtain ⟨writes, frame⟩ := refreshStreamScheduleEventsOn_writes done
  -- Projections belong to schedules of their stream before the refresh, and it adds only such.
  have schedules : Evolves scheduleRules db.finance.schedules result.2.schedules := by
    rw [frame]
    exact .refl _ _
  have same : result.2.schedules = db.finance.schedules := by rw [frame]
  have scheduled := (reachable_scheduled reached).evolves writes.evolves schedules
    (fun _ _ _ => projectionRules_origin _)
    (fun _ projection => same ▸ IsProjection.onSchedule projection)
  exact (refreshStreamScheduleEventsOn_refreshed (reachable_consistent reached).eventKeys
    done).spec scheduled

/-- A refresh after the user's decisions meets its specification. -/
theorem refresh_meets_spec_decided :
    ∃ result, refreshStreamScheduleEventsOn "2026-01-06T00:00:00Z" 1 "Allowance" twoWeeks
      decidedDomain.finance = .ok result ∧
      RefreshSpec 1 "Allowance" twoWeeks decidedDomain.finance result.2 := by
  have refreshes : (refreshStreamScheduleEventsOn "2026-01-06T00:00:00Z" 1 "Allowance" twoWeeks
      decidedDomain.finance).toOption.isSome = true := by decide +kernel
  obtain ⟨result, done⟩ := Option.isSome_iff_exists.mp refreshes
  have done := toOption_eq_some.mp done
  exact ⟨result, done, refresh_meets_spec decidedDomain_reachable done⟩

end FinStream
