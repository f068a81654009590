import FinStream.Domain.ScheduleRefresh
import FinStream.Store.Repeat

/-! A second refresh of the same window: it stamps rows again, and changes nothing else. -/

namespace FinStream

open Store

/-! ### Stamps -/

/-- An account without the time of its last update. -/
def Account.unstamped (account : Account) : Account := { account with updatedAt := "" }

/-- A stream without the time of its last update. -/
def Stream.unstamped (stream : Stream) : Stream := { stream with updatedAt := "" }

/-- A schedule without the time of its last update. -/
def StreamSchedule.unstamped (schedule : StreamSchedule) : StreamSchedule :=
  { schedule with updatedAt := "" }

/-- A view without the time of its last update. -/
def StreamView.unstamped (view : StreamView) : StreamView := { view with updatedAt := "" }

/-- An event with another time of its last update. -/
def StreamEvent.stamped (stamp : String) (event : StreamEvent) : StreamEvent :=
  { event with updatedAt := stamp }

/-- An event without the time of its last update. -/
def StreamEvent.unstamped (event : StreamEvent) : StreamEvent := event.stamped ""

/-- The finance tables without the times of the last updates. -/
def Finance.unstamped (db : Finance) : Finance where
  accounts := db.accounts.map Account.unstamped
  streams := db.streams.map Stream.unstamped
  schedules := db.schedules.map StreamSchedule.unstamped
  events := db.events.map StreamEvent.unstamped
  views := db.views.map StreamView.unstamped
  viewStreams := db.viewStreams

/-- A result of an operation without the times of the last updates. -/
def unstampedResult {α : Type} (result : FinanceResult (α × Finance)) :
    FinanceResult (α × Finance) := result.map fun done => (done.1, done.2.unstamped)

/-- Such a result is a success when the operation is one. -/
theorem unstampedResult_eq_ok {α : Type} {result : FinanceResult (α × Finance)} {value : α}
    {db : Finance} : unstampedResult result = .ok (value, db) ↔
      ∃ after, result = .ok (value, after) ∧ after.unstamped = db := by
  rw [unstampedResult, map_eq_ok]
  constructor
  · rintro ⟨⟨value, after⟩, done, same⟩
    obtain ⟨rfl, rfl⟩ := Prod.mk.inj same
    exact ⟨after, done, rfl⟩
  · rintro ⟨after, done, rfl⟩
    exact ⟨_, done, rfl⟩

section

variable {now streamName : String} {streamId : ℕ} {window : ProjectionWindow}

/-- A retirement reads no stamp, and stamps with the time it is given. -/
theorem retireProjections_unstamped (events : Table StreamEvent) :
    (retireProjections now streamId window events).map StreamEvent.unstamped =
      retireProjections "" streamId window (events.map StreamEvent.unstamped) :=
  Table.map_updateWhere events (fun _ _ => rfl) fun _ => rfl

/-- A projection reads no stamp, and stamps with the time it is given. -/
theorem reprojected_unstamped (fresh event : StreamEvent) :
    fresh.unstamped.reprojected event.unstamped = (fresh.reprojected event).unstamped := by
  have open_ : event.unstamped.isOpen = event.isOpen := rfl
  unfold StreamEvent.reprojected
  rw [open_]
  split <;> rfl

/-- An occurrence is stored by what the rows hold beside their stamps. -/
theorem upsertProjection_unstamped (fresh : StreamEvent) (events : Table StreamEvent) :
    (upsertProjection fresh events).map StreamEvent.unstamped =
      upsertProjection fresh.unstamped (events.map StreamEvent.unstamped) := by
  have stored : (events.map StreamEvent.unstamped).upsert (sameSource fresh.unstamped)
      fresh.unstamped fresh.unstamped.reprojected = ((events.upsert (sameSource fresh) fresh
        fresh.reprojected).1, (events.upsert (sameSource fresh) fresh fresh.reprojected).2.map
          StreamEvent.unstamped) :=
    Table.map_upsert events (fun _ => rfl) (reprojected_unstamped fresh)
  rw [upsertProjection, upsertProjection, stored]

/-- The occurrences of a schedule are stored by what the rows hold beside their stamps. -/
theorem upsertProjections_unstamped (scheduleId : ℕ) (schedule : StreamSchedule)
    (occurrences : List IsoDate) (events : Table StreamEvent) :
    (occurrences.foldl (fun events date => upsertProjection
        (projectedEvent now streamId streamName scheduleId schedule date) events) events).map
          StreamEvent.unstamped =
      occurrences.foldl (fun events date => upsertProjection
        (projectedEvent "" streamId streamName scheduleId schedule.unstamped date) events)
          (events.map StreamEvent.unstamped) := by
  induction occurrences generalizing events with
  | nil => rfl
  | cons date rest ih =>
    rw [List.foldl_cons, ih, upsertProjection_unstamped]
    rfl

/-- Schedules are projected by what they and the rows hold beside their stamps. -/
theorem projectSchedules_unstamped (pending : List (ℕ × StreamSchedule))
    (events : Table StreamEvent) :
    (projectSchedules now streamId streamName window pending events).map
        (fun result => (result.1, result.2.map StreamEvent.unstamped)) =
      projectSchedules "" streamId streamName window
        (pending.map fun entry => (entry.1, entry.2.unstamped))
        (events.map StreamEvent.unstamped) := by
  -- The table is carried along, as each schedule is projected into what the last one left.
  induction pending generalizing events with
  | nil => rfl
  | cons entry rest ih =>
    obtain ⟨scheduleId, schedule⟩ := entry
    have same : occurrencesIn schedule.unstamped window = occurrencesIn schedule window := rfl
    simp only [List.map_cons, projectSchedules, same]
    cases occurrencesIn schedule window with
    | error error => rfl
    | ok occurrences =>
      simp only [Bind.bind, Except.bind]
      rw [← upsertProjections_unstamped, ← ih]
      cases projectSchedules now streamId streamName window rest (occurrences.foldl
        (fun events date => upsertProjection
          (projectedEvent now streamId streamName scheduleId schedule date) events) events) <;> rfl

/-- The active schedules are the same, but for their stamps. -/
theorem activeSchedules_unstamped (db : Finance) : activeSchedules db.unstamped streamId =
    (activeSchedules db streamId).map fun entry => (entry.1, entry.2.unstamped) := by
  simp only [activeSchedules, Finance.unstamped, Table.map, List.filter_map]
  rfl

/-- A refresh goes by what the rows hold beside their stamps. -/
theorem refreshStreamScheduleEventsOn_unstamped (db : Finance) :
    unstampedResult (refreshStreamScheduleEventsOn now streamId streamName window db) =
      refreshStreamScheduleEventsOn "" streamId streamName window db.unstamped := by
  have projected : (projectSchedules now streamId streamName window (activeSchedules db streamId)
      (retireProjections now streamId window db.events)).map
        (fun result => (result.1, result.2.map StreamEvent.unstamped)) = _ :=
    projectSchedules_unstamped _ _
  rw [retireProjections_unstamped, ← activeSchedules_unstamped] at projected
  unfold unstampedResult refreshStreamScheduleEventsOn
  have events : db.unstamped.events = db.events.map StreamEvent.unstamped := rfl
  rw [events, ← projected]
  cases projectSchedules now streamId streamName window (activeSchedules db streamId)
    (retireProjections now streamId window db.events) <;> rfl

/-! ### A refresh at the same time -/

/-- A stream's projections are as a refresh would leave them, which counts so many occurrences. -/
structure IsRefreshed (now : String) (streamId : ℕ) (streamName : String)
    (window : ProjectionWindow) (count : ℕ) (db : Finance) : Prop where
  /-- The occurrences are found and counted. -/
  projected : ∃ rows, projections now streamId streamName window (activeSchedules db streamId) =
    .ok rows ∧ rows.length = count
  /-- Each current occurrence has an event that a projection leaves alone. -/
  current : ∀ scheduleId schedule date, IsCurrent db streamId window scheduleId schedule date →
    ∃ eventId event, (eventId, event) ∈ db.events ∧
      event.key = some (streamId, .streamSchedule, schedule.sourceId scheduleId date) ∧
      (projectedEvent now streamId streamName scheduleId schedule date).reprojected event = event
  /-- Any other event that could be retired is a tombstone. -/
  retired : ∀ eventId event, (eventId, event) ∈ db.events →
    (∀ scheduleId schedule date, IsCurrent db streamId window scheduleId schedule date →
      event.key ≠ some (streamId, .streamSchedule, schedule.sourceId scheduleId date)) →
    isRetirable streamId window event = true → event.tombstoned now = event

/-- Schedules whose rows are found are projected. -/
theorem projectSchedules_ok (pending : List (ℕ × StreamSchedule)) {rows : List StreamEvent}
    (projected : projections now streamId streamName window pending = .ok rows)
    (events : Table StreamEvent) :
    projectSchedules now streamId streamName window pending events =
      .ok (rows.length, events.upsertAll sameSource StreamEvent.reprojected rows) := by
  -- The table is carried along, as each schedule is projected into what the last one left.
  induction pending generalizing rows events with
  | nil =>
    cases projected
    rfl
  | cons entry rest ih =>
    simp only [projections, bind_eq_ok, pure_eq_ok] at projected
    obtain ⟨occurrences, found, others, tail, rfl⟩ := projected
    simp only [projectSchedules, bind_eq_ok, pure_eq_ok]
    refine ⟨occurrences, found, _, ih tail _, ?_⟩
    rw [List.length_append, List.length_map, Table.upsertAll, Table.upsertAll, List.foldl_append,
      List.foldl_map]
    rfl

/-- Occurrences depend on the schedules alone. -/
theorem IsCurrent.congr {db other : Finance} (same : other.schedules = db.schedules)
    {scheduleId : ℕ} {schedule : StreamSchedule} {date : IsoDate}
    (current : IsCurrent db streamId window scheduleId schedule date) :
    IsCurrent other streamId window scheduleId schedule date :=
  ⟨same ▸ current.stored, current.stream, current.active, current.occurs⟩

/-- A refresh leaves projections as a refresh would leave them. -/
theorem refreshStreamScheduleEventsOn_isRefreshed {db : Finance} {result : ℕ × Finance}
    (keys : UniqueKey StreamEvent.key db.events)
    (done : refreshStreamScheduleEventsOn now streamId streamName window db = .ok result) :
    IsRefreshed now streamId streamName window result.1 result.2 := by
  have refreshed := refreshStreamScheduleEventsOn_refreshed keys done
  have schedules : result.2.schedules = db.schedules := by rw [refreshed.frame]
  refine ⟨?_, ?_, ?_⟩
  · simp only [refreshStreamScheduleEventsOn, bind_eq_ok, pure_eq_ok] at done
    obtain ⟨_, walked, rfl⟩ := done
    obtain ⟨rows, projected, rfl⟩ := projectSchedules_eq_ok _ walked
    exact ⟨rows, projected, rfl⟩
  · -- The event was projected over, or is the new one.
    intro scheduleId schedule date current
    obtain ⟨eventId, event, stored, key, -, origin⟩ :=
      refreshed.event (current.congr schedules.symm)
    refine ⟨eventId, event, stored, key, ?_⟩
    rcases origin with ⟨old, -, -, rfl⟩ | ⟨-, rfl⟩
    · exact reprojected_again _ old
    · rfl
  · -- The event is one that was retired, or was not to be retired.
    intro eventId event stored other retirable
    obtain ⟨old, -, rfl⟩ := Table.mem_updateWhere.mp ((refreshed.others eventId event
      fun scheduleId schedule date current => other scheduleId schedule date
        (current.congr schedules)).mp stored)
    split
    · rfl
    · rename_i spared
      rw [if_neg spared] at retirable
      exact absurd retirable spared

/-- A refresh of what a refresh would leave keeps every event. -/
theorem IsRefreshed.events_eq {count : ℕ} {db after : Finance}
    (settled : IsRefreshed now streamId streamName window count db)
    (keys : UniqueKey StreamEvent.key db.events)
    (refreshed : Refreshed now streamId streamName window db after)
    (next : after.events.next = db.events.next) : after.events = db.events := by
  refine Table.ext_mem next fun eventId event => ?_
  by_cases occurrence : ∃ scheduleId schedule date,
      IsCurrent db streamId window scheduleId schedule date ∧
        event.key = some (streamId, .streamSchedule, schedule.sourceId scheduleId date)
  · -- The event of a current occurrence is projected over, which leaves it alone.
    obtain ⟨scheduleId, schedule, date, current, key⟩ := occurrence
    obtain ⟨at_, row, stored, rowKey, fixed⟩ := settled.current scheduleId schedule date current
    have merged := refreshed.merged scheduleId schedule date current at_ row stored rowKey
    rw [fixed] at merged
    constructor
    · intro there
      obtain ⟨rfl, rfl⟩ := refreshed.unique.row_eq there merged key rowKey
      exact stored
    · intro there
      obtain ⟨rfl, rfl⟩ := keys.row_eq there stored key rowKey
      exact merged
  · -- Any other event is retired already, or not to be retired.
    have other : ∀ row : StreamEvent, row.key = event.key → ∀ scheduleId schedule date,
        IsCurrent db streamId window scheduleId schedule date →
        row.key ≠ some (streamId, .streamSchedule, schedule.sourceId scheduleId date) :=
      fun row same scheduleId schedule date current key =>
        occurrence ⟨scheduleId, schedule, date, current, same ▸ key⟩
    rw [refreshed.others eventId event (other event rfl)]
    constructor
    · intro there
      obtain ⟨old, stored, rfl⟩ := Table.mem_updateWhere.mp there
      split at other
      · rename_i retirable
        rw [if_pos retirable, settled.retired eventId old stored (other old rfl) retirable]
        exact stored
      · rwa [if_neg ‹_›]
    · intro stored
      refine Table.mem_updateWhere.mpr ⟨event, stored, ?_⟩
      split
      · exact (settled.retired eventId event stored (other event rfl) ‹_›).symm
      · rfl

/-- A refresh of what a refresh would leave assigns no id. -/
theorem IsRefreshed.next_eq {count : ℕ} {db : Finance} {rows : List StreamEvent}
    (settled : IsRefreshed now streamId streamName window count db)
    (projected : projections now streamId streamName window (activeSchedules db streamId) =
      .ok rows) : ((retireProjections now streamId window db.events).upsertAll sameSource
        StreamEvent.reprojected rows).next = db.events.next := by
  -- Each row is merged into an event that is there.
  refine Table.upsertAll_next (fun row member => ?_) fun row _ other _ old conflict => ?_
  · obtain ⟨scheduleId, schedule, date, active, occurs, rfl⟩ :=
      (mem_projections _ projected row).mp member
    obtain ⟨known, stream, active⟩ := mem_activeSchedules.mp active
    obtain ⟨eventId, event, stored, key, -⟩ :=
      settled.current scheduleId schedule date ⟨known, stream, active, occurs⟩
    refine ⟨eventId, _, Table.mem_updateWhere.mpr ⟨event, stored, rfl⟩, ?_⟩
    refine sameSource_iff.mpr ⟨_, projectedEvent_key scheduleId schedule date, ?_⟩
    rw [← key]
    split <;> rfl
  · obtain ⟨key, fresh, stored⟩ := sameSource_iff.mp conflict
    exact sameSource_iff.mpr ⟨key, fresh, (reprojected_key row old).trans stored⟩

/-- A refresh of what a refresh would leave changes nothing. -/
theorem IsRefreshed.again {count : ℕ} {db : Finance}
    (settled : IsRefreshed now streamId streamName window count db)
    (keys : UniqueKey StreamEvent.key db.events) :
    refreshStreamScheduleEventsOn now streamId streamName window db = .ok (count, db) := by
  obtain ⟨rows, projected, rfl⟩ := settled.projected
  obtain ⟨result, done⟩ : ∃ result, refreshStreamScheduleEventsOn now streamId streamName window db =
      .ok result ∧ result.1 = rows.length ∧ result.2.events.next = db.events.next := by
    simp only [refreshStreamScheduleEventsOn, bind_eq_ok, pure_eq_ok]
    exact ⟨_, ⟨_, projectSchedules_ok _ projected _, rfl⟩, rfl, settled.next_eq projected⟩
  obtain ⟨done, count, next⟩ := done
  have refreshed := refreshStreamScheduleEventsOn_refreshed keys done
  have same : result.2 = db := by
    rw [refreshed.frame, settled.events_eq keys refreshed next]
  rw [done, ← count, ← same]

/-- Other streams' events are left alone. -/
theorem Refreshed.elsewhere {before after : Finance}
    (refreshed : Refreshed now streamId streamName window before after) {eventId : ℕ}
    {event : StreamEvent} (other : event.streamId ≠ streamId) :
    (eventId, event) ∈ after.events ↔ (eventId, event) ∈ before.events := by
  rw [refreshed.others eventId event fun scheduleId schedule date _ key =>
    other (StreamEvent.key_eq_some.mp key).1]
  constructor
  · intro there
    obtain ⟨old, stored, rfl⟩ := Table.mem_updateWhere.mp there
    split at other
    · rename_i retirable
      simp only [isRetirable, Bool.and_eq_true, beq_iff_eq] at retirable
      exact absurd retirable.1.1.1.1.1 other
    · rwa [if_neg ‹_›]
  · intro stored
    refine Table.mem_updateWhere.mpr ⟨event, stored, (if_neg fun retirable => ?_).symm⟩
    simp only [isRetirable, Bool.and_eq_true, beq_iff_eq] at retirable
    exact other retirable.1.1.1.1.1

/-- A refresh of one stream leaves the projections of another as they are. -/
theorem IsRefreshed.keeps {count otherId : ℕ} {otherName : String} {before after : Finance}
    (settled : IsRefreshed now streamId streamName window count before) (apart : streamId ≠ otherId)
    (refreshed : Refreshed now otherId otherName window before after) :
    IsRefreshed now streamId streamName window count after := by
  have schedules : after.schedules = before.schedules := by rw [refreshed.frame]
  refine ⟨?_, ?_, ?_⟩
  · have active : activeSchedules after streamId = activeSchedules before streamId := by
      rw [activeSchedules, schedules, activeSchedules]
    rw [active]
    exact settled.projected
  · intro scheduleId schedule date current
    obtain ⟨eventId, event, stored, key, fixed⟩ :=
      settled.current scheduleId schedule date (current.congr schedules.symm)
    have here : event.streamId = streamId := (StreamEvent.key_eq_some.mp key).1
    exact ⟨eventId, event, (refreshed.elsewhere (here ▸ apart)).mpr stored, key, fixed⟩
  · intro eventId event stored other retirable
    have here : event.streamId = streamId := by
      simp only [isRetirable, Bool.and_eq_true, beq_iff_eq] at retirable
      exact retirable.1.1.1.1.1
    exact settled.retired eventId event ((refreshed.elsewhere (here ▸ apart)).mp stored)
      (fun scheduleId schedule date current => other scheduleId schedule date
        (current.congr schedules)) retirable

end

/--
A second refresh of the same window succeeds, changes no other table, and leaves under every id
the event that the first one has left, but for the time of its last update.
-/
theorem refresh_idempotent {platform : Platform} {db : Domain}
    (reached : (domainSystem platform).Reachable db) {now again streamName : String} {streamId : ℕ}
    {window : ProjectionWindow} {first : ℕ × Finance}
    (done : refreshStreamScheduleEventsOn now streamId streamName window db.finance = .ok first) :
    ∃ second, refreshStreamScheduleEventsOn again streamId streamName window first.2 = .ok second ∧
      second.1 = first.1 ∧ second.2 = { first.2 with events := second.2.events } ∧
      ∀ eventId, (second.2.events.get? eventId).map StreamEvent.unstamped =
        (first.2.events.get? eventId).map StreamEvent.unstamped := by
  -- At the same time the second run changes nothing, and the time only matters for the stamps.
  have keys := reachable_consistent reached
  have one := refreshStreamScheduleEventsOn_refreshed keys.eventKeys done
  have fixed := (refreshStreamScheduleEventsOn_isRefreshed keys.eventKeys done).again one.unique
  have same : unstampedResult (refreshStreamScheduleEventsOn again streamId streamName window
      first.2) = .ok (first.1, first.2.unstamped) := by
    rw [refreshStreamScheduleEventsOn_unstamped, ← refreshStreamScheduleEventsOn_unstamped, fixed]
    rfl
  obtain ⟨second, repeated, alike⟩ := unstampedResult_eq_ok.mp same
  refine ⟨(first.1, second), repeated, rfl, (refreshStreamScheduleEventsOn_writes repeated).2,
    fun eventId => ?_⟩
  have events : second.events.map StreamEvent.unstamped =
    first.2.events.map StreamEvent.unstamped := congrArg Finance.events alike
  rw [← Table.get?_map, events, Table.get?_map]

/-- A refresh after the user's decisions can be repeated. -/
theorem refresh_idempotent_decided :
    ∃ first second, refreshStreamScheduleEventsOn "2026-01-06T00:00:00Z" 1 "Allowance" twoWeeks
      decidedDomain.finance = .ok first ∧
      refreshStreamScheduleEventsOn "2026-01-07T00:00:00Z" 1 "Allowance" twoWeeks first.2 =
        .ok second ∧ second.1 = first.1 := by
  have refreshes : (refreshStreamScheduleEventsOn "2026-01-06T00:00:00Z" 1 "Allowance" twoWeeks
      decidedDomain.finance).toOption.isSome = true := by decide +kernel
  obtain ⟨first, done⟩ := Option.isSome_iff_exists.mp refreshes
  have done := toOption_eq_some.mp done
  obtain ⟨second, repeated, count, -⟩ := refresh_idempotent decidedDomain_reachable done
  exact ⟨first, second, done, repeated, count⟩

end FinStream
