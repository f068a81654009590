import FinStream.Finance.Operation

/-! What a refresh leaves of every event, in terms of the dates its schedules fall on. -/

namespace FinStream

open Store

/-- What a schedule and a window mean: the dates on the cadence within both. -/
def StreamSchedule.OccursOn (schedule : StreamSchedule) (window : ProjectionWindow)
    (date : IsoDate) : Prop :=
  schedule.startDate ≤ date ∧ (∀ endDate ∈ schedule.endDate, date ≤ endDate) ∧
    window.from_ ≤ date ∧ date ≤ window.through ∧
    OnCadence schedule.frequency schedule.startDate schedule.dayOfMonth date

/-- The computed occurrences are the dates the schedule occurs on. -/
theorem mem_occurrencesIn {schedule : StreamSchedule} {window : ProjectionWindow}
    {dates : List IsoDate} (found : occurrencesIn schedule window = .ok dates) (date : IsoDate) :
    date ∈ dates ↔ schedule.OccursOn window date := by
  have ends : date ≤ min (schedule.endDate.getD window.through) window.through ↔
      (∀ endDate ∈ schedule.endDate, date ≤ endDate) ∧ date ≤ window.through := by
    cases schedule.endDate <;> simp
  simp only [occurrencesIn, scheduleRange] at found
  split at found
  · -- The schedule ends before the window starts, or starts after it ends.
    rename_i empty
    split at empty
    · rename_i crossed
      simp only [pure_eq_ok] at found
      subst found
      simp only [List.not_mem_nil, false_iff]
      rintro ⟨started, ended, after, until_, -⟩
      exact absurd ((max_le started after).trans (ends.mpr ⟨ended, until_⟩)) (not_le.mpr crossed)
    · cases empty
  · rename_i rangeStart rangeEnd range
    split at range
    · cases range
    · simp only [Option.some.injEq, Prod.mk.injEq] at range
      obtain ⟨rfl, rfl⟩ := range
      rw [mem_scheduleOccurrences found, max_le_iff, ends]
      unfold StreamSchedule.OccursOn
      tauto

/-- The rows a refresh stores for some schedules, in order. -/
def projections (now : String) (streamId : ℕ) (streamName : String) (window : ProjectionWindow) :
    List (ℕ × StreamSchedule) → FinanceResult (List StreamEvent)
  | [] => pure []
  | (scheduleId, schedule) :: rest => do
    let occurrences ← occurrencesIn schedule window
    let others ← projections now streamId streamName window rest
    pure (occurrences.map (projectedEvent now streamId streamName scheduleId schedule) ++ others)

section

variable {now streamName : String} {streamId : ℕ} {window : ProjectionWindow}

/-- Projecting schedules upserts their rows one after the other. -/
theorem projectSchedules_eq_ok (pending : List (ℕ × StreamSchedule)) {events : Table StreamEvent}
    {result : ℕ × Table StreamEvent}
    (done : projectSchedules now streamId streamName window pending events = .ok result) :
    ∃ rows, projections now streamId streamName window pending = .ok rows ∧
      result = (rows.length, events.upsertAll sameSource StreamEvent.reprojected rows) := by
  -- Each schedule continues on the table that the last one has left.
  induction pending generalizing events result with
  | nil =>
    simp only [projectSchedules, pure_eq_ok] at done
    exact ⟨[], rfl, done.symm⟩
  | cons entry rest ih =>
    simp only [projectSchedules, bind_eq_ok, pure_eq_ok] at done
    obtain ⟨occurrences, found, ⟨count, after⟩, walked, rfl⟩ := done
    obtain ⟨rows, projected, same⟩ := ih walked
    simp only [Prod.mk.injEq] at same
    obtain ⟨rfl, rfl⟩ := same
    refine ⟨occurrences.map (projectedEvent now streamId streamName entry.1 entry.2) ++ rows,
      ?_, ?_⟩
    · simp only [projections, bind_eq_ok, pure_eq_ok]
      exact ⟨occurrences, found, rows, projected, rfl⟩
    · simp only [Table.upsertAll, List.foldl_append, List.foldl_map, List.length_append,
        List.length_map]
      rfl

/-- The rows a refresh stores are the projections of the dates its schedules occur on. -/
theorem mem_projections (pending : List (ℕ × StreamSchedule)) {rows : List StreamEvent}
    (projected : projections now streamId streamName window pending = .ok rows)
    (row : StreamEvent) : row ∈ rows ↔ ∃ scheduleId schedule date,
      (scheduleId, schedule) ∈ pending ∧ schedule.OccursOn window date ∧
        row = projectedEvent now streamId streamName scheduleId schedule date := by
  -- A row comes from the first schedule or from one of the others.
  induction pending generalizing rows with
  | nil =>
    simp only [projections, pure_eq_ok] at projected
    subst projected
    simp
  | cons entry rest ih =>
    simp only [projections, bind_eq_ok, pure_eq_ok] at projected
    obtain ⟨occurrences, found, others, tail, rfl⟩ := projected
    rw [List.mem_append, List.mem_map, ih tail]
    constructor
    · rintro (⟨date, member, rfl⟩ | ⟨scheduleId, schedule, date, member, occurs, rfl⟩)
      · exact ⟨entry.1, entry.2, date, List.mem_cons_self, (mem_occurrencesIn found date).mp member,
          rfl⟩
      · exact ⟨scheduleId, schedule, date, List.mem_cons_of_mem _ member, occurs, rfl⟩
    · rintro ⟨scheduleId, schedule, date, member, occurs, rfl⟩
      rcases List.mem_cons.mp member with rfl | later
      · exact .inl ⟨date, (mem_occurrencesIn found date).mpr occurs, rfl⟩
      · exact .inr ⟨scheduleId, schedule, date, later, occurs, rfl⟩

/-- Whether a date is one that an active schedule of the stream occurs on within the window. -/
structure IsCurrent (db : Finance) (streamId : ℕ) (window : ProjectionWindow) (scheduleId : ℕ)
    (schedule : StreamSchedule) (date : IsoDate) : Prop where
  /-- The schedule is stored. -/
  stored : (scheduleId, schedule) ∈ db.schedules
  /-- The schedule is the stream's. -/
  stream : schedule.streamId = streamId
  /-- The schedule is active. -/
  active : schedule.isActive = true
  /-- The schedule occurs on the date. -/
  occurs : schedule.OccursOn window date

/-- The source id an occurrence of a schedule is stored under. -/
def StreamSchedule.sourceId (scheduleId : ℕ) (schedule : StreamSchedule) (date : IsoDate) :
    SourceId :=
  .streamSchedule scheduleId (projectionSlot schedule.frequency schedule.startDate date)

/-- The key of a projection. -/
theorem projectedEvent_key (scheduleId : ℕ) (schedule : StreamSchedule) (date : IsoDate) :
    (projectedEvent now streamId streamName scheduleId schedule date).key =
      some (streamId, .streamSchedule, schedule.sourceId scheduleId date) := rfl

/-- Current dates stored under one source id are one date of one schedule. -/
theorem IsCurrent.unique {db : Finance} {left right : ℕ}
    {leftSchedule rightSchedule : StreamSchedule}
    {leftDate rightDate : IsoDate}
    (leftCurrent : IsCurrent db streamId window left leftSchedule leftDate)
    (rightCurrent : IsCurrent db streamId window right rightSchedule rightDate)
    (same : leftSchedule.sourceId left leftDate = rightSchedule.sourceId right rightDate) :
    left = right ∧ leftSchedule = rightSchedule ∧ leftDate = rightDate := by
  simp only [StreamSchedule.sourceId, SourceId.streamSchedule.injEq] at same
  obtain ⟨rfl, slots⟩ := same
  obtain rfl := Table.unique leftCurrent.stored rightCurrent.stored
  exact ⟨rfl, rfl, projectionSlot_injective leftCurrent.occurs.2.2.2.2 rightCurrent.occurs.2.2.2.2
    slots⟩

/-- Reprojecting an event keeps its key. -/
theorem reprojected_key (fresh event : StreamEvent) :
    (fresh.reprojected event).key = event.key := by
  unfold StreamEvent.reprojected
  split <;> rfl

/-- Reprojecting an event twice changes nothing the second time. -/
theorem reprojected_again (fresh event : StreamEvent) :
    fresh.reprojected (fresh.reprojected event) = fresh.reprojected event := by
  cases open_ : event.isOpen with
  | false => simp [StreamEvent.reprojected, open_]
  | true =>
    have still : (fresh.reprojected event).isOpen = true := by
      rw [StreamEvent.reprojected, if_pos open_]
      exact open_
    rw [StreamEvent.reprojected, if_pos still]
    simp only [StreamEvent.reprojected, if_pos open_]
    split <;> simp_all

/-- A tombstone is reprojected like the event it was. -/
theorem reprojected_tombstoned {event : StreamEvent} (fresh : StreamEvent)
    (open_ : event.isOpen = true) (undecided : event.exclusionReason ≠ some .user) :
    fresh.reprojected (event.tombstoned now) = fresh.reprojected event := by
  have still : (event.tombstoned now).isOpen = true := open_
  rw [StreamEvent.reprojected, StreamEvent.reprojected, if_pos open_, if_pos still]
  simp [StreamEvent.tombstoned, undecided]

/-- The rows a refresh stores can be upserted on the key of events. -/
theorem projections_merges {db : Finance} {rows : List StreamEvent}
    (projected : projections now streamId streamName window (activeSchedules db streamId)
      = .ok rows) :
    Table.Merges sameSource StreamEvent.reprojected StreamEvent.key rows := by
  -- Every row is the projection of a current occurrence, and its key names the occurrence.
  have current : ∀ row ∈ rows, ∃ scheduleId schedule date,
      IsCurrent db streamId window scheduleId schedule date ∧
        row = projectedEvent now streamId streamName scheduleId schedule date := by
    intro row member
    obtain ⟨scheduleId, schedule, date, active, occurs, same⟩ :=
      (mem_projections _ projected row).mp member
    obtain ⟨stored, stream, active⟩ := mem_activeSchedules.mp active
    exact ⟨scheduleId, schedule, date, ⟨stored, stream, active, occurs⟩, same⟩
  constructor
  · intro row member
    obtain ⟨_, _, _, -, rfl⟩ := current row member
    rfl
  · intro left leftMember right rightMember same
    obtain ⟨_, _, _, leftCurrent, rfl⟩ := current left leftMember
    obtain ⟨_, _, _, rightCurrent, rfl⟩ := current right rightMember
    simp only [projectedEvent_key, Option.some.injEq, Prod.mk.injEq, true_and] at same
    obtain ⟨rfl, rfl, rfl⟩ := leftCurrent.unique rightCurrent same
    rfl
  · intro row member old
    obtain ⟨_, _, _, -, rfl⟩ := current row member
    rw [sameSource_iff, projectedEvent_key]
    constructor
    · rintro ⟨_, fresh, has⟩
      exact has.trans fresh.symm
    · exact fun has => ⟨_, rfl, has⟩
  · exact fun row _ old => reprojected_key row old
  · exact fun row _ old => reprojected_again row old
  · intro row member
    obtain ⟨_, _, _, -, rfl⟩ := current row member
    rfl

/-- What a refresh leaves, row by row. -/
structure Refreshed (now : String) (streamId : ℕ) (streamName : String) (window : ProjectionWindow)
    (before after : Finance) : Prop where
  /-- No table but the events changes. -/
  frame : after = { before with events := after.events }
  /-- Keys stay unique. -/
  unique : UniqueKey StreamEvent.key after.events
  /-- Events of no current occurrence are retired if they can be, and left alone otherwise. -/
  others : ∀ eventId event,
    (∀ scheduleId schedule date, IsCurrent before streamId window scheduleId schedule date →
      event.key ≠ some (streamId, .streamSchedule, schedule.sourceId scheduleId date)) →
    ((eventId, event) ∈ after.events ↔
      (eventId, event) ∈ retireProjections now streamId window before.events)
  /-- The event stored for an occurrence is projected again. -/
  merged : ∀ scheduleId schedule date, IsCurrent before streamId window scheduleId schedule date →
    ∀ eventId old, (eventId, old) ∈ before.events →
      old.key = some (streamId, .streamSchedule, schedule.sourceId scheduleId date) →
      (eventId, (projectedEvent now streamId streamName scheduleId schedule date).reprojected old) ∈
        after.events
  /-- An event is inserted for an occurrence that has none. -/
  inserted : ∀ scheduleId schedule date,
    IsCurrent before streamId window scheduleId schedule date →
    (∀ eventId old, (eventId, old) ∈ before.events →
      old.key ≠ some (streamId, .streamSchedule, schedule.sourceId scheduleId date)) →
    ∃ eventId, before.events.next ≤ eventId ∧
      (eventId, projectedEvent now streamId streamName scheduleId schedule date) ∈ after.events

/-- A refresh that succeeds retires, reprojects and inserts events as its schedules ask. -/
theorem refreshStreamScheduleEventsOn_refreshed {db : Finance} {result : ℕ × Finance}
    (keys : UniqueKey StreamEvent.key db.events)
    (done : refreshStreamScheduleEventsOn now streamId streamName window db = .ok result) :
    Refreshed now streamId streamName window db result.2 := by
  simp only [refreshStreamScheduleEventsOn, bind_eq_ok, pure_eq_ok] at done
  obtain ⟨_, walked, rfl⟩ := done
  obtain ⟨rows, projected, rfl⟩ := projectSchedules_eq_ok _ walked
  have retired := (retireProjections_writes db.schedules now streamId window db.events).unique keys
  have all := Table.upsertedAll (projections_merges projected) retired
  have member : ∀ scheduleId schedule date,
      IsCurrent db streamId window scheduleId schedule date →
      projectedEvent now streamId streamName scheduleId schedule date ∈ rows := by
    intro scheduleId schedule date current
    refine (mem_projections _ projected _).mpr ⟨scheduleId, schedule, date, ?_, current.occurs, rfl⟩
    exact mem_activeSchedules.mpr ⟨current.stored, current.stream, current.active⟩
  refine ⟨rfl, all.unique, ?_, ?_, ?_⟩
  · intro eventId event different
    refine all.others eventId event fun row stored => ?_
    obtain ⟨scheduleId, schedule, date, active, occurs, rfl⟩ :=
      (mem_projections _ projected row).mp stored
    obtain ⟨known, stream, active⟩ := mem_activeSchedules.mp active
    exact different scheduleId schedule date ⟨known, stream, active, occurs⟩
  · -- Whether or not the event was retired first, projecting it again gives the same row.
    intro scheduleId schedule date current eventId old stored key
    have there : (eventId, if isRetirable streamId window old then old.tombstoned now else old) ∈
        retireProjections now streamId window db.events :=
      Table.mem_updateWhere.mpr ⟨old, stored, rfl⟩
    have merged := all.merged _ (member scheduleId schedule date current) eventId _ there
      (by split <;> exact key)
    split at merged
    · rename_i retirable
      simp only [isRetirable, Bool.and_eq_true, bne_iff_ne] at retirable
      rwa [reprojected_tombstoned _ retirable.1.1.2 retirable.2] at merged
    · exact merged
  · intro scheduleId schedule date current missing
    refine all.inserted _ (member scheduleId schedule date current) fun eventId old there same => ?_
    obtain ⟨row, stored, rfl⟩ := Table.mem_updateWhere.mp there
    refine missing eventId row stored ?_
    rw [← projectedEvent_key scheduleId schedule date, ← same]
    split <;> rfl

/-- After a refresh an occurrence has exactly one event: its old one reprojected, or a new one. -/
theorem Refreshed.event {before after : Finance}
    (refreshed : Refreshed now streamId streamName window before after) {scheduleId : ℕ}
    {schedule : StreamSchedule} {date : IsoDate}
    (current : IsCurrent before streamId window scheduleId schedule date) :
    let fresh := projectedEvent now streamId streamName scheduleId schedule date
    ∃ eventId event, (eventId, event) ∈ after.events ∧ event.key = fresh.key ∧
      (∀ other otherEvent, (other, otherEvent) ∈ after.events → otherEvent.key = fresh.key →
        other = eventId ∧ otherEvent = event) ∧
      ((∃ old, (eventId, old) ∈ before.events ∧ old.key = fresh.key ∧
          event = fresh.reprojected old) ∨
        ((∀ old, (eventId, old) ∉ before.events) ∧ event = fresh)) := by
  intro fresh
  have alone : ∀ eventId event, (eventId, event) ∈ after.events → event.key = fresh.key →
      ∀ other otherEvent, (other, otherEvent) ∈ after.events → otherEvent.key = fresh.key →
        other = eventId ∧ otherEvent = event :=
    fun eventId event stored same other otherEvent otherStored otherSame =>
      refreshed.unique.row_eq otherStored stored otherSame same
  -- Keys are unique, so the row is the one that was projected over, or the one inserted.
  by_cases known : ∃ eventId old, (eventId, old) ∈ before.events ∧ old.key = fresh.key
  · obtain ⟨eventId, old, stored, same⟩ := known
    have merged := refreshed.merged scheduleId schedule date current eventId old stored same
    have key := (reprojected_key fresh old).trans same
    exact ⟨eventId, _, merged, key, alone _ _ merged key, .inl ⟨old, stored, same, rfl⟩⟩
  · obtain ⟨eventId, above, inserted⟩ := refreshed.inserted scheduleId schedule date current
      fun eventId old stored same => known ⟨eventId, old, stored, same⟩
    refine ⟨eventId, fresh, inserted, rfl, alone _ _ inserted rfl, .inr ⟨fun old stored => ?_, rfl⟩⟩
    exact absurd (Table.lt_next stored) (Nat.not_lt.mpr above)

/-- An event that is not open is left alone by a projection. -/
theorem reprojected_closed {fresh event : StreamEvent} (closed : event.status = .received) :
    fresh.reprojected event = event := by
  have shut : event.isOpen = false := by simp [StreamEvent.isOpen, closed]
  simp [StreamEvent.reprojected, shut]

/-- An event that is open is projected again with the values of the new row. -/
theorem reprojected_open {fresh event : StreamEvent} (open_ : event.status ≠ .received) :
    fresh.reprojected event = { event with
      accountId := fresh.accountId
      label := fresh.label
      expectedDate := fresh.expectedDate
      amount := fresh.amount
      metadata := fresh.metadata
      exclusionReason := if event.exclusionReason == some .user then some .user else none
      updatedAt := fresh.updatedAt } :=
  if_pos (StreamEvent.isOpen_iff.mpr open_)

end

end FinStream
