import FinStream.Finance.Requests
import FinStream.Finance.SlotText
import FinStream.Integrations.DateReading
import FinStream.Migration.Forecast

/-! The slots of migrated events: they are the application's, and no two events share one. -/

namespace FinStream.Migration

open Calendar Store

/-! ### One date in both libraries -/

/-- The two date libraries hold the same day. -/
structure NaiveDate.Names (naive : NaiveDate) (date : IsoDate) : Prop where
  year : naive.year = date.year
  month : naive.month = date.month
  day : naive.day = date.day

/-- The libraries count days from the same day on. -/
theorem NaiveDate.Names.dayNumber {naive : NaiveDate} {date : IsoDate} (same : naive.Names date) :
    naive.dayNumber = date.dayNumber := by
  have day := same.day
  unfold IsoDate.day at day
  rw [date.monthIndex_eq, ← same.year, ← same.month] at day
  unfold NaiveDate.dayNumber
  omega

/-- A text that both libraries read is the same day in both. -/
theorem NaiveDate.parse_names {text : String} {naive : NaiveDate} {date : IsoDate}
    (read : NaiveDate.parse text = some naive) (stored : IsoDate.fromStr text = .ok date) :
    naive.Names date := by
  obtain ⟨era, rfl⟩ := IsoDate.fromStr_eq_ok.mp stored
  simp only [NaiveDate.parse, parseNaiveDate_toText era, Option.bind_eq_bind, Option.bind_some]
    at read
  split at read
  · obtain rfl := Option.some.inj read
    exact ⟨rfl, rfl, rfl⟩
  · cases read

/-! ### One slot in both programs -/

/-- Steps of a cadence are counted alike; the exporter refuses dates that are off the cadence. -/
theorem indexedSlot_text {name : String} {anchor occurrence : NaiveDate} {stepDays eventId : ℤ}
    {slot : String} (slotted : indexedSlot name anchor occurrence stepDays eventId = .ok slot)
    {start date : IsoDate} (starts : anchor.Names start) (falls : occurrence.Names date) :
    slot = name ++ ":" ++ toString ((start.daysUntil date).tdiv stepDays) := by
  simp only [indexedSlot, bind_eq_ok, pure_eq_ok, starts.dayNumber, falls.dayNumber] at slotted
  obtain ⟨_, -, rfl⟩ := slotted
  rfl

/-- Where the exporter finds a slot, the application reads the cadence and finds the same slot. -/
theorem projectionSlot_agrees {frequency : String} {anchor occurrence : NaiveDate} {eventId : ℤ}
    {slot : String} (slotted : projectionSlot frequency anchor occurrence eventId = .ok slot) :
    ∃ cadence, ScheduleFrequency.fromStr frequency = some cadence ∧
      ∀ start date : IsoDate, anchor.Names start → occurrence.Names date →
        slot = (FinStream.projectionSlot cadence start date).text := by
  unfold projectionSlot at slotted
  split at slotted
  · refine ⟨.monthly, rfl, fun start date _ falls => ?_⟩
    rw [falls.year, falls.month] at slotted
    exact (Except.ok.inj slotted).symm
  · refine ⟨.semimonthly, rfl, fun start date _ falls => ?_⟩
    rw [falls.year, falls.month, falls.day] at slotted
    -- A date that is not the fifteenth has to be the last day of its month.
    split at slotted
    · rename_i mid
      have half : ":" ++ Half.mid.text = ":mid" := by decide
      rw [← Except.ok.inj slotted, FinStream.projectionSlot, if_pos mid, Slot.text_semimonthly, half]
      rfl
    · rename_i later
      simp only [bind_eq_ok, pure_eq_ok] at slotted
      obtain ⟨last, -, _, -, rfl⟩ := slotted
      have half : ":" ++ Half.end_.text = ":end" := by decide
      rw [FinStream.projectionSlot, if_neg later, Slot.text_semimonthly, half]
      rfl
  · exact ⟨.weekly, rfl, fun start date starts falls => indexedSlot_text slotted starts falls⟩
  · exact ⟨.biweekly, rfl, fun start date starts falls => indexedSlot_text slotted starts falls⟩
  · refine ⟨.annual, rfl, fun start date _ falls => ?_⟩
    rw [falls.year] at slotted
    exact (Except.ok.inj slotted).symm
  · exact ⟨.oneTime, rfl, fun start date _ _ => (Except.ok.inj slotted).symm⟩
  · cases slotted

/-! ### Identities -/

/-- A row that the given slot of the given schedule identifies. -/
structure StreamEventRow.Keyed (row : StreamEventRow) (scheduleId : ℤ) (slot : String) : Prop where
  sourceType : row.sourceType = some "stream_schedule"
  sourceId : row.sourceId = some (projectionSourceId scheduleId slot)

/-- What becomes of an event that a schedule generated: the slot of its occurrence is its key. -/
structure SlotOf (schedules : List StreamScheduleRow) (source : SourceEvent)
    (row : StreamEventRow) (schedule : StreamScheduleRow) (occurrence : NaiveDate)
    (slot : String) : Prop where
  found : schedules.find? (·.id == schedule.id) = some schedule
  named : ∃ sourceId, source.sourceId = some sourceId ∧
    parseLegacySourceId sourceId source.id = .ok (schedule.id, occurrence)
  slotted : ∃ anchor, NaiveDate.parse schedule.startDate = some anchor ∧
    projectionSlot schedule.frequency anchor occurrence source.id = .ok slot
  keyed : row.Keyed schedule.id slot
  streamId : row.streamId = schedule.streamId

/-- An event that a schedule generated gets a slot of that schedule. -/
theorem transformEvent_slot {platform : ExportPlatform} {shape : StreamSourceShape}
    {source : SourceEvent} {legacy : LegacyEventRow} {streams : List StreamRow}
    {schedules : List StreamScheduleRow} {row : StreamEventRow}
    (generated : source.sourceType = some "stream_schedule")
    (read : legacyEvent platform shape source = .ok legacy)
    (done : transformEvent legacy streams schedules = .ok row) :
    ∃ schedule occurrence slot, SlotOf schedules source row schedule occurrence slot := by
  simp only [legacyEvent, bind_eq_ok, pure_eq_ok] at read
  -- Reading keeps the type and the source id, from which the schedule is found.
  obtain ⟨amount, -, status, -, actualDate, -, expectedDate, -, metadata, -, createdAt, -,
    updatedAt, -, rfl⟩ := read
  simp only [transformEvent, bind_eq_ok, generated, if_true, required_eq_ok, ensure_eq_ok,
    beq_iff_eq] at done
  obtain ⟨_, -, _, -, sourceId, identified, ⟨scheduleId, occurrence⟩, named, schedule, found, _,
    sameStream, stream, -, anchor, starts, slot, slotted, same⟩ := done
  obtain rfl := Except.ok.inj same
  have number := List.find?_some found
  simp only [beq_iff_eq] at number
  subst number
  simp only [parseDate, required_eq_ok] at starts
  exact ⟨schedule, occurrence, slot, found, ⟨sourceId, identified, named⟩,
    ⟨anchor, starts, mapError_eq_ok.mp slotted⟩, ⟨rfl, rfl⟩, sameStream.symm⟩

/-- Events that are not refused have identities of their own, unless they have none. -/
theorem validateIdentities_pairwise {earlier events : List StreamEventRow} {done : PUnit}
    (valid : validateIdentities earlier events = .ok done) :
    (∀ event ∈ events, event.identity.isSome = true →
      ∀ previous ∈ earlier, previous.identity ≠ event.identity) ∧
    events.Pairwise fun left right =>
      right.identity.isSome = true → left.identity ≠ right.identity := by
  induction events generalizing earlier with
  | nil => exact ⟨fun _ member => absurd member List.not_mem_nil, List.Pairwise.nil⟩
  | cons event rest ih =>
    unfold validateIdentities at valid
    split at valid
    · cases valid
    · rename_i fresh
      -- What the rest is told apart from includes this event.
      obtain ⟨others, pairwise⟩ := ih valid
      rw [List.forall_mem_cons, List.pairwise_cons]
      refine ⟨⟨?_, ?_⟩, ?_, pairwise⟩
      · intro identified previous member same
        have apart := List.find?_eq_none.mp fresh previous member
        simp only [identified, same, Bool.true_and, beq_self_eq_true, not_true_eq_false] at apart
      · intro other member identified previous before
        exact others other member identified previous (List.mem_cons_of_mem _ before)
      · intro other member identified
        exact others other member identified event List.mem_cons_self

/-- The source id of a key tells the schedule and the slot. -/
theorem StreamEventRow.Keyed.unique {row : StreamEventRow} {scheduleId otherId : ℤ}
    {slot other : String} (keyed : row.Keyed scheduleId slot) (also : row.Keyed otherId other) :
    scheduleId = otherId ∧ slot = other :=
  projectionSourceId_inj (Option.some.inj (keyed.sourceId.symm.trans also.sourceId))

/-- A row has the source type of the event it comes from. -/
theorem transformEvent_sourceType {legacy : LegacyEventRow} {streams : List StreamRow}
    {schedules : List StreamScheduleRow} {row : StreamEventRow}
    (done : transformEvent legacy streams schedules = .ok row) :
    row.sourceType = legacy.sourceType := by
  cases transformEvent_ok done with
  | plain => rfl
  | scheduled => rfl

/-- Rows with one schedule and one slot have one identity, so that both are not accepted. -/
theorem readStreamEvents_keys {platform : ExportPlatform} {shape : StreamSourceShape}
    {streams : List StreamRow} {schedules : List StreamScheduleRow} {rows : List SourceEvent}
    {events : List StreamEventRow}
    (read : readStreamEvents platform shape streams schedules rows = .ok events) :
    events.Pairwise fun left right => ∀ scheduleId slot otherId other,
      left.Keyed scheduleId slot → right.Keyed otherId other →
        (scheduleId, slot) ≠ (otherId, other) := by
  have sources := readStreamEvents_rows read
  simp only [readStreamEvents, bind_eq_ok, pure_eq_ok] at read
  obtain ⟨results, -, _, valid, same⟩ := read
  rw [same] at valid
  -- A key names a schedule, and the schedule names the stream.
  have streamOf : ∀ row ∈ events, ∀ scheduleId slot, row.Keyed scheduleId slot →
      ∃ schedule, schedules.find? (·.id == scheduleId) = some schedule ∧
        row.streamId = schedule.streamId := by
    intro row member scheduleId slot keyed
    obtain ⟨source, -, legacy, checked, done⟩ := forall₂_mem_right sources member
    have generated : source.sourceType = some "stream_schedule" := by
      rw [← (legacyEvent_ok checked).2.1, ← transformEvent_sourceType done]
      exact keyed.sourceType
    obtain ⟨schedule, occurrence, known, slotOf⟩ := transformEvent_slot generated checked done
    obtain ⟨rfl, rfl⟩ := slotOf.keyed.unique keyed
    exact ⟨schedule, slotOf.found, slotOf.streamId⟩
  refine (validateIdentities_pairwise valid).2.imp_of_mem ?_
  intro left right leftIn rightIn apart scheduleId slot otherId other keyed also same
  obtain ⟨rfl, rfl⟩ := Prod.mk.inj same
  obtain ⟨schedule, found, leftStream⟩ := streamOf left leftIn _ _ keyed
  obtain ⟨again, foundAgain, rightStream⟩ := streamOf right rightIn _ _ also
  obtain rfl := Option.some.inj (found.symm.trans foundAgain)
  have identity : ∀ row : StreamEventRow, row.Keyed scheduleId slot →
      row.identity = some (row.streamId, "stream_schedule", projectionSourceId scheduleId slot) := by
    intro row key
    rw [StreamEventRow.identity, key.sourceType, key.sourceId]
  refine apart ?_ ?_
  · rw [identity right also]
    rfl
  · rw [identity left keyed, identity right also, leftStream, rightStream]

/-- The exporter's slots are the application's. Every accepted event of a schedule is keyed by the
slot that the application computes for its occurrence, and no two accepted events have one key. -/
theorem migratedSlots_agree :
    (∀ (frequency : String) (anchor occurrence : NaiveDate) (eventId : ℤ) (slot : String),
      projectionSlot frequency anchor occurrence eventId = .ok slot →
      ∃ cadence, ScheduleFrequency.fromStr frequency = some cadence ∧
        ∀ start date : IsoDate, anchor.Names start → occurrence.Names date →
          slot = (FinStream.projectionSlot cadence start date).text) ∧
    ∀ (platform : ExportPlatform) (shape : StreamSourceShape) (streams : List StreamRow)
      (schedules : List StreamScheduleRow) (rows : List SourceEvent)
      (events : List StreamEventRow),
      readStreamEvents platform shape streams schedules rows = .ok events →
      List.Forall₂ (fun source row => source.sourceType = some "stream_schedule" →
        ∃ schedule occurrence slot, SlotOf schedules source row schedule occurrence slot ∧
          ∀ start date, IsoDate.fromStr schedule.startDate = .ok start → occurrence.Names date →
            ∃ cadence, ScheduleFrequency.fromStr schedule.frequency = some cadence ∧
              slot = (FinStream.projectionSlot cadence start date).text) rows events ∧
      events.Pairwise fun left right => ∀ scheduleId slot otherId other,
        left.Keyed scheduleId slot → right.Keyed otherId other →
          (scheduleId, slot) ≠ (otherId, other) := by
  refine ⟨fun _ _ _ _ _ => projectionSlot_agrees, ?_⟩
  intro platform shape streams schedules rows events read
  refine ⟨(readStreamEvents_rows read).imp ?_, readStreamEvents_keys read⟩
  rintro source row ⟨legacy, checked, done⟩ generated
  obtain ⟨schedule, occurrence, slot, slotOf⟩ := transformEvent_slot generated checked done
  refine ⟨schedule, occurrence, slot, slotOf, fun start date stored falls => ?_⟩
  obtain ⟨anchor, parsed, slotted⟩ := slotOf.slotted
  obtain ⟨cadence, named, same⟩ := projectionSlot_agrees slotted
  exact ⟨cadence, named, same start date (NaiveDate.parse_names parsed stored) falls⟩

/-- The rent of July a month later. -/
def laterRent : SourceEvent :=
  { movedRent with
    id := 8
    expectedDate := "2026-08-03"
    sourceId := some "stream_schedule:1:2026-08-01" }

/-- What the exporter makes of it. -/
def laterRentRow : StreamEventRow :=
  { movedRentRow with
    id := 8
    expectedDate := "2026-08-01"
    overrideDate := some "2026-08-03"
    sourceId := some "stream_schedule:1:monthly:2026-08" }

/-- Two months of rent have the keys of two months. -/
theorem migratedSlots_agree_rent :
    readStreamEvents newYearPlatform .upgraded [rentStream] [rentSchedule]
      [movedRent, laterRent] = .ok [movedRentRow, laterRentRow] ∧
    movedRentRow.Keyed 1 "monthly:2026-07" ∧ laterRentRow.Keyed 1 "monthly:2026-08" ∧
    ((1 : ℤ), "monthly:2026-07") ≠ (1, "monthly:2026-08") := by
  have read : readStreamEvents newYearPlatform .upgraded [rentStream] [rentSchedule]
      [movedRent, laterRent] = .ok [movedRentRow, laterRentRow] := by
    refine (eq_ok_getD (by decide +kernel) []).trans (congrArg _ ?_)
    decide +kernel
  have july : movedRentRow.Keyed 1 "monthly:2026-07" := ⟨rfl, by decide⟩
  have august : laterRentRow.Keyed 1 "monthly:2026-08" := ⟨rfl, by decide⟩
  have keys := (migratedSlots_agree.2 _ _ _ _ _ _ read).2
  exact ⟨read, july, august, List.rel_of_pairwise_cons keys List.mem_cons_self _ _ _ _ july august⟩

end FinStream.Migration
