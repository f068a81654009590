import FinStream.Finance.Forecast

/-! The values in force that each of the two readers of events shows. -/

namespace FinStream

open Store

/-- One event as the event list reports it. -/
structure EventView where
  id : ℕ
  streamId : ℕ
  accountId : Option ℕ
  label : Option String
  expectedDate : IsoDate
  amount : ℚ
  overrideLabel : Option String
  overrideDate : Option IsoDate
  overrideAmount : Option ℚ
  overrideAccountId : Option ℕ
  hasAccountOverride : Bool
  actualDate : Option IsoDate
  actualAmount : Option ℚ
  effectiveDate : IsoDate
  effectiveAmount : ℚ
  status : EventStatus
  isExcluded : Bool
  sourceId : Option SourceId
  sourceType : Option SourceType
  metadata : Option JsonText
  notes : Option String
  deriving DecidableEq

/-- The account the event list shows, which does not fall back to the default of the stream. -/
def StreamEvent.effectiveAccountId (event : StreamEvent) : Option ℕ :=
  if event.hasAccountOverride then event.overrideAccountId else event.accountId

/-- The view of a stored row. -/
def eventFromRow (entry : ℕ × StreamEvent) : EventView where
  id := entry.1
  streamId := entry.2.streamId
  accountId := entry.2.effectiveAccountId
  label := entry.2.effectiveLabel
  expectedDate := entry.2.expectedDate
  amount := entry.2.amount
  overrideLabel := entry.2.overrideLabel
  overrideDate := entry.2.overrideDate
  overrideAmount := entry.2.overrideAmount
  overrideAccountId := entry.2.overrideAccountId
  hasAccountOverride := entry.2.hasAccountOverride
  actualDate := entry.2.actualDate
  actualAmount := entry.2.actualAmount
  effectiveDate := entry.2.effectiveDate
  effectiveAmount := entry.2.effectiveAmount
  status := entry.2.status
  isExcluded := entry.2.isExcluded
  sourceId := entry.2.sourceId
  sourceType := entry.2.sourceType
  metadata := entry.2.metadata
  notes := entry.2.notes

namespace EventView

/-- The position of a view: by date, then by id. -/
def key (view : EventView) : IsoDate ×ₗ ℕ := toLex (view.effectiveDate, view.id)

/-- Whether a list of the range, the stream and the exclusions asked for has the view. -/
def isListed (from_ through : IsoDate) (streamId : Option ℕ) (includeExcluded : Bool)
    (view : EventView) : Bool :=
  from_ ≤ view.effectiveDate && view.effectiveDate ≤ through && streamId.all (view.streamId == ·) &&
    (includeExcluded || !view.isExcluded)

end EventView

/-- The events in force within a range, ordered by date and id. -/
def listEvents (db : Finance) (from_ through : IsoDate) (streamId : Option ℕ)
    (includeExcluded : Bool) : Except String (List EventView) := do
  ensure (from_ ≤ through) "event range ends before it starts"
  pure (((db.events.rows.map eventFromRow).filter
    (·.isListed from_ through streamId includeExcluded)).insertionSort
      fun left right => left.key ≤ right.key)

/-- What a reader shows of an event: the values in force. -/
structure EffectiveValues where
  label : Option String
  date : IsoDate
  amount : ℚ
  accountId : Option ℕ
  deriving DecidableEq

/-- The values in force in an event list, under the id of their event. -/
def EventView.shown (view : EventView) : ℕ × EffectiveValues :=
  (view.id, ⟨view.label, view.effectiveDate, view.effectiveAmount, view.accountId⟩)

/-- The values in force in a forecast query, under the id of their event. -/
def ForecastRow.shown (row : ForecastRow) : ℕ × EffectiveValues :=
  (row.eventId, ⟨row.label, row.date, row.amount, row.accountId⟩)

/-- Some event list of a stream shows these values for an event. -/
def Listed (db : Finance) (streamId : Option ℕ) (includeExcluded : Bool) (eventId : ℕ)
    (values : EffectiveValues) : Prop :=
  ∃ from_ through views, listEvents db from_ through streamId includeExcluded = .ok views ∧
    (eventId, values) ∈ views.map EventView.shown

/-- Some forecast query of a stream and a view shows these values for an event. -/
def Forecasted (db : Finance) (streamId viewId : Option ℕ) (eventId : ℕ)
    (values : EffectiveValues) : Prop :=
  ∃ from_ through, (eventId, values) ∈
    (forecastEvents db from_ through streamId viewId).map ForecastRow.shown

/-- What an event list shows of one row, if it lists the row. -/
def listReading (from_ through : IsoDate) (streamId : Option ℕ) (includeExcluded : Bool)
    (entry : ℕ × StreamEvent) : Option (ℕ × EffectiveValues) :=
  if (eventFromRow entry).isListed from_ through streamId includeExcluded then
    some (eventFromRow entry).shown
  else none

/-- What an event list shows is read row by row, and then sorted. -/
theorem listEvents_shown (db : Finance) (from_ through : IsoDate) (streamId : Option ℕ)
    (includeExcluded : Bool) :
    (listEvents db from_ through streamId includeExcluded).map (List.map EventView.shown) =
      (ensure (from_ ≤ through) "event range ends before it starts").map fun _ : Unit =>
        (db.events.rows.filterMap (listReading from_ through streamId
          includeExcluded)).insertionSort
            fun left right => toLex (left.2.date, left.1) ≤ toLex (right.2.date, right.1) := by
  have read : ((db.events.rows.map eventFromRow).filter
      (·.isListed from_ through streamId includeExcluded)).map EventView.shown =
        db.events.rows.filterMap (listReading from_ through streamId includeExcluded) := by
    -- Filtering the views and showing them commutes, row by row.
    induction db.events.rows with
    | nil => rfl
    | cons entry rest ih =>
      by_cases listed : (eventFromRow entry).isListed from_ through streamId includeExcluded = true
      · simp [listReading, listed, ih]
      · simp [listReading, listed, ih]
  rw [← read]
  unfold listEvents ensure
  split
  · -- The order of the views is the order of what they show.
    exact congrArg Except.ok (List.map_insertionSort _ _ _ _ fun _ _ _ _ => Iff.rfl)
  · rfl

/-- The values in force of an event, on an account that may default. -/
def StreamEvent.inForce (defaultAccountId : Option ℕ) (event : StreamEvent) : EffectiveValues where
  label := event.effectiveLabel
  date := event.effectiveDate
  amount := event.effectiveAmount
  accountId := if event.hasAccountOverride then event.overrideAccountId
    else event.accountId.or defaultAccountId

/-- The view of an event shows its values in force, with no default for the account. -/
theorem eventFromRow_shown (eventId : ℕ) (event : StreamEvent) :
    (eventFromRow (eventId, event)).shown = (eventId, event.inForce none) := by
  simp [eventFromRow, EventView.shown, StreamEvent.inForce, StreamEvent.effectiveAccountId]

/-- An event list reads the values in force of an event it lists. -/
theorem listReading_inForce (from_ through : IsoDate) (streamId : Option ℕ)
    (includeExcluded : Bool) (eventId : ℕ) (event : StreamEvent) :
    listReading from_ through streamId includeExcluded (eventId, event) =
      let values := event.inForce none
      if from_ ≤ values.date && values.date ≤ through && streamId.all (event.streamId == ·) &&
          (includeExcluded || !event.isExcluded) then
        some (eventId, values)
      else none := by
  rw [listReading, eventFromRow_shown]
  rfl

/-- An event list shows the values in force of the rows of its stream. -/
theorem listed_iff {db : Finance} {streamId : Option ℕ} {includeExcluded : Bool} {eventId : ℕ}
    {values : EffectiveValues} : Listed db streamId includeExcluded eventId values ↔
      ∃ event, (eventId, event) ∈ db.events ∧ streamId.all (event.streamId == ·) = true ∧
        (includeExcluded || !event.isExcluded) = true ∧ values = event.inForce none := by
  constructor
  · -- A listed view is the view of a stored row that the filter lets through.
    rintro ⟨from_, through, views, found, member⟩
    simp only [listEvents, bind_eq_ok, pure_eq_ok] at found
    obtain ⟨_, -, rfl⟩ := found
    obtain ⟨view, listed, shown⟩ := List.mem_map.mp member
    obtain ⟨there, holds⟩ := List.mem_filter.mp ((List.mem_insertionSort _).mp listed)
    obtain ⟨⟨id, event⟩, stored, rfl⟩ := List.mem_map.mp there
    simp only [EventView.isListed, Bool.and_eq_true] at holds
    rw [eventFromRow_shown] at shown
    cases shown
    exact ⟨event, stored, holds.1.2, holds.2, rfl⟩
  · rintro ⟨event, stored, ofStream, counted, rfl⟩
    -- The range of the event's own date has it.
    refine ⟨event.effectiveDate, event.effectiveDate, _, bind_eq_ok.mpr
      ⟨⟨⟩, ensure_eq_ok.mpr (by simp), rfl⟩,
      List.mem_map.mpr ⟨eventFromRow (eventId, event), ?_, eventFromRow_shown eventId event⟩⟩
    refine (List.mem_insertionSort _).mpr (List.mem_filter.mpr ⟨List.mem_map.mpr
      ⟨(eventId, event), stored, rfl⟩, ?_⟩)
    simp only [EventView.isListed, eventFromRow, le_refl, decide_true, Bool.true_and,
      Bool.and_eq_true]
    exact ⟨ofStream, counted⟩

/-- Whether the forecast of a stream and a view counts an event of a stream. -/
def isForecast (db : Finance) (streamId viewId : Option ℕ) (stream : Stream)
    (event : StreamEvent) : Bool :=
  stream.isActive && !event.isExcluded && streamId.all (event.streamId == ·) &&
    viewShows db viewId event.streamId

/-- A forecast query reads the values in force of an event it counts, on the default account. -/
theorem effectiveEvent_inForce (db : Finance) (streamId viewId : Option ℕ) (eventId : ℕ)
    (event : StreamEvent) : effectiveEvent db streamId viewId (eventId, event) =
      (db.streams.get? event.streamId).bind fun stream =>
        let values := event.inForce stream.defaultAccountId
        if isForecast db streamId viewId stream event then
          some
            { eventId, streamId := event.streamId, accountId := values.accountId
              hasAccountOverride := event.hasAccountOverride
              date := values.date, expectedDate := event.expectedDate
              actualDate := event.actualDate, label := values.label
              streamName := some stream.name
              accountName := (values.accountId.bind db.accounts.get?).map (·.name)
              amount := values.amount, status := event.status
              direction := stream.direction, amountCertainty := stream.amountCertainty
              sourceType := event.sourceType, metadata := event.metadata }
        else none := rfl

/-- A forecast query shows the values in force of the rows it counts, on the default account. -/
theorem forecasted_iff {db : Finance} {streamId viewId : Option ℕ} {eventId : ℕ}
    {values : EffectiveValues} : Forecasted db streamId viewId eventId values ↔
      ∃ event stream, (eventId, event) ∈ db.events ∧
        db.streams.get? event.streamId = some stream ∧
        isForecast db streamId viewId stream event = true ∧
        values = event.inForce stream.defaultAccountId := by
  constructor
  · -- A queried row was read from a stored event of a stored stream.
    rintro ⟨from_, through, member⟩
    obtain ⟨row, queried, shown⟩ := List.mem_map.mp member
    obtain ⟨there, -⟩ := List.mem_filter.mp ((List.mem_insertionSort _).mp queried)
    obtain ⟨⟨id, event⟩, stored, read⟩ := List.mem_filterMap.mp there
    simp only [effectiveEvent_inForce, Option.bind_eq_some_iff, Option.ite_none_right_eq_some,
      Option.some.injEq] at read
    obtain ⟨stream, found, counted, rfl⟩ := read
    cases shown
    exact ⟨event, stream, stored, found, counted, rfl⟩
  · rintro ⟨event, stream, stored, found, counted, rfl⟩
    have read : ∃ row, effectiveEvent db streamId viewId (eventId, event) = some row ∧
        row.shown = (eventId, event.inForce stream.defaultAccountId) := by
      rw [effectiveEvent_inForce, found, Option.bind_some]
      exact ⟨_, if_pos counted, rfl⟩
    obtain ⟨row, read, shown⟩ := read
    -- The range of the event's own date has it.
    refine ⟨row.date, row.date, List.mem_map.mpr ⟨row, (List.mem_insertionSort _).mpr
      (List.mem_filter.mpr ⟨List.mem_filterMap.mpr ⟨_, stored, read⟩, ?_⟩), shown⟩⟩
    simp [ForecastRow.inWindow]

end FinStream
