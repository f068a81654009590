import FinStream.Domain.System
import FinStream.Finance.EventViews

/-! Overriding one value of an event and taking the override back, as both readers show it. -/

namespace FinStream

open Store

/-- A value for one of the fields of an event that a user overrides. -/
inductive FieldValue where
  | label (value : String)
  | expectedDate (value : IsoDate)
  | amount (value : F64)
  | accountId (value : ℕ)

namespace FieldValue

/-- The patch that overrides one field with its value. -/
def set : FieldValue → EventPatch
  | label value => ⟨.set value, .keep, .keep, .keep, .keep⟩
  | expectedDate value => ⟨.keep, .set value, .keep, .keep, .keep⟩
  | amount value => ⟨.keep, .keep, .set value, .keep, .keep⟩
  | accountId value => ⟨.keep, .keep, .keep, .set value, .keep⟩

/-- The patch that takes the override of the field back. -/
def clear : FieldValue → EventPatch
  | label _ => ⟨.clear, .keep, .keep, .keep, .keep⟩
  | expectedDate _ => ⟨.keep, .clear, .keep, .keep, .keep⟩
  | amount _ => ⟨.keep, .keep, .clear, .keep, .keep⟩
  | accountId _ => ⟨.keep, .keep, .keep, .clear, .keep⟩

/-- Values that are the same but for the field. -/
def SameOthers : FieldValue → EffectiveValues → EffectiveValues → Prop
  | label _, before, after => after = { before with label := after.label }
  | expectedDate _, before, after => after = { before with date := after.date }
  | amount _, before, after => after = { before with amount := after.amount }
  | accountId _, before, after => after = { before with accountId := after.accountId }

/-- Whether taking the override back loses the label an event came with. -/
def losesLabel (event : StreamEvent) : FieldValue → Bool
  | label _ => event.label.isSome
  | _ => false

end FieldValue

/-! ### What readers show before and after -/

/-- Two states that both readers show alike, whatever they are asked for. -/
structure SameReadings (before after : Finance) : Prop where
  /-- Every event list has the same values in force, in the same order. -/
  listed : ∀ from_ through streamId includeExcluded,
    (listEvents after from_ through streamId includeExcluded).map (List.map EventView.shown) =
      (listEvents before from_ through streamId includeExcluded).map (List.map EventView.shown)
  /-- Every forecast query reads the same rows. -/
  queried : ∀ from_ through streamId viewId,
    forecastEvents after from_ through streamId viewId =
      forecastEvents before from_ through streamId viewId
  /-- Every forecast is the same. -/
  computed : ∀ query, computeForecast after query = computeForecast before query

/-- What is shown before and after is shown of the same events, with related values. -/
def ShownAlike (related : EffectiveValues → EffectiveValues → Prop)
    (before after : EffectiveValues → Prop) : Prop :=
  (∀ values, before values → ∃ now, after now ∧ related values now) ∧
    ∀ now, after now → ∃ values, before values ∧ related values now

/-- Both readers show an event before and after, with the same values but for one field. -/
structure OthersKept (field : FieldValue) (eventId : ℕ) (before after : Finance) : Prop where
  /-- Event lists have the event as before, whatever the stream and the exclusions asked for. -/
  listed : ∀ streamId includeExcluded, ShownAlike field.SameOthers
    (Listed before streamId includeExcluded eventId) (Listed after streamId includeExcluded eventId)
  /-- Forecast queries have the event as before, whatever the stream and the view asked for. -/
  forecast : ∀ streamId viewId, ShownAlike field.SameOthers
    (Forecasted before streamId viewId eventId) (Forecasted after streamId viewId eventId)

variable {now later : String} {field : FieldValue} {eventId : ℕ} {event : StreamEvent}
  {db patched : Finance}

/-- An update of one event that keeps its stream and its exclusion is shown in the other fields. -/
theorem othersKept_of_row {changed : StreamEvent} {events : Table StreamEvent}
    (stored : (eventId, event) ∈ db.events) (there : (eventId, changed) ∈ events)
    (stream : changed.streamId = event.streamId) (excluded : changed.isExcluded = event.isExcluded)
    (same : ∀ account, field.SameOthers (event.inForce account) (changed.inForce account)) :
    OthersKept field eventId db { db with events } := by
  -- Under one id there is one row before and one after, so these two are compared.
  have old : ∀ other, (eventId, other) ∈ db.events → other = event :=
    fun other member => Table.unique member stored
  have new : ∀ other, (eventId, other) ∈ events → other = changed :=
    fun other member => Table.unique member there
  refine ⟨fun streamId includeExcluded => ⟨?_, ?_⟩, fun streamId viewId => ⟨?_, ?_⟩⟩
  · intro values shown
    obtain ⟨_, member, ofStream, counted, rfl⟩ := listed_iff.mp shown
    obtain rfl := old _ member
    exact ⟨_, listed_iff.mpr ⟨changed, there, stream ▸ ofStream, excluded ▸ counted, rfl⟩, same _⟩
  · intro values shown
    obtain ⟨_, member, ofStream, counted, rfl⟩ := listed_iff.mp shown
    obtain rfl := new _ member
    exact ⟨_, listed_iff.mpr ⟨event, stored, stream ▸ ofStream, excluded ▸ counted, rfl⟩, same _⟩
  · intro values shown
    obtain ⟨_, row, member, found, counted, rfl⟩ := forecasted_iff.mp shown
    obtain rfl := old _ member
    refine ⟨_, forecasted_iff.mpr ⟨changed, row, there, stream ▸ found, ?_, rfl⟩, same _⟩
    rw [isForecast, stream, excluded]
    exact counted
  · intro values shown
    obtain ⟨_, row, member, found, counted, rfl⟩ := forecasted_iff.mp shown
    obtain rfl := new _ member
    refine ⟨_, forecasted_iff.mpr ⟨event, row, stored, stream ▸ found, ?_, rfl⟩, same _⟩
    rw [isForecast, ← stream, ← excluded]
    exact counted

/-! ### One field set and cleared -/

/-- The update of one open manual or scheduled event. -/
def updateUserEvent (eventId : ℕ) (change : StreamEvent → StreamEvent) (db : Finance) : Finance :=
  { db with
    events := db.events.updateWhere (fun id event => id == eventId && isUserEvent event) change }

/-- An accepted patch updates an open manual or scheduled event. -/
theorem patchEvent_eq_ok {patch : EventPatch} (stored : (eventId, event) ∈ db.events)
    (done : patchEvent now eventId patch db = .ok patched) :
    isUserEvent event = true ∧ patched = updateUserEvent eventId (·.patched now patch) db := by
  -- Of all the checks the ones that are needed later are that it is open and the user's.
  simp only [patchEvent, Table.get?_eq_some.mpr stored, bind_eq_ok, ensure_eq_ok, pure_eq_ok,
    Option.any_some] at done
  obtain ⟨_, -, _, -, _, -, _, user, _, -, _, -, rfl⟩ := done
  exact ⟨user, rfl⟩

/-- Taking an override back is accepted of every open manual or scheduled event. -/
theorem patchEvent_clear (stored : (eventId, event) ∈ db.events)
    (user : isUserEvent event = true) : patchEvent now eventId field.clear db =
      .ok (updateUserEvent eventId (·.patched now field.clear) db) := by
  have there : (db.events.get? eventId).any isUserEvent = true := by
    rw [Table.get?_eq_some.mpr stored]
    exact user
  -- A patch that sets nothing has nothing else to check.
  cases field <;> simp only [patchEvent, FieldValue.clear, Patch.check, there] <;> rfl

/-- The updated row is under the id of the event. -/
theorem mem_updateUserEvent {change : StreamEvent → StreamEvent}
    (stored : (eventId, event) ∈ db.events) (user : isUserEvent event = true) :
    (eventId, change event) ∈ (updateUserEvent eventId change db).events :=
  Table.mem_updateWhere.mpr ⟨event, stored, by simp [user]⟩

/-- A patch and the next one are one update. -/
theorem updateUserEvent_patched (patch next : EventPatch) :
    updateUserEvent eventId (·.patched later next)
        (updateUserEvent eventId (·.patched now patch) db) =
      updateUserEvent eventId (fun event => (event.patched now patch).patched later next) db := by
  simp only [updateUserEvent]
  -- The second patch meets the row that the first one met.
  rw [Table.updateWhere_updateWhere _ fun id event holds => by exact holds]
  rfl

/-- A field that is set changes no other value in force. -/
theorem sameOthers_set (account : Option ℕ) : field.SameOthers (event.inForce account)
    ((event.patched now field.set).inForce account) := by
  cases field <;> rfl

/-- A field that is set and cleared changes no other value in force. -/
theorem sameOthers_clear (account : Option ℕ) : field.SameOthers (event.inForce account)
    (((event.patched now field.set).patched later field.clear).inForce account) := by
  cases field <;> rfl

/-- A field set and cleared has its value in force as before, unless it is a label that is lost. -/
theorem inForce_cleared (plain : event.isOverridden = false) (account : Option ℕ) :
    ((event.patched now field.set).patched later field.clear).inForce account =
      event.inForce account ↔ field.losesLabel event = false := by
  simp only [StreamEvent.isOverridden, Bool.or_eq_false_iff, Option.isSome_eq_false_iff,
    Option.isNone_iff_eq_none] at plain
  obtain ⟨⟨⟨date, amount⟩, label⟩, override⟩ := plain
  -- Without overrides, what is in force is what the event came with.
  have seed : event.inForce account = ⟨event.label, event.actualDate.getD event.expectedDate,
      event.actualAmount.getD event.amount, event.accountId.or account⟩ := by
    simp [StreamEvent.inForce, StreamEvent.effectiveLabel, StreamEvent.effectiveDate,
      StreamEvent.effectiveAmount, date, amount, label, override]
  rw [seed]
  cases field with
  | label value =>
    -- The label stays overridden, with no text.
    simpa [StreamEvent.inForce, StreamEvent.effectiveLabel, StreamEvent.effectiveDate,
      StreamEvent.effectiveAmount, StreamEvent.patched, FieldValue.set, FieldValue.clear,
      Patch.applied, FieldValue.losesLabel, date, amount, override] using eq_comm
  | expectedDate value | amount value | accountId value =>
    simp [StreamEvent.inForce, StreamEvent.effectiveLabel, StreamEvent.effectiveDate,
      StreamEvent.effectiveAmount, StreamEvent.patched, FieldValue.set, FieldValue.clear,
      Patch.applied, FieldValue.losesLabel, date, amount, label, override]

/-- A field set and cleared leaves an account that was not overridden so. -/
theorem hasAccountOverride_cleared (plain : event.isOverridden = false) :
    ((event.patched now field.set).patched later field.clear).hasAccountOverride =
      event.hasAccountOverride := by
  cases field with
  | accountId value =>
    simp only [StreamEvent.isOverridden, Bool.or_eq_false_iff] at plain
    exact plain.2.symm
  | label value | expectedDate value | amount value => rfl

/-- An update that no reader shows leaves all readings as they are. -/
theorem sameReadings_of_row {change : StreamEvent → StreamEvent}
    (stored : (eventId, event) ∈ db.events)
    (listed : ∀ from_ through streamId includeExcluded,
      listReading from_ through streamId includeExcluded (eventId, change event) =
        listReading from_ through streamId includeExcluded (eventId, event))
    (forecast : ∀ streamId viewId, effectiveEvent db streamId viewId (eventId, change event) =
      effectiveEvent db streamId viewId (eventId, event)) :
    SameReadings db (updateUserEvent eventId change db) := by
  -- The update changes the one row under its id.
  have only : ∀ id row, (id, row) ∈ db.events → (id == eventId && isUserEvent row) = true →
      id = eventId ∧ row = event := by
    intro id row member holds
    simp only [Bool.and_eq_true, beq_iff_eq] at holds
    obtain ⟨rfl, -⟩ := holds
    exact ⟨rfl, Table.unique member stored⟩
  have queried : ∀ streamId viewId, effectiveEvents (updateUserEvent eventId change db) streamId
      viewId = effectiveEvents db streamId viewId := fun streamId viewId =>
    Table.filterMap_updateWhere fun id row member holds => by
      obtain ⟨rfl, rfl⟩ := only id row member holds
      exact forecast streamId viewId
  have events : ∀ from_ through streamId viewId,
      forecastEvents (updateUserEvent eventId change db) from_ through streamId viewId =
        forecastEvents db from_ through streamId viewId := fun from_ through streamId viewId => by
    rw [forecastEvents, forecastEvents, queried]
  refine ⟨fun from_ through streamId includeExcluded => ?_, events, fun query => ?_⟩
  · rw [listEvents_shown, listEvents_shown]
    have read : (updateUserEvent eventId change db).events.rows.filterMap
        (listReading from_ through streamId includeExcluded) =
          db.events.rows.filterMap (listReading from_ through streamId includeExcluded) :=
      Table.filterMap_updateWhere fun id row member holds => by
        obtain ⟨rfl, rfl⟩ := only id row member holds
        exact listed from_ through streamId includeExcluded
    rw [read]
  · -- A forecast reads nothing else that the update could have changed.
    unfold computeForecast
    simp only [events]
    rfl

/-- Setting and clearing a field is not shown, exactly when no label is lost. -/
theorem sameReadings_cleared (stored : (eventId, event) ∈ db.events)
    (user : isUserEvent event = true) (plain : event.isOverridden = false) :
    SameReadings db (updateUserEvent eventId
        (fun event => (event.patched now field.set).patched later field.clear) db) ↔
      field.losesLabel event = false := by
  constructor
  · -- A list of everything on the day of the event shows what it lost.
    intro same
    have before : Listed db none true eventId (event.inForce none) :=
      listed_iff.mpr ⟨event, stored, rfl, rfl, rfl⟩
    obtain ⟨from_, through, views, found, member⟩ := before
    have listed := same.listed from_ through none true
    rw [found] at listed
    obtain ⟨others, there, shown⟩ := map_eq_ok.mp listed
    have after : Listed _ none true eventId (event.inForce none) :=
      ⟨from_, through, others, there, shown ▸ member⟩
    obtain ⟨row, rowStored, -, -, values⟩ := listed_iff.mp after
    rw [Table.unique rowStored (mem_updateUserEvent stored user)] at values
    exact (inForce_cleared plain none).mp values.symm
  · -- Otherwise the row reads as before in either reader.
    intro kept
    have inForce : ∀ account,
        ((event.patched now field.set).patched later field.clear).inForce account =
          event.inForce account := fun account => (inForce_cleared plain account).mpr kept
    refine sameReadings_of_row stored (fun from_ through streamId includeExcluded => ?_)
      fun streamId viewId => ?_
    · rw [listReading_inForce, listReading_inForce]
      simp only [inForce]
      rfl
    · rw [effectiveEvent_inForce, effectiveEvent_inForce]
      simp only [inForce, hasAccountOverride_cleared plain]
      rfl

/-- Rows a user patches are still such rows after a patch. -/
@[simp] theorem isUserEvent_patched (patch : EventPatch) :
    isUserEvent (event.patched now patch) = isUserEvent event := rfl

/--
Clearing the override of a field just set is accepted, and changes no other value in force on the
way; both readers show the event as before exactly when that loses no label it came with.
-/
theorem patchEvent_restores (stored : (eventId, event) ∈ db.events)
    (plain : event.isOverridden = false)
    (accepted : patchEvent now eventId field.set db = .ok patched) :
    (∃ cleared, patchEvent later eventId field.clear patched = .ok cleared ∧
      SameReadings db cleared ∧ OthersKept field eventId db patched ∧
      OthersKept field eventId db cleared) ↔ field.losesLabel event = false := by
  -- Clearing is accepted of every patched row, so both steps are one update of the row.
  obtain ⟨user, rfl⟩ := patchEvent_eq_ok stored accepted
  have there : (eventId, event.patched now field.set) ∈
      (updateUserEvent eventId (·.patched now field.set) db).events :=
    mem_updateUserEvent stored user
  have shown : SameReadings db (updateUserEvent eventId
      (fun event => (event.patched now field.set).patched later field.clear) db) ↔
        field.losesLabel event = false := sameReadings_cleared stored user plain
  rw [patchEvent_clear there user, updateUserEvent_patched]
  constructor
  · rintro ⟨cleared, done, same, -⟩
    cases done
    exact shown.mp same
  · intro kept
    refine ⟨_, rfl, shown.mpr kept, ?_, ?_⟩
    · exact othersKept_of_row stored there rfl rfl sameOthers_set
    · exact othersKept_of_row stored (mem_updateUserEvent stored user) rfl rfl sameOthers_clear

/-- The state after a stream with a weekly schedule is saved. -/
def savedDomain : Domain := replay plainPlatform [.finance (.saveStream "2026-01-05T00:00:00Z"
  (allowanceStream none [weeklySchedule none firstMonday]) twoWeeks)] .registered

/-- The event of the first week, as the schedule has it. -/
def allowanceEvent : StreamEvent :=
  projectedEvent "2026-01-05T00:00:00Z" 1 "Allowance" 1
    ((weeklySchedule none firstMonday).row "2026-01-05T00:00:00Z" 1) firstMonday

/-- The event of the first week is stored. -/
theorem allowanceEvent_stored : (1, allowanceEvent) ∈ savedDomain.finance.events :=
  Table.get?_eq_some.mp (by decide +kernel)

/-- The amount of a projection is set and cleared. -/
theorem patchEvent_restores_amount :
    ∃ patched cleared,
      patchEvent "2026-01-06T00:00:00Z" 1 (FieldValue.amount (.finite 80)).set
        savedDomain.finance = .ok patched ∧
      patchEvent "2026-01-07T00:00:00Z" 1 (FieldValue.amount (.finite 80)).clear patched =
        .ok cleared ∧ SameReadings savedDomain.finance cleared ∧
      OthersKept (.amount (.finite 80)) 1 savedDomain.finance patched ∧
      OthersKept (.amount (.finite 80)) 1 savedDomain.finance cleared := by
  have accepted : (patchEvent "2026-01-06T00:00:00Z" 1 (FieldValue.amount (.finite 80)).set
      savedDomain.finance).toOption.isSome = true := by decide +kernel
  obtain ⟨patched, done⟩ := Option.isSome_iff_exists.mp accepted
  have done := toOption_eq_some.mp done
  obtain ⟨cleared, restored⟩ := (patchEvent_restores allowanceEvent_stored rfl done).mpr rfl
  exact ⟨patched, cleared, done, restored⟩

/-- The label of a projection is set and cleared, and the event list has no label for it. -/
theorem patchEvent_losesLabel :
    (domainSystem plainPlatform).Reachable savedDomain ∧
    (1, allowanceEvent) ∈ savedDomain.finance.events ∧ allowanceEvent.isOverridden = false ∧
    ∃ patched cleared,
      patchEvent "2026-01-06T00:00:00Z" 1 (FieldValue.label "Bonus").set
        savedDomain.finance = .ok patched ∧
      patchEvent "2026-01-07T00:00:00Z" 1 (FieldValue.label "Bonus").clear patched =
        .ok cleared ∧
      (listEvents savedDomain.finance firstMonday firstMonday none true).map
        (List.map EventView.label) = .ok [some "Allowance"] ∧
      (listEvents cleared firstMonday firstMonday none true).map (List.map EventView.label) =
        .ok [none] := by
  refine ⟨replay_reachable (by decide +kernel), allowanceEvent_stored, rfl, ?_⟩
  have accepted : (patchEvent "2026-01-06T00:00:00Z" 1 (FieldValue.label "Bonus").set
      savedDomain.finance).toOption.isSome = true := by decide +kernel
  obtain ⟨patched, done⟩ := Option.isSome_iff_exists.mp accepted
  have done := toOption_eq_some.mp done
  obtain ⟨user, rfl⟩ := patchEvent_eq_ok allowanceEvent_stored done
  refine ⟨_, _, done, patchEvent_clear (mem_updateUserEvent allowanceEvent_stored user) user, ?_, ?_⟩
  · exact toOption_eq_some.mp (by decide +kernel)
  · exact toOption_eq_some.mp (by decide +kernel)

end FinStream
