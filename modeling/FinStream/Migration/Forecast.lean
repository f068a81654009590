import FinStream.Finance.ForecastBalance
import FinStream.Finance.Repository
import FinStream.Migration.Source

/-! What the forecast shows of a migrated event is what the source had. -/

namespace FinStream.Migration

open Numeric Store

namespace StreamEventRow

/-- The date of an event that is in force. -/
def effectiveDate (row : StreamEventRow) : String :=
  (row.actualDate.or row.overrideDate).getD row.expectedDate

/-- The amount of an event that is in force. -/
def effectiveAmount (row : StreamEventRow) : Binary64 :=
  (row.actualAmount.or row.overrideAmount).getD row.amount

/-- The label of an event that is in force. -/
def effectiveLabel (row : StreamEventRow) : Option String :=
  if row.hasLabelOverride = 1 then row.overrideLabel else row.label

/-- The account of an event that is in force; without one of its own it is that of the stream. -/
def effectiveAccount (row : StreamEventRow) (stream : StreamRow) : Option ℤ :=
  if row.hasAccountOverride = 1 then row.overrideAccountId
  else row.accountId.or stream.defaultAccountId

end StreamEventRow

/-- A target row is in force with the values of a legacy event. -/
structure Represents (row : StreamEventRow) (stream : StreamRow) (event : LegacyEventRow) :
    Prop where
  /-- The actual date, or else the expected one. -/
  date : row.effectiveDate = event.actualDate.getD event.expectedDate
  /-- The amount, bit by bit. -/
  amount : row.effectiveAmount = event.amount
  /-- The label, or none. -/
  label : row.effectiveLabel = event.label
  /-- The account, or none. -/
  account : row.effectiveAccount stream = event.accountId
  /-- The event is shown. -/
  shown : row.isExcluded = 0

/-- The overrides of a scheduled event restore the values of the source. -/
theorem LegacyEventRow.scheduled_represents (event : LegacyEventRow) (stream : StreamRow)
    (schedule : StreamScheduleRow) (occurrence : NaiveDate) (slot : String) :
    Represents (event.scheduled stream schedule occurrence slot) stream event := by
  refine ⟨?_, ?_, ?_, ?_, rfl⟩
  · -- Without an actual date, the expected one is an override or the occurrence itself.
    simp only [StreamEventRow.effectiveDate, scheduled, bne_iff_ne]
    cases event.actualDate with
    | some actual => rfl
    | none =>
      by_cases changed : event.expectedDate = occurrence.format
      · simp [changed]
      · simp [changed]
  · -- A received event has its amount twice; any other one where it differs from the schedule.
    simp only [StreamEventRow.effectiveAmount, scheduled, bne_iff_ne, beq_iff_eq]
    by_cases received : event.status = "received"
    · simp [received]
    · by_cases changed : event.amount = schedule.amount
      · simp [received, changed]
      · simp [received, changed]
  · -- A label that was removed is an override without a label.
    simp only [StreamEventRow.effectiveLabel, scheduled, bne_iff_ne]
    by_cases changed : event.label = some (schedule.label.getD s!"{stream.name} due")
    · simp [changed]
    · simp [changed]
  · -- Where the account is not overridden, the stream is fallen back on as in the source.
    simp only [StreamEventRow.effectiveAccount, scheduled, bne_iff_ne]
    by_cases changed : event.accountId = schedule.accountId.or stream.defaultAccountId
    · simp [changed]
    · simp [changed]

/-- What the transformation of an event can give. -/
inductive Transformed (event : LegacyEventRow) (streams : List StreamRow)
    (schedules : List StreamScheduleRow) : StreamEventRow → Prop
  /-- An event that no schedule generated is kept as it is. -/
  | plain (unscheduled : event.sourceType ≠ some "stream_schedule") :
    Transformed event streams schedules event.plain
  /-- An event of a schedule is split into the seed and the overrides. -/
  | scheduled (stream : StreamRow) (schedule : StreamScheduleRow) (occurrence : NaiveDate)
      (slot : String) (generated : event.sourceType = some "stream_schedule")
      (streamThere : stream ∈ streams) (streamNamed : stream.id = event.streamId)
      (scheduleThere : schedule ∈ schedules) (scheduleNamed : schedule.streamId = event.streamId) :
    Transformed event streams schedules (event.scheduled stream schedule occurrence slot)

/-- A transformation that is not refused gives one of the two forms. -/
theorem transformEvent_ok {event : LegacyEventRow} {streams : List StreamRow}
    {schedules : List StreamScheduleRow} {row : StreamEventRow}
    (done : transformEvent event streams schedules = .ok row) :
    Transformed event streams schedules row := by
  simp only [transformEvent, bind_eq_ok] at done
  obtain ⟨_, -, _, -, done⟩ := done
  split at done
  · rename_i generated
    simp only [bind_eq_ok, required_eq_ok, ensure_eq_ok, beq_iff_eq] at done
    obtain ⟨sourceId, -, ⟨scheduleId, occurrence⟩, -, schedule, scheduleFound, _, sameStream,
      stream, streamFound, anchor, -, slot, -, same⟩ := done
    cases same
    have streamNamed := List.find?_some streamFound
    simp only [beq_iff_eq] at streamNamed
    exact .scheduled stream schedule occurrence slot generated
      (List.mem_of_find?_eq_some streamFound) streamNamed
      (List.mem_of_find?_eq_some scheduleFound) sameStream
  · rename_i unscheduled
    cases done
    exact .plain unscheduled

/-! ### The application's rows -/

/-- The text of a direction. -/
def directionText : Direction → String
  | .in_ => "in"
  | .out => "out"

/-- A stream of the application is stored in a row. -/
structure StreamRow.StoredAs (row : StreamRow) (stream : Stream) : Prop where
  name : row.name = stream.name
  direction : row.direction = directionText stream.direction
  defaultAccountId : row.defaultAccountId = stream.defaultAccountId.map Nat.cast
  isActive : row.isActive = if stream.isActive then 1 else 0

/-- An event of the application is stored in a row, as far as the forecast reads it. -/
structure StreamEventRow.StoredAs (row : StreamEventRow) (event : StreamEvent) : Prop where
  streamId : row.streamId = event.streamId
  accountId : row.accountId = event.accountId.map Nat.cast
  label : row.label = event.label
  expectedDate : row.expectedDate = event.expectedDate.toText
  amount : row.amount.value = event.amount
  overrideLabel : row.overrideLabel = event.overrideLabel
  hasLabelOverride : row.hasLabelOverride = if event.hasLabelOverride then 1 else 0
  overrideDate : row.overrideDate = event.overrideDate.map IsoDate.toText
  overrideAmount : row.overrideAmount.map Binary64.value = event.overrideAmount
  overrideAccountId : row.overrideAccountId = event.overrideAccountId.map Nat.cast
  hasAccountOverride : row.hasAccountOverride = if event.hasAccountOverride then 1 else 0
  actualDate : row.actualDate = event.actualDate.map IsoDate.toText
  actualAmount : row.actualAmount.map Binary64.value = event.actualAmount
  status : row.status = event.status.asStr
  isExcluded : row.isExcluded = if event.isExcluded then 1 else 0

/-- The target database: every exported stream and event is stored under its id. -/
structure Migrated (streams : List StreamRow) (events : List StreamEventRow) (db : Finance) :
    Prop where
  streams : ∀ row ∈ streams, ∃ (id : ℕ) (stream : Stream), row.id = id ∧
    db.streams.get? id = some stream ∧ row.StoredAs stream
  events : ∀ row ∈ events, ∃ (id : ℕ) (event : StreamEvent), row.id = id ∧
    db.events.get? id = some event ∧ row.StoredAs event

/-- A forecast row shows the values of a legacy event. -/
structure Shows (shown : ForecastRow) (event : LegacyEventRow) : Prop where
  date : shown.date.toText = event.actualDate.getD event.expectedDate
  amount : shown.amount = event.amount.value
  label : shown.label = event.label
  account : shown.accountId.map Nat.cast = event.accountId

section Stored

variable {row : StreamEventRow} {event : StreamEvent}

/-- The date in force is stored as the date in force. -/
theorem StreamEventRow.StoredAs.effectiveDate (stored : row.StoredAs event) :
    event.effectiveDate.toText = row.effectiveDate := by
  simp only [StreamEvent.effectiveDate, StreamEventRow.effectiveDate, stored.actualDate,
    stored.overrideDate, stored.expectedDate]
  cases event.actualDate with
  | some actual => rfl
  | none => cases event.overrideDate <;> rfl

/-- The amount in force is stored as the amount in force. -/
theorem StreamEventRow.StoredAs.effectiveAmount (stored : row.StoredAs event) :
    event.effectiveAmount = row.effectiveAmount.value := by
  simp only [StreamEvent.effectiveAmount, StreamEventRow.effectiveAmount, ← stored.actualAmount,
    ← stored.overrideAmount, ← stored.amount]
  cases row.actualAmount with
  | some actual => rfl
  | none => cases row.overrideAmount <;> rfl

/-- The label in force is stored as the label in force. -/
theorem StreamEventRow.StoredAs.effectiveLabel (stored : row.StoredAs event) :
    event.effectiveLabel = row.effectiveLabel := by
  simp only [StreamEvent.effectiveLabel, StreamEventRow.effectiveLabel, stored.label,
    stored.overrideLabel, stored.hasLabelOverride]
  cases event.hasLabelOverride <;> simp

end Stored

/-- The account in force is stored as the account in force. -/
theorem StreamEventRow.StoredAs.effectiveAccount {row : StreamEventRow} {event : StreamEvent}
    {streamRow : StreamRow} {stream : Stream} (stored : row.StoredAs event)
    (streamStored : streamRow.StoredAs stream) :
    (if event.hasAccountOverride then event.overrideAccountId
      else event.accountId.or stream.defaultAccountId).map Nat.cast =
    row.effectiveAccount streamRow := by
  simp only [StreamEventRow.effectiveAccount, stored.hasAccountOverride, stored.overrideAccountId,
    stored.accountId, streamStored.defaultAccountId]
  cases event.hasAccountOverride with
  | true => rfl
  | false =>
    -- The event falls back on its stream in the target's columns as in the application's.
    cases event.accountId <;> rfl

/-- What the forecast reads of an event, the stream it joins included. -/
theorem effectiveEvent_some {db : Finance} {streamId viewId : Option ℕ} {id : ℕ}
    {event : StreamEvent} {shown : ForecastRow}
    (read : effectiveEvent db streamId viewId (id, event) = some shown) :
    ∃ stream, db.streams.get? event.streamId = some stream ∧
      shown.date = event.effectiveDate ∧ shown.amount = event.effectiveAmount ∧
      shown.label = event.effectiveLabel ∧ shown.direction = stream.direction ∧
      shown.accountId = if event.hasAccountOverride then event.overrideAccountId
        else event.accountId.or stream.defaultAccountId := by
  simp only [effectiveEvent, Option.bind_eq_bind, Option.bind_eq_some_iff,
    Option.ite_none_right_eq_some] at read
  obtain ⟨stream, streamThere, -, built⟩ := read
  refine ⟨stream, streamThere, ?_⟩
  cases Option.some.inj built
  exact ⟨rfl, rfl, rfl, rfl, rfl⟩

/-- An event that is stored with the values of a legacy event is shown with them. -/
theorem Represents.shows {row : StreamEventRow} {streamRow : StreamRow} {legacy : LegacyEventRow}
    (represents : Represents row streamRow legacy) {db : Finance} {event : StreamEvent}
    {stream : Stream} (stored : row.StoredAs event)
    (streamThere : db.streams.get? event.streamId = some stream)
    (streamStored : streamRow.StoredAs stream) {streamId viewId : Option ℕ} {id : ℕ}
    {shown : ForecastRow} (read : effectiveEvent db streamId viewId (id, event) = some shown) :
    Shows shown legacy := by
  obtain ⟨joined, joinedThere, date, amount, label, -, account⟩ := effectiveEvent_some read
  cases Option.some.inj (streamThere.symm.trans joinedThere)
  constructor
  · rw [date, stored.effectiveDate, represents.date]
  · rw [amount, stored.effectiveAmount, represents.amount]
  · rw [label, stored.effectiveLabel, represents.label]
  · rw [account, stored.effectiveAccount streamStored, represents.account]

/-- An event of an active stream that is not excluded is shown. -/
theorem effectiveEvent_isSome {db : Finance} {id : ℕ} {event : StreamEvent} {stream : Stream}
    (streamThere : db.streams.get? event.streamId = some stream)
    (active : stream.isActive = true) (included : event.isExcluded = false) :
    (effectiveEvent db none none (id, event)).isSome = true := by
  simp [effectiveEvent, streamThere, active, included, viewShows]

/-- The target shows a legacy event, under the id of its row, with the values of the source. -/
def KeptShown (db : Finance) (row : StreamEventRow) (legacy : LegacyEventRow) : Prop :=
  ∃ (id : ℕ) (event : StreamEvent) (stream : Stream), row.id = id ∧
    db.events.get? id = some event ∧ db.streams.get? event.streamId = some stream ∧
    (stream.isActive = true → (effectiveEvent db none none (id, event)).isSome = true) ∧
    ∀ streamId viewId shown, effectiveEvent db streamId viewId (id, event) = some shown →
      Shows shown legacy

/-- An exported row is shown with the values of the legacy event it represents. -/
theorem Represents.keptShown {row : StreamEventRow} {streamRow : StreamRow}
    {legacy : LegacyEventRow} (represents : Represents row streamRow legacy)
    {streams : List StreamRow} {events : List StreamEventRow} {db : Finance}
    (migrated : Migrated streams events db) (exported : row ∈ events)
    (streamExported : streamRow ∈ streams) (named : row.streamId = streamRow.id) :
    KeptShown db row legacy := by
  obtain ⟨id, event, sameId, eventThere, stored⟩ := migrated.events _ exported
  obtain ⟨streamId, stream, sameStreamId, streamThere, streamStored⟩ :=
    migrated.streams _ streamExported
  -- The stored event names the stored stream.
  have eventNamed : event.streamId = streamId := by
    have eventStream := stored.streamId
    omega
  subst eventNamed
  refine ⟨id, event, stream, sameId, eventThere, streamThere, fun active => ?_,
    fun _ _ _ read => represents.shows stored streamThere streamStored read⟩
  -- The exporter never excludes an event.
  have included : event.isExcluded = false := by
    have flag := stored.isExcluded.symm.trans represents.shown
    cases excluded : event.isExcluded with
    | false => rfl
    | true => simp [excluded] at flag
  exact effectiveEvent_isSome streamThere active included

/-- A legacy event of a schedule is shown with its values. -/
theorem transformEvent_keptShown {legacy : LegacyEventRow} {streams : List StreamRow}
    {schedules : List StreamScheduleRow} {events : List StreamEventRow} {row : StreamEventRow}
    {db : Finance} (generated : legacy.sourceType = some "stream_schedule")
    (done : transformEvent legacy streams schedules = .ok row)
    (migrated : Migrated streams events db) (exported : row ∈ events) :
    KeptShown db row legacy := by
  cases transformEvent_ok done with
  | plain unscheduled => exact absurd generated unscheduled
  | scheduled stream schedule occurrence slot _ streamThere streamNamed =>
    exact (legacy.scheduled_represents stream schedule occurrence slot).keptShown migrated exported
      streamThere streamNamed.symm

/-- An event as it is shown in a stream whose account it falls back on. -/
def LegacyEventRow.fallingBack (event : LegacyEventRow) (stream : StreamRow) : LegacyEventRow :=
  { event with accountId := event.accountId.or stream.defaultAccountId }

/-- An event that no schedule generated is in force as it is, with the account of its stream. -/
theorem LegacyEventRow.plain_represents (event : LegacyEventRow) (stream : StreamRow) :
    Represents event.plain stream (event.fallingBack stream) := by
  constructor
  · cases event.actualDate with
    | some actual => simp [StreamEventRow.effectiveDate, plain, fallingBack]
    | none => simp [StreamEventRow.effectiveDate, plain, fallingBack]
  · cases actual : event.actualDate with
    | some date => simp [StreamEventRow.effectiveAmount, plain, fallingBack, actual]
    | none => simp [StreamEventRow.effectiveAmount, plain, fallingBack, actual]
  · rfl
  · simp [StreamEventRow.effectiveAccount, plain, fallingBack]
  · rfl

/-- Any other legacy event is shown with its values as well, and with the account of its stream. -/
theorem transformEvent_keptShown_plain {legacy : LegacyEventRow} {streams : List StreamRow}
    {schedules : List StreamScheduleRow} {events : List StreamEventRow} {row : StreamEventRow}
    {db : Finance} (ungenerated : legacy.sourceType ≠ some "stream_schedule")
    (done : transformEvent legacy streams schedules = .ok row)
    (migrated : Migrated streams events db) (exported : row ∈ events) {stream : StreamRow}
    (streamThere : stream ∈ streams) (named : stream.id = legacy.streamId) :
    KeptShown db row (legacy.fallingBack stream) := by
  cases transformEvent_ok done with
  | plain =>
    exact (legacy.plain_represents stream).keptShown migrated exported streamThere named.symm
  | scheduled _ _ _ _ generated => exact absurd generated ungenerated

/-- Every event of a source that is not refused is shown with the values it had. -/
theorem migration_keeps_forecast (platform : ExportPlatform) (shape : StreamSourceShape)
    (streams : List StreamRow) (schedules : List StreamScheduleRow) (rows : List SourceEvent)
    (events : List StreamEventRow) (db : Finance)
    (read : readStreamEvents platform shape streams schedules rows = .ok events)
    (migrated : Migrated streams events db) :
    List.Forall₂ (fun source row => ∃ legacy, legacyEvent platform shape source = .ok legacy ∧
      transformEvent legacy streams schedules = .ok row ∧
      (source.sourceType = some "stream_schedule" → KeptShown db row legacy) ∧
      -- Any other event falls back on the account of its stream.
      (source.sourceType ≠ some "stream_schedule" → ∀ stream ∈ streams,
        stream.id = source.streamId → KeptShown db row (legacy.fallingBack stream))) rows events := by
  have transformed := readStreamEvents_rows read
  refine List.forall₂_iff_zip.mpr ⟨transformed.length_eq, fun {source row} paired => ?_⟩
  have exported : row ∈ events := (List.of_mem_zip paired).2
  obtain ⟨legacy, checked, done⟩ := List.forall₂_zip transformed paired
  -- The checks keep the stream and the origin of an event.
  obtain ⟨sameStream, sameType, -⟩ := legacyEvent_ok checked
  rw [← sameStream, ← sameType]
  exact ⟨legacy, checked, done, fun generated =>
    transformEvent_keptShown generated done migrated exported, fun ungenerated _ streamThere named =>
    transformEvent_keptShown_plain ungenerated done migrated exported streamThere named⟩

/-- Timestamps that are already canonical, and no JSON. -/
def newYearPlatform : ExportPlatform where
  canonicalTimestamp text := if text = "2026-01-01T00:00:00.000Z" then some text else none
  jsonValid _ := false

/-- A rent that falls back on the first account. -/
def rentStream : StreamRow where
  id := 1
  name := "Rent"
  streamType := "manual_expense"
  kind := "manual_expense"
  direction := "out"
  amountCertainty := "known"
  description := none
  defaultAccountId := some 1
  configuration := none
  parentId := none
  isActive := 1
  createdAt := "2026-01-01T00:00:00.000Z"
  updatedAt := "2026-01-01T00:00:00.000Z"

/-- Five hundred on the first of each month. -/
def rentSchedule : StreamScheduleRow where
  id := 1
  streamId := 1
  accountId := none
  label := none
  amount := .ofBits 0x407F400000000000
  frequency := "monthly"
  startDate := "2026-07-01"

/-- The rent of July was moved by two days, lowered by fifty, renamed, and has no account. -/
def movedRent : SourceEvent where
  id := 7
  streamId := 1
  accountId := none
  label := some "Rent, late"
  expectedDate := "2026-07-03"
  actualDate := none
  amount := .ofBits 0x407C200000000000
  status := "projected"
  sourceId := some "stream_schedule:1:2026-07-01"
  sourceType := some "stream_schedule"
  metadata := none
  notes := none
  createdAt := "2026-01-01T00:00:00.000Z"
  updatedAt := "2026-01-01T00:00:00.000Z"

/-- What the exporter makes of the rent. -/
def movedRentRow : StreamEventRow where
  id := 7
  streamId := 1
  accountId := none
  label := some "Rent due"
  expectedDate := "2026-07-01"
  amount := rentSchedule.amount
  overrideLabel := some "Rent, late"
  hasLabelOverride := 1
  overrideDate := some "2026-07-03"
  overrideAmount := some movedRent.amount
  overrideAccountId := none
  hasAccountOverride := 1
  actualDate := none
  actualAmount := none
  status := "projected"
  isExcluded := 0
  exclusionReason := none
  sourceId := some "stream_schedule:1:monthly:2026-07"
  sourceType := some "stream_schedule"
  metadata := none
  notes := none
  createdAt := "2026-01-01T00:00:00.000Z"
  updatedAt := "2026-01-01T00:00:00.000Z"

/-- The target with the rent in it. -/
def movedRentTarget : Finance where
  accounts := .empty
  streams := Table.empty.insert { plainStream "Rent" .out with defaultAccountId := some 1 }
  schedules := .empty
  events := {
    rows := [(7, {
      plainEvent 1 (rentSchedule.amount.value) ⟨740163, by decide⟩ with
      label := some "Rent due"
      overrideLabel := some "Rent, late"
      hasLabelOverride := true
      overrideDate := some ⟨740165, by decide⟩
      overrideAmount := some movedRent.amount.value
      hasAccountOverride := true
      status := .projected })]
    next := 8
    ascending := by simp
    bounded := by simp }
  views := .empty
  viewStreams := ∅

/-- A rent that differs from its schedule in everything is shown as it was. -/
theorem migration_keeps_forecast_moved :
    readStreamEvents newYearPlatform .upgraded [rentStream] [rentSchedule] [movedRent] =
      .ok [movedRentRow] ∧
    List.Forall₂ (fun source row =>
      ∃ legacy, legacyEvent newYearPlatform .upgraded source = .ok legacy ∧
        transformEvent legacy [rentStream] [rentSchedule] = .ok row ∧
        (source.sourceType = some "stream_schedule" → KeptShown movedRentTarget row legacy) ∧
        (source.sourceType ≠ some "stream_schedule" → ∀ stream ∈ [rentStream],
          stream.id = source.streamId → KeptShown movedRentTarget row (legacy.fallingBack stream)))
      [movedRent] [movedRentRow] ∧
    (effectiveEvents movedRentTarget none none).length = 1 := by
  have read : readStreamEvents newYearPlatform .upgraded [rentStream] [rentSchedule] [movedRent] =
      .ok [movedRentRow] := by
    refine (eq_ok_getD (by decide +kernel) []).trans (congrArg _ ?_)
    decide +kernel
  -- The target has the one stream under a new id, and the one event under another.
  have migrated : Migrated [rentStream] [movedRentRow] movedRentTarget := by
    constructor
    · intro row member
      rw [List.mem_singleton.mp member]
      exact ⟨1, _, rfl, rfl, rfl, rfl, rfl, rfl⟩
    · intro row member
      rw [List.mem_singleton.mp member]
      refine ⟨7, _, rfl, rfl, ?_⟩
      constructor <;> rfl
  exact ⟨read, migration_keeps_forecast _ _ _ _ _ _ _ read migrated, by decide +kernel⟩

end FinStream.Migration
