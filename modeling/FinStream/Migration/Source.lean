import FinStream.Migration.ScheduleTransform

/-! Reading streams and events from the source, with every value checked. -/

namespace FinStream.Migration

open Numeric Store

/-- What the date and JSON libraries decide. -/
structure ExportPlatform where
  /-- A timestamp in UTC with milliseconds, if a text is a timestamp with a zone. -/
  canonicalTimestamp : String → Option String
  /-- Whether a text parses as JSON. -/
  jsonValid : String → Bool

/-- Whether the streams of a source say which way money flows. -/
inductive StreamSourceShape where
  | upgraded
  | legacySigned
  deriving DecidableEq

/-- A stream as the source has it; a legacy source has no direction and no certainty. -/
structure SourceStream where
  id : ℤ
  name : String
  streamType : String
  kind : Option String
  direction : Option String
  amountCertainty : Option String
  description : Option String
  defaultAccountId : Option ℤ
  configuration : Option String
  parentId : Option ℤ
  isActive : ℤ
  createdAt : String
  updatedAt : String

/-- An event as the source has it. -/
structure SourceEvent where
  id : ℤ
  streamId : ℤ
  accountId : Option ℤ
  label : Option String
  expectedDate : String
  actualDate : Option String
  amount : Binary64
  status : String
  sourceId : Option String
  sourceType : Option String
  metadata : Option String
  notes : Option String
  createdAt : String
  updatedAt : String

/-- Refuses a flag that is not zero or one. -/
def booleanInteger (value : ℤ) (field : String) : ExportResult ℤ := do
  ensure (value == 0 || value == 1) (.detail s!"{field} must be 0 or 1")
  pure value

/-- The bits below the sign of 1.0e308; larger doubles have larger ones. -/
def realLimit : ℕ := 0x7FE1CCF385EBC8A0

/-- Refuses numbers the target's columns cannot hold. -/
def finiteNumber (value : Binary64) (field : String) : ExportResult Binary64 := do
  ensure value.isFinite (.detail s!"{field} is NaN or infinite")
  ensure (value.payload < realLimit) (.detail s!"{field} exceeds the target REAL domain")
  pure value

/-- Refuses negative numbers as well. -/
def finiteMagnitude (value : Binary64) (field : String) : ExportResult Binary64 := do
  let value ← finiteNumber value field
  ensure (!(value.negative && value.payload != 0))
    (.detail s!"{field} is negative; the upgraded source must store magnitudes")
  pure value

/-- The magnitude of an amount of the source. -/
def sourceMagnitude (value : Binary64) (shape : StreamSourceShape) (field : String) :
    ExportResult Binary64 :=
  match shape with
  | .upgraded => finiteMagnitude value field
  | .legacySigned => (finiteNumber value field).map Binary64.abs

/-- A date in its canonical form. -/
def isoDate (value field : String) : ExportResult String := do
  let date ← required (NaiveDate.parse value)
    (.detail s!"{field} is not a valid YYYY-MM-DD date")
  pure date.format

/-- Refuses texts that are not among the given ones. -/
def oneOf (value : String) (allowed : List String) (field : String) : ExportResult String := do
  ensure (allowed.contains value) (.detail s!"{field} has an unsupported value")
  pure value

/-- Refuses blank texts. -/
def nonempty (value field : String) : ExportResult String := do
  ensure (!isBlank value) (.detail s!"{field} is empty")
  pure value

/-- Refuses a missing or blank text. -/
def requiredText (value : Option String) (field : String) : ExportResult String := do
  let value ← required value (.detail s!"{field} is NULL")
  nonempty value field

variable (platform : ExportPlatform)

/-- Refuses texts that are not JSON. -/
def jsonText (value : Option String) (field : String) : ExportResult (Option String) := do
  ensure (value.all platform.jsonValid) (.detail s!"{field} is not valid JSON")
  pure value

/-- A timestamp in its canonical form. -/
def canonicalTimestamp (value field : String) : ExportResult String :=
  required (platform.canonicalTimestamp value)
    (.detail s!"{field} is not a timezone-qualified RFC3339 timestamp")

/-- The direction and the certainty of a legacy stream. -/
def legacyStreamSemantics (streamType kind : String) : String × String :=
  let direction :=
    if kind = "manual_expense" ∨ kind = "credit_card" ∨ streamType = "manual_expense" ∨
        streamType = "credit_card_due" then "out"
    else "in"
  let amountCertainty := if kind = "credit_card" then "estimated" else "known"
  (direction, amountCertainty)

/-- The direction and the certainty of a stream. -/
def streamSemantics (shape : StreamSourceShape) (row : SourceStream) (kind : String) :
    ExportResult (String × String) :=
  match shape with
  | .upgraded => do
    let direction ← requiredText row.direction s!"stream[{row.id}].direction"
    let direction ← oneOf direction ["in", "out"] s!"stream[{row.id}].direction"
    let certainty ← requiredText row.amountCertainty s!"stream[{row.id}].amount_certainty"
    let certainty ← oneOf certainty ["known", "estimated"] s!"stream[{row.id}].amount_certainty"
    pure (direction, certainty)
  | .legacySigned => pure (legacyStreamSemantics row.streamType kind)

/-- Reads a stream. -/
def readStream (shape : StreamSourceShape) (row : SourceStream) : ExportResult StreamRow := do
  let streamType ← nonempty row.streamType s!"stream[{row.id}].type"
  let kind ← requiredText row.kind s!"stream[{row.id}].kind"
  let (direction, amountCertainty) ← streamSemantics shape row kind
  let name ← nonempty row.name s!"stream[{row.id}].name"
  let configuration ← jsonText platform row.configuration s!"stream[{row.id}].configuration"
  let isActive ← booleanInteger row.isActive s!"stream[{row.id}].is_active"
  let createdAt ← canonicalTimestamp platform row.createdAt s!"stream[{row.id}].created_at"
  let updatedAt ← canonicalTimestamp platform row.updatedAt s!"stream[{row.id}].updated_at"
  pure
    { id := row.id, name, streamType, kind, direction, amountCertainty
      description := row.description, defaultAccountId := row.defaultAccountId, configuration
      parentId := row.parentId, isActive, createdAt, updatedAt }

/-- Reads the values of an event. -/
def legacyEvent (shape : StreamSourceShape) (row : SourceEvent) : ExportResult LegacyEventRow := do
  let amount ← sourceMagnitude row.amount shape s!"stream_event[{row.id}].amount"
  let status ← oneOf row.status ["projected", "confirmed", "received"]
    s!"stream_event[{row.id}].status"
  let actualDate ← row.actualDate.mapM fun date =>
    isoDate date s!"stream_event[{row.id}].actual_date"
  let expectedDate ← isoDate row.expectedDate s!"stream_event[{row.id}].expected_date"
  let metadata ← jsonText platform row.metadata s!"stream_event[{row.id}].metadata"
  let createdAt ← canonicalTimestamp platform row.createdAt s!"stream_event[{row.id}].created_at"
  let updatedAt ← canonicalTimestamp platform row.updatedAt s!"stream_event[{row.id}].updated_at"
  pure
    { id := row.id, streamId := row.streamId, accountId := row.accountId, label := row.label
      expectedDate, actualDate, amount, status, sourceId := row.sourceId
      sourceType := row.sourceType, metadata, notes := row.notes, createdAt, updatedAt }

/-- Reading the values of an event keeps where it comes from. -/
theorem legacyEvent_ok {platform : ExportPlatform} {shape : StreamSourceShape} {row : SourceEvent}
    {event : LegacyEventRow} (read : legacyEvent platform shape row = .ok event) :
    event.streamId = row.streamId ∧ event.sourceType = row.sourceType ∧
      sourceMagnitude row.amount shape s!"stream_event[{row.id}].amount" = .ok event.amount := by
  simp only [legacyEvent, bind_eq_ok, pure_eq_ok] at read
  obtain ⟨amount, magnitude, status, -, actualDate, -, expectedDate, -, metadata, -, createdAt, -,
    updatedAt, -, rfl⟩ := read
  exact ⟨rfl, rfl, magnitude⟩

/-- The identity of an event in the target; an event without a source has none. -/
def StreamEventRow.identity (event : StreamEventRow) : Option (ℤ × String × String) :=
  match event.sourceType, event.sourceId with
  | some sourceType, some sourceId => some (event.streamId, sourceType, sourceId)
  | _, _ => none

/-- What two events with one identity are reported as. -/
def collapseBlocker (previous event : StreamEventRow) : ExportError :=
  .safe (if previous.status = "received" ∨ event.status = "received" then
      "legacy schedule events including immutable received history collapse to one target " ++
        "stable cadence slot; safe canonicalization requires reviewed historical schedule identity"
    else
      "two legacy schedule events collapse to one target stable cadence slot; safe " ++
        "canonicalization requires reviewed schedule identity")
    (s!"stream_event[{previous.id}] and stream_event[{event.id}] have the same transformed " ++
      "source identity")

/-- Refuses two events with one identity; the events before are given latest first. -/
def validateIdentities (earlier : List StreamEventRow) :
    List StreamEventRow → ExportResult PUnit
  | [] => pure ⟨⟩
  | event :: rest =>
    match earlier.find? fun previous =>
        event.identity.isSome && previous.identity == event.identity with
    | some previous => throw (collapseBlocker previous event)
    | none => validateIdentities (event :: earlier) rest

/-- Reads and transforms all events; one that is refused blocks the export. -/
def readStreamEvents (shape : StreamSourceShape) (streams : List StreamRow)
    (schedules : List StreamScheduleRow) (rows : List SourceEvent) :
    ExportResult (List StreamEventRow) := do
  let events ← rows.mapM fun row => do
    let event ← legacyEvent platform shape row
    transformEvent event streams schedules
  validateIdentities [] events
  pure events

/-- The values of an event that is not refused are those of one row of the source. -/
theorem readStreamEvents_rows {platform : ExportPlatform} {shape : StreamSourceShape}
    {streams : List StreamRow} {schedules : List StreamScheduleRow} {rows : List SourceEvent}
    {events : List StreamEventRow}
    (read : readStreamEvents platform shape streams schedules rows = .ok events) :
    List.Forall₂ (fun source row => ∃ legacy, legacyEvent platform shape source = .ok legacy ∧
      transformEvent legacy streams schedules = .ok row) rows events := by
  simp only [readStreamEvents, bind_eq_ok, pure_eq_ok] at read
  obtain ⟨results, mapped, _, -, rfl⟩ := read
  refine (mapM_eq_ok mapped).imp fun source row done => ?_
  simpa only [bind_eq_ok] using done

end FinStream.Migration
