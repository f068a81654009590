import FinStream.Migration.Models

/-! The transformation of legacy events: what the schedule says, and what was changed of it. -/

namespace FinStream.Migration

open Numeric Store

/-- Reads a date of an event. -/
def parseDate (value field : String) (eventId : ℤ) : ExportResult NaiveDate :=
  required (NaiveDate.parse value) (.detail s!"stream_event[{eventId}] has an invalid {field}")

/-- The schedule and the occurrence a legacy event was generated for. -/
def parseLegacySourceId (sourceId : String) (eventId : ℤ) : ExportResult (ℤ × NaiveDate) := do
  let incompatible := .detail s!"stream_event[{eventId}] has an incompatible schedule source_id"
  let remainder ← required (stripLeading "stream_schedule:" sourceId) incompatible
  match (remainder.toList.splitOn ':').map String.ofList with
  | [scheduleText, occurrenceText] => do
    let scheduleId ← required (parseI64 scheduleText)
      (.detail s!"stream_event[{eventId}] has an invalid schedule ID")
    ensure (0 < scheduleId && toString scheduleId == scheduleText)
      (.detail s!"stream_event[{eventId}] has a non-canonical schedule ID")
    let occurrence ← parseDate occurrenceText "source_id occurrence" eventId
    ensure (occurrence.format == occurrenceText)
      (.detail s!"stream_event[{eventId}] has a non-canonical occurrence date")
    pure (scheduleId, occurrence)
  | _ :: _ :: _ => throw incompatible
  | _ => throw (.detail "legacy schedule source ID is missing its occurrence")

/-- The number of a step of a cadence that goes by days. -/
def indexedSlot (name : String) (anchor occurrence : NaiveDate) (stepDays : ℤ) (eventId : ℤ) :
    ExportResult String := do
  let days := occurrence.dayNumber - anchor.dayNumber
  ensure (!(days < 0 || days.tmod stepDays != 0))
    (.detail s!"stream_event[{eventId}] occurrence does not align to its schedule cadence")
  let index := days.tdiv stepDays
  pure s!"{name}:{index}"

/-- The stable slot of an occurrence. -/
def projectionSlot (frequency : String) (anchor occurrence : NaiveDate) (eventId : ℤ) :
    ExportResult String :=
  let year := IsoDate.padded 4 occurrence.year
  let month := IsoDate.padded 2 occurrence.month
  match frequency with
  | "monthly" => pure s!"monthly:{year}-{month}"
  | "semimonthly" =>
    if occurrence.day = 15 then pure s!"semimonthly:{year}-{month}:mid"
    else do
      let last ← occurrence.lastDayOfMonth
      ensure (occurrence.day == last)
        (.detail s!"stream_event[{eventId}] occurrence does not match semimonthly cadence")
      pure s!"semimonthly:{year}-{month}:end"
  | "weekly" => indexedSlot "weekly" anchor occurrence 7 eventId
  | "biweekly" => indexedSlot "biweekly" anchor occurrence 14 eventId
  | "annual" => pure s!"annual:{year}"
  | "one_time" => pure "one_time"
  | _ => throw (.detail s!"stream_event[{eventId}] references an unsupported schedule cadence")

/-- Received history that its schedule no longer explains must not be rewritten. -/
def receivedBlocker (eventId scheduleId : ℤ) (error : ExportError) : ExportError :=
  let detail := error.shown
  .safe ("immutable received schedule history has a legacy occurrence that the current schedule " ++
      "cadence/anchor cannot recognize; safe stable-slot canonicalization requires reviewed " ++
      "schedule history")
    s!"stream_event[{eventId}] cannot map through stream_schedule[{scheduleId}]: {detail}"

namespace LegacyEventRow

/-- An event that no schedule generated is kept as it is. -/
def plain (event : LegacyEventRow) : StreamEventRow where
  id := event.id
  streamId := event.streamId
  accountId := event.accountId
  label := event.label
  expectedDate := event.expectedDate
  amount := event.amount
  overrideLabel := none
  hasLabelOverride := 0
  overrideDate := none
  overrideAmount := none
  overrideAccountId := none
  hasAccountOverride := 0
  actualDate := event.actualDate
  actualAmount := event.actualDate.map fun _ => event.amount
  status := event.status
  isExcluded := 0
  exclusionReason := none
  sourceId := event.sourceId
  sourceType := event.sourceType
  metadata := event.metadata
  notes := event.notes
  createdAt := event.createdAt
  updatedAt := event.updatedAt

/-- An event of a schedule: what the schedule says of its slot, and what differs as overrides. -/
def scheduled (event : LegacyEventRow) (stream : StreamRow) (schedule : StreamScheduleRow)
    (occurrence : NaiveDate) (slot : String) : StreamEventRow :=
  let seedLabel := schedule.label.getD s!"{stream.name} due"
  let labelChanged := event.label != some seedLabel
  let dateChanged := event.expectedDate != occurrence.format
  let amountChanged := event.amount != schedule.amount
  -- The source stored the account of the stream where the schedule had none.
  let effectiveSeedAccount := schedule.accountId.or stream.defaultAccountId
  let accountChanged := event.accountId != effectiveSeedAccount
  let scheduleId := schedule.id
  { id := event.id
    streamId := event.streamId
    accountId := schedule.accountId
    label := some seedLabel
    expectedDate := occurrence.format
    amount := schedule.amount
    overrideLabel := if labelChanged then event.label else none
    hasLabelOverride := if labelChanged then 1 else 0
    overrideDate := if dateChanged then some event.expectedDate else none
    overrideAmount := if amountChanged then some event.amount else none
    overrideAccountId := if accountChanged then event.accountId else none
    hasAccountOverride := if accountChanged then 1 else 0
    actualDate := event.actualDate
    actualAmount := if event.status == "received" then some event.amount else none
    status := event.status
    isExcluded := 0
    exclusionReason := none
    sourceId := some s!"stream_schedule:{scheduleId}:{slot}"
    sourceType := event.sourceType
    metadata := event.metadata
    notes := event.notes
    createdAt := event.createdAt
    updatedAt := event.updatedAt }

end LegacyEventRow

/-- Transforms an event, or says why it cannot be. -/
def transformEvent (event : LegacyEventRow) (streams : List StreamRow)
    (schedules : List StreamScheduleRow) : ExportResult StreamEventRow := do
  ensure (!(event.status == "received" && event.actualDate.isNone))
    (.detail s!"stream_event[{event.id}] is received but has no actual_date")
  ensure (!(event.status != "received" && event.actualDate.isSome))
    (.detail s!"stream_event[{event.id}] has an actual_date without received status")
  if event.sourceType = some "stream_schedule" then do
    let sourceId ← required event.sourceId
      (.detail s!"stream_event[{event.id}] is schedule-generated but has no source_id")
    let (scheduleId, occurrence) ← parseLegacySourceId sourceId event.id
    let schedule ← required (schedules.find? (·.id == scheduleId)) (.detail
      s!"stream_event[{event.id}] references missing stream_schedule[{scheduleId}]")
    ensure (schedule.streamId == event.streamId) (.detail
      s!"stream_event[{event.id}] and stream_schedule[{scheduleId}] belong to different streams")
    let stream ← required (streams.find? (·.id == event.streamId))
      (.detail s!"stream_event[{event.id}] references a missing stream")
    let anchor ← parseDate schedule.startDate "stream_schedule.start_date" event.id
    let slot ← (projectionSlot schedule.frequency anchor occurrence event.id).mapError fun error =>
      if event.status = "received" then receivedBlocker event.id scheduleId error else error
    pure (event.scheduled stream schedule occurrence slot)
  else pure event.plain

end FinStream.Migration
