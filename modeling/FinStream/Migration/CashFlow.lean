import FinStream.Migration.Forecast

/-! The cash flow of legacy amounts: their sign is moved into the direction of the stream. -/

namespace FinStream.Migration

open Numeric Store

/-- Reads the text of a direction. -/
def directionFromStr : String → Option Direction
  | "in" => some .in_
  | "out" => some .out
  | _ => none

/-- The direction of a legacy stream, by its type and kind. -/
def legacyDirection (streamType kind : String) : Direction :=
  if kind = "manual_expense" ∨ kind = "credit_card" ∨ streamType = "manual_expense" ∨
      streamType = "credit_card_due" then .out
  else .in_

/-- The sign of an amount does not matter to a direction. -/
theorem signed_abs (direction : Direction) (amount : ℚ) :
    direction.signed |amount| = direction.signed amount := by
  cases direction with
  | in_ => simp only [Direction.signed, abs_abs]
  | out => simp only [Direction.signed, abs_abs]

/-- An amount flows the way a direction says; nothing flows either way. -/
def Direction.Agrees : Direction → ℚ → Prop
  | .in_, amount => 0 ≤ amount
  | .out, amount => amount ≤ 0

/-- The sign of a direction gives back an amount that flows its way, and no other. -/
theorem signed_eq_self {direction : Direction} {amount : ℚ} :
    direction.signed |amount| = amount ↔ Direction.Agrees direction amount := by
  rw [signed_abs]
  cases direction with
  | in_ => exact abs_eq_self
  | out =>
    -- An outflow is minus the absolute value, which is the amount itself below zero.
    rw [Direction.signed, neg_eq_iff_eq_neg]
    exact abs_eq_neg_self

/-- The direction written for a legacy stream is read back. -/
theorem legacyStreamSemantics_direction (streamType kind : String) :
    directionFromStr (legacyStreamSemantics streamType kind).1 =
      some (legacyDirection streamType kind) := by
  unfold legacyStreamSemantics legacyDirection
  split
  · rfl
  · rfl

/-- A legacy stream that is not refused has the direction of its type and kind. -/
theorem readStream_direction {platform : ExportPlatform} {source : SourceStream}
    {stream : StreamRow} (read : readStream platform .legacySigned source = .ok stream) :
    directionFromStr stream.direction = some (legacyDirection stream.streamType stream.kind) := by
  simp only [readStream, streamSemantics, nonempty, requiredText, bind_eq_ok, pure_eq_ok,
    ensure_eq_ok, required_eq_ok] at read
  obtain ⟨_, ⟨_, -, rfl⟩, kind, -, semantics, rfl, _, -, _, -, _, -, _, -, _, -, rfl⟩ := read
  exact legacyStreamSemantics_direction _ _

/-- An event is in force with the amount of the source, however it was generated. -/
theorem transformEvent_effectiveAmount {event : LegacyEventRow} {streams : List StreamRow}
    {schedules : List StreamScheduleRow} {row : StreamEventRow}
    (done : transformEvent event streams schedules = .ok row) :
    row.streamId = event.streamId ∧ row.effectiveAmount = event.amount := by
  cases transformEvent_ok done with
  | plain =>
    refine ⟨rfl, ?_⟩
    cases actual : event.actualDate with
    | some date => simp [StreamEventRow.effectiveAmount, LegacyEventRow.plain, actual]
    | none => simp [StreamEventRow.effectiveAmount, LegacyEventRow.plain, actual]
  | scheduled stream schedule occurrence slot =>
    exact ⟨rfl, (event.scheduled_represents stream schedule occurrence slot).amount⟩

/-- The magnitude of a legacy amount is that amount without its sign. -/
theorem sourceMagnitude_legacySigned {value magnitude : Binary64} {field : String}
    (read : sourceMagnitude value .legacySigned field = .ok magnitude) :
    value.isFinite = true ∧ value.payload < realLimit ∧ magnitude = value.abs := by
  simp only [sourceMagnitude, finiteNumber, map_eq_ok, bind_eq_ok, pure_eq_ok, ensure_eq_ok,
    decide_eq_true_eq] at read
  obtain ⟨_, ⟨_, finite, _, small, rfl⟩, rfl⟩ := read
  exact ⟨finite, small, rfl⟩

/-- The cash flow of a migrated event: its magnitude with the direction of its stream. -/
def signedCashFlow (stream : StreamRow) (row : StreamEventRow) : Option ℚ :=
  (directionFromStr stream.direction).map fun direction => direction.signed row.effectiveAmount.value

/-- What becomes of the cash flow of a legacy amount. -/
structure CashFlowOf (source : SourceEvent) (stream : StreamRow) (row : StreamEventRow) : Prop where
  /-- The export does not get past an amount it cannot keep. -/
  finite : source.amount.isFinite = true
  /-- The magnitude is kept, bit by bit. -/
  magnitude : row.effectiveAmount = source.amount.abs
  /-- The sign is that of the kind of the stream. -/
  signed : signedCashFlow stream row =
    some ((legacyDirection stream.streamType stream.kind).signed source.amount.value)
  /-- The legacy amount is found again exactly when it flows the way of its stream. -/
  kept : signedCashFlow stream row = some source.amount.value ↔
    Direction.Agrees (legacyDirection stream.streamType stream.kind) source.amount.value

/-- A legacy amount keeps its magnitude, and takes its sign from its stream. -/
theorem legacy_cash_flow (platform : ExportPlatform) (sources : List SourceStream)
    (streams : List StreamRow) (schedules : List StreamScheduleRow) (rows : List SourceEvent)
    (events : List StreamEventRow)
    (streamsRead : sources.mapM (readStream platform .legacySigned) = .ok streams)
    (read : readStreamEvents platform .legacySigned streams schedules rows = .ok events) :
    List.Forall₂ (fun source row => ∀ stream ∈ streams, stream.id = row.streamId →
      CashFlowOf source stream row) rows events := by
  refine (readStreamEvents_rows read).imp fun source row done stream streamThere named => ?_
  obtain ⟨legacy, checked, done⟩ := done
  obtain ⟨-, -, magnitude⟩ := legacyEvent_ok checked
  obtain ⟨finite, -, stripped⟩ := sourceMagnitude_legacySigned magnitude
  have kept : row.effectiveAmount = source.amount.abs :=
    (transformEvent_effectiveAmount done).2.trans stripped
  -- The stream is one of those read, so its direction is that of its kind.
  obtain ⟨_, -, streamRead⟩ := mapM_ok_mem streamsRead streamThere
  have value : row.effectiveAmount.value = |source.amount.value| := by
    rw [kept, Binary64.value_abs, Binary64.abs_value]
  have signed : signedCashFlow stream row =
      some ((legacyDirection stream.streamType stream.kind).signed |source.amount.value|) := by
    rw [signedCashFlow, readStream_direction streamRead, value, Option.map_some]
  refine ⟨finite, kept, ?_, ?_⟩
  · rw [signed, signed_abs]
  · rw [signed, Option.some.injEq]
    exact signed_eq_self

/-- A consultancy that brings money in. -/
def consulting : SourceStream where
  id := 1
  name := "Consulting"
  streamType := "manual_income"
  kind := some "manual_income"
  direction := none
  amountCertainty := none
  description := none
  defaultAccountId := none
  configuration := none
  parentId := none
  isActive := 1
  createdAt := "2026-01-01T00:00:00.000Z"
  updatedAt := "2026-01-01T00:00:00.000Z"

/-- An entry of the consultancy. -/
def consultingEntry (id : ℤ) (amount : Binary64) : SourceEvent where
  id := id
  streamId := 1
  accountId := none
  label := none
  expectedDate := "2026-07-01"
  actualDate := none
  amount := amount
  status := "confirmed"
  sourceId := none
  sourceType := none
  metadata := none
  notes := none
  createdAt := "2026-01-01T00:00:00.000Z"
  updatedAt := "2026-01-01T00:00:00.000Z"

/-- Five hundred were paid, and fifty were paid back. -/
def consultingEntries : List SourceEvent :=
  [consultingEntry 1 (.ofBits 0x407F400000000000), consultingEntry 2 (.ofBits 0xC049000000000000)]

/-- What the exporter makes of the consultancy. -/
def consultingStreams : List StreamRow :=
  (([consulting].mapM (readStream newYearPlatform .legacySigned)).toOption).getD []

/-- What the exporter makes of its entries. -/
def consultingRows : List StreamEventRow :=
  ((readStreamEvents newYearPlatform .legacySigned consultingStreams []
    consultingEntries).toOption).getD []

/-- The consultancy is not refused. -/
theorem consultingStreams_read :
    [consulting].mapM (readStream newYearPlatform .legacySigned) = .ok consultingStreams :=
  eq_ok_getD (by decide +kernel) _

/-- Its entries are not refused either. -/
theorem consultingRows_read :
    readStreamEvents newYearPlatform .legacySigned consultingStreams [] consultingEntries =
      .ok consultingRows :=
  eq_ok_getD (by decide +kernel) _

/-- Both entries keep their magnitude, and the payment keeps its sign. -/
theorem legacy_cash_flow_consulting :
    List.Forall₂ (fun source row => ∀ stream ∈ consultingStreams, stream.id = row.streamId →
      CashFlowOf source stream row) consultingEntries consultingRows ∧
    consultingStreams.flatMap (fun stream => consultingRows.map (signedCashFlow stream)) =
      [some 500, some 50] :=
  ⟨legacy_cash_flow newYearPlatform [consulting] consultingStreams [] consultingEntries
    consultingRows consultingStreams_read consultingRows_read, by decide +kernel⟩

/-- The fifty that were paid back are exported as fifty that were paid. -/
theorem legacy_cash_flow_reversed :
    ¬ ∀ (platform : ExportPlatform) (sources : List SourceStream) (streams : List StreamRow)
      (schedules : List StreamScheduleRow) (rows : List SourceEvent) (events : List StreamEventRow),
      sources.mapM (readStream platform .legacySigned) = .ok streams →
      readStreamEvents platform .legacySigned streams schedules rows = .ok events →
      List.Forall₂ (fun source row => ∀ stream ∈ streams, stream.id = row.streamId →
        signedCashFlow stream row = some source.amount.value) rows events := by
  intro always
  have kept := always newYearPlatform [consulting] consultingStreams [] consultingEntries
    consultingRows consultingStreams_read consultingRows_read
  have turned : ∃ pair ∈ consultingEntries.zip consultingRows, ∃ stream ∈ consultingStreams,
      stream.id = pair.2.streamId ∧ signedCashFlow stream pair.2 ≠ some pair.1.amount.value := by
    decide +kernel
  obtain ⟨pair, paired, stream, streamThere, named, different⟩ := turned
  exact different (List.forall₂_zip kept paired stream streamThere named)

end FinStream.Migration
