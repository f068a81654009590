import FinStream.Migration.Contract
import FinStream.Store.Lookup
import FinStream.Store.Ordering
import Mathlib.Data.Int.ConditionallyCompleteOrder
import Mathlib.Data.Int.SuccPred

/-! The ids that the target hands out after those of the source. -/

namespace FinStream.Migration

open Store

/-! ### Reading the sequences -/

/-- What PostgreSQL answers about a sequence, in its 64 bits. -/
structure SequenceReading where
  lastValue : ℤ
  isCalled : Bool
  incrementBy : ℤ
  cycle : Bool
  minValue : ℤ
  maxValue : ℤ
  representable : lastValue < 2 ^ 63

/-- Where the ids of a table go on. -/
structure SequenceState where
  table : String
  sourceSequence : String
  sourceEffectiveNext : ℤ
  importedMax : Option ℤ
  targetEffectiveNext : ℤ
  deriving DecidableEq

/-- The ids of each serial table, in the order of its rows. -/
def serialIds (dataset : Dataset) : List (String × List ℤ) :=
  [("app_user", dataset.appUsers.map (·.id)), ("account", dataset.accounts.map (·.id)),
    ("stream", dataset.streams.map (·.id)), ("stream_view", dataset.streamViews.map (·.id)),
    ("stream_schedule", dataset.streamSchedules.map (·.id)),
    ("stream_event", dataset.streamEvents.map (·.id)),
    ("intg_integration_connection", dataset.integrationConnections.map (·.id)),
    ("intg_tmo_import_overview", dataset.tmoImportOverviews.map (·.id)),
    ("intg_tmo_import_loan", dataset.tmoImportLoans.map (·.id)),
    ("intg_tmo_import_payment", dataset.tmoImportPayments.map (·.id)),
    ("portfolio_snapshot", dataset.portfolioSnapshots.map (·.id)),
    ("sync_log", dataset.syncLogs.map (·.id)),
    ("intg_loan_workspace", dataset.loanWorkspaces.map (·.id)),
    ("intg_loan_workspace_photo", dataset.loanWorkspacePhotos.map (·.id)),
    ("intg_received_email", dataset.receivedEmails.map (·.id)),
    ("intg_received_email_attachment", dataset.receivedEmailAttachments.map (·.id))]

/-- The id of the last row of each serial table. -/
def maximums (dataset : Dataset) : List (String × Option ℤ) :=
  (serialIds dataset).map fun entry => (entry.1, entry.2.getLast?)

/-- The next number, unless 64 bits end here. -/
def checkedNext (value : ℤ) (message : String) : ExportResult ℤ := do
  ensure (value < 2 ^ 63 - 1) (.detail message)
  pure (value + 1)

/-- The id that the source would hand out next. -/
def sourceEffectiveNext (reading : SequenceReading) : ExportResult ℤ :=
  if reading.isCalled then checkedNext reading.lastValue "source sequence overflow"
  else pure reading.lastValue

/-- Where the ids of one table go on. -/
def sequenceState (sequence : RelationInventory) (reading : SequenceReading)
    (mapping : SerialRelation) (importedMax : Option ℤ) : ExportResult SequenceState := do
  let name := qualified sequence.schema sequence.name
  ensure (reading.incrementBy == 1)
    (.detail s!"{name} has unsupported increment {reading.incrementBy}")
  ensure (!reading.cycle)
    (.detail s!"{name} is cyclic, which SQLite AUTOINCREMENT cannot preserve")
  ensure (!(reading.minValue < 1 || reading.maxValue != 2 ^ 63 - 1))
    (.detail s!"{name} has unsupported bounds")
  let sourceEffectiveNext ← sourceEffectiveNext reading
  let minimumNext ← checkedNext (importedMax.getD 0) "ID overflow"
  let targetEffectiveNext := max sourceEffectiveNext minimumNext
  ensure (0 < targetEffectiveNext)
    (.detail s!"{mapping.owner} sequence would generate a non-positive ID")
  pure {
    table := mapping.targetTable
    sourceSequence := name
    sourceEffectiveNext
    importedMax
    targetEffectiveNext }

/-- Where the ids of all serial tables go on. -/
def readSequenceStates (readSequence : String → String → ExportResult SequenceReading)
    (inventory : List RelationInventory) (dataset : Dataset) :
    ExportResult (List SequenceState) :=
  serialRelations.mapM fun mapping => do
    let sequence ← required (inventory.find? fun relation =>
      relation.kind == .sequence && relation.ownedBy == some mapping.owner)
      (.detail s!"{mapping.owner} has no owned sequence")
    let reading ← readSequence sequence.schema sequence.name
    -- Every serial table has an entry.
    let importedMax ← required ((maximums dataset).lookup mapping.targetTable)
      (.detail "no entry found for key")
    sequenceState sequence reading mapping importedMax

/-! ### Setting the sequences -/

/-- Refuses sequences that do not continue the ids of a dataset. -/
def validateSequenceContract (dataset : Dataset) (sequences : List SequenceState) :
    ExportResult PUnit := do
  ensure (sequences.length == (maximums dataset).length)
    (.detail "sequence inventory is incomplete or duplicated")
  (maximums dataset).forM fun (table, importedMax) => do
    match sequences.filter (·.table == table) with
    | [state] =>
      ensure (state.importedMax == importedMax)
        (.detail s!"{table} sequence max differs from imported IDs")
      let minimumNext ← checkedNext (importedMax.getD 0) "ID overflow"
      ensure (state.targetEffectiveNext == max state.sourceEffectiveNext minimumNext)
        (.detail s!"{table} target sequence does not preserve source next-ID semantics")
    | _ => throw (.detail s!"{table} must have exactly one sequence state")

/-- The rows of `sqlite_sequence`: the largest id that each table has had. -/
abbrev SqliteSequence := List (String × ℤ)

/-- Refuses a table whose ids the exporter does not continue. -/
def ensureKnownSequenceTable (table : String) : ExportResult PUnit :=
  ensure (["app_user", "account", "stream", "stream_view", "stream_schedule", "stream_event",
      "intg_integration_connection", "intg_tmo_import_overview", "intg_tmo_import_loan",
      "intg_tmo_import_payment", "portfolio_snapshot", "sync_log", "intg_loan_workspace",
      "intg_loan_workspace_photo", "intg_received_email",
      "intg_received_email_attachment"].contains table)
    (.detail s!"refusing dynamic sequence operation for unknown table {table}")

/-- Sets where the ids of each table go on, in one transaction. -/
def setSequences (sequences : List SequenceState) (rows : SqliteSequence) :
    ExportResult SqliteSequence :=
  sequences.foldlM (fun rows state => do
    ensureKnownSequenceTable state.table
    -- UPDATE, and INSERT where that changes no row.
    pure (assign state.table (state.targetEffectiveNext - 1) rows)) rows

/-- The id that SQLite gives the next row of a table, unless there is none. -/
def autoincrement (seq : ℤ) (ids : List ℤ) : Option ℤ :=
  let largest := ids.foldl max seq
  if largest < 2 ^ 63 - 1 then some (largest + 1) else none

/-- Tries in each table which id the next row gets; the row is taken back. -/
def validateSequences (insertProbe : String → ExportResult PUnit) (dataset : Dataset)
    (rows : SqliteSequence) (sequences : List SequenceState) : ExportResult PUnit :=
  sequences.forM fun state => do
    ensureKnownSequenceTable state.table
    let stored ← required (rows.lookup state.table) (.detail "Query returned no rows")
    ensure (stored == state.targetEffectiveNext - 1)
      (.detail s!"{state.table} sqlite_sequence is wrong")
    insertProbe state.table
    let actual ← required
      (autoincrement stored (((serialIds dataset).lookup state.table).getD []))
      (.detail "database or disk is full")
    ensure (actual == state.targetEffectiveNext)
      (.detail s!"{state.table} generated {actual}, expected {state.targetEffectiveNext}")

/-! ### The target after the cutover -/

/-- What the application does to a table. -/
inductive RowChange where
  | insert
  | delete (id : ℤ)

/-- The ids in a table, and the largest one that it has had. -/
structure SerialTable where
  ids : List ℤ
  seq : ℤ

/-- A change of a table, with the id that it assigns. -/
def RowChange.apply (table : SerialTable) : RowChange → Option ℤ × SerialTable
  | .insert =>
    match autoincrement table.seq table.ids with
    | some id => (some id, ⟨table.ids ++ [id], id⟩)
    | none => (none, table)
  | .delete id => (none, { table with ids := table.ids.filter (· != id) })

/-- The ids that a run of changes assigns, in order. -/
def assigned (table : SerialTable) : List RowChange → List ℤ
  | [] => []
  | change :: rest =>
    (change.apply table).1.toList ++ assigned (change.apply table).2 rest

/-! ### What a state says -/

/-- The id that the source would hand out next, in any number of bits. -/
def SequenceReading.next (reading : SequenceReading) : ℤ :=
  if reading.isCalled then reading.lastValue + 1 else reading.lastValue

/-- A state goes on after the source and after every imported id. -/
structure Continues (reading : SequenceReading) (importedMax : Option ℤ) (state : SequenceState) :
    Prop where
  imported : state.importedMax = importedMax
  source : state.sourceEffectiveNext = reading.next
  room : importedMax.getD 0 < 2 ^ 63 - 1
  target : state.targetEffectiveNext = max reading.next (importedMax.getD 0 + 1)
  representable : state.targetEffectiveNext < 2 ^ 63
  positive : 0 < state.targetEffectiveNext

/-- The next number is one more, and there is one. -/
theorem checkedNext_eq_ok {value result : ℤ} {message : String} :
    checkedNext value message = .ok result ↔ value < 2 ^ 63 - 1 ∧ result = value + 1 := by
  simp only [checkedNext, bind_eq_ok, ensure_eq_ok, pure_eq_ok, decide_eq_true_eq, exists_const]
  exact and_congr_right fun _ => eq_comm

/-- The next id of the source is read where 64 bits hold it. -/
theorem sourceEffectiveNext_ok {reading : SequenceReading} {result : ℤ}
    (read : sourceEffectiveNext reading = .ok result) :
    result = reading.next ∧ reading.next < 2 ^ 63 := by
  unfold sourceEffectiveNext at read
  unfold SequenceReading.next
  split at read
  · rename_i called
    obtain ⟨below, rfl⟩ := checkedNext_eq_ok.mp read
    rw [if_pos called]
    exact ⟨rfl, by omega⟩
  · rename_i fresh
    obtain rfl := pure_eq_ok.mp read
    rw [if_neg fresh]
    exact ⟨rfl, reading.representable⟩

/-- A state that is read continues its sequence. -/
theorem sequenceState_ok {sequence : RelationInventory} {reading : SequenceReading}
    {mapping : SerialRelation} {importedMax : Option ℤ} {state : SequenceState}
    (read : sequenceState sequence reading mapping importedMax = .ok state) :
    state.table = mapping.targetTable ∧ Continues reading importedMax state := by
  simp only [sequenceState, bind_eq_ok, ensure_eq_ok, pure_eq_ok, checkedNext_eq_ok,
    decide_eq_true_eq] at read
  obtain ⟨_, _, _, _, _, _, sourceNext, source, _, ⟨room, rfl⟩, _, positive, rfl⟩ := read
  obtain ⟨rfl, below⟩ := sourceEffectiveNext_ok source
  refine ⟨rfl, rfl, rfl, room, rfl, ?_, positive⟩
  exact max_lt below (by omega)

/-- The states are those of the serial tables, in their order. -/
theorem readSequenceStates_ok {readSequence : String → String → ExportResult SequenceReading}
    {inventory : List RelationInventory} {dataset : Dataset} {states : List SequenceState}
    (read : readSequenceStates readSequence inventory dataset = .ok states) :
    List.Forall₂ (fun mapping state => ∃ sequence reading importedMax,
      sequence ∈ inventory ∧ sequence.kind = .sequence ∧ sequence.ownedBy = some mapping.owner ∧
        readSequence sequence.schema sequence.name = .ok reading ∧
        (maximums dataset).lookup mapping.targetTable = some importedMax ∧
        state.table = mapping.targetTable ∧ Continues reading importedMax state)
      serialRelations states := by
  refine (mapM_eq_ok read).imp fun mapping state done => ?_
  simp only [bind_eq_ok, required_eq_ok] at done
  obtain ⟨sequence, found, reading, asked, importedMax, there, made⟩ := done
  have matched := List.find?_some found
  simp only [Bool.and_eq_true, beq_iff_eq] at matched
  exact ⟨sequence, reading, importedMax, List.mem_of_find?_eq_some found, matched.1, matched.2,
    asked, there, sequenceState_ok made⟩

/-! ### What SQLite is told -/

/-- What is found after all sequences are set. -/
theorem setSequences_ok {states : List SequenceState} (rows : SqliteSequence)
    (known : ∀ state ∈ states, ensureKnownSequenceTable state.table = .ok ⟨⟩)
    (distinct : (states.map (·.table)).Nodup) :
    ∃ after, setSequences states rows = .ok after ∧
      (∀ state ∈ states, after.lookup state.table = some (state.targetEffectiveNext - 1)) ∧
      ∀ table ∉ states.map (·.table), after.lookup table = rows.lookup table := by
  induction states generalizing rows with
  | nil => exact ⟨rows, rfl, fun state listed => absurd listed List.not_mem_nil, fun _ _ => rfl⟩
  | cons state rest ih =>
    obtain ⟨fresh, distinct⟩ := List.nodup_cons.mp distinct
    obtain ⟨after, set, written, others⟩ :=
      ih (assign state.table (state.targetEffectiveNext - 1) rows)
        (fun other listed => known other (List.mem_cons_of_mem _ listed)) distinct
    refine ⟨after, ?_, fun other listed => ?_, fun table absent => ?_⟩
    · rw [setSequences, List.foldlM_cons]
      simp only [bind_eq_ok, pure_eq_ok]
      exact ⟨_, ⟨⟨⟩, known state List.mem_cons_self, rfl⟩, set⟩
    · rcases List.mem_cons.mp listed with rfl | later
      · rw [others _ fresh, lookup_assign, if_pos rfl]
      · exact written other later
    · rw [List.map_cons, List.mem_cons, not_or] at absent
      rw [others table absent.2, lookup_assign, if_neg absent.1]

/-! ### What the target assigns -/

/-- An assigned id is above every id in the table and every earlier one. -/
theorem autoincrement_above {seq id : ℤ} {ids : List ℤ} (given : autoincrement seq ids = some id) :
    seq < id := by
  simp only [autoincrement] at given
  have above : seq ≤ ids.foldl max seq := (le_foldl_max (fun id => id) ids seq).1
  split at given
  · obtain rfl := Option.some.inj given
    omega
  · cases given

/-- Ids that are assigned rise, from the largest one that the table has had. -/
theorem assigned_rising (table : SerialTable) (changes : List RowChange) :
    (assigned table changes).Pairwise (· < ·) ∧
      ∀ id ∈ assigned table changes, table.seq < id := by
  induction changes generalizing table with
  | nil => exact ⟨.nil, fun id listed => absurd listed List.not_mem_nil⟩
  | cons change rest ih =>
    obtain ⟨rising, above⟩ := ih (change.apply table).2
    rw [assigned]
    cases change with
    | insert =>
      cases given : autoincrement table.seq table.ids with
      | some id =>
        have after : RowChange.insert.apply table = (some id, ⟨table.ids ++ [id], id⟩) := by
          rw [RowChange.apply, given]
        rw [after] at rising above ⊢
        have first := autoincrement_above given
        refine ⟨List.pairwise_cons.mpr ⟨above, rising⟩, fun other listed => ?_⟩
        rcases List.mem_cons.mp listed with rfl | later
        · exact first
        · exact first.trans (above other later)
      | none =>
        have after : RowChange.insert.apply table = (none, table) := by
          rw [RowChange.apply, given]
        rw [after] at rising above ⊢
        exact ⟨rising, above⟩
    | delete id => exact ⟨rising, above⟩

/-! ### The cutover -/

/-- The serial tables have the same names wherever they are listed. -/
theorem serialIds_names (dataset : Dataset) :
    (serialIds dataset).map Prod.fst = serialRelations.map (·.targetTable) := rfl

/-- No two serial tables share a name. -/
theorem serialRelations_nodup : (serialRelations.map (·.targetTable)).Nodup := by decide +kernel

/-- The ids of each table are listed once. -/
theorem serialIds_nodup (dataset : Dataset) : ((serialIds dataset).map Prod.fst).Nodup :=
  serialIds_names dataset ▸ serialRelations_nodup

/-- The largest id of each table is the last one of its ids. -/
theorem maximums_lookup (dataset : Dataset) (table : String) :
    (maximums dataset).lookup table =
      ((serialIds dataset).lookup table).map List.getLast? :=
  lookup_map (fun (_ : String) (ids : List ℤ) => ids.getLast?) (serialIds dataset) table

/-- The last of ids that rise is the largest. -/
theorem le_getLast {ids : List ℤ} (rising : ids.Pairwise (· < ·)) {id : ℤ} (listed : id ∈ ids) :
    id ≤ ids.getLast?.getD 0 := by
  rcases List.eq_nil_or_concat' ids with rfl | ⟨before, last, rfl⟩
  · cases listed
  · rw [List.getLast?_concat, Option.getD_some]
    rcases List.mem_append.mp listed with earlier | same
    · have below := (List.pairwise_append.mp rising).2.2 id earlier last (List.mem_singleton_self _)
      exact le_of_lt below
    · exact le_of_eq (List.mem_singleton.mp same)

/-- Every serial table may be set. -/
theorem serialRelations_known : ∀ relation ∈ serialRelations,
    ensureKnownSequenceTable relation.targetTable = .ok ⟨⟩ := by
  intro relation member
  rw [ensureKnownSequenceTable, ensure_eq_ok, List.contains_iff_mem]
  exact List.mem_map_of_mem (f := SerialRelation.targetTable) member

/-- What is read for one serial table: its sequence, its ids and where they go on. -/
structure Continued (readSequence : String → String → ExportResult SequenceReading)
    (inventory : List RelationInventory) (dataset : Dataset) (relation : SerialRelation)
    (ids : List ℤ) (sequence : RelationInventory) (reading : SequenceReading)
    (state : SequenceState) : Prop where
  listed : (relation.targetTable, ids) ∈ serialIds dataset
  owned : sequence ∈ inventory ∧ sequence.kind = .sequence ∧
    sequence.ownedBy = some relation.owner ∧
    readSequence sequence.schema sequence.name = .ok reading
  table : state.table = relation.targetTable
  continues : Continues reading ids.getLast? state

section Cutover

variable {readSequence : String → String → ExportResult SequenceReading}
  {inventory : List RelationInventory} {dataset : Dataset} {states : List SequenceState}

/-- Each state is that of its serial table. -/
theorem continued_of_read (read : readSequenceStates readSequence inventory dataset = .ok states) :
    List.Forall₂ (fun relation state => ∃ ids sequence reading,
      Continued readSequence inventory dataset relation ids sequence reading state)
      serialRelations states := by
  refine (readSequenceStates_ok read).imp fun relation state made => ?_
  obtain ⟨sequence, reading, importedMax, member, kind, owner, asked, found, named, continues⟩ := made
  rw [maximums_lookup] at found
  obtain ⟨ids, there, rfl⟩ := Option.map_eq_some_iff.mp found
  exact ⟨ids, sequence, reading, mem_of_lookup there, ⟨member, kind, owner, asked⟩, named, continues⟩

/-- Imported ids are below the one that comes next. -/
theorem Continued.above {relation : SerialRelation} {ids : List ℤ} {sequence : RelationInventory}
    {reading : SequenceReading} {state : SequenceState}
    (continued : Continued readSequence inventory dataset relation ids sequence reading state)
    (ordered : ∀ entry ∈ serialIds dataset, entry.2.Pairwise (· < ·)) {id : ℤ} (listed : id ∈ ids) :
    id ≤ state.targetEffectiveNext - 1 := by
  have below : id ≤ ids.getLast?.getD 0 := le_getLast (ordered _ continued.listed) listed
  rw [continued.continues.target]
  omega

/-- The states that are read pass the check of the artifact. -/
theorem validateSequenceContract_of_read
    (read : readSequenceStates readSequence inventory dataset = .ok states) :
    validateSequenceContract dataset states = .ok ⟨⟩ := by
  have paired := continued_of_read read
  have names : states.map (·.table) = serialRelations.map (·.targetTable) :=
    map_eq_of_forall₂ paired fun _ _ made => by
      obtain ⟨_, _, _, continued⟩ := made
      exact continued.table
  simp only [validateSequenceContract, bind_eq_ok, ensure_eq_ok]
  refine ⟨⟨⟩, ?_, forM_ok fun entry listed => ?_⟩
  · have sizes := congrArg List.length names
    simp only [List.length_map] at sizes
    rw [beq_iff_eq, sizes]
    rfl
  · obtain ⟨entryIds, member, rfl⟩ := List.mem_map.mp listed
    -- The table is a serial one, and has one state.
    have named : entryIds.1 ∈ serialRelations.map (·.targetTable) :=
      serialIds_names dataset ▸ List.mem_map_of_mem member
    obtain ⟨relation, there, same⟩ := List.mem_map.mp named
    obtain ⟨state, stateListed, ids, sequence, reading, continued⟩ := forall₂_mem_left paired there
    have table : state.table = entryIds.1 := continued.table.trans same
    have one := filter_named (names ▸ serialRelations_nodup) stateListed
    rw [table] at one
    have equal : ids = entryIds.2 := by
      have first := lookup_of_mem (serialIds_nodup dataset) continued.listed
      rw [same, lookup_of_mem (serialIds_nodup dataset) (show (entryIds.1, entryIds.2) ∈ _ from member)]
        at first
      exact (Option.some.inj first).symm
    subst equal
    simp only [one, bind_eq_ok, ensure_eq_ok, checkedNext_eq_ok, beq_iff_eq]
    exact ⟨⟨⟩, continued.continues.imported, _, ⟨continued.continues.room, rfl⟩, by
      rw [continued.continues.target, continued.continues.source]⟩

/-- The states that are read are found in SQLite after they are set, and nothing else is changed. -/
theorem setSequences_of_read
    (read : readSequenceStates readSequence inventory dataset = .ok states) (rows : SqliteSequence) :
    ∃ after, setSequences states rows = .ok after ∧
      (∀ state ∈ states, after.lookup state.table = some (state.targetEffectiveNext - 1)) ∧
      ∀ table ∉ serialRelations.map (·.targetTable), after.lookup table = rows.lookup table := by
  have paired := continued_of_read read
  have names : states.map (·.table) = serialRelations.map (·.targetTable) :=
    map_eq_of_forall₂ paired fun _ _ made => by
      obtain ⟨_, _, _, continued⟩ := made
      exact continued.table
  have known : ∀ state ∈ states, ensureKnownSequenceTable state.table = .ok ⟨⟩ := by
    intro state listed
    obtain ⟨relation, member, _, _, _, continued⟩ := forall₂_mem_right paired listed
    rw [continued.table]
    exact serialRelations_known relation member
  obtain ⟨after, set, written, others⟩ :=
    setSequences_ok rows known (names ▸ serialRelations_nodup)
  exact ⟨after, set, written, names ▸ others⟩

/-- SQLite gives the first new row the id that was read for it. -/
theorem Continued.probed {relation : SerialRelation} {ids : List ℤ} {sequence : RelationInventory}
    {reading : SequenceReading} {state : SequenceState}
    (continued : Continued readSequence inventory dataset relation ids sequence reading state)
    (ordered : ∀ entry ∈ serialIds dataset, entry.2.Pairwise (· < ·)) :
    autoincrement (state.targetEffectiveNext - 1) ids = some state.targetEffectiveNext := by
  have largest : ids.foldl max (state.targetEffectiveNext - 1) = state.targetEffectiveNext - 1 := by
    refine le_antisymm (foldl_max_le.mpr ⟨le_refl _, fun id listed => continued.above ordered listed⟩)
      (le_foldl_max (fun id => id) ids _).1
  have room := continued.continues.representable
  simp only [autoincrement, largest]
  rw [if_pos (by omega)]
  congr 1
  omega

end Cutover

/--
The target goes on where the source left off. What the exporter reads of the sequences passes its
own checks, and whatever rows are inserted and deleted in the target, the ids of new rows rise and
are none that the source has handed out and none that was imported.
-/
theorem ids_continue (readSequence : String → String → ExportResult SequenceReading)
    (inventory : List RelationInventory) (dataset : Dataset) (states : List SequenceState)
    (ordered : ∀ entry ∈ serialIds dataset, entry.2.Pairwise (· < ·))
    (read : readSequenceStates readSequence inventory dataset = .ok states)
    (rows : SqliteSequence) :
    validateSequenceContract dataset states = .ok ⟨⟩ ∧
      ∃ after, setSequences states rows = .ok after ∧
        (∀ insertProbe, (∀ relation ∈ serialRelations,
            insertProbe relation.targetTable = .ok ⟨⟩) →
          validateSequences insertProbe dataset after states = .ok ⟨⟩) ∧
        (∀ table ∉ serialRelations.map (·.targetTable), after.lookup table = rows.lookup table) ∧
        ∀ relation ∈ serialRelations, ∃ ids sequence reading seq,
          (relation.targetTable, ids) ∈ serialIds dataset ∧
          (sequence ∈ inventory ∧ sequence.kind = .sequence ∧
            sequence.ownedBy = some relation.owner ∧
            readSequence sequence.schema sequence.name = .ok reading) ∧
          after.lookup relation.targetTable = some seq ∧
          ∀ changes, (assigned ⟨ids, seq⟩ changes).Pairwise (· < ·) ∧
            ∀ id ∈ assigned ⟨ids, seq⟩ changes,
              0 < id ∧ reading.next ≤ id ∧ ∀ imported ∈ ids, imported < id := by
  have paired := continued_of_read read
  obtain ⟨after, set, written, others⟩ := setSequences_of_read read rows
  refine ⟨validateSequenceContract_of_read read, after, set, fun insertProbe inserted => ?_, others,
    fun relation member => ?_⟩
  · refine forM_ok fun state listed => ?_
    obtain ⟨relation, member, ids, sequence, reading, continued⟩ := forall₂_mem_right paired listed
    have there := lookup_of_mem (serialIds_nodup dataset) continued.listed
    have known := serialRelations_known relation member
    rw [← continued.table] at there known
    have probe := inserted relation member
    rw [← continued.table] at probe
    simp only [bind_eq_ok, required_eq_ok, ensure_eq_ok, beq_iff_eq, written state listed, known,
      probe, there, Option.getD_some, Option.some.injEq]
    exact ⟨⟨⟩, trivial, _, rfl, ⟨⟩, rfl, ⟨⟩, trivial, _, continued.probed ordered, rfl⟩
  · obtain ⟨state, listed, ids, sequence, reading, continued⟩ := forall₂_mem_left paired member
    refine ⟨ids, sequence, reading, _, continued.listed, continued.owned,
      continued.table ▸ written state listed, fun changes => ?_⟩
    obtain ⟨rising, above⟩ := assigned_rising ⟨ids, state.targetEffectiveNext - 1⟩ changes
    refine ⟨rising, fun id given => ?_⟩
    have later : state.targetEffectiveNext - 1 < id := above id given
    have positive := continued.continues.positive
    have target := continued.continues.target
    refine ⟨by omega, by omega, fun imported old => ?_⟩
    have below := continued.above ordered old
    omega

/-! ### A source with two users -/

/-- Two users of which the source has deleted later ones. -/
def twoUsers : Dataset :=
  { Dataset.empty with
    appUsers :=
      [⟨3, "first@example.com", "hash", none, 1, 1735689600, 1735689600⟩,
        ⟨7, "second@example.com", "hash", none, 1, 1735689600, 1735689600⟩] }

/-- A sequence that has handed out forty-one ids. -/
def fortyOne : SequenceReading := ⟨41, true, 1, false, 1, 2 ^ 63 - 1, by decide⟩

/-- A sequence for each serial table. -/
def serialInventory : List RelationInventory :=
  serialRelations.map fun relation =>
    { schema := relation.sourceSchema
      name := relation.sourceTable ++ "_id_seq"
      kind := .sequence
      classification := .sequenceMetadata
      reason := s!"preserve effective next ID for {relation.owner}"
      ownedBy := some relation.owner
      sourceCount := none
      columns := []
      sourceStats := none
      destinationStats := none }

/-- All tables go on at forty-two. -/
def fortyTwo : List SequenceState :=
  serialRelations.map fun relation =>
    { table := relation.targetTable
      sourceSequence := qualified relation.sourceSchema (relation.sourceTable ++ "_id_seq")
      sourceEffectiveNext := 42
      importedMax := if relation.targetTable = "app_user" then some 7 else none
      targetEffectiveNext := 42 }

/-- A user that is made after the cutover gets none of the ids the source has handed out. -/
theorem ids_continue_users : ∃ after, setSequences fortyTwo [("app_user", 7)] = .ok after ∧
    ∃ seq, after.lookup "app_user" = some seq ∧
      ∀ changes, ∀ id ∈ assigned ⟨[3, 7], seq⟩ changes, 42 ≤ id := by
  obtain ⟨-, after, set, -, -, each⟩ := ids_continue (fun _ _ => .ok fortyOne) serialInventory
    twoUsers fortyTwo (by decide +kernel) (by decide +kernel) [("app_user", 7)]
  obtain ⟨ids, sequence, reading, seq, listed, ⟨-, -, -, asked⟩, there, run⟩ :=
    each ⟨"public", "app_user", "app_user"⟩ (by decide +kernel)
  obtain rfl := Except.ok.inj asked
  have found := lookup_of_mem (serialIds_nodup twoUsers) listed
  obtain rfl : [3, 7] = ids := Option.some.inj found
  exact ⟨after, set, seq, there, fun changes id given => ((run changes).2 id given).2.1⟩

end FinStream.Migration
