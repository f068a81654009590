import FinStream.Migration.Publication

/-! How an export ends: what was verified of what it leaves, and that nothing else is left. -/

namespace FinStream.Migration

open Store Store.Disk

/-! ### What is verified -/

/-- A table of the source is counted as the inventory counted it. -/
def Counted (stats : List (String × TableStats)) (relation : RelationInventory) : Prop :=
  relation.classification = .transformed → ∃ table, stats.lookup relation.name = some table ∧
    relation.sourceCount = some (table.rowCount : ℤ) ∧ relation.sourceStats = some table

/-- A table has the same statistics in the source and in the artifact. -/
def Compared (relation : RelationInventory) : Prop :=
  relation.classification = .transformed → ∃ table, relation.sourceStats = some table ∧
    relation.destinationStats = some table ∧ relation.sourceCount = some (table.rowCount : ℤ)

/-- What is known of a database that was built from a dataset. -/
structure Validated (exporter : Exporter) (database : ArtifactDatabase) (source : Dataset)
    (sequences : List SequenceState) (validation : ArtifactValidation) : Prop where
  foreignKeys : database.foreignKeys = .ok 1
  sequenced : ∃ loaded rows, database.loaded = .ok loaded ∧
    validateSequenceContract source sequences = .ok ⟨⟩ ∧
    setSequences sequences loaded = .ok rows ∧
    validateSequences database.insertProbe source rows sequences = .ok ⟨⟩
  destination : database.destination = .ok validation.destination
  /-- Its rows have the statistics of the rows of the source. -/
  stats : ∃ stats, datasetStats exporter.stats source = some stats ∧
    datasetStats exporter.stats validation.destination = some stats
  integrity : database.integrityCheck = .ok "ok" ∧ validation.integrityCheck = "ok"
  references : database.foreignKeyViolations = .ok 0 ∧ validation.foreignKeyViolations = 0
  ledger : ∃ records, database.migrationLedger = .ok records ∧
    records.map Prod.fst = targetMigrationRecords exporter
  sessions : database.sessions = .ok 0
  inboundLeases : database.inboundLeases = .ok 0
  control : database.operationControlCount = .ok 1 ∧
    ∃ updatedAt, database.operationControl = .ok (1, "read_only", 0, updatedAt)
  /-- No page of it is outside its file. -/
  checkpoint : ∃ pages, database.checkpoint = .ok (0, pages, 0)
  closed : database.closed = .ok ⟨⟩

/-- Records with the same fields are the same. -/
theorem sameRecord {left right : Schema.MigrationRecord} (version : left.version = right.version)
    (name : left.name = right.name) (checksum : left.checksum = right.checksum) : left = right := by
  cases left
  cases right
  simp_all

/-- A ledger that is accepted has the migrations of the target, in their order. -/
theorem validateMigrationLedger_ok {exporter : Exporter}
    {records : List (Schema.MigrationRecord × String)}
    (accepted : validateMigrationLedger exporter records = .ok ⟨⟩) :
    records.map Prod.fst = targetMigrationRecords exporter := by
  simp only [validateMigrationLedger, bind_eq_ok, ensure_eq_ok] at accepted
  obtain ⟨-, lengths, each⟩ := accepted
  have same := eq_of_beq lengths
  refine List.ext_getElem (by rw [List.length_map, same]) fun index bounded expected => ?_
  rw [List.length_map] at bounded
  have member : (records[index], (targetMigrationRecords exporter)[index]) ∈
      records.zip (targetMigrationRecords exporter) := by
    rw [← List.getElem_zip (h := by simp [bounded, expected])]
    exact List.getElem_mem _
  have checked := forM_eq_ok each _ member
  simp only [bind_eq_ok, ensure_eq_ok] at checked
  obtain ⟨-, version, -, name, -, checksum, -⟩ := checked
  rw [List.getElem_map]
  exact sameRecord (eq_of_beq version) (eq_of_beq name) (eq_of_beq checksum)

/-- A validated database is what its validation says. -/
theorem validateDatabase_ok {exporter : Exporter} {database : ArtifactDatabase} {source : Dataset}
    {sequences : List SequenceState} {validation : ArtifactValidation}
    (accepted : validateDatabase exporter database source sequences = .ok validation) :
    Validated exporter database source sequences validation := by
  simp only [validateDatabase, bind_eq_ok, ensure_eq_ok, required_eq_ok, pure_eq_ok] at accepted
  obtain ⟨-, -, journal, -, -, -, _, foreignKeys, -, on, -, -, loaded, filled, ⟨⟩, contracted, rows,
    set, ⟨⟩, sequenced, -, -, destination, read, -, -, sourceStats, source, destinationStats, found,
    ⟨⟩, same, -, -, -, -, _, integrity, -, whole, _, counted, -, none, records, ledger, ⟨⟩, listed,
    ⟨⟩, inert, -, -, pages, checkpoint, -, complete, -, -, ⟨⟩, closed, rfl⟩ := accepted
  simp only [validateInert, bind_eq_ok, ensure_eq_ok] at inert
  obtain ⟨_, sessions, -, empty, _, leases, -, idle, ⟨_, _, _, updatedAt⟩, state, _, count, -,
    readOnly, -⟩ := inert
  obtain rfl := eq_of_beq on
  obtain rfl := eq_of_beq whole
  obtain rfl := eq_of_beq none
  obtain rfl := eq_of_beq empty
  obtain rfl := eq_of_beq idle
  obtain rfl := ensureStatsMatch_ok source same
  obtain ⟨busy, logged, moved⟩ := pages
  simp only [Bool.and_eq_true, beq_iff_eq] at complete readOnly
  obtain ⟨rfl, rfl⟩ := complete
  obtain ⟨⟨⟨rfl, rfl⟩, rfl⟩, rfl⟩ := readOnly
  exact {
    foreignKeys
    sequenced := ⟨loaded, rows, filled, contracted, set, sequenced⟩
    destination := read
    stats := ⟨sourceStats, source, found⟩
    integrity := ⟨integrity, rfl⟩
    references := ⟨counted, rfl⟩
    ledger := ⟨records, ledger, validateMigrationLedger_ok listed⟩
    sessions
    inboundLeases := leases
    control := ⟨count, updatedAt, state⟩
    checkpoint := ⟨logged, checkpoint⟩
    closed }

section Outcome

variable (run : ExportRun) (request : ExportRequest)

/-- What is known of a dataset before anything is built from it. -/
structure Admitted (prepared : Prepared) : Prop where
  /-- The rows are those of a source that nothing blocks, under the current key. -/
  source : ∃ relations shape rows rewrap, inventory run.source = .ok (relations, shape) ∧
    inventoryBlockers run.exporter.debug relations = [] ∧
    readDataset run.source shape = .ok rows ∧
    (rewrapLegacyCredentials run.exporter.library rows request.credentialKey
      request.legacyCredentialKey run.random).1 = .ok (prepared.dataset, rewrap)
  login : validateLoginCanary run.exporter prepared.dataset request.loginCanary = .ok ⟨⟩
  credentials : validateCredentialCanary run.exporter.library run.exporter.syncable
    prepared.dataset request.credentialKey = .ok prepared.credentials
  sequences : readSequenceStates run.source.sequence prepared.manifest.relations
    prepared.dataset = .ok prepared.sequences
  counted : ∃ stats, datasetStats run.exporter.stats prepared.dataset = some stats ∧
    ∀ relation ∈ prepared.manifest.relations, Counted stats relation
  unblocked : prepared.manifest.blockers = []
  undigested : prepared.manifest.artifactBlake3 = none
  recorded : prepared.manifest.sequences = prepared.sequences
  loggedIn : ∃ canary, prepared.manifest.loginCanary = some canary ∧
    canary.sourcePasswordVerified = true
  decrypted : ∃ canary, prepared.manifest.credentialCanary = some canary ∧
    canary.sourceVerified = true ∧ canary.sourceTmoCount = prepared.credentials.tmoCount ∧
    canary.sourceMonarchCount = prepared.credentials.monarchCount ∧
    canary.keyFingerprint = prepared.credentials.keyFingerprint

/-- The artifact of a dataset. -/
def Prepared.database (prepared : Prepared) : ArtifactDatabase :=
  run.database prepared.dataset prepared.sequences

/-- What the manifest of an export that came through says, and that it is so. -/
structure Completed (prepared : Prepared) (validation : ArtifactValidation)
    (manifest : ValidationManifest) : Prop where
  admitted : Admitted run request prepared
  validated : Validated run.exporter (prepared.database run) prepared.dataset
    prepared.sequences validation
  login : validateLoginCanary run.exporter validation.destination request.loginCanary = .ok ⟨⟩
  credentials : validateCredentialCanary run.exporter.library run.exporter.syncable
    validation.destination request.credentialKey = .ok prepared.credentials
  status : manifest.status = .complete
  unblocked : manifest.blockers = []
  digest : manifest.artifactBlake3 =
    some (run.exporter.stats.blake3 (prepared.database run).image)
  sequences : manifest.sequences = prepared.sequences
  loggedIn : ∃ canary, manifest.loginCanary = some canary ∧
    canary.sourcePasswordVerified = true ∧ canary.artifactPasswordVerified = true
  decrypted : ∃ canary, manifest.credentialCanary = some canary ∧
    canary.sourceVerified = true ∧ canary.artifactVerified = true ∧
    canary.artifactTmoCount = canary.sourceTmoCount ∧
    canary.artifactMonarchCount = canary.sourceMonarchCount
  tables : ∀ relation ∈ manifest.relations, Compared relation

/-- A manifest of an export that was given up says why, and has no artifact. -/
structure GivenUp (manifest : ValidationManifest) : Prop where
  status : manifest.status = .blocked
  blocked : manifest.blockers ≠ []
  undigested : manifest.artifactBlake3 = none

/-- A whole artifact that only its owner may read. -/
def ArtifactFile (file : File) : Prop :=
  ∃ prepared validation, Admitted run request prepared ∧
    Validated run.exporter (prepared.database run) prepared.dataset prepared.sequences
      validation ∧
    file = ⟨.program, (prepared.database run).image, 0o600⟩

/-- A whole manifest that only its owner may read, and that is true. -/
def ManifestFile (file : File) : Prop :=
  ∃ manifest, (GivenUp manifest ∨ ∃ prepared validation,
    Completed run request prepared validation manifest) ∧
    file = ⟨.program, manifestBytes run.exporter manifest, 0o600⟩

/-- Where the artifact is. -/
def outputLocation : Location := run.directories.locate request.outputPath

/-- Where the manifest is. -/
def manifestLocation : Location := run.directories.locate request.manifestPath

/-- The files that an export may leave. -/
def Allowed (location : Location) (file : File) : Prop :=
  (location = outputLocation run request ∧ ArtifactFile run request file) ∨
    (location = manifestLocation run request ∧ ManifestFile run request file)

/-- What stands throughout an export. -/
abbrev Stands (start : ExportDisk) (facts : List (Fact Location)) : ExportDisk → Prop :=
  Standing start (· ∈ (outputLocation run request).sidecars) (Allowed run request) facts

/-- The artifact is gone. -/
def outputGone : Fact Location := .gone (.named (outputLocation run request))

/-- The artifact is there. -/
def outputHolds (prepared : Prepared) : Fact Location :=
  .holds (.named (outputLocation run request)) ⟨.program, (prepared.database run).image, 0o600⟩

/-- What is known of the artifact when a manifest was written beside it. -/
def givenUp : List (Fact Location) :=
  if manifestLocation run request = outputLocation run request then []
  else [outputGone run request]

variable {run request} {start : ExportDisk}

/-! ### Giving up -/

/-- A list of one fact about a name has no fact about a temporary file. -/
theorem named_singleton {fact : Fact Location} {location : Location}
    (here : fact.place = .named location) : Named [fact] := by
  intro other listed number
  obtain rfl := List.mem_singleton.mp listed
  rw [here]
  simp

/-- A manifest that gives an export up is published, or nothing is. -/
theorem writeGivenUp_ensures {manifest : ValidationManifest} (given : GivenUp manifest) :
    Store.Effect.Ensures (Stands run request start [outputGone run request])
      (writeManifest run.exporter run.directories request.manifestPath manifest)
      (fun _ => Stands run request start (givenUp run request))
      fun _ => Stands run request start (givenUp run request) := by
  have placed : Allowed run request (manifestLocation run request)
      ⟨.program, manifestBytes run.exporter manifest, 0o600⟩ :=
    Or.inr ⟨rfl, manifest, Or.inl given, rfl⟩
  refine (writeManifest_ensures (named_singleton rfl) (fun fact listed => ?_) placed).weaken
    (fun _ standing => standing) (fun _ _ standing => standing.drop) fun _ _ standing => standing
  unfold givenUp at listed
  split at listed
  · cases listed
  · -- The manifest is not where the artifact was.
    rename_i apart
    refine ⟨listed, fun same => apart ?_⟩
    obtain rfl := List.mem_singleton.mp listed
    exact (Place.named.inj (Fact.gone.inj same)).symm

/-- With less known, what stands is what stands after giving up. -/
theorem givenUp_of_gone {disk : ExportDisk}
    (standing : Stands run request start [outputGone run request] disk) :
    Stands run request start (givenUp run request) disk :=
  standing.forget fun fact listed => by
    unfold givenUp at listed
    split at listed
    · cases listed
    · exact listed

/-- An export that is given up before it published anything leaves no artifact. -/
theorem abortExport_ensures {manifest : ValidationManifest} {blocker : String}
    (undigested : manifest.artifactBlake3 = none) {outputPath : Option PathBuf}
    {facts : List (Fact Location)}
    (removed : Store.Effect.Ensures (Stands run request start facts)
      (outputPath.forM fun path => removeIncompleteOutput (run.directories.locate path))
      (fun _ => Stands run request start [outputGone run request])
      fun _ => Stands run request start (givenUp run request)) :
    Store.Effect.Ensures (Stands run request start facts)
      (abortExport run manifest request.manifestPath outputPath blocker)
      (fun _ => Stands run request start (givenUp run request))
      fun _ => Stands run request start (givenUp run request) := by
  refine removed.bind fun _ => ?_
  refine Store.Effect.Ensures.deciding (fun _ _ _ => givenUp_of_gone) fun _ _ => ?_
  refine writeGivenUp_ensures ⟨rfl, fun empty => ?_, undigested⟩
  simp at empty

/-- A result is gone on with, or the export is given up before it published anything. -/
theorem orAbortUnpublished_ensures {α : Type} {result : ExportResult α}
    {manifest : ValidationManifest} {blocker : ExportError → String}
    {shown : ExportError → ExportError} (undigested : manifest.artifactBlake3 = none) :
    Store.Effect.Ensures (Stands run request start [outputGone run request])
      (orAbortUnpublished run request result manifest blocker shown)
      (fun value disk => result = .ok value ∧
        Stands run request start [outputGone run request] disk)
      fun _ => Stands run request start (givenUp run request) := by
  cases result with
  | ok value => exact Store.Effect.Ensures.pure fun disk standing => ⟨rfl, standing⟩
  | error error =>
    have removed : Store.Effect.Ensures (Stands run request start [outputGone run request])
        ((none : Option PathBuf).forM fun path =>
          removeIncompleteOutput (run.directories.locate path))
        (fun _ => Stands run request start [outputGone run request])
        fun _ => Stands run request start (givenUp run request) :=
      Store.Effect.Ensures.pure fun disk standing => standing
    exact (abortExport_ensures undigested removed).bind
      fun _ => Store.Effect.Ensures.failed fun disk standing => standing

/-- A result is gone on with, or what was published is taken back. -/
theorem orAbortPublished_ensures {α : Type} {result : ExportResult α} {prepared : Prepared}
    {manifest : ValidationManifest} {blocker : ExportError → String}
    {shown : ExportError → ExportError} (undigested : manifest.artifactBlake3 = none) :
    Store.Effect.Ensures (Stands run request start [outputHolds run request prepared])
      (orAbortPublished run request result manifest blocker shown)
      (fun value disk => result = .ok value ∧
        Stands run request start [outputHolds run request prepared] disk)
      fun _ => Stands run request start (givenUp run request) := by
  cases result with
  | ok value => exact Store.Effect.Ensures.pure fun disk standing => ⟨rfl, standing⟩
  | error error =>
    refine (abortExport_ensures undigested
      (removeIncompleteOutput_ensures (fun sidecar beside => beside) rfl)).bind
      fun _ => Store.Effect.Ensures.failed fun disk standing => standing

/-! ### Statistics in the manifest -/

/-- What a loop that did not fail made, a step made from a member. -/
theorem eachUntilError_mem {α : Type} {step : α → ExportResult α} {items : List α} {changed : α}
    (done : (eachUntilError step items).1 = .ok ⟨⟩)
    (member : changed ∈ (eachUntilError step items).2) :
    ∃ item ∈ items, step item = .ok changed := by
  induction items with
  | nil => cases member
  | cons item rest ih =>
    rw [eachUntilError] at done member
    cases stepped : step item with
    | error error =>
      simp only [stepped] at done
      cases done
    | ok first =>
      simp only [stepped] at done member
      rcases List.mem_cons.mp member with rfl | later
      · exact ⟨item, List.mem_cons_self, stepped⟩
      · obtain ⟨other, listed, made⟩ := ih done later
        exact ⟨other, List.mem_cons_of_mem _ listed, made⟩

/-- A relation that has its statistics is counted. -/
theorem attachSourceStatsTo_counted {stats : List (String × TableStats)}
    {relation changed : RelationInventory}
    (attached : attachSourceStatsTo stats relation = .ok changed) : Counted stats changed := by
  intro transformed
  unfold attachSourceStatsTo at attached
  split at attached
  · simp only [bind_eq_ok, required_eq_ok, ensure_eq_ok, pure_eq_ok] at attached
    obtain ⟨table, found, -, counts, rfl⟩ := attached
    exact ⟨table, found, eq_of_beq counts, rfl⟩
  · rename_i other
    obtain rfl := Except.ok.inj attached
    exact absurd transformed other

/-- A counted relation that gets the same statistics again has the same on both sides. -/
theorem attachDestinationStatsTo_compared {stats : List (String × TableStats)}
    {relation changed : RelationInventory} (counted : Counted stats relation)
    (attached : attachDestinationStatsTo stats relation = .ok changed) : Compared changed := by
  intro transformed
  unfold attachDestinationStatsTo at attached
  split at attached
  · rename_i before
    simp only [bind_eq_ok, required_eq_ok, pure_eq_ok] at attached
    obtain ⟨table, found, rfl⟩ := attached
    obtain ⟨other, known, counts, noted⟩ := counted before
    obtain rfl := Option.some.inj (found.symm.trans known)
    exact ⟨table, noted, rfl, counts⟩
  · rename_i other
    obtain rfl := Except.ok.inj attached
    exact absurd transformed other

/-! ### Before anything is published -/

/-- A dataset that is prepared is admitted, and nothing is published for it. -/
theorem prepareExport_ensures {snapshot : String} {relations : List RelationInventory}
    {shape : Option StreamSourceShape} (inventoried : inventory run.source = .ok (relations, shape))
    (unblocked : inventoryBlockers run.exporter.debug relations = []) :
    Store.Effect.Ensures (Stands run request start [outputGone run request])
      (prepareExport run request
        (ValidationManifest.new run.exporter snapshot relations).unverified shape)
      (fun prepared disk => Admitted run request prepared ∧
        Stands run request start [outputGone run request] disk)
      fun _ => Stands run request start (givenUp run request) := by
  refine (orAbortUnpublished_ensures rfl).bind fun rows =>
    Store.Effect.Ensures.assuming fun read => ?_
  refine (orAbortUnpublished_ensures rfl).bind fun rewrapped =>
    Store.Effect.Ensures.assuming fun current => ?_
  obtain ⟨dataset, rewrap⟩ := rewrapped
  refine (orAbortUnpublished_ensures rfl).bind fun _ =>
    Store.Effect.Ensures.assuming fun login => ?_
  refine (orAbortUnpublished_ensures rfl).bind fun credentials =>
    Store.Effect.Ensures.assuming fun decrypted => ?_
  refine Store.Effect.Ensures.deciding (fun _ _ _ => givenUp_of_gone) fun stats counted => ?_
  refine (orAbortUnpublished_ensures rfl).bind fun _ =>
    Store.Effect.Ensures.assuming fun attached => ?_
  refine (orAbortUnpublished_ensures rfl).bind fun sequences =>
    Store.Effect.Ensures.assuming fun contracted => ?_
  refine Store.Effect.Ensures.pure fun disk standing => ⟨?_, standing⟩
  exact {
    source := ⟨relations, shape, rows, rewrap, inventoried, unblocked, read, current⟩
    login
    credentials := decrypted
    sequences := contracted
    counted := ⟨stats, required_eq_ok.mp counted, fun relation listed => by
      obtain ⟨before, -, made⟩ := eachUntilError_mem attached listed
      exact attachSourceStatsTo_counted made⟩
    unblocked := rfl
    undigested := rfl
    recorded := rfl
    loggedIn := ⟨_, rfl, rfl⟩
    decrypted := ⟨_, rfl, rfl, rfl, rfl, rfl⟩ }

/-! ### After the artifact is published -/

/-- An artifact that is verified stays, or it is taken back. -/
theorem verifyArtifact_ensures {prepared : Prepared} {artifact : ArtifactResult}
    (admitted : Admitted run request prepared)
    (validated : Validated run.exporter (prepared.database run) prepared.dataset
      prepared.sequences artifact.validation)
    (digest : artifact.artifactBlake3 =
      run.exporter.stats.blake3 (prepared.database run).image) :
    Store.Effect.Ensures (Stands run request start [outputHolds run request prepared])
      (verifyArtifact run request prepared artifact)
      (fun manifest disk => Completed run request prepared artifact.validation manifest ∧
        Stands run request start [outputHolds run request prepared] disk)
      fun _ => Stands run request start (givenUp run request) := by
  obtain ⟨login, loginKnown, sourceLogin⟩ := admitted.loggedIn
  obtain ⟨canary, canaryKnown, sourceVerified, tmo, monarch, -⟩ := admitted.decrypted
  obtain ⟨stats, sourceStats, destinationStats⟩ := validated.stats
  refine (orAbortPublished_ensures (by exact admitted.undigested)).bind fun _ =>
    Store.Effect.Ensures.assuming fun loggedIn => ?_
  refine (orAbortPublished_ensures (by exact admitted.undigested)).bind fun credentials =>
    Store.Effect.Ensures.assuming fun decrypted => ?_
  refine (orAbortPublished_ensures (by exact admitted.undigested)).bind fun _ =>
    Store.Effect.Ensures.assuming fun agree => ?_
  have same : prepared.credentials = credentials := eq_of_beq (ensure_eq_ok.mp agree)
  rw [destinationStats]
  refine Store.Effect.Ensures.deciding (fun _ missing => by cases missing) fun found known => ?_
  obtain rfl := Option.some.inj (required_eq_ok.mp known)
  refine (orAbortPublished_ensures (by exact admitted.undigested)).bind fun _ =>
    Store.Effect.Ensures.assuming fun attached => ?_
  refine Store.Effect.Ensures.pure fun disk standing => ⟨?_, standing⟩
  exact {
    admitted
    validated
    login := loggedIn
    credentials := same ▸ decrypted
    status := rfl
    unblocked := admitted.unblocked
    digest := congrArg some digest
    sequences := admitted.recorded
    loggedIn := by
      refine ⟨{ login with artifactPasswordVerified := true }, ?_, sourceLogin, rfl⟩
      exact congrArg (Option.map _) loginKnown
    decrypted := by
      refine ⟨{ canary with
        artifactTmoCount := credentials.tmoCount
        artifactMonarchCount := credentials.monarchCount
        artifactVerified := true },
        congrArg (Option.map _) canaryKnown, sourceVerified, rfl, ?_, ?_⟩
      · rw [tmo, same]
      · rw [monarch, same]
    tables := fun relation listed => by
      obtain ⟨counts, counted, each⟩ := admitted.counted
      obtain rfl := Option.some.inj (counted.symm.trans sourceStats)
      obtain ⟨before, member, made⟩ := eachUntilError_mem attached listed
      exact attachDestinationStatsTo_compared (each before member) made }

/-- What fails after the artifact is published takes it back. -/
theorem orRemove_ensures {α : Type} {prepared : Prepared} {effect : DiskEffect α}
    {post : α → ExportDisk → Prop}
    (ensured : Store.Effect.Ensures (Stands run request start [outputHolds run request prepared])
      effect post fun _ => Stands run request start [outputHolds run request prepared]) :
    Store.Effect.Ensures (Stands run request start [outputHolds run request prepared])
      (orRemove (outputLocation run request) effect) post
      fun _ => Stands run request start (givenUp run request) := by
  refine ensured.attempt.bind fun ended => ?_
  cases ended with
  | ok value => exact Store.Effect.Ensures.pure fun disk ends => ends
  | error error =>
    exact (removeIncompleteOutput_ensures (fun sidecar beside => beside) rfl).bind fun _ =>
      Store.Effect.Ensures.failed fun disk standing => givenUp_of_gone standing

/-- The manifest is there. -/
def manifestHolds (run : ExportRun) (request : ExportRequest) (manifest : ValidationManifest) :
    Fact Location :=
  .holds (.named (manifestLocation run request))
    ⟨.program, manifestBytes run.exporter manifest, 0o600⟩

/-- What stands after an export that came through. -/
def Delivered (run : ExportRun) (request : ExportRequest) (start : ExportDisk)
    (manifest : ValidationManifest) (disk : ExportDisk) : Prop :=
  ∃ prepared validation, Completed run request prepared validation manifest ∧
    Stands run request start [manifestHolds run request manifest, outputHolds run request prepared]
      disk

/-- An export of a source that nothing blocks leaves both files, or no artifact. -/
theorem exportInventoried_ensures {snapshot : String} {relations : List RelationInventory}
    {shape : Option StreamSourceShape} (inventoried : inventory run.source = .ok (relations, shape))
    (unblocked : inventoryBlockers run.exporter.debug relations = []) :
    Store.Effect.Ensures (Stands run request start [outputGone run request])
      (exportInventoried run request snapshot relations shape)
      (Delivered run request start) fun _ => Stands run request start (givenUp run request) := by
  refine (prepareExport_ensures inventoried unblocked).bind fun prepared =>
    Store.Effect.Ensures.assuming fun admitted => ?_
  have placed : ∀ validation, validateDatabase run.exporter (prepared.database run)
      prepared.dataset prepared.sequences = .ok validation →
      Allowed run request (outputLocation run request)
        ⟨.program, (prepared.database run).image, 0o600⟩ := fun validation accepted =>
    Or.inl ⟨rfl, prepared, validation, admitted, validateDatabase_ok accepted, rfl⟩
  refine ((buildArtifact_ensures (fun sidecar beside => beside) placed).attempt).bind
    fun built => ?_
  refine Store.Effect.Ensures.via (fun artifact disk =>
    (validateDatabase run.exporter (prepared.database run) prepared.dataset prepared.sequences =
        .ok artifact.validation ∧
      artifact.artifactBlake3 = run.exporter.stats.blake3 (prepared.database run).image) ∧
    Stands run request start [outputHolds run request prepared] disk) ?_ fun artifact => ?_
  · cases built with
    | ok artifact => exact Store.Effect.Ensures.pure fun disk ends => ends
    | error error =>
      have removed : Store.Effect.Ensures (Stands run request start [outputGone run request])
          ((none : Option PathBuf).forM fun path =>
            removeIncompleteOutput (run.directories.locate path))
          (fun _ => Stands run request start [outputGone run request])
          fun _ => Stands run request start (givenUp run request) :=
        Store.Effect.Ensures.pure fun disk standing => standing
      exact (abortExport_ensures admitted.undigested removed).bind
        fun _ => Store.Effect.Ensures.failed fun disk standing => standing
  · refine Store.Effect.Ensures.assuming fun finished => ?_
    refine (verifyArtifact_ensures admitted (validateDatabase_ok finished.1) finished.2).bind
      fun manifest => Store.Effect.Ensures.assuming fun completed => ?_
    refine (orRemove_ensures Store.Effect.Ensures.checked).bind fun _ => ?_
    have written : Store.Effect.Ensures
        (Stands run request start [outputHolds run request prepared])
        (writeManifest run.exporter run.directories request.manifestPath manifest)
        (fun _ => Stands run request start
          [manifestHolds run request manifest, outputHolds run request prepared])
        fun _ => Stands run request start [outputHolds run request prepared] := by
      refine writeManifest_ensures (named_singleton rfl) (fun fact listed => ⟨listed, ?_⟩)
        (Or.inr ⟨rfl, manifest, Or.inr ⟨prepared, artifact.validation, completed⟩, rfl⟩)
      obtain rfl := List.mem_singleton.mp listed
      simp [outputHolds]
    refine (orRemove_ensures written).bind fun _ =>
      Store.Effect.Ensures.pure fun disk standing => ?_
    exact ⟨prepared, artifact.validation, completed, standing⟩

/-- An export leaves both files, or no artifact. -/
theorem runExport_ensures :
    Store.Effect.Ensures (Stands run request start [outputGone run request]) (runExport run request)
      (Delivered run request start) fun _ => Stands run request start (givenUp run request) := by
  refine ((validatePrivateOutputPath_ensures _ _ _).failing
    fun _ _ standing => givenUp_of_gone standing).bind fun _ => ?_
  refine ((validatePrivateOutputPath_ensures _ _ _).failing
    fun _ _ standing => givenUp_of_gone standing).bind fun _ => ?_
  refine Store.Effect.Ensures.deciding (fun _ _ _ => givenUp_of_gone) fun _ _ => ?_
  refine Store.Effect.Ensures.deciding (fun _ _ _ => givenUp_of_gone) fun snapshot _ => ?_
  refine Store.Effect.Ensures.deciding (fun _ _ _ => givenUp_of_gone) fun found inventoried => ?_
  obtain ⟨relations, shape⟩ := found
  by_cases unblocked : inventoryBlockers run.exporter.debug relations = []
  · simp only [unblocked, List.isEmpty_nil, if_true]
    exact exportInventoried_ensures inventoried unblocked
  · -- What blocks the source is written down.
    simp only [List.isEmpty_iff, unblocked, if_false]
    refine Store.Effect.Ensures.deciding (fun _ _ _ => givenUp_of_gone) fun _ _ => ?_
    refine (writeGivenUp_ensures ⟨rfl, unblocked, rfl⟩).bind fun _ => ?_
    exact Store.Effect.Ensures.failed fun disk standing => standing

/-! ### Whole exports -/

/-- A disk on which the program has not made anything under a name. -/
structure Fresh (start : ExportDisk) : Prop where
  foreign : ∀ location file, start.files (.named location) = some file → file.maker = .stranger
  landed : start.landed = []

/-- Before the program starts everything stands that is known of no place. -/
theorem Fresh.standing {risk : Location → Prop} {allowed : Location → File → Prop}
    (fresh : Fresh start) : Standing start risk allowed [] start where
  own location file there program := by
    rw [fresh.foreign location file there] at program
    cases program
  kept location file foreign _ := by
    rcases foreign with ⟨there, -⟩ | ⟨bytes, mode, arrived, -⟩
    · exact there
    · rw [fresh.landed] at arrived
      cases arrived
  facts fact listed := by cases listed

/-- Before an export everything stands. -/
theorem Fresh.stands (run : ExportRun) (request : ExportRequest) (fresh : Fresh start) :
    Stands run request start [outputGone run request] start := by
  have nothing : Stands run request start [] start := fresh.standing
  refine ⟨nothing.own, nothing.kept, fun fact listed => ?_⟩
  obtain rfl := List.mem_singleton.mp listed
  exact Or.inl (fresh.foreign _)

/-- A whole manifest of what a source has, which says what blocks an export. -/
def InventoryFile (run : ExportRun) (file : File) : Prop :=
  ∃ relations shape manifest, inventory run.source = .ok (relations, shape) ∧
    manifest.relations = relations ∧
    manifest.blockers = inventoryBlockers run.exporter.debug relations ∧
    (manifest.status = .blocked ↔ manifest.blockers ≠ []) ∧ manifest.artifactBlake3 = none ∧
    file = ⟨.program, manifestBytes run.exporter manifest, 0o600⟩

/-- Looking at a source leaves a manifest of it at most, and all files of others. -/
theorem runInventory_leaves (run : ExportRun) (manifestPath : PathBuf) (fresh : Fresh start) :
    (∀ location file, (runInventory run manifestPath start).2.files (.named location) = some file →
        file.maker = .program →
        location = run.directories.locate manifestPath ∧ InventoryFile run file) ∧
      ∀ location file, Foreign start (runInventory run manifestPath start).2 location file →
        (runInventory run manifestPath start).2.files (.named location) = some file := by
  let allowed := fun location file =>
    location = run.directories.locate manifestPath ∧ InventoryFile run file
  have ensured : Store.Effect.Ensures (Standing start (fun _ => False) allowed [])
      (runInventory run manifestPath) (fun _ => Standing start (fun _ => False) allowed [])
      fun _ => Standing start (fun _ => False) allowed [] := by
    refine (validatePrivateOutputPath_ensures _ _ _).bind fun _ => ?_
    refine Store.Effect.Ensures.deciding (fun _ _ _ standing => standing) fun snapshot _ => ?_
    refine Store.Effect.Ensures.deciding (fun _ _ _ standing => standing) fun found inventoried => ?_
    obtain ⟨relations, shape⟩ := found
    refine Store.Effect.Ensures.deciding (fun _ _ _ standing => standing) fun _ _ => ?_
    refine Store.Effect.Ensures.bind ((writeManifest_ensures (fun fact listed => ?_)
      (fun fact listed => ?_)
      ⟨rfl, relations, shape, _, inventoried, rfl, rfl, ?_, rfl, rfl⟩).weaken (fun _ standing => standing) (fun _ _ standing => standing.drop)
      fun _ _ standing => standing) fun _ => Store.Effect.Ensures.pure fun disk standing => standing
    · cases listed
    · cases listed
    · -- The status says whether anything blocks.
      cases blocked : inventoryBlockers run.exporter.debug relations with
      | nil => simp [ValidationManifest.new]
      | cons first rest => simp
  have ends := ensured start fresh.standing
  rcases ran : runInventory run manifestPath start with ⟨outcome, after⟩
  rw [ran] at ends
  have standing : Standing start (fun _ => False) allowed [] after := by
    cases outcome with
    | ok manifest => exact ends
    | error error => exact ends
  exact ⟨standing.own, fun location file foreign => standing.kept location file foreign id⟩

/-! ### The export of a new household -/

/-- A source with all its tables and sequences, and with one user. -/
def newSource : SourceSnapshot where
  opened := .ok "00000003-0000001B-1"
  relations := .ok (
    (mappedRelations.map fun (schema, name) => ⟨schema, name, "r", none⟩) ++
      serialRelations.map fun relation =>
        ⟨relation.sourceSchema, relation.sourceTable ++ "_id_seq", "S", some relation.owner⟩)
  columns _ name := .ok (((expectedColumns name).getD []).zipIdx.map fun (column, index) =>
    ⟨column.name, column.pgType, column.nullable, index + 1⟩)
  count _ name := .ok (if name = "app_user" then 1 else 0)
  rows _ := .ok { Dataset.empty with
    appUsers := [⟨1, "owner@example.com", "hash", none, 1, 1735689600, 1735689600⟩] }
  sequence _ _ := .ok ⟨1, true, 1, false, 1, 2 ^ 63 - 1, by decide⟩
  rolledBack := .ok ⟨⟩

/-- The bytes of the user. -/
def newUserJson : List UInt8 :=
  bytesOf "[1,\"owner@example.com\",\"hash\",null,1,1735689600,1735689600]"

/-- An exporter for a source that has nothing to encrypt. -/
def newExporter : Exporter where
  toolVersion := "0.1.0"
  scripts := ⟨"", "", "", "", "", ""⟩
  library := ⟨fun _ => [], fun _ _ _ => none, fun _ _ _ => none⟩
  stats := { settingPlatform with json := fun _ => newUserJson }
  platform := ⟨some, fun _ => true⟩
  syncable _ := none
  debug text := text
  toLowercase text := text
  verifyLoginPassword password _ _ := .ok (password == "secret")
  json _ := bytesOf "\x7b\x7d"

/-- A database that has what is put into it. -/
def newDatabase (dataset : Dataset) (_ : List SequenceState) : ArtifactDatabase where
  opened := .ok ⟨⟩
  journalMode := .ok "wal"
  foreignKeys := .ok 1
  migrated := .ok ⟨⟩
  loaded := .ok [("app_user", 1)]
  insertProbe _ := .ok ⟨⟩
  foreignKeysEnforced := .ok ⟨⟩
  destination := .ok dataset
  destinationValues _ := .ok ⟨⟩
  targetTypes := .ok ⟨⟩
  naturalKeys := .ok ⟨⟩
  integrityCheck := .ok "ok"
  foreignKeyViolations := .ok 0
  migrationLedger := .ok ((targetMigrationRecords newExporter).map (·, "2025-01-01T00:00:00.000Z"))
  sessions := .ok 0
  inboundLeases := .ok 0
  operationControl := .ok (1, "read_only", 0, "2025-01-01T00:00:00.000Z")
  operationControlCount := .ok 1
  vacuumed := .ok ⟨⟩
  checkpoint := .ok (0, 0, 0)
  importPragmas := .ok ("wal", 4096, 0, "UTF-8")
  closed := .ok ⟨⟩
  image := bytesOf "SQLite format 3"

/-- A machine with a directory for exports. -/
def newRun : ExportRun where
  exporter := newExporter
  directories := {
    canonicalize := fun path => if path.components = ["export"] then some ["export"] else none
    isDirectory := fun path => path = ["export"]
    repository := some ["repo"] }
  source := newSource
  database := newDatabase
  random _ := ⟨List.replicate 12 0, by decide⟩

/-- Both files go into that directory. -/
def newRequest : ExportRequest where
  outputPath := ⟨true, ["export", "finstream.db"]⟩
  manifestPath := ⟨true, ["export", "manifest.json"]⟩
  loginCanary := ⟨"owner@example.com", "secret"⟩
  credentialKey := none
  legacyCredentialKey := none

/-- A disk with some files of others and with what the calls will meet. -/
def newDisk (files : Files Location) (moments : ℕ → Moment Location ExportError) :
    ExportDisk where
  files
  moments
  landed := []
  unremoved := []
  halted := none

variable (run request)

/--
An export that returns a manifest has verified what it says and left both files; one that fails
leaves no artifact, unless the program died, could not remove it, or was to write the manifest
there.
-/
theorem export_outcome (fresh : Fresh start) :
    (∀ manifest after, runExport run request start = (.ok manifest, after) →
      ∃ prepared validation, Completed run request prepared validation manifest ∧
        after.files (.named (outputLocation run request)) =
          some ⟨.program, (prepared.database run).image, 0o600⟩ ∧
        after.files (.named (manifestLocation run request)) =
          some ⟨.program, manifestBytes run.exporter manifest, 0o600⟩) ∧
      ∀ error after, runExport run request start = (.error error, after) →
        after.halted.isSome ∨ .named (outputLocation run request) ∈ after.unremoved ∨
          manifestLocation run request = outputLocation run request ∨
          ∀ file, after.files (.named (outputLocation run request)) = some file →
            file.maker = .stranger := by
  have ends := runExport_ensures start (fresh.stands run request)
  refine ⟨fun manifest after ran => ?_, fun error after ran => ?_⟩
  · rw [ran] at ends
    obtain ⟨prepared, validation, completed, standing⟩ := ends
    exact ⟨prepared, validation, completed,
      standing.facts _ (List.mem_cons_of_mem _ List.mem_cons_self),
      standing.facts _ List.mem_cons_self⟩
  · rw [ran] at ends
    by_cases same : manifestLocation run request = outputLocation run request
    · exact Or.inr (Or.inr (Or.inl same))
    · have gone : Fact.At after (outputGone run request) :=
        ends.facts _ (by simp [givenUp, same])
      rcases gone with foreign | dead | left
      · exact Or.inr (Or.inr (Or.inr foreign))
      · exact Or.inl dead
      · exact Or.inr (Or.inl left)

set_option maxRecDepth 100000 in
/-- The export of the household comes through. -/
theorem export_outcome_new : ∃ manifest after,
    runExport newRun newRequest (newDisk (fun _ => none) fun _ => ⟨[], 0, [], .done⟩) =
      (.ok manifest, after) ∧
    ∃ prepared validation, Completed newRun newRequest prepared validation manifest ∧
      after.files (.named ⟨["export"], "finstream.db"⟩) =
        some ⟨.program, bytesOf "SQLite format 3", 0o600⟩ := by
  have fresh : Fresh (newDisk (fun _ => none) fun _ => ⟨[], 0, [], .done⟩) :=
    ⟨fun location file there => (by cases there), rfl⟩
  have through : (runExport newRun newRequest (newDisk (fun _ => none)
      fun _ => ⟨[], 0, [], .done⟩)).1.toOption.isSome = true := by decide +kernel
  obtain ⟨manifest, returned⟩ := Option.isSome_iff_exists.mp through
  rcases ran : runExport newRun newRequest (newDisk (fun _ => none) fun _ => ⟨[], 0, [], .done⟩)
    with ⟨outcome, after⟩
  rw [ran] at returned
  cases outcome with
  | error error => cases returned
  | ok manifest =>
    obtain ⟨prepared, validation, completed, there, -⟩ :=
      (export_outcome newRun newRequest fresh).1 manifest after ran
    exact ⟨manifest, after, rfl, prepared, validation, completed, there⟩

end Outcome

end FinStream.Migration
