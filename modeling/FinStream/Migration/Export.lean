import FinStream.Migration.Artifact

/-! The commands of the exporter: looking at a source, and exporting it. -/

namespace FinStream.Migration

open Store

/-- What is asked of an export; where the source is, the snapshot knows. -/
structure ExportRequest where
  outputPath : PathBuf
  manifestPath : PathBuf
  loginCanary : LoginCanary
  credentialKey : Option String
  legacyCredentialKey : Option String

/-- What an export works with. -/
structure ExportRun where
  exporter : Exporter
  directories : Directories
  source : SourceSnapshot
  /-- What SQLite makes of a dataset and of where its ids go on. -/
  database : Dataset → List SequenceState → ArtifactDatabase
  /-- The random bytes that encryptions get. -/
  random : Random

variable (run : ExportRun)

/-- Writes down what there is, without exporting anything. -/
def runInventory (manifestPath : PathBuf) : DiskEffect ValidationManifest := do
  validatePrivateOutputPath run.directories manifestPath "manifest"
  let snapshot ← Store.Effect.decided run.source.opened
  let (relations, _) ← Store.Effect.decided (inventory run.source)
  let manifest := ValidationManifest.new run.exporter snapshot relations
  let blockers := inventoryBlockers run.exporter.debug relations
  let manifest := { manifest with
    blockers
    status := if blockers.isEmpty then manifest.status else .blocked }
  Store.Effect.decided run.source.rolledBack
  writeManifest run.exporter run.directories manifestPath manifest
  pure manifest

/-- Gives an export up: what is published is removed, and the manifest says why. -/
def abortExport (manifest : ValidationManifest) (manifestPath : PathBuf)
    (outputPath : Option PathBuf) (blocker : String) : DiskEffect PUnit := do
  outputPath.forM fun path => removeIncompleteOutput (run.directories.locate path)
  Store.Effect.decided run.source.rolledBack
  writeManifest run.exporter run.directories manifestPath
    { manifest with status := .blocked, blockers := manifest.blockers ++ [blocker] }

/-- Goes on with a result, or gives the export up with its error. -/
def orAbort {α : Type} (result : ExportResult α) (manifest : ValidationManifest)
    (manifestPath : PathBuf) (outputPath : Option PathBuf) (blocker : ExportError → String)
    (shown : ExportError → ExportError) : DiskEffect α :=
  match result with
  | .ok value => pure value
  | .error error => do
    abortExport run manifest manifestPath outputPath (blocker error)
    Store.Effect.failed (shown error)

/-- Goes on with a result, or gives up an export that has not published anything. -/
def orAbortUnpublished {α : Type} (request : ExportRequest) (result : ExportResult α)
    (manifest : ValidationManifest) (blocker : ExportError → String)
    (shown : ExportError → ExportError) : DiskEffect α :=
  orAbort run result manifest request.manifestPath none blocker shown

/-- Goes on with a result, or gives up an export that has published its artifact. -/
def orAbortPublished {α : Type} (request : ExportRequest) (result : ExportResult α)
    (manifest : ValidationManifest) (blocker : ExportError → String)
    (shown : ExportError → ExportError) : DiskEffect α :=
  orAbort run result manifest request.manifestPath (some request.outputPath) blocker shown

/-- The manifest before anything is verified. -/
def ValidationManifest.unverified (manifest : ValidationManifest) : ValidationManifest :=
  { manifest with
    loginCanary := some {
      expected := "one environment-only credential verifies against an active source user " ++
        "and the SQLite artifact readback"
      sourcePasswordVerified := false
      artifactPasswordVerified := false }
    credentialCanary := some {
      sourceTmoCount := 0
      sourceMonarchCount := 0
      artifactTmoCount := 0
      artifactMonarchCount := 0
      sourceVerified := false
      artifactVerified := false
      keyFingerprint := none
      legacyKeyFingerprint := none
      rewrappedTmoCount := 0
      rewrappedMonarchCount := 0 } }

/-- Notes what a rewrap did. -/
def ValidationManifest.rewrapped (manifest : ValidationManifest) (result : CredentialRewrapResult) :
    ValidationManifest :=
  { manifest with
    credentialCanary := manifest.credentialCanary.map fun validation => { validation with
      rewrappedTmoCount := result.tmoCount
      rewrappedMonarchCount := result.monarchCount
      legacyKeyFingerprint := result.legacyKeyFingerprint } }

/-- Notes that the password is that of the source. -/
def ValidationManifest.sourceLoggedIn (manifest : ValidationManifest) : ValidationManifest :=
  { manifest with
    loginCanary := manifest.loginCanary.map fun validation =>
      { validation with sourcePasswordVerified := true } }

/-- Notes what credentials the source has. -/
def ValidationManifest.sourceDecrypted (manifest : ValidationManifest)
    (result : CredentialCanaryResult) : ValidationManifest :=
  { manifest with
    credentialCanary := manifest.credentialCanary.map fun validation => { validation with
      sourceTmoCount := result.tmoCount
      sourceMonarchCount := result.monarchCount
      sourceVerified := true
      keyFingerprint := result.keyFingerprint } }

/-- Notes that the password is that of the artifact. -/
def ValidationManifest.artifactLoggedIn (manifest : ValidationManifest) : ValidationManifest :=
  { manifest with
    loginCanary := manifest.loginCanary.map fun validation =>
      { validation with artifactPasswordVerified := true } }

/-- Notes what credentials the artifact has. -/
def ValidationManifest.artifactDecrypted (manifest : ValidationManifest)
    (result : CredentialCanaryResult) : ValidationManifest :=
  { manifest with
    credentialCanary := manifest.credentialCanary.map fun validation => { validation with
      artifactTmoCount := result.tmoCount
      artifactMonarchCount := result.monarchCount
      artifactVerified := true } }

/-- Notes what a table of the target was found to be. -/
def observe (validations : List TargetOnlyValidation) (observation : String × String) :
    List TargetOnlyValidation :=
  match validations with
  | [] => []
  | validation :: rest =>
    if validation.table = observation.1 then
      { validation with observed := some observation.2 } :: rest
    else validation :: observe rest observation

/-- The manifest of an export that came through. -/
def ValidationManifest.completed (manifest : ValidationManifest) (artifact : ArtifactResult) :
    ValidationManifest :=
  { manifest with
    sqliteIntegrityCheck := some artifact.validation.integrityCheck
    sqliteForeignKeyViolations := some artifact.validation.foreignKeyViolations
    artifactBlake3 := some artifact.artifactBlake3
    targetOnly := artifact.validation.targetOnly.foldl observe manifest.targetOnly
    status := .complete }

/-- The dataset as it is exported, with its sequences and what the manifest says so far. -/
structure Prepared where
  dataset : Dataset
  sequences : List SequenceState
  credentials : CredentialCanaryResult
  manifest : ValidationManifest

/-- Reads the source and verifies what it has. -/
def prepareExport (request : ExportRequest) (manifest : ValidationManifest)
    (shape : Option StreamSourceShape) : DiskEffect Prepared := do
  let dataset ← orAbortUnpublished run request (readDataset run.source shape) manifest
    (manifestBlocker · ("mapped row conversion failed; details were intentionally omitted from " ++
      "the manifest")) (.within "typed source export failed")
  let (dataset, rewrap) ← orAbortUnpublished run request
    (rewrapLegacyCredentials run.exporter.library dataset request.credentialKey
      request.legacyCredentialKey run.random).1 manifest
    (manifestBlocker · "source credential rewrap failed")
    (.within "source credential rewrap failed")
  let manifest := manifest.rewrapped rewrap
  orAbortUnpublished run request (validateLoginCanary run.exporter dataset request.loginCanary)
    manifest (manifestBlocker · "source login canary failed")
    (.within "source login canary failed")
  let manifest := manifest.sourceLoggedIn
  let credentials ← orAbortUnpublished run request
    (validateCredentialCanary run.exporter.library run.exporter.syncable dataset
      request.credentialKey) manifest (manifestBlocker · "source credential canary failed")
    (.within "source credential canary failed")
  let manifest := manifest.sourceDecrypted credentials
  -- Statistics that do not fit into memory stop the program.
  let stats ← Store.Effect.decided
    (required (datasetStats run.exporter.stats dataset) (.detail "capacity overflow"))
  let attached := attachSourceStats stats manifest
  orAbortUnpublished run request attached.1 attached.2
    (fun _ => "source count/stat validation failed") id
  let sequences ← orAbortUnpublished run request
    (readSequenceStates run.source.sequence attached.2.relations dataset) attached.2
    (fun _ => "source sequence validation failed") (.within "source sequence export failed")
  pure { dataset, sequences, credentials, manifest := { attached.2 with sequences } }

/-- Verifies what was published; what does not pass is taken back. -/
def verifyArtifact (request : ExportRequest) (prepared : Prepared) (artifact : ArtifactResult) :
    DiskEffect ValidationManifest := do
  let destination := artifact.validation.destination
  let manifest := prepared.manifest
  orAbortPublished run request
    (validateLoginCanary run.exporter destination request.loginCanary) manifest
    (manifestBlocker · "artifact login canary failed") (.within "artifact login canary failed")
  let manifest := manifest.artifactLoggedIn
  let credentials ← orAbortPublished run request
    (validateCredentialCanary run.exporter.library run.exporter.syncable destination
      request.credentialKey) manifest (manifestBlocker · "artifact credential canary failed")
    (.within "artifact credential canary failed")
  orAbortPublished run request (ensure (prepared.credentials == credentials)
      (.detail "source and artifact credential canaries differ")) manifest
    (fun _ => "source and artifact credential-canary counts/fingerprint differ") id
  let manifest := manifest.artifactDecrypted credentials
  -- The same statistics were taken before the artifact was published.
  let stats ← Store.Effect.decided
    (required (datasetStats run.exporter.stats destination) (.detail "capacity overflow"))
  let attached := attachDestinationStats stats manifest
  orAbortPublished run request attached.1 attached.2
    (fun _ => "destination stat attachment failed") id
  pure (attached.2.completed artifact)

/-- Goes on, or removes what is published. -/
def orRemove {α : Type} (location : Location) (effect : DiskEffect α) : DiskEffect α := do
  match ← effect.attempt with
  | .ok value => pure value
  | .error error =>
    removeIncompleteOutput location
    Store.Effect.failed error

/-- Exports a source whose relations are known. -/
def exportInventoried (request : ExportRequest) (snapshot : String)
    (relations : List RelationInventory) (shape : Option StreamSourceShape) :
    DiskEffect ValidationManifest := do
  let manifest := (ValidationManifest.new run.exporter snapshot relations).unverified
  let prepared ← prepareExport run request manifest shape
  let built ← (buildArtifact run.exporter run.directories
    (run.database prepared.dataset prepared.sequences) request.outputPath prepared.dataset
    prepared.sequences).attempt
  let artifact ← orAbort run built prepared.manifest request.manifestPath none
    (fun _ => "target artifact construction or validation failed")
    (.within "SQLite artifact validation failed")
  let manifest ← verifyArtifact run request prepared artifact
  let location := run.directories.locate request.outputPath
  orRemove location (Store.Effect.decided run.source.rolledBack)
  orRemove location (writeManifest run.exporter run.directories request.manifestPath manifest)
  pure manifest

/-- Exports a source, or says in a manifest why not. -/
def runExport (request : ExportRequest) : DiskEffect ValidationManifest := do
  validatePrivateOutputPath run.directories request.outputPath "SQLite artifact"
  validatePrivateOutputPath run.directories request.manifestPath "manifest"
  Store.Effect.decided (ensure (request.outputPath != request.manifestPath)
    (.detail "artifact and manifest paths must differ"))
  let snapshot ← Store.Effect.decided run.source.opened
  let (relations, shape) ← Store.Effect.decided (inventory run.source)
  let blockers := inventoryBlockers run.exporter.debug relations
  if blockers.isEmpty then exportInventoried run request snapshot relations shape
  else do
    let manifest := { ValidationManifest.new run.exporter snapshot relations with
      blockers, status := .blocked }
    Store.Effect.decided run.source.rolledBack
    writeManifest run.exporter run.directories request.manifestPath manifest
    Store.Effect.failed (.detail (s!"source inventory has {blockers.length} cutover blocker(s); " ++
      "no SQLite artifact was created"))

end FinStream.Migration
