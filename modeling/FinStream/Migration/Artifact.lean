import FinStream.Migration.Manifest
import FinStream.Store.Files

/-! The files of an export: how the artifact is built and published, and how the manifest is. -/

namespace FinStream.Migration

open Store

/-! ### Paths -/

/-- A path as a request gives it. -/
structure PathBuf where
  absolute : Bool
  components : List String
  deriving DecidableEq

namespace PathBuf

/-- The last component, unless it leads upwards. -/
def fileName (path : PathBuf) : Option String := path.components.getLast?.filter (· != "..")

/-- The path without its last component. -/
def parent (path : PathBuf) : Option PathBuf :=
  if path.components.isEmpty then none
  else some { path with components := path.components.dropLast }

end PathBuf

/-- Where a file is: its directory, with links followed, and its name there. -/
structure Location where
  directory : List String
  name : String
  deriving DecidableEq

/-- The directories beside which the exporter runs. -/
structure Directories where
  /-- The true path of a directory that is there. -/
  canonicalize : PathBuf → Option (List String)
  isDirectory : List String → Bool
  /-- The root of the repository, where it can be found. -/
  repository : Option (List String)

/-- Where the file of a path is. -/
def Directories.locate (directories : Directories) (path : PathBuf) : Location :=
  let parent : PathBuf := { path with components := path.components.dropLast }
  ⟨(directories.canonicalize parent).getD parent.components, path.components.getLast?.getD ""⟩

/-- The endings of the files that SQLite puts beside a database. -/
def sidecarSuffixes : List String := ["-wal", "-shm", "-journal"]

/-- The files that SQLite puts beside a database. -/
def Location.sidecars (location : Location) : List Location :=
  sidecarSuffixes.map fun suffix => { location with name := location.name ++ suffix }

/-! ### Calls -/

/-- The files that the exporter sees. -/
abbrev ExportDisk := Disk Location ExportError

/-- A computation with files. -/
abbrev DiskEffect (α : Type) := Store.Effect ExportDisk ExportError α

/-- There is no such file. -/
def noSuchFile : ExportError := .detail "No such file or directory (os error 2)"

/-- There is a file already. -/
def fileExists : ExportError := .detail "File exists (os error 17)"

/-- Whether something is at a path. -/
def pathExists (directories : Directories) (path : PathBuf) : DiskEffect Bool :=
  if (directories.canonicalize path).isSome then pure true
  else Disk.isThere (.named (directories.locate path))

/-- Refuses a path where a private file cannot be made. -/
def validatePrivateOutputPath (directories : Directories) (path : PathBuf) (label : String) :
    DiskEffect PUnit := do
  Store.Effect.decided (ensure path.absolute (.detail s!"{label} path must be absolute"))
  let there ← pathExists directories path
  Store.Effect.decided (do
    ensure (!there) (.detail s!"refusing to overwrite existing {label}")
    ensure path.fileName.isSome (.detail s!"{label} path has no file name")
    let parent ← required path.parent (.detail "output path has no parent")
    let canonicalParent ← required (directories.canonicalize parent)
      (.detail s!"{label} parent directory does not exist")
    ensure (directories.isDirectory canonicalParent)
      (.detail s!"{label} parent is not a directory")
    let repository ← required directories.repository
      (.detail "could not determine repository root")
    ensure (!repository.isPrefixOf canonicalParent)
      (.detail s!"{label} must be created outside the repository"))

/-- Lets only the owner read a file, and looks whether that took effect. -/
def setPrivatePermissions (place : Place Location) (label : String) : DiskEffect PUnit := do
  Disk.setMode place 0o600 noSuchFile
  let mode ← Disk.inspect place (fun file => file.mode % 0o1000) noSuchFile
  Store.Effect.decided (ensure (mode == 0o600)
    (.detail s!"{label} mode is {String.ofList (Nat.toDigits 8 mode)}, expected 600"))

/-- Gives a temporary file a name that is free; the number stays behind if it cannot be removed. -/
def persistNoclobber (number : ℕ) (location : Location) : DiskEffect PUnit := do
  Disk.link number location fileExists noSuchFile
  let _ ← (Disk.remove (.temporary number) noSuchFile : DiskEffect Unit).attempt
  pure ⟨⟩

/-- Goes on with a temporary file, which is removed when that fails. -/
def withTemporary {α : Type} (refused : ExportError → ExportError) (body : ℕ → DiskEffect α) :
    DiskEffect α := do
  let number ← (Disk.createTemporary fileExists : DiskEffect ℕ).mapError refused
  match ← (body number).attempt with
  | .ok value => pure value
  | .error error =>
    let _ ← (Disk.remove (.temporary number) noSuchFile : DiskEffect Unit).attempt
    Store.Effect.failed error

/-- Removes a file, and does not mind when that fails. -/
def discard (location : Location) : DiskEffect PUnit := do
  let _ ← (Disk.remove (.named location) noSuchFile : DiskEffect Unit).attempt
  pure ⟨⟩

/-- Removes an artifact and what SQLite may have put beside it. -/
def removeIncompleteOutput (location : Location) : DiskEffect PUnit := do
  discard location
  location.sidecars.forM discard

/-! ### The manifest -/

/-- The bytes of a manifest in its file. -/
def manifestBytes (exporter : Exporter) (manifest : ValidationManifest) : List UInt8 :=
  exporter.json manifest ++ bytesOf "\n"

/-- Publishes a manifest. -/
def writeManifest (exporter : Exporter) (directories : Directories) (path : PathBuf)
    (manifest : ValidationManifest) : DiskEffect PUnit := do
  Store.Effect.decided (do
    let _ ← required path.parent (.detail "manifest path has no parent")
    pure ⟨⟩)
  let location := directories.locate path
  withTemporary id fun number => do
    setPrivatePermissions (.temporary number) "private output"
    Disk.append (.temporary number) (exporter.json manifest) noSuchFile
    Disk.append (.temporary number) (bytesOf "\n") noSuchFile
    Disk.settle
    (persistNoclobber number location).mapError
      (.within "could not atomically publish validation manifest")
  Disk.settle
  setPrivatePermissions (.named location) "private output"
  -- The directory is opened and written back as well.
  Disk.settle

/-! ### The artifact -/

/-- What SQLite answers while an artifact is built, and the file it leaves. -/
structure ArtifactDatabase where
  opened : ExportResult PUnit
  journalMode : ExportResult String
  foreignKeys : ExportResult ℤ
  migrated : ExportResult PUnit
  /-- Loading the dataset, with the sequences that leaves. -/
  loaded : ExportResult SqliteSequence
  insertProbe : String → ExportResult PUnit
  foreignKeysEnforced : ExportResult PUnit
  destination : ExportResult Dataset
  destinationValues : Dataset → ExportResult PUnit
  targetTypes : ExportResult PUnit
  naturalKeys : ExportResult PUnit
  integrityCheck : ExportResult String
  foreignKeyViolations : ExportResult ℕ
  migrationLedger : ExportResult (List (Schema.MigrationRecord × String))
  sessions : ExportResult ℤ
  inboundLeases : ExportResult ℤ
  operationControl : ExportResult (ℤ × String × ℤ × String)
  operationControlCount : ExportResult ℤ
  vacuumed : ExportResult PUnit
  checkpoint : ExportResult (ℤ × ℤ × ℤ)
  /-- The journal mode, the page size, the vacuum mode and the encoding in the end. -/
  importPragmas : ExportResult (String × ℤ × ℤ × String)
  closed : ExportResult PUnit
  image : List UInt8

/-- What was found in a finished artifact. -/
structure ArtifactValidation where
  destination : Dataset
  integrityCheck : String
  foreignKeyViolations : ℕ
  targetOnly : List (String × String)

/-- Whether two texts differ only in the case of ASCII letters. -/
def eqIgnoreAsciiCase (left right : String) : Bool :=
  left.toList.map Char.toLower == right.toList.map Char.toLower

/-- Refuses a ledger that does not have the migrations of the target, in their order. -/
def validateMigrationLedger (exporter : Exporter)
    (records : List (Schema.MigrationRecord × String)) : ExportResult PUnit := do
  let expected := targetMigrationRecords exporter
  ensure (records.length == expected.length)
    (.detail "target migration ledger has an unexpected row count")
  (records.zip expected).forM fun (record, expected) => do
    ensure (record.1.version == expected.version)
      (.detail "target migration ledger version mismatch")
    ensure (record.1.name == expected.name) (.detail "target migration ledger name mismatch")
    ensure (record.1.checksum == expected.checksum)
      (.detail "target migration ledger checksum mismatch")
    let _ ← canonicalTimestamp exporter.platform record.2 "_schema_migrations.applied_at"
    pure ⟨⟩

/-- Refuses a database that the target platform would not import. -/
def validateTursoImportPragmas (database : ArtifactDatabase) : ExportResult PUnit := do
  let (journalMode, pageSize, autoVacuum, encoding) ← database.importPragmas
  ensure (eqIgnoreAsciiCase journalMode "wal") (.detail "SQLite artifact journal_mode is not WAL")
  ensure (pageSize == 4096) (.detail "SQLite artifact page_size is not 4096")
  ensure (autoVacuum == 0) (.detail "SQLite artifact auto_vacuum is not disabled")
  ensure (eqIgnoreAsciiCase encoding "utf-8") (.detail "SQLite artifact encoding is not UTF-8")

/-- Refuses an artifact in which anything is running. -/
def validateInert (exporter : Exporter) (database : ArtifactDatabase) : ExportResult PUnit := do
  let sessions ← database.sessions
  ensure (sessions == 0) (.detail "target app_session must start empty")
  let inboundLeases ← database.inboundLeases
  ensure (inboundLeases == 0)
    (.detail "target inbound email processing leases must start empty")
  let (id, mode, schedulerEnabled, updatedAt) ← database.operationControl
  let count ← database.operationControlCount
  ensure (count == 1 && id == 1 && mode == "read_only" && schedulerEnabled == 0)
    (.detail "target operation_control must be the inert singleton")
  let canonical ← canonicalTimestamp exporter.platform updatedAt "operation_control.updated_at"
  ensure (canonical == updatedAt) (.detail "operation_control.updated_at is not canonical")

/-- Builds the database and checks what is in it. -/
def validateDatabase (exporter : Exporter) (database : ArtifactDatabase) (source : Dataset)
    (sequences : List SequenceState) : ExportResult ArtifactValidation := do
  database.opened
  let journal ← database.journalMode
  ensure (eqIgnoreAsciiCase journal "wal") (.detail "could not enable SQLite WAL during export")
  let foreignKeys ← database.foreignKeys
  ensure (foreignKeys == 1) (.detail "SQLite foreign keys are not enabled")
  database.migrated
  let rows ← database.loaded
  validateSequenceContract source sequences
  let rows ← setSequences sequences rows
  validateSequences database.insertProbe source rows sequences
  database.foreignKeysEnforced
  let destination ← database.destination
  database.destinationValues destination
  -- Statistics that do not fit into memory stop the program.
  let sourceStats ← required (datasetStats exporter.stats source) (.detail "capacity overflow")
  let destinationStats ← required (datasetStats exporter.stats destination)
    (.detail "capacity overflow")
  ensureStatsMatch sourceStats destinationStats
  database.targetTypes
  database.naturalKeys
  let integrityCheck ← database.integrityCheck
  ensure (integrityCheck == "ok")
    (.detail ("SQLite integrity_check returned " ++ exporter.debug integrityCheck))
  let foreignKeyViolations ← database.foreignKeyViolations
  ensure (foreignKeyViolations == 0) (.detail "SQLite foreign_key_check found violations")
  let ledger ← database.migrationLedger
  validateMigrationLedger exporter ledger
  validateInert exporter database
  database.vacuumed
  let checkpoint ← database.checkpoint
  ensure (checkpoint.1 == 0 && checkpoint.2.2 == 0)
    (.detail "SQLite WAL checkpoint was incomplete")
  validateTursoImportPragmas database
  database.closed
  pure {
    destination
    integrityCheck
    foreignKeyViolations
    targetOnly :=
      [("_schema_migrations", "5 exact ordered name/checksum rows"), ("app_session", "0 rows"),
        ("intg_received_email_processing_lease", "0 rows"),
        ("operation_control", "1 inert row (id=1, mode=read_only, scheduler_enabled=0)")] }

/-- A finished artifact, with the digest of its file. -/
structure ArtifactResult where
  validation : ArtifactValidation
  artifactBlake3 : String

/-- What is done to a published artifact before it counts. -/
def settleArtifact (exporter : Exporter) (location : Location) : DiskEffect String := do
  Disk.settle
  setPrivatePermissions (.named location) "artifact"
  Disk.settle
  location.sidecars.forM fun sidecar => do
    let there ← Disk.isThere (.named sidecar)
    Store.Effect.decided (ensure (!there) (.detail "SQLite sidecar remains after checkpoint"))
  let bytes ← Disk.inspect (.named location) (·.bytes) noSuchFile
  pure (exporter.stats.blake3 bytes)

/-- Builds an artifact apart, publishes it, and takes it back unless it can be settled. -/
def buildArtifact (exporter : Exporter) (directories : Directories) (database : ArtifactDatabase)
    (outputPath : PathBuf) (source : Dataset) (sequences : List SequenceState) :
    DiskEffect ArtifactResult := do
  let there ← pathExists directories outputPath
  Store.Effect.decided (do
    ensure (!there) (.detail "refusing to overwrite an existing output file")
    let _ ← required outputPath.parent (.detail "output path has no parent directory")
    pure ⟨⟩)
  let location := directories.locate outputPath
  let validation ← withTemporary (.within "could not create private temporary artifact")
      fun number => do
    setPrivatePermissions (.temporary number) "artifact"
    Disk.edit (.temporary number) (fun file => { file with bytes := database.image })
      (fun moment file => { file with bytes := moment.torn }) noSuchFile
    let validation ← Store.Effect.decided (validateDatabase exporter database source sequences)
    Disk.settle
    (persistNoclobber number location).mapError
      (.within "could not atomically publish SQLite artifact")
    pure validation
  match ← (settleArtifact exporter location).attempt with
  | .ok artifactBlake3 => pure { validation, artifactBlake3 }
  | .error error =>
    removeIncompleteOutput location
    Store.Effect.failed error

end FinStream.Migration
