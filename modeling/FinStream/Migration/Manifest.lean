import FinStream.Migration.CredentialRewrap
import FinStream.Migration.Sequences
import FinStream.Schema.Ledger

/-! What an export records about itself. -/

namespace FinStream.Migration

open Store

/-- How far an export came. -/
inductive RunStatus where
  | inventoryReady
  | blocked
  | complete
  deriving DecidableEq

/-- A table that the target has of its own. -/
structure TargetOnlyValidation where
  table : String
  classification : RelationClassification
  expected : String
  observed : Option String
  deriving DecidableEq

/-- Whether the known password was accepted. -/
structure LoginCanaryValidation where
  expected : String
  sourcePasswordVerified : Bool
  artifactPasswordVerified : Bool
  deriving DecidableEq

/-- Whether all credentials could be decrypted. -/
structure CredentialCanaryValidation where
  sourceTmoCount : ℕ
  sourceMonarchCount : ℕ
  artifactTmoCount : ℕ
  artifactMonarchCount : ℕ
  sourceVerified : Bool
  artifactVerified : Bool
  keyFingerprint : Option String
  legacyKeyFingerprint : Option String
  rewrappedTmoCount : ℕ
  rewrappedMonarchCount : ℕ
  deriving DecidableEq

/-- The record of an export. -/
structure ValidationManifest where
  formatVersion : ℕ
  toolVersion : String
  status : RunStatus
  sourceSnapshotBlake3 : String
  sourceIsolation : String
  sourceReadOnly : Bool
  migrations : List Schema.MigrationRecord
  relations : List RelationInventory
  sequences : List SequenceState
  targetOnly : List TargetOnlyValidation
  loginCanary : Option LoginCanaryValidation
  credentialCanary : Option CredentialCanaryValidation
  blockers : List String
  sqliteIntegrityCheck : Option String
  sqliteForeignKeyViolations : Option ℕ
  artifactBlake3 : Option String
  deriving DecidableEq

/-- What the exporter knows beside its request. -/
structure Exporter where
  toolVersion : String
  scripts : Schema.Scripts
  library : Crypto.Library
  stats : StatsPlatform
  platform : ExportPlatform
  /-- What the metadata of a connection says about syncing. -/
  syncable : String → Option Bool
  /-- A text as the debugger shows it. -/
  debug : String → String
  toLowercase : String → String
  /-- Whether a password is the one of a hash, with the name of the hash in errors. -/
  verifyLoginPassword : String → String → String → ExportResult Bool
  /-- The bytes of a manifest. -/
  json : ValidationManifest → List UInt8

variable (exporter : Exporter)

/-- The scripts of the target, with their digests. -/
def targetMigrationRecords : List Schema.MigrationRecord :=
  (Schema.targetMigrations exporter.scripts).map fun migration =>
    ⟨migration.version, migration.name, exporter.stats.blake3 (bytesOf migration.sql)⟩

/-- The record of an export that starts. -/
def ValidationManifest.new (snapshot : String) (relations : List RelationInventory) :
    ValidationManifest where
  formatVersion := 1
  toolVersion := exporter.toolVersion
  status := .inventoryReady
  sourceSnapshotBlake3 := exporter.stats.blake3 (bytesOf snapshot)
  sourceIsolation := "repeatable read"
  sourceReadOnly := true
  migrations := targetMigrationRecords exporter
  relations
  sequences := []
  targetOnly :=
    [⟨"_schema_migrations", .targetOnly,
        "exactly the rows installed by checked-in target migrations", none⟩,
      ⟨"app_session", .targetOnly, "empty; PostgreSQL sessions are intentionally discarded", none⟩,
      ⟨"intg_received_email_processing_lease", .targetOnly,
        "empty; transient webhook processing claims are never imported", none⟩,
      ⟨"operation_control", .targetOnly,
        "exactly id=1, mode=read_only, scheduler_enabled=0", none⟩]
  loginCanary := none
  credentialCanary := none
  blockers := []
  sqliteIntegrityCheck := none
  sqliteForeignKeyViolations := none
  artifactBlake3 := none

/-! ### The source -/

/-- A relation as the catalogue lists it. -/
structure RelationRow where
  schema : String
  name : String
  relkind : String
  ownedBy : Option String

/-- What a snapshot of the source answers. -/
structure SourceSnapshot where
  /-- Opening it, with the identifier it gets. -/
  opened : ExportResult String
  relations : ExportResult (List RelationRow)
  columns : String → String → ExportResult (List ColumnInventory)
  count : String → String → ExportResult ℤ
  /-- The rows of all tables, converted. -/
  rows : StreamSourceShape → ExportResult Dataset
  sequence : String → String → ExportResult SequenceReading
  rolledBack : ExportResult PUnit

/-- The columns of a relation that has rows. -/
def relationColumns (source : SourceSnapshot) (kind : RelationKind) (row : RelationRow) :
    ExportResult (List ColumnInventory) :=
  if kind.hasRows then source.columns row.schema row.name else pure []

/-- The number of rows of a relation that has any. -/
def relationCount (source : SourceSnapshot) (kind : RelationKind) (row : RelationRow) :
    ExportResult (Option ℤ) :=
  if kind.hasRows then some <$> source.count row.schema row.name else pure none

/-- Looks at one relation, and at the shape of the streams where that is it. -/
def inventoryRelation (source : SourceSnapshot) (shape : Option StreamSourceShape)
    (row : RelationRow) : ExportResult (RelationInventory × Option StreamSourceShape) := do
  let kind := RelationKind.fromPgRelkind row.relkind
  let (classification, reason) := classifyRelation row.schema row.name kind row.ownedBy
  let columns ← relationColumns source kind row
  let sourceCount ← relationCount source kind row
  pure (
    { schema := row.schema
      name := row.name
      kind
      classification
      reason
      ownedBy := row.ownedBy
      sourceCount
      columns
      sourceStats := none
      destinationStats := none },
    if row.schema == "public" && row.name == "stream" && kind.hasRows then
      streamSourceShape columns
    else shape)

/-- Looks at relations one after the other. -/
def inventoryRelations (source : SourceSnapshot) (shape : Option StreamSourceShape) :
    List RelationRow → ExportResult (List RelationInventory × Option StreamSourceShape)
  | [] => pure ([], shape)
  | row :: rest => do
    let (relation, shape) ← inventoryRelation source shape row
    let (relations, shape) ← inventoryRelations source shape rest
    pure (relation :: relations, shape)

/-- Looks at all relations of the source. -/
def inventory (source : SourceSnapshot) :
    ExportResult (List RelationInventory × Option StreamSourceShape) := do
  let rows ← source.relations
  inventoryRelations source none rows

/-- Reads all rows of the source. -/
def readDataset (source : SourceSnapshot) (shape : Option StreamSourceShape) :
    ExportResult Dataset := do
  let shape ← required shape (.detail "source stream shape was not established by inventory")
  source.rows shape

/-! ### Checks of the dataset -/

/-- The email and the password of somebody who can log in. -/
structure LoginCanary where
  email : String
  password : String

/-- Tries to log in. -/
def validateLoginCanary (dataset : Dataset) (canary : LoginCanary) : ExportResult PUnit := do
  let email := exporter.toLowercase (trim canary.email)
  ensure (!(email == "" || canary.password == ""))
    (manifestSafeBlocker "the environment-only login canary email or password is empty")
  let user ← required (dataset.appUsers.find? fun user => user.isActive == 1 && user.email == email)
    (manifestSafeBlocker
      "the environment-only login canary does not identify an active source user")
  let verified ← exporter.verifyLoginPassword canary.password user.passwordHash
    "active app_user.password_hash"
  ensure verified
    (manifestSafeBlocker "the environment-only login canary password does not verify")

/-- Applies a step to each member of a list until one fails; the members before stay changed. -/
def eachUntilError {α : Type} (step : α → ExportResult α) :
    List α → ExportResult PUnit × List α
  | [] => (.ok ⟨⟩, [])
  | item :: rest =>
    match step item with
    | .ok changed =>
      let (result, others) := eachUntilError step rest
      (result, changed :: others)
    | .error error => (.error error, item :: rest)

/-- Puts the statistics of the source to a relation. -/
def attachSourceStatsTo (stats : List (String × TableStats)) (relation : RelationInventory) :
    ExportResult RelationInventory :=
  if relation.classification = .transformed then do
    let tableStats ← required (stats.lookup relation.name)
      (.detail s!"missing source stats for {relation.qualifiedName}")
    ensure (relation.sourceCount == some (tableStats.rowCount : ℤ))
      (.detail s!"{relation.qualifiedName} inventory/data counts differ inside one snapshot")
    pure { relation with sourceStats := some tableStats }
  else pure relation

/-- Puts the statistics of the source to all relations. -/
def attachSourceStats (stats : List (String × TableStats)) (manifest : ValidationManifest) :
    ExportResult PUnit × ValidationManifest :=
  let (result, relations) := eachUntilError (attachSourceStatsTo stats) manifest.relations
  (result, { manifest with relations })

/-- Puts the statistics of the artifact to a relation. -/
def attachDestinationStatsTo (stats : List (String × TableStats)) (relation : RelationInventory) :
    ExportResult RelationInventory :=
  if relation.classification = .transformed then do
    let tableStats ← required (stats.lookup relation.name)
      (.detail s!"missing destination stats for {relation.qualifiedName}")
    pure { relation with destinationStats := some tableStats }
  else pure relation

/-- Puts the statistics of the artifact to all relations. -/
def attachDestinationStats (stats : List (String × TableStats)) (manifest : ValidationManifest) :
    ExportResult PUnit × ValidationManifest :=
  let (result, relations) := eachUntilError (attachDestinationStatsTo stats) manifest.relations
  (result, { manifest with relations })

/-- What the manifest says about an error. -/
def manifestBlocker (error : ExportError) (fallback : String) : String :=
  match error with
  | .safe message _ => message
  | .detail _ => fallback

/-- An error that is shown with what was tried. -/
def ExportError.within (context : String) : ExportError → ExportError
  | .detail _ => .detail context
  | .safe message _ => .safe message context

end FinStream.Migration
