import FinStream.Store.Effect
import FinStream.Store.Ordering
import FinStream.Text
import Mathlib.Data.Int.ConditionallyCompleteOrder
import Mathlib.Data.Int.SuccPred

/-! The ledger of schema migrations: how they are applied, and how a deployment verifies them. -/

namespace FinStream.Schema

open Store

/-- The scripts of the schema. -/
structure Scripts where
  auth : String
  streamsForecast : String
  integrationsOperations : String
  workspacesInbox : String
  resendInboundLeases : String
  syncRetry : String

/-- A script with its place in the schema. -/
structure Migration where
  version : ℤ
  name : String
  sql : String
  deriving DecidableEq

/-- The migrations of the program. -/
def migrations (scripts : Scripts) : List Migration :=
  [⟨1, "auth", scripts.auth⟩,
    ⟨2, "streams_forecast", scripts.streamsForecast⟩,
    ⟨3, "integrations_operations", scripts.integrationsOperations⟩,
    ⟨4, "workspaces_inbox", scripts.workspacesInbox⟩,
    ⟨5, "resend_inbound_leases", scripts.resendInboundLeases⟩,
    ⟨6, "sync_retry", scripts.syncRetry⟩]

/-- The migrations the exporter applies to its artifact. -/
def targetMigrations (scripts : Scripts) : List Migration :=
  [⟨1, "auth", scripts.auth⟩,
    ⟨2, "streams_forecast", scripts.streamsForecast⟩,
    ⟨3, "integrations_operations", scripts.integrationsOperations⟩,
    ⟨4, "workspaces_inbox", scripts.workspacesInbox⟩,
    ⟨5, "resend_inbound_leases", scripts.resendInboundLeases⟩]

/-- A row of `_schema_migrations`. -/
structure MigrationRecord where
  version : ℤ
  name : String
  checksum : String
  deriving DecidableEq

/-- What the program asks of SQLite and of its digest. -/
structure SchemaPlatform (σ : Type) where
  /-- The tables after a script, unless one of its statements fails. -/
  execute : String → σ → Option σ
  /-- The hexadecimal BLAKE3 digest of a text. -/
  blake3 : String → String

/-- A database: its ledger, if there is one, and its other tables. -/
structure Database (σ : Type) where
  ledger : Option (List MigrationRecord)
  tables : σ

variable {σ : Type}

/-- The digest a script is recorded with. -/
def migrationChecksum (platform : SchemaPlatform σ) (migration : Migration) : String :=
  platform.blake3 migration.sql

/-- The record of a migration. -/
def Migration.record (platform : SchemaPlatform σ) (migration : Migration) : MigrationRecord :=
  ⟨migration.version, migration.name, migrationChecksum platform migration⟩

/-- Creates the ledger unless it is there. -/
def ensureMigrationTable (db : Database σ) : Database σ :=
  { db with ledger := some (db.ledger.getD []) }

/-- The record of a version. -/
def migrationRecord (version : ℤ) (db : Database σ) : Except String (Option MigrationRecord) := do
  let ledger ← required db.ledger s!"query migration {version}"
  pure (ledger.find? fun record => record.version == version)

/-- Refuses a record that is not that of the migration. -/
def verifyMigrationRecord (migration : Migration)
    (expectedChecksum storedName storedChecksum : String) : Except String Unit := do
  ensure (storedName == migration.name)
    s!"migration {migration.version} name mismatch: expected {migration.name}, found {storedName}"
  ensure (storedChecksum == expectedChecksum)
    s!"migration {migration.version} ({migration.name}) checksum mismatch"

/-- INSERT into the ledger, whose versions and names are unique and whose digests have a length. -/
def recordMigration (platform : SchemaPlatform σ) (migration : Migration) (db : Database σ) :
    Except String (Database σ) := do
  let ledger ← required db.ledger s!"record migration {migration.version}"
  let record := migration.record platform
  ensure ((ledger.all fun other =>
      other.version != record.version && other.name != record.name) &&
    sqlLength record.checksum == 64) s!"record migration {migration.version}"
  pure { db with ledger := some (ledger ++ [record]) }

/-- Runs a script and records it. -/
def runMigration (platform : SchemaPlatform σ) (migration : Migration) (db : Database σ) :
    Except String (Database σ) := do
  let tables ← required (platform.execute migration.sql db.tables)
    s!"apply migration {migration.version} ({migration.name})"
  recordMigration platform migration { db with tables }

/-- Applies a migration in a transaction, or verifies that it was applied. -/
def applyMigration (platform : SchemaPlatform σ) (migration : Migration) :
    Effect (Database σ) String Unit :=
  Effect.transaction fun db => do
    let checksum := migrationChecksum platform migration
    match ← migrationRecord migration.version db with
    | some record =>
      verifyMigrationRecord migration checksum record.name record.checksum
      pure ((), db)
    | none =>
      let after ← runMigration platform migration db
      pure ((), after)

/-- Applies a migration of the exporter to its artifact in a transaction. -/
def applyTargetMigration (platform : SchemaPlatform σ) (migration : Migration) :
    Effect (Database σ) String Unit :=
  Effect.transaction fun db => do
    let after ← runMigration platform migration db
    pure ((), after)

/-- Creates the schema of an artifact. -/
def applyTargetMigrations (platform : SchemaPlatform σ) (scripts : Scripts) :
    Effect (Database σ) String Unit := fun db =>
  (targetMigrations scripts).forM (applyTargetMigration platform) (ensureMigrationTable db)

/-- Compares records with the migrations they should be of, in order. -/
def verifyRecords (platform : SchemaPlatform σ) :
    List Migration → List MigrationRecord → Except String Unit
  | [], [] => pure ()
  | [], record :: _ =>
    throw s!"database contains unexpected migration version {record.version} ({record.name})"
  | missing :: _, [] => throw
    s!"database schema is behind: missing migration {missing.version} ({missing.name})"
  | expected :: rest, record :: records => do
    ensure (record.version == expected.version)
      ("database migration sequence mismatch: expected version " ++
        s!"{expected.version}, found {record.version}")
    verifyMigrationRecord expected (migrationChecksum platform expected) record.name record.checksum
    verifyRecords platform rest records

/-- Accepts a database whose ledger has exactly the migrations of a program. -/
def verifyMigrations (platform : SchemaPlatform σ) (expected : List Migration) (db : Database σ) :
    Except String Unit := do
  let ledger ← required db.ledger "read deployed schema migration ledger"
  verifyRecords platform expected (orderBy MigrationRecord.version ledger)

end FinStream.Schema
