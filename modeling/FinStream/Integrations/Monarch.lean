import FinStream.Integrations.TmoWrite
import FinStream.Operations.Models

/-! The write side of a Monarch balance refresh. -/

namespace FinStream

open Store

/-- An account as the provider reports it. -/
structure AccountBalance where
  id : String
  displayName : String
  displayBalance : F64
  currentBalance : F64
  updatedAt : String
  mask : Option String
  deriving DecidableEq

/-- A provider capture of one account, with its pending transactions added up. -/
structure MonarchBalanceCapture where
  account : AccountBalance
  adjustedBalance : F64
  pendingTotal : F64
  deriving DecidableEq

/-- Errors of a Monarch refresh; those of other components keep their text. -/
inductive MonarchSyncError where
  | missingConnection
  | invalidConnection
  | missingCredential
  | invalidCredential
  | credential (message : String)
  | provider (message : String)
  | invalidProviderData
  | operation (error : OperationError)
  | storage (message : String)
  | coordination
  deriving DecidableEq

/-- A Monarch transaction: an error that rolls back, or a result with the tables to commit. -/
abbrev MonarchResult (α : Type) := Except MonarchSyncError α

/-- The longest serialised metadata that is stored, in bytes. -/
def maxMetadataBytes : ℕ := 16 * 1024

/-- Refuses blank text and text above a number of bytes. -/
def validateBoundedNonempty (value : String) (maxBytes : ℕ) : MonarchResult Unit :=
  ensure (!isBlank value && value.utf8ByteSize ≤ maxBytes) .invalidProviderData

/-- The checks on a captured balance before it is stored. -/
def MonarchBalanceCapture.validate (platform : Platform) (expectedAccountId : String)
    (capture : MonarchBalanceCapture) : MonarchResult Unit := do
  ensure ([capture.account.currentBalance, capture.account.displayBalance, capture.pendingTotal,
    capture.adjustedBalance].all fun value => value.isFinite && realFits value.value)
    .invalidProviderData
  validateBoundedNonempty capture.account.id 256
  ensure (capture.account.id == expectedAccountId) .invalidProviderData
  validateBoundedNonempty capture.account.displayName 256
  ensure (capture.account.mask.all (·.utf8ByteSize ≤ 64)) .invalidProviderData
  validateBoundedNonempty capture.account.updatedAt 64
  ensure (platform.rfc3339Valid capture.account.updatedAt) .invalidProviderData

/-- The balance report kept with the account. -/
def MonarchBalanceCapture.metadata (capture : MonarchBalanceCapture) : JsonText :=
  .balance capture.account.currentBalance.value capture.account.displayBalance.value
    capture.pendingTotal.value capture.adjustedBalance.value capture.account.displayName
    capture.account.mask capture.account.updatedAt

/-- Stores a setting under its key. -/
def upsertSetting (key : String) (value : SettingValue) (updatedAt : String)
    (settings : Table Setting) : Table Setting :=
  (settings.upsert (·.key == key) ⟨key, value, updatedAt⟩
    fun setting => { setting with value, updatedAt }).2

/-- The schema's CHECKs on timestamps and dates, as a Monarch refresh reports them. -/
def asMonarchStorage {α : Type} (checked : IntegrationResult α) : MonarchResult α :=
  checked.mapError fun _ => .storage "CHECK constraint failed"

/-- Stores a captured balance on the primary account, in the settings and on the connection. -/
def applyMonarchBalance (platform : Platform) (connectionId : ℕ) (asOfDate : IsoDate)
    (capture : MonarchBalanceCapture) (persistedAt : String) (db : Domain) :
    MonarchResult Domain := do
  ensure (platform.jsonLength capture.metadata ≤ maxMetadataBytes) .invalidProviderData
  let (accountId, finance) := ensurePrimaryAccountOn persistedAt db.finance
  ensure ((finance.accounts.get? accountId).any fun account =>
    account.isPrimary && account.isActive) .coordination
  ensure (realFits capture.adjustedBalance.value && 0 ≤ asOfDate.year)
    (.storage "CHECK constraint failed: account")
  let accounts := finance.accounts.updateWhere
    (fun id account => id == accountId && account.isPrimary && account.isActive)
    fun account => { account with
      balance := some capture.adjustedBalance.value
      balanceAsOfDate := some asOfDate
      sourceType := some "monarch"
      sourceRef := some capture.account.id
      metadata := some capture.metadata
      balanceUpdatedAt := some capture.account.updatedAt
      updatedAt := persistedAt }
  asMonarchStorage (checkTimestamp platform persistedAt)
  let source := JsonText.balanceSource capture.account.id capture.metadata
    capture.account.updatedAt capture.adjustedBalance.value asOfDate
  ensure (platform.jsonLength source ≤ maxMetadataBytes) .invalidProviderData
  let settings := upsertSetting "balance_source" (.json source) persistedAt
    (upsertSetting "current_cash" (.amount capture.adjustedBalance.value) persistedAt
      db.integrations.settings)
  let named := fun (id : ℕ) (connection : IntegrationConnection) =>
    id == connectionId && connection.slug == "monarch" && connection.provider == "monarch"
  ensure (db.integrations.connections.find? named).isSome .coordination
  let connections := db.integrations.connections.updateWhere named fun connection =>
    { connection with
      status := "active"
      lastSyncedAt := some persistedAt
      lastError := none
      updatedAt := persistedAt }
  pure {
    finance := { finance with accounts }
    integrations := { db.integrations with settings, connections } }

/-- Records a failed refresh on the Monarch connection. -/
def markMonarchError (platform : Platform) (connectionId : ℕ) (message updatedAt : String)
    (db : Domain) : MonarchResult Domain := do
  let named := fun (id : ℕ) (connection : IntegrationConnection) =>
    id == connectionId && connection.slug == "monarch" && connection.provider == "monarch"
  ensure (db.integrations.connections.find? named).isSome .coordination
  asMonarchStorage (checkTimestamp platform updatedAt)
  pure { db with
    integrations := { db.integrations with
      connections := db.integrations.connections.updateWhere named fun connection =>
        { connection with status := "error", lastError := some message, updatedAt } } }

end FinStream
