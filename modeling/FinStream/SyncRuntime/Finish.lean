import FinStream.Domain.System
import FinStream.Integrations.Provider
import FinStream.Operations.Coordination

/-! The transactions that end a sync run: the import with its success, or the mark of its failure. -/

namespace FinStream

open Store

/-- Everything the sync runtime reads and writes. -/
structure Database where
  domain : Domain
  operations : Operations

/-- Whether a connection is registered under a slug. -/
def Database.connected (db : Database) (slug : String) : Bool :=
  (db.domain.integrations.connections.find? fun _ connection => connection.slug == slug).isSome

/-- Errors of a TMO run. -/
inductive SyncRuntimeError where
  | missingConnection
  | missingCredential
  | configuration (message : String)
  | credential (message : String)
  | provider (error : ProviderError)
  | invalidCapture (message : String)
  | integration (error : IntegrationError)
  | operation (error : OperationError)
  | storage (message : String)
  | deadlineExceeded
  | unexpectedTermination
  deriving DecidableEq

/-- Sorts the errors of the integration boundary. -/
def SyncRuntimeError.fromIntegration : IntegrationError → SyncRuntimeError
  | .configuration message => .configuration message
  | .validation message => .invalidCapture message
  | .storage message => .integration (.storage message)

/-- What is shown and stored about a failed TMO run. -/
def SyncRuntimeError.publicMessage : SyncRuntimeError → String
  | .missingConnection => "The TMO integration is not configured."
  | .missingCredential => "TMO credentials are not configured."
  | .configuration _ => "TMO synchronization prerequisites are not configured."
  | .credential _ => "Stored TMO credentials could not be decrypted."
  | .provider .authenticationRejected => "TMO rejected authentication."
  | .provider .timeout => "A TMO request timed out."
  | .provider _ => "TMO could not complete the synchronization request."
  | .integration (.validation _) => "TMO returned data that could not be imported safely."
  | .invalidCapture _ => "TMO returned data that could not be imported safely."
  | .integration (.configuration _) => "TMO synchronization prerequisites are not configured."
  | .integration (.storage _) => "The TMO synchronization database is temporarily unavailable."
  | .storage _ => "The TMO synchronization database is temporarily unavailable."
  | .operation .readOnly => "Writes are temporarily disabled."
  | .operation .schedulerDisabled => "Scheduled synchronization is disabled."
  | .operation _ => "The TMO execution record changed before completion."
  | .deadlineExceeded => "TMO synchronization exceeded its execution deadline."
  | .unexpectedTermination => "TMO synchronization stopped unexpectedly."

/-- Sorts the errors of the coordination tables. -/
def MonarchSyncError.fromOperation : OperationError → MonarchSyncError
  | .connectionNotFound _ => .missingConnection
  | .storage message => .storage message
  | error => .operation error

/-- What is shown and stored about a failed Monarch refresh. -/
def MonarchSyncError.publicMessage : MonarchSyncError → String
  | .missingConnection => "The Monarch integration is not configured."
  | .invalidConnection => "The Monarch integration is not configured."
  | .missingCredential => "Monarch credentials are not configured."
  | .invalidCredential => "Stored Monarch credentials could not be used."
  | .credential _ => "Stored Monarch credentials could not be used."
  | .provider _ => "Monarch could not refresh the account balance."
  | .invalidProviderData => "Monarch returned balance data that could not be stored safely."
  | .storage _ => "Balance synchronization is temporarily unavailable."
  | .operation .readOnly => "Writes are temporarily disabled."
  | .operation _ => "The balance execution record changed before completion."
  | .coordination => "The balance execution record changed before completion."

/-- The endpoints a TMO run reports, with the loan details it could not fetch. -/
def TmoSyncCapture.endpointsHit (capture : TmoSyncCapture) : String :=
  if capture.loanDetailFailures == 0 then "overview,portfolio,loanDetail,history"
  else
    let fetched := capture.loanDetails.length
    let attempts := capture.loanDetails.length + capture.loanDetailFailures.toNat
    s!"overview,portfolio,loanDetail:{fetched}/{attempts},history"

namespace Tmo

/-- Imports a capture and ends its run in a success, as one transaction. -/
def finishSuccess (platform : Platform) (runId : ℕ) (capture : TmoSyncCapture)
    (finishedAt : String) (db : Database) :
    Except SyncRuntimeError ((ℕ × SyncRun) × Database) := do
  let (persistence, domain) ←
    (applyTmoSync platform capture db.domain).mapError .fromIntegration
  let completion :=
    { endpointsHit := some capture.endpointsHit
      eventsUpserted := persistence.eventsUpserted
      loansUpserted := persistence.loansUpserted
      snapshotsCreated := persistence.snapshotsCreated }
  let (completed, operations) ←
    (completeSuccess platform runId finishedAt completion db.operations).mapError .operation
  pure (completed, { domain, operations })

/-- Marks the connection when it is known. -/
def markError (platform : Platform) (connectionId : Option ℕ) (publicMessage markedAt : String)
    (db : Domain) : IntegrationResult Domain :=
  match connectionId with
  | some connectionId => markTmoError platform connectionId publicMessage markedAt db
  | none => pure db

/-- Marks the connection, when it is known, and ends the run in an error, as one transaction. -/
def finishFailure (platform : Platform) (runId : ℕ) (connectionId : Option ℕ)
    (failure : SyncRuntimeError) (markedAt finishedAt : String) (db : Database) :
    Except SyncRuntimeError ((ℕ × SyncRun) × Database) := do
  let domain ← (markError platform connectionId failure.publicMessage markedAt db.domain).mapError
    .fromIntegration
  let (failed, operations) ←
    (completeError platform runId finishedAt failure.publicMessage db.operations).mapError
      .operation
  pure (failed, { domain, operations })

end Tmo

namespace Monarch

/-- Stores a balance and ends its run in a success, as one transaction. -/
def finishSuccess (platform : Platform) (runId connectionId : ℕ) (asOfDate : IsoDate)
    (capture : MonarchBalanceCapture) (persistedAt : String) (db : Database) :
    Except MonarchSyncError ((ℕ × SyncRun) × Database) := do
  let domain ← applyMonarchBalance platform connectionId asOfDate capture persistedAt db.domain
  let completion :=
    { endpointsHit := some "account,pendingTransactions"
      eventsUpserted := 0
      loansUpserted := 0
      snapshotsCreated := 0 }
  let (completed, operations) ←
    (completeSuccess platform runId persistedAt completion db.operations).mapError .fromOperation
  pure (completed, { domain, operations })

/-- Marks the connection and ends the run in an error, as one transaction. -/
def finishFailure (platform : Platform) (runId connectionId : ℕ) (failure : MonarchSyncError)
    (finishedAt : String) (db : Database) :
    Except MonarchSyncError ((ℕ × SyncRun) × Database) := do
  let domain ← markMonarchError platform connectionId failure.publicMessage finishedAt db.domain
  let (failed, operations) ←
    (completeError platform runId finishedAt failure.publicMessage db.operations).mapError
      .fromOperation
  pure (failed, { domain, operations })

end Monarch

/-- What a run has to import. -/
inductive Import where
  | tmo (capture : TmoSyncCapture)
  | monarch (connectionId : ℕ) (asOfDate : IsoDate) (capture : MonarchBalanceCapture)
      (persistedAt : String)
  deriving DecidableEq

/-- The data an import makes visible, when it is stored. -/
def Import.apply (platform : Platform) (db : Domain) : Import → Option Domain
  | .tmo capture => (DomainOp.tmoSync capture).commit platform db
  | .monarch connectionId asOfDate capture persistedAt =>
    (DomainOp.monarchBalance connectionId asOfDate capture persistedAt).commit platform db

/-- The imported data, without the status of the connections it came through. -/
def Domain.imported (db : Domain) : Domain :=
  { db with integrations := { db.integrations with connections := .empty } }

/-- Marking a TMO connection leaves the imported data alone. -/
theorem markTmoError_imported {platform : Platform} {connectionId : ℕ} {message now : String}
    {before after : Domain}
    (marked : markTmoError platform connectionId message now before = .ok after) :
    after.imported = before.imported := by
  rw [markTmoError_frame marked]
  rfl

/-- Marking a Monarch connection leaves the imported data alone. -/
theorem markMonarchError_imported {platform : Platform} {connectionId : ℕ}
    {message now : String} {before after : Domain}
    (marked : markMonarchError platform connectionId message now before = .ok after) :
    after.imported = before.imported := by
  rw [markMonarchError_frame marked]
  rfl

/-- Ends one running run, and no other row of the log changes. -/
structure Ends (runId : ℕ) (status : SyncRunStatus) (before after : Operations) : Prop where
  /-- The run was running. -/
  running : ∃ run, (runId, run) ∈ before.log ∧ run.status = .running
  /-- The run is replaced by its final row. -/
  ended : ∃ finish : SyncRun → SyncRun, (∀ run, (finish run).status = status) ∧
    Finishes finish ∧ after = { before with
      log := before.log.updateWhere (fun id run => id == runId && run.status == .running) finish }

/-- A successful completion ends its run in a success. -/
theorem completeSuccess_ends {platform : Platform} {runId : ℕ} {finishedAt : String}
    {completion : SyncCompletion} {finished : ℕ × SyncRun} {before after : Operations}
    (done : completeSuccess platform runId finishedAt completion before = .ok (finished, after)) :
    Ends runId .success before after := by
  obtain ⟨run, stored, running, -, rfl⟩ := completeSuccess_ok done
  exact ⟨⟨run, stored, running⟩, _, fun _ => rfl, SyncRun.succeed_finishes _ _, rfl⟩

/-- A failed completion ends its run in an error. -/
theorem completeError_ends {platform : Platform} {runId : ℕ} {finishedAt message : String}
    {finished : ℕ × SyncRun} {before after : Operations}
    (done : completeError platform runId finishedAt message before = .ok (finished, after)) :
    Ends runId .error before after := by
  obtain ⟨run, stored, running, -, rfl⟩ := completeError_ok done
  exact ⟨⟨run, stored, running⟩, _, fun _ => rfl, SyncRun.fail_finishes _ _, rfl⟩

section Transactions

variable {platform : Platform} {runId : ℕ} {before after : Database} {ended : ℕ × SyncRun}

/-- A TMO success imports its capture and ends its run together. -/
theorem Tmo.finishSuccess_ok {capture : TmoSyncCapture} {finishedAt : String}
    (done : finishSuccess platform runId capture finishedAt before = .ok (ended, after)) :
    (Import.tmo capture).apply platform before.domain = some after.domain ∧
      Ends runId .success before.operations after.operations := by
  simp only [finishSuccess, bind_eq_ok, mapError_eq_ok, pure_eq_ok, Prod.mk.injEq] at done
  obtain ⟨⟨persistence, domain⟩, applied, ⟨run, operations⟩, completed, -, rfl⟩ := done
  refine ⟨?_, completeSuccess_ends completed⟩
  simp [Import.apply, DomainOp.commit, applied, Except.toOption]

/-- A TMO failure marks the connection at most, and ends its run. -/
theorem Tmo.finishFailure_ok {connectionId : Option ℕ} {failure : SyncRuntimeError}
    {markedAt finishedAt : String}
    (done : finishFailure platform runId connectionId failure markedAt finishedAt before =
      .ok (ended, after)) :
    after.domain.imported = before.domain.imported ∧
      Ends runId .error before.operations after.operations := by
  simp only [finishFailure, bind_eq_ok, mapError_eq_ok, pure_eq_ok, Prod.mk.injEq] at done
  obtain ⟨domain, marked, ⟨run, operations⟩, completed, -, rfl⟩ := done
  refine ⟨?_, completeError_ends completed⟩
  cases connectionId with
  | none =>
    obtain rfl : before.domain = domain := by simpa [markError] using marked
    rfl
  | some connectionId => exact markTmoError_imported marked

/-- A Monarch success stores its balance and ends its run together. -/
theorem Monarch.finishSuccess_ok {connectionId : ℕ} {asOfDate : IsoDate}
    {capture : MonarchBalanceCapture} {persistedAt : String}
    (done : finishSuccess platform runId connectionId asOfDate capture persistedAt before =
      .ok (ended, after)) :
    (Import.monarch connectionId asOfDate capture persistedAt).apply platform before.domain =
        some after.domain ∧ Ends runId .success before.operations after.operations := by
  simp only [finishSuccess, bind_eq_ok, mapError_eq_ok, pure_eq_ok, Prod.mk.injEq] at done
  obtain ⟨domain, applied, ⟨run, operations⟩, completed, -, rfl⟩ := done
  refine ⟨?_, completeSuccess_ends completed⟩
  simp [Import.apply, DomainOp.commit, applied, Except.toOption]

/-- A Monarch failure marks the connection, and ends its run. -/
theorem Monarch.finishFailure_ok {connectionId : ℕ} {failure : MonarchSyncError}
    {finishedAt : String}
    (done : finishFailure platform runId connectionId failure finishedAt before =
      .ok (ended, after)) :
    after.domain.imported = before.domain.imported ∧
      Ends runId .error before.operations after.operations := by
  simp only [finishFailure, bind_eq_ok, mapError_eq_ok, pure_eq_ok, Prod.mk.injEq] at done
  obtain ⟨domain, marked, ⟨run, operations⟩, completed, -, rfl⟩ := done
  exact ⟨markMonarchError_imported marked, completeError_ends completed⟩

end Transactions

end FinStream
