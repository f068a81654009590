import FinStream.SyncRuntime.Finish

/-! A sync worker: its owner's work outside the database, between the transactions it commits. -/

namespace FinStream

open Store

/-- What asks for a TMO run. -/
inductive SyncTrigger where
  | manual
  | scheduled (slot : String)

/-- How far an invocation has got. -/
inductive Phase where
  | idle
  /-- Stale runs are interrupted; the claim follows. -/
  | tmoStarted (trigger : SyncTrigger) (startedAt : String)
  /-- The run is claimed; the connection is known once it is loaded. -/
  | tmoOwner (runId : ℕ) (connectionId : Option ℕ)
  /-- The run has failed, and its failure is to be recorded. -/
  | tmoFailing (runId : ℕ) (connectionId : Option ℕ) (failure : SyncRuntimeError)
  /-- The last attempt to record a failure. -/
  | tmoRecovering (runId : ℕ) (failure : SyncRuntimeError)
  /-- The connection is loaded; stale runs are interrupted next. -/
  | monarchLoaded (connectionId : ℕ)
  | monarchStarted (connectionId : ℕ) (scheduledFor : Option String) (startedAt : String)
  | monarchOwner (runId connectionId : ℕ)
  | monarchFailing (runId connectionId : ℕ) (failure : MonarchSyncError)
  | stopped

/-- What happens next in an invocation, with everything that is not read from the database. -/
inductive WorkerInput where
  | tmoInterrupt (trigger : SyncTrigger) (startedAt staleCutoff : String)
  | tmoClaim
  | tmoLoad
  | tmoCaptureFails (failure : SyncRuntimeError)
  | tmoFinish (capture : TmoSyncCapture) (finishedAt : String) (acknowledged : Bool)
  | tmoRecord (markedAt finishedAt : String) (acknowledged : Bool)
  | tmoAbort (failure : SyncRuntimeError)
  | tmoRecover (finishedAt : String)
  | monarchLoad
  | monarchInterrupt (scheduledFor : Option String) (startedAt staleCutoff : String)
  | monarchClaim
  | monarchCaptureFails (failure : MonarchSyncError)
  | monarchFinish (asOfDate : IsoDate) (capture : MonarchBalanceCapture) (persistedAt : String)
      (acknowledged : Bool)
  | monarchRecord (finishedAt : String)
  | crash

/-- Where an invocation is afterwards, what it committed, and the import it published if any. -/
structure WorkerOutcome where
  phase : Phase
  db : Database
  published : Option (ℕ × Import)

/-- An invocation that goes on without having published. -/
def WorkerOutcome.quiet (phase : Phase) (db : Database) : WorkerOutcome := ⟨phase, db, none⟩

variable (platform : Platform)

/-- The claim of a TMO run. -/
def claimTmo (trigger : SyncTrigger) (startedAt : String) (db : Database) :
    OperationResult (ClaimOutcome × Operations) :=
  match trigger with
  | .manual => claimManual platform db.connected "tmo" startedAt db.operations
  | .scheduled slot => claimScheduled platform db.connected "tmo" slot startedAt db.operations

/-- The claim of a Monarch refresh. -/
def claimMonarch (scheduledFor : Option String) (startedAt : String) (db : Database) :
    OperationResult (ClaimOutcome × Operations) :=
  match scheduledFor with
  | none => claimManual platform db.connected "monarch" startedAt db.operations
  | some slot => claimScheduled platform db.connected "monarch" slot startedAt db.operations

/-- Interrupts stale runs of a connection, then goes on or stops. -/
def interruptThen (slug startedAt staleCutoff : String) (next : Phase) (db : Database) :
    WorkerOutcome :=
  match interruptStale platform slug startedAt staleCutoff db.operations with
  | .ok (_, operations) => .quiet next { db with operations }
  | .error _ => .quiet .stopped db

/-- Commits a claim; only an invocation whose claim was inserted goes on. -/
def claimThen (claim : OperationResult (ClaimOutcome × Operations)) (owner : ℕ → Phase)
    (db : Database) : WorkerOutcome :=
  match claim with
  | .ok (.claimed run, operations) => .quiet (owner run.1) { db with operations }
  | .ok (_, operations) => .quiet .stopped { db with operations }
  | .error _ => .quiet .stopped db

/-- The connection row registered under a slug. -/
def Database.connectionBySlug (db : Database) (slug : String) :
    Option (ℕ × IntegrationConnection) :=
  db.domain.integrations.connections.find? fun _ connection => connection.slug == slug

/-- One step of an invocation; a transaction that fails is rolled back. -/
def Phase.step (db : Database) : Phase → WorkerInput → Option WorkerOutcome
  | .idle, .tmoInterrupt trigger startedAt staleCutoff =>
    some (interruptThen platform "tmo" startedAt staleCutoff (.tmoStarted trigger startedAt) db)
  | .tmoStarted trigger startedAt, .tmoClaim =>
    some (claimThen (claimTmo platform trigger startedAt db) (.tmoOwner · none) db)
  | .tmoOwner runId none, .tmoLoad =>
    match db.connectionBySlug "tmo" with
    | some (connectionId, _) => some (.quiet (.tmoOwner runId connectionId) db)
    | none => some (.quiet (.tmoFailing runId none .missingConnection) db)
  | .tmoOwner runId connectionId, .tmoCaptureFails failure =>
    some (.quiet (.tmoFailing runId connectionId failure) db)
  | .tmoOwner runId (some connectionId), .tmoFinish capture finishedAt acknowledged =>
    if capture.connectionId = connectionId then
      match Tmo.finishSuccess platform runId capture finishedAt db with
      | .ok (_, committed) => some
          -- An owner that does not hear of its commit takes it for a failure.
          { phase := if acknowledged then .stopped
              else .tmoFailing runId connectionId (.storage "commit was not acknowledged")
            db := committed
            published := some (runId, .tmo capture) }
      | .error failure => some (.quiet (.tmoFailing runId connectionId failure) db)
    else none
  | .tmoFailing runId connectionId failure, .tmoRecord markedAt finishedAt acknowledged =>
    match Tmo.finishFailure platform runId connectionId failure markedAt finishedAt db with
    | .ok (_, committed) => some (.quiet (if acknowledged then .stopped
        else .tmoRecovering runId (.storage "commit was not acknowledged")) committed)
    | .error failure => some (.quiet (.tmoRecovering runId failure) db)
  | .tmoOwner runId _, .tmoAbort failure => some (.quiet (.tmoRecovering runId failure) db)
  | .tmoFailing runId _ _, .tmoAbort failure => some (.quiet (.tmoRecovering runId failure) db)
  | .tmoRecovering runId failure, .tmoRecover finishedAt =>
    match Tmo.finishFailure platform runId none failure finishedAt finishedAt db with
    | .ok (_, committed) => some (.quiet .stopped committed)
    | .error _ => some (.quiet .stopped db)
  | .idle, .monarchLoad =>
    match db.connectionBySlug "monarch" with
    | some (connectionId, connection) => some (.quiet
        (if connection.provider = "monarch" then .monarchLoaded connectionId else .stopped) db)
    | none => some (.quiet .stopped db)
  | .monarchLoaded connectionId, .monarchInterrupt scheduledFor startedAt staleCutoff =>
    some (interruptThen platform "monarch" startedAt staleCutoff
      (.monarchStarted connectionId scheduledFor startedAt) db)
  | .monarchStarted connectionId scheduledFor startedAt, .monarchClaim =>
    some (claimThen (claimMonarch platform scheduledFor startedAt db)
      (.monarchOwner · connectionId) db)
  | .monarchOwner runId connectionId, .monarchCaptureFails failure =>
    some (.quiet (.monarchFailing runId connectionId failure) db)
  | .monarchOwner runId connectionId, .monarchFinish asOfDate capture persistedAt acknowledged =>
    match Monarch.finishSuccess platform runId connectionId asOfDate capture persistedAt db with
    | .ok (_, committed) => some
        { phase := if acknowledged then .stopped
            else .monarchFailing runId connectionId (.storage "commit was not acknowledged")
          db := committed
          published := some (runId, .monarch connectionId asOfDate capture persistedAt) }
    | .error failure => some (.quiet (.monarchFailing runId connectionId failure) db)
  | .monarchFailing runId connectionId failure, .monarchRecord finishedAt =>
    match Monarch.finishFailure platform runId connectionId failure finishedAt db with
    | .ok (_, committed) => some (.quiet .stopped committed)
    | .error _ => some (.quiet .stopped db)
  | _, .crash => some (.quiet .stopped db)
  | _, _ => none

/-- The run an invocation works for. -/
def Phase.runId : Phase → Option ℕ
  | .tmoOwner runId _ => some runId
  | .tmoFailing runId _ _ => some runId
  | .tmoRecovering runId _ => some runId
  | .monarchOwner runId _ => some runId
  | .monarchFailing runId _ _ => some runId
  | _ => none

end FinStream
