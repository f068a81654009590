import FinStream.Operations.Models

/-! The transactions that claim, interrupt and complete sync runs, and the controls over them. -/

namespace FinStream

open Store

/-- What an interrupted run is reported with. -/
def staleExecutionMessage : String := "execution owner expired before recording completion"

/-- A scheduled slot may be attempted this many times before its failure is final. -/
def maxScheduledAttempts : ℕ := 3

variable (platform : Platform) (connected : String → Bool)

/-- Reads the control row. -/
def controlOn (db : Operations) : OperationResult OperationControl :=
  required db.control (.coordination "operation-control singleton is missing")

/-- Replaces the mode and the scheduler switch. -/
def setControl (mode : OperationMode) (schedulerEnabled : Bool) (updatedAt : String)
    (db : Operations) : OperationResult (OperationControl × Operations) := do
  requireTimestamp "operation-control timestamp" updatedAt
  ensure (!(mode == .readOnly && schedulerEnabled))
    (.validation "the scheduler cannot be enabled while operations are read-only")
  let _ ← required db.control
    (.coordination "operation-control singleton disappeared during update")
  checkStoredTimestamp platform updatedAt
  let control := { mode, schedulerEnabled, updatedAt }
  pure (control, { db with control := some control })

/-- Stops writes and scheduled runs together. -/
def enterReadOnly (updatedAt : String) (db : Operations) :
    OperationResult (OperationControl × Operations) :=
  setControl platform .readOnly false updatedAt db

/-- Accepts writes and leaves scheduled runs off. -/
def enableWrites (updatedAt : String) (db : Operations) :
    OperationResult (OperationControl × Operations) :=
  setControl platform .enabled false updatedAt db

/-- Switches scheduled runs on or off; they stay off while operations are read-only. -/
def setSchedulerEnabled (enabled : Bool) (updatedAt : String) (db : Operations) :
    OperationResult (OperationControl × Operations) := do
  requireTimestamp "operation-control timestamp" updatedAt
  match db.control.filter fun control => !enabled || control.mode == .enabled with
  | some control => do
    checkStoredTimestamp platform updatedAt
    let control := { control with schedulerEnabled := enabled, updatedAt }
    pure (control, { db with control := some control })
  | none => do
    let control ← controlOn db
    if enabled && control.mode == .readOnly then throw .readOnly
    else throw (.coordination "operation scheduler control was not updated")

/-- Refuses to go on while operations are read-only. -/
def requireWritesEnabled (db : Operations) : OperationResult OperationControl := do
  let control ← controlOn db
  ensure (control.mode == .enabled) .readOnly
  pure control

/-- Refuses to go on while scheduled runs are off. -/
def requireSchedulerEnabled (db : Operations) : OperationResult OperationControl := do
  let control ← requireWritesEnabled db
  ensure control.schedulerEnabled .schedulerDisabled
  pure control

/-- Refuses a slug without a connection. -/
def requireConnection (slug : String) : OperationResult Unit :=
  ensure (connected slug) (.connectionNotFound slug)

/-- The last run in the order of start and id, among those that satisfy a condition. -/
def latestRun (condition : SyncRun → Bool) (db : Operations) : Option (ℕ × SyncRun) :=
  db.log.rows.foldl (fun latest entry =>
    if condition entry.2 && latest.all (·.2.startedAt ≤ entry.2.startedAt) then some entry
    else latest) none

/-- The running run of a connection. -/
def currentRun (slug : String) (db : Operations) : Option (ℕ × SyncRun) :=
  latestRun (fun run => run.connectionSlug == slug && run.status == .running) db

/-- The last successful run that started at or after a slot. -/
def successfulRunSince (slug slot : String) (db : Operations) : Option (ℕ × SyncRun) :=
  latestRun (fun run => run.connectionSlug == slug && run.status == .success &&
    slot ≤ run.startedAt) db

/-- The last attempt at a slot. -/
def runForScheduledSlot (slug slot : String) (db : Operations) : Option (ℕ × SyncRun) :=
  (db.log.rows.filter fun entry => entry.2.attempts slug slot).getLast?

/-- INSERT ... SELECT ... WHERE ... ON CONFLICT DO NOTHING RETURNING, of a claimed run. -/
def insertClaim (selected : Bool) (run : SyncRun) (db : Operations) :
    OperationResult (Option (ℕ × SyncRun × Operations)) :=
  if selected then do
    checkStoredTimestamp platform run.startedAt
    ensure (run.scheduledFor.all platform.datetimeValid)
      (.storage "CHECK constraint failed: datetime")
    match db.log.find? fun _ stored => run.conflicts stored with
    | some _ => pure none
    | none => pure (some (db.log.next, run, { db with log := db.log.insert run }))
  else pure none

/-- Claims a run a user asked for. -/
def claimManual (slug startedAt : String) (db : Operations) :
    OperationResult (ClaimOutcome × Operations) := do
  requireNonempty "connection slug" slug
  requireTimestamp "run start timestamp" startedAt
  let selected := db.control.any (·.mode == .enabled) && connected slug
  match ← insertClaim platform selected (.claim slug none startedAt) db with
  | some (id, run, claimed) => pure (.claimed (id, run), claimed)
  | none => do
    let _ ← requireWritesEnabled db
    requireConnection connected slug
    match currentRun slug db with
    | some current => pure (.alreadyRunning current, db)
    | none => throw (.coordination
        "manual claim was not inserted, but no running conflict remains")

/-- Claims a scheduled slot, unless a run covers it or its attempts are used up. -/
def claimScheduled (slug scheduledFor startedAt : String) (db : Operations) :
    OperationResult (ClaimOutcome × Operations) := do
  requireNonempty "connection slug" slug
  requireTimestamp "scheduled slot timestamp" scheduledFor
  requireTimestamp "run start timestamp" startedAt
  let covered := (db.log.find? fun _ run => run.connectionSlug == slug && run.status == .success &&
    scheduledFor ≤ run.startedAt).isSome
  let failed := db.log.count fun _ run => run.attempts slug scheduledFor && run.status == .error
  let selected := db.control.any (fun control => control.mode == .enabled &&
    control.schedulerEnabled) && connected slug && !covered && failed < maxScheduledAttempts
  match ← insertClaim platform selected (.claim slug (some scheduledFor) startedAt) db with
  | some (id, run, claimed) => pure (.claimed (id, run), claimed)
  | none => do
    let _ ← requireSchedulerEnabled db
    requireConnection connected slug
    -- A live run is reported before anything older about the slot.
    match currentRun slug db with
    | some current =>
      if current.2.scheduledFor == some scheduledFor then pure (.alreadyScheduled current, db)
      else pure (.alreadyRunning current, db)
    | none =>
      match successfulRunSince slug scheduledFor db with
      | some coverage => pure (.coveredBySuccess coverage, db)
      | none =>
        match runForScheduledSlot slug scheduledFor db with
        | some existing => pure (.alreadyScheduled existing, db)
        | none => throw (.coordination
            "scheduled claim was not inserted, but no durable conflict remains")

/-- Whether a run's owner has outlived its lease. -/
def SyncRun.isStale (slug cutoff : String) (run : SyncRun) : Bool :=
  run.status == .running && run.startedAt < cutoff && run.connectionSlug == slug

/-- Ends the runs of a connection whose owners have outlived their lease. -/
def interruptStale (slug finishedAt cutoffStartedAt : String) (db : Operations) :
    OperationResult (List (ℕ × SyncRun) × Operations) := do
  requireNonempty "connection slug" slug
  requireTimestamp "stale-run finish timestamp" finishedAt
  requireTimestamp "stale-run cutoff timestamp" cutoffStartedAt
  let _ ← requireWritesEnabled db
  let stale := db.log.rows.filter fun entry => entry.2.isStale slug cutoffStartedAt
  if stale.isEmpty then pure ([], db)
  else do
    checkStoredTimestamp platform finishedAt
    pure (stale.map fun entry => (entry.1, entry.2.fail finishedAt staleExecutionMessage),
      { db with
        log := db.log.updateWhere (fun _ run => run.isStale slug cutoffStartedAt)
          (SyncRun.fail finishedAt staleExecutionMessage) })

/-- UPDATE ... WHERE id = ? AND status = 'running' RETURNING. -/
def completeRunning (runId : ℕ) (finish : SyncRun → SyncRun) (finishedAt : String)
    (missing : String) (db : Operations) : OperationResult ((ℕ × SyncRun) × Operations) := do
  let owned := fun (id : ℕ) (run : SyncRun) => id == runId && run.status == .running
  let (_, run) ← required (db.log.find? owned) (.coordination missing)
  checkStoredTimestamp platform finishedAt
  pure ((runId, finish run), { db with log := db.log.updateWhere owned finish })

/-- Ends a running run in a success. -/
def completeSuccess (runId : ℕ) (finishedAt : String) (completion : SyncCompletion)
    (db : Operations) : OperationResult ((ℕ × SyncRun) × Operations) := do
  requirePositiveId "sync run" runId
  requireTimestamp "run finish timestamp" finishedAt
  validateCompletion completion
  completeRunning platform runId (.succeed finishedAt completion) finishedAt
    s!"sync run {runId} was not running during successful completion" db

/-- Ends a running run in an error. -/
def completeError (runId : ℕ) (finishedAt errorMessage : String) (db : Operations) :
    OperationResult ((ℕ × SyncRun) × Operations) := do
  requirePositiveId "sync run" runId
  requireTimestamp "run finish timestamp" finishedAt
  requireNonempty "sync error message" errorMessage
  completeRunning platform runId (.fail finishedAt errorMessage) finishedAt
    s!"sync run {runId} was not running during error completion" db

end FinStream
