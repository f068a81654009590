import FinStream.Finance.Models
import FinStream.Store.Transaction

/-! The durable records that coordinate sync runs. -/

namespace FinStream

open Store

/-- Whether writes are accepted. -/
inductive OperationMode where
  | readOnly
  | enabled
  deriving DecidableEq

/-- The singleton row of `operation_control`. -/
structure OperationControl where
  mode : OperationMode
  schedulerEnabled : Bool
  updatedAt : String
  deriving DecidableEq

/-- The life of a run: it is claimed as running and ends in a success or an error. -/
inductive SyncRunStatus where
  | running
  | success
  | error
  deriving DecidableEq

/-- A row of `sync_log`. -/
structure SyncRun where
  connectionSlug : String
  scheduledFor : Option String
  startedAt : String
  finishedAt : Option String
  status : SyncRunStatus
  errorMessage : Option String
  endpointsHit : Option String
  eventsUpserted : ℤ
  loansUpserted : ℤ
  snapshotsCreated : ℤ
  deriving DecidableEq

/-- What a successful run did. -/
structure SyncCompletion where
  endpointsHit : Option String
  eventsUpserted : ℤ
  loansUpserted : ℤ
  snapshotsCreated : ℤ
  deriving DecidableEq

/-- How a claim ends, with the run it is about. -/
inductive ClaimOutcome where
  | claimed (run : ℕ × SyncRun)
  | alreadyRunning (run : ℕ × SyncRun)
  | alreadyScheduled (run : ℕ × SyncRun)
  | coveredBySuccess (run : ℕ × SyncRun)
  deriving DecidableEq

/-- Errors of the coordination tables. -/
inductive OperationError where
  | validation (message : String)
  | connectionNotFound (slug : String)
  | readOnly
  | schedulerDisabled
  | coordination (message : String)
  | storage (message : String)
  deriving DecidableEq

/-- A coordination transaction: an error that rolls back, or a result. -/
abbrev OperationResult (α : Type) := Except OperationError α

/-- The coordination tables. -/
structure Operations where
  control : Option OperationControl
  log : Table SyncRun
  deriving DecidableEq

/-- A row a claim inserts. -/
def SyncRun.claim (slug : String) (scheduledFor : Option String) (startedAt : String) :
    SyncRun where
  connectionSlug := slug
  scheduledFor := scheduledFor
  startedAt := startedAt
  finishedAt := none
  status := .running
  errorMessage := none
  endpointsHit := none
  eventsUpserted := 0
  loansUpserted := 0
  snapshotsCreated := 0

/-- A run that ends in an error; what it counted so far stays. -/
def SyncRun.fail (finishedAt errorMessage : String) (run : SyncRun) : SyncRun :=
  { run with status := .error, finishedAt := some finishedAt, errorMessage := some errorMessage }

/-- A run that ends in a success. -/
def SyncRun.succeed (finishedAt : String) (completion : SyncCompletion) (run : SyncRun) :
    SyncRun :=
  { run with
    status := .success
    finishedAt := some finishedAt
    errorMessage := none
    endpointsHit := completion.endpointsHit
    eventsUpserted := completion.eventsUpserted
    loansUpserted := completion.loansUpserted
    snapshotsCreated := completion.snapshotsCreated }

/-- The key of the one-running index: the connection of a running run. -/
def SyncRun.oneRunning (run : SyncRun) : Option String :=
  if run.status = .running then some run.connectionSlug else none

/-- The key of the scheduled-slot index: the slot of a run that has not failed. -/
def SyncRun.oneScheduledSlot (run : SyncRun) : Option (String × String) :=
  if run.status = .error then none else run.scheduledFor.map (run.connectionSlug, ·)

/-- Whether a stored run keeps a claimed one out of either unique index. -/
def SyncRun.conflicts (claimed stored : SyncRun) : Bool :=
  (stored.oneRunning.isSome && stored.oneRunning == claimed.oneRunning) ||
    (stored.oneScheduledSlot.isSome && stored.oneScheduledSlot == claimed.oneScheduledSlot)

/-- Whether a run was an attempt at a scheduled slot. -/
def SyncRun.attempts (slug slot : String) (run : SyncRun) : Bool :=
  run.connectionSlug == slug && run.scheduledFor == some slot

/-- Text with a digit wherever the pattern has one, and otherwise equal to it. -/
def matchesDigits (pattern value : String) : Bool :=
  value.length == pattern.length && (pattern.toList.zip value.toList).all fun pair =>
    if pair.1.isDigit then pair.2.isDigit else pair.1 == pair.2

/-- Refuses blank text. -/
def requireNonempty (label value : String) : OperationResult Unit :=
  ensure (!isBlank value) (.validation s!"{label} cannot be empty")

/-- Refuses anything but a fixed-width timestamp in milliseconds. -/
def requireTimestamp (label value : String) : OperationResult Unit :=
  ensure (matchesDigits "0000-00-00T00:00:00.000Z" value) (.validation
    s!"{label} must use fixed-width UTC RFC3339 milliseconds (YYYY-MM-DDTHH:MM:SS.mmmZ)")

/-- Refuses an id no row can have. -/
def requirePositiveId (label : String) (value : ℕ) : OperationResult Unit :=
  ensure (0 < value) (.validation s!"{label} id must be positive")

/-- Refuses a completion with a negative count. -/
def validateCompletion (completion : SyncCompletion) : OperationResult Unit := do
  ensure (0 ≤ completion.eventsUpserted) (.validation "events upserted cannot be negative")
  ensure (0 ≤ completion.loansUpserted) (.validation "loans upserted cannot be negative")
  ensure (0 ≤ completion.snapshotsCreated) (.validation "snapshots created cannot be negative")

/-- The schema's CHECK that the database reads a stored timestamp. -/
def checkStoredTimestamp (platform : Platform) (value : String) : OperationResult Unit :=
  ensure (platform.datetimeValid value) (.storage "CHECK constraint failed: datetime")

end FinStream
