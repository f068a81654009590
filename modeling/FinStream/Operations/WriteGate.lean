import FinStream.Operations.Repository

/-! The write gate: which requests it holds back, and what it answers them. -/

namespace FinStream

open Store

/-- Request methods. -/
inductive Method where
  | get
  | head
  | options
  | connect
  | trace
  | post
  | put
  | patch
  | delete
  | extension (name : String)
  deriving DecidableEq

/-- What a request needs before it may run. -/
inductive GateRequirement where
  | exempt
  | writes
  | scheduler
  deriving DecidableEq

/-- Whether a method is one that mutations use. -/
def Method.mutates (method : Method) : Bool :=
  method == .post || method == .put || method == .patch || method == .delete

/-- Whether a path is the cron endpoint or below it. -/
def isCronPath (path : String) : Bool :=
  path == "/internal/cron" || (stripLeading "/internal/cron/" path).isSome

/-- Whether a path is one a session begins or ends at. -/
def isSessionPath (path : String) : Bool := path == "/login" || path == "/logout"

/-- Classifies a request before its route is matched. -/
def requirement (method : Method) (path : String) : GateRequirement :=
  if isSessionPath path then .exempt
  else if isCronPath path then .scheduler
  else if method.mutates then .writes
  else .exempt

/-- Why a request is held back. -/
inductive GateFailure where
  | readOnly
  | schedulerDisabled
  | unavailable
  deriving DecidableEq

/-- The code of a failure. -/
def GateFailure.code : GateFailure → String
  | .readOnly => "read_only"
  | .schedulerDisabled => "scheduler_disabled"
  | .unavailable => "service_unavailable"

/-- The message of a failure. -/
def GateFailure.message : GateFailure → String
  | .readOnly => "Writes are temporarily disabled."
  | .schedulerDisabled => "Scheduled work is temporarily disabled."
  | .unavailable => "Operation control is temporarily unavailable."

/-- How a failed check of the control is reported. -/
def GateFailure.ofError : OperationError → GateFailure
  | .readOnly => .readOnly
  | .schedulerDisabled => .schedulerDisabled
  | _ => .unavailable

/-- The answer to a request that is held back. -/
structure BlockedResponse where
  status : ℕ
  /-- The code, in an answer that is read by a program. -/
  error : Option String
  message : String
  retryAfter : String
  deriving DecidableEq

/-- Whether an answer on a path is read by a program. -/
def answersJson (path : String) : Bool :=
  path == "/api" || (stripLeading "/api/" path).isSome || isCronPath path ||
    path == "/webhooks/resend"

/-- Tells a client to come back later. -/
def blockedResponse (path : String) (failure : GateFailure) : BlockedResponse where
  status := 503
  error := if answersJson path then some failure.code else none
  message := failure.message
  retryAfter := "60"

/--
Lets a request through, or holds it back.

The tables are missing when no connection to them could be opened.
-/
def enforce (requirement : GateRequirement) (db : Option Operations) : Except GateFailure Unit :=
  match requirement, db with
  | .exempt, _ => pure ()
  | _, none => throw .unavailable
  | .writes, some db => do
    let _ ← (requireWritesEnabled db).mapError .ofError
  | .scheduler, some db => do
    let _ ← (requireSchedulerEnabled db).mapError .ofError

/-- Whether operations are read-only. -/
def Operations.IsReadOnly (db : Operations) : Prop :=
  ∃ control, db.control = some control ∧ control.mode = .readOnly

/-- Only session paths and methods that mutate nothing are exempt. -/
theorem requirement_exempt {method : Method} {path : String}
    (exempt : requirement method path = .exempt) :
    isSessionPath path = true ∨ method.mutates = false := by
  unfold requirement at exempt
  split at exempt
  · left
    assumption
  · split at exempt
    · cases exempt
    · split at exempt
      · cases exempt
      · right
        simpa using ‹¬ method.mutates = true›

section ReadOnly

variable {db : Operations}

/-- A check for writes reports read-only operations. -/
theorem requireWritesEnabled_readOnly (frozen : db.IsReadOnly) :
    requireWritesEnabled db = .error .readOnly := by
  obtain ⟨control, stored, mode⟩ := frozen
  have read : controlOn db = .ok control := required_eq_ok.mpr stored
  simp [requireWritesEnabled, read, mode, ensure, bind, Except.bind]

/-- A check for scheduled runs reports read-only operations. -/
theorem requireSchedulerEnabled_readOnly (frozen : db.IsReadOnly) :
    requireSchedulerEnabled db = .error .readOnly := by
  rw [requireSchedulerEnabled, requireWritesEnabled_readOnly frozen]
  rfl

/-- While operations are read-only, only exempt requests pass the gate. -/
theorem enforce_readOnly {requirement : GateRequirement} (frozen : db.IsReadOnly)
    (passed : enforce requirement (some db) = .ok ()) : requirement = .exempt := by
  cases requirement with
  | exempt => rfl
  | writes =>
    rw [enforce, requireWritesEnabled_readOnly frozen] at passed
    cases passed
  | scheduler =>
    rw [enforce, requireSchedulerEnabled_readOnly frozen] at passed
    cases passed

end ReadOnly

end FinStream
