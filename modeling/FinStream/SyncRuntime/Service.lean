import FinStream.Inbox.Processing
import FinStream.Media.Service
import FinStream.Operations.WriteGate
import FinStream.SyncRuntime.Worker

/-! The service: requests behind the write gate, in any order with changes of the control. -/

namespace FinStream

open Store

/-- The rows a freeze is about: everything but sessions and the control row. -/
structure Canonical where
  domain : Domain
  log : Table SyncRun
  inbox : Inbox.Tables
  photos : Table Media.LoanWorkspacePhoto

/-- A transaction of a handler behind the gate. -/
inductive Write where
  /-- An edit of the plan. -/
  | finance (op : FinanceOp)
  /-- A step of the processing of inbound mail. -/
  | inbox (op : Inbox.InboxOp)
  /-- Any other handler's. -/
  | other (change : Canonical → Canonical)

/-- The rows after a transaction; one that fails commits nothing. -/
def Write.apply (platform : Inbox.MailPlatform) (rows : Canonical) : Write → Canonical
  | .finance op =>
    { rows with
      domain := ((DomainOp.finance op).commit platform.toPlatform rows.domain).getD rows.domain }
  | .inbox op => { rows with inbox := op.after platform rows.inbox }
  | .other change => change rows

/-- How far a request has got. -/
inductive Invocation where
  /-- There is no request. -/
  | idle
  /-- An exempt request; all it may write is the repair of stale runs. -/
  | reading
  /-- A mutation, or a delivery of mail, that passed the gate. -/
  | writing
  /-- A request for a sync that passed the gate. -/
  | syncing (phase : Phase)
  /-- A cron request that passed the gate, with the run it is at. -/
  | cron (phase : Phase)

/-- The handlers behind the gate for writes. -/
inductive Route where
  | mutation
  | sync

/-- A request at the start of its handler. -/
def GateRequirement.invocation (route : Route) : GateRequirement → Invocation
  | .exempt => .reading
  | .writes =>
    match route with
    | .mutation => .writing
    | .sync => .syncing .idle
  | .scheduler => .cron .stopped

/-- What an operator does to the control. -/
inductive ControlChange where
  | setControl (mode : OperationMode) (schedulerEnabled : Bool) (updatedAt : String)
  | enterReadOnly (updatedAt : String)
  | enableWrites (updatedAt : String)
  | setSchedulerEnabled (enabled : Bool) (updatedAt : String)

/-- The control after a change; one that fails commits nothing. -/
def ControlChange.apply (platform : Platform) (db : Operations) : ControlChange → Operations
  | .setControl mode schedulerEnabled updatedAt =>
    ((FinStream.setControl platform mode schedulerEnabled updatedAt db).toOption.map Prod.snd).getD db
  | .enterReadOnly updatedAt =>
    ((FinStream.enterReadOnly platform updatedAt db).toOption.map Prod.snd).getD db
  | .enableWrites updatedAt =>
    ((FinStream.enableWrites platform updatedAt db).toOption.map Prod.snd).getD db
  | .setSchedulerEnabled enabled updatedAt =>
    ((FinStream.setSchedulerEnabled platform enabled updatedAt db).toOption.map Prod.snd).getD db

/-- Whether a change accepts writes again. -/
def ControlChange.enables : ControlChange → Bool
  | .setControl mode _ _ => mode == .enabled
  | .enableWrites _ => true
  | _ => false

/-- The tables, and any number of requests. -/
structure Service where
  db : Database
  inbox : Inbox.Tables
  photos : Table Media.LoanWorkspacePhoto
  invocations : ℕ → Invocation

/-- What can happen next. -/
inductive ServiceInput where
  | control (change : ControlChange)
  | request (index : ℕ) (method : Method) (path : String) (route : Route)
  | write (index : ℕ) (write : Write)
  | sync (index : ℕ) (input : WorkerInput)
  | prepare (index : ℕ) (slug : String) (nextSlot : String → Option String) (updatedAt : String)
  | repair (index : ℕ) (slug finishedAt staleCutoff : String)
  | answer (index : ℕ)

/-- Records the next slot of a connection. -/
def setNextScheduledAt (slug : String) (next : Option String) (updatedAt : String)
    (db : Integrations) : IntegrationResult Integrations := do
  ensure (!isBlank slug) (.validation "integration connection slug cannot be empty")
  ensure (db.connections.find? fun _ connection => connection.slug == slug).isSome
    (.storage "integration connection disappeared while recording its schedule")
  pure { db with
    connections := db.connections.updateWhere (fun _ connection => connection.slug == slug)
      fun connection =>
        { connection with
          nextScheduledAt := next
          updatedAt := if connection.nextScheduledAt = next then connection.updatedAt
            else updatedAt } }

/-- Errors of the preparation of a scheduled run. -/
inductive SchedulerError where
  | operation (error : OperationError)
  | integration (error : IntegrationError)

/--
Prepares a scheduled run, and says whether its connection exists.

The check of the control and the write are one transaction; the cadence gives the next slot.
-/
def prepareSchedule (slug : String) (nextSlot : String → Option String) (updatedAt : String)
    (db : Database) : Except SchedulerError (Bool × Database) := do
  let _ ← (requireSchedulerEnabled db.operations).mapError .operation
  match db.connectionBySlug slug with
  | none => pure (false, db)
  | some (_, connection) =>
    let integrations ← (setNextScheduledAt slug (nextSlot connection.syncCadence) updatedAt
      db.domain.integrations).mapError .integration
    pure (true, { db with domain := { db.domain with integrations } })

namespace Service

/-- The rows of the tables. -/
def canonical (state : Service) : Canonical where
  domain := state.db.domain
  log := state.db.operations.log
  inbox := state.inbox
  photos := state.photos

/-- The tables with other rows. -/
def withRows (state : Service) (rows : Canonical) : Service :=
  { state with
    db := { domain := rows.domain, operations := { state.db.operations with log := rows.log } }
    inbox := rows.inbox
    photos := rows.photos }

/-- The service after a transaction on the coordination tables. -/
def withOperations (state : Service) (operations : Operations) : Service :=
  { state with db := { state.db with operations } }

/-- The requests after one of them went on. -/
def withInvocation (state : Service) (index : ℕ) (invocation : Invocation) : Service :=
  { state with
    invocations := fun other => if other = index then invocation else state.invocations other }

/-- The service after a step of a sync. -/
def worked (state : Service) (index : ℕ) (holder : Phase → Invocation) (outcome : WorkerOutcome) :
    Service :=
  withInvocation { state with db := outcome.db } index (holder outcome.phase)

/-- The service after one step, if it can be taken. -/
def step (platform : Inbox.MailPlatform) (state : Service) : ServiceInput → Option Service
  | .control change =>
    some (withOperations state (change.apply platform.toPlatform state.db.operations))
  | .request index method path route =>
    match state.invocations index with
    | .idle =>
      match enforce (requirement method path) (some state.db.operations) with
      | .ok _ => some (withInvocation state index ((requirement method path).invocation route))
      | .error _ => some state
    | _ => none
  | .write index write =>
    match state.invocations index with
    | .writing => some (withRows state (write.apply platform state.canonical))
    | _ => none
  | .sync index input =>
    match state.invocations index with
    | .syncing phase => (phase.step platform.toPlatform state.db input).map
        (worked state index .syncing)
    | .cron phase => (phase.step platform.toPlatform state.db input).map (worked state index .cron)
    | _ => none
  | .prepare index slug nextSlot updatedAt =>
    match state.invocations index with
    | .cron .stopped =>
      match prepareSchedule slug nextSlot updatedAt state.db with
      -- A connection that does not exist is passed over.
      | .ok (found, db) => some (withInvocation { state with db } index
          (.cron (if found then .idle else .stopped)))
      | .error _ => some (withInvocation state index .idle)
    | _ => none
  | .repair index slug finishedAt staleCutoff =>
    match state.invocations index with
    | .reading =>
      match interruptStale platform.toPlatform slug finishedAt staleCutoff
          state.db.operations with
      | .ok (_, operations) => some (withOperations state operations)
      | .error _ => some state
    | _ => none
  | .answer index => some (withInvocation state index .idle)

end Service

/-- Every interleaving of requests with each other and with changes of the control. -/
def service (platform : Inbox.MailPlatform) : System Service ServiceInput where
  init state := ∀ index, state.invocations index = .idle
  step input before after := before.step platform input = some after

/-- Whether an input accepts writes again. -/
def ServiceInput.enables : ServiceInput → Bool
  | .control change => change.enables
  | _ => false

/-- The request an input is a step of. -/
def ServiceInput.index : ServiceInput → Option ℕ
  | .control _ => none
  | .request index _ _ _ => some index
  | .write index _ => some index
  | .sync index _ => some index
  | .prepare index _ _ _ => some index
  | .repair index _ _ _ => some index
  | .answer index => some index

/--
Whether a request was admitted to writing.

A mutation is admitted by the gate; a sync is admitted by the claim of its run.
-/
def Invocation.admitted : Invocation → Bool
  | .writing => true
  | .syncing phase => phase.runId.isSome
  | .cron phase => phase.runId.isSome
  | _ => false

end FinStream
