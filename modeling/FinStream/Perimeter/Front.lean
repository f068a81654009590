import FinStream.Perimeter.Request
import FinStream.Session.Store
import FinStream.Store.History

/-! The layers in front of the handlers, for any number of requests on any number of processes. -/

namespace FinStream.Perimeter

open Store

/-- A process: its clock, and when it last saw that a user is active. -/
structure Process where
  /-- Nanoseconds of a clock that only goes forward. -/
  clock : ℤ
  activeUsers : ℤ → Option ℤ

/-- An active user is not looked up again for half a minute. -/
def activeUserCacheTtl : ℤ := 30 * 1000000000

/-- Whether a process saw recently that a user is active. -/
def Process.sawActive (process : Process) (user : ℤ) : Bool :=
  (process.activeUsers user).any fun cachedAt => process.clock - cachedAt ≤ activeUserCacheTtl

/-- Keeps what a lookup of a user found. -/
def Process.keep (process : Process) (user : ℤ) (active : Bool) : Process :=
  { process with
    activeUsers := Function.update process.activeUsers user
      (if active then some process.clock else none) }

/-- How far a request has got. -/
inductive Stage where
  /-- Its session is to be loaded. -/
  | loading
  /-- The row of its user is to be read. -/
  | looking (user : ℤ)
  /-- The row is read; the process is to keep what it said. -/
  | looked (user : ℤ) (active : Bool)
  /-- The session of an inactive user is to be deleted. -/
  | flushing
  /-- The write gate is to decide. -/
  | gating (standing : Standing)
  /-- Its handler runs. -/
  | handling (standing : Standing)
  /-- The handler of a login found the user; a session is to be stored. -/
  | loggingIn (user : ℤ)
  | answered (response : Response)
  /-- The client went away. -/
  | dropped
  deriving DecidableEq

/-- A request on a process, under the session that its cookie names. -/
structure Pending where
  process : ℕ
  request : Request
  session : Option Session.Id
  stage : Stage

/-- The tables that the layers read, the processes, and the requests made so far. -/
structure Front where
  users : List AppUser
  operations : Operations
  processes : ℕ → Process
  /-- The sessions that were ever stored, with the user they were stored for. -/
  stored : List (Session.Id × ℤ)
  requests : List Pending

/-- What the session store answers a load with. -/
inductive Loaded where
  | failed
  /-- The user of the session, if there is a session and it has one. -/
  | found (user : Option ℤ)
  deriving DecidableEq

/-- What can happen next. -/
inductive FrontInput where
  | tick (process elapsed : ℕ)
  /-- Someone changes the users. -/
  | setUsers (users : List AppUser)
  /-- Someone changes the operation control. -/
  | setOperations (operations : Operations)
  | arrive (process : ℕ) (request : Request) (session : Option Session.Id) (now : OffsetDateTime)
  | load (index : ℕ) (loaded : Loaded)
  /-- The row of a user is read, if the database answers. -/
  | look (index : ℕ) (answered : Bool)
  | keep (index : ℕ)
  | flush (index : ℕ) (succeeded : Bool)
  /-- The gate decides, with a connection if one can be opened. -/
  | gate (index : ℕ) (connected : Bool)
  | login (index : ℕ) (answered : Bool)
  /-- The session of a login is stored under an id, if the database answers. -/
  | store (index : ℕ) (id : Session.Id) (succeeded : Bool)
  /-- Another handler answers. -/
  | answer (index : ℕ) (response : Response)
  | drop (index : ℕ)

namespace Front

/-- Whether a user is stored as an active one. -/
def isActive (front : Front) (id : ℤ) : Bool :=
  front.users.any fun user => user.id == id && user.isActive

/-- Moves a request on. -/
def withStage (front : Front) (index : ℕ) (pending : Pending) (stage : Stage) : Front :=
  { front with requests := front.requests.set index { pending with stage } }

/-- Replaces a process. -/
def withProcess (front : Front) (index : ℕ) (process : Process) : Front :=
  { front with processes := Function.update front.processes index process }

/--
Whether the store may answer a load in this way.

It finds nothing, or a user that the session was once stored for: copies of deleted sessions linger.
-/
def mayLoad (front : Front) (session : Option Session.Id) : Loaded → Bool
  | .failed => true
  | .found none => true
  | .found (some user) => session.any fun id => (id, user) ∈ front.stored

end Front

/-- Whether a request is handled by the login. -/
def Request.isLogin (request : Request) : Bool :=
  request.method == .post && request.path == "/login"

section Steps

variable (config : Config)

/-- How far a request gets before its session is loaded. -/
def arrival (request : Request) (now : OffsetDateTime) : Stage :=
  match (do
    let verified ← authenticateWebhook config request now
    requireAuth config request verified) with
  | .ok (some standing) => .gating standing
  | .ok none => .loading
  | .error response => .answered response

/-- How far a request gets with what the session store answered. -/
def Process.authorize (process : Process) (request : Request) : Loaded → Stage
  | .failed => .answered serviceUnavailableResponse
  | .found none => .answered (unauthenticatedResponse request.path request.headers)
  | .found (some user) =>
    if process.sawActive user then .gating (.user user) else .looking user

/-- How far a request gets at the write gate. -/
def gateStage (request : Request) (standing : Standing) (db : Option Operations) : Stage :=
  match enforce (requirement request.method request.path) db with
  | .ok () => .handling standing
  | .error failure => .answered (.ofBlocked (blockedResponse request.path failure))

/-- How far a login gets with the users as they are stored, if they can be read. -/
def loginStage (users : Option (List AppUser)) (form : LoginForm) : Stage :=
  match login config users form with
  | .ok user => .loggingIn user
  | .error response => .answered response

/-- The front after a request took a step of its own, if it can take this one. -/
def Front.advance (front : Front) (index : ℕ) (pending : Pending) :
    FrontInput → Option Front
  | .load _ loaded =>
    if pending.stage = .loading ∧ front.mayLoad pending.session loaded = true then
      some (front.withStage index pending
        ((front.processes pending.process).authorize pending.request loaded))
    else none
  | .look _ answered =>
    match pending.stage with
    | .looking user => some (front.withStage index pending
        (if answered then .looked user (front.isActive user)
        else .answered serviceUnavailableResponse))
    | _ => none
  | .keep _ =>
    match pending.stage with
    | .looked user active => some
        ((front.withProcess pending.process ((front.processes pending.process).keep user active))
          |>.withStage index pending (if active then .gating (.user user) else .flushing))
    | _ => none
  | .flush _ succeeded =>
    if pending.stage = .flushing then
      some (front.withStage index pending (.answered (if succeeded then
        unauthenticatedResponse pending.request.path pending.request.headers
        else serviceUnavailableResponse)))
    else none
  | .gate _ connected =>
    match pending.stage with
    | .gating standing => some (front.withStage index pending
        (gateStage pending.request standing (if connected then some front.operations else none)))
    | _ => none
  | .login _ answered =>
    match pending.stage, config.loginForm pending.request.body with
    | .handling _, some form =>
      if pending.request.isLogin then
        some (front.withStage index pending
          (loginStage config (if answered then some front.users else none) form))
      else none
    | _, _ => none
  | .store _ id succeeded =>
    match pending.stage with
    | .loggingIn user =>
      if succeeded then
        some ({ front with stored := (id, user) :: front.stored }.withStage index pending
          (.answered (redirectTo "/")))
      else some (front.withStage index pending (.answered loginUnavailable))
    | _ => none
  | .answer _ response =>
    match pending.stage with
    | .handling _ => some (front.withStage index pending (.answered response))
    | _ => none
  | .drop _ => some (front.withStage index pending .dropped)
  | _ => none

/-- The request that an input is about, if it is about one. -/
def FrontInput.index : FrontInput → Option ℕ
  | .load index _ | .look index _ | .keep index | .flush index _ | .gate index _
  | .login index _ | .store index _ _ | .answer index _ | .drop index => some index
  | _ => none

/-- The front after one step, if it can be taken. -/
def Front.step (front : Front) : FrontInput → Option Front
  | .tick process elapsed =>
    let ticked := { front.processes process with
      clock := (front.processes process).clock + elapsed }
    some (front.withProcess process ticked)
  | .setUsers users => some { front with users }
  | .setOperations operations => some { front with operations }
  | .arrive process request session now => some { front with
      requests := front.requests ++ [⟨process, request, session, arrival config request now⟩] }
  | input => do
    let index ← input.index
    let pending ← front.requests[index]?
    front.advance config index pending input

/-- Every interleaving of requests on any number of processes. -/
def fronts : System Front FrontInput where
  init front := (∀ process user, (front.processes process).activeUsers user = none) ∧
    front.stored = [] ∧ front.requests = []
  step input before after := before.step config input = some after

end Steps

end FinStream.Perimeter
