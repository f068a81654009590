import FinStream.Store.Transition
import FinStream.Text
import Mathlib.Logic.Function.Basic

/-! The session store: one table of sessions, and a cache of them in every process. -/

namespace FinStream.Session

open Store

/-- The random number a session is known by. -/
abbrev Id := ℤ

/-- A session; moments are nanoseconds of the epoch. -/
structure Record where
  id : Id
  /-- The values of the session, as JSON. -/
  data : String
  expiryDate : ℤ
  deriving DecidableEq

/-- The whole seconds of a moment. -/
def unixTimestamp (moment : ℤ) : ℤ := moment / 1000000000

/-- A row of `app_session`. -/
structure Row where
  data : List UInt8
  expiresAtUnixS : ℤ
  deriving DecidableEq

/-- How sessions are written to bytes and read back. -/
structure Codec where
  encode : Record → Option (List UInt8)
  decode : List UInt8 → Option Record

/-- A session in a cache, with the moment it was put there. -/
structure CachedRecord where
  record : Record
  cachedAt : ℤ
  deriving DecidableEq

/-- A cached session is used for half a minute. -/
def sessionCacheTtl : ℤ := 30 * 1000000000

/-- Whether a cached session is still used at a moment. -/
def CachedRecord.isLive (entry : CachedRecord) (clock : ℤ) : Bool :=
  clock - entry.cachedAt ≤ sessionCacheTtl && clock < entry.record.expiryDate

/-- A process of the application: its clock, and its cache. -/
structure Instance where
  clock : ℤ
  entries : Id → Option CachedRecord

namespace Instance

/-- Drops a session from the cache. -/
def evict (process : Instance) (id : Id) : Instance :=
  { process with entries := Function.update process.entries id none }

/-- Puts a session into the cache. -/
def cache (process : Instance) (record : Record) : Instance :=
  { process with
    entries := Function.update process.entries record.id (some ⟨record, process.clock⟩) }

/-- Looks a session up in the cache; an entry that is no longer used is dropped. -/
def cached (process : Instance) (id : Id) : Option Record × Instance :=
  match process.entries id with
  | none => (none, process)
  | some entry =>
    if entry.isLive process.clock then (some entry.record, process)
    else (none, process.evict id)

end Instance

/-- How a call ended. -/
inductive Result where
  | done
  | failed
  /-- What a load found, and whether the session had been deleted when it started. -/
  | loaded (id : Id) (revoked : Bool) (found : Option Record)
  deriving DecidableEq

/-- A call of the store on a process, between two of its steps. -/
inductive Call where
  /-- The row is to be inserted; some attempts are left. -/
  | creating (process : ℕ) (record : Record) (attempts : ℕ)
  /-- The row is inserted; the session is to be cached. -/
  | created (process : ℕ) (record : Record)
  | saving (process : ℕ) (record : Record)
  /-- The row is updated; the session is to be cached. -/
  | saved (process : ℕ) (record : Record)
  /-- There was no row to update; the session is to be dropped from the cache. -/
  | missed (process : ℕ) (id : Id)
  /-- The session was not cached; its row is to be read. -/
  | loading (process : ℕ) (id : Id) (revoked : Bool)
  /-- The row is read; the session is to be cached. -/
  | loaded (process : ℕ) (record : Record) (revoked : Bool)
  | deleting (process : ℕ) (id : Id)
  /-- The row is deleted; the session is to be dropped from the cache. -/
  | deleted (process : ℕ) (id : Id)
  | returned (result : Result)
  deriving DecidableEq

/-- Whether a call has returned. -/
def Call.isReturned : Call → Bool
  | .returned _ => true
  | _ => false

/-- The table, the processes, and the calls made so far. -/
structure SessionState where
  rows : Id → Option Row
  instances : ℕ → Instance
  calls : List Call
  /-- The ids that a session was stored under or deleted under. -/
  used : List Id
  /-- The ids whose deletion has returned. -/
  revoked : List Id

/-- What can happen next. -/
inductive SessionInput where
  | tick (process elapsed : ℕ)
  | create (process : ℕ) (record : Record)
  | save (process : ℕ) (record : Record)
  | load (process : ℕ) (id : Id)
  | delete (process : ℕ) (id : Id)
  /-- A statement is executed, and its answer may get lost. -/
  | execute (index : ℕ) (nextId : Id) (answered : Bool)
  /-- A call does what is left to do in its process, and returns. -/
  | finish (index : ℕ)
  /-- A call gets no further. -/
  | abandon (index : ℕ)

/-- The table after a statement, and the call that made it. -/
structure Executed where
  rows : Id → Option Row
  used : List Id
  call : Call

/-- A session is inserted this many times at most. -/
def maxCreateAttempts : ℕ := 8

/--
The statement a call makes next.

A new id is random, so none that was in use before is drawn again.
-/
def Call.execute (codec : Codec) (nextId : Id) (state : SessionState) : Call → Option Executed
  | .creating process record attempts =>
    match attempts, codec.encode record with
    | 0, _ => some ⟨state.rows, state.used, .returned .failed⟩
    | _ + 1, none => some ⟨state.rows, state.used, .returned .failed⟩
    | attempts + 1, some data =>
      match state.rows record.id with
      | some _ =>
        some ⟨state.rows, state.used, .creating process { record with id := nextId } attempts⟩
      | none =>
        if record.id ∈ state.used then none
        else some
          { rows := Function.update state.rows record.id
              (some ⟨data, unixTimestamp record.expiryDate⟩)
            used := record.id :: state.used
            call := .created process record }
  | .saving process record =>
    match codec.encode record, state.rows record.id with
    | none, _ => some ⟨state.rows, state.used, .returned .failed⟩
    | some data, some _ => some
        { rows := Function.update state.rows record.id
            (some ⟨data, unixTimestamp record.expiryDate⟩)
          used := state.used
          call := .saved process record }
    | some _, none => some ⟨state.rows, state.used, .missed process record.id⟩
  | .loading process id revoked =>
    let read (call : Call) : Option Executed := some ⟨state.rows, state.used, call⟩
    match (state.rows id).filter
        (unixTimestamp (state.instances process).clock < ·.expiresAtUnixS) with
    | none => read (.returned (.loaded id revoked none))
    | some row =>
      match codec.decode row.data with
      | none => read (.returned .failed)
      | some record =>
        if record.id = id ∧ unixTimestamp record.expiryDate = row.expiresAtUnixS then
          read (.loaded process record revoked)
        else read (.returned .failed)
  | .deleting process id => some
      { rows := Function.update state.rows id none
        used := id :: state.used
        call := .deleted process id }
  | _ => none

namespace SessionState

/-- Replaces a process. -/
def withInstance (state : SessionState) (index : ℕ) (process : Instance) : SessionState :=
  { state with instances := Function.update state.instances index process }

/-- Replaces a call. -/
def withCall (state : SessionState) (index : ℕ) (call : Call) : SessionState :=
  { state with calls := state.calls.set index call }

/-- Caches a session on a process. -/
def caching (state : SessionState) (process : ℕ) (record : Record) : SessionState :=
  state.withInstance process ((state.instances process).cache record)

/-- Drops a session from the cache of a process. -/
def evicting (state : SessionState) (process : ℕ) (id : Id) : SessionState :=
  state.withInstance process ((state.instances process).evict id)

/-- Starts a call. -/
def starting (state : SessionState) (call : Call) : SessionState :=
  { state with calls := state.calls ++ [call] }

/-- What a call does in its process once its statement is executed. -/
def finish (state : SessionState) : Call → Option (SessionState × Result)
  | .created process record => some (state.caching process record, .done)
  | .saved process record => some (state.caching process record, .done)
  | .missed process id => some (state.evicting process id, .failed)
  | .loaded process record revoked =>
    if record.expiryDate ≤ (state.instances process).clock then
      some (state, .loaded record.id revoked none)
    else some (state.caching process record, .loaded record.id revoked (some record))
  | .deleted process id =>
    some ({ state.evicting process id with revoked := id :: state.revoked }, .done)
  | _ => none

/-- The store after one step, if it can be taken. -/
def step (codec : Codec) (state : SessionState) : SessionInput → Option SessionState
  | .tick process elapsed =>
    let ticked := { state.instances process with
      clock := (state.instances process).clock + elapsed }
    some (state.withInstance process ticked)
  | .create process record => some (state.starting (.creating process record maxCreateAttempts))
  | .save process record => some (state.starting (.saving process record))
  | .load process id =>
    let revoked := decide (id ∈ state.revoked)
    match (state.instances process).cached id with
    | (some record, looked) =>
      some ((state.withInstance process looked).starting
        (.returned (.loaded id revoked (some record))))
    | (none, looked) =>
      some ((state.withInstance process looked).starting (.loading process id revoked))
  | .delete process id => some (state.starting (.deleting process id))
  | .execute index nextId answered => do
    let call ← state.calls[index]?
    let executed ← call.execute codec nextId state
    some { state with
      rows := executed.rows
      used := executed.used
      calls := state.calls.set index (if answered then executed.call else .returned .failed) }
  | .finish index => do
    let call ← state.calls[index]?
    let (finished, result) ← state.finish call
    some (finished.withCall index (.returned result))
  | .abandon index => do
    let call ← state.calls[index]?
    if call.isReturned then none else some (state.withCall index (.returned .failed))

end SessionState

/-- Every interleaving of calls on any number of processes. -/
def sessions (codec : Codec) : System SessionState SessionInput where
  init state := (∀ process id, (state.instances process).entries id = none) ∧ state.calls = [] ∧
    state.revoked = []
  step input before after := before.step codec input = some after

/-- What a deletion promises: the row stays away, and no later load finds the session. -/
structure Revoked (state : SessionState) : Prop where
  /-- No save brings the row back. -/
  rows : ∀ id ∈ state.revoked, state.rows id = none
  /-- No load that starts after the deletion returned finds a session. -/
  loads : ∀ id record, Call.returned (.loaded id true (some record)) ∉ state.calls

end FinStream.Session
