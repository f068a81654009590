import FinStream.Domain.System
import FinStream.Finance.Updates

/-! The update handlers between their reads and their write, among all other writers. -/

namespace FinStream

open Store

/-- An update that has read its row and is about to replace it. -/
inductive Update where
  | account (id : ℕ) (request : AccountRequest) (existing : Account)
  | stream (id : ℕ) (request : StreamRequest) (existing : StreamConfig)
  | view (id : ℕ) (request : ViewRequest) (existing : ViewEditor)
  deriving DecidableEq

/-- What a handler has read so far. -/
inductive Handler where
  /-- The schedules are listed; the streams come next. -/
  | schedulesListed (id : ℕ) (request : StreamRequest) (schedules : List (ℕ × StreamSchedule))
  /-- The views are listed; the streams come next. -/
  | viewsListed (id : ℕ) (request : ViewRequest) (view : StreamView)
  /-- The streams are listed; the memberships come next. -/
  | streamsListed (id : ℕ) (request : ViewRequest) (view : StreamView) (streamIds : List ℕ)
  /-- Everything is read. -/
  | ready (update : Update)

/-- The finance tables before and after a committed update. -/
structure CommittedUpdate where
  update : Update
  before : Finance
  after : Finance
  deriving DecidableEq

/-- The database and the handlers at work, with every update committed so far. -/
structure HandlerState where
  domain : Domain
  handlers : ℕ → Option Handler
  updates : List CommittedUpdate

/-- What can happen next. -/
inductive HandlerInput where
  /-- Any other transaction commits. -/
  | commit (op : DomainOp)
  /-- An account update arrives and lists the accounts. -/
  | updateAccount (index id : ℕ) (request : AccountRequest)
  /-- A stream update arrives and lists the schedules. -/
  | updateStream (index id : ℕ) (request : StreamRequest)
  /-- A view update arrives and lists the views. -/
  | updateView (index id : ℕ) (request : ViewRequest)
  /-- A handler goes on with its next query. -/
  | query (index : ℕ)
  /-- A handler saves what it merged. -/
  | save (index : ℕ) (now : String) (today : IsoDate)
  /-- A handler fails or disappears. -/
  | abandon (index : ℕ)

/-- How many days ahead schedules are projected. -/
def projectionDays : ℤ := 365

/-- The dates that are projected from a day on. -/
def projectionWindow (today : IsoDate) : FinanceResult ProjectionWindow := do
  let through ← (today.addDays projectionDays).mapError .date
  required (ProjectionWindow.new today through) (.storage "projection window ends before it starts")

/-- The transaction an update asks for. -/
def Update.op (now : String) (today : IsoDate) : Update → FinanceResult FinanceOp
  | .account id request existing =>
    pure (.saveAccount now (request.draft (some id) today (some existing)))
  | .stream id request existing => do
    let draft ← buildStreamDraft (some id) request (some existing) today
    let window ← projectionWindow today
    pure (.saveStream now draft window)
  | .view id request existing => pure (.saveView now (request.draft (some id) (some existing)))

/-- The next query of a handler; nothing is left to do when its row is not found. -/
def Handler.query (db : Finance) : Handler → Option Handler
  | .schedulesListed id request schedules =>
    ((db.streams.get? id).filter (·.isActive)).map fun stream =>
      .ready (.stream id request ⟨stream, schedules⟩)
  | .viewsListed id request view =>
    some (.streamsListed id request view
      ((db.streams.rows.filter (·.2.isActive)).map Prod.fst))
  | .streamsListed id request view streamIds =>
    some (.ready (.view id request
      ⟨view, streamIds.filter fun streamId => (id, streamId) ∈ db.viewStreams⟩))
  | .ready update => some (.ready update)

namespace HandlerState

/-- The state with another handler under an index. -/
def withHandler (state : HandlerState) (index : ℕ) (handler : Option Handler) : HandlerState :=
  { state with
    handlers := fun other => if other = index then handler else state.handlers other }

/-- A handler starts under a free index. -/
def start (state : HandlerState) (index : ℕ) (handler : Option Handler) : Option HandlerState :=
  if (state.handlers index).isNone then some (state.withHandler index handler) else none

/-- What an update leaves: the tables it commits, or the old ones when it fails. -/
def saved (platform : Platform) (state : HandlerState) (update : Update) (now : String)
    (today : IsoDate) : HandlerState :=
  match (update.op now today).toOption.bind fun op =>
      (DomainOp.finance op).commit platform state.domain with
  | some domain => { state with
      domain
      updates := state.updates ++ [⟨update, state.domain.finance, domain.finance⟩] }
  | none => state

/-- The state after one step, if it can be taken. -/
def step (platform : Platform) (state : HandlerState) : HandlerInput → Option HandlerState
  | .commit op => (op.commit platform state.domain).map fun domain => { state with domain }
  | .updateAccount index id request =>
    state.start index (((state.domain.finance.accounts.get? id).filter (·.isActive)).map
      fun account => .ready (.account id request account))
  | .updateStream index id request =>
    state.start index (some (.schedulesListed id request
      (activeSchedules state.domain.finance id)))
  | .updateView index id request =>
    state.start index (((state.domain.finance.views.get? id).filter (·.isActive)).map
      fun view => .viewsListed id request view)
  | .query index =>
    (state.handlers index).map fun handler =>
      state.withHandler index (handler.query state.domain.finance)
  | .save index now today =>
    match state.handlers index with
    | some (.ready update) => some ((state.saved platform update now today).withHandler index none)
    | _ => none
  | .abandon index => some (state.withHandler index none)

end HandlerState

/-- Every interleaving of update handlers with each other and with all other writers. -/
def handlerSystem (platform : Platform) : System HandlerState HandlerInput where
  init state := state.domain.Fresh ∧ (∀ index, state.handlers index = none) ∧ state.updates = []
  step input before after := before.step platform input = some after

/-- What the request of a committed update does not name has kept its value. -/
def CommittedUpdate.Kept (committed : CommittedUpdate) : Prop :=
  match committed.update with
  | .account id request _ => request.Kept id committed.before committed.after
  | .stream id request _ => request.Kept id committed.before committed.after
  | .view id request _ => request.Kept id committed.before committed.after

/-- What a committed update wrote back without being asked to was what was stored. -/
def CommittedUpdate.Current (committed : CommittedUpdate) : Prop :=
  match committed.update with
  | .account id request existing => request.Current id existing committed.before
  | .stream id request existing => request.Current id existing committed.before
  | .view id request existing => request.Current id existing committed.before

/-- Whether an update is one of an account or a view. -/
def Update.isPlain : Update → Bool
  | .stream .. => false
  | _ => true

/-! ### The invariant -/

/-- Rows that were read are tidy. -/
def Update.Tidy : Update → Prop
  | .account _ _ existing => existing.Tidy
  | .stream id _ existing => existing.Tidy id
  | .view _ _ existing => existing.view.Tidy

/-- Rows that were read are tidy, at every stage. -/
def Handler.Tidy : Handler → Prop
  | .schedulesListed id _ schedules => ∀ entry ∈ schedules, entry.2.Tidy ∧
    entry.2.streamId = id ∧ entry.2.isActive = true
  | .viewsListed _ _ view | .streamsListed _ _ view _ => view.Tidy
  | .ready update => update.Tidy

/-- What a committed update kept, and when. -/
structure CommittedUpdate.Sound (committed : CommittedUpdate) : Prop where
  kept : committed.Current → committed.Kept
  current : committed.update.isPlain = true → committed.Kept → committed.Current

/-- What every step keeps. -/
structure HandlersSound (platform : Platform) (state : HandlerState) : Prop where
  reached : (domainSystem platform).Reachable state.domain
  tidy : state.domain.finance.Tidy
  handlers : ∀ index handler, state.handlers index = some handler → handler.Tidy
  updates : ∀ committed ∈ state.updates, committed.Sound

section Steps

variable {platform : Platform}

/-- Every transaction keeps the finance tables tidy. -/
theorem DomainOp.commit_tidy {op : DomainOp} {before after : Domain}
    (consistent : before.Consistent) (tidy : before.finance.Tidy)
    (done : op.commit platform before = some after) : after.finance.Tidy := by
  cases op with
  | finance op =>
    obtain ⟨finance, applied, rfl⟩ := Option.map_eq_some_iff.mp done
    exact operation_tidy tidy (toOption_eq_some.mp applied)
  | tmoSync capture =>
    -- A TMO sync changes events only.
    obtain ⟨result, applied, rfl⟩ := Option.map_eq_some_iff.mp done
    obtain ⟨_, _, -, -, -, -, replaced⟩ :=
      applyTmoSync_replaced consistent (toOption_eq_some.mp applied)
    rw [replaced.finance]
    exact { tidy with }
  | tmoError connectionId publicMessage updatedAt =>
    rw [markTmoError_frame (toOption_eq_some.mp done)]
    exact tidy
  | monarchBalance connectionId asOfDate capture persistedAt =>
    have done := toOption_eq_some.mp done
    simp only [applyMonarchBalance, bind_eq_ok, pure_eq_ok] at done
    obtain ⟨_, -, _, -, _, -, _, -, _, -, _, -, rfl⟩ := done
    exact balance_tidy (ensurePrimaryAccountOn_tidy tidy) fun _ => ⟨rfl, rfl, rfl, rfl, rfl⟩
  | monarchError connectionId message updatedAt =>
    rw [markMonarchError_frame (toOption_eq_some.mp done)]
    exact tidy

/-- A committed update keeps what it does not name if what it read is current. -/
theorem Update.committed_sound {update : Update} {now : String} {today : IsoDate} {op : FinanceOp}
    {before after : Finance} (tidy : before.Tidy) (read : update.Tidy)
    (asked : update.op now today = .ok op) (done : op.apply platform before = .ok after) :
    CommittedUpdate.Sound ⟨update, before, after⟩ := by
  cases update with
  | account id request existing =>
    cases asked
    obtain ⟨result, saved, rfl⟩ := map_eq_ok.mp done
    have same := saveAccount_kept_iff tidy read saved
    exact ⟨same.mpr, fun _ => same.mp⟩
  | stream id request existing =>
    simp only [Update.op, bind_eq_ok, pure_eq_ok] at asked
    obtain ⟨draft, built, window, -, rfl⟩ := asked
    obtain ⟨result, saved, rfl⟩ := map_eq_ok.mp done
    exact ⟨fun current => saveStream_kept read built saved current, fun plain => by cases plain⟩
  | view id request existing =>
    cases asked
    obtain ⟨result, saved, rfl⟩ := map_eq_ok.mp done
    have same := saveView_kept_iff tidy read saved
    exact ⟨same.mpr, fun _ => same.mp⟩

/-- A query of a handler reads tidy rows. -/
theorem Handler.query_tidy {db : Finance} {handler next : Handler} (tidy : db.Tidy)
    (read : handler.Tidy) (queried : handler.query db = some next) : next.Tidy := by
  cases handler with
  | schedulesListed id request schedules =>
    obtain ⟨stream, found, rfl⟩ := Option.map_eq_some_iff.mp queried
    obtain ⟨there, -⟩ := Option.filter_eq_some_iff.mp found
    exact ⟨tidy.streams _ _ (Table.get?_eq_some.mp there), read⟩
  | viewsListed =>
    cases queried
    exact read
  | streamsListed =>
    cases queried
    exact read
  | ready =>
    cases queried
    exact read

variable {before after : HandlerState}

/-- A handler that has read tidy rows may take the place of another. -/
theorem HandlersSound.withHandler (sound : HandlersSound platform before) {index : ℕ}
    {handler : Option Handler} (read : ∀ reading, handler = some reading → reading.Tidy) :
    HandlersSound platform (before.withHandler index handler) := by
  refine { sound with handlers := ?_ }
  intro other reading found
  simp only [HandlerState.withHandler] at found
  split at found
  · exact read reading found
  · exact sound.handlers other reading found

/-- Starting a handler that has read tidy rows keeps everything sound. -/
theorem HandlersSound.start (sound : HandlersSound platform before) {index : ℕ}
    {handler : Option Handler} (read : ∀ reading, handler = some reading → reading.Tidy)
    (started : before.start index handler = some after) : HandlersSound platform after := by
  unfold HandlerState.start at started
  split at started
  · cases started
    exact sound.withHandler read
  · cases started

/-- A save keeps everything sound. -/
theorem HandlersSound.saved (sound : HandlersSound platform before) {update : Update}
    (read : update.Tidy) (now : String) (today : IsoDate) :
    HandlersSound platform (before.saved platform update now today) := by
  unfold HandlerState.saved
  split
  · rename_i domain committed
    obtain ⟨op, asked, committed⟩ := Option.bind_eq_some_iff.mp committed
    refine
      { reached := sound.reached.step committed
        tidy := DomainOp.commit_tidy (reachable_consistent sound.reached) sound.tidy committed
        handlers := sound.handlers
        updates := ?_ }
    intro recorded member
    rcases List.mem_append.mp member with old | new
    · exact sound.updates recorded old
    · rw [List.mem_singleton.mp new]
      obtain ⟨finance, applied, rfl⟩ := Option.map_eq_some_iff.mp committed
      exact update.committed_sound sound.tidy read (toOption_eq_some.mp asked)
        (toOption_eq_some.mp applied)
  · -- A failed update is rolled back.
    exact sound

/-- Every step keeps everything sound. -/
theorem HandlersSound.step (sound : HandlersSound platform before) {input : HandlerInput}
    (stepped : before.step platform input = some after) : HandlersSound platform after := by
  cases input with
  | commit op =>
    obtain ⟨domain, committed, rfl⟩ := Option.map_eq_some_iff.mp stepped
    exact
      { reached := sound.reached.step committed
        tidy := DomainOp.commit_tidy (reachable_consistent sound.reached) sound.tidy committed
        handlers := sound.handlers
        updates := sound.updates }
  | updateAccount index id request =>
    -- A handler reads a stored row, which is tidy as all rows are.
    refine sound.start (fun reading is => ?_) stepped
    obtain ⟨account, found, rfl⟩ := Option.map_eq_some_iff.mp is
    obtain ⟨there, -⟩ := Option.filter_eq_some_iff.mp found
    exact sound.tidy.accounts _ _ (Table.get?_eq_some.mp there)
  | updateStream index id request =>
    refine sound.start (fun reading is => ?_) stepped
    cases is
    intro entry member
    obtain ⟨there, stream, active⟩ := mem_activeSchedules.mp member
    exact ⟨sound.tidy.schedules _ _ there, stream, active⟩
  | updateView index id request =>
    refine sound.start (fun reading is => ?_) stepped
    obtain ⟨view, found, rfl⟩ := Option.map_eq_some_iff.mp is
    obtain ⟨there, -⟩ := Option.filter_eq_some_iff.mp found
    exact sound.tidy.views _ _ (Table.get?_eq_some.mp there)
  | query index =>
    obtain ⟨handler, found, rfl⟩ := Option.map_eq_some_iff.mp stepped
    exact sound.withHandler fun reading queried =>
      Handler.query_tidy sound.tidy (sound.handlers index handler found) queried
  | save index now today =>
    simp only [HandlerState.step] at stepped
    split at stepped
    · -- What was read by then is saved; the handler itself is done.
      rename_i update found
      cases stepped
      have read : update.Tidy := sound.handlers index _ found
      exact (sound.saved read now today).withHandler fun _ none_ => by cases none_
    · cases stepped
  | abandon index =>
    cases stepped
    exact sound.withHandler fun _ none_ => by cases none_

end Steps

/-- A fresh schema is tidy. -/
theorem Domain.Fresh.tidy {db : Domain} (fresh : db.Fresh) : db.finance.Tidy := by
  rw [fresh.finance]
  refine ⟨?_, ?_, ?_, ?_, ?_, ?_⟩
  all_goals
    intro _ _
    first
      | exact fun there => absurd there (Table.not_mem_empty _)
      | exact fun _ _ there => absurd there (Table.not_mem_empty _)

/-- In every run, an update keeps what its request does not name if what it read is current. -/
theorem updates_kept (platform : Platform) (state : HandlerState)
    (reached : (handlerSystem platform).Reachable state) :
    ∀ committed ∈ state.updates, (committed.Current → committed.Kept) ∧
      (committed.update.isPlain = true → committed.Kept → committed.Current) := by
  have sound : HandlersSound platform state := by
    refine reached.invariant (HandlersSound platform) (fun state initial => ?_)
      fun _ _ _ _ sound stepped => sound.step stepped
    obtain ⟨fresh, idle, none_⟩ := initial
    refine ⟨.init fresh, fresh.tidy, fun index handler found => ?_, fun committed member => ?_⟩
    · rw [idle] at found
      cases found
    · rw [none_] at member
      cases member
  exact fun committed member => ⟨(sound.updates committed member).kept,
    (sound.updates committed member).current⟩

/-- The registered schema with no handler at work. -/
def idleHandlers : HandlerState where
  domain := .registered
  handlers _ := none
  updates := []

/-- A request that renames an account and says nothing else. -/
def renameRequest : AccountRequest where
  name := "Checking"
  kind := none
  balance := .missing
  isPrimary := none
  notes := .missing

/-- The primary account is created. -/
def createPrimary : HandlerInput :=
  .commit (.finance (.ensurePrimaryAccount "2026-01-05T08:00:00.000Z"))

/-- A balance of 500 is recorded on the primary account. -/
def recordBalance : HandlerInput :=
  .commit (.finance (.setStartingBalance "2026-01-05T09:00:00.000Z" (.finite 500) firstMonday
    "manual" none none))

/-- The rename is saved. -/
def saveRename : HandlerInput := .save 0 "2026-01-05T10:00:00.000Z" firstMonday

/-- The primary account as it is created. -/
def unsetAccount : Account := primaryCashAccount "2026-01-05T08:00:00.000Z"

/-- The primary account with its recorded balance. -/
def setAccount : Account :=
  { unsetAccount with
    balance := some 500
    balanceAsOfDate := some firstMonday
    sourceType := some "manual"
    balanceUpdatedAt := some "2026-01-05T09:00:00.000Z"
    updatedAt := "2026-01-05T09:00:00.000Z" }

/-- The finance tables with one account. -/
def withAccount (account : Account) : Finance :=
  { Finance.empty with accounts := Table.empty.insert account }

/-- Inputs that can be taken lead to a reachable state with the updates they committed. -/
theorem handlers_played {inputs : List HandlerInput} {updates : List CommittedUpdate}
    (committed : (System.play (HandlerState.step plainPlatform) inputs idleHandlers).map
      HandlerState.updates = some updates) :
    ∃ state, (handlerSystem plainPlatform).Reachable state ∧ state.updates = updates := by
  obtain ⟨state, played, rfl⟩ := Option.map_eq_some_iff.mp committed
  have run : (handlerSystem plainPlatform).Run idleHandlers inputs state :=
    System.play_run (fun _ _ _ taken => taken) inputs played
  have start : (handlerSystem plainPlatform).Reachable idleHandlers :=
    .init ⟨Domain.registered_fresh, fun _ => rfl, rfl⟩
  exact ⟨state, run.reachable start, rfl⟩

/-- An account after the rename. -/
def renamed (account : Account) : Account :=
  { account with name := "Checking", updatedAt := "2026-01-05T10:00:00.000Z" }

/-- The rename of an account that was read in one version and stored in another. -/
def renameOf (read stored : Account) : CommittedUpdate where
  update := .account 1 renameRequest read
  before := withAccount stored
  after := withAccount (renamed read)

/-- A rename that reads the account after its balance is recorded keeps the balance. -/
theorem updates_kept_in_order : (renameOf setAccount setAccount).Kept := by
  have played : (System.play (HandlerState.step plainPlatform)
      [createPrimary, recordBalance, .updateAccount 0 1 renameRequest, saveRename]
      idleHandlers).map HandlerState.updates = some [renameOf setAccount setAccount] := by
    decide +kernel
  obtain ⟨state, reached, updates⟩ := handlers_played played
  have member : renameOf setAccount setAccount ∈ state.updates := by
    rw [updates]
    exact List.mem_singleton_self _
  refine (updates_kept plainPlatform state reached _ member).1 fun stored there => ?_
  have there_ : (1, setAccount) ∈ (withAccount setAccount).accounts :=
    Table.mem_insert.mpr (.inr rfl)
  rw [Table.unique there there_]

/-- A rename that reads the account before its balance is recorded loses the balance. -/
theorem updates_lose_balance : ¬ ∀ (platform : Platform) (state : HandlerState),
    (handlerSystem platform).Reachable state → ∀ committed ∈ state.updates, committed.Kept := by
  intro claimed
  have played : (System.play (HandlerState.step plainPlatform)
      [createPrimary, .updateAccount 0 1 renameRequest, recordBalance, saveRename]
      idleHandlers).map HandlerState.updates = some [renameOf unsetAccount setAccount] := by
    decide +kernel
  obtain ⟨state, reached, updates⟩ := handlers_played played
  have member : renameOf unsetAccount setAccount ∈ state.updates := by
    rw [updates]
    exact List.mem_singleton_self _
  have kept : renameRequest.Kept 1 (withAccount setAccount) (withAccount (renamed unsetAccount)) :=
    claimed plainPlatform state reached _ member
  obtain ⟨now, there, same⟩ := kept.row setAccount (Table.mem_insert.mpr (.inr rfl))
  have there_ : (1, renamed unsetAccount) ∈ (withAccount (renamed unsetAccount)).accounts :=
    Table.mem_insert.mpr (.inr rfl)
  rw [Table.unique there there_] at same
  -- The balance of 500 is gone, although the request does not name it.
  simp only [AccountRequest.unnamed, Prod.mk.injEq, unlessNamed_eq] at same
  have lost : (renamed unsetAccount).balance = setAccount.balance := (same.2.1 rfl).1
  cases lost

end FinStream
