import FinStream.Operations.Repository
import FinStream.Store.Key
import FinStream.Store.Transition

/-! Coordination of sync runs: what any order of claims, interruptions and completions keeps. -/

namespace FinStream

open Store

/-- A change of a run that ends it and keeps what it was claimed with. -/
structure Finishes (finish : SyncRun → SyncRun) : Prop where
  ended (run : SyncRun) : (finish run).status ≠ .running
  slug (run : SyncRun) : (finish run).connectionSlug = run.connectionSlug
  slot (run : SyncRun) : (finish run).scheduledFor = run.scheduledFor

/-- Failing a run ends it. -/
theorem SyncRun.fail_finishes (finishedAt message : String) : Finishes (fail finishedAt message) :=
  ⟨fun _ => by simp [fail], fun _ => rfl, fun _ => rfl⟩

/-- Succeeding ends a run. -/
theorem SyncRun.succeed_finishes (finishedAt : String) (completion : SyncCompletion) :
    Finishes (succeed finishedAt completion) :=
  ⟨fun _ => by simp [succeed], fun _ => rfl, fun _ => rfl⟩

/-- The recorded failures of a slot. -/
def failedAttempts (log : Table SyncRun) (slug slot : String) : ℕ :=
  log.count fun _ run => run.attempts slug slot && run.status == .error

/-- Everything one transaction can do to the log. -/
inductive LogChange (before : Table SyncRun) : Table SyncRun → Prop
  /-- Nothing. -/
  | unchanged : LogChange before before
  /-- Adds a running run that no index refuses, with attempts at its slot left. -/
  | claimed (run : SyncRun) (running : run.status = .running)
      (free : ∀ id stored, (id, stored) ∈ before → run.conflicts stored = false)
      (attemptsLeft : ∀ slot, run.scheduledFor = some slot →
        failedAttempts before run.connectionSlug slot < maxScheduledAttempts) :
      LogChange before (before.insert run)
  /-- Ends some running runs. -/
  | finished (ending : ℕ → SyncRun → Bool) (finish : SyncRun → SyncRun)
      (running : ∀ id run, ending id run = true → run.status = .running)
      (finishes : Finishes finish) : LogChange before (before.updateWhere ending finish)

/-- Everything a claim can do. -/
inductive Claims (before : Operations) : Operations → Prop
  /-- It only reports a run. -/
  | refused : Claims before before
  /-- It adds a running run that no index refuses, with attempts at its slot left. -/
  | added (run : SyncRun) (running : run.status = .running)
      (free : ∀ id stored, (id, stored) ∈ before.log → run.conflicts stored = false)
      (attemptsLeft : ∀ slot, run.scheduledFor = some slot →
        failedAttempts before.log run.connectionSlug slot < maxScheduledAttempts) :
      Claims before { before with log := before.log.insert run }

/-- A claim changes the log in one of its ways. -/
theorem Claims.change {before after : Operations} (claims : Claims before after) :
    LogChange before.log after.log := by
  cases claims with
  | refused => exact .unchanged
  | added run running free attemptsLeft => exact .claimed run running free attemptsLeft

section Transactions

variable {platform : Platform} {connected : String → Bool} {before after : Operations}

/-- An inserted claim is the given run: it was selected, and no index refused it. -/
theorem insertClaim_some {selected : Bool} {run claimed : SyncRun} {id : ℕ}
    (done : insertClaim platform selected run before = .ok (some (id, claimed, after))) :
    selected = true ∧ id = before.log.next ∧ claimed = run ∧
      after = { before with log := before.log.insert run } ∧
      ∀ id stored, (id, stored) ∈ before.log → run.conflicts stored = false := by
  unfold insertClaim at done
  split at done
  · rename_i selected
    simp only [bind_eq_ok] at done
    obtain ⟨_, -, _, -, done⟩ := done
    split at done
    · simp at done
    · rename_i missing
      simp only [pure_eq_ok, Option.some.injEq, Prod.mk.injEq] at done
      exact ⟨selected, done.1.symm, done.2.1.symm, done.2.2.symm,
        fun id stored there => Table.find?_none missing there⟩
  · simp at done

/-- A manual claim adds a run or reports one. -/
theorem claimManual_claims {slug startedAt : String} {outcome : ClaimOutcome}
    (done : claimManual platform connected slug startedAt before = .ok (outcome, after)) :
    Claims before after := by
  simp only [claimManual, bind_eq_ok] at done
  obtain ⟨_, -, _, -, inserted, claim, done⟩ := done
  split at done
  · -- The claim was inserted.
    simp only [pure_eq_ok, Prod.mk.injEq] at done
    obtain ⟨-, rfl⟩ := done
    obtain ⟨-, -, rfl, rfl, free⟩ := insertClaim_some claim
    exact .added _ rfl free (by simp [SyncRun.claim])
  · -- The claim was refused, and the run in its way is reported.
    simp only [bind_eq_ok] at done
    obtain ⟨_, -, _, -, done⟩ := done
    split at done
    · simp only [pure_eq_ok, Prod.mk.injEq] at done
      obtain ⟨-, rfl⟩ := done
      exact .refused
    · simp at done

/-- A scheduled claim adds an attempt while some are left, or reports a run. -/
theorem claimScheduled_claims {slug scheduledFor startedAt : String} {outcome : ClaimOutcome}
    (done : claimScheduled platform connected slug scheduledFor startedAt before =
      .ok (outcome, after)) : Claims before after := by
  simp only [claimScheduled, bind_eq_ok] at done
  obtain ⟨_, -, _, -, _, -, inserted, claim, done⟩ := done
  split at done
  · -- The claim was inserted, so the guard of the statement held.
    simp only [pure_eq_ok, Prod.mk.injEq] at done
    obtain ⟨-, rfl⟩ := done
    obtain ⟨selected, -, rfl, rfl, free⟩ := insertClaim_some claim
    simp only [Bool.and_eq_true, decide_eq_true_eq] at selected
    refine .added _ rfl free fun slot same => ?_
    obtain rfl : scheduledFor = slot := by simpa [SyncRun.claim] using same
    exact selected.2
  · -- Every classification leaves the log alone.
    simp only [bind_eq_ok] at done
    obtain ⟨_, -, _, -, done⟩ := done
    have same : after = before := by
      split at done
      · split at done <;> simp_all
      · split at done
        · simp_all
        · split at done <;> simp_all
    rw [same]
    exact .refused

/-- An interruption fails the running runs of one connection that are stale. -/
theorem interruptStale_ok {slug finishedAt cutoff : String} {interrupted : List (ℕ × SyncRun)}
    (done : interruptStale platform slug finishedAt cutoff before = .ok (interrupted, after)) :
    after = before ∨ after = { before with
      log := before.log.updateWhere (fun _ run => run.isStale slug cutoff)
        (.fail finishedAt staleExecutionMessage) } := by
  simp only [interruptStale, bind_eq_ok] at done
  obtain ⟨_, -, _, -, _, -, _, -, done⟩ := done
  split at done
  · simp only [pure_eq_ok, Prod.mk.injEq] at done
    exact .inl done.2.symm
  · simp only [bind_eq_ok, pure_eq_ok, Prod.mk.injEq] at done
    obtain ⟨_, -, -, same⟩ := done
    exact .inr same.symm

/-- An interruption ends running runs. -/
theorem interruptStale_change {slug finishedAt cutoff : String} {interrupted : List (ℕ × SyncRun)}
    (done : interruptStale platform slug finishedAt cutoff before = .ok (interrupted, after)) :
    LogChange before.log after.log := by
  rcases interruptStale_ok done with rfl | rfl
  · exact .unchanged
  · dsimp only
    refine .finished _ _ (fun _ run stale => ?_) (SyncRun.fail_finishes _ _)
    simp only [SyncRun.isStale, Bool.and_eq_true, beq_iff_eq] at stale
    exact stale.1.1

/-- A completion ends its run, which was running. -/
theorem completeRunning_ok {runId : ℕ} {finish : SyncRun → SyncRun} {finishedAt missing : String}
    {finished : ℕ × SyncRun}
    (done : completeRunning platform runId finish finishedAt missing before =
      .ok (finished, after)) :
    ∃ run, (runId, run) ∈ before.log ∧ run.status = .running ∧ finished = (runId, finish run) ∧
      after = { before with
        log := before.log.updateWhere (fun id run => id == runId && run.status == .running)
          finish } := by
  simp only [completeRunning, bind_eq_ok, required_eq_ok, pure_eq_ok, Prod.mk.injEq] at done
  obtain ⟨⟨id, run⟩, found, _, -, result, rfl⟩ := done
  obtain ⟨stored, owned⟩ := Table.find?_some found
  simp only [Bool.and_eq_true, beq_iff_eq] at owned
  obtain ⟨rfl, running⟩ := owned
  exact ⟨run, stored, running, result.symm, rfl⟩

/-- A successful completion ends its run in a success. -/
theorem completeSuccess_ok {runId : ℕ} {finishedAt : String} {completion : SyncCompletion}
    {finished : ℕ × SyncRun}
    (done : completeSuccess platform runId finishedAt completion before = .ok (finished, after)) :
    ∃ run, (runId, run) ∈ before.log ∧ run.status = .running ∧
      finished = (runId, run.succeed finishedAt completion) ∧ after = { before with
        log := before.log.updateWhere (fun id run => id == runId && run.status == .running)
          (.succeed finishedAt completion) } := by
  simp only [completeSuccess, bind_eq_ok] at done
  obtain ⟨_, -, _, -, _, -, done⟩ := done
  exact completeRunning_ok done

/-- A failed completion ends its run in an error. -/
theorem completeError_ok {runId : ℕ} {finishedAt message : String} {finished : ℕ × SyncRun}
    (done : completeError platform runId finishedAt message before = .ok (finished, after)) :
    ∃ run, (runId, run) ∈ before.log ∧ run.status = .running ∧
      finished = (runId, run.fail finishedAt message) ∧ after = { before with
        log := before.log.updateWhere (fun id run => id == runId && run.status == .running)
          (.fail finishedAt message) } := by
  simp only [completeError, bind_eq_ok] at done
  obtain ⟨_, -, _, -, _, -, done⟩ := done
  exact completeRunning_ok done

/-- Ending one running run is one of the changes of the log. -/
theorem LogChange.ending (log : Table SyncRun) (runId : ℕ) {finish : SyncRun → SyncRun}
    (finishes : Finishes finish) :
    LogChange log (log.updateWhere (fun id run => id == runId && run.status == .running)
      finish) := by
  refine .finished _ _ (fun id run owned => ?_) finishes
  simp only [Bool.and_eq_true, beq_iff_eq] at owned
  exact owned.2

/-- A successful completion ends running runs. -/
theorem completeSuccess_change {runId : ℕ} {finishedAt : String} {completion : SyncCompletion}
    {finished : ℕ × SyncRun}
    (done : completeSuccess platform runId finishedAt completion before = .ok (finished, after)) :
    LogChange before.log after.log := by
  obtain ⟨run, -, -, -, rfl⟩ := completeSuccess_ok done
  exact .ending _ _ (SyncRun.succeed_finishes _ _)

/-- A failed completion ends running runs. -/
theorem completeError_change {runId : ℕ} {finishedAt message : String} {finished : ℕ × SyncRun}
    (done : completeError platform runId finishedAt message before = .ok (finished, after)) :
    LogChange before.log after.log := by
  obtain ⟨run, -, -, -, rfl⟩ := completeError_ok done
  exact .ending _ _ (SyncRun.fail_finishes _ _)

/-- Changing the control leaves the log alone. -/
theorem setControl_log {mode : OperationMode} {schedulerEnabled : Bool} {updatedAt : String}
    {control : OperationControl}
    (done : setControl platform mode schedulerEnabled updatedAt before = .ok (control, after)) :
    after.log = before.log := by
  simp only [setControl, bind_eq_ok, pure_eq_ok, Prod.mk.injEq] at done
  obtain ⟨_, -, _, -, _, -, _, -, -, rfl⟩ := done
  rfl

/-- Switching the scheduler leaves the log alone. -/
theorem setSchedulerEnabled_log {enabled : Bool} {updatedAt : String} {control : OperationControl}
    (done : setSchedulerEnabled platform enabled updatedAt before = .ok (control, after)) :
    after.log = before.log := by
  simp only [setSchedulerEnabled, bind_eq_ok] at done
  obtain ⟨_, -, done⟩ := done
  split at done
  · simp only [bind_eq_ok, pure_eq_ok, Prod.mk.injEq] at done
    obtain ⟨_, -, -, rfl⟩ := done
    rfl
  · simp only [bind_eq_ok] at done
    obtain ⟨_, -, done⟩ := done
    split at done <;> simp at done

end Transactions

/-- What holds of the log at every moment. -/
structure Coordinated (log : Table SyncRun) : Prop where
  /-- A connection has at most one running run. -/
  oneRunning : UniqueKey SyncRun.oneRunning log
  /-- A slot has at most one run that is running or succeeded. -/
  oneScheduledSlot : UniqueKey SyncRun.oneScheduledSlot log
  /-- A slot is attempted only so often. -/
  bounded : ∀ slug slot, (log.count fun _ run => run.attempts slug slot) ≤ maxScheduledAttempts

/-- A run keeps another one out when both have the same key in the one-running index. -/
theorem SyncRun.conflicts_oneRunning {claimed stored : SyncRun} {slug : String}
    (storedKey : stored.oneRunning = some slug) (claimedKey : claimed.oneRunning = some slug) :
    claimed.conflicts stored = true := by
  simp [conflicts, storedKey, claimedKey]

/-- A run keeps another one out when both have the same key in the scheduled-slot index. -/
theorem SyncRun.conflicts_oneScheduledSlot {claimed stored : SyncRun} {slot : String × String}
    (storedKey : stored.oneScheduledSlot = some slot)
    (claimedKey : claimed.oneScheduledSlot = some slot) : claimed.conflicts stored = true := by
  simp [conflicts, storedKey, claimedKey]

/-- Ending a run frees its keys and takes none. -/
theorem Finishes.released {finish : SyncRun → SyncRun} (finishes : Finishes finish)
    {run : SyncRun} (running : run.status = .running) :
    (∀ slug, (finish run).oneRunning = some slug → run.oneRunning = some slug) ∧
      ∀ slot, (finish run).oneScheduledSlot = some slot → run.oneScheduledSlot = some slot := by
  constructor
  · intro slug has
    simp [SyncRun.oneRunning, finishes.ended run] at has
  · intro slot has
    simp only [SyncRun.oneScheduledSlot, finishes.slot, finishes.slug] at has
    split at has
    · exact absurd has (by simp)
    · simpa [SyncRun.oneScheduledSlot, running] using has

/-- When no live run holds a slot, all its attempts are failures. -/
theorem attempts_failed {log : Table SyncRun} {run : SyncRun} {slot : String}
    (running : run.status = .running) (scheduled : run.scheduledFor = some slot)
    (free : ∀ id stored, (id, stored) ∈ log → run.conflicts stored = false) :
    (log.count fun _ stored => stored.attempts run.connectionSlug slot) =
      failedAttempts log run.connectionSlug slot := by
  refine Table.count_congr fun id stored there => ?_
  cases attempt : stored.attempts run.connectionSlug slot with
  | false => rfl
  | true =>
    simp only [SyncRun.attempts, Bool.and_eq_true, beq_iff_eq] at attempt
    -- An attempt that has not failed would hold the slot.
    have failed : stored.status = .error := by
      by_contra live
      have holds : stored.oneScheduledSlot = some (run.connectionSlug, slot) := by
        simp [SyncRun.oneScheduledSlot, live, attempt.1, attempt.2]
      have wants : run.oneScheduledSlot = some (run.connectionSlug, slot) := by
        simp [SyncRun.oneScheduledSlot, running, scheduled]
      have held := SyncRun.conflicts_oneScheduledSlot holds wants
      rw [free id stored there] at held
      exact absurd held (by simp)
    simp [failed]

/-- One transaction keeps the log coordinated. -/
theorem LogChange.coordinated {before after : Table SyncRun} (change : LogChange before after)
    (coordinated : Coordinated before) : Coordinated after := by
  cases change with
  | unchanged => exact coordinated
  | claimed run running free attemptsLeft =>
    refine ⟨coordinated.oneRunning.insert ?_, coordinated.oneScheduledSlot.insert ?_, ?_⟩
    · -- The statement found no row that shares a key with the claim.
      intro id stored slug there storedKey claimedKey
      have held := SyncRun.conflicts_oneRunning storedKey claimedKey
      rw [free id stored there] at held
      exact absurd held (by simp)
    · intro id stored slot there storedKey claimedKey
      have held := SyncRun.conflicts_oneScheduledSlot storedKey claimedKey
      rw [free id stored there] at held
      exact absurd held (by simp)
    · intro slug slot
      rw [Table.count_insert]
      split
      · -- One more attempt at the slot, of which one was left.
        rename_i attempt
        simp only [SyncRun.attempts, Bool.and_eq_true, beq_iff_eq] at attempt
        obtain ⟨rfl, scheduled⟩ := attempt
        rw [attempts_failed running scheduled free]
        exact attemptsLeft slot scheduled
      · exact coordinated.bounded slug slot
  | finished ending finish running finishes =>
    -- A run that ends releases its keys, and stays an attempt at its slot.
    refine ⟨?_, ?_, ?_⟩
    · exact coordinated.oneRunning.updateWhere_of_released fun id run slug _ holds =>
        (finishes.released (running id run holds)).1 slug
    · exact coordinated.oneScheduledSlot.updateWhere_of_released fun id run slot _ holds =>
        (finishes.released (running id run holds)).2 slot
    · intro slug slot
      rw [Table.count_updateWhere fun id run _ _ => by
        simp [SyncRun.attempts, finishes.slug, finishes.slot]]
      exact coordinated.bounded slug slot

/-- One transaction leaves every ended run as it is. -/
theorem LogChange.final {before after : Table SyncRun} (change : LogChange before after) {id : ℕ}
    {run : SyncRun} (stored : (id, run) ∈ before) (ended : run.status ≠ .running) :
    (id, run) ∈ after := by
  cases change with
  | unchanged => exact stored
  | claimed => exact Table.mem_insert.mpr (.inl stored)
  | finished ending finish running finishes =>
    refine Table.mem_updateWhere.mpr ⟨run, stored, ?_⟩
    rw [if_neg fun holds => ended (running id run holds)]

/-- The transactions on the coordination tables. -/
inductive CoordinationOp where
  | claimManual (slug startedAt : String)
  | claimScheduled (slug scheduledFor startedAt : String)
  | interruptStale (slug finishedAt cutoffStartedAt : String)
  | completeSuccess (runId : ℕ) (finishedAt : String) (completion : SyncCompletion)
  | completeError (runId : ℕ) (finishedAt errorMessage : String)
  | setControl (mode : OperationMode) (schedulerEnabled : Bool) (updatedAt : String)
  | enterReadOnly (updatedAt : String)
  | enableWrites (updatedAt : String)
  | setSchedulerEnabled (enabled : Bool) (updatedAt : String)

/-- The tables a transaction commits; a failed one commits nothing. -/
def CoordinationOp.apply (platform : Platform) (connected : String → Bool) (db : Operations) :
    CoordinationOp → OperationResult Operations
  | .claimManual slug startedAt =>
    (FinStream.claimManual platform connected slug startedAt db).map Prod.snd
  | .claimScheduled slug scheduledFor startedAt =>
    (FinStream.claimScheduled platform connected slug scheduledFor startedAt db).map Prod.snd
  | .interruptStale slug finishedAt cutoffStartedAt =>
    (FinStream.interruptStale platform slug finishedAt cutoffStartedAt db).map Prod.snd
  | .completeSuccess runId finishedAt completion =>
    (FinStream.completeSuccess platform runId finishedAt completion db).map Prod.snd
  | .completeError runId finishedAt errorMessage =>
    (FinStream.completeError platform runId finishedAt errorMessage db).map Prod.snd
  | .setControl mode schedulerEnabled updatedAt =>
    (FinStream.setControl platform mode schedulerEnabled updatedAt db).map Prod.snd
  | .enterReadOnly updatedAt => (FinStream.enterReadOnly platform updatedAt db).map Prod.snd
  | .enableWrites updatedAt => (FinStream.enableWrites platform updatedAt db).map Prod.snd
  | .setSchedulerEnabled enabled updatedAt =>
    (FinStream.setSchedulerEnabled platform enabled updatedAt db).map Prod.snd

/-- Every transaction changes the log in one of the few ways. -/
theorem CoordinationOp.apply_change {platform : Platform} {connected : String → Bool}
    {before after : Operations} {op : CoordinationOp}
    (done : op.apply platform connected before = .ok after) : LogChange before.log after.log := by
  have control : after.log = before.log → LogChange before.log after.log := fun same =>
    same ▸ .unchanged
  cases op <;> simp only [apply, map_eq_ok] at done <;>
    obtain ⟨⟨result, committed⟩, done, rfl⟩ := done
  case claimManual => exact (claimManual_claims done).change
  case claimScheduled => exact (claimScheduled_claims done).change
  case interruptStale => exact interruptStale_change done
  case completeSuccess => exact completeSuccess_change done
  case completeError => exact completeError_change done
  case setControl => exact control (setControl_log done)
  case enterReadOnly => exact control (setControl_log done)
  case enableWrites => exact control (setControl_log done)
  case setSchedulerEnabled => exact control (setSchedulerEnabled_log done)

/-- Every interleaving of the transactions, whatever connections are registered at each of them. -/
def coordination (platform : Platform) : System Operations ((String → Bool) × CoordinationOp) where
  init db := db.log = .empty
  step input before after := input.2.apply platform input.1 before = .ok after

/-- Nothing is running in a fresh log. -/
theorem Coordinated.empty : Coordinated (Table.empty : Table SyncRun) :=
  ⟨.empty _, .empty _, fun _ _ => Nat.zero_le _⟩

/-- The log is coordinated in every state. -/
theorem coordination_coordinated {platform : Platform} {db : Operations}
    (reached : (coordination platform).Reachable db) : Coordinated db.log := by
  refine reached.invariant (fun db => Coordinated db.log) ?_ ?_
  · rintro db fresh
    rw [show db.log = .empty from fresh]
    exact .empty
  · intro input before after _ coordinated taken
    exact (CoordinationOp.apply_change taken).coordinated coordinated

/-- An ended run is the same at the end of every run of the system. -/
theorem coordination_final {platform : Platform} {before after : Operations}
    {inputs : List ((String → Bool) × CoordinationOp)}
    (run : (coordination platform).Run before inputs after) {id : ℕ} {ended : SyncRun}
    (stored : (id, ended) ∈ before.log) (final : ended.status ≠ .running) :
    (id, ended) ∈ after.log := by
  induction run with
  | nil => exact stored
  | cons taken _ ih => exact ih ((CoordinationOp.apply_change taken).final stored final)

/-- The state a sequence of transactions commits when none of them fails. -/
def coordinateAll (platform : Platform) (connected : String → Bool) :
    List CoordinationOp → Operations → OperationResult Operations
  | [], db => pure db
  | op :: rest, db => op.apply platform connected db >>= coordinateAll platform connected rest

/-- Transactions one after the other are a run of the system. -/
theorem coordinateAll_run {platform : Platform} {connected : String → Bool}
    (ops : List CoordinationOp) {before after : Operations}
    (done : coordinateAll platform connected ops before = .ok after) :
    (coordination platform).Run before (ops.map (connected, ·)) after := by
  induction ops generalizing before with
  | nil =>
    obtain rfl : before = after := by simpa [coordinateAll] using done
    exact .nil before
  | cons op rest ih =>
    obtain ⟨middle, first, others⟩ := bind_eq_ok.mp done
    exact .cons first (ih others)

/-- A timestamp of one day, by its hour and minute. -/
def onTheDay (clock : String) : String := s!"2026-07-14T{clock}:00.000Z"

/-- Coordination tables that accept no writes yet. -/
def freshOperations : Operations where
  control := some { mode := .readOnly, schedulerEnabled := false, updatedAt := onTheDay "00:00" }
  log := .empty

/-- A slot is claimed, and its owner outlives its lease. -/
def interruptedOps : List CoordinationOp :=
  [.setControl .enabled true (onTheDay "08:00"),
    .claimScheduled "tmo" (onTheDay "09:00") (onTheDay "09:01"),
    .interruptStale "tmo" (onTheDay "09:20") (onTheDay "09:10")]

/-- The slot is claimed again, the owner succeeds, and a third delivery finds the slot covered. -/
def recoveredOps : List CoordinationOp :=
  [.claimScheduled "tmo" (onTheDay "09:00") (onTheDay "09:20"),
    .completeSuccess 2 (onTheDay "09:21") ⟨none, 3, 2, 1⟩,
    .claimScheduled "tmo" (onTheDay "09:00") (onTheDay "09:30")]

/-- The tables after the interruption. -/
def interruptedOperations : Operations :=
  ((coordinateAll plainPlatform (· == "tmo") interruptedOps freshOperations).toOption).getD
    freshOperations

/-- The tables after the recovery. -/
def recoveredOperations : Operations :=
  ((coordinateAll plainPlatform (· == "tmo") recoveredOps interruptedOperations).toOption).getD
    freshOperations

/-- In every interleaving, runs of a connection and of a slot exclude each other and then end. -/
theorem sync_runs_coordinated {platform : Platform} {before after : Operations}
    {inputs : List ((String → Bool) × CoordinationOp)}
    (reached : (coordination platform).Reachable before)
    (run : (coordination platform).Run before inputs after) :
    (∀ slug, (after.log.count fun _ run =>
      run.connectionSlug == slug && run.status == .running) ≤ 1) ∧
    (∀ slug slot, (after.log.count fun _ run => run.connectionSlug == slug &&
      run.scheduledFor == some slot && (run.status == .running || run.status == .success)) ≤ 1) ∧
    (∀ slug slot, (after.log.count fun _ run =>
      run.connectionSlug == slug && run.scheduledFor == some slot) ≤ maxScheduledAttempts) ∧
    ∀ id ended, (id, ended) ∈ before.log → ended.status = .success ∨ ended.status = .error →
      after.log.get? id = some ended := by
  -- Counting rows with a key is counting holders of the key, of which there is one at most.
  have coordinated := coordination_coordinated (run.reachable reached)
  refine ⟨fun slug => ?_, fun slug slot => ?_, coordinated.bounded, ?_⟩
  · have key : ∀ (_ : ℕ) (run : SyncRun),
        (run.connectionSlug == slug && run.status == .running) = true →
          run.oneRunning = some slug := by
      intro _ run holds
      simp only [Bool.and_eq_true, beq_iff_eq] at holds
      simp [SyncRun.oneRunning, holds]
    exact coordinated.oneRunning.count_le_one key
  · have key : ∀ (_ : ℕ) (run : SyncRun), (run.connectionSlug == slug &&
        run.scheduledFor == some slot &&
          (run.status == .running || run.status == .success)) = true →
            run.oneScheduledSlot = some (slug, slot) := by
      intro _ run holds
      simp only [Bool.and_eq_true, Bool.or_eq_true, beq_iff_eq] at holds
      obtain ⟨⟨sameSlug, sameSlot⟩, running | success⟩ := holds
      · simp [SyncRun.oneScheduledSlot, sameSlug, sameSlot, running]
      · simp [SyncRun.oneScheduledSlot, sameSlug, sameSlot, success]
    exact coordinated.oneScheduledSlot.count_le_one key
  · intro id ended stored final
    refine Table.get?_eq_some.mpr (coordination_final run stored ?_)
    rcases final with success | error <;> simp [*]

/-- A slot whose first owner was interrupted is attempted again, and its failure stays. -/
theorem sync_runs_coordinated_recovered :
    (recoveredOperations.log.count fun _ run =>
      run.connectionSlug == "tmo" && run.status == .running) ≤ 1 ∧
    (recoveredOperations.log.get? 1).map (·.status) = some .error ∧
    (recoveredOperations.log.get? 2).map (·.status) = some .success := by
  have interrupted : (coordination plainPlatform).Run freshOperations
      (interruptedOps.map ((· == "tmo"), ·)) interruptedOperations :=
    coordinateAll_run interruptedOps (eq_ok_getD (by decide +kernel) _)
  have recovered : (coordination plainPlatform).Run interruptedOperations
      (recoveredOps.map ((· == "tmo"), ·)) recoveredOperations :=
    coordinateAll_run recoveredOps (eq_ok_getD (by decide +kernel) _)
  obtain ⟨running, -, -, final⟩ :=
    sync_runs_coordinated (interrupted.reachable (.init rfl)) recovered
  -- The interrupted run is the first one, and it ended before the recovery.
  have first : ∃ ended, (1, ended) ∈ interruptedOperations.log ∧ ended.status = .error :=
    ⟨(SyncRun.claim "tmo" (onTheDay "09:00") (onTheDay "09:01")).fail (onTheDay "09:20")
      staleExecutionMessage, Table.get?_eq_some.mp (by decide +kernel), rfl⟩
  obtain ⟨ended, stored, error⟩ := first
  refine ⟨running "tmo", ?_, by decide +kernel⟩
  rw [final 1 ended stored (.inr error), Option.map_some, error]

end FinStream
