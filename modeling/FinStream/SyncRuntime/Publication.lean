import FinStream.Domain.PaymentProjection
import FinStream.SyncRuntime.Worker

/-! Publication of imports: fenced by the run that owns them, and atomic with its success. -/

namespace FinStream

open Store

/-- No row of the log turned into a success. -/
def NoNewSuccess (before after : Table SyncRun) : Prop :=
  ∀ id run, (id, run) ∈ after → run.status = .success → (id, run) ∈ before

/-- Everything one step of an invocation that works for a run can do. -/
inductive Effect (platform : Platform) (owner : Option ℕ) (before : Database) :
    Database → Option (ℕ × Import) → Prop
  /-- Nothing is committed. -/
  | nothing : Effect platform owner before before none
  /-- The import and the success of its run are committed together. -/
  | publishes (runId : ℕ) (import_ : Import) (after : Database) (owns : owner = some runId)
      (applied : import_.apply platform before.domain = some after.domain)
      (ends : Ends runId .success before.operations after.operations) :
      Effect platform owner before after (some (runId, import_))
  /-- The failure of the run is committed, and no imported data. -/
  | fails (runId : ℕ) (after : Database) (owns : owner = some runId)
      (imported : after.domain.imported = before.domain.imported)
      (ends : Ends runId .error before.operations after.operations) :
      Effect platform owner before after none
  /-- An invocation without a run claims one or interrupts stale ones. -/
  | coordinates (operations : Operations) (free : owner = none)
      (change : LogChange before.operations.log operations.log)
      (quiet : NoNewSuccess before.operations.log operations.log) :
      Effect platform owner before { before with operations } none

section Effects

variable {platform : Platform} {before : Database}

/-- A claim adds no success. -/
theorem Claims.quiet {before after : Operations} (claims : Claims before after) :
    NoNewSuccess before.log after.log := by
  intro id run stored success
  cases claims with
  | refused => exact stored
  | added claimed running free left_ =>
    rcases Table.mem_insert.mp stored with old | new
    · exact old
    · -- The new row is running.
      cases new
      rw [running] at success
      cases success

/-- An interruption adds no success. -/
theorem interruptStale_quiet {slug finishedAt cutoff : String}
    {interrupted : List (ℕ × SyncRun)} {before after : Operations}
    (done : interruptStale platform slug finishedAt cutoff before = .ok (interrupted, after)) :
    NoNewSuccess before.log after.log := by
  intro id run stored success
  rcases interruptStale_ok done with rfl | rfl
  · exact stored
  · obtain ⟨old, there, same⟩ := Table.mem_updateWhere.mp stored
    split at same
    · -- An interrupted row is a failure.
      rw [same] at success
      cases success
    · rw [same]
      exact there

/-- Interrupting and going on coordinates. -/
theorem interruptThen_effect {slug startedAt cutoff : String} {next : Phase} :
    Effect platform none before
      (interruptThen platform slug startedAt cutoff next before).db
      (interruptThen platform slug startedAt cutoff next before).published := by
  unfold interruptThen
  split
  · rename_i interrupted operations done
    exact .coordinates operations rfl (interruptStale_change done) (interruptStale_quiet done)
  · exact .nothing

/-- Claiming coordinates. -/
theorem claimThen_effect {claim : OperationResult (ClaimOutcome × Operations)}
    {owner : ℕ → Phase}
    (claims : ∀ outcome operations, claim = .ok (outcome, operations) →
      Claims before.operations operations) :
    Effect platform none before (claimThen claim owner before).db
      (claimThen claim owner before).published := by
  unfold claimThen
  split
  · rename_i run operations
    have claimed := claims _ _ rfl
    exact .coordinates operations rfl claimed.change claimed.quiet
  · rename_i outcome operations _
    have claimed := claims _ _ rfl
    exact .coordinates operations rfl claimed.change claimed.quiet
  · exact .nothing

/-- A TMO claim is a claim. -/
theorem claimTmo_claims {trigger : SyncTrigger} {startedAt : String} {outcome : ClaimOutcome}
    {operations : Operations}
    (done : claimTmo platform trigger startedAt before = .ok (outcome, operations)) :
    Claims before.operations operations := by
  cases trigger with
  | manual => exact claimManual_claims done
  | scheduled slot => exact claimScheduled_claims done

/-- A Monarch claim is a claim. -/
theorem claimMonarch_claims {scheduledFor : Option String} {startedAt : String}
    {outcome : ClaimOutcome} {operations : Operations}
    (done : claimMonarch platform scheduledFor startedAt before = .ok (outcome, operations)) :
    Claims before.operations operations := by
  cases scheduledFor with
  | none => exact claimManual_claims done
  | some slot => exact claimScheduled_claims done

/-- Every step of an invocation has one of the few effects. -/
theorem Phase.step_effect {phase : Phase} {input : WorkerInput} {outcome : WorkerOutcome}
    (stepped : phase.step platform before input = some outcome) :
    Effect platform phase.runId before outcome.db outcome.published := by
  unfold Phase.step at stepped
  split at stepped
  case h_1 => cases stepped; exact interruptThen_effect
  case h_2 => cases stepped; exact claimThen_effect fun _ _ done => claimTmo_claims done
  case h_3 => split at stepped <;> cases stepped <;> exact .nothing
  case h_4 => cases stepped; exact .nothing
  case h_5 =>
    split at stepped
    · split at stepped
      · -- The import committed with the success of the run.
        rename_i done
        cases stepped
        obtain ⟨applied, ends⟩ := Tmo.finishSuccess_ok done
        exact .publishes _ _ _ rfl applied ends
      · cases stepped; exact .nothing
    · cases stepped
  case h_6 =>
    split at stepped
    · rename_i done
      cases stepped
      obtain ⟨imported, ends⟩ := Tmo.finishFailure_ok done
      exact .fails _ _ rfl imported ends
    · cases stepped; exact .nothing
  case h_7 => cases stepped; exact .nothing
  case h_8 => cases stepped; exact .nothing
  case h_9 =>
    split at stepped
    · rename_i done
      cases stepped
      obtain ⟨imported, ends⟩ := Tmo.finishFailure_ok done
      exact .fails _ _ rfl imported ends
    · cases stepped; exact .nothing
  case h_10 => split at stepped <;> cases stepped <;> exact .nothing
  case h_11 => cases stepped; exact interruptThen_effect
  case h_12 => cases stepped; exact claimThen_effect fun _ _ done => claimMonarch_claims done
  case h_13 => cases stepped; exact .nothing
  case h_14 =>
    split at stepped
    · rename_i done
      cases stepped
      obtain ⟨applied, ends⟩ := Monarch.finishSuccess_ok done
      exact .publishes _ _ _ rfl applied ends
    · cases stepped; exact .nothing
  case h_15 =>
    split at stepped
    · rename_i done
      cases stepped
      obtain ⟨imported, ends⟩ := Monarch.finishFailure_ok done
      exact .fails _ _ rfl imported ends
    · cases stepped; exact .nothing
  case h_16 => cases stepped; exact .nothing
  case h_17 => cases stepped

end Effects

/-- The database, any number of invocations, and the imports published so far by their runs. -/
structure Runtime where
  db : Database
  workers : ℕ → Phase
  published : List (ℕ × Import)

/-- What can happen next: a step of an invocation, or a write of another part of the program. -/
inductive RuntimeInput where
  | worker (index : ℕ) (input : WorkerInput)
  | edit (op : FinanceOp)
  | register (connections : Table IntegrationConnection)
  | setControl (mode : OperationMode) (schedulerEnabled : Bool) (updatedAt : String)
  | setSchedulerEnabled (enabled : Bool) (updatedAt : String)

/-- The runtime after one step, if it can be taken. -/
def Runtime.step (platform : Platform) (state : Runtime) : RuntimeInput → Option Runtime
  | .worker index input =>
    ((state.workers index).step platform state.db input).map fun outcome =>
      { db := outcome.db
        workers := fun other => if other = index then outcome.phase else state.workers other
        published := state.published ++ outcome.published.toList }
  | .edit op =>
    ((DomainOp.finance op).commit platform state.db.domain).map fun domain =>
      { state with db := { state.db with domain } }
  | .register connections =>
    let integrations := { state.db.domain.integrations with connections }
    some { state with db := { state.db with domain := { state.db.domain with integrations } } }
  | .setControl mode schedulerEnabled updatedAt =>
    (setControl platform mode schedulerEnabled updatedAt state.db.operations).toOption.map
      fun result => { state with db := { state.db with operations := result.2 } }
  | .setSchedulerEnabled enabled updatedAt =>
    (setSchedulerEnabled platform enabled updatedAt state.db.operations).toOption.map
      fun result => { state with db := { state.db with operations := result.2 } }

/-- Every interleaving of any number of invocations with the other writers. -/
def syncRuntime (platform : Platform) : System Runtime RuntimeInput where
  init state := state.db.operations.log = .empty ∧ (∀ index, state.workers index = .idle) ∧
    state.published = []
  step input before after := before.step platform input = some after

/-- Whether a row of the log is stored with a status. -/
def HasStatus (log : Table SyncRun) (runId : ℕ) (status : SyncRunStatus) : Prop :=
  ∃ run, (runId, run) ∈ log ∧ run.status = status

/-- A run has one status. -/
theorem HasStatus.unique {log : Table SyncRun} {runId : ℕ} {left right : SyncRunStatus}
    (leftHas : HasStatus log runId left) (rightHas : HasStatus log runId right) : left = right := by
  obtain ⟨leftRun, leftStored, rfl⟩ := leftHas
  obtain ⟨rightRun, rightStored, rfl⟩ := rightHas
  rw [Table.unique leftStored rightStored]

/-- Ending a run gives it its final status. -/
theorem Ends.hasStatus {runId : ℕ} {status : SyncRunStatus} {before after : Operations}
    (ends : Ends runId status before after) :
    HasStatus before.log runId .running ∧ HasStatus after.log runId status := by
  obtain ⟨⟨run, stored, running⟩, finish, final, -, rfl⟩ := ends
  refine ⟨⟨run, stored, running⟩, finish run, Table.mem_updateWhere.mpr ⟨run, stored, ?_⟩, final _⟩
  simp [running]

/-- Ending a run changes the row of no other run. -/
theorem Ends.other {runId other : ℕ} {status : SyncRunStatus} {before after : Operations}
    (ends : Ends runId status before after) (different : other ≠ runId) {run : SyncRun} :
    (other, run) ∈ after.log ↔ (other, run) ∈ before.log := by
  obtain ⟨-, finish, -, -, rfl⟩ := ends
  rw [Table.mem_updateWhere]
  simp [different]

/-- Ending a run is one of the changes of the log. -/
theorem Ends.change {runId : ℕ} {status : SyncRunStatus} {before after : Operations}
    (ends : Ends runId status before after) : LogChange before.log after.log := by
  obtain ⟨-, finish, -, finishes, rfl⟩ := ends
  exact .ending _ _ finishes

/-- The effect of any step on the database, and what it adds to the published imports. -/
theorem Runtime.step_effect {platform : Platform} {before after : Runtime} {input : RuntimeInput}
    (taken : before.step platform input = some after) :
    (∃ index work published, input = .worker index work ∧
      Effect platform (before.workers index).runId before.db after.db published ∧
      after.published = before.published ++ published.toList) ∨
    ((∀ index work, input ≠ .worker index work) ∧ after.published = before.published ∧
      after.db.operations.log = before.db.operations.log ∧
      ((∀ op, input ≠ .edit op) → after.db.domain.imported = before.db.domain.imported)) := by
  -- Only workers write the log and publish; everything else leaves both alone.
  cases input with
  | worker index work =>
    obtain ⟨outcome, stepped, rfl⟩ := Option.map_eq_some_iff.mp taken
    exact .inl ⟨index, work, outcome.published, rfl, Phase.step_effect stepped, rfl⟩
  | edit op =>
    obtain ⟨domain, -, rfl⟩ := Option.map_eq_some_iff.mp taken
    exact .inr ⟨by simp, rfl, rfl, fun edited => absurd rfl (edited op)⟩
  | register connections =>
    cases taken
    exact .inr ⟨by simp, rfl, rfl, fun _ => rfl⟩
  | setControl mode schedulerEnabled updatedAt =>
    obtain ⟨result, done, rfl⟩ := Option.map_eq_some_iff.mp taken
    exact .inr ⟨by simp, rfl, setControl_log (toOption_eq_some.mp done), fun _ => rfl⟩
  | setSchedulerEnabled enabled updatedAt =>
    obtain ⟨result, done, rfl⟩ := Option.map_eq_some_iff.mp taken
    exact .inr ⟨by simp, rfl, setSchedulerEnabled_log (toOption_eq_some.mp done), fun _ => rfl⟩

/-- Runs publish at most once, and exactly those that succeeded have published. -/
structure PublishedOnce (state : Runtime) : Prop where
  /-- No run published twice. -/
  once : (state.published.map Prod.fst).Nodup
  /-- A run has published exactly when its row is a success. -/
  succeeded : ∀ runId, runId ∈ state.published.map Prod.fst ↔
    HasStatus state.db.operations.log runId .success

/-- A step that publishes nothing and adds no success keeps the account of the published runs. -/
theorem PublishedOnce.unchanged {before after : Runtime} (holds : PublishedOnce before)
    (published : after.published = before.published)
    (change : LogChange before.db.operations.log after.db.operations.log)
    (quiet : NoNewSuccess before.db.operations.log after.db.operations.log) :
    PublishedOnce after := by
  refine ⟨published ▸ holds.once, fun runId => ?_⟩
  rw [published, holds.succeeded]
  constructor
  · rintro ⟨run, stored, success⟩
    exact ⟨run, change.final stored (by simp [success]), success⟩
  · rintro ⟨run, stored, success⟩
    exact ⟨run, quiet runId run stored success, success⟩

/-- Failing a run adds no success. -/
theorem Ends.quiet {runId : ℕ} {before after : Operations}
    (ends : Ends runId .error before after) : NoNewSuccess before.log after.log := by
  intro id run stored success
  by_cases same : id = runId
  · -- The ended run is a failure.
    subst same
    have status := HasStatus.unique ⟨run, stored, success⟩ ends.hasStatus.2
    cases status
  · exact (ends.other same).mp stored

/-- One step keeps the account of the published runs. -/
theorem PublishedOnce.step {platform : Platform} {before after : Runtime} {input : RuntimeInput}
    (holds : PublishedOnce before) (taken : before.step platform input = some after) :
    PublishedOnce after := by
  rcases Runtime.step_effect taken with
    ⟨index, work, published, rfl, effect, listed⟩ | ⟨-, listed, log, -⟩
  · generalize (before.workers index).runId = owner at effect
    generalize now : after.db = db at effect
    cases effect with
    | nothing =>
      refine holds.unchanged (by simpa using listed) ?_ ?_ <;> rw [now]
      · exact .unchanged
      · exact fun _ _ stored _ => stored
    | coordinates operations free change quiet =>
      refine holds.unchanged (by simpa using listed) ?_ ?_ <;> rw [now]
      · exact change
      · exact quiet
    | fails runId _ owns imported ends =>
      refine holds.unchanged (by simpa using listed) ?_ ?_ <;> rw [now]
      · exact ends.change
      · exact ends.quiet
    | publishes runId import_ _ owns applied ends =>
      -- The run was running until now, so it has not published before.
      have fresh : runId ∉ before.published.map Prod.fst := fun already => by
        have status := ((holds.succeeded runId).mp already).unique ends.hasStatus.1
        cases status
      have ids : after.published.map Prod.fst = before.published.map Prod.fst ++ [runId] := by
        rw [listed]
        simp
      refine ⟨?_, fun other => ?_⟩
      · rw [ids]
        exact List.nodup_append.mpr ⟨holds.once, by simp, fun left leftIn right rightIn => by
          obtain rfl := List.mem_singleton.mp rightIn
          rintro rfl
          exact fresh leftIn⟩
      · rw [ids, List.mem_append, List.mem_singleton, now]
        by_cases same : other = runId
        · subst same
          exact iff_of_true (.inr rfl) ends.hasStatus.2
        · rw [holds.succeeded]
          simp [HasStatus, same, ends.other same]
  · refine holds.unchanged listed ?_ ?_ <;> rw [log]
    · exact .unchanged
    · exact fun _ _ stored _ => stored

/-- In every state, runs have published at most once and exactly when they succeeded. -/
theorem syncRuntime_publishedOnce {platform : Platform} {state : Runtime}
    (reached : (syncRuntime platform).Reachable state) : PublishedOnce state := by
  refine reached.invariant PublishedOnce ?_ ?_
  · rintro state ⟨fresh, -, none_⟩
    refine ⟨by simp [none_], fun runId => ?_⟩
    rw [none_, fresh]
    simp [HasStatus]
  · exact fun input before after _ holds taken => holds.step taken

/-- What a step does to the imported data and the runs of the log. -/
structure Fenced (platform : Platform) (input : RuntimeInput) (before after : Runtime) :
    Prop where
  /-- A run turns from running to success exactly in a step that publishes its import. -/
  visible_iff : ∀ runId, (HasStatus before.db.operations.log runId .running ∧
    HasStatus after.db.operations.log runId .success) ↔
      ∃ import_, after.published = before.published ++ [(runId, import_)]
  /-- The published import becomes visible in that step, on the data as it then is. -/
  together : ∀ runId import_, after.published = before.published ++ [(runId, import_)] →
    import_.apply platform before.db.domain = some after.db.domain
  /-- A step that publishes nothing changes no imported data, unless it is a user's edit. -/
  hidden : after.published = before.published → (∀ op, input ≠ .edit op) →
    after.db.domain.imported = before.db.domain.imported
  /-- An owner whose run is no longer running commits nothing at all. -/
  fenced : ∀ index work runId, input = .worker index work →
    (before.workers index).runId = some runId →
    ¬ HasStatus before.db.operations.log runId .running →
    after.db = before.db ∧ after.published = before.published

/-- Every step is fenced. -/
theorem Runtime.step_fenced {platform : Platform} {before after : Runtime} {input : RuntimeInput}
    (taken : before.step platform input = some after) : Fenced platform input before after := by
  -- A list is not itself with an element appended.
  have longer : ∀ entry, before.published ≠ before.published ++ [entry] := fun entry same => by
    simpa using congrArg List.length same
  -- Without new successes, no run turns from running to success.
  have none_ : after.published = before.published →
      NoNewSuccess before.db.operations.log after.db.operations.log → ∀ runId,
      (HasStatus before.db.operations.log runId .running ∧
        HasStatus after.db.operations.log runId .success) ↔
          ∃ import_, after.published = before.published ++ [(runId, import_)] := by
    intro listed quiet runId
    refine iff_of_false ?_ ?_
    · rintro ⟨running, run, stored, success⟩
      have status := running.unique ⟨run, quiet runId run stored success, success⟩
      cases status
    · rintro ⟨import_, appended⟩
      exact longer _ (listed.symm.trans appended)
  rcases Runtime.step_effect taken with
    ⟨index, work, published, rfl, effect, listed⟩ | ⟨other, listed, log, imported⟩
  · have owner : ∀ index' work' runId, RuntimeInput.worker index work = .worker index' work' →
        (before.workers index').runId = some runId →
          (before.workers index).runId = some runId := by
      intro index' work' runId same
      cases same
      exact id
    generalize (before.workers index).runId = holder at effect owner
    generalize now : after.db = db at effect
    cases effect with
    | nothing =>
      have listed : after.published = before.published := by simpa using listed
      refine ⟨none_ listed ?_, ?_, ?_, ?_⟩
      · rw [now]
        exact fun _ _ stored _ => stored
      · exact fun runId import_ appended => absurd (listed.symm.trans appended) (longer _)
      · exact fun _ _ => by rw [now]
      · exact fun _ _ _ _ _ _ => ⟨now, listed⟩
    | coordinates operations free change quiet =>
      have listed : after.published = before.published := by simpa using listed
      refine ⟨none_ listed ?_, ?_, ?_, ?_⟩
      · rw [now]
        exact quiet
      · exact fun runId import_ appended => absurd (listed.symm.trans appended) (longer _)
      · exact fun _ _ => by rw [now]
      · -- Only an invocation without a run coordinates.
        intro index' work' runId same has _
        have held := owner index' work' runId same has
        rw [free] at held
        cases held
    | fails runId _ owns imported ends =>
      have listed : after.published = before.published := by simpa using listed
      refine ⟨none_ listed ?_, ?_, ?_, ?_⟩
      · rw [now]
        exact ends.quiet
      · exact fun other import_ appended => absurd (listed.symm.trans appended) (longer _)
      · exact fun _ _ => by rw [now, imported]
      · -- The run whose failure is recorded is running.
        intro index' work' other same has ended
        have held := owner index' work' other same has
        rw [owns] at held
        cases held
        exact absurd ends.hasStatus.1 ended
    | publishes runId import_ _ owns applied ends =>
      have listed : after.published = before.published ++ [(runId, import_)] := listed
      refine ⟨fun other => ⟨?_, ?_⟩, ?_, ?_, ?_⟩
      · -- Only the row of the publishing run changes.
        rintro ⟨running, run, stored, success⟩
        by_cases same : other = runId
        · exact ⟨import_, same ▸ listed⟩
        · rw [now] at stored
          have status := running.unique ⟨run, (ends.other same).mp stored, success⟩
          cases status
      · rintro ⟨other', appended⟩
        have same := List.append_cancel_left (listed.symm.trans appended)
        cases same
        rw [now]
        exact ends.hasStatus
      · intro other import_' appended
        have same := List.append_cancel_left (listed.symm.trans appended)
        cases same
        rw [now]
        exact applied
      · exact fun same => absurd (same.symm.trans listed) (longer _)
      · intro index' work' other same has ended
        have held := owner index' work' other same has
        rw [owns] at held
        cases held
        exact absurd ends.hasStatus.1 ended
  · refine ⟨none_ listed ?_, ?_, fun _ => imported, ?_⟩
    · rw [log]
      exact fun _ _ stored _ => stored
    · exact fun runId import_ appended => absurd (listed.symm.trans appended) (longer _)
    · exact fun index work runId same => absurd same (other index work)

/-- A deployment in which nothing has run yet. -/
def freshRuntime : Runtime where
  db := { domain := .registered, operations := freshOperations }
  workers _ := .idle
  published := []

/-- An operator enables writes, a stream for payments is saved, and an invocation claims a run. -/
def claimedInputs : List RuntimeInput :=
  [.setControl .enabled false (onTheDay "08:00"),
    .edit (.saveStream "2026-01-07T00:00:00Z" trustDeedsStream twoWeeks),
    .worker 0 (.tmoInterrupt .manual (onTheDay "09:00") (onTheDay "08:54")),
    .worker 0 .tmoClaim, .worker 0 .tmoLoad]

/-- The deployment with the claimed run. -/
def claimedRuntime : Runtime :=
  (System.play (Runtime.step plainPlatform) claimedInputs freshRuntime).getD freshRuntime

/-- The owner finishes its run. -/
def publishInput : RuntimeInput := .worker 0 (.tmoFinish onePayment (onTheDay "09:01") true)

/-- The deployment with the imported payment. -/
def publishedRuntime : Runtime :=
  (claimedRuntime.step plainPlatform publishInput).getD freshRuntime

/-- In every interleaving, imports are published atomically, by their live owner, at most once. -/
theorem sync_publication_fenced {platform : Platform} {before after : Runtime}
    {input : RuntimeInput} (reached : (syncRuntime platform).Reachable before)
    (taken : (syncRuntime platform).step input before after) :
    Fenced platform input before after ∧ PublishedOnce after :=
  ⟨Runtime.step_fenced taken, syncRuntime_publishedOnce (reached.step taken)⟩

/-- A live owner publishes its import with its success. -/
theorem sync_publication_fenced_published :
    HasStatus publishedRuntime.db.operations.log 1 .success ∧
      (Import.tmo onePayment).apply plainPlatform claimedRuntime.db.domain =
        some publishedRuntime.db.domain ∧ (publishedRuntime.published.map Prod.fst).Nodup := by
  have played : System.play (Runtime.step plainPlatform) claimedInputs freshRuntime =
      some claimedRuntime := some_getD (by decide +kernel) _
  have claimed : (syncRuntime plainPlatform).Reachable claimedRuntime :=
    (System.play_run (fun _ _ _ => id) _ played).reachable
      (.init ⟨rfl, fun _ => rfl, rfl⟩)
  have taken : claimedRuntime.step plainPlatform publishInput = some publishedRuntime :=
    some_getD (by decide +kernel) _
  obtain ⟨fenced, once⟩ := sync_publication_fenced claimed taken
  have listed :
      publishedRuntime.published = claimedRuntime.published ++ [(1, .tmo onePayment)] := by
    decide +kernel
  exact ⟨((fenced.visible_iff 1).mpr ⟨_, listed⟩).2, fenced.together 1 _ listed, once.once⟩

end FinStream
