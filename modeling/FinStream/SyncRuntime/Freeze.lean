import FinStream.SyncRuntime.Publication
import FinStream.SyncRuntime.Service

/-! The read-only freeze: nothing is admitted under it, and what was admitted before may finish. -/

namespace FinStream

open Store

section ReadOnly

variable {platform : Platform} {db : Operations}

/-- While operations are read-only, no check of the mode passes. -/
theorem Operations.IsReadOnly.not_enabled (frozen : db.IsReadOnly)
    (condition : OperationControl → Bool) :
    db.control.any (fun control => control.mode == .enabled && condition control) = false := by
  obtain ⟨control, stored, mode⟩ := frozen
  simp [stored, mode]

/-- While operations are read-only, stale runs stay. -/
theorem interruptStale_readOnly {slug finishedAt cutoff : String}
    {result : List (ℕ × SyncRun) × Operations} (frozen : db.IsReadOnly) :
    interruptStale platform slug finishedAt cutoff db ≠ .ok result := by
  intro done
  simp only [interruptStale, bind_eq_ok] at done
  obtain ⟨_, -, _, -, _, -, control, checked, -⟩ := done
  rw [requireWritesEnabled_readOnly frozen] at checked
  cases checked

/-- While operations are read-only, no manual claim is made. -/
theorem claimManual_readOnly {connected : String → Bool} {slug startedAt : String}
    {result : ClaimOutcome × Operations} (frozen : db.IsReadOnly) :
    claimManual platform connected slug startedAt db ≠ .ok result := by
  intro done
  simp only [claimManual, bind_eq_ok] at done
  obtain ⟨_, -, _, -, inserted, claim, done⟩ := done
  split at done
  · -- A claim is inserted only while writes are enabled.
    obtain ⟨selected, -⟩ := insertClaim_some claim
    have enabled := frozen.not_enabled fun _ => true
    simp only [Bool.and_true] at enabled
    rw [enabled] at selected
    cases selected
  · -- A claim that was not inserted is classified after another check.
    rw [requireWritesEnabled_readOnly frozen] at done
    cases done

/-- While operations are read-only, no scheduled claim is made. -/
theorem claimScheduled_readOnly {connected : String → Bool} {slug scheduledFor startedAt : String}
    {result : ClaimOutcome × Operations} (frozen : db.IsReadOnly) :
    claimScheduled platform connected slug scheduledFor startedAt db ≠ .ok result := by
  intro done
  simp only [claimScheduled, bind_eq_ok] at done
  obtain ⟨_, -, _, -, _, -, inserted, claim, done⟩ := done
  split at done
  · obtain ⟨selected, -⟩ := insertClaim_some claim
    rw [frozen.not_enabled OperationControl.schedulerEnabled] at selected
    cases selected
  · rw [requireSchedulerEnabled_readOnly frozen] at done
    cases done

/-- While operations are read-only, no schedule is prepared. -/
theorem prepareSchedule_readOnly {slug updatedAt : String} {nextSlot : String → Option String}
    {before : Database} {result : Bool × Database} (frozen : before.operations.IsReadOnly) :
    prepareSchedule slug nextSlot updatedAt before ≠ .ok result := by
  intro done
  rw [prepareSchedule, requireSchedulerEnabled_readOnly frozen] at done
  cases done

end ReadOnly

/-- What every step of a sync leaves alone, and what it leaves alone while it owns no run. -/
structure Held (owner : Option ℕ) (before : Database) (outcome : WorkerOutcome) : Prop where
  /-- The control is an operator's. -/
  control : outcome.db.operations.control = before.operations.control
  /-- Without a run, read-only operations let nothing be committed or claimed. -/
  readOnly : owner = none → before.operations.IsReadOnly →
    outcome.db = before ∧ outcome.phase.runId = none

section Sync

variable {platform : Platform} {before : Database} {owner : Option ℕ}

/-- A step that commits nothing holds what it should, unless it takes a run. -/
theorem Held.quiet {phase : Phase} (owned : owner = none → phase.runId = none) :
    Held owner before (.quiet phase before) :=
  ⟨rfl, fun free _ => ⟨rfl, owned free⟩⟩

/-- A step of the owner of a run holds the control when it only ends the run. -/
theorem Held.ends {runId : ℕ} {status : SyncRunStatus} {outcome : WorkerOutcome}
    (ends : Ends runId status before.operations outcome.db.operations) :
    Held (some runId) before outcome := by
  obtain ⟨finish, -, -, same⟩ := ends.ended
  refine ⟨?_, fun free => nomatch free⟩
  rw [same]

/-- Interrupting and going on holds what it should. -/
theorem interruptThen_held {slug startedAt cutoff : String} {next : Phase} :
    Held none before (interruptThen platform slug startedAt cutoff next before) := by
  unfold interruptThen
  split
  · rename_i interrupted operations done
    refine ⟨?_, fun _ frozen => absurd done (interruptStale_readOnly frozen)⟩
    rcases interruptStale_ok done with rfl | rfl
    · rfl
    · rfl
  · exact .quiet fun _ => rfl

/-- Claiming holds what it should. -/
theorem claimThen_held {claim : OperationResult (ClaimOutcome × Operations)} {owner_ : ℕ → Phase}
    (claims : ∀ outcome operations, claim = .ok (outcome, operations) →
      Claims before.operations operations)
    (refused : before.operations.IsReadOnly → ∀ result, claim ≠ .ok result) :
    Held none before (claimThen claim owner_ before) := by
  have control : ∀ outcome operations, claim = .ok (outcome, operations) →
      operations.control = before.operations.control := by
    intro outcome operations done
    cases claims outcome operations done with
    | refused => rfl
    | added => rfl
  unfold claimThen
  split
  · exact ⟨control _ _ rfl, fun _ frozen => absurd rfl (refused frozen _)⟩
  · exact ⟨control _ _ rfl, fun _ frozen => absurd rfl (refused frozen _)⟩
  · exact .quiet fun _ => rfl

/-- While operations are read-only, no TMO run is claimed. -/
theorem claimTmo_readOnly {trigger : SyncTrigger} {startedAt : String}
    (frozen : before.operations.IsReadOnly) (result : ClaimOutcome × Operations) :
    claimTmo platform trigger startedAt before ≠ .ok result := by
  cases trigger with
  | manual => exact claimManual_readOnly frozen
  | scheduled slot => exact claimScheduled_readOnly frozen

/-- While operations are read-only, no Monarch run is claimed. -/
theorem claimMonarch_readOnly {scheduledFor : Option String} {startedAt : String}
    (frozen : before.operations.IsReadOnly) (result : ClaimOutcome × Operations) :
    claimMonarch platform scheduledFor startedAt before ≠ .ok result := by
  cases scheduledFor with
  | none => exact claimManual_readOnly frozen
  | some slot => exact claimScheduled_readOnly frozen

/-- Every step of a sync holds what it should. -/
theorem Phase.step_held {phase : Phase} {input : WorkerInput} {outcome : WorkerOutcome}
    (stepped : phase.step platform before input = some outcome) :
    Held phase.runId before outcome := by
  unfold Phase.step at stepped
  split at stepped
  case h_1 =>
    -- The start of a TMO run.
    cases stepped
    exact interruptThen_held
  case h_2 =>
    cases stepped
    exact claimThen_held (fun _ _ done => claimTmo_claims done) claimTmo_readOnly
  case h_3 =>
    -- The owner loads the connection.
    split at stepped
    · cases stepped
      exact .quiet fun free => nomatch free
    · cases stepped
      exact .quiet fun free => nomatch free
  case h_4 =>
    cases stepped
    exact .quiet fun free => nomatch free
  case h_5 =>
    split at stepped
    · split at stepped
      · -- The import committed with the success of the run.
        rename_i done
        cases stepped
        exact .ends (Tmo.finishSuccess_ok done).2
      · cases stepped
        exact .quiet fun free => nomatch free
    · cases stepped
  case h_6 =>
    split at stepped
    · rename_i done
      cases stepped
      exact .ends (Tmo.finishFailure_ok done).2
    · cases stepped
      exact .quiet fun free => nomatch free
  case h_7 =>
    cases stepped
    exact .quiet fun free => nomatch free
  case h_8 =>
    cases stepped
    exact .quiet fun free => nomatch free
  case h_9 =>
    split at stepped
    · rename_i done
      cases stepped
      exact .ends (Tmo.finishFailure_ok done).2
    · cases stepped
      exact .quiet fun _ => rfl
  case h_10 =>
    -- A Monarch refresh loads its connection before it claims.
    split at stepped
    · cases stepped
      refine .quiet fun _ => ?_
      split
      · rfl
      · rfl
    · cases stepped
      exact .quiet fun _ => rfl
  case h_11 =>
    cases stepped
    exact interruptThen_held
  case h_12 =>
    cases stepped
    exact claimThen_held (fun _ _ done => claimMonarch_claims done) claimMonarch_readOnly
  case h_13 =>
    cases stepped
    exact .quiet fun free => nomatch free
  case h_14 =>
    split at stepped
    · rename_i done
      cases stepped
      exact .ends (Monarch.finishSuccess_ok done).2
    · cases stepped
      exact .quiet fun free => nomatch free
  case h_15 =>
    split at stepped
    · rename_i done
      cases stepped
      exact .ends (Monarch.finishFailure_ok done).2
    · cases stepped
      exact .quiet fun _ => rfl
  case h_16 =>
    -- A crash stops the invocation wherever it was.
    cases stepped
    exact .quiet fun _ => rfl
  case h_17 => cases stepped

end Sync

section Control

variable {platform : Platform} {before : Operations}

/-- Setting the control stores the given mode. -/
theorem setControl_mode {mode : OperationMode} {schedulerEnabled : Bool} {updatedAt : String}
    {result : OperationControl × Operations}
    (done : setControl platform mode schedulerEnabled updatedAt before = .ok result) :
    ∃ control, result.2.control = some control ∧ control.mode = mode := by
  simp only [setControl, bind_eq_ok, pure_eq_ok] at done
  obtain ⟨_, -, _, -, _, -, _, -, rfl⟩ := done
  exact ⟨_, rfl, rfl⟩

/-- Entering read-only mode makes operations read-only. -/
theorem enterReadOnly_readOnly {updatedAt : String} {result : OperationControl × Operations}
    (done : enterReadOnly platform updatedAt before = .ok result) : result.2.IsReadOnly :=
  setControl_mode done

/-- Switching the scheduler keeps operations read-only. -/
theorem setSchedulerEnabled_readOnly {enabled : Bool} {updatedAt : String}
    {result : OperationControl × Operations} (frozen : before.IsReadOnly)
    (done : setSchedulerEnabled platform enabled updatedAt before = .ok result) :
    result.2.IsReadOnly := by
  obtain ⟨control, stored, mode⟩ := frozen
  simp only [setSchedulerEnabled, bind_eq_ok] at done
  obtain ⟨_, -, done⟩ := done
  split at done
  · rename_i switched found
    simp only [bind_eq_ok, pure_eq_ok] at done
    obtain ⟨_, -, rfl⟩ := done
    -- The row that is switched is the stored one, and its mode stays.
    obtain ⟨same, -⟩ := Option.filter_eq_some_iff.mp found
    obtain rfl : control = switched := Option.some.inj (stored.symm.trans same)
    exact ⟨_, rfl, mode⟩
  · -- Nothing was switched, so the change was refused.
    simp only [bind_eq_ok] at done
    obtain ⟨_, -, done⟩ := done
    split at done
    · cases done
    · cases done

/-- What a change commits when it succeeds holds of what it leaves, if it holds already. -/
theorem committed_holds {ε : Type} {change : Except ε (OperationControl × Operations)}
    (property : Operations → Prop) (holds : property before)
    (commits : ∀ result, change = .ok result → property result.2) :
    property ((change.toOption.map Prod.snd).getD before) := by
  cases change with
  | error => exact holds
  | ok result => exact commits result rfl

/-- A change of the control leaves the log alone. -/
theorem ControlChange.apply_log (change : ControlChange) :
    (change.apply platform before).log = before.log := by
  cases change <;> refine committed_holds (fun db => db.log = before.log) rfl fun result done => ?_
  case setControl => exact setControl_log done
  case enterReadOnly => exact setControl_log done
  case enableWrites => exact setControl_log done
  case setSchedulerEnabled => exact setSchedulerEnabled_log done

/-- A change that does not accept writes keeps operations read-only. -/
theorem ControlChange.apply_readOnly {change : ControlChange} (keeps : change.enables = false)
    (frozen : before.IsReadOnly) : (change.apply platform before).IsReadOnly := by
  cases change <;> refine committed_holds Operations.IsReadOnly frozen fun result done => ?_
  case setControl mode _ _ =>
    obtain ⟨control, stored, same⟩ := setControl_mode done
    refine ⟨control, stored, ?_⟩
    cases mode with
    | readOnly => exact same
    | enabled => cases keeps
  case enterReadOnly => exact enterReadOnly_readOnly done
  case enableWrites => cases keeps
  case setSchedulerEnabled => exact setSchedulerEnabled_readOnly frozen done

end Control

/-- What a step under the freeze can do. -/
structure FrozenStep (before : Service) (input : ServiceInput) (after : Service) : Prop where
  /-- Operations stay read-only. -/
  readOnly : after.db.operations.IsReadOnly
  /-- Nothing is admitted. -/
  admitted : ∀ index, (after.invocations index).admitted = true →
    (before.invocations index).admitted = true
  /-- Only what was admitted changes rows. -/
  rows : after.canonical ≠ before.canonical →
    ∃ index, input.index = some index ∧ (before.invocations index).admitted = true

section Steps

variable {platform : Inbox.MailPlatform} {before after : Service} {input : ServiceInput}

/-- A request that goes on without being admitted admits nothing. -/
theorem Service.withInvocation_admitted (state : Service) {index : ℕ} {invocation : Invocation}
    (free : invocation.admitted = true → (state.invocations index).admitted = true) (other : ℕ)
    (admitted : ((state.withInvocation index invocation).invocations other).admitted = true) :
    (state.invocations other).admitted = true := by
  unfold Service.withInvocation at admitted
  dsimp only at admitted
  split at admitted
  · rename_i same
    rw [same]
    exact free admitted
  · exact admitted

/-- A step of a sync under the freeze is one of a run claimed before, or changes nothing. -/
theorem Service.worked_frozen {index : ℕ} {holder : Phase → Invocation} {phase : Phase}
    {work : WorkerInput} {outcome : WorkerOutcome} (frozen : before.db.operations.IsReadOnly)
    (holds : ∀ phase, (holder phase).admitted = phase.runId.isSome)
    (stored : before.invocations index = holder phase)
    (stepped : phase.step platform.toPlatform before.db work = some outcome) :
    FrozenStep before (.sync index work) (before.worked index holder outcome) := by
  have held := phase.step_held stepped
  obtain ⟨control, read, mode⟩ := frozen
  have current : (before.invocations index).admitted = phase.runId.isSome := by
    rw [stored, holds]
  refine ⟨⟨control, held.control.trans read, mode⟩, ?_, ?_⟩
  · refine Service.withInvocation_admitted { before with db := outcome.db } fun goesOn => ?_
    rw [holds] at goesOn
    change (before.invocations index).admitted = true
    rw [current]
    -- Without a run before the step there is none after it.
    cases owner : phase.runId with
    | some runId => rfl
    | none => rw [(held.readOnly owner ⟨control, read, mode⟩).2] at goesOn; cases goesOn
  · intro changed
    refine ⟨index, rfl, ?_⟩
    rw [current]
    cases owner : phase.runId with
    | some runId => rfl
    | none =>
      have same := (held.readOnly owner ⟨control, read, mode⟩).1
      refine absurd ?_ changed
      simp only [Service.worked, Service.withInvocation, Service.canonical, same]

/-- A step that commits nothing and admits nothing is one the freeze allows. -/
theorem FrozenStep.quiet (frozen : before.db.operations.IsReadOnly) {index : ℕ}
    {invocation : Invocation}
    (free : invocation.admitted = true → (before.invocations index).admitted = true) :
    FrozenStep before input (before.withInvocation index invocation) :=
  ⟨frozen, before.withInvocation_admitted free, fun changed => absurd rfl changed⟩

/-- A step that does nothing is one the freeze allows. -/
theorem FrozenStep.refl (frozen : before.db.operations.IsReadOnly) :
    FrozenStep before input before :=
  ⟨frozen, fun _ admitted => admitted, fun changed => absurd rfl changed⟩

/-- Every step under the freeze is of one of the few kinds. -/
theorem Service.step_frozen (frozen : before.db.operations.IsReadOnly)
    (keeps : input.enables = false) (taken : before.step platform input = some after) :
    FrozenStep before input after := by
  cases input with
  | control change =>
    cases taken
    refine ⟨change.apply_readOnly keeps frozen, fun _ admitted => admitted, fun changed => ?_⟩
    -- The control is not one of the rows.
    refine absurd ?_ changed
    simp only [Service.canonical, Service.withOperations, change.apply_log]
  | request index method path route =>
    simp only [Service.step] at taken
    split at taken
    · split at taken
      · rename_i passed
        cases taken
        -- Only an exempt request passes the gate, and it is not admitted to writing.
        have exempt := enforce_readOnly frozen passed
        rw [exempt]
        exact .quiet frozen fun admitted => nomatch admitted
      · cases taken
        exact .refl frozen
    · cases taken
  | write index write =>
    simp only [Service.step] at taken
    split at taken
    · rename_i writing
      cases taken
      obtain ⟨control, stored, mode⟩ := frozen
      refine ⟨⟨control, stored, mode⟩, fun _ admitted => admitted, fun _ => ?_⟩
      exact ⟨index, rfl, by rw [writing]; rfl⟩
    · cases taken
  | sync index work =>
    simp only [Service.step] at taken
    split at taken
    · rename_i phase stored
      obtain ⟨outcome, stepped, rfl⟩ := Option.map_eq_some_iff.mp taken
      exact Service.worked_frozen frozen (fun _ => rfl) stored stepped
    · rename_i phase stored
      obtain ⟨outcome, stepped, rfl⟩ := Option.map_eq_some_iff.mp taken
      exact Service.worked_frozen frozen (fun _ => rfl) stored stepped
    · cases taken
  | prepare index slug nextSlot updatedAt =>
    simp only [Service.step] at taken
    split at taken
    · split at taken
      · rename_i prepared
        exact absurd prepared (prepareSchedule_readOnly frozen)
      · cases taken
        exact .quiet frozen fun admitted => nomatch admitted
    · cases taken
  | repair index slug finishedAt staleCutoff =>
    simp only [Service.step] at taken
    split at taken
    · split at taken
      · rename_i repaired
        exact absurd repaired (interruptStale_readOnly frozen)
      · cases taken
        exact .refl frozen
    · cases taken
  | answer index =>
    cases taken
    exact .quiet frozen fun admitted => nomatch admitted

end Steps

/-- What a run under the freeze can do. -/
structure FrozenRun (before after : Service) : Prop where
  /-- Operations stay read-only. -/
  readOnly : after.db.operations.IsReadOnly
  /-- Nothing is admitted. -/
  admitted : ∀ index, (after.invocations index).admitted = true →
    (before.invocations index).admitted = true

/-- A run under the freeze admits nothing. -/
theorem service_frozen {platform : Inbox.MailPlatform} {before after : Service}
    {inputs : List ServiceInput} (frozen : before.db.operations.IsReadOnly)
    (run : (service platform).Run before inputs after)
    (keeps : ∀ input ∈ inputs, input.enables = false) : FrozenRun before after := by
  induction run with
  | nil => exact ⟨frozen, fun _ admitted => admitted⟩
  | cons taken _ ih =>
    have first := Service.step_frozen frozen (keeps _ List.mem_cons_self) taken
    have rest := ih first.readOnly fun input member => keeps input (List.mem_cons_of_mem _ member)
    exact ⟨rest.readOnly, fun index admitted => first.admitted index (rest.admitted index admitted)⟩

/-- With nothing admitted, a run under the freeze changes no row. -/
theorem service_drained {platform : Inbox.MailPlatform} {before after : Service}
    {inputs : List ServiceInput} (frozen : before.db.operations.IsReadOnly)
    (run : (service platform).Run before inputs after)
    (keeps : ∀ input ∈ inputs, input.enables = false)
    (drained : ∀ index, (before.invocations index).admitted = false) :
    after.canonical = before.canonical := by
  induction run with
  | nil => rfl
  | cons taken _ ih =>
    -- The first step admits nothing, so what follows is still drained.
    have first := Service.step_frozen frozen (keeps _ List.mem_cons_self) taken
    have kept : ∀ index, _ := fun index => by
      have none_ := drained index
      exact Bool.eq_false_iff.mpr fun admitted => by
        rw [first.admitted index admitted] at none_
        cases none_
    have rest := ih first.readOnly (fun input member => keeps input (List.mem_cons_of_mem _ member))
      kept
    rw [rest]
    -- Only a request that was admitted before could have changed a row.
    by_contra changed
    obtain ⟨index, -, admitted⟩ := first.rows changed
    rw [drained index] at admitted
    cases admitted

/--
Once operations are read-only, rows are changed only by what was admitted before.

Nothing is admitted until writes are accepted again, and when nothing is admitted any more, no row
changes.
-/
theorem freeze_drains {platform : Inbox.MailPlatform} {before middle after : Service}
    {updatedAt : String} {control : OperationControl} {operations : Operations}
    {inputs : List ServiceInput} {input : ServiceInput}
    (entered : enterReadOnly platform.toPlatform updatedAt before.db.operations =
      .ok (control, operations))
    (run : (service platform).Run (before.withOperations operations) inputs middle)
    (keeps : ∀ input ∈ inputs, input.enables = false)
    (taken : (service platform).step input middle after) (keep : input.enables = false) :
    (∀ index, (middle.invocations index).admitted = true →
      (before.invocations index).admitted = true) ∧
    (after.canonical ≠ middle.canonical → ∃ index, input.index = some index ∧
      (middle.invocations index).admitted = true ∧ (before.invocations index).admitted = true) ∧
    ((∀ index, (middle.invocations index).admitted = false) → ∀ rest final,
      (service platform).Run middle rest final → (∀ input ∈ rest, input.enables = false) →
      final.canonical = middle.canonical) := by
  have frozen : (before.withOperations operations).db.operations.IsReadOnly :=
    enterReadOnly_readOnly entered
  -- Nothing is admitted from the freeze on, so whoever is admitted later was before it.
  have earlier := service_frozen frozen run keeps
  refine ⟨earlier.admitted, fun changed => ?_, fun drained rest final onward kept => ?_⟩
  · obtain ⟨index, same, admitted⟩ := (Service.step_frozen earlier.readOnly keep taken).rows changed
    exact ⟨index, same, admitted, earlier.admitted index admitted⟩
  · exact service_drained earlier.readOnly onward kept drained

/-- A service that has taken no request yet. -/
def idleService : Service where
  db := { domain := .registered, operations := freshOperations }
  inbox := .empty
  photos := .empty
  invocations _ := .idle

/-- A mutation passes the gate, and a sync claims its run. -/
def admittedInputs : List ServiceInput :=
  [.control (.enableWrites (onTheDay "08:00")),
    .request 0 .post "/api/accounts" .mutation,
    .request 1 .post "/sync/run" .sync,
    .sync 1 (.tmoInterrupt .manual (onTheDay "09:00") (onTheDay "08:54")),
    .sync 1 .tmoClaim]

/-- The mutation creates its account, and the capture of the sync fails. -/
def finishingInputs : List ServiceInput :=
  [.write 0 (.finance (.ensurePrimaryAccount (onTheDay "09:02"))), .answer 0,
    .sync 1 (.tmoCaptureFails .missingCredential)]

/-- The sync records its failure. -/
def recordingInput : ServiceInput :=
  .sync 1 (.tmoRecord (onTheDay "09:03") (onTheDay "09:03") true)

/-- The service with both requests admitted. -/
def admittedService : Service :=
  (System.play (Service.step Inbox.plainMail) admittedInputs idleService).getD idleService

/-- The control and the coordination tables after the freeze. -/
def freezing : OperationControl × Operations :=
  (enterReadOnly Inbox.plainMail.toPlatform (onTheDay "09:01")
    admittedService.db.operations).toOption.getD
      (⟨.enabled, false, onTheDay "09:01"⟩, freshOperations)

/-- The service when the freeze begins. -/
def frozenService : Service := admittedService.withOperations freezing.2

/-- The service after the mutation finished under the freeze. -/
def finishingService : Service :=
  (System.play (Service.step Inbox.plainMail) finishingInputs frozenService).getD idleService

/-- The service after both requests finished under the freeze. -/
def finishedService : Service :=
  (finishingService.step Inbox.plainMail recordingInput).getD idleService

/-- Inputs that can be taken are a run to the state they lead to. -/
theorem service_played {inputs : List ServiceInput} {before : Service}
    (taken : (System.play (Service.step Inbox.plainMail) inputs before).isSome = true) :
    (service Inbox.plainMail).Run before inputs
      ((System.play (Service.step Inbox.plainMail) inputs before).getD idleService) :=
  System.play_run (fun _ _ _ stepped => stepped) inputs (some_getD taken idleService)

/-- The freeze begins while both requests are at work. -/
theorem freezing_entered :
    enterReadOnly Inbox.plainMail.toPlatform (onTheDay "09:01") admittedService.db.operations =
      .ok (freezing.1, freezing.2) := by
  have entered : (enterReadOnly Inbox.plainMail.toPlatform (onTheDay "09:01")
      admittedService.db.operations).toOption.isSome = true := by decide +kernel
  exact eq_ok_getD entered (⟨.enabled, false, onTheDay "09:01"⟩, freshOperations)

/-- The mutation finishes under the freeze. -/
theorem finishing_run :
    (service Inbox.plainMail).Run frozenService finishingInputs finishingService :=
  service_played (by decide +kernel)

/-- A sync that claimed its run before the freeze is what records a failure under it. -/
theorem freeze_drains_recording : ∃ index, recordingInput.index = some index ∧
    (finishingService.invocations index).admitted = true ∧
    (admittedService.invocations index).admitted = true := by
  have taken : (service Inbox.plainMail).step recordingInput finishingService finishedService :=
    some_getD (by decide +kernel) _
  refine (freeze_drains freezing_entered finishing_run (by decide) taken rfl).2.1 fun same => ?_
  -- The run is over afterwards, and it was not before.
  have ended : finishedService.canonical.log.rows.map (·.2.status) = [.error] := by decide +kernel
  have running : finishingService.canonical.log.rows.map (·.2.status) = [.running] := by
    decide +kernel
  rw [same, running] at ended
  cases ended

/-- A mutation that passed the gate before the freeze changes rows under it. -/
theorem freeze_not_effective : ¬ ∀ (platform : Inbox.MailPlatform) (before after : Service)
    (updatedAt : String) (control : OperationControl) (operations : Operations)
    (inputs : List ServiceInput), (service platform).Reachable before →
    enterReadOnly platform.toPlatform updatedAt before.db.operations =
      .ok (control, operations) →
    (service platform).Run (before.withOperations operations) inputs after →
    (∀ input ∈ inputs, input.enables = false) →
    after.canonical = (before.withOperations operations).canonical := by
  intro claimed
  have admitted : (service Inbox.plainMail).Run idleService admittedInputs admittedService :=
    service_played (by decide +kernel)
  have reached : (service Inbox.plainMail).Reachable admittedService :=
    admitted.reachable (.init fun _ => rfl)
  have same := claimed _ _ _ _ _ _ _ reached freezing_entered finishing_run (by decide)
  -- The account that the mutation created was not there when the freeze began.
  have created : finishingService.canonical.domain.finance.accounts.rows.length = 1 := by
    decide +kernel
  have missing : (admittedService.withOperations
      freezing.2).canonical.domain.finance.accounts.rows.length = 0 := by decide +kernel
  rw [same, missing] at created
  cases created

end FinStream
