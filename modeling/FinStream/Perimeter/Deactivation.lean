import FinStream.Perimeter.Access

/-! Deactivation: how long a process may still let the requests of a deactivated user through. -/

namespace FinStream.Perimeter

open Store

/-- A request goes on as one of a user. -/
def Stage.Under (stage : Stage) (user : ℤ) : Prop :=
  stage = .gating (.user user) ∨ stage = .handling (.user user)

/-- An input leaves a user inactive. -/
def FrontInput.KeepsInactive (user : ℤ) : FrontInput → Prop
  | .setUsers users => (users.any fun row => row.id == user && row.isActive) = false
  | _ => True

/-- What a step of a request does, as far as a user is concerned. -/
structure Moved (front : Front) (index : ℕ) (pending : Pending) (user : ℤ) (after : Front)
    (stage : Stage) : Prop where
  requests : after.requests = front.requests.set index { pending with stage }
  users : after.users = front.users
  clocks : ∀ process, (after.processes process).clock = (front.processes process).clock
  /-- A process keeps a user's name only when a lookup saw the user active. -/
  caches : ∀ process at_, (after.processes process).activeUsers user = some at_ →
    (front.processes process).activeUsers user = some at_ ∨
      pending.stage = .looked user true ∧ at_ = (front.processes process).clock
  /-- Only the row of the user says that the user is active. -/
  looked : stage = .looked user true → front.isActive user = true
  /-- A request goes on as the user's only after the cache or a lookup said so. -/
  under : stage.Under user → pending.stage.Under user ∨ pending.stage = .looked user true ∨
    (front.processes pending.process).sawActive user = true

section Moves

variable {config : Config} {front after : Front} {index : ℕ} {pending : Pending}

/-- Moving a request to a stage that is not the user's is nothing to the user. -/
theorem Moved.elsewhere {user : ℤ} {stage : Stage} (looked : stage ≠ .looked user true)
    (under : ¬ stage.Under user) :
    Moved front index pending user (front.withStage index pending stage) stage where
  requests := rfl
  users := rfl
  clocks _ := rfl
  caches _ _ := Or.inl
  looked same := absurd same looked
  under holds := absurd holds under

/-- An answered request is nothing to a user. -/
theorem Moved.answered (user : ℤ) (response : Response) :
    Moved front index pending user (front.withStage index pending (.answered response))
      (.answered response) := by
  refine .elsewhere ?_ ?_
  · rintro ⟨⟩
  · rintro (same | same) <;> cases same

/-- Every step of a request moves it. -/
theorem advance_moved {input : FrontInput} (user : ℤ)
    (taken : front.advance config index pending input = some after) :
    ∃ stage, Moved front index pending user after stage := by
  unfold Front.advance at taken
  split at taken
  · -- The session is loaded; only the cache lets the request go on at once.
    rename_i loaded
    split at taken
    · cases taken
      refine ⟨_, rfl, rfl, fun _ => rfl, fun _ _ => Or.inl, fun same => ?_, fun holds => ?_⟩
      · rcases loaded with _ | _ | other
        · cases same
        · cases same
        · simp only [Process.authorize] at same
          split at same <;> cases same
      · rcases loaded with _ | _ | other
        · rcases holds with same | same <;> cases same
        · rcases holds with same | same <;> cases same
        · simp only [Process.authorize] at holds
          split at holds
          · rename_i recent
            rcases holds with same | same
            · cases same
              exact Or.inr (Or.inr recent)
            · cases same
          · rcases holds with same | same <;> cases same
    · cases taken
  · -- The row of the user is read.
    rename_i answered
    split at taken
    · rename_i other at_
      cases taken
      cases answered with
      | false => exact ⟨_, .answered user _⟩
      | true =>
        refine ⟨_, rfl, rfl, fun _ => rfl, fun _ _ => Or.inl, fun same => ?_, fun holds => ?_⟩
        · obtain ⟨rfl, active⟩ := Stage.looked.inj same
          exact active
        · rcases holds with same | same <;> cases same
    · cases taken
  · -- The process keeps what the row said.
    split at taken
    · rename_i other active at_
      cases taken
      refine ⟨_, rfl, rfl, fun process => ?_, fun process moment kept => ?_, fun same => ?_,
        fun holds => ?_⟩
      · by_cases same : process = pending.process
        · subst same
          simp [Front.withStage, Front.withProcess, Process.keep]
        · simp [Front.withStage, Front.withProcess, Function.update_of_ne same]
      · simp only [Front.withStage, Front.withProcess] at kept
        by_cases same : process = pending.process
        · subst same
          rw [Function.update_self] at kept
          by_cases named : user = other
          · subst named
            cases active with
            | false => simp [Process.keep] at kept
            | true => exact Or.inr ⟨at_, by simpa [Process.keep] using kept.symm⟩
          · exact Or.inl (by simpa [Process.keep, Function.update_of_ne named] using kept)
        · rw [Function.update_of_ne same] at kept
          exact Or.inl kept
      · cases active <;> cases same
      · cases active with
        | false => rcases holds with same | same <;> cases same
        | true =>
          rcases holds with same | same
          · cases same
            exact Or.inr (Or.inl at_)
          · cases same
    · cases taken
  · split at taken
    · cases taken
      exact ⟨_, .answered user _⟩
    · cases taken
  · -- The gate keeps the standing of a request.
    rename_i connected
    split at taken
    · rename_i standing at_
      cases taken
      refine ⟨_, rfl, rfl, fun _ => rfl, fun _ _ => Or.inl, fun same => ?_, fun holds => ?_⟩
      · unfold gateStage at same
        split at same <;> cases same
      · unfold gateStage at holds
        split at holds
        · rcases holds with same | same
          · cases same
          · cases same
            exact Or.inl (Or.inl at_)
        · rcases holds with same | same <;> cases same
    · cases taken
  · -- A login goes on without a standing.
    split at taken
    · split at taken
      · cases taken
        unfold loginStage
        split
        · refine ⟨_, .elsewhere ?_ ?_⟩
          · rintro ⟨⟩
          · rintro (same | same) <;> cases same
        · exact ⟨_, .answered user _⟩
      · cases taken
    · cases taken
  · split at taken
    · split at taken
      · cases taken
        refine ⟨.answered (redirectTo "/"), rfl, rfl, fun _ => rfl, fun _ _ => Or.inl, ?_, ?_⟩
        · rintro ⟨⟩
        · rintro (same | same) <;> cases same
      · cases taken
        exact ⟨_, .answered user _⟩
    · cases taken
  · split at taken
    · cases taken
      exact ⟨_, .answered user _⟩
    · cases taken
  · cases taken
    refine ⟨_, .elsewhere ?_ ?_⟩
    · rintro ⟨⟩
    · rintro (same | same) <;> cases same
  · cases taken

end Moves

/-- A process never keeps a name ahead of its clock. -/
def Front.Past (front : Front) (user : ℤ) : Prop :=
  ∀ process at_, (front.processes process).activeUsers user = some at_ →
    at_ ≤ (front.processes process).clock

/-- What holds from the deactivation of a user on. -/
structure Deactivated (start front : Front) (user : ℤ) : Prop where
  inactive : front.isActive user = false
  /-- No lookup that saw the user active is still to be kept. -/
  settled : ∀ pending ∈ front.requests, pending.stage ≠ .looked user true
  /-- Clocks go forward. -/
  clocks : ∀ process, (start.processes process).clock ≤ (front.processes process).clock
  /-- A name is kept from before the deactivation. -/
  caches : ∀ process at_, (front.processes process).activeUsers user = some at_ →
    at_ ≤ (start.processes process).clock

/-- A process that waited long enough goes on with the user's requests that it had let through. -/
structure Waited (start middle front : Front) (user : ℤ) (process : ℕ) : Prop where
  deactivated : Deactivated start front user
  expired : (start.processes process).clock + activeUserCacheTtl < (front.processes process).clock
  under : ∀ (index : ℕ) (pending : Pending), front.requests[index]? = some pending →
    pending.process = process → pending.stage.Under user → ∃ earlier : Pending, middle.requests[index]? = some earlier ∧
      earlier.stage.Under user

section Runs

variable {config : Config} {start middle front after : Front} {user : ℤ} {process : ℕ}

/-- A clock that goes on leaves the names a process keeps. -/
theorem tick_activeUsers (front : Front) (ticking elapsed : ℕ) (process : ℕ) :
    ((front.withProcess ticking { front.processes ticking with
      clock := (front.processes ticking).clock + elapsed }).processes process).activeUsers =
        (front.processes process).activeUsers ∧
    (front.processes process).clock ≤ ((front.withProcess ticking { front.processes ticking with
      clock := (front.processes ticking).clock + elapsed }).processes process).clock := by
  by_cases same : process = ticking
  · subst same
    simp [Front.withProcess]
  · simp [Front.withProcess, Function.update_of_ne same]

/-- A request that arrives is not in the middle of a lookup, nor does it go on as a user's. -/
theorem arrival_new (request : Request) (now : OffsetDateTime) (user : ℤ) :
    arrival config request now ≠ .looked user true ∧
      ¬ (arrival config request now).Under user := by
  have standing : ∀ verified decided, requireAuth config request verified = .ok (some decided) →
      decided ≠ .user user := by
    intro verified decided passed
    -- Before a session is loaded, nobody is known by name.
    unfold requireAuth at passed
    split at passed
    · simp only [bind_eq_ok, ensure_eq_ok, pure_eq_ok, Option.some.injEq] at passed
      obtain ⟨_, -, rfl⟩ := passed
      rintro ⟨⟩
    · split at passed
      · simp only [bind_eq_ok, ensure_eq_ok, pure_eq_ok, Option.some.injEq] at passed
        obtain ⟨_, -, _, -, rfl⟩ := passed
        rintro ⟨⟩
      · obtain ⟨_, -, passed⟩ := bind_eq_ok.mp passed
        split at passed
        · obtain rfl := Option.some.inj (pure_eq_ok.mp passed)
          rintro ⟨⟩
        · cases pure_eq_ok.mp passed
  unfold arrival
  split
  · rename_i decided passed
    obtain ⟨verified, -, passed⟩ := bind_eq_ok.mp passed
    refine ⟨by rintro ⟨⟩, ?_⟩
    rintro (same | same)
    · cases same
      exact standing verified _ passed rfl
    · cases same
  · refine ⟨by rintro ⟨⟩, ?_⟩
    rintro (same | same) <;> cases same
  · refine ⟨by rintro ⟨⟩, ?_⟩
    rintro (same | same) <;> cases same

/-- No process keeps a name ahead of its clock. -/
theorem reachable_past (reached : (fronts config).Reachable front) : front.Past user := by
  refine reached.invariant (·.Past user) (fun front initial process at_ kept => ?_)
    fun input before after _ past taken => ?_
  · rw [initial.1] at kept
    cases kept
  · change before.step config input = some after at taken
    unfold Front.step at taken
    split at taken
    · rename_i ticking elapsed
      cases taken
      intro process at_ kept
      obtain ⟨names, later⟩ := tick_activeUsers before ticking elapsed process
      rw [names] at kept
      exact (past process at_ kept).trans later
    · cases taken
      exact past
    · cases taken
      exact past
    · cases taken
      exact past
    · simp only [Option.bind_eq_bind, Option.bind_eq_some_iff] at taken
      obtain ⟨index, -, pending, there, moved⟩ := taken
      obtain ⟨stage, moves⟩ := advance_moved user moved
      intro process at_ kept
      rw [moves.clocks]
      rcases moves.caches process at_ kept with old | ⟨-, new⟩
      · exact past process at_ old
      · exact new.le

/-- A step that does not activate the user keeps the user out. -/
theorem Deactivated.step (deactivated : Deactivated start front user) {input : FrontInput}
    (keeps : input.KeepsInactive user) (taken : front.step config input = some after) :
    Deactivated start after user := by
  obtain ⟨inactive, settled, clocks, caches⟩ := deactivated
  unfold Front.step at taken
  split at taken
  · rename_i ticking elapsed
    cases taken
    refine ⟨inactive, settled, fun process => ?_, fun process at_ kept => ?_⟩
    · exact (clocks process).trans (tick_activeUsers front ticking elapsed process).2
    · rw [(tick_activeUsers front ticking elapsed process).1] at kept
      exact caches process at_ kept
  · cases taken
    exact ⟨keeps, settled, clocks, caches⟩
  · cases taken
    exact ⟨inactive, settled, clocks, caches⟩
  · -- A request that arrives is not in the middle of a lookup.
    cases taken
    refine ⟨inactive, fun pending member => ?_, clocks, caches⟩
    rcases List.mem_append.mp member with old | new
    · exact settled pending old
    · obtain rfl := List.mem_singleton.mp new
      exact (arrival_new _ _ user).1
  · simp only [Option.bind_eq_bind, Option.bind_eq_some_iff] at taken
    obtain ⟨index, -, pending, there, moved⟩ := taken
    obtain ⟨stage, moves⟩ := advance_moved user moved
    have waiting := settled pending (List.mem_of_getElem? there)
    refine ⟨?_, fun other member => ?_, fun process => ?_, fun process at_ kept => ?_⟩
    · unfold Front.isActive at inactive ⊢
      rwa [moves.users]
    · rw [moves.requests] at member
      rcases List.mem_or_eq_of_mem_set member with old | rfl
      · exact settled other old
      · -- A lookup reads the row of an inactive user.
        intro same
        rw [moves.looked same] at inactive
        cases inactive
    · rw [moves.clocks]
      exact clocks process
    · rcases moves.caches process at_ kept with old | ⟨seen, -⟩
      · exact caches process at_ old
      · exact absurd seen waiting

/-- A process that waited long enough finds no name of the user that it still uses. -/
theorem Waited.not_sawActive (waited : Waited start middle front user process) :
    (front.processes process).sawActive user = false := by
  rw [Process.sawActive, Option.any_eq_false]
  intro at_ kept
  have old := waited.deactivated.caches process at_ kept
  have expired := waited.expired
  simp only [decide_eq_false_iff_not, not_le]
  omega

/-- A process that waited long enough lets no more of the user's requests through. -/
theorem Waited.step (waited : Waited start middle front user process) {input : FrontInput}
    (keeps : input.KeepsInactive user) (taken : front.step config input = some after) :
    Waited start middle after user process := by
  have deactivated := waited.deactivated.step keeps taken
  have silent := waited.not_sawActive
  obtain ⟨before, expired, under⟩ := waited
  unfold Front.step at taken
  split at taken
  · rename_i ticking elapsed
    cases taken
    exact ⟨deactivated, expired.trans_le (tick_activeUsers front ticking elapsed process).2, under⟩
  · cases taken
    exact ⟨deactivated, expired, under⟩
  · cases taken
    exact ⟨deactivated, expired, under⟩
  · -- A request that arrives does not go on as the user's.
    cases taken
    refine ⟨deactivated, expired, fun index pending there on holds => ?_⟩
    by_cases old : index < front.requests.length
    · exact under index pending (by rwa [List.getElem?_append_left old] at there) on holds
    · rw [List.getElem?_append_right (by omega)] at there
      obtain rfl := List.mem_singleton.mp (List.mem_of_getElem? there)
      exact absurd holds (arrival_new _ _ user).2
  · simp only [Option.bind_eq_bind, Option.bind_eq_some_iff] at taken
    obtain ⟨index, -, pending, there, moved⟩ := taken
    obtain ⟨stage, moves⟩ := advance_moved user moved
    refine ⟨deactivated, ?_, fun other changed at_ on holds => ?_⟩
    · rw [moves.clocks]
      exact expired
    · rw [moves.requests] at at_
      by_cases same : index = other
      · -- The request that moved was let through before, or it still waits.
        subst same
        rw [List.getElem?_set_self (List.getElem?_eq_some_iff.mp there).1] at at_
        obtain rfl := Option.some.inj at_
        rcases moves.under holds with earlier | seen | recent
        · exact under index pending there on earlier
        · exact absurd seen (before.settled pending (List.mem_of_getElem? there))
        · have on : pending.process = process := on
          rw [on, silent] at recent
          cases recent
      · rw [List.getElem?_set_ne same] at at_
        exact under other changed at_ on holds

end Runs

/--
A deactivated user is locked out of every process half a minute later.

When the user is inactive, and no lookup that saw the user active is still to be kept, then a process
whose clock has since gone on by more than half a minute lets no further request of the user through,
however the requests on all processes interleave, until someone activates the user again.
-/
theorem deactivated_lockedOut {config : Config} {start middle later : Front} {user : ℤ}
    {process : ℕ} {waiting inputs : List FrontInput} (reached : (fronts config).Reachable start)
    (inactive : start.isActive user = false)
    (settled : ∀ pending ∈ start.requests, pending.stage ≠ .looked user true)
    (wait : (fronts config).Run start waiting middle)
    (run : (fronts config).Run middle inputs later)
    (kept : ∀ input ∈ waiting ++ inputs, input.KeepsInactive user)
    (expired : (start.processes process).clock + activeUserCacheTtl <
      (middle.processes process).clock)
    {index : ℕ} {pending : Pending} (there : later.requests[index]? = some pending)
    (on : pending.process = process) (through : pending.stage.Under user) :
    ∃ earlier, middle.requests[index]? = some earlier ∧ earlier.stage.Under user := by
  -- Names that processes keep are from before the deactivation.
  have fresh : Deactivated start start user :=
    ⟨inactive, settled, fun _ => le_rfl, reachable_past reached⟩
  have waited : Deactivated start middle user := wait.preserves reached (Deactivated start · user)
    (·.KeepsInactive user) (fun _ _ _ _ keeps earlier taken => earlier.step keeps taken)
    (fun input member => kept input (List.mem_append_left _ member)) fresh
  have last : Waited start middle later user process := run.preserves (wait.reachable reached)
    (Waited start middle · user process) (·.KeepsInactive user)
    (fun _ _ _ _ keeps earlier taken => earlier.step keeps taken)
    (fun input member => kept input (List.mem_append_right _ member))
    ⟨waited, expired, fun index pending there _ holds => ⟨pending, there, holds⟩⟩
  exact last.under index pending there on through

/-- The household's user, deactivated. -/
def formerUser : AppUser := { householdUser with isActive := false }

/-- The household is deactivated, and its process goes on for a second longer than it may. -/
def waitingInputs : List FrontInput := [.setUsers [formerUser], .tick 1 31000000000]

/-- The household tries to add another stream. -/
def lateInputs : List FrontInput :=
  [.arrive 1 ⟨.post, "/api/streams", siteHeaders, []⟩ (some 7) householdNow,
    .load 2 (.found (some 1)), .look 2 true, .keep 2]

/-- The household's late request does not go on as the household's. -/
theorem deactivated_lockedOut_household : ∃ later pending,
    (fronts householdConfig).Reachable later ∧ later.requests[2]? = some pending ∧
      ¬ pending.stage.Under 1 := by
  have reached : ((System.play (Front.step householdConfig)
      (householdInputs ++ [.setUsers [formerUser]])
      (freshFront [householdUser] ⟨some ⟨.enabled, false, ""⟩, .empty⟩)).bind fun start =>
        (System.play (Front.step householdConfig) waitingInputs start).bind fun middle =>
          (System.play (Front.step householdConfig) lateInputs middle).bind fun later =>
            later.requests[2]?.map fun pending => (start.isActive 1,
              start.requests.map fun pending => pending.stage,
              decide ((start.processes 1).clock + activeUserCacheTtl < (middle.processes 1).clock),
              middle.requests.length, pending.process)) =
      some (false, [.answered (redirectTo "/"), .handling (.user 1)], true, 2, 1) := by
    decide +kernel
  obtain ⟨start, first, reached⟩ := Option.bind_eq_some_iff.mp reached
  obtain ⟨middle, wait, reached⟩ := Option.bind_eq_some_iff.mp reached
  obtain ⟨later, last, reached⟩ := Option.bind_eq_some_iff.mp reached
  obtain ⟨pending, there, same⟩ := Option.map_eq_some_iff.mp reached
  simp only [Prod.mk.injEq, decide_eq_true_eq] at same
  obtain ⟨inactive, stages, expired, short, on⟩ := same
  have steps : ∀ input before after, Front.step householdConfig before input = some after →
      (fronts householdConfig).step input before after := fun _ _ _ taken => taken
  have opened := (System.play_run steps _ first).reachable
    (.init (freshFront_init householdConfig _ _))
  have waited := System.play_run steps _ wait
  have ran := System.play_run steps _ last
  have settled : ∀ other ∈ start.requests, other.stage ≠ .looked 1 true := by
    intro other member
    have stage := List.mem_map_of_mem (f := fun pending : Pending => pending.stage) member
    rw [stages] at stage
    simp only [List.mem_cons, List.not_mem_nil, or_false] at stage
    rcases stage with same | same <;> rw [same] <;> rintro ⟨⟩
  have kept : ∀ input ∈ waitingInputs ++ lateInputs, input.KeepsInactive 1 := by
    intro input member
    simp only [waitingInputs, lateInputs, List.cons_append, List.nil_append, List.mem_cons,
      List.not_mem_nil, or_false] at member
    rcases member with rfl | rfl | rfl | rfl | rfl | rfl
    · rfl
    all_goals trivial
  refine ⟨later, pending, ran.reachable (waited.reachable opened), there, fun through => ?_⟩
  obtain ⟨earlier, missing, -⟩ :=
    deactivated_lockedOut opened inactive settled waited ran kept expired there on through
  -- The request had not arrived before the process waited.
  rw [List.getElem?_eq_none (by omega)] at missing
  cases missing

end FinStream.Perimeter
