import Mathlib.Logic.Basic

/-! Transition systems: reachable states, runs, and the induction rules for both. -/

universe u v

namespace Store

/-- States a run may start in, and what each input may turn a state into. -/
structure System (σ : Type u) (ι : Type v) where
  /-- The states a run may start in. -/
  init : σ → Prop
  /-- The state on the right may follow the one on the left under this input. -/
  step : ι → σ → σ → Prop

variable {σ : Type u} {ι : Type v}

namespace System

/-- The states that some sequence of inputs leads to from an initial state. -/
inductive Reachable (system : System σ ι) : σ → Prop
  | init {state : σ} : system.init state → Reachable system state
  | step {input : ι} {before after : σ} :
      Reachable system before → system.step input before after → Reachable system after

/-- A run from one state to another, with the inputs it took in order. -/
inductive Run (system : System σ ι) : σ → List ι → σ → Prop
  | nil (state : σ) : Run system state [] state
  | cons {input : ι} {inputs : List ι} {before middle after : σ} :
      system.step input before middle → Run system middle inputs after →
      Run system before (input :: inputs) after

/-- The state that inputs taken one after the other lead to, if each of them can be taken. -/
def play (step : σ → ι → Option σ) : List ι → σ → Option σ
  | [], state => some state
  | input :: rest, state => (step state input).bind (play step rest)

/-- The system whose steps are those that also meet a condition on the state and the input. -/
def restrict (system : System σ ι) (allowed : σ → ι → Prop) : System σ ι where
  init := system.init
  step input before after := allowed before input ∧ system.step input before after

variable {system : System σ ι}

/-- What holds initially and is preserved by every step holds of every reachable state. -/
theorem Reachable.invariant {state : σ} (reached : system.Reachable state) (property : σ → Prop)
    (start : ∀ state, system.init state → property state)
    (preserved : ∀ input before after, system.Reachable before → property before →
      system.step input before after → property after) : property state := by
  -- The induction is on how the state was reached.
  induction reached with
  | init initial => exact start _ initial
  | step earlier taken ih => exact preserved _ _ _ earlier ih taken

/-- Every state along a run from a reachable state is reachable. -/
theorem Run.reachable {before after : σ} {inputs : List ι} (run : system.Run before inputs after)
    (reached : system.Reachable before) : system.Reachable after := by
  induction run with
  | nil => exact reached
  | cons taken _ ih => exact ih (reached.step taken)

/-- What every admitted step from a reachable state preserves holds at the end of a run. -/
theorem Run.preserves {before after : σ} {inputs : List ι} (run : system.Run before inputs after)
    (reached : system.Reachable before) (property : σ → Prop) (admitted : ι → Prop)
    (preserved : ∀ input before after, system.Reachable before → admitted input →
      property before → system.step input before after → property after)
    (allowed : ∀ input ∈ inputs, admitted input) (holds : property before) : property after := by
  induction run with
  | nil => exact holds
  | cons taken _ ih =>
    refine ih (reached.step taken) (fun input member => ?_) ?_
    · exact allowed input (List.mem_cons_of_mem _ member)
    · exact preserved _ _ _ reached (allowed _ List.mem_cons_self) holds taken

/-- Inputs that can be taken one after the other are a run. -/
theorem play_run {next : σ → ι → Option σ}
    (steps : ∀ input before after, next before input = some after →
      system.step input before after)
    (inputs : List ι) {before after : σ} (played : play next inputs before = some after) :
    system.Run before inputs after := by
  induction inputs generalizing before with
  | nil =>
    cases played
    exact .nil _
  | cons input rest ih =>
    -- The first input leads to a state from which the rest is played.
    obtain ⟨middle, first, others⟩ := Option.bind_eq_some_iff.mp played
    exact .cons (steps _ _ _ first) (ih others)

/-- A state reached under a condition is reachable without it. -/
theorem Reachable.of_restrict {allowed : σ → ι → Prop} {state : σ}
    (reached : (system.restrict allowed).Reachable state) : system.Reachable state := by
  induction reached with
  | init initial => exact .init initial
  | step _ taken ih => exact ih.step taken.2

end System

end Store
