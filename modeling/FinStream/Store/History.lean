import FinStream.Store.Transition
import Mathlib.Data.List.Basic

/-! Histories: the states that a run went through, and what held in one of them. -/

universe u v

namespace Store

variable {σ : Type u} {ι : Type v}

/-- A property held in one of the states. -/
def Once (property : σ → Prop) (states : List σ) : Prop := ∃ state ∈ states, property state

namespace Once

variable {property : σ → Prop} {states : List σ} {state : σ}

/-- What holds now held once. -/
theorem now (holds : property state) : Once property (state :: states) :=
  ⟨state, List.mem_cons_self, holds⟩

/-- What held once still did so later. -/
theorem later (once : Once property states) (next : σ) : Once property (next :: states) := by
  obtain ⟨earlier, member, holds⟩ := once
  exact ⟨earlier, List.mem_cons_of_mem next member, holds⟩

/-- What follows from a property held where the property did. -/
theorem imp {other : σ → Prop} (once : Once property states)
    (follows : ∀ state, property state → other state) : Once other states := by
  obtain ⟨earlier, member, holds⟩ := once
  exact ⟨earlier, member, follows earlier holds⟩

end Once

namespace System

variable {system : System σ ι}

/-- The states that some run from an initial state went through, the newest first. -/
inductive Recorded (system : System σ ι) : List σ → Prop
  | init {state : σ} : system.init state → Recorded system [state]
  | step {input : ι} {before after : σ} {past : List σ} :
      Recorded system (before :: past) → system.step input before after →
      Recorded system (after :: before :: past)

/-- Every reachable state is the newest one of some history. -/
theorem Reachable.recorded {state : σ} (reached : system.Reachable state) :
    ∃ past, system.Recorded (state :: past) := by
  -- The induction is on how the state was reached.
  induction reached with
  | init initial => exact ⟨[], .init initial⟩
  | step _ taken ih =>
    obtain ⟨past, recorded⟩ := ih
    exact ⟨_, recorded.step taken⟩

/-- Every state of a history is reachable. -/
theorem Recorded.reachable {states : List σ} (recorded : system.Recorded states) :
    ∀ state ∈ states, system.Reachable state := by
  induction recorded with
  | init initial =>
    intro state member
    rw [List.mem_singleton.mp member]
    exact .init initial
  | step _ taken ih =>
    intro state member
    rcases List.mem_cons.mp member with rfl | earlier
    · exact (ih _ List.mem_cons_self).step taken
    · exact ih state earlier

/-- What holds initially and is preserved by every step, given the past, holds of histories. -/
theorem Recorded.invariant {states : List σ} (recorded : system.Recorded states)
    (property : List σ → Prop) (start : ∀ state, system.init state → property [state])
    (preserved : ∀ input before after past, system.Recorded (before :: past) →
      property (before :: past) → system.step input before after →
      property (after :: before :: past)) : property states := by
  induction recorded with
  | init initial => exact start _ initial
  | step earlier taken ih => exact preserved _ _ _ _ earlier ih taken

end System

end Store
