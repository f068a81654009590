import Mathlib.Data.List.Basic

/-! Unwinding: a run as an observer sees it who does not see some of its inputs. -/

universe u v w

namespace Store

variable {σ : Type u} {ι : Type v} {τ : Type w}

/-- A view of the states that inputs which the observer does not see leave alone. -/
structure Unwinding (view : σ → τ) (visible : ι → Bool) (after : σ → ι → σ) : Prop where
  /-- What is seen after a visible input depends on what was seen before it. -/
  respects : ∀ {input left right}, visible input = true → view left = view right →
    view (after left input) = view (after right input)
  /-- A hidden input changes nothing that is seen. -/
  hides : ∀ {input state}, visible input = false → view (after state input) = view state

/-- What is seen of a run is what is seen of the run of its visible inputs. -/
theorem Unwinding.purge {view : σ → τ} {visible : ι → Bool} {after : σ → ι → σ}
    (unwinding : Unwinding view visible after) (inputs : List ι) {left right : σ}
    (same : view left = view right) :
    view (inputs.foldl after left) = view ((inputs.filter visible).foldl after right) := by
  -- The induction is on the inputs, from any two states that look alike.
  induction inputs generalizing left right with
  | nil => exact same
  | cons input rest ih =>
    cases seen : visible input with
    | false =>
      rw [List.foldl_cons, List.filter_cons_of_neg (by simp [seen])]
      exact ih ((unwinding.hides seen).trans same)
    | true =>
      rw [List.foldl_cons, List.filter_cons_of_pos seen, List.foldl_cons]
      exact ih (unwinding.respects seen same)

end Store
