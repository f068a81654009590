import FinStream.Store.Effect

/-! Pre- and postconditions of computations that may fail midway. -/

universe u v

namespace Store.Effect

variable {σ : Type u} {ε ε' α β : Type v}

/-- A run ended in a state that is allowed after a success, or after the error that it raised. -/
def Ends (post : α → σ → Prop) (raised : ε → σ → Prop) : Except ε α × σ → Prop
  | (.ok value, after) => post value after
  | (.error error, after) => raised error after

/-- From every state of the precondition, a computation ends as its postconditions allow. -/
def Ensures (pre : σ → Prop) (effect : Effect σ ε α) (post : α → σ → Prop)
    (raised : ε → σ → Prop) : Prop :=
  ∀ before, pre before → Ends post raised (effect before)

/-- Runs a computation and answers how it ended. -/
def attempt (effect : Effect σ ε α) : Effect σ ε' (Except ε α) := fun before =>
  (.ok (effect before).1, (effect before).2)

variable {pre : σ → Prop} {post : α → σ → Prop} {raised : ε → σ → Prop}

/-- Allowing more ends. -/
theorem Ends.weaken {wide : α → σ → Prop} {looser : ε → σ → Prop} {run : Except ε α × σ}
    (ends : Ends post raised run) (after : ∀ value state, post value state → wide value state)
    (failed : ∀ error state, raised error state → looser error state) : Ends wide looser run := by
  rcases run with ⟨outcome, last⟩
  cases outcome with
  | ok value => exact after value last ends
  | error error => exact failed error last ends

/-- Asking for less afterwards, of more before. -/
theorem Ensures.weaken {narrow : σ → Prop} {wide : α → σ → Prop} {looser : ε → σ → Prop}
    {effect : Effect σ ε α} (ensured : Ensures pre effect post raised)
    (before : ∀ state, narrow state → pre state)
    (after : ∀ value state, post value state → wide value state)
    (failed : ∀ error state, raised error state → looser error state) :
    Ensures narrow effect wide looser := fun state holds =>
  (ensured state (before state holds)).weaken after failed

/-- Allowing more after a failure. -/
theorem Ensures.failing {looser : ε → σ → Prop} {effect : Effect σ ε α}
    (ensured : Ensures pre effect post raised)
    (failed : ∀ error state, raised error state → looser error state) :
    Ensures pre effect post looser :=
  ensured.weaken (fun _ holds => holds) (fun _ _ holds => holds) failed

/-- A precondition that also says something about the inputs. -/
theorem Ensures.assuming {condition : Prop} {effect : Effect σ ε α}
    (ensured : condition → Ensures pre effect post raised) :
    Ensures (fun state => condition ∧ pre state) effect post raised := fun state holds =>
  ensured holds.1 state holds.2

/-- Returning a value leaves the state of the precondition. -/
theorem Ensures.pure {value : α} (holds : ∀ state, pre state → post value state) :
    Ensures pre (Pure.pure value : Effect σ ε α) post raised := holds

/-- Failing leaves the state of the precondition. -/
theorem Ensures.failed {error : ε} (holds : ∀ state, pre state → raised error state) :
    Ensures pre (Effect.failed error : Effect σ ε α) post raised := holds

/-- A decision leaves the state of the precondition. -/
theorem Ensures.decided {result : Except ε α}
    (value : ∀ value, result = .ok value → ∀ state, pre state → post value state)
    (error : ∀ error, result = .error error → ∀ state, pre state → raised error state) :
    Ensures pre (Effect.decided result) post raised := by
  cases result with
  | ok chosen => exact value chosen rfl
  | error chosen => exact error chosen rfl

/-- The first computation hands its assertion on to the second one. -/
theorem Ensures.bind {middle : α → σ → Prop} {post : β → σ → Prop} {first : Effect σ ε α}
    {rest : α → Effect σ ε β} (head : Ensures pre first middle raised)
    (tail : ∀ value, Ensures (middle value) (rest value) post raised) :
    Ensures pre (first >>= rest) post raised := by
  intro before holds
  have ends := head before holds
  rcases ran : first before with ⟨outcome, reached⟩
  rw [ran] at ends
  cases outcome with
  | ok value =>
    rw [bind_apply_ok ran]
    exact tail value reached ends
  | error error =>
    rw [bind_apply_error ran]
    exact ends

/-- A decision alone keeps its precondition. -/
theorem Ensures.checked {result : Except ε α} :
    Ensures pre (Effect.decided result) (fun _ => pre) fun _ => pre :=
  Ensures.decided (fun _ _ _ holds => holds) fun _ _ _ holds => holds

/-- A decision is gone on with, or it fails in the state of its precondition. -/
theorem Ensures.deciding {post : β → σ → Prop} {result : Except ε α} {rest : α → Effect σ ε β}
    (error : ∀ error, result = .error error → ∀ state, pre state → raised error state)
    (tail : ∀ value, result = .ok value → Ensures pre (rest value) post raised) :
    Ensures pre (Effect.decided result >>= rest) post raised := by
  cases result with
  | ok value => exact tail value rfl
  | error chosen => exact fun before holds => error chosen rfl before holds

/-- Two computations in order, with the assertion between them given. -/
theorem Ensures.via (middle : α → σ → Prop) {post : β → σ → Prop} {first : Effect σ ε α}
    {rest : α → Effect σ ε β} (head : Ensures pre first middle raised)
    (tail : ∀ value, Ensures (middle value) (rest value) post raised) :
    Ensures pre (first >>= rest) post raised := head.bind tail

/-- Renaming errors leaves the states they are raised in. -/
theorem Ensures.mapError {raised : σ → Prop} {effect : Effect σ ε α} {rename : ε → ε'}
    (ensured : Ensures pre effect post fun _ => raised) :
    Ensures pre (effect.mapError rename) post fun _ => raised := by
  intro before holds
  have ends := ensured before holds
  rw [Effect.mapError]
  rcases ran : effect before with ⟨outcome, reached⟩
  rw [ran] at ends
  cases outcome with
  | ok value => exact ends
  | error error => exact ends

/-- An attempt ends with what the computation allows for the way it ended. -/
theorem Ensures.attempt {never : ε' → σ → Prop} {effect : Effect σ ε α}
    (ensured : Ensures pre effect post raised) :
    Ensures pre (effect.attempt : Effect σ ε' (Except ε α))
      (fun outcome state => Ends post raised (outcome, state)) never := ensured

/-- A loop ends in a state of what every step keeps. -/
theorem Ensures.forM {γ : Type} {kept : σ → Prop} {step : γ → Effect σ ε PUnit} {items : List γ}
    (each : ∀ item ∈ items, Ensures kept (step item) (fun _ => kept) raised) :
    Ensures kept (items.forM step) (fun _ => kept) raised := by
  induction items with
  | nil => exact Ensures.pure fun state holds => holds
  | cons item rest ih =>
    exact (each item List.mem_cons_self).bind fun done =>
      ih fun other member => each other (List.mem_cons_of_mem _ member)

end Store.Effect
