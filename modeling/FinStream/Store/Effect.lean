import FinStream.Store.Transaction
import Mathlib.Order.Defs.Unbundled

/-! Computations that change a state and may fail midway, keeping what they changed before. -/

universe u v

namespace Store

/-- A computation over a state; an error does not take back the changes made before it. -/
def Effect (σ : Type u) (ε α : Type v) := σ → Except ε α × σ

namespace Effect

variable {σ : Type u} {ε α β : Type v}

/-- Returns a value without touching the state. -/
def done (value : α) : Effect σ ε α := fun state => (.ok value, state)

/-- Runs two computations in order, the second one only if the first succeeds. -/
def andThen (first : Effect σ ε α) (rest : α → Effect σ ε β) : Effect σ ε β := fun before =>
  match first before with
  | (.ok value, middle) => rest value middle
  | (.error error, after) => (.error error, after)

instance : Monad (Effect σ ε) where
  pure := done
  bind := andThen

/-- A decision that does not depend on the state. -/
def decided (result : Except ε α) : Effect σ ε α := fun state => (result, state)

/-- Fails without touching the state. -/
def failed (error : ε) : Effect σ ε α := decided (.error error)

/-- Renames the errors of a computation. -/
def mapError {ε' : Type v} (rename : ε → ε') (effect : Effect σ ε α) : Effect σ ε' α := fun before =>
  ((effect before).1.mapError rename, (effect before).2)

/-- A transaction: its changes are taken back by an error. -/
def transaction (body : σ → Except ε (α × σ)) : Effect σ ε α := fun before =>
  match body before with
  | .ok (value, after) => (.ok value, after)
  | .error error => (.error error, before)

@[simp] theorem pure_apply (value : α) (state : σ) :
    (pure value : Effect σ ε α) state = (.ok value, state) := rfl

@[simp] theorem decided_apply (result : Except ε α) (state : σ) :
    (decided result : Effect σ ε α) state = (result, state) := rfl

@[simp] theorem failed_apply (error : ε) (state : σ) :
    (failed error : Effect σ ε α) state = (.error error, state) := rfl

/-- A transaction that ends with an error changes nothing. -/
theorem transaction_error {body : σ → Except ε (α × σ)} {before : σ} {error : ε}
    (failed : (transaction body before).1 = .error error) :
    (transaction body before).2 = before := by
  unfold transaction at failed ⊢
  cases ran : body before with
  | ok result =>
    rw [ran] at failed
    cases failed
  | error error => rfl

/-- A transaction leaves what its body leads to, or what was there. -/
theorem transaction_cases (body : σ → Except ε (α × σ)) (before : σ) :
    (transaction body before).2 = before ∨
      ∃ value, body before = .ok (value, (transaction body before).2) := by
  unfold transaction
  cases ran : body before with
  | ok result => exact Or.inr ⟨result.1, rfl⟩
  | error error => exact Or.inl rfl

/-- After a success the second computation goes on. -/
theorem bind_apply_ok {first : Effect σ ε α} {rest : α → Effect σ ε β} {before middle : σ}
    {value : α} (succeeded : first before = (.ok value, middle)) :
    (first >>= rest) before = rest value middle := by
  simp [Bind.bind, andThen, succeeded]

/-- After an error nothing goes on. -/
theorem bind_apply_error {first : Effect σ ε α} {rest : α → Effect σ ε β} {before after : σ}
    {error : ε} (refused : first before = (.error error, after)) :
    (first >>= rest) before = (.error error, after) := by
  simp [Bind.bind, andThen, refused]

/-- Two computations in order succeed exactly when both do. -/
@[simp] theorem bind_eq_ok {first : Effect σ ε α} {rest : α → Effect σ ε β} {before after : σ}
    {result : β} : (first >>= rest) before = (.ok result, after) ↔
      ∃ value middle, first before = (.ok value, middle) ∧
        rest value middle = (.ok result, after) := by
  rcases ran : first before with ⟨outcome, middle⟩
  cases outcome with
  | ok value => simp [bind_apply_ok ran]
  | error error => simp [bind_apply_error ran]

/-- The order of grouping does not matter. -/
theorem bind_assoc {γ : Type v} (first : Effect σ ε α) (rest : α → Effect σ ε β)
    (last : β → Effect σ ε γ) : first >>= rest >>= last = first >>= fun value => rest value >>= last
    := by
  funext before
  rcases ran : first before with ⟨outcome, middle⟩
  cases outcome with
  | ok value =>
    have whole : (first >>= rest) before = rest value middle := bind_apply_ok ran
    rcases more : rest value middle with ⟨second, after⟩
    rw [bind_apply_ok ran]
    cases second with
    | ok result => rw [bind_apply_ok (whole.trans more), bind_apply_ok more]
    | error error => rw [bind_apply_error (whole.trans more), bind_apply_error more]
  | error error =>
    rw [bind_apply_error ran, bind_apply_error (bind_apply_error ran)]

/-- Returning a result as it is changes nothing. -/
theorem id_map (effect : Effect σ ε α) : id <$> effect = effect := by
  funext before
  rcases ran : effect before with ⟨outcome, after⟩
  cases outcome with
  | ok value => exact bind_apply_ok ran
  | error error => exact bind_apply_error ran

instance : LawfulMonad (Effect σ ε) :=
  LawfulMonad.mk' (Effect σ ε) id_map (fun _ _ => rfl) bind_assoc

/-- Renaming errors does not affect success. -/
@[simp] theorem mapError_eq_ok {ε' : Type v} {rename : ε → ε'} {effect : Effect σ ε α}
    {before after : σ} {result : α} :
    effect.mapError rename before = (.ok result, after) ↔ effect before = (.ok result, after) := by
  rcases ran : effect before with ⟨outcome, final⟩
  cases outcome with
  | ok value => simp [mapError, ran, Except.mapError]
  | error error => simp [mapError, ran, Except.mapError]

/-- Renaming errors does not affect the state. -/
@[simp] theorem mapError_state {ε' : Type v} (rename : ε → ε') (effect : Effect σ ε α) (before : σ) :
    (effect.mapError rename before).2 = (effect before).2 := rfl

/-! ### What a computation answers without a change -/

/-- At a state a computation has a result and leaves the state alone. -/
def Reads (effect : Effect σ ε α) (state : σ) (result : Except ε α) : Prop :=
  effect state = (result, state)

/-- The result at a state is one. -/
theorem Reads.unique {effect : Effect σ ε α} {state : σ} {left right : Except ε α}
    (first : effect.Reads state left) (second : effect.Reads state right) : left = right :=
  (Prod.mk.inj (first.symm.trans second)).1

/-- After a read the second computation goes on where the first one started. -/
theorem Reads.andThen {first : Effect σ ε α} {state : σ} {value : α}
    (reads : first.Reads state (.ok value)) (rest : α → Effect σ ε β) :
    (first >>= rest) state = rest value state := bind_apply_ok reads

/-- Renaming errors keeps a read. -/
theorem Reads.mapError {ε' : Type v} {effect : Effect σ ε α} {state : σ} {result : Except ε α}
    (reads : effect.Reads state result) (rename : ε → ε') :
    (effect.mapError rename).Reads state (result.mapError rename) := by
  simp only [Reads, Effect.mapError]
  rw [reads]

/-- A loop of reads is a read. -/
theorem Reads.mapM {γ : Type v} {step : γ → Effect σ ε α} {items : List γ} {state : σ}
    {value : γ → α} (reads : ∀ item ∈ items, (step item).Reads state (.ok (value item))) :
    (items.mapM step).Reads state (.ok (items.map value)) := by
  induction items with
  | nil => rfl
  | cons item rest ih =>
    rw [Reads, List.mapM_cons, (reads item List.mem_cons_self).andThen]
    have later := ih fun other member => reads other (List.mem_cons_of_mem _ member)
    rw [later.andThen]
    rfl

/-! ### What a computation keeps, however it ends -/

/-- Whatever the outcome, the state after a computation is related to the one before. -/
def Keeps (relation : σ → σ → Prop) (effect : Effect σ ε α) : Prop :=
  ∀ before, relation before (effect before).2

variable {relation : σ → σ → Prop}

/-- A decision keeps everything. -/
theorem Keeps.decided [Std.Refl relation] (result : Except ε α) :
    Keeps relation (Effect.decided result : Effect σ ε α) := fun before => Std.Refl.refl before

/-- What two computations keep, they keep in order. -/
theorem Keeps.bind [IsTrans σ relation] {first : Effect σ ε α} {rest : α → Effect σ ε β}
    (firstKeeps : Keeps relation first) (restKeeps : ∀ value, Keeps relation (rest value)) :
    Keeps relation (first >>= rest) := by
  intro before
  have kept := firstKeeps before
  rcases ran : first before with ⟨outcome, middle⟩
  rw [ran] at kept
  cases outcome with
  | ok value =>
    rw [bind_apply_ok ran]
    exact IsTrans.trans _ _ _ kept (restKeeps value middle)
  | error error =>
    rw [bind_apply_error ran]
    exact kept

/-- What every step of a loop keeps, the loop keeps. -/
theorem Keeps.mapM [Std.Refl relation] [IsTrans σ relation] {γ : Type v}
    {step : γ → Effect σ ε α} {items : List γ}
    (keeps : ∀ item ∈ items, Keeps relation (step item)) : Keeps relation (items.mapM step) := by
  induction items with
  | nil =>
    rw [List.mapM_nil]
    exact Keeps.decided _
  | cons item rest ih =>
    rw [List.mapM_cons]
    refine (keeps item List.mem_cons_self).bind fun value => ?_
    refine (ih fun other member => keeps other (List.mem_cons_of_mem _ member)).bind fun values => ?_
    exact Keeps.decided _

/-- Renaming errors keeps what the computation keeps. -/
theorem Keeps.mapError {ε' : Type v} {effect : Effect σ ε α} (keeps : Keeps relation effect)
    (rename : ε → ε') : Keeps relation (effect.mapError rename) := keeps

/-- Every result of a loop is that of a step between the start and the end of the loop. -/
theorem mapM_eq_ok [Std.Refl relation] [IsTrans σ relation] {γ : Type v} {step : γ → Effect σ ε α}
    {items : List γ} {results : List α} {before after : σ}
    (keeps : ∀ item, Keeps relation (step item))
    (ran : items.mapM step before = (.ok results, after)) :
    List.Forall₂ (fun item result => ∃ start stop, relation before start ∧
      step item start = (.ok result, stop) ∧ relation stop after) items results := by
  induction items generalizing before results with
  | nil =>
    cases ran
    exact .nil
  | cons item rest ih =>
    rw [List.mapM_cons] at ran
    simp only [bind_eq_ok, pure_apply, Prod.mk.injEq, Except.ok.injEq] at ran
    obtain ⟨value, middle, first, values, final, others, rfl, rfl⟩ := ran
    -- The relation holds up to the step and from it on.
    have head : relation before middle := by
      have kept := keeps item before
      rwa [first] at kept
    have tail : relation middle final := by
      have kept := Keeps.mapM (fun item (_ : item ∈ rest) => keeps item) middle
      rwa [others] at kept
    refine .cons ⟨before, middle, Std.Refl.refl _, first, tail⟩ ((ih others).imp ?_)
    rintro other result ⟨start, stop, reached, stepped, left⟩
    exact ⟨start, stop, IsTrans.trans _ _ _ head reached, stepped, left⟩

end Effect

end Store
