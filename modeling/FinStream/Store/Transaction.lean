import Mathlib.Data.List.Forall2
import Mathlib.Logic.Basic
import Mathlib.Tactic.TypeStar

/-! Transactions as functions that fail or return the state to commit. -/

universe u v

namespace Store

variable {ε : Type u} {α β : Type v}

/-- A sequence of two fallible steps succeeds exactly when both do, in order. -/
@[simp] theorem bind_eq_ok {first : Except ε α} {rest : α → Except ε β} {result : β} :
    first >>= rest = .ok result ↔ ∃ value, first = .ok value ∧ rest value = .ok result := by
  cases first <;> simp [Bind.bind, Except.bind]

/-- Returning a value succeeds with exactly that value. -/
@[simp] theorem pure_eq_ok {value result : α} :
    (pure value : Except ε α) = .ok result ↔ value = result := by
  simp [pure, Except.pure]

/-- Raising an error is not success. -/
@[simp] theorem throw_ne_ok {error : ε} {result : α} :
    (throw error : Except ε α) ≠ .ok result := by
  simp [throw, throwThe, MonadExceptOf.throw]

/-- Fails with the given error unless the condition holds. -/
def ensure (condition : Bool) (error : ε) : Except ε PUnit :=
  if condition then .ok ⟨⟩ else .error error

/-- A check passes exactly when its condition holds. -/
@[simp] theorem ensure_eq_ok {condition : Bool} {error : ε} {done : PUnit} :
    ensure condition error = .ok done ↔ condition = true := by
  unfold ensure
  split <;> simp_all

/-- Turns a missing value into the given error. -/
def required (value : Option α) (error : ε) : Except ε α :=
  match value with
  | some found => .ok found
  | none => .error error

/-- Requiring a value succeeds exactly when it is there. -/
@[simp] theorem required_eq_ok {value : Option α} {error : ε} {result : α} :
    required value error = .ok result ↔ value = some result := by
  cases value <;> simp [required]

/-- Keeping a part of the result does not affect success. -/
@[simp] theorem map_eq_ok {first : Except ε α} {part : α → β} {result : β} :
    first.map part = .ok result ↔ ∃ value, first = .ok value ∧ part value = result := by
  cases first <;> simp [Except.map]

/-- Mapping a result does not affect success. -/
@[simp] theorem functor_map_eq_ok {first : Except ε α} {part : α → β} {result : β} :
    part <$> first = .ok result ↔ ∃ value, first = .ok value ∧ part value = result := map_eq_ok

/-- Renaming errors does not affect success. -/
@[simp] theorem mapError_eq_ok {ε' : Type u} {rename : ε → ε'} {first : Except ε α} {result : α} :
    first.mapError rename = .ok result ↔ first = .ok result := by
  cases first <;> simp [Except.mapError]

/-- A sequence of two steps avoids an error that neither of them raises. -/
theorem bind_ne_error {first : Except ε α} {rest : α → Except ε β} {error : ε}
    (head : first ≠ .error error) (tail : ∀ value, first = .ok value → rest value ≠ .error error) :
    first >>= rest ≠ .error error := by
  cases first with
  | error raised => exact fun same => head (congrArg Except.error (Except.error.inj same))
  | ok value => exact tail value rfl

/-- A check avoids every error but its own. -/
theorem ensure_ne_error {condition : Bool} {raised error : ε} (different : raised ≠ error) :
    ensure condition raised ≠ .error error := by
  unfold ensure
  split
  · nofun
  · exact fun same => different (Except.error.inj same)

/-- Requiring a value avoids every error but its own. -/
theorem required_ne_error {value : Option α} {raised error : ε} (different : raised ≠ error) :
    required value raised ≠ .error error := by
  cases value with
  | none => exact fun same => different (Except.error.inj same)
  | some found => nofun

/-- A transaction that yields a result is one that does not fail. -/
theorem toOption_eq_some {result : Except ε α} {value : α} :
    result.toOption = some value ↔ result = .ok value := by
  cases result <;> simp [Except.toOption]

/-- A success is found again behind the default used for failures. -/
theorem eq_ok_getD {result : Except ε α} (succeeded : result.toOption.isSome = true)
    (default : α) : result = .ok (result.toOption.getD default) := by
  cases result with
  | error => simp [Except.toOption] at succeeded
  | ok => rfl

/-- A value is found again behind the default used when there is none. -/
theorem some_getD {value : Option α} (found : value.isSome = true) (default : α) :
    value = some (value.getD default) := by
  cases value with
  | none => cases found
  | some => rfl

/-- When every item of a list is checked, each of them passes. -/
theorem forM_eq_ok {γ : Type*} {check : γ → Except ε PUnit} {items : List γ} {done : PUnit}
    (passed : items.forM check = .ok done) : ∀ item ∈ items, check item = .ok ⟨⟩ := by
  induction items with
  | nil => exact fun _ member => nomatch member
  | cons first rest ih =>
    simp only [List.forM_eq_forM, List.forM_cons, bind_eq_ok] at passed
    obtain ⟨_, one, others⟩ := passed
    intro item member
    rcases List.mem_cons.mp member with rfl | later
    · exact one
    · exact ih others item later

/-- Checks that all pass pass together. -/
theorem forM_ok {γ : Type*} {check : γ → Except ε PUnit} {items : List γ}
    (passes : ∀ item ∈ items, check item = .ok ⟨⟩) : items.forM check = .ok ⟨⟩ := by
  induction items with
  | nil => rfl
  | cons item rest ih =>
    simp only [List.forM_eq_forM, List.forM_cons, bind_eq_ok]
    exact ⟨⟨⟩, passes item List.mem_cons_self,
      ih fun other member => passes other (List.mem_cons_of_mem _ member)⟩

/-- When every item of a list has a result, the results are those of the items in order. -/
theorem mapM_eq_ok {γ : Type*} {step : γ → Except ε α} {items : List γ} {results : List α}
    (done : items.mapM step = .ok results) :
    List.Forall₂ (fun item result => step item = .ok result) items results := by
  induction items generalizing results with
  | nil =>
    cases done
    exact .nil
  | cons first rest ih =>
    simp only [List.mapM_cons, bind_eq_ok, pure_eq_ok] at done
    obtain ⟨one, found, others, later, rfl⟩ := done
    exact .cons found (ih later)

/-- Steps that each have a result have their results in order. -/
theorem mapM_ok {γ : Type*} {step : γ → Except ε α} {items : List γ} {results : List α}
    (done : List.Forall₂ (fun item result => step item = .ok result) items results) :
    items.mapM step = .ok results := by
  induction done with
  | nil => rfl
  | cons found _ ih =>
    simp only [List.mapM_cons, bind_eq_ok, pure_eq_ok]
    exact ⟨_, found, _, ih, rfl⟩

/-- Every member of the first of two related lists is related to one of the second. -/
theorem forall₂_mem_left {γ δ : Type*} {related : γ → δ → Prop} {items : List γ} {others : List δ}
    (paired : List.Forall₂ related items others) {item : γ} (member : item ∈ items) :
    ∃ other ∈ others, related item other := by
  induction paired with
  | nil => cases member
  | cons first rest ih =>
    cases List.mem_cons.mp member with
    | inl same =>
      subst same
      exact ⟨_, List.mem_cons_self, first⟩
    | inr later =>
      obtain ⟨other, there, holds⟩ := ih later
      exact ⟨other, List.mem_cons_of_mem _ there, holds⟩

/-- Every member of the second of two related lists is related to one of the first. -/
theorem forall₂_mem_right {γ δ : Type*} {related : γ → δ → Prop} {items : List γ} {others : List δ}
    (paired : List.Forall₂ related items others) {other : δ} (member : other ∈ others) :
    ∃ item ∈ items, related item other :=
  forall₂_mem_left (List.Forall₂.flip paired) member

/-- Every result of a list of steps is that of one of its items. -/
theorem mapM_ok_mem {γ : Type*} {step : γ → Except ε α} {items : List γ} {results : List α}
    (done : items.mapM step = .ok results) {result : α} (member : result ∈ results) :
    ∃ item ∈ items, step item = .ok result := forall₂_mem_right (mapM_eq_ok done) member

/-- What holds of the start and is kept by every step holds of the result of a fold. -/
theorem foldlM_ok_induction {γ : Type*} {step : α → γ → Except ε α} {items : List γ}
    {start result : α} (done : items.foldlM step start = .ok result) (property : α → Prop)
    (holds : property start)
    (kept : ∀ item ∈ items, ∀ before after, property before → step before item = .ok after →
      property after) : property result := by
  induction items generalizing start with
  | nil =>
    -- Nothing is folded, so the result is the start.
    cases done
    exact holds
  | cons item rest ih =>
    rw [List.foldlM_cons, bind_eq_ok] at done
    obtain ⟨middle, first, others⟩ := done
    -- The first item leads to a state from which the rest is folded.
    have reached := kept item List.mem_cons_self _ _ holds first
    exact ih others reached fun other member => kept other (List.mem_cons_of_mem _ member)

end Store
