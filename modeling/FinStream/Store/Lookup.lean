import Mathlib.Data.List.Nodup
import Mathlib.Data.List.Forall2

/-! Values by their keys: what is found in a list of pairs, before and after a value is assigned. -/

universe u v w

namespace Store

variable {κ : Type u} {α : Type v} {β : Type w}

/-- Related lists have the same names where related members do. -/
theorem map_eq_of_forall₂ {related : α → β → Prop} {left : List α} {right : List β}
    {leftName : α → κ} {rightName : β → κ} (paired : List.Forall₂ related left right)
    (same : ∀ one other, related one other → rightName other = leftName one) :
    right.map rightName = left.map leftName := by
  induction paired with
  | nil => rfl
  | cons first _ ih => rw [List.map_cons, List.map_cons, same _ _ first, ih]

variable [DecidableEq κ]

/-- Gives a key a value: in every pair that has the key, or in a new one. -/
def assign (key : κ) (value : α) (pairs : List (κ × α)) : List (κ × α) :=
  if pairs.any (·.1 == key) then
    pairs.map fun pair => if pair.1 == key then (pair.1, value) else pair
  else pairs ++ [(key, value)]

/-- What is found among mapped values is the mapped value. -/
theorem lookup_map (change : κ → α → β) (pairs : List (κ × α)) (key : κ) :
    (pairs.map fun pair => (pair.1, change pair.1 pair.2)).lookup key =
      (pairs.lookup key).map (change key) := by
  induction pairs with
  | nil => rfl
  | cons pair rest ih =>
    obtain ⟨name, value⟩ := pair
    by_cases here : key = name
    · subst here
      simp
    · have apart : (key == name) = false := beq_eq_false_iff_ne.mpr here
      simpa only [List.map_cons, List.lookup_cons, apart] using ih

/-- What is found is listed. -/
theorem mem_of_lookup {pairs : List (κ × α)} {key : κ} {value : α}
    (found : pairs.lookup key = some value) : (key, value) ∈ pairs := by
  obtain ⟨before, after, rfl, -⟩ := List.lookup_eq_some_iff.mp found
  simp

/-- Where keys do not repeat, what is listed is found. -/
theorem lookup_of_mem {pairs : List (κ × α)} (distinct : (pairs.map Prod.fst).Nodup) {key : κ}
    {value : α} (listed : (key, value) ∈ pairs) : pairs.lookup key = some value := by
  have there : (pairs.lookup key).isSome :=
    List.lookup_isSome_iff.mpr ⟨(key, value), listed, BEq.rfl⟩
  obtain ⟨other, found⟩ := Option.isSome_iff_exists.mp there
  have same := List.inj_on_of_nodup_map distinct (mem_of_lookup found) listed rfl
  rw [found, (Prod.mk.inj same).2]

/-- An assigned value is found under its key, and what was there under every other one. -/
theorem lookup_assign (key : κ) (value : α) (pairs : List (κ × α)) (other : κ) :
    (assign key value pairs).lookup other =
      if other = key then some value else pairs.lookup other := by
  unfold assign
  split
  · rename_i listed
    have mapped : (pairs.map fun pair => if pair.1 == key then (pair.1, value) else pair) =
        pairs.map fun pair => (pair.1, if pair.1 = key then value else pair.2) := by
      refine List.map_congr_left fun pair _ => ?_
      by_cases here : pair.1 = key
      · simp [here]
      · simp [here]
    rw [mapped, lookup_map fun name old => if name = key then value else old]
    by_cases same : other = key
    · -- A pair with the key is there.
      subst same
      obtain ⟨pair, member, named⟩ := List.any_eq_true.mp listed
      have there : (pairs.lookup other).isSome := List.lookup_isSome_iff.mpr
        ⟨pair, member, beq_iff_eq.mpr (beq_iff_eq.mp named).symm⟩
      obtain ⟨old, found⟩ := Option.isSome_iff_exists.mp there
      simp [found]
    · simp [same]
  · rename_i absent
    rw [List.lookup_append]
    by_cases same : other = key
    · subst same
      have missing : pairs.lookup other = none := List.lookup_eq_none_iff.mpr fun pair member => by
        rw [Bool.not_eq_true, List.any_eq_false] at absent
        have different := absent pair member
        rw [beq_iff_eq] at different
        exact bne_iff_ne.mpr (Ne.symm different)
      simp [missing]
    · have apart : (other == key) = false := beq_eq_false_iff_ne.mpr same
      simp [List.lookup_cons, apart, same]

/-- Where a name does not repeat, one row has it. -/
theorem filter_named {rows : List α} {name : α → κ} (distinct : (rows.map name).Nodup) {row : α}
    (listed : row ∈ rows) : (rows.filter fun other => name other == name row) = [row] := by
  induction rows with
  | nil => cases listed
  | cons first rest ih =>
    obtain ⟨fresh, distinct⟩ := List.nodup_cons.mp distinct
    rcases List.mem_cons.mp listed with rfl | later
    · have others : (rest.filter fun other => name other == name row) = [] :=
        List.filter_eq_nil_iff.mpr fun other member same =>
          fresh (beq_iff_eq.mp same ▸ List.mem_map_of_mem member)
      simp [others]
    · have apart : name first ≠ name row := fun same => fresh (same ▸ List.mem_map_of_mem later)
      simpa [apart] using ih distinct later

end Store
