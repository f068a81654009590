import Mathlib.Algebra.BigOperators.Group.List.Basic
import Mathlib.Tactic.Abel

/-! Balances around a known one: entries are summed over cuts, relative to an anchor cut. -/

universe u v

namespace Ledger

variable {α : Type u} {G : Type v} [AddCommGroup G] {amount : α → G} {entries : List α}

/-- The sum of the amounts of the entries in a part. -/
def total (amount : α → G) (entries : List α) (part : α → Bool) : G :=
  ((entries.filter part).map amount).sum

/-- Parts that agree on the entries have the same total. -/
theorem total_congr {part other : α → Bool} (same : ∀ entry ∈ entries, part entry = other entry) :
    total amount entries part = total amount entries other := by
  unfold total
  rw [List.filter_congr same]

/-- A part without entries has no total. -/
theorem total_empty {part : α → Bool} (empty : ∀ entry ∈ entries, part entry = false) :
    total amount entries part = 0 := by
  unfold total
  rw [List.filter_eq_nil_iff.mpr fun entry member => by simp [empty entry member]]
  rfl

/-- A part is split by any other part. -/
theorem total_split (part other : α → Bool) :
    total amount entries part = total amount entries (fun entry => part entry && other entry) +
      total amount entries (fun entry => part entry && !other entry) := by
  have split := List.sum_map_filter_add_sum_map_filter_not (fun entry => other entry = true) amount
    (entries.filter part)
  simp only [total, List.filter_filter, Bool.and_comm (part _)] at split ⊢
  rw [← split]
  simp

/-- Only the entries of a part count towards the total of the part. -/
theorem total_filter (within part : α → Bool) :
    total amount (entries.filter within) part =
      total amount entries fun entry => part entry && within entry := by
  simp only [total, List.filter_filter]

/-- The order of the entries does not matter. -/
theorem total_perm {other : List α} (perm : entries.Perm other) (part : α → Bool) :
    total amount entries part = total amount other part :=
  ((perm.filter part).map amount).sum_eq

/-- Totals of consecutive lists add up. -/
theorem total_append (entries other : List α) (part : α → Bool) :
    total amount (entries ++ other) part = total amount entries part + total amount other part := by
  simp [total]

/-- The first entry counts when it is in the part. -/
theorem total_cons (entry : α) (entries : List α) (part : α → Bool) :
    total amount (entry :: entries) part =
      (if part entry then amount entry else 0) + total amount entries part := by
  unfold total
  rw [List.filter_cons]
  split <;> simp

/-- The balance after a cut, when the balance after the anchor cut is known. -/
def balance (amount : α → G) (entries : List α) (start : G) (anchor cut : α → Bool) : G :=
  start + total amount entries (fun entry => cut entry && !anchor entry) -
    total amount entries fun entry => anchor entry && !cut entry

/-- A balance is the balance before all entries plus the total of its cut. -/
theorem balance_eq (start : G) (anchor cut : α → Bool) :
    balance amount entries start anchor cut =
      start - total amount entries anchor + total amount entries cut := by
  rw [balance, total_split anchor cut, total_split cut anchor]
  simp only [Bool.and_comm (cut _) (anchor _)]
  abel

/-- After a cut beyond the anchor, the entries between the two have been added. -/
theorem balance_beyond {start : G} {anchor cut : α → Bool}
    (beyond : ∀ entry ∈ entries, anchor entry = true → cut entry = true) :
    balance amount entries start anchor cut =
      start + total amount entries fun entry => cut entry && !anchor entry := by
  have none_ : total amount entries (fun entry => anchor entry && !cut entry) = 0 := by
    refine total_empty fun entry member => ?_
    cases within : anchor entry with
    | false => rfl
    | true => simp [beyond entry member within]
  rw [balance, none_, sub_zero]

/-- Before a cut within the anchor, the entries between the two have not been added yet. -/
theorem balance_within {start : G} {anchor cut : α → Bool}
    (within : ∀ entry ∈ entries, cut entry = true → anchor entry = true) :
    balance amount entries start anchor cut =
      start - total amount entries fun entry => anchor entry && !cut entry := by
  have none_ : total amount entries (fun entry => cut entry && !anchor entry) = 0 := by
    refine total_empty fun entry member => ?_
    cases inside : cut entry with
    | false => rfl
    | true => simp [within entry member inside]
  rw [balance, none_, add_zero]

/-- From one cut to a later one, the entries between the two are added. -/
theorem balance_extend {start : G} {anchor earlier later : α → Bool}
    (extends_ : ∀ entry ∈ entries, earlier entry = true → later entry = true) :
    balance amount entries start anchor later = balance amount entries start anchor earlier +
      total amount entries fun entry => later entry && !earlier entry := by
  have inner : total amount entries (fun entry => later entry && earlier entry) =
      total amount entries earlier := by
    refine total_congr fun entry member => ?_
    cases inside : earlier entry with
    | false => simp
    | true => simp [extends_ entry member inside]
  rw [balance_eq, balance_eq, total_split later earlier, inner]
  abel

/-- Entries on which the cut and the anchor agree have no part in the balance. -/
theorem balance_filter {start : G} {anchor cut within : α → Bool}
    (between : ∀ entry ∈ entries, anchor entry ≠ cut entry → within entry = true) :
    balance amount (entries.filter within) start anchor cut =
      balance amount entries start anchor cut := by
  unfold balance
  rw [total_filter, total_filter]
  congr 1
  · refine congrArg (start + ·) (total_congr fun entry member => ?_)
    have inside := between entry member
    cases before : anchor entry <;> cases after : cut entry <;> simp_all
  · refine total_congr fun entry member => ?_
    have inside := between entry member
    cases before : anchor entry <;> cases after : cut entry <;> simp_all

/-- The order of the entries does not change a balance. -/
theorem balance_perm {other : List α} (perm : entries.Perm other) (start : G)
    (anchor cut : α → Bool) :
    balance amount entries start anchor cut = balance amount other start anchor cut := by
  simp only [balance, total_perm perm]

/-- Cuts that agree on the entries leave the same balance. -/
theorem balance_congr {start : G} {anchor cut other : α → Bool}
    (same : ∀ entry ∈ entries, cut entry = other entry) :
    balance amount entries start anchor cut = balance amount entries start anchor other := by
  rw [balance_eq, balance_eq, total_congr same]

end Ledger
