import Mathlib.Data.List.Sort
import Mathlib.Data.Prod.Lex

/-! ORDER BY: rows listed along a key that no two of them share. -/

universe u v

namespace Store

variable {α β : Type u} {κ : Type v} [LinearOrder κ]

/-- ORDER BY of a key. -/
def orderBy (key : α → κ) (rows : List α) : List α :=
  rows.insertionSort fun left right => key left ≤ key right

/-- Sorting keeps every row, as often as it is there. -/
theorem orderBy_perm (key : α → κ) (rows : List α) : (orderBy key rows).Perm rows :=
  List.perm_insertionSort _ rows

/-- Sorting lists the same rows. -/
@[simp] theorem mem_orderBy {key : α → κ} {rows : List α} {row : α} :
    row ∈ orderBy key rows ↔ row ∈ rows := (orderBy_perm key rows).mem_iff

/-- Keys never fall along the sorted rows. -/
theorem orderBy_pairwise (key : α → κ) (rows : List α) :
    (orderBy key rows).Pairwise fun left right => key left ≤ key right := by
  have total : Std.Total fun left right : α => key left ≤ key right :=
    ⟨fun left right => le_total (key left) (key right)⟩
  have transitive : IsTrans α fun left right => key left ≤ key right :=
    ⟨fun _ _ _ first second => le_trans first second⟩
  exact List.pairwise_insertionSort _ rows

/-- No row is above the last one. -/
theorem orderBy_le_last {key : α → κ} {rows before : List α} {last row : α}
    (listed : orderBy key rows = before ++ [last]) (member : row ∈ rows) : key row ≤ key last := by
  have ordered := orderBy_pairwise key rows
  rw [listed, List.pairwise_append] at ordered
  have sorted : row ∈ orderBy key rows := mem_orderBy.mpr member
  rw [listed, List.mem_append] at sorted
  rcases sorted with earlier | same
  · exact ordered.2.2 row earlier last (List.mem_singleton_self last)
  · rw [List.mem_singleton.mp same]

/-- Keys that no two rows share rise along the sorted rows. -/
theorem orderBy_rising {key : α → κ} {rows : List α} (distinct : (rows.map key).Nodup) :
    (orderBy key rows).Pairwise fun left right => key left < key right := by
  have apart : ((orderBy key rows).map key).Nodup :=
    ((orderBy_perm key rows).map key).nodup_iff.mpr distinct
  exact List.Pairwise.imp₂ (fun _ _ below different => lt_of_le_of_ne below different)
    (orderBy_pairwise key rows) (List.pairwise_map.mp apart)

/-- A rising list of the rows is what sorting them gives. -/
theorem orderBy_eq {key : α → κ} {rows listed : List α} (same : listed.Perm rows)
    (rising : listed.Pairwise fun left right => key left < key right) :
    orderBy key rows = listed := by
  -- Rows with one key are one row, since keys differ along the rising list.
  have distinct : (listed.map key).Nodup := List.pairwise_map.mpr (rising.imp ne_of_lt)
  refine List.Perm.eq_of_pairwise ?_ (orderBy_pairwise key rows) (rising.imp le_of_lt)
    ((orderBy_perm key rows).trans same.symm)
  intro left right leftListed rightListed below above
  have leftListed := same.mem_iff.mpr (mem_orderBy.mp leftListed)
  exact List.inj_on_of_nodup_map distinct leftListed rightListed (le_antisymm below above)

/-- The order in which the rows come does not matter. -/
theorem orderBy_congr {key : α → κ} {rows others : List α} (same : others.Perm rows)
    (distinct : (rows.map key).Nodup) : orderBy key others = orderBy key rows :=
  orderBy_eq ((orderBy_perm key rows).trans same.symm) (orderBy_rising distinct)

/-- A row above all others comes last. -/
theorem orderBy_append {key : α → κ} {rows : List α} {row : α} (distinct : (rows.map key).Nodup)
    (above : ∀ other ∈ rows, key other < key row) :
    orderBy key (rows ++ [row]) = orderBy key rows ++ [row] := by
  refine orderBy_eq ((orderBy_perm key rows).append_right [row]) ?_
  rw [List.pairwise_append]
  refine ⟨orderBy_rising distinct, List.pairwise_singleton _ row, ?_⟩
  intro other listed last same
  rw [List.mem_singleton.mp same]
  exact above other (mem_orderBy.mp listed)

/-- Selecting rows before or after sorting is the same. -/
theorem orderBy_filter {key : α → κ} {rows : List α} (distinct : (rows.map key).Nodup)
    (condition : α → Bool) :
    orderBy key (rows.filter condition) = (orderBy key rows).filter condition :=
  orderBy_eq ((orderBy_perm key rows).filter condition) ((orderBy_rising distinct).filter condition)

/-- Reading rows before or after sorting is the same when the key can be read of what is read. -/
theorem orderBy_map {key : α → κ} {keyAfter : β → κ} {read : α → β} {rows : List α}
    (kept : ∀ row ∈ rows, keyAfter (read row) = key row) :
    orderBy keyAfter (rows.map read) = (orderBy key rows).map read := by
  refine (List.map_insertionSort _ _ read rows fun left leftListed right rightListed => ?_).symm
  rw [kept left leftListed, kept right rightListed]

/-- Rows are sorted by a flag first: the rows without it, then the rows with it. -/
theorem orderBy_flag {key : α → κ} {rows : List α} (distinct : (rows.map key).Nodup)
    (flag : α → Bool) :
    orderBy (fun row => toLex (flag row, key row)) rows =
      orderBy key (rows.filter fun row => !flag row) ++ orderBy key (rows.filter flag) := by
  have rising := orderBy_rising distinct
  rw [orderBy_filter distinct, orderBy_filter distinct]
  refine orderBy_eq ?_ ?_
  · -- Every row is in one of the two parts.
    refine (List.perm_append_comm.trans (List.filter_append_perm flag _)).trans ?_
    exact orderBy_perm key rows
  · -- The key rises in each part, and the flag from the first to the second.
    rw [List.pairwise_append]
    refine ⟨?_, ?_, ?_⟩
    · refine (rising.filter _).imp_of_mem fun leftListed rightListed below => ?_
      have left_ := (List.mem_filter.mp leftListed).2
      have right_ := (List.mem_filter.mp rightListed).2
      simp only [Bool.not_eq_true'] at left_ right_
      simp [Prod.Lex.toLex_lt_toLex, left_, right_, below]
    · refine (rising.filter _).imp_of_mem fun leftListed rightListed below => ?_
      have left_ := (List.mem_filter.mp leftListed).2
      have right_ := (List.mem_filter.mp rightListed).2
      simp [Prod.Lex.toLex_lt_toLex, left_, right_, below]
    · intro left leftListed right rightListed
      have left_ := (List.mem_filter.mp leftListed).2
      have right_ := (List.mem_filter.mp rightListed).2
      simp only [Bool.not_eq_true'] at left_
      simp [Prod.Lex.toLex_lt_toLex, left_, right_]

/-- COALESCE of a MAX: the bounds of the largest value of the rows, or of the default. -/
theorem foldl_max_le {read : α → κ} {rows : List α} {start bound : κ} :
    rows.foldl (fun last row => max last (read row)) start ≤ bound ↔
      start ≤ bound ∧ ∀ row ∈ rows, read row ≤ bound := by
  induction rows generalizing start with
  | nil => simp
  | cons row rows ih => simp [ih, and_assoc]

/-- COALESCE of a MAX is no smaller than the default and the value of each row. -/
theorem le_foldl_max (read : α → κ) (rows : List α) (start : κ) :
    start ≤ rows.foldl (fun last row => max last (read row)) start ∧
      ∀ row ∈ rows, read row ≤ rows.foldl (fun last row => max last (read row)) start :=
  foldl_max_le.mp (le_refl _)

end Store
