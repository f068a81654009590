import Mathlib.Data.List.Nodup
import Mathlib.Data.List.Pairwise

/-! Tables of rows under automatically assigned ids, with the statements of a transaction. -/

universe u

namespace Store

/-- Rows of one table in ascending id order, and the id the next insertion receives. -/
structure Table (α : Type u) where
  /-- Each stored row behind its id. -/
  rows : List (ℕ × α)
  /-- One more than the largest id ever assigned. -/
  next : ℕ
  /-- Ids strictly increase along the list, so no id is stored twice. -/
  ascending : (rows.map Prod.fst).Pairwise (· < ·)
  /-- Ids of deleted rows are never assigned again. -/
  bounded : ∀ entry ∈ rows, entry.1 < next

namespace Table

variable {α : Type u}

/-- A pair belongs to a table when that row is stored under that id. -/
instance : Membership (ℕ × α) (Table α) := ⟨fun table entry => entry ∈ table.rows⟩

/-- Membership of a table is membership of its list of rows. -/
theorem mem_rows {table : Table α} {entry : ℕ × α} : entry ∈ table ↔ entry ∈ table.rows := Iff.rfl

/-- Two tables with the same rows and the same next id are equal. -/
@[ext] theorem ext {left right : Table α} (rows : left.rows = right.rows)
    (next : left.next = right.next) : left = right := by
  cases left
  cases right
  simp_all

/-- A table is determined by its rows and next id, so comparing those decides equality. -/
instance [DecidableEq α] : DecidableEq (Table α) := fun left right =>
  decidable_of_iff (left.rows = right.rows ∧ left.next = right.next)
    ⟨fun same => ext same.1 same.2, fun same => by simp [same]⟩

/-- The table of a fresh schema, whose first row receives id one. -/
def empty : Table α where
  rows := []
  next := 1
  ascending := by simp
  bounded := by simp

/-- A fresh table stores nothing. -/
@[simp] theorem not_mem_empty (entry : ℕ × α) : entry ∉ (empty : Table α) := by
  simp [mem_rows, empty]

/-- An id is stored with at most one row. -/
theorem unique {table : Table α} {id : ℕ} {left right : α} (leftStored : (id, left) ∈ table)
    (rightStored : (id, right) ∈ table) : left = right := by
  -- Ids differ pairwise along the list, so two entries sharing an id are one entry.
  have distinct : (table.rows.map Prod.fst).Nodup :=
    table.ascending.imp fun below => Nat.ne_of_lt below
  have same := List.inj_on_of_nodup_map distinct leftStored rightStored rfl
  simpa using same

/-- Stored ids lie below the next id. -/
theorem lt_next {table : Table α} {id : ℕ} {row : α} (stored : (id, row) ∈ table) :
    id < table.next := table.bounded _ stored

/-- INSERT with an automatically assigned id. -/
def insert (table : Table α) (row : α) : Table α where
  rows := table.rows ++ [(table.next, row)]
  next := table.next + 1
  ascending := by
    -- The new id exceeds every stored id, so it extends the ascending list at its end.
    rw [List.map_append, List.pairwise_append]
    refine ⟨table.ascending, by simp, ?_⟩
    intro id stored fresh new
    obtain ⟨entry, member, rfl⟩ := List.mem_map.mp stored
    simp only [List.map_cons, List.map_nil, List.mem_singleton] at new
    subst new
    exact table.bounded entry member
  bounded := by
    intro entry member
    rcases List.mem_append.mp member with old | new
    · exact Nat.lt_succ_of_lt (table.bounded entry old)
    · rw [List.mem_singleton.mp new]
      exact Nat.lt_succ_self _

/-- An insertion adds its row under the next id and keeps everything else. -/
@[simp] theorem mem_insert {table : Table α} {row : α} {entry : ℕ × α} :
    entry ∈ table.insert row ↔ entry ∈ table ∨ entry = (table.next, row) := by
  simp [mem_rows, insert]

/-- An insertion uses up one id. -/
@[simp] theorem insert_next (table : Table α) (row : α) :
    (table.insert row).next = table.next + 1 := rfl

/-- UPDATE of every row that satisfies the condition. -/
def updateWhere (table : Table α) (condition : ℕ → α → Bool) (change : α → α) : Table α where
  rows := table.rows.map fun entry =>
    (entry.1, if condition entry.1 entry.2 then change entry.2 else entry.2)
  next := table.next
  ascending := by
    have ids : (table.rows.map fun entry =>
        (entry.1, if condition entry.1 entry.2 then change entry.2 else entry.2)).map Prod.fst
        = table.rows.map Prod.fst := by simp [List.map_map, Function.comp_def]
    rw [ids]
    exact table.ascending
  bounded := by
    intro entry member
    obtain ⟨old, stored, rfl⟩ := List.mem_map.mp member
    exact table.bounded old stored

/-- Rows after an update are the old rows, changed where the condition held. -/
theorem mem_updateWhere {table : Table α} {condition : ℕ → α → Bool} {change : α → α} {id : ℕ}
    {row : α} : (id, row) ∈ table.updateWhere condition change ↔
      ∃ old, (id, old) ∈ table ∧ row = if condition id old then change old else old := by
  simp only [mem_rows, updateWhere, List.mem_map, Prod.mk.injEq, Prod.exists]
  constructor
  · rintro ⟨at_, old, stored, rfl, rfl⟩
    exact ⟨old, stored, rfl⟩
  · rintro ⟨old, stored, rfl⟩
    exact ⟨id, old, stored, rfl, rfl⟩

/-- An update assigns no id. -/
@[simp] theorem updateWhere_next (table : Table α) (condition : ℕ → α → Bool) (change : α → α) :
    (table.updateWhere condition change).next = table.next := rfl

/-- Two updates under one condition, which the first keeps, are one update. -/
theorem updateWhere_updateWhere (table : Table α) {condition : ℕ → α → Bool} {first : α → α}
    (kept : ∀ id row, condition id row = true → condition id (first row) = true)
    (second : α → α) :
    (table.updateWhere condition first).updateWhere condition second =
      table.updateWhere condition (second ∘ first) := by
  refine ext ?_ rfl
  simp only [updateWhere, List.map_map]
  refine List.map_congr_left fun entry _ => ?_
  by_cases holds : condition entry.1 entry.2 = true
  · simp [holds, kept _ _ holds]
  · simp [holds]

/-- What is read of the rows is the same after an update that no reading shows. -/
theorem filterMap_updateWhere {β : Type*} {table : Table α} {condition : ℕ → α → Bool}
    {change : α → α} {read : ℕ × α → Option β}
    (unread : ∀ id row, (id, row) ∈ table → condition id row = true →
      read (id, change row) = read (id, row)) :
    (table.updateWhere condition change).rows.filterMap read = table.rows.filterMap read := by
  rw [updateWhere, List.filterMap_map]
  refine List.filterMap_congr fun entry member => ?_
  rw [Function.comp_apply]
  split
  · rename_i holds
    exact unread entry.1 entry.2 member holds
  · rfl

/-- Updating the row just inserted inserts the updated row. -/
theorem insert_updateWhere (table : Table α) (row : α) (change : α → α) :
    (table.insert row).updateWhere (fun id _ => id == table.next) change =
      table.insert (change row) := by
  -- No stored id equals the next one, so the update passes over the old rows.
  have passed : ∀ entry ∈ table.rows, (entry.1 == table.next) = false := fun entry member => by
    simpa using Nat.ne_of_lt (table.bounded entry member)
  refine ext ?_ rfl
  simp only [updateWhere, insert, List.map_append, List.map_cons, List.map_nil, beq_self_eq_true,
    if_true, List.append_cancel_right_eq]
  conv_rhs => rw [← List.map_id table.rows]
  exact List.map_congr_left fun entry member => by simp [passed entry member]

/-- DELETE of every row that satisfies the condition. -/
def deleteWhere (table : Table α) (condition : ℕ → α → Bool) : Table α where
  rows := table.rows.filter fun entry => !condition entry.1 entry.2
  next := table.next
  ascending := table.ascending.sublist (List.filter_sublist.map Prod.fst)
  bounded := fun entry member => table.bounded entry (List.mem_filter.mp member).1

/-- Rows after a deletion are the old rows on which the condition failed. -/
@[simp] theorem mem_deleteWhere {table : Table α} {condition : ℕ → α → Bool} {id : ℕ} {row : α} :
    (id, row) ∈ table.deleteWhere condition ↔ (id, row) ∈ table ∧ condition id row = false := by
  simp [mem_rows, deleteWhere]

/-- A deletion assigns no id and gives none back. -/
@[simp] theorem deleteWhere_next (table : Table α) (condition : ℕ → α → Bool) :
    (table.deleteWhere condition).next = table.next := rfl

/-- SELECT ... ORDER BY id LIMIT 1. -/
def find? (table : Table α) (condition : ℕ → α → Bool) : Option (ℕ × α) :=
  table.rows.find? fun entry => condition entry.1 entry.2

/-- A selected row is stored and satisfies the condition. -/
theorem find?_some {table : Table α} {condition : ℕ → α → Bool} {id : ℕ} {row : α}
    (found : table.find? condition = some (id, row)) :
    (id, row) ∈ table ∧ condition id row = true :=
  ⟨List.mem_of_find?_eq_some found, by simpa using List.find?_some found⟩

/-- Selecting nothing means no stored row satisfies the condition. -/
theorem find?_none {table : Table α} {condition : ℕ → α → Bool}
    (missing : table.find? condition = none) {id : ℕ} {row : α} (stored : (id, row) ∈ table) :
    condition id row = false := by
  simpa using List.find?_eq_none.mp missing (id, row) stored

/-- A row is selected exactly when some stored row satisfies the condition. -/
theorem find?_isSome {table : Table α} {condition : ℕ → α → Bool} :
    (table.find? condition).isSome = true ↔
      ∃ id row, (id, row) ∈ table ∧ condition id row = true := by
  simp [find?, List.find?_isSome, mem_rows]

/-- The selected row is the satisfying row of least id. -/
theorem find?_least {table : Table α} {condition : ℕ → α → Bool} {id other : ℕ} {row found : α}
    (selected : table.find? condition = some (id, found)) (stored : (other, row) ∈ table)
    (holds : condition other row = true) : id ≤ other := by
  -- The list splits at the selected row, and the rows before it fail the condition.
  obtain ⟨-, before, after, split, fails⟩ := List.find?_eq_some_iff_append.mp selected
  rw [mem_rows, split] at stored
  have ascending := table.ascending
  rw [split, List.map_append, List.map_cons, List.pairwise_append, List.pairwise_cons] at ascending
  rcases List.mem_append.mp stored with earlier | later
  · have := fails (other, row) earlier
    simp [holds] at this
  · rcases List.mem_cons.mp later with same | later
    · cases same
      exact Nat.le_refl _
    · exact Nat.le_of_lt (ascending.2.1.1 other (List.mem_map_of_mem (f := Prod.fst) later))

/-- SELECT ... WHERE id = ?. -/
def get? (table : Table α) (id : ℕ) : Option α :=
  (table.find? fun stored _ => stored == id).map Prod.snd

/-- Looking an id up returns exactly the row stored under it. -/
@[simp] theorem get?_eq_some {table : Table α} {id : ℕ} {row : α} :
    table.get? id = some row ↔ (id, row) ∈ table := by
  unfold get?
  constructor
  · intro found
    cases located : table.find? fun stored _ => stored == id with
    | none => simp [located] at found
    | some entry =>
      obtain ⟨at_, other⟩ := entry
      obtain ⟨stored, same⟩ := find?_some located
      simp only [located, Option.map_some, Option.some.injEq] at found
      simp only [beq_iff_eq] at same
      rwa [← same, ← found]
  · intro stored
    cases located : table.find? fun at_ _ => at_ == id with
    | none =>
      have := find?_none located stored
      simp at this
    | some entry =>
      obtain ⟨other, there⟩ := entry
      obtain ⟨member, same⟩ := find?_some located
      simp only [beq_iff_eq] at same
      rw [same] at member
      simp [unique member stored]

/-- An id with no stored row looks up to nothing. -/
theorem get?_eq_none {table : Table α} {id : ℕ} :
    table.get? id = none ↔ ∀ row, (id, row) ∉ table := by
  simp [Option.eq_none_iff_forall_ne_some]

/-- SELECT COUNT(*) of the rows that satisfy a condition. -/
def count (table : Table α) (condition : ℕ → α → Bool) : ℕ :=
  table.rows.countP fun entry => condition entry.1 entry.2

/-- A condition counts nothing exactly when no stored row satisfies it. -/
theorem count_eq_zero {table : Table α} {condition : ℕ → α → Bool} :
    table.count condition = 0 ↔ ∀ id row, (id, row) ∈ table → condition id row = false := by
  simp [count, mem_rows, List.countP_eq_zero]

/-- An insertion is counted when it satisfies the condition. -/
theorem count_insert (table : Table α) (row : α) (condition : ℕ → α → Bool) :
    (table.insert row).count condition =
      table.count condition + if condition table.next row then 1 else 0 := by
  simp only [count, insert, List.countP_append, List.countP_singleton]

/-- An update that does not affect the condition does not affect the count. -/
theorem count_updateWhere {table : Table α} {changed condition : ℕ → α → Bool} {change : α → α}
    (kept : ∀ id row, (id, row) ∈ table → changed id row = true →
      condition id (change row) = condition id row) :
    (table.updateWhere changed change).count condition = table.count condition := by
  simp only [count, updateWhere, List.countP_map]
  refine List.countP_congr fun entry member => ?_
  simp only [Function.comp_apply]
  split
  · rw [kept _ _ member ‹_›]
  · rfl

/-- Conditions that agree on the stored rows count the same rows. -/
theorem count_congr {table : Table α} {condition other : ℕ → α → Bool}
    (same : ∀ id row, (id, row) ∈ table → condition id row = other id row) :
    table.count condition = table.count other :=
  List.countP_congr fun entry member => by rw [same _ _ member]

/-- INSERT ... ON CONFLICT(key) DO UPDATE, with the id of the inserted or updated row. -/
def upsert (table : Table α) (conflicts : α → Bool) (fresh : α) (merge : α → α) : ℕ × Table α :=
  match table.find? fun _ row => conflicts row with
  | some (id, _) => (id, table.updateWhere (fun stored _ => stored == id) merge)
  | none => (table.next, table.insert fresh)

/-- An upsert either changes the first conflicting row or inserts when none conflicts. -/
theorem upsert_cases (table : Table α) (conflicts : α → Bool) (fresh : α) (merge : α → α) :
    (∃ id old, table.find? (fun _ row => conflicts row) = some (id, old) ∧
      table.upsert conflicts fresh merge =
        (id, table.updateWhere (fun stored _ => stored == id) merge)) ∨
    (table.find? (fun _ row => conflicts row) = none ∧
      table.upsert conflicts fresh merge = (table.next, table.insert fresh)) := by
  unfold upsert
  cases found : table.find? fun _ row => conflicts row with
  | none => exact .inr ⟨rfl, rfl⟩
  | some entry => exact .inl ⟨entry.1, entry.2, rfl, rfl⟩

/-- INSERT OR IGNORE: the row is left out when a stored one conflicts with it. -/
def insertOrIgnore (table : Table α) (conflicts : ℕ → α → Bool) (row : α) : Table α :=
  match table.find? conflicts with
  | some _ => table
  | none => table.insert row

/-- An ignoring insertion either leaves the table alone or adds a row nothing conflicts with. -/
theorem insertOrIgnore_cases (table : Table α) (conflicts : ℕ → α → Bool) (row : α) :
    (table.insertOrIgnore conflicts row = table ∧
      ∃ id old, (id, old) ∈ table ∧ conflicts id old = true) ∨
    (table.insertOrIgnore conflicts row = table.insert row ∧
      ∀ id old, (id, old) ∈ table → conflicts id old = false) := by
  unfold insertOrIgnore
  cases found : table.find? conflicts with
  | none => exact .inr ⟨rfl, fun _ _ => find?_none found⟩
  | some entry => exact .inl ⟨rfl, entry.1, entry.2, find?_some found⟩

end Table

end Store
