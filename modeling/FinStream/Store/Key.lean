import FinStream.Store.Evolution

/-! UNIQUE constraints: partial keys under which a table stores at most one row. -/

universe u v

namespace Store

open Relation

variable {α : Type u} {κ : Type v}

/-- Rows that have a key have different ones; rows without a key are not constrained. -/
def UniqueKey (key : α → Option κ) (table : Table α) : Prop :=
  ∀ left right leftRow rightRow value, (left, leftRow) ∈ table → (right, rightRow) ∈ table →
    key leftRow = some value → key rightRow = some value → left = right

namespace UniqueKey

variable {key : α → Option κ} {table : Table α}

/-- A fresh table meets every constraint. -/
theorem empty (key : α → Option κ) : UniqueKey key (Table.empty : Table α) :=
  fun _ _ _ _ _ stored => absurd stored (Table.not_mem_empty _)

/-- Two rows with one key are one row. -/
theorem row_eq (unique : UniqueKey key table) {left right : ℕ} {leftRow rightRow : α} {value : κ}
    (leftStored : (left, leftRow) ∈ table) (rightStored : (right, rightRow) ∈ table)
    (leftKey : key leftRow = some value) (rightKey : key rightRow = some value) :
    left = right ∧ leftRow = rightRow := by
  obtain rfl := unique _ _ _ _ _ leftStored rightStored leftKey rightKey
  exact ⟨rfl, Table.unique leftStored rightStored⟩

/-- A condition that only rows with one key satisfy counts at most one row. -/
theorem count_le_one (unique : UniqueKey key table) {condition : ℕ → α → Bool} {value : κ}
    (has : ∀ id row, condition id row = true → key row = some value) :
    table.count condition ≤ 1 := by
  rw [Table.count, List.countP_eq_length_filter]
  -- Two counted entries would be stored under one id, but ids increase along the list.
  have distinct : (table.rows.filter fun entry => condition entry.1 entry.2).Pairwise
      fun left right => left.1 < right.1 := (List.pairwise_map.mp table.ascending).filter _
  have stored : ∀ entry ∈ table.rows.filter fun entry => condition entry.1 entry.2,
      entry ∈ table ∧ condition entry.1 entry.2 = true := fun entry member =>
    List.mem_filter.mp member
  cases listed : table.rows.filter fun entry => condition entry.1 entry.2 with
  | nil => simp
  | cons first rest =>
    cases rest with
    | nil => simp
    | cons second rest =>
      rw [listed] at distinct stored
      have below := (List.pairwise_cons.mp distinct).1 second (by simp)
      have left_ := stored first (by simp)
      have right_ := stored second (by simp)
      have same := unique first.1 second.1 first.2 second.2 value left_.1 right_.1
        (has _ _ left_.2) (has _ _ right_.2)
      omega

/-- An update that gives no row a key it did not have keeps keys unique. -/
theorem updateWhere_of_released (unique : UniqueKey key table) {condition : ℕ → α → Bool}
    {change : α → α} (released : ∀ id row value, (id, row) ∈ table → condition id row = true →
      key (change row) = some value → key row = some value) :
    UniqueKey key (table.updateWhere condition change) := by
  -- Every key stored after the update was stored under the same id before it.
  have origin : ∀ id row value, (id, row) ∈ table.updateWhere condition change →
      key row = some value → ∃ old, (id, old) ∈ table ∧ key old = some value := by
    intro id row value stored has
    obtain ⟨old, there, rfl⟩ := Table.mem_updateWhere.mp stored
    refine ⟨old, there, ?_⟩
    split at has
    · exact released id old value there ‹_› has
    · exact has
  intro left right leftRow rightRow value leftStored rightStored leftKey rightKey
  obtain ⟨leftOld, leftThere, leftHad⟩ := origin _ _ value leftStored leftKey
  obtain ⟨rightOld, rightThere, rightHad⟩ := origin _ _ value rightStored rightKey
  exact unique _ _ _ _ value leftThere rightThere leftHad rightHad

/-- An update that changes no key keeps keys unique. -/
theorem updateWhere (unique : UniqueKey key table) {condition : ℕ → α → Bool} {change : α → α}
    (kept : ∀ id row, (id, row) ∈ table → condition id row = true → key (change row) = key row) :
    UniqueKey key (table.updateWhere condition change) :=
  unique.updateWhere_of_released fun id row _ stored holds has => kept id row stored holds ▸ has

/-- A deletion keeps keys unique. -/
theorem deleteWhere (unique : UniqueKey key table) (condition : ℕ → α → Bool) :
    UniqueKey key (table.deleteWhere condition) :=
  fun _ _ _ _ value leftStored rightStored =>
    unique _ _ _ _ value (Table.mem_deleteWhere.mp leftStored).1
      (Table.mem_deleteWhere.mp rightStored).1

/-- A table whose rows are all stored in another one inherits its unique keys. -/
theorem subset (unique : UniqueKey key table) {smaller : Table α}
    (stored : ∀ entry ∈ smaller, entry ∈ table) : UniqueKey key smaller :=
  fun _ _ _ _ value leftStored rightStored =>
    unique _ _ _ _ value (stored _ leftStored) (stored _ rightStored)

/-- An insertion of a row whose key is not stored keeps keys unique. -/
theorem insert (unique : UniqueKey key table) {row : α}
    (fresh : ∀ id old value, (id, old) ∈ table → key old = some value → key row ≠ some value) :
    UniqueKey key (table.insert row) := by
  intro left right leftRow rightRow value leftStored rightStored leftKey rightKey
  rcases Table.mem_insert.mp leftStored with leftOld | leftNew <;>
    rcases Table.mem_insert.mp rightStored with rightOld | rightNew
  · exact unique _ _ _ _ value leftOld rightOld leftKey rightKey
  · cases rightNew
    exact absurd rightKey (fresh _ _ value leftOld leftKey)
  · cases leftNew
    exact absurd leftKey (fresh _ _ value rightOld rightKey)
  · cases leftNew
    cases rightNew
    rfl

/-- An upsert on the key keeps keys unique when its merge leaves the key alone. -/
theorem upsert (unique : UniqueKey key table) {conflicts : α → Bool} {row : α} {merge : α → α}
    (detects : ∀ old value, key old = some value → key row = some value → conflicts old = true)
    (kept : ∀ id old, (id, old) ∈ table → conflicts old = true → key (merge old) = key old) :
    UniqueKey key (table.upsert conflicts row merge).2 := by
  rcases table.upsert_cases conflicts row merge with ⟨id, old, found, result⟩ | ⟨missing, result⟩
  · obtain ⟨stored, conflict⟩ := Table.find?_some found
    rw [result]
    refine unique.updateWhere fun other otherRow there same => ?_
    obtain rfl : other = id := by simpa using same
    obtain rfl := Table.unique there stored
    exact kept _ _ stored conflict
  · rw [result]
    refine unique.insert fun id old value stored has => ?_
    intro same
    have := Table.find?_none missing stored
    simp [detects old value has same] at this

end UniqueKey

/-- Statements that follow rules and keep the keys of the table unique. -/
structure Writes (rules : Rules α) (key : α → Option κ) (before after : Table α) : Prop where
  /-- The statements follow the rules. -/
  evolves : Evolves rules before after
  /-- The statements keep keys unique. -/
  unique : UniqueKey key before → UniqueKey key after

/-- The changes of the rules leave the key alone. -/
def Rules.Fixes (rules : Rules α) (key : α → Option κ) : Prop :=
  ∀ id row now, rules.change id row now → key now = key row

/-- A chain of changes that leave the key alone leaves it alone. -/
theorem Rules.Fixes.chain {rules : Rules α} {key : α → Option κ} (fixes : rules.Fixes key)
    {id : ℕ} {row now : α} (changed : ReflTransGen (rules.change id) row now) :
    key now = key row := by
  induction changed with
  | refl => rfl
  | tail _ last ih => rw [fixes _ _ _ last, ih]

namespace Writes

variable {rules : Rules α} {key : α → Option κ} {before middle after : Table α}

/-- Doing nothing keeps everything. -/
theorem refl (rules : Rules α) (key : α → Option κ) (table : Table α) :
    Writes rules key table table := ⟨.refl _ _, id⟩

/-- Statements one after the other keep what each of them keeps. -/
theorem trans (first : Writes rules key before middle) (second : Writes rules key middle after) :
    Writes rules key before after :=
  ⟨first.evolves.trans second.evolves, second.unique ∘ first.unique⟩

/-- Inserting a row whose key is not stored keeps keys unique. -/
theorem insert {row : α} (allowed : rules.create row)
    (fresh : ∀ id old value, (id, old) ∈ before → key old = some value → key row ≠ some value) :
    Writes rules key before (before.insert row) :=
  ⟨.insert allowed, fun unique => unique.insert fresh⟩

/-- An update by the rules keeps keys unique when the rules leave keys alone. -/
theorem updateWhere (fixes : rules.Fixes key) {condition : ℕ → α → Bool} {change : α → α}
    (allowed : ∀ id row, (id, row) ∈ before → condition id row = true →
      ReflTransGen (rules.change id) row (change row)) :
    Writes rules key before (before.updateWhere condition change) :=
  ⟨.updateWhere allowed, fun unique =>
    unique.updateWhere fun id row stored holds => fixes.chain (allowed id row stored holds)⟩

/-- A deletion by the rules keeps keys unique. -/
theorem deleteWhere {condition : ℕ → α → Bool}
    (allowed : ∀ id row, (id, row) ∈ before → condition id row = true → rules.remove id row) :
    Writes rules key before (before.deleteWhere condition) :=
  ⟨.deleteWhere allowed, fun unique => unique.deleteWhere condition⟩

/-- An upsert on the key keeps keys unique when the rules leave keys alone. -/
theorem upsert (fixes : rules.Fixes key) {conflicts : α → Bool} {fresh : α} {merge : α → α}
    (detects : ∀ old value, key old = some value → key fresh = some value → conflicts old = true)
    (inserted : rules.create fresh)
    (merged : ∀ id row, (id, row) ∈ before → conflicts row = true →
      ReflTransGen (rules.change id) row (merge row)) :
    Writes rules key before (before.upsert conflicts fresh merge).2 :=
  ⟨.upsert inserted merged, fun unique => unique.upsert detects fun id row stored conflict =>
    fixes.chain (merged id row stored conflict)⟩

end Writes

namespace Table

/-- SELECT of one column of the rows that satisfy a condition, in id order. -/
def select (table : Table α) (condition : α → Bool) (read : α → κ) : List κ :=
  (table.rows.filter fun entry => condition entry.2).map fun entry => read entry.2

/-- A column that tells the selected rows apart has each of its values once. -/
theorem select_perm {table : Table α} {condition : α → Bool} {read : α → κ} {values : List κ}
    (apart : ∀ left right leftRow rightRow, (left, leftRow) ∈ table → (right, rightRow) ∈ table →
      condition leftRow = true → condition rightRow = true → read leftRow = read rightRow →
      left = right)
    (distinct : values.Nodup)
    (same : ∀ value, (∃ id row, (id, row) ∈ table ∧ condition row = true ∧ read row = value) ↔
      value ∈ values) :
    (table.select condition read).Perm values := by
  have stored : ∀ entry ∈ table.rows.filter fun entry => condition entry.2,
      entry ∈ table ∧ condition entry.2 = true := fun _ => List.mem_filter.mp
  have sorted : table.rows.Pairwise fun one other => one.1 < other.1 :=
    List.pairwise_map.mp table.ascending
  have entries : (table.rows.filter fun entry => condition entry.2).Nodup :=
    List.Nodup.filter _ (sorted.imp fun below alike => Nat.ne_of_lt below (congrArg Prod.fst alike))
  -- Neither list repeats a value, so it is enough that they have the same ones.
  refine (List.perm_ext_iff_of_nodup (entries.map_on fun left isLeft right isRight alike => ?_)
    distinct).mpr fun value => ?_
  · obtain ⟨leftThere, leftHolds⟩ := stored left isLeft
    obtain ⟨rightThere, rightHolds⟩ := stored right isRight
    obtain ⟨left, leftRow⟩ := left
    obtain ⟨right, rightRow⟩ := right
    obtain rfl := apart _ _ _ _ leftThere rightThere leftHolds rightHolds alike
    rw [unique leftThere rightThere]
  · rw [← same, List.mem_map]
    constructor
    · rintro ⟨⟨id, row⟩, member, rfl⟩
      exact ⟨id, row, (stored _ member).1, (stored _ member).2, rfl⟩
    · rintro ⟨id, row, there, holds, rfl⟩
      exact ⟨(id, row), List.mem_filter.mpr ⟨there, holds⟩, rfl⟩

/-- After an upsert, the row under the returned id is the inserted or the merged one. -/
theorem upsert_stored (table : Table α) (conflicts : α → Bool) (row : α) (merge : α → α) :
    ∃ stored, ((table.upsert conflicts row merge).1, stored) ∈ (table.upsert conflicts row merge).2 ∧
      (stored = row ∨ ∃ old, ((table.upsert conflicts row merge).1, old) ∈ table ∧
        conflicts old = true ∧ stored = merge old) := by
  rcases table.upsert_cases conflicts row merge with ⟨id, old, found, result⟩ | ⟨missing, result⟩
  · obtain ⟨there, conflict⟩ := find?_some found
    rw [result]
    exact ⟨merge old, mem_updateWhere.mpr ⟨old, there, by simp⟩, .inr ⟨old, there, conflict, rfl⟩⟩
  · rw [result]
    exact ⟨row, mem_insert.mpr (.inr rfl), .inl rfl⟩

/-- An upsert leaves every other row alone. -/
theorem mem_upsert_of_ne {table : Table α} {conflicts : α → Bool} {row : α} {merge : α → α} {id : ℕ}
    {other : α} (different : id ≠ (table.upsert conflicts row merge).1) :
    (id, other) ∈ (table.upsert conflicts row merge).2 ↔ (id, other) ∈ table := by
  rcases table.upsert_cases conflicts row merge with ⟨at_, old, -, result⟩ | ⟨-, result⟩
  · rw [result] at different ⊢
    rw [mem_updateWhere]
    constructor
    · rintro ⟨old, stored, rfl⟩
      simpa [different] using stored
    · intro stored
      exact ⟨other, stored, by simp [different]⟩
  · rw [result] at different ⊢
    simp [different]

/-- The row an upsert replaces conflicted with it. -/
theorem upsert_conflicts {table : Table α} {conflicts : α → Bool} {row : α} {merge : α → α}
    {old : α} (stored : ((table.upsert conflicts row merge).1, old) ∈ table) :
    conflicts old = true := by
  rcases table.upsert_cases conflicts row merge with ⟨at_, first, found, result⟩ | ⟨-, result⟩
  · obtain ⟨there, conflict⟩ := find?_some found
    rw [result] at stored
    obtain rfl := unique stored there
    exact conflict
  · rw [result] at stored
    exact absurd (lt_next stored) (Nat.lt_irrefl _)

/-- What an upsert on a key leaves: one row of that key under the id, and all other rows. -/
structure Upserted (key : α → Option κ) (row : α) (table : Table α) (id : ℕ) (after : Table α) :
    Prop where
  /-- Rows of other keys are untouched. -/
  others : ∀ at_ other, key other ≠ key row → ((at_, other) ∈ after ↔ (at_, other) ∈ table)
  /-- Rows under other ids are untouched. -/
  elsewhere : ∀ at_ other, at_ ≠ id → ((at_, other) ∈ after ↔ (at_, other) ∈ table)
  /-- The row under the id, if there was one, had the key. -/
  replaced : ∀ old, (id, old) ∈ table → key old = key row
  /-- The row under the id has the key. -/
  result : ∀ stored, (id, stored) ∈ after → key stored = key row
  /-- Keys stay unique. -/
  unique : UniqueKey key table → UniqueKey key after

/-- An upsert that conflicts exactly on its key, and merges within it, does what upserts do. -/
theorem upserted {table : Table α} {conflicts : α → Bool} {row : α} {merge : α → α}
    {key : α → Option κ} (some_ : (key row).isSome)
    (detects : ∀ old, conflicts old = true ↔ key old = key row)
    (kept : ∀ old, conflicts old = true → key (merge old) = key old) :
    Upserted key row table (table.upsert conflicts row merge).1
      (table.upsert conflicts row merge).2 := by
  have replaced : ∀ old, ((table.upsert conflicts row merge).1, old) ∈ table →
      key old = key row := fun old there => (detects old).mp (upsert_conflicts there)
  have result : ∀ stored, ((table.upsert conflicts row merge).1, stored) ∈
      (table.upsert conflicts row merge).2 → key stored = key row := by
    intro stored there
    obtain ⟨new, member, origin⟩ := table.upsert_stored conflicts row merge
    obtain rfl := unique there member
    rcases origin with rfl | ⟨old, -, conflict, rfl⟩
    · rfl
    · exact (kept old conflict).trans ((detects old).mp conflict)
  refine ⟨fun at_ other different => ?_, fun at_ other => mem_upsert_of_ne, replaced, result,
    fun keys => ?_⟩
  · -- The row under the id has the key at both times, so another row is elsewhere.
    by_cases same : at_ = (table.upsert conflicts row merge).1
    · subst same
      exact ⟨fun there => absurd (result other there) different,
        fun there => absurd (replaced other there) different⟩
    · exact mem_upsert_of_ne same
  · refine keys.upsert (fun old value has fresh => (detects old).mpr (has.trans fresh.symm)) ?_
    exact fun _ old _ conflict => kept old conflict

/-- A conflicting row is the one an upsert merges into, when conflicts are unique. -/
theorem upsert_of_conflict {table : Table α} {conflicts : α → Bool} {row : α} {merge : α → α}
    {id : ℕ} {old : α} (stored : (id, old) ∈ table) (conflict : conflicts old = true)
    (alone : ∀ other otherRow, (other, otherRow) ∈ table → conflicts otherRow = true → other = id) :
    table.upsert conflicts row merge =
      (id, table.updateWhere (fun at_ _ => at_ == id) merge) := by
  rcases table.upsert_cases conflicts row merge with ⟨at_, first, found, result⟩ | ⟨missing, -⟩
  · obtain ⟨there, also⟩ := find?_some found
    obtain rfl := alone _ _ there also
    exact result
  · have := find?_none missing stored
    simp [conflict] at this

/-- Without a conflicting row an upsert inserts. -/
theorem upsert_of_fresh {table : Table α} {conflicts : α → Bool} {row : α} {merge : α → α}
    (fresh : ∀ id old, (id, old) ∈ table → conflicts old = false) :
    table.upsert conflicts row merge = (table.next, table.insert row) := by
  rcases table.upsert_cases conflicts row merge with ⟨at_, first, found, -⟩ | ⟨-, result⟩
  · obtain ⟨there, also⟩ := find?_some found
    simp [fresh _ _ there] at also
  · exact result

/-- INSERT ... ON CONFLICT(key) DO UPDATE of several rows, one after the other. -/
def upsertAll (conflicts : α → α → Bool) (merge : α → α → α) (rows : List α) (table : Table α) :
    Table α :=
  rows.foldl (fun table row => (table.upsert (conflicts row) row (merge row)).2) table

/-- Upserts that conflict exactly on a key and merge within it, once and for all. -/
structure Merges (conflicts : α → α → Bool) (merge : α → α → α) (key : α → Option κ)
    (rows : List α) : Prop where
  /-- Every row to be stored has a key. -/
  keyed : ∀ row ∈ rows, (key row).isSome
  /-- Rows to be stored under one key are one row. -/
  determined : ∀ left ∈ rows, ∀ right ∈ rows, key left = key right → left = right
  /-- A row conflicts exactly with the rows of its key. -/
  detects : ∀ row ∈ rows, ∀ old, conflicts row old = true ↔ key old = key row
  /-- Merging keeps the key. -/
  kept : ∀ row ∈ rows, ∀ old, key (merge row old) = key old
  /-- Merging a second time changes nothing. -/
  again : ∀ row ∈ rows, ∀ old, merge row (merge row old) = merge row old
  /-- Merging a row into itself changes nothing. -/
  itself : ∀ row ∈ rows, merge row row = row

/-- What upserting several rows leaves. -/
structure UpsertedAll (merge : α → α → α) (key : α → Option κ) (rows : List α)
    (before after : Table α) : Prop where
  /-- Ids are only used up. -/
  next_le : before.next ≤ after.next
  /-- Keys stay unique. -/
  unique : UniqueKey key after
  /-- Rows of other keys are untouched. -/
  others : ∀ id other, (∀ row ∈ rows, key other ≠ key row) →
    ((id, other) ∈ after ↔ (id, other) ∈ before)
  /-- A row is merged into the stored row of its key. -/
  merged : ∀ row ∈ rows, ∀ id old, (id, old) ∈ before → key old = key row →
    (id, merge row old) ∈ after
  /-- A row whose key is not stored is inserted under an id of its own. -/
  inserted : ∀ row ∈ rows, (∀ id old, (id, old) ∈ before → key old ≠ key row) →
    ∃ id, before.next ≤ id ∧ (id, row) ∈ after

/-- Upserting several rows merges or inserts each of them. -/
theorem upsertedAll {conflicts : α → α → Bool} {merge : α → α → α} {key : α → Option κ}
    {rows : List α} (merges : Merges conflicts merge key rows) {table : Table α}
    (unique : UniqueKey key table) :
    UpsertedAll merge key rows table (table.upsertAll conflicts merge rows) := by
  -- The induction is on the rows; what the first one stores is settled for the others.
  induction rows generalizing table with
  | nil => exact ⟨Nat.le_refl _, unique, fun _ _ _ => Iff.rfl, by simp, by simp⟩
  | cons row rest ih =>
    have later : ∀ other ∈ rest, other ∈ row :: rest := fun _ => List.mem_cons_of_mem _
    have first : row ∈ row :: rest := List.mem_cons_self
    have one : Upserted key row table _ (table.upsert (conflicts row) row (merge row)).2 :=
      upserted (merges.keyed row first) (merges.detects row first)
        fun old _ => merges.kept row first old
    have restMerges : Merges conflicts merge key rest :=
      ⟨fun other member => merges.keyed other (later other member),
        fun left leftMember right rightMember =>
          merges.determined left (later left leftMember) right (later right rightMember),
        fun other member => merges.detects other (later other member),
        fun other member => merges.kept other (later other member),
        fun other member => merges.again other (later other member),
        fun other member => merges.itself other (later other member)⟩
    have tail := ih restMerges (one.unique unique)
    -- Once a row is stored under the key of the first one, the others leave it alone.
    have settled : ∀ id stored, (id, stored) ∈ (table.upsert (conflicts row) row (merge row)).2 →
        key stored = key row → merge row stored = stored →
        (id, stored) ∈ ((table.upsert (conflicts row) row (merge row)).2).upsertAll conflicts merge
          rest := by
      intro id stored there same fixed
      by_cases repeated : ∃ other ∈ rest, key other = key row
      · obtain ⟨other, member, sameKey⟩ := repeated
        obtain rfl := merges.determined other (later other member) row first sameKey
        have := tail.merged other member id stored there same
        rwa [fixed] at this
      · refine (tail.others id stored fun other member again => repeated ?_).mpr there
        exact ⟨other, member, again.symm.trans same⟩
    have conflictKey : ∀ old, conflicts row old = true → key old = key row :=
      fun old => (merges.detects row first old).mp
    have next_le : table.next ≤ (table.upsert (conflicts row) row (merge row)).2.next := by
      rcases table.upsert_cases (conflicts row) row (merge row) with
        ⟨_, _, -, result⟩ | ⟨-, result⟩ <;> rw [result]
      · exact Nat.le_refl _
      · exact Nat.le_succ _
    refine ⟨Nat.le_trans next_le tail.next_le, tail.unique, ?_, ?_, ?_⟩
    · intro id other different
      have apart := different row first
      exact (tail.others id other fun fresh member => different fresh (later fresh member)).trans
        (one.others id other apart)
    · -- A row of the first key is merged now, and a row of another key later.
      intro fresh member id old stored same
      by_cases sameKey : key fresh = key row
      · obtain rfl := merges.determined fresh member row first sameKey
        have conflict := (merges.detects fresh first old).mpr same
        obtain ⟨key_, has⟩ := Option.isSome_iff_exists.mp (merges.keyed fresh first)
        have result : table.upsert (conflicts fresh) fresh (merge fresh) =
            (id, table.updateWhere (fun at_ _ => at_ == id) (merge fresh)) :=
          upsert_of_conflict stored conflict fun other otherRow otherStored again =>
            unique _ _ _ _ key_ otherStored stored ((conflictKey _ again).trans has)
              (same.trans has)
        refine settled id _ ?_ ((merges.kept fresh first old).trans same)
          (merges.again fresh first old)
        rw [result]
        exact mem_updateWhere.mpr ⟨old, stored, by simp⟩
      · have member : fresh ∈ rest := (List.mem_cons.mp member).resolve_left fun is =>
          sameKey (by rw [is])
        refine tail.merged fresh member id old ?_ same
        exact (one.others id old fun again => sameKey (same.symm.trans again)).mpr stored
    · intro fresh member missing
      by_cases sameKey : key fresh = key row
      · obtain rfl := merges.determined fresh member row first sameKey
        have result : table.upsert (conflicts fresh) fresh (merge fresh) =
            (table.next, table.insert fresh) := by
          refine upsert_of_fresh fun id old stored => ?_
          rw [Bool.eq_false_iff]
          exact fun conflict => missing id old stored (conflictKey old conflict)
        refine ⟨table.next, Nat.le_refl _, settled table.next fresh ?_ rfl
          (merges.itself fresh first)⟩
        rw [result]
        exact mem_insert.mpr (.inr rfl)
      · have member : fresh ∈ rest := (List.mem_cons.mp member).resolve_left fun is =>
          sameKey (by rw [is])
        obtain ⟨id, above, stored⟩ := tail.inserted fresh member fun id old there same =>
          missing id old
            ((one.others id old fun again => sameKey (same.symm.trans again)).mp there) same
        exact ⟨id, Nat.le_trans next_le above, stored⟩

end Table

end Store
