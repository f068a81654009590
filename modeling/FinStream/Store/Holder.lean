import FinStream.Store.Table

/-! Rows of a table that hold a role which only one row may hold. -/

universe u

namespace Store

namespace Table

variable {α : Type u} (holds : α → Bool)

/-- Whether the row under an id holds the role. -/
def Holder (table : Table α) (id : ℕ) : Prop := ∃ row, (id, row) ∈ table ∧ holds row = true

/-- At most one row holds the role. -/
def AtMostOne (table : Table α) : Prop :=
  ∀ left right, table.Holder holds left → table.Holder holds right → left = right

/-- What a statement may do to the role: leave it with whoever held it, or hand it to one row. -/
inductive Handover (before after : Table α) : Prop
  | kept (same : ∀ id, after.Holder holds id ↔ before.Holder holds id)
  | given (id : ℕ) (only : ∀ other, after.Holder holds other ↔ other = id)

variable {holds} {table before after : Table α}

/-- A table of a fresh schema has no holder. -/
theorem not_holder_empty (id : ℕ) : ¬(empty : Table α).Holder holds id := by
  rintro ⟨row, stored, -⟩
  exact not_mem_empty _ stored

/-- After an insertion the new row may hold the role, too. -/
theorem holder_insert {row : α} {id : ℕ} : (table.insert row).Holder holds id ↔
    table.Holder holds id ∨ (id = table.next ∧ holds row = true) := by
  simp only [Holder, mem_insert, Prod.mk.injEq]
  constructor
  · rintro ⟨stored, old | ⟨rfl, rfl⟩, marked⟩
    · exact Or.inl ⟨stored, old, marked⟩
    · exact Or.inr ⟨rfl, marked⟩
  · rintro (⟨stored, old, marked⟩ | ⟨rfl, marked⟩)
    · exact ⟨stored, Or.inl old, marked⟩
    · exact ⟨row, Or.inr ⟨rfl, rfl⟩, marked⟩

/-- After an update a row holds the role when what it has become is marked with it. -/
theorem holder_updateWhere {condition : ℕ → α → Bool} {change : α → α} {id : ℕ} :
    (table.updateWhere condition change).Holder holds id ↔
      ∃ row, (id, row) ∈ table ∧
        holds (if condition id row then change row else row) = true := by
  simp only [Holder, mem_updateWhere]
  constructor
  · rintro ⟨now, ⟨row, stored, rfl⟩, marked⟩
    exact ⟨row, stored, marked⟩
  · rintro ⟨row, stored, marked⟩
    exact ⟨_, ⟨row, stored, rfl⟩, marked⟩

/-- An update that does not touch the role leaves it with whoever held it. -/
theorem Handover.of_updateWhere {condition : ℕ → α → Bool} {change : α → α}
    (untouched : ∀ id row, (id, row) ∈ table → condition id row = true →
      holds (change row) = holds row) :
    Handover holds table (table.updateWhere condition change) := by
  refine .kept fun id => ?_
  rw [holder_updateWhere]
  refine exists_congr fun row => and_congr_right fun stored => ?_
  split
  · rename_i changed
    rw [untouched id row stored changed]
  · rfl

/-- A new row that does not hold the role leaves it with whoever held it. -/
theorem Handover.of_insert {row : α} (without : holds row = false) :
    Handover holds table (table.insert row) := by
  refine .kept fun id => ?_
  rw [holder_insert, without]
  simp

/-- A new row that holds the role is the only one when there was no other. -/
theorem Handover.to_insert {row : α} (vacant : ∀ id, ¬table.Holder holds id)
    (marked : holds row = true) : Handover holds before (table.insert row) := by
  -- Nobody held it, so whoever does is the new row.
  refine .given table.next fun other => ?_
  rw [holder_insert]
  constructor
  · rintro (old | ⟨same, -⟩)
    · exact absurd old (vacant other)
    · exact same
  · exact fun same => Or.inr ⟨same, marked⟩

/-- A changed row that holds the role is the only one when no other row held it. -/
theorem Handover.to_update {condition : ℕ → α → Bool} {change : α → α} {id : ℕ} {row : α}
    (vacant : ∀ other, table.Holder holds other → other = id) (stored : (id, row) ∈ table)
    (changed : ∀ other stored, condition other stored = true → other = id)
    (marked : holds (if condition id row then change row else row) = true) :
    Handover holds before (table.updateWhere condition change) := by
  refine .given id fun other => ?_
  rw [holder_updateWhere]
  constructor
  · rintro ⟨there, member, now⟩
    -- A touched row is the one under the id, and so is any other that held the role.
    split at now
    · rename_i touched
      exact changed other there touched
    · exact vacant other ⟨there, member, now⟩
  · rintro rfl
    exact ⟨row, stored, marked⟩

/-- Whoever takes over, at most one row holds the role. -/
theorem Handover.atMostOne (handover : Handover holds before after)
    (single : before.AtMostOne holds) : after.AtMostOne holds := by
  intro left right leftHolds rightHolds
  cases handover with
  | kept same => exact single left right ((same left).mp leftHolds) ((same right).mp rightHolds)
  | given id only => exact ((only left).mp leftHolds).trans ((only right).mp rightHolds).symm

/-- A role that was held is held. -/
theorem Handover.held (handover : Handover holds before after)
    (held : ∃ id, before.Holder holds id) : ∃ id, after.Holder holds id := by
  cases handover with
  | kept same =>
    obtain ⟨id, holder⟩ := held
    exact ⟨id, (same id).mpr holder⟩
  | given id only => exact ⟨id, (only id).mpr rfl⟩

/-- A statement may follow one that hands the role over. -/
theorem Handover.trans {middle : Table α} (first : Handover holds before middle)
    (second : Handover holds middle after) : Handover holds before after := by
  -- The last row it was given to holds it, whatever happened before.
  cases second with
  | given id only => exact .given id only
  | kept same =>
    cases first with
    | kept earlier => exact .kept fun id => (same id).trans (earlier id)
    | given id only => exact .given id fun other => (same other).trans (only other)

/-- Statements may leave a table alone. -/
theorem Handover.refl (table : Table α) : Handover holds table table := .kept fun _ => Iff.rfl

/-- A role that is held by at most one row and by some row is held by exactly one. -/
theorem AtMostOne.existsUnique (single : table.AtMostOne holds)
    (held : ∃ id, table.Holder holds id) : ∃! id, table.Holder holds id := by
  obtain ⟨id, holder⟩ := held
  exact ⟨id, holder, fun other there => single other id there holder⟩

end Table

end Store
