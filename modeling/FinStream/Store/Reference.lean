import FinStream.Store.Holder

/-! References between rows, and statements that leave the rows referred to where they are. -/

universe u

namespace Store

/-- A row with a mark refers, if it refers at all, to something that is known. -/
def Refers (known : ℕ → Prop) (marked : Bool) (target : Option ℕ) : Prop :=
  marked = true → ∀ id ∈ target, known id

/-- A reference stays good while what is known grows. -/
theorem Refers.mono {known more : ℕ → Prop} {mark : Bool} {target : Option ℕ}
    (refers : Refers known mark target) (grows : ∀ id, known id → more id) :
    Refers more mark target :=
  fun holds id member => grows id (refers holds id member)

/-- A row without the mark may refer to anything. -/
theorem Refers.of_unmarked {known : ℕ → Prop} {target : Option ℕ} : Refers known false target :=
  fun holds => by cases holds

namespace Table

variable {α : Type u} {table : Table α} {marked : α → Bool}

/-- Changes that keep the mark leave every marked row marked. -/
theorem holder_updateWhere_of {condition : ℕ → α → Bool} {change : α → α} {id : ℕ}
    (kept : ∀ id row, (id, row) ∈ table → condition id row = true → marked row = true →
      marked (change row) = true)
    (held : table.Holder marked id) : (table.updateWhere condition change).Holder marked id := by
  obtain ⟨row, stored, mark⟩ := held
  refine holder_updateWhere.mpr ⟨row, stored, ?_⟩
  split
  · exact kept id row stored ‹_› mark
  · exact mark

/-- An insertion leaves every marked row marked. -/
theorem holder_insert_of {row : α} {id : ℕ} (held : table.Holder marked id) :
    (table.insert row).Holder marked id := holder_insert.mpr (Or.inl held)

/-- What an upsert does to each row: it is as it was, or it is the one that was found, or new. -/
theorem mem_upsert {conflicts : α → Bool} {fresh : α} {merge : α → α} {id : ℕ} {row : α}
    (stored : (id, row) ∈ (table.upsert conflicts fresh merge).2) :
    (id, row) ∈ table ∨
      (∃ old, table.find? (fun _ => conflicts) = some (id, old) ∧ row = merge old) ∨
      row = fresh := by
  rcases table.upsert_cases conflicts fresh merge with ⟨at_, old, found, result⟩ | ⟨-, result⟩
  · rw [result] at stored
    obtain ⟨before, was, rfl⟩ := mem_updateWhere.mp stored
    split
    · -- The row under the id that was found is the one that was found.
      rename_i here
      obtain rfl := beq_iff_eq.mp here
      obtain rfl := unique was (find?_some found).1
      exact Or.inr (Or.inl ⟨before, found, rfl⟩)
    · exact Or.inl was
  · rw [result] at stored
    rcases mem_insert.mp stored with was | new
    · exact Or.inl was
    · exact Or.inr (Or.inr (Prod.mk.inj new).2)

/-- An upsert that marks its row leaves every marked row marked. -/
theorem holder_upsert_of {conflicts : α → Bool} {fresh : α} {merge : α → α} {id : ℕ}
    (marks : ∀ row, marked (merge row) = true) (held : table.Holder marked id) :
    (table.upsert conflicts fresh merge).2.Holder marked id := by
  rcases table.upsert_cases conflicts fresh merge with ⟨at_, old, -, result⟩ | ⟨-, result⟩
  · rw [result]
    exact holder_updateWhere_of (fun _ row _ _ _ => marks row) held
  · rw [result]
    exact holder_insert_of held

/-- The row an upsert finds has the mark afterwards. -/
theorem holder_upsert_found {conflicts : α → Bool} {fresh old : α} {merge : α → α} {id : ℕ}
    (marks : ∀ row, marked (merge row) = true)
    (found : table.find? (fun _ => conflicts) = some (id, old)) :
    (table.upsert conflicts fresh merge).2.Holder marked id := by
  rw [upsert, found]
  exact ⟨merge old, mem_updateWhere.mpr ⟨old, (find?_some found).1, by simp⟩, marks old⟩

end Table

end Store
