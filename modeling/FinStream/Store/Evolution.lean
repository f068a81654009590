import FinStream.Store.Table
import Mathlib.Logic.Relation

/-! How a sequence of statements can have changed a table, read row by row. -/

universe u

namespace Store

open Relation

/-- What statements may do to the rows of a table: create, change or remove them. -/
structure Rules (α : Type u) where
  /-- Rows an insertion may create. -/
  create : α → Prop
  /-- Changes an update may make to the row under an id. -/
  change : ℕ → α → α → Prop
  /-- Rows a deletion may remove. -/
  remove : ℕ → α → Prop

variable {α : Type u}

/-- The table on the right comes from the one on the left by steps the rules allow. -/
structure Evolves (rules : Rules α) (before after : Table α) : Prop where
  /-- Ids are only ever used up. -/
  next_le : before.next ≤ after.next
  /-- Every old row is still there, changed by the rules, or was removed by them. -/
  kept : ∀ id row, (id, row) ∈ before →
    (∃ now, (id, now) ∈ after ∧ ReflTransGen (rules.change id) row now) ∨
    ∃ last, ReflTransGen (rules.change id) row last ∧ rules.remove id last
  /-- Every row under an old id comes from the row stored there before. -/
  origin : ∀ id now, (id, now) ∈ after → id < before.next →
    ∃ row, (id, row) ∈ before ∧ ReflTransGen (rules.change id) row now
  /-- Every row under a new id was created and then changed by the rules. -/
  created : ∀ id now, (id, now) ∈ after → before.next ≤ id →
    ∃ first, rules.create first ∧ ReflTransGen (rules.change id) first now

namespace Evolves

variable {rules : Rules α} {before middle after : Table α}

/-- Doing nothing follows any rules. -/
theorem refl (rules : Rules α) (table : Table α) : Evolves rules table table where
  next_le := Nat.le_refl _
  kept := fun _ row stored => .inl ⟨row, stored, .refl⟩
  origin := fun _ row stored _ => ⟨row, stored, .refl⟩
  created := fun _ _ stored above => absurd (Table.lt_next stored) (Nat.not_lt.mpr above)

/-- Statements that follow the rules one after the other follow them together. -/
theorem trans (first : Evolves rules before middle) (second : Evolves rules middle after) :
    Evolves rules before after where
  next_le := Nat.le_trans first.next_le second.next_le
  kept := by
    intro id row stored
    -- A row survives both halves or is removed in one of them.
    rcases first.kept id row stored with ⟨between, there, changed⟩ | removed
    · rcases second.kept id between there with ⟨now, last, again⟩ | ⟨last, again, gone⟩
      · exact .inl ⟨now, last, changed.trans again⟩
      · exact .inr ⟨last, changed.trans again, gone⟩
    · exact .inr removed
  origin := by
    intro id now stored old
    obtain ⟨between, there, again⟩ :=
      second.origin id now stored (Nat.lt_of_lt_of_le old first.next_le)
    obtain ⟨row, start, changed⟩ := first.origin id between there old
    exact ⟨row, start, changed.trans again⟩
  created := by
    intro id now stored new
    -- A new row was created in the half in which its id was assigned.
    rcases Nat.lt_or_ge id middle.next with inFirst | inSecond
    · obtain ⟨between, there, again⟩ := second.origin id now stored inFirst
      obtain ⟨fresh, allowed, changed⟩ := first.created id between there new
      exact ⟨fresh, allowed, changed.trans again⟩
    · exact second.created id now stored inSecond

/-- Inserting a row the rules may create follows the rules. -/
theorem insert {row : α} (allowed : rules.create row) :
    Evolves rules before (before.insert row) where
  next_le := Nat.le_succ _
  kept := fun _ old stored => .inl ⟨old, Table.mem_insert.mpr (.inl stored), .refl⟩
  origin := by
    intro id now stored old
    rcases Table.mem_insert.mp stored with same | new
    · exact ⟨now, same, .refl⟩
    · cases new
      exact absurd old (Nat.lt_irrefl _)
  created := by
    intro id now stored new
    rcases Table.mem_insert.mp stored with same | fresh
    · exact absurd (Table.lt_next same) (Nat.not_lt.mpr new)
    · cases fresh
      exact ⟨row, allowed, .refl⟩

/-- An update whose every change is made of steps the rules allow follows the rules. -/
theorem updateWhere {condition : ℕ → α → Bool} {change : α → α}
    (allowed : ∀ id row, (id, row) ∈ before → condition id row = true →
      ReflTransGen (rules.change id) row (change row)) :
    Evolves rules before (before.updateWhere condition change) where
  next_le := Nat.le_refl _
  -- A row is changed as allowed, or not at all.
  kept := by
    intro id row stored
    refine .inl ⟨_, Table.mem_updateWhere.mpr ⟨row, stored, rfl⟩, ?_⟩
    split
    · exact allowed id row stored ‹_›
    · exact .refl
  origin := by
    intro id now stored _
    obtain ⟨row, there, rfl⟩ := Table.mem_updateWhere.mp stored
    refine ⟨row, there, ?_⟩
    split
    · exact allowed id row there ‹_›
    · exact .refl
  created := by
    intro id now stored new
    obtain ⟨row, there, -⟩ := Table.mem_updateWhere.mp stored
    exact absurd (Table.lt_next there) (Nat.not_lt.mpr new)

/-- A deletion of rows the rules may remove follows the rules. -/
theorem deleteWhere {condition : ℕ → α → Bool}
    (allowed : ∀ id row, (id, row) ∈ before → condition id row = true → rules.remove id row) :
    Evolves rules before (before.deleteWhere condition) where
  next_le := Nat.le_refl _
  kept := by
    intro id row stored
    cases failing : condition id row with
    | false => exact .inl ⟨row, Table.mem_deleteWhere.mpr ⟨stored, failing⟩, .refl⟩
    | true => exact .inr ⟨row, .refl, allowed id row stored failing⟩
  origin := fun _ row stored _ => ⟨row, (Table.mem_deleteWhere.mp stored).1, .refl⟩
  created := by
    intro id now stored new
    exact absurd (Table.lt_next (Table.mem_deleteWhere.mp stored).1) (Nat.not_lt.mpr new)

/-- An upsert follows the rules when its insertion and its conflict update both do. -/
theorem upsert {conflicts : α → Bool} {fresh : α} {merge : α → α}
    (inserted : rules.create fresh)
    (merged : ∀ id row, (id, row) ∈ before → conflicts row = true →
      ReflTransGen (rules.change id) row (merge row)) :
    Evolves rules before (before.upsert conflicts fresh merge).2 := by
  rcases before.upsert_cases conflicts fresh merge with ⟨id, old, found, result⟩ | ⟨-, result⟩
  · -- The conflicting row was selected by the key, so only it changes.
    obtain ⟨stored, holds⟩ := Table.find?_some found
    rw [result]
    dsimp only
    refine updateWhere fun other row there same => ?_
    obtain rfl : other = id := by simpa using same
    obtain rfl := Table.unique there stored
    exact merged other row there holds
  · rw [result]
    exact Evolves.insert inserted

/-- Weaker rules allow everything stronger rules allow. -/
theorem mono {weaker : Rules α} (evolved : Evolves rules before after)
    (create : ∀ row, rules.create row → weaker.create row)
    (change : ∀ id row now, rules.change id row now → weaker.change id row now)
    (remove : ∀ id row, rules.remove id row → weaker.remove id row) :
    Evolves weaker before after where
  next_le := evolved.next_le
  kept := by
    intro id row stored
    rcases evolved.kept id row stored with ⟨now, there, changed⟩ | ⟨last, changed, gone⟩
    · exact .inl ⟨now, there, ReflTransGen.mono (change id) _ _ changed⟩
    · exact .inr ⟨last, ReflTransGen.mono (change id) _ _ changed, remove id last gone⟩
  origin := by
    intro id now stored old
    obtain ⟨row, there, changed⟩ := evolved.origin id now stored old
    exact ⟨row, there, ReflTransGen.mono (change id) _ _ changed⟩
  created := by
    intro id now stored new
    obtain ⟨first, allowed, changed⟩ := evolved.created id now stored new
    exact ⟨first, create first allowed, ReflTransGen.mono (change id) _ _ changed⟩

/-- A property that creation establishes and every change preserves holds of every row. -/
theorem forall_rows (property : ℕ → α → Prop) (evolved : Evolves rules before after)
    (create : ∀ id row, rules.create row → property id row)
    (change : ∀ id row now, property id row → rules.change id row now → property id now)
    (holds : ∀ id row, (id, row) ∈ before → property id row) :
    ∀ id row, (id, row) ∈ after → property id row := by
  -- Preservation by one change extends to a chain of changes by induction on the chain.
  have chain : ∀ id row now, ReflTransGen (rules.change id) row now → property id row →
      property id now := by
    intro id row now changed start
    induction changed with
    | refl => exact start
    | tail _ last ih => exact change _ _ _ ih last
  intro id now stored
  rcases Nat.lt_or_ge id before.next with old | new
  · obtain ⟨row, there, changed⟩ := evolved.origin id now stored old
    exact chain id row now changed (holds id row there)
  · obtain ⟨first, allowed, changed⟩ := evolved.created id now stored new
    exact chain id first now changed (create id first allowed)

/-- A row whose property every change preserves and no removal meets survives with the property. -/
theorem survives (property : α → Prop) {id : ℕ} {row : α} (evolved : Evolves rules before after)
    (change : ∀ old now, property old → rules.change id old now → property now)
    (remove : ∀ old, property old → ¬ rules.remove id old)
    (stored : (id, row) ∈ before) (holds : property row) :
    ∃ now, (id, now) ∈ after ∧ property now := by
  have chain : ∀ now, ReflTransGen (rules.change id) row now → property now := by
    intro now changed
    induction changed with
    | refl => exact holds
    | tail _ last ih => exact change _ _ ih last
  rcases evolved.kept id row stored with ⟨now, there, changed⟩ | ⟨last, changed, gone⟩
  · exact ⟨now, there, chain now changed⟩
  · exact absurd gone (remove last (chain last changed))

/-- A column no change touches keeps its value for as long as the row is stored. -/
theorem column_eq {β : Type*} {column : α → β} {id : ℕ} {row now : α}
    (evolved : Evolves rules before after)
    (change : ∀ old new, rules.change id old new → column new = column old)
    (stored : (id, row) ∈ before) (there : (id, now) ∈ after) : column now = column row := by
  obtain ⟨start, same, changed⟩ := evolved.origin id now there (Table.lt_next stored)
  obtain rfl := Table.unique stored same
  clear there
  induction changed with
  | refl => rfl
  | tail _ last ih => rw [change _ _ last, ih]

end Evolves

end Store
