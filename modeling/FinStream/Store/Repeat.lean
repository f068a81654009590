import FinStream.Store.Key
import FinStream.Store.Transaction

/-! Statements that are run a second time, and parts of rows that no statement reads. -/

universe u v w

namespace Store

namespace Table

variable {α : Type u} {β : Type v}

/-! ### Rows without a part -/

/-- The table with every row changed, under the same ids. -/
def map (change : α → β) (table : Table α) : Table β where
  rows := table.rows.map fun entry => (entry.1, change entry.2)
  next := table.next
  ascending := by
    rw [List.map_map]
    exact table.ascending
  bounded := by
    intro entry member
    obtain ⟨stored, there, rfl⟩ := List.mem_map.mp member
    exact table.bounded stored there

/-- Changed rows are the changes of stored rows. -/
theorem mem_map {change : α → β} {table : Table α} {id : ℕ} {row : β} :
    (id, row) ∈ table.map change ↔ ∃ old, (id, old) ∈ table ∧ change old = row := by
  simp [mem_rows, map]

/-- A mapped table keeps every id. -/
theorem map_ids (change : α → β) (table : Table α) :
    (table.map change).rows.map Prod.fst = table.rows.map Prod.fst := by
  simp [map, Function.comp_def]

/-- Changes one after the other are one change. -/
theorem map_map {γ : Type w} (change : α → β) (next : β → γ) (table : Table α) :
    (table.map change).map next = table.map (next ∘ change) := by
  ext1
  · simp [map]
  · rfl

/-- Changes that agree on the stored rows are one change. -/
theorem map_congr {change other : α → β} {table : Table α}
    (same : ∀ id row, (id, row) ∈ table → change row = other row) :
    table.map change = table.map other := by
  ext1
  · refine List.map_congr_left fun entry member => ?_
    rw [same entry.1 entry.2 member]
  · rfl

/-- Changing rows into what they are changes nothing. -/
theorem map_eq_self {change : α → α} {table : Table α}
    (same : ∀ id row, (id, row) ∈ table → change row = row) : table.map change = table := by
  exact (map_congr same : table.map change = table.map id).trans (ext (List.map_id _) rfl)

/-- An update that reads no id changes the rows it selects and keeps the others. -/
theorem updateWhere_eq_map (table : Table α) (condition : α → Bool) (change : α → α) :
    table.updateWhere (fun _ => condition) change =
      table.map fun row => if condition row then change row else row := rfl

/-- An insertion is changed by changing the new row. -/
theorem map_insert (change : α → β) (table : Table α) (row : α) :
    (table.insert row).map change = (table.map change).insert (change row) := by
  ext1
  · simp [map, insert]
  · rfl

variable {change : α → β} {reads : ℕ → α → Bool} {readsAfter : ℕ → β → Bool}

/-- Rows that are changed are found by what the change leaves. -/
theorem find?_map (table : Table α)
    (same : ∀ id row, readsAfter id (change row) = reads id row) :
    (table.map change).find? readsAfter =
      (table.find? reads).map fun entry => (entry.1, change entry.2) := by
  simp only [find?, map, List.find?_map, Function.comp_def, same]

/-- An id has the change of its row. -/
theorem get?_map (change : α → β) (table : Table α) (id : ℕ) :
    (table.map change).get? id = (table.get? id).map change := by
  rw [get?, find?_map table fun stored _ => rfl, get?, Option.map_map, Option.map_map]
  rfl

/-- An update commutes with a change of what it neither reads nor keeps. -/
theorem map_updateWhere (table : Table α) {write : α → α} {writeAfter : β → β}
    (same : ∀ id row, readsAfter id (change row) = reads id row)
    (written : ∀ row, writeAfter (change row) = change (write row)) :
    (table.updateWhere reads write).map change =
      (table.map change).updateWhere readsAfter writeAfter := by
  ext1
  · simp only [map, updateWhere, List.map_map]
    refine List.map_congr_left fun entry _ => ?_
    simp only [Function.comp_apply, same]
    split
    · rw [written]
    · rfl
  · rfl

/-- An update is not seen where it writes nothing that is looked at. -/
theorem map_updateWhere_unseen (table : Table α) {write : α → α}
    (unseen : ∀ row, change (write row) = change row) :
    (table.updateWhere reads write).map change = table.map change := by
  ext1
  · simp only [map, updateWhere, List.map_map]
    refine List.map_congr_left fun entry _ => ?_
    simp only [Function.comp_apply]
    split
    · rw [unseen]
    · rfl
  · rfl

/-- An upsert commutes with a change of what it neither reads nor keeps. -/
theorem map_upsert (table : Table α) {conflicts : α → Bool} {conflictsAfter : β → Bool}
    {fresh : α} {merge : α → α} {mergeAfter : β → β}
    (same : ∀ row, conflictsAfter (change row) = conflicts row)
    (merged : ∀ row, mergeAfter (change row) = change (merge row)) :
    (table.map change).upsert conflictsAfter (change fresh) mergeAfter =
      ((table.upsert conflicts fresh merge).1,
        (table.upsert conflicts fresh merge).2.map change) := by
  unfold upsert
  rw [find?_map table fun _ => same]
  cases table.find? fun _ row => conflicts row with
  | none =>
    dsimp only [Option.map_none]
    rw [map_insert]
    rfl
  | some entry =>
    dsimp only [Option.map_some]
    have updated : (table.updateWhere (fun stored _ => stored == entry.1) merge).map change =
        (table.map change).updateWhere (fun stored _ => stored == entry.1) mergeAfter :=
      map_updateWhere table (fun _ _ => rfl) merged
    rw [updated]

/-! ### What a second statement finds -/

section

variable {table : Table α} {condition : ℕ → α → Bool} {id : ℕ} {row : α}

/-- The row of least id that satisfies a condition is the one that is found. -/
theorem find?_eq_some_of_least (stored : (id, row) ∈ table) (holds : condition id row = true)
    (least : ∀ other otherRow, (other, otherRow) ∈ table → condition other otherRow = true →
      id ≤ other) : table.find? condition = some (id, row) := by
  cases found : table.find? condition with
  | none =>
    have missing := find?_none found stored
    rw [holds] at missing
    cases missing
  | some entry =>
    obtain ⟨other, otherRow⟩ := entry
    obtain ⟨there, satisfies⟩ := find?_some found
    obtain rfl := Nat.le_antisymm (find?_least found stored holds) (least _ _ there satisfies)
    rw [unique there stored]

/-- Changing rows into what they are changes nothing. -/
theorem updateWhere_eq_self {change : α → α}
    (same : ∀ id row, (id, row) ∈ table → condition id row = true → change row = row) :
    table.updateWhere condition change = table := by
  ext1
  · simp only [updateWhere]
    refine (List.map_congr_left fun entry member => ?_).trans (List.map_id _)
    obtain ⟨id, row⟩ := entry
    dsimp only
    split
    · rw [same id row member ‹_›]
      rfl
    · rfl
  · rfl

/-- A deletion that selects no row changes nothing. -/
theorem deleteWhere_eq_self (none_ : ∀ id row, (id, row) ∈ table → condition id row = false) :
    table.deleteWhere condition = table := by
  refine ext (List.filter_eq_self.mpr fun entry member => ?_) rfl
  rw [none_ entry.1 entry.2 member]
  rfl

/-- An update made again changes nothing, when changing a row again changes nothing. -/
theorem updateWhere_again (table : Table α) {change : α → α}
    (kept : ∀ id row, condition id row = true → condition id (change row) = true)
    (again : ∀ row, change (change row) = change row) :
    (table.updateWhere condition change).updateWhere condition change =
      table.updateWhere condition change := by
  rw [updateWhere_updateWhere table kept]
  exact congrArg (table.updateWhere condition) (funext again)

/-- Tables with one next id and one row under each id are one table. -/
theorem ext_mem {left right : Table α} (next : left.next = right.next)
    (same : ∀ id row, (id, row) ∈ left ↔ (id, row) ∈ right) : left = right := by
  -- Both lists ascend, so they are the same once they have the same entries.
  have sorted : ∀ table : Table α, table.rows.Pairwise fun one other => one.1 < other.1 :=
    fun table => List.pairwise_map.mp table.ascending
  refine ext (List.Perm.eq_of_pairwise (fun one other _ _ below above => ?_) (sorted left)
    (sorted right) ?_) next
  · exact absurd above (Nat.lt_asymm below)
  · refine (List.perm_ext_iff_of_nodup ?_ ?_).mpr fun entry => same entry.1 entry.2
    · exact (sorted left).imp fun below alike => Nat.ne_of_lt below (congrArg Prod.fst alike)
    · exact (sorted right).imp fun below alike => Nat.ne_of_lt below (congrArg Prod.fst alike)

/-- A table whose rows are all in another one with the same ids is that table. -/
theorem ext_of_ids {left right : Table α} (next : left.next = right.next)
    (ids : left.rows.map Prod.fst = right.rows.map Prod.fst)
    (stored : ∀ id row, (id, row) ∈ left → (id, row) ∈ right) : left = right := by
  refine ext_mem next fun id row => ⟨stored id row, fun there => ?_⟩
  have known : id ∈ left.rows.map Prod.fst := by
    rw [ids]
    exact List.mem_map_of_mem (f := Prod.fst) there
  obtain ⟨⟨_, other⟩, member, rfl⟩ := List.mem_map.mp known
  rw [unique there (stored _ other member)]
  exact member

end

section

variable (table : Table α) {conflicts : α → Bool} {fresh : α} {merge : α → α}

/-- After an upsert the row it merged, or else the new one, is the first that conflicts. -/
theorem upsert_finds (new : conflicts fresh = true)
    (kept : ∀ row, conflicts row = true → conflicts (merge row) = true) :
    ∃ row, (table.upsert conflicts fresh merge).2.find? (fun _ => conflicts) =
        some ((table.upsert conflicts fresh merge).1, row) ∧
      ((∃ old, table.find? (fun _ => conflicts) =
          some ((table.upsert conflicts fresh merge).1, old) ∧ row = merge old) ∨
        table.find? (fun _ => conflicts) = none ∧ row = fresh) := by
  rcases table.upsert_cases conflicts fresh merge with ⟨id, old, found, result⟩ | ⟨missing, result⟩
  · -- The found row is merged where it is, and the rows before it still do not conflict.
    rw [result]
    obtain ⟨stored, conflicting⟩ := find?_some found
    refine ⟨merge old, find?_eq_some_of_least ?_ (kept old conflicting) ?_, .inl ⟨old, found, rfl⟩⟩
    · exact mem_updateWhere.mpr ⟨old, stored, by simp⟩
    · intro other otherRow there conflict
      obtain ⟨before, was, rfl⟩ := mem_updateWhere.mp there
      split at conflict
      · rename_i same
        exact Nat.le_of_eq (beq_iff_eq.mp same).symm
      · exact find?_least found was conflict
  · -- No other row conflicts with the new one.
    rw [result]
    refine ⟨fresh, find?_eq_some_of_least (mem_insert.mpr (Or.inr rfl)) new ?_,
      .inr ⟨missing, rfl⟩⟩
    intro other otherRow there conflict
    rcases mem_insert.mp there with was | same
    · have none_ := find?_none missing was
      rw [conflict] at none_
      cases none_
    · exact Nat.le_of_eq (congrArg Prod.fst same).symm

/-- After an upsert its row is the first that conflicts, and merging again changes nothing. -/
theorem upsert_settles (new : conflicts fresh = true)
    (kept : ∀ row, conflicts row = true → conflicts (merge row) = true)
    (itself : merge fresh = fresh) (again : ∀ row, merge (merge row) = merge row) :
    ∃ row, (table.upsert conflicts fresh merge).2.find? (fun _ => conflicts) =
      some ((table.upsert conflicts fresh merge).1, row) ∧ merge row = row := by
  obtain ⟨row, found, origin⟩ := table.upsert_finds new kept
  refine ⟨row, found, ?_⟩
  rcases origin with ⟨old, -, rfl⟩ | ⟨-, rfl⟩
  · exact again old
  · exact itself

/-- An upsert of rows that another condition fails does not affect what this one finds. -/
theorem find?_upsert {other : α → Bool} (new : other fresh = false)
    (apart : ∀ row, conflicts row = true → other row = false ∧ other (merge row) = false) :
    (table.upsert conflicts fresh merge).2.find? (fun _ => other) =
      table.find? fun _ => other := by
  -- The rows of the other condition are the same before and after.
  have same : ∀ id row, other row = true →
      ((id, row) ∈ (table.upsert conflicts fresh merge).2 ↔ (id, row) ∈ table) := by
    intro id row holds
    rcases table.upsert_cases conflicts fresh merge with ⟨at_, old, found, result⟩ | ⟨-, result⟩
    · rw [result]
      obtain ⟨stored, conflicting⟩ := find?_some found
      constructor
      · intro there
        obtain ⟨before, was, rfl⟩ := mem_updateWhere.mp there
        split at holds
        · rename_i here
          obtain rfl := beq_iff_eq.mp here
          rw [unique was stored, (apart old conflicting).2] at holds
          cases holds
        · rwa [if_neg ‹_›]
      · intro was
        refine mem_updateWhere.mpr ⟨row, was, ?_⟩
        rw [if_neg]
        intro here
        obtain rfl := beq_iff_eq.mp here
        rw [unique was stored, (apart old conflicting).1] at holds
        cases holds
    · rw [result, mem_insert]
      refine ⟨fun there => there.resolve_right fun here => ?_, Or.inl⟩
      obtain ⟨rfl, rfl⟩ := Prod.mk.inj here
      rw [new] at holds
      cases holds
  cases found : table.find? fun _ => other with
  | none =>
    rw [← Option.not_isSome_iff_eq_none, find?_isSome]
    rintro ⟨id, row, there, holds⟩
    have missing := find?_none found ((same id row holds).mp there)
    rw [holds] at missing
    cases missing
  | some entry =>
    obtain ⟨id, row⟩ := entry
    obtain ⟨stored, holds⟩ := find?_some found
    exact find?_eq_some_of_least ((same id row holds).mpr stored) holds
      fun at_ there member satisfies =>
        find?_least found ((same at_ there satisfies).mp member) satisfies

variable {table}

/-- An upsert that finds its row as it would leave it changes nothing. -/
theorem upsert_eq_self {id : ℕ} {row : α}
    (found : table.find? (fun _ => conflicts) = some (id, row)) (settled : merge row = row) :
    table.upsert conflicts fresh merge = (id, table) := by
  rw [upsert, found]
  dsimp only
  rw [updateWhere_eq_self]
  intro other otherRow there here
  obtain rfl := beq_iff_eq.mp here
  rw [unique there (find?_some found).1, settled]

/-- An upsert made again changes nothing, when merging again changes nothing. -/
theorem upsert_again (table : Table α) (new : conflicts fresh = true)
    (kept : ∀ row, conflicts row = true → conflicts (merge row) = true)
    (itself : merge fresh = fresh) (again : ∀ row, merge (merge row) = merge row) :
    (table.upsert conflicts fresh merge).2.upsert conflicts fresh merge =
      table.upsert conflicts fresh merge := by
  obtain ⟨row, found, settled⟩ := table.upsert_settles new kept itself again
  exact upsert_eq_self found settled

/-- Upserts that each find a row assign no id. -/
theorem upsertAll_next {conflicts : α → α → Bool} {merge : α → α → α} {rows : List α}
    (there : ∀ row ∈ rows, ∃ id old, (id, old) ∈ table ∧ conflicts row old = true)
    (kept : ∀ row ∈ rows, ∀ other ∈ rows, ∀ old, conflicts other old = true →
      conflicts other (merge row old) = true) :
    (table.upsertAll conflicts merge rows).next = table.next := by
  induction rows generalizing table with
  | nil => rfl
  | cons row rest ih =>
    obtain ⟨id, old, stored, conflict⟩ := there row List.mem_cons_self
    have found : (table.find? fun _ => conflicts row).isSome = true :=
      find?_isSome.mpr ⟨id, old, stored, conflict⟩
    obtain ⟨entry, found⟩ := Option.isSome_iff_exists.mp found
    have result : table.upsert (conflicts row) row (merge row) =
        (entry.1, table.updateWhere (fun stored _ => stored == entry.1) (merge row)) := by
      rw [upsert, found]
    rw [upsertAll, List.foldl_cons, result]
    refine (ih (fun other member => ?_) fun one oneMember other otherMember =>
      kept one (List.mem_cons_of_mem _ oneMember) other (List.mem_cons_of_mem _ otherMember)).trans
        (updateWhere_next _ _ _)
    -- The row that the other one finds is still there, perhaps merged.
    obtain ⟨at_, was, before, detects⟩ := there other (List.mem_cons_of_mem _ member)
    refine ⟨at_, _, mem_updateWhere.mpr ⟨was, before, rfl⟩, ?_⟩
    split
    · exact kept row List.mem_cons_self other (List.mem_cons_of_mem _ member) was detects
    · exact detects

end

/-- An update keeps every id. -/
theorem updateWhere_ids (table : Table α) (condition : ℕ → α → Bool) (change : α → α) :
    (table.updateWhere condition change).rows.map Prod.fst = table.rows.map Prod.fst := by
  simp [updateWhere, Function.comp_def]

/-- Upserts of rows of which no stored row conflicts with two. -/
structure Independent (conflicts : α → α → Bool) (merge : α → α → α) (rows : List α) : Prop where
  /-- A row conflicts with itself. -/
  new : ∀ row ∈ rows, conflicts row row = true
  /-- Merging a row keeps what the row conflicts with. -/
  kept : ∀ row ∈ rows, ∀ other old, conflicts other (merge row old) = conflicts other old
  /-- A row that conflicts with one of them conflicts with no other. -/
  apart : rows.Pairwise fun row other =>
    ∀ old, conflicts row old = true → conflicts other old = false

/-- What upserts leave when no stored row conflicts with two of them. -/
structure UpsertedEach (conflicts : α → α → Bool) (merge : α → α → α) (rows : List α)
    (before after : Table α) : Prop where
  /-- The first conflicting row is the one found before, merged, or else the new row. -/
  found : ∀ row ∈ rows, ∃ id stored, after.find? (fun _ => conflicts row) = some (id, stored) ∧
    ((∃ old, before.find? (fun _ => conflicts row) = some (id, old) ∧ stored = merge row old) ∨
      before.find? (fun _ => conflicts row) = none ∧ stored = row)
  /-- A row of another condition is found where it was found. -/
  elsewhere : ∀ other : α → Bool,
    (∀ row ∈ rows, ∀ old, conflicts row old = true → other old = false) →
    after.find? (fun _ => other) = before.find? fun _ => other
  /-- Every row is found for one of them or was stored before. -/
  origin : ∀ id stored, (id, stored) ∈ after → (id, stored) ∈ before ∨
    ∃ row ∈ rows, after.find? (fun _ => conflicts row) = some (id, stored)
  /-- When each of them finds a row, no id is assigned. -/
  ids : (∀ row ∈ rows, (before.find? fun _ => conflicts row).isSome = true) →
    after.next = before.next ∧ after.rows.map Prod.fst = before.rows.map Prod.fst

/-- Upserts of which no stored row conflicts with two do not disturb each other. -/
theorem upsertedEach {conflicts : α → α → Bool} {merge : α → α → α} {rows : List α}
    (independent : Independent conflicts merge rows) (table : Table α) :
    UpsertedEach conflicts merge rows table (table.upsertAll conflicts merge rows) := by
  obtain ⟨new, kept, apart⟩ := independent
  -- The induction is on the rows; the later ones pass over the row of the first one.
  induction rows generalizing table with
  | nil => exact ⟨by simp, fun _ _ => rfl, fun _ _ => .inl, fun _ => ⟨rfl, rfl⟩⟩
  | cons row rest ih =>
    obtain ⟨away, apart⟩ := List.pairwise_cons.mp apart
    have first : row ∈ row :: rest := List.mem_cons_self
    have tail := ih (table.upsert (conflicts row) row (merge row)).2
      (fun other member => new other (List.mem_cons_of_mem _ member))
      (fun other member => kept other (List.mem_cons_of_mem _ member)) apart
    -- A condition that no row of the first one meets finds what it found.
    have passes : ∀ other : α → Bool, (∀ old, conflicts row old = true → other old = false) →
        (table.upsert (conflicts row) row (merge row)).2.find? (fun _ => other) =
          table.find? fun _ => other := by
      intro other unmet
      refine table.find?_upsert (unmet row (new row first)) fun old conflict =>
        ⟨unmet old conflict, ?_⟩
      exact unmet _ ((kept row first row old).trans conflict)
    obtain ⟨result, found, origin⟩ := table.upsert_finds (new row first)
      fun old conflict => (kept row first row old).trans conflict
    have later : (table.upsertAll conflicts merge (row :: rest)).find? (fun _ => conflicts row) =
        some ((table.upsert (conflicts row) row (merge row)).1, result) := by
      refine (tail.elsewhere (conflicts row) fun other member old conflict => ?_).trans found
      rw [Bool.eq_false_iff]
      intro also
      rw [away other member old also] at conflict
      cases conflict
    refine ⟨fun other member => ?_, fun other unmet => ?_, fun id stored there => ?_, fun all => ?_⟩
    · rcases List.mem_cons.mp member with rfl | member
      · exact ⟨_, result, later, origin⟩
      · rw [← passes (conflicts other) (away other member)]
        exact tail.found other member
    · rw [← passes other (unmet row first)]
      exact tail.elsewhere other fun later member => unmet later (List.mem_cons_of_mem _ member)
    · rcases tail.origin id stored there with there | ⟨other, member, located⟩
      · -- The row of the first upsert is still the one it finds; the others were there before.
        by_cases here : id = (table.upsert (conflicts row) row (merge row)).1
        · subst here
          rw [unique there (find?_some found).1]
          exact .inr ⟨row, first, later⟩
        · exact .inl ((mem_upsert_of_ne here).mp there)
      · exact .inr ⟨other, List.mem_cons_of_mem _ member, located⟩
    · obtain ⟨next, ids⟩ := tail.ids fun other member => by
        rw [passes (conflicts other) (away other member)]
        exact all other (List.mem_cons_of_mem _ member)
      obtain ⟨entry, known⟩ := Option.isSome_iff_exists.mp (all row first)
      have updated : (table.upsert (conflicts row) row (merge row)).2 =
          table.updateWhere (fun stored _ => stored == entry.1) (merge row) := by
        rw [upsert, known]
      rw [updated] at next ids
      rw [upsertAll, List.foldl_cons, updated]
      exact ⟨next.trans (updateWhere_next _ _ _), ids.trans (updateWhere_ids _ _ _)⟩

end Table

/-! ### Sequences of steps -/

section

variable {ι : Type u} {ε : Type v} {ρ σ : Type w}

/-- Runs steps one after the other and collects their results. -/
def runAll (step : ι → σ → Except ε (ρ × σ)) : List ι → σ → Except ε (List ρ × σ)
  | [], state => pure ([], state)
  | index :: rest, state => do
    let (result, state) ← step index state
    let (results, state) ← runAll step rest state
    pure (result :: results, state)

/-- Steps that settle: what one of them has done is not undone by those apart from it. -/
structure Settling (valid : σ → Prop) (apart : ι → ι → Prop) (step : ι → σ → Except ε (ρ × σ))
    (settled : ι → ρ → σ → Prop) : Prop where
  /-- A step leaves a valid state in which it is settled. -/
  settles : ∀ index state result after, valid state → step index state = .ok (result, after) →
    valid after ∧ settled index result after
  /-- Other steps leave it settled. -/
  keeps : ∀ index other state result otherResult after, valid state → apart index other →
    settled index result state → step other state = .ok (otherResult, after) →
    settled index result after
  /-- A settled step returns the same result again and changes nothing. -/
  again : ∀ index state result, valid state → settled index result state →
    step index state = .ok (result, state)

namespace Settling

variable {valid : σ → Prop} {apart : ι → ι → Prop} {step : ι → σ → Except ε (ρ × σ)}
  {settled : ι → ρ → σ → Prop} {indices : List ι} {state after : σ} {results : List ρ}

/-- Steps that follow leave a step settled that is apart from all of them. -/
theorem runAll_keeps (settling : Settling valid apart step settled)
    (done : runAll step indices state = .ok (results, after)) (start : valid state) :
    valid after ∧ ∀ index result, (∀ other ∈ indices, apart index other) →
      settled index result state → settled index result after := by
  induction indices generalizing state results with
  | nil =>
    cases done
    exact ⟨start, fun _ _ _ => id⟩
  | cons first rest ih =>
    simp only [runAll, bind_eq_ok, pure_eq_ok, Prod.mk.injEq] at done
    obtain ⟨⟨result, middle⟩, one, ⟨others, last⟩, tail, -, rfl⟩ := done
    obtain ⟨middleValid, -⟩ := settling.settles first state result middle start one
    obtain ⟨lastValid, later⟩ := ih tail middleValid
    refine ⟨lastValid, fun index found away was => ?_⟩
    refine later index found (fun other member => away other (List.mem_cons_of_mem _ member)) ?_
    exact settling.keeps index first state found result middle start
      (away first List.mem_cons_self) was one

/-- Once all steps have run, each is settled with the result it has returned. -/
theorem runAll_settles (settling : Settling valid apart step settled)
    (distinct : indices.Pairwise apart)
    (done : runAll step indices state = .ok (results, after)) (start : valid state) :
    List.Forall₂ (fun index result => settled index result after) indices results := by
  induction indices generalizing state results with
  | nil =>
    cases done
    exact .nil
  | cons first rest ih =>
    simp only [runAll, bind_eq_ok, pure_eq_ok, Prod.mk.injEq] at done
    obtain ⟨⟨result, middle⟩, one, ⟨others, last⟩, tail, rfl, rfl⟩ := done
    obtain ⟨middleValid, was⟩ := settling.settles first state result middle start one
    obtain ⟨away, distinct⟩ := List.pairwise_cons.mp distinct
    exact .cons ((settling.runAll_keeps tail middleValid).2 first result away was)
      (ih distinct tail middleValid)

/-- Settled steps return the same results again and change nothing. -/
theorem runAll_fixed (settling : Settling valid apart step settled) (start : valid state)
    (all : List.Forall₂ (fun index result => settled index result state) indices results) :
    runAll step indices state = .ok (results, state) := by
  induction all with
  | nil => rfl
  | cons first rest ih =>
    simp only [runAll, bind_eq_ok, pure_eq_ok]
    exact ⟨_, settling.again _ _ _ start first, _, ih, rfl⟩

/-- Steps that settle, run again, return the same results and change nothing. -/
theorem runAll_again (settling : Settling valid apart step settled)
    (distinct : indices.Pairwise apart)
    (done : runAll step indices state = .ok (results, after)) (start : valid state) :
    runAll step indices after = .ok (results, after) :=
  settling.runAll_fixed (settling.runAll_keeps done start).1
    (settling.runAll_settles distinct done start)

end Settling

/-- Upserts settle when no row conflicts with two of them and merging again changes nothing. -/
theorem settling_upsert {ι : Type u} {ε : Type v} {α : Type} {apart : ι → ι → Prop}
    {conflicts : ι → α → Bool} {fresh : ι → α} {merge : ι → α → α}
    (new : ∀ index, conflicts index (fresh index) = true)
    (kept : ∀ index row, conflicts index row = true → conflicts index (merge index row) = true)
    (itself : ∀ index, merge index (fresh index) = fresh index)
    (again : ∀ index row, merge index (merge index row) = merge index row)
    (different : ∀ index other, apart index other → conflicts index (fresh other) = false ∧
      ∀ row, conflicts other row = true →
        conflicts index row = false ∧ conflicts index (merge other row) = false) :
    Settling (fun _ => True) apart
      (fun index table => (.ok (table.upsert (conflicts index) (fresh index) (merge index)) :
        Except ε (ℕ × Table α)))
      (fun index id table => ∃ row, table.find? (fun _ => conflicts index) = some (id, row) ∧
        merge index row = row) where
  settles index table id after _ done := by
    -- The row that is found is the merged one, or the fresh one where there was none.
    have settled := table.upsert_settles (new index) (kept index) (itself index) (again index)
    rw [Except.ok.inj done] at settled
    exact ⟨trivial, settled⟩
  keeps index other table id otherId after _ away settled done := by
    -- A write for another index neither adds nor changes a row that conflicts with this one.
    have found := table.find?_upsert (different index other away).1 (different index other away).2
    rw [Except.ok.inj done] at found
    rwa [found]
  again index table id _ settled := by
    obtain ⟨row, found, fixed⟩ := settled
    exact congrArg Except.ok (Table.upsert_eq_self found fixed)

end

end Store
