import Mathlib.Data.List.Nodup

/-! Object stores: at most one object under a key, created once or replaced. -/

universe u v

namespace Store

/-- The objects of a store in the order in which their keys were first written. -/
structure Bucket (κ : Type u) (β : Type v) where
  /-- Each object behind its key. -/
  entries : List (κ × β)
  /-- A key is stored once. -/
  distinct : (entries.map Prod.fst).Nodup

namespace Bucket

variable {κ : Type u} {β : Type v}

/-- Two stores with the same objects in the same order are equal. -/
@[ext] theorem ext {left right : Bucket κ β} (entries : left.entries = right.entries) :
    left = right := by
  cases left
  cases right
  simp_all

/-- A store without objects. -/
def empty : Bucket κ β := ⟨[], by simp⟩

/-- The keys of all objects. -/
def keys (bucket : Bucket κ β) : List κ := bucket.entries.map Prod.fst

variable [DecidableEq κ]

/-- A store is determined by its objects, so comparing those decides equality. -/
instance [DecidableEq β] : DecidableEq (Bucket κ β) := fun left right =>
  decidable_of_iff (left.entries = right.entries) ⟨ext, fun same => by rw [same]⟩

/-- The object under a key. -/
def get? (bucket : Bucket κ β) (key : κ) : Option β :=
  (bucket.entries.find? fun entry => entry.1 = key).map Prod.snd

/-- Looking a key up finds exactly the object stored under it. -/
theorem get?_eq_some {bucket : Bucket κ β} {key : κ} {object : β} :
    bucket.get? key = some object ↔ (key, object) ∈ bucket.entries := by
  unfold get?
  constructor
  · intro found
    obtain ⟨entry, located, rfl⟩ := Option.map_eq_some_iff.mp found
    have same : entry.1 = key := by simpa using List.find?_some located
    rw [← same]
    exact List.mem_of_find?_eq_some located
  · intro stored
    cases located : bucket.entries.find? fun entry => entry.1 = key with
    | none =>
      have := List.find?_eq_none.mp located _ stored
      simp at this
    | some entry =>
      -- Both entries have this key, and a key is stored once.
      have same : entry.1 = key := by simpa using List.find?_some located
      have one := List.inj_on_of_nodup_map bucket.distinct (List.mem_of_find?_eq_some located)
        stored same
      rw [one]
      rfl

/-- Looking a key up finds nothing exactly when no object is stored under it. -/
theorem get?_eq_none {bucket : Bucket κ β} {key : κ} :
    bucket.get? key = none ↔ key ∉ bucket.keys := by
  rw [Option.eq_none_iff_forall_ne_some]
  constructor
  · intro missing stored
    obtain ⟨entry, member, rfl⟩ := List.mem_map.mp stored
    exact missing entry.2 (get?_eq_some.mpr member)
  · intro missing object found
    exact missing (List.mem_map.mpr ⟨_, get?_eq_some.mp found, rfl⟩)

/-- The keys are those that look up to an object. -/
theorem mem_keys {bucket : Bucket κ β} {key : κ} :
    key ∈ bucket.keys ↔ ∃ object, bucket.get? key = some object := by
  rw [← not_iff_not, ← get?_eq_none, ← Option.ne_none_iff_exists', not_not]

/-- An empty store has no objects. -/
@[simp] theorem get?_empty (key : κ) : (empty : Bucket κ β).get? key = none := rfl

/-- A conditional create: writes the object unless its key is taken. -/
def create (bucket : Bucket κ β) (key : κ) (object : β) : Bucket κ β :=
  if taken : key ∈ bucket.keys then bucket
  else ⟨bucket.entries ++ [(key, object)], by
    rw [List.map_append, List.nodup_append']
    refine ⟨bucket.distinct, by simp, ?_⟩
    intro stored member fresh
    have same : stored = key := List.mem_singleton.mp fresh
    rw [same] at member
    exact taken member⟩

/-- A create adds its object under a free key and changes nothing else. -/
theorem get?_create (bucket : Bucket κ β) (key other : κ) (object : β) :
    (bucket.create key object).get? other =
      if other = key then some ((bucket.get? key).getD object) else bucket.get? other := by
  unfold create
  split
  · -- The key is taken, so nothing is written.
    rename_i taken
    obtain ⟨stored, found⟩ := mem_keys.mp taken
    split
    · rename_i same
      rw [same, found]
      rfl
    · rfl
  · rename_i free
    have missing := get?_eq_none.mpr free
    rw [missing]
    simp only [get?, List.find?_append]
    split
    · rename_i same
      subst same
      have none_ : bucket.entries.find? (fun entry => entry.1 = other) = none := by
        simpa [get?] using missing
      simp [none_]
    · rename_i different
      have skipped : ([(key, object)].find? fun entry => entry.1 = other) = none := by
        simp [Ne.symm different]
      rw [skipped, Option.or_none]

/-- A create changes no object. -/
theorem get?_create_of_some {bucket : Bucket κ β} {key other : κ} {object stored : β}
    (found : bucket.get? other = some stored) :
    (bucket.create key object).get? other = some stored := by
  rw [get?_create]
  split
  · rename_i same
    rw [← same, found]
    rfl
  · exact found

/-- Under a taken key nothing is created. -/
theorem create_of_mem {bucket : Bucket κ β} {key : κ} (taken : key ∈ bucket.keys) (object : β) :
    bucket.create key object = bucket := dif_pos taken

/-- A created key is taken. -/
theorem mem_keys_create (bucket : Bucket κ β) (key other : κ) (object : β) :
    other ∈ (bucket.create key object).keys ↔ other = key ∨ other ∈ bucket.keys := by
  simp only [mem_keys, get?_create]
  by_cases same : other = key
  · simp [same]
  · simp [same]

/-- A create adds to the end. -/
theorem create_prefix (bucket : Bucket κ β) (key : κ) (object : β) :
    bucket.entries <+: (bucket.create key object).entries := by
  unfold create
  split
  · exact List.prefix_rfl
  · exact List.prefix_append _ _

/-- Conditional creates, one after another. -/
def createAll (bucket : Bucket κ β) (objects : List (κ × β)) : Bucket κ β :=
  objects.foldl (fun bucket object => bucket.create object.1 object.2) bucket

@[simp] theorem createAll_nil (bucket : Bucket κ β) : bucket.createAll [] = bucket := rfl

@[simp] theorem createAll_cons (bucket : Bucket κ β) (object : κ × β) (rest : List (κ × β)) :
    bucket.createAll (object :: rest) = (bucket.create object.1 object.2).createAll rest := rfl

/-- Creates can be done in two rounds. -/
theorem createAll_append (bucket : Bucket κ β) (first rest : List (κ × β)) :
    bucket.createAll (first ++ rest) = (bucket.createAll first).createAll rest := by
  simp only [createAll, List.foldl_append]

/-- Creates add to the end. -/
theorem createAll_prefix (bucket : Bucket κ β) (objects : List (κ × β)) :
    bucket.entries <+: (bucket.createAll objects).entries := by
  induction objects generalizing bucket with
  | nil => exact List.prefix_rfl
  | cons object rest ih => exact (bucket.create_prefix _ _).trans (ih _)

/-- After creates, the keys are those from before and the created ones. -/
theorem mem_keys_createAll (bucket : Bucket κ β) (objects : List (κ × β)) (key : κ) :
    key ∈ (bucket.createAll objects).keys ↔ key ∈ bucket.keys ∨ key ∈ objects.map Prod.fst := by
  induction objects generalizing bucket with
  | nil => simp
  | cons object rest ih =>
    rw [createAll_cons, ih, mem_keys_create, List.map_cons, List.mem_cons]
    exact or_assoc.trans or_left_comm

/-- Creates under taken keys change nothing. -/
theorem createAll_of_mem {bucket : Bucket κ β} {objects : List (κ × β)}
    (taken : ∀ object ∈ objects, object.1 ∈ bucket.keys) : bucket.createAll objects = bucket := by
  induction objects with
  | nil => rfl
  | cons object rest ih =>
    rw [createAll_cons, create_of_mem (taken object List.mem_cons_self)]
    exact ih fun other member => taken other (List.mem_cons_of_mem _ member)

/-- Starting over after some of the creates leads to the same objects. -/
theorem createAll_again (bucket : Bucket κ β) {sent objects : List (κ × β)}
    (started : sent <+: objects) :
    (bucket.createAll sent).createAll objects = bucket.createAll objects := by
  obtain ⟨rest, rfl⟩ := started
  -- What was sent before is taken, so the second round begins with the rest.
  have repeated : (bucket.createAll sent).createAll sent = bucket.createAll sent :=
    createAll_of_mem fun object member =>
      (mem_keys_createAll bucket sent object.1).mpr (Or.inr (List.mem_map_of_mem member))
  rw [createAll_append, repeated, ← createAll_append]

/-- What is stored stays stored while a store only grows. -/
theorem get?_of_prefix {before after : Bucket κ β} (grown : before.entries <+: after.entries)
    {key : κ} {object : β} (found : before.get? key = some object) :
    after.get? key = some object :=
  get?_eq_some.mpr (grown.subset (get?_eq_some.mp found))

/-- An unconditional write: replaces the object under its key or adds it. -/
def put (bucket : Bucket κ β) (key : κ) (object : β) : Bucket κ β :=
  if key ∈ bucket.keys then
    ⟨bucket.entries.map fun entry => (entry.1, if entry.1 = key then object else entry.2), by
      rw [List.map_map]
      exact bucket.distinct⟩
  else bucket.create key object

/-- A write stores its object under its key and changes nothing else. -/
theorem get?_put (bucket : Bucket κ β) (key other : κ) (object : β) :
    (bucket.put key object).get? other =
      if other = key then some object else bucket.get? other := by
  unfold put
  split
  · -- Every entry stays under its key, so the same one is found.
    rename_i taken
    have found : ((bucket.entries.map fun entry =>
        (entry.1, if entry.1 = key then object else entry.2)).find? fun entry =>
          entry.1 = other).map Prod.snd = (bucket.entries.find? fun entry => entry.1 = other).map
            fun entry => if entry.1 = key then object else entry.2 := by
      rw [List.find?_map, Option.map_map]
      rfl
    rw [get?, found, get?]
    cases located : bucket.entries.find? fun entry => entry.1 = other with
    | none =>
      have missing : bucket.get? other = none := by simp [get?, located]
      have different : other ≠ key := fun same => get?_eq_none.mp missing (same ▸ taken)
      rw [if_neg different]
      rfl
    | some entry =>
      have at_ : entry.1 = other := by simpa using List.find?_some located
      simp only [Option.map_some, at_]
      split <;> rfl
  · rename_i free
    rw [get?_create, get?_eq_none.mpr free]
    rfl

end Bucket

end Store
