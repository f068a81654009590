import FinStream.Cutover.StorageLaws
import Mathlib.Data.List.Count

/-! What a valid inventory says of the database and its source. -/

namespace FinStream.Cutover

open Store Effect

namespace DatabaseInventory

/-- The keys that objects belong under. -/
def canonicalKeys (database : DatabaseInventory) : List String :=
  database.references.filterMap (·.canonicalKey)

/-- The keys that objects have in the source. -/
def sourceKeys (database : DatabaseInventory) : List String :=
  database.references.filterMap (·.sourceKey)

/-- The references and the listed keys match. -/
structure Covered (database : DatabaseInventory) (listed : List String) : Prop where
  /-- Every reference of the database could be read. -/
  unblocked : database.blockers = []
  /-- No two objects belong under one key. -/
  distinct : database.canonicalKeys.Nodup
  /-- Every referenced object is listed. -/
  there : ∀ key ∈ database.sourceKeys, key ∈ listed
  /-- Every listed object is referenced. -/
  needed : ∀ key ∈ listed, key ∈ database.sourceKeys

end DatabaseInventory

/-- A key has as many references as it occurs among the keys. -/
theorem count_filterMap {key : DatabaseReference → Option String}
    (references : List DatabaseReference) (name : String) :
    (references.filterMap key).count name =
      (references.filter fun reference => key reference = some name).length := by
  induction references with
  | nil => rfl
  | cons reference rest ih =>
    cases found : key reference with
    | none => simp [found, ih]
    | some other =>
      by_cases same : other = name
      · simp [found, same, ih]
      · simp [found, same, ih]

/-- A group holds the references of its key. -/
theorem mem_referencesBy {key : DatabaseReference → Option String}
    {references : List DatabaseReference} {group : String × List DatabaseReference} :
    group ∈ referencesBy key references ↔ group.1 ∈ references.filterMap key ∧
      group.2 = references.filter fun reference => key reference = some group.1 := by
  simp only [referencesBy, List.mem_map, List.mem_insertionSort, List.mem_dedup]
  constructor
  · rintro ⟨name, member, rfl⟩
    exact ⟨member, rfl⟩
  · rintro ⟨member, same⟩
    exact ⟨group.1, member, by rw [← same]⟩

/-- No group is a duplicate exactly when no two objects belong under one key. -/
theorem duplicateGroups_eq_nil {references : List DatabaseReference} :
    duplicateGroups references = [] ↔ (references.filterMap (·.canonicalKey)).Nodup := by
  rw [duplicateGroups, List.filter_eq_nil_iff, List.nodup_iff_count_le_one]
  constructor
  · intro single name
    by_cases member : name ∈ references.filterMap (·.canonicalKey)
    · have group := single (name, references.filter fun reference =>
        reference.canonicalKey = some name) (mem_referencesBy.mpr ⟨member, rfl⟩)
      rw [count_filterMap]
      simpa using group
    · rw [List.count_eq_zero_of_not_mem member]
      exact Nat.zero_le 1
  · intro single group member
    have counted := single group.1
    rw [count_filterMap, ← (mem_referencesBy.mp member).2] at counted
    simpa using counted

/-- No group is missing exactly when every source key is listed. -/
theorem missingGroups_eq_nil {references : List DatabaseReference} {listed : List String} :
    missingGroups references listed = [] ↔
      ∀ key ∈ references.filterMap (·.sourceKey), key ∈ listed := by
  rw [missingGroups, List.filter_eq_nil_iff]
  constructor
  · intro found key member
    have group := found (key, references.filter fun reference => reference.sourceKey = some key)
      (mem_referencesBy.mpr ⟨member, rfl⟩)
    simpa using group
  · intro found group member
    simpa using found group.1 (mem_referencesBy.mp member).1

/-- There are no orphans exactly when every listed key is referenced. -/
theorem orphans_eq_nil {listed referenced : List String} :
    orphans listed referenced = [] ↔ ∀ key ∈ listed, key ∈ referenced := by
  simp [orphans, List.filter_eq_nil_iff]

/-- There is a blocker exactly when there are orphans. -/
theorem orphanBlockers_eq_nil {code : String} {unreferenced : List String} :
    orphanBlockers code unreferenced = [] ↔ unreferenced = [] := by
  cases unreferenced with
  | nil => simp [orphanBlockers]
  | cons => simp [orphanBlockers]

/-- Groups of references are blocked unless there is none. -/
theorem blockAll_eq_nil {code : String} {key : DatabaseReference → Option String}
    {references : List DatabaseReference} {keep : String × List DatabaseReference → Bool} :
    ((referencesBy key references).filter keep).flatMap (fun group => blockAll code group.2) = [] ↔
      (referencesBy key references).filter keep = [] := by
  constructor
  · intro none_
    rw [List.filter_eq_nil_iff]
    intro group member kept
    have unblocked := List.flatMap_eq_nil_iff.mp none_ group (List.mem_filter.mpr ⟨member, kept⟩)
    -- A group has at least the reference that its key comes from.
    obtain ⟨there, same⟩ := mem_referencesBy.mp member
    obtain ⟨reference, inside, found⟩ := List.mem_filterMap.mp there
    rw [blockAll, List.map_eq_nil_iff, same, List.filter_eq_nil_iff] at unblocked
    exact unblocked reference inside (by simp [found])
  · intro none_
    rw [none_]
    rfl

/-- A manifest is valid exactly when the references and the listed keys match. -/
theorem manifest_valid {database : DatabaseInventory} {mode : RunMode} {listed : List String}
    {references : List ObjectReference} :
    (database.manifest mode listed references).valid = true ↔ database.Covered listed := by
  have empty : (database.manifest mode listed references).valid = true ↔
      ((database.blockers = [] ∧ duplicateGroups database.references = []) ∧
        missingGroups database.references listed = []) ∧
        orphans listed (database.references.filterMap (·.sourceKey)) = [] := by
    simp only [DatabaseInventory.manifest, List.isEmpty_iff, List.append_eq_nil_iff,
      orphanBlockers_eq_nil, duplicateGroups, missingGroups, referencesByKey,
      referencesBySourceKey, blockAll_eq_nil]
  rw [empty, duplicateGroups_eq_nil, missingGroups_eq_nil, orphans_eq_nil]
  constructor
  · rintro ⟨⟨⟨unblocked, distinct⟩, there⟩, needed⟩
    exact ⟨unblocked, distinct, there, needed⟩
  · rintro ⟨unblocked, distinct, there, needed⟩
    exact ⟨⟨⟨unblocked, distinct⟩, there⟩, needed⟩

/-! ### Reading the source -/

/-- A store that can be read without writing. -/
structure SteadyStore (store : ByteObjectStore) : Prop where
  get : ∀ key, Steady (store.get key)
  listKeys : Steady store.listKeys

/-- Retained sources can be read without writing. -/
theorem RetainedSource.steady (platform : CutoverPlatform) (source : RetainedSource) :
    SteadyStore (source.store platform) :=
  ⟨source.get_steady platform, source.listKeys_steady platform⟩

/-- A prefix of the bucket can be read without writing. -/
theorem S3CompatibleStore.steady (platform : CutoverPlatform) (store : S3CompatibleStore) :
    SteadyStore (store.store platform) := ⟨store.get_steady platform, store.listKeys_steady platform⟩

section Reading

variable {platform : CutoverPlatform} {store : ByteObjectStore} (steady : SteadyStore store)

include steady

/-- Looking at the object of a reference is steady. -/
theorem SteadyStore.inspectReference (reference : DatabaseReference) :
    Steady (inspectReference platform store reference) := by
  unfold Cutover.inspectReference
  cases reference.canonicalKey with
  | none => exact Steady.pure _
  | some key =>
    exact (Steady.decided _).bind fun sourceKey =>
      ((steady.get sourceKey).mapError _).bind fun _ => Steady.pure _

/-- An inventory is steady. -/
theorem SteadyStore.inventory (database : DatabaseInventory) (mode : RunMode) :
    Steady (inventory platform database store mode) :=
  (steady.listKeys.mapError _).bind fun _ =>
    (Steady.mapM fun reference => steady.inspectReference reference).bind fun _ => Steady.pure _

/-- What a look at a reference comes to in a calm world. -/
inductive Inspected (platform : CutoverPlatform) (store : ByteObjectStore) (world : World)
    (reference : DatabaseReference) : ObjectReference → Prop
  /-- A reference without a key is not looked at. -/
  | unseen (keyless : reference.canonicalKey = none) :
    Inspected platform store world reference reference.unseen
  /-- Any other reference is looked at under its source key. -/
  | seen {key sourceKey : String} {found : Option StoredObject}
      (belongs : reference.canonicalKey = some key) (comes : reference.sourceKey = some sourceKey)
      (reads : (store.get sourceKey).Reads world.calm (.ok found)) :
    Inspected platform store world reference (reference.seen platform key found)

/-- A look at a reference reads its object. -/
theorem SteadyStore.inspectReference_reads {reference : DatabaseReference} {world : World}
    {result : ObjectReference} :
    (Cutover.inspectReference platform store reference).Reads world.calm (.ok result) ↔
      Inspected platform store world reference result := by
  unfold Cutover.inspectReference
  -- A reference without a key is not looked up.
  cases belongs : reference.canonicalKey with
  | none =>
    constructor
    · intro read
      cases Except.ok.inj (Prod.mk.inj read).1
      exact .unseen belongs
    · intro inspected
      cases inspected with
      | unseen => rfl
      | seen other => rw [belongs] at other; cases other
  | some key =>
    rw [(Steady.decided _).bind_reads_ok]
    constructor
    · rintro ⟨sourceKey, required, later⟩
      have comes : reference.sourceKey = some sourceKey :=
        required_eq_ok.mp (Prod.mk.inj required).1
      obtain ⟨found, read, together⟩ := ((steady.get sourceKey).mapError _).bind_reads_ok.mp later
      cases Except.ok.inj (Prod.mk.inj together).1
      exact .seen belongs comes (Effect.mapError_eq_ok.mp read)
    · intro inspected
      cases inspected with
      | unseen keyless => rw [belongs] at keyless; cases keyless
      | seen same comes read =>
        cases belongs.symm.trans same
        exact ⟨_, by rw [comes]; rfl, ((steady.get _).mapError _).bind_reads_ok.mpr
          ⟨_, Effect.mapError_eq_ok.mpr read, rfl⟩⟩

/-- An inventory lists the source and looks at every reference. -/
theorem SteadyStore.inventory_reads {database : DatabaseInventory} {mode : RunMode}
    {world : World} {manifest : ObjectManifest} :
    (Cutover.inventory platform database store mode).Reads world.calm (.ok manifest) ↔
      ∃ listed references, store.listKeys.Reads world.calm (.ok listed) ∧
        List.Forall₂ (Inspected platform store world) database.references references ∧
        manifest = database.manifest mode listed references := by
  unfold Cutover.inventory
  rw [(steady.listKeys.mapError _).bind_reads_ok]
  have looks : Steady (database.references.mapM (Cutover.inspectReference platform store)) :=
    Steady.mapM fun reference => steady.inspectReference reference
  constructor
  · rintro ⟨listed, read, later⟩
    obtain ⟨references, looked, together⟩ := looks.bind_reads_ok.mp later
    refine ⟨listed, references, Effect.mapError_eq_ok.mp read, ?_,
      (Except.ok.inj (Prod.mk.inj together).1).symm⟩
    exact ((Steady.mapM_reads_ok fun reference => steady.inspectReference reference).mp looked).imp
      fun _ _ => steady.inspectReference_reads.mp
  · rintro ⟨listed, references, read, looked, rfl⟩
    refine ⟨listed, Effect.mapError_eq_ok.mpr read, looks.bind_reads_ok.mpr ⟨references, ?_, rfl⟩⟩
    exact (Steady.mapM_reads_ok fun reference => steady.inspectReference reference).mpr
      (looked.imp fun _ _ => steady.inspectReference_reads.mpr)

end Reading

/-- A transfer with a valid manifest had a valid inventory, then copied, then listed. -/
theorem transfer_eq_ok {platform : CutoverPlatform} {database : DatabaseInventory}
    {source destination : ByteObjectStore} {mode : RunMode} {before after : World}
    {manifest : ObjectManifest}
    (ran : transferToCanonicalDestination platform database source destination mode before =
      (.ok manifest, after)) (valid : manifest.valid = true) :
    ∃ inventoried found transferred written listed,
      inventory platform database source mode before = (.ok inventoried, found) ∧
      inventoried.valid = true ∧
      inventoried.references.mapM (transferReference platform
        (sourceKeyOf database.references) source destination) found =
          (.ok transferred, written) ∧
      destination.listKeys written = (.ok listed, after) ∧
      manifest = inventoried.transferred transferred listed := by
  unfold transferToCanonicalDestination at ran
  obtain ⟨inventoried, found, inventory, rest⟩ := Effect.bind_eq_ok.mp ran
  -- An invalid inventory would have been the manifest itself.
  split at rest
  · rename_i passed
    obtain ⟨transferred, written, copied, rest⟩ := Effect.bind_eq_ok.mp rest
    obtain ⟨listed, final, list, rest⟩ := Effect.bind_eq_ok.mp rest
    cases rest
    exact ⟨inventoried, found, transferred, written, listed, inventory, passed, copied,
      Effect.mapError_eq_ok.mp list, rfl⟩
  · rename_i refused
    cases rest
    exact absurd valid refused

/-- A look at a reference keeps what it is about. -/
theorem Inspected.same {platform : CutoverPlatform} {store : ByteObjectStore} {world : World}
    {reference : DatabaseReference} {result : ObjectReference}
    (inspected : Inspected platform store world reference result) :
    result.canonicalKey = reference.canonicalKey ∧
      (result.referenceKind, result.dbId) = reference.row := by
  cases inspected with
  | unseen => exact ⟨rfl, rfl⟩
  | @seen key sourceKey found belongs =>
    cases found with
    | none => exact ⟨rfl, rfl⟩
    | some object => exact ⟨rfl, rfl⟩

end FinStream.Cutover
