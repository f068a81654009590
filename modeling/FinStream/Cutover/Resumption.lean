import FinStream.Cutover.Exactness

/-! A transfer that was stopped can be run again. -/

namespace FinStream.Cutover

open Store Effect

variable {platform : CutoverPlatform} {database : DatabaseInventory} {source : RetainedSource}
  {pathPrefix : String}

/-! ### Views of a source -/

/-- A world has grown by nothing but objects at given places. -/
structure World.Within (names : List String) (before later : World) : Prop where
  grows : before.Grows later
  names : ∀ name ∈ later.bucket.keys, name ∈ before.bucket.keys ∨ name ∈ names

/-- A retained source looks the same for a run. -/
structure SameView (platform : CutoverPlatform) (database : DatabaseInventory)
    (source : RetainedSource) (before later : World) : Prop where
  listed : ∀ keys, insertKeys [] (source.listed platform before) = .ok keys →
    insertKeys [] (source.listed platform later) = .ok keys
  found : ∀ key ∈ database.sourceKeys, ∀ found,
    ((source.store platform).get key).Reads before.calm (.ok found) →
      ((source.store platform).get key).Reads later.calm (.ok found)

/-- A look at a reference of a source that looks the same comes to the same. -/
theorem SameView.inspected {before later : World}
    (view : SameView platform database source before later) {reference : DatabaseReference}
    (member : reference ∈ database.references) {result : ObjectReference}
    (inspected : Inspected platform (source.store platform) before reference result) :
    Inspected platform (source.store platform) later reference result := by
  cases inspected with
  | unseen keyless => exact .unseen keyless
  | seen belongs comes read =>
    exact .seen belongs comes
      (view.found _ (List.mem_filterMap.mpr ⟨reference, member, comes⟩) _ read)

/-- An inventory of a source that looks the same is the same. -/
theorem SameView.inventory {before later : World} {mode : RunMode} {manifest : ObjectManifest}
    (view : SameView platform database source before later)
    (read : (inventory platform database (source.store platform) mode).Reads before.calm
      (.ok manifest)) :
    (inventory platform database (source.store platform) mode).Reads later.calm (.ok manifest) := by
  have steady := source.steady platform
  obtain ⟨listed, references, list, looked, rfl⟩ := steady.inventory_reads.mp read
  refine steady.inventory_reads.mpr ⟨listed, references, ?_, ?_, rfl⟩
  · have keys := view.listed listed ((source.listKeys_calm platform before).unique list)
    have calm := source.listKeys_calm platform later
    rwa [keys] at calm
  · exact List.forall₂_iff_get.mpr ⟨looked.length_eq, fun index left right =>
      view.inspected (List.get_mem _ _) (looked.get left right)⟩

/-- Whether a source takes an object of the bucket for one of its own. -/
def RetainedSource.Sees (platform : CutoverPlatform) (database : DatabaseInventory)
    (source : RetainedSource) (name : String) : Prop :=
  match source with
  | .localDirectory => False
  | .s3 sourcePrefix =>
    let store : S3CompatibleStore := ⟨sourcePrefix, .legacySource⟩
    (store.lists platform name = true ∧ store.canonicalFromRemote name ≠ .ok none) ∨
      ∃ key ∈ database.sourceKeys, ∃ candidate ∈ physicalCandidates key .legacySource,
        store.place candidate = name

/-- A directory does not see objects of the bucket. -/
theorem sameView_localDirectory {before later : World} (tree : later.tree = before.tree) :
    SameView platform database .localDirectory before later := by
  have listed : RetainedSource.localDirectory.listed platform later =
      RetainedSource.localDirectory.listed platform before := by
    simp only [RetainedSource.listed, tree]
  refine ⟨fun keys same => by rwa [listed], fun key _ found read => ?_⟩
  rw [RetainedSource.get_reads_ok] at read ⊢
  have objects : RetainedSource.localDirectory.objectAt platform later key =
      RetainedSource.localDirectory.objectAt platform before key := by
    funext place
    simp only [RetainedSource.objectAt, tree]
  rwa [objects]

/-- Keys stay while the bucket grows. -/
theorem World.Grows.keys {before after : World} (grown : before.Grows after) {name : String}
    (there : name ∈ before.bucket.keys) : name ∈ after.bucket.keys :=
  (grown.bucket.map Prod.fst).subset there

/-- Keys that are added to a bucket are new. -/
theorem mem_extra {before later : World} {extra : List (String × StoredObject)}
    (grown : before.bucket.entries ++ extra = later.bucket.entries) {name : String}
    (member : name ∈ extra.map Prod.fst) :
    name ∈ later.bucket.keys ∧ name ∉ before.bucket.keys := by
  have keys : later.bucket.keys = before.bucket.keys ++ extra.map Prod.fst := by
    rw [Bucket.keys, ← grown, List.map_append]
    rfl
  have distinct : later.bucket.keys.Nodup := later.bucket.distinct
  rw [keys] at distinct ⊢
  exact ⟨List.mem_append_right _ member, fun old =>
    (List.nodup_append'.mp distinct).2.2 old member⟩

/-- A source looks the same while it sees none of the new objects. -/
theorem sameView_of_unseen {before later : World} {names : List String}
    (within : before.Within names later)
    (unseen : ∀ name ∈ names, name ∉ before.bucket.keys → ¬source.Sees platform database name) :
    SameView platform database source before later := by
  cases source with
  | localDirectory => exact sameView_localDirectory within.grows.tree
  | s3 sourcePrefix =>
    -- What is new is not seen.
    have fresh : ∀ name ∈ later.bucket.keys, name ∉ before.bucket.keys →
        ¬(RetainedSource.s3 sourcePrefix).Sees platform database name := fun name there new =>
      unseen name ((within.names name there).resolve_left new) new
    obtain ⟨extra, grown⟩ := within.grows.bucket
    refine ⟨fun keys listed => ?_, fun key member found read => ?_⟩
    · have skipped : ∀ item ∈ ((extra.map Prod.fst).filter
          ((S3CompatibleStore.mk sourcePrefix .legacySource).lists platform)).map
            (S3CompatibleStore.mk sourcePrefix .legacySource).canonicalFromRemote,
          item = .ok none := by
        intro item inside
        obtain ⟨name, listable, rfl⟩ := List.mem_map.mp inside
        obtain ⟨there, lists⟩ := List.mem_filter.mp listable
        obtain ⟨stored, new⟩ := mem_extra grown there
        by_contra some_
        exact fresh name stored new (Or.inl ⟨lists, some_⟩)
      have longer : (RetainedSource.s3 sourcePrefix).listed platform later =
          (RetainedSource.s3 sourcePrefix).listed platform before ++
            ((extra.map Prod.fst).filter
              ((S3CompatibleStore.mk sourcePrefix .legacySource).lists platform)).map
                (S3CompatibleStore.mk sourcePrefix .legacySource).canonicalFromRemote := by
        simp only [RetainedSource.listed, S3CompatibleStore.listed, Bucket.keys, ← grown,
          List.map_append, List.filter_append]
      obtain ⟨readable, same, distinct⟩ := (insertKeys_eq_ok List.nodup_nil).mp listed
      rw [insertKeys_eq_ok List.nodup_nil, longer]
      refine ⟨fun item inside => ?_, ?_, distinct⟩
      · rcases List.mem_append.mp inside with old | new
        · exact readable item old
        · exact ⟨none, skipped item new⟩
      · rw [same, filled, filled, List.filterMap_append]
        have nothing := List.filterMap_eq_nil_iff (f := fun item : Except StoreError
          (Option String) => item.toOption.join).mpr fun item inside => by
            rw [skipped item inside]
            rfl
        rw [nothing, List.append_nil]
    · rw [RetainedSource.get_reads_ok] at read ⊢
      have objects : ∀ place ∈ physicalCandidates key .legacySource,
          (RetainedSource.s3 sourcePrefix).objectAt platform later key place =
            (RetainedSource.s3 sourcePrefix).objectAt platform before key place := by
        intro place candidate
        simp only [RetainedSource.objectAt, S3CompatibleStore.objectAt]
        cases accepted : (S3CompatibleStore.mk sourcePrefix .legacySource).remoteKey platform
            place with
        | error error => rfl
        | ok remote =>
          rw [S3CompatibleStore.remoteKey_eq accepted]
          refine congrArg Except.ok ?_
          cases old : before.bucket.get?
              ((S3CompatibleStore.mk sourcePrefix .legacySource).place place) with
          | some object => exact within.grows.get? old
          | none =>
            -- A new object at a place of the key would be seen.
            rw [Bucket.get?_eq_none] at old ⊢
            exact fun there => fresh _ there old (Or.inr ⟨key, member, place, candidate, rfl⟩)
      obtain ⟨checked, looked, one⟩ := read
      refine ⟨checked, fun place candidate => ?_, ?_⟩
      · rw [objects place candidate]
        exact looked place candidate
      · rw [List.map_congr_left objects]
        exact one

/-! ### Copying in a calm world -/

/-- The calm world with another bucket. -/
def World.holding (world : World) (bucket : Bucket String StoredObject) : World :=
  ⟨world.tree, bucket, []⟩

/-- A world that holds its own bucket is calm. -/
theorem World.holding_bucket (world : World) : world.holding world.bucket = world.calm := rfl

/-- A create in a calm world is answered. -/
theorem canonicalDestination_put {key digest : String} {object : StoredObject} (world : World)
    (accepted : ∃ name, (canonicalDestination pathPrefix).remoteKey platform key = .ok name) :
    ∃ disposition, ((canonicalDestination pathPrefix).store platform).putCreate key object digest
      world.calm = (.ok disposition, world.holding (world.bucket.create
        ((canonicalDestination pathPrefix).place key) (platform.stored object))) := by
  obtain ⟨name, accepted⟩ := accepted
  have named := accepted
  rw [S3CompatibleStore.remoteKey_eq accepted] at named
  have passed : (Effect.decided ((canonicalDestination pathPrefix).remoteKey platform key) :
      StoreStep String) world.calm =
        (.ok ((canonicalDestination pathPrefix).place key), world.calm) := by
    rw [named, decided_apply]
  exact ⟨_, bind_apply_ok passed⟩

/-- In a calm world a reference is transferred and compared with what is now at its place. -/
theorem transferReference_calm {sourceKeys : ReferenceKind × ℤ → Option String}
    {reference : ObjectReference} {key sourceKey : String} {object : StoredObject} {world : World}
    (belongs : reference.canonicalKey = some key)
    (comes : sourceKeys (reference.referenceKind, reference.dbId) = some sourceKey)
    (read : ((source.store platform).get sourceKey).Reads world.calm (.ok (some object)))
    (accepted : ∃ name, (canonicalDestination pathPrefix).remoteKey platform key = .ok name) :
    ∃ disposition,
      let bucket := world.bucket.create ((canonicalDestination pathPrefix).place key)
        (platform.stored (reference.upload platform key object))
      transferReference platform sourceKeys (source.store platform)
        ((canonicalDestination pathPrefix).store platform) reference world.calm =
          (.ok (reference.verified platform (reference.upload platform key object) disposition
            (bucket.get? ((canonicalDestination pathPrefix).place key))),
            world.holding bucket) := by
  -- The upload creates the object unless its place is taken, and is then read back.
  obtain ⟨disposition, put⟩ := canonicalDestination_put world accepted
  refine ⟨disposition, ?_⟩
  let bucket := world.bucket.create ((canonicalDestination pathPrefix).place key)
    (platform.stored (reference.upload platform key object))
  have given : (((canonicalDestination pathPrefix).store platform).get key).Reads
      (world.holding bucket).calm (.ok _) := canonicalDestination_get.mpr ⟨accepted, rfl⟩
  unfold transferReference
  rw [belongs]
  refine Effect.bind_eq_ok.mpr ⟨sourceKey, world.calm, by rw [comes]; rfl, ?_⟩
  refine Effect.bind_eq_ok.mpr ⟨some object, world.calm, Effect.mapError_eq_ok.mpr read, ?_⟩
  refine Effect.bind_eq_ok.mpr ⟨object, world.calm, rfl, ?_⟩
  refine Effect.bind_eq_ok.mpr ⟨disposition, _, Effect.mapError_eq_ok.mpr put, ?_⟩
  exact Effect.bind_eq_ok.mpr ⟨_, _, Effect.mapError_eq_ok.mpr given, rfl⟩

/-- What the transfer of a reference leaves, by what the destination holds in the end. -/
def Compared (platform : CutoverPlatform) (database : DatabaseInventory) (source : RetainedSource)
    (pathPrefix : String) (before final : World) (reference : ObjectReference)
    (result : Transferred) : Prop :=
  match reference.canonicalKey with
  | none => result = { reference, blocker := none, mismatched := false }
  | some key => ∃ sourceKey object disposition remote,
      sourceKeyOf database.references (reference.referenceKind, reference.dbId) = some sourceKey ∧
      ((source.store platform).get sourceKey).Reads before.calm (.ok (some object)) ∧
      final.bucket.get? ((canonicalDestination pathPrefix).place key) = some remote ∧
      result = reference.verified platform (reference.upload platform key object) disposition
        (some remote)

/-- What the destination holds, it holds in the end. -/
theorem Compared.grown {before middle final : World} (grown : middle.Grows final)
    {reference : ObjectReference} {result : Transferred}
    (compared : Compared platform database source pathPrefix before middle reference result) :
    Compared platform database source pathPrefix before final reference result := by
  unfold Compared at compared ⊢
  split
  · rename_i keyless
    rwa [keyless] at compared
  · rename_i key belongs
    rw [belongs] at compared
    obtain ⟨sourceKey, object, disposition, remote, comes, read, given, same⟩ := compared
    exact ⟨sourceKey, object, disposition, remote, comes, read, grown.get? given, same⟩

/-- A run that copies in a calm world, from a source that always looks the same. -/
structure Copying (platform : CutoverPlatform) (database : DatabaseInventory)
    (source : RetainedSource) (pathPrefix : String) (before : World)
    (references : List ObjectReference) (names : List String) : Prop where
  /-- Every reference has an object and a place. -/
  ready : ∀ reference ∈ references, ∀ key, reference.canonicalKey = some key →
    ∃ sourceKey object,
      sourceKeyOf database.references (reference.referenceKind, reference.dbId) = some sourceKey ∧
      (∀ later, before.Within names later →
        ((source.store platform).get sourceKey).Reads later.calm (.ok (some object))) ∧
      ∃ name, (canonicalDestination pathPrefix).remoteKey platform key = .ok name
  /-- Every place is among those that may be filled. -/
  inside : ∀ object ∈ parcels platform database source pathPrefix before references,
    object.1 ∈ names

/-- Creates at given places keep a world within them. -/
theorem World.Within.createAll {names : List String} {before later : World}
    (within : before.Within names later) {objects : List (String × StoredObject)}
    (inside : ∀ object ∈ objects, object.1 ∈ names) :
    before.Within names (later.holding (later.bucket.createAll objects)) := by
  refine ⟨⟨within.grows.tree, within.grows.bucket.trans (Bucket.createAll_prefix _ _)⟩, ?_⟩
  intro name member
  rcases (Bucket.mem_keys_createAll _ _ _).mp member with old | new
  · exact within.names name old
  · obtain ⟨object, there, rfl⟩ := List.mem_map.mp new
    exact Or.inr (inside object there)

/-- Copying one object in a calm world sends its parcel and compares what is there. -/
theorem Copying.step {before : World} {references : List ObjectReference} {names : List String}
    (copying : Copying platform database source pathPrefix before references names)
    {reference : ObjectReference} (member : reference ∈ references) {later : World}
    (within : before.Within names later) :
    ∃ result,
      let next := later.holding (later.bucket.createAll
        (parcel platform database source pathPrefix before reference).toList)
      transferReference platform (sourceKeyOf database.references) (source.store platform)
        ((canonicalDestination pathPrefix).store platform) reference later.calm =
          (.ok result, next) ∧
      Compared platform database source pathPrefix before next reference result := by
  unfold Compared
  cases belongs : reference.canonicalKey with
  | none =>
    have nothing : parcel platform database source pathPrefix before reference = none := by
      simp [parcel, belongs]
    rw [nothing]
    refine ⟨_, ?_, rfl⟩
    unfold transferReference
    rw [belongs]
    rfl
  | some key =>
    obtain ⟨sourceKey, object, comes, reads, accepted⟩ := copying.ready reference member key belongs
    have first := reads before ⟨Std.Refl.refl _, fun name there => Or.inl there⟩
    have looked : source.lookup platform before sourceKey = some object :=
      RetainedSource.lookup_eq first
    have packed : parcel platform database source pathPrefix before reference =
        some ((canonicalDestination pathPrefix).place key,
          platform.stored (reference.upload platform key object)) := by
      simp [parcel, belongs, comes, looked]
    obtain ⟨disposition, ran⟩ :=
      transferReference_calm belongs comes (reads later within) accepted
    rw [packed]
    refine ⟨_, ran, ?_⟩
    -- The place is taken by now, so some object is given out.
    have taken := (Bucket.mem_keys_create later.bucket ((canonicalDestination pathPrefix).place key)
      _ (platform.stored (reference.upload platform key object))).mpr (Or.inl rfl)
    obtain ⟨remote, given⟩ := Bucket.mem_keys.mp taken
    rw [given]
    exact ⟨sourceKey, object, disposition, remote, comes, first, given, rfl⟩

/-- Copying in a calm world sends all parcels and compares what is there in the end. -/
theorem Copying.run {before : World} {references : List ObjectReference} {names : List String}
    (copying : Copying platform database source pathPrefix before references names)
    {later : World} (within : before.Within names later) :
    ∃ transferred,
      let final := later.holding (later.bucket.createAll
        (parcels platform database source pathPrefix before references))
      references.mapM (transferReference platform (sourceKeyOf database.references)
        (source.store platform) ((canonicalDestination pathPrefix).store platform)) later.calm =
          (.ok transferred, final) ∧
      List.Forall₂ (Compared platform database source pathPrefix before final) references
        transferred := by
  induction references generalizing later with
  | nil => exact ⟨[], rfl, .nil⟩
  | cons reference rest ih =>
    have split_ : parcels platform database source pathPrefix before (reference :: rest) =
        (parcel platform database source pathPrefix before reference).toList ++
          parcels platform database source pathPrefix before rest := List.flatMap_cons
    have inside := copying.inside
    rw [split_] at inside ⊢
    have others : Copying platform database source pathPrefix before rest names :=
      ⟨fun other member => copying.ready other (List.mem_cons_of_mem _ member),
        fun object member => inside object (List.mem_append_right _ member)⟩
    obtain ⟨result, first, compared⟩ := copying.step List.mem_cons_self within
    -- The rest is copied from the world that the first reference leaves.
    have next := within.createAll fun object member =>
      inside object (List.mem_append_left _ member)
    obtain ⟨results, ran, all⟩ := ih others next
    rw [Bucket.createAll_append]
    refine ⟨result :: results, ?_, .cons ?_ all⟩
    · rw [List.mapM_cons]
      exact Effect.bind_eq_ok.mpr ⟨result, _, first, Effect.bind_eq_ok.mpr ⟨results, _, ran, rfl⟩⟩
    · have grown : (later.holding (later.bucket.createAll
          (parcel platform database source pathPrefix before reference).toList)).Grows
          (later.holding ((later.bucket.createAll
            (parcel platform database source pathPrefix before reference).toList).createAll
              (parcels platform database source pathPrefix before rest))) :=
        ⟨rfl, Bucket.createAll_prefix _ _⟩
      exact compared.grown grown

/-! ### Running again -/

/-- The places where a run may create objects. -/
def DatabaseInventory.places (database : DatabaseInventory) (pathPrefix : String) : List String :=
  database.canonicalKeys.map (canonicalDestination pathPrefix).place

/-- A run that stopped anywhere after a valid inventory left a world within the places. -/
theorem within_places {mode : RunMode} {before : World} {manifest : ObjectManifest}
    (read : (inventory platform database (source.store platform) mode).Reads before.calm
      (.ok manifest)) {sent : List (String × StoredObject)}
    (started : sent <+: parcels platform database source pathPrefix before manifest.references) :
    before.Within (database.places pathPrefix)
      (before.holding (before.bucket.createAll sent)) := by
  refine World.Within.createAll ⟨Std.Refl.refl _, fun name there => Or.inl there⟩ ?_
  intro object member
  obtain ⟨key, canonical, same⟩ :=
    parcels_places read (List.mem_map_of_mem (started.subset member))
  rw [same]
  exact List.mem_map_of_mem canonical

/-- After a valid run, copying can be done again from a source that always looks the same. -/
theorem Delivered.copying {mode : RunMode} {before after : World}
    {inventoried manifest : ObjectManifest}
    (read : (inventory platform database (source.store platform) mode).Reads before.calm
      (.ok inventoried))
    (delivered : Delivered platform database source pathPrefix before after inventoried manifest)
    (view : ∀ later, before.Within (database.places pathPrefix) later →
      SameView platform database source before later) :
    Copying platform database source pathPrefix before inventoried.references
      (database.places pathPrefix) := by
  refine ⟨fun reference member key belongs => ?_, fun object member => ?_⟩
  · obtain ⟨sourceKey, object, -, comes, got, accepted, -⟩ :=
      delivered.intact reference member key belongs
    refine ⟨sourceKey, object, comes, fun later within => ?_, accepted⟩
    -- The key of a row is a source key of the database.
    have stored := comes
    unfold sourceKeyOf at stored
    obtain ⟨row, found, same⟩ := Option.bind_eq_some_iff.mp stored
    exact (view later within).found sourceKey (List.mem_filterMap.mpr
      ⟨row, List.mem_reverse.mp (List.mem_of_find?_eq_some found), same⟩) _ got
  · obtain ⟨key, canonical, same⟩ := parcels_places read (List.mem_map_of_mem member)
    rw [same]
    exact List.mem_map_of_mem canonical

/-- A valid inventory has no blockers. -/
theorem inventory_unblocked {mode : RunMode} {world : World} {manifest : ObjectManifest}
    (read : (inventory platform database (source.store platform) mode).Reads world.calm
      (.ok manifest)) (passed : manifest.valid = true) : manifest.blockers = [] := by
  obtain ⟨listed, references, -, -, rfl⟩ := (source.steady platform).inventory_reads.mp read
  exact List.isEmpty_iff.mp passed

/-- A reference that was verified before is verified when it is compared with the same object. -/
theorem Delivered.verified {before after final : World} {inventoried manifest : ObjectManifest}
    (delivered : Delivered platform database source pathPrefix before after inventoried manifest)
    (same : final.bucket = after.bucket) {reference : ObjectReference} {result : Transferred}
    (member : reference ∈ inventoried.references)
    (compared : Compared platform database source pathPrefix before final reference result) :
    result.blocker = none ∧ result.reference.canonicalKey = reference.canonicalKey := by
  unfold Compared at compared
  cases belongs : reference.canonicalKey with
  | none =>
    rw [belongs] at compared
    rw [compared]
    exact ⟨rfl, belongs⟩
  | some key =>
    rw [belongs] at compared
    obtain ⟨sourceKey, object, disposition, remote, comes, read, given, rfl⟩ := compared
    -- The first run left an intact object under the key, and nothing has replaced it.
    obtain ⟨otherKey, other, stored, otherComes, otherRead, -, stays, intact, -⟩ :=
      delivered.intact reference member key belongs
    cases comes.symm.trans otherComes
    cases read.unique otherRead
    rw [same, stays] at given
    cases given
    exact ⟨verified_unblocked.mpr ⟨remote, rfl, intact⟩,
      (verified_same _ _ _ _).2.trans belongs⟩

/-- Where a valid run would have been stopped, running again is valid and leaves the same objects. -/
theorem Delivered.again {mode : RunMode} {before after : World}
    {inventoried manifest : ObjectManifest}
    (read : (inventory platform database (source.store platform) mode).Reads before.calm
      (.ok inventoried)) (passed : inventoried.valid = true)
    (delivered : Delivered platform database source pathPrefix before after inventoried manifest)
    (view : ∀ later, before.Within (database.places pathPrefix) later →
      SameView platform database source before later)
    {sent : List (String × StoredObject)}
    (started : sent <+: parcels platform database source pathPrefix before inventoried.references) :
    ∃ again final, transfer platform database source pathPrefix mode
        (before.holding (before.bucket.createAll sent)) = (.ok again, final) ∧
      again.valid = true ∧ final.bucket = after.bucket := by
  have within := within_places read started
  have copying := delivered.copying read view
  have inventoriedAgain := (view _ within).inventory read
  obtain ⟨transferred, ran, compared⟩ := copying.run within
  have same : (before.bucket.createAll sent).createAll
      (parcels platform database source pathPrefix before inventoried.references) =
        after.bucket := by rw [Bucket.createAll_again _ started, delivered.bucket]
  obtain ⟨keys, listed, referenced⟩ := delivered.listed
  -- The destination ends up as it did before, and so does its listing.
  have ends : (before.holding (before.bucket.createAll sent)).holding
      ((before.bucket.createAll sent).createAll
        (parcels platform database source pathPrefix before inventoried.references)) =
      before.holding after.bucket := by
    rw [World.holding, same]
    rfl
  have list := (canonicalDestination pathPrefix).listKeys_calm platform
    (before.holding after.bucket)
  have names : (canonicalDestination pathPrefix).listed platform (before.holding after.bucket) =
      (canonicalDestination pathPrefix).listed platform after := rfl
  rw [names, listed] at list
  refine ⟨inventoried.transferred transferred keys, before.holding after.bucket, ?_,
    transferred_valid.mpr ⟨inventory_unblocked read passed, fun result member => ?_,
      fun key member => ?_⟩, rfl⟩
  · unfold transfer transferToCanonicalDestination
    refine Effect.bind_eq_ok.mpr ⟨inventoried, _, inventoriedAgain, ?_⟩
    rw [if_pos passed]
    refine Effect.bind_eq_ok.mpr ⟨transferred, _, ran, ?_⟩
    exact Effect.bind_eq_ok.mpr ⟨keys, _, Effect.mapError_eq_ok.mpr (ends ▸ list), by rw [ends]; rfl⟩
  · obtain ⟨reference, inside, result⟩ := forall₂_mem_right compared member
    exact (delivered.verified same inside result).1
  · obtain ⟨reference, inside, belongs⟩ := referenced key member
    obtain ⟨result, there, found⟩ := forall₂_mem_left compared inside
    exact ⟨result, there, (delivered.verified same inside found).2.trans belongs⟩

/-- In a listing without repetition, two names do not stand for one key. -/
theorem listed_injective {names : List String} {stands : String → Except StoreError (Option String)}
    (distinct : (filled (names.map stands)).Nodup) {left right key : String}
    (leftThere : left ∈ names) (rightThere : right ∈ names)
    (leftStands : stands left = .ok (some key)) (rightStands : stands right = .ok (some key)) :
    left = right := by
  induction names with
  | nil => cases leftThere
  | cons name rest ih =>
    -- What stands for the key at the head is not found in the rest.
    have single : stands name = .ok (some key) → ∀ other ∈ rest, stands other ≠ .ok (some key) := by
      intro headStands other member otherStands
      rw [List.map_cons, headStands, filled_cons_some] at distinct
      refine (List.nodup_cons.mp distinct).1 (mem_filled.mpr ?_)
      exact List.mem_map.mpr ⟨other, member, otherStands⟩
    have fewer : (filled (rest.map stands)).Nodup := by
      refine distinct.sublist ?_
      rw [List.map_cons]
      exact (List.sublist_cons_self _ _).filterMap _
    cases List.mem_cons.mp leftThere with
    | inl leftHead =>
      cases List.mem_cons.mp rightThere with
      | inl rightHead => exact leftHead.trans rightHead.symm
      | inr rightRest => exact absurd rightStands (single (leftHead ▸ leftStands) right rightRest)
    | inr leftRest =>
      cases List.mem_cons.mp rightThere with
      | inl rightHead => exact absurd leftStands (single (rightHead ▸ rightStands) left leftRest)
      | inr rightRest => exact ih fewer leftRest rightRest

/-- An object that a source sees is one too many when it was not there before. -/
theorem sees_refused {before after : World} {name : String} (grown : before.Grows after)
    (first : source.Checked platform before database)
    (second : source.Checked platform after database) (there : name ∈ after.bucket.keys)
    (new : name ∉ before.bucket.keys) : ¬source.Sees platform database name := by
  intro sees
  cases source with
  | localDirectory => exact sees
  | s3 sourcePrefix =>
    obtain ⟨oldKeys, oldListed, oldCovered⟩ := first.listed
    obtain ⟨keys, listed, covered⟩ := second.listed
    rcases sees with ⟨lists, stands⟩ | ⟨key, member, candidate, looked, rfl⟩
    · -- A listed object would be a second one of a key that was there before.
      obtain ⟨readable, same, distinct⟩ := (insertKeys_eq_ok List.nodup_nil).mp listed
      obtain ⟨-, oldSame, -⟩ := (insertKeys_eq_ok List.nodup_nil).mp oldListed
      have listable : name ∈ after.bucket.keys.filter
          ((S3CompatibleStore.mk sourcePrefix .legacySource).lists platform) :=
        List.mem_filter.mpr ⟨there, lists⟩
      obtain ⟨value, found⟩ := readable _ (List.mem_map_of_mem listable)
      cases value with
      | none => exact stands found
      | some key =>
        have within : key ∈ keys := by
          rw [same, List.nil_append, mem_filled, ← found]
          exact List.mem_map_of_mem listable
        have old := oldCovered.there key (covered.needed key within)
        rw [oldSame, List.nil_append, mem_filled] at old
        obtain ⟨other, otherListable, otherFound⟩ := List.mem_map.mp old
        obtain ⟨otherThere, otherLists⟩ := List.mem_filter.mp otherListable
        rw [same, List.nil_append] at distinct
        have one := listed_injective distinct listable
          (List.mem_filter.mpr ⟨grown.keys otherThere, otherLists⟩) found otherFound
        exact new (one ▸ otherThere)
    · -- An object at another place of a stored key would be a second one.
      obtain ⟨object, read⟩ := second.found key member
      obtain ⟨oldObject, oldRead⟩ := first.found key member
      obtain ⟨-, -, nonempty⟩ := (RetainedSource.s3 sourcePrefix).listed_found platform oldListed
        (oldCovered.there key member) oldRead
      obtain ⟨place, located⟩ := List.exists_mem_of_ne_nil _ nonempty
      obtain ⟨placed, full⟩ := List.mem_filter.mp located
      simp only [RetainedSource.occupied, Option.isSome_iff_exists, ← Bucket.mem_keys] at full
      have still : place ∈ (RetainedSource.s3 sourcePrefix).locate after key := by
        refine List.mem_filter.mpr ⟨placed, ?_⟩
        simp only [RetainedSource.occupied, Option.isSome_iff_exists, ← Bucket.mem_keys]
        exact grown.keys full
      have also : candidate ∈ (RetainedSource.s3 sourcePrefix).locate after key := by
        refine List.mem_filter.mpr ⟨looked, ?_⟩
        simp only [RetainedSource.occupied, Option.isSome_iff_exists, ← Bucket.mem_keys]
        exact there
      have one := (RetainedSource.s3 sourcePrefix).locate_unique platform read also still
      exact new (one ▸ full)

/--
After a valid transfer, a run that stopped anywhere can be repeated exactly when the source sees
none of the places that were still to be filled.
-/
theorem transfer_resumes {mode : RunMode} {before after : World} {manifest : ObjectManifest}
    (ran : transfer platform database source pathPrefix mode before = (.ok manifest, after))
    (valid : manifest.valid = true) :
    (∀ weather, ∃ again final,
      transfer platform database source pathPrefix mode
        (transfer platform database source pathPrefix mode { before with weather }).2.calm =
          (.ok again, final) ∧ again.valid = true ∧ final.bucket = after.bucket) ↔
    ∀ key ∈ database.canonicalKeys,
      (canonicalDestination pathPrefix).place key ∉ before.bucket.keys →
      ¬source.Sees platform database ((canonicalDestination pathPrefix).place key) := by
  obtain ⟨inventoried, read, passed, delivered⟩ := transfer_delivered ran valid
  have grown : before.Grows after := World.grows_createAll delivered.tree delivered.bucket
  constructor
  · intro resumes key canonical new
    -- A completed run is one that may be repeated.
    obtain ⟨again, final, second, good, -⟩ := resumes before.weather
    have same : (transfer platform database source pathPrefix mode
        { before with weather := before.weather }).2 = after := congrArg Prod.snd ran
    rw [same] at second
    have first := RetainedSource.valid_checked (Or.inr ⟨pathPrefix, ran⟩) valid
    have later := RetainedSource.valid_checked (Or.inr ⟨pathPrefix, second⟩) good
    obtain ⟨reference, member, belongs⟩ := List.mem_filterMap.mp canonical
    obtain ⟨result, inside, keyed, -⟩ := inventory_covers read member
    obtain ⟨-, -, stored, -, -, -, given, -⟩ :=
      delivered.intact result inside key (keyed.trans belongs)
    have grownCalm : before.Grows after.calm := ⟨grown.tree, grown.bucket⟩
    exact sees_refused grownCalm first later (Bucket.mem_keys.mpr ⟨stored, given⟩) new
  · intro unseen weather
    have view : ∀ later, before.Within (database.places pathPrefix) later →
        SameView platform database source before later := fun later within =>
      sameView_of_unseen within fun name member new => by
        obtain ⟨key, canonical, rfl⟩ := List.mem_map.mp member
        exact unseen key canonical new
    obtain ⟨tree, sent, bucket, stopped⟩ :=
      @transfer_sends platform database source pathPrefix mode { before with weather }
    have left : (transfer platform database source pathPrefix mode { before with weather }).2.calm =
        before.holding (before.bucket.createAll sent) := by
      simp only [World.calm, World.holding, tree, bucket]
    rw [left]
    rcases stopped with rfl | ⟨other, otherRead, -, started⟩
    · exact delivered.again read passed view List.nil_prefix
    · -- The stopped run had the same inventory.
      have calm : ({ before with weather } : World).calm = before.calm := rfl
      rw [calm] at otherRead
      cases otherRead.unique read
      exact delivered.again read passed view started

/-! ### The commands -/

/-- The commands that copy objects, with the prefixes they are given. -/
inductive CopyCommand where
  | backfillLocalToS3 (destination : String)
  | promoteS3ToS3 (source destination : String)

namespace CopyCommand

/-- Runs a command. -/
def run (platform : CutoverPlatform) (database : DatabaseInventory) :
    CopyCommand → CutoverStep ObjectManifest
  | .backfillLocalToS3 destination => Cutover.backfillLocalToS3 platform destination database
  | .promoteS3ToS3 source destination => Cutover.promoteS3ToS3 platform source destination database

/-- Where a command copies from. -/
def retained : CopyCommand → RetainedSource
  | .backfillLocalToS3 _ => .localDirectory
  | .promoteS3ToS3 source _ => .s3 source

/-- The prefix that a command copies to. -/
def destination : CopyCommand → String
  | .backfillLocalToS3 destination => destination
  | .promoteS3ToS3 _ destination => destination

/-- The mode of a command. -/
def mode : CopyCommand → RunMode
  | .backfillLocalToS3 _ => .backfillLocalToS3
  | .promoteS3ToS3 _ _ => .promoteS3ToS3

/-- A prefix that is not refused is the text itself. -/
theorem normalizePrefix_eq {raw normal : String} (accepted : normalizePrefix raw = .ok normal) :
    normal = raw := by
  unfold normalizePrefix at accepted
  split at accepted
  · rename_i empty
    cases accepted
    exact empty.symm
  · simp only [Store.bind_eq_ok, Store.mapError_eq_ok] at accepted
    obtain ⟨-, -, canonical⟩ := accepted
    exact validateKey_eq canonical

/-- A command that can give out a manifest is a transfer. -/
theorem run_eq {command : CopyCommand} {before after : World} {manifest : ObjectManifest}
    (ran : command.run platform database before = (.ok manifest, after)) :
    command.run platform database =
      transfer platform database command.retained command.destination command.mode := by
  -- A command that ran had an accepted prefix, which normalising does not change.
  cases command with
  | backfillLocalToS3 destination =>
    cases accepted : normalizePrefix destination with
    | error error =>
      simp only [run, Cutover.backfillLocalToS3, accepted] at ran
      cases ran
    | ok normal =>
      rw [normalizePrefix_eq accepted] at accepted
      funext world
      simp only [run, Cutover.backfillLocalToS3, accepted]
      rfl
  | promoteS3ToS3 source destination =>
    simp only [run, Cutover.promoteS3ToS3, Effect.bind_eq_ok, decided_apply, Prod.mk.injEq] at ran
    obtain ⟨first, -, ⟨accepted, -⟩, second, -, ⟨alsoAccepted, -⟩, checked, -, ⟨differ, -⟩, -⟩ :=
      ran
    cases normalizePrefix_eq accepted
    cases normalizePrefix_eq alsoAccepted
    funext world
    refine (bind_apply_ok (congrArg (·, world) accepted)).trans ?_
    refine (bind_apply_ok (congrArg (·, world) alsoAccepted)).trans ?_
    exact bind_apply_ok (congrArg (·, world) differ)

/--
After a command gave out a valid manifest, a run that stopped anywhere can be repeated exactly when
the source sees none of the places that were still to be filled.
-/
theorem resumes_iff {command : CopyCommand} {before after : World} {manifest : ObjectManifest}
    (ran : command.run platform database before = (.ok manifest, after))
    (valid : manifest.valid = true) :
    (∀ weather, ∃ again final,
      command.run platform database
        (command.run platform database { before with weather }).2.calm = (.ok again, final) ∧
      again.valid = true ∧ final.bucket = after.bucket) ↔
    ∀ key ∈ database.canonicalKeys,
      (canonicalDestination command.destination).place key ∉ before.bucket.keys →
      ¬command.retained.Sees platform database
        ((canonicalDestination command.destination).place key) := by
  have whole := run_eq ran
  rw [whole] at ran ⊢
  exact transfer_resumes ran valid

end CopyCommand

/-- What a source sees of a bucket is below its prefix. -/
theorem RetainedSource.Sees.below {sourcePrefix name : String}
    (sees : (RetainedSource.s3 sourcePrefix).Sees platform database name) :
    ∃ key, name = (S3CompatibleStore.mk sourcePrefix .legacySource).place key := by
  rcases sees with ⟨-, stands⟩ | ⟨-, -, candidate, -, rfl⟩
  · unfold S3CompatibleStore.canonicalFromRemote at stands
    split at stands
    · rename_i bare
      exact ⟨name, by simp only [S3CompatibleStore.place]; rw [if_pos bare]⟩
    · rename_i prefixed
      cases found : stripLeading (sourcePrefix ++ "/") name with
      | none => exact absurd (by rw [found]) stands
      | some key =>
        refine ⟨key, ?_⟩
        rw [S3CompatibleStore.place, if_neg prefixed]
        exact stripLeading_eq_some.mp found
  · exact ⟨candidate, rfl⟩

/-- Two attachments with names of their own: a stopped promotion to a new prefix can be repeated. -/
theorem attachedWorld_resumes :
    let database := readDatabase examplePlatform.parseUrl (attachedArtifact "march.pdf" "april.pdf")
    let world := attachedWorld ["march.pdf", "april.pdf"]
    let command := CopyCommand.promoteS3ToS3 "old" "new"
    ∀ weather, ∃ again final, command.run examplePlatform database
      (command.run examplePlatform database { world with weather }).2.calm = (.ok again, final) ∧
        again.valid = true ∧
        final.bucket = (command.run examplePlatform database world).2.bucket := by
  intro database world command
  have valid : endedValid (command.run examplePlatform database world) = true := by decide +kernel
  obtain ⟨manifest, after, ran, passed⟩ := endedValid_iff.mp valid
  rw [ran]
  refine (CopyCommand.resumes_iff ran passed).mpr fun key _ _ sees => ?_
  -- Nothing below the one prefix is below the other.
  obtain ⟨other, same⟩ := RetainedSource.Sees.below sees
  have characters := congrArg String.toList same
  simp [canonicalDestination, S3CompatibleStore.place, command, CopyCommand.destination] at characters

/-- What a promotion puts below the prefix that it reads from keeps it from being repeated. -/
theorem attachedWorld_nested :
    let database := readDatabase examplePlatform.parseUrl (attachedArtifact "march.pdf" "april.pdf")
    let world := attachedWorld ["march.pdf", "april.pdf"]
    let first := promoteS3ToS3 examplePlatform "old" "old/new" database world
    endedValid first = true ∧
      endedValid (promoteS3ToS3 examplePlatform "old" "old/new" database first.2) = false := by
  decide +kernel

end FinStream.Cutover
