import FinStream.Cutover.Delivery

/-! A valid transfer leaves exactly the objects that belong in the destination. -/

namespace FinStream.Cutover

open Store Effect

/-- The contents of all files and objects. -/
def World.contents (world : World) : List (List UInt8) :=
  world.bucket.entries.map (fun entry => entry.2.bytes) ++
    world.tree.nodes.entries.filterMap fun entry =>
      match entry.2 with
      | .file bytes => some bytes
      | _ => none

/-- The content of an object is among the contents. -/
theorem World.bucket_contents {world : World} {name : String} {object : StoredObject}
    (found : world.bucket.get? name = some object) : object.bytes ∈ world.contents :=
  List.mem_append_left _ (List.mem_map_of_mem (f := fun entry => entry.2.bytes)
    (Bucket.get?_eq_some.mp found))

/-- The content of a file is among the contents. -/
theorem World.tree_contents {world : World} {path : String} {bytes : List UInt8}
    (found : world.tree.nodes.get? path = some (.file bytes)) : bytes ∈ world.contents :=
  List.mem_append_right _ (List.mem_filterMap.mpr ⟨_, Bucket.get?_eq_some.mp found, rfl⟩)

/-- Contents stay while the bucket grows. -/
theorem World.Grows.contents {before after : World} (grown : before.Grows after)
    {bytes : List UInt8} (member : bytes ∈ before.contents) : bytes ∈ after.contents := by
  rw [World.contents, List.mem_append] at member ⊢
  rw [grown.tree]
  refine member.imp_left fun stored => ?_
  obtain ⟨entry, there, same⟩ := List.mem_map.mp stored
  exact List.mem_map.mpr ⟨entry, grown.bucket.subset there, same⟩

/-- Two contents with one digest are the same. -/
def World.CollisionFree (sha256 : List UInt8 → String) (world : World) : Prop :=
  ∀ left ∈ world.contents, ∀ right ∈ world.contents, sha256 left = sha256 right → left = right

instance (sha256 : List UInt8 → String) (world : World) :
    Decidable (world.CollisionFree sha256) := by
  unfold World.CollisionFree
  infer_instance

variable {platform : CutoverPlatform} {database : DatabaseInventory} {source : RetainedSource}
  {pathPrefix : String}

/-- What a source gives out has a content from the directory or the bucket. -/
theorem RetainedSource.get_contents {world : World} {key : String} {object : StoredObject}
    (read : ((source.store platform).get key).Reads world.calm (.ok (some object))) :
    object.bytes ∈ world.contents := by
  -- The object is the only one found among the candidates, so it is stored under one of them.
  obtain ⟨-, -, one⟩ := (source.get_reads_ok platform).mp read
  have there : object ∈ filled ((physicalCandidates key .legacySource).map
      (source.objectAt platform world key)) := by
    rw [one]
    exact List.mem_singleton_self object
  obtain ⟨place, -, seen⟩ := List.mem_map.mp (mem_filled.mp there)
  cases source with
  | localDirectory =>
    simp only [objectAt, Store.map_eq_ok, Option.map_eq_some_iff] at seen
    obtain ⟨found, file, bytes, rfl, rfl⟩ := seen
    unfold LocalTree.fileAt at file
    split at file
    · split at file
      · cases file
      · cases file
    · split at file
      · cases file
      · rename_i there
        cases file
        exact World.tree_contents there
      · cases file
  | s3 sourcePrefix =>
    simp only [objectAt, S3CompatibleStore.objectAt, Store.map_eq_ok] at seen
    obtain ⟨remote, -, found⟩ := seen
    exact World.bucket_contents found

/-- A manifest of an inventory has every reference of the database. -/
theorem inventory_covers {mode : RunMode} {world : World} {manifest : ObjectManifest}
    (read : (inventory platform database (source.store platform) mode).Reads world.calm
      (.ok manifest)) {reference : DatabaseReference} (member : reference ∈ database.references) :
    ∃ result ∈ manifest.references, result.canonicalKey = reference.canonicalKey ∧
      (result.referenceKind, result.dbId) = reference.row := by
  obtain ⟨listed, references, -, looked, rfl⟩ := (source.steady platform).inventory_reads.mp read
  obtain ⟨result, there, inspected⟩ := forall₂_mem_left looked member
  exact ⟨result, (List.mem_insertionSort _).mpr there, inspected.same⟩

/-- A manifest of an inventory has only references of the database. -/
theorem inventory_covered {mode : RunMode} {world : World} {manifest : ObjectManifest}
    (read : (inventory platform database (source.store platform) mode).Reads world.calm
      (.ok manifest)) {result : ObjectReference} (member : result ∈ manifest.references) :
    ∃ reference ∈ database.references, result.canonicalKey = reference.canonicalKey ∧
      (result.referenceKind, result.dbId) = reference.row := by
  obtain ⟨listed, references, -, looked, rfl⟩ := (source.steady platform).inventory_reads.mp read
  have there : result ∈ references := (List.mem_insertionSort _).mp member
  obtain ⟨reference, within, inspected⟩ := forall₂_mem_right looked there
  exact ⟨reference, within, inspected.same⟩

/-- The key of a reference of a manifest is a canonical key of the database. -/
theorem inventory_canonicalKey {mode : RunMode} {world : World} {manifest : ObjectManifest}
    (read : (inventory platform database (source.store platform) mode).Reads world.calm
      (.ok manifest)) {result : ObjectReference} {key : String}
    (member : result ∈ manifest.references) (belongs : result.canonicalKey = some key) :
    key ∈ database.canonicalKeys := by
  obtain ⟨reference, there, same, -⟩ := inventory_covered read member
  exact List.mem_filterMap.mpr ⟨reference, there, same.symm.trans belongs⟩

/-- A parcel is for a place where a canonical key belongs. -/
theorem parcels_places {mode : RunMode} {world : World} {manifest : ObjectManifest}
    (read : (inventory platform database (source.store platform) mode).Reads world.calm
      (.ok manifest)) {name : String} (member : name ∈
      (parcels platform database source pathPrefix world manifest.references).map Prod.fst) :
    ∃ key ∈ database.canonicalKeys, name = (canonicalDestination pathPrefix).place key := by
  obtain ⟨sent, there, rfl⟩ := List.mem_map.mp member
  obtain ⟨reference, inside, parcelled⟩ := List.mem_flatMap.mp there
  have packed := Option.mem_toList.mp parcelled
  simp only [parcel, Option.bind_eq_bind, Option.bind_eq_some_iff,
    Option.some.injEq] at packed
  obtain ⟨key, belongs, -, -, -, -, rfl⟩ := packed
  exact ⟨key, inventory_canonicalKey read inside belongs, rfl⟩

/-- In a canonical listing a place stands for its key. -/
theorem canonicalFromRemote_place {key other : String}
    (stands : (canonicalDestination pathPrefix).canonicalFromRemote
      ((canonicalDestination pathPrefix).place key) = .ok (some other)) : other = key := by
  obtain ⟨physical, same, canonical⟩ := S3CompatibleStore.canonicalFromRemote_eq_some.mp stands
  rw [← (canonicalDestination pathPrefix).place_injective same] at canonical
  cases canonicalizePhysicalKey_cases canonical with
  | inl self => exact self.1
  | inr legacy => cases legacy.1

/-- After a valid transfer, every reference has the bytes of its object. -/
theorem Delivered.objects {mode : RunMode} {before after : World}
    {inventoried manifest : ObjectManifest}
    (read : (inventory platform database (source.store platform) mode).Reads before.calm
      (.ok inventoried))
    (delivered : Delivered platform database source pathPrefix before after inventoried manifest)
    (collisionFree : after.CollisionFree platform.sha256) :
    ∀ reference ∈ database.references, ∀ key, reference.canonicalKey = some key →
      ∃ sourceKey object stored, reference.sourceKey = some sourceKey ∧
        ((source.store platform).get sourceKey).Reads before.calm (.ok (some object)) ∧
        after.bucket.get? ((canonicalDestination pathPrefix).place key) = some stored ∧
        stored.bytes = object.bytes ∧
        ∃ entry ∈ manifest.references, (entry.referenceKind, entry.dbId) = reference.row ∧
          entry.contentType = stored.contentType := by
  intro reference member key belongs
  obtain ⟨result, inside, same, row⟩ := inventory_covers read member
  obtain ⟨sourceKey, object, stored, comes, got, -, given, intact, entry, there, entryRow, -,
    recorded⟩ := delivered.intact result inside key (same.trans belongs)
  rw [row, database.sourceKeyOf_eq member] at comes
  have grown : before.Grows after := World.grows_createAll delivered.tree delivered.bucket
  -- Both contents are there at the end, and have one digest.
  have bytes : stored.bytes = object.bytes :=
    collisionFree _ (World.bucket_contents given) _ (grown.contents
      (RetainedSource.get_contents got)) intact.bytes
  exact ⟨sourceKey, object, stored, comes, got, given, bytes, entry, there, entryRow.trans row,
    recorded⟩

end FinStream.Cutover
