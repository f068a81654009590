import FinStream.Cutover.SourceObjects

/-! Where looking a key up in the retained source agrees with listing the source. -/

namespace FinStream.Cutover

open Store Effect

/-! ### One among several places -/

/-- Elements that are read as one value are one element where no value is read twice. -/
theorem eq_of_nodup_filterMap {α β : Type} {read : α → Option β} {items : List α}
    (distinct : (items.filterMap read).Nodup) {left right : α} {value : β} (leftIn : left ∈ items)
    (rightIn : right ∈ items) (leftRead : read left = some value)
    (rightRead : read right = some value) : left = right := by
  induction items with
  | nil => cases leftIn
  | cons item rest ih =>
    have fewer : (rest.filterMap read).Nodup :=
      distinct.sublist (List.Sublist.filterMap read (List.sublist_cons_self item rest))
    -- The value of the first element is not read again from the rest.
    have fresh : ∀ other ∈ rest, read item = some value → read other ≠ some value := by
      intro other member first second
      rw [List.filterMap_cons_some first, List.nodup_cons] at distinct
      exact distinct.1 (List.mem_filterMap.mpr ⟨other, member, second⟩)
    rcases List.mem_cons.mp leftIn with rfl | leftLater
    · rcases List.mem_cons.mp rightIn with rfl | rightLater
      · rfl
      · exact absurd rightRead (fresh right rightLater leftRead)
    · rcases List.mem_cons.mp rightIn with rfl | rightLater
      · exact absurd leftRead (fresh left leftLater rightRead)
      · exact ih fewer leftLater rightLater

/-- Among places that can be looked at or collide there is at most one object, or a collision. -/
theorem onlyOne_ok_or_collides {β : Type} {places : List (Except StoreError (Option β))}
    (looked : ∀ place ∈ places, (∃ object, place = .ok object) ∨ place = .error .canonicalCollision)
    (found : Option β) : (∃ result, onlyOne places found = .ok result) ∨
      onlyOne places found = .error .canonicalCollision := by
  -- The induction is on the places that are left; an object found before stays.
  induction places generalizing found with
  | nil => exact Or.inl ⟨found, rfl⟩
  | cons place rest ih =>
    have others := ih fun other member => looked other (List.mem_cons_of_mem _ member)
    rcases looked place List.mem_cons_self with ⟨object, rfl⟩ | rfl
    · cases object with
      | none => exact others found
      | some object =>
        cases found with
        | none => exact others (some object)
        -- A second object is the collision.
        | some other => exact Or.inr rfl
    · exact Or.inr rfl

namespace RetainedSource

variable (platform : CutoverPlatform) (source : RetainedSource)

/-! ### Places -/

/-- Whether a source looks at a place: an object store refuses some names. -/
def Looks (place : String) : Prop :=
  match source with
  | .localDirectory => True
  | .s3 pathPrefix => ∃ remote,
    (S3CompatibleStore.mk pathPrefix .legacySource).remoteKey platform place = .ok remote

/-- Whether there is anything at a place. -/
def Holds (world : World) (place : String) : Prop :=
  match source with
  | .localDirectory => world.tree.nodes.get? place ≠ none
  | .s3 pathPrefix =>
    world.bucket.get? ((S3CompatibleStore.mk pathPrefix .legacySource).place place) ≠ none

/-- Whether a listing goes over a place: a file, or an object with the prefix of the listing. -/
def Lists (world : World) (place : String) : Prop :=
  match source with
  | .localDirectory => ∃ bytes, world.tree.nodes.get? place = some (.file bytes)
  | .s3 pathPrefix =>
    (S3CompatibleStore.mk pathPrefix .legacySource).place place ∈ world.bucket.keys ∧
      (S3CompatibleStore.mk pathPrefix .legacySource).lists platform
        ((S3CompatibleStore.mk pathPrefix .legacySource).place place) = true

/-- Whether a listing maps a place to a key. -/
def Maps (world : World) (place key : String) : Prop :=
  source.Lists platform world place ∧ canonicalizePhysicalKey place .legacySource = .ok key

variable {platform source} {world : World} {keys : List String}

/-- What a listing goes over is there. -/
theorem Lists.holds {place : String} (lists : source.Lists platform world place) :
    source.Holds world place := by
  cases source with
  | localDirectory =>
    obtain ⟨bytes, there⟩ := lists
    exact ne_of_eq_of_ne there nofun
  | s3 pathPrefix =>
    obtain ⟨object, there⟩ := Bucket.mem_keys.mp lists.1
    exact ne_of_eq_of_ne there nofun

/-- A directory that is listed has no links. -/
theorem linkless_of_listed
    (listed : insertKeys [] (localDirectory.listed platform world) = .ok keys) :
    ∀ path leads, world.tree.nodes.get? path ≠ some (.link leads) := by
  obtain ⟨readable, -, -⟩ := (insertKeys_eq_ok List.nodup_nil).mp listed
  intro path leads there
  obtain ⟨value, impossible⟩ := readable (.error .invalidKey) (List.mem_append_right _
    (List.mem_map.mpr ⟨(path, .link leads), Bucket.get?_eq_some.mp there, rfl⟩))
  cases impossible

/-- Where nothing is, nothing is seen. -/
theorem objectAt_none {key place : String} (looks : source.Looks platform place)
    (listed : insertKeys [] (source.listed platform world) = .ok keys)
    (empty : ¬ source.Holds world place) :
    source.objectAt platform world key place = .ok none := by
  cases source with
  | localDirectory =>
    have missing : world.tree.nodes.get? place = none := not_not.mp empty
    simp only [objectAt, LocalTree.fileAt, linkOn_eq_none (linkless_of_listed listed), missing]
    rfl
  | s3 pathPrefix =>
    obtain ⟨remote, accepted⟩ := looks
    obtain rfl := S3CompatibleStore.remoteKey_eq accepted
    have missing := not_not.mp empty
    simp only [objectAt, S3CompatibleStore.objectAt, accepted]
    exact congrArg Except.ok missing

/-- Where something is listed, it is seen. -/
theorem objectAt_some {key place : String} (looks : source.Looks platform place)
    (listed : insertKeys [] (source.listed platform world) = .ok keys)
    (lists : source.Lists platform world place) :
    ∃ object, source.objectAt platform world key place = .ok (some object) := by
  cases source with
  | localDirectory =>
    obtain ⟨bytes, there⟩ := lists
    simp only [objectAt, LocalTree.fileAt, linkOn_eq_none (linkless_of_listed listed), there]
    exact ⟨_, rfl⟩
  | s3 pathPrefix =>
    obtain ⟨remote, accepted⟩ := looks
    obtain rfl := S3CompatibleStore.remoteKey_eq accepted
    obtain ⟨object, there⟩ := Bucket.mem_keys.mp lists.1
    simp only [objectAt, S3CompatibleStore.objectAt, accepted]
    exact ⟨object, congrArg Except.ok there⟩

/-- Where something is, an object is seen or a collision. -/
theorem objectAt_holds {key place : String} (looks : source.Looks platform place)
    (listed : insertKeys [] (source.listed platform world) = .ok keys)
    (holds : source.Holds world place) :
    (∃ object, source.objectAt platform world key place = .ok (some object)) ∨
      source.objectAt platform world key place = .error .canonicalCollision := by
  cases source with
  | localDirectory =>
    have linkless := linkless_of_listed listed
    cases there : world.tree.nodes.get? place with
    | none => exact absurd there holds
    | some node =>
      simp only [objectAt, LocalTree.fileAt, linkOn_eq_none linkless, there]
      cases node with
      | file bytes => exact Or.inl ⟨_, rfl⟩
      -- A directory in the way is reported as a collision.
      | directory => exact Or.inr rfl
      | link leads => exact absurd there (linkless place leads)
  | s3 pathPrefix =>
    obtain ⟨remote, accepted⟩ := looks
    obtain rfl := S3CompatibleStore.remoteKey_eq accepted
    obtain ⟨object, there⟩ := Option.ne_none_iff_exists'.mp holds
    simp only [objectAt, S3CompatibleStore.objectAt, accepted]
    exact Or.inl ⟨object, congrArg Except.ok there⟩

/-- The keys of a listing are those that it maps places to. -/
theorem mem_keys_iff (listed : insertKeys [] (source.listed platform world) = .ok keys)
    {key : String} : key ∈ keys ↔ ∃ place, source.Maps platform world place key := by
  obtain ⟨readable, same, -⟩ := (insertKeys_eq_ok List.nodup_nil).mp listed
  rw [same, List.nil_append, mem_filled]
  cases source with
  | localDirectory =>
    simp only [RetainedSource.listed, List.mem_append, List.mem_map, Prod.exists] at readable ⊢
    constructor
    · rintro (foreign | ⟨path, node, there, item⟩)
      -- The error for a link yields no key, and nor does a node that is no file.
      · split at foreign
        · simp at foreign
        · cases foreign
      · cases node with
        | directory => cases item
        | link leads => cases item
        | file bytes =>
          simp only [LocalTree.listed, Store.map_eq_ok, Option.some.injEq, exists_eq_right] at item
          exact ⟨path, ⟨bytes, Bucket.get?_eq_some.mpr there⟩, item⟩
    · rintro ⟨path, ⟨bytes, there⟩, canonical⟩
      refine Or.inr ⟨path, .file bytes, Bucket.get?_eq_some.mp there, ?_⟩
      simp only [LocalTree.listed, canonical]
      rfl
  | s3 pathPrefix =>
    simp only [RetainedSource.listed, S3CompatibleStore.listed, List.mem_map, List.mem_filter]
    constructor
    · rintro ⟨name, ⟨stored, lists⟩, item⟩
      obtain ⟨place, rfl, canonical⟩ := S3CompatibleStore.canonicalFromRemote_eq_some.mp item
      exact ⟨place, ⟨stored, lists⟩, canonical⟩
    · rintro ⟨place, ⟨stored, lists⟩, canonical⟩
      exact ⟨_, ⟨stored, lists⟩,
        S3CompatibleStore.canonicalFromRemote_eq_some.mpr ⟨place, rfl, canonical⟩⟩

/-- A listing maps one place to a key. -/
theorem Maps.unique (listed : insertKeys [] (source.listed platform world) = .ok keys)
    {left right key : String} (leftMaps : source.Maps platform world left key)
    (rightMaps : source.Maps platform world right key) : left = right := by
  obtain ⟨-, same, distinct⟩ := (insertKeys_eq_ok List.nodup_nil).mp listed
  rw [same, List.nil_append] at distinct
  cases source with
  | localDirectory =>
    obtain ⟨⟨leftBytes, leftThere⟩, leftCanonical⟩ := leftMaps
    obtain ⟨⟨rightBytes, rightThere⟩, rightCanonical⟩ := rightMaps
    simp only [RetainedSource.listed, filled, List.filterMap_append, List.filterMap_map]
      at distinct
    -- The keys after the error for a link are those of the nodes.
    have entries := (List.nodup_append'.mp distinct).2.1
    have one := @eq_of_nodup_filterMap _ _ _ _ entries _ _ key
      (Bucket.get?_eq_some.mp leftThere) (Bucket.get?_eq_some.mp rightThere)
      (by simp [LocalTree.listed, leftCanonical, Except.map, Except.toOption])
      (by simp [LocalTree.listed, rightCanonical, Except.map, Except.toOption])
    exact (Prod.mk.inj one).1
  | s3 pathPrefix =>
    obtain ⟨⟨leftStored, leftLists⟩, leftCanonical⟩ := leftMaps
    obtain ⟨⟨rightStored, rightLists⟩, rightCanonical⟩ := rightMaps
    simp only [RetainedSource.listed, S3CompatibleStore.listed, filled, List.filterMap_map]
      at distinct
    have read : ∀ {place}, canonicalizePhysicalKey place .legacySource = .ok key →
        (S3CompatibleStore.mk pathPrefix .legacySource).canonicalFromRemote
          ((S3CompatibleStore.mk pathPrefix .legacySource).place place) = .ok (some key) :=
      fun canonical => S3CompatibleStore.canonicalFromRemote_eq_some.mpr ⟨_, rfl, canonical⟩
    -- Both names are read as the key, so they are one name.
    have one := @eq_of_nodup_filterMap _ _ _ _ distinct _ _ key
      (List.mem_filter.mpr ⟨leftStored, leftLists⟩) (List.mem_filter.mpr ⟨rightStored, rightLists⟩)
      (by simp [read leftCanonical, Except.toOption])
      (by simp [read rightCanonical, Except.toOption])
    exact (S3CompatibleStore.mk pathPrefix .legacySource).place_injective one

/-! ### Agreement -/

/-- Looking a key up agrees with a listing: it finds an object exactly when the key is listed, the
object is that of the one place that is mapped to the key, and there is no collision. -/
structure Agrees (platform : CutoverPlatform) (source : RetainedSource) (world : World)
    (keys : List String) (key : String) : Prop where
  found : (∃ object, ((source.store platform).get key).Reads world.calm (.ok (some object))) ↔
    key ∈ keys
  mapped : ∀ object, ((source.store platform).get key).Reads world.calm (.ok (some object)) →
    ∃ place, source.Maps platform world place key ∧
      source.objectAt platform world key place = .ok (some object) ∧
      ∀ other, source.Maps platform world other key → other = place
  distinct : ¬ ((source.store platform).get key).Reads world.calm (.error .canonicalCollision)

/-- Whether a name starts like that of a photo or of an email. -/
def named (place : String) : Bool :=
  (stripLeading "loan-workspace/" place).isSome || (stripLeading "emails/" place).isSome

/-- What is read of a valid key is the one object among its places. -/
theorem get_valid {key : String} (valid : legacyPhysicalKey key = .ok key) :
    ((source.store platform).get key).Reads world.calm
      (onlyOne ((physicalCandidates key .legacySource).map (source.objectAt platform world key))
        none) := by
  have calm := source.get_calm platform key world
  have checked : ObjectKeyLayout.legacySource.check key = .ok key := by
    rw [ObjectKeyLayout.check, valid]
    rfl
  rw [checked] at calm
  exact calm

/-- What a listing goes over has a key, since the listing succeeded. -/
theorem Lists.canonical (listed : insertKeys [] (source.listed platform world) = .ok keys)
    {place : String} (lists : source.Lists platform world place) :
    ∃ key, canonicalizePhysicalKey place .legacySource = .ok key := by
  obtain ⟨readable, -, -⟩ := (insertKeys_eq_ok List.nodup_nil).mp listed
  cases source with
  | localDirectory =>
    obtain ⟨bytes, there⟩ := lists
    obtain ⟨found, read⟩ := readable (LocalTree.listed place (.file bytes))
      (List.mem_append_right _
        (List.mem_map.mpr ⟨(place, .file bytes), Bucket.get?_eq_some.mp there, rfl⟩))
    obtain ⟨key, canonical, -⟩ := Store.map_eq_ok.mp read
    exact ⟨key, canonical⟩
  | s3 pathPrefix =>
    obtain ⟨found, read⟩ := readable _
      (List.mem_map.mpr ⟨_, List.mem_filter.mpr lists, rfl⟩)
    rw [S3CompatibleStore.canonicalFromRemote_place] at read
    obtain ⟨key, canonical, -⟩ := Store.map_eq_ok.mp read
    exact ⟨key, canonical⟩

/-- A listed key has a place where it is looked up and where its object is seen. -/
theorem listed_place (listed : insertKeys [] (source.listed platform world) = .ok keys)
    {key : String} (member : key ∈ keys)
    (looks : ∀ place ∈ physicalCandidates key .legacySource, source.Looks platform place) :
    ∃ place ∈ physicalCandidates key .legacySource, source.Maps platform world place key ∧
      ∃ object, source.objectAt platform world key place = .ok (some object) := by
  obtain ⟨place, maps⟩ := (mem_keys_iff listed).mp member
  have candidate := mem_physicalCandidates maps.2
  exact ⟨place, candidate, maps, objectAt_some (looks place candidate) listed maps.1⟩

/-- Where all places can be looked at, a lookup without a collision has a result. -/
theorem get_of_looks (listed : insertKeys [] (source.listed platform world) = .ok keys)
    {key : String} (valid : legacyPhysicalKey key = .ok key)
    (looks : ∀ place ∈ physicalCandidates key .legacySource, source.Looks platform place)
    (distinct : ¬ ((source.store platform).get key).Reads world.calm
      (.error .canonicalCollision)) :
    ∃ found, ((source.store platform).get key).Reads world.calm (.ok found) := by
  have result := @get_valid platform source world key valid
  have seen : ∀ item ∈ (physicalCandidates key .legacySource).map
      (source.objectAt platform world key), (∃ object, item = .ok object) ∨
        item = .error .canonicalCollision := by
    intro item member
    obtain ⟨place, candidate, rfl⟩ := List.mem_map.mp member
    by_cases full : source.Holds world place
    · rcases objectAt_holds (looks place candidate) listed full with ⟨object, found⟩ | collided
      · exact Or.inl ⟨_, found⟩
      · exact Or.inr collided
    · exact Or.inl ⟨none, objectAt_none (looks place candidate) listed full⟩
  rcases onlyOne_ok_or_collides seen none with ⟨found, one⟩ | collided
  · exact ⟨found, one ▸ result⟩
  · exact absurd (collided ▸ result) distinct

/-- Where lookup and listing agree, whatever is at a place of the key is listed as the key. -/
theorem Agrees.maps {key place : String} (agrees : Agrees platform source world keys key)
    (listed : insertKeys [] (source.listed platform world) = .ok keys)
    (valid : legacyPhysicalKey key = .ok key)
    (looks : ∀ place ∈ physicalCandidates key .legacySource, source.Looks platform place)
    (candidate : place ∈ physicalCandidates key .legacySource)
    (holds : source.Holds world place) : source.Maps platform world place key := by
  obtain ⟨found, one⟩ := get_of_looks listed valid looks agrees.distinct
  obtain ⟨-, looked, -⟩ := (source.get_reads_ok platform).mp one
  obtain ⟨object, seen⟩ := looked place candidate
  rcases @objectAt_holds platform source world keys key place (looks place candidate) listed holds
    with ⟨stored, there⟩ | collided
  · have located : place ∈ source.locate world key :=
      List.mem_filter.mpr ⟨candidate, (source.objectAt_isSome platform there).symm⟩
    cases found with
    | none =>
      -- A key that is not found has no occupied place.
      rw [List.eq_nil_of_length_eq_zero (source.locate_length platform one)] at located
      cases located
    | some read =>
      -- The key is listed for the one place that has an object.
      obtain ⟨mapped, maps, mappedSeen, -⟩ := agrees.mapped read one
      have mappedLocated : mapped ∈ source.locate world key :=
        List.mem_filter.mpr ⟨mem_physicalCandidates maps.2,
          (source.objectAt_isSome platform mappedSeen).symm⟩
      rwa [source.locate_unique platform one located mappedLocated]
  · rw [collided] at seen
    cases seen

end RetainedSource

/-! ### A photo, and a file with the name of no photo -/

end FinStream.Cutover
