import FinStream.Cutover.Inventory

/-! Which object of the source a reference gets. -/

namespace FinStream.Cutover

open Store Effect

variable (platform : CutoverPlatform)

namespace RetainedSource

variable (source : RetainedSource)

/-- Whether a retained source has an object at a place. -/
def occupied (world : World) (place : String) : Bool :=
  match source with
  | .localDirectory => (world.tree.fileAt place).toOption.join.isSome
  | .s3 pathPrefix =>
    (world.bucket.get? ((S3CompatibleStore.mk pathPrefix .legacySource).place place)).isSome

/-- The places where a key has an object. -/
def locate (world : World) (key : String) : List String :=
  (physicalCandidates key .legacySource).filter (source.occupied world)

/-- Where an object is seen, the place is occupied. -/
theorem objectAt_isSome {world : World} {key place : String} {object : Option StoredObject}
    (seen : source.objectAt platform world key place = .ok object) :
    object.isSome = source.occupied world place := by
  cases source with
  | localDirectory =>
    simp only [objectAt, Store.map_eq_ok] at seen
    obtain ⟨bytes, found, rfl⟩ := seen
    simp only [occupied, found]
    cases bytes <;> rfl
  | s3 pathPrefix =>
    simp only [objectAt, S3CompatibleStore.objectAt, Store.map_eq_ok] at seen
    obtain ⟨remote, accepted, rfl⟩ := seen
    rw [S3CompatibleStore.remoteKey_eq accepted]
    rfl

/-- Among places that can be looked at, the occupied ones are those where an object is seen. -/
theorem filter_length {places : List String}
    {seen : String → Except StoreError (Option StoredObject)} {occupied : String → Bool}
    (looked : ∀ place ∈ places, ∃ object, seen place = .ok object ∧ object.isSome = occupied place) :
    (places.filter occupied).length = (filled (places.map seen)).length := by
  induction places with
  | nil => rfl
  | cons place rest ih =>
    obtain ⟨object, found, same⟩ := looked place List.mem_cons_self
    have others := ih fun other member => looked other (List.mem_cons_of_mem _ member)
    rw [List.filter_cons, ← same, List.map_cons, found]
    cases object with
    | none => simpa using others
    | some object => simpa using others

/-- In a calm world a key is read when all its places can be looked at and one has its object. -/
theorem get_reads_ok {world : World} {key : String} {found : Option StoredObject} :
    ((source.store platform).get key).Reads world.calm (.ok found) ↔
      (∃ checked, ObjectKeyLayout.legacySource.check key = .ok checked) ∧
      (∀ place ∈ physicalCandidates key .legacySource, ∃ object,
        source.objectAt platform world key place = .ok object) ∧
      filled ((physicalCandidates key .legacySource).map (source.objectAt platform world key)) =
        found.toList := by
  -- In a calm world a read has one result, which only depends on what is found.
  have calm := source.get_calm platform key world
  constructor
  · intro read
    have result := calm.unique read
    simp only [Store.bind_eq_ok, onlyOne_eq_ok] at result
    obtain ⟨checked, accepted, looked, one⟩ := result
    refine ⟨⟨checked, accepted⟩, fun place member => ?_, one⟩
    exact looked _ (List.mem_map_of_mem member)
  · rintro ⟨⟨checked, accepted⟩, looked, one⟩
    have result : (ObjectKeyLayout.legacySource.check key >>= fun _ =>
        onlyOne ((physicalCandidates key .legacySource).map (source.objectAt platform world key))
          none) = .ok found := by
      simp only [Store.bind_eq_ok, onlyOne_eq_ok]
      refine ⟨checked, accepted, fun place member => ?_, one⟩
      obtain ⟨candidate, there, rfl⟩ := List.mem_map.mp member
      exact looked candidate there
    rwa [result] at calm

/-- A key is found exactly when it has one place with an object. -/
theorem locate_length {world : World} {key : String} {found : Option StoredObject}
    (read : ((source.store platform).get key).Reads world.calm (.ok found)) :
    (source.locate world key).length = found.toList.length := by
  obtain ⟨-, looked, one⟩ := (source.get_reads_ok platform).mp read
  rw [← one]
  refine filter_length fun place member => ?_
  obtain ⟨object, seen⟩ := looked place member
  exact ⟨object, seen, source.objectAt_isSome platform seen⟩

/-- A key has at most one place with an object. -/
theorem locate_unique {world : World} {key left right : String} {found : Option StoredObject}
    (read : ((source.store platform).get key).Reads world.calm (.ok found))
    (leftThere : left ∈ source.locate world key) (rightThere : right ∈ source.locate world key) :
    left = right := by
  have short : (source.locate world key).length ≤ 1 := by
    rw [source.locate_length platform read]
    cases found <;> simp
  match located : source.locate world key with
  | [] =>
    rw [located] at leftThere
    cases leftThere
  | [place] =>
    rw [located, List.mem_singleton] at leftThere rightThere
    rw [leftThere, rightThere]
  | _ :: _ :: _ =>
    rw [located] at short
    simp at short

/-- No link lies on any path of a directory without links. -/
theorem linkOn_eq_none {tree : LocalTree}
    (linkless : ∀ path leads, tree.nodes.get? path ≠ some (.link leads))
    (before after : List String) : tree.linkOn before after = none := by
  induction after generalizing before with
  | nil => rfl
  | cons segment after ih =>
    unfold LocalTree.linkOn
    split
    · rename_i leads there
      exact absurd there (linkless _ leads)
    · exact ih _

/-- A listed key has an object at a place that the key is listed for. -/
theorem listed_occupied {world : World} {keys : List String} {key : String}
    (listed : insertKeys [] (source.listed platform world) = .ok keys) (member : key ∈ keys) :
    ∃ place, canonicalizePhysicalKey place .legacySource = .ok key ∧
      source.occupied world place = true := by
  obtain ⟨readable, same, -⟩ := (insertKeys_eq_ok List.nodup_nil).mp listed
  rw [same, List.nil_append, mem_filled] at member
  cases source with
  | localDirectory =>
    simp only [RetainedSource.listed, List.mem_append, List.mem_map, Prod.exists] at member readable
    -- A link would have been refused by the walk.
    have linkless : ∀ path leads, world.tree.nodes.get? path ≠ some (.link leads) := by
      intro path leads there
      obtain ⟨value, impossible⟩ := readable (.error .invalidKey)
        (Or.inr ⟨path, _, Bucket.get?_eq_some.mp there, rfl⟩)
      cases impossible
    rcases member with foreign | ⟨path, node, there, listed⟩
    · split at foreign
      · simp at foreign
      · cases foreign
    · cases node with
      | directory => cases listed
      | link leads => cases listed
      | file bytes =>
        simp only [LocalTree.listed, Store.map_eq_ok, Option.some.injEq, exists_eq_right] at listed
        refine ⟨path, listed, ?_⟩
        simp only [occupied, LocalTree.fileAt, linkOn_eq_none linkless,
          Bucket.get?_eq_some.mpr there]
        rfl
  | s3 pathPrefix =>
    simp only [RetainedSource.listed, S3CompatibleStore.listed, List.mem_map, List.mem_filter]
      at member
    obtain ⟨name, ⟨stored, -⟩, listed⟩ := member
    obtain ⟨object, there⟩ := Bucket.mem_keys.mp stored
    obtain ⟨place, rfl, canonical⟩ := S3CompatibleStore.canonicalFromRemote_eq_some.mp listed
    exact ⟨place, canonical, by simp [occupied, there]⟩

/-- A key is looked up where it is, and where the older application left out its first part. -/
theorem mem_legacyCandidates {place key : String} :
    place ∈ physicalCandidates key .legacySource ↔
      place = key ∨ (key = "loan-workspace/" ++ place ∧ place ≠ "") := by
  simp only [physicalCandidates]
  split
  · -- The key lies in the namespace of photos, so its rest is tried as well.
    rename_i legacy found
    have whole := stripLeading_eq_some.mp found
    split
    · rename_i empty
      rw [List.mem_singleton]
      constructor
      · exact Or.inl
      · rintro (same | ⟨other, nonempty⟩)
        · exact same
        · have := stripLeading_eq_some.mpr other
          rw [found, empty] at this
          exact absurd (Option.some.inj this).symm nonempty
    · rename_i nonempty
      rw [List.mem_cons, List.mem_singleton]
      constructor
      · rintro (same | same)
        · exact Or.inl same
        · exact Or.inr (by rw [same]; exact ⟨whole, nonempty⟩)
      · rintro (same | ⟨other, -⟩)
        · exact Or.inl same
        · have := stripLeading_eq_some.mpr other
          rw [found] at this
          exact Or.inr (Option.some.inj this).symm
  · -- Any other key is tried as it is.
    rename_i missing
    rw [List.mem_singleton]
    constructor
    · exact Or.inl
    · rintro (same | ⟨other, -⟩)
      · exact same
      · have := stripLeading_eq_some.mpr other
        rw [missing] at this
        cases this

/-- A listed key starts like that of a photo or of an email. -/
theorem listed_named {physical key : String}
    (canonical : canonicalizePhysicalKey physical .legacySource = .ok key) :
    (stripLeading "loan-workspace/" key).isSome ∨ (stripLeading "emails/" key).isSome := by
  cases canonicalizePhysicalKey_cases canonical with
  | inl same => exact same.2.resolve_left (by decide)
  | inr shortened =>
    rw [stripLeading_eq_some.mpr shortened.2.1]
    exact Or.inl rfl

/-- The place of a listed key is not where the older application put another one. -/
theorem occupied_shortened {world : World} {keys : List String} {key : String}
    {found : Option StoredObject} (listed : insertKeys [] (source.listed platform world) = .ok keys)
    (member : key ∈ keys) (longer : "loan-workspace/" ++ key ∈ keys)
    (read : ((source.store platform).get ("loan-workspace/" ++ key)).Reads world.calm (.ok found)) :
    source.occupied world key = false := by
  by_contra full
  rw [Bool.not_eq_false] at full
  obtain ⟨physical, canonical, -⟩ := source.listed_occupied platform listed member
  have named := listed_named canonical
  obtain ⟨place, longCanonical, there⟩ := source.listed_occupied platform listed longer
  cases canonicalizePhysicalKey_cases longCanonical with
  | inr shortened =>
    -- The object at the place of the key would be listed for the key itself.
    obtain ⟨-, same, -, photo, email⟩ := shortened
    have places := (stripLeading_eq_some.mpr same).symm.trans (stripLeading_eq_some.mpr rfl)
    cases places
    simp [photo, email] at named
  | inl same =>
    -- Both places of the longer key would have an object.
    rw [← same.1] at there
    have nonempty : key ≠ "" := by
      rintro rfl
      revert named
      decide
    have long : "loan-workspace/" ++ key ∈ source.locate world ("loan-workspace/" ++ key) :=
      List.mem_filter.mpr ⟨mem_legacyCandidates.mpr (Or.inl rfl), there⟩
    have short : key ∈ source.locate world ("loan-workspace/" ++ key) :=
      List.mem_filter.mpr ⟨mem_legacyCandidates.mpr (Or.inr ⟨rfl, nonempty⟩), full⟩
    have one := congrArg String.length (source.locate_unique platform read long short)
    simp at one

/-- Two listed keys that are found have no place in common. -/
theorem locate_injective {world : World} {keys : List String} {left right place : String}
    {leftFound rightFound : Option StoredObject}
    (listed : insertKeys [] (source.listed platform world) = .ok keys)
    (leftListed : left ∈ keys) (rightListed : right ∈ keys)
    (leftRead : ((source.store platform).get left).Reads world.calm (.ok leftFound))
    (rightRead : ((source.store platform).get right).Reads world.calm (.ok rightFound))
    (leftThere : place ∈ source.locate world left) (rightThere : place ∈ source.locate world right) :
    left = right := by
  obtain ⟨leftPlace, leftFull⟩ := List.mem_filter.mp leftThere
  obtain ⟨rightPlace, rightFull⟩ := List.mem_filter.mp rightThere
  rcases mem_legacyCandidates.mp leftPlace with leftSelf | ⟨leftLong, -⟩
  · rcases mem_legacyCandidates.mp rightPlace with rightSelf | ⟨rightLong, -⟩
    · exact leftSelf.symm.trans rightSelf
    · subst leftSelf rightLong
      rw [source.occupied_shortened platform listed leftListed rightListed rightRead] at leftFull
      cases leftFull
  · rcases mem_legacyCandidates.mp rightPlace with rightSelf | ⟨rightLong, -⟩
    · subst rightSelf leftLong
      rw [source.occupied_shortened platform listed rightListed leftListed leftRead] at rightFull
      cases rightFull
    · exact leftLong.trans rightLong.symm

/-- A listed key that can be read has an object. -/
theorem listed_found {world : World} {keys : List String} {key : String}
    {found : Option StoredObject} (listed : insertKeys [] (source.listed platform world) = .ok keys)
    (member : key ∈ keys)
    (read : ((source.store platform).get key).Reads world.calm (.ok found)) :
    ∃ object, found = some object ∧ source.locate world key ≠ [] := by
  obtain ⟨place, canonical, full⟩ := source.listed_occupied platform listed member
  have there : place ∈ source.locate world key :=
    List.mem_filter.mpr ⟨mem_physicalCandidates canonical, full⟩
  have nonempty := List.ne_nil_of_mem there
  cases found with
  | some object => exact ⟨object, rfl, nonempty⟩
  | none =>
    have none_ := source.locate_length platform read
    exact absurd (List.length_eq_zero_iff.mp none_) nonempty

/-- The source lists what the database needs, and every reference finds its object. -/
structure Checked (world : World) (database : DatabaseInventory) : Prop where
  listed : ∃ keys, insertKeys [] (source.listed platform world) = .ok keys ∧ database.Covered keys
  found : ∀ key ∈ database.sourceKeys, ∃ object,
    ((source.store platform).get key).Reads world.calm (.ok (some object))

variable {platform source}

/-- After a valid inventory the source is checked. -/
theorem inventory_checked {database : DatabaseInventory} {mode : RunMode} {before after : World}
    {manifest : ObjectManifest}
    (ran : inventory platform database (source.store platform) mode before = (.ok manifest, after))
    (valid : manifest.valid = true) : source.Checked platform before database := by
  have steady := source.steady platform
  obtain ⟨listed, references, list, looked, rfl⟩ :=
    steady.inventory_reads.mp ((steady.inventory database mode).reads ran).2
  have covered := manifest_valid.mp valid
  have keys := (source.listKeys_calm platform before).unique list
  refine ⟨⟨listed, keys, covered⟩, fun key member => ?_⟩
  obtain ⟨reference, there, comes⟩ := List.mem_filterMap.mp member
  obtain ⟨result, -, inspected⟩ := forall₂_mem_left looked there
  cases inspected with
  | unseen keyless =>
    -- A reference that comes from somewhere also belongs somewhere.
    have paired := database.paired reference there
    rw [keyless, comes] at paired
    cases paired
  | seen belongs same read =>
    cases comes.symm.trans same
    obtain ⟨object, rfl, -⟩ := source.listed_found platform keys (covered.there _ member) read
    exact ⟨object, read⟩

/-- Every stored reference has an object that no other one has. -/
def OwnObjects (source : RetainedSource) (world : World) (database : DatabaseInventory) : Prop :=
  (database.sourceKeys.map (source.locate world)).Pairwise List.Disjoint

/-- In a checked source, references have objects of their own exactly when their keys differ. -/
theorem Checked.ownObjects {world : World} {database : DatabaseInventory}
    (checked : source.Checked platform world database) :
    source.OwnObjects world database ↔ database.sourceKeys.Nodup := by
  obtain ⟨⟨keys, listed, covered⟩, found⟩ := checked
  rw [OwnObjects, List.pairwise_map]
  constructor
  · intro apart
    refine apart.imp_of_mem fun {left right} leftThere rightThere disjoint same => ?_
    obtain ⟨object, read⟩ := found left leftThere
    obtain ⟨-, -, nonempty⟩ := source.listed_found platform listed (covered.there _ leftThere) read
    obtain ⟨place, there⟩ := List.exists_mem_of_ne_nil _ nonempty
    exact disjoint there (same ▸ there)
  · intro distinct
    refine distinct.imp_of_mem fun {left right} leftThere rightThere different place => ?_
    intro leftPlace rightPlace
    obtain ⟨leftObject, leftRead⟩ := found left leftThere
    obtain ⟨rightObject, rightRead⟩ := found right rightThere
    exact different (source.locate_injective platform listed (covered.there _ leftThere)
      (covered.there _ rightThere) leftRead rightRead leftPlace rightPlace)

/-- Keys that could be read differ when the rebuilt ones differ from each other and the rest. -/
theorem sourceKeys_nodup {parseUrl : String → Option Url} {artifact : Artifact}
    {keys : List String} (covered : (readDatabase parseUrl artifact).Covered keys) :
    (readDatabase parseUrl artifact).sourceKeys.Nodup ↔ artifact.attachmentKeys.Nodup ∧
      (artifact.sharedKeys parseUrl).Disjoint artifact.attachmentKeys := by
  -- Photos and bodies keep their keys, which are distinct.
  have shared : (artifact.sharedKeys parseUrl).Nodup :=
    covered.distinct.sublist (readDatabase_sharedKeys covered.unblocked).sublist
  rw [DatabaseInventory.sourceKeys, readDatabase_sourceKeys covered.unblocked,
    List.nodup_append']
  constructor
  · rintro ⟨-, rebuilt, apart⟩
    exact ⟨rebuilt, apart⟩
  · rintro ⟨rebuilt, apart⟩
    exact ⟨shared, rebuilt, apart⟩

/-- After a valid inventory or transfer the source is checked. -/
theorem valid_checked {database : DatabaseInventory} {mode : RunMode} {before after : World}
    {manifest : ObjectManifest}
    (ran : inventory platform database (source.store platform) mode before =
        (.ok manifest, after) ∨
      ∃ destination, transfer platform database source destination mode before =
        (.ok manifest, after)) (valid : manifest.valid = true) :
    source.Checked platform before database := by
  rcases ran with inventoried | ⟨destination, transferred⟩
  · exact inventory_checked inventoried valid
  · obtain ⟨found, middle, -, -, -, inventoried, passed, -⟩ := transfer_eq_ok transferred valid
    exact inventory_checked inventoried passed

/--
After a valid manifest every stored reference has an object of its own exactly when no attachment
has the rebuilt key of another one, of a body, or of a photo.
-/
theorem valid_ownObjects {artifact : Artifact} {mode : RunMode} {before after : World}
    {manifest : ObjectManifest}
    (ran : inventory platform (readDatabase platform.parseUrl artifact) (source.store platform)
        mode before = (.ok manifest, after) ∨
      ∃ destination, transfer platform (readDatabase platform.parseUrl artifact) source
        destination mode before = (.ok manifest, after)) (valid : manifest.valid = true) :
    source.OwnObjects before (readDatabase platform.parseUrl artifact) ↔
      artifact.attachmentKeys.Nodup ∧
        (artifact.sharedKeys platform.parseUrl).Disjoint artifact.attachmentKeys := by
  have checked := valid_checked ran valid
  obtain ⟨keys, -, covered⟩ := checked.listed
  exact checked.ownObjects.trans (sourceKeys_nodup covered)

end RetainedSource

/-- A run ended with a valid manifest. -/
def endedValid (ran : Except CutoverError ObjectManifest × World) : Bool :=
  ran.1.toOption.any ObjectManifest.valid

/-- A run that ended with a valid manifest has one. -/
theorem endedValid_iff {ran : Except CutoverError ObjectManifest × World} :
    endedValid ran = true ↔
      ∃ manifest after, ran = (.ok manifest, after) ∧ manifest.valid = true := by
  rcases ran with ⟨outcome, after⟩
  cases outcome with
  | error error => simp [endedValid, Except.toOption]
  | ok manifest => simp [endedValid, Except.toOption]

/-! ### Two invoices of one email -/

/-- The libraries on the texts and the bytes of these examples. -/
def examplePlatform : CutoverPlatform where
  sha256 bytes :=
    if bytes = [0] then "6e340b9cffb37a989ca544e6bb780a2c78901d3fb33738768511a30617afa01d"
    else if bytes = [1] then "4bf5122f344554c53bde2ebb8cd2b7e3d1600ad631c385a5d7cce23c7785459a"
    else if bytes = [2] then "dbc1b4c900ffe48d575b5da5c638040125f65db0fe3e24494b76ea986457d986"
    else toString bytes
  mimeGuess _ := none
  parseUrl _ := none
  pathFrom text := String.ofList (text.toList.flatMap fun character =>
    if character = '#' then "%23".toList else [character])
  pathParses _ := true
  reportedType contentType := contentType

/-- A directory without files. -/
def emptyTree : LocalTree := ⟨Bucket.empty, by simp [Bucket.empty, Bucket.keys], false⟩

/-- An email with attachments that have given names and keys. -/
def attachedArtifact (first second : String) : Artifact where
  photos := []
  emails := [⟨1, "e", none, none⟩]
  attachments := [⟨1, 1, first, some "emails/e/attachments/a1", "application/pdf"⟩,
    ⟨2, 1, second, some "emails/e/attachments/a2", "application/pdf"⟩]
  photosOrdered := by simp
  emailsOrdered := by simp
  attachmentsOrdered := by simp

/-- A retained prefix that holds files of that email. -/
def attachedWorld (names : List String) : World where
  tree := emptyTree
  bucket := (names.zipIdx).foldl (fun bucket (name, index) =>
    bucket.create ("old/emails/e/attachments/" ++ name)
      ⟨[UInt8.ofNat index], some "application/pdf"⟩) Bucket.empty
  weather := []

/-- Two invoices of one email with one name: both references get the one object that is there. -/
theorem attachedWorld_shared :
    let database :=
      readDatabase examplePlatform.parseUrl (attachedArtifact "invoice.pdf" "invoice.pdf")
    let world := attachedWorld ["invoice.pdf"]
    (∃ manifest after, promoteS3ToS3 examplePlatform "old" "new" database world =
        (.ok manifest, after) ∧ manifest.valid = true ∧
      manifest.references.map ObjectReference.sha256 =
        [some (examplePlatform.sha256 [0]), some (examplePlatform.sha256 [0])]) ∧
      ¬(RetainedSource.s3 "old").OwnObjects world database := by
  refine ⟨⟨_, _, rfl, ?_, ?_⟩, ?_⟩
  · decide +kernel
  · decide +kernel
  · intro own
    have disjoint := List.pairwise_iff_getElem.mp own 0 1 (by decide +kernel) (by decide +kernel)
      (by decide)
    exact @disjoint "emails/e/attachments/invoice.pdf" (by decide +kernel) (by decide +kernel)

/-- Two invoices with different names have objects of their own. -/
theorem attachedWorld_own :
    (RetainedSource.s3 "old").OwnObjects (attachedWorld ["march.pdf", "april.pdf"])
      (readDatabase examplePlatform.parseUrl (attachedArtifact "march.pdf" "april.pdf")) := by
  have ended : endedValid (inventory examplePlatform
      (readDatabase examplePlatform.parseUrl (attachedArtifact "march.pdf" "april.pdf"))
      ((RetainedSource.s3 "old").store examplePlatform) .inventoryS3
      (attachedWorld ["march.pdf", "april.pdf"])) = true := by decide +kernel
  obtain ⟨manifest, after, ran, valid⟩ := endedValid_iff.mp ended
  refine (RetainedSource.valid_ownObjects (Or.inl ran) valid).mpr ⟨by decide +kernel, ?_⟩
  have none_shared : (attachedArtifact "march.pdf" "april.pdf").sharedKeys
      examplePlatform.parseUrl = [] := rfl
  rw [none_shared]
  exact List.disjoint_nil_left _

end FinStream.Cutover
