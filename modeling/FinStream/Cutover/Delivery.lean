import FinStream.Cutover.SourceObjects

/-! What a transfer creates in the destination, wherever it stops. -/

namespace FinStream.Cutover

open Store Effect

/-! ### Computations that create what they are to create, in order -/

section Sends

variable {ε α β : Type}

/-- A value that a computation can give out once a world has grown. -/
def Yields (before : World) (effect : Effect World ε α) (value : α) : Prop :=
  ∃ world, before.Grows world ∧ (effect world).1 = .ok value

/-- A computation creates the first of some objects, and all of them where it succeeds. -/
def Sends (before : World) (objects : List (String × StoredObject)) (effect : Effect World ε α) :
    Prop :=
  ∀ world, before.Grows world → (effect world).2.tree = world.tree ∧
    ∃ sent, sent <+: objects ∧ (effect world).2.bucket = world.bucket.createAll sent ∧
      ∀ value, (effect world).1 = .ok value → sent = objects

variable {before : World}

/-- A decision yields its result. -/
theorem Yields.decided {result : Except ε α} {value : α}
    (yields : Yields before (Effect.decided result : Effect World ε α) value) :
    result = .ok value := by
  obtain ⟨world, -, same⟩ := yields
  exact same

/-- Renaming errors changes nothing that is yielded. -/
theorem Yields.mapError {ε' : Type} {effect : Effect World ε α} {rename : ε → ε'} {value : α}
    (yields : Yields before (effect.mapError rename) value) : Yields before effect value := by
  obtain ⟨world, grown, same⟩ := yields
  exact ⟨world, grown, Store.mapError_eq_ok.mp same⟩

/-- Creates are growth. -/
theorem World.grows_createAll {world after : World} {sent : List (String × StoredObject)}
    (tree : after.tree = world.tree) (bucket : after.bucket = world.bucket.createAll sent) :
    world.Grows after := ⟨tree, bucket ▸ Bucket.createAll_prefix _ _⟩

/-- What sends leaves a world that has grown. -/
theorem Sends.grows {objects : List (String × StoredObject)} {effect : Effect World ε α}
    (sends : Sends before objects effect) {world : World} (grown : before.Grows world) :
    before.Grows (effect world).2 := by
  obtain ⟨tree, sent, -, bucket, -⟩ := sends world grown
  exact IsTrans.trans _ _ _ grown (World.grows_createAll tree bucket)

/-- A steady computation sends nothing. -/
theorem Steady.sends {effect : Effect World ε α} (steady : Steady effect) :
    Sends before [] effect := by
  intro world grown
  have still := steady.still world
  exact ⟨still.tree, [], List.prefix_rfl, still.bucket, fun _ _ => rfl⟩

/-- Computations in order send in order. -/
theorem Sends.bind {first : Effect World ε α} {rest : α → Effect World ε β}
    {firstObjects restObjects : List (String × StoredObject)}
    (firstSends : Sends before firstObjects first)
    (restSends : ∀ value, Yields before first value → Sends before restObjects (rest value)) :
    Sends before (firstObjects ++ restObjects) (first >>= rest) := by
  intro world grown
  have sends := firstSends world grown
  have later := firstSends.grows grown
  rcases ran : first world with ⟨outcome, middle⟩
  rw [ran] at sends later
  obtain ⟨tree, sent, started, bucket, whole⟩ := sends
  cases outcome with
  | error error =>
    -- The first computation has stopped, and so has the whole.
    rw [bind_apply_error ran]
    exact ⟨tree, sent, started.trans (List.prefix_append _ _), bucket,
      fun value impossible => nomatch impossible⟩
  | ok value =>
    -- The first computation has sent everything, and the second one goes on.
    rw [bind_apply_ok ran]
    have all : sent = firstObjects := whole value rfl
    subst all
    obtain ⟨restTree, restSent, restStarted, restBucket, restWhole⟩ :=
      restSends value ⟨world, grown, by rw [ran]⟩ middle later
    refine ⟨restTree.trans tree, sent ++ restSent, List.prefix_append_right_inj sent |>.mpr
      restStarted, ?_, fun result succeeded => by rw [restWhole result succeeded]⟩
    rw [restBucket, bucket, Bucket.createAll_append]

/-- After a steady computation only the second one sends. -/
theorem Sends.after {first : Effect World ε α} {rest : α → Effect World ε β}
    {objects : List (String × StoredObject)} (steady : Steady first)
    (restSends : ∀ value, Yields before first value → Sends before objects (rest value)) :
    Sends before objects (first >>= rest) := by
  have sends : Sends before ([] ++ objects) (first >>= rest) := steady.sends.bind restSends
  rwa [List.nil_append] at sends

/-- Before a steady computation only the first one sends. -/
theorem Sends.thenSteady {first : Effect World ε α} {rest : α → Effect World ε β}
    {objects : List (String × StoredObject)} (sends : Sends before objects first)
    (steady : ∀ value, Steady (rest value)) : Sends before objects (first >>= rest) := by
  have together := sends.bind fun value _ => (steady value).sends
  rwa [List.append_nil] at together

/-- Renaming errors keeps what is sent. -/
theorem Sends.mapError {ε' : Type} {objects : List (String × StoredObject)}
    {effect : Effect World ε α} (sends : Sends before objects effect) (rename : ε → ε') :
    Sends before objects (effect.mapError rename) := by
  intro world grown
  obtain ⟨tree, sent, started, bucket, whole⟩ := sends world grown
  exact ⟨tree, sent, started, bucket,
    fun value succeeded => whole value (Store.mapError_eq_ok.mp succeeded)⟩

/-- A loop sends what its steps send, in order. -/
theorem Sends.mapM {γ : Type} {step : γ → Effect World ε α}
    {objects : γ → List (String × StoredObject)} {items : List γ}
    (sends : ∀ item ∈ items, Sends before (objects item) (step item)) :
    Sends before (items.flatMap objects) (items.mapM step) := by
  induction items with
  | nil =>
    rw [List.mapM_nil]
    exact (Steady.pure _).sends
  | cons item rest ih =>
    rw [List.mapM_cons, List.flatMap_cons]
    refine (sends item List.mem_cons_self).bind fun value _ => ?_
    exact (ih fun other member => sends other (List.mem_cons_of_mem _ member)).thenSteady
      fun values => Steady.pure _

end Sends

/-! ### What is found in a source while the bucket grows -/

section Found

variable {platform : CutoverPlatform} {source : RetainedSource}

/-- What is seen at a place of a source is seen there once the bucket has grown. -/
theorem RetainedSource.objectAt_grown {before after : World} (grown : before.Grows after)
    {key place : String} {object : StoredObject}
    (seen : source.objectAt platform before key place = .ok (some object)) :
    source.objectAt platform after key place = .ok (some object) := by
  cases source with
  | localDirectory =>
    simp only [objectAt, grown.tree]
    exact seen
  | s3 pathPrefix =>
    simp only [objectAt, S3CompatibleStore.objectAt, Store.map_eq_ok] at seen ⊢
    obtain ⟨remote, accepted, found⟩ := seen
    exact ⟨remote, accepted, grown.get? found⟩

/-- Whatever is found under the key of a found object later is that object. -/
theorem RetainedSource.get_grown {before after : World} (grown : before.Grows after)
    {key : String} {object : StoredObject} {found : Option StoredObject}
    (first : ((source.store platform).get key).Reads before.calm (.ok (some object)))
    (second : ((source.store platform).get key).Reads after.calm (.ok found)) :
    found = some object := by
  obtain ⟨-, -, one⟩ := (source.get_reads_ok platform).mp first
  obtain ⟨-, -, other⟩ := (source.get_reads_ok platform).mp second
  have there : object ∈ filled ((physicalCandidates key .legacySource).map
      (source.objectAt platform before key)) := by
    rw [one]
    exact List.mem_singleton_self object
  obtain ⟨place, candidate, seen⟩ := List.mem_map.mp (mem_filled.mp there)
  -- The object is still at its place, so it is the one that is found.
  have still : object ∈ filled ((physicalCandidates key .legacySource).map
      (source.objectAt platform after key)) :=
    mem_filled.mpr (List.mem_map.mpr ⟨place, candidate, source.objectAt_grown grown seen⟩)
  rw [other] at still
  exact Option.mem_toList.mp still

/-- What a source yields under the key of a found object is that object. -/
theorem RetainedSource.get_yields {before : World} {key : String} {object : StoredObject}
    {found : Option StoredObject}
    (first : ((source.store platform).get key).Reads before.calm (.ok (some object)))
    (yields : Yields before ((source.store platform).get key) found) : found = some object := by
  obtain ⟨world, grown, succeeded⟩ := yields
  exact RetainedSource.get_grown grown first ((source.get_steady platform key world).2 _ succeeded)

end Found

/-! ### Canonical destinations -/

section Destination

variable {platform : CutoverPlatform} {pathPrefix : String}

/-- In a calm world a canonical key is read at its place. -/
theorem canonicalDestination_get {key : String} {found : Option StoredObject} {world : World} :
    (((canonicalDestination pathPrefix).store platform).get key).Reads world.calm (.ok found) ↔
      (∃ remote, (canonicalDestination pathPrefix).remoteKey platform key = .ok remote) ∧
        found = world.bucket.get? ((canonicalDestination pathPrefix).place key) := by
  have calm := (canonicalDestination pathPrefix).get_calm platform key world
  have reads : (((canonicalDestination pathPrefix).store platform).get key).Reads world.calm
      (.ok found) ↔ ((canonicalDestination pathPrefix).layout.check key >>= fun _ =>
        onlyOne ((physicalCandidates key .canonical).map
          ((canonicalDestination pathPrefix).objectAt platform world)) none) = .ok found :=
    ⟨fun read => calm.unique read, fun same => by rwa [← same]⟩
  have single : ∀ place : Except StoreError (Option StoredObject), onlyOne [place] none = place := by
    intro place
    match place with
    | .error error => rfl
    | .ok none => rfl
    | .ok (some object) => rfl
  rw [reads, physicalCandidates, List.map_cons, List.map_nil, single]
  simp only [Store.bind_eq_ok, S3CompatibleStore.objectAt, Store.map_eq_ok]
  constructor
  · rintro ⟨-, -, remote, accepted, same⟩
    rw [S3CompatibleStore.remoteKey_eq accepted] at same accepted
    exact ⟨⟨_, accepted⟩, same.symm⟩
  · rintro ⟨⟨remote, accepted⟩, rfl⟩
    -- A name is made only of keys that pass the check.
    have checked := accepted
    simp only [S3CompatibleStore.remoteKey, Store.bind_eq_ok] at checked
    obtain ⟨key', passed, -⟩ := checked
    rw [S3CompatibleStore.remoteKey_eq accepted] at accepted
    exact ⟨key', passed, _, accepted, rfl⟩

/-- What a destination stores of an object. -/
def CutoverPlatform.stored (platform : CutoverPlatform) (object : StoredObject) : StoredObject :=
  { object with contentType := platform.reportedType object.contentType }

/-- Creating an object sends it to its place. -/
theorem canonicalDestination_sends {before : World} (key digest : String)
    (object : StoredObject) : Sends before
      [((canonicalDestination pathPrefix).place key, platform.stored object)]
      (((canonicalDestination pathPrefix).store platform).putCreate key object digest) := by
  have unfolded : ((canonicalDestination pathPrefix).store platform).putCreate key object digest =
      (Effect.decided ((canonicalDestination pathPrefix).remoteKey platform key) >>= fun remote =>
        S3CompatibleStore.putAttempts remote (platform.stored object) remoteAttempts) := rfl
  rw [unfolded]
  refine Sends.after (Steady.decided _) fun remote yields => ?_
  rw [S3CompatibleStore.remoteKey_eq yields.decided]
  intro world grown
  obtain ⟨tree, left, whole⟩ := S3CompatibleStore.putAttempts_spec
    ((canonicalDestination pathPrefix).place key) (platform.stored object) remoteAttempts world
  refine ⟨tree, ?_⟩
  cases left with
  | inl untouched =>
    -- Nothing was sent, unless the object was there before.
    by_cases succeeded : ∃ disposition, (S3CompatibleStore.putAttempts
        ((canonicalDestination pathPrefix).place key) (platform.stored object) remoteAttempts
          world).1 = .ok disposition
    · obtain ⟨disposition, ran⟩ := succeeded
      exact ⟨_, List.prefix_rfl, whole disposition ran, fun _ _ => rfl⟩
    · exact ⟨[], List.nil_prefix, untouched, fun disposition ran =>
        absurd ⟨disposition, ran⟩ succeeded⟩
  | inr created => exact ⟨_, List.prefix_rfl, created, fun _ _ => rfl⟩

end Destination

/-! ### What a transfer sends -/

section Parcels

variable (platform : CutoverPlatform) (database : DatabaseInventory) (source : RetainedSource)
  (pathPrefix : String)

/-- The object that a source has under a key. -/
def RetainedSource.lookup (world : World) (key : String) : Option StoredObject :=
  ((source.store platform).get key world.calm).1.toOption.join

/-- The object that should be in the destination for that of a reference. -/
def ObjectReference.upload (reference : ObjectReference) (key : String) (object : StoredObject) :
    StoredObject :=
  { object with
    contentType := (reference.contentType.or object.contentType).or (platform.mimeGuess key) }

/-- What a reference sends to the destination. -/
def parcel (world : World) (reference : ObjectReference) : Option (String × StoredObject) := do
  let key ← reference.canonicalKey
  let sourceKey ← sourceKeyOf database.references (reference.referenceKind, reference.dbId)
  let object ← source.lookup platform world sourceKey
  some ((canonicalDestination pathPrefix).place key,
    platform.stored (reference.upload platform key object))

/-- What a manifest sends to the destination, in order. -/
def parcels (world : World) (references : List ObjectReference) : List (String × StoredObject) :=
  references.flatMap fun reference =>
    (parcel platform database source pathPrefix world reference).toList

variable {platform database source pathPrefix}

/-- What is read is looked up. -/
theorem RetainedSource.lookup_eq {world : World} {key : String} {found : Option StoredObject}
    (read : ((source.store platform).get key).Reads world.calm (.ok found)) :
    source.lookup platform world key = found := by
  rw [RetainedSource.lookup, read]
  rfl

/-- The row of a reference tells its source key, since a row is read once. -/
theorem DatabaseInventory.sourceKeyOf_eq {reference : DatabaseReference}
    (member : reference ∈ database.references) :
    sourceKeyOf database.references reference.row = reference.sourceKey := by
  have once : ∀ other ∈ database.references, other.row = reference.row → other = reference :=
    fun other there same => List.inj_on_of_nodup_map database.distinct there member same
  unfold sourceKeyOf
  cases found : database.references.reverse.find? fun other =>
      other.row = reference.row && other.sourceKey.isSome with
  | none =>
    -- Then the reference itself has no source key.
    have missing := List.find?_eq_none.mp found reference (List.mem_reverse.mpr member)
    simp only [decide_true, Bool.true_and, Bool.not_eq_true, Option.isSome_eq_false_iff,
      Option.isNone_iff_eq_none] at missing
    rw [missing]
    rfl
  | some other =>
    have holds := List.find?_some found
    simp only [Bool.and_eq_true, decide_eq_true_eq] at holds
    rw [once other (List.mem_reverse.mp (List.mem_of_find?_eq_some found)) holds.1]
    rfl

/-- Every reference that has a source key finds an object under it. -/
def Found (platform : CutoverPlatform) (database : DatabaseInventory) (source : RetainedSource)
    (world : World) : Prop :=
  ∀ row sourceKey, sourceKeyOf database.references row = some sourceKey →
    ∃ object, ((source.store platform).get sourceKey).Reads world.calm (.ok (some object))

/-- In a checked source every reference finds its object. -/
theorem RetainedSource.Checked.allFound {world : World}
    (checked : source.Checked platform world database) : Found platform database source world := by
  intro row sourceKey comes
  refine checked.found sourceKey ?_
  unfold sourceKeyOf at comes
  obtain ⟨reference, found, same⟩ := Option.bind_eq_some_iff.mp comes
  exact List.mem_filterMap.mpr
    ⟨reference, List.mem_reverse.mp (List.mem_of_find?_eq_some found), same⟩

/-- The transfer of a reference sends its parcel. -/
theorem transferReference_sends {before : World} (found : Found platform database source before)
    (reference : ObjectReference) :
    Sends before (parcel platform database source pathPrefix before reference).toList
      (transferReference platform (sourceKeyOf database.references) (source.store platform)
        ((canonicalDestination pathPrefix).store platform) reference) := by
  unfold transferReference parcel
  cases reference.canonicalKey with
  | none => exact (Steady.pure _).sends
  | some key =>
    cases comes : sourceKeyOf database.references (reference.referenceKind, reference.dbId) with
    | none =>
      -- Without a source key the run ends.
      intro world grown
      exact ⟨rfl, [], List.nil_prefix, rfl, fun value impossible => nomatch impossible⟩
    | some sourceKey =>
      obtain ⟨object, read⟩ := found _ sourceKey comes
      have looked : source.lookup platform before sourceKey = some object :=
        RetainedSource.lookup_eq read
      simp only [Option.bind_eq_bind, Option.bind_some, looked, Option.toList_some]
      -- Only the creation of the object changes anything.
      refine Sends.after (Steady.decided _) fun required yields => ?_
      rw [← Except.ok.inj yields.decided]
      refine Sends.after ((source.get_steady platform sourceKey).mapError _) fun got yields => ?_
      rw [RetainedSource.get_yields read yields.mapError]
      refine Sends.after (Steady.decided _) fun wanted yields => ?_
      rw [← Except.ok.inj yields.decided]
      refine ((canonicalDestination_sends key _ _).mapError _).thenSteady fun disposition => ?_
      exact (((canonicalDestination pathPrefix).get_steady platform key).mapError _).bind
        fun remote => Steady.pure _

variable (pathPrefix) in
/-- The transfer of references sends their parcels. -/
theorem references_send {before : World} (found : Found platform database source before)
    (references : List ObjectReference) :
    Sends before (parcels platform database source pathPrefix before references)
      (references.mapM (transferReference platform (sourceKeyOf database.references)
        (source.store platform) ((canonicalDestination pathPrefix).store platform))) :=
  Sends.mapM fun reference _ => transferReference_sends found reference

variable (pathPrefix) in
/-- After a valid inventory, copying and listing send the parcels. -/
theorem copy_sends {before : World} (found : Found platform database source before)
    (manifest : ObjectManifest) :
    Sends before (parcels platform database source pathPrefix before manifest.references) (do
      let transferred ← manifest.references.mapM (transferReference platform
        (sourceKeyOf database.references) (source.store platform)
        ((canonicalDestination pathPrefix).store platform))
      let destinationKeys ← ((canonicalDestination pathPrefix).store platform).listKeys.mapError
        fun _ => CutoverError.destinationVerificationUnavailable
      pure (manifest.transferred transferred destinationKeys)) := by
  refine (references_send pathPrefix found manifest.references).thenSteady fun transferred => ?_
  exact (((canonicalDestination pathPrefix).listKeys_steady platform).mapError _).bind
    fun listed => Steady.pure _

/-- However a transfer ends, it has sent the first of the parcels of a valid inventory, if any. -/
theorem transfer_sends (mode : RunMode) (before : World) :
    (transfer platform database source pathPrefix mode before).2.tree = before.tree ∧
      ∃ sent, (transfer platform database source pathPrefix mode before).2.bucket =
        before.bucket.createAll sent ∧
      (sent = [] ∨ ∃ manifest, (inventory platform database (source.store platform) mode).Reads
        before.calm (.ok manifest) ∧ manifest.valid = true ∧
        sent <+: parcels platform database source pathPrefix before manifest.references) := by
  have steady : Steady (inventory platform database (source.store platform) mode) :=
    (source.steady platform).inventory database mode
  -- The inventory reads only, so whatever is sent is sent by the copies after it.
  have still := steady.still before
  rcases ran : inventory platform database (source.store platform) mode before with ⟨outcome, found⟩
  rw [ran] at still
  unfold transfer transferToCanonicalDestination
  cases outcome with
  | error error =>
    rw [bind_apply_error ran]
    exact ⟨still.tree, [], still.bucket, Or.inl rfl⟩
  | ok manifest =>
    rw [bind_apply_ok ran]
    split
    · -- A valid inventory is copied, and what the copies send starts the list of its parcels.
      rename_i valid
      have checked := RetainedSource.inventory_checked ran valid
      obtain ⟨tree, sent, started, bucket, -⟩ :=
        copy_sends pathPrefix checked.allFound manifest found still.grows
      rw [still.bucket] at bucket
      exact ⟨tree.trans still.tree, sent, bucket,
        Or.inr ⟨manifest, (steady.reads ran).2, valid, started⟩⟩
    · exact ⟨still.tree, [], still.bucket, Or.inl rfl⟩

/-- What a destination gives out is what it should hold. -/
structure Intact (platform : CutoverPlatform) (upload remote : StoredObject) : Prop where
  bytes : platform.sha256 remote.bytes = platform.sha256 upload.bytes
  contentType : upload.contentType.isSome → remote.contentType = upload.contentType

/-- A reference is verified exactly when the destination gives out what it should hold. -/
theorem verified_unblocked {reference : ObjectReference} {upload : StoredObject}
    {disposition : PutDisposition} {remote : Option StoredObject} :
    (reference.verified platform upload disposition remote).blocker = none ↔
      ∃ object, remote = some object ∧ Intact platform upload object := by
  cases remote with
  | none => simp [ObjectReference.verified, ObjectReference.blocked]
  | some object =>
    -- An object that is there is compared by its bytes, and then by its type.
    simp only [ObjectReference.verified, Option.some.injEq, exists_eq_left']
    split
    · rename_i different
      simp only [ObjectReference.blocked, reduceCtorEq, false_iff]
      exact fun intact => different intact.bytes
    · rename_i same
      split
      · rename_i other
        simp only [ObjectReference.blocked, reduceCtorEq, false_iff]
        exact fun intact => other.2 (intact.contentType other.1)
      · rename_i alike
        simp only [true_iff]
        refine ⟨not_ne_iff.mp same, fun typed => ?_⟩
        by_contra other
        exact alike ⟨typed, other⟩

/-- Of an intact object the manifest records the content type. -/
theorem verified_contentType {reference : ObjectReference} {upload object : StoredObject}
    {disposition : PutDisposition} (intact : Intact platform upload object) :
    (reference.verified platform upload disposition (some object)).reference.contentType =
      object.contentType := by
  have typed : object.contentType.or upload.contentType = object.contentType := by
    cases wanted : upload.contentType with
    | none => exact Option.or_none
    | some contentType =>
      rw [intact.contentType (by rw [wanted]; rfl), wanted]
      rfl
  simp only [ObjectReference.verified]
  split
  · exact typed
  · split
    · exact typed
    · exact typed

/-- A verified reference is still about its row and its key. -/
theorem verified_same (reference : ObjectReference) (upload : StoredObject)
    (disposition : PutDisposition) (remote : Option StoredObject) :
    let verified := (reference.verified platform upload disposition remote).reference
    (verified.referenceKind, verified.dbId) = (reference.referenceKind, reference.dbId) ∧
      verified.canonicalKey = reference.canonicalKey := by
  cases remote with
  | none => exact ⟨rfl, rfl⟩
  | some object =>
    simp only [ObjectReference.verified]
    split
    · exact ⟨rfl, rfl⟩
    · split
      · exact ⟨rfl, rfl⟩
      · exact ⟨rfl, rfl⟩

/-- A transferred reference is compared with what the destination gives out under its key. -/
theorem transferReference_eq_ok {sourceKeys : ReferenceKind × ℤ → Option String}
    {reference : ObjectReference} {key : String} {start stop : World} {transferred : Transferred}
    (belongs : reference.canonicalKey = some key)
    (ran : transferReference platform sourceKeys (source.store platform)
      ((canonicalDestination pathPrefix).store platform) reference start =
        (.ok transferred, stop)) :
    ∃ sourceKey object disposition,
      sourceKeys (reference.referenceKind, reference.dbId) = some sourceKey ∧
      ((source.store platform).get sourceKey).Reads start.calm (.ok (some object)) ∧
      (∃ remote, (canonicalDestination pathPrefix).remoteKey platform key = .ok remote) ∧
      transferred = reference.verified platform (reference.upload platform key object) disposition
        (stop.bucket.get? ((canonicalDestination pathPrefix).place key)) := by
  unfold transferReference at ran
  rw [belongs] at ran
  simp only [Effect.bind_eq_ok, Effect.mapError_eq_ok, decided_apply, Prod.mk.injEq,
    required_eq_ok] at ran
  -- Five steps: the source key, the read, the object, the upload, and the read of the upload.
  obtain ⟨sourceKey, first, ⟨comes, rfl⟩, found, second, got, object, third, ⟨rfl, rfl⟩,
    disposition, fourth, -, remote, fifth, gave, done⟩ := ran
  cases done
  -- Reads do not depend on when they are made.
  have read := ((source.get_steady platform sourceKey).reads got).2
  obtain ⟨still, given⟩ := ((canonicalDestination pathPrefix).get_steady platform key).reads gave
  obtain ⟨accepted, rfl⟩ := canonicalDestination_get.mp given
  refine ⟨sourceKey, object, disposition, comes, read, accepted, ?_⟩
  rw [still.bucket]
  rfl

/-- Writing nothing is growth. -/
theorem Steady.grows {ε α : Type} {effect : Effect World ε α} (steady : Steady effect) :
    Keeps World.Grows effect := fun world => (steady.still world).grows

/-- Whatever the outcome, the transfer of a reference changes and removes nothing. -/
theorem transferReference_grows (sourceKeys : ReferenceKind × ℤ → Option String)
    (reference : ObjectReference) :
    Keeps World.Grows (transferReference platform sourceKeys (source.store platform)
      ((canonicalDestination pathPrefix).store platform) reference) := by
  unfold transferReference
  cases reference.canonicalKey with
  | none => exact (Steady.pure _).grows
  | some key =>
    refine (Steady.decided _).grows.bind fun sourceKey => ?_
    refine ((source.get_steady platform sourceKey).mapError _).grows.bind fun found => ?_
    refine (Steady.decided _).grows.bind fun object => ?_
    -- A create is the only step that changes anything, and it only adds.
    have create : Keeps World.Grows (((canonicalDestination pathPrefix).store platform).putCreate
        key (reference.upload platform key object) (platform.sha256 object.bytes)) := fun world =>
      (canonicalDestination_sends key _ _).grows (Std.Refl.refl world)
    refine (create.mapError _).bind fun disposition => ?_
    exact ((((canonicalDestination pathPrefix).get_steady platform key).mapError _).bind
      fun remote => Steady.pure _).grows

/-- What a transfer with a valid manifest has done. -/
structure Delivered (platform : CutoverPlatform) (database : DatabaseInventory)
    (source : RetainedSource) (pathPrefix : String) (before after : World)
    (inventoried manifest : ObjectManifest) : Prop where
  /-- Every parcel was sent. -/
  tree : after.tree = before.tree
  bucket : after.bucket = before.bucket.createAll
    (parcels platform database source pathPrefix before inventoried.references)
  /-- Every reference has its object. -/
  intact : ∀ reference ∈ inventoried.references, ∀ key, reference.canonicalKey = some key →
    ∃ sourceKey object remote,
      sourceKeyOf database.references (reference.referenceKind, reference.dbId) = some sourceKey ∧
      ((source.store platform).get sourceKey).Reads before.calm (.ok (some object)) ∧
      (∃ name, (canonicalDestination pathPrefix).remoteKey platform key = .ok name) ∧
      after.bucket.get? ((canonicalDestination pathPrefix).place key) = some remote ∧
      Intact platform (reference.upload platform key object) remote ∧
      ∃ entry ∈ manifest.references, (entry.referenceKind, entry.dbId) =
        (reference.referenceKind, reference.dbId) ∧ entry.canonicalKey = some key ∧
        entry.contentType = remote.contentType
  /-- Every listed object is referenced. -/
  listed : ∃ keys, insertKeys [] ((canonicalDestination pathPrefix).listed platform after) =
    .ok keys ∧ ∀ key ∈ keys, ∃ reference ∈ inventoried.references, reference.canonicalKey = some key

/-- A manifest is valid after a transfer when nothing is blocked and nothing is unreferenced. -/
theorem transferred_valid {manifest : ObjectManifest} {transferred : List Transferred}
    {listed : List String} : (manifest.transferred transferred listed).valid = true ↔
      manifest.blockers = [] ∧ (∀ result ∈ transferred, result.blocker = none) ∧
        ∀ key ∈ listed, ∃ result ∈ transferred, result.reference.canonicalKey = some key := by
  simp only [ObjectManifest.transferred, List.isEmpty_iff, List.append_eq_nil_iff,
    orphanBlockers_eq_nil, orphans_eq_nil, List.filterMap_eq_nil_iff, List.mem_filterMap,
    List.mem_map, exists_exists_and_eq_and, and_assoc]

/-- A transfer with a valid manifest has delivered. -/
theorem transfer_delivered {mode : RunMode} {before after : World} {manifest : ObjectManifest}
    (ran : transfer platform database source pathPrefix mode before = (.ok manifest, after))
    (valid : manifest.valid = true) :
    ∃ inventoried, (inventory platform database (source.store platform) mode).Reads before.calm
        (.ok inventoried) ∧ inventoried.valid = true ∧
      Delivered platform database source pathPrefix before after inventoried manifest := by
  obtain ⟨inventoried, found, transferred, written, listed, first, passed, copied, list, rfl⟩ :=
    transfer_eq_ok ran valid
  obtain ⟨still, read⟩ := ((source.steady platform).inventory database mode).reads first
  obtain ⟨done, names⟩ := ((canonicalDestination pathPrefix).listKeys_steady platform).reads list
  have checked := RetainedSource.inventory_checked first passed
  obtain ⟨-, unblocked, referenced⟩ := transferred_valid.mp valid
  have steps := Effect.mapM_eq_ok (fun reference => transferReference_grows _ reference) copied
  have delivers := references_send pathPrefix checked.allFound inventoried.references found
    still.grows
  rw [copied] at delivers
  obtain ⟨tree, sent, -, bucket, whole⟩ := delivers
  refine ⟨inventoried, read, passed, ?_, ?_, ?_, ?_⟩
  · exact done.tree.trans (tree.trans still.tree)
  · rw [done.bucket, bucket, still.bucket, whole transferred rfl]
  · intro reference member key belongs
    obtain ⟨result, there, start, stop, reached, step, left⟩ := forall₂_mem_left steps member
    obtain ⟨sourceKey, object, disposition, comes, got, accepted, rfl⟩ :=
      transferReference_eq_ok belongs step
    obtain ⟨remote, given, intact⟩ := verified_unblocked.mp (unblocked _ there)
    -- The object was the same at the start of the run, and stays to its end.
    obtain ⟨first, readFirst⟩ := checked.allFound _ sourceKey comes
    have one := RetainedSource.get_grown (IsTrans.trans _ _ _ still.grows reached) readFirst got
    rw [← Option.some.inj one] at readFirst
    have stays : after.bucket.get? ((canonicalDestination pathPrefix).place key) = some remote :=
      (IsTrans.trans _ _ _ left done.grows : stop.Grows after).get? given
    have same := @verified_same platform reference
      (reference.upload platform key object) disposition
      (stop.bucket.get? ((canonicalDestination pathPrefix).place key))
    refine ⟨sourceKey, object, remote, comes, readFirst, accepted, stays, intact, _,
      List.mem_map_of_mem there, same.1, same.2.trans belongs, ?_⟩
    rw [given]
    exact verified_contentType intact
  · have keys := ((canonicalDestination pathPrefix).listKeys_calm platform written).unique names
    refine ⟨listed, ?_, fun key member => ?_⟩
    · rwa [S3CompatibleStore.listed, done.bucket]
    · obtain ⟨result, there, belongs⟩ := referenced key member
      obtain ⟨reference, member, start, stop, -, step, -⟩ := forall₂_mem_right steps there
      refine ⟨reference, member, ?_⟩
      -- A transfer keeps the key of its reference.
      cases named : reference.canonicalKey with
      | none =>
        unfold transferReference at step
        rw [named] at step
        cases step
        rw [named] at belongs
        cases belongs
      | some other =>
        obtain ⟨-, object, disposition, -, -, -, rfl⟩ := transferReference_eq_ok named step
        rw [(verified_same _ _ _ _).2, named] at belongs
        exact belongs

end Parcels

end FinStream.Cutover
