import FinStream.Cutover.Transfer

/-! What the stores answer, whatever becomes of single requests. -/

namespace FinStream.Cutover

open Store Effect

/-! ### Worlds during a run -/

/-- The same directory and bucket with every request answered. -/
def World.calm (world : World) : World := { world with weather := [] }

@[simp] theorem World.calm_tree (world : World) : world.calm.tree = world.tree := rfl

@[simp] theorem World.calm_bucket (world : World) : world.calm.bucket = world.bucket := rfl

@[simp] theorem World.calm_calm (world : World) : world.calm.calm = world.calm := rfl

/-- Nothing was written. -/
structure World.Still (before after : World) : Prop where
  tree : after.tree = before.tree
  bucket : after.bucket = before.bucket

/-- Nothing was changed or removed, and what is new came last. -/
structure World.Grows (before after : World) : Prop where
  tree : after.tree = before.tree
  bucket : before.bucket.entries <+: after.bucket.entries

instance : Std.Refl World.Still := ⟨fun _ => ⟨rfl, rfl⟩⟩

instance : IsTrans World World.Still := ⟨fun _ _ _ first second =>
  ⟨second.tree.trans first.tree, second.bucket.trans first.bucket⟩⟩

instance : Std.Refl World.Grows := ⟨fun _ => ⟨rfl, List.prefix_rfl⟩⟩

instance : IsTrans World World.Grows := ⟨fun _ _ _ first second =>
  ⟨second.tree.trans first.tree, first.bucket.trans second.bucket⟩⟩

/-- Where nothing was written, nothing was changed. -/
theorem World.Still.grows {before after : World} (still : before.Still after) :
    before.Grows after := ⟨still.tree, still.bucket ▸ List.prefix_rfl⟩

/-- Where nothing was written, the calm worlds are one. -/
theorem World.Still.calm_eq {before after : World} (still : before.Still after) :
    after.calm = before.calm := by
  simp only [World.calm, still.tree, still.bucket]

/-- The weather does not matter to growth. -/
theorem World.Grows.calm {before after : World} (grows : before.Grows after) :
    before.calm.Grows after.calm := ⟨grows.tree, grows.bucket⟩

/-- A stored object stays where it is. -/
theorem World.Grows.get? {before after : World} (grows : before.Grows after) {name : String}
    {object : StoredObject} (found : before.bucket.get? name = some object) :
    after.bucket.get? name = some object := Bucket.get?_of_prefix grows.bucket found

/-- A computation that writes nothing, and whose answers are those of a calm world. -/
def Steady {ε α : Type} (effect : Effect World ε α) : Prop :=
  ∀ world, world.Still (effect world).2 ∧
    ∀ value, (effect world).1 = .ok value → effect.Reads world.calm (.ok value)

section Steady

variable {ε α β : Type}

/-- A steady computation writes nothing. -/
theorem Steady.still {effect : Effect World ε α} (steady : Steady effect) :
    Keeps World.Still effect := fun world => (steady world).1

/-- A steady computation that succeeds reads the same in a calm world. -/
theorem Steady.reads {effect : Effect World ε α} (steady : Steady effect) {before after : World}
    {value : α} (ran : effect before = (.ok value, after)) :
    before.Still after ∧ effect.Reads before.calm (.ok value) := by
  have laws := steady before
  rw [ran] at laws
  exact ⟨laws.1, laws.2 value rfl⟩

/-- A decision is steady. -/
theorem Steady.decided (result : Except ε α) : Steady (Effect.decided result : Effect World ε α) :=
  fun world => ⟨⟨rfl, rfl⟩, fun _ same => by rw [Reads, decided_apply, ← same, decided_apply]⟩

/-- Returning a value is steady. -/
theorem Steady.pure (value : α) : Steady (Pure.pure value : Effect World ε α) := Steady.decided _

/-- Steady computations in order are steady. -/
theorem Steady.bind {first : Effect World ε α} {rest : α → Effect World ε β}
    (firstSteady : Steady first) (restSteady : ∀ value, Steady (rest value)) :
    Steady (first >>= rest) := by
  intro world
  have laws := firstSteady world
  rcases ran : first world with ⟨outcome, middle⟩
  rw [ran] at laws
  cases outcome with
  | error error =>
    rw [bind_apply_error ran]
    exact ⟨laws.1, fun value impossible => nomatch impossible⟩
  | ok value =>
    rw [bind_apply_ok ran]
    have later := restSteady value middle
    refine ⟨IsTrans.trans _ _ _ laws.1 later.1, fun result succeeded => ?_⟩
    rw [Reads, (laws.2 value rfl).andThen]
    have reads := later.2 result succeeded
    rwa [laws.1.calm_eq] at reads

/-- Renaming errors keeps a computation steady. -/
theorem Steady.mapError {ε' : Type} {effect : Effect World ε α} (steady : Steady effect)
    (rename : ε → ε') : Steady (effect.mapError rename) := by
  intro world
  refine ⟨(steady world).1, fun value succeeded => ?_⟩
  have same : (effect world).1 = .ok value := Store.mapError_eq_ok.mp succeeded
  exact ((steady world).2 value same).mapError rename

/-- A loop of steady computations is steady. -/
theorem Steady.mapM {γ : Type} {step : γ → Effect World ε α} {items : List γ}
    (steady : ∀ item, Steady (step item)) : Steady (items.mapM step) := by
  induction items with
  | nil => exact Steady.pure _
  | cons item rest ih =>
    rw [List.mapM_cons]
    exact (steady item).bind fun _ => ih.bind fun _ => Steady.pure _

/-- In a calm world steady computations in order read what they read one by one. -/
theorem Steady.bind_reads_ok {first : Effect World ε α} {rest : α → Effect World ε β}
    (steady : Steady first) {world : World} {result : β} :
    (first >>= rest).Reads world.calm (.ok result) ↔
      ∃ value, first.Reads world.calm (.ok value) ∧ (rest value).Reads world.calm (.ok result) := by
  constructor
  · intro ran
    obtain ⟨value, middle, ranFirst, ranRest⟩ := Effect.bind_eq_ok.mp ran
    have read := (steady.reads ranFirst).2
    rw [World.calm_calm] at read
    have same : middle = world.calm := (Prod.mk.inj (ranFirst.symm.trans read)).2
    rw [same] at ranRest
    exact ⟨value, read, ranRest⟩
  · rintro ⟨value, read, later⟩
    exact (read.andThen rest).trans later

/-- In a calm world a loop of steady computations reads what they read one by one. -/
theorem Steady.mapM_reads_ok {γ : Type} {step : γ → Effect World ε α} {items : List γ}
    (steady : ∀ item, Steady (step item)) {world : World} {results : List α} :
    (items.mapM step).Reads world.calm (.ok results) ↔
      List.Forall₂ (fun item result => (step item).Reads world.calm (.ok result)) items results := by
  -- Each step leaves the world calm, so the next one reads in the same world.
  induction items generalizing results with
  | nil =>
    rw [List.mapM_nil, List.forall₂_nil_left_iff]
    constructor
    · intro read
      exact (Except.ok.inj (Prod.mk.inj read).1).symm
    · rintro rfl
      rfl
  | cons item rest ih =>
    rw [List.mapM_cons, (steady item).bind_reads_ok, List.forall₂_cons_left_iff]
    constructor
    · rintro ⟨first, readFirst, readRest⟩
      obtain ⟨others, readOthers, together⟩ :=
        (Steady.mapM fun item => steady item).bind_reads_ok.mp readRest
      exact ⟨first, others, readFirst, ih.mp readOthers,
        (Except.ok.inj (Prod.mk.inj together).1).symm⟩
    · rintro ⟨first, others, readFirst, readOthers, rfl⟩
      exact ⟨first, readFirst, (Steady.mapM fun item => steady item).bind_reads_ok.mpr
        ⟨others, ih.mpr readOthers, rfl⟩⟩

end Steady

/-! ### Sets of listed keys -/

/-- What can be read and is there. -/
def filled {β : Type} (items : List (Except StoreError (Option β))) : List β :=
  items.filterMap fun item => item.toOption.join

@[simp] theorem filled_nil {β : Type} : filled ([] : List (Except StoreError (Option β))) = [] := rfl

@[simp] theorem filled_cons_some {β : Type} (value : β)
    (rest : List (Except StoreError (Option β))) :
    filled (.ok (some value) :: rest) = value :: filled rest := rfl

@[simp] theorem filled_cons_none {β : Type} (rest : List (Except StoreError (Option β))) :
    filled (.ok none :: rest) = filled rest := rfl

/-- What can be read and is there comes from some item. -/
theorem mem_filled {β : Type} {value : β} {items : List (Except StoreError (Option β))} :
    value ∈ filled items ↔ .ok (some value) ∈ items := by
  simp only [filled, List.mem_filterMap]
  constructor
  · rintro ⟨item, member, found⟩
    cases item with
    | error error => cases found
    | ok read =>
      cases found
      exact member
  · intro member
    exact ⟨_, member, rfl⟩

/-- Keys are added to a set when all of them can be read and no two are the same. -/
theorem insertKeys_eq_ok {keys : List String} {listed : List (Except StoreError (Option String))}
    {result : List String} (distinct : keys.Nodup) :
    insertKeys keys listed = .ok result ↔ (∀ item ∈ listed, ∃ value, item = .ok value) ∧
      result = keys ++ filled listed ∧ result.Nodup := by
  induction listed generalizing keys with
  | nil =>
    simp only [insertKeys, Except.ok.injEq, filled_nil, List.append_nil]
    constructor
    · rintro rfl
      exact ⟨by simp, rfl, distinct⟩
    · exact fun holds => holds.2.1.symm
  | cons item rest ih =>
    cases item with
    | error error => simp [insertKeys, Bind.bind, Except.bind]
    | ok listed =>
      cases listed with
      | none =>
        -- A name of another prefix adds nothing.
        have skipped : insertKeys keys (.ok none :: rest) = insertKeys keys rest := rfl
        rw [skipped, ih distinct]
        simp
      | some key =>
        have step : insertKeys keys (.ok (some key) :: rest) =
            (ensure (!keys.contains key) .canonicalCollision >>= fun _ =>
              insertKeys (keys ++ [key]) rest) := rfl
        rw [step]
        by_cases taken : key ∈ keys
        · -- A key that is there already is refused, and would be there twice.
          have refused : ensure (!keys.contains key) StoreError.canonicalCollision =
              .error .canonicalCollision := by simp [ensure, taken]
          rw [refused]
          constructor
          · exact fun impossible => nomatch impossible
          · rintro ⟨-, rfl, twice⟩
            have apart := (List.nodup_append'.mp twice).2.2
            exact absurd List.mem_cons_self (apart taken)
        · have longer : (keys ++ [key]).Nodup := by
            refine distinct.append (by simp) ?_
            simpa using taken
          have free : ensure (!keys.contains key) StoreError.canonicalCollision = .ok ⟨⟩ := by
            simp [taken]
          rw [free]
          have added : (Except.ok ⟨⟩ >>= fun _ : PUnit => insertKeys (keys ++ [key]) rest) =
              insertKeys (keys ++ [key]) rest := rfl
          rw [added, ih longer]
          simp

/-! ### Places of keys -/

/-- The check of a layout keeps the text. -/
theorem ObjectKeyLayout.check_eq (layout : ObjectKeyLayout) {raw key : String}
    (accepted : layout.check raw = .ok key) : key = raw := by
  cases layout with
  | legacySource => exact validateKey_eq (Store.mapError_eq_ok.mp accepted)
  | canonical => exact validateKey_eq (Store.mapError_eq_ok.mp accepted)

/-- A key is looked up at the place it names. -/
theorem self_mem_physicalCandidates (key : String) (layout : ObjectKeyLayout) :
    key ∈ physicalCandidates key layout := by
  unfold physicalCandidates
  split
  · simp
  · split
    · split <;> simp
    · simp

/-- The empty text is no key. -/
theorem legacyPhysicalKey_empty (key : String) : legacyPhysicalKey "" ≠ .ok key := by
  intro accepted
  cases accepted

/-- A listed key is the place itself, or what the older application left the first part out of. -/
theorem canonicalizePhysicalKey_cases {physical key : String} {layout : ObjectKeyLayout}
    (canonical : canonicalizePhysicalKey physical layout = .ok key) :
    (key = physical ∧ (layout = .canonical ∨ (stripLeading "loan-workspace/" key).isSome ∨
      (stripLeading "emails/" key).isSome)) ∨ (layout = .legacySource ∧
      key = "loan-workspace/" ++ physical ∧ physical ≠ "" ∧ stripLeading "loan-workspace/" physical = none ∧
      stripLeading "emails/" physical = none) := by
  simp only [canonicalizePhysicalKey, Store.bind_eq_ok] at canonical
  obtain ⟨checked, accepted, canonical⟩ := canonical
  rw [layout.check_eq accepted] at canonical accepted
  -- A key in a known namespace stays; a bare one of the older layout is put into that of photos.
  split at canonical
  · rename_i placed
    have same : physical = key := Store.pure_eq_ok.mp canonical
    rw [same] at placed
    exact Or.inl ⟨same.symm, placed⟩
  · rename_i bare
    simp only [not_or, Bool.not_eq_true, Option.isSome_eq_false_iff, Option.isNone_iff_eq_none]
      at bare
    cases layout with
    | canonical => exact absurd rfl bare.1
    | legacySource =>
      refine Or.inr ⟨rfl, validateKey_eq (Store.mapError_eq_ok.mp canonical), ?_, bare.2⟩
      intro empty
      rw [empty] at accepted
      exact legacyPhysicalKey_empty _ (Store.mapError_eq_ok.mp accepted)

/-- A key is listed for an object only at a place where it is looked up. -/
theorem mem_physicalCandidates {physical key : String} {layout : ObjectKeyLayout}
    (canonical : canonicalizePhysicalKey physical layout = .ok key) :
    physical ∈ physicalCandidates key layout := by
  cases canonicalizePhysicalKey_cases canonical with
  | inl same =>
    rw [same.1]
    exact self_mem_physicalCandidates physical layout
  | inr shortened =>
    obtain ⟨legacy, whole, nonempty, -⟩ := shortened
    have found : stripLeading "loan-workspace/" key = some physical :=
      stripLeading_eq_some.mpr whole
    rw [legacy]
    simp [physicalCandidates, found, nonempty]

/-- Different keys have different places. -/
theorem S3CompatibleStore.place_injective (store : S3CompatibleStore) :
    Function.Injective store.place := by
  intro left right same
  unfold S3CompatibleStore.place at same
  split at same
  · exact same
  · exact (String.append_right_inj _).mp same

/-! ### Single requests -/

namespace S3CompatibleStore

/-- Requests that are repeated until one is answered, with what is read off the bucket. -/
structure Asks {α : Type} (request : ℕ → StoreStep α)
    (answer : Bucket String StoredObject → α) : Prop where
  never : request 0 = Effect.failed .unavailable
  again : ∀ attempts, request (attempts + 1) = do
    match ← nextAttempt with
    | .answered => do
      let bucket ← readBucket
      pure (answer bucket)
    | _ => request attempts

/-- Such requests write nothing, and an answer tells what is in the bucket. -/
theorem Asks.spec {α : Type} {request : ℕ → StoreStep α}
    {answer : Bucket String StoredObject → α} (asks : Asks request answer) (attempts : ℕ)
    (before : World) : before.Still (request attempts before).2 ∧
      ∀ value, (request attempts before).1 = .ok value → value = answer before.bucket := by
  induction attempts generalizing before with
  | zero =>
    rw [asks.never]
    exact ⟨⟨rfl, rfl⟩, fun _ impossible => nomatch impossible⟩
  | succ attempts ih =>
    rcases before with ⟨tree, bucket, weather⟩
    rw [asks.again]
    -- Only an answer ends the requests; after anything else there is one fewer.
    cases weather with
    | nil => exact ⟨⟨rfl, rfl⟩, fun _ answered => (Except.ok.inj answered).symm⟩
    | cons attempt weather =>
      obtain ⟨still, answers⟩ := ih ⟨tree, bucket, weather⟩
      cases attempt with
      | answered => exact ⟨⟨rfl, rfl⟩, fun _ answered => (Except.ok.inj answered).symm⟩
      | failed => exact ⟨⟨still.tree, still.bucket⟩, answers⟩
      | unanswered => exact ⟨⟨still.tree, still.bucket⟩, answers⟩
      | unsupported => exact ⟨⟨still.tree, still.bucket⟩, answers⟩
      | denied => exact ⟨⟨still.tree, still.bucket⟩, answers⟩

/-- In a calm world the first request is answered. -/
theorem Asks.calm {α : Type} {request : ℕ → StoreStep α}
    {answer : Bucket String StoredObject → α} (asks : Asks request answer) (world : World) :
    (request remoteAttempts).Reads world.calm (.ok (answer world.bucket)) := by
  rw [remoteAttempts, asks.again]
  rfl

/-- Such requests are steady. -/
theorem Asks.steady {α : Type} {request : ℕ → StoreStep α}
    {answer : Bucket String StoredObject → α} (asks : Asks request answer) :
    Steady (request remoteAttempts) := by
  intro world
  obtain ⟨still, answers⟩ := asks.spec remoteAttempts world
  refine ⟨still, fun value succeeded => ?_⟩
  rw [answers value succeeded]
  exact asks.calm world

/-- An object is asked for. -/
theorem getAttempts_asks (remote : String) : Asks (getAttempts remote) (·.get? remote) :=
  ⟨rfl, fun _ => rfl⟩

variable (platform : CutoverPlatform) (store : S3CompatibleStore)

/-- A listing is asked for. -/
theorem listAttempts_asks :
    Asks (store.listAttempts platform) fun bucket => bucket.keys.filter (store.lists platform) :=
  ⟨rfl, fun _ => rfl⟩

/-- A conditional create creates at most its object, and exactly that where it is answered. -/
theorem putAttempts_spec (remote : String) (object : StoredObject) (attempts : ℕ) (before : World) :
    (putAttempts remote object attempts before).2.tree = before.tree ∧
    ((putAttempts remote object attempts before).2.bucket = before.bucket ∨
      (putAttempts remote object attempts before).2.bucket = before.bucket.create remote object) ∧
    ∀ disposition, (putAttempts remote object attempts before).1 = .ok disposition →
      (putAttempts remote object attempts before).2.bucket =
        before.bucket.create remote object := by
  induction attempts generalizing before with
  | zero => exact ⟨rfl, Or.inl rfl, fun _ impossible => nomatch impossible⟩
  | succ attempts ih =>
    rcases before with ⟨tree, bucket, weather⟩
    cases weather with
    | nil => exact ⟨rfl, Or.inr rfl, fun _ _ => rfl⟩
    | cons attempt weather =>
      cases attempt with
      | answered => exact ⟨rfl, Or.inr rfl, fun _ _ => rfl⟩
      | failed => exact ih ⟨tree, bucket, weather⟩
      | unanswered =>
        -- The object is there, so trying again changes nothing.
        obtain ⟨sameTree, left, exact_⟩ := ih ⟨tree, bucket.create remote object, weather⟩
        have taken : remote ∈ (bucket.create remote object).keys :=
          (Bucket.mem_keys_create _ _ _ _).mpr (Or.inl rfl)
        rw [Bucket.create_of_mem taken] at left exact_
        exact ⟨sameTree, Or.inr (left.elim id id), exact_⟩
      | unsupported => exact ⟨rfl, Or.inl rfl, fun _ impossible => nomatch impossible⟩
      | denied => exact ⟨rfl, Or.inl rfl, fun _ impossible => nomatch impossible⟩

/-- In a calm world the first create is answered. -/
theorem putAttempts_calm (remote : String) (object : StoredObject) (world : World) :
    putAttempts remote object remoteAttempts world.calm =
      createObject remote object world.calm := rfl

/-! ### Objects of a prefix -/

variable {platform store} in
/-- The name of an accepted key is its place. -/
theorem remoteKey_eq {key remote : String} (accepted : store.remoteKey platform key = .ok remote) :
    remote = store.place key := by
  simp only [remoteKey, Store.bind_eq_ok, Store.pure_eq_ok] at accepted
  obtain ⟨_, -, _, -, same⟩ := accepted
  exact same.symm

/-- The name of a place is read as the key of that place. -/
theorem canonicalFromRemote_place (physical : String) :
    store.canonicalFromRemote (store.place physical) =
      (canonicalizePhysicalKey physical store.layout).map some := by
  unfold canonicalFromRemote place
  split
  · rfl
  · rw [stripLeading_eq_some.mpr rfl]

variable {store} in
/-- A listed name stands for the key whose object is at its place below the prefix. -/
theorem canonicalFromRemote_eq_some {remote key : String} :
    store.canonicalFromRemote remote = .ok (some key) ↔ ∃ physical, remote = store.place physical ∧
      canonicalizePhysicalKey physical store.layout = .ok key := by
  unfold canonicalFromRemote place
  split
  · simp
  · cases below : stripLeading (store.pathPrefix ++ "/") remote with
    | none =>
      simp only [Except.ok.injEq, reduceCtorEq, false_iff, not_exists, not_and]
      intro physical same
      have found := stripLeading_eq_some.mpr same
      rw [below] at found
      cases found
    | some physical =>
      have same := stripLeading_eq_some.mp below
      simp only [Store.map_eq_ok, Option.some.injEq, exists_eq_right]
      constructor
      · exact fun canonical => ⟨physical, same, canonical⟩
      · rintro ⟨other, placed, canonical⟩
        have one : some physical = some other := below.symm.trans (stripLeading_eq_some.mpr placed)
        rwa [Option.some.inj one]

/-- What is at a place below the prefix. -/
def objectAt (world : World) (physicalKey : String) : Except StoreError (Option StoredObject) :=
  (store.remoteKey platform physicalKey).map world.bucket.get?

/-- Looking at a place is steady. -/
theorem getPhysical_steady (physicalKey : String) :
    Steady (store.getPhysical platform physicalKey) :=
  (Steady.decided _).bind fun _ => (getAttempts_asks _).steady

/-- In a calm world one sees what is there. -/
theorem getPhysical_calm (physicalKey : String) (world : World) :
    (store.getPhysical platform physicalKey).Reads world.calm
      (store.objectAt platform world physicalKey) := by
  unfold getPhysical objectAt
  cases accepted : store.remoteKey platform physicalKey with
  | error error => rfl
  | ok remote => exact (getAttempts_asks remote).calm world

end S3CompatibleStore

/-- The one object among several places. -/
def onlyOne {β : Type} : List (Except StoreError (Option β)) → Option β →
    Except StoreError (Option β)
  | [], found => .ok found
  | place :: rest, found => do
    match ← place with
    | none => onlyOne rest found
    | some object =>
      ensure found.isNone .canonicalCollision
      onlyOne rest (some object)

/-- There is one object when every place can be looked at and all but one are empty. -/
theorem onlyOne_eq_ok {β : Type} {places : List (Except StoreError (Option β))}
    {found result : Option β} : onlyOne places found = .ok result ↔
      (∀ place ∈ places, ∃ object, place = .ok object) ∧
        found.toList ++ filled places = result.toList := by
  induction places generalizing found with
  | nil =>
    simp only [onlyOne, Except.ok.injEq, filled_nil, List.append_nil]
    constructor
    · rintro rfl
      exact ⟨by simp, rfl⟩
    · rintro ⟨-, same⟩
      cases found with
      | none => exact (Option.toList_eq_nil_iff.mp same.symm).symm
      | some object => exact (Option.toList_eq_singleton_iff.mp same.symm).symm
  | cons place rest ih =>
    cases place with
    | error error => simp [onlyOne, Bind.bind, Except.bind]
    | ok object =>
      cases object with
      | none =>
        have skipped : onlyOne (.ok none :: rest) found = onlyOne rest found := rfl
        rw [skipped, ih]
        simp
      | some object =>
        cases found with
        | none =>
          have next : onlyOne (.ok (some object) :: rest) none = onlyOne rest (some object) := rfl
          rw [next, ih]
          simp
        | some other =>
          -- Two objects are refused, and are one too many.
          have refused : onlyOne (.ok (some object) :: rest) (some other) =
              .error .canonicalCollision := rfl
          rw [refused]
          constructor
          · exact fun impossible => nomatch impossible
          · rintro ⟨-, both⟩
            cases result with
            | none => simp at both
            | some result => simp at both

/-- What is made of the one object is made of each. -/
theorem onlyOne_map {β γ : Type} (change : β → γ) (places : List (Except StoreError (Option β)))
    (found : Option β) :
    onlyOne (places.map fun place => place.map (Option.map change)) (found.map change) =
      (onlyOne places found).map (Option.map change) := by
  induction places generalizing found with
  | nil => rfl
  | cons place rest ih =>
    cases place with
    | error error => rfl
    | ok object =>
      cases object with
      | none => exact ih found
      | some object =>
        cases found with
        | none => exact ih (some object)
        | some other => rfl

/-! ### The stores -/

namespace S3CompatibleStore

variable (platform : CutoverPlatform) (store : S3CompatibleStore)

/-- Looking at several places is steady. -/
theorem getCandidates_steady (candidates : List String) (found : Option StoredObject) :
    Steady (store.getCandidates platform candidates found) := by
  induction candidates generalizing found with
  | nil => exact Steady.pure _
  | cons candidate rest ih =>
    refine (store.getPhysical_steady platform candidate).bind fun object => ?_
    cases object with
    | none => exact ih found
    | some object => exact (Steady.decided _).bind fun _ => ih (some object)

/-- In a calm world one sees the one object of several places. -/
theorem getCandidates_calm (candidates : List String) (found : Option StoredObject)
    (world : World) : (store.getCandidates platform candidates found).Reads world.calm
      (onlyOne (candidates.map (store.objectAt platform world)) found) := by
  induction candidates generalizing found with
  | nil => rfl
  | cons candidate rest ih =>
    have seen := store.getPhysical_calm platform candidate world
    rw [List.map_cons]
    cases there : store.objectAt platform world candidate with
    | error error =>
      rw [there] at seen
      exact bind_apply_error seen
    | ok object =>
      rw [there] at seen
      refine (seen.andThen _).trans ?_
      cases object with
      | none => exact ih found
      | some object =>
        cases found with
        | none => exact ih (some object)
        | some other => rfl

/-- Reading an object is steady. -/
theorem get_steady (key : String) : Steady ((store.store platform).get key) :=
  (Steady.decided _).bind fun _ => store.getCandidates_steady platform _ _

/-- Listing the keys is steady. -/
theorem listKeys_steady : Steady (store.store platform).listKeys :=
  (store.listAttempts_asks platform).steady.bind fun _ => Steady.decided _

/-- What a listing of the bucket stands for. -/
def listed (world : World) : List (Except StoreError (Option String)) :=
  (world.bucket.keys.filter (store.lists platform)).map store.canonicalFromRemote

/-- In a calm world the listing is that of the bucket. -/
theorem listKeys_calm (world : World) : (store.store platform).listKeys.Reads world.calm
    (insertKeys [] (store.listed platform world)) := rfl

/-- In a calm world the object of a key is the one among its places. -/
theorem get_calm (key : String) (world : World) : ((store.store platform).get key).Reads world.calm
    (store.layout.check key >>= fun _ =>
      onlyOne ((physicalCandidates key store.layout).map (store.objectAt platform world)) none) := by
  cases checked : store.layout.check key with
  | error error =>
    have refused : (Effect.decided (store.layout.check key) : StoreStep String) world.calm =
        (.error error, world.calm) := by rw [checked, decided_apply]
    exact bind_apply_error refused
  | ok accepted =>
    have passed : (Effect.decided (store.layout.check key) : StoreStep String) world.calm =
        (.ok accepted, world.calm) := by rw [checked, decided_apply]
    exact (bind_apply_ok passed).trans (store.getCandidates_calm platform _ none world)

end S3CompatibleStore

section LocalDirectory

variable (platform : CutoverPlatform)

/-- Reading the directory is steady. -/
theorem readTree_steady : Steady readTree := fun world =>
  ⟨⟨rfl, rfl⟩, fun tree same => by
    rw [Reads, ← same]
    rfl⟩

/-- Waiting for an answer is steady. -/
theorem ensureAnswered_steady : Steady ensureAnswered := by
  intro world
  rcases world with ⟨tree, bucket, weather⟩
  cases weather with
  | nil => exact ⟨⟨rfl, rfl⟩, fun _ _ => rfl⟩
  | cons attempt weather => exact ⟨⟨rfl, rfl⟩, fun _ _ => rfl⟩

/-- The one file of a key is the one object among its places. -/
theorem LocalTree.resolvedFile_eq (tree : LocalTree) (candidates : List String)
    (resolved : Option (List UInt8)) :
    tree.resolvedFile candidates resolved = onlyOne (candidates.map tree.fileAt) resolved := by
  induction candidates generalizing resolved with
  | nil => rfl
  | cons candidate rest ih =>
    rw [List.map_cons]
    unfold LocalTree.resolvedFile onlyOne
    cases tree.fileAt candidate with
    | error error => rfl
    | ok bytes =>
      cases bytes with
      | none => exact ih resolved
      | some bytes =>
        cases resolved with
        | none => exact ih (some bytes)
        | some other => rfl

/-- Reading a file is steady. -/
theorem localDirectoryStore_get_steady (key : String) :
    Steady ((localDirectoryStore platform).get key) := by
  refine (Steady.decided _).bind fun _ => readTree_steady.bind fun tree =>
    (Steady.decided _).bind fun found => ?_
  cases found with
  | none => exact Steady.pure _
  | some bytes => exact ensureAnswered_steady.bind fun _ => Steady.pure _

/-- Walking over the directory is steady. -/
theorem localDirectoryStore_listKeys_steady : Steady (localDirectoryStore platform).listKeys :=
  ensureAnswered_steady.bind fun _ => readTree_steady.bind fun _ => Steady.decided _

end LocalDirectory

namespace RetainedSource

variable (platform : CutoverPlatform) (source : RetainedSource)

/-- What a retained source has at a place of a key. -/
def objectAt (world : World) (key place : String) : Except StoreError (Option StoredObject) :=
  match source with
  | .localDirectory => (world.tree.fileAt place).map (Option.map fun bytes =>
      { bytes, contentType := platform.mimeGuess key })
  | .s3 pathPrefix => (S3CompatibleStore.mk pathPrefix .legacySource).objectAt platform world place

/-- What a listing of a retained source stands for. -/
def listed (world : World) : List (Except StoreError (Option String)) :=
  match source with
  | .localDirectory =>
    (if world.tree.hasForeignName then [.error .invalidKey] else []) ++
      world.tree.nodes.entries.map fun (path, node) => LocalTree.listed path node
  | .s3 pathPrefix => (S3CompatibleStore.mk pathPrefix .legacySource).listed platform world

/-- Reading an object is steady. -/
theorem get_steady (key : String) : Steady ((source.store platform).get key) := by
  cases source with
  | localDirectory => exact localDirectoryStore_get_steady platform key
  | s3 pathPrefix => exact S3CompatibleStore.get_steady platform _ key

/-- Listing the keys is steady. -/
theorem listKeys_steady : Steady (source.store platform).listKeys := by
  cases source with
  | localDirectory => exact localDirectoryStore_listKeys_steady platform
  | s3 pathPrefix => exact S3CompatibleStore.listKeys_steady platform _

/-- In a calm world the listing is that of the objects that are there. -/
theorem listKeys_calm (world : World) : (source.store platform).listKeys.Reads world.calm
    (insertKeys [] (source.listed platform world)) := by
  cases source with
  | localDirectory =>
    have walked : (localDirectoryStore platform).listKeys.Reads world.calm world.tree.keys := rfl
    have keys_eq : world.tree.keys = insertKeys [] (localDirectory.listed platform world) := by
      unfold LocalTree.keys listed
      cases world.tree.hasForeignName with
      | true => rfl
      | false => rfl
    rwa [keys_eq] at walked
  | s3 pathPrefix => exact S3CompatibleStore.listKeys_calm platform _ world

/-- In a calm world the object of a key is the one among its places. -/
theorem get_calm (key : String) (world : World) : ((source.store platform).get key).Reads world.calm
    (ObjectKeyLayout.legacySource.check key >>= fun _ =>
      onlyOne ((physicalCandidates key .legacySource).map (source.objectAt platform world key))
        none) := by
  -- Either kind of source checks the key first, then looks for the candidate that is there.
  cases source with
  | localDirectory =>
    cases checked : ObjectKeyLayout.legacySource.check key with
    | error error =>
      have refused : (Effect.decided (ObjectKeyLayout.legacySource.check key) : StoreStep String)
          world.calm = (.error error, world.calm) := by rw [checked, decided_apply]
      exact bind_apply_error refused
    | ok accepted =>
      have passed : (Effect.decided (ObjectKeyLayout.legacySource.check key) : StoreStep String)
          world.calm = (.ok accepted, world.calm) := by rw [checked, decided_apply]
      refine (bind_apply_ok passed).trans ?_
      have files := world.tree.resolvedFile_eq (physicalCandidates key .legacySource) none
      have objects := onlyOne_map (fun bytes : List UInt8 =>
        StoredObject.mk bytes (platform.mimeGuess key))
        ((physicalCandidates key .legacySource).map world.tree.fileAt) none
      rw [List.map_map, ← files] at objects
      refine Eq.trans ?_ (congrArg (fun result => (result, world.calm)) objects).symm
      have opened : (readTree : StoreStep LocalTree) world.calm = (.ok world.tree, world.calm) := rfl
      refine (bind_apply_ok opened).trans ?_
      cases world.tree.resolvedFile (physicalCandidates key .legacySource) none with
      | error error => rfl
      | ok found =>
        cases found with
        | none => rfl
        | some bytes => rfl
  | s3 pathPrefix => exact S3CompatibleStore.get_calm platform _ key world

end RetainedSource

end FinStream.Cutover
