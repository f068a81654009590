import FinStream.Cutover.Key
import FinStream.Store.Bucket
import FinStream.Store.Effect

/-! The stores of the cutover: a retained directory, and object stores behind a prefix. -/

namespace FinStream.Cutover

open Store

/-- An object as a store gives it out. -/
structure StoredObject where
  bytes : List UInt8
  contentType : Option String
  deriving DecidableEq

/-- What became of a conditional create. -/
inductive PutDisposition where
  | created
  | alreadyExists
  deriving DecidableEq

/-- Errors of a store. -/
inductive StoreError where
  | unavailable
  | invalidKey
  | ambiguousEncoding
  | canonicalCollision
  | createUnsupported
  | writeDenied
  deriving DecidableEq

/-- How keys are laid out: as the older application did, or as they are. -/
inductive ObjectKeyLayout where
  | legacySource
  | canonical
  deriving DecidableEq

/-- What the libraries of the cutover decide. -/
structure CutoverPlatform where
  /-- The hexadecimal SHA-256 digest of bytes. -/
  sha256 : List UInt8 → String
  /-- The content type that a name suggests. -/
  mimeGuess : String → Option String
  /-- The parts of an absolute address. -/
  parseUrl : String → Option Url
  /-- The path `ObjectPath::from` makes of a text; it escapes what a path should not have. -/
  pathFrom : String → String
  /-- Whether `ObjectPath::parse` accepts a text, which is then the path as it is. -/
  pathParses : String → Bool
  /-- The content type a store gives out for an object that was put with one or without. -/
  reportedType : Option String → Option String

/-- What is at a path of a directory. -/
inductive Node where
  | file (bytes : List UInt8)
  | directory
  /-- A symbolic link, and which paths below it lead anywhere. -/
  | link (leads : List String → Bool)

/-- Whether a node is a directory. -/
def Node.isDirectory : Node → Bool
  | .directory => true
  | _ => false

/-- The segments of a path. -/
def segments (path : String) : List String := (path.toList.splitOn '/').map String.ofList

/-- The paths of the directories above a path. -/
def ancestors (path : String) : List String :=
  (List.range (segments path).length).tail.map fun depth =>
    "/".intercalate ((segments path).take depth)

/-- The retained directory, by the paths below its root. -/
structure LocalTree where
  nodes : Bucket String Node
  /-- Whatever is above a node is a directory. -/
  rooted : ∀ path ∈ nodes.keys, ∀ above ∈ ancestors path,
    (nodes.get? above).any Node.isDirectory = true
  /-- The name of some file is no text. -/
  hasForeignName : Bool

/-- What comes of one request. -/
inductive Attempt where
  /-- It is answered. -/
  | answered
  /-- It fails and changes nothing. -/
  | failed
  /-- It takes effect, but the answer is lost. -/
  | unanswered
  /-- The store does not support it. -/
  | unsupported
  /-- The store does not allow it. -/
  | denied
  deriving DecidableEq

/--
The directory and the bucket, and what comes of the next requests.

Requests beyond the listed ones are answered. A run that is stopped leaves what it leaves when every
request from there on fails.
-/
structure World where
  tree : LocalTree
  bucket : Bucket String StoredObject
  weather : List Attempt

/-- A step of the cutover over the directory and the bucket. -/
abbrev StoreStep (α : Type) := Effect World StoreError α

/-- The next request is made. -/
def nextAttempt : StoreStep Attempt := fun world =>
  match world.weather with
  | [] => (.ok .answered, world)
  | attempt :: weather => (.ok attempt, { world with weather })

/-- Reads the directory. -/
def readTree : StoreStep LocalTree := fun world => (.ok world.tree, world)

/-- Reads the bucket. -/
def readBucket : StoreStep (Bucket String StoredObject) := fun world => (.ok world.bucket, world)

/-- A conditional create reaches the bucket. -/
def createObject (key : String) (object : StoredObject) : StoreStep PutDisposition := fun world =>
  (.ok (if key ∈ world.bucket.keys then .alreadyExists else .created),
    { world with bucket := world.bucket.create key object })

/-- A store of objects under canonical keys. -/
structure ByteObjectStore where
  get : String → StoreStep (Option StoredObject)
  listKeys : StoreStep (List String)
  putCreate : String → StoredObject → String → StoreStep PutDisposition

/-- How many times a request is made. -/
def remoteAttempts : ℕ := 4

/-- The error of a store for a refused key. -/
def mapKeyError : KeyError → StoreError
  | .ambiguousEncoding => .ambiguousEncoding
  | _ => .invalidKey

/-- The check that keys of a layout pass. -/
def ObjectKeyLayout.check (layout : ObjectKeyLayout) (key : String) : Except StoreError String :=
  match layout with
  | .legacySource => (legacyPhysicalKey key).mapError mapKeyError
  | .canonical => (canonicalKey key).mapError mapKeyError

/-- Where the object of a key may be; the older application left out the first part of photos. -/
def physicalCandidates (canonical : String) (layout : ObjectKeyLayout) : List String :=
  match layout with
  | .canonical => [canonical]
  | .legacySource =>
    match stripLeading "loan-workspace/" canonical with
    | some legacy => if legacy = "" then [canonical] else [canonical, legacy]
    | none => [canonical]

/-- The key whose object is at a place. -/
def canonicalizePhysicalKey (physical : String) (layout : ObjectKeyLayout) :
    Except StoreError String := do
  let physical ← layout.check physical
  if layout = .canonical ∨ (stripLeading "loan-workspace/" physical).isSome ∨
      (stripLeading "emails/" physical).isSome then pure physical
  else (legacyPhysicalKey ("loan-workspace/" ++ physical)).mapError mapKeyError

/-- Adds listed keys to a set, where no two objects may have one key. -/
def insertKeys : List String → List (Except StoreError (Option String)) →
    Except StoreError (List String)
  | keys, [] => .ok keys
  | keys, listed :: rest => do
    match ← listed with
    | none => insertKeys keys rest
    | some key =>
      ensure (!keys.contains key) .canonicalCollision
      insertKeys (keys ++ [key]) rest

/-! ### The retained directory -/

namespace LocalTree

/-- The first link on a path, with the part of the path below it. -/
def linkOn (tree : LocalTree) : List String → List String → Option (List String → Bool)
  | _, [] => none
  | before, segment :: after =>
    match tree.nodes.get? ("/".intercalate (before ++ [segment])) with
    | some (.link leads) => some fun _ => leads after
    | _ => tree.linkOn (before ++ [segment]) after

/-- What is found at a path: nothing, or the bytes of a file that no link leads to. -/
def fileAt (tree : LocalTree) (path : String) : Except StoreError (Option (List UInt8)) :=
  match tree.linkOn [] (segments path) with
  | some leads => if leads [] then .error .invalidKey else .ok none
  | none =>
    match tree.nodes.get? path with
    | none => .ok none
    | some (.file bytes) => .ok (some bytes)
    | some _ => .error .canonicalCollision

/-- The one file that a key stands for. -/
def resolvedFile (tree : LocalTree) : List String → Option (List UInt8) →
    Except StoreError (Option (List UInt8))
  | [], resolved => .ok resolved
  | candidate :: rest, resolved => do
    match ← tree.fileAt candidate with
    | none => tree.resolvedFile rest resolved
    | some bytes =>
      ensure resolved.isNone .canonicalCollision
      tree.resolvedFile rest (some bytes)

/-- What the walk over the directory makes of a node. -/
def listed (path : String) : Node → Except StoreError (Option String)
  | .file _ => (canonicalizePhysicalKey path .legacySource).map some
  | .directory => .ok none
  | .link _ => .error .invalidKey

/-- The keys of all files. -/
def keys (tree : LocalTree) : Except StoreError (List String) := do
  ensure (!tree.hasForeignName) .invalidKey
  insertKeys [] (tree.nodes.entries.map fun (path, node) => listed path node)

end LocalTree

variable (platform : CutoverPlatform)

/-- Fails unless the next request is answered. -/
def ensureAnswered : StoreStep PUnit := do
  let attempt ← nextAttempt
  Effect.decided (ensure (attempt == .answered) .unavailable)

/-- The retained directory as a store, which cannot be written. -/
def localDirectoryStore : ByteObjectStore where
  get canonicalKey := do
    let _ ← Effect.decided (ObjectKeyLayout.legacySource.check canonicalKey)
    let tree ← readTree
    match ← Effect.decided (tree.resolvedFile (physicalCandidates canonicalKey .legacySource) none)
      with
    | none => pure none
    | some bytes => do
      ensureAnswered
      pure (some { bytes, contentType := platform.mimeGuess canonicalKey })
  listKeys := do
    ensureAnswered
    let tree ← readTree
    Effect.decided tree.keys
  putCreate _ _ _ := Effect.failed .unavailable

/-! ### Object stores -/

/-- A prefix of a bucket with a layout of keys. -/
structure S3CompatibleStore where
  pathPrefix : String
  layout : ObjectKeyLayout
  deriving DecidableEq

namespace S3CompatibleStore

/-- The name of the object at a place below the prefix. -/
def place (store : S3CompatibleStore) (key : String) : String :=
  if store.pathPrefix = "" then key else store.pathPrefix ++ "/" ++ key

/-- The name of the object of a key that is not refused. -/
def remoteKey (store : S3CompatibleStore) (key : String) : Except StoreError String := do
  let _ ← store.layout.check key
  ensure (platform.pathParses (store.place key)) .invalidKey
  pure (store.place key)

/-- What listings are asked for. -/
def listPrefix (store : S3CompatibleStore) : Option String :=
  if store.pathPrefix = "" then none else some (platform.pathFrom store.pathPrefix)

/-- Whether a listing includes a name. -/
def lists (store : S3CompatibleStore) (remote : String) : Bool :=
  (store.listPrefix platform).all fun asked => (stripLeading (asked ++ "/") remote).isSome

/-- The key that a listed name stands for; names of other prefixes stand for none. -/
def canonicalFromRemote (store : S3CompatibleStore) (remote : String) :
    Except StoreError (Option String) :=
  if store.pathPrefix = "" then (canonicalizePhysicalKey remote store.layout).map some
  else match stripLeading (store.pathPrefix ++ "/") remote with
    | none => .ok none
    | some key => (canonicalizePhysicalKey key store.layout).map some

/-- Asks for an object until an answer comes. -/
def getAttempts (remote : String) : ℕ → StoreStep (Option StoredObject)
  | 0 => Effect.failed .unavailable
  | attempts + 1 => do
    match ← nextAttempt with
    | .answered => do
      let bucket ← readBucket
      pure (bucket.get? remote)
    | _ => getAttempts remote attempts

/-- The object at a place below the prefix. -/
def getPhysical (store : S3CompatibleStore) (physicalKey : String) :
    StoreStep (Option StoredObject) := do
  let remote ← Effect.decided (store.remoteKey platform physicalKey)
  getAttempts remote remoteAttempts

/-- The one object among the places where a key may be. -/
def getCandidates (store : S3CompatibleStore) : List String → Option StoredObject →
    StoreStep (Option StoredObject)
  | [], found => pure found
  | candidate :: rest, found => do
    match ← store.getPhysical platform candidate with
    | none => store.getCandidates rest found
    | some object => do
      Effect.decided (ensure found.isNone .canonicalCollision)
      store.getCandidates rest (some object)

/-- Asks for a listing until an answer comes. -/
def listAttempts (store : S3CompatibleStore) : ℕ → StoreStep (List String)
  | 0 => Effect.failed .unavailable
  | attempts + 1 => do
    match ← nextAttempt with
    | .answered => do
      let bucket ← readBucket
      pure (bucket.keys.filter (store.lists platform))
    | _ => store.listAttempts attempts

/-- Creates an object until an answer comes. -/
def putAttempts (remote : String) (object : StoredObject) : ℕ → StoreStep PutDisposition
  | 0 => Effect.failed .unavailable
  | attempts + 1 => do
    match ← nextAttempt with
    | .answered => createObject remote object
    | .unanswered => do
      let _ ← createObject remote object
      putAttempts remote object attempts
    | .failed => putAttempts remote object attempts
    | .unsupported => Effect.failed .createUnsupported
    | .denied => Effect.failed .writeDenied

/-- A prefix of a bucket as a store. -/
def store (store : S3CompatibleStore) : ByteObjectStore where
  get requestedKey := do
    let _ ← Effect.decided (store.layout.check requestedKey)
    store.getCandidates platform (physicalCandidates requestedKey store.layout) none
  listKeys := do
    let objects ← store.listAttempts platform remoteAttempts
    Effect.decided (insertKeys [] (objects.map store.canonicalFromRemote))
  putCreate canonicalKey object _ :=
    if store.layout = .canonical then do
      let remote ← Effect.decided (store.remoteKey platform canonicalKey)
      putAttempts remote
        { object with contentType := platform.reportedType object.contentType } remoteAttempts
    else Effect.failed .unavailable

end S3CompatibleStore

end FinStream.Cutover
