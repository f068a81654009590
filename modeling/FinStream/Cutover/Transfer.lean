import FinStream.Cutover.SourceDb
import Mathlib.Algebra.Ring.Nat
import Mathlib.Data.List.Dedup
import Mathlib.Data.List.Sort
import Mathlib.Data.Prod.Lex

/-! The inventory of a store, and the transfer of its objects to a canonical destination. -/

namespace FinStream.Cutover

open Store

/-- What a run is for. -/
inductive RunMode where
  | inventoryLocal
  | inventoryS3
  | backfillLocalToS3
  | promoteS3ToS3
  deriving DecidableEq

/-- How the object of a reference came to be in the destination. -/
inductive BackfillDisposition where
  | uploaded
  | existingVerified
  deriving DecidableEq

/-- What the manifest says of a reference. -/
structure ObjectReference where
  referenceKind : ReferenceKind
  dbId : ℤ
  canonicalKey : Option String
  sizeBytes : Option ℕ
  sha256 : Option String
  contentType : Option String
  presence : Presence
  backfill : Option BackfillDisposition
  deriving DecidableEq

/-- The numbers of a manifest. -/
structure ManifestCounts where
  databaseReferences : ℕ
  referencedObjects : ℕ
  presentObjects : ℕ
  missingObjects : ℕ
  invalidReferences : ℕ
  externalOnlyPhotos : ℕ
  emptyEmailBodyKeysSkipped : ℕ
  duplicateKeys : ℕ
  duplicateReferences : ℕ
  sourceObjects : ℕ
  orphanObjects : ℕ
  uploadedObjects : ℕ
  existingVerifiedObjects : ℕ
  mismatchedExistingObjects : ℕ
  deriving DecidableEq

/-- The result of a run; its version and the time of its making are left out. -/
structure ObjectManifest where
  mode : RunMode
  valid : Bool
  counts : ManifestCounts
  references : List ObjectReference
  blockers : List Blocker
  deriving DecidableEq

/-- Errors that end a run. -/
inductive CutoverError where
  | s3Configuration
  | s3PrefixesMustDiffer
  | objectSourceUnavailable
  | objectSourceInvalidKey
  | objectSourceAmbiguousEncoding
  | objectSourceCanonicalCollision
  | inventory
  | backfill
  | transferSourceRead
  | destinationWriteUnavailable
  | destinationVerificationUnavailable
  | destinationCreateUnsupported
  | destinationWriteDenied
  deriving DecidableEq

/-- A step of a run. -/
abbrev CutoverStep (α : Type) := Effect World CutoverError α

/-- The error of a run for an error of its source. -/
def mapInventoryStoreError : StoreError → CutoverError
  | .unavailable => .objectSourceUnavailable
  | .invalidKey => .objectSourceInvalidKey
  | .ambiguousEncoding => .objectSourceAmbiguousEncoding
  | .canonicalCollision => .objectSourceCanonicalCollision
  | .createUnsupported | .writeDenied => .objectSourceUnavailable

/-- The error of a run for an error of a create. -/
def mapDestinationWriteError : StoreError → CutoverError
  | .createUnsupported => .destinationCreateUnsupported
  | .writeDenied => .destinationWriteDenied
  | _ => .destinationWriteUnavailable

/-- The references under each of their keys, in the order of the keys. -/
def referencesBy (key : DatabaseReference → Option String) (references : List DatabaseReference) :
    List (String × List DatabaseReference) :=
  ((references.filterMap key).dedup.insertionSort (· ≤ ·)).map fun name =>
    (name, references.filter fun reference => key reference = some name)

/-- The references under their canonical keys. -/
def referencesByKey (references : List DatabaseReference) :
    List (String × List DatabaseReference) :=
  referencesBy DatabaseReference.canonicalKey references

/-- The references under the keys of their objects in the source. -/
def referencesBySourceKey (references : List DatabaseReference) :
    List (String × List DatabaseReference) :=
  referencesBy DatabaseReference.sourceKey references

/-- One blocker for each reference. -/
def blockAll (code : String) (references : List DatabaseReference) : List Blocker :=
  references.map fun reference => .reference code reference.kind reference.dbId

/-- The groups of references that share their canonical key. -/
def duplicateGroups (references : List DatabaseReference) :
    List (String × List DatabaseReference) :=
  (referencesByKey references).filter fun group => 1 < group.2.length

/-- The groups of references whose object is not in the source. -/
def missingGroups (references : List DatabaseReference) (sourceKeys : List String) :
    List (String × List DatabaseReference) :=
  (referencesBySourceKey references).filter fun group => !sourceKeys.contains group.1

/-- The listed keys that are not among the referenced ones. -/
def orphans (listed referenced : List String) : List String :=
  listed.filter fun key => !referenced.contains key

/-- A blocker when some listed object is not referenced. -/
def orphanBlockers (code : String) (unreferenced : List String) : List Blocker :=
  if 0 < unreferenced.length then [.global code] else []

/-- The position of a kind in the order of the manifest. -/
def ReferenceKind.position : ReferenceKind → ℕ
  | .loanWorkspacePhoto => 0
  | .receivedEmailBody => 1
  | .receivedEmailAttachment => 2

/-- The order of the references of a manifest. -/
def ObjectReference.before (left right : ObjectReference) : Prop :=
  toLex (left.referenceKind.position, left.dbId) ≤ toLex (right.referenceKind.position, right.dbId)

instance : DecidableRel ObjectReference.before := fun left right =>
  inferInstanceAs (Decidable (toLex (left.referenceKind.position, left.dbId) ≤
    toLex (right.referenceKind.position, right.dbId)))

/-- Counts the references anew; the other numbers stay. -/
def populateCounts (counts : ManifestCounts) (references : List ObjectReference) : ManifestCounts :=
  { counts with
    databaseReferences := references.length
    referencedObjects := references.countP fun reference => reference.canonicalKey.isSome
    presentObjects := references.countP fun reference => reference.presence = .present
    missingObjects := references.countP fun reference => reference.presence = .missing
    invalidReferences := references.countP fun reference => reference.presence = .invalid
    externalOnlyPhotos := references.countP fun reference => reference.presence = .externalOnly }

variable (platform : CutoverPlatform)

/-- A reference before its object is looked at. -/
def DatabaseReference.unseen (reference : DatabaseReference) : ObjectReference where
  referenceKind := reference.kind
  dbId := reference.dbId
  canonicalKey := reference.canonicalKey
  sizeBytes := none
  sha256 := none
  contentType := reference.contentType
  presence := reference.initialPresence
  backfill := none

/-- What an object adds to what the database says of it. -/
def DatabaseReference.seen (reference : DatabaseReference) (key : String) :
    Option StoredObject → ObjectReference
  | none => { reference.unseen with presence := .missing }
  | some object =>
    { reference.unseen with
      sizeBytes := some object.bytes.length
      sha256 := some (platform.sha256 object.bytes)
      contentType := (reference.contentType.or object.contentType).or (platform.mimeGuess key)
      presence := .present }

/-- Looks at the object of a reference. -/
def inspectReference (store : ByteObjectStore) (reference : DatabaseReference) :
    CutoverStep ObjectReference :=
  match reference.canonicalKey with
  | none => pure reference.unseen
  | some key => do
    let sourceKey ← Effect.decided (required reference.sourceKey .inventory)
    let found ← (store.get sourceKey).mapError mapInventoryStoreError
    pure (reference.seen platform key found)

/-- The manifest of what a listing and a look at every object found. -/
def DatabaseInventory.manifest (database : DatabaseInventory) (mode : RunMode)
    (sourceKeys : List String) (references : List ObjectReference) : ObjectManifest :=
  let duplicates := duplicateGroups database.references
  let missing := missingGroups database.references sourceKeys
  let unreferenced := orphans sourceKeys (database.references.filterMap (·.sourceKey))
  let references := references.insertionSort ObjectReference.before
  let blockers := database.blockers ++
    duplicates.flatMap (fun group => blockAll "duplicate_canonical_key" group.2) ++
    missing.flatMap (fun group => blockAll "referenced_object_missing" group.2) ++
    orphanBlockers "unreferenced_source_objects" unreferenced
  let counts : ManifestCounts :=
    { databaseReferences := 0, referencedObjects := 0, presentObjects := 0, missingObjects := 0
      invalidReferences := 0, externalOnlyPhotos := 0
      emptyEmailBodyKeysSkipped := database.emptyEmailBodyKeysSkipped
      duplicateKeys := duplicates.length
      duplicateReferences := (duplicates.map fun group => group.2.length - 1).sum
      sourceObjects := sourceKeys.length
      orphanObjects := unreferenced.length
      uploadedObjects := 0, existingVerifiedObjects := 0, mismatchedExistingObjects := 0 }
  let counts := populateCounts counts references
  { mode, valid := blockers.isEmpty, counts, references, blockers }

/-- Compares the references of the database with the objects of a store. -/
def inventory (database : DatabaseInventory) (store : ByteObjectStore) (mode : RunMode) :
    CutoverStep ObjectManifest := do
  let sourceKeys ← store.listKeys.mapError mapInventoryStoreError
  let references ← database.references.mapM (inspectReference platform store)
  pure (database.manifest mode sourceKeys references)

/-- The source key of a row; were it read more than once, the last one would count. -/
def sourceKeyOf (references : List DatabaseReference) (row : ReferenceKind × ℤ) : Option String :=
  (references.reverse.find? fun reference =>
    reference.row = row && reference.sourceKey.isSome).bind (·.sourceKey)

/-- What the transfer of a reference leaves in the manifest. -/
structure Transferred where
  reference : ObjectReference
  blocker : Option Blocker
  mismatched : Bool

/-- A reference whose object is not, or not yet, in the destination as it should be. -/
def ObjectReference.blocked (reference : ObjectReference) (code : String) (mismatched : Bool) :
    Transferred where
  reference := reference
  blocker := some (.reference code reference.referenceKind reference.dbId)
  mismatched := mismatched

/-- Compares what the destination gives out under a key with what should be there. -/
def ObjectReference.verified (reference : ObjectReference) (upload : StoredObject)
    (disposition : PutDisposition) : Option StoredObject → Transferred
  | none =>
    { reference with presence := .missing }.blocked "destination_object_missing_after_put" false
  | some remote =>
    let verified := { reference with
      sizeBytes := some remote.bytes.length
      sha256 := some (platform.sha256 remote.bytes)
      contentType := remote.contentType.or upload.contentType
      presence := .present }
    if platform.sha256 remote.bytes ≠ platform.sha256 upload.bytes then
      verified.blocked "destination_hash_mismatch" true
    else if upload.contentType.isSome ∧ remote.contentType ≠ upload.contentType then
      verified.blocked "destination_content_type_mismatch" false
    else
      { reference := { verified with
          backfill := some (match disposition with
            | .created => .uploaded
            | .alreadyExists => .existingVerified) }
        blocker := none
        mismatched := false }

/-- Creates the object of a reference in the destination and reads it back. -/
def transferReference (sourceKeys : ReferenceKind × ℤ → Option String)
    (source destination : ByteObjectStore) (reference : ObjectReference) :
    CutoverStep Transferred :=
  match reference.canonicalKey with
  | none => pure { reference, blocker := none, mismatched := false }
  | some key => do
    let sourceKey ← Effect.decided
      (required (sourceKeys (reference.referenceKind, reference.dbId)) .backfill)
    let found ← (source.get sourceKey).mapError fun _ => .transferSourceRead
    let object ← Effect.decided (required found .backfill)
    let upload := { object with
      contentType := (reference.contentType.or object.contentType).or (platform.mimeGuess key) }
    let disposition ← (destination.putCreate key upload (platform.sha256 object.bytes)).mapError
      mapDestinationWriteError
    let remote ← (destination.get key).mapError fun _ => .destinationVerificationUnavailable
    pure (reference.verified platform upload disposition remote)

/-- The manifest of a transfer after the destination is listed. -/
def ObjectManifest.transferred (manifest : ObjectManifest) (transferred : List Transferred)
    (destinationKeys : List String) : ObjectManifest :=
  let references := transferred.map Transferred.reference
  let unreferenced := orphans destinationKeys (references.filterMap (·.canonicalKey))
  let blockers := manifest.blockers ++ transferred.filterMap Transferred.blocker ++
    orphanBlockers "unreferenced_destination_objects" unreferenced
  let counts := { manifest.counts with
    sourceObjects := destinationKeys.length
    orphanObjects := unreferenced.length
    uploadedObjects := references.countP fun reference => reference.backfill = some .uploaded
    existingVerifiedObjects :=
      references.countP fun reference => reference.backfill = some .existingVerified
    mismatchedExistingObjects := transferred.countP Transferred.mismatched }
  let counts := populateCounts counts references
  { mode := manifest.mode, valid := blockers.isEmpty, counts, references, blockers }

/-- Creates every referenced object of the source in the destination. -/
def transferToCanonicalDestination (database : DatabaseInventory)
    (source destination : ByteObjectStore) (mode : RunMode) : CutoverStep ObjectManifest := do
  let manifest ← inventory platform database source mode
  if manifest.valid then do
    let transferred ← manifest.references.mapM
      (transferReference platform (sourceKeyOf database.references) source destination)
    let destinationKeys ←
      destination.listKeys.mapError fun _ => .destinationVerificationUnavailable
    pure (manifest.transferred transferred destinationKeys)
  else pure manifest

/-- Refuses texts that are no prefix. -/
def normalizePrefix (raw : String) : Except CutoverError String :=
  if raw = "" then .ok ""
  else do
    ensure (raw == trim raw && raw.toList.head? != some '/' && raw.toList.getLast? != some '/')
      .s3Configuration
    (canonicalKey raw).mapError fun _ => .s3Configuration

/-- The retained objects: a directory, or a prefix of the bucket. -/
inductive RetainedSource where
  | localDirectory
  | s3 (pathPrefix : String)
  deriving DecidableEq

/-- The store of the retained objects. -/
def RetainedSource.store : RetainedSource → ByteObjectStore
  | .localDirectory => localDirectoryStore platform
  | .s3 pathPrefix => S3CompatibleStore.store platform ⟨pathPrefix, .legacySource⟩

/-- A prefix that canonical objects are copied to. -/
def canonicalDestination (pathPrefix : String) : S3CompatibleStore := ⟨pathPrefix, .canonical⟩

/-- Copies retained objects to a prefix of the bucket. -/
def transfer (database : DatabaseInventory) (source : RetainedSource) (destination : String)
    (mode : RunMode) : CutoverStep ObjectManifest :=
  transferToCanonicalDestination platform database (source.store platform)
    ((canonicalDestination destination).store platform) mode

/-- Copies the retained directory to a prefix of the bucket. -/
def backfillLocalToS3 (rawPrefix : String) (database : DatabaseInventory) :
    CutoverStep ObjectManifest := do
  let destination ← Effect.decided (normalizePrefix rawPrefix)
  transfer platform database .localDirectory destination .backfillLocalToS3

/-- Copies a retained prefix of the bucket to a canonical one. -/
def promoteS3ToS3 (rawSource rawDestination : String) (database : DatabaseInventory) :
    CutoverStep ObjectManifest := do
  let source ← Effect.decided (normalizePrefix rawSource)
  let destination ← Effect.decided (normalizePrefix rawDestination)
  Effect.decided (ensure (!(destination == "" || source == destination)) .s3PrefixesMustDiffer)
  transfer platform database (.s3 source) destination .promoteS3ToS3

end FinStream.Cutover
