import FinStream.Inbox.Repository
import FinStream.Media.Key
import FinStream.Store.Bucket

/-! The object boundary: conditional creates, browser uploads, and the rows of uploaded photos. -/

namespace FinStream.Media

open Store Inbox

/-- What the store keeps under a key. -/
structure StoredObject where
  bytes : List UInt8
  contentType : Option String
  uploadMarker : Option String
  sha256 : Option String
  deriving DecidableEq

/-- The objects under their keys; the configured path in front of every key is left out. -/
abbrev ObjectStore := Bucket String StoredObject

/-- What a HEAD request reports. -/
structure HeadObject where
  sizeBytes : ℕ
  contentType : Option String
  uploadMarker : Option String
  sha256 : Option String
  deriving DecidableEq

/-- The report about an object. -/
def StoredObject.head (object : StoredObject) : HeadObject where
  sizeBytes := object.bytes.length
  contentType := object.contentType
  uploadMarker := object.uploadMarker
  sha256 := object.sha256

/-- A HEAD request. -/
def head (objectKey : String) (objects : ObjectStore) : Option HeadObject :=
  (objects.get? objectKey).map StoredObject.head

/-- The program's platform with its digests and its parser of absolute addresses. -/
structure MediaPlatform extends MailPlatform where
  /-- The hexadecimal SHA-256 digest of bytes. -/
  hexDigest : List UInt8 → String
  /-- The location an absolute address of a photo stands for. -/
  absolute : String → MediaResult PhotoLocation

/-- A PUT request of the server, which creates its object only under a free key. -/
structure PutRequest where
  objectKey : String
  body : List UInt8
  contentType : String
  sha256 : String
  deriving DecidableEq

/-- The object a request creates. -/
def PutRequest.object (request : PutRequest) : StoredObject where
  bytes := request.body
  contentType := some request.contentType
  uploadMarker := none
  sha256 := some request.sha256

/-- The largest object the server puts. -/
def maxServerPutBytes : ℕ := 25 * 1024 * 1024

/-- The request that puts bytes under a canonical key, if they can be put. -/
def putRequest (platform : MediaPlatform) (objectKey : String) (body : List UInt8)
    (contentType : String) : MediaResult PutRequest := do
  let _ ← canonicalKey objectKey
  ensure (body.length ≤ maxServerPutBytes && !isBlank contentType &&
    contentType.utf8ByteSize ≤ 255 && !contentType.toList.any isControl) .invalidInput
  pure { objectKey, body, contentType, sha256 := platform.hexDigest body }

/-- A media type without its parameters. -/
def mediaType (raw : String) : String :=
  trim (String.ofList (raw.toList.takeWhile (· != ';')))

/-- Accepts an existing object when it is what the request would have created. -/
def PutRequest.checkExisting (request : PutRequest) (existing : Option HeadObject) :
    MediaResult HeadObject := do
  let existing ← required existing .objectMissing
  ensure (existing.sizeBytes == request.body.length &&
    existing.contentType.map mediaType == some request.contentType &&
    existing.sha256 == some request.sha256) .objectMismatch
  pure existing

/-- A verification of an object: its key, size and type. -/
structure Verification where
  objectKey : String
  sizeBytes : ℕ
  contentType : String
  deriving DecidableEq

/-- The store has the object of a verification, with exactly its size and type. -/
def Verification.Holds (verification : Verification) (objects : ObjectStore) : Prop :=
  ∃ object, objects.get? verification.objectKey = some object ∧
    object.bytes.length = verification.sizeBytes ∧
    object.contentType = some verification.contentType

/-- What a worker verifies about its request. -/
def PutRequest.verification (request : PutRequest) : Verification :=
  ⟨request.objectKey, request.body.length, request.contentType⟩

/-- What a browser wants to upload. -/
structure UploadIntentDraft where
  connectionId : ℕ
  loanAccount : String
  fileName : String
  contentType : String
  sizeBytes : ℕ
  deriving DecidableEq

/-- What the server signed about an upload. -/
structure UploadClaims where
  version : ℕ
  connectionId : ℕ
  loanAccount : String
  fileName : String
  contentType : String
  sizeBytes : ℕ
  objectKey : String
  uploadMarker : String
  issuedAt : ℤ
  expiresAt : ℤ
  deriving DecidableEq

/-- An upload whose object is there. -/
structure VerifiedUpload where
  connectionId : ℕ
  loanAccount : String
  fileName : String
  contentType : String
  sizeBytes : ℕ
  objectKey : String
  imageUrl : String
  deriving DecidableEq

/-- Uploads may be finalized for this many seconds. -/
def uploadExpirySeconds : ℤ := 5 * 60

/-- The largest photo. -/
def maxUploadBytes : ℕ := 25 * 1024 * 1024

/-- The type of a photo, if it is one of the supported ones. -/
def normalizeContentType (raw : String) : Option String :=
  let value := mediaType raw
  if ["image/jpeg", "image/png", "image/webp"].contains value then some value else none

/-- A type is normalized to its part before parameters, which must be a supported type. -/
theorem normalizeContentType_eq_some {raw value : String} :
    normalizeContentType raw = some value ↔
      mediaType raw = value ∧ value ∈ ["image/jpeg", "image/png", "image/webp"] := by
  simp only [normalizeContentType, Option.ite_none_right_eq_some, List.contains_iff_mem,
    Option.some.injEq]
  constructor
  · rintro ⟨listed, rfl⟩
    exact ⟨rfl, listed⟩
  · rintro ⟨rfl, listed⟩
    exact ⟨listed, rfl⟩

/-- Refuses an upload with invalid metadata. -/
def validateUploadDraft (draft : UploadIntentDraft) : MediaResult Unit :=
  ensure (0 < draft.connectionId && !isBlank draft.loanAccount &&
    draft.loanAccount.utf8ByteSize ≤ 128 && !isBlank draft.fileName &&
    draft.fileName.utf8ByteSize ≤ 255 && !draft.fileName.toList.any isControl &&
    0 < draft.sizeBytes && draft.sizeBytes ≤ maxUploadBytes &&
    normalizeContentType draft.contentType == some draft.contentType) .invalidInput

/-- A loan account as a segment of a key. -/
def loanSegment (loanAccount : String) : String :=
  String.ofList (loanAccount.toList.map fun character =>
    if character.isAlphanum || character == '-' || character == '_' then character else '-')

/-- The file extension of a photo's type. -/
def photoExtension : String → Option String
  | "image/jpeg" => some "jpg"
  | "image/png" => some "png"
  | "image/webp" => some "webp"
  | _ => none

/-- The key of a photo that is about to be uploaded. -/
def generatedPhotoKey (draft : UploadIntentDraft) (issuedAt : ℤ) (marker : String) :
    MediaResult String := do
  let extension ← required (photoExtension draft.contentType) .invalidInput
  canonicalKey (canonicalPhotoPath ++ (loanSegment draft.loanAccount ++ "/manual-" ++
    toString issuedAt ++ "-" ++ marker ++ "." ++ extension))

/-- What the server signs for a browser that wants to upload a photo. -/
def createUploadIntent (draft : UploadIntentDraft) (issuedAt : ℤ) (marker : String) :
    MediaResult UploadClaims := do
  validateUploadDraft draft
  let objectKey ← generatedPhotoKey draft issuedAt marker
  let _ ← photoRouteUrl objectKey
  pure {
    version := 1
    connectionId := draft.connectionId
    loanAccount := draft.loanAccount
    fileName := draft.fileName
    contentType := draft.contentType
    sizeBytes := draft.sizeBytes
    objectKey
    uploadMarker := marker
    issuedAt
    expiresAt := issuedAt + uploadExpirySeconds }

/-- What a browser may do with the signed upload: its length, type and marker are enforced. -/
def UploadClaims.upload (claims : UploadClaims) (bytes : List UInt8) (sha256 : Option String)
    (objects : ObjectStore) : Option ObjectStore :=
  if bytes.length = claims.sizeBytes then
    some (objects.put claims.objectKey
      { bytes, contentType := some claims.contentType
        uploadMarker := some claims.uploadMarker, sha256 })
  else none

/-- What a finalization verifies about signed claims. -/
def UploadClaims.verification (claims : UploadClaims) : Verification :=
  ⟨claims.objectKey, claims.sizeBytes, claims.contentType⟩

/-- The draft that signed claims were made from. -/
def UploadClaims.draft (claims : UploadClaims) : UploadIntentDraft where
  connectionId := claims.connectionId
  loanAccount := claims.loanAccount
  fileName := claims.fileName
  contentType := claims.contentType
  sizeBytes := claims.sizeBytes

/-- Refuses signed claims that are expired or not valid yet. -/
def verifyClaims (claims : UploadClaims) (now : ℤ) : MediaResult Unit := do
  ensure (!(claims.expiresAt < now)) .expiredIntent
  ensure (claims.version == 1 && claims.issuedAt ≤ now + 60 &&
    claims.expiresAt == claims.issuedAt + uploadExpirySeconds) .invalidIntent
  validateUploadDraft claims.draft

/-- Checks a signed upload against the object that was uploaded. -/
def verifyUploadedIntent (claims : UploadClaims) (expectedConnectionId : ℕ)
    (expectedLoanAccount : String) (now : ℤ) (existing : Option HeadObject) :
    MediaResult VerifiedUpload := do
  verifyClaims claims now
  ensure (claims.connectionId == expectedConnectionId &&
    claims.loanAccount == expectedLoanAccount) .invalidIntent
  let _ ← canonicalKey claims.objectKey
  let metadata ← required existing .objectMissing
  ensure (metadata.sizeBytes == claims.sizeBytes &&
    metadata.contentType.bind normalizeContentType == some claims.contentType &&
    metadata.uploadMarker == some claims.uploadMarker) .objectMismatch
  let imageUrl ← photoRouteUrl claims.objectKey
  pure {
    connectionId := claims.connectionId
    loanAccount := claims.loanAccount
    fileName := claims.fileName
    contentType := claims.contentType
    sizeBytes := claims.sizeBytes
    objectKey := claims.objectKey
    imageUrl }

/-- A row of `intg_loan_workspace_photo`. -/
structure LoanWorkspacePhoto where
  connectionId : ℕ
  loanAccount : String
  provider : String
  caption : Option String
  sourceUrl : String
  imageUrl : String
  sortOrder : ℤ
  isFeatured : Bool
  createdAt : String
  deriving DecidableEq

/-- Refuses a loan account that is blank, too long, or not trimmed. -/
def validateLoanAccountInput (loanAccount : String) : InboxResult Unit := do
  ensure (!isBlank loanAccount) (.validation "loan account cannot be empty")
  ensure (loanAccount.utf8ByteSize ≤ 128) (.validation "loan account is too long")
  ensure (trim loanAccount == loanAccount && !loanAccount.toList.any isControl)
    (.validation "loan account contains unsupported whitespace or control characters")

/-- Refuses a photo with invalid metadata. -/
def validatePhoto (photo : LoanWorkspacePhoto) : InboxResult Unit := do
  ensure (0 < photo.connectionId) (.validation "connection id must be a positive integer")
  validateLoanAccountInput photo.loanAccount
  ensure (!isBlank photo.provider) (.validation "photo provider cannot be empty")
  ensure (!isBlank photo.sourceUrl) (.validation "photo source URL cannot be empty")
  ensure (!isBlank photo.imageUrl) (.validation "photo image URL cannot be empty")
  ensure (photo.provider.utf8ByteSize ≤ 64 && (photo.caption.all (·.utf8ByteSize ≤ 512)) &&
    photo.sourceUrl.utf8ByteSize ≤ 2048 && photo.imageUrl.utf8ByteSize ≤ 2048 &&
    0 ≤ photo.sortOrder) (.validation "photo metadata exceeds its supported bounds")

/-- Whether a row is the photo with an identity. -/
def LoanWorkspacePhoto.hasIdentity (photo other : LoanWorkspacePhoto) : Bool :=
  other.connectionId == photo.connectionId && other.loanAccount == photo.loanAccount &&
    other.provider == photo.provider && other.imageUrl == photo.imageUrl

/-- The place after the photos of a loan. -/
def nextSortOrder (connectionId : ℕ) (loanAccount : String) (photos : Table LoanWorkspacePhoto) :
    ℤ :=
  (photos.rows.filter fun entry => entry.2.connectionId == connectionId &&
    entry.2.loanAccount == loanAccount).foldl (fun last entry => max last entry.2.sortOrder) (-1) + 1

/-- Records a finalized upload, or finds its record. -/
def createManualPhotoMetadata (connectionId : ℕ) (loanAccount : String)
    (caption : Option String) (imageUrl createdAt : String) (photos : Table LoanWorkspacePhoto) :
    InboxResult ((ℕ × LoanWorkspacePhoto) × Table LoanWorkspacePhoto) := do
  let draft : LoanWorkspacePhoto := {
    connectionId, loanAccount, caption, imageUrl, createdAt
    provider := "manual"
    sourceUrl := "manual-upload"
    sortOrder := 0
    isFeatured := false }
  validatePhoto draft
  match photos.find? fun _ stored => draft.hasIdentity stored with
  | some existing => pure (existing, photos)
  | none =>
    let photo := { draft with sortOrder := nextSortOrder connectionId loanAccount photos }
    pure ((photos.next, photo), photos.insert photo)

end FinStream.Media
