import FinStream.Inbox.Recording

/-! Rows and objects: every key a row names has the object that was verified before. -/

namespace FinStream.Media

open Store Inbox Relation

/-- The database and the store with everyone who works on them. -/
structure MediaState where
  inbox : Tables
  photos : Table LoanWorkspacePhoto
  objects : ObjectStore
  /-- The PUT requests that were sent; each may reach the store at any time, or never. -/
  requests : List PutRequest
  /-- The uploads the server signed. -/
  intents : List UploadClaims
  /-- The workers that store emails. -/
  workers : ℕ → Phase
  /-- The finalizations whose object is verified. -/
  finalizers : ℕ → Option VerifiedUpload
  /-- Every successful write of the store, oldest first. -/
  writes : List (String × StoredObject)
  /-- Every verification so far. -/
  verified : List Verification

/-- What can happen next. -/
inductive MediaInput where
  /-- A step of a worker. -/
  | worker (index : ℕ) (input : WorkerInput)
  /-- A PUT request reaches the store. -/
  | deliver (request : PutRequest)
  /-- The server signs an upload. -/
  | sign (draft : UploadIntentDraft) (issuedAt : ℤ) (marker : String)
  /-- A browser uploads under a signed address. -/
  | upload (claims : UploadClaims) (bytes : List UInt8) (sha256 : Option String)
  /-- A finalization verifies an upload. -/
  | verify (index : ℕ) (claims : UploadClaims) (connectionId : ℕ) (loanAccount : String) (now : ℤ)
  /-- A finalization records its photo. -/
  | finalize (index connectionId : ℕ) (createdAt : String)
  /-- A finalization ends without a record. -/
  | abandon (index : ℕ)

/-- A request reaches the store: its object is created unless the key is taken. -/
def MediaState.deliver (state : MediaState) (request : PutRequest) : MediaState :=
  { state with
    objects := state.objects.create request.objectKey request.object
    writes := if (state.objects.get? request.objectKey).isSome then state.writes
      else state.writes ++ [(request.objectKey, request.object)] }

/-- What a worker's step leaves. -/
def MediaState.worked (state : MediaState) (index : ℕ) (outcome : WorkerOutcome) : MediaState :=
  { state with
    inbox := outcome.inbox
    workers := fun other => if other = index then outcome.phase else state.workers other
    requests := state.requests ++ outcome.sent.toList
    verified := state.verified ++ outcome.verified.toList.map PutRequest.verification }

/-- The text a random marker of eighteen bytes is encoded as, and that no upload has it yet. -/
def freshMarker (intents : List UploadClaims) (marker : String) : Bool :=
  marker.toList.length == 24 && isToken marker &&
    intents.all fun claims => claims.uploadMarker != marker

/-- The row a finalization records for its verified upload. -/
def finalizePhoto (upload : VerifiedUpload) (connectionId : ℕ) (createdAt : String)
    (photos : Table LoanWorkspacePhoto) : Table LoanWorkspacePhoto :=
  let caption := trim upload.fileName
  if connectionId != upload.connectionId then photos
  else match createManualPhotoMetadata connectionId upload.loanAccount
      (if caption != "" then some caption else none) upload.imageUrl createdAt photos with
    | .ok (_, recorded) => recorded
    | .error _ => photos

/-- The state after one step, if it can be taken. -/
def MediaState.step (platform : MediaPlatform) (state : MediaState) :
    MediaInput → Option MediaState
  | .worker index input =>
    ((state.workers index).step platform state.inbox state.objects input).map
      (state.worked index)
  | .deliver request =>
    if request ∈ state.requests then some (state.deliver request) else none
  | .sign draft issuedAt marker =>
    if freshMarker state.intents marker then
      match createUploadIntent draft issuedAt marker with
      | .ok claims => some { state with intents := state.intents ++ [claims] }
      | .error _ => some state
    else none
  | .upload claims bytes sha256 =>
    if claims ∈ state.intents then
      (claims.upload bytes sha256 state.objects).map fun objects =>
        { state with
          objects
          writes := state.writes ++ (objects.get? claims.objectKey).toList.map
            (claims.objectKey, ·) }
    else none
  | .verify index claims connectionId loanAccount now =>
    -- Only what the server signed passes the check of the signature.
    if claims ∈ state.intents ∧ state.finalizers index = none then
      match verifyUploadedIntent claims connectionId loanAccount now
          (head claims.objectKey state.objects) with
      | .ok upload => some { state with
          finalizers := fun other =>
            if other = index then some upload else state.finalizers other
          verified := state.verified ++ [claims.verification] }
      | .error _ => some state
    else none
  | .finalize index connectionId createdAt =>
    (state.finalizers index).map fun upload =>
      { state with
        photos := finalizePhoto upload connectionId createdAt state.photos
        finalizers := fun other => if other = index then none else state.finalizers other }
  | .abandon index => some { state with
      finalizers := fun other => if other = index then none else state.finalizers other }

/-- Every interleaving of workers, uploads and finalizations, from an empty database and store. -/
def mediaSystem (platform : MediaPlatform) : System MediaState MediaInput where
  init state := state.inbox = .empty ∧ state.photos = .empty ∧ state.objects = .empty ∧
    state.requests = [] ∧ state.intents = [] ∧ (∀ index, state.workers index = .idle) ∧
    (∀ index, state.finalizers index = none) ∧ state.writes = [] ∧ state.verified = []
  step input before after := before.step platform input = some after

/-- The store has exactly the object that was first written under a key. -/
def FirstWritten (state : MediaState) (objectKey : String) : Prop :=
  ∃ object, state.objects.get? objectKey = some object ∧
    state.writes.find? (·.1 == objectKey) = some (objectKey, object)

/-- Every key a row names has its verified object. -/
structure RowsBacked (platform : MediaPlatform) (state : MediaState) : Prop where
  /-- The body of an email was verified with its type, and is what was first written. -/
  body : ∀ id email objectKey, (id, email) ∈ state.inbox.emails →
    email.bodyS3Key = some objectKey → ∃ verification ∈ state.verified,
      verification.objectKey = objectKey ∧ email.bodyContentType = some verification.contentType ∧
      verification.Holds state.objects ∧ FirstWritten state objectKey
  /-- A stored attachment was verified with its size and type, and is what was first written. -/
  attachment : ∀ id attachment, (id, attachment) ∈ state.inbox.attachments →
    attachment.processingState = .stored → ∃ verification ∈ state.verified,
      attachment.s3Key = some verification.objectKey ∧
      attachment.sizeBytes = some (verification.sizeBytes : ℤ) ∧
      attachment.contentType = verification.contentType ∧
      verification.Holds state.objects ∧ FirstWritten state verification.objectKey
  /-- The key in the address of an uploaded photo was verified. -/
  photo : ∀ id photo, (id, photo) ∈ state.photos → ∃ verification ∈ state.verified,
    classifyPhoto platform.absolute photo.imageUrl = .ok (.stored verification.objectKey) ∧
    verification.Holds state.objects

end FinStream.Media
