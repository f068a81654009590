import FinStream.Inbox.Processing
import FinStream.Media.Service

/-! The worker that stores a claimed email: it puts, verifies and records one object at a time. -/

namespace FinStream.Inbox

open Store Media

/-- The content the provider has for an email. -/
structure ProviderEmail where
  html : Option String
  text : Option String
  deriving DecidableEq

/-- What the provider says about an attachment. -/
structure ProviderAttachment where
  id : String
  filename : String
  contentType : String
  downloadUrl : Option String
  deriving DecidableEq

/-- The bytes of an attachment. -/
structure AttachmentDownload where
  bytes : List UInt8
  contentType : String
  deriving DecidableEq

/-- Errors of the provider. -/
inductive ProviderError where
  | unavailable
  | invalidResponse
  | responseTooLarge
  | invalidDownloadUrl
  deriving DecidableEq

/-- Whether another attempt may succeed. -/
inductive WorkflowFailure where
  | transient
  | permanent
  deriving DecidableEq

/-- The failure a provider's error causes. -/
def WorkflowFailure.provider : ProviderError → WorkflowFailure
  | .unavailable => .transient
  | _ => .permanent

/-- The failure an error of the object boundary causes. -/
def WorkflowFailure.media : MediaError → WorkflowFailure
  | .invalidInput | .invalidKey | .objectMismatch => .permanent
  | _ => .transient

/-- What is said about a failed email. -/
def WorkflowFailure.publicError : WorkflowFailure → String
  | .transient =>
    "Email provider or object storage is temporarily unavailable. Retry is available."
  | .permanent =>
    "Email content could not be stored because the provider response was invalid."

/-- What an object is put for: the body, or an attachment with those that come after it. -/
inductive Target where
  | body
  | attachment (entry : ℕ × ReceivedEmailAttachment)
      (rest : List (ℕ × ReceivedEmailAttachment)) (remote : List ProviderAttachment)
  deriving DecidableEq

/-- Where a worker is between two effects. -/
inductive Phase where
  | idle
  /-- The content of the email has to be fetched. -/
  | process (claim : ClaimedEmail)
  /-- An object has to be put. -/
  | put (claim : ClaimedEmail) (objectKey : String) (body : List UInt8) (contentType : String)
      (target : Target)
  /-- The PUT request is out, and its object has to be verified. -/
  | head (claim : ClaimedEmail) (request : PutRequest) (target : Target)
  /-- The object is verified and has to be recorded. -/
  | record (claim : ClaimedEmail) (request : PutRequest) (target : Target)
  /-- The email has no body, which has to be recorded. -/
  | recordEmpty (claim : ClaimedEmail)
  /-- The attachments have to be listed. -/
  | list (claim : ClaimedEmail)
  /-- An attachment has to be downloaded. -/
  | download (claim : ClaimedEmail) (entry : ℕ × ReceivedEmailAttachment)
      (rest : List (ℕ × ReceivedEmailAttachment)) (remote : List ProviderAttachment)
  /-- Everything is recorded, and the email has to be completed. -/
  | complete (claim : ClaimedEmail)
  /-- An attachment could not be stored, which has to be recorded. -/
  | giveUp (claim : ClaimedEmail) (attachmentId : ℕ) (failure : WorkflowFailure)
  /-- The attempt failed, which has to be recorded. -/
  | fail (claim : ClaimedEmail) (failure : WorkflowFailure)
  deriving DecidableEq

/-- What happens to a worker next. -/
inductive WorkerInput where
  /-- A webhook arrives. -/
  | webhook (draft : InboundEmailDraft) (leaseToken : String) (clock : ClaimClock)
  /-- A user asks for another attempt. -/
  | retry (emailId : ℕ) (leaseToken : String) (clock : ClaimClock)
  /-- The provider answers with the content of the email. -/
  | content (response : Except ProviderError ProviderEmail)
  /-- The provider answers with its attachments. -/
  | listed (response : Except ProviderError (List ProviderAttachment))
  /-- The provider answers with the bytes of an attachment. -/
  | downloaded (response : Except ProviderError AttachmentDownload)
  /-- The PUT request is sent. -/
  | send
  /-- The PUT request is answered, and the HEAD request finds what the store has then. -/
  | headed
  /-- A statement of the worker is executed. -/
  | execute (updatedAt : String)
  /-- The store or the database does not answer. -/
  | unavailable
  /-- The time for processing an email is over. -/
  | timeout
  /-- The worker disappears. -/
  | crash

/-- What one step of a worker leaves. -/
structure WorkerOutcome where
  phase : Phase
  inbox : Tables
  /-- A PUT request that is sent. -/
  sent : Option PutRequest
  /-- A PUT request whose object is verified. -/
  verified : Option PutRequest

/-- Goes on without an effect. -/
def Phase.continue_ (phase : Phase) (inbox : Tables) : WorkerOutcome := ⟨phase, inbox, none, none⟩

/-- The key and type of an email's body, with its bytes: HTML first, then plain text. -/
def bodyObject (email : ReceivedEmail) (content : ProviderEmail) :
    Option (String × List UInt8 × String) :=
  match content.html.filter (· != "") with
  | some html => some ("emails/" ++ (email.resendEmailId ++ "/body.html"), bytesOf html, "text/html")
  | none => (content.text.filter (· != "")).map fun text =>
    ("emails/" ++ (email.resendEmailId ++ "/body.txt"), bytesOf text, "text/plain")

/-- The key of an attachment. -/
def attachmentKey (email : ReceivedEmail) (attachment : ReceivedEmailAttachment) : String :=
  "emails/" ++ (email.resendEmailId ++ "/attachments/" ++ attachment.resendAttachmentId)

/-- Where the provider has the bytes of an attachment, if it agrees about its metadata. -/
def downloadUrl (attachment : ReceivedEmailAttachment) (remote : List ProviderAttachment) :
    Option String :=
  (remote.find? fun metadata => metadata.id == attachment.resendAttachmentId).bind fun metadata =>
    if metadata.filename == attachment.filename &&
        metadata.contentType == attachment.contentType then metadata.downloadUrl else none

/-- The attachments of a claim that are not stored yet. -/
def ClaimedEmail.pending (claim : ClaimedEmail) : List (ℕ × ReceivedEmailAttachment) :=
  claim.attachments.filter fun entry => entry.2.processingState != .stored

/-- Goes on with the attachments once the body is recorded. -/
def Phase.bodyDone (claim : ClaimedEmail) : Phase :=
  if claim.pending.isEmpty then .complete claim else .list claim

/-- Starts processing a claimed email. -/
def Phase.start (claim : ClaimedEmail) : Phase :=
  if claim.email.2.bodyContentType.isNone then .process claim else .bodyDone claim

/-- Goes on with the next attachment. -/
def Phase.next (claim : ClaimedEmail) (remote : List ProviderAttachment) :
    List (ℕ × ReceivedEmailAttachment) → Phase
  | [] => .complete claim
  | entry :: rest =>
    if (downloadUrl entry.2 remote).isSome then .download claim entry rest remote
    else .giveUp claim entry.1 .permanent

/-- Goes on after an object could not be stored. -/
def Target.failed (claim : ClaimedEmail) (failure : WorkflowFailure) : Target → Phase
  | .body => .fail claim failure
  | .attachment entry _ _ => .giveUp claim entry.1 failure

/-- Goes on after an object is recorded. -/
def Target.recorded (claim : ClaimedEmail) : Target → Phase
  | .body => .bodyDone claim
  | .attachment _ rest remote => .next claim remote rest

/-- Records a verified object for what it was put for. -/
def Target.record (claim : ClaimedEmail) (request : PutRequest) (updatedAt : String)
    (inbox : Tables) : Target → InboxResult Tables
  | .body =>
    recordBody claim.email.1 claim.leaseToken (some request.objectKey) request.contentType
      updatedAt inbox
  | .attachment entry _ _ =>
    markAttachmentStored claim.email.1 entry.1 claim.leaseToken request.objectKey
      request.body.length inbox

/-- Starts processing when a claim acquired the lease. -/
def WorkerOutcome.ofClaim (inbox : Tables) (claim : InboxResult (ClaimOutcome × Tables)) :
    WorkerOutcome :=
  match claim with
  | .ok (.acquired claim, claimed) => (Phase.start claim).continue_ claimed
  | .ok (_, claimed) => Phase.idle.continue_ claimed
  | .error _ => Phase.idle.continue_ inbox

/-- Goes on with what a statement committed, or elsewhere when it failed. -/
def WorkerOutcome.executed (inbox : Tables) (result : InboxResult Tables) (done failed : Phase) :
    WorkerOutcome :=
  match result with
  | .ok committed => done.continue_ committed
  | .error _ => failed.continue_ inbox

/-- What the content of an email leads to. -/
def Phase.fetched (claim : ClaimedEmail) : Except ProviderError ProviderEmail → Phase
  | .error error => .fail claim (.provider error)
  | .ok content =>
    match bodyObject claim.email.2 content with
    | some (objectKey, body, contentType) => .put claim objectKey body contentType .body
    | none => .recordEmpty claim

/-- What the provider's list of attachments leads to. -/
def Phase.matched (claim : ClaimedEmail) : Except ProviderError (List ProviderAttachment) → Phase
  | .error error => .fail claim (.provider error)
  | .ok remote =>
    if (remote.map ProviderAttachment.id).Nodup then .next claim remote claim.pending
    else .fail claim .permanent

/-- What the bytes of an attachment lead to. -/
def Phase.fetchedAttachment (claim : ClaimedEmail) (entry : ℕ × ReceivedEmailAttachment)
    (rest : List (ℕ × ReceivedEmailAttachment)) (remote : List ProviderAttachment) :
    Except ProviderError AttachmentDownload → Phase
  | .error error => .giveUp claim entry.1 (.provider error)
  | .ok received =>
    if received.contentType == entry.2.contentType ||
        received.contentType == "application/octet-stream" then
      .put claim (attachmentKey claim.email.2 entry.2) received.bytes entry.2.contentType
        (.attachment entry rest remote)
    else .giveUp claim entry.1 .permanent

/-- The claim a worker processes within its time. -/
def Phase.processing : Phase → Option ClaimedEmail
  | .idle | .fail .. => none
  | .process claim | .put claim .. | .head claim .. | .record claim .. | .recordEmpty claim
  | .list claim | .download claim .. | .complete claim | .giveUp claim .. => some claim

/-- One step of a worker, given what the database and the store have then. -/
def Phase.step (platform : MediaPlatform) (inbox : Tables) (objects : ObjectStore) :
    Phase → WorkerInput → Option WorkerOutcome
  | .idle, .webhook draft leaseToken clock =>
    some (.ofClaim inbox (claimWebhook platform.toMailPlatform draft leaseToken clock inbox))
  | .idle, .retry emailId leaseToken clock =>
    some (.ofClaim inbox (claimRetry emailId leaseToken clock inbox))
  | .process claim, .content response => some ((Phase.fetched claim response).continue_ inbox)
  | .put claim objectKey body contentType target, .send =>
    match putRequest platform objectKey body contentType with
    | .ok request => some ⟨.head claim request target, inbox, some request, none⟩
    | .error error => some ((target.failed claim (.media error)).continue_ inbox)
  | .head claim request target, .headed =>
    match request.checkExisting (Media.head request.objectKey objects) with
    | .ok _ => some ⟨.record claim request target, inbox, none, some request⟩
    | .error error => some ((target.failed claim (.media error)).continue_ inbox)
  | .head claim _ target, .unavailable => some ((target.failed claim .transient).continue_ inbox)
  | .record claim request target, .execute updatedAt =>
    some (.executed inbox (target.record claim request updatedAt inbox) (target.recorded claim)
      (target.failed claim .transient))
  | .record claim _ target, .unavailable => some ((target.failed claim .transient).continue_ inbox)
  | .recordEmpty claim, .execute updatedAt =>
    some (.executed inbox
      (recordBody claim.email.1 claim.leaseToken none "text/plain" updatedAt inbox)
      (.bodyDone claim) (.fail claim .transient))
  | .recordEmpty claim, .unavailable => some ((Phase.fail claim .transient).continue_ inbox)
  | .list claim, .listed response => some ((Phase.matched claim response).continue_ inbox)
  | .download claim entry rest remote, .downloaded response =>
    some ((Phase.fetchedAttachment claim entry rest remote response).continue_ inbox)
  | .complete claim, .execute updatedAt =>
    some (.executed inbox
      ((Inbox.complete claim.email.1 claim.leaseToken updatedAt inbox).map Prod.snd)
      .idle (.fail claim .transient))
  | .complete claim, .unavailable => some ((Phase.fail claim .transient).continue_ inbox)
  -- Whether the failure of an attachment could be recorded makes no difference.
  | .giveUp claim attachmentId failure, .execute _ =>
    some (.executed inbox (markAttachmentError claim.email.1 attachmentId claim.leaseToken inbox)
      (.fail claim failure) (.fail claim failure))
  | .giveUp claim _ failure, .unavailable => some ((Phase.fail claim failure).continue_ inbox)
  | .fail claim failure, .execute updatedAt =>
    some (.executed inbox
      (Inbox.fail claim.email.1 claim.leaseToken failure.publicError updatedAt inbox) .idle .idle)
  | .fail _ _, .unavailable => some (Phase.idle.continue_ inbox)
  | phase, .timeout => phase.processing.map fun claim =>
    (Phase.fail claim .transient).continue_ inbox
  | _, .crash => some (Phase.idle.continue_ inbox)
  | _, _ => none

end FinStream.Inbox
