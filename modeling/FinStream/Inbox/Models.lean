import FinStream.Finance.Models
import FinStream.Store.Transaction

/-! The inbox records: received emails, their attachments, and the leases of their workers. -/

namespace FinStream.Inbox

open Store

/-- The life of a received email or attachment. -/
inductive ProcessingState where
  | pending
  | stored
  | error
  deriving DecidableEq

/-- A row of `intg_received_email`. -/
structure ReceivedEmail where
  resendEmailId : String
  fromAddress : String
  toAddresses : String
  subject : Option String
  receivedAt : String
  bodyS3Key : Option String
  bodyContentType : Option String
  loanAccount : Option String
  processingState : ProcessingState
  errorMessage : Option String
  rawWebhookPayload : Option String
  createdAt : String
  updatedAt : String
  deriving DecidableEq

/-- A row of `intg_received_email_attachment`. -/
structure ReceivedEmailAttachment where
  emailId : ℕ
  resendAttachmentId : String
  filename : String
  contentType : String
  sizeBytes : Option ℤ
  s3Key : Option String
  processingState : ProcessingState
  createdAt : String
  deriving DecidableEq

/-- A row of `intg_received_email_processing_lease`. -/
structure ProcessingLease where
  emailId : ℕ
  leaseToken : String
  claimedAt : String
  deriving DecidableEq

/-- The inbox tables. -/
structure Tables where
  emails : Table ReceivedEmail
  attachments : Table ReceivedEmailAttachment
  leases : Table ProcessingLease
  deriving DecidableEq

/-- The tables of a fresh schema. -/
def Tables.empty : Tables := ⟨.empty, .empty, .empty⟩

/-- What a webhook says about an attachment. -/
structure InboundAttachmentDraft where
  resendAttachmentId : String
  filename : String
  contentType : String
  deriving DecidableEq

/-- What a webhook says about an email. -/
structure InboundEmailDraft where
  resendEmailId : String
  fromAddress : String
  toAddresses : String
  subject : Option String
  receivedAt : String
  rawWebhookPayload : String
  attachments : List InboundAttachmentDraft
  deriving DecidableEq

/-- An email a worker may process, as it was stored when the worker claimed it. -/
structure ClaimedEmail where
  email : ℕ × ReceivedEmail
  attachments : List (ℕ × ReceivedEmailAttachment)
  leaseToken : String
  deriving DecidableEq

/-- How a claim ends. -/
inductive ClaimOutcome where
  | acquired (claim : ClaimedEmail)
  | alreadyStored (email : ℕ × ReceivedEmail)
  | busy (email : ℕ × ReceivedEmail)
  deriving DecidableEq

/-- Errors of the inbox. -/
inductive InboxError where
  | validation (message : String)
  | notFound (message : String)
  | conflict (message : String)
  | storage (message : String)
  deriving DecidableEq

/-- An inbox transaction: an error that rolls back, or a result. -/
abbrev InboxResult (α : Type) := Except InboxError α

/-- What the program reads of a parsed JSON value: the texts in an array, or something else. -/
inductive RecipientList where
  | array (items : List (Option String))
  | other
  deriving DecidableEq

/-- The program's platform with its reading of a recipient list. -/
structure MailPlatform extends Platform where
  /-- The JSON value a text parses as. -/
  recipients : String → Option RecipientList

/-- The bytes a provider id or a lease token is made of. -/
def isToken (value : String) : Bool :=
  value.toList.all fun character =>
    character.isAlphanum || character == '-' || character == '_'

/-- Refuses a provider id that is empty, too long, or has other bytes. -/
def validateProviderId (label value : String) : InboxResult Unit :=
  ensure (value != "" && value.utf8ByteSize ≤ 128 && isToken value)
    (.validation s!"{label} is invalid")

/-- Refuses text that is blank, too long, or has a NUL. -/
def validateText (label value : String) (maxBytes : ℕ) : InboxResult Unit :=
  ensure (!isBlank value && value.utf8ByteSize ≤ maxBytes && !value.toList.contains '\x00')
    (.validation s!"{label} is invalid")

/-- Refuses anything but a media type without parameters. -/
def validateContentType (value : String) : InboxResult Unit :=
  ensure (!isBlank value && value.utf8ByteSize ≤ 255 && value == trim value &&
    !value.toList.any isControl && value.toList.count '/' == 1 &&
    value.toList.all fun character => character.isAlphanum ||
      ['/', '!', '#', '$', '&', '^', '_', '.', '+', '-'].contains character)
    (.validation "content type is invalid")

/-- Refuses a lease token that is too short, too long, or has other bytes. -/
def validateLeaseToken (value : String) : InboxResult Unit :=
  ensure (32 ≤ value.utf8ByteSize && value.utf8ByteSize ≤ 128 && isToken value)
    (.validation "processing lease token is invalid")

/-- Refuses an attachment with an invalid id, filename or content type. -/
def validateAttachmentDraft (draft : InboundAttachmentDraft) : InboxResult Unit := do
  validateProviderId "provider attachment id" draft.resendAttachmentId
  validateText "attachment filename" draft.filename 512
  validateContentType draft.contentType

/-- Whether the recipients of an email are between one and a hundred addresses. -/
def recipientsFit (items : List (Option String)) : Bool :=
  !items.isEmpty && items.length ≤ 100 &&
    items.all fun item => item.any fun value => value != "" && value.utf8ByteSize ≤ 1024

/-- Whether the subject, payload and attachment count of an email fit the inbox. -/
def metadataFits (platform : MailPlatform) (draft : InboundEmailDraft) : Bool :=
  (draft.subject.all fun value =>
    value.utf8ByteSize ≤ 2048 && !value.toList.contains '\x00') &&
  draft.rawWebhookPayload != "" && draft.rawWebhookPayload.utf8ByteSize ≤ 256 * 1024 &&
  platform.jsonValid draft.rawWebhookPayload && draft.attachments.length ≤ 64

/-- Refuses an email with invalid metadata, recipients or attachments. -/
def validateEmailDraft (platform : MailPlatform) (draft : InboundEmailDraft) :
    InboxResult Unit := do
  validateProviderId "provider email id" draft.resendEmailId
  validateText "sender" draft.fromAddress 1024
  validateText "received timestamp" draft.receivedAt 128
  ensure (metadataFits platform draft) (.validation "inbound email metadata is invalid")
  match ← required (platform.recipients draft.toAddresses)
      (.validation "recipient list is invalid") with
  | .other => throw (.validation "recipient list is not an array")
  | .array items => ensure (recipientsFit items) (.validation "recipient list is invalid")
  draft.attachments.forM validateAttachmentDraft

end FinStream.Inbox
