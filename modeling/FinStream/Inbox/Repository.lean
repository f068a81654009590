import FinStream.Inbox.Models

/-! The transactions by which workers claim, process and finish received emails. -/

namespace FinStream.Inbox

open Store

/-- What the clock shows to the statements of a claim. -/
structure ClaimClock where
  /-- When the email and its attachments are inserted. -/
  createdAt : String
  /-- Two minutes before the stale leases are looked for. -/
  staleCutoff : String
  /-- When the lease is inserted. -/
  claimedAt : String
  /-- When the email becomes pending. -/
  updatedAt : String
  deriving DecidableEq

/-- The row a webhook inserts for its email. -/
def InboundEmailDraft.row (draft : InboundEmailDraft) (createdAt : String) : ReceivedEmail where
  resendEmailId := draft.resendEmailId
  fromAddress := draft.fromAddress
  toAddresses := draft.toAddresses
  subject := draft.subject
  receivedAt := draft.receivedAt
  bodyS3Key := none
  bodyContentType := none
  loanAccount := none
  processingState := .pending
  errorMessage := none
  rawWebhookPayload := some draft.rawWebhookPayload
  createdAt := createdAt
  updatedAt := createdAt

/-- The row a webhook inserts for an attachment. -/
def InboundAttachmentDraft.row (draft : InboundAttachmentDraft) (emailId : ℕ)
    (createdAt : String) : ReceivedEmailAttachment where
  emailId := emailId
  resendAttachmentId := draft.resendAttachmentId
  filename := draft.filename
  contentType := draft.contentType
  sizeBytes := none
  s3Key := none
  processingState := .pending
  createdAt := createdAt

/-- Whether a row is the attachment with a provider's id in an email. -/
def ReceivedEmailAttachment.isFor (emailId : ℕ) (providerId : String)
    (attachment : ReceivedEmailAttachment) : Bool :=
  attachment.emailId == emailId && attachment.resendAttachmentId == providerId

/-- Whether a row is the lease a worker holds on an email. -/
def ProcessingLease.isOwned (emailId : ℕ) (leaseToken : String) (lease : ProcessingLease) : Bool :=
  lease.emailId == emailId && lease.leaseToken == leaseToken

/-- Whether a row of the lease table keeps another one out of its unique columns. -/
def ProcessingLease.conflicts (lease stored : ProcessingLease) : Bool :=
  stored.emailId == lease.emailId || stored.leaseToken == lease.leaseToken

/-- Whether a worker holds the lease on an email. -/
def leaseIsOwned (emailId : ℕ) (leaseToken : String) (db : Tables) : Bool :=
  (db.leases.find? fun _ lease => lease.isOwned emailId leaseToken).isSome

/-- Refuses a worker that does not hold the lease on an email. -/
def requireOwnedLease (emailId : ℕ) (leaseToken : String) (db : Tables) : InboxResult Unit :=
  ensure (leaseIsOwned emailId leaseToken db)
    (.conflict "inbound email processing lease is no longer owned")

/-- Releases the lease a worker holds on an email. -/
def deleteOwnedLease (emailId : ℕ) (leaseToken : String) (db : Tables) : InboxResult Tables := do
  ensure (db.leases.count (fun _ lease => lease.isOwned emailId leaseToken) == 1)
    (.conflict "inbound email processing lease changed before release")
  pure { db with leases := db.leases.deleteWhere fun _ lease => lease.isOwned emailId leaseToken }

/-- The attachments of an email in the order of their ids. -/
def attachments (emailId : ℕ) (db : Tables) : List (ℕ × ReceivedEmailAttachment) :=
  db.attachments.rows.filter fun entry => entry.2.emailId == emailId

/-- Stores an attachment the first time it is named and compares it every other time. -/
def upsertAttachment (emailId : ℕ) (createdAt : String) (db : Tables)
    (draft : InboundAttachmentDraft) : InboxResult Tables := do
  validateAttachmentDraft draft
  let named := fun (_ : ℕ) (row : ReceivedEmailAttachment) =>
    row.isFor emailId draft.resendAttachmentId
  let inserted := db.attachments.insertOrIgnore named (draft.row emailId createdAt)
  let (_, attachment) ← required (inserted.find? named)
    (.storage "inserted inbound email attachment disappeared")
  ensure (attachment.filename == draft.filename && attachment.contentType == draft.contentType)
    (.conflict "provider attachment id was replayed with different immutable metadata")
  pure { db with attachments := inserted }

/-- An email whose processing starts again. -/
def ReceivedEmail.restart (updatedAt : String) (email : ReceivedEmail) : ReceivedEmail :=
  { email with processingState := .pending, errorMessage := none, updatedAt := updatedAt }

/-- Starts a processing attempt: the email and its incomplete attachments become pending. -/
def startAttempt (emailId : ℕ) (updatedAt : String) (db : Tables) : Tables :=
  { db with
    emails := db.emails.updateWhere
      (fun id email => id == emailId &&
        (email.processingState == .pending || email.processingState == .error))
      (.restart updatedAt)
    attachments := db.attachments.updateWhere
      (fun _ attachment => attachment.emailId == emailId && attachment.processingState != .stored)
      fun attachment => { attachment with processingState := .pending } }

/-- Deletes the lease on an email when it is older than the cutoff. -/
def expireLease (emailId : ℕ) (staleCutoff : String) (db : Tables) : Tables :=
  { db with
    leases := db.leases.deleteWhere fun _ lease =>
      lease.emailId == emailId && lease.claimedAt ≤ staleCutoff }

/-- Takes the lease on an email that is not stored, unless another worker holds it. -/
def claimOn (email : ℕ × ReceivedEmail) (leaseToken : String) (clock : ClaimClock)
    (db : Tables) : InboxResult (ClaimOutcome × Tables) :=
  if email.2.processingState == .stored then pure (.alreadyStored email, db)
  else
    let db := expireLease email.1 clock.staleCutoff db
    let lease := { emailId := email.1, leaseToken, claimedAt := clock.claimedAt }
    match db.leases.find? fun _ stored => lease.conflicts stored with
    | some _ => pure (.busy email, db)
    | none => do
      let leased := { db with leases := db.leases.insert lease }
      let started := startAttempt email.1 clock.updatedAt leased
      let current ← required (started.emails.get? email.1)
        (.storage "claimed inbound email disappeared")
      pure (.acquired
        { email := (email.1, current), attachments := attachments email.1 started, leaseToken },
        started)

/-- Whether an email's immutable metadata is what a webhook says. -/
def InboundEmailDraft.agrees (draft : InboundEmailDraft) (email : ReceivedEmail) : Bool :=
  email.fromAddress == draft.fromAddress && email.toAddresses == draft.toAddresses &&
    email.subject == draft.subject && email.receivedAt == draft.receivedAt

/-- The table's CHECK on the time of reception, which validation does not imply. -/
def InboundEmailDraft.fits (platform : MailPlatform) (draft : InboundEmailDraft) : Bool :=
  20 ≤ draft.receivedAt.length && platform.datetimeValid draft.receivedAt

/-- Inserts the email of a webhook, unless it is stored already or a CHECK refuses it. -/
def insertEmail (platform : MailPlatform) (draft : InboundEmailDraft) (createdAt : String)
    (db : Tables) : Tables :=
  if draft.fits platform then
    { db with
      emails := db.emails.insertOrIgnore (fun _ email => email.resendEmailId == draft.resendEmailId)
        (draft.row createdAt) }
  else db

/-- Records what a webhook says about an email and claims the email for a worker. -/
def claimWebhook (platform : MailPlatform) (draft : InboundEmailDraft) (leaseToken : String)
    (clock : ClaimClock) (db : Tables) : InboxResult (ClaimOutcome × Tables) := do
  validateEmailDraft platform draft
  validateLeaseToken leaseToken
  let inserted := insertEmail platform draft clock.createdAt db
  let email ← required
    (inserted.emails.find? fun _ email => email.resendEmailId == draft.resendEmailId)
    (.storage "inserted inbound email metadata disappeared")
  ensure (draft.agrees email.2)
    (.conflict "provider email id was replayed with different immutable metadata")
  let upserted ← draft.attachments.foldlM (upsertAttachment email.1 clock.createdAt) inserted
  claimOn email leaseToken clock upserted

/-- Claims a stored email for another attempt. -/
def claimRetry (emailId : ℕ) (leaseToken : String) (clock : ClaimClock) (db : Tables) :
    InboxResult (ClaimOutcome × Tables) := do
  ensure (0 < emailId) (.validation "email id must be positive")
  validateLeaseToken leaseToken
  let email ← required (db.emails.get? emailId) (.notFound "inbox email")
  claimOn (emailId, email) leaseToken clock db

/-- Whether a row is an email that is being processed. -/
def ReceivedEmail.isPending (emailId id : ℕ) (email : ReceivedEmail) : Bool :=
  id == emailId && email.processingState == .pending

/-- Whether an object key can be stored. -/
def objectKeyFits (key : String) : Bool := key != "" && key.utf8ByteSize ≤ 1024

/-- An email whose body an object holds, or whose body is empty. -/
def ReceivedEmail.recordBody (objectKey : Option String) (contentType updatedAt : String)
    (email : ReceivedEmail) : ReceivedEmail :=
  { email with
    bodyS3Key := objectKey, bodyContentType := some contentType, updatedAt := updatedAt }

/-- Records the object that holds the body of an email. -/
def recordBody (emailId : ℕ) (leaseToken : String) (objectKey : Option String)
    (contentType updatedAt : String) (db : Tables) : InboxResult Tables := do
  validateLeaseToken leaseToken
  validateContentType contentType
  ensure (objectKey.all objectKeyFits) (.validation "email body object key is invalid")
  ensure ((db.emails.find? (ReceivedEmail.isPending emailId)).isSome &&
      leaseIsOwned emailId leaseToken db)
    (.conflict "inbound email processing lease is no longer owned")
  pure { db with
    emails := db.emails.updateWhere (ReceivedEmail.isPending emailId)
      (.recordBody objectKey contentType updatedAt) }

/-- Whether a row is an attachment of an email that is not stored yet. -/
def ReceivedEmailAttachment.isOpen (emailId attachmentId id : ℕ)
    (attachment : ReceivedEmailAttachment) : Bool :=
  id == attachmentId && attachment.emailId == emailId && attachment.processingState != .stored

/-- Whether an attachment is already stored as an attempt would store it. -/
def ReceivedEmailAttachment.isStoredAs (emailId : ℕ) (objectKey : String) (sizeBytes : ℤ)
    (attachment : ReceivedEmailAttachment) : Bool :=
  attachment.emailId == emailId && attachment.processingState == .stored &&
    attachment.s3Key == some objectKey && attachment.sizeBytes == some sizeBytes

/-- An attachment that an object holds. -/
def ReceivedEmailAttachment.store (objectKey : String) (sizeBytes : ℤ)
    (attachment : ReceivedEmailAttachment) : ReceivedEmailAttachment :=
  { attachment with
    processingState := .stored, s3Key := some objectKey, sizeBytes := some sizeBytes }

/-- Records the object that holds an attachment; repeating the same record is accepted. -/
def markAttachmentStored (emailId attachmentId : ℕ) (leaseToken objectKey : String)
    (sizeBytes : ℤ) (db : Tables) : InboxResult Tables := do
  validateLeaseToken leaseToken
  ensure (objectKeyFits objectKey && 0 ≤ sizeBytes)
    (.validation "stored attachment metadata is invalid")
  let isOpen := ReceivedEmailAttachment.isOpen emailId attachmentId
  if (db.attachments.find? isOpen).isSome && leaseIsOwned emailId leaseToken db then
    pure { db with
      attachments := db.attachments.updateWhere isOpen (.store objectKey sizeBytes) }
  else do
    requireOwnedLease emailId leaseToken db
    let attachment ← required (db.attachments.get? attachmentId)
      (.notFound "inbox email attachment")
    ensure (attachment.isStoredAs emailId objectKey sizeBytes)
      (.conflict "stored attachment metadata does not match this processing attempt")
    pure db

/-- Whether a row is an attachment of an email that is being processed. -/
def ReceivedEmailAttachment.isPending (emailId attachmentId id : ℕ)
    (attachment : ReceivedEmailAttachment) : Bool :=
  id == attachmentId && attachment.emailId == emailId && attachment.processingState == .pending

/-- Records that an attempt could not store an attachment. -/
def markAttachmentError (emailId attachmentId : ℕ) (leaseToken : String) (db : Tables) :
    InboxResult Tables := do
  validateLeaseToken leaseToken
  let isPending := ReceivedEmailAttachment.isPending emailId attachmentId
  ensure ((db.attachments.find? isPending).isSome && leaseIsOwned emailId leaseToken db)
    (.conflict "inbound email attachment or processing lease changed before failure")
  pure { db with
    attachments := db.attachments.updateWhere isPending fun attachment =>
      { attachment with processingState := .error } }

/-- UPDATE of an email that is being processed, which must be there. -/
def finishEmail (emailId : ℕ) (finish : ReceivedEmail → ReceivedEmail) (missing : String)
    (db : Tables) : InboxResult Tables := do
  ensure (db.emails.find? (ReceivedEmail.isPending emailId)).isSome (.conflict missing)
  pure { db with emails := db.emails.updateWhere (ReceivedEmail.isPending emailId) finish }

/-- An email whose attempt stored it. -/
def ReceivedEmail.store (updatedAt : String) (email : ReceivedEmail) : ReceivedEmail :=
  { email with processingState := .stored, errorMessage := none, updatedAt := updatedAt }

/-- Finishes an attempt that has stored every attachment. -/
def complete (emailId : ℕ) (leaseToken updatedAt : String) (db : Tables) :
    InboxResult ((ℕ × ReceivedEmail) × Tables) := do
  validateLeaseToken leaseToken
  requireOwnedLease emailId leaseToken db
  ensure (db.attachments.count (fun _ attachment =>
      attachment.emailId == emailId && attachment.processingState != .stored) == 0)
    (.conflict "inbound email still has incomplete attachments")
  let finished ← finishEmail emailId (.store updatedAt)
    "inbound email state changed before completion" db
  let released ← deleteOwnedLease emailId leaseToken finished
  let email ← required (released.emails.get? emailId)
    (.storage "completed inbound email disappeared")
  pure ((emailId, email), released)

/-- Whether a summary of a failure can be shown. -/
def errorSummaryFits (publicError : String) : Bool :=
  !isBlank publicError && publicError.utf8ByteSize ≤ 512 && !publicError.toList.any isControl

/-- An email whose attempt failed. -/
def ReceivedEmail.fail (publicError updatedAt : String) (email : ReceivedEmail) : ReceivedEmail :=
  { email with
    processingState := .error, errorMessage := some publicError, updatedAt := updatedAt }

/-- Finishes an attempt that could not store the email. -/
def fail (emailId : ℕ) (leaseToken publicError updatedAt : String) (db : Tables) :
    InboxResult Tables := do
  validateLeaseToken leaseToken
  ensure (errorSummaryFits publicError) (.validation "inbound email error summary is invalid")
  requireOwnedLease emailId leaseToken db
  let finished ← finishEmail emailId (.fail publicError updatedAt)
    "inbound email state changed before failure was recorded" db
  deleteOwnedLease emailId leaseToken finished

end FinStream.Inbox
