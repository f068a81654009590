import FinStream.Inbox.Repository
import FinStream.Store.Key
import FinStream.Store.Transition

/-! Runs of the inbox: the requests workers make, and everything a request can change. -/

namespace FinStream.Inbox

open Store Relation

/-- What requests may do beyond claiming and finishing. -/
structure Permits where
  /-- The emails that may receive new attachments. -/
  extend : ReceivedEmail → Prop
  /-- The objects and types that may be recorded as bodies. -/
  body : Option String → String → Prop
  /-- The objects and sizes that may be recorded for an attachment. -/
  object : ℕ → String → ℤ → Prop

/-- Everything is permitted. -/
def Permits.all : Permits := ⟨fun _ => True, fun _ _ => True, fun _ _ _ => True⟩

/-- Nothing may be recorded. -/
def Permits.none : Permits := ⟨fun _ => True, fun _ _ => False, fun _ _ _ => False⟩

/-- Everything one permitted request can change. -/
inductive Change (permits : Permits) (before : Tables) : Tables → Prop
  /-- A new email is recorded as pending. -/
  | received (email : ReceivedEmail) (pending : email.processingState = .pending)
      (empty : email.bodyS3Key = none)
      (new : ∀ id old, (id, old) ∈ before.emails → old.resendEmailId ≠ email.resendEmailId) :
      Change permits before { before with emails := before.emails.insert email }
  /-- A new attachment of a recorded email is recorded as pending. -/
  | attached (attachment : ReceivedEmailAttachment) (email : ReceivedEmail)
      (recorded : (attachment.emailId, email) ∈ before.emails) (allowed : permits.extend email)
      (pending : attachment.processingState = .pending)
      (typed : validateContentType attachment.contentType = .ok ⟨⟩) :
      Change permits before { before with attachments := before.attachments.insert attachment }
  /-- A stale lease is deleted. -/
  | expired (emailId : ℕ) (staleCutoff : String) :
      Change permits before (expireLease emailId staleCutoff before)
  /-- A worker takes the lease on an email that is not stored and starts an attempt. -/
  | claimed (email : ReceivedEmail) (lease : ProcessingLease) (updatedAt : String)
      (recorded : (lease.emailId, email) ∈ before.emails)
      (unfinished : email.processingState ≠ .stored)
      (free : ∀ id stored, (id, stored) ∈ before.leases → lease.conflicts stored = false) :
      Change permits before (startAttempt lease.emailId updatedAt
        { before with leases := before.leases.insert lease })
  /-- The owner of the lease records the body. -/
  | bodyRecorded (emailId : ℕ) (leaseToken : String) (objectKey : Option String)
      (contentType updatedAt : String) (allowed : permits.body objectKey contentType)
      (owned : leaseIsOwned emailId leaseToken before = true) :
      Change permits before
        { before with
          emails := before.emails.updateWhere (ReceivedEmail.isPending emailId)
            (.recordBody objectKey contentType updatedAt) }
  /-- The owner of the lease records an attachment that is not stored yet. -/
  | attachmentStored (emailId attachmentId : ℕ) (leaseToken objectKey : String) (sizeBytes : ℤ)
      (allowed : permits.object attachmentId objectKey sizeBytes)
      (owned : leaseIsOwned emailId leaseToken before = true) :
      Change permits before
        { before with
          attachments := before.attachments.updateWhere
            (ReceivedEmailAttachment.isOpen emailId attachmentId) (.store objectKey sizeBytes) }
  /-- The owner of the lease gives an attachment up. -/
  | attachmentFailed (emailId attachmentId : ℕ) (leaseToken : String)
      (owned : leaseIsOwned emailId leaseToken before = true) :
      Change permits before
        { before with
          attachments := before.attachments.updateWhere
            (ReceivedEmailAttachment.isPending emailId attachmentId) fun attachment =>
              { attachment with processingState := .error } }
  /-- The owner of the lease finishes an attempt that stored every attachment. -/
  | completed (emailId : ℕ) (leaseToken updatedAt : String)
      (owned : leaseIsOwned emailId leaseToken before = true)
      (whole : ∀ id attachment, (id, attachment) ∈ before.attachments →
        attachment.emailId = emailId → attachment.processingState = .stored) :
      Change permits before
        { before with
          emails := before.emails.updateWhere (ReceivedEmail.isPending emailId) (.store updatedAt)
          leases := before.leases.deleteWhere fun _ lease => lease.isOwned emailId leaseToken }
  /-- The owner of the lease finishes an attempt that failed. -/
  | failed (emailId : ℕ) (leaseToken publicError updatedAt : String)
      (owned : leaseIsOwned emailId leaseToken before = true) :
      Change permits before
        { before with
          emails := before.emails.updateWhere (ReceivedEmail.isPending emailId)
            (.fail publicError updatedAt)
          leases := before.leases.deleteWhere fun _ lease => lease.isOwned emailId leaseToken }

/-- A request of a worker, with the clock it reads. -/
inductive InboxOp where
  | claimWebhook (draft : InboundEmailDraft) (leaseToken : String) (clock : ClaimClock)
  | claimRetry (emailId : ℕ) (leaseToken : String) (clock : ClaimClock)
  | recordBody (emailId : ℕ) (leaseToken : String) (objectKey : Option String)
      (contentType updatedAt : String)
  | markAttachmentStored (emailId attachmentId : ℕ) (leaseToken objectKey : String)
      (sizeBytes : ℤ)
  | markAttachmentError (emailId attachmentId : ℕ) (leaseToken : String)
  | complete (emailId : ℕ) (leaseToken updatedAt : String)
  | fail (emailId : ℕ) (leaseToken publicError updatedAt : String)

/-- The tables a request commits, or the error it returns. -/
def InboxOp.run (platform : MailPlatform) (db : Tables) : InboxOp → InboxResult Tables
  | .claimWebhook draft leaseToken clock =>
    (Inbox.claimWebhook platform draft leaseToken clock db).map Prod.snd
  | .claimRetry emailId leaseToken clock =>
    (Inbox.claimRetry emailId leaseToken clock db).map Prod.snd
  | .recordBody emailId leaseToken objectKey contentType updatedAt =>
    Inbox.recordBody emailId leaseToken objectKey contentType updatedAt db
  | .markAttachmentStored emailId attachmentId leaseToken objectKey sizeBytes =>
    Inbox.markAttachmentStored emailId attachmentId leaseToken objectKey sizeBytes db
  | .markAttachmentError emailId attachmentId leaseToken =>
    Inbox.markAttachmentError emailId attachmentId leaseToken db
  | .complete emailId leaseToken updatedAt =>
    (Inbox.complete emailId leaseToken updatedAt db).map Prod.snd
  | .fail emailId leaseToken publicError updatedAt =>
    Inbox.fail emailId leaseToken publicError updatedAt db

/-- The tables after a request: those it committed, or the old ones when it returned an error. -/
def InboxOp.after (platform : MailPlatform) (db : Tables) (op : InboxOp) : Tables :=
  (op.run platform db).toOption.getD db

section Requests

variable {platform : MailPlatform} {permits : Permits} {before after : Tables}

/-- Whether an attachment with a provider's id is recorded for an email. -/
def Names (db : Tables) (emailId : ℕ) (providerId : String) : Prop :=
  ∃ id attachment, (id, attachment) ∈ db.attachments ∧ attachment.isFor emailId providerId = true

/-- Naming an attachment either finds its row or adds a pending one. -/
theorem upsertAttachment_ok {emailId : ℕ} {createdAt : String} {draft : InboundAttachmentDraft}
    (done : upsertAttachment emailId createdAt before draft = .ok after) :
    (after = before ∧ Names before emailId draft.resendAttachmentId) ∨
    (after = { before with attachments := before.attachments.insert (draft.row emailId createdAt) } ∧
      ¬ Names before emailId draft.resendAttachmentId ∧
      validateContentType draft.contentType = .ok ⟨⟩) := by
  simp only [upsertAttachment, validateAttachmentDraft, bind_eq_ok, required_eq_ok, ensure_eq_ok,
    pure_eq_ok] at done
  obtain ⟨_, ⟨_, -, _, -, typed⟩, _, -, _, -, rfl⟩ := done
  rcases before.attachments.insertOrIgnore_cases
      (fun _ row => row.isFor emailId draft.resendAttachmentId) (draft.row emailId createdAt) with
    ⟨same, id, old, stored, named⟩ | ⟨added, absent⟩
  · -- A row is there, so the table stays.
    exact .inl ⟨by rw [same], id, old, stored, named⟩
  · refine .inr ⟨by rw [added], fun named => ?_, typed⟩
    obtain ⟨id, old, stored, named⟩ := named
    rw [absent id old stored] at named
    cases named

/-- A new attachment row is the one its draft names. -/
theorem InboundAttachmentDraft.row_isFor (draft : InboundAttachmentDraft) (emailId : ℕ)
    (createdAt : String) :
    (draft.row emailId createdAt).isFor emailId draft.resendAttachmentId = true := by
  simp [row, ReceivedEmailAttachment.isFor]

/-- What naming several attachments of an email leaves. -/
structure Upserts (emailId : ℕ) (drafts : List InboundAttachmentDraft) (before after : Tables) :
    Prop where
  emails : after.emails = before.emails
  leases : after.leases = before.leases
  /-- Recorded attachments stay as they are. -/
  kept : ∀ entry, entry ∈ before.attachments → entry ∈ after.attachments
  /-- Every other attachment is pending. -/
  fresh : ∀ id attachment, (id, attachment) ∈ after.attachments →
    (id, attachment) ∈ before.attachments ∨ attachment.processingState = .pending
  /-- Every named attachment is recorded. -/
  named : ∀ draft ∈ drafts, Names after emailId draft.resendAttachmentId

/-- Naming several attachments records each of them. -/
theorem upsertAttachments_ok {emailId : ℕ} {createdAt : String}
    {drafts : List InboundAttachmentDraft}
    (done : drafts.foldlM (upsertAttachment emailId createdAt) before = .ok after) :
    Upserts emailId drafts before after := by
  induction drafts generalizing before with
  | nil =>
    -- Nothing is named.
    cases done
    exact ⟨rfl, rfl, fun _ => id, fun _ _ => .inl, by simp⟩
  | cons draft rest ih =>
    rw [List.foldlM_cons, bind_eq_ok] at done
    obtain ⟨middle, first, others⟩ := done
    have later := ih others
    -- What the first draft names is still named after the others.
    have named : ∀ {id : String}, Names middle emailId id → Names after emailId id :=
      fun ⟨id, row, stored, isFor⟩ => ⟨id, row, later.kept _ stored, isFor⟩
    rcases upsertAttachment_ok first with ⟨rfl, there⟩ | ⟨rfl, -, -⟩
    · refine ⟨later.emails, later.leases, later.kept, later.fresh, fun other member => ?_⟩
      rcases List.mem_cons.mp member with rfl | member
      · exact named there
      · exact later.named other member
    · refine ⟨later.emails, later.leases, fun entry stored => ?_, fun id attachment stored => ?_,
        fun other member => ?_⟩
      · exact later.kept entry (Table.mem_insert.mpr (.inl stored))
      · -- A row that was not there before is the first new one or a later one.
        rcases later.fresh id attachment stored with old | pending
        · rcases Table.mem_insert.mp old with old | new
          · exact .inl old
          · cases new
            exact .inr rfl
        · exact .inr pending
      · rcases List.mem_cons.mp member with rfl | member
        · exact named ⟨_, _, Table.mem_insert.mpr (.inr rfl), other.row_isFor emailId createdAt⟩
        · exact later.named other member

/-- Naming attachments of an extendable email is a sequence of changes. -/
theorem upsertAttachments_changes {email : ℕ × ReceivedEmail} {createdAt : String}
    {drafts : List InboundAttachmentDraft} (recorded : email ∈ before.emails)
    (allowed : permits.extend email.2)
    (done : drafts.foldlM (upsertAttachment email.1 createdAt) before = .ok after) :
    ReflTransGen (Change permits) before after := by
  -- The email stays recorded along the fold, so each new row is one of an extendable email.
  refine (foldlM_ok_induction done
    (fun db => db.emails = before.emails ∧ ReflTransGen (Change permits) before db)
    ⟨rfl, .refl⟩ fun draft _ now next kept step => ?_).2
  rcases upsertAttachment_ok step with ⟨rfl, -⟩ | ⟨rfl, -, typed⟩
  · exact kept
  · refine ⟨kept.1, kept.2.tail (.attached (draft.row email.1 createdAt) email.2 ?_ allowed rfl
      typed)⟩
    rw [kept.1]
    exact recorded

/-- Naming only recorded attachments changes nothing. -/
theorem upsertAttachments_replayed {emailId : ℕ} {createdAt : String}
    {drafts : List InboundAttachmentDraft}
    (named : ∀ draft ∈ drafts, Names before emailId draft.resendAttachmentId)
    (done : drafts.foldlM (upsertAttachment emailId createdAt) before = .ok after) :
    after = before := by
  refine foldlM_ok_induction done (fun db => db = before) rfl ?_
  intro draft member now next same step
  subst same
  rcases upsertAttachment_ok step with ⟨rfl, -⟩ | ⟨-, absent, -⟩
  · rfl
  · exact absurd (named draft member) absent

/-- Claiming an email that is stored commits nothing. -/
theorem claimOn_stored {email : ℕ × ReceivedEmail} {leaseToken : String} {clock : ClaimClock}
    {outcome : ClaimOutcome} (stored : email.2.processingState = .stored)
    (done : claimOn email leaseToken clock before = .ok (outcome, after)) :
    outcome = .alreadyStored email ∧ after = before := by
  simp only [claimOn, stored, beq_self_eq_true, if_true, pure_eq_ok, Prod.mk.injEq] at done
  exact ⟨done.1.symm, done.2.symm⟩

/-- Claiming an email deletes a stale lease, and may then take the lease and start an attempt. -/
theorem claimOn_changes {email : ℕ × ReceivedEmail} {leaseToken : String} {clock : ClaimClock}
    {outcome : ClaimOutcome} (recorded : email ∈ before.emails)
    (done : claimOn email leaseToken clock before = .ok (outcome, after)) :
    ReflTransGen (Change permits) before after := by
  unfold claimOn at done
  split at done
  · -- The email is stored already.
    cases done
    exact .refl
  · rename_i unfinished
    have expires : ReflTransGen (Change permits) before
        (expireLease email.1 clock.staleCutoff before) := .single (.expired _ _)
    dsimp only at done
    split at done
    · -- Another worker holds the lease.
      cases done
      exact expires
    · rename_i absent
      simp only [bind_eq_ok, required_eq_ok, pure_eq_ok, Prod.mk.injEq] at done
      obtain ⟨_, -, -, rfl⟩ := done
      refine expires.tail (.claimed email.2
        { emailId := email.1, leaseToken, claimedAt := clock.claimedAt } _ recorded ?_ ?_)
      · simpa using unfinished
      · exact fun _ _ => Table.find?_none absent

/-- Recording the email of a webhook is a change or none. -/
theorem insertEmail_changes (draft : InboundEmailDraft) (createdAt : String) :
    ReflTransGen (Change permits) before (insertEmail platform draft createdAt before) := by
  unfold insertEmail
  split
  · rcases before.emails.insertOrIgnore_cases
        (fun _ email => email.resendEmailId == draft.resendEmailId) (draft.row createdAt) with
      ⟨same, -⟩ | ⟨added, absent⟩
    · rw [same]
    · rw [added]
      refine .single (.received (draft.row createdAt) rfl rfl fun id old stored same => ?_)
      have := absent id old stored
      simp [same, InboundEmailDraft.row] at this
  · exact .refl

/-- A successful webhook, taken apart. -/
theorem claimWebhook_ok {draft : InboundEmailDraft} {leaseToken : String} {clock : ClaimClock}
    {outcome : ClaimOutcome}
    (done : claimWebhook platform draft leaseToken clock before = .ok (outcome, after)) :
    ∃ email upserted,
      email ∈ (insertEmail platform draft clock.createdAt before).emails ∧
      email.2.resendEmailId = draft.resendEmailId ∧
      draft.attachments.foldlM (upsertAttachment email.1 clock.createdAt)
        (insertEmail platform draft clock.createdAt before) = .ok upserted ∧
      claimOn email leaseToken clock upserted = .ok (outcome, after) := by
  simp only [claimWebhook, bind_eq_ok, required_eq_ok] at done
  obtain ⟨_, -, _, -, email, found, _, -, upserted, named, claimed⟩ := done
  obtain ⟨recorded, same⟩ := Table.find?_some found
  exact ⟨email, upserted, recorded, by simpa using same, named, claimed⟩

/-- A worker that owns the lease on an email has a row in the lease table. -/
theorem leaseIsOwned_iff {emailId : ℕ} {leaseToken : String} :
    leaseIsOwned emailId leaseToken before = true ↔
      ∃ id lease, (id, lease) ∈ before.leases ∧ lease.emailId = emailId ∧
        lease.leaseToken = leaseToken := by
  unfold leaseIsOwned
  constructor
  · intro owned
    obtain ⟨⟨id, lease⟩, found⟩ := Option.isSome_iff_exists.mp owned
    obtain ⟨stored, isOwned⟩ := Table.find?_some found
    refine ⟨id, lease, stored, ?_⟩
    simpa [ProcessingLease.isOwned] using isOwned
  · rintro ⟨id, lease, stored, rfl, rfl⟩
    -- Finding nothing would mean that this row does not match.
    cases found : before.leases.find? fun _ other => other.isOwned lease.emailId lease.leaseToken with
    | none =>
      have := Table.find?_none found stored
      simp [ProcessingLease.isOwned] at this
    | some entry => rfl

/-- What a request needs permission for. -/
def InboxOp.Within (platform : MailPlatform) (permits : Permits) (before : Tables) : InboxOp → Prop
  | .claimWebhook draft _ clock => ∀ email upserted,
    email ∈ (insertEmail platform draft clock.createdAt before).emails →
    email.2.resendEmailId = draft.resendEmailId →
    draft.attachments.foldlM (upsertAttachment email.1 clock.createdAt)
      (insertEmail platform draft clock.createdAt before) = .ok upserted →
    permits.extend email.2 ∨ (email.2.processingState = .stored ∧
      upserted = insertEmail platform draft clock.createdAt before)
  | .recordBody _ _ objectKey contentType _ => permits.body objectKey contentType
  | .markAttachmentStored _ attachmentId _ objectKey sizeBytes =>
    permits.object attachmentId objectKey sizeBytes
  | _ => True

/-- Every request has permission when everything is permitted. -/
theorem InboxOp.within_all (op : InboxOp) : op.Within platform .all before := by
  cases op with
  | claimWebhook draft leaseToken clock => exact fun _ _ _ _ _ => .inl trivial
  | _ => exact trivial

/-- Every request is a sequence of permitted changes. -/
theorem InboxOp.run_changes {op : InboxOp} (allowed : op.Within platform permits before)
    (done : op.run platform before = .ok after) :
    ReflTransGen (Change permits) before after := by
  cases op with
  | claimWebhook draft leaseToken clock =>
    obtain ⟨⟨outcome, _⟩, claimed, rfl⟩ := map_eq_ok.mp done
    obtain ⟨email, upserted, recorded, same, named, claimed⟩ := claimWebhook_ok claimed
    have inserts : ReflTransGen (Change permits) before
        (insertEmail platform draft clock.createdAt before) :=
      insertEmail_changes draft clock.createdAt
    rcases allowed email upserted recorded same named with
      extends_ | ⟨stored, rfl⟩
    · have upserts := upsertAttachments_changes recorded extends_ named
      refine (inserts.trans upserts).trans (claimOn_changes ?_ claimed)
      rw [(upsertAttachments_ok named).emails]
      exact recorded
    · -- A stored email is reported and left alone.
      obtain ⟨-, rfl⟩ := claimOn_stored stored claimed
      exact inserts
  | claimRetry emailId leaseToken clock =>
    obtain ⟨⟨outcome, _⟩, claimed, rfl⟩ := map_eq_ok.mp done
    simp only [Inbox.claimRetry, bind_eq_ok, required_eq_ok, Table.get?_eq_some] at claimed
    obtain ⟨_, -, _, -, email, recorded, claimed⟩ := claimed
    exact claimOn_changes recorded claimed
  | recordBody emailId leaseToken objectKey contentType updatedAt =>
    simp only [run, Inbox.recordBody, bind_eq_ok, ensure_eq_ok, pure_eq_ok, Bool.and_eq_true] at done
    obtain ⟨_, -, _, -, _, -, _, ⟨-, owned⟩, rfl⟩ := done
    exact .single (.bodyRecorded emailId leaseToken objectKey contentType updatedAt allowed
      owned)
  | markAttachmentStored emailId attachmentId leaseToken objectKey sizeBytes =>
    simp only [run, Inbox.markAttachmentStored, bind_eq_ok] at done
    obtain ⟨_, -, _, -, done⟩ := done
    split at done
    · rename_i open_
      rw [Bool.and_eq_true] at open_
      cases done
      exact .single (.attachmentStored emailId attachmentId leaseToken _ _ allowed open_.2)
    · -- The same record was made before.
      simp only [bind_eq_ok, pure_eq_ok] at done
      obtain ⟨_, -, _, -, _, -, rfl⟩ := done
      exact .refl
  | markAttachmentError emailId attachmentId leaseToken =>
    simp only [run, Inbox.markAttachmentError, bind_eq_ok, ensure_eq_ok, pure_eq_ok,
      Bool.and_eq_true] at done
    obtain ⟨_, -, _, ⟨-, owned⟩, rfl⟩ := done
    exact .single (.attachmentFailed emailId attachmentId leaseToken owned)
  | complete emailId leaseToken updatedAt =>
    obtain ⟨⟨email, _⟩, completed, rfl⟩ := map_eq_ok.mp done
    simp only [Inbox.complete, finishEmail, deleteOwnedLease, requireOwnedLease, bind_eq_ok,
      ensure_eq_ok, required_eq_ok, pure_eq_ok, Prod.mk.injEq, beq_iff_eq,
      Table.count_eq_zero] at completed
    obtain ⟨_, -, _, owned, _, whole, _, ⟨_, -, rfl⟩, _, ⟨_, -, rfl⟩, _, -, -, rfl⟩ := completed
    refine .single (.completed emailId leaseToken updatedAt owned fun id attachment stored of => ?_)
    simpa [of] using whole id attachment stored
  | fail emailId leaseToken publicError updatedAt =>
    simp only [run, Inbox.fail, finishEmail, deleteOwnedLease, requireOwnedLease, bind_eq_ok,
      ensure_eq_ok, pure_eq_ok] at done
    obtain ⟨_, -, _, -, _, owned, _, ⟨_, -, rfl⟩, _, -, rfl⟩ := done
    exact .single (.failed emailId leaseToken publicError updatedAt owned)

end Requests

/-- Every interleaving of the requests of any number of workers. -/
def inboxSystem (platform : MailPlatform) : System Tables InboxOp where
  init db := db = .empty
  step op before after := after = op.after platform before

/-- The same requests, one after the other. -/
def playInbox (platform : MailPlatform) (ops : List InboxOp) : Tables :=
  ops.foldl (fun db op => op.after platform db) .empty

/-- What a sequence of requests leads to is reachable. -/
theorem playInbox_reachable (platform : MailPlatform) (ops : List InboxOp) :
    (inboxSystem platform).Reachable (playInbox platform ops) := by
  -- The induction is on the requests, from any reachable start.
  have general : ∀ db, (inboxSystem platform).Reachable db →
      (inboxSystem platform).Reachable (ops.foldl (fun db op => op.after platform db) db) := by
    induction ops with
    | nil => exact fun _ reached => reached
    | cons op rest ih => exact fun db reached => ih _ (reached.step rfl)
  exact general _ (.init rfl)

/-- A platform on which every text is well formed and one recipient list is read. -/
def plainMail : MailPlatform where
  toPlatform := plainPlatform
  recipients text :=
    if text = "[\"inbox@example.com\"]" then some (.array [some "inbox@example.com"]) else none

/-- A webhook about one email, naming the given attachments. -/
def inboundMail (attachments : List InboundAttachmentDraft) : InboundEmailDraft where
  resendEmailId := "email_1"
  fromAddress := "sender@example.com"
  toAddresses := "[\"inbox@example.com\"]"
  subject := none
  receivedAt := "2026-07-01T12:00:00.000Z"
  rawWebhookPayload := "{}"
  attachments := attachments

/-- The clock of a claim made two minutes after the cutoff. -/
def claimClock : ClaimClock where
  createdAt := "2026-07-01T12:00:00.000Z"
  staleCutoff := "2026-07-01T11:58:00.000Z"
  claimedAt := "2026-07-01T12:00:00.000Z"
  updatedAt := "2026-07-01T12:00:00.000Z"

end FinStream.Inbox
