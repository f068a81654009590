import FinStream.Inbox.Processing

/-! When a stored email has all of its attachments stored. -/

namespace FinStream.Inbox

open Store Relation

/-- Every attachment of a stored email is stored and has an object key. -/
def FullyStored (db : Tables) : Prop :=
  ∀ emailId email id attachment, (emailId, email) ∈ db.emails → email.processingState = .stored →
    (id, attachment) ∈ db.attachments → attachment.emailId = emailId →
      attachment.processingState = .stored ∧ attachment.s3Key.isSome = true

/-- A webhook about a stored email names only attachments that are recorded for it. -/
def InboxOp.NamesRecorded (db : Tables) (op : InboxOp) : Prop :=
  ∀ draft leaseToken clock emailId email, op = .claimWebhook draft leaseToken clock →
    (emailId, email) ∈ db.emails → email.resendEmailId = draft.resendEmailId →
    email.processingState = .stored →
      ∀ attachment ∈ draft.attachments, Names db emailId attachment.resendAttachmentId

/-- What every change that extends no stored email keeps. -/
structure Whole (db : Tables) : Prop where
  /-- A provider's email id is stored once. -/
  keys : UniqueKey (fun email => some email.resendEmailId) db.emails
  /-- A stored attachment has an object key. -/
  located : ∀ id attachment, (id, attachment) ∈ db.attachments →
    attachment.processingState = .stored → attachment.s3Key.isSome = true
  /-- A stored email has only stored attachments. -/
  stored : ∀ emailId email id attachment, (emailId, email) ∈ db.emails →
    email.processingState = .stored → (id, attachment) ∈ db.attachments →
    attachment.emailId = emailId → attachment.processingState = .stored

/-- The invariant is the property with what its induction needs. -/
theorem Whole.fullyStored {db : Tables} (whole : Whole db) : FullyStored db :=
  fun emailId email id attachment recorded stored there of =>
    have done := whole.stored emailId email id attachment recorded stored there of
    ⟨done, whole.located id attachment there done⟩

/-- A fresh inbox is whole. -/
theorem Whole.empty : Whole .empty :=
  ⟨.empty _, fun _ _ there => absurd there (Table.not_mem_empty _),
    fun _ _ _ _ recorded => absurd recorded (Table.not_mem_empty _)⟩

/-- Stored emails may not receive attachments. -/
def Permits.unfinished : Permits := { Permits.all with extend := (·.processingState ≠ .stored) }

section Changes

variable {before after : Tables}

/-- An update that stores no email leaves stored only those that were. -/
theorem stored_before {emails : Table ReceivedEmail} {condition : ℕ → ReceivedEmail → Bool}
    {change : ReceivedEmail → ReceivedEmail}
    (opens : ∀ id email, condition id email = true → (change email).processingState ≠ .stored)
    {id : ℕ} {now : ReceivedEmail} (there : (id, now) ∈ emails.updateWhere condition change)
    (stored : now.processingState = .stored) : (id, now) ∈ emails := by
  obtain ⟨old, recorded, rfl⟩ := Table.mem_updateWhere.mp there
  -- The row was not changed, since a changed one is not stored.
  split at stored
  · exact absurd stored (opens id old ‹_›)
  · rw [if_neg ‹_›]
    exact recorded

/-- A pending email does not count as stored after its body is recorded. -/
theorem recordBody_opens {emailId : ℕ} {objectKey : Option String} {contentType updatedAt : String}
    (id : ℕ) (email : ReceivedEmail) (isPending : email.isPending emailId id = true) :
    (email.recordBody objectKey contentType updatedAt).processingState ≠ .stored := by
  simp only [ReceivedEmail.isPending, Bool.and_eq_true, beq_iff_eq] at isPending
  simp [ReceivedEmail.recordBody, isPending.2]

/-- Stored attachments keep their keys under an update that gives a key with the state. -/
theorem located_updateWhere {attachments : Table ReceivedEmailAttachment}
    {condition : ℕ → ReceivedEmailAttachment → Bool}
    {change : ReceivedEmailAttachment → ReceivedEmailAttachment}
    (located : ∀ id attachment, (id, attachment) ∈ attachments →
      attachment.processingState = .stored → attachment.s3Key.isSome = true)
    (kept : ∀ attachment, (change attachment).processingState = .stored →
      (change attachment).s3Key.isSome = true) {id : ℕ} {now : ReceivedEmailAttachment}
    (there : (id, now) ∈ attachments.updateWhere condition change)
    (stored : now.processingState = .stored) : now.s3Key.isSome = true := by
  obtain ⟨old, recorded, rfl⟩ := Table.mem_updateWhere.mp there
  split at stored
  · rw [if_pos ‹_›]
    exact kept old stored
  · rw [if_neg ‹_›]
    exact located id old recorded stored

/-- A change that stores no email and touches no attachment of a stored one keeps the inbox whole. -/
theorem Whole.keep (whole : Whole before)
    (keys : UniqueKey (fun email => some email.resendEmailId) after.emails)
    (located : ∀ id attachment, (id, attachment) ∈ after.attachments →
      attachment.processingState = .stored → attachment.s3Key.isSome = true)
    (emails : ∀ id email, (id, email) ∈ after.emails → email.processingState = .stored →
      (id, email) ∈ before.emails)
    (attachments : ∀ id attachment email, (id, attachment) ∈ after.attachments →
      (attachment.emailId, email) ∈ before.emails → email.processingState = .stored →
      attachment.processingState ≠ .stored → (id, attachment) ∈ before.attachments) :
    Whole after := by
  refine ⟨keys, located, fun emailId email id attachment recorded stored there of => ?_⟩
  have was := emails emailId email recorded stored
  by_contra unfinished
  -- The attachment would have been recorded before the change, when the email was whole.
  have old := attachments id attachment email there (of ▸ was) stored unfinished
  exact unfinished (whole.stored emailId email id attachment was stored old of)

/-- Every change that extends no stored email keeps the inbox whole. -/
theorem Change.whole (change : Change .unfinished before after)
    (whole : Whole before) : Whole after := by
  cases change with
  | received email pending empty new =>
    refine whole.keep ?_ whole.located (fun id now there stored => ?_)
      fun _ _ _ there _ _ _ => there
    · refine whole.keys.insert fun id old value recorded same again => ?_
      exact new id old recorded (Option.some.inj (same.trans again.symm))
    · rcases Table.mem_insert.mp there with old | fresh
      · exact old
      · -- The new email is pending.
        cases fresh
        rw [pending] at stored
        cases stored
  | attached attachment email recorded allowed pending typed =>
    refine whole.keep whole.keys (fun id now there stored => ?_) (fun _ _ there _ => there)
      fun id now other there of stored _ => ?_
    · rcases Table.mem_insert.mp there with old | fresh
      · exact whole.located id now old stored
      · cases fresh
        rw [pending] at stored
        cases stored
    · rcases Table.mem_insert.mp there with old | fresh
      · exact old
      · -- The new attachment belongs to an email that is not stored.
        cases fresh
        rw [Table.unique of recorded] at stored
        exact absurd stored allowed
  | expired emailId staleCutoff => exact ⟨whole.keys, whole.located, whole.stored⟩
  | claimed email lease updatedAt recorded unfinished free =>
    refine whole.keep (whole.keys.updateWhere fun _ _ _ _ => rfl)
      (fun id now there stored => ?_) (fun id now there stored => ?_)
      fun id now other there of stored unfinished_ => ?_
    · -- A reset attachment is pending, so a stored one was not reset.
      obtain ⟨old, was, rfl⟩ := Table.mem_updateWhere.mp there
      split at stored
      · cases stored
      · rw [if_neg ‹_›]
        exact whole.located id old was stored
    · exact stored_before (fun _ _ _ => by simp [ReceivedEmail.restart]) there stored
    · obtain ⟨old, was, rfl⟩ := Table.mem_updateWhere.mp there
      split at of
      · -- A reset attachment belongs to the claimed email, which is not stored.
        rename_i reset
        simp only [Bool.and_eq_true, beq_iff_eq] at reset
        rw [reset.1] at of
        rw [Table.unique of recorded] at stored
        exact absurd stored unfinished
      · rw [if_neg ‹_›]
        exact was
  | bodyRecorded emailId leaseToken objectKey contentType updatedAt allowed owned =>
    refine whole.keep (whole.keys.updateWhere fun _ _ _ _ => rfl) whole.located
      (fun id now there stored => ?_) fun _ _ _ there _ _ _ => there
    exact stored_before recordBody_opens there stored
  | attachmentStored emailId attachmentId leaseToken objectKey sizeBytes allowed owned =>
    refine whole.keep whole.keys (fun id now there stored => ?_) (fun _ _ there _ => there)
      fun id now other there of stored unfinished => ?_
    · exact located_updateWhere whole.located (fun _ _ => rfl) there stored
    · obtain ⟨old, was, rfl⟩ := Table.mem_updateWhere.mp there
      split at unfinished
      · exact absurd rfl unfinished
      · rw [if_neg ‹_›]
        exact was
  | attachmentFailed emailId attachmentId leaseToken owned =>
    refine whole.keep whole.keys (fun id now there stored => ?_) (fun _ _ there _ => there)
      fun id now other there of stored unfinished => ?_
    · refine located_updateWhere whole.located (fun _ stored => ?_) there stored
      cases stored
    · obtain ⟨old, was, rfl⟩ := Table.mem_updateWhere.mp there
      split at of
      · -- A pending attachment does not belong to a stored email.
        rename_i isPending
        simp only [ReceivedEmailAttachment.isPending, Bool.and_eq_true, beq_iff_eq] at isPending
        have := whole.stored _ other id old of stored was rfl
        rw [isPending.2] at this
        cases this
      · rw [if_neg ‹_›]
        exact was
  | completed emailId leaseToken updatedAt owned finished =>
    refine ⟨whole.keys.updateWhere fun _ _ _ _ => rfl, whole.located, ?_⟩
    intro other email id attachment recorded stored there of
    obtain ⟨old, was, rfl⟩ := Table.mem_updateWhere.mp recorded
    split at stored
    · -- The attempt counted no incomplete attachment of this email.
      rename_i isPending
      simp only [ReceivedEmail.isPending, Bool.and_eq_true, beq_iff_eq] at isPending
      exact finished id attachment there (of.trans isPending.1)
    · exact whole.stored other old id attachment was stored there of
  | failed emailId leaseToken publicError updatedAt owned =>
    refine whole.keep (whole.keys.updateWhere fun _ _ _ _ => rfl) whole.located
      (fun id now there stored => ?_) fun _ _ _ there _ _ _ => there
    exact stored_before (fun _ _ _ => by simp [ReceivedEmail.fail]) there stored

end Changes

section Runs

variable {platform : MailPlatform} {before after : Tables}

/-- Recording the email of a webhook touches no attachment. -/
@[simp] theorem insertEmail_attachments (draft : InboundEmailDraft) (createdAt : String) :
    (insertEmail platform draft createdAt before).attachments = before.attachments := by
  unfold insertEmail
  split <;> rfl

/-- An email that is stored after a webhook recorded its own was recorded before. -/
theorem insertEmail_stored {draft : InboundEmailDraft} {createdAt : String}
    {email : ℕ × ReceivedEmail}
    (there : email ∈ (insertEmail platform draft createdAt before).emails)
    (stored : email.2.processingState = .stored) : email ∈ before.emails := by
  unfold insertEmail at there
  split at there
  · rcases before.emails.insertOrIgnore_cases
        (fun _ email => email.resendEmailId == draft.resendEmailId) (draft.row createdAt) with
      ⟨same, -⟩ | ⟨added, -⟩
    · rwa [same] at there
    · rw [added] at there
      rcases Table.mem_insert.mp there with old | fresh
      · exact old
      · -- The webhook's own row is pending.
        subst fresh
        cases stored
  · exact there

/-- An email that is recorded stays recorded when a webhook records its own. -/
theorem mem_insertEmail {draft : InboundEmailDraft} {createdAt : String}
    {email : ℕ × ReceivedEmail} (recorded : email ∈ before.emails) :
    email ∈ (insertEmail platform draft createdAt before).emails := by
  unfold insertEmail
  split
  · rcases before.emails.insertOrIgnore_cases
        (fun _ email => email.resendEmailId == draft.resendEmailId) (draft.row createdAt) with
      ⟨same, -⟩ | ⟨added, -⟩
    · rwa [same]
    · rw [added]
      exact Table.mem_insert.mpr (.inl recorded)
  · exact recorded

/-- Changes that extend no stored email keep the inbox whole. -/
theorem Whole.changes
    (changes : ReflTransGen (Change .unfinished) before after)
    (whole : Whole before) : Whole after := by
  induction changes with
  | refl => exact whole
  | tail _ change ih => exact change.whole ih

/-- A request that extends no stored email keeps the inbox whole. -/
theorem InboxOp.run_whole {op : InboxOp} (whole : Whole before) (named : op.NamesRecorded before)
    (done : op.run platform before = .ok after) : Whole after := by
  refine Whole.changes (InboxOp.run_changes ?_ done) whole
  cases op with
  | claimWebhook draft leaseToken clock =>
    intro email upserted recorded same upserts
    by_cases stored : email.2.processingState = .stored
    · -- Every attachment the webhook names is recorded, so naming them changes nothing.
      have was := insertEmail_stored recorded stored
      refine .inr ⟨stored, upsertAttachments_replayed (fun attachment member => ?_) upserts⟩
      have there := named draft leaseToken clock email.1 email.2 rfl was same stored attachment
        member
      simpa [Names] using there
    · exact .inl stored
  | claimRetry => exact trivial
  | recordBody => exact trivial
  | markAttachmentStored => exact trivial
  | markAttachmentError => exact trivial
  | complete => exact trivial
  | fail => exact trivial

/-- A successful request that leaves every stored email whole names only recorded attachments. -/
theorem InboxOp.namesRecorded_of_run {op : InboxOp} (whole : Whole before)
    (done : op.run platform before = .ok after) (stays : FullyStored after) :
    op.NamesRecorded before := by
  intro draft leaseToken clock emailId email is recorded same stored attachment member
  subst is
  obtain ⟨⟨outcome, committed⟩, claimed, rfl⟩ := map_eq_ok.mp done
  obtain ⟨found, upserted, there, sameFound, upserts, claimed⟩ := claimWebhook_ok claimed
  -- The email the webhook finds is the stored one, since provider ids are unique.
  have inserted : Whole (insertEmail platform draft clock.createdAt before) :=
    whole.changes (insertEmail_changes draft clock.createdAt)
  obtain ⟨foundId, foundEmail⟩ := found
  obtain ⟨rfl, rfl⟩ := inserted.keys.row_eq there (mem_insertEmail recorded)
    (congrArg some sameFound) (congrArg some same)
  obtain ⟨-, rfl⟩ := claimOn_stored stored claimed
  -- The named attachment is recorded now; it is stored, so it is not one of the new rows.
  have ups := upsertAttachments_ok upserts
  obtain ⟨id, row, rowThere, isFor⟩ := ups.named attachment member
  have of : row.emailId = foundId := by
    simp only [ReceivedEmailAttachment.isFor, Bool.and_eq_true, beq_iff_eq] at isFor
    exact isFor.1
  have emailThere : (foundId, foundEmail) ∈ committed.emails := by
    rw [ups.emails]
    exact there
  have done := (stays foundId foundEmail id row emailThere stored rowThere of).1
  rcases ups.fresh id row rowThere with old | pending
  · rw [insertEmail_attachments] at old
    exact ⟨id, row, old, isFor⟩
  · rw [pending] at done
    cases done

end Runs

/-- Requests that name only recorded attachments of stored emails keep stored emails whole. -/
theorem Whole.of_reachable {platform : MailPlatform} {db : Tables}
    (reached : ((inboxSystem platform).restrict fun db op => op.NamesRecorded db).Reachable db) :
    Whole db := by
  refine reached.invariant Whole (fun state start => ?_)
    fun op before after _ whole taken => ?_
  · rw [show state = .empty from start]
    exact .empty
  · obtain ⟨named, rfl⟩ := taken
    -- A request that fails leaves the inbox as it is.
    cases done : op.run platform before with
    | error => simpa [InboxOp.after, done, Except.toOption] using whole
    | ok committed =>
      simpa [InboxOp.after, done, Except.toOption] using op.run_whole whole named done

/-- Stored emails have only stored attachments while webhooks about them name recorded ones. -/
theorem stored_emails_whole (platform : MailPlatform) :
    (∀ db, ((inboxSystem platform).restrict fun db op => op.NamesRecorded db).Reachable db →
      FullyStored db) ∧
    ∀ (op : InboxOp) (before after : Tables),
      ((inboxSystem platform).restrict fun db op => op.NamesRecorded db).Reachable before →
      op.run platform before = .ok after → (FullyStored after ↔ op.NamesRecorded before) := by
  refine ⟨fun db reached => (Whole.of_reachable reached).fullyStored,
    fun op before after reached done => ?_⟩
  have whole := Whole.of_reachable reached
  constructor
  · exact op.namesRecorded_of_run whole done
  · exact fun named => (op.run_whole whole named done).fullyStored

/-- An email is stored without attachments, and its webhook is replayed with one. -/
def replayedMail : List InboxOp :=
  let leaseToken := "aaaaaaaaaaaaaaaaaaaaaaaaaaaaaaaa"
  let attachment := ⟨"attachment_1", "statement.pdf", "application/pdf"⟩
  [.claimWebhook (inboundMail []) leaseToken claimClock,
    .complete 1 leaseToken "2026-07-01T12:00:01.000Z",
    .claimWebhook (inboundMail [attachment]) "bbbbbbbbbbbbbbbbbbbbbbbbbbbbbbbb" claimClock]

/-- After the replay the email is stored and its new attachment is pending. -/
theorem replayed_mail_incomplete :
    ∃ db, (inboxSystem plainMail).Reachable db ∧ ¬ FullyStored db := by
  refine ⟨playInbox plainMail replayedMail, playInbox_reachable _ _, fun whole => ?_⟩
  have leftOver : ((playInbox plainMail replayedMail).emails.rows.map fun entry =>
      (entry.1, entry.2.processingState)) = [(1, .stored)] ∧
      ((playInbox plainMail replayedMail).attachments.rows.map fun entry =>
        (entry.2.emailId, entry.2.processingState)) = [(1, .pending)] := by decide +kernel
  obtain ⟨email, there, state⟩ := List.mem_map.mp
    (leftOver.1 ▸ List.mem_singleton_self _ :
      (1, .stored) ∈ (playInbox plainMail replayedMail).emails.rows.map fun entry =>
        (entry.1, entry.2.processingState))
  obtain ⟨attachment, other, pending⟩ := List.mem_map.mp
    (leftOver.2 ▸ List.mem_singleton_self _ :
      (1, .pending) ∈ (playInbox plainMail replayedMail).attachments.rows.map fun entry =>
        (entry.2.emailId, entry.2.processingState))
  simp only [Prod.mk.injEq] at state pending
  have done := whole email.1 email.2 attachment.1 attachment.2 there state.2 other
    (pending.1.trans state.1.symm)
  rw [pending.2] at done
  cases done.1

end FinStream.Inbox
