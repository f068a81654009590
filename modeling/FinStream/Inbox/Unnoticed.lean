import FinStream.Inbox.Links

/-! Links go unnoticed: workers process emails as if nobody linked any. -/

namespace FinStream.Inbox

open Store

/-- An email without what a link writes. -/
def ReceivedEmail.unlinked (email : ReceivedEmail) : ReceivedEmail :=
  { email with loanAccount := none, updatedAt := "" }

/-- The tables without what links write. -/
def Tables.unlinked (db : Tables) : Tables :=
  { db with emails := db.emails.map ReceivedEmail.unlinked }

/-- How a claim ends, without what links write. -/
def ClaimOutcome.unlinked : ClaimOutcome → ClaimOutcome
  | .acquired claim => .acquired { claim with email := (claim.email.1, claim.email.2.unlinked) }
  | .alreadyStored email => .alreadyStored (email.1, email.2.unlinked)
  | .busy email => .busy (email.1, email.2.unlinked)

/-- A claim and its tables, without what links write. -/
def claimUnlinked (claimed : ClaimOutcome × Tables) : ClaimOutcome × Tables :=
  (claimed.1.unlinked, claimed.2.unlinked)

/-- An email and its tables, without what links write. -/
def emailUnlinked (done : (ℕ × ReceivedEmail) × Tables) : (ℕ × ReceivedEmail) × Tables :=
  ((done.1.1, done.1.2.unlinked), done.2.unlinked)

section Unlinked

variable {db : Tables}

/-- Mapping the result of a sequence maps the result of its last step. -/
theorem map_bind {ε α β γ : Type} (first : Except ε α) (rest : α → Except ε β) (part : β → γ) :
    (first >>= rest).map part = first >>= fun value => (rest value).map part := by
  cases first <;> rfl

/-- Taking links away twice is taking them away once. -/
@[simp] theorem Tables.unlinked_unlinked (db : Tables) : db.unlinked.unlinked = db.unlinked := by
  have rows : (db.emails.map ReceivedEmail.unlinked).map ReceivedEmail.unlinked =
      db.emails.map ReceivedEmail.unlinked := Table.map_map _ _ _
  simp only [Tables.unlinked, rows]

/-- The id of an email finds it with and without links. -/
theorem get?_unlinked (id : ℕ) :
    db.unlinked.emails.get? id = (db.emails.get? id).map ReceivedEmail.unlinked :=
  Table.get?_map _ _ _

/-- Whether an email is being processed does not depend on links. -/
theorem find?_isPending_unlinked (emailId : ℕ) :
    (db.unlinked.emails.find? (ReceivedEmail.isPending emailId)).isSome =
      (db.emails.find? (ReceivedEmail.isPending emailId)).isSome := by
  have found : (db.emails.map ReceivedEmail.unlinked).find? (ReceivedEmail.isPending emailId) =
      (db.emails.find? (ReceivedEmail.isPending emailId)).map fun entry =>
        (entry.1, entry.2.unlinked) := Table.find?_map db.emails fun _ _ => rfl
  rw [Tables.unlinked, found, Option.isSome_map]

/-- An update that writes the same without links leaves the same without links. -/
theorem updateEmails_unlinked (db : Tables) (reads : ℕ → ReceivedEmail → Bool)
    (write : ReceivedEmail → ReceivedEmail)
    (reading : ∀ id email, reads id email.unlinked = reads id email)
    (writing : ∀ email, (write email.unlinked).unlinked = (write email).unlinked) :
    (db.unlinked.emails.updateWhere reads write).map ReceivedEmail.unlinked =
      (db.emails.updateWhere reads write).map ReceivedEmail.unlinked := by
  ext1
  · simp only [Tables.unlinked, Table.map, Table.updateWhere, List.map_map]
    refine List.map_congr_left fun entry _ => ?_
    simp only [Function.comp_apply, reading]
    split
    · rw [writing]
    · rfl
  · rfl

/-! ### The statements of a worker -/

/-- Starting an attempt is the same without links. -/
theorem startAttempt_unlinked (db : Tables) (emailId : ℕ) (updatedAt : String) :
    (startAttempt emailId updatedAt db.unlinked).unlinked =
      (startAttempt emailId updatedAt db).unlinked := by
  have emails : (startAttempt emailId updatedAt db.unlinked).emails.map ReceivedEmail.unlinked =
      (startAttempt emailId updatedAt db).emails.map ReceivedEmail.unlinked :=
    updateEmails_unlinked db _ (.restart updatedAt) (fun _ _ => rfl) fun _ => rfl
  have others : ∀ left right : Tables, left.emails = right.emails →
      left.attachments = right.attachments → left.leases = right.leases → left = right := by
    rintro ⟨⟩ ⟨⟩ rfl rfl rfl
    rfl
  exact others _ _ emails rfl rfl

/-- A claim is the same without links. -/
theorem claimOn_unlinked (email : ℕ × ReceivedEmail) (leaseToken : String) (clock : ClaimClock) :
    (claimOn (email.1, email.2.unlinked) leaseToken clock db.unlinked).map claimUnlinked =
      (claimOn email leaseToken clock db).map claimUnlinked := by
  have state : email.2.unlinked.processingState = email.2.processingState := rfl
  unfold claimOn
  rw [state]
  by_cases stored : email.2.processingState == .stored
  · simp [stored, Except.map, pure, Except.pure, claimUnlinked, ClaimOutcome.unlinked,
      ReceivedEmail.unlinked]
  · rw [if_neg stored, if_neg stored]
    -- Leases are the same, so that the claim is busy with and without links.
    have leases : (expireLease email.1 clock.staleCutoff db.unlinked).leases =
        (expireLease email.1 clock.staleCutoff db).leases := rfl
    have expired : expireLease email.1 clock.staleCutoff db.unlinked =
        (expireLease email.1 clock.staleCutoff db).unlinked := rfl
    dsimp only
    rw [leases]
    split
    · simp [Except.map, pure, Except.pure, claimUnlinked, ClaimOutcome.unlinked, expired,
        ReceivedEmail.unlinked]
    · -- The attempts that are started are the same without links.
      generalize leased : ({ expireLease email.1 clock.staleCutoff db with
        leases := (expireLease email.1 clock.staleCutoff db).leases.insert
          { emailId := email.1, leaseToken, claimedAt := clock.claimedAt } } : Tables) = held
      have unlinked : ({ expireLease email.1 clock.staleCutoff db.unlinked with
        leases := (expireLease email.1 clock.staleCutoff db).leases.insert
          { emailId := email.1, leaseToken, claimedAt := clock.claimedAt } } : Tables) =
          held.unlinked := by
        rw [← leased]
        rfl
      rw [unlinked]
      have same := startAttempt_unlinked held email.1 clock.updatedAt
      generalize startAttempt email.1 clock.updatedAt held.unlinked = other at same ⊢
      generalize startAttempt email.1 clock.updatedAt held = after at same ⊢
      have rows := congrArg (fun db => db.emails.get? email.1) same
      simp only [get?_unlinked] at rows
      have files : attachments email.1 other.unlinked = attachments email.1 after.unlinked :=
        congrArg (attachments email.1) same
      have files : attachments email.1 other = attachments email.1 after := files
      rw [map_bind, map_bind]
      cases current : after.emails.get? email.1 with
      | none =>
        rw [current] at rows
        rw [Option.map_eq_none_iff.mp rows]
        rfl
      | some row =>
        rw [current] at rows
        obtain ⟨otherRow, found, rowSame⟩ := Option.map_eq_some_iff.mp rows
        rw [found]
        simp [required, bind, Except.bind, Except.map, pure, Except.pure, claimUnlinked,
          ClaimOutcome.unlinked, files, rowSame, same]

/-- Two claims of what is one email without links end alike. -/
theorem claimOn_alike {left right : Tables} (same : left.unlinked = right.unlinked)
    {email other : ℕ × ReceivedEmail} (id : email.1 = other.1)
    (row : email.2.unlinked = other.2.unlinked) (leaseToken : String) (clock : ClaimClock) :
    (claimOn email leaseToken clock left).map claimUnlinked =
      (claimOn other leaseToken clock right).map claimUnlinked := by
  rw [← claimOn_unlinked email, ← claimOn_unlinked other, same, id, row]

/-- Recording the email of a webhook is the same without links. -/
theorem insertEmail_unlinked (db : Tables) (platform : MailPlatform) (draft : InboundEmailDraft)
    (createdAt : String) : (insertEmail platform draft createdAt db.unlinked).unlinked =
      (insertEmail platform draft createdAt db).unlinked := by
  unfold insertEmail
  by_cases fits : draft.fits platform = true
  · rw [if_pos fits, if_pos fits]
    have found : (db.emails.map ReceivedEmail.unlinked).find?
        (fun _ email => email.resendEmailId == draft.resendEmailId) =
          (db.emails.find? fun _ email => email.resendEmailId == draft.resendEmailId).map
            fun entry => (entry.1, entry.2.unlinked) := Table.find?_map db.emails fun _ _ => rfl
    simp only [Tables.unlinked, Table.insertOrIgnore, found]
    cases db.emails.find? fun _ email => email.resendEmailId == draft.resendEmailId with
    | none =>
      simp only [Option.map_none, Table.map_insert, Table.map_map]
      rfl
    | some entry =>
      simp only [Option.map_some, Table.map_map]
      rfl
  · rw [if_neg fits, if_neg fits, Tables.unlinked_unlinked]

/-- Naming an attachment is the same without links. -/
theorem upsertAttachment_unlinked (emailId : ℕ) (createdAt : String)
    (draft : InboundAttachmentDraft) : upsertAttachment emailId createdAt db.unlinked draft =
      (upsertAttachment emailId createdAt db draft).map Tables.unlinked := by
  have attachments : db.unlinked.attachments = db.attachments := rfl
  simp only [upsertAttachment, map_bind, attachments]
  rfl

/-- Naming attachments is the same without links. -/
theorem upsertAttachments_unlinked (emailId : ℕ) (createdAt : String)
    (drafts : List InboundAttachmentDraft) (db : Tables) :
    drafts.foldlM (upsertAttachment emailId createdAt) db.unlinked =
      (drafts.foldlM (upsertAttachment emailId createdAt) db).map Tables.unlinked := by
  induction drafts generalizing db with
  | nil => rfl
  | cons draft rest ih =>
    rw [List.foldlM_cons, List.foldlM_cons, upsertAttachment_unlinked, map_bind]
    cases upsertAttachment emailId createdAt db draft with
    | error error => rfl
    | ok next => exact ih next

/-- A claim for a webhook is the same without links. -/
theorem claimWebhook_unlinked (platform : MailPlatform) (draft : InboundEmailDraft)
    (leaseToken : String) (clock : ClaimClock) :
    (claimWebhook platform draft leaseToken clock db.unlinked).map claimUnlinked =
      (claimWebhook platform draft leaseToken clock db).map claimUnlinked := by
  have same := insertEmail_unlinked db platform draft clock.createdAt
  simp only [claimWebhook, map_bind]
  generalize insertEmail platform draft clock.createdAt db.unlinked = left at same ⊢
  generalize insertEmail platform draft clock.createdAt db = right at same ⊢
  -- Both tables have the email under one id, with the same metadata.
  have finds : ∀ db : Tables, (db.unlinked.emails.find? fun _ email =>
      email.resendEmailId == draft.resendEmailId) =
        (db.emails.find? fun _ email => email.resendEmailId == draft.resendEmailId).map
          fun entry => (entry.1, entry.2.unlinked) := fun db =>
    Table.find?_map db.emails fun _ _ => rfl
  have found := (finds left).symm.trans ((congrArg (fun db => db.emails.find? fun _ email =>
    email.resendEmailId == draft.resendEmailId) same).trans (finds right))
  refine bind_congr fun _ => bind_congr fun _ => ?_
  cases there : right.emails.find? fun _ email => email.resendEmailId == draft.resendEmailId with
  | none =>
    rw [there] at found
    rw [Option.map_eq_none_iff.mp found]
    rfl
  | some entry =>
    rw [there] at found
    obtain ⟨other, otherThere, entries⟩ := Option.map_eq_some_iff.mp found
    obtain ⟨ids, rows⟩ := Prod.mk.inj entries
    rw [otherThere]
    have agrees := congrArg draft.agrees rows
    change draft.agrees other.2 = draft.agrees entry.2 at agrees
    simp only [required, bind, Except.bind, agrees, ids]
    -- The attachments are named alike, and then the claims are alike.
    split
    · rfl
    · have upserts : (draft.attachments.foldlM (upsertAttachment entry.1 clock.createdAt)
          left).map Tables.unlinked = (draft.attachments.foldlM
            (upsertAttachment entry.1 clock.createdAt) right).map Tables.unlinked := by
        rw [← upsertAttachments_unlinked, same, upsertAttachments_unlinked]
      generalize draft.attachments.foldlM (upsertAttachment entry.1 clock.createdAt) left = first
        at upserts ⊢
      generalize draft.attachments.foldlM (upsertAttachment entry.1 clock.createdAt) right = second
        at upserts ⊢
      cases first with
      | error error =>
        cases second with
        | error other => exact congrArg Except.error (Except.error.inj upserts)
        | ok next => cases upserts
      | ok next =>
        cases second with
        | error other => cases upserts
        | ok further => exact claimOn_alike (Except.ok.inj upserts) ids rows leaseToken clock

/-- A claim of a stored email is the same without links. -/
theorem claimRetry_unlinked (emailId : ℕ) (leaseToken : String) (clock : ClaimClock) :
    (claimRetry emailId leaseToken clock db.unlinked).map claimUnlinked =
      (claimRetry emailId leaseToken clock db).map claimUnlinked := by
  simp only [claimRetry, map_bind, get?_unlinked]
  refine bind_congr fun _ => bind_congr fun _ => ?_
  cases db.emails.get? emailId with
  | none => rfl
  | some email => exact claimOn_unlinked (emailId, email) leaseToken clock

/-- Recording the body of an email is the same without links. -/
theorem recordBody_unlinked (emailId : ℕ) (leaseToken : String) (objectKey : Option String)
    (contentType updatedAt : String) :
    (recordBody emailId leaseToken objectKey contentType updatedAt db.unlinked).map
      Tables.unlinked =
        (recordBody emailId leaseToken objectKey contentType updatedAt db).map Tables.unlinked := by
  have emails := updateEmails_unlinked db (ReceivedEmail.isPending emailId)
    (.recordBody objectKey contentType updatedAt) (fun _ _ => rfl) fun _ => rfl
  have owned : leaseIsOwned emailId leaseToken db.unlinked = leaseIsOwned emailId leaseToken db :=
    rfl
  simp only [recordBody, map_bind, find?_isPending_unlinked, owned]
  refine bind_congr fun _ => bind_congr fun _ => bind_congr fun _ => bind_congr fun _ => ?_
  exact congrArg (fun emails => Except.ok (⟨emails, db.attachments, db.leases⟩ : Tables)) emails

/-- Finishing an email is the same without links. -/
theorem finishEmail_unlinked (db : Tables) (emailId : ℕ) (finish : ReceivedEmail → ReceivedEmail)
    (missing : String)
    (writing : ∀ email, (finish email.unlinked).unlinked = (finish email).unlinked) :
    (finishEmail emailId finish missing db.unlinked).map Tables.unlinked =
      (finishEmail emailId finish missing db).map Tables.unlinked := by
  have emails := updateEmails_unlinked db (ReceivedEmail.isPending emailId) finish
    (fun _ _ => rfl) writing
  simp only [finishEmail, map_bind, find?_isPending_unlinked]
  refine bind_congr fun _ => ?_
  exact congrArg (fun emails => Except.ok (⟨emails, db.attachments, db.leases⟩ : Tables)) emails

/-- Releasing a lease is the same without links. -/
theorem deleteOwnedLease_unlinked (emailId : ℕ) (leaseToken : String) (db : Tables) :
    (deleteOwnedLease emailId leaseToken db.unlinked).map Tables.unlinked =
      (deleteOwnedLease emailId leaseToken db).map Tables.unlinked := by
  have leases : db.unlinked.leases = db.leases := rfl
  simp only [deleteOwnedLease, map_bind, leases]
  refine bind_congr fun _ => ?_
  exact congrArg Except.ok (Tables.unlinked_unlinked { db with
    leases := db.leases.deleteWhere fun _ lease => lease.isOwned emailId leaseToken })

/-- The tables, if an email is still there at the end of a request. -/
def reread (emailId : ℕ) (error : InboxError) (db : Tables) : InboxResult Tables :=
  required (db.emails.get? emailId) error >>= fun _ => .ok db

/-- Reading an email at the end of a request is the same without links. -/
theorem reread_unlinked (emailId : ℕ) (error : InboxError) (db : Tables) :
    (reread emailId error db.unlinked).map Tables.unlinked =
      (reread emailId error db).map Tables.unlinked := by
  rw [reread, reread, get?_unlinked]
  cases db.emails.get? emailId with
  | none => rfl
  | some email => exact congrArg Except.ok (Tables.unlinked_unlinked db)

/-- Steps that are the same without links are so one after the other. -/
theorem bind_unlinked {step : Tables → InboxResult Tables} {first second : InboxResult Tables}
    (each : ∀ db, (step db.unlinked).map Tables.unlinked = (step db).map Tables.unlinked)
    (same : first.map Tables.unlinked = second.map Tables.unlinked) :
    (first >>= step).map Tables.unlinked = (second >>= step).map Tables.unlinked := by
  cases first with
  | error error =>
    cases second with
    | error other => exact congrArg Except.error (Except.error.inj same)
    | ok right => cases same
  | ok left =>
    cases second with
    | error other => cases same
    | ok right =>
      have same : left.unlinked = right.unlinked := Except.ok.inj same
      have steps := (each left).symm.trans ((congrArg (fun db => (step db).map Tables.unlinked)
        same).trans (each right))
      exact steps

/-- Every request of a worker is answered alike, and leaves the same, without links. -/
theorem InboxOp.run_unlinked (platform : MailPlatform) (op : InboxOp) (db : Tables) :
    (op.run platform db.unlinked).map Tables.unlinked =
      (op.run platform db).map Tables.unlinked := by
  have owned : ∀ emailId leaseToken, requireOwnedLease emailId leaseToken db.unlinked =
      requireOwnedLease emailId leaseToken db := fun _ _ => rfl
  -- What a claim commits is part of how it ends.
  have claims : ∀ first second : InboxResult (ClaimOutcome × Tables),
      first.map claimUnlinked = second.map claimUnlinked →
        (first.map Prod.snd).map Tables.unlinked = (second.map Prod.snd).map Tables.unlinked := by
    intro first second same
    cases first <;> cases second <;> simp_all [Except.map, claimUnlinked]
  cases op with
  | claimWebhook draft leaseToken clock =>
    exact claims _ _ (claimWebhook_unlinked platform draft leaseToken clock)
  | claimRetry emailId leaseToken clock =>
    exact claims _ _ (claimRetry_unlinked emailId leaseToken clock)
  | recordBody emailId leaseToken objectKey contentType updatedAt =>
    exact recordBody_unlinked emailId leaseToken objectKey contentType updatedAt
  | markAttachmentStored emailId attachmentId leaseToken objectKey sizeBytes =>
    -- Only attachments and leases are read and written.
    have attachments : db.unlinked.attachments = db.attachments := rfl
    have lease : leaseIsOwned emailId leaseToken db.unlinked =
      leaseIsOwned emailId leaseToken db := rfl
    simp only [run, Inbox.markAttachmentStored, map_bind, attachments, lease, owned]
    refine bind_congr fun _ => bind_congr fun _ => ?_
    split
    · exact congrArg Except.ok (Tables.unlinked_unlinked { db with
        attachments := db.attachments.updateWhere
          (ReceivedEmailAttachment.isOpen emailId attachmentId) (.store objectKey sizeBytes) })
    · simp only [map_bind]
      refine bind_congr fun _ => bind_congr fun _ => bind_congr fun _ => ?_
      exact congrArg Except.ok (Tables.unlinked_unlinked db)
  | markAttachmentError emailId attachmentId leaseToken =>
    have attachments : db.unlinked.attachments = db.attachments := rfl
    have lease : leaseIsOwned emailId leaseToken db.unlinked =
      leaseIsOwned emailId leaseToken db := rfl
    simp only [run, Inbox.markAttachmentError, map_bind, attachments, lease]
    refine bind_congr fun _ => bind_congr fun _ => ?_
    exact congrArg Except.ok (Tables.unlinked_unlinked { db with
      attachments := db.attachments.updateWhere
        (ReceivedEmailAttachment.isPending emailId attachmentId) fun attachment =>
          { attachment with processingState := .error } })
  | complete emailId leaseToken updatedAt =>
    have attachments : db.unlinked.attachments = db.attachments := rfl
    have finished := finishEmail_unlinked db emailId (.store updatedAt)
      "inbound email state changed before completion" fun _ => rfl
    have released := bind_unlinked (deleteOwnedLease_unlinked emailId leaseToken) finished
    have reread := bind_unlinked
      (reread_unlinked emailId (.storage "completed inbound email disappeared")) released
    simp only [run, Inbox.complete, map_bind, owned, attachments, Inbox.reread, bind_assoc]
      at reread ⊢
    refine bind_congr fun _ => bind_congr fun _ => bind_congr fun _ => ?_
    exact reread
  | fail emailId leaseToken publicError updatedAt =>
    have finished := finishEmail_unlinked db emailId (.fail publicError updatedAt)
      "inbound email state changed before failure was recorded" fun _ => rfl
    have released := bind_unlinked (deleteOwnedLease_unlinked emailId leaseToken) finished
    simp only [run, Inbox.fail, map_bind, owned] at released ⊢
    refine bind_congr fun _ => bind_congr fun _ => bind_congr fun _ => ?_
    exact released

/-- Requests over tables that are the same without links are answered alike. -/
theorem InboxOp.run_alike (platform : MailPlatform) (op : InboxOp) {left right : Tables}
    (same : left.unlinked = right.unlinked) : (op.run platform left).map Tables.unlinked =
      (op.run platform right).map Tables.unlinked := by
  rw [← op.run_unlinked platform left, same, op.run_unlinked]

/-- Requests leave tables that are the same without links so. -/
theorem InboxOp.after_alike (platform : MailPlatform) (op : InboxOp) {left right : Tables}
    (same : left.unlinked = right.unlinked) :
    (op.after platform left).unlinked = (op.after platform right).unlinked := by
  have ran := op.run_alike platform same
  unfold InboxOp.after
  cases first : op.run platform left with
  | error error =>
    cases second : op.run platform right with
    | error other => exact same
    | ok next =>
      rw [first, second] at ran
      cases ran
  | ok next =>
    cases second : op.run platform right with
    | error other =>
      rw [first, second] at ran
      cases ran
    | ok further =>
      rw [first, second] at ran
      exact Except.ok.inj ran

/-- A link writes nothing that is seen without links. -/
theorem Tables.unlinked_withLink (db : Tables) (emailId : ℤ) (loanAccount : Option String)
    (updatedAt : String) : (db.withLink emailId loanAccount updatedAt).unlinked = db.unlinked := by
  have emails : (db.emails.updateWhere (hasId emailId) (.linkedTo loanAccount updatedAt)).map
      ReceivedEmail.unlinked = db.emails.map ReceivedEmail.unlinked :=
    Table.map_updateWhere_unseen db.emails fun _ => rfl
  simp only [withLink, unlinked, emails]

end Unlinked

/-- A worker's request, which is no action of a user. -/
def LinkInput.isProcess : LinkInput → Bool
  | .process _ => true
  | _ => false

/-- Users and imports are hidden from the workers. -/
theorem links_unwinding (platform : MailPlatform) :
    Unwinding (fun state : LinkState => state.inbox.unlinked) LinkInput.isProcess
      (LinkState.after platform) where
  respects := by
    intro input left right visible same
    cases input with
    | process op => exact op.after_alike platform same
    | link | unlink | setIntegrations => cases visible
  hides := by
    intro input state hidden
    cases input with
    | process op => cases hidden
    | link emailId loanAccount updatedAt =>
      simp only [LinkState.after]
      split
      · rename_i done
        obtain ⟨-, -, rfl⟩ := linkEmail_ok done
        exact Tables.unlinked_withLink _ _ _ _
      · rfl
    | unlink emailId updatedAt =>
      simp only [LinkState.after]
      split
      · rename_i done
        rw [unlinkEmail_ok done]
        exact Tables.unlinked_withLink _ _ _ _
      · rfl
    | setIntegrations integrations => rfl

/-- Tables that no request and no claim tells apart, but for links. -/
structure Alike (platform : MailPlatform) (left right : Tables) : Prop where
  tables : left.unlinked = right.unlinked
  requests : ∀ op : InboxOp, (op.run platform left).map Tables.unlinked =
    (op.run platform right).map Tables.unlinked
  webhooks : ∀ draft leaseToken clock,
    (claimWebhook platform draft leaseToken clock left).map claimUnlinked =
      (claimWebhook platform draft leaseToken clock right).map claimUnlinked
  retries : ∀ emailId leaseToken clock,
    (claimRetry emailId leaseToken clock left).map claimUnlinked =
      (claimRetry emailId leaseToken clock right).map claimUnlinked

/--
Workers process emails as if nobody linked any.

However users and imports come in between, the tables are, but for links, those that the workers'
requests alone lead to, and every further request and claim is answered as it would be there.
-/
theorem processing_unnoticed (platform : MailPlatform) (state : LinkState)
    (inputs : List LinkInput) : Alike platform (state.afterAll platform inputs).inbox
      (state.afterAll platform (inputs.filter LinkInput.isProcess)).inbox := by
  have same : (state.afterAll platform inputs).inbox.unlinked =
      (state.afterAll platform (inputs.filter LinkInput.isProcess)).inbox.unlinked :=
    (links_unwinding platform).purge inputs rfl
  refine ⟨same, fun op => op.run_alike platform same, ?_, ?_⟩
  · intro draft leaseToken clock
    rw [← claimWebhook_unlinked, same, claimWebhook_unlinked]
  · intro emailId leaseToken clock
    rw [← claimRetry_unlinked, same, claimRetry_unlinked]

end FinStream.Inbox
