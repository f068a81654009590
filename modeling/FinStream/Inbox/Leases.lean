import FinStream.Inbox.Processing

/-! Processing leases: one per email, only while it is pending, and no work without one. -/

namespace FinStream.Inbox

open Store Relation

/-- The state of the leases that every change keeps. -/
structure Leased (db : Tables) : Prop where
  /-- An email has at most one lease. -/
  one : UniqueKey (fun lease => some lease.emailId) db.leases
  /-- A leased email is pending. -/
  pending : ∀ id lease, (id, lease) ∈ db.leases →
    ∃ email, (lease.emailId, email) ∈ db.emails ∧ email.processingState = .pending

/-- The email and the token a worker's request relies on. -/
def InboxOp.lease : InboxOp → Option (ℕ × String)
  | .claimWebhook .. | .claimRetry .. => none
  | .recordBody emailId leaseToken .. => some (emailId, leaseToken)
  | .markAttachmentStored emailId _ leaseToken .. => some (emailId, leaseToken)
  | .markAttachmentError emailId _ leaseToken => some (emailId, leaseToken)
  | .complete emailId leaseToken _ => some (emailId, leaseToken)
  | .fail emailId leaseToken .. => some (emailId, leaseToken)

/-- A fresh inbox has no lease. -/
theorem Leased.empty : Leased .empty :=
  ⟨.empty _, fun _ _ there => absurd there (Table.not_mem_empty _)⟩

section Changes

variable {permits : Permits} {before after : Tables}

/-- An update that leaves pending emails pending keeps every leased email pending. -/
theorem Leased.updateEmails (leased : Leased before) {condition : ℕ → ReceivedEmail → Bool}
    {change : ReceivedEmail → ReceivedEmail}
    (kept : ∀ email, email.processingState = .pending → (change email).processingState = .pending)
    {id : ℕ} {lease : ProcessingLease} (there : (id, lease) ∈ before.leases) :
    ∃ email, (lease.emailId, email) ∈ before.emails.updateWhere condition change ∧
      email.processingState = .pending := by
  obtain ⟨email, recorded, pending⟩ := leased.pending id lease there
  refine ⟨_, Table.mem_updateWhere.mpr ⟨email, recorded, rfl⟩, ?_⟩
  split
  · exact kept email pending
  · exact pending

/-- Finishing the email of an owned lease, and releasing the lease, keeps leases in order. -/
theorem Leased.finish (leased : Leased before) {emailId : ℕ} {leaseToken : String}
    {change : ReceivedEmail → ReceivedEmail}
    (owned : leaseIsOwned emailId leaseToken before = true) :
    Leased { before with
      emails := before.emails.updateWhere (ReceivedEmail.isPending emailId) change
      leases := before.leases.deleteWhere fun _ lease => lease.isOwned emailId leaseToken } := by
  refine ⟨leased.one.deleteWhere _, fun id lease there => ?_⟩
  obtain ⟨was, kept⟩ := Table.mem_deleteWhere.mp there
  obtain ⟨ownId, own, ownThere, ownEmail, ownToken⟩ := leaseIsOwned_iff.mp owned
  -- A lease on the finished email would be the released one.
  have other : lease.emailId ≠ emailId := by
    intro same
    obtain ⟨-, rfl⟩ := leased.one.row_eq was ownThere (congrArg some same) (congrArg some ownEmail)
    simp [ProcessingLease.isOwned, ownEmail, ownToken] at kept
  obtain ⟨email, recorded, pending⟩ := leased.pending id lease was
  refine ⟨email, Table.mem_updateWhere.mpr ⟨email, recorded, ?_⟩, pending⟩
  simp [ReceivedEmail.isPending, other]

/-- Every change keeps leases in order. -/
theorem Change.leased (change : Change permits before after) (leased : Leased before) :
    Leased after := by
  cases change with
  | received email pending empty new =>
    refine ⟨leased.one, fun id lease there => ?_⟩
    obtain ⟨email, recorded, pending⟩ := leased.pending id lease there
    exact ⟨email, Table.mem_insert.mpr (.inl recorded), pending⟩
  | attached attachment email recorded allowed pending typed => exact ⟨leased.one, leased.pending⟩
  | expired emailId staleCutoff =>
    refine ⟨leased.one.deleteWhere _, fun id lease there => ?_⟩
    exact leased.pending id lease (Table.mem_deleteWhere.mp there).1
  | claimed email lease updatedAt recorded unfinished free =>
    have free_ : ∀ id stored, (id, stored) ∈ before.leases → stored.emailId ≠ lease.emailId := by
      intro id stored there same
      have := free id stored there
      simp [ProcessingLease.conflicts, same] at this
    refine ⟨leased.one.insert fun id old value there same again => ?_, fun id held there => ?_⟩
    · exact free_ id old there (Option.some.inj (same.trans again.symm))
    · rcases Table.mem_insert.mp there with old | new
      · exact leased.updateEmails (fun _ _ => rfl) old
      · -- The claimed email was pending or in error, and is pending now.
        cases new
        refine ⟨_, Table.mem_updateWhere.mpr ⟨email, recorded, rfl⟩, ?_⟩
        split
        · rfl
        · rename_i skipped
          cases state : email.processingState with
          | pending => rfl
          | stored => exact absurd state unfinished
          | error => simp [state] at skipped
  | bodyRecorded emailId leaseToken objectKey contentType updatedAt allowed owned =>
    refine ⟨leased.one, fun id lease there => ?_⟩
    have kept : ∀ email : ReceivedEmail, email.processingState = .pending →
        (email.recordBody objectKey contentType updatedAt).processingState = .pending :=
      fun _ pending => pending
    exact leased.updateEmails kept there
  | attachmentStored emailId attachmentId leaseToken objectKey sizeBytes allowed owned =>
    exact ⟨leased.one, leased.pending⟩
  | attachmentFailed emailId attachmentId leaseToken owned => exact ⟨leased.one, leased.pending⟩
  | completed emailId leaseToken updatedAt owned finished => exact leased.finish owned
  | failed emailId leaseToken publicError updatedAt owned => exact leased.finish owned

/-- An update of rows that are not stored keeps every stored row as it is. -/
theorem kept_updateWhere {emails : Table ReceivedEmail} {condition : ℕ → ReceivedEmail → Bool}
    {change : ReceivedEmail → ReceivedEmail}
    (unfinished : ∀ id email, condition id email = true → email.processingState ≠ .stored)
    {id : ℕ} {email : ReceivedEmail} (there : (id, email) ∈ emails)
    (stored : email.processingState = .stored) :
    (id, email) ∈ emails.updateWhere condition change := by
  refine Table.mem_updateWhere.mpr ⟨email, there, ?_⟩
  rw [if_neg fun changed => unfinished id email changed stored]

/-- A pending email is not stored. -/
theorem ReceivedEmail.isPending_unfinished {emailId : ℕ} (id : ℕ) (email : ReceivedEmail)
    (isPending : email.isPending emailId id = true) : email.processingState ≠ .stored := by
  simp only [ReceivedEmail.isPending, Bool.and_eq_true, beq_iff_eq] at isPending
  simp [isPending.2]

/-- Every change keeps every stored email as it is. -/
theorem Change.keeps_stored (change : Change permits before after) {id : ℕ}
    {email : ReceivedEmail} (there : (id, email) ∈ before.emails)
    (stored : email.processingState = .stored) : (id, email) ∈ after.emails := by
  cases change with
  | received other pending empty new => exact Table.mem_insert.mpr (.inl there)
  | attached attachment other recorded allowed pending typed => exact there
  | expired emailId staleCutoff => exact there
  | claimed other lease updatedAt recorded unfinished free =>
    refine kept_updateWhere (fun at_ row claimed => ?_) there stored
    -- Only pending and failed emails start again.
    intro done
    simp [done] at claimed
  | bodyRecorded emailId leaseToken objectKey contentType updatedAt allowed owned =>
    exact kept_updateWhere ReceivedEmail.isPending_unfinished there stored
  | attachmentStored emailId attachmentId leaseToken objectKey sizeBytes allowed owned => exact there
  | attachmentFailed emailId attachmentId leaseToken owned => exact there
  | completed emailId leaseToken updatedAt owned finished =>
    exact kept_updateWhere ReceivedEmail.isPending_unfinished there stored
  | failed emailId leaseToken publicError updatedAt owned =>
    exact kept_updateWhere ReceivedEmail.isPending_unfinished there stored

end Changes

section Requests

variable {platform : MailPlatform} {before : Tables}

/-- A request either leaves the inbox as it is or commits a sequence of changes. -/
theorem InboxOp.after_changes (op : InboxOp) :
    ReflTransGen (Change .all) before (op.after platform before) := by
  cases done : op.run platform before with
  | error => rw [InboxOp.after, done]; exact .refl
  | ok committed =>
    rw [InboxOp.after, done]
    exact InboxOp.run_changes op.within_all done

/-- A request that relies on a lease its worker does not hold is refused. -/
theorem InboxOp.run_refused {op : InboxOp} {emailId : ℕ} {leaseToken : String}
    (relies : op.lease = some (emailId, leaseToken))
    (lost : leaseIsOwned emailId leaseToken before = false) :
    ∃ error, op.run platform before = .error error := by
  cases done : op.run platform before with
  | error error => exact ⟨error, rfl⟩
  | ok committed =>
    -- Each of the five requests checks the lease on its way to a success.
    exfalso
    cases op with
    | claimWebhook | claimRetry => cases relies
    | recordBody =>
      cases relies
      simp only [run, Inbox.recordBody, lost, Bool.and_false, bind_eq_ok, ensure_eq_ok,
        Bool.false_eq_true, false_and, and_false, exists_false] at done
    | markAttachmentStored =>
      cases relies
      simp [run, Inbox.markAttachmentStored, requireOwnedLease, lost] at done
    | markAttachmentError =>
      cases relies
      simp only [run, Inbox.markAttachmentError, lost, Bool.and_false, bind_eq_ok, ensure_eq_ok,
        Bool.false_eq_true, false_and, and_false, exists_false] at done
    | complete =>
      cases relies
      simp [run, Inbox.complete, requireOwnedLease, lost] at done
    | fail =>
      cases relies
      simp [run, Inbox.fail, requireOwnedLease, lost] at done

end Requests

/-- Leases fence stale workers, whatever the order of requests and the clocks. -/
theorem leases_fence_workers (platform : MailPlatform) :
    (∀ db, (inboxSystem platform).Reachable db → Leased db) ∧
    (∀ before ops after, (inboxSystem platform).Reachable before →
      (inboxSystem platform).Run before ops after → ∀ id email, (id, email) ∈ before.emails →
      email.processingState = .stored → (id, email) ∈ after.emails) ∧
    ∀ (before : Tables) (op : InboxOp) emailId leaseToken,
      (inboxSystem platform).Reachable before → op.lease = some (emailId, leaseToken) →
      (∀ id lease, (id, lease) ∈ before.leases → lease.emailId = emailId →
        lease.leaseToken ≠ leaseToken) →
      ∃ error, op.run platform before = .error error ∧ op.after platform before = before := by
  refine ⟨fun db reached => ?_, fun before ops after reached run id email there stored => ?_,
    fun before op emailId leaseToken _ relies lost => ?_⟩
  · refine reached.invariant Leased (fun state start => ?_) fun op before after _ leased taken => ?_
    · rw [show state = .empty from start]
      exact .empty
    · rw [show after = op.after platform before from taken]
      -- Every change of the request keeps the leases in order.
      exact op.after_changes.rec leased fun _ change => change.leased
  · refine run.preserves reached (fun db => (id, email) ∈ db.emails) (fun _ => True)
      (fun op before after _ _ there taken => ?_) (fun _ _ => trivial) there
    rw [show after = op.after platform before from taken]
    exact op.after_changes.rec there fun _ change there => change.keeps_stored there stored
  · have lost : leaseIsOwned emailId leaseToken before = false := by
      rw [Bool.eq_false_iff]
      intro owned
      obtain ⟨id, lease, held, of, token⟩ := leaseIsOwned_iff.mp owned
      exact lost id lease held of token
    have refuses : ∃ error, op.run platform before = .error error := op.run_refused relies lost
    obtain ⟨error, refused⟩ := refuses
    exact ⟨error, refused, by simp [InboxOp.after, refused, Except.toOption]⟩

/-- A clock two minutes after the first claim, whose cutoff is the time of that claim. -/
def takeoverClock : ClaimClock where
  createdAt := "2026-07-01T12:02:00.000Z"
  staleCutoff := "2026-07-01T12:00:00.000Z"
  claimedAt := "2026-07-01T12:02:00.000Z"
  updatedAt := "2026-07-01T12:02:00.000Z"

/-- A worker claims an email, and another one takes the lease over when it is stale. -/
def takenOver : List InboxOp :=
  [.claimWebhook (inboundMail []) "aaaaaaaaaaaaaaaaaaaaaaaaaaaaaaaa" claimClock,
    .claimRetry 1 "bbbbbbbbbbbbbbbbbbbbbbbbbbbbbbbb" takeoverClock]

/-- The first worker is refused when it completes the email that was taken over. -/
theorem leases_fence_workers_taken_over :
    ∃ error, (InboxOp.complete 1 "aaaaaaaaaaaaaaaaaaaaaaaaaaaaaaaa" "2026-07-01T12:02:01.000Z").run
        plainMail (playInbox plainMail takenOver) = .error error ∧
      (InboxOp.complete 1 "aaaaaaaaaaaaaaaaaaaaaaaaaaaaaaaa" "2026-07-01T12:02:01.000Z").after
        plainMail (playInbox plainMail takenOver) = playInbox plainMail takenOver := by
  refine (leases_fence_workers plainMail).2.2 _ _ 1 "aaaaaaaaaaaaaaaaaaaaaaaaaaaaaaaa"
    (playInbox_reachable _ _) rfl fun id lease there _ same => ?_
  -- The only lease is the second worker's.
  have left_ : (playInbox plainMail takenOver).leases.rows.map (·.2.leaseToken) =
      ["bbbbbbbbbbbbbbbbbbbbbbbbbbbbbbbb"] := by decide +kernel
  have held : lease.leaseToken ∈ (playInbox plainMail takenOver).leases.rows.map (·.2.leaseToken) :=
    List.mem_map_of_mem (f := fun entry => entry.2.leaseToken) there
  rw [left_, List.mem_singleton, same] at held
  revert held
  decide

end FinStream.Inbox
