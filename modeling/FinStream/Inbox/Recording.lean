import FinStream.Inbox.Worker
import Mathlib.Data.List.TakeWhile

/-! Only verified objects are recorded: what each step of a worker keeps. -/

namespace FinStream.Inbox

open Store Media Relation

/-- The key of an object the workers put. -/
def IsEmailKey (objectKey : String) : Prop := ∃ rest, objectKey = "emails/" ++ rest

/-- A media type without parameters. -/
def IsPlain (contentType : String) : Prop := mediaType contentType = contentType

/-- A request a worker sends. -/
def IsEmailPut (objectKey contentType : String) : Prop :=
  IsEmailKey objectKey ∧ IsPlain contentType

/-- The rows of the inbox name verified objects. -/
structure Recorded (verified : List Verification) (inbox : Tables) : Prop where
  body : ∀ id email objectKey, (id, email) ∈ inbox.emails → email.bodyS3Key = some objectKey →
    ∃ verification ∈ verified, verification.objectKey = objectKey ∧
      email.bodyContentType = some verification.contentType ∧ IsEmailKey objectKey
  attachment : ∀ id attachment, (id, attachment) ∈ inbox.attachments →
    attachment.processingState = .stored → ∃ verification ∈ verified,
      attachment.s3Key = some verification.objectKey ∧
      attachment.sizeBytes = some (verification.sizeBytes : ℤ) ∧
      attachment.contentType = verification.contentType ∧ IsEmailKey verification.objectKey
  typed : ∀ id attachment, (id, attachment) ∈ inbox.attachments →
    validateContentType attachment.contentType = .ok ⟨⟩

/-- Attachments stay recorded with their type. -/
def TypesKept (before after : Tables) : Prop :=
  ∀ id attachment, (id, attachment) ∈ before.attachments →
    ∃ now, (id, now) ∈ after.attachments ∧ now.contentType = attachment.contentType

/-- The attachments of a claim are recorded with their type. -/
def ClaimSound (inbox : Tables) (claim : ClaimedEmail) : Prop :=
  ∀ entry ∈ claim.attachments, ∃ now, (entry.1, now) ∈ inbox.attachments ∧
    now.contentType = entry.2.contentType

/-- What an object is put for is part of the claim and has its type. -/
def Target.Sound (claim : ClaimedEmail) (contentType : String) : Target → Prop
  | .body => True
  | .attachment entry rest _ => (∀ other ∈ entry :: rest, other ∈ claim.attachments) ∧
    contentType = entry.2.contentType

/-- Where a worker is agrees with the database and with what is verified. -/
def Phase.Sound (verified : List Verification) (inbox : Tables) : Phase → Prop
  | .idle => True
  | .process claim | .recordEmpty claim | .list claim | .complete claim | .giveUp claim _ _
  | .fail claim _ => ClaimSound inbox claim
  | .put claim objectKey _ contentType target =>
    ClaimSound inbox claim ∧ IsEmailPut objectKey contentType ∧ target.Sound claim contentType
  | .head claim request target => ClaimSound inbox claim ∧
    IsEmailPut request.objectKey request.contentType ∧ target.Sound claim request.contentType
  | .record claim request target => ClaimSound inbox claim ∧
    IsEmailPut request.objectKey request.contentType ∧ target.Sound claim request.contentType ∧
    request.verification ∈ verified
  | .download claim entry rest _ => ClaimSound inbox claim ∧
    ∀ other ∈ entry :: rest, other ∈ claim.attachments

/-- A valid content type has no parameters. -/
theorem isPlain_of_valid {contentType : String}
    (valid : validateContentType contentType = .ok ⟨⟩) : IsPlain contentType := by
  simp only [validateContentType, ensure_eq_ok, Bool.and_eq_true, List.all_eq_true, beq_iff_eq]
    at valid
  obtain ⟨⟨⟨⟨⟨-, -⟩, trimmed⟩, -⟩, -⟩, allowed⟩ := valid
  -- A semicolon is none of the characters a content type may have.
  have whole : contentType.toList.takeWhile (· != ';') = contentType.toList := by
    rw [List.takeWhile_eq_self_iff]
    intro character member
    have := allowed character member
    simp only [bne_iff_ne, ne_eq]
    rintro rfl
    revert this
    decide
  rw [IsPlain, mediaType, whole, String.ofList_toList]
  exact trimmed.symm

section Rows

variable {permits : Permits} {verified larger : List Verification} {before after : Tables}

/-- Rows stay recorded when more is verified. -/
theorem Recorded.mono (recorded : Recorded verified before)
    (more : ∀ verification ∈ verified, verification ∈ larger) : Recorded larger before := by
  refine ⟨fun id email objectKey there names => ?_, fun id attachment there stored => ?_,
    recorded.typed⟩
  · obtain ⟨verification, known, rest⟩ := recorded.body id email objectKey there names
    exact ⟨verification, more verification known, rest⟩
  · obtain ⟨verification, known, rest⟩ := recorded.attachment id attachment there stored
    exact ⟨verification, more verification known, rest⟩

/-- No change removes an attachment or gives it another type. -/
theorem Change.typesKept (change : Change permits before after) : TypesKept before after := by
  intro id attachment there
  cases change with
  | received | expired | bodyRecorded | completed | failed => exact ⟨attachment, there, rfl⟩
  | attached => exact ⟨attachment, Table.mem_insert.mpr (.inl there), rfl⟩
  | claimed | attachmentStored | attachmentFailed =>
    refine ⟨_, Table.mem_updateWhere.mpr ⟨attachment, there, rfl⟩, ?_⟩
    split <;> rfl

/-- Types are kept along several changes. -/
theorem TypesKept.changes (changes : ReflTransGen (Change permits) before after) :
    TypesKept before after := by
  induction changes with
  | refl => exact fun _ attachment there => ⟨attachment, there, rfl⟩
  | tail _ change ih =>
    intro id attachment there
    obtain ⟨middle, inside, first⟩ := ih id attachment there
    obtain ⟨now, last, second⟩ := change.typesKept id middle inside
    exact ⟨now, last, second.trans first⟩

/-- A claim stays sound while types are kept. -/
theorem ClaimSound.kept {claim : ClaimedEmail} (sound : ClaimSound before claim)
    (kept : TypesKept before after) : ClaimSound after claim := by
  intro entry member
  obtain ⟨row, there, same⟩ := sound entry member
  obtain ⟨now, last, kept⟩ := kept entry.1 row there
  exact ⟨now, last, kept.trans same⟩

/-- A worker stays sound while types are kept and more is verified. -/
theorem Phase.Sound.kept {phase : Phase} (sound : phase.Sound verified before)
    (kept : TypesKept before after)
    (more : ∀ verification ∈ verified, verification ∈ larger) : phase.Sound larger after := by
  cases phase with
  | idle => exact trivial
  | process | recordEmpty | list | complete | giveUp | fail => exact ClaimSound.kept sound kept
  | put => exact ⟨sound.1.kept kept, sound.2⟩
  | head => exact ⟨sound.1.kept kept, sound.2⟩
  | record => exact ⟨sound.1.kept kept, sound.2.1, sound.2.2.1, more _ sound.2.2.2⟩
  | download => exact ⟨sound.1.kept kept, sound.2⟩

/-- Updating emails without touching their bodies keeps bodies recorded. -/
theorem Recorded.updateEmails (recorded : Recorded verified before)
    {condition : ℕ → ReceivedEmail → Bool} {change : ReceivedEmail → ReceivedEmail}
    (kept : ∀ email, (change email).bodyS3Key = email.bodyS3Key ∧
      (change email).bodyContentType = email.bodyContentType) {id : ℕ} {now : ReceivedEmail}
    {objectKey : String} (there : (id, now) ∈ before.emails.updateWhere condition change)
    (names : now.bodyS3Key = some objectKey) : ∃ verification ∈ verified,
      verification.objectKey = objectKey ∧ now.bodyContentType = some verification.contentType ∧
      IsEmailKey objectKey := by
  obtain ⟨old, was, rfl⟩ := Table.mem_updateWhere.mp there
  split at names
  · rw [if_pos ‹_›, (kept old).2]
    exact recorded.body id old objectKey was ((kept old).1 ▸ names)
  · rw [if_neg ‹_›]
    exact recorded.body id old objectKey was names

/-- Updating attachments so that none becomes stored keeps stored ones recorded. -/
theorem Recorded.updateAttachments (recorded : Recorded verified before)
    {condition : ℕ → ReceivedEmailAttachment → Bool}
    {change : ReceivedEmailAttachment → ReceivedEmailAttachment}
    (opens : ∀ attachment, (change attachment).processingState ≠ .stored) {id : ℕ}
    {now : ReceivedEmailAttachment}
    (there : (id, now) ∈ before.attachments.updateWhere condition change)
    (stored : now.processingState = .stored) : ∃ verification ∈ verified,
      now.s3Key = some verification.objectKey ∧
      now.sizeBytes = some (verification.sizeBytes : ℤ) ∧
      now.contentType = verification.contentType ∧ IsEmailKey verification.objectKey := by
  obtain ⟨old, was, rfl⟩ := Table.mem_updateWhere.mp there
  split at stored
  · exact absurd stored (opens old)
  · rw [if_neg ‹_›]
    exact recorded.attachment id old was stored

/-- Updating attachments without touching their types keeps types valid. -/
theorem Recorded.typed_updateWhere (recorded : Recorded verified before)
    {condition : ℕ → ReceivedEmailAttachment → Bool}
    {change : ReceivedEmailAttachment → ReceivedEmailAttachment}
    (kept : ∀ attachment, (change attachment).contentType = attachment.contentType) {id : ℕ}
    {now : ReceivedEmailAttachment}
    (there : (id, now) ∈ before.attachments.updateWhere condition change) :
    validateContentType now.contentType = .ok ⟨⟩ := by
  obtain ⟨old, was, rfl⟩ := Table.mem_updateWhere.mp there
  split
  · rw [kept]
    exact recorded.typed id old was
  · exact recorded.typed id old was

/-- What may be recorded: verified objects only. -/
structure PermitsVerified (permits : Permits) (verified : List Verification) (inbox : Tables) :
    Prop where
  body : ∀ objectKey contentType, permits.body (some objectKey) contentType →
    ∃ verification ∈ verified, verification.objectKey = objectKey ∧
      contentType = verification.contentType ∧ IsEmailKey objectKey
  object : ∀ attachmentId objectKey sizeBytes, permits.object attachmentId objectKey sizeBytes →
    ∃ verification ∈ verified, objectKey = verification.objectKey ∧
      sizeBytes = (verification.sizeBytes : ℤ) ∧ IsEmailKey verification.objectKey ∧
      ∃ attachment, (attachmentId, attachment) ∈ inbox.attachments ∧
        attachment.contentType = verification.contentType

/-- Where nothing may be recorded, only verified objects may. -/
theorem PermitsVerified.none : PermitsVerified .none verified before :=
  ⟨fun _ _ allowed => allowed.elim, fun _ _ _ allowed => allowed.elim⟩

/-- A change that records verified objects only keeps rows recorded. -/
theorem Change.recorded (change : Change permits before after)
    (allowed : PermitsVerified permits verified before) (recorded : Recorded verified before) :
    Recorded verified after := by
  cases change with
  | received email pending empty new =>
    refine ⟨fun id now objectKey there names => ?_, recorded.attachment, recorded.typed⟩
    rcases Table.mem_insert.mp there with old | fresh
    · exact recorded.body id now objectKey old names
    · -- A new email has no body yet.
      cases fresh
      rw [empty] at names
      cases names
  | attached attachment email there_ allowed_ pending typed =>
    refine ⟨recorded.body, fun id now there stored => ?_, fun id now there => ?_⟩
    · rcases Table.mem_insert.mp there with old | fresh
      · exact recorded.attachment id now old stored
      · cases fresh
        rw [pending] at stored
        cases stored
    · rcases Table.mem_insert.mp there with old | fresh
      · exact recorded.typed id now old
      · cases fresh
        exact typed
  | expired emailId staleCutoff => exact ⟨recorded.body, recorded.attachment, recorded.typed⟩
  | claimed email lease updatedAt there_ unfinished free =>
    refine ⟨fun id now objectKey there names => ?_, fun id now there stored => ?_,
      fun id now there => ?_⟩
    · refine recorded.updateEmails ?_ there names
      exact fun _ => ⟨rfl, rfl⟩
    · refine recorded.updateAttachments ?_ there stored
      exact fun _ done => by cases done
    · refine recorded.typed_updateWhere ?_ there
      exact fun _ => rfl
  | bodyRecorded emailId leaseToken bodyKey contentType updatedAt permitted owned =>
    refine ⟨fun id now objectKey there names => ?_, recorded.attachment, recorded.typed⟩
    obtain ⟨old, was, rfl⟩ := Table.mem_updateWhere.mp there
    split at names
    · -- The recorded body was permitted, so it was verified.
      rw [if_pos ‹_›]
      have same : bodyKey = some objectKey := names
      obtain ⟨verification, known, key, type, email⟩ :=
        allowed.body objectKey contentType (same ▸ permitted)
      exact ⟨verification, known, key, congrArg some type, email⟩
    · rw [if_neg ‹_›]
      exact recorded.body id old objectKey was names
  | attachmentStored emailId attachmentId leaseToken objectKey sizeBytes permitted owned =>
    refine ⟨recorded.body, fun id now there stored => ?_, fun id now there => ?_⟩
    · obtain ⟨old, was, rfl⟩ := Table.mem_updateWhere.mp there
      split at stored
      · -- The row of the attachment has the type that was verified.
        rename_i isOpen
        rw [if_pos isOpen]
        simp only [ReceivedEmailAttachment.isOpen, Bool.and_eq_true, beq_iff_eq] at isOpen
        obtain ⟨verification, known, key, size, email, row, there, type⟩ :=
          allowed.object attachmentId objectKey sizeBytes permitted
        obtain rfl := Table.unique (isOpen.1.1 ▸ was) there
        exact ⟨verification, known, congrArg some key, congrArg some size, type, email⟩
      · rw [if_neg ‹_›]
        exact recorded.attachment id old was stored
    · refine recorded.typed_updateWhere ?_ there
      exact fun _ => rfl
  | attachmentFailed emailId attachmentId leaseToken owned =>
    refine ⟨recorded.body, fun id now there stored => ?_, fun id now there => ?_⟩
    · refine recorded.updateAttachments ?_ there stored
      exact fun _ done => by cases done
    · refine recorded.typed_updateWhere ?_ there
      exact fun _ => rfl
  | completed emailId leaseToken updatedAt owned whole =>
    refine ⟨fun id now objectKey there names => ?_, recorded.attachment, recorded.typed⟩
    refine recorded.updateEmails ?_ there names
    exact fun _ => ⟨rfl, rfl⟩
  | failed emailId leaseToken publicError updatedAt owned =>
    refine ⟨fun id now objectKey there names => ?_, recorded.attachment, recorded.typed⟩
    refine recorded.updateEmails ?_ there names
    exact fun _ => ⟨rfl, rfl⟩

/-- What may be recorded stays verified while types are kept. -/
theorem PermitsVerified.kept (allowed : PermitsVerified permits verified before)
    (kept : TypesKept before after) : PermitsVerified permits verified after := by
  refine ⟨allowed.body, fun attachmentId objectKey sizeBytes permitted => ?_⟩
  obtain ⟨verification, known, key, size, email, row, there, type⟩ :=
    allowed.object attachmentId objectKey sizeBytes permitted
  obtain ⟨now, last, same⟩ := kept attachmentId row there
  exact ⟨verification, known, key, size, email, now, last, same.trans type⟩

/-- Changes that record verified objects only keep rows recorded. -/
theorem Recorded.changes (changes : ReflTransGen (Change permits) before after)
    (allowed : PermitsVerified permits verified before) (recorded : Recorded verified before) :
    Recorded verified after := by
  induction changes with
  | refl => exact recorded
  | tail earlier change ih => exact change.recorded (allowed.kept (.changes earlier)) ih

/-- A request that records verified objects only keeps rows recorded, and types. -/
theorem InboxOp.run_recorded (platform : MailPlatform) (op : InboxOp) (permits : Permits)
    (done : op.run platform before = .ok after) (within : op.Within platform permits before)
    (allowed : PermitsVerified permits verified before) (recorded : Recorded verified before) :
    Recorded verified after ∧ TypesKept before after :=
  have changes := InboxOp.run_changes within done
  ⟨recorded.changes changes allowed, .changes changes⟩

end Rows

/-- The objects under keys of emails have types without parameters. -/
def EmailObjects (objects : ObjectStore) : Prop :=
  ∀ objectKey object, objects.get? objectKey = some object → IsEmailKey objectKey →
    ∃ contentType, object.contentType = some contentType ∧ IsPlain contentType

/-- What every step of a worker keeps, given what was verified before. -/
structure StepSound (known : List Verification) (inbox : Tables) (objects : ObjectStore)
    (outcome : WorkerOutcome) : Prop where
  /-- The rows stay recorded. -/
  rows : Recorded known outcome.inbox
  /-- Attachments keep their types. -/
  kept : TypesKept inbox outcome.inbox
  /-- A request that is sent is one for an email. -/
  sent : ∀ request ∈ outcome.sent, IsEmailPut request.objectKey request.contentType
  /-- A request counts as verified when the store has its object. -/
  verified : ∀ request ∈ outcome.verified, IsEmailKey request.objectKey ∧
    request.verification.Holds objects
  /-- The worker is sound where it goes on. -/
  phase : ∀ larger : List Verification, (∀ verification ∈ known, verification ∈ larger) →
    (∀ request ∈ outcome.verified, request.verification ∈ larger) →
    outcome.phase.Sound larger outcome.inbox

section Steps

variable {verified : List Verification} {inbox : Tables} {objects : ObjectStore}
  {claim : ClaimedEmail}

/-- The objects of bodies are ones for emails. -/
theorem bodyObject_isEmailPut {email : ReceivedEmail} {content : ProviderEmail}
    {objectKey contentType : String} {body : List UInt8}
    (chosen : bodyObject email content = some (objectKey, body, contentType)) :
    IsEmailPut objectKey contentType := by
  have html : mediaType "text/html" = "text/html" := by decide +kernel
  have text : mediaType "text/plain" = "text/plain" := by decide +kernel
  unfold bodyObject at chosen
  split at chosen
  · cases chosen
    exact ⟨⟨_, rfl⟩, html⟩
  · obtain ⟨_, -, same⟩ := Option.map_eq_some_iff.mp chosen
    cases same
    exact ⟨⟨_, rfl⟩, text⟩

/-- Going on with the attachments is sound. -/
theorem Phase.bodyDone_sound (sound : ClaimSound inbox claim) :
    (Phase.bodyDone claim).Sound verified inbox := by
  unfold bodyDone
  split <;> exact sound

/-- Starting is sound. -/
theorem Phase.start_sound (sound : ClaimSound inbox claim) :
    (Phase.start claim).Sound verified inbox := by
  unfold start
  split
  · exact sound
  · exact bodyDone_sound sound

/-- Going on with the next attachment is sound. -/
theorem Phase.next_sound (sound : ClaimSound inbox claim) {remote : List ProviderAttachment}
    {rest : List (ℕ × ReceivedEmailAttachment)} (inside : ∀ entry ∈ rest, entry ∈ claim.attachments) :
    (Phase.next claim remote rest).Sound verified inbox := by
  cases rest with
  | nil => exact sound
  | cons entry rest =>
    simp only [next]
    split
    · exact ⟨sound, inside⟩
    · exact sound

/-- Giving an object up is sound. -/
theorem Target.failed_sound (sound : ClaimSound inbox claim) (failure : WorkflowFailure)
    (target : Target) : (target.failed claim failure).Sound verified inbox := by
  cases target <;> exact sound

/-- Going on after an object is recorded is sound. -/
theorem Target.recorded_sound (sound : ClaimSound inbox claim) {contentType : String}
    {target : Target} (part : target.Sound claim contentType) :
    (target.recorded claim).Sound verified inbox := by
  cases target with
  | body => exact Phase.bodyDone_sound sound
  | attachment entry rest remote =>
    exact Phase.next_sound sound fun other member => part.1 other (List.mem_cons_of_mem _ member)

/-- Going on without an effect keeps everything. -/
theorem Phase.continue_sound {phase : Phase} (recorded : Recorded verified inbox)
    (sound : phase.Sound verified inbox) :
    StepSound verified inbox objects (phase.continue_ inbox) where
  rows := recorded
  kept := fun _ attachment there => ⟨attachment, there, rfl⟩
  sent := fun _ none_ => by cases none_
  verified := fun _ none_ => by cases none_
  phase := fun _ more _ => sound.kept (fun _ attachment there => ⟨attachment, there, rfl⟩) more

/-- Executing a statement that keeps rows recorded keeps everything. -/
theorem WorkerOutcome.executed_sound {result : InboxResult Tables} {done failed : Phase}
    (recorded : Recorded verified inbox)
    (keeps : ∀ after, result = .ok after → Recorded verified after ∧ TypesKept inbox after)
    (doneSound : done.Sound verified inbox) (failedSound : failed.Sound verified inbox) :
    StepSound verified inbox objects (.executed inbox result done failed) := by
  cases result with
  | error => exact Phase.continue_sound recorded failedSound
  | ok after =>
    obtain ⟨rows, kept⟩ := keeps after rfl
    exact
      { rows, kept
        sent := fun _ none_ => by cases none_
        verified := fun _ none_ => by cases none_
        phase := fun _ more _ => doneSound.kept kept more }

/-- An acquired claim lists the attachments that are recorded. -/
theorem claimOn_acquired {email : ℕ × ReceivedEmail} {leaseToken : String} {clock : ClaimClock}
    {after : Tables} (done : claimOn email leaseToken clock inbox = .ok (.acquired claim, after)) :
    ClaimSound after claim := by
  unfold claimOn at done
  split at done
  · cases done
  · dsimp only at done
    split at done
    · cases done
    · simp only [bind_eq_ok, pure_eq_ok, Prod.mk.injEq, ClaimOutcome.acquired.injEq] at done
      obtain ⟨_, -, rfl, rfl⟩ := done
      intro entry member
      exact ⟨entry.2, (List.mem_filter.mp member).1, rfl⟩

/-- Starting with a claim keeps everything. -/
theorem WorkerOutcome.ofClaim_sound {result : InboxResult (ClaimOutcome × Tables)}
    (recorded : Recorded verified inbox)
    (keeps : ∀ outcome after, result = .ok (outcome, after) →
      Recorded verified after ∧ TypesKept inbox after)
    (acquires : ∀ claim after, result = .ok (.acquired claim, after) → ClaimSound after claim) :
    StepSound verified inbox objects (.ofClaim inbox result) := by
  have committed : ∀ (phase : Phase) outcome after, result = .ok (outcome, after) →
      phase.Sound verified after → StepSound verified inbox objects (phase.continue_ after) := by
    intro phase outcome after done sound
    obtain ⟨rows, kept⟩ := keeps outcome after done
    exact { Phase.continue_sound rows sound with kept }
  unfold ofClaim
  split
  · exact committed _ _ _ rfl (Phase.start_sound (acquires _ _ rfl))
  · exact committed _ _ _ rfl trivial
  · exact Phase.continue_sound recorded trivial

/-- Every step of a sound worker keeps everything. -/
theorem Phase.step_sound {platform : MediaPlatform} {phase : Phase} {input : WorkerInput}
    {outcome : WorkerOutcome} (recorded : Recorded verified inbox) (plain : EmailObjects objects)
    (sound : phase.Sound verified inbox)
    (stepped : phase.step platform inbox objects input = some outcome) :
    StepSound verified inbox objects outcome := by
  -- Requests that record nothing need no permission.
  have keeps : ∀ (op : InboxOp) {after : Tables},
      op.run platform.toMailPlatform inbox = .ok after →
      op.Within platform.toMailPlatform .none inbox →
      Recorded verified after ∧ TypesKept inbox after :=
    fun op _ done within => InboxOp.run_recorded _ op .none done within .none recorded
  unfold Phase.step at stepped
  split at stepped
  case h_1 draft leaseToken clock =>
    cases stepped
    refine WorkerOutcome.ofClaim_sound recorded (fun outcome after done => ?_)
      fun claim after done => ?_
    · refine keeps (.claimWebhook draft leaseToken clock) ?_ fun _ _ _ _ _ => .inl trivial
      simp only [InboxOp.run, done, Except.map]
    · obtain ⟨_, _, -, -, -, claimed⟩ := claimWebhook_ok done
      exact claimOn_acquired claimed
  case h_2 emailId leaseToken clock =>
    cases stepped
    refine WorkerOutcome.ofClaim_sound recorded (fun outcome after done => ?_)
      fun claim after done => ?_
    · refine keeps (.claimRetry emailId leaseToken clock) ?_ trivial
      simp only [InboxOp.run, done, Except.map]
    · simp only [claimRetry, bind_eq_ok] at done
      obtain ⟨_, -, _, -, _, -, claimed⟩ := done
      exact claimOn_acquired claimed
  case h_3 claim response =>
    cases stepped
    refine continue_sound recorded ?_
    unfold fetched
    split
    · exact sound
    · split
      · rename_i chosen
        exact ⟨sound, bodyObject_isEmailPut chosen, trivial⟩
      · exact sound
  case h_4 claim objectKey body contentType target =>
    obtain ⟨claimSound, isPut, part⟩ := sound
    split at stepped
    · rename_i request made
      cases stepped
      simp only [putRequest, bind_eq_ok, pure_eq_ok] at made
      obtain ⟨_, -, _, -, rfl⟩ := made
      exact
        { rows := recorded
          kept := fun _ attachment there => ⟨attachment, there, rfl⟩
          sent := fun request is => by
            cases is
            exact isPut
          verified := fun _ none_ => by cases none_
          phase := fun _ _ _ => ⟨claimSound, isPut, part⟩ }
    · cases stepped
      exact continue_sound recorded (Target.failed_sound claimSound _ _)
  case h_5 claim request target =>
    obtain ⟨claimSound, isPut, part⟩ := sound
    split at stepped
    · rename_i existing accepted
      cases stepped
      -- The store reports the size and type of the request, and its own type is a plain one.
      simp only [PutRequest.checkExisting, bind_eq_ok, required_eq_ok, ensure_eq_ok, pure_eq_ok,
        Media.head, Option.map_eq_some_iff, Bool.and_eq_true, beq_iff_eq] at accepted
      obtain ⟨_, ⟨object, found, rfl⟩, _, ⟨⟨size, type⟩, -⟩, -⟩ := accepted
      obtain ⟨contentType, has, isPlain⟩ := plain _ object found isPut.1
      have holds : request.verification.Holds objects := by
        refine ⟨object, found, size, ?_⟩
        simp only [StoredObject.head, has, Option.some.injEq] at type
        obtain ⟨_, rfl, same⟩ := type
        rw [has, ← isPlain, same]
        rfl
      exact
        { rows := recorded
          kept := fun _ attachment there => ⟨attachment, there, rfl⟩
          sent := fun _ none_ => by cases none_
          verified := fun request is => by
            cases is
            exact ⟨isPut.1, holds⟩
          phase := fun _ _ done => ⟨claimSound, isPut, part, done request rfl⟩ }
    · cases stepped
      exact continue_sound recorded (Target.failed_sound claimSound _ _)
  case h_6 claim request target =>
    cases stepped
    exact continue_sound recorded (Target.failed_sound sound.1 _ _)
  case h_7 claim request target updatedAt =>
    cases stepped
    obtain ⟨claimSound, isPut, part, known⟩ := sound
    refine WorkerOutcome.executed_sound recorded (fun after done => ?_)
      (Target.recorded_sound claimSound part) (Target.failed_sound claimSound _ _)
    cases target with
    | body =>
      -- The recorded body is the verified object.
      refine InboxOp.run_recorded platform.toMailPlatform
        (.recordBody claim.email.1 claim.leaseToken (some request.objectKey)
          request.contentType updatedAt) ⟨fun _ => True, fun objectKey contentType =>
            objectKey = some request.objectKey ∧ contentType = request.contentType,
            fun _ _ _ => False⟩ done ⟨rfl, rfl⟩ ⟨?_, fun _ _ _ none_ => none_.elim⟩ recorded
      intro objectKey contentType allowed
      exact ⟨_, known, Option.some.inj allowed.1.symm, allowed.2,
        Option.some.inj allowed.1 ▸ isPut.1⟩
    | attachment entry rest remote =>
      -- The recorded attachment is the verified object, and its row has the verified type.
      refine InboxOp.run_recorded platform.toMailPlatform
        (.markAttachmentStored claim.email.1 entry.1 claim.leaseToken request.objectKey
          request.body.length) ⟨fun _ => True, fun _ _ => False,
            fun attachmentId objectKey sizeBytes => attachmentId = entry.1 ∧
              objectKey = request.objectKey ∧ sizeBytes = request.body.length⟩
        done ⟨rfl, rfl, rfl⟩ ⟨fun _ _ none_ => none_.elim, ?_⟩ recorded
      intro attachmentId objectKey sizeBytes allowed
      obtain ⟨rfl, rfl, rfl⟩ := allowed
      obtain ⟨row, there, type⟩ := claimSound entry (part.1 entry List.mem_cons_self)
      exact ⟨_, known, rfl, rfl, isPut.1, row, there, type.trans part.2.symm⟩
  case h_8 claim request target =>
    cases stepped
    exact continue_sound recorded (Target.failed_sound sound.1 _ _)
  case h_9 claim updatedAt =>
    cases stepped
    refine WorkerOutcome.executed_sound recorded (fun after done => ?_) (bodyDone_sound sound) sound
    refine InboxOp.run_recorded platform.toMailPlatform
        (.recordBody claim.email.1 claim.leaseToken none "text/plain" updatedAt)
      ⟨fun _ => True, fun objectKey _ => objectKey = none, fun _ _ _ => False⟩
      done rfl ⟨fun _ _ named => (by cases named), fun _ _ _ none_ => none_.elim⟩ recorded
  case h_10 claim => cases stepped; exact continue_sound recorded sound
  case h_11 claim response =>
    cases stepped
    refine continue_sound recorded ?_
    unfold matched
    split
    · exact sound
    · split
      · exact next_sound sound fun entry member => (List.mem_filter.mp member).1
      · exact sound
  case h_12 claim entry rest remote response =>
    cases stepped
    refine continue_sound recorded ?_
    obtain ⟨claimSound, inside⟩ := sound
    unfold fetchedAttachment
    split
    · exact claimSound
    · split
      · obtain ⟨row, there, type⟩ := claimSound entry (inside entry List.mem_cons_self)
        have isPlain := isPlain_of_valid (recorded.typed _ _ there)
        exact ⟨claimSound, ⟨⟨_, rfl⟩, type ▸ isPlain⟩, inside, rfl⟩
      · exact claimSound
  case h_13 claim updatedAt =>
    cases stepped
    refine WorkerOutcome.executed_sound recorded (fun after done => ?_) trivial sound
    exact keeps (.complete claim.email.1 claim.leaseToken updatedAt) done trivial
  case h_14 claim => cases stepped; exact continue_sound recorded sound
  case h_15 claim attachmentId failure updatedAt =>
    cases stepped
    refine WorkerOutcome.executed_sound recorded (fun after done => ?_) sound sound
    exact keeps (.markAttachmentError claim.email.1 attachmentId claim.leaseToken) done trivial
  case h_16 claim attachmentId failure => cases stepped; exact continue_sound recorded sound
  case h_17 claim failure updatedAt =>
    cases stepped
    refine WorkerOutcome.executed_sound recorded (fun after done => ?_) trivial trivial
    exact keeps (.fail claim.email.1 claim.leaseToken failure.publicError updatedAt) done
      trivial
  case h_18 claim failure => cases stepped; exact continue_sound recorded trivial
  case h_19 =>
    -- Time runs out in every phase that processes a claim.
    obtain ⟨claim, processes, rfl⟩ := Option.map_eq_some_iff.mp stepped
    refine continue_sound recorded ?_
    cases phase with
    | idle | fail => cases processes
    | process | recordEmpty | list | complete | giveUp =>
      cases processes
      exact sound
    | put | head | record | download =>
      cases processes
      exact sound.1
  case h_20 => cases stepped; exact continue_sound recorded trivial
  case h_21 => cases stepped

end Steps

end FinStream.Inbox
