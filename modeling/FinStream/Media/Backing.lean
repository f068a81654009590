import FinStream.Media.Objects

/-! Rows are backed in every reachable state: what is verified stays so under every later write. -/

namespace FinStream.Media

open Store Inbox

/-- Claims under the key generated for them, with a marker of eighteen random bytes. -/
structure UploadClaims.IsSigned (claims : UploadClaims) : Prop where
  generated : generatedPhotoKey claims.draft claims.issuedAt claims.uploadMarker =
    .ok claims.objectKey
  marker : claims.uploadMarker.toList.length = 24
  plain : IsPlain claims.contentType

/-- A draft that is accepted has a type without parameters. -/
theorem validateUploadDraft_plain {draft : UploadIntentDraft}
    (valid : validateUploadDraft draft = .ok ⟨⟩) : IsPlain draft.contentType := by
  simp only [validateUploadDraft, ensure_eq_ok, Bool.and_eq_true, beq_iff_eq] at valid
  exact (normalizeContentType_eq_some.mp valid.2).1

/-- A key of a photo ends in its marker and an extension without a dot. -/
theorem UploadClaims.IsSigned.key_eq {claims : UploadClaims} (signed : claims.IsSigned) :
    ∃ start extension, claims.objectKey.toList =
      'l' :: start ++ claims.uploadMarker.toList ++ '.' :: extension ∧ '.' ∉ extension := by
  have generated := signed.generated
  simp only [generatedPhotoKey, bind_eq_ok, required_eq_ok, canonicalKey_eq_ok] at generated
  obtain ⟨extension, known, -, key⟩ := generated
  have dotless : '.' ∉ extension.toList := by
    unfold photoExtension at known
    split at known <;> cases known <;> decide
  refine ⟨"oan-workspace/".toList ++ (loanSegment claims.draft.loanAccount).toList ++
    "/manual-".toList ++ (toString claims.issuedAt).toList ++ "-".toList, extension.toList, ?_,
    dotless⟩
  rw [key]
  simp [canonicalPhotoPath, String.toList_append]

/-- Signed claims with one key have one marker. -/
theorem UploadClaims.IsSigned.marker_eq {left right : UploadClaims} (leftSigned : left.IsSigned)
    (rightSigned : right.IsSigned) (same : left.objectKey = right.objectKey) :
    left.uploadMarker = right.uploadMarker := by
  obtain ⟨leftStart, leftEnd, leftKey, leftDotless⟩ := leftSigned.key_eq
  obtain ⟨rightStart, rightEnd, rightKey, rightDotless⟩ := rightSigned.key_eq
  -- Read from the end, the extension stops at the first dot.
  have before : ∀ (start extension : List Char), '.' ∉ extension →
      ((start ++ '.' :: extension).reverse.dropWhile (· != '.')) = '.' :: start.reverse := by
    intro start extension dotless
    rw [List.reverse_append, List.reverse_cons, List.append_assoc, List.dropWhile_append_of_pos]
    · simp
    · intro character member
      have : character ≠ '.' := fun is => dotless (by simpa [is] using member)
      simpa using this
  have leftRead := before ('l' :: leftStart ++ left.uploadMarker.toList) leftEnd leftDotless
  have rightRead := before ('l' :: rightStart ++ right.uploadMarker.toList) rightEnd rightDotless
  rw [← leftKey, same, rightKey, rightRead, List.cons.injEq, List.reverse_inj] at leftRead
  -- What is left of the two keys ends in markers of one length.
  have markers := List.append_inj_right' leftRead.2 (rightSigned.marker.trans leftSigned.marker.symm)
  exact (String.toList_injective markers).symm

/-- The key of a photo is not the key of an email's object. -/
theorem UploadClaims.IsSigned.not_isEmailKey {claims : UploadClaims} (signed : claims.IsSigned) :
    ¬ IsEmailKey claims.objectKey := by
  intro isEmail
  obtain ⟨rest, email⟩ := isEmail
  obtain ⟨start, extension, key, -⟩ := signed.key_eq
  rw [email, String.toList_append] at key
  have first := congrArg List.head? key
  have : ("emails/".toList ++ rest.toList).head? = some 'e' := rfl
  rw [this] at first
  cases first

/-- Appending a write under another key does not change which write was the first. -/
theorem find?_append_of_ne {writes : List (String × StoredObject)} {objectKey other : String}
    {object : StoredObject} (different : other ≠ objectKey) :
    (writes ++ [(other, object)]).find? (·.1 == objectKey) =
      writes.find? (·.1 == objectKey) := by
  rw [List.find?_append]
  have skipped : [(other, object)].find? (·.1 == objectKey) = none := by simp [different]
  rw [skipped, Option.or_none]

/-- What every step keeps. -/
structure Backing (state : MediaState) : Prop where
  signed : ∀ claims ∈ state.intents, claims.IsSigned
  markers : ∀ left ∈ state.intents, ∀ right ∈ state.intents,
    left.uploadMarker = right.uploadMarker → left = right
  requests : ∀ request ∈ state.requests, IsEmailPut request.objectKey request.contentType
  plain : ∀ objectKey object, state.objects.get? objectKey = some object →
    ∃ contentType, object.contentType = some contentType ∧ IsPlain contentType
  first : ∀ objectKey object, state.objects.get? objectKey = some object → IsEmailKey objectKey →
    state.writes.find? (·.1 == objectKey) = some (objectKey, object)
  unwritten : ∀ objectKey, state.objects.get? objectKey = none →
    state.writes.find? (·.1 == objectKey) = none
  verified : ∀ verification ∈ state.verified, verification.Holds state.objects ∧
    (IsEmailKey verification.objectKey ∨
      ∃ claims ∈ state.intents, verification = claims.verification)
  rows : Recorded state.verified state.inbox
  workers : ∀ index, (state.workers index).Sound state.verified state.inbox
  photos : ∀ id photo, (id, photo) ∈ state.photos → ∃ verification ∈ state.verified,
    photoRouteUrl verification.objectKey = .ok photo.imageUrl
  finalizers : ∀ index upload, state.finalizers index = some upload →
    ∃ verification ∈ state.verified,
      photoRouteUrl verification.objectKey = .ok upload.imageUrl

/-- Backed rows name objects that are there. -/
theorem Backing.rowsBacked {platform : MediaPlatform} {state : MediaState}
    (backing : Backing state) : RowsBacked platform state := by
  have written : ∀ verification ∈ state.verified, IsEmailKey verification.objectKey →
      FirstWritten state verification.objectKey := by
    intro verification known email
    obtain ⟨object, found, -, -⟩ := (backing.verified verification known).1
    exact ⟨object, found, backing.first _ object found email⟩
  refine ⟨fun id email objectKey there names => ?_, fun id attachment there stored => ?_,
    fun id photo there => ?_⟩
  · obtain ⟨verification, known, rfl, type, isEmail⟩ :=
      backing.rows.body id email objectKey there names
    exact ⟨verification, known, rfl, type, (backing.verified _ known).1,
      written _ known isEmail⟩
  · obtain ⟨verification, known, key, size, type, isEmail⟩ :=
      backing.rows.attachment id attachment there stored
    exact ⟨verification, known, key, size, type, (backing.verified _ known).1,
      written _ known isEmail⟩
  · obtain ⟨verification, known, address⟩ := backing.photos id photo there
    exact ⟨verification, known, classifyPhoto_routeUrl address, (backing.verified _ known).1⟩

section Steps

variable {platform : MediaPlatform} {before after : MediaState}

/-- A create that reaches the store keeps rows backed. -/
theorem Backing.deliver (backing : Backing before) {request : PutRequest}
    (isPut : IsEmailPut request.objectKey request.contentType) :
    Backing (before.deliver request) := by
  have kept : ∀ verification : Verification, verification.Holds before.objects →
      verification.Holds (before.objects.create request.objectKey request.object) := by
    intro verification holds
    obtain ⟨object, found, rest⟩ := holds
    exact ⟨object, Bucket.get?_create_of_some found, rest⟩
  refine { backing with plain := ?_, first := ?_, unwritten := ?_, verified := ?_ }
  · intro objectKey object found
    rw [MediaState.deliver, Bucket.get?_create] at found
    split at found
    · -- The object under the key is the old one or the new one.
      rename_i same
      subst same
      cases old : before.objects.get? request.objectKey with
      | some stored =>
        rw [old] at found
        cases found
        exact backing.plain _ _ old
      | none =>
        rw [old] at found
        cases found
        exact ⟨request.contentType, rfl, isPut.2⟩
    · exact backing.plain objectKey object found
  · intro objectKey object found isEmail
    rw [MediaState.deliver, Bucket.get?_create] at found
    simp only [MediaState.deliver]
    split at found
    · rename_i same
      subst same
      cases old : before.objects.get? request.objectKey with
      | some stored =>
        rw [old] at found
        cases found
        exact backing.first _ _ old isEmail
      | none =>
        rw [old] at found
        cases found
        rw [if_neg (by simp), List.find?_append, backing.unwritten _ old]
        simp
    · rename_i different
      split
      · exact backing.first objectKey object found isEmail
      · rw [find?_append_of_ne (Ne.symm different)]
        exact backing.first objectKey object found isEmail
  · intro objectKey missing
    rw [MediaState.deliver, Bucket.get?_create] at missing
    simp only [MediaState.deliver]
    split at missing
    · cases missing
    · rename_i different
      split
      · exact backing.unwritten objectKey missing
      · rw [find?_append_of_ne (Ne.symm different)]
        exact backing.unwritten objectKey missing
  · intro verification known
    obtain ⟨holds, origin⟩ := backing.verified verification known
    exact ⟨kept verification holds, origin⟩

/-- A browser's upload keeps rows backed: it may replace its own object by one of the same type. -/
theorem Backing.upload (backing : Backing before) {claims : UploadClaims} {bytes : List UInt8}
    {sha256 : Option String} {objects : ObjectStore} (signed : claims ∈ before.intents)
    (uploaded : claims.upload bytes sha256 before.objects = some objects) :
    Backing { before with
      objects
      writes := before.writes ++ (objects.get? claims.objectKey).toList.map
        (claims.objectKey, ·) } := by
  have foreign := (backing.signed claims signed).not_isEmailKey
  unfold UploadClaims.upload at uploaded
  split at uploaded
  · rename_i size
    cases uploaded
    have other : ∀ {objectKey : String}, IsEmailKey objectKey → objectKey ≠ claims.objectKey :=
      fun isEmail same => foreign (same ▸ isEmail)
    have writes : (((before.objects.put claims.objectKey
        { bytes, contentType := some claims.contentType
          uploadMarker := some claims.uploadMarker, sha256 }).get? claims.objectKey).toList.map
          (claims.objectKey, ·)) = [(claims.objectKey,
        { bytes, contentType := some claims.contentType
          uploadMarker := some claims.uploadMarker, sha256 })] := by
      rw [Bucket.get?_put, if_pos rfl]
      rfl
    rw [writes]
    refine { backing with plain := ?_, first := ?_, unwritten := ?_, verified := ?_ }
    · intro objectKey object found
      rw [Bucket.get?_put] at found
      split at found
      · cases found
        exact ⟨claims.contentType, rfl, (backing.signed claims signed).plain⟩
      · exact backing.plain objectKey object found
    · intro objectKey object found isEmail
      rw [Bucket.get?_put, if_neg (other isEmail)] at found
      rw [find?_append_of_ne (Ne.symm (other isEmail))]
      exact backing.first objectKey object found isEmail
    · intro objectKey missing
      rw [Bucket.get?_put] at missing
      split at missing
      · cases missing
      · rename_i different
        rw [find?_append_of_ne (Ne.symm different)]
        exact backing.unwritten objectKey missing
    · intro verification known
      obtain ⟨holds, origin⟩ := backing.verified verification known
      refine ⟨?_, origin⟩
      by_cases same : verification.objectKey = claims.objectKey
      · -- The verification was made for these very claims, whose size and type are enforced.
        rcases origin with isEmail | ⟨other_, signed_, rfl⟩
        · exact absurd same (other isEmail)
        · obtain rfl := backing.markers other_ signed_ claims signed
            ((backing.signed other_ signed_).marker_eq (backing.signed claims signed) same)
          exact ⟨_, by rw [UploadClaims.verification, Bucket.get?_put, if_pos rfl], size, rfl⟩
      · obtain ⟨object, found, rest⟩ := holds
        exact ⟨object, by rw [Bucket.get?_put, if_neg same]; exact found, rest⟩
  · cases uploaded

/-- Signing an upload with a fresh marker keeps rows backed. -/
theorem Backing.sign (backing : Backing before) {draft : UploadIntentDraft} {issuedAt : ℤ}
    {marker : String} {claims : UploadClaims} (fresh : freshMarker before.intents marker = true)
    (made : createUploadIntent draft issuedAt marker = .ok claims) :
    Backing { before with intents := before.intents ++ [claims] } := by
  simp only [createUploadIntent, bind_eq_ok, pure_eq_ok] at made
  obtain ⟨_, valid, objectKey, generated, _, -, rfl⟩ := made
  have plain := validateUploadDraft_plain valid
  simp only [freshMarker, Bool.and_eq_true, beq_iff_eq, List.all_eq_true, bne_iff_ne] at fresh
  refine { backing with signed := ?_, markers := ?_, verified := ?_ }
  · intro claims member
    rcases List.mem_append.mp member with old | new
    · exact backing.signed claims old
    · rw [List.mem_singleton.mp new]
      exact ⟨generated, fresh.1.1, plain⟩
  · intro left leftMember right rightMember same
    rcases List.mem_append.mp leftMember with leftOld | leftNew <;>
      rcases List.mem_append.mp rightMember with rightOld | rightNew
    · exact backing.markers left leftOld right rightOld same
    · -- No earlier upload has the fresh marker.
      rw [List.mem_singleton.mp rightNew] at same
      exact absurd same (fresh.2 left leftOld)
    · rw [List.mem_singleton.mp leftNew] at same
      exact absurd same.symm (fresh.2 right rightOld)
    · rw [List.mem_singleton.mp leftNew, List.mem_singleton.mp rightNew]
  · intro verification known
    obtain ⟨holds, origin⟩ := backing.verified verification known
    refine ⟨holds, origin.imp_right ?_⟩
    rintro ⟨claims, signed, same⟩
    exact ⟨claims, List.mem_append_left _ signed, same⟩

/-- A verified upload is there with the size and type of its claims. -/
theorem verifyUploadedIntent_ok {claims : UploadClaims} {connectionId : ℕ}
    {loanAccount : String} {now : ℤ} {objects : ObjectStore} {upload : VerifiedUpload}
    (accepted : verifyUploadedIntent claims connectionId loanAccount now
      (head claims.objectKey objects) = .ok upload)
    (typed : ∀ object, objects.get? claims.objectKey = some object →
      ∃ contentType, object.contentType = some contentType ∧ IsPlain contentType) :
    claims.verification.Holds objects ∧ photoRouteUrl claims.objectKey = .ok upload.imageUrl := by
  simp only [verifyUploadedIntent, bind_eq_ok, ensure_eq_ok, required_eq_ok, pure_eq_ok, head,
    Option.map_eq_some_iff, Bool.and_eq_true, beq_iff_eq] at accepted
  obtain ⟨_, -, _, -, _, -, _, ⟨object, found, rfl⟩, _, ⟨⟨size, type⟩, -⟩, imageUrl, address, rfl⟩ :=
    accepted
  obtain ⟨contentType, has, isPlain⟩ := typed object found
  refine ⟨⟨object, found, size, ?_⟩, address⟩
  -- The type was normalized, which does not change a plain one.
  simp only [StoredObject.head, has, Option.bind_some] at type
  have same := (normalizeContentType_eq_some.mp type).1
  rw [has, ← isPlain]
  exact congrArg some same

/-- A worker's step keeps rows backed. -/
theorem Backing.worker (backing : Backing before) {index : ℕ} {input : WorkerInput}
    {outcome : WorkerOutcome}
    (stepped : (before.workers index).step platform before.inbox before.objects input =
      some outcome) : Backing (before.worked index outcome) := by
  have email : EmailObjects before.objects :=
    fun objectKey object found _ => backing.plain objectKey object found
  have sound := Phase.step_sound backing.rows email (backing.workers index) stepped
  have more : ∀ verification ∈ before.verified,
      verification ∈ (before.worked index outcome).verified :=
    fun verification known => List.mem_append_left _ known
  refine { backing with
    requests := ?_, verified := ?_, rows := sound.rows.mono more, workers := ?_
    photos := ?_, finalizers := ?_ }
  · intro request member
    rcases List.mem_append.mp member with old | new
    · exact backing.requests request old
    · exact sound.sent request (Option.mem_toList.mp new)
  · intro verification member
    rcases List.mem_append.mp member with old | new
    · exact backing.verified verification old
    · -- The worker has just seen the object of its request.
      obtain ⟨request, is, rfl⟩ := List.mem_map.mp new
      obtain ⟨isEmail, holds⟩ := sound.verified request (Option.mem_toList.mp is)
      exact ⟨holds, .inl isEmail⟩
  · intro other
    by_cases same : other = index
    · simp only [MediaState.worked, if_pos same]
      refine sound.phase _ more fun request is => List.mem_append_right _ ?_
      exact List.mem_map.mpr ⟨request, Option.mem_toList.mpr is, rfl⟩
    · simp only [MediaState.worked, if_neg same]
      exact (backing.workers other).kept sound.kept more
  · intro id photo there
    obtain ⟨verification, known, address⟩ := backing.photos id photo there
    exact ⟨verification, more verification known, address⟩
  · intro other upload waiting
    obtain ⟨verification, known, address⟩ := backing.finalizers other upload waiting
    exact ⟨verification, more verification known, address⟩

/-- Verifying an upload keeps rows backed. -/
theorem Backing.verify (backing : Backing before) {index connectionId : ℕ} {claims : UploadClaims}
    {loanAccount : String} {now : ℤ} {upload : VerifiedUpload} (signed : claims ∈ before.intents)
    (accepted : verifyUploadedIntent claims connectionId loanAccount now
      (head claims.objectKey before.objects) = .ok upload) :
    Backing { before with
      finalizers := fun other => if other = index then some upload else before.finalizers other
      verified := before.verified ++ [claims.verification] } := by
  obtain ⟨holds, address⟩ := verifyUploadedIntent_ok accepted (backing.plain claims.objectKey)
  have more : ∀ verification ∈ before.verified,
      verification ∈ before.verified ++ [claims.verification] :=
    fun verification known => List.mem_append_left _ known
  have newest : claims.verification ∈ before.verified ++ [claims.verification] :=
    List.mem_append_right _ List.mem_cons_self
  refine { backing with
    verified := ?_, rows := backing.rows.mono more, workers := ?_, photos := ?_
    finalizers := ?_ }
  · intro verification member
    rcases List.mem_append.mp member with old | new
    · exact backing.verified verification old
    · rw [List.mem_singleton.mp new]
      exact ⟨holds, .inr ⟨claims, signed, rfl⟩⟩
  · intro other
    exact (backing.workers other).kept (fun _ attachment there => ⟨attachment, there, rfl⟩) more
  · intro id photo there
    obtain ⟨verification, known, address⟩ := backing.photos id photo there
    exact ⟨verification, more verification known, address⟩
  · intro other waitingUpload waiting
    dsimp only at waiting
    split at waiting
    · -- The finalization goes on with the upload that was just verified.
      cases waiting
      exact ⟨claims.verification, newest, address⟩
    · obtain ⟨verification, known, address⟩ := backing.finalizers other waitingUpload waiting
      exact ⟨verification, more verification known, address⟩

/-- A photo that is there after a finalization was there before, or has the address of the upload. -/
theorem mem_finalizePhoto {upload : VerifiedUpload} {connectionId id : ℕ} {createdAt : String}
    {photos : Table LoanWorkspacePhoto} {photo : LoanWorkspacePhoto}
    (there : (id, photo) ∈ finalizePhoto upload connectionId createdAt photos) :
    (id, photo) ∈ photos ∨ photo.imageUrl = upload.imageUrl := by
  unfold finalizePhoto at there
  dsimp only at there
  split at there
  · exact .inl there
  · split at there
    · rename_i recorded created
      simp only [createManualPhotoMetadata, bind_eq_ok] at created
      obtain ⟨_, -, created⟩ := created
      split at created
      · -- The photo is recorded already.
        cases created
        exact .inl there
      · cases created
        rcases Table.mem_insert.mp there with old | new
        · exact .inl old
        · cases new
          exact .inr rfl
    · exact .inl there

/-- Recording a photo keeps rows backed. -/
theorem Backing.finalize (backing : Backing before) {index connectionId : ℕ} {createdAt : String}
    {upload : VerifiedUpload} (waiting : before.finalizers index = some upload) :
    Backing { before with
      photos := finalizePhoto upload connectionId createdAt before.photos
      finalizers := fun other => if other = index then none else before.finalizers other } := by
  refine { backing with photos := ?_, finalizers := ?_ }
  · intro id photo there
    rcases mem_finalizePhoto there with old | new
    · exact backing.photos id photo old
    · rw [new]
      exact backing.finalizers index upload waiting
  · intro other otherUpload otherWaiting
    dsimp only at otherWaiting
    split at otherWaiting
    · cases otherWaiting
    · exact backing.finalizers other otherUpload otherWaiting

/-- Giving up a finalization keeps rows backed. -/
theorem Backing.abandon (backing : Backing before) (index : ℕ) :
    Backing { before with
      finalizers := fun other => if other = index then none else before.finalizers other } := by
  refine { backing with finalizers := ?_ }
  intro other upload waiting
  dsimp only at waiting
  split at waiting
  · cases waiting
  · exact backing.finalizers other upload waiting

/-- Every step keeps rows backed. -/
theorem Backing.step (backing : Backing before) {input : MediaInput}
    (stepped : before.step platform input = some after) : Backing after := by
  cases input with
  | worker index input =>
    obtain ⟨outcome, worked, rfl⟩ := Option.map_eq_some_iff.mp stepped
    exact backing.worker worked
  | deliver request =>
    simp only [MediaState.step] at stepped
    split at stepped
    · rename_i sent
      cases stepped
      exact backing.deliver (backing.requests request sent)
    · cases stepped
  | sign draft issuedAt marker =>
    simp only [MediaState.step] at stepped
    split at stepped
    · rename_i fresh
      split at stepped
      · rename_i claims made
        cases stepped
        exact backing.sign fresh made
      · -- A draft that is refused changes nothing.
        cases stepped
        exact backing
    · cases stepped
  | upload claims bytes sha256 =>
    simp only [MediaState.step] at stepped
    split at stepped
    · rename_i signed
      obtain ⟨objects, uploaded, rfl⟩ := Option.map_eq_some_iff.mp stepped
      exact backing.upload signed uploaded
    · cases stepped
  | verify index claims connectionId loanAccount now =>
    simp only [MediaState.step] at stepped
    split at stepped
    · rename_i signed
      split at stepped
      · rename_i upload accepted
        cases stepped
        exact backing.verify signed.1 accepted
      · -- An upload that is refused changes nothing.
        cases stepped
        exact backing
    · cases stepped
  | finalize index connectionId createdAt =>
    obtain ⟨upload, waiting, rfl⟩ := Option.map_eq_some_iff.mp stepped
    exact backing.finalize waiting
  | abandon index =>
    cases stepped
    exact backing.abandon index

end Steps

/-- Nothing is named before the first step. -/
theorem Backing.init {platform : MediaPlatform} {state : MediaState}
    (initial : (mediaSystem platform).init state) : Backing state := by
  obtain ⟨inbox, photos, objects, requests, intents, workers, finalizers, writes, verified⟩ :=
    initial
  -- Nothing is stored, asked for or under way at the start.
  refine
    { signed := ?_, markers := ?_, requests := ?_, plain := ?_, first := ?_, unwritten := ?_
      verified := ?_, rows := ?_, workers := ?_, photos := ?_, finalizers := ?_ }
  · rw [intents]
    exact fun _ member => nomatch member
  · rw [intents]
    exact fun _ member => nomatch member
  · rw [requests]
    exact fun _ member => nomatch member
  · rw [objects]
    exact fun _ _ found => nomatch found
  · rw [objects]
    exact fun _ _ found => nomatch found
  · rw [writes]
    exact fun _ _ => rfl
  · rw [verified]
    exact fun _ member => nomatch member
  · rw [inbox]
    exact ⟨fun _ _ _ there => absurd there (Table.not_mem_empty _),
      fun _ _ there => absurd there (Table.not_mem_empty _),
      fun _ _ there => absurd there (Table.not_mem_empty _)⟩
  · intro index
    rw [workers]
    exact trivial
  · rw [photos]
    exact fun _ _ there => absurd there (Table.not_mem_empty _)
  · intro index upload waiting
    rw [finalizers] at waiting
    cases waiting

/-- In every reachable state, every key a row names has the object that was verified for it. -/
theorem reachable_rowsBacked (platform : MediaPlatform) (state : MediaState)
    (reached : (mediaSystem platform).Reachable state) : RowsBacked platform state := by
  have backing : Backing state :=
    reached.invariant Backing (fun _ initial => .init initial)
      fun _ _ _ _ backing stepped => backing.step stepped
  exact backing.rowsBacked

/-- A platform that reads no absolute address and knows the digest of one text. -/
def plainMedia : MediaPlatform where
  toMailPlatform := plainMail
  hexDigest bytes :=
    if bytes = bytesOf "Hi" then "3639efcd08abb273b1619e82e78c29a7df02c1051b1820e99fc395dcaa3326b8"
    else ""
  absolute _ := .error .invalidKey

/-- Nothing has been stored yet. -/
def freshMedia : MediaState where
  inbox := .empty
  photos := .empty
  objects := .empty
  requests := []
  intents := []
  workers _ := .idle
  finalizers _ := none
  writes := []
  verified := []

/-- The request that puts the body of the email. -/
def bodyPut : PutRequest where
  objectKey := "emails/email_1/body.txt"
  body := bytesOf "Hi"
  contentType := "text/plain"
  sha256 := plainMedia.hexDigest (bytesOf "Hi")

/-- What the server signs for a photo of seven bytes. -/
def houseClaims : UploadClaims where
  version := 1
  connectionId := 1
  loanAccount := "L-1"
  fileName := "house.png"
  contentType := "image/png"
  sizeBytes := 7
  objectKey := "loan-workspace/L-1/manual-1000-AAAAAAAAAAAAAAAAAAAAAAAA.png"
  uploadMarker := "AAAAAAAAAAAAAAAAAAAAAAAA"
  issuedAt := 1000
  expiresAt := 1300

/-- An email is stored while a photo is uploaded and finalized. -/
def storedTogether : List MediaInput :=
  [.worker 0 (.webhook (inboundMail []) "aaaaaaaaaaaaaaaaaaaaaaaaaaaaaaaa" claimClock),
    .sign houseClaims.draft 1000 houseClaims.uploadMarker,
    .worker 0 (.content (.ok ⟨none, some "Hi"⟩)),
    .worker 0 .send,
    .upload houseClaims [1, 2, 3, 4, 5, 6, 7] none,
    .deliver bodyPut,
    .verify 0 houseClaims 1 "L-1" 1001,
    .worker 0 .headed,
    .finalize 0 1 "2026-07-01T12:00:00.000Z",
    .worker 0 (.execute "2026-07-01T12:00:01.000Z")]

/-- The email and the photo are recorded, and the objects they name are there. -/
theorem reachable_rowsBacked_together : ∃ state,
    System.play (MediaState.step plainMedia) storedTogether freshMedia = some state ∧
    (state.inbox.emails.rows.map (·.2.bodyS3Key)) = [some "emails/email_1/body.txt"] ∧
    (state.photos.rows.map (·.2.imageUrl)) =
      ["/media/loan-workspace/L-1/manual-1000-AAAAAAAAAAAAAAAAAAAAAAAA.png"] ∧
    RowsBacked plainMedia state := by
  have rows : ((System.play (MediaState.step plainMedia) storedTogether freshMedia).map
      fun state => (state.inbox.emails.rows.map (·.2.bodyS3Key),
        state.photos.rows.map (·.2.imageUrl))) =
      some ([some "emails/email_1/body.txt"],
        ["/media/loan-workspace/L-1/manual-1000-AAAAAAAAAAAAAAAAAAAAAAAA.png"]) := by
    decide +kernel
  obtain ⟨state, played, shown⟩ := Option.map_eq_some_iff.mp rows
  have run : (mediaSystem plainMedia).Run freshMedia storedTogether state :=
    System.play_run (fun _ _ _ taken => taken) storedTogether played
  have start : (mediaSystem plainMedia).Reachable freshMedia :=
    .init ⟨rfl, rfl, rfl, rfl, rfl, fun _ => rfl, fun _ => rfl, rfl, rfl⟩
  exact ⟨state, played, congrArg Prod.fst shown, congrArg Prod.snd shown,
    reachable_rowsBacked plainMedia state (run.reachable start)⟩

end FinStream.Media
