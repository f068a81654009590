import FinStream.Media.Authorization
import FinStream.Migration.Models

/-! The keys of migrated attachments, and which of them the application serves. -/

namespace FinStream.Migration

open Store

/-- The key of a file that came with an email. -/
def attachmentKey (resendEmailId name : String) : String :=
  "emails/" ++ resendEmailId ++ "/attachments/" ++ name

/-- Whether an identifier can be a segment of a key of the target. -/
def isCanonicalObjectSegment (value : String) : Bool :=
  value != "" && value == trim value && !(value == "." || value == "..") &&
    !value.toList.any (fun character => character == '/' || character == '\\' ||
      character == '%' || character == Char.ofNat 0) &&
    !value.toList.any isControl

/-- The name that the legacy writer stored a file under. -/
def legacyFilename (filename : String) : String :=
  String.ofList (filename.toList.map fun character =>
    if character == '/' || character == '\\' || character == Char.ofNat 0 then '_' else character)

/-- The key of an attachment in the target, if it has one in the source. -/
def transformAttachmentKey (resendEmailId : Option String) (resendAttachmentId filename : String)
    (sourceKey : Option String) : ExportResult (Option String) :=
  match sourceKey with
  | none => pure none
  | some sourceKey => do
    let resendEmailId ← required resendEmailId (manifestSafeBlocker
      "an attachment references an email row absent from the snapshot")
    ensure (!(!isCanonicalObjectSegment resendEmailId ||
        !isCanonicalObjectSegment resendAttachmentId)) (manifestSafeBlocker
      "an attachment provider identifier cannot form a canonical target object key")
    let legacyKey := attachmentKey resendEmailId (legacyFilename filename)
    let targetKey := attachmentKey resendEmailId resendAttachmentId
    ensure (!(sourceKey != legacyKey && sourceKey != targetKey)) (manifestSafeBlocker
      "an attachment object key does not match either the legacy or target writer contract")
    pure (some targetKey)

/-- Answers a request for a file of an email, given the keys that emails and attachments have. -/
def serveEmailObject (configured : Bool) (references : List String) (routeKey : String) :
    Media.PhotoResponse :=
  match Media.canonicalKey routeKey with
  | .ok objectKey =>
    if references.contains objectKey then Media.signedRedirect configured objectKey else .notFound
  | .error _ => .notFound

/-! ### What is accepted -/

/-- What the exporter asks of an attachment that has a key. -/
structure Accepted (resendEmailId resendAttachmentId filename sourceKey : String) : Prop where
  email : isCanonicalObjectSegment resendEmailId = true
  attachment : isCanonicalObjectSegment resendAttachmentId = true
  written : sourceKey = attachmentKey resendEmailId (legacyFilename filename) ∨
    sourceKey = attachmentKey resendEmailId resendAttachmentId

/-- A key is emitted for an accepted attachment only, and it is the target's. -/
theorem transformAttachmentKey_eq_some {resendEmailId sourceKey : Option String}
    {resendAttachmentId filename key : String} :
    transformAttachmentKey resendEmailId resendAttachmentId filename sourceKey = .ok (some key) ↔
      ∃ email source, resendEmailId = some email ∧ sourceKey = some source ∧
        Accepted email resendAttachmentId filename source ∧
        key = attachmentKey email resendAttachmentId := by
  unfold transformAttachmentKey
  cases sourceKey with
  | none => simp [pure, Except.pure]
  | some source =>
    simp only [bind_eq_ok, required_eq_ok, ensure_eq_ok, pure_eq_ok]
    constructor
    · rintro ⟨email, known, _, segments, _, written, same⟩
      obtain rfl := Option.some.inj same
      simp only [Bool.not_eq_true', Bool.or_eq_false_iff, Bool.not_eq_false'] at segments
      -- The source key is one of the two that are accepted.
      have written : source = attachmentKey email (legacyFilename filename) ∨
          source = attachmentKey email resendAttachmentId := by
        simpa [or_iff_not_imp_left] using written
      exact ⟨email, source, known, rfl, ⟨segments.1, segments.2, written⟩, rfl⟩
    · rintro ⟨email, _, known, same, accepted, rfl⟩
      obtain rfl := Option.some.inj same
      refine ⟨email, known, ⟨⟩, ?_, ⟨⟩, ?_, rfl⟩
      · simp [accepted.email, accepted.attachment]
      · simpa [or_iff_not_imp_left] using accepted.written

/-- What is refused is reported in words that the manifest may keep. -/
theorem transformAttachmentKey_blocks {resendEmailId sourceKey : Option String}
    {resendAttachmentId filename : String} {error : ExportError}
    (refused : transformAttachmentKey resendEmailId resendAttachmentId filename sourceKey =
      .error error) : ∃ message, error = manifestSafeBlocker message := by
  by_contra other
  rw [not_exists] at other
  cases sourceKey with
  | none => cases refused
  | some source =>
    -- Every check raises a blocker.
    refine bind_ne_error (required_ne_error fun same => other _ same.symm) (fun email _ => ?_) refused
    refine bind_ne_error (ensure_ne_error fun same => other _ same.symm) fun _ _ => ?_
    exact bind_ne_error (ensure_ne_error fun same => other _ same.symm) fun _ _ => nofun

/-! ### What is served -/

/-- Two identifiers whose key the application serves. -/
structure Servable (resendEmailId resendAttachmentId : String) : Prop where
  short : resendEmailId.utf8ByteSize + resendAttachmentId.utf8ByteSize ≤ 1004
  plain : ∀ character ∈ resendEmailId.toList ++ resendAttachmentId.toList,
    character ≠ '?' ∧ character ≠ '#'

/-- A segment is trimmed and has nothing in it that would end it or escape something. -/
theorem isCanonicalObjectSegment_eq {value : String}
    (segment : isCanonicalObjectSegment value = true) :
    value ≠ "" ∧ trim value = value ∧ value ≠ "." ∧ value ≠ ".." ∧
      ∀ character ∈ value.toList, character ≠ '/' ∧ character ≠ '\\' ∧ character ≠ '%' ∧
        isControl character = false := by
  simp only [isCanonicalObjectSegment, Bool.and_eq_true, bne_iff_ne, beq_iff_eq, Bool.not_eq_true',
    Bool.or_eq_false_iff, beq_eq_false_iff_ne, List.any_eq_false, Bool.or_eq_true, not_or,
    Bool.not_eq_true] at segment
  obtain ⟨⟨⟨⟨filled, trimmed⟩, one, two⟩, allowed⟩, printable⟩ := segment
  exact ⟨filled, trimmed.symm, one, two, fun character member =>
    ⟨(allowed character member).1.1.1, (allowed character member).1.1.2,
      (allowed character member).1.2, printable character member⟩⟩

/-- A key is four segments. -/
theorem toList_attachmentKey (email name : String) : (attachmentKey email name).toList =
    "emails".toList ++ '/' :: (email.toList ++ '/' ::
      ("attachments".toList ++ '/' :: name.toList)) := by
  have front : "emails/".toList = "emails".toList ++ ['/'] := by decide
  have middle : "/attachments/".toList = '/' :: ("attachments".toList ++ ['/']) := by decide
  rw [attachmentKey, String.toList_append, String.toList_append, String.toList_append, front,
    middle]
  simp only [List.append_assoc, List.cons_append, List.nil_append]

/-- The characters of a key are those of its words, of the slashes and of its two identifiers. -/
theorem mem_attachmentKey {email name : String} {character : Char} :
    character ∈ (attachmentKey email name).toList ↔ character ∈ "emails".toList ∨
      character = '/' ∨ character ∈ "attachments".toList ∨
        character ∈ email.toList ++ name.toList := by
  rw [toList_attachmentKey]
  -- The words are left alone, so that nothing unfolds them.
  generalize "emails".toList = front
  generalize "attachments".toList = middle
  simp only [List.mem_append, List.mem_cons]
  tauto

/-- A key is trimmed if the name at its end is. -/
theorem trim_attachmentKey {email name : String} (filled : name ≠ "") (trimmed : trim name = name) :
    trim (attachmentKey email name) = attachmentKey email name := by
  rw [trim_eq_self_iff] at trimmed ⊢
  have nonempty : name.toList ≠ [] := fun empty => filled (String.toList_eq_nil_iff.mp empty)
  constructor
  · intro first starts
    have front : "emails".toList = 'e' :: "mails".toList := by decide
    rw [toList_attachmentKey, front, List.cons_append, List.head?_cons] at starts
    obtain rfl := Option.some.inj starts
    decide
  · intro last ends
    rw [attachmentKey, String.toList_append, List.getLast?_append_of_ne_nil _ nonempty] at ends
    exact trimmed.2 last ends

/-- The segments of a key are those that it was put together from. -/
theorem splitOn_attachmentKey {email name : String} (emailWhole : '/' ∉ email.toList)
    (nameWhole : '/' ∉ name.toList) : (attachmentKey email name).toList.splitOn '/' =
      ["emails".toList, email.toList, "attachments".toList, name.toList] := by
  rw [toList_attachmentKey, List.splitOn_append_cons_self_of_not_mem (by decide),
    List.splitOn_append_cons_self_of_not_mem emailWhole,
    List.splitOn_append_cons_self_of_not_mem (by decide), List.splitOn_eq_singleton nameWhole]

/-- The key of two segments is one that the application accepts exactly when it is servable. -/
theorem isCanonical_attachmentKey {email attachment : String}
    (emailSegment : isCanonicalObjectSegment email = true)
    (attachmentSegment : isCanonicalObjectSegment attachment = true) :
    Media.isCanonical (attachmentKey email attachment) = true ↔ Servable email attachment := by
  obtain ⟨emailFilled, -, emailOne, emailTwo, emailPlain⟩ :=
    isCanonicalObjectSegment_eq emailSegment
  obtain ⟨filled, trimmed, one, two, plain⟩ := isCanonicalObjectSegment_eq attachmentSegment
  have size : (attachmentKey email attachment).utf8ByteSize =
      email.utf8ByteSize + attachment.utf8ByteSize + 20 := by
    have front : "emails/".utf8ByteSize = 7 := by decide
    have middle : "/attachments/".utf8ByteSize = 13 := by decide
    rw [attachmentKey, String.utf8ByteSize_append, String.utf8ByteSize_append,
      String.utf8ByteSize_append, front, middle]
    omega
  rw [Media.isCanonical_iff, size]
  constructor
  · rintro ⟨short, -, allowed, -⟩
    refine ⟨by omega, fun character member => ?_⟩
    have kept := allowed character (mem_attachmentKey.mpr (Or.inr (Or.inr (Or.inr member))))
    simp only [Media.keyRefuses, Bool.or_eq_false_iff, beq_eq_false_iff_ne] at kept
    exact ⟨kept.1.1.2, kept.1.2⟩
  · rintro ⟨short, unescaped⟩
    refine ⟨by omega, trim_attachmentKey filled trimmed, fun character member => ?_, ?_⟩
    · -- The words of the path have nothing that keys refuse, and neither have the segments.
      have words : ∀ character ∈ "emails".toList ++ '/' :: "attachments".toList,
          Media.keyRefuses character = false := forall_mem_of_all (by decide +kernel)
      rcases mem_attachmentKey.mp member with word | rfl | word | part
      · exact words character (List.mem_append_left _ word)
      · decide
      · exact words character (List.mem_append_right _ (List.mem_cons_of_mem _ word))
      · have segment : character ≠ '\\' ∧ character ≠ '%' ∧ isControl character = false := by
          rcases List.mem_append.mp part with first | second
          · exact (emailPlain character first).2
          · exact (plain character second).2
        simp [Media.keyRefuses, segment, unescaped character part]
    · rw [splitOn_attachmentKey (fun slash => (emailPlain '/' slash).1 rfl)
        fun slash => (plain '/' slash).1 rfl]
      have proper : ∀ value : String, value ≠ "" → value ≠ "." → value ≠ ".." →
          value.toList ≠ [] ∧ value.toList ≠ ['.'] ∧ value.toList ≠ ['.', '.'] := by
        intro value nonempty noDot noDots
        refine ⟨fun same => nonempty ?_, fun same => noDot ?_, fun same => noDots ?_⟩
        all_goals exact String.toList_injective (same.trans (by decide))
      rw [List.forall_mem_cons, List.forall_mem_cons, List.forall_mem_cons, List.forall_mem_cons]
      exact ⟨proper _ (by decide) (by decide) (by decide),
        proper _ emailFilled emailOne emailTwo, proper _ (by decide) (by decide) (by decide),
        proper _ filled one two, fun _ member => absurd member List.not_mem_nil⟩

/-- A file is served under a key that is referenced exactly when the key is canonical. -/
theorem serveEmailObject_redirect {references : List String} {key : String}
    (referenced : key ∈ references) :
    serveEmailObject true references key = .redirect key ↔ Media.isCanonical key = true := by
  unfold serveEmailObject Media.canonicalKey
  split
  · rename_i objectKey found
    split at found
    · rename_i canonical
      obtain rfl := Except.ok.inj found
      have contained : references.contains key = true := List.contains_iff_mem.mpr referenced
      rw [if_pos contained]
      exact iff_of_true (Media.signedRedirect_eq.mpr ⟨rfl, canonical, rfl⟩) canonical
    · cases found
  · rename_i refused
    split at refused
    · cases refused
    · rename_i other
      simp [other]

/-- What is promised of an attachment: a key that is emitted is one that the application accepts and
serves, none is emitted only where there was none, and anything else blocks the export. -/
def Usable (resendEmailId : Option String) (resendAttachmentId filename : String)
    (sourceKey : Option String) : Prop :=
  match transformAttachmentKey resendEmailId resendAttachmentId filename sourceKey with
  | .ok (some key) => Media.canonicalKey key = .ok key ∧
      ∀ references, key ∈ references → serveEmailObject true references key = .redirect key
  | .ok none => sourceKey = none
  | .error error => ∃ message, error = manifestSafeBlocker message

/-- An attachment is usable exactly when its identifiers are servable or it is not accepted. -/
theorem attachmentKey_usable_iff (resendEmailId : Option String)
    (resendAttachmentId filename : String) (sourceKey : Option String) :
    Usable resendEmailId resendAttachmentId filename sourceKey ↔
      ∀ email source, resendEmailId = some email → sourceKey = some source →
        Accepted email resendAttachmentId filename source →
          Servable email resendAttachmentId := by
  unfold Usable
  split
  · rename_i key emitted
    obtain ⟨email, source, rfl, rfl, accepted, rfl⟩ := transformAttachmentKey_eq_some.mp emitted
    have canonical := isCanonical_attachmentKey accepted.email accepted.attachment
    constructor
    · rintro ⟨kept, -⟩ other _ same - -
      obtain rfl := Option.some.inj same
      exact canonical.mp (Media.canonicalKey_eq_ok.mp kept).1
    · intro servable
      have kept := canonical.mpr (servable email source rfl rfl accepted)
      exact ⟨Media.canonicalKey_eq_ok.mpr ⟨kept, rfl⟩,
        fun references referenced => (serveEmailObject_redirect referenced).mpr kept⟩
  · rename_i nothing
    -- An accepted attachment with a key gets one.
    cases sourceKey with
    | none => simp
    | some source =>
      refine iff_of_false nofun fun servable => ?_
      simp only [transformAttachmentKey, bind_eq_ok, pure_eq_ok] at nothing
      obtain ⟨_, -, _, -, _, -, same⟩ := nothing
      cases same
  · rename_i error refused
    refine iff_of_true (transformAttachmentKey_blocks refused) ?_
    rintro email source rfl rfl accepted
    have emitted := transformAttachmentKey_eq_some.mpr ⟨email, source, rfl, rfl, accepted, rfl⟩
    rw [refused] at emitted
    cases emitted

/-- A question mark in an identifier is emitted in a key that the application refuses. -/
theorem attachmentKey_unserved : ¬ Usable (some "email-1") "attachment?2" "statement.pdf"
    (some "emails/email-1/attachments/attachment?2") := by
  have emitted : transformAttachmentKey (some "email-1") "attachment?2" "statement.pdf"
      (some "emails/email-1/attachments/attachment?2") =
        .ok (some "emails/email-1/attachments/attachment?2") := by decide +kernel
  have refused : Media.canonicalKey "emails/email-1/attachments/attachment?2" ≠
      .ok "emails/email-1/attachments/attachment?2" := by decide +kernel
  unfold Usable
  rw [emitted]
  exact fun usable => refused usable.1

end FinStream.Migration
