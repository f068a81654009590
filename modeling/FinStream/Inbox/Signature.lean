import FinStream.Media.Key
import FinStream.Migration.Models
import FinStream.Numeric.Base64
import FinStream.Scheduler.Instant
import FinStream.Store.Transaction

/-! The signatures of webhook deliveries: what is accepted was signed, up to where its parts end. -/

namespace FinStream.Inbox

open Store Media

/-- Why a delivery is refused. -/
inductive SignatureError where
  | missing
  | invalid
  | stale
  deriving DecidableEq

/-- The seconds by which a delivery's time may differ from the clock. -/
def maxClockSkew : ℕ := 5 * 60

/-- The longest message id, in bytes. -/
def maxMessageIdBytes : ℕ := 256

/-- The longest header of signatures, in bytes. -/
def maxSignatureHeaderBytes : ℕ := 4 * 1024

/-- The headers of a request: the bytes under a name, if it has the header. -/
abbrev HeaderMap := String → Option (List UInt8)

/-- The text of a header, when all its bytes are visible ASCII characters or tabs. -/
def toStr (value : List UInt8) : Option String :=
  if value.all fun byte => (32 ≤ byte && byte < 127) || byte == 9 then
    some (String.ofList (value.map fun byte => Char.ofNat byte.toNat))
  else none

/-- Reads a header that is filled, short enough and without control characters. -/
def header (headers : HeaderMap) (name : String) (maxBytes : ℕ) : Except SignatureError String := do
  let value ← required (headers name) .missing
  let value ← required (toStr value) .invalid
  ensure (!(value.isEmpty || maxBytes < value.utf8ByteSize || value.toList.any isControl)) .invalid
  pure value

/-- An ASCII character that separates words. -/
def isAsciiWhitespace (character : Char) : Bool :=
  character == ' ' || character == '\t' || character == '\n' || character == '\x0c' ||
    character == '\r'

/-- The words of a text. -/
def splitAsciiWhitespace (text : String) : List String :=
  ((text.toList.splitOnP isAsciiWhitespace).filter fun word => !word.isEmpty).map String.ofList

/-- The bytes under a signature: the id, the time and the body, with full stops between them. -/
def signedText (messageId timestamp : String) (body : List UInt8) : List UInt8 :=
  bytesOf messageId ++ 46 :: (bytesOf timestamp ++ 46 :: body)

/-- A message as the provider signs it. -/
structure WebhookMessage where
  messageId : String
  timestamp : String
  body : List UInt8
  deriving DecidableEq

/-- The bytes under a message's signature. -/
def WebhookMessage.text (message : WebhookMessage) : List UInt8 :=
  signedText message.messageId message.timestamp message.body

/-- The key that deliveries are verified with. -/
structure WebhookVerifier where
  key : List UInt8
  /-- The key has a usable length. -/
  keyLength : 16 ≤ key.length ∧ key.length ≤ 256

/-- The verifier of a configured secret. -/
def WebhookVerifier.new (secret : String) : Except SignatureError WebhookVerifier :=
  let encoded := (stripLeading "whsec_" (trim secret)).getD (trim secret)
  match Base64.standard.decode true encoded.toList with
  | none => .error .invalid
  | some key =>
    if keyLength : 16 ≤ key.length ∧ key.length ≤ 256 then .ok ⟨key, keyLength⟩
    else .error .invalid

/-- The tag a signature of the first version presents. -/
def presentedTag (encoded : String) : Option (List UInt8) :=
  Base64.standard.decode true encoded.toList

/-- What is known after some signatures: whether one matched, and whether one had a known version. -/
structure SignatureScan where
  matched : Bool
  sawV1 : Bool

/-- Looks at the next signature; other versions are skipped. -/
def SignatureScan.next (expected : List UInt8) (scan : SignatureScan) (candidate : String) :
    SignatureScan :=
  match stripLeading "v1," candidate with
  | none => scan
  | some encoded => ⟨scan.matched || presentedTag encoded == some expected, true⟩

/-- Looks at all signatures of a header. -/
def scanSignatures (expected : List UInt8) (signatures : String) : SignatureScan :=
  (splitAsciiWhitespace signatures).foldl (.next expected) ⟨false, false⟩

/-- Verifies a delivery at a time, with the tag of a text under a key as a parameter. -/
def WebhookVerifier.verify (mac : List UInt8 → List UInt8 → List UInt8)
    (verifier : WebhookVerifier) (headers : HeaderMap) (body : List UInt8)
    (now : OffsetDateTime) : Except SignatureError PUnit := do
  let messageId ← header headers "svix-id" maxMessageIdBytes
  let timestamp ← header headers "svix-timestamp" 32
  let signatures ← header headers "svix-signature" maxSignatureHeaderBytes
  let signedAt ← required (Migration.parseI64 timestamp) .invalid
  ensure ((now.unixTimestamp - signedAt).natAbs ≤ maxClockSkew) .stale
  let expected := mac verifier.key (signedText messageId timestamp body)
  let scan := scanSignatures expected signatures
  ensure (scan.sawV1 && scan.matched) .invalid

/-! ### What the verifier accepts -/

/-- A header of signatures presents a tag in the first version. -/
def Presents (signatures : String) (tag : List UInt8) : Prop :=
  ∃ candidate ∈ splitAsciiWhitespace signatures,
    ∃ encoded, stripLeading "v1," candidate = some encoded ∧ presentedTag encoded = some tag

/-- A tag is presented exactly when its canonical signature is one of the words. -/
theorem presents_iff {signatures : String} {tag : List UInt8} : Presents signatures tag ↔
    "v1," ++ String.ofList (Base64.standard.encode true tag) ∈
      splitAsciiWhitespace signatures := by
  unfold Presents presentedTag
  simp only [stripLeading_eq_some, Base64.Alphabet.decode_eq_some]
  constructor
  · rintro ⟨candidate, member, encoded, rfl, same⟩
    rwa [same, String.ofList_toList]
  · intro member
    exact ⟨_, member, _, rfl, (String.toList_ofList).symm⟩

/-- A scan remembers every match and every signature of a known version. -/
theorem foldl_next {expected : List UInt8} {candidates : List String} {scan : SignatureScan} :
    candidates.foldl (.next expected) scan =
      ⟨scan.matched || candidates.any fun candidate => (stripLeading "v1," candidate).any
          fun encoded => presentedTag encoded == some expected,
        scan.sawV1 || candidates.any fun candidate => (stripLeading "v1," candidate).isSome⟩ := by
  induction candidates generalizing scan with
  | nil => simp
  | cons first rest ih =>
    rw [List.foldl_cons, ih]
    unfold SignatureScan.next
    cases versioned : stripLeading "v1," first with
    | none => simp [versioned]
    | some encoded => simp [versioned, Bool.or_assoc]

/-- A scan of all signatures succeeds exactly when one presents the expected tag. -/
theorem scan_matched {expected : List UInt8} {signatures : String} :
    ((scanSignatures expected signatures).sawV1 && (scanSignatures expected signatures).matched) =
      true ↔ Presents signatures expected := by
  simp only [scanSignatures, foldl_next, Bool.false_or, Bool.and_eq_true, List.any_eq_true, Option.any_eq_true,
    Option.isSome_iff_exists, beq_iff_eq]
  constructor
  · rintro ⟨-, presented⟩
    exact presented
  · rintro ⟨candidate, member, encoded, versioned, tagged⟩
    exact ⟨⟨candidate, member, encoded, versioned⟩, candidate, member, encoded, versioned, tagged⟩

/-- A header that is read is there. -/
theorem header_eq_ok {headers : HeaderMap} {name value : String} {maxBytes : ℕ}
    (read : header headers name maxBytes = .ok value) : ∃ bytes, headers name = some bytes ∧
      toStr bytes = some value ∧ value ≠ "" ∧ value.utf8ByteSize ≤ maxBytes ∧
      ∀ character ∈ value.toList, isControl character = false := by
  simp only [header, bind_eq_ok, required_eq_ok, ensure_eq_ok, pure_eq_ok] at read
  obtain ⟨bytes, found, text, converted, _, checked, rfl⟩ := read
  simp only [Bool.not_eq_true', Bool.or_eq_false_iff, decide_eq_false_iff_not, not_lt,
    List.any_eq_false, Bool.not_eq_true, String.isEmpty_eq_false_iff] at checked
  exact ⟨bytes, found, converted, checked.1.1, checked.1.2, checked.2⟩

/-- A delivery is accepted exactly when its headers are read, it is recent, and a tag matches. -/
theorem WebhookVerifier.verify_eq_ok {mac : List UInt8 → List UInt8 → List UInt8}
    {verifier : WebhookVerifier} {headers : HeaderMap} {body : List UInt8} {now : OffsetDateTime}
    {done : PUnit} : verifier.verify mac headers body now = .ok done ↔
      ∃ messageId timestamp signatures signedAt,
        header headers "svix-id" maxMessageIdBytes = .ok messageId ∧
        header headers "svix-timestamp" 32 = .ok timestamp ∧
        header headers "svix-signature" maxSignatureHeaderBytes = .ok signatures ∧
        Migration.parseI64 timestamp = some signedAt ∧
        (now.unixTimestamp - signedAt).natAbs ≤ maxClockSkew ∧
        Presents signatures (mac verifier.key (signedText messageId timestamp body)) := by
  simp only [verify, bind_eq_ok, required_eq_ok, ensure_eq_ok, decide_eq_true_eq, exists_and_left,
    exists_const, scan_matched]

/-! ### What was signed -/

/-- Lists are cut at the same separator when as many separators stand before it. -/
theorem append_cons_inj_of_count {α : Type} [DecidableEq α] {separator : α}
    {front back otherFront otherBack : List α}
    (counts : front.count separator = otherFront.count separator)
    (same : front ++ separator :: back = otherFront ++ separator :: otherBack) :
    front = otherFront ∧ back = otherBack := by
  -- Where one front is longer, its rest starts with a separator that the other lacks.
  rcases List.append_eq_append_iff.mp same with ⟨extra, rfl, cut⟩ | ⟨extra, rfl, cut⟩
  · cases extra with
    | nil => simpa using cut
    | cons first rest =>
      obtain ⟨rfl, -⟩ := List.cons_eq_cons.mp cut
      simp at counts
  · cases extra with
    | nil => simpa using cut.symm
    | cons first rest =>
      obtain ⟨rfl, -⟩ := List.cons_eq_cons.mp cut
      simp at counts

/-- The full stops in a text. -/
def fullStops (text : String) : ℕ := (bytesOf text).count 46

/-- Texts are told apart by their bytes. -/
theorem bytesOf_inj {left right : String} (same : bytesOf left = bytesOf right) : left = right :=
  Option.some.inj (by rw [← fromUtf8_bytesOf left, same, fromUtf8_bytesOf])

/-- A number has no full stop. -/
theorem fullStops_number {text : String} {number : ℤ}
    (read : Migration.parseI64 text = some number) : fullStops text = 0 := by
  -- Its characters are digits behind at most one sign.
  have plain : ∀ character ∈ text.toList,
      character.isDigit = true ∨ character = '-' ∨ character = '+' := by
    intro character member
    unfold Migration.parseI64 at read
    dsimp only at read
    split at read
    · rename_i digits same
      simp only [Option.ite_none_right_eq_some, Bool.and_eq_true, List.all_eq_true] at read
      rcases List.mem_cons.mp (same ▸ member) with rfl | later
      · exact Or.inr (Or.inl rfl)
      · exact Or.inl (read.1.1.1.2 character later)
    · rename_i digits same
      simp only [Option.ite_none_right_eq_some, Bool.and_eq_true, List.all_eq_true] at read
      rcases List.mem_cons.mp (same ▸ member) with rfl | later
      · exact Or.inr (Or.inr rfl)
      · exact Or.inl (read.1.1.1.2 character later)
    · simp only [Option.ite_none_right_eq_some, Bool.and_eq_true, List.all_eq_true] at read
      exact Or.inl (read.1.1.1.2 character member)
  -- So each character is one byte, and none is the full stop.
  have byte : ∀ character ∈ text.toList,
      character.toNat < 128 ∧ UInt8.ofNat character.toNat ≠ 46 := by
    intro character member
    rcases plain character member with digit | rfl | rfl
    · simp only [Char.isDigit, Bool.and_eq_true, decide_eq_true_eq, ge_iff_le,
        UInt32.le_iff_toNat_le] at digit
      obtain ⟨above, below⟩ := digit
      have range : 48 ≤ character.toNat ∧ character.toNat ≤ 57 := ⟨above, below⟩
      refine ⟨by omega, fun same => ?_⟩
      have code : (UInt8.ofNat character.toNat).toNat = 46 := congrArg UInt8.toNat same
      rw [UInt8.toNat_ofNat_of_lt' (by simp only [UInt8.size]; omega)] at code
      omega
    · decide
    · decide
  have bytes := bytesOf_ascii fun character member => (byte character member).1
  rw [String.ofList_toList] at bytes
  rw [fullStops, bytes, List.count_eq_zero, List.mem_map]
  rintro ⟨character, member, same⟩
  exact (byte character member).2 same

/-- Messages with one text are one message when their parts end at the same full stops. -/
theorem WebhookMessage.text_inj {left right : WebhookMessage}
    (ids : fullStops left.messageId = fullStops right.messageId)
    (times : fullStops left.timestamp = fullStops right.timestamp)
    (same : left.text = right.text) : left = right := by
  obtain ⟨sameId, rest⟩ := append_cons_inj_of_count ids same
  obtain ⟨sameTime, sameBody⟩ := append_cons_inj_of_count times rest
  cases left
  cases right
  exact congr (congr (congrArg mk (bytesOf_inj sameId)) (bytesOf_inj sameTime)) sameBody

/-- The message that a delivery says it is. -/
def deliveredMessage (headers : HeaderMap) (body : List UInt8) :
    Except SignatureError WebhookMessage := do
  let messageId ← header headers "svix-id" maxMessageIdBytes
  let timestamp ← header headers "svix-timestamp" 32
  pure { messageId, timestamp, body }

/-- A delivery presents the tag of its text only if the provider signed this text. -/
def Unforged (mac : List UInt8 → List UInt8 → List UInt8) (verifier : WebhookVerifier)
    (signed : Set WebhookMessage) (headers : HeaderMap) (body : List UInt8) : Prop :=
  ∀ message signatures, deliveredMessage headers body = .ok message →
    header headers "svix-signature" maxSignatureHeaderBytes = .ok signatures →
    Presents signatures (mac verifier.key message.text) →
    ∃ original ∈ signed, original.text = message.text

/--
An accepted delivery is recent, and the provider signed a message with the same text.

The very message was signed exactly when a signed message with this text has as many full stops
in its id, and none in its time.
-/
theorem WebhookVerifier.verify_signed (mac : List UInt8 → List UInt8 → List UInt8)
    (verifier : WebhookVerifier) (signed : Set WebhookMessage) (headers : HeaderMap)
    (body : List UInt8) (now : OffsetDateTime)
    (unforged : Unforged mac verifier signed headers body)
    (accepted : verifier.verify mac headers body now = .ok ⟨⟩) :
    ∃ message signedAt, deliveredMessage headers body = .ok message ∧
      Migration.parseI64 message.timestamp = some signedAt ∧
      (now.unixTimestamp - signedAt).natAbs ≤ maxClockSkew ∧
      (∃ original ∈ signed, original.text = message.text) ∧
      (message ∈ signed ↔ ∃ original ∈ signed, original.text = message.text ∧
        fullStops original.messageId = fullStops message.messageId ∧
        fullStops original.timestamp = 0) := by
  obtain ⟨messageId, timestamp, signatures, signedAt, idRead, timeRead, signaturesRead, parsed,
    recent, presented⟩ := WebhookVerifier.verify_eq_ok.mp accepted
  have delivered : deliveredMessage headers body = .ok ⟨messageId, timestamp, body⟩ := by
    simp [deliveredMessage, idRead, timeRead]
  have whole : fullStops timestamp = 0 := fullStops_number parsed
  refine ⟨_, signedAt, delivered, parsed, recent,
    unforged _ signatures delivered signaturesRead presented, fun member => ?_, ?_⟩
  · exact ⟨_, member, rfl, rfl, whole⟩
  · rintro ⟨original, member, same, ids, time⟩
    rwa [← WebhookMessage.text_inj ids (time.trans whole.symm) same]

/-- The verifier of the tests' secret. -/
def testVerifier : WebhookVerifier := ⟨bytesOf "0123456789abcdef", by decide⟩

example : (WebhookVerifier.new "whsec_MDEyMzQ1Njc4OWFiY2RlZg==").map (·.key) =
    .ok testVerifier.key := by decide +kernel

/-- A message with a body of an event. -/
def eventMessage : WebhookMessage :=
  ⟨"msg_1", "1767225600", bytesOf "\x7b\"type\":\"email.received\"\x7d"⟩

/-- A message whose body has a full stop. -/
def numberMessage : WebhookMessage := ⟨"msg_1", "1767225600", bytesOf "1767225600.5"⟩

/-- The tags of the two messages' texts under the tests' secret. -/
def testMac (key text : List UInt8) : List UInt8 :=
  if key = testVerifier.key ∧ text = eventMessage.text then
    [65, 220, 122, 236, 225, 218, 163, 70, 75, 123, 80, 40, 13, 176, 112, 154, 220, 52, 199, 22,
      19, 93, 126, 130, 96, 68, 182, 131, 66, 82, 115, 217]
  else if key = testVerifier.key ∧ text = numberMessage.text then
    [153, 155, 224, 76, 198, 3, 188, 86, 55, 206, 232, 84, 167, 115, 151, 135, 64, 77, 145, 56, 94,
      0, 77, 138, 83, 222, 128, 123, 130, 99, 103, 78]
  else []

/-- The headers of a delivery. -/
def webhookHeaders (messageId timestamp signatures : String) : HeaderMap := fun name =>
  if name = "svix-id" then some (bytesOf messageId)
  else if name = "svix-timestamp" then some (bytesOf timestamp)
  else if name = "svix-signature" then some (bytesOf signatures)
  else none

/-- The headers of the event's delivery; the first signature is of no use. -/
def eventHeaders : HeaderMap :=
  webhookHeaders "msg_1" "1767225600" "v1,AAAA v1,Qdx67OHao0ZLe1AoDbBwmtw0xxYTXX6CYES2g0JSc9k="

/-- The headers of a delivery that moves a part of the other message's body into its id. -/
def movedHeaders : HeaderMap :=
  webhookHeaders "msg_1.1767225600" "1767225600" "v1,mZvgTMYDvFY3zuhUp3OXh0BNkTheAE2KU96Ae4JjZ04="

/-- Two minutes into 2026. -/
def testNow : OffsetDateTime := ⟨1767225720 * nanosPerSecond, by decide⟩

/-- It holds of the event's delivery. -/
theorem WebhookVerifier.verify_signed_event :
    (Unforged testMac testVerifier {eventMessage} eventHeaders eventMessage.body ∧
      testVerifier.verify testMac eventHeaders eventMessage.body testNow = .ok ⟨⟩) ∧
    ∃ message signedAt, deliveredMessage eventHeaders eventMessage.body = .ok message ∧
      Migration.parseI64 message.timestamp = some signedAt ∧
      (testNow.unixTimestamp - signedAt).natAbs ≤ maxClockSkew ∧
      (∃ original ∈ ({eventMessage} : Set WebhookMessage), original.text = message.text) ∧
      (message ∈ ({eventMessage} : Set WebhookMessage) ↔
        ∃ original ∈ ({eventMessage} : Set WebhookMessage), original.text = message.text ∧
          fullStops original.messageId = fullStops message.messageId ∧
          fullStops original.timestamp = 0) := by
  have delivered : deliveredMessage eventHeaders eventMessage.body = .ok eventMessage := by
    decide +kernel
  have unforged :
      Unforged testMac testVerifier {eventMessage} eventHeaders eventMessage.body := by
    intro message signatures read _ _
    obtain rfl := Except.ok.inj (delivered.symm.trans read)
    exact ⟨_, rfl, rfl⟩
  have accepted : testVerifier.verify testMac eventHeaders eventMessage.body testNow = .ok ⟨⟩ := by
    decide +kernel
  exact ⟨⟨unforged, accepted⟩,
    WebhookVerifier.verify_signed testMac testVerifier _ _ _ testNow unforged accepted⟩

/-- A delivery is accepted whose message was not signed, though another with its text was. -/
theorem WebhookVerifier.verify_moved :
    Unforged testMac testVerifier {numberMessage} movedHeaders (bytesOf "5") ∧
      testVerifier.verify testMac movedHeaders (bytesOf "5") testNow = .ok ⟨⟩ ∧
      ∃ message, deliveredMessage movedHeaders (bytesOf "5") = .ok message ∧
        message ∉ ({numberMessage} : Set WebhookMessage) := by
  have delivered : deliveredMessage movedHeaders (bytesOf "5") =
      .ok ⟨"msg_1.1767225600", "1767225600", bytesOf "5"⟩ := by decide +kernel
  refine ⟨?_, by decide +kernel, _, delivered, fun member => ?_⟩
  · intro message signatures read _ _
    obtain rfl := Except.ok.inj (delivered.symm.trans read)
    exact ⟨_, rfl, by decide⟩
  · exact absurd (Set.mem_singleton_iff.mp member) (by decide)

end FinStream.Inbox
