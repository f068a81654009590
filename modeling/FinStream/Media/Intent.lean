import FinStream.Media.Authorization
import FinStream.Numeric.Base64
import FinStream.Scheduler.Instant
import FinStream.Text.Json

/-! The tokens of upload intents: signed claims that come back exactly, and only for a while. -/

namespace FinStream.Media

open Store

/-! ### Tokens -/

/-- The longest token, in bytes. -/
def maxIntentBytes : ℕ := 8 * 1024

/-- The members that claims are written as, in the order of their fields. -/
def UploadClaims.members (claims : UploadClaims) : List (String × Json.Value) :=
  [("version", .number claims.version), ("connection_id", .number claims.connectionId),
    ("loan_account", .text claims.loanAccount), ("file_name", .text claims.fileName),
    ("content_type", .text claims.contentType), ("size_bytes", .number claims.sizeBytes),
    ("object_key", .text claims.objectKey), ("upload_marker", .text claims.uploadMarker),
    ("issued_at", .number claims.issuedAt), ("expires_at", .number claims.expiresAt)]

/-- The numbers of claims fit the types of their fields. -/
structure UploadClaims.Representable (claims : UploadClaims) : Prop where
  version : claims.version < 2 ^ 8
  connectionId : claims.connectionId < 2 ^ 63
  sizeBytes : claims.sizeBytes < 2 ^ 64
  issuedAt : -2 ^ 63 ≤ claims.issuedAt ∧ claims.issuedAt < 2 ^ 63
  expiresAt : -2 ^ 63 ≤ claims.expiresAt ∧ claims.expiresAt < 2 ^ 63

/-- What tokens are made with: the tags of texts under keys, and a form of claims as bytes. -/
structure IntentPlatform where
  hmac : List UInt8 → List UInt8 → List UInt8
  toVec : UploadClaims → Option (List UInt8)
  fromSlice : List UInt8 → Option UploadClaims

/-- Tags have 32 bytes, and the form of claims is compact JSON. -/
structure IntentPlatform.Standard (platform : IntentPlatform) : Prop where
  hmac_length : ∀ key text, (platform.hmac key text).length = 32
  toVec_json : ∀ claims, ∃ text, Json.Object claims.members text ∧
    platform.toVec claims = some (bytesOf (String.ofList text))
  fromSlice_json : ∀ claims text, UploadClaims.Representable claims →
    Json.Object claims.members text →
      platform.fromSlice (bytesOf (String.ofList text)) = some claims

/-- The parts of a text around the first of its separators. -/
def splitOnce (separator : Char) (value : String) : Option (String × String) :=
  match value.toList.dropWhile (· != separator) with
  | [] => none
  | _ :: rest => some (String.ofList (value.toList.takeWhile (· != separator)), String.ofList rest)

/-- The bytes that a URL-safe text without padding stands for. -/
def decodeUrlSafe (encoded : String) : Option (List UInt8) :=
  Base64.urlSafe.decode false encoded.toList

namespace IntentPlatform

variable (platform : IntentPlatform)

/-- Signs claims: their form, and the tag of it. -/
def signClaims (key : List UInt8) (claims : UploadClaims) : MediaResult String := do
  let payload ← required (platform.toVec claims) .invalidIntent
  let encoded := urlSafeNoPad payload
  pure (encoded ++ "." ++ urlSafeNoPad (platform.hmac key (bytesOf encoded)))

/-- Reads the claims of a token, whose tag is checked before anything else in it is read. -/
def readClaims (key : List UInt8) (token : String) : MediaResult UploadClaims := do
  ensure (token != "" && token.utf8ByteSize ≤ maxIntentBytes) .invalidIntent
  let parts ← required (splitOnce '.' token) .invalidIntent
  ensure (!parts.2.toList.contains '.') .invalidIntent
  let signature ← required (decodeUrlSafe parts.2) .invalidIntent
  ensure (signature == platform.hmac key (bytesOf parts.1)) .invalidIntent
  let payload ← required (decodeUrlSafe parts.1) .invalidIntent
  required (platform.fromSlice payload) .invalidIntent

/-- Reads the claims of a token and refuses them when they are expired or not valid yet. -/
def verifyToken (key : List UInt8) (token : String) (now : ℤ) : MediaResult UploadClaims := do
  let claims ← platform.readClaims key token
  verifyClaims claims now
  pure claims

end IntentPlatform

/-! ### Tokens come back -/

/-- The two descriptions of the URL-safe encoding without padding agree. -/
theorem urlSafeNoPad_eq (bytes : List UInt8) :
    urlSafeNoPad bytes = String.ofList (Base64.urlSafe.encode false bytes) := by
  -- The groups of three are the same, and so are the characters of the alphabet.
  rw [urlSafeNoPad]
  refine congrArg String.ofList ?_
  fun_induction tokenCharacters bytes with
  | case1 => rfl
  | case2 first => rfl
  | case3 first second => rfl
  | case4 first second third rest ih =>
    rw [ih]
    rfl

/-- A text stands for bytes exactly when it is their encoding. -/
theorem decodeUrlSafe_eq_some {encoded : String} {bytes : List UInt8} :
    decodeUrlSafe encoded = some bytes ↔ encoded = urlSafeNoPad bytes := by
  rw [decodeUrlSafe, Base64.Alphabet.decode_eq_some, urlSafeNoPad_eq]
  constructor
  · intro same
    rw [same, String.ofList_toList]
  · rintro rfl
    rw [String.toList_ofList]

/-- A text is split where its first separator is. -/
theorem splitOnce_eq_some {separator : Char} {value : String} {parts : String × String} :
    splitOnce separator value = some parts ↔
      value.toList = parts.1.toList ++ separator :: parts.2.toList ∧
        separator ∉ parts.1.toList := by
  unfold splitOnce
  -- The text is what stands before the first separator, and the rest.
  have whole : value.toList.takeWhile (· != separator) ++ value.toList.dropWhile (· != separator) =
      value.toList := List.takeWhile_append_dropWhile
  have front : separator ∉ value.toList.takeWhile (· != separator) := fun member => by
    simpa using List.mem_takeWhile_imp member
  constructor
  · intro split
    cases behind : value.toList.dropWhile (· != separator) with
    | nil => simp [behind] at split
    | cons first rest =>
      -- The first character that is not passed over is the separator.
      have left : value.toList.dropWhile (· != separator) ≠ [] := by simp [behind]
      have stopped := List.head_dropWhile_not (· != separator) left
      simp only [behind, List.head_cons, bne_eq_false_iff_eq] at stopped
      simp only [behind, Option.some.injEq] at split
      subst split stopped
      simp only [String.toList_ofList]
      rw [behind] at whole
      exact ⟨whole.symm, front⟩
  · rintro ⟨same, clean⟩
    -- Nothing in front is a separator, so the search passes over all of it.
    have passed : ∀ character ∈ parts.1.toList, (character != separator) = true := by
      intro character member
      rw [bne_iff_ne]
      rintro rfl
      exact clean member
    rw [same, List.dropWhile_append_of_pos passed, List.takeWhile_append_of_pos passed]
    simp

/-- An encoding has no full stop. -/
theorem fullStop_notMem_urlSafeNoPad (bytes : List UInt8) :
    '.' ∉ (urlSafeNoPad bytes).toList := fun member =>
  absurd (urlSafeNoPad_token.alphabet bytes '.' member) (by decide)

/-- An encoding has four bytes for three. -/
theorem utf8ByteSize_urlSafeNoPad (bytes : List UInt8) :
    (urlSafeNoPad bytes).utf8ByteSize = (4 * bytes.length + 2) / 3 := by
  rw [utf8ByteSize_ascii, urlSafeNoPad_token.length]
  intro character member
  exact (nameCharacter_plain
    (nameCharacter_of_token (urlSafeNoPad_token.alphabet bytes character member))).1

namespace IntentPlatform

variable {platform : IntentPlatform}

/-- What is signed is the encoded form of claims with its tag. -/
theorem signClaims_eq_ok {key : List UInt8} {claims : UploadClaims} {token : String} :
    platform.signClaims key claims = .ok token ↔ ∃ payload, platform.toVec claims = some payload ∧
      token = urlSafeNoPad payload ++ "." ++
        urlSafeNoPad (platform.hmac key (bytesOf (urlSafeNoPad payload))) := by
  simp only [signClaims, bind_eq_ok, required_eq_ok, pure_eq_ok]
  constructor
  · rintro ⟨payload, written, rfl⟩
    exact ⟨payload, written, rfl⟩
  · rintro ⟨payload, written, rfl⟩
    exact ⟨payload, written, rfl⟩

/-- A token is read when it is short and is a form of claims with its tag. -/
theorem readClaims_eq_ok {key : List UInt8} {token : String} {claims : UploadClaims} :
    platform.readClaims key token = .ok claims ↔ token.utf8ByteSize ≤ maxIntentBytes ∧
      ∃ payload, token = urlSafeNoPad payload ++ "." ++
          urlSafeNoPad (platform.hmac key (bytesOf (urlSafeNoPad payload))) ∧
        platform.fromSlice payload = some claims := by
  simp only [readClaims, bind_eq_ok, required_eq_ok, ensure_eq_ok, Bool.and_eq_true,
    decide_eq_true_eq, beq_iff_eq, decodeUrlSafe_eq_some, splitOnce_eq_some]
  -- The checks are passed exactly by an encoded payload with its encoded tag.
  constructor
  · rintro ⟨_, ⟨-, short⟩, parts, ⟨same, -⟩, _, -, tag, signed, _, rfl, payload, encoded, read⟩
    refine ⟨short, payload, ?_, read⟩
    refine String.toList_injective ?_
    rw [same, encoded, signed, String.toList_append, String.toList_append, encoded]
    simp
  · rintro ⟨short, payload, rfl, read⟩
    generalize tagged : platform.hmac key (bytesOf (urlSafeNoPad payload)) = tag
    -- A full stop is never empty.
    have filled : (urlSafeNoPad payload ++ "." ++ urlSafeNoPad tag != "") = true := by
      rw [bne_iff_ne]
      intro empty
      have := congrArg String.toList empty
      simp at this
    -- The tag has no full stop, so the token has only one.
    have single : (!(urlSafeNoPad tag).toList.contains '.') = true := by
      simpa using fullStop_notMem_urlSafeNoPad tag
    refine ⟨⟨⟩, ⟨filled, tagged ▸ short⟩, (urlSafeNoPad payload, urlSafeNoPad tag), ⟨?_, ?_⟩, ⟨⟩,
      single, tag, rfl, ⟨⟩, tagged.symm, payload, rfl, read⟩
    · simp
    · exact fullStop_notMem_urlSafeNoPad payload

/-- All claims can be signed. -/
theorem exists_signClaims (standard : platform.Standard) (key : List UInt8)
    (claims : UploadClaims) : ∃ token, platform.signClaims key claims = .ok token := by
  obtain ⟨text, -, form⟩ := standard.toVec_json claims
  exact ⟨_, signClaims_eq_ok.mpr ⟨_, form, rfl⟩⟩

/-- What is read from a token is verified by its times. -/
theorem verifyToken_eq {key : List UInt8} {token : String} {claims : UploadClaims}
    (read : platform.readClaims key token = .ok claims) {now : ℤ} :
    platform.verifyToken key token now = (verifyClaims claims now).map fun _ => claims := by
  rw [verifyToken, read]
  rfl

/-- A token is verified when it is read and its claims are valid. -/
theorem verifyToken_eq_ok {key : List UInt8} {token : String} {claims : UploadClaims} {now : ℤ} :
    platform.verifyToken key token now = .ok claims ↔
      platform.readClaims key token = .ok claims ∧ verifyClaims claims now = .ok ⟨⟩ := by
  simp only [verifyToken, bind_eq_ok, pure_eq_ok]
  constructor
  · rintro ⟨_, read, done, timely, rfl⟩
    exact ⟨read, timely⟩
  · rintro ⟨read, timely⟩
    exact ⟨claims, read, ⟨⟩, timely, rfl⟩

/-- A signed token that is short enough gives its claims back. -/
theorem readClaims_sign (standard : platform.Standard) {key : List UInt8} {claims : UploadClaims}
    {token : String} (representable : claims.Representable)
    (signs : platform.signClaims key claims = .ok token)
    (short : token.utf8ByteSize ≤ maxIntentBytes) :
    platform.readClaims key token = .ok claims := by
  -- The payload is one of the texts that the reader knows.
  obtain ⟨payload, written, same⟩ := signClaims_eq_ok.mp signs
  obtain ⟨text, json, form⟩ := standard.toVec_json claims
  obtain rfl := Option.some.inj (form.symm.trans written)
  have back := standard.fromSlice_json claims text representable json
  exact readClaims_eq_ok.mpr ⟨short, _, same, back⟩

/-- A token shows the tag of its payload only if the payload is that of signed claims. -/
def Unforged (platform : IntentPlatform) (key : List UInt8) (signed : Set UploadClaims)
    (token : String) : Prop :=
  ∀ payload, token = urlSafeNoPad payload ++ "." ++
      urlSafeNoPad (platform.hmac key (bytesOf (urlSafeNoPad payload))) →
    ∃ claims ∈ signed, platform.toVec claims = some payload

/-- The token of signed claims is not forged. -/
theorem unforged_sign {key : List UInt8} {signed : Set UploadClaims} {claims : UploadClaims}
    (member : claims ∈ signed) {token : String}
    (signs : platform.signClaims key claims = .ok token) : platform.Unforged key signed token := by
  intro payload same
  obtain ⟨original, written, first⟩ := signClaims_eq_ok.mp signs
  -- A token has one payload, the part before its full stop.
  have split : ∀ bytes tag, token = urlSafeNoPad bytes ++ "." ++ tag →
      splitOnce '.' token = some (urlSafeNoPad bytes, tag) := by
    rintro bytes tag rfl
    exact splitOnce_eq_some.mpr ⟨by simp, fullStop_notMem_urlSafeNoPad bytes⟩
  have parts := Option.some.inj ((split _ _ same).symm.trans (split _ _ first))
  -- Encodings are told apart by their texts.
  have encoded : urlSafeNoPad payload = urlSafeNoPad original := congrArg Prod.fst parts
  have decoded := decodeUrlSafe_eq_some.mpr encoded
  obtain rfl := Option.some.inj ((decodeUrlSafe_eq_some.mpr rfl).symm.trans decoded)
  exact ⟨claims, member, written⟩

/-- What is read from a token that is not forged was signed, and the token is its signed form. -/
theorem readClaims_signed (standard : platform.Standard) {key : List UInt8}
    {signed : Set UploadClaims} (representable : ∀ claims ∈ signed, claims.Representable)
    {token : String} (unforged : platform.Unforged key signed token) {claims : UploadClaims}
    (read : platform.readClaims key token = .ok claims) :
    claims ∈ signed ∧ platform.signClaims key claims = .ok token := by
  obtain ⟨-, payload, same, parsed⟩ := readClaims_eq_ok.mp read
  obtain ⟨original, member, written⟩ := unforged payload same
  -- The payload is a form of the original, so the original is what is read from it.
  obtain ⟨text, json, form⟩ := standard.toVec_json original
  obtain rfl := Option.some.inj (form.symm.trans written)
  have back := standard.fromSlice_json original text (representable original member) json
  obtain rfl := Option.some.inj (back.symm.trans parsed)
  exact ⟨member, signClaims_eq_ok.mpr ⟨_, written, same⟩⟩

end IntentPlatform

/-! ### The longest token -/

/-- A text takes as many bytes in either count. -/
theorem byteLength_toList (value : String) : Json.byteLength value.toList = value.utf8ByteSize := by
  rw [utf8ByteSize_eq, bytesOf, List.length_flatMap, Json.byteLength]
  simp only [String.length_utf8EncodeChar]

/-- The form of claims takes six bytes for each byte of their texts and some more, at most. -/
theorem length_claims {claims : UploadClaims} {text : List Char}
    (json : Json.Object claims.members text) (representable : claims.Representable) :
    (bytesOf (String.ofList text)).length ≤ 800 + 6 * (claims.loanAccount.utf8ByteSize +
      claims.fileName.utf8ByteSize + claims.contentType.utf8ByteSize +
      claims.objectKey.utf8ByteSize + claims.uploadMarker.utf8ByteSize) := by
  have bounded := json.size
  rw [← utf8ByteSize_eq, ← byteLength_toList, String.toList_ofList]
  -- Five numbers of at most twenty characters, ten names, and the quotes around them.
  have digits : ∀ value : ℤ, value.natAbs < 10 ^ 20 → (Json.decimal value).length ≤ 21 :=
    fun value small => Json.length_decimal (by decide) small
  obtain ⟨version, connectionId, sizeBytes, issuedAt, expiresAt⟩ := representable
  have versionShort := digits claims.version (by omega)
  have connectionShort := digits claims.connectionId (by omega)
  have sizeShort := digits claims.sizeBytes (by omega)
  have issuedShort := digits claims.issuedAt (by omega)
  have expiresShort := digits claims.expiresAt (by omega)
  have names : ["version", "connection_id", "loan_account", "file_name", "content_type",
      "size_bytes", "object_key", "upload_marker", "issued_at", "expires_at"].map
        String.utf8ByteSize = [7, 13, 12, 9, 12, 10, 10, 13, 9, 10] := by decide
  simp only [List.map_cons, List.map_nil, List.cons.injEq, and_true] at names
  simp only [UploadClaims.members, List.map_cons, List.map_nil, List.sum_cons, List.sum_nil,
    Json.memberBound, Json.Value.bound, byteLength_toList] at bounded
  omega

/-- A text of names takes as many bytes as it has characters. -/
theorem utf8ByteSize_names {value : String}
    (names : ∀ character ∈ value.toList, isNameCharacter character = true) :
    value.utf8ByteSize = value.toList.length :=
  utf8ByteSize_ascii fun character member => (nameCharacter_plain (names character member)).1

/-- The seconds of an instant are those of the clock that keys are made with. -/
theorem exists_int64 (issued : OffsetDateTime) :
    ∃ seconds : Int64, seconds.toInt = issued.unixTimestamp := by
  obtain ⟨lower, upper⟩ := issued.unixTimestamp_bounds
  exact ⟨_, Int64.toInt_ofInt_of_le (by omega) (by omega)⟩

/-- The key of an accepted upload has at most 201 bytes. -/
theorem generatedPhotoKey_size {draft : UploadIntentDraft} {issued : OffsetDateTime}
    {random : List UInt8} {key : String} (accepted : validateUploadDraft draft = .ok ⟨⟩)
    (drawn : random.length = 18)
    (generated : generatedPhotoKey draft issued.unixTimestamp (urlSafeNoPad random) = .ok key) :
    key.utf8ByteSize ≤ 201 := by
  obtain ⟨filled, short, -, -, normal⟩ := validateUploadDraft_bounds accepted
  simp only [generatedPhotoKey, bind_eq_ok, required_eq_ok, canonicalKey_eq_ok] at generated
  obtain ⟨extension, known, -, rfl⟩ := generated
  obtain ⟨other, same, extensionShort, extensionNames⟩ := photoExtension_names normal
  obtain rfl := Option.some.inj (known.symm.trans same)
  obtain ⟨-, loanLength, loanNames⟩ := loanSegment_names filled
  obtain ⟨seconds, clock⟩ := exists_int64 issued
  obtain ⟨stampShort, stampNames⟩ := timestamp_names seconds
  rw [clock] at stampShort stampNames
  -- Every part is made of names, so it has as many bytes as characters.
  have loan := utf8ByteSize_names fun character member =>
    nameCharacter_of_token (loanNames character member)
  have stamp := utf8ByteSize_names fun character member =>
    nameCharacter_of_token (stampNames character member)
  have suffix := utf8ByteSize_names fun character member =>
    nameCharacter_of_token (Or.inl (extensionNames character member))
  have marker := utf8ByteSize_urlSafeNoPad random
  have loanShort := (length_le_utf8ByteSize draft.loanAccount).trans short
  have fixed : [canonicalPhotoPath, "/manual-", "-", "."].map String.utf8ByteSize =
      [15, 8, 1, 1] := by decide
  simp only [List.map_cons, List.map_nil, List.cons.injEq, and_true] at fixed
  simp only [String.utf8ByteSize_append]
  omega

/-! ### Intents that are created -/

/-- Every accepted upload has an intent: claims of the draft, for five minutes. -/
theorem createUploadIntent_ok {draft : UploadIntentDraft} (issued : OffsetDateTime)
    {random : List UInt8} (accepted : validateUploadDraft draft = .ok ⟨⟩)
    (drawn : random.length = 18) :
    ∃ claims, createUploadIntent draft issued.unixTimestamp (urlSafeNoPad random) = .ok claims ∧
      claims.draft = draft ∧ claims.version = 1 ∧ claims.uploadMarker = urlSafeNoPad random ∧
      claims.issuedAt = issued.unixTimestamp ∧
      claims.expiresAt = issued.unixTimestamp + uploadExpirySeconds ∧
      claims.objectKey.utf8ByteSize ≤ 201 := by
  -- Every accepted upload has a canonical key, and this has a page address.
  obtain ⟨seconds, clock⟩ := exists_int64 issued
  obtain ⟨rest, canonical, generated⟩ : ∃ rest, isCanonical (canonicalPhotoPath ++ rest) = true ∧
      generatedPhotoKey draft seconds.toInt (urlSafeNoPad random) =
        .ok (canonicalPhotoPath ++ rest) :=
    generatedPhotoKey_canonical urlSafeNoPad_token accepted drawn
  rw [clock] at generated
  have bounded := generatedPhotoKey_size accepted drawn generated
  simp only [createUploadIntent, bind_eq_ok, pure_eq_ok]
  exact ⟨_, ⟨⟨⟩, accepted, _, generated, _, photoRouteUrl_eq canonical, rfl⟩, rfl, rfl, rfl, rfl,
    rfl, bounded⟩

/-- The claims of an accepted upload fit their types when its connection id does. -/
theorem representable_of_accepted {claims : UploadClaims} {issued : OffsetDateTime}
    (accepted : validateUploadDraft claims.draft = .ok ⟨⟩) (stored : claims.connectionId < 2 ^ 63)
    (version : claims.version = 1) (issuedAt : claims.issuedAt = issued.unixTimestamp)
    (expiresAt : claims.expiresAt = issued.unixTimestamp + uploadExpirySeconds) :
    claims.Representable := by
  obtain ⟨-, -, -, small, -⟩ := validateUploadDraft_bounds accepted
  -- Sizes are limited by the draft, and times by the years of the clock.
  obtain ⟨lower, upper⟩ := issued.unixTimestamp_bounds
  simp only [UploadClaims.draft, maxUploadBytes] at small
  simp only [uploadExpirySeconds] at expiresAt
  exact ⟨by omega, stored, by omega, by omega, by omega⟩

/-- The token of an accepted upload is short enough. -/
theorem IntentPlatform.signClaims_size {platform : IntentPlatform} (standard : platform.Standard)
    {key : List UInt8} {claims : UploadClaims} {random : List UInt8} {token : String}
    (representable : claims.Representable) (accepted : validateUploadDraft claims.draft = .ok ⟨⟩)
    (drawn : random.length = 18) (marked : claims.uploadMarker = urlSafeNoPad random)
    (keyed : claims.objectKey.utf8ByteSize ≤ 201)
    (signs : platform.signClaims key claims = .ok token) :
    token.utf8ByteSize ≤ maxIntentBytes := by
  obtain ⟨payload, written, rfl⟩ := signClaims_eq_ok.mp signs
  obtain ⟨text, json, form⟩ := standard.toVec_json claims
  obtain rfl := Option.some.inj (form.symm.trans written)
  -- The form of the claims is bounded by the texts in it.
  have long := length_claims json representable
  obtain ⟨-, loan, file, -, normal⟩ := validateUploadDraft_bounds accepted
  have marker := utf8ByteSize_urlSafeNoPad random
  rw [← marked] at marker
  have type : claims.contentType.utf8ByteSize ≤ 10 := by
    have listed := (normalizeContentType_eq_some.mp (beq_iff_eq.mp normal)).2
    have short : ∀ type ∈ ["image/jpeg", "image/png", "image/webp"], type.utf8ByteSize ≤ 10 := by
      decide
    exact short _ listed
  have dot : ".".utf8ByteSize = 1 := rfl
  -- A text of at most 4400 bytes, four bytes for three of it, and the tag behind a full stop.
  simp only [UploadClaims.draft] at loan file
  rw [String.utf8ByteSize_append, String.utf8ByteSize_append, utf8ByteSize_urlSafeNoPad,
    utf8ByteSize_urlSafeNoPad, standard.hmac_length, maxIntentBytes]
  omega

/-- Claims are valid from a minute before they were issued until they expire. -/
theorem verifyClaims_eq {claims : UploadClaims} {now : ℤ} (version : claims.version = 1)
    (lifetime : claims.expiresAt = claims.issuedAt + uploadExpirySeconds)
    (accepted : validateUploadDraft claims.draft = .ok ⟨⟩) (issued : claims.issuedAt ≤ now) :
    verifyClaims claims now =
      if now ≤ claims.expiresAt then .ok ⟨⟩ else .error .expiredIntent := by
  split
  · rename_i timely
    simp only [verifyClaims, bind_eq_ok, ensure_eq_ok, Bool.and_eq_true, beq_iff_eq,
      Bool.not_eq_true', decide_eq_true_eq, decide_eq_false_iff_not]
    exact ⟨⟨⟩, by omega, ⟨⟩, ⟨⟨version, by omega⟩, lifetime⟩, accepted⟩
  · rename_i late
    have expired : claims.expiresAt < now := by omega
    simp [verifyClaims, ensure, expired, Bind.bind, Except.bind]

/-! ### A platform -/

/-- Claims fit their types when each of their numbers does. -/
instance (claims : UploadClaims) : Decidable claims.Representable :=
  decidable_of_iff (claims.version < 2 ^ 8 ∧ claims.connectionId < 2 ^ 63 ∧
      claims.sizeBytes < 2 ^ 64 ∧ (-2 ^ 63 ≤ claims.issuedAt ∧ claims.issuedAt < 2 ^ 63) ∧
      (-2 ^ 63 ≤ claims.expiresAt ∧ claims.expiresAt < 2 ^ 63))
    ⟨fun ⟨version, connectionId, sizeBytes, issuedAt, expiresAt⟩ =>
      ⟨version, connectionId, sizeBytes, issuedAt, expiresAt⟩,
    fun ⟨version, connectionId, sizeBytes, issuedAt, expiresAt⟩ =>
      ⟨version, connectionId, sizeBytes, issuedAt, expiresAt⟩⟩

/-- The claims with some members, if all fields are there in their order and fit their types. -/
def UploadClaims.ofMembers : List (String × Json.Value) → Option UploadClaims
  | [("version", .number (.ofNat version)), ("connection_id", .number (.ofNat connectionId)),
      ("loan_account", .text loanAccount), ("file_name", .text fileName),
      ("content_type", .text contentType), ("size_bytes", .number (.ofNat sizeBytes)),
      ("object_key", .text objectKey), ("upload_marker", .text uploadMarker),
      ("issued_at", .number issuedAt), ("expires_at", .number expiresAt)] =>
    let claims : UploadClaims := ⟨version, connectionId, loanAccount, fileName, contentType,
      sizeBytes, objectKey, uploadMarker, issuedAt, expiresAt⟩
    if claims.Representable then some claims else none
  | _ => none

/-- Claims are found again in their members. -/
theorem UploadClaims.ofMembers_members {claims : UploadClaims}
    (representable : claims.Representable) : ofMembers claims.members = some claims :=
  if_pos representable

/-- The platform that writes claims with the escapes they need and reads every compact object. -/
def compactPlatform (hmac : List UInt8 → List UInt8 → List UInt8) : IntentPlatform where
  hmac := hmac
  toVec claims := some (bytesOf (String.ofList (Json.writeObject claims.members)))
  fromSlice bytes := do
    let text ← fromUtf8 bytes
    let members ← Json.readObject text.toList
    UploadClaims.ofMembers members

/-- It is standard when its tags are. -/
theorem compactPlatform_standard {hmac : List UInt8 → List UInt8 → List UInt8}
    (length : ∀ key text, (hmac key text).length = 32) : (compactPlatform hmac).Standard where
  hmac_length := length
  toVec_json claims := ⟨_, Json.writeObject_object (List.cons_ne_nil _ _), rfl⟩
  fromSlice_json claims text representable json := by
    simp only [compactPlatform, fromUtf8_bytesOf, Option.bind_eq_bind, Option.bind_some,
      String.toList_ofList, Json.readObject_object json,
      UploadClaims.ofMembers_members representable]

/-! ### The service -/

/-- A signed request that a browser may make. -/
structure PresignedUpload where
  method : String
  url : String
  headers : List (String × String)
  deriving DecidableEq

/-- What the service asks of an object store about uploads. -/
structure MediaBackend where
  presignPut : String → String → ℕ → String → OffsetDateTime → MediaResult PresignedUpload
  head : String → OffsetDateTime → MediaResult (Option HeadObject)

/-- The service with what is configured of it. -/
structure MediaService where
  backend : Option MediaBackend
  intentKey : Option (List UInt8)

/-- What a browser is told about an upload. -/
structure UploadIntent where
  token : String
  objectKey : String
  imageUrl : String
  upload : PresignedUpload
  expiresAt : ℤ

/-- Signs an intent for an upload at a time, with random bytes for its marker. -/
def MediaService.createUploadIntentAt (platform : IntentPlatform) (service : MediaService)
    (draft : UploadIntentDraft) (now : OffsetDateTime) (random : List UInt8) :
    MediaResult UploadIntent := do
  let backend ← required service.backend .disabled
  let key ← required service.intentKey .disabled
  let claims ← createUploadIntent draft now.unixTimestamp (urlSafeNoPad random)
  let imageUrl ← photoRouteUrl claims.objectKey
  let token ← platform.signClaims key claims
  let upload ← backend.presignPut claims.objectKey claims.contentType claims.sizeBytes
    claims.uploadMarker now
  pure { token, objectKey := claims.objectKey, imageUrl, upload, expiresAt := claims.expiresAt }

/-- Checks a token against its expected scope, and the object under its key against its claims. -/
def MediaService.verifyUploadedIntentAt (platform : IntentPlatform) (service : MediaService)
    (token : String) (expectedConnectionId : ℕ) (expectedLoanAccount : String)
    (now : OffsetDateTime) : MediaResult VerifiedUpload := do
  let backend ← required service.backend .disabled
  let key ← required service.intentKey .disabled
  let claims ← platform.verifyToken key token now.unixTimestamp
  ensure (claims.connectionId == expectedConnectionId &&
    claims.loanAccount == expectedLoanAccount) .invalidIntent
  let _ ← canonicalKey claims.objectKey
  let found ← backend.head claims.objectKey now
  let metadata ← required found .objectMissing
  ensure (metadata.sizeBytes == claims.sizeBytes &&
    metadata.contentType.bind normalizeContentType == some claims.contentType &&
    metadata.uploadMarker == some claims.uploadMarker) .objectMismatch
  let imageUrl ← photoRouteUrl claims.objectKey
  pure {
    connectionId := claims.connectionId
    loanAccount := claims.loanAccount
    fileName := claims.fileName
    contentType := claims.contentType
    sizeBytes := claims.sizeBytes
    objectKey := claims.objectKey
    imageUrl }

/--
A verification succeeds exactly when the token is read, the store answers about the object under
its key, and its claims and this answer pass the checks of a finalization.
-/
theorem MediaService.verifyUploadedIntentAt_eq_ok {platform : IntentPlatform}
    {service : MediaService} {token : String} {connectionId : ℕ} {loanAccount : String}
    {now : OffsetDateTime} {upload : VerifiedUpload} :
    service.verifyUploadedIntentAt platform token connectionId loanAccount now = .ok upload ↔
      ∃ backend key claims found, service.backend = some backend ∧
        service.intentKey = some key ∧ platform.readClaims key token = .ok claims ∧
        backend.head claims.objectKey now = .ok found ∧
        verifyUploadedIntent claims connectionId loanAccount now.unixTimestamp found =
          .ok upload := by
  simp only [verifyUploadedIntentAt, IntentPlatform.verifyToken_eq_ok, verifyUploadedIntent,
    bind_eq_ok, required_eq_ok, ensure_eq_ok, pure_eq_ok, exists_const]
  -- Both sides make the same checks; only the request to the store moves.
  constructor
  · rintro ⟨backend, stored, key, configured, claims, ⟨read, timely⟩, scope, _, canonical, found,
      answered, rest⟩
    exact ⟨backend, key, claims, found, stored, configured, read, answered, ⟨⟩, timely, scope, _,
      canonical, rest⟩
  · rintro ⟨backend, key, claims, found, stored, configured, read, answered, ⟨⟩, timely, scope, _,
      canonical, rest⟩
    exact ⟨backend, stored, key, configured, claims, ⟨read, timely⟩, scope, _, canonical, found,
      answered, rest⟩

/-- A created intent has the token of its claims. -/
theorem MediaService.createUploadIntentAt_eq_ok {platform : IntentPlatform} {service : MediaService}
    {draft : UploadIntentDraft} {now : OffsetDateTime} {random : List UInt8}
    {intent : UploadIntent}
    (created : service.createUploadIntentAt platform draft now random = .ok intent) :
    ∃ key claims, service.intentKey = some key ∧
      createUploadIntent draft now.unixTimestamp (urlSafeNoPad random) = .ok claims ∧
      platform.signClaims key claims = .ok intent.token ∧ intent.objectKey = claims.objectKey ∧
      intent.expiresAt = claims.expiresAt := by
  simp only [createUploadIntentAt, bind_eq_ok, required_eq_ok, pure_eq_ok] at created
  obtain ⟨_, -, key, configured, claims, made, _, -, token, signs, _, -, rfl⟩ := created
  exact ⟨key, claims, configured, made, signs, rfl, rfl⟩

/-- What a finalization checks of claims: their time, their scope, the object under their key. -/
theorem verifyUploadedIntent_matches {claims : UploadClaims} {connectionId : ℕ}
    {loanAccount : String} {now : ℤ} {found : Option HeadObject} {upload : VerifiedUpload}
    (accepted : verifyUploadedIntent claims connectionId loanAccount now found = .ok upload) :
    verifyClaims claims now = .ok ⟨⟩ ∧ claims.connectionId = connectionId ∧
      claims.loanAccount = loanAccount ∧ upload.objectKey = claims.objectKey ∧
      ∃ metadata, found = some metadata ∧
        metadata.sizeBytes = claims.sizeBytes ∧
        metadata.contentType.map mediaType = some claims.contentType ∧
        metadata.uploadMarker = some claims.uploadMarker := by
  simp only [verifyUploadedIntent, bind_eq_ok, ensure_eq_ok, required_eq_ok, pure_eq_ok,
    Bool.and_eq_true, beq_iff_eq] at accepted
  obtain ⟨_, timely, _, ⟨connection, loan⟩, _, -, metadata, present, _, ⟨⟨size, type⟩, marker⟩, _,
    -, rfl⟩ := accepted
  -- The type is compared after its parameters are dropped.
  obtain ⟨raw, reported, normal⟩ := Option.bind_eq_some_iff.mp type
  refine ⟨timely, connection, loan, rfl, metadata, present, size, ?_, marker⟩
  rw [reported, Option.map_some, (normalizeContentType_eq_some.mp normal).1]

/--
The token of every accepted upload is short enough, and gives back exactly its claims for five
minutes and the expiry error afterwards.

When tags are not forged, every token that is verified is the signed form of its claims, and an
upload is verified only for the scope and the key of its claims, with an object there of their
size and marker and of their type up to parameters.
-/
theorem uploadIntent_exact {platform : IntentPlatform} (standard : platform.Standard)
    (key : List UInt8) :
    (∀ draft (issued : OffsetDateTime) random, validateUploadDraft draft = .ok ⟨⟩ →
      draft.connectionId < 2 ^ 63 → random.length = 18 →
      ∃ claims token,
        createUploadIntent draft issued.unixTimestamp (urlSafeNoPad random) = .ok claims ∧
        claims.draft = draft ∧
        claims.expiresAt = issued.unixTimestamp + uploadExpirySeconds ∧
        platform.signClaims key claims = .ok token ∧ token.utf8ByteSize ≤ maxIntentBytes ∧
        (∀ (service : MediaService) intent, service.intentKey = some key →
          service.createUploadIntentAt platform draft issued random = .ok intent →
          intent.token = token ∧ intent.objectKey = claims.objectKey ∧
            intent.expiresAt = claims.expiresAt) ∧
        ∀ now : OffsetDateTime, issued ≤ now →
          platform.verifyToken key token now.unixTimestamp =
            if now.unixTimestamp ≤ claims.expiresAt then .ok claims else .error .expiredIntent) ∧
    ∀ (signed : Set UploadClaims) token, (∀ claims ∈ signed, claims.Representable) →
      platform.Unforged key signed token →
      (∀ now claims, platform.verifyToken key token now = .ok claims →
        claims ∈ signed ∧ platform.signClaims key claims = .ok token) ∧
      ∀ (service : MediaService) connectionId loanAccount now upload,
        service.intentKey = some key →
        service.verifyUploadedIntentAt platform token connectionId loanAccount now = .ok upload →
        ∃ claims ∈ signed, ∃ backend metadata, service.backend = some backend ∧
          platform.verifyToken key token now.unixTimestamp = .ok claims ∧
          claims.connectionId = connectionId ∧ claims.loanAccount = loanAccount ∧
          upload.objectKey = claims.objectKey ∧
          backend.head claims.objectKey now = .ok (some metadata) ∧
          metadata.sizeBytes = claims.sizeBytes ∧
          metadata.contentType.map mediaType = some claims.contentType ∧
          metadata.uploadMarker = some claims.uploadMarker := by
  refine ⟨?_, fun signed token representable unforged => ⟨?_, ?_⟩⟩
  · intro draft issued random accepted stored drawn
    obtain ⟨claims, made, same, version, marked, issuedAt, expiresAt, keyed⟩ :=
      createUploadIntent_ok issued accepted drawn
    subst same
    -- The token is short, so it is read back.
    have representable := representable_of_accepted accepted stored version issuedAt expiresAt
    obtain ⟨token, signs⟩ := IntentPlatform.exists_signClaims standard key claims
    have short :=
      IntentPlatform.signClaims_size standard representable accepted drawn marked keyed signs
    refine ⟨claims, token, made, rfl, expiresAt, signs, short, ?_, fun now later => ?_⟩
    · intro service intent configured created
      obtain ⟨other, again, known, remade, resigned, objectKey, expires⟩ :=
        MediaService.createUploadIntentAt_eq_ok created
      obtain rfl := Option.some.inj (configured.symm.trans known)
      obtain rfl := Except.ok.inj (made.symm.trans remade)
      exact ⟨Except.ok.inj (resigned.symm.trans signs), objectKey, expires⟩
    -- The token gives the claims back, so only their times are left to check.
    have past : claims.issuedAt ≤ now.unixTimestamp := by
      rw [issuedAt]
      exact Int.ediv_le_ediv (by decide) later
    have read := IntentPlatform.readClaims_sign standard representable signs short
    rw [IntentPlatform.verifyToken_eq read, verifyClaims_eq version (issuedAt ▸ expiresAt) accepted
      past]
    split
    · rfl
    · rfl
  · intro now claims verified
    -- What is verified has been read, and what is read was signed.
    have read := (IntentPlatform.verifyToken_eq_ok.mp verified).1
    exact IntentPlatform.readClaims_signed standard representable unforged read
  · intro service connectionId loanAccount now upload configured verified
    -- The checks of a finalization are made on what was read.
    obtain ⟨backend, other, claims, found, stored, known, read, answered, accepted⟩ :=
      MediaService.verifyUploadedIntentAt_eq_ok.mp verified
    obtain rfl := Option.some.inj (configured.symm.trans known)
    obtain ⟨timely, connection, loan, objectKey, metadata, rfl, matched⟩ :=
      verifyUploadedIntent_matches accepted
    have member := (IntentPlatform.readClaims_signed standard representable unforged read).1
    have verified := IntentPlatform.verifyToken_eq_ok.mpr ⟨read, timely⟩
    exact ⟨claims, member, backend, metadata, stored, verified, connection, loan, objectKey,
      answered, matched⟩

/-! ### An upload of a front elevation -/

/-- The key of the tests' secret. -/
def testIntentKey : List UInt8 :=
  [29, 21, 157, 100, 36, 16, 222, 156, 32, 90, 219, 108, 159, 241, 76, 199, 42, 185, 201, 249, 58,
    250, 196, 199, 22, 92, 3, 205, 190, 235, 155, 74]

/-- A photo that a browser wants to upload. -/
def frontDraft : UploadIntentDraft where
  connectionId := 7
  loanAccount := "LN 1/2"
  fileName := "Front elevation.jpg"
  contentType := "image/jpeg"
  sizeBytes := 12345

/-- Random bytes of its marker. -/
def frontRandom : List UInt8 := [0, 1, 2, 3, 4, 5, 6, 7, 8, 9, 10, 11, 12, 13, 14, 15, 16, 17]

/-- What is signed about it at the start of 2026. -/
def frontClaims : UploadClaims where
  version := 1
  connectionId := 7
  loanAccount := "LN 1/2"
  fileName := "Front elevation.jpg"
  contentType := "image/jpeg"
  sizeBytes := 12345
  objectKey := "loan-workspace/LN-1-2/manual-1767225600-AAECAwQFBgcICQoLDA0ODxAR.jpg"
  uploadMarker := "AAECAwQFBgcICQoLDA0ODxAR"
  issuedAt := 1767225600
  expiresAt := 1767225900

/-- The tag of the encoded claims under the tests' key. -/
def testIntentHmac (key text : List UInt8) : List UInt8 :=
  if key = testIntentKey ∧ text = bytesOf (urlSafeNoPad (bytesOf (String.ofList
      (Json.writeObject frontClaims.members)))) then
    [56, 144, 148, 23, 32, 183, 222, 139, 242, 189, 250, 163, 102, 81, 29, 191, 131, 1, 243, 228,
      175, 8, 200, 59, 165, 240, 236, 2, 229, 150, 142, 196]
  else List.replicate 32 0

/-- The platform of the tests. -/
def testIntentPlatform : IntentPlatform := compactPlatform testIntentHmac

/-- It is standard. -/
theorem testIntentPlatform_standard : testIntentPlatform.Standard := by
  refine compactPlatform_standard fun key text => ?_
  unfold testIntentHmac
  split
  · rfl
  · exact List.length_replicate

/-- A service whose store reports the photo with some content type. -/
def frontService (contentType : String) : MediaService where
  backend := some {
    presignPut := fun _ contentType _ uploadMarker _ => .ok {
      method := "PUT"
      url := "https://objects.example.invalid/upload?signature=redacted"
      headers := [("content-type", contentType),
        ("x-amz-meta-trust-deeds-upload", uploadMarker)] }
    head := fun _ _ => .ok (some {
      sizeBytes := 12345
      contentType := some contentType
      uploadMarker := some "AAECAwQFBgcICQoLDA0ODxAR"
      sha256 := none }) }
  intentKey := some testIntentKey

/-- The start of 2026. -/
def frontIssued : OffsetDateTime := ⟨1767225600 * nanosPerSecond, by decide⟩

/-- Five minutes later, when the intent is about to expire. -/
def frontNow : OffsetDateTime := ⟨1767225900 * nanosPerSecond, by decide⟩

/-- The claims are those of the intent. -/
theorem frontClaims_created :
    createUploadIntent frontDraft frontIssued.unixTimestamp (urlSafeNoPad frontRandom) =
      .ok frontClaims := by
  decide +kernel

/-- The photo is finalized with any parameters of its type. -/
theorem frontService_verified {token contentType : String}
    (read : testIntentPlatform.readClaims testIntentKey token = .ok frontClaims)
    (normal : normalizeContentType contentType = some "image/jpeg") :
    ∃ upload, (frontService contentType).verifyUploadedIntentAt testIntentPlatform token 7
      "LN 1/2" frontNow = .ok upload := by
  -- Everything but the type is fixed, and checked as it is.
  have timely : verifyClaims frontClaims frontNow.unixTimestamp = .ok ⟨⟩ := by decide +kernel
  have address : photoRouteUrl frontClaims.objectKey = .ok
      "/media/loan-workspace/LN-1-2/manual-1767225600-AAECAwQFBgcICQoLDA0ODxAR.jpg" := by
    decide +kernel
  have canonical : canonicalKey frontClaims.objectKey = .ok frontClaims.objectKey := by
    decide +kernel
  have accepted : ∃ upload, verifyUploadedIntent frontClaims 7 "LN 1/2" frontNow.unixTimestamp
      (some ⟨12345, some contentType, some "AAECAwQFBgcICQoLDA0ODxAR", none⟩) = .ok upload := by
    simp only [verifyUploadedIntent, bind_eq_ok, required_eq_ok, ensure_eq_ok, pure_eq_ok]
    refine ⟨_, ⟨⟩, timely, ⟨⟩, by decide, _, canonical, _, rfl, ⟨⟩, ?_, _, address, rfl⟩
    simp [normal, frontClaims]
  obtain ⟨upload, accepted⟩ := accepted
  exact ⟨upload, MediaService.verifyUploadedIntentAt_eq_ok.mpr
    ⟨_, testIntentKey, frontClaims, _, rfl, rfl, read, rfl, accepted⟩⟩

/-- The intent of the photo is exact: it lasts five minutes, and finalizes what was signed. -/
theorem uploadIntent_exact_front : ∃ token, testIntentPlatform.signClaims testIntentKey
      frontClaims = .ok token ∧
    token.utf8ByteSize ≤ maxIntentBytes ∧
    testIntentPlatform.verifyToken testIntentKey token frontNow.unixTimestamp = .ok frontClaims ∧
    ∃ upload, (frontService "image/jpeg").verifyUploadedIntentAt testIntentPlatform token 7
        "LN 1/2" frontNow = .ok upload ∧
      upload.objectKey = frontClaims.objectKey := by
  obtain ⟨created, verified⟩ := uploadIntent_exact testIntentPlatform_standard testIntentKey
  obtain ⟨claims, token, made, -, -, signs, short, -, verifies⟩ :=
    created frontDraft frontIssued frontRandom (by decide +kernel) (by decide) rfl
  obtain rfl := Except.ok.inj (frontClaims_created.symm.trans made)
  -- The token is verified in its last second.
  have read := verifies frontNow (by decide +kernel)
  rw [if_pos (by decide +kernel)] at read
  have normal : normalizeContentType "image/jpeg" = some "image/jpeg" := by decide +kernel
  obtain ⟨upload, finalized⟩ :=
    frontService_verified (IntentPlatform.verifyToken_eq_ok.mp read).1 normal
  -- Nothing but these claims was signed.
  obtain ⟨-, finalizes⟩ := verified {frontClaims} token
    (fun claims member => Set.mem_singleton_iff.mp member ▸ by decide +kernel)
    (IntentPlatform.unforged_sign (Set.mem_singleton _) signs)
  obtain ⟨claims, member, -, -, -, -, -, -, objectKey, -⟩ :=
    finalizes _ 7 "LN 1/2" frontNow upload rfl finalized
  rw [Set.mem_singleton_iff.mp member] at objectKey
  exact ⟨token, signs, short, read, upload, finalized, objectKey⟩

/-- An object whose type has parameters is taken for the signed one, whose type has none. -/
theorem uploadIntent_parameters : ∃ token upload,
    testIntentPlatform.signClaims testIntentKey frontClaims = .ok token ∧
    testIntentPlatform.Unforged testIntentKey {frontClaims} token ∧
    (frontService "image/jpeg; charset=binary").verifyUploadedIntentAt testIntentPlatform token 7
      "LN 1/2" frontNow = .ok upload ∧
    ∃ backend metadata, (frontService "image/jpeg; charset=binary").backend = some backend ∧
      backend.head frontClaims.objectKey frontNow = .ok (some metadata) ∧
      metadata.contentType ≠ some frontClaims.contentType := by
  have representable : frontClaims.Representable := by decide +kernel
  have accepted : validateUploadDraft frontClaims.draft = .ok ⟨⟩ := by decide +kernel
  obtain ⟨token, signs⟩ :=
    IntentPlatform.exists_signClaims testIntentPlatform_standard testIntentKey frontClaims
  -- The token is verified like that of every accepted upload.
  have drawn : frontRandom.length = 18 := rfl
  have marked : frontClaims.uploadMarker = urlSafeNoPad frontRandom := by decide +kernel
  have short := IntentPlatform.signClaims_size testIntentPlatform_standard representable accepted
    drawn marked (by decide) signs
  have read :=
    IntentPlatform.readClaims_sign testIntentPlatform_standard representable signs short
  have normal : normalizeContentType "image/jpeg; charset=binary" = some "image/jpeg" := by
    decide +kernel
  obtain ⟨upload, finalized⟩ := frontService_verified read normal
  exact ⟨token, upload, signs, IntentPlatform.unforged_sign (Set.mem_singleton _) signs, finalized,
    _, _, rfl, rfl, by decide⟩

end FinStream.Media
