import FinStream.Media.Encoding
import FinStream.Media.Location
import FinStream.Media.Service

/-! Which photos a request may read: the route, the stored addresses, and the key that is signed. -/

namespace FinStream.Media

open Store

/-! ### The route of a photo -/

/-- The key that a route names. -/
def photoKeyFromRoute (routeKey : String) : MediaResult String :=
  canonicalKey (canonicalPhotoPath ++ routeKey)

/-- Signs a download of an object, if the object store is configured. -/
def presignDownload (configured : Bool) (objectKey : String) : MediaResult String := do
  let objectKey ← canonicalKey objectKey
  ensure configured .disabled
  canonicalKey objectKey

/-- What a request for a photo is answered with. -/
inductive PhotoResponse where
  | notFound
  | notConfigured
  | unavailable
  | redirect (objectKey : String)
  deriving DecidableEq

/-- The redirect to a signed download. -/
def signedRedirect (configured : Bool) (objectKey : String) : PhotoResponse :=
  match presignDownload configured objectKey with
  | .ok signed => .redirect signed
  | .error .disabled => .notConfigured
  | .error _ => .unavailable

/-- Whether a stored address stands for a key. -/
def refersTo (parseUrl : String → Option Cutover.Url) (objectKey location : String) : Bool :=
  match classifyPhoto (classifyAbsolute parseUrl) location with
  | .ok (.stored candidate) => candidate == objectKey
  | _ => false

/-- Answers a request for a photo, given the addresses of all stored photos. -/
def serveLoanPhoto (parseUrl : String → Option Cutover.Url) (configured : Bool)
    (locations : List String) (routeKey : String) : PhotoResponse :=
  match photoKeyFromRoute routeKey with
  | .error _ => .notFound
  | .ok objectKey =>
    if locations.any (refersTo parseUrl objectKey) then signedRedirect configured objectKey
    else .notFound

/-- The parameter of the route in the path of a page address, percent-decoded once. -/
def routeParameter (decode : List UInt8 → List UInt8) (url : String) : Option String :=
  (stripLeading mediaPath url).bind fun path => fromUtf8 (decode (bytesOf path))

/-- An address stands for a key when it is read as that key. -/
theorem refersTo_iff {parseUrl : String → Option Cutover.Url} {objectKey location : String} :
    refersTo parseUrl objectKey location = true ↔
      classifyPhoto (classifyAbsolute parseUrl) location = .ok (.stored objectKey) := by
  unfold refersTo
  split
  · rename_i candidate read
    simp [read]
  · rename_i other
    constructor
    · nofun
    · exact fun read => absurd read (other objectKey)

/-- A redirect signs a canonical key. -/
theorem signedRedirect_eq {configured : Bool} {objectKey signed : String} :
    signedRedirect configured objectKey = .redirect signed ↔
      configured = true ∧ isCanonical objectKey = true ∧ signed = objectKey := by
  have presigned : presignDownload configured objectKey = .ok signed ↔
      configured = true ∧ isCanonical objectKey = true ∧ signed = objectKey := by
    simp only [presignDownload, bind_eq_ok, canonicalKey_eq_ok, ensure_eq_ok]
    constructor
    · rintro ⟨_, ⟨canonical, rfl⟩, _, enabled, -, same⟩
      exact ⟨enabled, canonical, same⟩
    · rintro ⟨enabled, canonical, same⟩
      exact ⟨objectKey, ⟨canonical, rfl⟩, ⟨⟩, enabled, canonical, same⟩
  rw [← presigned]
  unfold signedRedirect
  split
  · rename_i key signs
    simp [signs]
  · rename_i fails
    simp [fails]
  · rename_i fails
    simp [fails]

/-- A request signs an object when its key is canonical and some stored address stands for it. -/
theorem serveLoanPhoto_eq {parseUrl : String → Option Cutover.Url} {configured : Bool}
    {locations : List String} {routeKey signed : String} :
    serveLoanPhoto parseUrl configured locations routeKey = .redirect signed ↔
      configured = true ∧ photoKeyFromRoute routeKey = .ok signed ∧ ∃ location ∈ locations,
        classifyPhoto (classifyAbsolute parseUrl) location = .ok (.stored signed) := by
  unfold serveLoanPhoto
  cases route : photoKeyFromRoute routeKey with
  | error failure => simp
  | ok objectKey =>
    have canonical := (canonicalKey_eq_ok.mp route).1
    have same := (canonicalKey_eq_ok.mp route).2
    subst same
    simp only [Except.ok.injEq]
    split
    · -- Some stored address stands for the key, so it is signed.
      rename_i referenced
      obtain ⟨location, stored, refers⟩ := List.any_eq_true.mp referenced
      rw [signedRedirect_eq]
      constructor
      · rintro ⟨enabled, -, rfl⟩
        exact ⟨enabled, rfl, location, stored, refersTo_iff.mp refers⟩
      · rintro ⟨enabled, rfl, -⟩
        exact ⟨enabled, canonical, rfl⟩
    · -- None does, so the answer is no redirect.
      rename_i unreferenced
      simp only [reduceCtorEq, false_iff]
      rintro ⟨-, rfl, location, stored, read⟩
      exact unreferenced (List.any_eq_true.mpr ⟨location, stored, refersTo_iff.mpr read⟩)

/-! ### Only keys of photos are signed -/

/--
A request signs nothing but the canonical key of a photo that a stored address stands for, and no
stored address stands for a key that is not canonical.
-/
theorem serveLoanPhoto_authorized (parseUrl : String → Option Cutover.Url) :
    (∀ configured locations routeKey signed,
      serveLoanPhoto parseUrl configured locations routeKey = .redirect signed →
        (∃ rest, signed = canonicalPhotoPath ++ rest) ∧ Canonical signed ∧
        ∃ location ∈ locations,
          classifyPhoto (classifyAbsolute parseUrl) location = .ok (.stored signed)) ∧
    ∀ location key, classifyPhoto (classifyAbsolute parseUrl) location = .ok (.stored key) →
      canonicalKey key = .ok key ∧ Canonical key := by
  constructor
  · intro configured locations routeKey signed served
    obtain ⟨-, route, referenced⟩ := serveLoanPhoto_eq.mp served
    obtain ⟨canonical, rfl⟩ := canonicalKey_eq_ok.mp route
    exact ⟨⟨routeKey, rfl⟩, .of_isCanonical canonical, referenced⟩
  · intro location key read
    have canonical := classifyPhoto_canonical read
    exact ⟨canonicalKey_eq_ok.mpr ⟨canonical, rfl⟩, .of_isCanonical canonical⟩

/-- The parts of one web address of an older deployment. -/
def parseLegacyUrl (imageUrl : String) : Option Cutover.Url :=
  if imageUrl = "https://legacy.example/static/loan-images/LN%201/front.jpg" then some {
    scheme := "https"
    username := ""
    host := some "legacy.example"
    hasPassword := false
    hasQuery := false
    hasFragment := false }
  else none

/-- A photo that is stored under its older web address is signed. -/
theorem serveLoanPhoto_authorized_legacy : ∃ rest,
    "loan-workspace/LN 1/front.jpg" = canonicalPhotoPath ++ rest := by
  have served : serveLoanPhoto parseLegacyUrl true
      ["https://legacy.example/static/loan-images/LN%201/front.jpg"] "LN 1/front.jpg" =
        .redirect "loan-workspace/LN 1/front.jpg" := by
    decide +kernel
  exact ((serveLoanPhoto_authorized parseLegacyUrl).1 _ _ _ _ served).1

/-! ### Every photo is read back -/

/-- The segment of a loan account is made of names and is not empty. -/
theorem loanSegment_names {loanAccount : String} (filled : loanAccount ≠ "") :
    loanSegment loanAccount ≠ "" ∧
      (loanSegment loanAccount).toList.length = loanAccount.toList.length ∧
      ∀ character ∈ (loanSegment loanAccount).toList,
        character.isAlphanum = true ∨ character = '-' ∨ character = '_' := by
  -- Every character is kept or becomes a dash, so none is dropped.
  refine ⟨fun empty => filled ?_, ?_, ?_⟩
  · have same := congrArg String.toList empty
    simpa [loanSegment] using same
  · simp [loanSegment]
  · intro character member
    simp only [loanSegment, String.toList_ofList, List.mem_map] at member
    obtain ⟨original, -, rfl⟩ := member
    split
    · rename_i kept
      simpa [or_assoc] using kept
    · exact Or.inr (Or.inl rfl)

/-- A timestamp is written in digits, with a dash in front when it is negative. -/
theorem timestamp_names (issuedAt : Int64) :
    (toString issuedAt.toInt).toList.length ≤ 20 ∧
      ∀ character ∈ (toString issuedAt.toInt).toList,
        character.isAlphanum = true ∨ character = '-' ∨ character = '_' := by
  -- The clock has 64 bits, which is at most 19 digits and a sign.
  have upper := issuedAt.toInt_lt
  have lower := issuedAt.le_toInt
  generalize issuedAt.toInt = seconds at upper lower
  have digits : ∀ value : ℕ, value ≤ 2 ^ 63 → (Nat.repr value).toList.length ≤ 19 ∧
      ∀ character ∈ (Nat.repr value).toList,
        character.isAlphanum = true ∨ character = '-' ∨ character = '_' := by
    intro value small
    rw [Nat.toList_repr]
    constructor
    · exact (Nat.length_toDigits_le_iff (by decide) (by decide)).mpr (by omega)
    · intro character member
      have digit := Nat.isDigit_of_mem_toDigits (by decide) (by decide) member
      exact Or.inl (by simp [Char.isAlphanum, digit])
  rw [Int.toString_eq_repr]
  cases seconds with
  | ofNat value =>
    rw [Int.ofNat_eq_natCast] at upper
    obtain ⟨short, names⟩ := digits value (by omega)
    exact ⟨by rw [Int.repr]; omega, names⟩
  | negSucc value =>
    obtain ⟨short, names⟩ := digits (value + 1) (by omega)
    have shape : (Int.negSucc value).repr = "-" ++ Nat.repr (value + 1) := rfl
    rw [shape, String.toList_append]
    constructor
    · have dash : "-".toList.length = 1 := rfl
      rw [List.length_append, dash]
      omega
    · intro character member
      rcases List.mem_append.mp member with dash | rest
      · exact Or.inr (Or.inl (by simpa using dash))
      · exact names character rest

/-- The type of an accepted photo has an extension, which is made of names. -/
theorem photoExtension_names {contentType : String}
    (normal : (normalizeContentType contentType == some contentType) = true) :
    ∃ extension, photoExtension contentType = some extension ∧
      extension.toList.length ≤ 4 ∧
      ∀ character ∈ extension.toList, character.isAlphanum = true := by
  -- A normal type is one of the listed ones.
  have listed := (normalizeContentType_eq_some.mp (beq_iff_eq.mp normal)).2
  simp only [List.mem_cons, List.not_mem_nil, or_false] at listed
  rcases listed with rfl | rfl | rfl
  · exact ⟨"jpg", rfl, by decide, forall_mem_of_all (by decide)⟩
  · exact ⟨"png", rfl, by decide, forall_mem_of_all (by decide)⟩
  · exact ⟨"webp", rfl, by decide, forall_mem_of_all (by decide)⟩

/-- A character of a segment or a token is one of a name. -/
theorem nameCharacter_of_token {character : Char}
    (token : character.isAlphanum = true ∨ character = '-' ∨ character = '_') :
    isNameCharacter character = true := by
  rcases token with named | rfl | rfl
  · rw [isNameCharacter, named, Bool.true_or, Bool.true_or, Bool.true_or]
  · decide
  · decide

/-- A file name that is put together of names is one. -/
theorem photoFile_names {stamp marker extension : String}
    (stampNames : ∀ character ∈ stamp.toList,
      character.isAlphanum = true ∨ character = '-' ∨ character = '_')
    (markerNames : ∀ character ∈ marker.toList,
      character.isAlphanum = true ∨ character = '-' ∨ character = '_')
    (extensionNames : ∀ character ∈ extension.toList, character.isAlphanum = true) :
    ∀ character ∈ "manual-".toList ++ stamp.toList ++ "-".toList ++ marker.toList ++
      ".".toList ++ extension.toList, isNameCharacter character = true := by
  simp only [List.mem_append]
  -- Three of the six parts are fixed, and checked as they are.
  rintro character (((((fixed | stamped) | dash) | random) | dot) | typed)
  · exact List.all_eq_true.mp (by decide) character fixed
  · exact nameCharacter_of_token (stampNames character stamped)
  · exact List.all_eq_true.mp (by decide) character dash
  · exact nameCharacter_of_token (markerNames character random)
  · exact List.all_eq_true.mp (by decide) character dot
  · exact nameCharacter_of_token (Or.inl (extensionNames character typed))

/-- A key of a loan and a file, both of them names, is canonical when it is short enough. -/
theorem photoKey_canonical {loan : String} {file : List Char} (loanFilled : loan ≠ "")
    (loanNames : ∀ character ∈ loan.toList,
      character.isAlphanum = true ∨ character = '-' ∨ character = '_')
    (fileNames : ∀ character ∈ file, isNameCharacter character = true)
    (fileLong : 2 < file.length) (short : loan.toList.length + file.length ≤ 1000) :
    isCanonical (String.ofList
      (['/'].intercalate ["loan-workspace".toList, loan.toList, file])) = true := by
  refine isCanonical_of_segments (List.cons_ne_nil _ _) ?_ ?_ ?_
  · have spaceLength : "loan-workspace".toList.length = 14 := rfl
    simp only [List.intercalate_cons_cons, List.intercalate_singleton, List.length_append,
      List.length_cons, List.length_nil]
    omega
  · simp only [List.forall_mem_cons, List.not_mem_nil, false_implies, implies_true, and_true]
    exact ⟨forall_mem_of_all (by decide),
      fun character member => nameCharacter_of_token (loanNames character member), fileNames⟩
  · -- No segment is empty or made of dots: a loan has no dot, and a file is longer than two.
    simp only [List.forall_mem_cons, List.not_mem_nil, false_implies, implies_true, and_true]
    have dotless : '.' ∉ loan.toList := fun member => absurd (loanNames '.' member) (by decide)
    refine ⟨by decide, ⟨fun empty => loanFilled (by simpa using empty), ?_, ?_⟩, ?_, ?_, ?_⟩
    · exact fun dot => dotless (by simp [dot])
    · exact fun dots => dotless (by simp [dots])
    · exact fun empty => absurd (congrArg List.length empty ▸ fileLong) (by decide)
    · exact fun dot => absurd (congrArg List.length dot ▸ fileLong) (by decide)
    · exact fun dots => absurd (congrArg List.length dots ▸ fileLong) (by decide)

/-- What is known about an accepted upload. -/
theorem validateUploadDraft_bounds {draft : UploadIntentDraft}
    (accepted : validateUploadDraft draft = .ok ⟨⟩) :
    draft.loanAccount ≠ "" ∧ draft.loanAccount.utf8ByteSize ≤ 128 ∧
      draft.fileName.utf8ByteSize ≤ 255 ∧ draft.sizeBytes ≤ maxUploadBytes ∧
      (normalizeContentType draft.contentType == some draft.contentType) = true := by
  simp only [validateUploadDraft, ensure_eq_ok, Bool.and_eq_true, Bool.not_eq_true',
    decide_eq_true_eq] at accepted
  obtain ⟨⟨⟨⟨⟨⟨⟨⟨-, named⟩, short⟩, -⟩, brief⟩, -⟩, -⟩, small⟩, normal⟩ := accepted
  refine ⟨?_, short, brief, small, normal⟩
  rintro empty
  rw [empty] at named
  revert named
  decide

/-- The key of every accepted upload is canonical. -/
theorem generatedPhotoKey_canonical {encode : List UInt8 → String} (token : TokenEncoding encode)
    {draft : UploadIntentDraft} {issuedAt : Int64} {random : List UInt8}
    (accepted : validateUploadDraft draft = .ok ⟨⟩) (drawn : random.length = 18) :
    ∃ rest, isCanonical (canonicalPhotoPath ++ rest) = true ∧
      generatedPhotoKey draft issuedAt.toInt (encode random) =
        .ok (canonicalPhotoPath ++ rest) := by
  obtain ⟨filled, short, -, -, normal⟩ := validateUploadDraft_bounds accepted
  obtain ⟨extension, known, extensionShort, extensionNames⟩ := photoExtension_names normal
  obtain ⟨loanFilled, loanLength, loanNames⟩ := loanSegment_names filled
  obtain ⟨stampShort, stampNames⟩ := timestamp_names issuedAt
  have loanShort := (length_le_utf8ByteSize draft.loanAccount).trans short
  have tokenLength := token.length random
  have fileNames := photoFile_names stampNames (token.alphabet random) extensionNames
  suffices canonical : isCanonical (canonicalPhotoPath ++ (loanSegment draft.loanAccount ++
      "/manual-" ++ toString issuedAt.toInt ++ "-" ++ encode random ++ "." ++ extension)) = true by
    refine ⟨_, canonical, ?_⟩
    simp only [generatedPhotoKey, bind_eq_ok, required_eq_ok]
    exact ⟨extension, known, canonicalKey_eq_ok.mpr ⟨canonical, rfl⟩⟩
  generalize loanSegment draft.loanAccount = loan at *
  generalize toString issuedAt.toInt = stamp at *
  generalize encode random = marker at *
  -- The key has three segments: the namespace, the loan, and the file name.
  have whole : canonicalPhotoPath ++ (loan ++ "/manual-" ++ stamp ++ "-" ++ marker ++ "." ++
      extension) = String.ofList (['/'].intercalate ["loan-workspace".toList, loan.toList,
        "manual-".toList ++ stamp.toList ++ "-".toList ++ marker.toList ++ ".".toList ++
          extension.toList]) := by
    refine String.toList_injective ?_
    rw [String.toList_ofList]
    simp [canonicalPhotoPath]
  have fixed : "manual-".toList.length = 7 ∧ "-".toList.length = 1 ∧ ".".toList.length = 1 :=
    ⟨rfl, rfl, rfl⟩
  rw [whole]
  refine photoKey_canonical loanFilled loanNames fileNames ?_ ?_
  · simp only [List.length_append]
    omega
  · simp only [List.length_append]
    omega

/-- A canonical key of a photo has a page address. -/
theorem photoRouteUrl_eq {rest : String}
    (canonical : isCanonical (canonicalPhotoPath ++ rest) = true) :
    photoRouteUrl (canonicalPhotoPath ++ rest) = .ok (mediaPath ++ awsEncodePath rest) := by
  simp only [photoRouteUrl, bind_eq_ok, required_eq_ok, pure_eq_ok, canonicalKey_eq_ok]
  have stripped : stripLeading canonicalPhotoPath (canonicalPhotoPath ++ rest) = some rest :=
    stripLeading_eq_some.mpr rfl
  refine ⟨_, ⟨canonical, rfl⟩, rest, Option.filter_eq_some_iff.mpr ⟨stripped, ?_⟩, rfl⟩
  -- A key that is nothing but the namespace would end in a slash.
  rw [bne_iff_ne]
  rintro rfl
  revert canonical
  decide +kernel

/-- The parameter of the route is what the page address was made from. -/
theorem routeParameter_url {decode : List UInt8 → List UInt8} (standard : PercentDecoding decode)
    (rest : String) : routeParameter decode (mediaPath ++ awsEncodePath rest) = some rest := by
  -- The address is ASCII, so its bytes are decoded one by one.
  have located : stripLeading mediaPath (mediaPath ++ awsEncodePath rest) =
      some (awsEncodePath rest) := stripLeading_eq_some.mpr rfl
  rw [routeParameter, located, Option.bind_some, awsEncodePath, awsEncode,
    bytesOf_ascii (escaped_ascii _), standard.encode, fromUtf8_bytesOf]

/--
Every accepted upload has a canonical key of a photo, and every such key comes back from its page
address: as what the address stands for, and as the only key its route can sign.
-/
theorem photoRoute_roundTrip (parseUrl : String → Option Cutover.Url)
    {encode : List UInt8 → String} (token : TokenEncoding encode)
    {decode : List UInt8 → List UInt8} (standard : PercentDecoding decode) :
    (∀ draft issuedAt random, validateUploadDraft draft = .ok ⟨⟩ → random.length = 18 →
      ∃ key, generatedPhotoKey draft (Int64.toInt issuedAt) (encode random) = .ok key ∧
        isCanonical key = true ∧ ∃ rest, key = canonicalPhotoPath ++ rest) ∧
    ∀ key, isCanonical key = true → (∃ rest, key = canonicalPhotoPath ++ rest) →
      ∃ url routeKey, photoRouteUrl key = .ok url ∧
        classifyPhoto (classifyAbsolute parseUrl) url = .ok (.stored key) ∧
        routeParameter decode url = some routeKey ∧ photoKeyFromRoute routeKey = .ok key ∧
        (∀ locations, url ∈ locations →
          serveLoanPhoto parseUrl true locations routeKey = .redirect key) ∧
        ∀ configured locations signed,
          serveLoanPhoto parseUrl configured locations routeKey = .redirect signed →
            signed = key := by
  constructor
  · intro draft issuedAt random accepted drawn
    obtain ⟨rest, canonical, generated⟩ := generatedPhotoKey_canonical token accepted drawn
    exact ⟨_, generated, canonical, rest, rfl⟩
  · rintro key canonical ⟨rest, rfl⟩
    -- The address is the fixed path and the escaped rest of the key, and each reader undoes that.
    have addressed := photoRouteUrl_eq canonical
    have located : classifyPhoto (classifyAbsolute parseUrl) (mediaPath ++ awsEncodePath rest) =
        .ok (.stored (canonicalPhotoPath ++ rest)) := classifyPhoto_routeUrl addressed
    have route : photoKeyFromRoute rest = .ok (canonicalPhotoPath ++ rest) :=
      canonicalKey_eq_ok.mpr ⟨canonical, rfl⟩
    refine ⟨_, rest, addressed, located, routeParameter_url standard rest, route, ?_, ?_⟩
    · intro locations stored
      exact serveLoanPhoto_eq.mpr ⟨rfl, route, _, stored, located⟩
    · -- What is signed is the route's key, for which some stored address stands.
      intro configured locations signed served
      obtain ⟨-, named, -⟩ := serveLoanPhoto_eq.mp served
      rw [route] at named
      exact (Except.ok.inj named).symm

/-- An upload of a photo with a space, a slash and letters beyond ASCII in its loan account. -/
def accentedDraft : UploadIntentDraft where
  connectionId := 1
  loanAccount := "LN 1/Ö"
  fileName := "front side.jpg"
  contentType := "image/jpeg"
  sizeBytes := 4

/-- Its key is canonical, and a key with such characters comes back from its route. -/
theorem photoRoute_roundTrip_accented :
    (∃ key, generatedPhotoKey accentedDraft (Int64.toInt 1767225600)
      (urlSafeNoPad (List.replicate 18 255)) = .ok key ∧
        isCanonical key = true ∧ ∃ rest, key = canonicalPhotoPath ++ rest) ∧
    ∃ url routeKey, photoRouteUrl "loan-workspace/LN 1/Ö+&.jpg" = .ok url ∧
      routeParameter percentDecode url = some routeKey ∧
      photoKeyFromRoute routeKey = .ok "loan-workspace/LN 1/Ö+&.jpg" := by
  obtain ⟨uploads, keys⟩ :=
    photoRoute_roundTrip parseLegacyUrl urlSafeNoPad_token percentDecode_standard
  have accepted : validateUploadDraft accentedDraft = .ok ⟨⟩ := by decide +kernel
  have canonical : isCanonical "loan-workspace/LN 1/Ö+&.jpg" = true := by decide +kernel
  have whole : "loan-workspace/LN 1/Ö+&.jpg" = canonicalPhotoPath ++ "LN 1/Ö+&.jpg" := by
    decide +kernel
  refine ⟨uploads accentedDraft 1767225600 _ accepted List.length_replicate, ?_⟩
  obtain ⟨url, routeKey, addressed, -, decoded, named, -⟩ := keys _ canonical ⟨_, whole⟩
  exact ⟨url, routeKey, addressed, decoded, named⟩

end FinStream.Media
