import FinStream.Cutover.SourceDb
import FinStream.Media.Authorization

/-! Where the cutover and the application read a photo's address alike. -/

namespace FinStream.Cutover

open Store

/-! ### Escapes -/

/-- A hexadecimal digit is no percent sign. -/
theorem decodeHex_percent {digit value : UInt8} (read : Media.decodeHex digit = some value) :
    digit ≠ 37 := by
  rintro rfl
  cases read

/-- The digits of an escape are no percent signs. -/
theorem decodeEscape_digits {high low value : UInt8}
    (read : Media.decodeEscape high low = some value) :
    ∃ first second, Media.decodeHex high = some first ∧ Media.decodeHex low = some second ∧
      value = first * 16 + second := by
  simp only [Media.decodeEscape, Option.bind_eq_bind, Option.bind_eq_some_iff,
    Option.ite_none_left_eq_some] at read
  obtain ⟨first, firstRead, second, secondRead, -, same⟩ := read
  exact ⟨first, second, firstRead, secondRead, (Option.some.inj same).symm⟩

/-- Every escape that is replaced makes a text two bytes shorter. -/
theorem length_decodeBytes {raw decoded : List UInt8} (read : Media.decodeBytes raw = some decoded) :
    decoded.length + 2 * raw.count 37 = raw.length := by
  fun_induction Media.decodeBytes raw generalizing decoded with
  | case1 =>
    obtain rfl := Option.some.inj read
    rfl
  | case2 byte percent high low tail ih =>
    simp only [Option.bind_eq_some_iff, Option.map_eq_some_iff] at read
    obtain ⟨value, escape, rest, tailRead, rfl⟩ := read
    obtain ⟨first, second, firstRead, secondRead, -⟩ := decodeEscape_digits escape
    have shorter := ih tailRead
    have percent : byte = 37 := by simpa using percent
    subst percent
    -- The sign counts; the digits behind it are no further signs.
    rw [List.count_cons_self, List.count_cons_of_ne (decodeHex_percent firstRead),
      List.count_cons_of_ne (decodeHex_percent secondRead)]
    simp only [List.length_cons]
    omega
  | case3 => cases read
  | case4 byte rest plain ih =>
    obtain ⟨others, restRead, rfl⟩ := Option.map_eq_some_iff.mp read
    have shorter := ih restRead
    rw [List.count_cons_of_ne (by simpa using plain)]
    simp only [List.length_cons]
    omega

/-- An escape does not start at another byte. -/
theorem escape_infix_cons {byte high low : UInt8} (other : byte ≠ 37) (rest : List UInt8) :
    [37, high, low] <:+: byte :: rest ↔ [37, high, low] <:+: rest := by
  rw [List.infix_cons_iff, List.cons_prefix_cons]
  exact or_iff_right fun starts => other starts.1.symm

/-- A byte that is no digit comes from itself or from an escape. -/
theorem mem_decodeBytes {raw decoded : List UInt8} {byte : UInt8}
    (read : Media.decodeBytes raw = some decoded) (other : Media.decodeHex byte = none)
    (plain : byte ≠ 37) : byte ∈ decoded ↔ byte ∈ raw ∨
      ∃ high low, Media.decodeEscape high low = some byte ∧ [37, high, low] <:+: raw := by
  fun_induction Media.decodeBytes raw generalizing decoded with
  | case1 =>
    obtain rfl := Option.some.inj read
    simp
  | case2 first percent high low tail ih =>
    simp only [Option.bind_eq_some_iff, Option.map_eq_some_iff] at read
    obtain ⟨value, escape, rest, tailRead, rfl⟩ := read
    obtain ⟨_, _, highRead, lowRead, -⟩ := decodeEscape_digits escape
    have percent : first = 37 := by simpa using percent
    subst percent
    -- The byte is neither the percent sign nor one of the digits.
    have noHigh : byte ≠ high := by
      rintro rfl
      rw [other] at highRead
      cases highRead
    have noLow : byte ≠ low := by
      rintro rfl
      rw [other] at lowRead
      cases lowRead
    have later : ∀ h l, [37, h, l] <:+: 37 :: high :: low :: tail ↔
        h = high ∧ l = low ∨ [37, h, l] <:+: tail := by
      intro h l
      rw [List.infix_cons_iff, escape_infix_cons (decodeHex_percent highRead),
        escape_infix_cons (decodeHex_percent lowRead)]
      simp [List.cons_prefix_cons]
    simp only [List.mem_cons, ih tailRead, plain, noHigh, noLow, false_or, later]
    constructor
    · rintro (rfl | inside | ⟨h, l, found, within⟩)
      · exact Or.inr ⟨high, low, escape, Or.inl ⟨rfl, rfl⟩⟩
      · exact Or.inl inside
      · exact Or.inr ⟨h, l, found, Or.inr within⟩
    · rintro (inside | ⟨h, l, found, ⟨rfl, rfl⟩ | within⟩)
      · exact Or.inr (Or.inl inside)
      · exact Or.inl (Option.some.inj (found.symm.trans escape))
      · exact Or.inr (Or.inr ⟨h, l, found, within⟩)
  | case3 => cases read
  | case4 first rest unescaped ih =>
    obtain ⟨others, restRead, rfl⟩ := Option.map_eq_some_iff.mp read
    have unescaped : first ≠ 37 := by simpa using unescaped
    simp only [List.mem_cons, ih restRead, escape_infix_cons unescaped, or_assoc]

/-- The digits of an escape are those of its byte. -/
theorem decodeEscape_halves {high low value : UInt8}
    (read : Media.decodeEscape high low = some value) :
    ∃ first second, Media.decodeHex high = some first ∧ Media.decodeHex low = some second ∧
      first.toNat = value.toNat / 16 ∧ second.toNat = value.toNat % 16 := by
  obtain ⟨first, second, firstRead, secondRead, rfl⟩ := decodeEscape_digits read
  -- A digit is half a byte, so that the sum does not wrap around.
  have small : ∀ digit : UInt8, (Media.decodeHex digit).all (fun half => half.toNat < 16) = true :=
    Media.byte_forall (by decide +kernel)
  have firstSmall := small high
  have secondSmall := small low
  rw [firstRead, Option.all_some, decide_eq_true_eq] at firstSmall
  rw [secondRead, Option.all_some, decide_eq_true_eq] at secondSmall
  refine ⟨first, second, firstRead, secondRead, ?_⟩
  simp only [UInt8.toNat_add, UInt8.toNat_mul, UInt8.toNat_ofNat]
  omega

/-- The escapes of a question mark. -/
theorem decodeEscape_questionMark {high low : UInt8} :
    Media.decodeEscape high low = some 63 ↔ high = 51 ∧ (low = 70 ∨ low = 102) := by
  constructor
  · intro read
    obtain ⟨first, second, firstRead, secondRead, three, fifteen⟩ := decodeEscape_halves read
    obtain rfl : first = 3 := UInt8.toNat_inj.mp three
    obtain rfl : second = 15 := UInt8.toNat_inj.mp fifteen
    have highs : ∀ digit : UInt8, Media.decodeHex digit = some 3 → digit = 51 :=
      Media.byte_forall (by decide +kernel)
    have lows : ∀ digit : UInt8, Media.decodeHex digit = some 15 → digit = 70 ∨ digit = 102 :=
      Media.byte_forall (by decide +kernel)
    exact ⟨highs high firstRead, lows low secondRead⟩
  · rintro ⟨rfl, rfl | rfl⟩ <;> decide

/-- The escape of a number sign. -/
theorem decodeEscape_numberSign {high low : UInt8} :
    Media.decodeEscape high low = some 35 ↔ high = 50 ∧ low = 51 := by
  constructor
  · intro read
    obtain ⟨first, second, firstRead, secondRead, two, three⟩ := decodeEscape_halves read
    obtain rfl : first = 2 := UInt8.toNat_inj.mp two
    obtain rfl : second = 3 := UInt8.toNat_inj.mp three
    have highs : ∀ digit : UInt8, Media.decodeHex digit = some 2 → digit = 50 :=
      Media.byte_forall (by decide +kernel)
    have lows : ∀ digit : UInt8, Media.decodeHex digit = some 3 → digit = 51 :=
      Media.byte_forall (by decide +kernel)
    exact ⟨highs high firstRead, lows low secondRead⟩
  · rintro ⟨rfl, rfl⟩
    decide

/-! ### Keys -/

/-- A key of the cutover is one of the application if it is short and free of reserved characters. -/
theorem isCanonical_of_canonicalKey {raw key : String} (accepted : canonicalKey raw = .ok key) :
    Media.isCanonical raw = true ↔
      raw.utf8ByteSize ≤ 1024 ∧ ∀ character ∈ raw.toList, character ≠ '?' ∧ character ≠ '#' := by
  simp only [canonicalKey, validateKey, bind_eq_ok, ensure_eq_ok, Bool.and_eq_true, beq_iff_eq,
    Bool.true_and, Bool.not_eq_true', Bool.or_eq_false_iff, List.all_eq_true,
    List.any_eq_false, Bool.not_eq_true, bne_iff_ne] at accepted
  obtain ⟨_, -, _, ⟨⟨trimmed, -⟩, -⟩, _, percent, _, ⟨⟨backslash, -⟩, -⟩, _, printable, _, segments,
    -⟩ := accepted
  -- The cutover refuses percent signs, backslashes and control characters itself.
  have plain : ∀ character ∈ raw.toList,
      character ≠ '%' ∧ character ≠ '\\' ∧ isControl character = false := by
    intro character member
    refine ⟨?_, ?_, printable character member⟩
    · rintro rfl
      rw [List.contains_iff_mem.mpr member] at percent
      cases percent
    · rintro rfl
      rw [List.contains_iff_mem.mpr member] at backslash
      cases backslash
  rw [Media.isCanonical_iff]
  constructor
  -- What is left are the length and the two characters that only the application refuses.
  · rintro ⟨short, -, allowed, -⟩
    refine ⟨short, fun character member => ?_⟩
    have kept := allowed character member
    simp only [Media.keyRefuses, Bool.or_eq_false_iff, beq_eq_false_iff_ne] at kept
    exact ⟨kept.1.1.2, kept.1.2⟩
  · rintro ⟨short, unreserved⟩
    refine ⟨short, trimmed.symm, fun character member => ?_, fun segment member => ?_⟩
    · simp [Media.keyRefuses, plain character member, unreserved character member]
    · simpa [and_assoc] using segments segment member

/-! ### The part of an address that spells the key -/

/-- What the application asks of the part that spells a key in a namespace: that the key is short
enough, and that no byte of it is a question mark or a number sign, written out or escaped. -/
structure Plain (space raw : String) : Prop where
  short : space.utf8ByteSize + raw.utf8ByteSize ≤ 1024 + 2 * (bytesOf raw).count 37
  unescaped : 63 ∉ bytesOf raw ∧ 35 ∉ bytesOf raw
  escaped : ∀ escape ∈ ["%3F", "%3f", "%23"], ¬ bytesOf escape <:+: bytesOf raw

/-- Where a part is decoded and the cutover accepts its key, the application does if it is plain. -/
theorem isCanonical_decoded {space raw text key : String}
    (free : ∀ character ∈ space.toList, character ≠ '?' ∧ character ≠ '#')
    (decoded : decodeUrlKey raw = .ok text) (accepted : canonicalKey (space ++ text) = .ok key) :
    Media.isCanonical (space ++ text) = true ↔ Plain space raw := by
  rw [isCanonical_of_canonicalKey accepted]
  simp only [decodeUrlKey, required_eq_ok, Option.bind_eq_some_iff] at decoded
  obtain ⟨bytes, read, same⟩ := decoded
  rw [fromUtf8_eq_some] at same
  subst same
  have length := length_decodeBytes read
  rw [← Media.utf8ByteSize_eq, ← Media.utf8ByteSize_eq] at length
  have questionMark : 63 ∈ bytesOf text ↔ _ := mem_decodeBytes read (by decide) (by decide)
  have numberSign : 35 ∈ bytesOf text ↔ _ := mem_decodeBytes read (by decide) (by decide)
  simp only [decodeEscape_questionMark] at questionMark
  simp only [decodeEscape_numberSign] at numberSign
  have question : bytesOf "%3F" = [37, 51, 70] ∧ bytesOf "%3f" = [37, 51, 102] := by decide
  have number : bytesOf "%23" = [37, 50, 51] := by decide
  -- A reserved character of the key is a byte of the part or an escape in it.
  have clear : (∀ character ∈ text.toList, character ≠ '?' ∧ character ≠ '#') ↔
      63 ∉ bytesOf text ∧ 35 ∉ bytesOf text := by
    have first : 63 ∈ bytesOf text ↔ '?' ∈ text.toList :=
      @Media.mem_bytesOf_ascii '?' (by decide) text
    have second : 35 ∈ bytesOf text ↔ '#' ∈ text.toList :=
      @Media.mem_bytesOf_ascii '#' (by decide) text
    rw [first, second]
    constructor
    · exact fun all => ⟨fun inside => (all _ inside).1 rfl, fun inside => (all _ inside).2 rfl⟩
    · rintro ⟨noQuestion, noNumber⟩ character inside
      exact ⟨fun same => noQuestion (same ▸ inside), fun same => noNumber (same ▸ inside)⟩
  have whole : (∀ character ∈ (space ++ text).toList, character ≠ '?' ∧ character ≠ '#') ↔
      63 ∉ bytesOf text ∧ 35 ∉ bytesOf text := by
    rw [← clear, String.toList_append, List.forall_mem_append]
    exact and_iff_right free
  rw [whole, questionMark, numberSign, String.utf8ByteSize_append]
  constructor
  · rintro ⟨short, noQuestion, noNumber⟩
    refine ⟨by omega, ⟨fun inside => noQuestion (Or.inl inside), fun inside =>
      noNumber (Or.inl inside)⟩, ?_⟩
    simp only [List.forall_mem_cons, List.not_mem_nil, false_implies, implies_true, and_true,
      question, number]
    exact ⟨fun within => noQuestion (Or.inr ⟨51, 70, ⟨rfl, Or.inl rfl⟩, within⟩),
      fun within => noQuestion (Or.inr ⟨51, 102, ⟨rfl, Or.inr rfl⟩, within⟩),
      fun within => noNumber (Or.inr ⟨50, 51, ⟨rfl, rfl⟩, within⟩)⟩
  · rintro ⟨short, ⟨noQuestion, noNumber⟩, escaped⟩
    simp only [List.forall_mem_cons, List.not_mem_nil, false_implies, implies_true, and_true,
      question, number] at escaped
    refine ⟨by omega, ?_, ?_⟩
    · rintro (inside | ⟨_, _, ⟨rfl, rfl | rfl⟩, within⟩)
      · exact noQuestion inside
      · exact escaped.1 within
      · exact escaped.2.1 within
    · rintro (inside | ⟨_, _, ⟨rfl, rfl⟩, within⟩)
      · exact noNumber inside
      · exact escaped.2.2 within

/-! ### Addresses -/

/-- A location of the cutover as the application has it. -/
def PhotoLocation.inApplication : PhotoLocation → Media.PhotoLocation
  | .stored key => .stored key
  | .externalOnly => .externalOnly

/-- The part of an address of an object store that spells a key, still escaped. -/
def s3Part (host rawPath : String) : Option String := do
  let path ← stripLeading "/" (String.ofList
    (rawPath.toList.takeWhile fun character => character != '?' && character != '#'))
  (Media.rawS3HttpKey (String.ofList (host.toList.map Char.toLower)) path).toOption.join

/-- The part of a web address that spells a key, with the namespace it is read in. -/
def webPart (parsed : Url) (rawPath : String) : Option (String × String) :=
  match (stripLeading mediaPath rawPath).or (stripLeading staticPath rawPath) with
  | some suffix => some (Media.canonicalPhotoPath, suffix)
  | none => (s3Part (parsed.host.getD "") rawPath).map ("", ·)

/-- The part of an absolute address that spells a key, with the namespace it is read in. -/
def absolutePart (parsed : Url) (imageUrl : String) : Option (String × String) :=
  match parsed.scheme with
  | "http" | "https" => (rawHttpPath imageUrl).bind (webPart parsed)
  | "s3" => (do
    let (_, remainder) ← splitOnce "://".toList imageUrl.toList
    let (_, path) ← splitOnce ['/'] remainder
    some (String.ofList path)).map ("", ·)
  | _ => none

/-- The part of an address that spells a key, with the namespace it is read in. -/
def keyPart (parseUrl : String → Option Url) (imageUrl : String) : Option (String × String) :=
  match (stripLeading mediaPath imageUrl).or (stripLeading staticPath imageUrl) with
  | some suffix => some (Media.canonicalPhotoPath, suffix)
  | none => (parseUrl imageUrl).bind fun parsed => absolutePart parsed imageUrl

/-- Escapes are replaced alike. -/
theorem decodeUrlKey_agrees {raw text : String} :
    Media.decodeUrlKey raw = .ok text ↔ decodeUrlKey raw = .ok text := by
  simp only [Media.decodeUrlKey, decodeUrlKey, required_eq_ok]

/-- The key of a photo page is read alike where it is plain. -/
theorem legacyPhotoKey_agrees {rawSuffix key : String}
    (accepted : legacyPhotoKey rawSuffix = .ok key) :
    Media.legacyPhotoKey rawSuffix = .ok key ↔ Plain Media.canonicalPhotoPath rawSuffix := by
  simp only [legacyPhotoKey, bind_eq_ok, ensure_eq_ok] at accepted
  obtain ⟨_, unescaped, suffix, decoded, accepted⟩ := accepted
  obtain rfl := validateKey_eq accepted
  have free : ∀ character ∈ Media.canonicalPhotoPath.toList, character ≠ '?' ∧ character ≠ '#' :=
    forall_mem_of_all (by decide +kernel)
  -- Both put the decoded name behind the same namespace, whose name is plain.
  rw [← @isCanonical_decoded Media.canonicalPhotoPath _ _ _ free decoded accepted]
  simp only [Media.legacyPhotoKey, bind_eq_ok, ensure_eq_ok, unescaped, decodeUrlKey_agrees,
    Media.canonicalKey_eq_ok]
  constructor
  · rintro ⟨_, -, other, again, canonical, -⟩
    rwa [Except.ok.inj (again.symm.trans decoded)] at canonical
  · exact fun canonical => ⟨⟨⟩, trivial, suffix, decoded, canonical, rfl⟩

/-- The key of an object is read alike where it is plain. -/
theorem decodedKey_agrees {raw text key : String} (decoded : decodeUrlKey raw = .ok text)
    (accepted : canonicalKey text = .ok key) :
    Media.canonicalKey text = .ok key ↔ Plain "" raw := by
  obtain rfl := validateKey_eq accepted
  have spaced : "" ++ key = key := String.empty_append
  rw [← isCanonical_decoded (by simp) decoded (spaced.symm ▸ accepted), spaced,
    Media.canonicalKey_eq_ok]
  exact and_iff_left rfl

/-- The key in an address of an object store is its escaped part, decoded. -/
theorem knownS3HttpKey_eq_ok {host rawPath : String} {found : Option String}
    (accepted : knownS3HttpKey host rawPath = .ok found) :
    ∃ path, stripLeading "/" (String.ofList (rawPath.toList.takeWhile
        fun character => character != '?' && character != '#')) = some path ∧
      ∃ part, Media.rawS3HttpKey (String.ofList (host.toList.map Char.toLower)) path = .ok part ∧
        (part = none ∧ found = none ∨ ∃ raw text key, part = some raw ∧
          decodeUrlKey raw = .ok text ∧ canonicalKey text = .ok key ∧ found = some key) := by
  unfold knownS3HttpKey at accepted
  simp only at accepted
  split at accepted
  · rename_i withoutLeadingSlash path
    have stripped : stripLeading "/" (String.ofList ('/' :: withoutLeadingSlash)) =
        some (String.ofList withoutLeadingSlash) := by
      refine stripLeading_eq_some.mpr (String.toList_injective ?_)
      simp
    refine ⟨_, (congrArg _ (congrArg _ path)).trans stripped, ?_⟩
    generalize String.ofList (host.toList.map Char.toLower) = host at accepted ⊢
    split at accepted
    · -- The bucket is in the name of the host, and the whole path is the key.
      rename_i virtual
      simp only [bind_eq_ok, ensure_eq_ok, map_eq_ok, bne_iff_ne] at accepted
      obtain ⟨_, filled, text, decoded, key, canonical, rfl⟩ := accepted
      have filled : String.ofList withoutLeadingSlash ≠ "" := by simpa using filled
      refine ⟨some (String.ofList withoutLeadingSlash), ?_,
        Or.inr ⟨_, text, key, rfl, decoded, canonical, rfl⟩⟩
      unfold Media.rawS3HttpKey Media.isAwsVirtualHost
      rw [if_pos virtual]
      simp [filled]
    · rename_i named
      split at accepted
      · -- The bucket is the first segment; the key behind it is not empty, as it is canonical.
        rename_i pathStyle
        simp only [bind_eq_ok, required_eq_ok, map_eq_ok] at accepted
        obtain ⟨⟨bucket, behind⟩, split, text, decoded, key, canonical, rfl⟩ := accepted
        refine ⟨some (String.ofList behind), ?_,
          Or.inr ⟨_, text, key, rfl, decoded, canonical, rfl⟩⟩
        have filled : behind ≠ [] := by
          rintro rfl
          have empty : decodeUrlKey (String.ofList []) = .ok "" := by decide +kernel
          rw [Except.ok.inj (decoded.symm.trans empty)] at canonical
          cases canonical
        unfold Media.rawS3HttpKey Media.isAwsVirtualHost Media.isAwsPathHost
        rw [if_neg named, if_pos pathStyle, String.toList_ofList, split]
        simp [filled]
      · rename_i unknown
        obtain rfl := Except.ok.inj accepted
        refine ⟨none, ?_, Or.inl ⟨rfl, rfl⟩⟩
        unfold Media.rawS3HttpKey Media.isAwsVirtualHost Media.isAwsPathHost
        rw [if_neg named, if_neg unknown]
        rfl
  · cases accepted

/-- Addresses of object stores are read alike where the key is plain. -/
theorem knownS3HttpKey_agrees {host rawPath : String} {found : Option String}
    (accepted : knownS3HttpKey host rawPath = .ok found) :
    Media.knownS3HttpKey host rawPath = .ok found ↔
      ∀ raw ∈ s3Part host rawPath, Plain "" raw := by
  obtain ⟨path, stripped, part, read, decided⟩ := knownS3HttpKey_eq_ok accepted
  have located : s3Part host rawPath = part := by
    simp [s3Part, stripped, read, Except.toOption]
  rw [located]
  -- An unknown host spells no key; any other spells the one that both decode.
  rcases decided with ⟨rfl, rfl⟩ | ⟨raw, text, key, rfl, decoded, canonical, rfl⟩
  · refine iff_of_true ?_ fun raw none_ => absurd none_ (Option.not_mem_none raw)
    simp [Media.knownS3HttpKey, stripped, read]
  · simp only [Option.mem_some_iff, forall_eq']
    rw [← decodedKey_agrees decoded canonical]
    simp only [Media.knownS3HttpKey, stripped, bind_eq_ok, required_eq_ok, Option.some.injEq]
    constructor
    · rintro ⟨_, rfl, other, again, rest⟩
      obtain rfl : some raw = other := Except.ok.inj (read.symm.trans again)
      simp only [bind_eq_ok, map_eq_ok, decodeUrlKey_agrees, Option.some.injEq] at rest
      obtain ⟨_, twice, _, kept, rfl⟩ := rest
      rwa [Except.ok.inj (twice.symm.trans decoded)] at kept
    · intro kept
      refine ⟨path, rfl, some raw, read, ?_⟩
      simp only [bind_eq_ok, map_eq_ok, decodeUrlKey_agrees, Option.some.injEq]
      exact ⟨text, decoded, key, kept, rfl⟩

/-- Paths of web addresses are read alike where the key is plain. -/
theorem classifyWebPath_agrees {parsed : Url} {rawPath : String} {location : PhotoLocation}
    (accepted : (match (stripLeading mediaPath rawPath).or (stripLeading staticPath rawPath) with
      | some suffix => do
        ensure (!(parsed.hasQuery || parsed.hasFragment)) .ambiguousEncoding
        (legacyPhotoKey suffix).map .stored
      | none => do
        match ← knownS3HttpKey (parsed.host.getD "") rawPath with
        | some key => pure (.stored key)
        | none => pure .externalOnly) = Except.ok location) :
    Media.classifyWebPath parsed rawPath = .ok location.inApplication ↔
      ∀ part ∈ webPart parsed rawPath, Plain part.1 part.2 := by
  have prefixes : (stripLeading Media.mediaPath rawPath).or (stripLeading Media.staticPath rawPath) =
      (stripLeading mediaPath rawPath).or (stripLeading staticPath rawPath) := rfl
  unfold Media.classifyWebPath webPart
  rw [prefixes]
  split at accepted
  · -- The address is that of a photo page, whose key is in the photo namespace.
    rename_i suffix page
    simp only [bind_eq_ok, ensure_eq_ok, map_eq_ok] at accepted
    obtain ⟨_, bare, key, legacy, rfl⟩ := accepted
    simp only [page, Option.mem_some_iff, forall_eq', bind_eq_ok, ensure_eq_ok, map_eq_ok]
    rw [← legacyPhotoKey_agrees legacy]
    constructor
    · rintro ⟨_, -, other, kept, same⟩
      rwa [Media.PhotoLocation.stored.inj same] at kept
    · exact fun kept => ⟨⟨⟩, bare, key, kept, rfl⟩
  · rename_i elsewhere
    simp only [bind_eq_ok] at accepted
    obtain ⟨found, known, accepted⟩ := accepted
    have agrees := knownS3HttpKey_agrees known
    simp only [elsewhere, Option.forall_mem_map, ← agrees, bind_eq_ok]
    -- A location tells what was found, so that both programs found the same.
    have stored : ∀ other : Option String, (match other with
        | some key => pure (.stored key)
        | none => pure .externalOnly) = (.ok location.inApplication :
          Media.MediaResult Media.PhotoLocation) ↔ other = found := by
      intro other
      cases found with
      | some key =>
        obtain rfl := Except.ok.inj accepted
        cases other with
        | some => simp [PhotoLocation.inApplication]
        | none => simp [PhotoLocation.inApplication]
      | none =>
        obtain rfl := Except.ok.inj accepted
        cases other with
        | some => simp [PhotoLocation.inApplication]
        | none => simp [PhotoLocation.inApplication]
    constructor
    · rintro ⟨other, read, same⟩
      rwa [(stored other).mp same] at read
    · exact fun read => ⟨found, read, (stored found).mpr rfl⟩

/-- Absolute addresses are read alike where the key is plain. -/
theorem classifyAbsolute_agrees {parsed : Url} {imageUrl : String} {location : PhotoLocation}
    (accepted : classifyAbsolute parsed imageUrl = .ok location) :
    Media.classifyParsed parsed imageUrl = .ok location.inApplication ↔
      ∀ part ∈ absolutePart parsed imageUrl, Plain part.1 part.2 := by
  unfold classifyAbsolute at accepted
  unfold Media.classifyParsed absolutePart
  -- Web addresses of either scheme are read alike; a bucket address spells its key itself.
  split at accepted
  · rename_i web
    simp only [bind_eq_ok, ensure_eq_ok, required_eq_ok] at accepted
    obtain ⟨_, anonymous, rawPath, path, accepted⟩ := accepted
    simp only [web, path, Option.bind_some, ← classifyWebPath_agrees accepted, bind_eq_ok,
      ensure_eq_ok, anonymous, required_eq_ok, Media.rawHttpPath]
    simp
  · rename_i web
    simp only [bind_eq_ok, ensure_eq_ok, required_eq_ok] at accepted
    obtain ⟨_, anonymous, rawPath, path, accepted⟩ := accepted
    simp only [web, path, Option.bind_some, ← classifyWebPath_agrees accepted, bind_eq_ok,
      ensure_eq_ok, anonymous, required_eq_ok, Media.rawHttpPath]
    simp
  · rename_i bucket
    simp only [bind_eq_ok, ensure_eq_ok, required_eq_ok] at accepted
    obtain ⟨_, bare, rawPath, path, text, decoded, accepted⟩ := accepted
    obtain ⟨key, canonical, rfl⟩ := map_eq_ok.mp accepted
    simp only [bucket, bind_eq_ok, ensure_eq_ok, bare, required_eq_ok, path, decodeUrlKey_agrees,
      map_eq_ok, Option.forall_mem_map, Option.mem_some_iff, forall_eq', Option.some.injEq]
    rw [← decodedKey_agrees decoded canonical]
    constructor
    · rintro ⟨_, -, _, rfl, other, again, found, kept, same⟩
      rw [Except.ok.inj (again.symm.trans decoded)] at kept
      rwa [Media.PhotoLocation.stored.inj same] at kept
    · exact fun kept => ⟨⟨⟩, trivial, rawPath, rfl, text, decoded, key, kept, rfl⟩
  · cases accepted

/-- Addresses are read alike where the key is plain. -/
theorem classifyPhoto_agrees {parseUrl : String → Option Url} {imageUrl : String}
    {location : PhotoLocation} (accepted : classifyPhoto parseUrl imageUrl = .ok location) :
    Media.classifyPhoto (Media.classifyAbsolute parseUrl) imageUrl = .ok location.inApplication ↔
      ∀ part ∈ keyPart parseUrl imageUrl, Plain part.1 part.2 := by
  unfold classifyPhoto at accepted
  unfold Media.classifyPhoto keyPart
  have media : stripLeading Media.mediaPath imageUrl = stripLeading mediaPath imageUrl := rfl
  have static : stripLeading Media.staticPath imageUrl = stripLeading staticPath imageUrl := rfl
  have page : ∀ {suffix key : String}, legacyPhotoKey suffix = .ok key →
      ((Media.legacyPhotoKey suffix).map .stored = .ok (PhotoLocation.stored key).inApplication ↔
        Plain Media.canonicalPhotoPath suffix) := by
    intro suffix key legacy
    rw [← legacyPhotoKey_agrees legacy, map_eq_ok]
    simp [PhotoLocation.inApplication]
  rw [media, static]
  split at accepted
  · cases accepted
  · -- A page is read by its path, every other address as an absolute one.
    rename_i trimmed
    rw [if_neg trimmed]
    cases mediaPage : stripLeading mediaPath imageUrl with
    | some suffix =>
      simp only [mediaPage, Option.some_or] at accepted ⊢
      obtain ⟨key, legacy, rfl⟩ := map_eq_ok.mp accepted
      simp only [page legacy, Option.mem_some_iff, forall_eq']
    | none =>
      cases staticPage : stripLeading staticPath imageUrl with
      | some suffix =>
        simp only [mediaPage, staticPage, Option.none_or] at accepted ⊢
        obtain ⟨key, legacy, rfl⟩ := map_eq_ok.mp accepted
        simp only [page legacy, Option.mem_some_iff, forall_eq']
      | none =>
        simp only [mediaPage, staticPage, Option.none_or, bind_eq_ok, required_eq_ok]
          at accepted ⊢
        obtain ⟨parsed, read, accepted⟩ := accepted
        simp only [read, Option.bind_some, ← classifyAbsolute_agrees accepted,
          Media.classifyAbsolute, bind_eq_ok, required_eq_ok, Option.some.injEq, exists_eq_left']

/-! ### What was copied -/

/-- What is promised of the address of a photo: the application reads it as the cutover did, and a
key that the cutover took from it is one that the application accepts and serves. -/
structure Agrees (parseUrl : String → Option Url) (imageUrl : String) : Prop where
  located : ∀ location, classifyPhoto parseUrl imageUrl = .ok location →
    Media.classifyPhoto (Media.classifyAbsolute parseUrl) imageUrl = .ok location.inApplication
  served : ∀ photo : PhotoRow, photo.imageUrl = imageUrl → ∀ key,
    (readPhoto parseUrl photo).reference.canonicalKey = some key →
      Media.canonicalKey key = .ok key ∧ Media.signedRedirect true key = .redirect key ∧
        ∀ rest locations, key = Media.canonicalPhotoPath ++ rest → imageUrl ∈ locations →
          Media.serveLoanPhoto parseUrl true locations rest = .redirect key

/-- A key that the application reads from an address is one that it serves. -/
theorem served_of_located {parseUrl : String → Option Url} {imageUrl key : String}
    (located : Media.classifyPhoto (Media.classifyAbsolute parseUrl) imageUrl = .ok (.stored key)) :
    Media.canonicalKey key = .ok key ∧ Media.signedRedirect true key = .redirect key ∧
      ∀ rest locations, key = Media.canonicalPhotoPath ++ rest → imageUrl ∈ locations →
        Media.serveLoanPhoto parseUrl true locations rest = .redirect key := by
  have canonical := Media.classifyPhoto_canonical located
  refine ⟨Media.canonicalKey_eq_ok.mpr ⟨canonical, rfl⟩,
    Media.signedRedirect_eq.mpr ⟨rfl, canonical, rfl⟩, ?_⟩
  rintro rest locations rfl referenced
  exact Media.serveLoanPhoto_eq.mpr
    ⟨rfl, Media.canonicalKey_eq_ok.mpr ⟨canonical, rfl⟩, imageUrl, referenced, located⟩

/-- The cutover and the application agree about an address that the cutover accepts exactly when the
part of it that spells the key is plain. -/
theorem classifyPhoto_agrees_iff {parseUrl : String → Option Url} {imageUrl : String}
    {location : PhotoLocation} (accepted : classifyPhoto parseUrl imageUrl = .ok location) :
    Agrees parseUrl imageUrl ↔ ∀ part ∈ keyPart parseUrl imageUrl, Plain part.1 part.2 := by
  -- What is copied and served follows from how the address is read.
  rw [← classifyPhoto_agrees accepted]
  constructor
  · exact fun agrees => agrees.located location accepted
  · intro located
    constructor
    · intro other read
      rwa [← Except.ok.inj (accepted.symm.trans read)]
    · rintro photo rfl key taken
      rw [(readPhoto_keys parseUrl photo).1, PhotoRow.key, accepted] at taken
      cases location with
      | stored stored =>
        obtain rfl := Option.some.inj taken
        exact served_of_located located
      | externalOnly => cases taken

/-- An escaped space is no reason to disagree. -/
theorem classifyPhoto_agrees_iff_space :
    Agrees (fun _ => none) "/media/loan-workspace/loan%201/front.jpg" := by
  have accepted : classifyPhoto (fun _ => none) "/media/loan-workspace/loan%201/front.jpg" =
      .ok (.stored "loan-workspace/loan 1/front.jpg") := by decide +kernel
  have part : keyPart (fun _ => none) "/media/loan-workspace/loan%201/front.jpg" =
      some ("loan-workspace/", "loan%201/front.jpg") := by decide +kernel
  refine (classifyPhoto_agrees_iff accepted).mpr ?_
  rw [part]
  simp only [Option.mem_some_iff, forall_eq']
  exact ⟨by decide +kernel, by decide +kernel, by decide +kernel⟩

/-- The cutover copies a photo whose name has an escaped question mark; the application refuses the
address. -/
theorem classifyPhoto_apart : ¬ Agrees (fun _ => none) "/media/loan-workspace/a%3Fb.jpg" := by
  have copied : classifyPhoto (fun _ => none) "/media/loan-workspace/a%3Fb.jpg" =
      .ok (.stored "loan-workspace/a?b.jpg") := by decide +kernel
  have refused : Media.classifyPhoto (Media.classifyAbsolute fun _ => none)
      "/media/loan-workspace/a%3Fb.jpg" = .error .invalidKey := by decide +kernel
  intro agrees
  have located := agrees.located _ copied
  rw [refused] at located
  cases located

end FinStream.Cutover
