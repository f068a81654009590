import FinStream.Store.Transaction
import FinStream.Text
import Mathlib.Data.List.Basic

/-! Object keys, and the page addresses that photos are stored under. -/

namespace FinStream.Media

open Store

/-- Errors of the object boundary. -/
inductive MediaError where
  | configuration
  | disabled
  | invalidInput
  | invalidKey
  | invalidIntent
  | expiredIntent
  | objectMissing
  | objectMismatch
  | storageUnavailable
  deriving DecidableEq

/-- A step at the object boundary: an error, or a result. -/
abbrev MediaResult (α : Type) := Except MediaError α

/-- Where page addresses of stored photos start. -/
def mediaPath : String := "/media/loan-workspace/"

/-- Where page addresses of older stored photos start. -/
def staticPath : String := "/static/loan-images/"

/-- Where the keys of photos start. -/
def canonicalPhotoPath : String := "loan-workspace/"

/-- A character no key has, whatever its place. -/
def keyRefuses (character : Char) : Bool :=
  character == '%' || character == '\\' || character == '?' || character == '#' ||
    isControl character

/-- Whether a text has two slashes in a row. -/
def hasDoubleSlash : List Char → Bool
  | first :: second :: rest =>
    (first == '/' && second == '/') || hasDoubleSlash (second :: rest)
  | _ => false

/-- Whether a text is a key: bounded, trimmed, and a path of plain segments. -/
def isCanonical (raw : String) : Bool :=
  raw != "" && raw.utf8ByteSize ≤ 1024 && raw == trim raw && raw.toList.head? != some '/' &&
    raw.toList.getLast? != some '/' && !raw.toList.any keyRefuses &&
    !hasDoubleSlash raw.toList &&
    (raw.toList.splitOn '/').all fun segment =>
      segment != [] && segment != ['.'] && segment != ['.', '.']

/-- Refuses anything but a key. -/
def canonicalKey (raw : String) : MediaResult String :=
  if isCanonical raw then .ok raw else .error .invalidKey

/-- A canonical key is the text it was read from. -/
theorem canonicalKey_eq_ok {raw key : String} :
    canonicalKey raw = .ok key ↔ isCanonical raw = true ∧ key = raw := by
  unfold canonicalKey
  split
  · rename_i canonical
    simp only [Except.ok.injEq, canonical, true_and]
    exact eq_comm
  · rename_i refused
    simp [refused]

/-- A byte that stands for itself in an address. -/
def isUnreserved (byte : UInt8) : Bool :=
  (48 ≤ byte && byte ≤ 57) || (65 ≤ byte && byte ≤ 90) || (97 ≤ byte && byte ≤ 122) ||
    byte == 45 || byte == 95 || byte == 46 || byte == 126

/-- An uppercase hexadecimal digit. -/
def hexDigit (value : UInt8) : Char :=
  Char.ofNat (if value < 10 then 48 + value.toNat else 55 + value.toNat)

/-- The characters that stand for a byte in an address. -/
def encodeByte (preserveSlashes : Bool) (byte : UInt8) : List Char :=
  if isUnreserved byte || (preserveSlashes && byte == 47) then [Char.ofNat byte.toNat]
  else ['%', hexDigit (byte >>> 4), hexDigit (byte &&& 15)]

/-- Escapes bytes for an address. -/
def awsEncode (bytes : List UInt8) (preserveSlashes : Bool) : String :=
  String.ofList (bytes.flatMap (encodeByte preserveSlashes))

/-- Escapes a path, whose slashes stay. -/
def awsEncodePath (raw : String) : String := awsEncode (bytesOf raw) true

/-- The value of a hexadecimal digit. -/
def decodeHex (value : UInt8) : Option UInt8 :=
  if 48 ≤ value && value ≤ 57 then some (value - 48)
  else if 97 ≤ value && value ≤ 102 then some (value - 97 + 10)
  else if 65 ≤ value && value ≤ 70 then some (value - 65 + 10)
  else none

/-- A byte that may not be escaped in an address. -/
def escapeRefuses (value : UInt8) : Bool :=
  value == 47 || value == 92 || value == 46 || value == 37 || value ≤ 31 || value == 127

/-- The byte that two hexadecimal digits escape. -/
def decodeEscape (high low : UInt8) : Option UInt8 := do
  let high ← decodeHex high
  let low ← decodeHex low
  let value := high * 16 + low
  if escapeRefuses value then none else some value

/-- Replaces the escapes in the bytes of an address. -/
def decodeBytes : List UInt8 → Option (List UInt8)
  | [] => some []
  | byte :: rest =>
    if byte == 37 then
      match rest with
      | high :: low :: tail =>
        (decodeEscape high low).bind fun value => (decodeBytes tail).map (value :: ·)
      | _ => none
    else (decodeBytes rest).map (byte :: ·)

/-- Replaces the escapes of an address, whose bytes must then be a text. -/
def decodeUrlKey (raw : String) : MediaResult String :=
  required ((decodeBytes (bytesOf raw)).bind fromUtf8) .invalidKey

/-- The key of a photo by the part of its address after the path. -/
def legacyPhotoKey (rawSuffix : String) : MediaResult String := do
  ensure (!rawSuffix.toList.any fun character => character == '?' || character == '#') .invalidKey
  let suffix ← decodeUrlKey rawSuffix
  canonicalKey (canonicalPhotoPath ++ suffix)

/-- What the address of a photo stands for. -/
inductive PhotoLocation where
  | stored (key : String)
  | externalOnly
  deriving DecidableEq

/-- Reads the address of a photo; absolute addresses are read by the given parser. -/
def classifyPhoto (absolute : String → MediaResult PhotoLocation) (imageUrl : String) :
    MediaResult PhotoLocation :=
  if imageUrl != trim imageUrl || imageUrl == "" then .error .invalidKey
  else match stripLeading mediaPath imageUrl with
    | some suffix => (legacyPhotoKey suffix).map .stored
    | none =>
      match stripLeading staticPath imageUrl with
      | some suffix => (legacyPhotoKey suffix).map .stored
      | none => absolute imageUrl

/-- The page address of a photo. -/
def photoRouteUrl (canonicalPhotoKey : String) : MediaResult String := do
  let key ← canonicalKey canonicalPhotoKey
  let suffix ← required ((stripLeading canonicalPhotoPath key).filter (· != "")) .invalidKey
  pure (mediaPath ++ awsEncodePath suffix)

/-- A property of bytes that holds of all 256 holds of every byte. -/
theorem byte_forall {property : UInt8 → Prop} (all : ∀ code : Fin 256, property (.ofFin code))
    (byte : UInt8) : property byte := by
  have := all byte.toFin
  simpa using this

/-- A byte that an address may escape, or that stands for itself. -/
def Escapable (byte : UInt8) : Prop := byte ≠ 37 ∧ byte ≠ 92 ∧ 31 < byte ∧ byte ≠ 127

/-- Escapable bytes can be told from the others. -/
instance (byte : UInt8) : Decidable (Escapable byte) :=
  inferInstanceAs (Decidable (byte ≠ 37 ∧ byte ≠ 92 ∧ 31 < byte ∧ byte ≠ 127))

/-- Every character of an escaped byte is printable, plain ASCII. -/
theorem encodeByte_plain (byte : UInt8) : ∀ character ∈ encodeByte true byte,
    isWhitespace character = false ∧ character ≠ '?' ∧ character ≠ '#' ∧
      character.toNat < 128 := by
  -- There are 256 bytes, and each of them is escaped to few characters.
  have checked : ∀ byte : UInt8, ((encodeByte true byte).all fun character =>
      decide (isWhitespace character = false ∧ character ≠ '?' ∧ character ≠ '#' ∧
        character.toNat < 128)) = true := byte_forall (by decide +kernel)
  exact forall_mem_of_all (checked byte)

/-- Bytes are escaped to ASCII characters. -/
theorem escaped_ascii (bytes : List UInt8) :
    ∀ character ∈ bytes.flatMap (encodeByte true), character.toNat < 128 := by
  intro character member
  obtain ⟨byte, -, member⟩ := List.mem_flatMap.mp member
  exact (encodeByte_plain byte character member).2.2.2

/-- A byte that starts no escape decodes to itself. -/
theorem decodeBytes_cons {byte : UInt8} (itself : byte ≠ 37) (rest : List UInt8) :
    decodeBytes (byte :: rest) = (decodeBytes rest).map (byte :: ·) := by
  have skipped : (byte == 37) = false := by simpa using itself
  rw [decodeBytes.eq_def]
  simp only [skipped, Bool.false_eq_true, if_false]

/-- The bytes of an escaped byte decode to it, unless it may not be escaped. -/
theorem decodeBytes_encodeByte (byte : UInt8) (allowed : Escapable byte) (rest : List UInt8) :
    decodeBytes ((encodeByte true byte).map (fun character => UInt8.ofNat character.toNat) ++ rest) =
      (decodeBytes rest).map (byte :: ·) := by
  -- What the two branches of the encoder write is checked for every byte.
  have plain : ∀ byte : UInt8, (isUnreserved byte || (true && byte == 47)) = true → byte ≠ 37 →
      UInt8.ofNat (Char.ofNat byte.toNat).toNat = byte := byte_forall (by decide +kernel)
  have escaped : ∀ byte : UInt8, (isUnreserved byte || (true && byte == 47)) = false →
      Escapable byte → decodeEscape (.ofNat (hexDigit (byte >>> 4)).toNat)
        (.ofNat (hexDigit (byte &&& 15)).toNat) = some byte := byte_forall (by decide +kernel)
  unfold encodeByte
  split
  · -- The byte stands for itself.
    rename_i itself
    rw [List.map_singleton, plain byte itself allowed.1, List.singleton_append,
      decodeBytes_cons allowed.1]
  · rename_i reserved
    have reserved : (isUnreserved byte || (true && byte == 47)) = false := by simpa using reserved
    simp only [List.map_cons, List.map_nil, List.cons_append, List.nil_append]
    rw [decodeBytes]
    simp [escaped byte reserved allowed]

/-- A character below the first non-ASCII one is one byte. -/
theorem utf8EncodeChar_ascii {character : Char} (ascii : character.toNat < 128) :
    String.utf8EncodeChar character = [UInt8.ofNat character.toNat] := by
  have below : character.val ≤ 0x7f := by
    rw [UInt32.le_iff_toNat_le]
    exact Nat.le_of_lt_succ ascii
  have size : character.utf8Size = 1 := by simp [Char.utf8Size, below]
  rw [String.utf8EncodeChar_eq_singleton size]
  rfl

/-- The bytes of a text of ASCII characters are the codes of its characters. -/
theorem bytesOf_ascii {characters : List Char} (ascii : ∀ character ∈ characters,
    character.toNat < 128) : bytesOf (String.ofList characters) =
      characters.map fun character => UInt8.ofNat character.toNat := by
  -- One character after another: each is one byte, its code.
  rw [bytesOf, String.toList_ofList]
  induction characters with
  | nil => rfl
  | cons first rest ih =>
    rw [List.flatMap_cons, utf8EncodeChar_ascii (ascii first List.mem_cons_self),
      ih fun character member => ascii character (List.mem_cons_of_mem _ member)]
    rfl

/-- A byte with its highest bit set is escapable. -/
theorem escapable_or (byte : UInt8) : Escapable (byte ||| 0x80) ∧ Escapable (byte ||| 0xc0) ∧
    Escapable (byte ||| 0xe0) ∧ Escapable (byte ||| 0xf0) := by
  revert byte
  exact byte_forall (by decide +kernel)

/-- The bytes of a character that a key may have are escapable. -/
theorem escapable_utf8EncodeChar {character : Char} (allowed : keyRefuses character = false) :
    ∀ byte ∈ String.utf8EncodeChar character, Escapable byte := by
  -- One-byte characters are checked themselves; the bytes of longer ones have their highest bit set.
  have sizes : character.utf8Size = 1 ∨ character.utf8Size = 2 ∨ character.utf8Size = 3 ∨
      character.utf8Size = 4 := by
    have := character.utf8Size_pos
    have := character.utf8Size_le_four
    omega
  rcases sizes with one | two | three | four
  · have below : character.toNat < 128 := by
      have := (Char.utf8Size_eq_one_iff.mp one)
      rw [UInt32.le_iff_toNat_le] at this
      exact Nat.lt_succ_of_le this
    rw [utf8EncodeChar_ascii below]
    have checked : ∀ code : Fin 128, keyRefuses (Char.ofNat code) = false →
        Escapable (UInt8.ofNat code) := by decide +kernel
    intro byte member
    rw [List.mem_singleton.mp member]
    refine checked ⟨character.toNat, below⟩ ?_
    rwa [Char.ofNat_toNat]
  · rw [String.utf8EncodeChar_eq_cons_cons two]
    simp only [List.forall_mem_cons, List.not_mem_nil, false_implies, implies_true, and_true]
    exact ⟨(escapable_or _).2.1, (escapable_or _).1⟩
  · rw [String.utf8EncodeChar_eq_cons_cons_cons three]
    simp only [List.forall_mem_cons, List.not_mem_nil, false_implies, implies_true, and_true]
    exact ⟨(escapable_or _).2.2.1, (escapable_or _).1, (escapable_or _).1⟩
  · rw [String.utf8EncodeChar_eq_cons_cons_cons_cons four]
    simp only [List.forall_mem_cons, List.not_mem_nil, false_implies, implies_true, and_true]
    exact ⟨(escapable_or _).2.2.2, (escapable_or _).1, (escapable_or _).1, (escapable_or _).1⟩

/-- Escaped bytes decode to themselves. -/
theorem decodeBytes_encode {bytes : List UInt8} (escapable : ∀ byte ∈ bytes, Escapable byte) :
    decodeBytes ((bytes.flatMap (encodeByte true)).map fun character =>
      UInt8.ofNat character.toNat) = some bytes := by
  induction bytes with
  | nil => rfl
  | cons first rest ih =>
    rw [List.flatMap_cons, List.map_append,
      decodeBytes_encodeByte first (escapable first List.mem_cons_self),
      ih fun byte member => escapable byte (List.mem_cons_of_mem _ member)]
    rfl

/-- A path of a key decodes from its escaped form. -/
theorem decodeUrlKey_encode {path : String}
    (allowed : ∀ character ∈ path.toList, keyRefuses character = false) :
    decodeUrlKey (awsEncodePath path) = .ok path := by
  have escapable : ∀ byte ∈ bytesOf path, Escapable byte := by
    intro byte member
    obtain ⟨character, inside, member⟩ := List.mem_flatMap.mp member
    exact escapable_utf8EncodeChar (allowed character inside) byte member
  rw [decodeUrlKey, awsEncodePath, awsEncode, bytesOf_ascii (escaped_ascii _),
    decodeBytes_encode escapable, Option.bind_some, fromUtf8_bytesOf]
  rfl

/-- A key has no character that keys refuse. -/
theorem isCanonical_allowed {key : String} (canonical : isCanonical key = true) :
    ∀ character ∈ key.toList, keyRefuses character = false := by
  simp only [isCanonical, Bool.and_eq_true, Bool.not_eq_true', List.any_eq_false] at canonical
  intro character member
  simpa using canonical.1.1.2 character member

/-- The page address of a photo is read back as its key. -/
theorem classifyPhoto_routeUrl {absolute : String → MediaResult PhotoLocation} {key url : String}
    (addressed : photoRouteUrl key = .ok url) :
    classifyPhoto absolute url = .ok (.stored key) := by
  simp only [photoRouteUrl, bind_eq_ok, required_eq_ok, pure_eq_ok, canonicalKey_eq_ok] at addressed
  obtain ⟨key, ⟨canonical, rfl⟩, suffix, found, rfl⟩ := addressed
  -- The address is the path of pages and the escaped rest, with nothing in it to trim or to cut.
  obtain ⟨stripped, -⟩ := Option.filter_eq_some_iff.mp found
  have whole : key = canonicalPhotoPath ++ suffix := stripLeading_eq_some.mp stripped
  have allowed : ∀ character ∈ suffix.toList, keyRefuses character = false :=
    fun character member => isCanonical_allowed canonical character (by rw [whole]; simp [member])
  have plain : ∀ character ∈ (awsEncodePath suffix).toList,
      isWhitespace character = false ∧ character ≠ '?' ∧ character ≠ '#' := by
    intro character member
    rw [awsEncodePath, awsEncode, String.toList_ofList] at member
    obtain ⟨byte, -, member⟩ := List.mem_flatMap.mp member
    have := encodeByte_plain byte character member
    exact ⟨this.1, this.2.1, this.2.2.1⟩
  have trimmed : trim (mediaPath ++ awsEncodePath suffix) = mediaPath ++ awsEncodePath suffix := by
    refine trim_eq_self fun character member => ?_
    rw [String.toList_append] at member
    rcases List.mem_append.mp member with start | rest
    · have solid : ∀ character ∈ mediaPath.toList, isWhitespace character = false :=
        forall_mem_of_all (by decide +kernel)
      exact solid character start
    · exact (plain character rest).1
  have filled : mediaPath ++ awsEncodePath suffix ≠ "" := by
    intro empty
    have := congrArg (fun text => text.toList.length) empty
    simp [mediaPath] at this
  have located : stripLeading mediaPath (mediaPath ++ awsEncodePath suffix) =
      some (awsEncodePath suffix) := stripLeading_eq_some.mpr rfl
  have unquoted : ((awsEncodePath suffix).toList.any fun character =>
      character == '?' || character == '#') = false := by
    rw [List.any_eq_false]
    intro character member
    simp [(plain character member).2.1, (plain character member).2.2]
  rw [classifyPhoto, trimmed]
  simp only [bne_self_eq_false, Bool.false_or, beq_iff_eq, filled, if_false, located]
  -- The suffix decodes, and with the path of photos in front it is the key again.
  have legacy : legacyPhotoKey (awsEncodePath suffix) = .ok key := by
    simp only [legacyPhotoKey, bind_eq_ok, ensure_eq_ok, canonicalKey_eq_ok, unquoted]
    exact ⟨⟨⟩, rfl, suffix, decodeUrlKey_encode allowed, whole ▸ canonical, whole⟩
  rw [legacy]
  rfl

end FinStream.Media
