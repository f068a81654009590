import FinStream.Media.Key

/-! What the web framework and the encoding library do with bytes, and names that need neither. -/

namespace FinStream.Media

open Store

/-! ### Percent-decoding -/

/-- Standard percent-decoding: an escape becomes its byte, every other byte stays. -/
structure PercentDecoding (decode : List UInt8 → List UInt8) : Prop where
  nil : decode [] = []
  plain : ∀ byte rest, byte ≠ 37 → decode (byte :: rest) = byte :: decode rest
  escape : ∀ high low highValue lowValue rest, decodeHex high = some highValue →
    decodeHex low = some lowValue →
      decode (37 :: high :: low :: rest) = (highValue * 16 + lowValue) :: decode rest

/-- Percent-decoding that leaves a percent sign without two digits behind it as it is. -/
def percentDecode : List UInt8 → List UInt8
  | byte :: high :: low :: rest =>
    match if byte == 37 then decodeHex high else none, decodeHex low with
    | some highValue, some lowValue => (highValue * 16 + lowValue) :: percentDecode rest
    | _, _ => byte :: percentDecode (high :: low :: rest)
  | short => short

/-- It is one. -/
theorem percentDecode_standard : PercentDecoding percentDecode where
  nil := rfl
  plain byte rest other := by
    have skipped : (byte == 37) = false := by simpa using other
    cases rest with
    | nil => rfl
    | cons high rest =>
      cases rest with
      | nil => rfl
      | cons low rest =>
        rw [percentDecode]
        simp only [skipped, Bool.false_eq_true, if_false]
  escape high low highValue lowValue rest highRead lowRead := by
    rw [percentDecode]
    simp only [highRead, lowRead, BEq.rfl, if_true]

/-- Bytes that are escaped for an address are decoded to themselves. -/
theorem PercentDecoding.encode {decode : List UInt8 → List UInt8}
    (standard : PercentDecoding decode) (bytes : List UInt8) :
    decode ((bytes.flatMap (encodeByte true)).map fun character =>
      UInt8.ofNat character.toNat) = bytes := by
  -- There are 256 bytes, so what escaping one does is checked for all of them.
  have itself : ∀ byte : UInt8, (isUnreserved byte || (true && byte == 47)) = true →
      byte ≠ 37 ∧ UInt8.ofNat (Char.ofNat byte.toNat).toNat = byte :=
    byte_forall (by decide +kernel)
  have halves : ∀ byte : UInt8,
      decodeHex (.ofNat (hexDigit (byte >>> 4)).toNat) = some (byte >>> 4) ∧
      decodeHex (.ofNat (hexDigit (byte &&& 15)).toNat) = some (byte &&& 15) ∧
      byte >>> 4 * 16 + (byte &&& 15) = byte := byte_forall (by decide +kernel)
  induction bytes with
  | nil => exact standard.nil
  | cons byte rest ih =>
    rw [List.flatMap_cons, List.map_append]
    unfold encodeByte
    split
    · -- The byte stands for itself.
      rename_i reserved
      obtain ⟨other, same⟩ := itself byte reserved
      rw [List.map_singleton, same, List.singleton_append, standard.plain byte _ other]
      exact congrArg (byte :: ·) ih
    · -- The byte is a percent sign and two digits, which are its halves.
      obtain ⟨high, low, whole⟩ := halves byte
      simp only [List.map_cons, List.map_nil, List.cons_append, List.nil_append]
      have percent : UInt8.ofNat '%'.toNat = 37 := rfl
      rw [percent, standard.escape _ _ _ _ _ high low, whole]
      exact congrArg (byte :: ·) ih

/-! ### Names -/

/-- A character that stands for itself in names, addresses and tokens. -/
def isNameCharacter (character : Char) : Bool :=
  character.isAlphanum || character == '-' || character == '_' || character == '.'

/-- Such a character is plain ASCII, and keys may have it anywhere. -/
theorem nameCharacter_plain {character : Char} (named : isNameCharacter character = true) :
    character.toNat < 128 ∧ isWhitespace character = false ∧ keyRefuses character = false := by
  -- The ASCII characters are checked; a name has no others.
  have checked : ∀ code : Fin 128, isNameCharacter (Char.ofNat code) = true →
      isWhitespace (Char.ofNat code) = false ∧ keyRefuses (Char.ofNat code) = false := by
    decide +kernel
  have ascii : character.toNat < 128 := by
    delta isNameCharacter Char.isAlphanum Char.isAlpha Char.isUpper Char.isLower Char.isDigit
      at named
    simp only [Bool.or_eq_true, Bool.and_eq_true, decide_eq_true_eq, beq_iff_eq,
      UInt32.le_iff_toNat_le, ge_iff_le] at named
    rcases named with ((((⟨-, below⟩ | ⟨-, below⟩) | ⟨-, below⟩) | rfl) | rfl) | rfl
    · exact Nat.lt_of_le_of_lt below (by decide)
    · exact Nat.lt_of_le_of_lt below (by decide)
    · exact Nat.lt_of_le_of_lt below (by decide)
    · decide
    · decide
    · decide
  have plain := checked ⟨character.toNat, ascii⟩
  simp only [Char.ofNat_toNat] at plain
  exact ⟨ascii, plain named⟩

/-- A text is as long as its bytes. -/
theorem utf8ByteSize_eq (value : String) : value.utf8ByteSize = (bytesOf value).length := by
  have encoded : (bytesOf value).toByteArray = value.toList.utf8Encode := rfl
  rw [← List.size_toByteArray, encoded, String.utf8ByteSize, ← String.toByteArray_ofList,
    String.ofList_toList]

/-- A text has at least as many bytes as characters. -/
theorem length_le_utf8ByteSize (value : String) : value.toList.length ≤ value.utf8ByteSize := by
  rw [utf8ByteSize_eq, bytesOf, List.length_flatMap]
  generalize value.toList = characters
  induction characters with
  | nil => exact Nat.le_refl 0
  | cons first rest ih =>
    -- Each character has at least one byte.
    have positive := first.utf8Size_pos
    rw [List.map_cons, List.sum_cons, String.length_utf8EncodeChar, List.length_cons]
    omega

/-- A text of ASCII characters has as many bytes as characters. -/
theorem utf8ByteSize_ascii {value : String}
    (ascii : ∀ character ∈ value.toList, character.toNat < 128) :
    value.utf8ByteSize = value.toList.length := by
  have bytes := bytesOf_ascii ascii
  rw [String.ofList_toList] at bytes
  rw [utf8ByteSize_eq, bytes, List.length_map]

/-- The bytes of a longer character have their highest bit set. -/
theorem utf8EncodeChar_wide {character : Char} (wide : ¬ character.toNat < 128) :
    ∀ byte ∈ String.utf8EncodeChar character, 128 ≤ byte.toNat := by
  have high : ∀ byte : UInt8, 128 ≤ (byte ||| 0x80).toNat ∧ 128 ≤ (byte ||| 0xc0).toNat ∧
      128 ≤ (byte ||| 0xe0).toNat ∧ 128 ≤ (byte ||| 0xf0).toNat := byte_forall (by decide +kernel)
  have sizes : character.utf8Size = 2 ∨ character.utf8Size = 3 ∨ character.utf8Size = 4 := by
    have := character.utf8Size_pos
    have := character.utf8Size_le_four
    have several : character.utf8Size ≠ 1 := by
      intro one
      have below := Char.utf8Size_eq_one_iff.mp one
      rw [UInt32.le_iff_toNat_le] at below
      exact wide (Nat.lt_succ_of_le below)
    omega
  rcases sizes with two | three | four
  · rw [String.utf8EncodeChar_eq_cons_cons two]
    simp only [List.forall_mem_cons, List.not_mem_nil, false_implies, implies_true, and_true]
    exact ⟨(high _).2.1, (high _).1⟩
  · rw [String.utf8EncodeChar_eq_cons_cons_cons three]
    simp only [List.forall_mem_cons, List.not_mem_nil, false_implies, implies_true, and_true]
    exact ⟨(high _).2.2.1, (high _).1, (high _).1⟩
  · rw [String.utf8EncodeChar_eq_cons_cons_cons_cons four]
    simp only [List.forall_mem_cons, List.not_mem_nil, false_implies, implies_true, and_true]
    exact ⟨(high _).2.2.2, (high _).1, (high _).1, (high _).1⟩

/-- An ASCII character is in a text exactly when its code is among the bytes. -/
theorem mem_bytesOf_ascii {character : Char} (ascii : character.toNat < 128) {value : String} :
    UInt8.ofNat character.toNat ∈ bytesOf value ↔ character ∈ value.toList := by
  rw [bytesOf, List.mem_flatMap]
  constructor
  · rintro ⟨other, inside, byte⟩
    by_cases narrow : other.toNat < 128
    · rw [utf8EncodeChar_ascii narrow, List.mem_singleton] at byte
      have codes := congrArg UInt8.toNat byte
      rw [UInt8.toNat_ofNat', UInt8.toNat_ofNat', Nat.mod_eq_of_lt (by omega),
        Nat.mod_eq_of_lt (by omega)] at codes
      rwa [Char.toNat_inj.mp codes]
    · have high := utf8EncodeChar_wide narrow _ byte
      rw [UInt8.toNat_ofNat', Nat.mod_eq_of_lt (by omega)] at high
      omega
  · intro inside
    exact ⟨character, inside, by rw [utf8EncodeChar_ascii ascii]; exact List.mem_singleton_self _⟩

/-- Two slashes in a row have an empty segment between them. -/
theorem hasDoubleSlash_empty {characters : List Char} (double : hasDoubleSlash characters = true) :
    [] ∈ characters.splitOn '/' := by
  have found : ∃ before after, characters = before ++ '/' :: '/' :: after := by
    -- The search compares two characters at a time.
    fun_induction hasDoubleSlash characters with
    | case1 first second rest ih =>
      rw [Bool.or_eq_true, Bool.and_eq_true, beq_iff_eq, beq_iff_eq] at double
      rcases double with ⟨rfl, rfl⟩ | later
      · exact ⟨[], rest, rfl⟩
      · obtain ⟨before, after, same⟩ := ih later
        exact ⟨first :: before, after, by rw [same, List.cons_append]⟩
    | case2 => cases double
  obtain ⟨before, after, rfl⟩ := found
  rw [List.splitOn_append_cons_self, List.splitOn_cons_eq_if_modifyHead]
  simp

/-- A key is short, trimmed, without the characters that keys refuse, and has proper segments; no
further check of its slashes is needed. -/
theorem isCanonical_iff {key : String} : isCanonical key = true ↔
    key.utf8ByteSize ≤ 1024 ∧ trim key = key ∧
      (∀ character ∈ key.toList, keyRefuses character = false) ∧
      ∀ segment ∈ key.toList.splitOn '/', segment ≠ [] ∧ segment ≠ ['.'] ∧ segment ≠ ['.', '.'] := by
  simp only [isCanonical, Bool.and_eq_true, bne_iff_ne, decide_eq_true_eq, beq_iff_eq,
    Bool.not_eq_true', List.all_eq_true, List.any_eq_false, Bool.not_eq_true, and_assoc]
  constructor
  · rintro ⟨-, short, trimmed, -, -, allowed, -, segments⟩
    exact ⟨short, trimmed.symm, allowed, segments⟩
  · rintro ⟨short, trimmed, allowed, segments⟩
    have noEmpty : [] ∉ key.toList.splitOn '/' := fun member => (segments [] member).1 rfl
    have filled : key ≠ "" := by
      rintro rfl
      exact noEmpty (by simp)
    -- A slash at either end has an empty segment beyond it.
    have front : key.toList.head? ≠ some '/' := by
      intro starts
      obtain ⟨rest, same⟩ := List.head?_eq_some_iff.mp starts
      rw [same, List.splitOn_cons_eq_if_modifyHead] at noEmpty
      simp at noEmpty
    have back : key.toList.getLast? ≠ some '/' := by
      intro ends
      obtain ⟨start, same⟩ := List.getLast?_eq_some_iff.mp ends
      rw [same, List.splitOn_append_cons_self] at noEmpty
      simp at noEmpty
    have single : hasDoubleSlash key.toList = false :=
      Bool.eq_false_iff.mpr fun double => noEmpty (hasDoubleSlash_empty double)
    exact ⟨filled, short, trimmed.symm, front, back, allowed, single, segments⟩

/-- A path of names is a key. -/
theorem isCanonical_of_names {key : String} (short : key.utf8ByteSize ≤ 1024)
    (plain : ∀ character ∈ key.toList, isNameCharacter character = true ∨ character = '/')
    (segments : ∀ segment ∈ key.toList.splitOn '/',
      segment ≠ [] ∧ segment ≠ ['.'] ∧ segment ≠ ['.', '.']) : isCanonical key = true := by
  -- No character of a name is trimmed or refused, and neither is a slash.
  have solid : ∀ character ∈ key.toList,
      isWhitespace character = false ∧ keyRefuses character = false := by
    intro character member
    rcases plain character member with named | rfl
    · exact (nameCharacter_plain named).2
    · decide
  exact isCanonical_iff.mpr ⟨short, trim_eq_self fun character member => (solid character member).1,
    fun character member => (solid character member).2, segments⟩

/-- What is in a joined list is in a part or in the separator. -/
theorem mem_intercalate {α : Type} {separator : List α} {parts : List (List α)} {element : α}
    (member : element ∈ separator.intercalate parts) :
    (∃ part ∈ parts, element ∈ part) ∨ element ∈ separator := by
  induction parts with
  | nil => cases member
  | cons part rest ih =>
    -- The last part has no separator after it.
    by_cases last : rest = []
    · rw [last, List.intercalate_singleton] at member
      exact Or.inl ⟨part, List.mem_cons_self, member⟩
    · rw [List.intercalate_cons_of_ne_nil last, List.mem_append, List.mem_append] at member
      rcases member with (first | between) | later
      · exact Or.inl ⟨part, List.mem_cons_self, first⟩
      · exact Or.inr between
      · rcases ih later with ⟨other, inside, member⟩ | between
        · exact Or.inl ⟨other, List.mem_cons_of_mem _ inside, member⟩
        · exact Or.inr between

/-- Names that are joined by slashes are a key. -/
theorem isCanonical_of_segments {segments : List (List Char)} (filled : segments ≠ [])
    (short : (['/'].intercalate segments).length ≤ 1024)
    (names : ∀ segment ∈ segments, ∀ character ∈ segment, isNameCharacter character = true)
    (proper : ∀ segment ∈ segments, segment ≠ [] ∧ segment ≠ ['.'] ∧ segment ≠ ['.', '.']) :
    isCanonical (String.ofList (['/'].intercalate segments)) = true := by
  have plain : ∀ character ∈ ['/'].intercalate segments,
      isNameCharacter character = true ∨ character = '/' := by
    intro character member
    rcases mem_intercalate member with ⟨segment, inside, member⟩ | slash
    · exact Or.inl (names segment inside character member)
    · exact Or.inr (List.mem_singleton.mp slash)
  -- Names have no slash, so the path is split into what was joined.
  have split : (['/'].intercalate segments).splitOn '/' = segments := by
    refine List.splitOn_intercalate '/' (fun segment member inside => ?_) filled
    exact absurd (names segment member '/' inside) (by decide)
  refine isCanonical_of_names ?_ ?_ ?_
  · rw [utf8ByteSize_ascii, String.toList_ofList]
    · exact short
    · rw [String.toList_ofList]
      intro character member
      rcases plain character member with named | rfl
      · exact (nameCharacter_plain named).1
      · decide
  · rwa [String.toList_ofList]
  · rwa [String.toList_ofList, split]

/-! ### Tokens -/

/-- The encoding of random bytes as a token: four URL-safe characters for three bytes. -/
structure TokenEncoding (encode : List UInt8 → String) : Prop where
  length : ∀ bytes, (encode bytes).toList.length = (4 * bytes.length + 2) / 3
  alphabet : ∀ bytes, ∀ character ∈ (encode bytes).toList,
    character.isAlphanum = true ∨ character = '-' ∨ character = '_'

/-- The character for six bits. -/
def tokenCharacter (value : ℕ) : Char :=
  if value < 26 then Char.ofNat (65 + value)
  else if value < 52 then Char.ofNat (71 + value)
  else if value < 62 then Char.ofNat (value - 4)
  else if value = 62 then '-' else '_'

/-- The characters for bytes, three of them at a time. -/
def tokenCharacters : List UInt8 → List Char
  | [] => []
  | [first] => [tokenCharacter (first.toNat / 4), tokenCharacter (first.toNat % 4 * 16)]
  | [first, second] => [tokenCharacter (first.toNat / 4),
      tokenCharacter (first.toNat % 4 * 16 + second.toNat / 16),
      tokenCharacter (second.toNat % 16 * 4)]
  | first :: second :: third :: rest => tokenCharacter (first.toNat / 4) ::
      tokenCharacter (first.toNat % 4 * 16 + second.toNat / 16) ::
      tokenCharacter (second.toNat % 16 * 4 + third.toNat / 64) ::
      tokenCharacter (third.toNat % 64) :: tokenCharacters rest

/-- The URL-safe encoding without padding. -/
def urlSafeNoPad (bytes : List UInt8) : String := String.ofList (tokenCharacters bytes)

/-- Six bits are a character of the alphabet. -/
theorem tokenCharacter_alphabet (value : ℕ) : (tokenCharacter value).isAlphanum = true ∨
    tokenCharacter value = '-' ∨ tokenCharacter value = '_' := by
  have checked : ∀ value : Fin 64, (tokenCharacter value).isAlphanum = true ∨
      tokenCharacter value = '-' ∨ tokenCharacter value = '_' := by decide +kernel
  -- Larger values all become the last character.
  by_cases small : value < 64
  · exact checked ⟨value, small⟩
  · have large : tokenCharacter value = '_' := by
      unfold tokenCharacter
      rw [if_neg (by omega), if_neg (by omega), if_neg (by omega), if_neg (by omega)]
    exact Or.inr (Or.inr large)

/-- It encodes tokens. -/
theorem urlSafeNoPad_token : TokenEncoding urlSafeNoPad where
  length bytes := by
    rw [urlSafeNoPad, String.toList_ofList]
    -- Three bytes become four characters, and one or two become one more than they are.
    fun_induction tokenCharacters bytes with
    | case1 => rfl
    | case2 first => simp
    | case3 first second => simp
    | case4 first second third rest ih =>
      simp only [List.length_cons, ih]
      omega
  alphabet bytes := by
    rw [urlSafeNoPad, String.toList_ofList]
    fun_induction tokenCharacters bytes with
    | case1 => exact fun _ member => absurd member List.not_mem_nil
    | case2 first => simp [tokenCharacter_alphabet]
    | case3 first second => simp [tokenCharacter_alphabet]
    | case4 first second third rest ih =>
      intro character member
      simp only [List.mem_cons] at member
      rcases member with rfl | rfl | rfl | rfl | later
      · exact tokenCharacter_alphabet _
      · exact tokenCharacter_alphabet _
      · exact tokenCharacter_alphabet _
      · exact tokenCharacter_alphabet _
      · exact ih character later

end FinStream.Media
