import Mathlib.Algebra.Ring.Nat
import Mathlib.Data.Int.Notation

/-! Flat JSON objects: the compact texts that stand for one, a writer of one such text, a reader. -/

namespace Json

/-! ### Characters -/

/-- The number of a hexadecimal digit, in either case. -/
def hexValue (digit : Char) : Option ℕ :=
  if 48 ≤ digit.toNat ∧ digit.toNat < 58 then some (digit.toNat - 48)
  else if 97 ≤ digit.toNat ∧ digit.toNat < 103 then some (digit.toNat - 87)
  else if 65 ≤ digit.toNat ∧ digit.toNat < 71 then some (digit.toNat - 55)
  else none

/-- The character whose code has these digits; a half of a surrogate pair is none. -/
def ofCode (first second third fourth : Char) : Option Char := do
  let first ← hexValue first
  let second ← hexValue second
  let third ← hexValue third
  let fourth ← hexValue fourth
  let code := ((first * 16 + second) * 16 + third) * 16 + fourth
  if code < 0xD800 ∨ 0xDFFF < code then some (Char.ofNat code) else none

/-- The character that a letter behind a backslash stands for. -/
def shortEscape : Char → Option Char
  | '"' => some '"'
  | '\\' => some '\\'
  | '/' => some '/'
  | 'b' => some '\x08'
  | 'f' => some '\x0c'
  | 'n' => some '\n'
  | 'r' => some '\r'
  | 't' => some '\t'
  | _ => none

/-- How a character may be written in quotes: as itself, by a letter, or by its code. -/
inductive Written : Char → List Char → Prop where
  | itself {character : Char} : 32 ≤ character.toNat → character ≠ '"' → character ≠ '\\' →
      Written character [character]
  | short {letter character : Char} : shortEscape letter = some character →
      Written character ['\\', letter]
  | code {first second third fourth character : Char} :
      ofCode first second third fourth = some character →
      Written character ['\\', 'u', first, second, third, fourth]

/-- The bytes that a text takes. -/
def byteLength (text : List Char) : ℕ := (text.map Char.utf8Size).sum

/-- Texts behind each other take the bytes of both. -/
@[simp] theorem byteLength_append (front back : List Char) :
    byteLength (front ++ back) = byteLength front + byteLength back := by
  simp [byteLength]

/-- A character in front of a text takes its own bytes. -/
@[simp] theorem byteLength_cons (first : Char) (rest : List Char) :
    byteLength (first :: rest) = first.utf8Size + byteLength rest := by
  simp [byteLength]

/-- Nothing takes no bytes. -/
@[simp] theorem byteLength_nil : byteLength [] = 0 := rfl

/-- A character with a code below 128 takes one byte. -/
theorem utf8Size_ascii {character : Char} (ascii : character.toNat < 128) :
    character.utf8Size = 1 := by
  rw [Char.utf8Size_eq_one_iff, UInt32.le_iff_toNat_le]
  exact Nat.le_of_lt_succ ascii

/-- A hexadecimal digit takes one byte. -/
theorem utf8Size_hexValue {digit : Char} {value : ℕ} (read : hexValue digit = some value) :
    digit.utf8Size = 1 := by
  -- Each of the three ranges ends below 128.
  refine utf8Size_ascii ?_
  unfold hexValue at read
  split at read
  · omega
  split at read
  · omega
  split at read
  · omega
  · cases read

/-- A letter of a short escape takes one byte. -/
theorem utf8Size_shortEscape {letter character : Char}
    (read : shortEscape letter = some character) : letter.utf8Size = 1 := by
  -- There are eight letters, and all of them are ASCII.
  unfold shortEscape at read
  split at read
  · rfl
  · rfl
  · rfl
  · rfl
  · rfl
  · rfl
  · rfl
  · rfl
  · cases read

/-- However a character is written, it takes at most six times its bytes. -/
theorem Written.size {character : Char} {text : List Char} (written : Written character text) :
    byteLength text ≤ 6 * character.utf8Size := by
  have positive := character.utf8Size_pos
  have backslash : '\\'.utf8Size = 1 := rfl
  have letter : 'u'.utf8Size = 1 := rfl
  cases written with
  -- A character that stands for itself keeps its size.
  | itself => simp only [byteLength_cons, byteLength_nil]; omega
  -- A backslash and a letter are two bytes.
  | short read =>
    simp only [byteLength_cons, byteLength_nil, utf8Size_shortEscape read]
    omega
  | code read =>
    -- A code is six ASCII characters.
    simp only [ofCode, Option.bind_eq_bind, Option.bind_eq_some_iff] at read
    obtain ⟨_, first, _, second, _, third, _, fourth, -⟩ := read
    simp only [byteLength_cons, byteLength_nil, utf8Size_hexValue first, utf8Size_hexValue second,
      utf8Size_hexValue third, utf8Size_hexValue fourth]
    omega

/-! ### Texts -/

/-- What stands between the quotes of a text: each of its characters, written in some way. -/
inductive Body : List Char → List Char → Prop where
  | nil : Body [] []
  | cons {character : Char} {front rest text : List Char} : Written character front →
      Body rest text → Body (character :: rest) (front ++ text)

/-- A text in quotes. -/
def Quoted (content : String) (text : List Char) : Prop :=
  ∃ body, Body content.toList body ∧ text = '"' :: (body ++ ['"'])

/-- Characters that may all stand for themselves are a body of themselves. -/
theorem Body.of_forall {content : List Char} {write : Char → List Char}
    (written : ∀ character ∈ content, Written character (write character)) :
    Body content (content.flatMap write) := by
  induction content with
  | nil => exact .nil
  | cons first rest ih =>
    -- The first character is written in front of the others.
    rw [List.flatMap_cons]
    exact .cons (written first List.mem_cons_self)
      (ih fun character member => written character (List.mem_cons_of_mem _ member))

/-- A body takes at most six times the bytes of its text. -/
theorem Body.size {content text : List Char} (body : Body content text) :
    byteLength text ≤ 6 * byteLength content := by
  induction body with
  | nil => exact Nat.le_refl 0
  -- The bounds of the characters add up.
  | cons written _ ih =>
    have first := written.size
    rw [byteLength_append, byteLength_cons]
    omega

/-- A text in quotes takes two bytes more. -/
theorem Quoted.size {content : String} {text : List Char} (quoted : Quoted content text) :
    byteLength text ≤ 6 * byteLength content.toList + 2 := by
  obtain ⟨body, written, rfl⟩ := quoted
  have inside := written.size
  have quote : '"'.utf8Size = 1 := rfl
  simp only [byteLength_cons, byteLength_append, byteLength_nil]
  omega

/-! ### Values and objects -/

/-- A number or a text. -/
inductive Value where
  | number (value : ℤ)
  | text (content : String)
  deriving DecidableEq

/-- A number in digits, with a minus sign in front when it is negative. -/
def decimal : ℤ → List Char
  | .ofNat value => Nat.toDigits 10 value
  | .negSucc value => '-' :: Nat.toDigits 10 (value + 1)

/-- How a value may be written. -/
inductive Value.Stands : Value → List Char → Prop where
  | number (value : ℤ) : Stands (.number value) (decimal value)
  | text {content : String} {text : List Char} : Quoted content text → Stands (.text content) text

/-- What stands between the braces of an object: its members in their order, without spaces. -/
inductive Members : List (String × Value) → List Char → Prop where
  | last {name : String} {value : Value} {front back : List Char} : Quoted name front →
      value.Stands back → Members [(name, value)] (front ++ ':' :: back)
  | cons {name : String} {value : Value} {members : List (String × Value)}
      {front back rest : List Char} : Quoted name front → value.Stands back →
      Members members rest →
      Members ((name, value) :: members) (front ++ ':' :: back ++ ',' :: rest)

/-- A compact text of an object. -/
def Object (members : List (String × Value)) (text : List Char) : Prop :=
  ∃ inside, Members members inside ∧ text = '{' :: (inside ++ ['}'])

/-- The most bytes that a value takes. -/
def Value.bound : Value → ℕ
  | .number value => (decimal value).length
  | .text content => 6 * byteLength content.toList + 2

/-- The most bytes that a member takes with what follows it. -/
def memberBound (member : String × Value) : ℕ :=
  6 * byteLength member.1.toList + 4 + member.2.bound

/-- The decimal digits of a number are digits. -/
theorem isDigit_toDigits {value : ℕ} {character : Char}
    (member : character ∈ Nat.toDigits 10 value) : character.isDigit = true :=
  Nat.isDigit_of_mem_toDigits (by decide) (by decide) member

/-- The characters of a number are digits and a minus sign. -/
theorem decimal_plain {value : ℤ} : ∀ character ∈ decimal value,
    character.isDigit = true ∨ character = '-' := by
  intro character member
  cases value with
  | ofNat value => exact Or.inl (isDigit_toDigits member)
  -- A negative number has its sign in front of the digits.
  | negSucc value =>
    rcases List.mem_cons.mp member with sign | digit
    · exact Or.inr sign
    · exact Or.inl (isDigit_toDigits digit)

/-- A number takes as many bytes as it has characters. -/
theorem byteLength_decimal (value : ℤ) : byteLength (decimal value) = (decimal value).length := by
  -- All of its characters are ASCII.
  have single : ∀ character ∈ decimal value, character.utf8Size = 1 := by
    intro character member
    refine utf8Size_ascii ?_
    rcases decimal_plain character member with digit | rfl
    · simp only [Char.isDigit, Bool.and_eq_true, decide_eq_true_eq, UInt32.le_iff_toNat_le] at digit
      exact Nat.lt_of_le_of_lt digit.2 (by decide)
    · decide
  rw [byteLength, List.map_congr_left single, List.map_const', List.sum_replicate_nat,
    Nat.mul_one]

/-- A number below a power of ten has at most a sign and that many digits. -/
theorem length_decimal {value : ℤ} {digits : ℕ} (some : 0 < digits)
    (small : value.natAbs < 10 ^ digits) : (decimal value).length ≤ digits + 1 := by
  cases value with
  | ofNat value =>
    have short := (Nat.length_toDigits_le_iff (by decide) some).mpr small
    exact Nat.le_succ_of_le short
  -- The sign is one character more.
  | negSucc value =>
    have short := (Nat.length_toDigits_le_iff (by decide) some).mpr small
    exact Nat.succ_le_succ short

/-- A value takes no more bytes than its bound. -/
theorem Value.Stands.size {value : Value} {text : List Char} (stands : value.Stands text) :
    byteLength text ≤ value.bound := by
  cases stands with
  | number value => exact Nat.le_of_eq (byteLength_decimal value)
  | text quoted => exact quoted.size

/-- Members take no more bytes than their bounds together. -/
theorem Members.size {members : List (String × Value)} {text : List Char}
    (written : Members members text) : byteLength text + 1 ≤ (members.map memberBound).sum := by
  have colon : ':'.utf8Size = 1 := rfl
  have comma : ','.utf8Size = 1 := rfl
  induction written with
  -- The bound counts the quotes, the colon and what follows the member.
  | last quoted stands =>
    have front := quoted.size
    have back := stands.size
    simp only [byteLength_append, byteLength_cons, List.map_cons, List.map_nil, List.sum_cons,
      List.sum_nil, memberBound]
    omega
  | cons quoted stands _ ih =>
    have front := quoted.size
    have back := stands.size
    simp only [byteLength_append, byteLength_cons, List.map_cons, List.sum_cons, memberBound]
    omega

/-- An object takes no more bytes than the bounds of its members and a brace. -/
theorem Object.size {members : List (String × Value)} {text : List Char}
    (written : Object members text) : byteLength text ≤ (members.map memberBound).sum + 1 := by
  obtain ⟨inside, inner, rfl⟩ := written
  have bounded := inner.size
  have opening : '{'.utf8Size = 1 := rfl
  have closing : '}'.utf8Size = 1 := rfl
  simp only [byteLength_cons, byteLength_append, byteLength_nil]
  omega

/-! ### A writer -/

/-- A character with the escape it needs, which is a letter where there is one for it. -/
def escape : Char → List Char
  | '"' => ['\\', '"']
  | '\\' => ['\\', '\\']
  | '\x08' => ['\\', 'b']
  | '\x0c' => ['\\', 'f']
  | '\n' => ['\\', 'n']
  | '\r' => ['\\', 'r']
  | '\t' => ['\\', 't']
  | character =>
    if character.toNat < 32 then ['\\', 'u', '0', '0', Nat.digitChar (character.toNat / 16),
      Nat.digitChar (character.toNat % 16)]
    else [character]

/-- Writes a text in quotes. -/
def writeText (content : String) : List Char := '"' :: (content.toList.flatMap escape ++ ['"'])

/-- Writes a value. -/
def writeValue : Value → List Char
  | .number value => decimal value
  | .text content => writeText content

/-- Writes members, with commas between them. -/
def writeMembers : List (String × Value) → List Char
  | [] => []
  | [(name, value)] => writeText name ++ ':' :: writeValue value
  | (name, value) :: members =>
    writeText name ++ ':' :: writeValue value ++ ',' :: writeMembers members

/-- Writes an object. -/
def writeObject (members : List (String × Value)) : List Char :=
  '{' :: (writeMembers members ++ ['}'])

/-- An escaped character stands for itself. -/
theorem escape_written (character : Char) : Written character (escape character) := by
  -- The codes below 32 are checked one by one.
  have checked : ∀ code : Fin 32, ofCode '0' '0' (Nat.digitChar (code / 16))
      (Nat.digitChar (code % 16)) = some (Char.ofNat code) := by decide +kernel
  unfold escape
  split
  · exact .short rfl
  · exact .short rfl
  · exact .short rfl
  · exact .short rfl
  · exact .short rfl
  · exact .short rfl
  · exact .short rfl
  · rename_i unquoted unescaped _ _ _ _ _
    split
    · rename_i control
      have read := checked ⟨character.toNat, control⟩
      rw [Char.ofNat_toNat] at read
      exact .code read
    · rename_i printable
      exact .itself (Nat.le_of_not_lt printable) unquoted unescaped

/-- A text that is written stands in quotes. -/
theorem writeText_quoted (content : String) : Quoted content (writeText content) :=
  ⟨_, .of_forall fun character _ => escape_written character, rfl⟩

/-- A value that is written stands for itself. -/
theorem writeValue_stands (value : Value) : value.Stands (writeValue value) := by
  cases value with
  | number value => exact .number value
  | text content => exact .text (writeText_quoted content)

/-- An object that is written has the members it was written from. -/
theorem writeObject_object {members : List (String × Value)} (filled : members ≠ []) :
    Object members (writeObject members) := by
  refine ⟨_, ?_, rfl⟩
  -- The last member has no comma behind it.
  fun_induction writeMembers members with
  | case1 => exact absurd rfl filled
  | case2 name value => exact .last (writeText_quoted name) (writeValue_stands value)
  | case3 name value members more ih =>
    exact .cons (writeText_quoted name) (writeValue_stands value) (ih more)

example : writeObject [("a", .text "\"é\x01"), ("b", .number (-5))] =
    "\x7b\"a\":\"\\\"é\\u0001\",\"b\":-5\x7d".toList := by decide

/-! ### A reader -/

/-- Reads one character of a text in quotes. -/
def readCharacter : List Char → Option (Char × List Char)
  | '\\' :: 'u' :: first :: second :: third :: fourth :: rest =>
    (ofCode first second third fourth).map fun character => (character, rest)
  | '\\' :: letter :: rest => (shortEscape letter).map fun character => (character, rest)
  | character :: rest =>
    if 32 ≤ character.toNat ∧ character ≠ '"' ∧ character ≠ '\\' then some (character, rest)
    else none
  | [] => none

/-- Reads characters up to the closing quote, a given number of them at most. -/
def readBody : ℕ → List Char → Option (List Char × List Char)
  | 0, _ => none
  | _ + 1, '"' :: rest => some ([], rest)
  | most + 1, text => do
    let first ← readCharacter text
    let others ← readBody most first.2
    some (first.1 :: others.1, others.2)

/-- Reads a text in quotes. -/
def readText : List Char → Option (String × List Char)
  | '"' :: text => (readBody text.length text).map fun read => (String.ofList read.1, read.2)
  | _ => none

/-- Reads digits, if there are some. -/
def readNatural (text : List Char) : Option (ℕ × List Char) :=
  let digits := text.takeWhile Char.isDigit
  if digits = [] then none
  else some (Nat.ofDigitChars 10 digits 0, text.dropWhile Char.isDigit)

/-- Reads a number. -/
def readNumber : List Char → Option (ℤ × List Char)
  | '-' :: text => (readNatural text).map fun read => (-read.1, read.2)
  | text => (readNatural text).map fun read => (read.1, read.2)

/-- Reads a value. -/
def readValue : List Char → Option (Value × List Char)
  | '"' :: text => (readText ('"' :: text)).map fun read => (.text read.1, read.2)
  | text => (readNumber text).map fun read => (.number read.1, read.2)

/-- Reads a member of an object. -/
def readMember (text : List Char) : Option ((String × Value) × List Char) := do
  let name ← readText text
  match name.2 with
  | ':' :: text => (readValue text).map fun value => ((name.1, value.1), value.2)
  | _ => none

/-- Reads members up to the closing brace, a given number of them at most. -/
def readMembers : ℕ → List Char → Option (List (String × Value))
  | 0, _ => none
  | most + 1, text => do
    let member ← readMember text
    match member.2 with
    | ['}'] => some [member.1]
    | ',' :: text => (readMembers most text).map (member.1 :: ·)
    | _ => none

/-- Reads a compact object. -/
def readObject : List Char → Option (List (String × Value))
  | '{' :: text => readMembers text.length text
  | _ => none

/-- A character is read from however it is written. -/
theorem readCharacter_append {character : Char} {front : List Char}
    (written : Written character front) (rest : List Char) :
    readCharacter (front ++ rest) = some (character, rest) := by
  cases written with
  -- Neither escape applies, as the character is no backslash.
  | itself printable unquoted unescaped =>
    rw [List.singleton_append, readCharacter, if_pos ⟨printable, unquoted, unescaped⟩]
    · rintro _ _ _ _ _ rfl
      exact absurd rfl unescaped
    · rintro _ _ rfl
      exact absurd rfl unescaped
  | short read =>
    -- No short escape has the letter of a code.
    simp only [List.cons_append, List.nil_append]
    rw [readCharacter, read, Option.map_some]
    rintro _ _ _ _ _ rfl
    cases read
  | code read =>
    simp only [List.cons_append, List.nil_append]
    rw [readCharacter, read, Option.map_some]

/-- A written character does not start with a quote. -/
theorem Written.head {character : Char} {front : List Char} (written : Written character front) :
    ∃ first others, front = first :: others ∧ first ≠ '"' := by
  cases written with
  | itself _ unquoted _ => exact ⟨_, _, rfl, unquoted⟩
  | short _ => exact ⟨_, _, rfl, by decide⟩
  | code _ => exact ⟨_, _, rfl, by decide⟩

/-- A body has no fewer characters than its text. -/
theorem Body.length {content text : List Char} (body : Body content text) :
    content.length ≤ text.length := by
  induction body with
  | nil => exact Nat.le_refl 0
  | cons written _ ih =>
    obtain ⟨first, others, rfl, -⟩ := written.head
    simp only [List.length_cons, List.length_append]
    omega

/-- A body is read up to the quote behind it. -/
theorem readBody_append {content text : List Char} (body : Body content text) (rest : List Char)
    {most : ℕ} (enough : content.length < most) :
    readBody most (text ++ '"' :: rest) = some (content, rest) := by
  -- Every character that is read uses up one of the steps.
  induction body generalizing most with
  | nil =>
    obtain ⟨most, rfl⟩ := Nat.exists_eq_add_one_of_ne_zero (Nat.ne_of_gt enough)
    rfl
  | @cons character front content text written _ ih =>
    obtain ⟨most, rfl⟩ := Nat.exists_eq_add_one_of_ne_zero (Nat.ne_zero_of_lt enough)
    obtain ⟨first, others, shape, unquoted⟩ := written.head
    rw [List.append_assoc, readBody]
    · rw [readCharacter_append written, Option.bind_eq_bind, Option.bind_some,
        ih (Nat.lt_of_succ_lt_succ enough)]
      rfl
    · -- The body does not end here, as no written character starts with a quote.
      rintro _ same
      rw [shape, List.cons_append] at same
      exact unquoted (List.cons.inj same).1

/-- A text in quotes is read from however it is written. -/
theorem readText_append {content : String} {text : List Char} (quoted : Quoted content text)
    (rest : List Char) : readText (text ++ rest) = some (content, rest) := by
  obtain ⟨body, written, rfl⟩ := quoted
  have short := written.length
  have whole : '"' :: (body ++ ['"']) ++ rest = '"' :: (body ++ '"' :: rest) := by simp
  -- The text behind the quote is longer than what is read from it.
  have enough : content.toList.length < (body ++ '"' :: rest).length := by
    rw [List.length_append, List.length_cons]
    omega
  rw [whole, readText, readBody_append written rest enough, Option.map_some, String.ofList_toList]

/-- Digits are read up to a character that is none. -/
theorem readNatural_append (value : ℕ) {separator : Char} (ends : separator.isDigit = false)
    (rest : List Char) : readNatural (Nat.toDigits 10 value ++ separator :: rest) =
      some (value, separator :: rest) := by
  have digits : ∀ character ∈ Nat.toDigits 10 value, character.isDigit = true :=
    fun _ member => isDigit_toDigits member
  -- The digits end where the separator stands.
  have stops : Char.isDigit separator ≠ true := by simp [ends]
  rw [readNatural, List.takeWhile_append_of_pos digits, List.dropWhile_append_of_pos digits,
    List.takeWhile_cons_of_neg stops, List.dropWhile_cons_of_neg stops, List.append_nil,
    if_neg Nat.toDigits_ne_nil, Nat.ofDigitChars_ten_toDigits]

/-- A number is read up to a character that is no digit. -/
theorem readNumber_append (value : ℤ) {separator : Char} (ends : separator.isDigit = false)
    (rest : List Char) :
    readNumber (decimal value ++ separator :: rest) = some (value, separator :: rest) := by
  cases value with
  | ofNat value =>
    rw [decimal, readNumber, readNatural_append value ends]
    · rfl
    · -- The first digit is no sign.
      intro text same
      have filled : Nat.toDigits 10 value ≠ [] := Nat.toDigits_ne_nil
      obtain ⟨first, others, shape⟩ := List.exists_cons_of_ne_nil filled
      have digit : first.isDigit = true := isDigit_toDigits (shape ▸ List.mem_cons_self)
      rw [shape, List.cons_append] at same
      rw [(List.cons.inj same).1] at digit
      cases digit
  -- The sign is read first.
  | negSucc value =>
    rw [decimal, List.cons_append, readNumber, readNatural_append _ ends]
    rfl

/-- A value is read up to a character that is no digit. -/
theorem readValue_append {value : Value} {text : List Char} (stands : value.Stands text)
    {separator : Char} (ends : separator.isDigit = false) (rest : List Char) :
    readValue (text ++ separator :: rest) = some (value, separator :: rest) := by
  cases stands with
  | number value =>
    rw [readValue, readNumber_append value ends]
    · rfl
    · -- A number does not start with a quote.
      intro others same
      have filled : decimal value ≠ [] := by
        cases value with
        | ofNat value => exact Nat.toDigits_ne_nil
        | negSucc value => exact List.cons_ne_nil _ _
      obtain ⟨first, digits, shape⟩ := List.exists_cons_of_ne_nil filled
      rw [shape, List.cons_append] at same
      obtain ⟨rfl, -⟩ := List.cons.inj same
      have quote := decimal_plain '"' (shape ▸ List.mem_cons_self)
      revert quote
      decide
  -- A text starts with a quote, so the reader of texts is chosen.
  | text quoted =>
    have read := readText_append quoted (separator :: rest)
    obtain ⟨body, -, rfl⟩ := quoted
    rw [List.cons_append, readValue, ← List.cons_append, read, Option.map_some]

/-- A member is read from however it is written. -/
theorem readMember_append {name : String} {value : Value} {front back : List Char}
    (quoted : Quoted name front) (stands : value.Stands back) {separator : Char}
    (ends : separator.isDigit = false) (rest : List Char) :
    readMember (front ++ ':' :: back ++ separator :: rest) =
      some ((name, value), separator :: rest) := by
  simp only [List.append_assoc, List.cons_append, readMember, readText_append quoted,
    Option.bind_eq_bind, Option.bind_some, readValue_append stands ends, Option.map_some]

/-- Members are read up to the closing brace. -/
theorem readMembers_append {members : List (String × Value)} {text : List Char}
    (written : Members members text) {most : ℕ} (enough : members.length ≤ most) :
    readMembers most (text ++ ['}']) = some members := by
  -- One step reads a member and what stands behind it: a brace or a comma.
  induction written generalizing most with
  | @last name value front back quoted stands =>
    obtain ⟨most, rfl⟩ := Nat.exists_eq_add_one_of_ne_zero (Nat.ne_zero_of_lt enough)
    have read : readMember (front ++ ':' :: back ++ ['}']) = some ((name, value), ['}']) :=
      readMember_append quoted stands rfl []
    simp only [readMembers, read, Option.bind_eq_bind, Option.bind_some]
  | cons quoted stands _ ih =>
    obtain ⟨most, rfl⟩ := Nat.exists_eq_add_one_of_ne_zero (Nat.ne_zero_of_lt enough)
    have others := ih (Nat.le_of_succ_le_succ enough)
    simp only [readMembers, List.append_assoc, List.cons_append, Option.bind_eq_bind]
    rw [← List.cons_append, ← List.append_assoc, readMember_append quoted stands rfl]
    simp only [Option.bind_some, others, Option.map_some]

/-- Members are no more than the characters of their text. -/
theorem Members.length {members : List (String × Value)} {text : List Char}
    (written : Members members text) : members.length ≤ text.length := by
  induction written with
  | last =>
    simp only [List.length_cons, List.length_append, List.length_nil]
    omega
  | cons _ _ _ ih =>
    simp only [List.length_cons, List.length_append]
    omega

/-- An object is read from each of its compact texts. -/
theorem readObject_object {members : List (String × Value)} {text : List Char}
    (written : Object members text) : readObject text = some members := by
  obtain ⟨inside, inner, rfl⟩ := written
  refine readMembers_append inner (Nat.le_trans inner.length ?_)
  rw [List.length_append]
  exact Nat.le_add_right _ _

end Json
