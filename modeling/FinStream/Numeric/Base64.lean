import Mathlib.Data.Nat.Notation
import Mathlib.Tactic.Tauto

/-! Base 64: three bytes as four characters of an alphabet, with padding or without. -/

namespace Base64

/-- Sixty-four characters and the numbers they stand for. -/
structure Alphabet where
  /-- The character of a number. -/
  character : ℕ → Char
  /-- The number of a character. -/
  value : Char → Option ℕ
  /-- Numbers below sixty-four and their characters belong together. -/
  value_eq_some : ∀ symbol n, value symbol = some n ↔ n < 64 ∧ character n = symbol
  /-- Padding is not in the alphabet. -/
  value_padding : value '=' = none

namespace Alphabet

variable (alphabet : Alphabet) (padded : Bool)

/-- The padding behind an incomplete group, when there is any. -/
def padding (missing : ℕ) : List Char := if padded then List.replicate missing '=' else []

/-- The characters of one byte. -/
def encodeOne (first : UInt8) : List Char :=
  [alphabet.character (first.toNat / 4), alphabet.character (first.toNat % 4 * 16)]

/-- The characters of two bytes. -/
def encodeTwo (first second : UInt8) : List Char :=
  [alphabet.character (first.toNat / 4),
    alphabet.character (first.toNat % 4 * 16 + second.toNat / 16),
    alphabet.character (second.toNat % 16 * 4)]

/-- The characters of three bytes. -/
def encodeThree (first second third : UInt8) : List Char :=
  [alphabet.character (first.toNat / 4),
    alphabet.character (first.toNat % 4 * 16 + second.toNat / 16),
    alphabet.character (second.toNat % 16 * 4 + third.toNat / 64),
    alphabet.character (third.toNat % 64)]

/-- The characters of bytes, three bytes at a time. -/
def encode : List UInt8 → List Char
  | [] => []
  | [first] => alphabet.encodeOne first ++ padding padded 2
  | [first, second] => alphabet.encodeTwo first second ++ padding padded 1
  | first :: second :: third :: rest => alphabet.encodeThree first second third ++ encode rest

/-- The byte of two characters, unless bits are left over. -/
def decodeOne (a b : Char) : Option (List UInt8) := do
  let first ← alphabet.value a
  let second ← alphabet.value b
  if second % 16 = 0 then some [UInt8.ofNat (first * 4 + second / 16)] else none

/-- The bytes of three characters, unless bits are left over. -/
def decodeTwo (a b c : Char) : Option (List UInt8) := do
  let first ← alphabet.value a
  let second ← alphabet.value b
  let third ← alphabet.value c
  if third % 4 = 0 then
    some [UInt8.ofNat (first * 4 + second / 16), UInt8.ofNat (second % 16 * 16 + third / 4)]
  else none

/-- The bytes of four characters. -/
def decodeThree (a b c d : Char) : Option (List UInt8) := do
  let first ← alphabet.value a
  let second ← alphabet.value b
  let third ← alphabet.value c
  let fourth ← alphabet.value d
  some [UInt8.ofNat (first * 4 + second / 16), UInt8.ofNat (second % 16 * 16 + third / 4),
    UInt8.ofNat (third % 4 * 64 + fourth)]

/-- The bytes of characters, four characters at a time; nothing but an encoding has any. -/
def decode : List Char → Option (List UInt8)
  | [] => some []
  | [a, b] => if padded then none else alphabet.decodeOne a b
  | [a, b, c] => if padded then none else alphabet.decodeTwo a b c
  | [a, b, c, d] =>
    if padded && d == '=' then
      if c == '=' then alphabet.decodeOne a b else alphabet.decodeTwo a b c
    else alphabet.decodeThree a b c d
  | a :: b :: c :: d :: rest => do
    let group ← alphabet.decodeThree a b c d
    let others ← decode rest
    some (group ++ others)
  | [_] => none

/-- Two characters are a byte exactly when they encode it. -/
theorem decodeOne_eq_some {a b : Char} {bytes : List UInt8} :
    alphabet.decodeOne a b = some bytes ↔
      ∃ first, bytes = [first] ∧ alphabet.encodeOne first = [a, b] := by
  simp only [decodeOne, encodeOne, Option.bind_eq_bind, Option.bind_eq_some_iff,
    Option.ite_none_right_eq_some, Option.some.injEq, alphabet.value_eq_some, List.cons.injEq,
    and_true]
  constructor
  · rintro ⟨m, ⟨first, rfl⟩, n, ⟨second, rfl⟩, aligned, rfl⟩
    have whole : (UInt8.ofNat (m * 4 + n / 16)).toNat = m * 4 + n / 16 :=
      UInt8.toNat_ofNat_of_lt (by simp only [UInt8.size]; omega)
    refine ⟨_, rfl, ?_, ?_⟩
    · exact congrArg alphabet.character (by omega)
    · exact congrArg alphabet.character (by omega)
  · rintro ⟨first, rfl, front, back⟩
    have below := first.toNat_lt
    refine ⟨_, ⟨by omega, front⟩, _, ⟨by omega, back⟩, by omega, ?_⟩
    have whole : first.toNat / 4 * 4 + first.toNat % 4 * 16 / 16 = first.toNat := by omega
    rw [whole, UInt8.ofNat_toNat]

/-- Three characters are two bytes exactly when they encode them. -/
theorem decodeTwo_eq_some {a b c : Char} {bytes : List UInt8} :
    alphabet.decodeTwo a b c = some bytes ↔
      ∃ first second, bytes = [first, second] ∧ alphabet.encodeTwo first second = [a, b, c] := by
  simp only [decodeTwo, encodeTwo, Option.bind_eq_bind, Option.bind_eq_some_iff,
    Option.ite_none_right_eq_some, Option.some.injEq, alphabet.value_eq_some, List.cons.injEq,
    and_true]
  constructor
  · rintro ⟨m, ⟨first, rfl⟩, n, ⟨second, rfl⟩, k, ⟨third, rfl⟩, aligned, rfl⟩
    -- The two bytes are cut from eighteen bits of which the last two are zero.
    have front : (UInt8.ofNat (m * 4 + n / 16)).toNat = m * 4 + n / 16 :=
      UInt8.toNat_ofNat_of_lt (by simp only [UInt8.size]; omega)
    have back : (UInt8.ofNat (n % 16 * 16 + k / 4)).toNat = n % 16 * 16 + k / 4 :=
      UInt8.toNat_ofNat_of_lt (by simp only [UInt8.size]; omega)
    refine ⟨_, _, rfl, ?_, ?_, ?_⟩
    · exact congrArg alphabet.character (by omega)
    · exact congrArg alphabet.character (by omega)
    · exact congrArg alphabet.character (by omega)
  · rintro ⟨first, second, rfl, front, middle, back⟩
    -- Putting the sextets of two bytes together gives the bytes back.
    have below := first.toNat_lt
    have under := second.toNat_lt
    refine ⟨_, ⟨by omega, front⟩, _, ⟨by omega, middle⟩, _, ⟨by omega, back⟩, by omega, ?_⟩
    have one : first.toNat / 4 * 4 + (first.toNat % 4 * 16 + second.toNat / 16) / 16 =
      first.toNat := by omega
    have two : (first.toNat % 4 * 16 + second.toNat / 16) % 16 * 16 +
      second.toNat % 16 * 4 / 4 = second.toNat := by omega
    rw [one, two, UInt8.ofNat_toNat, UInt8.ofNat_toNat]

/-- Four characters are three bytes exactly when they encode them. -/
theorem decodeThree_eq_some {a b c d : Char} {bytes : List UInt8} :
    alphabet.decodeThree a b c d = some bytes ↔ ∃ first second third,
      bytes = [first, second, third] ∧
        alphabet.encodeThree first second third = [a, b, c, d] := by
  simp only [decodeThree, encodeThree, Option.bind_eq_bind, Option.bind_eq_some_iff,
    Option.some.injEq, alphabet.value_eq_some, List.cons.injEq, and_true]
  constructor
  · rintro ⟨m, ⟨first, rfl⟩, n, ⟨second, rfl⟩, k, ⟨third, rfl⟩, l, ⟨fourth, rfl⟩, rfl⟩
    -- The three bytes are cut from twenty-four bits.
    have front : (UInt8.ofNat (m * 4 + n / 16)).toNat = m * 4 + n / 16 :=
      UInt8.toNat_ofNat_of_lt (by simp only [UInt8.size]; omega)
    have middle : (UInt8.ofNat (n % 16 * 16 + k / 4)).toNat = n % 16 * 16 + k / 4 :=
      UInt8.toNat_ofNat_of_lt (by simp only [UInt8.size]; omega)
    have back : (UInt8.ofNat (k % 4 * 64 + l)).toNat = k % 4 * 64 + l :=
      UInt8.toNat_ofNat_of_lt (by simp only [UInt8.size]; omega)
    refine ⟨_, _, _, rfl, ?_, ?_, ?_, ?_⟩
    · exact congrArg alphabet.character (by omega)
    · exact congrArg alphabet.character (by omega)
    · exact congrArg alphabet.character (by omega)
    · exact congrArg alphabet.character (by omega)
  · rintro ⟨first, second, third, rfl, one, two, three, four⟩
    -- Putting the sextets of three bytes together gives the bytes back.
    have below := first.toNat_lt
    have under := second.toNat_lt
    have beneath := third.toNat_lt
    refine ⟨_, ⟨by omega, one⟩, _, ⟨by omega, two⟩, _, ⟨by omega, three⟩, _,
      ⟨by omega, four⟩, ?_⟩
    have front : first.toNat / 4 * 4 + (first.toNat % 4 * 16 + second.toNat / 16) / 16 =
      first.toNat := by omega
    have middle : (first.toNat % 4 * 16 + second.toNat / 16) % 16 * 16 +
      (second.toNat % 16 * 4 + third.toNat / 64) / 4 = second.toNat := by omega
    have back : (second.toNat % 16 * 4 + third.toNat / 64) % 4 * 64 + third.toNat % 64 =
      third.toNat := by omega
    rw [front, middle, back, UInt8.ofNat_toNat, UInt8.ofNat_toNat, UInt8.ofNat_toNat]

/-- No number stands for padding. -/
theorem character_ne_padding {n : ℕ} (small : n < 64) : alphabet.character n ≠ '=' := by
  intro same
  have found := (alphabet.value_eq_some '=' n).mpr ⟨small, same⟩
  rw [alphabet.value_padding] at found
  cases found

/-- A whole group is decoded before the groups behind it. -/
theorem decode_group {a b c d : Char} (whole : d ≠ '=') (rest : List Char) :
    alphabet.decode padded (a :: b :: c :: d :: rest) =
      (alphabet.decodeThree a b c d).bind fun group =>
        (alphabet.decode padded rest).map (group ++ ·) := by
  cases rest with
  | nil =>
    cases decoded : alphabet.decodeThree a b c d with
    | none => simp [decode, whole, decoded]
    | some group => simp [decode, whole, decoded]
  | cons first others =>
    rw [decode]
    · cases alphabet.decodeThree a b c d with
      | none => rfl
      | some group => cases alphabet.decode padded (first :: others) <;> rfl
    · exact List.cons_ne_nil first others

/-- An encoding is decoded to what it encodes. -/
theorem decode_encode (bytes : List UInt8) :
    alphabet.decode padded (alphabet.encode padded bytes) = some bytes := by
  fun_induction alphabet.encode padded bytes with
  | case1 => rfl
  | case2 first =>
    have read := alphabet.decodeOne_eq_some.mpr ⟨first, rfl, rfl⟩
    cases padded <;> simpa [encodeOne, padding, decode] using read
  | case3 first second =>
    have read := alphabet.decodeTwo_eq_some.mpr ⟨first, second, rfl, rfl⟩
    have inside := alphabet.character_ne_padding (n := second.toNat % 16 * 4) (by omega)
    cases padded <;> simpa [encodeTwo, padding, decode, inside] using read
  | case4 first second third rest ih =>
    have read := alphabet.decodeThree_eq_some.mpr ⟨first, second, third, rfl, rfl⟩
    have inside := alphabet.character_ne_padding (n := third.toNat % 64) (by omega)
    simp only [encodeThree, List.cons_append, List.nil_append]
    rw [alphabet.decode_group padded inside, read, ih]
    rfl

/-- Characters are decoded exactly when they encode what they are decoded to. -/
theorem decode_eq_some {text : List Char} {bytes : List UInt8} :
    alphabet.decode padded text = some bytes ↔ alphabet.encode padded bytes = text := by
  refine ⟨fun read => ?_, fun written => written ▸ alphabet.decode_encode padded bytes⟩
  fun_induction alphabet.decode padded text generalizing bytes with
  | case1 =>
    obtain rfl := Option.some.inj read
    rfl
  | case2 a b isPadded => cases read
  | case3 a b unpadded =>
    -- An unpadded end of two characters is one byte.
    obtain ⟨first, rfl, same⟩ := alphabet.decodeOne_eq_some.mp read
    rw [encode, same, padding, if_neg unpadded, List.append_nil]
  | case4 a b c isPadded => cases read
  | case5 a b c unpadded =>
    obtain ⟨first, second, rfl, same⟩ := alphabet.decodeTwo_eq_some.mp read
    rw [encode, same, padding, if_neg unpadded, List.append_nil]
  | case6 a b c d ending last =>
    -- The last group ends in two pads.
    obtain ⟨first, rfl, same⟩ := alphabet.decodeOne_eq_some.mp read
    rw [Bool.and_eq_true, beq_iff_eq] at ending
    obtain ⟨rfl, rfl⟩ := ending
    rw [encode, same, beq_iff_eq.mp last]
    rfl
  | case7 a b c d ending last =>
    -- The last group ends in one pad.
    obtain ⟨first, second, rfl, same⟩ := alphabet.decodeTwo_eq_some.mp read
    rw [Bool.and_eq_true, beq_iff_eq] at ending
    obtain ⟨rfl, rfl⟩ := ending
    rw [encode, same]
    rfl
  | case8 a b c d ending =>
    obtain ⟨first, second, third, rfl, same⟩ := alphabet.decodeThree_eq_some.mp read
    rw [encode, same, encode, List.append_nil]
  | case9 a b c d rest longer ih =>
    simp only [Option.bind_eq_bind, Option.bind_eq_some_iff, Option.some.injEq] at read
    -- Only a whole group has others behind it.
    obtain ⟨group, groupRead, others, othersRead, rfl⟩ := read
    obtain ⟨first, second, third, rfl, same⟩ := alphabet.decodeThree_eq_some.mp groupRead
    simp only [List.cons_append, List.nil_append]
    rw [encode, same, ih othersRead]
    rfl
  | case10 a => cases read

/-- An encoding has four characters for three bytes, and padding fills the last group. -/
theorem length_encode (bytes : List UInt8) : (alphabet.encode padded bytes).length =
    if padded then 4 * ((bytes.length + 2) / 3) else (4 * bytes.length + 2) / 3 := by
  fun_induction alphabet.encode padded bytes with
  | case1 => cases padded <;> rfl
  | case2 first => cases padded <;> simp [encodeOne, padding]
  | case3 first second => cases padded <;> simp [encodeTwo, padding]
  | case4 first second third rest ih =>
    rw [List.length_append, ih]
    cases padded <;> simp only [encodeThree, List.length_cons, List.length_nil] <;> grind

end Alphabet

/-- Letters and digits stand for the numbers below sixty-two, and two more characters for the rest. -/
def symbolOf (sixtyTwo sixtyThree : Char) (n : ℕ) : Char :=
  if n < 26 then Char.ofNat (65 + n)
  else if n < 52 then Char.ofNat (71 + n)
  else if n < 62 then Char.ofNat (n - 4)
  else if n = 62 then sixtyTwo else sixtyThree

/-- The number of a letter, a digit or one of the two more characters. -/
def valueOf (sixtyTwo sixtyThree symbol : Char) : Option ℕ :=
  if 65 ≤ symbol.toNat ∧ symbol.toNat < 91 then some (symbol.toNat - 65)
  else if 97 ≤ symbol.toNat ∧ symbol.toNat < 123 then some (symbol.toNat - 71)
  else if 48 ≤ symbol.toNat ∧ symbol.toNat < 58 then some (symbol.toNat + 4)
  else if symbol = sixtyTwo then some 62
  else if symbol = sixtyThree then some 63
  else none

/-- The alphabet that two more characters complete. -/
def Alphabet.completed (sixtyTwo sixtyThree : Char)
    (read : ∀ n : Fin 64, valueOf sixtyTwo sixtyThree (symbolOf sixtyTwo sixtyThree n) = some n.val)
    (unused : valueOf sixtyTwo sixtyThree '=' = none) : Alphabet where
  character := symbolOf sixtyTwo sixtyThree
  value := valueOf sixtyTwo sixtyThree
  value_eq_some symbol n := by
    refine ⟨fun found => ?_, fun ⟨small, same⟩ => same ▸ read ⟨n, small⟩⟩
    have itself (m : ℕ) (same : m = symbol.toNat) : Char.ofNat m = symbol := by
      rw [same, Char.ofNat_toNat]
    -- Each range of characters is one branch of the numbers.
    unfold valueOf at found
    unfold symbolOf
    split at found
    · obtain rfl := Option.some.inj found
      rw [if_pos (by omega)]
      exact ⟨by omega, itself _ (by omega)⟩
    split at found
    · obtain rfl := Option.some.inj found
      rw [if_neg (by omega), if_pos (by omega)]
      exact ⟨by omega, itself _ (by omega)⟩
    split at found
    · obtain rfl := Option.some.inj found
      rw [if_neg (by omega), if_neg (by omega), if_pos (by omega)]
      exact ⟨by omega, itself _ (by omega)⟩
    split at found
    · obtain rfl := Option.some.inj found
      rename_i last
      exact ⟨by decide, last.symm⟩
    split at found
    · obtain rfl := Option.some.inj found
      rename_i last
      exact ⟨by decide, last.symm⟩
    · cases found
  value_padding := unused

/-- The standard alphabet. -/
def standard : Alphabet := .completed '+' '/' (by decide) (by decide)

/-- The alphabet whose characters need no escapes in addresses. -/
def urlSafe : Alphabet := .completed '-' '_' (by decide) (by decide)

end Base64
