import FinStream.Finance.DateText
import FinStream.Integrations.Capture

/-! How the date library reads the text of a date, and what such a text consists of. -/

namespace FinStream

open Calendar Store

/-- A decimal digit is no whitespace and no sign. -/
theorem isDigit_plain {character : Char} (digit : character.isDigit = true) :
    isWhitespace character = false ∧ character ≠ '-' ∧ character ≠ '+' := by
  -- The digits are the characters from 48 to 57.
  have range : 48 ≤ character.toNat ∧ character.toNat ≤ 57 := by
    simpa [Char.isDigit, UInt32.le_iff_toNat_le] using digit
  refine ⟨?_, ?_, ?_⟩
  · simp only [isWhitespace, Bool.or_eq_false_iff, Bool.and_eq_false_iff, decide_eq_false_iff_not,
      beq_eq_false_iff_ne]
    omega
  · rintro rfl
    simp at range
  · rintro rfl
    simp at range

/-- A fixed number of digits is scanned as the number that they spell. -/
theorem scanNumber_digits (width n : ℕ) (positive : 0 < width) (fits : n < 10 ^ width)
    (rest : List Char) : scanNumber width (Decimal.digits width n ++ rest) = some ((n : ℤ), rest) := by
  have taken : (Decimal.digits width n ++ rest).take width = Decimal.digits width n :=
    List.take_left' (Decimal.length_digits width n)
  have kept : (Decimal.digits width n).takeWhile Char.isDigit = Decimal.digits width n :=
    List.takeWhile_eq_self_iff.mpr fun _ member => Decimal.isDigit_of_mem_digits member
  have nonempty : (Decimal.digits width n).isEmpty = false := by
    rw [List.isEmpty_eq_false_iff_exists_mem, ← List.length_pos_iff_exists_mem,
      Decimal.length_digits]
    exact positive
  simp [scanNumber, taken, kept, nonempty, List.drop_left', IsoDate.digitsValue_digits fits]

/-- Digits have a first one. -/
theorem digits_eq_cons (width n : ℕ) (positive : 0 < width) : ∃ first rest,
    Decimal.digits width n = first :: rest ∧ first.isDigit = true := by
  cases digits : Decimal.digits width n with
  | nil =>
    have length := Decimal.length_digits width n
    rw [digits, List.length_nil] at length
    omega
  | cons first rest =>
    exact ⟨first, rest, rfl, Decimal.isDigit_of_mem_digits (digits ▸ List.mem_cons_self)⟩

/-- A year that starts with a digit has no sign. -/
theorem scanYear_digits (n : ℕ) (fits : n < 10 ^ 4) (rest : List Char) :
    scanYear (Decimal.digits 4 n ++ rest) = some ((n : ℤ), rest) := by
  rw [← scanNumber_digits 4 n (by decide) fits rest]
  obtain ⟨first, others, digits, digit⟩ := digits_eq_cons 4 n (by decide)
  obtain ⟨-, noMinus, noPlus⟩ := isDigit_plain digit
  rw [digits, List.cons_append]
  unfold scanYear
  split
  · rename_i same
    exact absurd (List.cons.inj same).1 noMinus
  · rename_i same
    exact absurd (List.cons.inj same).1 noPlus
  · rfl

/-- No whitespace is skipped before digits. -/
theorem dropWhile_digits (width n : ℕ) (positive : 0 < width) (rest : List Char) :
    (Decimal.digits width n ++ rest).dropWhile isWhitespace = Decimal.digits width n ++ rest := by
  obtain ⟨first, others, digits, digit⟩ := digits_eq_cons width n positive
  rw [digits, List.cons_append]
  exact List.dropWhile_cons_of_neg (by simp [(isDigit_plain digit).1])

/-- The fixed-width form of a date is read as its year, its month and its day. -/
theorem parseNaiveDate_toText {date : IsoDate} (era : 0 ≤ date.year) :
    parseNaiveDate date.toText = some (date.year, date.month, date.day) := by
  have years := date.year_le
  have months := date.month_bounds
  have days := date.day_bounds
  have longest := monthLength_bounds date.monthIndex
  have year := scanYear_digits date.year.toNat (by omega)
    ('-' :: (Decimal.digits 2 date.month.toNat ++ '-' :: Decimal.digits 2 date.day.toNat))
  have month := scanNumber_digits 2 date.month.toNat (by decide) (by omega)
    ('-' :: Decimal.digits 2 date.day.toNat)
  have day := scanNumber_digits 2 date.day.toNat (by decide) (by omega) []
  rw [Int.toNat_of_nonneg era] at year
  rw [Int.toNat_of_nonneg (by omega)] at month
  rw [Int.toNat_of_nonneg (by omega), List.append_nil] at day
  have skipped := dropWhile_digits 2 date.day.toNat (by decide) []
  rw [List.append_nil] at skipped
  -- Each part is scanned up to the dash behind it, and the parts are those of a date.
  simp only [parseNaiveDate, IsoDate.toList_toText era, List.append_assoc, List.cons_append,
    dropWhile_digits _ _ Nat.zero_lt_two, dropWhile_digits _ _ (Nat.zero_lt_succ 3), year,
    Option.bind_eq_bind, Option.bind_some, scanDash, month, skipped, day]
  rw [if_pos ⟨rfl, by omega, by omega, months.1, months.2, days.1, date.monthIndex_eq ▸ days.2⟩]

/-! ### What a date consists of -/

/-- A character that dates may have: a digit, a sign or whitespace. -/
def isDateCharacter (character : Char) : Bool :=
  character.isDigit || character == '-' || character == '+' || isWhitespace character

/-- A reader that leaves behind only characters that dates may have. -/
def ReadsDate {α : Type} (reader : List Char → Option (α × List Char)) : Prop :=
  ∀ text value rest, reader text = some (value, rest) →
    ∀ character ∈ text, isDateCharacter character = true ∨ character ∈ rest

/-- What is dropped from the front is whitespace. -/
theorem mem_dropWhile_isWhitespace {text : List Char} {character : Char}
    (member : character ∈ text) :
    isDateCharacter character = true ∨ character ∈ text.dropWhile isWhitespace := by
  rw [← List.takeWhile_append_dropWhile (p := isWhitespace) (l := text)] at member
  rcases List.mem_append.mp member with blank | rest
  · left
    simp [isDateCharacter, List.mem_takeWhile_imp blank]
  · exact Or.inr rest

/-- A number is digits. -/
theorem scanNumber_readsDate (width : ℕ) : ReadsDate (scanNumber width) := by
  intro text value rest read character member
  simp only [scanNumber] at read
  split at read
  · cases read
  · obtain ⟨-, rfl⟩ := Prod.mk.inj (Option.some.inj read)
    -- The digits are the start of the text, and what follows them is left.
    have start : (text.take width).takeWhile Char.isDigit <+: text :=
      (List.takeWhile_prefix _).trans (List.take_prefix width text)
    rw [← List.prefix_iff_eq_append.mp start] at member
    rcases List.mem_append.mp member with digit | left
    · left
      simp [isDateCharacter, List.mem_takeWhile_imp digit]
    · exact Or.inr left

/-- A year is digits behind a sign. -/
theorem scanYear_readsDate : ReadsDate scanYear := by
  intro text value rest read character member
  unfold scanYear at read
  split at read
  · obtain ⟨⟨year, left⟩, number, same⟩ := Option.map_eq_some_iff.mp read
    obtain ⟨-, rfl⟩ := Prod.mk.inj same
    rcases List.mem_cons.mp member with rfl | later
    · exact Or.inl rfl
    · exact scanNumber_readsDate _ _ _ _ number character later
  · rcases List.mem_cons.mp member with rfl | later
    · exact Or.inl rfl
    · exact scanNumber_readsDate _ _ _ _ read character later
  · exact scanNumber_readsDate _ _ _ _ read character member

/-- A separator is a sign. -/
theorem scanDash_date {text rest : List Char} (read : scanDash text = some rest) :
    ∀ character ∈ text, isDateCharacter character = true ∨ character ∈ rest := by
  unfold scanDash at read
  split at read
  · obtain rfl := Option.some.inj read
    intro character member
    rcases List.mem_cons.mp member with rfl | later
    · exact Or.inl rfl
    · exact Or.inr later
  · cases read

/-- A date that is read has nothing but characters that dates may have. -/
theorem parseNaiveDate_date {value : String} (read : (parseNaiveDate value).isSome = true) :
    ∀ character ∈ value.toList, isDateCharacter character = true := by
  obtain ⟨date, read⟩ := Option.isSome_iff_exists.mp read
  simp only [parseNaiveDate, Option.bind_eq_bind, Option.bind_eq_some_iff,
    Option.ite_none_right_eq_some] at read
  obtain ⟨⟨year, first⟩, yearRead, second, dash, ⟨month, third⟩, monthRead, fourth, otherDash,
    ⟨day, last⟩, dayRead, ⟨ended, -⟩, -⟩ := read
  rw [List.isEmpty_iff] at ended
  simp only at ended
  -- Each reader passes on what it has not read, and nothing is left in the end.
  intro character member
  rcases mem_dropWhile_isWhitespace member with done | member
  · exact done
  rcases scanYear_readsDate _ _ _ yearRead character member with done | member
  · exact done
  rcases scanDash_date dash character member with done | member
  · exact done
  rcases mem_dropWhile_isWhitespace member with done | member
  · exact done
  rcases scanNumber_readsDate _ _ _ _ monthRead character member with done | member
  · exact done
  rcases scanDash_date otherDash character member with done | member
  · exact done
  rcases mem_dropWhile_isWhitespace member with done | member
  · exact done
  rcases scanNumber_readsDate _ _ _ _ dayRead character member with done | member
  · exact done
  · rw [ended] at member
    cases member

end FinStream
