import Mathlib.Data.List.Forall2
import Mathlib.Data.List.Lex
import Mathlib.Tactic.IntervalCases

/-! Decimal numbers of a fixed width, whose texts are ordered as the numbers are. -/

namespace Decimal

/-- The last digits of a number, most significant first. -/
def digits : ℕ → ℕ → List Char
  | 0, _ => []
  | width + 1, n => digits width (n / 10) ++ [Nat.digitChar (n % 10)]

/-- Numbers written in fields of fixed widths, each followed by its separator. -/
def fields : List (ℕ × Char) → List ℕ → List Char
  | (width, separator) :: format, n :: rest => digits width n ++ separator :: fields format rest
  | _, _ => []

/-- Every number fits the width of its field. -/
def Fits (format : List (ℕ × Char)) (numbers : List ℕ) : Prop :=
  List.Forall₂ (fun field n => n < 10 ^ field.1) format numbers

/-! ### One number -/

/-- A number has as many digits as its width says. -/
@[simp] theorem length_digits (width n : ℕ) : (digits width n).length = width := by
  induction width generalizing n with
  | zero => rfl
  | succ width ih => simp [digits, ih]

/-- A digit below ten is a decimal digit. -/
theorem isDigit_digitChar {n : ℕ} (small : n < 10) : (Nat.digitChar n).isDigit = true := by
  interval_cases n <;> rfl

/-- The digits of a number are decimal digits. -/
theorem isDigit_of_mem_digits {width n : ℕ} {character : Char}
    (member : character ∈ digits width n) : character.isDigit = true := by
  induction width generalizing n with
  | zero => cases member
  | succ width ih =>
    rcases List.mem_append.mp member with front | last
    · exact ih front
    · rw [List.mem_singleton.mp last]
      exact isDigit_digitChar (Nat.mod_lt n (by decide))

/-- Digits are ordered as the numbers they stand for. -/
theorem digitChar_lt_iff {m n : ℕ} (left : m < 10) (right : n < 10) :
    Nat.digitChar m < Nat.digitChar n ↔ m < n := by
  interval_cases m <;> interval_cases n <;> decide

/-- Digits are told apart as the numbers they stand for. -/
theorem digitChar_inj {m n : ℕ} (left : m < 10) (right : n < 10) :
    Nat.digitChar m = Nat.digitChar n ↔ m = n := by
  interval_cases m <;> interval_cases n <;> decide

/-- Behind starts of one length, lists compare by the starts first. -/
theorem append_lt_append_iff {α : Type} [LT α] {left right front back : List α}
    (same : left.length = right.length) :
    left ++ front < right ++ back ↔ left < right ∨ left = right ∧ front < back := by
  -- The starts are taken apart one pair of elements at a time.
  induction left generalizing right with
  | nil =>
    obtain rfl := List.length_eq_zero_iff.mp same.symm
    simp
  | cons first rest ih =>
    cases right with
    | nil => cases same
    | cons other others =>
      simp only [List.length_cons, Nat.add_right_cancel_iff] at same
      simp only [List.cons_append, List.cons_lt_cons_iff, ih same, List.cons.injEq]
      tauto

/-- Numbers of one width are told apart by their digits. -/
theorem digits_inj {width m n : ℕ} (left : m < 10 ^ width) (right : n < 10 ^ width) :
    digits width m = digits width n ↔ m = n := by
  refine ⟨fun same => ?_, fun same => congrArg (digits width) same⟩
  induction width generalizing m n with
  | zero =>
    rw [Nat.pow_zero, Nat.lt_one_iff] at left right
    rw [left, right]
  | succ width ih =>
    rw [Nat.pow_succ] at left right
    obtain ⟨front, back⟩ := List.append_inj' same rfl
    have last := (digitChar_inj (Nat.mod_lt m (by decide)) (Nat.mod_lt n (by decide))).mp
      (List.cons.inj back).1
    have quotient := ih (by omega) (by omega) front
    omega

/-- Numbers of one width are ordered as their digits are. -/
theorem digits_lt_iff {width m n : ℕ} (left : m < 10 ^ width) (right : n < 10 ^ width) :
    digits width m < digits width n ↔ m < n := by
  -- The induction takes the last digit off; it decides between numbers that agree before it.
  induction width generalizing m n with
  | zero =>
    rw [Nat.pow_zero, Nat.lt_one_iff] at left right
    simp [left, right]
  | succ width ih =>
    rw [Nat.pow_succ] at left right
    have last := digitChar_lt_iff (Nat.mod_lt m (by decide)) (Nat.mod_lt n (by decide))
    rw [digits, digits, append_lt_append_iff (by simp), ih (by omega) (by omega),
      digits_inj (by omega) (by omega), List.cons_lt_cons_iff, last]
    simp only [List.not_lt_nil, and_false, or_false]
    omega

/-- The shortest digits of a number, padded with zeros to the width, are its digits. -/
theorem replicate_append_toDigits {width n : ℕ} (positive : 0 < width) (fits : n < 10 ^ width) :
    List.replicate (width - (Nat.toDigits 10 n).length) '0' ++ Nat.toDigits 10 n =
      digits width n := by
  -- Both sides end in the same digit, and what is before it pads the quotient.
  induction width generalizing n with
  | zero => cases positive
  | succ width ih =>
    rw [digits]
    by_cases small : n < 10
    · rw [Nat.toDigits_of_lt_base small, Nat.mod_eq_of_lt small, Nat.div_eq_of_lt small]
      congr 1
      -- Zero is written in zeros only.
      have zeros : ∀ width : ℕ, List.replicate width '0' = digits width 0 := by
        intro width
        induction width with
        | zero => rfl
        | succ width ih => rw [List.replicate_succ', ih]; rfl
      exact zeros width
    · have narrower : 0 < width := by
        rcases Nat.eq_zero_or_pos width with rfl | positive
        · simp only [Nat.zero_add, Nat.pow_one] at fits
          omega
        · exact positive
      rw [Nat.pow_succ] at fits
      rw [Nat.toDigits_of_base_le (by decide) (by omega), ← ih narrower (by omega),
        ← List.append_assoc, List.length_append, List.length_singleton, Nat.add_sub_add_right]

/-! ### Several numbers -/

/-- Fields are ordered as the lists of their numbers are. -/
theorem fields_lt_iff {format : List (ℕ × Char)} {left right : List ℕ} (leftFits : Fits format left)
    (rightFits : Fits format right) : fields format left < fields format right ↔ left < right := by
  -- The first fields have one width and one separator, so they decide unless they are equal.
  induction leftFits generalizing right with
  | nil =>
    cases rightFits
    simp [fields]
  | cons fits _ ih =>
    obtain ⟨n, others, otherFits, othersFit, rfl⟩ := List.forall₂_cons_left_iff.mp rightFits
    rw [fields, fields, append_lt_append_iff (by simp), digits_lt_iff fits otherFits,
      digits_inj fits otherFits, List.cons_lt_cons_iff, List.cons_lt_cons_iff, ih othersFit]
    simp

/-- Numbers that fit one format have texts of one length. -/
theorem length_fields {format : List (ℕ × Char)} {left right : List ℕ} (leftFits : Fits format left)
    (rightFits : Fits format right) :
    (fields format left).length = (fields format right).length := by
  induction leftFits generalizing right with
  | nil =>
    cases rightFits
    rfl
  | cons _ _ ih =>
    obtain ⟨n, others, -, othersFit, rfl⟩ := List.forall₂_cons_left_iff.mp rightFits
    simp [fields, ih othersFit]

/-- Numbers that fit one format have digits in the same places, and the same separators. -/
theorem zip_fields {format : List (ℕ × Char)} {left right : List ℕ} (leftFits : Fits format left)
    (rightFits : Fits format right) {pair : Char × Char}
    (member : pair ∈ (fields format left).zip (fields format right)) :
    pair.1.isDigit = true ∧ pair.2.isDigit = true ∨ pair.1 = pair.2 := by
  induction leftFits generalizing right with
  | nil => cases member
  | cons _ _ ih =>
    obtain ⟨n, others, -, othersFit, rfl⟩ := List.forall₂_cons_left_iff.mp rightFits
    rw [fields, fields, List.zip_append (by simp), List.zip_cons_cons, List.mem_append,
      List.mem_cons] at member
    rcases member with digit | rfl | later
    · obtain ⟨first, second⟩ := List.of_mem_zip digit
      exact Or.inl ⟨isDigit_of_mem_digits first, isDigit_of_mem_digits second⟩
    · exact Or.inr rfl
    · exact ih othersFit later

end Decimal
