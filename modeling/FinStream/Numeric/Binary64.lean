import Mathlib.Algebra.Order.Field.Rat
import Mathlib.Algebra.Order.Group.Unbundled.Abs
import Mathlib.Algebra.Order.Field.Power
import Mathlib.Tactic.Positivity

/-! Double-precision numbers by their bits, and the rational numbers they stand for. -/

namespace Numeric

/-- A double: its sign bit, and the exponent and fraction bits below it. -/
structure Binary64 where
  negative : Bool
  payload : Fin (2 ^ 63)
  deriving DecidableEq

namespace Binary64

/-- There are payloads, so numerals denote them. -/
instance payloads : NeZero (2 ^ 63) := ⟨by decide⟩

/-- The double with the given word. -/
def ofBits (word : ℕ) : Binary64 where
  negative := 2 ^ 63 ≤ word % 2 ^ 64
  payload := ⟨word % 2 ^ 63, Nat.mod_lt _ (by decide)⟩

/-- The word of a double. -/
def toBits (number : Binary64) : ℕ := (if number.negative then 2 ^ 63 else 0) + number.payload

/-- The exponent bits. -/
def exponent (number : Binary64) : ℕ := number.payload.val / 2 ^ 52

/-- The fraction bits. -/
def fraction (number : Binary64) : ℕ := number.payload.val % 2 ^ 52

/-- Whether a double is neither an infinity nor a NaN. -/
def isFinite (number : Binary64) : Bool := number.exponent < 2047

/-- The size of a finite double; subnormal ones have no implicit leading bit. -/
def magnitude (number : Binary64) : ℚ :=
  if number.exponent = 0 then number.fraction * (2 : ℚ) ^ (-1074 : ℤ)
  else (2 ^ 52 + number.fraction) * (2 : ℚ) ^ ((number.exponent : ℤ) - 1075)

/-- The rational number a finite double stands for. -/
def value (number : Binary64) : ℚ :=
  if number.negative then -number.magnitude else number.magnitude

/-- The double without its sign. -/
def abs (number : Binary64) : Binary64 := { number with negative := false }

/-- The size is not negative. -/
theorem magnitude_nonneg (number : Binary64) : 0 ≤ number.magnitude := by
  unfold magnitude
  split
  · positivity
  · positivity

/-- The size is zero only when all bits below the sign are. -/
theorem magnitude_eq_zero {number : Binary64} :
    number.magnitude = 0 ↔ number.payload.val = 0 := by
  unfold magnitude
  split
  · -- A subnormal number has the size of its fraction.
    rename_i subnormal
    have power : (2 : ℚ) ^ (-1074 : ℤ) ≠ 0 := by positivity
    simp only [mul_eq_zero, Nat.cast_eq_zero, power, or_false]
    unfold exponent at subnormal
    unfold fraction
    omega
  · -- A normal number has a leading bit, and an exponent that is not zero.
    rename_i normal
    have leading : (2 ^ 52 + (number.fraction : ℚ)) * (2 : ℚ) ^ ((number.exponent : ℤ) - 1075) ≠ 0 :=
      by positivity
    simp only [leading, false_iff]
    intro zero
    exact normal (by simp [exponent, zero])

/-- The value of the double without its sign is the size. -/
@[simp] theorem value_abs (number : Binary64) : number.abs.value = number.magnitude := rfl

/-- The size is the absolute value. -/
theorem abs_value (number : Binary64) : |number.value| = number.magnitude := by
  unfold value
  split
  · rw [abs_neg, abs_of_nonneg number.magnitude_nonneg]
  · exact abs_of_nonneg number.magnitude_nonneg

/-- A double without a sign bit is its own absolute value. -/
theorem abs_eq_self {number : Binary64} (positive : number.negative = false) :
    number.abs = number := by
  cases number
  cases positive
  rfl

/-- Doubles with the same word are the same. -/
theorem toBits_injective : Function.Injective toBits := by
  rintro ⟨leftSign, leftRest⟩ ⟨rightSign, rightRest⟩ same
  have leftSmall := leftRest.isLt
  have rightSmall := rightRest.isLt
  simp only [toBits] at same
  -- The sign is the highest bit, above all of the others.
  have signs : leftSign = rightSign := by
    cases leftSign with
    | false =>
      cases rightSign with
      | false => rfl
      | true => simp at same; omega
    | true =>
      cases rightSign with
      | false => simp at same; omega
      | true => rfl
  rw [signs, Nat.add_left_cancel_iff] at same
  rw [signs, Fin.ext same]

/-- A word has 64 bits. -/
theorem toBits_lt (number : Binary64) : number.toBits < 2 ^ 64 := by
  have small := number.payload.isLt
  unfold toBits
  split
  · omega
  · omega

end Binary64

end Numeric
