import Mathlib.Order.Monotone.Basic
import Mathlib.Algebra.Order.Ring.Int
import Mathlib.Data.Int.ConditionallyCompleteOrder
import Mathlib.Data.Int.SuccPred
import Mathlib.Tactic.IntervalCases

/-! The proleptic Gregorian calendar as a count of days, by the first day of each month. -/

namespace Calendar

/-- Every fourth year is a leap year, except the centuries not divisible by four hundred. -/
def isLeap (year : ℤ) : Bool :=
  year % 4 == 0 && (year % 100 != 0 || year % 400 == 0)

/-- Days from the first day of year zero to the first day of the given year. -/
def yearStart (year : ℤ) : ℤ :=
  365 * year + (year + 3) / 4 - (year + 99) / 100 + (year + 399) / 400

/-- Days of a year before each of its months, counting the months from zero. -/
def daysBeforeMonth (leap : Bool) (month : ℕ) : ℤ :=
  let days := [0, 31, 59, 90, 120, 151, 181, 212, 243, 273, 304, 334].getD month 365
  if leap && 2 ≤ month then days + 1 else days

/-- A month index counts months from January of year zero. -/
def monthStart (index : ℤ) : ℤ :=
  yearStart (index / 12) + daysBeforeMonth (isLeap (index / 12)) (index % 12).toNat

/-- The number of days in the month with the given index. -/
def monthLength (index : ℤ) : ℤ := monthStart (index + 1) - monthStart index

/-- The year a day falls in, found from the mean year length and corrected by at most one. -/
def yearOf (day : ℤ) : ℤ :=
  let guess := 400 * day / 146097
  if day < yearStart guess then guess - 1
  else if yearStart (guess + 1) ≤ day then guess + 1
  else guess

/-- The last month, at most the given one, that starts by a day of the year. -/
def monthWithin (leap : Bool) (offset : ℤ) : ℕ → ℕ
  | 0 => 0
  | month + 1 =>
    if daysBeforeMonth leap (month + 1) ≤ offset then month + 1 else monthWithin leap offset month

/-- The index of the month a day falls in. -/
def monthIndexOf (day : ℤ) : ℤ :=
  let year := yearOf day
  12 * year + (monthWithin (isLeap year) (day - yearStart year) 11 : ℕ)

/-- Leap years have one day more than the others. -/
theorem yearStart_succ (year : ℤ) :
    yearStart (year + 1) = yearStart year + if isLeap year then 366 else 365 := by
  -- Each of the three corrections moves exactly at the years its divisor names.
  simp only [yearStart]
  cases leap : isLeap year <;> simp only [isLeap, Bool.and_eq_true, Bool.or_eq_true, beq_iff_eq,
    bne_iff_ne, Bool.and_eq_false_iff, Bool.or_eq_false_iff, beq_eq_false_iff_ne,
    bne_eq_false_iff_eq] at leap <;> simp <;> omega

/-- A year starts within two days of the multiple of the mean year length. -/
theorem yearStart_bounds (year : ℤ) :
    146097 * year - 396 ≤ 400 * yearStart year ∧ 400 * yearStart year ≤ 146097 * year + 699 := by
  simp only [yearStart]
  omega

/-- The corrected guess is the year whose days surround the given day. -/
theorem yearOf_spec (day : ℤ) :
    yearStart (yearOf day) ≤ day ∧ day < yearStart (yearOf day + 1) := by
  -- The guess is off by at most one because years start close to multiples of their mean length.
  simp only [yearOf]
  have here := yearStart_bounds (400 * day / 146097)
  have previous := yearStart_bounds (400 * day / 146097 - 1)
  have later := yearStart_bounds (400 * day / 146097 + 1 + 1)
  split
  · rw [sub_add_cancel]
    omega
  · split <;> omega

/-- The month found for a day of the year starts by that day, and the next month after it. -/
theorem monthWithin_spec (leap : Bool) {offset : ℤ} (start : 0 ≤ offset) (limit : ℕ)
    (finish : offset < daysBeforeMonth leap (limit + 1)) :
    monthWithin leap offset limit ≤ limit ∧
      daysBeforeMonth leap (monthWithin leap offset limit) ≤ offset ∧
      offset < daysBeforeMonth leap (monthWithin leap offset limit + 1) := by
  -- The search goes down one month at a time and stops at the first that has started.
  induction limit with
  | zero => exact ⟨Nat.le_refl _, by cases leap <;> simpa [monthWithin, daysBeforeMonth], finish⟩
  | succ month ih =>
    simp only [monthWithin]
    split
    · exact ⟨Nat.le_refl _, ‹_›, finish⟩
    · obtain ⟨within, lower, upper⟩ := ih (by omega)
      exact ⟨by omega, lower, upper⟩

/-- A month index splits into its year and the month within that year. -/
theorem monthStart_split (year : ℤ) {month : ℕ} (small : month < 12) :
    monthStart (12 * year + month) = yearStart year + daysBeforeMonth (isLeap year) month := by
  have here : (12 * year + (month : ℤ)) / 12 = year := by omega
  have offset : ((12 * year + (month : ℤ)) % 12).toNat = month := by omega
  simp only [monthStart, here, offset]

/-- The month after the given month of a year starts where the table says, December included. -/
theorem monthStart_split_succ (year : ℤ) {month : ℕ} (small : month < 12) :
    monthStart (12 * year + month + 1)
      = yearStart year + daysBeforeMonth (isLeap year) (month + 1) := by
  by_cases december : month = 11
  · -- The table ends with the length of the year, where the next January starts.
    subst december
    have january : 12 * year + ((11 : ℕ) : ℤ) + 1 = 12 * (year + 1) + ((0 : ℕ) : ℤ) := by omega
    rw [january, monthStart_split (year + 1) (by omega), yearStart_succ]
    cases isLeap year <;> cases isLeap (year + 1) <;> simp [daysBeforeMonth]
  · have later : 12 * year + (month : ℤ) + 1 = 12 * year + ((month + 1 : ℕ) : ℤ) := by
      push_cast
      omega
    rw [later, monthStart_split year (by omega)]

/-- Months follow one another without gaps, and each has twenty-eight to thirty-one days. -/
theorem monthLength_bounds (index : ℤ) : 28 ≤ monthLength index ∧ monthLength index ≤ 31 := by
  -- Both ends of the month are read off the table of its year.
  obtain ⟨year, month, small, rfl⟩ : ∃ year : ℤ, ∃ month : ℕ, month < 12 ∧
      index = 12 * year + month :=
    ⟨index / 12, (index % 12).toNat, by omega, by omega⟩
  simp only [monthLength, monthStart_split year small, monthStart_split_succ year small,
    daysBeforeMonth]
  interval_cases month <;> cases isLeap year <;> simp

/-- Later months start later. -/
theorem monthStart_strictMono : StrictMono monthStart := by
  -- A month has at least one day, so each month starts before the next one.
  refine strictMono_int_of_lt_succ fun index => ?_
  have := monthLength_bounds index
  simp only [monthLength] at this
  omega

/-- A day lies between the start of its month and the start of the next month. -/
theorem monthIndexOf_spec (day : ℤ) :
    monthStart (monthIndexOf day) ≤ day ∧ day < monthStart (monthIndexOf day + 1) := by
  -- The year surrounds the day, and the search then finds the month within the year.
  obtain ⟨lower, upper⟩ := yearOf_spec day
  rw [yearStart_succ] at upper
  have positive : 0 ≤ day - yearStart (yearOf day) := by omega
  obtain ⟨within, started, ends⟩ := monthWithin_spec (isLeap (yearOf day)) positive 11
    (by cases leap : isLeap (yearOf day) <;> simp [daysBeforeMonth, leap] at upper ⊢ <;> omega)
  simp only [monthIndexOf]
  rw [monthStart_split _ (by omega), monthStart_split_succ _ (by omega)]
  omega

/-- A month index belongs to a day exactly when the month surrounds the day. -/
theorem monthIndexOf_eq_iff {day index : ℤ} :
    monthIndexOf day = index ↔ monthStart index ≤ day ∧ day < monthStart (index + 1) := by
  constructor
  · rintro rfl
    exact monthIndexOf_spec day
  · -- Two months that surround one day cannot be ordered either way.
    rintro ⟨lower, upper⟩
    obtain ⟨started, ends⟩ := monthIndexOf_spec day
    have notAfter : monthIndexOf day < index + 1 :=
      monthStart_strictMono.lt_iff_lt.mp (started.trans_lt upper)
    have notBefore : index < monthIndexOf day + 1 :=
      monthStart_strictMono.lt_iff_lt.mp (lower.trans_lt ends)
    omega

/-- A later day never falls in an earlier month. -/
theorem monthIndexOf_mono : Monotone monthIndexOf := by
  intro earlier later ordered
  obtain ⟨started, -⟩ := monthIndexOf_spec earlier
  obtain ⟨-, ends⟩ := monthIndexOf_spec later
  have : monthIndexOf earlier < monthIndexOf later + 1 :=
    monthStart_strictMono.lt_iff_lt.mp (started.trans_lt (ordered.trans_lt ends))
  omega

end Calendar
