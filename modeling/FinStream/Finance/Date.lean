import FinStream.Calendar.Gregorian
import FinStream.Store.Transaction
import Mathlib.Order.Basic

/-! Validated calendar dates, stored as the number of days since the first day of year zero. -/

namespace FinStream

open Calendar Store

/-- Ways a date operation can go wrong. -/
inductive DateError where
  | format
  | monthRange
  | invalidCalendarDate (year month day : ℤ)
  | arithmeticOverflow
  /-- An `expect` on a date the calendar cannot represent. -/
  | panicked
  deriving DecidableEq, Repr

/-- Month indices of the representable years -9999 to 9999. -/
def firstMonthIndex : ℤ := 12 * -9999

/-- The index of December 9999. -/
def lastMonthIndex : ℤ := 12 * 9999 + 11

/-- A calendar date in the years the date type can represent. -/
structure IsoDate where
  /-- Days since the first day of year zero. -/
  dayNumber : ℤ
  /-- The date lies within the representable years. -/
  inRange : monthStart firstMonthIndex ≤ dayNumber ∧ dayNumber < monthStart (lastMonthIndex + 1)

namespace IsoDate

/-- Dates are equal when their day numbers are. -/
@[ext] theorem ext {left right : IsoDate} (same : left.dayNumber = right.dayNumber) :
    left = right := by
  cases left
  cases right
  simp_all

/-- Dates are ordered by their day numbers. -/
instance : LinearOrder IsoDate := LinearOrder.lift' dayNumber fun _ _ => ext

/-- One date is at most another when its day number is. -/
theorem le_def {left right : IsoDate} : left ≤ right ↔ left.dayNumber ≤ right.dayNumber := Iff.rfl

/-- One date is before another when its day number is smaller. -/
theorem lt_def {left right : IsoDate} : left < right ↔ left.dayNumber < right.dayNumber := Iff.rfl

/-- The index of the month a date falls in. -/
def monthIndex (date : IsoDate) : ℤ := monthIndexOf date.dayNumber

/-- The calendar year. -/
def year (date : IsoDate) : ℤ := date.monthIndex / 12

/-- The month of the year, from one. -/
def month (date : IsoDate) : ℤ := date.monthIndex % 12 + 1

/-- The day of the month, from one. -/
def day (date : IsoDate) : ℤ := date.dayNumber - monthStart date.monthIndex + 1

/-- The date with this day number, when it is representable. -/
def ofDayNumber (dayNumber : ℤ) : Option IsoDate :=
  if inRange : monthStart firstMonthIndex ≤ dayNumber ∧
      dayNumber < monthStart (lastMonthIndex + 1) then
    some ⟨dayNumber, inRange⟩
  else none

/-- The date with this year, month and day, when the calendar has one. -/
def fromCalendarDate (year month day : ℤ) : Option IsoDate :=
  let index := 12 * year + (month - 1)
  if 1 ≤ month ∧ month ≤ 12 ∧ 1 ≤ day ∧ day ≤ monthLength index then
    ofDayNumber (monthStart index + day - 1)
  else none

/-- Builds a date, with the error the source reports when there is none. -/
def new (year month day : ℤ) : Except DateError IsoDate := do
  ensure (1 ≤ month ∧ month ≤ 12) .monthRange
  required (fromCalendarDate year month day) (.invalidCalendarDate year month day)

/-- Moves a date by a number of days, failing outside the representable years. -/
def addDays (date : IsoDate) (days : ℤ) : Except DateError IsoDate :=
  required (ofDayNumber (date.dayNumber + days)) .arithmeticOverflow

/-- Whole days from one date to another. -/
def daysUntil (date later : IsoDate) : ℤ := later.dayNumber - date.dayNumber

/-- The month index of a date lies between those of the first and last representable months. -/
theorem monthIndex_bounds (date : IsoDate) :
    firstMonthIndex ≤ date.monthIndex ∧ date.monthIndex ≤ lastMonthIndex := by
  -- Both bounds compare the month starts that surround the date.
  obtain ⟨started, ends⟩ := monthIndexOf_spec date.dayNumber
  have lower : firstMonthIndex < monthIndexOf date.dayNumber + 1 :=
    monthStart_strictMono.lt_iff_lt.mp (date.inRange.1.trans_lt ends)
  have upper : monthIndexOf date.dayNumber < lastMonthIndex + 1 :=
    monthStart_strictMono.lt_iff_lt.mp (started.trans_lt date.inRange.2)
  simp only [monthIndex]
  omega

/-- The first day of the date's month, which exists for every date. -/
def firstOfMonth (date : IsoDate) : IsoDate where
  dayNumber := monthStart date.monthIndex
  inRange := by
    obtain ⟨lower, upper⟩ := date.monthIndex_bounds
    exact ⟨monthStart_strictMono.monotone lower, monthStart_strictMono (by omega)⟩

/-- The year and month of the month after the date's. -/
def followingMonth (date : IsoDate) : ℤ × ℤ :=
  if date.month = 12 then (date.year + 1, 1) else (date.year, date.month + 1)

/-- The last day of the date's month, found as the day before the next month starts. -/
def lastOfMonth (date : IsoDate) : Except DateError IsoDate := do
  let (year, month) := date.followingMonth
  let firstNext ← required (fromCalendarDate year month 1) .panicked
  required (ofDayNumber (firstNext.dayNumber - 1)) .panicked

/-- The given day of the date's month, or the month's nearest existing day. -/
def withDayClamped (date : IsoDate) (day : ℤ) : Except DateError IsoDate := do
  let last ← date.lastOfMonth
  required (fromCalendarDate date.year date.month (max 1 (min day last.day))) .panicked

/-- The first day of the next month. -/
def nextMonth (date : IsoDate) : Except DateError IsoDate :=
  let (year, month) := date.followingMonth
  new year month 1

/-- The date's anniversary in the given year, moved back to the end of a shorter month. -/
def inYearClamped (date : IsoDate) (year : ℤ) : Except DateError IsoDate := do
  let first ← new year date.month 1
  first.withDayClamped date.day

/-- The number spelled by decimal digits, most significant first. -/
def digitsValue (digits : List Char) : ℤ :=
  digits.foldl (fun value digit => 10 * value + (digit.toNat - '0'.toNat : ℕ)) 0

/-- Reads the fixed-width text `YYYY-MM-DD`. -/
def fromStr (value : String) : Except DateError IsoDate :=
  match value.toList with
  | [y₁, y₂, y₃, y₄, '-', m₁, m₂, '-', d₁, d₂] =>
    if [y₁, y₂, y₃, y₄, m₁, m₂, d₁, d₂].all Char.isDigit then
      new (digitsValue [y₁, y₂, y₃, y₄]) (digitsValue [m₁, m₂]) (digitsValue [d₁, d₂])
    else .error .format
  | _ => .error .format

/-- A number padded with zeros to a width that includes its sign. -/
def padded (width : ℕ) (value : ℤ) : String :=
  let digits := toString value.natAbs
  if value < 0 then "-" ++ "".pushn '0' (width - 1 - digits.length) ++ digits
  else "".pushn '0' (width - digits.length) ++ digits

/-- The stored text of a date. -/
def toText (date : IsoDate) : String :=
  padded 4 date.year ++ "-" ++ padded 2 date.month ++ "-" ++ padded 2 date.day

/-- A date found by its day number has that day number. -/
@[simp] theorem ofDayNumber_eq_some {number : ℤ} {date : IsoDate} :
    ofDayNumber number = some date ↔ date.dayNumber = number := by
  unfold ofDayNumber
  split
  · simp only [Option.some.injEq]
    constructor
    · rintro rfl
      rfl
    · rintro rfl
      rfl
  · rename_i outside
    simp only [false_iff, reduceCtorEq]
    rintro rfl
    exact outside date.inRange

/-- A date lies within the days of its month. -/
theorem monthIndex_spec (date : IsoDate) :
    monthStart date.monthIndex ≤ date.dayNumber ∧
      date.dayNumber < monthStart (date.monthIndex + 1) := monthIndexOf_spec date.dayNumber

/-- The month index is recovered from year and month. -/
theorem monthIndex_eq (date : IsoDate) : date.monthIndex = 12 * date.year + (date.month - 1) := by
  simp only [year, month]
  omega

/-- The day of the month counts from one up to the length of the month. -/
theorem day_bounds (date : IsoDate) : 1 ≤ date.day ∧ date.day ≤ monthLength date.monthIndex := by
  obtain ⟨started, ends⟩ := date.monthIndex_spec
  simp only [day, monthLength]
  omega

/-- The month counts from one to twelve. -/
theorem month_bounds (date : IsoDate) : 1 ≤ date.month ∧ date.month ≤ 12 := by
  simp only [month]
  omega

/-- No year has more than four digits. -/
theorem year_le (date : IsoDate) : date.year ≤ 9999 := by
  have := date.monthIndex_bounds.2
  simp only [lastMonthIndex] at this
  simp only [year]
  omega

/-- A date is determined by its month and its day of the month. -/
theorem ext_month_day {left right : IsoDate} (sameMonth : left.monthIndex = right.monthIndex)
    (sameDay : left.day = right.day) : left = right := by
  refine ext ?_
  simp only [day, sameMonth] at sameDay
  omega

/-- A day within a month has that month's index. -/
theorem monthIndex_of_mem {date : IsoDate} {index : ℤ} (started : monthStart index ≤ date.dayNumber)
    (ends : date.dayNumber < monthStart (index + 1)) : date.monthIndex = index :=
  monthIndexOf_eq_iff.mpr ⟨started, ends⟩

/-- A date is found by counting its day of the month from the start of its month. -/
theorem dayNumber_eq_iff {date : IsoDate} {index day : ℤ} (lower : 1 ≤ day)
    (upper : day ≤ monthLength index) :
    date.dayNumber = monthStart index + day - 1 ↔ date.monthIndex = index ∧ date.day = day := by
  simp only [monthLength] at upper
  constructor
  · intro number
    obtain rfl : date.monthIndex = index := monthIndex_of_mem (by omega) (by omega)
    refine ⟨rfl, ?_⟩
    rw [IsoDate.day]
    omega
  · rintro ⟨rfl, rfl⟩
    rw [IsoDate.day]
    omega

/-- The first day of a month has the month's index. -/
@[simp] theorem monthIndex_firstOfMonth (date : IsoDate) :
    date.firstOfMonth.monthIndex = date.monthIndex :=
  monthIndex_of_mem le_rfl (monthStart_strictMono (by omega))

/-- A first day of a month belongs to the dates that share its month index. -/
theorem firstOfMonth_eq_iff {date month : IsoDate} (first : month.firstOfMonth = month) :
    date.firstOfMonth = month ↔ date.monthIndex = month.monthIndex := by
  constructor
  · rintro rfl
    simp
  · intro same
    rw [← first]
    exact ext (by simp only [firstOfMonth, same])

/-- Year and month of the year determine the month index and are determined by it. -/
theorem monthIndex_eq_iff {date : IsoDate} {year month : ℤ} (lower : 1 ≤ month)
    (upper : month ≤ 12) :
    date.monthIndex = 12 * year + (month - 1) ↔ date.year = year ∧ date.month = month := by
  simp only [IsoDate.year, IsoDate.month]
  omega

/-- Later dates never fall in earlier months. -/
theorem monthIndex_mono {left right : IsoDate} (ordered : left ≤ right) :
    left.monthIndex ≤ right.monthIndex := monthIndexOf_mono ordered

/-- The date built from a year, month and day counts that day from the start of that month. -/
theorem fromCalendarDate_eq_some {year month day : ℤ} {date : IsoDate} :
    fromCalendarDate year month day = some date ↔
      1 ≤ month ∧ month ≤ 12 ∧ 1 ≤ day ∧ day ≤ monthLength (12 * year + (month - 1)) ∧
        date.dayNumber = monthStart (12 * year + (month - 1)) + day - 1 := by
  simp only [fromCalendarDate]
  split
  · rename_i valid
    simp [valid]
  · rename_i invalid
    simp only [false_iff, reduceCtorEq]
    rintro ⟨h₁, h₂, h₃, h₄, -⟩
    exact invalid ⟨h₁, h₂, h₃, h₄⟩

/-- The following month has the next index. -/
theorem followingMonth_index (date : IsoDate) :
    12 * date.followingMonth.1 + (date.followingMonth.2 - 1) = date.monthIndex + 1 ∧
      1 ≤ date.followingMonth.2 ∧ date.followingMonth.2 ≤ 12 := by
  have := date.monthIndex_eq
  have := date.month_bounds
  unfold followingMonth
  split <;> simp only <;> omega

/-- The next month starts where its index says. -/
theorem nextMonth_eq_ok {date next : IsoDate} :
    date.nextMonth = .ok next ↔ next.dayNumber = monthStart (date.monthIndex + 1) := by
  obtain ⟨index, lower, upper⟩ := date.followingMonth_index
  have long := monthLength_bounds (date.monthIndex + 1)
  simp only [nextMonth, new, bind_eq_ok, ensure_eq_ok, required_eq_ok, fromCalendarDate_eq_some,
    index, decide_eq_true_eq]
  constructor
  · rintro ⟨_, -, -, -, -, -, start⟩
    omega
  · intro start
    exact ⟨⟨⟩, ⟨lower, upper⟩, lower, upper, by omega, by omega, by omega⟩

/-- Every day of a representable month is a date. -/
theorem exists_of_month {index number : ℤ} (lower : firstMonthIndex ≤ index)
    (upper : index ≤ lastMonthIndex) (started : monthStart index ≤ number)
    (ends : number < monthStart (index + 1)) : ∃ date : IsoDate, date.dayNumber = number :=
  ⟨⟨number, (monthStart_strictMono.monotone lower).trans started,
    ends.trans_le (monthStart_strictMono.monotone (by omega))⟩, rfl⟩

/-- The last day of a month is the day before the next month starts. -/
theorem lastOfMonth_eq_ok {date last : IsoDate} :
    date.lastOfMonth = .ok last ↔
      date.monthIndex < lastMonthIndex ∧
        last.dayNumber = monthStart (date.monthIndex + 1) - 1 := by
  obtain ⟨index, lower, upper⟩ := date.followingMonth_index
  have long := monthLength_bounds (date.monthIndex + 1)
  simp only [lastOfMonth, bind_eq_ok, required_eq_ok, fromCalendarDate_eq_some, index,
    ofDayNumber_eq_some]
  constructor
  · rintro ⟨first, ⟨-, -, -, -, start⟩, day⟩
    -- The first day of the next month is representable, so this is not the last month.
    have within : monthStart (date.monthIndex + 1) < monthStart (lastMonthIndex + 1) := by
      have := first.inRange.2
      omega
    have := monthStart_strictMono.lt_iff_lt.mp within
    omega
  · rintro ⟨before, day⟩
    have next : monthStart (date.monthIndex + 1) < monthStart (date.monthIndex + 1 + 1) :=
      monthStart_strictMono (by omega)
    obtain ⟨first, start⟩ := exists_of_month
      (by have := date.monthIndex_bounds; omega) (by omega) le_rfl next
    exact ⟨first, ⟨lower, upper, by omega, by omega, by omega⟩, by omega⟩

/-- Clamping picks the given day of the month, or its first or last day when there is none. -/
theorem withDayClamped_eq_ok {date clamped : IsoDate} {day : ℤ} :
    date.withDayClamped day = .ok clamped ↔
      date.monthIndex < lastMonthIndex ∧ clamped.dayNumber =
        monthStart date.monthIndex + max 1 (min day (monthLength date.monthIndex)) - 1 := by
  have long := monthLength_bounds date.monthIndex
  have months := date.month_bounds
  simp only [withDayClamped, bind_eq_ok, required_eq_ok, fromCalendarDate_eq_some,
    lastOfMonth_eq_ok, ← date.monthIndex_eq]
  -- The last day of the month counts its length.
  have lastDay : ∀ last : IsoDate, last.dayNumber = monthStart (date.monthIndex + 1) - 1 →
      last.day = monthLength date.monthIndex := by
    intro last number
    have same : last.monthIndex = date.monthIndex := by
      have := monthStart_strictMono (a := date.monthIndex) (b := date.monthIndex + 1) (by omega)
      exact monthIndex_of_mem (by omega) (by omega)
    simp only [IsoDate.day, same, monthLength, number]
    omega
  constructor
  · rintro ⟨last, ⟨before, number⟩, -, -, -, -, start⟩
    rw [lastDay last number] at start
    exact ⟨before, start⟩
  · rintro ⟨before, start⟩
    obtain ⟨last, number⟩ :
        ∃ last : IsoDate, last.dayNumber = monthStart (date.monthIndex + 1) - 1 :=
      exists_of_month date.monthIndex_bounds.1 (by omega)
        (by simp only [monthLength] at long; omega) (by omega)
    rw [← lastDay last number] at start
    refine ⟨last, ⟨before, number⟩, months.1, months.2, by omega, ?_, start⟩
    rw [lastDay last number]
    omega

/-- The anniversary keeps the month and clamps the day to the length of the month. -/
theorem inYearClamped_eq_ok {date moved : IsoDate} {year : ℤ} :
    date.inYearClamped year = .ok moved ↔
      firstMonthIndex ≤ 12 * year + (date.month - 1) ∧
        12 * year + (date.month - 1) < lastMonthIndex ∧ moved.dayNumber =
          monthStart (12 * year + (date.month - 1)) +
            min date.day (monthLength (12 * year + (date.month - 1))) - 1 := by
  -- The month of the date in that year decides everything.
  generalize index_def : 12 * year + (date.month - 1) = index
  have long := monthLength_bounds index
  have months := date.month_bounds
  have days := date.day_bounds
  simp only [inYearClamped, new, bind_eq_ok, ensure_eq_ok, required_eq_ok,
    fromCalendarDate_eq_some, withDayClamped_eq_ok, index_def, decide_eq_true_eq]
  have clamp : max 1 (min date.day (monthLength index)) = min date.day (monthLength index) := by
    omega
  have next : monthStart index < monthStart (index + 1) := monthStart_strictMono (by omega)
  constructor
  · -- The first day of the month was found, so the month is one of the calendar.
    rintro ⟨first, ⟨-, -, -, -, -, -, start⟩, before, number⟩
    have same : first.monthIndex = index := monthIndex_of_mem (by omega) (by omega)
    rw [same] at before number
    refine ⟨?_, before, by omega⟩
    rw [← same]
    exact first.monthIndex_bounds.1
  · rintro ⟨lower, before, number⟩
    obtain ⟨first, start⟩ := exists_of_month lower (by omega) le_rfl next
    have same : first.monthIndex = index := monthIndex_of_mem (by omega) (by omega)
    refine ⟨first, ⟨⟨⟩, months, months.1, months.2, by omega, by omega, by omega⟩, ?_⟩
    rw [same]
    exact ⟨before, by omega⟩

/-- Moving a date by days adds them to its day number. -/
theorem addDays_eq_ok {date moved : IsoDate} {days : ℤ} :
    date.addDays days = .ok moved ↔ moved.dayNumber = date.dayNumber + days := by
  simp [addDays]

end IsoDate

end FinStream
