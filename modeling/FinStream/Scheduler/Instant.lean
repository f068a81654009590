import FinStream.Finance.Date

/-! Instants in coordinated universal time, as far as the time type represents them. -/

namespace FinStream

open Calendar

/-- Nanoseconds of a second. -/
def nanosPerSecond : ℤ := 10 ^ 9

/-- Nanoseconds of a day. -/
def nanosPerDay : ℤ := 24 * 60 * 60 * nanosPerSecond

/-- The day number of 1970-01-01. -/
def epochDay : ℤ := monthStart (12 * 1970)

/-- The start of the first representable day. -/
def firstInstant : ℤ := (monthStart firstMonthIndex - epochDay) * nanosPerDay

/-- The end of the last representable day. -/
def endOfInstants : ℤ := (monthStart (lastMonthIndex + 1) - epochDay) * nanosPerDay

/-- An instant within the days of the years the time type represents. -/
structure OffsetDateTime where
  /-- Nanoseconds since the start of 1970. -/
  nanos : ℤ
  /-- The instant lies within the representable days. -/
  inRange : firstInstant ≤ nanos ∧ nanos < endOfInstants

namespace OffsetDateTime

/-- Instants are equal when their nanoseconds are. -/
@[ext] theorem ext {left right : OffsetDateTime} (same : left.nanos = right.nanos) :
    left = right := by
  cases left
  cases right
  simp_all

/-- Instants are ordered by their nanoseconds. -/
instance : LinearOrder OffsetDateTime := LinearOrder.lift' nanos fun _ _ => ext

/-- One instant is at most another when its nanoseconds are. -/
theorem le_def {left right : OffsetDateTime} : left ≤ right ↔ left.nanos ≤ right.nanos := Iff.rfl

/-- One instant is before another when its nanoseconds are fewer. -/
theorem lt_def {left right : OffsetDateTime} : left < right ↔ left.nanos < right.nanos := Iff.rfl

/-- The instant with these nanoseconds, when it is representable. -/
def ofNanos (nanos : ℤ) : Option OffsetDateTime :=
  if inRange : firstInstant ≤ nanos ∧ nanos < endOfInstants then some ⟨nanos, inRange⟩ else none

/-- Whole seconds since the start of 1970, rounded towards the past. -/
def unixTimestamp (value : OffsetDateTime) : ℤ := value.nanos / nanosPerSecond

/-- The seconds of an instant are far below the limits of a machine word. -/
theorem unixTimestamp_bounds (value : OffsetDateTime) :
    -2 ^ 40 ≤ value.unixTimestamp ∧ value.unixTimestamp < 2 ^ 40 := by
  obtain ⟨lower, upper⟩ := value.inRange
  have first : -2 ^ 40 * nanosPerSecond ≤ firstInstant := by decide
  have last : endOfInstants ≤ 2 ^ 40 * nanosPerSecond := by decide
  have positive : 0 < nanosPerSecond := by decide
  exact ⟨(Int.le_ediv_iff_mul_le positive).mpr (first.trans lower),
    (Int.ediv_lt_iff_lt_mul positive).mpr (upper.trans_le last)⟩

/-- Whole milliseconds since the start of 1970, rounded towards the past. -/
def unixMillis (value : OffsetDateTime) : ℤ := value.nanos / 10 ^ 6

/-- The instant at a whole second, when it is representable. -/
def fromUnixTimestamp (seconds : ℤ) : Option OffsetDateTime := ofNanos (seconds * nanosPerSecond)

/-- The instant some seconds later, when it is representable. -/
def checkedAdd (value : OffsetDateTime) (seconds : ℤ) : Option OffsetDateTime :=
  ofNanos (value.nanos + seconds * nanosPerSecond)

/-- The day an instant falls on. -/
def date (value : OffsetDateTime) : IsoDate where
  dayNumber := epochDay + value.nanos / nanosPerDay
  inRange := by
    obtain ⟨lower, upper⟩ := value.inRange
    have positive : 0 < nanosPerDay := by decide
    have started := (Int.le_ediv_iff_mul_le positive).mpr lower
    have ends := (Int.ediv_lt_iff_lt_mul positive).mpr upper
    omega

/-- Nanoseconds since the start of the day. -/
def nanosOfDay (value : OffsetDateTime) : ℤ := value.nanos % nanosPerDay

/-- The hour of the day. -/
def hour (value : OffsetDateTime) : ℤ := value.nanosOfDay / (60 * 60 * nanosPerSecond)

/-- The minute of the hour. -/
def minute (value : OffsetDateTime) : ℤ := value.nanosOfDay / (60 * nanosPerSecond) % 60

/-- The second of the minute. -/
def second (value : OffsetDateTime) : ℤ := value.nanosOfDay / nanosPerSecond % 60

/-- The millisecond of the second. -/
def millisecond (value : OffsetDateTime) : ℤ := value.nanosOfDay / 10 ^ 6 % 1000

/-- An instant found by its nanoseconds has those nanoseconds. -/
@[simp] theorem ofNanos_eq_some {nanos : ℤ} {value : OffsetDateTime} :
    ofNanos nanos = some value ↔ value.nanos = nanos := by
  unfold ofNanos
  split
  · simp only [Option.some.injEq]
    constructor
    · rintro rfl
      rfl
    · rintro rfl
      rfl
  · rename_i outside
    simp only [false_iff, reduceCtorEq]
    rintro rfl
    exact outside value.inRange

/-- Nanoseconds outside the representable days belong to no instant. -/
@[simp] theorem ofNanos_eq_none {nanos : ℤ} :
    ofNanos nanos = none ↔ nanos < firstInstant ∨ endOfInstants ≤ nanos := by
  unfold ofNanos
  split
  · simp only [reduceCtorEq, false_iff]
    omega
  · simp only [true_iff]
    omega

/-- An instant at a whole second is that many seconds after the start of 1970. -/
@[simp] theorem fromUnixTimestamp_eq_some {seconds : ℤ} {value : OffsetDateTime} :
    fromUnixTimestamp seconds = some value ↔ value.nanos = seconds * nanosPerSecond :=
  ofNanos_eq_some

/-- Adding seconds moves an instant by their nanoseconds. -/
@[simp] theorem checkedAdd_eq_some {value moved : OffsetDateTime} {seconds : ℤ} :
    value.checkedAdd seconds = some moved ↔
      moved.nanos = value.nanos + seconds * nanosPerSecond := ofNanos_eq_some

end OffsetDateTime

end FinStream
