import FinStream.Calendar.Slots
import FinStream.Scheduler.Instant
import Mathlib.Tactic.Ring

/-! The slots of the scheduled syncs: the most recent one, and the next one. -/

namespace FinStream

open Calendar

/-- How often a connection is synced. -/
inductive SyncCadence where
  | hourly
  | every6h
  | every12h
  | daily
  | manual
  deriving DecidableEq

namespace SyncCadence

/-- The hours between two slots. -/
def periodHours : SyncCadence → Option ℤ
  | .hourly => some 1
  | .every6h => some 6
  | .every12h => some 12
  | .daily => some 24
  | .manual => none

/-- The hour of the day of the first slot. -/
def offsetHours (cadence : SyncCadence) : ℤ := if cadence = .daily then 6 else 0

/-- The seconds between two slots. -/
def period : SyncCadence → Option ℤ
  | .hourly => some (1 * 60 * 60)
  | .every6h => some (6 * 60 * 60)
  | .every12h => some (12 * 60 * 60)
  | .daily => some (1 * 24 * 60 * 60)
  | .manual => none

/-- The most recent slot at or before an instant. -/
def mostRecentSlot (cadence : SyncCadence) (now : OffsetDateTime) : Option OffsetDateTime := do
  let periodHours ← cadence.periodHours
  let periodSeconds := periodHours * 60 * 60
  let offsetSeconds := cadence.offsetHours * 60 * 60
  let shifted := now.unixTimestamp - offsetSeconds
  let slotSeconds := shifted / periodSeconds * periodSeconds + offsetSeconds
  OffsetDateTime.fromUnixTimestamp slotSeconds

/-- The next slot strictly after an instant. -/
def nextSlot (cadence : SyncCadence) (now : OffsetDateTime) : Option OffsetDateTime := do
  let period ← cadence.period
  (← cadence.mostRecentSlot now).checkedAdd period

/-- An instant on the hour, at an hour of the day that is due. -/
def IsSlot (cadence : SyncCadence) (value : OffsetDateTime) : Prop :=
  value.nanosOfDay = value.hour * (60 * 60 * nanosPerSecond) ∧
    ∃ periodHours, cadence.periodHours = some periodHours ∧
      value.hour % periodHours = cadence.offsetHours % periodHours

/-- The slots of an automatic cadence partition time, up to the ends of the representable years. -/
structure PartitionsTime (cadence : SyncCadence) : Prop where
  /-- The most recent slot is aligned, is not after the instant, and is its own. -/
  recent : ∀ now slot, cadence.mostRecentSlot now = some slot →
    cadence.IsSlot slot ∧ slot ≤ now ∧ cadence.mostRecentSlot slot = some slot
  /-- The next slot is aligned and after the instant. -/
  next : ∀ now slot, cadence.nextSlot now = some slot → cadence.IsSlot slot ∧ now < slot
  /-- No slot lies strictly between the most recent one and the next one. -/
  adjacent : ∀ now slot next other, cadence.mostRecentSlot now = some slot →
    cadence.nextSlot now = some next → cadence.IsSlot other → other ≤ slot ∨ next ≤ other
  /-- A later instant has no earlier slot. -/
  monotone : ∀ earlier later slot laterSlot, earlier ≤ later →
    cadence.mostRecentSlot earlier = some slot → cadence.mostRecentSlot later = some laterSlot →
      slot ≤ laterSlot
  /-- Two instants have the same most recent slot exactly when no slot separates them. -/
  separated : ∀ earlier later, earlier ≤ later →
    (cadence.mostRecentSlot earlier = cadence.mostRecentSlot later ↔
      ¬∃ slot, cadence.IsSlot slot ∧ earlier < slot ∧ slot ≤ later)
  /-- Only the first hours of time are before every slot of the daily cadence. -/
  withoutRecent : ∀ now, cadence.mostRecentSlot now = none ↔
    cadence = .daily ∧ now.nanos < firstInstant + 6 * (60 * 60 * nanosPerSecond)
  /-- Only those hours, and the last period of time, have no next slot. -/
  withoutNext : ∀ now, cadence.nextSlot now = none ↔ cadence.mostRecentSlot now = none ∨
    ∀ slot, cadence.IsSlot slot → slot ≤ now

/-! ### The slots in nanoseconds -/

/-- Slots some seconds apart, counted in nanoseconds. -/
def slotsEvery (period offset : ℤ) (positive : 0 < period) : Slots ℤ where
  start slot := (slot * period + offset) * nanosPerSecond
  index nanos := (nanos / nanosPerSecond - offset) / period
  connection slot nanos := by
    rw [Int.le_ediv_iff_mul_le positive, le_sub_iff_add_le,
      Int.le_ediv_iff_mul_le (by decide)]
  increasing earlier later ordered := by
    have : earlier * period < later * period := Int.mul_lt_mul_of_pos_right ordered positive
    simp only [nanosPerSecond]
    omega

/-- The slots of an automatic cadence, with how far apart they are. -/
structure Automatic (cadence : SyncCadence) where
  /-- The hours between two slots. -/
  hours : ℤ
  periodHours : cadence.periodHours = some hours
  period : cadence.period = some (hours * 60 * 60)
  positive : 0 < hours * 60 * 60
  /-- The hours divide the day, and the first slot falls on the first of its periods. -/
  divides : (hours = 1 ∨ hours = 6 ∨ hours = 12) ∧ cadence.offsetHours = 0 ∨
    hours = 24 ∧ cadence.offsetHours = 6

/-- Every cadence but the manual one is grid. -/
theorem exists_automatic {cadence : SyncCadence} (due : cadence ≠ .manual) :
    Nonempty cadence.Automatic := by
  cases cadence with
  | hourly => exact ⟨⟨1, rfl, rfl, by decide, by decide⟩⟩
  | every6h => exact ⟨⟨6, rfl, rfl, by decide, by decide⟩⟩
  | every12h => exact ⟨⟨12, rfl, rfl, by decide, by decide⟩⟩
  | daily => exact ⟨⟨24, rfl, rfl, by decide, by decide⟩⟩
  | manual => exact absurd rfl due

namespace Automatic

variable {cadence : SyncCadence} (grid : cadence.Automatic)

/-- The slots of the cadence in nanoseconds. -/
def slots : Slots ℤ :=
  slotsEvery (grid.hours * 60 * 60) (cadence.offsetHours * 60 * 60) grid.positive

/-- The most recent slot is the last one, if it is representable. -/
theorem mostRecentSlot_eq (now : OffsetDateTime) :
    cadence.mostRecentSlot now = OffsetDateTime.ofNanos (grid.slots.recent now.nanos) := by
  simp only [mostRecentSlot, grid.periodHours]
  rfl

/-- The slot found is the last one. -/
theorem mostRecentSlot_eq_some {now slot : OffsetDateTime} :
    cadence.mostRecentSlot now = some slot ↔ slot.nanos = grid.slots.recent now.nanos := by
  rw [grid.mostRecentSlot_eq, OffsetDateTime.ofNanos_eq_some]

/-- The next slot found is the following one. -/
theorem nextSlot_eq_some {now next : OffsetDateTime} :
    cadence.nextSlot now = some next ↔
      (cadence.mostRecentSlot now).isSome ∧ next.nanos = grid.slots.following now.nanos := by
  -- A period in seconds leads from one slot to the one after it.
  have step : grid.slots.following now.nanos =
      grid.slots.recent now.nanos + grid.hours * 60 * 60 * nanosPerSecond := by
    simp only [slots, slotsEvery, Slots.recent, Slots.following]
    ring
  simp only [nextSlot, grid.period, Option.bind_eq_bind, Option.bind_some,
    Option.bind_eq_some_iff, OffsetDateTime.checkedAdd_eq_some, Option.isSome_iff_exists, step,
    grid.mostRecentSlot_eq_some]
  constructor
  · rintro ⟨slot, recent, later⟩
    exact ⟨⟨slot, recent⟩, recent ▸ later⟩
  · rintro ⟨⟨slot, recent⟩, later⟩
    exact ⟨slot, recent, recent ▸ later⟩

/-- The aligned instants are the starts of the slots. -/
theorem isSlot_iff {value : OffsetDateTime} :
    cadence.IsSlot value ↔ ∃ slot, value.nanos = grid.slots.start slot := by
  -- The hours divide the day, so a slot number is the number of periods before the instant.
  simp only [IsSlot, grid.periodHours, Option.some.injEq, exists_eq_left', slots, slotsEvery,
    OffsetDateTime.hour, OffsetDateTime.nanosOfDay, nanosPerDay, nanosPerSecond]
  rcases grid.divides with ⟨hours | hours | hours, offset⟩ | ⟨hours, offset⟩
  all_goals
    simp only [hours, offset]
    constructor
    · rintro ⟨onTheHour, due⟩
      refine ⟨value.nanos / (grid.hours * 60 * 60 * 10 ^ 9), ?_⟩
      rw [hours]
      omega
    · rintro ⟨slot, start⟩
      omega

/-- Time starts the first hours of the day before a slot, and less than a period before it. -/
theorem exists_first_slot : ∃ slot, grid.slots.start slot =
    firstInstant + cadence.offsetHours * (60 * 60 * nanosPerSecond) ∧
      grid.slots.start (slot - 1) < firstInstant := by
  -- The first slot is a whole number of days, and so of periods, from the start of 1970.
  refine ⟨(monthStart firstMonthIndex - epochDay) * (24 / grid.hours), ?_⟩
  simp only [firstInstant, slots, slotsEvery, nanosPerDay, nanosPerSecond]
  rcases grid.divides with ⟨hours | hours | hours, offset⟩ | ⟨hours, offset⟩
  all_goals
    rw [hours, offset]
    omega

/-- Only the hours of the first day before its first slot have no most recent slot. -/
theorem mostRecentSlot_eq_none (grid : cadence.Automatic) {now : OffsetDateTime} :
    cadence.mostRecentSlot now = none ↔
      now.nanos < firstInstant + cadence.offsetHours * (60 * 60 * nanosPerSecond) := by
  obtain ⟨slot, start, before⟩ := grid.exists_first_slot
  have notAfter := grid.slots.recent_le now.nanos
  have inRange := now.inRange
  rw [grid.mostRecentSlot_eq, OffsetDateTime.ofNanos_eq_none, ← start]
  constructor
  · intro missing
    by_contra reached
    have := grid.slots.start_le_recent.mpr (not_lt.mp reached)
    have : (0 : ℤ) ≤ cadence.offsetHours := by
      unfold offsetHours
      split <;> decide
    simp only [nanosPerSecond] at start
    omega
  · intro early
    -- The most recent slot comes before the first one.
    rcases grid.slots.recent_or_following now.nanos slot with recent | following
    · omega
    · have earlier : grid.slots.recent now.nanos ≤ grid.slots.start (slot - 1) := by
        refine grid.slots.increasing.monotone ?_
        have := grid.slots.connection.lt_iff_lt.mp early
        omega
      omega

/-- Two instants have the same most recent slot exactly when no slot separates them. -/
theorem separated (grid : cadence.Automatic) {earlier later : OffsetDateTime}
    (ordered : earlier ≤ later) :
    cadence.mostRecentSlot earlier = cadence.mostRecentSlot later ↔
      ¬∃ slot, cadence.IsSlot slot ∧ earlier < slot ∧ slot ≤ later := by
  have least := earlier.inRange.1
  have most := later.inRange.2
  have same := grid.slots.recent_eq_iff ordered
  have started := grid.slots.recent_le later.nanos
  constructor
  · rintro equal ⟨slot, aligned, after, before⟩
    obtain ⟨index, start⟩ := grid.isSlot_iff.mp aligned
    rw [OffsetDateTime.lt_def, start] at after
    rw [OffsetDateTime.le_def, start] at before
    -- The slot is representable, and the later instant's most recent one is not before it.
    have bound := grid.slots.start_le_recent.mpr before
    obtain ⟨recent, found⟩ : ∃ recent, cadence.mostRecentSlot later = some recent :=
      ⟨⟨grid.slots.recent later.nanos, by omega, by omega⟩,
        grid.mostRecentSlot_eq_some.mpr rfl⟩
    rw [found] at equal
    rw [grid.mostRecentSlot_eq_some] at found equal
    have := grid.slots.recent_le earlier.nanos
    omega
  · intro undivided
    rw [grid.mostRecentSlot_eq, grid.mostRecentSlot_eq]
    refine congrArg _ (same.mpr fun slot before => ?_)
    by_contra after
    rw [not_le] at after
    exact undivided ⟨⟨grid.slots.start slot, by omega, by omega⟩,
      grid.isSlot_iff.mpr ⟨slot, rfl⟩, after, before⟩

/-- Without a next slot there is no most recent one, or no representable slot is later. -/
theorem nextSlot_eq_none (grid : cadence.Automatic) {now : OffsetDateTime} :
    cadence.nextSlot now = none ↔ cadence.mostRecentSlot now = none ∨
      ∀ slot, cadence.IsSlot slot → slot ≤ now := by
  have later := grid.slots.lt_following now.nanos
  have inRange := now.inRange
  constructor
  · intro missing
    by_contra! present
    obtain ⟨present, slot, aligned, after⟩ := present
    obtain ⟨index, start⟩ := grid.isSlot_iff.mp aligned
    rw [OffsetDateTime.lt_def, start] at after
    -- The following slot is not after that slot, which is representable.
    have upper := slot.inRange.2
    rcases grid.slots.recent_or_following now.nanos index with recent | following
    · have := grid.slots.recent_le now.nanos
      omega
    · have found : cadence.nextSlot now =
          some ⟨grid.slots.following now.nanos, by omega, by omega⟩ :=
        grid.nextSlot_eq_some.mpr ⟨Option.isSome_iff_ne_none.mpr present, rfl⟩
      rw [missing] at found
      cases found
  · intro nothing
    by_contra present
    obtain ⟨next, found⟩ := Option.ne_none_iff_exists'.mp present
    obtain ⟨recent, start⟩ := grid.nextSlot_eq_some.mp found
    rcases nothing with missing | none_later
    · rw [missing] at recent
      cases recent
    · have := none_later next (grid.isSlot_iff.mpr ⟨_, start⟩)
      rw [OffsetDateTime.le_def, start] at this
      omega

end Automatic

/-- The slots of every cadence but the manual one partition time. -/
theorem partitionsTime {cadence : SyncCadence} (due : cadence ≠ .manual) :
    cadence.PartitionsTime := by
  obtain ⟨grid⟩ := exists_automatic due
  refine {
    recent := fun now slot found => ?_
    next := fun now slot found => ?_
    adjacent := fun now slot next other recent following aligned => ?_
    monotone := fun earlier later slot laterSlot ordered found laterFound => ?_
    separated := fun earlier later ordered => grid.separated ordered
    withoutRecent := fun now => ?_
    withoutNext := fun now => grid.nextSlot_eq_none }
  · rw [grid.mostRecentSlot_eq_some] at found
    refine ⟨grid.isSlot_iff.mpr ⟨_, found⟩, ?_, ?_⟩
    · rw [OffsetDateTime.le_def, found]
      exact grid.slots.recent_le now.nanos
    · rw [grid.mostRecentSlot_eq_some, found]
      exact (grid.slots.recent_recent now.nanos).symm
  · obtain ⟨-, following⟩ := grid.nextSlot_eq_some.mp found
    refine ⟨grid.isSlot_iff.mpr ⟨_, following⟩, ?_⟩
    rw [OffsetDateTime.lt_def, following]
    exact grid.slots.lt_following now.nanos
  · rw [grid.mostRecentSlot_eq_some] at recent
    obtain ⟨-, start⟩ := grid.nextSlot_eq_some.mp following
    obtain ⟨index, same⟩ := grid.isSlot_iff.mp aligned
    simp only [OffsetDateTime.le_def, recent, start, same]
    exact grid.slots.recent_or_following now.nanos index
  · rw [grid.mostRecentSlot_eq_some] at found laterFound
    rw [OffsetDateTime.le_def, found, laterFound]
    exact grid.slots.recent_mono ordered
  · rw [grid.mostRecentSlot_eq_none]
    -- Only the daily cadence has its first slot after the start of a day.
    unfold offsetHours
    split
    · rename_i daily
      simp only [daily, true_and, nanosPerSecond]
    · rename_i other
      have := now.inRange.1
      simp only [other, false_and, iff_false]
      omega

/-- The slots of the daily cadence partition time. -/
theorem partitionsTime_daily : SyncCadence.daily.PartitionsTime := partitionsTime (by decide)

/-- The start of time has no daily slot, and its end no next hour. -/
theorem slot_missing :
    SyncCadence.daily.mostRecentSlot ⟨firstInstant, by decide⟩ = none ∧
      SyncCadence.hourly.nextSlot ⟨endOfInstants - 1, by decide⟩ = none ∧
      ¬∀ cadence : SyncCadence, cadence ≠ .manual → ∀ now, ∃ slot next,
        cadence.mostRecentSlot now = some slot ∧ cadence.nextSlot now = some next ∧
          slot ≤ now ∧ now < next := by
  have early : SyncCadence.daily.mostRecentSlot ⟨firstInstant, by decide⟩ = none :=
    Option.isNone_iff_eq_none.mp (by decide)
  have late : SyncCadence.hourly.nextSlot ⟨endOfInstants - 1, by decide⟩ = none :=
    Option.isNone_iff_eq_none.mp (by decide)
  refine ⟨early, late, fun everywhere => ?_⟩
  obtain ⟨slot, -, found, -⟩ := everywhere .daily (by decide) ⟨firstInstant, by decide⟩
  rw [early] at found
  cases found

end SyncCadence

end FinStream
