import FinStream.Finance.Models
import Mathlib.Algebra.Ring.Divisibility.Basic

/-! Occurrences of a schedule within a window, and the slot each occurrence is stored under. -/

namespace FinStream

open Calendar Store

/-- The stable slot of one occurrence: its cadence period, relative to the anchor where weekly. -/
def projectionSlot (frequency : ScheduleFrequency) (anchor occurrence : IsoDate) : Slot :=
  match frequency with
  | .monthly => .monthly occurrence.year occurrence.month
  | .semimonthly =>
    .semimonthly occurrence.year occurrence.month (if occurrence.day = 15 then .mid else .end_)
  | .weekly => .weekly ((anchor.daysUntil occurrence).tdiv 7)
  | .biweekly => .biweekly ((anchor.daysUntil occurrence).tdiv 14)
  | .annual => .annual occurrence.year
  | .oneTime => .oneTime

/-- The dates a walk over the months keeps: those within the anchor and the window. -/
def withinRange (anchor from_ through candidate : IsoDate) : Bool :=
  anchor ≤ candidate && from_ ≤ candidate && candidate ≤ through

/-- Walks the months from the given first day while they start by the end of the window. -/
def monthWalk (candidates : IsoDate → Except DateError (List IsoDate)) (keep : IsoDate → Bool)
    (through : IsoDate) : ℕ → IsoDate → Except DateError (List IsoDate)
  | 0, _ => .error .arithmeticOverflow
  | fuel + 1, month =>
    if month ≤ through then do
      let found ← candidates month
      let next ← month.nextMonth
      let rest ← monthWalk candidates keep through fuel next
      pure (found.filter keep ++ rest)
    else pure []

/-- A month walk over a window needs one turn for each of its months and one to stop. -/
def monthFuel (from_ through : IsoDate) : ℕ := (through.monthIndex - from_.monthIndex).toNat + 2

/-- The monthly candidate: the given day, or the last day of a shorter month. -/
def monthlyCandidates (day : ℕ) (month : IsoDate) : Except DateError (List IsoDate) := do
  let candidate ← month.withDayClamped day
  pure [candidate]

/-- The semimonthly candidates: the fifteenth and the last day. -/
def semimonthlyCandidates (month : IsoDate) : Except DateError (List IsoDate) := do
  let mid ← month.withDayClamped 15
  let last ← month.lastOfMonth
  pure [mid, last]

/-- Steps a cursor forward by a fixed number of days until it passes the end of the window. -/
def stepWalk (step : ℤ) (through : IsoDate) : ℕ → IsoDate → Except DateError (List IsoDate)
  | 0, _ => .error .arithmeticOverflow
  | fuel + 1, cursor =>
    if cursor ≤ through then do
      let next ← cursor.addDays step
      let rest ← stepWalk step through fuel next
      pure (cursor :: rest)
    else pure []

/-- The first multiple of a number of days after the anchor that reaches the window. -/
def stepCursor (anchor from_ : IsoDate) (stepDays : ℤ) : Except DateError IsoDate :=
  if anchor < from_ then
    let distance := anchor.daysUntil from_
    let steps := (distance + stepDays - 1).tdiv stepDays
    anchor.addDays (steps * stepDays)
  else pure anchor

/-- The multiples of a fixed number of days after the anchor. -/
def stepOccurrences (anchor from_ through : IsoDate) (stepDays : ℤ) :
    Except DateError (List IsoDate) := do
  let cursor ← stepCursor anchor from_ stepDays
  stepWalk stepDays through ((cursor.daysUntil through).toNat + 2) cursor

/-- The anniversaries of the anchor in each of the given years. -/
def annualWalk (anchor : IsoDate) (keep : IsoDate → Bool) :
    List ℤ → Except DateError (List IsoDate)
  | [] => pure []
  | year :: years => do
    let candidate ← anchor.inYearClamped year
    let rest ← annualWalk anchor keep years
    pure (if keep candidate then candidate :: rest else rest)

/-- The years from the first to the last, both included. -/
def yearRange (first last : ℤ) : List ℤ :=
  (List.range (last + 1 - first).toNat).map fun offset : ℕ => first + (offset : ℤ)

/-- The occurrences of a schedule within a window, in the order the source produces them. -/
def scheduleOccurrences (frequency : ScheduleFrequency) (anchor from_ through : IsoDate)
    (dayOfMonth : Option ℕ) : Except FinanceError (List IsoDate) :=
  if through < from_ then .ok []
  else
    let keep := withinRange anchor from_ through
    match frequency with
    | .monthly => do
      let day ← required dayOfMonth (.storage "monthly schedule is missing a day of month")
      (monthWalk (monthlyCandidates day) keep through (monthFuel from_ through)
        from_.firstOfMonth).mapError .date
    | .semimonthly =>
      (monthWalk semimonthlyCandidates keep through (monthFuel from_ through)
        from_.firstOfMonth).mapError .date
    | .weekly => (stepOccurrences anchor from_ through 7).mapError .date
    | .biweekly => (stepOccurrences anchor from_ through 14).mapError .date
    | .annual => (annualWalk anchor keep (yearRange from_.year through.year)).mapError .date
    | .oneTime => .ok (if from_ ≤ anchor && anchor ≤ through then [anchor] else [])

/-- What a frequency means, without reference to a window: the dates on the cadence. -/
def OnCadence (frequency : ScheduleFrequency) (anchor : IsoDate) (dayOfMonth : Option ℕ)
    (date : IsoDate) : Prop :=
  match frequency with
  | .monthly => ∃ day, dayOfMonth = some day ∧
      date.day = max 1 (min (day : ℤ) (monthLength date.monthIndex))
  | .semimonthly => date.day = 15 ∨ date.day = monthLength date.monthIndex
  | .weekly => 7 ∣ anchor.daysUntil date
  | .biweekly => 14 ∣ anchor.daysUntil date
  | .annual => date.month = anchor.month ∧
      date.day = min anchor.day (monthLength date.monthIndex)
  | .oneTime => date = anchor

/-- Stepping from the first day of a month reaches the first day of the very next month. -/
theorem nextMonth_first {month next : IsoDate} (first : month.firstOfMonth = month)
    (stepped : month.nextMonth = .ok next) :
    next.firstOfMonth = next ∧ month ≤ next ∧
      ∀ at_ : IsoDate, at_.firstOfMonth = at_ → month ≤ at_ → at_ = month ∨ next ≤ at_ := by
  -- First days of months are compared through their month indices.
  have start := IsoDate.nextMonth_eq_ok.mp stepped
  have monthStart_ := congrArg IsoDate.dayNumber first
  simp only [IsoDate.firstOfMonth] at monthStart_
  have index : next.monthIndex = month.monthIndex + 1 := by
    have long := monthLength_bounds (month.monthIndex + 1)
    simp only [monthLength] at long
    exact IsoDate.monthIndex_of_mem (by omega) (by omega)
  refine ⟨IsoDate.ext (by simp only [IsoDate.firstOfMonth, index, start]), ?_, ?_⟩
  · rw [IsoDate.le_def, start, ← monthStart_]
    exact monthStart_strictMono.monotone (by omega)
  · intro at_ atFirst after
    have indices := IsoDate.monthIndex_mono after
    have atStart := congrArg IsoDate.dayNumber atFirst
    simp only [IsoDate.firstOfMonth] at atStart
    rcases eq_or_lt_of_le indices with same | later
    · left
      refine IsoDate.ext ?_
      rw [← atStart, ← monthStart_, same]
    · right
      rw [IsoDate.le_def, start, ← atStart]
      exact monthStart_strictMono.monotone (by omega)

section MonthWalk

variable {candidates : IsoDate → Except DateError (List IsoDate)} {keep : IsoDate → Bool}
  {through : IsoDate}

/-- A walk over the months collects the kept candidates of every month up to the end. -/
theorem mem_monthWalk (fuel : ℕ) (month : IsoDate) (first : month.firstOfMonth = month)
    {dates : List IsoDate} (walked : monthWalk candidates keep through fuel month = .ok dates)
    (date : IsoDate) :
    date ∈ dates ↔ ∃ at_ found, at_.firstOfMonth = at_ ∧ month ≤ at_ ∧ at_ ≤ through ∧
      candidates at_ = .ok found ∧ date ∈ found ∧ keep date = true := by
  -- The induction follows the loop; a later month is either the next one or after it.
  induction fuel generalizing month dates with
  | zero => simp [monthWalk] at walked
  | succ fuel ih =>
    simp only [monthWalk] at walked
    split at walked
    · rename_i before
      simp only [bind_eq_ok, pure_eq_ok] at walked
      obtain ⟨found, candidate, next, stepped, rest, walked, rfl⟩ := walked
      obtain ⟨nextFirst, below, split⟩ := nextMonth_first first stepped
      rw [List.mem_append, List.mem_filter, ih next nextFirst walked]
      constructor
      · rintro (⟨member, kept⟩ | ⟨at_, others, atFirst, after, rest⟩)
        · exact ⟨month, found, first, le_rfl, before, candidate, member, kept⟩
        · exact ⟨at_, others, atFirst, below.trans after, rest⟩
      · rintro ⟨at_, others, atFirst, after, until_, candidates_, member, kept⟩
        rcases split at_ atFirst after with rfl | later
        · rw [candidate, Except.ok.injEq] at candidates_
          exact .inl ⟨candidates_ ▸ member, kept⟩
        · exact .inr ⟨at_, others, atFirst, later, until_, candidates_, member, kept⟩
    · rename_i past
      simp only [pure_eq_ok] at walked
      subst walked
      simp only [List.not_mem_nil, false_iff]
      rintro ⟨at_, -, -, after, until_, -⟩
      exact past (after.trans until_)

/-- A walk that succeeds computed the candidates of every month up to the end. -/
theorem monthWalk_candidates (fuel : ℕ) (month : IsoDate) (first : month.firstOfMonth = month)
    {dates : List IsoDate} (walked : monthWalk candidates keep through fuel month = .ok dates)
    (at_ : IsoDate) (atFirst : at_.firstOfMonth = at_) (after : month ≤ at_)
    (until_ : at_ ≤ through) : ∃ found, candidates at_ = .ok found := by
  induction fuel generalizing month dates with
  | zero => simp [monthWalk] at walked
  | succ fuel ih =>
    simp only [monthWalk, if_pos (after.trans until_), bind_eq_ok] at walked
    obtain ⟨found, candidate, next, stepped, rest, walked, -⟩ := walked
    obtain ⟨nextFirst, -, split⟩ := nextMonth_first first stepped
    rcases split at_ atFirst after with rfl | later
    · exact ⟨found, candidate⟩
    · exact ih next nextFirst walked later

/-- A walk over a window finds exactly the kept dates among the candidates of their own months. -/
theorem mem_monthWalk_window {from_ : IsoDate} {dates : List IsoDate} {onCadence : IsoDate → Prop}
    (walked : monthWalk candidates keep through (monthFuel from_ through) from_.firstOfMonth
      = .ok dates)
    (meaning : ∀ month found, month.firstOfMonth = month → candidates month = .ok found →
      ∀ date, date ∈ found ↔ date.firstOfMonth = month ∧ onCadence date)
    (inside : ∀ date, keep date = true → from_ ≤ date ∧ date ≤ through) (date : IsoDate) :
    date ∈ dates ↔ keep date = true ∧ onCadence date := by
  have idempotent : ∀ date : IsoDate, date.firstOfMonth.firstOfMonth = date.firstOfMonth :=
    fun date => IsoDate.ext (congrArg monthStart date.monthIndex_firstOfMonth)
  rw [mem_monthWalk _ _ (idempotent from_) walked]
  constructor
  · rintro ⟨at_, found, first, -, -, candidate, member, kept⟩
    exact ⟨kept, ((meaning at_ found first candidate date).mp member).2⟩
  · -- The month of a kept date lies between the first month of the window and its end.
    rintro ⟨kept, cadence⟩
    obtain ⟨after, until_⟩ := inside date kept
    have started : date.firstOfMonth ≤ date := date.monthIndex_spec.1
    have fromMonth : from_.firstOfMonth ≤ date.firstOfMonth :=
      monthStart_strictMono.monotone (IsoDate.monthIndex_mono after)
    obtain ⟨found, candidate⟩ := monthWalk_candidates _ _ (idempotent from_) walked
      date.firstOfMonth (idempotent date) fromMonth (started.trans until_)
    exact ⟨date.firstOfMonth, found, idempotent date, fromMonth, started.trans until_, candidate,
      (meaning _ found (idempotent date) candidate date).mpr ⟨rfl, cadence⟩, kept⟩

end MonthWalk

/-- The monthly candidate of a month is its date on the monthly cadence. -/
theorem mem_monthlyCandidates {day : ℕ} {month : IsoDate} {found : List IsoDate}
    (first : month.firstOfMonth = month) (candidate : monthlyCandidates day month = .ok found)
    (date : IsoDate) : date ∈ found ↔ date.firstOfMonth = month ∧
      date.day = max 1 (min (day : ℤ) (monthLength date.monthIndex)) := by
  have long := monthLength_bounds month.monthIndex
  simp only [monthlyCandidates, bind_eq_ok, pure_eq_ok, IsoDate.withDayClamped_eq_ok] at candidate
  obtain ⟨clamped, ⟨-, number⟩, rfl⟩ := candidate
  rw [List.mem_singleton, IsoDate.ext_iff, number,
    IsoDate.dayNumber_eq_iff (by omega) (by omega), IsoDate.firstOfMonth_eq_iff first]
  exact and_congr_right fun same => by rw [same]

/-- The semimonthly candidates of a month are its fifteenth and its last day. -/
theorem mem_semimonthlyCandidates {month : IsoDate} {found : List IsoDate}
    (first : month.firstOfMonth = month) (candidate : semimonthlyCandidates month = .ok found)
    (date : IsoDate) : date ∈ found ↔ date.firstOfMonth = month ∧
      (date.day = 15 ∨ date.day = monthLength date.monthIndex) := by
  have long := monthLength_bounds month.monthIndex
  simp only [semimonthlyCandidates, bind_eq_ok, pure_eq_ok, IsoDate.withDayClamped_eq_ok,
    IsoDate.lastOfMonth_eq_ok] at candidate
  obtain ⟨mid, ⟨-, midNumber⟩, last, ⟨-, lastNumber⟩, rfl⟩ := candidate
  have fifteenth : max 1 (min 15 (monthLength month.monthIndex)) = 15 := by omega
  have lastDay : monthStart (month.monthIndex + 1) - 1 =
      monthStart month.monthIndex + monthLength month.monthIndex - 1 := by
    simp only [monthLength]
    omega
  rw [fifteenth] at midNumber
  rw [lastDay] at lastNumber
  rw [List.mem_cons, List.mem_singleton, IsoDate.ext_iff, IsoDate.ext_iff, midNumber, lastNumber,
    IsoDate.dayNumber_eq_iff (by omega) (by omega),
    IsoDate.dayNumber_eq_iff (by omega) le_rfl, ← and_or_left, IsoDate.firstOfMonth_eq_iff first]
  exact and_congr_right fun same => by rw [same]

/-- A step walk collects the multiples of the step from the cursor up to the end. -/
theorem mem_stepWalk {step : ℤ} (positive : 0 < step) {through : IsoDate} (fuel : ℕ)
    (cursor : IsoDate) {dates : List IsoDate}
    (walked : stepWalk step through fuel cursor = .ok dates) (date : IsoDate) :
    date ∈ dates ↔ cursor ≤ date ∧ date ≤ through ∧ step ∣ cursor.daysUntil date := by
  -- A multiple of the step is the cursor itself or a multiple counted from the next cursor.
  induction fuel generalizing cursor dates with
  | zero => simp [stepWalk] at walked
  | succ fuel ih =>
    simp only [stepWalk] at walked
    split at walked
    · rename_i before
      simp only [bind_eq_ok, pure_eq_ok, IsoDate.addDays_eq_ok] at walked
      obtain ⟨next, number, rest, walked, rfl⟩ := walked
      have shift : next.daysUntil date = cursor.daysUntil date - step := by
        simp only [IsoDate.daysUntil]
        omega
      rw [List.mem_cons, ih next walked, shift, dvd_sub_self_right]
      simp only [IsoDate.le_def, IsoDate.daysUntil] at *
      constructor
      · rintro (rfl | ⟨after, until_, divides⟩)
        · exact ⟨le_rfl, before, by simp⟩
        · exact ⟨by omega, until_, divides⟩
      · rintro ⟨after, until_, divides⟩
        rcases eq_or_lt_of_le after with same | later
        · exact .inl (IsoDate.ext same.symm)
        · have := Int.le_of_dvd (by omega) divides
          exact .inr ⟨by omega, until_, divides⟩
    · rename_i past
      simp only [pure_eq_ok] at walked
      subst walked
      simp only [List.not_mem_nil, false_iff]
      rintro ⟨after, until_, -⟩
      exact past (after.trans until_)

/-- Rounded up, a distance in steps covers the distance by less than one step more. -/
theorem roundedSteps_bounds {step distance : ℤ} (positive : 0 < step) (forward : 0 ≤ distance) :
    distance ≤ step * (distance + step - 1).tdiv step ∧
      step * (distance + step - 1).tdiv step < distance + step := by
  -- Toward zero or down is the same here, as nothing is negative.
  rw [Int.tdiv_eq_ediv_of_nonneg (by omega)]
  have lower := Int.lt_mul_ediv_self_add (x := distance + step - 1) positive
  have upper := Int.mul_ediv_self_le (x := distance + step - 1) positive.ne'
  omega

/-- The step cursor is the first multiple of the step on or after both anchor and window start. -/
theorem stepCursor_spec {step : ℤ} (positive : 0 < step) {anchor from_ cursor : IsoDate}
    (started : stepCursor anchor from_ step = .ok cursor) :
    ∃ steps : ℤ, cursor.dayNumber = anchor.dayNumber + step * steps ∧
      ∀ number : ℤ, step ∣ number - anchor.dayNumber →
        (cursor.dayNumber ≤ number ↔ anchor.dayNumber ≤ number ∧ from_.dayNumber ≤ number) := by
  unfold stepCursor at started
  split at started
  · -- The rounded-up quotient is the least number of steps that covers the distance.
    rename_i before
    simp only [IsoDate.lt_def] at before
    simp only [IsoDate.addDays_eq_ok, IsoDate.daysUntil] at started
    obtain ⟨lower, upper⟩ := roundedSteps_bounds positive (Int.sub_nonneg.mpr before.le)
    generalize (from_.dayNumber - anchor.dayNumber + step - 1).tdiv step = steps
      at started lower upper
    refine ⟨steps, by rw [started, mul_comm], ?_⟩
    rintro number ⟨count, multiple⟩
    rw [started, mul_comm steps step]
    constructor
    · intro reached
      omega
    · -- A smaller multiple would end before the window starts.
      rintro ⟨-, reached⟩
      by_contra short
      have fewer : count < steps := by
        by_contra more
        have := mul_le_mul_of_nonneg_left (Int.not_lt.mp more) positive.le
        omega
      have := mul_le_mul_of_nonneg_left (Int.le_sub_one_of_lt fewer) positive.le
      rw [mul_sub] at this
      omega
  · rename_i notBefore
    simp only [pure_eq_ok] at started
    subst started
    simp only [IsoDate.lt_def] at notBefore
    exact ⟨0, by simp, fun number _ => by omega⟩

/-- The step occurrences of a window are the multiples of the step from the anchor within it. -/
theorem mem_stepOccurrences {step : ℤ} (positive : 0 < step) {anchor from_ through : IsoDate}
    {dates : List IsoDate} (stepped : stepOccurrences anchor from_ through step = .ok dates)
    (date : IsoDate) : date ∈ dates ↔ (anchor ≤ date ∧ from_ ≤ date ∧ date ≤ through) ∧
      step ∣ anchor.daysUntil date := by
  simp only [stepOccurrences, bind_eq_ok] at stepped
  obtain ⟨cursor, started, walked⟩ := stepped
  obtain ⟨steps, number, reached⟩ := stepCursor_spec positive started
  rw [mem_stepWalk positive _ _ walked]
  have shift : cursor.daysUntil date = anchor.daysUntil date - step * steps := by
    simp only [IsoDate.daysUntil]
    omega
  rw [shift, dvd_sub_left (Dvd.intro _ rfl)]
  simp only [IsoDate.daysUntil, IsoDate.le_def]
  constructor
  · rintro ⟨after, until_, divides⟩
    obtain ⟨anchored, within⟩ := (reached _ divides).mp after
    exact ⟨⟨anchored, within, until_⟩, divides⟩
  · rintro ⟨⟨anchored, within, until_⟩, divides⟩
    exact ⟨(reached _ divides).mpr ⟨anchored, within⟩, until_, divides⟩

/-- An annual walk collects the kept anniversaries of the given years. -/
theorem mem_annualWalk {anchor : IsoDate} {keep : IsoDate → Bool} (years : List ℤ)
    {dates : List IsoDate} (walked : annualWalk anchor keep years = .ok dates) (date : IsoDate) :
    date ∈ dates ↔ keep date = true ∧ date.year ∈ years ∧ date.month = anchor.month ∧
      date.day = min anchor.day (monthLength date.monthIndex) := by
  induction years generalizing dates with
  | nil =>
    simp only [annualWalk, pure_eq_ok] at walked
    subst walked
    simp
  | cons year years ih =>
    simp only [annualWalk, bind_eq_ok, pure_eq_ok, IsoDate.inYearClamped_eq_ok] at walked
    obtain ⟨candidate, ⟨-, -, number⟩, rest, walked, rfl⟩ := walked
    have months := anchor.month_bounds
    have days := anchor.day_bounds
    have long := monthLength_bounds (12 * year + (anchor.month - 1))
    -- The candidate of a year is the date of that year on the cadence.
    have meaning : date = candidate ↔ date.year = year ∧ date.month = anchor.month ∧
        date.day = min anchor.day (monthLength date.monthIndex) := by
      rw [IsoDate.ext_iff, number, IsoDate.dayNumber_eq_iff (by omega) (by omega), ← and_assoc,
        ← IsoDate.monthIndex_eq_iff months.1 months.2]
      exact and_congr_right fun same => by rw [same]
    have tail := ih walked
    rw [List.mem_cons, or_and_right, and_or_left, ← meaning, ← tail]
    split
    · rename_i kept
      rw [List.mem_cons]
      refine or_congr_left ⟨?_, And.right⟩
      rintro rfl
      exact ⟨kept, rfl⟩
    · rename_i dropped
      constructor
      · exact .inr
      · rintro (⟨kept, rfl⟩ | member)
        · exact absurd kept dropped
        · exact member

/-- The years of a range are those between its ends. -/
theorem mem_yearRange {first last year : ℤ} :
    year ∈ yearRange first last ↔ first ≤ year ∧ year ≤ last := by
  simp only [yearRange, List.mem_map, List.mem_range]
  constructor
  · rintro ⟨offset, below, rfl⟩
    omega
  · rintro ⟨lower, upper⟩
    exact ⟨(year - first).toNat, by omega, by omega⟩

/-- Later dates never fall in earlier years. -/
theorem year_mono {left right : IsoDate} (ordered : left ≤ right) : left.year ≤ right.year := by
  have := IsoDate.monthIndex_mono ordered
  simp only [IsoDate.year]
  omega

/-- The occurrences of a window are exactly the dates on the cadence within window and anchor. -/
theorem mem_scheduleOccurrences {frequency : ScheduleFrequency} {anchor from_ through : IsoDate}
    {dayOfMonth : Option ℕ} {dates : List IsoDate}
    (found : scheduleOccurrences frequency anchor from_ through dayOfMonth = .ok dates)
    (date : IsoDate) : date ∈ dates ↔ (anchor ≤ date ∧ from_ ≤ date ∧ date ≤ through) ∧
      OnCadence frequency anchor dayOfMonth date := by
  have inside : ∀ date, withinRange anchor from_ through date = true →
      from_ ≤ date ∧ date ≤ through := by
    intro date kept
    simp only [withinRange, Bool.and_eq_true, decide_eq_true_eq] at kept
    exact ⟨kept.1.2, kept.2⟩
  have range : withinRange anchor from_ through date = true ↔
      anchor ≤ date ∧ from_ ≤ date ∧ date ≤ through := by
    simp only [withinRange, Bool.and_eq_true, decide_eq_true_eq, and_assoc]
  unfold scheduleOccurrences at found
  split at found
  · -- An empty window has no dates at all.
    rename_i empty
    simp only [Except.ok.injEq] at found
    subst found
    simp only [List.not_mem_nil, false_iff]
    rintro ⟨⟨-, after, until_⟩, -⟩
    exact absurd (after.trans until_) (not_le.mpr empty)
  · cases frequency with
    | monthly =>
      simp only [bind_eq_ok, required_eq_ok, mapError_eq_ok] at found
      obtain ⟨day, given, walked⟩ := found
      rw [mem_monthWalk_window walked
        (fun month found first candidate => mem_monthlyCandidates first candidate) inside, range]
      simp only [OnCadence, given, Option.some.injEq, exists_eq_left']
    | semimonthly =>
      simp only [mapError_eq_ok] at found
      rw [mem_monthWalk_window found
        (fun month found first candidate => mem_semimonthlyCandidates first candidate) inside,
        range]
      rfl
    | weekly =>
      simp only [mapError_eq_ok] at found
      exact mem_stepOccurrences (by omega) found date
    | biweekly =>
      simp only [mapError_eq_ok] at found
      exact mem_stepOccurrences (by omega) found date
    | annual =>
      simp only [mapError_eq_ok] at found
      rw [mem_annualWalk _ found, range, mem_yearRange]
      refine and_congr_right fun bounds => ?_
      exact and_iff_right ⟨year_mono bounds.2.1, year_mono bounds.2.2⟩
    | oneTime =>
      simp only [Except.ok.injEq] at found
      subst found
      simp only [OnCadence]
      split
      · rename_i kept
        simp only [Bool.and_eq_true, decide_eq_true_eq] at kept
        rw [List.mem_singleton]
        constructor
        · rintro rfl
          exact ⟨⟨le_rfl, kept⟩, rfl⟩
        · exact And.right
      · rename_i outside
        simp only [Bool.and_eq_true, decide_eq_true_eq] at outside
        simp only [List.not_mem_nil, false_iff]
        rintro ⟨⟨-, bounds⟩, rfl⟩
        exact outside bounds

/-- Two dates on one cadence never share a slot. -/
theorem projectionSlot_injective {frequency : ScheduleFrequency} {anchor left right : IsoDate}
    {dayOfMonth : Option ℕ} (leftOn : OnCadence frequency anchor dayOfMonth left)
    (rightOn : OnCadence frequency anchor dayOfMonth right)
    (same : projectionSlot frequency anchor left = projectionSlot frequency anchor right) :
    left = right := by
  -- A slot names the month or the number of steps, and the cadence then names the day.
  cases frequency with
  | monthly =>
    simp only [projectionSlot, Slot.monthly.injEq] at same
    obtain ⟨leftDay, given, leftOn⟩ := leftOn
    obtain ⟨rightDay, given', rightOn⟩ := rightOn
    obtain rfl := Option.some.inj (given.symm.trans given')
    have months : left.monthIndex = right.monthIndex := by
      rw [left.monthIndex_eq, right.monthIndex_eq, same.1, same.2]
    exact IsoDate.ext_month_day months (by rw [leftOn, rightOn, months])
  | semimonthly =>
    simp only [projectionSlot, Slot.semimonthly.injEq] at same
    obtain ⟨years, monthsOfYear, halves⟩ := same
    have months : left.monthIndex = right.monthIndex := by
      rw [left.monthIndex_eq, right.monthIndex_eq, years, monthsOfYear]
    refine IsoDate.ext_month_day months ?_
    -- The last day of a month is never its fifteenth.
    have long := monthLength_bounds right.monthIndex
    simp only [OnCadence, months] at leftOn rightOn
    split at halves <;> split at halves <;> simp at halves <;> omega
  | weekly | biweekly =>
    simp only [projectionSlot, Slot.weekly.injEq, Slot.biweekly.injEq] at same
    obtain ⟨leftSteps, leftOn⟩ := leftOn
    obtain ⟨rightSteps, rightOn⟩ := rightOn
    rw [leftOn, rightOn, Int.mul_tdiv_cancel_left _ (by decide),
      Int.mul_tdiv_cancel_left _ (by decide)] at same
    refine IsoDate.ext ?_
    simp only [IsoDate.daysUntil] at leftOn rightOn
    omega
  | annual =>
    simp only [projectionSlot, Slot.annual.injEq] at same
    obtain ⟨leftMonth, leftDay⟩ := leftOn
    obtain ⟨rightMonth, rightDay⟩ := rightOn
    have months : left.monthIndex = right.monthIndex := by
      rw [left.monthIndex_eq, right.monthIndex_eq, same, leftMonth, rightMonth]
    exact IsoDate.ext_month_day months (by rw [leftDay, rightDay, months])
  | oneTime =>
    simp only [OnCadence] at leftOn rightOn
    rw [leftOn, rightOn]

end FinStream
