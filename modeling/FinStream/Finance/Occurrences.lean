import FinStream.Finance.Schedule

/-! Every window before the end of the calendar has its occurrences, but for one kind of schedule. -/

namespace FinStream

open Calendar Store

/-- What a walk over dates is expected to find: some dates, in ascending order, from a start on. -/
structure Ascends (start : IsoDate) (dates : List IsoDate) : Prop where
  sorted : dates.Pairwise (· < ·)
  after : ∀ date ∈ dates, start ≤ date

/-- A window that ends before the last representable month. -/
def EndsInTime (through : IsoDate) : Prop := through.monthIndex < lastMonthIndex

/-! ### Walks over the months -/

/-- A month before the last one has a next month. -/
theorem nextMonth_ok {month : IsoDate} (before : month.monthIndex < lastMonthIndex) :
    ∃ next, month.nextMonth = .ok next ∧ next.monthIndex = month.monthIndex + 1 := by
  have lower := month.monthIndex_bounds.1
  -- The day that starts the next month is a date, as that month has days.
  have longer : monthStart (month.monthIndex + 1) < monthStart (month.monthIndex + 1 + 1) :=
    monthStart_strictMono (by omega)
  obtain ⟨next, number⟩ := IsoDate.exists_of_month (by omega) (by omega) le_rfl longer
  exact ⟨next, IsoDate.nextMonth_eq_ok.mpr number,
    IsoDate.monthIndex_of_mem (by omega) (by omega)⟩

/-- A walk over the months succeeds and ascends when its candidates do within each month. -/
theorem monthWalk_ascends {candidates : IsoDate → Except DateError (List IsoDate)}
    {keep : IsoDate → Bool} {through : IsoDate} (inTime : EndsInTime through)
    (monthly : ∀ month : IsoDate, month.firstOfMonth = month → month.monthIndex < lastMonthIndex →
      ∃ found, candidates month = .ok found ∧ found.Pairwise (· < ·) ∧
        ∀ date ∈ found, date.firstOfMonth = month)
    (fuel : ℕ) (month : IsoDate) (first : month.firstOfMonth = month)
    (enough : through.monthIndex - month.monthIndex + 1 < fuel) (turn : 0 < fuel) :
    ∃ dates, monthWalk candidates keep through fuel month = .ok dates ∧ Ascends month dates := by
  -- The induction follows the loop; each turn moves one month closer to the end of the window.
  induction fuel generalizing month with
  | zero => exact absurd turn (Nat.lt_irrefl 0)
  | succ fuel ih =>
    simp only [monthWalk]
    split
    · rename_i inside
      have ordered := IsoDate.monthIndex_mono inside
      have before : month.monthIndex < lastMonthIndex := by
        rw [EndsInTime] at inTime
        omega
      obtain ⟨found, candidate, sorted, within⟩ := monthly month first before
      obtain ⟨next, stepped, index⟩ := nextMonth_ok before
      obtain ⟨nextFirst, below, -⟩ := nextMonth_first first stepped
      obtain ⟨rest, walked, ascends⟩ := ih next nextFirst (by omega) (by omega)
      refine ⟨found.filter keep ++ rest, ?_, ?_, ?_⟩
      · simp only [bind_eq_ok, pure_eq_ok]
        exact ⟨found, candidate, next, stepped, rest, walked, rfl⟩
      · -- The candidates of a month come before the next month starts.
        refine List.pairwise_append.mpr ⟨sorted.filter _, ascends.sorted, ?_⟩
        intro early earlyFound late lateFound
        have inMonth := within early (List.mem_filter.mp earlyFound).1
        have later := ascends.after late lateFound
        have number := IsoDate.nextMonth_eq_ok.mp stepped
        have ends := early.monthIndex_spec.2
        rw [(IsoDate.firstOfMonth_eq_iff first).mp inMonth] at ends
        simp only [IsoDate.le_def, IsoDate.lt_def] at later ⊢
        omega
      · intro date member
        rcases List.mem_append.mp member with here | later
        · have inMonth := within date (List.mem_filter.mp here).1
          rw [← inMonth]
          exact date.monthIndex_spec.1
        · exact below.trans (ascends.after date later)
    · exact ⟨[], rfl, List.Pairwise.nil, fun _ member => absurd member List.not_mem_nil⟩

/-- A walk over the months of a window succeeds and ascends. -/
theorem monthWalk_window {candidates : IsoDate → Except DateError (List IsoDate)}
    {keep : IsoDate → Bool} {from_ through : IsoDate} (inTime : EndsInTime through)
    (monthly : ∀ month : IsoDate, month.firstOfMonth = month → month.monthIndex < lastMonthIndex →
      ∃ found, candidates month = .ok found ∧ found.Pairwise (· < ·) ∧
        ∀ date ∈ found, date.firstOfMonth = month) :
    ∃ dates, monthWalk candidates keep through (monthFuel from_ through) from_.firstOfMonth =
      .ok dates ∧ dates.Pairwise (· < ·) := by
  -- The fuel is one turn for each month of the window, and one to stop.
  have first : from_.firstOfMonth.firstOfMonth = from_.firstOfMonth :=
    IsoDate.ext (congrArg monthStart from_.monthIndex_firstOfMonth)
  have index := from_.monthIndex_firstOfMonth
  obtain ⟨dates, walked, ascends⟩ : ∃ dates, monthWalk candidates keep through
      (monthFuel from_ through) from_.firstOfMonth = .ok dates ∧
        Ascends from_.firstOfMonth dates := by
    refine monthWalk_ascends inTime monthly _ _ first ?_ ?_
    · rw [monthFuel]
      omega
    · rw [monthFuel]
      omega
  exact ⟨dates, walked, ascends.sorted⟩

/-- The day of a month is found in every month but the last. -/
theorem withDayClamped_ok {month : IsoDate} (day : ℤ)
    (before : month.monthIndex < lastMonthIndex) :
    ∃ clamped, month.withDayClamped day = .ok clamped := by
  -- No month is empty, so clamping keeps the day inside it.
  have long := monthLength_bounds month.monthIndex
  obtain ⟨clamped, number⟩ := IsoDate.exists_of_month month.monthIndex_bounds.1 (by omega)
    (show monthStart month.monthIndex ≤
      monthStart month.monthIndex + max 1 (min day (monthLength month.monthIndex)) - 1 by omega)
    (by simp only [monthLength] at long ⊢; omega)
  exact ⟨clamped, IsoDate.withDayClamped_eq_ok.mpr ⟨before, number⟩⟩

/-- The last day of a month is found in every month but the last. -/
theorem lastOfMonth_ok {month : IsoDate} (before : month.monthIndex < lastMonthIndex) :
    ∃ last, month.lastOfMonth = .ok last := by
  have long := monthLength_bounds month.monthIndex
  simp only [monthLength] at long
  obtain ⟨last, number⟩ := IsoDate.exists_of_month month.monthIndex_bounds.1 (by omega)
    (show monthStart month.monthIndex ≤ monthStart (month.monthIndex + 1) - 1 by omega) (by omega)
  exact ⟨last, IsoDate.lastOfMonth_eq_ok.mpr ⟨before, number⟩⟩

/-- The monthly candidates of a month. -/
theorem monthlyCandidates_ascend (day : ℕ) (month : IsoDate) (first : month.firstOfMonth = month)
    (before : month.monthIndex < lastMonthIndex) :
    ∃ found, monthlyCandidates day month = .ok found ∧ found.Pairwise (· < ·) ∧
      ∀ date ∈ found, date.firstOfMonth = month := by
  -- One date is the candidate, and it lies in its month.
  obtain ⟨clamped, placed⟩ := withDayClamped_ok day before
  have candidate : monthlyCandidates day month = .ok [clamped] := by
    simp only [monthlyCandidates, bind_eq_ok, pure_eq_ok]
    exact ⟨clamped, placed, rfl⟩
  exact ⟨[clamped], candidate, List.pairwise_singleton _ _,
    fun date member => ((mem_monthlyCandidates first candidate date).mp member).1⟩

/-- The semimonthly candidates of a month: no month ends on its fifteenth. -/
theorem semimonthlyCandidates_ascend (month : IsoDate) (first : month.firstOfMonth = month)
    (before : month.monthIndex < lastMonthIndex) :
    ∃ found, semimonthlyCandidates month = .ok found ∧ found.Pairwise (· < ·) ∧
      ∀ date ∈ found, date.firstOfMonth = month := by
  have long := monthLength_bounds month.monthIndex
  -- The fifteenth comes before the last day, as every month has at least 28.
  obtain ⟨mid, placed⟩ := withDayClamped_ok 15 before
  obtain ⟨last, ended⟩ := lastOfMonth_ok before
  have candidate : semimonthlyCandidates month = .ok [mid, last] := by
    simp only [semimonthlyCandidates, bind_eq_ok, pure_eq_ok]
    exact ⟨mid, placed, last, ended, rfl⟩
  refine ⟨[mid, last], candidate, List.pairwise_pair.mpr ?_,
    fun date member => ((mem_semimonthlyCandidates first candidate date).mp member).1⟩
  rw [IsoDate.lt_def, (IsoDate.withDayClamped_eq_ok.mp placed).2,
    (IsoDate.lastOfMonth_eq_ok.mp ended).2]
  simp only [monthLength] at long ⊢
  omega

/-! ### Steps of days -/

/-- A date can be moved on by less than a month when its own month is not the last one. -/
theorem addDays_ok {date : IsoDate} {days : ℤ} (inTime : EndsInTime date) (forward : 0 ≤ days)
    (short : days ≤ 28) : ∃ moved, date.addDays days = .ok moved := by
  -- The date is still in the month after its own, which is long enough and is in the calendar.
  have ends := date.monthIndex_spec.2
  have start := date.inRange.1
  have long := monthLength_bounds (date.monthIndex + 1)
  have last : monthStart (date.monthIndex + 1 + 1) ≤ monthStart (lastMonthIndex + 1) := by
    rw [EndsInTime] at inTime
    exact monthStart_strictMono.monotone (by omega)
  simp only [monthLength] at long
  exact ⟨⟨date.dayNumber + days, by omega, by omega⟩, IsoDate.addDays_eq_ok.mpr rfl⟩

/-- Dates before one that ends in time do, too. -/
theorem EndsInTime.of_le {date through : IsoDate} (inTime : EndsInTime through)
    (ordered : date ≤ through) : EndsInTime date :=
  lt_of_le_of_lt (IsoDate.monthIndex_mono ordered) inTime

/-- A walk in steps of days succeeds and ascends. -/
theorem stepWalk_ascends {step : ℤ} (positive : 0 < step) (short : step ≤ 28) {through : IsoDate}
    (inTime : EndsInTime through) (fuel : ℕ) (cursor : IsoDate)
    (enough : cursor.daysUntil through + 1 < fuel) (turn : 0 < fuel) :
    ∃ dates, stepWalk step through fuel cursor = .ok dates ∧ Ascends cursor dates := by
  -- Each turn moves the cursor at least one day closer to the end of the window.
  induction fuel generalizing cursor with
  | zero => exact absurd turn (Nat.lt_irrefl 0)
  | succ fuel ih =>
    simp only [stepWalk]
    split
    · rename_i inside
      obtain ⟨next, moved⟩ := addDays_ok (inTime.of_le inside) positive.le short
      have number := IsoDate.addDays_eq_ok.mp moved
      simp only [IsoDate.daysUntil, IsoDate.le_def] at enough inside
      obtain ⟨rest, walked, ascends⟩ := ih next (by simp only [IsoDate.daysUntil]; omega) (by omega)
      have later : ∀ date ∈ rest, cursor < date := by
        intro date member
        have reached := ascends.after date member
        simp only [IsoDate.le_def, IsoDate.lt_def] at reached ⊢
        omega
      refine ⟨cursor :: rest, ?_, List.pairwise_cons.mpr ⟨later, ascends.sorted⟩, ?_⟩
      · simp only [bind_eq_ok, pure_eq_ok]
        exact ⟨next, moved, rest, walked, rfl⟩
      · intro date member
        rcases List.mem_cons.mp member with rfl | inRest
        · exact le_rfl
        · exact (later date inRest).le
    · exact ⟨[], rfl, List.Pairwise.nil, fun _ member => absurd member List.not_mem_nil⟩

/-- The first step into a window is less than one step behind its start. -/
theorem stepCursor_ok {step : ℤ} (positive : 0 < step) (short : step ≤ 28)
    {anchor from_ : IsoDate} (inTime : EndsInTime from_) :
    ∃ cursor, stepCursor anchor from_ step = .ok cursor := by
  unfold stepCursor
  split
  · rename_i before
    simp only [IsoDate.lt_def] at before
    simp only [IsoDate.daysUntil]
    obtain ⟨lower, upper⟩ := roundedSteps_bounds positive (Int.sub_nonneg.mpr before.le)
    generalize (from_.dayNumber - anchor.dayNumber + step - 1).tdiv step = steps at lower upper ⊢
    -- The same date is reached from the start of the window, by less than a step.
    obtain ⟨moved, reached⟩ : ∃ moved, from_.addDays
        (anchor.dayNumber + step * steps - from_.dayNumber) = .ok moved :=
      addDays_ok inTime (by omega) (by omega)
    refine ⟨moved, IsoDate.addDays_eq_ok.mpr ?_⟩
    rw [IsoDate.addDays_eq_ok.mp reached, mul_comm steps step]
    omega
  · exact ⟨anchor, rfl⟩

/-- The steps of a window are found and ascend. -/
theorem stepOccurrences_ascend {step : ℤ} (positive : 0 < step) (short : step ≤ 28)
    {anchor from_ through : IsoDate} (ordered : from_ ≤ through) (inTime : EndsInTime through) :
    ∃ dates, stepOccurrences anchor from_ through step = .ok dates ∧ dates.Pairwise (· < ·) := by
  -- The walk starts at the cursor, with fuel for every day up to the end of the window.
  obtain ⟨cursor, started⟩ : ∃ cursor, stepCursor anchor from_ step = .ok cursor :=
    stepCursor_ok positive short (inTime.of_le ordered)
  obtain ⟨dates, walked, ascends⟩ := stepWalk_ascends positive short inTime
    ((cursor.daysUntil through).toNat + 2) cursor (by omega) (by omega)
  refine ⟨dates, ?_, ascends.sorted⟩
  simp only [stepOccurrences, bind_eq_ok]
  exact ⟨cursor, started, walked⟩

/-! ### Anniversaries -/

/-- An anniversary exists in every year but for the last December. -/
theorem inYearClamped_ok {anchor : IsoDate} {year : ℤ} (lower : -9999 ≤ year) (upper : year ≤ 9999) :
    (∃ moved, anchor.inYearClamped year = .ok moved) ↔ ¬(anchor.month = 12 ∧ year = 9999) := by
  have months := anchor.month_bounds
  have days := anchor.day_bounds
  have long := monthLength_bounds (12 * year + (anchor.month - 1))
  constructor
  · -- The day after the last December is not in the calendar, and finding its end asks for it.
    rintro ⟨moved, placed⟩ ⟨december, last⟩
    have before := (IsoDate.inYearClamped_eq_ok.mp placed).2.1
    rw [december, last] at before
    exact absurd before (by decide)
  · intro notLast
    have first : firstMonthIndex ≤ 12 * year + (anchor.month - 1) := by
      rw [firstMonthIndex]
      omega
    have before : 12 * year + (anchor.month - 1) < lastMonthIndex := by
      rw [lastMonthIndex]
      omega
    obtain ⟨moved, number⟩ := IsoDate.exists_of_month first before.le
      (show monthStart (12 * year + (anchor.month - 1)) ≤ monthStart (12 * year + (anchor.month - 1))
        + min anchor.day (monthLength (12 * year + (anchor.month - 1))) - 1 by omega)
      (by simp only [monthLength] at long ⊢; omega)
    exact ⟨moved, IsoDate.inYearClamped_eq_ok.mpr ⟨first, before, number⟩⟩

/-- The years of a range ascend. -/
theorem yearRange_sorted (first last : ℤ) : (yearRange first last).Pairwise (· < ·) := by
  -- They are one year after another.
  rw [yearRange, List.pairwise_map]
  exact List.pairwise_lt_range.imp fun below => by omega

/-- A walk over the years succeeds when every year has an anniversary, and then it ascends. -/
theorem annualWalk_ascends {anchor : IsoDate} {keep : IsoDate → Bool} (years : List ℤ)
    (sorted : years.Pairwise (· < ·))
    (placed : ∀ year ∈ years, ∃ moved, anchor.inYearClamped year = .ok moved) :
    ∃ dates, annualWalk anchor keep years = .ok dates ∧ dates.Pairwise (· < ·) := by
  induction years with
  | nil => exact ⟨[], rfl, List.Pairwise.nil⟩
  | cons year years ih =>
    -- The first year has an anniversary, which the filter may drop; the rest is the induction.
    obtain ⟨later, sorted⟩ := List.pairwise_cons.mp sorted
    obtain ⟨candidate, moved⟩ := placed year List.mem_cons_self
    obtain ⟨rest, walked, ascends⟩ := ih sorted fun other member =>
      placed other (List.mem_cons_of_mem _ member)
    refine ⟨if keep candidate then candidate :: rest else rest, ?_, ?_⟩
    · simp only [annualWalk, bind_eq_ok, pure_eq_ok]
      exact ⟨candidate, moved, rest, walked, rfl⟩
    · split
      · refine List.pairwise_cons.mpr ⟨fun date member => ?_, ascends⟩
        -- The other anniversaries fall in later years.
        have inYears := ((mem_annualWalk years walked date).mp member).2.1
        have months := anchor.month_bounds
        have days := anchor.day_bounds
        have long := monthLength_bounds (12 * year + (anchor.month - 1))
        have own : candidate.year = year :=
          ((IsoDate.monthIndex_eq_iff months.1 months.2).mp ((IsoDate.dayNumber_eq_iff (by omega)
            (by omega)).mp (IsoDate.inYearClamped_eq_ok.mp moved).2.2).1).1
        refine not_le.mp fun reversed => ?_
        have ordered := year_mono reversed
        have below := later date.year inYears
        omega
      · exact ascends

/-- A walk over the years fails when some year has no anniversary. -/
theorem annualWalk_placed {anchor : IsoDate} {keep : IsoDate → Bool} (years : List ℤ)
    {dates : List IsoDate} (walked : annualWalk anchor keep years = .ok dates) :
    ∀ year ∈ years, ∃ moved, anchor.inYearClamped year = .ok moved := by
  induction years generalizing dates with
  | nil => exact fun _ member => absurd member List.not_mem_nil
  | cons year years ih =>
    simp only [annualWalk, bind_eq_ok, pure_eq_ok] at walked
    obtain ⟨candidate, moved, rest, walked, -⟩ := walked
    intro other member
    rcases List.mem_cons.mp member with rfl | later
    · exact ⟨candidate, moved⟩
    · exact ih walked other later

/-! ### The specification -/

/-- The occurrences of a window are found, ascend, and are exactly its dates on the cadence. -/
def MeetsSpec (frequency : ScheduleFrequency) (anchor from_ through : IsoDate)
    (dayOfMonth : Option ℕ) : Prop :=
  ∃ dates, scheduleOccurrences frequency anchor from_ through dayOfMonth = .ok dates ∧
    dates.Pairwise (· < ·) ∧
    ∀ date, date ∈ dates ↔ (from_ ≤ date ∧ date ≤ through ∧ anchor ≤ date) ∧
      OnCadence frequency anchor dayOfMonth date

/-- Occurrences that are found and ascend meet the specification. -/
theorem MeetsSpec.of_found {frequency : ScheduleFrequency} {anchor from_ through : IsoDate}
    {dayOfMonth : Option ℕ} {dates : List IsoDate}
    (found : scheduleOccurrences frequency anchor from_ through dayOfMonth = .ok dates)
    (sorted : dates.Pairwise (· < ·)) : MeetsSpec frequency anchor from_ through dayOfMonth := by
  refine ⟨dates, found, sorted, fun date => ?_⟩
  -- Which dates are found is known already, up to the order of the bounds.
  rw [mem_scheduleOccurrences found]
  exact and_congr_left fun _ => ⟨fun bounds => ⟨bounds.2.1, bounds.2.2, bounds.1⟩,
    fun bounds => ⟨bounds.2.2, bounds.1, bounds.2.1⟩⟩

/-- The years of a window that ends before the last month. -/
theorem year_bounds (date : IsoDate) : -9999 ≤ date.year ∧ date.year ≤ 9999 := by
  have bounds := date.monthIndex_bounds
  simp only [firstMonthIndex, lastMonthIndex] at bounds
  simp only [IsoDate.year]
  omega

/--
The occurrences of every window before December 9999 meet their specification, but for yearly
schedules anchored in a December whose window reaches into the year 9999.
-/
theorem scheduleOccurrences_meets {frequency : ScheduleFrequency}
    {anchor from_ through : IsoDate} {dayOfMonth : Option ℕ} (ordered : from_ ≤ through)
    (inTime : EndsInTime through) (given : frequency = .monthly → dayOfMonth.isSome = true) :
    MeetsSpec frequency anchor from_ through dayOfMonth ↔
      ¬(frequency = .annual ∧ anchor.month = 12 ∧ through.year = 9999) := by
  have open_ : ¬through < from_ := not_lt.mpr ordered
  cases frequency with
  | monthly =>
    -- One candidate a month, and a month has its clamped day.
    obtain ⟨day, here⟩ := Option.isSome_iff_exists.mp (given rfl)
    obtain ⟨dates, walked, sorted⟩ : ∃ dates, monthWalk (monthlyCandidates day)
        (withinRange anchor from_ through) through (monthFuel from_ through) from_.firstOfMonth =
          .ok dates ∧ dates.Pairwise (· < ·) :=
      monthWalk_window inTime (monthlyCandidates_ascend day)
    refine iff_of_true (.of_found ?_ sorted) (by simp)
    simp only [scheduleOccurrences, if_neg open_, bind_eq_ok, required_eq_ok, mapError_eq_ok]
    exact ⟨day, here, walked⟩
  | semimonthly =>
    obtain ⟨dates, walked, sorted⟩ : ∃ dates, monthWalk semimonthlyCandidates
        (withinRange anchor from_ through) through (monthFuel from_ through) from_.firstOfMonth =
          .ok dates ∧ dates.Pairwise (· < ·) :=
      monthWalk_window inTime semimonthlyCandidates_ascend
    refine iff_of_true (.of_found ?_ sorted) (by simp)
    simp only [scheduleOccurrences, if_neg open_, mapError_eq_ok]
    exact walked
  | weekly =>
    obtain ⟨dates, stepped, sorted⟩ : ∃ dates, stepOccurrences anchor from_ through 7 = .ok dates ∧
        dates.Pairwise (· < ·) := stepOccurrences_ascend (by decide) (by decide) ordered inTime
    refine iff_of_true (.of_found ?_ sorted) (by simp)
    simp only [scheduleOccurrences, if_neg open_, mapError_eq_ok]
    exact stepped
  | biweekly =>
    obtain ⟨dates, stepped, sorted⟩ : ∃ dates, stepOccurrences anchor from_ through 14 = .ok dates ∧
        dates.Pairwise (· < ·) := stepOccurrences_ascend (by decide) (by decide) ordered inTime
    refine iff_of_true (.of_found ?_ sorted) (by simp)
    simp only [scheduleOccurrences, if_neg open_, mapError_eq_ok]
    exact stepped
  | annual =>
    -- The years of the window are those of the calendar; only the last December has no anniversary.
    have fromYear := year_bounds from_
    have throughYear := year_bounds through
    have years := year_mono ordered
    have placed : ∀ year ∈ yearRange from_.year through.year,
        ((∃ moved, anchor.inYearClamped year = .ok moved) ↔ ¬(anchor.month = 12 ∧ year = 9999)) := by
      intro year member
      have bounds := mem_yearRange.mp member
      exact inYearClamped_ok (by omega) (by omega)
    constructor
    · -- The anniversary in the last December is asked for, and there is none.
      rintro ⟨dates, found, -⟩ ⟨-, december, last⟩
      simp only [scheduleOccurrences, if_neg open_, mapError_eq_ok] at found
      have member : (9999 : ℤ) ∈ yearRange from_.year through.year := mem_yearRange.mpr (by omega)
      exact (placed 9999 member).mp (annualWalk_placed _ found 9999 member) ⟨december, rfl⟩
    · -- In all other cases each year of the window has an anniversary.
      intro allowed
      obtain ⟨dates, walked, sorted⟩ : ∃ dates, annualWalk anchor
          (withinRange anchor from_ through) (yearRange from_.year through.year) = .ok dates ∧
            dates.Pairwise (· < ·) := by
        refine annualWalk_ascends _ (yearRange_sorted _ _) fun year member => ?_
        refine (placed year member).mpr fun ending => allowed ⟨rfl, ending.1, ?_⟩
        have last := ending.2
        have bounds := mem_yearRange.mp member
        omega
      refine .of_found ?_ sorted
      simp only [scheduleOccurrences, if_neg open_, mapError_eq_ok]
      exact walked
  | oneTime =>
    have found : scheduleOccurrences .oneTime anchor from_ through dayOfMonth =
        .ok (if from_ ≤ anchor && anchor ≤ through then [anchor] else []) := by
      simp only [scheduleOccurrences, if_neg open_]
    refine iff_of_true (.of_found found ?_) (by simp)
    split
    · exact List.pairwise_singleton _ _
    · exact List.Pairwise.nil

/-- The day at a place of a month, counted from zero. -/
def dayAt (year month offset : ℤ)
    (inRange : monthStart firstMonthIndex ≤ monthStart (12 * year + (month - 1)) + offset ∧
      monthStart (12 * year + (month - 1)) + offset < monthStart (lastMonthIndex + 1)) : IsoDate :=
  ⟨monthStart (12 * year + (month - 1)) + offset, inRange⟩

/-- A monthly schedule for the last days of months, in a leap year. -/
theorem scheduleOccurrences_meets_leap :
    MeetsSpec .monthly (dayAt 2024 1 0 (by decide)) (dayAt 2024 2 0 (by decide))
      (dayAt 2024 4 29 (by decide)) (some 31) := by
  refine (scheduleOccurrences_meets ?_ ?_ fun _ => rfl).mpr (by simp)
  · rw [IsoDate.le_def]
    decide
  · rw [EndsInTime]
    decide

/-- Anniversaries of a December day are looked for in the last year, and the calendar panics. -/
theorem scheduleOccurrences_lastDecember :
    dayAt 9999 1 0 (by decide) ≤ dayAt 9999 11 29 (by decide) ∧
    EndsInTime (dayAt 9999 11 29 (by decide)) ∧
    scheduleOccurrences .annual (dayAt 2024 12 24 (by decide)) (dayAt 9999 1 0 (by decide))
      (dayAt 9999 11 29 (by decide)) none = .error (.date .panicked) ∧
    ¬MeetsSpec .annual (dayAt 2024 12 24 (by decide)) (dayAt 9999 1 0 (by decide))
      (dayAt 9999 11 29 (by decide)) none := by
  have panics : scheduleOccurrences .annual (dayAt 2024 12 24 (by decide))
      (dayAt 9999 1 0 (by decide)) (dayAt 9999 11 29 (by decide)) none =
        .error (.date .panicked) := rfl
  refine ⟨?_, ?_, panics, ?_⟩
  · rw [IsoDate.le_def]
    decide
  · rw [EndsInTime]
    decide
  · rintro ⟨dates, found, -⟩
    rw [panics] at found
    cases found

end FinStream
