import FinStream.Scheduler.Timestamps

/-! The stored text of a date, which is read back and is ordered as the dates are. -/

namespace FinStream

open Calendar Store

namespace IsoDate

/-! ### Digits -/

/-- A last digit is worth itself, and everything before it ten times as much. -/
theorem digitsValue_append (digits : List Char) (digit : Char) :
    digitsValue (digits ++ [digit]) =
      10 * digitsValue digits + (digit.toNat - '0'.toNat : ℕ) := by
  rw [digitsValue, List.foldl_append]
  rfl

/-- A decimal digit is the character of a number below ten. -/
theorem exists_digitChar {character : Char} (digit : character.isDigit = true) :
    ∃ n < 10, character = Nat.digitChar n ∧ character.toNat - '0'.toNat = n := by
  have range : 48 ≤ character.toNat ∧ character.toNat ≤ 57 := by
    simpa [Char.isDigit, UInt32.le_iff_toNat_le] using digit
  have zero : '0'.toNat = 48 := rfl
  refine ⟨character.toNat - 48, by omega, ?_, by omega⟩
  refine Char.toNat_inj.mp ?_
  rw [Nat.toNat_digitChar_of_lt_ten (by omega)]
  omega

/-- Digits are those of the number they spell. -/
theorem digits_digitsValue {digits : List Char}
    (all : ∀ character ∈ digits, character.isDigit = true) :
    0 ≤ digitsValue digits ∧ digitsValue digits < 10 ^ digits.length ∧
      Decimal.digits digits.length (digitsValue digits).toNat = digits := by
  -- The last digit is what remains of the number, and the digits before it are its quotient.
  induction digits using List.reverseRecOn with
  | nil => exact ⟨le_rfl, by decide, rfl⟩
  | append_singleton front last ih =>
    obtain ⟨positive, fits, same⟩ := ih fun character member => all character (by simp [member])
    obtain ⟨n, small, rfl, value⟩ := exists_digitChar (all last (by simp))
    rw [digitsValue_append, value, List.length_append, List.length_singleton, pow_succ]
    refine ⟨by omega, by omega, ?_⟩
    have quotient : (10 * digitsValue front + (n : ℤ)).toNat / 10 = (digitsValue front).toNat := by
      omega
    have rest : (10 * digitsValue front + (n : ℤ)).toNat % 10 = n := by omega
    rw [Decimal.digits, quotient, rest, same]

/-- The digits of a number that fits their width spell it. -/
theorem digitsValue_digits {width n : ℕ} (fits : n < 10 ^ width) :
    digitsValue (Decimal.digits width n) = n := by
  -- The induction takes the last digit off, as the digits are written.
  induction width generalizing n with
  | zero =>
    rw [pow_zero, Nat.lt_one_iff] at fits
    rw [fits]
    rfl
  | succ width ih =>
    rw [pow_succ] at fits
    have last : (Nat.digitChar (n % 10)).toNat - '0'.toNat = n % 10 := by
      have zero : '0'.toNat = 48 := rfl
      rw [Nat.toNat_digitChar_of_lt_ten (Nat.mod_lt n (by decide))]
      omega
    rw [Decimal.digits, digitsValue_append, ih (by omega), last]
    omega

/-! ### The text of a date -/

/-- The widths of a date's fields, with what follows each of them; nothing follows the day. -/
def dateFormat (ending : Char) : List (ℕ × Char) := [(4, '-'), (2, '-'), (2, ending)]

/-- The fields of a date fit their widths, from the year zero on. -/
theorem dateFields_fit {date : IsoDate} (era : 0 ≤ date.year) (ending : Char) :
    Decimal.Fits (dateFormat ending) (OffsetDateTime.dateFields date) := by
  have years := date.year_le
  have months := date.month_bounds
  have days := date.day_bounds
  have longest := monthLength_bounds date.monthIndex
  simp only [Decimal.Fits, dateFormat, OffsetDateTime.dateFields, List.map_cons, List.map_nil,
    List.forall₂_cons, List.Forall₂.nil, and_true]
  omega

/-- From the year zero on, the text of a date is that of its fields. -/
theorem toList_toText {date : IsoDate} (era : 0 ≤ date.year) :
    date.toText.toList = Decimal.digits 4 date.year.toNat ++ '-' ::
      Decimal.digits 2 date.month.toNat ++ '-' :: Decimal.digits 2 date.day.toNat := by
  have fit := dateFields_fit era '-'
  have months := date.month_bounds
  have days := date.day_bounds
  simp only [Decimal.Fits, dateFormat, OffsetDateTime.dateFields, List.map_cons, List.map_nil,
    List.forall₂_cons, List.Forall₂.nil, and_true] at fit
  obtain ⟨yearFits, monthFits, dayFits⟩ := fit
  simp only [toText, String.toList_append,
    OffsetDateTime.toList_padded (by decide) era yearFits,
    OffsetDateTime.toList_padded (by decide) (by omega) monthFits,
    OffsetDateTime.toList_padded (by decide) (by omega) dayFits]
  simp

/-- A text that is read names a date of the calendar in the years from zero on. -/
theorem fromStr_eq_ok {value : String} {date : IsoDate} :
    fromStr value = .ok date ↔ 0 ≤ date.year ∧ value = date.toText := by
  constructor
  · intro read
    unfold fromStr at read
    split at read
    · rename_i y₁ y₂ y₃ y₄ m₁ m₂ d₁ d₂ text
      split at read
      · rename_i digits
        simp only [List.all_cons, List.all_nil, Bool.and_true, Bool.and_eq_true] at digits
        obtain ⟨h₁, h₂, h₃, h₄, h₅, h₆, h₇, h₈⟩ := digits
        have yearDigits : ∀ character ∈ [y₁, y₂, y₃, y₄], character.isDigit = true := by
          simp [h₁, h₂, h₃, h₄]
        have monthDigits : ∀ character ∈ [m₁, m₂], character.isDigit = true := by simp [h₅, h₆]
        have dayDigits : ∀ character ∈ [d₁, d₂], character.isDigit = true := by simp [h₇, h₈]
        obtain ⟨era, -, years⟩ := digits_digitsValue yearDigits
        obtain ⟨-, -, months⟩ := digits_digitsValue monthDigits
        obtain ⟨-, -, days⟩ := digits_digitsValue dayDigits
        simp only [new, bind_eq_ok, ensure_eq_ok, required_eq_ok, fromCalendarDate_eq_some] at read
        obtain ⟨_, -, low, high, first, last, number⟩ := read
        -- The three numbers are the parts of the date, and each part spells its digits.
        obtain ⟨index, day⟩ := (dayNumber_eq_iff first last).mp number
        obtain ⟨year, month⟩ := (monthIndex_eq_iff low high).mp index
        rw [← year] at era years
        rw [← month] at months
        rw [← day] at days
        refine ⟨era, String.toList_injective ?_⟩
        simp only [List.length_cons, List.length_nil, Nat.zero_add] at years months days
        rw [text, toList_toText era, years, months, days]
        rfl
      · cases read
    · cases read
  · rintro ⟨era, rfl⟩
    obtain ⟨yearFits, monthFits, dayFits⟩ := by
      simpa only [Decimal.Fits, dateFormat, OffsetDateTime.dateFields, List.map_cons, List.map_nil,
        List.forall₂_cons, List.Forall₂.nil, and_true] using dateFields_fit era '-'
    have months := date.month_bounds
    have days := date.day_bounds
    have digit : ∀ n : ℕ, (Nat.digitChar (n % 10)).isDigit = true :=
      fun n => Decimal.isDigit_digitChar (Nat.mod_lt n (by decide))
    have years := digitsValue_digits yearFits
    have monthValue := digitsValue_digits monthFits
    have dayValue := digitsValue_digits dayFits
    simp only [Decimal.digits, List.nil_append, List.cons_append] at years monthValue dayValue
    have text := toList_toText era
    simp only [Decimal.digits, List.nil_append, List.cons_append] at text
    simp only [fromStr, text, List.all_cons, List.all_nil, digit, Bool.and_self, if_true, years,
      monthValue, dayValue]
    simp only [new, bind_eq_ok, ensure_eq_ok, required_eq_ok, fromCalendarDate_eq_some]
    rw [Int.toNat_of_nonneg era, Int.toNat_of_nonneg (by omega), Int.toNat_of_nonneg (by omega),
      ← date.monthIndex_eq]
    refine ⟨⟨⟩, by simpa using months, months.1, months.2, days.1, days.2, ?_⟩
    rw [day]
    omega

/-! ### The order of texts -/

/-- A date before the year zero is written with a sign. -/
theorem toText_before_era {date : IsoDate} (before : date.year < 0) :
    date.toText.toList.head? = some '-' := by
  simp [toText, padded, before]

/-- From the year zero on, a date is written with a digit first. -/
theorem toText_era {date : IsoDate} (era : 0 ≤ date.year) :
    ∃ digit rest, date.toText.toList = digit :: rest ∧ '-' < digit := by
  have small := Nat.mod_lt (date.year.toNat / 10 / 10 / 10) (by decide : 10 > 0)
  refine ⟨_, _, by rw [toList_toText era]; rfl, ?_⟩
  interval_cases date.year.toNat / 10 / 10 / 10 % 10 <;> decide

/-- A date before the year zero is before any later one, and so is its text. -/
theorem toText_lt_of_era {left right : IsoDate} (before : left.year < 0) (era : 0 ≤ right.year) :
    left < right ∧ left.toText.toList < right.toText.toList := by
  constructor
  · by_contra later
    have := IsoDate.monthIndex_mono (not_lt.mp later)
    simp only [year] at before era
    omega
  · -- The sign of the earlier date is before any digit.
    obtain ⟨digit, rest, rightText, after⟩ := toText_era era
    have sign := toText_before_era before
    rw [rightText]
    cases leftText : left.toText.toList with
    | nil => exact List.nil_lt_cons _ _
    | cons first others =>
      rw [leftText, List.head?_cons, Option.some.injEq] at sign
      rw [sign, List.cons_lt_cons_iff]
      exact Or.inl after

/-- Texts are ordered as the dates are, unless both are before the year zero. -/
theorem toText_lt_iff {left right : IsoDate} (era : 0 ≤ left.year ∨ 0 ≤ right.year) :
    left.toText < right.toText ↔ left < right := by
  rw [String.lt_iff]
  by_cases leftEra : 0 ≤ left.year
  · by_cases rightEra : 0 ≤ right.year
    · -- An ending that follows the day of both dates changes nothing.
      have ended : ∀ {date : IsoDate}, 0 ≤ date.year → date.toText.toList ++ ['T'] =
          Decimal.fields (dateFormat 'T') (OffsetDateTime.dateFields date) := by
        intro date era
        rw [toList_toText era]
        simp [dateFormat, OffsetDateTime.dateFields, Decimal.fields]
      have length : left.toText.toList.length = right.toText.toList.length := by
        simp [toList_toText leftEra, toList_toText rightEra]
      have fields := Decimal.fields_lt_iff (dateFields_fit leftEra 'T') (dateFields_fit rightEra 'T')
      rw [← ended leftEra, ← ended rightEra, Decimal.append_lt_append_iff length,
        OffsetDateTime.dateFields_lt_iff leftEra rightEra] at fields
      simpa using fields
    · obtain ⟨dates, texts⟩ := toText_lt_of_era (not_le.mp rightEra) leftEra
      exact iff_of_false (List.lt_asymm texts) (lt_asymm dates)
  · obtain ⟨dates, texts⟩ := toText_lt_of_era (not_le.mp leftEra) (era.resolve_left leftEra)
    exact iff_of_true texts dates

/-- Comparing the texts of a window with that of a stored date compares the dates. -/
theorem toText_le_iff {left right : IsoDate} (era : 0 ≤ left.year ∨ 0 ≤ right.year) :
    left.toText ≤ right.toText ↔ left ≤ right := by
  rw [← not_lt, ← not_lt, toText_lt_iff era.symm]

/-! ### Canonical texts -/

/-- A year, a month and a day of the calendar, the year with four digits at most. -/
structure IsCalendarDate (year month day : ℕ) : Prop where
  years : year ≤ 9999
  months : 1 ≤ month ∧ month ≤ 12
  days : 1 ≤ day ∧ (day : ℤ) ≤ monthLength (12 * year + (month - 1))

/-- The text `YYYY-MM-DD` of a year, a month and a day. -/
def fixedWidth (year month day : ℕ) : String :=
  String.ofList (Decimal.digits 4 year ++ '-' :: Decimal.digits 2 month ++ '-' ::
    Decimal.digits 2 day)

/-- The texts that are read are those of fixed width that name a date of the calendar. -/
theorem fromStr_isOk {value : String} : (∃ date, fromStr value = .ok date) ↔
    ∃ year month day, IsCalendarDate year month day ∧ value = fixedWidth year month day := by
  constructor
  · rintro ⟨date, read⟩
    obtain ⟨era, rfl⟩ := fromStr_eq_ok.mp read
    have years := date.year_le
    have months := date.month_bounds
    have days := date.day_bounds
    refine ⟨date.year.toNat, date.month.toNat, date.day.toNat, ⟨by omega, by omega, by omega, ?_⟩,
      String.toList_injective (by rw [toList_toText era, fixedWidth, String.toList_ofList])⟩
    rw [Int.toNat_of_nonneg era, Int.toNat_of_nonneg (by omega), Int.toNat_of_nonneg (by omega),
      ← date.monthIndex_eq]
    exact days.2
  · rintro ⟨year, month, day, ⟨years, months, days⟩, rfl⟩
    -- The day of that month lies within the years of the type.
    have start : monthStart (12 * (year : ℤ) + (month - 1)) + day - 1 <
        monthStart (12 * (year : ℤ) + (month - 1) + 1) := by
      simp only [monthLength] at days
      omega
    have lower : firstMonthIndex ≤ 12 * (year : ℤ) + (month - 1) := by
      simp only [firstMonthIndex]
      omega
    have upper : 12 * (year : ℤ) + (month - 1) ≤ lastMonthIndex := by
      simp only [lastMonthIndex]
      omega
    obtain ⟨date, number⟩ := exists_of_month lower upper (by omega) start
    obtain ⟨index, dayOf⟩ := (dayNumber_eq_iff (by omega) days.2).mp number
    obtain ⟨yearOf, monthOf⟩ := (monthIndex_eq_iff (by omega) (by omega)).mp index
    refine ⟨date, fromStr_eq_ok.mpr ⟨by omega, String.toList_injective ?_⟩⟩
    rw [toList_toText (by omega), fixedWidth, String.toList_ofList, yearOf, monthOf, dayOf,
      Int.toNat_natCast, Int.toNat_natCast, Int.toNat_natCast]

/-- The texts of dates are canonical: exactly those of fixed width are read, reading and writing
undo each other from the year zero on, and comparing texts compares dates. -/
theorem text_canonical :
    (∀ value, (∃ date, fromStr value = .ok date) ↔
      ∃ year month day, IsCalendarDate year month day ∧ value = fixedWidth year month day) ∧
    (∀ value date, fromStr value = .ok date → date.toText = value) ∧
    (∀ date : IsoDate, fromStr date.toText = .ok date ↔ 0 ≤ date.year) ∧
    (∀ left right : IsoDate, 0 ≤ left.year ∨ 0 ≤ right.year →
      (left.toText < right.toText ↔ left < right)) ∧
    ∀ (window : ProjectionWindow) (stored : IsoDate), 0 ≤ stored.year →
      ((window.from_.toText ≤ stored.toText ∧ stored.toText ≤ window.through.toText) ↔
        window.contains stored = true) := by
  refine ⟨fun _ => fromStr_isOk, fun value date read => (fromStr_eq_ok.mp read).2.symm, ?_,
    fun _ _ era => toText_lt_iff era, ?_⟩
  · intro date
    rw [fromStr_eq_ok]
    exact and_iff_left rfl
  · intro window stored era
    rw [toText_le_iff (Or.inr era), toText_le_iff (Or.inl era), ProjectionWindow.contains,
      Bool.and_eq_true, decide_eq_true_eq, decide_eq_true_eq]

/-- A leap day is read from its text, and comes before the next day. -/
theorem text_canonical_leapDay : ∃ date next : IsoDate, fromStr "2024-02-29" = .ok date ∧
    date.toText = "2024-02-29" ∧ fromStr date.toText = .ok date ∧
      fromStr "2024-03-01" = .ok next ∧ date < next := by
  obtain ⟨accepts, shows, reads, orders, -⟩ := text_canonical
  obtain ⟨date, read⟩ := (accepts "2024-02-29").mpr
    ⟨2024, 2, 29, ⟨by decide, by decide, by decide, by decide⟩, by decide⟩
  obtain ⟨next, readNext⟩ := (accepts "2024-03-01").mpr
    ⟨2024, 3, 1, ⟨by decide, by decide, by decide, by decide⟩, by decide⟩
  have text := shows _ _ read
  have again : fromStr date.toText = .ok date := by rw [text, read]
  refine ⟨date, next, read, text, again, readNext, ?_⟩
  refine (orders date next (Or.inl ((reads date).mp again))).mp ?_
  rw [text, shows _ _ readNext]
  decide

/-- The last day before the year zero has a text that is not read, and one that is not before that
of the day a year earlier. -/
theorem text_unread : ∃ early late : IsoDate, early < late ∧
    late.toText = "-001-12-31" ∧ early.toText = "-002-12-31" ∧
      fromStr late.toText = .error .format ∧ late.toText < early.toText :=
  ⟨⟨-366, by decide⟩, ⟨-1, by decide⟩, by decide, by decide, by decide, by decide, by decide⟩

end IsoDate

end FinStream
