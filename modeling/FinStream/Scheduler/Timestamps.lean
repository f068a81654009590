import FinStream.Numeric.Decimal
import FinStream.Operations.Decision
import FinStream.Scheduler.Instant
import FinStream.Text.Printed

/-! The stored text of an instant, which is ordered as the instants are. -/

namespace FinStream

open Store

namespace OffsetDateTime

/-- The text of an instant in milliseconds, as the sync runs and the scheduler both write it. -/
def formatUtcMillis (value : OffsetDateTime) : String :=
  IsoDate.padded 4 value.date.year ++ "-" ++ IsoDate.padded 2 value.date.month ++ "-" ++
    IsoDate.padded 2 value.date.day ++ "T" ++ IsoDate.padded 2 value.hour ++ ":" ++
    IsoDate.padded 2 value.minute ++ ":" ++ IsoDate.padded 2 value.second ++ "." ++
    IsoDate.padded 3 value.millisecond ++ "Z"

/-- The widths of a timestamp's fields, with what follows each of them. -/
def timestampFormat : List (ℕ × Char) :=
  [(4, '-'), (2, '-'), (2, 'T'), (2, ':'), (2, ':'), (2, '.'), (3, 'Z')]

/-- The numbers in the fields of a date. -/
def dateFields (date : IsoDate) : List ℕ := [date.year, date.month, date.day].map Int.toNat

/-- The numbers in the fields of a time of day. -/
def timeFields (value : OffsetDateTime) : List ℕ :=
  [value.hour, value.minute, value.second, value.millisecond].map Int.toNat

/-- The numbers in a timestamp's fields. -/
def timestampFields (value : OffsetDateTime) : List ℕ := dateFields value.date ++ value.timeFields

/-! ### The fields -/

/-- The fields of the time of day count its milliseconds. -/
theorem millisOfDay_eq (value : OffsetDateTime) :
    value.hour * 3600000 + value.minute * 60000 + value.second * 1000 + value.millisecond =
      value.nanosOfDay / 10 ^ 6 := by
  simp only [hour, minute, second, millisecond, nanosPerSecond]
  omega

/-- The fields of the time of day stay below their limits. -/
theorem time_bounds (value : OffsetDateTime) :
    (0 ≤ value.hour ∧ value.hour < 24) ∧ (0 ≤ value.minute ∧ value.minute < 60) ∧
      (0 ≤ value.second ∧ value.second < 60) ∧ 0 ≤ value.millisecond ∧
      value.millisecond < 1000 := by
  simp only [hour, minute, second, millisecond, nanosOfDay, nanosPerDay, nanosPerSecond]
  omega

/-- A day has fewer milliseconds than its length. -/
theorem millisOfDay_bounds (value : OffsetDateTime) :
    0 ≤ value.nanosOfDay / 10 ^ 6 ∧ value.nanosOfDay / 10 ^ 6 < 86400000 := by
  simp only [nanosOfDay, nanosPerDay, nanosPerSecond]
  omega

/-- Milliseconds are counted by the day and by the time of day. -/
theorem unixMillis_eq (value : OffsetDateTime) :
    value.unixMillis =
      (value.date.dayNumber - epochDay) * 86400000 + value.nanosOfDay / 10 ^ 6 := by
  simp only [unixMillis, date, nanosOfDay, nanosPerDay, nanosPerSecond]
  omega

/-- The fields of an instant fit their widths, from the year zero on. -/
theorem timestampFields_fit {value : OffsetDateTime} (era : 0 ≤ value.date.year) :
    Decimal.Fits timestampFormat value.timestampFields := by
  obtain ⟨hours, minutes, seconds, millis⟩ := value.time_bounds
  have years := value.date.year_le
  have months := value.date.month_bounds
  have days := value.date.day_bounds
  have longest := Calendar.monthLength_bounds value.date.monthIndex
  simp only [Decimal.Fits, timestampFormat, timestampFields, dateFields, timeFields, List.map_cons,
    List.map_nil, List.cons_append, List.nil_append, List.forall₂_cons, List.Forall₂.nil, and_true]
  omega

/-- The fields of a date are ordered as the dates are, from the year zero on. -/
theorem dateFields_lt_iff {left right : IsoDate} (leftEra : 0 ≤ left.year)
    (rightEra : 0 ≤ right.year) :
    dateFields left < dateFields right ↔ left < right := by
  have leftMonth := left.monthIndex_eq
  have rightMonth := right.monthIndex_eq
  have leftBounds := left.month_bounds
  have rightBounds := right.month_bounds
  have leftDay := left.day_bounds.1
  have rightDay := right.day_bounds.1
  simp only [dateFields, List.map_cons, List.map_nil, List.cons_lt_cons_iff, List.not_lt_nil,
    and_false, or_false, IsoDate.lt_def]
  -- Months decide first; within one month the days are counted from its start.
  rcases lt_trichotomy left.monthIndex right.monthIndex with before | same | after
  · have : left < right := by
      by_contra later
      have := IsoDate.monthIndex_mono (not_lt.mp later)
      omega
    rw [IsoDate.lt_def] at this
    omega
  · have leftStart : left.day = left.dayNumber - Calendar.monthStart left.monthIndex + 1 := rfl
    have rightStart : right.day = right.dayNumber - Calendar.monthStart right.monthIndex + 1 := rfl
    rw [same] at leftStart
    omega
  · have : right < left := by
      by_contra later
      have := IsoDate.monthIndex_mono (not_lt.mp later)
      omega
    rw [IsoDate.lt_def] at this
    omega

/-- The fields of a date tell the dates apart, from the year zero on. -/
theorem dateFields_inj {left right : IsoDate} (leftEra : 0 ≤ left.year)
    (rightEra : 0 ≤ right.year) : dateFields left = dateFields right ↔ left = right := by
  refine ⟨fun same => ?_, congrArg dateFields⟩
  have notBefore := mt (dateFields_lt_iff leftEra rightEra).mpr (same ▸ List.lt_irrefl _)
  have notAfter := mt (dateFields_lt_iff rightEra leftEra).mpr (same ▸ List.lt_irrefl _)
  exact le_antisymm (not_lt.mp notAfter) (not_lt.mp notBefore)

/-- The fields of the time of day are ordered as its milliseconds are. -/
theorem timeFields_lt_iff (left right : OffsetDateTime) :
    left.timeFields < right.timeFields ↔ left.nanosOfDay / 10 ^ 6 < right.nanosOfDay / 10 ^ 6 := by
  obtain ⟨leftHour, leftMinute, leftSecond, leftMilli⟩ := left.time_bounds
  obtain ⟨rightHour, rightMinute, rightSecond, rightMilli⟩ := right.time_bounds
  simp only [← millisOfDay_eq, timeFields, List.map_cons, List.map_nil, List.cons_lt_cons_iff,
    List.not_lt_nil, and_false, or_false]
  omega

/-- Fields are ordered as the instants are, to the millisecond. -/
theorem timestampFields_lt_iff {left right : OffsetDateTime} (leftEra : 0 ≤ left.date.year)
    (rightEra : 0 ≤ right.date.year) :
    left.timestampFields < right.timestampFields ↔ left.unixMillis < right.unixMillis := by
  have length : (dateFields left.date).length = (dateFields right.date).length := rfl
  have leftTime := left.millisOfDay_bounds
  have rightTime := right.millisOfDay_bounds
  rw [timestampFields, timestampFields, Decimal.append_lt_append_iff length,
    dateFields_lt_iff leftEra rightEra, dateFields_inj leftEra rightEra, timeFields_lt_iff,
    left.unixMillis_eq, right.unixMillis_eq, IsoDate.lt_def, IsoDate.ext_iff]
  omega

/-! ### The text -/

/-- A number from zero on is written with the digits of its width. -/
theorem toList_padded {width : ℕ} {value : ℤ} (positive : 0 < width) (least : 0 ≤ value)
    (fits : value.toNat < 10 ^ width) :
    (IsoDate.padded width value).toList = Decimal.digits width value.toNat := by
  obtain ⟨n, rfl⟩ := Int.eq_ofNat_of_zero_le least
  have length : (toString n).length = (Nat.toDigits 10 n).length := by
    rw [← String.length_toList, Nat.toString_eq_repr, Nat.toList_repr]
  rw [IsoDate.padded, if_neg (not_lt.mpr least), String.toList_append,
    Printed.toList_pushn]
  simp only [Int.natAbs_natCast, Int.toNat_natCast] at fits ⊢
  rw [length, Nat.toString_eq_repr, Nat.toList_repr,
    Decimal.replicate_append_toDigits positive fits]

/-- From the year zero on, the text of an instant is that of its fields. -/
theorem toList_formatUtcMillis {value : OffsetDateTime} (era : 0 ≤ value.date.year) :
    value.formatUtcMillis.toList = Decimal.fields timestampFormat value.timestampFields := by
  have fit := timestampFields_fit era
  obtain ⟨hours, minutes, seconds, millis⟩ := value.time_bounds
  have months := value.date.month_bounds
  have days := value.date.day_bounds
  simp only [Decimal.Fits, timestampFormat, timestampFields, dateFields, timeFields, List.map_cons,
    List.map_nil, List.cons_append, List.nil_append, List.forall₂_cons, List.Forall₂.nil,
    and_true] at fit
  obtain ⟨yearFits, monthFits, dayFits, hourFits, minuteFits, secondFits, millisFit⟩ := fit
  simp only [formatUtcMillis, timestampFormat, timestampFields, dateFields, timeFields, List.map_cons,
    List.map_nil, List.cons_append, List.nil_append, Decimal.fields, String.toList_append,
    toList_padded (by decide) era yearFits, toList_padded (by decide) (by omega) monthFits,
    toList_padded (by decide) (by omega) dayFits, toList_padded (by decide) hours.1 hourFits,
    toList_padded (by decide) minutes.1 minuteFits, toList_padded (by decide) seconds.1 secondFits,
    toList_padded (by decide) millis.1 millisFit]
  simp

/-- Timestamps are ordered as text exactly as the instants are, to the millisecond. -/
theorem formatUtcMillis_lt_iff {left right : OffsetDateTime} (leftEra : 0 ≤ left.date.year)
    (rightEra : 0 ≤ right.date.year) :
    left.formatUtcMillis < right.formatUtcMillis ↔ left.unixMillis < right.unixMillis := by
  rw [String.lt_iff, toList_formatUtcMillis leftEra, toList_formatUtcMillis rightEra,
    Decimal.fields_lt_iff (timestampFields_fit leftEra) (timestampFields_fit rightEra),
    timestampFields_lt_iff leftEra rightEra]

/-- A timestamp is accepted wherever one is required. -/
theorem requireTimestamp_formatUtcMillis {value : OffsetDateTime} (era : 0 ≤ value.date.year)
    (label : String) : requireTimestamp label value.formatUtcMillis = .ok ⟨⟩ := by
  -- The pattern is the text of fields that are all zero.
  have zeros : Decimal.Fits timestampFormat (List.replicate 7 0) := by
    simp [Decimal.Fits, timestampFormat]
  have pattern : "0000-00-00T00:00:00.000Z".toList =
      Decimal.fields timestampFormat (List.replicate 7 0) := by decide
  have fit := timestampFields_fit era
  rw [requireTimestamp, ensure_eq_ok, matchesDigits, ← String.length_toList, ← String.length_toList,
    pattern, toList_formatUtcMillis era, Decimal.length_fields fit zeros]
  simp only [BEq.rfl, Bool.true_and, List.all_eq_true]
  intro pair member
  rcases Decimal.zip_fields zeros fit member with ⟨first, second⟩ | same
  · simp [first, second]
  · simp [same]

end OffsetDateTime

/-! ### Staleness and coverage -/

/-- A run whose start was written for this instant. -/
structure SyncRun.StartedAt (run : SyncRun) (started : OffsetDateTime) : Prop where
  era : 0 ≤ started.date.year
  text : run.startedAt = started.formatUtcMillis

/-- A run is stale exactly when it is running and started before the cutoff. -/
theorem SyncRun.StartedAt.isStale_iff {run : SyncRun} {started cutoff : OffsetDateTime}
    {slug : String} (start : run.StartedAt started) (era : 0 ≤ cutoff.date.year) :
    run.isStale slug cutoff.formatUtcMillis = true ↔
      run.status = .running ∧ run.connectionSlug = slug ∧
        started.unixMillis < cutoff.unixMillis := by
  rw [SyncRun.isStale, start.text]
  simp only [Bool.and_eq_true, beq_iff_eq, decide_eq_true_eq,
    OffsetDateTime.formatUtcMillis_lt_iff start.era era]
  tauto

/-- A run that started at or after a slot is one whose text is not before the slot's. -/
theorem SyncRun.StartedAt.le_iff {run : SyncRun} {started slot : OffsetDateTime}
    (start : run.StartedAt started) (era : 0 ≤ slot.date.year) :
    slot.formatUtcMillis ≤ run.startedAt ↔ slot.unixMillis ≤ started.unixMillis := by
  rw [start.text, ← not_lt, OffsetDateTime.formatUtcMillis_lt_iff start.era era, not_lt]

/-- A slot is covered exactly when a run of the connection that started since has succeeded. -/
theorem successfulRunSince_isSome_iff {slug : String} {slot : OffsetDateTime} {db : Operations}
    (era : 0 ≤ slot.date.year)
    (stamped : ∀ id run, (id, run) ∈ db.log → ∃ started, run.StartedAt started) :
    (successfulRunSince slug slot.formatUtcMillis db).isSome ↔
      ∃ id run started, (id, run) ∈ db.log ∧ run.connectionSlug = slug ∧ run.status = .success ∧
        run.StartedAt started ∧ slot.unixMillis ≤ started.unixMillis := by
  constructor
  · intro covered
    obtain ⟨⟨id, run⟩, found⟩ := Option.isSome_iff_exists.mp covered
    obtain ⟨stored, holds, -⟩ := latestRun_some found
    simp only [Bool.and_eq_true, beq_iff_eq, decide_eq_true_eq] at holds
    obtain ⟨⟨named, success⟩, since⟩ := holds
    obtain ⟨started, start⟩ := stamped id run stored
    exact ⟨id, run, started, stored, named, success, start, (start.le_iff era).mp since⟩
  · rintro ⟨id, run, started, stored, named, success, start, since⟩
    by_contra missing
    have unmatched := latestRun_none (Option.not_isSome_iff_eq_none.mp missing) stored
    simp [named, success, (start.le_iff era).mpr since] at unmatched

/-- Timestamps are accepted, are ordered as their instants, and so decide which runs are stale and
which slots are covered. -/
theorem formatUtcMillis_decides (left right : OffsetDateTime) (leftEra : 0 ≤ left.date.year)
    (rightEra : 0 ≤ right.date.year) :
    (∀ label, requireTimestamp label left.formatUtcMillis = .ok ⟨⟩) ∧
      (left.formatUtcMillis < right.formatUtcMillis ↔ left.unixMillis < right.unixMillis) ∧
      (left.formatUtcMillis = right.formatUtcMillis ↔ left.unixMillis = right.unixMillis) ∧
      (∀ slug (run : SyncRun), run.startedAt = left.formatUtcMillis →
        (run.isStale slug right.formatUtcMillis = true ↔ run.status = .running ∧
          run.connectionSlug = slug ∧ left.unixMillis < right.unixMillis)) ∧
      ∀ slug (db : Operations),
        (∀ id run, (id, run) ∈ db.log → ∃ started, run.StartedAt started) →
          ((successfulRunSince slug right.formatUtcMillis db).isSome ↔
            ∃ id run started, (id, run) ∈ db.log ∧ run.connectionSlug = slug ∧
              run.status = .success ∧ run.StartedAt started ∧
                right.unixMillis ≤ started.unixMillis) := by
  have before := OffsetDateTime.formatUtcMillis_lt_iff leftEra rightEra
  have after := OffsetDateTime.formatUtcMillis_lt_iff rightEra leftEra
  refine ⟨OffsetDateTime.requireTimestamp_formatUtcMillis leftEra, before, ?_, ?_, ?_⟩
  · -- Neither text is before the other exactly when neither instant is.
    constructor
    · intro same
      rw [same, lt_self_iff_false, false_iff, not_lt] at before after
      exact le_antisymm after before
    · intro same
      rw [same, lt_self_iff_false, iff_false, not_lt] at before after
      exact le_antisymm after before
  · exact fun slug run text => SyncRun.StartedAt.isStale_iff ⟨leftEra, text⟩ rightEra
  · exact fun slug db stamped => successfulRunSince_isSome_iff rightEra stamped

/-- The start of 1970 and its first millisecond are told apart and ordered. -/
theorem formatUtcMillis_decides_epoch :
    let epoch : OffsetDateTime := ⟨0, by decide⟩
    let later : OffsetDateTime := ⟨10 ^ 6, by decide⟩
    requireTimestamp "run start timestamp" epoch.formatUtcMillis = .ok ⟨⟩ ∧
      epoch.formatUtcMillis < later.formatUtcMillis ∧
      (successfulRunSince "tmo" later.formatUtcMillis ⟨none, .empty⟩).isSome = false := by
  intro epoch later
  obtain ⟨accepted, ordered, -, -, covered⟩ :=
    formatUtcMillis_decides epoch later (by decide) (by decide)
  refine ⟨accepted _, ordered.mpr (by decide), ?_⟩
  rw [← Bool.not_eq_true, covered "tmo" ⟨none, .empty⟩ nofun]
  rintro ⟨_, _, _, stored, -⟩
  cases stored

end FinStream
