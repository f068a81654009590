import FinStream.Finance.DateText
import FinStream.Finance.Occurrences
import FinStream.Text.Printed

/-! The stored texts of slots and source ids, which tell occurrences and schedules apart. -/

namespace FinStream

open Store

/-- A padded number is its digits behind some zeros, and a sign in front when it is negative. -/
theorem IsoDate.padded_eq_written (width : ℕ) (value : ℤ) :
    ∃ zeros, (IsoDate.padded width value).toList = Printed.written zeros value := by
  unfold IsoDate.padded Printed.written
  by_cases negative : value < 0
  · refine ⟨width - 1 - (toString value.natAbs).length, ?_⟩
    simp [negative, String.toList_append, Printed.toList_pushn]
  · refine ⟨width - (toString value.natAbs).length, ?_⟩
    simp [negative, String.toList_append, Printed.toList_pushn]

/-- The half of a month as it is stored. -/
def Half.text : Half → String
  | .mid => "mid"
  | .end_ => "end"

/-- The text of a half has three characters. -/
theorem Half.length_toList_text (half : Half) : half.text.toList.length = 3 := by
  cases half with
  | mid | end_ => decide

/-- The texts of the halves tell them apart. -/
theorem Half.text_inj {left right : Half} (same : left.text = right.text) : left = right := by
  cases left <;> cases right <;> first | rfl | exact absurd same (by decide)

/-- The slot of an occurrence as it is stored. -/
def Slot.text : Slot → String
  | .monthly year month =>
    "monthly:" ++ IsoDate.padded 4 year ++ "-" ++ IsoDate.padded 2 month
  | .semimonthly year month half =>
    "semimonthly:" ++ IsoDate.padded 4 year ++ "-" ++ IsoDate.padded 2 month ++ ":" ++ half.text
  | .weekly period => "weekly:" ++ toString period
  | .biweekly period => "biweekly:" ++ toString period
  | .annual year => "annual:" ++ IsoDate.padded 4 year
  | .oneTime => "one_time"

/-- The half stands behind the month. -/
theorem Slot.text_semimonthly (year month : ℤ) (half : Half) :
    (Slot.semimonthly year month half).text = "semimonthly:" ++ IsoDate.padded 4 year ++ "-" ++
      IsoDate.padded 2 month ++ (":" ++ half.text) :=
  String.append_assoc

/-- The source id of a projection as it is stored. -/
def projectionSourceId (scheduleId : ℤ) (slot : String) : String :=
  "stream_schedule:" ++ toString scheduleId ++ ":" ++ slot

/-- The months of a slot exist. -/
def Slot.Dated : Slot → Prop
  | .monthly _ month => 1 ≤ month ∧ month ≤ 12
  | .semimonthly _ month _ => 1 ≤ month ∧ month ≤ 12
  | _ => True

/-- The slot of an occurrence names an existing month. -/
theorem projectionSlot_dated (frequency : ScheduleFrequency) (anchor occurrence : IsoDate) :
    (projectionSlot frequency anchor occurrence).Dated := by
  cases frequency with
  | monthly | semimonthly => exact occurrence.month_bounds
  | weekly | biweekly | annual | oneTime => trivial

/-- The text of a month has two digits. -/
theorem toList_month {month : ℤ} (first : 1 ≤ month) (last : month ≤ 12) :
    (IsoDate.padded 2 month).toList = Decimal.digits 2 month.toNat :=
  OffsetDateTime.toList_padded (by decide) (by omega) (by omega)

/-- A year and a month are told apart by their texts, whatever follows them. -/
theorem yearMonth_inj {year month otherYear otherMonth : ℤ} {back rest : List Char}
    (dated : 1 ≤ month ∧ month ≤ 12) (otherDated : 1 ≤ otherMonth ∧ otherMonth ≤ 12)
    (length : back.length = rest.length)
    (same : (IsoDate.padded 4 year).toList ++ '-' :: ((IsoDate.padded 2 month).toList ++ back) =
      (IsoDate.padded 4 otherYear).toList ++ '-' ::
        ((IsoDate.padded 2 otherMonth).toList ++ rest)) :
    year = otherYear ∧ month = otherMonth ∧ back = rest := by
  -- The month has two digits, so the texts are cut at the same place behind the year.
  rw [toList_month dated.1 dated.2, toList_month otherDated.1 otherDated.2] at same
  obtain ⟨zeros, written⟩ := IsoDate.padded_eq_written 4 year
  obtain ⟨others, otherWritten⟩ := IsoDate.padded_eq_written 4 otherYear
  rw [written, otherWritten] at same
  obtain ⟨years, tails⟩ := List.append_inj' same (by simp [length])
  obtain ⟨months, rests⟩ := List.append_inj (List.cons.inj tails).2 (by simp)
  have number := (Decimal.digits_inj (by omega) (by omega)).mp months
  exact ⟨Printed.written_inj years, by omega, rests⟩

/-- The first character of a slot's text, which is another one for each cadence. -/
def Slot.initial : Slot → Char
  | .monthly _ _ => 'm'
  | .semimonthly _ _ _ => 's'
  | .weekly _ => 'w'
  | .biweekly _ => 'b'
  | .annual _ => 'a'
  | .oneTime => 'o'

/-- The text of a slot starts with its initial. -/
theorem Slot.head?_text (slot : Slot) : slot.text.toList.head? = some slot.initial := by
  -- The name of the cadence comes first, whatever follows it.
  cases slot with
  | monthly year month =>
    have name : "monthly:".toList.head? = some 'm' := by decide
    exact Printed.head?_append (Printed.head?_append (Printed.head?_append name _) _) _
  | semimonthly year month half =>
    have name : "semimonthly:".toList.head? = some 's' := by decide
    exact Printed.head?_append (Printed.head?_append (Printed.head?_append
      (Printed.head?_append (Printed.head?_append name _) _) _) _) _
  | weekly period =>
    have name : "weekly:".toList.head? = some 'w' := by decide
    exact Printed.head?_append name _
  | biweekly period =>
    have name : "biweekly:".toList.head? = some 'b' := by decide
    exact Printed.head?_append name _
  | annual year =>
    have name : "annual:".toList.head? = some 'a' := by decide
    exact Printed.head?_append name _
  | oneTime => decide

/-- A year and a month stand behind the name of the cadence, and the half behind them. -/
theorem Slot.toList_monthly (year month : ℤ) : (Slot.monthly year month).text.toList =
    "monthly:".toList ++
      ((IsoDate.padded 4 year).toList ++ '-' :: ((IsoDate.padded 2 month).toList ++ [])) := by
  unfold text
  have dash : "-".toList = ['-'] := by decide
  rw [String.toList_append, String.toList_append, String.toList_append, dash, List.append_assoc,
    List.append_assoc, List.singleton_append, List.append_nil]

@[inherit_doc Slot.toList_monthly]
theorem Slot.toList_semimonthly (year month : ℤ) (half : Half) :
    (Slot.semimonthly year month half).text.toList = "semimonthly:".toList ++
      ((IsoDate.padded 4 year).toList ++ '-' ::
        ((IsoDate.padded 2 month).toList ++ ':' :: half.text.toList)) := by
  unfold text
  have dash : "-".toList = ['-'] := by decide
  have colon : ":".toList = [':'] := by decide
  rw [String.toList_append, String.toList_append, String.toList_append, String.toList_append,
    String.toList_append, dash, colon]
  simp only [List.append_assoc, List.cons_append, List.nil_append]

/-- Texts of slots tell the slots apart. -/
theorem Slot.text_inj {left right : Slot} (leftDated : left.Dated) (rightDated : right.Dated)
    (same : left.text = right.text) : left = right := by
  -- Slots with one text are of one cadence; what follows its name is compared field by field.
  have initials := congrArg (·.toList.head?) same
  simp only [head?_text, Option.some.injEq] at initials
  have lists := congrArg String.toList same
  cases left with
  | monthly year month =>
    cases right <;> simp [initial] at initials
    rename_i otherYear otherMonth
    rw [toList_monthly, toList_monthly] at lists
    obtain ⟨rfl, rfl, -⟩ := yearMonth_inj leftDated rightDated rfl (List.append_cancel_left lists)
    rfl
  | semimonthly year month half =>
    cases right <;> simp [initial] at initials
    rename_i otherYear otherMonth other
    rw [toList_semimonthly, toList_semimonthly] at lists
    have lengths : (':' :: half.text.toList).length = (':' :: other.text.toList).length := by
      rw [List.length_cons, List.length_cons, half.length_toList_text, other.length_toList_text]
    obtain ⟨rfl, rfl, halves⟩ :=
      yearMonth_inj leftDated rightDated lengths (List.append_cancel_left lists)
    rw [Half.text_inj (String.toList_injective (List.cons.inj halves).2)]
  | weekly period | biweekly period =>
    cases right <;> simp [initial] at initials
    rename_i other
    unfold text at lists
    rw [String.toList_append, String.toList_append, Printed.toList_toString,
      Printed.toList_toString] at lists
    rw [Printed.written_inj (List.append_cancel_left lists)]
  | annual year =>
    cases right <;> simp [initial] at initials
    rename_i other
    unfold text at lists
    obtain ⟨zeros, written⟩ := IsoDate.padded_eq_written 4 year
    obtain ⟨others, otherWritten⟩ := IsoDate.padded_eq_written 4 other
    rw [String.toList_append, String.toList_append, written, otherWritten] at lists
    rw [Printed.written_inj (List.append_cancel_left lists)]
  | oneTime =>
    cases right <;> simp [initial] at initials
    rfl

/-- A source id is the number of the schedule and the slot, with a colon between them. -/
theorem toList_projectionSourceId (scheduleId : ℤ) (slot : String) :
    (projectionSourceId scheduleId slot).toList =
      "stream_schedule:".toList ++ (Printed.written 0 scheduleId ++ ':' :: slot.toList) := by
  unfold projectionSourceId
  have colon : ":".toList = [':'] := by decide
  rw [String.toList_append, String.toList_append, String.toList_append, Printed.toList_toString,
    colon, List.append_assoc, List.append_assoc, List.singleton_append]

/-- The texts of source ids tell schedules and slots apart. -/
theorem projectionSourceId_inj {scheduleId otherId : ℤ} {slot other : String}
    (same : projectionSourceId scheduleId slot = projectionSourceId otherId other) :
    scheduleId = otherId ∧ slot = other := by
  have lists := congrArg String.toList same
  rw [toList_projectionSourceId, toList_projectionSourceId] at lists
  -- The number of the schedule has no colon.
  obtain ⟨ids, slots⟩ := Printed.splitFirst_inj
    (Printed.not_mem_written (by decide) (by decide) 0 scheduleId)
    (Printed.not_mem_written (by decide) (by decide) 0 otherId) (List.append_cancel_left lists)
  exact ⟨Printed.written_inj ids, String.toList_injective slots⟩

/-- Two occurrences of a schedule, of whatever windows, never share the text of a slot, and the
source ids tell schedules and slots apart. -/
theorem projectionKeys_injective :
    (∀ (frequency : ScheduleFrequency) (anchor from_ through otherFrom otherThrough : IsoDate)
      (dayOfMonth : Option ℕ) (dates others : List IsoDate),
      scheduleOccurrences frequency anchor from_ through dayOfMonth = .ok dates →
      scheduleOccurrences frequency anchor otherFrom otherThrough dayOfMonth = .ok others →
      ∀ left ∈ dates, ∀ right ∈ others,
        (projectionSlot frequency anchor left).text =
          (projectionSlot frequency anchor right).text → left = right) ∧
    ∀ (scheduleId otherId : ℤ) (slot other : String),
      projectionSourceId scheduleId slot = projectionSourceId otherId other →
        scheduleId = otherId ∧ slot = other := by
  refine ⟨?_, fun _ _ _ _ => projectionSourceId_inj⟩
  intro frequency anchor from_ through otherFrom otherThrough dayOfMonth dates others found foundOther
    left leftIn right rightIn same
  have slots := Slot.text_inj (projectionSlot_dated frequency anchor left)
    (projectionSlot_dated frequency anchor right) same
  exact projectionSlot_injective ((mem_scheduleOccurrences found left).mp leftIn).2
    ((mem_scheduleOccurrences foundOther right).mp rightIn).2 slots

/-- The last day of January in a leap year. -/
def lastOfJanuary : IsoDate := dayAt 2024 1 30 (by decide)

/-- The last day of February in a leap year. -/
def leapDay : IsoDate := dayAt 2024 2 28 (by decide)

/-- Occurrences on the last days of two months have slots of their own, and so have schedules one
and eleven. -/
theorem projectionKeys_injective_clamped :
    (projectionSlot .monthly lastOfJanuary lastOfJanuary).text ≠
        (projectionSlot .monthly lastOfJanuary leapDay).text ∧
      projectionSourceId 1 "1:weekly:0" ≠ projectionSourceId 11 "weekly:0" := by
  have found : scheduleOccurrences .monthly lastOfJanuary lastOfJanuary leapDay (some 31) =
      .ok [lastOfJanuary, leapDay] := by decide +kernel
  constructor
  · intro same
    have one := projectionKeys_injective.1 .monthly lastOfJanuary lastOfJanuary leapDay
      lastOfJanuary leapDay (some 31) _ _ found found lastOfJanuary (by simp) leapDay (by simp) same
    exact absurd (congrArg IsoDate.dayNumber one) (by decide)
  · intro same
    exact absurd (projectionKeys_injective.2 1 11 _ _ same).1 (by decide)

end FinStream
