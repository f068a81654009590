import FinStream.Finance.SlotText
import FinStream.Integrations.DateReading

/-! The stored text of a payment's identity, which tells accepted payments apart. -/

namespace FinStream

open Calendar Store

/-- The identity of a payment as it is stored. -/
def PaymentIdentity.text (identity : PaymentIdentity) : String :=
  "history:" ++ identity.loanAccount ++ ":" ++ identity.checkDate ++ ":" ++ toString identity.cents

/-! ### Identities -/

/-- The date of an accepted payment has no colon. -/
theorem requiredDate_plain {label value date : String}
    (read : requiredDate label value = .ok date) : ':' ∉ date.toList := by
  simp only [requiredDate, bind_eq_ok, ensure_eq_ok, pure_eq_ok] at read
  obtain ⟨_, parsed, rfl⟩ := read
  intro member
  have refused : isDateCharacter ':' = false := by decide
  rw [parseNaiveDate_date parsed ':' member] at refused
  cases refused

/-- Texts tell identities apart whose dates have no colon, whatever their loan accounts have. -/
theorem PaymentIdentity.text_inj {left right : PaymentIdentity}
    (leftDate : ':' ∉ left.checkDate.toList) (rightDate : ':' ∉ right.checkDate.toList)
    (same : left.text = right.text) : left = right := by
  have parts : ∀ identity : PaymentIdentity, identity.text.toList = "history:".toList ++
      ((identity.loanAccount.toList ++ ':' :: identity.checkDate.toList) ++ ':' ::
        Printed.written 0 identity.cents) := by
    intro identity
    have colon : ":".toList = [':'] := by decide
    unfold text
    rw [String.toList_append, String.toList_append, String.toList_append, String.toList_append,
      String.toList_append, Printed.toList_toString, colon]
    simp only [List.append_assoc, List.cons_append, List.nil_append]
  have lists := congrArg String.toList same
  rw [parts, parts] at lists
  -- The cents follow the last colon, and the date follows the last one before it.
  obtain ⟨fronts, cents⟩ := Printed.splitLast_inj
    (Printed.not_mem_written (by decide) (by decide) 0 left.cents)
    (Printed.not_mem_written (by decide) (by decide) 0 right.cents) (List.append_cancel_left lists)
  obtain ⟨accounts, dates⟩ := Printed.splitLast_inj leftDate rightDate fronts
  cases left
  cases right
  simp only [PaymentIdentity.mk.injEq]
  exact ⟨String.toList_injective accounts, String.toList_injective dates, Printed.written_inj cents⟩

/-- The identity of an accepted payment has its loan account and a date without a colon. -/
theorem capturedIdentity_parts {platform : Platform} {label : String} {payment : TmoPayment}
    {identity : PaymentIdentity}
    (identified : capturedIdentity platform label payment = .ok identity) :
    identity.loanAccount = payment.loanAccount ∧ ':' ∉ identity.checkDate.toList := by
  simp only [capturedIdentity, paymentExternalId, bind_eq_ok, pure_eq_ok] at identified
  obtain ⟨date, read, _, -, rfl⟩ := identified
  exact ⟨rfl, requiredDate_plain read⟩

/-- Validated payments have an identity each. -/
theorem validatePayments_identified {platform : Platform} (payments : List TmoPayment)
    {seen : List PaymentIdentity} {done : Unit}
    (valid : validatePayments platform payments seen = .ok done) :
    ∀ payment ∈ payments, ∃ identity,
      capturedIdentity platform "TMO payment check date" payment = .ok identity := by
  induction payments generalizing seen with
  | nil => exact fun _ member => absurd member List.not_mem_nil
  | cons payment rest ih =>
    simp only [validatePayments, bind_eq_ok] at valid
    obtain ⟨_, -, _, -, identity, identified, _, -, others⟩ := valid
    rw [List.forall_mem_cons]
    exact ⟨⟨identity, identified⟩, ih others⟩

/-- Two payments that validation accepts have one external id only if their loan accounts, their
dates and their amounts in cents are the same. -/
theorem paymentExternalId_injective {platform : Platform} {capture other : TmoSyncCapture}
    (valid : validateCapture platform capture = .ok ⟨⟩)
    (otherValid : validateCapture platform other = .ok ⟨⟩) {payment otherPayment : TmoPayment}
    (member : payment ∈ capture.payments) (otherMember : otherPayment ∈ other.payments) :
    ∃ date otherDate identity otherIdentity,
      requiredDate "TMO payment check date" payment.checkDate = .ok date ∧
      requiredDate "TMO payment check date" otherPayment.checkDate = .ok otherDate ∧
      paymentExternalId platform payment date = .ok identity ∧
      paymentExternalId platform otherPayment otherDate = .ok otherIdentity ∧
      (identity.text = otherIdentity.text → payment.loanAccount = otherPayment.loanAccount ∧
        date = otherDate ∧ identity.cents = otherIdentity.cents) := by
  simp only [validateCapture, bind_eq_ok] at valid otherValid
  obtain ⟨_, -, _, -, _, -, _, -, _, -, _, -, _, -, payments⟩ := valid
  obtain ⟨_, -, _, -, _, -, _, -, _, -, _, -, _, -, otherPayments⟩ := otherValid
  obtain ⟨identity, identified⟩ := validatePayments_identified _ payments payment member
  obtain ⟨otherIdentity, otherIdentified⟩ :=
    validatePayments_identified _ otherPayments otherPayment otherMember
  -- The date of an identity has no colon, so its text tells the parts apart.
  obtain ⟨account, plain⟩ := capturedIdentity_parts identified
  obtain ⟨otherAccount, otherPlain⟩ := capturedIdentity_parts otherIdentified
  simp only [capturedIdentity, bind_eq_ok] at identified otherIdentified
  obtain ⟨date, read, named⟩ := identified
  obtain ⟨otherDate, otherRead, otherNamed⟩ := otherIdentified
  refine ⟨date, otherDate, identity, otherIdentity, read, otherRead, named, otherNamed, ?_⟩
  intro same
  obtain rfl := PaymentIdentity.text_inj plain otherPlain same
  simp only [paymentExternalId, bind_eq_ok, pure_eq_ok] at named otherNamed
  obtain ⟨_, -, rfl⟩ := named
  obtain ⟨_, -, parts⟩ := otherNamed
  exact ⟨account.symm.trans otherAccount, (congrArg PaymentIdentity.checkDate parts).symm, rfl⟩

/-- A check for a loan account. -/
def accountCheck (loanAccount : String) : TmoPayment :=
  ⟨"1001", loanAccount, "2026-01-05", .finite 5, .finite 0, .finite 5, .finite 0, .finite 0,
    .finite 0, .finite 0, "Borrower", "Property"⟩

/-- A capture of one check. -/
def accountCapture (loanAccount : String) : TmoSyncCapture where
  connectionId := 1
  capturedAt := "2026-01-07T00:00:00Z"
  snapshotDate := "2026-01-07"
  companyId := "company"
  accountNumber := "account"
  user := ⟨"1", "company", "account", "Lender", "lender@example.com"⟩
  overview := ⟨.finite 0, .finite 0, .finite 0, .finite 0, 0, .finite 0, .finite 0, .finite 0⟩
  loans := []
  loanDetails := []
  loanDetailFailures := 0
  payments := [accountCheck loanAccount]

/-- A loan account that looks like the whole text of another payment has payments of its own. -/
theorem paymentExternalId_injective_colons : ∃ identity otherIdentity,
    paymentExternalId plainPlatform (accountCheck "L") "2026-01-05" = .ok identity ∧
    paymentExternalId plainPlatform (accountCheck "L:2026-01-05:500") "2026-01-05" =
      .ok otherIdentity ∧ identity.text ≠ otherIdentity.text := by
  have valid : validateCapture plainPlatform (accountCapture "L") = .ok ⟨⟩ := by decide +kernel
  have otherValid : validateCapture plainPlatform (accountCapture "L:2026-01-05:500") = .ok ⟨⟩ := by
    decide +kernel
  obtain ⟨date, otherDate, identity, otherIdentity, read, otherRead, named, otherNamed, apart⟩ :=
    paymentExternalId_injective valid otherValid List.mem_cons_self List.mem_cons_self
  have stored : requiredDate "TMO payment check date" "2026-01-05" = .ok "2026-01-05" := by
    decide +kernel
  obtain rfl : date = "2026-01-05" := Except.ok.inj (read.symm.trans stored)
  obtain rfl : otherDate = "2026-01-05" := Except.ok.inj (otherRead.symm.trans stored)
  exact ⟨identity, otherIdentity, named, otherNamed, fun same => absurd (apart same).1 (by decide)⟩

/-! ### Source ids -/

/-- The source id of an event as it is stored. -/
def SourceId.text : SourceId → String
  | .streamSchedule scheduleId slot => projectionSourceId scheduleId slot.text
  | .manual eventId => "manual:" ++ toString (eventId : ℤ)
  | .history payment => payment.text

/-- A source id as the writers form it: the month of a slot exists, and a date has no colon. -/
def SourceId.Formed : SourceId → Prop
  | .streamSchedule _ slot => slot.Dated
  | .manual _ => True
  | .history payment => ':' ∉ payment.checkDate.toList

/-- Texts tell source ids apart, of one writer or of two. -/
theorem SourceId.text_inj {left right : SourceId} (leftFormed : left.Formed)
    (rightFormed : right.Formed) (same : left.text = right.text) : left = right := by
  -- Each writer has an initial of its own.
  have initials : ∀ id : SourceId, id.text.toList.head? = some (match id with
      | .streamSchedule _ _ => 's'
      | .manual _ => 'm'
      | .history _ => 'h') := by
    intro id
    cases id with
    | streamSchedule scheduleId slot =>
      have schedule : "stream_schedule:".toList.head? = some 's' := by decide
      exact Printed.head?_append (Printed.head?_append (Printed.head?_append schedule _) _) _
    | manual eventId =>
      have manual : "manual:".toList.head? = some 'm' := by decide
      exact Printed.head?_append manual _
    | history payment =>
      have history : "history:".toList.head? = some 'h' := by decide
      exact Printed.head?_append (Printed.head?_append (Printed.head?_append
        (Printed.head?_append (Printed.head?_append history _) _) _) _) _
  have heads := congrArg (·.toList.head?) same
  simp only [initials, Option.some.injEq] at heads
  cases left with
  | streamSchedule scheduleId slot =>
    cases right <;> simp at heads
    simp only [text] at same
    obtain ⟨ids, slots⟩ := projectionSourceId_inj same
    rw [Nat.cast_injective ids, Slot.text_inj leftFormed rightFormed slots]
  | manual eventId =>
    cases right <;> simp at heads
    rename_i other
    have lists := congrArg String.toList same
    simp only [text, String.toList_append, List.append_cancel_left_eq, Printed.toList_toString]
      at lists
    rw [Nat.cast_injective (Printed.written_inj lists)]
  | history payment =>
    cases right <;> simp at heads
    simp only [text] at same
    rw [PaymentIdentity.text_inj leftFormed rightFormed same]

end FinStream
