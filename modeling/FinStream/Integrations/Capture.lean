import FinStream.Integrations.Models

/-! Validation of a provider capture, and the identity of a captured payment. -/

namespace FinStream

open Calendar Store

/-- An integration transaction: an error that rolls back, or a result with the tables to commit. -/
abbrev IntegrationResult (α : Type) := Except IntegrationError α

/-- Reads between one and `width` decimal digits. -/
def scanNumber (width : ℕ) (text : List Char) : Option (ℤ × List Char) :=
  let digits := (text.take width).takeWhile Char.isDigit
  if digits.isEmpty then none else some (IsoDate.digitsValue digits, text.drop digits.length)

/-- Reads a year: four digits at most, or any number of them after an explicit sign. -/
def scanYear : List Char → Option (ℤ × List Char)
  | '-' :: text => (scanNumber text.length text).map fun (year, rest) => (-year, rest)
  | '+' :: text => scanNumber text.length text
  | text => scanNumber 4 text

/-- Reads the separator of a date. -/
def scanDash : List Char → Option (List Char)
  | '-' :: rest => some rest
  | _ => none

/--
Reads a text as `%Y-%m-%d` the way the date library does.

Numbers may be preceded by whitespace, and the month and day may have a single digit.
-/
def parseNaiveDate (value : String) : Option (ℤ × ℤ × ℤ) := do
  let (year, text) ← scanYear (value.toList.dropWhile isWhitespace)
  let text ← scanDash text
  let (month, text) ← scanNumber 2 (text.dropWhile isWhitespace)
  let text ← scanDash text
  let (day, text) ← scanNumber 2 (text.dropWhile isWhitespace)
  if text.isEmpty ∧ -262143 ≤ year ∧ year ≤ 262142 ∧ 1 ≤ month ∧ month ≤ 12 ∧
      1 ≤ day ∧ day ≤ monthLength (12 * year + (month - 1)) then
    some (year, month, day)
  else none

/-- The date part of a provider timestamp, which must name a day. -/
def requiredDate (label value : String) : IntegrationResult String := do
  let date := trim (String.ofList (value.toList.takeWhile (· != 'T')))
  ensure (parseNaiveDate date).isSome (.validation s!"{label} is not a valid ISO date")
  pure date

/-- The date part of a provider timestamp that may be missing or blank. -/
def optionalDate (label : String) (value : Option String) : IntegrationResult (Option String) :=
  match cleanOptional value with
  | some value => do
    let date ← requiredDate label value
    pure (some date)
  | none => pure none

/-- Refuses numbers that are not finite. -/
def requireFinite (label : String) (values : List F64) : IntegrationResult Unit :=
  ensure (values.all F64.isFinite) (.validation s!"{label} contains a non-finite number")

/-- Refuses numbers that are given but not finite. -/
def requireOptionalFinite (label : String) (values : List (Option F64)) : IntegrationResult Unit :=
  requireFinite label (values.filterMap id)

/-- Whether a text occurs within another. -/
def containsText (part text : String) : Bool := text.toList.tails.any part.toList.isPrefixOf

/-- A check number, unless the provider has not issued one yet. -/
def normalizeCheckNumber (raw : String) : Option String :=
  let trimmed := trim raw
  if trimmed == "" || containsText "print" (String.ofList (trimmed.toList.map Char.toLower)) then
    none
  else some trimmed

/-- The nearest integer to a rational, away from zero when two are equally near. -/
def roundHalfAway (value : ℚ) : ℤ :=
  if 0 ≤ value then (value + 1 / 2).floor else -(-value + 1 / 2).floor

/-- The identity of a payment: its loan account, its check date and its amount in cents. -/
def paymentExternalId (platform : Platform) (payment : TmoPayment) (checkDate : String) :
    IntegrationResult PaymentIdentity := do
  let cents := platform.timesHundred payment.amount
  ensure (cents.isFinite && -2 ^ 63 ≤ cents.value && cents.value ≤ 2 ^ 63)
    (.validation "TMO payment amount cannot be represented as canonical cents")
  -- The conversion of a float to an integer saturates.
  pure ⟨payment.loanAccount, checkDate, min (roundHalfAway cents.value) (2 ^ 63 - 1)⟩

/-- The identity of a captured payment under the date it is stored with. -/
def capturedIdentity (platform : Platform) (label : String) (payment : TmoPayment) :
    IntegrationResult PaymentIdentity := do
  let checkDate ← requiredDate label payment.checkDate
  paymentExternalId platform payment checkDate

/-- Every loan of the portfolio has an account of its own, and finite figures. -/
def validateLoans : List TmoLoanSummary → List String → IntegrationResult (List String)
  | [], accounts => pure accounts
  | loan :: rest, accounts => do
    ensure (!isBlank loan.loanAccount && !accounts.contains loan.loanAccount)
      (.validation "TMO portfolio contains an empty or duplicate loan account")
    requireFinite "TMO loan summary"
      [loan.percentOwned, loan.interestRate, loan.regularPayment, loan.loanBalance]
    validateLoans rest (loan.loanAccount :: accounts)

/-- A loan detail belongs to a loan of the portfolio and has finite figures. -/
def validateLoanDetail (accounts : List String) (detail : TmoLoanDetail) :
    IntegrationResult Unit := do
  ensure (accounts.contains detail.loanAccount)
    (.validation "TMO loan detail is absent from the captured portfolio")
  requireFinite "TMO loan detail"
    [detail.originalBalance, detail.principalBalance, detail.noteRate, detail.regularPayment]
  requireOptionalFinite "TMO optional loan detail" [detail.ltv, detail.appraisedValue]

/-- Every payment has an account, finite figures and an identity of its own. -/
def validatePayments (platform : Platform) :
    List TmoPayment → List PaymentIdentity → IntegrationResult Unit
  | [], _ => pure ()
  | payment :: rest, seen => do
    ensure (!isBlank payment.loanAccount) (.validation "TMO payment loan account is empty")
    requireFinite "TMO payment" [payment.amount, payment.serviceFee, payment.interest,
      payment.principal, payment.charges, payment.lateCharges, payment.other]
    let identity ← capturedIdentity platform "TMO payment check date" payment
    ensure (!seen.contains identity) (.validation
      "TMO payment history contains a duplicate canonical payment identity")
    validatePayments platform rest (identity :: seen)

/-- The checks on a capture before anything is written. -/
def validateCapture (platform : Platform) (capture : TmoSyncCapture) : IntegrationResult Unit := do
  ensure (0 < capture.connectionId && !isBlank capture.companyId && !isBlank capture.accountNumber)
    (.validation "TMO capture identity is invalid")
  let _ ← requiredDate "TMO snapshot date" capture.snapshotDate
  ensure (capture.overview.portfolioCount == capture.loans.length)
    (.validation "TMO portfolio count does not match the complete loan capture")
  requireFinite "TMO overview" [capture.overview.portfolioValue, capture.overview.portfolioYield,
    capture.overview.ytdInterest, capture.overview.ytdPrincipal, capture.overview.trustBalance,
    capture.overview.outstandingChecksValue, capture.overview.ytdServFees]
  let accounts ← validateLoans capture.loans []
  capture.loanDetails.forM (validateLoanDetail accounts)
  ensure (0 ≤ capture.loanDetailFailures &&
      capture.loanDetails.length + capture.loanDetailFailures == capture.loans.length)
    (.validation "TMO loan-detail outcome counters do not match the portfolio")
  validatePayments platform capture.payments []

end FinStream
