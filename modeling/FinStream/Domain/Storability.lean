import FinStream.Domain.DetailCoverage
import FinStream.Integrations.PaymentText

/-! Which validated captures the schema stores. -/

namespace FinStream

open Calendar Store

/-! ### Dates -/

/-- The date part of a provider timestamp. -/
def datePart (value : String) : String :=
  trim (String.ofList (value.toList.takeWhile (· != 'T')))

/-- Whether a text is a date in the fixed-width form that the schema stores. -/
def isStoredDate (value : String) : Bool := (IsoDate.fromStr value).toOption.isSome

/-- The fixed-width form of a date is one of the forms that validation reads. -/
theorem parseNaiveDate_isSome {value : String} (stored : isStoredDate value = true) :
    (parseNaiveDate value).isSome = true := by
  obtain ⟨date, read⟩ := Option.isSome_iff_exists.mp stored
  obtain ⟨era, rfl⟩ := IsoDate.fromStr_eq_ok.mp (toOption_eq_some.mp read)
  rw [parseNaiveDate_toText era]
  rfl

/-- The schema stores a date in its fixed-width form and no other. -/
theorem checkDateText_isOk {value : String} :
    (∃ date, checkDateText value = .ok date) ↔ isStoredDate value = true := by
  unfold checkDateText isStoredDate
  cases IsoDate.fromStr value with
  | ok date => simp [Except.mapError, Except.toOption]
  | error error => simp [Except.mapError, Except.toOption]

/-- A date is read from its part of the timestamp. -/
theorem requiredDate_eq_ok {label value date : String} :
    requiredDate label value = .ok date ↔
      date = datePart value ∧ (parseNaiveDate (datePart value)).isSome = true := by
  simp only [requiredDate, bind_eq_ok, ensure_eq_ok, pure_eq_ok]
  constructor
  · rintro ⟨_, parsed, rfl⟩
    exact ⟨rfl, parsed⟩
  · rintro ⟨rfl, parsed⟩
    exact ⟨⟨⟩, parsed, rfl⟩

/-- A timestamp whose date part has the fixed-width form is read. -/
theorem requiredDate_of_stored {label value : String} (stored : isStoredDate (datePart value)) :
    requiredDate label value = .ok (datePart value) :=
  requiredDate_eq_ok.mpr ⟨rfl, parseNaiveDate_isSome stored⟩

/-- Whether the schema stores the date part of a timestamp that may be missing or blank. -/
def isStoredOptionalDate (value : Option String) : Bool :=
  (cleanOptional value).all fun value => isStoredDate (datePart value)

/-- An optional timestamp is read as its date part. -/
theorem optionalDate_of_stored {label : String} {value : Option String}
    (stored : isStoredOptionalDate value = true) :
    optionalDate label value = .ok ((cleanOptional value).map datePart) := by
  unfold isStoredOptionalDate at stored
  unfold optionalDate
  cases cleaned : cleanOptional value with
  | none => rfl
  | some text =>
    rw [cleaned, Option.all_some] at stored
    simp only [requiredDate_of_stored stored]
    rfl

/-- The date read from an optional timestamp is its date part. -/
theorem optionalDate_eq_ok {label : String} {value date : Option String}
    (read : optionalDate label value = .ok date) : date = (cleanOptional value).map datePart := by
  unfold optionalDate at read
  cases cleaned : cleanOptional value with
  | none =>
    rw [cleaned] at read
    exact (Except.ok.inj read).symm
  | some text =>
    simp only [cleaned, bind_eq_ok, pure_eq_ok, requiredDate_eq_ok] at read
    obtain ⟨_, ⟨rfl, -⟩, rfl⟩ := read
    rfl

/-- Dates are stored together exactly when each of them is. -/
theorem checkDates_isOk {dates : List String} :
    (dates.forM fun date => do let _ ← checkDateText date) = .ok ⟨⟩ ↔
      ∀ date ∈ dates, isStoredDate date = true := by
  constructor
  · intro checked date member
    have one := forM_eq_ok checked date member
    simp only [bind_eq_ok] at one
    obtain ⟨day, read, -⟩ := one
    exact checkDateText_isOk.mp ⟨day, read⟩
  · intro stored
    refine forM_ok fun date member => ?_
    obtain ⟨day, read⟩ := checkDateText_isOk.mpr (stored date member)
    simp only [bind_eq_ok]
    exact ⟨day, read, rfl⟩

/-! ### What the schema stores of a capture -/

/-- Figures whose magnitude the schema stores. -/
def storesFigures (figures : List F64) : Bool := figures.all fun figure => realFits figure.value

/-- Whether the schema stores a loan of the portfolio. -/
structure TmoLoanSummary.Storable (loan : TmoLoanSummary) : Prop where
  dates : ∀ date ∈ [loan.maturityDate, loan.nextPaymentDate, loan.interestPaidToDate],
    isStoredDate (datePart date) = true
  billedThrough : isStoredOptionalDate loan.billedThrough = true
  figures : storesFigures [loan.percentOwned, loan.interestRate, loan.regularPayment,
    loan.loanBalance] = true

/-- Whether the schema stores a loan detail. -/
structure TmoLoanDetail.Storable (detail : TmoLoanDetail) : Prop where
  dates : ∀ date ∈ [detail.maturityDate, detail.nextPaymentDate, detail.interestPaidToDate],
    isStoredDate (datePart date) = true
  figures : storesFigures ([detail.originalBalance, detail.principalBalance, detail.noteRate,
    detail.regularPayment] ++ [detail.ltv, detail.appraisedValue].filterMap id) = true

/-- Whether the schema stores a captured payment. -/
structure TmoPayment.Stored (payment : TmoPayment) : Prop where
  date : isStoredDate (datePart payment.checkDate) = true
  figures : storesFigures [payment.amount, payment.serviceFee, payment.interest,
    payment.principal, payment.charges, payment.lateCharges, payment.other] = true

/-- The figures of an overview. -/
def TmoOverview.all (overview : TmoOverview) : List F64 :=
  [overview.portfolioValue, overview.portfolioYield, overview.ytdInterest, overview.ytdPrincipal,
    overview.trustBalance, overview.outstandingChecksValue, overview.ytdServFees]

/-- Whether the schema stores the time of a capture. -/
def TmoSyncCapture.Stamped (platform : Platform) (capture : TmoSyncCapture) : Prop :=
  20 ≤ capture.capturedAt.length ∧ platform.datetimeValid capture.capturedAt = true

/-- Whether the schema stores everything in a capture. -/
structure TmoSyncCapture.Storable (platform : Platform) (capture : TmoSyncCapture) : Prop where
  stamped : capture.Stamped platform
  /-- The snapshot date is stored as it is, without taking its date part. -/
  snapshotDate : isStoredDate capture.snapshotDate = true
  overview : storesFigures capture.overview.all = true
  loans : ∀ loan ∈ capture.loans, loan.Storable
  details : ∀ detail ∈ capture.loanDetails, detail.Storable
  payments : ∀ payment ∈ capture.payments, payment.Stored

/-- Figures are stored together exactly when each of them is. -/
theorem checkReals_isOk (figures : List F64) :
    checkReals (figures.map F64.value) = .ok ⟨⟩ ↔ storesFigures figures = true := by
  simp [checkReals, storesFigures]

/-- The dates of a loan are read and stored exactly when they have the fixed-width form. -/
theorem loanDates_isOk {loan : TmoLoanSummary} :
    (∃ dates, loanDates loan = .ok dates) ↔
      (∀ date ∈ [loan.maturityDate, loan.nextPaymentDate, loan.interestPaidToDate],
        isStoredDate (datePart date) = true) ∧ isStoredOptionalDate loan.billedThrough = true := by
  simp only [loanDates, bind_eq_ok, pure_eq_ok]
  constructor
  · -- What was read is what the schema was given to check.
    rintro ⟨_, _, maturity, _, payment, _, interest, billed, read, _, stored, -⟩
    obtain ⟨rfl, -⟩ := requiredDate_eq_ok.mp maturity
    obtain ⟨rfl, -⟩ := requiredDate_eq_ok.mp payment
    obtain ⟨rfl, -⟩ := requiredDate_eq_ok.mp interest
    obtain rfl := optionalDate_eq_ok read
    have stored := checkDates_isOk.mp stored
    simp only [List.forall_mem_cons] at stored ⊢
    obtain ⟨first, second, third, optional⟩ := stored
    refine ⟨⟨first, second, third, fun _ member => absurd member List.not_mem_nil⟩, ?_⟩
    -- A blank date is dropped before the schema sees it.
    cases cleaned : cleanOptional loan.billedThrough <;>
      simp_all [isStoredOptionalDate]
  · -- A fixed-width date is its own normal form.
    rintro ⟨dates, billed⟩
    simp only [List.forall_mem_cons] at dates
    obtain ⟨first, second, third, -⟩ := dates
    refine ⟨_, _, requiredDate_of_stored first, _, requiredDate_of_stored second, _,
      requiredDate_of_stored third, _, optionalDate_of_stored billed, ⟨⟩,
      checkDates_isOk.mpr ?_, rfl⟩
    simp only [List.forall_mem_cons]
    refine ⟨first, second, third, ?_⟩
    cases cleaned : cleanOptional loan.billedThrough <;>
      simp_all [isStoredOptionalDate]

/-! ### The statements of a sync -/

/-- A loan is stored exactly when the schema stores it. -/
theorem syncLoan_isOk {capture : TmoSyncCapture} {streamId : ℕ} {loan : TmoLoanSummary}
    {db : Integrations} : (∃ after, syncLoan capture streamId loan db = .ok after) ↔
      loan.Storable := by
  have reals := checkReals_isOk [loan.percentOwned, loan.interestRate, loan.regularPayment,
    loan.loanBalance]
  simp only [List.map_cons, List.map_nil] at reals
  simp only [syncLoan, bind_eq_ok, pure_eq_ok]
  constructor
  · rintro ⟨_, dates, read, _, figures, -⟩
    obtain ⟨stored, billed⟩ := loanDates_isOk.mp ⟨dates, read⟩
    exact ⟨stored, billed, reals.mp figures⟩
  · rintro ⟨stored, billed, figures⟩
    obtain ⟨dates, read⟩ := loanDates_isOk.mpr ⟨stored, billed⟩
    exact ⟨_, dates, read, ⟨⟩, reals.mpr figures, rfl⟩

/-- Whether an account of the connection has a row. -/
def TmoSyncCapture.HasRow (capture : TmoSyncCapture) (account : String)
    (loans : Table TmoImportLoan) : Prop :=
  ∃ id row, (id, row) ∈ loans ∧ capture.Names account row

/-- Storing a loan leaves a row for its account, and takes none from the others. -/
theorem syncLoan_hasRow {capture : TmoSyncCapture} {streamId : ℕ} {loan : TmoLoanSummary}
    {db after : Integrations} (done : syncLoan capture streamId loan db = .ok after) :
    capture.HasRow loan.loanAccount after.loans ∧
      ∀ account, capture.HasRow account db.loans → capture.HasRow account after.loans := by
  simp only [syncLoan, bind_eq_ok, pure_eq_ok] at done
  obtain ⟨dates, -, _, -, rfl⟩ := done
  dsimp only
  have fresh : capture.Names loan.loanAccount (loan.row capture streamId dates) := ⟨rfl, rfl⟩
  generalize loan.row capture streamId dates = row at fresh
  -- The upserted row is the loan's, whether it is new or not.
  obtain ⟨stored, member, origin⟩ := db.loans.upsert_stored (fun row =>
    row.connectionId == capture.connectionId && row.loanAccount == loan.loanAccount) row
    row.resummarized
  have named : capture.Names loan.loanAccount stored := by
    rcases origin with rfl | ⟨old, -, same, rfl⟩
    · exact fresh
    · simp only [Bool.and_eq_true, beq_iff_eq] at same
      exact same
  refine ⟨⟨_, stored, member, named⟩, ?_⟩
  rintro account ⟨id, old, there, names⟩
  by_cases here : id = (db.loans.upsert (fun row => row.connectionId == capture.connectionId &&
      row.loanAccount == loan.loanAccount) row row.resummarized).1
  · -- The row that was there is the loan's too.
    subst here
    have same := Table.upsert_conflicts there
    simp only [Bool.and_eq_true, beq_iff_eq] at same
    exact ⟨_, stored, member, named.1, by rw [named.2, ← same.2, names.2]⟩
  · exact ⟨id, old, (Table.mem_upsert_of_ne here).mpr there, names⟩

/-- The loans are stored exactly when the schema stores each of them. -/
theorem syncLoans_isOk {capture : TmoSyncCapture} {streamId : ℕ} (loans : List TmoLoanSummary)
    (db : Integrations) : (∃ after, syncLoans capture streamId loans db = .ok after) ↔
      ∀ loan ∈ loans, loan.Storable := by
  induction loans generalizing db with
  | nil => exact ⟨fun _ _ member => absurd member List.not_mem_nil, fun _ => ⟨db, rfl⟩⟩
  | cons loan rest ih =>
    simp only [syncLoans, bind_eq_ok, List.forall_mem_cons]
    constructor
    · rintro ⟨after, middle, first, others⟩
      exact ⟨syncLoan_isOk.mp ⟨middle, first⟩, (ih middle).mp ⟨after, others⟩⟩
    · rintro ⟨storable, others⟩
      obtain ⟨middle, first⟩ := syncLoan_isOk.mpr storable
      obtain ⟨after, last⟩ := (ih middle).mpr others
      exact ⟨after, middle, first, last⟩

/-- Every stored loan has a row. -/
theorem syncLoans_hasRow {capture : TmoSyncCapture} {streamId : ℕ} (loans : List TmoLoanSummary)
    {db after : Integrations} (done : syncLoans capture streamId loans db = .ok after) :
    (∀ loan ∈ loans, capture.HasRow loan.loanAccount after.loans) ∧
      ∀ account, capture.HasRow account db.loans → capture.HasRow account after.loans := by
  induction loans generalizing db with
  | nil =>
    simp only [syncLoans, pure_eq_ok] at done
    subst done
    exact ⟨fun _ member => absurd member List.not_mem_nil, fun _ => id⟩
  | cons loan rest ih =>
    simp only [syncLoans, bind_eq_ok] at done
    obtain ⟨middle, first, others⟩ := done
    obtain ⟨stored, kept⟩ := syncLoan_hasRow first
    obtain ⟨storedLater, keptLater⟩ := ih others
    refine ⟨fun other member => ?_, fun account row => keptLater account (kept account row)⟩
    rcases List.mem_cons.mp member with rfl | later
    · exact keptLater _ stored
    · exact storedLater other later

/-- A detail of a loan with a row is stored exactly when the schema stores it. -/
theorem syncLoanDetail_isOk {capture : TmoSyncCapture} {detail : TmoLoanDetail} {db : Integrations}
    (present : capture.HasRow detail.loanAccount db.loans) :
    (∃ after, syncLoanDetail capture detail db = .ok after) ↔ detail.Storable := by
  have reals := checkReals_isOk ([detail.originalBalance, detail.principalBalance, detail.noteRate,
    detail.regularPayment] ++ [detail.ltv, detail.appraisedValue].filterMap id)
  -- The update names its loan by account, and the loan step has stored the row.
  have found : ∃ id row, (id, row) ∈ db.loans ∧ row.connectionId = capture.connectionId ∧
      row.loanAccount = detail.loanAccount := present
  simp only [syncLoanDetail, bind_eq_ok, pure_eq_ok, ensure_eq_ok, Table.find?_isSome,
    Bool.and_eq_true, beq_iff_eq]
  constructor
  · -- No date of a detail is optional, and all of them reach the schema.
    rintro ⟨_, _, maturity, _, payment, _, interest, _, -, _, stored, _, figures, -⟩
    obtain ⟨rfl, -⟩ := requiredDate_eq_ok.mp maturity
    obtain ⟨rfl, -⟩ := requiredDate_eq_ok.mp payment
    obtain ⟨rfl, -⟩ := requiredDate_eq_ok.mp interest
    have stored := checkDates_isOk.mp stored
    simp only [List.forall_mem_cons] at stored
    obtain ⟨first, second, third, -⟩ := stored
    refine ⟨?_, reals.mp figures⟩
    simp only [List.forall_mem_cons]
    exact ⟨first, second, third, fun _ member => absurd member List.not_mem_nil⟩
  · -- No other check stands between a storable detail and its row.
    rintro ⟨dates, figures⟩
    simp only [List.forall_mem_cons] at dates
    obtain ⟨first, second, third, -⟩ := dates
    refine ⟨_, _, requiredDate_of_stored first, _, requiredDate_of_stored second, _,
      requiredDate_of_stored third, ⟨⟩, found, ⟨⟩, checkDates_isOk.mpr ?_, ⟨⟩,
      reals.mpr figures, rfl⟩
    simp only [List.forall_mem_cons]
    exact ⟨first, second, third, fun _ member => absurd member List.not_mem_nil⟩

/-- Storing a detail takes no row from any account. -/
theorem syncLoanDetail_hasRow {capture : TmoSyncCapture} {detail : TmoLoanDetail}
    {db after : Integrations} (done : syncLoanDetail capture detail db = .ok after)
    {account : String} (row : capture.HasRow account db.loans) :
    capture.HasRow account after.loans := by
  have alone : syncLoanDetails capture [detail] db = .ok after := by
    simp only [syncLoanDetails, bind_eq_ok, pure_eq_ok]
    exact ⟨after, done, rfl⟩
  exact (syncLoanDetails_stores [detail] alone).kept account row

/-- The details of loans with rows are stored exactly when the schema stores each of them. -/
theorem syncLoanDetails_isOk {capture : TmoSyncCapture} (details : List TmoLoanDetail)
    {db : Integrations}
    (present : ∀ detail ∈ details, capture.HasRow detail.loanAccount db.loans) :
    (∃ after, syncLoanDetails capture details db = .ok after) ↔
      ∀ detail ∈ details, detail.Storable := by
  induction details generalizing db with
  | nil => exact ⟨fun _ _ member => absurd member List.not_mem_nil, fun _ => ⟨db, rfl⟩⟩
  | cons detail rest ih =>
    simp only [syncLoanDetails, bind_eq_ok, List.forall_mem_cons] at present ⊢
    have still : ∀ middle, syncLoanDetail capture detail db = .ok middle →
        ∀ other ∈ rest, capture.HasRow other.loanAccount middle.loans :=
      fun middle done other member => syncLoanDetail_hasRow done (present.2 other member)
    constructor
    · rintro ⟨after, middle, first, others⟩
      exact ⟨(syncLoanDetail_isOk present.1).mp ⟨middle, first⟩,
        (ih (still middle first)).mp ⟨after, others⟩⟩
    · rintro ⟨storable, others⟩
      obtain ⟨middle, first⟩ := (syncLoanDetail_isOk present.1).mpr storable
      obtain ⟨after, last⟩ := (ih (still middle first)).mpr others
      exact ⟨after, middle, first, last⟩

/-- A validated payment is stored exactly when the schema stores it. -/
theorem TmoPayment.storable_iff {platform : Platform} {payment : TmoPayment} {label : String}
    {identity : PaymentIdentity} (identified : capturedIdentity platform label payment = .ok identity) :
    payment.Storable platform ↔ payment.Stored := by
  have reals := checkReals_isOk [payment.amount, payment.serviceFee, payment.interest,
    payment.principal, payment.charges, payment.lateCharges, payment.other]
  simp only [capturedIdentity, bind_eq_ok] at identified
  obtain ⟨_, read, identified⟩ := identified
  obtain ⟨rfl, -⟩ := requiredDate_eq_ok.mp read
  constructor
  · rintro ⟨_, _, day, dated, -, checked, figures⟩
    obtain ⟨rfl, -⟩ := requiredDate_eq_ok.mp dated
    exact ⟨checkDateText_isOk.mp ⟨day, checked⟩, reals.mp figures⟩
  · rintro ⟨stored, figures⟩
    obtain ⟨day, checked⟩ := checkDateText_isOk.mpr stored
    exact ⟨_, identity, day, requiredDate_of_stored stored, identified, checked, reals.mpr figures⟩

/-- The connection is updated exactly when the schema stores the time of the capture. -/
theorem syncConnection_isOk {platform : Platform} {capture : TmoSyncCapture} {db : Integrations} :
    (∃ after, syncConnection platform capture db = .ok after) ↔ capture.Stamped platform := by
  simp [syncConnection, checkTimestamp, TmoSyncCapture.Stamped]

/-- The overview is stored exactly when the schema stores its date and its figures. -/
theorem syncOverview_isOk {capture : TmoSyncCapture} {db : Integrations} :
    (∃ after, syncOverview capture db = .ok after) ↔
      isStoredDate capture.snapshotDate = true ∧ storesFigures capture.overview.all = true := by
  have reals := checkReals_isOk capture.overview.all
  simp only [syncOverview, checkFigures, bind_eq_ok, pure_eq_ok]
  constructor
  · rintro ⟨_, day, dated, _, figures, -⟩
    exact ⟨checkDateText_isOk.mp ⟨day, dated⟩, reals.mp figures⟩
  · rintro ⟨dated, figures⟩
    obtain ⟨day, read⟩ := checkDateText_isOk.mpr dated
    exact ⟨_, day, read, ⟨⟩, reals.mpr figures, rfl⟩

section Sync

variable {platform : Platform} {capture : TmoSyncCapture} {streamId : ℕ}

/-- The portfolio of a validated capture is stored exactly when the schema stores all of it. -/
theorem syncPortfolio_isOk (counts : capture.CountedDetails) (db : Integrations) :
    (∃ after, syncPortfolio platform capture streamId db = .ok after) ↔
      capture.Stamped platform ∧ isStoredDate capture.snapshotDate = true ∧
        storesFigures capture.overview.all = true ∧ (∀ loan ∈ capture.loans, loan.Storable) ∧
        ∀ detail ∈ capture.loanDetails, detail.Storable := by
  -- Each detail belongs to a loan, and each loan has a row by then.
  have present : ∀ before after, syncLoans capture streamId capture.loans before = .ok after →
      ∀ detail ∈ capture.loanDetails, capture.HasRow detail.loanAccount after.loans := by
    intro before after stored detail member
    obtain ⟨loan, captured, same⟩ :=
      List.mem_map.mp (counts.known _ (List.mem_map_of_mem member))
    rw [← same]
    exact (syncLoans_hasRow _ stored).1 loan captured
  simp only [syncPortfolio, bind_eq_ok]
  constructor
  · rintro ⟨after, connected, connects, viewed, views, loaned, loans, details⟩
    obtain ⟨dated, figures⟩ := syncOverview_isOk.mp ⟨viewed, views⟩
    exact ⟨syncConnection_isOk.mp ⟨connected, connects⟩, dated, figures,
      (syncLoans_isOk _ _).mp ⟨loaned, loans⟩,
      (syncLoanDetails_isOk _ (present _ _ loans)).mp ⟨after, details⟩⟩
  · rintro ⟨stamped, dated, figures, loans, details⟩
    obtain ⟨connected, connects⟩ : ∃ connected, syncConnection platform capture db = .ok connected :=
      syncConnection_isOk.mpr stamped
    obtain ⟨viewed, views⟩ :
        ∃ viewed, syncOverview capture (syncAccount capture connected) = .ok viewed :=
      syncOverview_isOk.mpr ⟨dated, figures⟩
    obtain ⟨loaned, stored⟩ := (syncLoans_isOk capture.loans
      (stageLoans capture (syncSnapshot capture viewed))).mpr loans
    obtain ⟨after, last⟩ :=
      (syncLoanDetails_isOk capture.loanDetails (present _ _ stored)).mpr details
    exact ⟨after, connected, connects, viewed, views, loaned, stored, last⟩

/-- A validated capture is stored, in any reachable state with its connection and a stream, exactly
when the schema stores everything in it. -/
theorem applyTmoSync_stores_iff {db : Domain} (reached : (domainSystem platform).Reachable db)
    (valid : validateCapture platform capture = .ok ⟨⟩)
    (connected : requireTmoConnection db.integrations capture.connectionId = .ok ⟨⟩)
    (selected : requireTrustDeedStream db.finance = .ok streamId) :
    (∀ error, applyTmoSync platform capture db ≠ .error error) ↔ capture.Storable platform := by
  -- Validation has counted the rows and identified the payments.
  have counts := validateCapture_counted valid
  have identified : ∀ payment ∈ capture.payments, ∃ identity,
      capturedIdentity platform "TMO payment check date" payment = .ok identity := by
    simp only [validateCapture, bind_eq_ok] at valid
    obtain ⟨_, -, _, -, _, -, _, -, _, -, _, -, _, -, payments⟩ := valid
    exact validatePayments_identified _ payments
  constructor
  · intro accepted
    obtain ⟨result, done⟩ : ∃ result, applyTmoSync platform capture db = .ok result := by
      cases outcome : applyTmoSync platform capture db with
      | ok result => exact ⟨result, rfl⟩
      | error error => exact absurd outcome (accepted error)
    -- A stored capture went through the portfolio and through every payment.
    simp only [applyTmoSync, replacePaymentProjection, bind_eq_ok] at done
    obtain ⟨_, -, _, -, _, -, integrations, portfolio, _, ⟨middle, walked, -⟩, -⟩ := done
    obtain ⟨stamped, dated, figures, loans, details⟩ :=
      (syncPortfolio_isOk counts db.integrations).mp ⟨integrations, portfolio⟩
    refine ⟨stamped, dated, figures, loans, details, fun payment member => ?_⟩
    obtain ⟨identity, known⟩ := identified payment member
    exact (TmoPayment.storable_iff known).mp (normalizePayments_storable _ walked payment member)
  · rintro ⟨stamped, dated, figures, loans, details, payments⟩ error failed
    obtain ⟨integrations, portfolio⟩ := (syncPortfolio_isOk counts db.integrations).mpr
      ⟨stamped, dated, figures, loans, details⟩
    -- The rows the projection finds are shown in a reachable state, so no refusal is left.
    obtain ⟨result, done⟩ := applyTmoSync_ok valid connected selected portfolio
      (fun payment member => by
        obtain ⟨identity, known⟩ := identified payment member
        exact (TmoPayment.storable_iff known).mpr (payments payment member))
      (reachable_shown reached)
    rw [done] at failed
    cases failed

end Sync

/-- A capture with fixed-width dates and small figures is stored. -/
theorem applyTmoSync_stores_two_loans : (capturedDetails ["L-1"]).Storable plainPlatform ∧
    ∃ result, applyTmoSync plainPlatform (capturedDetails ["L-1"]) trustDeedsDomain =
      .ok result := by
  have valid : (validateCapture plainPlatform (capturedDetails ["L-1"])).toOption = some ⟨⟩ := by
    decide +kernel
  have connected : (requireTmoConnection trustDeedsDomain.integrations 1).toOption = some ⟨⟩ := by
    decide +kernel
  have selected : (requireTrustDeedStream trustDeedsDomain.finance).toOption = some 1 := by
    decide +kernel
  have storable : (capturedDetails ["L-1"]).Storable plainPlatform := by
    refine ⟨⟨by decide, rfl⟩, by decide +kernel, by decide +kernel, ?_, ?_,
      fun _ member => absurd member List.not_mem_nil⟩
    · rintro loan (_ | ⟨_, _ | ⟨_, ⟨⟩⟩⟩) <;>
        exact ⟨forall_mem_of_all (by decide +kernel), by decide +kernel, by decide +kernel⟩
    · rintro detail (_ | ⟨_, ⟨⟩⟩)
      exact ⟨forall_mem_of_all (by decide +kernel), by decide +kernel⟩
  have accepted := (applyTmoSync_stores_iff (replay_reachable (by decide +kernel))
    (toOption_eq_some.mp valid) (toOption_eq_some.mp connected)
    (toOption_eq_some.mp selected)).mpr storable
  refine ⟨storable, ?_⟩
  cases outcome : applyTmoSync plainPlatform (capturedDetails ["L-1"]) trustDeedsDomain with
  | ok result => exact ⟨result, rfl⟩
  | error error => exact absurd outcome (accepted error)

/-- A capture of two loans, one of which has its next payment on the given date. -/
def capturedNextPayment (nextPaymentDate : String) : TmoSyncCapture :=
  { capturedDetails ["L-1"] with
    loans := [{ loanOf "L-1" with nextPaymentDate }, loanOf "L-2"] }

/-- A date without its padding passes validation, and then the schema refuses it. -/
theorem applyTmoSync_refuses_short_date :
    (domainSystem plainPlatform).Reachable trustDeedsDomain ∧
      validateCapture plainPlatform (capturedNextPayment "2026-2-1T00:00:00") = .ok ⟨⟩ ∧
      applyTmoSync plainPlatform (capturedNextPayment "2026-2-1T00:00:00") trustDeedsDomain =
        .error (.storage "CHECK constraint failed: date") ∧
      applyTmoSync plainPlatform (capturedNextPayment "soon") trustDeedsDomain =
        .error (.validation "loan next-payment date is not a valid ISO date") := by
  have valid : (validateCapture plainPlatform
      (capturedNextPayment "2026-2-1T00:00:00")).toOption = some ⟨⟩ := by decide +kernel
  exact ⟨replay_reachable (by decide +kernel), toOption_eq_some.mp valid, by decide +kernel,
    by decide +kernel⟩

end FinStream
