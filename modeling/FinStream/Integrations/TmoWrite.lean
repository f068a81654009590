import FinStream.Finance.Repository
import FinStream.Integrations.Capture

/-! The write side of a TMO sync: one transaction that replaces the imported snapshot. -/

namespace FinStream

open Store

/-- The schema's CHECK on a stored timestamp. -/
def checkTimestamp (platform : Platform) (value : String) : IntegrationResult Unit :=
  ensure (20 ≤ value.length && platform.datetimeValid value)
    (.storage "CHECK constraint failed: timestamp")

/-- The schema's CHECK on the text of a date, which names a day once it has passed validation. -/
def checkDateText (value : String) : IntegrationResult IsoDate :=
  (IsoDate.fromStr value).mapError fun _ => .storage "CHECK constraint failed: date"

/-- The schema's CHECK on imported numbers. -/
def checkReals (values : List ℚ) : IntegrationResult Unit :=
  ensure (values.all realFits) (.storage "CHECK constraint failed: abs")

/-- The connection a capture names must be the TMO connection. -/
def requireTmoConnection (db : Integrations) (connectionId : ℕ) : IntegrationResult Unit :=
  ensure ((db.connections.get? connectionId).any (·.slug == "tmo"))
    (.storage "TMO integration connection is missing")

/-- The active stream payments are normalised into: by type first, then by kind, oldest first. -/
def trustDeedStream (streams : Table Stream) : Option (ℕ × Stream) :=
  (streams.find? fun _ stream => stream.isActive && stream.streamType == "mortgage_portfolio").or
    (streams.find? fun _ stream => stream.isActive && stream.kind == "tmo_trust")

/-- A sync needs a stream to normalise payments into. -/
def requireTrustDeedStream (db : Finance) : IntegrationResult ℕ :=
  required ((trustDeedStream db.streams).map Prod.fst) (.configuration
    "Trust Deeds stream is missing; run the explicit application bootstrap")

/-! ### Connection, account, overview and snapshot -/

/-- The warning a sync leaves on the connection when some loan details are missing. -/
def detailWarning (capture : TmoSyncCapture) : Option String :=
  if 0 < capture.loanDetailFailures then
    some s!"{capture.loanDetailFailures} TMO loan detail request(s) failed; portfolio summaries were synchronized."
  else none

/-- Records the outcome of the capture on the connection. -/
def syncConnection (platform : Platform) (capture : TmoSyncCapture) (db : Integrations) :
    IntegrationResult Integrations := do
  -- Every row of the sync carries this timestamp, so its CHECK fails here or nowhere.
  checkTimestamp platform capture.capturedAt
  pure { db with
    connections := db.connections.updateWhere
      (fun id connection => id == capture.connectionId && connection.slug == "tmo")
      fun connection => { connection with
        metadata := some (.connection capture.companyId capture.accountNumber)
        status := if (detailWarning capture).isSome then "degraded" else "active"
        lastError := detailWarning capture
        lastSyncedAt := some capture.capturedAt
        updatedAt := capture.capturedAt } }

/-- Stores the authenticated lender as the one account row. -/
def syncAccount (capture : TmoSyncCapture) (db : Integrations) : Integrations :=
  { db with
    tmoAccount := some {
      companyId := capture.user.companyId
      accountNumber := capture.user.account
      sourceRecId := capture.user.sourceRecId
      displayName := capture.user.name
      email := capture.user.email
      lastLoginAt := capture.capturedAt
      createdAt := (db.tmoAccount.map (·.createdAt)).getD capture.capturedAt
      updatedAt := capture.capturedAt } }

/-- The stored figures of an overview. -/
def TmoOverview.figures (overview : TmoOverview) : PortfolioFigures where
  portfolioValue := overview.portfolioValue.value
  portfolioYield := overview.portfolioYield.value
  portfolioCount := overview.portfolioCount
  ytdInterest := overview.ytdInterest.value
  ytdPrincipal := overview.ytdPrincipal.value
  trustBalance := overview.trustBalance.value
  outstandingChecks := overview.outstandingChecksValue.value
  serviceFees := overview.ytdServFees.value

/-- The schema's CHECK on stored portfolio figures. -/
def checkFigures (figures : PortfolioFigures) : IntegrationResult Unit :=
  checkReals [figures.portfolioValue, figures.portfolioYield, figures.ytdInterest,
    figures.ytdPrincipal, figures.trustBalance, figures.outstandingChecks, figures.serviceFees]

/-- Stores the overview as the connection's capture of the day. -/
def syncOverview (capture : TmoSyncCapture) (db : Integrations) :
    IntegrationResult Integrations := do
  let _ ← checkDateText capture.snapshotDate
  checkFigures capture.overview.figures
  pure { db with
    overviews := (db.overviews.upsert
      (fun row => row.connectionId == capture.connectionId &&
        row.snapshotDate == capture.snapshotDate)
      { connectionId := capture.connectionId
        snapshotDate := capture.snapshotDate
        figures := capture.overview.figures
        processingState := .captured
        rawPayload := capture.overview
        createdAt := capture.capturedAt
        updatedAt := capture.capturedAt }
      fun row => { row with
        figures := capture.overview.figures
        processingState := .captured
        rawPayload := capture.overview
        updatedAt := capture.capturedAt }).2 }

/-- Stores the overview's figures as the portfolio snapshot of the day. -/
def syncSnapshot (capture : TmoSyncCapture) (db : Integrations) : Integrations :=
  { db with
    snapshots := (db.snapshots.upsert (·.snapshotDate == capture.snapshotDate)
      { snapshotDate := capture.snapshotDate
        figures := capture.overview.figures
        syncedAt := capture.capturedAt }
      fun row => { row with
        figures := capture.overview.figures
        syncedAt := capture.capturedAt }).2 }

/-! ### Loans -/

/-- Stages the connection's active loans as inactive before the capture reactivates its own. -/
def stageLoans (capture : TmoSyncCapture) (db : Integrations) : Integrations :=
  { db with
    loans := db.loans.updateWhere
      (fun _ row => row.connectionId == capture.connectionId && row.isActive)
      fun row => { row with isActive := false, updatedAt := capture.capturedAt } }

/-- The dates of a loan summary as they are stored. -/
structure LoanDates where
  maturityDate : String
  nextPaymentDate : String
  interestPaidTo : String
  billedThrough : Option String

/-- Reads the dates of a loan summary and checks that the schema stores them. -/
def loanDates (loan : TmoLoanSummary) : IntegrationResult LoanDates := do
  let maturityDate ← requiredDate "loan maturity date" loan.maturityDate
  let nextPaymentDate ← requiredDate "loan next-payment date" loan.nextPaymentDate
  let interestPaidTo ← requiredDate "loan interest-paid-to date" loan.interestPaidToDate
  let billedThrough ← optionalDate "loan billed-through date" loan.billedThrough
  (maturityDate :: nextPaymentDate :: interestPaidTo :: billedThrough.toList).forM fun date => do
    let _ ← checkDateText date
  pure ⟨maturityDate, nextPaymentDate, interestPaidTo, billedThrough⟩

/-- The loan row a summary inserts. -/
def TmoLoanSummary.row (capture : TmoSyncCapture) (streamId : ℕ) (dates : LoanDates)
    (loan : TmoLoanSummary) : TmoImportLoan where
  connectionId := capture.connectionId
  streamId := some streamId
  loanAccount := loan.loanAccount
  borrowerName := loan.borrowerName
  propertyAddress := loan.primaryStreet
  propertyCity := loan.primaryCity
  propertyState := loan.primaryState
  propertyZip := loan.primaryZip
  propertyDescription := none
  propertyType := none
  propertyPriority := none
  occupancy := none
  appraisedValue := none
  ltv := none
  percentOwned := loan.percentOwned.value
  priority := none
  loanType := none
  interestRate := loan.interestRate.value
  noteRate := loan.interestRate.value
  originalBalance := none
  loanBalance := loan.loanBalance.value
  principalBalance := loan.loanBalance.value
  regularPayment := loan.regularPayment.value
  paymentFrequency := "Monthly"
  maturityDate := dates.maturityDate
  nextPaymentDate := dates.nextPaymentDate
  interestPaidTo := dates.interestPaidTo
  billedThrough := dates.billedThrough
  termLeftMonths := loan.termLeft
  isDelinquent := loan.isDelinquent
  isActive := true
  rawSummaryPayload := loan
  rawDetailPayload := none
  summaryImportedAt := capture.capturedAt
  detailImportedAt := none
  createdAt := capture.capturedAt
  updatedAt := capture.capturedAt

/-- The loan row a summary leaves of a stored one; the first stream stays. -/
def TmoImportLoan.resummarized (fresh row : TmoImportLoan) : TmoImportLoan :=
  { row with
    streamId := row.streamId.or fresh.streamId
    borrowerName := fresh.borrowerName
    propertyAddress := fresh.propertyAddress
    propertyCity := fresh.propertyCity
    propertyState := fresh.propertyState
    propertyZip := fresh.propertyZip
    percentOwned := fresh.percentOwned
    interestRate := fresh.interestRate
    noteRate := fresh.noteRate
    maturityDate := fresh.maturityDate
    termLeftMonths := fresh.termLeftMonths
    nextPaymentDate := fresh.nextPaymentDate
    interestPaidTo := fresh.interestPaidTo
    billedThrough := fresh.billedThrough
    regularPayment := fresh.regularPayment
    loanBalance := fresh.loanBalance
    principalBalance := fresh.principalBalance
    isDelinquent := fresh.isDelinquent
    isActive := true
    rawSummaryPayload := fresh.rawSummaryPayload
    summaryImportedAt := fresh.summaryImportedAt
    updatedAt := fresh.updatedAt }

/-- Stores one loan of the portfolio. -/
def syncLoan (capture : TmoSyncCapture) (streamId : ℕ) (loan : TmoLoanSummary)
    (db : Integrations) : IntegrationResult Integrations := do
  let dates ← loanDates loan
  checkReals [loan.percentOwned.value, loan.interestRate.value, loan.regularPayment.value,
    loan.loanBalance.value]
  let fresh := loan.row capture streamId dates
  pure { db with
    loans := (db.loans.upsert
      (fun row => row.connectionId == capture.connectionId && row.loanAccount == loan.loanAccount)
      fresh fresh.resummarized).2 }

/-- Stores the loans of the portfolio in order. -/
def syncLoans (capture : TmoSyncCapture) (streamId : ℕ) :
    List TmoLoanSummary → Integrations → IntegrationResult Integrations
  | [], db => pure db
  | loan :: rest, db => do
    let db ← syncLoan capture streamId loan db
    syncLoans capture streamId rest db

/-- Stores one loan detail on the row of its loan. -/
def syncLoanDetail (capture : TmoSyncCapture) (detail : TmoLoanDetail) (db : Integrations) :
    IntegrationResult Integrations := do
  let maturityDate ← requiredDate "loan detail maturity date" detail.maturityDate
  let nextPaymentDate ← requiredDate "loan detail next-payment date" detail.nextPaymentDate
  let interestPaidTo ← requiredDate "loan detail interest-paid-to date" detail.interestPaidToDate
  let named := fun row : TmoImportLoan =>
    row.connectionId == capture.connectionId && row.loanAccount == detail.loanAccount
  ensure (db.loans.find? fun _ row => named row).isSome
    (.validation "TMO loan detail did not match its captured portfolio summary")
  [maturityDate, nextPaymentDate, interestPaidTo].forM fun date => do
    let _ ← checkDateText date
  checkReals ([detail.originalBalance, detail.principalBalance, detail.noteRate,
    detail.regularPayment] ++ [detail.ltv, detail.appraisedValue].filterMap id |>.map F64.value)
  pure { db with
    loans := db.loans.updateWhere (fun _ row => named row) fun row => { row with
      borrowerName := detail.borrowerName
      propertyAddress := detail.primaryStreet
      propertyCity := detail.primaryCity
      propertyState := detail.primaryState
      propertyZip := detail.primaryZip
      propertyDescription := detail.propertyDescription
      propertyType := detail.propertyType
      propertyPriority := detail.propertyPriority
      occupancy := detail.occupancy
      ltv := detail.ltv.map F64.value
      appraisedValue := detail.appraisedValue.map F64.value
      priority := detail.priority
      originalBalance := some detail.originalBalance.value
      principalBalance := detail.principalBalance.value
      noteRate := detail.noteRate.value
      maturityDate
      nextPaymentDate
      interestPaidTo
      regularPayment := detail.regularPayment.value
      paymentFrequency := detail.paymentFrequency
      loanType := some detail.loanType
      rawDetailPayload := some detail
      detailImportedAt := some capture.capturedAt
      updatedAt := capture.capturedAt } }

/-- Stores the loan details in order. -/
def syncLoanDetails (capture : TmoSyncCapture) :
    List TmoLoanDetail → Integrations → IntegrationResult Integrations
  | [], db => pure db
  | detail :: rest, db => do
    let db ← syncLoanDetail capture detail db
    syncLoanDetails capture rest db

/-! ### Payments and their events -/

/-- Links whose payment and event are still stored, which is what deletions cascade to. -/
def cascadeLinks (db : Domain) : Domain :=
  { db with
    integrations := { db.integrations with
      links := db.integrations.links.filter fun link =>
        (db.integrations.payments.get? link.tmoPaymentId).isSome &&
          (db.finance.events.get? link.streamEventId).isSome } }

/-- DELETE of events, cascading to the links that name them. -/
def deleteEvents (condition : ℕ → StreamEvent → Bool) (db : Domain) : Domain :=
  cascadeLinks { db with
    finance := { db.finance with events := db.finance.events.deleteWhere condition } }

/-- DELETE of payments, cascading to the links that name them. -/
def deletePayments (condition : ℕ → TmoImportPayment → Bool) (db : Domain) : Domain :=
  cascadeLinks { db with
    integrations := { db.integrations with
      payments := db.integrations.payments.deleteWhere condition } }

/-- Links a payment to its event, replacing the link the payment had. -/
def upsertLink (link : PaymentEventLink) (links : List PaymentEventLink) : List PaymentEventLink :=
  if links.any (·.tmoPaymentId == link.tmoPaymentId) then
    links.map fun old =>
      if old.tmoPaymentId == link.tmoPaymentId then
        { old with streamEventId := link.streamEventId }
      else old
  else links ++ [link]

/-- The UNIQUE key of an imported payment. -/
def TmoImportPayment.key (row : TmoImportPayment) : Option (ℕ × PaymentIdentity) :=
  some (row.connectionId, row.externalId)

/-- The payment row a captured payment inserts. -/
def TmoPayment.row (capture : TmoSyncCapture) (externalId : PaymentIdentity) (checkDate : String)
    (payment : TmoPayment) : TmoImportPayment where
  connectionId := capture.connectionId
  externalId
  loanAccount := payment.loanAccount
  borrowerName := payment.borrowerName
  propertyName := payment.propertyName
  checkNumber := normalizeCheckNumber payment.checkNumber
  checkDate
  amount := payment.amount.value
  serviceFee := payment.serviceFee.value
  interest := payment.interest.value
  principal := payment.principal.value
  charges := payment.charges.value
  lateCharges := payment.lateCharges.value
  other := payment.other.value
  processingState := .normalized
  normalizedEventSourceId := externalId
  rawPayload := payment
  importedAt := capture.capturedAt
  updatedAt := capture.capturedAt

/-- The event a captured payment is normalised to. -/
def TmoPayment.event (capture : TmoSyncCapture) (streamId : ℕ) (externalId : PaymentIdentity)
    (date : IsoDate) (payment : TmoPayment) : StreamEvent :=
  let isReceived := (normalizeCheckNumber payment.checkNumber).isSome
  { streamId
    accountId := none
    label := some s!"{payment.borrowerName} - {payment.propertyName}"
    expectedDate := date
    amount := |payment.amount.value|
    overrideLabel := none
    hasLabelOverride := false
    overrideDate := none
    overrideAmount := none
    overrideAccountId := none
    hasAccountOverride := false
    actualDate := if isReceived then some date else none
    actualAmount := if isReceived then some |payment.amount.value| else none
    status := if isReceived then .received else .confirmed
    exclusionReason := none
    sourceId := some (.history externalId)
    sourceType := some .tmoHistory
    metadata := none
    notes := none
    updatedAt := capture.capturedAt }

/-- The event a payment leaves of the stored one. -/
def StreamEvent.renormalized (fresh event : StreamEvent) : StreamEvent :=
  { event with
    label := fresh.label
    expectedDate := fresh.expectedDate
    amount := fresh.amount
    actualDate := fresh.actualDate
    actualAmount := fresh.actualAmount
    status := fresh.status
    updatedAt := fresh.updatedAt }

/-- The schema's CHECK that a received event is not excluded. -/
def checkReceived (eventId : ℕ) (events : Table StreamEvent) : IntegrationResult Unit :=
  ensure ((events.get? eventId).all fun event => event.status != .received || !event.isExcluded)
    (.storage "CHECK constraint failed: status")

/-- Stores one payment, normalises it into the selected stream, and links the two. -/
def normalizePayment (platform : Platform) (capture : TmoSyncCapture) (streamId : ℕ)
    (payment : TmoPayment) (db : Domain) : IntegrationResult Domain := do
  let checkDate ← requiredDate "payment check date" payment.checkDate
  let externalId ← paymentExternalId platform payment checkDate
  let date ← checkDateText checkDate
  checkReals ([payment.amount, payment.serviceFee, payment.interest, payment.principal,
    payment.charges, payment.lateCharges, payment.other].map F64.value)
  let row := payment.row capture externalId checkDate
  let (paymentId, payments) := db.integrations.payments.upsert (fun old => old.key == row.key) row
    fun old => { row with importedAt := old.importedAt }
  let event := payment.event capture streamId externalId date
  let (eventId, events) := db.finance.events.upsert (sameSource event) event event.renormalized
  checkReceived eventId events
  pure {
    finance := { db.finance with events }
    integrations := { db.integrations with
      payments
      links := upsertLink ⟨paymentId, eventId, capture.capturedAt⟩ db.integrations.links } }

/-- Stores the captured payments in order. -/
def normalizePayments (platform : Platform) (capture : TmoSyncCapture) (streamId : ℕ) :
    List TmoPayment → Domain → IntegrationResult Domain
  | [], db => pure db
  | payment :: rest, db => do
    let db ← normalizePayment platform capture streamId payment db
    normalizePayments platform capture streamId rest db

/-- Stages the connection's payments as stale before the capture restores its own. -/
def stagePayments (capture : TmoSyncCapture) (db : Domain) : Domain :=
  { db with
    integrations := { db.integrations with
      payments := db.integrations.payments.updateWhere
        (fun _ row => row.connectionId == capture.connectionId)
        fun row => { row with processingState := .stale } } }

/-- Whether an event is linked from a payment of the connection that meets a condition. -/
def isLinked (connectionId : ℕ) (condition : TmoImportPayment → Bool) (db : Integrations)
    (eventId : ℕ) : Bool :=
  db.links.any fun link => link.streamEventId == eventId &&
    (db.payments.get? link.tmoPaymentId).any fun row =>
      row.connectionId == connectionId && condition row

/-- Removes the payments a capture left stale, with the events they are linked to. -/
def removeStalePayments (connectionId : ℕ) (db : Domain) : Domain :=
  let db := deleteEvents
    (fun id _ => isLinked connectionId (·.processingState == .stale) db.integrations id) db
  deletePayments
    (fun _ row => row.connectionId == connectionId && row.processingState == .stale) db

/-- Removes the selected stream's history events that no payment of the connection is linked to. -/
def removeOrphanedHistory (streamId connectionId : ℕ) (db : Domain) : Domain :=
  deleteEvents (fun id event => event.streamId == streamId &&
    event.sourceType == some .tmoHistory &&
      !isLinked connectionId (fun _ => true) db.integrations id) db

/-- Removes projections of a source type that only older code emitted. -/
def removeLegacyProjections (db : Domain) : Domain :=
  deleteEvents (fun _ event => event.status == .projected && event.sourceType == some .schedule) db

/-- Replaces the imported payments and their events by those of the capture. -/
def replacePaymentProjection (platform : Platform) (capture : TmoSyncCapture) (streamId : ℕ)
    (db : Domain) : IntegrationResult Domain := do
  let db ← normalizePayments platform capture streamId capture.payments (stagePayments capture db)
  pure (removeLegacyProjections
    (removeOrphanedHistory streamId capture.connectionId
      (removeStalePayments capture.connectionId db)))

/-- Stores the portfolio part of a capture. -/
def syncPortfolio (platform : Platform) (capture : TmoSyncCapture) (streamId : ℕ)
    (db : Integrations) : IntegrationResult Integrations := do
  let db ← syncConnection platform capture db
  let db ← syncOverview capture (syncAccount capture db)
  let db ← syncLoans capture streamId capture.loans (stageLoans capture (syncSnapshot capture db))
  syncLoanDetails capture capture.loanDetails db

/-- Persists a capture as one transaction. -/
def applyTmoSync (platform : Platform) (capture : TmoSyncCapture) (db : Domain) :
    IntegrationResult (TmoSyncPersistence × Domain) := do
  validateCapture platform capture
  requireTmoConnection db.integrations capture.connectionId
  let streamId ← requireTrustDeedStream db.finance
  let integrations ← syncPortfolio platform capture streamId db.integrations
  let db ← replacePaymentProjection platform capture streamId { db with integrations }
  pure (⟨capture.payments.length, capture.loans.length, 1⟩, db)

/-- Records a failed sync on the TMO connection. -/
def markTmoError (platform : Platform) (connectionId : ℕ) (publicMessage updatedAt : String)
    (db : Domain) : IntegrationResult Domain := do
  let named := fun (id : ℕ) (connection : IntegrationConnection) =>
    id == connectionId && connection.slug == "tmo"
  ensure (db.integrations.connections.find? named).isSome
    (.storage "TMO integration connection disappeared during error transition")
  checkTimestamp platform updatedAt
  pure { db with
    integrations := { db.integrations with
      connections := db.integrations.connections.updateWhere named fun connection =>
        { connection with status := "error", lastError := some publicMessage, updatedAt } } }

end FinStream
