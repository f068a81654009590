import FinStream.Finance.Models

/-! Provider records of a TMO capture, and the integration tables it is stored in. -/

namespace FinStream

open Store

/-- The lender the provider authenticated. -/
structure TmoUserInfo where
  sourceRecId : String
  companyId : String
  account : String
  name : String
  email : String
  deriving DecidableEq

/-- The totals of a lender's portfolio. -/
structure TmoOverview where
  portfolioValue : F64
  portfolioYield : F64
  ytdInterest : F64
  ytdPrincipal : F64
  portfolioCount : ℤ
  trustBalance : F64
  outstandingChecksValue : F64
  ytdServFees : F64
  deriving DecidableEq

/-- One loan of the portfolio list. -/
structure TmoLoanSummary where
  loanAccount : String
  borrowerName : String
  primaryStreet : String
  primaryCity : String
  primaryState : String
  primaryZip : String
  percentOwned : F64
  interestRate : F64
  maturityDate : String
  termLeft : ℤ
  nextPaymentDate : String
  interestPaidToDate : String
  billedThrough : Option String
  regularPayment : F64
  loanBalance : F64
  isDelinquent : Bool
  deriving DecidableEq

/-- The detail page of one loan. -/
structure TmoLoanDetail where
  loanAccount : String
  borrowerName : String
  primaryStreet : String
  primaryCity : String
  primaryState : String
  primaryZip : String
  propertyDescription : Option String
  propertyType : Option String
  propertyPriority : Option ℤ
  occupancy : Option String
  ltv : Option F64
  appraisedValue : Option F64
  priority : Option ℤ
  originalBalance : F64
  principalBalance : F64
  noteRate : F64
  maturityDate : String
  nextPaymentDate : String
  interestPaidToDate : String
  regularPayment : F64
  paymentFrequency : String
  loanType : ℤ
  deriving DecidableEq

/-- One payment of the lender's history. -/
structure TmoPayment where
  checkNumber : String
  loanAccount : String
  checkDate : String
  amount : F64
  serviceFee : F64
  interest : F64
  principal : F64
  charges : F64
  lateCharges : F64
  other : F64
  borrowerName : String
  propertyName : String
  deriving DecidableEq

/-- A complete provider capture, taken before any table is written. -/
structure TmoSyncCapture where
  connectionId : ℕ
  capturedAt : String
  snapshotDate : String
  companyId : String
  accountNumber : String
  user : TmoUserInfo
  overview : TmoOverview
  loans : List TmoLoanSummary
  loanDetails : List TmoLoanDetail
  loanDetailFailures : ℤ
  payments : List TmoPayment
  deriving DecidableEq

/-- What a sync reports it persisted. -/
structure TmoSyncPersistence where
  eventsUpserted : ℕ
  loansUpserted : ℕ
  snapshotsCreated : ℕ
  deriving DecidableEq

/-- Errors at the integration boundary. -/
inductive IntegrationError where
  | validation (message : String)
  | configuration (message : String)
  | storage (message : String)
  deriving DecidableEq

/-- How far an imported row was processed. -/
inductive ProcessingState where
  | captured
  | normalized
  | stale
  deriving DecidableEq

/-- A row of `intg_integration_connection`. -/
structure IntegrationConnection where
  slug : String
  name : String
  provider : String
  status : String
  syncCadence : String
  lastSyncedAt : Option String
  lastError : Option String
  metadata : Option JsonText
  nextScheduledAt : Option String
  updatedAt : String
  deriving DecidableEq

/-- The row of `intg_tmo_account`. -/
structure TmoAccount where
  companyId : String
  accountNumber : String
  sourceRecId : String
  displayName : String
  email : String
  lastLoginAt : String
  createdAt : String
  updatedAt : String
  deriving DecidableEq

/-- The figures an overview capture and a portfolio snapshot share. -/
structure PortfolioFigures where
  portfolioValue : ℚ
  portfolioYield : ℚ
  portfolioCount : ℤ
  ytdInterest : ℚ
  ytdPrincipal : ℚ
  trustBalance : ℚ
  outstandingChecks : ℚ
  serviceFees : ℚ
  deriving DecidableEq

/-- A row of `intg_tmo_import_overview`. -/
structure TmoImportOverview where
  connectionId : ℕ
  snapshotDate : String
  figures : PortfolioFigures
  processingState : ProcessingState
  rawPayload : TmoOverview
  createdAt : String
  updatedAt : String
  deriving DecidableEq

/-- A row of `portfolio_snapshot`. -/
structure PortfolioSnapshot where
  snapshotDate : String
  figures : PortfolioFigures
  syncedAt : String
  deriving DecidableEq

/-- A row of `intg_tmo_import_loan`. -/
structure TmoImportLoan where
  connectionId : ℕ
  streamId : Option ℕ
  loanAccount : String
  borrowerName : String
  propertyAddress : String
  propertyCity : String
  propertyState : String
  propertyZip : String
  propertyDescription : Option String
  propertyType : Option String
  propertyPriority : Option ℤ
  occupancy : Option String
  appraisedValue : Option ℚ
  ltv : Option ℚ
  percentOwned : ℚ
  priority : Option ℤ
  loanType : Option ℤ
  interestRate : ℚ
  noteRate : ℚ
  originalBalance : Option ℚ
  loanBalance : ℚ
  principalBalance : ℚ
  regularPayment : ℚ
  paymentFrequency : String
  maturityDate : String
  nextPaymentDate : String
  interestPaidTo : String
  billedThrough : Option String
  termLeftMonths : ℤ
  isDelinquent : Bool
  isActive : Bool
  rawSummaryPayload : TmoLoanSummary
  rawDetailPayload : Option TmoLoanDetail
  summaryImportedAt : String
  detailImportedAt : Option String
  createdAt : String
  updatedAt : String
  deriving DecidableEq

/-- A row of `intg_tmo_import_payment`. -/
structure TmoImportPayment where
  connectionId : ℕ
  externalId : PaymentIdentity
  loanAccount : String
  borrowerName : String
  propertyName : String
  checkNumber : Option String
  checkDate : String
  amount : ℚ
  serviceFee : ℚ
  interest : ℚ
  principal : ℚ
  charges : ℚ
  lateCharges : ℚ
  other : ℚ
  processingState : ProcessingState
  normalizedEventSourceId : PaymentIdentity
  rawPayload : TmoPayment
  importedAt : String
  updatedAt : String
  deriving DecidableEq

/-- A row of `intg_tmo_payment_event_link`, whose primary key is the payment. -/
structure PaymentEventLink where
  tmoPaymentId : ℕ
  streamEventId : ℕ
  createdAt : String
  deriving DecidableEq

/-- The value of a setting, by what its text was formatted from. -/
inductive SettingValue where
  | text (value : String)
  | amount (value : ℚ)
  | json (value : JsonText)
  deriving DecidableEq

/-- A row of `settings`. -/
structure Setting where
  key : String
  value : SettingValue
  updatedAt : String
  deriving DecidableEq

/-- The integration tables a provider sync writes. -/
structure Integrations where
  connections : Table IntegrationConnection
  tmoAccount : Option TmoAccount
  overviews : Table TmoImportOverview
  snapshots : Table PortfolioSnapshot
  loans : Table TmoImportLoan
  payments : Table TmoImportPayment
  links : List PaymentEventLink
  settings : Table Setting
  deriving DecidableEq

/-- The data a sync publishes: the finance tables together with the integration tables. -/
structure Domain where
  finance : Finance
  integrations : Integrations
  deriving DecidableEq

end FinStream
