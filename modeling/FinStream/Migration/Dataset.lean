import FinStream.Migration.Models

/-! All rows that the exporter moves, table by table. -/

namespace FinStream.Migration

open Numeric

/-- A double that the exporter did not refuse: it stops at a NaN or an infinity. -/
structure FiniteNumber where
  number : Binary64
  finite : number.isFinite = true
  deriving DecidableEq

/-- A user who can log in. -/
structure AppUserRow where
  id : ℤ
  email : String
  passwordHash : String
  displayName : Option String
  isActive : ℤ
  createdAt : ℤ
  updatedAt : ℤ

/-- An account. -/
structure AccountRow where
  id : ℤ
  name : String
  kind : String
  balance : Option Binary64
  balanceAsOfDate : Option String
  sourceType : Option String
  sourceRef : Option String
  metadata : Option String
  balanceUpdatedAt : Option String
  isPrimary : ℤ
  isActive : ℤ
  notes : Option String
  createdAt : String
  updatedAt : String

/-- A view of streams. -/
structure StreamViewRow where
  id : ℤ
  name : String
  description : Option String
  isDefault : ℤ
  isActive : ℤ
  createdAt : String
  updatedAt : String

/-- A stream of a view. -/
structure StreamViewStreamRow where
  streamViewId : ℤ
  streamId : ℤ
  createdAt : String

/-- A schedule of the target with all its columns. -/
structure ScheduleTableRow extends StreamScheduleRow where
  dayOfMonth : Option ℤ
  endDate : Option String
  isActive : ℤ
  metadata : Option String
  createdAt : String
  updatedAt : String

/-- A connection to a provider. -/
structure IntegrationConnectionRow where
  id : ℤ
  slug : String
  name : String
  provider : String
  status : String
  syncCadence : String
  lastSyncedAt : Option String
  lastError : Option String
  metadata : Option String
  nextScheduledAt : Option String
  createdAt : String
  updatedAt : String

/-- The imported overview of a portfolio. -/
structure TmoImportOverviewRow where
  id : ℤ
  connectionId : ℤ
  snapshotDate : String
  portfolioValue : Option FiniteNumber
  portfolioYield : Option FiniteNumber
  portfolioCount : Option ℤ
  ytdInterest : Option FiniteNumber
  ytdPrincipal : Option FiniteNumber
  trustBalance : Option FiniteNumber
  outstandingChecks : Option FiniteNumber
  serviceFees : Option FiniteNumber
  processingState : String
  rawPayload : Option String
  createdAt : String
  updatedAt : String

/-- An imported loan. -/
structure TmoImportLoanRow where
  id : ℤ
  connectionId : ℤ
  streamId : Option ℤ
  loanAccount : String
  borrowerName : Option String
  propertyAddress : Option String
  propertyCity : Option String
  propertyState : Option String
  propertyZip : Option String
  propertyDescription : Option String
  propertyType : Option String
  propertyPriority : Option ℤ
  occupancy : Option String
  appraisedValue : Option FiniteNumber
  ltv : Option FiniteNumber
  percentOwned : Option FiniteNumber
  priority : Option ℤ
  loanType : Option ℤ
  interestRate : Option FiniteNumber
  noteRate : Option FiniteNumber
  originalBalance : Option FiniteNumber
  loanBalance : Option FiniteNumber
  principalBalance : Option FiniteNumber
  regularPayment : Option FiniteNumber
  paymentFrequency : Option String
  maturityDate : Option String
  nextPaymentDate : Option String
  interestPaidTo : Option String
  billedThrough : Option String
  termLeftMonths : Option ℤ
  isDelinquent : Option ℤ
  isActive : Option ℤ
  rawSummaryPayload : Option String
  rawDetailPayload : Option String
  summaryImportedAt : Option String
  detailImportedAt : Option String
  createdAt : String
  updatedAt : String

/-- An imported payment. -/
structure TmoImportPaymentRow where
  id : ℤ
  connectionId : ℤ
  externalId : String
  loanAccount : String
  borrowerName : String
  propertyName : String
  checkNumber : Option String
  checkDate : String
  amount : FiniteNumber
  serviceFee : FiniteNumber
  interest : FiniteNumber
  principal : FiniteNumber
  charges : FiniteNumber
  lateCharges : FiniteNumber
  other : FiniteNumber
  processingState : String
  normalizedEventSourceId : Option String
  rawPayload : Option String
  importedAt : String
  updatedAt : String

/-- An account at the loan servicer. -/
structure TmoAccountRow where
  id : ℤ
  companyId : String
  accountNumber : String
  sourceRecId : Option String
  displayName : Option String
  email : Option String
  lastLoginAt : Option String
  createdAt : String
  updatedAt : String

/-- The encrypted PIN of a connection. -/
structure TmoCredentialRow where
  connectionId : ℤ
  companyId : String
  accountNumber : String
  pinCiphertext : String
  pinNonce : String
  keyVersion : ℤ
  createdAt : String
  updatedAt : String

/-- The encrypted access token of a connection. -/
structure MonarchCredentialRow where
  connectionId : ℤ
  accessTokenCiphertext : String
  accessTokenNonce : String
  defaultAccountId : String
  keyVersion : ℤ
  createdAt : String
  updatedAt : String

/-- The event that stands for a payment. -/
structure TmoPaymentEventLinkRow where
  tmoPaymentId : ℤ
  streamEventId : ℤ
  createdAt : String

/-- A portfolio on a day. -/
structure PortfolioSnapshotRow where
  id : ℤ
  snapshotDate : String
  portfolioValue : Option FiniteNumber
  portfolioYield : Option FiniteNumber
  portfolioCount : Option ℤ
  ytdInterest : Option FiniteNumber
  ytdPrincipal : Option FiniteNumber
  trustBalance : Option FiniteNumber
  outstandingChecks : Option FiniteNumber
  serviceFees : Option FiniteNumber
  syncedAt : String

/-- A setting. -/
structure SettingRow where
  key : String
  value : String
  updatedAt : String

/-- A run of a synchronization. -/
structure SyncLogRow where
  id : ℤ
  connectionSlug : String
  scheduledFor : Option String
  startedAt : String
  finishedAt : Option String
  status : String
  errorMessage : Option String
  endpointsHit : Option String
  eventsUpserted : ℤ
  loansUpserted : ℤ
  snapshotsCreated : ℤ

/-- What is noted about a loan. -/
structure LoanWorkspaceRow where
  id : ℤ
  connectionId : ℤ
  loanAccount : String
  redfinUrl : Option String
  zillowUrl : Option String
  decisionStatus : Option String
  targetContribution : Option FiniteNumber
  actualContribution : Option FiniteNumber
  notes : Option String
  createdAt : String
  updatedAt : String

/-- A photo of a loan. -/
structure LoanWorkspacePhotoRow where
  id : ℤ
  connectionId : ℤ
  loanAccount : String
  provider : String
  caption : Option String
  sourceUrl : String
  imageUrl : String
  sortOrder : ℤ
  isFeatured : ℤ
  createdAt : String

/-- An email that was received. -/
structure ReceivedEmailRow where
  id : ℤ
  resendEmailId : String
  fromAddress : String
  toAddresses : String
  subject : Option String
  receivedAt : String
  bodyS3Key : Option String
  bodyContentType : Option String
  loanAccount : Option String
  processingState : String
  errorMessage : Option String
  rawWebhookPayload : Option String
  createdAt : String
  updatedAt : String

/-- A file that was sent with an email. -/
structure ReceivedEmailAttachmentRow where
  id : ℤ
  emailId : ℤ
  resendAttachmentId : String
  filename : String
  contentType : String
  sizeBytes : Option ℤ
  s3Key : Option String
  processingState : String
  createdAt : String
/-- What is exported, with the rows of each table in their order. -/
@[ext] structure Dataset where
  appUsers : List AppUserRow
  accounts : List AccountRow
  streams : List StreamRow
  streamViews : List StreamViewRow
  streamViewStreams : List StreamViewStreamRow
  streamSchedules : List ScheduleTableRow
  streamEvents : List StreamEventRow
  integrationConnections : List IntegrationConnectionRow
  tmoImportOverviews : List TmoImportOverviewRow
  tmoImportLoans : List TmoImportLoanRow
  tmoImportPayments : List TmoImportPaymentRow
  tmoAccounts : List TmoAccountRow
  tmoCredentials : List TmoCredentialRow
  monarchCredentials : List MonarchCredentialRow
  tmoPaymentEventLinks : List TmoPaymentEventLinkRow
  portfolioSnapshots : List PortfolioSnapshotRow
  settings : List SettingRow
  syncLogs : List SyncLogRow
  loanWorkspaces : List LoanWorkspaceRow
  loanWorkspacePhotos : List LoanWorkspacePhotoRow
  receivedEmails : List ReceivedEmailRow
  receivedEmailAttachments : List ReceivedEmailAttachmentRow

/-- A dataset without rows. -/
def Dataset.empty : Dataset where
  appUsers := []
  accounts := []
  streams := []
  streamViews := []
  streamViewStreams := []
  streamSchedules := []
  streamEvents := []
  integrationConnections := []
  tmoImportOverviews := []
  tmoImportLoans := []
  tmoImportPayments := []
  tmoAccounts := []
  tmoCredentials := []
  monarchCredentials := []
  tmoPaymentEventLinks := []
  portfolioSnapshots := []
  settings := []
  syncLogs := []
  loanWorkspaces := []
  loanWorkspacePhotos := []
  receivedEmails := []
  receivedEmailAttachments := []

end FinStream.Migration
