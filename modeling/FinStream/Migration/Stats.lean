import FinStream.Migration.Dataset
import FinStream.Text.Framing
import FinStream.Text.Printed
import Mathlib.Logic.Equiv.List

/-! The statistics by which an export is compared with its source. -/

namespace FinStream.Migration

open Numeric Store

/-! ### Serialised rows -/

/-- A value of a column, as it is serialised. -/
inductive Scalar where
  | null
  | integer (value : ℤ)
  | number (value : FiniteNumber)
  | text (value : String)
  deriving DecidableEq

/-- A column that may have no value. -/
def Scalar.optional {α : Type} (scalar : α → Scalar) : Option α → Scalar
  | none => .null
  | some value => scalar value

/-- An absent integer is told apart from every integer. -/
@[simp] theorem Scalar.optional_integer {left right : Option ℤ} :
    optional .integer left = optional .integer right ↔ left = right := by
  cases left <;> cases right <;> simp [optional]

/-- An absent number is told apart from every number. -/
@[simp] theorem Scalar.optional_number {left right : Option FiniteNumber} :
    optional .number left = optional .number right ↔ left = right := by
  cases left <;> cases right <;> simp [optional]

/-- An absent text is told apart from every text. -/
@[simp] theorem Scalar.optional_text {left right : Option String} :
    optional .text left = optional .text right ↔ left = right := by
  cases left <;> cases right <;> simp [optional]

/-- The word of a double as text. -/
def bitsText (number : Binary64) : String :=
  "0x" ++ String.ofList (Printed.hexDigits 16 number.toBits)

/-- Doubles are told apart by their words. -/
theorem bitsText_injective : Function.Injective bitsText := by
  intro left right same
  have digits := String.ofList_injective ((String.append_right_inj _).mp same)
  exact Binary64.toBits_injective (Printed.hexDigits_inj left.toBits_lt right.toBits_lt digits)

/-- A double as its word, so that no two have one text. -/
def floatJson : Option Binary64 → Scalar
  | some value => .text (bitsText value)
  | none => .null

/-- Words are told apart, and an absent one from all of them. -/
@[simp] theorem floatJson_inj {left right : Option Binary64} :
    floatJson left = floatJson right ↔ left = right := by
  cases left <;> cases right <;> simp [floatJson, bitsText_injective.eq_iff]

/-- A serialised row: its columns in order, or with the names of their fields. -/
inductive Value where
  | array (items : List Scalar)
  | object (fields : List (String × Scalar))
  deriving DecidableEq

/-- Rows that are serialised by the values of their columns, all of them. -/
class Listed (α : Type) where
  values : α → List Scalar
  injective : Function.Injective values

instance : Listed AppUserRow where
  values row :=
    [.integer row.id, .text row.email, .text row.passwordHash, .optional .text row.displayName,
      .integer row.isActive, .integer row.createdAt, .integer row.updatedAt]
  injective := by
    rintro ⟨⟩ ⟨⟩ same
    simpa using same

instance : Listed AccountRow where
  values row :=
    [.integer row.id, .text row.name, .text row.kind, floatJson row.balance,
      .optional .text row.balanceAsOfDate, .optional .text row.sourceType,
      .optional .text row.sourceRef, .optional .text row.metadata,
      .optional .text row.balanceUpdatedAt, .integer row.isPrimary, .integer row.isActive,
      .optional .text row.notes, .text row.createdAt, .text row.updatedAt]
  injective := by
    rintro ⟨⟩ ⟨⟩ same
    simpa using same

instance : Listed StreamRow where
  values row :=
    [.integer row.id, .text row.name, .text row.streamType, .text row.kind, .text row.direction,
      .text row.amountCertainty, .optional .text row.description,
      .optional .integer row.defaultAccountId, .optional .text row.configuration,
      .optional .integer row.parentId, .integer row.isActive, .text row.createdAt,
      .text row.updatedAt]
  injective := by
    rintro ⟨⟩ ⟨⟩ same
    simpa using same

instance : Listed StreamViewRow where
  values row :=
    [.integer row.id, .text row.name, .optional .text row.description, .integer row.isDefault,
      .integer row.isActive, .text row.createdAt, .text row.updatedAt]
  injective := by
    rintro ⟨⟩ ⟨⟩ same
    simpa using same

instance : Listed StreamViewStreamRow where
  values row := [.integer row.streamViewId, .integer row.streamId, .text row.createdAt]
  injective := by
    rintro ⟨⟩ ⟨⟩ same
    simpa using same

instance : Listed ScheduleTableRow where
  values row :=
    [.integer row.id, .integer row.streamId, .optional .integer row.accountId,
      .optional .text row.label, floatJson (some row.amount), .text row.frequency,
      .optional .integer row.dayOfMonth, .text row.startDate, .optional .text row.endDate,
      .integer row.isActive, .optional .text row.metadata, .text row.createdAt,
      .text row.updatedAt]
  injective := by
    rintro ⟨⟨⟩⟩ ⟨⟨⟩⟩ same
    simpa [and_assoc, and_comm, and_left_comm] using same

instance : Listed StreamEventRow where
  values row :=
    [.integer row.id, .integer row.streamId, .optional .integer row.accountId,
      .optional .text row.label, .text row.expectedDate, floatJson (some row.amount),
      .optional .text row.overrideLabel, .integer row.hasLabelOverride,
      .optional .text row.overrideDate, floatJson row.overrideAmount,
      .optional .integer row.overrideAccountId, .integer row.hasAccountOverride,
      .optional .text row.actualDate, floatJson row.actualAmount, .text row.status,
      .integer row.isExcluded, .optional .text row.exclusionReason, .optional .text row.sourceId,
      .optional .text row.sourceType, .optional .text row.metadata, .optional .text row.notes,
      .text row.createdAt, .text row.updatedAt]
  injective := by
    rintro ⟨⟩ ⟨⟩ same
    simpa using same

/-- Rows that are serialised by the names and the values of their fields, all of them. -/
class Serialize (α : Type) where
  fields : α → List (String × Scalar)
  names : List String
  named : ∀ row, (fields row).map Prod.fst = names
  distinct : names.Nodup
  injective : Function.Injective fields

instance : Serialize IntegrationConnectionRow where
  fields row :=
    [("id", .integer row.id), ("slug", .text row.slug), ("name", .text row.name),
      ("provider", .text row.provider), ("status", .text row.status),
      ("sync_cadence", .text row.syncCadence), ("last_synced_at", .optional .text row.lastSyncedAt),
      ("last_error", .optional .text row.lastError), ("metadata", .optional .text row.metadata),
      ("next_scheduled_at", .optional .text row.nextScheduledAt),
      ("created_at", .text row.createdAt), ("updated_at", .text row.updatedAt)]
  names :=
    ["id", "slug", "name", "provider", "status", "sync_cadence", "last_synced_at", "last_error",
      "metadata", "next_scheduled_at", "created_at", "updated_at"]
  named _ := rfl
  distinct := by decide +kernel
  injective := by
    rintro ⟨⟩ ⟨⟩ same
    simpa using same

instance : Serialize TmoImportOverviewRow where
  fields row :=
    [("id", .integer row.id), ("connection_id", .integer row.connectionId),
      ("snapshot_date", .text row.snapshotDate),
      ("portfolio_value", .optional .number row.portfolioValue),
      ("portfolio_yield", .optional .number row.portfolioYield),
      ("portfolio_count", .optional .integer row.portfolioCount),
      ("ytd_interest", .optional .number row.ytdInterest),
      ("ytd_principal", .optional .number row.ytdPrincipal),
      ("trust_balance", .optional .number row.trustBalance),
      ("outstanding_checks", .optional .number row.outstandingChecks),
      ("service_fees", .optional .number row.serviceFees),
      ("processing_state", .text row.processingState),
      ("raw_payload", .optional .text row.rawPayload), ("created_at", .text row.createdAt),
      ("updated_at", .text row.updatedAt)]
  names :=
    ["id", "connection_id", "snapshot_date", "portfolio_value", "portfolio_yield",
      "portfolio_count", "ytd_interest", "ytd_principal", "trust_balance", "outstanding_checks",
      "service_fees", "processing_state", "raw_payload", "created_at", "updated_at"]
  named _ := rfl
  distinct := by decide +kernel
  injective := by
    rintro ⟨⟩ ⟨⟩ same
    simpa using same

instance : Serialize TmoImportLoanRow where
  fields row :=
    [("id", .integer row.id), ("connection_id", .integer row.connectionId),
      ("stream_id", .optional .integer row.streamId), ("loan_account", .text row.loanAccount),
      ("borrower_name", .optional .text row.borrowerName),
      ("property_address", .optional .text row.propertyAddress),
      ("property_city", .optional .text row.propertyCity),
      ("property_state", .optional .text row.propertyState),
      ("property_zip", .optional .text row.propertyZip),
      ("property_description", .optional .text row.propertyDescription),
      ("property_type", .optional .text row.propertyType),
      ("property_priority", .optional .integer row.propertyPriority),
      ("occupancy", .optional .text row.occupancy),
      ("appraised_value", .optional .number row.appraisedValue), ("ltv", .optional .number row.ltv),
      ("percent_owned", .optional .number row.percentOwned),
      ("priority", .optional .integer row.priority), ("loan_type", .optional .integer row.loanType),
      ("interest_rate", .optional .number row.interestRate),
      ("note_rate", .optional .number row.noteRate),
      ("original_balance", .optional .number row.originalBalance),
      ("loan_balance", .optional .number row.loanBalance),
      ("principal_balance", .optional .number row.principalBalance),
      ("regular_payment", .optional .number row.regularPayment),
      ("payment_frequency", .optional .text row.paymentFrequency),
      ("maturity_date", .optional .text row.maturityDate),
      ("next_payment_date", .optional .text row.nextPaymentDate),
      ("interest_paid_to", .optional .text row.interestPaidTo),
      ("billed_through", .optional .text row.billedThrough),
      ("term_left_months", .optional .integer row.termLeftMonths),
      ("is_delinquent", .optional .integer row.isDelinquent),
      ("is_active", .optional .integer row.isActive),
      ("raw_summary_payload", .optional .text row.rawSummaryPayload),
      ("raw_detail_payload", .optional .text row.rawDetailPayload),
      ("summary_imported_at", .optional .text row.summaryImportedAt),
      ("detail_imported_at", .optional .text row.detailImportedAt),
      ("created_at", .text row.createdAt), ("updated_at", .text row.updatedAt)]
  names :=
    ["id", "connection_id", "stream_id", "loan_account", "borrower_name", "property_address",
      "property_city", "property_state", "property_zip", "property_description", "property_type",
      "property_priority", "occupancy", "appraised_value", "ltv", "percent_owned", "priority",
      "loan_type", "interest_rate", "note_rate", "original_balance", "loan_balance",
      "principal_balance", "regular_payment", "payment_frequency", "maturity_date",
      "next_payment_date", "interest_paid_to", "billed_through", "term_left_months",
      "is_delinquent", "is_active", "raw_summary_payload", "raw_detail_payload",
      "summary_imported_at", "detail_imported_at", "created_at", "updated_at"]
  named _ := rfl
  distinct := by decide +kernel
  injective := by
    rintro ⟨⟩ ⟨⟩ same
    simpa using same

instance : Serialize TmoImportPaymentRow where
  fields row :=
    [("id", .integer row.id), ("connection_id", .integer row.connectionId),
      ("external_id", .text row.externalId), ("loan_account", .text row.loanAccount),
      ("borrower_name", .text row.borrowerName), ("property_name", .text row.propertyName),
      ("check_number", .optional .text row.checkNumber), ("check_date", .text row.checkDate),
      ("amount", .number row.amount), ("service_fee", .number row.serviceFee),
      ("interest", .number row.interest), ("principal", .number row.principal),
      ("charges", .number row.charges), ("late_charges", .number row.lateCharges),
      ("other", .number row.other), ("processing_state", .text row.processingState),
      ("normalized_event_source_id", .optional .text row.normalizedEventSourceId),
      ("raw_payload", .optional .text row.rawPayload), ("imported_at", .text row.importedAt),
      ("updated_at", .text row.updatedAt)]
  names :=
    ["id", "connection_id", "external_id", "loan_account", "borrower_name", "property_name",
      "check_number", "check_date", "amount", "service_fee", "interest", "principal", "charges",
      "late_charges", "other", "processing_state", "normalized_event_source_id", "raw_payload",
      "imported_at", "updated_at"]
  named _ := rfl
  distinct := by decide +kernel
  injective := by
    rintro ⟨⟩ ⟨⟩ same
    simpa using same

instance : Serialize TmoAccountRow where
  fields row :=
    [("id", .integer row.id), ("company_id", .text row.companyId),
      ("account_number", .text row.accountNumber),
      ("source_rec_id", .optional .text row.sourceRecId),
      ("display_name", .optional .text row.displayName), ("email", .optional .text row.email),
      ("last_login_at", .optional .text row.lastLoginAt), ("created_at", .text row.createdAt),
      ("updated_at", .text row.updatedAt)]
  names :=
    ["id", "company_id", "account_number", "source_rec_id", "display_name", "email",
      "last_login_at", "created_at", "updated_at"]
  named _ := rfl
  distinct := by decide +kernel
  injective := by
    rintro ⟨⟩ ⟨⟩ same
    simpa using same

instance : Serialize TmoCredentialRow where
  fields row :=
    [("connection_id", .integer row.connectionId), ("company_id", .text row.companyId),
      ("account_number", .text row.accountNumber), ("pin_ciphertext", .text row.pinCiphertext),
      ("pin_nonce", .text row.pinNonce), ("key_version", .integer row.keyVersion),
      ("created_at", .text row.createdAt), ("updated_at", .text row.updatedAt)]
  names :=
    ["connection_id", "company_id", "account_number", "pin_ciphertext", "pin_nonce", "key_version",
      "created_at", "updated_at"]
  named _ := rfl
  distinct := by decide +kernel
  injective := by
    rintro ⟨⟩ ⟨⟩ same
    simpa using same

instance : Serialize MonarchCredentialRow where
  fields row :=
    [("connection_id", .integer row.connectionId),
      ("access_token_ciphertext", .text row.accessTokenCiphertext),
      ("access_token_nonce", .text row.accessTokenNonce),
      ("default_account_id", .text row.defaultAccountId), ("key_version", .integer row.keyVersion),
      ("created_at", .text row.createdAt), ("updated_at", .text row.updatedAt)]
  names :=
    ["connection_id", "access_token_ciphertext", "access_token_nonce", "default_account_id",
      "key_version", "created_at", "updated_at"]
  named _ := rfl
  distinct := by decide +kernel
  injective := by
    rintro ⟨⟩ ⟨⟩ same
    simpa using same

instance : Serialize TmoPaymentEventLinkRow where
  fields row :=
    [("tmo_payment_id", .integer row.tmoPaymentId), ("stream_event_id", .integer row.streamEventId),
      ("created_at", .text row.createdAt)]
  names :=
    ["tmo_payment_id", "stream_event_id", "created_at"]
  named _ := rfl
  distinct := by decide +kernel
  injective := by
    rintro ⟨⟩ ⟨⟩ same
    simpa using same

instance : Serialize PortfolioSnapshotRow where
  fields row :=
    [("id", .integer row.id), ("snapshot_date", .text row.snapshotDate),
      ("portfolio_value", .optional .number row.portfolioValue),
      ("portfolio_yield", .optional .number row.portfolioYield),
      ("portfolio_count", .optional .integer row.portfolioCount),
      ("ytd_interest", .optional .number row.ytdInterest),
      ("ytd_principal", .optional .number row.ytdPrincipal),
      ("trust_balance", .optional .number row.trustBalance),
      ("outstanding_checks", .optional .number row.outstandingChecks),
      ("service_fees", .optional .number row.serviceFees), ("synced_at", .text row.syncedAt)]
  names :=
    ["id", "snapshot_date", "portfolio_value", "portfolio_yield", "portfolio_count", "ytd_interest",
      "ytd_principal", "trust_balance", "outstanding_checks", "service_fees", "synced_at"]
  named _ := rfl
  distinct := by decide +kernel
  injective := by
    rintro ⟨⟩ ⟨⟩ same
    simpa using same

instance : Serialize SettingRow where
  fields row :=
    [("key", .text row.key), ("value", .text row.value), ("updated_at", .text row.updatedAt)]
  names :=
    ["key", "value", "updated_at"]
  named _ := rfl
  distinct := by decide +kernel
  injective := by
    rintro ⟨⟩ ⟨⟩ same
    simpa using same

instance : Serialize SyncLogRow where
  fields row :=
    [("id", .integer row.id), ("connection_slug", .text row.connectionSlug),
      ("scheduled_for", .optional .text row.scheduledFor), ("started_at", .text row.startedAt),
      ("finished_at", .optional .text row.finishedAt), ("status", .text row.status),
      ("error_message", .optional .text row.errorMessage),
      ("endpoints_hit", .optional .text row.endpointsHit),
      ("events_upserted", .integer row.eventsUpserted),
      ("loans_upserted", .integer row.loansUpserted),
      ("snapshots_created", .integer row.snapshotsCreated)]
  names :=
    ["id", "connection_slug", "scheduled_for", "started_at", "finished_at", "status",
      "error_message", "endpoints_hit", "events_upserted", "loans_upserted", "snapshots_created"]
  named _ := rfl
  distinct := by decide +kernel
  injective := by
    rintro ⟨⟩ ⟨⟩ same
    simpa using same

instance : Serialize LoanWorkspaceRow where
  fields row :=
    [("id", .integer row.id), ("connection_id", .integer row.connectionId),
      ("loan_account", .text row.loanAccount), ("redfin_url", .optional .text row.redfinUrl),
      ("zillow_url", .optional .text row.zillowUrl),
      ("decision_status", .optional .text row.decisionStatus),
      ("target_contribution", .optional .number row.targetContribution),
      ("actual_contribution", .optional .number row.actualContribution),
      ("notes", .optional .text row.notes), ("created_at", .text row.createdAt),
      ("updated_at", .text row.updatedAt)]
  names :=
    ["id", "connection_id", "loan_account", "redfin_url", "zillow_url", "decision_status",
      "target_contribution", "actual_contribution", "notes", "created_at", "updated_at"]
  named _ := rfl
  distinct := by decide +kernel
  injective := by
    rintro ⟨⟩ ⟨⟩ same
    simpa using same

instance : Serialize LoanWorkspacePhotoRow where
  fields row :=
    [("id", .integer row.id), ("connection_id", .integer row.connectionId),
      ("loan_account", .text row.loanAccount), ("provider", .text row.provider),
      ("caption", .optional .text row.caption), ("source_url", .text row.sourceUrl),
      ("image_url", .text row.imageUrl), ("sort_order", .integer row.sortOrder),
      ("is_featured", .integer row.isFeatured), ("created_at", .text row.createdAt)]
  names :=
    ["id", "connection_id", "loan_account", "provider", "caption", "source_url", "image_url",
      "sort_order", "is_featured", "created_at"]
  named _ := rfl
  distinct := by decide +kernel
  injective := by
    rintro ⟨⟩ ⟨⟩ same
    simpa using same

instance : Serialize ReceivedEmailRow where
  fields row :=
    [("id", .integer row.id), ("resend_email_id", .text row.resendEmailId),
      ("from_address", .text row.fromAddress), ("to_addresses", .text row.toAddresses),
      ("subject", .optional .text row.subject), ("received_at", .text row.receivedAt),
      ("body_s3_key", .optional .text row.bodyS3Key),
      ("body_content_type", .optional .text row.bodyContentType),
      ("loan_account", .optional .text row.loanAccount),
      ("processing_state", .text row.processingState),
      ("error_message", .optional .text row.errorMessage),
      ("raw_webhook_payload", .optional .text row.rawWebhookPayload),
      ("created_at", .text row.createdAt), ("updated_at", .text row.updatedAt)]
  names :=
    ["id", "resend_email_id", "from_address", "to_addresses", "subject", "received_at",
      "body_s3_key", "body_content_type", "loan_account", "processing_state", "error_message",
      "raw_webhook_payload", "created_at", "updated_at"]
  named _ := rfl
  distinct := by decide +kernel
  injective := by
    rintro ⟨⟩ ⟨⟩ same
    simpa using same

instance : Serialize ReceivedEmailAttachmentRow where
  fields row :=
    [("id", .integer row.id), ("email_id", .integer row.emailId),
      ("resend_attachment_id", .text row.resendAttachmentId), ("filename", .text row.filename),
      ("content_type", .text row.contentType), ("size_bytes", .optional .integer row.sizeBytes),
      ("s3_key", .optional .text row.s3Key), ("processing_state", .text row.processingState),
      ("created_at", .text row.createdAt)]
  names :=
    ["id", "email_id", "resend_attachment_id", "filename", "content_type", "size_bytes", "s3_key",
      "processing_state", "created_at"]
  named _ := rfl
  distinct := by decide +kernel
  injective := by
    rintro ⟨⟩ ⟨⟩ same
    simpa using same

/-! ### Statistics of a table -/

/-- What the statistics take from the libraries. -/
structure StatsPlatform where
  /-- The digest of some bytes as text. -/
  blake3 : List UInt8 → String
  /-- The bytes of a serialised row. -/
  json : Value → List UInt8
  /-- The sum of two doubles. -/
  add : Binary64 → Binary64 → Binary64
  /-- A double with seventeen decimals and an exponent. -/
  scientific : Binary64 → String

/-- Rows have different bytes when they differ in a value; the names of their fields are given. -/
structure StatsPlatform.Lossless (platform : StatsPlatform) : Prop where
  array : ∀ left right : List Scalar, platform.json (.array left) = platform.json (.array right) →
    left = right
  object : ∀ left right : List (String × Scalar), left.map Prod.fst = right.map Prod.fst →
    (left.map Prod.fst).Nodup → platform.json (.object left) = platform.json (.object right) →
    left = right

/-- The sums of one column. -/
structure FinancialStats where
  field : String
  nonNullCount : ℕ
  bitsBlake3 : String
  sum : String
  sumBits : String
  deriving DecidableEq

/-- The statistics of a table. -/
structure TableStats where
  rowCount : ℕ
  keyMin : Option String
  keyMax : Option String
  canonicalRowsBlake3 : String
  financial : List FinancialStats
  deriving DecidableEq

variable (platform : StatsPlatform)

/-- Sums a column up. -/
def financial (name : String) (values : List Binary64) : FinancialStats :=
  let sum := values.foldl platform.add ⟨false, 0⟩
  { field := name
    nonNullCount := values.length
    bitsBlake3 := platform.blake3 (values.flatMap fun value => Framing.wordBytes 8 value.toBits)
    sum := platform.scientific sum
    sumBits := bitsText sum }

/-- The bytes of a row; the program stops where they do not fit into a vector. -/
def toVec (row : Value) : Option (List UInt8) :=
  let bytes := platform.json row
  if bytes.length < 2 ^ 63 then some bytes else none

/-- The statistics of some keys and rows. -/
def stats (rows : List (String × Value)) (financial : List FinancialStats) :
    Option TableStats := do
  let printed ← rows.mapM fun (_, row) => toVec platform row
  pure {
    rowCount := rows.length
    keyMin := rows.head?.map Prod.fst
    keyMax := rows.getLast?.map Prod.fst
    canonicalRowsBlake3 := platform.blake3 (printed.flatMap Framing.frame)
    financial }

/-- The statistics of rows that are serialised by their columns. -/
def listedStats {α : Type} [Listed α] (rows : List α) (key : α → String)
    (financial : List FinancialStats) : Option TableStats :=
  stats platform (rows.map fun row => (key row, .array (Listed.values row))) financial

/-- The statistics of rows that are serialised by their fields. -/
def serializedStats {α : Type} [Serialize α] (rows : List α) (key : α → String)
    (financial : List FinancialStats) : Option TableStats :=
  stats platform (rows.map fun row => (key row, .object (Serialize.fields row))) financial

/-- The sums of some columns. -/
def summed {α : Type} (rows : List α) (columns : List (String × (α → Option FiniteNumber))) :
    List FinancialStats :=
  columns.map fun (name, column) =>
    financial platform name ((rows.filterMap column).map FiniteNumber.number)

/-- The statistics of each table, by its name. -/
def tableStats (dataset : Dataset) : List (String × Option TableStats) :=
  [("app_user", listedStats platform dataset.appUsers (toString ·.id) []),
    ("account", listedStats platform dataset.accounts (toString ·.id)
      [financial platform "balance" (dataset.accounts.filterMap (·.balance))]),
    ("stream", listedStats platform dataset.streams (toString ·.id) []),
    ("stream_view", listedStats platform dataset.streamViews (toString ·.id) []),
    ("stream_view_stream", listedStats platform dataset.streamViewStreams
      (fun row => toString row.streamViewId ++ ":" ++ toString row.streamId) []),
    ("stream_schedule", listedStats platform dataset.streamSchedules (toString ·.id)
      [financial platform "amount" (dataset.streamSchedules.map (·.amount))]),
    ("stream_event", listedStats platform dataset.streamEvents (toString ·.id)
      [financial platform "amount" (dataset.streamEvents.map (·.amount)),
        financial platform "actual_amount" (dataset.streamEvents.filterMap (·.actualAmount))]),
    ("integration_connection", serializedStats platform dataset.integrationConnections
      (toString ·.id) []),
    ("tmo_import_overview", serializedStats platform dataset.tmoImportOverviews (toString ·.id)
      (summed platform dataset.tmoImportOverviews
        [("portfolio_value", (·.portfolioValue)), ("portfolio_yield", (·.portfolioYield)),
          ("ytd_interest", (·.ytdInterest)), ("ytd_principal", (·.ytdPrincipal)),
          ("trust_balance", (·.trustBalance)), ("outstanding_checks", (·.outstandingChecks)),
          ("service_fees", (·.serviceFees))])),
    ("tmo_import_loan", serializedStats platform dataset.tmoImportLoans (toString ·.id)
      (summed platform dataset.tmoImportLoans
        [("appraised_value", (·.appraisedValue)), ("ltv", (·.ltv)),
          ("percent_owned", (·.percentOwned)), ("interest_rate", (·.interestRate)),
          ("note_rate", (·.noteRate)), ("original_balance", (·.originalBalance)),
          ("loan_balance", (·.loanBalance)), ("principal_balance", (·.principalBalance)),
          ("regular_payment", (·.regularPayment))])),
    ("tmo_import_payment", serializedStats platform dataset.tmoImportPayments (toString ·.id)
      (summed platform dataset.tmoImportPayments
        [("amount", (some ·.amount)), ("service_fee", (some ·.serviceFee)),
          ("interest", (some ·.interest)), ("principal", (some ·.principal)),
          ("charges", (some ·.charges)), ("late_charges", (some ·.lateCharges)),
          ("other", (some ·.other))])),
    ("tmo_account", serializedStats platform dataset.tmoAccounts (toString ·.id) []),
    ("tmo_credential", serializedStats platform dataset.tmoCredentials (toString ·.connectionId)
      []),
    ("monarch_credential", serializedStats platform dataset.monarchCredentials
      (toString ·.connectionId) []),
    ("tmo_payment_event_link", serializedStats platform dataset.tmoPaymentEventLinks
      (toString ·.tmoPaymentId) []),
    ("portfolio_snapshot", serializedStats platform dataset.portfolioSnapshots (toString ·.id)
      (summed platform dataset.portfolioSnapshots
        [("portfolio_value", (·.portfolioValue)), ("portfolio_yield", (·.portfolioYield)),
          ("ytd_interest", (·.ytdInterest)), ("ytd_principal", (·.ytdPrincipal)),
          ("trust_balance", (·.trustBalance)), ("outstanding_checks", (·.outstandingChecks)),
          ("service_fees", (·.serviceFees))])),
    ("settings", serializedStats platform dataset.settings (·.key) []),
    ("sync_log", serializedStats platform dataset.syncLogs (toString ·.id) []),
    ("loan_workspace", serializedStats platform dataset.loanWorkspaces (toString ·.id)
      (summed platform dataset.loanWorkspaces
        [("target_contribution", (·.targetContribution)),
          ("actual_contribution", (·.actualContribution))])),
    ("loan_workspace_photo", serializedStats platform dataset.loanWorkspacePhotos (toString ·.id)
      []),
    ("received_email", serializedStats platform dataset.receivedEmails (toString ·.id) []),
    ("received_email_attachment", serializedStats platform dataset.receivedEmailAttachments
      (toString ·.id) [])]

/-- The statistics of all tables. -/
def datasetStats (dataset : Dataset) : Option (List (String × TableStats)) :=
  (tableStats platform dataset).mapM fun (name, table) => table.map (name, ·)

/-! ### What the statistics tell apart -/

variable {platform}

/-- Printed rows are the bytes of the rows, and they fit into vectors. -/
theorem mapM_toVec {rows : List (String × Value)} {printed : List (List UInt8)}
    (done : (rows.mapM fun (_, row) => toVec platform row) = some printed) :
    printed = rows.map (platform.json ·.2) ∧ ∀ bytes ∈ printed, bytes.length < 2 ^ 63 := by
  induction rows generalizing printed with
  | nil =>
    cases done
    exact ⟨rfl, by simp⟩
  | cons row rest ih =>
    simp only [List.mapM_cons, Option.bind_eq_bind, Option.bind_eq_some_iff, Option.pure_def,
      Option.some.injEq] at done
    obtain ⟨bytes, first, others, restDone, rfl⟩ := done
    obtain ⟨rfl, small⟩ := ih restDone
    simp only [toVec, Option.ite_none_right_eq_some, Option.some.injEq] at first
    obtain ⟨fits, rfl⟩ := first
    exact ⟨rfl, List.forall_mem_cons.mpr ⟨fits, small⟩⟩

/-- Tables with the same statistics have rows with the same bytes. -/
theorem stats_json (hash : Function.Injective platform.blake3) {left right : List (String × Value)}
    {leftSums rightSums : List FinancialStats} {table : TableStats}
    (leftDone : stats platform left leftSums = some table)
    (rightDone : stats platform right rightSums = some table) :
    left.map (platform.json ·.2) = right.map (platform.json ·.2) := by
  simp only [stats, Option.bind_eq_bind, Option.bind_eq_some_iff, Option.pure_def,
    Option.some.injEq] at leftDone rightDone
  obtain ⟨leftPrinted, leftRows, rfl⟩ := leftDone
  obtain ⟨rightPrinted, rightRows, same⟩ := rightDone
  obtain ⟨rfl, leftSmall⟩ := mapM_toVec leftRows
  obtain ⟨rfl, rightSmall⟩ := mapM_toVec rightRows
  -- The digest is that of all bytes of all rows, each row behind its length.
  have digests := congrArg TableStats.canonicalRowsBlake3 same
  refine (Framing.frames_inj ?_ ?_ (hash digests)).symm
  · exact fun bytes member => (rightSmall bytes member).trans (by decide)
  · exact fun bytes member => (leftSmall bytes member).trans (by decide)

/-- Tables of rows with different bytes have the same statistics only when they are the same. -/
theorem stats_inj {α : Type} (hash : Function.Injective platform.blake3) {row : α → Value}
    (apart : Function.Injective fun item => platform.json (row item)) {key : α → String}
    {left right : List α} {leftSums rightSums : List FinancialStats} {table : TableStats}
    (leftDone : stats platform (left.map fun item => (key item, row item)) leftSums = some table)
    (rightDone : stats platform (right.map fun item => (key item, row item)) rightSums =
      some table) : left = right := by
  have bytes := stats_json hash leftDone rightDone
  rw [List.map_map, List.map_map] at bytes
  exact apart.list_map bytes

section Tables

variable (hash : Function.Injective platform.blake3) (lossless : platform.Lossless)

include hash lossless

/-- Rows that are serialised by their columns are told apart. -/
theorem listedStats_inj {α : Type} [Listed α] {left right : List α} {key : α → String}
    {leftSums rightSums : List FinancialStats} {table : TableStats}
    (leftDone : listedStats platform left key leftSums = some table)
    (rightDone : listedStats platform right key rightSums = some table) : left = right :=
  stats_inj hash (fun _ _ same => Listed.injective (lossless.array _ _ same)) leftDone rightDone

/-- Rows that are serialised by their fields are told apart. -/
theorem serializedStats_inj {α : Type} [Serialize α] {left right : List α} {key : α → String}
    {leftSums rightSums : List FinancialStats} {table : TableStats}
    (leftDone : serializedStats platform left key leftSums = some table)
    (rightDone : serializedStats platform right key rightSums = some table) : left = right := by
  refine stats_inj hash (fun first second same => ?_) leftDone rightDone
  -- All rows of a table have the same fields.
  have named : (Serialize.fields first).map Prod.fst = (Serialize.fields second).map Prod.fst := by
    rw [Serialize.named, Serialize.named]
  have distinct : ((Serialize.fields first).map Prod.fst).Nodup := by
    rw [Serialize.named]
    exact Serialize.distinct
  exact Serialize.injective (lossless.object _ _ named distinct same)

end Tables

/-- Statistics that were made are those of each table. -/
theorem datasetStats_tables {dataset : Dataset} {tables : List (String × TableStats)}
    (done : datasetStats platform dataset = some tables) :
    tableStats platform dataset = tables.map fun (name, table) => (name, some table) := by
  unfold datasetStats at done
  generalize tableStats platform dataset = named at done
  induction named generalizing tables with
  | nil =>
    cases done
    rfl
  | cons first rest ih =>
    simp only [List.mapM_cons, Option.bind_eq_bind, Option.bind_eq_some_iff, Option.pure_def,
      Option.some.injEq, Option.map_eq_some_iff] at done
    obtain ⟨_, ⟨table, made, rfl⟩, others, restDone, rfl⟩ := done
    rw [List.map_cons, ← ih restDone]
    exact congrArg (· :: rest) (Prod.ext rfl made)

/-- Two tables have statistics, and the same ones. -/
def Agreeing (left right : String × Option TableStats) : Prop :=
  ∃ table, left.2 = some table ∧ right.2 = some table

/-- The same statistics are the same table by table. -/
theorem datasetStats_agreeing {source destination : Dataset} {tables : List (String × TableStats)}
    (sourceStats : datasetStats platform source = some tables)
    (destinationStats : datasetStats platform destination = some tables) :
    List.Forall₂ Agreeing (tableStats platform source) (tableStats platform destination) := by
  rw [datasetStats_tables sourceStats, datasetStats_tables destinationStats, List.forall₂_same]
  intro named member
  obtain ⟨⟨name, table⟩, -, rfl⟩ := List.mem_map.mp member
  exact ⟨table, rfl, rfl⟩

/-- Datasets with the same statistics are the same. -/
theorem eq_of_datasetStats (hash : Function.Injective platform.blake3)
    (lossless : platform.Lossless) {source destination : Dataset}
    {tables : List (String × TableStats)} (sourceStats : datasetStats platform source = some tables)
    (destinationStats : datasetStats platform destination = some tables) :
    source = destination := by
  have listed {α : Type} [Listed α] {left right : List α} {key : α → String}
      {leftSums rightSums : List FinancialStats} {name : String}
      (agreeing : Agreeing (name, listedStats platform left key leftSums)
        (name, listedStats platform right key rightSums)) : left = right := by
    obtain ⟨table, leftDone, rightDone⟩ := agreeing
    exact listedStats_inj hash lossless leftDone rightDone
  have serialized {α : Type} [Serialize α] {left right : List α} {key : α → String}
      {leftSums rightSums : List FinancialStats} {name : String}
      (agreeing : Agreeing (name, serializedStats platform left key leftSums)
        (name, serializedStats platform right key rightSums)) : left = right := by
    obtain ⟨table, leftDone, rightDone⟩ := agreeing
    exact serializedStats_inj hash lossless leftDone rightDone
  have agreeing := datasetStats_agreeing sourceStats destinationStats
  simp only [tableStats, List.forall₂_cons] at agreeing
  obtain ⟨appUsers, accounts, streams, streamViews, streamViewStreams, streamSchedules,
    streamEvents, integrationConnections, tmoImportOverviews, tmoImportLoans, tmoImportPayments,
    tmoAccounts, tmoCredentials, monarchCredentials, tmoPaymentEventLinks, portfolioSnapshots,
    settings, syncLogs, loanWorkspaces, loanWorkspacePhotos, receivedEmails,
    receivedEmailAttachments, -⟩ := agreeing
  -- Every table is among those that are compared.
  exact Dataset.ext (listed appUsers) (listed accounts) (listed streams) (listed streamViews)
    (listed streamViewStreams) (listed streamSchedules) (listed streamEvents)
    (serialized integrationConnections) (serialized tmoImportOverviews)
    (serialized tmoImportLoans) (serialized tmoImportPayments) (serialized tmoAccounts)
    (serialized tmoCredentials) (serialized monarchCredentials)
    (serialized tmoPaymentEventLinks) (serialized portfolioSnapshots) (serialized settings)
    (serialized syncLogs) (serialized loanWorkspaces) (serialized loanWorkspacePhotos)
    (serialized receivedEmails) (serialized receivedEmailAttachments)

/-! ### The verification -/

/-- Stops an export whose statistics are not those of its source. -/
def ensureStatsMatch (source destination : List (String × TableStats)) : ExportResult PUnit := do
  ensure (source.map Prod.fst == destination.map Prod.fst)
    (.detail "source/destination table sets differ")
  source.forM fun (table, sourceStats) => do
    -- The table is there, since both have the same tables.
    let destinationStats ← required (destination.lookup table) (.detail "no entry found for key")
    ensure (sourceStats == destinationStats) (.detail (table ++
      " source/destination count, key range, digest, or financial totals differ"))

/-- Tables with different names are the same when each is found with its statistics. -/
theorem eq_of_lookup {α β : Type} [BEq α] [LawfulBEq α] {left right : List (α × β)}
    (names : left.map Prod.fst = right.map Prod.fst) (distinct : (left.map Prod.fst).Nodup)
    (found : ∀ entry ∈ left, right.lookup entry.1 = some entry.2) : left = right := by
  -- The induction is on both lists, which have the same names in the same places.
  induction left generalizing right with
  | nil => exact (List.map_eq_nil_iff.mp names.symm).symm
  | cons entry rest ih =>
    cases right with
    | nil => cases names
    | cons other others =>
      obtain ⟨same, names⟩ := List.cons.inj names
      obtain ⟨fresh, distinct⟩ := List.nodup_cons.mp distinct
      have first := found entry List.mem_cons_self
      rw [List.lookup_cons, same, BEq.rfl] at first
      rw [show entry = other from Prod.ext same (Option.some.inj first).symm]
      congr 1
      refine ih names distinct fun later member => ?_
      have there := found later (List.mem_cons_of_mem _ member)
      -- A later entry is not found at the first one, whose name it does not have.
      have apart : (later.1 == other.1) = false := by
        rw [beq_eq_false_iff_ne, ← same]
        rintro equal
        exact fresh (equal ▸ List.mem_map_of_mem member)
      rwa [List.lookup_cons, apart] at there

/-- The tables have different names. -/
theorem datasetStats_names {dataset : Dataset} {tables : List (String × TableStats)}
    (done : datasetStats platform dataset = some tables) : (tables.map Prod.fst).Nodup := by
  have names := congrArg (List.map Prod.fst) (datasetStats_tables done)
  rw [List.map_map] at names
  have same : tables.map Prod.fst = (tableStats platform dataset).map Prod.fst := names.symm
  rw [same]
  simp only [tableStats, List.map_cons, List.map_nil]
  decide +kernel

/-- Statistics that pass the verification are the same. -/
theorem ensureStatsMatch_ok {source : Dataset}
    {sourceTables destinationTables : List (String × TableStats)}
    (sourceStats : datasetStats platform source = some sourceTables)
    (verified : ensureStatsMatch sourceTables destinationTables = .ok ⟨⟩) :
    sourceTables = destinationTables := by
  simp only [ensureStatsMatch, bind_eq_ok, ensure_eq_ok] at verified
  obtain ⟨-, names, each⟩ := verified
  refine eq_of_lookup (eq_of_beq names) (datasetStats_names sourceStats) fun entry member => ?_
  have checked := forM_eq_ok each entry member
  simp only [bind_eq_ok, required_eq_ok, ensure_eq_ok] at checked
  obtain ⟨found, there, same⟩ := checked
  rw [there, eq_of_beq same]

/--
An export and its source with the same statistics, or with statistics that pass the verification,
are the same in every field of every row of every table, and in the order of the rows.
-/
theorem import_verified (platform : StatsPlatform) (hash : Function.Injective platform.blake3)
    (lossless : platform.Lossless) (source destination : Dataset)
    (sourceTables destinationTables : List (String × TableStats))
    (sourceStats : datasetStats platform source = some sourceTables)
    (destinationStats : datasetStats platform destination = some destinationTables) :
    (sourceTables = destinationTables → source = destination) ∧
      (ensureStatsMatch sourceTables destinationTables = .ok ⟨⟩ → source = destination) := by
  have equal : sourceTables = destinationTables → source = destination := by
    rintro rfl
    exact eq_of_datasetStats hash lossless sourceStats destinationStats
  exact ⟨equal, fun verified => equal (ensureStatsMatch_ok sourceStats verified)⟩

/-! ### A source with one setting -/

/-- A dataset with one setting. -/
def settingDataset : Dataset :=
  { Dataset.empty with settings := [⟨"currency", "USD", "2025-01-01T00:00:00.000Z"⟩] }

/-- The setting as it is serialised; the names of its fields are sorted. -/
def settingJson : List UInt8 := bytesOf
  "\x7b\"key\":\"currency\",\"updated_at\":\"2025-01-01T00:00:00.000Z\",\"value\":\"USD\"\x7d"

/-- Numbers that tell values apart. -/
def Scalar.code : Scalar → List ℕ
  | .null => [0]
  | .integer value => [1, Encodable.encode value]
  | .number value => [2, value.number.toBits]
  | .text value => 3 :: value.toList.map Char.toNat

/-- Values with the same numbers are the same. -/
theorem Scalar.code_injective : Function.Injective Scalar.code := by
  intro left right same
  cases left <;> cases right <;> simp [Scalar.code] at same ⊢
  · exact same
  · rename_i first second
    rcases first with ⟨first, _⟩
    rcases second with ⟨second, _⟩
    simpa [Binary64.toBits_injective.eq_iff] using same
  · have texts := (List.map_injective_iff.mpr fun _ _ => Char.toNat_inj.mp) same
    exact String.toList_injective texts

/-- Numbers that tell serialised rows apart. -/
def Value.code : Value → List (List ℕ) ⊕ List (List ℕ × List ℕ)
  | .array items => .inl (items.map Scalar.code)
  | .object fields => .inr (fields.map fun (name, value) => (name.toList.map Char.toNat, value.code))

/-- Serialised rows with the same numbers are the same. -/
theorem Value.code_injective : Function.Injective Value.code := by
  intro left right same
  have named : Function.Injective fun field : String × Scalar =>
      (field.1.toList.map Char.toNat, field.2.code) := by
    rintro ⟨first, leftValue⟩ ⟨second, rightValue⟩ same
    obtain ⟨names, values⟩ := Prod.mk.inj same
    have texts := (List.map_injective_iff.mpr fun _ _ => Char.toNat_inj.mp) names
    exact Prod.ext (String.toList_injective texts) (Scalar.code_injective values)
  cases left with
  | array items =>
    cases right with
    | array others => rw [Scalar.code_injective.list_map (Sum.inl.inj same)]
    | object => cases same
  | object fields =>
    cases right with
    | array => cases same
    | object others => rw [named.list_map (Sum.inr.inj same)]

/-- The libraries, on a dataset with no row but the setting. -/
def settingPlatform : StatsPlatform where
  blake3 bytes :=
    if bytes = [] then "af1349b9f5f9a1a6a0404dea36dcc9499bcb25c9adc112b7cc9a93cae41f3262"
    else if bytes = Framing.frame settingJson then
      "5f8dcbf894ea8dd0ada0f85987d5f8673e22dd61be1d0f6a699021ffa543b617"
    else String.ofList ('-' :: bytes.map fun byte => Char.ofNat byte.toNat)
  json row :=
    if row = .object [("key", .text "currency"), ("value", .text "USD"),
        ("updated_at", .text "2025-01-01T00:00:00.000Z")] then settingJson
    else List.replicate (Encodable.encode row.code) 0
  add left _ := left
  scientific _ := "0.00000000000000000e0"

/-- A function stays injective with a new value at one place. -/
theorem injective_override {α β : Type} [DecidableEq α] {f : α → β} (injective : Function.Injective f)
    {place : α} {value : β} (fresh : ∀ other, value ≠ f other) :
    Function.Injective fun argument => if argument = place then value else f argument := by
  intro left right same
  dsimp only at same
  split at same
  · split at same
    · simp_all
    · exact absurd same (fresh right)
  · split at same
    · exact absurd same.symm (fresh left)
    · exact injective same

/-- The digest of the example tells bytes apart. -/
theorem settingPlatform_blake3 : Function.Injective settingPlatform.blake3 := by
  have codes : ∀ byte : Fin 256, (Char.ofNat byte).toNat = byte := by decide +kernel
  have others : Function.Injective fun bytes : List UInt8 =>
      String.ofList ('-' :: bytes.map fun byte => Char.ofNat byte.toNat) := by
    intro left right same
    have characters := (List.cons.inj (String.ofList_injective same)).2
    refine Function.Injective.list_map (fun first second same => ?_) characters
    have equal := congrArg Char.toNat same
    rw [codes ⟨first.toNat, first.toNat_lt⟩, codes ⟨second.toNat, second.toNat_lt⟩] at equal
    exact UInt8.toNat_inj.mp equal
  -- The two real digests do not start with a dash.
  have dashed : ∀ (text : String) (bytes : List UInt8), text.toList.head? ≠ some '-' →
      text ≠ String.ofList ('-' :: bytes.map fun byte => Char.ofNat byte.toNat) := by
    rintro _ bytes other rfl
    simp at other
  refine injective_override (injective_override others ?_) ?_
  · exact fun bytes => dashed _ bytes (by decide +kernel)
  · intro bytes
    split
    · decide +kernel
    · exact dashed _ bytes (by decide +kernel)

/-- The bytes of the example tell serialised rows apart. -/
theorem settingPlatform_lossless : settingPlatform.Lossless := by
  have others : Function.Injective fun row : Value =>
      List.replicate (Encodable.encode row.code) (0 : UInt8) := by
    intro left right same
    have lengths := congrArg List.length same
    simp only [List.length_replicate] at lengths
    exact Value.code_injective (Encodable.encode_injective lengths)
  have injective : Function.Injective settingPlatform.json := by
    refine injective_override others fun row same => ?_
    have first : (123 : UInt8) ∈ settingJson := by decide +kernel
    rw [same] at first
    cases List.eq_of_mem_replicate first
  exact ⟨fun _ _ same => Value.array.inj (injective same),
    fun _ _ _ _ same => Value.object.inj (injective same)⟩

/-- Only the dataset itself has the statistics of the dataset with one setting. -/
theorem import_verified_setting : ∃ tables, datasetStats settingPlatform settingDataset =
    some tables ∧ ∀ destination, datasetStats settingPlatform destination = some tables →
      settingDataset = destination := by
  obtain ⟨tables, done⟩ : ∃ tables, datasetStats settingPlatform settingDataset = some tables :=
    Option.isSome_iff_exists.mp (by decide +kernel)
  exact ⟨tables, done, fun destination same => (import_verified settingPlatform
    settingPlatform_blake3 settingPlatform_lossless settingDataset destination tables tables done
    same).1 rfl⟩

end FinStream.Migration
