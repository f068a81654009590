import FinStream.Migration.Source
import FinStream.Migration.Stats
import Mathlib.Data.String.Basic

/-! What a source must look like before it is exported. -/

namespace FinStream.Migration

open Store

/-- What PostgreSQL calls a relation. -/
inductive RelationKind where
  | table
  | partitionedTable
  | view
  | materializedView
  | sequence
  | foreignTable
  | unknown
  deriving DecidableEq

namespace RelationKind

/-- The kind of a relation by its letter in the catalogue. -/
def fromPgRelkind (value : String) : RelationKind :=
  match value with
  | "r" => .table
  | "p" => .partitionedTable
  | "v" => .view
  | "m" => .materializedView
  | "S" => .sequence
  | "f" => .foreignTable
  | _ => .unknown

/-- Whether a relation has rows to count. -/
def hasRows : RelationKind → Bool
  | .table | .partitionedTable | .view | .materializedView => true
  | _ => false

end RelationKind

/-- What an export makes of a relation. -/
inductive RelationClassification where
  | mapped
  | transformed
  | intentionallyDiscarded
  | targetOnly
  | sequenceMetadata
  | blockedPendingTargetSchema
  | forbiddenLegacyRemnant
  | unclassified
  deriving DecidableEq

/-- A column of the source. -/
structure ColumnInventory where
  name : String
  pgType : String
  nullable : Bool
  ordinal : ℤ
  deriving DecidableEq

/-- A relation of the source, with what is found about its rows. -/
structure RelationInventory where
  schema : String
  name : String
  kind : RelationKind
  classification : RelationClassification
  reason : String
  ownedBy : Option String
  sourceCount : Option ℤ
  columns : List ColumnInventory
  sourceStats : Option TableStats
  destinationStats : Option TableStats
  deriving DecidableEq

/-- A relation with its schema. -/
def qualified (schema name : String) : String := s!"{schema}.{name}"

/-- The name of a relation with its schema. -/
def RelationInventory.qualifiedName (relation : RelationInventory) : String :=
  qualified relation.schema relation.name

/-- The tables that are exported. -/
def mappedRelations : List (String × String) :=
  [("public", "app_user"), ("public", "account"), ("public", "stream"), ("public", "stream_view"),
    ("public", "stream_view_stream"), ("public", "stream_schedule"), ("public", "stream_event"),
    ("intg", "integration_connection"), ("intg", "tmo_import_overview"),
    ("intg", "tmo_import_loan"), ("intg", "tmo_import_payment"), ("intg", "tmo_account"),
    ("intg", "tmo_credential"), ("intg", "monarch_credential"),
    ("intg", "tmo_payment_event_link"), ("public", "portfolio_snapshot"), ("public", "settings"),
    ("public", "sync_log"), ("intg", "loan_workspace"), ("intg", "loan_workspace_photo"),
    ("intg", "received_email"), ("intg", "received_email_attachment")]

/-- A table whose ids come from a sequence, with its name in the target. -/
structure SerialRelation where
  sourceSchema : String
  sourceTable : String
  targetTable : String
  deriving DecidableEq

/-- The name of a serial table in the source. -/
def SerialRelation.owner (relation : SerialRelation) : String :=
  qualified relation.sourceSchema relation.sourceTable

/-- The tables whose ids come from sequences. -/
def serialRelations : List SerialRelation :=
  [⟨"public", "app_user", "app_user"⟩, ⟨"public", "account", "account"⟩,
    ⟨"public", "stream", "stream"⟩, ⟨"public", "stream_view", "stream_view"⟩,
    ⟨"public", "stream_schedule", "stream_schedule"⟩, ⟨"public", "stream_event", "stream_event"⟩,
    ⟨"intg", "integration_connection", "intg_integration_connection"⟩,
    ⟨"intg", "tmo_import_overview", "intg_tmo_import_overview"⟩,
    ⟨"intg", "tmo_import_loan", "intg_tmo_import_loan"⟩,
    ⟨"intg", "tmo_import_payment", "intg_tmo_import_payment"⟩,
    ⟨"public", "portfolio_snapshot", "portfolio_snapshot"⟩, ⟨"public", "sync_log", "sync_log"⟩,
    ⟨"intg", "loan_workspace", "intg_loan_workspace"⟩,
    ⟨"intg", "loan_workspace_photo", "intg_loan_workspace_photo"⟩,
    ⟨"intg", "received_email", "intg_received_email"⟩,
    ⟨"intg", "received_email_attachment", "intg_received_email_attachment"⟩]

/-- A table that an upgrade of the source would have moved. -/
def isLegacyPublicRemnant (schema name : String) : Bool :=
  schema == "public" && ("tmo_".toList.isPrefixOf name.toList ||
    ["integration_connection", "received_email", "received_email_attachment"].contains name)

/-- What an export makes of a relation, and why. -/
def classifyRelation (schema name : String) (kind : RelationKind) (ownedBy : Option String) :
    RelationClassification × String :=
  if schema = "tower_sessions" ∧ name = "session" ∧ kind.hasRows = true then
    (.intentionallyDiscarded,
      "legacy login sessions are not portable and app_session starts empty")
  else if kind = .sequence then
    match ownedBy with
    | some owner =>
      if serialRelations.any (·.owner == owner) then
        (.sequenceMetadata, s!"preserve effective next ID for {owner}")
      else (.unclassified, "sequence has no explicitly classified owner")
    | none => (.unclassified, "sequence has no explicitly classified owner")
  else if mappedRelations.contains (schema, name) then
    if kind = .table ∨ kind = .partitionedTable then
      (.transformed, "typed mapping into the implemented target schema")
    else (.unclassified, "mapped source relation is not a table")
  else if isLegacyPublicRemnant schema name then
    (.forbiddenLegacyRemnant,
      "legacy public integration/TMO relation must be upgraded into intg before export")
  else (.unclassified, "relation is absent from the checked cutover contract")

/-- Whether the streams of a source say which way money flows; half of the columns is no shape. -/
def streamSourceShape (columns : List ColumnInventory) : Option StreamSourceShape :=
  match columns.any (·.name == "direction"), columns.any (·.name == "amount_certainty") with
  | true, true => some .upgraded
  | false, false => some .legacySigned
  | _, _ => none

/-! ### The columns of each table -/

/-- A column as the exporter reads it. -/
structure ExpectedColumn where
  name : String
  pgType : String
  nullable : Bool
  deriving DecidableEq

/-- The columns of the tables that are exported. -/
def columnContracts : List (String × List ExpectedColumn) :=
  [
    ("app_user", [⟨"id", "int8", false⟩, ⟨"email", "text", false⟩,
      ⟨"password_hash", "text", false⟩, ⟨"display_name", "text", true⟩,
      ⟨"is_active", "int4", false⟩, ⟨"created_at", "text", false⟩,
      ⟨"updated_at", "text", false⟩]),
    ("account", [⟨"id", "int8", false⟩, ⟨"name", "text", false⟩, ⟨"kind", "text", false⟩,
      ⟨"balance", "float8", true⟩, ⟨"source_type", "text", true⟩, ⟨"source_ref", "text", true⟩,
      ⟨"metadata", "text", true⟩, ⟨"balance_updated_at", "text", true⟩,
      ⟨"is_primary", "int4", false⟩, ⟨"is_active", "int4", false⟩, ⟨"notes", "text", true⟩,
      ⟨"created_at", "text", false⟩, ⟨"updated_at", "text", false⟩]),
    ("stream", [⟨"id", "int8", false⟩, ⟨"name", "text", false⟩, ⟨"type", "text", false⟩,
      ⟨"description", "text", true⟩, ⟨"is_active", "int4", false⟩, ⟨"created_at", "text", false⟩,
      ⟨"updated_at", "text", false⟩, ⟨"kind", "text", true⟩, ⟨"default_account_id", "int8", true⟩,
      ⟨"configuration", "text", true⟩, ⟨"parent_id", "int8", true⟩, ⟨"direction", "text", true⟩,
      ⟨"amount_certainty", "text", true⟩]),
    ("stream_view", [⟨"id", "int8", false⟩, ⟨"name", "text", false⟩,
      ⟨"description", "text", true⟩, ⟨"is_default", "int4", false⟩, ⟨"is_active", "int4", false⟩,
      ⟨"created_at", "text", false⟩, ⟨"updated_at", "text", false⟩]),
    ("stream_view_stream", [⟨"stream_view_id", "int8", false⟩, ⟨"stream_id", "int8", false⟩,
      ⟨"created_at", "text", false⟩]),
    ("stream_schedule", [⟨"id", "int8", false⟩, ⟨"stream_id", "int8", false⟩,
      ⟨"account_id", "int8", true⟩, ⟨"label", "text", true⟩, ⟨"amount", "float8", false⟩,
      ⟨"frequency", "text", false⟩, ⟨"day_of_month", "int4", true⟩, ⟨"start_date", "date", false⟩,
      ⟨"end_date", "date", true⟩, ⟨"is_active", "int4", false⟩, ⟨"metadata", "text", true⟩,
      ⟨"created_at", "text", false⟩, ⟨"updated_at", "text", false⟩]),
    ("stream_event", [⟨"id", "int8", false⟩, ⟨"stream_id", "int8", false⟩,
      ⟨"account_id", "int8", true⟩, ⟨"label", "text", true⟩, ⟨"expected_date", "date", false⟩,
      ⟨"actual_date", "date", true⟩, ⟨"amount", "float8", false⟩, ⟨"status", "text", false⟩,
      ⟨"source_id", "text", true⟩, ⟨"source_type", "text", true⟩, ⟨"metadata", "text", true⟩,
      ⟨"notes", "text", true⟩, ⟨"created_at", "text", false⟩, ⟨"updated_at", "text", false⟩]),
    ("integration_connection", [⟨"id", "int8", false⟩, ⟨"slug", "text", false⟩,
      ⟨"name", "text", false⟩, ⟨"provider", "text", false⟩, ⟨"status", "text", false⟩,
      ⟨"sync_cadence", "text", false⟩, ⟨"last_synced_at", "text", true⟩,
      ⟨"last_error", "text", true⟩, ⟨"metadata", "text", true⟩, ⟨"created_at", "text", false⟩,
      ⟨"updated_at", "text", false⟩, ⟨"next_scheduled_at", "text", true⟩]),
    ("tmo_import_overview", [⟨"id", "int8", false⟩, ⟨"connection_id", "int8", false⟩,
      ⟨"snapshot_date", "date", false⟩, ⟨"portfolio_value", "float8", true⟩,
      ⟨"portfolio_yield", "float8", true⟩, ⟨"portfolio_count", "int4", true⟩,
      ⟨"ytd_interest", "float8", true⟩, ⟨"ytd_principal", "float8", true⟩,
      ⟨"trust_balance", "float8", true⟩, ⟨"outstanding_checks", "float8", true⟩,
      ⟨"service_fees", "float8", true⟩, ⟨"processing_state", "text", false⟩,
      ⟨"raw_payload", "text", true⟩, ⟨"created_at", "text", false⟩,
      ⟨"updated_at", "text", false⟩]),
    ("tmo_import_loan", [⟨"id", "int8", false⟩, ⟨"connection_id", "int8", false⟩,
      ⟨"stream_id", "int8", true⟩, ⟨"loan_account", "text", false⟩,
      ⟨"borrower_name", "text", true⟩, ⟨"property_address", "text", true⟩,
      ⟨"property_city", "text", true⟩, ⟨"property_state", "text", true⟩,
      ⟨"property_zip", "text", true⟩, ⟨"property_description", "text", true⟩,
      ⟨"property_type", "text", true⟩, ⟨"property_priority", "int4", true⟩,
      ⟨"occupancy", "text", true⟩, ⟨"appraised_value", "float8", true⟩, ⟨"ltv", "float8", true⟩,
      ⟨"percent_owned", "float8", true⟩, ⟨"priority", "int4", true⟩, ⟨"loan_type", "int4", true⟩,
      ⟨"interest_rate", "float8", true⟩, ⟨"note_rate", "float8", true⟩,
      ⟨"original_balance", "float8", true⟩, ⟨"principal_balance", "float8", true⟩,
      ⟨"regular_payment", "float8", true⟩, ⟨"payment_frequency", "text", true⟩,
      ⟨"maturity_date", "date", true⟩, ⟨"next_payment_date", "date", true⟩,
      ⟨"interest_paid_to", "date", true⟩, ⟨"billed_through", "date", true⟩,
      ⟨"term_left_months", "int4", true⟩, ⟨"is_delinquent", "int4", true⟩,
      ⟨"is_active", "int4", true⟩, ⟨"raw_summary_payload", "text", true⟩,
      ⟨"raw_detail_payload", "text", true⟩, ⟨"summary_imported_at", "text", true⟩,
      ⟨"detail_imported_at", "text", true⟩, ⟨"created_at", "text", false⟩,
      ⟨"updated_at", "text", false⟩, ⟨"loan_balance", "float8", true⟩]),
    ("tmo_import_payment", [⟨"id", "int8", false⟩, ⟨"connection_id", "int8", false⟩,
      ⟨"external_id", "text", false⟩, ⟨"loan_account", "text", false⟩,
      ⟨"borrower_name", "text", false⟩, ⟨"property_name", "text", false⟩,
      ⟨"check_number", "text", true⟩, ⟨"check_date", "date", false⟩, ⟨"amount", "float8", false⟩,
      ⟨"service_fee", "float8", false⟩, ⟨"interest", "float8", false⟩,
      ⟨"principal", "float8", false⟩, ⟨"charges", "float8", false⟩,
      ⟨"late_charges", "float8", false⟩, ⟨"other", "float8", false⟩,
      ⟨"processing_state", "text", false⟩, ⟨"normalized_event_source_id", "text", true⟩,
      ⟨"raw_payload", "text", true⟩, ⟨"imported_at", "text", false⟩,
      ⟨"updated_at", "text", false⟩]),
    ("tmo_account", [⟨"id", "int8", false⟩, ⟨"company_id", "text", false⟩,
      ⟨"account_number", "text", false⟩, ⟨"source_rec_id", "text", true⟩,
      ⟨"display_name", "text", true⟩, ⟨"email", "text", true⟩, ⟨"last_login_at", "text", true⟩,
      ⟨"created_at", "text", false⟩, ⟨"updated_at", "text", false⟩]),
    ("tmo_credential", [⟨"connection_id", "int8", false⟩, ⟨"company_id", "text", false⟩,
      ⟨"account_number", "text", false⟩, ⟨"pin_ciphertext", "text", false⟩,
      ⟨"pin_nonce", "text", false⟩, ⟨"key_version", "int4", false⟩, ⟨"created_at", "text", false⟩,
      ⟨"updated_at", "text", false⟩]),
    ("monarch_credential", [⟨"connection_id", "int8", false⟩,
      ⟨"access_token_ciphertext", "text", false⟩, ⟨"access_token_nonce", "text", false⟩,
      ⟨"default_account_id", "text", false⟩, ⟨"key_version", "int4", false⟩,
      ⟨"created_at", "text", false⟩, ⟨"updated_at", "text", false⟩]),
    ("tmo_payment_event_link", [⟨"tmo_payment_id", "int8", false⟩,
      ⟨"stream_event_id", "int8", false⟩, ⟨"created_at", "text", false⟩]),
    ("portfolio_snapshot", [⟨"id", "int8", false⟩, ⟨"snapshot_date", "date", false⟩,
      ⟨"portfolio_value", "float8", true⟩, ⟨"portfolio_yield", "float8", true⟩,
      ⟨"portfolio_count", "int4", true⟩, ⟨"ytd_interest", "float8", true⟩,
      ⟨"ytd_principal", "float8", true⟩, ⟨"trust_balance", "float8", true⟩,
      ⟨"outstanding_checks", "float8", true⟩, ⟨"service_fees", "float8", true⟩,
      ⟨"synced_at", "text", false⟩]),
    ("settings", [⟨"key", "text", false⟩, ⟨"value", "text", false⟩,
      ⟨"updated_at", "text", false⟩]),
    ("sync_log", [⟨"id", "int8", false⟩, ⟨"connection_slug", "text", true⟩,
      ⟨"started_at", "text", false⟩, ⟨"finished_at", "text", true⟩, ⟨"status", "text", false⟩,
      ⟨"error_message", "text", true⟩, ⟨"endpoints_hit", "text", true⟩,
      ⟨"events_upserted", "int4", true⟩, ⟨"loans_upserted", "int4", true⟩,
      ⟨"snapshots_created", "int4", true⟩]),
    ("loan_workspace", [⟨"id", "int8", false⟩, ⟨"connection_id", "int8", false⟩,
      ⟨"loan_account", "text", false⟩, ⟨"redfin_url", "text", true⟩, ⟨"zillow_url", "text", true⟩,
      ⟨"decision_status", "text", true⟩, ⟨"target_contribution", "float8", true⟩,
      ⟨"actual_contribution", "float8", true⟩, ⟨"notes", "text", true⟩,
      ⟨"created_at", "text", false⟩, ⟨"updated_at", "text", false⟩]),
    ("loan_workspace_photo", [⟨"id", "int8", false⟩, ⟨"connection_id", "int8", false⟩,
      ⟨"loan_account", "text", false⟩, ⟨"provider", "text", false⟩, ⟨"caption", "text", true⟩,
      ⟨"source_url", "text", false⟩, ⟨"image_url", "text", false⟩, ⟨"sort_order", "int4", false⟩,
      ⟨"created_at", "text", false⟩, ⟨"is_featured", "bool", false⟩]),
    ("received_email", [⟨"id", "int8", false⟩, ⟨"resend_email_id", "text", false⟩,
      ⟨"from_address", "text", false⟩, ⟨"to_addresses", "text", false⟩, ⟨"subject", "text", true⟩,
      ⟨"received_at", "text", false⟩, ⟨"body_s3_key", "text", true⟩,
      ⟨"body_content_type", "text", true⟩, ⟨"loan_account", "text", true⟩,
      ⟨"processing_state", "text", false⟩, ⟨"error_message", "text", true⟩,
      ⟨"raw_webhook_payload", "text", true⟩, ⟨"created_at", "text", false⟩,
      ⟨"updated_at", "text", false⟩]),
    ("received_email_attachment", [⟨"id", "int8", false⟩, ⟨"email_id", "int8", false⟩,
      ⟨"resend_attachment_id", "text", false⟩, ⟨"filename", "text", false⟩,
      ⟨"content_type", "text", false⟩, ⟨"size_bytes", "int4", true⟩, ⟨"s3_key", "text", true⟩,
      ⟨"processing_state", "text", false⟩, ⟨"created_at", "text", false⟩])
  ]

/-- The columns that a table must have. -/
def expectedColumns (table : String) : Option (List ExpectedColumn) := columnContracts.lookup table

/-- Texts as a set lists them. -/
def sortedSet (texts : List String) : List String := texts.dedup.insertionSort (· ≤ ·)

section Inventory

-- What the debugger shows of a text.
variable (debug : String → String)

/-- A set of texts as the debugger shows it. -/
def debugSet (texts : List String) : String :=
  "\x7b" ++ ", ".intercalate (texts.map debug) ++ "\x7d"

/-- Refuses a column that is not as the exporter reads it. -/
def validateColumn (relation : RelationInventory) (expected : ExpectedColumn) :
    ExportResult PUnit := do
  -- The last column of a name is the one that counts.
  let actual ← required (relation.columns.reverse.find? (·.name == expected.name))
    (.detail "no entry found for key")
  ensure (actual.pgType == expected.pgType && actual.nullable == expected.nullable)
    (.detail (s!"column {expected.name} expected {expected.pgType} " ++
      s!"nullable={expected.nullable}, got {actual.pgType} nullable={actual.nullable}"))

/-- Refuses a table that has not the columns the exporter reads. -/
def validateMappedColumns (relation : RelationInventory) : ExportResult PUnit := do
  let upgraded ← required (expectedColumns relation.name) (.detail "no expected column contract")
  let actualNames := sortedSet (relation.columns.map (·.name))
  let upgradedNames := sortedSet (upgraded.map (·.name))
  let legacyStream := relation.schema == "public" && relation.name == "stream"
  let legacy := upgraded.filter fun column =>
    column.name != "direction" && column.name != "amount_certainty"
  let legacyNames := sortedSet (legacy.map (·.name))
  if actualNames = upgradedNames then upgraded.forM (validateColumn relation)
  else if legacyStream = true ∧ actualNames = legacyNames then
    legacy.forM (validateColumn relation)
  else
    let known := if legacyStream then s!" or known legacy stream {debugSet debug legacyNames}" else ""
    throw (.detail ("column set differs from supported source contract (expected upgraded " ++
      debugSet debug upgradedNames ++ known ++ "; got " ++ debugSet debug actualNames ++ ")"))

/-- What a relation blocks an export with. -/
def relationBlockers (relation : RelationInventory) : List String :=
  (match relation.classification with
    | .blockedPendingTargetSchema | .forbiddenLegacyRemnant | .unclassified =>
      [s!"{relation.qualifiedName}: {relation.reason}"]
    | .transformed =>
      match validateMappedColumns debug relation with
      | .ok _ => []
      | .error error => [s!"{relation.qualifiedName}: {error.shown}"]
    | _ => []) ++
  if relation.schema == "public" && relation.name == "stream_event" &&
      relation.columns.any (·.name == "scheduled_date") then
    ["public.stream_event.scheduled_date is a forbidden legacy column"]
  else []

/-- What keeps a source from being exported. -/
def inventoryBlockers (relations : List RelationInventory) : List String :=
  let names := (relations.filter (·.kind.hasRows)).map (·.qualifiedName)
  let missing := (mappedRelations.map fun (schema, table) => qualified schema table).filter
    fun name => !names.contains name
  sortedSet ((missing.map fun name => s!"required mapped relation {name} is missing") ++
    relations.flatMap (relationBlockers debug))

end Inventory

end FinStream.Migration
