import FinStream.Finance.Operation

/-! The update requests of the finance pages, and the drafts they are merged into. -/

namespace FinStream

open Store

/-- A field of a request body: absent, `null`, or a value. -/
inductive WireField (α : Type) where
  | missing
  | null
  | value (value : α)
  deriving DecidableEq

namespace WireField

variable {α : Type}

/-- Whether a request names the field. -/
def isNamed : WireField α → Bool
  | .missing => false
  | _ => true

/-- The value to store, given the one that is stored already. -/
def merged (field : WireField α) (existing : Option α) : Option α :=
  match field with
  | .missing => existing
  | .null => none
  | .value new => some new

/-- A field that is not named is absent. -/
theorem eq_missing {field : WireField α} (unnamed : field.isNamed = false) : field = .missing := by
  cases field with
  | missing => rfl
  | null | value => cases unnamed

end WireField

/-- The body of an account request. -/
structure AccountRequest where
  name : String
  kind : Option String
  balance : WireField F64
  isPrimary : Option Bool
  notes : WireField String
  deriving DecidableEq

/-- One schedule in the body of a stream request. -/
structure ScheduleRequest where
  id : Option ℕ
  accountId : Option ℕ
  label : Option String
  amount : F64
  frequency : String
  dayOfMonth : Option ℤ
  startDate : String
  endDate : Option String
  metadata : Option String
  deriving DecidableEq

/-- The body of a stream request, with the fields of the first schedule next to a schedule list. -/
structure StreamRequest where
  name : String
  kind : Option String
  amountCertainty : Option String
  description : WireField String
  defaultAccountId : WireField ℕ
  scheduleId : Option ℕ
  scheduleAmount : WireField F64
  scheduleFrequency : WireField String
  dueDay : WireField ℤ
  startDate : WireField String
  endDate : WireField String
  schedules : WireField (List ScheduleRequest)
  deriving DecidableEq

/-- The body of a view request. -/
structure ViewRequest where
  name : String
  description : WireField String
  streamIds : Option (List ℕ)
  isDefault : Option Bool
  deriving DecidableEq

/-! ### Text fields -/

/-- Reads the name of a frequency. -/
def ScheduleFrequency.fromStr : String → Option ScheduleFrequency
  | "monthly" => some .monthly
  | "semimonthly" => some .semimonthly
  | "biweekly" => some .biweekly
  | "weekly" => some .weekly
  | "annual" => some .annual
  | "one_time" => some .oneTime
  | _ => none

/-- Reads the name of a certainty. -/
def AmountCertainty.fromStr : String → Option AmountCertainty
  | "known" => some .known
  | "estimated" => some .estimated
  | _ => none

/-- The direction of a new stream of a kind. -/
def Direction.forKind (kind : String) : Direction :=
  if kind == "manual_expense" || kind == "credit_card" then .out else .in_

/-- The certainty of a new stream of a kind. -/
def AmountCertainty.forKind (kind : String) : AmountCertainty :=
  if kind == "credit_card" then .estimated else .known

/-- The type a stream of a kind has. -/
def streamTypeForKind : String → FinanceResult String
  | "manual_income" => pure "manual_income"
  | "manual_expense" => pure "manual_expense"
  | "credit_card" => pure "credit_card_due"
  | "tmo_trust" => pure "mortgage_portfolio"
  | "manual" => pure "manual"
  | _ => throw (.validation
      "Stream kind must be manual, manual_income, manual_expense, credit_card, or tmo_trust.")

/-- Reads a frequency of a request. -/
def parseFrequency (value : String) : FinanceResult ScheduleFrequency :=
  required (ScheduleFrequency.fromStr (trim value)) (.validation
    "Schedule frequency must be monthly, semimonthly, biweekly, weekly, annual, or one_time.")

/-- Reads a certainty of a request. -/
def parseCertainty (value : String) : FinanceResult AmountCertainty :=
  required (AmountCertainty.fromStr (trim value))
    (.validation "Amount certainty must be 'known' or 'estimated'.")

/-- Reads a due day of a request. -/
def parseDayOfMonth (value : ℤ) : FinanceResult ℕ := do
  ensure (1 ≤ value && value ≤ 31) (.validation "Due day must be between 1 and 31.")
  pure value.toNat

/-- Reads a schedule date of a request. -/
def parseScheduleDate (label value : String) : FinanceResult IsoDate :=
  (IsoDate.fromStr (trim value)).mapError fun _ =>
    .validation s!"Invalid schedule {label} date. Use YYYY-MM-DD."

/-! ### Accounts -/

/-- Merges an account request with the account as it was read. -/
def AccountRequest.draft (id : Option ℕ) (today : IsoDate) (existing : Option Account)
    (request : AccountRequest) : AccountDraft :=
  let stored := existing.bind (·.balance)
  let (balance, balanceAsOfDate) := match request.balance with
    | .missing => (stored.map F64.finite, existing.bind (·.balanceAsOfDate))
    | .null => (none, none)
    | .value balance =>
      if stored.map F64.finite = some balance then
        (some balance, existing.bind (·.balanceAsOfDate))
      else (some balance, some today)
  { id
    name := request.name
    kind := request.kind.getD ((existing.map (·.kind)).getD "cash")
    balance
    balanceAsOfDate
    isPrimary := request.isPrimary.getD (existing.any (·.isPrimary))
    notes := request.notes.merged (existing.bind (·.notes)) }

/-! ### Streams -/

/-- A stream as it is listed, with its active schedules in id order. -/
structure StreamConfig where
  stream : Stream
  schedules : List (ℕ × StreamSchedule)
  deriving DecidableEq

/-- The draft that leaves a listed schedule as it is. -/
def scheduleFromView (entry : ℕ × StreamSchedule) : ScheduleDraft where
  id := some entry.1
  accountId := entry.2.accountId
  label := entry.2.label
  amount := .finite entry.2.amount
  frequency := entry.2.frequency
  dayOfMonth := entry.2.dayOfMonth
  startDate := entry.2.startDate
  endDate := entry.2.endDate
  metadata := entry.2.metadata

/-- The draft a schedule of a request stands for. -/
def scheduleFromRequest (request : ScheduleRequest) : FinanceResult ScheduleDraft := do
  let frequency ← parseFrequency request.frequency
  let dayOfMonth ← request.dayOfMonth.mapM parseDayOfMonth
  let startDate ← parseScheduleDate "start" request.startDate
  let endDate ← request.endDate.mapM (parseScheduleDate "end")
  pure {
    id := request.id
    accountId := request.accountId
    label := request.label
    amount := request.amount
    frequency, dayOfMonth, startDate, endDate
    metadata := request.metadata }

/-- Whether a request edits the first schedule. -/
def StreamRequest.isFlattened (request : StreamRequest) : Bool :=
  request.scheduleId.isSome || request.scheduleAmount.isNamed || request.scheduleFrequency.isNamed ||
    request.dueDay.isNamed || request.startDate.isNamed || request.endDate.isNamed

/-- The frequency of the edited first schedule, none when the request removes it. -/
def StreamRequest.firstFrequency (request : StreamRequest) (first : Option StreamSchedule) :
    FinanceResult (Option ScheduleFrequency) :=
  match request.scheduleFrequency with
  | .missing => pure (first.map (·.frequency))
  | .null => pure none
  | .value value => if isBlank value then pure none else (parseFrequency value).map some

/-- The due day of the edited first schedule. -/
def StreamRequest.firstDay (request : StreamRequest) (first : Option StreamSchedule)
    (frequency : ScheduleFrequency) : FinanceResult (Option ℕ) :=
  let day := request.dueDay.merged (first.bind fun schedule => schedule.dayOfMonth.map Int.ofNat)
  (if frequency == .monthly && day.isNone then some 1 else day).mapM parseDayOfMonth

/-- The start of the edited first schedule. -/
def StreamRequest.firstStart (request : StreamRequest) (first : Option StreamSchedule)
    (today : IsoDate) : FinanceResult IsoDate :=
  match request.startDate with
  | .missing => pure ((first.map (·.startDate)).getD today)
  | .null => pure today
  | .value value => parseScheduleDate "start" value

/-- The end of the edited first schedule. -/
def StreamRequest.firstEnd (request : StreamRequest) (first : Option StreamSchedule) :
    FinanceResult (Option IsoDate) :=
  match request.endDate with
  | .missing => pure (first.bind (·.endDate))
  | .null => pure none
  | .value value => if isBlank value then pure none else (parseScheduleDate "end" value).map some

/-- The amount of the edited first schedule. -/
def StreamRequest.firstAmount (request : StreamRequest) (first : Option StreamSchedule) : F64 :=
  match request.scheduleAmount with
  | .missing => .finite ((first.map (·.amount)).getD 0)
  | .null => .finite 0
  | .value value => value

/-- The account of the edited first schedule. -/
def StreamRequest.firstAccount (request : StreamRequest) (first : Option StreamSchedule)
    (defaultAccountId : Option ℕ) : Option ℕ :=
  if request.defaultAccountId.isNamed then defaultAccountId
  else (first.bind (·.accountId)).or defaultAccountId

/-- The edited first schedule, none when the request removes it. -/
def StreamRequest.firstSchedule (request : StreamRequest) (first : Option (ℕ × StreamSchedule))
    (defaultAccountId : Option ℕ) (today : IsoDate) : FinanceResult (Option ScheduleDraft) := do
  let row := first.map Prod.snd
  match ← request.firstFrequency row with
  | none => pure none
  | some frequency =>
    let dayOfMonth ← request.firstDay row frequency
    let startDate ← request.firstStart row today
    let endDate ← request.firstEnd row
    pure (some {
      id := request.scheduleId.or (first.map Prod.fst)
      accountId := request.firstAccount row defaultAccountId
      label := (row.bind (·.label)).or (some s!"{trim request.name} due")
      amount := request.firstAmount row
      frequency, dayOfMonth, startDate, endDate
      metadata := row.bind (·.metadata) })

/-- The schedules of a stream whose first schedule a request may edit. -/
def flattenedSchedules (request : StreamRequest) (existing : List (ℕ × StreamSchedule))
    (defaultAccountId : Option ℕ) (today : IsoDate) : FinanceResult (List ScheduleDraft) :=
  if request.isFlattened then do
    let first ← request.firstSchedule existing.head? defaultAccountId today
    pure (first.toList ++ (existing.drop 1).map scheduleFromView)
  else pure (existing.map scheduleFromView)

/-- The kind a request asks for. -/
def StreamRequest.kindOver (request : StreamRequest) (existing : Option StreamConfig) : String :=
  match request.kind with
  | some kind => trim kind
  | none => (existing.map (·.stream.kind)).getD "manual"

/-- The type and direction of a stream: those it has while its kind stays. -/
def typeAndDirection (kind : String) (existing : Option StreamConfig) :
    FinanceResult (String × Direction) :=
  match existing.filter (·.stream.kind == kind) with
  | some config => pure (config.stream.streamType, config.stream.direction)
  | none => (streamTypeForKind kind).map fun streamType => (streamType, .forKind kind)

/-- The certainty a request asks for, else the stored one, else the one of the kind. -/
def StreamRequest.certaintyOver (request : StreamRequest) (existing : Option StreamConfig)
    (kind : String) : FinanceResult AmountCertainty :=
  match request.amountCertainty with
  | some value => parseCertainty value
  | none => pure ((existing.map (·.stream.amountCertainty)).getD (.forKind kind))

/-- The schedules a request asks for. -/
def StreamRequest.schedulesOver (request : StreamRequest) (existing : Option StreamConfig)
    (defaultAccountId : Option ℕ) (today : IsoDate) : FinanceResult (List ScheduleDraft) :=
  match request.schedules with
  | .value schedules => schedules.mapM scheduleFromRequest
  | .null => pure []
  | .missing => flattenedSchedules request ((existing.map (·.schedules)).getD []) defaultAccountId
      today

/-- Merges a stream request with the stream as it was read. -/
def buildStreamDraft (id : Option ℕ) (request : StreamRequest) (existing : Option StreamConfig)
    (today : IsoDate) : FinanceResult StreamDraft := do
  let kind := request.kindOver existing
  let (streamType, direction) ← typeAndDirection kind existing
  let amountCertainty ← request.certaintyOver existing kind
  let defaultAccountId :=
    request.defaultAccountId.merged (existing.bind (·.stream.defaultAccountId))
  let schedules ← request.schedulesOver existing defaultAccountId today
  pure {
    id
    name := request.name
    streamType, kind, direction, amountCertainty
    description := request.description.merged (existing.bind (·.stream.description))
    defaultAccountId
    configuration := existing.bind (·.stream.configuration)
    parentId := existing.bind (·.stream.parentId)
    schedules }

/-! ### Views -/

/-- A view as it is listed, with the active streams that are its members. -/
structure ViewEditor where
  view : StreamView
  members : List ℕ
  deriving DecidableEq

/-- Merges a view request with the view as it was read. -/
def ViewRequest.draft (id : Option ℕ) (existing : Option ViewEditor) (request : ViewRequest) :
    StreamViewDraft where
  id
  name := request.name
  description := request.description.merged (existing.bind (·.view.description))
  isDefault := request.isDefault.getD (existing.any (·.view.isDefault))
  streamIds := request.streamIds.getD ((existing.map (·.members)).getD [])

end FinStream
