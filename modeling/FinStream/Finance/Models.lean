import FinStream.Finance.Date
import FinStream.Store.Table
import FinStream.Text
import Mathlib.Data.Finset.Basic
import Mathlib.Data.Finset.Prod

/-! The finance records: enumerations, drafts received from callers, and rows of the tables. -/

namespace FinStream

open Store

/-- Whether a stream brings money in or takes it out. -/
inductive Direction where
  | in_
  | out
  deriving DecidableEq

/-- The sign a stream's direction gives to a magnitude. -/
def Direction.signed : Direction → ℚ → ℚ
  | .in_, magnitude => |magnitude|
  | .out, magnitude => -|magnitude|

/-- Whether a stream's amounts are known in advance. -/
inductive AmountCertainty where
  | known
  | estimated
  deriving DecidableEq

/-- How often a schedule produces an event. -/
inductive ScheduleFrequency where
  | monthly
  | semimonthly
  | biweekly
  | weekly
  | annual
  | oneTime
  deriving DecidableEq

/-- The life of an event: expected, confirmed, or received. -/
inductive EventStatus where
  | projected
  | confirmed
  | received
  deriving DecidableEq

/-- A field of a patch request: left alone, cleared, or set. -/
inductive Patch (α : Type) where
  | keep
  | clear
  | set (value : α)
  deriving DecidableEq

/-- Who excluded an event. -/
inductive ExclusionReason where
  | user
  | schedule
  deriving DecidableEq

/-- Which writer an event comes from. -/
inductive SourceType where
  | manual
  | streamSchedule
  | tmoHistory
  | schedule
  deriving DecidableEq

/-- The half of a month a semimonthly occurrence stands for. -/
inductive Half where
  | mid
  | end_
  deriving DecidableEq

/-- The cadence period a projected event is stored under. -/
inductive Slot where
  | monthly (year month : ℤ)
  | semimonthly (year month : ℤ) (half : Half)
  | weekly (period : ℤ)
  | biweekly (period : ℤ)
  | annual (year : ℤ)
  | oneTime
  deriving DecidableEq

/-- The identity of a provider payment: loan account, check date and amount in cents. -/
structure PaymentIdentity where
  loanAccount : String
  checkDate : String
  cents : ℤ
  deriving DecidableEq

/-- The `source_id` of an event, by the parts its text is formatted from. -/
inductive SourceId where
  | streamSchedule (scheduleId : ℕ) (slot : Slot)
  | manual (eventId : ℕ)
  | history (payment : PaymentIdentity)
  deriving DecidableEq

/-- A JSON column, by the value its text was serialised from. -/
inductive JsonText where
  /-- Text a caller supplied. -/
  | text (value : String)
  /-- The note a schedule refresh leaves on each projected event. -/
  | projection (scheduleId : ℕ) (streamName : String)
  /-- The balance report kept with an account synchronised from Monarch. -/
  | balance (reported display pending adjusted : ℚ) (account : String) (mask : Option String)
      (providerUpdatedAt : String)
  /-- The provider identity kept with the connection. -/
  | connection (companyId account : String)
  /-- The balance source kept for older readers. -/
  | balanceSource (sourceRef : String) (metadata : JsonText) (updatedAt : String) (amount : ℚ)
      (asOfDate : IsoDate)
  deriving DecidableEq

/-- A row of `account`. -/
structure Account where
  name : String
  kind : String
  balance : Option ℚ
  balanceAsOfDate : Option IsoDate
  sourceType : Option String
  sourceRef : Option String
  metadata : Option JsonText
  balanceUpdatedAt : Option String
  isPrimary : Bool
  isActive : Bool
  notes : Option String
  updatedAt : String
  deriving DecidableEq

/-- A row of `stream`. -/
structure Stream where
  name : String
  streamType : String
  kind : String
  direction : Direction
  amountCertainty : AmountCertainty
  description : Option String
  defaultAccountId : Option ℕ
  configuration : Option String
  parentId : Option ℕ
  isActive : Bool
  updatedAt : String
  deriving DecidableEq

/-- A row of `stream_schedule`. -/
structure StreamSchedule where
  streamId : ℕ
  accountId : Option ℕ
  label : Option String
  amount : ℚ
  frequency : ScheduleFrequency
  dayOfMonth : Option ℕ
  startDate : IsoDate
  endDate : Option IsoDate
  isActive : Bool
  metadata : Option String
  updatedAt : String
  deriving DecidableEq

/--
A row of `stream_event`.

The schema ties `is_excluded` to the presence of a reason, so the reason alone is kept.
-/
structure StreamEvent where
  streamId : ℕ
  accountId : Option ℕ
  label : Option String
  expectedDate : IsoDate
  amount : ℚ
  overrideLabel : Option String
  hasLabelOverride : Bool
  overrideDate : Option IsoDate
  overrideAmount : Option ℚ
  overrideAccountId : Option ℕ
  hasAccountOverride : Bool
  actualDate : Option IsoDate
  actualAmount : Option ℚ
  status : EventStatus
  exclusionReason : Option ExclusionReason
  sourceId : Option SourceId
  sourceType : Option SourceType
  metadata : Option JsonText
  notes : Option String
  updatedAt : String
  deriving DecidableEq

namespace StreamEvent

/-- The `is_excluded` column. -/
def isExcluded (event : StreamEvent) : Bool := event.exclusionReason.isSome

/-- `status IN ('projected', 'confirmed')`. -/
def isOpen (event : StreamEvent) : Bool :=
  event.status == .projected || event.status == .confirmed

/-- Whether any override column is in force. -/
def isOverridden (event : StreamEvent) : Bool :=
  event.overrideDate.isSome || event.overrideAmount.isSome || event.hasLabelOverride ||
    event.hasAccountOverride

/-- Where an event comes from: its stream, its source type and its source id. -/
def origin (event : StreamEvent) : ℕ × Option SourceType × Option SourceId :=
  (event.streamId, event.sourceType, event.sourceId)

/-- The UNIQUE key of an event; a row without a source type or a source id has none. -/
def key (event : StreamEvent) : Option (ℕ × SourceType × SourceId) :=
  match event.sourceType, event.sourceId with
  | some sourceType, some sourceId => some (event.streamId, sourceType, sourceId)
  | _, _ => none

/-- The date an event counts on: actual, else overridden, else expected. -/
def effectiveDate (event : StreamEvent) : IsoDate :=
  (event.actualDate.or event.overrideDate).getD event.expectedDate

/-- The magnitude an event counts with: actual, else overridden, else expected. -/
def effectiveAmount (event : StreamEvent) : ℚ :=
  (event.actualAmount.or event.overrideAmount).getD event.amount

/-- The label an event is shown with. -/
def effectiveLabel (event : StreamEvent) : Option String :=
  if event.hasLabelOverride then event.overrideLabel else event.label

end StreamEvent

/-- A row of `stream_view`. -/
structure StreamView where
  name : String
  description : Option String
  isDefault : Bool
  isActive : Bool
  updatedAt : String
  deriving DecidableEq

/-- The finance tables, with view memberships as pairs of a view and a stream. -/
structure Finance where
  accounts : Table Account
  streams : Table Stream
  schedules : Table StreamSchedule
  events : Table StreamEvent
  views : Table StreamView
  viewStreams : Finset (ℕ × ℕ)
  deriving DecidableEq

/-- The finance tables of a freshly created database. -/
def Finance.empty : Finance where
  accounts := .empty
  streams := .empty
  schedules := .empty
  events := .empty
  views := .empty
  viewStreams := ∅

/-- A request to create or replace an account. -/
structure AccountDraft where
  id : Option ℕ
  name : String
  kind : String
  balance : Option F64
  balanceAsOfDate : Option IsoDate
  isPrimary : Bool
  notes : Option String

/-- A request to create or replace one schedule of a stream. -/
structure ScheduleDraft where
  id : Option ℕ
  accountId : Option ℕ
  label : Option String
  amount : F64
  frequency : ScheduleFrequency
  dayOfMonth : Option ℕ
  startDate : IsoDate
  endDate : Option IsoDate
  metadata : Option String

/-- A request to create or replace a stream together with its schedules. -/
structure StreamDraft where
  id : Option ℕ
  name : String
  streamType : String
  kind : String
  direction : Direction
  amountCertainty : AmountCertainty
  description : Option String
  defaultAccountId : Option ℕ
  configuration : Option String
  parentId : Option ℕ
  schedules : List ScheduleDraft

/-- A request to create or replace a stream view. -/
structure StreamViewDraft where
  id : Option ℕ
  name : String
  description : Option String
  isDefault : Bool
  streamIds : List ℕ

/-- A request to create a manual event. -/
structure EventDraft where
  streamId : ℕ
  accountId : Option ℕ
  label : String
  expectedDate : IsoDate
  amount : F64
  status : EventStatus
  metadata : Option String
  notes : Option String

/-- A request to change the override columns of one event. -/
structure EventPatch where
  label : Patch String
  expectedDate : Patch IsoDate
  amount : Patch F64
  accountId : Patch ℕ
  notes : Patch String

/-- The dates a schedule is projected over, which never end before they start. -/
structure ProjectionWindow where
  from_ : IsoDate
  through : IsoDate
  ordered : from_ ≤ through

/-- A window is refused when it ends before it starts. -/
def ProjectionWindow.new (from_ through : IsoDate) : Option ProjectionWindow :=
  if ordered : from_ ≤ through then some ⟨from_, through, ordered⟩ else none

/-- `BETWEEN` the ends of the window. -/
def ProjectionWindow.contains (window : ProjectionWindow) (date : IsoDate) : Bool :=
  window.from_ ≤ date && date ≤ window.through

/-- Errors a finance operation reports. -/
inductive FinanceError where
  | validation (message : String)
  | notFound (message : String)
  | conflict (message : String)
  | storage (message : String)
  /-- A date computation failed or panicked; the transaction is rolled back either way. -/
  | date (error : DateError)
  deriving DecidableEq

/-- What the database, the JSON library and the floating point unit decide. -/
structure Platform where
  /-- Whether a text parses as JSON. -/
  jsonValid : String → Bool
  /-- The length in bytes of a serialised value. -/
  jsonLength : JsonText → ℕ
  /-- Whether a text parses as an RFC 3339 timestamp. -/
  rfc3339Valid : String → Bool
  /-- Whether the database's `datetime` reads a text. -/
  datetimeValid : String → Bool
  /-- The rounded float product by one hundred. -/
  timesHundred : F64 → F64

/-- A platform that finds every text well formed and rounds no product. -/
def plainPlatform : Platform where
  jsonValid _ := true
  jsonLength _ := 0
  rfc3339Valid _ := true
  datetimeValid _ := true
  timesHundred
    | .finite value => .finite (100 * value)
    | other => other

end FinStream
