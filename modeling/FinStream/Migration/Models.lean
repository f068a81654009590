import FinStream.Integrations.Capture
import FinStream.Numeric.Binary64

/-! The rows the exporter reads and writes, and the dates it computes with. -/

namespace FinStream.Migration

open Calendar Numeric Store

/-- Why an export is blocked. -/
inductive ExportError where
  | detail (message : String)
  /-- A message that may be kept in the manifest, with the context that may not. -/
  | safe (message context : String)
  deriving DecidableEq

/-- What an error is shown as: the outermost message. -/
def ExportError.shown : ExportError → String
  | .detail message => message
  | .safe _ context => context

/-- A step of the export: an error that blocks it, or a result. -/
abbrev ExportResult (α : Type) := Except ExportError α

/-- An error whose message may be kept in the manifest and that is shown as it is. -/
def manifestSafeBlocker (message : String) : ExportError := .safe message message

/-- A stream of the target. -/
structure StreamRow where
  id : ℤ
  name : String
  streamType : String
  kind : String
  direction : String
  amountCertainty : String
  description : Option String
  defaultAccountId : Option ℤ
  configuration : Option String
  parentId : Option ℤ
  isActive : ℤ
  createdAt : String
  updatedAt : String
  deriving DecidableEq

/-- A schedule of the target; its other columns take no part in the transformation of events. -/
structure StreamScheduleRow where
  id : ℤ
  streamId : ℤ
  accountId : Option ℤ
  label : Option String
  amount : Binary64
  frequency : String
  startDate : String
  deriving DecidableEq

/-- An event of the target. -/
structure StreamEventRow where
  id : ℤ
  streamId : ℤ
  accountId : Option ℤ
  label : Option String
  expectedDate : String
  amount : Binary64
  overrideLabel : Option String
  hasLabelOverride : ℤ
  overrideDate : Option String
  overrideAmount : Option Binary64
  overrideAccountId : Option ℤ
  hasAccountOverride : ℤ
  actualDate : Option String
  actualAmount : Option Binary64
  status : String
  isExcluded : ℤ
  exclusionReason : Option String
  sourceId : Option String
  sourceType : Option String
  metadata : Option String
  notes : Option String
  createdAt : String
  updatedAt : String
  deriving DecidableEq

/-- An event of the source, with its values checked. -/
structure LegacyEventRow where
  id : ℤ
  streamId : ℤ
  accountId : Option ℤ
  label : Option String
  expectedDate : String
  actualDate : Option String
  amount : Binary64
  status : String
  sourceId : Option String
  sourceType : Option String
  metadata : Option String
  notes : Option String
  createdAt : String
  updatedAt : String
  deriving DecidableEq

/-- A date of the calendar, in the years the date library can represent. -/
structure NaiveDate where
  year : ℤ
  month : ℤ
  day : ℤ
  /-- The month and the day exist. -/
  exists_ : 1 ≤ month ∧ month ≤ 12 ∧ 1 ≤ day ∧ day ≤ monthLength (12 * year + (month - 1))

namespace NaiveDate

/-- Reads a text as `%Y-%m-%d`. -/
def parse (value : String) : Option NaiveDate := do
  let (year, month, day) ← parseNaiveDate value
  if exists_ : 1 ≤ month ∧ month ≤ 12 ∧ 1 ≤ day ∧ day ≤ monthLength (12 * year + (month - 1)) then
    some ⟨year, month, day, exists_⟩
  else none

/-- The year as `%Y` writes it: four digits at least, with a sign outside the first ten thousand. -/
def yearText (year : ℤ) : String :=
  let digits := "".pushn '0' (4 - (toString year.natAbs).length) ++ toString year.natAbs
  if year < 0 then "-" ++ digits
  else if 9999 < year then "+" ++ digits
  else digits

/-- The text of a date as `%Y-%m-%d`. -/
def format (date : NaiveDate) : String :=
  yearText date.year ++ "-" ++ IsoDate.padded 2 date.month ++ "-" ++ IsoDate.padded 2 date.day

/-- Days since the first day of year zero. -/
def dayNumber (date : NaiveDate) : ℤ :=
  monthStart (12 * date.year + (date.month - 1)) + (date.day - 1)

/-- The last year the date library can represent. -/
def lastYear : ℤ := 262142

/-- The day of the last day of the month, which is found from the first day of the next one. -/
def lastDayOfMonth (date : NaiveDate) : ExportResult ℤ :=
  if date.year = lastYear ∧ date.month = 12 then throw (.detail "date arithmetic overflow")
  else pure (monthLength (12 * date.year + (date.month - 1)))

end NaiveDate

/-- Reads a decimal number of 64 bits. -/
def parseI64 (text : String) : Option ℤ :=
  let read (sign : ℤ) (digits : List Char) : Option ℤ :=
    let number := sign * IsoDate.digitsValue digits
    if !digits.isEmpty && digits.all Char.isDigit && -2 ^ 63 ≤ number && number < 2 ^ 63 then
      some number
    else none
  match text.toList with
  | '-' :: digits => read (-1) digits
  | '+' :: digits => read 1 digits
  | digits => read 1 digits

end FinStream.Migration
