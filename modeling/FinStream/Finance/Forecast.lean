import FinStream.Finance.Models
import FinStream.Ledger.Balance
import Mathlib.Data.List.Sort
import Mathlib.Data.Prod.Lex
import Mathlib.Tactic.Ring

/-! The forecast: balances of the primary account before and after the day it was last known. -/

namespace FinStream

open Store

/-- The window a forecast shows, the day lateness is judged on, and the streams it covers. -/
structure ForecastQuery where
  from_ : IsoDate
  through : IsoDate
  today : IsoDate
  streamId : Option ℕ
  viewId : Option ℕ
  deriving DecidableEq

/-- One event as the forecast query reads it, with what is in force in place of what was planned. -/
structure ForecastRow where
  eventId : ℕ
  streamId : ℕ
  accountId : Option ℕ
  hasAccountOverride : Bool
  date : IsoDate
  expectedDate : IsoDate
  actualDate : Option IsoDate
  label : Option String
  streamName : Option String
  accountName : Option String
  amount : ℚ
  status : EventStatus
  direction : Direction
  amountCertainty : AmountCertainty
  sourceType : Option SourceType
  metadata : Option JsonText
  deriving DecidableEq

/-- A shown event: its amount is signed, and it carries the balance after it. -/
structure ForecastRowWithBalance extends ForecastRow where
  runningBalance : ℚ
  isLate : Bool
  deriving DecidableEq

/-- Where the cash balance comes from. -/
structure CashSourceView where
  amount : ℚ
  asOfDate : IsoDate
  accountName : Option String
  sourceKind : String
  detail : String
  updatedAt : Option String
  deriving DecidableEq

/-- A forecast around a known balance. -/
structure ForecastResponse where
  startingBalance : ℚ
  balanceAsOfDate : IsoDate
  cashSource : CashSourceView
  openingBalance : ℚ
  rows : List ForecastRowWithBalance
  endingBalance : ℚ
  deriving DecidableEq

namespace ForecastRow

/-- The position of an event: by date, then by id. -/
def key (event : ForecastRow) : IsoDate ×ₗ ℕ := toLex (event.date, event.eventId)

/-- The amount with the sign of its direction. -/
def signed (event : ForecastRow) : ℚ := event.direction.signed event.amount

/-- The events up to the end of a day. -/
def dated (day : IsoDate) (event : ForecastRow) : Bool := event.date ≤ day

/-- The events before a day. -/
def datedBefore (day : IsoDate) (event : ForecastRow) : Bool := event.date < day

/-- The events up to and including one event. -/
def upTo (last : IsoDate ×ₗ ℕ) (event : ForecastRow) : Bool := event.key ≤ last

/-- The events dated within a window. -/
def inWindow (from_ through : IsoDate) (event : ForecastRow) : Bool :=
  from_ ≤ event.date && event.date ≤ through

/-- The event with its signed amount in place of the magnitude. -/
def withSign (event : ForecastRow) : ForecastRow := { event with amount := event.signed }

/-- The event as it is shown once its balance is known. -/
def withBalance (today : IsoDate) (event : ForecastRow) (balance : ℚ) : ForecastRowWithBalance where
  toForecastRow := event.withSign
  runningBalance := balance
  isLate := event.actualDate.isNone && event.date < today &&
    (event.status == .projected || event.status == .confirmed)

end ForecastRow

/-- The active primary account whose balance and day of balance are both known. -/
def primaryAccountWithBalance (db : Finance) : Option (ℕ × Account) :=
  db.accounts.find? fun _ account => account.isPrimary && account.isActive &&
    account.balance.isSome && account.balanceAsOfDate.isSome

/-- Describes the origin of the primary account's balance. -/
def getCashSource (db : Finance) : Option CashSourceView := do
  let (_, account) ← primaryAccountWithBalance db
  let amount ← account.balance
  let asOfDate ← account.balanceAsOfDate
  let sourceKind := account.sourceType.getD "manual"
  let detail := match sourceKind with
    | "monarch" => s!"Synced from Monarch for {account.name}"
    | "manual" => s!"Manual balance for {account.name}"
    | other => s!"{other} balance for {account.name}"
  some
    { amount, asOfDate, accountName := some account.name, sourceKind, detail
      updatedAt := account.balanceUpdatedAt }

/-- Whether a view is not asked for, or is active and shows the stream. -/
def viewShows (db : Finance) (viewId : Option ℕ) (streamId : ℕ) : Bool :=
  viewId.all fun view =>
    decide ((view, streamId) ∈ db.viewStreams) && (db.views.get? view).any (·.isActive)

/-- The forecast row of an event, unless the query's joins and conditions on it drop it. -/
def effectiveEvent (db : Finance) (streamId viewId : Option ℕ) (entry : ℕ × StreamEvent) :
    Option ForecastRow := do
  let (eventId, event) := entry
  let stream ← db.streams.get? event.streamId
  let accountId := if event.hasAccountOverride then event.overrideAccountId
    else event.accountId.or stream.defaultAccountId
  if stream.isActive && !event.isExcluded && streamId.all (event.streamId == ·) &&
      viewShows db viewId event.streamId then
    some
      { eventId, streamId := event.streamId, accountId
        hasAccountOverride := event.hasAccountOverride
        date := event.effectiveDate, expectedDate := event.expectedDate
        actualDate := event.actualDate, label := event.effectiveLabel
        streamName := some stream.name
        accountName := (accountId.bind db.accounts.get?).map (·.name)
        amount := event.effectiveAmount, status := event.status
        direction := stream.direction, amountCertainty := stream.amountCertainty
        sourceType := event.sourceType, metadata := event.metadata }
  else none

/-- Every event the streams of a query contribute, whatever its date. -/
def effectiveEvents (db : Finance) (streamId viewId : Option ℕ) : List ForecastRow :=
  db.events.rows.filterMap (effectiveEvent db streamId viewId)

/-- The events dated within a window, ordered by date and id. -/
def forecastEvents (db : Finance) (from_ through : IsoDate) (streamId viewId : Option ℕ) :
    List ForecastRow :=
  ((effectiveEvents db streamId viewId).filter (ForecastRow.inWindow from_ through)).insertionSort
    fun left right => left.key ≤ right.key

/-- The sum of the signed amounts of the events that satisfy a condition. -/
def signedSum (events : List ForecastRow) (condition : ForecastRow → Bool) : ℚ :=
  Ledger.total ForecastRow.signed events condition

/-- The balance at the end of a day. -/
def balanceAt (startingBalance : ℚ) (anchor target : IsoDate) (events : List ForecastRow) : ℚ :=
  if target ≥ anchor then
    startingBalance + signedSum events fun event => event.date > anchor && event.date ≤ target
  else startingBalance - signedSum events fun event => event.date > target && event.date ≤ anchor

/-- The balance at the start of a day. -/
def balanceBefore (startingBalance : ℚ) (anchor windowStart : IsoDate)
    (events : List ForecastRow) : ℚ :=
  if windowStart > anchor then
    startingBalance + signedSum events fun event => event.date > anchor && event.date < windowStart
  else
    startingBalance - signedSum events fun event => event.date ≥ windowStart && event.date ≤ anchor

/-- The first pass: each event after the anchor adds to the balance, then receives it. -/
def futureBalances (anchor : IsoDate) : ℚ → List (ForecastRow × ℚ) → List (ForecastRow × ℚ)
  | _, [] => []
  | future, (event, balance) :: rest =>
    if event.date > anchor then
      (event, future + event.signed) :: futureBalances anchor (future + event.signed) rest
    else (event, balance) :: futureBalances anchor future rest

/-- The second pass, from the end: each event up to the anchor receives the balance, then leaves. -/
def pastBalances (anchor : IsoDate) (past : ℚ) :
    List (ForecastRow × ℚ) → ℚ × List (ForecastRow × ℚ)
  | [] => (past, [])
  | (event, balance) :: rest =>
    let (remaining, later) := pastBalances anchor past rest
    if event.date ≤ anchor then (remaining - event.signed, (event, remaining) :: later)
    else (remaining, (event, balance) :: later)

/-- Each event with the balance after it. -/
def runningBalances (startingBalance : ℚ) (anchor : IsoDate) (events : List ForecastRow) :
    List (ForecastRow × ℚ) :=
  (pastBalances anchor startingBalance
    (futureBalances anchor startingBalance (events.map (·, startingBalance)))).2

/-- Computes the forecast of a window, or nothing when no balance is known to start from. -/
def computeForecast (db : Finance) (query : ForecastQuery) :
    Except String (Option ForecastResponse) := do
  ensure (query.from_ ≤ query.through) "forecast range ends before it starts"
  match primaryAccountWithBalance db with
  | none => pure none
  | some (_, account) => do
    let startingBalance ← required account.balance "cash anchor has no balance"
    let anchor ← required account.balanceAsOfDate "cash anchor has no as-of date"
    let cashSource ← required (getCashSource db) "cash anchor disappeared during forecast"
    let events := forecastEvents db (min query.from_ anchor) (max query.through anchor)
      query.streamId query.viewId
    let shown := (runningBalances startingBalance anchor events).filter fun entry =>
      entry.1.inWindow query.from_ query.through
    pure <| some
      { startingBalance, balanceAsOfDate := anchor, cashSource
        openingBalance := balanceBefore startingBalance anchor query.from_ events
        rows := shown.map fun entry => entry.1.withBalance query.today entry.2
        endingBalance := balanceAt startingBalance anchor query.through events }

/-- A cash source is described whenever its account is found with a balance and its day. -/
theorem getCashSource_found {db : Finance} {id : ℕ} {account : Account} {start : ℚ}
    {anchor : IsoDate} (primary : primaryAccountWithBalance db = some (id, account))
    (balance : account.balance = some start) (asOf : account.balanceAsOfDate = some anchor) :
    ∃ source, getCashSource db = some source := by
  simp [getCashSource, primary, balance, asOf]

/-- A primary account is found only with its balance and its day known. -/
theorem primaryAccountWithBalance_known {db : Finance} {id : ℕ} {account : Account}
    (primary : primaryAccountWithBalance db = some (id, account)) :
    ∃ start anchor, account.balance = some start ∧ account.balanceAsOfDate = some anchor := by
  obtain ⟨-, known⟩ := Table.find?_some primary
  simp only [Bool.and_eq_true] at known
  obtain ⟨start, balance⟩ := Option.isSome_iff_exists.mp known.1.2
  obtain ⟨anchor, asOf⟩ := Option.isSome_iff_exists.mp known.2
  exact ⟨start, anchor, balance, asOf⟩

/-- Events come in the order of their dates and ids, no two at one place. -/
def Ordered (events : List ForecastRow) : Prop :=
  events.Pairwise fun left right => left.key < right.key

/-- A forecast row keeps the id of its event. -/
theorem effectiveEvent_eventId {db : Finance} {streamId viewId : Option ℕ} {entry : ℕ × StreamEvent}
    {row : ForecastRow} (read : effectiveEvent db streamId viewId entry = some row) :
    row.eventId = entry.1 := by
  simp only [effectiveEvent, Option.bind_eq_bind, Option.bind_eq_some_iff,
    Option.ite_none_right_eq_some] at read
  obtain ⟨stream, -, -, built⟩ := read
  rw [← Option.some.inj built]

/-- No two contributed events share an id. -/
theorem effectiveEvents_distinct (db : Finance) (streamId viewId : Option ℕ) :
    (effectiveEvents db streamId viewId).Pairwise fun left right =>
      left.eventId ≠ right.eventId := by
  -- Ids increase along the table, and every row keeps the id of its event.
  refine (List.pairwise_map.mp db.events.ascending).filterMap _ ?_
  intro left right below row readLeft other readRight
  rw [effectiveEvent_eventId readLeft, effectiveEvent_eventId readRight]
  exact Nat.ne_of_lt below

/-- Sorting puts the events of a window in order. -/
theorem forecastEvents_ordered (db : Finance) (from_ through : IsoDate)
    (streamId viewId : Option ℕ) : Ordered (forecastEvents db from_ through streamId viewId) := by
  have sorted := List.pairwise_insertionSort
    (fun left right : ForecastRow => left.key ≤ right.key)
    ((effectiveEvents db streamId viewId).filter (ForecastRow.inWindow from_ through))
  have distinct : (forecastEvents db from_ through streamId viewId).Pairwise fun left right =>
      left.eventId ≠ right.eventId :=
    ((effectiveEvents_distinct db streamId viewId).filter _).perm
      (List.perm_insertionSort _ _).symm fun different => different.symm
  refine (sorted.and distinct).imp ?_
  rintro left right ⟨ordered, different⟩
  -- Equal places would mean equal ids.
  refine lt_of_le_of_ne ordered fun same => different ?_
  exact congrArg (fun place => (ofLex place).2) same

/-- The place of an event never goes back in time. -/
theorem ForecastRow.date_le_of_key {left right : ForecastRow} (ordered : left.key ≤ right.key) :
    left.date ≤ right.date := by
  rcases Prod.Lex.le_iff.mp ordered with before | ⟨same, -⟩
  · exact before.le
  · exact same.le

/-- An event of an earlier day has an earlier place. -/
theorem ForecastRow.key_lt_of_date {left right : ForecastRow} (before : left.date < right.date) :
    left.key < right.key := Prod.Lex.lt_iff.mpr (.inl before)

/-- The first pass keeps the events and their order. -/
@[simp] theorem futureBalances_events (anchor : IsoDate) (future : ℚ)
    (entries : List (ForecastRow × ℚ)) :
    (futureBalances anchor future entries).map Prod.fst = entries.map Prod.fst := by
  induction entries generalizing future with
  | nil => rfl
  | cons entry rest ih =>
    simp only [futureBalances]
    split <;> simp [ih]

/-- The second pass keeps the events and their order. -/
@[simp] theorem pastBalances_events (anchor : IsoDate) (past : ℚ)
    (entries : List (ForecastRow × ℚ)) :
    (pastBalances anchor past entries).2.map Prod.fst = entries.map Prod.fst := by
  induction entries with
  | nil => rfl
  | cons entry rest ih =>
    simp only [pastBalances]
    split <;> simp [ih]

/-- After the first pass, an event after the anchor has the balance of everything up to it. -/
theorem futureBalances_beyond {anchor : IsoDate} {future : ℚ} {entries : List (ForecastRow × ℚ)}
    (ordered : Ordered (entries.map Prod.fst)) {event : ForecastRow} {balance : ℚ}
    (member : (event, balance) ∈ futureBalances anchor future entries)
    (beyond : anchor < event.date) :
    balance = future + signedSum (entries.map Prod.fst) fun other =>
      other.upTo event.key && !other.dated anchor := by
  -- Induction over the pass: an event already passed lies at an earlier place than those ahead.
  induction entries generalizing future with
  | nil => simp [futureBalances] at member
  | cons entry rest ih =>
    obtain ⟨first, kept⟩ := entry
    simp only [List.map_cons, Ordered, List.pairwise_cons] at ordered
    obtain ⟨ahead, ordered⟩ := ordered
    have later : ∀ other ∈ rest.map Prod.fst, ¬ other.key ≤ first.key := fun other there =>
      not_le.mpr (ahead other there)
    simp only [signedSum, List.map_cons, Ledger.total_cons]
    simp only [futureBalances] at member
    split at member
    · rename_i after
      rcases List.mem_cons.mp member with same | member
      · -- The event reached now: nothing ahead of it counts.
        cases same
        rw [Ledger.total_empty fun other there => by simp [ForecastRow.upTo, later other there]]
        simp [ForecastRow.upTo, ForecastRow.dated, after]
      · have place := ahead event (by
          rw [← futureBalances_events anchor (future + first.signed)]
          exact List.mem_map_of_mem (f := Prod.fst) member)
        rw [ih ordered member]
        simp [ForecastRow.upTo, ForecastRow.dated, after, place.le, signedSum, add_assoc]
    · rename_i before
      rcases List.mem_cons.mp member with same | member
      · cases same
        exact absurd beyond before
      · rw [ih ordered member]
        simp [ForecastRow.dated, not_lt.mp before, signedSum]

/-- The first pass leaves the balances of events up to the anchor alone; the second sets them. -/
theorem pastBalances_beyond {anchor : IsoDate} {past : ℚ} {entries : List (ForecastRow × ℚ)}
    {event : ForecastRow} {balance : ℚ}
    (member : (event, balance) ∈ (pastBalances anchor past entries).2)
    (beyond : anchor < event.date) : (event, balance) ∈ entries := by
  induction entries with
  | nil => exact member
  | cons entry rest ih =>
    simp only [pastBalances] at member
    split at member
    · rename_i before
      rcases List.mem_cons.mp member with same | member
      · cases same
        exact absurd beyond (not_lt.mpr before)
      · exact List.mem_cons_of_mem _ (ih member)
    · rcases List.mem_cons.mp member with same | member
      · exact List.mem_cons.mpr (.inl same)
      · exact List.mem_cons_of_mem _ (ih member)

/-- The second pass hands on the balance before all the events up to the anchor. -/
theorem pastBalances_remaining (anchor : IsoDate) (past : ℚ) (entries : List (ForecastRow × ℚ)) :
    (pastBalances anchor past entries).1 =
      past - signedSum (entries.map Prod.fst) fun other => other.dated anchor := by
  induction entries with
  | nil => simp [pastBalances, signedSum, Ledger.total]
  | cons entry rest ih =>
    simp only [signedSum, List.map_cons, Ledger.total_cons] at ih ⊢
    simp only [pastBalances]
    split
    · rename_i dated
      have counted : entry.1.dated anchor = true := by simpa [ForecastRow.dated] using dated
      rw [counted, if_pos rfl, ih]
      ring
    · rename_i undated
      have skipped : entry.1.dated anchor = false := by simpa [ForecastRow.dated] using undated
      rw [skipped, if_neg Bool.false_ne_true, ih]
      ring

/-- After the second pass, an event up to the anchor has the balance without everything after it. -/
theorem pastBalances_within {anchor : IsoDate} {past : ℚ} {entries : List (ForecastRow × ℚ)}
    (ordered : Ordered (entries.map Prod.fst)) {event : ForecastRow} {balance : ℚ}
    (member : (event, balance) ∈ (pastBalances anchor past entries).2)
    (within : event.date ≤ anchor) :
    balance = past - signedSum (entries.map Prod.fst) fun other =>
      other.dated anchor && !other.upTo event.key := by
  -- Induction over the list: the pass reaches an event after all those ahead of it.
  induction entries with
  | nil => simp [pastBalances] at member
  | cons entry rest ih =>
    obtain ⟨first, kept⟩ := entry
    simp only [List.map_cons, Ordered, List.pairwise_cons] at ordered
    obtain ⟨ahead, ordered⟩ := ordered
    have later : ∀ other ∈ rest.map Prod.fst, ¬ other.key ≤ first.key := fun other there =>
      not_le.mpr (ahead other there)
    have onward : (event, balance) ∈ (pastBalances anchor past rest).2 →
        balance = past - signedSum (first :: rest.map Prod.fst) fun other =>
          other.dated anchor && !other.upTo event.key := by
      intro member
      have place := ahead event (by
        rw [← pastBalances_events anchor past]
        exact List.mem_map_of_mem (f := Prod.fst) member)
      rw [ih ordered member]
      simp [signedSum, Ledger.total_cons, ForecastRow.upTo, place.le]
    simp only [pastBalances] at member
    split at member
    · rename_i before
      rcases List.mem_cons.mp member with same | member
      · -- The event reached now: it stays, and everything ahead of it has left.
        cases same
        have left_ : Ledger.total ForecastRow.signed (rest.map Prod.fst) (ForecastRow.dated anchor)
            = Ledger.total ForecastRow.signed (rest.map Prod.fst) fun other =>
              other.dated anchor && !other.upTo event.key :=
          Ledger.total_congr fun other there => by simp [ForecastRow.upTo, later other there]
        rw [pastBalances_remaining, signedSum, left_]
        simp [signedSum, Ledger.total_cons, ForecastRow.upTo]
      · exact onward member
    · rename_i after
      rcases List.mem_cons.mp member with same | member
      · cases same
        exact absurd within after
      · exact onward member

/-- Both passes together give each event the balance after the cut at its place. -/
theorem runningBalances_balance {start : ℚ} {anchor : IsoDate} {events : List ForecastRow}
    (ordered : Ordered events) {event : ForecastRow} {balance : ℚ}
    (member : (event, balance) ∈ runningBalances start anchor events) :
    balance = Ledger.balance ForecastRow.signed events start (ForecastRow.dated anchor)
      (ForecastRow.upTo event.key) := by
  have loaded : (events.map (·, start)).map Prod.fst = events := by
    rw [List.map_map]
    exact List.map_id _
  have passed : Ordered ((futureBalances anchor start (events.map (·, start))).map Prod.fst) := by
    rw [futureBalances_events, loaded]
    exact ordered
  rcases le_or_gt event.date anchor with within | beyond
  · -- Everything up to the event also lies up to the anchor.
    rw [pastBalances_within passed member within, futureBalances_events, loaded,
      Ledger.balance_within fun other _ upTo => ?_]
    · rfl
    · simp only [ForecastRow.upTo, decide_eq_true_eq] at upTo
      simpa [ForecastRow.dated] using (ForecastRow.date_le_of_key upTo).trans within
  · -- Everything up to the anchor also lies up to the event.
    have first := pastBalances_beyond member beyond
    rw [futureBalances_beyond (by rwa [loaded]) first beyond, loaded,
      Ledger.balance_beyond fun other _ dated => ?_]
    · rfl
    · simp only [ForecastRow.dated, decide_eq_true_eq] at dated
      simpa [ForecastRow.upTo] using (ForecastRow.key_lt_of_date (dated.trans_lt beyond)).le

/-- The events not up to the end of a day are those after it. -/
@[simp] theorem ForecastRow.not_dated (day : IsoDate) (event : ForecastRow) :
    (!event.dated day) = decide (event.date > day) := by
  rw [dated, ← decide_not, decide_eq_decide]
  exact not_le

/-- The events not before a day are those from it on. -/
@[simp] theorem ForecastRow.not_datedBefore (day : IsoDate) (event : ForecastRow) :
    (!event.datedBefore day) = decide (event.date ≥ day) := by
  rw [datedBefore, ← decide_not, decide_eq_decide]
  exact not_lt

/-- The balance at the end of a day is the one after the cut there. -/
theorem balanceAt_balance (start : ℚ) (anchor target : IsoDate) (events : List ForecastRow) :
    balanceAt start anchor target events =
      Ledger.balance ForecastRow.signed events start (ForecastRow.dated anchor)
        (ForecastRow.dated target) := by
  unfold balanceAt signedSum
  split
  · rename_i beyond
    rw [Ledger.balance_beyond fun event _ dated => ?_]
    · refine congrArg (start + ·) (Ledger.total_congr fun event _ => ?_)
      rw [ForecastRow.not_dated, Bool.and_comm]
      rfl
    · simp only [ForecastRow.dated, decide_eq_true_eq] at dated ⊢
      exact dated.trans beyond
  · rename_i before
    rw [Ledger.balance_within fun event _ dated => ?_]
    · refine congrArg (start - ·) (Ledger.total_congr fun event _ => ?_)
      rw [ForecastRow.not_dated, Bool.and_comm]
      rfl
    · simp only [ForecastRow.dated, decide_eq_true_eq] at dated ⊢
      exact dated.trans (not_le.mp before).le

/-- The balance at the start of a day is the one after the cut before it. -/
theorem balanceBefore_balance (start : ℚ) (anchor target : IsoDate) (events : List ForecastRow) :
    balanceBefore start anchor target events =
      Ledger.balance ForecastRow.signed events start (ForecastRow.dated anchor)
        (ForecastRow.datedBefore target) := by
  unfold balanceBefore signedSum
  split
  · rename_i beyond
    rw [Ledger.balance_beyond fun event _ dated => ?_]
    · refine congrArg (start + ·) (Ledger.total_congr fun event _ => ?_)
      rw [ForecastRow.not_dated, Bool.and_comm]
      rfl
    · simp only [ForecastRow.dated, ForecastRow.datedBefore, decide_eq_true_eq] at dated ⊢
      exact dated.trans_lt beyond
  · rename_i before
    rw [Ledger.balance_within fun event _ dated => ?_]
    · refine congrArg (start - ·) (Ledger.total_congr fun event _ => ?_)
      rw [ForecastRow.not_datedBefore, Bool.and_comm]
      rfl
    · simp only [ForecastRow.dated, ForecastRow.datedBefore, decide_eq_true_eq] at dated ⊢
      exact dated.le.trans (not_lt.mp before)

end FinStream
