import FinStream.Finance.Forecast

/-! A forecast's balances agree with each other, whatever window it is asked for. -/

namespace FinStream

open Store

/-- What a forecast says about the balances around the day a balance was known. -/
structure ForecastOf (events : List ForecastRow) (start : ℚ) (anchor : IsoDate)
    (query : ForecastQuery) (response : ForecastResponse) : Prop where
  /-- The known balance is reported as it is. -/
  known : response.startingBalance = start ∧ response.balanceAsOfDate = anchor
  /-- The rows are the events of the window, with signed amounts. -/
  shown : ∀ row, row ∈ response.rows.map (·.toForecastRow) ↔
    ∃ event ∈ events, event.inWindow query.from_ query.through = true ∧ row = event.withSign
  /-- The rows come in the order of their dates and ids. -/
  ordered : response.rows.Pairwise fun left right => left.key < right.key
  /-- After the known day, a row adds every event from that day up to it. -/
  beyond : ∀ row ∈ response.rows, anchor < row.date → row.runningBalance =
    start + signedSum events fun event => event.date > anchor && event.key ≤ row.key
  /-- Up to the known day, a row takes off every event from it up to that day. -/
  within : ∀ row ∈ response.rows, row.date ≤ anchor → row.runningBalance =
    start - signedSum events fun event => event.key > row.key && event.date ≤ anchor
  /-- The opening balance and the rows up to one of them give its balance. -/
  running : ∀ before row after, response.rows = before ++ row :: after →
    row.runningBalance =
      response.openingBalance + ((before ++ [row]).map fun shown => shown.amount).sum
  /-- The opening balance and all the rows give the ending balance. -/
  ending : response.endingBalance =
    response.openingBalance + (response.rows.map fun shown => shown.amount).sum

section Window

variable (db : Finance) (query : ForecastQuery) (start : ℚ) (anchor : IsoDate)

/-- The events loaded for a query: those between the window and the known day. -/
def loadedEvents : List ForecastRow :=
  forecastEvents db (min query.from_ anchor) (max query.through anchor) query.streamId query.viewId

/-- The balance after a cut of everything the query's streams contribute. -/
def contributed (cut : ForecastRow → Bool) : ℚ :=
  Ledger.balance ForecastRow.signed (effectiveEvents db query.streamId query.viewId) start
    (ForecastRow.dated anchor) cut

/-- The loaded events leave the balance of a cut that differs from the known day's among them. -/
theorem loadedEvents_balance {cut : ForecastRow → Bool}
    (between : ∀ event : ForecastRow, event.dated anchor ≠ cut event →
      event.inWindow (min query.from_ anchor) (max query.through anchor) = true) :
    Ledger.balance ForecastRow.signed (loadedEvents db query anchor) start
      (ForecastRow.dated anchor) cut = contributed db query start anchor cut := by
  rw [loadedEvents, forecastEvents, Ledger.balance_perm (List.perm_insertionSort _ _),
    Ledger.balance_filter fun event _ => between event]
  rfl

/-- The opening balance counts everything before the window. -/
theorem balanceBefore_contributed (ordered : query.from_ ≤ query.through) :
    balanceBefore start anchor query.from_ (loadedEvents db query anchor) =
      contributed db query start anchor (ForecastRow.datedBefore query.from_) := by
  rw [balanceBefore_balance]
  refine loadedEvents_balance db query start anchor fun event differs => ?_
  -- Such an event lies between the known day and the start of the window.
  simp only [ForecastRow.dated, ForecastRow.datedBefore, ne_eq, decide_eq_decide] at differs
  simp only [ForecastRow.inWindow, Bool.and_eq_true, decide_eq_true_eq, min_le_iff, le_max_iff]
  rcases le_or_gt event.date anchor with early | late
  · exact ⟨.inl (not_lt.mp fun before => differs (iff_of_true early before)), .inr early⟩
  · have before : event.date < query.from_ := by
      by_contra notBefore
      exact differs (iff_of_false (not_le.mpr late) notBefore)
    exact ⟨.inr late.le, .inl (before.le.trans ordered)⟩

/-- The ending balance counts everything up to the end of the window. -/
theorem balanceAt_contributed (ordered : query.from_ ≤ query.through) :
    balanceAt start anchor query.through (loadedEvents db query anchor) =
      contributed db query start anchor (ForecastRow.dated query.through) := by
  rw [balanceAt_balance]
  refine loadedEvents_balance db query start anchor fun event differs => ?_
  -- Such an event lies between the known day and the end of the window.
  simp only [ForecastRow.dated, ne_eq, decide_eq_decide] at differs
  simp only [ForecastRow.inWindow, Bool.and_eq_true, decide_eq_true_eq, min_le_iff, le_max_iff]
  rcases le_or_gt event.date anchor with early | late
  · have after : query.through < event.date :=
      not_le.mp fun inside => differs (iff_of_true early inside)
    exact ⟨.inl (ordered.trans after.le), .inr early⟩
  · have inside : event.date ≤ query.through := by
      by_contra outside
      exact differs (iff_of_false (not_le.mpr late) outside)
    exact ⟨.inr late.le, .inl inside⟩

/-- The events of the window among those loaded, with the balances the passes gave them. -/
def shownEvents : List (ForecastRow × ℚ) :=
  (runningBalances start anchor (loadedEvents db query anchor)).filter fun entry =>
    entry.1.inWindow query.from_ query.through

/-- The passes keep the events, so those shown are the loaded ones of the window. -/
theorem shownEvents_events : (shownEvents db query start anchor).map Prod.fst =
    (loadedEvents db query anchor).filter (ForecastRow.inWindow query.from_ query.through) := by
  have kept : (runningBalances start anchor (loadedEvents db query anchor)).map Prod.fst =
      loadedEvents db query anchor := by
    rw [runningBalances, pastBalances_events, futureBalances_events, List.map_map]
    exact List.map_id _
  conv_rhs => rw [← kept]
  rw [List.filter_map]
  rfl

/-- The shown events come in order. -/
theorem shownEvents_ordered :
    Ordered ((shownEvents db query start anchor).map Prod.fst) := by
  rw [shownEvents_events]
  exact (forecastEvents_ordered _ _ _ _ _).filter _

/-- The shown events are the contributed events of the window, in another order. -/
theorem shownEvents_perm : ((shownEvents db query start anchor).map Prod.fst).Perm
    ((effectiveEvents db query.streamId query.viewId).filter
      (ForecastRow.inWindow query.from_ query.through)) := by
  -- The window lies within the dates loaded, so loading drops nothing of it.
  have wider : ∀ event : ForecastRow, (event.inWindow query.from_ query.through &&
      event.inWindow (min query.from_ anchor) (max query.through anchor)) =
        event.inWindow query.from_ query.through := by
    intro event
    simp only [ForecastRow.inWindow, Bool.and_eq_left_iff_imp, Bool.and_eq_true, decide_eq_true_eq,
      min_le_iff, le_max_iff]
    exact fun inside => ⟨.inl inside.1, .inl inside.2⟩
  have loaded : (loadedEvents db query anchor).Perm _ := List.perm_insertionSort _ _
  rw [shownEvents_events]
  refine (loaded.filter _).trans ?_
  rw [List.filter_filter]
  simp only [wider]
  exact List.Perm.refl _

/-- The running balance of a shown event counts everything up to it. -/
theorem shownEvents_contributed {event : ForecastRow} {balance : ℚ}
    (member : (event, balance) ∈ shownEvents db query start anchor) :
    balance = contributed db query start anchor (ForecastRow.upTo event.key) := by
  obtain ⟨passed, inside⟩ := List.mem_filter.mp member
  simp only [ForecastRow.inWindow, Bool.and_eq_true, decide_eq_true_eq] at inside
  rw [runningBalances_balance (forecastEvents_ordered _ _ _ _ _) passed]
  refine loadedEvents_balance db query start anchor fun other differs => ?_
  -- Such an event lies between the known day and the shown event.
  simp only [ForecastRow.dated, ForecastRow.upTo, ne_eq, decide_eq_decide] at differs
  simp only [ForecastRow.inWindow, Bool.and_eq_true, decide_eq_true_eq, min_le_iff, le_max_iff]
  rcases le_or_gt other.date anchor with early | late
  · have after : event.key ≤ other.key :=
      (not_le.mp fun upTo => differs (iff_of_true early upTo)).le
    exact ⟨.inl (inside.1.trans (ForecastRow.date_le_of_key after)), .inr early⟩
  · have before : other.key ≤ event.key := by
      by_contra beyond
      exact differs (iff_of_false (not_le.mpr late) beyond)
    exact ⟨.inr late.le, .inl ((ForecastRow.date_le_of_key before).trans inside.2)⟩

/-- From the start of the window, a cut adds the shown events it covers. -/
theorem contributed_shown {cut : ForecastRow → Bool}
    (covers : ∀ event : ForecastRow, event.date < query.from_ → cut event = true)
    (inside : ∀ event : ForecastRow, cut event = true → event.date ≤ query.through) :
    contributed db query start anchor cut =
      contributed db query start anchor (ForecastRow.datedBefore query.from_) +
        Ledger.total ForecastRow.signed ((shownEvents db query start anchor).map Prod.fst) cut := by
  have extends_ : ∀ event ∈ effectiveEvents db query.streamId query.viewId,
      event.datedBefore query.from_ = true → cut event = true := fun event _ before =>
    covers event (by simpa [ForecastRow.datedBefore] using before)
  unfold contributed
  rw [Ledger.balance_extend extends_, Ledger.total_perm (shownEvents_perm db query start anchor),
    Ledger.total_filter]
  congr 1
  refine Ledger.total_congr fun event _ => ?_
  cases covered : cut event with
  | false => rfl
  | true =>
    rw [ForecastRow.not_datedBefore]
    simp [ForecastRow.inWindow, inside event covered]

end Window

/-- Among ordered events, those up to one of them are it and the ones before it. -/
theorem Ordered.total_upTo {before after : List ForecastRow} {event : ForecastRow}
    (ordered : Ordered (before ++ event :: after)) :
    Ledger.total ForecastRow.signed (before ++ event :: after) (ForecastRow.upTo event.key) =
      ((before ++ [event]).map ForecastRow.signed).sum := by
  obtain ⟨-, ordered, earlier⟩ := List.pairwise_append.mp ordered
  obtain ⟨later, -⟩ := List.pairwise_cons.mp ordered
  have all : before.filter (ForecastRow.upTo event.key) = before :=
    List.filter_eq_self.mpr fun other member => by
      simpa [ForecastRow.upTo] using (earlier other member event (by simp)).le
  have none_ : after.filter (ForecastRow.upTo event.key) = [] :=
    List.filter_eq_nil_iff.mpr fun other member => by
      simpa [ForecastRow.upTo] using later other member
  simp [Ledger.total, all, none_, ForecastRow.upTo]

/-- The sum of the first rows is the sum of the signed amounts of their events. -/
theorem withBalance_amounts (today : IsoDate) (entries : List (ForecastRow × ℚ)) :
    (entries.map fun entry => (entry.1.withBalance today entry.2).amount).sum =
      ((entries.map Prod.fst).map ForecastRow.signed).sum := by
  rw [List.map_map]
  rfl

/-- The answer to a query whose starting point is known. -/
def forecastResponse (db : Finance) (query : ForecastQuery) (start : ℚ) (anchor : IsoDate)
    (cashSource : CashSourceView) : ForecastResponse where
  startingBalance := start
  balanceAsOfDate := anchor
  cashSource
  openingBalance := contributed db query start anchor (ForecastRow.datedBefore query.from_)
  rows := (shownEvents db query start anchor).map fun entry =>
    entry.1.withBalance query.today entry.2
  endingBalance := contributed db query start anchor (ForecastRow.dated query.through)

/-- A forecast that finds its account answers with the balances of the contributed events. -/
theorem computeForecast_ok {db : Finance} {query : ForecastQuery} {id : ℕ} {account : Account}
    {start : ℚ} {anchor : IsoDate} (primary : primaryAccountWithBalance db = some (id, account))
    (balance : account.balance = some start) (asOf : account.balanceAsOfDate = some anchor)
    (ordered : query.from_ ≤ query.through) : ∃ cashSource, computeForecast db query =
      .ok (some (forecastResponse db query start anchor cashSource)) := by
  obtain ⟨cashSource, source⟩ := getCashSource_found primary balance asOf
  refine ⟨cashSource, ?_⟩
  unfold forecastResponse
  rw [← balanceBefore_contributed db query start anchor ordered,
    ← balanceAt_contributed db query start anchor ordered]
  simp [computeForecast, ensure, required, ordered, primary, balance, asOf, source, loadedEvents,
    shownEvents]

/-- The answer satisfies everything a forecast says. -/
theorem forecastResponse_forecastOf (db : Finance) {query : ForecastQuery} (start : ℚ)
    (anchor : IsoDate) (cashSource : CashSourceView) (windowOrdered : query.from_ ≤ query.through) :
    ForecastOf (effectiveEvents db query.streamId query.viewId) start anchor query
      (forecastResponse db query start anchor cashSource) where
  known := ⟨rfl, rfl⟩
  shown := by
    intro row
    have same : ∀ event, (∃ entry ∈ shownEvents db query start anchor, entry.1 = event) ↔
        event ∈ effectiveEvents db query.streamId query.viewId ∧
          event.inWindow query.from_ query.through = true := by
      intro event
      rw [← List.mem_filter, ← (shownEvents_perm db query start anchor).mem_iff, List.mem_map]
    simp only [forecastResponse, List.map_map, List.mem_map]
    constructor
    · rintro ⟨entry, member, rfl⟩
      obtain ⟨contributes, inside⟩ := (same entry.1).mp ⟨entry, member, rfl⟩
      exact ⟨entry.1, contributes, inside, rfl⟩
    · rintro ⟨event, contributes, inside, rfl⟩
      obtain ⟨entry, member, rfl⟩ := (same event).mpr ⟨contributes, inside⟩
      exact ⟨entry, member, rfl⟩
  ordered := by
    have ordered := List.pairwise_map.mp (shownEvents_ordered db query start anchor)
    exact List.pairwise_map.mpr ordered
  beyond := by
    intro row member beyond
    obtain ⟨entry, shown, rfl⟩ := List.mem_map.mp member
    have value : entry.2 = _ := shownEvents_contributed db query start anchor shown
    rw [contributed, Ledger.balance_beyond fun other _ dated => ?_] at value
    · refine value.trans (congrArg (start + ·) (Ledger.total_congr fun event _ => ?_))
      rw [ForecastRow.not_dated, Bool.and_comm]
      rfl
    · have before : other.date < entry.1.date := (of_decide_eq_true dated).trans_lt beyond
      exact decide_eq_true (ForecastRow.key_lt_of_date before).le
  within := by
    intro row member within
    obtain ⟨entry, shown, rfl⟩ := List.mem_map.mp member
    have value : entry.2 = _ := shownEvents_contributed db query start anchor shown
    rw [contributed, Ledger.balance_within fun other _ upTo => ?_] at value
    · refine value.trans (congrArg (start - ·) (Ledger.total_congr fun event _ => ?_))
      rw [Bool.and_comm, ForecastRow.upTo, ← decide_not, decide_eq_decide.mpr not_le]
      rfl
    · have before : other.date ≤ entry.1.date :=
        ForecastRow.date_le_of_key (of_decide_eq_true upTo)
      exact decide_eq_true (before.trans within)
  running := by
    intro before row after rows
    -- The rows split where their events do.
    obtain ⟨earlier, rest, split, rfl, tail⟩ := List.map_eq_append_iff.mp rows
    obtain ⟨entry, later, rfl, rfl, -⟩ := List.map_eq_cons_iff.mp tail
    have ordered := shownEvents_ordered db query start anchor
    have shown : (entry.1, entry.2) ∈ shownEvents db query start anchor := by simp [split]
    have inside := (List.mem_filter.mp shown).2
    simp only [ForecastRow.inWindow, Bool.and_eq_true, decide_eq_true_eq] at inside
    -- An event before the window has an earlier place than the row, which lies in the window.
    have covers : ∀ other : ForecastRow, other.date < query.from_ →
        other.upTo entry.1.key = true := fun other before =>
      decide_eq_true (ForecastRow.key_lt_of_date (before.trans_le inside.1)).le
    have upTo : ∀ other : ForecastRow, other.upTo entry.1.key = true →
        other.date ≤ query.through := fun other place =>
      (ForecastRow.date_le_of_key (of_decide_eq_true place)).trans inside.2
    have value := shownEvents_contributed db query start anchor shown
    rw [contributed_shown db query start anchor covers upTo, split, List.map_append,
      List.map_cons] at value
    rw [split, List.map_append, List.map_cons] at ordered
    rw [ordered.total_upTo] at value
    refine value.trans (congrArg (contributed db query start anchor _ + ·) ?_)
    simp only [List.map_append, List.sum_append, List.map_cons, List.map_nil]
    rw [← withBalance_amounts query.today, List.map_map]
    rfl
  ending := by
    have covers : ∀ event : ForecastRow, event.date < query.from_ →
        event.dated query.through = true := fun event before =>
      decide_eq_true (before.le.trans windowOrdered)
    have inside : ∀ event : ForecastRow, event.dated query.through = true →
        event.date ≤ query.through := fun event => of_decide_eq_true
    refine (contributed_shown db query start anchor covers inside).trans
      (congrArg (contributed db query start anchor _ + ·) ?_)
    -- Every shown event lies up to the end of the window.
    have all : ∀ event ∈ (shownEvents db query start anchor).map Prod.fst,
        event.dated query.through = true := by
      rw [shownEvents_events]
      intro event member
      have window := (List.mem_filter.mp member).2
      simp only [ForecastRow.inWindow, Bool.and_eq_true] at window
      exact window.2
    rw [Ledger.total, List.filter_eq_self.mpr all, ← withBalance_amounts query.today]
    simp only [forecastResponse, List.map_map]
    rfl

/-- A shown event is one of the contributed ones. -/
theorem shownEvents_contributes {db : Finance} {query : ForecastQuery} {start : ℚ}
    {anchor : IsoDate} {entry : ForecastRow × ℚ}
    (shown : entry ∈ shownEvents db query start anchor) :
    entry.1 ∈ effectiveEvents db query.streamId query.viewId :=
  (List.mem_filter.mp ((shownEvents_perm db query start anchor).mem_iff.mp
    (List.mem_map_of_mem (f := Prod.fst) shown))).1

/-- The day after a window ends is where the next one opens. -/
theorem dated_eq_datedBefore {through next : IsoDate} (following : through.addDays 1 = .ok next) :
    ForecastRow.dated through = ForecastRow.datedBefore next := by
  rw [IsoDate.addDays_eq_ok] at following
  funext event
  rw [ForecastRow.dated, ForecastRow.datedBefore, decide_eq_decide, IsoDate.le_def, IsoDate.lt_def,
    following, Int.lt_add_one_iff]

/-- A stream with nothing but a name and a direction. -/
def plainStream (name : String) (direction : Direction) : Stream where
  name := name
  streamType := "manual_income"
  kind := "manual"
  direction := direction
  amountCertainty := .known
  description := none
  defaultAccountId := none
  configuration := none
  parentId := none
  isActive := true
  updatedAt := ""

/-- A confirmed event with nothing but an amount and a date. -/
def plainEvent (streamId : ℕ) (amount : ℚ) (expectedDate : IsoDate) : StreamEvent where
  streamId := streamId
  accountId := none
  label := none
  expectedDate := expectedDate
  amount := amount
  overrideLabel := none
  hasLabelOverride := false
  overrideDate := none
  overrideAmount := none
  overrideAccountId := none
  hasAccountOverride := false
  actualDate := none
  actualAmount := none
  status := .confirmed
  exclusionReason := none
  sourceId := none
  sourceType := some .manual
  metadata := none
  notes := none
  updatedAt := ""

/-- A primary account that holds one thousand on 14 July 2026. -/
def knownAccount : Account where
  name := "Primary Cash"
  kind := "cash"
  balance := some 1000
  balanceAsOfDate := some ⟨740176, by decide⟩
  sourceType := some "manual"
  sourceRef := none
  metadata := none
  balanceUpdatedAt := none
  isPrimary := true
  isActive := true
  notes := none
  updatedAt := ""

/-- Fifty spent the day before, a hundred received the day after, a hundred spent the next day. -/
def rentAndSalary : Finance where
  accounts := Table.empty.insert knownAccount
  streams := (Table.empty.insert (plainStream "Salary" .in_)).insert (plainStream "Rent" .out)
  schedules := .empty
  events := ((Table.empty.insert (plainEvent 2 50 ⟨740175, by decide⟩)).insert
    (plainEvent 1 100 ⟨740177, by decide⟩)).insert (plainEvent 2 100 ⟨740178, by decide⟩)
  views := .empty
  viewStreams := ∅

/-- The four days around the known one, 13 to 16 July 2026. -/
def fourDays : ForecastQuery where
  from_ := ⟨740175, by decide⟩
  through := ⟨740178, by decide⟩
  today := ⟨740176, by decide⟩
  streamId := none
  viewId := none

/-- Forecast balances are consistent within a window and from one window to the next. -/
theorem forecast_consistent {db : Finance} {query : ForecastQuery} {id : ℕ} {account : Account}
    (primary : primaryAccountWithBalance db = some (id, account))
    (ordered : query.from_ ≤ query.through) :
    ∃ start anchor response, account.balance = some start ∧
      account.balanceAsOfDate = some anchor ∧
      computeForecast db query = .ok (some response) ∧
      ForecastOf (effectiveEvents db query.streamId query.viewId) start anchor query response ∧
      ∀ other : ForecastQuery, other.from_ ≤ other.through →
        other.streamId = query.streamId → other.viewId = query.viewId →
        ∃ answer, computeForecast db other = .ok (some answer) ∧
          -- A row has the same balance in every window.
          (∀ row ∈ response.rows, ∀ same ∈ answer.rows, row.eventId = same.eventId →
            row.runningBalance = same.runningBalance) ∧
          -- The window of the following days opens where this one ends.
          (query.through.addDays 1 = .ok other.from_ →
            response.endingBalance = answer.openingBalance) := by
  obtain ⟨start, anchor, balance, asOf⟩ := primaryAccountWithBalance_known primary
  obtain ⟨source, computed⟩ := computeForecast_ok primary balance asOf ordered
  refine ⟨start, anchor, _, balance, asOf, computed,
    forecastResponse_forecastOf db start anchor source ordered, ?_⟩
  intro other otherOrdered sameStream sameView
  obtain ⟨otherSource, otherComputed⟩ := computeForecast_ok primary balance asOf otherOrdered
  have sameBalance : contributed db other start anchor = contributed db query start anchor := by
    unfold contributed
    rw [sameStream, sameView]
  refine ⟨_, otherComputed, ?_, ?_⟩
  · intro row member same otherMember sameId
    obtain ⟨entry, shown, rfl⟩ := List.mem_map.mp member
    obtain ⟨otherEntry, otherShown, rfl⟩ := List.mem_map.mp otherMember
    have contributes := shownEvents_contributes otherShown
    rw [sameStream, sameView] at contributes
    -- An id belongs to one contributed event.
    have sameEvent : entry.1 = otherEntry.1 :=
      List.inj_on_of_nodup_map
        (List.pairwise_map.mpr (effectiveEvents_distinct db query.streamId query.viewId))
        (shownEvents_contributes shown) contributes sameId
    exact calc entry.2
      _ = contributed db query start anchor (ForecastRow.upTo entry.1.key) :=
        shownEvents_contributed db query start anchor shown
      _ = contributed db other start anchor (ForecastRow.upTo otherEntry.1.key) := by
        rw [sameBalance, sameEvent]
      _ = otherEntry.2 := (shownEvents_contributed db other start anchor otherShown).symm
  · intro following
    simp only [forecastResponse, sameBalance, dated_eq_datedBefore following]

/-- Around the known day, the passes meet at its balance. -/
theorem forecast_consistent_straddling :
    (∃ start anchor response, knownAccount.balance = some start ∧
      knownAccount.balanceAsOfDate = some anchor ∧
      computeForecast rentAndSalary fourDays = .ok (some response) ∧
      ForecastOf (effectiveEvents rentAndSalary none none) start anchor fourDays response) ∧
    ((computeForecast rentAndSalary fourDays).toOption.join.map fun response =>
      (response.openingBalance, response.rows.map (·.runningBalance), response.endingBalance)) =
        some (1050, [1000, 1100, 1000], 1000) := by
  refine ⟨?_, by decide +kernel⟩
  have primary : primaryAccountWithBalance rentAndSalary = some (1, knownAccount) := by
    decide +kernel
  have ordered : fourDays.from_ ≤ fourDays.through := by decide +kernel
  obtain ⟨start, anchor, response, balance, asOf, computed, consistent, -⟩ :=
    forecast_consistent primary ordered
  exact ⟨start, anchor, response, balance, asOf, computed, consistent⟩

end FinStream
