import FinStream.Integrations.TmoSync
import FinStream.Store.Repeat

/-! The loans a TMO sync leaves, and what storing the same loans once more does to them. -/

namespace FinStream

open Store

/-! ### Summaries -/

/-- Whether a stored loan is the connection's loan of an account. -/
def TmoSyncCapture.owns (capture : TmoSyncCapture) (account : String) (row : TmoImportLoan) :
    Bool := row.connectionId == capture.connectionId && row.loanAccount == account

/-- Whether a loan to be stored conflicts with a stored one. -/
def TmoSyncCapture.conflicts (capture : TmoSyncCapture) (fresh : TmoImportLoan) :
    TmoImportLoan → Bool := capture.owns fresh.loanAccount

/-- The rows that summaries are stored as. -/
structure SummaryRows (capture : TmoSyncCapture) (loans : List TmoLoanSummary)
    (rows : List TmoImportLoan) : Prop where
  /-- Each row has the account of its summary. -/
  accounts : rows.map (·.loanAccount) = loans.map (·.loanAccount)
  /-- The rows are active loans of the connection. -/
  active : ∀ row ∈ rows, row.connectionId = capture.connectionId ∧ row.isActive = true

/-- Summaries that were stored once are stored in any tables, and as the same rows. -/
theorem syncLoans_stores {capture : TmoSyncCapture} {streamId : ℕ} (loans : List TmoLoanSummary)
    {db after : Integrations} (done : syncLoans capture streamId loans db = .ok after) :
    ∃ rows, SummaryRows capture loans rows ∧ ∀ other : Integrations,
      syncLoans capture streamId loans other = .ok { other with
        loans := other.loans.upsertAll capture.conflicts TmoImportLoan.resummarized rows } := by
  -- A row is made of its summary alone, so the induction is on the summaries.
  induction loans generalizing db with
  | nil => exact ⟨[], ⟨rfl, by simp⟩, fun _ => rfl⟩
  | cons loan rest ih =>
    simp only [syncLoans, syncLoan, bind_eq_ok, pure_eq_ok] at done
    obtain ⟨middle, ⟨dates, dated, _, checked, -⟩, others⟩ := done
    obtain ⟨rows, ⟨accounts, active⟩, stores⟩ := ih others
    refine ⟨loan.row capture streamId dates :: rows, ⟨?_, ?_⟩, fun other => ?_⟩
    · rw [List.map_cons, List.map_cons, accounts]
      rfl
    · intro row member
      rcases List.mem_cons.mp member with rfl | member
      · exact ⟨rfl, rfl⟩
      · exact active row member
    · simp only [syncLoans, syncLoan, bind_eq_ok, pure_eq_ok]
      exact ⟨_, ⟨dates, dated, _, checked, rfl⟩, stores _⟩

/-! ### Details -/

/-- A captured detail with its dates as they are stored. -/
structure DatedDetail where
  detail : TmoLoanDetail
  maturityDate : String
  nextPaymentDate : String
  interestPaidTo : String

/-- What a detail makes of the row of its loan. -/
def DatedDetail.written (capture : TmoSyncCapture) (dated : DatedDetail) (row : TmoImportLoan) :
    TmoImportLoan :=
  { row with
    borrowerName := dated.detail.borrowerName
    propertyAddress := dated.detail.primaryStreet
    propertyCity := dated.detail.primaryCity
    propertyState := dated.detail.primaryState
    propertyZip := dated.detail.primaryZip
    propertyDescription := dated.detail.propertyDescription
    propertyType := dated.detail.propertyType
    propertyPriority := dated.detail.propertyPriority
    occupancy := dated.detail.occupancy
    ltv := dated.detail.ltv.map F64.value
    appraisedValue := dated.detail.appraisedValue.map F64.value
    priority := dated.detail.priority
    originalBalance := some dated.detail.originalBalance.value
    principalBalance := dated.detail.principalBalance.value
    noteRate := dated.detail.noteRate.value
    maturityDate := dated.maturityDate
    nextPaymentDate := dated.nextPaymentDate
    interestPaidTo := dated.interestPaidTo
    regularPayment := dated.detail.regularPayment.value
    paymentFrequency := dated.detail.paymentFrequency
    loanType := some dated.detail.loanType
    rawDetailPayload := some dated.detail
    detailImportedAt := some capture.capturedAt
    updatedAt := capture.capturedAt }

/-- What details, one after the other, make of a row. -/
def detailed (capture : TmoSyncCapture) (details : List DatedDetail) (row : TmoImportLoan) :
    TmoImportLoan :=
  details.foldl (fun row dated =>
    if capture.owns dated.detail.loanAccount row then dated.written capture row else row) row

/-- The account and the connection of a loan stay, and whether it is active. -/
theorem detailed_frame (capture : TmoSyncCapture) (details : List DatedDetail)
    (row : TmoImportLoan) :
    (detailed capture details row).connectionId = row.connectionId ∧
      (detailed capture details row).loanAccount = row.loanAccount ∧
      (detailed capture details row).isActive = row.isActive := by
  induction details generalizing row with
  | nil => exact ⟨rfl, rfl, rfl⟩
  | cons dated rest ih =>
    rw [detailed, List.foldl_cons]
    split
    · exact ih (dated.written capture row)
    · exact ih row

/-- A loan that details do not own by its old row they do not own by its new one. -/
theorem owns_detailed (capture : TmoSyncCapture) (details : List DatedDetail) (account : String)
    (row : TmoImportLoan) :
    capture.owns account (detailed capture details row) = capture.owns account row := by
  obtain ⟨connection, named, -⟩ := detailed_frame capture details row
  rw [TmoSyncCapture.owns, connection, named, TmoSyncCapture.owns]

/-- Rows of one loan are all left alone, or all take the values of the last detail of the loan. -/
theorem detailed_cases (capture : TmoSyncCapture) (details : List DatedDetail)
    (row : TmoImportLoan) :
    (∀ other : TmoImportLoan, other.connectionId = row.connectionId →
        other.loanAccount = row.loanAccount → detailed capture details other = other) ∨
      ∃ last : DatedDetail, ∀ other : TmoImportLoan, other.connectionId = row.connectionId →
        other.loanAccount = row.loanAccount →
        detailed capture details other = last.written capture other := by
  induction details with
  | nil => exact .inl fun _ _ _ => rfl
  | cons dated rest ih =>
    have first : ∀ other : TmoImportLoan, other.connectionId = row.connectionId →
        other.loanAccount = row.loanAccount →
        detailed capture (dated :: rest) other = detailed capture rest
          (if capture.owns dated.detail.loanAccount row then dated.written capture other
            else other) := by
      intro other connection account
      rw [detailed, List.foldl_cons, TmoSyncCapture.owns, connection, account]
      rfl
    by_cases named : capture.owns dated.detail.loanAccount row = true
    · simp only [if_pos named] at first
      -- A later detail writes every column that the first one writes.
      rcases ih with kept | ⟨last, writes⟩
      · exact .inr ⟨dated, fun other connection account =>
          (first other connection account).trans (kept _ connection account)⟩
      · exact .inr ⟨last, fun other connection account =>
          (first other connection account).trans (writes _ connection account)⟩
    · simp only [if_neg named] at first
      rcases ih with kept | ⟨last, writes⟩
      · exact .inl fun other connection account =>
          (first other connection account).trans (kept other connection account)
      · exact .inr ⟨last, fun other connection account =>
          (first other connection account).trans (writes other connection account)⟩

/-- Details that were stored once are stored in any tables that have their loans. -/
theorem syncLoanDetails_writes {capture : TmoSyncCapture} (captured : List TmoLoanDetail)
    {db after : Integrations} (done : syncLoanDetails capture captured db = .ok after) :
    ∃ details : List DatedDetail, ∀ other : Integrations,
      (∀ detail ∈ captured, ∃ id row, (id, row) ∈ other.loans ∧
        capture.owns detail.loanAccount row = true) →
      syncLoanDetails capture captured other = .ok { other with
        loans := other.loans.map (detailed capture details) } := by
  induction captured generalizing db with
  | nil =>
    refine ⟨[], fun other _ => ?_⟩
    have same : other.loans.map (detailed capture []) = other.loans :=
      Table.map_eq_self fun _ _ _ => rfl
    rw [same]
    rfl
  | cons detail rest ih =>
    simp only [syncLoanDetails, syncLoanDetail, bind_eq_ok, pure_eq_ok] at done
    obtain ⟨middle, ⟨maturity, maturityRead, next, nextRead, paidTo, paidToRead, _, -, _, checked,
      _, reals, -⟩, others⟩ := done
    obtain ⟨details, writes⟩ := ih others
    let dated : DatedDetail := ⟨detail, maturity, next, paidTo⟩
    refine ⟨dated :: details, fun other there => ?_⟩
    -- The first detail rewrites its loan in place, so the loans of the others are still there.
    have later : ∀ detail ∈ rest, ∃ id row, (id, row) ∈ other.loans.map (detailed capture [dated]) ∧
        capture.owns detail.loanAccount row = true := by
      intro detail member
      obtain ⟨id, row, stored, owned⟩ := there detail (List.mem_cons_of_mem _ member)
      exact ⟨id, _, Table.mem_map.mpr ⟨row, stored, rfl⟩,
        (owns_detailed capture [dated] _ row).trans owned⟩
    have tail := writes { other with loans := other.loans.map (detailed capture [dated]) } later
    rw [Table.map_map] at tail
    have present : (other.loans.find? fun _ row => row.connectionId == capture.connectionId &&
        row.loanAccount == detail.loanAccount).isSome = true :=
      Table.find?_isSome.mpr (there detail List.mem_cons_self)
    have first : syncLoanDetail capture detail other = .ok { other with
        loans := other.loans.map (detailed capture [dated]) } := by
      simp only [syncLoanDetail, bind_eq_ok, pure_eq_ok, ensure_eq_ok]
      exact ⟨maturity, maturityRead, next, nextRead, paidTo, paidToRead, ⟨⟩, present, _, checked,
        _, reals, rfl⟩
    exact bind_eq_ok.mpr ⟨_, first, tail⟩

/-! ### All loans of a capture -/

/-- What staging makes of the row of a loan. -/
def TmoSyncCapture.staged (capture : TmoSyncCapture) (row : TmoImportLoan) : TmoImportLoan :=
  if row.connectionId == capture.connectionId && row.isActive then
    { row with isActive := false, updatedAt := capture.capturedAt }
  else row

/-- The loans once those of the connection are staged and the captured ones summarised. -/
def summarised (capture : TmoSyncCapture) (rows : List TmoImportLoan)
    (loans : Table TmoImportLoan) : Table TmoImportLoan :=
  (loans.map capture.staged).upsertAll capture.conflicts TmoImportLoan.resummarized rows

/-- The loans once those of a capture are stored. -/
def storedLoans (capture : TmoSyncCapture) (rows : List TmoImportLoan) (details : List DatedDetail)
    (loans : Table TmoImportLoan) : Table TmoImportLoan :=
  (summarised capture rows loans).map (detailed capture details)

/-- Staging a loan keeps its account and its connection. -/
theorem owns_staged (capture : TmoSyncCapture) (account : String) (row : TmoImportLoan) :
    capture.owns account (capture.staged row) = capture.owns account row := by
  unfold TmoSyncCapture.staged
  split <;> rfl

/-- A staged loan of the connection is not active. -/
theorem staged_inactive (capture : TmoSyncCapture) (row : TmoImportLoan) :
    ¬((capture.staged row).connectionId = capture.connectionId ∧
      (capture.staged row).isActive = true) := by
  unfold TmoSyncCapture.staged
  split
  · simp
  · rename_i other
    simpa using other

/-- A loan that is not active on the connection is staged as it is. -/
theorem staged_eq_self {capture : TmoSyncCapture} {row : TmoImportLoan}
    (inactive : ¬(row.connectionId = capture.connectionId ∧ row.isActive = true)) :
    capture.staged row = row := by
  unfold TmoSyncCapture.staged
  rw [if_neg (by simpa using inactive)]

/-- Storing the details of a loan again changes nothing. -/
theorem detailed_detailed (capture : TmoSyncCapture) (details : List DatedDetail)
    (row : TmoImportLoan) :
    detailed capture details (detailed capture details row) = detailed capture details row := by
  obtain ⟨connection, account, -⟩ := detailed_frame capture details row
  rcases detailed_cases capture details row with kept | ⟨last, writes⟩
  · exact kept _ connection account
  · rw [writes _ connection account, writes row rfl rfl]
    rfl

/-- Staging a stored loan, and storing summary and details again, leads back to the loan. -/
theorem detailed_again {capture : TmoSyncCapture} {fresh row : TmoImportLoan}
    (settled : fresh.resummarized row = row) (details : List DatedDetail) :
    detailed capture details (fresh.resummarized (capture.staged (detailed capture details row))) =
      detailed capture details row := by
  -- A summary writes the two columns that staging writes.
  have restored : ∀ other : TmoImportLoan,
      fresh.resummarized (capture.staged other) = fresh.resummarized other := by
    intro other
    unfold TmoSyncCapture.staged
    split <;> rfl
  obtain ⟨connection, account, -⟩ := detailed_frame capture details row
  rw [restored]
  rcases detailed_cases capture details row with kept | ⟨last, writes⟩
  · rw [kept row rfl rfl, settled, kept row rfl rfl]
  · rw [writes (fresh.resummarized _) connection account, writes row rfl rfl]
    -- What the summary changes of the detailed row it changes of the row, which it leaves alone.
    have same : last.written capture (fresh.resummarized (last.written capture row)) =
        last.written capture (fresh.resummarized row) := rfl
    rw [same, settled]

/-- Staging leaves the loan of an account where it is, with its details. -/
theorem staged_found {capture : TmoSyncCapture} {rows : List TmoImportLoan}
    {table : Table TmoImportLoan} (details : List DatedDetail) {row : TmoImportLoan} {id : ℕ}
    {stored : TmoImportLoan}
    (located : (summarised capture rows table).find? (fun _ => capture.conflicts row) =
      some (id, stored)) :
    ((storedLoans capture rows details table).map capture.staged).find?
      (fun _ => capture.conflicts row) =
        some (id, capture.staged (detailed capture details stored)) := by
  rw [storedLoans, Table.map_map, Table.find?_map _ fun _ row => ?_, located]
  · rfl
  · exact (owns_staged capture _ _).trans (owns_detailed capture details _ _)

namespace SummaryRows

variable {capture : TmoSyncCapture} {loans : List TmoLoanSummary} {rows : List TmoImportLoan}

/-- Summaries of different accounts are stored independently of each other. -/
theorem independent (summary : SummaryRows capture loans rows)
    (distinct : (loans.map (·.loanAccount)).Nodup) :
    Table.Independent capture.conflicts TmoImportLoan.resummarized rows where
  new row member := by
    obtain ⟨connection, -⟩ := summary.active row member
    simp [TmoSyncCapture.conflicts, TmoSyncCapture.owns, connection]
  kept _ _ _ _ := rfl
  apart := by
    rw [← summary.accounts] at distinct
    refine (List.pairwise_map.mp distinct).imp fun different old conflict => ?_
    simp only [TmoSyncCapture.conflicts, TmoSyncCapture.owns, Bool.and_eq_true, beq_iff_eq]
      at conflict
    simp [TmoSyncCapture.conflicts, TmoSyncCapture.owns, conflict.1, conflict.2, different]

variable (summary : SummaryRows capture loans rows) (distinct : (loans.map (·.loanAccount)).Nodup)
  (table : Table TmoImportLoan)

include summary distinct

/-- Each captured loan has an active row, which storing the summary again leaves alone. -/
theorem settled {row : TmoImportLoan} (member : row ∈ rows) :
    ∃ id stored, (summarised capture rows table).find? (fun _ => capture.conflicts row) =
      some (id, stored) ∧ row.resummarized stored = stored ∧ stored.isActive = true := by
  have each := Table.upsertedEach (summary.independent distinct) (table.map capture.staged)
  obtain ⟨id, stored, found, origin⟩ := each.found row member
  refine ⟨id, stored, found, ?_⟩
  rcases origin with ⟨old, -, rfl⟩ | ⟨-, rfl⟩
  · -- The stream a row has had first stays, however often the summary is stored.
    refine ⟨?_, rfl⟩
    simp only [TmoImportLoan.resummarized, Option.or_assoc, Option.or_self]
  · have active := (summary.active stored member).2
    refine ⟨?_, active⟩
    simp only [TmoImportLoan.resummarized, Option.or_self, ← active]

/-- A loan that is active after the summaries is that of one of them. -/
theorem active_found {id : ℕ} {stored : TmoImportLoan}
    (there : (id, stored) ∈ summarised capture rows table)
    (active : stored.connectionId = capture.connectionId ∧ stored.isActive = true) :
    ∃ row ∈ rows, (summarised capture rows table).find? (fun _ => capture.conflicts row) =
      some (id, stored) := by
  have each := Table.upsertedEach (summary.independent distinct) (table.map capture.staged)
  refine (each.origin id stored there).resolve_left fun old => ?_
  obtain ⟨row, -, rfl⟩ := Table.mem_map.mp old
  exact staged_inactive capture row active

/-- The active loans of the connection are exactly the captured ones. -/
theorem active_perm (details : List DatedDetail) :
    ((storedLoans capture rows details table).select
      (fun row => row.connectionId == capture.connectionId && row.isActive) (·.loanAccount)).Perm
      (loans.map (·.loanAccount)) := by
  -- An active row is found for the captured loan of its account.
  have located : ∀ id row, (id, row) ∈ storedLoans capture rows details table →
      (row.connectionId == capture.connectionId && row.isActive) = true →
      ∃ fresh ∈ rows, fresh.loanAccount = row.loanAccount ∧ ∃ stored,
        (summarised capture rows table).find? (fun _ => capture.conflicts fresh) =
          some (id, stored) := by
    intro id row there active
    obtain ⟨stored, summed, rfl⟩ := Table.mem_map.mp there
    obtain ⟨connection, account, same⟩ := detailed_frame capture details stored
    rw [connection, same, Bool.and_eq_true, beq_iff_eq] at active
    obtain ⟨fresh, member, found⟩ := summary.active_found distinct table summed active
    have owned := (Table.find?_some found).2
    simp only [TmoSyncCapture.conflicts, TmoSyncCapture.owns, Bool.and_eq_true, beq_iff_eq]
      at owned
    exact ⟨fresh, member, (account.trans owned.2).symm, stored, found⟩
  refine Table.select_perm ?_ distinct fun account => ?_
  · intro left right leftRow rightRow leftThere rightThere leftActive rightActive same
    obtain ⟨one, -, oneNamed, _, oneFound⟩ := located left leftRow leftThere leftActive
    obtain ⟨other, -, otherNamed, _, otherFound⟩ := located right rightRow rightThere rightActive
    have alike : one.loanAccount = other.loanAccount := (oneNamed.trans same).trans otherNamed.symm
    rw [TmoSyncCapture.conflicts, alike] at oneFound
    exact congrArg Prod.fst (Option.some.inj (oneFound.symm.trans otherFound))
  · rw [← summary.accounts, List.mem_map]
    constructor
    · rintro ⟨id, row, there, active, rfl⟩
      obtain ⟨fresh, member, named, -⟩ := located id row there active
      exact ⟨fresh, member, named⟩
    · rintro ⟨fresh, member, rfl⟩
      obtain ⟨id, stored, found, -, active⟩ := summary.settled distinct table member
      obtain ⟨there, owned⟩ := Table.find?_some found
      simp only [TmoSyncCapture.conflicts, TmoSyncCapture.owns, Bool.and_eq_true, beq_iff_eq]
        at owned
      obtain ⟨connection, account, same⟩ := detailed_frame capture details stored
      refine ⟨id, _, Table.mem_map.mpr ⟨stored, there, rfl⟩, ?_, account.trans owned.2⟩
      rw [connection, same, owned.1, active, beq_self_eq_true, Bool.true_and]

/-- Storing the summaries again finds the loan of an account where it was. -/
theorem found_again (details : List DatedDetail) {row : TmoImportLoan} (member : row ∈ rows)
    {id : ℕ} {stored : TmoImportLoan}
    (located : (summarised capture rows table).find? (fun _ => capture.conflicts row) =
      some (id, stored)) :
    (summarised capture rows (storedLoans capture rows details table)).find?
      (fun _ => capture.conflicts row) =
        some (id, row.resummarized (capture.staged (detailed capture details stored))) := by
  have each := Table.upsertedEach (summary.independent distinct)
    ((storedLoans capture rows details table).map capture.staged)
  have found := staged_found details located
  obtain ⟨at_, merged, after, ⟨old, before, rfl⟩ | ⟨missing, -⟩⟩ := each.found row member
  · rw [found] at before
    cases before
    exact after
  · rw [found] at missing
    cases missing

/-- Storing the loans again adds none. -/
theorem ids_again (details : List DatedDetail) :
    (storedLoans capture rows details (storedLoans capture rows details table)).next =
        (storedLoans capture rows details table).next ∧
      (storedLoans capture rows details (storedLoans capture rows details table)).rows.map
          Prod.fst =
        (storedLoans capture rows details table).rows.map Prod.fst := by
  have each := Table.upsertedEach (summary.independent distinct)
    ((storedLoans capture rows details table).map capture.staged)
  -- Every summary finds a row, so that none is inserted.
  obtain ⟨next, ids⟩ := each.ids fun row member => by
    obtain ⟨id, stored, located, -⟩ := summary.settled distinct table member
    rw [staged_found details located]
    rfl
  refine ⟨next, ?_⟩
  rw [storedLoans, Table.map_ids, summarised, ids, Table.map_ids]

/-- A row that a summary finds is detailed into the row it was before. -/
theorem detailed_found (details : List DatedDetail) {fresh : TmoImportLoan} (member : fresh ∈ rows)
    {id : ℕ} {stored again : TmoImportLoan}
    (located : (summarised capture rows table).find? (fun _ => capture.conflicts fresh) =
      some (id, stored))
    (merged : (id, again) ∈ summarised capture rows (storedLoans capture rows details table)) :
    (id, detailed capture details again) ∈ storedLoans capture rows details table := by
  obtain ⟨_, _, settledAt, settled, -⟩ := summary.settled distinct table member
  rw [located] at settledAt
  cases settledAt
  have found := summary.found_again distinct table details member located
  rw [Table.unique merged (Table.find?_some found).1, detailed_again settled]
  exact Table.mem_map.mpr ⟨stored, (Table.find?_some located).1, rfl⟩

/-- Storing the loans of a capture again changes nothing. -/
theorem storedLoans_again (details : List DatedDetail) :
    storedLoans capture rows details (storedLoans capture rows details table) =
      storedLoans capture rows details table := by
  have each := Table.upsertedEach (summary.independent distinct)
    ((storedLoans capture rows details table).map capture.staged)
  obtain ⟨next, ids⟩ := summary.ids_again distinct table details
  refine Table.ext_of_ids next ids fun id row there => ?_
  obtain ⟨again, merged, rfl⟩ := Table.mem_map.mp there
  rcases each.origin id again merged with old | ⟨fresh, member, located⟩
  · rw [storedLoans, Table.map_map] at old
    obtain ⟨stored, summed, rfl⟩ := Table.mem_map.mp old
    by_cases active : stored.connectionId = capture.connectionId ∧ stored.isActive = true
    · obtain ⟨fresh, member, located⟩ := summary.active_found distinct table summed active
      exact summary.detailed_found distinct table details member located merged
    · -- A row that no summary finds is neither staged nor summarised.
      obtain ⟨connection, -, same⟩ := detailed_frame capture details stored
      rw [Function.comp_apply, staged_eq_self (by rwa [connection, same]), detailed_detailed]
      exact Table.mem_map.mpr ⟨stored, summed, rfl⟩
  · obtain ⟨at_, stored, was, -⟩ := summary.settled distinct table member
    have again := (summary.found_again distinct table details member was).symm.trans located
    obtain rfl := congrArg Prod.fst (Option.some.inj again)
    exact summary.detailed_found distinct table details member was merged

end SummaryRows

end FinStream
