import FinStream.Domain.PaymentProjection
import FinStream.Integrations.Pagination
import Mathlib.Data.List.Dedup

/-! Which captured loans have a detail of their own after a sync. -/

namespace FinStream

open Store

/-- Whether the stored row of a loan holds a detail from the capture that is the loan's. -/
def TmoSyncCapture.hasDetail (capture : TmoSyncCapture) (db : Integrations)
    (loan : TmoLoanSummary) : Bool :=
  db.loans.rows.any fun entry => entry.2.connectionId == capture.connectionId &&
    entry.2.loanAccount == loan.loanAccount &&
    entry.2.detailImportedAt == some capture.capturedAt &&
    entry.2.rawDetailPayload.any fun detail =>
      capture.loanDetails.contains detail && detail.loanAccount == loan.loanAccount

/-- The loan account each captured detail names. -/
def TmoSyncCapture.detailAccounts (capture : TmoSyncCapture) : List String :=
  capture.loanDetails.map (·.loanAccount)

/-- Exactly the failed details are lacking, and every other loan has its own one. -/
structure TmoSyncCapture.CoversDetails (capture : TmoSyncCapture) (db : Integrations) : Prop where
  /-- As many captured loans lack a detail from the capture as details failed. -/
  lacking : (capture.loans.countP fun loan => !capture.hasDetail db loan : ℤ) =
    capture.loanDetailFailures
  /-- The row of any other loan holds the one detail that was captured for the loan. -/
  own : ∀ loan ∈ capture.loans, capture.hasDetail db loan = true → ∀ id row, (id, row) ∈ db.loans →
    row.connectionId = capture.connectionId → row.loanAccount = loan.loanAccount →
      ∃ detail, row.rawDetailPayload = some detail ∧
        row.detailImportedAt = some capture.capturedAt ∧
          ∀ other ∈ capture.loanDetails, other.loanAccount = loan.loanAccount ↔ other = detail

/-! ### Counting -/

/-- A list has as many distinct elements as elements exactly when no element repeats. -/
theorem length_dedup_eq_iff {α : Type} [DecidableEq α] {list : List α} :
    list.dedup.length = list.length ↔ list.Nodup := by
  rw [← List.dedup_eq_self]
  constructor
  · exact list.dedup_sublist.eq_of_length
  · exact fun same => congrArg List.length same

/-- Among distinct keys, as many are wanted as there are distinct wanted ones. -/
theorem countP_mem_eq {keys wanted : List String} (distinct : keys.Nodup)
    (known : ∀ key ∈ wanted, key ∈ keys) :
    keys.countP (fun key => wanted.contains key) = wanted.dedup.length := by
  rw [List.countP_eq_length_filter]
  refine List.Perm.length_eq ?_
  rw [List.perm_ext_iff_of_nodup (distinct.filter _) wanted.nodup_dedup]
  intro key
  rw [List.mem_filter, List.mem_dedup, List.contains_iff_mem]
  exact and_iff_right_of_imp (known key)

/-! ### What validation leaves -/

/-- Validated loans put their accounts before those seen already, and none repeats. -/
theorem validateLoans_accounts {loans : List TmoLoanSummary} {accounts all : List String}
    (valid : validateLoans loans accounts = .ok all) (fresh : accounts.Nodup) :
    all = (loans.map (·.loanAccount)).reverse ++ accounts ∧ all.Nodup := by
  induction loans generalizing accounts with
  | nil =>
    simp only [validateLoans, pure_eq_ok] at valid
    subst valid
    exact ⟨rfl, fresh⟩
  | cons loan rest ih =>
    simp only [validateLoans, bind_eq_ok, ensure_eq_ok, Bool.and_eq_true, Bool.not_eq_true'] at valid
    obtain ⟨_, ⟨-, unseen⟩, _, -, others⟩ := valid
    have new : loan.loanAccount ∉ accounts := by simpa using unseen
    obtain ⟨same, distinct⟩ := ih others (List.nodup_cons.mpr ⟨new, fresh⟩)
    exact ⟨by simpa using same, distinct⟩

/-- What a valid capture says about its loans and details. -/
structure TmoSyncCapture.CountedDetails (capture : TmoSyncCapture) : Prop where
  /-- Loans have accounts of their own. -/
  distinct : (capture.loans.map (·.loanAccount)).Nodup
  /-- Details belong to loans of the capture. -/
  known : ∀ account ∈ capture.detailAccounts, account ∈ capture.loans.map (·.loanAccount)
  /-- Each loan has a detail or a failure, as far as the counts go. -/
  counted : (capture.loanDetails.length : ℤ) + capture.loanDetailFailures = capture.loans.length

/-- Validation counts the details against the loans. -/
theorem validateCapture_counted {platform : Platform} {capture : TmoSyncCapture}
    (valid : validateCapture platform capture = .ok ⟨⟩) : capture.CountedDetails := by
  simp only [validateCapture, bind_eq_ok, ensure_eq_ok, Bool.and_eq_true, beq_iff_eq] at valid
  obtain ⟨_, -, _, -, _, -, _, -, accounts, loans, _, details, _, ⟨-, counted⟩, -⟩ := valid
  obtain ⟨rfl, distinct⟩ := validateLoans_accounts loans List.nodup_nil
  rw [List.append_nil] at details distinct
  refine ⟨List.nodup_reverse.mp distinct, fun account member => ?_, counted⟩
  obtain ⟨detail, captured, rfl⟩ := List.mem_map.mp member
  have checked := forM_eq_ok details detail captured
  simp only [validateLoanDetail, bind_eq_ok, ensure_eq_ok] at checked
  obtain ⟨_, known, -⟩ := checked
  simpa using known

/-! ### What the sync stores -/

/-- Storing a detail updates the rows of the loan it names, of which there is one. -/
theorem syncLoanDetail_eq_ok {capture : TmoSyncCapture} {detail : TmoLoanDetail}
    {db after : Integrations} (done : syncLoanDetail capture detail db = .ok after) :
    (∃ id row, (id, row) ∈ db.loans ∧ row.connectionId = capture.connectionId ∧
        row.loanAccount = detail.loanAccount) ∧
      ∃ change : TmoImportLoan → TmoImportLoan,
        after.loans = db.loans.updateWhere (fun _ row =>
          row.connectionId == capture.connectionId && row.loanAccount == detail.loanAccount)
          change ∧
        ∀ row, (change row).connectionId = row.connectionId ∧
          (change row).loanAccount = row.loanAccount ∧
          (change row).rawDetailPayload = some detail ∧
          (change row).detailImportedAt = some capture.capturedAt := by
  simp only [syncLoanDetail, bind_eq_ok, ensure_eq_ok, pure_eq_ok, Table.find?_isSome,
    Bool.and_eq_true, beq_iff_eq] at done
  obtain ⟨_, -, _, -, _, -, _, present, _, -, _, -, rfl⟩ := done
  refine ⟨present, ?_⟩
  dsimp only
  refine ⟨_, rfl, fun row => ?_⟩
  exact ⟨rfl, rfl, rfl, rfl⟩

/-- Whether a row is that of a loan account of the connection. -/
def TmoSyncCapture.Names (capture : TmoSyncCapture) (account : String) (row : TmoImportLoan) :
    Prop := row.connectionId = capture.connectionId ∧ row.loanAccount = account

/-- What storing details does to the rows of one loan account. -/
structure StoresDetails (capture : TmoSyncCapture) (details : List TmoLoanDetail)
    (before after : Table TmoImportLoan) : Prop where
  /-- Every account with a detail has a row. -/
  present : ∀ detail ∈ details, ∃ id row, (id, row) ∈ after ∧ capture.Names detail.loanAccount row
  /-- The row of an account with a detail holds such a detail. -/
  stored : ∀ account ∈ details.map (·.loanAccount), ∀ id row, (id, row) ∈ after →
    capture.Names account row → ∃ detail ∈ details, detail.loanAccount = account ∧
      row.rawDetailPayload = some detail ∧ row.detailImportedAt = some capture.capturedAt
  /-- Rows of other accounts stay. -/
  others : ∀ id row, (id, row) ∈ after → (∀ account ∈ details.map (·.loanAccount),
    ¬capture.Names account row) → (id, row) ∈ before
  /-- Accounts keep their rows. -/
  kept : ∀ account, (∃ id row, (id, row) ∈ before ∧ capture.Names account row) →
    ∃ id row, (id, row) ∈ after ∧ capture.Names account row

/-- Storing the details in order leaves each account with the last one that names it. -/
theorem syncLoanDetails_stores {capture : TmoSyncCapture} (details : List TmoLoanDetail)
    {db after : Integrations} (done : syncLoanDetails capture details db = .ok after) :
    StoresDetails capture details db.loans after.loans := by
  -- The induction is on the details; the first one is overwritten if a later one names its account.
  induction details generalizing db with
  | nil =>
    simp only [syncLoanDetails, pure_eq_ok] at done
    subst done
    refine ⟨?_, ?_, fun _ _ stored _ => stored, fun _ present => present⟩
    · exact fun _ member => absurd member List.not_mem_nil
    · exact fun _ member => absurd member List.not_mem_nil
  | cons detail rest ih =>
    simp only [syncLoanDetails, bind_eq_ok] at done
    obtain ⟨middle, first, others⟩ := done
    obtain ⟨⟨id, row, old, connection, account⟩, change, updated, same⟩ :=
      syncLoanDetail_eq_ok first
    have tail := ih others
    have keeps : ∀ account, (∃ id row, (id, row) ∈ db.loans ∧ capture.Names account row) →
        ∃ id row, (id, row) ∈ middle.loans ∧ capture.Names account row := by
      rintro account ⟨id, row, old, connection, named⟩
      rw [updated]
      refine ⟨id, _, Table.mem_updateWhere.mpr ⟨row, old, rfl⟩, ?_⟩
      split
      · exact ⟨(same row).1.trans connection, (same row).2.1.trans named⟩
      · exact ⟨connection, named⟩
    refine ⟨fun other member => ?_, fun wanted member id row new named => ?_,
      fun id row new unnamed => ?_, fun account present => tail.kept account (keeps account present)⟩
    · rcases List.mem_cons.mp member with rfl | later
      · exact tail.kept _ (keeps _ ⟨id, row, old, connection, account⟩)
      · exact tail.present other later
    · by_cases again : wanted ∈ rest.map (·.loanAccount)
      · obtain ⟨last, later, found⟩ := tail.stored wanted again id row new named
        exact ⟨last, List.mem_cons_of_mem _ later, found⟩
      · -- No later detail names the account, so the row is the one the first detail left.
        have wrote := tail.others id row new fun account member other => again (by
          rw [← named.2, other.2]
          exact member)
        rw [List.map_cons, List.mem_cons, or_iff_left again] at member
        subst member
        rw [updated, Table.mem_updateWhere] at wrote
        obtain ⟨before, -, rfl⟩ := wrote
        by_cases here : (before.connectionId == capture.connectionId &&
            before.loanAccount == detail.loanAccount) = true
        · rw [if_pos here]
          exact ⟨detail, List.mem_cons_self, rfl, (same before).2.2⟩
        · rw [if_neg here] at named
          exact absurd (by simp [named.1, named.2]) here
    · have wrote := tail.others id row new fun account member =>
        unnamed account (List.mem_cons_of_mem _ member)
      have unnamed := unnamed detail.loanAccount List.mem_cons_self
      rw [updated, Table.mem_updateWhere] at wrote
      obtain ⟨before, stored, rfl⟩ := wrote
      by_cases here : (before.connectionId == capture.connectionId &&
          before.loanAccount == detail.loanAccount) = true
      · rw [if_pos here] at unnamed
        simp only [Bool.and_eq_true, beq_iff_eq] at here
        exact absurd ⟨(same before).1.trans here.1, (same before).2.1.trans here.2⟩ unnamed
      · rw [if_neg here]
        exact stored

/-- Storing payments leaves the loans alone. -/
theorem normalizePayments_loans {platform : Platform} {capture : TmoSyncCapture} {streamId : ℕ}
    (payments : List TmoPayment) {db after : Domain}
    (done : normalizePayments platform capture streamId payments db = .ok after) :
    after.integrations.loans = db.integrations.loans := by
  induction payments generalizing db with
  | nil =>
    simp only [normalizePayments, pure_eq_ok] at done
    rw [← done]
  | cons payment rest ih =>
    simp only [normalizePayments, bind_eq_ok] at done
    obtain ⟨middle, first, others⟩ := done
    obtain ⟨_, _, _, -, -, -, rfl⟩ := normalizePayment_eq_ok first
    have tail := ih others
    exact tail

/-- A sync counts its details and then stores them. -/
theorem applyTmoSync_details {platform : Platform} {capture : TmoSyncCapture} {before : Domain}
    {result : TmoSyncPersistence × Domain}
    (done : applyTmoSync platform capture before = .ok result) :
    capture.CountedDetails ∧
      ∃ staged, StoresDetails capture capture.loanDetails staged result.2.integrations.loans := by
  simp only [applyTmoSync, replacePaymentProjection, syncPortfolio, bind_eq_ok, pure_eq_ok] at done
  obtain ⟨_, valid, _, -, streamId, -, integrations, ⟨_, -, _, -, staged, -, details⟩, _,
    ⟨middle, walked, rfl⟩, rfl⟩ := done
  refine ⟨validateCapture_counted valid, staged.loans, ?_⟩
  -- The payments are replaced afterwards, which touches no loan.
  have loans := normalizePayments_loans _ walked
  have stores := syncLoanDetails_stores _ details
  rw [show integrations.loans = middle.integrations.loans from loans.symm] at stores
  exact stores

section Coverage

variable {platform : Platform} {capture : TmoSyncCapture} {before : Domain}
  {result : TmoSyncPersistence × Domain}

/-- After a sync a loan has a detail exactly when one was captured for it. -/
theorem hasDetail_iff (done : applyTmoSync platform capture before = .ok result)
    (loan : TmoLoanSummary) : capture.hasDetail result.2.integrations loan = true ↔
      loan.loanAccount ∈ capture.detailAccounts := by
  obtain ⟨-, staged, stores⟩ := applyTmoSync_details done
  simp only [TmoSyncCapture.hasDetail, List.any_eq_true, Bool.and_eq_true, beq_iff_eq, Prod.exists]
  constructor
  · rintro ⟨id, row, -, -, held⟩
    cases payload : row.rawDetailPayload with
    | none => simp [payload] at held
    | some detail =>
      simp only [payload, Option.any_some, Bool.and_eq_true, beq_iff_eq,
        List.contains_iff_mem] at held
      exact List.mem_map.mpr ⟨detail, held⟩
  · intro named
    obtain ⟨detail, captured, same⟩ := List.mem_map.mp named
    obtain ⟨id, row, stored, connection, account⟩ := stores.present detail captured
    rw [same] at account
    obtain ⟨last, member, lastNamed, payload, imported⟩ :=
      stores.stored _ named id row stored ⟨connection, account⟩
    exact ⟨id, row, stored, ⟨⟨connection, account⟩, imported⟩, by simp [payload, member, lastNamed]⟩

/-- A sync leaves a detail on as many loans as its details name accounts. -/
theorem countP_hasDetail (done : applyTmoSync platform capture before = .ok result) :
    capture.loans.countP (fun loan => capture.hasDetail result.2.integrations loan) =
      capture.detailAccounts.dedup.length := by
  obtain ⟨counts, -⟩ := applyTmoSync_details done
  rw [← countP_mem_eq counts.distinct counts.known, List.countP_map]
  refine List.countP_congr fun loan _ => ?_
  rw [hasDetail_iff done, Function.comp_apply, List.contains_iff_mem]

/-- A sync covers its loans exactly when no two captured details name one loan. -/
theorem coversDetails_iff (done : applyTmoSync platform capture before = .ok result) :
    capture.CoversDetails result.2.integrations ↔ capture.detailAccounts.Nodup := by
  obtain ⟨counts, staged, stores⟩ := applyTmoSync_details done
  have covered := countP_hasDetail done
  have total := List.length_eq_countP_add_countP
    (fun loan => capture.hasDetail result.2.integrations loan) (l := capture.loans)
  simp only [Bool.not_eq_true, Bool.decide_eq_false] at total
  have counted := counts.counted
  have length : capture.detailAccounts.length = capture.loanDetails.length := List.length_map _
  constructor
  · -- The failures are counted rightly only if as many accounts are named as details captured.
    intro covers
    have lacking := covers.lacking
    rw [← length_dedup_eq_iff]
    omega
  · intro distinct
    rw [distinct.dedup] at covered
    refine ⟨by omega, fun loan _ detailed id row stored connection account => ?_⟩
    obtain ⟨detail, captured, named, payload, imported⟩ :=
      stores.stored _ ((hasDetail_iff done loan).mp detailed) id row stored ⟨connection, account⟩
    refine ⟨detail, payload, imported, fun other member => ⟨fun same => ?_, ?_⟩⟩
    · exact List.inj_on_of_nodup_map distinct member captured (same.trans named.symm)
    · rintro rfl
      exact named

end Coverage

/-- A detail of the loan with the given account. -/
def detailOf (loanAccount : String) : TmoLoanDetail where
  loanAccount
  borrowerName := "Borrower"
  primaryStreet := "1 Main Street"
  primaryCity := "Salt Lake City"
  primaryState := "UT"
  primaryZip := "84101"
  propertyDescription := none
  propertyType := none
  propertyPriority := none
  occupancy := none
  ltv := none
  appraisedValue := none
  priority := none
  originalBalance := .finite 60000
  principalBalance := .finite 60000
  noteRate := .finite 10
  maturityDate := "2027-01-01T00:00:00"
  nextPaymentDate := "2026-02-01T00:00:00"
  interestPaidToDate := "2026-01-01T00:00:00"
  regularPayment := .finite 500
  paymentFrequency := "Monthly"
  loanType := 0

/-- A capture of two loans, with details of the given accounts. -/
def capturedDetails (accounts : List String) : TmoSyncCapture :=
  { onePayment with
    overview := { onePayment.overview with portfolioCount := 2 }
    loans := ["L-1", "L-2"].map loanOf
    loanDetails := accounts.map detailOf
    loanDetailFailures := 2 - accounts.length
    payments := [] }

/-- The tables before the first sync. -/
def trustDeedsDomain : Domain :=
  replay plainPlatform [.finance (.saveStream "2026-01-07T00:00:00Z" trustDeedsStream twoWeeks)]
    .registered

/-- One detail and one failure are counted rightly. -/
theorem coversDetails_one_failure :
    ∃ result, applyTmoSync plainPlatform (capturedDetails ["L-1"]) trustDeedsDomain = .ok result ∧
      (capturedDetails ["L-1"]).CoversDetails result.2.integrations := by
  have applies : (applyTmoSync plainPlatform (capturedDetails ["L-1"])
      trustDeedsDomain).toOption.isSome = true := by decide +kernel
  obtain ⟨result, done⟩ := Option.isSome_iff_exists.mp applies
  have done := toOption_eq_some.mp done
  exact ⟨result, done, (coversDetails_iff done).mpr (by decide)⟩

/-- A provider that answers every request for a detail with that of the first loan. -/
def firstLoanClient : TmoClient :=
  { TmoClient.withPortfolio (["L-1", "L-2"].map loanOf) with
    loanDetail _ := .ok (detailOf "L-1") }

/-- Two details of one loan pass for the details of two, and the other loan is left without. -/
theorem coversDetails_misses_second_loan :
    firstLoanClient.capture 1 "company" "account" "2026-01-07T00:00:00Z" "2026-01-07" =
        .ok (capturedDetails ["L-1", "L-1"]) ∧
      validateCapture plainPlatform (capturedDetails ["L-1", "L-1"]) = .ok ⟨⟩ ∧
      ∃ result, applyTmoSync plainPlatform (capturedDetails ["L-1", "L-1"]) trustDeedsDomain =
          .ok result ∧
        ¬(capturedDetails ["L-1", "L-1"]).CoversDetails result.2.integrations := by
  have captured : (firstLoanClient.capture 1 "company" "account" "2026-01-07T00:00:00Z"
      "2026-01-07").toOption = some (capturedDetails ["L-1", "L-1"]) := by decide +kernel
  have valid : (validateCapture plainPlatform (capturedDetails ["L-1", "L-1"])).toOption =
      some ⟨⟩ := by decide +kernel
  -- One loan lacks a detail, and no failure is counted.
  have counts : ((applyTmoSync plainPlatform (capturedDetails ["L-1", "L-1"])
      trustDeedsDomain).toOption.map fun result => (capturedDetails ["L-1", "L-1"]).loans.countP
        fun loan => !(capturedDetails ["L-1", "L-1"]).hasDetail result.2.integrations loan) =
      some 1 := by decide +kernel
  obtain ⟨result, done, lacking⟩ := Option.map_eq_some_iff.mp counts
  refine ⟨toOption_eq_some.mp captured, toOption_eq_some.mp valid, result,
    toOption_eq_some.mp done, fun covers => ?_⟩
  have counted := covers.lacking
  rw [lacking] at counted
  exact absurd counted (by decide)

end FinStream
