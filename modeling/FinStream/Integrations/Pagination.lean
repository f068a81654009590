import FinStream.Integrations.Provider

/-! The portfolio loop request by request: it ends in time, and its rows are those of its pages. -/

namespace FinStream

open Store

/-- How a loop over pages ends: its page counter overflows, or it has a result. -/
inductive PagingEnd (α : Type) where
  | overflowed
  | ended (result : ProviderResult (List α))

/-- What the caller of the loop is given; an overflow of the counter is an invalid response. -/
def PagingEnd.result {α : Type} : PagingEnd α → ProviderResult (List α)
  | .overflowed => .error .invalidResponse
  | .ended result => result

section Loop

variable {α : Type} (fetch : ℤ → ProviderResult (TmoPaginatedResponse α))

/-- One turn of the loop: a page is requested and appended to the rows. -/
def fetchPage (page : ℤ) (rows : List α) (expectedTotal : Option ℤ) :
    ProviderResult (List α × Option ℤ × Bool) := do
  let response ← fetch page
  appendPaginatedPage rows expectedTotal response page

/--
The loop over the pages: the pages it requests, in order, and how it ends.

There is no outcome when the loop would make more requests than are allowed.
-/
def fetchPages : ℕ → ℤ → List α → Option ℤ → Option (List ℤ × PagingEnd α)
  | 0, _, _, _ => none
  | requests + 1, page, rows, expectedTotal =>
    match fetchPage fetch page rows expectedTotal with
    | .error error => some ([page], .ended (.error error))
    | .ok (rows, _, true) => some ([page], .ended (.ok rows))
    | .ok (rows, expectedTotal, false) =>
      -- The counter is a 32-bit integer, and its increment is checked.
      if page + 1 < 2 ^ 31 then
        (fetchPages requests (page + 1) rows expectedTotal).map fun (pages, last) =>
          (page :: pages, last)
      else some ([page], .overflowed)

/-- Consecutive pages, from the given one on. -/
def pagesFrom (page : ℤ) : ℕ → List ℤ
  | 0 => []
  | count + 1 => page :: pagesFrom (page + 1) count

variable {fetch}

/-- A page that is appended has rows that were missing, and the total of the pages before it. -/
theorem fetchPage_eq_ok {page : ℤ} {rows more : List α} {expectedTotal total : Option ℤ}
    {complete : Bool} (appended : fetchPage fetch page rows expectedTotal
      = .ok (more, total, complete)) :
    ∃ response, fetch page = .ok response ∧ more = rows ++ response.data ∧
      total = some response.totalCount ∧ (more.length : ℤ) ≤ response.totalCount ∧
      (expectedTotal.all (· == response.totalCount)) = true ∧
      (response.data = [] → response.totalCount ≤ rows.length) ∧
      (complete = true ↔ (more.length : ℤ) = response.totalCount) := by
  simp only [fetchPage, appendPaginatedPage, bind_eq_ok, ensure_eq_ok, pure_eq_ok, Prod.mk.injEq]
    at appended
  obtain ⟨response, fetched, _, -, _, checked, _, fits, rfl, rfl, rfl⟩ := appended
  simp only [Bool.and_eq_true, Bool.not_eq_true', Bool.and_eq_false_iff, List.isEmpty_eq_false_iff,
    decide_eq_false_iff_not, decide_eq_true_eq, not_lt] at checked fits
  obtain ⟨⟨-, same⟩, some_⟩ := checked
  refine ⟨response, fetched, rfl, rfl, fits, same, fun empty => ?_, by simp⟩
  exact some_.resolve_left fun filled => filled empty

/-- The rows that a loop returns are those of the pages it requested, and as many as announced. -/
structure RowsOf (fetch : ℤ → ProviderResult (TmoPaginatedResponse α)) (rows : List α)
    (pages : List ℤ) (result : ProviderResult (List α)) : Prop where
  /-- The rows fetched before, and then those of every page in order. -/
  rows : ∀ all, result = .ok all → ∃ responses,
    List.Forall₂ (fun page response => fetch page = .ok response) pages responses ∧
    all = rows ++ responses.flatMap (·.data) ∧
    ∀ response ∈ responses, response.totalCount = all.length

/-- A loop that fails returns no rows. -/
theorem RowsOf.error (rows : List α) (pages : List ℤ) (error : ProviderError) :
    RowsOf fetch rows pages (.error error) := ⟨nofun⟩

/-- A loop that ends with a page returns its rows. -/
theorem RowsOf.last {page : ℤ} {rows : List α} {response : TmoPaginatedResponse α}
    (fetched : fetch page = .ok response)
    (complete : ((rows ++ response.data).length : ℤ) = response.totalCount) :
    RowsOf fetch rows [page] (.ok (rows ++ response.data)) := by
  refine ⟨?_⟩
  rintro _ ⟨⟩
  exact ⟨[response], .cons fetched .nil, by simp, by simpa using complete.symm⟩

/-- A loop that goes on after a page returns the rows of that page before those of the others. -/
theorem RowsOf.cons {page : ℤ} {rows : List α} {pages : List ℤ}
    {response : TmoPaginatedResponse α} {result : ProviderResult (List α)}
    (fetched : fetch page = .ok response)
    (total : ∀ all, result = .ok all → response.totalCount = all.length)
    (others : RowsOf fetch (rows ++ response.data) pages result) :
    RowsOf fetch rows (page :: pages) result := by
  refine ⟨fun all done => ?_⟩
  obtain ⟨responses, paired, same, totals⟩ := others.rows all done
  refine ⟨response :: responses, .cons fetched paired, by simp [same], ?_⟩
  intro other member
  rcases List.mem_cons.mp member with rfl | later
  · exact total all done
  · exact totals other later

/-- A loop that lacks rows makes at most one request for each of them, and does not overflow. -/
theorem fetchPages_ends {total : ℤ} (typed : total < 2 ^ 31) (missing : ℕ) {page : ℤ}
    {rows : List α} (counted : page ≤ rows.length + 1) (short : (rows.length : ℤ) < total)
    (enough : total ≤ rows.length + missing) :
    ∃ pages result,
      (∀ requests, pages.length ≤ requests →
        fetchPages fetch requests page rows (some total) = some (pages, .ended result)) ∧
      pages = pagesFrom page pages.length ∧ (pages.length : ℤ) ≤ total - rows.length ∧
      (∀ all, result = .ok all → (all.length : ℤ) = total) ∧ RowsOf fetch rows pages result := by
  -- The induction is on the rows that are missing, which every page that is not the last lessens.
  induction missing generalizing page rows with
  | zero => omega
  | succ missing ih =>
    cases turn : fetchPage fetch page rows (some total) with
    | error error =>
      refine ⟨[page], .error error, fun requests enough => ?_, rfl, ?_, nofun, .error _ _ _⟩
      · obtain ⟨more, rfl⟩ := Nat.exists_eq_add_of_le' enough
        simp [fetchPages, turn]
      · simp only [List.length_singleton]
        omega
    | ok turned =>
      obtain ⟨more, expectedTotal, complete⟩ := turned
      obtain ⟨response, fetched, rfl, rfl, fits, same, progress, ends⟩ := fetchPage_eq_ok turn
      obtain rfl : total = response.totalCount := by simpa using same
      have grown : rows.length < (rows ++ response.data).length := by
        rw [List.length_append]
        refine Nat.lt_add_of_pos_right (List.length_pos_iff.mpr fun empty => ?_)
        have := progress empty
        omega
      cases complete with
      | true =>
        -- The page completes the rows.
        have full := ends.mp rfl
        refine ⟨[page], .ok (rows ++ response.data), fun requests enough => ?_, rfl, ?_, ?_,
          .last fetched full⟩
        · obtain ⟨more, rfl⟩ := Nat.exists_eq_add_of_le' enough
          simp [fetchPages, turn]
        · simp only [List.length_singleton]
          omega
        · rintro _ ⟨⟩
          exact full
      | false =>
        -- Rows are still missing, so the loop goes on with the next page.
        have partly : ((rows ++ response.data).length : ℤ) ≠ response.totalCount :=
          fun full => Bool.false_ne_true (ends.mpr full)
        have later : page + 1 ≤ ((rows ++ response.data).length : ℤ) + 1 := by omega
        have less : ((rows ++ response.data).length : ℤ) < response.totalCount := by omega
        obtain ⟨pages, result, run, consecutive, bounded, full, others⟩ :=
          ih later less (by omega)
        refine ⟨page :: pages, result, fun requests enough => ?_, ?_, ?_, full,
          .cons fetched (fun all done => (full all done).symm) others⟩
        · obtain ⟨more, rfl⟩ := Nat.exists_eq_add_of_le' enough
          have counter : page + 1 < 2 ^ 31 := by omega
          have later := run (more + pages.length) (by omega)
          rw [List.length_cons, ← Nat.add_assoc]
          simp only [fetchPages, turn, if_pos counter, later, Option.map_some]
        · rw [List.length_cons, pagesFrom, ← consecutive]
        · rw [List.length_cons]
          omega

end Loop

namespace TmoClient

/-- The portfolio loop, under a limit on its requests. -/
def portfolioLoop (client : TmoClient) (requests : ℕ) :
    Option (List ℤ × PagingEnd TmoLoanSummary) :=
  fetchPages (client.portfolioData · 100) requests 1 [] none

/-- The number of rows that the first page announces. -/
def announcedTotal (client : TmoClient) : ℤ :=
  match client.portfolioData 1 100 with
  | .ok response => response.totalCount
  | .error _ => 0

variable {client : TmoClient}

/-- A loop that ends within its limit ends as the portfolio is fetched. -/
theorem portfolioPages_eq {requests pagesLeft : ℕ} {page : ℤ} {loans : List TmoLoanSummary}
    {expectedTotal : Option ℤ} {pages : List ℤ} {last : PagingEnd TmoLoanSummary}
    (left : page + pagesLeft = 2 ^ 31) (counted : page < 2 ^ 31)
    (run : fetchPages (client.portfolioData · 100) requests page loans expectedTotal
      = some (pages, last)) :
    client.portfolioPages pagesLeft page loans expectedTotal = last.result := by
  -- Both loops take the same turns; one counts the pages that are left, the other the requests.
  induction requests generalizing pagesLeft page loans expectedTotal pages last with
  | zero => simp [fetchPages] at run
  | succ requests ih =>
    obtain ⟨pagesLeft, rfl⟩ := Nat.exists_eq_add_of_le' (show 1 ≤ pagesLeft by omega)
    have turned : client.portfolioPages (pagesLeft + 1) page loans expectedTotal =
        fetchPage (client.portfolioData · 100) page loans expectedTotal >>= fun turn =>
          if turn.2.2 then pure turn.1
          else client.portfolioPages pagesLeft (page + 1) turn.1 turn.2.1 := by
      simp only [portfolioPages, fetchPage]
      cases client.portfolioData page 100 <;> rfl
    rw [turned]
    unfold fetchPages at run
    split at run
    · rename_i error failed
      cases run
      rw [failed]
      rfl
    · rename_i rows _ complete
      cases run
      rw [complete]
      rfl
    · rename_i rows total goesOn
      rw [goesOn]
      split at run
      · -- The next turn is covered by the induction.
        rename_i counter
        obtain ⟨⟨others, later⟩, rest, same⟩ := Option.map_eq_some_iff.mp run
        cases same
        exact ih (by omega) counter rest
      · -- The last number of the counter is used up together with the pages that are left.
        cases run
        obtain rfl : pagesLeft = 0 := by omega
        rfl

/--
Fetching the portfolio requests consecutive pages from the first, at most one more than the first
page announces rows. The counter of the pages does not overflow, and what is returned is an error
or the rows of all requested pages in order, which are as many as each of the pages announces.
-/
theorem portfolio_paginated
    (typed : ∀ page response, client.portfolioData page 100 = .ok response →
      response.totalCount < 2 ^ 31) :
    ∃ pages result,
      (∀ requests, pages.length ≤ requests →
        client.portfolioLoop requests = some (pages, .ended result)) ∧
      client.getPortfolio = result ∧ pages = pagesFrom 1 pages.length ∧
      (pages.length : ℤ) ≤ max client.announcedTotal 0 + 1 ∧
      RowsOf (client.portfolioData · 100) [] pages result := by
  -- The first turn has no total to compare with; the turns after it have the first one's.
  obtain ⟨pages, result, run, consecutive, bounded, rows⟩ : ∃ pages result,
      (∀ requests, pages.length ≤ requests →
        client.portfolioLoop requests = some (pages, .ended result)) ∧
      pages = pagesFrom 1 pages.length ∧ (pages.length : ℤ) ≤ max client.announcedTotal 0 + 1 ∧
      RowsOf (client.portfolioData · 100) [] pages result := by
    cases turn : fetchPage (client.portfolioData · 100) 1 [] none with
    | error error =>
      refine ⟨[1], .error error, fun requests enough => ?_, rfl, ?_, .error _ _ _⟩
      · obtain ⟨more, rfl⟩ := Nat.exists_eq_add_of_le' enough
        simp [portfolioLoop, fetchPages, turn]
      · simp only [List.length_singleton]
        omega
    | ok turned =>
      obtain ⟨more, expectedTotal, complete⟩ := turned
      obtain ⟨response, fetched, rfl, rfl, fits, -, progress, ends⟩ := fetchPage_eq_ok turn
      rw [List.nil_append] at turn fits ends
      have announced : client.announcedTotal = response.totalCount := by
        simp only [announcedTotal, fetched]
      cases complete with
      | true =>
        refine ⟨[1], .ok response.data, fun requests enough => ?_, rfl, ?_,
          .last fetched (ends.mp rfl)⟩
        · obtain ⟨more, rfl⟩ := Nat.exists_eq_add_of_le' enough
          simp [portfolioLoop, fetchPages, turn]
        · simp only [List.length_singleton]
          omega
      | false =>
        -- A page that does not complete the rows has some of them.
        have partly : (response.data.length : ℤ) ≠ response.totalCount :=
          fun full => Bool.false_ne_true (ends.mpr full)
        have some_ : 0 < response.data.length := by
          refine List.length_pos_iff.mpr fun empty => ?_
          have := progress empty
          simp only [empty, List.length_nil] at this partly fits
          omega
        have later : (1 : ℤ) + 1 ≤ (response.data.length : ℤ) + 1 := by omega
        have less : (response.data.length : ℤ) < response.totalCount := by omega
        obtain ⟨pages, result, run, consecutive, bounded, full, others⟩ :=
          fetchPages_ends (typed 1 response fetched) response.totalCount.toNat later less (by omega)
        refine ⟨1 :: pages, result, fun requests enough => ?_, ?_, ?_,
          .cons fetched (fun all done => (full all done).symm) others⟩
        · obtain ⟨more, rfl⟩ := Nat.exists_eq_add_of_le' enough
          have counter : (1 : ℤ) + 1 < 2 ^ 31 := by norm_num
          have later := run (more + pages.length) (by omega)
          rw [List.length_cons, ← Nat.add_assoc]
          simp only [portfolioLoop, fetchPages, turn, if_pos counter, later, Option.map_some]
        · rw [List.length_cons, pagesFrom, ← consecutive]
        · rw [List.length_cons]
          omega
  refine ⟨pages, result, run, ?_, consecutive, bounded, rows⟩
  exact portfolioPages_eq (by norm_num) (by norm_num) (run _ le_rfl)

end TmoClient

/-- A loan of the portfolio, under the given account. -/
def loanOf (loanAccount : String) : TmoLoanSummary where
  loanAccount
  borrowerName := "Borrower"
  primaryStreet := "1 Main Street"
  primaryCity := "Salt Lake City"
  primaryState := "UT"
  primaryZip := "84101"
  percentOwned := .finite 100
  interestRate := .finite 10
  maturityDate := "2027-01-01T00:00:00"
  termLeft := 12
  nextPaymentDate := "2026-02-01T00:00:00"
  interestPaidToDate := "2026-01-01T00:00:00"
  billedThrough := none
  regularPayment := .finite 500
  loanBalance := .finite 60000
  isDelinquent := false

/-- A client whose provider serves the given portfolio, without details and payments. -/
def TmoClient.withPortfolio (loans : List TmoLoanSummary) : TmoClient where
  user := ⟨"1", "company", "account", "Lender", "lender@example.com"⟩
  getOverview :=
    .ok ⟨.finite 0, .finite 0, .finite 0, .finite 0, loans.length, .finite 0, .finite 0, .finite 0⟩
  portfolioData page rowsPerPage := .ok (pageOf loans page rowsPerPage)
  loanDetail _ := .error .missingData
  historyData page rowsPerPage := .ok (pageOf [] page rowsPerPage)

/-- A portfolio of two pages is fetched page by page. -/
theorem portfolio_paginated_two_pages :
    let client := TmoClient.withPortfolio (List.replicate 101 (loanOf "L-1"))
    ∃ pages result,
      (∀ requests, pages.length ≤ requests →
        client.portfolioLoop requests = some (pages, .ended result)) ∧
      client.getPortfolio = result ∧ pages = pagesFrom 1 pages.length ∧
      (pages.length : ℤ) ≤ max client.announcedTotal 0 + 1 ∧
      RowsOf (client.portfolioData · 100) [] pages result := by
  refine TmoClient.portfolio_paginated ?_
  rintro page response ⟨⟩
  norm_num [pageOf]

end FinStream
