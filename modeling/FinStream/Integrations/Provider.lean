import FinStream.Integrations.TmoSync

/-! The provider boundary: paginated listings, and the capture a sync takes from them. -/

namespace FinStream

open Store

/-- Errors of the provider boundary. -/
inductive ProviderError where
  | invalidConfiguration
  | timeout
  | transport
  | httpStatus (status : ℕ)
  | responseTooLarge (limitBytes : ℕ)
  | invalidResponse
  | authenticationRejected
  | requestRejected
  | missingData
  deriving DecidableEq

/-- A provider call: an error, or what the provider answered. -/
abbrev ProviderResult (α : Type) := Except ProviderError α

/-- One page of a listing. -/
structure TmoPaginatedResponse (α : Type) where
  page : ℤ
  rowsPerPage : ℤ
  totalCount : ℤ
  data : List α
  deriving DecidableEq

/-- An authenticated session, by what its requests return. -/
structure TmoClient where
  user : TmoUserInfo
  getOverview : ProviderResult TmoOverview
  /-- The portfolio listing, by page and rows per page. -/
  portfolioData (page rowsPerPage : ℤ) : ProviderResult (TmoPaginatedResponse TmoLoanSummary)
  loanDetail (loanAccount : String) : ProviderResult TmoLoanDetail
  /-- The history listing, by page and rows per page. -/
  historyData (page rowsPerPage : ℤ) : ProviderResult (TmoPaginatedResponse TmoPayment)

section Pagination

variable {α : Type}

/-- Appends a page to the rows fetched so far; the flag tells whether that completes them. -/
def appendPaginatedPage (rows : List α) (expectedTotal : Option ℤ)
    (response : TmoPaginatedResponse α) (requestedPage : ℤ) :
    ProviderResult (List α × Option ℤ × Bool) := do
  ensure (0 ≤ response.totalCount && 0 ≤ response.rowsPerPage) .invalidResponse
  ensure (response.page == requestedPage && response.rowsPerPage != 0 &&
      response.data.length ≤ response.rowsPerPage &&
      expectedTotal.all (· == response.totalCount) &&
      !(response.data.isEmpty && rows.length < response.totalCount))
    .invalidResponse
  let rows := rows ++ response.data
  ensure (rows.length ≤ response.totalCount) .invalidResponse
  pure (rows, some response.totalCount, rows.length == response.totalCount)

/-- The page of a listing that a request asks for, with the true number of rows. -/
def pageOf (rows : List α) (page rowsPerPage : ℤ) : TmoPaginatedResponse α where
  page
  rowsPerPage
  totalCount := rows.length
  data := (rows.drop ((page - 1) * rowsPerPage).toNat).take rowsPerPage.toNat

/-- Whether every request that a listing answers returns the requested page of the rows. -/
def Serves (listing : ℤ → ℤ → ProviderResult (TmoPaginatedResponse α)) (rows : List α) : Prop :=
  ∀ page rowsPerPage response, listing page rowsPerPage = .ok response →
    response = pageOf rows page rowsPerPage

end Pagination

namespace TmoClient

/-- Fetches the portfolio page after page; the pages are numbered by 32-bit integers. -/
def portfolioPages (client : TmoClient) :
    ℕ → ℤ → List TmoLoanSummary → Option ℤ → ProviderResult (List TmoLoanSummary)
  | 0, _, _, _ => .error .invalidResponse
  | pagesLeft + 1, page, loans, expectedTotal => do
    let response ← client.portfolioData page 100
    let (loans, expectedTotal, complete) ← appendPaginatedPage loans expectedTotal response page
    if complete then pure loans else portfolioPages client pagesLeft (page + 1) loans expectedTotal

/-- Fetches the whole portfolio. -/
def getPortfolio (client : TmoClient) : ProviderResult (List TmoLoanSummary) :=
  client.portfolioPages (2 ^ 31 - 1) 1 [] none

/-- Fetches the detail page of one loan. -/
def getLoanDetail (client : TmoClient) (loanAccount : String) : ProviderResult TmoLoanDetail :=
  if isBlank loanAccount then .error .invalidConfiguration else client.loanDetail loanAccount

/-- Fetches the payment history, of which it requests the first page. -/
def getHistory (client : TmoClient) : ProviderResult (List TmoPayment) := do
  let response ← client.historyData 1 1000
  pure response.data

/-- Fetches a loan detail for each loan and counts the failures. -/
def loanDetails (client : TmoClient) : List TmoLoanSummary → List TmoLoanDetail × ℤ
  | [] => ([], 0)
  | loan :: rest =>
    let (details, failures) := client.loanDetails rest
    match client.getLoanDetail loan.loanAccount with
    | .ok detail => (detail :: details, failures)
    | .error _ => (details, failures + 1)

/-- Takes a complete capture before any table is written. -/
def capture (client : TmoClient) (connectionId : ℕ) (companyId accountNumber capturedAt
    snapshotDate : String) : ProviderResult TmoSyncCapture := do
  let overview ← client.getOverview
  let loans ← client.getPortfolio
  let (loanDetails, loanDetailFailures) := client.loanDetails loans
  let payments ← client.getHistory
  pure {
    connectionId
    capturedAt
    snapshotDate
    companyId
    accountNumber
    user := client.user
    overview
    loans
    loanDetails
    loanDetailFailures
    payments }

variable {client : TmoClient}

/-- Each page of the portfolio extends the rows of the pages before it. -/
theorem portfolioPages_complete {rows : List TmoLoanSummary}
    (serves : Serves client.portfolioData rows) (pagesLeft page : ℕ) {expectedTotal : Option ℤ}
    {loans : List TmoLoanSummary}
    (fetched : client.portfolioPages pagesLeft (page + 1) (rows.take (page * 100)) expectedTotal
      = .ok loans) : loans = rows := by
  -- The induction is on the pages left; the rows fetched so far are a prefix of the listing.
  induction pagesLeft generalizing page expectedTotal with
  | zero => simp [portfolioPages] at fetched
  | succ pagesLeft ih =>
    simp only [portfolioPages, appendPaginatedPage, bind_eq_ok, ensure_eq_ok, pure_eq_ok] at fetched
    obtain ⟨response, answered, _, ⟨_, -, _, -, _, -, rfl⟩, fetched⟩ := fetched
    obtain rfl := serves _ _ _ answered
    have offset : (((page : ℤ) + 1 - 1) * 100).toNat = page * 100 := by omega
    have extended : rows.take (page * 100) ++ (pageOf rows (page + 1) 100).data =
        rows.take ((page + 1) * 100) := by
      simp only [pageOf, offset]
      rw [Nat.add_mul, List.take_add]
      rfl
    rw [extended] at fetched
    split at fetched
    · -- A prefix as long as the listing is the listing.
      rename_i complete
      simp only [pure_eq_ok] at fetched
      subst fetched
      simp only [pageOf, beq_iff_eq, Nat.cast_inj] at complete
      rw [List.length_take] at complete
      exact List.take_of_length_le (by omega)
    · rw [← Nat.cast_add_one] at fetched
      exact ih (page + 1) fetched

/-- The portfolio is fetched as a whole or not at all. -/
theorem getPortfolio_complete {rows loans : List TmoLoanSummary}
    (serves : Serves client.portfolioData rows) (fetched : client.getPortfolio = .ok loans) :
    loans = rows :=
  portfolioPages_complete serves (2 ^ 31 - 1) 0 (by simpa [getPortfolio] using fetched)

/-- The history fetched is the first thousand rows of the listing. -/
theorem getHistory_eq_ok {history payments : List TmoPayment}
    (serves : Serves client.historyData history) :
    client.getHistory = .ok payments ↔
      (∃ response, client.historyData 1 1000 = .ok response) ∧ payments = history.take 1000 := by
  simp only [getHistory, bind_eq_ok, pure_eq_ok]
  constructor
  · rintro ⟨response, answered, rfl⟩
    refine ⟨⟨response, answered⟩, ?_⟩
    rw [serves _ _ _ answered]
    rfl
  · rintro ⟨⟨response, answered⟩, rfl⟩
    refine ⟨response, answered, ?_⟩
    rw [serves _ _ _ answered]
    rfl

/-- A capture contains the history that was fetched. -/
theorem capture_payments {connectionId : ℕ}
    {companyId accountNumber capturedAt snapshotDate : String}
    {captured : TmoSyncCapture}
    (done : client.capture connectionId companyId accountNumber capturedAt snapshotDate
      = .ok captured) :
    client.getHistory = .ok captured.payments ∧ captured.connectionId = connectionId := by
  simp only [capture, bind_eq_ok, pure_eq_ok] at done
  obtain ⟨overview, -, loans, -, payments, fetched, rfl⟩ := done
  exact ⟨fetched, rfl⟩

end TmoClient

end FinStream
