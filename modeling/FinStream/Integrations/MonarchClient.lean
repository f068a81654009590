import FinStream.Integrations.Monarch
import FinStream.Integrations.Provider

/-! The Monarch client: an account's balance with the pending transactions it fetches. -/

namespace FinStream

open Store

/-- A transaction as the provider reports it. -/
structure Transaction where
  id : String
  amount : F64
  pending : Bool
  deriving DecidableEq

/-- Which transactions a query asks for. -/
structure TransactionFilter where
  accounts : List String
  isPending : Bool
  transactionVisibility : String
  deriving DecidableEq

/-- A client with a token, by what the provider answers to its two queries. -/
structure MonarchClient where
  /-- The account with an id, which the provider may not know. -/
  account (id : String) : ProviderResult (Option AccountBalance)
  /-- The transactions a filter selects, by offset and limit. -/
  allTransactions (filters : TransactionFilter) (offset limit : ℕ) :
    ProviderResult (List Transaction)

/-- The sum of the amounts in their order, with the given addition of floats. -/
def sumAmounts (add : F64 → F64 → F64) (start : F64) (transactions : List Transaction) : F64 :=
  transactions.foldl (fun total transaction => add total transaction.amount) start

/-- The filter for the pending transactions of an account. -/
def pendingFilter (accountId : String) : TransactionFilter where
  accounts := [accountId]
  isPending := true
  transactionVisibility := "non_hidden_transactions_only"

namespace MonarchClient

/-- Fetches an account. -/
def getAccountBalance (client : MonarchClient) (accountId : String) :
    ProviderResult AccountBalance := do
  ensure (!isBlank accountId) .invalidConfiguration
  let account ← client.account accountId
  required account .missingData

/-- Fetches the pending transactions of an account, of which it requests the first hundred. -/
def getPendingTransactions (client : MonarchClient) (accountId : String) :
    ProviderResult (List Transaction) := do
  ensure (!isBlank accountId) .invalidConfiguration
  let results ← client.allTransactions (pendingFilter accountId) 0 100
  pure (results.filter (·.pending))

/-- The account, its balance with the pending transactions, and their total. -/
def getAdjustedBalance (add : F64 → F64 → F64) (client : MonarchClient) (accountId : String) :
    ProviderResult (AccountBalance × F64 × F64) := do
  let balance ← client.getAccountBalance accountId
  let pending ← client.getPendingTransactions accountId
  let pendingTotal := sumAmounts add (.finite 0) pending
  let adjusted := add balance.currentBalance pendingTotal
  pure (balance, adjusted, pendingTotal)

/-- The capture a refresh takes of an account. -/
def capture (add : F64 → F64 → F64) (client : MonarchClient) (accountId : String) :
    ProviderResult MonarchBalanceCapture := do
  let (account, adjustedBalance, pendingTotal) ← client.getAdjustedBalance add accountId
  pure { account, adjustedBalance, pendingTotal }

/-- Whether every answer of the provider is the requested slice of the pending transactions. -/
def Serves (client : MonarchClient) (accountId : String) (transactions : List Transaction) : Prop :=
  ∀ offset limit results, client.allTransactions (pendingFilter accountId) offset limit
    = .ok results → results = (transactions.drop offset).take limit

end MonarchClient

namespace MonarchClient

variable {add : F64 → F64 → F64} {client : MonarchClient} {accountId : String}
  {transactions : List Transaction}

end MonarchClient

end FinStream
