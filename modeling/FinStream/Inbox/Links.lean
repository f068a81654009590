import FinStream.Inbox.Processing
import FinStream.Integrations.Pagination
import FinStream.Integrations.PaymentText
import FinStream.Media.Service
import FinStream.Store.History
import FinStream.Store.Repeat
import FinStream.Store.Unwinding

/-! Links of emails to loans: who makes them, how long they stay, and that no worker notices them. -/

namespace FinStream.Inbox

open Store Media

/-! ### The transactions -/

/-- Whether a status is one under which imported loans are shown. -/
def isUsableStatus (status : String) : Bool :=
  status == "active" || status == "degraded" || status == "error"

/-- Whether a connection is the one that loans are imported over. -/
def isTmoConnection (connection : IntegrationConnection) : Bool :=
  connection.slug == "tmo" && connection.provider == "mortgage_office" &&
    isUsableStatus connection.status

/-- Whether a loan account is one of an active imported loan. -/
def isImportedTmoLoan (loanAccount : String) (integrations : Integrations) : Bool :=
  integrations.loans.rows.any fun entry => entry.2.isActive && entry.2.loanAccount == loanAccount &&
    (integrations.connections.get? entry.2.connectionId).any isTmoConnection

/-- Refuses an id that is none. -/
def validateEmailId (emailId : ℤ) : InboxResult Unit :=
  ensure (0 < emailId) (.validation "email id must be a positive integer")

/-- Whether a row is an email with an id. -/
def hasId (emailId : ℤ) (id : ℕ) (_email : ReceivedEmail) : Bool := (id : ℤ) == emailId

/-- The email with an id. -/
def requiredEmail (emailId : ℤ) (db : Tables) : InboxResult (ℕ × ReceivedEmail) :=
  required (db.emails.find? (hasId emailId)) (.notFound s!"email {emailId}")

/-- An email that is linked to a loan, or to none. -/
def ReceivedEmail.linkedTo (loanAccount : Option String) (updatedAt : String)
    (email : ReceivedEmail) : ReceivedEmail :=
  { email with loanAccount, updatedAt }

/-- The tables with an email that is linked to a loan, or to none. -/
def Tables.withLink (emailId : ℤ) (loanAccount : Option String) (updatedAt : String)
    (db : Tables) : Tables :=
  { db with emails := db.emails.updateWhere (hasId emailId) (.linkedTo loanAccount updatedAt) }

/-- Links an email to an active imported loan, unless it is linked to another one. -/
def linkEmailToImportedTmoLoan (emailId : ℤ) (loanAccount updatedAt : String)
    (integrations : Integrations) (db : Tables) :
    InboxResult ((ℕ × ReceivedEmail) × Tables) := do
  validateEmailId emailId
  validateLoanAccountInput loanAccount
  let current ← requiredEmail emailId db
  ensure (current.2.loanAccount.all (· == loanAccount))
    (.conflict s!"email {emailId} is already linked to another loan")
  ensure (isImportedTmoLoan loanAccount integrations) (.notFound "active imported TMO loan")
  let linked := db.withLink emailId (some loanAccount) updatedAt
  let email ← requiredEmail emailId linked
  pure (email, linked)

/-- Takes the link of an email away. -/
def unlinkEmail (emailId : ℤ) (updatedAt : String) (db : Tables) :
    InboxResult ((ℕ × ReceivedEmail) × Tables) := do
  let _ ← requiredEmail emailId db
  let unlinked := db.withLink emailId none updatedAt
  let email ← requiredEmail emailId unlinked
  pure (email, unlinked)

/-! ### Runs -/

/-- The inbox and the imported loans. -/
structure LinkState where
  inbox : Tables
  integrations : Integrations
  deriving DecidableEq

/-- A worker's request, an action of a user, or a change of the imported loans. -/
inductive LinkInput where
  | process (op : InboxOp)
  | link (emailId : ℤ) (loanAccount updatedAt : String)
  | unlink (emailId : ℤ) (updatedAt : String)
  | setIntegrations (integrations : Integrations)

/-- The state after an input; what fails changes nothing. -/
def LinkState.after (platform : MailPlatform) (state : LinkState) : LinkInput → LinkState
  | .process op => { state with inbox := op.after platform state.inbox }
  | .link emailId loanAccount updatedAt =>
    match linkEmailToImportedTmoLoan emailId loanAccount updatedAt state.integrations state.inbox with
    | .ok (_, inbox) => { state with inbox }
    | .error _ => state
  | .unlink emailId updatedAt =>
    match unlinkEmail emailId updatedAt state.inbox with
    | .ok (_, inbox) => { state with inbox }
    | .error _ => state
  | .setIntegrations integrations => { state with integrations }

/-- The link of an email, if there is the email. -/
def Tables.link (db : Tables) (id : ℕ) : Option (Option String) :=
  (db.emails.get? id).map ReceivedEmail.loanAccount

/-- Every email keeps its link; new ones have none. -/
def LinksKept (before after : Tables) : Prop :=
  ∀ id, after.link id = before.link id ∨ before.link id = none ∧ after.link id = some none

section Links

variable {platform : MailPlatform} {before middle after : Tables}

/-- The link of an email is read from a table of links. -/
theorem Tables.link_eq (db : Tables) (id : ℕ) :
    db.link id = (db.emails.map ReceivedEmail.loanAccount).get? id := by
  rw [link, Table.get?_map]

/-- A stored email has its link. -/
theorem Tables.link_of_mem {db : Tables} {id : ℕ} {email : ReceivedEmail}
    (stored : (id, email) ∈ db.emails) : db.link id = some email.loanAccount := by
  rw [link, Table.get?_eq_some.mpr stored, Option.map_some]

/-- Links that are the same are kept. -/
theorem LinksKept.of_same
    (same : after.emails.map ReceivedEmail.loanAccount = before.emails.map ReceivedEmail.loanAccount) :
    LinksKept before after := by
  intro id
  rw [Tables.link_eq, Tables.link_eq, same]
  exact Or.inl rfl

/-- Nothing happens to links that stay. -/
theorem LinksKept.refl (db : Tables) : LinksKept db db := .of_same rfl

/-- Links that are kept twice are kept. -/
theorem LinksKept.trans (first : LinksKept before middle) (second : LinksKept middle after) :
    LinksKept before after := by
  intro id
  rcases second id with same | ⟨missing, new⟩
  · rw [same]
    exact first id
  · rcases first id with same | ⟨-, new_⟩
    · exact Or.inr ⟨by rw [← same, missing], new⟩
    · rw [missing] at new_
      cases new_

/-- An update that leaves the link of a row alone keeps the links. -/
theorem LinksKept.updateEmails {reads : ℕ → ReceivedEmail → Bool}
    {write : ReceivedEmail → ReceivedEmail}
    (emails : after.emails = before.emails.updateWhere reads write)
    (unseen : ∀ email, (write email).loanAccount = email.loanAccount) : LinksKept before after := by
  refine .of_same ?_
  rw [emails, Table.map_updateWhere_unseen before.emails unseen]

/-- A link that is made, taken apart. -/
theorem linkEmail_ok {emailId : ℤ} {loanAccount updatedAt : String} {integrations : Integrations}
    {email : ℕ × ReceivedEmail}
    (done : linkEmailToImportedTmoLoan emailId loanAccount updatedAt integrations before =
      .ok (email, after)) :
    isImportedTmoLoan loanAccount integrations = true ∧
      (∀ id : ℕ, (id : ℤ) = emailId → ∀ link, before.link id = some link →
        link = none ∨ link = some loanAccount) ∧
      after = before.withLink emailId (some loanAccount) updatedAt := by
  simp only [linkEmailToImportedTmoLoan, requiredEmail, bind_eq_ok, required_eq_ok, ensure_eq_ok,
    pure_eq_ok, Prod.mk.injEq] at done
  obtain ⟨_, -, _, -, ⟨stored, current⟩, found, _, free, _, imported, _, -, -, rfl⟩ := done
  refine ⟨imported, fun id same link linked => ?_, rfl⟩
  -- The email that was read is the one with this id.
  obtain ⟨there, named⟩ := Table.find?_some found
  obtain rfl : stored = id := by
    have := of_decide_eq_true named
    omega
  rw [Tables.link_of_mem there] at linked
  obtain rfl := Option.some.inj linked
  cases link : current.loanAccount with
  | none => exact Or.inl rfl
  | some account =>
    rw [link] at free
    exact Or.inr (congrArg some (by simpa using free))

/-- An unlinking that is made, taken apart. -/
theorem unlinkEmail_ok {emailId : ℤ} {updatedAt : String} {email : ℕ × ReceivedEmail}
    (done : unlinkEmail emailId updatedAt before = .ok (email, after)) :
    after = before.withLink emailId none updatedAt := by
  simp only [unlinkEmail, requiredEmail, bind_eq_ok, required_eq_ok, pure_eq_ok,
    Prod.mk.injEq] at done
  obtain ⟨_, -, _, -, -, rfl⟩ := done
  rfl

end Links

section Steps

variable {platform : MailPlatform} {before : LinkState} {id : ℕ}

end Steps

/-- The state that inputs lead to. -/
def LinkState.afterAll (platform : MailPlatform) (inputs : List LinkInput) (state : LinkState) :
    LinkState := inputs.foldl (LinkState.after platform) state

end FinStream.Inbox
