import FinStream.Domain.System
import FinStream.Store.Effect
import FinStream.Store.Holder

/-! The primary account: there is at most one, and once there is one it is never lost. -/

namespace FinStream

open Store

/-! ### Which operations touch accounts and views -/

/-- Whether an operation writes accounts. -/
def FinanceOp.writesAccounts : FinanceOp → Bool
  | .saveAccount .. | .ensurePrimaryAccount .. | .setStartingBalance ..
  | .bootstrapDefaults .. => true
  | _ => false

/-- Whether an operation writes views. -/
def FinanceOp.writesViews : FinanceOp → Bool
  | .saveView .. | .bootstrapDefaults .. => true
  | _ => false

/-- Accounts and views stay as they are. -/
structure SameBooks (before after : Finance) : Prop where
  accounts : after.accounts = before.accounts
  views : after.views = before.views

/-- Saving a stream touches neither accounts nor views. -/
theorem saveStream_sameBooks {platform : Platform} {now : String} {draft : StreamDraft}
    {window : ProjectionWindow} {db : Finance} {result : ℕ × Finance}
    (done : saveStream platform now draft window db = .ok result) : SameBooks db result.2 := by
  obtain ⟨first, retained, second, steps⟩ := saveStream_steps done
  -- Each of its statements writes streams, schedules, events or memberships of views.
  constructor
  · rw [steps.after]
    simp only [attachToDefaultView, deactivateMissing]
    rw [steps.written]
  · rw [steps.after]
    simp only [attachToDefaultView, deactivateMissing]
    rw [steps.written]

/-- A bootstrap writes accounts only to find the primary one, and views only for the default. -/
theorem bootstrapDefaults_books {now : String} {today : IsoDate} {db : Finance}
    {result : BootstrapResult × Finance} (done : bootstrapDefaults now today db = .ok result) :
    result.2.accounts = (ensurePrimaryAccountOn now db).2.accounts ∧
      result.2.views = (ensureDefaultViewOn now db).2.views := by
  obtain ⟨saved, window, -, accounts, views, -, refreshed⟩ := bootstrapDefaults_eq_ok done
  -- The refreshes write events only.
  rw [(refreshStreams_writes _ refreshed).2]
  exact ⟨accounts, views⟩

/-- Other operations touch neither accounts nor views. -/
theorem operation_books {platform : Platform} {op : FinanceOp} {db after : Finance}
    (done : op.apply platform db = .ok after) :
    (op.writesAccounts = false → after.accounts = db.accounts) ∧
      (op.writesViews = false → after.views = db.views) := by
  cases only : op.onlyEvents with
  | true =>
    rw [FinanceOp.onlyEvents_frame done only]
    exact ⟨fun _ => rfl, fun _ => rfl⟩
  | false =>
    cases op with
    | saveAccount now draft =>
      obtain ⟨result, saved, rfl⟩ := map_eq_ok.mp done
      rw [saveAccount_frame saved]
      exact ⟨fun named => (by cases named), fun _ => rfl⟩
    | ensurePrimaryAccount now =>
      cases done
      rw [ensurePrimaryAccountOn_frame]
      exact ⟨fun named => (by cases named), fun _ => rfl⟩
    | setStartingBalance now amount asOfDate sourceType sourceRef metadata =>
      rw [setStartingBalance_frame done]
      exact ⟨fun named => (by cases named), fun _ => rfl⟩
    -- A saved stream carries its schedule and events, but neither account nor view.
    | saveStream now draft window =>
      obtain ⟨result, saved, rfl⟩ := map_eq_ok.mp done
      have same := saveStream_sameBooks saved
      exact ⟨fun _ => same.accounts, fun _ => same.views⟩
    | deleteStream now streamId =>
      simp only [FinanceOp.apply, deleteStream, bind_eq_ok, pure_eq_ok] at done
      obtain ⟨_, -, rfl⟩ := done
      exact ⟨fun _ => rfl, fun _ => rfl⟩
    | saveView now draft =>
      obtain ⟨result, saved, rfl⟩ := map_eq_ok.mp done
      rw [saveView_frame saved]
      exact ⟨fun _ => rfl, fun named => by cases named⟩
    -- Bootstrap writes both.
    | bootstrapDefaults now today =>
      exact ⟨fun named => (by cases named), fun named => by cases named⟩
    | _ => cases only

/-! ### What each writer does to accounts -/

/-- Whether an account is the primary one. -/
def Account.leads (account : Account) : Bool := account.isPrimary && account.isActive

/-- A balance is there exactly when its date is. -/
def Account.Dated (account : Account) : Prop :=
  account.balance.isSome = account.balanceAsOfDate.isSome

/-- What the schema demands of accounts: one primary account at most, and dates on balances. -/
structure AccountsSound (accounts : Table Account) : Prop where
  single : accounts.AtMostOne Account.leads
  dated : ∀ id account, (id, account) ∈ accounts → account.Dated

/-- What a statement may do to accounts. -/
structure AccountsKept (before after : Table Account) : Prop where
  handover : Table.Handover Account.leads before after
  dated : (∀ id account, (id, account) ∈ before → account.Dated) →
    ∀ id account, (id, account) ∈ after → account.Dated

/-- Statements may follow each other. -/
theorem AccountsKept.trans {before middle after : Table Account} (first : AccountsKept before middle)
    (second : AccountsKept middle after) : AccountsKept before after :=
  ⟨first.handover.trans second.handover, fun holds => second.dated (first.dated holds)⟩

/-- Accounts may stay as they are. -/
theorem AccountsKept.refl (accounts : Table Account) : AccountsKept accounts accounts :=
  ⟨.refl accounts, id⟩

/-- What statements do to sound accounts leaves them sound. -/
theorem AccountsKept.sound {before after : Table Account} (kept : AccountsKept before after)
    (sound : AccountsSound before) : AccountsSound after :=
  ⟨kept.handover.atMostOne sound.single, kept.dated sound.dated⟩

/-- Finding or creating the primary account. -/
theorem ensurePrimaryAccountOn_kept (now : String) (db : Finance) :
    AccountsKept db.accounts (ensurePrimaryAccountOn now db).2.accounts := by
  unfold ensurePrimaryAccountOn
  split
  · exact .refl _
  · -- Nobody leads, so the account that is created is the only one.
    rename_i missing
    constructor
    · refine .to_insert (fun id held => ?_) rfl
      obtain ⟨account, stored, leads⟩ := held
      have fails := Table.find?_none missing stored
      rw [Account.leads, fails] at leads
      cases leads
    · -- A new account has neither a balance nor a date.
      intro dated id account stored
      rcases Table.mem_insert.mp stored with old | new
      · exact dated id account old
      · cases new
        rfl

/-- Changing the balance of the primary account. -/
theorem AccountsKept.of_balance {accounts : Table Account} {condition : ℕ → Account → Bool}
    {change : Account → Account}
    (flags : ∀ account, (change account).leads = account.leads)
    (dated : ∀ account, (change account).Dated) :
    AccountsKept accounts (accounts.updateWhere condition change) := by
  constructor
  · exact .of_updateWhere fun _ account _ _ => flags account
  · intro before id account stored
    obtain ⟨old, member, rfl⟩ := Table.mem_updateWhere.mp stored
    split
    · exact dated old
    · exact before id old member

/-- Recording the balance of the primary account. -/
theorem setStartingBalance_kept {platform : Platform} {now : String} {amount : F64}
    {asOfDate : IsoDate} {sourceType : String} {sourceRef metadata : Option String}
    {db after : Finance}
    (done : setStartingBalance platform now amount asOfDate sourceType sourceRef metadata db
      = .ok after) : AccountsKept db.accounts after.accounts := by
  simp only [setStartingBalance, bind_eq_ok, pure_eq_ok] at done
  obtain ⟨_, -, _, -, _, -, _, -, _, -, _, -, rfl⟩ := done
  -- The account is found first, and then balance and date are written together.
  refine (ensurePrimaryAccountOn_kept now db).trans ?_
  dsimp only
  refine .of_balance (fun _ => rfl) fun account => ?_
  rw [Account.Dated]
  rfl

/-- Applying the balance of a provider. -/
theorem applyMonarchBalance_kept {platform : Platform} {connectionId : ℕ} {asOfDate : IsoDate}
    {capture : MonarchBalanceCapture} {persistedAt : String} {before after : Domain}
    (done : applyMonarchBalance platform connectionId asOfDate capture persistedAt before
      = .ok after) : AccountsKept before.finance.accounts after.finance.accounts := by
  simp only [applyMonarchBalance, bind_eq_ok, pure_eq_ok] at done
  obtain ⟨_, -, _, -, _, -, _, -, _, -, _, -, rfl⟩ := done
  -- The same two steps, for the balance of the provider.
  refine (ensurePrimaryAccountOn_kept persistedAt before.finance).trans ?_
  dsimp only
  refine .of_balance (fun _ => rfl) fun account => ?_
  rw [Account.Dated]
  rfl

/-- Once the flag is cleared, only the account that is kept may be primary. -/
theorem clearPrimary_holder {now : String} {keep : Option ℕ} {accounts : Table Account} {id : ℕ}
    (held : (clearPrimary now keep accounts).Holder Account.leads id) : keep = some id := by
  obtain ⟨account, stored, leads⟩ := Table.holder_updateWhere.mp held
  split at leads
  · cases leads
  · rename_i other
    rw [Account.leads, Bool.and_eq_true] at leads
    simpa [leads.1] using other

/-- Clearing the flag leaves balances alone. -/
theorem clearPrimary_dated {now : String} {keep : Option ℕ} {accounts : Table Account}
    (dated : ∀ id account, (id, account) ∈ accounts → account.Dated) :
    ∀ id account, (id, account) ∈ clearPrimary now keep accounts → account.Dated := by
  intro id account stored
  obtain ⟨old, member, rfl⟩ := Table.mem_updateWhere.mp stored
  split
  · exact dated id old member
  · exact dated id old member

/-- Saving an account. -/
theorem saveAccount_kept {now : String} {draft : AccountDraft} {db : Finance}
    {result : ℕ × Finance} (done : saveAccount now draft db = .ok result) :
    AccountsKept db.accounts result.2.accounts := by
  simp only [saveAccount, bind_eq_ok, validateOptionalBalance, ensure_eq_ok, beq_iff_eq] at done
  obtain ⟨_, -, _, -, _, ⟨_, -, together⟩, _, refused, _, -, _, -, done⟩ := done
  -- The draft was checked to have both a balance and its date, or neither.
  have replaced : ∀ account : Account, (account.replacedBy now draft).Dated := by
    intro account
    simp only [Account.Dated, Account.replacedBy, Option.isSome_map, together]
  have inserted : (draft.row now).Dated := by
    simp only [Account.Dated, AccountDraft.row, Option.isSome_map, together]
  cases primary : draft.isPrimary with
  | true =>
    -- The flag is taken from everyone else before the account receives it.
    simp only [primary, if_true] at done
    cases named : draft.id with
    | none =>
      simp only [named, pure_eq_ok] at done
      subst done
      refine ⟨.to_insert (fun id held => ?_) (by simp [Account.leads, AccountDraft.row, primary]),
        fun dated id account stored => ?_⟩
      · cases clearPrimary_holder held
      · rcases Table.mem_insert.mp stored with old | new
        · exact clearPrimary_dated dated id account old
        · cases new
          exact inserted
    | some id =>
      simp only [named, bind_eq_ok, ensure_eq_ok, pure_eq_ok, Option.any_eq_true,
        Table.get?_eq_some] at done
      obtain ⟨_, ⟨account, stored, active⟩, rfl⟩ := done
      dsimp only
      refine ⟨.to_update (fun other held => ?_) stored (fun other there same => ?_) ?_,
        fun dated other account there => ?_⟩
      · exact (Option.some.inj (clearPrimary_holder held)).symm
      · simp only [Bool.and_eq_true, beq_iff_eq] at same
        exact same.1
      · simp [Account.leads, Account.replacedBy, primary, active]
      · obtain ⟨old, member, rfl⟩ := Table.mem_updateWhere.mp there
        split
        · exact replaced old
        · exact clearPrimary_dated dated other old member
  | false =>
    simp only [primary, Bool.false_eq_true, if_false] at done
    cases named : draft.id with
    | none =>
      simp only [named, pure_eq_ok] at done
      subst done
      -- An account that is not primary is added, which touches no other.
      refine ⟨.of_insert (by simp [Account.leads, AccountDraft.row, primary]),
        fun dated id account stored => ?_⟩
      rcases Table.mem_insert.mp stored with old | new
      · exact dated id account old
      · cases new
        exact inserted
    | some id =>
      -- The primary account itself is refused, so the flag of no account changes.
      simp only [refuseDemotion, named, primary, Bool.false_eq_true, if_false, bind_eq_ok,
        required_eq_ok, Option.filter_eq_some_iff, Table.get?_eq_some, ensure_eq_ok,
        Bool.not_eq_true'] at refused
      obtain ⟨account, ⟨stored, active⟩, ordinary⟩ := refused
      simp only [named, bind_eq_ok, pure_eq_ok] at done
      obtain ⟨_, -, rfl⟩ := done
      dsimp only
      refine ⟨.of_updateWhere fun other row there same => ?_, fun dated other row there => ?_⟩
      · simp only [Bool.and_eq_true, beq_iff_eq] at same
        rw [same.1] at there
        cases Table.unique stored there
        simp [Account.leads, Account.replacedBy, primary, ordinary]
      · obtain ⟨old, member, rfl⟩ := Table.mem_updateWhere.mp there
        split
        · exact replaced old
        · exact dated other old member

/-- Every finance operation. -/
theorem operation_accounts {platform : Platform} {op : FinanceOp} {db after : Finance}
    (done : op.apply platform db = .ok after) : AccountsKept db.accounts after.accounts := by
  cases writes : op.writesAccounts with
  | false =>
    rw [(operation_books done).1 writes]
    exact .refl _
  | true =>
    cases op with
    | saveAccount now draft =>
      obtain ⟨result, saved, rfl⟩ := map_eq_ok.mp done
      exact saveAccount_kept saved
    | ensurePrimaryAccount now =>
      cases done
      exact ensurePrimaryAccountOn_kept now db
    | setStartingBalance now amount asOfDate sourceType sourceRef metadata =>
      exact setStartingBalance_kept done
    | bootstrapDefaults now today =>
      obtain ⟨result, booted, rfl⟩ := map_eq_ok.mp done
      rw [(bootstrapDefaults_books booted).1]
      exact ensurePrimaryAccountOn_kept now db
    | _ => cases writes

/-! ### Calls, with those that fail -/

/-- Errors of the calls that write accounts. -/
inductive BookError where
  | finance (error : FinanceError)
  | monarch (error : MonarchSyncError)

/-- The calls of the planner, and the application of a balance from Monarch. -/
inductive BookCall where
  | finance (op : FinanceOp)
  | monarchBalance (connectionId : ℕ) (asOfDate : IsoDate) (capture : MonarchBalanceCapture)
      (persistedAt : String)

/-- What the transaction of a call leads to. -/
def BookCall.body (platform : Platform) : BookCall → Domain → Except BookError (PUnit × Domain)
  | .finance op, db => ((op.apply platform db.finance).mapError .finance).map fun finance =>
      (⟨⟩, cascadeLinks { db with finance })
  | .monarchBalance connectionId asOfDate capture persistedAt, db =>
    ((applyMonarchBalance platform connectionId asOfDate capture persistedAt db).mapError
      .monarch).map fun after => (⟨⟩, after)

/-- Makes a call. -/
def BookCall.run (platform : Platform) (call : BookCall) : Effect Domain BookError PUnit :=
  .transaction (call.body platform)

/-- The state that calls lead to, whichever of them fail. -/
def BookCall.runAll (platform : Platform) (calls : List BookCall) (db : Domain) : Domain :=
  calls.foldl (fun db call => (call.run platform db).2) db

/-- Every call. -/
theorem BookCall.run_kept (platform : Platform) (call : BookCall) (db : Domain) :
    AccountsKept db.finance.accounts (call.run platform db).2.finance.accounts := by
  -- A call that fails is rolled back; one that succeeds does what its operation does.
  rcases Effect.transaction_cases (call.body platform) db with rolledBack | ⟨value, done⟩
  · rw [BookCall.run, rolledBack]
    exact .refl _
  · rw [BookCall.run]
    generalize (Effect.transaction (call.body platform) db).2 = after at done ⊢
    cases call with
    | finance op =>
      simp only [body, map_eq_ok, mapError_eq_ok, Prod.mk.injEq] at done
      obtain ⟨finance, applied, -, rfl⟩ := done
      exact operation_accounts applied
    | monarchBalance connectionId asOfDate capture persistedAt =>
      simp only [body, map_eq_ok, mapError_eq_ok, Prod.mk.injEq] at done
      obtain ⟨committed, applied, -, rfl⟩ := done
      exact applyMonarchBalance_kept applied

/-- Any sequence of calls. -/
theorem BookCall.runAll_kept (platform : Platform) (calls : List BookCall) (db : Domain) :
    AccountsKept db.finance.accounts (runAll platform calls db).finance.accounts := by
  -- One call at a time, from whatever state the last one has left.
  induction calls generalizing db with
  | nil => exact .refl _
  | cons call rest ih => exact (call.run_kept platform db).trans (ih _)

/--
After any sequence of calls at most one active account is primary, balances have dates, and a
primary account that was there has exactly one successor; a call that fails changes nothing.
-/
theorem primary_account_kept (platform : Platform) (calls : List BookCall) (before : Domain)
    (sound : AccountsSound before.finance.accounts) :
    let after := BookCall.runAll platform calls before
    AccountsSound after.finance.accounts ∧
    ((∃ id, before.finance.accounts.Holder Account.leads id) →
      ∃! id, after.finance.accounts.Holder Account.leads id) ∧
    ∀ call error, (BookCall.run platform call after).1 = .error error →
      (call.run platform after).2 = after := by
  have kept := BookCall.runAll_kept platform calls before
  refine ⟨kept.sound sound, fun held => ?_, fun call error failed => ?_⟩
  · exact (kept.sound sound).single.existsUnique (kept.handover.held held)
  · exact Effect.transaction_error failed

/-- A request to save a primary savings account. -/
def savingsAccount (id : Option ℕ) : AccountDraft where
  id
  name := "Savings"
  kind := "savings"
  balance := some (.finite 500)
  balanceAsOfDate := some firstMonday
  isPrimary := true
  notes := none

/-- The accounts of a fresh schema are sound. -/
theorem accountsSound_empty : AccountsSound (.empty : Table Account) :=
  ⟨fun left _ held => absurd held (Table.not_holder_empty left),
    fun _ _ stored => absurd stored (Table.not_mem_empty _)⟩

/-- The cash account hands its role over to the savings account. -/
theorem primary_account_kept_savings :
    let before : Domain := { Domain.registered with
      finance := (ensurePrimaryAccountOn "2026-01-01T00:00:00.000Z" .empty).2 }
    ∃! id, (BookCall.runAll plainPlatform [.finance (.saveAccount "2026-01-02T00:00:00.000Z"
      (savingsAccount none))] before).finance.accounts.Holder Account.leads id := by
  intro before
  have sound : AccountsSound before.finance.accounts :=
    (ensurePrimaryAccountOn_kept _ .empty).sound accountsSound_empty
  have held : before.finance.accounts.Holder Account.leads 1 :=
    ⟨primaryCashAccount "2026-01-01T00:00:00.000Z", Table.get?_eq_some.mp rfl, rfl⟩
  exact (primary_account_kept plainPlatform _ before sound).2.1 ⟨1, held⟩

end FinStream
