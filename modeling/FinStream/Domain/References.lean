import FinStream.Domain.BootstrapAgain
import FinStream.Finance.Tidy
import FinStream.Finance.Views
import FinStream.Store.Reference

/-! What active rows refer to, and the values of all rows, through every finance operation. -/

namespace FinStream

open Store

/-! ### Rows that an update could repeat -/

/-- What the schema and the service demand of an account. -/
structure Account.Valid (account : Account) : Prop where
  name : isBlank account.name = false
  kind : isBlank account.kind = false
  dated : account.Dated
  balance : account.balance.all realFits = true
  date : account.balanceAsOfDate.all (fun date => 0 ≤ date.year) = true

/-- What the schema and the service demand of a stream. -/
structure Stream.Valid (platform : Platform) (stream : Stream) : Prop where
  name : isBlank stream.name = false
  streamType : isBlank stream.streamType = false
  kind : isBlank stream.kind = false
  configuration : stream.configuration.all platform.jsonValid = true

/-- What the schema and the service demand of a schedule. -/
structure StreamSchedule.Valid (platform : Platform) (schedule : StreamSchedule) : Prop where
  amount : magnitudeFits schedule.amount = true
  metadata : schedule.metadata.all platform.jsonValid = true
  given : schedule.frequency = .monthly → schedule.dayOfMonth.isSome = true
  day : schedule.dayOfMonth.all (fun day => 1 ≤ day && day ≤ 31) = true
  ordered : schedule.endDate.all (fun endDate => schedule.startDate ≤ endDate) = true
  start : 0 ≤ schedule.startDate.year
  ends : schedule.endDate.all (fun date => 0 ≤ date.year) = true

/-- What the schema and the service demand of a view. -/
def StreamView.Valid (view : StreamView) : Prop := isBlank view.name = false

/-- Every stored row meets what the schema and the service demand of it. -/
structure Finance.Valid (platform : Platform) (db : Finance) : Prop where
  accounts : ∀ id account, (id, account) ∈ db.accounts → account.Valid
  streams : ∀ id stream, (id, stream) ∈ db.streams → stream.Valid platform
  schedules : ∀ id schedule, (id, schedule) ∈ db.schedules → schedule.Valid platform
  views : ∀ id view, (id, view) ∈ db.views → view.Valid

/-- The accounts that are active. -/
def Finance.hasAccount (db : Finance) : ℕ → Prop := db.accounts.Holder Account.isActive

/-- The streams that are active. -/
def Finance.hasStream (db : Finance) : ℕ → Prop := db.streams.Holder Stream.isActive

/-- What is active refers to active accounts and active parents. -/
structure Finance.Attached (db : Finance) : Prop where
  defaults : ∀ id stream, (id, stream) ∈ db.streams →
    Refers db.hasAccount stream.isActive stream.defaultAccountId
  parents : ∀ id stream, (id, stream) ∈ db.streams →
    Refers db.hasStream stream.isActive stream.parentId
  schedules : ∀ id schedule, (id, schedule) ∈ db.schedules →
    Refers db.hasAccount schedule.isActive schedule.accountId

/-- The streams that a bootstrap finds under the names of its seeds. -/
def Finance.Seeded (db : Finance) (id : ℕ) : Prop :=
  ∃ seed ∈ streamSeeds, ∃ stream,
    db.streams.find? (fun _ stream => stream.name == seed.name) = some (id, stream)

/--
Whether an operation leaves active streams with active parents: a deleted stream is the parent of
no other active one, and a stream that a bootstrap revives has no parent that stays inactive.
-/
def FinanceOp.KeepsParents (db : Finance) : FinanceOp → Prop
  | .deleteStream _ streamId => ∀ id stream, (id, stream) ∈ db.streams → stream.isActive = true →
      stream.parentId = some streamId → id = streamId
  | .bootstrapDefaults _ _ => ∀ id stream, (id, stream) ∈ db.streams → db.Seeded id →
      ∀ parent ∈ stream.parentId, db.hasStream parent ∨ db.Seeded parent
  | _ => True

/-- Whether a stream is active is read from its row. -/
instance (db : Finance) (id : ℕ) : Decidable (db.hasStream id) :=
  decidable_of_iff ((db.streams.get? id).any (·.isActive) = true) (by
    simp only [Option.any_eq_true, Table.get?_eq_some, Finance.hasStream, Table.Holder])

/-- Whether a stream is seeded is decided by looking the seeds up. -/
instance (db : Finance) (id : ℕ) : Decidable (db.Seeded id) :=
  decidable_of_iff (∃ seed ∈ streamSeeds,
    ((db.streams.find? fun _ stream => stream.name == seed.name).any (·.1 == id)) = true) (by
      simp only [Option.any_eq_true, beq_iff_eq, Finance.Seeded]
      refine exists_congr fun seed => and_congr_right fun _ => ?_
      exact ⟨fun ⟨entry, found, same⟩ => ⟨entry.2, same ▸ found⟩,
        fun ⟨stream, found⟩ => ⟨(id, stream), found, rfl⟩⟩)

/-- Whether an operation leaves active streams with active parents is decided row by row. -/
instance (db : Finance) (op : FinanceOp) : Decidable (op.KeepsParents db) :=
  match op with
  | .deleteStream _ streamId => decidable_of_iff (∀ entry ∈ db.streams.rows,
      entry.2.isActive = true → entry.2.parentId = some streamId → entry.1 = streamId)
      ⟨fun all id stream there => all (id, stream) there, fun all _ there => all _ _ there⟩
  | .bootstrapDefaults _ _ => decidable_of_iff (∀ entry ∈ db.streams.rows, db.Seeded entry.1 →
      ∀ parent ∈ entry.2.parentId, db.hasStream parent ∨ db.Seeded parent)
      ⟨fun all id stream there => all (id, stream) there, fun all _ there => all _ _ there⟩
  | .saveAccount .. | .ensurePrimaryAccount .. | .setStartingBalance .. | .saveStream ..
  | .refreshStreamScheduleEvents .. | .saveView .. | .createManualEvent .. | .patchEvent ..
  | .removeEvent .. | .restoreScheduledEvent .. | .reconcileEvent .. => .isTrue trivial

/-! ### Checks -/

/-- A text is as blank trimmed as it is untrimmed. -/
@[simp] theorem isBlank_trim (value : String) : isBlank (trim value) = isBlank value := by
  rw [isBlank, isBlank, trim_trim]

/-- A check of an optional value passes when it passes for the value that is there. -/
theorem option_forM_eq_ok {α : Type} {check : α → FinanceResult Unit} {value : Option α}
    {done : Unit} : value.forM check = .ok done ↔ ∀ found ∈ value, check found = .ok ⟨⟩ := by
  cases value with
  | none => exact iff_of_true rfl fun found member => by cases member
  | some found =>
    exact ⟨fun passed other member => Option.some.inj member ▸ passed, fun passes => passes found rfl⟩

/-- An account is required to be active. -/
theorem requireActiveAccount_eq_ok {db : Finance} {id : ℕ} {done : Unit} :
    requireActiveAccount db id = .ok done ↔ db.hasAccount id := by
  simp only [requireActiveAccount, ensure_eq_ok, Option.any_eq_true, Table.get?_eq_some,
    Finance.hasAccount, Table.Holder]

/-- A stream is required to be active. -/
theorem requireActiveStream_eq_ok {db : Finance} {id : ℕ} :
    (∃ name, requireActiveStream db id = .ok name) ↔ db.hasStream id := by
  simp only [requireActiveStream, bind_eq_ok, required_eq_ok, pure_eq_ok,
    Option.filter_eq_some_iff, Table.get?_eq_some, Finance.hasStream, Table.Holder]
  constructor
  · rintro ⟨_, stream, ⟨stored, active⟩, -⟩
    exact ⟨stream, stored, active⟩
  · rintro ⟨stream, stored, active⟩
    exact ⟨_, stream, ⟨stored, active⟩, rfl⟩

/-- The references of a draft are accepted when they are to active rows. -/
theorem requireReferences_eq_ok {db : Finance} {draft : StreamDraft} {done : Unit} :
    requireReferences db draft = .ok done ↔
      (∀ id ∈ draft.defaultAccountId, db.hasAccount id) ∧
      (∀ id ∈ draft.parentId, db.hasStream id) ∧
      ∀ schedule ∈ draft.schedules, ∀ id ∈ schedule.accountId, db.hasAccount id := by
  have parent : ∀ id, (do let _ ← requireActiveStream db id : FinanceResult Unit) = .ok ⟨⟩ ↔
      db.hasStream id := fun id => by
    rw [← requireActiveStream_eq_ok, bind_eq_ok]
    simp only [pure_eq_ok, and_true]
  simp only [requireReferences, bind_eq_ok, option_forM_eq_ok, requireActiveAccount_eq_ok, parent]
  constructor
  · rintro ⟨_, account, _, above, scheduled⟩
    refine ⟨account, above, fun schedule member => ?_⟩
    have one := forM_eq_ok scheduled schedule member
    exact fun id given => requireActiveAccount_eq_ok.mp (option_forM_eq_ok.mp one id given)
  · rintro ⟨account, above, scheduled⟩
    refine ⟨⟨⟩, account, ⟨⟩, above, forM_ok fun schedule member => option_forM_eq_ok.mpr ?_⟩
    exact fun id given => requireActiveAccount_eq_ok.mpr (scheduled schedule member id given)

/-- The checks on a schedule of a draft. -/
theorem validateScheduleDraft_eq_ok {platform : Platform} {schedule : ScheduleDraft} {done : Unit} :
    validateScheduleDraft platform schedule = .ok done ↔
      schedule.amount.isFinite = true ∧ 0 ≤ schedule.amount.value ∧
      schedule.metadata.all platform.jsonValid = true ∧
      (schedule.frequency = .monthly → schedule.dayOfMonth.isSome = true) ∧
      schedule.dayOfMonth.all (fun day => 1 ≤ day && day ≤ 31) = true ∧
      schedule.endDate.all (fun endDate => schedule.startDate ≤ endDate) = true := by
  have given : (!(schedule.frequency == .monthly && schedule.dayOfMonth.isNone)) = true ↔
      (schedule.frequency = .monthly → schedule.dayOfMonth.isSome = true) := by
    cases schedule.dayOfMonth <;> simp
  simp only [validateScheduleDraft, validateMagnitude, validateFinite, validateJson, bind_eq_ok,
    ensure_eq_ok, given, decide_eq_true_eq]
  constructor
  · rintro ⟨_, ⟨_, finite, positive⟩, _, json, _, monthly, _, day, ends⟩
    exact ⟨finite, positive, json, monthly, day, ends⟩
  · rintro ⟨finite, positive, json, monthly, day, ends⟩
    exact ⟨⟨⟩, ⟨⟨⟩, finite, positive⟩, ⟨⟩, json, ⟨⟩, monthly, ⟨⟩, day, ends⟩

/-- The checks on a draft are those on the row it becomes and on each schedule. -/
theorem validateStreamDraft_eq_ok {platform : Platform} {draft : StreamDraft} {done : Unit}
    (now : String) : validateStreamDraft platform draft = .ok done ↔
      (draft.row now).Valid platform ∧
      ∀ schedule ∈ draft.schedules, validateScheduleDraft platform schedule = .ok ⟨⟩ := by
  simp only [validateStreamDraft, validateNonempty, validateJson, bind_eq_ok, ensure_eq_ok,
    Bool.not_eq_true']
  constructor
  · rintro ⟨_, name, _, streamType, _, kind, _, configuration, scheduled⟩
    refine ⟨⟨?_, ?_, ?_, configuration⟩, fun schedule member => forM_eq_ok scheduled schedule member⟩
    · exact (isBlank_trim draft.name).trans name
    · exact (isBlank_trim draft.streamType).trans streamType
    · exact (isBlank_trim draft.kind).trans kind
  · rintro ⟨valid, scheduled⟩
    refine ⟨⟨⟩, ?_, ⟨⟩, ?_, ⟨⟩, ?_, ⟨⟩, valid.configuration, forM_ok scheduled⟩
    · exact (isBlank_trim draft.name).symm.trans valid.name
    · exact (isBlank_trim draft.streamType).symm.trans valid.streamType
    · exact (isBlank_trim draft.kind).symm.trans valid.kind

variable {platform : Platform} {now : String} {db after : Finance}

/-! ### Accounts -/

/-- What a statement may do to accounts: valid ones stay valid, and active ones active. -/
structure AccountsStand (before after : Table Account) : Prop where
  valid : (∀ id account, (id, account) ∈ before → account.Valid) →
    ∀ id account, (id, account) ∈ after → account.Valid
  active : ∀ id, before.Holder Account.isActive id → after.Holder Account.isActive id

/-- Accounts may stay as they are. -/
theorem AccountsStand.refl (accounts : Table Account) : AccountsStand accounts accounts :=
  ⟨id, fun _ => id⟩

/-- Statements may follow each other. -/
theorem AccountsStand.trans {before middle after : Table Account}
    (first : AccountsStand before middle) (second : AccountsStand middle after) :
    AccountsStand before after :=
  ⟨fun valid => second.valid (first.valid valid), fun id held => second.active id (first.active id held)⟩

/-- An update may give accounts valid values and leave their activity alone. -/
theorem AccountsStand.updateWhere {accounts : Table Account} {condition : ℕ → Account → Bool}
    {change : Account → Account} (valid : ∀ account, account.Valid → (change account).Valid)
    (active : ∀ account, (change account).isActive = account.isActive) :
    AccountsStand accounts (accounts.updateWhere condition change) :=
  ⟨fun before => forall_updateWhere before valid, fun _ =>
    Table.holder_updateWhere_of fun _ account _ _ held => (active account).trans held⟩

/-- A valid account may be inserted. -/
theorem AccountsStand.insert {accounts : Table Account} {account : Account} (valid : account.Valid) :
    AccountsStand accounts (accounts.insert account) :=
  ⟨fun before => forall_insert before valid, fun _ => Table.holder_insert_of⟩

/-- Finding or creating the primary account. -/
theorem ensurePrimaryAccountOn_stand (now : String) (db : Finance) :
    AccountsStand db.accounts (ensurePrimaryAccountOn now db).2.accounts := by
  have named : isBlank "Primary Cash" = false ∧ isBlank "cash" = false := by decide +kernel
  unfold ensurePrimaryAccountOn
  split
  · exact .refl _
  · exact .insert ⟨named.1, named.2, rfl, rfl, rfl⟩

/-- The primary account that is found or created is active. -/
theorem ensurePrimaryAccountOn_active (now : String) (db : Finance) :
    (ensurePrimaryAccountOn now db).2.hasAccount (ensurePrimaryAccountOn now db).1 := by
  unfold ensurePrimaryAccountOn
  cases found : db.accounts.find? fun _ account => account.isPrimary && account.isActive with
  | some entry =>
    obtain ⟨stored, primary⟩ := Table.find?_some found
    exact ⟨entry.2, stored, (Bool.and_eq_true_iff.mp primary).2⟩
  | none => exact ⟨primaryCashAccount now, Table.mem_insert.mpr (Or.inr rfl), rfl⟩

/-- The primary flag is no matter of validity. -/
theorem clearPrimary_stand (now : String) (keep : Option ℕ) (accounts : Table Account) :
    AccountsStand accounts (clearPrimary now keep accounts) :=
  .updateWhere (fun _ valid => ⟨valid.name, valid.kind, valid.dated, valid.balance, valid.date⟩)
    fun _ => rfl

/-- Saving an account. -/
theorem saveAccount_stand {draft : AccountDraft} {result : ℕ × Finance}
    (done : saveAccount now draft db = .ok result) :
    AccountsStand db.accounts result.2.accounts := by
  simp only [saveAccount, validateNonempty, validateOptionalBalance, bind_eq_ok, ensure_eq_ok,
    Bool.not_eq_true', beq_iff_eq, option_forM_eq_ok] at done
  obtain ⟨_, name, _, kind, _, ⟨_, -, together⟩, _, -, _, bounded, _, dates, done⟩ := done
  -- What is stored of the draft was checked.
  have balance : (draft.balance.map F64.value).all realFits = true := by
    simpa [Option.all_map] using bounded
  have date : draft.balanceAsOfDate.all (fun date => 0 ≤ date.year) = true := by
    rw [Option.all_eq_true]
    intro found member
    simpa only [checkDate, ensure_eq_ok] using dates found member
  have dated : (draft.balance.map F64.value).isSome = draft.balanceAsOfDate.isSome := by
    rw [Option.isSome_map, together]
  have cleared : AccountsStand db.accounts
      (if draft.isPrimary then clearPrimary now draft.id db.accounts else db.accounts) := by
    split
    · exact clearPrimary_stand now draft.id db.accounts
    · exact .refl _
  split at done
  · simp only [bind_eq_ok, pure_eq_ok] at done
    obtain ⟨_, -, rfl⟩ := done
    dsimp only
    refine cleared.trans (.updateWhere (fun account _ => ?_) fun _ => rfl)
    exact ⟨(isBlank_trim _).trans name, (isBlank_trim _).trans kind, dated, balance, date⟩
  · simp only [pure_eq_ok] at done
    subst done
    dsimp only
    refine cleared.trans (.insert ?_)
    exact ⟨(isBlank_trim _).trans name, (isBlank_trim _).trans kind, dated, balance, date⟩

/-- Recording the balance of the primary account. -/
theorem setStartingBalance_stand {amount : F64} {asOfDate : IsoDate} {sourceType : String}
    {sourceRef metadata : Option String}
    (done : setStartingBalance platform now amount asOfDate sourceType sourceRef metadata db =
      .ok after) : AccountsStand db.accounts after.accounts := by
  simp only [setStartingBalance, checkDate, bind_eq_ok, ensure_eq_ok, decide_eq_true_eq,
    pure_eq_ok] at done
  obtain ⟨_, -, _, -, _, -, _, fits, _, dated, _, -, rfl⟩ := done
  dsimp only
  refine (ensurePrimaryAccountOn_stand now db).trans (.updateWhere (fun account valid => ?_) ?_)
  · exact ⟨valid.name, valid.kind, rfl, fits, decide_eq_true dated⟩
  · exact fun _ => rfl

/-- Every operation. -/
theorem operation_accountsStand {op : FinanceOp} (done : op.apply platform db = .ok after) :
    AccountsStand db.accounts after.accounts := by
  cases writes : op.writesAccounts with
  | false =>
    rw [(operation_books done).1 writes]
    exact .refl _
  | true =>
    cases op with
    | saveAccount now draft =>
      obtain ⟨result, saved, rfl⟩ := map_eq_ok.mp done
      exact saveAccount_stand saved
    | ensurePrimaryAccount now =>
      cases done
      exact ensurePrimaryAccountOn_stand now db
    | setStartingBalance => exact setStartingBalance_stand done
    | bootstrapDefaults now today =>
      obtain ⟨result, booted, rfl⟩ := map_eq_ok.mp done
      rw [(bootstrapDefaults_books booted).1]
      exact ensurePrimaryAccountOn_stand now db
    | _ => cases writes

/-! ### Views -/

/-- Every operation leaves views with names. -/
theorem operation_views_valid {op : FinanceOp} (done : op.apply platform db = .ok after)
    (valid : ∀ id view, (id, view) ∈ db.views → view.Valid) :
    ∀ id view, (id, view) ∈ after.views → view.Valid := by
  cases writes : op.writesViews with
  | false =>
    rw [(operation_books done).2 writes]
    exact valid
  | true =>
    cases op with
    -- A draft is refused unless its name is not blank, and clearing the default keeps names.
    | saveView now draft =>
      obtain ⟨result, saved, rfl⟩ := map_eq_ok.mp done
      obtain ⟨accepted, saved, row, rfl⟩ := saveView_eq_ok.mp saved
      have named : (draft.row now).Valid := (isBlank_trim draft.name).trans accepted.named
      have cleared : ∀ id view, (id, view) ∈ (if draft.isDefault then
          clearDefault now draft.id db.views else db.views) → view.Valid := by
        split
        · exact forall_updateWhere valid fun _ => id
        · exact valid
      unfold saveViewRow at row
      split at row
      · simp only [bind_eq_ok, pure_eq_ok] at row
        obtain ⟨_, -, rfl⟩ := row
        exact forall_updateWhere cleared fun _ _ => named
      · simp only [pure_eq_ok] at row
        subst row
        exact forall_insert cleared named
    -- The default view is named by the code.
    | bootstrapDefaults now today =>
      obtain ⟨result, booted, rfl⟩ := map_eq_ok.mp done
      rw [(bootstrapDefaults_books booted).2]
      have named : (allStreamsView now).Valid := by
        have solid : isBlank "All Streams" = false := by decide +kernel
        exact solid
      unfold ensureDefaultViewOn
      split
      · refine forall_updateWhere (forall_updateWhere valid fun _ same => ?_) fun _ _ => named
        exact same
      · exact forall_insert valid named
    | _ => cases writes

/-! ### Streams and schedules -/

/-- The streams and schedules are valid and attached to accounts and parents that are known. -/
structure PlansStand (platform : Platform) (account parent : ℕ → Prop) (db : Finance) : Prop where
  streams : ∀ id stream, (id, stream) ∈ db.streams → stream.Valid platform ∧
    Refers account stream.isActive stream.defaultAccountId ∧
    Refers parent stream.isActive stream.parentId
  schedules : ∀ id schedule, (id, schedule) ∈ db.schedules → schedule.Valid platform ∧
    Refers account schedule.isActive schedule.accountId

/-- Plans stand while more accounts and parents become known. -/
theorem PlansStand.mono {account parent moreAccount moreParent : ℕ → Prop}
    (stand : PlansStand platform account parent db) (accounts : ∀ id, account id → moreAccount id)
    (parents : ∀ id, parent id → moreParent id) : PlansStand platform moreAccount moreParent db where
  streams id stream there :=
    have was := stand.streams id stream there
    ⟨was.1, was.2.1.mono accounts, was.2.2.mono parents⟩
  schedules id schedule there :=
    have was := stand.schedules id schedule there
    ⟨was.1, was.2.mono accounts⟩

/-- Valid rows with good references are plans that stand. -/
theorem plansStand_iff : PlansStand platform db.hasAccount db.hasStream db ↔
    (∀ id stream, (id, stream) ∈ db.streams → stream.Valid platform) ∧
    (∀ id schedule, (id, schedule) ∈ db.schedules → schedule.Valid platform) ∧ db.Attached := by
  constructor
  · intro stand
    exact ⟨fun id stream there => (stand.streams id stream there).1,
      fun id schedule there => (stand.schedules id schedule there).1,
      fun id stream there => (stand.streams id stream there).2.1,
      fun id stream there => (stand.streams id stream there).2.2,
      fun id schedule there => (stand.schedules id schedule there).2⟩
  · rintro ⟨streams, schedules, attached⟩
    exact ⟨fun id stream there => ⟨streams id stream there, attached.defaults id stream there,
        attached.parents id stream there⟩,
      fun id schedule there => ⟨schedules id schedule there, attached.schedules id schedule there⟩⟩

/-- The row of an accepted schedule is valid. -/
theorem scheduleRow_valid {streamId : ℕ} {schedule : ScheduleDraft} {result : ℕ × Finance}
    (checked : validateScheduleDraft platform schedule = .ok ⟨⟩)
    (saved : saveScheduleOn now streamId schedule db = .ok result) :
    (schedule.row now streamId).Valid platform := by
  obtain ⟨-, -, metadata, given, day, ordered⟩ := validateScheduleDraft_eq_ok.mp checked
  simp only [saveScheduleOn, checkMagnitude, bind_eq_ok, ensure_eq_ok] at saved
  obtain ⟨_, amount, _, start, _, ends, -⟩ := saved
  simp only [checkDate, ensure_eq_ok, decide_eq_true_eq] at start
  refine ⟨amount, metadata, given, day, ordered, start, ?_⟩
  rw [Option.all_eq_true]
  intro date member
  simpa only [checkDate, ensure_eq_ok] using option_forM_eq_ok.mp ends date member

/-- Saving schedules to known accounts keeps the plans standing. -/
theorem saveSchedules_stand {streamId : ℕ} {account parent : ℕ → Prop}
    (pending : List ScheduleDraft) {retained : List ℕ} {result : List ℕ × Finance}
    (stand : PlansStand platform account parent db)
    (checked : ∀ schedule ∈ pending, validateScheduleDraft platform schedule = .ok ⟨⟩)
    (known : ∀ schedule ∈ pending, ∀ id ∈ schedule.accountId, account id)
    (done : saveSchedules now streamId pending retained db = .ok result) :
    PlansStand platform account parent result.2 := by
  induction pending generalizing retained db with
  | nil =>
    simp only [saveSchedules, pure_eq_ok] at done
    subst done
    exact stand
  | cons schedule rest ih =>
    simp only [saveSchedules, bind_eq_ok] at done
    obtain ⟨⟨id, saved⟩, one, _, -, others⟩ := done
    refine ih ?_ (fun other member => checked other (List.mem_cons_of_mem _ member))
      (fun other member => known other (List.mem_cons_of_mem _ member)) others
    -- The row that is stored for the first schedule is valid, and its account is known.
    have row : (schedule.row now streamId).Valid platform ∧
        Refers account (schedule.row now streamId).isActive (schedule.row now streamId).accountId :=
      ⟨scheduleRow_valid (checked schedule List.mem_cons_self) one,
        fun _ => known schedule List.mem_cons_self⟩
    simp only [saveScheduleOn, bind_eq_ok] at one
    obtain ⟨_, -, _, -, _, -, one⟩ := one
    split at one
    · simp only [bind_eq_ok, pure_eq_ok] at one
      obtain ⟨_, -, same⟩ := one
      cases same
      exact { stand with schedules := forall_updateWhere stand.schedules fun _ _ => row }
    · simp only [pure_eq_ok] at one
      cases one
      exact { stand with schedules := forall_insert stand.schedules row }

/-- The row of a saved stream is stored as one that refers to what is known. -/
theorem saveStreamRow_stand {draft : StreamDraft} {result : ℕ × Finance} {account parent : ℕ → Prop}
    (stand : PlansStand platform account parent db) (valid : (draft.row now).Valid platform)
    (default : ∀ id ∈ draft.defaultAccountId, account id) (above : ∀ id ∈ draft.parentId, parent id)
    (done : saveStreamRow now draft db = .ok result) :
    PlansStand platform account parent result.2 ∧
      ∀ id, db.hasStream id → result.2.hasStream id := by
  have row : (draft.row now).Valid platform ∧
      Refers account (draft.row now).isActive (draft.row now).defaultAccountId ∧
      Refers parent (draft.row now).isActive (draft.row now).parentId :=
    ⟨valid, fun _ => default, fun _ => above⟩
  unfold saveStreamRow at done
  split at done
  · simp only [bind_eq_ok, pure_eq_ok] at done
    obtain ⟨_, -, rfl⟩ := done
    refine ⟨{ stand with streams := forall_updateWhere stand.streams fun _ _ => row }, fun id => ?_⟩
    exact Table.holder_updateWhere_of fun _ _ _ _ _ => rfl
  · simp only [pure_eq_ok] at done
    subst done
    exact ⟨{ stand with streams := forall_insert stand.streams row },
      fun id => Table.holder_insert_of⟩

/-- Dropping schedules and showing the stream keep the plans standing. -/
theorem deactivateMissing_stand {streamId : ℕ} {retained : List ℕ} {account parent : ℕ → Prop}
    (stand : PlansStand platform account parent db) : PlansStand platform account parent
      (attachToDefaultView streamId (deactivateMissing now streamId retained db)) where
  streams := stand.streams
  schedules := forall_updateWhere stand.schedules fun _ was =>
    ⟨⟨was.1.amount, was.1.metadata, was.1.given, was.1.day, was.1.ordered, was.1.start,
      was.1.ends⟩, .of_unmarked⟩

/-- Saving a stream whose draft was accepted keeps the plans standing. -/
theorem saveStream_stand {draft : StreamDraft} {window : ProjectionWindow} {result : ℕ × Finance}
    (stand : PlansStand platform db.hasAccount db.hasStream db)
    (done : saveStream platform now draft window db = .ok result) :
    PlansStand platform result.2.hasAccount result.2.hasStream result.2 := by
  have applied : (FinanceOp.saveStream now draft window).apply platform db = .ok result.2 :=
    map_eq_ok.mpr ⟨result, done, rfl⟩
  have accounts := (operation_accountsStand applied).active
  simp only [saveStream, bind_eq_ok, pure_eq_ok] at done
  obtain ⟨_, checked, _, references, ⟨id, first⟩, row, ⟨retained, second⟩, saves, ⟨count, after⟩,
    refreshed, rfl⟩ := done
  obtain ⟨valid, scheduled⟩ := (validateStreamDraft_eq_ok now).mp checked
  obtain ⟨default, above, paid⟩ := requireReferences_eq_ok.mp references
  obtain ⟨stored, grows⟩ := saveStreamRow_stand stand valid default above row
  have saved := saveSchedules_stand draft.schedules stored scheduled paid saves
  -- Schedules that are dropped lose their mark, and the refresh writes events only.
  have dropped : PlansStand platform db.hasAccount db.hasStream
      (attachToDefaultView id (deactivateMissing now id retained second)) :=
    deactivateMissing_stand saved
  have events : after = { attachToDefaultView id (deactivateMissing now id retained second) with
      events := after.events } := (refreshStreamScheduleEventsOn_writes refreshed).2
  have rest : second = { first with schedules := second.schedules } :=
    (saveSchedules_evolves _ saves).2
  have streams : after.streams = first.streams := by
    rw [events, rest]
    rfl
  have moved : PlansStand platform db.hasAccount db.hasStream after := by
    rw [events]
    exact { streams := dropped.streams, schedules := dropped.schedules }
  refine moved.mono accounts fun parent held => ?_
  have there := grows parent held
  rwa [Finance.hasStream, ← streams] at there

/-- Deleting a stream that is no other one's parent keeps the plans standing. -/
theorem deleteStream_stand {streamId : ℕ}
    (stand : PlansStand platform db.hasAccount db.hasStream db)
    (keeps : (FinanceOp.deleteStream now streamId).KeepsParents db)
    (done : deleteStream now streamId db = .ok after) :
    PlansStand platform after.hasAccount after.hasStream after := by
  simp only [deleteStream, bind_eq_ok, pure_eq_ok] at done
  obtain ⟨_, -, rfl⟩ := done
  refine ⟨fun id stream there => ?_, ?_⟩
  · obtain ⟨old, was, rfl⟩ := Table.mem_updateWhere.mp there
    obtain ⟨valid, default, above⟩ := stand.streams id old was
    split
    · exact ⟨⟨valid.name, valid.streamType, valid.kind, valid.configuration⟩, .of_unmarked,
        .of_unmarked⟩
    · -- The parent of another active stream is not the one that is deleted.
      rename_i kept
      refine ⟨valid, default, fun active parent given => ?_⟩
      obtain ⟨row, stored, held⟩ := above active parent given
      refine Table.holder_updateWhere.mpr ⟨row, stored, ?_⟩
      split
      · rename_i deleted
        simp only [Bool.and_eq_true, beq_iff_eq] at deleted
        obtain rfl := keeps id old was active (deleted.1 ▸ given)
        simp [active] at kept
      · exact held
  · refine forall_updateWhere stand.schedules fun schedule was => ?_
    exact ⟨⟨was.1.amount, was.1.metadata, was.1.given, was.1.day, was.1.ordered, was.1.start,
      was.1.ends⟩, .of_unmarked⟩

/-! ### Bootstrap -/

/-- What seeding streams does to each of them, and to what a later seed finds. -/
theorem ensureSeedStreams_rows (now : String) (accountId : ℕ) {seeds : List StreamSeed}
    (distinct : seeds.Pairwise fun seed other : StreamSeed => seed.name ≠ other.name)
    (db : Finance) :
    (∀ id row, (id, row) ∈ (ensureSeedStreams now accountId seeds db).2.streams →
      (id, row) ∈ db.streams ∨ ∃ seed ∈ seeds, row = seed.stream now accountId ∨
        ∃ old, db.streams.find? (fun _ stream => stream.name == seed.name) = some (id, old) ∧
          row = seed.reset now accountId old) ∧
    (∀ id, db.hasStream id ∨ (∃ seed ∈ seeds, ∃ stream,
        db.streams.find? (fun _ stream => stream.name == seed.name) = some (id, stream)) →
      (ensureSeedStreams now accountId seeds db).2.hasStream id) := by
  induction seeds generalizing db with
  | nil =>
    refine ⟨fun id row there => Or.inl there, fun id known => known.resolve_right ?_⟩
    rintro ⟨seed, member, -⟩
    cases member
  | cons seed rest ih =>
    obtain ⟨away, distinct⟩ := List.pairwise_cons.mp distinct
    have active : ∀ row, Stream.isActive (seed.reset now accountId row) = true := fun _ => rfl
    -- A later seed finds what it would have found before the first one.
    have later : ∀ other ∈ rest, (seed.upsert now accountId db.streams).2.find?
          (fun _ stream => stream.name == other.name) =
        db.streams.find? fun _ stream => stream.name == other.name := by
      intro other member
      have apart := away other member
      refine db.streams.find?_upsert ?_ fun row named => ⟨?_, ?_⟩
      · exact beq_false_of_ne apart
      · rw [beq_iff_eq.mp named]
        exact beq_false_of_ne apart
      · exact beq_false_of_ne apart
    obtain ⟨rows, known⟩ := ih distinct
      { db with streams := (seed.upsert now accountId db.streams).2 }
    simp only [ensureSeedStreams, ensureSeedStreamOn_eq]
    refine ⟨fun id row there => ?_, fun id given => known id ?_⟩
    · rcases rows id row there with was | ⟨other, member, same | ⟨old, found, same⟩⟩
      · rcases Table.mem_upsert was with old | ⟨old, found, same⟩ | same
        · exact Or.inl old
        · exact Or.inr ⟨seed, List.mem_cons_self, Or.inr ⟨old, found, same⟩⟩
        · exact Or.inr ⟨seed, List.mem_cons_self, Or.inl same⟩
      · exact Or.inr ⟨other, List.mem_cons_of_mem _ member, Or.inl same⟩
      · rw [later other member] at found
        exact Or.inr ⟨other, List.mem_cons_of_mem _ member, Or.inr ⟨old, found, same⟩⟩
    · rcases given with held | ⟨other, member, stream, found⟩
      · exact Or.inl (Table.holder_upsert_of active held)
      · rcases List.mem_cons.mp member with rfl | member
        · exact Or.inl (Table.holder_upsert_found active found)
        · refine Or.inr ⟨other, member, stream, ?_⟩
          rw [← later other member] at found
          exact found

/-- The seeded streams have names, types and kinds. -/
theorem streamSeeds_named : ∀ seed ∈ streamSeeds, isBlank seed.name = false ∧
    isBlank seed.streamType = false ∧ isBlank seed.kind = false := by decide +kernel

/-- Seeding streams keeps the plans standing when what it revives has a good parent. -/
theorem ensureSeedStreams_stand {accountId : ℕ} {account : ℕ → Prop} (known : account accountId)
    (stand : PlansStand platform account db.hasStream db)
    (keeps : ∀ id stream, (id, stream) ∈ db.streams → db.Seeded id →
      ∀ parent ∈ stream.parentId, db.hasStream parent ∨ db.Seeded parent) :
    let after := (ensureSeedStreams now accountId streamSeeds db).2
    PlansStand platform account after.hasStream after := by
  obtain ⟨rows, active⟩ := ensureSeedStreams_rows now accountId streamSeeds_distinct db
  have schedules : (ensureSeedStreams now accountId streamSeeds db).2.schedules = db.schedules := by
    rw [ensureSeedStreams_frame]
  refine ⟨fun id row there => ?_, by rw [schedules]; exact stand.schedules⟩
  have default : ∀ other ∈ some accountId, account other := fun other same =>
    Option.some.inj same ▸ known
  rcases rows id row there with was | ⟨seed, member, rfl | ⟨old, found, rfl⟩⟩
  · obtain ⟨valid, attached, above⟩ := stand.streams id row was
    exact ⟨valid, attached, above.mono fun parent held => active parent (Or.inl held)⟩
  · -- A new stream has no parent.
    obtain ⟨name, streamType, kind⟩ := streamSeeds_named seed member
    exact ⟨⟨name, streamType, kind, rfl⟩, fun _ => default, fun _ parent given => by cases given⟩
  · -- A revived stream keeps its parent, which is active or revived as well.
    obtain ⟨name, streamType, kind⟩ := streamSeeds_named seed member
    have stored := (Table.find?_some found).1
    refine ⟨⟨name, streamType, kind, (stand.streams id old stored).1.configuration⟩,
      fun _ => default, fun _ parent given => active parent ?_⟩
    exact keeps id old stored ⟨seed, member, old, found⟩ parent given

/-- Seeding schedules for a known account keeps the plans standing. -/
theorem ensureSeedSchedules_stand {accountId : ℕ} {account parent : ℕ → Prop} {startDate : IsoDate}
    (known : account accountId) (dated : 0 ≤ startDate.year) (seeds : List MonthlySeed)
    (days : ∀ seed ∈ seeds, 1 ≤ seed.day ∧ seed.day ≤ 31)
    (stand : PlansStand platform account parent db) :
    PlansStand platform account parent
      (ensureSeedSchedules now startDate accountId seeds db) := by
  induction seeds generalizing db with
  | nil => exact stand
  | cons seed rest ih =>
    rw [ensureSeedSchedules, ensureSeedMonthlyScheduleOn_eq]
    refine ih (fun other member => days other (List.mem_cons_of_mem _ member))
      { stand with schedules := fun id row there => ?_ }
    have day := days seed List.mem_cons_self
    have inMonth : (some seed.day).all (fun day => 1 ≤ day && day ≤ 31) = true := by
      simpa using day
    have default : ∀ other ∈ some accountId, account other := fun other same =>
      Option.some.inj same ▸ known
    have free : magnitudeFits 0 = true := by decide +kernel
    rcases Table.mem_upsert there with was | ⟨old, found, rfl⟩ | rfl
    · exact stand.schedules id row was
    · -- Only the metadata of a schedule that is found stay.
      have valid := (stand.schedules id old (Table.find?_some found).1).1
      exact ⟨⟨free, valid.metadata, fun _ => rfl, inMonth, rfl, dated, rfl⟩, fun _ => default⟩
    · exact ⟨⟨free, rfl, fun _ => rfl, inMonth, rfl, dated, rfl⟩, fun _ => default⟩

/-- The days of the seeded schedules are days of a month. -/
theorem monthlySeeds_days (streamIds : List ℕ) :
    ∀ seed ∈ monthlySeeds streamIds, 1 ≤ seed.day ∧ seed.day ≤ 31 := by
  have days : ∀ seed ∈ scheduleSeeds, 1 ≤ seed.2 ∧ seed.2 ≤ 31 := by decide
  intro seed member
  obtain ⟨source, there, rfl⟩ := List.mem_map.mp member
  exact days source there

/-- Installing the defaults keeps the plans standing. -/
theorem seedDefaults_stand {today : IsoDate} (dated : 0 ≤ today.firstOfMonth.year)
    (stand : PlansStand platform db.hasAccount db.hasStream db)
    (keeps : (FinanceOp.bootstrapDefaults now today).KeepsParents db) :
    let after := (seedDefaults now today db).2
    PlansStand platform after.hasAccount after.hasStream after := by
  -- The account comes first, and is known to everything that is seeded after it.
  have frame := ensurePrimaryAccountOn_frame now db
  have primary := ensurePrimaryAccountOn_active now db
  have accounts := (ensurePrimaryAccountOn_stand now db).active
  generalize isFirst : ensurePrimaryAccountOn now db = first at *
  have sameStreams : first.2.streams = db.streams := by rw [frame]
  have sameSchedules : first.2.schedules = db.schedules := by rw [frame]
  have begun : PlansStand platform first.2.hasAccount first.2.hasStream first.2 := by
    have moved := stand.mono accounts fun parent held => held
    refine ⟨?_, ?_⟩
    · rw [sameStreams, Finance.hasStream, sameStreams]
      exact moved.streams
    · rw [sameSchedules]
      exact moved.schedules
  have seeded : PlansStand platform first.2.hasAccount
      (ensureSeedStreams now first.1 streamSeeds first.2).2.hasStream
      (ensureSeedStreams now first.1 streamSeeds first.2).2 := by
    refine ensureSeedStreams_stand primary begun ?_
    rw [sameStreams]
    simp only [Finance.Seeded, Finance.hasStream, sameStreams]
    exact keeps
  generalize isSecond : ensureSeedStreams now first.1 streamSeeds first.2 = second at *
  have scheduled : PlansStand platform first.2.hasAccount second.2.hasStream (ensureSeedSchedules
      now today.firstOfMonth first.1 (monthlySeeds second.1) second.2) :=
    ensureSeedSchedules_stand primary dated _ (monthlySeeds_days second.1) seeded
  have streams := ensureSeedSchedules_frame now today.firstOfMonth first.1
    (monthlySeeds second.1) second.2
  generalize isThird : ensureSeedSchedules now today.firstOfMonth first.1
    (monthlySeeds second.1) second.2 = third at *
  have thirdStreams : third.streams = second.2.streams := by rw [streams]
  -- Neither the views nor their members are part of what is attached.
  rw [seedDefaults_eq isFirst isSecond isThird rfl]
  have stored := scheduled.streams
  rw [thirdStreams] at stored
  exact ⟨stored, scheduled.schedules⟩

/-- A bootstrap keeps the plans standing when what it revives has a good parent. -/
theorem bootstrapDefaults_stand {today : IsoDate} {result : BootstrapResult × Finance}
    (stand : PlansStand platform db.hasAccount db.hasStream db)
    (keeps : (FinanceOp.bootstrapDefaults now today).KeepsParents db)
    (done : bootstrapDefaults now today db = .ok result) :
    PlansStand platform result.2.hasAccount result.2.hasStream result.2 := by
  rw [bootstrapDefaults_eq] at done
  simp only [bind_eq_ok, pure_eq_ok] at done
  obtain ⟨_, dated, through, -, window, -, after, refreshed, rfl⟩ := done
  simp only [checkDate, ensure_eq_ok, decide_eq_true_eq] at dated
  have seeded := seedDefaults_stand dated stand keeps
  have events : after = { (seedDefaults now today db).2 with events := after.events } :=
    (refreshStreams_writes _ refreshed).2
  generalize (seedDefaults now today db).2 = installed at *
  rw [events]
  exact { streams := seeded.streams, schedules := seeded.schedules }

/-! ### Every operation -/

/-- Whether an operation writes streams or schedules. -/
def FinanceOp.writesPlans : FinanceOp → Bool
  | .saveStream .. | .deleteStream .. | .bootstrapDefaults .. => true
  | _ => false

/-- Other operations touch neither streams nor schedules. -/
theorem operation_plans {op : FinanceOp} (done : op.apply platform db = .ok after)
    (writes : op.writesPlans = false) :
    after.streams = db.streams ∧ after.schedules = db.schedules := by
  cases only : op.onlyEvents with
  | true =>
    rw [FinanceOp.onlyEvents_frame done only]
    exact ⟨rfl, rfl⟩
  | false =>
    cases op with
    -- These are the operations that write streams or schedules.
    | saveStream | deleteStream | bootstrapDefaults => cases writes
    | saveAccount now draft =>
      obtain ⟨result, saved, rfl⟩ := map_eq_ok.mp done
      rw [saveAccount_frame saved]
      exact ⟨rfl, rfl⟩
    | ensurePrimaryAccount now =>
      cases done
      rw [ensurePrimaryAccountOn_frame]
      exact ⟨rfl, rfl⟩
    | setStartingBalance =>
      rw [setStartingBalance_frame done]
      exact ⟨rfl, rfl⟩
    | saveView now draft =>
      obtain ⟨result, saved, rfl⟩ := map_eq_ok.mp done
      rw [saveView_frame saved]
      exact ⟨rfl, rfl⟩
    | _ => cases only

/-- Every operation that leaves active streams with active parents keeps the plans standing. -/
theorem operation_plansStand {op : FinanceOp}
    (stand : PlansStand platform db.hasAccount db.hasStream db) (keeps : op.KeepsParents db)
    (done : op.apply platform db = .ok after) :
    PlansStand platform after.hasAccount after.hasStream after := by
  cases writes : op.writesPlans with
  | false =>
    -- Accounts that were active are active, and nothing else has changed.
    obtain ⟨streams, schedules⟩ := operation_plans done writes
    have moved := stand.mono (operation_accountsStand done).active fun parent held => held
    refine ⟨?_, ?_⟩
    · rw [Finance.hasStream, streams]
      exact moved.streams
    · rw [schedules]
      exact moved.schedules
  | true =>
    cases op with
    | saveStream now draft window =>
      obtain ⟨result, saved, rfl⟩ := map_eq_ok.mp done
      exact saveStream_stand stand saved
    | deleteStream now streamId => exact deleteStream_stand stand keeps done
    | bootstrapDefaults now today =>
      obtain ⟨result, booted, rfl⟩ := map_eq_ok.mp done
      exact bootstrapDefaults_stand stand keeps booted
    | _ => cases writes

/-- Operations that leave active streams with active parents keep all rows valid and attached. -/
theorem operation_attached {op : FinanceOp} (valid : db.Valid platform) (attached : db.Attached)
    (keeps : op.KeepsParents db) (done : op.apply platform db = .ok after) :
    after.Valid platform ∧ after.Attached := by
  have stand := plansStand_iff.mpr ⟨valid.streams, valid.schedules, attached⟩
  obtain ⟨streams, schedules, attached⟩ := plansStand_iff.mp (operation_plansStand stand keeps done)
  exact ⟨⟨(operation_accountsStand done).valid valid.accounts, streams, schedules,
    operation_views_valid done valid.views⟩, attached⟩

end FinStream
