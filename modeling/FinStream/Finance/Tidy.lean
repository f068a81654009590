import FinStream.Finance.Operation

/-! Stored rows are tidy: their texts are trimmed, and one account is primary and one view default. -/

namespace FinStream

open Store

/-- An account is active, its texts are trimmed, and only a balance has a source. -/
structure Account.Tidy (account : Account) : Prop where
  active : account.isActive = true
  unset : account.balance = none → account.sourceType = none ∧ account.balanceUpdatedAt = none
  kind : trim account.kind = account.kind
  notes : cleanOptional account.notes = account.notes

/-- The texts of a stream are trimmed. -/
structure Stream.Tidy (stream : Stream) : Prop where
  streamType : trim stream.streamType = stream.streamType
  kind : trim stream.kind = stream.kind
  description : cleanOptional stream.description = stream.description

/-- The label of a schedule is trimmed, and a monthly one has a day. -/
structure StreamSchedule.Tidy (schedule : StreamSchedule) : Prop where
  label : cleanOptional schedule.label = schedule.label
  day : schedule.frequency = .monthly → schedule.dayOfMonth.isSome = true

/-- The description of a view is trimmed. -/
def StreamView.Tidy (view : StreamView) : Prop := cleanOptional view.description = view.description

/-- At most one row of a table has a flag. -/
def Flagged {α : Type} (flag : α → Bool) (table : Table α) : Prop :=
  ∀ left leftRow right rightRow, (left, leftRow) ∈ table → (right, rightRow) ∈ table →
    flag leftRow = true → flag rightRow = true → left = right

/-- What every operation keeps about the rows of the finance tables. -/
structure Finance.Tidy (db : Finance) : Prop where
  accounts : ∀ id account, (id, account) ∈ db.accounts → account.Tidy
  primary : Flagged Account.isPrimary db.accounts
  streams : ∀ id stream, (id, stream) ∈ db.streams → stream.Tidy
  schedules : ∀ id schedule, (id, schedule) ∈ db.schedules → schedule.Tidy
  views : ∀ id view, (id, view) ∈ db.views → view.Tidy
  default : Flagged StreamView.isDefault db.views

section Tables

variable {α : Type} {table : Table α} {property : α → Prop} {flag : α → Bool}

/-- An update that keeps a property of rows keeps it for the table. -/
theorem forall_updateWhere (holds : ∀ id row, (id, row) ∈ table → property row)
    {condition : ℕ → α → Bool} {change : α → α}
    (kept : ∀ row, property row → property (change row)) :
    ∀ id row, (id, row) ∈ table.updateWhere condition change → property row := by
  intro id row there
  obtain ⟨old, was, rfl⟩ := Table.mem_updateWhere.mp there
  split
  · exact kept old (holds id old was)
  · exact holds id old was

/-- An insertion of a row with a property keeps it for the table. -/
theorem forall_insert (holds : ∀ id row, (id, row) ∈ table → property row) {fresh : α}
    (has : property fresh) : ∀ id row, (id, row) ∈ table.insert fresh → property row := by
  intro id row there
  rcases Table.mem_insert.mp there with old | new
  · exact holds id row old
  · cases new
    exact has

/-- An update that flags no row keeps the flag unique. -/
theorem Flagged.updateWhere (unique : Flagged flag table) {condition : ℕ → α → Bool}
    {change : α → α} (lowers : ∀ id row, (id, row) ∈ table → condition id row = true →
      flag (change row) = true → flag row = true) :
    Flagged flag (table.updateWhere condition change) := by
  have back : ∀ id row, (id, row) ∈ table.updateWhere condition change → flag row = true →
      ∃ old, (id, old) ∈ table ∧ flag old = true := by
    intro id row there flagged
    obtain ⟨old, was, rfl⟩ := Table.mem_updateWhere.mp there
    refine ⟨old, was, ?_⟩
    split at flagged
    · exact lowers id old was ‹_› flagged
    · exact flagged
  intro left leftRow right rightRow leftThere rightThere leftFlag rightFlag
  obtain ⟨_, leftWas, leftWasFlag⟩ := back left leftRow leftThere leftFlag
  obtain ⟨_, rightWas, rightWasFlag⟩ := back right rightRow rightThere rightFlag
  exact unique _ _ _ _ leftWas rightWas leftWasFlag rightWasFlag

/-- An update of one row keeps the flag unique if no other row has it. -/
theorem Flagged.updateOne {keep : ℕ} (free : ∀ id row, (id, row) ∈ table → flag row = true →
      id = keep) {condition : ℕ → α → Bool} (only : ∀ id row, condition id row = true → id = keep)
    {change : α → α} : Flagged flag (table.updateWhere condition change) := by
  have here : ∀ id row, (id, row) ∈ table.updateWhere condition change → flag row = true →
      id = keep := by
    intro id row there flagged
    obtain ⟨old, was, rfl⟩ := Table.mem_updateWhere.mp there
    split at flagged
    · exact only id old ‹_›
    · exact free id old was flagged
  intro left leftRow right rightRow leftThere rightThere leftFlag rightFlag
  rw [here left leftRow leftThere leftFlag, here right rightRow rightThere rightFlag]

/-- An insertion keeps the flag unique if the new row is the first one to have it. -/
theorem Flagged.insert (unique : Flagged flag table) {fresh : α}
    (first : flag fresh = true → ∀ id row, (id, row) ∈ table → flag row = false) :
    Flagged flag (table.insert fresh) := by
  intro left leftRow right rightRow leftThere rightThere leftFlag rightFlag
  rcases Table.mem_insert.mp leftThere with leftOld | leftNew <;>
    rcases Table.mem_insert.mp rightThere with rightOld | rightNew
  · exact unique _ _ _ _ leftOld rightOld leftFlag rightFlag
  · cases rightNew
    rw [first rightFlag left leftRow leftOld] at leftFlag
    cases leftFlag
  · cases leftNew
    rw [first leftFlag right rightRow rightOld] at rightFlag
    cases rightFlag
  · cases leftNew
    cases rightNew
    rfl

end Tables

variable {platform : Platform} {now : String} {db after : Finance}

/-! ### Accounts -/

/-- After the primary flag is cleared, only the account that is kept may have it. -/
theorem clearPrimary_keeps {keep : Option ℕ} {accounts : Table Account} {id : ℕ}
    {account : Account} (there : (id, account) ∈ clearPrimary now keep accounts)
    (primary : account.isPrimary = true) : keep = some id := by
  obtain ⟨old, -, rfl⟩ := Table.mem_updateWhere.mp there
  split at primary
  · cases primary
  · rename_i spared
    simp only [Bool.and_eq_true, bne_iff_ne, not_and, not_not] at spared
    exact spared primary

/-- Saving an account keeps the tables tidy. -/
theorem saveAccount_tidy {draft : AccountDraft} {result : ℕ × Finance} (tidy : db.Tidy)
    (done : saveAccount now draft db = .ok result) : result.2.Tidy := by
  have frame := saveAccount_frame done
  simp only [saveAccount, bind_eq_ok] at done
  obtain ⟨_, -, _, -, _, -, _, refused, _, -, _, -, done⟩ := done
  -- Clearing the primary flag first leaves tidy accounts, one of them primary at most.
  have cleared : ∀ id account, (id, account) ∈ (if draft.isPrimary then
      clearPrimary now draft.id db.accounts else db.accounts) → account.Tidy := by
    split
    · exact forall_updateWhere tidy.accounts fun account tidy =>
        ⟨tidy.active, tidy.unset, tidy.kind, tidy.notes⟩
    · exact tidy.accounts
  have unique : Flagged Account.isPrimary (if draft.isPrimary then
      clearPrimary now draft.id db.accounts else db.accounts) := by
    split
    · exact tidy.primary.updateWhere fun _ _ _ _ raised => by cases raised
    · exact tidy.primary
  have free : draft.isPrimary = true → ∀ id account, (id, account) ∈ (if draft.isPrimary then
      clearPrimary now draft.id db.accounts else db.accounts) → account.isPrimary = true →
      draft.id = some id := by
    intro primary id account there
    rw [if_pos primary] at there
    exact clearPrimary_keeps there
  generalize (if draft.isPrimary then clearPrimary now draft.id db.accounts else db.accounts) =
    accounts at *
  split at done
  · rename_i id named
    simp only [bind_eq_ok, pure_eq_ok] at done
    obtain ⟨_, -, rfl⟩ := done
    refine { tidy with accounts := ?_, primary := ?_ }
    · refine forall_updateWhere cleared fun account tidy => ⟨tidy.active, fun unset => ?_, ?_, ?_⟩
      · have none_ : draft.balance.map F64.value = none := unset
        simp [Account.replacedBy, none_]
      · exact trim_trim _
      · exact cleanOptional_cleanOptional _
    · cases primary : draft.isPrimary with
      | true =>
        refine Flagged.updateOne (fun other account there flagged => (?_ : other = id))
          fun other account same => ?_
        · have := free primary other account there flagged
          rw [named, Option.some.injEq] at this
          exact this.symm
        · simp only [Bool.and_eq_true, beq_iff_eq] at same
          exact same.1
      | false =>
        refine unique.updateWhere fun _ _ _ _ raised => ?_
        rw [Account.replacedBy, primary] at raised
        cases raised
  · rename_i unnamed
    simp only [pure_eq_ok] at done
    subst done
    refine { tidy with accounts := ?_, primary := ?_ }
    · refine forall_insert cleared ⟨rfl, fun unset => ?_, trim_trim _,
        cleanOptional_cleanOptional _⟩
      have none_ : draft.balance = none := Option.map_eq_none_iff.mp unset
      simp [AccountDraft.row, none_]
    · refine unique.insert fun primary id account there => ?_
      cases flagged : account.isPrimary with
      | false => rfl
      | true =>
        have := free primary id account there flagged
        rw [unnamed] at this
        cases this

/-- Finding or creating the primary account keeps the tables tidy. -/
theorem ensurePrimaryAccountOn_tidy (tidy : db.Tidy) : (ensurePrimaryAccountOn now db).2.Tidy := by
  unfold ensurePrimaryAccountOn
  split
  · exact tidy
  · rename_i none_
    refine { tidy with accounts := ?_, primary := ?_ }
    · refine forall_insert tidy.accounts ⟨rfl, fun _ => ⟨rfl, rfl⟩, ?_, rfl⟩
      have trimmed : trim "cash" = "cash" := by decide +kernel
      exact trimmed
    · refine tidy.primary.insert fun _ id account there => ?_
      have := Table.find?_none none_ there
      rw [(tidy.accounts id account there).active, Bool.and_true] at this
      exact this

/-- Recording a balance on the primary account keeps the tables tidy. -/
theorem balance_tidy (tidy : db.Tidy) {condition : ℕ → Account → Bool}
    {change : Account → Account} (kept : ∀ account, (change account).isActive = account.isActive ∧
      (change account).balance.isSome = true ∧ (change account).kind = account.kind ∧
      (change account).notes = account.notes ∧ (change account).isPrimary = account.isPrimary) :
    Finance.Tidy { db with accounts := db.accounts.updateWhere condition change } := by
  refine { tidy with accounts := ?_, primary := ?_ }
  · refine forall_updateWhere tidy.accounts fun account tidy => ?_
    obtain ⟨active, set, kind, notes, -⟩ := kept account
    refine ⟨active.trans tidy.active, fun unset => ?_, by rw [kind, tidy.kind], by
      rw [notes, tidy.notes]⟩
    rw [unset] at set
    cases set
  · refine tidy.primary.updateWhere fun _ account _ _ raised => ?_
    rw [← (kept account).2.2.2.2]
    exact raised

/-- Setting the starting balance keeps the tables tidy. -/
theorem setStartingBalance_tidy {amount : F64} {asOfDate : IsoDate} {sourceType : String}
    {sourceRef metadata : Option String} (tidy : db.Tidy)
    (done : setStartingBalance platform now amount asOfDate sourceType sourceRef metadata db =
      .ok after) : after.Tidy := by
  simp only [setStartingBalance, bind_eq_ok, pure_eq_ok] at done
  obtain ⟨_, -, _, -, _, -, _, -, _, -, _, -, rfl⟩ := done
  exact balance_tidy (ensurePrimaryAccountOn_tidy tidy) fun _ =>
    ⟨rfl, rfl, rfl, rfl, rfl⟩

/-! ### Streams -/

/-- A refresh keeps the tables tidy. -/
theorem refresh_tidy {streamId : ℕ} {streamName : String} {window : ProjectionWindow}
    {result : ℕ × Finance} (tidy : db.Tidy)
    (done : refreshStreamScheduleEventsOn now streamId streamName window db = .ok result) :
    result.2.Tidy := by
  rw [(refreshStreamScheduleEventsOn_writes done).2]
  exact { tidy with }

/-- Saving the row of a stream keeps the tables tidy. -/
theorem saveStreamRow_tidy {draft : StreamDraft} {result : ℕ × Finance} (tidy : db.Tidy)
    (done : saveStreamRow now draft db = .ok result) : result.2.Tidy := by
  have row : (draft.row now).Tidy := ⟨trim_trim _, trim_trim _, cleanOptional_cleanOptional _⟩
  unfold saveStreamRow at done
  split at done
  · simp only [bind_eq_ok, pure_eq_ok] at done
    obtain ⟨_, -, rfl⟩ := done
    exact { tidy with streams := forall_updateWhere tidy.streams fun _ _ => row }
  · simp only [pure_eq_ok] at done
    subst done
    exact { tidy with streams := forall_insert tidy.streams row }

/-- Saving a schedule keeps the tables tidy. -/
theorem saveScheduleOn_tidy {streamId : ℕ} {schedule : ScheduleDraft} {result : ℕ × Finance}
    (tidy : db.Tidy) (day : schedule.frequency = .monthly → schedule.dayOfMonth.isSome = true)
    (done : saveScheduleOn now streamId schedule db = .ok result) : result.2.Tidy := by
  have row : (schedule.row now streamId).Tidy := ⟨cleanOptional_cleanOptional _, day⟩
  simp only [saveScheduleOn, bind_eq_ok] at done
  obtain ⟨_, -, _, -, _, -, done⟩ := done
  split at done
  · simp only [bind_eq_ok, pure_eq_ok] at done
    obtain ⟨_, -, rfl⟩ := done
    exact { tidy with schedules := forall_updateWhere tidy.schedules fun _ _ => row }
  · simp only [pure_eq_ok] at done
    subst done
    exact { tidy with schedules := forall_insert tidy.schedules row }

/-- Saving the schedules of a draft keeps the tables tidy. -/
theorem saveSchedules_tidy {streamId : ℕ} (pending : List ScheduleDraft) {retained : List ℕ}
    {result : List ℕ × Finance} (tidy : db.Tidy) (days : ∀ schedule ∈ pending,
      schedule.frequency = .monthly → schedule.dayOfMonth.isSome = true)
    (done : saveSchedules now streamId pending retained db = .ok result) : result.2.Tidy := by
  induction pending generalizing retained db with
  | nil =>
    simp only [saveSchedules, pure_eq_ok] at done
    subst done
    exact tidy
  | cons schedule rest ih =>
    simp only [saveSchedules, bind_eq_ok] at done
    obtain ⟨⟨id, saved⟩, one, _, -, others⟩ := done
    exact ih (saveScheduleOn_tidy tidy (days schedule List.mem_cons_self) one)
      (fun other member => days other (List.mem_cons_of_mem _ member)) others

/-- The monthly schedules of an accepted draft have a day. -/
theorem validateStreamDraft_days {draft : StreamDraft} {done : Unit}
    (valid : validateStreamDraft platform draft = .ok done) : ∀ schedule ∈ draft.schedules,
      schedule.frequency = .monthly → schedule.dayOfMonth.isSome = true := by
  simp only [validateStreamDraft, bind_eq_ok] at valid
  obtain ⟨_, -, _, -, _, -, _, -, checked⟩ := valid
  intro schedule member monthly
  have one := forM_eq_ok checked schedule member
  simp only [validateScheduleDraft, bind_eq_ok, ensure_eq_ok] at one
  obtain ⟨_, -, _, -, _, day, -⟩ := one
  cases has : schedule.dayOfMonth with
  | some => rfl
  | none => simp [monthly, has] at day

/-- Saving a stream keeps the tables tidy. -/
theorem saveStream_tidy {draft : StreamDraft} {window : ProjectionWindow} {result : ℕ × Finance}
    (tidy : db.Tidy) (done : saveStream platform now draft window db = .ok result) :
    result.2.Tidy := by
  obtain ⟨first, retained, second, steps⟩ := saveStream_steps done
  obtain ⟨count, refreshed⟩ := steps.refreshed
  have stored : Finance.Tidy second := saveSchedules_tidy _ (saveStreamRow_tidy tidy steps.row)
    (validateStreamDraft_days steps.valid) steps.saves
  have deactivated : Finance.Tidy (deactivateMissing now result.1 retained second) :=
    { stored with
      schedules := forall_updateWhere stored.schedules fun _ tidy => ⟨tidy.label, tidy.day⟩ }
  have attached : Finance.Tidy
      (attachToDefaultView result.1 (deactivateMissing now result.1 retained second)) :=
    { deactivated with }
  have after : Finance.Tidy (count, result.2).2 := refresh_tidy attached refreshed
  exact after

/-- Deleting a stream keeps the tables tidy. -/
theorem deleteStream_tidy {streamId : ℕ} (tidy : db.Tidy)
    (done : deleteStream now streamId db = .ok after) : after.Tidy := by
  simp only [deleteStream, bind_eq_ok, pure_eq_ok] at done
  obtain ⟨_, -, rfl⟩ := done
  exact { tidy with
    streams := forall_updateWhere tidy.streams fun _ tidy =>
      ⟨tidy.streamType, tidy.kind, tidy.description⟩
    schedules := forall_updateWhere tidy.schedules fun _ tidy => ⟨tidy.label, tidy.day⟩ }

/-! ### Views -/

/-- After the default flag is cleared, only the view that is kept may have it. -/
theorem clearDefault_keeps {keep : Option ℕ} {views : Table StreamView} {id : ℕ}
    {view : StreamView} (there : (id, view) ∈ clearDefault now keep views)
    (default : view.isDefault = true) : keep = some id := by
  obtain ⟨old, -, rfl⟩ := Table.mem_updateWhere.mp there
  split at default
  · cases default
  · rename_i spared
    simp only [Bool.and_eq_true, bne_iff_ne, not_and, not_not] at spared
    exact spared default

/-- Saving a view keeps the tables tidy. -/
theorem saveView_tidy {draft : StreamViewDraft} {result : ℕ × Finance} (tidy : db.Tidy)
    (done : saveView now draft db = .ok result) : result.2.Tidy := by
  simp only [saveView, bind_eq_ok, pure_eq_ok] at done
  obtain ⟨_, -, _, -, _, -, ⟨viewId, views⟩, saved, rfl⟩ := done
  have row : (draft.row now).Tidy := cleanOptional_cleanOptional _
  -- Clearing the default flag first leaves tidy views, one of them default at most.
  have cleared : ∀ id view, (id, view) ∈ (if draft.isDefault then
      clearDefault now draft.id db.views else db.views) → view.Tidy := by
    split
    · exact forall_updateWhere tidy.views fun _ tidy => tidy
    · exact tidy.views
  have unique : Flagged StreamView.isDefault (if draft.isDefault then
      clearDefault now draft.id db.views else db.views) := by
    split
    · exact tidy.default.updateWhere fun _ _ _ _ raised => by cases raised
    · exact tidy.default
  have free : draft.isDefault = true → ∀ id view, (id, view) ∈ (if draft.isDefault then
      clearDefault now draft.id db.views else db.views) → view.isDefault = true →
      draft.id = some id := by
    intro default id view there
    rw [if_pos default] at there
    exact clearDefault_keeps there
  generalize (if draft.isDefault then clearDefault now draft.id db.views else db.views) =
    remaining at *
  unfold saveViewRow at saved
  split at saved
  · rename_i id named
    simp only [bind_eq_ok, pure_eq_ok] at saved
    obtain ⟨_, -, same⟩ := saved
    cases same
    refine { tidy with views := forall_updateWhere cleared fun _ _ => row, default := ?_ }
    cases default : draft.isDefault with
    | true =>
      refine Flagged.updateOne (fun other view there flagged => (?_ : other = viewId))
        fun other view same => ?_
      · have := free default other view there flagged
        rw [named, Option.some.injEq] at this
        exact this.symm
      · simp only [Bool.and_eq_true, beq_iff_eq] at same
        exact same.1
    | false =>
      refine unique.updateWhere fun _ _ _ _ raised => ?_
      rw [StreamViewDraft.row, default] at raised
      cases raised
  · rename_i unnamed
    simp only [pure_eq_ok] at saved
    cases saved
    refine { tidy with views := forall_insert cleared row, default := ?_ }
    refine unique.insert fun default id view there => ?_
    cases flagged : view.isDefault with
    | false => rfl
    | true =>
      have := free default id view there flagged
      rw [unnamed] at this
      cases this

/-! ### Bootstrap -/

/-- The texts of a seeded stream are trimmed. -/
structure StreamSeed.Tidy (seed : StreamSeed) : Prop where
  streamType : trim seed.streamType = seed.streamType
  kind : trim seed.kind = seed.kind
  description : cleanOptional (some seed.description) = some seed.description

/-- The seeds have trimmed texts. -/
theorem streamSeeds_tidy : ∀ seed ∈ streamSeeds, seed.Tidy := by
  have all : ∀ seed ∈ streamSeeds, trim seed.streamType = seed.streamType ∧
      trim seed.kind = seed.kind ∧
      cleanOptional (some seed.description) = some seed.description := by decide +kernel
  exact fun seed member => ⟨(all seed member).1, (all seed member).2.1, (all seed member).2.2⟩

/-- Seeding streams keeps the tables tidy. -/
theorem ensureSeedStreams_tidy {accountId : ℕ} (seeds : List StreamSeed)
    (seeded : ∀ seed ∈ seeds, seed.Tidy) (tidy : db.Tidy) :
    (ensureSeedStreams now accountId seeds db).2.Tidy := by
  induction seeds generalizing db with
  | nil => exact tidy
  | cons seed rest ih =>
    have row := seeded seed List.mem_cons_self
    simp only [ensureSeedStreams]
    refine ih (fun other member => seeded other (List.mem_cons_of_mem _ member)) ?_
    unfold ensureSeedStreamOn
    split
    · refine { tidy with streams := forall_updateWhere tidy.streams fun _ _ => ?_ }
      exact ⟨row.streamType, row.kind, row.description⟩
    · refine { tidy with streams := forall_insert tidy.streams ?_ }
      exact ⟨row.streamType, row.kind, row.description⟩

/-- Seeding a schedule keeps the tables tidy. -/
theorem ensureSeedMonthlyScheduleOn_tidy {streamId day accountId : ℕ} {streamName : String}
    {startDate : IsoDate} (tidy : db.Tidy)
    (label : cleanOptional (some s!"{streamName} due") = some s!"{streamName} due") :
    (ensureSeedMonthlyScheduleOn now streamId streamName day startDate accountId db).Tidy := by
  unfold ensureSeedMonthlyScheduleOn
  split
  · refine { tidy with schedules := forall_updateWhere tidy.schedules fun _ _ => ?_ }
    exact ⟨label, fun _ => rfl⟩
  · refine { tidy with schedules := forall_insert tidy.schedules ?_ }
    exact ⟨label, fun _ => rfl⟩

/-- Making a view the default keeps the tables tidy. -/
theorem ensureDefaultViewOn_tidy (tidy : db.Tidy) : (ensureDefaultViewOn now db).2.Tidy := by
  have row : (allStreamsView now).Tidy := by
    have trimmed : cleanOptional (some "Merged view across every active stream.") =
      some "Merged view across every active stream." := by decide +kernel
    exact trimmed
  unfold ensureDefaultViewOn
  split
  · rename_i id candidate
    refine { tidy with views := ?_, default := ?_ }
    · refine forall_updateWhere (forall_updateWhere tidy.views ?_) fun _ _ => row
      exact fun _ tidy => tidy
    · -- Every flag but the candidate's is cleared before the candidate's is set.
      refine Flagged.updateOne (fun other view there flagged => (?_ : other = id))
        fun other view same => by simpa using same
      obtain ⟨old, -, rfl⟩ := Table.mem_updateWhere.mp there
      split at flagged
      · cases flagged
      · rename_i spared
        simpa [flagged] using spared
  · rename_i none_
    refine { tidy with views := forall_insert tidy.views row, default := ?_ }
    refine tidy.default.insert fun _ id view there => ?_
    simp only [defaultViewCandidate, Option.map_eq_none_iff, Option.or_eq_none_iff] at none_
    exact Table.find?_none none_.1 there

/-- Refreshing several streams keeps the tables tidy. -/
theorem refreshStreams_tidy {window : ProjectionWindow} (streamIds : List ℕ) (tidy : db.Tidy)
    (done : refreshStreams now window streamIds db = .ok after) : after.Tidy := by
  rw [(refreshStreams_writes streamIds done).2]
  exact { tidy with }

/-- The bootstrap keeps the tables tidy. -/
theorem bootstrapDefaults_tidy {today : IsoDate} {result : BootstrapResult × Finance}
    (tidy : db.Tidy) (done : bootstrapDefaults now today db = .ok result) : result.2.Tidy := by
  simp only [bootstrapDefaults, bind_eq_ok, pure_eq_ok] at done
  obtain ⟨_, -, through, -, window, -, saved, refreshed, rfl⟩ := done
  have labels : ∀ seed ∈ scheduleSeeds, let name := (streamSeeds.map (·.name)).getD seed.1 ""
      cleanOptional (some s!"{name} due") = some s!"{name} due" := by decide +kernel
  have schedules : ∀ seeds ⊆ scheduleSeeds, ∀ first : Finance, first.Tidy →
      ∀ (streamIds : List ℕ) (accountId : ℕ), (seeds.foldl (fun db seed =>
        ensureSeedMonthlyScheduleOn now (streamIds.getD seed.1 0)
          ((streamSeeds.map (·.name)).getD seed.1 "") seed.2 today.firstOfMonth accountId db)
        first).Tidy := by
    intro seeds
    induction seeds with
    | nil => exact fun _ _ tidy _ _ => tidy
    | cons seed rest ih =>
      intro inside first tidy streamIds accountId
      have one := labels seed (inside List.mem_cons_self)
      exact ih (fun _ member => inside (List.mem_cons_of_mem _ member)) _
        (ensureSeedMonthlyScheduleOn_tidy tidy one) streamIds accountId
  -- Each part of the bootstrap starts from what the parts before it left.
  have account : Finance.Tidy (ensurePrimaryAccountOn now db).2 := ensurePrimaryAccountOn_tidy tidy
  generalize (ensurePrimaryAccountOn now db).1 = accountId at *
  generalize (ensurePrimaryAccountOn now db).2 = first at *
  have streams : Finance.Tidy (ensureSeedStreams now accountId streamSeeds first).2 :=
    ensureSeedStreams_tidy streamSeeds streamSeeds_tidy account
  generalize (ensureSeedStreams now accountId streamSeeds first).1 = streamIds at *
  generalize (ensureSeedStreams now accountId streamSeeds first).2 = second at *
  have seeded := schedules scheduleSeeds (fun _ => id) second streams streamIds accountId
  generalize scheduleSeeds.foldl (fun db seed => ensureSeedMonthlyScheduleOn now
    (streamIds.getD seed.1 0) ((streamSeeds.map (·.name)).getD seed.1 "") seed.2
    today.firstOfMonth accountId db) second = third at *
  have views : Finance.Tidy (ensureDefaultViewOn now third).2 := ensureDefaultViewOn_tidy seeded
  refine refreshStreams_tidy _ ?_ refreshed
  exact { views with }

/-- Every operation keeps the tables tidy. -/
theorem operation_tidy {op : FinanceOp} (tidy : db.Tidy) (done : op.apply platform db = .ok after) :
    after.Tidy := by
  cases only : op.onlyEvents with
  | true =>
    -- No event has to be tidy.
    rw [FinanceOp.onlyEvents_frame done only]
    exact { tidy with }
  | false =>
    cases op with
    | saveAccount now draft =>
      obtain ⟨result, saved, rfl⟩ := map_eq_ok.mp done
      exact saveAccount_tidy tidy saved
    | ensurePrimaryAccount now =>
      cases done
      exact ensurePrimaryAccountOn_tidy tidy
    | setStartingBalance => exact setStartingBalance_tidy tidy done
    | saveStream now draft window =>
      obtain ⟨result, saved, rfl⟩ := map_eq_ok.mp done
      exact saveStream_tidy tidy saved
    | deleteStream => exact deleteStream_tidy tidy done
    | saveView now draft =>
      obtain ⟨result, saved, rfl⟩ := map_eq_ok.mp done
      exact saveView_tidy tidy saved
    | bootstrapDefaults now today =>
      obtain ⟨result, created, rfl⟩ := map_eq_ok.mp done
      exact bootstrapDefaults_tidy tidy created
    | _ => cases only

end FinStream
