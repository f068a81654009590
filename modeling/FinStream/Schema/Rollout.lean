import FinStream.Schema.Ledger
import FinStream.Store.Transition

/-! Migrating a database: any number of processes of any release, in any order, stopped at will. -/

namespace FinStream.Schema

open Store

/-- How far a process has got with the migrations of its program. -/
inductive Phase where
  /-- There is no process, or it was stopped. -/
  | stopped
  /-- It has been through a number of migrations. -/
  | applying (done : ℕ)
  /-- It has been through all of them, and serves requests. -/
  | migrated
  /-- It refused to start. -/
  | failed (error : String)

/-- A database and the processes that open it. -/
structure Deployment (σ : Type) where
  database : Database σ
  processes : ℕ → Phase

/-- What can happen next. -/
inductive RolloutInput where
  | start (process : ℕ)
  | apply (process : ℕ)
  | stop (process : ℕ)

variable {σ : Type}

/-- Sets the phase of a process. -/
def Deployment.withPhase (deployment : Deployment σ) (process : ℕ) (phase : Phase) : Deployment σ :=
  { deployment with processes := Function.update deployment.processes process phase }

/-- The next step of `migrate` of a process that has been through some migrations. -/
def Deployment.applyNext (platform : SchemaPlatform σ) (program : List Migration)
    (deployment : Deployment σ) (process done : ℕ) : Deployment σ :=
  match program[done]? with
  | none => deployment.withPhase process .migrated
  | some migration =>
    match applyMigration platform migration deployment.database with
    | (.ok _, after) =>
      { deployment with database := after }.withPhase process (.applying (done + 1))
    | (.error error, after) =>
      { deployment with database := after }.withPhase process (.failed error)

/-- A deployment after an input; each process runs its own program. -/
def Deployment.step (platform : SchemaPlatform σ) (program : ℕ → List Migration)
    (deployment : Deployment σ) : RolloutInput → Deployment σ
  | .start process =>
    { deployment with database := ensureMigrationTable deployment.database }.withPhase process
      (.applying 0)
  | .apply process =>
    match deployment.processes process with
    | .applying done => deployment.applyNext platform (program process) process done
    | _ => deployment
  | .stop process => deployment.withPhase process .stopped

/-- A database that nothing was done to. -/
def Database.fresh (tables : σ) : Database σ := ⟨none, tables⟩

/-- Deployments that start from given databases. -/
def rollout (platform : SchemaPlatform σ) (program : ℕ → List Migration)
    (start : Database σ → Prop) : System (Deployment σ) RolloutInput where
  init deployment :=
    start deployment.database ∧ ∀ process, deployment.processes process = .stopped
  step input before after := after = before.step platform program input

/-- Inputs one after the other lead to a deployment that can be reached. -/
theorem rollout_foldl {platform : SchemaPlatform σ} {program : ℕ → List Migration}
    {start : Database σ → Prop} (inputs : List RolloutInput) :
    ∀ {deployment : Deployment σ}, (rollout platform program start).Reachable deployment →
      (rollout platform program start).Reachable
        (inputs.foldl (Deployment.step platform program) deployment) := by
  induction inputs with
  | nil => exact fun reached => reached
  | cons input rest ih =>
    intro deployment reached
    have taken : (rollout platform program start).step input deployment
        (deployment.step platform program input) := rfl
    exact ih (reached.step taken)

/-! ### Databases that a number of migrations were applied to -/

/-- The tables that scripts one after the other make. -/
def replay (platform : SchemaPlatform σ) (scripts : List Migration) (tables : σ) : Option σ :=
  scripts.foldlM (fun tables migration => platform.execute migration.sql tables) tables

/-- One more script is run on what the others made. -/
theorem replay_append {platform : SchemaPlatform σ} {scripts : List Migration} {initial tables : σ}
    (made : replay platform scripts initial = some tables) (migration : Migration) :
    replay platform (scripts ++ [migration]) initial = platform.execute migration.sql tables := by
  rw [replay] at made
  simp [replay, List.foldlM_append, made]

/-- Migrations whose versions rise and whose names differ. -/
structure Released (released : List Migration) : Prop where
  rising : released.Pairwise fun left right => left.version < right.version
  names : released.Pairwise fun left right => left.name ≠ right.name

/-- The first migrations were applied, in order, each once, and recorded. -/
structure Database.At (platform : SchemaPlatform σ) (released : List Migration) (initial : σ)
    (applied : ℕ) (db : Database σ) : Prop where
  within : applied ≤ released.length
  ledger : db.ledger.getD [] = (released.take applied).map (Migration.record platform)
  tables : replay platform (released.take applied) initial = some db.tables

section At

variable {platform : SchemaPlatform σ} {released : List Migration} {initial : σ} {applied : ℕ}
  {db : Database σ}

/-- Nothing was applied to a fresh database. -/
theorem Database.at_fresh : (Database.fresh initial).At platform released initial 0 where
  within := Nat.zero_le _
  ledger := by simp [Database.fresh]
  tables := by simp [Database.fresh, replay]

/-- Creating the ledger applies nothing. -/
theorem Database.At.ensure (reached : db.At platform released initial applied) :
    (ensureMigrationTable db).At platform released initial applied where
  within := reached.within
  ledger := by simpa [ensureMigrationTable] using reached.ledger
  tables := reached.tables

/-- Versions rise up to the migration at a place. -/
theorem Released.below (ok : Released released) {place : ℕ} {migration other : Migration}
    (listed : released[place]? = some migration) (earlier : other ∈ released.take place) :
    other.version < migration.version ∧ other.name ≠ migration.name := by
  have later : migration ∈ released.drop place := by
    refine List.mem_of_getElem? (i := 0) ?_
    rw [List.getElem?_drop, Nat.add_zero, listed]
  exact ⟨ok.rising.rel_of_mem_take_of_mem_drop earlier later,
    ok.names.rel_of_mem_take_of_mem_drop earlier later⟩

/-- A ledger that is there is not created. -/
theorem ensureMigrationTable_of_some {ledger : List MigrationRecord}
    (there : db.ledger = some ledger) : ensureMigrationTable db = db := by
  cases db
  simp_all [ensureMigrationTable]

/-- The migration at a place is recorded when it was applied, and only then. -/
theorem Database.At.find? (ok : Released released)
    (reached : db.At platform released initial applied) {place : ℕ} {migration : Migration}
    (listed : released[place]? = some migration) (next : place ≤ applied) :
    (db.ledger.getD []).find? (fun record => record.version == migration.version) =
      if place < applied then some (migration.record platform) else none := by
  -- No record before it has its version.
  have earlier : ((released.take place).map (Migration.record platform)).find?
      (fun record => record.version == migration.version) = none := by
    rw [List.find?_eq_none]
    intro record recorded same
    obtain ⟨other, member, rfl⟩ := List.mem_map.mp recorded
    exact ne_of_lt (ok.below listed member).1 (beq_iff_eq.mp same)
  rw [reached.ledger]
  split
  · -- It was applied, so its record follows them.
    rename_i done
    have inside : (released.take applied)[place]? = some migration := by
      rw [List.getElem?_take_of_lt done, listed]
    have split_ : released.take applied = released.take place ++
        migration :: (released.take applied).drop (place + 1) := by
      have whole := List.take_append_drop place (released.take applied)
      rw [List.take_take, Nat.min_eq_left next, List.drop_eq_getElem_cons
        (List.getElem?_eq_some_iff.mp inside).1, (List.getElem?_eq_some_iff.mp inside).2] at whole
      exact whole.symm
    rw [split_, List.map_append, List.find?_append, earlier]
    simp [Migration.record]
  · -- It is the next one, so nothing follows.
    rename_i pending
    rw [Nat.le_antisymm next (Nat.le_of_not_lt pending)] at earlier
    exact earlier

/-- Running the next migration applies one more, unless it fails. -/
theorem Database.At.run (reached : db.At platform released initial applied)
    {migration : Migration} (listed : released[applied]? = some migration) {after : Database σ}
    (ran : runMigration platform migration db = .ok after) :
    after.At platform released initial (applied + 1) ∧ after.ledger.isSome = true := by
  simp only [runMigration, recordMigration, bind_eq_ok, required_eq_ok, ensure_eq_ok,
    pure_eq_ok] at ran
  obtain ⟨tables, made, ledger, there, _, -, rfl⟩ := ran
  have taken : released.take (applied + 1) = released.take applied ++ [migration] := by
    rw [List.take_add_one, listed, Option.toList_some]
  have recorded := reached.ledger
  rw [there, Option.getD_some] at recorded
  refine ⟨⟨(List.getElem?_eq_some_iff.mp listed).1, ?_, ?_⟩, rfl⟩
  · simp [taken, recorded]
  · rw [taken, replay_append reached.tables, made]

/-- A record is that of a migration when its name and digest are. -/
theorem verifyMigrationRecord_eq_ok {migration : Migration}
    {expectedChecksum storedName storedChecksum : String} {done : Unit} :
    verifyMigrationRecord migration expectedChecksum storedName storedChecksum = .ok done ↔
      storedName = migration.name ∧ storedChecksum = expectedChecksum := by
  simp only [verifyMigrationRecord, bind_eq_ok, ensure_eq_ok, beq_iff_eq]
  constructor
  · rintro ⟨_, named, digest⟩
    exact ⟨named, digest⟩
  · rintro ⟨named, digest⟩
    exact ⟨⟨⟩, named, digest⟩

/-- A recorded migration is verified and not run. -/
theorem applyMigration_recorded (platform : SchemaPlatform σ) {migration : Migration}
    {ledger : List MigrationRecord} {record : MigrationRecord} (there : db.ledger = some ledger)
    (found : ledger.find? (fun other => other.version == migration.version) = some record) :
    applyMigration platform migration db =
      ((verifyMigrationRecord migration (migrationChecksum platform migration) record.name
        record.checksum).map fun _ => (), db) := by
  have read : migrationRecord migration.version db = .ok (some record) := by
    simp [migrationRecord, there, required, found, bind, Except.bind, pure, Except.pure]
  simp only [applyMigration, Effect.transaction, read]
  cases verified : verifyMigrationRecord migration (migrationChecksum platform migration)
    record.name record.checksum with
  | error error => simp [bind, Except.bind, verified, Except.map]
  | ok done => simp [bind, Except.bind, verified, Except.map, pure, Except.pure]

/-- A migration that is not recorded is run. -/
theorem applyMigration_missing (platform : SchemaPlatform σ) {migration : Migration}
    {ledger : List MigrationRecord}
    (there : db.ledger = some ledger)
    (missing : ledger.find? (fun other => other.version == migration.version) = none) :
    applyMigration platform migration db =
      match runMigration platform migration db with
      | .ok after => (.ok (), after)
      | .error error => (.error error, db) := by
  have read : migrationRecord migration.version db = .ok none := by
    simp [migrationRecord, there, required, missing, bind, Except.bind, pure, Except.pure]
  simp only [applyMigration, Effect.transaction, read]
  cases ran : runMigration platform migration db with
  | error error => simp [bind, Except.bind]
  | ok after => simp [bind, Except.bind, pure, Except.pure]

/-- A process that is not ahead of the database goes on with it, or fails and leaves it alone. -/
theorem Database.At.apply (ok : Released released)
    (reached : db.At platform released initial applied) (there : db.ledger.isSome = true)
    {place : ℕ} {migration : Migration} (listed : released[place]? = some migration)
    (next : place ≤ applied) :
    (∃ later after, applyMigration platform migration db = (.ok (), after) ∧
        after.At platform released initial later ∧ after.ledger.isSome = true ∧
        applied ≤ later ∧ place + 1 ≤ later) ∨
      place = applied ∧ ∃ error, runMigration platform migration db = .error error ∧
        applyMigration platform migration db = (.error error, db) := by
  obtain ⟨ledger, is⟩ := Option.isSome_iff_exists.mp there
  have found := reached.find? ok listed next
  rw [is, Option.getD_some] at found
  by_cases done : place < applied
  · -- Its record is there and is the right one.
    left
    rw [if_pos done] at found
    refine ⟨applied, db, ?_, reached, there, le_refl _, done⟩
    have verified : verifyMigrationRecord migration (migrationChecksum platform migration)
        (migration.record platform).name (migration.record platform).checksum = .ok () :=
      verifyMigrationRecord_eq_ok.mpr ⟨rfl, rfl⟩
    rw [applyMigration_recorded platform is found, verified]
    rfl
  · -- It is the next one, and is run.
    rw [if_neg done] at found
    obtain rfl : place = applied := Nat.le_antisymm next (Nat.le_of_not_lt done)
    rw [applyMigration_missing platform is found]
    cases ran : runMigration platform migration db with
    | error error => exact .inr ⟨rfl, error, rfl, rfl⟩
    | ok after =>
      obtain ⟨more, created⟩ := reached.run listed ran
      exact .inl ⟨place + 1, after, rfl, more, created, Nat.le_succ _, le_refl _⟩

/-! ### Verification -/

/-- Of two lists of migrations, one the beginning of the other, only a list's own records pass. -/
theorem verifyRecords_prefix {expected recorded : List Migration}
    (aligned : expected <+: recorded ∨ recorded <+: expected) {done : Unit} :
    verifyRecords platform expected (recorded.map (Migration.record platform)) = .ok done ↔
      expected.length = recorded.length := by
  induction expected generalizing recorded with
  | nil =>
    cases recorded with
    | nil => simp [verifyRecords, pure, Except.pure]
    | cons record records => simp [verifyRecords]
  | cons migration rest ih =>
    cases recorded with
    | nil => simp [verifyRecords]
    | cons other records =>
      -- The first migrations are one, and the rest is aligned again.
      have same : migration = other ∧ (rest <+: records ∨ records <+: rest) := by
        rcases aligned with shorter | longer
        · obtain ⟨equal, begins⟩ := List.cons_prefix_cons.mp shorter
          exact ⟨equal, .inl begins⟩
        · obtain ⟨equal, begins⟩ := List.cons_prefix_cons.mp longer
          exact ⟨equal.symm, .inr begins⟩
      obtain ⟨rfl, begins⟩ := same
      simp [verifyRecords, bind_eq_ok, verifyMigrationRecord_eq_ok, Migration.record, ih begins]

/-- A program accepts the database when exactly its migrations were applied. -/
theorem Database.At.verify (ok : Released released)
    (reached : db.At platform released initial applied) (there : db.ledger.isSome = true)
    {count : ℕ} (known : count ≤ released.length) :
    verifyMigrations platform (released.take count) db = .ok () ↔ count = applied := by
  obtain ⟨ledger, is⟩ := Option.isSome_iff_exists.mp there
  have recorded := reached.ledger
  rw [is, Option.getD_some] at recorded
  -- Versions rise along the ledger, so it is read as it was written.
  have ordered : orderBy MigrationRecord.version ledger = ledger := by
    refine orderBy_eq (List.Perm.refl _) ?_
    rw [recorded, List.pairwise_map]
    exact ok.rising.sublist (List.take_sublist _ _)
  have aligned : released.take count <+: released.take applied ∨
      released.take applied <+: released.take count :=
    List.prefix_or_prefix_of_prefix (List.take_prefix _ _) (List.take_prefix _ _)
  simp only [verifyMigrations, is, bind_eq_ok, required_eq_ok, Option.some.injEq,
    exists_eq_left', ordered]
  rw [recorded, verifyRecords_prefix aligned, List.length_take, List.length_take,
    Nat.min_eq_left known, Nat.min_eq_left reached.within]

/-! ### Any order of processes -/

/-- The migrations of the exporter are applied to what the ones before made. -/
theorem Database.At.forM (targets : List Migration) :
    ∀ {applied : ℕ} {db after : Database σ}, db.At platform released initial applied →
      (∀ index, index < targets.length → targets[index]? = released[applied + index]?) →
      targets.forM (applyTargetMigration platform) db = (.ok (), after) →
      after.At platform released initial (applied + targets.length) := by
  induction targets with
  | nil =>
    intro applied db after reached _ ran
    obtain rfl : db = after := (Prod.mk.inj ran).2
    exact reached
  | cons migration rest ih =>
    intro applied db after reached listed ran
    obtain ⟨_, middle, first, others⟩ := Effect.bind_eq_ok.mp ran
    have own := listed 0 (Nat.succ_pos _)
    simp only [List.getElem?_cons_zero, Nat.add_zero] at own
    rw [applyTargetMigration] at first
    cases made : runMigration platform migration db with
    | error error => simp [Effect.transaction, made, bind, Except.bind] at first
    | ok more =>
      simp only [Effect.transaction, made, bind, Except.bind, pure, Except.pure, Prod.mk.injEq,
        true_and] at first
      obtain rfl : more = middle := first
      obtain ⟨next, -⟩ := reached.run own.symm made
      have result := ih next (fun index below => ?_) others
      · rwa [List.length_cons, Nat.add_comm rest.length, ← Nat.add_assoc]
      · have := listed (index + 1) (Nat.succ_lt_succ below)
        rwa [List.getElem?_cons_succ, Nat.add_comm index, ← Nat.add_assoc] at this

/-- A phase that the database allows. -/
def Phase.Within (applied length : ℕ) (there : Bool) : Phase → Prop
  | .applying done => done ≤ applied ∧ there = true
  | .migrated => length ≤ applied ∧ there = true
  | _ => True

/-- More migrations in the database allow every phase they allowed before. -/
theorem Phase.Within.mono {applied later length : ℕ} {there : Bool} {phase : Phase}
    (within : phase.Within applied length there) (more : applied ≤ later) :
    phase.Within later length true := by
  cases phase with
  | applying done => exact ⟨le_trans within.1 more, rfl⟩
  | migrated => exact ⟨le_trans within.1 more, rfl⟩
  | stopped => trivial
  | failed error => trivial

/-- The database has the first migrations, and no process is ahead of it. -/
def Deployment.Kept (platform : SchemaPlatform σ) (released : List Migration) (initial : σ)
    (program : ℕ → List Migration) (applied : ℕ) (deployment : Deployment σ) : Prop :=
  deployment.database.At platform released initial applied ∧ ∀ process,
    (deployment.processes process).Within applied (program process).length
      deployment.database.ledger.isSome

/-- A process enters a phase that the database allows. -/
theorem Deployment.Kept.enter {program : ℕ → List Migration} {deployment : Deployment σ}
    (kept : deployment.Kept platform released initial program applied) {process : ℕ} {phase : Phase}
    (within : phase.Within applied (program process).length
      deployment.database.ledger.isSome) :
    (deployment.withPhase process phase).Kept platform released initial program applied := by
  refine ⟨kept.1, fun other => ?_⟩
  by_cases same : other = process
  · subst same
    simpa [Deployment.withPhase] using within
  · simpa [Deployment.withPhase, Function.update_of_ne same] using kept.2 other

/-- A step leaves at least the migrations that were there. -/
theorem Deployment.Kept.step (ok : Released released) {program : ℕ → List Migration}
    (older : ∀ process, program process <+: released) {deployment : Deployment σ}
    (kept : deployment.Kept platform released initial program applied) (input : RolloutInput) :
    ∃ later, applied ≤ later ∧
      (deployment.step platform program input).Kept platform released initial program later := by
  cases input with
  | start process =>
    have created : ({ deployment with
        database := ensureMigrationTable deployment.database } : Deployment σ).Kept platform
          released initial program applied :=
      ⟨kept.1.ensure, fun other => (kept.2 other).mono (le_refl _)⟩
    exact ⟨applied, le_refl _, created.enter ⟨Nat.zero_le _, rfl⟩⟩
  | stop process => exact ⟨applied, le_refl _, kept.enter trivial⟩
  | apply process =>
    cases phased : deployment.processes process with
    | stopped => exact ⟨applied, le_refl _, by simpa [Deployment.step, phased] using kept⟩
    | migrated => exact ⟨applied, le_refl _, by simpa [Deployment.step, phased] using kept⟩
    | failed error => exact ⟨applied, le_refl _, by simpa [Deployment.step, phased] using kept⟩
    | applying done =>
      have within := kept.2 process
      rw [phased] at within
      obtain ⟨behind, there⟩ := within
      simp only [Deployment.step, phased, Deployment.applyNext]
      cases listed : (program process)[done]? with
      | none =>
        -- The process has been through its whole program.
        have through := List.getElem?_eq_none_iff.mp listed
        exact ⟨applied, le_refl _, kept.enter ⟨le_trans through behind, there⟩⟩
      | some migration =>
        have known : released[done]? = some migration := by
          obtain ⟨rest, whole⟩ := older process
          rw [← whole, List.getElem?_append_left (List.getElem?_eq_some_iff.mp listed).1, listed]
        rcases kept.1.apply ok there known behind with
          ⟨later, after, applied_, reached, created, more, next⟩ |
            ⟨-, error, -, refused⟩
        · -- It goes on, and the database has at least as much as before.
          refine ⟨later, more, ?_⟩
          simp only [applied_]
          refine Deployment.Kept.enter ⟨reached, fun other => ?_⟩ ⟨next, created⟩
          exact created ▸ (kept.2 other).mono more
        · -- It fails, and the database is as before.
          refine ⟨applied, le_refl _, ?_⟩
          simp only [refused]
          exact Deployment.Kept.enter ⟨kept.1, kept.2⟩ trivial

/-! ### Processes that are left alone -/

/-- Scripts of which all can be run can be run up to any place. -/
theorem replay_take {place : ℕ} {tables : σ} {migration : Migration}
    (executes : (replay platform released initial).isSome = true)
    (made : replay platform (released.take place) initial = some tables)
    (listed : released[place]? = some migration) :
    (platform.execute migration.sql tables).isSome = true := by
  have split_ : released = released.take place ++ migration :: released.drop (place + 1) := by
    have whole := List.take_append_drop place released
    rw [List.drop_eq_getElem_cons (List.getElem?_eq_some_iff.mp listed).1,
      (List.getElem?_eq_some_iff.mp listed).2] at whole
    exact whole.symm
  rw [replay] at made
  rw [split_, replay, List.foldlM_append, made] at executes
  cases ran : platform.execute migration.sql tables with
  | none => simp [ran] at executes
  | some after => rfl

/-- The next migration is run when its script can be. -/
theorem Database.At.exists_run (ok : Released released)
    (reached : db.At platform released initial applied) (there : db.ledger.isSome = true)
    (digests : ∀ text, sqlLength (platform.blake3 text) = 64)
    (executes : (replay platform released initial).isSome = true) {migration : Migration}
    (listed : released[applied]? = some migration) :
    ∃ after, runMigration platform migration db = .ok after := by
  obtain ⟨ledger, is⟩ := Option.isSome_iff_exists.mp there
  obtain ⟨tables, made⟩ := Option.isSome_iff_exists.mp (replay_take executes reached.tables listed)
  have recorded := reached.ledger
  rw [is, Option.getD_some] at recorded
  -- Versions and names of the records are those of earlier migrations.
  have unique : (ledger.all fun other => other.version != (migration.record platform).version &&
      other.name != (migration.record platform).name) = true := by
    rw [recorded, List.all_eq_true]
    intro record stored
    obtain ⟨other, earlier, rfl⟩ := List.mem_map.mp stored
    obtain ⟨below, apart⟩ := ok.below listed earlier
    simp [Migration.record, ne_of_lt below, apart]
  have digest : (sqlLength (migration.record platform).checksum == 64) = true := by
    simp [Migration.record, migrationChecksum, digests]
  simp only [runMigration, recordMigration, bind_eq_ok, required_eq_ok, ensure_eq_ok, pure_eq_ok,
    Bool.and_eq_true]
  exact ⟨_, tables, made, ledger, is, ⟨⟩, ⟨unique, digest⟩, rfl⟩

/-- A process that is left alone goes through the rest of its program. -/
theorem Deployment.Kept.finish (ok : Released released) {program : ℕ → List Migration}
    (older : ∀ process, program process <+: released)
    (digests : ∀ text, sqlLength (platform.blake3 text) = 64)
    (executes : (replay platform released initial).isSome = true) {process : ℕ} (left_ : ℕ) :
    ∀ {applied done : ℕ} {deployment : Deployment σ},
      deployment.Kept platform released initial program applied →
      deployment.processes process = .applying done → done + left_ = (program process).length →
      ((List.replicate (left_ + 1) (RolloutInput.apply process)).foldl
        (Deployment.step platform program) deployment).processes process = .migrated := by
  induction left_ with
  | zero =>
    intro applied done deployment kept phased whole
    -- Nothing is left, and the process is through.
    have through : (program process)[done]? = none := List.getElem?_eq_none (by omega)
    simp [Deployment.step, phased, Deployment.applyNext, through, Deployment.withPhase]
  | succ left_ ih =>
    intro applied done deployment kept phased whole
    have inside : done < (program process).length := by omega
    have listed := List.getElem?_eq_getElem inside
    have known : released[done]? = some (program process)[done] := by
      obtain ⟨rest, equal⟩ := older process
      rw [← equal, List.getElem?_append_left inside, listed]
    have within := kept.2 process
    rw [phased] at within
    obtain ⟨behind, there⟩ := within
    -- The next migration is there or is run.
    rcases kept.1.apply ok there known behind with
      ⟨later, after, ran, reached, created, more, next⟩ | ⟨rfl, error, fails, -⟩
    · have stepped : deployment.step platform program (.apply process) =
          ({ deployment with database := after } : Deployment σ).withPhase process
            (.applying (done + 1)) := by
        simp [Deployment.step, phased, Deployment.applyNext, listed, ran]
      have further : (deployment.step platform program (.apply process)).Kept platform released
          initial program later := by
        rw [stepped]
        refine Deployment.Kept.enter ⟨reached, fun other => ?_⟩ ⟨next, created⟩
        exact created ▸ (kept.2 other).mono more
      have entered : (deployment.step platform program (.apply process)).processes process =
          .applying (done + 1) := by
        rw [stepped]
        simp [Deployment.withPhase]
      exact ih further entered (by omega)
    · obtain ⟨after, runs⟩ := kept.1.exists_run ok there digests executes known
      rw [runs] at fails
      cases fails

end At

/-! ### Records that are not the program's -/

/-- The ledger has a record under the version of a migration that is not the migration's. -/
structure Database.Tampered (platform : SchemaPlatform σ) (migration : Migration)
    (bad : MigrationRecord) (db : Database σ) : Prop where
  stored : ∃ ledger, db.ledger = some ledger ∧ bad ∈ ledger ∧
    (ledger.map MigrationRecord.version).Nodup
  version : bad.version = migration.version
  differs : bad.name ≠ migration.name ∨ bad.checksum ≠ migrationChecksum platform migration

section Tampered

variable {platform : SchemaPlatform σ} {released : List Migration} {migration : Migration}
  {bad : MigrationRecord} {db : Database σ}

/-- A record with the version of the bad one is the bad one. -/
theorem Database.Tampered.eq_bad (tampered : db.Tampered platform migration bad)
    {ledger : List MigrationRecord} (is : db.ledger = some ledger) {record : MigrationRecord}
    (there : record ∈ ledger) (same : record.version = migration.version) : record = bad := by
  obtain ⟨_, is', stored, unique⟩ := tampered.stored
  obtain rfl := Option.some.inj (is.symm.trans is')
  exact List.inj_on_of_nodup_map unique there stored (same.trans tampered.version.symm)

/-- The bad record is found, and the migration refused. -/
theorem Database.Tampered.refused (tampered : db.Tampered platform migration bad) :
    ∃ error, applyMigration platform migration db = (.error error, db) := by
  obtain ⟨ledger, is, stored, -⟩ := tampered.stored
  cases found : ledger.find? fun record => record.version == migration.version with
  | none =>
    have := List.find?_eq_none.mp found bad stored
    simp [tampered.version] at this
  | some record =>
    have same := List.find?_some found
    obtain rfl := tampered.eq_bad is (List.mem_of_find?_eq_some found) (beq_iff_eq.mp same)
    rw [applyMigration_recorded platform is found]
    cases verified : verifyMigrationRecord migration (migrationChecksum platform migration)
        record.name record.checksum with
    | ok done =>
      obtain ⟨named, digest⟩ := verifyMigrationRecord_eq_ok.mp verified
      exact absurd tampered.differs (by simp [named, digest])
    | error error => exact ⟨error, rfl⟩

/-- Records that pass have one for each expected migration. -/
theorem verifyRecords_mem {expected : List Migration} {records : List MigrationRecord} {done : Unit}
    (passed : verifyRecords platform expected records = .ok done) {known : Migration}
    (listed : known ∈ expected) : known.record platform ∈ records := by
  induction expected generalizing records with
  | nil => exact absurd listed List.not_mem_nil
  | cons first rest ih =>
    cases records with
    | nil => simp [verifyRecords] at passed
    | cons record others =>
      simp only [verifyRecords, bind_eq_ok, ensure_eq_ok, beq_iff_eq, verifyMigrationRecord_eq_ok]
        at passed
      obtain ⟨_, version, _, ⟨named, digest⟩, later⟩ := passed
      rcases List.mem_cons.mp listed with rfl | inRest
      · refine List.mem_cons.mpr (.inl ?_)
        cases record
        simp_all [Migration.record]
      · exact List.mem_cons_of_mem _ (ih later inRest)

/-- No release that knows the migration accepts the database. -/
theorem Database.Tampered.rejected (tampered : db.Tampered platform migration bad)
    {expected : List Migration} (known : migration ∈ expected) :
    verifyMigrations platform expected db ≠ .ok () := by
  intro accepted
  obtain ⟨ledger, is, -⟩ := tampered.stored
  simp only [verifyMigrations, is, bind_eq_ok, required_eq_ok, Option.some.injEq,
    exists_eq_left'] at accepted
  have there := mem_orderBy.mp (verifyRecords_mem accepted known)
  have same := tampered.eq_bad is there rfl
  exact absurd tampered.differs (by simp [← same, Migration.record])

/-- What was run on the tables since, and that each of it was recorded. -/
structure Database.Ran (platform : SchemaPlatform σ) (allowed : List Migration) (initial : σ)
    (scripts : List Migration) (db : Database σ) : Prop where
  allowed : ∀ script ∈ scripts, script ∈ allowed
  once : (scripts.map Migration.version).Nodup
  recorded : ∀ script ∈ scripts, ∃ record ∈ db.ledger.getD [], record.version = script.version
  tables : replay platform scripts initial = some db.tables

/-- Running a migration that is not recorded keeps the bad record, and runs nothing twice. -/
theorem Database.Tampered.run (tampered : db.Tampered platform migration bad)
    {allowed scripts : List Migration} {initial : σ}
    (ran : db.Ran platform allowed initial scripts) {next : Migration} (may : next ∈ allowed)
    {after : Database σ} (made : runMigration platform next db = .ok after) :
    after.Tampered platform migration bad ∧
      after.Ran platform allowed initial (scripts ++ [next]) := by
  obtain ⟨ledger, is, stored, unique⟩ := tampered.stored
  simp only [runMigration, recordMigration, is, bind_eq_ok, required_eq_ok, ensure_eq_ok,
    pure_eq_ok, Option.some.injEq, exists_eq_left', Bool.and_eq_true, List.all_eq_true,
    bne_iff_ne] at made
  obtain ⟨tables, runs, _, ⟨fresh, -⟩, rfl⟩ := made
  have recorded := ran.recorded
  rw [is, Option.getD_some] at recorded
  refine ⟨⟨⟨_, rfl, List.mem_append_left _ stored, ?_⟩, tampered.version, tampered.differs⟩,
    ⟨?_, ?_, ?_, ?_⟩⟩
  · rw [List.map_append, List.nodup_append]
    refine ⟨unique, by simp, ?_⟩
    intro left leftStored right rightStored
    obtain ⟨record, there, rfl⟩ := List.mem_map.mp leftStored
    simp only [List.map_cons, List.map_nil, List.mem_singleton] at rightStored
    rw [rightStored]
    exact (fresh record there).1
  · intro script listed
    rcases List.mem_append.mp listed with before | last
    · exact ran.allowed script before
    · exact List.mem_singleton.mp last ▸ may
  · rw [List.map_append, List.nodup_append]
    refine ⟨ran.once, by simp, ?_⟩
    intro left leftListed right rightListed
    obtain ⟨script, there, rfl⟩ := List.mem_map.mp leftListed
    simp only [List.map_cons, List.map_nil, List.mem_singleton] at rightListed
    obtain ⟨record, had, same⟩ := recorded script there
    rw [rightListed, ← same]
    exact (fresh record had).1
  · intro script listed
    rcases List.mem_append.mp listed with before | last
    · obtain ⟨record, had, same⟩ := recorded script before
      exact ⟨record, List.mem_append_left _ had, same⟩
    · refine ⟨next.record platform, by simp, ?_⟩
      rw [List.mem_singleton.mp last]
      rfl
  · rw [replay_append ran.tables, runs]

/-- The bad record is there, and no process got past its version. -/
structure Deployment.Shut (platform : SchemaPlatform σ) (released : List Migration)
    (migration : Migration) (bad : MigrationRecord) (initial : σ) (program : ℕ → List Migration)
    (place : ℕ) (deployment : Deployment σ) : Prop where
  tampered : deployment.database.Tampered platform migration bad
  ran : ∃ scripts, deployment.database.Ran platform (released.take place) initial scripts
  processes : ∀ process, (deployment.processes process).Within place (program process).length true

/-- A process enters a phase that the bad record allows. -/
theorem Deployment.Shut.enter {initial : σ} {program : ℕ → List Migration} {place : ℕ}
    {deployment : Deployment σ}
    (shut : deployment.Shut platform released migration bad initial program place) {process : ℕ}
    {phase : Phase} (within : phase.Within place (program process).length true) :
    (deployment.withPhase process phase).Shut platform released migration bad initial program
      place := by
  refine ⟨shut.tampered, shut.ran, fun other => ?_⟩
  by_cases same : other = process
  · subst same
    simpa [Deployment.withPhase] using within
  · simpa [Deployment.withPhase, Function.update_of_ne same] using shut.processes other

/-- A step does not get past the bad record. -/
theorem Deployment.Shut.step {initial : σ} {program : ℕ → List Migration} {place : ℕ}
    (listed : released[place]? = some migration)
    (older : ∀ process, program process <+: released) {deployment : Deployment σ}
    (shut : deployment.Shut platform released migration bad initial program place)
    (input : RolloutInput) :
    (deployment.step platform program input).Shut platform released migration bad initial program
      place := by
  obtain ⟨ledger, is, -⟩ := shut.tampered.stored
  cases input with
  | start process =>
    simp only [Deployment.step, ensureMigrationTable_of_some is]
    exact shut.enter ⟨Nat.zero_le _, rfl⟩
  | stop process => exact shut.enter trivial
  | apply process =>
    cases phased : deployment.processes process with
    | stopped => simpa [Deployment.step, phased] using shut
    | migrated => simpa [Deployment.step, phased] using shut
    | failed error => simpa [Deployment.step, phased] using shut
    | applying done =>
      have within := shut.processes process
      rw [phased] at within
      simp only [Deployment.step, phased, Deployment.applyNext]
      cases next : (program process)[done]? with
      | none =>
        have through := List.getElem?_eq_none_iff.mp next
        exact shut.enter ⟨le_trans through within.1, rfl⟩
      | some other =>
        have known : released[done]? = some other := by
          obtain ⟨rest, whole⟩ := older process
          rw [← whole, List.getElem?_append_left (List.getElem?_eq_some_iff.mp next).1, next]
        by_cases here : done = place
        · -- The migration is the one with the bad record.
          subst here
          obtain rfl : other = migration := Option.some.inj (known.symm.trans listed)
          obtain ⟨error, refused⟩ := shut.tampered.refused
          simp only [refused]
          exact shut.enter trivial
        · have before : done + 1 ≤ place := by
            have := within.1
            omega
          cases found : ledger.find? fun record => record.version == other.version with
          | some record =>
            -- An earlier migration is recorded, and is verified at most.
            have verified := applyMigration_recorded platform is found
            cases passes : verifyMigrationRecord other (migrationChecksum platform other)
                record.name record.checksum with
            | ok done =>
              simp only [verified, passes, Except.map]
              exact shut.enter ⟨before, rfl⟩
            | error error =>
              simp only [verified, passes, Except.map]
              exact shut.enter trivial
          | none =>
            -- An earlier migration is missing, and is run.
            have missing := applyMigration_missing platform is found
            cases made : runMigration platform other deployment.database with
            | error error =>
              simp only [missing, made]
              exact shut.enter trivial
            | ok after =>
              simp only [missing, made]
              obtain ⟨scripts, ran⟩ := shut.ran
              have may : other ∈ released.take place := by
                refine List.mem_of_getElem? (i := done) ?_
                rw [List.getElem?_take_of_lt before, known]
              obtain ⟨still, more⟩ := shut.tampered.run ran may made
              have moved : ({ deployment with database := after } : Deployment σ).Shut platform
                  released migration bad initial program place :=
                ⟨still, ⟨_, more⟩, shut.processes⟩
              exact moved.enter ⟨before, rfl⟩

end Tampered

/-! ### The migrations of the program -/

/-- The migrations of the program have rising versions and different names. -/
theorem migrations_released (scripts : Scripts) : Released (migrations scripts) where
  rising := by simp [migrations]
  names := by simp [migrations]

/-- Databases that a rollout starts from: one that is new, or an artifact of the exporter. -/
def Startable (platform : SchemaPlatform σ) (scripts : Scripts) (initial : σ) (db : Database σ) :
    Prop :=
  db = .fresh initial ∨ applyTargetMigrations platform scripts (.fresh initial) = (.ok (), db)

/-- An artifact has the first five migrations. -/
theorem at_artifact {platform : SchemaPlatform σ} {scripts : Scripts} {initial : σ}
    {db : Database σ}
    (exported : applyTargetMigrations platform scripts (.fresh initial) = (.ok (), db)) :
    db.At platform (migrations scripts) initial 5 := by
  refine Database.At.forM (targetMigrations scripts) Database.at_fresh.ensure ?_ exported
  intro index below
  have begins : targetMigrations scripts = (migrations scripts).take 5 := rfl
  have inside : index < 5 := below
  rw [begins, List.getElem?_take_of_lt inside, Nat.zero_add]

/-- In a rollout some first migrations are applied, and no process is ahead of the database. -/
theorem rollout_kept {platform : SchemaPlatform σ} {scripts : Scripts} {initial : σ}
    {program : ℕ → List Migration} (older : ∀ process, program process <+: migrations scripts)
    {deployment : Deployment σ}
    (reached : (rollout platform program (Startable platform scripts initial)).Reachable
      deployment) :
    ∃ applied, deployment.Kept platform (migrations scripts) initial program applied := by
  induction reached with
  | init started =>
    obtain ⟨startable, stopped⟩ := started
    have quiet : ∀ (applied : ℕ) (deployment : Deployment σ),
        (∀ process, deployment.processes process = .stopped) → ∀ process,
          (deployment.processes process).Within applied (program process).length
            deployment.database.ledger.isSome := by
      intro applied deployment stopped process
      rw [stopped process]
      trivial
    rcases startable with new | exported
    · exact ⟨0, by rw [new]; exact Database.at_fresh, quiet _ _ stopped⟩
    · exact ⟨5, at_artifact exported, quiet _ _ stopped⟩
  | step _ taken ih =>
    obtain ⟨applied, kept⟩ := ih
    obtain ⟨later, -, next⟩ := kept.step (migrations_released scripts) older _
    exact ⟨later, taken ▸ next⟩

/--
However many processes of whatever releases migrate a new database or an artifact, and whenever they
are stopped, the scripts of some first migrations were run, in order and each once, and exactly they
are recorded; a process that serves requests has its migrations there, and a release that verifies
the database accepts it exactly when it has those of the release and no others.
-/
theorem rollout_in_order {platform : SchemaPlatform σ} {scripts : Scripts} {initial : σ}
    {program : ℕ → List Migration} (older : ∀ process, program process <+: migrations scripts)
    {deployment : Deployment σ}
    (reached : (rollout platform program (Startable platform scripts initial)).Reachable
      deployment) :
    ∃ applied ≤ 6,
      deployment.database.ledger.getD [] =
          ((migrations scripts).take applied).map (Migration.record platform) ∧
        replay platform ((migrations scripts).take applied) initial =
          some deployment.database.tables ∧
        (∀ process, deployment.processes process = .migrated →
          (program process).length ≤ applied) ∧
        (deployment.database.ledger.isSome = true → ∀ count ≤ 6,
          (verifyMigrations platform ((migrations scripts).take count) deployment.database =
            .ok () ↔ count = applied)) := by
  obtain ⟨applied, database, processes⟩ := rollout_kept older reached
  refine ⟨applied, database.within, database.ledger, database.tables, ?_, ?_⟩
  · intro process serving
    have within := processes process
    rw [serving] at within
    exact within.1
  · exact fun there count known => database.verify (migrations_released scripts) there known

/-- Tables that remember the scripts, with digests that are all alike. -/
def rememberingSchema : SchemaPlatform (List String) where
  execute script tables := some (tables ++ [script])
  blake3 _ := "0000000000000000000000000000000000000000000000000000000000000000"

/-- Scripts of one statement each. -/
def shortScripts : Scripts where
  auth := "users"
  streamsForecast := "streams"
  integrationsOperations := "integrations"
  workspacesInbox := "workspaces"
  resendInboundLeases := "leases"
  syncRetry := "retry"

/-- A process of the release before the last one, among others of the last one. -/
def twoReleases (process : ℕ) : List Migration :=
  (migrations shortScripts).take (if process = 1 then 5 else 6)

/-- Every release is the beginning of the last one. -/
theorem twoReleases_older (process : ℕ) : twoReleases process <+: migrations shortScripts :=
  List.take_prefix _ _

/-- A new database with processes that are about to start. -/
def newDeployment : Deployment (List String) := ⟨.fresh [], fun _ => .stopped⟩

/-- Two processes that take turns with the first two migrations. -/
def takingTurns : List RolloutInput :=
  [.start 0, .apply 0, .start 1, .apply 1, .apply 1, .apply 0]

/-- Processes can take turns. -/
theorem takingTurns_reached :
    (rollout rememberingSchema twoReleases
      (Startable rememberingSchema shortScripts [])).Reachable
      (takingTurns.foldl (Deployment.step rememberingSchema twoReleases) newDeployment) :=
  rollout_foldl takingTurns (.init ⟨.inl rfl, fun _ => rfl⟩)

/-- Two processes that take turns run the first two scripts once. -/
theorem rollout_in_order_turns : ∃ applied ≤ 6,
    let database := (takingTurns.foldl (Deployment.step rememberingSchema twoReleases)
      newDeployment).database
    database.ledger.getD [] =
        ((migrations shortScripts).take applied).map (Migration.record rememberingSchema) ∧
      replay rememberingSchema ((migrations shortScripts).take applied) [] =
        some database.tables ∧ database.tables = ["users", "streams"] := by
  obtain ⟨applied, within, recorded, made, -⟩ :=
    rollout_in_order twoReleases_older takingTurns_reached
  exact ⟨applied, within, recorded, made, by decide⟩

/--
Whatever processes did before, a process that starts and is left alone goes through its whole
program, as long as the scripts can be run one after the other and digests have their length.
-/
theorem rollout_finishes {platform : SchemaPlatform σ} {scripts : Scripts} {initial : σ}
    {program : ℕ → List Migration} (older : ∀ process, program process <+: migrations scripts)
    (digests : ∀ text, sqlLength (platform.blake3 text) = 64)
    (executes : (replay platform (migrations scripts) initial).isSome = true)
    {deployment : Deployment σ}
    (reached : (rollout platform program (Startable platform scripts initial)).Reachable
      deployment) (process : ℕ) :
    ((RolloutInput.start process ::
        List.replicate ((program process).length + 1) (.apply process)).foldl
      (Deployment.step platform program) deployment).processes process = .migrated := by
  obtain ⟨applied, kept⟩ := rollout_kept older reached
  obtain ⟨later, -, started⟩ := kept.step (migrations_released scripts) older (.start process)
  have entered : (deployment.step platform program (.start process)).processes process =
      .applying 0 := by
    simp [Deployment.step, Deployment.withPhase]
  exact started.finish (migrations_released scripts) older digests executes _ entered
    (Nat.zero_add _)

/-- After two processes took turns, a third one goes through all migrations. -/
theorem rollout_finishes_turns :
    ((RolloutInput.start 2 ::
        List.replicate ((twoReleases 2).length + 1) (.apply 2)).foldl
      (Deployment.step rememberingSchema twoReleases)
      (takingTurns.foldl (Deployment.step rememberingSchema twoReleases)
        newDeployment)).processes 2 = .migrated := by
  have digests : ∀ text, sqlLength (rememberingSchema.blake3 text) = 64 := by
    intro text
    simp only [rememberingSchema]
    decide
  exact rollout_finishes twoReleases_older digests (by decide) takingTurns_reached 2

/--
A record that is not the program's stops every process that knows its migration: however processes
interleave, none of them serves requests and no release that knows the migration accepts the
database, and all that is ever run are scripts of earlier migrations, none of them twice.
-/
theorem tampering_fails_closed {platform : SchemaPlatform σ} {scripts : Scripts}
    {program : ℕ → List Migration} (older : ∀ process, program process <+: migrations scripts)
    {migration : Migration} (known : migration ∈ migrations scripts) {bad : MigrationRecord}
    {start : Database σ} (tampered : start.Tampered platform migration bad)
    {deployment : Deployment σ}
    (reached : (rollout platform program (· = start)).Reachable deployment) :
    (∀ process, migration ∈ program process → deployment.processes process ≠ .migrated) ∧
      (∀ expected, migration ∈ expected →
        verifyMigrations platform expected deployment.database ≠ .ok ()) ∧
      ∃ ran : List Migration,
        (∀ script ∈ ran, script ∈ migrations scripts ∧ script.version < migration.version) ∧
          (ran.map Migration.version).Nodup ∧
          replay platform ran start.tables = some deployment.database.tables := by
  obtain ⟨place, listed⟩ := List.mem_iff_getElem?.mp known
  have ok := migrations_released scripts
  have shut : deployment.Shut platform (migrations scripts) migration bad start.tables program
      place := by
    induction reached with
    | init started =>
      obtain ⟨rfl, stopped⟩ := started
      refine ⟨tampered, ⟨[], ⟨by simp, by simp, by simp, rfl⟩⟩, fun process => ?_⟩
      rw [stopped process]
      trivial
    | step _ taken ih => exact taken ▸ ih.step listed older _
  obtain ⟨ran, did⟩ := shut.ran
  refine ⟨?_, fun expected knows => shut.tampered.rejected knows, ran, ?_, did.once, did.tables⟩
  · intro process knows serving
    have within := shut.processes process
    rw [serving] at within
    -- The process's program is too short to have the migration.
    obtain ⟨rest, whole⟩ := older process
    obtain ⟨index, phased⟩ := List.mem_iff_getElem?.mp knows
    have below := (List.getElem?_eq_some_iff.mp phased).1
    have earlier : migration ∈ (migrations scripts).take place := by
      refine List.mem_of_getElem? (i := index) ?_
      rw [List.getElem?_take_of_lt (lt_of_lt_of_le below within.1), ← whole,
        List.getElem?_append_left below, phased]
    exact lt_irrefl _ (ok.below listed earlier).1
  · intro script member
    have early := did.allowed script member
    exact ⟨List.mem_of_mem_take early, (ok.below listed early).1⟩

/-- A database whose second record has another digest. -/
def tamperedDatabase : Database (List String) where
  ledger := some [⟨1, "auth", rememberingSchema.blake3 ""⟩, ⟨2, "streams_forecast", "f"⟩]
  tables := ["users", "streams"]

/-- A process that finds another digest for the second migration does not serve requests. -/
theorem tampering_fails_closed_streams :
    (([.start 0, .apply 0, .apply 0, .apply 0] : List RolloutInput).foldl
      (Deployment.step rememberingSchema twoReleases)
      ⟨tamperedDatabase, fun _ => .stopped⟩).processes 0 ≠ .migrated := by
  have known : (⟨2, "streams_forecast", "streams"⟩ : Migration) ∈ migrations shortScripts := by
    decide
  have tampered : tamperedDatabase.Tampered rememberingSchema
      ⟨2, "streams_forecast", "streams"⟩ ⟨2, "streams_forecast", "f"⟩ :=
    ⟨⟨_, rfl, by decide, by decide⟩, rfl, .inr (by decide)⟩
  have reached : (rollout rememberingSchema twoReleases (· = tamperedDatabase)).Reachable
      (([.start 0, .apply 0, .apply 0, .apply 0] : List RolloutInput).foldl
        (Deployment.step rememberingSchema twoReleases)
        ⟨tamperedDatabase, fun _ => .stopped⟩) :=
    rollout_foldl _ (.init ⟨rfl, fun _ => rfl⟩)
  exact (tampering_fails_closed twoReleases_older known tampered reached).1 0 (by decide)

end FinStream.Schema
