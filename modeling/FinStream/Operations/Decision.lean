import FinStream.Operations.Coordination
import Mathlib.Data.String.Basic

/-! The decision of a claim: when a run is inserted, and what a refusal reports. -/

namespace FinStream

open Store

/-! ### The latest of the runs that satisfy a condition -/

/-- The last stored run in the order of start and id, among those that satisfy a condition. -/
structure Latest (condition : SyncRun → Bool) (log : Table SyncRun) (entry : ℕ × SyncRun) :
    Prop where
  stored : entry ∈ log
  holds : condition entry.2 = true
  last : ∀ other ∈ log.rows, condition other.2 = true → other.2.startedAt < entry.2.startedAt ∨
    (other.2.startedAt = entry.2.startedAt ∧ other.1 ≤ entry.1)

/-- The fold finds the latest of the runs it has passed, if any of them satisfies the condition. -/
theorem latestRun_fold (condition : SyncRun → Bool) (entries : List (ℕ × SyncRun))
    (ascending : (entries.map Prod.fst).Pairwise (· < ·)) :
    let latest := entries.foldl (fun latest entry =>
      if condition entry.2 && latest.all (·.2.startedAt ≤ entry.2.startedAt) then some entry
      else latest) none
    (latest = none → ∀ entry ∈ entries, condition entry.2 = false) ∧
      ∀ entry, latest = some entry → entry ∈ entries ∧ condition entry.2 = true ∧
        ∀ other ∈ entries, condition other.2 = true →
          other.2.startedAt < entry.2.startedAt ∨
            (other.2.startedAt = entry.2.startedAt ∧ other.1 ≤ entry.1) := by
  -- The induction is on the entries that have been passed; the new one has the largest id.
  induction entries using List.reverseRecOn with
  | nil => exact ⟨fun _ _ member => absurd member List.not_mem_nil, nofun⟩
  | append_singleton front entry ih =>
    rw [List.map_append, List.pairwise_append] at ascending
    have below : ∀ other ∈ front, other.1 < entry.1 := fun other member =>
      ascending.2.2 other.1 (List.mem_map_of_mem member) entry.1 (by simp)
    obtain ⟨nothing, found⟩ := ih ascending.1
    simp only [List.foldl_append, List.foldl_cons, List.foldl_nil]
    generalize front.foldl (fun latest entry =>
      if condition entry.2 && latest.all (·.2.startedAt ≤ entry.2.startedAt) then some entry
      else latest) none = latest at nothing found ⊢
    cases satisfied : condition entry.2 with
    | false =>
      simp only [Bool.false_and, Bool.false_eq_true, if_false]
      constructor
      · intro missing other member
        rcases List.mem_append.mp member with earlier | same
        · exact nothing missing other earlier
        · rw [List.mem_singleton.mp same, satisfied]
      · intro chosen there
        obtain ⟨member, holds, last⟩ := found chosen there
        refine ⟨List.mem_append_left _ member, holds, fun other inside matches_ => ?_⟩
        rcases List.mem_append.mp inside with earlier | same
        · exact last other earlier matches_
        · rw [List.mem_singleton.mp same, satisfied] at matches_
          cases matches_
    | true =>
      cases latest with
      | none =>
        simp only [Option.all_none, Bool.and_self, if_true]
        refine ⟨nofun, fun chosen there => ?_⟩
        cases there
        refine ⟨by simp, satisfied, fun other inside matches_ => ?_⟩
        rcases List.mem_append.mp inside with earlier | same
        · rw [nothing rfl other earlier] at matches_
          cases matches_
        · rw [List.mem_singleton.mp same]
          exact Or.inr ⟨rfl, Nat.le_refl _⟩
      | some before =>
        obtain ⟨member, holds, last⟩ := found before rfl
        simp only [Option.all_some, Bool.true_and]
        split
        · -- The new run started no earlier, and its id is larger.
          rename_i later
          rw [decide_eq_true_eq] at later
          refine ⟨nofun, fun chosen there => ?_⟩
          cases there
          refine ⟨by simp, satisfied, fun other inside matches_ => ?_⟩
          rcases List.mem_append.mp inside with earlier | same
          · rcases last other earlier matches_ with less | ⟨same, -⟩
            · exact Or.inl (lt_of_lt_of_le less later)
            · rw [same]
              rcases lt_or_eq_of_le later with less | same
              · exact Or.inl less
              · exact Or.inr ⟨same, Nat.le_of_lt (below other earlier)⟩
          · rw [List.mem_singleton.mp same]
            exact Or.inr ⟨rfl, Nat.le_refl _⟩
        · rename_i earlier
          rw [decide_eq_true_eq, not_le] at earlier
          refine ⟨nofun, fun chosen there => ?_⟩
          cases there
          refine ⟨List.mem_append_left _ member, holds, fun other inside matches_ => ?_⟩
          rcases List.mem_append.mp inside with passed | same
          · exact last other passed matches_
          · rw [List.mem_singleton.mp same]
            exact Or.inl earlier

/-- A run that is found is the latest one. -/
theorem latestRun_some {condition : SyncRun → Bool} {db : Operations} {entry : ℕ × SyncRun}
    (found : latestRun condition db = some entry) : Latest condition db.log entry := by
  obtain ⟨stored, holds, last⟩ :=
    (latestRun_fold condition db.log.rows db.log.ascending).2 entry found
  exact ⟨stored, holds, last⟩

/-- When no run is found, none satisfies the condition. -/
theorem latestRun_none {condition : SyncRun → Bool} {db : Operations}
    (missing : latestRun condition db = none) {id : ℕ} {run : SyncRun}
    (stored : (id, run) ∈ db.log) : condition run = false :=
  (latestRun_fold condition db.log.rows db.log.ascending).1 missing (id, run) stored

/-- The attempt at a slot that is found is stored, and no later attempt is. -/
theorem runForScheduledSlot_some {slug slot : String} {db : Operations} {entry : ℕ × SyncRun}
    (found : runForScheduledSlot slug slot db = some entry) :
    entry ∈ db.log ∧ entry.2.attempts slug slot = true ∧
      ∀ other ∈ db.log.rows, other.2.attempts slug slot = true → other.1 ≤ entry.1 := by
  -- The attempts keep the order of the log, which is by id, and the last one is taken.
  obtain ⟨front, same⟩ := List.getLast?_eq_some_iff.mp found
  have member : entry ∈ db.log.rows.filter fun entry => entry.2.attempts slug slot := by simp [same]
  obtain ⟨stored, attempt⟩ := List.mem_filter.mp member
  refine ⟨stored, attempt, fun other inside matches_ => ?_⟩
  have ascending := (List.pairwise_map.mp db.log.ascending).filter
    fun entry => entry.2.attempts slug slot
  have among : other ∈ db.log.rows.filter fun entry => entry.2.attempts slug slot :=
    List.mem_filter.mpr ⟨inside, matches_⟩
  rw [same] at ascending among
  rcases List.mem_append.mp among with earlier | last
  · exact Nat.le_of_lt ((List.pairwise_append.mp ascending).2.2 other earlier entry (by simp))
  · rw [List.mem_singleton.mp last]

/-- When no attempt at a slot is found, there is none. -/
theorem runForScheduledSlot_none {slug slot : String} {db : Operations}
    (missing : runForScheduledSlot slug slot db = none) {id : ℕ} {run : SyncRun}
    (stored : (id, run) ∈ db.log) : run.attempts slug slot = false := by
  -- Only an empty list has no last element.
  rw [runForScheduledSlot, List.getLast?_eq_none_iff, List.filter_eq_nil_iff] at missing
  simpa using missing (id, run) stored

/-! ### When a claim is inserted -/

/-- The unique indexes of the log. -/
structure LogSchema (log : Table SyncRun) : Prop where
  oneRunning : UniqueKey SyncRun.oneRunning log
  oneScheduledSlot : UniqueKey SyncRun.oneScheduledSlot log

/-- The arguments of a scheduled claim pass the checks of the program and of the schema. -/
structure AcceptedClaim (platform : Platform) (slug slot startedAt : String) : Prop where
  named : requireNonempty "connection slug" slug = .ok ⟨⟩
  slotShaped : requireTimestamp "scheduled slot timestamp" slot = .ok ⟨⟩
  startShaped : requireTimestamp "run start timestamp" startedAt = .ok ⟨⟩
  slotRead : platform.datetimeValid slot = true
  startRead : platform.datetimeValid startedAt = true

/-- Nothing is running, nothing covers the slot, and an attempt at it is left. -/
structure Claimable (log : Table SyncRun) (slug slot : String) : Prop where
  idle : ∀ id run, (id, run) ∈ log → run.connectionSlug = slug → run.status ≠ .running
  uncovered : ∀ id run, (id, run) ∈ log → run.connectionSlug = slug → run.status = .success →
    ¬slot ≤ run.startedAt
  unsettled : ∀ id run, (id, run) ∈ log → run.attempts slug slot = true → run.status ≠ .success
  attemptsLeft : failedAttempts log slug slot < maxScheduledAttempts

/-- What a refused claim reports, by the first reason that applies. -/
inductive Refusal (log : Table SyncRun) (slug slot : String) : ClaimOutcome → Prop
  /-- The only running run of the connection is at the slot. -/
  | runningAtSlot (current : ℕ × SyncRun) (only : ∀ entry, (entry ∈ log ∧
      entry.2.connectionSlug = slug ∧ entry.2.status = .running) ↔ entry = current)
      (same : current.2.scheduledFor = some slot) : Refusal log slug slot (.alreadyScheduled current)
  /-- The only running run of the connection is not at the slot. -/
  | runningElsewhere (current : ℕ × SyncRun) (only : ∀ entry, (entry ∈ log ∧
      entry.2.connectionSlug = slug ∧ entry.2.status = .running) ↔ entry = current)
      (other : current.2.scheduledFor ≠ some slot) : Refusal log slug slot (.alreadyRunning current)
  /-- Nothing is running, and this is the latest success that started at or after the slot. -/
  | covered (idle : ∀ id run, (id, run) ∈ log → run.connectionSlug = slug → run.status ≠ .running)
      (coverage : ℕ × SyncRun) (latest : Latest (fun run => run.connectionSlug == slug &&
        run.status == .success && slot ≤ run.startedAt) log coverage) :
      Refusal log slug slot (.coveredBySuccess coverage)
  /-- Only the attempts are in the way: one succeeded, or all of them failed. -/
  | settled (idle : ∀ id run, (id, run) ∈ log → run.connectionSlug = slug → run.status ≠ .running)
      (uncovered : ∀ id run, (id, run) ∈ log → run.connectionSlug = slug → run.status = .success →
        ¬slot ≤ run.startedAt)
      (existing : ℕ × SyncRun) (stored : existing ∈ log)
      (attempt : existing.2.attempts slug slot = true)
      (last : ∀ other ∈ log.rows, other.2.attempts slug slot = true → other.1 ≤ existing.1)
      (reason : (∃ id run, (id, run) ∈ log ∧ run.attempts slug slot = true ∧
        run.status = .success) ∨ maxScheduledAttempts ≤ failedAttempts log slug slot) :
      Refusal log slug slot (.alreadyScheduled existing)

/-- The one-running index refuses the connection of a running run. -/
theorem oneRunning_iff {slug : String} {stored : SyncRun} :
    stored.oneRunning = some slug ↔ stored.connectionSlug = slug ∧ stored.status = .running := by
  unfold SyncRun.oneRunning
  split
  · rename_i running
    simp [running]
  · rename_i ended
    simp [ended]

/-- The scheduled-slot index refuses the slot of a run that has not failed. -/
theorem oneScheduledSlot_iff {slug slot : String} {stored : SyncRun} :
    stored.oneScheduledSlot = some (slug, slot) ↔
      stored.attempts slug slot = true ∧ stored.status ≠ .error := by
  unfold SyncRun.oneScheduledSlot SyncRun.attempts
  split
  · rename_i failed
    simp [failed]
  · rename_i live
    cases stored.scheduledFor <;> simp [live, and_comm]

/-- A scheduled claim is kept out by a running run, and by a live run at its slot. -/
theorem conflicts_scheduled {slug slot startedAt : String} {stored : SyncRun} :
    (SyncRun.claim slug (some slot) startedAt).conflicts stored = true ↔
      (stored.connectionSlug = slug ∧ stored.status = .running) ∨
        (stored.attempts slug slot = true ∧ stored.status ≠ .error) := by
  rw [← oneRunning_iff, ← oneScheduledSlot_iff]
  have running : (SyncRun.claim slug (some slot) startedAt).oneRunning = some slug := rfl
  have live : (SyncRun.claim slug (some slot) startedAt).oneScheduledSlot = some (slug, slot) := rfl
  rw [SyncRun.conflicts, running, live]
  -- A null in either index is in nobody's way.
  cases stored.oneRunning <;> cases stored.oneScheduledSlot <;> simp

/-- A manual claim is kept out by a running run. -/
theorem conflicts_manual {slug startedAt : String} {stored : SyncRun} :
    (SyncRun.claim slug none startedAt).conflicts stored = true ↔
      stored.connectionSlug = slug ∧ stored.status = .running := by
  rw [← oneRunning_iff]
  have running : (SyncRun.claim slug none startedAt).oneRunning = some slug := rfl
  have free : (SyncRun.claim slug none startedAt).oneScheduledSlot = none := rfl
  rw [SyncRun.conflicts, running, free]
  cases stored.oneRunning <;> cases stored.oneScheduledSlot <;> simp

/-- No index refuses a slot that can be claimed. -/
theorem Claimable.free {log : Table SyncRun} {slug slot startedAt : String}
    (claimable : Claimable log slug slot) {id : ℕ} {stored : SyncRun} (there : (id, stored) ∈ log) :
    (SyncRun.claim slug (some slot) startedAt).conflicts stored = false := by
  rw [← Bool.not_eq_true, conflicts_scheduled]
  rintro (⟨same, running⟩ | ⟨attempt, live⟩)
  · exact claimable.idle id stored there same running
  · -- A live attempt is running or has succeeded.
    have same : stored.connectionSlug = slug := by
      simp only [SyncRun.attempts, Bool.and_eq_true, beq_iff_eq] at attempt
      exact attempt.1
    cases status : stored.status with
    | running => exact claimable.idle id stored there same status
    | success => exact claimable.unsettled id stored there attempt status
    | error => exact live status

/-- A selected claim that is not inserted is refused by an index. -/
theorem insertClaim_none {platform : Platform} {run : SyncRun} {db : Operations}
    (refused : insertClaim platform true run db = .ok none) :
    ∃ id stored, (id, stored) ∈ db.log ∧ run.conflicts stored = true := by
  -- Past the checks of the timestamps, only a conflicting row keeps a selected claim out.
  simp only [insertClaim, if_true, bind_eq_ok] at refused
  obtain ⟨_, -, _, -, refused⟩ := refused
  split at refused
  · rename_i entry found
    obtain ⟨stored, conflict⟩ := Table.find?_some found
    exact ⟨entry.1, entry.2, stored, conflict⟩
  · cases refused

/-- An inserted claim, and one that an index refuses. -/
theorem insertClaim_selected {platform : Platform} {run : SyncRun} {db : Operations}
    (startRead : platform.datetimeValid run.startedAt = true)
    (slotRead : run.scheduledFor.all platform.datetimeValid = true) :
    insertClaim platform true run db = .ok (if (db.log.find? fun _ stored =>
      run.conflicts stored).isSome then none
        else some (db.log.next, run, { db with log := db.log.insert run })) := by
  simp only [insertClaim, if_true, bind_eq_ok, checkStoredTimestamp, ensure_eq_ok]
  refine ⟨⟨⟩, startRead, ⟨⟩, slotRead, ?_⟩
  cases db.log.find? fun _ stored => run.conflicts stored <;> rfl

/-! ### The decision -/

/-- Writes are accepted, scheduled runs are on, and the connection exists. -/
structure SchedulerOpen (connected : String → Bool) (db : Operations) (slug : String) : Prop where
  control : ∃ control, db.control = some control ∧ control.mode = .enabled ∧
    control.schedulerEnabled = true
  connected : connected slug = true

section Scheduled

variable {platform : Platform} {connected : String → Bool} {slug slot startedAt : String}
  {db : Operations}

/-- The guard in the statement of a scheduled claim. -/
def scheduledGuard (connected : String → Bool) (slug slot : String) (db : Operations) : Bool :=
  db.control.any (fun control => control.mode == .enabled && control.schedulerEnabled) &&
    connected slug && !(db.log.find? fun _ run => run.connectionSlug == slug &&
      run.status == .success && slot ≤ run.startedAt).isSome &&
    (db.log.count fun _ run => run.attempts slug slot && run.status == .error) <
      maxScheduledAttempts

/-- The guard holds when nothing covers the slot and an attempt is left. -/
theorem scheduledGuard_iff (opened : SchedulerOpen connected db slug) :
    scheduledGuard connected slug slot db = true ↔
      (∀ id run, (id, run) ∈ db.log → run.connectionSlug = slug → run.status = .success →
        ¬slot ≤ run.startedAt) ∧ failedAttempts db.log slug slot < maxScheduledAttempts := by
  obtain ⟨control, present, enabled, scheduled⟩ := opened.control
  have switched : db.control.any (fun control => control.mode == .enabled &&
      control.schedulerEnabled) = true := by
    rw [present]
    simp [enabled, scheduled]
  rw [scheduledGuard, switched, opened.connected, failedAttempts]
  simp only [Bool.true_and, Bool.and_eq_true, Bool.not_eq_true', decide_eq_true_eq]
  refine and_congr_left fun _ => ?_
  rw [← Bool.not_eq_true, Table.find?_isSome]
  simp only [Bool.and_eq_true, beq_iff_eq, decide_eq_true_eq, not_exists, not_and]
  exact ⟨fun none_ id run stored same success => none_ id run stored ⟨same, success⟩,
    fun none_ id run stored both => none_ id run stored both.1 both.2⟩

/-- A slot that can be claimed is claimed. -/
theorem claimScheduled_claimed (accepted : AcceptedClaim platform slug slot startedAt)
    (opened : SchedulerOpen connected db slug) (claimable : Claimable db.log slug slot) :
    claimScheduled platform connected slug slot startedAt db =
      .ok (.claimed (db.log.next, .claim slug (some slot) startedAt),
        { db with log := db.log.insert (.claim slug (some slot) startedAt) }) := by
  -- The guard selects the claim, and neither index refuses it.
  have selected := (scheduledGuard_iff opened).mpr ⟨claimable.uncovered, claimable.attemptsLeft⟩
  have free : (db.log.find? fun _ stored =>
      (SyncRun.claim slug (some slot) startedAt).conflicts stored).isSome = false := by
    rw [← Bool.not_eq_true, Table.find?_isSome]
    rintro ⟨id, stored, there, conflict⟩
    rw [claimable.free there] at conflict
    cases conflict
  have inserted : insertClaim platform (scheduledGuard connected slug slot db)
      (.claim slug (some slot) startedAt) db = .ok (some (db.log.next,
        .claim slug (some slot) startedAt,
        { db with log := db.log.insert (.claim slug (some slot) startedAt) })) := by
    rw [selected, insertClaim_selected accepted.startRead
      (by simpa [SyncRun.claim] using accepted.slotRead), free]
    rfl
  simp only [claimScheduled, bind_eq_ok]
  exact ⟨⟨⟩, accepted.named, ⟨⟩, accepted.slotShaped, ⟨⟩, accepted.startShaped, _, inserted, rfl⟩

/-- A slot that cannot be claimed is not. -/
theorem insertClaim_blocked (accepted : AcceptedClaim platform slug slot startedAt)
    (opened : SchedulerOpen connected db slug) (blocked : ¬Claimable db.log slug slot) :
    insertClaim platform (scheduledGuard connected slug slot db)
      (.claim slug (some slot) startedAt) db = .ok none := by
  cases selected : scheduledGuard connected slug slot db with
  | false => rfl
  | true =>
    -- The guard held, so an index is what refuses the claim.
    obtain ⟨uncovered, attemptsLeft⟩ := (scheduledGuard_iff opened).mp selected
    rw [insertClaim_selected accepted.startRead (by simpa [SyncRun.claim] using accepted.slotRead),
      if_pos]
    rw [Table.find?_isSome]
    -- Without a conflict every condition of a claim would hold.
    by_contra free
    refine blocked ⟨fun id run stored same running => free ?_, uncovered,
      fun id run stored attempt success => free ?_, attemptsLeft⟩
    · exact ⟨id, run, stored, conflicts_scheduled.mpr (Or.inl ⟨same, running⟩)⟩
    · refine ⟨id, run, stored, conflicts_scheduled.mpr (Or.inr ⟨attempt, ?_⟩)⟩
      rw [success]
      decide

/-- When nothing is running, no row of the connection is. -/
theorem currentRun_none (missing : currentRun slug db = none) :
    ∀ id run, (id, run) ∈ db.log → run.connectionSlug = slug → run.status ≠ .running := by
  intro id run stored same running
  have fails := latestRun_none missing stored
  simp [same, running] at fails

/-- The running run that is found is the only one. -/
theorem currentRun_only (schema : LogSchema db.log) {current : ℕ × SyncRun}
    (found : currentRun slug db = some current) (entry : ℕ × SyncRun) :
    (entry ∈ db.log ∧ entry.2.connectionSlug = slug ∧ entry.2.status = .running) ↔
      entry = current := by
  -- Any other running run would share the key of the one-running index.
  have latest := latestRun_some found
  have holds := latest.holds
  simp only [Bool.and_eq_true, beq_iff_eq] at holds
  constructor
  · rintro ⟨stored, same, running⟩
    obtain ⟨id, row⟩ := schema.oneRunning.row_eq stored latest.stored
      (oneRunning_iff.mpr ⟨same, running⟩) (oneRunning_iff.mpr holds)
    exact Prod.ext id row
  · rintro rfl
    exact ⟨latest.stored, holds⟩

/-- When no covering success is found, none is stored. -/
theorem successfulRunSince_none (missing : successfulRunSince slug slot db = none) :
    ∀ id run, (id, run) ∈ db.log → run.connectionSlug = slug → run.status = .success →
      ¬slot ≤ run.startedAt := by
  intro id run stored same success later
  have fails := latestRun_none missing stored
  simp [same, success, later] at fails

/-- What is left in the way of a claim when nothing is running and nothing covers the slot. -/
theorem blocked_reason (blocked : ¬Claimable db.log slug slot)
    (idle : ∀ id run, (id, run) ∈ db.log → run.connectionSlug = slug → run.status ≠ .running)
    (uncovered : ∀ id run, (id, run) ∈ db.log → run.connectionSlug = slug →
      run.status = .success → ¬slot ≤ run.startedAt) :
    (∃ id run, (id, run) ∈ db.log ∧ run.attempts slug slot = true ∧ run.status = .success) ∨
      maxScheduledAttempts ≤ failedAttempts db.log slug slot := by
  -- With neither reason, every condition of a claim would hold.
  by_contra neither
  rw [not_or, not_le] at neither
  exact blocked ⟨idle, uncovered,
    fun id run stored attempt success => neither.1 ⟨id, run, stored, attempt, success⟩, neither.2⟩

/-- Something that is in the way of a claim is an attempt at its slot. -/
theorem reason_attempt (reason : (∃ id run, (id, run) ∈ db.log ∧
      run.attempts slug slot = true ∧ run.status = .success) ∨
        maxScheduledAttempts ≤ failedAttempts db.log slug slot) :
    ∃ id run, (id, run) ∈ db.log ∧ run.attempts slug slot = true := by
  rcases reason with ⟨id, run, stored, attempt, -⟩ | exhausted
  · exact ⟨id, run, stored, attempt⟩
  · -- Without attempts none has failed, and then one is left.
    by_contra none_
    have zero : failedAttempts db.log slug slot = 0 := by
      refine Table.count_eq_zero.mpr fun id run stored => ?_
      cases attempt : run.attempts slug slot with
      | false => rfl
      | true => exact absurd ⟨id, run, stored, attempt⟩ none_
    rw [zero] at exhausted
    exact absurd exhausted (by decide)

/-- How a scheduled claim that was not inserted reports what is in the way. -/
def scheduledReport (slug slot : String) (db : Operations) :
    OperationResult (ClaimOutcome × Operations) :=
  match currentRun slug db with
  | some current =>
    if current.2.scheduledFor == some slot then pure (.alreadyScheduled current, db)
    else pure (.alreadyRunning current, db)
  | none =>
    match successfulRunSince slug slot db with
    | some coverage => pure (.coveredBySuccess coverage, db)
    | none =>
      match runForScheduledSlot slug slot db with
      | some existing => pure (.alreadyScheduled existing, db)
      | none => throw (.coordination
          "scheduled claim was not inserted, but no durable conflict remains")

/-- A slot that cannot be claimed leaves everything as it is, and what is in the way is reported. -/
theorem claimScheduled_refused (schema : LogSchema db.log)
    (accepted : AcceptedClaim platform slug slot startedAt)
    (opened : SchedulerOpen connected db slug) (blocked : ¬Claimable db.log slug slot) :
    ∃ outcome, claimScheduled platform connected slug slot startedAt db = .ok (outcome, db) ∧
      Refusal db.log slug slot outcome := by
  -- The diagnosis repeats the checks that passed, and then reports what it finds first.
  have refused := insertClaim_blocked accepted opened blocked
  obtain ⟨control, present, enabled, scheduled⟩ := opened.control
  have switched : requireSchedulerEnabled db = .ok control := by
    simp [requireSchedulerEnabled, requireWritesEnabled, controlOn, present, enabled, scheduled]
  have registered : requireConnection connected slug = .ok ⟨⟩ := ensure_eq_ok.mpr opened.connected
  have reported : ∀ outcome, scheduledReport slug slot db = .ok (outcome, db) →
      claimScheduled platform connected slug slot startedAt db = .ok (outcome, db) := by
    intro outcome report
    simp only [claimScheduled, bind_eq_ok]
    refine ⟨⟨⟩, accepted.named, ⟨⟩, accepted.slotShaped, ⟨⟩, accepted.startShaped, none, refused, ?_⟩
    exact bind_eq_ok.mpr ⟨control, switched, bind_eq_ok.mpr ⟨⟨⟩, registered, report⟩⟩
  cases live : currentRun slug db with
  | some current =>
    have only := currentRun_only schema live
    -- A running run is reported, as the slot's own or as another one.
    by_cases same : current.2.scheduledFor = some slot
    · refine ⟨_, reported _ ?_, .runningAtSlot current only same⟩
      simp [scheduledReport, live, same]
    · refine ⟨_, reported _ ?_, .runningElsewhere current only same⟩
      simp [scheduledReport, live, same]
  | none =>
    have idle := currentRun_none live
    cases success : successfulRunSince slug slot db with
    | some coverage =>
      -- Nothing is running, and a success covers the slot.
      refine ⟨_, reported _ ?_, .covered idle coverage (latestRun_some success)⟩
      simp [scheduledReport, live, success]
    | none =>
      have uncovered := successfulRunSince_none success
      have reason := blocked_reason blocked idle uncovered
      cases attempted : runForScheduledSlot slug slot db with
      | some existing =>
        obtain ⟨stored, attempt, last⟩ := runForScheduledSlot_some attempted
        refine ⟨_, reported _ ?_, .settled idle uncovered existing stored attempt last reason⟩
        simp [scheduledReport, live, success, attempted]
      | none =>
        -- Whatever is in the way is an attempt, so one is found.
        obtain ⟨id, run, stored, attempt⟩ := reason_attempt reason
        rw [runForScheduledSlot_none attempted stored] at attempt
        cases attempt

end Scheduled

/-! ### A refused claim always has a reason -/

/-- An insertion of a claim raises nothing but an error of the store. -/
theorem insertClaim_ne_coordination {platform : Platform} {selected : Bool} {run : SyncRun}
    {db : Operations} {message : String} :
    insertClaim platform selected run db ≠ .error (.coordination message) := by
  unfold insertClaim
  split
  · refine bind_ne_error (ensure_ne_error nofun) fun _ _ => ?_
    refine bind_ne_error (ensure_ne_error nofun) fun _ _ => ?_
    split <;> nofun
  · nofun

/-- When writes are off, no inconsistency is reported. -/
theorem requireWritesEnabled_ne {db : Operations} {message : String}
    (different : "operation-control singleton is missing" ≠ message) :
    requireWritesEnabled db ≠ .error (.coordination message) := by
  refine bind_ne_error (required_ne_error fun same => different ?_) fun _ _ => ?_
  · exact OperationError.coordination.inj same
  · exact bind_ne_error (ensure_ne_error nofun) fun _ _ => nofun

/-- A refused manual claim always finds the run that is in its way. -/
theorem claimManual_consistent (platform : Platform) (connected : String → Bool)
    (slug startedAt : String) (db : Operations) :
    claimManual platform connected slug startedAt db ≠ .error (.coordination
      "manual claim was not inserted, but no running conflict remains") := by
  refine bind_ne_error (ensure_ne_error nofun) fun _ _ => ?_
  refine bind_ne_error (ensure_ne_error nofun) fun _ _ => ?_
  -- The checks and the insertion raise other errors; what is left is the diagnosis.
  refine bind_ne_error insertClaim_ne_coordination fun inserted claim => ?_
  cases inserted with
  | some claimed => nofun
  | none =>
    refine bind_ne_error (requireWritesEnabled_ne (by decide)) fun control writable => ?_
    refine bind_ne_error (ensure_ne_error nofun) fun _ registered => ?_
    cases live : currentRun slug db with
    | some current => nofun
    | none =>
      -- The claim was selected, so an index refused it, and only a running run can.
      simp only [requireWritesEnabled, controlOn, bind_eq_ok, required_eq_ok, ensure_eq_ok,
        pure_eq_ok] at writable
      obtain ⟨_, present, _, enabled, rfl⟩ := writable
      simp only [requireConnection, ensure_eq_ok] at registered
      have selected : (db.control.any (·.mode == .enabled) && connected slug) = true := by
        simp [present, enabled, registered]
      rw [selected] at claim
      obtain ⟨id, stored, there, conflict⟩ := insertClaim_none claim
      obtain ⟨same, running⟩ := conflicts_manual.mp conflict
      exact absurd running (currentRun_none live id stored there same)

/-- A refused scheduled claim always finds what is in its way. -/
theorem claimScheduled_consistent (platform : Platform) (connected : String → Bool)
    (slug slot startedAt : String) (db : Operations) :
    claimScheduled platform connected slug slot startedAt db ≠ .error (.coordination
      "scheduled claim was not inserted, but no durable conflict remains") := by
  refine bind_ne_error (ensure_ne_error (by rintro ⟨⟩)) fun _ _ => ?_
  refine bind_ne_error (ensure_ne_error (by rintro ⟨⟩)) fun _ _ => ?_
  refine bind_ne_error (ensure_ne_error (by rintro ⟨⟩)) fun _ _ => ?_
  refine bind_ne_error insertClaim_ne_coordination fun inserted claim => ?_
  cases inserted with
  | some claimed => rintro ⟨⟩
  | none =>
    refine bind_ne_error ?_ fun control open_ => ?_
    · refine bind_ne_error (requireWritesEnabled_ne (by decide)) fun control writable => ?_
      exact bind_ne_error (ensure_ne_error (by rintro ⟨⟩)) fun _ _ => by rintro ⟨⟩
    refine bind_ne_error (ensure_ne_error (by rintro ⟨⟩)) fun _ registered => ?_
    simp only [requireSchedulerEnabled, requireWritesEnabled, controlOn, bind_eq_ok, required_eq_ok,
      ensure_eq_ok, pure_eq_ok, beq_iff_eq] at open_
    obtain ⟨_, ⟨_, present, _, enabled, rfl⟩, _, scheduled, rfl⟩ := open_
    simp only [requireConnection, ensure_eq_ok] at registered
    have opened : SchedulerOpen connected db slug :=
      ⟨⟨_, present, enabled, scheduled⟩, registered⟩
    -- The checks passed, so a slot that can be claimed would have been claimed.
    have blocked : ¬Claimable db.log slug slot := by
      intro claimable
      have selected := (scheduledGuard_iff opened).mpr
        ⟨claimable.uncovered, claimable.attemptsLeft⟩
      rw [scheduledGuard] at selected
      rw [selected] at claim
      obtain ⟨id, stored, there, conflict⟩ := insertClaim_none claim
      rw [claimable.free there] at conflict
      cases conflict
    cases live : currentRun slug db with
    | some current => dsimp only; split <;> rintro ⟨⟩
    | none =>
      cases success : successfulRunSince slug slot db with
      | some coverage => rintro ⟨⟩
      | none =>
        cases attempted : runForScheduledSlot slug slot db with
        | some existing => rintro ⟨⟩
        | none =>
          -- Neither a running run nor a success is in the way, so an attempt is.
          have reason := blocked_reason blocked (currentRun_none live)
            (successfulRunSince_none success)
          obtain ⟨id, run, stored, attempt⟩ := reason_attempt reason
          rw [runForScheduledSlot_none attempted stored] at attempt
          cases attempt

/--
A scheduled claim is inserted exactly when its slot can be claimed, a refused one changes nothing
and reports what is in the way, and neither kind of claim ever finds nothing in the way.
-/
theorem claimScheduled_decides {platform : Platform} {connected : String → Bool}
    {slug slot startedAt : String} {db : Operations} (schema : LogSchema db.log)
    (accepted : AcceptedClaim platform slug slot startedAt)
    (opened : SchedulerOpen connected db slug) :
    (Claimable db.log slug slot → claimScheduled platform connected slug slot startedAt db =
      .ok (.claimed (db.log.next, .claim slug (some slot) startedAt),
        { db with log := db.log.insert (.claim slug (some slot) startedAt) })) ∧
    (¬Claimable db.log slug slot → ∃ outcome,
      claimScheduled platform connected slug slot startedAt db = .ok (outcome, db) ∧
        Refusal db.log slug slot outcome) ∧
    (∀ slug slot startedAt (db : Operations),
      claimScheduled platform connected slug slot startedAt db ≠ .error (.coordination
        "scheduled claim was not inserted, but no durable conflict remains")) ∧
    ∀ slug startedAt (db : Operations),
      claimManual platform connected slug startedAt db ≠ .error (.coordination
        "manual claim was not inserted, but no running conflict remains") :=
  ⟨claimScheduled_claimed accepted opened, claimScheduled_refused schema accepted opened,
    fun slug slot startedAt db =>
      claimScheduled_consistent platform connected slug slot startedAt db,
    fun slug startedAt db => claimManual_consistent platform connected slug startedAt db⟩

/-- After its first owner was interrupted, a slot is claimed again. -/
theorem claimScheduled_decides_again :
    claimScheduled plainPlatform (· == "tmo") "tmo" (onTheDay "09:00") (onTheDay "09:20")
      interruptedOperations = .ok (.claimed (2, .claim "tmo" (some (onTheDay "09:00"))
        (onTheDay "09:20")), { interruptedOperations with
          log := interruptedOperations.log.insert (.claim "tmo" (some (onTheDay "09:00"))
            (onTheDay "09:20")) }) := by
  have interrupted : (coordination plainPlatform).Run freshOperations
      (interruptedOps.map ((· == "tmo"), ·)) interruptedOperations :=
    coordinateAll_run interruptedOps (eq_ok_getD (by decide +kernel) _)
  have coordinated := coordination_coordinated (interrupted.reachable (.init rfl))
  have accepted : AcceptedClaim plainPlatform "tmo" (onTheDay "09:00") (onTheDay "09:20") :=
    ⟨by decide +kernel, by decide +kernel, by decide +kernel, rfl, rfl⟩
  have opened : SchedulerOpen (· == "tmo") interruptedOperations "tmo" :=
    ⟨⟨⟨.enabled, true, onTheDay "08:00"⟩, by decide +kernel, rfl, rfl⟩, rfl⟩
  -- The only row is the failed attempt.
  have failed : ∀ entry ∈ interruptedOperations.log.rows, entry.2.status = .error := by
    decide +kernel
  have claimable : Claimable interruptedOperations.log "tmo" (onTheDay "09:00") := by
    refine ⟨fun id run stored _ running => ?_, fun id run stored _ success _ => ?_,
      fun id run stored _ success => ?_, by decide +kernel⟩
    · rw [failed (id, run) stored] at running
      cases running
    · rw [failed (id, run) stored] at success
      cases success
    · rw [failed (id, run) stored] at success
      cases success
  have decided := (claimScheduled_decides ⟨coordinated.oneRunning, coordinated.oneScheduledSlot⟩
    accepted opened).1 claimable
  have next : interruptedOperations.log.next = 2 := by decide +kernel
  rwa [next] at decided

end FinStream
