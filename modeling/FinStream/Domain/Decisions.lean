import FinStream.Domain.System

/-! What users decided about events, and what was received, outlasts every later transaction. -/

namespace FinStream

open Store

variable {platform : Platform}

/-- The columns a user overrides. -/
def StreamEvent.overrides (event : StreamEvent) :
    Option String × Bool × Option IsoDate × Option ℚ × Option ℕ × Bool :=
  (event.overrideLabel, event.hasLabelOverride, event.overrideDate, event.overrideAmount,
    event.overrideAccountId, event.hasAccountOverride)

/-- Whether a transaction takes back the user's exclusion of the event. -/
def DomainOp.Restores (eventId : ℕ) (op : DomainOp) : Prop :=
  ∃ now, op = .finance (.restoreScheduledEvent now eventId)

/-- Whether a transaction patches the event. -/
def DomainOp.Patches (eventId : ℕ) (op : DomainOp) : Prop :=
  ∃ now patch, op = .finance (.patchEvent now eventId patch)

/-- Only open events change, the provider's own history apart. -/
theorem change_open {op : DomainOp} {schedules : Table StreamSchedule} {id : ℕ}
    {before after : StreamEvent} (changed : (op.eventRules schedules).change id before after) :
    before.isOpen = true ∨ before.sourceType = some .tmoHistory := by
  cases op with
  | finance op =>
    left
    cases op with
    | saveStream | refreshStreamScheduleEvents | deleteStream | bootstrapDefaults =>
      rcases changed with ⟨now, open_, -, -⟩ | ⟨-, open_, -⟩ <;> exact open_
    | patchEvent | reconcileEvent =>
      have user := changed.2.1
      simp only [isUserEvent, Bool.and_eq_true] at user
      exact user.1
    | removeEvent | restoreScheduledEvent =>
      have projection := changed.2.1
      simp only [isOpenProjection, Bool.and_eq_true] at projection
      exact projection.2
    | saveAccount | ensurePrimaryAccount | setStartingBalance | saveView | createManualEvent =>
      exact changed.elim
  | tmoSync => exact .inr changed.1
  | tmoError | monarchBalance | monarchError => exact changed.elim

/-- Only open manual events are deleted, provider history and obsolete projections apart. -/
theorem remove_open {op : DomainOp} {schedules : Table StreamSchedule} {id : ℕ}
    {before : StreamEvent} (removed : (op.eventRules schedules).remove id before) :
    (before.sourceType = some .manual ∧ before.isOpen = true) ∨
      before.sourceType = some .tmoHistory ∨ before.sourceType = some .schedule := by
  cases op with
  | finance op =>
    cases op with
    | removeEvent => exact .inl removed.2
    | patchEvent | restoreScheduledEvent | reconcileEvent => exact removed.2.elim
    | saveStream | refreshStreamScheduleEvents | deleteStream | bootstrapDefaults | saveAccount
    | ensurePrimaryAccount | setStartingBalance | saveView | createManualEvent =>
      exact removed.elim
  | tmoSync => exact .inr removed
  | tmoError | monarchBalance | monarchError => exact removed.elim

/-- A user's exclusion of a projection is kept by everything but its restoration. -/
theorem change_exclusion {op : DomainOp} {schedules : Table StreamSchedule} {id : ℕ}
    {before after : StreamEvent} (kept : ¬ op.Restores id)
    (changed : (op.eventRules schedules).change id before after)
    (projected : before.sourceType = some .streamSchedule)
    (excluded : before.exclusionReason = some .user) : after.exclusionReason = some .user := by
  cases op with
  | finance op =>
    cases op with
    | saveStream | refreshStreamScheduleEvents | deleteStream | bootstrapDefaults =>
      -- A retirement spares what the user decided, and a projection keeps it.
      rcases changed with ⟨now, -, -, undecided⟩ | ⟨-, open_, -⟩
      · exact absurd excluded undecided
      · simp [StreamEvent.reprojected, open_, excluded]
    | patchEvent =>
      obtain ⟨-, -, rfl⟩ := changed
      exact excluded
    | removeEvent =>
      obtain ⟨-, -, rfl⟩ := changed
      rfl
    | restoreScheduledEvent now eventId =>
      obtain ⟨rfl, -⟩ := changed
      -- The one operation that takes an exclusion back is the one left out.
      exact absurd ⟨now, rfl⟩ kept
    | reconcileEvent =>
      obtain ⟨-, -, counted, -⟩ := changed
      simp [StreamEvent.isExcluded, excluded] at counted
    | saveAccount | ensurePrimaryAccount | setStartingBalance | saveView | createManualEvent =>
      exact changed.elim
  | tmoSync =>
    rw [changed.1] at projected
    cases projected
  | tmoError | monarchBalance | monarchError => exact changed.elim

/-- The override columns of an event are kept by everything but a patch of that event. -/
theorem change_overrides {op : DomainOp} {schedules : Table StreamSchedule} {id : ℕ}
    {before after : StreamEvent} (kept : ¬ op.Patches id)
    (changed : (op.eventRules schedules).change id before after) :
    after.overrides = before.overrides := by
  cases op with
  | finance op =>
    cases op with
    | saveStream | refreshStreamScheduleEvents | deleteStream | bootstrapDefaults =>
      -- Retirements and projections write the seed, not the overrides.
      rcases changed with ⟨now, -, -, -⟩ | ⟨-, open_, -⟩
      · rfl
      · rw [StreamEvent.reprojected, if_pos open_]
        rfl
    | patchEvent now eventId patch =>
      obtain ⟨rfl, -⟩ := changed
      -- Only a patch writes overrides, and this one is left out.
      exact absurd ⟨now, patch, rfl⟩ kept
    | removeEvent =>
      obtain ⟨-, -, rfl⟩ := changed
      rfl
    | restoreScheduledEvent =>
      obtain ⟨-, -, -, rfl⟩ := changed
      rfl
    | reconcileEvent =>
      obtain ⟨-, -, -, rfl⟩ := changed
      rfl
    | saveAccount | ensurePrimaryAccount | setStartingBalance | saveView | createManualEvent =>
      exact changed.elim
  | tmoSync =>
    obtain ⟨-, fresh, rfl⟩ := changed
    rfl
  | tmoError | monarchBalance | monarchError => exact changed.elim

/-- A received manual or scheduled event stays as it is through every run. -/
theorem received_terminal {before after : Domain} {ops : List DomainOp} {id : ℕ}
    {event : StreamEvent} (reached : (domainSystem platform).Reachable before)
    (run : (domainSystem platform).Run before ops after)
    (stored : (id, event) ∈ before.finance.events) (received : event.status = .received)
    (source : event.sourceType = some .manual ∨ event.sourceType = some .streamSchedule) :
    (id, event) ∈ after.finance.events := by
  -- No rule applies to such a row, so a step can only keep it.
  have closed : event.isOpen ≠ true := fun open_ => StreamEvent.isOpen_iff.mp open_ received
  have foreign : event.sourceType ≠ some .tmoHistory ∧ event.sourceType ≠ some .schedule := by
    rcases source with same | same <;> simp [same]
  refine run.preserves reached (fun db => (id, event) ∈ db.finance.events) (fun _ => True)
    (fun op before after earlier _ there done => ?_) (fun _ _ => trivial) stored
  have committed := DomainOp.commit_committed (reachable_consistent earlier) done
  have unchanged : ∀ old now, old = event →
      (op.eventRules after.finance.schedules).change id old now → now = event := by
    rintro _ now rfl changed
    rcases change_open changed with open_ | history
    · exact absurd open_ closed
    · exact absurd history foreign.1
  have unremoved : ∀ old, old = event →
      ¬ (op.eventRules after.finance.schedules).remove id old := by
    rintro _ rfl removed
    rcases remove_open removed with ⟨-, open_⟩ | history | obsolete
    · exact absurd open_ closed
    · exact absurd history foreign.1
    · exact absurd obsolete foreign.2
  obtain ⟨now, kept, rfl⟩ := committed.events.survives (· = event) unchanged unremoved there rfl
  exact kept

/-- A stream is saved, its first week is paid, and its second week is moved and then excluded. -/
def decidedOps : List DomainOp := [
  .finance (.saveStream "2026-01-05T00:00:00Z"
    (allowanceStream none [weeklySchedule none firstMonday]) twoWeeks),
  .finance (.reconcileEvent "2026-01-05T00:00:00Z" 1 firstMonday (.finite 90)),
  .finance (.patchEvent "2026-01-05T00:00:00Z" 2 ⟨.keep, .keep, .set (.finite 80), .keep, .keep⟩),
  .finance (.removeEvent "2026-01-05T00:00:00Z" 2)]

/-- The schedule is moved by a week, and the stream is deleted. -/
def overhaulOps : List DomainOp := [
  .finance (.saveStream "2026-01-06T00:00:00Z"
    (allowanceStream (some 1) [weeklySchedule (some 1) secondMonday]) twoWeeks),
  .finance (.deleteStream "2026-01-06T00:00:00Z" 1)]

/-- The state after the user's decisions. -/
def decidedDomain : Domain := replay plainPlatform decidedOps .registered

/-- The state after the overhaul. -/
def overhauledDomain : Domain := replay plainPlatform overhaulOps decidedDomain

/-- The user's decisions lead to a reachable state. -/
theorem decidedDomain_reachable : (domainSystem plainPlatform).Reachable decidedDomain :=
  replay_reachable (by decide +kernel)

/-- The overhaul follows the user's decisions. -/
theorem overhauledDomain_run :
    (domainSystem plainPlatform).Run decidedDomain overhaulOps overhauledDomain :=
  commitAll_run _ (commitAll_replay (by decide +kernel))

/-- The event of the first week, as it was projected. -/
def firstWeek : StreamEvent :=
  projectedEvent "2026-01-05T00:00:00Z" 1 "Allowance" 1
    ((weeklySchedule none firstMonday).row "2026-01-05T00:00:00Z" 1) firstMonday

/-- The event of the first week, once it is paid. -/
def paidWeek : StreamEvent :=
  { firstWeek with actualDate := some firstMonday, actualAmount := some 90, status := .received }

/-- The event of the second week, once it is moved and excluded. -/
def excludedWeek : StreamEvent :=
  { projectedEvent "2026-01-05T00:00:00Z" 1 "Allowance" 1
      ((weeklySchedule none firstMonday).row "2026-01-05T00:00:00Z" 1) secondMonday with
    overrideAmount := some 80
    exclusionReason := some .user }

/-- The paid week outlasts the overhaul. -/
theorem received_terminal_overhaul : (1, paidWeek) ∈ overhauledDomain.finance.events :=
  received_terminal decidedDomain_reachable overhauledDomain_run
    (Table.get?_eq_some.mp (by decide +kernel)) rfl (.inr rfl)

/-- A projection a user excluded stays excluded by the user through every run that spares it. -/
theorem exclusion_durable {before after : Domain} {ops : List DomainOp} {id : ℕ}
    {event : StreamEvent} (reached : (domainSystem platform).Reachable before)
    (run : (domainSystem platform).Run before ops after)
    (stored : (id, event) ∈ before.finance.events)
    (projected : event.sourceType = some .streamSchedule)
    (excluded : event.exclusionReason = some .user) (kept : ∀ op ∈ ops, ¬ op.Restores id) :
    ∃ now, (id, now) ∈ after.finance.events ∧ now.exclusionReason = some .user := by
  -- The invariant of the run also keeps the source type, on which the rules depend.
  have survives : ∃ now, (id, now) ∈ after.finance.events ∧
      now.sourceType = some .streamSchedule ∧ now.exclusionReason = some .user := by
    refine run.preserves reached (fun db => ∃ now, (id, now) ∈ db.finance.events ∧
      now.sourceType = some .streamSchedule ∧ now.exclusionReason = some .user)
      (fun op => ¬ op.Restores id) ?_ kept ⟨event, stored, projected, excluded⟩
    rintro op before after earlier spared ⟨row, there, type, reason⟩ done
    have committed := DomainOp.commit_committed (reachable_consistent earlier) done
    refine committed.events.survives (fun now => now.sourceType = some .streamSchedule ∧
      now.exclusionReason = some .user) ?_ ?_ there ⟨type, reason⟩
    · rintro old now ⟨type, reason⟩ changed
      have origin := domainRules_origin op _ changed
      simp only [StreamEvent.origin, Prod.mk.injEq] at origin
      exact ⟨origin.2.1.trans type, change_exclusion spared changed type reason⟩
    · rintro old ⟨type, -⟩ removed
      rcases remove_open removed with ⟨manual, -⟩ | history | obsolete <;> simp_all
  obtain ⟨now, there, -, reason⟩ := survives
  exact ⟨now, there, reason⟩

/-- Override columns stay as they are through every run that does not patch the event. -/
theorem overrides_durable {before after : Domain} {ops : List DomainOp} {id : ℕ}
    {event now : StreamEvent} (reached : (domainSystem platform).Reachable before)
    (run : (domainSystem platform).Run before ops after)
    (stored : (id, event) ∈ before.finance.events) (there : (id, now) ∈ after.finance.events)
    (kept : ∀ op ∈ ops, ¬ op.Patches id) : now.overrides = event.overrides := by
  -- The id stays used up, so a row found under it later descends from this one.
  have holds : id < after.finance.events.next ∧
      ∀ now, (id, now) ∈ after.finance.events → now.overrides = event.overrides := by
    refine run.preserves reached (fun db => id < db.finance.events.next ∧
      ∀ now, (id, now) ∈ db.finance.events → now.overrides = event.overrides)
      (fun op => ¬ op.Patches id) ?_ kept
      ⟨Table.lt_next stored, fun now there => by rw [Table.unique there stored]⟩
    rintro op before after earlier spared ⟨used, same⟩ done
    have committed := DomainOp.commit_committed (reachable_consistent earlier) done
    refine ⟨used.trans_le committed.events.next_le, fun now there => ?_⟩
    obtain ⟨row, origin, -⟩ := committed.events.origin id now there used
    rw [committed.events.column_eq (fun _ _ => change_overrides spared) origin there]
    exact same row origin
  exact holds.2 now there

/-- No two events stand for the same slot of the same schedule. -/
theorem slot_unique {db : Domain} {left right scheduleId : ℕ} {leftEvent rightEvent : StreamEvent}
    {slot : Slot} (reached : (domainSystem platform).Reachable db)
    (leftStored : (left, leftEvent) ∈ db.finance.events)
    (rightStored : (right, rightEvent) ∈ db.finance.events)
    (leftSource : leftEvent.sourceId = some (.streamSchedule scheduleId slot))
    (rightSource : rightEvent.sourceId = some (.streamSchedule scheduleId slot)) :
    left = right := by
  -- Both events are on the stream of the one schedule, so they share the UNIQUE key.
  obtain ⟨leftType, _, _, schedule, source, there, stream⟩ :=
    reachable_scheduled reached left leftEvent leftStored (.inr ⟨_, _, leftSource⟩)
  obtain ⟨rightType, _, _, other, source', there', stream'⟩ :=
    reachable_scheduled reached right rightEvent rightStored (.inr ⟨_, _, rightSource⟩)
  rw [leftSource, Option.some.injEq, SourceId.streamSchedule.injEq] at source
  rw [rightSource, Option.some.injEq, SourceId.streamSchedule.injEq] at source'
  rw [← source.1] at there
  rw [← source'.1] at there'
  obtain rfl := Table.unique there there'
  exact (reachable_consistent reached).eventKeys _ _ _ _ _ leftStored rightStored
    (StreamEvent.key_eq_some.mpr ⟨stream.symm, leftType, leftSource⟩)
    (StreamEvent.key_eq_some.mpr ⟨stream'.symm, rightType, rightSource⟩)

/-- Users' decisions about projected events outlast every run that does not take them back. -/
theorem user_decisions_durable {before : Domain}
    (reached : (domainSystem platform).Reachable before) :
    (∀ ops after id event, (domainSystem platform).Run before ops after →
      (id, event) ∈ before.finance.events → event.sourceType = some .streamSchedule →
      event.exclusionReason = some .user → (∀ op ∈ ops, ¬ op.Restores id) →
      ∃ now, (id, now) ∈ after.finance.events ∧ now.exclusionReason = some .user) ∧
    (∀ ops after id event now, (domainSystem platform).Run before ops after →
      (id, event) ∈ before.finance.events → (id, now) ∈ after.finance.events →
      (∀ op ∈ ops, ¬ op.Patches id) → now.overrides = event.overrides) ∧
    (∀ left right leftEvent rightEvent scheduleId slot,
      (left, leftEvent) ∈ before.finance.events → (right, rightEvent) ∈ before.finance.events →
      leftEvent.sourceId = some (.streamSchedule scheduleId slot) →
      rightEvent.sourceId = some (.streamSchedule scheduleId slot) → left = right) := by
  refine ⟨?_, ?_, ?_⟩
  · intro ops after id event run stored projected excluded kept
    exact exclusion_durable reached run stored projected excluded kept
  · intro ops after id event now run stored there kept
    exact overrides_durable reached run stored there kept
  · intro left right leftEvent rightEvent scheduleId slot leftStored rightStored leftSource
      rightSource
    exact slot_unique reached leftStored rightStored leftSource rightSource

/-- The excluded week outlasts the overhaul, with the amount the user gave it. -/
theorem user_decisions_durable_overhaul :
    (∃ now, (2, now) ∈ overhauledDomain.finance.events ∧ now.exclusionReason = some .user) ∧
    (∀ now, (2, now) ∈ overhauledDomain.finance.events → now.overrides = excludedWeek.overrides) ∧
    ∀ other event, (other, event) ∈ decidedDomain.finance.events →
      event.sourceId = some (.streamSchedule 1 (.weekly 1)) → 2 = other := by
  obtain ⟨excluded, overrides, slots⟩ := user_decisions_durable decidedDomain_reachable
  have stored : (2, excludedWeek) ∈ decidedDomain.finance.events :=
    Table.get?_eq_some.mp (by decide +kernel)
  refine ⟨?_, fun now there => ?_, fun other event there source => ?_⟩
  · exact excluded _ _ _ _ overhauledDomain_run stored rfl rfl
      (by simp [overhaulOps, DomainOp.Restores])
  · exact overrides _ _ _ _ _ overhauledDomain_run stored there
      (by simp [overhaulOps, DomainOp.Patches])
  · exact slots _ _ _ _ _ _ stored there (by decide) source

end FinStream
