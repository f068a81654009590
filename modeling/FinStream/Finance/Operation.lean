import FinStream.Finance.Repository
import FinStream.Store.Evolution
import FinStream.Store.Key

/-! The finance operations, and what each of them may do to the rows of events and schedules. -/

namespace FinStream

open Store

/-- The write operations of the repository, each with its clock reading and its arguments. -/
inductive FinanceOp where
  | saveAccount (now : String) (draft : AccountDraft)
  | ensurePrimaryAccount (now : String)
  | setStartingBalance (now : String) (amount : F64) (asOfDate : IsoDate) (sourceType : String)
      (sourceRef metadata : Option String)
  | saveStream (now : String) (draft : StreamDraft) (window : ProjectionWindow)
  | refreshStreamScheduleEvents (now : String) (streamId : ℕ) (window : ProjectionWindow)
  | deleteStream (now : String) (streamId : ℕ)
  | saveView (now : String) (draft : StreamViewDraft)
  | createManualEvent (now : String) (draft : EventDraft)
  | patchEvent (now : String) (eventId : ℕ) (patch : EventPatch)
  | removeEvent (now : String) (eventId : ℕ)
  | restoreScheduledEvent (now : String) (eventId : ℕ)
  | reconcileEvent (now : String) (eventId : ℕ) (actualDate : IsoDate) (actualAmount : F64)
  | bootstrapDefaults (now : String) (today : IsoDate)

/-- The tables one operation commits, or the error it rolls back with. -/
def FinanceOp.apply (platform : Platform) : FinanceOp → Finance → FinanceResult Finance
  | .saveAccount now draft, db => (FinStream.saveAccount now draft db).map Prod.snd
  | .ensurePrimaryAccount now, db => pure (ensurePrimaryAccountOn now db).2
  | .setStartingBalance now amount asOfDate sourceType sourceRef metadata, db =>
    FinStream.setStartingBalance platform now amount asOfDate sourceType sourceRef metadata db
  | .saveStream now draft window, db =>
    (FinStream.saveStream platform now draft window db).map Prod.snd
  | .refreshStreamScheduleEvents now streamId window, db =>
    (FinStream.refreshStreamScheduleEvents now streamId window db).map Prod.snd
  | .deleteStream now streamId, db => FinStream.deleteStream now streamId db
  | .saveView now draft, db => (FinStream.saveView now draft db).map Prod.snd
  | .createManualEvent now draft, db =>
    (FinStream.createManualEvent platform now draft db).map Prod.snd
  | .patchEvent now eventId patch, db => FinStream.patchEvent now eventId patch db
  | .removeEvent now eventId, db => FinStream.removeEvent now eventId db
  | .restoreScheduledEvent now eventId, db => FinStream.restoreScheduledEvent now eventId db
  | .reconcileEvent now eventId actualDate actualAmount, db =>
    FinStream.reconcileEvent now eventId actualDate actualAmount db
  | .bootstrapDefaults now today, db => (FinStream.bootstrapDefaults now today db).map Prod.snd

/-! ### Events -/

/-- A row a refresh may insert: an occurrence of a stored schedule, on the schedule's stream. -/
def IsProjection (schedules : Table StreamSchedule) (event : StreamEvent) : Prop :=
  ∃ now name id schedule occurrence, (id, schedule) ∈ schedules ∧
    event = projectedEvent now schedule.streamId name id schedule occurrence

/-- What refreshing and deleting streams may do to an event. -/
inductive Projects (schedules : Table StreamSchedule) (event : StreamEvent) : StreamEvent → Prop
  | tombstoned (now : String) : event.isOpen = true →
      event.sourceType = some .streamSchedule → event.exclusionReason ≠ some .user →
      Projects schedules event (event.tombstoned now)
  | reprojected {fresh : StreamEvent} : IsProjection schedules fresh → event.isOpen = true →
      sameSource fresh event = true → Projects schedules event (fresh.reprojected event)

/-- The rules of every operation that projects schedules onto events. -/
def projectionRules (schedules : Table StreamSchedule) : Rules StreamEvent where
  create := IsProjection schedules
  change _ := Projects schedules
  remove _ _ := False

/-- The rules of an operation on one event, which inserts nothing. -/
def eventRules (eventId : ℕ) (change : StreamEvent → StreamEvent → Prop)
    (remove : StreamEvent → Prop) : Rules StreamEvent where
  create _ := False
  change id before after := id = eventId ∧ change before after
  remove id before := id = eventId ∧ remove before

/-- What each operation may do to event rows, given the schedules it leaves behind. -/
def FinanceOp.eventRules (schedules : Table StreamSchedule) : FinanceOp → Rules StreamEvent
  | .saveStream .. | .refreshStreamScheduleEvents .. | .deleteStream .. | .bootstrapDefaults .. =>
    projectionRules schedules
  | .createManualEvent now draft => {
      create := fun row => draft.status ≠ .received ∧
        ∃ id, row = { draft.row now with sourceId := some (.manual id) }
      change := fun _ _ _ => False
      remove := fun _ _ => False }
  | .patchEvent now eventId patch =>
    FinStream.eventRules eventId
      (fun before after => isUserEvent before = true ∧ after = before.patched now patch)
      fun _ => False
  | .removeEvent now eventId =>
    FinStream.eventRules eventId
      (fun before after => isOpenProjection before = true ∧
        after = { before with exclusionReason := some .user, updatedAt := now })
      fun before => before.sourceType = some .manual ∧ before.isOpen = true
  | .restoreScheduledEvent now eventId =>
    FinStream.eventRules eventId
      (fun before after => isOpenProjection before = true ∧
        before.exclusionReason = some .user ∧
        after = { before with exclusionReason := none, updatedAt := now })
      fun _ => False
  | .reconcileEvent now eventId actualDate actualAmount =>
    FinStream.eventRules eventId
      (fun before after => isUserEvent before = true ∧ before.isExcluded = false ∧
        after = { before with
          actualDate := actualDate
          actualAmount := actualAmount.value
          status := .received
          updatedAt := now })
      fun _ => False
  | .saveAccount .. | .ensurePrimaryAccount .. | .setStartingBalance .. | .saveView .. => {
      create := fun _ => False
      change := fun _ _ _ => False
      remove := fun _ _ => False }

/-- Rows in the other status are exactly the received ones. -/
theorem StreamEvent.isOpen_iff {event : StreamEvent} :
    event.isOpen = true ↔ event.status ≠ .received := by
  cases status : event.status <;> simp [StreamEvent.isOpen, status]

/-- Rows conflict exactly when they share a key. -/
theorem sameSource_iff {left right : StreamEvent} :
    sameSource left right = true ↔ ∃ key, left.key = some key ∧ right.key = some key := by
  simp only [sameSource, Bool.and_eq_true, beq_iff_eq, Option.isSome_iff_exists]
  constructor
  · rintro ⟨⟨key, has⟩, same⟩
    exact ⟨key, has, same ▸ has⟩
  · rintro ⟨key, leftKey, rightKey⟩
    exact ⟨⟨key, leftKey⟩, leftKey.trans rightKey.symm⟩

/-- The key of a row names its stream, its source type and its source id. -/
theorem StreamEvent.key_eq_some {event : StreamEvent} {streamId : ℕ} {sourceType : SourceType}
    {sourceId : SourceId} : event.key = some (streamId, sourceType, sourceId) ↔
      event.streamId = streamId ∧ event.sourceType = some sourceType ∧
        event.sourceId = some sourceId := by
  unfold StreamEvent.key
  split <;> simp_all

/-- Rows of one origin have one key. -/
theorem StreamEvent.key_congr {left right : StreamEvent} (same : left.origin = right.origin) :
    left.key = right.key := by
  simp only [StreamEvent.origin, Prod.mk.injEq] at same
  simp only [StreamEvent.key, same]

/-- Rules that leave origins alone leave keys alone. -/
theorem fixes_key {rules : Rules StreamEvent}
    (fixes : ∀ id before after, rules.change id before after → after.origin = before.origin) :
    rules.Fixes StreamEvent.key :=
  fun id before after changed => StreamEvent.key_congr (fixes id before after changed)

/-- Projecting schedules leaves the origins of events alone. -/
theorem projectionRules_origin (schedules : Table StreamSchedule) {id : ℕ}
    {before after : StreamEvent} (changed : (projectionRules schedules).change id before after) :
    after.origin = before.origin := by
  rcases changed with ⟨now, -, -, -⟩ | ⟨-, open_, -⟩
  · rfl
  · rw [StreamEvent.reprojected, if_pos open_]
    rfl

/-- Projecting schedules leaves the keys of events alone. -/
theorem projectionRules_fixes (schedules : Table StreamSchedule) :
    (projectionRules schedules).Fixes StreamEvent.key :=
  fixes_key fun _ _ _ => projectionRules_origin schedules

/-- No operation changes the origin of a stored event. -/
theorem eventRules_origin (op : FinanceOp) (schedules : Table StreamSchedule) {id : ℕ}
    {before after : StreamEvent} (changed : (op.eventRules schedules).change id before after) :
    after.origin = before.origin := by
  cases op with
  | saveStream | refreshStreamScheduleEvents | deleteStream | bootstrapDefaults =>
    exact projectionRules_origin schedules changed
  | patchEvent =>
    obtain ⟨-, -, rfl⟩ := changed
    rfl
  | removeEvent =>
    obtain ⟨-, -, rfl⟩ := changed
    rfl
  | restoreScheduledEvent =>
    obtain ⟨-, -, -, rfl⟩ := changed
    rfl
  | reconcileEvent =>
    obtain ⟨-, -, -, rfl⟩ := changed
    rfl
  | saveAccount | ensurePrimaryAccount | setStartingBalance | saveView | createManualEvent =>
    exact changed.elim

/-- No operation changes the key of a stored event. -/
theorem eventRules_fixes (op : FinanceOp) (schedules : Table StreamSchedule) :
    (op.eventRules schedules).Fixes StreamEvent.key :=
  fixes_key fun _ _ _ => eventRules_origin op schedules

/-- Retiring projections follows the projection rules. -/
theorem retireProjections_writes (schedules : Table StreamSchedule) (now : String) (streamId : ℕ)
    (window : ProjectionWindow) (events : Table StreamEvent) :
    Writes (projectionRules schedules) StreamEvent.key events
      (retireProjections now streamId window events) := by
  refine Writes.updateWhere (projectionRules_fixes schedules) fun id event _ retirable => ?_
  simp only [isRetirable, Bool.and_eq_true, beq_iff_eq, bne_iff_ne] at retirable
  exact .single (.tombstoned now retirable.1.1.2 retirable.1.1.1.1.2 retirable.2)

/-- Storing one occurrence follows the projection rules. -/
theorem upsertProjection_writes {schedules : Table StreamSchedule} {fresh : StreamEvent}
    (projection : IsProjection schedules fresh) (events : Table StreamEvent) :
    Writes (projectionRules schedules) StreamEvent.key events (upsertProjection fresh events) := by
  refine Writes.upsert (projectionRules_fixes schedules) (fun old key has fresh => ?_) projection
    fun id row _ same => ?_
  · exact sameSource_iff.mpr ⟨key, fresh, has⟩
  -- A received row of the same source is left as it is.
  cases open_ : row.isOpen with
  | true => exact .single (.reprojected projection open_ same)
  | false => simp [StreamEvent.reprojected, open_, Relation.ReflTransGen.refl]

/-- Storing the occurrences of one schedule follows the projection rules. -/
theorem upsertProjections_writes {schedules : Table StreamSchedule} {now name : String} {id : ℕ}
    {schedule : StreamSchedule} (known : (id, schedule) ∈ schedules) (occurrences : List IsoDate)
    (events : Table StreamEvent) :
    Writes (projectionRules schedules) StreamEvent.key events
      (occurrences.foldl (fun events occurrence =>
      upsertProjection (projectedEvent now schedule.streamId name id schedule occurrence) events)
        events) := by
  induction occurrences generalizing events with
  | nil => exact .refl _ _ _
  | cons occurrence _ ih =>
    exact (upsertProjection_writes ⟨now, name, id, schedule, occurrence, known, rfl⟩ _).trans (ih _)

/-- Projecting stored schedules of one stream follows the projection rules. -/
theorem projectSchedules_writes {schedules : Table StreamSchedule} {now name : String}
    {streamId : ℕ} {window : ProjectionWindow} (pending : List (ℕ × StreamSchedule))
    (known : ∀ entry ∈ pending, entry ∈ schedules ∧ entry.2.streamId = streamId)
    {events : Table StreamEvent} {result : ℕ × Table StreamEvent}
    (done : projectSchedules now streamId name window pending events = .ok result) :
    Writes (projectionRules schedules) StreamEvent.key events result.2 := by
  induction pending generalizing events result with
  | nil =>
    simp only [projectSchedules, pure_eq_ok] at done
    subst done
    exact .refl _ _ _
  | cons entry rest ih =>
    simp only [projectSchedules, bind_eq_ok, pure_eq_ok] at done
    obtain ⟨occurrences, -, ⟨projected, after⟩, walked, rfl⟩ := done
    obtain ⟨stored, rfl⟩ := known entry List.mem_cons_self
    have tail := ih (fun entry member => known entry (List.mem_cons_of_mem _ member)) walked
    exact (upsertProjections_writes stored occurrences events).trans tail

/-- The active schedules of a stream are stored, on that stream, and active. -/
theorem mem_activeSchedules {db : Finance} {streamId id : ℕ} {schedule : StreamSchedule} :
    (id, schedule) ∈ activeSchedules db streamId ↔
      (id, schedule) ∈ db.schedules ∧ schedule.streamId = streamId ∧ schedule.isActive = true := by
  simp [activeSchedules, Table.mem_rows]

/-- A refresh touches no table but the events, and those by the projection rules. -/
theorem refreshStreamScheduleEventsOn_writes {now name : String} {streamId : ℕ}
    {window : ProjectionWindow} {db : Finance} {result : ℕ × Finance}
    (done : refreshStreamScheduleEventsOn now streamId name window db = .ok result) :
    Writes (projectionRules db.schedules) StreamEvent.key db.events result.2.events ∧
      result.2 = { db with events := result.2.events } := by
  simp only [refreshStreamScheduleEventsOn, bind_eq_ok, pure_eq_ok] at done
  obtain ⟨⟨projected, events⟩, walked, rfl⟩ := done
  refine ⟨?_, rfl⟩
  refine (retireProjections_writes db.schedules now streamId window db.events).trans ?_
  refine projectSchedules_writes _ (fun entry member => ?_) walked
  have stored := mem_activeSchedules.mp member
  exact ⟨stored.1, stored.2.1⟩

/-- A refresh by stream id is a refresh under the stored name of an active stream. -/
theorem refreshStreamScheduleEvents_eq_ok {now : String} {streamId : ℕ} {window : ProjectionWindow}
    {db : Finance} {result : ℕ × Finance} :
    refreshStreamScheduleEvents now streamId window db = .ok result ↔
      ∃ stream, (streamId, stream) ∈ db.streams ∧ stream.isActive = true ∧
        refreshStreamScheduleEventsOn now streamId stream.name window db = .ok result := by
  simp only [refreshStreamScheduleEvents, requireActiveStream, bind_eq_ok, required_eq_ok,
    pure_eq_ok, Option.filter_eq_some_iff, Table.get?_eq_some]
  constructor
  · rintro ⟨_, ⟨stream, ⟨stored, active⟩, rfl⟩, refreshed⟩
    exact ⟨stream, stored, active, refreshed⟩
  · rintro ⟨stream, stored, active, refreshed⟩
    exact ⟨_, ⟨stream, ⟨stored, active⟩, rfl⟩, refreshed⟩

/-! ### Schedules -/

/-- Schedules are created and rewritten freely, but never move to another stream or disappear. -/
def scheduleRules : Rules StreamSchedule where
  create _ := True
  change _ before after := after.streamId = before.streamId
  remove _ _ := False

/-- Saving one schedule changes schedules only, by their rules. -/
theorem saveScheduleOn_evolves {now : String} {streamId : ℕ} {schedule : ScheduleDraft}
    {db : Finance} {result : ℕ × Finance}
    (done : saveScheduleOn now streamId schedule db = .ok result) :
    Evolves scheduleRules db.schedules result.2.schedules ∧
      result.2 = { db with schedules := result.2.schedules } := by
  simp only [saveScheduleOn, bind_eq_ok] at done
  obtain ⟨_, -, _, -, _, -, done⟩ := done
  split at done
  · simp only [bind_eq_ok, pure_eq_ok] at done
    obtain ⟨_, -, rfl⟩ := done
    refine ⟨?_, rfl⟩
    dsimp only
    refine Evolves.updateWhere fun id row _ same => .single ?_
    simp only [Bool.and_eq_true, beq_iff_eq] at same
    exact same.2.symm
  · simp only [pure_eq_ok] at done
    subst done
    exact ⟨Evolves.insert trivial, rfl⟩

/-- Saving the schedules of a draft changes schedules only, by their rules. -/
theorem saveSchedules_evolves {now : String} {streamId : ℕ} (pending : List ScheduleDraft)
    {retained : List ℕ} {db : Finance} {result : List ℕ × Finance}
    (done : saveSchedules now streamId pending retained db = .ok result) :
    Evolves scheduleRules db.schedules result.2.schedules ∧
      result.2 = { db with schedules := result.2.schedules } := by
  induction pending generalizing retained db with
  | nil =>
    simp only [saveSchedules, pure_eq_ok] at done
    subst done
    exact ⟨.refl _ _, rfl⟩
  | cons schedule rest ih =>
    simp only [saveSchedules, bind_eq_ok] at done
    obtain ⟨⟨id, saved⟩, one, _, -, others⟩ := done
    obtain ⟨first, frame⟩ := saveScheduleOn_evolves one
    obtain ⟨second, rest⟩ := ih others
    refine ⟨first.trans second, ?_⟩
    rw [rest, frame]

/-- Saving the row of a stream touches no other table. -/
theorem saveStreamRow_frame {now : String} {draft : StreamDraft} {db : Finance}
    {result : ℕ × Finance} (done : saveStreamRow now draft db = .ok result) :
    result.2 = { db with streams := result.2.streams } := by
  unfold saveStreamRow at done
  split at done
  · simp only [bind_eq_ok, pure_eq_ok] at done
    obtain ⟨_, -, rfl⟩ := done
    rfl
  · simp only [pure_eq_ok] at done
    subst done
    rfl

/-- The steps of a saved stream: the state after its row, and the one after its schedules. -/
structure StreamSteps (platform : Platform) (now : String) (draft : StreamDraft)
    (window : ProjectionWindow) (db : Finance) (result : ℕ × Finance) (first : Finance)
    (retained : List ℕ) (second : Finance) : Prop where
  valid : validateStreamDraft platform draft = .ok ⟨⟩
  row : saveStreamRow now draft db = .ok (result.1, first)
  saves : saveSchedules now result.1 draft.schedules [] first = .ok (retained, second)
  refreshed : ∃ count, refreshStreamScheduleEventsOn now result.1 draft.name window
    (attachToDefaultView result.1 (deactivateMissing now result.1 retained second)) =
      .ok (count, result.2)

section StreamSteps

variable {platform : Platform} {now : String} {draft : StreamDraft} {window : ProjectionWindow}
  {db : Finance} {result : ℕ × Finance} {first second : Finance} {retained : List ℕ}

/-- A stream is saved step by step. -/
theorem saveStream_steps (done : saveStream platform now draft window db = .ok result) :
    ∃ first retained second,
      StreamSteps platform now draft window db result first retained second := by
  simp only [saveStream, bind_eq_ok, pure_eq_ok] at done
  obtain ⟨_, valid, _, -, ⟨id, first⟩, row, ⟨retained, second⟩, saves, ⟨count, after⟩, refreshed,
    rfl⟩ := done
  exact ⟨first, retained, second, valid, row, saves, count, refreshed⟩

/-- The row of a stream is saved before any schedule. -/
theorem StreamSteps.schedules
    (steps : StreamSteps platform now draft window db result first retained second) :
    first.schedules = db.schedules := by
  have frame : first = { db with streams := first.streams } := saveStreamRow_frame steps.row
  rw [frame]

/-- The row and the schedules of a stream are saved in their own tables. -/
theorem StreamSteps.written
    (steps : StreamSteps platform now draft window db result first retained second) :
    second = { db with streams := second.streams, schedules := second.schedules } := by
  have frame : first = { db with streams := first.streams } := saveStreamRow_frame steps.row
  have rest : second = { first with schedules := second.schedules } :=
    (saveSchedules_evolves _ steps.saves).2
  rw [rest, frame]

/-- After them, the view is attached and schedules are deactivated; the refresh writes events. -/
theorem StreamSteps.after
    (steps : StreamSteps platform now draft window db result first retained second) :
    result.2 = { attachToDefaultView result.1 (deactivateMissing now result.1 retained second) with
      events := result.2.events } := by
  obtain ⟨count, refreshed⟩ := steps.refreshed
  exact (refreshStreamScheduleEventsOn_writes refreshed).2

/-- Schedules change by their rules while a stream is saved. -/
theorem StreamSteps.evolves
    (steps : StreamSteps platform now draft window db result first retained second) :
    Evolves scheduleRules db.schedules
      (deactivateMissing now result.1 retained second).schedules := by
  have saved : Evolves scheduleRules first.schedules second.schedules :=
    (saveSchedules_evolves _ steps.saves).1
  rw [← steps.schedules]
  simp only [deactivateMissing]
  exact saved.trans (Evolves.updateWhere fun _ _ _ _ => .single rfl)

end StreamSteps

/-- Saving a stream stores its rows, changing no event, and then refreshes its projections. -/
theorem saveStream_eq_ok {platform : Platform} {now : String} {draft : StreamDraft}
    {window : ProjectionWindow} {db : Finance} {result : ℕ × Finance}
    (done : saveStream platform now draft window db = .ok result) :
    ∃ saved count, saved.events = db.events ∧
      Evolves scheduleRules db.schedules saved.schedules ∧
      refreshStreamScheduleEventsOn now result.1 draft.name window saved =
        .ok (count, result.2) := by
  obtain ⟨first, retained, second, steps⟩ := saveStream_steps done
  obtain ⟨count, refreshed⟩ := steps.refreshed
  refine ⟨attachToDefaultView result.1 (deactivateMissing now result.1 retained second), count, ?_,
    steps.evolves, refreshed⟩
  simp only [attachToDefaultView, deactivateMissing]
  rw [steps.written]

/-! ### Bootstrap -/

/-- Finding or creating the primary account touches no other table. -/
theorem ensurePrimaryAccountOn_frame (now : String) (db : Finance) :
    (ensurePrimaryAccountOn now db).2 =
      { db with accounts := (ensurePrimaryAccountOn now db).2.accounts } := by
  unfold ensurePrimaryAccountOn
  split <;> rfl

/-- Seeding streams touches no other table. -/
theorem ensureSeedStreams_frame (now : String) (accountId : ℕ) (seeds : List StreamSeed)
    (db : Finance) : (ensureSeedStreams now accountId seeds db).2 =
      { db with streams := (ensureSeedStreams now accountId seeds db).2.streams } := by
  induction seeds generalizing db with
  | nil => rfl
  | cons seed rest ih =>
    have one : (ensureSeedStreamOn now seed accountId db).2 =
        { db with streams := (ensureSeedStreamOn now seed accountId db).2.streams } := by
      unfold ensureSeedStreamOn
      split <;> rfl
    simp only [ensureSeedStreams]
    rw [ih, one]

/-- Seeding a schedule changes schedules only, by their rules. -/
theorem ensureSeedMonthlyScheduleOn_evolves (now : String) (streamId : ℕ) (streamName : String)
    (day : ℕ) (startDate : IsoDate) (accountId : ℕ) (db : Finance) :
    let after := ensureSeedMonthlyScheduleOn now streamId streamName day startDate accountId db
    Evolves scheduleRules db.schedules after.schedules ∧
      after = { db with schedules := after.schedules } := by
  unfold ensureSeedMonthlyScheduleOn
  split
  · refine ⟨?_, rfl⟩
    dsimp only
    exact Evolves.updateWhere fun _ _ _ _ => .single rfl
  · exact ⟨Evolves.insert trivial, rfl⟩

/-- Seeding several schedules changes schedules only, by their rules. -/
theorem seedSchedules_evolves (now : String) (streamIds : List ℕ) (names : List String)
    (startDate : IsoDate) (accountId : ℕ) (seeds : List (ℕ × ℕ)) (db : Finance) :
    let after := seeds.foldl (fun db seed => ensureSeedMonthlyScheduleOn now
      (streamIds.getD seed.1 0) (names.getD seed.1 "") seed.2 startDate accountId db) db
    Evolves scheduleRules db.schedules after.schedules ∧
      after = { db with schedules := after.schedules } := by
  induction seeds generalizing db with
  | nil => exact ⟨.refl _ _, rfl⟩
  | cons seed rest ih =>
    obtain ⟨first, frame⟩ := ensureSeedMonthlyScheduleOn_evolves now (streamIds.getD seed.1 0)
      (names.getD seed.1 "") seed.2 startDate accountId db
    obtain ⟨second, others⟩ := ih (ensureSeedMonthlyScheduleOn now (streamIds.getD seed.1 0)
      (names.getD seed.1 "") seed.2 startDate accountId db)
    simp only [List.foldl_cons]
    refine ⟨first.trans second, ?_⟩
    rw [others, frame]

/-- Making a view the default touches no table but the views. -/
theorem ensureDefaultViewOn_frame (now : String) (db : Finance) :
    (ensureDefaultViewOn now db).2 =
      { db with views := (ensureDefaultViewOn now db).2.views } := by
  unfold ensureDefaultViewOn
  split <;> rfl

/-- Refreshing several streams touches no table but the events, by the projection rules. -/
theorem refreshStreams_writes {now : String} {window : ProjectionWindow} (streamIds : List ℕ)
    {db after : Finance} (done : refreshStreams now window streamIds db = .ok after) :
    Writes (projectionRules db.schedules) StreamEvent.key db.events after.events ∧
      after = { db with events := after.events } := by
  induction streamIds generalizing db with
  | nil =>
    simp only [refreshStreams, pure_eq_ok] at done
    subst done
    exact ⟨.refl _ _ _, rfl⟩
  | cons streamId rest ih =>
    simp only [refreshStreams, bind_eq_ok, refreshStreamScheduleEvents_eq_ok] at done
    obtain ⟨⟨count, middle⟩, ⟨stream, -, -, refreshed⟩, others⟩ := done
    obtain ⟨first, frame⟩ := refreshStreamScheduleEventsOn_writes refreshed
    obtain ⟨second, rest⟩ := ih others
    simp only at frame first
    have same : middle.schedules = db.schedules := by rw [frame]
    rw [same] at second
    refine ⟨first.trans second, ?_⟩
    rw [rest, frame]

/-- A bootstrap stores its rows, changing no event, and then refreshes the seeded streams. Accounts
are those of the primary account's step, and views those of the default view's. -/
theorem bootstrapDefaults_eq_ok {now : String} {today : IsoDate} {db : Finance}
    {result : BootstrapResult × Finance} (done : bootstrapDefaults now today db = .ok result) :
    ∃ saved window, saved.events = db.events ∧
      saved.accounts = (ensurePrimaryAccountOn now db).2.accounts ∧
      saved.views = (ensureDefaultViewOn now db).2.views ∧
      Evolves scheduleRules db.schedules saved.schedules ∧
      refreshStreams now window result.1.streamIds saved = .ok result.2 := by
  simp only [bootstrapDefaults, bind_eq_ok, pure_eq_ok] at done
  obtain ⟨_, -, through, -, window, -, after, refreshed, rfl⟩ := done
  -- Every step frames its own table, and nothing before the refreshes touches events.
  have account := ensurePrimaryAccountOn_frame now db
  generalize (ensurePrimaryAccountOn now db).1 = accountId at *
  generalize (ensurePrimaryAccountOn now db).2 = first at *
  have streams := ensureSeedStreams_frame now accountId streamSeeds first
  generalize (ensureSeedStreams now accountId streamSeeds first).1 = streamIds at *
  generalize (ensureSeedStreams now accountId streamSeeds first).2 = second at *
  obtain ⟨evolved, schedules⟩ := seedSchedules_evolves now streamIds (streamSeeds.map (·.name))
    today.firstOfMonth accountId scheduleSeeds second
  generalize scheduleSeeds.foldl (fun db seed => ensureSeedMonthlyScheduleOn now
    (streamIds.getD seed.1 0) ((streamSeeds.map (·.name)).getD seed.1 "") seed.2
    today.firstOfMonth accountId db) second = third at *
  have views := ensureDefaultViewOn_frame now third
  have sameAccounts : (ensureDefaultViewOn now third).2.accounts = first.accounts := by
    rw [views, schedules, streams]
  have sameSchedules : (ensureDefaultViewOn now third).2.schedules = third.schedules := by
    rw [views]
  have sameEvents : (ensureDefaultViewOn now third).2.events = db.events := by
    rw [views, schedules, streams, account]
  -- The default view is chosen among the views that were there before.
  have chosen : (ensureDefaultViewOn now third).2.views = (ensureDefaultViewOn now db).2.views := by
    have same : third.views = db.views := by rw [schedules, streams, account]
    unfold ensureDefaultViewOn
    rw [same]
    split <;> rfl
  have start : second.schedules = db.schedules := by rw [streams, account]
  refine ⟨_, window, ?_, ?_, ?_, ?_, refreshed⟩
  · exact sameEvents
  · exact sameAccounts
  · exact chosen
  · rw [← start]
    simpa only [sameSchedules] using evolved

/-! ### Every operation -/

/-- Creating a manual event inserts its row, named after its id. -/
theorem createManualEvent_eq_ok {platform : Platform} {now : String} {draft : EventDraft}
    {db : Finance} {result : ℕ × Finance}
    (done : createManualEvent platform now draft db = .ok result) :
    draft.status ≠ .received ∧
      let row := { draft.row now with sourceId := some (.manual db.events.next) }
      (∀ id event, (id, event) ∈ db.events → sameSource row event = false) ∧
        result.2 = { db with events := db.events.insert row } := by
  simp only [createManualEvent, bind_eq_ok, ensure_eq_ok, pure_eq_ok, bne_iff_ne,
    Option.isNone_iff_eq_none, Table.insert_updateWhere] at done
  obtain ⟨_, -, _, -, _, -, _, open_, _, -, _, -, _, -, _, -, _, alone, rfl⟩ := done
  exact ⟨open_, fun id event stored => Table.find?_none alone stored, rfl⟩

/-- An update of the row under one id follows rules that allow it and leave keys alone. -/
theorem writes_updateEvent {rules : Rules StreamEvent} (fixes : rules.Fixes StreamEvent.key)
    {eventId : ℕ} {condition : StreamEvent → Bool} {update : StreamEvent → StreamEvent}
    {events : Table StreamEvent}
    (allowed : ∀ event, condition event = true → rules.change eventId event (update event)) :
    Writes rules StreamEvent.key events
      (events.updateWhere (fun id event => id == eventId && condition event) update) := by
  refine Writes.updateWhere fixes fun id event _ holds => .single ?_
  simp only [Bool.and_eq_true, beq_iff_eq] at holds
  rw [holds.1]
  exact allowed event holds.2

/-- Saving an account touches no other table. -/
theorem saveAccount_frame {now : String} {draft : AccountDraft} {db : Finance}
    {result : ℕ × Finance} (done : saveAccount now draft db = .ok result) :
    result.2 = { db with accounts := result.2.accounts } := by
  simp only [saveAccount, bind_eq_ok] at done
  obtain ⟨_, -, _, -, _, -, _, -, _, -, _, -, done⟩ := done
  split at done
  · simp only [bind_eq_ok, pure_eq_ok] at done
    obtain ⟨_, -, rfl⟩ := done
    rfl
  · simp only [pure_eq_ok] at done
    subst done
    rfl

/-- Setting the starting balance touches no other table. -/
theorem setStartingBalance_frame {platform : Platform} {now : String} {amount : F64}
    {asOfDate : IsoDate} {sourceType : String} {sourceRef metadata : Option String}
    {db after : Finance}
    (done : setStartingBalance platform now amount asOfDate sourceType sourceRef metadata db
      = .ok after) : after = { db with accounts := after.accounts } := by
  simp only [setStartingBalance, bind_eq_ok, pure_eq_ok] at done
  obtain ⟨_, -, _, -, _, -, _, -, _, -, _, -, rfl⟩ := done
  rw [ensurePrimaryAccountOn_frame]

/-- Saving a view touches no table but the views and their members. -/
theorem saveView_frame {now : String} {draft : StreamViewDraft} {db : Finance}
    {result : ℕ × Finance} (done : saveView now draft db = .ok result) :
    result.2 = { db with views := result.2.views, viewStreams := result.2.viewStreams } := by
  simp only [saveView, bind_eq_ok, pure_eq_ok] at done
  obtain ⟨_, -, _, -, _, -, _, -, rfl⟩ := done
  rfl

/-- Whether an operation writes nothing but events. -/
def FinanceOp.onlyEvents : FinanceOp → Bool
  | .refreshStreamScheduleEvents .. | .createManualEvent .. | .patchEvent .. | .removeEvent ..
  | .restoreScheduledEvent .. | .reconcileEvent .. => true
  | _ => false

/-- Such an operation touches no other table. -/
theorem FinanceOp.onlyEvents_frame {platform : Platform} {op : FinanceOp} {db after : Finance}
    (done : op.apply platform db = .ok after) (only : op.onlyEvents = true) :
    after = { db with events := after.events } := by
  cases op with
  | refreshStreamScheduleEvents now streamId window =>
    obtain ⟨result, refreshed, rfl⟩ := map_eq_ok.mp done
    obtain ⟨stream, -, -, refreshed⟩ := refreshStreamScheduleEvents_eq_ok.mp refreshed
    exact (refreshStreamScheduleEventsOn_writes refreshed).2
  | createManualEvent now draft =>
    obtain ⟨result, created, rfl⟩ := map_eq_ok.mp done
    rw [(createManualEvent_eq_ok created).2.2]
  | patchEvent now eventId patch =>
    simp only [apply, FinStream.patchEvent, bind_eq_ok, pure_eq_ok] at done
    obtain ⟨_, -, _, -, _, -, _, -, _, -, _, -, rfl⟩ := done
    rfl
  | removeEvent now eventId =>
    -- An event that is gone already is left alone, and any other is only retired or deleted.
    simp only [apply, FinStream.removeEvent] at done
    split at done
    · cases done
      rfl
    · simp only [bind_eq_ok, pure_eq_ok] at done
      obtain ⟨_, -, rfl⟩ := done
      rfl
  | restoreScheduledEvent now eventId =>
    simp only [apply, FinStream.restoreScheduledEvent, bind_eq_ok, pure_eq_ok] at done
    obtain ⟨_, -, rfl⟩ := done
    rfl
  | reconcileEvent now eventId actualDate actualAmount =>
    simp only [apply, FinStream.reconcileEvent, bind_eq_ok, pure_eq_ok] at done
    obtain ⟨_, -, _, -, _, -, _, -, rfl⟩ := done
    rfl
  | _ => cases only

/-- Every operation changes events by its own rules and schedules by theirs. -/
theorem operation_writes {platform : Platform} {op : FinanceOp} {db after : Finance}
    (done : op.apply platform db = .ok after) :
    Writes (op.eventRules after.schedules) StreamEvent.key db.events after.events ∧
      Evolves scheduleRules db.schedules after.schedules := by
  -- Operations on accounts and views leave events and schedules as they are.
  cases op with
  | saveAccount now draft =>
    simp only [FinanceOp.apply, map_eq_ok] at done
    obtain ⟨result, done, rfl⟩ := done
    rw [saveAccount_frame done]
    exact ⟨.refl _ _ _, .refl _ _⟩
  | ensurePrimaryAccount now =>
    simp only [FinanceOp.apply, pure_eq_ok] at done
    subst done
    rw [ensurePrimaryAccountOn_frame]
    exact ⟨.refl _ _ _, .refl _ _⟩
  | setStartingBalance now amount asOfDate sourceType sourceRef metadata =>
    rw [setStartingBalance_frame done]
    exact ⟨.refl _ _ _, .refl _ _⟩
  | saveStream now draft window =>
    simp only [FinanceOp.apply, map_eq_ok] at done
    obtain ⟨result, done, rfl⟩ := done
    -- Schedules are saved before the refresh, which reads them and writes events.
    obtain ⟨saved, count, events, schedules, refreshed⟩ := saveStream_eq_ok done
    obtain ⟨evolved, frame⟩ := refreshStreamScheduleEventsOn_writes refreshed
    have same : result.2.schedules = saved.schedules := by rw [frame]
    rw [same, ← events]
    exact ⟨evolved, schedules⟩
  | refreshStreamScheduleEvents now streamId window =>
    simp only [FinanceOp.apply, map_eq_ok, refreshStreamScheduleEvents_eq_ok] at done
    obtain ⟨result, ⟨stream, -, -, refreshed⟩, rfl⟩ := done
    obtain ⟨evolved, frame⟩ := refreshStreamScheduleEventsOn_writes refreshed
    have same : result.2.schedules = db.schedules := by rw [frame]
    rw [same]
    exact ⟨evolved, .refl _ _⟩
  | deleteStream now streamId =>
    simp only [FinanceOp.apply, deleteStream, bind_eq_ok, pure_eq_ok] at done
    obtain ⟨_, -, rfl⟩ := done
    dsimp only [FinanceOp.eventRules]
    refine ⟨Writes.updateWhere (projectionRules_fixes _) fun id event _ deletable => .single ?_,
      Evolves.updateWhere fun _ _ _ _ => .single rfl⟩
    simp only [isDeletable, StreamEvent.isExcluded, Bool.and_eq_true, beq_iff_eq, bne_iff_ne,
      Bool.not_eq_true', Option.isSome_eq_false_iff, Option.isNone_iff_eq_none] at deletable
    refine .tombstoned now (StreamEvent.isOpen_iff.mpr deletable.1.2) deletable.1.1.2 ?_
    simp [deletable.2]
  | saveView now draft =>
    simp only [FinanceOp.apply, map_eq_ok] at done
    obtain ⟨result, done, rfl⟩ := done
    rw [saveView_frame done]
    exact ⟨.refl _ _ _, .refl _ _⟩
  | createManualEvent now draft =>
    simp only [FinanceOp.apply, map_eq_ok] at done
    obtain ⟨result, done, rfl⟩ := done
    obtain ⟨open_, alone, frame⟩ := createManualEvent_eq_ok done
    rw [frame]
    refine ⟨Writes.insert ⟨open_, _, rfl⟩ fun id event key stored has fresh => ?_, .refl _ _⟩
    have := alone id event stored
    rw [sameSource_iff.mpr ⟨key, fresh, has⟩] at this
    cases this
  | patchEvent now eventId patch =>
    simp only [FinanceOp.apply, patchEvent, bind_eq_ok, pure_eq_ok] at done
    obtain ⟨_, -, _, -, _, -, _, -, _, -, _, -, rfl⟩ := done
    dsimp only
    exact ⟨writes_updateEvent (eventRules_fixes _ _) fun event holds => ⟨rfl, holds, rfl⟩,
      .refl _ _⟩
  | removeEvent now eventId =>
    simp only [FinanceOp.apply, removeEvent] at done
    split at done
    · simp only [pure_eq_ok] at done
      subst done
      dsimp only [FinanceOp.eventRules]
      refine ⟨Writes.deleteWhere fun id event _ holds => ?_, .refl _ _⟩
      simp only [Bool.and_eq_true, beq_iff_eq] at holds
      exact ⟨holds.1.1, holds.1.2, holds.2⟩
    · simp only [bind_eq_ok, pure_eq_ok] at done
      obtain ⟨_, -, rfl⟩ := done
      dsimp only
      exact ⟨writes_updateEvent (eventRules_fixes _ _) fun event holds => ⟨rfl, holds, rfl⟩,
        .refl _ _⟩
  | restoreScheduledEvent now eventId =>
    simp only [FinanceOp.apply, restoreScheduledEvent, bind_eq_ok, pure_eq_ok] at done
    obtain ⟨_, -, rfl⟩ := done
    dsimp only
    refine ⟨writes_updateEvent (eventRules_fixes _ _) fun event holds => ?_, .refl _ _⟩
    simp only [Bool.and_eq_true, beq_iff_eq] at holds
    exact ⟨rfl, holds.1, holds.2, rfl⟩
  | reconcileEvent now eventId actualDate actualAmount =>
    simp only [FinanceOp.apply, reconcileEvent, bind_eq_ok, pure_eq_ok] at done
    obtain ⟨_, -, _, -, _, -, _, -, rfl⟩ := done
    dsimp only
    refine ⟨writes_updateEvent (eventRules_fixes _ _) fun event holds => ?_, .refl _ _⟩
    simp only [Bool.and_eq_true, Bool.not_eq_true'] at holds
    exact ⟨rfl, holds.1, holds.2, rfl⟩
  | bootstrapDefaults now today =>
    simp only [FinanceOp.apply, map_eq_ok] at done
    obtain ⟨result, done, rfl⟩ := done
    obtain ⟨saved, window, events, -, -, schedules, refreshed⟩ := bootstrapDefaults_eq_ok done
    obtain ⟨evolved, frame⟩ := refreshStreams_writes _ refreshed
    have same : result.2.schedules = saved.schedules := by rw [frame]
    rw [same, ← events]
    exact ⟨evolved, schedules⟩

end FinStream
