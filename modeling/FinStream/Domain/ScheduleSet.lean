import FinStream.Domain.System
import FinStream.Finance.ScheduleEdit

/-! Saving a stream replaces its set of schedules, or changes nothing. -/

namespace FinStream

open Store

/-- The id of the stream a draft is saved as. -/
def StreamDraft.savedId (draft : StreamDraft) (db : Finance) : ℕ :=
  draft.id.getD db.streams.next

/-- Whether a draft names one schedule twice. -/
def StreamDraft.NamesTwice (draft : StreamDraft) : Prop :=
  ¬ (draft.schedules.filterMap (·.id)).Nodup

/-- Whether a draft names a stored schedule that belongs to another stream. -/
def StreamDraft.NamesForeign (draft : StreamDraft) (db : Finance) : Prop :=
  ∃ drafted ∈ draft.schedules, ∃ id row, drafted.id = some id ∧ (id, row) ∈ db.schedules ∧
    row.streamId ≠ draft.savedId db

/-- The schedules of a stream are replaced by drafts that are saved under the ids beside them. -/
structure ReplacedSchedules (now : String) (streamId : ℕ) (saved : List (ℕ × ScheduleDraft))
    (before after : Finance) : Prop where
  /-- No two drafts share an id. -/
  distinct : (saved.map Prod.fst).Nodup
  /-- A draft keeps the id of the schedule of the stream that it names; any other is new. -/
  origin : ∀ id drafted, (id, drafted) ∈ saved → drafted.Replaces streamId before.schedules id
  /-- The active schedules of the stream are the drafted ones, with the values drafted. -/
  active : ∀ id row, ((id, row) ∈ after.schedules ∧ row.streamId = streamId ∧ row.isActive = true) ↔
    ∃ drafted, (id, drafted) ∈ saved ∧ row = drafted.row now streamId
  /-- Every other schedule of the stream is kept inactive. -/
  dropped : ∀ id row, (id, row) ∈ before.schedules → row.streamId = streamId →
    id ∉ saved.map Prod.fst →
    (id, if row.isActive then { row with isActive := false, updatedAt := now } else row) ∈
      after.schedules
  /-- No other schedule is stored. -/
  others : ∀ id row, (id, row) ∈ after.schedules → id ∉ saved.map Prod.fst →
    ∃ old, (id, old) ∈ before.schedules
  /-- Schedules of other streams are the same. -/
  elsewhere : ∀ id row, row.streamId ≠ streamId →
    ((id, row) ∈ after.schedules ↔ (id, row) ∈ before.schedules)

variable {platform : Platform} {now : String} {draft : StreamDraft} {window : ProjectionWindow}
  {db : Finance} {result : ℕ × Finance}

/-- Deactivating what was not retained leaves the saved drafts as the active schedules. -/
theorem SavedSchedules.replaced {streamId : ℕ} {saved : List (ℕ × ScheduleDraft)}
    {before after : Finance} {middle : List ℕ × Finance}
    (saves : SavedSchedules now streamId saved [] before middle)
    (deactivated : after.schedules =
      (deactivateMissing now streamId middle.1 middle.2).schedules) :
    ReplacedSchedules now streamId saved before after := by
  have kept : ∀ id, id ∈ middle.1 ↔ id ∈ saved.map Prod.fst := fun id => by
    simpa using saves.kept id
  -- The row of a saved id is the drafted one, and no saved id is of another stream.
  have drafted : ∀ {id : ℕ} {row : StreamSchedule}, id ∈ saved.map Prod.fst →
      (id, row) ∈ middle.2.schedules →
      ∃ drafted, (id, drafted) ∈ saved ∧ row = drafted.row now streamId := by
    intro id row member stored
    obtain ⟨⟨_, drafted⟩, there, rfl⟩ := List.mem_map.mp member
    exact ⟨drafted, there, Table.unique stored (saves.stored _ _ there)⟩
  have owned : ∀ {id : ℕ} {row : StreamSchedule}, id ∈ saved.map Prod.fst →
      (id, row) ∈ before.schedules → row.streamId = streamId := by
    intro id row member stored
    obtain ⟨⟨_, drafted⟩, there, rfl⟩ := List.mem_map.mp member
    rcases saves.origin _ _ there with ⟨-, old, found, owned⟩ | ⟨-, above⟩
    · exact Table.unique stored found ▸ owned
    · exact absurd (Table.lt_next stored) (Nat.not_lt.mpr above)
  -- The last step deactivates, of the schedules of the stream, those that no draft was saved as.
  refine ⟨saves.distinct, saves.origin, fun id row => ⟨?_, ?_⟩, ?_, ?_,
    fun id row other => ⟨?_, ?_⟩⟩
  · -- An active row was spared by it, so it is the row of a saved draft.
    rintro ⟨stored, stream, active⟩
    rw [deactivated] at stored
    obtain ⟨old, there, rfl⟩ := Table.mem_updateWhere.mp stored
    split at active
    · cases active
    · rename_i spared
      rw [if_neg spared] at stream ⊢
      exact drafted ((kept id).mp (by simpa [stream, active] using spared)) there
  · -- The row of a saved draft is active, and was spared.
    rintro ⟨drafted, member, rfl⟩
    refine ⟨?_, rfl, rfl⟩
    rw [deactivated]
    have retained := (kept id).mpr (List.mem_map_of_mem member)
    exact Table.mem_updateWhere.mpr ⟨_, saves.stored id drafted member, by simp [retained]⟩
  · -- A schedule of the stream that was not saved was not changed before, and is not spared.
    intro id row stored stream dropped
    rw [deactivated]
    have unretained : id ∉ middle.1 := fun member => dropped ((kept id).mp member)
    exact Table.mem_updateWhere.mpr ⟨row, (saves.elsewhere id row dropped).mpr stored,
      by simp [stream, unretained]⟩
  · -- Saving inserts only under the ids of the drafts.
    intro id row stored unsaved
    rw [deactivated] at stored
    obtain ⟨old, there, -⟩ := Table.mem_updateWhere.mp stored
    exact ⟨old, (saves.elsewhere id old unsaved).mp there⟩
  · -- A row of another stream is not deactivated, and was not written by a draft.
    intro stored
    rw [deactivated] at stored
    obtain ⟨old, there, rfl⟩ := Table.mem_updateWhere.mp stored
    split at other
    · rename_i holds
      simp only [Bool.and_eq_true, beq_iff_eq] at holds
      exact absurd holds.1.1 other
    · rename_i spared
      rw [if_neg spared]
      refine (saves.elsewhere id old fun member => ?_).mp there
      obtain ⟨drafted, -, rfl⟩ := drafted member there
      exact other rfl
  · intro stored
    rw [deactivated]
    -- No draft is saved under the id of another stream's schedule.
    have unsaved : id ∉ saved.map Prod.fst := fun member => other (owned member stored)
    exact Table.mem_updateWhere.mpr ⟨row, (saves.elsewhere id row unsaved).mpr stored,
      by simp [other]⟩

/-- A stream that is saved has the id the draft is saved as, and its schedules replaced. -/
theorem saveStream_replacedSchedules
    (done : saveStream platform now draft window db = .ok result) :
    result.1 = draft.savedId db ∧ ∃ saved : List (ℕ × ScheduleDraft),
      saved.map Prod.snd = draft.schedules ∧
        ReplacedSchedules now result.1 saved db result.2 := by
  -- The stream's row is written first, then its schedules, and then events are projected.
  obtain ⟨first, retained, second, steps⟩ := saveStream_steps done
  have row := steps.row
  have same := steps.schedules
  obtain ⟨saved, drafts, saves⟩ := saveSchedules_saved _ steps.saves
  have unchanged : SavedSchedules now result.1 saved [] db (retained, second) :=
    { saves with
      origin := same ▸ saves.origin
      elsewhere := same ▸ saves.elsewhere }
  refine ⟨?_, saved, drafts, unchanged.replaced ?_⟩
  · -- The row keeps the id it names, and a new stream takes the next one.
    simp only [saveStreamRow] at row
    split at row
    · rename_i named
      simp only [bind_eq_ok, pure_eq_ok, Prod.mk.injEq] at row
      obtain ⟨_, -, isId, -⟩ := row
      simp [StreamDraft.savedId, named, isId]
    · rename_i unnamed
      simp only [pure_eq_ok, Prod.mk.injEq] at row
      simp [StreamDraft.savedId, unnamed, row.1]
  · -- Neither the default views nor the refresh change schedules.
    rw [steps.after]
    rfl

/-- Drafts that name no id but their own name some of those ids, in the same order. -/
theorem names_sublist {saved : List (ℕ × ScheduleDraft)}
    (own : ∀ entry ∈ saved, ∀ name, entry.2.id = some name → name = entry.1) :
    ((saved.map Prod.snd).filterMap (·.id)).Sublist (saved.map Prod.fst) := by
  -- One draft at a time: it names its own id, or no id.
  induction saved with
  | nil => exact .slnil
  | cons entry rest ih =>
    have tail := ih fun other member => own other (List.mem_cons_of_mem _ member)
    cases names : entry.2.id with
    | none => simpa [names] using tail.cons entry.1
    | some name =>
      obtain rfl := own entry List.mem_cons_self name names
      simpa [names] using tail.cons_cons entry.1

/-- A stream whose schedules were replaced had no schedule named twice. -/
theorem ReplacedSchedules.names_nodup {streamId : ℕ} {saved : List (ℕ × ScheduleDraft)}
    {before after : Finance} (replaced : ReplacedSchedules now streamId saved before after) :
    ((saved.map Prod.snd).filterMap (·.id)).Nodup := by
  -- A draft that names an id was saved under it, and the ids of the saved drafts differ.
  refine replaced.distinct.sublist (names_sublist fun entry member name names => ?_)
  rcases replaced.origin entry.1 entry.2 member with ⟨same, -⟩ | ⟨unnamed, -⟩
  · exact Option.some.inj (names.symm.trans same)
  · rw [unnamed] at names
    cases names

/-- A draft that names a schedule twice, or one of another stream, is refused. -/
theorem saveStream_refused (wrong : draft.NamesTwice ∨ draft.NamesForeign db) :
    ∃ error, saveStream platform now draft window db = .error error := by
  cases outcome : saveStream platform now draft window db with
  | error error => exact ⟨error, rfl⟩
  | ok result =>
    obtain ⟨streamId, saved, drafts, replaced⟩ := saveStream_replacedSchedules outcome
    rcases wrong with twice | ⟨drafted, member, id, row, names, stored, foreign⟩
    · -- Two drafts of one name would have been saved under one id.
      exact absurd (drafts ▸ replaced.names_nodup) twice
    · -- Whatever the name of the schedule was saved for is of the stream itself.
      rw [← drafts] at member
      obtain ⟨⟨at_, _⟩, there, rfl⟩ := List.mem_map.mp member
      rcases replaced.origin at_ _ there with ⟨same, old, found, owned⟩ | ⟨unnamed, -⟩
      · obtain rfl := Option.some.inj (names.symm.trans same)
        rw [Table.unique stored found, owned] at foreign
        exact absurd streamId foreign
      · rw [unnamed] at names
        cases names

/--
A stream that is saved has exactly the drafted schedules active: those named keep their ids, and no
other stream's are touched. A draft that names a schedule twice, or one of another stream, is
refused, and whatever is refused leaves the whole state as it was.
-/
theorem saveStream_schedules (platform : Platform) (db : Domain) (now : String)
    (draft : StreamDraft) (window : ProjectionWindow) :
    (∀ result, saveStream platform now draft window db.finance = .ok result →
      replay platform [.finance (.saveStream now draft window)] db =
        cascadeLinks { db with finance := result.2 } ∧
      result.1 = draft.savedId db.finance ∧ ∃ saved : List (ℕ × ScheduleDraft),
        saved.map Prod.snd = draft.schedules ∧
          ReplacedSchedules now result.1 saved db.finance result.2) ∧
    (draft.NamesTwice ∨ draft.NamesForeign db.finance →
      ∃ error, saveStream platform now draft window db.finance = .error error) ∧
    ∀ error, saveStream platform now draft window db.finance = .error error →
      replay platform [.finance (.saveStream now draft window)] db = db := by
  -- A committed save is one transaction, and a refused one is rolled back.
  refine ⟨fun result done => ⟨?_, saveStream_replacedSchedules done⟩, saveStream_refused,
    fun error failed => ?_⟩
  · simp [replay, commitAll, DomainOp.commit, FinanceOp.apply, done, Except.map, Except.toOption]
  · simp [replay, commitAll, DomainOp.commit, FinanceOp.apply, failed, Except.map, Except.toOption]

end FinStream
