import FinStream.Finance.Refresh

/-! Which schedules an edit of a stream leaves active, and with which values. -/

namespace FinStream

open Store

/-- Whether a stored schedule is the one a draft stands for: the one it names, or a new one. -/
def ScheduleDraft.IsSaved (schedules : Table StreamSchedule) (draft : ScheduleDraft) (id : ℕ) :
    Prop := draft.id = some id ∨ (draft.id = none ∧ schedules.next ≤ id)

/-- The stored schedule of the stream that a draft names, or a new one. -/
def ScheduleDraft.Replaces (streamId : ℕ) (schedules : Table StreamSchedule)
    (draft : ScheduleDraft) (id : ℕ) : Prop :=
  (draft.id = some id ∧ ∃ old, (id, old) ∈ schedules ∧ old.streamId = streamId) ∨
    (draft.id = none ∧ schedules.next ≤ id)

/-- A draft stands for the schedule it replaces. -/
theorem ScheduleDraft.Replaces.isSaved {streamId id : ℕ} {schedules : Table StreamSchedule}
    {draft : ScheduleDraft} (replaces : draft.Replaces streamId schedules id) :
    draft.IsSaved schedules id := replaces.imp_left And.left

variable {now : String} {streamId : ℕ}

/-- Saving one schedule stores its row under one id and leaves the other schedules alone. -/
theorem saveScheduleOn_stored {schedule : ScheduleDraft} {db : Finance} {result : ℕ × Finance}
    (done : saveScheduleOn now streamId schedule db = .ok result) :
    schedule.Replaces streamId db.schedules result.1 ∧
      (result.1, schedule.row now streamId) ∈ result.2.schedules ∧
      ∀ id row, id ≠ result.1 → ((id, row) ∈ result.2.schedules ↔ (id, row) ∈ db.schedules) := by
  simp only [saveScheduleOn, bind_eq_ok] at done
  obtain ⟨_, -, _, -, _, -, done⟩ := done
  split at done
  · -- A named schedule is updated in place.
    rename_i id named
    simp only [bind_eq_ok, ensure_eq_ok, pure_eq_ok, Option.any_eq_true_iff_get] at done
    obtain ⟨_, ⟨present, owned⟩, rfl⟩ := done
    obtain ⟨row, found⟩ := Option.isSome_iff_exists.mp present
    simp only [found, Option.get_some, beq_iff_eq] at owned
    have stored := Table.get?_eq_some.mp found
    refine ⟨.inl ⟨named, row, stored, owned⟩,
      Table.mem_updateWhere.mpr ⟨row, stored, by simp [owned]⟩, ?_⟩
    intro other otherRow different
    rw [Table.mem_updateWhere]
    constructor
    · rintro ⟨old, there, rfl⟩
      simpa [different] using there
    · exact fun there => ⟨otherRow, there, by simp [different]⟩
  · -- A new one is inserted under the next id.
    rename_i unnamed
    simp only [pure_eq_ok] at done
    subst done
    refine ⟨.inr ⟨unnamed, Nat.le_refl _⟩, Table.mem_insert.mpr (.inr rfl), ?_⟩
    intro id row different
    simp [Table.mem_insert, different]

/-- What saving schedules does: each draft is stored under an id of its own, in their order. -/
structure SavedSchedules (now : String) (streamId : ℕ) (saved : List (ℕ × ScheduleDraft))
    (retained : List ℕ) (before : Finance) (result : List ℕ × Finance) : Prop where
  /-- No two drafts share an id. -/
  distinct : (saved.map Prod.fst).Nodup
  /-- Their ids are retained with those that were retained before. -/
  kept : ∀ id, id ∈ result.1 ↔ id ∈ saved.map Prod.fst ∨ id ∈ retained
  /-- None of their ids was retained before. -/
  fresh : ∀ id ∈ saved.map Prod.fst, id ∉ retained
  /-- Each replaces the schedule of the stream it names, or is new. -/
  origin : ∀ id drafted, (id, drafted) ∈ saved → drafted.Replaces streamId before.schedules id
  /-- Each is stored as it was drafted. -/
  stored : ∀ id drafted, (id, drafted) ∈ saved →
    (id, drafted.row now streamId) ∈ result.2.schedules
  /-- Schedules under other ids are left alone. -/
  elsewhere : ∀ id row, id ∉ saved.map Prod.fst →
    ((id, row) ∈ result.2.schedules ↔ (id, row) ∈ before.schedules)

/-- Saving schedules stores every draft, and never stores two under one id. -/
theorem saveSchedules_saved (pending : List ScheduleDraft) {retained : List ℕ} {db : Finance}
    {result : List ℕ × Finance}
    (done : saveSchedules now streamId pending retained db = .ok result) :
    ∃ saved, saved.map Prod.snd = pending ∧
      SavedSchedules now streamId saved retained db result := by
  -- The ids retained so far are settled: the loop refuses to store under them again.
  induction pending generalizing retained db with
  | nil =>
    simp only [saveSchedules, pure_eq_ok] at done
    subst done
    exact ⟨[], rfl, by simp, by simp, by simp, by simp, by simp, fun _ _ _ => Iff.rfl⟩
  | cons schedule rest ih =>
    simp only [saveSchedules, bind_eq_ok, ensure_eq_ok] at done
    obtain ⟨⟨id, middle⟩, one, _, unseen, others⟩ := done
    obtain ⟨replaces, stored, elsewhere⟩ := saveScheduleOn_stored one
    have grown := (saveScheduleOn_evolves one).1.next_le
    obtain ⟨saved, drafts, tail⟩ := ih others
    have apart : ∀ {at_ : ℕ}, at_ ∈ saved.map Prod.fst → at_ ≠ id := fun member same =>
      tail.fresh _ member (same ▸ List.mem_cons_self)
    refine ⟨(id, schedule) :: saved, by rw [List.map_cons, drafts], ?_, ?_, ?_, ?_, ?_, ?_⟩
    · exact List.nodup_cons.mpr ⟨fun member => apart member rfl, tail.distinct⟩
    · intro at_
      rw [tail.kept, List.map_cons, List.mem_cons, List.mem_cons]
      tauto
    · intro at_ member
      rcases List.mem_cons.mp member with rfl | member
      · simpa using unseen
      · exact fun before => tail.fresh at_ member (List.mem_cons_of_mem _ before)
    · intro at_ drafted member
      rcases List.mem_cons.mp member with same | member
      · cases same
        exact replaces
      · -- The schedule saved first is not the one replaced now.
        have different := apart (List.mem_map_of_mem member)
        rcases tail.origin at_ drafted member with ⟨named, old, there, owned⟩ | ⟨unnamed, above⟩
        · exact .inl ⟨named, old, (elsewhere at_ old different).mp there, owned⟩
        · exact .inr ⟨unnamed, grown.trans above⟩
    · intro at_ drafted member
      rcases List.mem_cons.mp member with same | member
      · cases same
        exact (tail.elsewhere id _ fun member => apart member rfl).mpr stored
      · exact tail.stored at_ drafted member
    · intro at_ row other
      rw [List.map_cons, List.mem_cons, not_or] at other
      exact (tail.elsewhere at_ row other.2).trans (elsewhere at_ row other.1)

/-- Saving schedules stores the row of each draft under a retained id. -/
theorem saveSchedules_stored (pending : List ScheduleDraft) {db : Finance}
    {result : List ℕ × Finance}
    (done : saveSchedules now streamId pending [] db = .ok result) :
    (∀ draft ∈ pending, ∃ id ∈ result.1, draft.IsSaved db.schedules id ∧
      (id, draft.row now streamId) ∈ result.2.schedules) ∧
    (∀ id ∈ result.1, ∃ draft ∈ pending, draft.IsSaved db.schedules id ∧
      (id, draft.row now streamId) ∈ result.2.schedules) := by
  obtain ⟨saved, rfl, saves⟩ := saveSchedules_saved pending done
  constructor
  · intro draft member
    obtain ⟨⟨id, _⟩, there, rfl⟩ := List.mem_map.mp member
    exact ⟨id, (saves.kept id).mpr (.inl (List.mem_map_of_mem there)),
      (saves.origin id _ there).isSaved, saves.stored id _ there⟩
  · intro id kept
    rcases (saves.kept id).mp kept with member | none_
    · obtain ⟨⟨_, draft⟩, there, rfl⟩ := List.mem_map.mp member
      exact ⟨draft, List.mem_map_of_mem there, (saves.origin _ _ there).isSaved,
        saves.stored _ _ there⟩
    · cases none_

/-- Schedules that are not retained are left alone. -/
theorem saveSchedules_elsewhere (pending : List ScheduleDraft) {retained : List ℕ} {db : Finance}
    {result : List ℕ × Finance}
    (done : saveSchedules now streamId pending retained db = .ok result) {id : ℕ}
    (other : id ∉ result.1) {row : StreamSchedule} :
    (id, row) ∈ result.2.schedules ↔ (id, row) ∈ db.schedules := by
  obtain ⟨saved, -, saves⟩ := saveSchedules_saved pending done
  exact saves.elsewhere id row fun member => other ((saves.kept id).mpr (.inl member))

/-- The active schedules of an edited stream are those of the draft. -/
structure Edited (now : String) (draft : StreamDraft) (streamId : ℕ) (before saved : Finance) :
    Prop where
  /-- The edit itself changes no event. -/
  events : saved.events = before.events
  /-- Schedules change by their rules. -/
  evolves : Evolves scheduleRules before.schedules saved.schedules
  /-- Every drafted schedule is stored. -/
  stored : ∀ drafted ∈ draft.schedules, ∃ id, drafted.IsSaved before.schedules id ∧
    (id, drafted.row now streamId) ∈ saved.schedules
  /-- Every active schedule of the stream was drafted. -/
  drafted : ∀ id schedule, (id, schedule) ∈ saved.schedules → schedule.streamId = streamId →
    schedule.isActive = true → ∃ drafted ∈ draft.schedules, drafted.IsSaved before.schedules id ∧
      schedule = drafted.row now streamId

/-- Saving a stream stores the drafted schedules and then refreshes the stream. -/
theorem saveStream_edited {platform : Platform} {draft : StreamDraft} {window : ProjectionWindow}
    {db : Finance} {result : ℕ × Finance}
    (done : saveStream platform now draft window db = .ok result) :
    ∃ saved count, Edited now draft result.1 db saved ∧
      refreshStreamScheduleEventsOn now result.1 draft.name window saved =
        .ok (count, result.2) := by
  obtain ⟨first, retained, second, steps⟩ := saveStream_steps done
  obtain ⟨count, refreshed⟩ := steps.refreshed
  obtain ⟨each, all⟩ := saveSchedules_stored _ steps.saves
  rw [steps.schedules] at each all
  refine ⟨attachToDefaultView result.1 (deactivateMissing now result.1 retained second), count,
    ⟨?_, steps.evolves, ?_, ?_⟩, refreshed⟩ <;>
    simp only [attachToDefaultView, deactivateMissing]
  · rw [steps.written]
  · -- What a draft was saved as is retained, so it is not deactivated.
    intro drafted member
    obtain ⟨at_, kept, isSaved, stored⟩ := each drafted member
    refine ⟨at_, isSaved, Table.mem_updateWhere.mpr ⟨_, stored, ?_⟩⟩
    simp [kept]
  · -- Whatever the draft did not retain has been deactivated.
    intro at_ schedule stored stream active
    obtain ⟨old, there, rfl⟩ := Table.mem_updateWhere.mp stored
    split at active
    · cases active
    · rename_i spared
      rw [if_neg spared] at stream ⊢
      have kept : at_ ∈ retained := by simpa [stream, active] using spared
      obtain ⟨drafted, member, isSaved, row⟩ := all at_ kept
      exact ⟨drafted, member, isSaved, Table.unique there row⟩

/-- An edit returns the id of the stream it names. -/
theorem saveStream_id {platform : Platform} {draft : StreamDraft} {window : ProjectionWindow}
    {db : Finance} {result : ℕ × Finance} (edits : draft.id = some streamId)
    (done : saveStream platform now draft window db = .ok result) : result.1 = streamId := by
  simp only [saveStream, saveStreamRow, edits, bind_eq_ok, pure_eq_ok] at done
  obtain ⟨_, -, _, -, _, ⟨_, -, rfl⟩, _, -, _, -, rfl⟩ := done
  rfl

end FinStream
