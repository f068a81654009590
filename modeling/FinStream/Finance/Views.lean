import FinStream.Finance.Accounts

/-! The default view, and the one request that loses it. -/

namespace FinStream

open Store

/-- Whether a view is the default one. -/
def StreamView.leads (view : StreamView) : Bool := view.isDefault && view.isActive

/-- What a request to save a view must have besides its id. -/
structure StreamViewDraft.Accepted (draft : StreamViewDraft) (db : Finance) : Prop where
  named : isBlank draft.name = false
  distinct : draft.streamIds.Nodup
  active : ∀ streamId ∈ draft.streamIds, ∃ stream, (streamId, stream) ∈ db.streams ∧
    stream.isActive = true

/-- A view is saved when the request is accepted and the view it names, if any, is active. -/
theorem saveView_eq_ok {now : String} {draft : StreamViewDraft} {db : Finance}
    {result : ℕ × Finance} : saveView now draft db = .ok result ↔ draft.Accepted db ∧
      ∃ saved, saveViewRow now draft
          (if draft.isDefault then clearDefault now draft.id db.views else db.views) = .ok saved ∧
        result = (saved.1, { db with
          views := saved.2
          viewStreams := db.viewStreams.filter (·.1 ≠ saved.1) ∪
            (draft.streamIds.map (saved.1, ·)).toFinset }) := by
  -- The request is checked first, then the row is written, and then the memberships.
  simp only [saveView, bind_eq_ok, validateNonempty, ensure_eq_ok, pure_eq_ok, Bool.not_eq_true',
    decide_eq_true_eq]
  constructor
  · rintro ⟨_, named, _, distinct, _, checked, saved, row, rfl⟩
    refine ⟨⟨named, distinct, fun streamId member => ?_⟩, saved, row, rfl⟩
    have one := forM_eq_ok checked streamId member
    simp only [requireActiveStream, bind_eq_ok, required_eq_ok, Option.filter_eq_some_iff,
      Table.get?_eq_some] at one
    obtain ⟨name, ⟨stream, ⟨stored, active⟩, -⟩, -⟩ := one
    exact ⟨stream, stored, active⟩
  · rintro ⟨accepted, saved, row, rfl⟩
    refine ⟨⟨⟩, accepted.named, ⟨⟩, accepted.distinct, ⟨⟩, forM_ok fun streamId member => ?_,
      saved, row, rfl⟩
    obtain ⟨stream, stored, active⟩ := accepted.active streamId member
    simp only [requireActiveStream, bind_eq_ok, required_eq_ok, Option.filter_eq_some_iff,
      Table.get?_eq_some]
    exact ⟨stream.name, ⟨stream, ⟨stored, active⟩, rfl⟩, rfl⟩

/-- A request that takes the flag from the default view and gives it to no other. -/
structure FinanceOp.Demotes (op : FinanceOp) (db : Finance) : Prop where
  request : ∃ now draft id, op = .saveView now draft ∧ draft.Accepted db ∧ draft.id = some id ∧
    draft.isDefault = false ∧ db.views.Holder StreamView.leads id

/-- An operation as a call: an error rolls its transaction back. -/
def FinanceOp.call (platform : Platform) (op : FinanceOp) : Effect Finance FinanceError PUnit :=
  .transaction fun db => (op.apply platform db).map fun after => (⟨⟩, after)

/-- A successful operation is what its call commits. -/
theorem FinanceOp.call_ok {platform : Platform} {op : FinanceOp} {db after : Finance}
    (done : op.apply platform db = .ok after) : (op.call platform db).2 = after := by
  simp only [call, Effect.transaction, done]
  rfl

/-- A call that demotes the default view leaves none. -/
theorem FinanceOp.Demotes.vacant {platform : Platform} {op : FinanceOp} {db : Finance}
    (demotes : op.Demotes db) (single : db.views.AtMostOne StreamView.leads) (id : ℕ) :
    ¬(op.call platform db).2.views.Holder StreamView.leads id := by
  obtain ⟨now, draft, named, rfl, accepted, same, ordinary, held⟩ := demotes
  -- The request is valid, so the row it names is replaced by one without the flag.
  obtain ⟨view, stored, marked⟩ := held
  have active : view.isActive = true := by
    rw [StreamView.leads, Bool.and_eq_true] at marked
    exact marked.2
  have row : saveViewRow now draft db.views = .ok (named, db.views.updateWhere
      (fun stored view => stored == named && view.isActive) fun _ => draft.row now) := by
    simp only [saveViewRow, same, bind_eq_ok, ensure_eq_ok, pure_eq_ok, Option.any_eq_true,
      Table.get?_eq_some]
    exact ⟨⟨⟩, ⟨view, stored, active⟩, trivial⟩
  obtain ⟨result, saved, views⟩ : ∃ result, FinStream.saveView now draft db = .ok result ∧
      result.2.views = db.views.updateWhere
        (fun stored view => stored == named && view.isActive) fun _ => draft.row now := by
    refine ⟨_, saveView_eq_ok.mpr ⟨accepted, (named, _), ?_, rfl⟩, rfl⟩
    rw [ordinary, if_neg Bool.false_ne_true]
    exact row
  have applied : (FinanceOp.saveView now draft).apply platform db = .ok result.2 :=
    map_eq_ok.mpr ⟨result, saved, rfl⟩
  rw [FinanceOp.call_ok applied, views]
  rintro ⟨other, there, leads⟩
  obtain ⟨old, member, rfl⟩ := Table.mem_updateWhere.mp there
  split at leads
  · simp [StreamView.leads, StreamViewDraft.row, ordinary] at leads
  · -- No other view was the default.
    rename_i untouched
    have one := single id named ⟨old, member, leads⟩ ⟨view, stored, marked⟩
    subst one
    cases Table.unique member stored
    simp [active] at untouched

end FinStream
