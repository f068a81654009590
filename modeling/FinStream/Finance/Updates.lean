import FinStream.Finance.Requests
import FinStream.Finance.ScheduleEdit
import FinStream.Finance.Tidy

/-! What an update request leaves alone, and what the row it was merged with has to agree about. -/

namespace FinStream

open Store

/-- A column, unless a request names it. -/
def unlessNamed {α : Type} (named : Bool) (value : α) : Option α :=
  if named then none else some value

/-- Columns agree unless they are named when they agree whenever they are not. -/
@[simp] theorem unlessNamed_eq {α : Type} {named : Bool} {left right : α} :
    unlessNamed named left = unlessNamed named right ↔ (named = false → left = right) := by
  cases named <;> simp [unlessNamed]

/-! ### Accounts -/

/-- The columns of an account that a request does not name. -/
def AccountRequest.unnamed (request : AccountRequest) (account : Account) :=
  (unlessNamed request.kind.isSome account.kind,
    unlessNamed request.balance.isNamed (account.balance, account.balanceAsOfDate,
      account.sourceType, account.sourceRef, account.metadata, account.balanceUpdatedAt),
    unlessNamed request.isPrimary.isSome account.isPrimary,
    unlessNamed request.notes.isNamed account.notes, account.isActive)

/-- The columns of an account that a handler writes back without being asked to. -/
def AccountRequest.carried (request : AccountRequest) (account : Account) :=
  (unlessNamed request.kind.isSome account.kind,
    unlessNamed request.balance.isNamed (account.balance, account.balanceAsOfDate),
    unlessNamed request.isPrimary.isSome account.isPrimary,
    unlessNamed request.notes.isNamed account.notes)

/-- An account that is not the updated one, without what making another one primary changes. -/
def AccountRequest.unnamedElsewhere (request : AccountRequest) (account : Account) : Account :=
  { account with
    isPrimary := if request.isPrimary = some true then false else account.isPrimary
    updatedAt := if request.isPrimary = some true then "" else account.updatedAt }

/-- An update of an account changes what its request names, and the timestamp. -/
structure AccountRequest.Kept (request : AccountRequest) (id : ℕ) (before after : Finance) :
    Prop where
  row : ∀ stored, (id, stored) ∈ before.accounts → ∃ now, (id, now) ∈ after.accounts ∧
    request.unnamed now = request.unnamed stored
  others : ∀ other stored, other ≠ id → (other, stored) ∈ before.accounts →
    ∃ now, (other, now) ∈ after.accounts ∧
      request.unnamedElsewhere now = request.unnamedElsewhere stored
  rest : after = { before with accounts := after.accounts }

/-- The columns that are written back are still the stored ones. -/
def AccountRequest.Current (request : AccountRequest) (id : ℕ) (existing : Account)
    (before : Finance) : Prop :=
  ∀ stored, (id, stored) ∈ before.accounts → request.carried existing = request.carried stored

section Accounts

variable {now : String} {before : Finance} {id : ℕ} {request : AccountRequest} {today : IsoDate}
  {existing : Account} {result : ℕ × Finance}

/-- Saving an account that is named replaces its row, after the primary flag of others is cleared. -/
theorem saveAccount_named {draft : AccountDraft} (named : draft.id = some id)
    (done : saveAccount now draft before = .ok result) :
    (∃ stored, (id, stored) ∈ before.accounts) ∧
    (∀ stored, (id, stored) ∈ before.accounts → stored.isActive = true →
      (id, stored.replacedBy now draft) ∈ result.2.accounts) ∧
    ∀ other stored, other ≠ id → (other, stored) ∈ before.accounts →
      (other, if draft.isPrimary && stored.isPrimary then
        { stored with isPrimary := false, updatedAt := now } else stored) ∈ result.2.accounts := by
  simp only [saveAccount, bind_eq_ok] at done
  obtain ⟨_, -, _, -, _, -, _, -, _, -, _, -, done⟩ := done
  rw [named] at done
  simp only [bind_eq_ok, ensure_eq_ok, pure_eq_ok, Option.any_eq_true_iff_get] at done
  obtain ⟨_, ⟨present, -⟩, rfl⟩ := done
  -- Clearing the flag leaves the updated account alone.
  have cleared : ∀ {other : ℕ} {account : Account}, (other, account) ∈ before.accounts →
      (other, if draft.isPrimary && (account.isPrimary && some id != some other) then
          { account with isPrimary := false, updatedAt := now } else account) ∈
        (if draft.isPrimary then clearPrimary now (some id) before.accounts
          else before.accounts) := by
    intro other account there
    cases draft.isPrimary with
    | false => simpa using there
    | true =>
      rw [if_pos rfl, Bool.true_and]
      exact Table.mem_updateWhere.mpr ⟨account, there, rfl⟩
  refine ⟨?_, fun stored there active => ?_, fun other stored different there => ?_⟩
  · obtain ⟨account, found⟩ := Option.isSome_iff_exists.mp present
    have there := Table.get?_eq_some.mp found
    split at there
    · obtain ⟨stored, was, -⟩ := Table.mem_updateWhere.mp there
      exact ⟨stored, was⟩
    · exact ⟨account, there⟩
  · refine Table.mem_updateWhere.mpr ⟨stored, ?_, by simp [active]⟩
    simpa using cleared there
  · refine Table.mem_updateWhere.mpr ⟨_, cleared there, ?_⟩
    have : some id ≠ some other := fun same => different (Option.some.inj same).symm
    simp [different, this]

/-- An account without a balance named keeps its balance exactly when it was read as stored. -/
theorem balance_replacedBy {stored : Account} {draft : AccountDraft} (tidy : stored.Tidy)
    (balance : draft.balance.map F64.value = existing.balance)
    (date : draft.balanceAsOfDate = existing.balanceAsOfDate) :
    ((stored.replacedBy now draft).balance, (stored.replacedBy now draft).balanceAsOfDate,
      (stored.replacedBy now draft).sourceType, (stored.replacedBy now draft).sourceRef,
      (stored.replacedBy now draft).metadata, (stored.replacedBy now draft).balanceUpdatedAt) =
      (stored.balance, stored.balanceAsOfDate, stored.sourceType, stored.sourceRef,
        stored.metadata, stored.balanceUpdatedAt) ↔
    (existing.balance, existing.balanceAsOfDate) = (stored.balance, stored.balanceAsOfDate) := by
  simp only [Account.replacedBy, balance, date, Prod.mk.injEq]
  constructor
  · exact fun same => ⟨same.1, same.2.1⟩
  · rintro ⟨sameBalance, sameDate⟩
    rw [sameBalance, sameDate]
    refine ⟨rfl, rfl, ?_, by simp, by simp, ?_⟩
    · cases unset : stored.balance with
      | none => simp [(tidy.unset unset).1]
      | some => simp
    · cases unset : stored.balance with
      | none => simp [(tidy.unset unset).2]
      | some => simp

/-- Replacing a row keeps what is not named exactly when what is written back is current. -/
theorem unnamed_replacedBy {stored : Account} (tidy : stored.Tidy) (existingTidy : existing.Tidy) :
    request.unnamed (stored.replacedBy now (request.draft (some id) today (some existing))) =
      request.unnamed stored ↔ request.carried existing = request.carried stored := by
  have active : (stored.replacedBy now (request.draft (some id) today (some existing))).isActive =
    stored.isActive := rfl
  simp only [AccountRequest.unnamed, AccountRequest.carried, Prod.mk.injEq, unlessNamed_eq,
    active, and_true]
  refine and_congr ?_ (and_congr ?_ (and_congr ?_ ?_)) <;> refine imp_congr_right fun unnamed => ?_
  · -- The kind is trimmed again.
    cases kind : request.kind with
    | some => simp [kind] at unnamed
    | none => simp [Account.replacedBy, AccountRequest.draft, kind, existingTidy.kind]
  · cases balance : request.balance with
    | null | value => simp [balance, WireField.isNamed] at unnamed
    | missing =>
      simp only [← Prod.mk.injEq]
      refine balance_replacedBy tidy ?_ ?_
      · simp only [AccountRequest.draft, balance, Option.bind_some, Option.map_map]
        exact Option.map_id'
      · simp [AccountRequest.draft, balance]
  · cases primary : request.isPrimary with
    | some => simp [primary] at unnamed
    | none => simp [Account.replacedBy, AccountRequest.draft, primary]
  · cases notes : request.notes with
    | null | value => simp [notes, WireField.isNamed] at unnamed
    | missing =>
      simp [Account.replacedBy, AccountRequest.draft, notes, WireField.merged, existingTidy.notes]

/-- An update of an account keeps what it does not name exactly when what it read is current. -/
theorem saveAccount_kept_iff (tidy : before.Tidy) (existingTidy : existing.Tidy)
    (done : saveAccount now (request.draft (some id) today (some existing)) before = .ok result) :
    request.Kept id before result.2 ↔ request.Current id existing before := by
  obtain ⟨⟨updated, updatedThere⟩, replaced, others⟩ := saveAccount_named rfl done
  constructor
  · intro kept stored there
    obtain ⟨row, last, same⟩ := kept.row stored there
    have isTidy := tidy.accounts id stored there
    obtain rfl := Table.unique last (replaced stored there isTidy.active)
    exact (unnamed_replacedBy isTidy existingTidy).mp same
  · intro current
    refine ⟨fun stored there => ?_, fun other stored different there => ?_, saveAccount_frame done⟩
    · have isTidy := tidy.accounts id stored there
      exact ⟨_, replaced stored there isTidy.active,
        (unnamed_replacedBy isTidy existingTidy).mpr (current stored there)⟩
    · refine ⟨_, others other stored different there, ?_⟩
      split
      · rename_i demoted
        simp only [Bool.and_eq_true] at demoted
        obtain ⟨primary, wasPrimary⟩ := demoted
        cases asked : request.isPrimary with
        | some value =>
          simp only [AccountRequest.draft, asked, Option.getD_some] at primary
          simp [AccountRequest.unnamedElsewhere, asked, primary]
        | none =>
          -- The updated account is still the primary one, so no other account was.
          simp only [AccountRequest.draft, asked, Option.getD_none, Option.any_some] at primary
          have same := current updated updatedThere
          simp only [AccountRequest.carried, Prod.mk.injEq, unlessNamed_eq, asked,
            Option.isSome_none, forall_const] at same
          have isPrimary : updated.isPrimary = true := by rw [← same.2.2.1, primary]
          exact absurd (tidy.primary _ _ _ _ there updatedThere wasPrimary isPrimary) different
      · rfl

end Accounts

/-! ### Views -/

/-- The columns of a view that a request does not name. -/
def ViewRequest.unnamed (request : ViewRequest) (view : StreamView) :=
  (unlessNamed request.description.isNamed view.description,
    unlessNamed request.isDefault.isSome view.isDefault, view.isActive)

/-- The columns of a view that a handler writes back without being asked to. -/
def ViewRequest.carried (request : ViewRequest) (view : StreamView) :=
  (unlessNamed request.description.isNamed view.description,
    unlessNamed request.isDefault.isSome view.isDefault)

/-- A view that is not the updated one, without what making another one the default changes. -/
def ViewRequest.unnamedElsewhere (request : ViewRequest) (view : StreamView) : StreamView :=
  { view with
    isDefault := if request.isDefault = some true then false else view.isDefault
    updatedAt := if request.isDefault = some true then "" else view.updatedAt }

/-- An update of a view changes what its request names, and the timestamp. -/
structure ViewRequest.Kept (request : ViewRequest) (id : ℕ) (before after : Finance) : Prop where
  row : ∀ stored, (id, stored) ∈ before.views → ∃ now, (id, now) ∈ after.views ∧
    request.unnamed now = request.unnamed stored
  others : ∀ other stored, other ≠ id → (other, stored) ∈ before.views →
    ∃ now, (other, now) ∈ after.views ∧
      request.unnamedElsewhere now = request.unnamedElsewhere stored
  members : ∀ viewId streamId, viewId ≠ id ∨ request.streamIds = none →
    ((viewId, streamId) ∈ after.viewStreams ↔ (viewId, streamId) ∈ before.viewStreams)
  rest : after = { before with views := after.views, viewStreams := after.viewStreams }

/-- What is written back is still what is stored: the columns of the row, and its members. -/
structure ViewRequest.Current (request : ViewRequest) (id : ℕ) (existing : ViewEditor)
    (before : Finance) : Prop where
  row : ∀ stored, (id, stored) ∈ before.views →
    request.carried existing.view = request.carried stored
  members : request.streamIds = none → ∀ streamId,
    streamId ∈ existing.members ↔ (id, streamId) ∈ before.viewStreams

section Views

variable {now : String} {before : Finance} {id : ℕ} {request : ViewRequest} {existing : ViewEditor}
  {result : ℕ × Finance}

/-- Saving a view that is named replaces its row and its members, and may take the default flag. -/
theorem saveView_named {draft : StreamViewDraft} (named : draft.id = some id)
    (done : saveView now draft before = .ok result) :
    (∃ stored, (id, stored) ∈ before.views ∧ stored.isActive = true) ∧
    (∀ stored, (id, stored) ∈ before.views → stored.isActive = true →
      (id, draft.row now) ∈ result.2.views) ∧
    (∀ other stored, other ≠ id → (other, stored) ∈ before.views →
      (other, if draft.isDefault && stored.isDefault then
        { stored with isDefault := false, updatedAt := now } else stored) ∈ result.2.views) ∧
    result.2.viewStreams = before.viewStreams.filter (·.1 ≠ id) ∪
      (draft.streamIds.map (id, ·)).toFinset := by
  simp only [saveView, bind_eq_ok, pure_eq_ok] at done
  obtain ⟨_, -, _, -, _, -, ⟨viewId, views⟩, saved, rfl⟩ := done
  simp only [saveViewRow, named, bind_eq_ok, ensure_eq_ok, pure_eq_ok, Option.any_eq_true_iff_get]
    at saved
  obtain ⟨_, ⟨present, active⟩, same⟩ := saved
  cases same
  -- Clearing the flag leaves the updated view alone.
  have cleared : ∀ {other : ℕ} {view : StreamView}, (other, view) ∈ before.views →
      (other, if draft.isDefault && (view.isDefault && some id != some other) then
          { view with isDefault := false, updatedAt := now } else view) ∈
        (if draft.isDefault then clearDefault now (some id) before.views else before.views) := by
    intro other view there
    cases draft.isDefault with
    | false => simpa using there
    | true =>
      rw [if_pos rfl, Bool.true_and]
      exact Table.mem_updateWhere.mpr ⟨view, there, rfl⟩
  refine ⟨?_, fun stored there active => ?_, fun other stored different there => ?_, rfl⟩
  · obtain ⟨view, found⟩ := Option.isSome_iff_exists.mp present
    have there := Table.get?_eq_some.mp found
    simp only [found, Option.get_some] at active
    split at there
    · obtain ⟨stored, was, rfl⟩ := Table.mem_updateWhere.mp there
      refine ⟨stored, was, ?_⟩
      split at active <;> exact active
    · exact ⟨view, there, active⟩
  · refine Table.mem_updateWhere.mpr ⟨stored, ?_, by simp [active]⟩
    simpa using cleared there
  · refine Table.mem_updateWhere.mpr ⟨_, cleared there, ?_⟩
    have : some id ≠ some other := fun same => different (Option.some.inj same).symm
    simp [different, this]

/-- Replacing a view keeps what is not named exactly when what is written back is current. -/
theorem unnamed_row {stored : StreamView} (active : stored.isActive = true)
    (existingTidy : existing.view.Tidy) :
    request.unnamed ((request.draft (some id) (some existing)).row now) = request.unnamed stored ↔
      request.carried existing.view = request.carried stored := by
  have isActive : ((request.draft (some id) (some existing)).row now).isActive = stored.isActive :=
    active.symm
  simp only [ViewRequest.unnamed, ViewRequest.carried, Prod.mk.injEq, unlessNamed_eq, isActive,
    and_true]
  refine and_congr (imp_congr_right fun unnamed => ?_) (imp_congr_right fun unnamed => ?_)
  · cases description : request.description with
    | null | value => simp [description, WireField.isNamed] at unnamed
    | missing =>
      have tidy : cleanOptional existing.view.description = existing.view.description :=
        existingTidy
      simp [StreamViewDraft.row, ViewRequest.draft, description, WireField.merged, tidy]
  · cases isDefault : request.isDefault with
    | some => simp [isDefault] at unnamed
    | none => simp [StreamViewDraft.row, ViewRequest.draft, isDefault]

/-- An update of a view keeps what it does not name exactly when what it read is current. -/
theorem saveView_kept_iff (tidy : before.Tidy) (existingTidy : existing.view.Tidy)
    (done : saveView now (request.draft (some id) (some existing)) before = .ok result) :
    request.Kept id before result.2 ↔ request.Current id existing before := by
  obtain ⟨⟨updated, updatedThere, active⟩, replaced, others, members⟩ := saveView_named rfl done
  constructor
  · intro kept
    refine ⟨fun stored there => ?_, fun unnamed streamId => ?_⟩
    · obtain rfl := Table.unique there updatedThere
      obtain ⟨row, last, same⟩ := kept.row stored there
      obtain rfl := Table.unique last (replaced stored there active)
      exact (unnamed_row active existingTidy).mp same
    · have same := kept.members id streamId (.inr unnamed)
      rw [members] at same
      rw [← same]
      simp [ViewRequest.draft, unnamed]
  · intro current
    refine ⟨fun stored there => ?_, fun other stored different there => ?_,
      fun viewId streamId unnamed => ?_, saveView_frame done⟩
    · obtain rfl := Table.unique there updatedThere
      exact ⟨_, replaced stored there active,
        (unnamed_row active existingTidy).mpr (current.row stored there)⟩
    · refine ⟨_, others other stored different there, ?_⟩
      split
      · rename_i lowered
        simp only [Bool.and_eq_true] at lowered
        obtain ⟨default, wasDefault⟩ := lowered
        cases asked : request.isDefault with
        | some value =>
          simp only [ViewRequest.draft, asked, Option.getD_some] at default
          simp [ViewRequest.unnamedElsewhere, asked, default]
        | none =>
          -- The updated view is still the default one, so no other view was.
          simp only [ViewRequest.draft, asked, Option.getD_none, Option.any_some] at default
          have same := current.row updated updatedThere
          simp only [ViewRequest.carried, Prod.mk.injEq, unlessNamed_eq, asked,
            Option.isSome_none, forall_const] at same
          have isDefault : updated.isDefault = true := by rw [← same.2, default]
          exact absurd (tidy.default _ _ _ _ there updatedThere wasDefault isDefault) different
      · rfl
    · rw [members]
      by_cases same : viewId = id
      · subst same
        have unnamed : request.streamIds = none :=
          unnamed.resolve_left fun different => different rfl
        simp [ViewRequest.draft, unnamed, current.members unnamed]
      · simp [same, Ne.symm same]

end Views

/-! ### Streams -/

/-- The columns of a stream that a request does not name; a kind decides the type and direction. -/
def StreamRequest.unnamed (request : StreamRequest) (stream : Stream) :=
  (unlessNamed request.kind.isSome (stream.kind, stream.streamType, stream.direction),
    unlessNamed request.amountCertainty.isSome stream.amountCertainty,
    unlessNamed request.description.isNamed stream.description,
    unlessNamed request.defaultAccountId.isNamed stream.defaultAccountId,
    stream.configuration, stream.parentId, stream.isActive)

/-- The columns of a stream that a handler writes back without being asked to. -/
def StreamRequest.carried (request : StreamRequest) (stream : Stream) :=
  (unlessNamed request.kind.isSome (stream.kind, stream.streamType, stream.direction),
    unlessNamed request.amountCertainty.isSome stream.amountCertainty,
    unlessNamed request.description.isNamed stream.description,
    unlessNamed request.defaultAccountId.isNamed stream.defaultAccountId,
    stream.configuration, stream.parentId)

/-- Whether a request removes the first schedule, by a frequency that is null or blank. -/
def StreamRequest.removesFirst (request : StreamRequest) : Bool :=
  match request.scheduleFrequency with
  | .missing => false
  | .null => true
  | .value value => isBlank value

/-- The columns of the edited schedule that a request does not name. -/
def StreamRequest.unnamedSchedule (request : StreamRequest) (schedule : StreamSchedule) :=
  (schedule.streamId, unlessNamed request.defaultAccountId.isNamed schedule.accountId,
    schedule.label, unlessNamed request.scheduleAmount.isNamed schedule.amount,
    unlessNamed request.scheduleFrequency.isNamed schedule.frequency,
    unlessNamed (request.dueDay.isNamed || request.scheduleFrequency.isNamed) schedule.dayOfMonth,
    unlessNamed request.startDate.isNamed schedule.startDate,
    unlessNamed request.endDate.isNamed schedule.endDate,
    unlessNamed request.removesFirst schedule.isActive, schedule.metadata)

/-- A schedule without its timestamp. -/
def StreamSchedule.content (schedule : StreamSchedule) : StreamSchedule :=
  { schedule with updatedAt := "" }

/-- Two versions of a schedule agree about what a request does not name. -/
def StreamRequest.SameSchedule (request : StreamRequest) (edited : Bool)
    (left right : StreamSchedule) : Prop :=
  if edited then request.unnamedSchedule left = request.unnamedSchedule right
  else left.content = right.content

/-- The schedule a request edits: the one it names, else the first active one. -/
def StreamRequest.edits (request : StreamRequest) (id : ℕ) (db : Finance) (scheduleId : ℕ) : Bool :=
  request.isFlattened &&
    request.scheduleId.or ((activeSchedules db id).head?.map Prod.fst) == some scheduleId

/-- An update of a stream changes what its request names, timestamps, and events. -/
structure StreamRequest.Kept (request : StreamRequest) (id : ℕ) (before after : Finance) :
    Prop where
  row : ∀ stored, (id, stored) ∈ before.streams → ∃ now, (id, now) ∈ after.streams ∧
    request.unnamed now = request.unnamed stored
  others : ∀ other stored, other ≠ id → (other, stored) ∈ before.streams →
    (other, stored) ∈ after.streams
  schedules : ∀ scheduleId stored, (scheduleId, stored) ∈ before.schedules →
    ∃ now, (scheduleId, now) ∈ after.schedules ∧ (stored.streamId ≠ id → now = stored) ∧
      (request.schedules = .missing →
        request.SameSchedule (request.edits id before scheduleId) now stored)
  members : after.viewStreams = before.viewStreams
  accounts : after.accounts = before.accounts
  views : after.views = before.views

/-- The schedules that are written back are still the stored ones. -/
structure StreamRequest.SchedulesCurrent (request : StreamRequest) (id : ℕ)
    (existing : StreamConfig) (before : Finance) : Prop where
  /-- The same schedules are active. -/
  ids : existing.schedules.map Prod.fst = (activeSchedules before id).map Prod.fst
  /-- They have the same content. -/
  contents : ∀ scheduleId was is, (scheduleId, was) ∈ existing.schedules →
    (scheduleId, is) ∈ activeSchedules before id →
    request.SameSchedule (request.edits id before scheduleId) was is
  /-- A schedule the request names is the first one. -/
  first : request.isFlattened = true → ∀ scheduleId, request.scheduleId = some scheduleId →
    existing.schedules.head?.map Prod.fst = some scheduleId
  /-- The edited schedule has a label, and an account unless the stream has none to give. -/
  filled : request.isFlattened = true → ∀ entry, existing.schedules.head? = some entry →
    entry.2.label.isSome = true ∧ (request.defaultAccountId = .missing →
      entry.2.accountId.isSome = true ∨ existing.stream.defaultAccountId = none)

/-- What is written back is still what is stored, and every default view has the stream. -/
structure StreamRequest.Current (request : StreamRequest) (id : ℕ) (existing : StreamConfig)
    (before : Finance) : Prop where
  row : ∀ stored, (id, stored) ∈ before.streams →
    request.carried existing.stream = request.carried stored
  schedules : request.schedules = .missing → request.SchedulesCurrent id existing before
  members : ∀ viewId view, (viewId, view) ∈ before.views → view.isDefault = true →
    view.isActive = true → (viewId, id) ∈ before.viewStreams

/-- What saving a stream that is named does to every row. -/
structure StreamReplaced (now : String) (draft : StreamDraft) (id : ℕ) (before after : Finance) :
    Prop where
  present : ∃ stored, (id, stored) ∈ before.streams ∧ stored.isActive = true
  row : (id, draft.row now) ∈ after.streams
  others : ∀ other stored, other ≠ id → (other, stored) ∈ before.streams →
    (other, stored) ∈ after.streams
  elsewhere : ∀ scheduleId stored, (scheduleId, stored) ∈ before.schedules →
    stored.streamId ≠ id → (scheduleId, stored) ∈ after.schedules
  drafted : ∀ scheduleId stored, (scheduleId, stored) ∈ before.schedules →
    ∀ drafted ∈ draft.schedules, drafted.id = some scheduleId →
    stored.streamId = id ∧ (scheduleId, drafted.row now id) ∈ after.schedules
  dropped : ∀ scheduleId stored, (scheduleId, stored) ∈ before.schedules → stored.streamId = id →
    (∀ drafted ∈ draft.schedules, drafted.id ≠ some scheduleId) →
    (scheduleId, if stored.isActive then { stored with isActive := false, updatedAt := now }
      else stored) ∈ after.schedules
  members : ∀ viewId streamId, (viewId, streamId) ∈ after.viewStreams ↔
    (viewId, streamId) ∈ before.viewStreams ∨ streamId = id ∧
      ∃ view, (viewId, view) ∈ before.views ∧ view.isDefault = true ∧ view.isActive = true
  accounts : after.accounts = before.accounts
  views : after.views = before.views

section Streams

variable {platform : Platform} {now : String} {before : Finance} {id : ℕ}
  {request : StreamRequest} {today : IsoDate} {existing : StreamConfig} {window : ProjectionWindow}
  {draft : StreamDraft} {result : ℕ × Finance}

/-- Saving a stream that is named replaces its row and its schedules. -/
theorem saveStream_replaced (named : draft.id = some id)
    (done : saveStream platform now draft window before = .ok result) :
    StreamReplaced now draft id before result.2 := by
  obtain ⟨first, retained, second, steps⟩ := saveStream_steps done
  obtain ⟨streamId, after⟩ := result
  have row := steps.row
  have saves := steps.saves
  have frame := steps.after
  simp only [saveStreamRow, named, bind_eq_ok, ensure_eq_ok, pure_eq_ok,
    Option.any_eq_true_iff_get] at row
  obtain ⟨_, ⟨present, active⟩, same⟩ := row
  cases same
  obtain ⟨stored, found⟩ := Option.isSome_iff_exists.mp present
  simp only [found, Option.get_some] at active
  have there := Table.get?_eq_some.mp found
  obtain ⟨evolved, rest⟩ := saveSchedules_evolves _ saves
  obtain ⟨each, all⟩ := saveSchedules_stored _ saves
  simp only at frame rest evolved each all
  -- The refresh changes events only, and saving schedules changes schedules only.
  have streams : after.streams = before.streams.updateWhere
      (fun stored stream => stored == id && stream.isActive) fun _ => draft.row now := by
    rw [frame]
    simp only [attachToDefaultView, deactivateMissing]
    rw [rest]
  have schedules : after.schedules = second.schedules.updateWhere
      (fun scheduleId row => row.streamId == id && row.isActive && !retained.contains scheduleId)
      fun row => { row with isActive := false, updatedAt := now } := by
    rw [frame]
    rfl
  have moved : ∀ {scheduleId : ℕ} {old new : StreamSchedule}, (scheduleId, old) ∈ before.schedules →
      (scheduleId, new) ∈ second.schedules → new.streamId = old.streamId :=
    fun was is => evolved.column_eq (fun _ _ changed => changed) was is
  -- A schedule that was stored before is retained when a draft names it.
  have retains : ∀ {scheduleId : ℕ} {old : StreamSchedule}, (scheduleId, old) ∈ before.schedules →
      scheduleId ∈ retained → ∃ drafted ∈ draft.schedules, drafted.id = some scheduleId ∧
        (scheduleId, drafted.row now id) ∈ second.schedules := by
    intro scheduleId old was kept
    obtain ⟨drafted, member, isSaved, row⟩ := all scheduleId kept
    refine ⟨drafted, member, isSaved.resolve_right fun fresh => ?_, row⟩
    exact absurd (Table.lt_next was) (Nat.not_lt.mpr fresh.2)
  have untouched : ∀ {scheduleId : ℕ} {old : StreamSchedule}, (scheduleId, old) ∈ before.schedules →
      scheduleId ∉ retained → (scheduleId, old) ∈ second.schedules :=
    fun was other => (saveSchedules_elsewhere _ saves other).mpr was
  refine ⟨⟨stored, there, active⟩, ?_, ?_, ?_, ?_, ?_, ?_, ?_, ?_⟩
  · rw [streams]
    exact Table.mem_updateWhere.mpr ⟨stored, there, by simp [active]⟩
  · intro other row different was
    rw [streams]
    exact Table.mem_updateWhere.mpr ⟨row, was, by simp [different]⟩
  · intro scheduleId old was different
    have other : scheduleId ∉ retained := by
      intro kept
      obtain ⟨drafted, -, -, row⟩ := retains was kept
      exact different (moved was row).symm
    rw [schedules]
    exact Table.mem_updateWhere.mpr ⟨old, untouched was other, by simp [different]⟩
  · intro scheduleId old was drafted member names
    obtain ⟨at_, kept, isSaved, row⟩ := each drafted member
    have same : at_ = scheduleId := by
      rcases isSaved with named | ⟨unnamed, -⟩
      · exact Option.some.inj (named.symm.trans names)
      · rw [unnamed] at names
        cases names
    subst same
    refine ⟨(moved was row).symm, ?_⟩
    rw [schedules]
    exact Table.mem_updateWhere.mpr ⟨_, row, by simp [kept]⟩
  · intro scheduleId old was stream free
    have other : scheduleId ∉ retained := by
      intro kept
      obtain ⟨drafted, member, names, -⟩ := retains was kept
      exact free drafted member names
    rw [schedules]
    exact Table.mem_updateWhere.mpr ⟨old, untouched was other, by simp [stream, other]⟩
  · intro viewId streamId
    have members : after.viewStreams = (attachToDefaultView id
        (deactivateMissing now id retained second)).viewStreams := by
      rw [frame]
    have sameMembers : second.viewStreams = before.viewStreams := by rw [rest]
    have sameViews : second.views = before.views := by rw [rest]
    rw [members]
    simp only [attachToDefaultView, deactivateMissing, sameMembers, sameViews, Finset.mem_union,
      List.mem_toFinset, List.mem_map, List.mem_filter, Bool.and_eq_true, Prod.mk.injEq]
    refine or_congr_right ⟨?_, ?_⟩
    · rintro ⟨⟨_, view⟩, ⟨listed, flags⟩, rfl, rfl⟩
      exact ⟨rfl, view, listed, flags⟩
    · rintro ⟨rfl, view, listed, flags⟩
      exact ⟨(viewId, view), ⟨listed, flags⟩, rfl, rfl⟩
  · rw [frame]
    simp only [attachToDefaultView, deactivateMissing]
    rw [rest]
  · rw [frame]
    simp only [attachToDefaultView, deactivateMissing]
    rw [rest]

/-- What a draft is made of. -/
theorem buildStreamDraft_ok
    (built : buildStreamDraft (some id) request (some existing) today = .ok draft) :
    ∃ streamType direction amountCertainty schedules,
      typeAndDirection (request.kindOver (some existing)) (some existing) =
        .ok (streamType, direction) ∧
      request.certaintyOver (some existing) (request.kindOver (some existing)) =
        .ok amountCertainty ∧
      request.schedulesOver (some existing)
        (request.defaultAccountId.merged existing.stream.defaultAccountId) today = .ok schedules ∧
      draft = {
        id := some id
        name := request.name
        streamType, kind := request.kindOver (some existing), direction, amountCertainty
        description := request.description.merged existing.stream.description
        defaultAccountId := request.defaultAccountId.merged existing.stream.defaultAccountId
        configuration := existing.stream.configuration
        parentId := existing.stream.parentId
        schedules } := by
  simp only [buildStreamDraft, bind_eq_ok, pure_eq_ok, Option.bind_some] at built
  obtain ⟨⟨streamType, direction⟩, typed, amountCertainty, certainty, schedules, scheduled, rfl⟩ :=
    built
  exact ⟨streamType, direction, amountCertainty, schedules, typed, certainty, scheduled, rfl⟩

/-- Replacing a stream keeps what is not named exactly when what is written back is current. -/
theorem unnamed_streamRow {stored : Stream} (active : stored.isActive = true)
    (existingTidy : existing.stream.Tidy)
    (built : buildStreamDraft (some id) request (some existing) today = .ok draft) :
    request.unnamed (draft.row now) = request.unnamed stored ↔
      request.carried existing.stream = request.carried stored := by
  obtain ⟨streamType, direction, amountCertainty, schedules, typed, certainty, -, rfl⟩ :=
    buildStreamDraft_ok built
  simp only [StreamRequest.unnamed, StreamRequest.carried, StreamDraft.row, Prod.mk.injEq,
    unlessNamed_eq, active.symm, and_true]
  refine and_congr (imp_congr_right fun unnamed => ?_) (and_congr (imp_congr_right fun unnamed => ?_)
    (and_congr (imp_congr_right fun unnamed => ?_) (and_congr_left' (imp_congr_right fun unnamed =>
      ?_))))
  · cases kind : request.kind with
    | some => simp [kind] at unnamed
    | none =>
      -- The kind stays, so the type and direction stay with it.
      have kept : request.kindOver (some existing) = existing.stream.kind := by
        simp [StreamRequest.kindOver, kind]
      simp only [kept, typeAndDirection, Option.filter_some, beq_self_eq_true, if_true, pure_eq_ok,
        Prod.mk.injEq] at typed
      rw [kept, ← typed.1, ← typed.2, existingTidy.kind, existingTidy.streamType]
  · cases asked : request.amountCertainty with
    | some => simp [asked] at unnamed
    | none =>
      simp only [StreamRequest.certaintyOver, asked, Option.map_some, Option.getD_some, pure_eq_ok]
        at certainty
      rw [← certainty]
  · cases description : request.description with
    | null | value => simp [description, WireField.isNamed] at unnamed
    | missing => simp [WireField.merged, existingTidy.description]
  · cases account : request.defaultAccountId with
    | null | value => simp [account, WireField.isNamed] at unnamed
    | missing => simp [WireField.merged]

/-- The draft of a listed schedule leaves its content as it is. -/
theorem scheduleFromView_content {entry : ℕ × StreamSchedule} (tidy : entry.2.Tidy)
    (stream : entry.2.streamId = id) (active : entry.2.isActive = true) :
    ((scheduleFromView entry).row now id).content = entry.2.content := by
  simp [ScheduleDraft.row, scheduleFromView, StreamSchedule.content, F64.value, tidy.label,
    ← stream, active]

/-- The draft of the edited schedule changes what the request names. -/
theorem firstSchedule_unnamed {entry : ℕ × StreamSchedule} {defaultAccountId : Option ℕ}
    {drafted : ScheduleDraft} (tidy : entry.2.Tidy) (stream : entry.2.streamId = id)
    (active : entry.2.isActive = true) (label : entry.2.label.isSome = true)
    (account : request.defaultAccountId = .missing →
      entry.2.accountId.isSome = true ∨ defaultAccountId = none)
    (made : request.firstSchedule (some entry) defaultAccountId today = .ok (some drafted)) :
    request.unnamedSchedule (drafted.row now id) = request.unnamedSchedule entry.2 := by
  simp only [StreamRequest.firstSchedule, bind_eq_ok, Option.map_some, Option.bind_some] at made
  obtain ⟨frequency, chosen, made⟩ := made
  cases frequency with
  | none => cases made
  | some frequency =>
    simp only [bind_eq_ok, pure_eq_ok, Option.some.injEq] at made
    obtain ⟨day, dayOk, start, startOk, ends, endsOk, rfl⟩ := made
    have sameLabel : cleanOptional (entry.2.label.or (some s!"{trim request.name} due")) =
        entry.2.label := by
      obtain ⟨text, has⟩ := Option.isSome_iff_exists.mp label
      rw [has, Option.some_or, ← has, tidy.label]
    have sameAccount : request.defaultAccountId.isNamed = false →
        request.firstAccount (some entry.2) defaultAccountId = entry.2.accountId := by
      intro unnamed
      have missing : request.defaultAccountId = .missing := WireField.eq_missing unnamed
      simp only [StreamRequest.firstAccount, unnamed, Option.bind_some]
      rcases account missing with own | none_
      · obtain ⟨accountId, has⟩ := Option.isSome_iff_exists.mp own
        simp [has]
      · simp [none_]
    have sameFrequency : request.scheduleFrequency.isNamed = false →
        frequency = entry.2.frequency := by
      intro unnamed
      simp only [StreamRequest.firstFrequency, WireField.eq_missing unnamed, Option.map_some,
        pure_eq_ok, Option.some.injEq] at chosen
      exact chosen.symm
    have sameDay : (request.dueDay.isNamed || request.scheduleFrequency.isNamed) = false →
        day = entry.2.dayOfMonth := by
      intro unnamed
      simp only [Bool.or_eq_false_iff] at unnamed
      simp only [StreamRequest.firstDay, WireField.eq_missing unnamed.1, WireField.merged,
        Option.bind_some, sameFrequency unnamed.2] at dayOk
      cases has : entry.2.dayOfMonth with
      | none =>
        -- A monthly schedule has a day, so none is filled in.
        have notMonthly : entry.2.frequency ≠ .monthly := by
          intro monthly
          have := tidy.day monthly
          rw [has] at this
          cases this
        simp [has, notMonthly] at dayOk
        exact dayOk.symm
      | some stored =>
        simp [has, parseDayOfMonth] at dayOk
        exact dayOk.2.symm
    have sameStart : request.startDate.isNamed = false → start = entry.2.startDate := by
      intro unnamed
      simp only [StreamRequest.firstStart, WireField.eq_missing unnamed, Option.map_some,
        Option.getD_some, pure_eq_ok] at startOk
      exact startOk.symm
    have sameEnd : request.endDate.isNamed = false → ends = entry.2.endDate := by
      intro unnamed
      simp only [StreamRequest.firstEnd, WireField.eq_missing unnamed, Option.bind_some,
        pure_eq_ok] at endsOk
      exact endsOk.symm
    have sameAmount : request.scheduleAmount.isNamed = false →
        (request.firstAmount (some entry.2)).value = entry.2.amount := by
      intro unnamed
      simp [StreamRequest.firstAmount, WireField.eq_missing unnamed, F64.value]
    simp only [StreamRequest.unnamedSchedule, ScheduleDraft.row, Prod.mk.injEq, unlessNamed_eq]
    exact ⟨stream.symm, sameAccount, sameLabel, sameAmount, sameFrequency, sameDay, sameStart,
      sameEnd, fun _ => active.symm, trivial⟩

/-- A stream is listed with tidy rows, and with active schedules of its own. -/
structure StreamConfig.Tidy (id : ℕ) (config : StreamConfig) : Prop where
  stream : config.stream.Tidy
  schedules : ∀ entry ∈ config.schedules, entry.2.Tidy ∧ entry.2.streamId = id ∧
    entry.2.isActive = true

/-- Active schedules have ids of their own. -/
theorem activeSchedules_nodup : ((activeSchedules before id).map Prod.fst).Nodup := by
  have ascending : ((activeSchedules before id).map Prod.fst).Pairwise (· < ·) :=
    before.schedules.ascending.sublist (List.filter_sublist.map _)
  exact ascending.imp fun below => Nat.ne_of_lt below

/-- A version of a schedule agrees with itself. -/
theorem StreamRequest.SameSchedule.refl (edited : Bool) (schedule : StreamSchedule) :
    request.SameSchedule edited schedule schedule := by
  unfold StreamRequest.SameSchedule
  split <;> rfl

section Flattened

variable {defaultAccountId : Option ℕ} {drafts : List ScheduleDraft}

/-- The drafts of an update that names no schedule list are for the listed schedules. -/
theorem flattened_ids (current : request.SchedulesCurrent id existing before)
    (flattened : flattenedSchedules request existing.schedules defaultAccountId today = .ok drafts) :
    ∀ drafted ∈ drafts, ∀ scheduleId, drafted.id = some scheduleId →
      scheduleId ∈ existing.schedules.map Prod.fst := by
  intro drafted member scheduleId named
  have listed : drafted ∈ existing.schedules.map scheduleFromView →
      scheduleId ∈ existing.schedules.map Prod.fst := by
    intro viewed
    obtain ⟨entry, inside, rfl⟩ := List.mem_map.mp viewed
    cases named
    exact List.mem_map_of_mem inside
  unfold flattenedSchedules at flattened
  split at flattened
  · rename_i isFlattened
    simp only [bind_eq_ok, pure_eq_ok] at flattened
    obtain ⟨first, made, rfl⟩ := flattened
    rcases List.mem_append.mp member with isFirst | later
    · -- The edited schedule is the first one.
      obtain rfl := Option.mem_toList.mp isFirst
      simp only [StreamRequest.firstSchedule, bind_eq_ok] at made
      obtain ⟨frequency, -, made⟩ := made
      cases frequency with
      | none => cases made
      | some frequency =>
        simp only [bind_eq_ok, pure_eq_ok, Option.some.injEq] at made
        obtain ⟨_, -, _, -, _, -, rfl⟩ := made
        have head : existing.schedules.head?.map Prod.fst = some scheduleId := by
          cases asked : request.scheduleId with
          | none => simpa [asked] using named
          | some own =>
            have := current.first isFlattened own asked
            simp only [asked, Option.some_or, Option.some.injEq] at named
            rw [this, named]
        obtain ⟨entry, isHead, rfl⟩ := Option.map_eq_some_iff.mp head
        exact List.mem_map_of_mem (List.mem_of_mem_head? isHead)
    · exact listed (List.map_subset _ (List.drop_subset 1 _) later)
  · cases flattened
    exact listed member

/-- Every listed schedule but an edited one is drafted as it is. -/
theorem flattened_mem {entry : ℕ × StreamSchedule} (member : entry ∈ existing.schedules)
    (kept : request.isFlattened = true → entry ∈ existing.schedules.drop 1)
    (flattened : flattenedSchedules request existing.schedules defaultAccountId today = .ok drafts) :
    scheduleFromView entry ∈ drafts := by
  unfold flattenedSchedules at flattened
  split at flattened
  · rename_i isFlattened
    simp only [bind_eq_ok, pure_eq_ok] at flattened
    obtain ⟨first, -, rfl⟩ := flattened
    exact List.mem_append_right _ (List.mem_map_of_mem (kept isFlattened))
  · cases flattened
    exact List.mem_map_of_mem member

/-- The edited schedule is the first listed one. -/
theorem edits_iff (current : request.SchedulesCurrent id existing before)
    (isFlattened : request.isFlattened = true) {scheduleId : ℕ} :
    request.edits id before scheduleId = true ↔
      existing.schedules.head?.map Prod.fst = some scheduleId := by
  have heads : (activeSchedules before id).head?.map Prod.fst =
      existing.schedules.head?.map Prod.fst := by
    rw [← List.head?_map, ← List.head?_map, current.ids]
  simp only [StreamRequest.edits, isFlattened, Bool.true_and, beq_iff_eq, heads]
  cases asked : request.scheduleId with
  | none => rw [Option.none_or]
  | some own => rw [Option.some_or, current.first isFlattened own asked]

/-- A request that removes the first schedule has a frequency that says so. -/
theorem firstSchedule_none {entry : ℕ × StreamSchedule}
    (made : request.firstSchedule (some entry) defaultAccountId today = .ok none) :
    request.removesFirst = true := by
  simp only [StreamRequest.firstSchedule, bind_eq_ok, Option.map_some] at made
  obtain ⟨frequency, chosen, made⟩ := made
  -- Without a frequency nothing is drafted, and a stored one can only be cleared.
  cases frequency with
  | some frequency =>
    simp only [bind_eq_ok, pure_eq_ok] at made
    obtain ⟨_, -, _, -, _, -, none_⟩ := made
    cases none_
  | none =>
    unfold StreamRequest.firstFrequency at chosen
    unfold StreamRequest.removesFirst
    split at chosen
    · cases chosen
    · simp [*]
    · rename_i value asked
      split at chosen
      · rename_i blank
        simp [asked, blank]
      · obtain ⟨_, -, none_⟩ := map_eq_ok.mp chosen
        cases none_

/-- An edited schedule is drafted under its id. -/
theorem firstSchedule_id {entry : ℕ × StreamSchedule} {drafted : ScheduleDraft}
    (made : request.firstSchedule (some entry) defaultAccountId today = .ok (some drafted)) :
    drafted.id = request.scheduleId.or (some entry.1) := by
  simp only [StreamRequest.firstSchedule, bind_eq_ok, Option.map_some] at made
  obtain ⟨frequency, -, made⟩ := made
  cases frequency with
  | none => cases made
  | some frequency =>
    simp only [bind_eq_ok, pure_eq_ok, Option.some.injEq] at made
    obtain ⟨_, -, _, -, _, -, rfl⟩ := made
    rfl

/-- When what was read is current, an update keeps what it does not name of each schedule. -/
theorem schedules_kept {after : Finance} (replaced : StreamReplaced now draft id before after)
    (existingTidy : existing.Tidy id) (current : request.SchedulesCurrent id existing before)
    (flattened : flattenedSchedules request existing.schedules
      (request.defaultAccountId.merged existing.stream.defaultAccountId) today =
        .ok draft.schedules)
    {scheduleId : ℕ} {stored : StreamSchedule} (there : (scheduleId, stored) ∈ before.schedules)
    (stream : stored.streamId = id) : ∃ now, (scheduleId, now) ∈ after.schedules ∧
      request.SameSchedule (request.edits id before scheduleId) now stored := by
  have ids := flattened_ids current flattened
  cases active : stored.isActive with
  | false =>
    -- No listed schedule is inactive, so no draft is for this one.
    have free : ∀ drafted ∈ draft.schedules, drafted.id ≠ some scheduleId := by
      intro drafted member named
      have listed := ids drafted member scheduleId named
      rw [current.ids] at listed
      obtain ⟨⟨_, row⟩, isActive, rfl⟩ := List.mem_map.mp listed
      obtain ⟨was, -, rowActive⟩ := mem_activeSchedules.mp isActive
      obtain rfl := Table.unique there was
      rw [active] at rowActive
      cases rowActive
    have same := replaced.dropped scheduleId stored there stream free
    rw [active, if_neg Bool.false_ne_true] at same
    exact ⟨stored, same, .refl _ _⟩
  | true =>
    have isActive := mem_activeSchedules.mpr ⟨there, stream, active⟩
    have listed : scheduleId ∈ existing.schedules.map Prod.fst := by
      rw [current.ids]
      exact List.mem_map_of_mem isActive
    obtain ⟨⟨listedId, was⟩, member, same⟩ := List.mem_map.mp listed
    obtain rfl : listedId = scheduleId := same
    have agrees := current.contents listedId was stored member isActive
    obtain ⟨wasTidy, wasStream, wasActive⟩ := existingTidy.schedules _ member
    cases edited : request.edits id before listedId with
    | false =>
      rw [edited] at agrees
      have kept : request.isFlattened = true → (listedId, was) ∈ existing.schedules.drop 1 := by
        intro isFlattened
        -- Only the first schedule is edited.
        cases all : existing.schedules with
        | nil =>
          rw [all] at member
          cases member
        | cons first rest =>
          rw [all] at member
          rcases List.mem_cons.mp member with isFirst | later
          · have isEdited : request.edits id before listedId = true := by
              rw [edits_iff current isFlattened, all, ← isFirst]
              rfl
            rw [edited] at isEdited
            cases isEdited
          · exact later
      have drafted := flattened_mem member kept flattened
      obtain ⟨-, row⟩ := replaced.drafted listedId stored there _ drafted rfl
      exact ⟨_, row, (scheduleFromView_content wasTidy wasStream wasActive).trans agrees⟩
    | true =>
      rw [edited] at agrees
      have isFlattened : request.isFlattened = true := by
        simp only [StreamRequest.edits, Bool.and_eq_true] at edited
        exact edited.1
      have head := (edits_iff current isFlattened).mp edited
      have distinct : (existing.schedules.map Prod.fst).Nodup := by
        rw [current.ids]
        exact activeSchedules_nodup
      obtain ⟨entry, isHead, isId⟩ := Option.map_eq_some_iff.mp head
      obtain rfl : entry = (listedId, was) :=
        List.inj_on_of_nodup_map distinct (List.mem_of_mem_head? isHead) member isId
      obtain ⟨label, account⟩ := current.filled isFlattened _ isHead
      obtain ⟨rest, all⟩ : ∃ rest, existing.schedules = (listedId, was) :: rest :=
        List.head?_eq_some_iff.mp isHead
      simp only [flattenedSchedules, isFlattened, if_true, bind_eq_ok, pure_eq_ok, all,
        List.head?_cons, List.drop_succ_cons, List.drop_zero] at flattened
      obtain ⟨first, made, drafts⟩ := flattened
      cases first with
      | none =>
        -- The first schedule is removed, and no other draft is for it.
        rw [all, List.map_cons, List.nodup_cons] at distinct
        have free : ∀ drafted ∈ draft.schedules, drafted.id ≠ some listedId := by
          intro drafted inside named
          rw [← drafts, Option.toList_none, List.nil_append] at inside
          obtain ⟨entry, later, rfl⟩ := List.mem_map.mp inside
          cases named
          exact distinct.1 (List.mem_map.mpr ⟨entry, later, rfl⟩)
        have row := replaced.dropped listedId stored there stream free
        rw [active, if_pos rfl] at row
        refine ⟨_, row, ?_⟩
        have removes := firstSchedule_none made
        simp [StreamRequest.SameSchedule, StreamRequest.unnamedSchedule, removes]
      | some drafted =>
        have named : drafted.id = some listedId := by
          rw [firstSchedule_id made]
          cases asked : request.scheduleId with
          | none => rfl
          | some own =>
            have := current.first isFlattened own asked
            rw [head] at this
            rw [Option.some_or, this]
        have inside : drafted ∈ draft.schedules := by
          rw [← drafts]
          exact List.mem_append_left _ (Option.mem_toList.mpr rfl)
        obtain ⟨-, row⟩ := replaced.drafted listedId stored there drafted inside named
        refine ⟨_, row, ?_⟩
        have given : request.defaultAccountId = .missing → was.accountId.isSome = true ∨
            request.defaultAccountId.merged existing.stream.defaultAccountId = none := by
          intro missing
          rw [missing]
          exact account missing
        exact (firstSchedule_unnamed wasTidy wasStream wasActive label given made).trans agrees

end Flattened

/-- When what was read is current, an update of a stream keeps what it does not name. -/
theorem saveStream_kept (existingTidy : existing.Tidy id)
    (built : buildStreamDraft (some id) request (some existing) today = .ok draft)
    (done : saveStream platform now draft window before = .ok result)
    (current : request.Current id existing before) : request.Kept id before result.2 := by
  have made := buildStreamDraft_ok built
  obtain ⟨streamType, direction, amountCertainty, schedules, -, -, scheduled, same⟩ := made
  have named : draft.id = some id := by rw [same]
  have drafted : schedules = draft.schedules := by rw [same]
  have replaced := saveStream_replaced named done
  obtain ⟨updated, updatedThere, active⟩ := replaced.present
  refine ⟨fun stored there => ?_, replaced.others, fun scheduleId stored there => ?_, ?_,
    replaced.accounts, replaced.views⟩
  · obtain rfl := Table.unique there updatedThere
    exact ⟨_, replaced.row,
      (unnamed_streamRow active existingTidy.stream built).mpr (current.row stored there)⟩
  · by_cases stream : stored.streamId = id
    · cases asked : request.schedules with
      | missing =>
        simp only [StreamRequest.schedulesOver, asked, Option.map_some, Option.getD_some, drafted]
          at scheduled
        obtain ⟨row, last, agrees⟩ := schedules_kept replaced existingTidy
          (current.schedules asked) scheduled there stream
        exact ⟨row, last, fun elsewhere => absurd stream elsewhere, fun _ => agrees⟩
      | null | value =>
        -- The request replaces every schedule of the stream; the row is there all the same.
        by_cases isDrafted : ∃ drafted ∈ draft.schedules, drafted.id = some scheduleId
        · obtain ⟨drafted, member, named⟩ := isDrafted
          obtain ⟨-, row⟩ := replaced.drafted scheduleId stored there drafted member named
          exact ⟨_, row, fun elsewhere => absurd stream elsewhere, fun missing => by cases missing⟩
        · have row := replaced.dropped scheduleId stored there stream fun drafted member named =>
            isDrafted ⟨drafted, member, named⟩
          exact ⟨_, row, fun elsewhere => absurd stream elsewhere, fun missing => by cases missing⟩
    · exact ⟨stored, replaced.elsewhere scheduleId stored there stream, fun _ => rfl,
        fun _ => .refl _ _⟩
  · ext ⟨viewId, streamId⟩
    rw [replaced.members]
    constructor
    · rintro (member | ⟨rfl, view, listed, default, active⟩)
      · exact member
      · exact current.members viewId view listed default active
    · exact .inl

/-- What an update of a stream keeps of its row and members, it had read as stored. -/
theorem saveStream_row_current (existingTidy : existing.Tidy id)
    (built : buildStreamDraft (some id) request (some existing) today = .ok draft)
    (done : saveStream platform now draft window before = .ok result)
    (kept : request.Kept id before result.2) :
    (∀ stored, (id, stored) ∈ before.streams →
      request.carried existing.stream = request.carried stored) ∧
    ∀ viewId view, (viewId, view) ∈ before.views → view.isDefault = true → view.isActive = true →
      (viewId, id) ∈ before.viewStreams := by
  obtain ⟨streamType, direction, amountCertainty, schedules, -, -, -, same⟩ :=
    buildStreamDraft_ok built
  have named : draft.id = some id := by rw [same]
  have replaced := saveStream_replaced named done
  obtain ⟨updated, updatedThere, active⟩ := replaced.present
  refine ⟨fun stored there => ?_, fun viewId view listed default active => ?_⟩
  · obtain rfl := Table.unique there updatedThere
    obtain ⟨row, last, agrees⟩ := kept.row stored there
    obtain rfl := Table.unique last replaced.row
    exact (unnamed_streamRow active existingTidy.stream built).mp agrees
  · rw [← kept.members, replaced.members]
    exact .inr ⟨rfl, view, listed, default, active⟩

end Streams

end FinStream
