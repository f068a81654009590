import FinStream.Domain.Handlers
import FinStream.Domain.ScheduleSet

/-! One stream update by itself: what it keeps of the stream and of its schedules. -/

namespace FinStream

open Store

/-- A stream as its update lists it. -/
def listedStream (db : Finance) (id : ℕ) : Option StreamConfig :=
  ((db.streams.get? id).filter (·.isActive)).map fun stream => ⟨stream, activeSchedules db id⟩

/-- A stream update with no other writer between its reads and its write. -/
def updateStream (platform : Platform) (now : String) (today : IsoDate) (id : ℕ)
    (request : StreamRequest) (db : Finance) : FinanceResult (ℕ × Finance) := do
  let existing ← required (listedStream db id) (.notFound "Stream not found.")
  let draft ← buildStreamDraft (some id) request (some existing) today
  let window ← projectionWindow today
  saveStream platform now draft window db

/-- A handler whose steps follow each other undisturbed commits what the update commits. -/
theorem updateStream_undisturbed {platform : Platform} {state : HandlerState} {index id : ℕ}
    {request : StreamRequest} {existing : StreamConfig} (free : state.handlers index = none)
    (listed : listedStream state.domain.finance id = some existing) (now : String)
    (today : IsoDate) :
    ∃ first second after, state.step platform (.updateStream index id request) = some first ∧
      first.step platform (.query index) = some second ∧
      second.step platform (.save index now today) = some after ∧
      after.domain = ((updateStream platform now today id request
        state.domain.finance).toOption.map fun result =>
          cascadeLinks { state.domain with finance := result.2 }).getD state.domain := by
  obtain ⟨stream, found, rfl⟩ := Option.map_eq_some_iff.mp listed
  let schedules := activeSchedules state.domain.finance id
  let update : Update := .stream id request ⟨stream, schedules⟩
  let first := state.withHandler index (some (.schedulesListed id request schedules))
  let second := first.withHandler index (some (.ready update))
  -- Three steps: the schedules are listed, the stream is read, and the draft is saved.
  refine ⟨first, second, (second.saved platform update now today).withHandler index none,
    ?_, ?_, ?_, ?_⟩
  · simp [HandlerState.step, HandlerState.start, free, first, schedules]
  · simp [HandlerState.step, first, second, HandlerState.withHandler, Handler.query, found, update]
  · simp [HandlerState.step, second, HandlerState.withHandler]
  · -- The transaction that the handler asks for is the one the update runs.
    have same : (update.op now today).toOption.bind
        (fun op => (DomainOp.finance op).commit platform state.domain) =
          (updateStream platform now today id request state.domain.finance).toOption.map
            fun result => cascadeLinks { state.domain with finance := result.2 } := by
      refine Option.ext fun domain => ?_
      simp only [Option.bind_eq_some_iff, Option.map_eq_some_iff, toOption_eq_some, updateStream,
        Update.op, bind_eq_ok, pure_eq_ok, required_eq_ok, listed, DomainOp.commit, update]
      constructor
      · rintro ⟨_, ⟨draft, built, window, ahead, rfl⟩, finance, applied, rfl⟩
        obtain ⟨result, saved, rfl⟩ := map_eq_ok.mp applied
        exact ⟨result, ⟨_, rfl, draft, built, window, ahead, saved⟩, rfl⟩
      · rintro ⟨result, ⟨existing, isListed, draft, built, window, ahead, saved⟩, rfl⟩
        obtain rfl := Option.some.inj isListed
        exact ⟨_, ⟨draft, built, window, ahead, rfl⟩, result.2, map_eq_ok.mpr ⟨result, saved, rfl⟩,
          rfl⟩
    rw [← same]
    simp only [HandlerState.saved, second, first, HandlerState.withHandler]
    split
    · rename_i committed
      rw [committed, Option.getD_some]
    · rename_i failed
      rw [failed, Option.getD_none]

/-- The schedule a request edits: the one it names, else the first active one. -/
def StreamRequest.target (request : StreamRequest) (id : ℕ) (db : Finance) : Option ℕ :=
  request.scheduleId.or ((activeSchedules db id).head?.map Prod.fst)

/-- A schedule as it is once it is active. -/
def StreamSchedule.activated (schedule : StreamSchedule) : StreamSchedule :=
  { schedule with isActive := true }

/-- One schedule is edited: it keeps what is not named, and every other schedule is as it was. -/
structure StreamRequest.EditsOnly (request : StreamRequest) (scheduleId : ℕ)
    (stored : StreamSchedule) (before after : Finance) : Prop where
  /-- The schedule is active under its id, with its own values where the request names none. -/
  edited : ∃ row, (scheduleId, row) ∈ after.schedules ∧ row.isActive = true ∧
    request.unnamedSchedule row.activated = request.unnamedSchedule stored.activated ∧
    (request.dueDay = .missing → row.dayOfMonth = stored.dayOfMonth ∨
      stored.dayOfMonth = none ∧ row.frequency = .monthly)
  /-- No other schedule is added, removed or changed but for its timestamp. -/
  others : ∀ other, other ≠ scheduleId →
    (after.schedules.get? other).map StreamSchedule.content =
      (before.schedules.get? other).map StreamSchedule.content

/-- An update of a stream changes nothing that its request does not name. -/
structure StreamRequest.FrameKept (request : StreamRequest) (id : ℕ) (before after : Finance) :
    Prop where
  /-- The columns of the stream; the type and direction stay with the kind. -/
  columns : ∀ stored, (id, stored) ∈ before.streams → ∃ row, (id, row) ∈ after.streams ∧
    request.unnamed row = request.unnamed stored ∧
    (request.kind.all (trim · == stored.kind) = true →
      row.streamType = stored.streamType ∧ row.direction = stored.direction)
  /-- All schedules, when no field of a schedule is named. -/
  schedules : request.schedules = .missing → request.isFlattened = false → ∀ scheduleId,
    (after.schedules.get? scheduleId).map StreamSchedule.content =
      (before.schedules.get? scheduleId).map StreamSchedule.content
  /-- All but the edited schedule, when fields of one are named and it is not removed. -/
  edited : request.schedules = .missing → request.isFlattened = true →
    request.removesFirst = false → ∀ scheduleId stored,
    request.target id before = some scheduleId → (scheduleId, stored) ∈ before.schedules →
    stored.streamId = id → request.EditsOnly scheduleId stored before after

/-- The edited schedule is the first active one, and nothing of it is to be filled in. -/
structure StreamRequest.EditsFirst (request : StreamRequest) (id : ℕ) (stream : Stream)
    (before : Finance) (scheduleId : ℕ) (stored : StreamSchedule) : Prop where
  first : (activeSchedules before id).head? = some (scheduleId, stored)
  label : stored.label.isSome = true
  account : request.defaultAccountId = .missing →
    stored.accountId.isSome = true ∨ stream.defaultAccountId = none

/-- No schedule is active, and the edited one has the values that a new schedule is given. -/
structure StreamRequest.RevivesNew (request : StreamRequest) (id : ℕ) (stream : Stream)
    (today : IsoDate) (before : Finance) (stored : StreamSchedule) : Prop where
  inactive : activeSchedules before id = []
  frequency : request.scheduleFrequency.isNamed = true
  label : stored.label = cleanOptional (some s!"{trim request.name} due")
  account : request.defaultAccountId = .missing → stored.accountId = stream.defaultAccountId
  amount : request.scheduleAmount = .missing → stored.amount = 0
  day : request.dueDay = .missing → stored.dayOfMonth = none ∨
    stored.dayOfMonth = some 1 ∧ request.firstFrequency none = .ok (some .monthly)
  start : request.startDate = .missing → stored.startDate = today
  ends : request.endDate = .missing → stored.endDate = none
  metadata : stored.metadata = none

/-- Whether a request that edits a schedule fills in nothing but the schedule's own values. -/
def StreamRequest.EditsItself (request : StreamRequest) (id : ℕ) (today : IsoDate)
    (before : Finance) : Prop :=
  request.schedules = .missing → request.isFlattened = true → request.removesFirst = false →
    ∀ stream scheduleId stored, (id, stream) ∈ before.streams →
      request.target id before = some scheduleId → (scheduleId, stored) ∈ before.schedules →
      stored.streamId = id →
      request.EditsFirst id stream before scheduleId stored ∨
        request.RevivesNew id stream today before stored

/-! ### The edited schedule -/

section

variable {now : String} {id : ℕ} {request : StreamRequest} {today : IsoDate}
  {defaultAccountId : Option ℕ} {drafted : ScheduleDraft}

/-- What the edited schedule is made of. -/
theorem firstSchedule_ok {first : Option (ℕ × StreamSchedule)}
    (made : request.firstSchedule first defaultAccountId today = .ok (some drafted)) :
    ∃ frequency dayOfMonth startDate endDate,
      request.firstFrequency (first.map Prod.snd) = .ok (some frequency) ∧
      request.firstDay (first.map Prod.snd) frequency = .ok dayOfMonth ∧
      request.firstStart (first.map Prod.snd) today = .ok startDate ∧
      request.firstEnd (first.map Prod.snd) = .ok endDate ∧
      drafted = {
        id := request.scheduleId.or (first.map Prod.fst)
        accountId := request.firstAccount (first.map Prod.snd) defaultAccountId
        label := ((first.map Prod.snd).bind (·.label)).or (some s!"{trim request.name} due")
        amount := request.firstAmount (first.map Prod.snd)
        frequency, dayOfMonth, startDate, endDate
        metadata := (first.map Prod.snd).bind (·.metadata) } := by
  -- Without a frequency there is no schedule; with one, all other fields were read.
  simp only [StreamRequest.firstSchedule, bind_eq_ok] at made
  obtain ⟨frequency, chosen, made⟩ := made
  cases frequency with
  | none => cases made
  | some frequency =>
    simp only [bind_eq_ok, pure_eq_ok, Option.some.injEq] at made
    obtain ⟨day, dayOk, start, startOk, ends, endsOk, rfl⟩ := made
    exact ⟨frequency, day, start, ends, chosen, dayOk, startOk, endsOk, rfl⟩

/-- With no schedule to edit, a frequency is one that the request names. -/
theorem firstFrequency_named {frequency : ScheduleFrequency}
    (chosen : request.firstFrequency none = .ok (some frequency)) :
    request.scheduleFrequency.isNamed = true := by
  cases asked : request.scheduleFrequency with
  | missing => simp [StreamRequest.firstFrequency, asked] at chosen
  | null | value => rfl

/-- A label made from a name is not blank. -/
theorem due_isSome (name : String) : (cleanOptional (some s!"{name} due")).isSome = true := by
  -- The word that is appended has letters, whatever the name is.
  have member : 'd' ∈ s!"{name} due".toList := by
    rw [String.toList_append]
    exact List.mem_append_right _ (by decide)
  have solid := isBlank_eq_false member (by decide)
  simp only [isBlank] at solid
  simp [cleanOptional, Option.filter, bne, solid]

/-- A due day that is not named stays, unless a monthly schedule would have none. -/
theorem firstDay_kept {row : Option StreamSchedule} {frequency : ScheduleFrequency}
    {day : Option ℕ} (unnamed : request.dueDay = .missing)
    (read : request.firstDay row frequency = .ok day) :
    day = row.bind (·.dayOfMonth) ∨
      row.bind (·.dayOfMonth) = none ∧ frequency = .monthly ∧ day = some 1 := by
  -- The stored day is read again, and only a monthly schedule without one is given the first.
  simp only [StreamRequest.firstDay, unnamed, WireField.merged] at read
  cases has : row.bind (·.dayOfMonth) with
  | some stored =>
    left
    have same : (row.bind fun schedule => schedule.dayOfMonth.map Int.ofNat) =
        some (Int.ofNat stored) := by
      obtain ⟨schedule, rfl, day⟩ := Option.bind_eq_some_iff.mp has
      simp [day]
    simp [same, parseDayOfMonth] at read
    exact read.2.symm
  | none =>
    have same : (row.bind fun schedule => schedule.dayOfMonth.map Int.ofNat) = none := by
      cases row with
      | none => rfl
      | some schedule => simpa using has
    by_cases monthly : frequency = .monthly
    · right
      simp [same, monthly, parseDayOfMonth] at read
      exact ⟨rfl, monthly, read.symm⟩
    · left
      simp [same, monthly] at read
      exact read.symm

/-- The first active schedule is edited as a whole when nothing of it is filled in. -/
theorem firstSchedule_agrees (now : String) {scheduleId : ℕ} {stored : StreamSchedule}
    (tidy : stored.Tidy)
    (stream : stored.streamId = id) (active : stored.isActive = true)
    (made : request.firstSchedule (some (scheduleId, stored)) defaultAccountId today =
      .ok (some drafted)) :
    request.unnamedSchedule (drafted.row now id).activated =
        request.unnamedSchedule stored.activated ↔
      stored.label.isSome = true ∧ (request.defaultAccountId = .missing →
        stored.accountId.isSome = true ∨ defaultAccountId = none) := by
  have same : stored.activated = stored := by
    rw [StreamSchedule.activated, ← active]
  constructor
  · intro agrees
    -- Only the label and the account of an edited schedule are ever filled in.
    obtain ⟨frequency, day, start, ends, -, -, -, -, rfl⟩ := firstSchedule_ok made
    simp only [StreamRequest.unnamedSchedule, ScheduleDraft.row, StreamSchedule.activated,
      Prod.mk.injEq, unlessNamed_eq, Option.map_some, Option.bind_some] at agrees
    obtain ⟨-, account, label, -⟩ := agrees
    refine ⟨?_, fun missing => ?_⟩
    · -- A missing label would have been made from the name of the stream.
      cases has : stored.label with
      | some => rfl
      | none =>
        rw [has, Option.none_or] at label
        have filled := due_isSome (trim request.name)
        rw [label] at filled
        cases filled
    · -- A missing account would have been the default account of the stream.
      have kept := account (by rw [missing]; rfl)
      simp only [StreamRequest.firstAccount, missing, WireField.isNamed, Option.bind_some] at kept
      cases has : stored.accountId with
      | some => exact .inl rfl
      | none =>
        rw [has] at kept
        exact .inr kept
  · -- With both of them stored, the draft is the stored schedule over again.
    rintro ⟨label, account⟩
    rw [same]
    exact firstSchedule_unnamed tidy stream active label account made

/-- A field is not named exactly when it is absent. -/
theorem WireField.isNamed_eq_false {α : Type} {field : WireField α} :
    field.isNamed = false ↔ field = .missing :=
  ⟨eq_missing, fun missing => by rw [missing]; rfl⟩

/-- A day that is not named agrees with a stored one exactly when it is what a new one starts at. -/
theorem newDay_agrees {stored : Option ℕ} {frequency : ScheduleFrequency} {day : Option ℕ}
    (unnamed : request.dueDay = .missing) (read : request.firstDay none frequency = .ok day) :
    day = stored ∨ stored = none ∧ frequency = .monthly ↔
      stored = none ∨ stored = some 1 ∧ frequency = .monthly := by
  simp only [StreamRequest.firstDay, unnamed, WireField.merged, Option.bind_none] at read
  by_cases monthly : frequency = .monthly
  · obtain rfl : some 1 = day := by simpa [monthly, parseDayOfMonth] using read
    simp only [monthly, and_true]
    rw [or_comm, @eq_comm _ (some 1)]
  · obtain rfl : none = day := by simpa [monthly] using read
    simp [monthly, eq_comm]

/-- With no active schedule the edited one takes the values of a new one. -/
theorem newSchedule_agrees (now : String) {stored : StreamSchedule} (stream : stored.streamId = id)
    (made : request.firstSchedule none defaultAccountId today = .ok (some drafted)) :
    (request.unnamedSchedule (drafted.row now id).activated =
        request.unnamedSchedule stored.activated ∧
      (request.dueDay = .missing → (drafted.row now id).dayOfMonth = stored.dayOfMonth ∨
        stored.dayOfMonth = none ∧ (drafted.row now id).frequency = .monthly)) ↔
    stored.label = cleanOptional (some s!"{trim request.name} due") ∧
      (request.defaultAccountId = .missing → stored.accountId = defaultAccountId) ∧
      (request.scheduleAmount = .missing → stored.amount = 0) ∧
      (request.dueDay = .missing → stored.dayOfMonth = none ∨
        stored.dayOfMonth = some 1 ∧ request.firstFrequency none = .ok (some .monthly)) ∧
      (request.startDate = .missing → stored.startDate = today) ∧
      (request.endDate = .missing → stored.endDate = none) ∧ stored.metadata = none := by
  -- Each field that is not named has one value that a new schedule gives it.
  obtain ⟨frequency, day, start, ends, chosen, dayOk, startOk, endsOk, rfl⟩ := firstSchedule_ok made
  have named := firstFrequency_named chosen
  have monthly : request.firstFrequency none = .ok (some .monthly) ↔ frequency = .monthly := by
    rw [Option.map_none] at chosen
    rw [chosen]
    simp
  have account : request.defaultAccountId = .missing →
      request.firstAccount none defaultAccountId = defaultAccountId := fun missing => by
    simp [StreamRequest.firstAccount, missing, WireField.isNamed]
  have amount : request.scheduleAmount = .missing → (request.firstAmount none).value = 0 :=
    fun missing => by simp [StreamRequest.firstAmount, missing, F64.value]
  have starts : request.startDate = .missing → start = today := fun missing => by
    simp [StreamRequest.firstStart, missing] at startOk
    exact startOk.symm
  have last : request.endDate = .missing → ends = none := fun missing => by
    simp [StreamRequest.firstEnd, missing] at endsOk
    exact endsOk.symm
  have days : (request.dueDay = .missing → day = stored.dayOfMonth ∨
      stored.dayOfMonth = none ∧ frequency = .monthly) ↔
        (request.dueDay = .missing → stored.dayOfMonth = none ∨
          stored.dayOfMonth = some 1 ∧ frequency = .monthly) :=
    imp_congr_right fun missing => newDay_agrees missing dayOk
  -- The two rows agree in what is not named when they agree field by field.
  simp only [StreamRequest.unnamedSchedule, ScheduleDraft.row, StreamSchedule.activated,
    Prod.mk.injEq, unlessNamed_eq, Option.map_none, Option.bind_none, Option.none_or, named,
    Bool.or_true, WireField.isNamed_eq_false, days, monthly, stream]
  constructor
  · rintro ⟨⟨-, sameAccount, sameLabel, sameAmount, -, -, sameStart, sameEnd, -, sameData⟩, sameDay⟩
    exact ⟨sameLabel.symm, fun missing => (sameAccount missing).symm.trans (account missing),
      fun missing => (sameAmount missing).symm.trans (amount missing), sameDay,
      fun missing => (sameStart missing).symm.trans (starts missing),
      fun missing => (sameEnd missing).symm.trans (last missing), sameData.symm⟩
  · rintro ⟨label, accounts, amounts, day, startDate, endDate, metadata⟩
    exact ⟨⟨trivial, fun missing => (account missing).trans (accounts missing).symm, label.symm,
      fun missing => (amount missing).trans (amounts missing).symm, fun none_ => (by cases none_),
      fun none_ => (by cases none_),
      fun missing => (starts missing).trans (startDate missing).symm,
      fun missing => (last missing).trans (endDate missing).symm, trivial, metadata.symm⟩, day⟩

end

/-! ### The other schedules -/

section

variable {now : String} {id : ℕ} {before after : Finance} {saved : List (ℕ × ScheduleDraft)}

/-- A draft that names a schedule is stored under its id. -/
theorem ReplacedSchedules.stored_named (replaced : ReplacedSchedules now id saved before after)
    {drafted : ScheduleDraft} (member : drafted ∈ saved.map Prod.snd) {scheduleId : ℕ}
    (named : drafted.id = some scheduleId) :
    (scheduleId, drafted.row now id) ∈ after.schedules := by
  obtain ⟨⟨at_, _⟩, there, rfl⟩ := List.mem_map.mp member
  -- A saved draft has the id it names, or a fresh one if it names none.
  rcases replaced.origin at_ _ there with ⟨same, -⟩ | ⟨unnamed, -⟩
  · obtain rfl := Option.some.inj (same.symm.trans named)
    exact ((replaced.active at_ _).mpr ⟨_, there, rfl⟩).1
  · rw [unnamed] at named
    cases named

/-- A schedule that no draft names is not among the saved ones, when all of them are named. -/
theorem ReplacedSchedules.unsaved (replaced : ReplacedSchedules now id saved before after)
    (named : ∀ drafted ∈ saved.map Prod.snd, drafted.id.isSome = true) {scheduleId : ℕ}
    (free : ∀ drafted ∈ saved.map Prod.snd, drafted.id ≠ some scheduleId) :
    scheduleId ∉ saved.map Prod.fst := by
  -- Whatever is saved under the id would have named it.
  intro member
  obtain ⟨⟨_, drafted⟩, there, rfl⟩ := List.mem_map.mp member
  have drafts : drafted ∈ saved.map Prod.snd := List.mem_map_of_mem there
  rcases replaced.origin _ _ there with ⟨same, -⟩ | ⟨unnamed, -⟩
  · exact free drafted drafts same
  · have some_ := named drafted drafts
    rw [unnamed] at some_
    cases some_

/-- A schedule that no draft names stays as it is, unless it is an active one of the stream. -/
theorem ReplacedSchedules.get?_free (replaced : ReplacedSchedules now id saved before after)
    {scheduleId : ℕ} (unsaved : scheduleId ∉ saved.map Prod.fst)
    (inactive : ∀ row, (scheduleId, row) ∈ before.schedules → row.streamId = id →
      row.isActive = false) :
    after.schedules.get? scheduleId = before.schedules.get? scheduleId := by
  -- Nothing is inserted under the id, and nothing of another stream is written.
  cases found : before.schedules.get? scheduleId with
  | none =>
    refine Table.get?_eq_none.mpr fun row there => ?_
    obtain ⟨old, was⟩ := replaced.others scheduleId row there unsaved
    exact Table.get?_eq_none.mp found old was
  | some row =>
    have stored := Table.get?_eq_some.mp found
    refine Table.get?_eq_some.mpr ?_
    -- Of this stream only active schedules are deactivated.
    by_cases stream : row.streamId = id
    · have kept := replaced.dropped scheduleId row stored stream unsaved
      rwa [inactive row stored stream, if_neg Bool.false_ne_true] at kept
    · exact (replaced.elsewhere scheduleId row stream).mpr stored

/-- What is written back of the active schedules leaves all schedules but one as they are. -/
theorem ReplacedSchedules.content_kept (replaced : ReplacedSchedules now id saved before after)
    (tidy : before.Tidy) (target : Option ℕ)
    (own : ∀ drafted ∈ saved.map Prod.snd, ∃ scheduleId, drafted.id = some scheduleId ∧
      (some scheduleId = target ∨ ∃ row, (scheduleId, row) ∈ activeSchedules before id))
    (kept : ∀ entry ∈ activeSchedules before id, some entry.1 ≠ target →
      scheduleFromView entry ∈ saved.map Prod.snd)
    {other : ℕ} (different : some other ≠ target) :
    (after.schedules.get? other).map StreamSchedule.content =
      (before.schedules.get? other).map StreamSchedule.content := by
  by_cases listed : ∃ row, (other, row) ∈ activeSchedules before id
  · -- An active schedule is written back as it is.
    obtain ⟨row, listed⟩ := listed
    obtain ⟨stored, stream, active⟩ := mem_activeSchedules.mp listed
    have there := replaced.stored_named (kept _ listed different) rfl
    rw [Table.get?_eq_some.mpr stored, Table.get?_eq_some.mpr there, Option.map_some,
      Option.map_some, Option.some.injEq]
    exact scheduleFromView_content (tidy.schedules _ _ stored) stream active
  · -- No draft names a schedule that is not listed, so nothing writes it.
    have named : ∀ drafted ∈ saved.map Prod.snd, drafted.id.isSome = true := by
      intro drafted member
      obtain ⟨scheduleId, named, -⟩ := own drafted member
      rw [named]
      rfl
    have unsaved : other ∉ saved.map Prod.fst := by
      refine replaced.unsaved named fun drafted member same => ?_
      obtain ⟨scheduleId, named, edited | active⟩ := own drafted member
      · rw [same] at named
        exact different (named.trans edited)
      · obtain rfl := Option.some.inj (named.symm.trans same)
        exact listed active
    rw [replaced.get?_free unsaved]
    intro row stored stream
    cases active : row.isActive with
    | false => rfl
    | true => exact absurd ⟨row, mem_activeSchedules.mpr ⟨stored, stream, active⟩⟩ listed

end

/-! ### Editing one schedule -/

section

variable {now : String} {id : ℕ} {request : StreamRequest} {today : IsoDate} {stream : Stream}
  {before after : Finance} {saved : List (ℕ × ScheduleDraft)} {scheduleId : ℕ}
  {stored : StreamSchedule}

/-- A request that names a frequency, and does not clear it, asks for a schedule. -/
theorem firstSchedule_missing {defaultAccountId : Option ℕ} (keeps : request.removesFirst = false)
    (made : request.firstSchedule none defaultAccountId today = .ok none) :
    request.scheduleFrequency = .missing := by
  -- Without a row to edit, a frequency comes from the request alone.
  simp only [StreamRequest.firstSchedule, bind_eq_ok, Option.map_none] at made
  obtain ⟨frequency, chosen, made⟩ := made
  cases frequency with
  | some frequency =>
    simp only [bind_eq_ok, pure_eq_ok] at made
    obtain ⟨_, -, _, -, _, -, none_⟩ := made
    cases none_
  | none =>
    cases asked : request.scheduleFrequency with
    | missing => rfl
    | null => simp [StreamRequest.removesFirst, asked] at keeps
    | value text =>
      simp only [StreamRequest.removesFirst, asked] at keeps
      simp only [StreamRequest.firstFrequency, asked, keeps, Bool.false_eq_true, if_false,
        map_eq_ok] at chosen
      obtain ⟨_, -, none_⟩ := chosen
      cases none_

/-- With no active schedule, the named one is edited when it has the values of a new one. -/
theorem editsOnly_new (replaced : ReplacedSchedules now id saved before after)
    (tidy : before.Tidy) (keeps : request.removesFirst = false)
    (listed : activeSchedules before id = []) (named : request.scheduleId = some scheduleId)
    (there : (scheduleId, stored) ∈ before.schedules) (ofStream : stored.streamId = id)
    {first : Option ScheduleDraft} (made : request.firstSchedule none
      (request.defaultAccountId.merged stream.defaultAccountId) today = .ok first)
    (drafts : saved.map Prod.snd = first.toList) :
    request.EditsOnly scheduleId stored before after ↔
      request.RevivesNew id stream today before stored := by
  -- The schedule cannot be active, as none of the stream's is.
  have inactive : stored.isActive = false := by
    cases active : stored.isActive with
    | false => rfl
    | true =>
      have member := mem_activeSchedules.mpr ⟨there, ofStream, active⟩
      rw [listed] at member
      cases member
  have default : request.defaultAccountId = .missing →
      request.defaultAccountId.merged stream.defaultAccountId = stream.defaultAccountId :=
    fun missing => by rw [missing]; rfl
  cases first with
  | none =>
    -- Nothing is written, so the schedule stays inactive.
    have missing := firstSchedule_missing keeps made
    constructor
    · rintro ⟨⟨row, last, active, -⟩, -⟩
      have none_ : saved = [] := List.map_eq_nil_iff.mp drafts
      have same := replaced.get?_free (by simp [none_]) fun other was _ =>
        Table.unique was there ▸ inactive
      rw [Table.get?_eq_some.mpr last, Table.get?_eq_some.mpr there, Option.some.injEq] at same
      rw [same, inactive] at active
      cases active
    · intro revives
      have frequency := revives.frequency
      rw [missing] at frequency
      cases frequency
  | some drafted =>
    -- A new schedule is written over the named one, with the values of a new one.
    have isNamed : drafted.id = some scheduleId := by
      obtain ⟨_, _, _, _, -, -, -, -, rfl⟩ := firstSchedule_ok made
      rw [named, Option.some_or]
    have member : drafted ∈ saved.map Prod.snd := by
      rw [drafts]
      exact List.mem_singleton_self drafted
    have written := replaced.stored_named member isNamed
    have agrees := newSchedule_agrees now ofStream made
    constructor
    · rintro ⟨⟨row, last, -, unnamed, day⟩, -⟩
      obtain rfl := Table.unique last written
      obtain ⟨label, account, amount, days, start, ends, metadata⟩ := agrees.mp ⟨unnamed, day⟩
      obtain ⟨_, _, _, _, chosen, -⟩ := firstSchedule_ok made
      exact ⟨listed, firstFrequency_named chosen, label,
        fun missing => (account missing).trans (default missing),
        amount, days, start, ends, metadata⟩
    · intro revives
      obtain ⟨unnamed, day⟩ := agrees.mpr ⟨revives.label,
        fun missing => (revives.account missing).trans (default missing).symm, revives.amount,
        revives.day, revives.start, revives.ends, revives.metadata⟩
      refine ⟨⟨_, written, rfl, unnamed, day⟩, fun other different => ?_⟩
      refine replaced.content_kept tidy (some scheduleId) ?_ ?_ (by simpa using different)
      · intro other member
        rw [drafts, Option.toList_some, List.mem_singleton] at member
        exact ⟨scheduleId, member ▸ isNamed, .inl rfl⟩
      · intro entry member
        rw [listed] at member
        cases member

/-- Active schedules behind the first one are others. -/
theorem activeSchedules_behind {first : ℕ × StreamSchedule} {rest : List (ℕ × StreamSchedule)}
    (listed : activeSchedules before id = first :: rest) {entry : ℕ × StreamSchedule}
    (member : entry ∈ rest) : entry.1 ≠ first.1 := by
  -- Listed ids differ, so what stands behind the first one has another id.
  have distinct : ((activeSchedules before id).map Prod.fst).Nodup := activeSchedules_nodup
  rw [listed, List.map_cons, List.nodup_cons] at distinct
  exact fun same => distinct.1 (same ▸ List.mem_map_of_mem member)

/-- With an active schedule, the first one is edited when it is the one asked for and is filled. -/
theorem editsOnly_first (replaced : ReplacedSchedules now id saved before after)
    (tidy : before.Tidy) {first : ℕ × StreamSchedule} {rest : List (ℕ × StreamSchedule)}
    (listed : activeSchedules before id = first :: rest)
    (target : request.scheduleId.or (some first.1) = some scheduleId)
    (there : (scheduleId, stored) ∈ before.schedules) {drafted : ScheduleDraft}
    (made : request.firstSchedule (some first)
      (request.defaultAccountId.merged stream.defaultAccountId) today = .ok (some drafted))
    (drafts : saved.map Prod.snd = drafted :: rest.map scheduleFromView) :
    request.EditsOnly scheduleId stored before after ↔
      request.EditsFirst id stream before scheduleId stored := by
  have isNamed : drafted.id = some scheduleId := by
    obtain ⟨_, _, _, _, -, -, -, -, rfl⟩ := firstSchedule_ok made
    exact target
  -- Each draft is the edited one or writes an active schedule back under its own id.
  have own : ∀ other ∈ saved.map Prod.snd, ∃ at_, other.id = some at_ ∧
      (some at_ = some scheduleId ∨ ∃ row, (at_, row) ∈ activeSchedules before id) := by
    intro other member
    rw [drafts] at member
    rcases List.mem_cons.mp member with rfl | member
    · exact ⟨scheduleId, isNamed, .inl rfl⟩
    · obtain ⟨entry, inRest, rfl⟩ := List.mem_map.mp member
      exact ⟨entry.1, rfl, .inr ⟨entry.2, listed ▸ List.mem_cons_of_mem _ inRest⟩⟩
  obtain ⟨firstStored, firstStream, firstActive⟩ :=
    mem_activeSchedules.mp (listed ▸ List.mem_cons_self : first ∈ activeSchedules before id)
  by_cases same : first.1 = scheduleId
  · -- The request asks for the first active schedule.
    obtain ⟨firstId, row⟩ := first
    obtain rfl : firstId = scheduleId := same
    obtain rfl : row = stored := Table.unique firstStored there
    have written := replaced.stored_named (drafts ▸ List.mem_cons_self) isNamed
    have agrees := firstSchedule_agrees now (tidy.schedules _ _ there) firstStream firstActive made
    have default : (request.defaultAccountId = .missing → row.accountId.isSome = true ∨
        request.defaultAccountId.merged stream.defaultAccountId = none) ↔
          (request.defaultAccountId = .missing → row.accountId.isSome = true ∨
            stream.defaultAccountId = none) :=
      imp_congr_right fun missing => by rw [missing]; rfl
    constructor
    · rintro ⟨⟨last, final, -, unnamed, -⟩, -⟩
      obtain rfl := Table.unique final written
      obtain ⟨label, account⟩ := agrees.mp unnamed
      exact ⟨by rw [listed]; rfl, label, default.mp account⟩
    · intro edits
      refine ⟨⟨_, written, rfl, agrees.mpr ⟨edits.label, default.mpr edits.account⟩,
        fun missing => ?_⟩, fun other different => ?_⟩
      · obtain ⟨frequency, day, _, _, -, read, -, -, rfl⟩ := firstSchedule_ok made
        rcases firstDay_kept missing read with kept | ⟨none_, monthly, -⟩
        · exact .inl kept
        · exact .inr ⟨none_, monthly⟩
      · refine replaced.content_kept tidy (some firstId) own ?_ (by simpa using different)
        intro entry member other
        rw [listed] at member
        rcases List.mem_cons.mp member with rfl | member
        · exact absurd rfl other
        · rw [drafts]
          exact List.mem_cons_of_mem _ (List.mem_map_of_mem member)
  · -- It asks for another one, and the first one is deactivated.
    constructor
    · rintro ⟨-, others⟩
      -- Neither the edited draft nor those behind the first one name the first one.
      have unsaved : first.1 ∉ saved.map Prod.fst := by
        refine replaced.unsaved (fun other member => ?_) fun other member named => ?_
        · obtain ⟨at_, named, -⟩ := own other member
          rw [named]
          rfl
        · rw [drafts] at member
          rcases List.mem_cons.mp member with rfl | member
          · exact same (Option.some.inj (named.symm.trans isNamed))
          · obtain ⟨entry, inRest, rfl⟩ := List.mem_map.mp member
            exact activeSchedules_behind listed inRest (Option.some.inj named)
      have dropped := replaced.dropped first.1 first.2 firstStored firstStream unsaved
      have kept := others first.1 same
      rw [Table.get?_eq_some.mpr dropped, Table.get?_eq_some.mpr firstStored, Option.map_some,
        Option.map_some, Option.some.injEq] at kept
      have active := congrArg StreamSchedule.isActive kept
      simp [StreamSchedule.content, firstActive] at active
    · intro edits
      have head := edits.first
      rw [listed, List.head?_cons, Option.some.injEq] at head
      exact absurd (congrArg Prod.fst head) same

/-- A request that edits a schedule writes the other active ones back. -/
theorem flattenedSchedules_ok {listed : List (ℕ × StreamSchedule)} {defaultAccountId : Option ℕ}
    {drafts : List ScheduleDraft} (isFlattened : request.isFlattened = true)
    (made : flattenedSchedules request listed defaultAccountId today = .ok drafts) :
    ∃ first, request.firstSchedule listed.head? defaultAccountId today = .ok first ∧
      drafts = first.toList ++ (listed.drop 1).map scheduleFromView := by
  simp only [flattenedSchedules, isFlattened, if_true, bind_eq_ok, pure_eq_ok] at made
  obtain ⟨first, made, rfl⟩ := made
  exact ⟨first, made, rfl⟩

/-- The schedule a request asks for is edited exactly when nothing else is filled in for it. -/
theorem editsOnly_iff (replaced : ReplacedSchedules now id saved before after)
    (tidy : before.Tidy) (isFlattened : request.isFlattened = true)
    (keeps : request.removesFirst = false) (target : request.target id before = some scheduleId)
    (there : (scheduleId, stored) ∈ before.schedules) (ofStream : stored.streamId = id)
    (made : flattenedSchedules request (activeSchedules before id)
      (request.defaultAccountId.merged stream.defaultAccountId) today =
        .ok (saved.map Prod.snd)) :
    request.EditsOnly scheduleId stored before after ↔
      request.EditsFirst id stream before scheduleId stored ∨
        request.RevivesNew id stream today before stored := by
  -- Either no schedule is active, or the first active one stands in front of the others.
  obtain ⟨first, made, drafts⟩ := flattenedSchedules_ok isFlattened made
  rw [StreamRequest.target] at target
  cases listed : activeSchedules before id with
  | nil =>
    rw [listed] at made drafts target
    rw [List.drop_nil, List.map_nil, List.append_nil] at drafts
    rw [List.head?_nil, Option.map_none, Option.or_none] at target
    rw [editsOnly_new replaced tidy keeps listed target there ofStream made drafts,
      or_iff_right fun edits => ?_]
    have head := edits.first
    rw [listed] at head
    cases head
  | cons entry rest =>
    rw [listed] at made drafts target
    rw [List.head?_cons] at made target
    cases first with
    | none =>
      rw [firstSchedule_none made] at keeps
      cases keeps
    | some drafted =>
      rw [editsOnly_first replaced tidy listed target there made drafts,
        or_iff_left fun revives => ?_]
      have none_ := revives.inactive
      rw [listed] at none_
      cases none_

end

/-- The type and direction of a stream stay while its kind does. -/
theorem streamRow_typed {now : String} {id : ℕ} {request : StreamRequest} {today : IsoDate}
    {existing : StreamConfig} {draft : StreamDraft} (tidy : existing.stream.Tidy)
    (built : buildStreamDraft (some id) request (some existing) today = .ok draft)
    (same : request.kind.all (trim · == existing.stream.kind) = true) :
    (draft.row now).streamType = existing.stream.streamType ∧
      (draft.row now).direction = existing.stream.direction := by
  obtain ⟨streamType, direction, amountCertainty, schedules, typed, -, -, rfl⟩ :=
    buildStreamDraft_ok built
  -- The kind stays what it was, so no type or direction is derived from it.
  have kept : request.kindOver (some existing) = existing.stream.kind := by
    cases asked : request.kind with
    | none => simp [StreamRequest.kindOver, asked]
    | some kind => simpa [StreamRequest.kindOver, asked] using same
  simp only [kept, typeAndDirection, Option.filter_some, beq_self_eq_true, if_true, pure_eq_ok,
    Prod.mk.injEq] at typed
  obtain ⟨rfl, rfl⟩ := typed
  exact ⟨tidy.streamType, rfl⟩

/-- Every reachable state has tidy rows. -/
theorem reachable_tidy {platform : Platform} {db : Domain}
    (reached : (domainSystem platform).Reachable db) : db.finance.Tidy :=
  reached.invariant (·.finance.Tidy) (fun _ fresh => fresh.tidy)
    fun _ _ _ earlier tidy done => DomainOp.commit_tidy (reachable_consistent earlier) tidy done

/--
An update of a stream by itself keeps every column, and every schedule it names nothing of. Of the
schedule it edits it keeps what it does not name, and all other schedules, exactly when that is the
first active schedule with nothing to be filled in, or one that has the values of a new schedule.
-/
theorem updateStream_frame {platform : Platform} {db : Domain}
    (reached : (domainSystem platform).Reachable db) {now : String} {today : IsoDate} {id : ℕ}
    {request : StreamRequest} {result : ℕ × Finance}
    (done : updateStream platform now today id request db.finance = .ok result) :
    request.FrameKept id db.finance result.2 ↔ request.EditsItself id today db.finance := by
  have tidy := reachable_tidy reached
  simp only [updateStream, bind_eq_ok, required_eq_ok] at done
  obtain ⟨existing, listed, draft, built, window, -, done⟩ := done
  obtain ⟨stream, found, rfl⟩ := Option.map_eq_some_iff.mp listed
  obtain ⟨found, active⟩ := Option.filter_eq_some_iff.mp found
  have there := Table.get?_eq_some.mp found
  have streamTidy := tidy.streams _ _ there
  obtain ⟨_, _, _, schedules, -, -, scheduled, same⟩ := buildStreamDraft_ok built
  have named : draft.id = some id := by rw [same]
  obtain ⟨isId, saved, drafts, replaced⟩ := saveStream_replacedSchedules done
  obtain rfl : result.1 = id := by rw [isId, StreamDraft.savedId, named, Option.getD_some]
  have made : request.schedules = .missing → flattenedSchedules request
      (activeSchedules db.finance result.1)
      (request.defaultAccountId.merged stream.defaultAccountId) today =
        .ok (saved.map Prod.snd) := by
    intro missing
    simp only [StreamRequest.schedulesOver, missing, Option.map_some, Option.getD_some] at scheduled
    rw [scheduled, drafts, same]
  constructor
  · intro kept missing isFlattened keeps other scheduleId stored isStream target stored_ ofStream
    obtain rfl := Table.unique isStream there
    exact (editsOnly_iff replaced tidy isFlattened keeps target stored_ ofStream
      (made missing)).mp (kept.edited missing isFlattened keeps scheduleId stored target stored_
        ofStream)
  · intro edits
    refine ⟨fun stored isStored => ?_, fun missing unflattened scheduleId => ?_,
      fun missing isFlattened keeps scheduleId stored target stored_ ofStream => ?_⟩
    · obtain rfl := Table.unique isStored there
      refine ⟨_, (saveStream_replaced named done).row,
        (unnamed_streamRow active streamTidy built).mpr rfl, fun sameKind => ?_⟩
      exact streamRow_typed streamTidy built sameKind
    · -- Every active schedule is written back.
      have listed := made missing
      simp only [flattenedSchedules, unflattened, Bool.false_eq_true, if_false, pure_eq_ok]
        at listed
      refine replaced.content_kept tidy none (fun drafted member => ?_) (fun entry member _ => ?_)
        (by simp)
      · rw [← listed] at member
        obtain ⟨entry, isActive, rfl⟩ := List.mem_map.mp member
        exact ⟨entry.1, rfl, .inr ⟨entry.2, isActive⟩⟩
      · rw [← listed]
        exact List.mem_map_of_mem member
    · exact (editsOnly_iff replaced tidy isFlattened keeps target stored_ ofStream
        (made missing)).mpr (edits missing isFlattened keeps stream scheduleId stored there target
          stored_ ofStream)

/-- A stream is saved with two schedules, and then with the first one alone. -/
def twoSchedules : Domain := replay plainPlatform [
  .finance (.saveStream "2026-01-05T00:00:00Z" (allowanceStream none
    [weeklySchedule none firstMonday,
      { weeklySchedule none secondMonday with label := some "Bonus", amount := .finite 40 }])
    twoWeeks),
  .finance (.saveStream "2026-01-06T00:00:00Z"
    (allowanceStream (some 1) [weeklySchedule (some 1) firstMonday]) twoWeeks)] .registered

/-- A request that sets the amount of a schedule to 50. -/
def amountRequest (scheduleId : Option ℕ) : StreamRequest where
  name := "Allowance"
  kind := none
  amountCertainty := none
  description := .missing
  defaultAccountId := .missing
  scheduleId
  scheduleAmount := .value (.finite 50)
  scheduleFrequency := .missing
  dueDay := .missing
  startDate := .missing
  endDate := .missing
  schedules := .missing

/-- Both schedules are stored, and the first one is active. -/
theorem twoSchedules_reachable : (domainSystem plainPlatform).Reachable twoSchedules :=
  replay_reachable (by decide +kernel)

/-- The amount of the first active schedule is set. -/
theorem updateStream_frame_amount :
    ∃ result, updateStream plainPlatform "2026-01-07T00:00:00Z" firstMonday 1 (amountRequest none)
      twoSchedules.finance = .ok result ∧
      (amountRequest none).FrameKept 1 twoSchedules.finance result.2 := by
  have accepted : (updateStream plainPlatform "2026-01-07T00:00:00Z" firstMonday 1
      (amountRequest none) twoSchedules.finance).toOption.isSome = true := by decide +kernel
  obtain ⟨result, done⟩ := Option.isSome_iff_exists.mp accepted
  have done := toOption_eq_some.mp done
  refine ⟨result, done, (updateStream_frame twoSchedules_reachable done).mpr ?_⟩
  intro _ _ _ stream scheduleId stored isStream target there ofStream
  left
  -- The first schedule is the active one: it has a label, and the stream has no account.
  have listed : activeSchedules twoSchedules.finance 1 =
      [(1, (weeklySchedule none firstMonday).row "2026-01-06T00:00:00Z" 1)] := by decide +kernel
  have name : scheduleId = 1 := by
    rw [StreamRequest.target, listed] at target
    exact (Option.some.inj target).symm
  subst name
  have first := mem_activeSchedules.mp (listed ▸ List.mem_singleton_self _)
  obtain rfl := Table.unique there first.1
  have plain : (twoSchedules.finance.streams.get? 1).all (·.defaultAccountId == none) = true := by
    decide +kernel
  rw [Table.get?_eq_some.mpr isStream] at plain
  exact ⟨by rw [listed]; rfl, rfl, fun _ => .inr (by simpa using plain)⟩

/-- What the counted columns of every schedule are. -/
def scheduleColumns (db : Finance) : List (ℕ × Bool × Option String × ℚ × IsoDate) :=
  db.schedules.rows.map fun entry =>
    (entry.1, entry.2.isActive, entry.2.label, entry.2.amount, entry.2.startDate)

/-- Naming the inactive schedule overwrites it with the first one, which is deactivated. -/
theorem updateStream_swaps :
    (domainSystem plainPlatform).Reachable twoSchedules ∧
    scheduleColumns twoSchedules.finance =
      [(1, true, some "Allowance", 100, firstMonday), (2, false, some "Bonus", 40, secondMonday)] ∧
    ∃ result, updateStream plainPlatform "2026-01-07T00:00:00Z" firstMonday 1
      (amountRequest (some 2)) twoSchedules.finance = .ok result ∧
      scheduleColumns result.2 = [(1, false, some "Allowance", 100, firstMonday),
        (2, true, some "Allowance", 50, firstMonday)] ∧
      ¬ (amountRequest (some 2)).FrameKept 1 twoSchedules.finance result.2 := by
  have accepted : (updateStream plainPlatform "2026-01-07T00:00:00Z" firstMonday 1
      (amountRequest (some 2)) twoSchedules.finance).toOption.isSome = true := by decide +kernel
  refine ⟨twoSchedules_reachable, by decide +kernel, _, eq_ok_getD accepted (0, .empty),
    by decide +kernel, fun kept => ?_⟩
  -- The first schedule was active, and no field of it is named.
  have stored : (twoSchedules.finance.schedules.get? 2).map (·.streamId) = some 1 := by
    decide +kernel
  obtain ⟨second, there, ofStream⟩ := Option.map_eq_some_iff.mp stored
  have others := (kept.edited rfl rfl rfl 2 second rfl (Table.get?_eq_some.mp there)
    ofStream).others 1 (by decide)
  have active : ((twoSchedules.finance.schedules.get? 1).map StreamSchedule.content).map
      (·.isActive) = some true := by decide +kernel
  rw [← others] at active
  revert active
  decide +kernel

end FinStream
