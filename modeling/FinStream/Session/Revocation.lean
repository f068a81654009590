import FinStream.Session.Store
import FinStream.Store.Transaction

/-! Revocation: when a deleted session stays deleted for every process. -/

namespace FinStream.Session

open Store

/-- The session a call is about to cache, and the process it does so in. -/
def Call.caching : Call → Option (ℕ × Record)
  | .created process record => some (process, record)
  | .saved process record => some (process, record)
  | .loaded process record _ => some (process, record)
  | _ => none

/--
Whether a session that is being deleted on a process lingers.

It does in the cache of another process, or in a call that is still to cache it.
-/
def Lingers (state : SessionState) (process : ℕ) (id : Id) : Prop :=
  (∃ other entry, other ≠ process ∧ (state.instances other).entries id = some entry ∧
    entry.isLive (state.instances other).clock = true) ∨
  ∃ call ∈ state.calls, ∃ other record, call.caching = some (other, record) ∧ record.id = id ∧
    (state.instances other).clock < record.expiryDate

/-- A deletion returns only when the session lingers nowhere. -/
def ReturnsLast (state : SessionState) : SessionInput → Prop
  | .finish index => ∀ process id, state.calls[index]? = some (.deleted process id) →
      ¬ Lingers state process id
  | _ => True

/-! ### The invariant -/

/-- A call does not bring a deleted session back. -/
def Call.Sound (state : SessionState) : Call → Prop
  | .created process record => record.id ∈ state.revoked →
      record.expiryDate ≤ (state.instances process).clock
  | .saved process record => record.id ∈ state.revoked →
      record.expiryDate ≤ (state.instances process).clock
  | .loaded process record revoked =>
    (record.id ∈ state.revoked → record.expiryDate ≤ (state.instances process).clock) ∧
      (revoked = true → record.id ∈ state.revoked)
  | .loading _ id revoked => revoked = true → id ∈ state.revoked
  | .deleted _ id => state.rows id = none ∧ id ∈ state.used
  | .returned (.loaded _ revoked found) => revoked = true → found = none
  | _ => True

/-- No cache uses a deleted session. -/
def CachesSound (state : SessionState) : Prop :=
  ∀ id ∈ state.revoked, ∀ process entry, (state.instances process).entries id = some entry →
    entry.isLive (state.instances process).clock = false

/-- What holds of every state in which deletions returned last. -/
structure Sound (state : SessionState) : Prop where
  /-- No call brings a deleted session back. -/
  calls : ∀ call ∈ state.calls, call.Sound state
  /-- A deleted row stays away. -/
  rows : ∀ id ∈ state.revoked, state.rows id = none ∧ id ∈ state.used
  /-- No cache uses a deleted session. -/
  caches : CachesSound state

/-- What every step but the return of a deletion does to a state. -/
structure Later (before after : SessionState) : Prop where
  /-- No deletion returns. -/
  revoked : after.revoked = before.revoked
  /-- Clocks go forward. -/
  clocks : ∀ process, (before.instances process).clock ≤ (after.instances process).clock
  /-- A row that is gone does not come back. -/
  gone : ∀ id, before.rows id = none → id ∈ before.used →
    after.rows id = none ∧ id ∈ after.used

/-- Nothing happens to a state that stays. -/
theorem Later.refl (state : SessionState) : Later state state :=
  ⟨rfl, fun _ => le_rfl, fun _ missing used => ⟨missing, used⟩⟩

/-- What was used no longer is not used later. -/
theorem CachedRecord.isLive_later {entry : CachedRecord} {clock later : ℤ} (forward : clock ≤ later)
    (dead : entry.isLive clock = false) : entry.isLive later = false := by
  unfold isLive at dead ⊢
  simp only [Bool.and_eq_false_iff, decide_eq_false_iff_not] at dead ⊢
  omega

section Steps

variable {before after : SessionState}

/-- A call that brings nothing back does not do so later either. -/
theorem Call.Sound.later {call : Call} (later : Later before after) (sound : call.Sound before) :
    call.Sound after := by
  -- Revocations are kept as they are, and clocks only go on.
  have expired : ∀ process (record : Record),
      (record.id ∈ before.revoked → record.expiryDate ≤ (before.instances process).clock) →
      record.id ∈ after.revoked → record.expiryDate ≤ (after.instances process).clock := by
    intro process record sound revoked
    rw [later.revoked] at revoked
    exact (sound revoked).trans (later.clocks process)
  cases call with
  | created process record => exact expired process record sound
  | saved process record => exact expired process record sound
  | loaded process record revoked =>
    refine ⟨expired process record sound.1, fun flagged => ?_⟩
    rw [later.revoked]
    exact sound.2 flagged
  | loading process id revoked =>
    intro flagged
    rw [later.revoked]
    exact sound flagged
  | deleted process id => exact later.gone id sound.1 sound.2
  | returned result => cases result <;> exact sound
  | creating => trivial
  | saving => trivial
  | missed => trivial
  | deleting => trivial

/-- A step with sound caches and sound new calls keeps the invariant. -/
theorem Sound.later (sound : Sound before) (later : Later before after)
    (caches : CachesSound after)
    (calls : ∀ call ∈ after.calls, call ∈ before.calls ∨ call.Sound after) : Sound after := by
  refine ⟨fun call member => ?_, fun id revoked => ?_, caches⟩
  · rcases calls call member with old | new
    · exact (sound.calls call old).later later
    · exact new
  · rw [later.revoked] at revoked
    obtain ⟨missing, used⟩ := sound.rows id revoked
    exact later.gone id missing used

/-- Caches that hold no more than before, with clocks that went forward, stay sound. -/
theorem CachesSound.fewer (sound : CachesSound before) (later : Later before after)
    (fewer : ∀ process id entry, (after.instances process).entries id = some entry →
      (before.instances process).entries id = some entry) : CachesSound after := by
  intro id revoked process entry stored
  rw [later.revoked] at revoked
  have dead := sound id revoked process entry (fewer process id entry stored)
  exact CachedRecord.isLive_later (later.clocks process) dead

/-- Starting a call that brings nothing back keeps the invariant. -/
theorem Sound.starting {call : Call} (sound : Sound before) (new : call.Sound before) :
    Sound (before.starting call) := by
  have later : Later before (before.starting call) := ⟨rfl, fun _ => le_rfl, fun _ => .intro⟩
  refine sound.later later (sound.caches.fewer later fun _ _ _ stored => stored) ?_
  intro other member
  rcases List.mem_append.mp member with old | last
  · exact .inl old
  · obtain rfl := List.mem_singleton.mp last
    exact .inr (new.later later)

/-- Replacing a call by one that brings nothing back keeps the invariant. -/
theorem Sound.withCall {index : ℕ} {call : Call} (sound : Sound before)
    (new : call.Sound before) : Sound (before.withCall index call) := by
  have later : Later before (before.withCall index call) := ⟨rfl, fun _ => le_rfl, fun _ => .intro⟩
  refine sound.later later (sound.caches.fewer later fun _ _ _ stored => stored) ?_
  intro other member
  rcases List.mem_or_eq_of_mem_set member with old | rfl
  · exact .inl old
  · exact .inr (new.later later)

/-- Replacing a process by one with the same clock goes on. -/
theorem SessionState.withInstance_later (state : SessionState) {index : ℕ} {process : Instance}
    (forward : (state.instances index).clock ≤ process.clock) :
    Later state (state.withInstance index process) := by
  refine ⟨rfl, fun other => ?_, fun _ => .intro⟩
  unfold withInstance
  by_cases same : other = index
  · subst same
    simpa using forward
  · simp [Function.update_of_ne same]

/-- A process that caches no more than before keeps the invariant. -/
theorem Sound.withInstance {index : ℕ} {process : Instance} (sound : Sound before)
    (forward : (before.instances index).clock ≤ process.clock)
    (fewer : ∀ id entry, process.entries id = some entry →
      (before.instances index).entries id = some entry) :
    Sound (before.withInstance index process) := by
  have later := before.withInstance_later forward
  refine sound.later later (sound.caches.fewer later ?_) fun _ member => .inl member
  intro other id entry stored
  unfold SessionState.withInstance at stored
  by_cases same : other = index
  · subst same
    exact fewer id entry (by simpa using stored)
  · simpa [Function.update_of_ne same] using stored

/-- Dropping a session from a cache keeps the invariant. -/
theorem Instance.evict_fewer (process : Instance) (id other : Id) {entry : CachedRecord}
    (stored : (process.evict id).entries other = some entry) :
    process.entries other = some entry := by
  unfold evict at stored
  by_cases same : other = id
  · subst same
    simp at stored
  · simpa [Function.update_of_ne same] using stored

/-- Caching a session keeps the invariant, unless it was deleted and is still used. -/
theorem Sound.caching {process : ℕ} {record : Record} (sound : Sound before)
    (expired : record.id ∈ before.revoked →
      record.expiryDate ≤ (before.instances process).clock) :
    Sound (before.caching process record) := by
  have later : Later before (before.caching process record) :=
    before.withInstance_later le_rfl
  refine sound.later later ?_ fun _ member => .inl member
  intro id revoked other entry stored
  unfold SessionState.caching SessionState.withInstance at stored ⊢
  by_cases same : other = process
  · subst same
    simp only [Function.update_self, Instance.cache] at stored ⊢
    by_cases named : id = record.id
    · -- The session that was just cached is not used, since it has expired.
      subst named
      simp only [Function.update_self, Option.some.injEq] at stored
      subst stored
      simp [CachedRecord.isLive, expired revoked]
    · rw [Function.update_of_ne named] at stored
      exact sound.caches id revoked other entry stored
  · simp only [Function.update_of_ne same] at stored ⊢
    exact sound.caches id revoked other entry stored

/-- Looking a session up changes no clock and adds nothing to the cache. -/
theorem Instance.cached_fewer (process : Instance) (id : Id) :
    (process.cached id).2.clock = process.clock ∧
      ∀ other entry, (process.cached id).2.entries other = some entry →
        process.entries other = some entry := by
  unfold cached
  split
  · exact ⟨rfl, fun _ _ stored => stored⟩
  · split
    · exact ⟨rfl, fun _ _ stored => stored⟩
    · exact ⟨rfl, fun other _ stored => process.evict_fewer id other stored⟩

/-- A session that is found in the cache is one that is used. -/
theorem Instance.cached_some {process : Instance} {id : Id} {record : Record}
    (found : (process.cached id).1 = some record) :
    ∃ entry, process.entries id = some entry ∧ entry.isLive process.clock = true := by
  unfold cached at found
  split at found
  · cases found
  · rename_i entry stored
    split at found
    · rename_i live
      exact ⟨entry, stored, live⟩
    · cases found

/-- Starting a load keeps the invariant. -/
theorem Sound.load {codec : Codec} {process : ℕ} {id : Id} (sound : Sound before)
    (taken : before.step codec (.load process id) = some after) : Sound after := by
  obtain ⟨clock, fewer⟩ := (before.instances process).cached_fewer id
  have looked : Sound (before.withInstance process ((before.instances process).cached id).2) :=
    sound.withInstance clock.ge fewer
  simp only [SessionState.step] at taken
  split at taken
  · rename_i record after_ same
    rw [same] at looked
    cases taken
    refine looked.starting fun flagged => ?_
    -- A deleted session is not found in a cache.
    obtain ⟨entry, stored, live⟩ := Instance.cached_some (congrArg Prod.fst same)
    have dead := sound.caches id (of_decide_eq_true flagged) process entry stored
    rw [live] at dead
    cases dead
  · rename_i after_ same
    rw [same] at looked
    cases taken
    exact looked.starting of_decide_eq_true

/-- A statement brings no row back, and the call that made it brings no session back. -/
theorem Call.execute_sound {codec : Codec} {nextId : Id} {call : Call} {executed : Executed}
    (sound : Session.Sound before) (stored : call.Sound before)
    (done : call.execute codec nextId before = some executed) (calls : List Call) :
    Later before { before with rows := executed.rows, used := executed.used, calls } ∧
      executed.call.Sound { before with rows := executed.rows, used := executed.used, calls } := by
  have unchanged : Later before { before with calls } := ⟨rfl, fun _ => le_rfl, fun _ => .intro⟩
  cases call with
  | creating process record attempts =>
    simp only [Call.execute] at done
    split at done
    · cases done
      exact ⟨unchanged, trivial⟩
    · cases done
      exact ⟨unchanged, trivial⟩
    · split at done
      · cases done
        exact ⟨unchanged, trivial⟩
      · split at done
        · cases done
        · -- The id is new, so it is not one that was deleted.
          rename_i missing fresh
          cases done
          refine ⟨⟨rfl, fun _ => le_rfl, fun id gone used => ⟨?_, List.mem_cons_of_mem _ used⟩⟩, ?_⟩
          · have other : id ≠ record.id := fun same => fresh (same ▸ used)
            simpa [Function.update_of_ne other] using gone
          · intro revoked
            exact absurd (sound.rows record.id revoked).2 fresh
  | saving process record =>
    simp only [Call.execute] at done
    split at done
    · cases done
      exact ⟨unchanged, trivial⟩
    · -- The row that is updated is there, so it was not deleted.
      rename_i data row encoded there
      cases done
      refine ⟨⟨rfl, fun _ => le_rfl, fun id gone used => ⟨?_, used⟩⟩, ?_⟩
      · have other : id ≠ record.id := by
          rintro rfl
          rw [gone] at there
          cases there
        simpa [Function.update_of_ne other] using gone
      · intro revoked
        have gone := (sound.rows record.id revoked).1
        rw [gone] at there
        cases there
    · cases done
      exact ⟨unchanged, trivial⟩
  | loading process id revoked =>
    simp only [Call.execute] at done
    split at done
    · cases done
      exact ⟨unchanged, fun _ => rfl⟩
    · rename_i row read
      have there := (Option.filter_eq_some_iff.mp read).1
      split at done
      · cases done
        exact ⟨unchanged, trivial⟩
      · split at done
        · -- The row that was read is there, so it was not deleted.
          rename_i record decoded agrees
          cases done
          have same : record.id = id := agrees.1
          refine ⟨unchanged, fun gone => ?_, fun flagged => ?_⟩
          · rw [same] at gone
            rw [(sound.rows id gone).1] at there
            cases there
          · rw [same]
            exact stored flagged
        · cases done
          exact ⟨unchanged, trivial⟩
  | deleting process id =>
    simp only [Call.execute] at done
    cases done
    refine ⟨⟨rfl, fun _ => le_rfl, fun other gone used => ⟨?_, List.mem_cons_of_mem _ used⟩⟩, ?_⟩
    · by_cases same : other = id
      · subst same
        simp
      · simpa [Function.update_of_ne same] using gone
    · exact ⟨by simp, List.mem_cons_self⟩
  | created => cases done
  | saved => cases done
  | missed => cases done
  | loaded => cases done
  | deleted => cases done
  | returned => cases done

/-- Executing a statement keeps the invariant. -/
theorem Sound.execute {codec : Codec} {index : ℕ} {nextId : Id} {answered : Bool}
    (sound : Sound before)
    (taken : before.step codec (.execute index nextId answered) = some after) : Sound after := by
  simp only [SessionState.step, Option.bind_eq_bind, Option.bind_eq_some_iff] at taken
  obtain ⟨call, at_, executed, done, same⟩ := taken
  cases same
  have member := List.mem_of_getElem? at_
  obtain ⟨later, new⟩ := call.execute_sound sound (sound.calls call member) done
    (before.calls.set index (if answered then executed.call else .returned .failed))
  refine sound.later later (sound.caches.fewer later fun _ _ _ stored => stored) ?_
  intro other replaced
  rcases List.mem_or_eq_of_mem_set replaced with old | rfl
  · exact .inl old
  · right
    split
    · exact new
    · trivial

/-- What a call does in its process keeps the invariant, when no deletion returns. -/
theorem Sound.finish {call : Call} {finished : SessionState} {result : Result}
    (sound : Sound before) (stored : call.Sound before)
    (undeleted : ∀ process id, call ≠ .deleted process id)
    (done : before.finish call = some (finished, result)) :
    Sound finished ∧ (Call.returned result).Sound finished := by
  cases call with
  | created process record =>
    cases done
    exact ⟨sound.caching stored, trivial⟩
  | saved process record =>
    cases done
    exact ⟨sound.caching stored, trivial⟩
  | missed process id =>
    cases done
    refine ⟨sound.withInstance le_rfl fun other _ kept => ?_, trivial⟩
    exact (before.instances process).evict_fewer id other kept
  | loaded process record revoked =>
    simp only [SessionState.finish] at done
    split at done
    · cases done
      exact ⟨sound, fun _ => rfl⟩
    · -- A session that has not expired is not one that was deleted.
      rename_i unexpired
      cases done
      refine ⟨sound.caching stored.1, fun flagged => ?_⟩
      exact absurd (stored.1 (stored.2 flagged)) unexpired
  | deleted process id => exact absurd rfl (undeleted process id)
  | creating => cases done
  | saving => cases done
  | loading => cases done
  | deleting => cases done
  | returned => cases done

/-- When a deletion returns and the session lingers nowhere, the invariant is kept. -/
theorem Sound.revoke {process : ℕ} {id : Id} (sound : Sound before)
    (stored : (Call.deleted process id).Sound before) (gone : ¬ Lingers before process id) :
    Sound { before.evicting process id with revoked := id :: before.revoked } := by
  have clock : ∀ other, ((before.evicting process id).instances other).clock =
      (before.instances other).clock := by
    intro other
    unfold SessionState.evicting SessionState.withInstance Instance.evict
    by_cases same : other = process
    · subst same
      simp
    · simp [Function.update_of_ne same]
  have expired : ∀ call ∈ before.calls, ∀ other record, call.caching = some (other, record) →
      (record.id ∈ before.revoked → record.expiryDate ≤ (before.instances other).clock) →
      record.id ∈ id :: before.revoked →
      record.expiryDate ≤ ((before.evicting process id).instances other).clock := by
    intro call member other record caching earlier revoked
    rw [clock]
    rcases List.mem_cons.mp revoked with same | old
    · -- The session that is being deleted is in no call's hands, unless it has expired.
      by_contra unexpired
      exact gone (.inr ⟨call, member, other, record, caching, same, not_le.mp unexpired⟩)
    · exact earlier old
  refine ⟨fun call member => ?_, fun other revoked => ?_, ?_⟩
  · have earlier := sound.calls call member
    cases call with
    | created other record => exact expired _ member other record rfl earlier
    | saved other record => exact expired _ member other record rfl earlier
    | loaded other record revoked =>
      exact ⟨expired _ member other record rfl earlier.1,
        fun flagged => List.mem_cons_of_mem _ (earlier.2 flagged)⟩
    | loading other id revoked => exact fun flagged => List.mem_cons_of_mem _ (earlier flagged)
    | deleted => exact earlier
    | returned result => cases result <;> exact earlier
    | creating => trivial
    | saving => trivial
    | missed => trivial
    | deleting => trivial
  · rcases List.mem_cons.mp revoked with rfl | old
    · exact stored
    · exact sound.rows other old
  · intro other revoked host entry kept
    have earlier : (before.instances host).entries other = some entry := by
      unfold SessionState.evicting SessionState.withInstance at kept
      by_cases same : host = process
      · subst same
        simp only [Function.update_self] at kept
        exact (before.instances host).evict_fewer id other kept
      · simpa [Function.update_of_ne same] using kept
    change entry.isLive ((before.evicting process id).instances host).clock = false
    rw [clock]
    rcases List.mem_cons.mp revoked with rfl | old
    · -- The deleting process has dropped the session, and no other one uses it.
      by_contra live
      have elsewhere : host ≠ process := by
        rintro rfl
        simp [SessionState.evicting, SessionState.withInstance, Instance.evict] at kept
      exact gone (.inl ⟨host, entry, elsewhere, earlier, by simpa using live⟩)
    · exact sound.caches other old host entry earlier

/-- Every step after which the session lingers nowhere keeps the invariant. -/
theorem Sound.step {codec : Codec} {input : SessionInput} (sound : Sound before)
    (last : ReturnsLast before input) (taken : before.step codec input = some after) :
    Sound after := by
  cases input with
  | tick process elapsed =>
    cases taken
    refine sound.withInstance ?_ fun _ _ stored => stored
    dsimp only
    omega
  | create process record =>
    cases taken
    exact sound.starting trivial
  | save process record =>
    cases taken
    exact sound.starting trivial
  | load process id => exact sound.load taken
  | delete process id =>
    cases taken
    exact sound.starting trivial
  | execute index nextId answered => exact sound.execute taken
  | finish index =>
    simp only [SessionState.step, Option.bind_eq_bind, Option.bind_eq_some_iff] at taken
    obtain ⟨call, at_, ⟨finished, result⟩, done, same⟩ := taken
    cases same
    have stored := sound.calls call (List.mem_of_getElem? at_)
    -- Only a finished deletion revokes, and it is the last call to return for its session.
    by_cases deletion : ∃ process id, call = .deleted process id
    · obtain ⟨process, id, rfl⟩ := deletion
      cases done
      exact (sound.revoke stored (last process id at_)).withCall trivial
    · have undeleted : ∀ process id, call ≠ .deleted process id := fun process id same =>
        deletion ⟨process, id, same⟩
      obtain ⟨kept, new⟩ := sound.finish stored undeleted done
      exact kept.withCall new
  | abandon index =>
    simp only [SessionState.step, Option.bind_eq_bind, Option.bind_eq_some_iff] at taken
    obtain ⟨call, -, same⟩ := taken
    split at same
    · cases same
    · cases same
      exact sound.withCall trivial

end Steps

/-- Deletions that return last revoke their sessions. -/
theorem Sound.revoked {state : SessionState} (sound : Sound state) : Revoked state := by
  refine ⟨fun id revoked => (sound.rows id revoked).1, fun id record member => ?_⟩
  cases sound.calls _ member rfl

/-- The invariant holds of every state in which deletions returned last. -/
theorem sessions_sound {codec : Codec} {state : SessionState}
    (reached : ((sessions codec).restrict ReturnsLast).Reachable state) : Sound state := by
  refine reached.invariant Sound ?_ ?_
  · rintro state ⟨empty, none_, fresh⟩
    refine ⟨fun call member => ?_, fun id revoked => ?_, fun id revoked => ?_⟩
    · rw [none_] at member
      cases member
    · rw [fresh] at revoked
      cases revoked
    · rw [fresh] at revoked
      cases revoked
  · rintro input before after - sound ⟨last, taken⟩
    exact sound.step last taken

/-! ### Lingering sessions are found -/

/-- A load finds a deleted session in a cache that still uses it. -/
theorem load_finds (codec : Codec) {state : SessionState} {process : ℕ} {id : Id}
    {entry : CachedRecord} (revoked : id ∈ state.revoked)
    (stored : (state.instances process).entries id = some entry)
    (live : entry.isLive (state.instances process).clock = true) :
    ∃ final, (sessions codec).step (.load process id) state final ∧ ¬ Revoked final := by
  have found : (state.instances process).cached id =
      (some entry.record, state.instances process) := by
    simp [Instance.cached, stored, live]
  let final := (state.withInstance process (state.instances process)).starting
    (.returned (.loaded id (decide (id ∈ state.revoked)) (some entry.record)))
  have taken : state.step codec (.load process id) = some final := by
    simp only [SessionState.step, found]
    rfl
  refine ⟨final, taken, fun promised => ?_⟩
  refine promised.loads id entry.record (List.mem_append_right _ ?_)
  simp [revoked]

/-- A session that has just been cached is used until it expires. -/
theorem SessionState.caching_live (state : SessionState) {process : ℕ} {record : Record}
    (unexpired : (state.instances process).clock < record.expiryDate) :
    ∃ entry, ((state.caching process record).instances process).entries record.id = some entry ∧
      entry.isLive ((state.caching process record).instances process).clock = true := by
  refine ⟨⟨record, (state.instances process).clock⟩, ?_, ?_⟩
  · simp [caching, withInstance, Instance.cache]
  · simp [caching, withInstance, Instance.cache, CachedRecord.isLive, sessionCacheTtl, unexpired]

/-- A call that is about to cache an unexpired session does so. -/
theorem finish_caches {state : SessionState} {call : Call} {process : ℕ} {record : Record}
    (caching : call.caching = some (process, record))
    (unexpired : (state.instances process).clock < record.expiryDate) :
    ∃ result, state.finish call = some (state.caching process record, result) := by
  cases call with
  | created other stored =>
    cases caching
    exact ⟨_, rfl⟩
  | saved other stored =>
    cases caching
    exact ⟨_, rfl⟩
  | loaded other stored revoked =>
    cases caching
    exact ⟨_, if_neg (not_le.mpr unexpired)⟩
  | creating => cases caching
  | saving => cases caching
  | missed => cases caching
  | loading => cases caching
  | deleting => cases caching
  | deleted => cases caching
  | returned => cases caching

/-- The state after a deletion returned. -/
def SessionState.deletionReturned (state : SessionState) (index process : ℕ) (id : Id) :
    SessionState :=
  { state.evicting process id with revoked := id :: state.revoked }.withCall index (.returned .done)

/-- After a deletion that did not return last, some load finds the session. -/
theorem lingering_found (codec : Codec) {state : SessionState} {index process : ℕ} {id : Id}
    (at_ : state.calls[index]? = some (.deleted process id)) (lingers : Lingers state process id) :
    ∃ inputs final, (sessions codec).Run (state.deletionReturned index process id) inputs final ∧
      ¬ Revoked final := by
  have revoked : id ∈ (state.deletionReturned index process id).revoked := List.mem_cons_self
  rcases lingers with ⟨other, entry, elsewhere, stored, live⟩ | ⟨call, member, other, record,
    caching, rfl, unexpired⟩
  · -- Another process has the session in its cache, and is asked for it next.
    have same : (state.deletionReturned index process id).instances other =
        state.instances other := Function.update_of_ne elsewhere _ _
    obtain ⟨final, taken, broken⟩ := load_finds codec revoked
      (by rw [same]; exact stored) (by rw [same]; exact live)
    exact ⟨_, final, .cons taken (.nil final), broken⟩
  · -- A call caches the session after its deletion returned, and its process is asked next.
    obtain ⟨position, bound, there⟩ := List.mem_iff_getElem.mp member
    have apart : index ≠ position := by
      rintro rfl
      rw [List.getElem?_eq_getElem bound, there] at at_
      cases at_
      cases caching
    have clock : ((state.deletionReturned index process record.id).instances other).clock =
        (state.instances other).clock := by
      unfold SessionState.deletionReturned SessionState.withCall SessionState.evicting
        SessionState.withInstance Instance.evict
      by_cases same : other = process
      · subst same
        simp
      · simp [Function.update_of_ne same]
    have unexpired_ : ((state.deletionReturned index process record.id).instances other).clock <
        record.expiryDate := clock ▸ unexpired
    have at_position : (state.deletionReturned index process record.id).calls[position]? =
        some call := by
      change (state.calls.set index _)[position]? = some call
      rw [List.getElem?_set_ne apart, List.getElem?_eq_getElem bound, there]
    obtain ⟨result, done⟩ := finish_caches caching unexpired_
    -- The cached session is as new as it can be.
    obtain ⟨entry, stored, live⟩ :=
      (state.deletionReturned index process record.id).caching_live unexpired_
    let cached := ((state.deletionReturned index process record.id).caching other record).withCall
      position (.returned result)
    have revoked_ : record.id ∈ cached.revoked := revoked
    obtain ⟨final, taken, broken⟩ := load_finds codec revoked_ stored live
    refine ⟨[.finish position, .load other record.id], final, .cons ?_ (.cons taken (.nil _)),
      broken⟩
    simp only [sessions, SessionState.step, Option.bind_eq_bind, Option.bind_eq_some_iff]
    exact ⟨call, at_position, _, done, rfl⟩

/--
Deletions that return last revoke their sessions for every process.

After any other deletion, some load finds the session.
-/
theorem logout_revokes {codec : Codec} {state : SessionState}
    (reached : ((sessions codec).restrict ReturnsLast).Reachable state) :
    Revoked state ∧ ∀ input after, (sessions codec).step input state after →
      ¬ ReturnsLast state input →
      ∃ inputs final, (sessions codec).Run after inputs final ∧ ¬ Revoked final := by
  refine ⟨(sessions_sound reached).revoked, fun input after taken early => ?_⟩
  cases input with
  | finish index =>
    simp only [ReturnsLast, not_forall, not_not] at early
    obtain ⟨process, id, at_, lingers⟩ := early
    obtain ⟨inputs, final, run, broken⟩ := lingering_found codec at_ lingers
    -- The deletion is the call that returned.
    have same : state.step codec (.finish index) =
        some (state.deletionReturned index process id) := by
      simp only [SessionState.step, at_]
      rfl
    obtain rfl := Option.some.inj (same.symm.trans taken)
    exact ⟨inputs, final, run, broken⟩
  | _ => exact absurd trivial early

/-- A session of the first user, until noon. -/
def userSession : Record where
  id := 1
  data := "\x7b\"user_id\":1\x7d"
  expiryDate := 1784030400 * 1000000000

/-- The bytes the session is stored as. -/
def userBytes : List UInt8 :=
  bytesOf "\x7b\"id\":1,\"data\":\x7b\"user_id\":1\x7d,\"expiry_date\":[2026,195,12,0,0,0,0,0,0]\x7d"

/-- A codec that knows the one session. -/
def userCodec : Codec where
  encode record := if record = userSession then some userBytes else none
  decode data := if data = userBytes then some userSession else none

/-- No session is stored, an hour before noon. -/
def noSessions : SessionState where
  rows _ := none
  instances _ := ⟨(1784030400 - 3600) * 1000000000, fun _ => none⟩
  calls := []
  used := []
  revoked := []

/-- The session is stored, and every process has just been started. -/
def restarted : SessionState :=
  { noSessions with rows := Function.update noSessions.rows 1 (some ⟨userBytes, 1784030400⟩) }

/-- The user logs in at one process. -/
def login : List SessionInput := [.create 0 userSession, .execute 0 2 true, .finish 0]

/-- The user visits another process. -/
def visit : List SessionInput := [.load 1 1, .execute 1 2 true, .finish 1]

/-- The user logs out at the first process; the call is the one with the given index. -/
def logout (index : ℕ) : List SessionInput :=
  [.delete 0 1, .execute index 2 true, .finish index]

/-- The state before the only deletion returns. -/
def loggingOut : SessionState :=
  { restarted with
    rows := Function.update restarted.rows 1 none
    calls := [.deleted 0 1]
    used := [1] }

/-- A logout before any process has cached the session revokes it. -/
theorem logout_revokes_restarted : Revoked (loggingOut.deletionReturned 0 0 1) := by
  have last : ¬ Lingers loggingOut 0 1 := by
    rintro (⟨other, entry, -, stored, -⟩ | ⟨call, member, other, record, caching, -⟩)
    · cases stored
    · -- The deletion is the only call.
      obtain rfl := List.mem_singleton.mp member
      cases caching
  have run : ((sessions userCodec).restrict ReturnsLast).Run restarted (logout 0)
      (loggingOut.deletionReturned 0 0 1) := by
    refine .cons ⟨trivial, rfl⟩ (.cons ⟨trivial, rfl⟩ (.cons ⟨?_, rfl⟩ (.nil _)))
    intro process id at_
    cases at_
    exact last
  have start : ((sessions userCodec).restrict ReturnsLast).Reachable restarted :=
    .init ⟨fun _ _ => rfl, rfl, rfl⟩
  exact (logout_revokes (run.reachable start)).1

/-- A process that has the session in its cache finds it after the logout. -/
theorem logout_leaves_session : ¬ ∀ (codec : Codec) (state : SessionState),
    (sessions codec).Reachable state → Revoked state := by
  intro claimed
  have taken : (System.play (SessionState.step userCodec)
      (login ++ visit ++ logout 2 ++ [.load 1 1]) noSessions).isSome = true := by decide +kernel
  have run : (sessions userCodec).Run noSessions _ _ :=
    System.play_run (fun _ _ _ stepped => stepped) _ (some_getD taken noSessions)
  have start : (sessions userCodec).Reachable noSessions := .init ⟨fun _ _ => rfl, rfl, rfl⟩
  have promised := claimed userCodec _ (run.reachable start)
  refine promised.loads 1 userSession ?_
  decide +kernel

end FinStream.Session
