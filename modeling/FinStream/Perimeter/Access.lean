import FinStream.Perimeter.Front

/-! Access: what came before every request that reaches its handler. -/

namespace FinStream

open Store

/-- Whether writes are accepted. -/
def Operations.AcceptsWrites (db : Operations) : Prop :=
  ∃ control, db.control = some control ∧ control.mode = .enabled

/-- Whether writes are accepted and scheduled runs are on. -/
def Operations.RunsSchedules (db : Operations) : Prop :=
  ∃ control, db.control = some control ∧ control.mode = .enabled ∧ control.schedulerEnabled = true

/-- A check for writes passes only while they are accepted. -/
theorem requireWritesEnabled_ok {db : Operations} {control : OperationControl}
    (passed : requireWritesEnabled db = .ok control) :
    db.control = some control ∧ control.mode = .enabled := by
  simp only [requireWritesEnabled, controlOn, bind_eq_ok, required_eq_ok, ensure_eq_ok, beq_iff_eq,
    pure_eq_ok] at passed
  obtain ⟨_, stored, _, enabled, rfl⟩ := passed
  exact ⟨stored, enabled⟩

/-- A check for scheduled runs passes only while they are on. -/
theorem requireSchedulerEnabled_ok {db : Operations} {control : OperationControl}
    (passed : requireSchedulerEnabled db = .ok control) : db.RunsSchedules := by
  simp only [requireSchedulerEnabled, bind_eq_ok, ensure_eq_ok, pure_eq_ok] at passed
  obtain ⟨_, writes, _, scheduled, rfl⟩ := passed
  obtain ⟨stored, enabled⟩ := requireWritesEnabled_ok writes
  exact ⟨_, stored, enabled, scheduled⟩

/-- What the gate asks of the operations for a request that it lets through. -/
def GateRequirement.Meets (requirement : GateRequirement) (db : Operations) : Prop :=
  match requirement with
  | .exempt => True
  | .writes => db.AcceptsWrites
  | .scheduler => db.RunsSchedules

/-- A request that is not exempt passes the gate only over operations that meet its requirement. -/
theorem enforce_meets {requirement : GateRequirement} {db : Option Operations}
    (passed : enforce requirement db = .ok ()) :
    requirement = .exempt ∨ ∃ tables, db = some tables ∧ requirement.Meets tables := by
  cases requirement with
  | exempt => exact Or.inl rfl
  | writes =>
    cases db with
    | none => cases passed
    | some tables =>
      simp only [enforce, bind_eq_ok, mapError_eq_ok] at passed
      obtain ⟨control, checked, -⟩ := passed
      exact Or.inr ⟨tables, rfl, control, requireWritesEnabled_ok checked⟩
  | scheduler =>
    cases db with
    | none => cases passed
    | some tables =>
      simp only [enforce, bind_eq_ok, mapError_eq_ok] at passed
      obtain ⟨control, checked, -⟩ := passed
      exact Or.inr ⟨tables, rfl, requireSchedulerEnabled_ok checked⟩

namespace Perimeter

/-- A delivery whose signature was accepted at some time. -/
def Config.Signed (config : Config) (request : Request) : Prop :=
  ∃ verifier now, config.verifier = some verifier ∧ request.body.length ≤ maxWebhookBytes ∧
    verifier.verify config.mac request.headers request.body now = .ok ⟨⟩

/-- A request that no other site made a browser send to change something. -/
def Config.OwnSite (config : Config) (request : Request) : Prop :=
  request.method.mutates = true → hasSameOrigin config.authority request.headers = true

/-- The login that a form is granted over the users as they are stored. -/
def Front.Grants (front : Front) (config : Config) (form : LoginForm) (id : ℤ) : Prop :=
  ∃ user ∈ front.users, user.id = id ∧ user.isActive = true ∧
    eqIgnoreAsciiCase user.email (loginEmail config form) = true ∧
    config.verifyPassword form.password user.passwordHash = some true

/-- A login of a user was handled and granted, over the users as they were stored then. -/
def LoggedIn (config : Config) (past : List Front) (id : ℤ) : Prop :=
  Once (fun front => ∃ pending ∈ front.requests, pending.request.isLogin = true ∧
    (∃ standing, pending.stage = .handling standing) ∧
    ∃ form, config.loginForm pending.request.body = some form ∧ front.Grants config form id) past

/-- A session was stored for a user who logged in. -/
def Issued (config : Config) (past : List Front) (session : Option Session.Id) (id : ℤ) : Prop :=
  ∃ name, session = some name ∧ Once (fun front => (name, id) ∈ front.stored) past ∧
    LoggedIn config past id

/-- A request that goes by its session: it is no delivery and no scheduled run. -/
def Config.ByPage (config : Config) (request : Request) : Prop :=
  isWebhookPath request.path = false ∧ isCronPath request.path = false ∧ config.OwnSite request

/-- What was checked before a request went on to the write gate. -/
def Standing.Admitted (config : Config) (past : List Front) (pending : Pending) : Standing → Prop
  | .webhook => isWebhookPath pending.request.path = true ∧ config.Signed pending.request
  | .cron => isCronPath pending.request.path = true ∧ pending.request.method = .get ∧
      config.cronAuthenticator.authorizes config.digest pending.request.headers = true
  | .anyone => config.ByPage pending.request ∧ isPublic pending.request.path = true
  | .user id => config.ByPage pending.request ∧ Issued config past pending.session id ∧
      Once (fun front => front.isActive id = true) past

/-- The write gate let a request through, over the operations as they were stored then. -/
def Passed (past : List Front) (request : Request) : Prop :=
  Once (fun front => (requirement request.method request.path).Meets front.operations) past

/-- What was checked before a request got as far as it has. -/
def Stage.Justified (config : Config) (past : List Front) (pending : Pending) : Stage → Prop
  | .loading => config.ByPage pending.request
  | .looking user => config.ByPage pending.request ∧ Issued config past pending.session user
  | .looked user active => config.ByPage pending.request ∧
      Issued config past pending.session user ∧
      (active = true → Once (fun front => front.isActive user = true) past)
  | .gating standing => standing.Admitted config past pending
  | .handling standing => standing.Admitted config past pending ∧ Passed past pending.request
  | .loggingIn user => LoggedIn config past user
  | _ => True

/-- What holds of every history: everything in its newest state was checked before. -/
structure Sound (config : Config) (front : Front) (states : List Front) : Prop where
  requests : ∀ pending ∈ front.requests, pending.stage.Justified config states pending
  /-- Sessions are stored for users who logged in. -/
  stored : ∀ entry ∈ front.stored, LoggedIn config states entry.2
  /-- A process keeps the names of users that were active. -/
  caches : ∀ process user at_, (front.processes process).activeUsers user = some at_ →
    Once (fun earlier => earlier.isActive user = true) states

section Later

variable {config : Config} {past : List Front} {pending : Pending}

/-- A session that was issued still was later. -/
theorem Issued.later {session : Option Session.Id} {id : ℤ} (issued : Issued config past session id)
    (next : Front) : Issued config (next :: past) session id := by
  obtain ⟨name, same, stored, login⟩ := issued
  exact ⟨name, same, stored.later next, login.later next⟩

/-- A request that was admitted still was later. -/
theorem Standing.Admitted.later {standing : Standing} (admitted : standing.Admitted config past pending)
    (next : Front) : standing.Admitted config (next :: past) pending := by
  cases standing with
  | webhook => exact admitted
  | cron => exact admitted
  | anyone => exact admitted
  | user id => exact ⟨admitted.1, admitted.2.1.later next, admitted.2.2.later next⟩

/-- What was checked before still was later. -/
theorem Stage.Justified.later {stage : Stage} (justified : stage.Justified config past pending)
    (next : Front) : stage.Justified config (next :: past) pending := by
  cases stage with
  | loading => exact justified
  | looking user => exact ⟨justified.1, justified.2.later next⟩
  | looked user active =>
    exact ⟨justified.1, justified.2.1.later next, fun seen => (justified.2.2 seen).later next⟩
  | gating standing => exact Standing.Admitted.later justified next
  | handling standing => exact ⟨justified.1.later next, Once.later justified.2 next⟩
  | loggingIn user => exact Once.later justified next
  | flushing => trivial
  | answered response => trivial
  | dropped => trivial

end Later

section Layers

variable {config : Config} {request : Request}

/-- A delivery goes on only when its signature was accepted. -/
theorem authenticateWebhook_signed {now : OffsetDateTime} {verified : Bool}
    (passed : authenticateWebhook config request now = .ok verified)
    (delivery : isWebhookPath request.path = true) : config.Signed request := by
  simp only [authenticateWebhook, delivery, Bool.not_true, Bool.false_eq_true, if_false,
    bind_eq_ok, required_eq_ok, ensure_eq_ok, decide_eq_true_eq, mapError_eq_ok] at passed
  obtain ⟨verifier, configured, _, short, _, accepted, -⟩ := passed
  exact ⟨verifier, now, configured, short, accepted⟩

/-- What authentication decides before it loads a session is justified. -/
theorem requireAuth_justified {verified : Bool} {standing : Option Standing}
    (passed : requireAuth config request verified = .ok standing)
    (signed : isWebhookPath request.path = true → config.Signed request) (past : List Front)
    (pending : Pending) (same : pending.request = request) :
    (standing.elim Stage.loading Stage.gating).Justified config past pending := by
  subst same
  unfold requireAuth at passed
  by_cases delivery : isWebhookPath pending.request.path = true
  · -- A delivery stands for itself.
    simp only [delivery, if_true, bind_eq_ok, ensure_eq_ok, pure_eq_ok] at passed
    obtain ⟨_, -, rfl⟩ := passed
    exact ⟨delivery, signed delivery⟩
  · by_cases scheduled : isCronPath pending.request.path = true
    · -- A scheduled run bears the token, and asks with GET.
      simp only [delivery, scheduled, Bool.false_eq_true, if_false, if_true, bind_eq_ok,
        ensure_eq_ok, beq_iff_eq, pure_eq_ok] at passed
      obtain ⟨_, bearer, _, get, rfl⟩ := passed
      exact ⟨scheduled, get, bearer⟩
    · simp only [delivery, scheduled, Bool.false_eq_true, if_false, bind_eq_ok, ensure_eq_ok]
        at passed
      obtain ⟨_, sameSite, passed⟩ := passed
      have page : config.ByPage pending.request := by
        refine ⟨by simpa using delivery, by simpa using scheduled, fun mutates => ?_⟩
        simpa [mutates] using sameSite
      by_cases opened : isPublic pending.request.path = true
      · rw [if_pos opened] at passed
        obtain rfl := pure_eq_ok.mp passed
        exact ⟨page, opened⟩
      · rw [if_neg opened] at passed
        obtain rfl := pure_eq_ok.mp passed
        exact page

/-- A request that has just arrived got as far as was justified. -/
theorem arrival_justified (now : OffsetDateTime) (past : List Front) (pending : Pending)
    (same : pending.request = request) :
    (arrival config request now).Justified config past pending := by
  unfold arrival
  split
  · rename_i standing passed
    obtain ⟨_, authenticated, decided⟩ := bind_eq_ok.mp passed
    exact requireAuth_justified decided (authenticateWebhook_signed authenticated) past pending same
  · rename_i passed
    obtain ⟨_, authenticated, decided⟩ := bind_eq_ok.mp passed
    exact requireAuth_justified decided (authenticateWebhook_signed authenticated) past pending same
  · trivial

/-- A login is granted to an active user with this address and this password. -/
theorem login_grants {front : Front} {form : LoginForm} {id : ℤ}
    (granted : login config (some front.users) form = .ok id) : front.Grants config form id := by
  simp only [login, bind_eq_ok, required_eq_ok, ensure_eq_ok, pure_eq_ok, Option.some.injEq]
    at granted
  obtain ⟨_, -, _, rfl, verified, checked, _, rfl, user, found, rfl⟩ := granted
  have matched := List.find?_some found
  rw [Bool.and_eq_true] at matched
  rw [found, Option.map_some, Option.getD_some] at checked
  exact ⟨user, List.mem_of_find?_eq_some found, rfl, matched.2, matched.1, checked⟩

/-- Where the gate lets an admitted request go on is justified. -/
theorem gateStage_justified {front : Front} {past : List Front} {pending : Pending}
    {standing : Standing} (admitted : standing.Admitted config (front :: past) pending)
    (connected : Bool) :
    (gateStage pending.request standing (if connected then some front.operations else none)).Justified
      config (front :: past) pending := by
  unfold gateStage
  split
  · rename_i passed
    refine ⟨admitted, Once.now ?_⟩
    rcases enforce_meets passed with exempt | ⟨tables, opened, meets⟩
    · rw [exempt]
      trivial
    · -- The tables that were read are those of the front.
      cases connected with
      | false => cases opened
      | true =>
        obtain rfl := Option.some.inj opened
        exact meets
  · trivial

end Layers

section Steps

variable {config : Config} {front after : Front} {past : List Front}

/-- A step that adds justified stages, sessions and names keeps everything justified. -/
theorem Sound.step (sound : Sound config front (front :: past))
    (requests : ∀ pending ∈ after.requests, pending ∈ front.requests ∨
      pending.stage.Justified config (front :: past) pending)
    (stored : ∀ entry ∈ after.stored, entry ∈ front.stored ∨
      LoggedIn config (front :: past) entry.2)
    (caches : ∀ process user at_, (after.processes process).activeUsers user = some at_ →
      (front.processes process).activeUsers user = some at_ ∨
        Once (fun earlier => earlier.isActive user = true) (front :: past)) :
    Sound config after (after :: front :: past) := by
  refine ⟨fun pending member => ?_, fun entry member => ?_, fun process user at_ kept => ?_⟩
  · rcases requests pending member with old | new
    · exact (sound.requests pending old).later after
    · exact new.later after
  · rcases stored entry member with old | new
    · exact (sound.stored entry old).later after
    · exact new.later after
  · rcases caches process user at_ kept with old | new
    · exact (sound.caches process user at_ old).later after
    · exact new.later after

/-- Moving a request to a justified stage keeps everything justified. -/
theorem Sound.withStage (sound : Sound config front (front :: past)) (index : ℕ)
    (pending : Pending) {stage : Stage} (justified : stage.Justified config (front :: past) pending) :
    Sound config (front.withStage index pending stage)
      (front.withStage index pending stage :: front :: past) := by
  refine sound.step (fun other member => ?_) (fun _ => Or.inl) fun _ _ _ => Or.inl
  rcases List.mem_or_eq_of_mem_set member with old | rfl
  · exact Or.inl old
  · exact Or.inr justified

/-- What the session store answers leads to a justified stage. -/
theorem authorize_justified (sound : Sound config front (front :: past)) {pending : Pending}
    {loaded : Loaded} (page : config.ByPage pending.request)
    (answered : front.mayLoad pending.session loaded = true) :
    ((front.processes pending.process).authorize pending.request loaded).Justified config
      (front :: past) pending := by
  rcases loaded with _ | _ | user
  · trivial
  · trivial
  · -- The session names a user who logged in.
    obtain ⟨name, named, member⟩ := (Option.any_eq_true _ _).mp answered
    rw [decide_eq_true_eq] at member
    have issued : Issued config (front :: past) pending.session user :=
      ⟨name, named, Once.now member, sound.stored _ member⟩
    simp only [Process.authorize]
    split
    · rename_i recent
      obtain ⟨at_, kept, -⟩ := (Option.any_eq_true _ _).mp recent
      exact ⟨page, issued, sound.caches _ _ _ kept⟩
    · exact ⟨page, issued⟩

/-- What a request does next keeps everything justified. -/
theorem advance_sound (sound : Sound config front (front :: past)) {index : ℕ} {pending : Pending}
    (there : front.requests[index]? = some pending) {input : FrontInput}
    (taken : front.advance config index pending input = some after) :
    Sound config after (after :: front :: past) := by
  have member := List.mem_of_getElem? there
  have justified := sound.requests pending member
  unfold Front.advance at taken
  split at taken
  · -- The session is loaded.
    rename_i loaded
    split at taken
    · rename_i allowed
      rw [allowed.1] at justified
      cases taken
      exact sound.withStage index pending (authorize_justified sound justified allowed.2)
    · cases taken
  · -- The row of the user is read.
    rename_i answered
    split at taken
    · rename_i user at_
      rw [at_] at justified
      cases taken
      cases answered with
      | false => exact sound.withStage index pending trivial
      | true => exact sound.withStage index pending ⟨justified.1, justified.2, fun seen => .now seen⟩
    · cases taken
  · -- The process keeps what the row said.
    split at taken
    · rename_i user active at_
      rw [at_] at justified
      cases taken
      refine sound.step (fun other member => ?_) (fun _ => Or.inl) fun process other moment kept => ?_
      · rcases List.mem_or_eq_of_mem_set member with old | rfl
        · exact Or.inl old
        · refine Or.inr ?_
          cases active with
          | false => trivial
          | true => exact ⟨justified.1, justified.2.1, justified.2.2 rfl⟩
      · simp only [Front.withStage, Front.withProcess] at kept
        by_cases same : process = pending.process
        · subst same
          rw [Function.update_self] at kept
          by_cases named : other = user
          · subst named
            cases active with
            | false => simp [Process.keep] at kept
            | true => exact Or.inr (justified.2.2 rfl)
          · exact Or.inl (by simpa [Process.keep, Function.update_of_ne named] using kept)
        · rw [Function.update_of_ne same] at kept
          exact Or.inl kept
    · cases taken
  · -- The session of an inactive user is deleted.
    split at taken
    · cases taken
      exact sound.withStage index pending trivial
    · cases taken
  · -- The gate decides.
    rename_i connected
    split at taken
    · rename_i standing at_
      rw [at_] at justified
      cases taken
      exact sound.withStage index pending (gateStage_justified justified connected)
    · cases taken
  · -- The login decides.
    rename_i answered
    split at taken
    · rename_i standing form at_ read
      split at taken
      · rename_i isLogin
        cases taken
        refine sound.withStage index pending ?_
        unfold loginStage
        split
        · rename_i user granted
          cases answered with
          | false =>
            simp [login] at granted
          | true => exact .now ⟨pending, member, isLogin, ⟨standing, at_⟩, form, read,
              login_grants granted⟩
        · trivial
      · cases taken
    · cases taken
  · -- The session of a login is stored.
    rename_i id succeeded
    split at taken
    · rename_i user at_
      rw [at_] at justified
      split at taken
      · cases taken
        refine sound.step (fun other member => ?_) (fun entry member => ?_) fun _ _ _ => Or.inl
        · rcases List.mem_or_eq_of_mem_set member with old | rfl
          · exact Or.inl old
          · exact Or.inr trivial
        · rcases List.mem_cons.mp member with rfl | old
          · exact Or.inr justified
          · exact Or.inl old
      · cases taken
        exact sound.withStage index pending trivial
    · cases taken
  · split at taken
    · cases taken
      exact sound.withStage index pending trivial
    · cases taken
  · cases taken
    exact sound.withStage index pending trivial
  · cases taken

/-- Every step keeps everything justified. -/
theorem step_sound (sound : Sound config front (front :: past)) {input : FrontInput}
    (taken : front.step config input = some after) :
    Sound config after (after :: front :: past) := by
  unfold Front.step at taken
  split at taken
  · -- A clock goes on; the names stay.
    rename_i process elapsed
    cases taken
    refine sound.step (fun _ => Or.inl) (fun _ => Or.inl) fun other user at_ kept => Or.inl ?_
    by_cases same : other = process
    · subst same
      simpa [Front.withProcess] using kept
    · simpa [Front.withProcess, Function.update_of_ne same] using kept
  · cases taken
    exact sound.step (fun _ => Or.inl) (fun _ => Or.inl) fun _ _ _ => Or.inl
  · cases taken
    exact sound.step (fun _ => Or.inl) (fun _ => Or.inl) fun _ _ _ => Or.inl
  · -- A request arrives.
    cases taken
    refine sound.step (fun pending member => ?_) (fun _ => Or.inl) fun _ _ _ => Or.inl
    rcases List.mem_append.mp member with old | new
    · exact Or.inl old
    · obtain rfl := List.mem_singleton.mp new
      exact Or.inr (arrival_justified _ _ _ rfl)
  · simp only [Option.bind_eq_bind, Option.bind_eq_some_iff] at taken
    obtain ⟨index, -, pending, there, moved⟩ := taken
    exact advance_sound sound there moved

/-- Everything in the newest state of a history was checked before. -/
theorem recorded_sound (recorded : (fronts config).Recorded (front :: past)) :
    Sound config front (front :: past) := by
  -- The induction is on the history; each step is justified by the states before it.
  have whole := recorded.invariant
    (fun states => ∀ newest rest, states = newest :: rest → Sound config newest states) ?_ ?_
  · exact whole front past rfl
  · rintro state ⟨fresh, noSessions, noRequests⟩ newest rest same
    obtain ⟨rfl, rfl⟩ := List.cons.inj same
    refine ⟨fun pending member => ?_, fun entry member => ?_, fun process user at_ kept => ?_⟩
    · rw [noRequests] at member
      exact absurd member List.not_mem_nil
    · rw [noSessions] at member
      exact absurd member List.not_mem_nil
    · rw [fresh] at kept
      cases kept
  · intro input before next rest _ sound taken newest older same
    obtain ⟨rfl, rfl⟩ := List.cons.inj same
    exact step_sound (sound before rest rfl) taken

end Steps

/-- The front before anything happened. -/
def freshFront (users : List AppUser) (operations : Operations) : Front where
  users := users
  operations := operations
  processes := fun _ => ⟨0, fun _ => none⟩
  stored := []
  requests := []

/-- Nothing has happened in a fresh front. -/
theorem freshFront_init (config : Config) (users : List AppUser) (operations : Operations) :
    (fronts config).init (freshFront users operations) := ⟨fun _ _ => rfl, rfl, rfl⟩

/-- The only user of the household. -/
def householdUser : AppUser := ⟨1, "Household@Example.com", "argon2id", none, true⟩

/-- What the household logs in with. -/
def householdForm : LoginForm := ⟨" household@example.com ", "open sesame"⟩

/-- The body of the household's login. -/
def householdBody : List UInt8 := bytesOf "email=+household%40example.com+&password=open+sesame"

/-- A configuration without deliveries and scheduled runs that knows the household's login. -/
def householdConfig : Config where
  mac := fun _ _ => []
  verifier := none
  digest := fun _ => []
  cronAuthenticator := ⟨none⟩
  authority origin := some (stripLeading "https://" origin)
  loginForm body := if body = householdBody then some householdForm else none
  toLowercase text := String.ofList (text.toList.map Char.toLower)
  verifyPassword password hash := some (password == "open sesame" && hash == "argon2id")

/-- The headers of a browser on this site. -/
def siteHeaders : Inbox.HeaderMap
  | "origin" => some (bytesOf "https://deeds.example.com")
  | "host" => some (bytesOf "Deeds.example.com")
  | _ => none

/-- The moment of a household's requests. -/
def householdNow : OffsetDateTime := ⟨0, by decide⟩

/-- A household that logs in and adds a stream. -/
def householdInputs : List FrontInput :=
  [.arrive 0 ⟨.post, "/login", siteHeaders, householdBody⟩ none householdNow,
    .gate 0 true, .login 0 true, .store 0 7 true,
    .arrive 1 ⟨.post, "/api/streams", siteHeaders, []⟩ (some 7) householdNow,
    .load 1 (.found (some 1)), .look 1 true, .keep 1, .gate 1 true]

end Perimeter

end FinStream
