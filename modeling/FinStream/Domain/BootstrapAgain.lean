import FinStream.Domain.RefreshAgain

/-! A second bootstrap of one date: it finds what the first has left, and only stamps it again. -/

namespace FinStream

open Store

/-! ### Seeds as upserts -/

/-- The stream that a seed inserts. -/
def StreamSeed.stream (now : String) (accountId : ℕ) (seed : StreamSeed) : Stream where
  name := seed.name
  streamType := seed.streamType
  kind := seed.kind
  direction := seed.direction
  amountCertainty := seed.certainty
  description := some seed.description
  defaultAccountId := some accountId
  configuration := none
  parentId := none
  isActive := true
  updatedAt := now

/-- What a seed makes of the stream that has its name. -/
def StreamSeed.reset (now : String) (accountId : ℕ) (seed : StreamSeed) (stream : Stream) : Stream :=
  { stream with
    name := seed.name
    streamType := seed.streamType
    kind := seed.kind
    direction := seed.direction
    amountCertainty := seed.certainty
    description := some seed.description
    defaultAccountId := some accountId
    isActive := true
    updatedAt := now }

/-- The streams after a seed, and the id of its stream. -/
def StreamSeed.upsert (now : String) (accountId : ℕ) (seed : StreamSeed) (streams : Table Stream) :
    ℕ × Table Stream :=
  streams.upsert (·.name == seed.name) (seed.stream now accountId) (seed.reset now accountId)

/-- A seed of a monthly schedule for a stream. -/
structure MonthlySeed where
  streamId : ℕ
  streamName : String
  day : ℕ

/-- The schedule that a seed inserts. -/
def MonthlySeed.schedule (now : String) (startDate : IsoDate) (accountId : ℕ) (seed : MonthlySeed) :
    StreamSchedule where
  streamId := seed.streamId
  accountId := some accountId
  label := some s!"{seed.streamName} due"
  amount := 0
  frequency := .monthly
  dayOfMonth := some seed.day
  startDate
  endDate := none
  isActive := true
  metadata := none
  updatedAt := now

/-- What a seed makes of its stream's oldest schedule. -/
def MonthlySeed.reset (now : String) (startDate : IsoDate) (accountId : ℕ) (seed : MonthlySeed)
    (schedule : StreamSchedule) : StreamSchedule :=
  { schedule with
    accountId := some accountId
    label := some s!"{seed.streamName} due"
    amount := 0
    frequency := .monthly
    dayOfMonth := some seed.day
    startDate
    endDate := none
    isActive := true
    updatedAt := now }

/-- The schedules after a seed, and the id of its schedule. -/
def MonthlySeed.upsert (now : String) (startDate : IsoDate) (accountId : ℕ) (seed : MonthlySeed)
    (schedules : Table StreamSchedule) : ℕ × Table StreamSchedule :=
  schedules.upsert (·.streamId == seed.streamId) (seed.schedule now startDate accountId)
    (seed.reset now startDate accountId)

/-- The monthly schedules the application starts with, for the seeded streams. -/
def monthlySeeds (streamIds : List ℕ) : List MonthlySeed :=
  scheduleSeeds.map fun seed =>
    ⟨streamIds.getD seed.1 0, (streamSeeds.map (·.name)).getD seed.1 "", seed.2⟩

section

variable (now : String) (accountId : ℕ) (startDate : IsoDate)

/-- Ensuring a seeded stream is an upsert. -/
theorem ensureSeedStreamOn_eq (seed : StreamSeed) (db : Finance) :
    ensureSeedStreamOn now seed accountId db = ((seed.upsert now accountId db.streams).1,
      { db with streams := (seed.upsert now accountId db.streams).2 }) := by
  unfold ensureSeedStreamOn StreamSeed.upsert Table.upsert
  cases db.streams.find? fun _ stream => stream.name == seed.name <;> rfl

/-- Ensuring the seeded streams runs their upserts. -/
theorem ensureSeedStreams_eq_ok (seeds : List StreamSeed) (db : Finance) :
    ∃ streams, runAll (fun seed table => (.ok (seed.upsert now accountId table) :
        FinanceResult (ℕ × Table Stream))) seeds db.streams =
          .ok ((ensureSeedStreams now accountId seeds db).1, streams) ∧
      (ensureSeedStreams now accountId seeds db).2 = { db with streams } := by
  -- Each seed is one upsert, and the other tables pass through.
  induction seeds generalizing db with
  | nil => exact ⟨_, rfl, rfl⟩
  | cons seed rest ih =>
    obtain ⟨streams, ran, same⟩ := ih (ensureSeedStreamOn now seed accountId db).2
    simp only [ensureSeedStreams, runAll, bind_eq_ok, pure_eq_ok]
    rw [ensureSeedStreamOn_eq] at ran same ⊢
    exact ⟨streams, ⟨_, rfl, _, ran, rfl⟩, same⟩

/-- Ensuring a seeded schedule is an upsert. -/
theorem ensureSeedMonthlyScheduleOn_eq (seed : MonthlySeed) (db : Finance) :
    ensureSeedMonthlyScheduleOn now seed.streamId seed.streamName seed.day startDate accountId db =
      { db with schedules := (seed.upsert now startDate accountId db.schedules).2 } := by
  unfold ensureSeedMonthlyScheduleOn MonthlySeed.upsert Table.upsert
  cases db.schedules.find? fun _ schedule => schedule.streamId == seed.streamId <;> rfl

/-- Ensures the seeded schedules one after the other. -/
def ensureSeedSchedules (now : String) (startDate : IsoDate) (accountId : ℕ) :
    List MonthlySeed → Finance → Finance
  | [], db => db
  | seed :: rest, db => ensureSeedSchedules now startDate accountId rest
      (ensureSeedMonthlyScheduleOn now seed.streamId seed.streamName seed.day startDate accountId db)

/-- Ensuring the seeded schedules runs their upserts. -/
theorem ensureSeedSchedules_eq_ok (seeds : List MonthlySeed) (db : Finance) :
    ∃ ids schedules, runAll (fun seed table => (.ok (seed.upsert now startDate accountId table) :
        FinanceResult (ℕ × Table StreamSchedule))) seeds db.schedules = .ok (ids, schedules) ∧
      ensureSeedSchedules now startDate accountId seeds db = { db with schedules } := by
  -- Each seed is one upsert, and the other tables pass through.
  induction seeds generalizing db with
  | nil => exact ⟨_, _, rfl, rfl⟩
  | cons seed rest ih =>
    obtain ⟨ids, schedules, ran, same⟩ := ih (ensureSeedMonthlyScheduleOn now seed.streamId
      seed.streamName seed.day startDate accountId db)
    simp only [ensureSeedSchedules, runAll, bind_eq_ok, pure_eq_ok]
    rw [ensureSeedMonthlyScheduleOn_eq] at ran same ⊢
    exact ⟨_, schedules, ⟨_, rfl, _, ran, rfl⟩, same⟩

end

/-- Adds every active stream to a view. -/
def showActiveStreams (viewId : ℕ) (db : Finance) : Finance :=
  let active := db.streams.rows.filter (·.2.isActive)
  { db with
    viewStreams := db.viewStreams ∪ (active.map fun entry => (viewId, entry.1)).toFinset }

/-- What the bootstrap installs before it projects events. -/
def seedDefaults (now : String) (today : IsoDate) (db : Finance) : BootstrapResult × Finance :=
  let (primaryAccountId, db) := ensurePrimaryAccountOn now db
  let (streamIds, db) := ensureSeedStreams now primaryAccountId streamSeeds db
  let db := ensureSeedSchedules now today.firstOfMonth primaryAccountId (monthlySeeds streamIds) db
  let (defaultViewId, db) := ensureDefaultViewOn now db
  (⟨primaryAccountId, defaultViewId, streamIds⟩, showActiveStreams defaultViewId db)

/-- Ensuring the seeded schedules touches no other table. -/
theorem ensureSeedSchedules_frame (now : String) (startDate : IsoDate) (accountId : ℕ)
    (seeds : List MonthlySeed) (db : Finance) :
    ensureSeedSchedules now startDate accountId seeds db =
      { db with schedules := (ensureSeedSchedules now startDate accountId seeds db).schedules } := by
  obtain ⟨_, schedules, -, same⟩ := ensureSeedSchedules_eq_ok now accountId startDate seeds db
  rw [same]

/-- Each step of the installation writes one table, and the other steps leave it alone. -/
theorem seedDefaults_eq {now : String} {today : IsoDate} {db third : Finance}
    {first fourth : ℕ × Finance} {second : List ℕ × Finance}
    (primary : ensurePrimaryAccountOn now db = first)
    (streams : ensureSeedStreams now first.1 streamSeeds first.2 = second)
    (schedules : ensureSeedSchedules now today.firstOfMonth first.1 (monthlySeeds second.1)
      second.2 = third)
    (views : ensureDefaultViewOn now third = fourth) :
    seedDefaults now today db = (⟨first.1, fourth.1, second.1⟩, {
      accounts := first.2.accounts
      streams := second.2.streams
      schedules := third.schedules
      events := db.events
      views := fourth.2.views
      viewStreams :=
        (showActiveStreams fourth.1 { db with streams := second.2.streams }).viewStreams }) := by
  -- Every step frames its own table.
  have fromAccounts := ensurePrimaryAccountOn_frame now db
  have fromStreams := ensureSeedStreams_frame now first.1 streamSeeds first.2
  have fromSchedules := ensureSeedSchedules_frame now today.firstOfMonth first.1
    (monthlySeeds second.1) second.2
  have fromViews := ensureDefaultViewOn_frame now third
  rw [primary] at fromAccounts
  rw [streams] at fromStreams
  rw [schedules] at fromSchedules
  rw [views] at fromViews
  -- So a table is what the one step left that writes it.
  have accounts : fourth.2.accounts = first.2.accounts := by
    rw [fromViews, fromSchedules, fromStreams]
  have kept : fourth.2.streams = second.2.streams := by rw [fromViews, fromSchedules]
  have plans : fourth.2.schedules = third.schedules := by rw [fromViews]
  have events : fourth.2.events = db.events := by
    rw [fromViews, fromSchedules, fromStreams, fromAccounts]
  have shown : fourth.2.viewStreams = db.viewStreams := by
    rw [fromViews, fromSchedules, fromStreams, fromAccounts]
  simp only [seedDefaults, primary, streams, schedules, views, showActiveStreams, accounts, kept,
    plans, events, shown]

/-- The seeded schedules are ensured in order. -/
theorem ensureSeedSchedules_seeds (now : String) (startDate : IsoDate) (accountId : ℕ)
    (streamIds : List ℕ) (db : Finance) :
    ensureSeedSchedules now startDate accountId (monthlySeeds streamIds) db =
      scheduleSeeds.foldl (fun db seed =>
        ensureSeedMonthlyScheduleOn now (streamIds.getD seed.1 0)
          ((streamSeeds.map (·.name)).getD seed.1 "") seed.2 startDate accountId db) db := by
  unfold monthlySeeds
  -- The two recursions walk the same list.
  generalize scheduleSeeds = seeds
  induction seeds generalizing db with
  | nil => rfl
  | cons seed rest ih => rw [List.map_cons, ensureSeedSchedules, ih, List.foldl_cons]

/-- The bootstrap checks its dates, installs the defaults and projects their events. -/
theorem bootstrapDefaults_eq (now : String) (today : IsoDate) (db : Finance) :
    bootstrapDefaults now today db = (do
      checkDate today.firstOfMonth
      let through ← (today.addDays 365).mapError .date
      let window ← required (ProjectionWindow.new today through)
        (.storage "projection window ends before it starts")
      let after ← refreshStreams now window (seedDefaults now today db).1.streamIds
        (seedDefaults now today db).2
      pure ((seedDefaults now today db).1, after)) := by
  simp only [bootstrapDefaults, seedDefaults, showActiveStreams, ensureSeedSchedules_seeds]

/-! ### Stamps -/

section

variable (now : String)

/-- The primary account is ensured whatever the stamps. -/
theorem ensurePrimaryAccountOn_unstamped (db : Finance) :
    ensurePrimaryAccountOn "" db.unstamped =
      ((ensurePrimaryAccountOn now db).1, (ensurePrimaryAccountOn now db).2.unstamped) := by
  -- Times play no part in finding the account.
  have found : (db.unstamped.accounts.find? fun _ account => account.isPrimary && account.isActive) =
      (db.accounts.find? fun _ account => account.isPrimary && account.isActive).map
        fun entry => (entry.1, entry.2.unstamped) := Table.find?_map db.accounts fun _ _ => rfl
  unfold ensurePrimaryAccountOn
  rw [found]
  cases db.accounts.find? fun _ account => account.isPrimary && account.isActive with
  -- A new account differs in its times only.
  | none =>
    have inserted := Table.map_insert Account.unstamped db.accounts (primaryCashAccount now)
    simp only [Option.map_none, Finance.unstamped, inserted]
    rfl
  | some entry => rfl

/-- A stream is seeded whatever the stamps. -/
theorem StreamSeed.upsert_unstamped (seed : StreamSeed) (accountId : ℕ) (streams : Table Stream) :
    seed.upsert "" accountId (streams.map Stream.unstamped) =
      ((seed.upsert now accountId streams).1,
        (seed.upsert now accountId streams).2.map Stream.unstamped) := by
  -- Resetting a row and forgetting its times can be swapped.
  have reset : ∀ row : Stream, seed.reset "" accountId row.unstamped =
      (seed.reset now accountId row).unstamped := fun _ => rfl
  have stored : (streams.map Stream.unstamped).upsert (·.name == seed.name)
      (seed.stream now accountId).unstamped (seed.reset "" accountId) = _ :=
    Table.map_upsert streams (fun _ => rfl) reset
  exact stored

/-- Streams are seeded whatever the stamps. -/
theorem ensureSeedStreams_unstamped (seeds : List StreamSeed) (accountId : ℕ) (db : Finance) :
    ensureSeedStreams "" accountId seeds db.unstamped =
      ((ensureSeedStreams now accountId seeds db).1,
        (ensureSeedStreams now accountId seeds db).2.unstamped) := by
  induction seeds generalizing db with
  | nil => rfl
  -- The first seed is swapped, and the others start from its table.
  | cons seed rest ih =>
    have streams : db.unstamped.streams = db.streams.map Stream.unstamped := rfl
    simp only [ensureSeedStreams, ensureSeedStreamOn_eq, streams, seed.upsert_unstamped now]
    exact congrArg (fun more : List ℕ × Finance =>
      ((seed.upsert now accountId db.streams).1 :: more.1, more.2))
        (ih { db with streams := (seed.upsert now accountId db.streams).2 })

/-- A schedule is seeded whatever the stamps. -/
theorem MonthlySeed.upsert_unstamped (seed : MonthlySeed) (startDate : IsoDate) (accountId : ℕ)
    (schedules : Table StreamSchedule) :
    seed.upsert "" startDate accountId (schedules.map StreamSchedule.unstamped) =
      ((seed.upsert now startDate accountId schedules).1,
        (seed.upsert now startDate accountId schedules).2.map StreamSchedule.unstamped) := by
  -- Resetting a row and forgetting its times can be swapped.
  have reset : ∀ row : StreamSchedule, seed.reset "" startDate accountId row.unstamped =
      (seed.reset now startDate accountId row).unstamped := fun _ => rfl
  have stored : (schedules.map StreamSchedule.unstamped).upsert (·.streamId == seed.streamId)
      (seed.schedule now startDate accountId).unstamped (seed.reset "" startDate accountId) = _ :=
    Table.map_upsert schedules (fun _ => rfl) reset
  exact stored

/-- Schedules are seeded whatever the stamps. -/
theorem ensureSeedSchedules_unstamped (seeds : List MonthlySeed) (startDate : IsoDate)
    (accountId : ℕ) (db : Finance) :
    ensureSeedSchedules "" startDate accountId seeds db.unstamped =
      (ensureSeedSchedules now startDate accountId seeds db).unstamped := by
  induction seeds generalizing db with
  | nil => rfl
  -- The first seed is swapped, and the others start from its table.
  | cons seed rest ih =>
    have schedules : db.unstamped.schedules = db.schedules.map StreamSchedule.unstamped := rfl
    rw [ensureSeedSchedules, ensureSeedSchedules, ensureSeedMonthlyScheduleOn_eq,
      ensureSeedMonthlyScheduleOn_eq, schedules, seed.upsert_unstamped now]
    exact ih { db with schedules := (seed.upsert now startDate accountId db.schedules).2 }

/-- The default view is chosen whatever the stamps. -/
theorem defaultViewCandidate_unstamped (views : Table StreamView) :
    defaultViewCandidate (views.map StreamView.unstamped) = defaultViewCandidate views := by
  -- Neither of the two searches looks at times.
  have flagged : ((views.map StreamView.unstamped).find? fun _ view => view.isDefault) =
      (views.find? fun _ view => view.isDefault).map fun entry => (entry.1, entry.2.unstamped) :=
    Table.find?_map views fun _ _ => rfl
  have named : ((views.map StreamView.unstamped).find? fun _ view => view.name == "All Streams") =
      (views.find? fun _ view => view.name == "All Streams").map
        fun entry => (entry.1, entry.2.unstamped) := Table.find?_map views fun _ _ => rfl
  unfold defaultViewCandidate
  rw [flagged, named]
  cases views.find? fun _ view => view.isDefault with
  | none => cases views.find? fun _ view => view.name == "All Streams" <;> rfl
  | some entry => rfl

/-- The default view is ensured whatever the stamps. -/
theorem ensureDefaultViewOn_unstamped (db : Finance) :
    ensureDefaultViewOn "" db.unstamped =
      ((ensureDefaultViewOn now db).1, (ensureDefaultViewOn now db).2.unstamped) := by
  unfold ensureDefaultViewOn
  have views : db.unstamped.views = db.views.map StreamView.unstamped := rfl
  rw [views, defaultViewCandidate_unstamped]
  cases defaultViewCandidate db.views with
  -- A new view differs in its times only.
  | none =>
    have inserted := Table.map_insert StreamView.unstamped db.views (allStreamsView now)
    simp only [Finance.unstamped, inserted]
    rfl
  -- Both updates set fields that are no times.
  | some id =>
    have cleared : (db.views.updateWhere (fun stored view => view.isDefault && stored != id)
          fun view => { view with isDefault := false }).map StreamView.unstamped =
        (db.views.map StreamView.unstamped).updateWhere
          (fun stored view => view.isDefault && stored != id)
          fun view => { view with isDefault := false } :=
      Table.map_updateWhere db.views (fun _ _ => rfl) fun _ => rfl
    have updated : ∀ table : Table StreamView,
        (table.updateWhere (fun stored _ => stored == id) fun _ => allStreamsView now).map
            StreamView.unstamped =
          (table.map StreamView.unstamped).updateWhere (fun stored _ => stored == id)
            fun _ => allStreamsView "" :=
      fun table => Table.map_updateWhere table (fun _ _ => rfl) fun _ => rfl
    simp only [Finance.unstamped, updated, cleared]

/-- Active streams are shown whatever the stamps. -/
theorem showActiveStreams_unstamped (viewId : ℕ) (db : Finance) :
    showActiveStreams viewId db.unstamped = (showActiveStreams viewId db).unstamped := by
  -- The active streams are the same, with or without their times.
  have active : ((db.unstamped.streams.rows.filter (·.2.isActive)).map
      fun entry => (viewId, entry.1)) = (db.streams.rows.filter (·.2.isActive)).map
        fun entry => (viewId, entry.1) := by
    simp only [Finance.unstamped, Table.map, List.filter_map, List.map_map]
    rfl
  simp only [showActiveStreams, active]
  rfl

/-- The defaults are installed whatever the stamps. -/
theorem seedDefaults_unstamped (today : IsoDate) (db : Finance) :
    seedDefaults "" today db.unstamped =
      ((seedDefaults now today db).1, (seedDefaults now today db).2.unstamped) := by
  simp only [seedDefaults, ensurePrimaryAccountOn_unstamped now, ensureSeedStreams_unstamped now,
    ensureSeedSchedules_unstamped now, ensureDefaultViewOn_unstamped now,
    showActiveStreams_unstamped]

/-- Active streams are found whatever the stamps. -/
theorem requireActiveStream_unstamped (db : Finance) (streamId : ℕ) :
    requireActiveStream db.unstamped streamId = requireActiveStream db streamId := by
  unfold requireActiveStream
  have row : db.unstamped.streams.get? streamId =
      (db.streams.get? streamId).map Stream.unstamped := Table.get?_map _ _ _
  rw [row]
  cases db.streams.get? streamId with
  | none => rfl
  -- The check looks at the flag, and answers with the name.
  | some stream =>
    have active : stream.unstamped.isActive = stream.isActive := rfl
    have name : stream.unstamped.name = stream.name := rfl
    cases kept : stream.isActive <;> simp [Option.filter, active, name, kept, required]

/-- Streams are refreshed whatever the stamps. -/
theorem refreshStreams_unstamped (window : ProjectionWindow) (streamIds : List ℕ) (db : Finance) :
    (refreshStreams now window streamIds db).map Finance.unstamped =
      refreshStreams "" window streamIds db.unstamped := by
  -- The first refresh fails in both runs or in none; the others follow.
  induction streamIds generalizing db with
  | nil => rfl
  | cons streamId rest ih =>
    simp only [refreshStreams, refreshStreamScheduleEvents, requireActiveStream_unstamped]
    cases requireActiveStream db streamId with
    | error error => rfl
    | ok name =>
      simp only [Bind.bind, Except.bind]
      rw [← refreshStreamScheduleEventsOn_unstamped]
      cases refreshStreamScheduleEventsOn now streamId name window db with
      | error error => rfl
      | ok result => exact ih result.2

/-- The bootstrap runs whatever the stamps. -/
theorem bootstrapDefaults_unstamped (today : IsoDate) (db : Finance) :
    unstampedResult (bootstrapDefaults now today db) = bootstrapDefaults "" today db.unstamped := by
  rw [bootstrapDefaults_eq, bootstrapDefaults_eq, seedDefaults_unstamped now]
  simp only [← refreshStreams_unstamped now]
  -- The dates of the window are checked first, and are the same in both runs.
  cases checkDate today.firstOfMonth with
  | error error => rfl
  | ok done =>
    simp only [Bind.bind, Except.bind]
    cases (today.addDays 365).mapError FinanceError.date with
    | error error => rfl
    | ok through =>
      simp only []
      cases required (ProjectionWindow.new today through)
        (FinanceError.storage "projection window ends before it starts") with
      | error error => rfl
      | ok window =>
        simp only []
        generalize seedDefaults now today db = seeded
        cases refreshStreams now window seeded.1.streamIds seeded.2 <;> rfl

end

/-! ### A bootstrap at the same time -/

section

variable {now : String}

/-- The primary account that was ensured is found. -/
theorem ensurePrimaryAccountOn_again {db other : Finance}
    (same : other.accounts = (ensurePrimaryAccountOn now db).2.accounts) :
    ensurePrimaryAccountOn now other = ((ensurePrimaryAccountOn now db).1, other) := by
  have found : ∃ account, other.accounts.find?
      (fun _ account => account.isPrimary && account.isActive) =
        some ((ensurePrimaryAccountOn now db).1, account) := by
    rw [same]
    unfold ensurePrimaryAccountOn
    cases found : db.accounts.find? fun _ account => account.isPrimary && account.isActive with
    | some entry => exact ⟨entry.2, found⟩
    | none =>
      -- The new account is the only one.
      refine ⟨primaryCashAccount now, Table.find?_eq_some_of_least
        (Table.mem_insert.mpr (Or.inr rfl)) rfl fun id account there primary => ?_⟩
      rcases Table.mem_insert.mp there with was | new
      · rw [Table.find?_none found was] at primary
        cases primary
      · exact Nat.le_of_eq (congrArg Prod.fst new).symm
  obtain ⟨account, found⟩ := found
  generalize (ensurePrimaryAccountOn now db).1 = id at found
  rw [ensurePrimaryAccountOn, found]

/-- Streams are seeded under distinct names, so their seeds settle. -/
theorem streamSeed_settling (accountId : ℕ) :
    Settling (fun _ => True) (fun seed other : StreamSeed => seed.name ≠ other.name)
      (fun seed table => (.ok (seed.upsert now accountId table) :
        FinanceResult (ℕ × Table Stream)))
      (fun seed id table => ∃ row, table.find? (fun _ stream => stream.name == seed.name) =
        some (id, row) ∧ seed.reset now accountId row = row) := by
  -- A seed's own row has its name, and no other seed's row does.
  refine settling_upsert (fun seed => ?_) (fun seed row _ => ?_) (fun _ => rfl) (fun _ _ => rfl)
    fun seed other away => ⟨?_, fun row named => ⟨?_, ?_⟩⟩
  · exact beq_self_eq_true seed.name
  · exact beq_self_eq_true seed.name
  · exact beq_false_of_ne away.symm
  · rw [beq_iff_eq.mp named]
    exact beq_false_of_ne away.symm
  · exact beq_false_of_ne away.symm

/-- Schedules are seeded for distinct streams, so their seeds settle. -/
theorem monthlySeed_settling (startDate : IsoDate) (accountId : ℕ) :
    Settling (fun _ => True) (fun seed other : MonthlySeed => seed.streamId ≠ other.streamId)
      (fun seed table => (.ok (seed.upsert now startDate accountId table) :
        FinanceResult (ℕ × Table StreamSchedule)))
      (fun seed id table => ∃ row,
        table.find? (fun _ schedule => schedule.streamId == seed.streamId) = some (id, row) ∧
          seed.reset now startDate accountId row = row) := by
  -- A seed's own row is for its stream, and no other seed's row is.
  refine settling_upsert (fun seed => ?_) (fun seed row onStream => onStream) (fun _ => rfl)
    (fun _ _ => rfl) fun seed other away => ⟨?_, fun row onStream => ⟨?_, ?_⟩⟩
  · exact beq_self_eq_true seed.streamId
  · exact beq_false_of_ne away.symm
  · rw [beq_iff_eq.mp onStream]
    exact beq_false_of_ne away.symm
  · exact (congrArg (· == seed.streamId) (beq_iff_eq.mp onStream)).trans
      (beq_false_of_ne away.symm)

/-- The default streams have distinct names. -/
theorem streamSeeds_distinct :
    streamSeeds.Pairwise fun seed other : StreamSeed => seed.name ≠ other.name := by decide

/-- The streams that were seeded are found under their names. -/
theorem ensureSeedStreams_found (now : String) (accountId : ℕ) (db : Finance) :
    List.Forall₂ (fun seed id => ∃ row,
        (id, row) ∈ (ensureSeedStreams now accountId streamSeeds db).2.streams ∧
          row.name = seed.name ∧ row.isActive = true)
      streamSeeds (ensureSeedStreams now accountId streamSeeds db).1 := by
  obtain ⟨streams, ran, same⟩ := ensureSeedStreams_eq_ok now accountId streamSeeds db
  rw [same]
  refine ((streamSeed_settling accountId).runAll_settles streamSeeds_distinct ran trivial).imp ?_
  -- A row that the seed leaves alone has what the seed would set.
  rintro seed id ⟨row, found, fixed⟩
  refine ⟨row, (Table.find?_some found).1, ?_, ?_⟩
  · rw [← fixed]
    rfl
  · rw [← fixed]
    rfl

/-- The streams that were seeded are found. -/
theorem ensureSeedStreams_again {accountId : ℕ} {db other : Finance}
    (same : other.streams = (ensureSeedStreams now accountId streamSeeds db).2.streams) :
    ensureSeedStreams now accountId streamSeeds other =
      ((ensureSeedStreams now accountId streamSeeds db).1, other) := by
  obtain ⟨streams, ran, first⟩ := ensureSeedStreams_eq_ok now accountId streamSeeds db
  obtain ⟨more, again, second⟩ := ensureSeedStreams_eq_ok now accountId streamSeeds other
  -- The seeds have settled, so running them again changes nothing.
  have fixed := (streamSeed_settling accountId).runAll_again streamSeeds_distinct ran trivial
  rw [same, first, fixed] at again
  obtain ⟨ids, rfl⟩ := Prod.mk.inj (Except.ok.inj again)
  have table : other.streams = streams := same.trans (by rw [first])
  refine Prod.ext ids.symm ?_
  rw [second, ← table]

/-- The schedules that were seeded are found. -/
theorem ensureSeedSchedules_again {startDate : IsoDate} {accountId : ℕ} {seeds : List MonthlySeed}
    (distinct : seeds.Pairwise fun seed other => seed.streamId ≠ other.streamId)
    (db : Finance) {other : Finance}
    (same : other.schedules = (ensureSeedSchedules now startDate accountId seeds db).schedules) :
    ensureSeedSchedules now startDate accountId seeds other = other := by
  obtain ⟨ids, schedules, ran, first⟩ := ensureSeedSchedules_eq_ok now accountId startDate seeds db
  obtain ⟨others, more, again, second⟩ := ensureSeedSchedules_eq_ok now accountId startDate seeds
    other
  -- The seeds have settled, so running them again changes nothing.
  have fixed := (monthlySeed_settling startDate accountId).runAll_again distinct ran trivial
  rw [same, first, fixed] at again
  obtain ⟨-, rfl⟩ := Prod.mk.inj (Except.ok.inj again)
  have table : other.schedules = schedules := same.trans (by rw [first])
  rw [second, ← table]

/-- A candidate for the default view is stored. -/
theorem defaultViewCandidate_stored {views : Table StreamView} {id : ℕ}
    (candidate : defaultViewCandidate views = some id) : ∃ view, (id, view) ∈ views := by
  unfold defaultViewCandidate at candidate
  obtain ⟨⟨at_, view⟩, found, rfl⟩ := Option.map_eq_some_iff.mp candidate
  rcases Option.or_eq_some_iff.mp found with flagged | ⟨-, named⟩
  · exact ⟨view, (Table.find?_some flagged).1⟩
  · exact ⟨view, (Table.find?_some named).1⟩

/-- Without a candidate, no view has the flag. -/
theorem defaultViewCandidate_none {views : Table StreamView}
    (candidate : defaultViewCandidate views = none) {id : ℕ} {view : StreamView}
    (there : (id, view) ∈ views) : view.isDefault = false := by
  unfold defaultViewCandidate at candidate
  have missing := (Option.or_eq_none_iff.mp (Option.map_eq_none_iff.mp candidate)).1
  exact Table.find?_none missing there

/-- The default view that was ensured is stored, and no other view has the flag. -/
theorem ensureDefaultViewOn_alone (now : String) (db : Finance) :
    ((ensureDefaultViewOn now db).1, allStreamsView now) ∈ (ensureDefaultViewOn now db).2.views ∧
      ∀ id view, (id, view) ∈ (ensureDefaultViewOn now db).2.views → view.isDefault = true →
        id = (ensureDefaultViewOn now db).1 := by
  unfold ensureDefaultViewOn
  cases candidate : defaultViewCandidate db.views with
  | none =>
    -- The view is new, and none of the others has the flag.
    refine ⟨Table.mem_insert.mpr (Or.inr rfl), fun id view there flagged => ?_⟩
    rcases Table.mem_insert.mp there with was | new
    · rw [defaultViewCandidate_none candidate was] at flagged
      cases flagged
    · exact congrArg Prod.fst new
  | some id =>
    obtain ⟨view, stored⟩ := defaultViewCandidate_stored candidate
    constructor
    · refine Table.mem_updateWhere.mpr ⟨_, Table.mem_updateWhere.mpr ⟨view, stored, rfl⟩, ?_⟩
      simp
    · -- Every other view has lost its flag.
      intro other row there flagged
      obtain ⟨cleared, was, rfl⟩ := Table.mem_updateWhere.mp there
      obtain ⟨before, -, rfl⟩ := Table.mem_updateWhere.mp was
      by_contra different
      have another : (other == id) = false := beq_false_of_ne different
      rw [if_neg (by simp [another])] at flagged
      split at flagged
      · cases flagged
      · rename_i kept
        simp [flagged, different] at kept

/-- The default view that was ensured is found, and left as it is. -/
theorem ensureDefaultViewOn_again {db other : Finance}
    (same : other.views = (ensureDefaultViewOn now db).2.views) :
    ensureDefaultViewOn now other = ((ensureDefaultViewOn now db).1, other) := by
  obtain ⟨stored, alone⟩ := ensureDefaultViewOn_alone now db
  rw [← same] at stored alone
  generalize (ensureDefaultViewOn now db).1 = id at stored alone
  -- The one view with the flag is the candidate.
  have candidate : defaultViewCandidate other.views = some id := by
    have found : other.views.find? (fun _ view => view.isDefault) =
        some (id, allStreamsView now) :=
      Table.find?_eq_some_of_least stored rfl fun at_ row there flagged =>
        Nat.le_of_eq (alone at_ row there flagged).symm
    rw [defaultViewCandidate, found]
    rfl
  -- No other view has a flag to lose.
  have cleared : other.views.updateWhere (fun stored view => view.isDefault && stored != id)
      (fun view => { view with isDefault := false }) = other.views := by
    refine Table.updateWhere_eq_self fun at_ row there flagged => ?_
    rw [Bool.and_eq_true, bne_iff_ne] at flagged
    exact absurd (alone at_ row there flagged.1) flagged.2
  -- The candidate is what it would become.
  have updated : other.views.updateWhere (fun stored _ => stored == id)
      (fun _ => allStreamsView now) = other.views := by
    refine Table.updateWhere_eq_self fun at_ row there here => ?_
    obtain rfl := beq_iff_eq.mp here
    exact Table.unique stored there
  simp only [ensureDefaultViewOn, candidate, cleared, updated]

/-- The active streams that are shown already are not shown twice. -/
theorem showActiveStreams_again {viewId : ℕ} (db : Finance) {other : Finance}
    (streams : other.streams = db.streams)
    (shown : other.viewStreams = (showActiveStreams viewId db).viewStreams) :
    showActiveStreams viewId other = other := by
  -- The active streams are members already.
  have all : other.viewStreams ∪ ((other.streams.rows.filter (·.2.isActive)).map
      fun entry => (viewId, entry.1)).toFinset = other.viewStreams := by
    rw [shown, streams]
    exact Finset.union_eq_left.mpr Finset.subset_union_right
  simp only [showActiveStreams, all]

/-- The seeded monthly schedules are for distinct streams. -/
theorem monthlySeeds_distinct {streamIds : List ℕ} (all : streamIds.length = 6)
    (distinct : streamIds.Nodup) : (monthlySeeds streamIds).Pairwise
      fun seed other => seed.streamId ≠ other.streamId := by
  -- Three seeds take the ids at three different places.
  have apart : ∀ left right, left < 6 → right < 6 → left ≠ right →
      streamIds.getD left 0 ≠ streamIds.getD right 0 := by
    intro left right leftBelow rightBelow different same
    exact different ((List.getD_inj (all ▸ leftBelow) (all ▸ rightBelow) distinct).mp same)
  simp only [monthlySeeds, scheduleSeeds, List.map_cons, List.map_nil, List.pairwise_cons,
    List.mem_cons, List.not_mem_nil, or_false, forall_eq_or_imp, forall_eq, List.Pairwise.nil,
    false_imp_iff, implies_true, and_true]
  exact ⟨⟨apart 3 4 (by decide) (by decide) (by decide),
    apart 3 5 (by decide) (by decide) (by decide)⟩, apart 4 5 (by decide) (by decide) (by decide)⟩

/-- Streams of distinct names have distinct ids. -/
theorem forall₂_nodup {streams : Table Stream} {seeds : List StreamSeed} {ids : List ℕ}
    (distinct : seeds.Pairwise fun seed other => seed.name ≠ other.name)
    (found : List.Forall₂ (fun seed id => ∃ row, (id, row) ∈ streams ∧ row.name = seed.name ∧
      row.isActive = true) seeds ids) : ids.Nodup := by
  induction found with
  | nil => exact List.nodup_nil
  | cons first rest ih =>
    rename_i seed id seeds ids
    obtain ⟨away, distinct⟩ := List.pairwise_cons.mp distinct
    refine List.nodup_cons.mpr ⟨fun member => ?_, ih distinct⟩
    -- The id would be that of a later seed, and its stream has one name.
    obtain ⟨row, stored, named, -⟩ := first
    obtain ⟨index, below, rfl⟩ := List.getElem_of_mem member
    obtain ⟨other, there, otherName, -⟩ := rest.get (by rw [rest.length_eq]; exact below) below
    rw [Table.unique there stored, named] at otherName
    exact away _ (List.get_mem _ _) otherName

/-- The defaults that were installed are found and left as they are, whatever the events. -/
theorem seedDefaults_again {today : IsoDate} {db other : Finance}
    (same : other = { (seedDefaults now today db).2 with events := other.events }) :
    seedDefaults now today other = ((seedDefaults now today db).1, other) := by
  -- Every step finds the table that it has left.
  have primary : ∀ other : Finance, other.accounts = (ensurePrimaryAccountOn now db).2.accounts →
      ensurePrimaryAccountOn now other = ((ensurePrimaryAccountOn now db).1, other) :=
    fun _ => ensurePrimaryAccountOn_again
  generalize isFirst : ensurePrimaryAccountOn now db = first at primary
  have streams : ∀ other : Finance,
      other.streams = (ensureSeedStreams now first.1 streamSeeds first.2).2.streams →
      ensureSeedStreams now first.1 streamSeeds other =
        ((ensureSeedStreams now first.1 streamSeeds first.2).1, other) :=
    fun _ => ensureSeedStreams_again
  have found := ensureSeedStreams_found now first.1 first.2
  generalize isSecond : ensureSeedStreams now first.1 streamSeeds first.2 = second at streams found
  have distinct := monthlySeeds_distinct found.length_eq.symm
    (forall₂_nodup streamSeeds_distinct found)
  have schedules : ∀ other : Finance, other.schedules = (ensureSeedSchedules now
      today.firstOfMonth first.1 (monthlySeeds second.1) second.2).schedules →
      ensureSeedSchedules now today.firstOfMonth first.1 (monthlySeeds second.1) other = other :=
    fun _ => ensureSeedSchedules_again distinct second.2
  generalize isThird : ensureSeedSchedules now today.firstOfMonth first.1 (monthlySeeds second.1)
    second.2 = third at schedules
  have views : ∀ other : Finance, other.views = (ensureDefaultViewOn now third).2.views →
      ensureDefaultViewOn now other = ((ensureDefaultViewOn now third).1, other) :=
    fun _ => ensureDefaultViewOn_again
  generalize isFourth : ensureDefaultViewOn now third = fourth at views
  rw [seedDefaults_eq isFirst isSecond isThird isFourth] at same ⊢
  have shown : showActiveStreams fourth.1 other = other :=
    showActiveStreams_again { db with streams := second.2.streams } (by rw [same]) (by rw [same])
  simp only [seedDefaults, primary other (by rw [same]), streams other (by rw [same]),
    schedules other (by rw [same]), views other (by rw [same]), shown]

/-- The seeded streams are distinct. -/
theorem seedDefaults_nodup (today : IsoDate) (db : Finance) :
    (seedDefaults now today db).1.streamIds.Nodup := by
  have found := ensureSeedStreams_found now (ensurePrimaryAccountOn now db).1
    (ensurePrimaryAccountOn now db).2
  simp only [seedDefaults]
  exact forall₂_nodup streamSeeds_distinct found

/-- The defaults are installed without touching an event. -/
theorem seedDefaults_events (today : IsoDate) (db : Finance) :
    (seedDefaults now today db).2.events = db.events := by
  rw [seedDefaults_eq rfl rfl rfl rfl]

/-- Refreshes of distinct streams settle. -/
theorem refresh_settling (now : String) (window : ProjectionWindow) :
    Settling (fun db : Finance => UniqueKey StreamEvent.key db.events) (· ≠ ·)
      (fun streamId db => refreshStreamScheduleEvents now streamId window db)
      (fun streamId count db => ∃ stream, (streamId, stream) ∈ db.streams ∧
        stream.isActive = true ∧ IsRefreshed now streamId stream.name window count db) where
  -- After its refresh a stream's events are what a refresh makes of them.
  settles streamId db count after keys done := by
    obtain ⟨stream, stored, active, done⟩ := refreshStreamScheduleEvents_eq_ok.mp done
    have refreshed := refreshStreamScheduleEventsOn_refreshed keys done
    have frame : after = _ := refreshed.frame
    have streams : after.streams = db.streams := by rw [frame]
    exact ⟨refreshed.unique, stream, streams ▸ stored, active,
      refreshStreamScheduleEventsOn_isRefreshed keys done⟩
  -- Refreshing one stream leaves the events of another alone.
  keeps streamId otherId db count otherCount after keys away settled done := by
    obtain ⟨stream, stored, active, settled⟩ := settled
    obtain ⟨other, -, -, done⟩ := refreshStreamScheduleEvents_eq_ok.mp done
    have refreshed := refreshStreamScheduleEventsOn_refreshed keys done
    have frame : after = _ := refreshed.frame
    have streams : after.streams = db.streams := by rw [frame]
    exact ⟨stream, streams ▸ stored, active, settled.keeps away refreshed⟩
  again streamId db count keys settled := by
    obtain ⟨stream, stored, active, settled⟩ := settled
    exact refreshStreamScheduleEvents_eq_ok.mpr ⟨stream, stored, active, settled.again keys⟩

/-- Refreshing streams runs their refreshes. -/
theorem refreshStreams_eq (window : ProjectionWindow) (streamIds : List ℕ) (db : Finance) :
    refreshStreams now window streamIds db =
      (runAll (fun streamId db => refreshStreamScheduleEvents now streamId window db) streamIds
        db).map Prod.snd := by
  -- The two recursions differ only in the counts that one of them collects.
  induction streamIds generalizing db with
  | nil => rfl
  | cons streamId rest ih =>
    simp only [refreshStreams, runAll, ih]
    cases refreshStreamScheduleEvents now streamId window db with
    | error error => rfl
    | ok result =>
      simp only [Bind.bind, Except.bind]
      cases runAll (fun streamId db => refreshStreamScheduleEvents now streamId window db) rest
        result.2 <;> rfl

/-- Distinct streams that were refreshed are left as they are by a refresh at the same time. -/
theorem refreshStreams_again {window : ProjectionWindow} {streamIds : List ℕ} {db after : Finance}
    (distinct : streamIds.Nodup) (keys : UniqueKey StreamEvent.key db.events)
    (done : refreshStreams now window streamIds db = .ok after) :
    refreshStreams now window streamIds after = .ok after := by
  rw [refreshStreams_eq] at done ⊢
  obtain ⟨⟨counts, after⟩, ran, rfl⟩ := map_eq_ok.mp done
  rw [(refresh_settling now window).runAll_again distinct ran keys]
  rfl

/-- A bootstrap at the same time returns the same ids and changes nothing. -/
theorem bootstrapDefaults_again {today : IsoDate} {db first : Finance} {result : BootstrapResult}
    (keys : UniqueKey StreamEvent.key db.events)
    (done : bootstrapDefaults now today db = .ok (result, first)) :
    bootstrapDefaults now today first = .ok (result, first) := by
  simp only [bootstrapDefaults_eq, bind_eq_ok, pure_eq_ok, Prod.mk.injEq] at done
  obtain ⟨_, checked, through, ends, window, opened, after, refreshed, rfl, rfl⟩ := done
  -- The defaults are found again, so the refreshes start where they ended.
  have same : seedDefaults now today after = ((seedDefaults now today db).1, after) :=
    seedDefaults_again (refreshStreams_writes _ refreshed).2
  simp only [bootstrapDefaults_eq, bind_eq_ok, pure_eq_ok, Prod.mk.injEq, same]
  have keysAfter : UniqueKey StreamEvent.key (seedDefaults now today db).2.events := by
    rw [seedDefaults_events]
    exact keys
  have again := refreshStreams_again (seedDefaults_nodup today db) keysAfter refreshed
  exact ⟨_, checked, through, ends, window, opened, after, again, trivial, rfl⟩

end

/-- A result with an error stays one without the stamps. -/
theorem unstampedResult_eq_error {α : Type} {result : FinanceResult (α × Finance)}
    {error : FinanceError} : unstampedResult result = .error error ↔ result = .error error := by
  cases result <;> simp [unstampedResult, Except.map]

/-- A bootstrap of tables with unique keys can be repeated, and fails again if it fails. -/
theorem bootstrapDefaults_repeated {db : Finance} (keys : UniqueKey StreamEvent.key db.events)
    (now again : String) (today : IsoDate) :
    (∀ result first, bootstrapDefaults now today db = .ok (result, first) →
      ∃ second, bootstrapDefaults again today first = .ok (result, second) ∧
        second.unstamped = first.unstamped) ∧
    ∀ error, bootstrapDefaults now today db = .error error →
      bootstrapDefaults again today db = .error error := by
  constructor
  · intro result first done
    -- At the same time nothing changes, and the time only matters for the stamps.
    have fixed := bootstrapDefaults_again keys done
    refine unstampedResult_eq_ok.mp ?_
    rw [bootstrapDefaults_unstamped, ← bootstrapDefaults_unstamped now, fixed]
    rfl
  · intro error failed
    refine unstampedResult_eq_error.mp ?_
    rw [bootstrapDefaults_unstamped, ← bootstrapDefaults_unstamped now, failed]
    rfl

/--
A second bootstrap of the same date returns the same ids, and leaves every table as the first one
has left it, but for the times of the last updates; and a bootstrap that fails fails again.
-/
theorem bootstrap_idempotent {platform : Platform} {db : Domain}
    (reached : (domainSystem platform).Reachable db) (now again : String) (today : IsoDate) :
    (∀ result first, bootstrapDefaults now today db.finance = .ok (result, first) →
      ∃ second, bootstrapDefaults again today first = .ok (result, second) ∧
        second.unstamped = first.unstamped) ∧
    ∀ error, bootstrapDefaults now today db.finance = .error error →
      bootstrapDefaults again today db.finance = .error error :=
  bootstrapDefaults_repeated (reachable_consistent reached).eventKeys now again today

/-- A bootstrap after the user's decisions can be repeated. -/
theorem bootstrap_idempotent_decided :
    ∃ result first second,
      bootstrapDefaults "2026-01-06T00:00:00Z" twoWeeks.from_ decidedDomain.finance =
        .ok (result, first) ∧
      bootstrapDefaults "2026-01-07T00:00:00Z" twoWeeks.from_ first = .ok (result, second) ∧
      second.unstamped = first.unstamped := by
  have installs : (bootstrapDefaults "2026-01-06T00:00:00Z" twoWeeks.from_
      decidedDomain.finance).toOption.isSome = true := by decide +kernel
  obtain ⟨⟨result, first⟩, done⟩ := Option.isSome_iff_exists.mp installs
  have done := toOption_eq_some.mp done
  obtain ⟨second, repeated, same⟩ := (bootstrap_idempotent decidedDomain_reachable
    "2026-01-06T00:00:00Z" "2026-01-07T00:00:00Z" twoWeeks.from_).1 result first done
  exact ⟨result, first, second, done, repeated, same⟩

end FinStream
