import FinStream.Store.Assertion
import Mathlib.Logic.Function.Basic
import Mathlib.Data.Option.Basic
import Mathlib.Algebra.Ring.Nat

/-!
Files that a program makes beside those of others. A call may be refused, the program may die at
any call, and strangers may put files at names that are free.
-/

namespace Store

/-- Who made a file. -/
inductive Maker where
  | program
  | stranger
  deriving DecidableEq

/-- A file, with its permission bits. -/
structure File where
  maker : Maker
  bytes : List UInt8
  mode : ℕ
  deriving DecidableEq

/-- Where a file is: under a name, or apart under a number that nobody else chooses. -/
inductive Place (Location : Type) where
  | named (location : Location)
  | temporary (number : ℕ)
  deriving DecidableEq

/-- The files by their places. -/
abbrev Files (Location : Type) := Place Location → Option File

/-- How a call ends. -/
inductive Fate (ε : Type) where
  | done
  | refused (error : ε)
  | died (error : ε)

/-- What one call meets. -/
structure Moment (Location ε : Type) where
  /-- The files that strangers put before the call, with their bytes and modes. -/
  arrivals : List (Location × List UInt8 × ℕ)
  /-- The number that a temporary file would get. -/
  number : ℕ
  /-- What a write leaves behind that does not finish. -/
  torn : List UInt8
  fate : Fate ε

/-- The files, what the calls to come will meet, and what has become of the program. -/
structure Disk (Location ε : Type) where
  files : Files Location
  moments : ℕ → Moment Location ε
  /-- What strangers have put since the program started. -/
  landed : List (Location × List UInt8 × ℕ)
  /-- The places where the program failed to remove a file. -/
  unremoved : List (Place Location)
  /-- The last thing a dead program met. -/
  halted : Option ε

namespace Disk

variable {Location ε α : Type}

section Calls

variable [DecidableEq Location]

/-- Puts a file of a stranger where none is. -/
def arrive (disk : Disk Location ε) (arrival : Location × List UInt8 × ℕ) : Disk Location ε :=
  match disk.files (.named arrival.1) with
  | some _ => disk
  | none =>
    { disk with
      files := Function.update disk.files (.named arrival.1)
        (some ⟨.stranger, arrival.2.1, arrival.2.2⟩)
      landed := arrival :: disk.landed }

/-- A call of the program: what it does to the files, and what it leaves of them when it fails. -/
def call (effect : Moment Location ε → Files Location → Except ε α × Files Location)
    (torn : Moment Location ε → Files Location → Files Location) :
    Effect (Disk Location ε) ε α := fun disk =>
  match disk.halted with
  | some error => (.error error, disk)
  | none =>
    let moment := disk.moments 0
    let disk := moment.arrivals.foldl arrive
      { disk with moments := fun later => disk.moments (later + 1) }
    match moment.fate with
    | .done => ((effect moment disk.files).1, { disk with files := (effect moment disk.files).2 })
    | .refused error => (.error error, { disk with files := torn moment disk.files })
    | .died error =>
      (.error error, { disk with files := torn moment disk.files, halted := some error })

/-- Makes an empty temporary file that nobody else may read. -/
def createTemporary (taken : ε) : Effect (Disk Location ε) ε ℕ :=
  call (fun moment files => match files (.temporary moment.number) with
    | some _ => (.error taken, files)
    | none => (.ok moment.number,
        Function.update files (.temporary moment.number) (some ⟨.program, [], 0o600⟩)))
    fun _ files => files

/-- Changes a file, or leaves something else of it. -/
def edit (place : Place Location) (change : File → File) (torn : Moment Location ε → File → File)
    (missing : ε) : Effect (Disk Location ε) ε Unit :=
  call (fun _ files => match files place with
    | some file => (.ok ⟨⟩, Function.update files place (some (change file)))
    | none => (.error missing, files))
    fun moment files => match files place with
    | some file => Function.update files place (some (torn moment file))
    | none => files

/-- Writes at the end of a file. -/
def append (place : Place Location) (bytes : List UInt8) (missing : ε) :
    Effect (Disk Location ε) ε Unit :=
  edit place (fun file => { file with bytes := file.bytes ++ bytes })
    (fun moment file => { file with bytes := moment.torn }) missing

/-- Sets the permission bits of a file. -/
def setMode (place : Place Location) (mode : ℕ) (missing : ε) : Effect (Disk Location ε) ε Unit :=
  edit place (fun file => { file with mode }) (fun _ file => file) missing

/-- Looks at a file. -/
def inspect (place : Place Location) (view : File → α) (missing : ε) :
    Effect (Disk Location ε) ε α :=
  call (fun _ files => match files place with
    | some file => (.ok (view file), files)
    | none => (.error missing, files))
    fun _ files => files

/-- Waits until what was written is on the disk. -/
def settle : Effect (Disk Location ε) ε Unit :=
  call (fun _ files => (.ok ⟨⟩, files)) fun _ files => files

/-- Whether a file is there, as far as can be seen. -/
def isThere (place : Place Location) : Effect (Disk Location ε) ε Bool := do
  match ← (call (fun _ files => (.ok (files place).isSome, files)) fun _ files => files).attempt with
  | .ok there => pure there
  | .error _ => pure false

/-- Gives a temporary file a name that is free. -/
def link (number : ℕ) (location : Location) (taken missing : ε) :
    Effect (Disk Location ε) ε Unit :=
  call (fun _ files => match files (.named location) with
    | some _ => (.error taken, files)
    | none => match files (.temporary number) with
      | some file => (.ok ⟨⟩, Function.update files (.named location) (some file))
      | none => (.error missing, files))
    fun _ files => files

/-- Takes a file away. -/
def detach (place : Place Location) (missing : ε) : Effect (Disk Location ε) ε Unit :=
  call (fun _ files => match files place with
    | some _ => (.ok ⟨⟩, Function.update files place none)
    | none => (.error missing, files))
    fun _ files => files

/-- Notes that a file could not be taken away. -/
def noted (place : Place Location) (disk : Disk Location ε) : Disk Location ε :=
  if (disk.files place).isSome then { disk with unremoved := place :: disk.unremoved } else disk

/-- Removes a file. -/
def remove (place : Place Location) (missing : ε) : Effect (Disk Location ε) ε Unit := fun disk =>
  match detach place missing disk with
  | (.ok done, after) => (.ok done, after)
  | (.error error, after) => (.error error, after.noted place)

end Calls

/-! ### What stays while strangers come -/

/-- A file of a stranger that was there at the start or came since. -/
def Foreign (start disk : Disk Location ε) (location : Location) (file : File) : Prop :=
  (start.files (.named location) = some file ∧ file.maker = .stranger) ∨
    ∃ bytes mode, (location, bytes, mode) ∈ disk.landed ∧ file = ⟨.stranger, bytes, mode⟩

/-- A foreign file was made by a stranger. -/
theorem Foreign.stranger {start disk : Disk Location ε} {location : Location} {file : File}
    (foreign : Foreign start disk location file) : file.maker = .stranger := by
  rcases foreign with ⟨-, stranger⟩ | ⟨bytes, mode, -, rfl⟩
  · exact stranger
  · rfl

/-- What the program knows of a place. -/
inductive Fact (Location : Type) where
  /-- A file is there. -/
  | holds (place : Place Location) (file : File)
  /-- No file of the program is there, unless the program died or could not remove it. -/
  | gone (place : Place Location)

/-- The place a fact is about. -/
def Fact.place : Fact Location → Place Location
  | .holds place _ => place
  | .gone place => place

/-- A fact is true of the disk. -/
def Fact.At (disk : Disk Location ε) : Fact Location → Prop
  | .holds place file => disk.files place = some file
  | .gone place => (∀ file, disk.files place = some file → file.maker = .stranger) ∨
      disk.halted.isSome ∨ place ∈ disk.unremoved

/--
Under names the program only has files that are allowed, what strangers put is where they put it
except where it is at risk, and the facts are true.
-/
structure Standing (start : Disk Location ε) (risk : Location → Prop)
    (allowed : Location → File → Prop) (facts : List (Fact Location)) (disk : Disk Location ε) :
    Prop where
  own : ∀ location file, disk.files (.named location) = some file → file.maker = .program →
    allowed location file
  kept : ∀ location file, Foreign start disk location file → ¬risk location →
    disk.files (.named location) = some file
  facts : ∀ fact ∈ facts, fact.At disk

variable {start disk : Disk Location ε} {risk : Location → Prop} {allowed : Location → File → Prop}
  {facts later : List (Fact Location)}

/-- Fewer facts stand as well. -/
theorem Standing.forget (standing : Standing start risk allowed facts disk)
    (fewer : ∀ fact ∈ later, fact ∈ facts) : Standing start risk allowed later disk :=
  ⟨standing.own, standing.kept, fun fact listed => standing.facts fact (fewer fact listed)⟩

/-- One fact less stands as well. -/
theorem Standing.drop {fact : Fact Location}
    (standing : Standing start risk allowed (fact :: facts) disk) :
    Standing start risk allowed facts disk :=
  standing.forget fun _ listed => List.mem_cons_of_mem _ listed

/-- What stands, stands when the program dies. -/
theorem Standing.halt (standing : Standing start risk allowed facts disk) (error : ε) :
    Standing start risk allowed facts { disk with halted := some error } := by
  refine ⟨standing.own, standing.kept, fun fact listed => ?_⟩
  have holds := standing.facts fact listed
  cases fact with
  | holds place file => exact holds
  | gone place => exact Or.inr (Or.inl rfl)

/-- What stands, stands after a failure is noted. -/
theorem Standing.noted (standing : Standing start risk allowed facts disk)
    (place : Place Location) : Standing start risk allowed facts (disk.noted place) := by
  unfold Disk.noted
  split
  · refine ⟨standing.own, standing.kept, fun fact listed => ?_⟩
    have holds := standing.facts fact listed
    cases fact with
    | holds other file => exact holds
    | gone other => exact holds.imp_right fun excused => excused.imp_right (List.mem_cons_of_mem _)
  · exact standing

section Standing

variable [DecidableEq Location]

/-- A change at one place, to a file that may be there and from one that may go. -/
theorem Standing.update (standing : Standing start risk allowed facts disk)
    (later : List (Fact Location)) (place : Place Location) (value : Option File)
    (own : ∀ location file, place = .named location → value = some file →
      file.maker = .program → allowed location file)
    (safe : ∀ location, place = .named location →
      risk location ∨ ∀ file, disk.files place = some file → file.maker = .program)
    (known : ∀ fact ∈ later, (fact ∈ facts ∧ fact.place ≠ place) ∨
      fact.At { disk with files := Function.update disk.files place value }) :
    Standing start risk allowed later
      { disk with files := Function.update disk.files place value } := by
  refine ⟨fun location file there maker => ?_, fun location file foreign spared => ?_,
    fun fact listed => ?_⟩
  · by_cases here : .named location = place
    · subst here
      simp only [Function.update_self] at there
      exact own location file rfl there maker
    · simp only [Function.update_of_ne here] at there
      exact standing.own location file there maker
  · have before := standing.kept location file foreign spared
    by_cases here : .named location = place
    · -- What is changed is not a file of a stranger.
      subst here
      rcases safe location rfl with risky | program
      · exact absurd risky spared
      · have maker := program file before
        rw [foreign.stranger] at maker
        cases maker
    · simp only [Function.update_of_ne here]
      exact before
  · rcases known fact listed with ⟨before, elsewhere⟩ | now
    · have same : Function.update disk.files place value fact.place = disk.files fact.place :=
        Function.update_of_ne elsewhere ..
      have holds := standing.facts fact before
      cases fact with
      | holds other file => exact same.trans holds
      | gone other => exact holds.imp_left fun absent file there => absent file (same.symm.trans there)
    · exact now

/-- What stands, stands after strangers put a file. -/
theorem Standing.arrive (standing : Standing start risk allowed facts disk)
    (arrival : Location × List UInt8 × ℕ) :
    Standing start risk allowed facts (disk.arrive arrival) := by
  cases free : disk.files (.named arrival.1) with
  | some occupant =>
    have same : disk.arrive arrival = disk := by rw [Disk.arrive, free]
    rwa [same]
  | none =>
    have same : disk.arrive arrival = { disk with
        files := Function.update disk.files (.named arrival.1)
          (some ⟨.stranger, arrival.2.1, arrival.2.2⟩)
        landed := arrival :: disk.landed } := by rw [Disk.arrive, free]
    -- No file is replaced, and the one that comes is not the program's.
    have placed := standing.update facts (.named arrival.1)
      (some ⟨.stranger, arrival.2.1, arrival.2.2⟩)
      (fun location file _ put maker => by
        obtain rfl := Option.some.inj put
        cases maker)
      (fun location here => Or.inr fun file there => by
        rw [free] at there
        cases there)
      (fun fact listed => ?_)
    · rw [same]
      refine ⟨placed.own, fun location file foreign spared => ?_, placed.facts⟩
      rcases foreign with before | ⟨bytes, mode, listed, rfl⟩
      · exact placed.kept location file (Or.inl before) spared
      · rcases List.mem_cons.mp listed with rfl | earlier
        · exact Function.update_self ..
        · exact placed.kept location _ (Or.inr ⟨bytes, mode, earlier, rfl⟩) spared
    · by_cases here : fact.place = .named arrival.1
      · refine Or.inr ?_
        have holds := standing.facts fact listed
        cases fact with
        | holds place file =>
          obtain rfl : place = .named arrival.1 := here
          rw [Fact.At, free] at holds
          cases holds
        | gone place =>
          obtain rfl : place = .named arrival.1 := here
          refine holds.imp_left fun _ file there => ?_
          simp only [Function.update_self, Option.some.injEq] at there
          rw [← there]
      · exact Or.inl ⟨listed, here⟩

/-- What stands, stands while a call waits for its turn. -/
theorem Standing.next (standing : Standing start risk allowed facts disk)
    (arrivals : List (Location × List UInt8 × ℕ)) (moments : ℕ → Moment Location ε) :
    Standing start risk allowed facts (arrivals.foldl Disk.arrive { disk with moments }) := by
  have shifted : Standing start risk allowed facts { disk with moments } :=
    ⟨standing.own, standing.kept, standing.facts⟩
  generalize { disk with moments } = state at shifted
  induction arrivals generalizing state with
  | nil => exact shifted
  | cons arrival rest ih => exact ih _ (shifted.arrive arrival)

/-- A call takes what stands to what its effect makes of it, or to what is left. -/
theorem call_ensures {effect : Moment Location ε → Files Location → Except ε α × Files Location}
    {torn : Moment Location ε → Files Location → Files Location}
    {post : α → Disk Location ε → Prop} {left : List (Fact Location)}
    (fewer : ∀ fact ∈ left, fact ∈ facts)
    (done : ∀ moment disk, Standing start risk allowed facts disk →
      Effect.Ends post (fun _ => Standing start risk allowed left)
        ((effect moment disk.files).1, { disk with files := (effect moment disk.files).2 }))
    (failed : ∀ moment disk, Standing start risk allowed facts disk →
      Standing start risk allowed left { disk with files := torn moment disk.files }) :
    Effect.Ensures (Standing start risk allowed facts) (call effect torn) post
      fun _ => Standing start risk allowed left := by
  intro disk standing
  unfold call
  cases alive : disk.halted with
  | some error => exact standing.forget fewer
  | none =>
    have waited := standing.next (disk.moments 0).arrivals fun later => disk.moments (later + 1)
    rw [alive] at waited
    simp only
    split
    · exact done _ _ waited
    · exact failed _ _ waited
    · exact (failed _ _ waited).halt _

/-- Facts about other places are kept by a change at one, and the new one is true. -/
theorem known_cons {known : List (Fact Location)} {place : Place Location} {value : Option File}
    {fact : Fact Location} (apart : ∀ fact ∈ facts, fact ∈ known ∧ fact.place ≠ place)
    (now : fact.At { disk with files := Function.update disk.files place value }) :
    ∀ other ∈ fact :: facts, (other ∈ known ∧ other.place ≠ place) ∨
      other.At { disk with files := Function.update disk.files place value } := by
  intro other listed
  rcases List.mem_cons.mp listed with rfl | before
  · exact Or.inr now
  · exact Or.inl (apart other before)

/-- A temporary file is made at a place of its own. -/
theorem createTemporary_ensures (named : ∀ fact ∈ facts, ∀ number, fact.place ≠ .temporary number)
    (taken : ε) :
    Effect.Ensures (Standing start risk allowed facts) (createTemporary taken)
      (fun number => Standing start risk allowed
        (.holds (.temporary number) ⟨.program, [], 0o600⟩ :: facts))
      fun _ => Standing start risk allowed facts := by
  refine call_ensures (fun fact listed => listed) (fun moment disk standing => ?_)
    fun moment disk standing => standing
  cases free : disk.files (.temporary moment.number) with
  | some occupant => exact standing
  | none =>
    refine standing.update _ _ _ (fun location _ here => ?_) (fun location here => ?_)
      (known_cons (fun fact listed => ⟨listed, named fact listed _⟩) (Function.update_self ..))
    · cases here
    · cases here

/-- A file that the program made is changed, or spoiled. -/
theorem edit_ensures {place : Place Location} {file : File} {change : File → File}
    {torn : Moment Location ε → File → File} {missing : ε}
    (apart : ∀ fact ∈ facts, fact.place ≠ place) (maker : file.maker = .program)
    (changed : ∀ location, place = .named location → allowed location (change file))
    (spoiled : ∀ moment location, place = .named location → allowed location (torn moment file)) :
    Effect.Ensures (Standing start risk allowed (.holds place file :: facts))
      (edit place change torn missing)
      (fun _ => Standing start risk allowed (.holds place (change file) :: facts))
      fun _ => Standing start risk allowed facts := by
  have safe : ∀ disk : Disk Location ε, disk.files place = some file → ∀ location,
      place = .named location → risk location ∨
        ∀ other, disk.files place = some other → other.maker = .program :=
    fun disk there location _ => Or.inr fun other same => by
      rw [there] at same
      rw [← Option.some.inj same, maker]
  refine call_ensures (fun fact listed => List.mem_cons_of_mem _ listed)
    (fun moment disk standing => ?_) fun moment disk standing => ?_
  · have there : disk.files place = some file := standing.facts _ List.mem_cons_self
    simp only [there]
    refine standing.update _ _ _ (fun location other here same _ => ?_) (safe disk there) ?_
    · rw [← Option.some.inj same]
      exact changed location here
    · exact known_cons (fun fact listed => ⟨List.mem_cons_of_mem _ listed, apart fact listed⟩)
        (Function.update_self ..)
  · have there : disk.files place = some file := standing.facts _ List.mem_cons_self
    simp only [there]
    refine standing.update _ _ _ (fun location other here same _ => ?_) (safe disk there) ?_
    · rw [← Option.some.inj same]
      exact spoiled moment location here
    · exact fun fact listed => Or.inl ⟨List.mem_cons_of_mem _ listed, apart fact listed⟩

/-- What is written at the end of a temporary file is there, or the file is spoiled. -/
theorem append_ensures {number : ℕ} {file : File} {bytes : List UInt8} {missing : ε}
    (apart : ∀ fact ∈ facts, fact.place ≠ .temporary number) (maker : file.maker = .program) :
    Effect.Ensures (Standing start risk allowed (.holds (.temporary number) file :: facts))
      (append (.temporary number) bytes missing)
      (fun _ => Standing start risk allowed
        (.holds (.temporary number) { file with bytes := file.bytes ++ bytes } :: facts))
      fun _ => Standing start risk allowed facts := by
  refine edit_ensures apart maker (fun location here => ?_) fun moment location here => ?_
  · cases here
  · cases here

/-- A call that only looks leaves what stands. -/
theorem look_ensures
    {effect : Moment Location ε → Files Location → Except ε α × Files Location}
    (looks : ∀ moment files, (effect moment files).2 = files) :
    Effect.Ensures (Standing start risk allowed facts) (call effect fun _ files => files)
      (fun _ => Standing start risk allowed facts) fun _ => Standing start risk allowed facts := by
  refine call_ensures (fun fact listed => listed) (fun moment disk standing => ?_)
    fun moment disk standing => standing
  rw [looks]
  cases (effect moment disk.files).1 with
  | ok value => exact standing
  | error error => exact standing

/-- Looking whether a file is there leaves what stands. -/
theorem isThere_ensures (place : Place Location) :
    Effect.Ensures (ε := ε) (Standing start risk allowed facts) (isThere place)
      (fun _ => Standing start risk allowed facts) fun _ => Standing start risk allowed facts := by
  refine (look_ensures fun _ _ => rfl).attempt.bind fun seen => ?_
  cases seen with
  | ok there => exact Effect.Ensures.pure fun disk standing => standing
  | error error => exact Effect.Ensures.pure fun disk standing => standing

/-- What is seen of a known file is what there is to see. -/
theorem inspect_ensures {place : Place Location} {file : File} (known : .holds place file ∈ facts)
    {view : File → α} {missing : ε} :
    Effect.Ensures (Standing start risk allowed facts) (inspect place view missing)
      (fun seen disk => seen = view file ∧ Standing start risk allowed facts disk)
      fun _ => Standing start risk allowed facts := by
  refine call_ensures (fun fact listed => listed) (fun moment disk standing => ?_)
    fun moment disk standing => standing
  have there : disk.files place = some file := standing.facts _ known
  simp only [there]
  exact ⟨rfl, standing⟩

/-- Setting the permission bits a file has leaves what stands. -/
theorem setMode_ensures {place : Place Location} {file : File} (known : .holds place file ∈ facts)
    {missing : ε} :
    Effect.Ensures (Standing start risk allowed facts) (setMode place file.mode missing)
      (fun _ => Standing start risk allowed facts) fun _ => Standing start risk allowed facts := by
  have same : ∀ disk : Disk Location ε, disk.files place = some file →
      Function.update disk.files place (some file) = disk.files :=
    fun disk there => there ▸ Function.update_eq_self place disk.files
  unfold setMode edit
  refine call_ensures (fun fact listed => listed) (fun moment disk standing => ?_)
    fun moment disk standing => ?_
  · have there : disk.files place = some file := standing.facts _ known
    simp only [there, same disk there]
    exact standing
  · have there : disk.files place = some file := standing.facts _ known
    simp only [there, same disk there]
    exact standing

/-- A temporary file gets a name that is free, where it is allowed to be. -/
theorem link_ensures {number : ℕ} {location : Location} {file : File} {taken missing : ε}
    (known : .holds (.temporary number) file ∈ facts)
    (others : ∀ fact ∈ later, fact ∈ facts ∧ fact ≠ .gone (.named location))
    (named : allowed location file) :
    Effect.Ensures (Standing start risk allowed facts) (link number location taken missing)
      (fun _ => Standing start risk allowed (.holds (.named location) file :: later))
      fun _ => Standing start risk allowed facts := by
  refine call_ensures (fun fact listed => listed) (fun moment disk standing => ?_)
    fun moment disk standing => standing
  cases free : disk.files (.named location) with
  | some occupant => exact standing
  | none =>
    have there : disk.files (.temporary number) = some file := standing.facts _ known
    -- No file was known where none is.
    have apart : ∀ fact ∈ later, fact ∈ facts ∧ fact.place ≠ .named location := by
      intro fact listed
      refine ⟨(others fact listed).1, fun here => ?_⟩
      cases fact with
      | holds place other =>
        obtain rfl : place = .named location := here
        have occupied := standing.facts _ (others _ listed).1
        rw [Fact.At, free] at occupied
        cases occupied
      | gone place =>
        obtain rfl : place = .named location := here
        exact (others _ listed).2 rfl
    simp only [there]
    refine standing.update _ _ _ (fun other put here same _ => ?_) (fun other here => ?_)
      (known_cons apart (Function.update_self ..))
    · rw [← Option.some.inj same, ← Place.named.inj here]
      exact named
    · refine Or.inr fun put there => ?_
      rw [free] at there
      cases there

/-- A removal ends as taking the file away does, but for the note. -/
theorem remove_of_detach {place : Place Location} {missing : ε} {pre : Disk Location ε → Prop}
    (left : Disk Location ε → Prop) {post raised : Disk Location ε → Prop}
    (detached : Effect.Ensures pre (detach place missing) (fun _ => post) fun _ => left)
    (noted : ∀ disk, left disk → raised (disk.noted place)) :
    Effect.Ensures pre (remove place missing) (fun _ => post) fun _ => raised := by
  intro disk holds
  have ends := detached disk holds
  unfold remove
  rcases ran : detach place missing disk with ⟨outcome, after⟩
  rw [ran] at ends
  cases outcome with
  | ok done => exact ends
  | error error => exact noted after ends

/-- After a removal of a file of the program it is gone, or the program failed to remove it. -/
theorem remove_ensures {place : Place Location} {file : File} {missing : ε}
    (apart : ∀ fact ∈ facts, fact.place ≠ place) (maker : file.maker = .program) :
    Effect.Ensures (Standing start risk allowed (.holds place file :: facts)) (remove place missing)
      (fun _ => Standing start risk allowed (.gone place :: facts))
      fun _ => Standing start risk allowed (.gone place :: facts) := by
  have elsewhere : ∀ fact ∈ facts, fact ∈ .holds place file :: facts ∧ fact.place ≠ place :=
    fun fact listed => ⟨List.mem_cons_of_mem _ listed, apart fact listed⟩
  refine remove_of_detach (Standing start risk allowed (.holds place file :: facts))
    (call_ensures (fun fact listed => listed) (fun moment disk standing => ?_)
      fun moment disk standing => standing) fun disk standing => ?_
  · have there : disk.files place = some file := standing.facts _ List.mem_cons_self
    simp only [there]
    refine standing.update _ _ _ (fun location other _ same => ?_) (fun location _ => ?_)
      (known_cons elsewhere (Or.inl fun other same => ?_))
    · cases same
    · refine Or.inr fun other same => ?_
      rw [there] at same
      rw [← Option.some.inj same, maker]
    · simp only [Function.update_self] at same
      cases same
  · -- The file is still there, so that the failure is noted.
    have there : disk.files place = some file := standing.facts _ List.mem_cons_self
    have kept := standing.noted place
    refine ⟨kept.own, kept.kept, fun fact listed => ?_⟩
    rcases List.mem_cons.mp listed with rfl | other
    · refine Or.inr (Or.inr ?_)
      rw [Disk.noted, there]
      exact List.mem_cons_self
    · exact kept.facts fact (List.mem_cons_of_mem _ other)

/-- A removal where no stranger's file is safe leaves what stands elsewhere. -/
theorem remove_risky {place : Place Location} {missing : ε}
    (risky : ∀ location, place = .named location → risk location)
    (apart : ∀ fact ∈ facts, fact.place ≠ place) :
    Effect.Ensures (Standing start risk allowed facts) (remove place missing)
      (fun _ => Standing start risk allowed facts) fun _ => Standing start risk allowed facts := by
  refine remove_of_detach (Standing start risk allowed facts)
    (call_ensures (fun fact listed => listed) (fun moment disk standing => ?_)
      fun moment disk standing => standing) fun disk standing => standing.noted _
  cases disk.files place with
  | some file =>
    refine standing.update _ _ _ (fun other put _ same => ?_) (fun location here => Or.inl (risky _ here))
      fun fact listed => Or.inl ⟨listed, apart fact listed⟩
    cases same
  | none => exact standing

end Standing

end Disk
end Store
