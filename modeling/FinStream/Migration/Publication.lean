import FinStream.Migration.Export

/-! What an export leaves behind, wherever it stops. -/

namespace FinStream.Migration

open Store Store.Disk

/-! ### Private files -/

section Files

variable {start : ExportDisk} {risk : Location → Prop} {allowed : Location → File → Prop}
  {facts later : List (Fact Location)}

/-- No fact is about a temporary file. -/
def Named (facts : List (Fact Location)) : Prop :=
  ∀ fact ∈ facts, ∀ number, fact.place ≠ .temporary number

/-- Facts that are not about temporary files are apart from each of them. -/
theorem Named.apart (named : Named facts) (number : ℕ) :
    ∀ fact ∈ facts, fact.place ≠ .temporary number := fun fact listed => named fact listed number

/-- A private file stays as it is when it is made private. -/
theorem setPrivatePermissions_ensures {place : Place Location} {file : File} {label : String}
    (known : .holds place file ∈ facts) (hidden : file.mode = 0o600) :
    Store.Effect.Ensures (Standing start risk allowed facts) (setPrivatePermissions place label)
      (fun _ => Standing start risk allowed facts) fun _ => Standing start risk allowed facts := by
  refine (hidden ▸ setMode_ensures known).bind fun _ => ?_
  refine (inspect_ensures known).bind fun mode => ?_
  refine Store.Effect.Ensures.assuming fun seen => ?_
  exact Store.Effect.Ensures.checked

/-- A temporary file that gets its name is where it is allowed to be. -/
theorem persistNoclobber_ensures {number : ℕ} {location : Location} {file : File}
    (named : Named facts)
    (others : ∀ fact ∈ later, fact ∈ facts ∧ fact ≠ .gone (.named location))
    (placed : allowed location file) :
    Store.Effect.Ensures (Standing start risk allowed (.holds (.temporary number) file :: facts))
      (persistNoclobber number location)
      (fun _ => Standing start risk allowed (.holds (.named location) file :: later))
      fun _ => Standing start risk allowed facts := by
  have linked : Store.Effect.Ensures
      (Standing start risk allowed (.holds (.temporary number) file :: facts))
      (link number location fileExists noSuchFile)
      (fun _ => Standing start risk allowed (.holds (.named location) file :: later))
      fun _ => Standing start risk allowed facts := by
    have step : Store.Effect.Ensures
        (Standing start risk allowed (.holds (.temporary number) file :: facts))
        (link number location fileExists noSuchFile)
        (fun _ => Standing start risk allowed (.holds (.named location) file :: later))
        fun _ => Standing start risk allowed (.holds (.temporary number) file :: facts) :=
      link_ensures List.mem_cons_self (fun fact listed =>
        ⟨List.mem_cons_of_mem _ (others fact listed).1, (others fact listed).2⟩) placed
    exact step.failing fun _ _ standing =>
      standing.forget fun fact listed => List.mem_cons_of_mem _ listed
  refine linked.bind fun _ => ?_
  -- What is left under the number is nobody's concern.
  have kept : ∀ fact ∈ .holds (.named location) file :: later, fact.place ≠ .temporary number := by
    intro fact listed
    rcases List.mem_cons.mp listed with rfl | other
    · simp [Fact.place]
    · exact named fact (others fact other).1 number
  refine (remove_risky (fun location same => by cases same) kept).attempt.bind fun ended => ?_
  refine Store.Effect.Ensures.pure fun disk ends => ?_
  cases ended with
  | ok done => exact ends
  | error error => exact ends

/-- What a computation with a temporary file leaves, it leaves when the file is made for it. -/
theorem withTemporary_ensures {α : Type} {refused : ExportError → ExportError}
    {body : ℕ → DiskEffect α} {post : α → ExportDisk → Prop} (named : Named facts)
    (each : ∀ number, Store.Effect.Ensures
      (Standing start risk allowed (.holds (.temporary number) ⟨.program, [], 0o600⟩ :: facts))
      (body number) post fun _ => Standing start risk allowed facts) :
    Store.Effect.Ensures (Standing start risk allowed facts) (withTemporary refused body) post
      fun _ => Standing start risk allowed facts := by
  refine (createTemporary_ensures named fileExists).mapError.bind fun number => ?_
  refine (each number).attempt.bind fun ended => ?_
  cases ended with
  | ok value => exact Store.Effect.Ensures.pure fun disk ends => ends
  | error error =>
    refine Store.Effect.Ensures.bind ((remove_risky (fun location same => by cases same)
      (named.apart number)).attempt) fun removed => ?_
    refine Store.Effect.Ensures.failed fun disk ends => ?_
    cases removed with
    | ok done => exact ends
    | error error => exact ends

/-- A published manifest is a file of its own, or there is none. -/
theorem writeManifest_ensures {exporter : Exporter} {directories : Directories} {path : PathBuf}
    {manifest : ValidationManifest} (named : Named facts)
    (others : ∀ fact ∈ later, fact ∈ facts ∧ fact ≠ .gone (.named (directories.locate path)))
    (placed : allowed (directories.locate path)
      ⟨.program, manifestBytes exporter manifest, 0o600⟩) :
    Store.Effect.Ensures (Standing start risk allowed facts)
      (writeManifest exporter directories path manifest)
      (fun _ => Standing start risk allowed (.holds (.named (directories.locate path))
        ⟨.program, manifestBytes exporter manifest, 0o600⟩ :: later))
      fun _ => Standing start risk allowed later := by
  have fewer : ∀ disk, Standing start risk allowed facts disk →
      Standing start risk allowed later disk :=
    fun disk standing => standing.forget fun fact listed => (others fact listed).1
  refine Store.Effect.Ensures.deciding (fun _ _ => fewer) fun _ _ => ?_
  let published : Fact Location := .holds (.named (directories.locate path))
    ⟨.program, manifestBytes exporter manifest, 0o600⟩
  refine Store.Effect.Ensures.via (fun _ => Standing start risk allowed (published :: later))
    ((withTemporary_ensures named fun number => ?_).failing
      fun _ disk standing => fewer disk standing) fun _ => ?_
  · -- The file is private and whole before it gets its name.
    refine ((setPrivatePermissions_ensures List.mem_cons_self rfl).failing
      fun _ _ standing => standing.drop).bind fun _ => ?_
    refine (append_ensures (named.apart number) rfl).bind fun _ => ?_
    refine (append_ensures (named.apart number) rfl).bind fun _ => ?_
    refine ((look_ensures fun _ _ => rfl).failing
      fun _ _ standing => standing.drop).bind fun _ => ?_
    exact (persistNoclobber_ensures named others placed).mapError
  · refine ((look_ensures fun _ _ => rfl).failing
      fun _ _ standing => standing.drop).bind fun _ => ?_
    refine ((setPrivatePermissions_ensures List.mem_cons_self rfl).failing
      fun _ _ standing => standing.drop).bind fun _ => ?_
    exact (look_ensures fun _ _ => rfl).failing fun _ _ standing => standing.drop

/-- A file of the program that is discarded is gone, unless it could not be removed. -/
theorem discard_ensures {location : Location} {file : File}
    {raised : ExportError → ExportDisk → Prop}
    (apart : ∀ fact ∈ facts, fact.place ≠ .named location) (maker : file.maker = .program) :
    Store.Effect.Ensures (Standing start risk allowed (.holds (.named location) file :: facts))
      (discard location)
      (fun _ => Standing start risk allowed (.gone (.named location) :: facts)) raised := by
  refine (remove_ensures apart maker).attempt.bind fun ended => ?_
  refine Store.Effect.Ensures.pure fun disk ends => ?_
  cases ended with
  | ok done => exact ends
  | error error => exact ends

/-- What is discarded where files are at risk leaves what stands elsewhere. -/
theorem discard_risky {location : Location} {raised : ExportError → ExportDisk → Prop}
    (risky : risk location) (apart : ∀ fact ∈ facts, fact.place ≠ .named location) :
    Store.Effect.Ensures (Standing start risk allowed facts) (discard location)
      (fun _ => Standing start risk allowed facts) raised := by
  refine (remove_risky (fun other here => Place.named.inj here ▸ risky) apart).attempt.bind
    fun ended => Store.Effect.Ensures.pure fun disk ends => ?_
  cases ended with
  | ok done => exact ends
  | error error => exact ends

/-- A database is not one of the files beside it. -/
theorem Location.ne_sidecar {location sidecar : Location} (beside : sidecar ∈ location.sidecars) :
    location ≠ sidecar := by
  obtain ⟨suffix, listed, rfl⟩ := List.mem_map.mp beside
  intro same
  have lengths := congrArg (fun other : Location => other.name.length) same
  simp only [String.length_append] at lengths
  -- No suffix is empty.
  have longer : 0 < suffix.length := by
    simp only [sidecarSuffixes, List.mem_cons, List.not_mem_nil, or_false] at listed
    rcases listed with rfl | rfl | rfl <;> decide
  omega

/-- An artifact that is removed is gone, unless it could not be removed. -/
theorem removeIncompleteOutput_ensures {location : Location} {file : File}
    {raised : ExportError → ExportDisk → Prop} (risky : ∀ sidecar ∈ location.sidecars, risk sidecar)
    (maker : file.maker = .program) :
    Store.Effect.Ensures (Standing start risk allowed [.holds (.named location) file])
      (removeIncompleteOutput location)
      (fun _ => Standing start risk allowed [.gone (.named location)]) raised := by
  refine (discard_ensures (fun fact listed => ?_) maker).bind fun _ => ?_
  · cases listed
  · refine Store.Effect.Ensures.forM fun sidecar beside => discard_risky (risky sidecar beside) ?_
    intro fact listed same
    obtain rfl := List.mem_singleton.mp listed
    exact Location.ne_sidecar beside (Place.named.inj same)

/-- An artifact that settles is as it was, and its digest is that of its bytes. -/
theorem settleArtifact_ensures {exporter : Exporter} {location : Location} {file : File}
    (known : .holds (.named location) file ∈ facts) (hidden : file.mode = 0o600) :
    Store.Effect.Ensures (Standing start risk allowed facts) (settleArtifact exporter location)
      (fun digest disk => digest = exporter.stats.blake3 file.bytes ∧
        Standing start risk allowed facts disk)
      fun _ => Standing start risk allowed facts := by
  refine (look_ensures fun _ _ => rfl).bind fun _ => ?_
  refine (setPrivatePermissions_ensures known hidden).bind fun _ => ?_
  refine (look_ensures fun _ _ => rfl).bind fun _ => ?_
  refine Store.Effect.Ensures.bind (Store.Effect.Ensures.forM fun sidecar _ => ?_) fun _ => ?_
  · exact (isThere_ensures _).bind fun there => Store.Effect.Ensures.checked
  · refine (inspect_ensures known).bind fun bytes => Store.Effect.Ensures.pure fun disk ends => ?_
    obtain ⟨rfl, standing⟩ := ends
    exact ⟨rfl, standing⟩

/-- Looking whether something is at a path leaves what stands. -/
theorem pathExists_ensures (directories : Directories) (path : PathBuf) :
    Store.Effect.Ensures (Standing start risk allowed facts) (pathExists directories path)
      (fun _ => Standing start risk allowed facts) fun _ => Standing start risk allowed facts := by
  unfold pathExists
  split
  · exact Store.Effect.Ensures.pure fun disk standing => standing
  · exact isThere_ensures _

/-- A path is validated without touching anything. -/
theorem validatePrivateOutputPath_ensures (directories : Directories) (path : PathBuf)
    (label : String) :
    Store.Effect.Ensures (Standing start risk allowed facts)
      (validatePrivateOutputPath directories path label)
      (fun _ => Standing start risk allowed facts) fun _ => Standing start risk allowed facts := by
  refine Store.Effect.Ensures.deciding (fun _ _ _ standing => standing) fun _ _ => ?_
  exact (pathExists_ensures directories path).bind fun there => Store.Effect.Ensures.checked

/-- An artifact is published whole and validated, or nothing of it is left. -/
theorem buildArtifact_ensures {exporter : Exporter} {directories : Directories}
    {database : ArtifactDatabase} {outputPath : PathBuf} {source : Dataset}
    {sequences : List SequenceState}
    (risky : ∀ sidecar ∈ (directories.locate outputPath).sidecars, risk sidecar)
    (placed : ∀ validation, validateDatabase exporter database source sequences = .ok validation →
      allowed (directories.locate outputPath) ⟨.program, database.image, 0o600⟩) :
    Store.Effect.Ensures
      (Standing start risk allowed [.gone (.named (directories.locate outputPath))])
      (buildArtifact exporter directories database outputPath source sequences)
      (fun artifact disk =>
        (validateDatabase exporter database source sequences = .ok artifact.validation ∧
          artifact.artifactBlake3 = exporter.stats.blake3 database.image) ∧
        Standing start risk allowed [.holds (.named (directories.locate outputPath))
          ⟨.program, database.image, 0o600⟩] disk)
      fun _ => Standing start risk allowed [.gone (.named (directories.locate outputPath))] := by
  let location := directories.locate outputPath
  let published : Fact Location := .holds (.named location) ⟨.program, database.image, 0o600⟩
  let gone : Fact Location := .gone (.named location)
  have named : Named [gone] := fun fact listed number => by
    obtain rfl := List.mem_singleton.mp listed
    simp [gone, Fact.place]
  refine (pathExists_ensures directories outputPath).bind fun there => ?_
  refine Store.Effect.Ensures.deciding (fun _ _ _ standing => standing) fun _ _ => ?_
  refine Store.Effect.Ensures.via (fun validation disk =>
    validateDatabase exporter database source sequences = .ok validation ∧
      Standing start risk allowed [published] disk)
    (withTemporary_ensures named fun number => ?_) fun validation => ?_
  · -- The database is validated and written back before it gets its name.
    refine ((setPrivatePermissions_ensures List.mem_cons_self rfl).failing
      fun _ _ standing => standing.drop).bind fun _ => ?_
    refine (edit_ensures (named.apart number) rfl (fun _ here => ?_) fun _ _ here => ?_).bind
      fun _ => ?_
    · cases here
    · cases here
    · let whole : Fact Location := .holds (.temporary number) ⟨.program, database.image, 0o600⟩
      refine Store.Effect.Ensures.deciding (fun _ _ _ standing => standing.drop)
        fun validation validated => ?_
      refine ((look_ensures fun _ _ => rfl).failing fun _ _ standing => standing.drop).bind
        fun _ => ?_
      refine Store.Effect.Ensures.via (fun _ => Standing start risk allowed [published])
        (persistNoclobber_ensures named (fun fact listed => ?_)
          (placed validation validated)).mapError
        fun _ => Store.Effect.Ensures.pure fun disk standing => ⟨validated, standing⟩
      cases listed
  · refine Store.Effect.Ensures.assuming fun validated => ?_
    refine (settleArtifact_ensures List.mem_cons_self rfl).attempt.bind fun ended => ?_
    cases ended with
    | ok digest => exact Store.Effect.Ensures.pure fun disk ends => ⟨⟨validated, ends.1⟩, ends.2⟩
    | error error =>
      -- What was published is taken back.
      exact (removeIncompleteOutput_ensures risky rfl).bind fun _ =>
        Store.Effect.Ensures.failed fun disk standing => standing

end Files

end FinStream.Migration
