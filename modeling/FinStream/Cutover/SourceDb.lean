import FinStream.Cutover.Storage

/-! The references of the database: photos, bodies of emails, and their attachments. -/

namespace FinStream.Cutover

open Store

/-- What refers to an object. -/
inductive ReferenceKind where
  | loanWorkspacePhoto
  | receivedEmailBody
  | receivedEmailAttachment
  deriving DecidableEq

/-- What is known about the object of a reference. -/
inductive Presence where
  | present
  | missing
  | externalOnly
  | invalid
  deriving DecidableEq

/-- Why a manifest is not valid. -/
structure Blocker where
  code : String
  referenceKind : Option ReferenceKind
  dbId : Option ℤ
  deriving DecidableEq

/-- A blocker about a reference. -/
def Blocker.reference (code : String) (kind : ReferenceKind) (dbId : ℤ) : Blocker :=
  ⟨code, some kind, some dbId⟩

/-- A blocker about a store. -/
def Blocker.global (code : String) : Blocker := ⟨code, none, none⟩

/-- A reference: where its object belongs, and where the older application put it. -/
structure DatabaseReference where
  kind : ReferenceKind
  dbId : ℤ
  canonicalKey : Option String
  sourceKey : Option String
  contentType : Option String
  initialPresence : Presence
  deriving DecidableEq

/-- The row a reference is read from. -/
def DatabaseReference.row (reference : DatabaseReference) : ReferenceKind × ℤ :=
  (reference.kind, reference.dbId)

/-- What the database refers to. -/
structure DatabaseInventory where
  references : List DatabaseReference
  blockers : List Blocker
  emptyEmailBodyKeysSkipped : ℕ
  /-- A row is read once. -/
  distinct : (references.map DatabaseReference.row).Nodup
  /-- A reference that belongs somewhere also comes from somewhere. -/
  paired : ∀ reference ∈ references,
    reference.canonicalKey.isSome = reference.sourceKey.isSome

/-- A row of `intg_loan_workspace_photo`. -/
structure PhotoRow where
  id : ℤ
  imageUrl : String

/-- A row of `intg_received_email`. -/
structure EmailRow where
  id : ℤ
  resendEmailId : String
  bodyS3Key : Option String
  bodyContentType : Option String

/-- A row of `intg_received_email_attachment`. -/
structure AttachmentRow where
  id : ℤ
  emailId : ℤ
  filename : String
  s3Key : Option String
  contentType : String

/-- The tables that refer to objects, each in the order of its ids. -/
structure Artifact where
  photos : List PhotoRow
  emails : List EmailRow
  attachments : List AttachmentRow
  photosOrdered : (photos.map PhotoRow.id).Pairwise (· < ·)
  emailsOrdered : (emails.map EmailRow.id).Pairwise (· < ·)
  attachmentsOrdered : (attachments.map AttachmentRow.id).Pairwise (· < ·)

/-- What is read of a row: a reference, and a blocker where the reference is not valid. -/
structure ReadRow where
  reference : DatabaseReference
  blocker : Option Blocker

/-- Reads the address of a photo. -/
def readPhoto (parseUrl : String → Option Url) (photo : PhotoRow) : ReadRow :=
  match classifyPhoto parseUrl photo.imageUrl with
  | .ok (.stored key) =>
    { reference :=
        { kind := .loanWorkspacePhoto, dbId := photo.id, canonicalKey := some key
          sourceKey := some key, contentType := none, initialPresence := .missing }
      blocker := none }
  | .ok .externalOnly =>
    { reference :=
        { kind := .loanWorkspacePhoto, dbId := photo.id, canonicalKey := none, sourceKey := none
          contentType := none, initialPresence := .externalOnly }
      blocker := none }
  | .error _ =>
    { reference :=
        { kind := .loanWorkspacePhoto, dbId := photo.id, canonicalKey := none, sourceKey := none
          contentType := none, initialPresence := .invalid }
      blocker := some (.reference "invalid_photo_location" .loanWorkspacePhoto photo.id) }

/-- Reads a key of the database with the key its object has in the retained store. -/
def readDatabaseKey (kind : ReferenceKind) (id : ℤ) (rawKey sourceKey : String)
    (contentType : Option String) : ReadRow :=
  match canonicalDatabaseKey rawKey, legacyPhysicalKey sourceKey with
  | .ok key, .ok sourceKey =>
    { reference :=
        { kind, dbId := id, canonicalKey := some key, sourceKey := some sourceKey, contentType
          initialPresence := .missing }
      blocker := none }
  | _, _ =>
    { reference :=
        { kind, dbId := id, canonicalKey := none, sourceKey := none, contentType
          initialPresence := .invalid }
      blocker := some (.reference "invalid_object_key" kind id) }

/-- Reads the body of an email, if it has one. -/
def readEmailBody (email : EmailRow) : Option ReadRow :=
  (email.bodyS3Key.filter fun key => !isBlank key).map fun key =>
    readDatabaseKey .receivedEmailBody email.id key key email.bodyContentType

/-- The name under which the older application stored an attachment. -/
def legacyFilename (filename : String) : String :=
  String.ofList (filename.toList.map fun character =>
    if character = '/' ∨ character = '\\' ∨ character = '\x00' then '_' else character)

/-- The key of an attachment in the retained store. -/
def legacyAttachmentKey (resendEmailId filename : String) : String :=
  "emails/" ++ resendEmailId ++ "/attachments/" ++ legacyFilename filename

/-- The name of an attachment is a single segment. -/
theorem legacyFilename_slashless (filename : String) :
    ∀ character ∈ (legacyFilename filename).toList, character ≠ '/' := by
  intro character member
  simp only [legacyFilename, String.toList_ofList, List.mem_map] at member
  obtain ⟨original, -, rfl⟩ := member
  split
  · decide
  · rename_i kept
    exact fun slash => kept (Or.inl slash)

/-- What is behind the last slash of a path is its last segment. -/
theorem lastSegment_unique {left right leftName rightName : List Char}
    (same : left ++ '/' :: leftName = right ++ '/' :: rightName)
    (leftPlain : ∀ character ∈ leftName, character ≠ '/')
    (rightPlain : ∀ character ∈ rightName, character ≠ '/') :
    left = right ∧ leftName = rightName := by
  have last : ∀ path name : List Char, (∀ character ∈ name, character ≠ '/') →
      (path ++ '/' :: name).reverse.takeWhile (· != '/') = name.reverse := by
    intro path name plain
    rw [List.reverse_append, List.reverse_cons, List.append_assoc,
      List.takeWhile_append_of_pos fun character member => by
        simpa using plain character (List.mem_reverse.mp member)]
    simp
  have names : leftName = rightName := by
    have reversed := last left leftName leftPlain
    rw [same, last right rightName rightPlain] at reversed
    exact (List.reverse_injective reversed).symm
  subst names
  exact ⟨List.append_cancel_right same, rfl⟩

/-- Two attachments had one key when their emails are one and their names became the same. -/
theorem legacyAttachmentKey_eq {left right leftName rightName : String} :
    legacyAttachmentKey left leftName = legacyAttachmentKey right rightName ↔
      left = right ∧ legacyFilename leftName = legacyFilename rightName := by
  constructor
  · intro same
    have path : ∀ email name : String, (legacyAttachmentKey email name).toList =
        ("emails/".toList ++ email.toList ++ "/attachments".toList) ++
          '/' :: (legacyFilename name).toList := by
      intro email name
      simp [legacyAttachmentKey]
    have characters := congrArg String.toList same
    rw [path, path] at characters
    obtain ⟨before, names⟩ := lastSegment_unique characters
      (legacyFilename_slashless leftName) (legacyFilename_slashless rightName)
    have emails := List.append_cancel_left (List.append_cancel_right before)
    exact ⟨String.toList_injective emails, String.toList_injective names⟩
  · rintro ⟨rfl, names⟩
    rw [legacyAttachmentKey, legacyAttachmentKey, names]

/-- Reads an attachment, if it is stored and its email is there. -/
def readAttachment (emails : List EmailRow) (attachment : AttachmentRow) : Option ReadRow := do
  let email ← emails.find? fun email => email.id = attachment.emailId
  let key ← attachment.s3Key
  some (readDatabaseKey .receivedEmailAttachment attachment.id key
    (legacyAttachmentKey email.resendEmailId attachment.filename) (some attachment.contentType))

/-- Everything that is read of the tables, in their order. -/
def readRows (parseUrl : String → Option Url) (artifact : Artifact) : List ReadRow :=
  artifact.photos.map (readPhoto parseUrl) ++ artifact.emails.filterMap readEmailBody ++
    artifact.attachments.filterMap (readAttachment artifact.emails)

/-- A photo is read as the reference of its row. -/
theorem readPhoto_row (parseUrl : String → Option Url) (photo : PhotoRow) :
    (readPhoto parseUrl photo).reference.row = (.loanWorkspacePhoto, photo.id) := by
  unfold readPhoto
  split <;> rfl

/-- A key is read as the reference of its row. -/
theorem readDatabaseKey_row (kind : ReferenceKind) (id : ℤ) (rawKey sourceKey : String)
    (contentType : Option String) :
    (readDatabaseKey kind id rawKey sourceKey contentType).reference.row = (kind, id) := by
  unfold readDatabaseKey
  split <;> rfl

/-- A body is read as the reference of its row. -/
theorem readEmailBody_row {email : EmailRow} {read : ReadRow}
    (there : readEmailBody email = some read) :
    read.reference.row = (.receivedEmailBody, email.id) := by
  obtain ⟨key, -, rfl⟩ := Option.map_eq_some_iff.mp there
  exact readDatabaseKey_row _ _ _ _ _

/-- An attachment is read as the reference of its row. -/
theorem readAttachment_row {emails : List EmailRow} {attachment : AttachmentRow} {read : ReadRow}
    (there : readAttachment emails attachment = some read) :
    read.reference.row = (.receivedEmailAttachment, attachment.id) := by
  simp only [readAttachment, Option.bind_eq_bind, Option.bind_eq_some_iff,
    Option.some.injEq] at there
  obtain ⟨email, -, key, -, rfl⟩ := there
  exact readDatabaseKey_row _ _ _ _ _

/-- What is read of a table names some of its rows, in order. -/
theorem filterMap_rows_sublist {γ : Type} {items : List γ} {read : γ → Option ReadRow}
    {name : γ → ReferenceKind × ℤ}
    (named : ∀ item row, read item = some row → row.reference.row = name item) :
    ((items.filterMap read).map fun row => row.reference.row).Sublist (items.map name) := by
  induction items with
  | nil => exact List.Sublist.slnil
  | cons item rest ih =>
    cases found : read item with
    | none =>
      rw [List.filterMap_cons_none found]
      exact ih.cons _
    | some row =>
      rw [List.filterMap_cons_some found, List.map_cons, List.map_cons, named item row found]
      exact ih.cons_cons _

/-- The names of the rows of a table differ when its ids increase. -/
theorem names_nodup {γ : Type} {items : List γ} {id : γ → ℤ} (kind : ReferenceKind)
    (ordered : (items.map id).Pairwise (· < ·)) :
    (items.map fun item => (kind, id item)).Nodup := by
  have ids : (items.map id).Nodup := ordered.imp fun below => ne_of_lt below
  have named := ids.map (f := fun id => (kind, id)) fun _ _ same => (Prod.mk.inj same).2
  rwa [List.map_map] at named

/-- No row is read twice: ids increase along each table, and each table has a kind of its own. -/
theorem readRows_distinct (parseUrl : String → Option Url) (artifact : Artifact) :
    ((readRows parseUrl artifact).map fun read => read.reference.row).Nodup := by
  -- Ids are distinct within each table, and the kinds tell the tables apart.
  have names : (artifact.photos.map (fun photo => (ReferenceKind.loanWorkspacePhoto, photo.id)) ++
      artifact.emails.map (fun email => (ReferenceKind.receivedEmailBody, email.id)) ++
      artifact.attachments.map fun attachment =>
        (ReferenceKind.receivedEmailAttachment, attachment.id)).Nodup := by
    refine ((names_nodup _ artifact.photosOrdered).append
      (names_nodup _ artifact.emailsOrdered) ?_).append
        (names_nodup _ artifact.attachmentsOrdered) ?_
    · simp [List.disjoint_left]
    · simp only [List.disjoint_left, List.mem_append, List.mem_map]
      rintro _ (⟨photo, -, rfl⟩ | ⟨email, -, rfl⟩)
      · simp
      · simp
  -- Every row that is read has the name of a row that is there, and some rows are skipped.
  refine names.sublist ?_
  rw [readRows, List.map_append, List.map_append, List.map_map]
  have photos : artifact.photos.map ((fun read => read.reference.row) ∘ readPhoto parseUrl) =
      artifact.photos.map fun photo => (ReferenceKind.loanWorkspacePhoto, photo.id) :=
    List.map_congr_left fun photo _ => readPhoto_row parseUrl photo
  rw [photos]
  exact ((List.Sublist.refl _).append (filterMap_rows_sublist fun _ _ => readEmailBody_row)).append
    (filterMap_rows_sublist fun _ _ => readAttachment_row)

/-- What is read of a photo belongs somewhere exactly when it comes from somewhere. -/
theorem readPhoto_paired (parseUrl : String → Option Url) (photo : PhotoRow) :
    (readPhoto parseUrl photo).reference.canonicalKey.isSome =
      (readPhoto parseUrl photo).reference.sourceKey.isSome := by
  unfold readPhoto
  split <;> rfl

/-- What is read of a key belongs somewhere exactly when it comes from somewhere. -/
theorem readDatabaseKey_paired (kind : ReferenceKind) (id : ℤ) (rawKey sourceKey : String)
    (contentType : Option String) :
    (readDatabaseKey kind id rawKey sourceKey contentType).reference.canonicalKey.isSome =
      (readDatabaseKey kind id rawKey sourceKey contentType).reference.sourceKey.isSome := by
  unfold readDatabaseKey
  split <;> rfl

/-- Whatever is read belongs somewhere exactly when it comes from somewhere. -/
theorem readRows_paired {parseUrl : String → Option Url} {artifact : Artifact} {read : ReadRow}
    (member : read ∈ readRows parseUrl artifact) :
    read.reference.canonicalKey.isSome = read.reference.sourceKey.isSome := by
  simp only [readRows, List.mem_append, List.mem_map, List.mem_filterMap] at member
  obtain (⟨photo, -, rfl⟩ | ⟨email, -, body⟩) | ⟨attachment, -, stored⟩ := member
  · exact readPhoto_paired parseUrl photo
  · obtain ⟨key, -, rfl⟩ := Option.map_eq_some_iff.mp body
    exact readDatabaseKey_paired _ _ _ _ _
  · simp only [readAttachment, Option.bind_eq_bind, Option.bind_eq_some_iff,
      Option.some.injEq] at stored
    obtain ⟨email, -, key, -, rfl⟩ := stored
    exact readDatabaseKey_paired _ _ _ _ _

/-- Reads the database. -/
def readDatabase (parseUrl : String → Option Url) (artifact : Artifact) : DatabaseInventory where
  references := (readRows parseUrl artifact).map ReadRow.reference
  blockers := (readRows parseUrl artifact).filterMap ReadRow.blocker
  emptyEmailBodyKeysSkipped :=
    artifact.emails.countP fun email => email.bodyS3Key.any isBlank
  distinct := by
    rw [List.map_map]
    exact readRows_distinct parseUrl artifact
  paired := by
    intro reference member
    obtain ⟨read, there, rfl⟩ := List.mem_map.mp member
    exact readRows_paired there

/-! ### The keys of a database that can be read -/

/-- The key of the object of a photo. -/
def PhotoRow.key (parseUrl : String → Option Url) (photo : PhotoRow) : Option String :=
  match classifyPhoto parseUrl photo.imageUrl with
  | .ok (.stored key) => some key
  | _ => none

/-- The key of the object of a body. -/
def EmailRow.key (email : EmailRow) : Option String :=
  email.bodyS3Key.filter fun key => !isBlank key

/-- The key of the object of an attachment in the retained store. -/
def AttachmentRow.key (emails : List EmailRow) (attachment : AttachmentRow) : Option String := do
  let email ← emails.find? fun email => email.id = attachment.emailId
  let _ ← attachment.s3Key
  some (legacyAttachmentKey email.resendEmailId attachment.filename)

/-- The keys of photos and bodies, which the retained store and the application share. -/
def Artifact.sharedKeys (parseUrl : String → Option Url) (artifact : Artifact) : List String :=
  artifact.photos.filterMap (PhotoRow.key parseUrl) ++ artifact.emails.filterMap EmailRow.key

/-- The keys of attachments, which the retained store rebuilds from their names. -/
def Artifact.attachmentKeys (artifact : Artifact) : List String :=
  artifact.attachments.filterMap (AttachmentRow.key artifact.emails)

/-- A key that could be read is both where the object belongs and where it comes from. -/
theorem readDatabaseKey_unblocked {kind : ReferenceKind} {id : ℤ} {rawKey sourceKey : String}
    {contentType : Option String}
    (unblocked : (readDatabaseKey kind id rawKey sourceKey contentType).blocker = none) :
    (readDatabaseKey kind id rawKey sourceKey contentType).reference.canonicalKey = some rawKey ∧
      (readDatabaseKey kind id rawKey sourceKey contentType).reference.sourceKey =
        some sourceKey := by
  unfold readDatabaseKey at unblocked ⊢
  split
  · rename_i key source canonical legacy
    exact ⟨congrArg some (validateKey_eq canonical), congrArg some (validateKey_eq legacy)⟩
  · rename_i refused
    split at unblocked
    · rename_i key source canonical legacy
      exact (refused key source canonical legacy).elim
    · cases unblocked

/-- The object of a photo is under one key. -/
theorem readPhoto_keys (parseUrl : String → Option Url) (photo : PhotoRow) :
    (readPhoto parseUrl photo).reference.canonicalKey = photo.key parseUrl ∧
      (readPhoto parseUrl photo).reference.sourceKey = photo.key parseUrl := by
  unfold readPhoto PhotoRow.key
  cases classifyPhoto parseUrl photo.imageUrl with
  | error error => exact ⟨rfl, rfl⟩
  | ok location =>
    cases location with
    | stored key => exact ⟨rfl, rfl⟩
    | externalOnly => exact ⟨rfl, rfl⟩

/-- The object of a body that could be read is under one key. -/
theorem readEmailBody_keys {email : EmailRow}
    (unblocked : ∀ read, readEmailBody email = some read → read.blocker = none) :
    (readEmailBody email).bind (·.reference.canonicalKey) = email.key ∧
      (readEmailBody email).bind (·.reference.sourceKey) = email.key := by
  unfold readEmailBody at unblocked ⊢
  unfold EmailRow.key
  cases found : email.bodyS3Key.filter fun key => !isBlank key with
  | none => exact ⟨rfl, rfl⟩
  | some key =>
    rw [found] at unblocked
    exact readDatabaseKey_unblocked (unblocked _ rfl)

/-- The object of an attachment that could be read comes from its rebuilt key. -/
theorem readAttachment_sourceKey {emails : List EmailRow} {attachment : AttachmentRow}
    (unblocked : ∀ read, readAttachment emails attachment = some read → read.blocker = none) :
    (readAttachment emails attachment).bind (·.reference.sourceKey) = attachment.key emails := by
  unfold readAttachment at unblocked ⊢
  unfold AttachmentRow.key
  cases emailed : emails.find? fun email => email.id = attachment.emailId with
  | none => rfl
  | some email =>
    rw [emailed] at unblocked
    cases stored : attachment.s3Key with
    | none => rfl
    | some key =>
      rw [stored] at unblocked
      exact (readDatabaseKey_unblocked (unblocked _ rfl)).2

/-- The rows of a database without blockers could all be read. -/
theorem readDatabase_unblocked {parseUrl : String → Option Url} {artifact : Artifact}
    (unblocked : (readDatabase parseUrl artifact).blockers = []) :
    ∀ read ∈ readRows parseUrl artifact, read.blocker = none :=
  List.filterMap_eq_nil_iff.mp unblocked

/-- Whatever is read of a body is read of the tables. -/
theorem readEmailBody_mem {parseUrl : String → Option Url} {artifact : Artifact}
    {email : EmailRow} {read : ReadRow} (member : email ∈ artifact.emails)
    (found : readEmailBody email = some read) : read ∈ readRows parseUrl artifact :=
  List.mem_append_left _ (List.mem_append_right _ (List.mem_filterMap.mpr ⟨email, member, found⟩))

/-- Whatever is read of an attachment is read of the tables. -/
theorem readAttachment_mem {parseUrl : String → Option Url} {artifact : Artifact}
    {attachment : AttachmentRow} {read : ReadRow} (member : attachment ∈ artifact.attachments)
    (found : readAttachment artifact.emails attachment = some read) :
    read ∈ readRows parseUrl artifact :=
  List.mem_append_right _ (List.mem_filterMap.mpr ⟨attachment, member, found⟩)

/-- Without blockers, the source keys are those of the rows. -/
theorem readDatabase_sourceKeys {parseUrl : String → Option Url} {artifact : Artifact}
    (unblocked : (readDatabase parseUrl artifact).blockers = []) :
    (readDatabase parseUrl artifact).references.filterMap (·.sourceKey) =
      artifact.sharedKeys parseUrl ++ artifact.attachmentKeys := by
  have readable := readDatabase_unblocked unblocked
  simp only [readDatabase, readRows, Artifact.sharedKeys, Artifact.attachmentKeys,
    List.filterMap_map, List.filterMap_append, List.filterMap_filterMap, Function.comp_def]
  congr 1
  · congr 1
    · exact List.filterMap_congr fun photo _ => (readPhoto_keys parseUrl photo).2
    · refine List.filterMap_congr fun email member => (readEmailBody_keys fun read found => ?_).2
      exact readable read (readEmailBody_mem member found)
  · refine List.filterMap_congr fun attachment member =>
      readAttachment_sourceKey fun read found => ?_
    exact readable read (readAttachment_mem member found)

/-- Without blockers, the keys of photos and bodies are the first of the canonical keys. -/
theorem readDatabase_sharedKeys {parseUrl : String → Option Url} {artifact : Artifact}
    (unblocked : (readDatabase parseUrl artifact).blockers = []) :
    artifact.sharedKeys parseUrl <+:
      (readDatabase parseUrl artifact).references.filterMap (·.canonicalKey) := by
  have readable := readDatabase_unblocked unblocked
  simp only [readDatabase, readRows, Artifact.sharedKeys, List.filterMap_map,
    List.filterMap_append, List.filterMap_filterMap, Function.comp_def]
  have photos : artifact.photos.filterMap (fun photo =>
      (readPhoto parseUrl photo).reference.canonicalKey) =
        artifact.photos.filterMap (PhotoRow.key parseUrl) :=
    List.filterMap_congr fun photo _ => (readPhoto_keys parseUrl photo).1
  have bodies : artifact.emails.filterMap (fun email =>
      (readEmailBody email).bind (·.reference.canonicalKey)) =
        artifact.emails.filterMap EmailRow.key := by
    refine List.filterMap_congr fun email member => (readEmailBody_keys fun read found => ?_).1
    exact readable read (readEmailBody_mem member found)
  rw [photos, bodies]
  exact List.prefix_append _ _

end FinStream.Cutover
