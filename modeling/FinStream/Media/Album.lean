import FinStream.Media.Gallery

/-! The album of a workspace: its pages in order and its cover, which is what the writes act on. -/

namespace FinStream.Media

open Store Inbox

/-! ### Albums -/

/-- Pages in the order in which they are shown, and the page that is shown before them. -/
structure Album where
  pages : List (ℕ × LoanWorkspacePhoto)
  cover : Option ℕ

/-- What is done to an album. -/
inductive AlbumAction where
  /-- A page is put where its sort order says. -/
  | put (page : ℕ × LoanWorkspacePhoto)
  /-- A page becomes the last one, unless it is there. -/
  | append (page : ℕ × LoanWorkspacePhoto)
  /-- A page becomes the cover. -/
  | choose (id : ℕ)
  /-- A page is taken out. -/
  | remove (id : ℕ)

/-- The sort order after the last page. -/
def Album.nextSortOrder (album : Album) : ℤ :=
  (album.pages.getLast?.map fun page => page.2.sortOrder).getD (-1) + 1

/-- An album after an action. -/
def Album.act (album : Album) : AlbumAction → Album
  | .put page => { album with pages := orderBy place (album.pages ++ [page]) }
  | .append page =>
    if album.pages.any fun other => page.2.hasIdentity other.2 then album
    else { album with
      pages := album.pages ++ [(page.1, { page.2 with sortOrder := album.nextSortOrder })] }
  | .choose id => { album with cover := some id }
  | .remove id =>
    { pages := album.pages.filter fun page => page.1 != id
      cover := album.cover.filter (· != id) }

/-- What an album shows: its cover, then the other pages. -/
def Album.display (album : Album) : List (ℕ × LoanWorkspacePhoto) :=
  (album.pages.filter fun page => album.cover == some page.1).map
      (fun page => (page.1, { page.2 with isFeatured := true })) ++
    album.pages.filter fun page => album.cover != some page.1

/-- A photo as a page: whether it is featured is said by the cover. -/
def asPage (entry : ℕ × LoanWorkspacePhoto) : ℕ × LoanWorkspacePhoto :=
  (entry.1, { entry.2 with isFeatured := false })

/-- The album of a workspace. -/
def albumOf (workspace : Workspace) (photos : Table LoanWorkspacePhoto) : Album where
  pages := (orderBy place (rowsOf workspace photos)).map asPage
  cover := ((rowsOf workspace photos).find? fun entry => entry.2.isFeatured).map Prod.fst

/-- The photo that a finalized upload is recorded as, but for its sort order. -/
def manualPhoto (workspace : Workspace) (caption : Option String) (imageUrl createdAt : String) :
    LoanWorkspacePhoto where
  connectionId := workspace.connectionId
  loanAccount := workspace.loanAccount
  provider := "manual"
  caption
  sourceUrl := "manual-upload"
  imageUrl
  sortOrder := 0
  isFeatured := false
  createdAt

/-- What a write does to the album of its workspace, given the photo it answers with. -/
def GalleryOp.action (answer : ℕ × LoanWorkspacePhoto) : GalleryOp → AlbumAction
  | .create draft createdAt => .put (answer.1, draft.row createdAt)
  | .finalize workspace caption imageUrl createdAt =>
    .append (answer.1, manualPhoto workspace caption imageUrl createdAt)
  | .feature _ photoId => .choose photoId
  | .delete _ photoId => .remove photoId

/-! ### What the table keeps -/

/-- The values that identify a photo. -/
def identity (photo : LoanWorkspacePhoto) : Option (Workspace × String × String) :=
  some (photo.workspace, photo.provider, photo.imageUrl)

/-- The workspace a photo is featured in. -/
def featuredIn (photo : LoanWorkspacePhoto) : Option Workspace :=
  if photo.isFeatured then some photo.workspace else none

/-- Stored photos with what their table enforces and every write checks. -/
structure Gallery where
  photos : Table LoanWorkspacePhoto
  /-- The unique constraint. -/
  identified : UniqueKey identity photos
  /-- The partial unique index. -/
  covered : UniqueKey featuredIn photos
  /-- Writes only accept sort orders from zero. -/
  ordered : ∀ id photo, (id, photo) ∈ photos → 0 ≤ photo.sortOrder

/-- An identity is compared as the four values it consists of. -/
theorem hasIdentity_iff {photo other : LoanWorkspacePhoto} :
    photo.hasIdentity other = true ↔ identity other = identity photo := by
  simp only [LoanWorkspacePhoto.hasIdentity, identity, LoanWorkspacePhoto.workspace,
    Bool.and_eq_true, beq_iff_eq, Option.some.injEq, Prod.mk.injEq, Workspace.mk.injEq]
  tauto

/-- The rows of a workspace are the stored photos that are in it. -/
theorem mem_rowsOf {workspace : Workspace} {photos : Table LoanWorkspacePhoto}
    {entry : ℕ × LoanWorkspacePhoto} :
    entry ∈ rowsOf workspace photos ↔ entry ∈ photos ∧ entry.2.workspace = workspace := by
  simp [rowsOf, Table.mem_rows]

/-- The pages of an album are the stored photos of its workspace. -/
theorem mem_pages {workspace : Workspace} {photos : Table LoanWorkspacePhoto}
    {page : ℕ × LoanWorkspacePhoto} :
    page ∈ (albumOf workspace photos).pages ↔
      ∃ entry ∈ photos, entry.2.workspace = workspace ∧ asPage entry = page := by
  simp only [albumOf, List.mem_map, mem_orderBy, mem_rowsOf]
  tauto

/-- Ids differ along the rows of a workspace. -/
theorem rowsOf_ids (workspace : Workspace) (photos : Table LoanWorkspacePhoto) :
    ((rowsOf workspace photos).map Prod.fst).Nodup :=
  (photos.ascending.imp ne_of_lt).sublist (List.filter_sublist.map Prod.fst)

/-- No two photos of a workspace stand at one place. -/
theorem rowsOf_places (workspace : Workspace) (photos : Table LoanWorkspacePhoto) :
    ((rowsOf workspace photos).map place).Nodup := by
  -- The id is part of the place.
  have read : (rowsOf workspace photos).map Prod.fst =
      ((rowsOf workspace photos).map place).map fun at_ => (ofLex at_).2 := by
    simp [place, Function.comp_def]
  exact List.Nodup.of_map _ (read ▸ rowsOf_ids workspace photos)

/-- An insertion adds a row to the workspace of the photo only. -/
theorem rowsOf_insert (workspace : Workspace) (photos : Table LoanWorkspacePhoto)
    (photo : LoanWorkspacePhoto) :
    rowsOf workspace (photos.insert photo) = rowsOf workspace photos ++
      if photo.workspace = workspace then [(photos.next, photo)] else [] := by
  by_cases inside : photo.workspace = workspace <;>
    simp [rowsOf, Table.insert, List.filter_append, inside]

/-- An update that moves no photo to another workspace changes the rows one by one. -/
theorem rowsOf_updateWhere (workspace : Workspace) (photos : Table LoanWorkspacePhoto)
    {condition : ℕ → LoanWorkspacePhoto → Bool} {change : LoanWorkspacePhoto → LoanWorkspacePhoto}
    (kept : ∀ photo, (change photo).workspace = photo.workspace) :
    rowsOf workspace (photos.updateWhere condition change) =
      (rowsOf workspace photos).map fun entry =>
        (entry.1, if condition entry.1 entry.2 then change entry.2 else entry.2) := by
  simp only [rowsOf, Table.updateWhere, List.filter_map]
  congr 1
  refine List.filter_congr fun entry _ => ?_
  simp only [Function.comp_apply]
  split <;> simp [kept]

/-- A deletion takes rows away. -/
theorem rowsOf_deleteWhere (workspace : Workspace) (photos : Table LoanWorkspacePhoto)
    (condition : ℕ → LoanWorkspacePhoto → Bool) :
    rowsOf workspace (photos.deleteWhere condition) =
      (rowsOf workspace photos).filter fun entry => !condition entry.1 entry.2 := by
  simp only [rowsOf, Table.deleteWhere, List.filter_filter, Bool.and_comm]

/-! ### What an album shows -/

/-- A page stands where its photo stands. -/
theorem place_asPage (entry : ℕ × LoanWorkspacePhoto) : place (asPage entry) = place entry := rfl

/-- The pages of an album are its photos in order. -/
theorem pages_eq (workspace : Workspace) (photos : Table LoanWorkspacePhoto) :
    (albumOf workspace photos).pages = orderBy place ((rowsOf workspace photos).map asPage) :=
  (orderBy_map fun entry _ => place_asPage entry).symm

/-- The cover of an album is its featured photo. -/
theorem Gallery.cover_iff (gallery : Gallery) {workspace : Workspace}
    {entry : ℕ × LoanWorkspacePhoto} (stored : entry ∈ rowsOf workspace gallery.photos) :
    (albumOf workspace gallery.photos).cover = some entry.1 ↔ entry.2.isFeatured = true := by
  obtain ⟨there, inside⟩ := mem_rowsOf.mp stored
  constructor
  · intro chosen
    obtain ⟨found, located, same⟩ := Option.map_eq_some_iff.mp chosen
    obtain ⟨foundThere, -⟩ := mem_rowsOf.mp (List.mem_of_find?_eq_some located)
    have flagged := List.find?_some located
    -- The featured photo is stored under the id of the cover.
    have equal : found.2 = entry.2 := Table.unique (same ▸ foundThere) there
    rw [← equal]
    exact flagged
  · intro flagged
    cases located : (rowsOf workspace gallery.photos).find? fun other => other.2.isFeatured with
    | none =>
      have := List.find?_eq_none.mp located entry stored
      exact absurd flagged this
    | some found =>
      -- Two featured photos of a workspace are one photo.
      obtain ⟨foundThere, foundInside⟩ := mem_rowsOf.mp (List.mem_of_find?_eq_some located)
      have foundFlagged := List.find?_some located
      have same := gallery.covered found.1 entry.1 found.2 entry.2 workspace foundThere there
        (by simp [featuredIn, foundFlagged, foundInside]) (by simp [featuredIn, flagged, inside])
      simp [albumOf, located, same]

/-- An album has a cover when one of its photos is featured. -/
theorem Gallery.cover_eq_some (gallery : Gallery) (workspace : Workspace) (id : ℕ) :
    (albumOf workspace gallery.photos).cover = some id ↔
      ∃ photo, (id, photo) ∈ rowsOf workspace gallery.photos ∧ photo.isFeatured = true := by
  constructor
  · intro chosen
    obtain ⟨found, located, rfl⟩ := Option.map_eq_some_iff.mp chosen
    have flagged := List.find?_some located
    exact ⟨found.2, List.mem_of_find?_eq_some located, flagged⟩
  · rintro ⟨photo, stored, flagged⟩
    exact (gallery.cover_iff stored).mpr flagged

/-- The photos of a workspace are listed as its album shows them. -/
theorem Gallery.photosOn_eq (gallery : Gallery) (workspace : Workspace) :
    photosOn workspace gallery.photos = (albumOf workspace gallery.photos).display := by
  have distinct := rowsOf_places workspace gallery.photos
  -- Among the listed photos, being on the cover is being featured.
  have covers : ∀ entry ∈ orderBy place (rowsOf workspace gallery.photos),
      ((albumOf workspace gallery.photos).cover == some entry.1) = entry.2.isFeatured := by
    intro entry stored
    rw [Bool.eq_iff_iff, beq_iff_eq]
    exact gallery.cover_iff (mem_orderBy.mp stored)
  rw [photosOn, orderBy_flag distinct, orderBy_filter distinct, orderBy_filter distinct,
    Album.display]
  congr 1
  · -- The page on the cover, with its flag again, is the featured photo.
    have onCover : (albumOf workspace gallery.photos).pages.filter
        (fun page => (albumOf workspace gallery.photos).cover == some page.1) =
        ((orderBy place (rowsOf workspace gallery.photos)).filter
          fun entry => !!entry.2.isFeatured).map asPage := by
      simp only [Bool.not_not]
      rw [← List.filter_congr covers]
      exact List.filter_map
    rw [onCover, List.map_map]
    refine (List.map_id _).symm.trans (List.map_congr_left fun entry listed => ?_)
    have flagged := (List.mem_filter.mp listed).2
    simp only [Bool.not_not] at flagged
    obtain ⟨id, photo⟩ := entry
    cases photo
    simp_all [asPage]
  · -- The other pages are photos that are not featured, which pages do not change.
    have inside : (albumOf workspace gallery.photos).pages.filter
        (fun page => (albumOf workspace gallery.photos).cover != some page.1) =
        ((orderBy place (rowsOf workspace gallery.photos)).filter
          fun entry => !entry.2.isFeatured).map asPage := by
      have others : ∀ entry ∈ orderBy place (rowsOf workspace gallery.photos),
          ((albumOf workspace gallery.photos).cover != some entry.1) = !entry.2.isFeatured :=
        fun entry stored => congrArg not (covers entry stored)
      rw [← List.filter_congr others]
      exact List.filter_map
    rw [inside]
    refine (List.map_id _).symm.trans (List.map_congr_left fun entry listed => ?_)
    have flagged := (List.mem_filter.mp listed).2
    obtain ⟨id, photo⟩ := entry
    cases photo
    simp_all [asPage]

/-! ### What a write does to the table -/

/-- A photo that a write accepts has a sort order from zero. -/
theorem validatePhoto_ordered {photo : LoanWorkspacePhoto} {done : Unit}
    (valid : validatePhoto photo = .ok done) : 0 ≤ photo.sortOrder := by
  simp only [validatePhoto, bind_eq_ok, ensure_eq_ok, Bool.and_eq_true, decide_eq_true_eq] at valid
  obtain ⟨_, -, _, -, _, -, _, -, _, -, -, bounds⟩ := valid
  exact bounds

/-- No photo has the identity of one that was not found. -/
theorem fresh_identity {photos : Table LoanWorkspacePhoto} {photo : LoanWorkspacePhoto}
    (missing : photos.find? (fun _ stored => photo.hasIdentity stored) = none) {id : ℕ}
    {other : LoanWorkspacePhoto} (stored : (id, other) ∈ photos) :
    identity other ≠ identity photo := by
  intro same
  have := Table.find?_none missing stored
  exact absurd (hasIdentity_iff.mpr same) (by simp [this])

/-- A photo that is new to its table: its identity is, it is not featured, and it has a place. -/
structure Fresh (photos : Table LoanWorkspacePhoto) (photo : LoanWorkspacePhoto) : Prop where
  identity : photos.find? (fun _ stored => photo.hasIdentity stored) = none
  plain : photo.isFeatured = false
  ordered : 0 ≤ photo.sortOrder

/-- A recorded photo is new, and is inserted as it was drafted. -/
theorem createPhotoMetadata_ok {known : ℕ → Bool} {draft : LoanWorkspacePhotoDraft}
    {createdAt : String} {photos after : Table LoanWorkspacePhoto}
    {answer : ℕ × LoanWorkspacePhoto}
    (created : createPhotoMetadata known draft createdAt photos = .ok (answer, after)) :
    Fresh photos (draft.row createdAt) ∧ answer = (photos.next, draft.row createdAt) ∧
      after = photos.insert (draft.row createdAt) := by
  simp only [createPhotoMetadata, photoIdByIdentityOn, bind_eq_ok, ensure_eq_ok, pure_eq_ok,
    Bool.and_eq_true, Option.isNone_iff_eq_none, Option.map_eq_none_iff, Prod.mk.injEq] at created
  obtain ⟨_, valid, _, ⟨-, missing⟩, _, -, rfl, rfl⟩ := created
  exact ⟨⟨missing, rfl, validatePhoto_ordered valid⟩, rfl, rfl⟩

/-- A recorded upload was there, or is new and comes after the photos of its workspace. -/
theorem recordUploadedPhoto_ok {known : ℕ → Bool} {workspace : Workspace}
    {caption : Option String} {imageUrl createdAt : String}
    {photos after : Table LoanWorkspacePhoto} {answer : ℕ × LoanWorkspacePhoto}
    (recorded : recordUploadedPhoto known workspace caption imageUrl createdAt photos =
      .ok (answer, after)) :
    (answer ∈ photos ∧
        (manualPhoto workspace caption imageUrl createdAt).hasIdentity answer.2 = true ∧
        after = photos) ∨
      ∃ photo, photo = { manualPhoto workspace caption imageUrl createdAt with
          sortOrder := nextSortOrder workspace.connectionId workspace.loanAccount photos } ∧
        photos.find? (fun _ stored => photo.hasIdentity stored) = none ∧
        answer = (photos.next, photo) ∧ after = photos.insert photo := by
  simp only [recordUploadedPhoto, createManualPhotoMetadata, bind_eq_ok, ensure_eq_ok,
    pure_eq_ok] at recorded
  obtain ⟨⟨found, result⟩, ⟨_, -, stored⟩, _, -, same⟩ := recorded
  obtain ⟨rfl, rfl⟩ := Prod.mk.inj same
  split at stored
  · -- The photo is there, and nothing is written.
    rename_i existing located
    simp only [pure_eq_ok, Prod.mk.injEq] at stored
    obtain ⟨rfl, rfl⟩ := stored
    exact .inl ⟨(Table.find?_some located).1, (Table.find?_some located).2, rfl⟩
  · -- The photo is new, and is inserted after the others.
    rename_i missing
    simp only [pure_eq_ok, Prod.mk.injEq] at stored
    obtain ⟨rfl, rfl⟩ := stored
    exact .inr ⟨_, rfl, missing, rfl, rfl⟩

/-- A photo after one of its workspace is featured. -/
def featuring (workspace : Workspace) (photoId id : ℕ) (photo : LoanWorkspacePhoto) :
    LoanWorkspacePhoto :=
  if photo.workspace = workspace then { photo with isFeatured := id == photoId } else photo

/-- Taking the flag of a workspace away and giving it to one photo is featuring that photo. -/
theorem featuring_eq {workspace : Workspace} {photoId id : ℕ} {photo cleared : LoanWorkspacePhoto}
    (clears : cleared = if photo.workspace == workspace && photo.isFeatured then
      { photo with isFeatured := false } else photo) :
    (if isPhotoOf workspace photoId id cleared then { cleared with isFeatured := true }
      else cleared) = featuring workspace photoId id photo := by
  obtain ⟨connectionId, loanAccount, provider, caption, sourceUrl, imageUrl, sortOrder, isFeatured,
    createdAt⟩ := photo
  by_cases inside : (⟨connectionId, loanAccount⟩ : Workspace) = workspace
  · cases isFeatured <;> by_cases chosen : id = photoId <;>
      simp [clears, featuring, isPhotoOf, LoanWorkspacePhoto.workspace, inside, chosen]
  · simp [clears, featuring, isPhotoOf, LoanWorkspacePhoto.workspace, inside]

/-- Featuring a photo sets the flag of the workspace's photos, and answers with the photo. -/
theorem setFeaturedPhoto_ok {workspace : Workspace} {photoId : ℕ}
    {photos after : Table LoanWorkspacePhoto} {answer : ℕ × LoanWorkspacePhoto}
    (set : setFeaturedPhoto workspace photoId photos = .ok (answer, after)) :
    (∃ photo, (photoId, photo) ∈ photos ∧ photo.workspace = workspace) ∧
      after.rows = photos.rows.map (fun entry =>
        (entry.1, featuring workspace photoId entry.1 entry.2)) ∧
      after.next = photos.next ∧ answer ∈ after := by
  simp only [setFeaturedPhoto, photoOn, bind_eq_ok, required_eq_ok, ensure_eq_ok, pure_eq_ok,
    Prod.mk.injEq] at set
  obtain ⟨listed, located, _, -, answered, found, rfl, rfl⟩ := set
  obtain ⟨there, same⟩ := Table.find?_some located
  simp only [Bool.and_eq_true, beq_iff_eq] at same
  refine ⟨⟨listed.2, same.1 ▸ there, same.2⟩, ?_, rfl, (Table.find?_some found).1⟩
  simp only [Table.updateWhere, List.map_map]
  exact List.map_congr_left fun entry _ => congrArg (Prod.mk entry.1) (featuring_eq rfl)

/-- Forgetting a photo answers with it, and deletes it. -/
theorem deletePhotoMetadata_ok {workspace : Workspace} {photoId : ℕ}
    {photos after : Table LoanWorkspacePhoto} {answer : ℕ × LoanWorkspacePhoto}
    (deleted : deletePhotoMetadata workspace photoId photos = .ok (answer, after)) :
    answer ∈ photos ∧ answer.1 = photoId ∧ answer.2.workspace = workspace ∧
      after = photos.deleteWhere (isPhotoOf workspace photoId) := by
  simp only [deletePhotoMetadata, photoOn, bind_eq_ok, required_eq_ok, ensure_eq_ok, pure_eq_ok,
    Prod.mk.injEq] at deleted
  obtain ⟨found, located, _, -, rfl, rfl⟩ := deleted
  obtain ⟨there, same⟩ := Table.find?_some located
  simp only [Bool.and_eq_true, beq_iff_eq] at same
  exact ⟨there, same.1, same.2, rfl⟩

/-! ### What every write keeps -/

/-- A new photo keeps what the table enforces. -/
theorem Gallery.insert_keeps (gallery : Gallery) {photo : LoanWorkspacePhoto}
    (missing : gallery.photos.find? (fun _ stored => photo.hasIdentity stored) = none)
    (plain : photo.isFeatured = false) :
    UniqueKey identity (gallery.photos.insert photo) ∧
      UniqueKey featuredIn (gallery.photos.insert photo) := by
  constructor
  · refine gallery.identified.insert fun id old value stored has same => ?_
    exact fresh_identity missing stored (has.trans same.symm)
  · refine gallery.covered.insert fun id old value stored has => ?_
    simp [featuredIn, plain]

/-- Featuring a photo takes the flag of every other photo in the workspace. -/
theorem Gallery.feature_keeps (gallery : Gallery) {workspace : Workspace} {photoId : ℕ}
    {after : Table LoanWorkspacePhoto}
    (rows : after.rows = gallery.photos.rows.map fun entry =>
      (entry.1, featuring workspace photoId entry.1 entry.2)) :
    UniqueKey identity after ∧ UniqueKey featuredIn after ∧
      ∀ id photo, (id, photo) ∈ after → 0 ≤ photo.sortOrder := by
  -- Every photo was stored under its id, with another flag perhaps.
  have origin : ∀ id photo, (id, photo) ∈ after →
      ∃ old, (id, old) ∈ gallery.photos ∧ photo = featuring workspace photoId id old := by
    intro id photo stored
    rw [Table.mem_rows, rows] at stored
    obtain ⟨entry, there, same⟩ := List.mem_map.mp stored
    obtain ⟨rfl, rfl⟩ := Prod.mk.inj same
    exact ⟨entry.2, there, rfl⟩
  have kept : ∀ id old, identity (featuring workspace photoId id old) = identity old ∧
      (featuring workspace photoId id old).sortOrder = old.sortOrder := by
    intro id old
    unfold featuring
    split <;> exact ⟨rfl, rfl⟩
  refine ⟨?_, ?_, ?_⟩
  · intro left right leftPhoto rightPhoto value leftStored rightStored leftKey rightKey
    obtain ⟨leftOld, leftThere, rfl⟩ := origin _ _ leftStored
    obtain ⟨rightOld, rightThere, rfl⟩ := origin _ _ rightStored
    rw [(kept _ _).1] at leftKey rightKey
    exact gallery.identified _ _ _ _ value leftThere rightThere leftKey rightKey
  · -- In the workspace only the chosen photo is featured; elsewhere nothing changed.
    have featured : ∀ id old value,
        featuredIn (featuring workspace photoId id old) = some value →
        (value = workspace ∧ id = photoId) ∨ (value ≠ workspace ∧ featuredIn old = some value) := by
      intro id old value has
      by_cases inside : old.workspace = workspace
      · rw [featuring, if_pos inside] at has
        simp only [featuredIn, Option.ite_none_right_eq_some, Option.some.injEq, beq_iff_eq] at has
        exact .inl ⟨has.2.symm.trans inside, has.1⟩
      · rw [featuring, if_neg inside] at has
        refine .inr ⟨?_, has⟩
        rintro rfl
        simp only [featuredIn, Option.ite_none_right_eq_some, Option.some.injEq] at has
        exact inside has.2
    intro left right leftPhoto rightPhoto value leftStored rightStored leftKey rightKey
    obtain ⟨leftOld, leftThere, rfl⟩ := origin _ _ leftStored
    obtain ⟨rightOld, rightThere, rfl⟩ := origin _ _ rightStored
    rcases featured _ _ _ leftKey with ⟨inside, rfl⟩ | ⟨outside, leftHad⟩ <;>
      rcases featured _ _ _ rightKey with ⟨rightInside, rfl⟩ | ⟨rightOutside, rightHad⟩
    · rfl
    · exact absurd inside rightOutside
    · exact absurd rightInside outside
    · exact gallery.covered _ _ _ _ value leftThere rightThere leftHad rightHad
  · intro id photo stored
    obtain ⟨old, there, rfl⟩ := origin _ _ stored
    rw [(kept _ _).2]
    exact gallery.ordered id old there

/-- The next sort order is one after the largest one of the workspace, or zero. -/
theorem nextSortOrder_rowsOf (workspace : Workspace) (photos : Table LoanWorkspacePhoto) :
    nextSortOrder workspace.connectionId workspace.loanAccount photos =
      (rowsOf workspace photos).foldl (fun last entry => max last entry.2.sortOrder) (-1) + 1 := by
  have same : (photos.rows.filter fun entry => entry.2.connectionId == workspace.connectionId &&
      entry.2.loanAccount == workspace.loanAccount) = rowsOf workspace photos := by
    refine List.filter_congr fun entry _ => ?_
    rw [Bool.eq_iff_iff]
    obtain ⟨connectionId, loanAccount⟩ := workspace
    simp [LoanWorkspacePhoto.workspace]
  rw [nextSortOrder, same]

/-- A photo of a workspace comes before the next sort order. -/
theorem lt_nextSortOrder {workspace : Workspace} {photos : Table LoanWorkspacePhoto}
    {entry : ℕ × LoanWorkspacePhoto} (stored : entry ∈ rowsOf workspace photos) :
    entry.2.sortOrder < nextSortOrder workspace.connectionId workspace.loanAccount photos := by
  rw [nextSortOrder_rowsOf]
  have bounds := le_foldl_max (fun entry : ℕ × LoanWorkspacePhoto => entry.2.sortOrder)
    (rowsOf workspace photos) (-1)
  exact Int.lt_add_one_of_le (bounds.2 entry stored)

/-- Sort orders start from zero. -/
theorem nextSortOrder_nonneg (workspace : Workspace) (photos : Table LoanWorkspacePhoto) :
    0 ≤ nextSortOrder workspace.connectionId workspace.loanAccount photos := by
  rw [nextSortOrder_rowsOf]
  have bounds := le_foldl_max (fun entry : ℕ × LoanWorkspacePhoto => entry.2.sortOrder)
    (rowsOf workspace photos) (-1)
  have := bounds.1
  omega

/-- The next sort order is one after the last page of the album. -/
theorem Gallery.nextSortOrder_eq (gallery : Gallery) (workspace : Workspace) :
    nextSortOrder workspace.connectionId workspace.loanAccount gallery.photos =
      (albumOf workspace gallery.photos).nextSortOrder := by
  rw [nextSortOrder_rowsOf, Album.nextSortOrder]
  congr 1
  rcases List.eq_nil_or_concat (orderBy place (rowsOf workspace gallery.photos)) with
    nothing | ⟨before, last, listed⟩
  · -- Without photos both are the default.
    have empty : rowsOf workspace gallery.photos = [] :=
      List.perm_nil.mp (nothing ▸ (orderBy_perm place _).symm)
    have noPages : (albumOf workspace gallery.photos).pages = [] := by simp [albumOf, nothing]
    simp [noPages, empty]
  · -- The last page has the largest sort order.
    have stored : last ∈ rowsOf workspace gallery.photos := by
      refine mem_orderBy.mp (?_ : last ∈ orderBy place _)
      simp [listed]
    have largest : ∀ entry ∈ rowsOf workspace gallery.photos,
        entry.2.sortOrder ≤ last.2.sortOrder := by
      intro entry there
      have below : place entry ≤ place last :=
        orderBy_le_last (listed.trans List.concat_eq_append) there
      rcases Prod.Lex.toLex_le_toLex.mp below with less | ⟨equal, -⟩
      · exact le_of_lt less
      · exact le_of_eq equal
    have positive := gallery.ordered last.1 last.2 (mem_rowsOf.mp stored).1
    have page : (albumOf workspace gallery.photos).pages.getLast? = some (asPage last) := by
      simp [albumOf, listed]
    have reached := (le_foldl_max (fun entry : ℕ × LoanWorkspacePhoto => entry.2.sortOrder)
      (rowsOf workspace gallery.photos) (-1)).2 last stored
    rw [page]
    exact le_antisymm (foldl_max_le.mpr ⟨le_trans (by decide) positive, largest⟩) reached

/-- A write keeps what the table enforces. -/
theorem GalleryOp.run_keeps {known : ℕ → Bool} {op : GalleryOp} {gallery : Gallery}
    {answer : ℕ × LoanWorkspacePhoto} {after : Table LoanWorkspacePhoto}
    (performed : op.run known gallery.photos = .ok (answer, after)) :
    UniqueKey identity after ∧ UniqueKey featuredIn after ∧
      ∀ id photo, (id, photo) ∈ after → 0 ≤ photo.sortOrder := by
  cases op with
  | create draft createdAt =>
    obtain ⟨fresh, -, rfl⟩ := createPhotoMetadata_ok performed
    obtain ⟨identified, covered⟩ := gallery.insert_keeps fresh.identity fresh.plain
    refine ⟨identified, covered, fun id photo stored => ?_⟩
    rcases Table.mem_insert.mp stored with there | new
    · exact gallery.ordered id photo there
    · cases new
      exact fresh.ordered
  | finalize workspace caption imageUrl createdAt =>
    rcases recordUploadedPhoto_ok performed with ⟨-, -, rfl⟩ | ⟨photo, built, missing, -, rfl⟩
    · exact ⟨gallery.identified, gallery.covered, gallery.ordered⟩
    · obtain ⟨identified, covered⟩ := gallery.insert_keeps missing (by rw [built]; rfl)
      refine ⟨identified, covered, fun id other stored => ?_⟩
      rcases Table.mem_insert.mp stored with there | new
      · exact gallery.ordered id other there
      · cases new
        rw [built]
        exact nextSortOrder_nonneg workspace gallery.photos
  | feature workspace photoId =>
    obtain ⟨-, rows, -, -⟩ := setFeaturedPhoto_ok performed
    exact gallery.feature_keeps rows
  | delete workspace photoId =>
    obtain ⟨-, -, -, rfl⟩ := deletePhotoMetadata_ok performed
    refine ⟨gallery.identified.deleteWhere _, gallery.covered.deleteWhere _, ?_⟩
    exact fun id photo stored => gallery.ordered id photo (Table.mem_deleteWhere.mp stored).1

/-! ### Writes act on albums -/

/-- An album depends on the rows of its workspace only. -/
theorem albumOf_congr {workspace : Workspace} {photos after : Table LoanWorkspacePhoto}
    (same : rowsOf workspace after = rowsOf workspace photos) :
    albumOf workspace after = albumOf workspace photos := by
  simp [albumOf, same]

/-- A photo that is inserted does not become the cover. -/
theorem cover_insert {workspace : Workspace} (photos : Table LoanWorkspacePhoto)
    {photo : LoanWorkspacePhoto} (plain : photo.isFeatured = false)
    (inside : photo.workspace = workspace) :
    (albumOf workspace (photos.insert photo)).cover = (albumOf workspace photos).cover := by
  simp [albumOf, rowsOf_insert, inside, List.find?_append, plain]

/-- A page with an identity is a stored photo with it. -/
theorem any_hasIdentity {workspace : Workspace} {photos : Table LoanWorkspacePhoto}
    {photo : LoanWorkspacePhoto} (inside : photo.workspace = workspace) :
    ((albumOf workspace photos).pages.any fun page => photo.hasIdentity page.2) = true ↔
      ∃ id other, (id, other) ∈ photos ∧ photo.hasIdentity other = true := by
  simp only [List.any_eq_true, mem_pages]
  constructor
  · rintro ⟨_, ⟨entry, stored, -, rfl⟩, same⟩
    exact ⟨entry.1, entry.2, stored, same⟩
  · rintro ⟨id, other, stored, same⟩
    refine ⟨asPage (id, other), ⟨(id, other), stored, ?_, rfl⟩, same⟩
    have equal := hasIdentity_iff.mp same
    simp only [identity, Option.some.injEq, Prod.mk.injEq] at equal
    exact equal.1.trans inside

/-- A new photo is put at its place. -/
theorem albumOf_put {workspace : Workspace} {photos : Table LoanWorkspacePhoto}
    {photo : LoanWorkspacePhoto} (plain : photo.isFeatured = false)
    (inside : photo.workspace = workspace) :
    albumOf workspace (photos.insert photo) =
      (albumOf workspace photos).act (.put (photos.next, photo)) := by
  have page : asPage (photos.next, photo) = (photos.next, photo) := by
    cases photo
    simp_all [asPage]
  have distinct : ((rowsOf workspace (photos.insert photo)).map asPage |>.map place).Nodup := by
    rw [List.map_map]
    exact rowsOf_places workspace (photos.insert photo)
  rw [rowsOf_insert, if_pos inside, List.map_append, List.map_singleton, page] at distinct
  -- Sorting the pages before the new one is put does not matter.
  have sorted : (albumOf workspace (photos.insert photo)).pages =
      orderBy place ((albumOf workspace photos).pages ++ [(photos.next, photo)]) := by
    rw [pages_eq, pages_eq, rowsOf_insert, if_pos inside, List.map_append, List.map_singleton, page]
    exact (orderBy_congr ((orderBy_perm place _).append_right _) distinct).symm
  have covered := cover_insert photos plain inside
  simp only [Album.act, ← sorted, ← covered]

/-- A new upload becomes the last page. -/
theorem Gallery.albumOf_append (gallery : Gallery) {workspace : Workspace}
    {manual photo : LoanWorkspacePhoto}
    (built : photo = { manual with
      sortOrder := nextSortOrder workspace.connectionId workspace.loanAccount gallery.photos })
    (missing : gallery.photos.find? (fun _ stored => photo.hasIdentity stored) = none)
    (plain : manual.isFeatured = false) (inside : manual.workspace = workspace) :
    albumOf workspace (gallery.photos.insert photo) =
      (albumOf workspace gallery.photos).act (.append (gallery.photos.next, manual)) := by
  have photoInside : photo.workspace = workspace := by rw [built]; exact inside
  have photoPlain : photo.isFeatured = false := by rw [built]; exact plain
  have absent : ((albumOf workspace gallery.photos).pages.any fun page =>
      manual.hasIdentity page.2) = false := by
    rw [Bool.eq_false_iff, Ne, any_hasIdentity inside]
    rintro ⟨id, other, stored, same⟩
    have unlike := Table.find?_none missing stored
    rw [built] at unlike
    exact Bool.false_ne_true (unlike.symm.trans same)
  have page : asPage (gallery.photos.next, photo) = (gallery.photos.next, photo) := by
    cases photo
    simp_all [asPage]
  -- The sort order of the new photo is above all others.
  have pages : (albumOf workspace (gallery.photos.insert photo)).pages =
      (albumOf workspace gallery.photos).pages ++ [(gallery.photos.next, photo)] := by
    simp only [albumOf]
    rw [rowsOf_insert, if_pos photoInside, orderBy_append (rowsOf_places _ _), List.map_append,
      List.map_singleton, page]
    intro other stored
    refine Prod.Lex.toLex_lt_toLex.mpr (.inl ?_)
    rw [built]
    exact lt_nextSortOrder stored
  have covered := cover_insert gallery.photos photoPlain photoInside
  rw [gallery.nextSortOrder_eq workspace] at built
  simp only [Album.act, absent, Bool.false_eq_true, if_false, ← covered, ← built, ← pages]

/-- An upload that was recorded before changes nothing. -/
theorem albumOf_append_again {workspace : Workspace} {photos : Table LoanWorkspacePhoto}
    {answer : ℕ × LoanWorkspacePhoto} {manual : LoanWorkspacePhoto} {id : ℕ}
    (stored : answer ∈ photos) (same : manual.hasIdentity answer.2 = true)
    (inside : manual.workspace = workspace) :
    albumOf workspace photos = (albumOf workspace photos).act (.append (id, manual)) := by
  have there := (any_hasIdentity inside).mpr ⟨answer.1, answer.2, stored, same⟩
  simp [Album.act, there]

/-- The rows of the workspace in which a photo is featured, and of the others. -/
theorem rowsOf_featuring {workspace : Workspace} {photoId : ℕ}
    {photos after : Table LoanWorkspacePhoto}
    (rows : after.rows = photos.rows.map fun entry =>
      (entry.1, featuring workspace photoId entry.1 entry.2)) :
    (rowsOf workspace after = (rowsOf workspace photos).map fun entry =>
        (entry.1, { entry.2 with isFeatured := entry.1 == photoId })) ∧
      ∀ other, other ≠ workspace → rowsOf other after = rowsOf other photos := by
  have kept : ∀ entry : ℕ × LoanWorkspacePhoto,
      (featuring workspace photoId entry.1 entry.2).workspace = entry.2.workspace := by
    intro entry
    unfold featuring
    split <;> rfl
  have listed : ∀ other, rowsOf other after = (rowsOf other photos).map fun entry =>
      (entry.1, featuring workspace photoId entry.1 entry.2) := by
    intro other
    simp only [rowsOf, rows, List.filter_map, Function.comp_def, kept]
  constructor
  · rw [listed]
    refine List.map_congr_left fun entry stored => ?_
    rw [featuring, if_pos (mem_rowsOf.mp stored).2]
  · intro other apart
    rw [listed]
    refine (List.map_congr_left fun entry stored => ?_).trans (List.map_id _)
    have outside : entry.2.workspace ≠ workspace := fun same =>
      apart ((mem_rowsOf.mp stored).2.symm.trans same)
    rw [featuring, if_neg outside]
    rfl

/-- A featured photo becomes the cover. -/
theorem albumOf_choose {workspace : Workspace} {photoId : ℕ}
    {photos after : Table LoanWorkspacePhoto} {photo : LoanWorkspacePhoto}
    (stored : (photoId, photo) ∈ photos) (inside : photo.workspace = workspace)
    (rows : after.rows = photos.rows.map fun entry =>
      (entry.1, featuring workspace photoId entry.1 entry.2)) :
    albumOf workspace after = (albumOf workspace photos).act (.choose photoId) := by
  obtain ⟨listed, -⟩ := rowsOf_featuring rows
  have pages : (albumOf workspace after).pages = (albumOf workspace photos).pages := by
    rw [pages_eq, pages_eq, listed, List.map_map]
    rfl
  have covered : (albumOf workspace after).cover = some photoId := by
    -- The first row with the flag is the one that was chosen.
    have there : (photoId, photo) ∈ rowsOf workspace photos := mem_rowsOf.mpr ⟨stored, inside⟩
    simp only [albumOf, listed, List.find?_map, Option.map_map]
    cases found : (rowsOf workspace photos).find? fun entry => entry.1 == photoId with
    | none =>
      have := List.find?_eq_none.mp found _ there
      simp at this
    | some entry =>
      have same := List.find?_some found
      simp only [beq_iff_eq] at same
      simp only [Function.comp_def, found, Option.map_some, same]
  rw [Album.act, ← pages, ← covered]

/-- A forgotten photo is taken out. -/
theorem Gallery.albumOf_remove (gallery : Gallery) (workspace : Workspace) (photoId : ℕ) :
    albumOf workspace (gallery.photos.deleteWhere (isPhotoOf workspace photoId)) =
      (albumOf workspace gallery.photos).act (.remove photoId) := by
  have rows : rowsOf workspace (gallery.photos.deleteWhere (isPhotoOf workspace photoId)) =
      (rowsOf workspace gallery.photos).filter fun entry => entry.1 != photoId := by
    rw [rowsOf_deleteWhere]
    refine List.filter_congr fun entry stored => ?_
    simp [isPhotoOf, (mem_rowsOf.mp stored).2, bne]
  have pages : (albumOf workspace
        (gallery.photos.deleteWhere (isPhotoOf workspace photoId))).pages =
      (albumOf workspace gallery.photos).pages.filter fun page => page.1 != photoId := by
    simp only [albumOf]
    rw [rows, orderBy_filter (rowsOf_places _ _), List.filter_map]
    rfl
  have covered : (albumOf workspace
        (gallery.photos.deleteWhere (isPhotoOf workspace photoId))).cover =
      (albumOf workspace gallery.photos).cover.filter (· != photoId) := by
    -- The photos that are left are those of a table that enforces the same.
    let left_ : Gallery := {
      photos := gallery.photos.deleteWhere (isPhotoOf workspace photoId)
      identified := gallery.identified.deleteWhere _
      covered := gallery.covered.deleteWhere _
      ordered := fun id photo stored =>
        gallery.ordered id photo (Table.mem_deleteWhere.mp stored).1 }
    ext id
    have before := gallery.cover_eq_some workspace id
    have after := left_.cover_eq_some workspace id
    simp only [left_, rows, List.mem_filter, bne_iff_ne] at after
    rw [after, Option.filter_eq_some_iff, before, bne_iff_ne]
    tauto
  simp only [Album.act, ← pages, ← covered]

/-- Forgetting a photo of another workspace takes nothing out. -/
theorem rowsOf_delete_elsewhere {workspace other : Workspace} {photoId : ℕ}
    {photos : Table LoanWorkspacePhoto} (apart : other ≠ workspace) :
    rowsOf other (photos.deleteWhere (isPhotoOf workspace photoId)) = rowsOf other photos := by
  rw [rowsOf_deleteWhere]
  refine List.filter_eq_self.mpr fun entry stored => ?_
  have outside : entry.2.workspace ≠ workspace := fun same =>
    apart ((mem_rowsOf.mp stored).2.symm.trans same)
  simp [isPhotoOf, outside]

/-- A write acts on the album of its workspace, and leaves every other album alone. -/
theorem GalleryOp.run_acts {known : ℕ → Bool} {op : GalleryOp} {gallery : Gallery}
    {answer : ℕ × LoanWorkspacePhoto} {after : Table LoanWorkspacePhoto}
    (performed : op.run known gallery.photos = .ok (answer, after)) :
    albumOf op.workspace after = (albumOf op.workspace gallery.photos).act (op.action answer) ∧
      ∀ other, other ≠ op.workspace → albumOf other after = albumOf other gallery.photos := by
  cases op with
  | create draft createdAt =>
    obtain ⟨fresh, rfl, rfl⟩ := createPhotoMetadata_ok performed
    refine ⟨albumOf_put fresh.plain rfl, fun other apart => albumOf_congr ?_⟩
    have outside : (draft.row createdAt).workspace ≠ other := fun same => apart same.symm
    rw [rowsOf_insert, if_neg outside, List.append_nil]
  | finalize workspace caption imageUrl createdAt =>
    rcases recordUploadedPhoto_ok performed with
      ⟨stored, same, rfl⟩ | ⟨photo, built, missing, rfl, rfl⟩
    · exact ⟨albumOf_append_again stored same rfl, fun _ _ => rfl⟩
    · refine ⟨gallery.albumOf_append built missing rfl rfl, fun other apart => albumOf_congr ?_⟩
      have outside : photo.workspace ≠ other := by
        rw [built]
        exact fun same => apart same.symm
      rw [rowsOf_insert, if_neg outside, List.append_nil]
  | feature workspace photoId =>
    obtain ⟨⟨photo, stored, inside⟩, rows, -, -⟩ := setFeaturedPhoto_ok performed
    exact ⟨albumOf_choose stored inside rows, fun other apart =>
      albumOf_congr ((rowsOf_featuring rows).2 other apart)⟩
  | delete workspace photoId =>
    obtain ⟨-, -, -, rfl⟩ := deletePhotoMetadata_ok performed
    exact ⟨gallery.albumOf_remove workspace photoId, fun other apart =>
      albumOf_congr (rowsOf_delete_elsewhere apart)⟩

/-! ### Whole runs -/

/-- A write and the connections that are there at its moment. -/
structure GalleryInput where
  known : ℕ → Bool
  op : GalleryOp

/-- The photos after a write; one that fails commits nothing. -/
def Gallery.serve (gallery : Gallery) (input : GalleryInput) : Gallery :=
  match performed : input.op.run input.known gallery.photos with
  | .ok (_, after) =>
    { photos := after
      identified := (GalleryOp.run_keeps performed).1
      covered := (GalleryOp.run_keeps performed).2.1
      ordered := (GalleryOp.run_keeps performed).2.2 }
  | .error _ => gallery

/-- The photos after writes in turn. -/
def Gallery.serveAll (gallery : Gallery) (inputs : List GalleryInput) : Gallery :=
  inputs.foldl Gallery.serve gallery

/-- What a write does to the album of a workspace; one that fails does nothing. -/
def GalleryInput.actions (workspace : Workspace) (input : GalleryInput)
    (photos : Table LoanWorkspacePhoto) : List AlbumAction :=
  match input.op.run input.known photos with
  | .ok (answer, _) => if input.op.workspace = workspace then [input.op.action answer] else []
  | .error _ => []

/-- What writes in turn do to the album of a workspace. -/
def Gallery.actions (workspace : Workspace) : List GalleryInput → Gallery → List AlbumAction
  | [], _ => []
  | input :: rest, gallery =>
    input.actions workspace gallery.photos ++ Gallery.actions workspace rest (gallery.serve input)

/-- The album of a workspace after a write is what the write's actions make of it. -/
theorem Gallery.serve_acts (gallery : Gallery) (input : GalleryInput) (workspace : Workspace) :
    albumOf workspace (gallery.serve input).photos =
      (input.actions workspace gallery.photos).foldl Album.act
        (albumOf workspace gallery.photos) := by
  unfold Gallery.serve
  split
  · rename_i answer after performed
    obtain ⟨acts, apart⟩ := GalleryOp.run_acts performed
    by_cases own : input.op.workspace = workspace
    · subst own
      simpa [GalleryInput.actions, performed] using acts
    · simpa [GalleryInput.actions, performed, own] using apart workspace (Ne.symm own)
  · rename_i failure performed
    simp [GalleryInput.actions, performed]

/-- The album of a workspace after writes in turn is what their actions make of it. -/
theorem Gallery.serveAll_acts (workspace : Workspace) (inputs : List GalleryInput) :
    ∀ gallery : Gallery, albumOf workspace (gallery.serveAll inputs).photos =
      (Gallery.actions workspace inputs gallery).foldl Album.act
        (albumOf workspace gallery.photos) := by
  induction inputs with
  | nil => exact fun _ => rfl
  | cons input rest ih =>
    intro gallery
    -- The first write acts on the album, and the others act on what it leaves.
    have later := ih (gallery.serve input)
    rw [gallery.serve_acts input workspace, ← List.foldl_append] at later
    exact later

/-- A stored photo is the page of one album. -/
theorem exists_page {photos : Table LoanWorkspacePhoto} {url : String} :
    url ∈ photoImageLocations photos ↔
      ∃ workspace, ∃ page ∈ (albumOf workspace photos).pages, page.2.imageUrl = url := by
  simp only [photoImageLocations, List.mem_map, mem_pages]
  constructor
  · rintro ⟨entry, stored, rfl⟩
    exact ⟨entry.2.workspace, asPage entry, ⟨entry, stored, rfl, rfl⟩, rfl⟩
  · rintro ⟨_, _, ⟨entry, stored, -, rfl⟩, rfl⟩
    exact ⟨entry, stored, rfl⟩

/--
Photos are kept as albums: after any writes in turn, the album of a workspace is what the actions of
its own successful writes make of it, its photos are listed as the album shows them, and exactly the
objects that pages of albums stand for are served.
-/
theorem albums_kept (gallery : Gallery) (inputs : List GalleryInput) :
    (∀ workspace,
      albumOf workspace (gallery.serveAll inputs).photos =
          (Gallery.actions workspace inputs gallery).foldl Album.act
            (albumOf workspace gallery.photos) ∧
        photosOn workspace (gallery.serveAll inputs).photos =
          (albumOf workspace (gallery.serveAll inputs).photos).display) ∧
      ∀ (parseUrl : String → Option Cutover.Url) (routeKey key : String),
        serveLoanPhoto parseUrl true (photoImageLocations (gallery.serveAll inputs).photos)
            routeKey = .redirect key ↔
          photoKeyFromRoute routeKey = .ok key ∧
            ∃ workspace, ∃ page ∈ (albumOf workspace (gallery.serveAll inputs).photos).pages,
              classifyPhoto (classifyAbsolute parseUrl) page.2.imageUrl = .ok (.stored key) := by
  refine ⟨fun workspace => ⟨Gallery.serveAll_acts workspace inputs gallery,
    (gallery.serveAll inputs).photosOn_eq workspace⟩, fun parseUrl routeKey key => ?_⟩
  rw [serveLoanPhoto_eq]
  constructor
  · rintro ⟨-, route, location, stored, read⟩
    obtain ⟨workspace, page, listed, rfl⟩ := exists_page.mp stored
    exact ⟨route, workspace, page, listed, read⟩
  · rintro ⟨route, workspace, page, listed, read⟩
    exact ⟨rfl, route, page.2.imageUrl, exists_page.mpr ⟨workspace, page, listed, rfl⟩, read⟩

/-! ### Uploads that are finalized again -/

/-- A photo keeps its id and identity in every write but the one that forgets it. -/
theorem GalleryOp.run_retains {known : ℕ → Bool} {op : GalleryOp}
    {photos after : Table LoanWorkspacePhoto} {answer : ℕ × LoanWorkspacePhoto} {id : ℕ}
    {photo : LoanWorkspacePhoto} (performed : op.run known photos = .ok (answer, after))
    (stored : (id, photo) ∈ photos) (kept : op ≠ .delete photo.workspace id) :
    ∃ row, (id, row) ∈ after ∧ identity row = identity photo := by
  cases op with
  | create draft createdAt =>
    obtain ⟨-, -, rfl⟩ := createPhotoMetadata_ok performed
    exact ⟨photo, Table.mem_insert.mpr (.inl stored), rfl⟩
  | finalize workspace caption imageUrl createdAt =>
    rcases recordUploadedPhoto_ok performed with ⟨-, -, rfl⟩ | ⟨_, -, -, -, rfl⟩
    · exact ⟨photo, stored, rfl⟩
    · exact ⟨photo, Table.mem_insert.mpr (.inl stored), rfl⟩
  | feature workspace photoId =>
    obtain ⟨-, rows, -, -⟩ := setFeaturedPhoto_ok performed
    refine ⟨featuring workspace photoId id photo, ?_, ?_⟩
    · rw [Table.mem_rows, rows]
      exact List.mem_map.mpr ⟨(id, photo), stored, rfl⟩
    · unfold featuring
      split <;> rfl
  | delete workspace photoId =>
    obtain ⟨-, -, -, rfl⟩ := deletePhotoMetadata_ok performed
    refine ⟨photo, Table.mem_deleteWhere.mpr ⟨stored, ?_⟩, rfl⟩
    -- The deleted row would be the photo itself.
    rw [Bool.eq_false_iff]
    intro same
    simp only [isPhotoOf, Bool.and_eq_true, beq_iff_eq] at same
    exact kept (by rw [same.1, same.2])

/-- A photo keeps its id and identity when a write fails, too. -/
theorem Gallery.serve_retains (gallery : Gallery) {input : GalleryInput} {id : ℕ}
    {photo : LoanWorkspacePhoto} (stored : (id, photo) ∈ gallery.photos)
    (kept : input.op ≠ .delete photo.workspace id) :
    ∃ row, (id, row) ∈ (gallery.serve input).photos ∧ identity row = identity photo := by
  unfold Gallery.serve
  split
  · exact GalleryOp.run_retains ‹_› stored kept
  · exact ⟨photo, stored, rfl⟩

/-- A photo keeps its id and identity in all writes until one forgets it. -/
theorem Gallery.serveAll_retains {id : ℕ} {workspace : Workspace} (inputs : List GalleryInput)
    (kept : ∀ input ∈ inputs, input.op ≠ .delete workspace id) :
    ∀ (gallery : Gallery) (photo : LoanWorkspacePhoto), (id, photo) ∈ gallery.photos →
      photo.workspace = workspace →
      ∃ row, (id, row) ∈ (gallery.serveAll inputs).photos ∧ identity row = identity photo := by
  induction inputs with
  | nil => exact fun _ photo stored _ => ⟨photo, stored, rfl⟩
  | cons input rest ih =>
    intro gallery photo stored inside
    obtain ⟨row, there, same⟩ := gallery.serve_retains stored
      (inside ▸ kept input List.mem_cons_self)
    have equal := same
    simp only [identity, Option.some.injEq, Prod.mk.injEq] at equal
    obtain ⟨last, listed, sameLast⟩ := ih (fun other member => kept other
      (List.mem_cons_of_mem _ member)) (gallery.serve input) row there (equal.1.trans inside)
    exact ⟨last, listed, sameLast.trans same⟩

/-- An upload is recorded only with valid values, whenever that is. -/
theorem recordUploadedPhoto_valid {known : ℕ → Bool} {workspace : Workspace}
    {caption : Option String} {imageUrl createdAt : String} {photos : Table LoanWorkspacePhoto}
    {result : (ℕ × LoanWorkspacePhoto) × Table LoanWorkspacePhoto}
    (recorded : recordUploadedPhoto known workspace caption imageUrl createdAt photos =
      .ok result) (repeatedAt : String) :
    validatePhoto (manualPhoto workspace caption imageUrl repeatedAt) = .ok ⟨⟩ := by
  simp only [recordUploadedPhoto, createManualPhotoMetadata, bind_eq_ok] at recorded
  obtain ⟨_, ⟨_, valid, -⟩, -⟩ := recorded
  exact valid

/-- An upload that is recorded already is answered with its photo. -/
theorem recordUploadedPhoto_found {known : ℕ → Bool} {workspace : Workspace}
    {caption : Option String} {imageUrl createdAt : String} {photos : Table LoanWorkspacePhoto}
    {entry : ℕ × LoanWorkspacePhoto}
    (valid : validatePhoto (manualPhoto workspace caption imageUrl createdAt) = .ok ⟨⟩)
    (found : photos.find? (fun _ stored =>
      (manualPhoto workspace caption imageUrl createdAt).hasIdentity stored) = some entry) :
    recordUploadedPhoto known workspace caption imageUrl createdAt photos =
      .ok (entry, photos) := by
  have created : createManualPhotoMetadata workspace.connectionId workspace.loanAccount caption
      imageUrl createdAt photos = .ok (entry, photos) := by
    simp only [createManualPhotoMetadata, bind_eq_ok]
    refine ⟨⟨⟩, valid, ?_⟩
    simp only [manualPhoto] at found
    rw [found]
    rfl
  have old : entry.1 ≠ photos.next := ne_of_lt (Table.lt_next (Table.find?_some found).1)
  simp only [recordUploadedPhoto, bind_eq_ok, ensure_eq_ok, pure_eq_ok]
  exact ⟨(entry, photos), created, ⟨⟩, by simp [old], rfl⟩

/--
Finalizing an upload again finds its record: whatever is written in between, a repeated request is
answered with the photo that was recorded and writes nothing, until the photo is forgotten.
-/
theorem upload_recorded_once {known later : ℕ → Bool} {workspace : Workspace}
    {caption : Option String} {imageUrl createdAt : String} {gallery : Gallery}
    {answer : ℕ × LoanWorkspacePhoto} {after : Table LoanWorkspacePhoto}
    (recorded : recordUploadedPhoto known workspace caption imageUrl createdAt gallery.photos =
      .ok (answer, after)) (inputs : List GalleryInput)
    (kept : ∀ input ∈ inputs, input.op ≠ .delete workspace answer.1) (repeatedAt : String) :
    let final := ((gallery.serve ⟨known, .finalize workspace caption imageUrl createdAt⟩).serveAll
      inputs).photos
    ∃ row, identity row = identity answer.2 ∧
      recordUploadedPhoto later workspace caption imageUrl repeatedAt final =
        .ok ((answer.1, row), final) := by
  intro final
  -- The recorded photo is stored under its identity after the first request.
  have first : answer ∈ after ∧ identity answer.2 =
      identity (manualPhoto workspace caption imageUrl createdAt) := by
    rcases recordUploadedPhoto_ok recorded with ⟨stored, same, rfl⟩ | ⟨photo, built, -, rfl, rfl⟩
    · exact ⟨stored, hasIdentity_iff.mp same⟩
    · exact ⟨Table.mem_insert.mpr (.inr rfl), by rw [built]; rfl⟩
  have served : (gallery.serve ⟨known, .finalize workspace caption imageUrl createdAt⟩).photos =
      after := by
    unfold Gallery.serve
    split
    · rename_i performed
      exact (Prod.mk.inj (Except.ok.inj (performed.symm.trans recorded))).2
    · rename_i performed
      cases performed.symm.trans recorded
  have inside : answer.2.workspace = workspace := by
    have same := first.2
    simp only [identity, Option.some.injEq, Prod.mk.injEq] at same
    exact same.1
  obtain ⟨row, listed, same⟩ := Gallery.serveAll_retains inputs kept
    (gallery.serve ⟨known, .finalize workspace caption imageUrl createdAt⟩) answer.2
    (served ▸ first.1) inside
  refine ⟨row, same, ?_⟩
  -- So the second request finds it: no other photo has its identity.
  refine recordUploadedPhoto_found (recordUploadedPhoto_valid recorded repeatedAt) ?_
  cases found : final.find? fun _ stored =>
      (manualPhoto workspace caption imageUrl repeatedAt).hasIdentity stored with
  | none => exact absurd (same.trans first.2) (fresh_identity found listed)
  | some entry =>
    obtain ⟨there, matches_⟩ := Table.find?_some found
    have equal := Gallery.identified _ entry.1 answer.1 entry.2 row _ there listed
      (hasIdentity_iff.mp matches_) (same.trans first.2)
    obtain ⟨id, photo⟩ := entry
    obtain rfl : id = answer.1 := equal
    have one : photo = row := Table.unique there listed
    rw [one]

/-- A table without photos. -/
def Gallery.fresh : Gallery where
  photos := .empty
  identified := .empty _
  covered := .empty _
  ordered := fun _ _ stored => absurd stored (Table.not_mem_empty _)

/-- The workspace of a house. -/
def houseWorkspace : Workspace := ⟨9, "LN-9"⟩

/-- The first photo of a house, featured after its upload, is found when its upload is repeated. -/
theorem upload_recorded_once_house :
    let request : GalleryOp := .finalize houseWorkspace (some "front.jpg")
      "/media/loan-workspace/LN-9/front.jpg" "2026-01-01T00:00:00.000Z"
    let final := ((Gallery.fresh.serve ⟨fun _ => true, request⟩).serveAll
      [⟨fun _ => true, .feature houseWorkspace 1⟩]).photos
    ∃ row, identity row = some (houseWorkspace, "manual", "/media/loan-workspace/LN-9/front.jpg") ∧
      recordUploadedPhoto (fun _ => true) houseWorkspace (some "front.jpg")
        "/media/loan-workspace/LN-9/front.jpg" "2026-01-02T00:00:00.000Z" final =
          .ok ((1, row), final) := by
  intro request final
  have recorded : recordUploadedPhoto (fun _ => true) houseWorkspace (some "front.jpg")
      "/media/loan-workspace/LN-9/front.jpg" "2026-01-01T00:00:00.000Z" Gallery.fresh.photos =
      .ok ((1, manualPhoto houseWorkspace (some "front.jpg")
        "/media/loan-workspace/LN-9/front.jpg" "2026-01-01T00:00:00.000Z"),
        Gallery.fresh.photos.insert (manualPhoto houseWorkspace (some "front.jpg")
          "/media/loan-workspace/LN-9/front.jpg" "2026-01-01T00:00:00.000Z")) := by decide
  exact upload_recorded_once recorded [⟨fun _ => true, .feature houseWorkspace 1⟩]
    (by simp) "2026-01-02T00:00:00.000Z"

end FinStream.Media
