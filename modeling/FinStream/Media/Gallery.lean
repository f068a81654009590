import FinStream.Media.Authorization
import FinStream.Store.Key
import FinStream.Store.Ordering
import Mathlib.Data.Int.ConditionallyCompleteOrder
import Mathlib.Data.Int.SuccPred

/-! The photos of loan workspaces: every statement that writes them, and how they are listed. -/

namespace FinStream.Media

open Store Inbox

/-- A loan of a connection, whose photos are listed together. -/
structure Workspace where
  connectionId : ℕ
  loanAccount : String
  deriving DecidableEq

/-- The workspace that lists a photo. -/
def LoanWorkspacePhoto.workspace (photo : LoanWorkspacePhoto) : Workspace :=
  ⟨photo.connectionId, photo.loanAccount⟩

/-- The values a photo is created with. -/
structure LoanWorkspacePhotoDraft where
  connectionId : ℕ
  loanAccount : String
  provider : String
  caption : Option String
  sourceUrl : String
  imageUrl : String
  sortOrder : Int64
  deriving DecidableEq

/-- The row of a draft, which is not featured. -/
def LoanWorkspacePhotoDraft.row (draft : LoanWorkspacePhotoDraft) (createdAt : String) :
    LoanWorkspacePhoto where
  connectionId := draft.connectionId
  loanAccount := draft.loanAccount
  provider := draft.provider
  caption := draft.caption
  sourceUrl := draft.sourceUrl
  imageUrl := draft.imageUrl
  sortOrder := draft.sortOrder.toInt
  isFeatured := false
  createdAt

/-- The CHECK constraints of a row. -/
def LoanWorkspacePhoto.meetsChecks (photo : LoanWorkspacePhoto) : Bool :=
  0 < sqlLength (sqlTrim photo.loanAccount) && 0 < sqlLength (sqlTrim photo.provider) &&
    0 < sqlLength photo.sourceUrl && 0 < sqlLength photo.imageUrl

/-- The photo of a workspace with an id. -/
def photoOn (workspace : Workspace) (photoId : ℕ) (photos : Table LoanWorkspacePhoto) :
    Option (ℕ × LoanWorkspacePhoto) :=
  photos.find? fun id photo => id == photoId && photo.workspace == workspace

/-- Which photos are stored under the identity of a photo. -/
def photoIdByIdentityOn (photo : LoanWorkspacePhoto) (photos : Table LoanWorkspacePhoto) :
    Option ℕ :=
  (photos.find? fun _ stored => photo.hasIdentity stored).map Prod.fst

/-- What a conflict says about the photo that is there already. -/
def existingRow : Option ℕ → String
  | some id => s!"photo metadata already exists as row {id}"
  | none => "photo metadata already exists"

/-- Records a photo; `known` are the connections that are there. -/
def createPhotoMetadata (known : ℕ → Bool) (draft : LoanWorkspacePhotoDraft) (createdAt : String)
    (photos : Table LoanWorkspacePhoto) :
    InboxResult ((ℕ × LoanWorkspacePhoto) × Table LoanWorkspacePhoto) := do
  let photo := draft.row createdAt
  validatePhoto photo
  let existing := photoIdByIdentityOn photo photos
  -- OR IGNORE passes over a row that breaks a check or has a stored identity, but not over one
  -- that refers to nothing.
  ensure (photo.meetsChecks && existing.isNone) (.conflict (existingRow existing))
  ensure (known photo.connectionId) (.storage "insert photo metadata")
  pure ((photos.next, photo), photos.insert photo)

/-- Whether a row can be inserted: its place is a 64-bit number, and its constraints hold. -/
def LoanWorkspacePhoto.fits (known : ℕ → Bool) (photo : LoanWorkspacePhoto) : Bool :=
  photo.meetsChecks && known photo.connectionId && photo.sortOrder ≤ Int64.maxValue.toInt

/-- Records a finalized upload, or finds its record; a new row must fit into its table. -/
def recordUploadedPhoto (known : ℕ → Bool) (workspace : Workspace) (caption : Option String)
    (imageUrl createdAt : String) (photos : Table LoanWorkspacePhoto) :
    InboxResult ((ℕ × LoanWorkspacePhoto) × Table LoanWorkspacePhoto) := do
  let (photo, after) ← createManualPhotoMetadata workspace.connectionId workspace.loanAccount
    caption imageUrl createdAt photos
  ensure (photo.1 != photos.next || photo.2.fits known) (.storage "insert manual photo metadata")
  pure (photo, after)

/-- The error about a photo that a workspace does not list. -/
def missingPhoto (workspace : Workspace) (photoId : ℕ) : InboxError :=
  .notFound (s!"photo {photoId} in workspace " ++ workspace.loanAccount)

/-- Whether a row is the photo of a workspace with an id. -/
def isPhotoOf (workspace : Workspace) (photoId id : ℕ) (photo : LoanWorkspacePhoto) : Bool :=
  id == photoId && photo.workspace == workspace

/-- Features one photo of a workspace, and no other. -/
def setFeaturedPhoto (workspace : Workspace) (photoId : ℕ) (photos : Table LoanWorkspacePhoto) :
    InboxResult ((ℕ × LoanWorkspacePhoto) × Table LoanWorkspacePhoto) := do
  let _ ← required (photoOn workspace photoId photos) (missingPhoto workspace photoId)
  let cleared := photos.updateWhere
    (fun _ photo => photo.workspace == workspace && photo.isFeatured)
    fun photo => { photo with isFeatured := false }
  ensure (cleared.count (isPhotoOf workspace photoId) == 1)
    (.conflict "featured photo changed concurrently")
  let featured := cleared.updateWhere (isPhotoOf workspace photoId)
    fun photo => { photo with isFeatured := true }
  let photo ← required (photoOn workspace photoId featured) (.storage "featured photo disappeared")
  pure (photo, featured)

/-- Forgets a photo of a workspace; its object is not touched. -/
def deletePhotoMetadata (workspace : Workspace) (photoId : ℕ) (photos : Table LoanWorkspacePhoto) :
    InboxResult ((ℕ × LoanWorkspacePhoto) × Table LoanWorkspacePhoto) := do
  let photo ← required (photoOn workspace photoId photos) (missingPhoto workspace photoId)
  ensure (photos.count (isPhotoOf workspace photoId) == 1)
    (.conflict "photo metadata changed concurrently")
  pure (photo, photos.deleteWhere (isPhotoOf workspace photoId))

/-- The rows of a workspace, as they are stored. -/
def rowsOf (workspace : Workspace) (photos : Table LoanWorkspacePhoto) :
    List (ℕ × LoanWorkspacePhoto) :=
  photos.rows.filter fun entry => entry.2.workspace == workspace

/-- Where a photo stands among those that are not featured. -/
def place (entry : ℕ × LoanWorkspacePhoto) : ℤ ×ₗ ℕ := toLex (entry.2.sortOrder, entry.1)

/-- The photos of a workspace, a featured one first. -/
def photosOn (workspace : Workspace) (photos : Table LoanWorkspacePhoto) :
    List (ℕ × LoanWorkspacePhoto) :=
  orderBy (fun entry => toLex (!entry.2.isFeatured, place entry)) (rowsOf workspace photos)

/-- The addresses of all photos, for the authorization of requests. -/
def photoImageLocations (photos : Table LoanWorkspacePhoto) : List String :=
  photos.rows.map fun entry => entry.2.imageUrl

/-- A write of the photos. -/
inductive GalleryOp where
  | create (draft : LoanWorkspacePhotoDraft) (createdAt : String)
  | finalize (workspace : Workspace) (caption : Option String) (imageUrl createdAt : String)
  | feature (workspace : Workspace) (photoId : ℕ)
  | delete (workspace : Workspace) (photoId : ℕ)

/-- The workspace a write is about. -/
def GalleryOp.workspace : GalleryOp → Workspace
  | .create draft _ => ⟨draft.connectionId, draft.loanAccount⟩
  | .finalize workspace _ _ _ => workspace
  | .feature workspace _ => workspace
  | .delete workspace _ => workspace

/-- Runs a write while the given connections are there. -/
def GalleryOp.run (known : ℕ → Bool) (photos : Table LoanWorkspacePhoto) :
    GalleryOp → InboxResult ((ℕ × LoanWorkspacePhoto) × Table LoanWorkspacePhoto)
  | .create draft createdAt => createPhotoMetadata known draft createdAt photos
  | .finalize workspace caption imageUrl createdAt =>
    recordUploadedPhoto known workspace caption imageUrl createdAt photos
  | .feature workspace photoId => setFeaturedPhoto workspace photoId photos
  | .delete workspace photoId => deletePhotoMetadata workspace photoId photos

end FinStream.Media
