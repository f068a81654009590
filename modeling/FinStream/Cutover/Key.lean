import FinStream.Media.Key

/-! Object keys of the cutover, and the photo addresses they are read from. -/

namespace FinStream.Cutover

open Store

/-- Why a key is refused. -/
inductive KeyError where
  | empty
  | absolute
  | traversal
  | ambiguousEncoding
  | invalidCharacter
  | invalidPhotoLocation
  deriving DecidableEq

/-- A check of a key: an error, or a result. -/
abbrev KeyResult (α : Type) := Except KeyError α

/-- Where page addresses of stored photos start. -/
def mediaPath : String := "/media/loan-workspace/"

/-- Where page addresses of older stored photos start. -/
def staticPath : String := "/static/loan-images/"

/-- What an address of a photo stands for. -/
inductive PhotoLocation where
  | stored (key : String)
  | externalOnly
  deriving DecidableEq

/-- The parts of an absolute address, as the URL library reads them. -/
structure Url where
  scheme : String
  username : String
  host : Option String
  hasPassword : Bool
  hasQuery : Bool
  hasFragment : Bool
  deriving DecidableEq

/-- Refuses texts that are no key; a percent sign is an escape only where keys must be canonical. -/
def validateKey (raw : String) (rejectPercent : Bool) : KeyResult String := do
  ensure (raw != "") .empty
  ensure (raw == trim raw && raw.toList.head? != some '/' && raw.toList.getLast? != some '/')
    .absolute
  ensure (!(rejectPercent && raw.toList.contains '%')) .ambiguousEncoding
  ensure (!(raw.toList.contains '\\' || Media.hasDoubleSlash raw.toList ||
    raw.toList.contains '\x00')) .invalidCharacter
  ensure (!raw.toList.any isControl) .invalidCharacter
  ensure ((raw.toList.splitOn '/').all fun segment =>
    segment != [] && segment != ['.'] && segment != ['.', '.']) .traversal
  pure raw

/-- A key of the application. -/
def canonicalKey (raw : String) : KeyResult String := validateKey raw true

/-- A key of the retained store, whose names may have percent signs. -/
def legacyPhysicalKey (raw : String) : KeyResult String := validateKey raw false

/-- A key that is stored in the database. -/
def canonicalDatabaseKey (raw : String) : KeyResult String := canonicalKey raw

/-- A key that is not refused is the text itself. -/
theorem validateKey_eq {raw key : String} {rejectPercent : Bool}
    (accepted : validateKey raw rejectPercent = .ok key) : key = raw := by
  simp only [validateKey, bind_eq_ok, pure_eq_ok] at accepted
  obtain ⟨_, -, _, -, _, -, _, -, _, -, _, -, same⟩ := accepted
  exact same.symm

/-- Replaces the escapes of an address, once. -/
def decodeUrlKey (raw : String) : KeyResult String :=
  required ((Media.decodeBytes (bytesOf raw)).bind fromUtf8) .ambiguousEncoding

/-- The key of a photo by the part of its address after the path. -/
def legacyPhotoKey (rawSuffix : String) : KeyResult String := do
  ensure (!rawSuffix.toList.any fun character => character == '?' || character == '#')
    .ambiguousEncoding
  let suffix ← decodeUrlKey rawSuffix
  canonicalKey ("loan-workspace/" ++ suffix)

/-- What is before and after the first occurrence of a separator. -/
def splitOnce (separator : List Char) : List Char → Option (List Char × List Char)
  | [] => if separator = [] then some ([], []) else none
  | first :: rest =>
    if separator.isPrefixOf (first :: rest) then
      some ([], (first :: rest).drop separator.length)
    else (splitOnce separator rest).map fun (before, after) => (first :: before, after)

/-- The path of an address as it is written, with what follows it. -/
def rawHttpPath (value : String) : Option String := do
  let (_, remainder) ← splitOnce "://".toList value.toList
  match remainder.dropWhile (· != '/') with
  | [] => some "/"
  | path => some (String.ofList path)

/-- Hosts that name the bucket in front. -/
def isAwsVirtualHost (host : String) : Bool :=
  match splitOnce ".s3".toList host.toList with
  | none => false
  | some (bucket, suffix) =>
    let amazon := ".amazonaws.com".toList
    bucket != [] && (suffix == amazon || (suffix.head? == some '.' && amazon.isSuffixOf suffix) ||
      (suffix.head? == some '-' && amazon.isSuffixOf suffix))

/-- Hosts that name the bucket in the path. -/
def isAwsPathHost (host : String) : Bool :=
  let amazon := ".amazonaws.com".toList
  host == "s3.amazonaws.com" ||
    ("s3.".toList.isPrefixOf host.toList && amazon.isSuffixOf host.toList) ||
    ("s3-".toList.isPrefixOf host.toList && amazon.isSuffixOf host.toList)

/-- The key in an address of a known object store. -/
def knownS3HttpKey (host rawPath : String) : KeyResult (Option String) := do
  let host := String.ofList (host.toList.map Char.toLower)
  let path := rawPath.toList.takeWhile fun character => character != '?' && character != '#'
  match path with
  | '/' :: withoutLeadingSlash =>
    if isAwsVirtualHost host then do
      ensure (withoutLeadingSlash != []) .invalidPhotoLocation
      let decoded ← decodeUrlKey (String.ofList withoutLeadingSlash)
      (canonicalKey decoded).map some
    else if isAwsPathHost host || ".r2.cloudflarestorage.com".toList.isSuffixOf host.toList then do
      -- The path starts with the name of the bucket.
      let (_, key) ← required (splitOnce ['/'] withoutLeadingSlash) .invalidPhotoLocation
      let decoded ← decodeUrlKey (String.ofList key)
      (canonicalKey decoded).map some
    else pure none
  | _ => throw .invalidPhotoLocation

/-- Reads an absolute address of a photo. -/
def classifyAbsolute (parsed : Url) (imageUrl : String) : KeyResult PhotoLocation :=
  match parsed.scheme with
  | "http" | "https" => do
    ensure (parsed.username == "" && !parsed.hasPassword) .invalidPhotoLocation
    let rawPath ← required (rawHttpPath imageUrl) .invalidPhotoLocation
    match (stripLeading mediaPath rawPath).or (stripLeading staticPath rawPath) with
    | some suffix => do
      ensure (!(parsed.hasQuery || parsed.hasFragment)) .ambiguousEncoding
      (legacyPhotoKey suffix).map .stored
    | none => do
      match ← knownS3HttpKey (parsed.host.getD "") rawPath with
      | some key => pure (.stored key)
      | none => pure .externalOnly
  | "s3" => do
    ensure (parsed.host.isSome && !parsed.hasQuery && !parsed.hasFragment) .invalidPhotoLocation
    let rawPath ← required (do
      let (_, remainder) ← splitOnce "://".toList imageUrl.toList
      let (_, path) ← splitOnce ['/'] remainder
      some (String.ofList path)) .invalidPhotoLocation
    let key ← decodeUrlKey rawPath
    (canonicalKey key).map .stored
  | _ => throw .invalidPhotoLocation

/-- Reads the address of a photo. -/
def classifyPhoto (parseUrl : String → Option Url) (imageUrl : String) : KeyResult PhotoLocation :=
  if imageUrl != trim imageUrl || imageUrl == "" then throw .invalidPhotoLocation
  else match (stripLeading mediaPath imageUrl).or (stripLeading staticPath imageUrl) with
    | some suffix => (legacyPhotoKey suffix).map .stored
    | none => do
      let parsed ← required (parseUrl imageUrl) .invalidPhotoLocation
      classifyAbsolute parsed imageUrl

end FinStream.Cutover
