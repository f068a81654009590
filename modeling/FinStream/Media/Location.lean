import FinStream.Cutover.Key

/-! Absolute addresses of photos, and what every key read from an address looks like. -/

namespace FinStream.Media

open Store

/-- The path of an address as it is written, with what follows it. -/
def rawHttpPath (value : String) : Option String := Cutover.rawHttpPath value

/-- Hosts that name the bucket in front. -/
def isAwsVirtualHost (host : String) : Bool := Cutover.isAwsVirtualHost host

/-- Hosts that name the bucket in the path. -/
def isAwsPathHost (host : String) : Bool := Cutover.isAwsPathHost host

/-- The key in an address of a known object store, still escaped. -/
def rawS3HttpKey (host path : String) : MediaResult (Option String) :=
  if isAwsVirtualHost host then do
    ensure (path != "") .invalidKey
    pure (some path)
  else if isAwsPathHost host || ".r2.cloudflarestorage.com".toList.isSuffixOf host.toList then do
    -- The path starts with the name of the bucket.
    let (_, key) ← required ((Cutover.splitOnce ['/'] path.toList).filter (·.2 != [])) .invalidKey
    pure (some (String.ofList key))
  else pure none

/-- The key in an address of a known object store. -/
def knownS3HttpKey (host rawPath : String) : MediaResult (Option String) := do
  let host := String.ofList (host.toList.map Char.toLower)
  let rawPath := String.ofList
    (rawPath.toList.takeWhile fun character => character != '?' && character != '#')
  let path ← required (stripLeading "/" rawPath) .invalidKey
  match ← rawS3HttpKey host path with
  | some rawKey => do
    let decoded ← decodeUrlKey rawKey
    (canonicalKey decoded).map some
  | none => pure none

/-- Reads the path of a web address: a page of a photo, or an object of a known store. -/
def classifyWebPath (parsed : Cutover.Url) (rawPath : String) : MediaResult PhotoLocation :=
  match (stripLeading mediaPath rawPath).or (stripLeading staticPath rawPath) with
  | some suffix => do
    ensure (!(parsed.hasQuery || parsed.hasFragment)) .invalidKey
    (legacyPhotoKey suffix).map .stored
  | none => do
    match ← knownS3HttpKey (parsed.host.getD "") rawPath with
    | some key => pure (.stored key)
    | none => pure .externalOnly

/-- Reads an address that the URL library has split into its parts. -/
def classifyParsed (parsed : Cutover.Url) (imageUrl : String) : MediaResult PhotoLocation :=
  match parsed.scheme with
  | "http" | "https" => do
    ensure (parsed.username == "" && !parsed.hasPassword) .invalidKey
    let rawPath ← required (rawHttpPath imageUrl) .invalidKey
    classifyWebPath parsed rawPath
  | "s3" => do
    ensure (parsed.host.isSome && !parsed.hasQuery && !parsed.hasFragment) .invalidKey
    let rawPath ← required (do
      let (_, remainder) ← Cutover.splitOnce "://".toList imageUrl.toList
      let (_, path) ← Cutover.splitOnce ['/'] remainder
      some (String.ofList path)) .invalidKey
    let key ← decodeUrlKey rawPath
    (canonicalKey key).map .stored
  | _ => throw .invalidKey

/-- Reads an absolute address of a photo. -/
def classifyAbsolute (parseUrl : String → Option Cutover.Url) (imageUrl : String) :
    MediaResult PhotoLocation := do
  let parsed ← required (parseUrl imageUrl) .invalidKey
  classifyParsed parsed imageUrl

/-! ### Every key that is read is canonical -/

/-- The path of a photo only ever gives canonical keys. -/
theorem legacyPhotoKey_canonical {rawSuffix key : String}
    (read : legacyPhotoKey rawSuffix = .ok key) : isCanonical key = true := by
  simp only [legacyPhotoKey, bind_eq_ok, canonicalKey_eq_ok] at read
  obtain ⟨_, -, suffix, -, canonical, rfl⟩ := read
  exact canonical

/-- A key in an address of an object store is canonical. -/
theorem knownS3HttpKey_canonical {host rawPath key : String}
    (read : knownS3HttpKey host rawPath = .ok (some key)) : isCanonical key = true := by
  -- Whichever place of the address the key was found in, it passes the check of keys last.
  simp only [knownS3HttpKey, bind_eq_ok] at read
  obtain ⟨path, -, rawKey, -, read⟩ := read
  cases rawKey with
  | none => cases read
  | some rawKey =>
    obtain ⟨decoded, -, read⟩ := bind_eq_ok.mp read
    obtain ⟨_, accepted, same⟩ := map_eq_ok.mp read
    cases same
    obtain ⟨canonical, rfl⟩ := canonicalKey_eq_ok.mp accepted
    exact canonical

/-- The path of a web address gives canonical keys only. -/
theorem classifyWebPath_canonical {parsed : Cutover.Url} {rawPath key : String}
    (read : classifyWebPath parsed rawPath = .ok (.stored key)) : isCanonical key = true := by
  unfold classifyWebPath at read
  split at read
  · simp only [bind_eq_ok, map_eq_ok] at read
    obtain ⟨_, -, photoKey, legacy, same⟩ := read
    cases same
    exact legacyPhotoKey_canonical legacy
  · obtain ⟨known, read, found⟩ := bind_eq_ok.mp read
    cases known with
    | some stored =>
      cases found
      exact knownS3HttpKey_canonical read
    | none => cases found

/-- An address that the URL library has split gives canonical keys only. -/
theorem classifyParsed_canonical {parsed : Cutover.Url} {imageUrl key : String}
    (read : classifyParsed parsed imageUrl = .ok (.stored key)) : isCanonical key = true := by
  -- Web addresses go by their path, an address of an object store gives its key itself.
  unfold classifyParsed at read
  split at read
  · simp only [bind_eq_ok] at read
    obtain ⟨_, -, rawPath, -, read⟩ := read
    exact classifyWebPath_canonical read
  · simp only [bind_eq_ok] at read
    obtain ⟨_, -, rawPath, -, read⟩ := read
    exact classifyWebPath_canonical read
  · simp only [bind_eq_ok, map_eq_ok, canonicalKey_eq_ok] at read
    obtain ⟨_, -, rawPath, -, decoded, -, _, ⟨canonical, rfl⟩, same⟩ := read
    cases same
    exact canonical
  · cases read

/-- Whatever an address looks like, a key that is read from it is canonical. -/
theorem classifyPhoto_canonical {parseUrl : String → Option Cutover.Url} {imageUrl key : String}
    (read : classifyPhoto (classifyAbsolute parseUrl) imageUrl = .ok (.stored key)) :
    isCanonical key = true := by
  -- The shapes are tried in the order of the code: a route, an older path, an absolute address.
  unfold classifyPhoto at read
  split at read
  · cases read
  · split at read
    · obtain ⟨photoKey, legacy, same⟩ := map_eq_ok.mp read
      cases same
      exact legacyPhotoKey_canonical legacy
    · split at read
      · obtain ⟨photoKey, legacy, same⟩ := map_eq_ok.mp read
        cases same
        exact legacyPhotoKey_canonical legacy
      · simp only [classifyAbsolute, bind_eq_ok] at read
        obtain ⟨parsed, -, read⟩ := read
        exact classifyParsed_canonical read

/-- What a canonical key looks like: plain segments, and no character with a meaning of its own. -/
structure Canonical (key : String) : Prop where
  segments : ∀ segment ∈ key.toList.splitOn '/',
    segment ≠ [] ∧ segment ≠ ['.'] ∧ segment ≠ ['.', '.']
  plain : ∀ character ∈ key.toList,
    character ≠ '%' ∧ character ≠ '\\' ∧ isControl character = false

/-- The check of a key accepts only what looks like one. -/
theorem Canonical.of_isCanonical {key : String} (accepted : isCanonical key = true) :
    Canonical key := by
  constructor
  · simp only [isCanonical, Bool.and_eq_true, List.all_eq_true] at accepted
    intro segment member
    simpa [and_assoc] using accepted.2 segment member
  · intro character member
    have allowed := isCanonical_allowed accepted character member
    simp only [keyRefuses, Bool.or_eq_false_iff, beq_eq_false_iff_ne] at allowed
    exact ⟨allowed.1.1.1.1, allowed.1.1.1.2, allowed.2⟩

end FinStream.Media
