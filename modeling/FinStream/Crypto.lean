import FinStream.Store.Transaction
import FinStream.Text
import FinStream.Numeric.Base64
import FinStream.Text.Printed

/-! Credentials of providers, encrypted as the application stores them. -/

namespace FinStream.Crypto

open Store

/-- The random bytes of one encryption. -/
structure Nonce where
  bytes : List UInt8
  size : bytes.length = 12
  deriving DecidableEq

/-- Bytes of the right number as a nonce. -/
def Nonce.ofBytes (bytes : List UInt8) : Option Nonce :=
  if size : bytes.length = 12 then some ⟨bytes, size⟩ else none

/-- Only the bytes of a nonce are read as that nonce. -/
theorem Nonce.ofBytes_eq_some {bytes : List UInt8} {nonce : Nonce} :
    Nonce.ofBytes bytes = some nonce ↔ bytes = nonce.bytes := by
  unfold Nonce.ofBytes
  constructor
  · intro read
    split at read
    · cases read
      rfl
    · cases read
  · rintro rfl
    rw [dif_pos nonce.size]

/-- The digest and the cipher of the libraries, with keys and texts as bytes. -/
structure Library where
  sha256 : List UInt8 → List UInt8
  encrypt : List UInt8 → Nonce → List UInt8 → Option (List UInt8)
  decrypt : List UInt8 → Nonce → List UInt8 → Option (List UInt8)

/-- Encryption is authenticated: what opens under one key opens under no other. -/
structure Library.Authenticated (library : Library) : Prop where
  /-- The key of an encryption gives its plaintext back. -/
  returns : ∀ {key nonce plaintext ciphertext},
    library.encrypt key nonce plaintext = some ciphertext →
      library.decrypt key nonce ciphertext = some plaintext
  /-- Every other key is refused. -/
  refuses : ∀ {key other nonce plaintext ciphertext},
    library.decrypt key nonce ciphertext = some plaintext → other ≠ key →
      library.decrypt other nonce ciphertext = none

/-- Bytes in the encoding of stored credentials. -/
def encode (bytes : List UInt8) : String := String.ofList (Base64.standard.encode true bytes)

/-- Reads the encoding of stored credentials. -/
def decode (text : String) : Option (List UInt8) := Base64.standard.decode true text.toList

/-- Only the encoding of some bytes is read as those bytes. -/
theorem decode_eq_some {text : String} {bytes : List UInt8} :
    decode text = some bytes ↔ text = encode bytes := by
  rw [decode, Base64.Alphabet.decode_eq_some, encode, eq_comm, ← String.toList_inj,
    String.toList_ofList]

/-- The first bytes of a key, in hexadecimal digits. -/
def fingerprint (key : List UInt8) : String :=
  String.ofList ((key.take 4).flatMap fun byte => Printed.hexDigits 2 byte.toNat)

/-- The version of the encryption. -/
def credentialKeyVersion : ℤ := 1

/-- A stored text is what a key and a nonce make of a plaintext. -/
structure Opens (library : Library) (key : List UInt8) (ciphertext nonce : String) (version : ℤ)
    (plaintext : String) : Prop where
  version : version = credentialKeyVersion
  opened : ∃ nonceBytes sealed, nonce = encode nonceBytes.bytes ∧ ciphertext = encode sealed ∧
    library.decrypt key nonceBytes sealed = some (bytesOf plaintext)

/-- Bytes with the same encoding are the same. -/
theorem encode_injective : Function.Injective encode := by
  intro left right same
  have read := decode_eq_some.mpr same
  rw [decode_eq_some.mpr rfl] at read
  exact Option.some.inj read

/-- A stored text has one plaintext under one key, and none under any other. -/
theorem Opens.unique {library : Library} (authenticated : library.Authenticated)
    {key other : List UInt8} {ciphertext nonce : String} {version : ℤ} {left right : String}
    (first : Opens library key ciphertext nonce version left)
    (second : Opens library other ciphertext nonce version right) : key = other ∧ left = right := by
  obtain ⟨-, nonceBytes, sealed, rfl, rfl, opened⟩ := first
  obtain ⟨-, ⟨otherBytes, size⟩, otherSealed, sameNonce, sameText, otherOpened⟩ := second
  obtain rfl := encode_injective sameNonce
  obtain rfl := encode_injective sameText
  -- A text that one key opens is refused under every other.
  have keys : key = other := by
    by_contra different
    rw [authenticated.refuses otherOpened different] at opened
    cases opened
  subst keys
  rw [otherOpened] at opened
  have texts := fromUtf8_eq_some.mpr (Option.some.inj opened)
  rw [fromUtf8_bytesOf] at texts
  exact ⟨rfl, (Option.some.inj texts).symm⟩

/-! ### The cipher of the application -/

/-- Why the application refuses a credential. -/
inductive CredentialCryptoError where
  | emptyKey
  | unsupportedKeyVersion
  | invalidEncoding
  | invalidNonce
  | encryptionFailed
  | decryptionFailed
  | invalidUtf8
  deriving DecidableEq

/-- A stored credential. -/
structure EncryptedCredential where
  ciphertext : String
  nonce : String
  keyVersion : ℤ
  deriving DecidableEq

/-- A cipher with the key that is derived from that of the application. -/
structure CredentialCipher where
  derivedKey : List UInt8

namespace CredentialCipher

variable (library : Library)

/-- The cipher of a key. -/
def new (appEncryptionKey : String) : Except CredentialCryptoError CredentialCipher := do
  ensure (appEncryptionKey != "") .emptyKey
  pure ⟨library.sha256 (bytesOf appEncryptionKey)⟩

variable (cipher : CredentialCipher)

/-- Encrypts a text with the random bytes of a nonce. -/
def encryptWithNonce (plaintext : String) (nonce : Nonce) :
    Except CredentialCryptoError EncryptedCredential := do
  let ciphertext ← required (library.encrypt cipher.derivedKey nonce (bytesOf plaintext))
    .encryptionFailed
  pure {
    ciphertext := encode ciphertext
    nonce := encode nonce.bytes
    keyVersion := credentialKeyVersion }

/-- Decrypts the columns of a stored credential. -/
def decryptParts (ciphertext nonce : String) (keyVersion : ℤ) :
    Except CredentialCryptoError String := do
  ensure (keyVersion == credentialKeyVersion) .unsupportedKeyVersion
  let ciphertext ← required (decode ciphertext) .invalidEncoding
  let nonceBytes ← required (decode nonce) .invalidEncoding
  let nonce ← required (Nonce.ofBytes nonceBytes) .invalidNonce
  let plaintext ← required (library.decrypt cipher.derivedKey nonce ciphertext) .decryptionFailed
  required (fromUtf8 plaintext) .invalidUtf8

/-- Decrypts a stored credential. -/
def decrypt (encrypted : EncryptedCredential) : Except CredentialCryptoError String :=
  cipher.decryptParts library encrypted.ciphertext encrypted.nonce encrypted.keyVersion

/-- The first bytes of the key, which may be shown. -/
def keyFingerprint : String := fingerprint cipher.derivedKey

variable {library cipher}

/-- The application decrypts what opens under its key. -/
theorem decryptParts_eq_ok {ciphertext nonce : String} {keyVersion : ℤ} {plaintext : String} :
    cipher.decryptParts library ciphertext nonce keyVersion = .ok plaintext ↔
      Opens library cipher.derivedKey ciphertext nonce keyVersion plaintext := by
  simp only [decryptParts, bind_eq_ok, ensure_eq_ok, required_eq_ok, beq_iff_eq, decode_eq_some,
    Nonce.ofBytes_eq_some, fromUtf8_eq_some]
  constructor
  · rintro ⟨_, version, sealed, rfl, _, rfl, nonce, rfl, _, opened, rfl⟩
    exact ⟨version, nonce, sealed, rfl, rfl, opened⟩
  · rintro ⟨version, nonce, sealed, rfl, rfl, opened⟩
    exact ⟨⟨⟩, version, sealed, rfl, _, rfl, nonce, rfl, _, opened, rfl⟩

/-- What the application encrypts opens under its key. -/
theorem encryptWithNonce_opens (authenticated : library.Authenticated) {plaintext : String}
    {nonce : Nonce} {encrypted : EncryptedCredential}
    (done : cipher.encryptWithNonce library plaintext nonce = .ok encrypted) :
    Opens library cipher.derivedKey encrypted.ciphertext encrypted.nonce encrypted.keyVersion
      plaintext := by
  simp only [encryptWithNonce, bind_eq_ok, required_eq_ok, pure_eq_ok] at done
  obtain ⟨ciphertext, made, rfl⟩ := done
  exact ⟨rfl, nonce, ciphertext, rfl, rfl, authenticated.returns made⟩

/-- A credential is decrypted to what was encrypted. -/
theorem decrypt_encryptWithNonce (authenticated : library.Authenticated) {plaintext : String}
    {nonce : Nonce} {encrypted : EncryptedCredential}
    (done : cipher.encryptWithNonce library plaintext nonce = .ok encrypted) :
    cipher.decrypt library encrypted = .ok plaintext :=
  decryptParts_eq_ok.mpr (encryptWithNonce_opens authenticated done)

end CredentialCipher

end FinStream.Crypto
