import FinStream.Crypto
import FinStream.Migration.Dataset
import FinStream.Store.Effect

/-! Credentials of the source under the key of the target. -/

namespace FinStream.Migration

open Store Crypto

/-- Why the exporter refuses a credential. -/
inductive CredentialCryptoError where
  | emptyKey
  | unsupportedKeyVersion
  | invalidEncoding
  | invalidNonce
  | decryptionFailed
  | encryptionFailed
  | invalidUtf8
  | emptyPlaintext
  deriving DecidableEq

/-- The random bytes that encryptions will get. -/
abbrev Random := ℕ → Nonce

/-- Takes the next random bytes. -/
def fillBytes {ε : Type} : Store.Effect Random ε Nonce :=
  fun random => (.ok (random 0), fun next => random (next + 1))

/-- A cipher of the exporter, with the key that is derived from that of an application. -/
structure CredentialCipher where
  derivedKey : List UInt8

namespace CredentialCipher

variable (library : Library)

/-- The cipher of a key. -/
def new (appEncryptionKey : String) : Except CredentialCryptoError CredentialCipher := do
  ensure (appEncryptionKey != "") .emptyKey
  pure ⟨library.sha256 (bytesOf appEncryptionKey)⟩

variable (cipher : CredentialCipher)

/-- The first bytes of the key, which may be shown. -/
def keyFingerprint : String := fingerprint cipher.derivedKey

/-- Decrypts the columns of a credential. -/
def decryptParts (ciphertext nonce : String) (keyVersion : ℤ) :
    Except CredentialCryptoError String := do
  ensure (keyVersion == credentialKeyVersion) .unsupportedKeyVersion
  let ciphertext ← required (decode ciphertext) .invalidEncoding
  let nonceBytes ← required (decode nonce) .invalidEncoding
  let nonce ← required (Nonce.ofBytes nonceBytes) .invalidNonce
  let plaintext ← required (library.decrypt cipher.derivedKey nonce ciphertext) .decryptionFailed
  required (fromUtf8 plaintext) .invalidUtf8

/-- Tries whether a credential can be decrypted and is not empty. -/
def decryptCanary (ciphertext nonce : String) (keyVersion : ℤ) :
    Except CredentialCryptoError PUnit := do
  let plaintext ← cipher.decryptParts library ciphertext nonce keyVersion
  ensure (plaintext != "") .emptyPlaintext

/-- Encrypts a text; an empty one is refused before any random bytes are taken. -/
def encryptParts (plaintext : String) : Store.Effect Random CredentialCryptoError (String × String) := do
  Effect.decided (ensure (plaintext != "") .emptyPlaintext)
  let nonce ← fillBytes
  let ciphertext ← Effect.decided
    (required (library.encrypt cipher.derivedKey nonce (bytesOf plaintext)) .encryptionFailed)
  pure (encode ciphertext, encode nonce.bytes)

variable {library cipher}

/-- Only an empty key has no cipher. -/
theorem new_eq_ok {key : String} :
    new library key = .ok cipher ↔ key ≠ "" ∧ cipher = ⟨library.sha256 (bytesOf key)⟩ := by
  simp only [new, bind_eq_ok, ensure_eq_ok, pure_eq_ok, bne_iff_ne, exists_const]
  exact and_congr_right fun _ => eq_comm

/-- The exporter decrypts what opens under its key. -/
theorem decryptParts_eq_ok {ciphertext nonce : String} {keyVersion : ℤ} {plaintext : String} :
    cipher.decryptParts library ciphertext nonce keyVersion = .ok plaintext ↔
      Opens library cipher.derivedKey ciphertext nonce keyVersion plaintext := by
  simp only [decryptParts, bind_eq_ok, ensure_eq_ok, required_eq_ok, beq_iff_eq, decode_eq_some,
    Nonce.ofBytes_eq_some, fromUtf8_eq_some]
  constructor
  · rintro ⟨_, version, sealed, rfl, _, rfl, nonce, rfl, _, opened, rfl⟩
    exact ⟨version, nonce, sealed, rfl, rfl, opened⟩
  · rintro ⟨version, nonce, sealed, rfl, rfl, opened⟩
    exact ⟨⟨⟩, version, sealed, rfl, _, rfl, nonce, rfl, _, opened, rfl⟩

/-- A canary passes where a text that is not empty opens. -/
theorem decryptCanary_eq_ok {ciphertext nonce : String} {keyVersion : ℤ} :
    cipher.decryptCanary library ciphertext nonce keyVersion = .ok ⟨⟩ ↔ ∃ plaintext ≠ "",
      Opens library cipher.derivedKey ciphertext nonce keyVersion plaintext := by
  simp only [decryptCanary, bind_eq_ok, decryptParts_eq_ok, ensure_eq_ok, bne_iff_ne]
  exact exists_congr fun plaintext => and_comm

/-- An encrypted text opens under the key, and is not empty. -/
theorem encryptParts_opens (authenticated : library.Authenticated) {plaintext ciphertext
    nonce : String} {before after : Random}
    (done : cipher.encryptParts library plaintext before = (.ok (ciphertext, nonce), after)) :
    plaintext ≠ "" ∧
      Opens library cipher.derivedKey ciphertext nonce credentialKeyVersion plaintext := by
  simp only [encryptParts, Effect.bind_eq_ok, Effect.decided_apply, Effect.pure_apply, fillBytes,
    Prod.mk.injEq, ensure_eq_ok, required_eq_ok, Except.ok.injEq, bne_iff_ne] at done
  obtain ⟨_, _, ⟨filled, rfl⟩, bytes, _, ⟨rfl, rfl⟩, sealed, _, ⟨made, rfl⟩, ⟨rfl, rfl⟩, rfl⟩ := done
  exact ⟨filled, rfl, _, _, rfl, rfl, authenticated.returns made⟩

end CredentialCipher

/-- The columns of a row that hold a credential, and what is reported about it. -/
structure CredentialColumns (Row : Type) where
  ciphertext : Row → String
  nonce : Row → String
  keyVersion : Row → ℤ
  /-- The row with another ciphertext and nonce. -/
  rewrapped : Row → String → String → Row
  /-- The name of the provider in messages. -/
  provider : String
  ciphertext_rewrapped : ∀ row text bytes, ciphertext (rewrapped row text bytes) = text := by
    intros; rfl
  nonce_rewrapped : ∀ row text bytes, nonce (rewrapped row text bytes) = bytes := by intros; rfl
  keyVersion_rewrapped : ∀ row text bytes, keyVersion (rewrapped row text bytes) = keyVersion row :=
    by intros; rfl
  rewrapped_self : ∀ row, rewrapped row (ciphertext row) (nonce row) = row := by intros; rfl

/-- The credential of a connection to the loan servicer. -/
def tmoColumns : CredentialColumns TmoCredentialRow where
  ciphertext := (·.pinCiphertext)
  nonce := (·.pinNonce)
  keyVersion := (·.keyVersion)
  rewrapped row ciphertext nonce := { row with pinCiphertext := ciphertext, pinNonce := nonce }
  provider := "TMO"

/-- The credential of a connection to the budget service. -/
def monarchColumns : CredentialColumns MonarchCredentialRow where
  ciphertext := (·.accessTokenCiphertext)
  nonce := (·.accessTokenNonce)
  keyVersion := (·.keyVersion)
  rewrapped row ciphertext nonce :=
    { row with accessTokenCiphertext := ciphertext, accessTokenNonce := nonce }
  provider := "Monarch"

section Rewrap

variable (library : Library)

/-- Puts a row under the current key, and tells whether that took a new encryption. -/
def rewrapRow {Row : Type} (columns : CredentialColumns Row) (current : CredentialCipher)
    (legacy : Option CredentialCipher) (row : Row) : Store.Effect Random ExportError (Row × Bool) :=
  match current.decryptCanary library (columns.ciphertext row) (columns.nonce row)
      (columns.keyVersion row) with
  | .ok _ => pure (row, false)
  | .error _ => do
    let legacy ← Effect.decided (required legacy (manifestSafeBlocker ("a " ++ columns.provider ++
      " credential needs LEGACY_APP_ENCRYPTION_KEY before it can be rewrapped")))
    let plaintext ← Effect.decided ((legacy.decryptParts library (columns.ciphertext row)
      (columns.nonce row) (columns.keyVersion row)).mapError fun _ => manifestSafeBlocker
        ("a " ++ columns.provider ++
          " credential cannot be decrypted with either supplied encryption key"))
    let (ciphertext, nonce) ← (current.encryptParts library plaintext).mapError fun _ =>
      manifestSafeBlocker ("a " ++ columns.provider ++ " credential could not be rewrapped safely")
    pure (columns.rewrapped row ciphertext nonce, true)

/-- What a rewrap did. -/
structure CredentialRewrapResult where
  tmoCount : ℕ
  monarchCount : ℕ
  legacyKeyFingerprint : Option String
  deriving DecidableEq

/-- Puts all credentials under the current key. -/
def rewrapLegacyCredentials (dataset : Dataset) (currentKey legacyKey : Option String) :
    Store.Effect Random ExportError (Dataset × CredentialRewrapResult) :=
  if dataset.tmoCredentials.isEmpty && dataset.monarchCredentials.isEmpty then
    pure (dataset, ⟨0, 0, none⟩)
  else match currentKey with
    | none => pure (dataset, ⟨0, 0, none⟩)
    | some currentKey => do
      let current ← Effect.decided ((CredentialCipher.new library currentKey).mapError fun _ =>
        manifestSafeBlocker "APP_ENCRYPTION_KEY is empty or invalid for credential rewrap")
      let legacy ← Effect.decided ((legacyKey.mapM (CredentialCipher.new library)).mapError
        fun _ => manifestSafeBlocker
          "LEGACY_APP_ENCRYPTION_KEY is empty or invalid for credential rewrap")
      let tmo ← dataset.tmoCredentials.mapM (rewrapRow library tmoColumns current legacy)
      let monarch ← dataset.monarchCredentials.mapM
        (rewrapRow library monarchColumns current legacy)
      let tmoCount := tmo.countP Prod.snd
      let monarchCount := monarch.countP Prod.snd
      pure (
        { dataset with
          tmoCredentials := tmo.map Prod.fst
          monarchCredentials := monarch.map Prod.fst },
        { tmoCount
          monarchCount
          legacyKeyFingerprint :=
            if 0 < tmoCount ∨ 0 < monarchCount then legacy.map CredentialCipher.keyFingerprint
            else none })

/-! ### The canary -/

variable (syncable : String → Option Bool)

/-- A connection that needs a credential has it; what the metadata says is read from JSON. -/
def validateActiveConnection (dataset : Dataset) (connection : IntegrationConnectionRow) :
    ExportResult PUnit :=
  if connection.status ≠ "active" then pure ⟨⟩
  else match connection.provider with
    | "mortgage_office" => ensure (connection.slug == "tmo" &&
        dataset.tmoCredentials.any (·.connectionId == connection.id)) (manifestSafeBlocker
          ("an active TMO provider connection is misidentified or missing its required " ++
            "credential"))
    | "monarch" => ensure (connection.slug == "monarch" &&
        dataset.monarchCredentials.any (·.connectionId == connection.id)) (manifestSafeBlocker
          ("an active Monarch provider connection is misidentified or missing its required " ++
            "credential"))
    | _ => ensure (connection.metadata.bind syncable == some false) (manifestSafeBlocker
        ("an active provider connection has no supported credential contract and is not " ++
          "explicitly marked metadata.syncable=false"))

/-- Active connections have their credentials, and credentials their connections. -/
def validateActiveProviderCredentials (dataset : Dataset) : ExportResult PUnit := do
  dataset.integrationConnections.forM (validateActiveConnection syncable dataset)
  dataset.tmoCredentials.forM fun credential =>
    ensure (dataset.integrationConnections.any fun connection =>
      connection.id == credential.connectionId && connection.provider == "mortgage_office" &&
        connection.slug == "tmo") (.detail "TMO credential belongs to a non-TMO connection")
  dataset.monarchCredentials.forM fun credential =>
    ensure (dataset.integrationConnections.any fun connection =>
      connection.id == credential.connectionId && connection.provider == "monarch" &&
        connection.slug == "monarch")
      (.detail "Monarch credential belongs to a non-Monarch connection")

/-- Tries whether a row can be decrypted. -/
def canaryRow {Row : Type} (columns : CredentialColumns Row) (cipher : CredentialCipher)
    (row : Row) : ExportResult PUnit :=
  (cipher.decryptCanary library (columns.ciphertext row) (columns.nonce row)
    (columns.keyVersion row)).mapError fun _ => manifestSafeBlocker
      ("a " ++ columns.provider ++ " credential cannot be decrypted with APP_ENCRYPTION_KEY")

/-- What a canary found. -/
structure CredentialCanaryResult where
  tmoCount : ℕ
  monarchCount : ℕ
  keyFingerprint : Option String
  deriving DecidableEq

/-- Tries whether all credentials can be decrypted with a key. -/
def validateCredentialCanary (dataset : Dataset) (key : Option String) :
    ExportResult CredentialCanaryResult := do
  validateActiveProviderCredentials syncable dataset
  let tmoCount := dataset.tmoCredentials.length
  let monarchCount := dataset.monarchCredentials.length
  if tmoCount = 0 ∧ monarchCount = 0 then pure { tmoCount, monarchCount, keyFingerprint := none }
  else do
    let key ← required key (manifestSafeBlocker
      "APP_ENCRYPTION_KEY is required because provider credential rows exist")
    let cipher ← (CredentialCipher.new library key).mapError fun _ => manifestSafeBlocker
      "APP_ENCRYPTION_KEY is empty or invalid for credential canaries"
    dataset.tmoCredentials.forM (canaryRow library tmoColumns cipher)
    dataset.monarchCredentials.forM (canaryRow library monarchColumns cipher)
    pure { tmoCount, monarchCount, keyFingerprint := some cipher.keyFingerprint }

end Rewrap

/-! ### What a rewrap keeps -/

section Kept

variable {Row : Type} (library : Library) (columns : CredentialColumns Row)

/-- The plaintext of a row under a derived key. -/
def RowOpens (key : List UInt8) (row : Row) (plaintext : String) : Prop :=
  Opens library key (columns.ciphertext row) (columns.nonce row) (columns.keyVersion row) plaintext

/-- What becomes of a row: its credential opens under the current key as it did before. -/
structure RowKept (current : CredentialCipher) (legacy : Option CredentialCipher)
    (before after : Row) : Prop where
  /-- The credential is not empty, and one of the keys opened it. -/
  held : ∃ plaintext ≠ "", RowOpens library columns current.derivedKey after plaintext ∧
    (RowOpens library columns current.derivedKey before plaintext ∨
      ∃ cipher ∈ legacy, RowOpens library columns cipher.derivedKey before plaintext)
  /-- A row that the current key opened is as it was. -/
  unchanged : ∀ plaintext, RowOpens library columns current.derivedKey before plaintext →
    after = before
  /-- Nothing but the ciphertext and the nonce is another one. -/
  rest : after = columns.rewrapped before (columns.ciphertext after) (columns.nonce after)

variable {library columns}

/-- A row that is put under the current key keeps its credential. -/
theorem rewrapRow_kept (authenticated : library.Authenticated) {current : CredentialCipher}
    {legacy : Option CredentialCipher} {before after : Row} {fresh : Bool} {start stop : Random}
    (done : rewrapRow library columns current legacy before start = (.ok (after, fresh), stop)) :
    RowKept library columns current legacy before after := by
  cases tried : current.decryptCanary library (columns.ciphertext before) (columns.nonce before)
    (columns.keyVersion before) with
  | ok passed =>
    -- The current key opens the row already.
    rw [rewrapRow, tried] at done
    obtain ⟨plaintext, filled, opened⟩ := CredentialCipher.decryptCanary_eq_ok.mp tried
    simp only [Effect.pure_apply, Prod.mk.injEq, Except.ok.injEq] at done
    obtain ⟨⟨rfl, -⟩, -⟩ := done
    exact ⟨⟨plaintext, filled, opened, Or.inl opened⟩, fun _ _ => rfl,
      (columns.rewrapped_self before).symm⟩
  | error refused =>
    rw [rewrapRow, tried] at done
    simp only [Effect.bind_eq_ok, Effect.decided_apply, Effect.mapError_eq_ok, Effect.pure_apply,
      Prod.mk.injEq, required_eq_ok, mapError_eq_ok, Except.ok.injEq] at done
    obtain ⟨cipher, _, ⟨given, rfl⟩, plaintext, _, ⟨decrypted, rfl⟩, ⟨ciphertext, nonce⟩, _,
      encrypted, ⟨rfl, -⟩, rfl⟩ := done
    have opened := CredentialCipher.decryptParts_eq_ok.mp decrypted
    obtain ⟨filled, sealed⟩ := CredentialCipher.encryptParts_opens authenticated encrypted
    refine ⟨⟨plaintext, filled, ?_, Or.inr ⟨cipher, given, opened⟩⟩, fun other under => ?_, ?_⟩
    · rw [RowOpens, columns.ciphertext_rewrapped, columns.nonce_rewrapped,
        columns.keyVersion_rewrapped, opened.version]
      exact sealed
    · -- What both keys open is one text, which the canary would have passed.
      obtain ⟨-, rfl⟩ := Opens.unique authenticated under opened
      have passed := CredentialCipher.decryptCanary_eq_ok.mpr ⟨_, filled, under⟩
      rw [passed] at tried
      cases tried
    · rw [columns.ciphertext_rewrapped, columns.nonce_rewrapped]

variable (library columns)

/-- The exporter decrypts a row with a key. -/
def ExporterReads (key : String) (row : Row) (plaintext : String) : Prop :=
  ∃ cipher, CredentialCipher.new library key = .ok cipher ∧
    cipher.decryptParts library (columns.ciphertext row) (columns.nonce row)
      (columns.keyVersion row) = .ok plaintext

/-- The application decrypts a row with a key. -/
def ApplicationReads (key : String) (row : Row) (plaintext : String) : Prop :=
  ∃ cipher, Crypto.CredentialCipher.new library key = .ok cipher ∧
    cipher.decrypt library
      { ciphertext := columns.ciphertext row
        nonce := columns.nonce row
        keyVersion := columns.keyVersion row } = .ok plaintext

variable {library columns}

/-- The exporter reads what opens under the derived key. -/
theorem exporterReads_iff {key : String} {row : Row} {plaintext : String} :
    ExporterReads library columns key row plaintext ↔
      key ≠ "" ∧ RowOpens library columns (library.sha256 (bytesOf key)) row plaintext := by
  simp only [ExporterReads, CredentialCipher.new_eq_ok, CredentialCipher.decryptParts_eq_ok,
    RowOpens]
  constructor
  · rintro ⟨_, ⟨filled, rfl⟩, opened⟩
    exact ⟨filled, opened⟩
  · rintro ⟨filled, opened⟩
    exact ⟨_, ⟨filled, rfl⟩, opened⟩

/-- The application reads the same. -/
theorem applicationReads_iff {key : String} {row : Row} {plaintext : String} :
    ApplicationReads library columns key row plaintext ↔
      key ≠ "" ∧ RowOpens library columns (library.sha256 (bytesOf key)) row plaintext := by
  simp only [ApplicationReads, Crypto.CredentialCipher.new, bind_eq_ok, ensure_eq_ok, pure_eq_ok,
    bne_iff_ne, Crypto.CredentialCipher.decrypt, Crypto.CredentialCipher.decryptParts_eq_ok,
    RowOpens]
  constructor
  · rintro ⟨_, ⟨_, filled, rfl⟩, opened⟩
    exact ⟨filled, opened⟩
  · rintro ⟨filled, opened⟩
    exact ⟨_, ⟨⟨⟩, filled, rfl⟩, opened⟩

/-- Both implementations read the same rows with the same keys. -/
theorem exporterReads_iff_applicationReads {key : String} {row : Row} {plaintext : String} :
    ExporterReads library columns key row plaintext ↔
      ApplicationReads library columns key row plaintext :=
  exporterReads_iff.trans applicationReads_iff.symm

variable (library columns)

/-- What a rewrap does to a row. -/
structure CredentialKept (currentKey : String) (legacyKey : Option String) (before after : Row) :
    Prop where
  /-- One of the two keys decrypted the row before. -/
  held : ∃ plaintext, ExporterReads library columns currentKey before plaintext ∨
    ∃ key ∈ legacyKey, ExporterReads library columns key before plaintext
  /-- Whatever a key decrypted it to, the current key does now, in both implementations. -/
  same : ∀ key plaintext, ExporterReads library columns key before plaintext ∨
      ApplicationReads library columns key before plaintext →
    ExporterReads library columns currentKey after plaintext ∧
      ApplicationReads library columns currentKey after plaintext
  /-- A row that the current key decrypted is as it was. -/
  unchanged : ∀ plaintext, ExporterReads library columns currentKey before plaintext →
    after = before
  /-- Nothing but the ciphertext and the nonce is another one. -/
  rest : after = columns.rewrapped before (columns.ciphertext after) (columns.nonce after)

variable {library columns}

/-- The ciphers of keys that may be absent. -/
theorem mapM_new_eq_ok {key : Option String} {cipher : Option CredentialCipher}
    (made : key.mapM (CredentialCipher.new library) = .ok cipher) :
    ∀ one ∈ cipher, ∃ text ∈ key, CredentialCipher.new library text = .ok one := by
  cases key with
  | none =>
    cases made
    simp
  | some text =>
    simp only [Option.mapM_some, functor_map_eq_ok] at made
    obtain ⟨one, new, rfl⟩ := made
    rintro _ ⟨⟩
    exact ⟨text, rfl, new⟩

/-- A kept row is kept in the terms of both implementations. -/
theorem RowKept.credential (authenticated : library.Authenticated) {currentKey : String}
    {legacyKey : Option String} {current : CredentialCipher} {legacy : Option CredentialCipher}
    {before after : Row} (currentNew : CredentialCipher.new library currentKey = .ok current)
    (legacyNew : legacyKey.mapM (CredentialCipher.new library) = .ok legacy)
    (kept : RowKept library columns current legacy before after) :
    CredentialKept library columns currentKey legacyKey before after := by
  obtain ⟨given, rfl⟩ := CredentialCipher.new_eq_ok.mp currentNew
  obtain ⟨plaintext, -, now, held⟩ := kept.held
  refine ⟨⟨plaintext, ?_⟩, fun key other read => ?_, fun other read => ?_, kept.rest⟩
  · rcases held with opened | ⟨cipher, member, opened⟩
    · exact Or.inl (exporterReads_iff.mpr ⟨given, opened⟩)
    · obtain ⟨key, there, new⟩ := mapM_new_eq_ok legacyNew cipher member
      exact Or.inr ⟨key, there, cipher, new, CredentialCipher.decryptParts_eq_ok.mpr opened⟩
  · -- The row has one plaintext, whichever key opened it.
    have opened : RowOpens library columns (library.sha256 (bytesOf key)) before other := by
      rw [exporterReads_iff, applicationReads_iff, or_self] at read
      exact read.2
    have same : other = plaintext := by
      rcases held with first | ⟨cipher, -, first⟩
      · exact (Opens.unique authenticated opened first).2
      · exact (Opens.unique authenticated opened first).2
    rw [same]
    exact ⟨exporterReads_iff.mpr ⟨given, now⟩, applicationReads_iff.mpr ⟨given, now⟩⟩
  · exact kept.unchanged other (exporterReads_iff.mp read).2

/-- A kept row passes the canary. -/
theorem RowKept.canary {current : CredentialCipher} {legacy : Option CredentialCipher}
    {before after : Row} (kept : RowKept library columns current legacy before after) :
    canaryRow library columns current after = .ok ⟨⟩ := by
  obtain ⟨plaintext, filled, opened, -⟩ := kept.held
  exact mapError_eq_ok.mpr (CredentialCipher.decryptCanary_eq_ok.mpr ⟨plaintext, filled, opened⟩)

/-- All rows that are put under the current key are kept. -/
theorem mapM_rewrapRow (authenticated : library.Authenticated) {current : CredentialCipher}
    {legacy : Option CredentialCipher} {rows : List Row} {results : List (Row × Bool)}
    {start stop : Random}
    (done : rows.mapM (rewrapRow library columns current legacy) start = (.ok results, stop)) :
    List.Forall₂ (RowKept library columns current legacy) rows (results.map Prod.fst) := by
  induction rows generalizing results start with
  | nil =>
    cases done
    exact .nil
  | cons row rest ih =>
    rw [List.mapM_cons] at done
    simp only [Effect.bind_eq_ok, Effect.pure_apply, Prod.mk.injEq, Except.ok.injEq] at done
    obtain ⟨⟨after, fresh⟩, middle, first, others, _, restDone, rfl, rfl⟩ := done
    exact .cons (rewrapRow_kept authenticated first) (ih restDone)

end Kept

/-- A canary whose rows pass fails at most on the connections. -/
theorem canary_passes {library : Library} {syncable : String → Option Bool} {dataset : Dataset}
    {key : String} (passes : (dataset.tmoCredentials = [] ∧ dataset.monarchCredentials = []) ∨
      ∃ cipher, CredentialCipher.new library key = .ok cipher ∧
        (∀ row ∈ dataset.tmoCredentials, canaryRow library tmoColumns cipher row = .ok ⟨⟩) ∧
        ∀ row ∈ dataset.monarchCredentials, canaryRow library monarchColumns cipher row = .ok ⟨⟩)
    {error : ExportError}
    (failed : validateCredentialCanary library syncable dataset (some key) = .error error) :
    validateActiveProviderCredentials syncable dataset = .error error := by
  cases active : validateActiveProviderCredentials syncable dataset with
  | error other =>
    rw [validateCredentialCanary, active] at failed
    cases failed
    rfl
  | ok done =>
    -- The rest of the canary passes.
    have passed : ∃ result, validateCredentialCanary library syncable dataset (some key) =
        .ok result := by
      rw [validateCredentialCanary, active]
      by_cases empty : dataset.tmoCredentials.length = 0 ∧ dataset.monarchCredentials.length = 0
      · refine ⟨⟨dataset.tmoCredentials.length, dataset.monarchCredentials.length, none⟩, ?_⟩
        simp only [if_pos empty, bind_eq_ok, pure_eq_ok]
        exact ⟨done, trivial, trivial⟩
      · rcases passes with ⟨noTmo, noMonarch⟩ | ⟨cipher, new, tmo, monarch⟩
        · rw [noTmo, noMonarch] at empty
          exact absurd ⟨rfl, rfl⟩ empty
        · refine ⟨⟨dataset.tmoCredentials.length, dataset.monarchCredentials.length,
            some cipher.keyFingerprint⟩, ?_⟩
          simp only [if_neg empty, bind_eq_ok, required_eq_ok, mapError_eq_ok, pure_eq_ok]
          exact ⟨done, trivial, key, rfl, cipher, new, ⟨⟩, forM_ok tmo, ⟨⟩, forM_ok monarch, rfl⟩
    obtain ⟨result, passed⟩ := passed
    rw [passed] at failed
    cases failed

/-- What a rewrap does to a dataset. -/
structure Rewrapped (library : Library) (syncable : String → Option Bool) (currentKey : String)
    (legacyKey : Option String) (before after : Dataset) : Prop where
  tmo : List.Forall₂ (CredentialKept library tmoColumns currentKey legacyKey)
    before.tmoCredentials after.tmoCredentials
  monarch : List.Forall₂ (CredentialKept library monarchColumns currentKey legacyKey)
    before.monarchCredentials after.monarchCredentials
  /-- No other table is changed. -/
  rest : after = { before with
    tmoCredentials := after.tmoCredentials
    monarchCredentials := after.monarchCredentials }
  /-- The canary with the current key fails at most on the connections. -/
  canary : ∀ error, validateCredentialCanary library syncable after (some currentKey) =
    .error error → validateActiveProviderCredentials syncable after = .error error

/-- A rewrap that succeeds keeps every credential, and nothing else is touched. -/
theorem rewrap_keeps_credentials (library : Library) (authenticated : library.Authenticated)
    (syncable : String → Option Bool) (before after : Dataset) (currentKey : String)
    (legacyKey : Option String) (start stop : Random) (result : CredentialRewrapResult)
    (done : rewrapLegacyCredentials library before (some currentKey) legacyKey start =
      (.ok (after, result), stop)) :
    Rewrapped library syncable currentKey legacyKey before after := by
  unfold rewrapLegacyCredentials at done
  split at done
  · -- Without credentials there is nothing to do, and nothing to try.
    rename_i none
    rw [Bool.and_eq_true, List.isEmpty_iff, List.isEmpty_iff] at none
    simp only [Effect.pure_apply, Prod.mk.injEq, Except.ok.injEq] at done
    obtain ⟨⟨rfl, -⟩, -⟩ := done
    refine ⟨?_, ?_, rfl, fun error failed => canary_passes (Or.inl none) failed⟩
    · rw [none.1]
      exact .nil
    · rw [none.2]
      exact .nil
  · simp only [Effect.bind_eq_ok, Effect.decided_apply, Effect.pure_apply, Prod.mk.injEq,
      mapError_eq_ok, Except.ok.injEq] at done
    obtain ⟨current, _, ⟨currentNew, rfl⟩, legacy, _, ⟨legacyNew, rfl⟩, tmo, _, tmoDone, monarch,
      _, monarchDone, ⟨rfl, -⟩, -⟩ := done
    have tmoKept := mapM_rewrapRow authenticated tmoDone
    have monarchKept := mapM_rewrapRow authenticated monarchDone
    refine ⟨tmoKept.imp fun _ _ kept => kept.credential authenticated currentNew legacyNew,
      monarchKept.imp fun _ _ kept => kept.credential authenticated currentNew legacyNew, rfl,
      fun error failed => canary_passes (Or.inr ⟨current, currentNew, ?_, ?_⟩) failed⟩
    · intro row member
      obtain ⟨_, -, kept⟩ := forall₂_mem_right tmoKept member
      exact kept.canary
    · intro row member
      obtain ⟨_, -, kept⟩ := forall₂_mem_right monarchKept member
      exact kept.canary

/-! ### A credential of the older application -/

/-- The digest of the older key. -/
def legacyDigest : List UInt8 :=
  [99, 88, 30, 165, 71, 212, 11, 208, 56, 161, 247, 95, 37, 108, 164, 52, 117, 67, 75, 53, 135, 89,
    41, 204, 77, 10, 56, 247, 95, 30, 132, 195]

/-- The digest of the current key. -/
def currentDigest : List UInt8 :=
  [214, 193, 180, 25, 99, 68, 197, 170, 41, 5, 151, 84, 75, 138, 169, 14, 6, 166, 30, 20, 90, 35,
    103, 102, 254, 120, 183, 56, 45, 51, 159, 11]

/-- The nonce of the older application. -/
def legacyNonce : Nonce := ⟨[0, 1, 2, 3, 4, 5, 6, 7, 8, 9, 10, 11], rfl⟩

/-- The nonce of the rewrap. -/
def currentNonce : Nonce := ⟨[16, 17, 18, 19, 20, 21, 22, 23, 24, 25, 26, 27], rfl⟩

/-- The secret under the older key. -/
def legacySealed : List UInt8 :=
  [66, 196, 81, 102, 173, 112, 182, 216, 64, 40, 173, 251, 157, 107, 39, 122, 127, 244, 171, 157,
    249, 64, 157, 225, 213, 41, 36, 57, 111, 4, 56, 183, 171, 174]

/-- The secret under the current key. -/
def currentSealed : List UInt8 :=
  [101, 219, 230, 241, 171, 149, 77, 108, 217, 92, 218, 211, 245, 27, 175, 12, 126, 13, 225, 2, 92,
    134, 58, 98, 250, 31, 37, 50, 104, 165, 79, 147, 109, 213]

/-- The libraries on the two keys and the one secret of this example. -/
def fixtureLibrary : Library where
  sha256 bytes :=
    if bytes = bytesOf "legacy-fixture-key" then legacyDigest
    else if bytes = bytesOf "current-production-key" then currentDigest
    else bytes
  encrypt key nonce plaintext :=
    if plaintext ≠ bytesOf "fixture-secret-123" then none
    else if key = legacyDigest ∧ nonce = legacyNonce then some legacySealed
    else if key = currentDigest ∧ nonce = currentNonce then some currentSealed
    else none
  decrypt key nonce ciphertext :=
    if key = legacyDigest ∧ nonce = legacyNonce ∧ ciphertext = legacySealed ∨
        key = currentDigest ∧ nonce = currentNonce ∧ ciphertext = currentSealed then
      some (bytesOf "fixture-secret-123")
    else none

/-- A text is opened with one of the two keys only. -/
theorem fixtureLibrary_authenticated : fixtureLibrary.Authenticated where
  returns := by
    intro key nonce plaintext ciphertext made
    simp only [fixtureLibrary] at made ⊢
    split at made
    · cases made
    · rename_i secret
      rw [ne_eq, not_not] at secret
      split at made
      · rename_i old
        cases made
        rw [if_pos (Or.inl ⟨old.1, old.2, rfl⟩), secret]
      · split at made
        · rename_i new
          cases made
          rw [if_pos (Or.inr ⟨new.1, new.2, rfl⟩), secret]
        · cases made
  refuses := by
    intro key other nonce plaintext ciphertext opened different
    simp only [fixtureLibrary] at opened ⊢
    have apart : legacyNonce ≠ currentNonce := by decide
    split at opened
    · rename_i keyed
      -- The nonce tells which of the two keys it is.
      refine if_neg ?_
      rintro (⟨old, nonceOld, -⟩ | ⟨new, nonceNew, -⟩)
      · rcases keyed with ⟨same, -, -⟩ | ⟨-, nonceNew, -⟩
        · exact different (old.trans same.symm)
        · exact apart (nonceOld.symm.trans nonceNew)
      · rcases keyed with ⟨-, nonceOld, -⟩ | ⟨same, -, -⟩
        · exact apart (nonceOld.symm.trans nonceNew)
        · exact different (new.trans same.symm)
    · cases opened

/-- A dataset with one connection and its credential. -/
def fixtureDataset : Dataset :=
  { Dataset.empty with
    tmoCredentials := [⟨1, "company", "account",
      "QsRRZq1wtthAKK37nWsnen/0q535QJ3h1SkkOW8EOLerrg==", "AAECAwQFBgcICQoL", 1,
      "2025-01-01T00:00:00.000Z", "2025-01-01T00:00:00.000Z"⟩] }

/-- The credential of the older application is kept. -/
theorem rewrap_keeps_credentials_fixture : ∃ after result stop,
    rewrapLegacyCredentials fixtureLibrary fixtureDataset (some "current-production-key")
      (some "legacy-fixture-key") (fun _ => currentNonce) = (.ok (after, result), stop) ∧
    result = ⟨1, 0, some "63581ea5"⟩ ∧
    Rewrapped fixtureLibrary (fun _ => none) "current-production-key" (some "legacy-fixture-key")
      fixtureDataset after := by
  have ran : (rewrapLegacyCredentials fixtureLibrary fixtureDataset
      (some "current-production-key") (some "legacy-fixture-key")
      (fun _ => currentNonce)).1.toOption.map Prod.snd = some ⟨1, 0, some "63581ea5"⟩ := by
    decide +kernel
  rcases done : rewrapLegacyCredentials fixtureLibrary fixtureDataset
    (some "current-production-key") (some "legacy-fixture-key") (fun _ => currentNonce) with
      ⟨outcome, stop⟩
  rw [done] at ran
  cases outcome with
  | error error => cases ran
  | ok rewrapped =>
    obtain ⟨after, result⟩ := rewrapped
    exact ⟨after, result, stop, rfl, Option.some.inj ran, rewrap_keeps_credentials fixtureLibrary
      fixtureLibrary_authenticated (fun _ => none) fixtureDataset after "current-production-key"
      (some "legacy-fixture-key") _ stop result done⟩

end FinStream.Migration
