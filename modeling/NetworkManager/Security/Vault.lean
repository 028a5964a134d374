import NetworkManager.Foundation.Bytes
import NetworkManager.Foundation.Table

/-!
# Envelope encryption

A secret is encrypted under a data key of its own, and the data key under a
master key of the ring.  Both layers are bound to associated data: the data
layer to that of the caller, the wrapping layer to the same bytes behind a
prefix.
-/

namespace NetworkManager.Security.Vault

open NetworkManager.Foundation

/-- The cipher and the hash function that the vault uses. -/
structure VaultLibrary where
  /-- AES-256-GCM encryption: key, nonce, message, associated data. -/
  encrypt : FixedBytes 32 → FixedBytes 12 → Bytes → Bytes → Option Bytes
  /-- AES-256-GCM decryption: key, nonce, ciphertext, associated data. -/
  decrypt : FixedBytes 32 → FixedBytes 12 → Bytes → Bytes → Option Bytes
  /-- SHA-256. -/
  sha256 : Bytes → FixedBytes 32

/-- Decryption under equal key, nonce and associated data gives the message
back. -/
def VaultLibrary.Inverts (library : VaultLibrary) : Prop :=
  ∀ key nonce message associated ciphertext,
    library.encrypt key nonce message associated = some ciphertext →
      library.decrypt key nonce ciphertext associated = some message

/-- Only what has been encrypted is decrypted, and a ciphertext is made under one
text of associated data only.  This idealises the cipher: the ciphertexts under
all keys and nonces are taken together, of which AES-256-GCM only makes it hard
to find two that are equal. -/
structure VaultLibrary.Authenticates (library : VaultLibrary) : Prop where
  made : ∀ {key nonce message associated ciphertext},
    library.decrypt key nonce ciphertext associated = some message →
      library.encrypt key nonce message associated = some ciphertext
  bound : ∀ {key nonce message associated ciphertext other otherNonce
      otherMessage otherAssociated},
    library.encrypt key nonce message associated = some ciphertext →
    library.encrypt other otherNonce otherMessage otherAssociated =
      some ciphertext →
    associated = otherAssociated

inductive VaultError where
  | invalidKeyVersion
  | invalidMasterKey
  | invalidDataKey
  | noCurrentMasterKey
  | missingMasterKey (version : UInt32)
  | associatedDataMismatch
  | encryptionFailed
  | decryptionFailed
deriving DecidableEq, Repr

/-- A key with its version, which is never zero. -/
structure MasterKey where
  version : UInt32
  key : FixedBytes 32
  versionNonzero : version ≠ 0
deriving DecidableEq

def MasterKey.new (version : UInt32) (key : FixedBytes 32) :
    Except VaultError MasterKey :=
  if zero : version = 0 then
    .error .invalidKeyVersion
  else
    .ok ⟨version, key, zero⟩

structure KeyRing where
  keys : Table UInt32 MasterKey MasterKey.version
  currentVersion : Option UInt32

namespace KeyRing

/-- The ring without keys. -/
def default : KeyRing := ⟨.empty MasterKey.version, none⟩

def insert (ring : KeyRing) (key : MasterKey) (makeCurrent : Bool) :
    KeyRing :=
  { keys := ring.keys.put key
    currentVersion :=
      if makeCurrent then some key.version else ring.currentVersion }

def get (ring : KeyRing) (version : UInt32) : Except VaultError MasterKey :=
  match ring.keys.lookup version with
  | none => .error (.missingMasterKey version)
  | some key => .ok key

def current (ring : KeyRing) : Except VaultError MasterKey :=
  match ring.currentVersion with
  | none => .error .noCurrentMasterKey
  | some version => ring.get version

theorem version_of_get {ring : KeyRing} {version : UInt32} {key : MasterKey}
    (found : ring.get version = .ok key) : key.version = version := by
  unfold get at found
  cases present : ring.keys.lookup version with
  | none => simp [present] at found
  | some stored =>
      rw [present] at found
      cases found
      exact Table.key_of_lookup present

/-- The current key is the key that the ring holds under its version. -/
theorem get_version_of_current {ring : KeyRing} {key : MasterKey}
    (isCurrent : ring.current = .ok key) : ring.get key.version = .ok key := by
  unfold current at isCurrent
  cases chosen : ring.currentVersion with
  | none => simp [chosen] at isCurrent
  | some version =>
      rw [chosen] at isCurrent
      have found : ring.get version = .ok key := isCurrent
      rw [version_of_get found]
      exact found

end KeyRing

structure EncryptedSecret where
  keyVersion : UInt32
  wrappedDekNonce : FixedBytes 12
  wrappedDek : Bytes
  dataNonce : FixedBytes 12
  ciphertext : Bytes
  aadHash : FixedBytes 32
deriving DecidableEq

/-- What the operating system's generator gives to one encryption. -/
structure Entropy where
  dek : FixedBytes 32
  dataNonce : FixedBytes 12
  wrappedDekNonce : FixedBytes 12

def wrappingAad (aad : Bytes) : Bytes :=
  utf8Bytes "snm:vault:dek:" ++ aad

variable (library : VaultLibrary)

namespace EncryptedSecret

def encrypt (plaintext aad : Bytes) (key : MasterKey) (entropy : Entropy) :
    Except VaultError EncryptedSecret :=
  match library.encrypt entropy.dek entropy.dataNonce plaintext aad with
  | none => .error .encryptionFailed
  | some ciphertext =>
      match library.encrypt key.key entropy.wrappedDekNonce entropy.dek.bytes
          (wrappingAad aad) with
      | none => .error .encryptionFailed
      | some wrappedDek =>
          .ok
            { keyVersion := key.version
              wrappedDekNonce := entropy.wrappedDekNonce
              wrappedDek
              dataNonce := entropy.dataNonce
              ciphertext
              aadHash := library.sha256 aad }

def decrypt (encrypted : EncryptedSecret) (aad : Bytes) (keys : KeyRing) :
    Except VaultError Bytes :=
  if encrypted.aadHash ≠ library.sha256 aad then
    .error .associatedDataMismatch
  else
    match keys.get encrypted.keyVersion with
    | .error failure => .error failure
    | .ok master =>
        match library.decrypt master.key encrypted.wrappedDekNonce
            encrypted.wrappedDek (wrappingAad aad) with
        | none => .error .decryptionFailed
        | some dek =>
            match FixedBytes.tryFrom 32 dek with
            | none => .error .invalidDataKey
            | some dek =>
                match library.decrypt dek encrypted.dataNonce
                    encrypted.ciphertext aad with
                | none => .error .decryptionFailed
                | some plaintext => .ok plaintext

def rotate (encrypted : EncryptedSecret) (aad : Bytes) (keys : KeyRing)
    (entropy : Entropy) : Except VaultError EncryptedSecret :=
  match encrypted.decrypt library aad keys with
  | .error failure => .error failure
  | .ok plaintext =>
      match keys.current with
      | .error failure => .error failure
      | .ok current => encrypt library plaintext aad current entropy

end EncryptedSecret

variable {library}

/-- An encrypted secret that every ring with `key` decrypts, under `aad`, to
`plaintext`. -/
structure EncryptedSecret.Holds (library : VaultLibrary)
    (encrypted : EncryptedSecret) (key : MasterKey)
    (aad plaintext : Bytes) : Prop where
  keyVersion : encrypted.keyVersion = key.version
  aadHash : encrypted.aadHash = library.sha256 aad
  opens : ∃ dek : FixedBytes 32,
    library.decrypt key.key encrypted.wrappedDekNonce encrypted.wrappedDek
        (wrappingAad aad) = some dek.bytes ∧
      library.decrypt dek encrypted.dataNonce encrypted.ciphertext aad =
        some plaintext

theorem EncryptedSecret.holds_of_encrypt (inverts : library.Inverts)
    {plaintext aad : Bytes} {key : MasterKey} {entropy : Entropy}
    {encrypted : EncryptedSecret}
    (made : encrypt library plaintext aad key entropy = .ok encrypted) :
    encrypted.Holds library key aad plaintext := by
  unfold encrypt at made
  cases dataLayer :
      library.encrypt entropy.dek entropy.dataNonce plaintext aad with
  | none => simp [dataLayer] at made
  | some ciphertext =>
      rw [dataLayer] at made
      cases wrappingLayer :
          library.encrypt key.key entropy.wrappedDekNonce entropy.dek.bytes
            (wrappingAad aad) with
      | none => simp [wrappingLayer] at made
      | some wrappedDek =>
          rw [wrappingLayer] at made
          cases made
          have unwrapped := inverts _ _ _ _ _ wrappingLayer
          have opened := inverts _ _ _ _ _ dataLayer
          exact ⟨rfl, rfl, entropy.dek, unwrapped, opened⟩

theorem EncryptedSecret.Holds.decrypt {encrypted : EncryptedSecret}
    {key : MasterKey} {aad plaintext : Bytes} {keys : KeyRing}
    (holds : encrypted.Holds library key aad plaintext)
    (held : keys.get key.version = .ok key) :
    encrypted.decrypt library aad keys = .ok plaintext := by
  obtain ⟨dek, unwrapped, opened⟩ := holds.opens
  rw [EncryptedSecret.decrypt, if_neg (by simp [holds.aadHash]),
    holds.keyVersion, held]
  simp only [unwrapped, FixedBytes.tryFrom_bytes, opened]

/-- Other associated data, with another hash, is refused whatever the ring. -/
theorem EncryptedSecret.Holds.decrypt_of_ne {encrypted : EncryptedSecret}
    {key : MasterKey} {aad plaintext other : Bytes}
    (holds : encrypted.Holds library key aad plaintext) (keys : KeyRing)
    (different : library.sha256 aad ≠ library.sha256 other) :
    encrypted.decrypt library other keys =
      .error .associatedDataMismatch := by
  rw [EncryptedSecret.decrypt, if_pos (by rwa [holds.aadHash])]

/-- Rotation keeps the plaintext and moves it to the current key. -/
theorem EncryptedSecret.Holds.rotate (inverts : library.Inverts)
    {encrypted rotated : EncryptedSecret} {key : MasterKey}
    {aad plaintext : Bytes} {keys : KeyRing} {entropy : Entropy}
    (holds : encrypted.Holds library key aad plaintext)
    (held : keys.get key.version = .ok key)
    (made : encrypted.rotate library aad keys entropy = .ok rotated) :
    ∃ current, keys.current = .ok current ∧
      rotated.Holds library current aad plaintext := by
  rw [EncryptedSecret.rotate, holds.decrypt held] at made
  cases chosen : keys.current with
  | error failure => simp [chosen] at made
  | ok current =>
      rw [chosen] at made
      exact ⟨current, rfl, holds_of_encrypt inverts made⟩

end NetworkManager.Security.Vault
