import NetworkManager.SecurityStore.RoundTrip

/-!
# Ciphertexts of other profiles

The associated data of a profile names its organization, its identifier and its
kind, and no other profile has the same.  A ciphertext that is moved to another
profile cannot be read there, whatever else stands in its row.
-/

namespace NetworkManager.SecurityStore

open NetworkManager.Foundation
open NetworkManager.Security.Vault
open NetworkManager.Transaction

/-- The identifiers have a fixed length and the kind comes last, so that its
colons do no harm. -/
theorem profileAad_eq_iff {organizationId profileId otherOrganizationId
      otherProfileId : Uuid} {kind otherKind : String} :
    profileAad organizationId profileId kind =
        profileAad otherOrganizationId otherProfileId otherKind ↔
      organizationId = otherOrganizationId ∧ profileId = otherProfileId ∧
        kind = otherKind := by
  constructor
  · intro same
    have characters := congrArg String.toList (utf8Bytes_injective same)
    simp only [String.toList_append, List.append_assoc,
      List.append_cancel_left_eq, Uuid.text, String.toList_ofList] at characters
    have organizations := List.append_inj characters (by
      rw [Uuid.length_characters, Uuid.length_characters])
    have rest := List.append_cancel_left organizations.2
    have profiles := List.append_inj rest (by
      rw [Uuid.length_characters, Uuid.length_characters])
    have kinds := List.append_cancel_left profiles.2
    exact ⟨Uuid.characters_injective organizations.1,
      Uuid.characters_injective profiles.1, String.toList_inj.mp kinds⟩
  · intro same
    rw [same.1, same.2.1, same.2.2]

private theorem profileAad_ne {organizationId profileId otherOrganizationId
      otherProfileId : Uuid} {kind otherKind : String}
    (differ : (organizationId, profileId, kind) ≠
      (otherOrganizationId, otherProfileId, otherKind)) :
    profileAad organizationId profileId kind ≠
      profileAad otherOrganizationId otherProfileId otherKind := by
  intro same
  rcases profileAad_eq_iff.mp same with ⟨sameOrganization, sameId, sameKind⟩
  exact differ (by rw [sameOrganization, sameId, sameKind])

/-- The two layers of a secret have different associated data. -/
theorem wrappingAad_ne (aad : Bytes) : wrappingAad aad ≠ aad := by
  intro same
  have lengths := congrArg List.length same
  have longer : (wrappingAad aad).length = 14 + aad.length := by
    rw [wrappingAad, List.length_append]
    rfl
  omega

private theorem wrappingAad_injective : Function.Injective wrappingAad :=
  fun _ _ same => List.append_cancel_left same

section Reading

variable {library : VaultLibrary} {keys : KeyRing}

/-- A secret that a ring decrypts lies under a key of the ring. -/
theorem holds_of_decrypt {encrypted : EncryptedSecret} {aad plaintext : Bytes}
    (opened : encrypted.decrypt library aad keys = .ok plaintext) :
    ∃ key, keys.get key.version = .ok key ∧
      encrypted.Holds library key aad plaintext := by
  unfold EncryptedSecret.decrypt at opened
  split at opened
  case isTrue => cases opened
  case isFalse sameHash =>
    split at opened
    case h_1 => cases opened
    case h_2 master found =>
      have isVersion := KeyRing.version_of_get found
      split at opened
      case h_1 => cases opened
      case h_2 bytes unwrapped =>
        split at opened
        case h_1 => cases opened
        case h_2 dek sized =>
          split at opened
          case h_1 => cases opened
          case h_2 message decrypted =>
            cases opened
            rw [FixedBytes.bytes_of_tryFrom sized] at unwrapped
            rw [← isVersion] at found
            exact ⟨master, found, isVersion.symm, not_ne_iff.mp sameHash, dek,
              unwrapped, decrypted⟩

private theorem execSelectCiphertext_eq_some_iff
    {profileId organizationId : Uuid}
    {db : CredentialDb} {profile : ProfileRow} {row : CiphertextRow} :
    execSelectCiphertext profileId organizationId db = some (profile, row) ↔
      db.profile profileId organizationId = some profile ∧
        db.ciphertexts.lookup profileId = some row := by
  constructor
  · intro both
    unfold execSelectCiphertext at both
    split at both
    case h_1 isProfile isRow =>
      cases both
      exact ⟨isProfile, isRow⟩
    case h_2 => cases both
  · intro both
    exact execSelectCiphertext_eq_some both.1 both.2

/-- What is read for a profile has been decrypted under the associated data of
its kind. -/
theorem resolveSecret_eq_ok {organizationId profileId : Uuid} {secret : Bytes}
    {db reached : CredentialDb}
    (ended : (resolveSecret library keys organizationId profileId).call db =
      (.ok secret, reached)) :
    ∃ profile row encrypted, db.profile profileId organizationId = some profile ∧
      db.ciphertexts.lookup profileId = some row ∧
      rowToCiphertext row = .ok encrypted ∧
      encrypted.decrypt library
        (profileAad organizationId profileId profile.kind) keys = .ok secret := by
  rcases Program.call_eq_ok ended with ⟨final, evaluated, _⟩
  rcases Program.eval_bind_eq_ok evaluated with ⟨found, _, selected, ended⟩
  rcases Program.eval_statement_eq_ok selected with ⟨_, answered, _⟩
  rcases Program.eval_bind_eq_ok ended with ⟨⟨profile, row⟩, _, isThere, ended⟩
  rcases eq_some_of_require isThere with ⟨isFound, _⟩
  rcases Program.eval_bind_eq_ok ended with ⟨_, _, _, ended⟩
  rcases Program.eval_bind_eq_ok ended with ⟨encrypted, _, parsed, ended⟩
  rcases Program.eval_ofExcept_eq_ok parsed with ⟨readBack, _⟩
  rcases Program.eval_ofExcept_eq_ok ended with ⟨opened, _⟩
  have both : execSelectCiphertext profileId organizationId db =
      some (profile, row) := by
    rw [← isFound]
    exact congrArg Prod.fst (Except.ok.inj answered)
  rcases execSelectCiphertext_eq_some_iff.mp both with ⟨isProfile, isRow⟩
  exact ⟨profile, row, encrypted, isProfile, isRow, readBack,
    eq_ok_of_mapError opened⟩

end Reading

/-! ## Transplants -/

private theorem parts_of_rowToCiphertext {row : CiphertextRow}
    {encrypted : EncryptedSecret} (readBack : rowToCiphertext row = .ok encrypted) :
    encrypted.wrappedDek = row.wrappedDek ∧
      encrypted.ciphertext = row.ciphertext ∧
      encrypted.aadHash.bytes = row.aadHash := by
  unfold rowToCiphertext at readBack
  split at readBack
  case h_1 sized =>
    cases readBack
    exact ⟨rfl, rfl, (FixedBytes.bytes_of_tryFrom sized).symm⟩
  case h_2 => cases readBack

/-- Some ring opens the row as the secret of a profile. -/
def CiphertextRow.Opens (library : VaultLibrary) (row : CiphertextRow)
    (organizationId profileId : Uuid) (kind : String) (secret : Bytes) : Prop :=
  ∃ keys encrypted, rowToCiphertext row = .ok encrypted ∧
    encrypted.decrypt library (profileAad organizationId profileId kind) keys =
      .ok secret

section Transplants

variable {library : VaultLibrary} {db reached : CredentialDb} {keys : KeyRing}
  {organizationId profileId otherOrganizationId otherProfileId : Uuid}
  {kind : String} {secret : Bytes} {row copy : CiphertextRow}
  {profile : ProfileRow}

/-- A row that is read for a profile opens as the secret of that profile. -/
theorem opens_of_resolveSecret
    (ended : (resolveSecret library keys organizationId profileId).call db =
      (.ok secret, reached)) :
    ∃ profile row, db.profile profileId organizationId = some profile ∧
      db.ciphertexts.lookup profileId = some row ∧
      row.Opens library organizationId profileId profile.kind secret := by
  rcases resolveSecret_eq_ok ended with
    ⟨profile, row, encrypted, isProfile, isRow, readBack, opened⟩
  exact ⟨profile, row, isProfile, isRow, keys, encrypted, readBack, opened⟩

/-- The sealed parts of a row and the associated data they open under. -/
theorem CiphertextRow.Opens.parts
    (opens : row.Opens library organizationId profileId kind secret) :
    (∃ key nonce message, library.decrypt key nonce row.wrappedDek
        (wrappingAad (profileAad organizationId profileId kind)) =
          some message) ∧
      ∃ key nonce message, library.decrypt key nonce row.ciphertext
        (profileAad organizationId profileId kind) = some message := by
  rcases opens with ⟨keys, encrypted, readBack, opened⟩
  rcases holds_of_decrypt opened with ⟨key, _, holds⟩
  rcases holds.opens with ⟨dek, unwrapped, decrypted⟩
  rcases parts_of_rowToCiphertext readBack with ⟨sameDek, sameCiphertext, _⟩
  rw [sameDek] at unwrapped
  rw [sameCiphertext] at decrypted
  exact ⟨⟨_, _, _, unwrapped⟩, _, _, _, decrypted⟩

/-- Two rows that share a sealed part open for one profile only. -/
theorem CiphertextRow.Opens.unique {otherKind : String} {otherSecret : Bytes}
    (authenticates : library.Authenticates)
    (opens : row.Opens library organizationId profileId kind secret)
    (otherOpens : copy.Opens library otherOrganizationId otherProfileId
      otherKind otherSecret)
    (shared : copy.wrappedDek = row.wrappedDek ∨
      copy.ciphertext = row.ciphertext) :
    profileAad organizationId profileId kind =
      profileAad otherOrganizationId otherProfileId otherKind := by
  rcases opens.parts with
    ⟨⟨_, _, _, unwrapped⟩, _, _, _, decrypted⟩
  rcases otherOpens.parts with
    ⟨⟨_, _, _, otherUnwrapped⟩, _, _, _, otherDecrypted⟩
  rcases shared with sameDek | sameCiphertext
  · rw [sameDek] at otherUnwrapped
    exact wrappingAad_injective (authenticates.bound
      (authenticates.made unwrapped) (authenticates.made otherUnwrapped))
  · rw [sameCiphertext] at otherDecrypted
    exact authenticates.bound (authenticates.made decrypted)
      (authenticates.made otherDecrypted)

/-- `copy` is the ciphertext of one profile, and has at least one of its sealed
parts from a row that opens as the secret of another. -/
structure Transplant (library : VaultLibrary) (db : CredentialDb)
    (row copy : CiphertextRow) (organizationId profileId : Uuid) (kind : String)
    (profile : ProfileRow) : Prop where
  opens : ∃ secret, row.Opens library organizationId profileId kind secret
  found : db.profile profile.id profile.organizationId = some profile
  stored : db.ciphertexts.lookup profile.id = some copy
  differ : (organizationId, profileId, kind) ≠
    (profile.organizationId, profile.id, profile.kind)
  shared : copy.wrappedDek = row.wrappedDek ∨ copy.ciphertext = row.ciphertext

/-- No ring reads a transplanted ciphertext, whatever else its row says. -/
theorem Transplant.refused (authenticates : library.Authenticates)
    (transplant : Transplant library db row copy organizationId profileId kind
      profile) (keys : KeyRing) :
    ∃ failure, ((resolveSecret library keys profile.organizationId
      profile.id).call db).1 = .error failure := by
  cases outcome : ((resolveSecret library keys profile.organizationId
      profile.id).call db).1 with
  | error failure => exact ⟨failure, rfl⟩
  | ok secret =>
      exfalso
      rcases opens_of_resolveSecret (Program.call_of_outcome outcome) with
        ⟨found, stored, isFound, isStored, otherOpens⟩
      rw [transplant.found] at isFound
      rw [transplant.stored] at isStored
      cases isFound
      cases isStored
      rcases transplant.opens with ⟨_, opens⟩
      exact profileAad_ne transplant.differ
        (opens.unique authenticates otherOpens transplant.shared)

/-- With the hash of the row it is from, a copy is refused by its hash. -/
theorem Transplant.mismatch
    (transplant : Transplant library db row copy organizationId profileId kind
      profile) (keys : KeyRing) {encrypted : EncryptedSecret}
    (noCollision : library.sha256 (profileAad organizationId profileId kind) ≠
      library.sha256
        (profileAad profile.organizationId profile.id profile.kind))
    (sameHash : copy.aadHash = row.aadHash) (active : profile.active = true)
    (readBack : rowToCiphertext copy = .ok encrypted) :
    ((resolveSecret library keys profile.organizationId profile.id).call
      db).1 = .error (.vault .associatedDataMismatch) := by
  rcases transplant.opens with ⟨secret, rowKeys, original, isOriginal, opened⟩
  rcases holds_of_decrypt opened with ⟨key, _, holds⟩
  have copiedHash : encrypted.aadHash = original.aadHash := by
    apply FixedBytes.ext
    rw [(parts_of_rowToCiphertext readBack).2.2,
      (parts_of_rowToCiphertext isOriginal).2.2, sameHash]
  have refused : encrypted.decrypt library
      (profileAad profile.organizationId profile.id profile.kind) keys =
        .error .associatedDataMismatch := by
    rw [EncryptedSecret.decrypt, copiedHash, holds.aadHash, if_pos noCollision]
  rw [call_resolveSecret transplant.found transplant.stored readBack,
    if_pos active, refused]
  rfl

/-- The associated data tell profiles apart, and the two layers of a secret.  So
a transplanted ciphertext is refused under every ring, and by its hash already
if that has been left as it was. -/
theorem ciphertexts_boundToProfile (authenticates : library.Authenticates) :
    (∀ organizationId profileId kind otherOrganizationId otherProfileId
        otherKind,
      (organizationId, profileId, kind) ≠
          (otherOrganizationId, otherProfileId, otherKind) →
        profileAad organizationId profileId kind ≠
          profileAad otherOrganizationId otherProfileId otherKind) ∧
      (∀ aad, wrappingAad aad ≠ aad) ∧
      ∀ db row copy organizationId profileId kind profile,
        Transplant library db row copy organizationId profileId kind profile →
        ∀ keys,
          (∃ failure, ((resolveSecret library keys profile.organizationId
            profile.id).call db).1 = .error failure) ∧
          ∀ encrypted, rowToCiphertext copy = .ok encrypted →
            copy.aadHash = row.aadHash →
            library.sha256 (profileAad organizationId profileId kind) ≠
              library.sha256
                (profileAad profile.organizationId profile.id profile.kind) →
            profile.active = true →
            ((resolveSecret library keys profile.organizationId
                profile.id).call db).1 =
              .error (.vault .associatedDataMismatch) := by
  refine ⟨?_, wrappingAad_ne, ?_⟩
  · intro _ _ _ _ _ _ differ
    exact profileAad_ne differ
  · intro db row copy organizationId profileId kind profile transplant keys
    constructor
    · exact transplant.refused authenticates keys
    · intro encrypted readBack sameHash noCollision active
      exact transplant.mismatch keys noCollision sameHash active readBack

end Transplants

namespace Sample

private theorem cipher_authenticates : cipher.Authenticates where
  made opened := encrypt_eq_some_iff.mpr (decrypt_eq_some_iff.mp opened)
  bound encrypted otherEncrypted :=
    congrArg Sealing.associated (List.inj_on_of_nodup_map nodup_ciphertexts
      (encrypt_eq_some_iff.mp encrypted)
      (encrypt_eq_some_iff.mp otherEncrypted) rfl)

/-- The profile of a second user of the vault. -/
def neighbour : ProfileRow where
  id := ⟨3⟩
  organizationId
  name := "edge switch"
  kind := "ssh"
  username := none
  metadata := .null
  active := true

/-- The secret of the first profile, as the vault encrypts it. -/
def encrypted : EncryptedSecret where
  keyVersion := 1
  wrappedDekNonce := entropy.wrappedDekNonce
  wrappedDek := keyCiphertext
  dataNonce := entropy.dataNonce
  ciphertext := secretCiphertext
  aadHash := cipher.sha256 (aadOf "ssh")

def sealedRow : CiphertextRow where
  credentialProfileId := profileId
  keyVersion := 1
  wrappedDekNonce := encrypted.wrappedDekNonce.bytes
  wrappedDek := encrypted.wrappedDek
  dataNonce := encrypted.dataNonce.bytes
  ciphertext := encrypted.ciphertext
  aadHash := encrypted.aadHash.bytes

/-- Its copy for the other profile. -/
def copied : CiphertextRow := { sealedRow with credentialProfileId := neighbour.id }

def transplanted : CredentialDb where
  profiles := (Table.empty ProfileRow.id).put neighbour
  ciphertexts := (Table.empty CiphertextRow.credentialProfileId).put copied

private theorem opens_sealedRow :
    sealedRow.Opens cipher organizationId profileId "ssh"
      (input "ssh").secret := by
  have made : EncryptedSecret.encrypt cipher (input "ssh").secret
      (profileAad organizationId profileId "ssh") masterKey entropy =
        .ok encrypted := by
    decide
  have stored : ciphertextRow profileId encrypted = .ok sealedRow := rfl
  have holds := EncryptedSecret.holds_of_encrypt cipher_inverts made
  exact ⟨keys, encrypted, (rowToCiphertext_ciphertextRow stored).2,
    holds.decrypt rfl⟩

private theorem transplant_sealedRow :
    Transplant cipher transplanted sealedRow copied organizationId profileId
      "ssh" neighbour where
  opens := ⟨_, opens_sealedRow⟩
  found := by decide
  stored := Table.lookup_put_self copied (.empty _)
  differ := by decide
  shared := Or.inl rfl

end Sample

/-- A copied ciphertext is refused for its new profile, by its hash. -/
theorem ciphertexts_boundToProfile_copied :
    ((resolveSecret Sample.cipher Sample.keys Sample.neighbour.organizationId
      Sample.neighbour.id).call Sample.transplanted).1 =
        .error (.vault .associatedDataMismatch) := by
  have bound := (ciphertexts_boundToProfile
    Sample.cipher_authenticates).2.2 _ _ _ _ _ _ _
      Sample.transplant_sealedRow Sample.keys
  have stored : ciphertextRow Sample.neighbour.id Sample.encrypted =
      .ok Sample.copied := rfl
  exact bound.2 Sample.encrypted (rowToCiphertext_ciphertextRow stored).2 rfl
    (by decide) rfl

end NetworkManager.SecurityStore
