import NetworkManager.SecurityStore.Store

/-!
# The credential round trip

What a successful `create` leaves in the two tables, what `resolveSecret` and
`rotateProfileKey` make of it, and when a secret can be read back.

The ciphertext is bound to the kind as the caller wrote it, while the profile
keeps the trimmed kind, from which every reader computes the associated data.
-/

namespace NetworkManager.SecurityStore

open NetworkManager.Foundation
open NetworkManager.Security.Vault
open NetworkManager.Transaction

variable {library : VaultLibrary}

private theorem u32TryFrom_of_i32TryFrom {version : UInt32} {stored : Int}
    (converted : i32TryFrom version = some stored) :
    u32TryFrom stored = some version := by
  unfold i32TryFrom at converted
  split at converted
  · cases converted
    have small : (version.toNat : Int) < 2 ^ 32 := by omega
    rw [u32TryFrom, if_pos ⟨by omega, small⟩]
    simp
  · cases converted

theorem rowToCiphertext_ciphertextRow {profileId : Uuid}
    {encrypted : EncryptedSecret} {row : CiphertextRow}
    (made : ciphertextRow profileId encrypted = .ok row) :
    row.credentialProfileId = profileId ∧
      rowToCiphertext row = .ok encrypted := by
  unfold ciphertextRow at made
  cases converted : i32TryFrom encrypted.keyVersion with
  | none => simp [converted] at made
  | some keyVersion =>
      rw [converted] at made
      cases made
      refine ⟨rfl, ?_⟩
      simp only [rowToCiphertext, u32TryFrom_of_i32TryFrom converted,
        FixedBytes.tryFrom_bytes]

/-- An active profile of a kind, whose stored ciphertext decrypts under `key`
and the associated data `aad`. -/
structure Stored (library : VaultLibrary) (db : CredentialDb)
    (organizationId profileId : Uuid) (kind : String) (key : MasterKey)
    (aad secret : Bytes) : Prop where
  profile : ∃ row, db.profile profileId organizationId = some row ∧
    row.active = true ∧ row.kind = kind
  ciphertext : ∃ row encrypted,
    db.ciphertexts.lookup profileId = some row ∧
      rowToCiphertext row = .ok encrypted ∧
      encrypted.Holds library key aad secret

theorem profile_put_self {db : CredentialDb} (row : ProfileRow)
    (ciphertexts : Table Uuid CiphertextRow CiphertextRow.credentialProfileId) :
    CredentialDb.profile ⟨db.profiles.put row, ciphertexts⟩ row.id
      row.organizationId = some row := by
  simp [CredentialDb.profile, Option.filter]

theorem eq_ok_of_mapError {ε δ α : Type} {outcome : Except ε α}
    {wrap : ε → δ} {value : α} (ended : outcome.mapError wrap = .ok value) :
    outcome = .ok value := by
  cases outcome with
  | error failure => simp [Except.mapError] at ended
  | ok given => simpa [Except.mapError] using ended

theorem eq_some_of_require {α : Type}
    {failure : CredentialStoreError} {found : Option α} {value : α}
    {connection reached : Connection credentialSql}
    (ended : (require failure found).eval connection = (.ok value, reached)) :
    found = some value ∧ reached = connection := by
  cases found with
  | none => simp [require, Program.ofExcept] at ended
  | some given =>
      obtain ⟨same, unchanged⟩ := Program.eval_ofExcept_eq_ok ended
      cases same
      exact ⟨rfl, unchanged⟩

private theorem eq_of_execInsertProfile {row : ProfileRow} {db : CredentialDb}
    {writes : List Write}
    (inserted : execInsertProfile row db = .ok ((), writes)) :
    writes = [.profile row] := by
  unfold execInsertProfile at inserted
  split at inserted
  · cases inserted
  · split at inserted
    · cases inserted
    · split at inserted
      · cases inserted
      · cases inserted
        rfl

private theorem eq_of_execInsertCiphertext
    {row : CiphertextRow} {db : CredentialDb}
    {writes : List Write}
    (inserted : execInsertCiphertext row db = .ok ((), writes)) :
    writes = [.ciphertext row] := by
  unfold execInsertCiphertext at inserted
  split at inserted
  · cases inserted
  · split at inserted
    · cases inserted
    · split at inserted
      · cases inserted
      · cases inserted
        rfl

private theorem eq_of_execUpdateCiphertext
    {row : CiphertextRow} {db : CredentialDb}
    {writes : List Write}
    (updated : execUpdateCiphertext row db = .ok (1, writes)) :
    writes = [.ciphertext row] := by
  unfold execUpdateCiphertext at updated
  split at updated
  · cases updated
  · split at updated
    · cases updated
    · cases updated
      rfl

private theorem eval_insertCiphertext_eq_ok {profileId : Uuid}
    {encrypted : EncryptedSecret}
    {connection reached : Connection credentialSql} {value : Unit}
    (ended : (insertCiphertext profileId encrypted).eval connection =
      (.ok value, reached)) :
    ∃ row, ciphertextRow profileId encrypted = .ok row ∧
      reached = ⟨connection.committed,
        applyWrite (.ciphertext row) connection.working⟩ := by
  obtain ⟨row, _, converted, ran⟩ := Program.eval_bind_eq_ok ended
  obtain ⟨rowMade, rfl⟩ := Program.eval_ofExcept_eq_ok converted
  obtain ⟨_, inserted, rfl⟩ := Program.eval_statement_eq_ok ran
  obtain rfl := eq_of_execInsertCiphertext inserted
  exact ⟨row, rowMade, rfl⟩

theorem eval_updateCiphertextTx_eq_ok {profileId : Uuid}
    {encrypted : EncryptedSecret}
    {connection reached : Connection credentialSql} {value : Unit}
    (ended : (updateCiphertextTx profileId encrypted).eval connection =
      (.ok value, reached)) :
    ∃ row, ciphertextRow profileId encrypted = .ok row ∧
      reached = ⟨connection.committed,
        applyWrite (.ciphertext row) connection.working⟩ := by
  obtain ⟨row, _, converted, ran⟩ := Program.eval_bind_eq_ok ended
  obtain ⟨rowMade, rfl⟩ := Program.eval_ofExcept_eq_ok converted
  obtain ⟨rowsAffected, _, ran, checked⟩ := Program.eval_bind_eq_ok ran
  obtain ⟨_, updated, rfl⟩ := Program.eval_statement_eq_ok ran
  obtain ⟨one, rfl⟩ := Program.eval_check_eq_ok checked
  have affected : rowsAffected = 1 := eq_of_beq one
  rw [affected] at updated
  obtain rfl := eq_of_execUpdateCiphertext updated
  exact ⟨row, rowMade, rfl⟩

section Create

variable {keys : KeyRing} {profileId : Uuid} {entropy : Entropy}
  {input : NewCredentialProfile}

/-- A created profile stores its secret under the associated data of the kind
as it was given, beside the trimmed kind. -/
theorem stored_of_create {plan : List (Option SqlError)}
    {db reached : CredentialDb} {summary : CredentialProfileSummary}
    (inverts : library.Inverts)
    (created : (create library keys profileId entropy input).callFaulty plan
      db = (.ok summary, reached)) :
    summary.id = profileId ∧
      ∃ key, keys.current = .ok key ∧
        Stored library reached input.organizationId profileId
          (trim input.kind) key
          (profileAad input.organizationId profileId input.kind)
          input.secret := by
  obtain ⟨final, ended, rfl⟩ :=
    Program.call_eq_ok (Program.callFaulty_ok created)
  obtain ⟨_, _, ran, ended⟩ := Program.eval_bind_eq_ok ended
  obtain ⟨_, rfl⟩ := Program.eval_ofExcept_eq_ok ran
  obtain ⟨key, _, ran, ended⟩ := Program.eval_bind_eq_ok ended
  obtain ⟨isCurrent, rfl⟩ := Program.eval_ofExcept_eq_ok ran
  obtain ⟨encrypted, _, ran, ended⟩ := Program.eval_bind_eq_ok ended
  obtain ⟨made, rfl⟩ := Program.eval_ofExcept_eq_ok ran
  obtain ⟨_, _, ran, ended⟩ := Program.eval_bind_eq_ok ended
  obtain ⟨_, inserted, rfl⟩ := Program.eval_statement_eq_ok ran
  obtain rfl := eq_of_execInsertProfile inserted
  obtain ⟨_, _, ran, ended⟩ := Program.eval_bind_eq_ok ended
  obtain ⟨row, rowMade, rfl⟩ := eval_insertCiphertext_eq_ok ran
  obtain ⟨_, _, ran, ended⟩ := Program.eval_bind_eq_ok ended
  obtain rfl := Program.eval_commitNow_eq_ok ran
  obtain ⟨keyVersion, _, ran, ended⟩ := Program.eval_bind_eq_ok ended
  obtain ⟨_, rfl⟩ := eq_some_of_require ran
  obtain ⟨rfl, rfl⟩ := Program.eval_pure_eq_ok ended
  obtain ⟨rowKey, readBack⟩ := rowToCiphertext_ciphertextRow rowMade
  have holds :=
    EncryptedSecret.holds_of_encrypt inverts (eq_ok_of_mapError made)
  refine ⟨rfl, key, eq_ok_of_mapError isCurrent, ?_, ?_⟩
  · exact ⟨_, profile_put_self _ _, rfl, rfl⟩
  · have found := Table.lookup_put_self row db.ciphertexts
    rw [rowKey] at found
    exact ⟨row, encrypted, found, readBack, holds⟩

end Create

section Readers

variable {db : CredentialDb}
  {organizationId profileId : Uuid} {kind : String} {key : MasterKey}
  {aad secret : Bytes}

theorem execSelectCiphertext_eq_some {profile : ProfileRow}
    {row : CiphertextRow}
    (profileFound : db.profile profileId organizationId = some profile)
    (rowFound : db.ciphertexts.lookup profileId = some row) :
    execSelectCiphertext profileId organizationId db =
      some (profile, row) := by
  simp [execSelectCiphertext, profileFound, rowFound]

/-- A profile and a ciphertext that are there are read. -/
theorem call_resolveSecret {keys : KeyRing} {profile : ProfileRow}
    {row : CiphertextRow} {encrypted : EncryptedSecret}
    (profileFound : db.profile profileId organizationId = some profile)
    (rowFound : db.ciphertexts.lookup profileId = some row)
    (readBack : rowToCiphertext row = .ok encrypted) :
    ((resolveSecret library keys organizationId profileId).call db).1 =
      if profile.active then
        (encrypted.decrypt library
          (profileAad organizationId profileId profile.kind) keys).mapError
            .vault
      else
        .error .inactive := by
  have selected :
      credentialSql.exec (.selectCiphertext profileId organizationId) db =
        .ok (some (profile, row), []) := by
    simp [credentialSql, execSelectCiphertext_eq_some profileFound rowFound]
  rw [Program.call_eq, SecurityStore.resolveSecret, query, Program.statement,
    Program.exec_bind, Connection.fresh, Program.eval_exec_ok selected]
  cases isActive : profile.active with
  | false => simp [require, Program.ofExcept, Program.check, isActive]
  | true =>
      simp [require, Program.ofExcept, Program.check, isActive, readBack, vault]

/-- Reading a stored secret decrypts it under the associated data of the
stored kind. -/
theorem Stored.read
    (stored : Stored library db organizationId profileId kind key aad secret)
    (keys : KeyRing) :
    ∃ encrypted : EncryptedSecret,
      encrypted.Holds library key aad secret ∧
      ((resolveSecret library keys organizationId profileId).call db).1 =
        (encrypted.decrypt library
          (profileAad organizationId profileId kind) keys).mapError
            .vault := by
  obtain ⟨profile, profileFound, active, rfl⟩ := stored.profile
  obtain ⟨row, encrypted, rowFound, readBack, holds⟩ := stored.ciphertext
  refine ⟨encrypted, holds, ?_⟩
  rw [call_resolveSecret profileFound rowFound readBack, if_pos active]

/-- A stored secret can be read exactly when it is bound to the associated
data that the stored kind gives. -/
theorem Stored.read_eq_ok_iff {keys : KeyRing}
    (stored : Stored library db organizationId profileId kind key aad secret)
    (held : keys.get key.version = .ok key)
    (noCollision : library.sha256 aad =
        library.sha256 (profileAad organizationId profileId kind) →
      aad = profileAad organizationId profileId kind) :
    ((resolveSecret library keys organizationId profileId).call db).1 =
        .ok secret ↔
      aad = profileAad organizationId profileId kind := by
  obtain ⟨encrypted, holds, read⟩ := stored.read keys
  rw [read]
  constructor
  · intro opened
    by_contra different
    have refused := holds.decrypt_of_ne keys fun sameHash =>
      different (noCollision sameHash)
    rw [refused] at opened
    cases opened
  · intro same
    rw [← same, holds.decrypt held]
    rfl

private theorem commitsLast_rotateProfileKey
    {keys : KeyRing} {entropy : Entropy} :
    (rotateProfileKey library keys entropy organizationId
      profileId).CommitsLast := by
  unfold rotateProfileKey
  refine (Program.commitFree_ofExcept _).bind_commitsLast fun current => ?_
  refine (Program.commitFree_statement _ _).bind_commitsLast fun found => ?_
  have foundFree : (require .notFound found).CommitFree := by
    cases found <;> exact .done _
  refine foundFree.bind_commitsLast fun pair => ?_
  have convertedFree :
      (require .invalidStoredCiphertext
        (i32TryFrom current.version)).CommitFree := by
    cases i32TryFrom current.version <;> exact .done _
  refine convertedFree.bind_commitsLast fun currentVersion => ?_
  by_cases same : pair.2.keyVersion = currentVersion
  · simp only [same, if_true]
    exact .done _
  · simp only [same, if_false]
    refine (Program.commitFree_ofExcept _).bind_commitsLast fun _ => ?_
    refine (Program.commitFree_ofExcept _).bind_commitsLast fun rotated => ?_
    refine Program.CommitFree.bind_commitsLast ?_ fun _ => .commit _ _
    refine (Program.commitFree_ofExcept _).bind fun row => ?_
    exact (Program.commitFree_statement _ _).bind fun _ =>
      Program.commitFree_check _ _

/-- A rotation, whatever becomes of it, leaves the secret stored under a key of
the ring and the same associated data. -/
theorem Stored.rotate {keys : KeyRing} {entropy : Entropy}
    {plan : List (Option SqlError)} {outcome : Except CredentialStoreError Bool}
    {reached : CredentialDb} (inverts : library.Inverts)
    (stored : Stored library db organizationId profileId kind key aad secret)
    (held : keys.get key.version = .ok key)
    (noCollision : library.sha256 aad =
        library.sha256 (profileAad organizationId profileId kind) →
      aad = profileAad organizationId profileId kind)
    (called : (rotateProfileKey library keys entropy organizationId
      profileId).callFaulty plan db = (outcome, reached)) :
    ∃ rotatedKey, keys.get rotatedKey.version = .ok rotatedKey ∧
      Stored library reached organizationId profileId kind rotatedKey aad
        secret := by
  cases outcome with
  | error failure =>
      rw [Program.callFaulty_error commitsLast_rotateProfileKey called]
      exact ⟨key, held, stored⟩
  | ok changed =>
      obtain ⟨final, ended, rfl⟩ :=
        Program.call_eq_ok (Program.callFaulty_ok called)
      obtain ⟨profile, profileFound, active, rfl⟩ := stored.profile
      obtain ⟨row, encrypted, rowFound, readBack, holds⟩ := stored.ciphertext
      obtain ⟨current, _, ran, ended⟩ := Program.eval_bind_eq_ok ended
      obtain ⟨isCurrent, rfl⟩ := Program.eval_ofExcept_eq_ok ran
      obtain ⟨found, _, ran, ended⟩ := Program.eval_bind_eq_ok ended
      obtain ⟨_, selected, rfl⟩ := Program.eval_statement_eq_ok ran
      have expected :
          credentialSql.exec
              (.selectCiphertextForUpdate profileId organizationId) db =
            .ok (some (profile, row), []) := by
        simp [credentialSql,
          execSelectCiphertext_eq_some profileFound rowFound]
      cases selected.symm.trans expected
      obtain ⟨pair, _, ran, ended⟩ := Program.eval_bind_eq_ok ended
      obtain ⟨samePair, rfl⟩ := eq_some_of_require ran
      cases samePair
      obtain ⟨currentVersion, _, ran, ended⟩ := Program.eval_bind_eq_ok ended
      obtain ⟨_, rfl⟩ := eq_some_of_require ran
      by_cases same : row.keyVersion = currentVersion
      · simp only [same, if_true] at ended
        obtain ⟨_, rfl⟩ := Program.eval_pure_eq_ok ended
        exact ⟨key, held, stored⟩
      · simp only [same, if_false] at ended
        obtain ⟨opened, _, ran, ended⟩ := Program.eval_bind_eq_ok ended
        obtain ⟨readBack', rfl⟩ := Program.eval_ofExcept_eq_ok ran
        cases readBack.symm.trans readBack'
        obtain ⟨rotated, _, ran, ended⟩ := Program.eval_bind_eq_ok ended
        obtain ⟨made, rfl⟩ := Program.eval_ofExcept_eq_ok ran
        have rotatedOk := eq_ok_of_mapError made
        have sameAad : aad = profileAad organizationId profileId profile.kind := by
          by_contra different
          have refused := holds.decrypt_of_ne keys fun sameHash =>
            different (noCollision sameHash)
          rw [EncryptedSecret.rotate, refused] at rotatedOk
          cases rotatedOk
        rw [← sameAad] at rotatedOk
        obtain ⟨rotatedKey, isCurrent', rotatedHolds⟩ :=
          holds.rotate inverts held rotatedOk
        obtain ⟨_, _, ran, ended⟩ := Program.eval_bind_eq_ok ended
        obtain ⟨newRow, rowMade, rfl⟩ := eval_updateCiphertextTx_eq_ok ran
        obtain ⟨_, _, ran, ended⟩ := Program.eval_bind_eq_ok ended
        obtain rfl := Program.eval_commitNow_eq_ok ran
        obtain ⟨_, rfl⟩ := Program.eval_pure_eq_ok ended
        obtain ⟨rowKey, rowReadBack⟩ := rowToCiphertext_ciphertextRow rowMade
        have found := Table.lookup_put_self newRow db.ciphertexts
        rw [rowKey] at found
        exact ⟨rotatedKey, KeyRing.get_version_of_current isCurrent',
          ⟨profile, profileFound, active, rfl⟩,
          newRow, rotated, found, rowReadBack, rotatedHolds⟩

end Readers

/-! ## The round trip -/

private theorem profileAad_injective (organizationId profileId : Uuid) :
    Function.Injective (profileAad organizationId profileId) := by
  intro left right same
  have sameText := utf8Bytes_injective same
  have sameCharacters := congrArg String.toList sameText
  simp only [String.toList_append, List.append_cancel_left_eq] at sameCharacters
  exact String.toList_inj.mp sameCharacters

/-- After a successful `create` the secret is read back, at once and after a
rotation under any ring that still holds the old key, exactly when the kind was
given without leading or trailing white space. -/
theorem credential_roundTrip_iff {keys : KeyRing} {profileId : Uuid}
    {entropy : Entropy} {input : NewCredentialProfile}
    {plan : List (Option SqlError)} {db reached : CredentialDb}
    {summary : CredentialProfileSummary} (inverts : library.Inverts)
    (noCollision :
      library.sha256 (profileAad input.organizationId profileId input.kind) =
          library.sha256
            (profileAad input.organizationId profileId (trim input.kind)) →
        profileAad input.organizationId profileId input.kind =
          profileAad input.organizationId profileId (trim input.kind))
    (created : (create library keys profileId entropy input).callFaulty plan
      db = (.ok summary, reached)) :
    (((resolveSecret library keys input.organizationId summary.id).call
        reached).1 = .ok input.secret ↔ trim input.kind = input.kind) ∧
      ∀ (laterKeys : KeyRing) (laterEntropy : Entropy)
        (laterPlan : List (Option SqlError)),
        (∀ key, keys.current = .ok key →
          laterKeys.get key.version = .ok key) →
        (((resolveSecret library laterKeys input.organizationId
            summary.id).call
              ((rotateProfileKey library laterKeys laterEntropy
                input.organizationId summary.id).callFaulty laterPlan
                  reached).2).1 = .ok input.secret ↔
          trim input.kind = input.kind) := by
  obtain ⟨rfl, key, isCurrent, stored⟩ := stored_of_create inverts created
  have sameAad_iff :
      profileAad input.organizationId summary.id input.kind =
          profileAad input.organizationId summary.id (trim input.kind) ↔
        trim input.kind = input.kind := by
    constructor
    · intro same
      exact (profileAad_injective _ _ same).symm
    · intro trimmed
      rw [trimmed]
  refine ⟨?_, fun laterKeys laterEntropy laterPlan stillHeld => ?_⟩
  · have held := KeyRing.get_version_of_current isCurrent
    rw [stored.read_eq_ok_iff held noCollision]
    exact sameAad_iff
  · have held := stillHeld key isCurrent
    rcases rotation :
        (rotateProfileKey library laterKeys laterEntropy input.organizationId
          summary.id).callFaulty laterPlan reached with ⟨outcome, rotatedDb⟩
    obtain ⟨rotatedKey, rotatedHeld, rotatedStored⟩ :=
      stored.rotate inverts held noCollision rotation
    rw [rotatedStored.read_eq_ok_iff rotatedHeld noCollision]
    exact sameAad_iff

namespace Sample

def masterKey : MasterKey :=
  ⟨1, FixedBytes.replicate 32 0x11, by decide⟩

def keys : KeyRing := KeyRing.default.insert masterKey true

def laterKey : MasterKey :=
  ⟨2, FixedBytes.replicate 32 0x22, by decide⟩

/-- The same ring with a second key, now the current one. -/
def laterKeys : KeyRing := keys.insert laterKey true

def entropy : Entropy :=
  ⟨FixedBytes.replicate 32 7, FixedBytes.replicate 12 8,
    FixedBytes.replicate 12 9⟩

def organizationId : Uuid := ⟨1⟩

def profileId : Uuid := ⟨2⟩

/-- One encryption with AES-256-GCM. -/
structure Sealing where
  key : FixedBytes 32
  nonce : FixedBytes 12
  message : Bytes
  associated : Bytes
  ciphertext : Bytes
deriving DecidableEq

/-- What is encrypted. -/
def Sealing.input (sealing : Sealing) :
    FixedBytes 32 × FixedBytes 12 × Bytes × Bytes :=
  (sealing.key, sealing.nonce, sealing.message, sealing.associated)

/-- What is decrypted. -/
def Sealing.output (sealing : Sealing) :
    FixedBytes 32 × FixedBytes 12 × Bytes × Bytes :=
  (sealing.key, sealing.nonce, sealing.ciphertext, sealing.associated)

/-- The associated data of the profile under a kind. -/
def aadOf (kind : String) : Bytes := profileAad organizationId profileId kind

/-- A message under the data key. -/
def dataSealing (message associated ciphertext : Bytes) : Sealing :=
  ⟨entropy.dek, entropy.dataNonce, message, associated, ciphertext⟩

/-- The data key under a master key. -/
def keySealing (key : MasterKey) (associated ciphertext : Bytes) : Sealing :=
  ⟨key.key, entropy.wrappedDekNonce, entropy.dek.bytes, wrappingAad associated,
    ciphertext⟩

/-- The ciphertexts of the secret and of its data key. -/
def secretCiphertext : Bytes :=
  [79, 46, 51, 18, 113, 24, 3, 13, 147, 243, 51, 199, 123, 225, 222, 213, 237,
   151, 53]

def keyCiphertext : Bytes :=
  [145, 16, 205, 117, 19, 205, 198, 117, 74, 209, 84, 109, 139, 55, 156, 112,
   124, 180, 134, 91, 55, 19, 24, 230, 191, 231, 126, 7, 248, 23, 59, 97, 111,
   186, 96, 105, 77, 167, 143, 87, 187, 193, 165, 255, 136, 75, 181, 152]

/-- All that is encrypted in the samples. -/
def sealings : List Sealing :=
  [dataSealing [0x73, 0x6e, 0x6d] (aadOf "ssh") secretCiphertext,
    keySealing masterKey (aadOf "ssh") keyCiphertext,
    keySealing laterKey (aadOf "ssh")
      [81, 127, 150, 195, 65, 99, 177, 56, 146, 150, 89, 203, 12, 245, 70, 59,
       187, 64, 206, 180, 239, 221, 226, 56, 141, 153, 164, 106, 52, 79, 249,
       76, 137, 198, 223, 214, 178, 211, 248, 7, 169, 60, 221, 63, 15, 148,
       188, 201],
    dataSealing [0x6e, 0x65, 0x77] (aadOf "ssh")
      [82, 37, 41, 143, 98, 64, 187, 213, 7, 147, 115, 64, 92, 59, 171, 92,
       206, 22, 60],
    dataSealing [0x73, 0x6e, 0x6d] (aadOf " ssh")
      [79, 46, 51, 67, 107, 154, 161, 81, 204, 214, 160, 13, 245, 165, 62,
       225, 245, 74, 164],
    keySealing masterKey (aadOf " ssh")
      [145, 16, 205, 117, 19, 205, 198, 117, 74, 209, 84, 109, 139, 55, 156,
       112, 124, 180, 134, 91, 55, 19, 24, 230, 191, 231, 126, 7, 248, 23, 59,
       97, 99, 65, 164, 252, 140, 195, 24, 240, 224, 42, 130, 128, 230, 155,
       176, 150],
    dataSealing [0x73, 0x6e, 0x6d] [0x61]
      [79, 46, 51, 165, 44, 123, 122, 9, 231, 27, 163, 130, 103, 134, 181, 12,
       98, 34, 72],
    keySealing masterKey [0x61]
      [145, 16, 205, 117, 19, 205, 198, 117, 74, 209, 84, 109, 139, 55, 156,
       112, 124, 180, 134, 91, 55, 19, 24, 230, 191, 231, 126, 7, 248, 23, 59,
       97, 5, 204, 71, 88, 108, 41, 71, 61, 53, 128, 60, 162, 18, 156, 158,
       111],
    keySealing laterKey [0x61]
      [81, 127, 150, 195, 65, 99, 177, 56, 146, 150, 89, 203, 12, 245, 70, 59,
       187, 64, 206, 180, 239, 221, 226, 56, 141, 153, 164, 106, 52, 79, 249,
       76, 68, 100, 252, 34, 8, 149, 64, 92, 164, 19, 135, 166, 133, 163, 188,
       232]]

/-- The associated data of the samples, and their SHA-256 digests. -/
def digests : List (Bytes × FixedBytes 32) :=
  [(aadOf "ssh",
    ⟨[84, 130, 51, 129, 190, 15, 32, 60, 112, 95, 49, 119, 23, 48, 21, 170,
     157, 233, 241, 195, 91, 206, 238, 109, 8, 116, 54, 242, 217, 175, 247,
     15], by decide⟩),
    (aadOf " ssh",
      ⟨[15, 57, 217, 14, 37, 177, 255, 192, 64, 7, 71, 31, 146, 95, 115, 105,
       46, 153, 80, 10, 210, 153, 66, 10, 248, 137, 19, 226, 220, 37, 238,
       150], by decide⟩),
    ([0x61],
      ⟨[202, 151, 129, 18, 202, 27, 189, 202, 250, 194, 49, 179, 154, 35, 220,
       77, 167, 134, 239, 248, 20, 124, 78, 114, 185, 128, 119, 133, 175, 238,
       72, 187], by decide⟩),
    (profileAad organizationId ⟨3⟩ "ssh",
      ⟨[215, 249, 146, 29, 58, 242, 121, 188, 42, 189, 28, 254, 252, 164, 33,
       236, 237, 166, 153, 58, 218, 159, 20, 34, 54, 141, 188, 178, 177, 24,
       78, 76], by decide⟩)]

/-- The cipher and the hash function, as they work on the samples. -/
def cipher : VaultLibrary where
  encrypt key nonce message associated :=
    (sealings.find? fun sealing =>
      sealing.input = (key, nonce, message, associated)).map Sealing.ciphertext
  decrypt key nonce ciphertext associated :=
    (sealings.find? fun sealing =>
      sealing.output = (key, nonce, ciphertext, associated)).map Sealing.message
  sha256 bytes :=
    ((digests.find? fun digest => digest.1 = bytes).map Prod.snd).getD
      (.replicate 32 0)

private theorem nodup_inputs : (sealings.map Sealing.input).Nodup := by
  decide

theorem nodup_ciphertexts : (sealings.map Sealing.ciphertext).Nodup := by
  decide

private theorem nodup_outputs : (sealings.map Sealing.output).Nodup := by
  have nodup := nodup_ciphertexts
  have isMap : sealings.map Sealing.ciphertext =
      (sealings.map Sealing.output).map fun output => output.2.2.1 :=
    List.map_map.symm
  rw [isMap] at nodup
  exact nodup.of_map

section Sealings

variable {key : FixedBytes 32} {nonce : FixedBytes 12}
  {message associated ciphertext : Bytes}

theorem encrypt_eq_some_iff :
    cipher.encrypt key nonce message associated = some ciphertext ↔
      ⟨key, nonce, message, associated, ciphertext⟩ ∈ sealings := by
  simp only [cipher, Option.map_eq_some_iff]
  constructor
  · rintro ⟨sealing, found, rfl⟩
    have isInput : sealing.input = (key, nonce, message, associated) := by
      simpa using List.find?_some found
    cases isInput
    exact List.mem_of_find?_eq_some found
  · intro member
    exact ⟨_, Table.find?_eq_of_mem nodup_inputs member, rfl⟩

theorem decrypt_eq_some_iff :
    cipher.decrypt key nonce ciphertext associated = some message ↔
      ⟨key, nonce, message, associated, ciphertext⟩ ∈ sealings := by
  simp only [cipher, Option.map_eq_some_iff]
  constructor
  · rintro ⟨sealing, found, rfl⟩
    have isOutput : sealing.output = (key, nonce, ciphertext, associated) := by
      simpa using List.find?_some found
    cases isOutput
    exact List.mem_of_find?_eq_some found
  · intro member
    exact ⟨_, Table.find?_eq_of_mem nodup_outputs member, rfl⟩

end Sealings

theorem cipher_inverts : cipher.Inverts :=
  fun _ _ _ _ _ encrypted =>
    decrypt_eq_some_iff.mpr (encrypt_eq_some_iff.mp encrypted)

def input (kind : String) : NewCredentialProfile :=
  { organizationId
    name := "core switch"
    kind
    username := some "monitor"
    metadata := .null
    secret := [0x73, 0x6e, 0x6d] }

def created (kind : String) :
    Except CredentialStoreError CredentialProfileSummary × CredentialDb :=
  (create cipher keys profileId entropy (input kind)).call .empty

def summary (kind : String) : CredentialProfileSummary :=
  { id := profileId
    organizationId
    name := "core switch"
    kind := trim kind
    username := some "monitor"
    metadata := .null
    active := true
    keyVersion := some 1 }

end Sample

/-- The kind `" ssh"` is accepted and stored as `"ssh"`, and the secret of the
profile cannot be read. -/
theorem credential_lost_of_untrimmed_kind :
    (Sample.created " ssh").1 = .ok (Sample.summary " ssh") ∧
      ((resolveSecret Sample.cipher Sample.keys Sample.organizationId
          Sample.profileId).call (Sample.created " ssh").2).1 =
        .error (.vault .associatedDataMismatch) := by
  decide

/-- With the kind `"ssh"` the secret is read back, also after a rotation to a
second master key. -/
theorem credential_roundTrip_ssh :
    ((resolveSecret Sample.cipher Sample.keys
        (Sample.input "ssh").organizationId (Sample.summary "ssh").id).call
          (Sample.created "ssh").2).1 = .ok (Sample.input "ssh").secret ∧
      ((resolveSecret Sample.cipher Sample.laterKeys
        (Sample.input "ssh").organizationId (Sample.summary "ssh").id).call
          ((rotateProfileKey Sample.cipher Sample.laterKeys Sample.entropy
            (Sample.input "ssh").organizationId
            (Sample.summary "ssh").id).callFaulty []
              (Sample.created "ssh").2).2).1 =
        .ok (Sample.input "ssh").secret := by
  have trimmed : trim (Sample.input "ssh").kind = (Sample.input "ssh").kind := by
    decide
  have accepted : (Sample.created "ssh").1 = .ok (Sample.summary "ssh") := by
    decide
  have called :
      (create Sample.cipher Sample.keys Sample.profileId Sample.entropy
        (Sample.input "ssh")).callFaulty [] .empty =
          (.ok (Sample.summary "ssh"), (Sample.created "ssh").2) :=
    Prod.ext accepted rfl
  have sameAad := congrArg
    (profileAad (Sample.input "ssh").organizationId Sample.profileId)
    trimmed.symm
  have roundTrip :=
    credential_roundTrip_iff Sample.cipher_inverts (fun _ => sameAad) called
  have stillHeld (key : MasterKey)
      (isCurrent : Sample.keys.current = .ok key) :
      Sample.laterKeys.get key.version = .ok key := by
    cases isCurrent
    rfl
  exact ⟨roundTrip.1.mpr trimmed,
    (roundTrip.2 Sample.laterKeys Sample.entropy [] stillHeld).mpr trimmed⟩

end NetworkManager.SecurityStore
