import NetworkManager.SecurityStore.Rotation

/-!
# Retiring a key

Which key a profile needs is decided by the last store that has encrypted it,
in any interleaving of replacements, rotations, deactivations and reads.  A ring
that holds this key reads the profile whatever else it has lost, and a ring
without it does not.
-/

namespace NetworkManager.SecurityStore

open NetworkManager.Foundation
open NetworkManager.Security.Vault
open NetworkManager.Transaction

section LastKey

variable {inUse : Set MasterKey} (organizationId profileId : Uuid)

/-- The key that a store encrypts under, if its ring has a current one. -/
def KeyedStore.encryptsUnder (store : KeyedStore inUse) (otherwise : MasterKey) :
    MasterKey :=
  store.keys.current.toOption.getD otherwise

/-- The key of the profile after a commit of a call. -/
def keyAfter (key : MasterKey) : CredentialCall inUse → MasterKey
  | .replaceSecret store _ ofOrganization replaced _ =>
      if ofOrganization = organizationId ∧ replaced = profileId then
        store.encryptsUnder key
      else
        key
  | .rotateProfileKey store _ ofOrganization rotated =>
      if ofOrganization = organizationId ∧ rotated = profileId then
        store.encryptsUnder key
      else
        key
  | .deactivate _ _ => key
  | .resolveSecret _ _ _ => key

/-- The key of the last store that has written the profile among the commits,
the last one first. -/
def lastKey {library : VaultLibrary} (key : MasterKey)
    (commits : List (Commit (credentialClient library inUse))) : MasterKey :=
  commits.foldr (fun commit earlier =>
    keyAfter organizationId profileId earlier commit.call) key

end LastKey

section Keys

variable {library : VaultLibrary} {inUse : Set MasterKey}
  {organizationId profileId : Uuid} {kind : String} {db : CredentialDb}
  {key : MasterKey} {secret : Bytes}

private theorem KeyedStore.encryptsUnder_of_current {store : KeyedStore inUse}
    {current : MasterKey} (isCurrent : store.keys.current = .ok current)
    (otherwise : MasterKey) : store.encryptsUnder otherwise = current := by
  rw [KeyedStore.encryptsUnder, isCurrent]
  rfl

private theorem KeyedStore.encryptsUnder_mem (store : KeyedStore inUse)
    (isUsed : key ∈ inUse) : store.encryptsUnder key ∈ inUse := by
  rw [KeyedStore.encryptsUnder]
  cases isCurrent : store.keys.current with
  | error failure => exact isUsed
  | ok current => exact store.current current isCurrent

private theorem keyAfter_mem
    (isUsed : key ∈ inUse) (call : CredentialCall inUse) :
    keyAfter organizationId profileId key call ∈ inUse := by
  cases call with
  | replaceSecret store entropy ofOrganization replaced newSecret =>
      rw [keyAfter]
      split
      · exact store.encryptsUnder_mem isUsed
      · exact isUsed
  | deactivate ofOrganization deactivated => exact isUsed
  | rotateProfileKey store entropy ofOrganization rotated =>
      rw [keyAfter]
      split
      · exact store.encryptsUnder_mem isUsed
      · exact isUsed
  | resolveSecret store ofOrganization resolved => exact isUsed

/-- Keys in use with one version are one key, as a ring holds them both. -/
theorem KeyedStore.eq_of_version (store : KeyedStore inUse)
    {left right : MasterKey} (leftUsed : left ∈ inUse)
    (rightUsed : right ∈ inUse) (same : left.version = right.version) :
    left = right := by
  have leftHeld := store.held left leftUsed
  rw [same, store.held right rightUsed] at leftHeld
  cases leftHeld
  rfl

/-- A ring reads the profile if it holds the key, and only then. -/
structure NeedsOnly (library : VaultLibrary) (organizationId profileId : Uuid)
    (key : MasterKey) (secret : Bytes) (db : CredentialDb) : Prop where
  enough : ∀ keys : KeyRing, keys.get key.version = .ok key →
    ((resolveSecret library keys organizationId profileId).call db).1 =
      answer organizationId profileId secret db
  needed : ∀ keys : KeyRing, ∀ failure, keys.get key.version = .error failure →
    ((resolveSecret library keys organizationId profileId).call db).1 =
      if (db.profile profileId organizationId).any ProfileRow.active then
        .error (.vault failure)
      else
        .error .inactive

/-- Without its key a secret is not opened. -/
theorem holds_decrypt_error {encrypted : EncryptedSecret}
    {aad plaintext : Bytes} {keys : KeyRing} {failure : VaultError}
    (holds : encrypted.Holds library key aad plaintext)
    (missing : keys.get key.version = .error failure) :
    encrypted.decrypt library aad keys = .error failure := by
  rw [EncryptedSecret.decrypt, if_neg (by simp [holds.aadHash]),
    holds.keyVersion, missing]

private theorem Sealed.needsOnly
    (isSealed : Sealed library {key} organizationId profileId kind secret db) :
    NeedsOnly library organizationId profileId key secret db := by
  obtain ⟨profile, profileFound, rfl⟩ := isSealed.profile
  obtain ⟨_, rfl, row, encrypted, rowFound, readBack, holds⟩ :=
    isSealed.ciphertext
  constructor
  case enough =>
    intro keys held
    rw [call_resolveSecret profileFound rowFound readBack, holds.decrypt held,
      answer, profileFound]
    rfl
  case needed =>
    intro keys failure missing
    rw [call_resolveSecret profileFound rowFound readBack,
      holds_decrypt_error holds missing, profileFound]
    rfl

/-- A commit leaves the profile under the key that its call says. -/
def Moves (library : VaultLibrary) (organizationId profileId : Uuid)
    (kind : String) (call : CredentialCall inUse)
    (before after : CredentialDb) : Prop :=
  ∀ key ∈ inUse, ∀ secret,
    Sealed library {key} organizationId profileId kind secret before →
      Sealed library {keyAfter organizationId profileId key call}
        organizationId profileId kind
        (secretAfter organizationId profileId secret call) after

private theorem onProfile_moves_replaceSecret (inverts : library.Inverts)
    (store : KeyedStore inUse) (entropy : Entropy)
    (ofOrganization replaced : Uuid) (newSecret : Bytes) :
    OnProfile organizationId profileId kind
      (fun _ after => Moves library organizationId profileId kind
        (.replaceSecret store entropy ofOrganization replaced newSecret) db
        after)
      (replaceSecret library store.keys entropy ofOrganization replaced
        newSecret) [] db := by
  apply Program.Relies.check_bind
  intro _
  apply Program.Relies.read_bind
  · intro view reply writes answered
    cases answered
    rfl
  · exact fun _ => rfl
  intro view reply isProfile answered
  cases answered
  cases found : (view.profile replaced ofOrganization).filter
      ProfileRow.active with
  | none => exact .done
  | some profile =>
      have present := (Option.filter_eq_some_iff.mp found).1
      apply @Program.Relies.ofExcept_bind _ _ _ _ _ _ _ _ _
        (.ok profile.kind)
      rintro _ ⟨⟩
      apply Program.Relies.ofExcept_bind
      intro current isCurrent
      apply Program.Relies.ofExcept_bind
      intro encrypted made
      have holds :=
        EncryptedSecret.holds_of_encrypt inverts (eq_ok_of_mapError made)
      have chosen := KeyedStore.encryptsUnder_of_current
        (eq_ok_of_mapError isCurrent)
      apply onProfile_updateCiphertextTx_bind
      intro row reachedHeld rowMade
      refine .commit (.done _) fun key _ secret isSealed => ?_
      by_cases isReplaced : replaced = profileId
      · subst isReplaced
        obtain ⟨rfl, isKind⟩ := isProfile.unique present
        rw [isKind] at holds
        rw [secretAfter, keyAfter, if_pos ⟨rfl, rfl⟩, if_pos ⟨rfl, rfl⟩,
          chosen key]
        exact Sealed.put isSealed.profile rfl rowMade holds
      · rw [secretAfter, keyAfter, if_neg fun both => isReplaced both.2,
          if_neg fun both => isReplaced both.2]
        apply isSealed.put_of_ne
        rw [(rowToCiphertext_ciphertextRow rowMade).1]
        exact isReplaced

private theorem onProfile_moves_rotateProfileKey (inverts : library.Inverts)
    (store : KeyedStore inUse) (entropy : Entropy)
    (ofOrganization rotated : Uuid) :
    OnProfile organizationId profileId kind
      (fun _ after => Moves library organizationId profileId kind
        (.rotateProfileKey store entropy ofOrganization rotated) db after)
      (rotateProfileKey library store.keys entropy ofOrganization rotated) []
      db := by
  apply Program.Relies.ofExcept_bind
  intro current isCurrent
  have chosen := KeyedStore.encryptsUnder_of_current
    (eq_ok_of_mapError isCurrent)
  apply onProfile_selectForUpdate_bind
  · exact fun _ => .done
  intro profile row reachedHeld profileFound rowFound
  apply @Program.Relies.ofExcept_bind _ _ _ _ _ _ _ _ _ (.ok (profile, row))
  rintro _ ⟨⟩
  cases i32TryFrom current.version with
  | none => exact .done
  | some currentVersion =>
      apply @Program.Relies.ofExcept_bind _ _ _ _ _ _ _ _ _
        (.ok currentVersion)
      rintro _ ⟨⟩
      by_cases same : row.keyVersion = currentVersion
      · rw [if_pos same]
        exact .done
      · rw [if_neg same]
        apply Program.Relies.ofExcept_bind
        intro encrypted readBack
        apply Program.Relies.ofExcept_bind
        intro changed made
        apply onProfile_updateCiphertextTx_bind
        intro newRow laterHeld rowMade
        refine .commit (.done _) fun key isUsed secret isSealed => ?_
        by_cases isRotated : rotated = profileId
        · subst isRotated
          obtain ⟨rfl, isKind⟩ := isSealed.profile.unique profileFound
          obtain ⟨_, rfl, stored, opened, found, storedBack, holds⟩ :=
            isSealed.ciphertext
          cases found.symm.trans rowFound
          cases storedBack.symm.trans readBack
          rw [isKind] at made
          obtain ⟨newKey, isNew, newHolds⟩ := holds.rotate inverts
            (store.held _ isUsed) (eq_ok_of_mapError made)
          rw [secretAfter, keyAfter, if_pos ⟨rfl, rfl⟩,
            KeyedStore.encryptsUnder_of_current isNew]
          exact Sealed.put isSealed.profile rfl rowMade newHolds
        · rw [secretAfter, keyAfter, if_neg fun both => isRotated both.2]
          apply isSealed.put_of_ne
          rw [(rowToCiphertext_ciphertextRow rowMade).1]
          exact isRotated

private theorem onProfile_moves (inverts : library.Inverts)
    (used : Nonempty MasterKey) (call : CredentialCall inUse) :
    OnProfile organizationId profileId kind
      (fun _ after => Moves library organizationId profileId kind call db after)
      ((credentialClient library inUse).program call) [] db := by
  cases call with
  | replaceSecret store entropy ofOrganization replaced newSecret =>
      exact onProfile_moves_replaceSecret inverts store entropy ofOrganization
        replaced newSecret
  | deactivate ofOrganization deactivated =>
      -- A deactivation is the same call whatever keys are in use.
      have each (key : MasterKey) : OnProfile organizationId profileId kind
          (fun _ after => Made library {key} organizationId profileId kind
            (.deactivate ofOrganization deactivated) db after)
          (deactivate ofOrganization deactivated) [] db :=
        onProfile_deactivate ofOrganization deactivated
      apply (Program.Relies.forall_of each).weaken
      intro _ after made key _ secret isSealed
      exact (made key).secret secret isSealed
  | rotateProfileKey store entropy ofOrganization rotated =>
      exact onProfile_moves_rotateProfileKey inverts store entropy
        ofOrganization rotated
  | resolveSecret store ofOrganization resolved =>
      exact onProfile_resolveSecret store.keys ofOrganization resolved

/-! ## Every interleaving -/

/-- The key and the secret that the commits leave. -/
theorem sealed_of_moves
    {commits : List (Commit (credentialClient library inUse))}
    {first last : CredentialDb}
    (history : History (fun commit => Moves library organizationId profileId
      kind commit.call commit.before commit.after) first commits last)
    (isUsed : key ∈ inUse)
    (isSealed : Sealed library {key} organizationId profileId kind secret
      first) :
    lastKey organizationId profileId key commits ∈ inUse ∧
      Sealed library {lastKey organizationId profileId key commits}
        organizationId profileId kind
        (lastSecret organizationId profileId secret commits) last := by
  induction history with
  | nil => exact ⟨isUsed, isSealed⟩
  | @cons commit commits _ moves inductionHypothesis =>
      obtain ⟨stillUsed, before⟩ := inductionHypothesis
      exact ⟨keyAfter_mem stillUsed commit.call, moves _ stillUsed _ before⟩

private theorem sealed_of_reachable
    (inverts : library.Inverts) (isUsed : key ∈ inUse)
    {system : System (credentialClient library inUse) rowLocking}
    (reachable : System.Reachable
      (Sealed library {key} organizationId profileId kind secret) system) :
    lastKey organizationId profileId key system.commits ∈ inUse ∧
      Sealed library {lastKey organizationId profileId key system.commits}
        organizationId profileId kind
        (lastSecret organizationId profileId secret system.commits)
        system.committed := by
  have keeps (call : CredentialCall inUse) (db : CredentialDb)
      (held : ∃ key ∈ inUse, ∃ kept, Sealed library {key} organizationId
        profileId kind kept db) :
      OnProfile organizationId profileId kind
        (fun _ after =>
          (∃ key ∈ inUse, ∃ kept, Sealed library {key} organizationId
            profileId kind kept after) ∧
          Moves library organizationId profileId kind call db after)
        ((credentialClient library inUse).program call) [] db := by
    apply (onProfile_moves inverts ⟨key⟩ call).weaken
    intro _ after moves
    obtain ⟨before, beforeUsed, kept, isSealed⟩ := held
    exact ⟨⟨_, keyAfter_mem beforeUsed call, _,
      moves before beforeUsed kept isSealed⟩, moves⟩
  obtain ⟨_, first, isFirst, history⟩ :=
    @System.Reachable.relying _ _ (credentialClient library inUse) rowLocking
      (Sealed library {key} organizationId profileId kind secret)
      (ProfileOf organizationId profileId kind)
      (fun db => ∃ key ∈ inUse, ∃ kept, Sealed library {key} organizationId
        profileId kind kept db)
      (fun commit => Moves library organizationId profileId kind commit.call
        commit.before commit.after)
      (fun _ isSealed => ⟨key, isUsed, secret, isSealed⟩)
      (fun _ held => by
        obtain ⟨_, _, _, isSealed⟩ := held
        exact isSealed.profile) keeps system reachable
  exact sealed_of_moves history isUsed isFirst

private theorem eq_toNat_of_i32TryFrom {version : UInt32} {stored : Int}
    (converted : i32TryFrom version = some stored) :
    stored = version.toNat := by
  unfold i32TryFrom at converted
  split at converted
  · exact (Option.some.inj converted).symm
  · cases converted

private theorem eq_toNat_of_u32TryFrom {version : UInt32} {stored : Int}
    (converted : u32TryFrom stored = some version) :
    stored = version.toNat := by
  unfold u32TryFrom at converted
  split at converted
  · cases converted
    rw [UInt32.toNat_ofNat']
    omega
  · cases converted

/-- The version that a row gives is the one that it is read back with. -/
theorem keyVersion_of_rowToCiphertext {row : CiphertextRow}
    {encrypted : EncryptedSecret}
    (readBack : rowToCiphertext row = .ok encrypted) :
    row.keyVersion = encrypted.keyVersion.toNat := by
  unfold rowToCiphertext at readBack
  split at readBack
  · rename_i version _ _ _ isVersion _ _ _
    cases readBack
    exact eq_toNat_of_u32TryFrom isVersion
  · cases readBack

/-- A rotation that answers has left the profile under the current key of its
store, and says whether it was under another key before. -/
theorem Sealed.rotated (inverts : library.Inverts) (isUsed : key ∈ inUse)
    (isSealed : Sealed library {key} organizationId profileId kind secret db)
    (store : KeyedStore inUse) {entropy : Entropy}
    {plan : List (Option SqlError)} {changed : Bool} {reached : CredentialDb}
    (called : (rotateProfileKey library store.keys entropy organizationId
      profileId).callFaulty plan db = (.ok changed, reached)) :
    ∃ current, store.keys.current = .ok current ∧
      (changed = false ↔ current = key) ∧
      Sealed library {current} organizationId profileId kind secret
        reached := by
  obtain ⟨final, ended, rfl⟩ :=
    Program.call_eq_ok (Program.callFaulty_ok called)
  obtain ⟨profile, profileFound, rfl⟩ := isSealed.profile
  obtain ⟨under, rfl, row, encrypted, rowFound, readBack, holds⟩ :=
    isSealed.ciphertext
  have rowVersion := keyVersion_of_rowToCiphertext readBack
  rw [holds.keyVersion] at rowVersion
  obtain ⟨current, _, ran, ended⟩ := Program.eval_bind_eq_ok ended
  obtain ⟨isCurrent, rfl⟩ := Program.eval_ofExcept_eq_ok ran
  have currentOk := eq_ok_of_mapError isCurrent
  obtain ⟨found, _, ran, ended⟩ := Program.eval_bind_eq_ok ended
  obtain ⟨_, selected, rfl⟩ := Program.eval_statement_eq_ok ran
  have expected : credentialSql.exec
      (.selectCiphertextForUpdate profileId organizationId) db =
        .ok (some (profile, row), []) := by
    simp [credentialSql, execSelectCiphertext_eq_some profileFound rowFound]
  cases selected.symm.trans expected
  obtain ⟨pair, _, ran, ended⟩ := Program.eval_bind_eq_ok ended
  obtain ⟨samePair, rfl⟩ := eq_some_of_require ran
  cases samePair
  obtain ⟨currentVersion, _, ran, ended⟩ := Program.eval_bind_eq_ok ended
  obtain ⟨isVersion, rfl⟩ := eq_some_of_require ran
  have currentIs := eq_toNat_of_i32TryFrom isVersion
  by_cases same : row.keyVersion = currentVersion
  · simp only [same, if_true] at ended
    obtain ⟨rfl, rfl⟩ := Program.eval_pure_eq_ok ended
    have sameVersion : current.version = under.version := by
      apply UInt32.toNat_inj.mp
      omega
    have isUnder := store.eq_of_version (store.current current currentOk)
      isUsed sameVersion
    subst isUnder
    exact ⟨current, currentOk, iff_of_true rfl rfl, isSealed⟩
  · simp only [same, if_false] at ended
    have differs : current ≠ under := by
      rintro rfl
      exact same (rowVersion.trans currentIs.symm)
    obtain ⟨opened, _, ran, ended⟩ := Program.eval_bind_eq_ok ended
    obtain ⟨readBack', rfl⟩ := Program.eval_ofExcept_eq_ok ran
    cases readBack.symm.trans readBack'
    obtain ⟨rotated, _, ran, ended⟩ := Program.eval_bind_eq_ok ended
    obtain ⟨made, rfl⟩ := Program.eval_ofExcept_eq_ok ran
    obtain ⟨rotatedKey, isNew, rotatedHolds⟩ := holds.rotate inverts
      (store.held _ isUsed) (eq_ok_of_mapError made)
    cases isNew.symm.trans currentOk
    obtain ⟨_, _, ran, ended⟩ := Program.eval_bind_eq_ok ended
    obtain ⟨newRow, rowMade, rfl⟩ := eval_updateCiphertextTx_eq_ok ran
    obtain ⟨_, _, ran, ended⟩ := Program.eval_bind_eq_ok ended
    obtain rfl := Program.eval_commitNow_eq_ok ran
    obtain ⟨rfl, rfl⟩ := Program.eval_pure_eq_ok ended
    exact ⟨_, currentOk, iff_of_false (by decide) differs,
      Sealed.put isSealed.profile rfl rowMade rotatedHolds⟩

/-- In every interleaving a ring reads the profile exactly if it holds the key
of the last store that has written it, and a rotation that answers has made
this the current key of its store: the other keys are needed no more. -/
theorem lastKey_needed (inverts : library.Inverts) (isUsed : key ∈ inUse)
    {system : System (credentialClient library inUse) rowLocking}
    (reachable : System.Reachable
      (Sealed library {key} organizationId profileId kind secret) system) :
    NeedsOnly library organizationId profileId
        (lastKey organizationId profileId key system.commits)
        (lastSecret organizationId profileId secret system.commits)
        system.committed ∧
      ∀ (store : KeyedStore inUse) (entropy : Entropy)
        (plan : List (Option SqlError)) (changed : Bool)
        (reached : CredentialDb),
        (rotateProfileKey library store.keys entropy organizationId
            profileId).callFaulty plan system.committed =
              (.ok changed, reached) →
          ∃ current, store.keys.current = .ok current ∧
            (changed = false ↔
              current = lastKey organizationId profileId key system.commits) ∧
            NeedsOnly library organizationId profileId current
              (lastSecret organizationId profileId secret system.commits)
              reached := by
  obtain ⟨lastUsed, isSealed⟩ := sealed_of_reachable inverts isUsed reachable
  refine ⟨isSealed.needsOnly, ?_⟩
  intro store entropy plan changed reached called
  obtain ⟨current, isCurrent, unchanged, rotated⟩ :=
    isSealed.rotated inverts lastUsed store called
  exact ⟨current, isCurrent, unchanged, rotated.needsOnly⟩

end Keys

namespace Sample

private theorem sealed_masterKey :
    Sealed cipher {masterKey} organizationId profileId "ssh" [0x73, 0x6e, 0x6d]
      (created "ssh").2 := by
  have called : (create cipher keys profileId entropy (input "ssh")).callFaulty
      [] .empty = (.ok (summary "ssh"), (created "ssh").2) :=
    Prod.ext (by decide) rfl
  obtain ⟨_, key, isCurrent, stored⟩ := stored_of_create cipher_inverts called
  cases isCurrent
  obtain ⟨row, found, _, isKind⟩ := stored.profile
  obtain ⟨ciphertext, encrypted, rest⟩ := stored.ciphertext
  exact ⟨⟨row, found, isKind⟩, masterKey, rfl, ciphertext, encrypted, rest⟩

end Sample

theorem lastKey_needed_rotationRun :
    NeedsOnly Sample.cipher Sample.organizationId Sample.profileId
        (lastKey Sample.organizationId Sample.profileId Sample.masterKey
          Sample.rotationRun.1)
        (lastSecret Sample.organizationId Sample.profileId [0x73, 0x6e, 0x6d]
          Sample.rotationRun.1) Sample.rotationRun.2 ∧
      ∀ (store : KeyedStore Sample.keysInUse) (entropy : Entropy)
        (plan : List (Option SqlError)) (changed : Bool)
        (reached : CredentialDb),
        (rotateProfileKey Sample.cipher store.keys entropy
            Sample.organizationId Sample.profileId).callFaulty plan
              Sample.rotationRun.2 = (.ok changed, reached) →
          ∃ current, store.keys.current = .ok current ∧
            (changed = false ↔ current = lastKey Sample.organizationId
              Sample.profileId Sample.masterKey Sample.rotationRun.1) ∧
            NeedsOnly Sample.cipher Sample.organizationId Sample.profileId
              current (lastSecret Sample.organizationId Sample.profileId
                [0x73, 0x6e, 0x6d] Sample.rotationRun.1) reached := by
  have begun : System.Reachable
      (Sealed Sample.cipher {Sample.masterKey} Sample.organizationId
        Sample.profileId "ssh" [0x73, 0x6e, 0x6d])
      (System.idle (Sample.created "ssh").2 [] :
        System (credentialClient Sample.cipher Sample.keysInUse) rowLocking) :=
    .atRest Sample.sealed_masterKey
  have ended := begun.commitEach Sample.rotations
  rw [Sample.rotationRun]
  -- What the run computes to plays no part in the rest.
  generalize System.commitEach (credentialClient Sample.cipher Sample.keysInUse)
    Sample.rotations [] (Sample.created "ssh").2 = run at ended ⊢
  exact lastKey_needed Sample.cipher_inverts (Or.inl rfl) ended

end NetworkManager.SecurityStore
