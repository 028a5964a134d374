import NetworkManager.SecurityStore.RoundTrip
import NetworkManager.Transaction.Outcomes
import NetworkManager.Transaction.Relying

/-!
# Rotations and replacements side by side

Any number of stores replace the secret of a profile, rotate its key,
deactivate it and read it, a statement at a time.  A rotation reads the
ciphertext under a row lock that it keeps until it commits.  A replacement
reads the kind without a lock and writes in a second transaction, and what it
has read still holds then: no statement changes the kind of a profile.
-/

namespace NetworkManager.SecurityStore

open NetworkManager.Foundation
open NetworkManager.Security.Vault
open NetworkManager.Transaction

inductive RowKey where
  | profile (id : Uuid)
  | ciphertext (profileId : Uuid)
deriving DecidableEq

/-- The rows that a statement locks for itself. -/
def lockedRows : Statement → CredentialDb → List RowKey
  | .insertProfile row, _ => [.profile row.id]
  | .insertCiphertext row, _ => [.ciphertext row.credentialProfileId]
  | .selectCiphertext _ _, _ => []
  | .selectActiveKind _ _, _ => []
  | .selectCiphertextForUpdate profileId organizationId, db =>
      match execSelectCiphertext profileId organizationId db with
      | none => []
      | some _ => [.profile profileId, .ciphertext profileId]
  | .updateCiphertext row, db =>
      match db.ciphertexts.lookup row.credentialProfileId with
      | none => []
      | some _ => [.ciphertext row.credentialProfileId]
  | .deactivate profileId organizationId, db =>
      match (db.profile profileId organizationId).filter ProfileRow.active with
      | none => []
      | some _ => [.profile profileId]

def RowSlice : RowKey → Type
  | .profile _ => Option ProfileRow
  | .ciphertext _ => Option CiphertextRow

def rowSlice : (key : RowKey) → CredentialDb → RowSlice key
  | .profile id, db => db.profiles.lookup id
  | .ciphertext profileId, db => db.ciphertexts.lookup profileId

def Write.Touches : Write → RowKey → Prop
  | .profile row, .profile id => row.id = id
  | .ciphertext row, .ciphertext profileId =>
      row.credentialProfileId = profileId
  | .profile _, .ciphertext _ => False
  | .ciphertext _, .profile _ => False

def rowLocking : Locking credentialSql where
  Key := RowKey
  acquires := lockedRows
  Slice := RowSlice
  slice := rowSlice
  touches := Write.Touches
  slice_apply := by
    intro key write db untouched
    cases write with
    | profile row =>
        cases key with
        | profile id =>
            exact Table.lookup_put_of_ne untouched
        | ciphertext profileId => rfl
    | ciphertext row =>
        cases key with
        | profile id => rfl
        | ciphertext profileId =>
            exact Table.lookup_put_of_ne untouched
  slice_apply_congr := by
    intro key write left right same
    cases write with
    | profile row =>
        cases key with
        | profile id =>
            have lookups : left.profiles.lookup id = right.profiles.lookup id :=
              same
            show (left.profiles.put row).lookup id =
              (right.profiles.put row).lookup id
            rw [Table.lookup_put, Table.lookup_put, lookups]
        | ciphertext profileId => exact same
    | ciphertext row =>
        cases key with
        | profile id => exact same
        | ciphertext profileId =>
            have lookups : left.ciphertexts.lookup profileId =
                right.ciphertexts.lookup profileId := same
            show (left.ciphertexts.put row).lookup profileId =
              (right.ciphertexts.put row).lookup profileId
            rw [Table.lookup_put, Table.lookup_put, lookups]

/-! ## The calls -/

/-- A store with a ring that holds every key in use and encrypts under one of
them. -/
structure KeyedStore (inUse : Set MasterKey) where
  keys : KeyRing
  held : ∀ key ∈ inUse, keys.get key.version = .ok key
  current : ∀ key, keys.current = .ok key → key ∈ inUse

inductive CredentialCall (inUse : Set MasterKey) where
  | replaceSecret (store : KeyedStore inUse) (entropy : Entropy)
      (organizationId profileId : Uuid) (newSecret : Bytes)
  | deactivate (organizationId profileId : Uuid)
  | rotateProfileKey (store : KeyedStore inUse) (entropy : Entropy)
      (organizationId profileId : Uuid)
  | resolveSecret (store : KeyedStore inUse)
      (organizationId profileId : Uuid)

def credentialClient (library : VaultLibrary) (inUse : Set MasterKey) :
    Client credentialSql CredentialStoreError where
  Call := CredentialCall inUse
  Result
    | .replaceSecret .. => Unit
    | .deactivate .. => Bool
    | .rotateProfileKey .. => Bool
    | .resolveSecret .. => Bytes
  program
    | .replaceSecret store entropy organizationId profileId newSecret =>
        replaceSecret library store.keys entropy organizationId profileId
          newSecret
    | .deactivate organizationId profileId =>
        deactivate organizationId profileId
    | .rotateProfileKey store entropy organizationId profileId =>
        rotateProfileKey library store.keys entropy organizationId profileId
    | .resolveSecret store organizationId profileId =>
        resolveSecret library store.keys organizationId profileId

section Profiles

variable (library : VaultLibrary) (inUse : Set MasterKey)
  (organizationId profileId : Uuid) (kind : String)

/-- The profile is of this organization and kind. -/
def ProfileOf (db : CredentialDb) : Prop :=
  ∃ row, db.profile profileId organizationId = some row ∧ row.kind = kind

/-- The profile keeps a secret, encrypted under a key in use and bound to the
kind that is stored. -/
structure Sealed (secret : Bytes) (db : CredentialDb) : Prop where
  profile : ProfileOf organizationId profileId kind db
  ciphertext : ∃ key ∈ inUse, ∃ row encrypted,
    db.ciphertexts.lookup profileId = some row ∧
      rowToCiphertext row = .ok encrypted ∧
      encrypted.Holds library key (profileAad organizationId profileId kind)
        secret

/-- What reading the profile gives while it keeps a secret. -/
def answer (secret : Bytes) (db : CredentialDb) :
    Except CredentialStoreError Bytes :=
  if (db.profile profileId organizationId).any ProfileRow.active then
    .ok secret
  else
    .error .inactive

variable {inUse} in
/-- The secret after a commit of a call. -/
def secretAfter (secret : Bytes) : CredentialCall inUse → Bytes
  | .replaceSecret _ _ ofOrganization replaced newSecret =>
      if ofOrganization = organizationId ∧ replaced = profileId then
        newSecret
      else
        secret
  | .deactivate _ _ => secret
  | .rotateProfileKey _ _ _ _ => secret
  | .resolveSecret _ _ _ => secret

variable {library inUse} in
/-- The secret of the last replacement among the commits, the last one
first. -/
def lastSecret (secret : Bytes)
    (commits : List (Commit (credentialClient library inUse))) : Bytes :=
  commits.foldr (fun commit earlier =>
    secretAfter organizationId profileId earlier commit.call) secret

end Profiles

section Keeping

variable {library : VaultLibrary} {inUse : Set MasterKey}
  {organizationId profileId : Uuid} {kind : String} {db : CredentialDb}
  {secret : Bytes}

private theorem lookup_of_profile {row : ProfileRow}
    (found : db.profile profileId organizationId = some row) :
    db.profiles.lookup profileId = some row ∧
      row.organizationId = organizationId := by
  rcases Option.filter_eq_some_iff.mp found with ⟨present, isOwn⟩
  exact ⟨present, of_decide_eq_true isOwn⟩

/-- The profile is found under its own organization only. -/
theorem ProfileOf.unique (isProfile : ProfileOf organizationId profileId kind db)
    {ofOrganization : Uuid} {row : ProfileRow}
    (found : db.profile profileId ofOrganization = some row) :
    ofOrganization = organizationId ∧ row.kind = kind := by
  rcases isProfile with ⟨own, ownFound, ownKind⟩
  rcases lookup_of_profile ownFound with ⟨ownPresent, ownOrganization⟩
  rcases lookup_of_profile found with ⟨present, isOrganization⟩
  cases ownPresent.symm.trans present
  exact ⟨isOrganization.symm.trans ownOrganization, ownKind⟩

private theorem ProfileOf.put {row : ProfileRow} {changed : Uuid}
    (isProfile : ProfileOf organizationId profileId kind db)
    (isChanged : row.id = changed)
    (same : changed = profileId →
      row.organizationId = organizationId ∧ row.kind = kind) :
    ProfileOf organizationId profileId kind
      (applyWrite (.profile row) db) := by
  by_cases isProfileRow : changed = profileId
  · rcases same isProfileRow with ⟨sameOrganization, sameKind⟩
    have found := @profile_put_self db row db.ciphertexts
    rw [isChanged, isProfileRow, sameOrganization] at found
    exact ⟨row, found, sameKind⟩
  · rcases isProfile with ⟨own, ownFound, ownKind⟩
    have untouched : (db.profiles.put row).lookup profileId =
        db.profiles.lookup profileId :=
      Table.lookup_put_of_ne (isChanged ▸ isProfileRow)
    refine ⟨own, ?_, ownKind⟩
    rw [CredentialDb.profile, applyWrite, untouched]
    exact ownFound

/-- The ciphertext of another profile is written. -/
theorem Sealed.put_of_ne {row : CiphertextRow}
    (isSealed : Sealed library inUse organizationId profileId kind secret db)
    (different : row.credentialProfileId ≠ profileId) :
    Sealed library inUse organizationId profileId kind secret
      (applyWrite (.ciphertext row) db) where
  profile := isSealed.profile
  ciphertext := by
    rcases isSealed.ciphertext with ⟨key, isUsed, stored, encrypted, found, rest⟩
    have untouched : (db.ciphertexts.put row).lookup profileId =
        db.ciphertexts.lookup profileId :=
      Table.lookup_put_of_ne different
    exact ⟨key, isUsed, stored, encrypted, untouched.trans found, rest⟩

/-- A new secret, encrypted under a key in use. -/
theorem Sealed.put {row : CiphertextRow} {encrypted : EncryptedSecret}
    {key : MasterKey}
    (isProfile : ProfileOf organizationId profileId kind db)
    (isUsed : key ∈ inUse)
    (made : ciphertextRow profileId encrypted = .ok row)
    (holds : encrypted.Holds library key
      (profileAad organizationId profileId kind) secret) :
    Sealed library inUse organizationId profileId kind secret
      (applyWrite (.ciphertext row) db) where
  profile := isProfile
  ciphertext := by
    rcases rowToCiphertext_ciphertextRow made with ⟨isRow, readBack⟩
    have found := Table.lookup_put_self row db.ciphertexts
    rw [isRow] at found
    exact ⟨key, isUsed, row, encrypted, found, readBack, holds⟩

private theorem Sealed.put_profile {row : ProfileRow} {changed : Uuid}
    (isSealed : Sealed library inUse organizationId profileId kind secret db)
    (isChanged : row.id = changed)
    (same : changed = profileId →
      row.organizationId = organizationId ∧ row.kind = kind) :
    Sealed library inUse organizationId profileId kind secret
      (applyWrite (.profile row) db) where
  profile := isSealed.profile.put isChanged same
  ciphertext := isSealed.ciphertext

/-- A store whose ring holds the keys in use reads the secret. -/
theorem Sealed.read (store : KeyedStore inUse)
    (isSealed : Sealed library inUse organizationId profileId kind secret db) :
    ((resolveSecret library store.keys organizationId profileId).call db).1 =
      answer organizationId profileId secret db := by
  rcases isSealed.profile with ⟨profile, profileFound, rfl⟩
  rcases isSealed.ciphertext with
    ⟨key, isUsed, row, encrypted, rowFound, readBack, holds⟩
  have opened := holds.decrypt (store.held key isUsed)
  rw [call_resolveSecret profileFound rowFound readBack, opened]
  cases isActive : profile.active with
  | false => simp [answer, profileFound, isActive]
  | true => simp [answer, profileFound, isActive, Except.mapError]

end Keeping

section Operations

variable {library : VaultLibrary} {inUse : Set MasterKey}
  {organizationId profileId : Uuid} {kind : String} {α : Type}
  {holds : Store α → CredentialDb → Prop} {held : List RowKey}
  {working : CredentialDb}

/-- A program that relies on the organization and the kind of a profile. -/
abbrev OnProfile (organizationId profileId : Uuid) (kind : String)
    (holds : Store α → CredentialDb → Prop) (program : Store α)
    (held : List RowKey) (working : CredentialDb) : Prop :=
  program.Relies rowLocking (ProfileOf organizationId profileId kind) holds held
    working

private theorem execUpdateCiphertext_eq_ok
    {row : CiphertextRow} {db : CredentialDb}
    {rowsAffected : Nat} {writes : List Write}
    (updated : execUpdateCiphertext row db = .ok (rowsAffected, writes)) :
    rowsAffected = 0 ∧ writes = [] ∨
      rowsAffected = 1 ∧ writes = [.ciphertext row] ∧
        lockedRows (.updateCiphertext row) db =
          [.ciphertext row.credentialProfileId] := by
  unfold execUpdateCiphertext at updated
  cases found : db.ciphertexts.lookup row.credentialProfileId with
  | none =>
      simp only [found, Option.isNone_none, if_true] at updated
      cases updated
      exact Or.inl ⟨rfl, rfl⟩
  | some stored =>
      simp only [found, Option.isNone_some, Bool.false_eq_true,
        if_false] at updated
      split at updated
      · cases updated
      · cases updated
        exact Or.inr ⟨rfl, rfl, by simp only [lockedRows, found]⟩

/-- The row of a ciphertext is written under its lock. -/
theorem onProfile_updateCiphertextTx_bind {updatedId : Uuid}
    {encrypted : EncryptedSecret} {next : Unit → Store α}
    (rest : ∀ row reachedHeld, ciphertextRow updatedId encrypted = .ok row →
      OnProfile organizationId profileId kind holds (next ()) reachedHeld
        (applyWrite (.ciphertext row) working)) :
    OnProfile organizationId profileId kind holds
      (updateCiphertextTx updatedId encrypted >>= next) held working := by
  simp only [updateCiphertextTx, bind_assoc]
  apply Program.Relies.ofExcept_bind
  intro row made
  apply Program.Relies.exec
  · intro view rowsAffected writes _ _ answered
    rcases execUpdateCiphertext_eq_ok answered with
      ⟨_, rfl⟩ | ⟨_, rfl, isLocked⟩
    · exact ⟨Locking.covers_nil _, maintains_nil⟩
    · constructor
      · intro write member key touched
        cases List.mem_singleton.mp member
        cases key with
        | profile id => exact touched.elim
        | ciphertext id =>
            apply List.mem_append_right
            rw [show rowLocking.acquires (.updateCiphertext row) view =
              [.ciphertext row.credentialProfileId] from isLocked]
            exact List.mem_singleton.mpr (congrArg _ touched.symm)
      · exact fun db isProfile => isProfile
  · intro view rowsAffected writes _ _ answered
    apply Program.Relies.check_bind
    intro one
    rcases execUpdateCiphertext_eq_ok answered with
      ⟨noRow, _⟩ | ⟨_, rfl, _⟩
    · rw [noRow] at one
      cases one
    · exact rest row _ made

/-- A row that is there and its ciphertext are read under locks. -/
theorem onProfile_selectForUpdate_bind {readId ofOrganization : Uuid}
    {next : Option (ProfileRow × CiphertextRow) → Store α}
    (absent : ∀ reachedHeld, OnProfile organizationId profileId kind holds
      (next none) reachedHeld working)
    (rest : ∀ profile row reachedHeld,
      working.profile readId ofOrganization = some profile →
      working.ciphertexts.lookup readId = some row →
      OnProfile organizationId profileId kind holds
        (next (some (profile, row))) reachedHeld working) :
    OnProfile organizationId profileId kind holds
      (query (.selectCiphertextForUpdate readId ofOrganization) >>= next) held
      working := by
  apply Program.Relies.exec
  · intro view reply writes _ _ answered
    cases answered
    exact ⟨Locking.covers_nil _, maintains_nil⟩
  · intro view reply writes _ agree answered
    cases answered
    cases found : execSelectCiphertext readId ofOrganization view with
    | none => exact absent _
    | some pair =>
        have isLocked (key : RowKey)
            (member : key ∈ [.profile readId, .ciphertext readId]) :
            key ∈ held ++ lockedRows
              (.selectCiphertextForUpdate readId ofOrganization) view := by
          rw [lockedRows, found]
          exact List.mem_append_right held member
        have sameProfile : view.profiles.lookup readId =
            working.profiles.lookup readId :=
          agree (.profile readId) (isLocked _ (List.mem_cons_self ..))
        have sameCiphertext : view.ciphertexts.lookup readId =
            working.ciphertexts.lookup readId :=
          agree (.ciphertext readId) (isLocked _ (by simp))
        rw [execSelectCiphertext, CredentialDb.profile, sameProfile,
          sameCiphertext] at found
        split at found
        · rename_i profile row profileFound rowFound
          cases found
          exact rest profile row _ profileFound rowFound
        · cases found

end Operations

section Commits

variable {library : VaultLibrary} {inUse : Set MasterKey}
  {organizationId profileId : Uuid} {kind : String} {db : CredentialDb}

/-- A commit leaves the secret that its call says, and a rotation touches the
ciphertexts only. -/
structure Made (library : VaultLibrary) (inUse : Set MasterKey)
    (organizationId profileId : Uuid) (kind : String)
    (call : CredentialCall inUse) (before after : CredentialDb) : Prop where
  secret : ∀ secret,
    Sealed library inUse organizationId profileId kind secret before →
      Sealed library inUse organizationId profileId kind
        (secretAfter organizationId profileId secret call) after
  profiles : ∀ store entropy ofOrganization rotated,
    call = .rotateProfileKey store entropy ofOrganization rotated →
      after.profiles = before.profiles

private theorem onProfile_replaceSecret (inverts : library.Inverts)
    (store : KeyedStore inUse) (entropy : Entropy)
    (ofOrganization replaced : Uuid) (newSecret : Bytes) :
    OnProfile organizationId profileId kind
      (fun _ after => Made library inUse organizationId profileId kind
        (.replaceSecret store entropy ofOrganization replaced newSecret) db
        after)
      (replaceSecret library store.keys entropy ofOrganization replaced
        newSecret) [] db := by
  apply Program.Relies.check_bind
  intro _
  apply Program.Relies.read_bind
  · intro view reply writes answered
    cases answered
    rfl
  · exact fun _ => rfl
  intro view reply isProfile answered
  cases answered
  cases found : (view.profile replaced ofOrganization).filter
      ProfileRow.active with
  | none => exact .done
  | some profile =>
      have present := (Option.filter_eq_some_iff.mp found).1
      apply @Program.Relies.ofExcept_bind _ _ _ _ _ _ _ _ _
        (.ok profile.kind)
      rintro _ ⟨⟩
      apply Program.Relies.ofExcept_bind
      intro current isCurrent
      apply Program.Relies.ofExcept_bind
      intro encrypted made
      have isUsed := store.current current (eq_ok_of_mapError isCurrent)
      have holds :=
        EncryptedSecret.holds_of_encrypt inverts (eq_ok_of_mapError made)
      apply onProfile_updateCiphertextTx_bind
      intro row reachedHeld rowMade
      refine .commit (.done _) ⟨?_, ?_⟩
      · intro secret isSealed
        by_cases isReplaced : replaced = profileId
        · subst isReplaced
          rcases isProfile.unique present with ⟨rfl, isKind⟩
          rw [isKind] at holds
          rw [secretAfter, if_pos ⟨rfl, rfl⟩]
          exact Sealed.put isSealed.profile isUsed rowMade holds
        · rw [secretAfter, if_neg fun both => isReplaced both.2]
          apply isSealed.put_of_ne
          rw [(rowToCiphertext_ciphertextRow rowMade).1]
          exact isReplaced
      · intro _ _ _ _ isRotation
        cases isRotation

private theorem onProfile_rotateProfileKey (inverts : library.Inverts)
    (store : KeyedStore inUse) (entropy : Entropy)
    (ofOrganization rotated : Uuid) :
    OnProfile organizationId profileId kind
      (fun _ after => Made library inUse organizationId profileId kind
        (.rotateProfileKey store entropy ofOrganization rotated) db after)
      (rotateProfileKey library store.keys entropy ofOrganization rotated) []
      db := by
  apply Program.Relies.ofExcept_bind
  intro current isCurrent
  apply onProfile_selectForUpdate_bind
  · exact fun _ => .done
  intro profile row reachedHeld profileFound rowFound
  apply @Program.Relies.ofExcept_bind _ _ _ _ _ _ _ _ _ (.ok (profile, row))
  rintro _ ⟨⟩
  cases i32TryFrom current.version with
  | none => exact .done
  | some currentVersion =>
      apply @Program.Relies.ofExcept_bind _ _ _ _ _ _ _ _ _
        (.ok currentVersion)
      rintro _ ⟨⟩
      by_cases same : row.keyVersion = currentVersion
      · rw [if_pos same]
        exact .done
      · rw [if_neg same]
        apply Program.Relies.ofExcept_bind
        intro encrypted readBack
        apply Program.Relies.ofExcept_bind
        intro changed made
        apply onProfile_updateCiphertextTx_bind
        intro newRow laterHeld rowMade
        refine .commit (.done _) ⟨?_, fun _ _ _ _ _ => rfl⟩
        intro secret isSealed
        by_cases isRotated : rotated = profileId
        · subst isRotated
          rcases isSealed.profile.unique profileFound with ⟨rfl, isKind⟩
          rcases isSealed.ciphertext with
            ⟨key, isUsed, stored, opened, found, storedBack, holds⟩
          cases found.symm.trans rowFound
          cases storedBack.symm.trans readBack
          rw [isKind] at made
          rcases holds.rotate inverts (store.held key isUsed)
            (eq_ok_of_mapError made) with ⟨newKey, isNew, newHolds⟩
          exact Sealed.put isSealed.profile (store.current newKey isNew) rowMade
            newHolds
        · apply isSealed.put_of_ne
          rw [(rowToCiphertext_ciphertextRow rowMade).1]
          exact isRotated

private theorem execDeactivate_cases (ofOrganization deactivated : Uuid)
    (view : CredentialDb) :
    execDeactivate deactivated ofOrganization view = (0, []) ∨
      ∃ profile, view.profile deactivated ofOrganization = some profile ∧
        execDeactivate deactivated ofOrganization view =
          (1, [.profile { profile with active := false }]) ∧
        lockedRows (.deactivate deactivated ofOrganization) view =
          [.profile deactivated] := by
  cases found : view.profile deactivated ofOrganization with
  | none => simp [execDeactivate, found]
  | some profile =>
      cases isActive : profile.active <;>
        simp [execDeactivate, lockedRows, found, isActive, Option.filter]

theorem onProfile_deactivate (ofOrganization deactivated : Uuid) :
    OnProfile organizationId profileId kind
      (fun _ after => Made library inUse organizationId profileId kind
        (.deactivate ofOrganization deactivated) db after)
      (deactivate ofOrganization deactivated) [] db := by
  have written (view : CredentialDb) (profile : ProfileRow)
      (isProfile : ProfileOf organizationId profileId kind view)
      (found : view.profile deactivated ofOrganization = some profile) :
      profile.id = deactivated ∧ (deactivated = profileId →
        profile.organizationId = organizationId ∧ profile.kind = kind) := by
    rcases lookup_of_profile found with ⟨present, isOrganization⟩
    refine ⟨Table.key_of_lookup present, ?_⟩
    rintro rfl
    rcases isProfile.unique found with ⟨sameOrganization, isKind⟩
    exact ⟨isOrganization.trans sameOrganization, isKind⟩
  apply Program.Relies.exec
  · intro view reply writes isProfile _ answered
    have isAnswer : execDeactivate deactivated ofOrganization view =
        (reply, writes) := Except.ok.inj answered
    rcases execDeactivate_cases ofOrganization deactivated view with
      nothing | ⟨profile, found, changed, isLocked⟩
    · cases isAnswer.symm.trans nothing
      exact ⟨Locking.covers_nil _, maintains_nil⟩
    · cases isAnswer.symm.trans changed
      rcases written view profile isProfile found with ⟨isRow, same⟩
      constructor
      · intro write member key touched
        cases List.mem_singleton.mp member
        cases key with
        | profile id =>
            apply List.mem_append_right
            rw [show rowLocking.acquires
                (.deactivate deactivated ofOrganization) view =
              [.profile deactivated] from isLocked]
            exact List.mem_singleton.mpr
              (congrArg _ (touched.symm.trans isRow))
        | ciphertext id => exact touched.elim
      · intro state kept
        have remains : ProfileOf organizationId profileId kind (applyWrite
            (.profile { profile with active := false }) state) :=
          kept.put isRow same
        exact remains
  · intro view reply writes isProfile _ answered
    have isAnswer : execDeactivate deactivated ofOrganization view =
        (reply, writes) := Except.ok.inj answered
    refine .commit (.done _) ⟨fun secret isSealed => ?_, ?_⟩
    · rcases execDeactivate_cases ofOrganization deactivated view with
        nothing | ⟨profile, found, changed, _⟩
      · cases isAnswer.symm.trans nothing
        exact isSealed
      · cases isAnswer.symm.trans changed
        rcases written view profile isProfile found with ⟨isRow, same⟩
        have remains : Sealed library inUse organizationId profileId kind
            secret (applyWrite (.profile { profile with active := false })
              db) :=
          isSealed.put_profile isRow same
        exact remains
    · intro _ _ _ _ isRotation
      cases isRotation

/-- What follows the one statement of a read. -/
theorem done_of_found (keys : KeyRing) (ofOrganization resolved : Uuid)
    (found : Option (ProfileRow × CiphertextRow)) :
    ∃ outcome, (require .notFound found >>= fun (profile, row) => do
      Program.check profile.active .inactive
      let encrypted ← Program.ofExcept (rowToCiphertext row)
      let aad := profileAad ofOrganization resolved profile.kind
      vault (encrypted.decrypt library aad keys) : Store Bytes) =
        .done outcome := by
  cases found with
  | none => exact ⟨_, rfl⟩
  | some pair =>
      rcases pair with ⟨profile, row⟩
      cases isActive : profile.active with
      | false =>
          refine ⟨.error .inactive, ?_⟩
          simp [require, Program.ofExcept, Program.check, isActive]
      | true =>
          cases readBack : rowToCiphertext row with
          | error failure =>
              refine ⟨.error failure, ?_⟩
              simp [require, Program.ofExcept, Program.check, isActive,
                readBack]
          | ok encrypted =>
              refine ⟨(encrypted.decrypt library (profileAad ofOrganization
                resolved profile.kind) keys).mapError .vault, ?_⟩
              simp [require, Program.ofExcept, Program.check, isActive,
                readBack, vault]

private theorem asksOnce_resolveSecret (keys : KeyRing)
    (ofOrganization resolved : Uuid) :
    (resolveSecret library keys ofOrganization resolved).AsksOnce :=
  fun found => done_of_found keys ofOrganization resolved found

theorem onProfile_resolveSecret {holds : Store Bytes → CredentialDb → Prop}
    (keys : KeyRing) (ofOrganization resolved : Uuid) :
    OnProfile organizationId profileId kind holds
      (resolveSecret library keys ofOrganization resolved) [] db := by
  apply Program.Relies.read_bind
  · intro view reply writes answered
    cases answered
    rfl
  · exact fun _ => rfl
  intro view found _ _
  rcases @done_of_found library keys ofOrganization resolved found with
    ⟨outcome, isDone⟩
  exact isDone ▸ .done

private theorem onProfile_credentialClient (inverts : library.Inverts)
    (call : CredentialCall inUse) :
    OnProfile organizationId profileId kind
      (fun _ after => Made library inUse organizationId profileId kind call db
        after)
      ((credentialClient library inUse).program call) [] db := by
  cases call with
  | replaceSecret store entropy ofOrganization replaced newSecret =>
      exact onProfile_replaceSecret inverts store entropy ofOrganization
        replaced newSecret
  | deactivate ofOrganization deactivated =>
      exact onProfile_deactivate ofOrganization deactivated
  | rotateProfileKey store entropy ofOrganization rotated =>
      exact onProfile_rotateProfileKey inverts store entropy ofOrganization
        rotated
  | resolveSecret store ofOrganization resolved =>
      exact onProfile_resolveSecret store.keys ofOrganization resolved

end Commits

section Interleavings

variable {library : VaultLibrary} {inUse : Set MasterKey}
  {organizationId profileId : Uuid} {kind : String} {secret : Bytes}

/-- The secret of a profile, in a system of stores. -/
structure SecretKept (organizationId profileId : Uuid) (secret : Bytes)
    (system : System (credentialClient library inUse) rowLocking) : Prop where
  /-- Reading gives the secret of the last committed replacement. -/
  last : ∀ store : KeyedStore inUse,
    ((resolveSecret library store.keys organizationId profileId).call
        system.committed).1 =
      answer organizationId profileId
        (lastSecret organizationId profileId secret system.commits)
        system.committed
  /-- Also a reader among the other sessions gets it, when its statement is
  answered. -/
  readers : ∀ {next : System (credentialClient library inUse) rowLocking}
    {place : Nat} {store : KeyedStore inUse}
    {session after : Session (credentialClient library inUse) rowLocking},
    System.Step system next →
    system.sessions place = some session → next.sessions place = some after →
    session.call = .resolveSecret store organizationId profileId →
      after = session ∨ ∃ origin pending held,
        after = ⟨.resolveSecret store organizationId profileId, origin,
          .done (answer organizationId profileId
            (lastSecret organizationId profileId secret system.commits)
            system.committed), pending, held⟩
  /-- No rotation changes what reading gives. -/
  rotations : ∀ commit ∈ system.commits,
    ∀ store entropy ofOrganization rotated,
      commit.call = .rotateProfileKey store entropy ofOrganization rotated →
      ∀ reader : KeyedStore inUse,
        ((resolveSecret library reader.keys organizationId profileId).call
            commit.after).1 =
          ((resolveSecret library reader.keys organizationId profileId).call
            commit.before).1

/-- The secret that the commits leave. -/
theorem sealed_of_history
    {commits : List (Commit (credentialClient library inUse))}
    {first last : CredentialDb}
    (history : History (fun commit => Made library inUse organizationId
      profileId kind commit.call commit.before commit.after) first commits last)
    (isSealed : Sealed library inUse organizationId profileId kind secret
      first) :
    Sealed library inUse organizationId profileId kind
        (lastSecret organizationId profileId secret commits) last ∧
      ∀ commit ∈ commits, ∃ kept, Sealed library inUse organizationId
        profileId kind kept commit.before := by
  induction history with
  | nil => exact ⟨isSealed, by simp⟩
  | @cons commit commits _ made inductionHypothesis =>
      rcases inductionHypothesis with ⟨before, earlier⟩
      refine ⟨made.secret _ before, ?_⟩
      intro other member
      rcases List.mem_cons.mp member with rfl | old
      · exact ⟨_, before⟩
      · exact earlier other old

/-- In every interleaving rotations are transparent, and a replacement that is
committed stays until the next one is. -/
theorem secretKept_of_reachable (inverts : library.Inverts)
    {system : System (credentialClient library inUse) rowLocking}
    (reachable : System.Reachable
      (Sealed library inUse organizationId profileId kind secret) system) :
    SecretKept organizationId profileId secret system := by
  have keeps (call : CredentialCall inUse) (db : CredentialDb)
      (held : ∃ kept, Sealed library inUse organizationId profileId kind kept
        db) :
      OnProfile organizationId profileId kind
        (fun _ after =>
          (∃ kept, Sealed library inUse organizationId profileId kind kept
            after) ∧
          Made library inUse organizationId profileId kind call db after)
        ((credentialClient library inUse).program call) [] db := by
    apply (onProfile_credentialClient inverts call).weaken
    intro _ after made
    rcases held with ⟨kept, isSealed⟩
    exact ⟨⟨_, made.secret kept isSealed⟩, made⟩
  have kept : (∃ kept, Sealed library inUse organizationId profileId kind kept
        system.committed) ∧
      ∃ first, Sealed library inUse organizationId profileId kind secret
          first ∧
        History (fun commit => Made library inUse organizationId profileId kind
          commit.call commit.before commit.after) first system.commits
            system.committed := by
    refine @System.Reachable.relying _ _ (credentialClient library inUse)
      rowLocking _ (ProfileOf organizationId profileId kind)
      (fun db => ∃ kept, Sealed library inUse organizationId profileId kind
        kept db)
      (fun commit => Made library inUse organizationId profileId kind
        commit.call commit.before commit.after) ?_ ?_ keeps system reachable
    · exact fun _ isSealed => ⟨secret, isSealed⟩
    · exact fun _ held => held.elim fun _ isSealed => isSealed.profile
  rcases kept with ⟨_, first, isFirst, history⟩
  rcases sealed_of_history history isFirst with ⟨isSealed, earlier⟩
  refine ⟨fun store => isSealed.read store, ?_, ?_⟩
  · intro next place store session after taken found foundAfter isCall
    rcases session with ⟨call, origin, rest, pending, held⟩
    cases isCall
    have settled := reachable.outcome_of_step taken found foundAfter
      (asksOnce_resolveSecret store.keys organizationId profileId)
    have given : (((credentialClient library inUse).program
        (.resolveSecret store organizationId profileId)).call
          system.committed).1 = _ := isSealed.read store
    rw [given] at settled
    exact settled
  · intro commit member store entropy ofOrganization rotated isRotation reader
    have made := history.made_of_mem member
    rcases earlier commit member with ⟨kept, before⟩
    have after := made.secret kept before
    rw [isRotation, secretAfter] at after
    rw [before.read reader, after.read reader, answer, answer,
      CredentialDb.profile, CredentialDb.profile,
      made.profiles store entropy ofOrganization rotated isRotation]

end Interleavings

namespace Sample

def keysInUse : Set MasterKey := {masterKey, laterKey}

/-- A store that has both keys, and one of them as its current key. -/
def storeOf (key : MasterKey) (isUsed : key ∈ keysInUse) :
    KeyedStore keysInUse where
  keys := ((KeyRing.default.insert masterKey false).insert laterKey
    false).insert key true
  held := by
    rcases isUsed with rfl | rfl
    · rintro other (rfl | rfl) <;> rfl
    · rintro other (rfl | rfl) <;> rfl
  current := by
    intro other isCurrent
    rcases isUsed with rfl | rfl
    · cases isCurrent
      exact Or.inl rfl
    · cases isCurrent
      exact Or.inr rfl

def oldStore : KeyedStore keysInUse := storeOf masterKey (Or.inl rfl)

def newStore : KeyedStore keysInUse := storeOf laterKey (Or.inr rfl)

/-- A rotation, a replacement by a store that still encrypts under the old
key, and another rotation. -/
def rotations : List (CredentialCall keysInUse) :=
  [.rotateProfileKey newStore entropy organizationId profileId,
    .replaceSecret oldStore entropy organizationId profileId [0x6e, 0x65, 0x77],
    .rotateProfileKey newStore entropy organizationId profileId]

def rotationRun :
    List (Commit (credentialClient cipher keysInUse)) × CredentialDb :=
  System.commitEach (credentialClient cipher keysInUse) rotations []
    (created "ssh").2

private theorem sealed_created :
    Sealed cipher keysInUse organizationId profileId "ssh" [0x73, 0x6e, 0x6d]
      (created "ssh").2 := by
  have called : (create cipher keys profileId entropy (input "ssh")).callFaulty
      [] .empty = (.ok (summary "ssh"), (created "ssh").2) :=
    Prod.ext (by decide) rfl
  rcases stored_of_create cipher_inverts called with
    ⟨_, key, isCurrent, stored⟩
  cases isCurrent
  rcases stored.profile with ⟨row, found, _, isKind⟩
  rcases stored.ciphertext with ⟨ciphertext, encrypted, rest⟩
  exact ⟨⟨row, found, isKind⟩, masterKey, Or.inl rfl, ciphertext, encrypted,
    rest⟩

end Sample

/-- The three calls commit, and the secret of the replacement is read. -/
theorem secretKept_rotationRun :
    Sample.rotationRun.1.length = 3 ∧
      ((resolveSecret Sample.cipher Sample.oldStore.keys Sample.organizationId
        Sample.profileId).call Sample.rotationRun.2).1 =
          .ok [0x6e, 0x65, 0x77] ∧
      SecretKept Sample.organizationId Sample.profileId [0x73, 0x6e, 0x6d]
        (System.idle Sample.rotationRun.2 Sample.rotationRun.1) := by
  have begun : System.Reachable
      (Sealed Sample.cipher Sample.keysInUse Sample.organizationId
        Sample.profileId "ssh" [0x73, 0x6e, 0x6d])
      (System.idle (Sample.created "ssh").2 [] :
        System (credentialClient Sample.cipher Sample.keysInUse) rowLocking) :=
    .atRest Sample.sealed_created
  refine ⟨by decide +kernel, by decide +kernel, ?_⟩
  have ended := begun.commitEach Sample.rotations
  exact secretKept_of_reachable Sample.cipher_inverts ended

end NetworkManager.SecurityStore
