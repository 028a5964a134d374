import NetworkManager.SecurityStore.RoundTrip

/-!
# Rings in use

Keys come into a ring, secrets are encrypted under keys that have been in it,
and rotations move them to its current key.  An insertion puts a key in the
place of another of the same version, and what lies under that one is lost.
-/

namespace NetworkManager.Security.Vault

open NetworkManager.Foundation

/-- How a secret has come about.  A rotation remembers the version that was
current. -/
inductive Origin where
  | encrypted
  | rotated (currentVersion : Option UInt32)
deriving DecidableEq

/-- A secret that has been produced, and what was encrypted in it. -/
structure Produced where
  secret : EncryptedSecret
  aad : Bytes
  plaintext : Bytes
  origin : Origin
deriving DecidableEq

/-- A ring, the keys that have been in it and the secrets that have been
produced. -/
structure RingState where
  ring : KeyRing
  inserted : List MasterKey
  produced : List Produced

inductive RingCall where
  | insert (key : MasterKey) (makeCurrent : Bool)
  | encrypt (plaintext aad : Bytes) (key : MasterKey) (entropy : Entropy)
  | rotate (produced : Produced) (entropy : Entropy)

namespace RingState

def start : RingState := ⟨.default, [], []⟩

/-- Encryption takes a key that has been in the ring, and rotation a secret
that has been produced. -/
def Offers (state : RingState) : RingCall → Prop
  | .insert _ _ => True
  | .encrypt _ _ key _ => key ∈ state.inserted
  | .rotate produced _ => produced ∈ state.produced

/-- The state with what an encryption has produced, if it has not failed. -/
def adding (state : RingState) (aad plaintext : Bytes) (origin : Origin) :
    Except VaultError EncryptedSecret → RingState
  | .error _ => state
  | .ok secret =>
      { state with
        produced := ⟨secret, aad, plaintext, origin⟩ :: state.produced }

/-- The state after a call. -/
def after (library : VaultLibrary) (state : RingState) : RingCall → RingState
  | .insert key makeCurrent =>
      { state with
        ring := state.ring.insert key makeCurrent
        inserted := key :: state.inserted }
  | .encrypt plaintext aad key entropy =>
      state.adding aad plaintext .encrypted
        (EncryptedSecret.encrypt library plaintext aad key entropy)
  | .rotate produced entropy =>
      state.adding produced.aad produced.plaintext
        (.rotated state.ring.currentVersion)
        (produced.secret.rotate library produced.aad state.ring entropy)

/-- The states that calls of some kind lead to. -/
inductive Reachable (library : VaultLibrary)
    (allowed : RingState → RingCall → Prop) : RingState → Prop
  | start : Reachable library allowed start
  | call {state : RingState} (call : RingCall) :
      Reachable library allowed state → state.Offers call →
      allowed state call → Reachable library allowed (state.after library call)

/-- Every secret is decrypted to what was encrypted, and a rotated one lies
under the version that was current. -/
def KeepsSecrets (library : VaultLibrary) (state : RingState) : Prop :=
  ∀ produced ∈ state.produced,
    produced.secret.decrypt library produced.aad state.ring =
        .ok produced.plaintext ∧
      ∀ currentVersion, produced.origin = .rotated currentVersion →
        currentVersion = some produced.secret.keyVersion

/-- An insertion gives no other key to a version under which a secret lies, and
an encryption takes a key that the ring still has. -/
def Spares (state : RingState) : RingCall → Prop
  | .insert key _ =>
      (∃ produced ∈ state.produced,
          produced.secret.keyVersion = key.version) →
        state.ring.get key.version = .ok key
  | .encrypt _ _ key _ => state.ring.get key.version = .ok key
  | .rotate _ _ => True

end RingState

private theorem KeyRing.get_insert (ring : KeyRing) (key : MasterKey)
    (makeCurrent : Bool) (version : UInt32) :
    (ring.insert key makeCurrent).get version =
      if key.version = version then .ok key else ring.get version := by
  rw [KeyRing.get, KeyRing.insert, Table.lookup_put]
  by_cases same : key.version = version
  · rw [if_pos same, if_pos same]
  · rw [if_neg same, if_neg same]
    rfl

private theorem KeyRing.currentVersion_of_current
    {ring : KeyRing} {key : MasterKey}
    (isCurrent : ring.current = .ok key) :
    ring.currentVersion = some key.version := by
  unfold KeyRing.current at isCurrent
  cases chosen : ring.currentVersion with
  | none => simp [chosen] at isCurrent
  | some version =>
      rw [chosen] at isCurrent
      have found : ring.get version = .ok key := isCurrent
      rw [KeyRing.version_of_get found]

section Calls

variable {library : VaultLibrary} {state : RingState}

/-- The ring has the key under which a secret lies. -/
structure Produced.Lies (library : VaultLibrary) (ring : KeyRing)
    (produced : Produced) : Prop where
  held : ∃ key, ring.get key.version = .ok key ∧
    produced.secret.Holds library key produced.aad produced.plaintext
  origin : ∀ currentVersion, produced.origin = .rotated currentVersion →
    currentVersion = some produced.secret.keyVersion

/-- The secrets are not lost with this ring. -/
def RingState.Sound (library : VaultLibrary) (state : RingState) : Prop :=
  ∀ produced ∈ state.produced, produced.Lies library state.ring

private theorem RingState.Sound.keepsSecrets (sound : state.Sound library) :
    state.KeepsSecrets library := by
  intro produced member
  rcases (sound produced member).held with ⟨key, held, holds⟩
  exact ⟨holds.decrypt held, (sound produced member).origin⟩

private theorem RingState.Sound.adding {aad plaintext : Bytes} {origin : Origin}
    {outcome : Except VaultError EncryptedSecret}
    (sound : state.Sound library)
    (lies : ∀ secret, outcome = .ok secret →
      (Produced.mk secret aad plaintext origin).Lies library state.ring) :
    (state.adding aad plaintext origin outcome).Sound library := by
  cases outcome with
  | error failure => exact sound
  | ok secret =>
      intro produced member
      rcases List.mem_cons.mp member with isNew | old
      · rw [isNew]
        exact lies secret rfl
      · exact sound produced old

/-- An insertion that spares the secrets leaves each under its key. -/
theorem RingState.Sound.insert {key : MasterKey} {makeCurrent : Bool}
    (sound : state.Sound library)
    (spares : state.Spares (.insert key makeCurrent)) :
    (state.after library (.insert key makeCurrent)).Sound library := by
  intro produced member
  rcases (sound produced member).held with ⟨held, isHeld, holds⟩
  refine ⟨⟨held, ?_, holds⟩, (sound produced member).origin⟩
  rw [RingState.after, KeyRing.get_insert]
  by_cases same : key.version = held.version
  · have inUse : ∃ produced ∈ state.produced,
        produced.secret.keyVersion = key.version :=
      ⟨produced, member, holds.keyVersion.trans same.symm⟩
    have isSame := spares inUse
    rw [same, isHeld] at isSame
    rw [if_pos same, isSame]
  · rw [if_neg same]
    exact isHeld

private theorem RingState.Sound.after
    (inverts : library.Inverts) {call : RingCall}
    (sound : state.Sound library) (offers : state.Offers call)
    (spares : state.Spares call) : (state.after library call).Sound library := by
  cases call with
  | insert key makeCurrent => exact sound.insert spares
  | encrypt plaintext aad key entropy =>
      apply sound.adding
      intro secret made
      refine ⟨⟨key, spares, EncryptedSecret.holds_of_encrypt inverts made⟩, ?_⟩
      intro currentVersion isRotated
      cases isRotated
  | rotate produced entropy =>
      apply sound.adding
      intro secret made
      rcases (sound produced offers).held with ⟨key, held, holds⟩
      rcases holds.rotate inverts held made with ⟨current, isCurrent, rotated⟩
      refine ⟨⟨current, KeyRing.get_version_of_current isCurrent, rotated⟩, ?_⟩
      intro currentVersion isRotated
      cases isRotated
      rw [KeyRing.currentVersion_of_current isCurrent, rotated.keyVersion]

end Calls

/-- Secrets are not stranded by calls that spare them. -/
theorem keepsSecrets_of_reachable {library : VaultLibrary} {state : RingState}
    (inverts : library.Inverts)
    (reachable : RingState.Reachable library RingState.Spares state) :
    state.KeepsSecrets library := by
  suffices sound : state.Sound library from sound.keepsSecrets
  induction reachable with
  | start =>
      intro produced member
      cases member
  | call call _ offers spares inductionHypothesis =>
      exact inductionHypothesis.after inverts offers spares

namespace Sample

open SecurityStore.Sample (cipher cipher_inverts masterKey laterKey entropy)

/-- Another key of the first version. -/
def otherKey : MasterKey :=
  { masterKey with key := FixedBytes.replicate 32 0x23 }

/-- A secret under the only key of the ring. -/
def encrypted : RingState :=
  (RingState.start.after cipher (.insert masterKey true)).after cipher
    (.encrypt [0x73, 0x6e, 0x6d] [0x61] masterKey entropy)

def produced : Produced := encrypted.produced.head (by decide)

/-- The secret has been moved to a second key. -/
def rotated : RingState :=
  (encrypted.after cipher (.insert laterKey true)).after cipher
    (.rotate produced entropy)

/-- The first key has been replaced. -/
def replaced : RingState := encrypted.after cipher (.insert otherKey true)

private theorem reachable_encrypted {allowed : RingState → RingCall → Prop}
    (inserts : allowed .start (.insert masterKey true))
    (encrypts : allowed (RingState.start.after cipher (.insert masterKey true))
      (.encrypt [0x73, 0x6e, 0x6d] [0x61] masterKey entropy)) :
    RingState.Reachable cipher allowed encrypted :=
  .call _ (.call _ .start trivial inserts) (List.mem_singleton.mpr rfl) encrypts

private theorem produced_mem : produced ∈ encrypted.produced := List.head_mem _

end Sample

/-- A secret is still there after a rotation to a second key. -/
theorem keepsSecrets_rotated :
    Sample.rotated.produced.map (fun produced => produced.secret.keyVersion) =
        [2, 1] ∧
      Sample.rotated.KeepsSecrets SecurityStore.Sample.cipher := by
  have encrypted := @Sample.reachable_encrypted RingState.Spares
    (fun ⟨_, member, _⟩ => nomatch member) rfl
  have spares : Sample.encrypted.Spares
      (.insert SecurityStore.Sample.laterKey true) := by
    intro inUse
    rcases inUse with ⟨produced, member, isLater⟩
    rw [List.mem_singleton.mp member] at isLater
    exact absurd isLater (by decide)
  have inserted := encrypted.call
    (.insert SecurityStore.Sample.laterKey true) trivial spares
  have rotated := inserted.call (.rotate Sample.produced
    SecurityStore.Sample.entropy) Sample.produced_mem trivial
  exact ⟨by decide, keepsSecrets_of_reachable SecurityStore.Sample.cipher_inverts
    rotated⟩

/-- With another key in the place of its own, a secret is lost. -/
theorem not_keepsSecrets :
    ¬∀ (library : VaultLibrary) (state : RingState), library.Inverts →
      RingState.Reachable library (fun _ _ => True) state →
      state.KeepsSecrets library := by
  intro keeps
  have encrypted := @Sample.reachable_encrypted (fun _ _ => True) trivial
    trivial
  have replaced := encrypted.call (.insert Sample.otherKey true) trivial trivial
  have kept := (keeps _ _ SecurityStore.Sample.cipher_inverts replaced
    Sample.produced Sample.produced_mem).1
  have lost : Sample.produced.secret.decrypt SecurityStore.Sample.cipher
      Sample.produced.aad Sample.replaced.ring = .error .decryptionFailed := by
    decide
  exact nomatch lost.symm.trans kept

end NetworkManager.Security.Vault
