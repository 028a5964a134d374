import NetworkManager.Foundation.IpAddrText
import NetworkManager.Foundation.IpNet
import NetworkManager.IdentityStore.Authentication

/-!
# Networks that are validated and then cast

The networks of a credential are validated as addresses with a length, and the
database casts their texts.  The cast is stricter: it takes no host bits, and no
sign before the length.
-/

namespace NetworkManager.IdentityStore

open NetworkManager.Foundation
open NetworkManager.Security.Token
open NetworkManager.Transaction

/-- An address with a length that it has room for. -/
def withLength : IpAddr → Nat → Option Cidr
  | .v4 bits, length =>
      if bounded : length < 33 then some (.v4 bits ⟨length, bounded⟩) else none
  | .v6 bits, length =>
      if bounded : length < 129 then some (.v6 bits ⟨length, bounded⟩) else none

/-- What validation reads in an entry: the address with its length, and how the
length is written. -/
def readEntry (cidr : String) : Option (Cidr × String) :=
  match cidr.toList.span (· ≠ '/') with
  | (_, []) => none
  | (address, _ :: length) =>
      match parseIpAddr (String.ofList address),
          parseU8 (String.ofList length) with
      | some address, some value =>
          (withLength address value).map fun net => (net, String.ofList length)
      | _, _ => none

/-- No bit is set to the right of the length. -/
def NoHostBits (net : Cidr) : Prop := net.truncate = net

instance decidableNoHostBits (net : Cidr) : Decidable (NoHostBits net) :=
  inferInstanceAs (Decidable (_ = _))

/-- The documented rule of the cast.  Which lengths it takes as plain digits is
a parameter: those without a leading zero are, and those with a sign are not. -/
structure CastsCidr (castCidr : String → Option Cidr)
    (isPlain : Cidr → String → Bool) : Prop where
  numeral : ∀ net, ∀ length ≤ 128, isPlain net (toString length) = true
  unsigned : ∀ net text, isPlain net text = true → '+' ∉ text.toList
  cast : ∀ text net length, readEntry text = some (net, length) →
    castCidr text =
      if isPlain net length = true ∧ NoHostBits net then some net else none

/-- The entry is written as the cast wants it. -/
def StorableEntry (isPlain : Cidr → String → Bool) (text : String) : Prop :=
  ∃ net length, readEntry text = some (net, length) ∧
    isPlain net length = true ∧ NoHostBits net

def Storable (isPlain : Cidr → String → Bool) (cidrs : List String) : Prop :=
  ∀ text ∈ cidrs, StorableEntry isPlain text

/-- How a call fails on account of its networks. -/
def castFailure : IdentityStoreError :=
  .database (.other "invalid cidr value")

/-- A call comes to the cast: its scopes are valid and its account is active. -/
def ReachesCast (db : ServiceAccountDb) (organizationId accountId : Uuid)
    (input : NewServiceAccountCredential) : Prop :=
  validateScopes input.scopes = .ok () ∧
    ∃ account, db.account accountId organizationId = some account ∧
      account.status = .active

/-- The stored network holds the addresses that begin as the one of the entry
does. -/
def StoredExactly (text : String) (stored : Cidr) : Prop :=
  ∀ address, stored.contains address = true ↔
    ∃ net length, readEntry text = some (net, length) ∧
      net.SharesPrefix address

section Entries

variable {castCidr : String → Option Cidr} {isPlain : Cidr → String → Bool}
  {text : String} {cidrs : List String}

private theorem withLength_isSome (address : IpAddr) (length : Nat) :
    (withLength address length).isSome = decide (length ≤ address.width) := by
  cases address with
  | v4 bits =>
      rw [withLength]
      split
      · rename_i bounded
        exact (decide_eq_true (Nat.le_of_lt_succ bounded)).symm
      · rename_i notBounded
        exact (decide_eq_false (fun bounded =>
          notBounded (Nat.lt_succ_of_le bounded))).symm
  | v6 bits =>
      rw [withLength]
      split
      · rename_i bounded
        exact (decide_eq_true (Nat.le_of_lt_succ bounded)).symm
      · rename_i notBounded
        exact (decide_eq_false (fun bounded =>
          notBounded (Nat.lt_succ_of_le bounded))).symm

/-- An entry is allowed if it can be read. -/
theorem cidrAllowed_eq (text : String) :
    cidrAllowed text = (readEntry text).isSome := by
  rw [cidrAllowed, readEntry]
  cases text.toList.span (· ≠ '/') with
  | mk address after =>
      cases after with
      | nil => rfl
      | cons slash length =>
          dsimp only
          rw [← width_parseIpAddr]
          cases parseIpAddr (String.ofList address) with
          | none => rfl
          | some address =>
              cases parseU8 (String.ofList length) with
              | none => rfl
              | some value =>
                  rw [Option.isSome_map, withLength_isSome]
                  rfl

private theorem readEntry_of_validated
    (validated : validateCidrs cidrs = .ok ())
    (member : text ∈ cidrs) :
    ∃ net length, readEntry text = some (net, length) := by
  have allowed : cidrs.all cidrAllowed = true := by
    rw [validateCidrs] at validated
    split at validated
    · cases validated
    · split at validated
      · assumption
      · cases validated
  have isAllowed := List.all_eq_true.mp allowed text member
  rw [cidrAllowed_eq] at isAllowed
  obtain ⟨⟨net, length⟩, isEntry⟩ := Option.isSome_iff_exists.mp isAllowed
  exact ⟨net, length, isEntry⟩

/-- An entry that validation accepts is cast if and only if it is storable. -/
theorem CastsCidr.isSome_iff (casts : CastsCidr castCidr isPlain)
    {net : Cidr} {length : String}
    (isEntry : readEntry text = some (net, length)) :
    (castCidr text).isSome ↔ StorableEntry isPlain text := by
  rw [casts.cast text net length isEntry]
  constructor
  · intro isCast
    split at isCast
    · rename_i storable
      exact ⟨net, length, isEntry, storable⟩
    · cases isCast
  · rintro ⟨other, written, isOther, storable⟩
    rw [isEntry, Option.some.injEq, Prod.mk.injEq] at isOther
    obtain ⟨rfl, rfl⟩ := isOther
    rw [if_pos storable]
    rfl

/-- What the cast makes of an entry is the network that was read in it. -/
theorem CastsCidr.storedExactly (casts : CastsCidr castCidr isPlain)
    {net stored : Cidr} {length : String}
    (isEntry : readEntry text = some (net, length))
    (isCast : castCidr text = some stored) : StoredExactly text stored := by
  rw [casts.cast text net length isEntry] at isCast
  split at isCast
  · cases isCast
    intro address
    rw [Cidr.contains_iff_sharesPrefix]
    constructor
    · intro shares
      exact ⟨net, length, isEntry, shares⟩
    · rintro ⟨other, written, isOther, shares⟩
      rw [isEntry, Option.some.injEq, Prod.mk.injEq] at isOther
      rw [isOther.1]
      exact shares
  · cases isCast

/-- A list is cast if and only if each of its entries is. -/
theorem mapM_isSome_iff (castCidr : String → Option Cidr)
    (cidrs : List String) :
    (cidrs.mapM castCidr).isSome ↔ ∀ text ∈ cidrs, (castCidr text).isSome := by
  induction cidrs with
  | nil => simp
  | cons text rest inductionHypothesis =>
      rw [List.forall_mem_cons, ← inductionHypothesis, List.mapM_cons]
      cases castCidr text with
      | none => simp
      | some net =>
          cases rest.mapM castCidr with
          | none => simp
          | some nets => simp

private theorem storable_iff (casts : CastsCidr castCidr isPlain)
    (validated : validateCidrs cidrs = .ok ()) :
    (∀ text ∈ cidrs, (castCidr text).isSome) ↔ Storable isPlain cidrs := by
  constructor
  · intro isCast text member
    obtain ⟨net, length, isEntry⟩ := readEntry_of_validated validated member
    exact (casts.isSome_iff isEntry).mp (isCast text member)
  · intro storable text member
    obtain ⟨net, length, isEntry⟩ := readEntry_of_validated validated member
    exact (casts.isSome_iff isEntry).mpr (storable text member)

end Entries

section Calls

variable {castCidr : String → Option Cidr} {isPlain : Cidr → String → Bool}
  {library : TokenLibrary} {db : ServiceAccountDb}
  {credentialId organizationId accountId : Uuid} {random : FixedBytes 32}
  {input : NewServiceAccountCredential}

/-- Nothing else in a row fails as the cast does. -/
theorem row_eq_castFailure_iff {columns : CredentialColumns} :
    columns.row castCidr = .error (.other "invalid cidr value") ↔
      columns.allowedCidrs.mapM castCidr = none := by
  unfold CredentialColumns.row
  cases columns.allowedCidrs.mapM castCidr with
  | none => exact iff_of_true rfl rfl
  | some nets =>
      refine iff_of_false ?_ (by simp)
      cases columns.expiresAt with
      | none =>
          intro failed
          cases failed
      | some seconds =>
          rw [Option.mapM_some, toTimestamp]
          split
          · intro failed
            cases failed
          · intro failed
            have sameText : "timestamp out of range" = "invalid cidr value" :=
              SqlError.other.inj (Except.error.inj failed)
            exact absurd sameText (by decide)

/-- The cast is the only part of the insertion that fails so. -/
theorem execInsertCredential_eq_castFailure_iff {columns : CredentialColumns} :
    execInsertCredential castCidr organizationId columns db =
        .error (.other "invalid cidr value") ↔
      (∃ account, db.account columns.serviceAccountId organizationId =
        some account ∧ account.status = .active) ∧
      columns.allowedCidrs.mapM castCidr = none := by
  unfold execInsertCredential
  cases found : (db.account columns.serviceAccountId organizationId).filter
      fun row => row.status = .active with
  | none =>
      refine iff_of_false (by simp) ?_
      rintro ⟨⟨account, isAccount, active⟩, _⟩
      rw [isAccount, Option.filter_some, if_pos (decide_eq_true active)]
        at found
      cases found
  | some account =>
      obtain ⟨isAccount, active⟩ := Option.filter_eq_some_iff.mp found
      rw [and_iff_right ⟨account, isAccount, of_decide_eq_true active⟩,
        ← row_eq_castFailure_iff]
      cases columns.row castCidr with
      | error failure =>
          change Except.error failure = Except.error _ ↔ _
          rw [Except.error.injEq, Except.error.injEq]
      | ok row =>
          refine iff_of_false ?_ (by simp)
          intro failed
          simp only [bind, Except.bind, pure, Except.pure, throw,
            throwThe, MonadExceptOf.throw] at failed
          split at failed
          · cases failed
          · split at failed
            · cases failed
            · split at failed
              · cases failed
              · cases failed

private theorem validateScopes_error {scopes : List String}
    {failure : IdentityStoreError}
    (refused : validateScopes scopes = .error failure) :
    failure = .invalidInput := by
  rw [validateScopes] at refused
  split at refused
  · exact (Except.error.inj refused).symm
  · split at refused
    · cases refused
    · exact (Except.error.inj refused).symm

/-- The prefix of service tokens is a valid one. -/
theorem exists_issueOpaqueToken (library : TokenLibrary)
    (random : FixedBytes 32) :
    ∃ token, issueOpaqueToken library serviceTokenPrefix random =
      .ok token := by
  rw [issueOpaqueToken, if_neg (by decide)]
  exact ⟨_, rfl⟩

/-- A call fails as the cast does if and only if it comes to the cast of a list
that is not cast. -/
theorem issueCredential_eq_castFailure_iff
    (validated : validateCidrs input.allowedCidrs = .ok ()) :
    ((issueCredential castCidr library credentialId random organizationId
      accountId input).call db).1 = .error castFailure ↔
      ReachesCast db organizationId accountId input ∧
        input.allowedCidrs.mapM castCidr = none := by
  obtain ⟨token, isToken⟩ := exists_issueOpaqueToken library random
  have cast := @execInsertCredential_eq_castFailure_iff castCidr db
    organizationId
    (IssueRecord.columns
      ⟨credentialId, token, organizationId, accountId, input⟩)
  rw [Program.call_eq, issueCredential, ReachesCast]
  cases scopes : validateScopes input.scopes with
  | error failure =>
      rw [validateScopes_error scopes]
      refine iff_of_false ?_ (by simp)
      intro failed
      cases failed
  | ok =>
      rw [eq_self, true_and]
      refine Iff.trans ?_ cast
      rw [validated, isToken]
      simp only [Program.ofExcept, Program.done_ok_bind, Except.mapError,
        query]
      cases answered : execInsertCredential castCidr organizationId
          (IssueRecord.columns
            ⟨credentialId, token, organizationId, accountId, input⟩) db with
      | error fault =>
          unfold IssueRecord.columns at answered
          rw [Program.eval_statement_bind_error answered, castFailure,
            Except.error.injEq, Except.error.injEq,
            IdentityStoreError.database.injEq]
      | ok answer =>
          unfold IssueRecord.columns at answered
          rw [Program.eval_statement_bind_ok answered]
          refine iff_of_false ?_ (by simp)
          intro failed
          cases one : answer.1 == 1 with
          | false =>
              rw [one] at failed
              cases failed
          | true =>
              rw [one] at failed
              cases failed

/-- Each element of a list that is cast is related to its cast. -/
theorem related_of_mapM {relation : String → Cidr → Prop}
    {cidrs : List String} {nets : List Cidr}
    (related : ∀ text ∈ cidrs, ∀ stored, castCidr text = some stored →
      relation text stored)
    (cast : cidrs.mapM castCidr = some nets) :
    List.Forall₂ relation cidrs nets := by
  induction cidrs generalizing nets with
  | nil =>
      cases cast
      exact .nil
  | cons text rest inductionHypothesis =>
      obtain ⟨net, later, isNet, isLater, rfl⟩ := mapM_cons_eq_some cast
      obtain ⟨first, others⟩ := List.forall_mem_cons.mp related
      exact .cons (first net isNet) (inductionHypothesis others isLater)

/-- What a call stores are the networks of its entries. -/
theorem issueCredential_stores (casts : CastsCidr castCidr isPlain)
    (validated : validateCidrs input.allowedCidrs = .ok ())
    {issued : IssuedServiceAccountCredential} {after : ServiceAccountDb}
    (accepted : (issueCredential castCidr library credentialId random
      organizationId accountId input).call db = (.ok issued, after)) :
    ∃ row, after.credentials.lookup issued.credentialId = some row ∧
      List.Forall₂ StoredExactly input.allowedCidrs row.allowedCidrs := by
  obtain ⟨stored, _⟩ := call_issueCredential_ok accepted
  obtain ⟨row, inserted, isRow, made, sameGrant⟩ := stored.row
  obtain ⟨nets, _, cast, _, rfl⟩ := CredentialColumns.row_eq_ok made
  refine ⟨row, isRow, ?_⟩
  rw [sameGrant]
  refine related_of_mapM ?_ cast
  intro text member net isNet
  obtain ⟨entry, length, isEntry⟩ := readEntry_of_validated validated member
  exact casts.storedExactly isEntry isNet

/-- A list that validation accepts is cast if and only if no entry has a host
bit or anything but digits for its length; a call does not fail on the list if
and only if it does not come to the cast or the list is so; and the networks
that a call stores are those of the entries. -/
theorem validatedCidrs_iff (casts : CastsCidr castCidr isPlain)
    (validated : validateCidrs input.allowedCidrs = .ok ()) :
    ((∀ text ∈ input.allowedCidrs, (castCidr text).isSome) ↔
      Storable isPlain input.allowedCidrs) ∧
    (((issueCredential castCidr library credentialId random organizationId
        accountId input).call db).1 ≠ .error castFailure ↔
      (ReachesCast db organizationId accountId input →
        Storable isPlain input.allowedCidrs)) ∧
    ∀ issued after, (issueCredential castCidr library credentialId random
        organizationId accountId input).call db = (.ok issued, after) →
      ∃ row, after.credentials.lookup issued.credentialId = some row ∧
        List.Forall₂ StoredExactly input.allowedCidrs row.allowedCidrs := by
  refine ⟨storable_iff casts validated, ?_, fun issued after accepted =>
    issueCredential_stores casts validated accepted⟩
  rw [Ne, issueCredential_eq_castFailure_iff validated, not_and,
    ← storable_iff casts validated, ← mapM_isSome_iff]
  refine imp_congr_right fun _ => ?_
  exact Option.isSome_iff_ne_none.symm

end Calls

namespace Sample

/-- How the database wants lengths: those of IPv6 without a leading zero. -/
def plainLength : Cidr → String → Bool
  | .v4 .., text => !text.isEmpty && text.toList.all Char.isDigit
  | .v6 .., text =>
      !text.isEmpty && text.toList.all Char.isDigit &&
        (text.toList.head? != some '0' || text == "0")

def castCidr (text : String) : Option Cidr :=
  match readEntry text with
  | some (net, length) =>
      if plainLength net length = true ∧ NoHostBits net then some net else none
  | none => none

private theorem castsCidr : CastsCidr castCidr plainLength where
  numeral := by
    intro net length bounded
    cases net with
    | v4 network size =>
        have plain : ∀ length < 129,
            plainLength (.v4 0 0) (toString length) = true := by
          decide
        exact plain length (Nat.lt_succ_of_le bounded)
    | v6 network size =>
        have plain : ∀ length < 129,
            plainLength (.v6 0 0) (toString length) = true := by
          decide
        exact plain length (Nat.lt_succ_of_le bounded)
  unsigned := by
    intro net text plain sign
    have digits : text.toList.all Char.isDigit = true := by
      cases net with
      | v4 network size => exact (Bool.and_eq_true_iff.mp plain).2
      | v6 network size =>
          have written := (Bool.and_eq_true_iff.mp plain).1
          exact (Bool.and_eq_true_iff.mp written).2
    exact absurd (List.all_eq_true.mp digits '+' sign) (by decide)
  cast := by
    intro text net length isEntry
    rw [castCidr, isEntry]

/-- A database with an active account. -/
def activeDb : ServiceAccountDb :=
  { start with
    accounts := Table.put ⟨⟨4⟩, ⟨1⟩, "collector", .active⟩ (.empty _) }

def hostBits : NewServiceAccountCredential :=
  { input with allowedCidrs := ["10.0.0.1/8"] }

end Sample

/-- A network with a host bit is accepted, and the call fails in the database. -/
theorem validatedCidrs_iff_hostBits :
    ¬Storable Sample.plainLength Sample.hostBits.allowedCidrs ∧
      ((issueCredential Sample.castCidr Sample.tokenLibrary ⟨6⟩
        (.replicate 32 1) ⟨1⟩ ⟨4⟩ Sample.hostBits).call Sample.activeDb).1 =
          .error castFailure := by
  have validated : validateCidrs Sample.hostBits.allowedCidrs = .ok () := by
    decide
  have both := @validatedCidrs_iff Sample.castCidr Sample.plainLength
    Sample.tokenLibrary Sample.activeDb ⟨6⟩ ⟨1⟩ ⟨4⟩ (.replicate 32 1)
    Sample.hostBits Sample.castsCidr validated
  have notStorable : ¬Storable Sample.plainLength
      Sample.hostBits.allowedCidrs := by
    intro storable
    have isCast := both.1.mpr storable "10.0.0.1/8" List.mem_cons_self
    exact absurd isCast (by decide)
  refine ⟨notStorable, ?_⟩
  by_contra noFailure
  have reaches : ReachesCast Sample.activeDb ⟨1⟩ ⟨4⟩ Sample.hostBits :=
    ⟨by decide, ⟨⟨4⟩, ⟨1⟩, "collector", .active⟩, by decide, rfl⟩
  exact notStorable (both.2.1.mp noFailure reaches)

/-- A network with a host bit is accepted, and not cast. -/
theorem not_cidrs_storable :
    ¬∀ cidrs, validateCidrs cidrs = .ok () →
      ∀ text ∈ cidrs, (Sample.castCidr text).isSome := by
  intro storable
  have validated : validateCidrs Sample.hostBits.allowedCidrs = .ok () := by
    decide
  have isCast := storable _ validated "10.0.0.1/8" List.mem_cons_self
  exact absurd isCast (by decide)

end NetworkManager.IdentityStore
