import NetworkManager.Foundation.Base64
import NetworkManager.IdentityStore.Histories

/-!
# Which tokens authenticate

A token authenticates if it was issued, its credential is neither revoked nor
expired, its account is active, and it is used from an allowed network.  It gets
the scopes of the credential that a role of the account holds.
-/

namespace NetworkManager.IdentityStore

open NetworkManager.Foundation
open NetworkManager.Security.Token
open NetworkManager.Transaction

variable {castCidr : String → Option Cidr} {library : TokenLibrary}
  {db after : ServiceAccountDb} {run : ServiceRun} {record : IssueRecord}
  {token : Bytes} {sourceIp : IpAddr} {now : Timestamp}

theorem Rbac.mem_accountPermissions {rbac : Rbac}
    {organizationId accountId : Uuid} {code : String} :
    code ∈ rbac.accountPermissions organizationId accountId ↔
      rbac.Bound organizationId accountId code := by
  simp only [Rbac.accountPermissions, List.mem_insertionSort, List.mem_dedup,
    List.mem_flatMap, List.mem_filter, List.mem_map, Rbac.Bound, Rbac.holds,
    List.any_eq_true, Bool.and_eq_true, decide_eq_true_eq]
  constructor
  · rintro ⟨granted, ⟨binding, ⟨member, sameOrganization, sameAccount⟩,
      isGranted, sameRole⟩, permission, ⟨isPermission, sameId⟩, sameCode⟩
    exact ⟨binding, member, sameOrganization, sameAccount, granted, isGranted,
      sameRole, permission, isPermission, sameId, sameCode⟩
  · rintro ⟨binding, member, sameOrganization, sameAccount, granted, isGranted,
      sameRole, permission, isPermission, sameId, sameCode⟩
    exact ⟨granted, ⟨binding, ⟨member, sameOrganization, sameAccount⟩,
      isGranted, sameRole⟩, permission, ⟨isPermission, sameId⟩, sameCode⟩

theorem mem_intersectPermissions {tokenScopes rbacPermissions : List String}
    {code : String} :
    code ∈ intersectPermissions tokenScopes rbacPermissions ↔
      code ∈ tokenScopes ∧ code ∈ rbacPermissions := by
  simp [intersectPermissions]

/-- The permissions are in order, and none of them is there twice. -/
theorem intersectPermissions_pairwise
    (tokenScopes rbacPermissions : List String) :
    (intersectPermissions tokenScopes rbacPermissions).Pairwise (· < ·) := by
  have sorted := List.pairwise_insertionSort (· ≤ ·)
    (tokenScopes.filter fun scope => rbacPermissions.contains scope).dedup
  have distinct :
      (intersectPermissions tokenScopes rbacPermissions).Nodup := by
    rw [intersectPermissions, (List.perm_insertionSort _ _).nodup_iff]
    exact List.nodup_dedup _
  exact sorted.imp₂ (fun _ _ below different => lt_of_le_of_ne below different)
    distinct

/-- The encoding of 32 bytes is 43 characters of one byte each. -/
def EncodesPlainly (library : TokenLibrary) : Prop :=
  ∀ bytes : FixedBytes 32,
    (library.base64Encode bytes.bytes).toList.length = 43 ∧
      ∀ character ∈ (library.base64Encode bytes.bytes).toList,
        character.utf8Size = 1

private theorem issueOpaqueToken_eq_ok {random : FixedBytes 32}
    {issued : IssuedOpaqueToken}
    (made : issueOpaqueToken library serviceTokenPrefix random = .ok issued) :
    issued.secret = "snm_sa" ++ "_" ++ library.base64Encode random.bytes ∧
      issued.visiblePrefix =
        String.ofList (issued.secret.toList.take visiblePrefixLength) ∧
      issued.hash = hashOpaqueToken library (utf8Bytes issued.secret) := by
  unfold issueOpaqueToken at made
  split at made
  · cases made
  · cases made
    exact ⟨rfl, rfl, rfl⟩

/-- An issued token is looked up by the prefix that was stored for it. -/
theorem lookupPrefix_issued {random : FixedBytes 32}
    {issued : IssuedOpaqueToken} (plain : EncodesPlainly library)
    (made : issueOpaqueToken library serviceTokenPrefix random = .ok issued) :
    lookupPrefix (utf8Bytes issued.secret) = some issued.visiblePrefix := by
  obtain ⟨isSecret, isPrefix, _⟩ := issueOpaqueToken_eq_ok made
  obtain ⟨encodedLength, encodedPlain⟩ := plain random
  have characters : issued.secret.toList =
      "snm_sa_".toList ++ (library.base64Encode random.bytes).toList := by
    rw [isSecret, String.toList_append, String.toList_append]
    rfl
  have plainCharacters : ∀ character ∈ issued.secret.toList,
      character.utf8Size = 1 := by
    intro character member
    rw [characters] at member
    rcases List.mem_append.mp member with fixed | encoded
    · have each : "snm_sa_".toList.all
          (fun fixed => decide (fixed.utf8Size = 1)) = true := by decide
      exact of_decide_eq_true (List.all_eq_true.mp each character fixed)
    · exact encodedPlain character encoded
  have length : issued.secret.toList.length = 50 := by
    rw [characters, List.length_append, encodedLength]
    rfl
  have size : issued.secret.utf8ByteSize = 50 := by
    have counted := Base64.utf8ByteSize_ofList plainCharacters
    rwa [String.ofList_toList, length] at counted
  have prefixSize : (String.ofList (issued.secret.toList.take
      visiblePrefixLength)).utf8ByteSize = visiblePrefixLength := by
    rw [Base64.utf8ByteSize_ofList fun character member =>
      plainCharacters character (List.mem_of_mem_take member),
      List.length_take, length]
    decide
  have isNamed : "snm_sa_".toList.isPrefixOf issued.secret.toList := by
    rw [characters, List.isPrefixOf_iff_prefix]
    exact List.prefix_append _ _
  rw [lookupPrefix, fromUtf8_eq_some_iff.mpr rfl, Option.bind_some,
    if_pos ⟨isNamed, by omega, prefixSize⟩, isPrefix]

/-- The hash of the row has the size of one and is that of the token. -/
def CandidateRow.accepts (library : TokenLibrary) (token : Bytes)
    (row : CandidateRow) : Bool :=
  (FixedBytes.tryFrom 32 row.credential.tokenHash).any fun expectedHash =>
    opaqueTokenMatches library token expectedHash

/-- What `authenticate` returns for a row. -/
def CandidateRow.principal (row : CandidateRow) : ServicePrincipal where
  serviceAccountId := row.credential.serviceAccountId
  credentialId := row.credential.id
  organizationId := row.organizationId
  effectivePermissions :=
    intersectPermissions row.credential.scopes row.rbacPermissions

private theorem call_acceptFirst {principal : ServicePrincipal}
    {rows : List CandidateRow}
    (sized : ∀ row ∈ rows, row.credential.tokenHash.length = 32) :
    ((acceptFirst castCidr library now token rows).call db).1 =
        .ok principal ↔
      ∃ row, rows.find? (CandidateRow.accepts library token) = some row ∧
        principal = row.principal := by
  induction rows with
  | nil =>
      constructor
      · intro accepted
        cases accepted
      · rintro ⟨row, found, _⟩
        cases found
  | cons row rest inductionHypothesis =>
      have later := inductionHypothesis fun other member =>
        sized other (List.mem_cons_of_mem row member)
      have isSized : FixedBytes.tryFrom 32 row.credential.tokenHash =
          some ⟨row.credential.tokenHash, sized row List.mem_cons_self⟩ :=
        dif_pos (sized row List.mem_cons_self)
      cases isMatch : opaqueTokenMatches library token
          ⟨row.credential.tokenHash, sized row List.mem_cons_self⟩ with
      | true =>
          have accepts : row.accepts library token = true := by
            rw [CandidateRow.accepts, isSized]
            exact isMatch
          have accepted : ((acceptFirst castCidr library now token
              (row :: rest)).call db).1 = .ok row.principal := by
            simp only [acceptFirst, isSized]
            rw [Program.call_eq]
            simp only [Program.ofExcept, Option.elim_some,
              Program.done_ok_bind, isMatch, if_true]
            rfl
          rw [accepted, List.find?_cons_of_pos accepts]
          simp [eq_comm]
      | false =>
          have refuses : row.accepts library token = false := by
            rw [CandidateRow.accepts, isSized]
            exact isMatch
          rw [List.find?_cons_of_neg (by simp [refuses]), ← later]
          simp only [acceptFirst, isSized, Program.ofExcept, Option.elim_some,
            Program.done_ok_bind, isMatch]
          rfl

theorem mem_execSelectCandidates {tokenPrefix : String} {row : CandidateRow} :
    row ∈ execSelectCandidates tokenPrefix sourceIp now db ↔
      row.credential ∈ db.credentials.rows ∧
        row.credential.tokenPrefix = tokenPrefix ∧
        row.credential.usable sourceIp now = true ∧
        ∃ account,
          db.accounts.lookup row.credential.serviceAccountId = some account ∧
          account.status = .active ∧
          row.organizationId = account.organizationId ∧
          row.rbacPermissions =
            db.rbac.accountPermissions account.organizationId account.id := by
  rw [execSelectCandidates, List.mem_filterMap]
  constructor
  · rintro ⟨credential, member, selected⟩
    split at selected
    · rename_i conditions
      obtain ⟨account, found, rfl⟩ := Option.map_eq_some_iff.mp selected
      obtain ⟨isAccount, active⟩ := Option.filter_eq_some_iff.mp found
      exact ⟨member, conditions.1, conditions.2, account, isAccount,
        of_decide_eq_true active, rfl, rfl⟩
    · cases selected
  · rintro ⟨member, samePrefix, usable, account, isAccount, active,
      sameOrganization, permissions⟩
    refine ⟨row.credential, member, ?_⟩
    have isActive : (some account).filter (fun account =>
        account.status = .active) = some account := by
      simp [Option.filter, active]
    rw [if_pos ⟨samePrefix, usable⟩, isAccount, isActive, Option.map_some,
      ← permissions, ← sameOrganization]

/-- The hash of every credential has the size of one. -/
def HashesSized (db : ServiceAccountDb) : Prop :=
  ∀ row ∈ db.credentials.rows, row.tokenHash.length = 32

theorem call_authenticate {principal : ServicePrincipal}
    (sized : HashesSized db) :
    ((authenticate castCidr library now token sourceIp).call db).1 =
        .ok principal ↔
      ∃ visiblePrefix row, lookupPrefix token = some visiblePrefix ∧
        (execSelectCandidates visiblePrefix sourceIp now db).find?
          (CandidateRow.accepts library token) = some row ∧
        principal = row.principal := by
  cases isPrefix : lookupPrefix token with
  | none =>
      constructor
      · intro accepted
        rw [authenticate, isPrefix] at accepted
        cases accepted
      · rintro ⟨_, _, found, _⟩
        cases found
  | some visiblePrefix =>
      have candidatesSized : ∀ row ∈
          execSelectCandidates visiblePrefix sourceIp now db,
          row.credential.tokenHash.length = 32 := fun row member =>
        sized row.credential (mem_execSelectCandidates.mp member).1
      have isLoop :
          (authenticate castCidr library now token sourceIp).call db =
            (acceptFirst castCidr library now token
              (execSelectCandidates visiblePrefix sourceIp now db)).call db := by
        rw [authenticate, isPrefix]
        rfl
      rw [isLoop, call_acceptFirst candidatesSized]
      simp

/-- The terms on which a credential was issued allow its use at a time, from an
address. -/
structure IssueRecord.Permits (castCidr : String → Option Cidr)
    (now : Timestamp) (sourceIp : IpAddr) (record : IssueRecord) : Prop where
  unexpired : ∀ seconds, record.input.expiresAtUnixSeconds = some seconds →
    now < 1000000 * seconds
  allowed : record.input.allowedCidrs = [] ∨
    ∃ text ∈ record.input.allowedCidrs, ∃ cidr, castCidr text = some cidr ∧
      cidr.contains sourceIp = true

/-- The principal is the account of the record, with the scopes of the
credential that the account holds, in order and each of them once. -/
structure IssueRecord.Grants (holds : Uuid → Uuid → String → Prop)
    (record : IssueRecord) (principal : ServicePrincipal) : Prop where
  account : principal.serviceAccountId = record.accountId
  credential : principal.credentialId = record.credentialId
  organization : principal.organizationId = record.organizationId
  sorted : principal.effectivePermissions.Pairwise (· < ·)
  permissions : ∀ code, code ∈ principal.effectivePermissions ↔
    code ∈ record.input.scopes ∧
      holds record.organizationId record.accountId code

private theorem toTimestamp_eq_ok {seconds : Int} {timestamp : Timestamp}
    (converted : toTimestamp seconds = .ok timestamp) :
    timestamp = 1000000 * seconds := by
  unfold toTimestamp at converted
  split at converted
  · exact (Except.ok.inj converted).symm
  · cases converted

private theorem unexpired_iff
    {expiry : Option Int} {expiresAt : Option Timestamp}
    (converted : expiry.mapM toTimestamp = .ok expiresAt) :
    (expiresAt.all fun expiresAt => decide (now < expiresAt)) = true ↔
      ∀ seconds, expiry = some seconds → now < 1000000 * seconds := by
  cases expiry with
  | none =>
      cases converted
      simp
  | some seconds =>
      cases timestamp : toTimestamp seconds with
      | error failure =>
          rw [Option.mapM_some, timestamp] at converted
          cases converted
      | ok value =>
          rw [Option.mapM_some, timestamp] at converted
          cases converted
          simp [toTimestamp_eq_ok timestamp]

/-- A list is converted element by element. -/
theorem mapM_cons_eq_some {text : String} {rest : List String}
    {cidrs : List Cidr} (cast : (text :: rest).mapM castCidr = some cidrs) :
    ∃ cidr later, castCidr text = some cidr ∧
      rest.mapM castCidr = some later ∧ cidrs = cidr :: later := by
  rw [List.mapM_cons] at cast
  simp only [bind, pure, Option.bind_eq_some_iff] at cast
  obtain ⟨cidr, isCidr, later, isLater, same⟩ := cast
  exact ⟨cidr, later, isCidr, isLater, (Option.some.inj same).symm⟩

private theorem any_contains_iff {texts : List String} {cidrs : List Cidr}
    (cast : texts.mapM castCidr = some cidrs) :
    (cidrs.any fun cidr => cidr.contains sourceIp) = true ↔
      ∃ text ∈ texts, ∃ cidr, castCidr text = some cidr ∧
        cidr.contains sourceIp = true := by
  induction texts generalizing cidrs with
  | nil =>
      cases cast
      simp
  | cons text rest inductionHypothesis =>
      obtain ⟨cidr, later, isCidr, isLater, rfl⟩ := mapM_cons_eq_some cast
      rw [List.any_cons, Bool.or_eq_true, inductionHypothesis isLater]
      simp [isCidr]

private theorem allowed_iff {texts : List String} {cidrs : List Cidr}
    (cast : texts.mapM castCidr = some cidrs) :
    (cidrs.isEmpty || cidrs.any fun cidr => cidr.contains sourceIp) = true ↔
      texts = [] ∨ ∃ text ∈ texts, ∃ cidr, castCidr text = some cidr ∧
        cidr.contains sourceIp = true := by
  rw [Bool.or_eq_true, any_contains_iff cast]
  apply or_congr_left
  cases texts with
  | nil =>
      cases cast
      simp
  | cons text rest =>
      obtain ⟨cidr, later, _, _, rfl⟩ := mapM_cons_eq_some cast
      simp

/-- The row of a record is usable under the terms that it was issued on. -/
theorem usable_iff {row inserted : CredentialRow}
    (isInserted : record.columns.row castCidr = .ok inserted)
    (sameGrant : row.SameGrant inserted) :
    row.usable sourceIp now = true ↔
      row.revokedAt = none ∧ record.Permits castCidr now sourceIp := by
  obtain ⟨allowedCidrs, expiresAt, cast, converted, rfl⟩ :=
    CredentialColumns.row_eq_ok isInserted
  have sameExpiry : row.expiresAt = expiresAt := by rw [sameGrant]
  have sameCidrs : row.allowedCidrs = allowedCidrs := by rw [sameGrant]
  rw [CredentialRow.usable, Bool.and_eq_true, Bool.and_eq_true, sameExpiry,
    sameCidrs, unexpired_iff converted, allowed_iff cast,
    Option.isNone_iff_eq_none, and_assoc]
  apply and_congr_right
  intro _
  exact ⟨fun ⟨unexpired, allowed⟩ => ⟨unexpired, allowed⟩,
    fun ⟨unexpired, allowed⟩ => ⟨unexpired, allowed⟩⟩

/-! ## Authentication in a state of a run -/

/-- No two hashes that are compared are equal without being of one token. -/
structure CollisionFree (library : TokenLibrary) (token : Bytes)
    (issued : List IssueRecord) : Prop where
  codes : ∀ record ∈ issued,
    opaqueTokenMatches library token record.token.hash = true →
      hashOpaqueToken library token = record.token.hash
  hashes : ∀ record ∈ issued,
    hashOpaqueToken library token = record.token.hash →
      token = utf8Bytes record.token.secret
  distinct : ∀ first ∈ issued, ∀ second ∈ issued,
    first.token.hash = second.token.hash → first = second

private theorem IssueRecord.Grants.unique {holds : Uuid → Uuid → String → Prop}
    {first second : ServicePrincipal} (left : record.Grants holds first)
    (right : record.Grants holds second) :
    first = second := by
  have samePermissions :
      first.effectivePermissions = second.effectivePermissions :=
    left.sorted.eq_of_mem_iff right.sorted fun code =>
      (left.permissions code).trans (right.permissions code).symm
  cases first
  cases second
  simp only [ServicePrincipal.mk.injEq]
  exact ⟨left.account.trans right.account.symm,
    left.credential.trans right.credential.symm,
    left.organization.trans right.organization.symm, samePermissions⟩

private theorem IssueRecord.Stored.hash_eq
    (stored : record.Stored castCidr library db) :
    record.token.hash =
      hashOpaqueToken library (utf8Bytes record.token.secret) := by
  obtain ⟨random, made⟩ := stored.token
  exact (issueOpaqueToken_eq_ok made).2.2

private theorem accepts_iff {row : CandidateRow}
    (stored : record.Stored castCidr library run.db)
    (member : record ∈ run.issued)
    (collisionFree : CollisionFree library token run.issued)
    (sameHash : row.credential.tokenHash = record.token.hash.bytes) :
    row.accepts library token = true ↔
      utf8Bytes record.token.secret = token := by
  rw [CandidateRow.accepts, sameHash, FixedBytes.tryFrom_bytes,
    Option.any_some]
  constructor
  · intro isMatch
    exact (collisionFree.hashes record member
      (collisionFree.codes record member isMatch)).symm
  · rintro rfl
    rw [stored.hash_eq]
    exact decide_eq_true rfl

private theorem hashesSized_of_recorded
    (recorded : Recorded castCidr library run) :
    HashesSized run.db := by
  intro row member
  have found := Table.lookup_of_mem member
  obtain ⟨record, isRecord, sameId⟩ :=
    recorded.known row.id (Option.isSome_of_eq_some found)
  rw [← sameId] at found
  obtain ⟨_, _, _, sameHash, _⟩ :=
    (recorded.stored record isRecord).columns_of_lookup found
  rw [sameHash]
  exact record.token.hash.sized

/-- A candidate whose hash is that of the token is the row of a record that has
not ended, which grants what is returned for the candidate. -/
theorem record_of_candidate {visiblePrefix : String} {row : CandidateRow}
    (recorded : Recorded castCidr library run)
    (collisionFree : CollisionFree library token run.issued)
    (isCandidate : row ∈
      execSelectCandidates visiblePrefix sourceIp run.clock run.db)
    (accepts : row.accepts library token = true) :
    ∃ record ∈ run.issued, utf8Bytes record.token.secret = token ∧
      ¬ record.Ended run.db ∧ record.Permits castCidr run.clock sourceIp ∧
      record.Grants run.db.rbac.Bound row.principal := by
  obtain ⟨member, _, usable, account, isAccount, active, sameOrganization,
    permissions⟩ := mem_execSelectCandidates.mp isCandidate
  have found := Table.lookup_of_mem member
  obtain ⟨record, isRecord, sameId⟩ :=
    recorded.known row.credential.id (Option.isSome_of_eq_some found)
  have stored := recorded.stored record isRecord
  rw [← sameId] at found
  obtain ⟨inserted, isInserted, sameGrant, sameHash, _, sameAccount,
    sameScopes⟩ := stored.columns_of_lookup found
  obtain ⟨unrevoked, permits⟩ := (usable_iff isInserted sameGrant).mp usable
  rw [sameAccount] at isAccount
  have isId : account.id = record.accountId := Table.key_of_lookup isAccount
  have isOrganization : account.organizationId = record.organizationId := by
    obtain ⟨owner, isOwner, owned⟩ := stored.account
    rw [isAccount, Option.some.injEq] at isOwner
    rw [isOwner]
    exact owned
  refine ⟨record, isRecord,
    (accepts_iff stored isRecord collisionFree sameHash).mp accepts,
    (not_ended_iff found isAccount).mpr ⟨unrevoked, active⟩, permits,
    ⟨sameAccount, sameId.symm, sameOrganization.trans isOrganization,
      intersectPermissions_pairwise _ _, ?_⟩⟩
  intro code
  rw [CandidateRow.principal, mem_intersectPermissions, sameScopes,
    permissions, Rbac.mem_accountPermissions, isId, isOrganization]

/-- The row of a record that has not ended is a candidate for its token, on the
terms of the record. -/
theorem candidate_of_permits (recorded : Recorded castCidr library run)
    (plain : EncodesPlainly library)
    (collisionFree : CollisionFree library token run.issued)
    (member : record ∈ run.issued)
    (isToken : utf8Bytes record.token.secret = token)
    (inUse : ¬ record.Ended run.db)
    (permits : record.Permits castCidr run.clock sourceIp) :
    ∃ visiblePrefix row, lookupPrefix token = some visiblePrefix ∧
      row ∈ execSelectCandidates visiblePrefix sourceIp run.clock run.db ∧
      row.accepts library token = true := by
  have stored := recorded.stored record member
  obtain ⟨random, made⟩ := stored.token
  obtain ⟨row, _, found, _⟩ := stored.row
  obtain ⟨account, isAccount, _⟩ := stored.account
  obtain ⟨unrevoked, active⟩ := (not_ended_iff found isAccount).mp inUse
  let candidate : CandidateRow :=
    ⟨row, account.organizationId,
      run.db.rbac.accountPermissions account.organizationId account.id⟩
  obtain ⟨inserted, isInserted, sameGrant, sameHash, samePrefix, sameAccount,
    _⟩ := stored.columns_of_lookup found
  refine ⟨record.token.visiblePrefix, candidate,
    isToken ▸ lookupPrefix_issued plain made, ?_,
    (accepts_iff stored member collisionFree sameHash).mpr isToken⟩
  apply mem_execSelectCandidates.mpr
  exact ⟨Table.mem_of_lookup found, samePrefix,
    (usable_iff isInserted sameGrant).mpr ⟨unrevoked, permits⟩,
    account, sameAccount.symm ▸ isAccount, active, rfl, rfl⟩

private theorem authenticate_iff {principal : ServicePrincipal}
    (recorded : Recorded castCidr library run)
    (plain : EncodesPlainly library)
    (collisionFree : CollisionFree library token run.issued) :
    ((authenticate castCidr library run.clock token sourceIp).call run.db).1 =
        .ok principal ↔
      ∃ record ∈ run.issued, utf8Bytes record.token.secret = token ∧
        ¬ record.Ended run.db ∧ record.Permits castCidr run.clock sourceIp ∧
        record.Grants run.db.rbac.Bound principal := by
  rw [call_authenticate (hashesSized_of_recorded recorded)]
  constructor
  · rintro ⟨visiblePrefix, row, _, found, rfl⟩
    exact record_of_candidate recorded collisionFree
      (List.mem_of_find?_eq_some found) (List.find?_some found)
  · rintro ⟨record, member, isToken, inUse, permits, grants⟩
    obtain ⟨visiblePrefix, row, isPrefix, isCandidate, accepts⟩ :=
      candidate_of_permits recorded plain collisionFree member isToken inUse
        permits
    cases found : (execSelectCandidates visiblePrefix sourceIp run.clock
        run.db).find? (CandidateRow.accepts library token) with
    | none => exact absurd accepts (List.find?_eq_none.mp found row isCandidate)
    | some first =>
        obtain ⟨other, isOther, sameToken, _, _, granted⟩ :=
          record_of_candidate recorded collisionFree
            (List.mem_of_find?_eq_some found) (List.find?_some found)
        have sameHash : other.token.hash = record.token.hash := by
          rw [(recorded.stored other isOther).hash_eq,
            (recorded.stored record member).hash_eq, sameToken, isToken]
        obtain rfl := collisionFree.distinct other isOther record member sameHash
        exact ⟨visiblePrefix, first, isPrefix, found, grants.unique granted⟩

/-- What the calls of a run say of a token: it authenticates exactly if it is
that of a credential that is alive, on the terms that this was issued on, and
with the permissions that its account was given.  Once a call has ended the
credential the token does not authenticate again, whatever fails. -/
structure AuthenticatesRecords (castCidr : String → Option Cidr)
    (library : TokenLibrary) (start : ServiceRun) (events : List ServiceEvent)
    (token : Bytes) (sourceIp : IpAddr) : Prop where
  exactly : ∀ principal,
    ((start.after castCidr library events).outcome castCidr library
        (.authenticate token sourceIp) []).1 = .ok principal ↔
      ∃ record : IssueRecord, utf8Bytes record.token.secret = token ∧
        record.Alive castCidr library start events ∧
        record.Permits castCidr (start.after castCidr library events).clock
          sourceIp ∧
        record.Grants (start.Holds castCidr library events) principal
  never : ∀ (record : IssueRecord) issued ended call result,
    utf8Bytes record.token.secret = token →
    record.IssuedAt castCidr library start events issued → issued < ended →
    start.ReturnsAt castCidr library events ended call result →
    call.Ends record → ∀ faults principal,
      ((start.after castCidr library events).outcome castCidr library
        (.authenticate token sourceIp) faults).1 ≠ .ok principal

theorem run_authenticates {start : ServiceAccountDb}
    (plain : EncodesPlainly library) (noCredential : start.credentials.rows = [])
    (clock : Timestamp) (events : List ServiceEvent) (token : Bytes)
    (sourceIp : IpAddr)
    (collisionFree : CollisionFree library token
      ((ServiceRun.initial start clock).after castCidr library events).issued) :
    AuthenticatesRecords castCidr library (.initial start clock) events token
      sourceIp := by
  have recorded : Recorded castCidr library (.initial start clock) :=
    recorded_initial clock noCredential
  have recordedLater := recorded_after recorded events
  have bound : ((ServiceRun.initial start clock).after castCidr library
      events).db.rbac.Bound =
        (ServiceRun.initial start clock).Holds castCidr library events := by
    funext organizationId accountId code
    exact propext bound_iff
  constructor
  · intro principal
    refine (authenticate_iff recordedLater plain collisionFree).trans
      (exists_congr fun record => ?_)
    rw [alive_iff recorded rfl, bound]
    tauto
  · intro record issued ended call result isToken isIssued later returns ends
      faults principal accepted
    have isRecord := (mem_issued_iff rfl).mpr ⟨issued, isIssued⟩
    obtain ⟨other, isOther, sameToken, inUse, _⟩ :=
      (authenticate_iff recordedLater plain collisionFree).mp
        (congrArg Prod.fst (Program.callFaulty_ok (Prod.ext accepted rfl)))
    have sameHash : other.token.hash = record.token.hash := by
      rw [(recordedLater.stored other isOther).hash_eq,
        (recordedLater.stored record isRecord).hash_eq, sameToken, isToken]
    obtain rfl := collisionFree.distinct other isOther record isRecord sameHash
    exact inUse (ended_of_returnsAt recorded rfl isIssued later returns ends)

namespace Sample

/-- The token of the first credential, with its SHA-256 digest and the code of
that digest. -/
def firstToken : String :=
  "snm_sa_AQEBAQEBAQEBAQEBAQEBAQEBAQEBAQEBAQEBAQEBAQE"

def firstHash : FixedBytes 32 :=
  ⟨[83, 65, 242, 82, 231, 180, 44, 117, 175, 107, 244, 119, 8, 148,
    87, 102, 105, 152, 246, 234, 16, 112, 205, 227, 11, 109, 172,
    13, 23, 88, 169, 61], by decide⟩

def firstCode : FixedBytes 32 :=
  ⟨[62, 56, 89, 103, 174, 134, 118, 251, 209, 36, 91, 152, 201, 83,
    198, 174, 75, 158, 250, 211, 112, 29, 40, 237, 74, 73, 122,
    179, 252, 235, 158, 160], by decide⟩

def secondToken : String :=
  "snm_sa_AgICAgICAgICAgICAgICAgICAgICAgICAgICAgICAgI"

def secondHash : FixedBytes 32 :=
  ⟨[58, 200, 24, 198, 117, 59, 137, 91, 22, 212, 25, 168, 247, 135,
    115, 130, 167, 236, 226, 14, 99, 114, 11, 86, 48, 209, 247,
    206, 132, 171, 132, 145], by decide⟩

def secondCode : FixedBytes 32 :=
  ⟨[154, 124, 33, 195, 217, 194, 80, 130, 65, 105, 88, 62, 42, 56,
    191, 113, 245, 41, 53, 165, 233, 69, 127, 53, 255, 221, 235,
    146, 76, 97, 164, 157], by decide⟩

/-- The functions of the library on the tokens of the run. -/
def tokenLibrary : TokenLibrary where
  base64Encode := Base64.encode
  base64Decode := Base64.decode
  hmacSha256 _ message :=
    if message = firstHash.bytes then firstCode
    else if message = secondHash.bytes then secondCode
    else .replicate 32 0
  sha256 bytes :=
    if bytes = utf8Bytes firstToken then firstHash
    else if bytes = utf8Bytes secondToken then secondHash
    else .replicate 32 0
  headerToVec _ := none
  headerFromSlice _ := none
  claimsToVec _ := none
  claimsFromSlice _ := none

def readCidr (text : String) : Option Cidr :=
  if text = "10.0.0.0/8" then some (.v4 0x0A000000 8) else none

def start : ServiceAccountDb where
  organizations := [⟨1⟩]
  accounts := .empty _
  credentials := .empty _
  rbac :=
    { sites := .empty _
      roles := Table.put ⟨⟨2⟩, some ⟨1⟩⟩ (.empty _)
      permissions := Table.put ⟨⟨3⟩, "devices.view"⟩ (.empty _)
      rolePermissions := [⟨⟨2⟩, ⟨3⟩⟩]
      roleBindings := .empty _ }

def input : NewServiceAccountCredential where
  scopes := ["devices.view", "audit.view"]
  allowedCidrs := ["10.0.0.0/8"]
  expiresAtUnixSeconds := some 3600

/-- Two credentials are issued, and the second one is revoked. -/
def events : List ServiceEvent :=
  [.call (.createAccount ⟨4⟩ ⟨1⟩ "collector") [],
    .call (.bindRole ⟨5⟩ ⟨1⟩ ⟨4⟩ ⟨2⟩ none) [],
    .call (.issueCredential ⟨6⟩ (.replicate 32 1) ⟨1⟩ ⟨4⟩ input) [],
    .call (.issueCredential ⟨7⟩ (.replicate 32 2) ⟨1⟩ ⟨4⟩ input) [],
    .advance 1000000,
    .call (.revokeCredential ⟨1⟩ ⟨4⟩ ⟨7⟩) []]

def records : List IssueRecord :=
  [⟨⟨6⟩, ⟨firstToken, "snm_sa_AQEBAQEB", firstHash⟩, ⟨1⟩, ⟨4⟩, input⟩,
    ⟨⟨7⟩, ⟨secondToken, "snm_sa_AgICAgIC", secondHash⟩, ⟨1⟩, ⟨4⟩, input⟩]

private theorem issued_events :
    ((ServiceRun.initial start 0).after readCidr tokenLibrary events).issued =
      records := by
  decide

private theorem encodesPlainly : EncodesPlainly tokenLibrary := by
  intro bytes
  constructor
  · have length := Base64.length_encodeValues bytes.bytes
    rw [bytes.sized] at length
    simpa [tokenLibrary, Base64.encode] using length
  · intro character member
    have encoded : character ∈ (Base64.encode bytes.bytes).toList := member
    rw [Base64.encode, String.toList_ofList] at encoded
    rcases List.mem_map.mp encoded with ⟨value, _, rfl⟩
    exact (Base64.digit_plain value).2

private theorem collisionFree :
    CollisionFree tokenLibrary (utf8Bytes secondToken) records where
  codes := by decide
  hashes := by decide
  distinct := by decide

/-- The token of the revoked credential does not authenticate. -/
theorem run_authenticates_revoked : AuthenticatesRecords readCidr tokenLibrary
    (.initial start 0) events (utf8Bytes secondToken) (.v4 0x0A000001) :=
  run_authenticates encodesPlainly rfl 0 events (utf8Bytes secondToken)
    (.v4 0x0A000001) (issued_events ▸ collisionFree)

example : (((ServiceRun.initial start 0).after readCidr tokenLibrary
    events).outcome readCidr tokenLibrary
      (.authenticate (utf8Bytes firstToken) (.v4 0x0A000001)) []).1 =
    .ok ⟨⟨4⟩, ⟨6⟩, ⟨1⟩, ["devices.view"]⟩ := by
  decide

end Sample

end NetworkManager.IdentityStore
