import NetworkManager.AuditStore.Chain
import NetworkManager.Foundation.AppendOnly

/-!
# Tampered chains

What the verification accepts is determined by the last hash.  The strings that
are hashed carry no mark between the previous hash and the payload, and none
for a missing previous hash; the payloads tell them apart, since an event is
written with the identifier of its organization first.  The byte at position 32
of such a payload is a hyphen of the identifier, where a payload behind a
previous hash has its opening brace.
-/

namespace NetworkManager.AuditStore

open NetworkManager.Foundation
open NetworkManager.Foundation.HashChain
open NetworkManager.Security
open NetworkManager.Transaction

/-- What is hashed for a payload. -/
def eventMessage (previousHash : Option (FixedBytes 32))
    (canonicalPayload : Bytes) : Bytes :=
  auditDomain ++ (previousHash.elim [] FixedBytes.bytes ++ canonicalPayload)

/-- The strings that the verification of a row hashes: the one for the stored
payload, and the one for the event that is read from it. -/
def hashedFor (library : AuditLibrary) (row : ChainRow) : List Bytes :=
  match optionalFixed row.columns.previousHash with
  | .error _ => []
  | .ok previousHash =>
      eventMessage previousHash row.columns.canonicalPayload ::
        ((library.fromSlice row.columns.canonicalPayload).bind fun event =>
          (library.toVec event.sanitize).map
            (eventMessage previousHash)).toList

/-- SHA-256 has no collision among the strings hashed for some rows. -/
def NoCollision (library : AuditLibrary) (rows : List ChainRow) : Prop :=
  ∀ first ∈ rows.flatMap (hashedFor library),
    ∀ second ∈ rows.flatMap (hashedFor library),
      library.sha256 first = library.sha256 second → first = second

/-- `serde_json::to_vec` writes the organization of an event first. -/
def WritesOrganizationFirst (library : AuditLibrary) : Prop :=
  ∀ event payload, library.toVec event = some payload →
    ∃ rest, payload =
      utf8Bytes ("\x7b\"organizationId\":\"" ++ event.organizationId.text) ++
        rest

/-- The payload begins as that of an event. -/
def OrganizationFirst (payload : Bytes) : Prop :=
  ∃ (organizationId : Uuid) (rest : Bytes), payload =
    utf8Bytes ("\x7b\"organizationId\":\"" ++ organizationId.text) ++ rest

private theorem OrganizationFirst.bytes {payload : Bytes}
    (isFirst : OrganizationFirst payload) :
    payload[0]? = some 123 ∧ payload[32]? = some 45 := by
  obtain ⟨organizationId, rest, rfl⟩ := isFirst
  have opening : utf8Bytes "\x7b\"organizationId\":\"" =
      [123, 34, 111, 114, 103, 97, 110, 105, 122, 97, 116, 105, 111, 110, 73,
        100, 34, 58, 34] := by
    decide
  have identifier : utf8Bytes organizationId.text =
      organizationId.characters.map fun character => character.val.toUInt8 :=
    utf8Bytes_ofList_of_ascii organizationId.characters_ascii
  have hyphen := organizationId.getElem?_characters_thirteen
  have long := organizationId.length_characters
  rw [utf8Bytes_append, opening, identifier, List.append_assoc]
  constructor
  · rfl
  · rw [List.getElem?_append_right (by simp)]
    rw [List.getElem?_append_left (by simp [long])]
    simp only [List.length_cons, List.length_nil, List.getElem?_map, hyphen,
      Option.map_some]
    rfl

/-- The previous hash and the payload can be read off what is hashed. -/
theorem eventMessage_injective {before after : Option (FixedBytes 32)}
    {first second : Bytes} (firstFormat : OrganizationFirst first)
    (secondFormat : OrganizationFirst second)
    (same : eventMessage before first = eventMessage after second) :
    before = after ∧ first = second := by
  have tails := List.append_cancel_left same
  -- A payload of 32 bytes of hash and more, read as if there were no hash.
  have absurdly : ∀ (hash : FixedBytes 32) (whole rest : Bytes),
      OrganizationFirst whole → OrganizationFirst rest →
      whole ≠ hash.bytes ++ rest := by
    intro hash whole rest wholeFormat restFormat split
    have atHyphen := wholeFormat.bytes.2
    have atBrace := restFormat.bytes.1
    rw [split, List.getElem?_append_right (by simp [hash.sized])] at atHyphen
    simp only [hash.sized, Nat.sub_self, atBrace] at atHyphen
    cases atHyphen
  cases before with
  | none =>
      cases after with
      | none => exact ⟨rfl, tails⟩
      | some hash => exact absurd tails (absurdly hash _ _ firstFormat secondFormat)
  | some left =>
      cases after with
      | none =>
          exact absurd tails.symm (absurdly left _ _ secondFormat firstFormat)
      | some right =>
          rcases List.append_inj tails (left.sized.trans right.sized.symm) with
            ⟨sameHash, samePayload⟩
          exact ⟨congrArg some (FixedBytes.ext sameHash), samePayload⟩

section Verified

variable {library : AuditLibrary}

/-- The payloads of some rows. -/
def payloads (rows : List ChainRow) : List Bytes :=
  rows.map fun row => row.columns.canonicalPayload

private theorem snd_advance
    (position : Int × Option (FixedBytes 32)) (row : ChainRow) :
    (advance library position row).2 =
      some (library.sha256
        (eventMessage position.2 row.columns.canonicalPayload)) :=
  rfl

private theorem foldl_advance_eq_head (rows : List ChainRow)
    (position : Int × Option (FixedBytes 32)) :
    (rows.foldl (advance library) position).2 =
      head eventMessage library.sha256 position.2 (payloads rows) := by
  induction rows generalizing position with
  | nil => rfl
  | cons row rest inductionHypothesis =>
      rw [List.foldl_cons, inductionHypothesis, snd_advance]
      rfl

/-- The hash of the last row is the head of the chain. -/
theorem Linked.getLast?_eventHash {rows : List ChainRow}
    (linked : Linked library (1, none) rows) :
    rows.getLast?.map (fun row => row.columns.eventHash) =
      (head eventMessage library.sha256 none (payloads rows)).map
        FixedBytes.bytes := by
  induction rows using List.reverseRecOn with
  | nil => rfl
  | append_singleton rest last _ =>
      have fits := ((linked_append (1, none) last rest).mp linked).2
      have isPayloads : payloads (rest ++ [last]) =
          payloads rest ++ [last.columns.canonicalPayload] := by
        simp [payloads]
      rw [isPayloads, head_append_singleton, List.getLast?_append,
        List.getLast?_singleton, Option.some_or, Option.map_some,
        Option.map_some, fits.eventHash, foldl_advance_eq_head]
      rfl

private theorem Linked.hashedFor_eq {row : ChainRow}
    {position : Int × Option (FixedBytes 32)}
    (fits : Fits library position row) :
    hashedFor library row =
      eventMessage position.2 row.columns.canonicalPayload ::
        ((library.fromSlice row.columns.canonicalPayload).bind fun event =>
          (library.toVec event.sanitize).map
            (eventMessage position.2)).toList := by
  rw [hashedFor, fits.previousHash, optionalFixed_map_bytes]

/-- The strings hashed along the chain are among those of the rows. -/
theorem Linked.messages_subset {rows : List ChainRow}
    {position : Int × Option (FixedBytes 32)}
    (linked : Linked library position rows) :
    messages eventMessage library.sha256 position.2 (payloads rows) ⊆
      rows.flatMap (hashedFor library) := by
  induction rows generalizing position with
  | nil => exact List.nil_subset _
  | cons row rest inductionHypothesis =>
      intro message member
      rw [List.flatMap_cons, List.mem_append]
      rcases List.mem_cons.mp member with rfl | later
      · left
        rw [Linked.hashedFor_eq linked.1]
        exact List.mem_cons_self ..
      · exact Or.inr (inductionHypothesis linked.2 later)

/-- Where no strings collide, a payload that passes is what an event is written
as. -/
theorem Reseals.organizationFirst {row : ChainRow}
    {position : Int × Option (FixedBytes 32)}
    (writes : WritesOrganizationFirst library)
    (fits : Fits library position row)
    (reseals : Reseals library position.2 row.columns.canonicalPayload)
    (noCollision : ∀ first ∈ hashedFor library row,
      ∀ second ∈ hashedFor library row,
        library.sha256 first = library.sha256 second → first = second) :
    OrganizationFirst row.columns.canonicalPayload := by
  obtain ⟨event, encoded, parsed, encodes, sameHash⟩ := reseals
  rw [Linked.hashedFor_eq fits] at noCollision
  have sameMessage := noCollision
    (eventMessage position.2 encoded) (by simp [parsed, encodes])
    (eventMessage position.2 row.columns.canonicalPayload) (by simp) sameHash
  have samePayload : encoded = row.columns.canonicalPayload :=
    List.append_cancel_left (List.append_cancel_left sameMessage)
  obtain ⟨rest, format⟩ := writes event.sanitize encoded encodes
  exact ⟨event.sanitize.organizationId, rest, samePayload ▸ format⟩

private theorem Verified.organizationFirst {rows : List ChainRow}
    {position : Int × Option (FixedBytes 32)}
    (writes : WritesOrganizationFirst library)
    (noCollision : NoCollision library rows)
    (verified : Verified library position rows) :
    ∀ payload ∈ payloads rows, OrganizationFirst payload := by
  induction rows generalizing position with
  | nil =>
      intro payload member
      cases member
  | cons row rest inductionHypothesis =>
      intro payload member
      rcases List.mem_cons.mp member with rfl | later
      · apply Reseals.organizationFirst writes verified.1 verified.2.1
        intro first isFirst second isSecond
        exact noCollision first (by simp [isFirst]) second (by simp [isSecond])
      · apply inductionHypothesis _ verified.2.2 payload later
        intro first isFirst second isSecond
        refine noCollision first ?_ second ?_
        · rw [List.flatMap_cons]
          exact List.mem_append_right _ isFirst
        · rw [List.flatMap_cons]
          exact List.mem_append_right _ isSecond

/-- The columns of a row are determined by its position and its payload. -/
theorem Fits.columns_eq {first second : ChainRow}
    {position : Int × Option (FixedBytes 32)}
    (firstFits : Fits library position first)
    (secondFits : Fits library position second)
    (samePayload :
      first.columns.canonicalPayload = second.columns.canonicalPayload) :
    first.columns = second.columns := by
  obtain ⟨_, chainSequence, payload, previousHash, eventHash⟩ := first
  obtain ⟨_, otherSequence, otherPayload, otherPrevious, otherHash⟩ := second
  have sameSequence : chainSequence = otherSequence :=
    firstFits.chainSequence.trans secondFits.chainSequence.symm
  have samePrevious : previousHash = otherPrevious :=
    firstFits.previousHash.trans secondFits.previousHash.symm
  have bothPayloads : payload = otherPayload := samePayload
  subst bothPayloads
  have sameHash : eventHash = otherHash :=
    firstFits.eventHash.trans secondFits.eventHash.symm
  rw [sameSequence, samePrevious, sameHash]

/-- Linked rows are determined by their payloads. -/
theorem Linked.columns_eq {left right : List ChainRow}
    {position : Int × Option (FixedBytes 32)}
    (leftLinked : Linked library position left)
    (rightLinked : Linked library position right)
    (samePayloads : payloads left = payloads right) :
    left.map ChainRow.columns = right.map ChainRow.columns := by
  induction left generalizing right position with
  | nil =>
      cases right with
      | nil => rfl
      | cons row rest => cases samePayloads
  | cons first leftRest inductionHypothesis =>
      cases right with
      | nil => cases samePayloads
      | cons second rightRest =>
          rcases List.cons.inj samePayloads with ⟨samePayload, sameRest⟩
          have sameColumns :=
            leftLinked.1.columns_eq rightLinked.1 samePayload
          have samePosition : advance library position second =
              advance library position first := by
            rw [advance, advance, sameColumns]
          have rightTail := rightLinked.2
          rw [samePosition] at rightTail
          rw [List.map_cons, List.map_cons, sameColumns,
            inductionHypothesis leftLinked.2 rightTail sameRest]

end Verified

/-! ## Two chains with one head -/

/-- Verified rows are determined by their last hash. -/
theorem Verified.columns_eq {library : AuditLibrary}
    (writes : WritesOrganizationFirst library) {left right : List ChainRow}
    (noCollision : NoCollision library (left ++ right))
    (leftVerified : Verified library (1, none) left)
    (rightVerified : Verified library (1, none) right)
    (sameHash : left.getLast?.map (fun row => row.columns.eventHash) =
      right.getLast?.map fun row => row.columns.eventHash) :
    left.map ChainRow.columns = right.map ChainRow.columns := by
  have leftFree : NoCollision library left := by
    intro first isFirst second isSecond
    exact noCollision first (by simp_all) second (by simp_all)
  have rightFree : NoCollision library right := by
    intro first isFirst second isSecond
    exact noCollision first (by simp_all) second (by simp_all)
  rw [leftVerified.linked.getLast?_eventHash,
    rightVerified.linked.getLast?_eventHash] at sameHash
  have sameHead : head eventMessage library.sha256 none (payloads left) =
      head eventMessage library.sha256 none (payloads right) :=
    Option.map_injective (fun _ _ same => FixedBytes.ext same) sameHash
  apply leftVerified.linked.columns_eq rightVerified.linked
  apply eq_of_head_eq _ _ sameHead
  · intro first isFirst second isSecond before after same
    exact eventMessage_injective
      (leftVerified.organizationFirst writes leftFree first isFirst)
      (rightVerified.organizationFirst writes rightFree second isSecond) same
  · intro first isFirst second isSecond same
    have inLeft := leftVerified.linked.messages_subset isFirst
    have inRight := rightVerified.linked.messages_subset isSecond
    rw [NoCollision, List.flatMap_append] at noCollision
    exact noCollision first (List.mem_append_left _ inLeft) second
      (List.mem_append_right _ inRight) same

/-- Two chains that verify and end in the same hash are the same chain. -/
theorem columns_eq_of_eventHash_eq {library : AuditLibrary}
    (writes : WritesOrganizationFirst library) {leftDb rightDb : AuditDb}
    {left right : Uuid} {leftChecked rightChecked : Nat}
    (noCollision : NoCollision library
      (leftDb.chain left ++ rightDb.chain right))
    (leftValid : (verifyOrganizationChain library left).call leftDb =
      (.ok (.valid leftChecked), leftDb))
    (rightValid : (verifyOrganizationChain library right).call rightDb =
      (.ok (.valid rightChecked), rightDb))
    (sameHash : (leftDb.chain left).getLast?.map
        (fun row => row.columns.eventHash) =
      (rightDb.chain right).getLast?.map fun row => row.columns.eventHash) :
    (leftDb.chain left).map ChainRow.columns =
      (rightDb.chain right).map ChainRow.columns :=
  Verified.columns_eq writes noCollision (verified_of_call leftValid).1
    (verified_of_call rightValid).1 sameHash

namespace Sample

/-- The same appends one after the other, into another database, where the rows
have other identifiers. -/
def elsewhere : List (Commit (auditClient library)) × AuditDb :=
  System.commitEach (auditClient library)
    [AuditCall.append ⟨⟨5⟩, draft⟩, AuditCall.append ⟨⟨6⟩, laterDraft⟩] [] ⟨[]⟩

private theorem reachable_elsewhere : System.Reachable Unsealed
    (System.idle elsewhere.2 elsewhere.1 :
      System (auditClient library) (auditLocking fun _ => 0)) := by
  apply System.Reachable.commitEach
  exact .atRest fun _ member => absurd member List.not_mem_nil

theorem writesOrganizationFirst : WritesOrganizationFirst library := by
  intro event payload encoded
  by_cases isDraft : event = draft.sanitize
  · have isText : utf8Bytes text = payload := by
      simpa [library, isDraft] using encoded
    rw [isDraft, ← isText]
    exact ⟨(utf8Bytes text).drop 55, by decide +kernel⟩
  · have isLater : event = laterDraft.sanitize ∧
        utf8Bytes laterText = payload := by
      simpa [library, isDraft] using encoded
    rw [isLater.1, ← isLater.2]
    exact ⟨(utf8Bytes laterText).drop 55, by decide +kernel⟩

private theorem noCollision :
    NoCollision library
      ((overtaken library).committed.chain organizationId ++
        elsewhere.2.chain organizationId) := by
  have onlyTwo : ∀ message ∈
      ((overtaken library).committed.chain organizationId ++
        elsewhere.2.chain organizationId).flatMap (hashedFor library),
      message = eventMessage none (utf8Bytes text) ∨
        message = eventMessage (some digest) (utf8Bytes laterText) := by
    decide +kernel
  have different : sha256 (eventMessage none (utf8Bytes text)) ≠
      sha256 (eventMessage (some digest) (utf8Bytes laterText)) := by
    decide +kernel
  intro first isFirst second isSecond same
  rcases onlyTwo first isFirst with rfl | rfl
  · rcases onlyTwo second isSecond with rfl | rfl
    · rfl
    · exact absurd same different
  · rcases onlyTwo second isSecond with rfl | rfl
    · exact absurd same.symm different
    · rfl

end Sample

theorem columns_eq_elsewhere :
    ((Sample.overtaken Sample.library).committed.chain
        Sample.organizationId).map ChainRow.columns =
      (Sample.elsewhere.2.chain Sample.organizationId).map
        ChainRow.columns := by
  have leftValid := verified_of_reachable
    (Sample.reachable_overtaken Sample.library)
    (fun _ _ _ encoded => Sample.readsBack_library encoded)
    Sample.organizationId
  have rightValid := verified_of_reachable Sample.reachable_elsewhere
    (fun _ _ _ encoded => Sample.readsBack_library encoded)
    Sample.organizationId
  have sameHash : ((Sample.overtaken Sample.library).committed.chain
        Sample.organizationId).getLast?.map
          (fun row => row.columns.eventHash) =
      (Sample.elsewhere.2.chain Sample.organizationId).getLast?.map
        fun row => row.columns.eventHash := by
    decide +kernel
  exact columns_eq_of_eventHash_eq Sample.writesOrganizationFirst
    Sample.noCollision leftValid rightValid sameHash

end NetworkManager.AuditStore
