import NetworkManager.Foundation.JsonParts
import NetworkManager.Security.Audit

/-!
# What sanitizing keeps of a draft

Sanitizing hides what stands directly under the sensitive keys, at any depth of
the three JSON fields, and keeps everything else in its place.  What is sealed
therefore depends on no secret.
-/

namespace NetworkManager.Security

open NetworkManager.Foundation
open NetworkManager.Foundation.Value
open NetworkManager.Domain.Governance

/-- The test by which `sanitize_json` classifies a key. -/
def isSensitive (key : String) : Bool :=
  redactValue key "SNM-SENTINEL" == redacted

theorem sanitizeJson_eq (value : Value) :
    sanitizeJson value = value.maskKeys redacted isSensitive := rfl

/-- The test does not depend on the value that it is made with. -/
theorem isSensitive_iff (key : String) :
    isSensitive key = true ↔ ∀ value, redactValue key value = redacted := by
  rw [isSensitive, beq_iff_eq]
  constructor
  · intro hidden value
    have mentions : MentionsSensitiveWord key :=
      (redactValue_eq_redacted_iff (by decide)).mp hidden
    rw [redactValue_eq, if_pos mentions]
  · exact fun hidden => hidden _

namespace AuditEventDraft

def withoutPayloads (draft : AuditEventDraft) : AuditEventDraft :=
  { draft with before := none, after := none, result := none }

/-- The drafts differ in nothing but what stands directly under sensitive
keys. -/
structure AgreeOutsideSecrets (left right : AuditEventDraft) : Prop where
  fields : left.withoutPayloads = right.withoutPayloads
  payloads : ∀ field,
    Option.Rel (AgreeOutside isSensitive) (left.payload field)
      (right.payload field)

private theorem map_sanitizeJson_eq_iff {left right : Option Value} :
    left.map sanitizeJson = right.map sanitizeJson ↔
      Option.Rel (AgreeOutside isSensitive) left right := by
  cases left with
  | none =>
      cases right with
      | none => simp
      | some right => simp
  | some left =>
      cases right with
      | none => simp
      | some right =>
          rw [Option.map_some, Option.map_some, Option.some.injEq,
            sanitizeJson_eq, sanitizeJson_eq, maskKeys_eq_iff,
            Option.rel_some_some]

private theorem withoutPayloads_sanitize (draft : AuditEventDraft) :
    draft.sanitize.withoutPayloads = draft.withoutPayloads := rfl

private theorem eq_of_payloads {left right : AuditEventDraft}
    (fields : left.withoutPayloads = right.withoutPayloads)
    (payloads : ∀ field, left.payload field = right.payload field) :
    left = right := by
  have before : left.before = right.before := payloads .before
  have after : left.after = right.after := payloads .after
  have result : left.result = right.result := payloads .result
  calc
    left = { left.withoutPayloads with
        before := left.before, after := left.after, result := left.result } :=
      rfl
    _ = { right.withoutPayloads with
        before := right.before, after := right.after,
        result := right.result } := by rw [fields, before, after, result]
    _ = right := rfl

/-- Sanitizing tells two drafts apart exactly by what is no secret. -/
theorem sanitize_eq_iff {left right : AuditEventDraft} :
    left.sanitize = right.sanitize ↔ left.AgreeOutsideSecrets right := by
  constructor
  · intro same
    have fields : left.sanitize.withoutPayloads =
        right.sanitize.withoutPayloads := by rw [same]
    refine ⟨fields, fun field => ?_⟩
    rw [← map_sanitizeJson_eq_iff, ← payload_sanitize, ← payload_sanitize,
      same]
  · intro agree
    have fields : left.sanitize.withoutPayloads =
        right.sanitize.withoutPayloads := agree.fields
    apply eq_of_payloads fields
    intro field
    rw [payload_sanitize, payload_sanitize, map_sanitizeJson_eq_iff]
    exact agree.payloads field

/-- `part` is the value that a path leads to in a field of the draft. -/
def HasPart (draft : AuditEventDraft) (field : Payload)
    (path : List PathStep) (part : Value) : Prop :=
  ∃ value, draft.payload field = some value ∧ value.Reaches path part

/-- The kept value has the keys, the elements and the scalars of the original
one outside its secrets, and is that value if it has none. -/
structure Keeps (original kept : Value) : Prop where
  outside : AgreeOutside isSensitive original kept
  unchanged : Free isSensitive original → kept = original

private theorem keeps_sanitizeJson (value : Value) :
    Keeps value (sanitizeJson value) where
  outside := agreeOutside_maskKeys value
  unchanged free := free.maskKeys_eq

private theorem HasPart.sanitize {draft : AuditEventDraft} {field : Payload}
    {path : List PathStep} {part : Value}
    (hasPart : draft.HasPart field path part)
    (avoids : Avoids isSensitive path) :
    draft.sanitize.HasPart field path (sanitizeJson part) := by
  obtain ⟨value, present, reaches⟩ := hasPart
  refine ⟨sanitizeJson value, ?_, reaches.maskKeys avoids⟩
  rw [payload_sanitize, present, Option.map_some]

private theorem HasPart.of_sanitize {draft : AuditEventDraft} {field : Payload}
    {path : List PathStep} {kept : Value}
    (hasPart : draft.sanitize.HasPart field path kept)
    (avoids : Avoids isSensitive path) :
    ∃ part, draft.HasPart field path part ∧ kept = sanitizeJson part := by
  obtain ⟨sanitized, present, reaches⟩ := hasPart
  rw [payload_sanitize, Option.map_eq_some_iff] at present
  obtain ⟨value, original, rfl⟩ := present
  obtain ⟨part, reached, same⟩ := Reaches.of_maskKeys reaches avoids
  exact ⟨part, ⟨value, original, reached⟩, same⟩

/-- What is sealed depends on no secret, sanitizing again changes nothing, and
what is reached through no sensitive key is kept in its place. -/
theorem sealing_independent_of_secrets (draft : AuditEventDraft) :
    (∀ other : AuditEventDraft, draft.AgreeOutsideSecrets other →
      ∀ (library : AuditLibrary) (previousHash : Option (FixedBytes 32)),
        draft.seal library previousHash = other.seal library previousHash) ∧
    draft.sanitize.sanitize = draft.sanitize ∧
    draft.sanitize.withoutPayloads = draft.withoutPayloads ∧
    ∀ (field : Payload) (path : List PathStep), Avoids isSensitive path →
      (∀ part, draft.HasPart field path part →
        ∃ kept, draft.sanitize.HasPart field path kept ∧ Keeps part kept) ∧
      ∀ kept, draft.sanitize.HasPart field path kept →
        ∃ part, draft.HasPart field path part ∧ Keeps part kept := by
  refine ⟨?_, draft.sanitize_sanitize, draft.withoutPayloads_sanitize, ?_⟩
  · intro other agree library previousHash
    have same : draft.sanitize = other.sanitize := sanitize_eq_iff.mpr agree
    rw [AuditEventDraft.seal, AuditEventDraft.seal, same]
  · intro field path avoids
    constructor
    · intro part hasPart
      exact ⟨sanitizeJson part, hasPart.sanitize avoids,
        keeps_sanitizeJson part⟩
    · intro kept hasPart
      obtain ⟨part, original, rfl⟩ := hasPart.of_sanitize avoids
      exact ⟨part, original, keeps_sanitizeJson part⟩

end AuditEventDraft

namespace Sample

/-- A draft that reports a change of accounts. -/
def accounts (password : Value) : AuditEventDraft where
  organizationId := ⟨1⟩
  siteId := none
  actorType := .user
  actorId := none
  sessionId := none
  sourceIp := none
  requestId := "r-1"
  correlationId := ⟨2⟩
  action := "credentials.update"
  resourceType := "credential_profile"
  resourceId := none
  provider := none
  occurredAtUnixMs := 100
  durationMs := none
  status := .succeeded
  reasonCode := none
  before := none
  after := some (.array
    [.object [("username", .string "admin"), ("Password", password)]])
  result := none

private theorem accounts_agree (left right : Value) :
    (accounts left).AgreeOutsideSecrets (accounts right) where
  fields := rfl
  payloads field := by
    have hidden : isSensitive "Password" = true := by decide
    cases field with
    | before => exact .none
    | after =>
        exact .some (.array (.cons (.object (.shown (.same _)
          (.hidden left right hidden .nil))) .nil))
    | result => exact .none

end Sample

/-- An account is sealed alike with any two passwords, and its name is kept. -/
theorem AuditEventDraft.accounts_sealed_alike :
    (∀ (library : AuditLibrary) (previousHash : Option (FixedBytes 32)),
      (Sample.accounts (.string "old")).seal library previousHash =
        (Sample.accounts (.object [("kept", .null)])).seal library
          previousHash) ∧
    ∃ kept, (Sample.accounts (.string "old")).sanitize.HasPart .after
        [.index 0, .key "username"] kept ∧
      Keeps (.string "admin") kept := by
  obtain ⟨alike, _, _, parts⟩ :=
    sealing_independent_of_secrets (Sample.accounts (.string "old"))
  constructor
  · exact alike _ (Sample.accounts_agree _ _)
  · have avoids : Avoids isSensitive [.index 0, .key "username"] := by
      intro name onPath
      have same : name = "username" := by simpa using onPath
      subst same
      decide
    apply (parts .after _ avoids).1
    exact ⟨_, rfl, .element rfl (.member (List.mem_cons_self ..) .here)⟩

end NetworkManager.Security
