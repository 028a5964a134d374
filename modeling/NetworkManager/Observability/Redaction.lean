import NetworkManager.Security.Audit

/-!
# Telemetry redaction, against audit redaction

Telemetry classifies a key by the end of its canonical form, which keeps the
letters and digits only; the audit log by the words that occur in the key as it
is spelled.  The two lists of words differ as well.  A leaf hidden from
telemetry is therefore kept in the audit log when no key on its path mentions,
unbroken, one of the audit log's words.
-/

namespace NetworkManager.Observability

open NetworkManager.Foundation
open NetworkManager.Domain.Governance
open NetworkManager.Foundation.Value (PathStep)
open NetworkManager.Security

/-- `char::is_ascii_alphanumeric`. -/
def isAsciiAlphanumeric (character : Char) : Bool := character.isAlphanum

/-- The words in which the canonical form of a sensitive key ends. -/
def sensitiveEndings : List String :=
  ["password", "passwd", "secret", "token", "authorization", "cookie", "csrf",
    "community", "privatekey", "clientsecret", "refreshtoken", "accesstoken",
    "apikey"]

def canonicalKey (key : String) : String :=
  String.ofList
    (((trim key).toList.filter isAsciiAlphanumeric).map Char.toLower)

def isSensitiveKey (key : String) : Bool :=
  let canonical := canonicalKey key
  sensitiveEndings.any fun needle =>
    canonical == needle || endsWithText canonical needle

def redactJson (value : Value) : Value :=
  value.maskKeys "[REDACTED]" isSensitiveKey

/-- The letters and digits of the key end, in lower case, in one of the
words. -/
def EndsInSensitiveWord (key : String) : Prop :=
  ∃ word ∈ sensitiveEndings,
    word.toList <:+
      ((trim key).toList.filter isAsciiAlphanumeric).map Char.toLower

private theorem isSensitiveKey_iff (key : String) :
    isSensitiveKey key = true ↔ EndsInSensitiveWord key := by
  simp only [isSensitiveKey, List.any_eq_true, Bool.or_eq_true,
    endsWithText_iff, EndsInSensitiveWord]
  refine exists_congr fun word => and_congr_right fun _ => ?_
  have shape :
      (canonicalKey key).toList =
        ((trim key).toList.filter isAsciiAlphanumeric).map Char.toLower :=
    String.toList_ofList
  rw [shape]
  constructor
  · rintro (equal | ends)
    · rw [← eq_of_beq equal, shape]
    · exact ends
  · exact Or.inr

instance (key : String) : Decidable (EndsInSensitiveWord key) :=
  decidable_of_iff _ (isSensitiveKey_iff key)

/-- Everything that telemetry hides of a given value is hidden in what the
audit log keeps of it. -/
def Covered (given persisted : Option Value) : Prop :=
  ∀ value ∈ given, ∀ kept ∈ persisted, ∀ path leaf,
    leaf ≠ .string "[REDACTED]" → value.HasLeaf path leaf →
      ¬ (redactJson value).HasLeaf path leaf → ¬ kept.HasLeaf path leaf

/-- Every leaf below a key that telemetry calls sensitive is also below a key
that mentions one of the audit log's words. -/
def SecretsMentioned (given : Option Value) : Prop :=
  ∀ value ∈ given, ∀ path leaf,
    leaf ≠ .string "[REDACTED]" → value.HasLeaf path leaf →
      (∃ key, PathStep.key key ∈ path ∧ EndsInSensitiveWord key) →
        ∃ key, PathStep.key key ∈ path ∧ MentionsSensitiveWord key

private theorem hasLeaf_redactJson_iff
    {value leaf : Value} {path : List PathStep}
    (notMarker : leaf ≠ .string "[REDACTED]") :
    (redactJson value).HasLeaf path leaf ↔
      value.HasLeaf path leaf ∧
        ∀ key, PathStep.key key ∈ path → ¬ EndsInSensitiveWord key := by
  rw [redactJson, Value.hasLeaf_maskKeys_iff notMarker]
  simp only [← isSensitiveKey_iff, Bool.not_eq_true]

private theorem hasLeaf_sanitizeJson_iff
    {value leaf : Value} {path : List PathStep}
    (notMarker : leaf ≠ .string "[REDACTED]") :
    (sanitizeJson value).HasLeaf path leaf ↔
      value.HasLeaf path leaf ∧
        ∀ key, PathStep.key key ∈ path → ¬ MentionsSensitiveWord key := by
  have notRedacted : leaf ≠ .string redacted := notMarker
  rw [sanitizeJson, Value.hasLeaf_maskKeys_iff notRedacted]
  refine and_congr_right fun _ => forall₂_congr fun key _ => ?_
  rw [beq_eq_false_iff_ne, ne_eq,
    redactValue_eq_redacted_iff (by decide)]

/-- The JSON fields of a sanitized draft cover telemetry exactly when the
secrets in them are mentioned in the audit log's words. -/
theorem covered_payload_iff (draft : AuditEventDraft) (field : Payload) :
    Covered (draft.payload field) (draft.sanitize.payload field) ↔
      SecretsMentioned (draft.payload field) := by
  rw [AuditEventDraft.payload_sanitize]
  constructor
  · intro covered value present path leaf notMarker holds hidden
    obtain ⟨key, onPath, sensitive⟩ := hidden
    have lost : ¬ (redactJson value).HasLeaf path leaf := by
      intro kept
      exact ((hasLeaf_redactJson_iff notMarker).mp kept).2 key onPath sensitive
    have absent :=
      covered value present (sanitizeJson value)
        (Option.mem_map_of_mem sanitizeJson present) path leaf notMarker
        holds lost
    rw [hasLeaf_sanitizeJson_iff notMarker] at absent
    by_contra unmentioned
    exact absent ⟨holds, fun other otherOnPath mentioned =>
      unmentioned ⟨other, otherOnPath, mentioned⟩⟩
  · intro mentioned value present kept persisted path leaf notMarker holds
      lost remains
    obtain ⟨original, sameValue, rfl⟩ := Option.mem_map.mp persisted
    cases Option.mem_unique present sameValue
    have someSensitive :
        ∃ key, PathStep.key key ∈ path ∧ EndsInSensitiveWord key := by
      by_contra noneSensitive
      apply lost
      rw [hasLeaf_redactJson_iff notMarker]
      exact ⟨holds, fun key onPath sensitive =>
        noneSensitive ⟨key, onPath, sensitive⟩⟩
    obtain ⟨key, onPath, mentions⟩ :=
      mentioned value present path leaf notMarker holds someSensitive
    exact ((hasLeaf_sanitizeJson_iff notMarker).mp remains).2 key onPath
      mentions

/-- Audit redaction covers telemetry redaction, for a draft and for a single
key, exactly where a key in a word of telemetry is also in a word of the audit
log. -/
theorem auditRedaction_covers_iff (draft : AuditEventDraft) (field : Payload)
    (key value : String) :
    (Covered (draft.payload field) (draft.sanitize.payload field) ↔
      SecretsMentioned (draft.payload field)) ∧
    ((isSensitiveKey key = true → redactValue key value = redacted) ↔
      (EndsInSensitiveWord key →
        MentionsSensitiveWord key ∨ value = redacted)) := by
  refine ⟨covered_payload_iff draft field, ?_⟩
  rw [isSensitiveKey_iff]
  by_cases isMarker : value = redacted
  · rw [redactValue_eq, isMarker]
    simp
  · rw [redactValue_eq_redacted_iff isMarker]
    simp [isMarker]

/-- An API key under `apiKey` is hidden from telemetry and kept in the audit
log. -/
theorem auditRedaction_misses_apiKey :
    (isSensitiveKey "apiKey" = true ∧
      redactValue "apiKey" "k-123" = "k-123") ∧
    ¬ Covered (some (.object [("apiKey", .string "k-123")]))
        ((some (.object [("apiKey", .string "k-123")])).map sanitizeJson) := by
  refine ⟨by decide, fun covered => ?_⟩
  have leaf :
      Value.HasLeaf (.object [("apiKey", .string "k-123")]) [.key "apiKey"]
        (.string "k-123") :=
    .member (List.mem_singleton.mpr rfl) (.scalar rfl)
  have unhidden := covered _ rfl _ rfl _ _ (by decide) leaf
  rw [hasLeaf_redactJson_iff (by decide),
    hasLeaf_sanitizeJson_iff (by decide)] at unhidden
  apply unhidden
  · intro kept
    exact kept.2 "apiKey" (by decide) (by decide)
  · refine ⟨leaf, fun key onPath => ?_⟩
    have same : key = "apiKey" := by simpa using onPath
    subst same
    decide

end NetworkManager.Observability
