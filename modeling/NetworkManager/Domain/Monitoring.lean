import NetworkManager.Foundation.Text

/-!
# Fingerprints of alerts

The key of a fingerprint is its five fields with colons between them, and a dash
for a field that is not given.  Fields are free text, so that colons and dashes
occur in them.
-/

namespace NetworkManager.Domain.Monitoring

open NetworkManager.Foundation

structure AlertFingerprint where
  organization : String
  site : Option String
  resource : String
  rule : String
  dimension : Option String
deriving DecidableEq, Repr

namespace AlertFingerprint

def stableKey (self : AlertFingerprint) : String :=
  self.organization ++ ":" ++ self.site.getD "-" ++ ":" ++ self.resource ++
    ":" ++ self.rule ++ ":" ++ self.dimension.getD "-"

/-- No other fingerprint has the key. -/
def Determined (self : AlertFingerprint) : Prop :=
  ∀ other : AlertFingerprint, other.stableKey = self.stableKey → other = self

/-- No fingerprint of another organization or resource has the key. -/
def Separated (self : AlertFingerprint) : Prop :=
  ∀ other : AlertFingerprint, other.stableKey = self.stableKey →
    other.organization = self.organization ∧ other.resource = self.resource

/-- What the key is made of. -/
def parts (self : AlertFingerprint) : List String :=
  [self.organization, self.site.getD "-", self.resource, self.rule,
    self.dimension.getD "-"]

def ColonFree (self : AlertFingerprint) : Prop :=
  ∀ part ∈ self.parts, ':' ∉ part.toList

end AlertFingerprint

/-- A field is given, and not the dash that stands for one that is not. -/
def Given (field : Option String) : Prop :=
  ∃ value, field = some value ∧ value ≠ "-"

private theorem Given.eq_of_getD_eq
    {field other : Option String} (given : Given field)
    (same : other.getD "-" = field.getD "-") : other = field := by
  obtain ⟨value, rfl, notDash⟩ := given
  cases other with
  | none => exact absurd same.symm notDash
  | some text => exact congrArg some same

/-- A field that is not given for good has another field in its place. -/
theorem exists_other_of_not_given {field : Option String}
    (notGiven : ¬Given field) :
    ∃ other : Option String, other ≠ field ∧
      other.getD "-" = field.getD "-" := by
  cases field with
  | none => exact ⟨some "-", by simp, rfl⟩
  | some text =>
      refine ⟨none, by simp, ?_⟩
      by_contra different
      exact notGiven ⟨text, rfl, fun isDash => different isDash.symm⟩

namespace AlertFingerprint

variable {self other : AlertFingerprint}

private theorem toList_stableKey (self : AlertFingerprint) :
    self.stableKey.toList =
      [':'].intercalate (self.parts.map String.toList) := by
  simp [stableKey, parts, List.intercalate]

/-- Without colons in its fields, a key shows all of them. -/
theorem parts_eq_of_stableKey_eq (colonFree : self.ColonFree)
    (same : other.stableKey = self.stableKey) : other.parts = self.parts := by
  have free : ∀ part ∈ self.parts.map String.toList, ':' ∉ part := by
    intro part member
    obtain ⟨text, isPart, rfl⟩ := List.mem_map.mp member
    exact colonFree text isPart
  have sameText := congrArg String.toList same.symm
  rw [toList_stableKey, toList_stableKey] at sameText
  have sameLength : (self.parts.map String.toList).length =
      (other.parts.map String.toList).length := rfl
  have sameParts := eq_of_intercalate_eq free sameLength sameText
  have injective : Function.Injective String.toList :=
    fun _ _ => String.toList_injective
  exact (List.map_injective_iff.mpr injective sameParts).symm

private theorem separated_of_colonFree (colonFree : self.ColonFree) :
    self.Separated := by
  intro other same
  have sameParts := parts_eq_of_stableKey_eq colonFree same
  simp only [parts, List.cons.injEq] at sameParts
  exact ⟨sameParts.1, sameParts.2.2.1⟩

private theorem determined_of_given (colonFree : self.ColonFree)
    (site : Given self.site) (dimension : Given self.dimension) :
    self.Determined := by
  intro other same
  have sameParts := parts_eq_of_stableKey_eq colonFree same
  simp only [parts, List.cons.injEq] at sameParts
  obtain ⟨organization, sameSite, resource, rule, sameDimension, _⟩ :=
    sameParts
  cases self
  cases other
  rw [mk.injEq]
  exact ⟨organization, site.eq_of_getD_eq sameSite, resource, rule,
    dimension.eq_of_getD_eq sameDimension⟩

private theorem exists_split_of_colon
    {text : String} (colon : ':' ∈ text.toList) :
    ∃ before after, text = before ++ ":" ++ after := by
  obtain ⟨before, after, isText⟩ := List.append_of_mem colon
  refine ⟨String.ofList before, String.ofList after, ?_⟩
  rw [← String.toList_inj, isText]
  simp

/-- A text is shorter than one that goes on behind a colon. -/
theorem ne_append_colon (before after : String) :
    before ≠ before ++ ":" ++ after := by
  intro same
  have sameLength := congrArg String.length same
  rw [String.length_append, String.length_append] at sameLength
  have colon : ":".length = 1 := rfl
  omega

private theorem ne_colon_append (before after : String) :
    after ≠ before ++ ":" ++ after := by
  intro same
  have sameLength := congrArg String.length same
  rw [String.length_append, String.length_append] at sameLength
  have colon : ":".length = 1 := rfl
  omega

/-- A colon in a field reads as the end of one, so that all that follows moves
by a field. -/
theorem not_separated_of_colon (colon : ¬self.ColonFree) :
    ¬self.Separated := by
  obtain ⟨organization, site, resource, rule, dimension⟩ := self
  simp only [ColonFree, not_forall, not_not] at colon
  obtain ⟨part, isPart, occurs⟩ := colon
  obtain ⟨before, after, rfl⟩ := exists_split_of_colon occurs
  simp only [parts, List.mem_cons, List.not_mem_nil, or_false] at isPart
  intro separated
  rcases isPart with isOrganization | isSite | isResource | isRule |
    isDimension
  · subst isOrganization
    have kept := separated ⟨before, some (after ++ ":" ++ site.getD "-"),
      resource, rule, dimension⟩ (by simp [stableKey, String.append_assoc])
    exact ne_append_colon before after kept.1
  · have kept := separated ⟨organization ++ ":" ++ before, some after,
      resource, rule, dimension⟩
      (by simp [stableKey, ← isSite, String.append_assoc])
    exact ne_append_colon organization before kept.1.symm
  · subst isResource
    have kept := separated ⟨organization, some (site.getD "-" ++ ":" ++ before),
      after, rule, dimension⟩ (by simp [stableKey, String.append_assoc])
    exact ne_colon_append before after kept.2
  · subst isRule
    have kept := separated ⟨organization, site, resource ++ ":" ++ before,
      after, dimension⟩ (by simp [stableKey, String.append_assoc])
    exact ne_append_colon resource before kept.2.symm
  · have kept := separated ⟨organization, site, resource ++ ":" ++ rule,
      before, some after⟩
      (by simp [stableKey, ← isDimension, String.append_assoc])
    exact ne_append_colon resource rule kept.2.symm

private theorem Determined.separated (determined : self.Determined) :
    self.Separated := by
  intro other same
  rw [determined other same]
  exact ⟨rfl, rfl⟩

private theorem Determined.given_site (determined : self.Determined) :
    Given self.site := by
  by_contra notGiven
  obtain ⟨other, different, same⟩ := exists_other_of_not_given notGiven
  have isSelf := determined { self with site := other }
    (by simp only [stableKey, same])
  exact different (congrArg AlertFingerprint.site isSelf)

private theorem Determined.given_dimension (determined : self.Determined) :
    Given self.dimension := by
  by_contra notGiven
  obtain ⟨other, different, same⟩ := exists_other_of_not_given notGiven
  have isSelf := determined { self with dimension := other }
    (by simp only [stableKey, same])
  exact different (congrArg AlertFingerprint.dimension isSelf)

end AlertFingerprint

/-- A key belongs to one fingerprint if and only if no field contains a colon
and the site and the dimension are given; and to the fingerprints of one
organization and resource if and only if no field contains a colon. -/
theorem stableKey_injective_iff (fingerprint : AlertFingerprint) :
    (fingerprint.Determined ↔ fingerprint.ColonFree ∧
      Given fingerprint.site ∧ Given fingerprint.dimension) ∧
    (fingerprint.Separated ↔ fingerprint.ColonFree) := by
  have separated : fingerprint.Separated ↔ fingerprint.ColonFree := by
    constructor
    · intro separated
      by_contra colon
      exact AlertFingerprint.not_separated_of_colon colon separated
    · exact AlertFingerprint.separated_of_colonFree
  refine ⟨?_, separated⟩
  constructor
  · intro determined
    exact ⟨separated.mp determined.separated, determined.given_site,
      determined.given_dimension⟩
  · rintro ⟨colonFree, site, dimension⟩
    exact AlertFingerprint.determined_of_given colonFree site dimension

namespace Sample

def first : AlertFingerprint :=
  ⟨"acme", some "hq", "fe80::1", "reachability", some "eth0"⟩

def second : AlertFingerprint :=
  ⟨"acme:hq", some "fe80", "", "1", some "reachability:eth0"⟩

end Sample

/-- An alert of a tenant for an IPv6 address, and one of another tenant for
another resource. -/
theorem not_stableKey_injective :
    ¬∀ left right : AlertFingerprint, left.stableKey = right.stableKey →
      left = right := by
  intro injective
  have same : Sample.first = Sample.second := injective _ _ (by decide)
  exact absurd same (by decide)

end NetworkManager.Domain.Monitoring
