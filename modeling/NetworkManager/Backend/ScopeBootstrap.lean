import NetworkManager.Foundation.NaturalKeys
import NetworkManager.Foundation.Text
import NetworkManager.Foundation.Uuid
import NetworkManager.Transaction.Endings

/-!
# Bootstrapping a scope

A start of a back-end may name an organization and a site, which one transaction
upserts together with the default routing domain of the site.  Its identifiers
are those of the first start that has named them, whatever has happened since.
-/

namespace NetworkManager.Backend.ScopeBootstrap

open NetworkManager.Foundation
open NetworkManager.Transaction

structure OrganizationRow where
  id : Uuid
  slug : String
  name : String
  updatedAt : Timestamp
deriving DecidableEq, Repr

structure SiteRow where
  id : Uuid
  organizationId : Uuid
  slug : String
  name : String
  updatedAt : Timestamp
deriving DecidableEq, Repr

/-- `UNIQUE (organization_id, slug)`. -/
def SiteRow.key (row : SiteRow) : Uuid × String :=
  (row.organizationId, row.slug)

structure RoutingDomainRow where
  id : Uuid
  organizationId : Uuid
  siteId : Uuid
  name : String
  isDefault : Bool
  updatedAt : Timestamp
deriving DecidableEq, Repr

/-- `UNIQUE (organization_id, site_id, name)`. -/
def RoutingDomainRow.key (row : RoutingDomainRow) : Uuid × Uuid × String :=
  (row.organizationId, row.siteId, row.name)

structure ScopeDb where
  organizations : Table String OrganizationRow OrganizationRow.slug
  sites : Table (Uuid × String) SiteRow SiteRow.key
  domains : Table (Uuid × Uuid × String) RoutingDomainRow RoutingDomainRow.key

def ScopeDb.empty : ScopeDb := ⟨.empty _, .empty _, .empty _⟩

def isSlugCharacter (character : Char) : Bool :=
  character.isLower || character.isDigit || character == '-'

/-- `slug ~ '^[a-z0-9][a-z0-9-]{1,62}$'`. -/
def slugAccepted (slug : String) : Bool :=
  match slug.toList with
  | [] => false
  | first :: rest =>
      first != '-' && isSlugCharacter first && rest.all isSlugCharacter &&
        decide (1 ≤ rest.length) && decide (rest.length ≤ 62)

/-- `length(trim(name)) > 0`: some character is not a space. -/
def nameAccepted (name : String) : Bool :=
  name.toList.any fun character => character != ' '

/-- Each statement upserts a row; the identifier is that of a new row. -/
inductive Statement where
  | upsertOrganization (row : OrganizationRow)
  | upsertSite (row : SiteRow)
  | upsertDomain (row : RoutingDomainRow)

abbrev Reply : Statement → Type := fun _ => Uuid

inductive Write where
  | organization (row : OrganizationRow)
  | site (row : SiteRow)
  | domain (row : RoutingDomainRow)

def applyWrite : Write → ScopeDb → ScopeDb
  | .organization row, db =>
      { db with organizations := db.organizations.put row }
  | .site row, db => { db with sites := db.sites.put row }
  | .domain row, db => { db with domains := db.domains.put row }

/-- `SET name = EXCLUDED.name, updated_at = now()`. -/
def OrganizationRow.renamed (excluded row : OrganizationRow) :
    OrganizationRow :=
  { row with name := excluded.name, updatedAt := excluded.updatedAt }

def SiteRow.renamed (excluded row : SiteRow) : SiteRow :=
  { row with name := excluded.name, updatedAt := excluded.updatedAt }

/-- `SET is_default = true, updated_at = now()`. -/
def RoutingDomainRow.chosen (excluded row : RoutingDomainRow) :
    RoutingDomainRow :=
  { row with isDefault := true, updatedAt := excluded.updatedAt }

def execUpsertOrganization (row : OrganizationRow) (db : ScopeDb) :
    Except SqlError (Uuid × List Write) :=
  let written := db.organizations.upserted row row.renamed
  if !nameAccepted row.name then
    .error (.checkViolation "organizations_name_check")
  else if !slugAccepted row.slug then
    .error (.checkViolation "organizations_slug_check")
  else if db.organizations.lookup row.slug = none ∧
      ∃ other ∈ db.organizations.rows, other.id = row.id then
    .error (.uniqueViolation "organizations_pkey")
  else
    .ok (written.id, [.organization written])

def execUpsertSite (row : SiteRow) (db : ScopeDb) :
    Except SqlError (Uuid × List Write) :=
  let written := db.sites.upserted row row.renamed
  if !nameAccepted row.name then
    .error (.checkViolation "sites_name_check")
  else if db.sites.lookup row.key = none ∧
      ∃ other ∈ db.sites.rows, other.id = row.id then
    .error (.uniqueViolation "sites_pkey")
  else if ¬∃ organization ∈ db.organizations.rows,
      organization.id = row.organizationId then
    .error (.foreignKeyViolation "sites_organization_id_fkey")
  else
    .ok (written.id, [.site written])

/-- Another domain is the default of the site. -/
def otherDefault (row : RoutingDomainRow) (db : ScopeDb) : Bool :=
  db.domains.rows.any fun other => other.isDefault ∧
    other.organizationId = row.organizationId ∧ other.siteId = row.siteId ∧
    other.name ≠ row.name

def execUpsertDomain (row : RoutingDomainRow) (db : ScopeDb) :
    Except SqlError (Uuid × List Write) :=
  let written := db.domains.upserted row row.chosen
  if db.domains.lookup row.key = none ∧
      ∃ other ∈ db.domains.rows, other.id = row.id then
    .error (.uniqueViolation "routing_domains_pkey")
  else if otherDefault row db then
    .error (.uniqueViolation "uq_routing_domains_default_per_site")
  else if ¬∃ site ∈ db.sites.rows,
      site.id = row.siteId ∧ site.organizationId = row.organizationId then
    .error (.foreignKeyViolation
      "routing_domains_site_id_organization_id_fkey")
  else
    .ok (written.id, [.domain written])

abbrev scopeSql : Database where
  Statement := Statement
  Reply := Reply
  Fault := SqlError
  State := ScopeDb
  Write := Write
  apply := applyWrite
  exec
    | .upsertOrganization row, db => execUpsertOrganization row db
    | .upsertSite row, db => execUpsertSite row db
    | .upsertDomain row, db => execUpsertDomain row db

structure ScopeArguments where
  organizationSlug : String
  organizationName : String
  siteSlug : String
  siteName : String
deriving DecidableEq, Repr

structure ScopeIds where
  organizationId : Uuid
  siteId : Uuid
  routingDomainId : Uuid
deriving DecidableEq, Repr

abbrev Store (α : Type) : Type := Program scopeSql SqlError α

def query (statement : Statement) : Store Uuid :=
  Program.statement (D := scopeSql) statement id

/-- `bootstrap_scope`; `fresh` are the identifiers of new rows. -/
def bootstrapScope (arguments : ScopeArguments) (fresh : ScopeIds)
    (now : Timestamp) : Store ScopeIds := do
  let organizationId ← query (.upsertOrganization
    ⟨fresh.organizationId, arguments.organizationSlug,
      arguments.organizationName, now⟩)
  let siteId ← query (.upsertSite
    ⟨fresh.siteId, organizationId, arguments.siteSlug, arguments.siteName,
      now⟩)
  let routingDomainId ← query (.upsertDomain
    ⟨fresh.routingDomainId, organizationId, siteId, "default", true, now⟩)
  Program.commitNow id
  return ⟨organizationId, siteId, routingDomainId⟩

/-- `env::var`: a variable that is unset or not Unicode has no value. -/
abbrev Environment := String → Option String

def nonEmptyEnv (environment : Environment) (name : String) : Option String :=
  (environment name).filter fun value => !isBlank value

/-- What an environment asks for. -/
def scopeArguments (environment : Environment) : Option ScopeArguments :=
  (nonEmptyEnv environment "SNM_BOOTSTRAP_ORG_SLUG").map
    fun organizationSlug =>
      { organizationSlug
        organizationName :=
          (nonEmptyEnv environment "SNM_BOOTSTRAP_ORG_NAME").getD
            "Seven Network Manager"
        siteSlug :=
          (nonEmptyEnv environment "SNM_BOOTSTRAP_SITE_SLUG").getD "default"
        siteName :=
          (nonEmptyEnv environment "SNM_BOOTSTRAP_SITE_NAME").getD
            "Default Site" }

structure ScopeStart where
  environment : Environment
  fresh : ScopeIds
  now : Timestamp

/-- The identifiers are what is logged. -/
def maybeBootstrapScope (start : ScopeStart) : Store (Option ScopeIds) :=
  match scopeArguments start.environment with
  | none => return none
  | some arguments => do
      let ids ← bootstrapScope arguments start.fresh start.now
      return some ids

def scopeClient : Client scopeSql SqlError where
  Call := ScopeStart
  Result _ := Option ScopeIds
  program := maybeBootstrapScope

/-! ## What a statement keeps -/

/-- Identifiers are distinct, and a site has at most one default domain. -/
structure Sound (db : ScopeDb) : Prop where
  organizations : db.organizations.Identified OrganizationRow.id
  sites : db.sites.Identified SiteRow.id
  domains : db.domains.Identified RoutingDomainRow.id
  oneDefault : ∀ left ∈ db.domains.rows, ∀ right ∈ db.domains.rows,
    left.isDefault = true → right.isDefault = true →
      left.organizationId = right.organizationId →
      left.siteId = right.siteId → left = right

abbrev Domains :=
  Table (Uuid × Uuid × String) RoutingDomainRow RoutingDomainRow.key

/-- What is the default of a site stays so. -/
def DefaultsStay (before after : Domains) : Prop :=
  ∀ key row, before.lookup key = some row → row.isDefault = true →
    ∃ later, after.lookup key = some later ∧ later.isDefault = true

/-- Nothing that is named gets another identifier, and the tables stay sound. -/
structure Extends (before after : ScopeDb) : Prop where
  organizations :
    before.organizations.Keeps OrganizationRow.id after.organizations
  sites : before.sites.Keeps SiteRow.id after.sites
  domains : before.domains.Keeps RoutingDomainRow.id after.domains
  defaults : DefaultsStay before.domains after.domains
  sound : Sound before → Sound after

private theorem defaultsStay_refl
    (domains : Domains) : DefaultsStay domains domains :=
  fun _ row found isDefault => ⟨row, found, isDefault⟩

private theorem extends_refl (db : ScopeDb) : Extends db db :=
  ⟨Table.keeps_refl _, Table.keeps_refl _, Table.keeps_refl _,
    defaultsStay_refl _, id⟩

private theorem Extends.trans {first middle last : ScopeDb}
    (before : Extends first middle) (after : Extends middle last) :
    Extends first last where
  organizations := before.organizations.trans after.organizations
  sites := before.sites.trans after.sites
  domains := before.domains.trans after.domains
  defaults key row found isDefault := by
    obtain ⟨kept, keptFound, keptDefault⟩ :=
      before.defaults key row found isDefault
    exact after.defaults key kept keptFound keptDefault
  sound sound := after.sound (before.sound sound)

section Statements

variable {db : ScopeDb} {named : Uuid} {writes : List Write}

private theorem execUpsertOrganization_eq_ok {row : OrganizationRow}
    (executed : execUpsertOrganization row db = .ok (named, writes)) :
    Extends db (scopeSql.applyAll writes db) ∧
      (scopeSql.applyAll writes db).organizations.idOf OrganizationRow.id
        row.slug = some named ∧ slugAccepted row.slug = true := by
  rw [execUpsertOrganization] at executed
  split_ifs at executed with noName noSlug used
  cases executed
  have sameKey : ∀ stored : OrganizationRow,
      (row.renamed stored).slug = stored.slug := fun _ => rfl
  have sameId : ∀ stored : OrganizationRow,
      (row.renamed stored).id = stored.id := fun _ => rfl
  refine ⟨⟨Table.keeps_put_upserted sameKey sameId row _, Table.keeps_refl _,
    Table.keeps_refl _, defaultsStay_refl _, fun sound => ⟨?_, sound.sites,
      sound.domains, sound.oneDefault⟩⟩, Table.idOf_put_upserted sameKey row _,
    by simpa using noSlug⟩
  refine sound.organizations.put_upserted sameKey sameId ?_
  intro absent other member same
  exact used ⟨absent, other, member, same⟩

private theorem execUpsertSite_eq_ok {row : SiteRow}
    (executed : execUpsertSite row db = .ok (named, writes)) :
    Extends db (scopeSql.applyAll writes db) ∧
      (scopeSql.applyAll writes db).sites.idOf SiteRow.id row.key =
        some named := by
  rw [execUpsertSite] at executed
  split_ifs at executed with noName used orphan
  cases executed
  have sameKey : ∀ stored : SiteRow,
      (row.renamed stored).key = stored.key := fun _ => rfl
  have sameId : ∀ stored : SiteRow,
      (row.renamed stored).id = stored.id := fun _ => rfl
  refine ⟨⟨Table.keeps_refl _, Table.keeps_put_upserted sameKey sameId row _,
    Table.keeps_refl _, defaultsStay_refl _, fun sound =>
      ⟨sound.organizations, ?_, sound.domains, sound.oneDefault⟩⟩,
    Table.idOf_put_upserted sameKey row _⟩
  refine sound.sites.put_upserted sameKey sameId ?_
  intro absent other member same
  exact used ⟨absent, other, member, same⟩

/-- The domain that an upsert writes is the only default of its site. -/
theorem oneDefault_put {row : RoutingDomainRow} (sound : Sound db)
    (noOther : otherDefault row db = false) :
    let after := db.domains.put (db.domains.upserted row row.chosen)
    ∀ left ∈ after.rows, ∀ right ∈ after.rows,
      left.isDefault = true → right.isDefault = true →
        left.organizationId = right.organizationId →
        left.siteId = right.siteId → left = right := by
  intro after left leftMember right rightMember leftDefault rightDefault
    sameOrganization sameSite
  have writtenKey : (db.domains.upserted row row.chosen).key = row.key :=
    Table.key_upserted (fun stored => (rfl : (row.chosen stored).key =
      stored.key)) row db.domains
  have notBeside : ∀ other ∈ db.domains.rows, other.isDefault = true →
      other.key ≠ row.key →
      ¬(other.organizationId = row.organizationId ∧
        other.siteId = row.siteId) := by
    rintro other member isDefault different ⟨organization, site⟩
    have another : otherDefault row db = true := by
      refine List.any_eq_true.mpr ⟨other, member, decide_eq_true
        ⟨isDefault, organization, site, ?_⟩⟩
      intro name
      apply different
      rw [RoutingDomainRow.key, organization, site, name]
      rfl
    rw [noOther] at another
    cases another
  obtain ⟨organization, domain⟩ := Prod.mk.inj writtenKey
  obtain ⟨site, -⟩ := Prod.mk.inj domain
  rw [Table.mem_put, writtenKey] at leftMember rightMember
  rcases leftMember with rfl | ⟨leftMember, leftOther⟩
  · rcases rightMember with rfl | ⟨rightMember, rightOther⟩
    · rfl
    · exact absurd ⟨sameOrganization.symm.trans organization,
        sameSite.symm.trans site⟩
        (notBeside right rightMember rightDefault rightOther)
  · rcases rightMember with rfl | ⟨rightMember, rightOther⟩
    · exact absurd ⟨sameOrganization.trans organization, sameSite.trans site⟩
        (notBeside left leftMember leftDefault leftOther)
    · exact sound.oneDefault left leftMember right rightMember leftDefault
        rightDefault sameOrganization sameSite

private theorem isDefault_upserted {row : RoutingDomainRow}
    (isDefault : row.isDefault = true) (domains : Domains) :
    (domains.upserted row row.chosen).isDefault = true := by
  rw [Table.upserted]
  cases domains.lookup row.key with
  | none => exact isDefault
  | some stored => rfl

private theorem execUpsertDomain_eq_ok {row : RoutingDomainRow}
    (isDefault : row.isDefault = true)
    (executed : execUpsertDomain row db = .ok (named, writes)) :
    Extends db (scopeSql.applyAll writes db) ∧
      ∃ later, (scopeSql.applyAll writes db).domains.lookup row.key =
        some later ∧ later.id = named ∧ later.isDefault = true := by
  rw [execUpsertDomain] at executed
  split_ifs at executed with used other orphan
  cases executed
  have sameKey : ∀ stored : RoutingDomainRow,
      (row.chosen stored).key = stored.key := fun _ => rfl
  have sameId : ∀ stored : RoutingDomainRow,
      (row.chosen stored).id = stored.id := fun _ => rfl
  have chosen := isDefault_upserted isDefault db.domains
  have writtenKey := Table.key_upserted sameKey row db.domains
  refine ⟨⟨Table.keeps_refl _, Table.keeps_refl _,
    Table.keeps_put_upserted sameKey sameId row _, ?_, fun sound =>
      ⟨sound.organizations, sound.sites, ?_,
        oneDefault_put sound (Bool.eq_false_iff.mpr other)⟩⟩,
    _, (Table.lookup_put _ _ _).trans (if_pos writtenKey), rfl, chosen⟩
  · intro key stored found storedDefault
    by_cases here : (db.domains.upserted row row.chosen).key = key
    · exact ⟨_, (Table.lookup_put _ _ _).trans (if_pos here), chosen⟩
    · exact ⟨stored, (Table.lookup_put_of_ne here).trans found, storedDefault⟩
  · refine sound.domains.put_upserted sameKey sameId ?_
    intro absent stored member same
    exact used ⟨absent, stored, member, same⟩

end Statements

/-- The slugs name these identifiers. -/
structure Names (db : ScopeDb) (arguments : ScopeArguments) (ids : ScopeIds) :
    Prop where
  organization : db.organizations.idOf OrganizationRow.id
    arguments.organizationSlug = some ids.organizationId
  site : db.sites.idOf SiteRow.id (ids.organizationId, arguments.siteSlug) =
    some ids.siteId
  domain : db.domains.idOf RoutingDomainRow.id
    (ids.organizationId, ids.siteId, "default") = some ids.routingDomainId
  chosen : ∃ row, db.domains.lookup
    (ids.organizationId, ids.siteId, "default") = some row ∧
      row.isDefault = true

private theorem Names.extend
    {before after : ScopeDb} {arguments : ScopeArguments}
    {ids : ScopeIds} (names : Names before arguments ids)
    (extended : Extends before after) : Names after arguments ids where
  organization := extended.organizations _ _ names.organization
  site := extended.sites _ _ names.site
  domain := extended.domains _ _ names.domain
  chosen := by
    obtain ⟨row, found, isDefault⟩ := names.chosen
    exact extended.defaults _ row found isDefault

/-- A start leaves the database, or answers with what its slugs name then. -/
inductive StartEnds (start : ScopeStart) (db : ScopeDb) :
    Except SqlError (Option ScopeIds) → ScopeDb → Prop
  | failed (failure : SqlError) : StartEnds start db (.error failure) db
  | idle : scopeArguments start.environment = none →
      StartEnds start db (.ok none) db
  | ensured {arguments : ScopeArguments} {ids : ScopeIds} {reached : ScopeDb} :
      scopeArguments start.environment = some arguments →
      slugAccepted arguments.organizationSlug = true →
      Extends db reached → Names reached arguments ids →
      StartEnds start db (.ok (some ids)) reached

private theorem maybeBootstrapScope_endsIn (start : ScopeStart) (db : ScopeDb) :
    (maybeBootstrapScope start).EndsIn (StartEnds start db) db db := by
  rw [maybeBootstrapScope]
  cases asked : scopeArguments start.environment with
  | none => exact .done (.idle asked)
  | some arguments =>
      refine .statement_bind (fun _ => .failed _) ?_
      intro organizationId _ organizationWritten
      obtain ⟨organizationExtends, organizationNamed, accepted⟩ :=
        execUpsertOrganization_eq_ok organizationWritten
      refine .statement_bind (fun _ => .failed _) ?_
      intro siteId _ siteWritten
      obtain ⟨siteExtends, siteNamed⟩ := execUpsertSite_eq_ok siteWritten
      refine .statement_bind (fun _ => .failed _) ?_
      intro routingDomainId _ domainWritten
      obtain ⟨domainExtends, later, found, isNamed, isDefault⟩ :=
        execUpsertDomain_eq_ok rfl domainWritten
      refine .commit (fun _ => .failed _) (.done ?_)
      exact .ensured asked accepted
        ((organizationExtends.trans siteExtends).trans domainExtends)
        { organization := (siteExtends.trans domainExtends).organizations _ _
            organizationNamed
          site := domainExtends.sites _ _ siteNamed
          domain := (congrArg (Option.map RoutingDomainRow.id) found).trans
            (congrArg some isNamed)
          chosen := ⟨later, found, isDefault⟩ }

/-! ## Runs -/

private theorem StartEnds.extends {start : ScopeStart} {db reached : ScopeDb}
    {answer : Except SqlError (Option ScopeIds)}
    (ended : StartEnds start db answer reached) : Extends db reached := by
  cases ended with
  | failed failure => exact extends_refl db
  | idle unasked => exact extends_refl db
  | ensured asked accepted extended names => exact extended

/-- Whatever starts follow, what is named keeps its identifiers. -/
theorem extends_of_reachable {first : ScopeDb} {later : scopeSql.State}
    (reachable : scopeClient.Reachable (· = first) later) :
    Extends first later := by
  induction reachable with
  | initial isFirst =>
      subst isFirst
      exact extends_refl _
  | call start plan _ inductionHypothesis =>
      exact inductionHypothesis.trans
        ((maybeBootstrapScope_endsIn start _).callFaulty plan).extends

/-- A start that has answered with identifiers, from a database. -/
def AnswersWith (start : ScopeStart) (plan : List (Option SqlError))
    (db : ScopeDb) (ids : ScopeIds) (reached : ScopeDb) : Prop :=
  (maybeBootstrapScope start).callFaulty plan db = (.ok (some ids), reached)

private theorem AnswersWith.ensured {start : ScopeStart}
    {plan : List (Option SqlError)} {db reached : ScopeDb} {ids : ScopeIds}
    (answers : AnswersWith start plan db ids reached) :
    ∃ arguments, scopeArguments start.environment = some arguments ∧
      slugAccepted arguments.organizationSlug = true ∧
      Extends db reached ∧ Names reached arguments ids := by
  have ended := (maybeBootstrapScope_endsIn start db).callFaulty plan
  rw [answers] at ended
  cases ended with
  | ensured asked accepted extended names =>
      exact ⟨_, asked, accepted, extended, names⟩

/-- In a sound database two identifiers agree exactly when their names do. -/
structure Agree (arguments otherArguments : ScopeArguments)
    (ids otherIds : ScopeIds) : Prop where
  organization : ids.organizationId = otherIds.organizationId ↔
    arguments.organizationSlug = otherArguments.organizationSlug
  site : ids.siteId = otherIds.siteId ↔
    arguments.organizationSlug = otherArguments.organizationSlug ∧
      arguments.siteSlug = otherArguments.siteSlug
  domain : ids.routingDomainId = otherIds.routingDomainId ↔
    arguments.organizationSlug = otherArguments.organizationSlug ∧
      arguments.siteSlug = otherArguments.siteSlug

private theorem Names.agree
    {db : ScopeDb} {arguments otherArguments : ScopeArguments}
    {ids otherIds : ScopeIds} (sound : Sound db)
    (names : Names db arguments ids) (others : Names db otherArguments otherIds) :
    Agree arguments otherArguments ids otherIds := by
  have organization : ids.organizationId = otherIds.organizationId ↔
      arguments.organizationSlug = otherArguments.organizationSlug := by
    constructor
    · intro same
      exact sound.organizations.key_unique names.organization
        (same ▸ others.organization)
    · intro same
      have named := others.organization
      rw [← same, names.organization] at named
      exact Option.some.inj named
  have site : ids.siteId = otherIds.siteId ↔
      arguments.organizationSlug = otherArguments.organizationSlug ∧
        arguments.siteSlug = otherArguments.siteSlug := by
    rw [← organization]
    constructor
    · intro same
      exact Prod.mk.inj (sound.sites.key_unique names.site (same ▸ others.site))
    · rintro ⟨sameOrganization, sameSlug⟩
      have named := others.site
      rw [← sameOrganization, ← sameSlug, names.site] at named
      exact Option.some.inj named
  refine ⟨organization, site, ?_⟩
  rw [← site]
  constructor
  · intro same
    have keys := Prod.mk.inj
      (sound.domains.key_unique names.domain (same ▸ others.domain))
    exact (Prod.mk.inj keys.2).1
  · intro sameSite
    have sameOrganization := organization.mpr (site.mp sameSite).1
    have named := others.domain
    rw [← sameOrganization, ← sameSite, names.domain] at named
    exact Option.some.inj named

/-- Any two starts that have answered, whatever starts have failed or succeeded
before, between and after them, agree on an identifier exactly when their
environments agree on the slugs that name it. -/
theorem scope_ids_agree {db first middle last final : ScopeDb}
    (sound : Sound db) {start other : ScopeStart}
    {plan otherPlan : List (Option SqlError)} {ids otherIds : ScopeIds}
    (answers : AnswersWith start plan db ids first)
    (between : scopeClient.Reachable (· = first) middle)
    (otherAnswers : AnswersWith other otherPlan middle otherIds last)
    (after : scopeClient.Reachable (· = last) final) :
    Sound final ∧ ∃ arguments otherArguments,
      scopeArguments start.environment = some arguments ∧
      scopeArguments other.environment = some otherArguments ∧
      Names final arguments ids ∧ Names final otherArguments otherIds ∧
      Agree arguments otherArguments ids otherIds := by
  obtain ⟨arguments, asked, -, extended, names⟩ := answers.ensured
  obtain ⟨otherArguments, otherAsked, -, otherExtended, otherNames⟩ :=
    otherAnswers.ensured
  have atEnd := extends_of_reachable after
  have later := ((extends_of_reachable between).trans otherExtended).trans atEnd
  have soundFinal := later.sound (extended.sound sound)
  have namesFinal := names.extend later
  have otherNamesFinal := otherNames.extend atEnd
  exact ⟨soundFinal, arguments, otherArguments, asked, otherAsked, namesFinal,
    otherNamesFinal, namesFinal.agree soundFinal otherNamesFinal⟩

namespace Sample

/-- An environment with an organization, and perhaps with a site. -/
def environment (organizationName : String) (siteSlug : Option String) :
    Environment
  | "SNM_BOOTSTRAP_ORG_SLUG" => some "acme"
  | "SNM_BOOTSTRAP_ORG_NAME" => some organizationName
  | "SNM_BOOTSTRAP_SITE_SLUG" => siteSlug
  | _ => none

def start (organizationName : String) (siteSlug : Option String)
    (fresh : ScopeIds) : ScopeStart :=
  ⟨environment organizationName siteSlug, fresh, 0⟩

def firstStart : ScopeStart := start "Acme" none ⟨⟨1⟩, ⟨2⟩, ⟨3⟩⟩

/-- The start of another site of the organization. -/
def labStart : ScopeStart :=
  start "Acme Inc" (some "lab") ⟨⟨11⟩, ⟨12⟩, ⟨13⟩⟩

/-- The start of a third one, which fails at first. -/
def hallStart : ScopeStart :=
  start "Acme Hall" (some "hall") ⟨⟨21⟩, ⟨22⟩, ⟨23⟩⟩

/-- The connection is lost at the second statement. -/
def lost : List (Option SqlError) := [none, some (.other "57P01")]

def started : ScopeDb := ((maybeBootstrapScope firstStart).call .empty).2

def interrupted : ScopeDb :=
  ((maybeBootstrapScope hallStart).callFaulty lost started).2

def grown : ScopeDb := ((maybeBootstrapScope labStart).call interrupted).2

def complete : ScopeDb := ((maybeBootstrapScope hallStart).call grown).2

private theorem sound_empty : Sound .empty :=
  ⟨Table.identified_empty, Table.identified_empty, Table.identified_empty,
    by rintro _ ⟨⟩⟩

private theorem firstStart_answers :
    AnswersWith firstStart [] .empty ⟨⟨1⟩, ⟨2⟩, ⟨3⟩⟩ started :=
  Prod.ext (by decide) rfl

private theorem interrupted_reachable :
    scopeClient.Reachable (· = started) interrupted :=
  @Client.Reachable.call _ _ scopeClient _ _ hallStart lost (.initial rfl)

private theorem labStart_answers :
    AnswersWith labStart [] interrupted ⟨⟨1⟩, ⟨12⟩, ⟨13⟩⟩ grown :=
  Prod.ext (by decide) rfl

private theorem grown_reachable :
    scopeClient.Reachable (· = started) grown :=
  @Client.Reachable.call _ _ scopeClient _ _ labStart [] interrupted_reachable

private theorem complete_reachable :
    scopeClient.Reachable (· = grown) complete :=
  @Client.Reachable.call _ _ scopeClient _ _ hallStart [] (.initial rfl)

end Sample

theorem scope_ids_agree_sites : Sound Sample.complete ∧
    ∃ arguments otherArguments,
      scopeArguments (Sample.environment "Acme" none) = some arguments ∧
      scopeArguments (Sample.environment "Acme Inc" (some "lab")) =
        some otherArguments ∧
      Names Sample.complete arguments ⟨⟨1⟩, ⟨2⟩, ⟨3⟩⟩ ∧
      Names Sample.complete otherArguments ⟨⟨1⟩, ⟨12⟩, ⟨13⟩⟩ ∧
      Agree arguments otherArguments ⟨⟨1⟩, ⟨2⟩, ⟨3⟩⟩ ⟨⟨1⟩, ⟨12⟩, ⟨13⟩⟩ :=
  scope_ids_agree Sample.sound_empty Sample.firstStart_answers
    Sample.interrupted_reachable Sample.labStart_answers
    Sample.complete_reachable

/-- What is not blank has a character that is no space. -/
theorem nameAccepted_nonEmptyEnv (environment : Environment) (name : String)
    {byDefault : String} (accepted : nameAccepted byDefault = true) :
    nameAccepted ((nonEmptyEnv environment name).getD byDefault) = true := by
  cases found : nonEmptyEnv environment name with
  | none => exact accepted
  | some value =>
      rw [nonEmptyEnv, Option.filter_eq_some_iff, Bool.not_eq_true',
        Bool.eq_false_iff, ne_eq, isBlank_iff] at found
      by_contra refused
      apply found.2
      intro character member
      have isSpace : character = ' ' := by
        by_contra other
        exact refused (List.any_eq_true.mpr
          ⟨character, member, by simpa using other⟩)
      rw [isSpace]
      decide

/-- The names that an environment asks for are accepted. -/
theorem names_accepted {environment : Environment}
    {arguments : ScopeArguments}
    (asked : scopeArguments environment = some arguments) :
    nameAccepted arguments.organizationName = true ∧
      nameAccepted arguments.siteName = true := by
  rw [scopeArguments, Option.map_eq_some_iff] at asked
  obtain ⟨slug, -, rfl⟩ := asked
  exact ⟨nameAccepted_nonEmptyEnv environment "SNM_BOOTSTRAP_ORG_NAME"
      (by decide),
    nameAccepted_nonEmptyEnv environment "SNM_BOOTSTRAP_SITE_NAME" (by decide)⟩

section Again

variable {db : ScopeDb} {named : Uuid}

private theorem execUpsertOrganization_of_named {row : OrganizationRow}
    (name : nameAccepted row.name = true) (slug : slugAccepted row.slug = true)
    (isNamed : db.organizations.idOf OrganizationRow.id row.slug =
      some named) :
    ∃ writes, execUpsertOrganization row db = .ok (named, writes) := by
  rw [Table.idOf, Option.map_eq_some_iff] at isNamed
  obtain ⟨stored, found, rfl⟩ := isNamed
  have written : db.organizations.upserted row row.renamed =
      row.renamed stored := by
    rw [Table.upserted, found]
  refine ⟨[.organization (row.renamed stored)], ?_⟩
  rw [execUpsertOrganization, written, name, slug, found]
  simp only [reduceCtorEq, false_and, if_false, Bool.not_true,
    Bool.false_eq_true]
  rfl

private theorem execUpsertSite_of_named {row : SiteRow}
    (name : nameAccepted row.name = true)
    (organization : ∃ slug, db.organizations.idOf OrganizationRow.id slug =
      some row.organizationId)
    (isNamed : db.sites.idOf SiteRow.id row.key = some named) :
    ∃ writes, execUpsertSite row db = .ok (named, writes) := by
  rw [Table.idOf, Option.map_eq_some_iff] at isNamed
  obtain ⟨stored, found, rfl⟩ := isNamed
  obtain ⟨slug, isOrganization⟩ := organization
  obtain ⟨owner, member, -, isOwner⟩ :=
    Table.idOf_eq_some_iff.mp isOrganization
  have written : db.sites.upserted row row.renamed = row.renamed stored := by
    rw [Table.upserted, found]
  have owned : ∃ organization ∈ db.organizations.rows,
      organization.id = row.organizationId := ⟨owner, member, isOwner⟩
  refine ⟨[.site (row.renamed stored)], ?_⟩
  rw [execUpsertSite, written, name, found]
  simp only [reduceCtorEq, false_and, if_false, Bool.not_true,
    Bool.false_eq_true, owned, not_true_eq_false]
  rfl

private theorem execUpsertDomain_of_named
    {row : RoutingDomainRow} (sound : Sound db)
    (site : ∃ slug, db.sites.idOf SiteRow.id (row.organizationId, slug) =
      some row.siteId) {stored : RoutingDomainRow}
    (found : db.domains.lookup row.key = some stored)
    (isDefault : stored.isDefault = true) :
    ∃ writes, execUpsertDomain row db = .ok (stored.id, writes) := by
  obtain ⟨slug, isSite⟩ := site
  obtain ⟨place, member, isKey, isPlace⟩ := Table.idOf_eq_some_iff.mp isSite
  have written : db.domains.upserted row row.chosen = row.chosen stored := by
    rw [Table.upserted, found]
  have inSite : ∃ site ∈ db.sites.rows,
      site.id = row.siteId ∧ site.organizationId = row.organizationId :=
    ⟨place, member, isPlace, (Prod.mk.inj isKey).1⟩
  have storedKey : stored.key = row.key := Table.key_of_lookup found
  obtain ⟨storedOrganization, storedDomain⟩ := Prod.mk.inj storedKey
  obtain ⟨storedSite, storedName⟩ := Prod.mk.inj storedDomain
  -- The stored row is the default of its site, so no other one is.
  have noOther : otherDefault row db = false := by
    rw [otherDefault, List.any_eq_false]
    intro other otherMember isOther
    obtain ⟨otherDefault, organization, sameSite, otherName⟩ :=
      of_decide_eq_true isOther
    have same := sound.oneDefault other otherMember stored
      (Table.mem_of_lookup found) otherDefault isDefault
      (organization.trans storedOrganization.symm)
      (sameSite.trans storedSite.symm)
    rw [same] at otherName
    exact otherName storedName
  refine ⟨[.domain (row.chosen stored)], ?_⟩
  rw [execUpsertDomain, written, found, noOther]
  simp only [reduceCtorEq, false_and, if_false, Bool.false_eq_true, inSite,
    not_true_eq_false]
  rfl

/-- A start whose slugs are named answers with what they name. -/
theorem start_of_named (sound : Sound db) {start : ScopeStart}
    {arguments : ScopeArguments} {ids : ScopeIds}
    (asked : scopeArguments start.environment = some arguments)
    (accepted : slugAccepted arguments.organizationSlug = true)
    (names : Names db arguments ids) :
    ∃ reached, AnswersWith start [] db ids reached := by
  obtain ⟨organizationName, siteName⟩ := names_accepted asked
  obtain ⟨first, organizationWritten⟩ :=
    @execUpsertOrganization_of_named db ids.organizationId
      ⟨start.fresh.organizationId, arguments.organizationSlug,
        arguments.organizationName, start.now⟩ organizationName accepted
      names.organization
  have organizationExtends :=
    (execUpsertOrganization_eq_ok organizationWritten).1
  have namesFirst := names.extend organizationExtends
  obtain ⟨second, siteWritten⟩ :=
    @execUpsertSite_of_named (scopeSql.applyAll first db) ids.siteId
      ⟨start.fresh.siteId, ids.organizationId, arguments.siteSlug,
        arguments.siteName, start.now⟩ siteName
      ⟨_, namesFirst.organization⟩ namesFirst.site
  have siteExtends := (execUpsertSite_eq_ok siteWritten).1
  have namesSecond := namesFirst.extend siteExtends
  have soundSecond := siteExtends.sound (organizationExtends.sound sound)
  obtain ⟨stored, found, isDefault⟩ := namesSecond.chosen
  have isNamed := namesSecond.domain
  rw [Table.idOf, found, Option.map_some, Option.some.injEq] at isNamed
  obtain ⟨third, domainWritten⟩ :=
    @execUpsertDomain_of_named _
      ⟨start.fresh.routingDomainId, ids.organizationId, ids.siteId, "default",
        true, start.now⟩ soundSecond ⟨_, namesSecond.site⟩ stored found
      isDefault
  rw [isNamed] at domainWritten
  refine ⟨scopeSql.applyAll third (scopeSql.applyAll second
    (scopeSql.applyAll first db)), ?_⟩
  rw [AnswersWith, maybeBootstrapScope, asked]
  refine @Program.call_of_eval scopeSql _ _ _ _ _ (.fresh _) ?_
  refine (Program.eval_exec_ok organizationWritten).trans ?_
  refine (Program.eval_exec_ok siteWritten).trans ?_
  exact Program.eval_exec_ok domainWritten

end Again

/-- Whatever starts have failed or succeeded since a start has answered, a start
that asks for the same slugs, with whatever names, answers again when nothing
faults, and with the same identifiers. -/
theorem restart_succeeds {db first middle : ScopeDb} (sound : Sound db)
    {start again : ScopeStart} {plan : List (Option SqlError)}
    {ids : ScopeIds} {arguments others : ScopeArguments}
    (answers : AnswersWith start plan db ids first)
    (between : scopeClient.Reachable (· = first) middle)
    (asked : scopeArguments start.environment = some arguments)
    (askedAgain : scopeArguments again.environment = some others)
    (sameOrganization : others.organizationSlug = arguments.organizationSlug)
    (sameSite : others.siteSlug = arguments.siteSlug) :
    ∃ last, AnswersWith again [] middle ids last := by
  obtain ⟨named, askedNamed, accepted, extended, names⟩ := answers.ensured
  cases askedNamed.symm.trans asked
  have later := extends_of_reachable between
  have namesLater := names.extend later
  refine start_of_named (later.sound (extended.sound sound)) askedAgain
    (sameOrganization ▸ accepted) ?_
  exact ⟨sameOrganization ▸ namesLater.organization,
    sameSite ▸ namesLater.site, namesLater.domain, namesLater.chosen⟩

theorem restart_succeeds_renamed : ∃ last, AnswersWith
    (Sample.start "Acme Labs" none ⟨⟨31⟩, ⟨32⟩, ⟨33⟩⟩) [] Sample.grown
      ⟨⟨1⟩, ⟨2⟩, ⟨3⟩⟩ last :=
  restart_succeeds Sample.sound_empty Sample.firstStart_answers
    Sample.grown_reachable rfl rfl rfl rfl

end NetworkManager.Backend.ScopeBootstrap
