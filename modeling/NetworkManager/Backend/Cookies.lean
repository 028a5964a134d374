import NetworkManager.Backend.RefreshFailure
import NetworkManager.Backend.Revocation

/-!
# Cookies

A request may carry its cookies in several `Cookie` fields.  A lookup reads the
first field only, so a cookie that stands in a later one is not found, and a
logout that misses its cookie answers with success.
-/

namespace NetworkManager.Backend

open NetworkManager.Foundation
open NetworkManager.Security.Token
open NetworkManager.Transaction

/-- The fields of a request in order, under names in lower case. -/
structure HeaderMap where
  fields : List (String × Bytes)
deriving DecidableEq, Repr

/-- `HeaderMap::get`: the first value. -/
def HeaderMap.get (headers : HeaderMap) (name : String) : Option Bytes :=
  (headers.fields.find? fun field => field.1 = name).map Prod.snd

/-- `HeaderMap::get_all`. -/
def HeaderMap.getAll (headers : HeaderMap) (name : String) : List Bytes :=
  (headers.fields.filter fun field => field.1 = name).map Prod.snd

/-- The bytes that `HeaderValue::to_str` accepts. -/
def isVisibleAscii (byte : UInt8) : Bool :=
  (32 ≤ byte && byte < 127) || byte == 9

/-- `HeaderValue::to_str`. -/
def toStr (value : Bytes) : Option String :=
  if value.all isVisibleAscii then fromUtf8 value else none

/-- `str::split_once`. -/
def splitOnce (separator : Char) (text : List Char) :
    Option (List Char × List Char) :=
  match text.dropWhile (· != separator) with
  | [] => none
  | _ :: after => some (text.takeWhile (· != separator), after)

/-- The value of the first pair with a name in the text of a field. -/
def findCookie (name : String) (text : List Char) : Option String :=
  (((text.splitOn ';').map (stripEnds isWhiteSpace)).filterMap
    (splitOnce '=')).findSome? fun pair =>
      if pair.1 = name.toList then some (String.ofList pair.2) else none

def cookieValue (headers : HeaderMap) (name : String) : Option String := do
  let field ← headers.get "cookie"
  let text ← toStr field
  findCookie name text.toList

def csrfHeader : String := "x-snm-csrf"

/-- The name of the cookie with the refresh token. -/
def refreshCookieName (cookieSecure : Bool) : String :=
  if cookieSecure then "__Host-snm_refresh" else "snm_refresh"

def csrfCookieName (cookieSecure : Bool) : String :=
  if cookieSecure then "__Host-snm_csrf" else "snm_csrf"

def csrfValid (library : TokenLibrary) (headers : HeaderMap)
    (cookieName : String) : Bool :=
  match cookieValue headers cookieName with
  | none => false
  | some cookie =>
      match (headers.get csrfHeader).bind toStr with
      | none => false
      | some headerValue =>
          let expected := hashOpaqueToken library (utf8Bytes cookie)
          opaqueTokenMatches library (utf8Bytes headerValue) expected

/-- The handler of `logout`.  Success is the answer `NO_CONTENT`; the faults of
the plan befall the statements of the call. -/
def logoutHandler (service : AuthService) (cookieSecure : Bool)
    (context : CallContext) (headers : HeaderMap)
    (plan : List (Option SqlError)) (db : AuthDb) :
    Except AuthError Unit × AuthDb :=
  match cookieValue headers (refreshCookieName cookieSecure) with
  | none => (.ok (), db)
  | some refresh =>
      if csrfValid service.library headers (csrfCookieName cookieSecure) then
        (logout service context (utf8Bytes refresh)).callFaulty plan db
      else
        (.error .csrfRejected, db)

/-! ## Cookies in fields -/

structure Cookie where
  name : List Char
  value : List Char
  nameVisible : ∀ character ∈ name,
    33 ≤ character.toNat ∧ character.toNat ≤ 126
  nameFree : ∀ character ∈ name, character ≠ '=' ∧ character ≠ ';'
  valueVisible : ∀ character ∈ value,
    32 ≤ character.toNat ∧ character.toNat ≤ 126
  valueFree : ';' ∉ value
  /-- The value begins and ends without white space. -/
  valueTrimmed : stripEnds isWhiteSpace value = value

/-- A cookie and the white space around it. -/
structure Placed where
  cookie : Cookie
  before : List Char
  after : List Char
  beforeBlank : ∀ character ∈ before, character = ' ' ∨ character = '\t'
  afterBlank : ∀ character ∈ after, character = ' ' ∨ character = '\t'

/-- `name=value`. -/
def Cookie.pair (cookie : Cookie) : List Char :=
  cookie.name ++ '=' :: cookie.value

def Placed.text (placed : Placed) : List Char :=
  placed.before ++ placed.cookie.pair ++ placed.after

/-- The text of a field with these cookies. -/
def fieldText (field : List Placed) : List Char :=
  [';'].intercalate (field.map Placed.text)

/-- The request carries these cookies in its `Cookie` fields. -/
def HeaderMap.Carries (headers : HeaderMap) (fields : List (List Placed)) :
    Prop :=
  headers.getAll "cookie" =
    fields.map fun field => utf8Bytes (String.ofList (fieldText field))

/-- The value of the first cookie with a name. -/
def firstValue (name : String) (cookies : List Placed) : Option String :=
  (cookies.find? fun placed => placed.cookie.name = name.toList).map
    fun placed => String.ofList placed.cookie.value

section Reading

variable {name : String} {cookie : Cookie} {placed : Placed}
  {field : List Placed}

private theorem isWhiteSpace_of_visible {character : Char}
    (visible : 33 ≤ character.toNat ∧ character.toNat ≤ 126) :
    isWhiteSpace character = false := by
  obtain ⟨above, below⟩ := visible
  simp only [isWhiteSpace, Bool.or_eq_false_iff, Bool.and_eq_false_imp,
    decide_eq_true_eq, decide_eq_false_iff_not, beq_eq_false_iff_ne]
  omega

/-- Nothing is stripped between two ends that stay. -/
theorem stripEnds_of_ends {strip : Char → Bool} {characters : List Char}
    (begins : ∀ first ∈ characters.head?, strip first = false)
    (ends : ∀ last ∈ characters.getLast?, strip last = false) :
    stripEnds strip characters = characters := by
  have fromLeft : characters.dropWhile strip = characters := by
    cases characters with
    | nil => rfl
    | cons first rest =>
        rw [List.dropWhile_cons_of_neg]
        simp [begins first rfl]
  rw [stripEnds, fromLeft]
  apply List.rdropWhile_eq_self_iff.mpr
  intro nonempty
  simp [ends _ (List.getLast?_eq_some_getLast nonempty)]

private theorem Cookie.stripEnds_pair (cookie : Cookie) :
    stripEnds isWhiteSpace cookie.pair = cookie.pair := by
  have equalsStays : isWhiteSpace '=' = false := by decide
  apply stripEnds_of_ends
  · intro first isFirst
    cases split : cookie.name with
    | nil =>
        rw [pair, split] at isFirst
        cases isFirst
        exact equalsStays
    | cons head rest =>
        rw [pair, split] at isFirst
        cases isFirst
        apply isWhiteSpace_of_visible
        apply cookie.nameVisible
        rw [split]
        exact List.mem_cons_self
  · intro last isLast
    rw [pair, List.getLast?_append_cons, List.getLast?_cons,
      Option.mem_some_iff] at isLast
    cases ends : cookie.value.getLast? with
    | none =>
        rw [ends] at isLast
        rw [← isLast]
        exact equalsStays
    | some other =>
        rw [ends] at isLast
        have trimmed := cookie.valueTrimmed
        rw [stripEnds] at trimmed
        have nonempty : cookie.value ≠ [] := by
          intro isEmpty
          rw [isEmpty] at ends
          cases ends
        have kept := List.rdropWhile_last_not isWhiteSpace
          (cookie.value.dropWhile isWhiteSpace) (by rwa [trimmed])
        simp only [trimmed] at kept
        rw [List.getLast?_eq_some_getLast nonempty] at ends
        cases ends
        rw [← isLast]
        simpa using kept

private theorem isWhiteSpace_of_blank {character : Char}
    (blank : character = ' ' ∨ character = '\t') :
    isWhiteSpace character = true := by
  rcases blank with rfl | rfl
  · decide
  · decide

private theorem Placed.stripEnds_text (placed : Placed) :
    stripEnds isWhiteSpace placed.text = placed.cookie.pair := by
  have stripped : stripEnds isWhiteSpace placed.text =
      stripEnds isWhiteSpace placed.cookie.pair := by
    apply stripEnds_append
    · intro character member
      exact isWhiteSpace_of_blank (placed.beforeBlank character member)
    · intro character member
      exact isWhiteSpace_of_blank (placed.afterBlank character member)
  rw [stripped, Cookie.stripEnds_pair]

private theorem Cookie.splitOnce_pair (cookie : Cookie) :
    splitOnce '=' cookie.pair = some (cookie.name, cookie.value) := by
  have different : ∀ character ∈ cookie.name, (character != '=') = true := by
    intro character member
    simpa using (cookie.nameFree character member).1
  have stops : ('=' :: cookie.value).dropWhile (· != '=') =
      '=' :: cookie.value := by
    simp
  have nothing : ('=' :: cookie.value).takeWhile (· != '=') = [] := by
    simp
  rw [splitOnce, pair, List.dropWhile_append_of_pos different, stops,
    List.takeWhile_append_of_pos different, nothing, List.append_nil]

private theorem Cookie.semicolon_notMem_pair (cookie : Cookie) :
    ';' ∉ cookie.pair := by
  intro member
  rcases List.mem_append.mp member with inName | inRest
  · exact (cookie.nameFree ';' inName).2 rfl
  · rcases List.mem_cons.mp inRest with isEquals | inValue
    · cases isEquals
    · exact cookie.valueFree inValue

private theorem Placed.semicolon_notMem_text (placed : Placed) :
    ';' ∉ placed.text := by
  intro member
  rw [text, List.mem_append, List.mem_append] at member
  rcases member with (inBefore | inPair) | inAfter
  · simpa using placed.beforeBlank ';' inBefore
  · exact placed.cookie.semicolon_notMem_pair inPair
  · simpa using placed.afterBlank ';' inAfter

/-- A field is split into the pairs of its cookies. -/
theorem pairs_fieldText (field : List Placed) :
    (((fieldText field).splitOn ';').map (stripEnds isWhiteSpace)).filterMap
        (splitOnce '=') =
      field.map fun placed => (placed.cookie.name, placed.cookie.value) := by
  by_cases isEmpty : field = []
  · subst isEmpty
    decide
  · have parts : (fieldText field).splitOn ';' = field.map Placed.text := by
      apply List.splitOn_intercalate
      · intro part member
        obtain ⟨placed, _, rfl⟩ := List.mem_map.mp member
        exact placed.semicolon_notMem_text
      · simpa using isEmpty
    rw [parts, List.map_map, List.filterMap_map]
    have reads : ∀ placed : Placed,
        (splitOnce '=' ∘ stripEnds isWhiteSpace ∘ Placed.text) placed =
          some (placed.cookie.name, placed.cookie.value) := by
      intro placed
      rw [Function.comp_apply, Function.comp_apply, placed.stripEnds_text,
        placed.cookie.splitOnce_pair]
    rw [← List.filterMap_eq_map]
    congr 1
    funext placed
    exact reads placed

/-- A lookup in a field finds the first cookie with the name. -/
theorem findCookie_fieldText (name : String) (field : List Placed) :
    findCookie name (fieldText field) = firstValue name field := by
  rw [findCookie, pairs_fieldText, firstValue]
  induction field with
  | nil => rfl
  | cons placed rest inductionHypothesis =>
      rw [List.map_cons, List.findSome?_cons, List.find?_cons]
      by_cases named : placed.cookie.name = name.toList
      · simp [named]
      · simp only [named, if_false, decide_false]
        exact inductionHypothesis

/-- A character that `to_str` accepts. -/
def IsHeaderText (character : Char) : Prop :=
  character = '\t' ∨ 32 ≤ character.toNat ∧ character.toNat ≤ 126

private theorem Placed.isHeaderText_text {placed : Placed} {character : Char}
    (member : character ∈ placed.text) : IsHeaderText character := by
  rw [text, List.mem_append, List.mem_append, Cookie.pair, List.mem_append,
    List.mem_cons] at member
  have ofBlank : character = ' ' ∨ character = '\t' →
      IsHeaderText character := by
    rintro (rfl | rfl)
    · exact Or.inr (by decide)
    · exact Or.inl rfl
  rcases member with (inBefore | inName | isEquals | inValue) | inAfter
  · exact ofBlank (placed.beforeBlank character inBefore)
  · have visible := placed.cookie.nameVisible character inName
    exact Or.inr ⟨by omega, visible.2⟩
  · subst isEquals
    exact Or.inr (by decide)
  · exact Or.inr (placed.cookie.valueVisible character inValue)
  · exact ofBlank (placed.afterBlank character inAfter)

private theorem isHeaderText_fieldText {character : Char}
    (member : character ∈ fieldText field) : IsHeaderText character := by
  rw [fieldText] at member
  induction field with
  | nil => cases member
  | cons placed rest inductionHypothesis =>
      by_cases isLast : rest = []
      · subst isLast
        rw [List.map_singleton, List.intercalate_singleton] at member
        exact placed.isHeaderText_text member
      · rw [List.map_cons, List.intercalate_cons_of_ne_nil (by simpa using isLast),
          List.mem_append, List.mem_append, List.mem_singleton] at member
        rcases member with (inText | isSemicolon) | inRest
        · exact placed.isHeaderText_text inText
        · subst isSemicolon
          exact Or.inr (by decide)
        · exact inductionHypothesis inRest

theorem isVisibleAscii_of_isHeaderText {character : Char}
    (isText : IsHeaderText character) :
    character.val ≤ 127 ∧ isVisibleAscii character.val.toUInt8 = true := by
  rcases isText with rfl | ⟨above, below⟩
  · decide
  · have small : character.val.toNat ≤ 126 := below
    have large : 32 ≤ character.val.toNat := above
    constructor
    · rw [UInt32.le_iff_toNat_le]
      exact small.trans (by decide)
    · have code : character.val.toUInt8.toNat = character.val.toNat := by
        rw [UInt32.toNat_toUInt8]
        omega
      rw [isVisibleAscii, Bool.or_eq_true, Bool.and_eq_true,
        decide_eq_true_eq, decide_eq_true_eq, UInt8.le_iff_toNat_le,
        UInt8.lt_iff_toNat_lt, code]
      left
      exact ⟨large, Nat.lt_succ_of_le small⟩

/-- The bytes of a field are read as its text. -/
theorem toStr_fieldText (field : List Placed) :
    toStr (utf8Bytes (String.ofList (fieldText field))) =
      some (String.ofList (fieldText field)) := by
  have readable : ∀ character ∈ fieldText field, character.val ≤ 127 ∧
      isVisibleAscii character.val.toUInt8 = true := by
    intro character member
    exact isVisibleAscii_of_isHeaderText (isHeaderText_fieldText member)
  have bytes := utf8Bytes_ofList_of_ascii fun character member =>
    (readable character member).1
  have visible : (utf8Bytes (String.ofList (fieldText field))).all
      isVisibleAscii = true := by
    rw [bytes, List.all_map, List.all_eq_true]
    intro character member
    exact (readable character member).2
  rw [toStr, if_pos visible, fromUtf8_eq_some_iff.mpr rfl]

end Reading

section Finding

variable {headers : HeaderMap} {fields : List (List Placed)} {name : String}

/-- If a cookie with the name is carried, one is carried in the first field. -/
def InFirstField (name : String) (fields : List (List Placed)) : Prop :=
  (firstValue name fields.flatten).isSome →
    (firstValue name (fields.headD [])).isSome

private theorem HeaderMap.get_eq_head? (headers : HeaderMap) (name : String) :
    headers.get name = (headers.getAll name).head? := by
  rw [get, getAll, List.head?_map, List.head?_filter]

/-- A lookup sees the cookies of the first field. -/
theorem cookieValue_eq (carries : headers.Carries fields) (name : String) :
    cookieValue headers name = firstValue name (fields.headD []) := by
  rw [cookieValue, HeaderMap.get_eq_head?, carries]
  cases fields with
  | nil => rfl
  | cons field rest =>
      rw [List.map_cons, List.head?_cons, Option.bind_eq_bind, Option.bind_some,
        toStr_fieldText, Option.bind_eq_bind, Option.bind_some,
        String.toList_ofList, findCookie_fieldText, List.headD_cons]

private theorem firstValue_append (name : String) (first rest : List Placed) :
    firstValue name (first ++ rest) =
      (firstValue name first).or (firstValue name rest) := by
  rw [firstValue, List.find?_append, firstValue, firstValue]
  cases first.find? fun placed => placed.cookie.name = name.toList with
  | none => rfl
  | some placed => rfl

/-- The first cookie of the first field is the first of all. -/
theorem firstValue_flatten (name : String) (fields : List (List Placed)) :
    firstValue name fields.flatten =
      (firstValue name (fields.headD [])).or
        (firstValue name fields.tail.flatten) := by
  cases fields with
  | nil => rfl
  | cons field rest => exact firstValue_append name field rest.flatten

/-- The lookup of a name is right if and only if the name stands in the first
field or in none. -/
theorem cookieValue_eq_firstValue_iff (carries : headers.Carries fields)
    (name : String) :
    cookieValue headers name = firstValue name fields.flatten ↔
      InFirstField name fields := by
  rw [cookieValue_eq carries, InFirstField, firstValue_flatten]
  cases firstValue name (fields.headD []) with
  | none =>
      rw [Option.none_or, Option.isSome_none, Bool.false_eq_true, imp_false,
        Option.not_isSome_iff_eq_none, eq_comm]
  | some value => simp

/-- A cookie that is carried, but not in the first field, is missed. -/
theorem cookieValue_missed (carries : headers.Carries fields)
    (notFirst : ¬InFirstField name fields) :
    cookieValue headers name = none := by
  rw [cookieValue_eq carries]
  rw [InFirstField, Classical.not_imp, Option.not_isSome_iff_eq_none] at notFirst
  exact notFirst.2

end Finding

section Handling

variable {service : AuthService} {context : CallContext} {db : AuthDb}
  {headers : HeaderMap} {fields : List (List Placed)} {sessionId : Uuid}

/-- The refresh token belongs to the session. -/
def BelongsTo (service : AuthService) (db : AuthDb) (refresh : String)
    (sessionId : Uuid) : Prop :=
  ∃ token, (db.refreshTokens.rows.find? fun token =>
      token.tokenHash =
        hashOpaqueToken service.library (utf8Bytes refresh)) = some token ∧
    token.sessionId = sessionId ∧ (db.sessions.lookup sessionId).isSome

private theorem sessionRevoked_revokeFamily {familyId : Uuid} {now : Timestamp}
    (present : (db.sessions.lookup sessionId).isSome) :
    SessionRevoked sessionId
      (applyWrite (.sessionRevoked sessionId now)
        (applyWrite (.tokensRevoked familyId now) db)) := by
  obtain ⟨session, found⟩ := Option.isSome_iff_exists.mp present
  have selected : session.id = sessionId := Table.key_of_lookup found
  refine ⟨{ session with revokedAt := session.revokedAt.or (some now) }, ?_, ?_⟩
  · rw [applyWrite, applyWrite, Table.lookup_update, found, Option.map_some,
      if_pos (decide_eq_true selected)]
  · cases session.revokedAt with
    | none => rfl
    | some earlier => rfl

/-- A logout that ends well has revoked the session of its token. -/
theorem logout_revokes {refresh : String} {plan : List (Option SqlError)}
    {reached : AuthDb} (belongs : BelongsTo service db refresh sessionId)
    (answered : (logout service context (utf8Bytes refresh)).callFaulty plan
      db = (.ok (), reached)) : SessionRevoked sessionId reached := by
  obtain ⟨token, isToken, rfl, present⟩ := belongs
  obtain ⟨final, ended, rfl⟩ :=
    Program.call_eq_ok (Program.callFaulty_ok answered)
  rw [logout] at ended
  obtain ⟨found, _, ran, rest⟩ := Program.eval_bind_eq_ok ended
  obtain ⟨_, selected, rfl⟩ := Program.eval_statement_eq_ok ran
  simp only [Connection.fresh, isToken, Option.map_some, Except.ok.injEq,
    Prod.mk.injEq] at selected
  obtain ⟨isFound, noWrites⟩ := selected
  subst noWrites
  subst isFound
  obtain ⟨_, _, revoking, committing⟩ := Program.eval_bind_eq_ok rest
  rw [revokeFamily] at revoking
  obtain ⟨_, _, revokingTokens, revokingSession⟩ :=
    Program.eval_bind_eq_ok revoking
  obtain ⟨_, tokens, rfl⟩ := Program.eval_statement_eq_ok revokingTokens
  obtain ⟨_, sessions, rfl⟩ := Program.eval_statement_eq_ok revokingSession
  cases tokens
  cases sessions
  rw [Program.eval_commitNow_eq_ok committing]
  exact sessionRevoked_revokeFamily present

/-- If the logout answers with success, the session is revoked. -/
def LogoutRevokes (service : AuthService) (cookieSecure : Bool)
    (context : CallContext) (headers : HeaderMap)
    (plan : List (Option SqlError)) (db : AuthDb) (sessionId : Uuid) : Prop :=
  (logoutHandler service cookieSecure context headers plan db).1 = .ok () →
    SessionRevoked sessionId
      (logoutHandler service cookieSecure context headers plan db).2

/-- A logout that misses its cookie succeeds and changes nothing. -/
theorem logoutHandler_missed {cookieSecure : Bool}
    {plan : List (Option SqlError)}
    (missed : cookieValue headers (refreshCookieName cookieSecure) = none) :
    logoutHandler service cookieSecure context headers plan db =
      (.ok (), db) := by
  rw [logoutHandler, missed]

/-- A logout that finds its cookie and succeeds has revoked the session. -/
theorem logoutHandler_revokes {cookieSecure : Bool}
    {plan : List (Option SqlError)} {refresh : String}
    (found : cookieValue headers (refreshCookieName cookieSecure) =
      some refresh) (belongs : BelongsTo service db refresh sessionId) :
    LogoutRevokes service cookieSecure context headers plan db sessionId := by
  rw [LogoutRevokes, logoutHandler, found]
  intro succeeded
  by_cases valid : csrfValid service.library headers
      (csrfCookieName cookieSecure) = true
  · simp only [valid, if_true] at succeeded ⊢
    exact logout_revokes belongs (Prod.ext succeeded rfl)
  · simp [valid] at succeeded

/-- A logout with the refresh token of a session revokes the session whenever it
succeeds if and only if the cookie stands in the first field, or the session is
revoked already. -/
theorem logoutRevokes_iff {cookieSecure : Bool}
    {plan : List (Option SqlError)} {refresh : String}
    (carries : headers.Carries fields)
    (carried : firstValue (refreshCookieName cookieSecure) fields.flatten =
      some refresh) (belongs : BelongsTo service db refresh sessionId) :
    LogoutRevokes service cookieSecure context headers plan db sessionId ↔
      InFirstField (refreshCookieName cookieSecure) fields ∨
        SessionRevoked sessionId db := by
  by_cases first : InFirstField (refreshCookieName cookieSecure) fields
  · have found := (cookieValue_eq_firstValue_iff carries _).mpr first
    rw [carried] at found
    exact iff_of_true (logoutHandler_revokes found belongs) (Or.inl first)
  · rw [LogoutRevokes, logoutHandler_missed (cookieValue_missed carries first)]
    simp [first]

/-! ## The check against forged requests -/

theorem opaqueTokenMatches_self (library : TokenLibrary) (token : Bytes) :
    opaqueTokenMatches library token (hashOpaqueToken library token) =
      true := by
  rw [opaqueTokenMatches]
  exact decide_eq_true rfl

/-- A request whose header repeats its cookie passes if and only if the cookie
stands in the first field. -/
theorem csrfValid_iff (library : TokenLibrary) {cookieName cookie : String}
    (carries : headers.Carries fields)
    (carried : firstValue cookieName fields.flatten = some cookie)
    (repeated : (headers.get csrfHeader).bind toStr = some cookie) :
    csrfValid library headers cookieName = true ↔
      InFirstField cookieName fields := by
  by_cases first : InFirstField cookieName fields
  · have found := (cookieValue_eq_firstValue_iff carries _).mpr first
    rw [carried] at found
    rw [csrfValid, found, repeated]
    exact iff_of_true (opaqueTokenMatches_self library _) first
  · rw [csrfValid, cookieValue_missed carries first]
    exact iff_of_false (by simp) first

/-- For the cookies of a request, however they are placed: a lookup is right, a
logout that succeeds has revoked the session of its cookie, and a header that
repeats its cookie passes, each if and only if the cookie stands in the first
field or in none; or, for the logout, the session is revoked already. -/
theorem cookies_iff (service : AuthService) (cookieSecure : Bool)
    (context : CallContext) (plan : List (Option SqlError)) (db : AuthDb)
    (carries : headers.Carries fields) :
    (∀ name, cookieValue headers name = firstValue name fields.flatten ↔
      InFirstField name fields) ∧
    (∀ refresh sessionId,
      firstValue (refreshCookieName cookieSecure) fields.flatten =
        some refresh →
      BelongsTo service db refresh sessionId →
      (LogoutRevokes service cookieSecure context headers plan db sessionId ↔
        InFirstField (refreshCookieName cookieSecure) fields ∨
          SessionRevoked sessionId db)) ∧
    ∀ cookie,
      firstValue (csrfCookieName cookieSecure) fields.flatten = some cookie →
      (headers.get csrfHeader).bind toStr = some cookie →
      (csrfValid service.library headers (csrfCookieName cookieSecure) = true ↔
        InFirstField (csrfCookieName cookieSecure) fields) := by
  refine ⟨cookieValue_eq_firstValue_iff carries, ?_, ?_⟩
  · intro refresh sessionId carried belongs
    exact logoutRevokes_iff carries carried belongs
  · intro cookie carried repeated
    exact csrfValid_iff service.library carries carried repeated

end Handling

namespace Sample

theorem forall_of_all {holds : Char → Prop} [DecidablePred holds]
    {characters : List Char}
    (all : characters.all (fun character => decide (holds character)) = true) :
    ∀ character ∈ characters, holds character := by
  intro character member
  exact of_decide_eq_true (List.all_eq_true.mp all character member)

def theme : Cookie where
  name := "theme".toList
  value := "dark".toList
  nameVisible := forall_of_all (by decide)
  nameFree := forall_of_all (by decide)
  valueVisible := forall_of_all (by decide)
  valueFree := by decide
  valueTrimmed := by decide

/-- The cookie of a session. -/
def sessionCookie : Cookie where
  name := "snm_refresh".toList
  value := "snm_rt_AQEBAQEBAQEBAQEBAQEBAQEBAQEBAQEBAQEBAQEBAQE".toList
  nameVisible := forall_of_all (by decide)
  nameFree := forall_of_all (by decide)
  valueVisible := forall_of_all (by decide)
  valueFree := by decide
  valueTrimmed := by decide

/-- A cookie without spaces around it. -/
def placed (cookie : Cookie) : Placed where
  cookie
  before := []
  after := []
  beforeBlank := by simp
  afterBlank := by simp

/-- The cookie of the session stands in the second field. -/
def split : List (List Placed) := [[placed theme], [placed sessionCookie]]

def splitHeaders : HeaderMap where
  fields := split.map fun field =>
    ("cookie", utf8Bytes (String.ofList (fieldText field)))

private theorem carries_split : splitHeaders.Carries split := rfl

def refreshToken : String :=
  "snm_rt_AQEBAQEBAQEBAQEBAQEBAQEBAQEBAQEBAQEBAQEBAQE"

def openSession : SessionRow where
  id := ⟨10⟩
  organizationId := ⟨1⟩
  userId := ⟨2⟩
  refreshTokenHash :=
    hashOpaqueToken exactService.library (utf8Bytes refreshToken)
  refreshTokenPrefix := "snm_rt_AQEBAQEB"
  expiresAt := 2592001000000
  lastUsedAt := none
  authTime := 1000000
  revokedAt := none
  accessRevokedBefore := none
  createdAt := 1000000

def openToken : RefreshTokenRow where
  id := ⟨10⟩
  sessionId := ⟨10⟩
  familyId := ⟨10⟩
  generation := 0
  tokenPrefix := "snm_rt_AQEBAQEB"
  tokenHash := hashOpaqueToken exactService.library (utf8Bytes refreshToken)
  expiresAt := 2592001000000
  consumedAt := none
  revokedAt := none
  replacedById := none
  createdAt := 1000000

/-- A database with one open session. -/
def openDb : AuthDb :=
  { start with
    sessions := (Table.empty SessionRow.id).put openSession
    refreshTokens := (Table.empty RefreshTokenRow.id).put openToken }

private theorem belongs_openDb :
    BelongsTo exactService openDb refreshToken ⟨10⟩ :=
  ⟨openToken, by simp [openDb, Table.put, putRow, openToken], rfl, rfl⟩

private theorem not_revoked_openDb : ¬SessionRevoked ⟨10⟩ openDb := by
  rintro ⟨session, found, revoked⟩
  cases found
  cases revoked

private theorem firstValue_split :
    firstValue "snm_refresh" split.flatten = some refreshToken := by
  decide

private theorem not_inFirstField_split : ¬InFirstField "snm_refresh" split := by
  intro inFirst
  have found := inFirst (by rw [firstValue_split]; rfl)
  exact absurd found (by decide)

end Sample

/-- The cookie of the first field is found. -/
theorem cookies_iff_split :
    cookieValue Sample.splitHeaders "theme" = some "dark" := by
  have lookups := (cookies_iff Sample.exactService false (Sample.context 11 2) []
    Sample.openDb Sample.carries_split).1
  have first : firstValue "theme" Sample.split.flatten = some "dark" := by
    decide
  rw [(lookups "theme").mpr (fun _ => by decide), first]

/-- A logout whose refresh cookie stands in the second field does not find it,
and answers with success while the session stays open. -/
theorem not_cookies_complete :
    cookieValue Sample.splitHeaders "snm_refresh" ≠
        firstValue "snm_refresh" Sample.split.flatten ∧
      ¬LogoutRevokes Sample.exactService false (Sample.context 11 2)
        Sample.splitHeaders [] Sample.openDb ⟨10⟩ := by
  constructor
  · rw [Ne, cookieValue_eq_firstValue_iff Sample.carries_split]
    exact Sample.not_inFirstField_split
  · intro revokes
    have carried : firstValue (refreshCookieName false)
        Sample.split.flatten = some Sample.refreshToken :=
      Sample.firstValue_split
    rcases (logoutRevokes_iff Sample.carries_split carried
      Sample.belongs_openDb).mp revokes with inFirst | revoked
    · exact Sample.not_inFirstField_split inFirst
    · exact Sample.not_revoked_openDb revoked

end NetworkManager.Backend
