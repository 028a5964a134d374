import Mathlib.Logic.Function.Basic
import NetworkManager.Backend.Cookies

/-!
# The cookies of a session

A login and a refresh answer with two cookies, a logout takes them back.  What
the handlers write, a browser stores, and what it sends of it, among any other
cookies, the handlers read back as they have written it.
-/

namespace NetworkManager.Backend

open NetworkManager.Foundation
open NetworkManager.Security.Token
open NetworkManager.Transaction

/-- `HeaderValue::from_str`. -/
def headerValue (text : String) : Option Bytes :=
  if (utf8Bytes text).all isVisibleAscii then some (utf8Bytes text) else none

def secureAttribute (cookieSecure : Bool) : String :=
  if cookieSecure then "; Secure" else ""

/-- What stands behind the value of the refresh cookie. -/
def refreshAttributes (cookieSecure : Bool) : String :=
  "; Path=/; HttpOnly; SameSite=Strict; Max-Age=" ++
    toString (refreshTtlDays * 24 * 60 * 60) ++ secureAttribute cookieSecure

def csrfAttributes (cookieSecure : Bool) : String :=
  "; Path=/; SameSite=Strict; Max-Age=" ++
    toString (refreshTtlDays * 24 * 60 * 60) ++ secureAttribute cookieSecure

def noStore : String × Bytes := ("cache-control", utf8Bytes "no-store")

def sessionCookieHeaders (cookieSecure : Bool) (issued : IssuedSession) :
    Except AuthError HeaderMap :=
  let refresh := refreshCookieName cookieSecure ++ "=" ++
    issued.refreshToken.secret ++ refreshAttributes cookieSecure
  let csrf := csrfCookieName cookieSecure ++ "=" ++
    issued.csrfToken.secret ++ csrfAttributes cookieSecure
  match headerValue refresh, headerValue csrf with
  | some refresh, some csrf =>
      .ok ⟨[("set-cookie", refresh), ("set-cookie", csrf), noStore]⟩
  | _, _ => .error .unavailable

/-- The field that takes a cookie back. -/
def clearingField (cookieSecure : Bool) (name : String) : String :=
  let httpOnly :=
    if containsText name "refresh" then "; HttpOnly" else ""
  name ++ "=; Path=/; SameSite=Strict; Max-Age=0" ++ httpOnly ++
    secureAttribute cookieSecure

def clearCookieHeaders (cookieSecure : Bool) : HeaderMap where
  fields :=
    ([refreshCookieName cookieSecure, csrfCookieName cookieSecure].filterMap
        fun name => (headerValue (clearingField cookieSecure name)).map
          fun value => ("set-cookie", value)) ++ [noStore]

structure AccessResponse where
  accessToken : String
  tokenType : String
  expiresInSeconds : Int
  csrfToken : String
deriving DecidableEq, Repr

def issuedResponse (cookieSecure : Bool) (issued : IssuedSession) :
    Except AuthError (HeaderMap × AccessResponse) := do
  let headers ← sessionCookieHeaders cookieSecure issued
  return (headers,
    { accessToken := issued.accessToken
      tokenType := "Bearer"
      expiresInSeconds := accessTtlSeconds
      csrfToken := issued.csrfToken.secret })

/-- The handler of `refresh`, up to its response. -/
def refreshHandler (service : AuthService) (cookieSecure : Bool)
    (context : CallContext) (headers : HeaderMap)
    (plan : List (Option SqlError)) (db : AuthDb) :
    Except AuthError IssuedSession × AuthDb :=
  match cookieValue headers (refreshCookieName cookieSecure) with
  | none => (.error .invalidSession, db)
  | some presented =>
      if csrfValid service.library headers (csrfCookieName cookieSecure) then
        (refresh service context (utf8Bytes presented)).callFaulty plan db
      else
        (.error .csrfRejected, db)

/-- The cookies of a browser, by their names. -/
abbrev Jar := String → Option String

/-- The name and the value with which a `Set-Cookie` field begins. -/
def cookiePair (field : List Char) : Option (List Char × List Char) :=
  splitOnce '=' (field.takeWhile (· != ';'))

/-- The field gives its cookie no time to live. -/
def takesBack (field : List Char) : Bool :=
  (((field.dropWhile (· != ';')).splitOn ';').map
    (stripEnds isWhiteSpace)).any (· == "Max-Age=0".toList)

def Jar.store (jar : Jar) (field : String) : Jar :=
  match cookiePair field.toList with
  | none => jar
  | some (name, value) =>
      Function.update jar (String.ofList name)
        (if takesBack field.toList then none else some (String.ofList value))

/-- The cookies after a response. -/
def Jar.receive (jar : Jar) (headers : HeaderMap) : Jar :=
  ((headers.getAll "set-cookie").filterMap toStr).foldl Jar.store jar

/-- A visible character that does not end a cookie. -/
def IsTokenText (character : Char) : Prop :=
  33 ≤ character.toNat ∧ character.toNat ≤ 126 ∧ character ≠ ';'

instance : DecidablePred IsTokenText := fun _ =>
  inferInstanceAs (Decidable (_ ∧ _ ∧ _))

/-- Base64 writes letters, digits, `-` and `_`. -/
def UrlSafe (library : TokenLibrary) : Prop :=
  ∀ bytes, ∀ character ∈ (library.base64Encode bytes).toList,
    character.isAlphanum ∨ character = '-' ∨ character = '_'

private theorem isTokenText_of_urlSafe {character : Char}
    (safe : character.isAlphanum ∨ character = '-' ∨ character = '_') :
    IsTokenText character := by
  rcases safe with alphanumeric | rfl | rfl
  · have code : character.toNat = character.val.toNat := rfl
    change (decide (character.val ≥ 65 ∧ character.val ≤ 90) ||
      decide (character.val ≥ 97) && decide (character.val ≤ 122) ||
      decide (character.val ≥ 48) && decide (character.val ≤ 57)) = true
        at alphanumeric
    simp only [Bool.or_eq_true, Bool.and_eq_true, decide_eq_true_eq,
      ge_iff_le, UInt32.le_iff_toNat_le] at alphanumeric
    have differs : character.toNat ≠ 59 := by
      rw [code]
      rintro isSemicolon
      rw [isSemicolon] at alphanumeric
      revert alphanumeric
      decide
    refine ⟨?_, ?_, ?_⟩
    · rw [code]
      rcases alphanumeric with (upper | lower) | digit
      · exact le_trans (by decide) upper.1
      · exact le_trans (by decide) lower.1
      · exact le_trans (by decide) digit.1
    · rw [code]
      rcases alphanumeric with (upper | lower) | digit
      · exact le_trans upper.2 (by decide)
      · exact le_trans lower.2 (by decide)
      · exact le_trans digit.2 (by decide)
    · rintro rfl
      exact differs rfl
  · decide
  · decide

/-- The secret of an issued token is fit for a cookie. -/
theorem isTokenText_secret {library : TokenLibrary} (urlSafe : UrlSafe library)
    {tokenPrefix : String} {random : FixedBytes 32} {issued : IssuedOpaqueToken}
    (isIssued : issueOpaqueToken library tokenPrefix random = .ok issued)
    (plain : ∀ character ∈ tokenPrefix.toList, IsTokenText character) :
    ∀ character ∈ issued.secret.toList, IsTokenText character := by
  intro character member
  rw [issueOpaqueToken] at isIssued
  split at isIssued
  · cases isIssued
  · cases isIssued
    rw [String.toList_append, String.toList_append, List.mem_append,
      List.mem_append] at member
    rcases member with (inPrefix | isSeparator) | encoded
    · exact plain character inPrefix
    · rcases List.mem_singleton.mp isSeparator with rfl
      decide
    · exact isTokenText_of_urlSafe (urlSafe random.bytes character encoded)

section Storing

private theorem cookiePair_eq {name value rest : List Char}
    (nameFree : ∀ character ∈ name, character ≠ '=' ∧ character ≠ ';')
    (valueFree : ';' ∉ value) :
    cookiePair (name ++ '=' :: value ++ ';' :: rest) = some (name, value) := by
  have plain : ∀ character ∈ name ++ '=' :: value,
      (character != ';') = true := by
    intro character member
    rw [bne_iff_ne]
    rcases List.mem_append.mp member with inName | inRest
    · exact (nameFree character inName).2
    · rcases List.mem_cons.mp inRest with rfl | inValue
      · decide
      · exact fun same => valueFree (same ▸ inValue)
  have begins : ∀ character ∈ name, (character != '=') = true := by
    intro character member
    exact bne_iff_ne.mpr (nameFree character member).1
  have stops : (name ++ '=' :: value ++ ';' :: rest).takeWhile (· != ';') =
      name ++ '=' :: value := by
    rw [List.takeWhile_append_of_pos plain, List.takeWhile_cons_of_neg (by simp),
      List.append_nil]
  rw [cookiePair, stops, splitOnce, List.dropWhile_append_of_pos begins,
    List.takeWhile_append_of_pos begins, List.dropWhile_cons_of_neg (by simp),
    List.takeWhile_cons_of_neg (by simp), List.append_nil]

private theorem takesBack_eq {pair rest : List Char} (free : ';' ∉ pair) :
    takesBack (pair ++ ';' :: rest) = takesBack (';' :: rest) := by
  have plain : ∀ character ∈ pair, (character != ';') = true := by
    intro character member
    exact bne_iff_ne.mpr fun same => free (same ▸ member)
  rw [takesBack, List.dropWhile_append_of_pos plain]
  rfl

/-- A text of visible characters is a header value, and is read as it is. -/
theorem headerValue_eq {text : String}
    (isText : ∀ character ∈ text.toList, IsHeaderText character) :
    headerValue text = some (utf8Bytes text) ∧
      toStr (utf8Bytes text) = some text := by
  have bytes : utf8Bytes text =
      text.toList.map fun character => character.val.toUInt8 := by
    rw [← utf8Bytes_ofList_of_ascii fun character member =>
      (isVisibleAscii_of_isHeaderText (isText character member)).1,
      String.ofList_toList]
  have visible : (utf8Bytes text).all isVisibleAscii = true := by
    rw [bytes, List.all_map, List.all_eq_true]
    intro character member
    exact (isVisibleAscii_of_isHeaderText (isText character member)).2
  constructor
  · rw [headerValue, if_pos visible]
  · rw [toStr, if_pos visible, fromUtf8_eq_some_iff.mpr rfl]

/-- A name of a cookie. -/
structure IsName (name : String) : Prop where
  free : ∀ character ∈ name.toList, character ≠ '=' ∧ character ≠ ';'
  plain : ∀ character ∈ name.toList, IsHeaderText character

/-- What may stand behind the value of a cookie. -/
structure IsRest (rest : String) : Prop where
  begins : rest.toList.head? = some ';'
  plain : ∀ character ∈ rest.toList, IsHeaderText character

private theorem isHeaderText_of_isTokenText {character : Char}
    (isText : IsTokenText character) : IsHeaderText character :=
  Or.inr ⟨le_trans (by decide) isText.1, isText.2.1⟩

variable {name value rest : String}

/-- A field that sets a cookie is a header value. -/
theorem headerValue_field (isName : IsName name)
    (isValue : ∀ character ∈ value.toList, IsTokenText character)
    (isRest : IsRest rest) :
    headerValue (name ++ "=" ++ value ++ rest) =
        some (utf8Bytes (name ++ "=" ++ value ++ rest)) ∧
      toStr (utf8Bytes (name ++ "=" ++ value ++ rest)) =
        some (name ++ "=" ++ value ++ rest) := by
  apply headerValue_eq
  intro character member
  rw [String.toList_append, String.toList_append, String.toList_append,
    List.mem_append, List.mem_append, List.mem_append] at member
  rcases member with ((inName | isEquals) | inValue) | inRest
  · exact isName.plain character inName
  · rcases List.mem_singleton.mp isEquals with rfl
    exact Or.inr (by decide)
  · exact isHeaderText_of_isTokenText (isValue character inValue)
  · exact isRest.plain character inRest

/-- A browser stores the cookie of a field under its name, or removes it. -/
theorem store_field (jar : Jar) (isName : IsName name)
    (isValue : ∀ character ∈ value.toList, IsTokenText character)
    (isRest : IsRest rest) :
    jar.store (name ++ "=" ++ value ++ rest) =
      Function.update jar name
        (if takesBack rest.toList then none else some value) := by
  obtain ⟨after, starts⟩ : ∃ after, rest.toList = ';' :: after := by
    cases split : rest.toList with
    | nil =>
        have begins := isRest.begins
        rw [split] at begins
        cases begins
    | cons first after =>
        have begins := isRest.begins
        rw [split] at begins
        cases begins
        exact ⟨after, rfl⟩
  have valueFree : ';' ∉ value.toList := fun member =>
    (isValue ';' member).2.2 rfl
  have characters : (name ++ "=" ++ value ++ rest).toList =
      name.toList ++ '=' :: value.toList ++ ';' :: after := by
    rw [String.toList_append, String.toList_append, String.toList_append,
      starts]
    simp
  have pairFree : ';' ∉ name.toList ++ '=' :: value.toList := by
    intro member
    rcases List.mem_append.mp member with inName | inRest
    · exact (isName.free ';' inName).2 rfl
    · rcases List.mem_cons.mp inRest with isEquals | inValue
      · cases isEquals
      · exact valueFree inValue
  rw [Jar.store, characters, cookiePair_eq isName.free valueFree,
    takesBack_eq pairFree, starts]
  simp only [String.ofList_toList]

end Storing

/-! ## The names and the attributes -/

instance : DecidablePred IsHeaderText := fun _ =>
  inferInstanceAs (Decidable (_ ∨ _))

private theorem isName_refreshCookieName (cookieSecure : Bool) :
    IsName (refreshCookieName cookieSecure) := by
  cases cookieSecure with
  | false =>
      exact ⟨Sample.forall_of_all (by decide), Sample.forall_of_all (by decide)⟩
  | true =>
      exact ⟨Sample.forall_of_all (by decide), Sample.forall_of_all (by decide)⟩

private theorem isName_csrfCookieName (cookieSecure : Bool) :
    IsName (csrfCookieName cookieSecure) := by
  cases cookieSecure with
  | false =>
      exact ⟨Sample.forall_of_all (by decide), Sample.forall_of_all (by decide)⟩
  | true =>
      exact ⟨Sample.forall_of_all (by decide), Sample.forall_of_all (by decide)⟩

private theorem refreshAttributes_kept (cookieSecure : Bool) :
    IsRest (refreshAttributes cookieSecure) ∧
      takesBack (refreshAttributes cookieSecure).toList = false := by
  cases cookieSecure with
  | false =>
      exact ⟨⟨by decide, Sample.forall_of_all (by decide)⟩, by decide⟩
  | true =>
      exact ⟨⟨by decide, Sample.forall_of_all (by decide)⟩, by decide⟩

private theorem csrfAttributes_kept (cookieSecure : Bool) :
    IsRest (csrfAttributes cookieSecure) ∧
      takesBack (csrfAttributes cookieSecure).toList = false := by
  cases cookieSecure with
  | false =>
      exact ⟨⟨by decide, Sample.forall_of_all (by decide)⟩, by decide⟩
  | true =>
      exact ⟨⟨by decide, Sample.forall_of_all (by decide)⟩, by decide⟩

/-- What stands behind the name of a cookie that is taken back. -/
def clearingRest (cookieSecure : Bool) (name : String) : String :=
  "; Path=/; SameSite=Strict; Max-Age=0" ++
    (if containsText name "refresh" then "; HttpOnly" else "") ++
      secureAttribute cookieSecure

private theorem clearingField_eq (cookieSecure : Bool) (name : String) :
    clearingField cookieSecure name =
      name ++ "=" ++ "" ++ clearingRest cookieSecure name := by
  have begins : "=; Path=/; SameSite=Strict; Max-Age=0" =
      "=" ++ "; Path=/; SameSite=Strict; Max-Age=0" := by decide
  unfold clearingField clearingRest
  simp only [begins, String.append_empty, String.append_assoc]

private theorem clearingRest_gone (cookieSecure : Bool) (name : String) :
    IsRest (clearingRest cookieSecure name) ∧
      takesBack (clearingRest cookieSecure name).toList = true := by
  unfold clearingRest
  cases containsText name "refresh" with
  | false =>
      cases cookieSecure with
      | false =>
          exact ⟨⟨by decide, Sample.forall_of_all (by decide)⟩,
            by decide⟩
      | true =>
          exact ⟨⟨by decide, Sample.forall_of_all (by decide)⟩,
            by decide⟩
  | true =>
      cases cookieSecure with
      | false =>
          exact ⟨⟨by decide, Sample.forall_of_all (by decide)⟩,
            by decide⟩
      | true =>
          exact ⟨⟨by decide, Sample.forall_of_all (by decide)⟩,
            by decide⟩

section Responding

variable {issued : IssuedSession}

/-- Both secrets of the session are fit for a cookie. -/
structure HasTokenTexts (issued : IssuedSession) : Prop where
  refresh : ∀ character ∈ issued.refreshToken.secret.toList,
    IsTokenText character
  csrf : ∀ character ∈ issued.csrfToken.secret.toList, IsTokenText character

/-- A jar with the cookies of a session. -/
def Jar.holding (jar : Jar) (cookieSecure : Bool)
    (refresh csrf : Option String) : Jar :=
  Function.update (Function.update jar (refreshCookieName cookieSecure) refresh)
    (csrfCookieName cookieSecure) csrf

private theorem cookieNames_ne (cookieSecure : Bool) :
    refreshCookieName cookieSecure ≠ csrfCookieName cookieSecure := by
  cases cookieSecure with
  | false => decide
  | true => decide

private theorem holding_refresh (jar : Jar) (cookieSecure : Bool)
    (refresh csrf : Option String) :
    jar.holding cookieSecure refresh csrf (refreshCookieName cookieSecure) =
      refresh := by
  rw [Jar.holding, Function.update_of_ne (cookieNames_ne cookieSecure),
    Function.update_self]

private theorem holding_csrf (jar : Jar) (cookieSecure : Bool)
    (refresh csrf : Option String) :
    jar.holding cookieSecure refresh csrf (csrfCookieName cookieSecure) =
      csrf :=
  Function.update_self ..

private theorem receive_pair (jar : Jar) {first second : String}
    (firstRead : toStr (utf8Bytes first) = some first)
    (secondRead : toStr (utf8Bytes second) = some second) :
    jar.receive ⟨[("set-cookie", utf8Bytes first),
        ("set-cookie", utf8Bytes second), noStore]⟩ =
      (jar.store first).store second := by
  have fields : HeaderMap.getAll ⟨[("set-cookie", utf8Bytes first),
      ("set-cookie", utf8Bytes second), noStore]⟩ "set-cookie" =
        [utf8Bytes first, utf8Bytes second] := rfl
  rw [Jar.receive, fields, List.filterMap_cons_some firstRead,
    List.filterMap_cons_some secondRead]
  rfl

/-- The answer to a login or a refresh gives the browser both tokens. -/
theorem issuedResponse_eq (cookieSecure : Bool)
    (texts : HasTokenTexts issued) :
    ∃ headers answer, issuedResponse cookieSecure issued =
        .ok (headers, answer) ∧
      answer.csrfToken = issued.csrfToken.secret ∧
      ∀ jar : Jar, jar.receive headers = jar.holding cookieSecure
        (some issued.refreshToken.secret) (some issued.csrfToken.secret) := by
  have refreshName := isName_refreshCookieName cookieSecure
  have csrfName := isName_csrfCookieName cookieSecure
  obtain ⟨refreshRest, refreshKept⟩ := refreshAttributes_kept cookieSecure
  obtain ⟨csrfRest, csrfKept⟩ := csrfAttributes_kept cookieSecure
  obtain ⟨refreshValue, refreshRead⟩ :=
    headerValue_field refreshName texts.refresh refreshRest
  obtain ⟨csrfValue, csrfRead⟩ :=
    headerValue_field csrfName texts.csrf csrfRest
  have responds : sessionCookieHeaders cookieSecure issued = .ok
      ⟨[("set-cookie", utf8Bytes (refreshCookieName cookieSecure ++ "=" ++
            issued.refreshToken.secret ++ refreshAttributes cookieSecure)),
        ("set-cookie", utf8Bytes (csrfCookieName cookieSecure ++ "=" ++
            issued.csrfToken.secret ++ csrfAttributes cookieSecure)),
        noStore]⟩ := by
    simp only [sessionCookieHeaders, refreshValue, csrfValue]
  refine ⟨_, _, by rw [issuedResponse, responds]; rfl, rfl, fun jar => ?_⟩
  rw [receive_pair jar refreshRead csrfRead,
    store_field jar refreshName texts.refresh refreshRest,
    store_field _ csrfName texts.csrf csrfRest, refreshKept, csrfKept]
  rfl

/-- The answer to a logout takes both tokens back. -/
theorem receive_clearCookieHeaders (jar : Jar) (cookieSecure : Bool) :
    jar.receive (clearCookieHeaders cookieSecure) =
      jar.holding cookieSecure none none := by
  have isEmpty : ∀ character ∈ ("" : String).toList, IsTokenText character := by
    simp
  have refreshName := isName_refreshCookieName cookieSecure
  have csrfName := isName_csrfCookieName cookieSecure
  obtain ⟨refreshRest, refreshGone⟩ :=
    clearingRest_gone cookieSecure (refreshCookieName cookieSecure)
  obtain ⟨csrfRest, csrfGone⟩ :=
    clearingRest_gone cookieSecure (csrfCookieName cookieSecure)
  obtain ⟨refreshValue, refreshRead⟩ :=
    headerValue_field refreshName isEmpty refreshRest
  obtain ⟨csrfValue, csrfRead⟩ := headerValue_field csrfName isEmpty csrfRest
  rw [← clearingField_eq] at refreshValue refreshRead csrfValue csrfRead
  have clears : clearCookieHeaders cookieSecure =
      ⟨[("set-cookie", utf8Bytes (clearingField cookieSecure
            (refreshCookieName cookieSecure))),
        ("set-cookie", utf8Bytes (clearingField cookieSecure
            (csrfCookieName cookieSecure))), noStore]⟩ := by
    simp [clearCookieHeaders, refreshValue, csrfValue]
  rw [clears, receive_pair jar refreshRead csrfRead, clearingField_eq,
    clearingField_eq, store_field jar refreshName isEmpty refreshRest,
    store_field _ csrfName isEmpty csrfRest, refreshGone, csrfGone]
  rfl

end Responding

/-! ## Presenting the cookies -/

/-- A request with the cookies of the jar in one field. -/
def HeaderMap.Presents (headers : HeaderMap) (jar : Jar) : Prop :=
  ∃ field, headers.Carries [field] ∧ ∀ name, firstValue name field = jar name

/-- The request repeats a token in its header. -/
def HeaderMap.Repeats (headers : HeaderMap) (csrfToken : String) : Prop :=
  (headers.get csrfHeader).bind toStr = some csrfToken

section Presenting

variable {service : AuthService} {cookieSecure : Bool} {context : CallContext}
  {headers : HeaderMap} {jar : Jar} {plan : List (Option SqlError)}
  {db : AuthDb} {refreshToken csrfToken : String}

private theorem cookieValue_presents (presents : headers.Presents jar)
    (name : String) : cookieValue headers name = jar name := by
  obtain ⟨field, carries, same⟩ := presents
  rw [cookieValue_eq carries, List.headD_cons]
  exact same name

private theorem csrfValid_presents (library : TokenLibrary)
    (presents : headers.Presents
      (jar.holding cookieSecure (some refreshToken) (some csrfToken)))
    (repeats : headers.Repeats csrfToken) :
    csrfValid library headers (csrfCookieName cookieSecure) = true := by
  have found : cookieValue headers (csrfCookieName cookieSecure) =
      some csrfToken := by
    rw [cookieValue_presents presents, holding_csrf]
  rw [HeaderMap.Repeats] at repeats
  rw [csrfValid, found, repeats]
  exact opaqueTokenMatches_self library _

private theorem csrfValid_of_absent
    (library : TokenLibrary) (cookieName : String)
    (absent : headers.get csrfHeader = none) :
    csrfValid library headers cookieName = false := by
  rw [csrfValid, absent]
  cases cookieValue headers cookieName with
  | none => rfl
  | some cookie => rfl

/-- With the cookies of a session and its CSRF token a request refreshes it and
ends it. -/
theorem handlers_presents
    (presents : headers.Presents
      (jar.holding cookieSecure (some refreshToken) (some csrfToken)))
    (repeats : headers.Repeats csrfToken) :
    refreshHandler service cookieSecure context headers plan db =
        (refresh service context (utf8Bytes refreshToken)).callFaulty plan db ∧
      logoutHandler service cookieSecure context headers plan db =
        (logout service context (utf8Bytes refreshToken)).callFaulty plan
          db := by
  have found : cookieValue headers (refreshCookieName cookieSecure) =
      some refreshToken := by
    rw [cookieValue_presents presents, holding_refresh]
  have valid := csrfValid_presents service.library presents repeats
  constructor
  · rw [refreshHandler, found]
    exact if_pos valid
  · rw [logoutHandler, found]
    exact if_pos valid

/-- With the cookies alone a request is refused. -/
theorem handlers_forged
    (presents : headers.Presents
      (jar.holding cookieSecure (some refreshToken) (some csrfToken)))
    (absent : headers.get csrfHeader = none) :
    refreshHandler service cookieSecure context headers plan db =
        (.error .csrfRejected, db) ∧
      logoutHandler service cookieSecure context headers plan db =
        (.error .csrfRejected, db) := by
  have found : cookieValue headers (refreshCookieName cookieSecure) =
      some refreshToken := by
    rw [cookieValue_presents presents, holding_refresh]
  have refused := Bool.eq_false_iff.mp
    (csrfValid_of_absent service.library (csrfCookieName cookieSecure) absent)
  constructor
  · rw [refreshHandler, found]
    exact if_neg refused
  · rw [logoutHandler, found]
    exact if_neg refused

/-- Without the cookies there is no session to refresh or to end. -/
theorem handlers_withoutCookies
    (presents : headers.Presents (jar.holding cookieSecure none none)) :
    refreshHandler service cookieSecure context headers plan db =
        (.error .invalidSession, db) ∧
      logoutHandler service cookieSecure context headers plan db =
        (.ok (), db) := by
  have missed : cookieValue headers (refreshCookieName cookieSecure) =
      none := by
    rw [cookieValue_presents presents, holding_refresh]
  constructor
  · rw [refreshHandler, missed]
  · exact logoutHandler_missed missed

/-- A session that has been issued travels through the cookies of a browser:
the answer gives both tokens to the jar and touches no other cookie; a request
that presents the jar and repeats the token of the answer refreshes and ends
the session of exactly this refresh token; one that does not repeat it is
refused; and the answer to a logout takes both tokens back. -/
theorem cookies_carry_session (service : AuthService) {issued : IssuedSession}
    {refreshRandom csrfRandom : FixedBytes 32}
    (urlSafe : UrlSafe service.library)
    (refreshIssued : issueOpaqueToken service.library refreshPrefix
      refreshRandom = .ok issued.refreshToken)
    (csrfIssued : issueOpaqueToken service.library csrfPrefix csrfRandom =
      .ok issued.csrfToken) (cookieSecure : Bool) (jar : Jar) :
    ∃ given answer,
      issuedResponse cookieSecure issued = .ok (given, answer) ∧
      answer.csrfToken = issued.csrfToken.secret ∧
      jar.receive given (refreshCookieName cookieSecure) =
        some issued.refreshToken.secret ∧
      jar.receive given (csrfCookieName cookieSecure) =
        some issued.csrfToken.secret ∧
      (∀ name, name ≠ refreshCookieName cookieSecure →
        name ≠ csrfCookieName cookieSecure →
          jar.receive given name = jar name ∧
          (jar.receive given).receive (clearCookieHeaders cookieSecure) name =
            jar name) ∧
      (∀ request context plan db,
        request.Presents (jar.receive given) →
        request.Repeats answer.csrfToken →
        refreshHandler service cookieSecure context request plan db =
            (refresh service context
              (utf8Bytes issued.refreshToken.secret)).callFaulty plan db ∧
          logoutHandler service cookieSecure context request plan db =
            (logout service context
              (utf8Bytes issued.refreshToken.secret)).callFaulty plan db) ∧
      (∀ request context plan db,
        request.Presents (jar.receive given) →
        request.get csrfHeader = none →
        refreshHandler service cookieSecure context request plan db =
            (.error .csrfRejected, db) ∧
          logoutHandler service cookieSecure context request plan db =
            (.error .csrfRejected, db)) ∧
      ∀ request context plan db,
        request.Presents
          ((jar.receive given).receive (clearCookieHeaders cookieSecure)) →
        refreshHandler service cookieSecure context request plan db =
            (.error .invalidSession, db) ∧
          logoutHandler service cookieSecure context request plan db =
            (.ok (), db) := by
  have texts : HasTokenTexts issued :=
    ⟨isTokenText_secret urlSafe refreshIssued
        (Sample.forall_of_all (by decide)),
      isTokenText_secret urlSafe csrfIssued
        (Sample.forall_of_all (by decide))⟩
  obtain ⟨given, answer, responds, token, receives⟩ :=
    issuedResponse_eq cookieSecure texts
  refine ⟨given, answer, responds, token, ?_, ?_, ?_, ?_, ?_, ?_⟩
  · rw [receives, holding_refresh]
  · rw [receives, holding_csrf]
  · intro name notRefresh notCsrf
    rw [receive_clearCookieHeaders, receives, Jar.holding, Jar.holding,
      Function.update_of_ne notCsrf, Function.update_of_ne notRefresh,
      Function.update_of_ne notCsrf, Function.update_of_ne notRefresh,
      Function.update_of_ne notCsrf, Function.update_of_ne notRefresh]
    exact ⟨rfl, rfl⟩
  · intro request context plan db presents repeats
    rw [receives] at presents
    rw [token] at repeats
    exact handlers_presents presents repeats
  · intro request context plan db presents absent
    rw [receives] at presents
    exact handlers_forged presents absent
  · intro request context plan db presents
    rw [receive_clearCookieHeaders] at presents
    exact handlers_withoutCookies presents

end Presenting

namespace Sample

private theorem urlSafe_codec : UrlSafe codec := by
  intro bytes character member
  have isDigit : ∃ value < 64, Base64.digit value = character := by
    have encoded : (codec.base64Encode bytes).toList =
        (Base64.encodeValues bytes).map Base64.digit := String.toList_ofList
    rw [encoded] at member
    obtain ⟨value, inValues, rfl⟩ := List.mem_map.mp member
    exact ⟨value, Base64.lt_of_mem_encodeValues inValues, rfl⟩
  have all : ∀ value : Fin 64, (Base64.digit value).isAlphanum ∨
      Base64.digit value = '-' ∨ Base64.digit value = '_' := by
    decide +kernel
  obtain ⟨value, small, rfl⟩ := isDigit
  exact all ⟨value, small⟩

/-- A session that has just been issued. -/
def issued : IssuedSession where
  identity := ⟨⟨10⟩, ⟨2⟩, ⟨1⟩, []⟩
  accessToken := "access"
  refreshToken :=
    { secret := refreshToken
      visiblePrefix := "snm_rt_AQEBAQEB"
      hash := hashOpaqueToken codec (utf8Bytes refreshToken) }
  csrfToken :=
    { secret := "csrf_AQEBAQEBAQEBAQEBAQEBAQEBAQEBAQEBAQEBAQEBAQE"
      visiblePrefix := "csrf_AQEBAQEB"
      hash := hashOpaqueToken codec
        (utf8Bytes "csrf_AQEBAQEBAQEBAQEBAQEBAQEBAQEBAQEBAQEBAQEBAQE") }

def csrfCookie : Cookie where
  name := "snm_csrf".toList
  value := issued.csrfToken.secret.toList
  nameVisible := forall_of_all (by decide)
  nameFree := forall_of_all (by decide)
  valueVisible := forall_of_all (by decide)
  valueFree := by decide
  valueTrimmed := by decide

/-- The cookies of a session and its CSRF token. -/
def sessionHeaders : HeaderMap where
  fields :=
    [("cookie", utf8Bytes (String.ofList
        (fieldText [placed sessionCookie, placed csrfCookie]))),
      ("x-snm-csrf", utf8Bytes issued.csrfToken.secret)]

def emptyJar : Jar := fun _ => none

private theorem presents_sessionHeaders : sessionHeaders.Presents
    (emptyJar.holding false (some issued.refreshToken.secret)
      (some issued.csrfToken.secret)) := by
  refine ⟨[placed sessionCookie, placed csrfCookie], rfl, fun name => ?_⟩
  by_cases isCsrf : name = "snm_csrf"
  · subst isCsrf
    decide
  by_cases isRefresh : name = "snm_refresh"
  · subst isRefresh
    decide
  have notCsrf : csrfCookie.name ≠ name.toList := fun same =>
    isCsrf (String.toList_inj.mp same.symm)
  have notRefresh : sessionCookie.name ≠ name.toList := fun same =>
    isRefresh (String.toList_inj.mp same.symm)
  have absent : emptyJar.holding false (some issued.refreshToken.secret)
      (some issued.csrfToken.secret) name = none := by
    rw [Jar.holding]
    exact (Function.update_of_ne isCsrf _ _).trans
      (Function.update_of_ne isRefresh _ _)
  simp [firstValue, placed, notCsrf, notRefresh, absent]

end Sample

/-- A browser without cookies that has logged in can refresh. -/
theorem cookies_carry_session_sample :
    ∃ given answer,
      issuedResponse false Sample.issued = .ok (given, answer) ∧
        Sample.sessionHeaders.Presents (Sample.emptyJar.receive given) ∧
        refreshHandler Sample.exactService false (Sample.context 11 2)
            Sample.sessionHeaders [] Sample.openDb =
          (refresh Sample.exactService (Sample.context 11 2)
            (utf8Bytes Sample.refreshToken)).callFaulty [] Sample.openDb := by
  have texts : HasTokenTexts Sample.issued :=
    ⟨Sample.forall_of_all (by decide), Sample.forall_of_all (by decide)⟩
  obtain ⟨given, answer, responds, token, receives⟩ :=
    issuedResponse_eq false texts
  have refreshIssued : issueOpaqueToken Sample.codec refreshPrefix
      (.replicate 32 1) = .ok Sample.issued.refreshToken := by
    decide
  have csrfIssued : issueOpaqueToken Sample.codec csrfPrefix
      (.replicate 32 1) = .ok Sample.issued.csrfToken := by
    decide
  obtain ⟨also, alsoAnswer, alsoResponds, -, -, -, -, carries, -⟩ :=
    cookies_carry_session Sample.exactService Sample.urlSafe_codec
      refreshIssued csrfIssued false Sample.emptyJar
  cases responds.symm.trans alsoResponds
  have presents : Sample.sessionHeaders.Presents
      (Sample.emptyJar.receive given) := by
    rw [receives]
    exact Sample.presents_sessionHeaders
  have repeats : Sample.sessionHeaders.Repeats answer.csrfToken := by
    rw [token, HeaderMap.Repeats]
    decide
  exact ⟨given, answer, responds, presents,
    (carries _ _ [] Sample.openDb presents repeats).1⟩

end NetworkManager.Backend
