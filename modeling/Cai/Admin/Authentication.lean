/-
  Cai.Admin.Authentication — the two entrances of the administration.

  `require_admin_token` of `src/api/admin_routes.py`, and `_read_password`,
  `_password_matches` and `administrative_login` of `src/api/admin_ui.py`.
  `hmac.compare_digest` takes two texts of ASCII characters only, and raises
  `TypeError` for others; `json.loads` may give up with `RecursionError`.
  Nothing handles these two.

  Main results:
    * `authentication_decides_iff` — when both entrances decide.
    * `authentication_undecided` — a header with one accented letter.
-/
import Mathlib.Data.List.Basic
import Cai.Lib.Json
import Cai.Lib.Text

namespace Cai.Admin

open Cai.Lib

/-! ## §1. Texts. -/

/-- The part before the first `sep`, and the part after it. -/
def splitOnce (sep : Char) (text : String) : Option (String × String) :=
  match text.toList.dropWhile (· ≠ sep) with
  | [] => none
  | _ :: rest => some (String.ofList (text.toList.takeWhile (· ≠ sep)), String.ofList rest)

/-- A text of ASCII characters. -/
def isAscii (text : String) : Bool := text.toList.all fun c => c.toNat < 128

/-- `hmac.compare_digest` of two texts; `none` is `TypeError`. -/
def compareDigest (a b : String) : Option Bool :=
  if isAscii a && isAscii b then some (a == b) else none

theorem splitOnce_eq_some_iff {sep : Char} {text a b : String} :
    splitOnce sep text = some (a, b)
      ↔ text.toList = a.toList ++ sep :: b.toList ∧ sep ∉ a.toList := by
  unfold splitOnce
  constructor
  · intro h
    split at h
    next => cases h
    next first rest hdrop =>
      obtain ⟨ha, hb⟩ := Prod.mk.inj (Option.some.inj h)
      have hfirst : first = sep := by
        have hnot := List.head_dropWhile_not (fun c => decide (c ≠ sep)) (l := text.toList)
          (by rw [hdrop]; exact List.cons_ne_nil _ _)
        simp only [hdrop, List.head_cons] at hnot
        simpa using hnot
      rw [← ha, ← hb, String.toList_ofList, String.toList_ofList, ← hfirst]
      refine ⟨?_, fun hmem => ?_⟩
      · rw [hfirst, ← hfirst, ← hdrop, hfirst, List.takeWhile_append_dropWhile]
      · have hne := List.mem_takeWhile_imp hmem
        rw [hfirst] at hne
        simp at hne
  · intro ⟨htext, hsep⟩
    have hall : ∀ c ∈ a.toList, decide (c ≠ sep) = true := by
      intro c hc
      rw [decide_eq_true_eq]
      exact fun heq => hsep (heq ▸ hc)
    rw [htext, List.dropWhile_append_of_pos hall, List.dropWhile_cons_of_neg (by simp),
      List.takeWhile_append_of_pos hall, List.takeWhile_cons_of_neg (by simp),
      List.append_nil]
    simp only [String.ofList_toList]

/-! ## §2. The bearer token. -/

/-- What the two entrances raise. -/
inductive AdminError
  /-- `HTTPException` -/
  | http (status : Nat) (detail : String) (headers : List (String × String))
  | typeError
  | recursionError
  deriving DecidableEq, Repr

/-- `_reject_admin_auth` -/
def rejectAdminAuth : AdminError :=
  .http 401 "Invalid administrative credentials" [("WWW-Authenticate", "Bearer")]

/-- The settings of the administration. -/
structure AdminSettings where
  adminApiToken : Option String
  adminUiPassword : Option String
  adminSessionSecret : Option String

/-- `require_admin_token`, given the Authorization header. -/
def requireAdminToken (settings : AdminSettings) (authorization : Option String) :
    Except AdminError Unit :=
  let configured := settings.adminApiToken.getD ""
  if configured = "" then .error (.http 503 "Administrative API unavailable" [])
  else match authorization.bind (splitOnce ' ') with
    | none => .error rejectAdminAuth
    | some (scheme, presented) =>
        if Text.lower scheme ≠ "bearer" ∨ presented = "" then .error rejectAdminAuth
        else match compareDigest presented configured with
          | none => .error .typeError
          | some true => .ok ()
          | some false => .error rejectAdminAuth

/-- The header is the scheme, one space and the token. -/
def IsBearer (header token : String) : Prop :=
  ∃ scheme : String, Text.lower scheme = "bearer"
    ∧ header.toList = scheme.toList ++ ' ' :: token.toList

/-- The token is what decides: it is let in, or 401. -/
def TokenDecided (token : String) (authorization : Option String) (outcome : Except AdminError Unit) :
    Prop :=
  (outcome = .ok () ∧ ∃ header, authorization = some header ∧ IsBearer header token)
    ∨ (outcome = .error rejectAdminAuth ∧ ¬∃ header, authorization = some header ∧ IsBearer header token)

/-- A token that cannot be compared. -/
def Incomparable (token : String) (authorization : Option String) : Prop :=
  ∃ presented, (∃ header, authorization = some header ∧ IsBearer header presented) ∧ presented ≠ ""
    ∧ ¬(isAscii presented = true ∧ isAscii token = true)

/-- A scheme has no space. -/
theorem not_space_of_lower {scheme : String} (h : Text.lower scheme = "bearer") :
    ' ' ∉ scheme.toList := by
  intro hmem
  have hlower : ' ' ∈ (Text.lower scheme).toList := by
    unfold Text.lower
    rw [String.toList_ofList]
    exact List.mem_flatMap.mpr ⟨' ', hmem, by decide⟩
  rw [h] at hlower
  exact absurd hlower (by decide)

/-- What the header says is read from its first space on. -/
theorem bearer_iff {authorization : Option String} {token : String} :
    (∃ header, authorization = some header ∧ IsBearer header token)
      ↔ ∃ scheme, authorization.bind (splitOnce ' ') = some (scheme, token)
        ∧ Text.lower scheme = "bearer" := by
  constructor
  · intro ⟨header, hheader, scheme, hlower, htext⟩
    refine ⟨scheme, ?_, hlower⟩
    rw [hheader]
    exact splitOnce_eq_some_iff.mpr ⟨htext, not_space_of_lower hlower⟩
  · intro ⟨scheme, hsplit, hlower⟩
    obtain ⟨header, hheader, hsplit⟩ := Option.bind_eq_some_iff.mp hsplit
    exact ⟨header, hheader, scheme, hlower, (splitOnce_eq_some_iff.mp hsplit).1⟩

theorem compareDigest_of_ascii {a b : String} (ha : isAscii a = true) (hb : isAscii b = true) :
    compareDigest a b = some (a == b) := by
  unfold compareDigest
  rw [ha, hb]
  rfl

theorem compareDigest_of_not_ascii {a b : String} (h : ¬(isAscii a = true ∧ isAscii b = true)) :
    compareDigest a b = none := by
  unfold compareDigest
  rw [if_neg]
  rw [Bool.and_eq_true]
  exact h

variable {settings : AdminSettings} {token password secret : String} {authorization : Option String}

/-- **The token decides** when it can be compared. -/
theorem requireAdminToken_decides_iff (hsettings : settings.adminApiToken = some token)
    (htoken : token ≠ "") :
    TokenDecided token authorization (requireAdminToken settings authorization)
      ↔ ¬Incomparable token authorization := by
  unfold TokenDecided Incomparable requireAdminToken
  simp only [bearer_iff, hsettings, Option.getD_some, if_neg htoken]
  cases authorization.bind (splitOnce ' ') with
  | none =>
      refine ⟨fun _ h => ?_, fun _ => .inr ⟨rfl, fun h => ?_⟩⟩
      · obtain ⟨presented, ⟨scheme, hsplit, -⟩, -⟩ := h
        cases hsplit
      · obtain ⟨scheme, hsplit, -⟩ := h
        cases hsplit
  | some parts =>
      obtain ⟨scheme, presented⟩ := parts
      dsimp only
      by_cases hrefused : Text.lower scheme ≠ "bearer" ∨ presented = ""
      · rw [if_pos hrefused]
        refine ⟨fun _ h => ?_, fun _ => .inr ⟨rfl, fun h => ?_⟩⟩
        · obtain ⟨presented', ⟨scheme', hsplit, hlower⟩, hne, -⟩ := h
          obtain ⟨hscheme, hpresented⟩ := Prod.mk.inj (Option.some.inj hsplit)
          rcases hrefused with hother | hempty
          · exact hother (hscheme ▸ hlower)
          · exact hne (hpresented ▸ hempty)
        · obtain ⟨scheme', hsplit, hlower⟩ := h
          obtain ⟨hscheme, hpresented⟩ := Prod.mk.inj (Option.some.inj hsplit)
          rcases hrefused with hother | hempty
          · exact hother (hscheme ▸ hlower)
          · exact htoken (hpresented ▸ hempty)
      · rw [if_neg hrefused]
        obtain ⟨hlower, hne⟩ := not_or.mp hrefused
        rw [not_not] at hlower
        by_cases hascii : isAscii presented = true ∧ isAscii token = true
        · rw [compareDigest_of_ascii hascii.1 hascii.2]
          refine ⟨fun _ h => ?_, fun _ => ?_⟩
          · obtain ⟨presented', ⟨scheme', hsplit, -⟩, -, hnot⟩ := h
            obtain ⟨-, hpresented⟩ := Prod.mk.inj (Option.some.inj hsplit)
            exact hnot (hpresented ▸ hascii)
          · by_cases heq : presented = token
            · rw [heq, beq_self_eq_true]
              exact .inl ⟨rfl, scheme, rfl, hlower⟩
            · rw [beq_false_of_ne heq]
              refine .inr ⟨rfl, fun h => ?_⟩
              obtain ⟨scheme', hsplit, -⟩ := h
              exact heq (Prod.mk.inj (Option.some.inj hsplit)).2
        · rw [compareDigest_of_not_ascii hascii]
          refine ⟨fun h => ?_, fun h => absurd ⟨presented, ⟨scheme, rfl, hlower⟩, hne, hascii⟩ h⟩
          rcases h with ⟨hok, -⟩ | ⟨hrejected, -⟩
          · cases hok
          · cases hrejected

/-! ## §3. The password. -/

/-- What `json.loads` raises. -/
inductive LoadError
  /-- `ValueError`, which `JSONDecodeError` is one of. -/
  | value
  /-- `RecursionError` -/
  | recursion
  deriving DecidableEq, Repr

/-- What a login asks of libraries. -/
structure LoginLibrary where
  /-- `json.loads` -/
  loads : String → Except LoadError Json
  /-- `urllib.parse.unquote`: percent escapes, undecodable ones replaced. -/
  unquote : String → String
  /-- `_encode_session_cookie`, given the secret and the time it expires at. -/
  encodeSessionCookie : String → Int → String

/-- `content_type.split(";", 1)[0].strip().lower() == "application/json"` -/
def isJsonType (contentType : String) : Bool :=
  Text.lower (Text.strip (String.ofList (contentType.toList.takeWhile (· ≠ ';'))))
    == "application/json"

variable (lib : LoginLibrary)

/-- `unquote(text.replace("+", " "))` -/
def unquotePlus (text : List Char) : String :=
  lib.unquote (String.ofList (text.map fun c => if c = '+' then ' ' else c))

/-- `parse_qsl(text, keep_blank_values=True)` -/
def parseQsl (text : String) : List (String × String) :=
  ((text.toList.splitOn '&').filter (· ≠ [])).map fun pair =>
    (unquotePlus lib (pair.takeWhile (· ≠ '=')), unquotePlus lib ((pair.dropWhile (· ≠ '=')).drop 1))

/-- `fields.get("password", [])` -/
def passwordValues (text : String) : List String :=
  (parseQsl lib text).filterMap fun field => if field.1 = "password" then some field.2 else none

/-- `16 * 1024` -/
def maxLoginBody : Nat := 16 * 1024

/-- `_read_password` -/
def readPassword (body : ByteArray) (contentType : String) : Except AdminError (Option String) :=
  if maxLoginBody < body.size then .ok none
  else match String.fromUTF8? body with
    | none => .ok none
    | some text =>
        if isJsonType contentType then
          match lib.loads text with
          | .error .value => .ok none
          | .error .recursion => .error .recursionError
          | .ok payload =>
              .ok ((payload.asDict.bind fun fields => fields.lookup "password").bind Json.asText)
        else .ok (passwordValues lib text).head?

/-- `_password_matches`; `none` is `TypeError`. -/
def passwordMatches (submitted configured : Option String) : Option Bool :=
  match submitted, configured with
  | some submitted, some configured => compareDigest submitted configured
  | _, _ => some false

/-- What a login is answered with. -/
inductive LoginResponse
  /-- The redirect, with the session cookie and the time it expires at. -/
  | redirect (status : Nat) (location cookie : String) (expiresAt : Int)
  /-- The login page, with an error. -/
  | page (status : Nat) (error : String)
  deriving DecidableEq, Repr

/-- `_generic_auth_response` -/
def genericAuthResponse : LoginResponse := .page 401 "Credenciais inválidas"

/-- `SESSION_LIFETIME_SECONDS` -/
def sessionLifetimeSeconds : Int := 60 * 60

/-- `require_admin_ui_configuration`; `none` is `RuntimeError`. -/
def requireAdminUiConfiguration (settings : AdminSettings) : Option (String × String) :=
  let password := settings.adminUiPassword.getD ""
  let secret := settings.adminSessionSecret.getD ""
  if password = "" ∨ secret = "" then none else some (password, secret)

/-- `administrative_login` at `now`. -/
def administrativeLogin (settings : AdminSettings) (now : Int) (body : ByteArray)
    (contentType : String) : Except AdminError LoginResponse := do
  let submittedPassword ← readPassword lib body contentType
  match requireAdminUiConfiguration settings with
  | none => return genericAuthResponse
  | some (configuredPassword, secret) =>
      match passwordMatches submittedPassword (some configuredPassword) with
      | none => .error .typeError
      | some false => return genericAuthResponse
      | some true =>
          let expiresAt := now + sessionLifetimeSeconds
          return .redirect 303 "/admin/acessorias/ui" (lib.encodeSessionCookie secret expiresAt)
            expiresAt

variable {lib} {now : Int} {body : ByteArray} {contentType : String} {submitted : String}

/-- The body has a password field: the member of a JSON object, or the first value of a form. -/
def PasswordField (lib : LoginLibrary) (body : ByteArray) (contentType submitted : String) : Prop :=
  body.size ≤ maxLoginBody ∧ ∃ text, String.fromUTF8? body = some text
    ∧ if isJsonType contentType then
        ∃ fields, lib.loads text = .ok (.dict fields) ∧ fields.lookup "password" = some (.str submitted)
      else (passwordValues lib text).head? = some submitted

/-- The body is a JSON text that is nested too deep. -/
def TooDeep (lib : LoginLibrary) (body : ByteArray) (contentType : String) : Prop :=
  body.size ≤ maxLoginBody ∧ ∃ text, String.fromUTF8? body = some text
    ∧ isJsonType contentType = true ∧ lib.loads text = .error .recursion

/-- **What is read of a body.** -/
theorem readPassword_spec (lib : LoginLibrary) (body : ByteArray) (contentType : String) :
    (readPassword lib body contentType = .error .recursionError ∧ TooDeep lib body contentType)
      ∨ ∃ found, readPassword lib body contentType = .ok found ∧ ¬TooDeep lib body contentType
        ∧ ∀ submitted, found = some submitted ↔ PasswordField lib body contentType submitted := by
  unfold readPassword TooDeep PasswordField
  by_cases hsize : maxLoginBody < body.size
  · rw [if_pos hsize]
    refine .inr ⟨none, rfl, fun h => ?_, fun submitted => ⟨fun h => ?_, fun h => ?_⟩⟩
    · exact absurd h.1 (Nat.not_le.mpr hsize)
    · cases h
    · exact absurd h.1 (Nat.not_le.mpr hsize)
  rw [if_neg hsize]
  have hle := Nat.le_of_not_lt hsize
  cases hdecode : String.fromUTF8? body with
  | none =>
      refine .inr ⟨none, rfl, fun h => ?_, fun submitted => ⟨fun h => ?_, fun h => ?_⟩⟩
      · obtain ⟨-, text, htext, -⟩ := h
        cases htext
      · cases h
      · obtain ⟨-, text, htext, -⟩ := h
        cases htext
  | some text =>
      simp only [hle, true_and, Option.some.injEq, exists_eq_left']
      by_cases hjson : isJsonType contentType = true
      · rw [if_pos hjson]
        simp only [hjson, if_true, true_and]
        cases hloads : lib.loads text with
        | error e =>
            cases e with
            | value =>
                refine .inr ⟨none, rfl, fun h => ?_, fun submitted => ⟨fun h => ?_, fun h => ?_⟩⟩
                · cases h
                · cases h
                · obtain ⟨fields, hfields, -⟩ := h
                  cases hfields
            | recursion => exact .inl ⟨rfl, rfl⟩
        | ok payload =>
            refine .inr ⟨_, rfl, fun h => ?_, fun submitted => ?_⟩
            · cases h
            · simp only [Option.bind_eq_some_iff, Json.asDict_eq_some_iff, Json.asText_eq_some_iff,
                Except.ok.injEq]
              constructor
              · intro ⟨value, ⟨fields, hfields, hlookup⟩, hvalue⟩
                exact ⟨fields, hfields, hvalue ▸ hlookup⟩
              · intro ⟨fields, hfields, hlookup⟩
                exact ⟨_, ⟨fields, hfields, hlookup⟩, rfl⟩
      · rw [if_neg hjson]
        refine .inr ⟨_, rfl, fun h => hjson h.1, fun submitted => ?_⟩
        rw [if_neg hjson]

/-- The password is what decides: a session, or 401. -/
def LoginDecided (lib : LoginLibrary) (password secret : String) (now : Int) (body : ByteArray)
    (contentType : String) (outcome : Except AdminError LoginResponse) : Prop :=
  (outcome = .ok (.redirect 303 "/admin/acessorias/ui"
        (lib.encodeSessionCookie secret (now + sessionLifetimeSeconds)) (now + sessionLifetimeSeconds))
      ∧ PasswordField lib body contentType password)
    ∨ (outcome = .ok genericAuthResponse ∧ ¬PasswordField lib body contentType password)

/-- A body that raises: it is nested too deep, or its password cannot be compared. -/
def Unanswered (lib : LoginLibrary) (password : String) (body : ByteArray) (contentType : String) :
    Prop :=
  TooDeep lib body contentType ∨ ∃ submitted, PasswordField lib body contentType submitted
    ∧ ¬(isAscii submitted = true ∧ isAscii password = true)

/-- A login, once a password was read. -/
theorem administrativeLogin_eq {found : Option String}
    (hread : readPassword lib body contentType = .ok found)
    (hconfigured : requireAdminUiConfiguration settings = some (password, secret)) :
    administrativeLogin lib settings now body contentType
      = match passwordMatches found (some password) with
        | none => .error .typeError
        | some false => .ok genericAuthResponse
        | some true => .ok (.redirect 303 "/admin/acessorias/ui"
            (lib.encodeSessionCookie secret (now + sessionLifetimeSeconds))
            (now + sessionLifetimeSeconds)) := by
  unfold administrativeLogin
  rw [hread, hconfigured]
  rfl

/-- **The password decides** when the body does not raise. -/
theorem administrativeLogin_decides_iff (hpassword : settings.adminUiPassword = some password)
    (hsecret : settings.adminSessionSecret = some secret) (hne : password ≠ "" ∧ secret ≠ "") :
    LoginDecided lib password secret now body contentType
        (administrativeLogin lib settings now body contentType)
      ↔ ¬Unanswered lib password body contentType := by
  have hconfigured : requireAdminUiConfiguration settings = some (password, secret) := by
    unfold requireAdminUiConfiguration
    rw [hpassword, hsecret]
    exact if_neg (not_or.mpr hne)
  unfold LoginDecided Unanswered
  rcases readPassword_spec lib body contentType with ⟨hread, hdeep⟩ | ⟨found, hread, hnot, hfound⟩
  · have hraises : administrativeLogin lib settings now body contentType = .error .recursionError := by
      unfold administrativeLogin
      rw [hread]
      rfl
    rw [hraises]
    refine ⟨fun h => ?_, fun h => absurd (.inl hdeep) h⟩
    rcases h with ⟨hok, -⟩ | ⟨hok, -⟩
    · cases hok
    · cases hok
  · rw [administrativeLogin_eq hread hconfigured]
    simp only [hnot, false_or, ← hfound]
    cases found with
    | none =>
        refine ⟨fun _ h => ?_, fun _ => .inr ⟨rfl, fun h => ?_⟩⟩
        · obtain ⟨submitted, hsubmitted, -⟩ := h
          cases hsubmitted
        · cases h
    | some submitted =>
        by_cases hascii : isAscii submitted = true ∧ isAscii password = true
        · have hmatches : passwordMatches (some submitted) (some password) = some (submitted == password) :=
            compareDigest_of_ascii hascii.1 hascii.2
          rw [hmatches]
          refine ⟨fun _ h => ?_, fun _ => ?_⟩
          · obtain ⟨submitted', hsubmitted, hother⟩ := h
            exact hother (Option.some.inj hsubmitted ▸ hascii)
          · by_cases heq : submitted = password
            · rw [heq, beq_self_eq_true]
              exact .inl ⟨rfl, rfl⟩
            · rw [beq_false_of_ne heq]
              exact .inr ⟨rfl, fun h => heq (Option.some.inj h)⟩
        · have hmatches : passwordMatches (some submitted) (some password) = none :=
            compareDigest_of_not_ascii hascii
          rw [hmatches]
          refine ⟨fun h => ?_, fun h => absurd ⟨submitted, rfl, hascii⟩ h⟩
          rcases h with ⟨hok, -⟩ | ⟨hok, -⟩
          · cases hok
          · cases hok

/-! ## §4. Both entrances. -/

/-- **When both entrances decide.**  With a token, a password and a secret that are not blank,
    the header decides about a request if and only if its token can be compared, and the body
    decides about a login if and only if it does not raise. -/
theorem authentication_decides_iff (hadminToken : settings.adminApiToken = some token)
    (hpassword : settings.adminUiPassword = some password)
    (hsecret : settings.adminSessionSecret = some secret)
    (hblank : Text.isBlank token = false ∧ Text.isBlank password = false
      ∧ Text.isBlank secret = false) :
    (TokenDecided token authorization (requireAdminToken settings authorization)
        ↔ ¬Incomparable token authorization)
      ∧ (LoginDecided lib password secret now body contentType
          (administrativeLogin lib settings now body contentType)
        ↔ ¬Unanswered lib password body contentType) := by
  have hne : ∀ {text : String}, Text.isBlank text = false → text ≠ "" := by
    intro text h heq
    rw [heq] at h
    exact absurd h (by decide)
  exact ⟨requireAdminToken_decides_iff hadminToken (hne hblank.1),
    administrativeLogin_decides_iff hpassword hsecret ⟨hne hblank.2.1, hne hblank.2.2⟩⟩

/-- Libraries for a form without escapes. -/
def plainLibrary : LoginLibrary where
  loads _ := .error .value
  unquote := id
  encodeSessionCookie secret expiresAt := secret ++ toString expiresAt

def sampleSettings : AdminSettings where
  adminApiToken := some "token"
  adminUiPassword := some "senha"
  adminSessionSecret := some "segredo"

/-- A header and a form that are let in. -/
theorem sample_decided :
    requireAdminToken sampleSettings (some "bEaReR token") = .ok ()
      ∧ TokenDecided "token" (some "bEaReR token")
        (requireAdminToken sampleSettings (some "bEaReR token"))
      ∧ LoginDecided plainLibrary "senha" "segredo" 0 "user=a&password=senha".toUTF8 ""
        (administrativeLogin plainLibrary sampleSettings 0 "user=a&password=senha".toUTF8 "") := by
  have hheader : (some "bEaReR token").bind (splitOnce ' ') = some ("bEaReR", "token") := by
    decide +kernel
  have hbody : readPassword plainLibrary "user=a&password=senha".toUTF8 "" = .ok (some "senha") := by
    decide +kernel
  have hcomparable : ¬Incomparable "token" (some "bEaReR token") := by
    intro ⟨presented, hbearer, _, hnot⟩
    obtain ⟨scheme, hsplit, -⟩ := bearer_iff.mp hbearer
    rw [hheader] at hsplit
    rw [← (Prod.mk.inj (Option.some.inj hsplit)).2] at hnot
    exact hnot (by decide +kernel)
  have hanswered : ¬Unanswered plainLibrary "senha" "user=a&password=senha".toUTF8 "" := by
    rcases readPassword_spec plainLibrary "user=a&password=senha".toUTF8 "" with
      ⟨hread, -⟩ | ⟨found, hread, hnot, hfound⟩
    · rw [hbody] at hread
      cases hread
    · rintro (hdeep | ⟨submitted, hfield, hascii⟩)
      · exact hnot hdeep
      · rw [hbody] at hread
        have hsubmitted := (hfound submitted).mpr hfield
        rw [← Except.ok.inj hread] at hsubmitted
        rw [← Option.some.inj hsubmitted] at hascii
        exact hascii (by decide +kernel)
  obtain ⟨htoken, hlogin⟩ := @authentication_decides_iff sampleSettings "token" "senha" "segredo"
    (some "bEaReR token") plainLibrary 0 "user=a&password=senha".toUTF8 "" rfl rfl rfl
    (by decide +kernel)
  exact ⟨by decide +kernel, htoken.mpr hcomparable, hlogin.mpr hanswered⟩

/-- A header with an accented letter. -/
theorem authentication_undecided :
    ¬∀ (settings : AdminSettings) (token : String) (authorization : Option String),
      settings.adminApiToken = some token → Text.isBlank token = false →
        TokenDecided token authorization (requireAdminToken settings authorization) := by
  intro h
  have hraises : requireAdminToken sampleSettings (some "Bearer é") = .error .typeError := by
    decide +kernel
  have hdecided := h sampleSettings "token" (some "Bearer é") rfl (by decide +kernel)
  rw [hraises] at hdecided
  rcases hdecided with ⟨hok, -⟩ | ⟨hrejected, -⟩
  · cases hok
  · cases hrejected

end Cai.Admin
