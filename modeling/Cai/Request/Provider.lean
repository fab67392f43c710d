/-
  Cai.Request.Provider — the transport boundary of the Acessórias Request.

  Payload, outcome contract and HTTP adapter of
  `src/core/acessorias_request_provider.py`.  One pass through the retry
  loop of `AcessoriasRequestAdapter.create_request` is
  `createRequestAttempt`: what the loop does with one answer of
  `session.post`.  The loop itself is run by the caller's machine
  (`Cai.Request.Orchestration`), because other callers may act between two
  of its attempts.
-/
import Cai.Lib.Text

namespace Cai.Request

open Cai.Lib

/-! ## §1. Payload. -/

/-- `AcessoriasRequestPayload`: the variable part of the six form fields. -/
structure RequestPayload where
  subject : String
  company : String
  department : String
  description : String
  deriving DecidableEq, Repr

/-- `DEFAULT_PRIORITY` -/
def defaultPriority : Nat := 2

/-- `REQUEST_TYPE` -/
def requestType : String := "I"

/-- `AcessoriasRequestPayload.form` -/
def RequestPayload.form (p : RequestPayload) : List (String × String) :=
  [("assunto", p.subject), ("empresa", p.company), ("departamento", p.department),
   ("prioridade", toString defaultPriority), ("descricao", p.description),
   ("tipo", requestType)]

/-- The digest of the canonical form: equal forms have equal digests.  The
    model keeps the form that SHA-256 is applied to. -/
structure Fingerprint where
  form : List (String × String)
  deriving DecidableEq, Repr

/-- `AcessoriasRequestPayload.fingerprint` -/
def RequestPayload.fingerprint (p : RequestPayload) : Fingerprint := ⟨p.form⟩

/-- `AcessoriasRequestPayload.metadata` -/
structure PayloadFacts where
  fields : List String
  subjectLength : Nat
  descriptionLength : Nat
  companyExternalId : String
  departmentExternalId : String
  priority : Nat
  type : String
  deriving DecidableEq, Repr

def RequestPayload.metadata (p : RequestPayload) : PayloadFacts where
  fields := ["assunto", "empresa", "departamento", "prioridade", "descricao", "tipo"]
  subjectLength := p.subject.length
  descriptionLength := p.description.length
  companyExternalId := p.company
  departmentExternalId := p.department
  priority := defaultPriority
  type := requestType

/-- The `ValueError`s of `build_request_payload`. -/
inductive PayloadError
  | titleRequired
  | descriptionRequired
  | companyInvalid
  | departmentInvalid
  deriving DecidableEq, Repr

/-- The text of the exception. -/
def PayloadError.message : PayloadError → String
  | .titleRequired => "classification title is required"
  | .descriptionRequired => "classification description is required"
  | .companyInvalid => "company identifier is invalid"
  | .departmentInvalid => "department identifier must be numeric"

/-- `SAFE_DEPARTMENT_ID` -/
def safeDepartmentId (s : String) : Bool :=
  !s.toList.isEmpty && s.toList.all fun c => '0' ≤ c && c ≤ '9'

/-- `build_request_payload`.  `title` and `description` are `none` where the
    column is NULL. -/
def buildRequestPayload (title description protocol : Option String)
    (companyExternalId departmentExternalId : String) :
    Except PayloadError RequestPayload :=
  match title, description with
  | none, _ => .error .titleRequired
  | some title, description =>
    if Text.isBlank title then .error .titleRequired else
    match description with
    | none => .error .descriptionRequired
    | some description =>
      let normalizedTitle := Text.strip title
      let normalizedProtocol := (protocol.map Text.strip).getD ""
      let subjectSource :=
        if normalizedProtocol ≠ "" then "[" ++ normalizedProtocol ++ "] - " ++ normalizedTitle
        else normalizedTitle
      let subject := Text.slice 100 subjectSource
      let company := Text.strip companyExternalId
      let department := Text.strip departmentExternalId
      if subject = "" then .error .titleRequired
      else if company = "" || company.toList.any Text.isSpace then .error .companyInvalid
      else if !safeDepartmentId department then .error .departmentInvalid
      else .ok ⟨subject, company, department, description⟩

/-! ## §2. Outcomes. -/

/-- The states of `acessorias_request_operations.state`. -/
inductive OperationState
  | notStarted
  | attempting
  | completed
  | definitiveFailure
  | retryableFailure
  | reconciliationRequired
  deriving DecidableEq, Repr

/-- `_safe_category`: at most 120 characters of `[a-z0-9_:-]`. -/
def safeCategory (value : String) : String :=
  let replaced := Text.replaceRuns Text.isReasonChar (Text.casefold value).toList
  let normalized := Text.slice 120 (String.ofList (Text.trimList (· == '_') replaced))
  if normalized = "" then "provider_error" else normalized

/-- `SAFE_SOL_ID`: 1 to 160 characters, none of them white space or a control. -/
def safeSolId (s : String) : Bool :=
  Text.fullmatch (fun c => !Text.isSpace c && !(c.toNat ≤ 0x1f || c.toNat = 0x7f)) 160 s

/-- `AcessoriasRequestOutcome` -/
structure RequestOutcome where
  state : OperationState
  category : String
  solidId : Option String
  providerStatus : Option Int
  deriving DecidableEq, Repr

namespace RequestOutcome

/-- `AcessoriasRequestOutcome.success`; `none` where it raises. -/
def success (solidId : String) (providerStatus : Option Int := none) :
    Option RequestOutcome :=
  let value := Text.strip solidId
  if safeSolId value then some ⟨.completed, "provider_success", some value, providerStatus⟩
  else none

/-- `AcessoriasRequestOutcome.definitive` -/
def definitive (category : String) (providerStatus : Option Int := none) : RequestOutcome :=
  ⟨.definitiveFailure, safeCategory category, none, providerStatus⟩

/-- `AcessoriasRequestOutcome.retryable` -/
def retryable (category : String) (providerStatus : Option Int := none) : RequestOutcome :=
  ⟨.retryableFailure, safeCategory category, none, providerStatus⟩

/-- `AcessoriasRequestOutcome.reconciliation` -/
def reconciliation (category : String) (providerStatus : Option Int := none) :
    RequestOutcome :=
  ⟨.reconciliationRequired, safeCategory category, none, providerStatus⟩

end RequestOutcome

/-- A call of one of the four constructors of `AcessoriasRequestOutcome`. -/
inductive OutcomeCall
  | success (solidId : String) (providerStatus : Option Int)
  | definitive (category : String) (providerStatus : Option Int)
  | retryable (category : String) (providerStatus : Option Int)
  | reconciliation (category : String) (providerStatus : Option Int)
  deriving DecidableEq, Repr

/-- What the constructor call returns; `none` where it raises. -/
def OutcomeCall.outcome : OutcomeCall → Option RequestOutcome
  | .success solidId status => RequestOutcome.success solidId status
  | .definitive category status => some (.definitive category status)
  | .retryable category status => some (.retryable category status)
  | .reconciliation category status => some (.reconciliation category status)

/-- An outcome that one of the four constructors returned. -/
def RequestOutcome.Built (o : RequestOutcome) : Prop :=
  ∃ call : OutcomeCall, call.outcome = some o

/-- **What a built outcome looks like**: it is one of the four final states,
    and it carries an identifier exactly when it reports success. -/
theorem RequestOutcome.Built.spec {o : RequestOutcome} (h : o.Built) :
    (o.state = .completed ∧ ∃ sol, o.solidId = some sol ∧ safeSolId sol = true) ∨
    (o.state ∈ [.definitiveFailure, .retryableFailure, .reconciliationRequired]
      ∧ o.solidId = none) := by
  obtain ⟨call, hcall⟩ := h
  cases call with
  | success solidId status =>
      simp only [OutcomeCall.outcome, RequestOutcome.success] at hcall
      split at hcall
      next hsafe =>
        injection hcall with hcall
        subst hcall
        exact .inl ⟨rfl, _, rfl, hsafe⟩
      next => cases hcall
  | definitive | retryable | reconciliation =>
      injection hcall with hcall
      subst hcall
      exact .inr ⟨by simp [RequestOutcome.definitive, RequestOutcome.retryable,
        RequestOutcome.reconciliation], rfl⟩

/-! ## §3. One attempt of the adapter. -/

/-- The value under `id` in the body of a response. -/
inductive ProviderId
  | missing
  | text (value : String)
  | number (value : Int)
  | boolean (value : Bool)
  | other
  deriving DecidableEq, Repr

/-- `str(provider_id)` where `provider_id` is a `str` or an `int`. -/
def ProviderId.str : ProviderId → Option String
  | .text value => some value
  | .number value => some (toString value)
  | .boolean value => some (if value then "True" else "False")
  | .missing | .other => none

/-- The parts of a JSON object body that the adapter looks at. -/
structure ResponseBody where
  id : ProviderId
  hasErro : Bool
  deriving DecidableEq, Repr

/-- An HTTP response; `body` is `none` where it is not a JSON object. -/
structure ProviderResponse where
  statusCode : Int
  body : Option ResponseBody
  deriving DecidableEq, Repr

/-- The usable identifier of a response: a non-blank `str` or `int`. -/
def ProviderResponse.usableId (r : ProviderResponse) : Option String :=
  match r.body with
  | none => none
  | some body => body.id.str.filter fun value => !Text.isBlank value

/-- How one `session.post` call ended. -/
inductive TransportResult
  /-- `AcessoriasRequestPreSendError` -/
  | preSendError
  /-- `requests.Timeout` -/
  | timeout
  /-- Any other `requests.RequestException`, connection errors included. -/
  | requestException
  /-- An exception that is no `requests.RequestException`. -/
  | otherException
  | response (r : ProviderResponse)
  deriving DecidableEq, Repr

/-- What the retry loop does with the answer to one attempt. -/
inductive AttemptVerdict
  /-- `continue` -/
  | retry
  | done (outcome : RequestOutcome)
  deriving DecidableEq, Repr

/-- The classification of a response by `create_request`. -/
def classifyResponse (maxAttempts attempt : Nat) (r : ProviderResponse) : AttemptVerdict :=
  let status := r.statusCode
  match r.usableId with
  | some value =>
      match RequestOutcome.success value (some status) with
      | some outcome => .done outcome
      | none => .done (.reconciliation "invalid_provider_id" (some status))
  | none =>
      if status = 429 then .done (.reconciliation "uncertain_rate_limit" (some status))
      else if status = 408 ∨ status = 425 then
        if attempt < maxAttempts then .retry
        else .done (.retryable "safe_transient_rejection" (some status))
      else if status = 401 ∨ status = 403 then
        .done (.definitive "authentication_or_permission" (some status))
      else if 500 ≤ status then .done (.reconciliation "uncertain_5xx" (some status))
      else if (r.body.map (·.hasErro)).getD false then
        .done (.definitive "provider_error" (some status))
      else if 400 ≤ status then .done (.definitive "provider_rejection" (some status))
      else .done (.reconciliation "missing_id" (some status))

/-- One pass through the loop body of `AcessoriasRequestAdapter.create_request`.
    An exception that escapes it is turned into `provider_exception` by
    `create_request_for_cycle`. -/
def createRequestAttempt (maxAttempts attempt : Nat) : TransportResult → AttemptVerdict
  | .preSendError =>
      if attempt < maxAttempts then .retry else .done (.retryable "pre_send_connection")
  | .timeout => .done (.reconciliation "timeout_after_send")
  | .requestException => .done (.reconciliation "uncertain_transport")
  | .otherException => .done (.reconciliation "provider_exception")
  | .response r => classifyResponse maxAttempts attempt r

/-- A POST that is known not to have created anything: it failed before it
    was sent, or was answered 408 or 425 without a usable identifier. -/
def TransportResult.safe : TransportResult → Bool
  | .preSendError => true
  | .response r => r.usableId.isNone && (r.statusCode == 408 || r.statusCode == 425)
  | _ => false

/-- The adapter posts again only after a safe POST. -/
theorem safe_of_retry {maxAttempts attempt : Nat} {r : TransportResult}
    (h : createRequestAttempt maxAttempts attempt r = .retry) : r.safe = true := by
  cases r with
  | preSendError => rfl
  | timeout | requestException | otherException => cases h
  | response r =>
      simp only [createRequestAttempt, classifyResponse] at h
      cases hid : r.usableId with
      | some value =>
          rw [hid] at h
          cases hs : RequestOutcome.success value (some r.statusCode) <;> simp [hs] at h
      | none =>
          rw [hid] at h
          simp only at h
          split_ifs at h
          simp_all [TransportResult.safe]

/-- **The adapter never understates a POST**: it reports a retryable failure
    only when its last POST was safe. -/
theorem safe_of_retryable {maxAttempts attempt : Nat} {r : TransportResult}
    {o : RequestOutcome} (h : createRequestAttempt maxAttempts attempt r = .done o)
    (ho : o.state = .retryableFailure) : r.safe = true := by
  cases r with
  | preSendError => rfl
  | timeout | requestException | otherException =>
      injection h with h
      subst h
      cases ho
  | response r =>
      simp only [createRequestAttempt, classifyResponse] at h
      cases hid : r.usableId with
      | some value =>
          rw [hid] at h
          cases hs : RequestOutcome.success value (some r.statusCode) with
          | none =>
              simp only [hs, AttemptVerdict.done.injEq] at h
              subst h
              cases ho
          | some o' =>
              simp only [hs, AttemptVerdict.done.injEq] at h
              subst h
              simp only [RequestOutcome.success] at hs
              split at hs <;> cases hs
              cases ho
      | none =>
          rw [hid] at h
          simp only at h
          split_ifs at h <;> simp_all [TransportResult.safe] <;> subst h <;> cases ho

/-- Every outcome of the adapter comes from one of the four constructors. -/
theorem built_of_done {maxAttempts attempt : Nat} {r : TransportResult}
    {o : RequestOutcome} (h : createRequestAttempt maxAttempts attempt r = .done o) :
    o.Built := by
  have hdef (c s) : (RequestOutcome.definitive c s).Built := ⟨.definitive c s, rfl⟩
  have hret (c s) : (RequestOutcome.retryable c s).Built := ⟨.retryable c s, rfl⟩
  have hrec (c s) : (RequestOutcome.reconciliation c s).Built := ⟨.reconciliation c s, rfl⟩
  cases r with
  | preSendError =>
      simp only [createRequestAttempt] at h
      split at h <;> cases h
      exact hret _ _
  | timeout | requestException | otherException =>
      injection h with h
      subst h
      exact hrec _ _
  | response r =>
      simp only [createRequestAttempt, classifyResponse] at h
      cases hid : r.usableId with
      | some value =>
          rw [hid] at h
          cases hs : RequestOutcome.success value (some r.statusCode) with
          | none =>
              simp only [hs, AttemptVerdict.done.injEq] at h
              subst h
              exact hrec _ _
          | some o' =>
              simp only [hs, AttemptVerdict.done.injEq] at h
              subst h
              exact ⟨.success value (some r.statusCode), hs⟩
      | none =>
          rw [hid] at h
          simp only at h
          split_ifs at h <;> injection h with h <;> subst h <;>
            first | exact hrec _ _ | exact hret _ _ | exact hdef _ _

end Cai.Request
