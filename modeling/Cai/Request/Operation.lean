/-
  Cai.Request.Operation — the operation row and the statements on it.

  `acessorias_request_operations` holds at most one row per cycle.  Every
  writer of that row is one guarded UPDATE (or the INSERT of
  `_ensure_operation_sync`), so a writer is modelled as a function on the
  row: `none` where the guard fails and the statement touches nothing.
  `now` is the `CURRENT_TIMESTAMP` of the transaction.
-/
import Cai.Cycle.Status
import Cai.Request.Provider

namespace Cai.Request

open Cai.Lib
open Cai.Cycle (Timestamp Status)

/-! ## §1. The confidence gate. -/

/-- `RequestConfidenceDecision.state` -/
inductive ConfidenceState
  | allowed
  | belowThreshold
  | invalid
  deriving DecidableEq, Repr

/-- A persisted `confidence`, as `evaluate_request_confidence` sees it. -/
inductive ConfidenceValue
  /-- NULL, a `bool`, or no `int` or `float`. -/
  | notNumeric
  /-- `nan` or an infinity. -/
  | notFinite
  | number (value : Rat)
  deriving DecidableEq

/-- `RequestConfidenceDecision` -/
structure ConfidenceDecision where
  state : ConfidenceState
  reason : String
  score10 : Option Rat := none
  deriving DecidableEq

/-- `REQUEST_CONFIDENCE_SCALE_MAX` -/
def requestConfidenceScaleMax : Rat := 10

/-- `REQUEST_CONFIDENCE_MINIMUM_10` -/
def requestConfidenceMinimum10 : Rat := 5

/-- `REQUEST_CONFIDENCE_MINIMUM` -/
def requestConfidenceMinimum : Rat := requestConfidenceMinimum10 / requestConfidenceScaleMax

/-- `evaluate_request_confidence` -/
def evaluateRequestConfidence : ConfidenceValue → ConfidenceDecision
  | .notNumeric | .notFinite => { state := .invalid, reason := "confidence_invalid" }
  | .number normalized =>
      if ¬ (0 ≤ normalized ∧ normalized ≤ 1) then
        { state := .invalid, reason := "confidence_invalid" }
      else
        -- exact, where the code's product is rounded to binary64: the score is
        -- written to the metadata and read by nothing
        let score10 := normalized * requestConfidenceScaleMax
        if normalized < requestConfidenceMinimum then
          { state := .belowThreshold, reason := "confidence_below_threshold",
            score10 := some score10 }
        else { state := .allowed, reason := "confidence_accepted", score10 := some score10 }

/-- `_confidence_gate_metadata` -/
structure GateMetadata where
  scale : String
  threshold : Rat
  decision : ConfidenceState
  score : Option Rat
  deriving DecidableEq

def confidenceGateMetadata (d : ConfidenceDecision) : GateMetadata where
  scale := "0_10"
  threshold := requestConfidenceMinimum10
  decision := d.state
  score := d.score10

/-- `payload_metadata_json`: the payload's own facts, if a payload could be
    built, and the entry under `confidence_gate`. -/
structure OperationMetadata where
  payload : Option PayloadFacts := none
  confidenceGate : Option GateMetadata := none
  deriving DecidableEq

/-! ## §2. What the INSERT is computed from. -/

/-- `_cycle_snapshot` -/
structure CycleSnapshot where
  id : Nat
  conversationId : String
  status : Status
  classificationId : Option Nat
  protocol : Option String
  confidence : ConfidenceValue
  title : Option String
  description : Option String
  deriving DecidableEq

/-- The columns of `_mapping_snapshot` that are read. -/
structure MappingSnapshot where
  id : Nat
  state : String
  reason : Option String
  companyId : Option Nat
  acessoriasDepartmentExternalId : Option String
  deriving DecidableEq

/-- Everything one transaction reads before it decides on a Request: the two
    snapshots and the answers of the two directory queries. -/
structure RequestFacts where
  cycle : Option CycleSnapshot
  mapping : Option MappingSnapshot
  companyExternalId : Option String
  relationship : Bool
  deriving DecidableEq

/-- The `facts` dictionary of `_operation_state`. -/
structure OperationFacts where
  companyId : Nat
  companyExternalId : String
  departmentMappingId : Nat
  departmentExternalId : String
  deriving DecidableEq, Repr

/-- The reason `_operation_state` derives from the text of a `ValueError`. -/
def PayloadError.reason (e : PayloadError) : String :=
  if Text.occursIn "department" e.message then "department_identifier_invalid"
  else if Text.occursIn "description" e.message then "classification_description_missing"
  else "classification_title_missing"

/-- `_operation_state`: `.error reason` stands for `definitive_failure`,
    `.ok` for `not_started`. -/
def operationState (facts : RequestFacts) (cycle : CycleSnapshot) :
    Except String (OperationFacts × RequestPayload) := do
  if cycle.status ≠ .completed ∧ cycle.status ≠ .completedWithWarnings then
    throw "cycle_not_eligible"
  if cycle.classificationId.isNone then
    throw "classification_missing"
  let confidence := evaluateRequestConfidence cycle.confidence
  if confidence.state ≠ .allowed then
    throw confidence.reason
  if cycle.title.all Text.isBlank then
    throw "classification_title_missing"
  if cycle.description.isNone then
    throw "classification_description_missing"
  match facts.mapping with
  | none => throw "mapping_missing"
  | some mapping =>
    if mapping.state ≠ "resolved" then
      throw (safeCategory (match mapping.reason with
        | some reason => if reason = "" then "mapping_unresolved" else reason
        | none => "mapping_unresolved"))
    match mapping.companyId, mapping.acessoriasDepartmentExternalId with
    | some companyId, some departmentId =>
      match facts.companyExternalId with
      | none => throw "company_unavailable"
      | some companyExternalId =>
        if !facts.relationship then
          throw "company_department_unavailable"
        match buildRequestPayload cycle.title cycle.description cycle.protocol
            companyExternalId departmentId with
        | .error e => throw e.reason
        | .ok payload => return (⟨companyId, companyExternalId, mapping.id, departmentId⟩, payload)
    | _, _ => throw "mapping_facts_missing"

/-- The part of `_operation_state` that has a mapping. -/
def mappingState (facts : RequestFacts) (cycle : CycleSnapshot) (mapping : MappingSnapshot) :
    Except String (OperationFacts × RequestPayload) :=
  if mapping.state ≠ "resolved" then
    .error (safeCategory (match mapping.reason with
      | some reason => if reason = "" then "mapping_unresolved" else reason
      | none => "mapping_unresolved"))
  else match mapping.companyId, mapping.acessoriasDepartmentExternalId with
    | some companyId, some departmentId =>
      match facts.companyExternalId with
      | none => .error "company_unavailable"
      | some companyExternalId =>
        if !facts.relationship then .error "company_department_unavailable"
        else match buildRequestPayload cycle.title cycle.description cycle.protocol
            companyExternalId departmentId with
        | .error e => .error e.reason
        | .ok payload => .ok (⟨companyId, companyExternalId, mapping.id, departmentId⟩, payload)
    | _, _ => .error "mapping_facts_missing"

/-- The checks of `operationState`, in their order. -/
theorem operationState_eq (facts : RequestFacts) (cycle : CycleSnapshot) :
    operationState facts cycle =
      if cycle.status ≠ .completed ∧ cycle.status ≠ .completedWithWarnings then
        .error "cycle_not_eligible"
      else if cycle.classificationId.isNone then .error "classification_missing"
      else if (evaluateRequestConfidence cycle.confidence).state ≠ .allowed then
        .error (evaluateRequestConfidence cycle.confidence).reason
      else if cycle.title.all Text.isBlank then .error "classification_title_missing"
      else if cycle.description.isNone then .error "classification_description_missing"
      else match facts.mapping with
        | none => .error "mapping_missing"
        | some mapping => mappingState facts cycle mapping := rfl

/-- What the facts of a `not_started` operation come from. -/
structure OperationFacts.From (opFacts : OperationFacts) (facts : RequestFacts)
    (mapping : MappingSnapshot) : Prop where
  read : facts.mapping = some mapping
  resolved : mapping.state = "resolved"
  companyId : mapping.companyId = some opFacts.companyId
  departmentExternalId : mapping.acessoriasDepartmentExternalId = some opFacts.departmentExternalId
  companyExternalId : facts.companyExternalId = some opFacts.companyExternalId

theorem operationState_ok {facts : RequestFacts} {cycle : CycleSnapshot}
    {opFacts : OperationFacts} {payload : RequestPayload}
    (h : operationState facts cycle = .ok (opFacts, payload)) :
    ∃ mapping, opFacts.From facts mapping := by
  rw [operationState_eq] at h
  split at h
  next => cases h
  next =>
  split at h
  next => cases h
  next =>
  split at h
  next => cases h
  next =>
  split at h
  next => cases h
  next =>
  split at h
  next => cases h
  next =>
  split at h
  next => cases h
  next mapping hmapping =>
    unfold mappingState at h
    split at h
    next => cases h
    next hresolved =>
      split at h
      next companyId departmentId hcompany hdepartment =>
        split at h
        next => cases h
        next external hexternal =>
          split at h
          next => cases h
          next =>
            split at h
            next => cases h
            next =>
              obtain ⟨rfl, -⟩ := Prod.mk.inj (Except.ok.inj h)
              exact ⟨mapping, hmapping, not_not.mp hresolved, hcompany, hdepartment, hexternal⟩
      next => cases h

/-! ## §3. The row. -/

/-- `reconciliation_json` -/
inductive ReconciliationJson
  | empty
  | required (category : String)
  | manual (action operationKey reason : String)
  deriving DecidableEq, Repr

/-- `preparation_recovery_json`; its `source` is always the same text. -/
structure PreparationRecovery where
  status : String
  stage : String
  reason : String
  deriving DecidableEq, Repr

/-- A row of `acessorias_request_operations`. -/
structure Operation where
  id : Nat
  sourceCycleId : Nat
  sourceClassificationId : Option Nat
  conversationId : String
  companyId : Option Nat := none
  companyExternalId : Option String := none
  departmentMappingId : Option Nat := none
  departmentExternalId : Option String := none
  payloadFingerprint : Option Fingerprint := none
  payloadMetadata : OperationMetadata := {}
  state : OperationState
  attemptCount : Nat := 0
  claimOwner : Option String := none
  claimExpiresAt : Option Timestamp := none
  postStartedAt : Option Timestamp := none
  firstAttemptAt : Option Timestamp := none
  lastAttemptAt : Option Timestamp := none
  completedAt : Option Timestamp := none
  solId : Option String := none
  lastProviderStatus : Option Int := none
  failureCategory : Option String := none
  failureMessage : Option String := none
  reconciliation : ReconciliationJson := .empty
  preparationRecovery : Option PreparationRecovery := none
  updatedAt : Timestamp
  deriving DecidableEq

/-- The row the INSERT of `_ensure_operation_sync` writes. -/
def newOperation (now : Timestamp) (id : Nat) (facts : RequestFacts)
    (cycle : CycleSnapshot) : Operation :=
  let gate := cycle.classificationId.map fun _ =>
    confidenceGateMetadata (evaluateRequestConfidence cycle.confidence)
  match operationState facts cycle with
  | .error reason =>
      { id, sourceCycleId := cycle.id, sourceClassificationId := cycle.classificationId
        conversationId := cycle.conversationId
        departmentMappingId := facts.mapping.map (·.id)
        payloadMetadata := { confidenceGate := gate }
        state := .definitiveFailure
        failureCategory := some reason, failureMessage := some reason, updatedAt := now }
  | .ok (opFacts, payload) =>
      { id, sourceCycleId := cycle.id, sourceClassificationId := cycle.classificationId
        conversationId := cycle.conversationId
        companyId := some opFacts.companyId
        companyExternalId := some opFacts.companyExternalId
        departmentMappingId := facts.mapping.map (·.id)
        departmentExternalId := some opFacts.departmentExternalId
        payloadFingerprint := some payload.fingerprint
        payloadMetadata := { payload := some payload.metadata, confidenceGate := gate }
        state := .notStarted, updatedAt := now }

/-- `_ensure_operation_sync`: the row that exists after `INSERT … ON CONFLICT
    (source_cycle_id) DO NOTHING`; `none` where the cycle is not found. -/
def ensureOperation (now : Timestamp) (id : Nat) (facts : RequestFacts)
    (row : Option Operation) : Option Operation :=
  facts.cycle.map fun cycle => row.getD (newOperation now id facts cycle)

/-! ## §4. Claim, recovery and mark.

    Each statement is guarded by the row it finds, never by what its
    caller has read before. -/

/-- The end of a lease of `seconds` taken at `now`. -/
def leaseEnd (now : Timestamp) (seconds : Nat) : Timestamp := now + seconds * 1000000

/-- The row is an `attempting` one whose lease has run out. -/
def Operation.staleAt (op : Operation) (now : Timestamp) : Bool :=
  op.state == .attempting && op.claimExpiresAt.any (· ≤ now)

/-- The stale branch of `_claim_operation_sync`. -/
def recoverStaleClaim (now : Timestamp) (op : Operation) : Operation :=
  if op.staleAt now then
    match op.postStartedAt with
    | none =>
        { op with
          state := .retryableFailure
          failureCategory := some "crash_before_post"
          failureMessage := some "crash_before_post"
          claimOwner := none, claimExpiresAt := none, updatedAt := now }
    | some _ =>
        { op with
          state := .reconciliationRequired
          failureCategory := some "claim_expired_after_post_start"
          failureMessage := some "claim_expired_after_post_start"
          claimOwner := none, claimExpiresAt := none, updatedAt := now }
  else op

/-- `_claim_operation_sync`: the row after the transaction, and whether the
    claim was granted. -/
def claimOperation (now : Timestamp) (owner : String) (leaseSeconds : Nat)
    (op : Operation) : Operation × Bool :=
  let op := recoverStaleClaim now op
  if op.state = .notStarted ∨ op.state = .retryableFailure then
    ({ op with
       state := .attempting, claimOwner := some owner
       claimExpiresAt := some (leaseEnd now leaseSeconds), updatedAt := now }, true)
  else (op, false)

/-- The guard that mapping recovery shares between its statements. -/
def Operation.neverPosted (op : Operation) : Bool :=
  op.state == .definitiveFailure && op.failureCategory == some "mapping_missing"
    && op.postStartedAt.isNone && op.solId.isNone && op.attemptCount == 0
    && op.firstAttemptAt.isNone && op.lastAttemptAt.isNone

/-- `_claim_mapping_missing_recovery_sync`; `clock` is the caller's own clock,
    which decides whether another claim still runs. -/
def claimMappingMissingRecovery (now clock : Timestamp) (owner : String) (leaseSeconds : Nat)
    (op : Operation) : Option Operation :=
  if !(op.neverPosted && op.reconciliation == .empty) then none
  else if op.claimOwner.any (· ≠ owner) && op.claimExpiresAt.any (clock < ·) then none
  else some { op with
    claimOwner := some owner, claimExpiresAt := some (leaseEnd now leaseSeconds)
    updatedAt := now }

/-- `_record_preparation_recovery_blocked_sync` -/
def recordPreparationRecoveryBlocked (now : Timestamp) (owner stage reason : String)
    (op : Operation) : Option Operation :=
  if op.state = .definitiveFailure ∧ op.failureCategory = some "mapping_missing"
      ∧ op.claimOwner = some owner ∧ op.postStartedAt = none ∧ op.solId = none then
    some { op with
      claimOwner := none, claimExpiresAt := none
      preparationRecovery := some ⟨"blocked", safeCategory stage, safeCategory reason⟩
      updatedAt := now }
  else none

/-- The UPDATE of `_reopen_prepared_operation_sync`. -/
def reopenPreparedOperation (now : Timestamp) (owner : String) (facts : OperationFacts)
    (payload : RequestPayload) (op : Operation) : Option Operation :=
  if op.neverPosted && op.claimOwner == some owner then
    some { op with
      companyId := some facts.companyId, companyExternalId := some facts.companyExternalId
      departmentMappingId := some facts.departmentMappingId
      departmentExternalId := some facts.departmentExternalId
      payloadFingerprint := some payload.fingerprint
      payloadMetadata := { payload := some payload.metadata }
      state := .notStarted, failureCategory := none, failureMessage := none
      preparationRecovery := some ⟨"prepared", "ready", "mapping_missing_recovered"⟩
      updatedAt := now }
  else none

/-- The guard of the statements that end or refresh an unsent claim. -/
def Operation.heldUnsent (op : Operation) (owner : String) : Bool :=
  op.state == .attempting && op.claimOwner == some owner && op.postStartedAt.isNone

/-- `_finish_confidence_blocked_sync`; also the refusal inside
    `_mark_post_started_sync`. -/
def finishConfidenceBlocked (now : Timestamp) (owner : String) (decision : ConfidenceDecision)
    (op : Operation) : Option Operation :=
  if op.heldUnsent owner then
    some { op with
      state := .definitiveFailure
      failureCategory := some decision.reason, failureMessage := some decision.reason
      payloadMetadata :=
        { op.payloadMetadata with confidenceGate := some (confidenceGateMetadata decision) }
      claimOwner := none, claimExpiresAt := none, updatedAt := now }
  else none

/-- `_refresh_payload_metadata_sync` -/
def refreshPayloadMetadata (now : Timestamp) (owner : String) (payload : RequestPayload)
    (decision : ConfidenceDecision) (op : Operation) : Option Operation :=
  if op.heldUnsent owner then
    some { op with
      payloadFingerprint := some payload.fingerprint
      payloadMetadata :=
        { payload := some payload.metadata
          confidenceGate := some (confidenceGateMetadata decision) }
      updatedAt := now }
  else none

/-- `_mark_post_started_sync`: the row after the transaction, and whether the
    caller may post.  The guard does not ask whether a POST was already
    started: a released operation is marked again. -/
def markPostStarted (now : Timestamp) (owner : String) (confidence : ConfidenceValue)
    (op : Operation) : Operation × Bool :=
  if op.state = .attempting ∧ op.claimOwner = some owner then
    let decision := evaluateRequestConfidence confidence
    if decision.state ≠ .allowed then
      ((finishConfidenceBlocked now owner decision op).getD op, false)
    else
      ({ op with
         postStartedAt := some now, attemptCount := op.attemptCount + 1
         firstAttemptAt := op.firstAttemptAt.or (some now), lastAttemptAt := some now
         failureCategory := none, failureMessage := none, updatedAt := now }, true)
  else (op, false)

/-! ## §5. Finish and manual reconciliation. -/

/-- What a call raises to its own caller. -/
inductive CallError
  | lookupError (message : String)
  | valueError (message : String)
  | runtimeError (message : String)
  /-- `AcessoriasRequestError` -/
  | requestError (category message : String)
  /-- `AcessoriasRequestConflictError` -/
  | conflictError (message : String)
  deriving DecidableEq, Repr

/-- The two checks at the head of `_finish_operation_sync`. -/
def outcomeError (outcome : RequestOutcome) : Option CallError :=
  if outcome.state ∉ [.completed, .definitiveFailure, .retryableFailure,
      .reconciliationRequired] then
    some (.valueError "unsupported Request outcome")
  else if outcome.state = .completed ∧ (outcome.solidId = none ∨ outcome.solidId = some "") then
    some (.valueError "completed Request outcome requires SolID")
  else none

/-- The UPDATE of `_finish_operation_sync`. -/
def finishOperation (now : Timestamp) (owner : String) (outcome : RequestOutcome)
    (op : Operation) : Option Operation :=
  if op.state = .attempting ∧ op.claimOwner = some owner then
    let failure := if outcome.state = .completed then none else some outcome.category
    some { op with
      state := outcome.state, solId := outcome.solidId
      lastProviderStatus := outcome.providerStatus
      failureCategory := failure, failureMessage := failure
      completedAt := if outcome.state = .completed then some now else none
      claimOwner := none, claimExpiresAt := none
      reconciliation :=
        if outcome.state = .reconciliationRequired then .required outcome.category
        else op.reconciliation
      updatedAt := now }
  else none

/-- `acessorias_request_reconciliations.action` -/
inductive ReconciliationAction
  | recordSolid
  | releaseRetry
  deriving DecidableEq, Repr

def ReconciliationAction.name : ReconciliationAction → String
  | .recordSolid => "record_solid"
  | .releaseRetry => "release_retry"

/-- A row of `acessorias_request_reconciliations` for this operation. -/
structure ReconciliationAudit where
  operationKey : String
  action : ReconciliationAction
  solId : Option String
  reason : String
  actor : Option String
  verifiedRemoteAbsence : Bool
  deriving DecidableEq, Repr

/-- The arguments of `reconcile_request_operation` and
    `release_request_operation`. -/
structure ReconciliationCall where
  action : ReconciliationAction
  solidId : Option String
  reason : String
  operationKey : String
  actor : Option String
  proofOfAbsence : Bool
  deriving DecidableEq, Repr

/-- An identifier that matches `SAFE_SOL_ID`. -/
abbrev SolId := { sol : String // safeSolId sol = true }

/-- The action after validation: only a safe identifier can be recorded. -/
inductive CheckedAction
  | recordSolid (solid : SolId)
  | releaseRetry
  deriving DecidableEq

def CheckedAction.action : CheckedAction → ReconciliationAction
  | .recordSolid _ => .recordSolid
  | .releaseRetry => .releaseRetry

/-- `safe_solid` -/
def CheckedAction.solid : CheckedAction → Option String
  | .recordSolid solid => some solid.val
  | .releaseRetry => none

/-- The arguments after validation. -/
structure CheckedReconciliation where
  act : CheckedAction
  reason : String
  operationKey : String
  actor : Option String
  deriving DecidableEq

/-- `_safe_reason`, `_safe_operation_key`, `_safe_actor` and the check of the
    action's own argument, in the order of `_record_reconciliation_sync`. -/
def checkReconciliation (call : ReconciliationCall) :
    Except CallError CheckedReconciliation := do
  let reason := Text.casefold (Text.strip call.reason)
  if !Text.fullmatch Text.isReasonChar 120 reason then
    throw (.valueError "reason must contain only safe operational characters")
  let key := Text.strip call.operationKey
  if !Text.fullmatch Text.isKeyChar 240 key then
    throw (.valueError "operation_key is invalid")
  let actor := call.actor.map Text.strip
  if actor.any fun a => 160 < a.length || !Text.fullmatch Text.isKeyChar 240 a then
    throw (.valueError "actor is invalid")
  match call.action with
  | .recordSolid =>
      match call.solidId.map Text.strip with
      | some solid =>
          if h : safeSolId solid = true then return ⟨.recordSolid ⟨solid, h⟩, reason, key, actor⟩
          else throw (.valueError "solid_id is required and must be safe")
      | none => throw (.valueError "solid_id is required and must be safe")
  | .releaseRetry =>
      if call.proofOfAbsence then return ⟨.releaseRetry, reason, key, actor⟩
      else throw (.valueError "release requires explicit proof of remote absence")

/-- The two UPDATEs of `_record_reconciliation_sync`. -/
def applyReconciliation (now : Timestamp) (call : CheckedReconciliation) (op : Operation) :
    Operation :=
  let manual := ReconciliationJson.manual call.act.action.name call.operationKey call.reason
  match call.act with
  | .recordSolid solid =>
      { op with
        state := .completed, solId := some solid.val
        completedAt := op.completedAt.or (some now)
        failureCategory := none, failureMessage := none
        claimOwner := none, claimExpiresAt := none
        reconciliation := manual, updatedAt := now }
  | .releaseRetry =>
      { op with
        state := .retryableFailure
        failureCategory := some "released_after_remote_absence"
        failureMessage := some "released_after_remote_absence"
        claimOwner := none, claimExpiresAt := none
        reconciliation := manual, updatedAt := now }

/-- The tests of the operation's state in `_record_reconciliation_sync`. -/
def reconciliationRefused (act : CheckedAction) (op : Operation) : Option CallError :=
  match act with
  | .recordSolid solid =>
      if op.state ≠ .reconciliationRequired ∧ op.state ≠ .completed then
        some (.requestError "reconciliation_not_required"
          "operation does not require reconciliation")
      else if op.state = .completed ∧ op.solId ≠ some solid.val then
        some (.conflictError "request reconciliation conflicts")
      else none
  | .releaseRetry =>
      if op.state ≠ .reconciliationRequired then
        some (.conflictError "Request is not awaiting reconciliation")
      else none

/-- What a reconciliation transaction does: the row it returns and the audit
    row it inserts.  `keyElsewhere` is whether the audit key already belongs
    to another operation. -/
def recordReconciliation (now : Timestamp) (call : CheckedReconciliation)
    (keyElsewhere : Bool) (audits : List ReconciliationAudit) (op : Operation) :
    Except CallError (Operation × Option ReconciliationAudit) :=
  if keyElsewhere then .error (.conflictError "request reconciliation conflicts")
  else if audits.any (·.operationKey == call.operationKey) then .ok (op, none)
  else match reconciliationRefused call.act op with
    | some error => .error error
    | none => .ok (applyReconciliation now call op,
        some ⟨call.operationKey, call.act.action, call.act.solid, call.reason, call.actor,
          call.act.action == .releaseRetry⟩)

end Cai.Request
