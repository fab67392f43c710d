/-
  Cai.Request.Orchestration — every caller of the Request operation of one
  cycle, as one machine.

  `create_request_for_cycle`, `recover_mapping_missing_request` and the two
  manual entry points of `src/core/acessorias_requests.py` run side by
  side.  A caller is a program counter (`Stage`); one action is one
  database transaction, one provider attempt or one crash, so any
  interleaving of the callers is a sequence of actions.  What a
  transaction reads outside the operation row (the cycle, its mapping, the
  company directory, the confidence, the clock) is part of the action.

  The answer to a POST is part of the action that sends it: no other step
  can change the answer, and a caller that dies before it reads the answer
  is a caller that crashes right after that action.
-/
import Cai.Lib.Transition
import Cai.Lib.History
import Cai.Request.Operation

namespace Cai.Request

open Cai.Lib
open Cai.Cycle (Timestamp)

/-! ## §1. Callers. -/

abbrev CallerId := Nat

/-- The provider a call uses.  A caller may pass its own provider; without
    one, `AcessoriasRequestAdapter` is built. -/
inductive Provider
  | adapter (maxAttempts : Nat)
  | custom
  deriving DecidableEq, Repr

/-- `provider or AcessoriasRequestAdapter()` succeeds; `ok` is whether the rest
    of the adapter's settings are valid. -/
def Provider.builds (ok : Bool) : Provider → Bool
  | .adapter maxAttempts => ok && 0 < maxAttempts
  | .custom => true

/-- Where a call stands.  Each constructor is the transaction or the provider
    attempt it performs next. -/
inductive Stage
  /-- `_ensure_operation_sync` -/
  | ensure
  /-- `_claim_operation_sync` -/
  | claim
  /-- The SELECT after a claim or a finish that changed nothing. -/
  | readBack
  /-- `_load_payload_sync` -/
  | loadPayload
  /-- `_finish_operation_sync` with `retryable(category)`, before any POST. -/
  | finishUnsent (category : String)
  /-- `_request_confidence_for_operation_sync` -/
  | readConfidence (payload : RequestPayload)
  /-- `_finish_confidence_blocked_sync` -/
  | finishBlocked (decision : ConfidenceDecision)
  /-- `_refresh_payload_metadata_sync` -/
  | refreshMetadata (payload : RequestPayload) (decision : ConfidenceDecision)
  /-- `provider or AcessoriasRequestAdapter()` -/
  | setupProvider (payload : RequestPayload)
  /-- `_mark_post_started_sync` -/
  | markPostStarted (payload : RequestPayload)
  /-- `_get_operation_for_cycle_sync` after a mark that was refused. -/
  | readUnmarked
  /-- The next attempt of `request_provider.create_request`. -/
  | provider (payload : RequestPayload) (attempt : Nat)
  /-- `_finish_operation_sync` with the outcome of the provider. -/
  | finish (outcome : RequestOutcome)
  /-- `_claim_mapping_missing_recovery_sync` -/
  | claimRecovery
  /-- `_get_operation_for_cycle_sync` after a recovery that was not granted. -/
  | readUnrecovered
  /-- `prepare_cycle_for_request` -/
  | prepare
  /-- `_record_preparation_recovery_blocked_sync` -/
  | recordBlocked (stage reason : String)
  /-- `_reopen_prepared_operation_sync` -/
  | reopen
  | returned (row : Option Operation)
  | raised (error : CallError)
  | crashed
  deriving DecidableEq

/-- The call still has steps to perform. -/
def Stage.live : Stage → Bool
  | .returned _ | .raised _ | .crashed => false
  | _ => true

/-- `_claim_owner`: the owner text under which a call claims; `candidate` is
    the caller's owner or the generated default. -/
def claimOwner (candidate : String) : String :=
  Text.slice 160 (String.ofList (candidate.toList.map fun c =>
    if Text.isKeyChar c then c else '-'))

/-- One call and its local variables. -/
structure Caller where
  owner : String
  provider : Provider
  stage : Stage
  deriving DecidableEq

/-! ## §2. The shared state. -/

/-- What has been committed, or sent, so far. -/
inductive Event
  /-- A claim was granted to `caller`. -/
  | claimed (caller : CallerId) (owner : String)
  /-- A post-start mark was committed by `caller`. -/
  | marked (caller : CallerId) (owner : String)
  /-- `caller` sent one HTTP POST, which ended in `result`. -/
  | posted (caller : CallerId) (result : TransportResult)
  /-- `_finish_operation_sync` of `caller` committed `state`. -/
  | finished (caller : CallerId) (owner : String) (state : OperationState)
  /-- A `record_solid` reconciliation row was committed. -/
  | recorded
  /-- A `release_retry` reconciliation row was committed. -/
  | released
  deriving DecidableEq, Repr

/-- The operation row of the cycle, its reconciliation rows, the calls, and
    the history of what was committed. -/
structure State where
  row : Option Operation
  audits : List ReconciliationAudit
  callers : CallerId → Option Caller
  log : History Event

/-- An empty operations table and no call. -/
def State.empty : State := ⟨none, [], fun _ => none, []⟩

/-- The columns of the cycle and its classification in `_load_payload_sync`. -/
structure Classification where
  protocol : Option String
  title : Option String
  description : Option String
  deriving DecidableEq, Repr

/-- `_load_payload_sync`; `none` where it raises. -/
def loadPayload (found : Option Classification) (op : Operation) : Option RequestPayload :=
  match found, op.companyExternalId, op.departmentExternalId with
  | some row, some company, some department =>
      (buildRequestPayload row.title row.description row.protocol company department).toOption
  | _, _, _ => none

/-- What the step of a call reads from outside the operation row. -/
inductive Input
  | ensure (now : Timestamp) (id : Nat) (facts : RequestFacts)
  /-- A transaction that only needs the clock and the lease length. -/
  | lease (now clock : Timestamp) (leaseSeconds : Nat)
  | clock (now : Timestamp)
  /-- A SELECT. -/
  | read
  /-- The classification that `_load_payload_sync` joins to the operation;
      `none` where the transaction fails. -/
  | classification (found : Option Classification)
  | confidence (now : Timestamp) (value : ConfidenceValue)
  /-- Building the provider; `false` where it raises. -/
  | setup (ok : Bool)
  /-- The adapter has no usable token. -/
  | noToken
  /-- The adapter sends one POST, which ends in `result`. -/
  | post (result : TransportResult)
  /-- A provider passed by the caller returns. -/
  | answer (call : OutcomeCall)
  /-- The provider raises. -/
  | raises
  /-- `prepare_cycle_for_request`: not ready, with its stage and reason. -/
  | unready (stage reason : String)
  | ready
  | facts (now : Timestamp) (facts : RequestFacts)
  deriving DecidableEq

inductive Action
  /-- A `create_request_for_cycle` call arrives. -/
  | create (c : CallerId) (owner : String) (provider : Provider)
  /-- A `recover_mapping_missing_request` call arrives. -/
  | recover (c : CallerId) (owner : String) (provider : Provider)
  /-- A `reconcile_request_operation` or `release_request_operation` call. -/
  | manual (now : Timestamp) (call : ReconciliationCall) (keyElsewhere : Bool)
  | crash (c : CallerId)
  | advance (c : CallerId) (input : Input)
  deriving DecidableEq

namespace State

/-- Write back the stage of one call. -/
def goto (s : State) (c : CallerId) (caller : Caller) (stage : Stage) : State :=
  { s with callers := Function.update s.callers c (some { caller with stage }) }

/-- Write back the row. -/
def putRow (s : State) (op : Operation) : State := { s with row := some op }

/-- Record an event. -/
def record (s : State) (e : Event) : State := { s with log := e :: s.log }

/-- A call ends with the row it read; a missing row is an error. -/
def returnRow (s : State) (c : CallerId) (caller : Caller) : State :=
  match s.row with
  | some op => s.goto c caller (.returned (some op))
  | none => s.goto c caller (.raised (.runtimeError "Acessórias Request operation is unavailable"))

end State

/-! ## §3. One transaction of a call. -/

/-- `_ensure_operation_sync` and the test of the state it returns. -/
def ensureStep (s : State) (c : CallerId) (caller : Caller) (now : Timestamp) (id : Nat)
    (facts : RequestFacts) : State :=
  match ensureOperation now id facts s.row with
  | none => s.goto c caller (.raised (.lookupError "conversation cycle not found"))
  | some op =>
      let s := s.putRow op
      if op.state ≠ .notStarted ∧ op.state ≠ .retryableFailure then
        s.goto c caller (.returned (some op))
      else s.goto c caller .claim

/-- `_claim_operation_sync` -/
def claimStep (s : State) (c : CallerId) (caller : Caller) (now : Timestamp)
    (leaseSeconds : Nat) (op : Operation) : State :=
  let (op, granted) := claimOperation now caller.owner leaseSeconds op
  let s := s.putRow op
  if granted then (s.record (.claimed c caller.owner)).goto c caller .loadPayload
  else s.goto c caller .readBack

/-- `_mark_post_started_sync` -/
def markStep (s : State) (c : CallerId) (caller : Caller) (now : Timestamp)
    (confidence : ConfidenceValue) (payload : RequestPayload) (op : Operation) : State :=
  let (op, started) := markPostStarted now caller.owner confidence op
  let s := s.putRow op
  if started then (s.record (.marked c caller.owner)).goto c caller (.provider payload 1)
  else s.goto c caller .readUnmarked

/-- `_finish_operation_sync`; where the UPDATE changes nothing, the row is read
    again in a second transaction. -/
def finishStep (s : State) (c : CallerId) (caller : Caller) (now : Timestamp)
    (outcome : RequestOutcome) (op : Operation) : State :=
  match outcomeError outcome with
  | some error => s.goto c caller (.raised error)
  | none =>
      match finishOperation now caller.owner outcome op with
      | some op =>
          ((s.putRow op).record (.finished c caller.owner outcome.state)).goto c caller
            (.returned (some op))
      | none => s.goto c caller .readBack

/-- One attempt of the adapter, at the `attempt`-th pass of its loop. -/
def postStep (s : State) (c : CallerId) (caller : Caller) (payload : RequestPayload)
    (maxAttempts attempt : Nat) (result : TransportResult) : State :=
  let s := s.record (.posted c result)
  match createRequestAttempt maxAttempts attempt result with
  | .retry => s.goto c caller (.provider payload (attempt + 1))
  | .done outcome => s.goto c caller (.finish outcome)

/-- What `request_provider.create_request` does next: the adapter posts once
    more, or the provider returns or raises. -/
def providerStep (s : State) (c : CallerId) (caller : Caller) (payload : RequestPayload)
    (attempt : Nat) (input : Input) : Option State :=
  match caller.provider, input with
  | .adapter maxAttempts, .post result =>
      some (postStep s c caller payload maxAttempts attempt result)
  | .adapter _, .noToken =>
      if attempt = 1 then
        some (s.goto c caller (.finish (.definitive "missing_credentials")))
      else none
  | .custom, .answer call =>
      match call.outcome with
      | some outcome => some (s.goto c caller (.finish outcome))
      | none => some (s.goto c caller (.finish (.reconciliation "provider_exception")))
  | _, .raises => some (s.goto c caller (.finish (.reconciliation "provider_exception")))
  | _, _ => none

/-- `_reopen_prepared_operation_sync` -/
def reopenStep (s : State) (c : CallerId) (caller : Caller) (now : Timestamp)
    (facts : RequestFacts) (op : Operation) : State :=
  match facts.cycle with
  | none => s.goto c caller (.raised (.lookupError "conversation cycle not found"))
  | some cycle =>
      match operationState facts cycle with
      | .error reason =>
          s.goto c caller (.raised
            (.requestError (safeCategory reason) "prepared Request facts are not valid"))
      | .ok (opFacts, payload) =>
          match reopenPreparedOperation now caller.owner opFacts payload op with
          | some op => (s.putRow op).goto c caller .ensure
          | none =>
              s.goto c caller (.raised (.runtimeError "preparation recovery claim was lost"))

/-- The step of a call at a stage that needs the operation row. -/
def rowStep (s : State) (c : CallerId) (caller : Caller) (op : Operation) :
    Stage → Input → Option State
  | .claim, .lease now _ leaseSeconds => some (claimStep s c caller now leaseSeconds op)
  | .loadPayload, .classification found =>
      match loadPayload found op with
      | none => some (s.goto c caller (.finishUnsent "payload_load_failed"))
      | some payload => some (s.goto c caller (.readConfidence payload))
  | .finishUnsent category, .clock now =>
      some (finishStep s c caller now (.retryable category) op)
  | .finishBlocked decision, .clock now =>
      let op := (finishConfidenceBlocked now caller.owner decision op).getD op
      some ((s.putRow op).goto c caller (.returned (some op)))
  | .refreshMetadata payload decision, .clock now =>
      let op := (refreshPayloadMetadata now caller.owner payload decision op).getD op
      some ((s.putRow op).goto c caller (.setupProvider payload))
  | .markPostStarted payload, .confidence now value =>
      some (markStep s c caller now value payload op)
  | .finish outcome, .clock now => some (finishStep s c caller now outcome op)
  | .claimRecovery, .lease now clock leaseSeconds =>
      match claimMappingMissingRecovery now clock caller.owner leaseSeconds op with
      | some op => some ((s.putRow op).goto c caller .prepare)
      | none => some (s.goto c caller .readUnrecovered)
  | .recordBlocked stage reason, .clock now =>
      match recordPreparationRecoveryBlocked now caller.owner stage reason op with
      | some op => some ((s.putRow op).goto c caller (.returned (some op)))
      | none => some (s.goto c caller
          (.raised (.runtimeError "preparation recovery claim was lost")))
  | .reopen, .facts now facts => some (reopenStep s c caller now facts op)
  | _, _ => none

/-- The step of a call at a stage that leaves the operation row alone. -/
def localStep (s : State) (c : CallerId) (caller : Caller) :
    Stage → Input → Option State
  | .ensure, .ensure now id facts => some (ensureStep s c caller now id facts)
  | .readBack, .read => some (s.returnRow c caller)
  | .readConfidence payload, .confidence _ value =>
      let decision := evaluateRequestConfidence value
      if decision.state ≠ .allowed then some (s.goto c caller (.finishBlocked decision))
      else some (s.goto c caller (.refreshMetadata payload decision))
  | .setupProvider payload, .setup ok =>
      if caller.provider.builds ok then some (s.goto c caller (.markPostStarted payload))
      else some (s.goto c caller (.finishUnsent "provider_setup_failed"))
  | .readUnmarked, .read | .readUnrecovered, .read =>
      some (s.goto c caller (.returned s.row))
  | .provider payload attempt, input => providerStep s c caller payload attempt input
  | .prepare, .ready => some (s.goto c caller .reopen)
  | .prepare, .unready stage reason => some (s.goto c caller (.recordBlocked stage reason))
  | _, _ => none

/-- The stages of `rowStep`. -/
def Stage.needsRow : Stage → Bool
  | .claim | .loadPayload | .finishUnsent _ | .finishBlocked _ | .refreshMetadata _ _ | .markPostStarted _
  | .finish _ | .claimRecovery | .recordBlocked _ _ | .reopen => true
  | _ => false

/-- One step of a call.  A recovery that finds no operation row is not
    granted; every other row stage comes after the INSERT. -/
def advanceStep (s : State) (c : CallerId) (caller : Caller) (input : Input) : Option State :=
  if caller.stage.needsRow then
    match s.row with
    | some op => rowStep s c caller op caller.stage input
    | none =>
        match caller.stage, input with
        | .claimRecovery, .lease _ _ _ => some (s.goto c caller .readUnrecovered)
        | _, _ => none
  else localStep s c caller caller.stage input

/-- A manual call that passed its validation. -/
def manualStep (s : State) (now : Timestamp) (call : CheckedReconciliation)
    (keyElsewhere : Bool) (op : Operation) : State :=
  match recordReconciliation now call keyElsewhere s.audits op with
  | .error _ | .ok (_, none) => s
  | .ok (op, some audit) =>
      { s with
        row := some op
        audits := audit :: s.audits
        log := (match call.act with
          | .recordSolid _ => Event.recorded
          | .releaseRetry => Event.released) :: s.log }

/-! ## §4. The machine. -/

/-- A new call, at its first stage. -/
def arrive (s : State) (c : CallerId) (owner : String) (provider : Provider) (stage : Stage) :
    Option State :=
  match s.callers c with
  | some _ => none
  | none => some (s.goto c ⟨claimOwner owner, provider, stage⟩ stage)

/-- `_record_reconciliation_sync`; a call that is refused changes nothing. -/
def manualCall (s : State) (now : Timestamp) (call : ReconciliationCall) (keyElsewhere : Bool) :
    State :=
  match s.row with
  | none => s
  | some op =>
      match checkReconciliation call with
      | .error _ => s
      | .ok checked => manualStep s now checked keyElsewhere op

/-- The process of a call dies. -/
def crashStep (s : State) (c : CallerId) : Option State :=
  match s.callers c with
  | some caller => if caller.stage.live then some (s.goto c caller .crashed) else none
  | none => none

/-- One action on the shared state. -/
def step (s : State) : Action → Option State
  | .create c owner provider => arrive s c owner provider .ensure
  | .recover c owner provider => arrive s c owner provider .claimRecovery
  | .manual now call keyElsewhere => some (manualCall s now call keyElsewhere)
  | .crash c => crashStep s c
  | .advance c input => (s.callers c).bind fun caller => advanceStep s c caller input

/-- **The Request machine of one cycle.** -/
def requestMachine : Machine State Action where
  init s := s = State.empty
  step := step

end Cai.Request
