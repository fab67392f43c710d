/-
  Cai.Mapping.Evaluation — which Acessórias department a cycle maps to.

  `_evaluate_department_mapping_sync` of `src/core/department_mapping.py`,
  on the tables it reads, and the snapshot that `_persist_evaluation`
  appends.  A stored snapshot is returned as it is; otherwise each check of
  the function ends in one pair of state and reason.
-/
import Cai.Mapping.Assignment

namespace Cai.Mapping

open Cai.Lib
open Cai.Cycle (Timestamp CycleRow pgBlank)

/-! ## §1. The tables. -/

inductive MappingState
  | resolved
  | unresolved
  | invalid
  deriving DecidableEq, Repr

inductive MappingReason
  | cycleBoundaryInsufficient
  | currentDepartmentMissing
  | digisacDepartmentUnavailable
  | identityNotConfirmed
  | mappingRuleMissing
  | acessoriasDepartmentUnavailable
  | companyUnavailable
  | companyDepartmentUnavailable
  | mappingValidated
  deriving DecidableEq, Repr

/-- `validation_json` -/
structure Validation where
  assignmentHistoryId : Option Nat := none
  cycleStartedAt : Option Timestamp
  ticketClosedAt : Option Timestamp
  identityResolutionId : Option Nat := none
  identityLinkId : Option Nat := none
  companyId : Option Nat := none
  rulePresent : Bool := false
  targetDepartmentAvailable : Bool := false
  companyAvailable : Bool := false
  relationshipAvailable : Bool := false
  /-- Added to the object only when an assignment was found. -/
  digisacDepartmentPresent : Option Bool := none
  deriving DecidableEq, Repr

/-- What an evaluation finds: the columns of its snapshot. -/
structure Finding where
  ruleId : Option Nat := none
  ruleVersion : Option Nat := none
  digisacDepartmentExternalId : Option String := none
  acessoriasDepartmentExternalId : Option String := none
  companyId : Option Nat := none
  state : MappingState
  reason : MappingReason
  validation : Validation
  deriving DecidableEq, Repr

/-- A row of `conversation_cycle_department_mappings`. -/
structure MappingSnapshot extends Finding where
  id : Nat
  cycleId : Nat
  evaluationKey : String
  evaluatedAt : Timestamp
  deriving DecidableEq, Repr

inductive ResolutionState
  | confirmed
  | ambiguous
  | unresolved
  | conflict
  deriving DecidableEq, Repr

/-- The columns of `conversation_cycle_identity_resolutions` that are read. -/
structure IdentityResolution where
  id : Nat
  cycleId : Nat
  state : ResolutionState
  linkId : Option Nat
  deriving DecidableEq, Repr

/-- The columns of `identity_company_links` that are read. -/
structure IdentityLink where
  id : Nat
  acessoriasCompanyId : Nat
  deriving DecidableEq, Repr

/-- The columns of `department_mapping_rules` that are read. -/
structure MappingRule where
  id : Nat
  digisacDepartmentExternalId : String
  acessoriasDepartmentExternalId : String
  version : Nat
  active : Bool
  target_ne_blank : pgBlank acessoriasDepartmentExternalId = false
  deriving Repr

/-- `is_present` and `is_active` of a directory row; `is_active` may be NULL. -/
structure Presence where
  isPresent : Bool
  isActive : Option Bool
  deriving DecidableEq, Repr

/-- `bool(row["is_present"] and row["is_active"])` -/
def Presence.available (p : Presence) : Bool := p.isPresent && p.isActive == some true

structure AcessoriasDepartment extends Presence where
  id : Nat
  externalId : String
  deriving DecidableEq, Repr

structure AcessoriasCompany extends Presence where
  id : Nat
  deriving DecidableEq, Repr

structure CompanyDepartment extends Presence where
  companyId : Nat
  departmentId : Nat
  deriving DecidableEq, Repr

/-- The tables that an evaluation reads. -/
structure MappingTables where
  cycles : List CycleRow := []
  snapshots : List MappingSnapshot := []
  history : List AssignmentRow := []
  digisacDepartments : List String := []
  resolutions : List IdentityResolution := []
  links : List IdentityLink := []
  rules : List MappingRule := []
  departments : List AcessoriasDepartment := []
  companies : List AcessoriasCompany := []
  companyDepartments : List CompanyDepartment := []

inductive MappingError
  /-- `conversation cycle not found` -/
  | cycleNotFound
  /-- `ck_cycle_department_mapping_ids_nonblank` -/
  | constraint
  deriving DecidableEq, Repr

/-! ## §2. The parts of an evaluation. -/

/-- The assignments of a conversation that fall between two times and carry a department. -/
def inWindow (conversationId : String) (startedAt closedAt : Timestamp) (e : AssignmentEvent) :
    Bool :=
  e.conversationId == conversationId && e.departmentId.isSome
    && startedAt ≤ e.eventTimestamp && e.eventTimestamp ≤ closedAt

/-- The assignment the evaluation uses. -/
def selectAssignment (history : List AssignmentRow) (conversationId : String)
    (startedAt closedAt : Timestamp) : Option AssignmentRow :=
  Table.latest (fun r => inWindow conversationId startedAt closedAt r.toAssignmentEvent)
    (·.eventTimestamp) (·.id) history

/-- The stored snapshot that the evaluation replays. -/
def storedSnapshot (db : MappingTables) (cycleId : Nat) (key : String) : Option MappingSnapshot :=
  (Table.select (fun x => x.cycleId == cycleId && x.evaluationKey == key) db.snapshots).or
    (if key = "default" then (db.snapshots.filter (·.cycleId == cycleId)).argmin (·.id) else none)

/-- The resolution of the cycle, with the company of its link. -/
def cycleIdentity (db : MappingTables) (cycleId : Nat) : Option (IdentityResolution × Option Nat) :=
  (Table.select (·.cycleId == cycleId) db.resolutions).map fun resolution =>
    (resolution, resolution.linkId.bind fun linkId =>
      (Table.select (·.id == linkId) db.links).map (·.acessoriasCompanyId))

/-- Whether the rule's target, the company and their relation are usable. -/
def targetAvailable (db : MappingTables) (targetId : String) : Bool :=
  (Table.select (·.externalId == targetId) db.departments).any (·.available)

def companyAvailable (db : MappingTables) (companyId : Nat) : Bool :=
  (Table.select (·.id == companyId) db.companies).any (·.available)

def relationshipAvailable (db : MappingTables) (companyId : Nat) (targetId : String) : Bool :=
  (Table.select (fun relation => relation.companyId == companyId
    && db.departments.any (fun department => department.id == relation.departmentId
      && department.externalId == targetId)) db.companyDepartments).any (·.available)

/-! ## §3. The evaluation. -/

/-- The last checks: the rule is there. -/
def evaluateRule (db : MappingTables) (departmentId : String) (companyId : Nat)
    (validation : Validation) (rule : MappingRule) : Finding :=
  let targetId := rule.acessoriasDepartmentExternalId
  let target := targetAvailable db targetId
  let company := companyAvailable db companyId
  let relationship := relationshipAvailable db companyId targetId
  let (state, reason) : MappingState × MappingReason :=
    if !target then (.invalid, .acessoriasDepartmentUnavailable)
    else if !company then (.invalid, .companyUnavailable)
    else if !relationship then (.invalid, .companyDepartmentUnavailable)
    else (.resolved, .mappingValidated)
  { ruleId := some rule.id, ruleVersion := some rule.version
    digisacDepartmentExternalId := some departmentId
    acessoriasDepartmentExternalId := some targetId
    companyId := some companyId, state, reason
    validation := { validation with
      rulePresent := true, targetDepartmentAvailable := target
      companyAvailable := company, relationshipAvailable := relationship } }

/-- From the identity on: the department is known to the directory. -/
def evaluateIdentity (db : MappingTables) (cycleId : Nat) (departmentId : String)
    (validation : Validation) : Finding :=
  let identity := cycleIdentity db cycleId
  let validation := { validation with
    identityResolutionId := identity.map (·.1.id)
    identityLinkId := identity.bind (·.1.linkId) }
  match identity with
  | some (⟨_, _, .confirmed, some _⟩, some companyId) =>
      let validation := { validation with companyId := some companyId }
      match Table.select (fun rule => rule.digisacDepartmentExternalId == departmentId
          && rule.active) db.rules with
      | none =>
          { digisacDepartmentExternalId := some departmentId, companyId := some companyId
            state := .unresolved, reason := .mappingRuleMissing, validation }
      | some rule => evaluateRule db departmentId companyId validation rule
  | _ =>
      { digisacDepartmentExternalId := some departmentId
        state := .unresolved, reason := .identityNotConfirmed, validation }

/-- From the assignment on: the cycle has its bounds. -/
def evaluateAssignment (db : MappingTables) (cycle : CycleRow) (validation : Validation) :
    Option AssignmentRow → Finding
  | some { id, departmentId := some departmentId, .. } =>
      let present := decide (departmentId ∈ db.digisacDepartments)
      let validation := { validation with
        assignmentHistoryId := some id, digisacDepartmentPresent := some present }
      if present then evaluateIdentity db cycle.id departmentId validation
      else
        { digisacDepartmentExternalId := some departmentId
          state := .invalid, reason := .digisacDepartmentUnavailable, validation }
  | _ => { state := .unresolved, reason := .currentDepartmentMissing, validation }

/-- What an evaluation of the cycle finds. -/
def evaluateCycle (db : MappingTables) (cycle : CycleRow) : Finding :=
  let validation : Validation :=
    { cycleStartedAt := cycle.cycleStartedAt, ticketClosedAt := cycle.ticketClosedAt }
  match cycle.cycleStartedAt, cycle.ticketClosedAt with
  | some startedAt, some closedAt =>
      if closedAt < startedAt then
        { state := .unresolved, reason := .cycleBoundaryInsufficient, validation }
      else
        evaluateAssignment db cycle validation
          (selectAssignment db.history cycle.conversationId startedAt closedAt)
  | _, _ => { state := .unresolved, reason := .cycleBoundaryInsufficient, validation }

/-- `_persist_evaluation`, for a key the cycle has no snapshot of. -/
def persistEvaluation (db : MappingTables) (cycleId : Nat) (key : String) (timestamp : Timestamp)
    (finding : Finding) : Except MappingError (List MappingSnapshot × MappingSnapshot) :=
  if finding.digisacDepartmentExternalId.any pgBlank
      || finding.acessoriasDepartmentExternalId.any pgBlank then
    .error .constraint
  else
    let snapshot : MappingSnapshot :=
      { finding with
        id := db.snapshots.foldr (max ·.id) 0 + 1, cycleId, evaluationKey := key
        evaluatedAt := timestamp }
    .ok (Table.insert db.snapshots snapshot, snapshot)

/-- `_evaluate_department_mapping_sync`; `evaluationKey` is what
    `_safe_operation` makes of the argument. -/
def evaluateDepartmentMapping (db : MappingTables) (cyclePublicId : Nat)
    (evaluationKey : Option String) (timestamp : Timestamp) :
    Except MappingError (List MappingSnapshot × MappingSnapshot) :=
  let key := evaluationKey.getD "default"
  match Table.select (·.publicId == cyclePublicId) db.cycles with
  | none => .error .cycleNotFound
  | some cycle =>
      match storedSnapshot db cycle.id key with
      | some snapshot => .ok (db.snapshots, snapshot)
      | none => persistEvaluation db cycle.id key timestamp (evaluateCycle db cycle)

end Cai.Mapping
