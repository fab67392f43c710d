/-
  Cai.Preparation.Prepare — from a finished cycle to the facts of its Request.

  `src/core/acessorias_preparation.py` resolves the identity of a cycle and
  then evaluates its department, each in a transaction of its own;
  `_ensure_operation_sync` of `src/core/acessorias_requests.py` reads the
  tables again.  `Database` joins the tables of both, and the views hand
  the evaluation and the Request the columns that they read.
-/
import Cai.Identity.Commands
import Cai.Mapping.Rules
import Cai.Request.Operation

namespace Cai.Preparation

open Cai.Lib
open Cai.Cycle (Timestamp CycleRow Status)
open Cai.Directory
open Cai.Identity
open Cai.Mapping
open Cai.Request (RequestFacts CycleSnapshot ConfidenceValue)

/-! ## §1. The tables. -/

/-- A row of `ia_classifications`. -/
structure ClassificationRow where
  id : Nat
  confidence : ConfidenceValue
  title : Option String
  description : Option String
  deriving DecidableEq

/-- Everything that is read between the end of a cycle and its POST. -/
structure Database where
  identity : IdentityTables := {}
  cycles : List CycleRow := []
  rules : RuleTables := {}
  history : List AssignmentRow := []
  snapshots : List MappingSnapshot := []
  classifications : List ClassificationRow := []

/-- The cycle with the public id. -/
def Database.cycle? (db : Database) (publicId : Nat) : Option CycleRow :=
  Table.select (·.publicId == publicId) db.cycles

/-- The rules, with the departments that a new rule may target. -/
def Database.ruleTables (db : Database) : RuleTables :=
  { db.rules with acessoriasDepartments := db.identity.directory.departments.rows.map (·.key) }

/-! ## §2. What the evaluation reads. -/

def resolutionRow (row : Entry Nat ResolutionColumns) : IdentityResolution :=
  ⟨row.id, row.key, row.value.outcome.state, row.value.outcome.linkId⟩

def linkRow (link : Link) : IdentityLink := ⟨link.id, link.key.2⟩

def ruleRow (rule : Rule) : MappingRule where
  id := rule.id
  digisacDepartmentExternalId := rule.key.1
  acessoriasDepartmentExternalId := rule.value.acessoriasDepartmentExternalId
  version := rule.key.2
  active := rule.value.state == .active
  target_ne_blank := rule.value.target_ne_blank

def Database.mappingTables (db : Database) : MappingTables where
  cycles := db.cycles
  snapshots := db.snapshots
  history := db.history
  digisacDepartments := db.rules.digisacDepartments
  resolutions := db.identity.resolutions.rows.map resolutionRow
  links := db.identity.links.rows.map linkRow
  rules := db.rules.rules.rows.map ruleRow
  departments := db.identity.directory.departments.rows.map fun row =>
    { row.value.toPresence with id := row.id, externalId := row.key }
  companies := db.identity.directory.companies.rows.map fun row =>
    { row.value.toPresence with id := row.id }
  companyDepartments := db.identity.directory.relationships.rows.map fun row =>
    { row.value.toPresence with companyId := row.key.1, departmentId := row.key.2 }

/-! ## §3. What the Request reads. -/

def stateText : MappingState → String
  | .resolved => "resolved"
  | .unresolved => "unresolved"
  | .invalid => "invalid"

def reasonText : MappingReason → String
  | .cycleBoundaryInsufficient => "cycle_boundary_insufficient"
  | .currentDepartmentMissing => "current_department_missing"
  | .digisacDepartmentUnavailable => "digisac_department_unavailable"
  | .identityNotConfirmed => "identity_not_confirmed"
  | .mappingRuleMissing => "mapping_rule_missing"
  | .acessoriasDepartmentUnavailable => "acessorias_department_unavailable"
  | .companyUnavailable => "company_unavailable"
  | .companyDepartmentUnavailable => "company_department_unavailable"
  | .mappingValidated => "mapping_validated"

/-- `_mapping_snapshot`: the row, as the table has it. -/
def mappingSnapshot (db : Database) (cycleId : Nat) : Option MappingSnapshot :=
  (db.snapshots.filter fun x => x.cycleId == cycleId && x.evaluationKey == "default").argmax (·.id)

def snapshotFacts (x : MappingSnapshot) : Request.MappingSnapshot where
  id := x.id
  state := stateText x.state
  reason := some (reasonText x.reason)
  companyId := x.companyId
  acessoriasDepartmentExternalId := x.acessoriasDepartmentExternalId

/-- The classification of the cycle. -/
def classification? (db : Database) (id : Option Nat) : Option ClassificationRow :=
  id.bind fun id => Table.select (·.id == id) db.classifications

/-- The confidence of a classification; NULL where there is none. -/
def confidenceOf (db : Database) (id : Option Nat) : ConfidenceValue :=
  ((classification? db id).map (·.confidence)).getD .notNumeric

/-- `_cycle_snapshot` -/
def cycleSnapshot (db : Database) (cycle : CycleRow) : CycleSnapshot where
  id := cycle.id
  conversationId := cycle.conversationId
  status := cycle.status
  classificationId := cycle.classificationId
  protocol := cycle.protocol
  confidence := confidenceOf db cycle.classificationId
  title := (classification? db cycle.classificationId).bind (·.title)
  description := (classification? db cycle.classificationId).bind (·.description)

/-- The first query of `_operation_state`. -/
def companyExternalId (db : Database) (companyId : Nat) : Option String :=
  match db.identity.directory.companies.byId? companyId with
  | some company => if company.value.available then some company.key else none
  | none => none

/-- The second query of `_operation_state`. -/
def relationshipUsable (db : Database) (companyId : Nat) (departmentExternalId : String) : Bool :=
  db.identity.directory.relationships.rows.any fun relation =>
    relation.key.1 == companyId && relation.value.available
      && db.identity.directory.departments.rows.any fun department =>
        department.id == relation.key.2 && department.key == departmentExternalId
          && department.value.available

/-- What `_ensure_operation_sync` and `_reopen_prepared_operation_sync` read. -/
def requestFacts (db : Database) (publicId : Nat) : RequestFacts :=
  let mapping := (db.cycle? publicId).bind fun cycle => mappingSnapshot db cycle.id
  { cycle := (db.cycle? publicId).map (cycleSnapshot db)
    mapping := mapping.map snapshotFacts
    companyExternalId := (mapping.bind (·.companyId)).bind (companyExternalId db)
    relationship := mapping.any fun x => x.companyId.any fun companyId =>
      x.acessoriasDepartmentExternalId.any (relationshipUsable db companyId) }

/-! ## §4. The preparation. -/

/-- A row of `conversation_cycle_identity_resolutions`. -/
abbrev Resolution := Entry Nat ResolutionColumns

/-- `RequestPreparation` -/
structure RequestPreparation where
  ready : Bool
  stage : String
  reason : String
  identity : Option Resolution := none
  mapping : Option MappingSnapshot := none
  deriving DecidableEq

/-- What a preparation raises. -/
inductive PreparationError
  | lookupError (message : String)
  | identity (error : IdentityError)
  | mapping (error : MappingError)
  deriving DecidableEq

/-- `_load_cycle_contact` with the checks of its row: the contact to resolve,
    or how the preparation ends. -/
def loadCycleContact (db : Database) (publicId : Nat) :
    Except PreparationError (RequestPreparation ⊕ Nat) :=
  match db.cycle? publicId with
  | none => .error (.lookupError "conversation cycle not found")
  | some cycle =>
      if cycle.status ≠ .completed ∧ cycle.status ≠ .completedWithWarnings then
        .ok (.inl ⟨false, "cycle", "cycle_not_terminal", none, none⟩)
      else if cycle.digisacContactExternalId.all Text.isBlank then
        .ok (.inl ⟨false, "identity", "canonical_contact_missing", none, none⟩)
      else match cycle.digisacContactExternalId.bind db.identity.digisacContacts.find? with
        | none => .ok (.inl ⟨false, "identity", "canonical_contact_unavailable", none, none⟩)
        | some contact => .ok (.inr contact.id)

/-- `resolve_cycle_identity`, with its default rule version. -/
def resolveIdentity (now resolvedAt : Timestamp) (publicId contactId : Nat) (db : Database) :
    Except PreparationError (Database × Resolution) :=
  match resolveCycleIdentity now db.cycles publicId contactId defaultRuleVersion resolvedAt
      db.identity with
  | .error e => .error (.identity e)
  | .ok (identity, row) => .ok ({ db with identity }, row)

def resolutionText : ResolutionState → String
  | .confirmed => "confirmed"
  | .ambiguous => "ambiguous"
  | .unresolved => "unresolved"
  | .conflict => "conflict"

/-- The checks of the resolution: how the preparation ends, unless it goes on. -/
def checkIdentity (contactId : Nat) (identity : Resolution) : Option RequestPreparation :=
  if identity.value.digisacContactId ≠ contactId then
    some ⟨false, "identity", "contact_provenance_mismatch", none, none⟩
  else if identity.value.outcome.state ≠ .confirmed then
    some ⟨false, "identity", if identity.value.reason ≠ "" then identity.value.reason
      else resolutionText identity.value.outcome.state, some identity, none⟩
  else none

/-- `evaluate_department_mapping` -/
def evaluateMapping (key : Option String) (evaluatedAt : Timestamp) (publicId : Nat)
    (db : Database) : Except PreparationError (Database × MappingSnapshot) :=
  match evaluateDepartmentMapping db.mappingTables publicId key evaluatedAt with
  | .error e => .error (.mapping e)
  | .ok (snapshots, mapping) => .ok ({ db with snapshots }, mapping)

/-- The end of a preparation that has evaluated the mapping. -/
def checkMapping (identity : Resolution) (mapping : MappingSnapshot) : RequestPreparation :=
  if mapping.state ≠ .resolved then
    ⟨false, "mapping", reasonText mapping.reason, some identity, some mapping⟩
  else ⟨true, "ready", "prepared", some identity, some mapping⟩

/-- `prepare_cycle_for_request`, when nothing happens between its
    transactions.  One that has committed stays, also where a later one raises. -/
def prepareCycleForRequest (now resolvedAt evaluatedAt : Timestamp) (publicId : Nat)
    (db : Database) : Database × Except PreparationError RequestPreparation :=
  match loadCycleContact db publicId with
  | .error e => (db, .error e)
  | .ok (.inl result) => (db, .ok result)
  | .ok (.inr contactId) =>
      match resolveIdentity now resolvedAt publicId contactId db with
      | .error e => (db, .error e)
      | .ok (db, identity) =>
          match checkIdentity contactId identity with
          | some result => (db, .ok result)
          | none =>
              match evaluateMapping none evaluatedAt publicId db with
              | .error e => (db, .error e)
              | .ok (db, mapping) => (db, .ok (checkMapping identity mapping))

end Cai.Preparation
