/-
  Cai.Mapping.Rules — the mapping rules and their audit.

  `_configure_department_mapping_sync` and `_transition` of
  `src/core/department_mapping.py`, with the constraints of
  `alembic/versions/0018_department_mapping.py`.  A call runs under the
  advisory lock of its DigiSac department and in one transaction, so it is
  a function on the tables; `now` is the clock of the database and `clock`
  that of the caller.  The columns `source` are left out: they always hold
  `manual_db`.
-/
import Cai.Lib.Fallible
import Cai.Lib.Trail
import Cai.Mapping.Evaluation

namespace Cai.Mapping

open Cai.Lib
open Cai.Cycle (Timestamp pgBlank)

/-! ## §1. Arguments. -/

/-- What `configure_department_mapping` raises. -/
inductive ConfigureError
  | valueError (message : String)
  | lookupError (message : String)
  /-- `DepartmentMappingConflictError` -/
  | conflict (message : String)
  | runtimeError (message : String)
  /-- A constraint of the two tables. -/
  | constraint
  deriving DecidableEq, Repr

/-- A value of the `metadata` argument. -/
inductive MetadataValue
  | null
  | bool (value : Bool)
  | int (value : Int)
  | text (value : String)
  /-- Any other object. -/
  | other
  deriving DecidableEq, Repr

abbrev Metadata := List (String × MetadataValue)

/-- The arguments; `effectiveAt` is what `_parse_timestamp` makes of its argument. -/
structure ConfigureCall where
  digisacDepartmentExternalId : String
  acessoriasDepartmentExternalId : Option String := none
  active : Bool := true
  reason : String
  actor : Option String := none
  operationKey : Option String := none
  metadata : Option Metadata := none
  effectiveAt : Option Timestamp := none

/-- `MANUAL_SOURCE` -/
def manualSource : String := "manual_db"

/-- `[a-z0-9_.:-]` -/
def isMetadataKeyChar (c : Char) : Bool := Text.isReasonChar c || c == '.'

/-- `_FORBIDDEN_METADATA_KEY_PARTS` -/
def forbiddenMetadataKeyParts : List String :=
  ["body", "content", "email", "header", "name", "phone", "payload", "secret", "token"]

/-- A check that lets `None` pass. -/
def optionally (check : String → Except ConfigureError String) :
    Option String → Except ConfigureError (Option String)
  | none => .ok none
  | some value => do return some (← check value)

/-- `_external_id` -/
def externalId (value field : String) : Except ConfigureError String := do
  let normalized := Text.strip value
  require (normalized ≠ "" ∧ normalized.length ≤ 240
      ∧ normalized.toList.all fun c => c ≠ '\r' && c ≠ '\n' && c ≠ '\x00')
    (.valueError (field ++ " must be a nonblank stable ID"))
  return normalized

/-- The shape `_safe_reason`, `_safe_actor` and `_safe_operation` share. -/
def safeText (cls : Char → Bool) (limit : Nat) (message value : String) :
    Except ConfigureError String :=
  match Text.safeValue cls limit value with
  | some normalized => .ok normalized
  | none => .error (.valueError message)

/-- `_safe_reason` -/
def safeReason : String → Except ConfigureError String :=
  safeText Text.isReasonChar 120 "reason must be a safe nonblank category"

/-- `_safe_actor` -/
def safeActor : Option String → Except ConfigureError (Option String) :=
  optionally (safeText Text.isOperationChar 120 "actor must be a safe administrative identity")

/-- `_safe_operation` -/
def safeOperation : Option String → Except ConfigureError (Option String) :=
  optionally (safeText Text.isOperationChar 240 "operation_key must be a safe nonblank value")

/-- One value of `_sanitize_metadata`. -/
def sanitizeValue : MetadataValue → Except ConfigureError MetadataValue
  | .null => .ok .null
  | .bool value => .ok (.bool value)
  | .int value => .ok (.int value)
  | .text value => do
      return .text (← safeText Text.isOperationChar 240 "metadata values must be safe scalar values"
        value)
  | .other => .error (.valueError "metadata values must be safe scalar values")

/-- `sanitized[key] = value` -/
def setItem (sanitized : Metadata) (key : String) (value : MetadataValue) : Metadata :=
  if sanitized.any (·.1 == key) then
    sanitized.map fun item => if item.1 = key then (key, value) else item
  else sanitized ++ [(key, value)]

/-- `_sanitize_metadata` -/
def sanitizeMetadata (metadata : Option Metadata) : Except ConfigureError Metadata :=
  (metadata.getD []).foldlM (fun sanitized (rawKey, value) => do
    let key ← safeText isMetadataKeyChar 64 "metadata contains an unsafe key" rawKey
    require (∀ part ∈ key.toList.splitOn '.', String.ofList part ∉ forbiddenMetadataKeyParts)
      (.valueError "metadata contains an unsafe key")
    return setItem sanitized key (← sanitizeValue value)) []

/-- The arguments after their checks. -/
structure ConfigureRequest where
  digisacId : String
  targetId : Option String
  active : Bool
  reason : String
  actor : Option String
  metadata : Metadata
  operation : Option String
  timestamp : Timestamp
  deriving DecidableEq, Repr

/-- The checks before the transaction. -/
def checkArguments (clock : Timestamp) (call : ConfigureCall) :
    Except ConfigureError ConfigureRequest := do
  let digisacId ← externalId call.digisacDepartmentExternalId "digisac_department_external_id"
  let targetId ← optionally (externalId · "acessorias_department_external_id")
    call.acessoriasDepartmentExternalId
  let reason ← safeReason call.reason
  let actor ← safeActor call.actor
  let metadata ← sanitizeMetadata call.metadata
  let operation ← safeOperation call.operationKey
  return { digisacId, targetId, active := call.active, reason, actor, metadata, operation
           timestamp := call.effectiveAt.getD clock }

/-! ## §2. The tables. -/

inductive RuleState
  | active
  | inactive
  deriving DecidableEq, Repr

/-- `"active" if active else "inactive"` -/
def RuleState.requested (active : Bool) : RuleState := if active then .active else .inactive

def RuleState.text : RuleState → String
  | .active => "active"
  | .inactive => "inactive"

/-- The columns of `department_mapping_rules` besides its id and its unique
    pair of DigiSac department and version. -/
structure RuleColumns where
  acessoriasDepartmentExternalId : String
  state : RuleState
  reason : String
  actor : Option String
  metadata : Metadata
  effectiveAt : Timestamp
  createdAt : Timestamp
  updatedAt : Timestamp
  target_ne_blank : pgBlank acessoriasDepartmentExternalId = false
  deriving DecidableEq

abbrev Rule := Entry (String × Nat) RuleColumns

/-- `digisac_department_external_id` -/
abbrev Rule.department (r : Rule) : String := r.key.1

abbrev Rule.version (r : Rule) : Nat := r.key.2

abbrev Rule.target (r : Rule) : String := r.value.acessoriasDepartmentExternalId

/-- The rule is an active one of the department. -/
def Rule.activeFor (d : String) (r : Rule) : Bool := r.department == d && r.value.state == .active

/-- A row of `department_mapping_transitions`; its unique `operation_key` is
    the key of the table. -/
structure RuleTransition where
  ruleId : Nat
  fromState : Option RuleState
  toState : RuleState
  reason : String
  actor : Option String
  createdAt : Timestamp
  deriving DecidableEq, Repr

def RuleTransition.change (t : RuleTransition) : Option RuleState × RuleState :=
  (t.fromState, t.toState)

/-- The two tables, and the keys of the two that they reference. -/
structure RuleTables where
  rules : Keyed (String × Nat) RuleColumns := .empty
  transitions : Keyed String RuleTransition := .empty
  digisacDepartments : List String := []
  acessoriasDepartments : List String := []

/-- `SELECT * … WHERE digisac_department_external_id = %s AND state = 'active'` -/
def activeRule (rules : Keyed (String × Nat) RuleColumns) (d : String) : Option Rule :=
  rules.rows.find? (Rule.activeFor d)

/-- The versions of a department, in the order of insertion. -/
def ruleVersions (rules : Keyed (String × Nat) RuleColumns) (d : String) : List Nat :=
  (rules.rows.filter fun r => r.key.1 == d).map (·.key.2)

/-- `SELECT COALESCE(MAX(version), 0) + 1` -/
def nextVersion (rules : Keyed (String × Nat) RuleColumns) (d : String) : Nat :=
  (ruleVersions rules d).foldr max 0 + 1

/-- `ORDER BY version DESC LIMIT 1` -/
def latestRule (rules : Keyed (String × Nat) RuleColumns) (d : String) : Option Rule :=
  (rules.rows.filter fun r => r.key.1 == d).argmax (·.key.2)

/-! ## §3. The statements. -/

/-- `_transition` -/
def transition (now : Timestamp) (transitions : Keyed String RuleTransition) (ruleId : Nat)
    (fromState : Option RuleState) (toState : RuleState) (reason operationKey : String)
    (actor : Option String) : Except ConfigureError (Keyed String RuleTransition) := do
  -- `ck_department_mapping_transition_operation_safe`
  require (Text.fullmatch Text.isOperationChar 240 operationKey = true) .constraint
  match transitions.find? operationKey with
  | none =>
      return transitions.insertNew operationKey
        { ruleId, fromState, toState, reason, actor, createdAt := now }
  | some existing => do
      require ((existing.value.ruleId, existing.value.toState, existing.value.reason,
          existing.value.actor) = (ruleId, toState, reason, actor))
        (.conflict "department mapping operation conflicts")
      return transitions

/-- The INSERT of a rule, with the constraints of the table. -/
def insertRule (now : Timestamp) (r : ConfigureRequest) (target : String) (state : RuleState)
    (rules : Keyed (String × Nat) RuleColumns) :
    Except ConfigureError (Keyed (String × Nat) RuleColumns × Rule) :=
  let key := (r.digisacId, nextVersion rules r.digisacId)
  if h : pgBlank r.digisacId = false ∧ pgBlank target = false ∧ rules.find? key = none
      ∧ (state = .active → activeRule rules r.digisacId = none) then
    let columns : RuleColumns :=
      { acessoriasDepartmentExternalId := target, state, reason := r.reason, actor := r.actor
        metadata := r.metadata, effectiveAt := r.timestamp, createdAt := now, updatedAt := now
        target_ne_blank := h.2.1 }
    .ok (rules.insertNew key columns, ⟨rules.freshId, key, columns⟩)
  else .error .constraint

/-- A new rule and its first transition. -/
def createRule (now : Timestamp) (r : ConfigureRequest) (key target : String) (state : RuleState)
    (db : RuleTables) : Except ConfigureError (RuleTables × Rule) := do
  let (rules, rule) ← insertRule now r target state db.rules
  let transitions ← transition now db.transitions rule.id none state r.reason key r.actor
  return ({ db with rules, transitions }, rule)

/-- The branch `if active`. -/
def activate (now : Timestamp) (r : ConfigureRequest) (key target : String)
    (current : Option Rule) (db : RuleTables) : Except ConfigureError (RuleTables × Rule) :=
  match current with
  | none => createRule now r key target .active db
  | some current =>
      if current.target = target then do
        let transitions ← transition now db.transitions current.id (some .active) .active
          r.reason key r.actor
        return ({ db with transitions }, current)
      else do
        let rules := db.rules.modifyId current.id fun c =>
          { c with state := .inactive, updatedAt := now }
        let transitions ← transition now db.transitions current.id (some .active) .inactive
          "mapping_replaced" (key ++ ":deactivate") r.actor
        createRule now r key target .active { db with rules, transitions }

/-- The rest of the function. -/
def inactivate (now : Timestamp) (r : ConfigureRequest) (key target : String)
    (current : Option Rule) (db : RuleTables) : Except ConfigureError (RuleTables × Rule) :=
  match current with
  | none =>
      match latestRule db.rules r.digisacId with
      | none => createRule now r key target .inactive db
      | some latest => do
          let transitions ← transition now db.transitions latest.id (some .inactive) .inactive
            r.reason key r.actor
          return ({ db with transitions }, latest)
  | some current => do
      let rules := db.rules.modifyId current.id fun c =>
        { c with state := .inactive, reason := r.reason, actor := r.actor, metadata := r.metadata
                 updatedAt := now }
      let transitions ← transition now db.transitions current.id (some .active) .inactive
        r.reason key r.actor
      match rules.byId? current.id with
      | none => .error (.runtimeError "inactivated department mapping is unavailable")
      | some row => return ({ db with rules, transitions }, row)

/-! ## §4. The call. -/

section Configure

-- `hashlib.sha256(text.encode("utf-8")).hexdigest()`
variable (sha256 : String → String)

/-- `safe_operation`, derived from the arguments when the caller gave none. -/
def effectiveKey (r : ConfigureRequest) : String :=
  r.operation.getD (manualSource ++ ":" ++ sha256 ("|".intercalate
    [manualSource, (RuleState.requested r.active).text, r.digisacId, r.targetId.getD "current",
      r.reason]))

/-- The transition under the key, joined with its rule. -/
def replayed (db : RuleTables) (key : String) : Option (RuleTransition × Rule) :=
  (db.transitions.find? key).bind fun t =>
    (db.rules.byId? t.value.ruleId).map fun rule => (t.value, rule)

/-- The replayed transition is one of the requested operation. -/
def ReplayMatches (r : ConfigureRequest) (replay : RuleTransition × Rule) : Prop :=
  replay.1.toState = .requested r.active ∧ replay.1.reason = r.reason
    ∧ ∀ target ∈ r.targetId, replay.2.target = target

instance (r : ConfigureRequest) (replay : RuleTransition × Rule) :
    Decidable (ReplayMatches r replay) := by
  unfold ReplayMatches
  infer_instance

/-- The transaction. -/
def configureRequest (now : Timestamp) (r : ConfigureRequest) (db : RuleTables) :
    Except ConfigureError (RuleTables × Rule) :=
  let key := effectiveKey sha256 r
  match replayed db key with
  | some replay => do
      require (ReplayMatches r replay)
        (.conflict "operation_key was already used for another mapping operation")
      return (db, replay.2)
  | none => do
      require (r.digisacId ∈ db.digisacDepartments) (.lookupError "DigiSac department not found")
      let current := activeRule db.rules r.digisacId
      require (r.active = true ∨ ∀ rule ∈ current, ∀ target ∈ r.targetId, rule.target = target)
        (.conflict "requested inactivation targets a different active rule")
      match r.targetId.or (current.map (·.target)) with
      | none => .error (.valueError
          "acessorias_department_external_id is required without an active rule")
      | some target => do
          require (target ∈ db.acessoriasDepartments)
            (.lookupError "Acessorias department not found")
          if r.active then activate now r key target current db
          else inactivate now r key target current db

/-- `_configure_department_mapping_sync` -/
def configureDepartmentMapping (now clock : Timestamp) (call : ConfigureCall) (db : RuleTables) :
    Except ConfigureError (RuleTables × Rule) := do
  configureRequest sha256 now (← checkArguments clock call) db

end Configure

end Cai.Mapping
