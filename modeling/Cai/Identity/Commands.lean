/-
  Cai.Identity.Commands — the administrative commands and the machine.

  `_execute_admin_identity_link_command_sync` and the entry points of
  `src/core/identity_resolution.py`, with the ledger of
  `alembic/versions/0021_identity_admin_commands.py`.  A command is one
  transaction, but other transactions commit between its statements, so it
  takes several steps: the look at the ledger, the lookups, the reservation
  of its key, and the operation with the commit.  The operation holds the
  lock of its contact until the commit, so these two are one step.  The
  other operations hold that lock from their first statement on the tables
  and are one step each; a batch discovery is one `discover` for each
  contact.

  A digest (`command_key_hash`, `request_fingerprint`) is kept as what is
  hashed, since digests are only compared.
-/
import Cai.Lib.Transition
import Cai.Identity.Links

namespace Cai.Identity

open Cai.Lib
open Cai.Cycle (Timestamp CycleRow)
open Cai.Directory

/-! ## §1. Arguments. -/

/-- `_safe_opaque_reference` -/
def safeOpaqueReference (value field : String) : Except IdentityError String := do
  let normalized := Text.strip value
  require (normalized ≠ "" ∧ normalized.length ≤ 200
      ∧ normalized.toList.all fun c => 32 ≤ c.toNat && c.toNat ≠ 127)
    (.valueError (field ++ " must be a safe nonblank value"))
  return normalized

/-- `_safe_reason` -/
def safeReason (value : String) : Except IdentityError String :=
  match Text.safeValue Text.isReasonChar 120 value with
  | some normalized => .ok normalized
  | none => .error (.valueError "reason must be a safe nonblank category")

/-- `_safe_value` -/
def safeValue (value field : String) : Except IdentityError String :=
  match Text.safeValue Text.isOperationChar 120 value with
  | some normalized => .ok normalized
  | none => .error (.valueError (field ++ " must be a safe nonblank value"))

/-- The three commands with what they are given besides contact and key. -/
inductive AdminOperation
  /-- `ADMIN_CONFIRM_OPERATION` -/
  | confirmation (companyExternalId reason : String)
  /-- `ADMIN_REJECT_OPERATION` -/
  | rejection (companyExternalId reason : String)
  /-- `ADMIN_DISCOVERY_OPERATION`, without company and reason. -/
  | discovery
  deriving DecidableEq, Repr

/-- What is fingerprinted (`_admin_command_fingerprint`). -/
structure AdminRequest where
  operation : AdminOperation
  contactExternalId : String
  deriving DecidableEq, Repr

/-- A call of `confirm_identity_link_admin`, `reject_identity_link_admin` or
    `discover_identity_admin`. -/
structure AdminCall extends AdminRequest where
  idempotencyKey : String
  deriving DecidableEq, Repr

def AdminOperation.companyExternalId : AdminOperation → Option String
  | .confirmation company _ | .rejection company _ => some company
  | .discovery => none

/-- The operation with its normalised arguments. -/
def checkOperation : AdminOperation → Except IdentityError AdminOperation
  | .confirmation company reason => do
      let company ← safeOpaqueReference company "acessorias_company_external_id"
      return .confirmation company (← safeReason reason)
  | .rejection company reason => do
      let company ← safeOpaqueReference company "acessorias_company_external_id"
      return .rejection company (← safeReason reason)
  | .discovery => .ok .discovery

/-- The checks before the transaction. -/
def checkCall (call : AdminCall) : Except IdentityError AdminCall := do
  let contactExternalId ← safeOpaqueReference call.contactExternalId "digisac_contact_external_id"
  let operation ← checkOperation call.operation
  let idempotencyKey ← safeOpaqueReference call.idempotencyKey "idempotency_key"
  return { operation, contactExternalId, idempotencyKey }

/-! ## §2. The ledger. -/

/-- `result_json` -/
inductive AdminResult
  /-- `_admin_link_result` -/
  | link (contactExternalId companyExternalId : String) (columns : LinkColumns)
  /-- `_admin_discovery_result` -/
  | discovery (contactExternalId : String) (state : DiscoveryState)
      (matchedCompanyExternalIds : List String) (links : List (String × LinkColumns))
      (matchedCompanyCount evidenceCount : Nat) (observedAt : Timestamp)
  deriving DecidableEq, Repr

/-- A row of `identity_admin_commands`, keyed by what `command_key_hash` is
    the digest of; `result` is NULL while the command is `processing`. -/
structure CommandColumns where
  digisacContactId : Nat
  acessoriasCompanyId : Option Nat
  request : AdminRequest
  result : Option AdminResult
  deriving DecidableEq, Repr

abbrev Ledger := Keyed String CommandColumns

/-- What a command ends in. -/
inductive Outcome
  | returned (replayed : Bool) (result : AdminResult)
  | raised (error : IdentityError)
  deriving DecidableEq, Repr

/-- `_admin_command_replay` -/
def adminCommandReplay (row : CommandColumns) (request : AdminRequest) : Outcome :=
  if row.request ≠ request then .raised .incompatibleCommand
  else match row.result with
    | none => .raised .incompatibleCommand
    | some result => .returned true result

/-- `ADMIN_ACTOR` -/
def adminActor : String := "admin"

/-- `DEFAULT_RULE_VERSION` -/
def defaultRuleVersion : String := "spec0009-v1.1"

/-- `_admin_discovery_result` -/
def adminDiscoveryResult (db : IdentityTables) (contactExternalId : String)
    (discovery : IdentityDiscoveryResult) (observedAt : Timestamp) : AdminResult :=
  let companies := (db.directory.companies.rows.filter (·.id ∈ discovery.companyIds)).insertionSort
    (fun a b => a.key ≤ b.key)
  let links := companies.flatMap fun company =>
    (db.links.rows.filter fun link => link.id ∈ discovery.linkIds ∧ link.key.2 = company.id).map
      fun link => (company.key, link.value)
  .discovery contactExternalId discovery.state (companies.map (·.key)) links
    discovery.companyIds.length discovery.evidenceCount observedAt

/-- The operation of a command, on the tables at its commit. -/
def performCommand (now clock : Timestamp) (request : AdminRequest) (contactId : Nat)
    (companyId : Option Nat) (db : IdentityTables) :
    Except IdentityError (IdentityTables × AdminResult) :=
  match request.operation, companyId with
  | .discovery, _ => do
      let (after, discovery) ← discoverLocked now contactId defaultRuleVersion clock db
      return (after, adminDiscoveryResult after request.contactExternalId discovery clock)
  | .confirmation company reason, some companyId => do
      let (after, link) ← confirmLocked now contactId companyId
        { confirmedAt := clock, confirmedBy := some adminActor, source := .adminApi, reason } db
      return (after, .link request.contactExternalId company link.value)
  | .rejection company reason, some companyId => do
      let (after, link) ← rejectLocked now contactId companyId
        { reason, source := .adminApi, actor := some adminActor
          appendSameStateTransition := true } db
      return (after, .link request.contactExternalId company link.value)
  | _, none => .error (.runtimeError "identity link command requires a company")

/-! ## §3. The steps of a command. -/

/-- Where a running command is; the arguments are the normalised ones. -/
inductive CommandPhase
  /-- The ledger had no row under the key. -/
  | checked (call : AdminCall)
  /-- Contact and company were found. -/
  | found (call : AdminCall) (contactId : Nat) (companyId : Option Nat)
  /-- The row is inserted, not committed. -/
  | reserved (call : AdminCall) (contactId : Nat) (companyId : Option Nat)
  | done (call : AdminCall) (outcome : Outcome)
  deriving DecidableEq

def CommandPhase.call : CommandPhase → AdminCall
  | .checked call | .found call .. | .reserved call .. | .done call _ => call

/-- The command holds an uncommitted row under the key. -/
def CommandPhase.holds (key : String) : CommandPhase → Bool
  | .reserved call .. => call.idempotencyKey == key
  | _ => false

/-- A committed command, in the order of the commits. -/
structure Committed where
  idempotencyKey : String
  request : AdminRequest
  result : AdminResult
  deriving DecidableEq, Repr

/-- The tables, the commands that were called, and the commits so far. -/
structure IdentityWorld where
  tables : IdentityTables := {}
  ledger : Ledger := .empty
  cycles : List CycleRow := []
  commands : List CommandPhase := []
  committed : List Committed := []

inductive IdentityAction
  /-- `discover_identity`, or one contact of `discover_all_identities`. -/
  | discover (now : Timestamp) (contactId : Nat) (ruleVersion : String) (observedAt : Timestamp)
  /-- `resolve_cycle_identity` -/
  | resolve (now : Timestamp) (cyclePublicId contactId : Nat) (ruleVersion : String)
      (resolvedAt : Timestamp)
  /-- `confirm_identity_link` -/
  | confirm (now : Timestamp) (contactId companyId : Nat) (confirmedAt : Option Timestamp)
      (confirmedBy : Option String)
  /-- `confirm_identity_by_external_ids` -/
  | confirmByExternalIds (now : Timestamp) (contact company : String)
      (confirmedAt : Option Timestamp) (confirmedBy : Option String)
  /-- `reject_identity_link` -/
  | reject (now : Timestamp) (contactId companyId : Nat) (reason : String)
  /-- An administrative command is called and looks at the ledger. -/
  | call (call : AdminCall)
  /-- Command number `i` finds its contact and company. -/
  | lookup (i : Nat)
  /-- It inserts its row, unless another command holds one under the key. -/
  | reserve (i : Nat)
  /-- It performs its operation and commits. -/
  | finish (i : Nat) (now clock : Timestamp)
  /-- A statement of it raises. -/
  | abort (i : Nat) (error : IdentityError)
  /-- Other writers of the contacts, the directory and the cycles: none of
      them deletes a row or changes its key. -/
  | environment (digisacContacts : DigisacContacts) (directory : DirectoryTables)
      (cycles : List CycleRow)

/-- `_discover_identity_sync` -/
def discoverIdentity (now : Timestamp) (contactId : Nat) (ruleVersion : String)
    (observedAt : Timestamp) (db : IdentityTables) :
    Except IdentityError (IdentityTables × IdentityDiscoveryResult) := do
  let rule ← safeValue ruleVersion "rule_version"
  discoverLocked now contactId rule observedAt db

/-- `_resolve_cycle_identity_sync` -/
def resolveCycleIdentity (now : Timestamp) (cycles : List CycleRow) (cyclePublicId contactId : Nat)
    (ruleVersion : String) (resolvedAt : Timestamp) (db : IdentityTables) :
    Except IdentityError (IdentityTables × Entry Nat ResolutionColumns) := do
  let rule ← safeValue ruleVersion "rule_version"
  match cycles.find? (·.publicId == cyclePublicId) with
  | none => .error (.lookupError "conversation cycle not found")
  | some cycle => resolveCycleLocked now cycle.id contactId rule resolvedAt db

/-- The checks of the two manual confirmations. -/
def checkConfirmation (confirmedAt : Option Timestamp) (confirmedBy : Option String) :
    Except IdentityError Confirmation :=
  match confirmedAt with
  | none => .error (.valueError "confirmed_at is required for manual confirmation")
  | some confirmedAt =>
      match confirmedBy with
      | none => .ok { confirmedAt, confirmedBy := none }
      | some actor => do
          return { confirmedAt, confirmedBy := some (← safeValue actor "confirmed_by") }

/-- `_confirm_identity_link_sync` -/
def confirmIdentityLink (now : Timestamp) (contactId companyId : Nat)
    (confirmedAt : Option Timestamp) (confirmedBy : Option String) (db : IdentityTables) :
    Except IdentityError (IdentityTables × Link) := do
  confirmLocked now contactId companyId (← checkConfirmation confirmedAt confirmedBy) db

/-- `_confirm_identity_by_external_ids_sync` -/
def confirmIdentityByExternalIds (now : Timestamp) (contact company : String)
    (confirmedAt : Option Timestamp) (confirmedBy : Option String) (db : IdentityTables) :
    Except IdentityError (IdentityTables × Link) := do
  let c ← checkConfirmation confirmedAt confirmedBy
  match db.digisacContacts.find? contact, db.directory.companies.find? company with
  | some contact, some company => confirmLocked now contact.id company.id c db
  | _, _ => .error (.lookupError "identity confirmation records not found")

/-- `_reject_identity_link_sync` -/
def rejectIdentityLink (now : Timestamp) (contactId companyId : Nat) (reason : String)
    (db : IdentityTables) : Except IdentityError (IdentityTables × Link) := do
  rejectLocked now contactId companyId { reason := ← safeReason reason } db

/-- The lookups of a command; `LookupError` says what is missing. -/
def lookupCommand (db : IdentityTables) (call : AdminCall) : Except IdentityError (Nat × Option Nat) :=
  match db.digisacContacts.find? call.contactExternalId with
  | none => .error (.lookupError "DigiSac contact not found")
  | some contact =>
      match call.operation.companyExternalId with
      | none => .ok (contact.id, none)
      | some external =>
          match db.directory.companies.find? external with
          | none => .error (.lookupError "Acessorias company not found")
          | some company => .ok (contact.id, some company.id)

namespace IdentityWorld

/-- Command number `i` goes on to `phase`. -/
def proceed (s : IdentityWorld) (i : Nat) (phase : CommandPhase) : IdentityWorld :=
  { s with commands := s.commands.set i phase }

/-- A transaction of one of the other operations. -/
def transact {α : Type} (s : IdentityWorld)
    (body : IdentityTables → Except IdentityError (IdentityTables × α)) : IdentityWorld :=
  { s with tables := tablesAfter s.tables (body s.tables) }

@[simp] theorem commands_transact {α : Type} (s : IdentityWorld)
    (body : IdentityTables → Except IdentityError (IdentityTables × α)) :
    (s.transact body).commands = s.commands := rfl

@[simp] theorem ledger_transact {α : Type} (s : IdentityWorld)
    (body : IdentityTables → Except IdentityError (IdentityTables × α)) :
    (s.transact body).ledger = s.ledger := rfl

@[simp] theorem committed_transact {α : Type} (s : IdentityWorld)
    (body : IdentityTables → Except IdentityError (IdentityTables × α)) :
    (s.transact body).committed = s.committed := rfl

/-- The first look at the ledger. -/
def firstPhase (s : IdentityWorld) (call : AdminCall) : CommandPhase :=
  match checkCall call with
  | .error e => .done call (.raised e)
  | .ok call =>
      match s.ledger.find? call.idempotencyKey with
      | some row => .done call (adminCommandReplay row.value call.toAdminRequest)
      | none => .checked call

/-- The reservation: `INSERT … ON CONFLICT DO NOTHING` waits for the command
    that holds the key, and the second look at the ledger follows a conflict. -/
def reserveCommand (s : IdentityWorld) (i : Nat) (call : AdminCall) (contactId : Nat)
    (companyId : Option Nat) : Option IdentityWorld :=
  if s.commands.any (·.holds call.idempotencyKey) then none
  else match s.ledger.find? call.idempotencyKey with
    | some row => some (s.proceed i (.done call (adminCommandReplay row.value call.toAdminRequest)))
    | none => some (s.proceed i (.reserved call contactId companyId))

/-- The operation and the commit. -/
def finishCommand (s : IdentityWorld) (i : Nat) (call : AdminCall) (contactId : Nat)
    (companyId : Option Nat) (now clock : Timestamp) : IdentityWorld :=
  match performCommand now clock call.toAdminRequest contactId companyId s.tables with
  | .error e => s.proceed i (.done call (.raised e))
  | .ok (after, result) =>
      { s with
        tables := after
        ledger := s.ledger.insertNew call.idempotencyKey
          { digisacContactId := contactId, acessoriasCompanyId := companyId
            request := call.toAdminRequest, result := some result }
        commands := s.commands.set i (.done call (.returned false result))
        committed := s.committed ++ [⟨call.idempotencyKey, call.toAdminRequest, result⟩] }

end IdentityWorld

/-- One atomic action. -/
def identityStep (s : IdentityWorld) : IdentityAction → Option IdentityWorld
  | .discover now contactId ruleVersion observedAt =>
      some (s.transact (discoverIdentity now contactId ruleVersion observedAt))
  | .resolve now cyclePublicId contactId ruleVersion resolvedAt =>
      some (s.transact
        (resolveCycleIdentity now s.cycles cyclePublicId contactId ruleVersion resolvedAt))
  | .confirm now contactId companyId confirmedAt confirmedBy =>
      some (s.transact (confirmIdentityLink now contactId companyId confirmedAt confirmedBy))
  | .confirmByExternalIds now contact company confirmedAt confirmedBy =>
      some (s.transact (confirmIdentityByExternalIds now contact company confirmedAt confirmedBy))
  | .reject now contactId companyId reason =>
      some (s.transact (rejectIdentityLink now contactId companyId reason))
  | .call call => some { s with commands := s.commands ++ [s.firstPhase call] }
  | .lookup i =>
      match s.commands[i]? with
      | some (.checked call) =>
          some (s.proceed i (match lookupCommand s.tables call with
            | .ok (contactId, companyId) => .found call contactId companyId
            | .error e => .done call (.raised e)))
      | _ => none
  | .reserve i =>
      match s.commands[i]? with
      | some (.found call contactId companyId) => s.reserveCommand i call contactId companyId
      | _ => none
  | .finish i now clock =>
      match s.commands[i]? with
      | some (.reserved call contactId companyId) =>
          some (s.finishCommand i call contactId companyId now clock)
      | _ => none
  | .abort i error =>
      match s.commands[i]? with
      | some (.done ..) => none
      | some phase => some (s.proceed i (.done phase.call (.raised error)))
      | none => none
  | .environment digisacContacts directory cycles =>
      if Keyed.Kept s.tables.digisacContacts digisacContacts
          ∧ DirectoryTables.Kept s.tables.directory directory then
        some { s with tables := { s.tables with digisacContacts, directory }, cycles }
      else none

def identityMachine : Machine IdentityWorld IdentityAction where
  init s := s.tables.links = .empty ∧ s.tables.transitions = .empty
    ∧ s.tables.resolutions = .empty ∧ s.tables.evidence = .empty ∧ s.ledger = .empty
    ∧ s.commands = [] ∧ s.committed = []
  step := identityStep

end Cai.Identity
