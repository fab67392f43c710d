/-
  Cai.Preparation.World — preparations, Requests and everything they read,
  as one machine.

  `_prepare_and_create_request` of `src/workers/ia_worker.py` and
  `recover_mapping_missing_request` of `src/core/acessorias_requests.py`
  run for any number of cycles, side by side with the identity operations,
  `configure_department_mapping`, the directory publications and the other
  writers.  A preparation is three transactions, and anything may commit
  between them.  The inputs of the Request calls, which are free in
  `requestMachine`, are here what the tables say at that moment.

  The log is a ghost: it keeps, with the tables of that moment, each
  resolution and each mapping snapshot that is written, each post-start
  mark and each POST.
-/
import Cai.Identity.Safety
import Cai.Mapping.RuleCalls
import Cai.Preparation.Prepare
import Cai.Request.Orchestration

namespace Cai.Preparation

open Cai.Lib
open Cai.Cycle (Timestamp CycleRow Status)
open Cai.Directory
open Cai.Identity
open Cai.Mapping
open Cai.Request (CallerId ConfidenceValue RequestPayload)

/-! ## §1. The state. -/

/-- Who asked for a preparation. -/
inductive Purpose
  /-- `_prepare_and_create_request` -/
  | worker
  /-- The `recover_mapping_missing_request` call `c` of the cycle. -/
  | recovery (c : CallerId)
  deriving DecidableEq, Repr

/-- Where a preparation stands: the transaction it performs next. -/
inductive PreparePhase
  /-- `_load_cycle_contact` -/
  | load
  /-- `resolve_cycle_identity` -/
  | resolve (contactId : Nat)
  /-- `evaluate_department_mapping` -/
  | evaluate (identity : Resolution)
  | done (result : RequestPreparation)
  | raised (error : PreparationError)
  deriving DecidableEq

structure PrepareCall where
  publicId : Nat
  purpose : Purpose
  phase : PreparePhase
  deriving DecidableEq

/-- What the log keeps. -/
inductive Written
  /-- A resolution was inserted; the tables are those of the commit. -/
  | resolved (cycle : CycleRow) (tables : IdentityTables) (row : Resolution)
  /-- A snapshot was inserted; the tables are those that were evaluated. -/
  | evaluated (cycle : CycleRow) (tables : MappingTables) (snapshot : MappingSnapshot)
  /-- Call `c` of the cycle set the post-start mark. -/
  | marked (publicId : Nat) (c : CallerId) (confidence : ConfidenceValue)
  /-- Call `c` of the cycle sent a POST. -/
  | posted (publicId : Nat) (c : CallerId) (payload : RequestPayload)

structure World where
  identity : IdentityWorld := {}
  rules : RuleTables := {}
  history : List AssignmentRow := []
  snapshots : List MappingSnapshot := []
  classifications : List ClassificationRow := []
  /-- The Request calls, by the public id of their cycle. -/
  requests : Nat → Request.State := fun _ => .empty
  preparations : List PrepareCall := []
  log : History Written := []

/-- The tables. -/
def World.database (s : World) : Database where
  identity := s.identity.tables
  cycles := s.identity.cycles
  rules := s.rules
  history := s.history
  snapshots := s.snapshots
  classifications := s.classifications

/-! ## §2. The steps of a preparation. -/

namespace World

/-- Preparation number `i` goes on to `phase`. -/
def proceed (s : World) (i : Nat) (p : PrepareCall) (phase : PreparePhase) : World :=
  { s with preparations := s.preparations.set i { p with phase } }

/-- The tables that a resolution of a preparation commits, and its entry. -/
def commitResolution (s : World) (publicId : Nat) (after : IdentityTables) (row : Resolution) :
    World :=
  { s with
    identity := { s.identity with tables := after }
    log := match s.database.cycle? publicId with
      | some cycle =>
          if s.identity.tables.resolutions.find? cycle.id = none then
            .resolved cycle after row :: s.log
          else s.log
      | none => s.log }

/-- The snapshots that an evaluation commits, and its entry. -/
def commitEvaluation (s : World) (publicId : Nat) (snapshots : List MappingSnapshot)
    (row : MappingSnapshot) : World :=
  { s with
    snapshots
    log := match s.database.cycle? publicId with
      | some cycle =>
          if snapshots = s.snapshots then s.log
          else .evaluated cycle s.database.mappingTables row :: s.log
      | none => s.log }

/-- `evaluate_department_mapping`; a call that raises changes nothing. -/
def evaluate (s : World) (key : Option String) (evaluatedAt : Timestamp) (publicId : Nat) :
    World × Except MappingError MappingSnapshot :=
  match evaluateDepartmentMapping s.database.mappingTables publicId key evaluatedAt with
  | .error e => (s, .error e)
  | .ok (snapshots, row) => (s.commitEvaluation publicId snapshots row, .ok row)

/-- The next transaction of preparation number `i`. -/
def advancePreparation (s : World) (i : Nat) (p : PrepareCall) (now clock : Timestamp) :
    Option World :=
  match p.phase with
  | .load =>
      match loadCycleContact s.database p.publicId with
      | .error e => some (s.proceed i p (.raised e))
      | .ok (.inl result) => some (s.proceed i p (.done result))
      | .ok (.inr contactId) => some (s.proceed i p (.resolve contactId))
  | .resolve contactId =>
      match resolveIdentity now clock p.publicId contactId s.database with
      | .error e => some (s.proceed i p (.raised e))
      | .ok (after, row) =>
          let s := s.commitResolution p.publicId after.identity row
          match checkIdentity contactId row with
          | some result => some (s.proceed i p (.done result))
          | none => some (s.proceed i p (.evaluate row))
  | .evaluate identity =>
      match s.evaluate none clock p.publicId with
      | (s, .error e) => some (s.proceed i p (.raised (.mapping e)))
      | (s, .ok mapping) => some (s.proceed i p (.done (checkMapping identity mapping)))
  | .done _ | .raised _ => none

/-! ## §3. The steps of a Request call. -/

/-- The preparation of recovery call `c` ended so. -/
def recoveryEnded (s : World) (publicId : Nat) (c : CallerId) (ready : Bool)
    (stage reason : String) : Bool :=
  s.preparations.any fun p => p.publicId == publicId && p.purpose == .recovery c &&
    match p.phase with
    | .done result => result.ready == ready && (ready || (result.stage == stage
        && result.reason == reason))
    | _ => false

/-- What `_load_payload_sync` joins to the operation. -/
def classificationRead (s : World) (publicId : Nat) : Option Request.Classification := do
  let op ← (s.requests publicId).row
  let cycle ← s.database.cycle? publicId
  let row ← classification? s.database op.sourceClassificationId
  return { protocol := cycle.protocol, title := row.title, description := row.description }

/-- The confidence that is read for the operation. -/
def confidenceRead (s : World) (publicId : Nat) : ConfidenceValue :=
  confidenceOf s.database ((s.requests publicId).row.bind (·.sourceClassificationId))

/-- The input is what the tables say. -/
def inputTrue (s : World) (publicId : Nat) (c : CallerId) : Request.Input → Bool
  | .ensure _ _ facts | .facts _ facts => facts == requestFacts s.database publicId
  | .classification found => found.isNone || found == s.classificationRead publicId
  | .confidence _ value => value == s.confidenceRead publicId
  | .ready => s.recoveryEnded publicId c true "" ""
  | .unready stage reason => s.recoveryEnded publicId c false stage reason
  | _ => true

/-- The entries of a step of a Request call. -/
def entries (publicId : Nat) (before after : Request.State) (c : CallerId)
    (input : Request.Input) : List Written :=
  match (before.callers c).map Request.Caller.stage, input with
  | some (.markPostStarted _), .confidence _ value =>
      if after.log = before.log then [] else [.marked publicId c value]
  | some (.provider _ _), .noToken => []
  | some (.provider payload _), _ => [.posted publicId c payload]
  | _, _ => []

/-- The Request calls of one cycle go on. -/
def putRequest (s : World) (publicId : Nat) (after : Request.State) (new : List Written) : World :=
  { s with requests := Function.update s.requests publicId after, log := new ++ s.log }

/-- A step of the calls of one cycle.  `create_request_for_cycle` is only
    called by a worker that has prepared the cycle. -/
def requestStep (s : World) (publicId : Nat) : Request.Action → Option World
  | .create .. => none
  | .advance c input =>
      if s.inputTrue publicId c input then
        (Request.step (s.requests publicId) (.advance c input)).map fun after =>
          s.putRequest publicId after (entries publicId (s.requests publicId) after c input)
      else none
  | a => (Request.step (s.requests publicId) a).map fun after => s.putRequest publicId after []

end World

/-! ## §4. The machine. -/

/-- Cycles are never deleted, keep their ids, and keep a contact once they have one. -/
structure CyclesKept (before after : List CycleRow) : Prop where
  ids : (after.map (·.id)).Nodup
  publicIds : (after.map (·.publicId)).Nodup
  kept : ∀ r ∈ before, ∃ r' ∈ after, r'.id = r.id ∧ r'.publicId = r.publicId
    ∧ (r.digisacContactExternalId = none
      ∨ r'.digisacContactExternalId = r.digisacContactExternalId)

instance (before after : List CycleRow) : Decidable (CyclesKept before after) :=
  decidable_of_iff ((after.map (·.id)).Nodup ∧ (after.map (·.publicId)).Nodup
      ∧ ∀ r ∈ before, ∃ r' ∈ after, r'.id = r.id ∧ r'.publicId = r.publicId
        ∧ (r.digisacContactExternalId = none
          ∨ r'.digisacContactExternalId = r.digisacContactExternalId))
    ⟨fun ⟨h₁, h₂, h₃⟩ => ⟨h₁, h₂, h₃⟩, fun ⟨h₁, h₂, h₃⟩ => ⟨h₁, h₂, h₃⟩⟩

/-- The company identifiers are as `_required_identifier` leaves them. -/
def IdentifiersStripped (directory : DirectoryTables) : Prop :=
  ∀ company ∈ directory.companies.rows, Text.strip company.key = company.key

instance (directory : DirectoryTables) : Decidable (IdentifiersStripped directory) :=
  inferInstanceAs (Decidable (∀ company ∈ directory.companies.rows, _))

/-- What the other identity operations and writers may do: only a
    preparation resolves a cycle. -/
def identityAllowed (s : World) : IdentityAction → Prop
  | .resolve .. => False
  | .environment _ directory cycles =>
      CyclesKept s.identity.cycles cycles ∧ IdentifiersStripped directory
  | _ => True

instance (s : World) (a : IdentityAction) : Decidable (identityAllowed s a) := by
  unfold identityAllowed
  split <;> infer_instance

inductive WorldAction
  /-- An identity operation, or a writer of contacts, directory or cycles. -/
  | identity (a : IdentityAction)
  /-- `configure_department_mapping` -/
  | configure (now clock : Timestamp) (call : ConfigureCall)
  /-- Writers of the assignments, the classifications and the DigiSac departments. -/
  | others (history : List AssignmentRow) (classifications : List ClassificationRow)
      (digisacDepartments : List String)
  /-- `evaluate_department_mapping`, called by anyone. -/
  | evaluate (key : Option String) (evaluatedAt : Timestamp) (publicId : Nat)
  /-- A call of `prepare_cycle_for_request`. -/
  | prepare (publicId : Nat) (purpose : Purpose)
  /-- The next transaction of preparation number `i`. -/
  | advance (i : Nat) (now clock : Timestamp)
  /-- The worker of preparation number `i` calls `create_request_for_cycle`. -/
  | create (i : Nat) (c : CallerId) (owner : String) (provider : Request.Provider)
  /-- A step of the Request calls of a cycle. -/
  | request (publicId : Nat) (a : Request.Action)

section Machine

variable (sha256 : String → String)

/-- One atomic action. -/
def worldStep (s : World) : WorldAction → Option World
  | .identity a =>
      if identityAllowed s a then
        (identityStep s.identity a).map fun identity => { s with identity }
      else none
  | .configure now clock call =>
      some { s with
        rules := tablesAfter s.rules
          (configureDepartmentMapping sha256 now clock call s.database.ruleTables) }
  | .others history classifications digisacDepartments =>
      some { s with history, classifications, rules := { s.rules with digisacDepartments } }
  | .evaluate key evaluatedAt publicId => some (s.evaluate key evaluatedAt publicId).1
  | .prepare publicId purpose =>
      some { s with preparations := s.preparations ++ [⟨publicId, purpose, .load⟩] }
  | .advance i now clock =>
      s.preparations[i]?.bind fun p => s.advancePreparation i p now clock
  | .create i c owner provider =>
      match s.preparations[i]? with
      | some ⟨publicId, .worker, .done result⟩ =>
          if result.ready then
            (Request.step (s.requests publicId) (.create c owner provider)).map fun after =>
              s.putRequest publicId after []
          else none
      | _ => none
  | .request publicId a => s.requestStep publicId a

def worldMachine : Machine World WorldAction where
  init s := identityMachine.init s.identity ∧ (s.identity.cycles.map (·.id)).Nodup
    ∧ (s.identity.cycles.map (·.publicId)).Nodup
    ∧ IdentifiersStripped s.identity.tables.directory
    ∧ s.rules.rules = .empty ∧ s.rules.transitions = .empty ∧ s.snapshots = []
    ∧ s.requests = (fun _ => .empty) ∧ s.preparations = [] ∧ s.log = []
  step := worldStep sha256

end Machine

end Cai.Preparation
