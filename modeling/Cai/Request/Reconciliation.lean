/-
  Cai.Request.Reconciliation — the keys of manual reconciliations.

  `_record_reconciliation_sync` over the operations of all cycles.  A key
  that is recorded already is taken for a repetition as soon as it belongs
  to the same operation: neither the recorded action nor the recorded
  SolID is compared.

  Main results: `keys_stand_iff`, `reused_key_unchecked`.
-/
import Cai.Lib.Fallible
import Cai.Request.Operation
import Mathlib.Data.List.Nodup

namespace Cai.Request

open Cai.Lib
open Cai.Cycle (Timestamp)

/-! ## §1. The transaction. -/

/-- A row of `acessorias_request_reconciliations`. -/
structure AuditRow extends ReconciliationAudit where
  operationId : Nat
  deriving DecidableEq, Repr

/-- The operations, each with the public id of its cycle, and the audit rows;
    `operation_key` is UNIQUE. -/
structure ReconciliationTables where
  operations : List (String × Operation)
  audits : List AuditRow := []
  keys : (audits.map (·.operationKey)).Nodup := by decide

/-- A call and the cycle it names. -/
structure NamedCall where
  now : Timestamp
  cyclePublicId : String
  call : ReconciliationCall
  deriving DecidableEq, Repr

namespace ReconciliationTables

/-- `_operation_for_cycle_sync` -/
def operationForCycle (tables : ReconciliationTables) (cyclePublicId : String) :
    Except CallError Operation :=
  match tables.operations.lookup cyclePublicId with
  | some op => .ok op
  | none => .error (.lookupError "Acessórias Request operation not found")

/-- The audit row of a key. -/
def auditOf (tables : ReconciliationTables) (key : String) : Option AuditRow :=
  tables.audits.find? (·.operationKey == key)

/-- `UPDATE acessorias_request_operations … WHERE id = …` -/
def putOperation (tables : ReconciliationTables) (op : Operation) : ReconciliationTables :=
  { tables with operations := tables.operations.map fun row =>
      if row.2.id = op.id then (row.1, op) else row }

/-- The INSERT of the audit row. -/
def insertAudit (tables : ReconciliationTables) (audit : AuditRow)
    (h : tables.auditOf audit.operationKey = none) : ReconciliationTables where
  operations := tables.operations
  audits := audit :: tables.audits
  keys := by
    rw [List.map_cons, List.nodup_cons]
    refine ⟨fun hmem => ?_, tables.keys⟩
    obtain ⟨row, hrow, hkey⟩ := List.mem_map.mp hmem
    have hnone := List.find?_eq_none.mp h row hrow
    exact hnone (beq_iff_eq.mpr hkey)

/-- `_record_reconciliation_sync`, after the checks of its arguments: the tables
    and the operation it returns. -/
def record (tables : ReconciliationTables) (now : Timestamp) (cyclePublicId : String)
    (call : CheckedReconciliation) : Except CallError (ReconciliationTables × Operation) := do
  let op ← tables.operationForCycle cyclePublicId
  match h : tables.auditOf call.operationKey with
  | some audit =>
      if audit.operationId ≠ op.id then
        throw (.conflictError "request reconciliation conflicts")
      else return (tables, op)
  | none =>
      match reconciliationRefused call.act op with
      | some error => throw error
      | none =>
          let updated := applyReconciliation now call op
          return ((tables.insertAudit
            { operationKey := call.operationKey, action := call.act.action, solId := call.act.solid
              reason := call.reason, actor := call.actor
              verifiedRemoteAbsence := call.act.action == .releaseRetry, operationId := op.id }
            h).putOperation updated, updated)

/-- `reconcile_request_operation`, `release_request_operation` -/
def reconcile (tables : ReconciliationTables) (named : NamedCall) :
    Except CallError (ReconciliationTables × Operation) := do
  let checked ← checkReconciliation named.call
  tables.record named.now named.cyclePublicId checked

variable {tables : ReconciliationTables} {key : String} {audit : AuditRow}

theorem auditOf_eq_some_iff :
    tables.auditOf key = some audit ↔ audit ∈ tables.audits ∧ audit.operationKey = key := by
  constructor
  · intro h
    exact ⟨List.mem_of_find?_eq_some h, by simpa using List.find?_some h⟩
  · rintro ⟨haudit, rfl⟩
    cases hfind : tables.auditOf audit.operationKey with
    | none =>
        have hnone := List.find?_eq_none.mp hfind audit haudit
        simp at hnone
    | some audit' =>
        obtain ⟨haudit', hkey⟩ : audit' ∈ tables.audits ∧ audit'.operationKey = audit.operationKey :=
          ⟨List.mem_of_find?_eq_some hfind, by simpa using List.find?_some hfind⟩
        rw [List.inj_on_of_nodup_map tables.keys haudit' haudit hkey]

end ReconciliationTables

/-! ## §2. One call. -/

/-- The call decides what the audit row records. -/
def AuditRow.SameDecision (audit : AuditRow) (op : Operation) (call : CheckedReconciliation) : Prop :=
  audit.operationId = op.id ∧ audit.action = call.act.action ∧ audit.solId = call.act.solid

instance (audit : AuditRow) (op : Operation) (call : CheckedReconciliation) :
    Decidable (audit.SameDecision op call) := by
  unfold AuditRow.SameDecision
  infer_instance

/-- A call reuses the key of an audit row. -/
structure Reuses (tables : ReconciliationTables) (named : NamedCall) (call : CheckedReconciliation)
    (op : Operation) (audit : AuditRow) : Prop where
  checked : checkReconciliation named.call = .ok call
  operation : tables.operationForCycle named.cyclePublicId = .ok op
  recorded : audit ∈ tables.audits
  key : audit.operationKey = call.operationKey

/-- **A key stands for one decision**: a call that reuses it for another one
    raises the conflict, and a repetition returns the operation and changes
    nothing. -/
def KeyStands (tables : ReconciliationTables) (named : NamedCall) : Prop :=
  ∀ call op audit, Reuses tables named call op audit →
    (¬ audit.SameDecision op call → ∃ message,
        tables.reconcile named = .error (.conflictError message))
      ∧ (audit.SameDecision op call → tables.reconcile named = .ok (tables, op))

/-- Where the operation is the recorded one, so are the action and the SolID. -/
def SameAction (tables : ReconciliationTables) (named : NamedCall) : Prop :=
  ∀ call op audit, Reuses tables named call op audit → audit.operationId = op.id →
    audit.action = call.act.action ∧ audit.solId = call.act.solid

variable {tables : ReconciliationTables} {named : NamedCall} {call : CheckedReconciliation}
  {op : Operation} {audit : AuditRow}

/-- **What a reused key does**: only the operation is compared. -/
theorem reconcile_reused (h : Reuses tables named call op audit) :
    tables.reconcile named = if audit.operationId ≠ op.id then
      .error (.conflictError "request reconciliation conflicts") else .ok (tables, op) := by
  have haudit : tables.auditOf call.operationKey = some audit :=
    ReconciliationTables.auditOf_eq_some_iff.mpr ⟨h.recorded, h.key⟩
  have hreconcile : tables.reconcile named = tables.record named.now named.cyclePublicId call := by
    unfold ReconciliationTables.reconcile
    rw [h.checked]
    rfl
  rw [hreconcile]
  unfold ReconciliationTables.record
  rw [h.operation]
  show (match h : tables.auditOf call.operationKey with
    | some audit => _
    | none => _) = _
  split
  next audit' haudit' =>
    rw [haudit] at haudit'
    rw [← Option.some.inj haudit']
    rfl
  next hnone =>
    rw [haudit] at hnone
    cases hnone

/-- One call keeps the rule exactly when it names the recorded action. -/
theorem keyStands_iff : KeyStands tables named ↔ SameAction tables named := by
  constructor
  · intro h call op audit hreuses hop
    by_contra hother
    have hnot : ¬ audit.SameDecision op call := fun hsame => hother hsame.2
    obtain ⟨message, hconflict⟩ := (h call op audit hreuses).1 hnot
    rw [reconcile_reused hreuses, if_neg (not_not.mpr hop)] at hconflict
    cases hconflict
  · intro h call op audit hreuses
    rw [reconcile_reused hreuses]
    by_cases hop : audit.operationId = op.id
    · rw [if_neg (not_not.mpr hop)]
      exact ⟨fun hnot => absurd ⟨hop, h call op audit hreuses hop⟩ hnot, fun _ => rfl⟩
    · rw [if_pos hop]
      exact ⟨fun _ => ⟨_, rfl⟩, fun hsame => absurd hsame.1 hop⟩

/-! ## §3. Sequences of calls. -/

/-- What happens to the tables. -/
inductive ReconciliationStep
  | call (named : NamedCall)
  /-- The other writers of the operations, which write no audit row. -/
  | elsewhere (operations : List (String × Operation))
  deriving DecidableEq

/-- A call that raises changes nothing. -/
def ReconciliationStep.apply (step : ReconciliationStep) (tables : ReconciliationTables) :
    ReconciliationTables :=
  match step with
  | .call named => (committed (tables, none) ((tables.reconcile named).map fun result =>
      (result.1, some result.2))).1
  | .elsewhere operations => { tables with operations }

/-- A property of every call of a sequence, in the tables it finds. -/
def Throughout (P : ReconciliationTables → NamedCall → Prop) :
    ReconciliationTables → List ReconciliationStep → Prop
  | _, [] => True
  | tables, step :: steps =>
      (∀ named, step = .call named → P tables named) ∧ Throughout P (step.apply tables) steps

/-- **In every sequence of calls, every key stands for one decision exactly when
    every call that reuses a key of its operation names the recorded action
    and SolID.** -/
theorem keys_stand_iff (tables : ReconciliationTables) (steps : List ReconciliationStep) :
    Throughout KeyStands tables steps ↔ Throughout SameAction tables steps := by
  induction steps generalizing tables with
  | nil => exact Iff.rfl
  | cons step steps ih =>
      have hstep : (∀ named, step = .call named → KeyStands tables named)
          ↔ ∀ named, step = .call named → SameAction tables named :=
        forall_congr' fun named => imp_congr_right fun _ => keyStands_iff
      exact and_congr hstep (ih _)

/-! ## §4. A key reused for another SolID. -/

/-- The outcome of the POST is unknown. -/
def undecidedOperation : Operation where
  id := 1
  sourceCycleId := 1
  sourceClassificationId := some 1
  conversationId := "conversation-1"
  state := .reconciliationRequired
  attemptCount := 1
  updatedAt := 0

/-- One operation, no audit row. -/
def undecidedTables : ReconciliationTables where
  operations := [("cycle-1", undecidedOperation)]
  audits := []

/-- An operator records a SolID under the key `ticket-7`. -/
def recordUnderTicket (solid : String) : NamedCall where
  now := 0
  cyclePublicId := "cycle-1"
  call :=
    { action := .recordSolid, solidId := some solid, reason := "confirmed_in_panel"
      operationKey := "ticket-7", actor := none, proofOfAbsence := false }

/-- The tables after the SolID 10. -/
def tablesAfterTen : ReconciliationTables :=
  (ReconciliationStep.call (recordUnderTicket "10")).apply undecidedTables

/-- The row the second call is compared with. -/
def auditOfTen : AuditRow where
  operationKey := "ticket-7"
  action := .recordSolid
  solId := some "10"
  reason := "confirmed_in_panel"
  actor := none
  verifiedRemoteAbsence := false
  operationId := 1

/-- The second call, checked. -/
def recordEleven : CheckedReconciliation where
  act := .recordSolid ⟨"11", by decide +kernel⟩
  reason := "confirmed_in_panel"
  operationKey := "ticket-7"
  actor := none

/-- The row the second call finds: completed with the SolID 10. -/
def completedWithTen : Operation :=
  { undecidedOperation with
    state := .completed, solId := some "10", completedAt := some 0
    reconciliation := .manual "record_solid" "ticket-7" "confirmed_in_panel" }

/-- The second call reuses the key of the first. -/
theorem eleven_reuses :
    Reuses tablesAfterTen (recordUnderTicket "11") recordEleven completedWithTen auditOfTen where
  checked := by decide +kernel
  operation := by decide +kernel
  recorded := by decide +kernel
  key := rfl

/-- **The same key for the SolID 10 and then for the SolID 11**: the second call
    returns the operation completed with 10 and raises nothing. -/
theorem reused_key_unchecked :
    ¬ ∀ (tables : ReconciliationTables) (steps : List ReconciliationStep),
      Throughout KeyStands tables steps := by
  intro hall
  have hrun := hall undecidedTables
    [.call (recordUnderTicket "10"), .call (recordUnderTicket "11")]
  have hsecond : KeyStands tablesAfterTen (recordUnderTicket "11") := hrun.2.1 _ rfl
  have hsame := keyStands_iff.mp hsecond _ _ _ eleven_reuses rfl
  -- 10 is recorded, 11 is asked for
  have hsolid : some "10" = some "11" := hsame.2
  exact absurd hsolid (by decide)

end Cai.Request
