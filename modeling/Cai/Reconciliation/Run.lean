/-
  Cai.Reconciliation.Run — one call of `run_manual_reconciliation`.

  A call acquires both snapshots, plans and publishes them in one
  transaction, discovers identities in another one, and writes its report
  in a third; one `try` is around the three, and its handlers write
  `failed`.  `Environment` says what every provider answers and which
  statements raise, so that a call is a function of it and of the tables.

  Snapshot hashes, page and request counts and the text of the
  identifiers of an execution are left out.
-/
import Cai.Identity.Commands
import Cai.Reconciliation.Stamps

namespace Cai.Reconciliation

open Cai.Lib
open Cai.Cycle (Timestamp)
open Cai.Directory
open Cai.Identity (IdentityTables IdentityError IdentityDiscoveryResult DiscoveryState discoverLocked
  defaultRuleVersion)

/-! ## §1. What may go wrong. -/

/-- An exception, as the handlers tell them apart. -/
inductive ReconciliationError
  /-- `AcessoriasDirectoryError` -/
  | directory (category message : String)
  /-- `DigisacContactBackfillError` -/
  | backfill (category message : String)
  /-- `ManualReconciliationError` -/
  | manual (category message : String)
  /-- Any other exception. -/
  | other
  deriving DecidableEq, Repr

/-- What the transaction of the directory raises. -/
def ReconciliationError.ofDirectory : DirectoryError → ReconciliationError
  | .directory category message => .directory category message
  | .reconciliation category message => .manual category message
  | .missing _ | .database _ => .other

/-- `category` and the message that is stored. -/
def ReconciliationError.safe : ReconciliationError → String × String
  | .directory category message | .backfill category message => (category, message)
  | .manual category message => (category, Text.slice 240 message)
  | .other => ("internal_error", "manual reconciliation failed")

/-- `pg_try_advisory_xact_lock` -/
inductive LockAnswer
  | granted
  | held
  /-- The statement raises. -/
  | raises
  deriving DecidableEq, Repr

/-- What a call meets: the clocks, the answers of the providers, and which of
    its statements raise. -/
structure Environment where
  /-- `_utc_now()` -/
  now : Timestamp := 0
  /-- The clock of the discovery, and `now()` of the database in it. -/
  observedAt : Timestamp := 0
  clock : Timestamp := 0
  /-- The INSERT of `_start_execution`. -/
  start : Bool := false
  /-- `fetch_snapshot` -/
  acessorias : Except ReconciliationError AcessoriasSnapshot
  /-- `acquire_contact_backfill` -/
  digisac : Except ReconciliationError DigisacContactBackfillSnapshot
  /-- Which of the two raises first. -/
  digisacFirst : Bool := false
  locks : String → LockAnswer := fun _ => .granted
  /-- The statements of the plan and of `_apply_directory_delta`. -/
  directory : Statement → Bool := fun _ => false
  /-- The statements of the upsert of a contact. -/
  contact : String → Bool := fun _ => false
  /-- `now()` of the database in the transaction of the publication. -/
  publishedAt : Timestamp := 0
  /-- `_write_execution` in the transaction of the publication. -/
  write : Bool := false
  /-- The COMMIT of the transaction that planned. -/
  commit : Bool := false
  /-- The connection and the SELECT of `_discover_all_identities_sync`. -/
  listing : Bool := false
  /-- The statements of the discovery of a contact. -/
  discovery : Nat → Bool := fun _ => false
  /-- The COMMIT of the discoveries, when the connection is given back. -/
  discoveryCommit : Bool := false
  /-- `_finish_execution` at the end of the `try`. -/
  finish : Bool := false
  /-- `_finish_execution` in a handler. -/
  failed : Bool := false

/-! ## §2. Acquisition. -/

section Steps

variable (env : Environment)

/-- `access` in `_acquire_snapshots` -/
def accessSnapshot : Except ReconciliationError AcessoriasSnapshot :=
  match env.acessorias with
  | .ok snapshot =>
      match validateSnapshot snapshot with
      | .ok () => .ok snapshot
      | .error e => .error (.ofDirectory e)
  | .error (.directory category message) => .error (.directory category message)
  | .error _ => .error (.manual "provider" "Acessórias snapshot acquisition failed")

/-- `digisac` in `_acquire_snapshots` -/
def digisacSnapshot : Except ReconciliationError DigisacContactBackfillSnapshot :=
  match env.digisac with
  | .ok snapshot => .ok snapshot
  | .error (.backfill category message) => .error (.backfill category message)
  | .error _ => .error (.manual "provider" "DigiSac snapshot acquisition failed")

/-- `_acquire_snapshots`: `gather` raises what was raised first. -/
def acquireSnapshots :
    Except ReconciliationError (AcessoriasSnapshot × DigisacContactBackfillSnapshot) :=
  match accessSnapshot env, digisacSnapshot env with
  | .ok snapshot, .ok digisac => .ok (snapshot, digisac)
  | .error e, .error e' => .error (if env.digisacFirst then e' else e)
  | .error e, .ok _ => .error e
  | .ok _, .error e => .error e

/-! ## §3. The transaction that plans. -/

/-- `_lock_all_sources` -/
def lockAllSources : Except ReconciliationError Unit :=
  ["cai:digisac-acessorias-reconciliation", "cai:acessorias-directory",
      "cai:digisac_contacts:full_backfill"].forM fun name =>
    match env.locks name with
    | .granted => .ok ()
    | .held => .error (.manual "reconciliation_in_progress"
        "another reconciliation is already publishing")
    | .raises => .error .other

/-- The locks and the plan. -/
def lockAndPlan (snapshot : AcessoriasSnapshot) (digisac : DigisacContactBackfillSnapshot)
    (db : IdentityTables) : Except ReconciliationError ReconciliationPlan := do
  lockAllSources env
  (buildReconciliationPlan env.directory snapshot digisac db).mapError .ofDirectory

/-- One contact of `_apply_digisac_delta`. -/
def publishContact (contacts : DigisacContacts) (contact : DigisacContact) :
    Except ReconciliationError DigisacContacts := do
  require (env.contact contact.externalId = false) .other
  (upsertDigisacContactCursor { contact, source := "manual_reconciliation", observed := env.now }
    contacts).mapError fun _ => .other

/-- `_apply_directory_delta` and `_apply_digisac_delta` -/
def applyDeltas (snapshot : AcessoriasSnapshot) (digisac : DigisacContactBackfillSnapshot)
    (db : IdentityTables) : Except ReconciliationError IdentityTables := do
  let directory ← (applyDirectoryDelta env.directory snapshot db.directory).mapError .ofDirectory
  let digisacContacts ← (digisac.contacts.insertionSort (·.externalId ≤ ·.externalId)).foldlM
    (publishContact env) db.digisacContacts
  return { db with directory, digisacContacts }

/-! ## §4. Discovery. -/

/-- `IdentityBatchDiscoveryResult` -/
structure BatchCounts where
  processedCount : Nat := 0
  candidateCount : Nat := 0
  ambiguousCount : Nat := 0
  unresolvedCount : Nat := 0
  confirmedPreservedCount : Nat := 0
  failedCount : Nat := 0
  deriving DecidableEq, Repr

/-- A contact was discovered; a conflict has no count of its own. -/
def BatchCounts.process (counts : BatchCounts) (state : DiscoveryState) : BatchCounts :=
  let counts := { counts with processedCount := counts.processedCount + 1 }
  match state with
  | .candidate => { counts with candidateCount := counts.candidateCount + 1 }
  | .ambiguous => { counts with ambiguousCount := counts.ambiguousCount + 1 }
  | .unresolved => { counts with unresolvedCount := counts.unresolvedCount + 1 }
  | .confirmed => { counts with confirmedPreservedCount := counts.confirmedPreservedCount + 1 }
  | .conflict => counts

/-- What the loop over the contacts carries; `discovered` are the contacts
    whose block returned. -/
structure Batch where
  db : IdentityTables
  counts : BatchCounts := {}
  discovered : List Nat := []
  deriving DecidableEq

/-- One contact, in a block of its own. -/
def discoverContact (batch : Batch) (contactId : Nat) : Batch :=
  let result : Except IdentityError (IdentityTables × IdentityDiscoveryResult) := do
    require (env.discovery contactId = false) .constraint
    discoverLocked env.clock contactId defaultRuleVersion env.observedAt batch.db
  match result with
  | .ok (db, found) =>
      { db, counts := batch.counts.process found.state
        discovered := contactId :: batch.discovered }
  | .error _ =>
      { batch with
        counts := { batch.counts with failedCount := batch.counts.failedCount + 1 } }

/-- `_discover_all_identities_sync`: one transaction, since the SELECT began it. -/
def discoverAllIdentities (db : IdentityTables) : Except ReconciliationError Batch := do
  require (env.listing = false) .other
  let batch := (db.digisacContacts.rows.map (·.id)).foldl (discoverContact env) { db }
  require (env.discoveryCommit = false) .other
  return batch

/-! ## §5. The row of the execution. -/

inductive Mode
  | dryRun
  | apply
  deriving DecidableEq, Repr

/-- `ck_dac_reconciliation_status` -/
inductive ExecutionStatus
  | started
  | dryRun
  | succeeded
  | matchingFailed
  | failed
  deriving DecidableEq, Repr

/-- `acquisition` of a report. -/
structure Acquisition where
  companyCount : Nat := 0
  contactCount : Nat := 0
  departmentCount : Nat := 0
  relationshipCount : Nat := 0
  digisacContactCount : Nat := 0
  digisacDuplicateCount : Nat := 0
  deriving DecidableEq, Repr

/-- `_execution_report` -/
structure Report where
  mode : Mode
  status : ExecutionStatus
  acquisition : Acquisition
  delta : Option ReconciliationPlan
  identity : Option BatchCounts := none
  failureCategory : Option String := none
  deriving DecidableEq, Repr

/-- `_flat_counts` -/
structure FlatCounts where
  newCount : Nat := 0
  changedCount : Nat := 0
  unchangedCount : Nat := 0
  historicalRetainedCount : Nat := 0
  discoveredCount : Nat := 0
  candidateCount : Nat := 0
  ambiguousCount : Nat := 0
  unresolvedCount : Nat := 0
  confirmedPreservedCount : Nat := 0
  matchingRetryCount : Nat := 0
  deriving DecidableEq, Repr

/-- `_flat_counts` -/
def Report.flatCounts (report : Report) : FlatCounts :=
  let identity := report.identity.getD {}
  { newCount := report.delta.elim 0 (·.newCount)
    changedCount := report.delta.elim 0 (·.changedCount)
    unchangedCount := report.delta.elim 0 (·.unchangedCount)
    historicalRetainedCount := report.delta.elim 0 (·.historicalRetainedCount)
    discoveredCount := identity.processedCount
    candidateCount := identity.candidateCount
    ambiguousCount := identity.ambiguousCount
    unresolvedCount := identity.unresolvedCount
    confirmedPreservedCount := identity.confirmedPreservedCount
    matchingRetryCount := identity.failedCount }

/-- A row of `digisac_acessorias_reconciliation_executions`. -/
structure Execution where
  mode : Mode
  status : ExecutionStatus := .started
  counts : FlatCounts := {}
  failureCategory : Option String := none
  failureMessage : Option String := none
  report : Option Report := none
  deriving DecidableEq, Repr

/-- `ck_dac_reconciliation_failure_category_safe` -/
def categorySafe (category : String) : Bool :=
  category ≠ "" && category.toList.all Text.isReasonChar

/-- The tables, the row of the execution and the variables of the `try`. -/
structure Scope where
  db : IdentityTables
  stamps : Stamps
  execution : Option Execution := none
  snapshot : Option AcessoriasSnapshot := none
  digisac : Option DigisacContactBackfillSnapshot := none
  plan : Option ReconciliationPlan := none
  /-- The contacts whose discovery is committed. -/
  discovered : List Nat := []

/-- `ManualReconciliationResult` -/
structure ReconciliationResult where
  mode : Mode
  status : ExecutionStatus
  report : Report
  failureCategory : Option String := none
  deriving DecidableEq, Repr

namespace Scope

variable (s : Scope)

/-- `acquisition` -/
def acquisition : Acquisition where
  companyCount := s.snapshot.elim 0 (·.companies.length)
  contactCount := s.snapshot.elim 0 fun snapshot =>
    (snapshot.companies.map (·.contacts.length)).sum
  departmentCount := s.snapshot.elim 0 (·.departments.length)
  relationshipCount := s.snapshot.elim 0 fun snapshot =>
    (snapshot.companies.map (·.departmentIds.length)).sum
  digisacContactCount := s.digisac.elim 0 (·.contacts.length)
  digisacDuplicateCount := s.digisac.elim 0 (·.duplicateCount)

/-- `_execution_report` -/
def report (mode : Mode) (status : ExecutionStatus) (identity : Option BatchCounts)
    (failureCategory : Option String) : Report :=
  { mode, status, acquisition := s.acquisition, delta := s.plan, identity, failureCategory }

/-- `_write_execution`: the UPDATE may raise, and the constraint refuses an unsafe category. -/
def writeExecution (raises : Bool) (report : Report) (failureMessage : Option String) :
    Except ReconciliationError Scope := do
  require (raises = false ∧ report.failureCategory.all categorySafe = true) .other
  return { s with
    execution := s.execution.map fun row =>
      { row with
        status := report.status, counts := report.flatCounts, report := some report
        failureCategory := report.failureCategory
        failureMessage := failureMessage.map (Text.slice 240) } }

end Scope

/-! ## §6. The call. -/

/-- A report is written, and the call returns it. -/
def conclude (raises : Bool) (s : Scope) (report : Report) (failureMessage : Option String) :
    Scope × Except ReconciliationError ReconciliationResult :=
  match s.writeExecution raises report failureMessage with
  | .error e => (s, .error e)
  | .ok s =>
      (s, .ok { mode := report.mode, status := report.status, report
                failureCategory := report.failureCategory })

/-- The `try` of a dry run, once there are snapshots. -/
def dryRun (s : Scope) (snapshot : AcessoriasSnapshot) (digisac : DigisacContactBackfillSnapshot) :
    Scope × Except ReconciliationError ReconciliationResult :=
  match lockAndPlan env snapshot digisac s.db with
  | .error e => (s, .error e)
  | .ok plan =>
      let s := { s with plan := some plan }
      if env.commit then (s, .error .other)
      else conclude env.finish s (s.report .dryRun .dryRun none none) none

/-- The transaction of an apply, once there is a plan. -/
def publish (s : Scope) (snapshot : AcessoriasSnapshot) (digisac : DigisacContactBackfillSnapshot) :
    Except ReconciliationError Scope := do
  let db ← applyDeltas env snapshot digisac s.db
  let stamps := s.stamps.publish env.now env.publishedAt snapshot digisac s.db
  let s ← { s with db, stamps }.writeExecution env.write (s.report .apply .succeeded none none) none
  require (env.commit = false) .other
  return s

/-- What follows the publication: the discovery and the last report. -/
def matchAndReport (s : Scope) (digisac : DigisacContactBackfillSnapshot) :
    Scope × Except ReconciliationError ReconciliationResult :=
  let (s, identity) : Scope × BatchCounts :=
    match discoverAllIdentities env s.db with
    | .ok batch => ({ s with db := batch.db, discovered := batch.discovered }, batch.counts)
    | .error _ => (s, { failedCount := digisac.contacts.length })
  if identity.failedCount ≠ 0 then
    conclude env.finish s (s.report .apply .matchingFailed (some identity) (some "matching_failed"))
      (some "identity discovery requires a later manual retry")
  else conclude env.finish s (s.report .apply .succeeded (some identity) none) none

/-- The `try` of an apply, once there are snapshots. -/
def applySnapshots (s : Scope) (snapshot : AcessoriasSnapshot)
    (digisac : DigisacContactBackfillSnapshot) :
    Scope × Except ReconciliationError ReconciliationResult :=
  match lockAndPlan env snapshot digisac s.db with
  | .error e => (s, .error e)
  | .ok plan =>
      let s := { s with plan := some plan }
      match publish env s snapshot digisac with
      | .error e => (s, .error e)
      | .ok s => matchAndReport env s digisac

/-- The `try`. -/
def attempt (mode : Mode) (s : Scope) : Scope × Except ReconciliationError ReconciliationResult :=
  match acquireSnapshots env with
  | .error e => (s, .error e)
  | .ok (snapshot, digisac) =>
      let s := { s with snapshot := some snapshot, digisac := some digisac }
      match validateSnapshot snapshot with
      | .error e => (s, .error (.ofDirectory e))
      | .ok () =>
          match mode with
          | .dryRun => dryRun env s snapshot digisac
          | .apply => applySnapshots env s snapshot digisac

/-- `run_manual_reconciliation` -/
def runManualReconciliation (mode : Mode) (db : IdentityTables) (stamps : Stamps) :
    Scope × Except ReconciliationError ReconciliationResult :=
  if env.start then ({ db, stamps }, .error .other)
  else
    match attempt env mode { db, stamps, execution := some { mode } } with
    | (s, .ok result) => (s, .ok result)
    | (s, .error e) =>
        conclude env.failed s (s.report mode .failed none (some e.safe.1)) (some e.safe.2)

end Steps

end Cai.Reconciliation
