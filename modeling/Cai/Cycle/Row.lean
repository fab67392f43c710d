/-
  Cai.Cycle.Row — rows of `conversation_processing_cycles`.

  The row, the snapshot it stores, and the statements that write one row:
  `_transition_cycle_sync`, `_claim_next_cycle_sync` and the wake-up of a
  blocked cycle.  The columns that no transition can name are grouped in
  `CycleKey`, so that "a worker cannot touch them" is one equation.
-/
import Cai.Cycle.Status
import Cai.Lib.Text

namespace Cai.Cycle

open Cai.Lib

/-! ## §1. Messages and snapshots. -/

/-- `SUPPORTED_HISTORY_TYPES` -/
inductive MessageType
  | chat
  | document
  | ptt
  | audio
  | voice
  | image
  deriving DecidableEq, Repr

/-- The text of a type. -/
def MessageType.name : MessageType → String
  | .chat => "chat"
  | .document => "document"
  | .ptt => "ptt"
  | .audio => "audio"
  | .voice => "voice"
  | .image => "image"

/-- `AUDIO_TYPES` -/
def MessageType.isAudio : MessageType → Bool
  | .ptt | .audio | .voice => true
  | .chat | .document | .image => false

/-- `safe_file_metadata` -/
structure FileMetadata where
  id : Option String := none
  name : Option String := none
  publicFilename : Option String := none
  extension : Option String := none
  mimetype : Option String := none
  deriving DecidableEq, Repr

/-- `message["sender_type"]` -/
inductive SenderType
  | agent
  | client
  deriving DecidableEq, Repr

/-- `message["media_status"]` -/
inductive MediaStatus
  | missing
  | pending
  | processing
  | completed
  | failed
  deriving DecidableEq, Repr

/-- A normalized message, as the snapshot stores it. -/
structure Message where
  messageId : String
  timestamp : Timestamp
  senderType : SenderType
  senderId : Option String
  senderName : Option String
  type : MessageType
  content : String
  quotedMessageId : Option String
  mediaStatus : Option MediaStatus
  file : FileMetadata
  deriving DecidableEq, Repr

/-- A warning of the snapshot: its code, and the message it is about. -/
structure Warning where
  code : String
  messageId : Option String := none
  type : Option String := none
  deriving DecidableEq, Repr

/-- `snapshot["history_recovery"]` -/
structure HistoryRecovery where
  attemptCount : Nat
  pageCount : Nat
  total : Nat
  duplicateCount : Nat
  complete : Bool
  deriving DecidableEq, Repr

/-- One entry of `_media_wait_fingerprint`; `status` is `none` for `missing`. -/
structure MediaFingerprint where
  messageId : String
  status : MediaStatus
  attemptCount : Nat
  deriving DecidableEq, Repr

/-- `snapshot["media_wait"]` -/
structure MediaWait where
  blocked : Bool
  fingerprint : List MediaFingerprint
  nextCheckAt : Option Timestamp
  updatedAt : Timestamp
  deriving DecidableEq, Repr

/-- `snapshot_json` -/
structure Snapshot where
  cycleId : Nat
  ticketId : String
  protocol : Option String
  cycleStartedAt : Timestamp
  ticketClosedAt : Timestamp
  cycleStartStrategy : String
  departments : List String
  agents : List String
  messages : List Message
  warnings : List Warning
  filterSummary : List (String × Nat)
  historyRecovery : Option HistoryRecovery
  mediaWait : Option MediaWait := none
  deriving DecidableEq, Repr

/-- One entry of `context_reduction_json`. -/
structure Reduction where
  chunk : Nat
  messageIds : List String
  summary : String
  deriving DecidableEq, Repr

/-! ## §2. The row. -/

/-- The columns that only the opening and closing of a ticket write. -/
structure CycleKey where
  id : Nat
  /-- A UUIDv7, fresh for every INSERT. -/
  publicId : Nat
  conversationId : String
  sequenceNumber : Nat
  ticketClosedAt : Option Timestamp
  openEventKey : Option String
  closeEventKey : Option String
  digisacContactExternalId : Option String
  createdAt : Timestamp
  deriving DecidableEq, Repr

/-- A row of `conversation_processing_cycles`. -/
structure CycleRow extends CycleKey where
  protocol : Option String := none
  cycleStartedAt : Option Timestamp := none
  cycleStartStrategy : String
  status : Status
  attemptCount : Nat := 0
  transientRetryCount : Nat := 0
  errorPhase : Option String := none
  errorMessage : Option String := none
  warningCount : Nat := 0
  snapshotJson : Option Snapshot := none
  renderedContext : Option String := none
  modelContext : Option String := none
  contextReductionApplied : Bool := false
  contextReductionJson : List Reduction := []
  historyRecoveryAttempt : Nat := 0
  historyPageCount : Nat := 0
  processingTimeMs : Option Nat := none
  classificationId : Option Nat := none
  nextAttemptAt : Option Timestamp := none
  enqueuedAt : Option Timestamp := none
  leaseOwner : Option String := none
  leaseExpiresAt : Option Timestamp := none
  updatedAt : Timestamp
  completedAt : Option Timestamp := none
  deriving DecidableEq, Repr

/-! ## §3. Transitions. -/

/-- The `fields` argument of `_transition_cycle_sync`: one optional value for
    each permitted column (`some none` writes NULL). -/
structure CycleFields where
  protocol : Option (Option String) := none
  cycleStartedAt : Option (Option Timestamp) := none
  cycleStartStrategy : Option String := none
  attemptCount : Option Nat := none
  transientRetryCount : Option Nat := none
  errorPhase : Option (Option String) := none
  errorMessage : Option (Option String) := none
  warningCount : Option Nat := none
  snapshotJson : Option (Option Snapshot) := none
  renderedContext : Option (Option String) := none
  modelContext : Option (Option String) := none
  contextReductionApplied : Option Bool := none
  contextReductionJson : Option (List Reduction) := none
  historyRecoveryAttempt : Option Nat := none
  historyPageCount : Option Nat := none
  processingTimeMs : Option (Option Nat) := none
  classificationId : Option (Option Nat) := none
  nextAttemptAt : Option (Option Timestamp) := none
  enqueuedAt : Option (Option Timestamp) := none
  leaseOwner : Option (Option String) := none
  leaseExpiresAt : Option (Option Timestamp) := none
  completedAt : Option (Option Timestamp) := none
  deriving DecidableEq, Repr

/-- The SET clause of `_transition_cycle_sync`. -/
def CycleFields.apply (f : CycleFields) (now : Timestamp) (status : Status) (r : CycleRow) :
    CycleRow :=
  { r with
    status, updatedAt := now
    protocol := f.protocol.getD r.protocol
    cycleStartedAt := f.cycleStartedAt.getD r.cycleStartedAt
    cycleStartStrategy := f.cycleStartStrategy.getD r.cycleStartStrategy
    attemptCount := f.attemptCount.getD r.attemptCount
    transientRetryCount := f.transientRetryCount.getD r.transientRetryCount
    errorPhase := f.errorPhase.getD r.errorPhase
    errorMessage := f.errorMessage.getD r.errorMessage
    warningCount := f.warningCount.getD r.warningCount
    snapshotJson := f.snapshotJson.getD r.snapshotJson
    renderedContext := f.renderedContext.getD r.renderedContext
    modelContext := f.modelContext.getD r.modelContext
    contextReductionApplied := f.contextReductionApplied.getD r.contextReductionApplied
    contextReductionJson := f.contextReductionJson.getD r.contextReductionJson
    historyRecoveryAttempt := f.historyRecoveryAttempt.getD r.historyRecoveryAttempt
    historyPageCount := f.historyPageCount.getD r.historyPageCount
    processingTimeMs := f.processingTimeMs.getD r.processingTimeMs
    classificationId := f.classificationId.getD r.classificationId
    nextAttemptAt := f.nextAttemptAt.getD r.nextAttemptAt
    enqueuedAt := f.enqueuedAt.getD r.enqueuedAt
    leaseOwner := f.leaseOwner.getD r.leaseOwner
    leaseExpiresAt := f.leaseExpiresAt.getD r.leaseExpiresAt
    completedAt := f.completedAt.getD r.completedAt }

/-- A call of `transition_cycle`; an empty `expectedStatuses` adds no clause. -/
structure Transition where
  status : Status
  expectedStatuses : List Status := []
  fields : CycleFields := {}
  deriving DecidableEq, Repr

/-- The status clause of the UPDATE. -/
def Transition.applies (tr : Transition) (r : CycleRow) : Bool :=
  tr.expectedStatuses.isEmpty || decide (r.status ∈ tr.expectedStatuses)

/-- `_transition_cycle_sync`; `none` where the UPDATE matches no row. -/
def transitionCycle (now : Timestamp) (tr : Transition) (r : CycleRow) : Option CycleRow :=
  if tr.applies r then some (tr.fields.apply now tr.status r) else none

/-- The cycles `_claim_next_cycle_sync` may pick. -/
def CycleRow.due (r : CycleRow) (now : Timestamp) : Bool :=
  decide (r.status ∈ Status.recoverable) && r.nextAttemptAt.all (· ≤ now)
    && r.leaseExpiresAt.all (· ≤ now)

/-- `_claim_next_cycle_sync`, when it picks this row. -/
def claimCycle (now : Timestamp) (owner : String) (leaseSeconds : Nat) (r : CycleRow) :
    Option CycleRow :=
  if r.due now then
    some { r with
      leaseOwner := some owner, leaseExpiresAt := some (now + leaseSeconds * 1000000)
      enqueuedAt := none, updatedAt := now }
  else none

/-- `_wake_unblocked_media_cycles_sync`, when it picks this row. -/
def wakeCycle (now : Timestamp) (r : CycleRow) : Option CycleRow :=
  if r.status = .mediaBlocked then
    some { r with
      status := .waitingMedia, nextAttemptAt := some now, enqueuedAt := none
      errorPhase := none, errorMessage := none, updatedAt := now }
  else none

/-! ## §4. What they leave alone. -/

variable {now : Timestamp} {tr : Transition} {owner : String} {leaseSeconds : Nat}
  {r r' : CycleRow}

@[simp] theorem apply_status (f : CycleFields) (now : Timestamp) (status : Status) (r : CycleRow) :
    (f.apply now status r).status = status := rfl

@[simp] theorem apply_key (f : CycleFields) (now : Timestamp) (status : Status) (r : CycleRow) :
    (f.apply now status r).toCycleKey = r.toCycleKey := rfl

theorem transitionCycle_spec (h : transitionCycle now tr r = some r') :
    tr.applies r = true ∧ r' = tr.fields.apply now tr.status r := by
  simp only [transitionCycle, Option.ite_none_right_eq_some, Option.some.injEq] at h
  exact ⟨h.1, h.2.symm⟩

/-- A claim changes the lease and nothing else that matters to a worker. -/
theorem claimCycle_spec (h : claimCycle now owner leaseSeconds r = some r') :
    r.due now = true ∧ r.status ∈ Status.recoverable ∧ r'.status = r.status
      ∧ r'.toCycleKey = r.toCycleKey ∧ r'.leaseOwner = some owner := by
  simp only [claimCycle, Option.ite_none_right_eq_some, Option.some.injEq] at h
  obtain ⟨hdue, rfl⟩ := h
  refine ⟨hdue, ?_, rfl, rfl, rfl⟩
  simp only [CycleRow.due, Bool.and_eq_true, decide_eq_true_eq] at hdue
  exact hdue.1.1

theorem wakeCycle_spec (h : wakeCycle now r = some r') :
    r.status = .mediaBlocked ∧ r'.status = .waitingMedia ∧ r'.toCycleKey = r.toCycleKey := by
  simp only [wakeCycle, Option.ite_none_right_eq_some, Option.some.injEq] at h
  obtain ⟨hst, rfl⟩ := h
  exact ⟨hst, rfl, rfl⟩

/-- A claim and a wake leave the stored snapshot alone. -/
theorem claimCycle_snapshot (h : claimCycle now owner leaseSeconds r = some r') :
    r'.snapshotJson = r.snapshotJson := by
  simp only [claimCycle, Option.ite_none_right_eq_some, Option.some.injEq] at h
  rw [← h.2]

theorem wakeCycle_snapshot (h : wakeCycle now r = some r') : r'.snapshotJson = r.snapshotJson := by
  simp only [wakeCycle, Option.ite_none_right_eq_some, Option.some.injEq] at h
  rw [← h.2]

end Cai.Cycle
