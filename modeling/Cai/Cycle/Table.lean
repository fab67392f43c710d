/-
  Cai.Cycle.Table — opening and closing tickets.

  `_create_open_cycle_sync` and `_close_cycle_sync` of
  `src/core/conversation_cycle_repository.py` on the whole table, with the
  constraints of the table (`alembic/versions/0013_conversation_cycles.py`),
  and the machine that interleaves them with the writes of the workers.
  A transaction that violates a constraint raises and changes nothing.
-/
import Cai.Lib.Table
import Cai.Lib.Transition
import Cai.Cycle.Row

namespace Cai.Cycle

open Cai.Lib

/-! ## §1. Constraints. -/

/-- What a ticket call raises. -/
inductive CycleError
  /-- `contact_external_id must be a safe stable ID` -/
  | contactInvalid
  /-- `_parse_timestamp` raises. -/
  | timestampInvalid
  /-- A constraint of the table. -/
  | constraint
  /-- `PostgreSQL did not return the conversation cycle` -/
  | cycleMissing
  deriving DecidableEq, Repr

/-- `btrim(value) = ''` -/
def pgBlank (value : String) : Bool := value.toList.all (· == ' ')

/-- The conversation of a cycle whose ticket is open: the key of the partial
    index `ux_conversation_cycles_one_open`. -/
def CycleRow.openConversation (r : CycleRow) : Option String :=
  if r.ticketClosedAt.isNone then some r.conversationId else none

/-- The constraints an INSERT is checked against. -/
def insertable (rows : List CycleRow) (r : CycleRow) : Bool :=
  rows.all (fun a => a.id != r.id && a.publicId != r.publicId
    && !(a.conversationId == r.conversationId && a.sequenceNumber == r.sequenceNumber)
    && !(r.openEventKey.isSome && a.openEventKey == r.openEventKey)
    && !(r.closeEventKey.isSome && a.closeEventKey == r.closeEventKey)
    && !(r.openConversation.isSome && a.openConversation == r.openConversation))
  && 0 < r.sequenceNumber && !pgBlank r.cycleStartStrategy
  && r.openEventKey.all (!pgBlank ·) && r.closeEventKey.all (!pgBlank ·)

/-- `SELECT COALESCE(MAX(sequence_number), 0) + 1 … WHERE conversation_id = %s` -/
def nextSequence (rows : List CycleRow) (conversationId : String) : Nat :=
  ((rows.filter (·.conversationId == conversationId)).map (·.sequenceNumber)).foldr max 0 + 1

/-- `_normalize_cycle_contact_external_id` -/
def normalizeContact (value : Option String) : Except CycleError (Option String) :=
  match value with
  | none => .ok none
  | some value =>
      let normalized := Text.strip value
      if normalized = "" then .ok none
      else if 240 < normalized.length
          || normalized.toList.any (fun c => c == '\r' || c == '\n' || c == '\x00') then
        .error .contactInvalid
      else .ok (some normalized)

/-! ## §2. The two calls. -/

/-- The keys a new row is given by the database. -/
structure Fresh where
  id : Nat
  publicId : Nat
  deriving DecidableEq, Repr

/-- The arguments of `create_open_cycle`; `startedAt` is `none` where the text
    is no timestamp. -/
structure CreateArgs where
  conversationId : String
  startedAt : Option Timestamp
  openEventKey : String
  startStrategy : String
  contactExternalId : Option String
  deriving DecidableEq, Repr

/-- The arguments of `close_cycle`. -/
structure CloseArgs where
  conversationId : String
  protocol : String
  closedAt : Option Timestamp
  closeEventKey : String
  fallbackStartStrategy : String := "pending_api_inference"
  contactExternalId : Option String
  deriving DecidableEq, Repr

/-- What a call commits and returns. -/
structure CycleResult where
  rows : List CycleRow
  cycle : CycleRow
  created : Bool
  deriving DecidableEq, Repr

/-- `_cycle_row` at the end of a call. -/
def returning (rows : List CycleRow) (publicId : Nat) (created : Bool) :
    Except CycleError CycleResult :=
  match Table.select (·.publicId == publicId) rows with
  | some cycle => .ok ⟨rows, cycle, created⟩
  | none => .error .cycleMissing

/-- The row of a new open cycle. -/
def openRow (now : Timestamp) (fresh : Fresh) (args : CreateArgs) (startedAt : Timestamp)
    (contact : Option String) (rows : List CycleRow) : CycleRow :=
  { id := fresh.id, publicId := fresh.publicId, conversationId := args.conversationId
    sequenceNumber := nextSequence rows args.conversationId
    ticketClosedAt := none, openEventKey := some args.openEventKey, closeEventKey := none
    digisacContactExternalId := contact, createdAt := now
    cycleStartedAt := some startedAt, cycleStartStrategy := args.startStrategy
    status := .open, updatedAt := now }

/-- Joining an open cycle only fills in a missing contact. -/
def joinRow (now : Timestamp) (contact : Option String) (r : CycleRow) : CycleRow :=
  { r with digisacContactExternalId := r.digisacContactExternalId.or contact, updatedAt := now }

/-- `_create_open_cycle_sync` -/
def createOpenCycle (now : Timestamp) (fresh : Fresh) (args : CreateArgs)
    (rows : List CycleRow) : Except CycleError CycleResult :=
  match normalizeContact args.contactExternalId with
  | .error e => .error e
  | .ok contact =>
  match Table.select (·.openEventKey == some args.openEventKey) rows with
  | some duplicate => returning rows duplicate.publicId false
  | none =>
  match Table.select (·.openConversation == some args.conversationId) rows with
  | some existing =>
      match contact with
      | none => returning rows existing.publicId false
      | some _ =>
          returning (Table.update (·.publicId == existing.publicId) (joinRow now contact) rows)
            existing.publicId false
  | none =>
  match args.startedAt with
  | none => .error .timestampInvalid
  | some startedAt =>
      let row := openRow now fresh args startedAt contact rows
      if insertable rows row then returning (Table.insert rows row) fresh.publicId true
      else .error .constraint

/-- The row of a ticket whose opening was never seen. -/
def closedRow (now : Timestamp) (delaySeconds : Nat) (fresh : Fresh) (args : CloseArgs)
    (closedAt : Timestamp) (contact : Option String) (rows : List CycleRow) : CycleRow :=
  { id := fresh.id, publicId := fresh.publicId, conversationId := args.conversationId
    sequenceNumber := nextSequence rows args.conversationId
    ticketClosedAt := some closedAt, openEventKey := none
    closeEventKey := some args.closeEventKey
    digisacContactExternalId := contact, createdAt := now
    protocol := some args.protocol, cycleStartStrategy := args.fallbackStartStrategy
    status := .pending, nextAttemptAt := some (now + delaySeconds * 1000000), updatedAt := now }

/-- The UPDATE that closes an open cycle. -/
def closeRow (now : Timestamp) (delaySeconds : Nat) (args : CloseArgs) (closedAt : Timestamp)
    (contact : Option String) (r : CycleRow) : CycleRow :=
  { r with
    protocol := some args.protocol, ticketClosedAt := some closedAt
    closeEventKey := some args.closeEventKey, status := .pending
    digisacContactExternalId := r.digisacContactExternalId.or contact
    nextAttemptAt := some (now + delaySeconds * 1000000), updatedAt := now
    errorPhase := none, errorMessage := none }

/-- `_close_cycle_sync`; `delaySeconds` is
    `settings.digisac_history_initial_delay_seconds`. -/
def closeCycle (now : Timestamp) (delaySeconds : Nat) (fresh : Fresh) (args : CloseArgs)
    (rows : List CycleRow) : Except CycleError CycleResult :=
  match normalizeContact args.contactExternalId with
  | .error e => .error e
  | .ok contact =>
  match args.closedAt with
  | none => .error .timestampInvalid
  | some closedAt =>
  match Table.select (·.closeEventKey == some args.closeEventKey) rows with
  | some duplicate => returning rows duplicate.publicId false
  | none =>
  match Table.select (·.openConversation == some args.conversationId) rows with
  | some opened =>
      if pgBlank args.closeEventKey then .error .constraint
      else
        returning (Table.update (·.id == opened.id)
          (closeRow now delaySeconds args closedAt contact) rows) opened.publicId true
  | none =>
      let row := closedRow now delaySeconds fresh args closedAt contact rows
      if insertable rows row then returning (Table.insert rows row) fresh.publicId true
      else .error .constraint

/-- A delivered ticket event. -/
inductive TicketCall
  | create (args : CreateArgs)
  | close (args : CloseArgs)
  deriving DecidableEq, Repr

/-- One delivery of it. -/
def TicketCall.perform (now : Timestamp) (delaySeconds : Nat) (fresh : Fresh)
    (rows : List CycleRow) : TicketCall → Except CycleError CycleResult
  | .create args => createOpenCycle now fresh args rows
  | .close args => closeCycle now delaySeconds fresh args rows

/-! ## §3. The machine. -/

/-- The table, and the cycles a worker has ever been given. -/
structure CycleState where
  cycles : List CycleRow
  claimed : List Nat
  deriving DecidableEq

/-- The statuses that the finalization worker passes to `transition_cycle`. -/
def workerStatuses : List Status :=
  [.recoveringMessages, .buildingContext, .mediaBlocked, .waitingMedia, .summarizing,
   .classifying, .completed, .completedWithWarnings, .retryableFailure, .failed]

inductive CycleAction
  /-- A ticket event is delivered. -/
  | ticket (now : Timestamp) (delaySeconds : Nat) (fresh : Fresh) (call : TicketCall)
  /-- A worker leases a due cycle. -/
  | claim (now : Timestamp) (publicId : Nat) (owner : String) (leaseSeconds : Nat)
  /-- A worker, late or not, writes a cycle it was given. -/
  | work (now : Timestamp) (publicId : Nat) (tr : Transition)
  /-- The reconciler wakes a blocked cycle. -/
  | wake (now : Timestamp) (publicId : Nat)
  deriving DecidableEq, Repr

/-- A guarded UPDATE of the row with this `public_id`. -/
def writeRow (rows : List CycleRow) (publicId : Nat) (write : CycleRow → Option CycleRow) :
    List CycleRow :=
  Table.update (·.publicId == publicId) (fun r => (write r).getD r) rows

def cycleStep (s : CycleState) : CycleAction → Option CycleState
  | .ticket now delaySeconds fresh call =>
      match call.perform now delaySeconds fresh s.cycles with
      | .ok result => some { s with cycles := result.rows }
      | .error _ => some s
  | .claim now publicId owner leaseSeconds =>
      if s.cycles.any (fun r => r.publicId == publicId && r.due now) then
        some { cycles := writeRow s.cycles publicId (claimCycle now owner leaseSeconds)
               claimed := publicId :: s.claimed }
      else none
  | .work now publicId tr =>
      if publicId ∈ s.claimed ∧ tr.status ∈ workerStatuses then
        some { s with cycles := writeRow s.cycles publicId (transitionCycle now tr) }
      else none
  | .wake now publicId => some { s with cycles := writeRow s.cycles publicId (wakeCycle now) }

/-- **The cycle table under tickets and workers.** -/
def cycleMachine : Machine CycleState CycleAction where
  init s := s = ⟨[], []⟩
  step := cycleStep

end Cai.Cycle
