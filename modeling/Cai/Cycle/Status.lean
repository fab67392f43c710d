/-
  Cai.Cycle.Status — the statuses of a conversation-processing cycle.

  The three groups are the tuples at the head of
  `src/core/conversation_cycle_repository.py`; together with `open` they
  are every status the table accepts.
-/
import Mathlib.Data.List.Basic

namespace Cai.Cycle

/-- A point in time, in microseconds (the resolution of TIMESTAMPTZ). -/
abbrev Timestamp := Int

/-- The statuses of `conversation_processing_cycles.status`. -/
inductive Status
  | «open»
  | pending
  | recoveringMessages
  | waitingMedia
  | buildingContext
  | summarizing
  | classifying
  | retryableFailure
  | mediaBlocked
  | completed
  | completedWithWarnings
  | failed
  deriving DecidableEq, Repr

namespace Status

/-- The text of a status. -/
def name : Status → String
  | .open => "open"
  | .pending => "pending"
  | .recoveringMessages => "recovering_messages"
  | .waitingMedia => "waiting_media"
  | .buildingContext => "building_context"
  | .summarizing => "summarizing"
  | .classifying => "classifying"
  | .retryableFailure => "retryable_failure"
  | .mediaBlocked => "media_blocked"
  | .completed => "completed"
  | .completedWithWarnings => "completed_with_warnings"
  | .failed => "failed"

/-- `RECOVERABLE_CYCLE_STATUSES` -/
def recoverable : List Status :=
  [.pending, .recoveringMessages, .waitingMedia, .buildingContext, .summarizing,
   .classifying, .retryableFailure]

/-- `TERMINAL_CYCLE_STATUSES` -/
def terminal : List Status := [.completed, .completedWithWarnings, .failed]

/-- `BLOCKED_CYCLE_STATUSES` -/
def blocked : List Status := [.mediaBlocked]

/-- A worker can only lease what is not finished. -/
theorem not_terminal_of_recoverable {s : Status} (h : s ∈ recoverable) : s ∉ terminal := by
  revert h
  cases s <;> decide

theorem ne_open_of_recoverable {s : Status} (h : s ∈ recoverable) : s ≠ .open := by
  rintro rfl
  revert h
  decide

end Status

end Cai.Cycle
