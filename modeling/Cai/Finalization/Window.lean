/-
  Cai.Finalization.Window — which messages of a history a cycle keeps.

  `normalize_history` tests a raw message in two ways: whether it can be
  classified at all, which is the same for every cycle, and whether its
  time lies in the window of the cycle.  The window ends `CLOCK_SKEW`
  after the close, and it starts right after the close of the previous
  cycle: there the clock skew is not allowed for.

  Main result: `mem_normalizeHistory_iff`.
-/
import Cai.Finalization.History

namespace Cai.Finalization

open Cai.Lib
open Cai.Cycle (Timestamp MessageType Message)

/-! ## §1. The two tests. -/

/-- The tests on a message of a supported type that do not depend on the cycle. -/
def RawMessage.classifiable (raw : RawMessage) : Bool :=
  raw.visible && !raw.deleted && !isBotMessage raw.isFromBot raw.origin

/-- The window of a cycle. -/
def CycleBounds.admits (bounds : CycleBounds) (timestamp : Timestamp) : Bool :=
  afterPrevious bounds.previousClosedAt timestamp
    && decide (bounds.start - clockSkew ≤ timestamp)
    && decide (timestamp ≤ bounds.closedAt + clockSkew)

variable {bounds : CycleBounds} {raw : RawMessage} {m : Message} {timestamp : Timestamp}

theorem admits_iff : bounds.admits timestamp = true ↔
    afterPrevious bounds.previousClosedAt timestamp = true
      ∧ bounds.start - clockSkew ≤ timestamp ∧ timestamp ≤ bounds.closedAt + clockSkew := by
  unfold CycleBounds.admits
  simp [and_assoc]

theorem classifiable_iff : raw.classifiable = true ↔
    raw.visible = true ∧ raw.deleted = false ∧ isBotMessage raw.isFromBot raw.origin = false := by
  unfold RawMessage.classifiable
  simp [and_assoc]

/-! ## §2. One message. -/

/-- A message of a supported type is kept when it passes both tests. -/
theorem normalizeSupported_kept_iff {messageId : String} {type : MessageType} :
    normalizeSupported bounds raw messageId type = .kept m
      ↔ raw.classifiable = true ∧ ∃ timestamp, raw.timestamp = some timestamp
          ∧ bounds.admits timestamp = true ∧ m = keptMessage raw messageId type timestamp := by
  rw [classifiable_iff]
  unfold normalizeSupported
  by_cases hvisible : raw.visible = true
  · by_cases hdeleted : raw.deleted = true
    · simp [hvisible, hdeleted]
    · by_cases hbot : isBotMessage raw.isFromBot raw.origin = true
      · simp [hvisible, hdeleted, hbot]
      · cases htime : raw.timestamp with
        | none => simp [hvisible, hdeleted, hbot]
        | some t =>
            -- what is left is the window
            simp only [hvisible, hdeleted, hbot, Option.some.injEq, exists_eq_left', admits_iff]
            by_cases hprevious : afterPrevious bounds.previousClosedAt t = true
            · by_cases houtside : t < bounds.start - clockSkew ∨ bounds.closedAt + clockSkew < t
              · have hnot : ¬(bounds.start - clockSkew ≤ t ∧ t ≤ bounds.closedAt + clockSkew) := by
                  rw [not_and_or, not_le, not_le]
                  exact houtside
                simp only [hprevious, houtside, hnot, and_self, and_false, false_and,
                  Bool.not_true, Bool.false_eq_true, if_false, Bool.or_eq_true, decide_eq_true_eq,
                  if_true, reduceCtorEq]
              · have hin : bounds.start - clockSkew ≤ t ∧ t ≤ bounds.closedAt + clockSkew := by
                  rw [not_or, not_lt, not_lt] at houtside
                  exact houtside
                simp only [hprevious, houtside, hin, and_self, true_and, Bool.not_true,
                  Bool.false_eq_true, if_false, Bool.or_eq_true, decide_eq_true_eq,
                  Outcome.kept.injEq]
                exact eq_comm
            · simp [hprevious]
  · simp [hvisible]

theorem message_eq_some_iff {outcome : Outcome} : outcome.message = some m ↔ outcome = .kept m := by
  cases outcome with
  | kept m' =>
      constructor
      · intro h
        rw [Option.some.inj h]
      · intro h
        injection h with h
        rw [h]
        rfl
  | excluded reason warning =>
      constructor
      · intro h
        cases h
      · intro h
        cases h

/-- **When a message is kept.** -/
theorem normalizeMessage_message_iff :
    (normalizeMessage bounds raw).message = some m
      ↔ ∃ messageId type timestamp, raw.id = some messageId ∧ raw.type = .supported type
          ∧ raw.classifiable = true ∧ raw.timestamp = some timestamp
          ∧ bounds.admits timestamp = true ∧ m = keptMessage raw messageId type timestamp := by
  rw [message_eq_some_iff]
  unfold normalizeMessage
  cases hid : raw.id with
  | none => simp
  | some messageId =>
      cases htype : raw.type with
      | ticket => simp
      | other text => simp
      | supported type =>
          simp only [normalizeSupported_kept_iff, Option.some.injEq, RawType.supported.injEq]
          constructor
          · intro h
            obtain ⟨hclass, timestamp, htime, hadmits, hm⟩ := h
            exact ⟨messageId, type, timestamp, rfl, rfl, hclass, htime, hadmits, hm⟩
          · intro h
            obtain ⟨_, _, timestamp, rfl, rfl, hclass, htime, hadmits, hm⟩ := h
            exact ⟨hclass, timestamp, htime, hadmits, hm⟩

/-! ## §3. The history. -/

variable {raws : List RawMessage} {cycleStartedAt previousClosedAt : Option Timestamp}
  {ticketClosedAt : Timestamp} {ticketStartedAt : Option Timestamp}

/-- The bounds of a cycle, with the start that its history implies. -/
def cycleBounds (raws : List RawMessage) (cycleStartedAt previousClosedAt : Option Timestamp)
    (ticketClosedAt : Timestamp) (ticketStartedAt : Option Timestamp) : CycleBounds :=
  ⟨(inferCycleStart raws cycleStartedAt ticketStartedAt previousClosedAt ticketClosedAt).1,
    previousClosedAt, ticketClosedAt⟩

/-- **The messages of a normalized history.** -/
theorem mem_normalizeHistory_iff :
    m ∈ (normalizeHistory raws cycleStartedAt previousClosedAt ticketClosedAt
        ticketStartedAt).messages
      ↔ ∃ raw ∈ raws, (normalizeMessage (cycleBounds raws cycleStartedAt previousClosedAt
          ticketClosedAt ticketStartedAt) raw).message = some m := by
  show m ∈ List.insertionSort messageLE _ ↔ _
  rw [(List.perm_insertionSort messageLE _).mem_iff, List.filterMap_map, List.mem_filterMap]
  rfl

/-- A kept message that is an image has the type of one. -/
theorem isImageMessage_effective (type : MessageType) (file : Cai.Cycle.FileMetadata) :
    isImageMessage (effectiveMessageType type file) file
      = (effectiveMessageType type file == .image) := by
  unfold effectiveMessageType
  by_cases himage : isImageMessage type file = true
  · rw [if_pos himage]
    rfl
  · rw [if_neg himage]
    have hne : type ≠ .image := by
      intro heq
      rw [heq] at himage
      exact himage rfl
    have hnot : isImageMessage type file = false := by simpa using himage
    rw [hnot]
    simpa using hne

theorem isImageMessage_normalized
    (h : m ∈ (normalizeHistory raws cycleStartedAt previousClosedAt ticketClosedAt
      ticketStartedAt).messages) : isImageMessage m.type m.file = (m.type == .image) := by
  obtain ⟨raw, -, hkept⟩ := mem_normalizeHistory_iff.mp h
  obtain ⟨messageId, type, timestamp, -, -, -, -, -, rfl⟩ := normalizeMessage_message_iff.mp hkept
  exact isImageMessage_effective type (safeFileMetadata raw.file)

end Cai.Finalization
