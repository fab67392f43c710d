/-
  Cai.Worker.Neighbours — two cycles of one ticket, finalized in either order.

  The window of a cycle ends `CLOCK_SKEW` after its close, and the window
  of the next one starts right after that close: for five seconds both
  admit a message.  Such a message goes to the cycle that saves first, and
  the other one warns of `message_owned_by_other_cycle`.

  Main results:
    * `finalization_order_free_iff` — when the order does not matter.
    * `finalization_order_matters` — a message two seconds after the close.
-/
import Cai.Finalization.Window
import Cai.Worker.Ownership

namespace Cai.Worker

open Cai.Lib
open Cai.Cycle Cai.Finalization

/-! ## §1. What a cycle saves. -/

/-- `_get_previous_cycle_sync` -/
def getPreviousCycle (cycles : List CycleRow) (conversationId : String) (sequenceNumber : Nat) :
    Option CycleRow :=
  (cycles.filter fun r =>
    r.conversationId == conversationId && decide (r.sequenceNumber < sequenceNumber)).argmax
      (·.sequenceNumber)

/-- `previous_closed` -/
def previousClosed (cycles : List CycleRow) (cycle : CycleRow) : Option Timestamp :=
  (getPreviousCycle cycles cycle.conversationId cycle.sequenceNumber).bind (·.ticketClosedAt)

/-- `normalized.messages` of a cycle that was closed at `closedAt`. -/
def normalizedMessages (cycles : List CycleRow) (history : DigisacHistory) (cycle : CycleRow)
    (closedAt : Timestamp) : List Message :=
  (normalizeHistory history.messages cycle.cycleStartedAt (previousClosed cycles cycle) closedAt
    history.startedAt).messages

/-- The messages of a cycle are saved; a cycle that is not closed raises before that. -/
def saveFrom (cycles : List CycleRow) (history : DigisacHistory) (cycle : CycleRow)
    (table : CycleMessages) : CycleMessages :=
  match cycle.ticketClosedAt with
  | none => table
  | some closedAt => table.save cycle.id (normalizedMessages cycles history cycle closedAt)

/-- The messages that a cycle owns. -/
def CycleMessages.owned (table : CycleMessages) (cycleId : Nat) : List String :=
  (table.rowsOf cycleId).map (·.messageId)

/-- The window of a cycle. -/
def windowOf (cycles : List CycleRow) (history : DigisacHistory) (cycle : CycleRow)
    (closedAt : Timestamp) : CycleBounds :=
  cycleBounds history.messages cycle.cycleStartedAt (previousClosed cycles cycle) closedAt
    history.startedAt

/-- A message of the history that a cycle keeps. -/
def Kept (history : DigisacHistory) (bounds : CycleBounds) (messageId : String) : Prop :=
  ∃ raw ∈ history.messages, raw.id = some messageId ∧ (∃ type, raw.type = .supported type)
    ∧ raw.classifiable = true ∧ ∃ timestamp, raw.timestamp = some timestamp
    ∧ bounds.admits timestamp = true

variable {cycles : List CycleRow} {history : DigisacHistory} {first second cycle : CycleRow}
  {firstClosed secondClosed closedAt : Timestamp} {messageId : String} {table : CycleMessages}

theorem mem_normalizedMessages_iff :
    messageId ∈ (normalizedMessages cycles history cycle closedAt).map (·.messageId)
      ↔ Kept history (windowOf cycles history cycle closedAt) messageId := by
  rw [List.mem_map]
  constructor
  · intro h
    obtain ⟨m, hm, hid⟩ := h
    obtain ⟨raw, hraw, hkept⟩ := mem_normalizeHistory_iff.mp hm
    obtain ⟨id, type, timestamp, hrid, htype, hclass, htime, hadmits, rfl⟩ :=
      normalizeMessage_message_iff.mp hkept
    refine ⟨raw, hraw, ?_, ⟨type, htype⟩, hclass, timestamp, htime, hadmits⟩
    rw [hrid]
    exact congrArg some hid
  · intro h
    obtain ⟨raw, hraw, hrid, ⟨type, htype⟩, hclass, timestamp, htime, hadmits⟩ := h
    refine ⟨keptMessage raw messageId type timestamp, mem_normalizeHistory_iff.mpr ⟨raw, hraw, ?_⟩, rfl⟩
    exact normalizeMessage_message_iff.mpr
      ⟨messageId, type, timestamp, hrid, htype, hclass, htime, hadmits, rfl⟩

/-- A history has one message of an id. -/
theorem raw_eq_of_id (history : DigisacHistory) {raw raw' : RawMessage}
    (hraw : raw ∈ history.messages) (hraw' : raw' ∈ history.messages)
    (hid : raw.id = some messageId) (hid' : raw'.id = some messageId) : raw = raw' := by
  have hnodup := history.ids_nodup
  generalize history.messages = raws at *
  induction raws with
  | nil => cases hraw
  | cons a raws ih =>
      -- an id that comes again would be twice among the ids
      have hhead {b : RawMessage} (hb : b ∈ raws) (ha : a.id = some messageId)
          (hbid : b.id = some messageId) : False := by
        rw [List.filterMap_cons_some ha] at hnodup
        exact (List.nodup_cons.mp hnodup).1 (List.mem_filterMap.mpr ⟨b, hb, hbid⟩)
      have htail : (raws.filterMap (·.id)).Nodup :=
        hnodup.sublist ((List.sublist_cons_self a raws).filterMap _)
      rcases List.mem_cons.mp hraw with heq | hmem
      · rcases List.mem_cons.mp hraw' with heq' | hmem'
        · rw [heq, heq']
        · exact (hhead hmem' (heq ▸ hid) hid').elim
      · rcases List.mem_cons.mp hraw' with heq' | hmem'
        · exact (hhead hmem (heq' ▸ hid') hid).elim
        · exact ih hmem hmem' htail

/-! ## §2. Two windows. -/

/-- Two closed cycles of one ticket, the second right after the first. -/
structure Neighbours (cycles : List CycleRow) (first second : CycleRow)
    (firstClosed secondClosed : Timestamp) : Prop where
  ids : first.id ≠ second.id
  previous : getPreviousCycle cycles second.conversationId second.sequenceNumber = some first
  closeOfFirst : first.ticketClosedAt = some firstClosed
  closeOfSecond : second.ticketClosedAt = some secondClosed
  successive : firstClosed ≤ secondClosed

/-- A message that can be classified, later than the first close by the clock
    skew at most, and not too early for either cycle. -/
def Contested (cycles : List CycleRow) (history : DigisacHistory) (first second : CycleRow)
    (firstClosed secondClosed : Timestamp) (messageId : String) : Prop :=
  ∃ raw ∈ history.messages, raw.id = some messageId ∧ (∃ type, raw.type = .supported type)
    ∧ raw.classifiable = true ∧ ∃ timestamp, raw.timestamp = some timestamp
    ∧ firstClosed < timestamp ∧ timestamp ≤ firstClosed + clockSkew
    ∧ afterPrevious (previousClosed cycles first) timestamp = true
    ∧ (windowOf cycles history first firstClosed).start - clockSkew ≤ timestamp
    ∧ (windowOf cycles history second secondClosed).start - clockSkew ≤ timestamp

/-- The overlap of the windows. -/
theorem admits_both_iff (hn : Neighbours cycles first second firstClosed secondClosed)
    (timestamp : Timestamp) :
    ((windowOf cycles history first firstClosed).admits timestamp = true
        ∧ (windowOf cycles history second secondClosed).admits timestamp = true)
      ↔ firstClosed < timestamp ∧ timestamp ≤ firstClosed + clockSkew
        ∧ afterPrevious (previousClosed cycles first) timestamp = true
        ∧ (windowOf cycles history first firstClosed).start - clockSkew ≤ timestamp
        ∧ (windowOf cycles history second secondClosed).start - clockSkew ≤ timestamp := by
  have hprevious : previousClosed cycles second = some firstClosed := by
    unfold previousClosed
    rw [hn.previous]
    exact hn.closeOfFirst
  have hafter : afterPrevious (previousClosed cycles second) timestamp = true
      ↔ firstClosed < timestamp := by
    rw [hprevious]
    simp [afterPrevious]
  rw [admits_iff, admits_iff]
  constructor
  · intro h
    obtain ⟨⟨hafter₁, hstart₁, hend₁⟩, hafter₂, hstart₂, -⟩ := h
    exact ⟨hafter.mp hafter₂, hend₁, hafter₁, hstart₁, hstart₂⟩
  · intro h
    obtain ⟨hlater, hend₁, hafter₁, hstart₁, hstart₂⟩ := h
    have hend₂ : timestamp ≤ secondClosed + clockSkew :=
      hend₁.trans (Int.add_le_add_right hn.successive clockSkew)
    exact ⟨⟨hafter₁, hstart₁, hend₁⟩, hafter.mpr hlater, hstart₂, hend₂⟩

/-- **The contested messages** are those that both cycles keep. -/
theorem contested_iff (hn : Neighbours cycles first second firstClosed secondClosed) :
    Contested cycles history first second firstClosed secondClosed messageId
      ↔ Kept history (windowOf cycles history first firstClosed) messageId
        ∧ Kept history (windowOf cycles history second secondClosed) messageId := by
  constructor
  · intro h
    obtain ⟨raw, hraw, hid, htype, hclass, timestamp, htime, hwindows⟩ := h
    obtain ⟨hfirst, hsecond⟩ := (admits_both_iff hn timestamp).mpr hwindows
    exact ⟨⟨raw, hraw, hid, htype, hclass, timestamp, htime, hfirst⟩,
      raw, hraw, hid, htype, hclass, timestamp, htime, hsecond⟩
  · intro h
    obtain ⟨⟨raw, hraw, hid, htype, hclass, timestamp, htime, hfirst⟩,
      raw', hraw', hid', -, -, timestamp', htime', hsecond⟩ := h
    have heq : raw' = raw := raw_eq_of_id history hraw' hraw hid' hid
    have htimes : timestamp' = timestamp := by
      rw [heq, htime] at htime'
      exact (Option.some.inj htime').symm
    rw [htimes] at hsecond
    exact ⟨raw, hraw, hid, htype, hclass, timestamp, htime, (admits_both_iff hn timestamp).mp
      ⟨hfirst, hsecond⟩⟩

/-! ## §3. Two orders. -/

theorem owner?_saveFrom (hclosed : cycle.ticketClosedAt = some closedAt) :
    (saveFrom cycles history cycle table).owner?
      = Ownership.retake cycle.id
          (· ∈ (normalizedMessages cycles history cycle closedAt).map (·.messageId)) table.owner? := by
  unfold saveFrom
  rw [hclosed]
  exact CycleMessages.owner?_save table cycle.id _

/-- Two tables in which every cycle owns the same messages. -/
theorem owned_eq_iff {table' : CycleMessages} :
    (∀ cycleId messageId, messageId ∈ table.owned cycleId ↔ messageId ∈ table'.owned cycleId)
      ↔ ∀ messageId, table.owner? messageId = table'.owner? messageId := by
  unfold CycleMessages.owned
  simp only [CycleMessages.mem_rowsOf_iff]
  constructor
  · intro h messageId
    exact Option.ext fun cycleId => h cycleId messageId
  · intro h cycleId messageId
    rw [h messageId]

/-- **When the order does not matter.**  Two neighbours own the same messages
    in both orders exactly when every contested message has an owner
    already, and no message that one of them alone keeps belongs to the other. -/
theorem finalization_order_free_iff (hn : Neighbours cycles first second firstClosed secondClosed)
    (history : DigisacHistory) (table : CycleMessages) :
    (∀ cycleId messageId,
        messageId ∈ (saveFrom cycles history second (saveFrom cycles history first table)).owned cycleId
          ↔ messageId ∈ (saveFrom cycles history first
              (saveFrom cycles history second table)).owned cycleId)
      ↔ ∀ messageId,
          (Contested cycles history first second firstClosed secondClosed messageId →
            table.owner? messageId ≠ none)
          ∧ (Kept history (windowOf cycles history first firstClosed) messageId →
            ¬Kept history (windowOf cycles history second secondClosed) messageId →
            table.owner? messageId ≠ some second.id)
          ∧ (Kept history (windowOf cycles history second secondClosed) messageId →
            ¬Kept history (windowOf cycles history first firstClosed) messageId →
            table.owner? messageId ≠ some first.id) := by
  rw [owned_eq_iff]
  simp only [owner?_saveFrom hn.closeOfFirst, owner?_saveFrom hn.closeOfSecond]
  rw [Ownership.retake_comm_iff hn.ids]
  refine forall_congr' fun messageId => ?_
  rw [contested_iff hn]
  constructor
  · intro hx
    refine ⟨fun hboth => ?_, fun hfirst hnot => ?_, fun hsecond hnot => ?_⟩
    · exact hx.both (mem_normalizedMessages_iff.mpr hboth.1) (mem_normalizedMessages_iff.mpr hboth.2)
    · exact hx.first (mem_normalizedMessages_iff.mpr hfirst) (mt mem_normalizedMessages_iff.mp hnot)
    · exact hx.second (mem_normalizedMessages_iff.mpr hsecond) (mt mem_normalizedMessages_iff.mp hnot)
  · intro h
    obtain ⟨hboth, hfirst, hsecond⟩ := h
    constructor
    · intro hm hm'
      exact hboth ⟨mem_normalizedMessages_iff.mp hm, mem_normalizedMessages_iff.mp hm'⟩
    · intro hm hnot
      exact hfirst (mem_normalizedMessages_iff.mp hm) (mt mem_normalizedMessages_iff.mpr hnot)
    · intro hm hnot
      exact hsecond (mem_normalizedMessages_iff.mp hm) (mt mem_normalizedMessages_iff.mpr hnot)

/-! ## §4. A message after the close. -/

section Examples

/-- A client's text. -/
def chatAt (id : String) (timestamp : Timestamp) : RawMessage :=
  { id := some id, type := .supported .chat, timestamp := some timestamp, text := some "oi" }

/-- A question, and thanks two seconds after the ticket was closed. -/
def lateHistory : DigisacHistory :=
  ⟨[chatAt "question" 5000000, chatAt "thanks" 12000000], none, 1, 2, 0, by decide⟩

/-- A question, and another one long after the ticket was closed. -/
def calmHistory : DigisacHistory :=
  ⟨[chatAt "question" 5000000, chatAt "other" 60000000], none, 1, 2, 0, by decide⟩

/-- A cycle whose ticket was closed at ten seconds. -/
def firstCycle : CycleRow :=
  { id := 1, publicId := 101, conversationId := "ticket", sequenceNumber := 1
    ticketClosedAt := some 10000000, openEventKey := none, closeEventKey := some "close-1"
    digisacContactExternalId := none, createdAt := 0, cycleStartStrategy := "close_event_fallback"
    status := .pending, updatedAt := 10000000 }

/-- The next cycle of the ticket. -/
def secondCycle : CycleRow :=
  { id := 2, publicId := 102, conversationId := "ticket", sequenceNumber := 2
    ticketClosedAt := some 90000000, openEventKey := none, closeEventKey := some "close-2"
    digisacContactExternalId := none, createdAt := 0, cycleStartStrategy := "close_event_fallback"
    status := .pending, updatedAt := 90000000 }

theorem neighbours_ticket :
    Neighbours [firstCycle, secondCycle] firstCycle secondCycle 10000000 90000000 :=
  ⟨by decide, by decide +kernel, rfl, rfl, by decide⟩

def noMessages : CycleMessages := ⟨[], List.nodup_nil⟩

/-- **The order matters.**  The thanks belong to the cycle that saves first. -/
theorem finalization_order_matters :
    ¬ ∀ cycles history first second firstClosed secondClosed table,
        Neighbours cycles first second firstClosed secondClosed → ∀ cycleId messageId,
          messageId ∈ (saveFrom cycles history second
              (saveFrom cycles history first table)).owned cycleId
            ↔ messageId ∈ (saveFrom cycles history first
                (saveFrom cycles history second table)).owned cycleId := by
  intro h
  have hthanks := h [firstCycle, secondCycle] lateHistory firstCycle secondCycle 10000000 90000000
    noMessages neighbours_ticket 1 "thanks"
  revert hthanks
  decide +kernel

/-- Questions far from the close are saved the same way in both orders. -/
theorem finalization_order_free_calm :
    "other" ∈ (saveFrom [firstCycle, secondCycle] calmHistory secondCycle
        (saveFrom [firstCycle, secondCycle] calmHistory firstCycle noMessages)).owned 2
      ↔ "other" ∈ (saveFrom [firstCycle, secondCycle] calmHistory firstCycle
          (saveFrom [firstCycle, secondCycle] calmHistory secondCycle noMessages)).owned 2 := by
  refine (finalization_order_free_iff neighbours_ticket calmHistory noMessages).mpr
    (fun messageId => ⟨?_, ?_, ?_⟩) 2 "other"
  · intro hcontested
    obtain ⟨raw, hraw, -, -, -, timestamp, htime, hlater, hend, -⟩ := hcontested
    have hraws : raw = chatAt "question" 5000000 ∨ raw = chatAt "other" 60000000 := by
      simpa [calmHistory] using hraw
    -- neither message lies in the five seconds after the close
    rcases hraws with hraw | hraw
    · rw [hraw] at htime
      rw [← Option.some.inj htime] at hlater
      exact absurd hlater (by decide)
    · rw [hraw] at htime
      rw [← Option.some.inj htime] at hend
      exact absurd hend (by decide)
  · intro _ _ howner
    cases howner
  · intro _ _ howner
    cases howner

end Examples

end Cai.Worker
