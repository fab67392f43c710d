/-
  Cai.Finalization.History — from a ticket history to the messages of a cycle.

  `infer_cycle_start` and `normalize_history` of `src/core/finalization.py`.
  A raw message is the record that the `isinstance` tests of the code leave
  of a JSON object.  Times are compared as times; the code sorts their ISO
  texts in UTC, which have the same order.
-/
import Mathlib.Data.List.Sort
import Cai.Cycle.Row

namespace Cai.Finalization

open Cai.Lib
open Cai.Cycle (Timestamp MessageType FileMetadata Message SenderType Warning)

/-! ## §1. Raw messages. -/

/-- `raw.get("type")` -/
inductive RawType
  | ticket
  | supported (type : MessageType)
  | other (text : String)
  deriving DecidableEq, Repr

/-- The strings of `raw.get("file")`. -/
structure RawFile where
  id : Option String := none
  name : Option String := none
  publicFilename : Option String := none
  public_filename : Option String := none
  extension : Option String := none
  mimetype : Option String := none
  deriving DecidableEq, Repr

/-- A message of the ticket history. -/
structure RawMessage where
  /-- The id, where it is a text that is not blank. -/
  id : Option String
  type : RawType
  /-- `data.get("ticketOpen") is True` -/
  ticketOpen : Bool := false
  /-- `raw.get("visible") is not False` -/
  visible : Bool := true
  /-- `raw.get("deletedAt") not in (None, "")` -/
  deleted : Bool := false
  isFromBot : Option Bool := none
  origin : Option String := none
  /-- `parse_timestamp(raw.get("timestamp") or raw.get("createdAt"))` -/
  timestamp : Option Timestamp
  /-- `raw.get("isFromMe") is True` -/
  isFromMe : Bool := false
  userId : Option String := none
  contactId : Option String := none
  text : Option String := none
  quotedMessageId : Option String := none
  file : RawFile := {}
  deriving DecidableEq, Repr

/-- `CLOCK_SKEW` -/
def clockSkew : Int := 5000000

/-- A text that is not blank, stripped. -/
def stripped (value : Option String) : Option String :=
  value.bind fun text => if Text.isBlank text then none else some (Text.strip text)

/-- `safe_file_metadata` -/
def safeFileMetadata (raw : RawFile) : FileMetadata :=
  { id := stripped raw.id, name := stripped raw.name
    publicFilename := (stripped raw.publicFilename).or (stripped raw.public_filename)
    extension := stripped raw.extension, mimetype := stripped raw.mimetype }

/-- `is_image_message` -/
def isImageMessage (type : MessageType) (file : FileMetadata) : Bool :=
  match type with
  | .image => true
  | .document =>
      file.mimetype.any fun mimetype =>
        "image/".toList.isPrefixOf (Text.lower (Text.strip mimetype)).toList
  | _ => false

/-- `effective_message_type` -/
def effectiveMessageType (type : MessageType) (file : FileMetadata) : MessageType :=
  if isImageMessage type file then .image else type

/-- `is_bot_message` -/
def isBotMessage (isFromBot : Option Bool) (origin : Option String) : Bool :=
  isFromBot == some true || origin.any fun text => Text.lower (Text.strip text) == "bot"

/-! ## §2. The start of a cycle. -/

/-- The times `infer_cycle_start` keeps: not later than the close, up to clock skew. -/
def notAfterClose (closedAt : Timestamp) (raw : RawMessage) : Option Timestamp :=
  raw.timestamp.bind fun t => if closedAt + clockSkew < t then none else some t

def isTechnicalOpen (raw : RawMessage) : Bool := raw.type == .ticket && raw.ticketOpen

def technicalOpens (closedAt : Timestamp) (raws : List RawMessage) : List Timestamp :=
  (raws.filter isTechnicalOpen).filterMap (notAfterClose closedAt)

/-- `timestamp > previous_closed_at`, where there is one. -/
def afterPrevious (previousClosedAt : Option Timestamp) (t : Timestamp) : Bool :=
  previousClosedAt.all (· < t)

def validMessages (previousClosedAt : Option Timestamp) (closedAt : Timestamp)
    (raws : List RawMessage) : List Timestamp :=
  ((raws.filter fun raw => !isTechnicalOpen raw && raw.type matches .supported _).filterMap
    (notAfterClose closedAt)).filter (afterPrevious previousClosedAt)

/-- `infer_cycle_start` -/
def inferCycleStart (raws : List RawMessage) (configuredStart ticketStartedAt : Option Timestamp)
    (previousClosedAt : Option Timestamp) (closedAt : Timestamp) : Timestamp × String :=
  match configuredStart with
  | some start => (start, "webhook_open_event")
  | none =>
  match (technicalOpens closedAt raws).max? with
  | some start => (start, "digisac_ticket_open_event")
  | none =>
  match ticketStartedAt.filter fun t => t ≤ closedAt && afterPrevious previousClosedAt t with
  | some start => (start, "digisac_ticket_started_at")
  | none =>
  match (validMessages previousClosedAt closedAt raws).min? with
  | some start => (start, "first_unassociated_message")
  | none => (closedAt, "empty_cycle_at_close")

/-! ## §3. Normalization. -/

/-- What becomes of one raw message. -/
inductive Outcome
  | kept (message : Message)
  | excluded (reason : String) (warning : Option Warning := none)
  deriving DecidableEq, Repr

def Outcome.message : Outcome → Option Message
  | .kept m => some m
  | .excluded .. => none

def Outcome.reason : Outcome → Option String
  | .kept _ => none
  | .excluded reason _ => some reason

def Outcome.warning : Outcome → Option Warning
  | .kept _ => none
  | .excluded _ warning => warning

/-- The bounds `normalize_history` works with. -/
structure CycleBounds where
  start : Timestamp
  previousClosedAt : Option Timestamp
  closedAt : Timestamp
  deriving DecidableEq, Repr

/-- The message kept for a raw one. -/
def keptMessage (raw : RawMessage) (messageId : String) (type : MessageType)
    (timestamp : Timestamp) : Message :=
  let file := safeFileMetadata raw.file
  { messageId, timestamp
    senderType := if raw.isFromMe then .agent else .client
    senderId := if raw.isFromMe then raw.userId else raw.contactId
    senderName := none
    type := effectiveMessageType type file
    content := (raw.text.map Text.strip).getD ""
    quotedMessageId := raw.quotedMessageId
    mediaStatus := none, file }

/-- The tests on a message of a supported type. -/
def normalizeSupported (bounds : CycleBounds) (raw : RawMessage) (messageId : String)
    (type : MessageType) : Outcome :=
  if !raw.visible then .excluded "invisible"
  else if raw.deleted then .excluded "deleted"
  else if isBotMessage raw.isFromBot raw.origin then .excluded "bot"
  else match raw.timestamp with
  | none => .excluded "invalid_timestamp"
      (some { code := "invalid_timestamp", messageId := some messageId })
  | some timestamp =>
  if !afterPrevious bounds.previousClosedAt timestamp then .excluded "previous_cycle"
  else if timestamp < bounds.start - clockSkew || bounds.closedAt + clockSkew < timestamp then
    .excluded "outside_cycle"
  else .kept (keptMessage raw messageId type timestamp)

/-- The body of the loop of `normalize_history`. -/
def normalizeMessage (bounds : CycleBounds) (raw : RawMessage) : Outcome :=
  match raw.id, raw.type with
  | none, _ => .excluded "missing_message_id"
  | some _, .ticket => .excluded "technical_ticket_event"
  | some messageId, .other text => .excluded "unknown_type"
      (some { code := "unknown_message_type", messageId := some messageId, type := some text })
  | some messageId, .supported type => normalizeSupported bounds raw messageId type

/-- `excluded[reason] = excluded.get(reason, 0) + 1` -/
def countReason (reason : String) : List (String × Nat) → List (String × Nat)
  | [] => [(reason, 1)]
  | (r, n) :: counts => if r = reason then (r, n + 1) :: counts else (r, n) :: countReason reason counts

/-- The order of `normalized.sort`. -/
def messageLE (a b : Message) : Prop :=
  a.timestamp < b.timestamp ∨ (a.timestamp = b.timestamp ∧ a.messageId ≤ b.messageId)

instance : DecidableRel messageLE := fun a b =>
  inferInstanceAs (Decidable (a.timestamp < b.timestamp
    ∨ (a.timestamp = b.timestamp ∧ a.messageId ≤ b.messageId)))

/-- `NormalizedHistory` -/
structure NormalizedHistory where
  messages : List Message
  warnings : List Warning
  exclusionCounts : List (String × Nat)
  cycleStartedAt : Timestamp
  cycleStartStrategy : String
  deriving DecidableEq, Repr

/-- `normalize_history` -/
def normalizeHistory (raws : List RawMessage) (cycleStartedAt previousClosedAt : Option Timestamp)
    (ticketClosedAt : Timestamp) (ticketStartedAt : Option Timestamp) : NormalizedHistory :=
  let (start, strategy) :=
    inferCycleStart raws cycleStartedAt ticketStartedAt previousClosedAt ticketClosedAt
  let outcomes := raws.map (normalizeMessage ⟨start, previousClosedAt, ticketClosedAt⟩)
  { messages := (outcomes.filterMap Outcome.message).insertionSort messageLE
    warnings := outcomes.filterMap Outcome.warning
    exclusionCounts := (outcomes.filterMap Outcome.reason).foldl (fun counts r => countReason r counts) []
    cycleStartedAt := start, cycleStartStrategy := strategy }

/-- `DigisacHistory`, as `get_ticket_history` builds it: the messages come out
    of a dictionary keyed by their ids. -/
structure DigisacHistory where
  messages : List RawMessage
  startedAt : Option Timestamp
  pageCount : Nat
  total : Nat
  duplicateCount : Nat
  ids_nodup : (messages.filterMap (·.id)).Nodup
  deriving DecidableEq, Repr

/-! ## §4. Message ids. -/

theorem normalizeSupported_kept {bounds : CycleBounds} {raw : RawMessage} {messageId : String}
    {type : MessageType} {m : Message} (h : normalizeSupported bounds raw messageId type = .kept m) :
    ∃ timestamp, m = keptMessage raw messageId type timestamp := by
  unfold normalizeSupported at h
  repeat' split at h
  all_goals cases h
  next timestamp _ _ _ => exact ⟨timestamp, rfl⟩

/-- A kept message has the id of its raw message. -/
theorem normalizeMessage_id {bounds : CycleBounds} {raw : RawMessage} {m : Message}
    (h : (normalizeMessage bounds raw).message = some m) : raw.id = some m.messageId := by
  have hkept : normalizeMessage bounds raw = .kept m := by
    cases hout : normalizeMessage bounds raw with
    | kept m' =>
        rw [hout] at h
        rw [Option.some.inj h]
    | excluded reason warning =>
        rw [hout] at h
        cases h
  unfold normalizeMessage at hkept
  split at hkept
  next => cases hkept
  next => cases hkept
  next => cases hkept
  next messageId type hid htype =>
    obtain ⟨timestamp, rfl⟩ := normalizeSupported_kept hkept
    exact hid

/-- Keys that are copied from the elements they come from. -/
theorem map_filterMap_sublist {α β κ : Type*} {g : α → Option β} {source : α → Option κ}
    {key : β → κ} (h : ∀ a b, g a = some b → source a = some (key b)) (l : List α) :
    ((l.filterMap g).map key).Sublist (l.filterMap source) := by
  induction l with
  | nil => exact List.Sublist.refl _
  | cons a l ih =>
      cases hg : g a with
      | none =>
          rw [List.filterMap_cons_none hg]
          cases hs : source a with
          | none => rw [List.filterMap_cons_none hs]; exact ih
          | some k => rw [List.filterMap_cons_some hs]; exact ih.cons k
      | some b =>
          rw [List.filterMap_cons_some hg, List.filterMap_cons_some (h a b hg)]
          exact ih.cons_cons (key b)

/-- **Normalization keeps ids distinct.** -/
theorem normalizeHistory_nodup {raws : List RawMessage} (h : (raws.filterMap (·.id)).Nodup)
    (cycleStartedAt previousClosedAt : Option Timestamp) (ticketClosedAt : Timestamp)
    (ticketStartedAt : Option Timestamp) :
    ((normalizeHistory raws cycleStartedAt previousClosedAt ticketClosedAt
      ticketStartedAt).messages.map (·.messageId)).Nodup := by
  have hsub (bounds : CycleBounds) :
      (((raws.map (normalizeMessage bounds)).filterMap Outcome.message).map
        (·.messageId)).Sublist (raws.filterMap (·.id)) := by
    rw [List.filterMap_map]
    exact map_filterMap_sublist (fun raw m hm => normalizeMessage_id hm) raws
  have hperm (l : List Message) :
      ((l.insertionSort messageLE).map (·.messageId)).Perm (l.map (·.messageId)) :=
    (List.perm_insertionSort messageLE l).map _
  exact (hperm _).nodup_iff.mpr (h.sublist (hsub _))

end Cai.Finalization
