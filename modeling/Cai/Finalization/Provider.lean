/-
  Cai.Finalization.Provider — the same functions on the JSON of the provider.

  `parse_timestamp`, `infer_cycle_start` and `normalize_history` of
  `src/core/finalization.py` with the objects that `get_ticket_history`
  hands over: any JSON value can stand in any field, a test for membership
  in a set and the arithmetic of times can raise, and the messages are
  sorted by the ISO texts of their times.  `datetime.fromisoformat` is a
  parameter.  `rawMessage` is the record that the `isinstance` tests leave
  of an object.
-/
import Cai.Finalization.Window
import Cai.Lib.Calendar
import Cai.Lib.Fallible
import Cai.Lib.Json

namespace Cai.Finalization.Provider

open Cai.Lib
open Cai.Lib.Calendar (IsTime isoformat)
open Cai.Cycle (Timestamp MessageType FileMetadata Message SenderType MediaStatus Warning)

/-! ## §1. Times. -/

/-- What `datetime.fromisoformat` returns: a clock time, and its offset where the text has one. -/
structure IsoTime where
  clock : Timestamp
  offset : Option Int
  inRange : IsTime clock

/-- `parsed.astimezone(timezone.utc)`, after UTC is put in for a missing offset. -/
def toUtc (parsed : IsoTime) : Except Raised Timestamp :=
  match parsed.offset with
  | none => .ok parsed.clock
  | some offset =>
      if IsTime (parsed.clock - offset) then .ok (parsed.clock - offset)
      else .error .overflowError

/-- `value.replace("Z", "+00:00")` -/
def replaceZ (value : String) : String :=
  String.ofList (value.toList.flatMap fun c => if c = 'Z' then "+00:00".toList else [c])

/-- `timestamp + delta` -/
def shifted (timestamp : Timestamp) (delta : Int) : Except Raised Timestamp :=
  if IsTime (timestamp + delta) then .ok (timestamp + delta) else .error .overflowError

variable (fromisoformat : String → Option IsoTime)

/-- `parse_timestamp` of a JSON value -/
def parseTimestamp (value : Json) : Except Raised (Option Timestamp) :=
  match value.asText with
  | none => .ok none
  | some text =>
      match fromisoformat (replaceZ text) with
      | none => .ok none
      | some parsed => (toUtc parsed).map some

/-- `parse_timestamp(raw.get("timestamp") or raw.get("createdAt"))` -/
def messageTime (raw : JsonObject) : Except Raised (Option Timestamp) :=
  parseTimestamp fromisoformat ((raw.get "timestamp").orElse (raw.get "createdAt"))

/-! ## §2. The fields of a message. -/

/-- The member of `SUPPORTED_HISTORY_TYPES` with this text. -/
def typeNamed (text : String) : Option MessageType :=
  [.chat, .document, .ptt, .audio, .voice, .image].find? fun type => type.name == text

/-- `message_type in SUPPORTED_HISTORY_TYPES` -/
def supportedType (type : Json) : Except Raised (Option MessageType) :=
  if type.hashable then .ok (type.asText.bind typeNamed) else .error .typeError

/-- `message_type == "ticket"` -/
def isTicket (raw : JsonObject) : Bool := (raw.get "type").asText == some "ticket"

/-- `isinstance(data, Mapping) and data.get("ticketOpen") is True` -/
def ticketOpen (raw : JsonObject) : Bool :=
  (raw.get "data").asDict.any fun data => (data.get "ticketOpen").isTrue

/-- The id, where it is a text that is not blank. -/
def messageId (raw : JsonObject) : Option String :=
  (raw.get "id").asText.filter fun text => !Text.isBlank text

/-- `raw.get("visible") is not False` -/
def visible (raw : JsonObject) : Bool := !(raw.get "visible").isFalse

/-- `value not in (None, "")` -/
def present : Json → Bool
  | .null => false
  | .str text => text != ""
  | _ => true

/-- `is_bot_message` of the two fields, where they have their types. -/
def isBot (raw : JsonObject) : Bool :=
  isBotMessage (raw.get "isFromBot").asBool (raw.get "origin").asText

/-- The texts of `raw.get("file")`. -/
def rawFile (file : Json) : RawFile :=
  match file.asDict with
  | none => {}
  | some items =>
      { id := (items.get "id").asText, name := (items.get "name").asText
        publicFilename := (items.get "publicFilename").asText
        public_filename := (items.get "public_filename").asText
        extension := (items.get "extension").asText, mimetype := (items.get "mimetype").asText }

/-! ## §3. The start of a cycle. -/

/-- `technical_opens` and `valid_messages` -/
structure Scanned where
  technicalOpens : List Timestamp := []
  validMessages : List Timestamp := []

/-- The body of the loop of `infer_cycle_start`. -/
def scanMessage (previousClosedAt : Option Timestamp) (closedAt : Timestamp) (s : Scanned)
    (message : JsonObject) : Except Raised Scanned := do
  match ← messageTime fromisoformat message with
  | none => return s
  | some timestamp =>
      let latest ← shifted closedAt clockSkew
      if latest < timestamp then return s
      else if isTicket message && ticketOpen message then
        return { s with technicalOpens := s.technicalOpens ++ [timestamp] }
      else
        match ← supportedType (message.get "type") with
        | none => return s
        | some _ =>
            if afterPrevious previousClosedAt timestamp then
              return { s with validMessages := s.validMessages ++ [timestamp] }
            else return s

/-- `infer_cycle_start` -/
def inferCycleStart (rawMessages : List JsonObject) (configuredStart : Option Timestamp)
    (ticketStartedAt : Json) (previousClosedAt : Option Timestamp) (closedAt : Timestamp) :
    Except Raised (Timestamp × String) :=
  match configuredStart with
  | some start => .ok (start, "webhook_open_event")
  | none => do
      let scanned ← rawMessages.foldlM (scanMessage fromisoformat previousClosedAt closedAt) {}
      match scanned.technicalOpens.max? with
      | some start => return (start, "digisac_ticket_open_event")
      | none =>
          let ticketStart ← parseTimestamp fromisoformat ticketStartedAt
          match ticketStart.filter fun t => t ≤ closedAt && afterPrevious previousClosedAt t with
          | some start => return (start, "digisac_ticket_started_at")
          | none =>
              match scanned.validMessages.min? with
              | some start => return (start, "first_unassociated_message")
              | none => return (closedAt, "empty_cycle_at_close")

/-! ## §4. Normalization. -/

/-- What is known of a raw message that is kept. -/
structure Kept where
  raw : JsonObject
  messageId : String
  type : MessageType
  timestamp : Timestamp

/-- One dictionary of `normalized`. -/
structure HistoryItem where
  messageId : String
  timestamp : String
  senderType : SenderType
  senderId : Json
  senderName : Option String := none
  type : MessageType
  content : String
  quotedMessageId : Option String
  mediaStatus : Option MediaStatus := none
  file : FileMetadata

/-- The dictionary of a kept message. -/
def Kept.item (kept : Kept) : HistoryItem :=
  let isFromMe := (kept.raw.get "isFromMe").isTrue
  let file := safeFileMetadata (rawFile (kept.raw.get "file"))
  { messageId := kept.messageId, timestamp := isoformat kept.timestamp
    senderType := if isFromMe then .agent else .client
    senderId := if isFromMe then kept.raw.get "userId" else kept.raw.get "contactId"
    type := effectiveMessageType kept.type file
    content := ((kept.raw.get "text").asText.map Text.strip).getD ""
    quotedMessageId := (kept.raw.get "quotedMessageId").asText, file }

/-- What becomes of one raw message. -/
inductive Entry
  | kept (message : Kept)
  | excluded (reason : String) (warning : Option Warning := none)

namespace Entry

def kept? : Entry → Option Kept
  | .kept k => some k
  | .excluded .. => none

def reason : Entry → Option String
  | .kept _ => none
  | .excluded reason _ => some reason

def warning : Entry → Option Warning
  | .kept _ => none
  | .excluded _ warning => warning

end Entry

/-- `timestamp < lower or timestamp > ticket_closed_at + CLOCK_SKEW` -/
def outsideCycle (bounds : CycleBounds) (lower timestamp : Timestamp) : Except Raised Bool :=
  if timestamp < lower then .ok true
  else (shifted bounds.closedAt clockSkew).map fun latest => decide (latest < timestamp)

/-- The tests on the time of a message. -/
def normalizeTimed (bounds : CycleBounds) (raw : JsonObject) (messageId : String)
    (type : MessageType) : Except Raised Entry := do
  match ← messageTime fromisoformat raw with
  | none =>
      return .excluded "invalid_timestamp"
        (some { code := "invalid_timestamp", messageId := some messageId })
  | some timestamp =>
      let lower ← shifted bounds.start (-clockSkew)
      if !afterPrevious bounds.previousClosedAt timestamp then return .excluded "previous_cycle"
      else if ← outsideCycle bounds lower timestamp then return .excluded "outside_cycle"
      else return .kept { raw, messageId, type, timestamp }

/-- The tests on a message of a supported type. -/
def normalizeSupported (bounds : CycleBounds) (raw : JsonObject) (messageId : String)
    (type : MessageType) : Except Raised Entry :=
  if !visible raw then .ok (.excluded "invisible")
  else if present (raw.get "deletedAt") then .ok (.excluded "deleted")
  else if isBot raw then .ok (.excluded "bot")
  else normalizeTimed fromisoformat bounds raw messageId type

/-- The body of the loop of `normalize_history`. -/
def normalizeEntry (bounds : CycleBounds) (raw : JsonObject) : Except Raised Entry :=
  match messageId raw with
  | none => .ok (.excluded "missing_message_id")
  | some messageId =>
      if isTicket raw then .ok (.excluded "technical_ticket_event")
      else do
        match ← supportedType (raw.get "type") with
        | none =>
            return .excluded "unknown_type"
              (some { code := "unknown_message_type", messageId := some messageId
                      type := some (raw.get "type").toText })
        | some type => normalizeSupported fromisoformat bounds raw messageId type

/-- The order of `normalized.sort`: by the text of the time, then by the id. -/
def itemLE (a b : HistoryItem) : Prop :=
  a.timestamp < b.timestamp ∨ (a.timestamp = b.timestamp ∧ a.messageId ≤ b.messageId)

instance : DecidableRel itemLE := fun a b =>
  inferInstanceAs (Decidable (a.timestamp < b.timestamp
    ∨ (a.timestamp = b.timestamp ∧ a.messageId ≤ b.messageId)))

/-- `NormalizedHistory` -/
structure NormalizedHistory where
  messages : List HistoryItem
  warnings : List Warning
  exclusionCounts : List (String × Nat)
  cycleStartedAt : Timestamp
  cycleStartStrategy : String

/-- `normalize_history` -/
def normalizeHistory (rawMessages : List JsonObject)
    (cycleStartedAt previousClosedAt : Option Timestamp) (ticketClosedAt : Timestamp)
    (ticketStartedAt : Json) : Except Raised NormalizedHistory := do
  let (start, strategy) ← inferCycleStart fromisoformat rawMessages cycleStartedAt ticketStartedAt
    previousClosedAt ticketClosedAt
  let entries ← rawMessages.mapM
    (normalizeEntry fromisoformat ⟨start, previousClosedAt, ticketClosedAt⟩)
  return {
    messages := ((entries.filterMap Entry.kept?).map Kept.item).insertionSort itemLE
    warnings := entries.filterMap Entry.warning
    exclusionCounts :=
      (entries.filterMap Entry.reason).foldl (fun counts r => countReason r counts) []
    cycleStartedAt := start, cycleStartStrategy := strategy }

/-! ## §5. The record of a message. -/

/-- The type of a message. -/
def rawType (raw : JsonObject) : RawType :=
  if isTicket raw then .ticket
  else
    match (raw.get "type").asText.bind typeNamed with
    | some type => .supported type
    | none => .other (raw.get "type").toText

/-- The time that `parse_timestamp` returns, where it returns one. -/
def readTimestamp (value : Json) : Option Timestamp :=
  match parseTimestamp fromisoformat value with
  | .ok time => time
  | .error _ => none

/-- The time of a message. -/
def readTime (raw : JsonObject) : Option Timestamp :=
  readTimestamp fromisoformat ((raw.get "timestamp").orElse (raw.get "createdAt"))

/-- What the `isinstance` tests leave of a message. -/
def rawMessage (raw : JsonObject) : RawMessage where
  id := messageId raw
  type := rawType raw
  ticketOpen := ticketOpen raw
  visible := visible raw
  deleted := present (raw.get "deletedAt")
  isFromBot := (raw.get "isFromBot").asBool
  origin := (raw.get "origin").asText
  timestamp := readTime fromisoformat raw
  isFromMe := (raw.get "isFromMe").isTrue
  userId := (raw.get "userId").asText
  contactId := (raw.get "contactId").asText
  text := (raw.get "text").asText
  quotedMessageId := (raw.get "quotedMessageId").asText
  file := rawFile (raw.get "file")

variable {fromisoformat}

theorem readTimestamp_of_ok {value : Json} {time : Option Timestamp}
    (h : parseTimestamp fromisoformat value = .ok time) :
    readTimestamp fromisoformat value = time := by
  unfold readTimestamp
  rw [h]

theorem readTime_of_ok {raw : JsonObject} {time : Option Timestamp}
    (h : messageTime fromisoformat raw = .ok time) : readTime fromisoformat raw = time :=
  readTimestamp_of_ok h

theorem shifted_eq_ok_iff {timestamp t : Timestamp} {delta : Int} :
    shifted timestamp delta = .ok t ↔ IsTime (timestamp + delta) ∧ t = timestamp + delta :=
  guarded_eq_ok_iff

theorem supportedType_eq_ok_iff {value : Json} {type : Option MessageType} :
    supportedType value = .ok type ↔ value.hashable = true ∧ type = value.asText.bind typeNamed :=
  guarded_eq_ok_iff

/-- A text that is a member of the set is not `"ticket"`. -/
theorem rawType_eq_supported_iff {raw : JsonObject} {type : MessageType} :
    rawType raw = .supported type ↔ (raw.get "type").asText.bind typeNamed = some type := by
  unfold rawType isTicket
  by_cases hticket : (raw.get "type").asText = some "ticket"
  · rw [hticket]
    constructor
    · intro h
      cases h
    · intro h
      cases h
  · have hfalse : ((raw.get "type").asText == some "ticket") = false := by simpa using hticket
    rw [hfalse, if_neg Bool.false_ne_true]
    cases (raw.get "type").asText.bind typeNamed with
    | none => simp
    | some t => simp

theorem isTechnicalOpen_rawMessage {raw : JsonObject} :
    isTechnicalOpen (rawMessage fromisoformat raw) = (isTicket raw && ticketOpen raw) := by
  unfold isTechnicalOpen
  show (rawType raw == .ticket && ticketOpen raw) = _
  unfold rawType
  by_cases hticket : isTicket raw = true
  · rw [if_pos hticket, hticket]
    rfl
  · rw [if_neg hticket]
    have hfalse : isTicket raw = false := by simpa using hticket
    rw [hfalse]
    cases (raw.get "type").asText.bind typeNamed with
    | none => rfl
    | some t => rfl

/-- An id is a text that is not blank. -/
theorem get_of_messageId {raw : JsonObject} {id : String} (h : messageId raw = some id) :
    raw.get "id" = .str id ∧ Text.isBlank id = false := by
  unfold messageId at h
  rw [Option.filter_eq_some_iff] at h
  exact ⟨Json.asText_eq_some_iff.mp h.1, by simpa using h.2⟩

end Cai.Finalization.Provider
