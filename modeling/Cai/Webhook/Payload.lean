/-
  Cai.Webhook.Payload — what the webhook reads from a payload.

  The readers of `src/api/routes.py` and the adapter of
  `src/api/webhook_adapter.py`, on the JSON value of the body.  A payload
  comes from the provider as it is, so any value can stand in any field;
  what raises is said by `Raised`.
-/
import Cai.Digisac.ContactPage
import Cai.Finalization.History
import Cai.Lib.JsonText
import Cai.Mapping.Assignment

namespace Cai.Webhook

open Cai.Lib
open Cai.Cycle (Timestamp MessageType FileMetadata)
open Cai.Digisac (normalizeContact)
open Cai.Directory (Observation)
open Cai.Finalization (effectiveMessageType isBotMessage)
open Cai.Finalization.Provider (IsoTime replaceZ toUtc typeNamed)
open Cai.Lib.Calendar (isoformat)
open Cai.Mapping (TicketUpdate)

/-! ## §1. Values. -/

/-- What the webhook asks of Python's library. -/
structure Library extends Digisac.Library where
  /-- `datetime.fromtimestamp(value, timezone.utc)` of a finite number, where it raises nothing -/
  fromtimestamp : Rat → Option IsoTime
  /-- `timestamp.isoformat()` of a time with or without an offset -/
  timeText : IsoTime → String
  /-- `json.dumps(value, sort_keys=True)` -/
  dumpsAscii : Json → String
  /-- `hashlib.sha256(text.encode("utf-8")).hexdigest()` -/
  sha256 : String → String

variable (lib : Library)

/-- `str(value)`, where the value is not `None`. -/
def textOf (value : Json) : Option String :=
  match value with
  | .null => none
  | value => some (lib.str value)

/-- `_non_empty_string`, `_as_non_empty_string`, `normalize_protocol` -/
def nonEmptyString (value : Json) : Option String := Mapping.nonEmptyString (textOf lib value)

/-- `payload.get("eventId") or payload.get("id")` -/
def sourceEventId (payload : JsonObject) : Json := (payload.get "eventId").orElse (payload.get "id")

/-- `_canonical_ticket_contact_external_id` -/
def canonicalTicketContactExternalId (data : JsonObject) : Option String :=
  (data.get "contact").asDict.bind fun contact => nonEmptyString lib (contact.get "id")

/-- `_ticket_transfer_count` -/
def ticketTransferCount (data : JsonObject) : Option Int :=
  let value := match data.get "ticketTransferCount", (data.get "metrics").asDict with
    | .null, some metrics => metrics.get "ticketTransferCount"
    | value, _ => value
  match value with
  | .int value => some value
  | .str text => Text.parseInt text
  | _ => none

/-! ## §2. The time of a ticket event. -/

/-- The values that may hold the time, in their order. -/
def timeValues (payload data : JsonObject) : List Json :=
  [data.get "timestamp", data.get "updatedAt", payload.get "timestamp", payload.get "createdAt"]

/-- The time of one value; a truth value is no number here. -/
def readTime (value : Json) : Option IsoTime :=
  match value with
  | .str text => lib.fromisoformat (replaceZ text)
  | .int seconds => lib.fromtimestamp seconds
  | .float number => number.value.bind lib.fromtimestamp
  | _ => none

/-- The time of the source, where it sends one. -/
def sourceTime (payload data : JsonObject) : Option IsoTime :=
  (timeValues payload data).findSome? (readTime lib)

/-- `_ticket_event_timestamp`: the time, and whether the source sent it. -/
def ticketEventTimestamp (now : Timestamp) (payload data : JsonObject) :
    Except Raised (Timestamp × Bool) :=
  match sourceTime lib payload data with
  | some parsed => (toUtc parsed).map (·, true)
  | none => .ok (now, false)

/-- A text of the source, or `None`. -/
def optionalText (text : Option String) : Json := text.elim .null .str

/-- `_cycle_event_key` -/
def cycleEventKey (now : Timestamp) (event ticketId : String) (payload data : JsonObject) :
    Except Raised String :=
  match nonEmptyString lib (sourceEventId payload) with
  | some id => .ok (lib.sha256 s!"{event}:{ticketId}:{id}")
  | none =>
      (ticketEventTimestamp lib now payload data).map fun (timestamp, hasSourceTimestamp) =>
        lib.sha256 (JsonText.dumps (.list [
          .str event, .str ticketId, data.get "isOpen",
          optionalText (nonEmptyString lib (data.get "protocol")),
          if hasSourceTimestamp then .str (isoformat timestamp) else .null,
          data.get "lastMessageId", data.get "ticketTransferCount"]))

/-! ## §3. The contact and the assignment of a ticket event. -/

/-- The upsert of `capture_contact_snapshot`: none where there is no contact, or where the attempt
    to read it is given up. -/
def contactObservation (now : Timestamp) (payload data : JsonObject) : Option Observation :=
  match (data.get "contact").asDict with
  | none => none
  | some rawContact =>
      match normalizeContact lib.toLibrary rawContact, ticketEventTimestamp lib now payload data with
      | .ok contact, .ok (observed, _) => some { contact, source := "ticket_webhook", observed }
      | _, _ => none

/-- The key of an assignment. -/
def assignmentKey (ticketId : String) (departmentId userId sourceEventId : Option String)
    (timestamp : Timestamp) (hasSourceTimestamp : Bool) (payload : JsonObject) : String :=
  match sourceEventId with
  | some id => lib.sha256 s!"ticket.updated:{ticketId}:{id}"
  | none =>
      -- a list keeps its order, so that sorting the keys changes nothing
      if hasSourceTimestamp then
        lib.sha256 (JsonText.dumps (.list [.str ticketId, optionalText departmentId, optionalText userId,
          .str (isoformat timestamp)]))
      else lib.sha256 (JsonText.dumps (.dict payload))

/-- The arguments of `capture_ticket_assignment`, as it reads them. -/
def ticketUpdate (ticketId : String) (timestamp : Timestamp) (hasSourceTimestamp : Bool)
    (payload data : JsonObject) : TicketUpdate where
  ticketId
  departmentId := textOf lib (data.get "departmentId")
  userId := textOf lib (data.get "userId")
  timestamp
  sourceEventId := textOf lib (sourceEventId payload)
  eventKey := assignmentKey lib ticketId (nonEmptyString lib (data.get "departmentId"))
    (nonEmptyString lib (data.get "userId")) (nonEmptyString lib (sourceEventId payload))
    timestamp hasSourceTimestamp payload
  ticketTransferCount := ticketTransferCount data

/-! ## §4. The message of a message event. -/

/-- `DigisacMessage` -/
structure DigisacMessage where
  conversationId : String
  messageId : Option String
  content : String
  type : MessageType
  file : FileMetadata
  senderId : Option String
  isFromMe : Bool
  isFromBot : Option Bool
  origin : Option String
  userId : Option String
  event : String
  timestamp : Option IsoTime

/-- `normalized_file` -/
def normalizedFile (file : Json) : FileMetadata :=
  let items := file.asDict.getD []
  { id := nonEmptyString lib (items.get "id"), name := nonEmptyString lib (items.get "name")
    publicFilename := nonEmptyString lib (items.get "publicFilename")
    extension := nonEmptyString lib (items.get "extension")
    mimetype := nonEmptyString lib (items.get "mimetype") }

/-- `_parse_timestamp` -/
def messageTimestamp (value : Json) : Option IsoTime :=
  value.asText.bind fun text => lib.fromisoformat (replaceZ text)

/-- `DigisacWebhookAdapter.adapt`: the message, or the reason to ignore it. -/
def adapt (payload data : JsonObject) : Except String DigisacMessage :=
  match (data.get "isFromMe").asBool with
  | none => .error "missing_is_from_me"
  | some isFromMe =>
  match typeNamed ((nonEmptyString lib (data.get "type")).getD "chat") with
  | none => .error "unsupported_message_type"
  | some type =>
      let content := Text.strip ((data.get "text").asText.getD "")
      if type = .chat ∧ content = "" then .error "empty_message_text"
      else
        match nonEmptyString lib (data.get "ticketId") with
        | none => .error "missing_ticket_id"
        | some conversationId =>
            let file := normalizedFile lib (data.get "file")
            .ok {
              conversationId, messageId := nonEmptyString lib (data.get "id"), content
              type := effectiveMessageType type file, file
              senderId := nonEmptyString lib (data.get "contactId"), isFromMe
              isFromBot := (data.get "isFromBot").asBool, origin := (data.get "origin").asText
              userId := nonEmptyString lib (data.get "userId")
              event := (payload.get "event").asText.getD "message.created"
              timestamp := messageTimestamp lib (data.get "timestamp") }

/-- `is_bot_message(is_from_bot=data.get("isFromBot"), origin=data.get("origin"))` -/
def isBot (data : JsonObject) : Bool :=
  isBotMessage (data.get "isFromBot").asBool (data.get "origin").asText

/-- The key fields of `generate_event_id`, in the order of their names. -/
def keyFields (payload : JsonObject) (message : DigisacMessage) : Json :=
  .dict [
    ("content", .str message.content),
    ("conversation_id", .str message.conversationId),
    ("event", .str message.event),
    ("message_id", (optionalText message.messageId).orElse (payload.get "id")),
    ("timestamp", (optionalText (message.timestamp.map lib.timeText)).orElse
      (payload.get "created_at"))]

/-- `IdempotencyService.generate_event_id` -/
def generateEventId (payload : JsonObject) (message : DigisacMessage) : String :=
  lib.sha256 (lib.dumpsAscii (keyFields lib payload message))

end Cai.Webhook
