/-
  Cai.Webhook.Ingestion — the webhook.

  `digisac_webhook` of `src/api/routes.py` after the signature and the JSON
  text of a body were checked.  It makes up to four calls, each in a
  transaction of its own, and each on a table that no other call of the
  same delivery touches.  `webhookWrites` lists them.

  Main results:
    * `digisacWebhook_tables` — a delivery leaves what its writes leave.
    * `webhookWrites_parts` — each of them has a table of its own.
    * `webhook_frame` — the tables an event can change.
-/
import Cai.Directory.Hydration
import Cai.Lib.Restart
import Cai.Media.Repository
import Cai.Webhook.Ledger
import Cai.Webhook.Payload

namespace Cai.Webhook

open Cai.Lib
open Cai.Cycle (Timestamp CycleRow CreateArgs CloseArgs Fresh TicketCall)
open Cai.Directory (HydrationTables Observation requestHydration upsertHydrated)
open Cai.Finalization (isImageMessage)
open Cai.Finalization.Provider (toUtc)
open Cai.Mapping (AssignmentEvent AssignmentTables captureTicketAssignment recordTicketAssignment)
open Cai.Media (ContentStatement MediaTable runStatement)

/-! ## §1. The tables. -/

/-- What the calls of a delivery are made on. -/
inductive Part
  /-- `digisac_contacts` and `digisac_contact_hydrations` -/
  | contacts
  | assignments
  | cycles
  /-- `message_transcriptions` -/
  | audio
  /-- `message_image_extractions` -/
  | images
  /-- `webhook_event_keys` -/
  | ledger
  deriving DecidableEq, Repr

@[reducible] def Part.Table : Part → Type
  | .contacts => HydrationTables
  | .assignments => AssignmentTables
  | .cycles => List CycleRow
  | .audio | .images => MediaTable
  | .ledger => Ledger

abbrev Tables := ∀ part : Part, part.Table

abbrev TableWrite := Write Timestamp Part.Table

/-! ## §2. The calls. -/

/-- `upsert_digisac_contact`; what it raises is logged. -/
def contactWrite (o : Observation) : TableWrite where
  part := .contacts
  write now t := upsertHydrated now (.upsert o) t

/-- `record_ticket_assignment`; what it raises is logged. -/
def assignmentWrite (e : AssignmentEvent) : TableWrite where
  part := .assignments
  write now tables := tablesAfter tables (recordTicketAssignment now e tables)

/-- `create_open_cycle` and `close_cycle`; a call that raises changes nothing. -/
def ticketWrite (delaySeconds : Nat) (fresh : Fresh) (call : TicketCall) : TableWrite where
  part := .cycles
  write now rows := committed rows ((call.perform now delaySeconds fresh rows).map (·.rows))

/-- `request_contact_hydration` -/
def hydrationWrite (externalId : String) (requestedAt : Option Timestamp) : TableWrite where
  part := .contacts
  write now t := (requestHydration now externalId requestedAt t).1

/-- The statement of `reserve_transcription` and `reserve_image_extraction`. -/
def reserve (now : Timestamp) (conversationId model : String) : ContentStatement :=
  .reserve now (some conversationId) model false

/-- `reserve_transcription` -/
def audioWrite (messageId conversationId model : String) : TableWrite where
  part := .audio
  write now := runStatement messageId (reserve now conversationId model)

/-- `reserve_image_extraction` -/
def imageWrite (messageId conversationId model : String) : TableWrite where
  part := .images
  write now := runStatement messageId (reserve now conversationId model)

/-- `try_mark_webhook_event` -/
def ledgerWrite (digest : String) : TableWrite where
  part := .ledger
  write now ledger := tablesAfter ledger (recordWebhookEvent now digest ledger)

/-! ## §3. The handler. -/

/-- The settings that the handler reads. -/
structure WebhookSettings where
  audioModel : String
  imageModel : String
  /-- `digisac_history_initial_delay_seconds` -/
  initialDelaySeconds : Nat
  deriving DecidableEq, Repr

/-- The body of an answer. -/
inductive Body
  | ignored (reason : String) (conversationId : Option String)
  | ticketCreated (conversationId : String) (cycleId : Nat) (created : Bool)
  | ticketReopened (conversationId : String) (cycleId : Nat) (created : Bool)
  | ticketUpdated (conversationId : String)
  /-- `ticket_closed`, or `ticket_already_closed` where nothing was queued -/
  | ticketClosed (conversationId : String) (cycleId : Nat) (queued : Bool)
  | duplicate (conversationId : String)
  | received (conversationId : String) (transcriptionQueued imageQueued : Bool)
  deriving DecidableEq, Repr

inductive Outcome
  | answered (status : Nat) (body : Body)
  /-- `HTTPException` -/
  | refused (status : Nat) (detail : String)
  /-- Any other exception. -/
  | raised
  deriving DecidableEq, Repr

variable (lib : Library) (settings : WebhookSettings) (fresh : Fresh) (now : Timestamp)

/-- The arguments of `create_open_cycle`. -/
def createCall (event startStrategy ticketId : String) (payload data : JsonObject) :
    Except Raised TicketCall := do
  let (timestamp, _) ← ticketEventTimestamp lib now payload data
  let openEventKey ← cycleEventKey lib now event ticketId payload data
  return .create {
    conversationId := ticketId, startedAt := some timestamp, openEventKey, startStrategy
    contactExternalId := canonicalTicketContactExternalId lib data }

/-- The arguments of `close_cycle`. -/
def closeCall (event ticketId protocol : String) (payload data : JsonObject) :
    Except Raised TicketCall := do
  let (timestamp, _) ← ticketEventTimestamp lib now payload data
  let closeEventKey ← cycleEventKey lib now event ticketId payload data
  return .close {
    conversationId := ticketId, protocol, closedAt := some timestamp, closeEventKey
    contactExternalId := canonicalTicketContactExternalId lib data }

/-- A call on the cycles, and the answer about the cycle it returns. -/
def performTicket (call : Except Raised TicketCall) (body : Nat → Bool → Body) (s : Tables) :
    Tables × Outcome :=
  match call with
  | .error _ => (s, .raised)
  | .ok call =>
      let write := ticketWrite settings.initialDelaySeconds fresh call
      (write.run now s,
        match call.perform now settings.initialDelaySeconds fresh (s .cycles) with
        | .ok result => .answered 202 (body result.cycle.publicId result.created)
        | .error _ => .raised)

/-- What `capture_ticket_assignment` hands to `record_ticket_assignment`. -/
def assignmentEvent (ticketId : String) (payload data : JsonObject) :
    Except Raised (Option AssignmentEvent) :=
  if (nonEmptyString lib (data.get "departmentId")).isNone
      && (nonEmptyString lib (data.get "userId")).isNone then .ok none
  else
    (ticketEventTimestamp lib now payload data).map fun (timestamp, hasSourceTimestamp) =>
      captureTicketAssignment (ticketUpdate lib ticketId timestamp hasSourceTimestamp payload data)

/-- The write of an optional call. -/
def runOptional (write : Option TableWrite) (s : Tables) : Tables :=
  write.elim s fun write => write.run now s

/-- A `ticket.updated` event, after its contact was captured. -/
def ticketUpdated (event ticketId : String) (payload data : JsonObject) (s : Tables) :
    Tables × Outcome :=
  match assignmentEvent lib now ticketId payload data with
  | .error _ => (s, .raised)
  | .ok e =>
      let s := runOptional now (e.map assignmentWrite) s
      if (data.get "isOpen").isTrue then
        performTicket settings fresh now
          (createCall lib now event "ticket_reopened_event" ticketId payload data)
          (.ticketReopened ticketId) s
      else if (data.get "isOpen").isFalse then
        match nonEmptyString lib (data.get "protocol") with
        | none => (s, .answered 200 (.ignored "missing_protocol" (some ticketId)))
        | some protocol =>
            performTicket settings fresh now (closeCall lib now event ticketId protocol payload data)
              (.ticketClosed ticketId) s
      else (s, .answered 202 (.ticketUpdated ticketId))

/-- An event of a ticket. -/
def ticketEvent (event : String) (payload data : JsonObject) (s : Tables) : Tables × Outcome :=
  match (data.get "id").asText.filter (· != "") with
  | none => (s, .answered 200 (.ignored "missing_ticket_id" none))
  | some ticketId =>
      let s := runOptional now ((contactObservation lib now payload data).map contactWrite) s
      if event = "ticket.created" then
        performTicket settings fresh now
          (createCall lib now event "ticket_created_event" ticketId payload data)
          (.ticketCreated ticketId) s
      else ticketUpdated lib settings fresh now event ticketId payload data s

/-- The request for the sender of a message, with its time; what it raises is logged. -/
def senderRequest (message : DigisacMessage) : Option (String × Option Timestamp) :=
  match message.senderId, message.timestamp with
  | none, _ => none
  | some senderId, none => some (senderId, none)
  | some senderId, some timestamp =>
      match toUtc timestamp with
      | .ok requestedAt => some (senderId, some requestedAt)
      | .error _ => none

/-- The id of the message, if it is one that a media worker takes. -/
def mediaId (takes : DigisacMessage → Bool) (message : DigisacMessage) : Option String :=
  if takes message then message.messageId else none

/-- `message.message_type in AUDIO_MESSAGE_TYPES` -/
def takesAudio (message : DigisacMessage) : Bool :=
  message.type == .ptt || message.type == .audio || message.type == .voice

/-- `is_image_message(message.message_type, message.file)` -/
def takesImage (message : DigisacMessage) : Bool := isImageMessage message.type message.file

/-- The row was reserved. -/
def reserved (conversationId model : String) (messageId : Option String) (table : MediaTable) : Bool :=
  messageId.any fun id => ((reserve now conversationId model).perform (table id)).isSome

/-- A message that is processed. -/
def processMessage (payload : JsonObject) (message : DigisacMessage) (s : Tables) :
    Tables × Outcome :=
  let audioId := mediaId takesAudio message
  let imageId := mediaId takesImage message
  let s := runOptional now
    ((senderRequest message).map fun request => hydrationWrite request.1 request.2) s
  let transcriptionQueued := reserved now message.conversationId settings.audioModel audioId (s .audio)
  let s := runOptional now
    (audioId.map fun id => audioWrite id message.conversationId settings.audioModel) s
  let imageQueued := reserved now message.conversationId settings.imageModel imageId (s .images)
  let s := runOptional now
    (imageId.map fun id => imageWrite id message.conversationId settings.imageModel) s
  let eventId := generateEventId lib payload message
  ((ledgerWrite eventId).run now s,
    match recordWebhookEvent now eventId (s .ledger) with
    | .error _ => .raised
    | .ok (_, decision) =>
        .answered 202 (if decision.accepted then
          .received message.conversationId transcriptionQueued imageQueued
        else .duplicate message.conversationId))

/-- An event of a message. -/
def messageEvent (payload data : JsonObject) (s : Tables) : Tables × Outcome :=
  if isBot data then
    (s, .answered 200 (.ignored
      (if (data.get "isFromBot").isTrue then "is_from_bot" else "bot_origin_fallback") none))
  else
    match adapt lib payload data with
    | .error reason => (s, .answered 200 (.ignored reason none))
    | .ok message => processMessage lib settings now payload message s

def ticketEvents : List String := ["ticket.created", "ticket.updated"]

def messageEvents : List String := ["message.created", "message.updated"]

/-- `digisac_webhook` on the value of the body. -/
def digisacWebhook (body : Json) (s : Tables) : Tables × Outcome :=
  match body.asDict with
  | none => (s, .refused 400 "Webhook payload must be an object")
  | some payload =>
  match (payload.get "data").asDict with
  | none => (s, .refused 400 "Malformed Digisac payload: 'data' must be an object")
  | some data =>
      -- a list or a dictionary cannot be looked up in a set
      if !(payload.get "event").hashable then (s, .raised)
      else
        match (payload.get "event").asText with
        | some event =>
            if event ∈ ticketEvents then ticketEvent lib settings fresh now event payload data s
            else if event ∈ messageEvents then messageEvent lib settings now payload data s
            else (s, .answered 200 (.ignored "unsupported_event" none))
        | none => (s, .answered 200 (.ignored "unsupported_event" none))

/-! ## §4. The calls of a delivery. -/

/-- A call with its arguments. -/
inductive Call
  | contact (o : Observation)
  | assignment (e : AssignmentEvent)
  | ticket (call : TicketCall)
  | sender (request : String × Option Timestamp)
  | audio (messageId conversationId : String)
  | image (messageId conversationId : String)
  | event (digest : String)

/-- What a call writes. -/
def Call.write : Call → TableWrite
  | .contact o => contactWrite o
  | .assignment e => assignmentWrite e
  | .ticket call => ticketWrite settings.initialDelaySeconds fresh call
  | .sender request => hydrationWrite request.1 request.2
  | .audio messageId conversationId => audioWrite messageId conversationId settings.audioModel
  | .image messageId conversationId => imageWrite messageId conversationId settings.imageModel
  | .event digest => ledgerWrite digest

def cycleCalls (call : Except Raised TicketCall) : List Call :=
  match call with
  | .error _ => []
  | .ok call => [.ticket call]

def updatedCalls (event ticketId : String) (payload data : JsonObject) : List Call :=
  match assignmentEvent lib now ticketId payload data with
  | .error _ => []
  | .ok e =>
      (e.map Call.assignment).toList
        ++ if (data.get "isOpen").isTrue then
            cycleCalls (createCall lib now event "ticket_reopened_event" ticketId payload data)
          else if (data.get "isOpen").isFalse then
            match nonEmptyString lib (data.get "protocol") with
            | none => []
            | some protocol => cycleCalls (closeCall lib now event ticketId protocol payload data)
          else []

def ticketCalls (event : String) (payload data : JsonObject) : List Call :=
  match (data.get "id").asText.filter (· != "") with
  | none => []
  | some ticketId =>
      ((contactObservation lib now payload data).map Call.contact).toList
        ++ if event = "ticket.created" then
            cycleCalls (createCall lib now event "ticket_created_event" ticketId payload data)
          else updatedCalls lib now event ticketId payload data

def mediaCalls (payload : JsonObject) (message : DigisacMessage) : List Call :=
  ((senderRequest message).map Call.sender).toList
    ++ (((mediaId takesAudio message).map (Call.audio · message.conversationId)).toList
      ++ (((mediaId takesImage message).map (Call.image · message.conversationId)).toList
        ++ [.event (generateEventId lib payload message)]))

def messageCalls (payload data : JsonObject) : List Call :=
  if isBot data then []
  else
    match adapt lib payload data with
    | .error _ => []
    | .ok message => mediaCalls lib payload message

/-- The calls of a delivery, in their order. -/
def webhookCalls (body : Json) : List Call :=
  match body.asDict with
  | none => []
  | some payload =>
  match (payload.get "data").asDict with
  | none => []
  | some data =>
      match (payload.get "event").asText with
      | some event =>
          if event ∈ ticketEvents then ticketCalls lib now event payload data
          else if event ∈ messageEvents then messageCalls lib payload data
          else []
      | none => []

/-- The writes of a delivery. -/
def webhookWrites (body : Json) : List TableWrite :=
  (webhookCalls lib now body).map (Call.write settings fresh)

variable {lib settings fresh now} {s : Tables} {payload data : JsonObject} {event ticketId : String}

theorem runOptional_eq (write : Option TableWrite) (s : Tables) :
    runOptional now write s = runWrites now write.toList s := by
  cases write with
  | none => rfl
  | some write => rfl

theorem runWrites_append (ws ws' : List TableWrite) (s : Tables) :
    runWrites now (ws ++ ws') s = runWrites now ws' (runWrites now ws s) := List.foldl_append

/-- An optional call, as a list of calls. -/
theorem runOptional_map {α : Type} (a : Option α) {f : α → TableWrite} {g : α → Call}
    (hfg : ∀ a, f a = (g a).write settings fresh) (s : Tables) :
    runOptional now (a.map f) s
      = runWrites now ((a.map g).toList.map (Call.write settings fresh)) s := by
  rw [runOptional_eq]
  cases a with
  | none => rfl
  | some a =>
      show runWrites now [f a] s = runWrites now [(g a).write settings fresh] s
      rw [hfg]

theorem performTicket_tables (call : Except Raised TicketCall) (body : Nat → Bool → Body) :
    (performTicket settings fresh now call body s).1
      = runWrites now ((cycleCalls call).map (Call.write settings fresh)) s := by
  cases call with
  | error e => rfl
  | ok call => rfl

theorem ticketUpdated_tables :
    (ticketUpdated lib settings fresh now event ticketId payload data s).1
      = runWrites now ((updatedCalls lib now event ticketId payload data).map
          (Call.write settings fresh)) s := by
  unfold ticketUpdated updatedCalls
  cases assignmentEvent lib now ticketId payload data with
  | error e => rfl
  | ok e =>
      dsimp only
      rw [List.map_append, runWrites_append,
        ← @runOptional_map settings fresh now _ e assignmentWrite Call.assignment (fun _ => rfl) s]
      by_cases hopened : (data.get "isOpen").isTrue = true
      · rw [if_pos hopened, if_pos hopened]
        exact performTicket_tables _ _
      · rw [if_neg hopened, if_neg hopened]
        by_cases hclosed : (data.get "isOpen").isFalse = true
        · rw [if_pos hclosed, if_pos hclosed]
          cases nonEmptyString lib (data.get "protocol") with
          | none => rfl
          | some protocol => exact performTicket_tables _ _
        · rw [if_neg hclosed, if_neg hclosed]
          rfl

theorem ticketEvent_tables :
    (ticketEvent lib settings fresh now event payload data s).1
      = runWrites now ((ticketCalls lib now event payload data).map (Call.write settings fresh)) s := by
  unfold ticketEvent ticketCalls
  cases (data.get "id").asText.filter (· != "") with
  | none => rfl
  | some ticketId =>
      dsimp only
      rw [List.map_append, runWrites_append,
        ← @runOptional_map settings fresh now _ _ contactWrite Call.contact (fun _ => rfl) s]
      by_cases hcreated : event = "ticket.created"
      · rw [if_pos hcreated, if_pos hcreated]
        exact performTicket_tables _ _
      · rw [if_neg hcreated, if_neg hcreated]
        exact ticketUpdated_tables

/-- The three optional calls of a message. -/
theorem runOptional_sender (message : DigisacMessage) (s : Tables) :
    runOptional now ((senderRequest message).map fun request => hydrationWrite request.1 request.2) s
      = runWrites now (((senderRequest message).map Call.sender).toList.map
          (Call.write settings fresh)) s :=
  @runOptional_map settings fresh now _ _ _ Call.sender (fun _ => rfl) s

theorem runOptional_audio (audioId : Option String) (conversationId : String) (s : Tables) :
    runOptional now (audioId.map fun id => audioWrite id conversationId settings.audioModel) s
      = runWrites now ((audioId.map (Call.audio · conversationId)).toList.map
          (Call.write settings fresh)) s :=
  @runOptional_map settings fresh now _ _ _ (Call.audio · conversationId) (fun _ => rfl) s

theorem runOptional_image (imageId : Option String) (conversationId : String) (s : Tables) :
    runOptional now (imageId.map fun id => imageWrite id conversationId settings.imageModel) s
      = runWrites now ((imageId.map (Call.image · conversationId)).toList.map
          (Call.write settings fresh)) s :=
  @runOptional_map settings fresh now _ _ _ (Call.image · conversationId) (fun _ => rfl) s

theorem messageEvent_tables :
    (messageEvent lib settings now payload data s).1
      = runWrites now ((messageCalls lib payload data).map (Call.write settings fresh)) s := by
  unfold messageEvent messageCalls
  by_cases hbot : isBot data = true
  · rw [if_pos hbot, if_pos hbot]
    rfl
  · rw [if_neg hbot, if_neg hbot]
    cases adapt lib payload data with
    | error reason => rfl
    | ok message =>
        unfold mediaCalls
        dsimp only
        rw [List.map_append, List.map_append, List.map_append, runWrites_append, runWrites_append,
          runWrites_append, ← runOptional_sender, ← runOptional_audio, ← runOptional_image]
        rfl

/-- **A delivery leaves what its writes leave.** -/
theorem digisacWebhook_tables (body : Json) :
    (digisacWebhook lib settings fresh now body s).1
      = runWrites now (webhookWrites lib settings fresh now body) s := by
  unfold digisacWebhook webhookWrites webhookCalls
  cases body.asDict with
  | none => rfl
  | some payload =>
      dsimp only
      cases (payload.get "data").asDict with
      | none => rfl
      | some data =>
          dsimp only
          cases htext : (payload.get "event").asText with
          | none =>
              split
              next => rfl
              next => rfl
          | some event =>
              -- a text can be looked up in a set
              rw [Json.asText_eq_some_iff.mp htext]
              have hhash : (!(Json.str event).hashable) = false := rfl
              rw [hhash, if_neg Bool.false_ne_true]
              dsimp only [Json.asText]
              by_cases hticket : event ∈ ticketEvents
              · rw [if_pos hticket, if_pos hticket]
                exact ticketEvent_tables
              · rw [if_neg hticket, if_neg hticket]
                by_cases hmessage : event ∈ messageEvents
                · rw [if_pos hmessage, if_pos hmessage]
                  exact messageEvent_tables
                · rw [if_neg hmessage, if_neg hmessage]
                  rfl

/-! ## §5. The tables of a delivery. -/

def ticketParts : List Part := [.contacts, .assignments, .cycles]

def messageParts : List Part := [.contacts, .audio, .images, .ledger]

/-- The tables that an event can change. -/
def eventParts (body : Json) : List Part :=
  match (body.asDict.getD []).get "event" with
  | .str event =>
      if event ∈ ticketEvents then ticketParts else if event ∈ messageEvents then messageParts else []
  | _ => []

/-- The table of a call. -/
def Call.part : Call → Part
  | .contact _ => .contacts
  | .assignment _ => .assignments
  | .ticket _ => .cycles
  | .sender _ => .contacts
  | .audio .. => .audio
  | .image .. => .images
  | .event _ => .ledger

theorem part_write (call : Call) : (call.write settings fresh).part = call.part := by
  cases call <;> rfl

theorem parts_optional {α : Type} {f : α → Call} {part : Part} (h : ∀ a, (f a).part = part)
    (a : Option α) : ((a.map f).toList.map Call.part).Sublist [part] := by
  cases a with
  | none => exact List.nil_sublist _
  | some a =>
      show [(f a).part].Sublist [part]
      rw [h a]

theorem parts_cycleCalls (call : Except Raised TicketCall) :
    ((cycleCalls call).map Call.part).Sublist [.cycles] := by
  cases call with
  | error e => exact List.nil_sublist _
  | ok call => exact List.Sublist.refl _

theorem parts_ticketCalls :
    ((ticketCalls lib now event payload data).map Call.part).Sublist ticketParts := by
  unfold ticketCalls
  split
  next => exact List.nil_sublist _
  next ticketId _ =>
    rw [List.map_append]
    refine (@parts_optional _ Call.contact .contacts (fun _ => rfl) _).append ?_
    split
    next => exact (parts_cycleCalls _).cons _
    next =>
      unfold updatedCalls
      split
      next => exact List.nil_sublist _
      next e _ =>
        rw [List.map_append]
        refine (@parts_optional _ Call.assignment .assignments (fun _ => rfl) _).append ?_
        split
        next => exact parts_cycleCalls _
        next =>
          split
          next =>
            split
            next => exact List.nil_sublist _
            next => exact parts_cycleCalls _
          next => exact List.nil_sublist _

theorem parts_messageCalls :
    ((messageCalls lib payload data).map Call.part).Sublist messageParts := by
  unfold messageCalls
  split
  next => exact List.nil_sublist _
  next =>
    split
    next => exact List.nil_sublist _
    next message _ =>
      unfold mediaCalls
      rw [List.map_append, List.map_append, List.map_append]
      have hsender := @parts_optional _ Call.sender .contacts (fun _ => rfl) (senderRequest message)
      have haudio := @parts_optional _ (Call.audio · message.conversationId) .audio (fun _ => rfl)
        (mediaId takesAudio message)
      have himages := @parts_optional _ (Call.image · message.conversationId) .images (fun _ => rfl)
        (mediaId takesImage message)
      exact hsender.append (haudio.append (himages.append (List.Sublist.refl [Part.ledger])))

theorem parts_webhookCalls (body : Json) :
    ((webhookCalls lib now body).map Call.part).Sublist (eventParts body) := by
  unfold webhookCalls eventParts
  cases body.asDict with
  | none => exact List.nil_sublist _
  | some payload =>
      dsimp only [Option.getD_some]
      cases (payload.get "data").asDict with
      | none => exact List.nil_sublist _
      | some data =>
          dsimp only
          cases htext : (payload.get "event").asText with
          | none => exact List.nil_sublist _
          | some event =>
              rw [Json.asText_eq_some_iff.mp htext]
              dsimp only
              split
              next => exact parts_ticketCalls
              next =>
                split
                next => exact parts_messageCalls
                next => exact List.Sublist.refl _

/-- The writes of an event are writes of its tables, each of another one. -/
theorem parts_webhookWrites (body : Json) :
    ((webhookWrites lib settings fresh now body).map (·.part)).Sublist (eventParts body) := by
  have hparts : (webhookWrites lib settings fresh now body).map (·.part)
      = (webhookCalls lib now body).map Call.part := by
    unfold webhookWrites
    rw [List.map_map]
    exact List.map_congr_left fun call _ => part_write call
  rw [hparts]
  exact parts_webhookCalls body

theorem webhookWrites_parts (body : Json) :
    ((webhookWrites lib settings fresh now body).map (·.part)).Nodup := by
  have hparts : (eventParts body).Nodup := by
    unfold eventParts
    split
    next => split <;> [decide; (split <;> decide)]
    next => exact List.nodup_nil
  exact (parts_webhookWrites body).nodup hparts

/-- **An event changes its own tables only.** -/
theorem webhook_frame (body : Json) {part : Part} (h : part ∉ eventParts body) :
    (digisacWebhook lib settings fresh now body s).1 part = s part := by
  rw [digisacWebhook_tables]
  exact runWrites_of_not_mem fun hmem => h ((parts_webhookWrites body).subset hmem)

end Cai.Webhook
