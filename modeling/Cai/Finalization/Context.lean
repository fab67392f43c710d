/-
  Cai.Finalization.Context — media states, rendering and chunking.

  `apply_media_states`, `render_context`, `estimate_tokens` and
  `chunk_messages` of `src/core/finalization.py`.  The display clock (the
  zone database) and the quote limit are parameters of the rendering.

  Main result: `applyMediaStates_evidence`, what a message list with
  nothing pending and nothing blocked looks like.
-/
import Mathlib.Data.List.Dedup
import Cai.Media.Repository
import Cai.Finalization.History

namespace Cai.Finalization

open Cai.Lib
open Cai.Cycle (Timestamp MessageType Message MediaStatus Reduction)
open Cai.Media (ContentStatus MediaRow)

/-! ## §1. Media states. -/

/-- The two media tables. -/
inductive MediaKind
  | audio
  | image
  deriving DecidableEq, Repr

/-- One entry of `get_content_states`. -/
structure ContentState where
  kind : MediaKind
  status : ContentStatus
  text : Option String
  attemptCount : Nat
  nextAttemptAt : Option Timestamp
  deriving DecidableEq, Repr

/-- `states`: the entry of a message id. -/
abbrev ContentStates := String → Option ContentState

/-- The entry for a row of the table `kind`. -/
def contentState (kind : MediaKind) (r : MediaRow) : ContentState :=
  { kind, status := r.status, text := r.text, attemptCount := r.attemptCount
    nextAttemptAt := r.nextAttemptAt }

/-- The SELECT of `_get_content_states_sync` on one table. -/
def readStates (kind : MediaKind) (table : String → Option MediaRow) (ids : List String) :
    ContentStates :=
  fun id => if id ∈ ids then (table id).map (contentState kind) else none

/-- The rows of the second table overwrite those of the first. -/
def mergeStates (audio image : ContentStates) : ContentStates := fun id => (image id).or (audio id)

/-- A message with an audio or an image. -/
def isMedia (m : Message) : Bool := m.type.isAudio || isImageMessage m.type m.file

/-- `audio_ids` -/
def audioIds (messages : List Message) : List String :=
  (messages.filter (·.type.isAudio)).map (·.messageId)

/-- `image_ids` -/
def imageIds (messages : List Message) : List String :=
  (messages.filter fun m => isImageMessage m.type m.file).map (·.messageId)

def mediaStatus : ContentStatus → MediaStatus
  | .pending => .pending
  | .processing => .processing
  | .completed => .completed
  | .failed => .failed

/-- A message with the state of its media. -/
def hydrate (states : ContentStates) (m : Message) : Message :=
  if isMedia m then
    match states m.messageId with
    | none => { m with mediaStatus := some .missing }
    | some state =>
        let m := { m with mediaStatus := some (mediaStatus state.status) }
        if state.status = .completed then
          { m with content := (state.text.map Text.strip).getD "" }
        else m
  else m

/-- Whether the message goes to `pending`. -/
def isPending (states : ContentStates) (maxAttempts : Nat) (m : Message) : Bool :=
  isMedia m && match states m.messageId with
    | none => true
    | some state =>
        match state.status with
        | .completed => (state.text.map Text.strip).getD "" == ""
        | .pending | .processing => true
        | .failed => decide (state.attemptCount < maxAttempts)

/-- Whether the message goes to `blocked`. -/
def isBlocked (states : ContentStates) (maxAttempts : Nat) (m : Message) : Bool :=
  isMedia m && (states m.messageId).any fun state =>
    state.status == .failed && decide (maxAttempts ≤ state.attemptCount)

/-- What `apply_media_states` returns; it never warns. -/
structure MediaApplied where
  hydrated : List Message
  pending : List String
  blocked : List String
  deriving DecidableEq, Repr

/-- `apply_media_states` -/
def applyMediaStates (messages : List Message) (states : ContentStates) (maxAttempts : Nat) :
    MediaApplied :=
  { hydrated := messages.map (hydrate states)
    pending := ((messages.filter (isPending states maxAttempts)).map (·.messageId)).dedup
    blocked := ((messages.filter (isBlocked states maxAttempts)).map (·.messageId)).dedup }

@[simp] theorem hydrate_messageId (states : ContentStates) (m : Message) :
    (hydrate states m).messageId = m.messageId := by
  unfold hydrate
  repeat' split
  all_goals rfl

@[simp] theorem hydrate_type (states : ContentStates) (m : Message) :
    (hydrate states m).type = m.type := by
  unfold hydrate
  repeat' split
  all_goals rfl

@[simp] theorem hydrate_file (states : ContentStates) (m : Message) :
    (hydrate states m).file = m.file := by
  unfold hydrate
  repeat' split
  all_goals rfl

/-- A completed entry whose stripped text is not blank, and is `content`. -/
structure ContentState.Evidence (state : ContentState) (content : String) : Prop where
  completed : state.status = .completed
  text : ∃ text, state.text = some text ∧ Text.strip text ≠ "" ∧ content = Text.strip text

/-- A media message that is neither pending nor blocked is hydrated from evidence. -/
theorem hydrate_evidence {states : ContentStates} {maxAttempts : Nat} {m : Message}
    (hmedia : isMedia m = true) (hpending : isPending states maxAttempts m = false)
    (hblocked : isBlocked states maxAttempts m = false) :
    ∃ state, states m.messageId = some state ∧ state.Evidence (hydrate states m).content := by
  unfold isPending at hpending
  unfold isBlocked at hblocked
  rw [hmedia, Bool.true_and] at hpending hblocked
  cases hstate : states m.messageId with
  | none => simp [hstate] at hpending
  | some state =>
      refine ⟨state, rfl, ?_⟩
      rw [hstate] at hpending hblocked
      unfold hydrate
      rw [if_pos hmedia, hstate]
      cases hstatus : state.status with
      | pending => simp [hstatus] at hpending
      | processing => simp [hstatus] at hpending
      | failed =>
          -- failed entries are pending below the limit and blocked from it on
          simp [hstatus] at hpending hblocked
          omega
      | completed =>
          simp only [hstatus, beq_eq_false_iff_ne, ne_eq] at hpending
          simp only [hstatus, if_true]
          cases htext : state.text with
          | none => simp [htext] at hpending
          | some text =>
              rw [htext] at hpending
              exact ⟨hstatus, text, htext, hpending, rfl⟩

/-- **The media gate on one reading of the tables**: with nothing pending and
    nothing blocked, every media message is hydrated from evidence. -/
theorem applyMediaStates_evidence {messages : List Message} {states : ContentStates}
    {maxAttempts : Nat} (hpending : (applyMediaStates messages states maxAttempts).pending = [])
    (hblocked : (applyMediaStates messages states maxAttempts).blocked = []) :
    ∀ m ∈ (applyMediaStates messages states maxAttempts).hydrated, isMedia m = true →
      ∃ state, states m.messageId = some state ∧ state.Evidence m.content := by
  intro m hm hmedia
  obtain ⟨m₀, hm₀, rfl⟩ := List.mem_map.mp hm
  have hempty {p : Message → Bool} (h : ((messages.filter p).map (·.messageId)).dedup = []) :
      p m₀ = false := by
    rw [List.dedup_eq_nil, List.map_eq_nil_iff, List.filter_eq_nil_iff] at h
    simpa using h m₀ hm₀
  have hmedia₀ : isMedia m₀ = true := by simpa [isMedia] using hmedia
  rw [hydrate_messageId]
  exact hydrate_evidence hmedia₀ (hempty hpending) (hempty hblocked)

/-! ## §2. Rendering. -/

/-- What the rendering takes from the settings and the zone database. -/
structure Display where
  /-- `strftime('%d/%m/%Y %H:%M:%S %z')` in the display zone. -/
  clock : Timestamp → String
  quotedMessageMaxChars : Nat

/-- `value or 'NÃO INFORMADO'` -/
def orUnknown (value : String) : String := if value = "" then "NÃO INFORMADO" else value

/-- `_quote_excerpt` -/
def quoteExcerpt (display : Display) (m : Message) : String :=
  let content := Text.strip m.content
  let text := if content = "" then "mensagem " ++ m.type.name else content
  let text := String.ofList (Text.collapseSpace text.toList)
  if text.length ≤ display.quotedMessageMaxChars then text
  else Text.rstrip (Text.slice (max 1 (display.quotedMessageMaxChars - 1)) text) ++ "…"

/-- The line that quotes another message of the list. -/
def quoteLine (display : Display) (messages : List Message) (m : Message) : String :=
  match m.quotedMessageId with
  | none => ""
  | some quotedId =>
      if quotedId = "" then ""
      else
        -- the last message of that id: the dictionary keeps one entry per id
        let excerpt := match messages.reverse.find? (·.messageId == quotedId) with
          | some quoted => quoteExcerpt display quoted
          | none => "mensagem citada indisponível"
        "[EM RESPOSTA A: “" ++ excerpt ++ "”]\n"

/-- The label and the text of a message. -/
def labelAndText (m : Message) : String × String :=
  let role := if m.senderType = .agent then "ATENDENTE" else "CLIENTE"
  let label := role ++ ((m.senderName.filter (· ≠ "")).map (" — " ++ ·)).getD ""
  let text := Text.strip m.content
  if isImageMessage m.type m.file then
    (label ++ " — IMAGEM ANALISADA", if text = "" then "[" ++ role ++ " ENVIOU UMA IMAGEM]" else text)
  else if m.type = .document then
    (label ++ " — DOCUMENTO",
      match m.file.name.or m.file.publicFilename with
      | some filename => "[" ++ role ++ " ENVIOU O DOCUMENTO: " ++ filename ++ "]"
      | none => "[" ++ role ++ " ENVIOU UM DOCUMENTO]")
  else if m.type.isAudio then
    (label ++ " — ÁUDIO TRANSCRITO", if text = "" then "[" ++ role ++ " ENVIOU UM ÁUDIO]" else text)
  else (label, text)

/-- The block of a message; `none` for an empty text. -/
def renderMessage (display : Display) (messages : List Message) (m : Message) : Option String :=
  let (label, text) := labelAndText m
  if text = "" then none
  else some ("[" ++ display.clock m.timestamp ++ "] " ++ label ++ "\n"
    ++ quoteLine display messages m ++ text)

/-- `render_context` -/
def renderContext (display : Display) (ticketId : String) (protocol : Option String)
    (departments agents : List String) (messages : List Message)
    (includeAdministrativeNames : Bool) : String :=
  let headers := ["PROTOCOLO: " ++ orUnknown (protocol.getD ""), "TICKET_ID: " ++ ticketId]
    ++ if includeAdministrativeNames then
        ["DEPARTAMENTOS: " ++ orUnknown (", ".intercalate departments),
         "ATENDENTES: " ++ orUnknown (", ".intercalate agents)]
      else []
  "\n".intercalate headers ++ "\n\n"
    ++ "\n\n".intercalate (messages.filterMap (renderMessage display messages))

/-! ## §3. Chunks. -/

/-- `estimate_tokens`: a third of the UTF-8 length, rounded up. -/
def estimateTokens (text : String) : Nat := (text.utf8ByteSize + 2) / 3

/-- The cost of a message in `chunk_messages`. -/
def messageCost (m : Message) : Nat := estimateTokens m.content + 40

/-- `chunk_messages`, with the chunk that is being filled. -/
def chunkFrom (tokenLimit : Nat) : List Message → Nat → List Message → List (List Message)
  | current, _, [] => if current.isEmpty then [] else [current]
  | current, tokens, m :: rest =>
      if !current.isEmpty && tokenLimit < tokens + messageCost m then
        current :: chunkFrom tokenLimit [m] (messageCost m) rest
      else chunkFrom tokenLimit (current ++ [m]) (tokens + messageCost m) rest

/-- `chunk_messages` -/
def chunkMessages (tokenLimit : Nat) (messages : List Message) : List (List Message) :=
  chunkFrom tokenLimit [] 0 messages

/-- The block of a summary in the reduced context. -/
def summaryBlock (r : Reduction) : String :=
  "BLOCO " ++ toString r.chunk ++ " (" ++ r.messageIds.headD "" ++ ".."
    ++ r.messageIds.getLastD "" ++ "):\n" ++ r.summary

/-- The reductions of the chunks, numbered from 1. -/
def reductionsOf (chunks : List (List Message)) (summaries : List String) : List Reduction :=
  (chunks.zip summaries).zipIdx.map fun ((chunk, summary), i) =>
    { chunk := i + 1, messageIds := chunk.map (·.messageId), summary }

/-- The model context made of summaries. -/
def reducedContext (ticketId : String) (protocol : Option String) (reductions : List Reduction) :
    String :=
  "PROTOCOLO: " ++ orUnknown (protocol.getD "") ++ "\nTICKET_ID: " ++ ticketId ++ "\n\n"
    ++ "\n\n".intercalate (reductions.map summaryBlock)

end Cai.Finalization
