/-
  Cai.Worker.Pass — passes of the IA worker over one cycle.

  `_process_cycle`, `_record_cycle_failure` and
  `_prepare_and_create_request` of `src/workers/ia_worker.py`, cut at their
  database calls: a program counter stands before each call, with the local
  variables that are still used.  The eight calls of `transition_cycle` are
  one function of the program counter (`PC.transition`).

  Any number of workers run passes over the cycle; leases expire, calls
  fail and workers crash anywhere.  Webhooks and media workers change the
  media tables at any time.  What other cycles and services answer (the
  ticket history, names, conflicts, the model) is part of the action.
-/
import Cai.Lib.Transition
import Cai.Finalization.Context
import Cai.Mapping.Evaluation

namespace Cai.Worker

open Cai.Lib
open Cai.Cycle Cai.Media Cai.Finalization
open Cai.Mapping (ResolutionState MappingState)

/-! ## §1. Settings and tables. -/

/-- A worker process, with one pass at a time. -/
abbrev WorkerId := Nat

/-- What the passes take from the settings; intervals in microseconds. -/
structure Settings where
  owner : WorkerId → String
  leaseSeconds : Nat
  maxRetries : Nat
  mediaStatusRecheck : Nat
  contextSafeInputTokens : Nat
  contextChunkTokens : Nat
  audioModel : String
  imageModel : String
  display : Display

/-- A row of `conversation_cycle_messages`. -/
structure CycleMessage where
  messageId : String
  position : Nat
  messageType : MessageType
  messageTimestamp : Timestamp
  deriving DecidableEq, Repr

/-- What `save_cycle_messages` leaves and returns. -/
structure SavedMessages where
  rows : List CycleMessage
  accepted : List String
  conflicts : List String
  deriving DecidableEq, Repr

/-- INSERT … ON CONFLICT (cycle_id, message_id) DO UPDATE. -/
def upsertMessage (rows : List CycleMessage) (row : CycleMessage) : List CycleMessage :=
  if rows.any (·.messageId == row.messageId) then
    Table.update (·.messageId == row.messageId) (fun _ => row) rows
  else Table.insert rows row

/-- `_save_cycle_messages_sync`: the rows of the cycle are deleted first;
    `ownedElsewhere` are the messages of other cycles. -/
def saveCycleMessages (ownedElsewhere : List String) (messages : List Message) : SavedMessages :=
  { rows := messages.zipIdx.foldl (fun rows (m, position) =>
      if m.messageId ∈ ownedElsewhere then rows
      else upsertMessage rows ⟨m.messageId, position, m.type, m.timestamp⟩) []
    accepted := (messages.map (·.messageId)).filter (· ∉ ownedElsewhere)
    conflicts := (messages.map (·.messageId)).filter (· ∈ ownedElsewhere) }

/-- A row of `ia_classifications`, under the key of the cycle. -/
structure Classification where
  id : Nat
  messageIds : List String
  fullContext : String
  deriving DecidableEq, Repr

/-! ## §2. The parts of a pass. -/

/-- `snapshot` after the recovery of the history. -/
def recoveredSnapshot (claimed : CycleRow) (closedAt : Timestamp) (history : DigisacHistory)
    (normalized : NormalizedHistory) (messages : List Message) (conflicts : List String)
    (departments agents : List String) : Snapshot :=
  { cycleId := claimed.publicId, ticketId := claimed.conversationId, protocol := claimed.protocol
    cycleStartedAt := normalized.cycleStartedAt, ticketClosedAt := closedAt
    cycleStartStrategy := normalized.cycleStartStrategy, departments, agents, messages
    warnings := normalized.warnings
      ++ conflicts.map fun id => { code := "message_owned_by_other_cycle", messageId := some id }
    filterSummary := normalized.exclusionCounts
    historyRecovery := some
      { attemptCount := claimed.historyRecoveryAttempt + 1, pageCount := history.pageCount
        total := history.total, duplicateCount := history.duplicateCount, complete := true } }

/-- `message["sender_name"] = user_names.get(str(sender_id))` -/
def nameSender (userNames : List (String × String)) (m : Message) : Message :=
  match m.senderType, m.senderId with
  | .agent, some senderId => if senderId = "" then m else { m with senderName := userNames.lookup senderId }
  | _, _ => m

/-- The messages that `_ensure_media_jobs` reserves. -/
def mediaJobs (maxRetries : Nat) (states : ContentStates) (messages : List Message) : List Message :=
  messages.filter fun m => isMedia m && !(states m.messageId).any fun state =>
    state.status != .failed || decide (maxRetries ≤ state.attemptCount)

/-- `_media_wait_fingerprint` -/
def mediaWaitFingerprint (ids : List String) (states : ContentStates) : List MediaFingerprint :=
  (ids.insertionSort (· ≤ ·)).map fun id =>
    { messageId := id, status := ((states id).map fun st => mediaStatus st.status).getD .missing
      attemptCount := ((states id).map (·.attemptCount)).getD 0 }

/-- `_next_media_check_at` -/
def nextMediaCheckAt (settings : Settings) (now : Timestamp) (pending : List String)
    (states : ContentStates) : Timestamp :=
  let fallback := now + settings.mediaStatusRecheck
  let scheduled := pending.map fun id => ((states id).bind (·.nextAttemptAt)).filter (now < ·)
  let candidates := scheduled.filterMap id
  if scheduled.any Option.isNone || candidates.isEmpty then candidates.foldr min fallback
  else candidates.foldr min (candidates.headD fallback)

/-- `states.get(message_id, {}).get('kind', 'media')` -/
def kindName : Option ContentState → String
  | some { kind := .audio, .. } => "audio"
  | some { kind := .image, .. } => "image"
  | none => "media"

/-- The message of a blocked cycle. -/
def blockedMessage (ids : List String) (states : ContentStates) : String :=
  "media extraction requires intervention: "
    ++ ",".intercalate ((ids.insertionSort (· ≤ ·)).map fun id => kindName (states id) ++ ":" ++ id)

/-- How a pass fails: a transient provider error, or any other. -/
inductive Failure
  | transient (error : String) (notBefore : Timestamp)
  | other (error : String) (notBefore : Timestamp)
  deriving DecidableEq, Repr

/-- What a pass classifies: the snapshot with its hydrated messages, and the
    context that was built from them. -/
structure Judgement where
  snapshot : Snapshot
  reductionApplied : Bool
  reductions : List Reduction
  modelContext : String
  deriving DecidableEq, Repr

/-- The snapshot once nothing is pending and nothing blocked. -/
def hydratedSnapshot (snapshot : Snapshot) (hydrated : List Message) : Snapshot :=
  { snapshot with mediaWait := none, messages := hydrated }

/-- A context of the snapshot, with or without administrative names. -/
def contextOf (settings : Settings) (claimed : CycleRow) (snapshot : Snapshot) (names : Bool) :
    String :=
  renderContext settings.display claimed.conversationId claimed.protocol snapshot.departments
    snapshot.agents snapshot.messages names

/-- The judgement of a context that is short enough. -/
def fullJudgement (settings : Settings) (claimed : CycleRow) (snapshot : Snapshot) : Judgement :=
  { snapshot, reductionApplied := false, reductions := []
    modelContext := contextOf settings claimed snapshot false }

/-- The judgement of a context reduced to the summaries of its chunks. -/
def reducedJudgement (settings : Settings) (claimed : CycleRow) (snapshot : Snapshot)
    (summaries : List String) : Judgement :=
  let reductions := reductionsOf (chunkMessages settings.contextChunkTokens snapshot.messages) summaries
  { snapshot, reductionApplied := true, reductions
    modelContext := reducedContext claimed.conversationId claimed.protocol reductions }

/-- Whether the context has to be reduced. -/
def needsReduction (settings : Settings) (modelContext : String) : Bool :=
  decide (settings.contextSafeInputTokens < estimateTokens modelContext)

/-- `snapshot["warnings"]` of a cycle without messages. -/
def warnEmpty (snapshot : Snapshot) : Snapshot :=
  if snapshot.messages.isEmpty then
    { snapshot with warnings := snapshot.warnings ++ [{ code := "no_classifiable_messages" }] }
  else snapshot

/-! ## §3. The transitions. -/

/-- The fields that end a lease. -/
def CycleFields.released (f : CycleFields) (nextAttemptAt : Option Timestamp) : CycleFields :=
  { f with nextAttemptAt := some nextAttemptAt, leaseOwner := some none, leaseExpiresAt := some none }

/-- To `recovering_messages`. -/
def recoveringTransition (claimed : CycleRow) : Transition :=
  { status := .recoveringMessages
    expectedStatuses := [.pending, .retryableFailure, .recoveringMessages]
    fields := { historyRecoveryAttempt := some (claimed.historyRecoveryAttempt + 1)
                errorPhase := some none, errorMessage := some none } }

/-- To `building_context`. -/
def buildingTransition (snapshot : Snapshot) : Transition :=
  { status := .buildingContext, expectedStatuses := [.recoveringMessages]
    fields := { cycleStartedAt := some (some snapshot.cycleStartedAt)
                cycleStartStrategy := some snapshot.cycleStartStrategy
                snapshotJson := some (some snapshot), warningCount := some snapshot.warnings.length
                historyPageCount := snapshot.historyRecovery.map (·.pageCount) } }

/-- The statuses from which a pass may wait for media. -/
def beforeMedia : List Status := [.buildingContext, .waitingMedia, .retryableFailure]

/-- To `media_blocked`. -/
def blockedTransition (now : Timestamp) (snapshot : Snapshot) (blocked : List String)
    (states : ContentStates) : Transition :=
  { status := .mediaBlocked, expectedStatuses := beforeMedia
    fields := CycleFields.released
      { snapshotJson := some (some { snapshot with
          mediaWait := some ⟨true, mediaWaitFingerprint blocked states, none, now⟩ })
        enqueuedAt := some none, errorPhase := some (some "media")
        errorMessage := some (some (blockedMessage blocked states)) } none }

/-- To `waiting_media`. -/
def waitingTransition (settings : Settings) (now : Timestamp) (snapshot : Snapshot)
    (pending : List String) (states : ContentStates) : Transition :=
  let notBefore := nextMediaCheckAt settings now pending states
  { status := .waitingMedia, expectedStatuses := beforeMedia
    fields := CycleFields.released
      { snapshotJson := some (some { snapshot with
          mediaWait := some ⟨false, mediaWaitFingerprint pending states, some notBefore, now⟩ })
        enqueuedAt := some none } (some notBefore) }

/-- To `summarizing`, from any status. -/
def summarizingTransition (snapshot : Snapshot) : Transition :=
  { status := .summarizing, fields := { snapshotJson := some (some snapshot) } }

/-- To `classifying`, from any status. -/
def classifyingTransition (rendered : String) (j : Judgement) : Transition :=
  { status := .classifying
    fields := { snapshotJson := some (some j.snapshot), renderedContext := some (some rendered)
                modelContext := some (some j.modelContext)
                contextReductionApplied := some j.reductionApplied
                contextReductionJson := some j.reductions
                warningCount := some j.snapshot.warnings.length } }

/-- `final_status` -/
def finalStatus (snapshot : Snapshot) : Status :=
  if snapshot.warnings.isEmpty then .completed else .completedWithWarnings

/-- To the final status. -/
def finalTransition (now : Timestamp) (processingMs : Nat) (snapshot : Snapshot)
    (classificationId : Nat) : Transition :=
  { status := finalStatus snapshot, expectedStatuses := [.classifying]
    fields := CycleFields.released
      { classificationId := some (some classificationId), snapshotJson := some (some snapshot)
        warningCount := some snapshot.warnings.length, processingTimeMs := some (some processingMs)
        completedAt := some (some now) } none }

/-- The transitions of `_record_cycle_failure`, from any status. -/
def failureTransition (settings : Settings) (now : Timestamp) (claimed : CycleRow) :
    Failure → Transition
  | .transient error notBefore =>
      { status := .retryableFailure
        fields := CycleFields.released
          { transientRetryCount := some (claimed.transientRetryCount + 1)
            errorPhase := some (some claimed.status.name), errorMessage := some (some error)
            enqueuedAt := some none } (some notBefore) }
  | .other error notBefore =>
      let attempt := claimed.attemptCount + 1
      if settings.maxRetries ≤ attempt then
        { status := .failed
          fields := CycleFields.released
            { attemptCount := some attempt, errorPhase := some (some claimed.status.name)
              errorMessage := some (some error), completedAt := some (some now) } none }
      else
        { status := .retryableFailure
          fields := CycleFields.released
            { attemptCount := some attempt, errorPhase := some (some claimed.status.name)
              errorMessage := some (some error), enqueuedAt := some none } (some notBefore) }

/-! ## §4. Program counters. -/

/-- Where a pass stands: before which call, with which local variables. -/
inductive PC
  | toRecovering
  /-- `_recover_history` and `get_previous_cycle` -/
  | recoverHistory
  | saveMessages (closedAt : Timestamp) (history : DigisacHistory) (normalized : NormalizedHistory)
  /-- `_resolve_assignment_names` and `resolve_user_names` -/
  | resolveNames (closedAt : Timestamp) (history : DigisacHistory) (normalized : NormalizedHistory)
      (messages : List Message) (conflicts : List String)
  | toBuilding (snapshot : Snapshot)
  /-- `get_content_states`: the transcriptions are read first; `again` marks the second call. -/
  | readAudio (again : Bool) (snapshot : Snapshot)
  | readImages (again : Bool) (snapshot : Snapshot) (audio : ContentStates)
  /-- `_ensure_media_jobs` -/
  | reserveMedia (snapshot : Snapshot) (jobs : List Message)
  | toBlocked (snapshot : Snapshot) (blocked : List String) (states : ContentStates)
  | toWaiting (snapshot : Snapshot) (pending : List String) (states : ContentStates)
  | toSummarizing (snapshot : Snapshot)
  | summarize (snapshot : Snapshot)
  | toClassifying (j : Judgement)
  | analyze (j : Judgement)
  | insertClassification (j : Judgement)
  | toFinal (j : Judgement) (classificationId : Nat)
  /-- `_load_cycle_contact` -/
  | loadContact
  | resolveIdentity (contactId : Nat)
  | evaluateMapping
  /-- `_ensure_operation_sync` -/
  | ensureOperation
  | recordFailure (failure : Failure)

/-- The pass works on the Request of the finished cycle. -/
def PC.isRequest : PC → Bool
  | .loadContact | .resolveIdentity _ | .evaluateMapping | .ensureOperation => true
  | _ => false

/-- The pass may raise a transient error, or find the provider window closed. -/
def PC.isProvider : PC → Bool
  | .summarize snapshot => !snapshot.messages.isEmpty
  | .analyze j => !j.snapshot.messages.isEmpty
  | _ => false

/-- The next part of the pass can raise.  Without jobs nothing is reserved,
    and without messages the model is not asked: the code calls nothing. -/
def PC.raises : PC → Bool
  | .reserveMedia _ jobs => !jobs.isEmpty
  | .analyze j => !j.snapshot.messages.isEmpty
  | _ => true

/-- The call of `transition_cycle` the pass makes next, if it makes one. -/
def PC.transition (settings : Settings) (claimed : CycleRow) (now : Timestamp)
    (processingMs : Nat) : PC → Option Transition
  | .toRecovering => some (recoveringTransition claimed)
  | .toBuilding snapshot => some (buildingTransition snapshot)
  | .toBlocked snapshot blocked states => some (blockedTransition now snapshot blocked states)
  | .toWaiting snapshot pending states => some (waitingTransition settings now snapshot pending states)
  | .toSummarizing snapshot => some (summarizingTransition snapshot)
  | .toClassifying j => some (classifyingTransition (contextOf settings claimed j.snapshot true) j)
  | .toFinal j classificationId => some (finalTransition now processingMs j.snapshot classificationId)
  | .recordFailure failure => some (failureTransition settings now claimed failure)
  | _ => none

/-- Where the pass goes after that call, whether or not it matched the row. -/
def PC.afterTransition : PC → Option PC
  | .toRecovering => some .recoverHistory
  | .toBuilding snapshot => some (.readAudio false snapshot)
  | .toSummarizing snapshot => some (.summarize snapshot)
  | .toClassifying j => some (.analyze j)
  | .toFinal .. => some .loadContact
  | _ => none

/-- A pass: the row as it was claimed, and where the pass stands. -/
structure Pass where
  claimed : CycleRow
  pc : PC

/-- Where a pass starts. -/
def PC.start (claimed : CycleRow) : PC :=
  match claimed.snapshotJson with
  | some snapshot => if snapshot.historyRecovery.isSome then .readAudio false snapshot else .toRecovering
  | none => .toRecovering

/-! ## §5. The machine. -/

structure World where
  cycle : CycleRow
  messages : List CycleMessage := []
  audio : MediaTable := fun _ => none
  images : MediaTable := fun _ => none
  classification : Option Classification := none
  /-- The contact row of the cycle's `digisac_contact_external_id`. -/
  contact : Option Nat
  /-- The contact and the state of the cycle's identity resolution. -/
  resolution : Option (Nat × ResolutionState) := none
  /-- The state of the cycle's first mapping snapshot. -/
  mapping : Option MappingState := none
  /-- The cycle has a row in `acessorias_request_operations`. -/
  operation : Bool := false
  passes : WorkerId → Option Pass := fun _ => none
  /-- The worker that was given the cycle last. -/
  holder : Option WorkerId := none

/-- What a call answers, where the tables do not say. -/
inductive Answer
  | transition (now : Timestamp) (processingMs : Nat)
  | history (history : DigisacHistory) (previousClosedAt : Option Timestamp)
  | saved (ownedElsewhere : List String)
  | names (departments agents : List String) (userNames : List (String × String))
  | read
  | reserve (now : Timestamp)
  | summaries (texts : List String)
  | analyzed
  | inserted (freshId : Nat)
  | contact
  | identity (state : ResolutionState)
  | mapping (state : MappingState)
  | operation

inductive WorkerAction
  /-- A webhook or a media worker writes a row of a media table. -/
  | media (kind : MediaKind) (messageId : String) (st : ContentStatement)
  /-- The reconciler of a worker wakes the cycle. -/
  | wake (now : Timestamp)
  /-- An idle worker claims the cycle. -/
  | claim (w : WorkerId) (now : Timestamp)
  /-- The next call of a pass succeeds. -/
  | step (w : WorkerId) (answer : Answer)
  /-- The next call of a pass raises. -/
  | fail (w : WorkerId) (failure : Failure)
  /-- The provider window is closed; the pass ends without a trace. -/
  | windowActive (w : WorkerId)
  | crash (w : WorkerId)

/-- The pass of `w` goes on at `pc`, or ends. -/
def World.goTo (s : World) (w : WorkerId) (p : Pass) (pc : Option PC) : World :=
  { s with passes := Function.update s.passes w (pc.map fun pc => { p with pc }) }

/-- `reserve_transcription` or `reserve_image_extraction`, by the type of the message. -/
def World.reserve (settings : Settings) (conversationId : String) (now : Timestamp) (m : Message)
    (s : World) : World :=
  let st (model : String) : ContentStatement := .reserve now (some conversationId) model false
  { s with
    audio := if m.type.isAudio then runStatement m.messageId (st settings.audioModel) s.audio
      else s.audio
    images := if m.type.isAudio then s.images
      else runStatement m.messageId (st settings.imageModel) s.images }

/-- The branches of `_process_cycle` after the second reading of the media tables. -/
def gate (settings : Settings) (claimed : CycleRow) (snapshot : Snapshot) (states : ContentStates) :
    PC :=
  let applied := applyMediaStates snapshot.messages states settings.maxRetries
  if !applied.blocked.isEmpty then .toBlocked snapshot applied.blocked states
  else if !applied.pending.isEmpty then .toWaiting snapshot applied.pending states
  else
    let hydrated := hydratedSnapshot snapshot applied.hydrated
    let j := fullJudgement settings claimed hydrated
    if needsReduction settings j.modelContext then .toSummarizing hydrated else .toClassifying j

/-- The canonical contact of the cycle, where it is known. -/
def World.knownContact (s : World) : Option Nat :=
  if s.cycle.digisacContactExternalId.any (!Text.isBlank ·) then s.contact else none

/-- The calls of `_prepare_and_create_request`, up to the durable operation. -/
def requestStep (s : World) (w : WorkerId) (p : Pass) : PC → Answer → Option World
  | .loadContact, .contact =>
      some (s.goTo w p
        (if s.cycle.status = .completed ∨ s.cycle.status = .completedWithWarnings then
          s.knownContact.map .resolveIdentity
        else none))
  | .resolveIdentity contactId, .identity state =>
      let resolution := s.resolution.getD (contactId, state)
      some ({ s with resolution := some resolution }.goTo w p
        (if resolution = (contactId, ResolutionState.confirmed) then some .evaluateMapping else none))
  | .evaluateMapping, .mapping state =>
      let mapping := s.mapping.getD state
      some ({ s with mapping := some mapping }.goTo w p
        (if mapping = MappingState.resolved then some .ensureOperation else none))
  | .ensureOperation, .operation => some ({ s with operation := true }.goTo w p none)
  | _, _ => none

/-- The next call of a pass, and what it changes. -/
def passStep (settings : Settings) (s : World) (w : WorkerId) (p : Pass) : PC → Answer → Option World
  | .recoverHistory, .history history previousClosedAt =>
      p.claimed.ticketClosedAt.map fun closedAt =>
        s.goTo w p (some (.saveMessages closedAt history
          (normalizeHistory history.messages p.claimed.cycleStartedAt previousClosedAt closedAt
            history.startedAt)))
  | .saveMessages closedAt history normalized, .saved ownedElsewhere =>
      let saved := saveCycleMessages ownedElsewhere normalized.messages
      let messages := normalized.messages.filter (·.messageId ∈ saved.accepted)
      some ({ s with messages := saved.rows }.goTo w p
        (some (.resolveNames closedAt history normalized messages saved.conflicts)))
  | .resolveNames closedAt history normalized messages conflicts, .names departments agents userNames =>
      some (s.goTo w p (some (.toBuilding (recoveredSnapshot p.claimed closedAt history normalized
        (messages.map (nameSender userNames)) conflicts departments agents))))
  | .readAudio again snapshot, .read =>
      some (s.goTo w p (some (.readImages again snapshot
        (readStates .audio s.audio (audioIds snapshot.messages)))))
  | .readImages again snapshot audio, .read =>
      let states := mergeStates audio (readStates .image s.images (imageIds snapshot.messages))
      some (s.goTo w p (some
        (if again then gate settings p.claimed snapshot states
         else .reserveMedia snapshot (mediaJobs settings.maxRetries states snapshot.messages))))
  | .reserveMedia snapshot [], .read => some (s.goTo w p (some (.readAudio true snapshot)))
  | .reserveMedia snapshot (m :: jobs), .reserve now =>
      some ((s.reserve settings p.claimed.conversationId now m).goTo w p
        (some (.reserveMedia snapshot jobs)))
  | .summarize snapshot, .summaries texts =>
      let j := reducedJudgement settings p.claimed snapshot texts
      if texts.length = (chunkMessages settings.contextChunkTokens snapshot.messages).length
          ∧ (∀ text ∈ texts, Text.strip text = text ∧ text ≠ "")
          ∧ needsReduction settings j.modelContext = false then
        some (s.goTo w p (some (.toClassifying j)))
      else none
  | .analyze j, .analyzed =>
      some (s.goTo w p (some (.insertClassification { j with snapshot := warnEmpty j.snapshot })))
  | .insertClassification j, .inserted freshId =>
      let row := s.classification.getD
        { id := freshId, messageIds := j.snapshot.messages.map (·.messageId)
          fullContext := j.modelContext }
      some ({ s with classification := some row }.goTo w p (some (.toFinal j row.id)))
  | pc, .transition now processingMs =>
      (pc.transition settings p.claimed now processingMs).map fun tr =>
        { s with cycle := (transitionCycle now tr s.cycle).getD s.cycle }.goTo w p pc.afterTransition
  | pc, answer => requestStep s w p pc answer

/-- A failed media row that has no attempt left. -/
def exhausted (maxAttempts : Nat) (row : Option MediaRow) : Bool :=
  row.any fun r => r.status == .failed && decide (maxAttempts ≤ r.attemptCount)

/-- The media messages of the cycle that still block it: the NOT EXISTS of
    `_wake_unblocked_media_cycles_sync`. -/
def stillBlocked (maxAttempts : Nat) (s : World) : Bool :=
  s.messages.any fun m =>
    (m.messageType.isAudio && exhausted maxAttempts (s.audio m.messageId))
      || (m.messageType == .image && exhausted maxAttempts (s.images m.messageId))

/-- Where a pass goes when its next call raises. -/
def PC.onFailure (pc : PC) (failure : Failure) : Option (Option PC) :=
  match pc with
  | .recordFailure _ => some none
  | pc =>
      if pc.isRequest then some none
      else if pc.raises then
        match failure with
        | .transient .. => if pc.isProvider then some (some (.recordFailure failure)) else none
        | .other .. => some (some (.recordFailure failure))
      else none

def workerStep (settings : Settings) (s : World) : WorkerAction → Option World
  | .media .audio messageId st => some { s with audio := runStatement messageId st s.audio }
  | .media .image messageId st => some { s with images := runStatement messageId st s.images }
  | .wake now =>
      if stillBlocked settings.maxRetries s then none
      else (wakeCycle now s.cycle).map fun cycle => { s with cycle }
  | .claim w now =>
      if (s.passes w).isSome then none
      else (claimCycle now (settings.owner w) settings.leaseSeconds s.cycle).map fun cycle =>
        { s with
          cycle, holder := some w
          passes := Function.update s.passes w (some ⟨cycle, PC.start cycle⟩) }
  | .step w answer => (s.passes w).bind fun p => passStep settings s w p p.pc answer
  | .fail w failure =>
      (s.passes w).bind fun p => (p.pc.onFailure failure).map fun pc => s.goTo w p pc
  | .windowActive w =>
      (s.passes w).bind fun p => if p.pc.isProvider then some (s.goTo w p none) else none
  | .crash w => (s.passes w).map fun p => s.goTo w p none

/-- A cycle whose ticket has just been closed, with any contact. -/
def World.fresh (cycle : CycleRow) (contact : Option Nat) : World := { cycle, contact }

/-- **The passes over one cycle.** -/
def workerMachine (settings : Settings) : Machine World WorkerAction where
  init s := ∃ cycle contact, cycle.status = .pending ∧ cycle.snapshotJson = none
    ∧ s = World.fresh cycle contact
  step := workerStep settings

end Cai.Worker
