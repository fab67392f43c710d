/-
  Cai.Worker.Wake — which blocked cycles are woken.

  `_wake_unblocked_media_cycles_sync` asks in SQL whether a media message
  still blocks a cycle; `apply_media_states` asks it in Python, of the
  messages of the snapshot.  The first goes by the type of a row, the
  second by the type and the file of a message: the two agree because
  `normalize_history` has turned every document that is an image into an
  image before either of them looks.

  Main result: `wakeable_iff_not_blocked`.
-/
import Cai.Finalization.Window
import Cai.Worker.Gate
import Cai.Worker.Ownership

namespace Cai.Worker

open Cai.Lib
open Cai.Cycle Cai.Media Cai.Finalization

/-! ## §1. The query. -/

/-- LEFT JOIN `message_transcriptions`, on the messages with an audio. -/
def joinedAudio (audio : MediaTable) (m : CycleMessage) : Option MediaRow :=
  if m.messageType.isAudio then audio m.messageId else none

/-- LEFT JOIN `message_image_extractions`, on the messages with an image. -/
def joinedImage (images : MediaTable) (m : CycleMessage) : Option MediaRow :=
  if m.messageType = .image then images m.messageId else none

/-- The WHERE clause of the NOT EXISTS, on a message and the rows joined to it. -/
def blocksWake (maxAttempts : Nat) (audio images : MediaTable) (m : CycleMessage) : Bool :=
  (m.messageType.isAudio && exhausted maxAttempts (joinedAudio audio m))
    || (m.messageType == .image && exhausted maxAttempts (joinedImage images m))

/-- NOT EXISTS … -/
def unblocked (maxAttempts : Nat) (table : CycleMessages) (audio images : MediaTable)
    (cycleId : Nat) : Bool :=
  !(table.rowsOf cycleId).any (blocksWake maxAttempts audio images)

/-- The cycles that the query considers unblocked. -/
def wakeable (maxAttempts : Nat) (table : CycleMessages) (audio images : MediaTable)
    (cycles : List CycleRow) : List CycleRow :=
  cycles.filter fun cycle =>
    cycle.status == .mediaBlocked && unblocked maxAttempts table audio images cycle.id

/-- ORDER BY `updated_at`, `id` -/
def wakeOrder (a b : CycleRow) : Prop :=
  a.updatedAt < b.updatedAt ∨ (a.updatedAt = b.updatedAt ∧ a.id ≤ b.id)

instance : DecidableRel wakeOrder := fun a b =>
  inferInstanceAs (Decidable (a.updatedAt < b.updatedAt ∨ (a.updatedAt = b.updatedAt ∧ a.id ≤ b.id)))

/-- `candidates`: rows that another transaction has locked are skipped. -/
def wakeCandidates (maxAttempts limit : Nat) (locked : List Nat) (table : CycleMessages)
    (audio images : MediaTable) (cycles : List CycleRow) : List CycleRow :=
  (((wakeable maxAttempts table audio images cycles).insertionSort wakeOrder).filter
    (·.id ∉ locked)).take (max 1 limit)

/-- `_wake_unblocked_media_cycles_sync`: the cycles it leaves. -/
def wakeUnblockedMediaCycles (maxAttempts limit : Nat) (now : Timestamp) (locked : List Nat)
    (table : CycleMessages) (audio images : MediaTable) (cycles : List CycleRow) : List CycleRow :=
  let candidates := wakeCandidates maxAttempts limit locked table audio images cycles
  cycles.map fun cycle =>
    if cycle.id ∈ candidates.map (·.id) then (wakeCycle now cycle).getD cycle else cycle

/-- The states `_get_content_states_sync` returns on one state of the tables. -/
def getContentStates (audio images : MediaTable) (audioMessageIds imageMessageIds : List String) :
    ContentStates :=
  mergeStates (readStates .audio audio audioMessageIds) (readStates .image images imageMessageIds)

/-! ## §2. The rule. -/

/-- Messages that `normalize_history` has produced.  A snapshot holds some of
    them, with names and contents that are filled in later. -/
def Normalized (normalized messages : List Message) : Prop :=
  ∀ m ∈ messages, ∃ m₀ ∈ normalized, m.messageId = m₀.messageId ∧ m.type = m₀.type ∧ m.file = m₀.file

/-- The rows of the cycle are the ids and the types of these messages. -/
def Recorded (table : CycleMessages) (cycleId : Nat) (messages : List Message) : Prop :=
  ∀ id type, (∃ r ∈ table.rowsOf cycleId, r.messageId = id ∧ r.messageType = type)
    ↔ ∃ m ∈ messages, m.messageId = id ∧ m.type = type

variable {maxAttempts : Nat} {table : CycleMessages} {audio images : MediaTable} {cycleId : Nat}
  {messages : List Message} {m : Message}

/-- One row for each message id of the cycle. -/
theorem rowsOf_nodup (table : CycleMessages) (cycleId : Nat) :
    ((table.rowsOf cycleId).map (·.messageId)).Nodup := by
  unfold CycleMessages.rowsOf
  rw [List.map_map]
  exact table.ids_nodup.sublist (List.filter_sublist.map _)

/-- Messages of one id have one type: it is the type of the row. -/
theorem Recorded.type_eq (h : Recorded table cycleId messages) {m' : Message} (hm : m ∈ messages)
    (hm' : m' ∈ messages) (hid : m.messageId = m'.messageId) : m.type = m'.type := by
  obtain ⟨r, hr, hrid, hrtype⟩ := (h m.messageId m.type).mpr ⟨m, hm, rfl, rfl⟩
  obtain ⟨r', hr', hrid', hrtype'⟩ := (h m'.messageId m'.type).mpr ⟨m', hm', rfl, rfl⟩
  have heq : r = r' := List.inj_on_of_nodup_map (rowsOf_nodup table cycleId) hr hr'
    (hrid.trans (hid.trans hrid'.symm))
  rw [← hrtype, ← hrtype', heq]

/-- The entry of an audio message comes from the transcriptions. -/
theorem getContentStates_audio (hrecorded : Recorded table cycleId messages)
    (himage : ∀ m ∈ messages, isImageMessage m.type m.file = (m.type == .image))
    (hm : m ∈ messages) (haudio : m.type.isAudio = true) :
    getContentStates audio images (audioIds messages) (imageIds messages) m.messageId
      = (audio m.messageId).map (contentState .audio) := by
  have hnot : m.messageId ∉ imageIds messages := by
    intro hmem
    obtain ⟨m', hm', hkind, hid⟩ := mem_imageIds hmem
    rw [himage m' hm', hrecorded.type_eq hm' hm hid] at hkind
    have htype : m.type = .image := by simpa using hkind
    rw [htype] at haudio
    cases haudio
  have hmem : m.messageId ∈ audioIds messages :=
    List.mem_map.mpr ⟨m, List.mem_filter.mpr ⟨hm, haudio⟩, rfl⟩
  unfold getContentStates mergeStates readStates
  rw [if_neg hnot, if_pos hmem, Option.none_or]

/-- The entry of an image message comes from the extractions. -/
theorem getContentStates_image (hrecorded : Recorded table cycleId messages)
    (himage : ∀ m ∈ messages, isImageMessage m.type m.file = (m.type == .image))
    (hm : m ∈ messages) (htype : m.type = .image) :
    getContentStates audio images (audioIds messages) (imageIds messages) m.messageId
      = (images m.messageId).map (contentState .image) := by
  have hnot : m.messageId ∉ audioIds messages := by
    intro hmem
    obtain ⟨m', hm', hkind, hid⟩ := mem_audioIds hmem
    rw [hrecorded.type_eq hm' hm hid, htype] at hkind
    cases hkind
  have hmem : m.messageId ∈ imageIds messages := by
    refine List.mem_map.mpr ⟨m, List.mem_filter.mpr ⟨hm, ?_⟩, rfl⟩
    rw [himage m hm, htype]
    rfl
  unfold getContentStates mergeStates readStates
  rw [if_pos hmem, if_neg hnot, Option.or_none]

theorem exhausted_eq (maxAttempts : Nat) (kind : MediaKind) (row : Option MediaRow) :
    ((row.map (contentState kind)).any fun state =>
      state.status == .failed && decide (maxAttempts ≤ state.attemptCount))
      = exhausted maxAttempts row := by
  cases row with
  | none => rfl
  | some r => rfl

/-- **One message.**  The rule blocks it exactly when its row blocks the query. -/
theorem isBlocked_eq (hrecorded : Recorded table cycleId messages)
    (himage : ∀ m ∈ messages, isImageMessage m.type m.file = (m.type == .image))
    (hm : m ∈ messages) {r : CycleMessage} (hid : r.messageId = m.messageId)
    (htype : r.messageType = m.type) :
    isBlocked (getContentStates audio images (audioIds messages) (imageIds messages)) maxAttempts m
      = blocksWake maxAttempts audio images r := by
  unfold isBlocked blocksWake isMedia joinedAudio joinedImage
  rw [himage m hm, hid, htype]
  by_cases haudio : m.type.isAudio = true
  · have hne : m.type ≠ .image := by
      intro heq
      rw [heq] at haudio
      cases haudio
    rw [getContentStates_audio hrecorded himage hm haudio, exhausted_eq]
    simp [haudio, hne]
  · by_cases hkind : m.type = .image
    · rw [getContentStates_image hrecorded himage hm hkind, exhausted_eq]
      have hnot : MessageType.image.isAudio = false := rfl
      simp [hkind, hnot]
    · -- neither table is asked
      have hnot : m.type.isAudio = false := by simpa using haudio
      have hother : (m.type == .image) = false := by simpa using hkind
      rw [hnot, hother]
      rfl

/-- **One cycle.** -/
theorem unblocked_iff (hrecorded : Recorded table cycleId messages)
    (himage : ∀ m ∈ messages, isImageMessage m.type m.file = (m.type == .image)) :
    unblocked maxAttempts table audio images cycleId = true
      ↔ (applyMediaStates messages (getContentStates audio images (audioIds messages)
          (imageIds messages)) maxAttempts).blocked = [] := by
  show (!List.any _ _) = true ↔ (List.map _ _).dedup = []
  rw [List.dedup_eq_nil, List.map_eq_nil_iff, List.filter_eq_nil_iff, Bool.not_eq_true',
    List.any_eq_false]
  constructor
  · intro hrows m hm
    obtain ⟨r, hr, hid, htype⟩ := (hrecorded m.messageId m.type).mpr ⟨m, hm, rfl, rfl⟩
    rw [isBlocked_eq hrecorded himage hm hid htype]
    exact hrows r hr
  · intro hmessages r hr
    obtain ⟨m, hm, hid, htype⟩ := (hrecorded r.messageId r.messageType).mp ⟨r, hr, rfl, rfl⟩
    rw [← isBlocked_eq hrecorded himage hm hid.symm htype.symm]
    exact hmessages m hm

/-! ## §3. The pass. -/

/-- What a pass saves is recorded. -/
theorem recorded_save (table : CycleMessages) (cycleId : Nat) (h : Distinct messages) :
    Recorded (table.save cycleId messages) cycleId
      (messages.filter (·.messageId ∉ ownedElsewhere cycleId table.rows)) := by
  intro id type
  have hkeys : ((table.save cycleId messages).rowsOf cycleId).map
      (fun r => (r.messageId, r.messageType))
      = (messages.filter (·.messageId ∉ ownedElsewhere cycleId table.rows)).map
          fun m => (m.messageId, m.type) := by
    rw [CycleMessages.rowsOf_save_self]
    exact saveCycleMessages_keys _ h
  have hmem := congrArg (fun keys => (id, type) ∈ keys) hkeys
  simpa only [List.mem_map, Prod.mk.injEq, eq_iff_iff] using hmem

/-- The query of the machine of one cycle. -/
theorem unblocked_eq {s : World} (hrows : table.rowsOf cycleId = s.messages) :
    unblocked maxAttempts table s.audio s.images cycleId = !stillBlocked maxAttempts s := by
  unfold unblocked stillBlocked
  rw [hrows]
  congr 2
  funext r
  -- a table that is not joined is not asked
  unfold blocksWake joinedAudio joinedImage
  generalize r.messageType = type
  cases type with
  | chat => rfl
  | document => rfl
  | ptt => rfl
  | audio => rfl
  | voice => rfl
  | image => rfl

/-- **Neither stranded nor bounced.**  On one state of the tables, the gate of a
    pass blocks the cycle exactly when the query would leave it blocked. -/
theorem gate_blocks_iff (settings : Settings) (claimed : CycleRow) {snapshot : Snapshot}
    (hrecorded : Recorded table cycleId snapshot.messages)
    (himage : ∀ m ∈ snapshot.messages, isImageMessage m.type m.file = (m.type == .image)) :
    (∃ blocked states, gate settings claimed snapshot (getContentStates audio images
        (audioIds snapshot.messages) (imageIds snapshot.messages))
        = .toBlocked snapshot blocked states)
      ↔ unblocked settings.maxRetries table audio images cycleId = false := by
  rw [← Bool.not_eq_true, unblocked_iff hrecorded himage]
  simp only [gate]
  by_cases hblocked : (applyMediaStates snapshot.messages (getContentStates audio images
      (audioIds snapshot.messages) (imageIds snapshot.messages)) settings.maxRetries).blocked = []
  · -- the branches behind the gate lead elsewhere
    rw [hblocked]
    refine iff_of_false ?_ (fun hnot => hnot rfl)
    intro h
    obtain ⟨blocked, states, h⟩ := h
    rw [if_neg (by simp)] at h
    repeat' split at h
    all_goals cases h
  · refine iff_of_true ?_ hblocked
    rw [if_pos (by simpa using hblocked)]
    exact ⟨_, _, rfl⟩

/-! ## §4. The agreement. -/

variable {raws : List RawMessage} {cycleStartedAt previousClosedAt ticketStartedAt : Option Timestamp}
  {ticketClosedAt : Timestamp} {cycles : List CycleRow} {cycle : CycleRow}

theorem Normalized.isImageMessage (h : Normalized (normalizeHistory raws cycleStartedAt
    previousClosedAt ticketClosedAt ticketStartedAt).messages messages) :
    ∀ m ∈ messages, isImageMessage m.type m.file = (m.type == .image) := by
  intro m hm
  obtain ⟨m₀, hm₀, -, htype, hfile⟩ := h m hm
  rw [htype, hfile]
  exact isImageMessage_normalized hm₀

/-- **The query and the rule agree.**  A blocked cycle counts as unblocked
    exactly when its snapshot has no blocked message. -/
theorem wakeable_iff_not_blocked (hcycle : cycle ∈ cycles) (hstatus : cycle.status = .mediaBlocked)
    (hnormalized : Normalized (normalizeHistory raws cycleStartedAt previousClosedAt ticketClosedAt
      ticketStartedAt).messages messages)
    (hrecorded : Recorded table cycle.id messages) (audio images : MediaTable) (maxAttempts : Nat) :
    cycle ∈ wakeable maxAttempts table audio images cycles
      ↔ (applyMediaStates messages (getContentStates audio images (audioIds messages)
          (imageIds messages)) maxAttempts).blocked = [] := by
  unfold wakeable
  rw [List.mem_filter, hstatus]
  rw [← unblocked_iff hrecorded hnormalized.isImageMessage]
  simp [hcycle]

/-- A voice message and a document that is an image. -/
def mediaHistory : List RawMessage :=
  [{ id := some "voice", type := .supported .ptt, timestamp := some 5 },
   { id := some "scan", type := .supported .document, timestamp := some 6
     file := { mimetype := some "image/png" } }]

/-- The messages of a cycle that was closed at 10. -/
def mediaMessages : List Message := (normalizeHistory mediaHistory none none 10 none).messages

/-- Their table. -/
def mediaTable : CycleMessages := (⟨[], List.nodup_nil⟩ : CycleMessages).save 1 mediaMessages

/-- An image that has failed three times. -/
def failedImages : MediaTable := fun id =>
  if id = "scan" then
    some { conversationId := some "ticket", model := "vision", status := .failed
           attemptCount := 3, createdAt := 0, updatedAt := 9 }
  else none

/-- A cycle that waits for the image. -/
def blockedCycle : CycleRow := { closedCycle with status := .mediaBlocked }

/-- After three failed attempts the image blocks the cycle if three are the limit, not if four are. -/
theorem wakeable_iff_not_blocked_scan :
    blockedCycle ∈ wakeable 4 mediaTable (fun _ => none) failedImages [blockedCycle]
      ∧ blockedCycle ∉ wakeable 3 mediaTable (fun _ => none) failedImages [blockedCycle] := by
  have hdistinct : Distinct mediaMessages := normalizeHistory_nodup (by decide) none none 10 none
  have hnormalized : Normalized mediaMessages mediaMessages := fun m hm => ⟨m, hm, rfl, rfl, rfl⟩
  have hrecorded : Recorded mediaTable 1 mediaMessages := by
    have hsave := recorded_save (⟨[], List.nodup_nil⟩ : CycleMessages) 1 hdistinct
    have hall : mediaMessages.filter (·.messageId ∉ ownedElsewhere 1 []) = mediaMessages :=
      List.filter_eq_self.mpr fun m _ => rfl
    exact hall ▸ hsave
  have hgiven (maxAttempts : Nat) :
      blockedCycle ∈ wakeable maxAttempts mediaTable (fun _ => none) failedImages [blockedCycle] ↔ _ :=
    wakeable_iff_not_blocked List.mem_cons_self rfl hnormalized hrecorded (fun _ => none) failedImages
      maxAttempts
  constructor
  · exact (hgiven 4).mpr (by decide +kernel)
  · intro h
    exact absurd ((hgiven 3).mp h) (by decide +kernel)

end Cai.Worker
