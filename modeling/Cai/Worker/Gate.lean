/-
  Cai.Worker.Gate — what a classification was built from.

  A pass reads the two media tables one after the other, and inserts the
  classification several calls later.  What carries the evidence from the
  readings to the insertion is that completed rows are final
  (`TablesLater`); what keeps the two tables apart is that the messages of
  a snapshot have distinct ids, also when it comes back from the row.

  Main result: `media_gate`.
-/
import Cai.Worker.Steps

namespace Cai.Worker

open Cai.Lib
open Cai.Cycle Cai.Media Cai.Finalization

variable {settings : Settings} {s t : World} {w : WorkerId} {p : Pass} {pc : PC}
  {claimed : CycleRow} {snapshot : Snapshot}

/-! ## §1. Evidence. -/

/-- The media table of a message. -/
def World.mediaRow (s : World) (m : Message) : Option MediaRow :=
  if m.type.isAudio then s.audio m.messageId else s.images m.messageId

/-- A completed row whose stripped text is not blank, and is `content`. -/
structure Evidence (content : String) (r : MediaRow) : Prop where
  completed : r.status = .completed
  text : ∃ text, r.text = some text ∧ Text.strip text ≠ "" ∧ content = Text.strip text

/-- Every media message has its text from its own row. -/
def Gated (s : World) (messages : List Message) : Prop :=
  ∀ m ∈ messages, isMedia m = true → ∃ r, s.mediaRow m = some r ∧ Evidence m.content r

theorem Gated.later {messages : List Message} (h : Gated s messages) (hlater : TablesLater s t) :
    Gated t messages := by
  intro m hm hmedia
  obtain ⟨r, hr, hevidence⟩ := h m hm hmedia
  refine ⟨r, ?_, hevidence⟩
  unfold World.mediaRow at hr ⊢
  by_cases haudio : m.type.isAudio = true
  · rw [if_pos haudio] at hr ⊢
    exact hlater.audio _ r hr hevidence.completed
  · rw [if_neg haudio] at hr ⊢
    exact hlater.images _ r hr hevidence.completed

/-- The messages have distinct ids. -/
abbrev Distinct (messages : List Message) : Prop := (messages.map (·.messageId)).Nodup

theorem Distinct.eq {messages : List Message} (h : Distinct messages) {m m' : Message}
    (hm : m ∈ messages) (hm' : m' ∈ messages) (hid : m.messageId = m'.messageId) : m = m' :=
  List.inj_on_of_nodup_map h hm hm' hid

/-! ## §2. Two readings. -/

/-- Entries that were read from the transcriptions of these messages:
    completed entries still are in the table. -/
def ReadAudio (s : World) (messages : List Message) (audio : ContentStates) : Prop :=
  ∀ id state, audio id = some state → id ∈ audioIds messages
    ∧ (state.status = .completed →
        ∃ r, s.audio id = some r ∧ r.status = .completed ∧ r.text = state.text)

theorem ReadAudio.later {messages : List Message} {audio : ContentStates}
    (h : ReadAudio s messages audio) (hlater : TablesLater s t) : ReadAudio t messages audio := by
  intro id state hstate
  obtain ⟨hid, hrow⟩ := h id state hstate
  refine ⟨hid, fun hcompleted => ?_⟩
  obtain ⟨r, hr, hstatus, htext⟩ := hrow hcompleted
  exact ⟨r, hlater.audio id r hr hstatus, hstatus, htext⟩

/-- An entry that was just read. -/
theorem readStates_some {kind : MediaKind} {table : MediaTable} {ids : List String} {id : String}
    {state : ContentState} (h : readStates kind table ids id = some state) :
    id ∈ ids ∧ ∃ r, table id = some r ∧ r.status = state.status ∧ r.text = state.text := by
  simp only [readStates, Option.ite_none_right_eq_some, Option.map_eq_some_iff] at h
  obtain ⟨hid, r, hr, rfl⟩ := h
  exact ⟨hid, r, hr, rfl, rfl⟩

theorem readAudio_read (s : World) (messages : List Message) :
    ReadAudio s messages (readStates .audio s.audio (audioIds messages)) := by
  intro id state hstate
  obtain ⟨hid, r, hr, hstatus, htext⟩ := readStates_some hstate
  exact ⟨hid, fun hcompleted => ⟨r, hr, hstatus ▸ hcompleted, htext⟩⟩

/-- The entries of the two tables, with the extractions read now. -/
abbrev mergedNow (s : World) (messages : List Message) (audio : ContentStates) : ContentStates :=
  mergeStates audio (readStates .image s.images (imageIds messages))

theorem mem_audioIds {messages : List Message} {id : String} (h : id ∈ audioIds messages) :
    ∃ m ∈ messages, m.type.isAudio = true ∧ m.messageId = id := by
  obtain ⟨m, hm, rfl⟩ := List.mem_map.mp h
  exact ⟨m, (List.mem_filter.mp hm).1, (List.mem_filter.mp hm).2, rfl⟩

theorem mem_imageIds {messages : List Message} {id : String} (h : id ∈ imageIds messages) :
    ∃ m ∈ messages, isImageMessage m.type m.file = true ∧ m.messageId = id := by
  obtain ⟨m, hm, rfl⟩ := List.mem_map.mp h
  exact ⟨m, (List.mem_filter.mp hm).1, (List.mem_filter.mp hm).2, rfl⟩

/-- No message is both. -/
theorem not_image_of_audio {m : Message} (h : m.type.isAudio = true) :
    isImageMessage m.type m.file = false := by
  unfold isImageMessage
  cases htype : m.type with
  | image => rw [htype] at h; cases h
  | document => rw [htype] at h; cases h
  | _ => rfl

/-- **One reading after the other.**  Completed evidence for a message in the
    merged entries is in the table of the message. -/
theorem merged_evidence {messages : List Message} {audio : ContentStates}
    (hdistinct : Distinct messages) (haudio : ReadAudio s messages audio) {m : Message}
    (hm : m ∈ messages) {state : ContentState} {content : String}
    (hstate : mergedNow s messages audio m.messageId = some state)
    (hevidence : state.Evidence content) : ∃ r, s.mediaRow m = some r ∧ Evidence content r := by
  obtain ⟨hcompleted, htext⟩ := hevidence
  unfold World.mediaRow
  unfold mergedNow mergeStates at hstate
  cases himage : readStates .image s.images (imageIds messages) m.messageId with
  | some state' =>
      rw [himage, Option.some_or] at hstate
      obtain rfl := Option.some.inj hstate
      obtain ⟨hid, r, hr, hstatus, htext'⟩ := readStates_some himage
      obtain ⟨m', hm', hkind, hid'⟩ := mem_imageIds hid
      obtain rfl := hdistinct.eq hm' hm hid'
      have hnot : ¬m'.type.isAudio = true := by
        intro h
        rw [not_image_of_audio h] at hkind
        cases hkind
      rw [if_neg hnot]
      exact ⟨r, hr, hstatus.trans hcompleted, htext' ▸ htext⟩
  | none =>
      rw [himage, Option.none_or] at hstate
      obtain ⟨hid, hrow⟩ := haudio _ _ hstate
      obtain ⟨m', hm', hkind, hid'⟩ := mem_audioIds hid
      obtain rfl := hdistinct.eq hm' hm hid'
      obtain ⟨r, hr, hstatus, htext'⟩ := hrow hcompleted
      rw [if_pos hkind]
      exact ⟨r, hr, hstatus, htext' ▸ htext⟩

/-- The hydrated messages of a gate with nothing pending and nothing blocked. -/
theorem gated_hydrated (maxAttempts : Nat) {messages : List Message} {audio : ContentStates}
    (hdistinct : Distinct messages) (haudio : ReadAudio s messages audio)
    (hpending : (applyMediaStates messages (mergedNow s messages audio) maxAttempts).pending = [])
    (hblocked : (applyMediaStates messages (mergedNow s messages audio) maxAttempts).blocked = []) :
    Gated s (applyMediaStates messages (mergedNow s messages audio) maxAttempts).hydrated := by
  intro m hm hmedia
  obtain ⟨state, hstate, hevidence⟩ := applyMediaStates_evidence hpending hblocked m hm hmedia
  obtain ⟨m₀, hm₀, rfl⟩ := List.mem_map.mp hm
  rw [hydrate_messageId] at hstate
  obtain ⟨r, hr, hrow⟩ := merged_evidence hdistinct haudio hm₀ hstate hevidence
  refine ⟨r, ?_, hrow⟩
  unfold World.mediaRow at hr ⊢
  rw [hydrate_type, hydrate_messageId]
  exact hr

/-- Hydration keeps the ids. -/
theorem distinct_hydrated {messages : List Message} (h : Distinct messages)
    (states : ContentStates) : Distinct (messages.map (hydrate states)) := by
  unfold Distinct
  rw [List.map_map]
  have hid : (fun m : Message => m.messageId) ∘ hydrate states = (·.messageId) := by
    funext m
    exact hydrate_messageId states m
  rw [hid]
  exact h

/-! ## §3. What holds at each program counter. -/

/-- The model context and the reductions come from the messages of the judgement. -/
structure Judgement.Built (settings : Settings) (claimed : CycleRow) (j : Judgement) : Prop where
  full : j.reductionApplied = false →
    j.reductions = [] ∧ j.modelContext = contextOf settings claimed j.snapshot false
  reduced : j.reductionApplied = true → ∃ summaries,
    summaries.length = (chunkMessages settings.contextChunkTokens j.snapshot.messages).length
      ∧ j.reductions
        = reductionsOf (chunkMessages settings.contextChunkTokens j.snapshot.messages) summaries
      ∧ j.modelContext = reducedContext claimed.conversationId claimed.protocol j.reductions

/-- What a pass with this judgement may classify. -/
structure Sound (settings : Settings) (claimed : CycleRow) (s : World) (j : Judgement) : Prop where
  distinct : Distinct j.snapshot.messages
  gated : Gated s j.snapshot.messages
  built : j.Built settings claimed

theorem Sound.later {j : Judgement} (h : Sound settings claimed s j) (hlater : TablesLater s t) :
    Sound settings claimed t j :=
  ⟨h.distinct, h.gated.later hlater, h.built⟩

/-- The invariant of a pass that stands at `pc`. -/
def PC.Ok (settings : Settings) (claimed : CycleRow) (s : World) : PC → Prop
  | .saveMessages _ _ normalized => Distinct normalized.messages
  | .resolveNames _ _ _ messages _ => Distinct messages
  | .toBuilding snapshot | .readAudio _ snapshot | .reserveMedia snapshot _
  | .toBlocked snapshot .. | .toWaiting snapshot .. => Distinct snapshot.messages
  | .readImages _ snapshot audio =>
      Distinct snapshot.messages ∧ ReadAudio s snapshot.messages audio
  | .toSummarizing snapshot | .summarize snapshot =>
      Distinct snapshot.messages ∧ Gated s snapshot.messages
  | .toClassifying j | .analyze j | .insertClassification j | .toFinal j _ =>
      Sound settings claimed s j
  | _ => True

theorem PC.Ok.later (h : pc.Ok settings claimed s) (hlater : TablesLater s t) :
    pc.Ok settings claimed t := by
  cases pc with
  | readImages again snapshot audio => exact ⟨h.1, h.2.later hlater⟩
  | toSummarizing snapshot => exact ⟨h.1, h.2.later hlater⟩
  | summarize snapshot => exact ⟨h.1, h.2.later hlater⟩
  | toClassifying j => exact Sound.later h hlater
  | analyze j => exact Sound.later h hlater
  | insertClassification j => exact Sound.later h hlater
  | toFinal j classificationId => exact Sound.later h hlater
  | _ => exact h

/-- A pass that only works on the Request, or records a failure. -/
theorem PC.Ok.of_request (h : pc.isRequest = true) : pc.Ok settings claimed s := by
  cases pc with
  | loadContact => trivial
  | resolveIdentity contactId => trivial
  | evaluateMapping => trivial
  | ensureOperation => trivial
  | _ => cases h

/-- **The gate.**  Nothing passes it but a snapshot whose media messages all
    have evidence. -/
theorem gate_ok {audio : ContentStates} (hdistinct : Distinct snapshot.messages)
    (haudio : ReadAudio s snapshot.messages audio) :
    (gate settings claimed snapshot (mergedNow s snapshot.messages audio)).Ok settings claimed s := by
  simp only [gate]
  split
  next => exact hdistinct
  next hblocked =>
    split
    next => exact hdistinct
    next hpending =>
      have hgated := gated_hydrated settings.maxRetries hdistinct haudio
        (by simpa using hpending) (by simpa using hblocked)
      have hids := distinct_hydrated hdistinct (mergedNow s snapshot.messages audio)
      split
      next => exact ⟨hids, hgated⟩
      next =>
        -- nothing was summarized
        exact ⟨hids, hgated, fun _ => ⟨rfl, rfl⟩, fun hreduced => absurd hreduced Bool.false_ne_true⟩

/-- The transition does not change what is known about the pass. -/
theorem afterTransition_ok (h : pc.Ok settings claimed s) :
    ∀ pc' ∈ pc.afterTransition, pc'.Ok settings claimed s := by
  intro pc' hpc'
  cases pc with
  | toRecovering => exact Option.some.inj hpc' ▸ trivial
  | toBuilding snapshot => exact Option.some.inj hpc' ▸ h
  | toSummarizing snapshot => exact Option.some.inj hpc' ▸ h
  | toClassifying j => exact Option.some.inj hpc' ▸ h
  | toFinal j classificationId => exact Option.some.inj hpc' ▸ trivial
  | _ => exact absurd hpc' (Option.not_mem_none pc')

/-! ## §4. One call. -/

/-- Agent names leave the ids alone. -/
theorem nameSender_messageId (userNames : List (String × String)) (m : Message) :
    (nameSender userNames m).messageId = m.messageId := by
  unfold nameSender
  repeat' split
  all_goals rfl

theorem distinct_named {messages : List Message} (h : Distinct messages)
    (userNames : List (String × String)) : Distinct (messages.map (nameSender userNames)) := by
  unfold Distinct
  rw [List.map_map]
  have hid : (fun m : Message => m.messageId) ∘ nameSender userNames = (·.messageId) := by
    funext m
    exact nameSender_messageId userNames m
  rw [hid]
  exact h

/-- A warning changes nothing a judgement is built from. -/
theorem Sound.warnEmpty {j : Judgement} (h : Sound settings claimed s j) :
    Sound settings claimed s { j with snapshot := Cai.Worker.warnEmpty j.snapshot } := by
  unfold Cai.Worker.warnEmpty
  split
  next => exact ⟨h.distinct, h.gated, h.built.full, h.built.reduced⟩
  next => exact h

/-- The reduced judgement of a gated snapshot. -/
theorem sound_reduced (hdistinct : Distinct snapshot.messages) (hgated : Gated s snapshot.messages)
    {texts : List String}
    (hlength : texts.length = (chunkMessages settings.contextChunkTokens snapshot.messages).length) :
    Sound settings claimed s (reducedJudgement settings claimed snapshot texts) :=
  ⟨hdistinct, hgated, nofun, fun _ => ⟨texts, hlength, rfl, rfl⟩⟩

/-- Only the last program counters call into the Request. -/
theorem requestStep_isRequest {answer : Answer} (h : requestStep s w p pc answer = some t) :
    pc.isRequest = true := by
  unfold requestStep at h
  split at h
  next => rfl
  next => rfl
  next => rfl
  next => rfl
  next => cases h

/-- The pass of `w`, after it has moved. -/
theorem goTo_ok {next : Option PC} (h : ∀ pc ∈ next, pc.Ok settings p.claimed t) :
    ∀ p', (t.goTo w p next).passes w = some p' →
      p'.claimed = p.claimed ∧ p'.pc.Ok settings p.claimed (t.goTo w p next) := by
  intro p' hp'
  obtain ⟨-, pc, hpc, rfl⟩ | ⟨hne, -⟩ := passes_moved (s := t) rfl hp'
  · exact ⟨rfl, (h pc hpc).later (.of_eq rfl rfl)⟩
  · exact absurd rfl hne

/-- The same, where the pass goes on for certain. -/
theorem goTo_ok_some {next : PC} (h : next.Ok settings p.claimed t) :
    ∀ p', (t.goTo w p (some next)).passes w = some p' →
      p'.claimed = p.claimed ∧ p'.pc.Ok settings p.claimed (t.goTo w p (some next)) :=
  goTo_ok fun _ hpc => Option.some.inj hpc ▸ h

/-- **The call lemma.**  Every call of a pass keeps its invariant. -/
theorem passStep_ok {answer : Answer} (hok : pc.Ok settings p.claimed s)
    (h : passStep settings s w p pc answer = some t) :
    ∀ p', t.passes w = some p' → p'.claimed = p.claimed ∧ p'.pc.Ok settings p.claimed t := by
  unfold passStep at h
  split at h
  next history previousClosedAt =>
    obtain ⟨closedAt, -, rfl⟩ := Option.map_eq_some_iff.mp h
    exact goTo_ok_some (normalizeHistory_nodup history.ids_nodup _ _ _ _)
  next closedAt history normalized ownedElsewhere =>
    injection h with h
    subst h
    -- the accepted messages are some of the normalized ones
    have hsub := (List.filter_sublist (p := fun m : Message => decide
      (m.messageId ∈ (saveCycleMessages ownedElsewhere normalized.messages).accepted))
      (l := normalized.messages)).map (·.messageId)
    exact goTo_ok_some (hok.sublist hsub)
  next closedAt history normalized messages conflicts departments agents userNames =>
    injection h with h
    subst h
    exact goTo_ok_some (distinct_named hok userNames)
  next again snapshot =>
    injection h with h
    subst h
    exact goTo_ok_some ⟨hok, readAudio_read s snapshot.messages⟩
  next again snapshot audio =>
    injection h with h
    subst h
    cases again with
    | false => exact goTo_ok_some hok.1
    | true => exact goTo_ok_some (gate_ok hok.1 hok.2)
  next snapshot =>
    injection h with h
    subst h
    exact goTo_ok_some hok
  next snapshot m jobs now =>
    injection h with h
    subst h
    exact goTo_ok_some hok
  next snapshot texts =>
    simp only [Option.ite_none_right_eq_some, Option.some.injEq] at h
    obtain ⟨⟨hlength, -, -⟩, rfl⟩ := h
    exact goTo_ok_some (sound_reduced hok.1 hok.2 hlength)
  next j =>
    injection h with h
    subst h
    exact goTo_ok_some (Sound.warnEmpty hok)
  next j freshId =>
    injection h with h
    subst h
    exact goTo_ok_some (Sound.later hok (.of_eq rfl rfl))
  next now processingMs =>
    obtain ⟨tr, -, rfl⟩ := Option.map_eq_some_iff.mp h
    exact goTo_ok fun pc' hpc' => (afterTransition_ok hok pc' hpc').later (.of_eq rfl rfl)
  next =>
    have heffect : ∃ next, CallEffect settings s t w p pc next := requestStep_effect h
    obtain ⟨next, heffect⟩ := heffect
    intro p' hp'
    obtain ⟨-, pc', hpc', rfl⟩ | ⟨hne, -⟩ := passes_moved heffect.passes hp'
    · exact ⟨rfl, .of_request (heffect.request (requestStep_isRequest h) pc' hpc')⟩
    · exact absurd rfl hne

/-! ## §5. The row. -/

/-- A stored snapshot has distinct message ids. -/
def StoredDistinct (row : CycleRow) : Prop :=
  ∀ snapshot, row.snapshotJson = some snapshot → Distinct snapshot.messages

/-- A failure leaves the stored snapshot alone. -/
theorem failureTransition_stores_nothing (settings : Settings) (now : Timestamp)
    (claimed : CycleRow) (failure : Failure) :
    (failureTransition settings now claimed failure).fields.snapshotJson = none := by
  cases failure with
  | transient error notBefore => rfl
  | other error notBefore =>
      by_cases hattempt : settings.maxRetries ≤ claimed.attemptCount + 1
      · simp only [failureTransition, if_pos hattempt]
        rfl
      · simp only [failureTransition, if_neg hattempt]
        rfl

/-- What a transition stores has distinct message ids. -/
theorem transition_stored {now : Timestamp} {processingMs : Nat} {tr : Transition}
    (hok : pc.Ok settings claimed s)
    (htr : pc.transition settings claimed now processingMs = some tr) {stored : Snapshot}
    (h : tr.fields.snapshotJson = some (some stored)) : Distinct stored.messages := by
  cases pc with
  | toRecovering =>
      obtain rfl := Option.some.inj htr
      cases h
  | toBuilding snapshot =>
      obtain rfl := Option.some.inj htr
      obtain rfl := Option.some.inj (Option.some.inj h)
      exact hok
  | toBlocked snapshot blocked states =>
      obtain rfl := Option.some.inj htr
      obtain rfl := Option.some.inj (Option.some.inj h)
      exact hok
  | toWaiting snapshot pending states =>
      obtain rfl := Option.some.inj htr
      obtain rfl := Option.some.inj (Option.some.inj h)
      exact hok
  | toSummarizing snapshot =>
      obtain rfl := Option.some.inj htr
      obtain rfl := Option.some.inj (Option.some.inj h)
      exact hok.1
  | toClassifying j =>
      obtain rfl := Option.some.inj htr
      obtain rfl := Option.some.inj (Option.some.inj h)
      exact hok.distinct
  | toFinal j classificationId =>
      obtain rfl := Option.some.inj htr
      obtain rfl := Option.some.inj (Option.some.inj h)
      exact hok.distinct
  | recordFailure failure =>
      obtain rfl := Option.some.inj htr
      rw [failureTransition_stores_nothing] at h
      cases h
  | _ => cases htr

/-- A transition stores what the pass has, or leaves the row's snapshot. -/
theorem storedDistinct_transition {now : Timestamp} {processingMs : Nat} {tr : Transition}
    {row row' : CycleRow} (hok : pc.Ok settings claimed s) (hrow : StoredDistinct row)
    (htr : pc.transition settings claimed now processingMs = some tr)
    (happly : transitionCycle now tr row = some row') : StoredDistinct row' := by
  intro stored hstored
  rw [(transitionCycle_spec happly).2] at hstored
  have hfields : tr.fields.snapshotJson.getD row.snapshotJson = some stored := hstored
  cases hset : tr.fields.snapshotJson with
  | none =>
      rw [hset, Option.getD_none] at hfields
      exact hrow stored hfields
  | some value =>
      rw [hset, Option.getD_some] at hfields
      exact transition_stored hok htr (hset.trans (congrArg some hfields))

/-- Where a pass starts. -/
theorem start_ok (h : StoredDistinct claimed) : (PC.start claimed).Ok settings claimed s := by
  unfold PC.start
  split
  next snapshot hsnapshot =>
    split
    next => exact h snapshot hsnapshot
    next => trivial
  next => trivial

/-! ## §6. Whole runs. -/

/-- The evidence behind an inserted classification. -/
def ClassifiedFrom (settings : Settings) (s : World) (c : Classification) : Prop :=
  ∃ claimed j, Sound settings claimed s j ∧ c.messageIds = j.snapshot.messages.map (·.messageId)
    ∧ c.fullContext = j.modelContext

/-- The invariant of the passes, the row and the classification. -/
structure GateInv (settings : Settings) (s : World) : Prop where
  passes : ∀ w p, s.passes w = some p → p.pc.Ok settings p.claimed s
  stored : StoredDistinct s.cycle
  classified : ∀ c, s.classification = some c → ClassifiedFrom settings s c

theorem ClassifiedFrom.later {c : Classification} (h : ClassifiedFrom settings s c)
    (hlater : TablesLater s t) : ClassifiedFrom settings t c := by
  obtain ⟨claimed, j, hsound, hids, hcontext⟩ := h
  exact ⟨claimed, j, hsound.later hlater, hids, hcontext⟩

/-- A call of a pass keeps the invariant. -/
theorem gateInv_call {answer : Answer} {next : Option PC} (hinv : GateInv settings s)
    (hp : s.passes w = some p) (hcall : passStep settings s w p p.pc answer = some t)
    (heffect : CallEffect settings s t w p p.pc next) : GateInv settings t := by
  have hok := hinv.passes w p hp
  refine ⟨fun w' p' hp' => ?_, ?_, fun c hc => ?_⟩
  · obtain ⟨rfl, -⟩ | ⟨-, hp₀⟩ := passes_moved heffect.passes hp'
    · obtain ⟨hclaimed, hok'⟩ := passStep_ok hok hcall p' hp'
      rw [hclaimed]
      exact hok'
    · exact (hinv.passes w' p' hp₀).later heffect.tables
  · obtain hcycle | ⟨-, now, processingMs, tr, htr, happly⟩ := heffect.cycle
    · rw [hcycle]
      exact hinv.stored
    · exact storedDistinct_transition hok hinv.stored htr happly
  · obtain hsame | ⟨j, freshId, hpc, hinserted⟩ := heffect.classification
    · rw [hsame] at hc
      exact (hinv.classified c hc).later heffect.tables
    · rw [hinserted] at hc
      cases hrow : s.classification with
      | some c₀ =>
          -- the row was there: ON CONFLICT DO NOTHING
          rw [hrow, Option.getD_some] at hc
          obtain rfl := Option.some.inj hc
          exact (hinv.classified c₀ hrow).later heffect.tables
      | none =>
          rw [hrow, Option.getD_none] at hc
          obtain rfl := Option.some.inj hc
          rw [hpc] at hok
          exact ⟨p.claimed, j, Sound.later hok heffect.tables, rfl, rfl⟩

/-- **The step lemma of `GateInv`.** -/
theorem gateInv_step {a : WorkerAction} (hinv : GateInv settings s)
    (h : workerStep settings s a = some t) : GateInv settings t := by
  cases workerStep_effect h with
  | media kind messageId st audio images htables =>
      exact ⟨fun w p hp => (hinv.passes w p hp).later htables, hinv.stored,
        fun c hc => (hinv.classified c hc).later htables⟩
  | wake now cycle hwake =>
      refine ⟨fun w p hp => (hinv.passes w p hp).later (.of_eq rfl rfl), ?_,
        fun c hc => (hinv.classified c hc).later (.of_eq rfl rfl)⟩
      intro snapshot hsnapshot
      exact hinv.stored snapshot ((wakeCycle_snapshot hwake).symm.trans hsnapshot)
  | claim w now cycle hidle hclaim =>
      have hstored : StoredDistinct cycle := fun snapshot hsnapshot =>
        hinv.stored snapshot ((claimCycle_snapshot hclaim).symm.trans hsnapshot)
      refine ⟨fun w' p hp => ?_, hstored, fun c hc => (hinv.classified c hc).later (.of_eq rfl rfl)⟩
      obtain ⟨-, rfl⟩ | ⟨-, hp₀⟩ := passes_claimed hp
      · exact start_ok hstored
      · exact (hinv.passes w' p hp₀).later (.of_eq rfl rfl)
  | call w answer p t next hp hcall heffect => exact gateInv_call hinv hp hcall heffect
  | stop w a p next hact hp hend hnext =>
      refine ⟨fun w' p' hp' => ?_, hinv.stored,
        fun c hc => (hinv.classified c hc).later (.of_eq rfl rfl)⟩
      obtain ⟨rfl, pc, hpc, rfl⟩ | ⟨-, hp₀⟩ := passes_moved (t := s.goTo w p next) rfl hp'
      · obtain ⟨failure, rfl⟩ := hnext pc hpc
        trivial
      · exact (hinv.passes w' p' hp₀).later (.of_eq rfl rfl)

theorem gateInv_reachable (h : (workerMachine settings).Reachable s) : GateInv settings s := by
  refine Machine.ReachableWhere.invariant h ?_ fun s a t hinv _ hstep => gateInv_step hinv hstep
  rintro _ ⟨cycle, contact, -, hsnapshot, rfl⟩
  refine ⟨fun w p hp => ?_, fun snapshot hstored => ?_, fun c hc => ?_⟩
  · cases hp
  · have hnone : cycle.snapshotJson = some snapshot := hstored
    rw [hsnapshot] at hnone
    cases hnone
  · cases hc

/-! ## §7. The main result. -/

/-- Evidence for every audio and every image of a snapshot. -/
def MediaEvidence (s : World) (snapshot : Snapshot) : Prop :=
  ∀ m ∈ snapshot.messages, m.type.isAudio = true ∨ m.type = .image →
    ∃ r, s.mediaRow m = some r ∧ Evidence m.content r

theorem Sound.evidence {j : Judgement} (h : Sound settings claimed s j) :
    MediaEvidence s j.snapshot := by
  intro m hm hkind
  refine h.gated m hm ?_
  unfold isMedia isImageMessage
  obtain haudio | himage := hkind
  · rw [haudio, Bool.true_or]
  · rw [himage, Bool.or_true]

/-- **The media gate.**  In every reachable state: when a pass stands before
    `insert_classification`, every audio and every image of its snapshot has a
    completed row, the stripped text of the row is not blank and is the
    content of the message, and the model context and the reductions were
    built from these messages; and the classification row, where there is
    one, was built from messages with such evidence. -/
theorem media_gate (settings : Settings) {s : World} (h : (workerMachine settings).Reachable s) :
    (∀ w p j, s.passes w = some p → p.pc = .insertClassification j →
        MediaEvidence s j.snapshot ∧ j.Built settings p.claimed)
      ∧ ∀ c, s.classification = some c → ∃ (claimed : CycleRow) (j : Judgement), MediaEvidence s j.snapshot
          ∧ j.Built settings claimed ∧ c.messageIds = j.snapshot.messages.map (·.messageId)
          ∧ c.fullContext = j.modelContext := by
  have hinv := gateInv_reachable h
  constructor
  · intro w p j hp hpc
    have hok := hinv.passes w p hp
    rw [hpc] at hok
    exact ⟨Sound.evidence hok, hok.built⟩
  · intro c hc
    obtain ⟨claimed, j, hsound, hids, hcontext⟩ := hinv.classified c hc
    exact ⟨claimed, j, hsound.evidence, hsound.built, hids, hcontext⟩

/-- A history with one recorded message of the client. -/
def audioHistory : DigisacHistory :=
  ⟨[{ id := some "audio-1", type := .supported .ptt, timestamp := some 5 }], none, 1, 1, 0, by simp⟩

/-- Worker 0 finds the audio missing; the audio worker transcribes it; worker 1
    takes the cycle up from the stored snapshot. -/
def audioRun : List WorkerAction :=
  [.claim 0 100, .step 0 (.transition 100 0), .step 0 (.history audioHistory none),
   .step 0 (.saved []), .step 0 (.names [] [] []), .step 0 (.transition 100 0),
   .step 0 .read, .step 0 .read, .step 0 (.reserve 100), .step 0 .read, .step 0 .read,
   .step 0 .read, .step 0 (.transition 100 0),
   .media .audio "audio-1" (.claim 200 "audio-worker" 300),
   .media .audio "audio-1" (.result 300 300 "audio-worker" 200 audioEmptyError (.text " bom dia ")),
   .claim 1 40000000, .step 1 .read, .step 1 .read, .step 1 .read, .step 1 .read, .step 1 .read,
   .step 1 (.transition 40000000 0), .step 1 .analyzed]

/-- The judgement that a pass is about to insert. -/
def PC.judgement : PC → Option Judgement
  | .insertClassification j => some j
  | _ => none

theorem judgement_some {j : Judgement} (h : pc.judgement = some j) :
    pc = .insertClassification j := by
  cases pc with
  | insertClassification j' => exact congrArg PC.insertClassification (Option.some.inj h)
  | _ => cases h

/-- The transcription of the run is what worker 1 classifies. -/
theorem media_gate_transcribed :
    ∃ s p j m, (workerMachine defaultSettings).Reachable s ∧ s.passes 1 = some p
      ∧ p.pc = .insertClassification j ∧ j.snapshot.messages = [m] ∧ m.content = "bom dia"
      ∧ (∃ r, s.mediaRow m = some r ∧ Evidence m.content r)
      ∧ j.Built defaultSettings p.claimed := by
  have hrun : (((workerMachine defaultSettings).exec (World.fresh closedCycle none) audioRun).bind
      fun s => (s.passes 1).bind fun p => p.pc.judgement.map fun j =>
        j.snapshot.messages.map fun m => (m.type, m.content)) = some [(.ptt, "bom dia")] := by
    decide +kernel
  simp only [Option.bind_eq_some_iff, Option.map_eq_some_iff, List.map_eq_singleton_iff,
    Prod.mk.injEq] at hrun
  obtain ⟨s, hexec, p, hp, j, hj, m, hm, htype, hcontent⟩ := hrun
  have hreach : (workerMachine defaultSettings).Reachable s :=
    Machine.reachable_of_exec ⟨closedCycle, none, rfl, rfl, rfl⟩ hexec
  obtain ⟨hevidence, hbuilt⟩ :=
    (media_gate defaultSettings hreach).1 1 p j hp (judgement_some hj)
  refine ⟨s, p, j, m, hreach, hp, judgement_some hj, hm, hcontent, ?_, hbuilt⟩
  exact hevidence m (by rw [hm]; exact List.mem_singleton_self m) (.inl (by rw [htype]; rfl))

end Cai.Worker
