/-
  Cai.Worker.Coverage — a classification covers the messages of its cycle.

  The ids of the messages of a cycle are written three times: as rows of
  `conversation_cycle_messages`, in the stored snapshot, and in the
  classification.  Passes that follow one another keep the three in step,
  wherever they stop: the rows are replaced only while nothing is stored,
  and a classification is inserted only when the snapshot is.

  Main result: `covered_step`.
-/
import Cai.Worker.Gate
import Cai.Worker.Ownership

namespace Cai.Worker

open Cai.Lib
open Cai.Cycle Cai.Media Cai.Finalization

/-! ## §1. Three copies. -/

/-- The ids of the messages of the cycle, as the rows have them. -/
def World.ids (s : World) : List String := s.messages.map (·.messageId)

/-- A snapshot that was recovered from a history, and holds these messages. -/
structure Holds (ids : List String) (snapshot : Snapshot) : Prop where
  recovered : snapshot.historyRecovery.isSome = true
  ids : snapshot.messages.map (·.messageId) = ids

/-- What is known of a pass that stands at `pc`, given the stored snapshot, the
    ids of the rows, and whether there is a classification. -/
def PC.Covers (stored : Option Snapshot) (ids : List String) (classified : Bool) : PC → Prop
  | .toRecovering | .recoverHistory => stored = none
  | .saveMessages _ _ normalized => stored = none ∧ Distinct normalized.messages
  | .resolveNames _ _ _ messages _ => messages.map (·.messageId) = ids
  | .toBuilding snapshot | .readAudio _ snapshot | .readImages _ snapshot _
  | .reserveMedia snapshot _ | .toBlocked snapshot .. | .toWaiting snapshot ..
  | .toSummarizing snapshot | .summarize snapshot => Holds ids snapshot
  | .toClassifying j => Holds ids j.snapshot
  | .analyze j | .insertClassification j => Holds ids j.snapshot ∧ stored.isSome = true
  | .toFinal j _ => Holds ids j.snapshot ∧ classified = true
  | _ => True

/-- The three copies are in step. -/
structure InStep (s : World) : Prop where
  sorted : s.messages.Pairwise fun a b => a.position < b.position
  snapshot : ∀ snapshot, s.cycle.snapshotJson = some snapshot → Holds s.ids snapshot
  classification : ∀ row, s.classification = some row →
    s.cycle.snapshotJson.isSome = true ∧ row.messageIds = s.ids
  finished : s.cycle.status = .completed ∨ s.cycle.status = .completedWithWarnings →
    s.classification.isSome = true

/-- What is known of a pass in this world. -/
abbrev PC.CoversIn (s : World) (pc : PC) : Prop :=
  pc.Covers s.cycle.snapshotJson s.ids s.classification.isSome

/-- The invariant of passes that follow one another. -/
structure Covered (s : World) : Prop where
  inStep : InStep s
  alone : ∀ w w' p p', s.passes w = some p → s.passes w' = some p' → w = w'
  passes : ∀ w p, s.passes w = some p → p.pc.CoversIn s

variable {settings : Settings} {s t : World} {w : WorkerId} {p : Pass} {pc : PC}
  {claimed : CycleRow} {snapshot : Snapshot} {ids : List String} {stored : Option Snapshot}
  {classified : Bool}

/-- A pass that only works on the Request, or records a failure. -/
theorem PC.Covers.of_request (h : pc.isRequest = true) : pc.Covers stored ids classified := by
  cases pc with
  | loadContact => trivial
  | resolveIdentity contactId => trivial
  | evaluateMapping => trivial
  | ensureOperation => trivial
  | _ => cases h

/-- Where a pass starts. -/
theorem start_covers (h : ∀ snapshot, claimed.snapshotJson = some snapshot → Holds ids snapshot) :
    (PC.start claimed).Covers claimed.snapshotJson ids classified := by
  unfold PC.start
  split
  next snapshot hsnapshot =>
    have hholds := h snapshot hsnapshot
    rw [if_pos hholds.recovered]
    exact hholds
  next hnone => exact hnone

/-! ## §2. Snapshots of the same messages. -/

/-- Hydration keeps the ids. -/
theorem holds_hydrated (h : Holds ids snapshot) (states : ContentStates) (maxAttempts : Nat) :
    Holds ids (hydratedSnapshot snapshot
      (applyMediaStates snapshot.messages states maxAttempts).hydrated) := by
  refine ⟨h.recovered, ?_⟩
  show (snapshot.messages.map (hydrate states)).map (·.messageId) = ids
  rw [List.map_map, ← h.ids]
  exact List.map_congr_left fun m _ => hydrate_messageId states m

/-- Every branch of the gate goes on with these messages. -/
theorem gate_covers (h : Holds ids snapshot) (states : ContentStates) :
    (gate settings claimed snapshot states).Covers stored ids classified := by
  simp only [gate]
  split
  next => exact h
  next =>
    split
    next => exact h
    next =>
      have hholds := holds_hydrated h states settings.maxRetries
      split
      next => exact hholds
      next => exact hholds

theorem holds_warnEmpty (h : Holds ids snapshot) : Holds ids (warnEmpty snapshot) := by
  unfold warnEmpty
  split
  next => exact ⟨h.recovered, h.ids⟩
  next => exact h

/-- The snapshot of a recovered history. -/
theorem holds_recovered {messages : List Message} (h : messages.map (·.messageId) = ids)
    (closedAt : Timestamp) (history : DigisacHistory) (normalized : NormalizedHistory)
    (userNames : List (String × String)) (conflicts departments agents : List String) :
    Holds ids (recoveredSnapshot claimed closedAt history normalized
      (messages.map (nameSender userNames)) conflicts departments agents) := by
  refine ⟨rfl, ?_⟩
  show (messages.map (nameSender userNames)).map (·.messageId) = ids
  rw [List.map_map, ← h]
  exact List.map_congr_left fun m _ => nameSender_messageId userNames m

/-! ## §3. One transition. -/

variable {now : Timestamp} {processingMs : Nat} {tr : Transition}

/-- What a transition stores holds the messages of the cycle. -/
theorem transition_holds (hcovers : pc.Covers stored ids classified)
    (htr : pc.transition settings claimed now processingMs = some tr) {value : Snapshot}
    (h : tr.fields.snapshotJson = some (some value)) : Holds ids value := by
  cases pc with
  | toRecovering =>
      obtain rfl := Option.some.inj htr
      cases h
  | toBuilding snapshot =>
      obtain rfl := Option.some.inj htr
      obtain rfl := Option.some.inj (Option.some.inj h)
      exact hcovers
  | toBlocked snapshot blocked states =>
      obtain rfl := Option.some.inj htr
      obtain rfl := Option.some.inj (Option.some.inj h)
      have hholds : Holds ids snapshot := hcovers
      exact ⟨hholds.recovered, hholds.ids⟩
  | toWaiting snapshot pending states =>
      obtain rfl := Option.some.inj htr
      obtain rfl := Option.some.inj (Option.some.inj h)
      have hholds : Holds ids snapshot := hcovers
      exact ⟨hholds.recovered, hholds.ids⟩
  | toSummarizing snapshot =>
      obtain rfl := Option.some.inj htr
      obtain rfl := Option.some.inj (Option.some.inj h)
      exact hcovers
  | toClassifying j =>
      obtain rfl := Option.some.inj htr
      obtain rfl := Option.some.inj (Option.some.inj h)
      exact hcovers
  | toFinal j classificationId =>
      obtain rfl := Option.some.inj htr
      obtain rfl := Option.some.inj (Option.some.inj h)
      exact hcovers.1
  | recordFailure failure =>
      obtain rfl := Option.some.inj htr
      rw [failureTransition_stores_nothing] at h
      cases h
  | _ => cases htr

/-- A transition stores a snapshot, or leaves the stored one. -/
theorem transition_stores (htr : pc.transition settings claimed now processingMs = some tr) :
    tr.fields.snapshotJson = none ∨ ∃ value, tr.fields.snapshotJson = some (some value) := by
  cases pc with
  | recordFailure failure =>
      obtain rfl := Option.some.inj htr
      exact .inl (failureTransition_stores_nothing settings now claimed failure)
  | toRecovering =>
      obtain rfl := Option.some.inj htr
      exact .inl rfl
  | toBuilding snapshot =>
      obtain rfl := Option.some.inj htr
      exact .inr ⟨_, rfl⟩
  | toBlocked snapshot blocked states =>
      obtain rfl := Option.some.inj htr
      exact .inr ⟨_, rfl⟩
  | toWaiting snapshot pending states =>
      obtain rfl := Option.some.inj htr
      exact .inr ⟨_, rfl⟩
  | toSummarizing snapshot =>
      obtain rfl := Option.some.inj htr
      exact .inr ⟨_, rfl⟩
  | toClassifying j =>
      obtain rfl := Option.some.inj htr
      exact .inr ⟨_, rfl⟩
  | toFinal j classificationId =>
      obtain rfl := Option.some.inj htr
      exact .inr ⟨_, rfl⟩
  | _ => cases htr

/-- Only the last transition finishes the cycle. -/
theorem transition_finishes (htr : pc.transition settings claimed now processingMs = some tr)
    (h : tr.status = .completed ∨ tr.status = .completedWithWarnings) :
    ∃ j classificationId, pc = .toFinal j classificationId := by
  have hopen (status : Status) (hne : status ≠ .completed ∧ status ≠ .completedWithWarnings)
      (hstatus : tr.status = status) : ∃ j classificationId, pc = .toFinal j classificationId := by
    rw [hstatus] at h
    rcases h with h | h
    · exact absurd h hne.1
    · exact absurd h hne.2
  cases pc with
  | toRecovering => exact hopen .recoveringMessages (by decide) (by rw [← Option.some.inj htr]; rfl)
  | toBuilding snapshot => exact hopen .buildingContext (by decide) (by rw [← Option.some.inj htr]; rfl)
  | toBlocked snapshot blocked states =>
      exact hopen .mediaBlocked (by decide) (by rw [← Option.some.inj htr]; rfl)
  | toWaiting snapshot pending states =>
      exact hopen .waitingMedia (by decide) (by rw [← Option.some.inj htr]; rfl)
  | toSummarizing snapshot => exact hopen .summarizing (by decide) (by rw [← Option.some.inj htr]; rfl)
  | toClassifying j => exact hopen .classifying (by decide) (by rw [← Option.some.inj htr]; rfl)
  | toFinal j classificationId => exact ⟨j, classificationId, rfl⟩
  | recordFailure failure =>
      rcases failureTransition_status settings now claimed failure with hfailed | hretryable
      · exact hopen .failed (by decide) (by rw [← Option.some.inj htr]; exact hfailed)
      · exact hopen .retryableFailure (by decide) (by rw [← Option.some.inj htr]; exact hretryable)
  | _ => cases htr

theorem InStep.of_eq (h : InStep s) (hcycle : t.cycle = s.cycle) (hmessages : t.messages = s.messages)
    (hclassification : t.classification = s.classification) : InStep t := by
  have hids : t.ids = s.ids := by
    unfold World.ids
    rw [hmessages]
  refine ⟨?_, ?_, ?_, ?_⟩
  · rw [hmessages]
    exact h.sorted
  · rw [hcycle, hids]
    exact h.snapshot
  · rw [hcycle, hids, hclassification]
    exact h.classification
  · rw [hcycle, hclassification]
    exact h.finished

/-- A transition keeps the copies in step. -/
theorem inStep_transition {cycle : CycleRow} (h : InStep s) (hcovers : pc.CoversIn s)
    (htr : pc.transition settings claimed now processingMs = some tr)
    (happly : transitionCycle now tr s.cycle = some cycle) : InStep { s with cycle } := by
  obtain ⟨-, hcycle⟩ := transitionCycle_spec happly
  have hstored : cycle.snapshotJson = tr.fields.snapshotJson.getD s.cycle.snapshotJson := by
    rw [hcycle]
    rfl
  have hstatus : cycle.status = tr.status := by rw [hcycle, apply_status]
  refine ⟨h.sorted, fun snapshot hsnapshot => ?_, fun row hrow => ?_, fun hfinished => ?_⟩
  · have hsnapshot : cycle.snapshotJson = some snapshot := hsnapshot
    rw [hstored] at hsnapshot
    cases hset : tr.fields.snapshotJson with
    | none =>
        rw [hset, Option.getD_none] at hsnapshot
        exact h.snapshot snapshot hsnapshot
    | some value =>
        rw [hset, Option.getD_some] at hsnapshot
        exact transition_holds hcovers htr (hset.trans (congrArg some hsnapshot))
  · obtain ⟨hsome, hids⟩ := h.classification row hrow
    refine ⟨?_, hids⟩
    show cycle.snapshotJson.isSome = true
    rw [hstored]
    rcases transition_stores htr with hnone | ⟨value, hvalue⟩
    · rw [hnone]
      exact hsome
    · rw [hvalue]
      rfl
  · have hfinished : cycle.status = .completed ∨ cycle.status = .completedWithWarnings := hfinished
    rw [hstatus] at hfinished
    obtain ⟨j, classificationId, rfl⟩ := transition_finishes htr hfinished
    exact hcovers.2

/-- What is known of the pass after its transition, whether or not it matched the row. -/
theorem afterTransition_covers (hcovers : pc.CoversIn s)
    (htr : pc.transition settings claimed now processingMs = some tr) :
    ∀ pc' ∈ pc.afterTransition, pc'.Covers ((transitionCycle now tr s.cycle).getD s.cycle).snapshotJson
      s.ids s.classification.isSome := by
  intro pc' hpc'
  cases pc with
  | toRecovering =>
      obtain rfl := Option.some.inj hpc'
      obtain rfl := Option.some.inj htr
      -- this transition stores no snapshot
      show ((transitionCycle now (recoveringTransition claimed) s.cycle).getD s.cycle).snapshotJson = none
      cases happly : transitionCycle now (recoveringTransition claimed) s.cycle with
      | none => exact hcovers
      | some cycle =>
          rw [Option.getD_some, (transitionCycle_spec happly).2]
          exact hcovers
  | toBuilding snapshot => exact Option.some.inj hpc' ▸ hcovers
  | toSummarizing snapshot => exact Option.some.inj hpc' ▸ hcovers
  | toClassifying j =>
      obtain rfl := Option.some.inj hpc'
      obtain rfl := Option.some.inj htr
      -- it applies in every status
      exact ⟨hcovers, rfl⟩
  | toFinal j classificationId => exact Option.some.inj hpc' ▸ trivial
  | _ => exact absurd hpc' (Option.not_mem_none pc')

/-! ## §4. One call. -/

/-- The pass of `w`, after it has moved. -/
theorem goTo_covers {next : Option PC} (h : ∀ pc ∈ next, pc.CoversIn t) :
    ∀ p', (t.goTo w p next).passes w = some p' → p'.pc.CoversIn (t.goTo w p next) := by
  intro p' hp'
  obtain ⟨-, pc, hpc, rfl⟩ | ⟨hne, -⟩ := passes_moved (s := t) rfl hp'
  · exact h pc hpc
  · exact absurd rfl hne

/-- The copies stay in step where only the pass moves. -/
theorem moved_covers {next : PC} (hin : InStep t) (h : next.CoversIn t) :
    InStep (t.goTo w p (some next)) ∧ ∀ p', (t.goTo w p (some next)).passes w = some p' →
      p'.pc.CoversIn (t.goTo w p (some next)) :=
  ⟨hin.of_eq rfl rfl rfl, goTo_covers fun _ hpc => Option.some.inj hpc ▸ h⟩

/-- `save_cycle_messages`, while no snapshot is stored. -/
theorem inStep_saved (h : InStep s) (hnone : s.cycle.snapshotJson = none) {messages : List Message}
    (hdistinct : Distinct messages) (taken : List String) :
    InStep { s with messages := (saveCycleMessages taken messages).rows } := by
  refine ⟨saveCycleMessages_sorted hdistinct, fun snapshot hsnapshot => ?_, fun row hrow => ?_,
    h.finished⟩
  · have hsnapshot : s.cycle.snapshotJson = some snapshot := hsnapshot
    rw [hnone] at hsnapshot
    cases hsnapshot
  · obtain ⟨hsome, -⟩ := h.classification row hrow
    rw [hnone] at hsome
    cases hsome

/-- The accepted messages are those of the rows. -/
theorem ids_accepted {messages : List Message} (hdistinct : Distinct messages) (taken : List String) :
    (messages.filter (·.messageId ∈ (saveCycleMessages taken messages).accepted)).map (·.messageId)
      = (saveCycleMessages taken messages).rows.map (·.messageId) := by
  have hkeys := congrArg (List.map Prod.fst) (saveCycleMessages_keys taken hdistinct)
  rw [List.map_map, List.map_map] at hkeys
  rw [filter_accepted]
  exact hkeys.symm

/-- `insert_classification`, for a snapshot that is stored. -/
theorem inStep_inserted (h : InStep s) {row : Classification}
    (hsome : s.cycle.snapshotJson.isSome = true) (hids : row.messageIds = s.ids) :
    InStep { s with classification := some (s.classification.getD row) } := by
  refine ⟨h.sorted, h.snapshot, fun row' hrow' => ?_, fun _ => rfl⟩
  have hrow' : s.classification.getD row = row' := Option.some.inj hrow'
  cases hc : s.classification with
  | none =>
      rw [hc, Option.getD_none] at hrow'
      rw [← hrow']
      exact ⟨hsome, hids⟩
  | some row₀ =>
      -- the row was there: ON CONFLICT DO NOTHING
      rw [hc, Option.getD_some] at hrow'
      rw [← hrow']
      exact h.classification row₀ hc

/-- The work on the Request leaves the three copies alone. -/
theorem request_effect {next : Option PC} (hrequest : pc.isRequest = true)
    (h : CallEffect settings s t w p pc next) :
    t.cycle = s.cycle ∧ t.messages = s.messages ∧ t.classification = s.classification := by
  refine ⟨?_, ?_, ?_⟩
  · rcases h.cycle with hcycle | ⟨-, now, processingMs, tr, htr, -⟩
    · exact hcycle
    · rw [isRequest_transition hrequest] at htr
      cases htr
  · rcases h.messages with hmessages | ⟨closedAt, history, normalized, rfl⟩
    · exact hmessages
    · cases hrequest
  · rcases h.classification with hclassification | ⟨j, freshId, rfl, -⟩
    · exact hclassification
    · cases hrequest

/-- **The call lemma.**  Every call of a pass keeps the copies in step. -/
theorem passStep_covers {answer : Answer} (hin : InStep s) (hcovers : pc.CoversIn s)
    (h : passStep settings s w p pc answer = some t) :
    InStep t ∧ ∀ p', t.passes w = some p' → p'.pc.CoversIn t := by
  unfold passStep at h
  split at h
  next history previousClosedAt =>
    obtain ⟨closedAt, -, rfl⟩ := Option.map_eq_some_iff.mp h
    exact moved_covers hin ⟨hcovers, normalizeHistory_nodup history.ids_nodup _ _ _ _⟩
  next closedAt history normalized ownedElsewhere =>
    injection h with h
    subst h
    obtain ⟨hnone, hdistinct⟩ := hcovers
    exact moved_covers (inStep_saved hin hnone hdistinct ownedElsewhere)
      (ids_accepted hdistinct ownedElsewhere)
  next closedAt history normalized messages conflicts departments agents userNames =>
    injection h with h
    subst h
    exact moved_covers hin
      (holds_recovered hcovers closedAt history normalized userNames conflicts departments agents)
  next again snapshot =>
    injection h with h
    subst h
    exact moved_covers hin hcovers
  next again snapshot audio =>
    injection h with h
    subst h
    cases again with
    | false => exact moved_covers hin hcovers
    | true => exact moved_covers hin (gate_covers hcovers _)
  next snapshot =>
    injection h with h
    subst h
    exact moved_covers hin hcovers
  next snapshot m jobs now =>
    injection h with h
    subst h
    have hreserved : InStep (s.reserve settings p.claimed.conversationId now m) :=
      hin.of_eq rfl rfl rfl
    exact moved_covers hreserved hcovers
  next snapshot texts =>
    simp only [Option.ite_none_right_eq_some, Option.some.injEq] at h
    obtain ⟨-, rfl⟩ := h
    exact moved_covers hin hcovers
  next j =>
    injection h with h
    subst h
    exact moved_covers hin ⟨holds_warnEmpty hcovers.1, hcovers.2⟩
  next j freshId =>
    injection h with h
    subst h
    exact moved_covers (inStep_inserted hin hcovers.2 hcovers.1.ids) ⟨hcovers.1, rfl⟩
  next now processingMs =>
    obtain ⟨tr, htr, rfl⟩ := Option.map_eq_some_iff.mp h
    refine ⟨?_, goTo_covers (afterTransition_covers hcovers htr)⟩
    cases happly : transitionCycle now tr s.cycle with
    | none => exact hin.of_eq rfl rfl rfl
    | some cycle => exact (inStep_transition hin hcovers htr happly).of_eq rfl rfl rfl
  next =>
    have hrequest := requestStep_isRequest h
    have heffect : ∃ next, CallEffect settings s t w p pc next := requestStep_effect h
    obtain ⟨next, heffect⟩ := heffect
    obtain ⟨hcycle, hmessages, hclassification⟩ := request_effect hrequest heffect
    refine ⟨hin.of_eq hcycle hmessages hclassification, fun p' hp' => ?_⟩
    obtain ⟨-, pc', hpc', rfl⟩ | ⟨hne, -⟩ := passes_moved heffect.passes hp'
    · exact .of_request (heffect.request hrequest pc' hpc')
    · exact absurd rfl hne

/-! ## §5. One step. -/

/-- A row with the same snapshot, and with a status that is not final unless the old one was. -/
theorem InStep.with_cycle {cycle : CycleRow} (h : InStep s)
    (hsnapshot : cycle.snapshotJson = s.cycle.snapshotJson)
    (hstatus : cycle.status = .completed ∨ cycle.status = .completedWithWarnings →
      s.cycle.status = .completed ∨ s.cycle.status = .completedWithWarnings) :
    InStep { s with cycle } := by
  refine ⟨h.sorted, fun snapshot hstored => ?_, fun row hrow => ?_, fun hfinished => ?_⟩
  · exact h.snapshot snapshot (hsnapshot.symm.trans hstored)
  · obtain ⟨hsome, hids⟩ := h.classification row hrow
    refine ⟨?_, hids⟩
    show cycle.snapshotJson.isSome = true
    rw [hsnapshot]
    exact hsome
  · exact h.finished (hstatus hfinished)

/-- The actions of passes that follow one another: a cycle is claimed when
    no pass works on it. -/
def Follows (s : World) (a : WorkerAction) : Prop :=
  ∀ w now, a = .claim w now → ∀ w', s.passes w' = none

/-- Passes of one worker only. -/
theorem alone_moved {next : Option PC} (hinv : Covered s) (hp : s.passes w = some p)
    (hpasses : t.passes = Function.update s.passes w (next.map fun pc => { p with pc })) :
    ∀ w₁ p₁, t.passes w₁ = some p₁ → w₁ = w := by
  intro w₁ p₁ hp₁
  obtain ⟨hw, -⟩ | ⟨-, hp₀⟩ := passes_moved hpasses hp₁
  · exact hw
  · exact hinv.alone w₁ w p₁ p hp₀ hp

/-- **The step lemma of `Covered`.** -/
theorem covered_step {a : WorkerAction} (hinv : Covered s) (hfollows : Follows s a)
    (h : workerStep settings s a = some t) : Covered t := by
  cases workerStep_effect h with
  | media kind messageId st audio images htables =>
      exact ⟨hinv.inStep.of_eq rfl rfl rfl, hinv.alone, hinv.passes⟩
  | wake now cycle hwake =>
      have hsnapshot := wakeCycle_snapshot hwake
      refine ⟨hinv.inStep.with_cycle hsnapshot ?_, hinv.alone, fun w p hp => ?_⟩
      · intro hfinal
        rw [(wakeCycle_spec hwake).2.1] at hfinal
        exact absurd hfinal (by decide)
      · have hcovers := hinv.passes w p hp
        unfold PC.CoversIn at hcovers
        rw [← hsnapshot] at hcovers
        exact hcovers
  | claim w now cycle hidle hclaim =>
      have hsnapshot := claimCycle_snapshot hclaim
      have hnone : ∀ w', s.passes w' = none := hfollows w now rfl
      have honly : ∀ w' p', Function.update s.passes w (some ⟨cycle, PC.start cycle⟩) w' = some p' →
          w' = w ∧ p' = ⟨cycle, PC.start cycle⟩ := by
        intro w' p' hp'
        obtain hclaimed | ⟨-, hp₀⟩ := passes_claimed hp'
        · exact hclaimed
        · rw [hnone w'] at hp₀
          cases hp₀
      have hin : InStep { s with cycle } := by
        refine hinv.inStep.with_cycle hsnapshot fun hstatus => ?_
        rw [(claimCycle_spec hclaim).2.2.1] at hstatus
        exact hstatus
      refine ⟨hin.of_eq rfl rfl rfl, fun w₁ w₂ p₁ p₂ hp₁ hp₂ => ?_, fun w' p' hp' => ?_⟩
      · exact (honly w₁ p₁ hp₁).1.trans (honly w₂ p₂ hp₂).1.symm
      · obtain ⟨-, rfl⟩ := honly w' p' hp'
        exact start_covers hin.snapshot
  | call w answer p t next hp hcall heffect =>
      have hone := alone_moved hinv hp heffect.passes
      obtain ⟨hin, hpass⟩ := passStep_covers hinv.inStep (hinv.passes w p hp) hcall
      refine ⟨hin, fun w₁ w₂ p₁ p₂ hp₁ hp₂ => ?_, fun w' p' hp' => ?_⟩
      · exact (hone w₁ p₁ hp₁).trans (hone w₂ p₂ hp₂).symm
      · obtain rfl := hone w' p' hp'
        exact hpass p' hp'
  | stop w a p next hact hp hend hnext =>
      have hone := alone_moved (t := s.goTo w p next) hinv hp rfl
      refine ⟨hinv.inStep.of_eq rfl rfl rfl, fun w₁ w₂ p₁ p₂ hp₁ hp₂ => ?_, fun w' p' hp' => ?_⟩
      · exact (hone w₁ p₁ hp₁).trans (hone w₂ p₂ hp₂).symm
      · obtain ⟨-, pc, hpc, rfl⟩ | ⟨hne, -⟩ := passes_moved (t := s.goTo w p next) rfl hp'
        · obtain ⟨failure, rfl⟩ := hnext pc hpc
          trivial
        · exact absurd (hone w' p' hp') hne

/-- A cycle that no worker has claimed yet. -/
theorem covered_fresh {cycle : CycleRow} (contact : Option Nat) (hstatus : cycle.status = .pending)
    (hsnapshot : cycle.snapshotJson = none) : Covered (World.fresh cycle contact) := by
  refine ⟨⟨List.Pairwise.nil, fun snapshot hstored => ?_, fun row hrow => ?_, fun hfinished => ?_⟩,
    fun w w' p p' hp => ?_, fun w p hp => ?_⟩
  · have hstored : cycle.snapshotJson = some snapshot := hstored
    rw [hsnapshot] at hstored
    cases hstored
  · cases hrow
  · have hfinished : cycle.status = .completed ∨ cycle.status = .completedWithWarnings := hfinished
    rw [hstatus] at hfinished
    exact absurd hfinished (by decide)
  · cases hp
  · cases hp

end Cai.Worker
