/-
  Cai.Worker.Steps — what a step of the passes changes.

  Each call of a pass moves its program counter and changes at most one
  table; `passStep_effect` says so once, and the invariants of the three
  main results are derived from it.
-/
import Cai.Worker.Pass

namespace Cai.Worker

open Cai.Lib
open Cai.Cycle Cai.Media Cai.Finalization

variable {settings : Settings} {s t : World} {w : WorkerId} {p : Pass} {pc : PC}
  {answer : Answer} {a : WorkerAction}

/-! ## §1. The world around a moved pass. -/

@[simp] theorem goTo_cycle (s : World) (w : WorkerId) (p : Pass) (pc : Option PC) :
    (s.goTo w p pc).cycle = s.cycle := rfl

/-- Completed media rows stay as they are. -/
structure TablesLater (s t : World) : Prop where
  audio : ∀ id r, s.audio id = some r → r.status = .completed → t.audio id = some r
  images : ∀ id r, s.images id = some r → r.status = .completed → t.images id = some r

theorem TablesLater.of_eq (haudio : t.audio = s.audio) (himages : t.images = s.images) :
    TablesLater s t :=
  ⟨fun _ _ h _ => haudio ▸ h, fun _ _ h _ => himages ▸ h⟩

theorem TablesLater.reserve (settings : Settings) (conversationId : String) (now : Timestamp)
    (m : Message) (s : World) : TablesLater s (s.reserve settings conversationId now m) := by
  unfold World.reserve
  by_cases haudio : m.type.isAudio = true
  · simp only [haudio, if_true]
    exact ⟨fun _ _ hr hc => runStatement_completed hr hc, fun _ _ hr _ => hr⟩
  · simp only [haudio]
    exact ⟨fun _ _ hr _ => hr, fun _ _ hr hc => runStatement_completed hr hc⟩

/-- What is on record about the Request stays on record. -/
structure RecordLater (s t : World) : Prop where
  contact : t.contact = s.contact
  resolution : ∀ r, s.resolution = some r → t.resolution = some r
  mapping : ∀ m, s.mapping = some m → t.mapping = some m
  operation : s.operation = true → t.operation = true

theorem RecordLater.of_eq (hcontact : t.contact = s.contact) (hresolution : t.resolution = s.resolution)
    (hmapping : t.mapping = s.mapping) (hoperation : t.operation = s.operation) : RecordLater s t :=
  ⟨hcontact, fun _ h => hresolution ▸ h, fun _ h => hmapping ▸ h, fun h => hoperation ▸ h⟩

/-! ## §2. One call. -/

/-- The effect of one call of a pass that stands at `pc` and goes on at `next`. -/
structure CallEffect (settings : Settings) (s t : World) (w : WorkerId) (p : Pass) (pc : PC)
    (next : Option PC) : Prop where
  passes : t.passes = Function.update s.passes w (next.map fun pc => { p with pc })
  holder : t.holder = s.holder
  tables : TablesLater s t
  record : RecordLater s t
  /-- The row changes through the transition of the program counter only. -/
  cycle : t.cycle = s.cycle ∨ next = pc.afterTransition ∧ ∃ now processingMs tr,
    pc.transition settings p.claimed now processingMs = some tr
      ∧ transitionCycle now tr s.cycle = some t.cycle
  /-- The messages change through `save_cycle_messages` only. -/
  messages : t.messages = s.messages ∨ ∃ closedAt history normalized,
    pc = .saveMessages closedAt history normalized
  /-- A classification is inserted where there is none. -/
  classification : t.classification = s.classification ∨ ∃ j freshId,
    pc = .insertClassification j ∧ t.classification = some (s.classification.getD
      { id := freshId, messageIds := j.snapshot.messages.map (·.messageId)
        fullContext := j.modelContext })
  /-- A resolution is written where there is none. -/
  resolution : t.resolution = s.resolution ∨ ∃ contactId state,
    pc = .resolveIdentity contactId
      ∧ t.resolution = some (s.resolution.getD (contactId, state))
  /-- The work on the Request is the last part of a pass. -/
  request : pc.isRequest = true → ∀ pc' ∈ next, pc'.isRequest = true
  /-- It goes on with the contact that it has read. -/
  contact : ∀ contactId, next = some (.resolveIdentity contactId) →
    s.knownContact = some contactId

/-- A call that only moves the pass. -/
theorem CallEffect.move (pc : PC) (next : Option PC)
    (hrequest : pc.isRequest = true → ∀ pc' ∈ next, pc'.isRequest = true)
    (hcontact : ∀ contactId, next = some (.resolveIdentity contactId) →
      s.knownContact = some contactId) :
    CallEffect settings s (s.goTo w p next) w p pc next :=
  ⟨rfl, rfl, .of_eq rfl rfl, .of_eq rfl rfl rfl rfl, .inl rfl, .inl rfl, .inl rfl, .inl rfl,
    hrequest, hcontact⟩

/-- The work on the Request makes no transition. -/
theorem isRequest_transition {claimed : CycleRow} {now : Timestamp} {processingMs : Nat}
    (h : pc.isRequest = true) : pc.transition settings claimed now processingMs = none := by
  cases pc with
  | loadContact => rfl
  | resolveIdentity => rfl
  | evaluateMapping => rfl
  | ensureOperation => rfl
  | _ => cases h

/-- It calls no provider. -/
theorem isRequest_isProvider (h : pc.isRequest = true) : pc.isProvider = false := by
  cases pc with
  | summarize snapshot => cases h
  | analyze j => cases h
  | _ => rfl

theorem requestStep_effect (h : requestStep s w p pc answer = some t) :
    ∃ next, CallEffect settings s t w p pc next := by
  unfold requestStep at h
  split at h
  next =>
    injection h with h
    subst h
    refine ⟨_, .move .loadContact _ (fun _ pc' hpc' => ?_) fun contactId hnext => ?_⟩
    · simp only [Option.mem_def, Option.ite_none_right_eq_some, Option.map_eq_some_iff] at hpc'
      obtain ⟨-, contactId, -, rfl⟩ := hpc'
      rfl
    · simp only [Option.ite_none_right_eq_some, Option.map_eq_some_iff] at hnext
      obtain ⟨-, contactId', hknown, heq⟩ := hnext
      injection heq with heq
      rw [hknown, heq]
  next contactId state =>
    injection h with h
    subst h
    refine ⟨_, rfl, rfl, .of_eq rfl rfl, ⟨rfl, ?_, fun _ h => h, fun h => h⟩, .inl rfl, .inl rfl,
      .inl rfl, .inr ⟨contactId, state, rfl, rfl⟩, ?_, fun contactId hnext => ?_⟩
    · intro r hr
      show some (s.resolution.getD (contactId, state)) = some r
      rw [hr, Option.getD_some]
    · intro _ pc' hpc'
      simp only [Option.ite_none_right_eq_some, Option.mem_def, Option.some.injEq] at hpc'
      rw [← hpc'.2]
      rfl
    · simp only [Option.ite_none_right_eq_some, Option.some.injEq] at hnext
      cases hnext.2
  next state =>
    injection h with h
    subst h
    refine ⟨_, rfl, rfl, .of_eq rfl rfl, ⟨rfl, fun _ h => h, ?_, fun h => h⟩, .inl rfl, .inl rfl,
      .inl rfl, .inl rfl, ?_, fun contactId hnext => ?_⟩
    · intro m hm
      show some (s.mapping.getD state) = some m
      rw [hm, Option.getD_some]
    · intro _ pc' hpc'
      simp only [Option.ite_none_right_eq_some, Option.mem_def, Option.some.injEq] at hpc'
      rw [← hpc'.2]
      rfl
    · simp only [Option.ite_none_right_eq_some, Option.some.injEq] at hnext
      cases hnext.2
  next =>
    injection h with h
    subst h
    exact ⟨none, rfl, rfl, .of_eq rfl rfl, ⟨rfl, fun _ h => h, fun _ h => h, fun _ => rfl⟩, .inl rfl,
      .inl rfl, .inl rfl, .inl rfl, fun _ pc' hpc' => absurd hpc' (Option.not_mem_none pc'), nofun⟩
  next => cases h

/-- The gate leads to a transition. -/
theorem gate_isRequest (settings : Settings) (claimed : CycleRow) (snapshot : Snapshot)
    (states : ContentStates) : (gate settings claimed snapshot states).isRequest = false := by
  simp only [gate]
  repeat' split
  all_goals rfl

/-- The work on the Request is `requestStep`. -/
theorem passStep_of_isRequest (h : pc.isRequest = true) :
    passStep settings s w p pc answer = requestStep s w p pc answer := by
  cases pc with
  | loadContact => cases answer <;> rfl
  | resolveIdentity contactId => cases answer <;> rfl
  | evaluateMapping => cases answer <;> rfl
  | ensureOperation => cases answer <;> rfl
  | _ => cases h

/-- **What a call changes.** -/
theorem passStep_effect (h : passStep settings s w p pc answer = some t) :
    ∃ next, CallEffect settings s t w p pc next := by
  unfold passStep at h
  split at h
  next history previousClosedAt =>
    obtain ⟨closedAt, -, rfl⟩ := Option.map_eq_some_iff.mp h
    exact ⟨_, .move _ _ nofun nofun⟩
  next closedAt history normalized ownedElsewhere =>
    injection h with h
    subst h
    exact ⟨_, rfl, rfl, .of_eq rfl rfl, .of_eq rfl rfl rfl rfl, .inl rfl,
      .inr ⟨closedAt, history, normalized, rfl⟩, .inl rfl, .inl rfl, nofun, nofun⟩
  next =>
    injection h with h
    subst h
    exact ⟨_, .move _ _ nofun nofun⟩
  next =>
    injection h with h
    subst h
    exact ⟨_, .move _ _ nofun nofun⟩
  next again snapshot audio =>
    injection h with h
    subst h
    refine ⟨_, .move _ _ nofun fun contactId hnext => ?_⟩
    cases again with
    | false => cases hnext
    | true =>
        have hgate := congrArg PC.isRequest (Option.some.inj hnext)
        rw [if_pos rfl, gate_isRequest] at hgate
        cases hgate
  next =>
    injection h with h
    subst h
    exact ⟨_, .move _ _ nofun nofun⟩
  next snapshot m jobs now =>
    injection h with h
    subst h
    have htables := TablesLater.reserve settings p.claimed.conversationId now m s
    exact ⟨_, rfl, rfl, ⟨htables.audio, htables.images⟩, .of_eq rfl rfl rfl rfl, .inl rfl, .inl rfl,
      .inl rfl, .inl rfl, nofun, nofun⟩
  next =>
    simp only [Option.ite_none_right_eq_some, Option.some.injEq] at h
    obtain ⟨-, rfl⟩ := h
    exact ⟨_, .move _ _ nofun nofun⟩
  next =>
    injection h with h
    subst h
    exact ⟨_, .move _ _ nofun nofun⟩
  next j freshId =>
    injection h with h
    subst h
    exact ⟨_, rfl, rfl, .of_eq rfl rfl, .of_eq rfl rfl rfl rfl, .inl rfl, .inl rfl,
      .inr ⟨j, freshId, rfl, rfl⟩, .inl rfl, nofun, nofun⟩
  next now processingMs =>
    -- a transition that matches no row leaves it as it is
    obtain ⟨tr, htr, rfl⟩ := Option.map_eq_some_iff.mp h
    refine ⟨_, rfl, rfl, .of_eq rfl rfl, .of_eq rfl rfl rfl rfl, ?_, .inl rfl, .inl rfl, .inl rfl, ?_, ?_⟩
    · cases hrow : transitionCycle now tr s.cycle with
      | none => exact .inl (by rw [goTo_cycle]; rfl)
      | some cycle => exact .inr ⟨rfl, now, processingMs, tr, htr, by rw [goTo_cycle, hrow]; rfl⟩
    · intro hrequest
      rw [isRequest_transition hrequest] at htr
      cases htr
    · intro contactId hnext
      -- the final transition leads to the reading of the contact
      cases pc <;> cases hnext
  next => exact requestStep_effect h

/-! ## §3. One step. -/

/-- The effect of one action on the world. -/
inductive WorldEffect (settings : Settings) (s : World) : WorkerAction → World → Prop
  | media (kind : MediaKind) (messageId : String) (st : ContentStatement) (audio images : MediaTable)
      (htables : TablesLater s { s with audio, images }) :
      WorldEffect settings s (.media kind messageId st) { s with audio, images }
  | wake (now : Timestamp) (cycle : CycleRow) (hwake : wakeCycle now s.cycle = some cycle) :
      WorldEffect settings s (.wake now) { s with cycle }
  | claim (w : WorkerId) (now : Timestamp) (cycle : CycleRow) (hidle : s.passes w = none)
      (hclaim : claimCycle now (settings.owner w) settings.leaseSeconds s.cycle = some cycle) :
      WorldEffect settings s (.claim w now)
        { s with
          cycle, holder := some w
          passes := Function.update s.passes w (some ⟨cycle, PC.start cycle⟩) }
  | call (w : WorkerId) (answer : Answer) (p : Pass) (t : World) (next : Option PC)
      (hp : s.passes w = some p) (hcall : passStep settings s w p p.pc answer = some t)
      (heffect : CallEffect settings s t w p p.pc next) :
      WorldEffect settings s (.step w answer) t
  /-- A call raises or the worker crashes: the pass ends, or records its failure. -/
  | stop (w : WorkerId) (a : WorkerAction) (p : Pass) (next : Option PC)
      (ha : (∃ failure, a = .fail w failure) ∨ (a = .windowActive w ∧ p.pc.isProvider = true)
        ∨ a = .crash w)
      (hp : s.passes w = some p) (hend : p.pc.isRequest = true → next = none)
      (hnext : ∀ pc ∈ next, ∃ failure, pc = .recordFailure failure) :
      WorldEffect settings s a (s.goTo w p next)

/-- A failure makes the cycle wait, or ends it. -/
theorem failureTransition_status (settings : Settings) (now : Timestamp) (claimed : CycleRow)
    (failure : Failure) : (failureTransition settings now claimed failure).status = .failed
      ∨ (failureTransition settings now claimed failure).status = .retryableFailure := by
  cases failure with
  | transient error notBefore => exact .inr rfl
  | other error notBefore =>
      by_cases hattempt : settings.maxRetries ≤ claimed.attemptCount + 1
      · exact .inl (by simp only [failureTransition, if_pos hattempt])
      · exact .inr (by simp only [failureTransition, if_neg hattempt])

/-- Where a raised error leads. -/
theorem onFailure_spec {failure : Failure} {next : Option PC} (h : pc.onFailure failure = some next) :
    (pc.isRequest = true → next = none) ∧ ∀ pc' ∈ next, ∃ failure, pc' = .recordFailure failure := by
  have hnone : (none : Option PC) = next → (pc.isRequest = true → next = none)
      ∧ ∀ pc' ∈ next, ∃ failure, pc' = .recordFailure failure := by
    rintro rfl
    exact ⟨fun _ => rfl, fun pc' hpc' => absurd hpc' (Option.not_mem_none pc')⟩
  have hsome : pc.isRequest = false → some (PC.recordFailure failure) = next →
      (pc.isRequest = true → next = none) ∧ ∀ pc' ∈ next, ∃ failure, pc' = .recordFailure failure := by
    rintro hpc rfl
    refine ⟨fun hreq => absurd hreq (by simp [hpc]), fun pc' hpc' => ⟨failure, ?_⟩⟩
    exact (Option.some.inj hpc').symm
  unfold PC.onFailure at h
  split at h
  next => exact hnone (Option.some.inj h)
  next =>
    split at h
    next => exact hnone (Option.some.inj h)
    next hreq =>
      have hreq : pc.isRequest = false := by simpa using hreq
      rw [Option.ite_none_right_eq_some] at h
      obtain ⟨-, h⟩ := h
      split at h
      next =>
        simp only [Option.ite_none_right_eq_some] at h
        exact hsome hreq (Option.some.inj h.2)
      next => exact hsome hreq (Option.some.inj h)

/-- **What a step does.** -/
theorem workerStep_effect (h : workerStep settings s a = some t) : WorldEffect settings s a t := by
  cases a with
  | media kind messageId st =>
      cases kind with
      | audio =>
          injection h with h
          subst h
          exact .media .audio messageId st _ _
            ⟨fun _ _ hr hc => runStatement_completed hr hc, fun _ _ hr _ => hr⟩
      | image =>
          injection h with h
          subst h
          exact .media .image messageId st _ _
            ⟨fun _ _ hr _ => hr, fun _ _ hr hc => runStatement_completed hr hc⟩
  | wake now =>
      simp only [workerStep, Option.ite_none_left_eq_some, Option.map_eq_some_iff] at h
      obtain ⟨-, cycle, hwake, rfl⟩ := h
      exact .wake now cycle hwake
  | claim w now =>
      simp only [workerStep, Option.ite_none_left_eq_some, Option.map_eq_some_iff] at h
      obtain ⟨hidle, cycle, hclaim, rfl⟩ := h
      exact .claim w now cycle (by simpa using hidle) hclaim
  | step w answer =>
      obtain ⟨p, hp, hcall⟩ := Option.bind_eq_some_iff.mp h
      obtain ⟨next, heffect⟩ := passStep_effect hcall
      exact .call w answer p t next hp hcall heffect
  | fail w failure =>
      obtain ⟨p, hp, h⟩ := Option.bind_eq_some_iff.mp h
      obtain ⟨next, hnext, rfl⟩ := Option.map_eq_some_iff.mp h
      obtain ⟨hend, hfailure⟩ := onFailure_spec hnext
      exact .stop w _ p next (.inl ⟨failure, rfl⟩) hp hend hfailure
  | windowActive w =>
      obtain ⟨p, hp, h⟩ := Option.bind_eq_some_iff.mp h
      simp only [Option.ite_none_right_eq_some, Option.some.injEq] at h
      obtain ⟨hprovider, rfl⟩ := h
      exact .stop w _ p none (.inr (.inl ⟨rfl, hprovider⟩)) hp (fun _ => rfl)
        fun pc hpc => absurd hpc (Option.not_mem_none pc)
  | crash w =>
      obtain ⟨p, hp, rfl⟩ := Option.map_eq_some_iff.mp h
      exact .stop w _ p none (.inr (.inr rfl)) hp (fun _ => rfl)
        fun pc hpc => absurd hpc (Option.not_mem_none pc)

/-! ## §4. Who acts. -/

/-- The worker whose pass an action begins, moves or ends. -/
def WorkerAction.worker : WorkerAction → Option WorkerId
  | .media .. | .wake _ => none
  | .claim w _ | .step w _ | .fail w _ | .windowActive w | .crash w => some w

/-- The passes after the pass of `w` has moved. -/
theorem passes_moved {next : Option PC} {w' : WorkerId} {p' : Pass}
    (hpasses : t.passes = Function.update s.passes w (next.map fun pc => { p with pc }))
    (h : t.passes w' = some p') :
    (w' = w ∧ ∃ pc, next = some pc ∧ p' = { p with pc })
      ∨ (w' ≠ w ∧ s.passes w' = some p') := by
  by_cases hw : w' = w
  · subst hw
    rw [hpasses, Function.update_self, Option.map_eq_some_iff] at h
    obtain ⟨pc, hpc, rfl⟩ := h
    exact .inl ⟨rfl, pc, hpc, rfl⟩
  · rw [hpasses, Function.update_of_ne hw] at h
    exact .inr ⟨hw, h⟩

/-- The passes after `w` was given the cycle. -/
theorem passes_claimed {cycle : CycleRow} {w' : WorkerId} {p' : Pass}
    (h : Function.update s.passes w (some ⟨cycle, PC.start cycle⟩) w' = some p') :
    (w' = w ∧ p' = ⟨cycle, PC.start cycle⟩) ∨ (w' ≠ w ∧ s.passes w' = some p') := by
  by_cases hw : w' = w
  · subst hw
    rw [Function.update_self] at h
    exact .inl ⟨rfl, (Option.some.inj h).symm⟩
  · rw [Function.update_of_ne hw] at h
    exact .inr ⟨hw, h⟩

/-- A worker that does not act stays idle. -/
theorem idle_step (h : workerStep settings s a = some t) (ha : a.worker ≠ some w)
    (hidle : s.passes w = none) : t.passes w = none := by
  cases workerStep_effect h with
  | media kind messageId st audio images htables => exact hidle
  | wake now cycle hwake => exact hidle
  | claim w' now cycle hidle' hclaim =>
      have hne : w ≠ w' := fun heq => ha (congrArg some heq.symm)
      show Function.update s.passes w' _ w = none
      rw [Function.update_of_ne hne]
      exact hidle
  | call w' answer p t next hp hcall heffect =>
      have hne : w ≠ w' := fun heq => ha (congrArg some heq.symm)
      rw [heffect.passes, Function.update_of_ne hne]
      exact hidle
  | stop w' a p next hact hp hend hnext =>
      have hne : w ≠ w' := by
        rintro rfl
        rw [hidle] at hp
        cases hp
      show Function.update s.passes w' _ w = none
      rw [Function.update_of_ne hne]
      exact hidle

/-- The same over a run. -/
theorem idle_exec {as : List WorkerAction} (h : (workerMachine settings).exec s as = some t)
    (has : ∀ a ∈ as, a.worker ≠ some w) (hidle : s.passes w = none) : t.passes w = none := by
  induction as generalizing s with
  | nil =>
      injection h with h
      rw [← h]
      exact hidle
  | cons a as ih =>
      simp only [Machine.exec, Option.bind_eq_some_iff] at h
      obtain ⟨u, ha, hu⟩ := h
      have hidle' : u.passes w = none := idle_step ha (has a List.mem_cons_self) hidle
      exact ih hu (fun b hb => has b (List.mem_cons_of_mem _ hb)) hidle'

/-! ## §5. Runs over a cycle without messages. -/

section Runs

/-- Settings as the code has them by default. -/
def defaultSettings : Settings :=
  { owner := fun w => "worker-" ++ toString w, leaseSeconds := 300, maxRetries := 3
    mediaStatusRecheck := 30000000, contextSafeInputTokens := 96000
    contextChunkTokens := 12000, audioModel := "whisper", imageModel := "vision"
    display := ⟨fun _ => "", 240⟩ }

/-- A cycle whose ticket was closed at 10. -/
def closedCycle : CycleRow :=
  { id := 1, publicId := 101, conversationId := "ticket", sequenceNumber := 1
    ticketClosedAt := some 10, openEventKey := none, closeEventKey := some "close"
    digisacContactExternalId := some "contact", createdAt := 0, cycleStartedAt := some 0
    cycleStartStrategy := "opened_event", status := .pending, updatedAt := 10 }

def emptyHistory : DigisacHistory := ⟨[], none, 1, 0, 0, by simp⟩

/-- A first pass of `w`, up to `classifying`. -/
def firstPass (w : WorkerId) (now : Timestamp) : List WorkerAction :=
  [.claim w now, .step w (.transition now 0), .step w (.history emptyHistory none),
   .step w (.saved []), .step w (.names [] [] []), .step w (.transition now 0),
   .step w .read, .step w .read, .step w .read, .step w .read, .step w .read,
   .step w (.transition now 0)]

/-- A later pass of `w`, up to `classifying`. -/
def laterPass (w : WorkerId) (now : Timestamp) : List WorkerAction :=
  [.claim w now, .step w .read, .step w .read, .step w .read, .step w .read, .step w .read,
   .step w (.transition now 0)]

/-- From `classifying` to the final status. -/
def classified (w : WorkerId) (now : Timestamp) : List WorkerAction :=
  [.step w .analyzed, .step w (.inserted 7), .step w (.transition now 0)]

end Runs

end Cai.Worker
