/-
  Cai.Worker.Decision — the Request decision of a finished cycle.

  A pass writes the final status in one transaction and works on the
  Request in up to four more; a finished cycle is never claimed again.
  So the pass that finished the cycle is the only one that may still
  decide, and a crash or an error in that part of it is never repaired.

  Main results:
    * `request_decided` — while no pass stops there undecided, every idle
      finished cycle has its decision on record.
    * `request_not_decided` — a crash after the final transition.
-/
import Cai.Worker.Steps

namespace Cai.Worker

open Cai.Lib
open Cai.Cycle Cai.Media Cai.Finalization
open Cai.Mapping (ResolutionState MappingState)

variable {settings : Settings} {s t : World} {w : WorkerId} {p : Pass} {pc : PC}
  {a : WorkerAction}

/-! ## §1. The decision. -/

/-- The decision is on record: an operation, a resolution that is not
    confirmed, a mapping that is not resolved, or no known contact. -/
def World.decided (s : World) : Bool :=
  s.operation || s.resolution.any (·.2 != ResolutionState.confirmed)
    || s.mapping.any (· != MappingState.resolved) || s.knownContact.isNone

/-- The cycle is completed, with or without warnings. -/
def World.finished (s : World) : Prop :=
  s.cycle.status = .completed ∨ s.cycle.status = .completedWithWarnings

/-- A pass that still works on the Request. -/
def World.requesting (s : World) (w : WorkerId) : Prop :=
  ∃ p, s.passes w = some p ∧ p.pc.isRequest = true

theorem decided_iff : s.decided = true ↔ s.operation = true
    ∨ (∃ r, s.resolution = some r ∧ r.2 ≠ .confirmed)
    ∨ (∃ m, s.mapping = some m ∧ m ≠ .resolved) ∨ s.knownContact = none := by
  unfold World.decided
  simp only [Bool.or_eq_true, Option.any_eq_true, Option.isNone_iff_eq_none, bne_iff_ne, or_assoc]

/-- The contact external id is not written. -/
theorem knownContact_eq (hcontact : t.contact = s.contact)
    (hkey : t.cycle.toCycleKey = s.cycle.toCycleKey) : t.knownContact = s.knownContact := by
  have hext : t.cycle.digisacContactExternalId = s.cycle.digisacContactExternalId :=
    congrArg CycleKey.digisacContactExternalId hkey
  unfold World.knownContact
  rw [hcontact, hext]

/-- What is on record stays on record. -/
theorem decided_later (h : s.decided = true) (hrecord : RecordLater s t)
    (hkey : t.cycle.toCycleKey = s.cycle.toCycleKey) : t.decided = true := by
  rw [decided_iff] at h ⊢
  obtain hop | ⟨r, hr, hstate⟩ | ⟨m, hm, hstate⟩ | hnone := h
  · exact .inl (hrecord.operation hop)
  · exact .inr (.inl ⟨r, hrecord.resolution r hr, hstate⟩)
  · exact .inr (.inr (.inl ⟨m, hrecord.mapping m hm, hstate⟩))
  · exact .inr (.inr (.inr ((knownContact_eq hrecord.contact hkey).trans hnone)))

/-- No call of a pass writes the key of the cycle. -/
theorem CallEffect.key {next : Option PC} (h : CallEffect settings s t w p pc next) :
    t.cycle.toCycleKey = s.cycle.toCycleKey := by
  obtain hcycle | ⟨-, now, processingMs, tr, -, happly⟩ := h.cycle
  · rw [hcycle]
  · rw [(transitionCycle_spec happly).2, apply_key]

/-! ## §2. The work on the Request. -/

/-- The resolution and the passes that ask for it name the contact of the cycle. -/
structure ContactInv (s : World) : Prop where
  resolution : ∀ r, s.resolution = some r → s.contact = some r.1
  passes : ∀ w p contactId, s.passes w = some p → p.pc = .resolveIdentity contactId →
    s.contact = some contactId

/-- A pass that has just moved on. -/
theorem requesting_goTo (s : World) (w : WorkerId) (p : Pass) (hpc : pc.isRequest = true) :
    (s.goTo w p (some pc)).requesting w :=
  ⟨{ p with pc }, Function.update_self w _ _, hpc⟩

/-- **The progress of a Request.**  In a finished cycle each call leads to the
    next one, or leaves the decision on record. -/
theorem requestStep_progress {answer : Answer} (hinv : ContactInv s) (hp : s.passes w = some p)
    (hpc : p.pc = pc) (hfinished : s.finished) (h : requestStep s w p pc answer = some t) :
    t.requesting w ∨ t.decided = true := by
  unfold requestStep at h
  split at h
  next =>
    injection h with h
    subst h
    unfold World.finished at hfinished
    rw [if_pos hfinished]
    cases hknown : s.knownContact with
    | none => exact .inr (decided_iff.mpr (.inr (.inr (.inr hknown))))
    | some contactId => exact .inl (requesting_goTo s w p rfl)
  next contactId state =>
    injection h with h
    subst h
    -- an earlier resolution is of the same contact
    have hcontact : (s.resolution.getD (contactId, state)).1 = contactId := by
      cases hr : s.resolution with
      | none => rfl
      | some r =>
          have hsome := (hinv.resolution r hr).symm.trans (hinv.passes w p contactId hp hpc)
          exact Option.some.inj hsome
    by_cases hconfirmed : s.resolution.getD (contactId, state) = (contactId, .confirmed)
    · rw [if_pos hconfirmed]
      exact .inl (requesting_goTo _ w p rfl)
    · refine .inr (decided_iff.mpr (.inr (.inl ⟨_, rfl, fun hstate => hconfirmed ?_⟩)))
      exact Prod.ext hcontact hstate
  next state =>
    injection h with h
    subst h
    by_cases hresolved : s.mapping.getD state = .resolved
    · rw [if_pos hresolved]
      exact .inl (requesting_goTo _ w p rfl)
    · exact .inr (decided_iff.mpr (.inr (.inr (.inl ⟨_, rfl, hresolved⟩))))
  next =>
    injection h with h
    subst h
    exact .inr (decided_iff.mpr (.inl rfl))
  next => cases h

/-- A call keeps the contact. -/
theorem contactInv_call {next : Option PC} (hinv : ContactInv s) (hp : s.passes w = some p)
    (heffect : CallEffect settings s t w p p.pc next) : ContactInv t := by
  constructor
  · intro r hr
    rw [heffect.record.contact]
    obtain hsame | ⟨contactId, state, hpc, hwritten⟩ := heffect.resolution
    · exact hinv.resolution r (hsame ▸ hr)
    · cases hold : s.resolution with
      | some r₀ =>
          rw [heffect.record.resolution r₀ hold] at hr
          obtain rfl := Option.some.inj hr
          exact hinv.resolution r₀ hold
      | none =>
          rw [hwritten, hold, Option.getD_none] at hr
          obtain rfl := Option.some.inj hr
          exact hinv.passes w p contactId hp hpc
  · intro w' p' contactId hp' hpc'
    rw [heffect.record.contact]
    obtain ⟨rfl, pc, hnext, rfl⟩ | ⟨-, hp₀⟩ := passes_moved heffect.passes hp'
    · have hpc : pc = .resolveIdentity contactId := hpc'
      have hknown := heffect.contact contactId (hpc ▸ hnext)
      unfold World.knownContact at hknown
      exact (Option.ite_none_right_eq_some.mp hknown).2
    · exact hinv.passes w' p' contactId hp₀ hpc'

/-- A pass begins with the history or the media. -/
theorem start_isRequest (claimed : CycleRow) : (PC.start claimed).isRequest = false := by
  unfold PC.start
  repeat' split
  all_goals rfl

/-- **The step lemma of `ContactInv`.** -/
theorem contactInv_step (hinv : ContactInv s) (h : workerStep settings s a = some t) :
    ContactInv t := by
  cases workerStep_effect h with
  | media kind messageId st audio images htables => exact ⟨hinv.resolution, hinv.passes⟩
  | wake now cycle hwake => exact ⟨hinv.resolution, hinv.passes⟩
  | claim w now cycle hidle hclaim =>
      refine ⟨hinv.resolution, fun w' p' contactId hp' hpc' => ?_⟩
      obtain ⟨-, rfl⟩ | ⟨-, hp₀⟩ := passes_claimed hp'
      · have hstart := congrArg PC.isRequest hpc'
        rw [start_isRequest] at hstart
        cases hstart
      · exact hinv.passes w' p' contactId hp₀ hpc'
  | call w answer p t next hp hcall heffect => exact contactInv_call hinv hp heffect
  | stop w a p next hact hp hend hnext =>
      refine ⟨hinv.resolution, fun w' p' contactId hp' hpc' => ?_⟩
      obtain ⟨rfl, pc, hpc, rfl⟩ | ⟨-, hp₀⟩ := passes_moved (t := s.goTo w p next) rfl hp'
      · obtain ⟨failure, rfl⟩ := hnext pc hpc
        cases hpc'
      · exact hinv.passes w' p' contactId hp₀ hpc'

/-! ## §3. Whole runs. -/

/-- The step stops no undecided pass that is the last one to work on the
    Request of a finished cycle. -/
def Settled (s : World) (a : WorkerAction) : Prop :=
  ∀ w, (a = .crash w ∨ ∃ failure, a = .fail w failure) → s.finished → s.requesting w →
    s.decided = true ∨ ∃ w', w' ≠ w ∧ s.requesting w'

/-- A finished cycle has its decision on record, or a pass works on it. -/
def DecisionInv (s : World) : Prop := s.finished → s.decided = true ∨ ∃ w, s.requesting w

/-- The transition that finishes a cycle is followed by the reading of the contact. -/
theorem afterTransition_of_finished {claimed : CycleRow} {now : Timestamp} {processingMs : Nat}
    {tr : Transition} (h : pc.transition settings claimed now processingMs = some tr)
    (hfinished : tr.status = .completed ∨ tr.status = .completedWithWarnings) :
    pc.afterTransition = some .loadContact := by
  have hopen (status : Status) (hstatus : ¬(status = .completed ∨ status = .completedWithWarnings))
      (htr : tr.status = status) : pc.afterTransition = some .loadContact :=
    absurd (htr ▸ hfinished) hstatus
  cases pc with
  | toFinal j classificationId => rfl
  | toRecovering => exact hopen .recoveringMessages (by decide) (by rw [← Option.some.inj h]; rfl)
  | toBuilding snapshot => exact hopen .buildingContext (by decide) (by rw [← Option.some.inj h]; rfl)
  | toSummarizing snapshot => exact hopen .summarizing (by decide) (by rw [← Option.some.inj h]; rfl)
  | toClassifying j => exact hopen .classifying (by decide) (by rw [← Option.some.inj h]; rfl)
  | toBlocked snapshot blocked states =>
      exact hopen .mediaBlocked (by decide) (by rw [← Option.some.inj h]; rfl)
  | toWaiting snapshot pending states =>
      exact hopen .waitingMedia (by decide) (by rw [← Option.some.inj h]; rfl)
  | recordFailure failure =>
      obtain rfl := Option.some.inj h
      obtain hfailed | hretry := failureTransition_status settings now claimed failure
      · exact hopen .failed (by decide) hfailed
      · exact hopen .retryableFailure (by decide) hretry
  | _ => cases h

/-- Other passes go on. -/
theorem requesting_moved {next : Option PC} {w' : WorkerId}
    (hpasses : t.passes = Function.update s.passes w (next.map fun pc => { p with pc }))
    (hne : w' ≠ w) (h : s.requesting w') : t.requesting w' := by
  obtain ⟨p', hp', hpc'⟩ := h
  refine ⟨p', ?_, hpc'⟩
  rw [hpasses, Function.update_of_ne hne]
  exact hp'

/-- A call of a pass keeps the invariant. -/
theorem decisionInv_call {answer : Answer} {next : Option PC} (hcontact : ContactInv s)
    (hinv : DecisionInv s) (hp : s.passes w = some p)
    (hcall : passStep settings s w p p.pc answer = some t)
    (heffect : CallEffect settings s t w p p.pc next) : DecisionInv t := by
  intro hfinished
  obtain hcycle | ⟨hnext, now, processingMs, tr, htr, happly⟩ := heffect.cycle
  · have hfinished' : s.finished := by
      unfold World.finished at hfinished ⊢
      rw [← hcycle]
      exact hfinished
    obtain hdecided | ⟨w', hrequest⟩ := hinv hfinished'
    · exact .inl (decided_later hdecided heffect.record heffect.key)
    · by_cases hw : w' = w
      · subst hw
        obtain ⟨p', hp', hpc'⟩ := hrequest
        obtain rfl := Option.some.inj (hp.symm.trans hp')
        have hstep : requestStep s w' p p.pc answer = some t := passStep_of_isRequest hpc' ▸ hcall
        obtain hrequest | hdecided := requestStep_progress hcontact hp rfl hfinished' hstep
        · exact .inr ⟨w', hrequest⟩
        · exact .inl hdecided
      · exact .inr ⟨w', requesting_moved heffect.passes hw hrequest⟩
  · -- the transition has finished the cycle
    have hstatus : tr.status = .completed ∨ tr.status = .completedWithWarnings := by
      unfold World.finished at hfinished
      rw [(transitionCycle_spec happly).2, apply_status] at hfinished
      exact hfinished
    have hload := afterTransition_of_finished htr hstatus
    refine .inr ⟨w, { p with pc := .loadContact }, ?_, rfl⟩
    rw [heffect.passes, hnext, hload, Function.update_self]
    rfl

/-- **The step lemma of `DecisionInv`.** -/
theorem decisionInv_step (hcontact : ContactInv s) (hinv : DecisionInv s) (hok : Settled s a)
    (h : workerStep settings s a = some t) : DecisionInv t := by
  cases workerStep_effect h with
  | media kind messageId st audio images htables => exact hinv
  | wake now cycle hwake =>
      intro hfinished
      unfold World.finished at hfinished
      rw [(wakeCycle_spec hwake).2.1] at hfinished
      exact absurd hfinished (by decide)
  | claim w now cycle hidle hclaim =>
      -- a cycle that can be claimed is not finished
      obtain ⟨-, hrecoverable, hstatus, -⟩ := claimCycle_spec hclaim
      intro hfinished
      unfold World.finished at hfinished
      rw [hstatus] at hfinished
      obtain hst | hst := hfinished
      · exact absurd (hst ▸ hrecoverable) (by decide)
      · exact absurd (hst ▸ hrecoverable) (by decide)
  | call w answer p t next hp hcall heffect =>
      exact decisionInv_call hcontact hinv hp hcall heffect
  | stop w a p next hact hp hend hnext =>
      intro hfinished
      obtain hdecided | ⟨w', hrequest⟩ := hinv hfinished
      · exact .inl hdecided
      by_cases hw : w' = w
      · subst hw
        have hpc : p.pc.isRequest = true := by
          obtain ⟨p', hp', hpc'⟩ := hrequest
          obtain rfl := Option.some.inj (hp.symm.trans hp')
          exact hpc'
        have hcrash : a = .crash w' ∨ ∃ failure, a = .fail w' failure := by
          obtain hfail | ⟨-, hprovider⟩ | hcrash := hact
          · exact .inr hfail
          · exact absurd hprovider (by rw [isRequest_isProvider hpc]; decide)
          · exact .inl hcrash
        obtain hdecided | ⟨w₂, hne, hrequest₂⟩ := hok w' hcrash hfinished hrequest
        · exact .inl hdecided
        · exact .inr ⟨w₂, requesting_moved (t := s.goTo w' p next) rfl hne hrequest₂⟩
      · exact .inr ⟨w', requesting_moved (t := s.goTo w p next) rfl hw hrequest⟩

/-- The invariants over whole runs. -/
theorem decisionInv_reachable (h : (workerMachine settings).ReachableWhere Settled s) :
    ContactInv s ∧ DecisionInv s := by
  refine h.invariant (I := fun s => ContactInv s ∧ DecisionInv s) ?_ fun s a t hinv hok hstep =>
    ⟨contactInv_step hinv.1 hstep, decisionInv_step hinv.1 hinv.2 hok hstep⟩
  rintro _ ⟨cycle, contact, hpending, -, rfl⟩
  refine ⟨⟨fun r hr => ?_, fun w p contactId hp => ?_⟩, fun hfinished => ?_⟩
  · cases hr
  · cases hp
  · unfold World.finished at hfinished
    rw [show (World.fresh cycle contact).cycle.status = .pending from hpending] at hfinished
    exact absurd hfinished (by decide)

/-! ## §4. The main result. -/

/-- **No finished cycle lacks its decision**, in every run whose steps stop no
    last undecided pass: with no pass running, a finished cycle will be picked
    up again or has its decision on record. -/
theorem request_decided (settings : Settings) {s : World}
    (h : (workerMachine settings).ReachableWhere Settled s) (hidle : ∀ w, s.passes w = none)
    (hfinished : s.cycle.status = .completed ∨ s.cycle.status = .completedWithWarnings) :
    (∃ now, s.cycle.due now = true) ∨ s.decided = true := by
  obtain hdecided | ⟨w, p, hp, -⟩ := (decisionInv_reachable h).2 hfinished
  · exact .inr hdecided
  · rw [hidle w] at hp
    cases hp

/-- A first pass up to the final status. -/
def finishedRun : List WorkerAction := firstPass 0 100 ++ classified 0 200

/-- Nobody but worker 0 acts. -/
theorem idle_of_finishedRun {as : List WorkerAction} (has : ∀ a ∈ as, a.worker = some 0)
    (h : (workerMachine defaultSettings).exec (World.fresh closedCycle (some 1)) as = some s)
    (hidle : s.passes 0 = none) : ∀ w, s.passes w = none := by
  intro w
  by_cases hw : w = 0
  · rw [hw]
    exact hidle
  · refine idle_exec h (fun a ha heq => hw ?_) rfl
    rw [has a ha] at heq
    exact (Option.some.inj heq).symm

/-- The action stops no pass. -/
def stopsNobody (_ : World) : WorkerAction → Bool
  | .crash _ | .fail .. => false
  | _ => true

theorem settled_of_stopsNobody (h : stopsNobody s a = true) : Settled s a := by
  intro w hstop
  obtain rfl | ⟨failure, rfl⟩ := hstop
  · cases h
  · cases h

/-- The whole way to the durable operation. -/
def operationRun : List WorkerAction := finishedRun ++
  [.step 0 .contact, .step 0 (.identity .confirmed), .step 0 (.mapping .resolved),
   .step 0 .operation]

/-- A pass that comes to the durable operation. -/
theorem request_decided_operation :
    ∃ s, (workerMachine defaultSettings).ReachableWhere Settled s ∧ (∀ w, s.passes w = none)
      ∧ s.cycle.status = .completedWithWarnings
      ∧ ((∃ now, s.cycle.due now = true) ∨ s.decided = true) := by
  have hrun : ((workerMachine defaultSettings).execWhere stopsNobody
      (World.fresh closedCycle (some 1)) operationRun).map
        (fun s => (s.cycle.status, (s.passes 0).isNone)) = some (.completedWithWarnings, true) := by
    decide +kernel
  obtain ⟨s, hexec, hobs⟩ := Option.map_eq_some_iff.mp hrun
  simp only [Prod.mk.injEq, Option.isNone_iff_eq_none] at hobs
  obtain ⟨hstatus, hidle⟩ := hobs
  have hreach : (workerMachine defaultSettings).ReachableWhere Settled s :=
    ⟨World.fresh closedCycle (some 1), ⟨closedCycle, some 1, rfl, rfl, rfl⟩,
      Machine.runWhere_of_execWhere (I := fun _ => True)
        (fun _ _ _ h => settled_of_stopsNobody h) (fun _ _ _ _ _ _ => trivial) trivial hexec⟩
  have hnone : ∀ w, s.passes w = none :=
    idle_of_finishedRun (by decide +kernel) (Machine.exec_of_execWhere hexec) hidle
  exact ⟨s, hreach, hnone, hstatus,
    request_decided defaultSettings hreach hnone (.inr hstatus)⟩

/-- The worker crashes after it has finished the cycle. -/
theorem request_not_decided :
    ∃ s, (workerMachine defaultSettings).Reachable s ∧ (∀ w, s.passes w = none)
      ∧ s.cycle.status = .completedWithWarnings ∧ (∀ now, s.cycle.due now = false)
      ∧ s.decided = false := by
  have hrun : ((workerMachine defaultSettings).exec (World.fresh closedCycle (some 1))
      (finishedRun ++ [.crash 0])).map
        (fun s => (s.cycle.status, (s.passes 0).isNone, s.decided))
      = some (.completedWithWarnings, true, false) := by decide +kernel
  obtain ⟨s, hexec, hobs⟩ := Option.map_eq_some_iff.mp hrun
  simp only [Prod.mk.injEq, Option.isNone_iff_eq_none] at hobs
  obtain ⟨hstatus, hidle, hdecided⟩ := hobs
  refine ⟨s, Machine.reachable_of_exec ⟨closedCycle, some 1, rfl, rfl, rfl⟩ hexec,
    idle_of_finishedRun (by decide +kernel) hexec hidle, hstatus, fun now => ?_, hdecided⟩
  unfold CycleRow.due
  rw [hstatus]
  rfl

end Cai.Worker
