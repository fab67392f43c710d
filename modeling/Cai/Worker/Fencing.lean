/-
  Cai.Worker.Fencing — leases and final statuses of a cycle.

  No statement of a pass looks at `lease_owner`.  Five of the transitions
  expect a status; `summarizing`, `classifying` and the two of
  `_record_cycle_failure` match the row in any status, and
  `save_cycle_messages` deletes and inserts without looking at the cycle.

  Main results:
    * `cycle_lease_fenced` — while every call of a taken-over pass is
      inert, final statuses are final and such a pass writes nothing.
    * `cycle_lease_not_fenced` — a taken-over pass reopens a completed cycle.
-/
import Cai.Worker.Steps

namespace Cai.Worker

open Cai.Lib
open Cai.Cycle Cai.Media Cai.Finalization

variable {settings : Settings} {s t : World} {w : WorkerId} {p : Pass} {pc : PC}
  {a : WorkerAction}

/-! ## §1. Inert calls. -/

/-- Whether the next call of a pass writes neither a row in that status nor
    the messages of the cycle. -/
def PC.inert (status : Status) : PC → Bool
  | .saveMessages .. | .toSummarizing _ | .toClassifying _ | .recordFailure _ => false
  | .toRecovering => status ∉ [.pending, .retryableFailure, .recoveringMessages]
  | .toBuilding _ => status ∉ [.recoveringMessages]
  | .toBlocked .. | .toWaiting .. => status ∉ beforeMedia
  | .toFinal .. => status ∉ [.classifying]
  | _ => true

/-- A transition with expected statuses. -/
theorem applies_guarded {tr : Transition} {row : CycleRow} {expected : List Status}
    (htr : tr.expectedStatuses = expected) (hne : expected ≠ []) :
    tr.applies row = true ↔ decide (row.status ∉ expected) = false := by
  unfold Transition.applies
  simp [htr, hne]

/-- A transition from any status. -/
theorem applies_unguarded {tr : Transition} (htr : tr.expectedStatuses = []) (row : CycleRow) :
    tr.applies row = true := by
  unfold Transition.applies
  simp [htr]

/-- The transitions of a failure expect no status. -/
theorem failureTransition_unguarded (settings : Settings) (now : Timestamp) (claimed : CycleRow)
    (failure : Failure) : (failureTransition settings now claimed failure).expectedStatuses = [] := by
  cases failure with
  | transient error notBefore => rfl
  | other error notBefore =>
      by_cases hattempt : settings.maxRetries ≤ claimed.attemptCount + 1
      · simp only [failureTransition, if_pos hattempt]
      · simp only [failureTransition, if_neg hattempt]

/-- A transition finds its row exactly where the call is not inert. -/
theorem applies_iff_not_inert {claimed row : CycleRow} {now : Timestamp} {processingMs : Nat}
    {tr : Transition} (h : pc.transition settings claimed now processingMs = some tr) :
    tr.applies row = true ↔ pc.inert row.status = false := by
  cases pc with
  | toRecovering => exact applies_guarded (Option.some.inj h ▸ rfl) (by decide)
  | toBuilding snapshot => exact applies_guarded (Option.some.inj h ▸ rfl) (by decide)
  | toBlocked snapshot blocked states =>
      exact applies_guarded (Option.some.inj h ▸ rfl) (by decide)
  | toWaiting snapshot pending states =>
      exact applies_guarded (Option.some.inj h ▸ rfl) (by decide)
  | toFinal j classificationId => exact applies_guarded (Option.some.inj h ▸ rfl) (by decide)
  | toSummarizing snapshot =>
      exact iff_of_true (applies_unguarded (Option.some.inj h ▸ rfl) row) rfl
  | toClassifying j => exact iff_of_true (applies_unguarded (Option.some.inj h ▸ rfl) row) rfl
  | recordFailure failure =>
      obtain rfl := Option.some.inj h
      exact iff_of_true
        (applies_unguarded (failureTransition_unguarded settings now claimed failure) row) rfl
  | _ => cases h

/-- An inert call leaves the row and the messages as they are. -/
theorem CallEffect.of_inert {next : Option PC} (h : CallEffect settings s t w p pc next)
    (hinert : pc.inert s.cycle.status = true) : t.cycle = s.cycle ∧ t.messages = s.messages := by
  constructor
  · obtain hcycle | ⟨-, now, processingMs, tr, htr, happly⟩ := h.cycle
    · exact hcycle
    · have happlies : tr.applies s.cycle = true := (transitionCycle_spec happly).1
      rw [applies_iff_not_inert htr, hinert] at happlies
      cases happlies
  · obtain hmessages | ⟨closedAt, history, normalized, rfl⟩ := h.messages
    · exact hmessages
    · cases hinert

/-! ## §2. Taken-over leases. -/

/-- The cycle was given to another worker while the pass of `w` went on. -/
def TakenOver (s : World) (w : WorkerId) : Prop := (s.passes w).isSome = true ∧ s.holder ≠ some w

/-- The step is no call of a taken-over pass, or an inert one. -/
def fenced (s : World) : WorkerAction → Bool
  | .step w _ => (s.passes w).all fun p => s.holder == some w || p.pc.inert s.cycle.status
  | _ => true

/-- The steps that respect the leases. -/
abbrev Fenced (s : World) (a : WorkerAction) : Prop := fenced s a = true

/-- A fenced call is inert, or made by the holder of the lease. -/
theorem fenced_call {answer : Answer} (hok : Fenced s (.step w answer))
    (hp : s.passes w = some p) : s.holder = some w ∨ p.pc.inert s.cycle.status = true := by
  have hall : (s.passes w).all
      (fun p => s.holder == some w || p.pc.inert s.cycle.status) = true := hok
  rw [hp, Option.all_some, Bool.or_eq_true, beq_iff_eq] at hall
  exact hall

/-- **A taken-over pass writes nothing** in a fenced step. -/
theorem takenOver_writes_nothing (hw : TakenOver s w) (ha : a.worker = some w) (hok : Fenced s a)
    (h : workerStep settings s a = some t) : t.cycle = s.cycle ∧ t.messages = s.messages := by
  cases workerStep_effect h with
  | media kind messageId st audio images htables => exact ⟨rfl, rfl⟩
  | wake now cycle hwake => cases ha
  | claim w' now cycle hidle hclaim =>
      -- a worker with a pass claims no cycle
      have hw' : w' = w := Option.some.inj ha
      rw [hw'] at hidle
      rw [TakenOver, hidle] at hw
      cases hw.1
  | call w' answer p t next hp hcall heffect =>
      have hw' : w' = w := Option.some.inj ha
      subst hw'
      have hinert := (fenced_call hok hp).resolve_left hw.2
      exact heffect.of_inert hinert
  | stop w' a p next hact hp hend hnext => exact ⟨rfl, rfl⟩

/-! ## §3. Final statuses. -/

/-- The holder of the lease works on a cycle that is not finished, until it
    comes to the Request. -/
def HeldOpen (s : World) : Prop :=
  ∀ w p, s.holder = some w → s.passes w = some p → p.pc.isRequest = false →
    s.cycle.status ∉ Status.terminal

/-- A pass that finishes the cycle ends, or goes on with the Request. -/
theorem afterTransition_of_terminal {claimed : CycleRow} {now : Timestamp} {processingMs : Nat}
    {tr : Transition} (h : pc.transition settings claimed now processingMs = some tr)
    (hterminal : tr.status ∈ Status.terminal) :
    ∀ pc' ∈ pc.afterTransition, pc'.isRequest = true := by
  have hopen (status : Status) (hstatus : status ∉ Status.terminal)
      (htr : tr.status = status) : ∀ pc' ∈ pc.afterTransition, pc'.isRequest = true :=
    absurd (htr ▸ hterminal) hstatus
  cases pc with
  | toRecovering =>
      exact hopen .recoveringMessages (by decide) (by rw [← Option.some.inj h]; rfl)
  | toBuilding snapshot =>
      exact hopen .buildingContext (by decide) (by rw [← Option.some.inj h]; rfl)
  | toSummarizing snapshot =>
      exact hopen .summarizing (by decide) (by rw [← Option.some.inj h]; rfl)
  | toClassifying j => exact hopen .classifying (by decide) (by rw [← Option.some.inj h]; rfl)
  | toFinal j classificationId =>
      intro pc' hpc'
      rw [← Option.some.inj hpc']
      rfl
  | toBlocked snapshot blocked states => exact fun pc' h => absurd h (Option.not_mem_none pc')
  | toWaiting snapshot pending states => exact fun pc' h => absurd h (Option.not_mem_none pc')
  | recordFailure failure => exact fun pc' h => absurd h (Option.not_mem_none pc')
  | _ => cases h

/-- A fenced call of a pass either leaves the row as it is, or is the call
    of the holder in an unfinished cycle. -/
theorem fenced_cycle {answer : Answer} {next : Option PC} (hinv : HeldOpen s)
    (hok : Fenced s (.step w answer)) (hp : s.passes w = some p)
    (heffect : CallEffect settings s t w p p.pc next) :
    t.cycle = s.cycle ∨ (s.cycle.status ∉ Status.terminal
      ∧ (t.cycle.status ∈ Status.terminal → ∀ pc' ∈ next, pc'.isRequest = true)) := by
  obtain hcycle | ⟨hnext, now, processingMs, tr, htr, happly⟩ := heffect.cycle
  · exact .inl hcycle
  obtain hholder | hinert := fenced_call hok hp
  · have hpc : p.pc.isRequest = false := by
      by_contra hpc
      rw [isRequest_transition (by simpa using hpc)] at htr
      cases htr
    refine .inr ⟨hinv w p hholder hp hpc, fun hterminal => ?_⟩
    rw [(transitionCycle_spec happly).2, apply_status] at hterminal
    rw [hnext]
    exact afterTransition_of_terminal htr hterminal
  · exact .inl (heffect.of_inert hinert).1

/-- **The step lemma of `HeldOpen`.** -/
theorem heldOpen_step (hinv : HeldOpen s) (hok : Fenced s a)
    (h : workerStep settings s a = some t) : HeldOpen t := by
  cases workerStep_effect h with
  | media kind messageId st audio images htables => exact hinv
  | wake now cycle hwake =>
      intro w p _ _ _
      show cycle.status ∉ Status.terminal
      rw [(wakeCycle_spec hwake).2.1]
      decide
  | claim w now cycle hidle hclaim =>
      intro w' p _ _ _
      obtain ⟨-, hrecoverable, hstatus, -⟩ := claimCycle_spec hclaim
      show cycle.status ∉ Status.terminal
      rw [hstatus]
      exact Status.not_terminal_of_recoverable hrecoverable
  | call w answer p t next hp hcall heffect =>
      intro w' p' hholder hp' hpc'
      rw [heffect.holder] at hholder
      obtain hcycle | ⟨-, hfinal⟩ := fenced_cycle hinv hok hp heffect
      · rw [hcycle]
        obtain ⟨rfl, pc, hpc, rfl⟩ | ⟨-, hp₀⟩ := passes_moved heffect.passes hp'
        · refine hinv w' p hholder hp ?_
          by_contra hrequest
          rw [heffect.request (by simpa using hrequest) pc hpc] at hpc'
          cases hpc'
        · exact hinv w' p' hholder hp₀ hpc'
      · -- the row has changed, so the call is the holder's own
        intro hterminal
        obtain ⟨rfl, pc, hpc, rfl⟩ | ⟨hne, hp₀⟩ := passes_moved heffect.passes hp'
        · rw [hfinal hterminal pc hpc] at hpc'
          cases hpc'
        · obtain hcall | hinert := fenced_call hok hp
          · rw [hcall] at hholder
            exact hne (Option.some.inj hholder).symm
          · rw [(heffect.of_inert hinert).1] at hterminal
            exact hinv w' p' hholder hp₀ hpc' hterminal
  | stop w a p next hact hp hend hnext =>
      intro w' p' hholder hp' hpc'
      obtain ⟨rfl, pc, hpc, rfl⟩ | ⟨-, hp₀⟩ := passes_moved (t := s.goTo w p next) rfl hp'
      · refine hinv w' p hholder hp ?_
        by_contra hrequest
        rw [hend (by simpa using hrequest)] at hpc
        cases hpc
      · exact hinv w' p' hholder hp₀ hpc'

/-- The invariant over whole runs. -/
theorem heldOpen_reachable (h : (workerMachine settings).ReachableWhere Fenced s) : HeldOpen s := by
  refine h.invariant ?_ fun _ _ _ => heldOpen_step
  rintro _ ⟨cycle, contact, -, -, rfl⟩ w p hholder
  cases hholder

/-- A finished cycle keeps its status in a fenced step. -/
theorem terminal_step (hinv : HeldOpen s) (hterminal : s.cycle.status ∈ Status.terminal)
    (hok : Fenced s a) (h : workerStep settings s a = some t) :
    t.cycle.status = s.cycle.status := by
  cases workerStep_effect h with
  | media kind messageId st audio images htables => rfl
  | wake now cycle hwake =>
      rw [(wakeCycle_spec hwake).1] at hterminal
      exact absurd hterminal (by decide)
  | claim w now cycle hidle hclaim => exact (claimCycle_spec hclaim).2.2.1
  | call w answer p t next hp hcall heffect =>
      obtain hcycle | ⟨hopen, -⟩ := fenced_cycle hinv hok hp heffect
      · rw [hcycle]
      · exact absurd hterminal hopen
  | stop w a p next hact hp hend hnext => rfl

/-! ## §4. The main result. -/

/-- **Lease fencing and final statuses.**  In every run whose taken-over
    passes make inert calls only, a final status is never left again, and a
    taken-over pass changes neither the row nor the messages of the cycle. -/
theorem cycle_lease_fenced (settings : Settings) {s : World}
    (h : (workerMachine settings).ReachableWhere Fenced s) :
    (s.cycle.status ∈ Status.terminal → ∀ t, (workerMachine settings).RunWhere Fenced s t →
        t.cycle.status = s.cycle.status)
      ∧ ∀ w a t, TakenOver s w → a.worker = some w → Fenced s a →
          (workerMachine settings).step s a = some t →
            t.cycle = s.cycle ∧ t.messages = s.messages := by
  refine ⟨fun hterminal t hrun => ?_, fun w a t => takenOver_writes_nothing⟩
  refine h.stable (P := fun u => u.cycle.status = s.cycle.status) rfl hrun ?_
  intro u a v hu hstatus hok hstep
  rw [terminal_step (heldOpen_reachable hu) (hstatus ▸ hterminal) hok hstep]
  exact hstatus

/-- Worker 1 finishes the cycle while worker 0, whose lease has expired,
    is still inside `insert_classification`.  The cycle has no message, so
    neither pass asks the model. -/
def takeover : List WorkerAction :=
  firstPass 0 100 ++ [.step 0 .analyzed] ++ laterPass 1 400000000 ++ classified 1 400000001

/-- The insertion of the taken-over pass finds the row of its key, and
    writes nothing. -/
theorem cycle_lease_fenced_completed :
    ∃ s t, (workerMachine defaultSettings).ReachableWhere Fenced s
      ∧ s.cycle.status = .completedWithWarnings ∧ TakenOver s 0
      ∧ (workerMachine defaultSettings).step s (.step 0 (.inserted 8)) = some t
      ∧ t.cycle.status = s.cycle.status ∧ t.cycle = s.cycle ∧ t.messages = s.messages := by
  have hrun : ((workerMachine defaultSettings).execWhere fenced
      (World.fresh closedCycle (some 1)) takeover).map
        (fun s => (s.cycle.status, (s.passes 0).isSome, s.holder,
          fenced s (.step 0 (.inserted 8)),
          (workerStep defaultSettings s (.step 0 (.inserted 8))).isSome))
      = some (.completedWithWarnings, true, some 1, true, true) := by decide +kernel
  obtain ⟨s, hexec, hobs⟩ := Option.map_eq_some_iff.mp hrun
  simp only [Prod.mk.injEq] at hobs
  obtain ⟨hstatus, hpass, hholder, hok, hstep⟩ := hobs
  obtain ⟨t, ht⟩ := Option.isSome_iff_exists.mp hstep
  have hreach : (workerMachine defaultSettings).ReachableWhere Fenced s :=
    ⟨World.fresh closedCycle (some 1), ⟨closedCycle, some 1, rfl, rfl, rfl⟩,
      Machine.runWhere_of_execWhere (I := fun _ => True) (fun _ _ _ h => h)
        (fun _ _ _ _ _ _ => trivial) trivial hexec⟩
  have htaken : TakenOver s 0 := ⟨hpass, by rw [hholder]; decide⟩
  obtain ⟨hfinal, hwrites⟩ := cycle_lease_fenced defaultSettings hreach
  refine ⟨s, t, hreach, hstatus, htaken, ht, ?_, hwrites 0 _ t htaken rfl hok ht⟩
  exact hfinal (by rw [hstatus]; decide) t (.single ⟨_, hok, ht⟩)

/-- `insert_classification` raises in a taken-over pass after the cycle was
    finished, and `_record_cycle_failure` reopens it. -/
theorem cycle_lease_not_fenced :
    ∃ s a t, (workerMachine defaultSettings).Reachable s
      ∧ s.cycle.status = .completedWithWarnings ∧ TakenOver s 0 ∧ a.worker = some 0
      ∧ (workerMachine defaultSettings).step s a = some t
      ∧ t.cycle.status = .retryableFailure := by
  have hrun : ((workerMachine defaultSettings).exec (World.fresh closedCycle (some 1))
      (takeover ++ [.fail 0 (.other "timeout" 400000003)])).map
        (fun s => (s.cycle.status, (s.passes 0).isSome, s.holder,
          (workerStep defaultSettings s (.step 0 (.transition 400000002 0))).map (·.cycle.status)))
      = some (.completedWithWarnings, true, some 1, some .retryableFailure) := by decide +kernel
  obtain ⟨s, hexec, hobs⟩ := Option.map_eq_some_iff.mp hrun
  simp only [Prod.mk.injEq] at hobs
  obtain ⟨hstatus, hpass, hholder, hstep⟩ := hobs
  obtain ⟨t, ht, hreopened⟩ := Option.map_eq_some_iff.mp hstep
  refine ⟨s, .step 0 (.transition 400000002 0), t, ?_, hstatus, ⟨hpass, ?_⟩, rfl, ht, hreopened⟩
  · exact Machine.reachable_of_exec ⟨closedCycle, some 1, rfl, rfl, rfl⟩ hexec
  · rw [hholder]
    decide

end Cai.Worker
