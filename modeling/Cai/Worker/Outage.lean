/-
  Cai.Worker.Outage — what errors do to the counters of a cycle.

  `_record_cycle_failure` counts transient errors of the provider in one
  column and all other errors in another; only the second leads to
  `failed`.  A pass writes the counter it claimed plus one, whatever the
  row says by then: workers whose lease has run out write old counts.  The
  counters never exceed the number of errors on record all the same, so
  the provider can be away as long as it likes without failing a cycle.

  Main result: `failures_counted`.
-/
import Cai.Worker.Loop

namespace Cai.Worker

open Cai.Lib
open Cai.Cycle Cai.Media Cai.Finalization

variable {settings : Settings} {s t : World} {w : WorkerId} {p : Pass} {pc : PC}

/-! ## §1. Counts. -/

/-- An error of a pass over the cycle that was not transient. -/
def LoopEvent.isFailure (cycleId : Nat) : LoopEvent → Bool
  | .failed _ id => id == cycleId
  | _ => false

/-- A transient error of a pass over the cycle. -/
def LoopEvent.isWindow (cycleId : Nat) : LoopEvent → Bool
  | .window _ id _ _ _ => id == cycleId
  | _ => false

/-- The counter that a failure will write. -/
def Failure.counter (claimed : CycleRow) : Failure → Nat
  | .transient .. => claimed.transientRetryCount + 1
  | .other .. => claimed.attemptCount + 1

/-- The number that a failure is counted by. -/
def Failure.among (failures windows : Nat) : Failure → Nat
  | .transient .. => windows
  | .other .. => failures

theorem Failure.among_mono {failures windows failures' windows' : Nat} (hf : failures ≤ failures')
    (hw : windows ≤ windows') (failure : Failure) :
    failure.among failures windows ≤ failure.among failures' windows' := by
  cases failure with
  | transient error notBefore => exact hw
  | other error notBefore => exact hf

/-- The counters of a cycle, with the numbers of its errors on record. -/
structure Counted (settings : Settings) (failures windows : Nat) (s : World) : Prop where
  attempts : s.cycle.attemptCount ≤ failures
  retries : s.cycle.transientRetryCount ≤ windows
  /-- A failed cycle has used all its attempts. -/
  failed : s.cycle.status = .failed → max 1 settings.maxRetries ≤ s.cycle.attemptCount
  claimed : ∀ w p, s.passes w = some p →
    p.claimed.attemptCount ≤ failures ∧ p.claimed.transientRetryCount ≤ windows
  /-- The error that a pass is about to record is on record. -/
  pending : ∀ w p failure, s.passes w = some p → p.pc = .recordFailure failure →
    failure.counter p.claimed ≤ failure.among failures windows

variable {failures windows failures' windows' : Nat}

theorem Counted.mono (h : Counted settings failures windows s) (hf : failures ≤ failures')
    (hw : windows ≤ windows') : Counted settings failures' windows' s := by
  constructor
  · exact h.attempts.trans hf
  · exact h.retries.trans hw
  · exact h.failed
  · intro w p hp
    obtain ⟨hattempts, hretries⟩ := h.claimed w p hp
    exact ⟨hattempts.trans hf, hretries.trans hw⟩
  · intro w p failure hp hpc
    exact (h.pending w p failure hp hpc).trans (failure.among_mono hf hw)

/-- Only the row and the passes count. -/
theorem Counted.same (h : Counted settings failures windows s) (hcycle : t.cycle = s.cycle)
    (hpasses : t.passes = s.passes) : Counted settings failures windows t := by
  constructor
  · rw [hcycle]
    exact h.attempts
  · rw [hcycle]
    exact h.retries
  · rw [hcycle]
    exact h.failed
  · rw [hpasses]
    exact h.claimed
  · rw [hpasses]
    exact h.pending

/-! ## §2. The calls of a pass. -/

/-- The gate leads to a transition, and not to that of a failure. -/
theorem gate_continues (settings : Settings) (claimed : CycleRow) (snapshot : Snapshot)
    (states : ContentStates) (failure : Failure) :
    gate settings claimed snapshot states ≠ .recordFailure failure := by
  simp only [gate]
  repeat' split
  all_goals
    intro h
    cases h

/-- A pass that has been moved. -/
theorem passes_goTo {next : Option PC} {q : Pass} (h : (s.goTo w p next).passes w = some q) :
    ∃ pc, next = some pc ∧ q = { p with pc } := by
  have hupdate : Function.update s.passes w (next.map fun pc => { p with pc }) w = some q := h
  rw [Function.update_self] at hupdate
  obtain ⟨pc, hpc, rfl⟩ := Option.map_eq_some_iff.mp hupdate
  exact ⟨pc, hpc, rfl⟩

/-- Where a call that succeeds leads. -/
theorem continues_of_goTo {next : Option PC} {q : Pass} (h : some (s.goTo w p next) = some t)
    (hnext : ∀ failure, next ≠ some (.recordFailure failure)) (hq : t.passes w = some q)
    (failure : Failure) : q.pc ≠ .recordFailure failure := by
  injection h with h
  subst h
  obtain ⟨pc, rfl, rfl⟩ := passes_goTo hq
  intro hpc
  exact hnext failure (congrArg some hpc)

/-- The work on the Request records no failure. -/
theorem requestStep_continues {answer : Answer} (h : requestStep s w p pc answer = some t)
    {q : Pass} (hq : t.passes w = some q) (failure : Failure) : q.pc ≠ .recordFailure failure := by
  -- the settings do not matter
  have heffect : ∃ next, CallEffect defaultSettings s t w p pc next := requestStep_effect h
  obtain ⟨next, heffect⟩ := heffect
  rcases passes_moved heffect.passes hq with ⟨-, pc', hnext, rfl⟩ | ⟨hne, -⟩
  · intro hpc
    have hrequest := heffect.request (requestStep_isRequest h) pc' hnext
    rw [show pc' = .recordFailure failure from hpc] at hrequest
    cases hrequest
  · exact absurd rfl hne

/-- **A call that succeeds** leads to no failure. -/
theorem passStep_continues {answer : Answer} (h : passStep settings s w p pc answer = some t)
    {q : Pass} (hq : t.passes w = some q) (failure : Failure) : q.pc ≠ .recordFailure failure := by
  unfold passStep at h
  split at h
  next =>
    obtain ⟨closedAt, -, h⟩ := Option.map_eq_some_iff.mp h
    exact continues_of_goTo (congrArg some h) (fun _ hnext => by cases hnext) hq failure
  next => exact continues_of_goTo h (fun _ hnext => by cases hnext) hq failure
  next => exact continues_of_goTo h (fun _ hnext => by cases hnext) hq failure
  next => exact continues_of_goTo h (fun _ hnext => by cases hnext) hq failure
  next again snapshot audio =>
    refine continues_of_goTo h (fun failure' hnext => ?_) hq failure
    have hpc := Option.some.inj hnext
    split at hpc
    next => exact gate_continues _ _ _ _ failure' hpc
    next => cases hpc
  next => exact continues_of_goTo h (fun _ hnext => by cases hnext) hq failure
  next => exact continues_of_goTo h (fun _ hnext => by cases hnext) hq failure
  next =>
    simp only [Option.ite_none_right_eq_some] at h
    exact continues_of_goTo h.2 (fun _ hnext => by cases hnext) hq failure
  next => exact continues_of_goTo h (fun _ hnext => by cases hnext) hq failure
  next => exact continues_of_goTo h (fun _ hnext => by cases hnext) hq failure
  next =>
    obtain ⟨tr, -, h⟩ := Option.map_eq_some_iff.mp h
    refine continues_of_goTo (congrArg some h) (fun failure' hnext => ?_) hq failure
    cases pc <;> cases hnext
  next => exact requestStep_continues h hq failure

/-- What the transitions of a pass do to the counters. -/
theorem transition_counters {claimed : CycleRow} {now : Timestamp} {processingMs : Nat}
    {tr : Transition} (h : pc.transition settings claimed now processingMs = some tr) :
    (tr.fields.attemptCount = none ∧ tr.fields.transientRetryCount = none ∧ tr.status ≠ .failed)
      ∨ ∃ failure, pc = .recordFailure failure
        ∧ tr = failureTransition settings now claimed failure := by
  cases pc with
  | recordFailure failure => exact .inr ⟨failure, rfl, (Option.some.inj h).symm⟩
  | toFinal j classificationId =>
      injection h with h
      subst h
      refine .inl ⟨rfl, rfl, ?_⟩
      show finalStatus j.snapshot ≠ .failed
      unfold finalStatus
      split <;> decide
  | toRecovering | toBuilding | toBlocked | toWaiting | toSummarizing | toClassifying =>
      injection h with h
      subst h
      exact .inl ⟨rfl, rfl, by simp [recoveringTransition, buildingTransition, blockedTransition,
        waitingTransition, summarizingTransition, classifyingTransition]⟩
  | _ => cases h

/-! ## §3. One step. -/

/-- The pass of `w` moves, and its row may change. -/
theorem Counted.moved (h : Counted settings failures windows s) {next : Option PC}
    (hp : s.passes w = some p)
    (hpasses : t.passes = Function.update s.passes w (next.map fun pc => { p with pc }))
    (hattempts : t.cycle.attemptCount ≤ failures) (hretries : t.cycle.transientRetryCount ≤ windows)
    (hfailed : t.cycle.status = .failed → max 1 settings.maxRetries ≤ t.cycle.attemptCount)
    (hnext : ∀ failure, next = some (.recordFailure failure) →
      failure.counter p.claimed ≤ failure.among failures windows) :
    Counted settings failures windows t := by
  constructor
  · exact hattempts
  · exact hretries
  · exact hfailed
  · intro v q hq
    rcases passes_moved hpasses hq with ⟨rfl, pc', -, rfl⟩ | ⟨-, hold⟩
    · exact h.claimed v p hp
    · exact h.claimed v q hold
  · intro v q failure hq hpc
    rcases passes_moved hpasses hq with ⟨rfl, pc', hnext', rfl⟩ | ⟨-, hold⟩
    · exact hnext failure (by rw [hnext', show pc' = .recordFailure failure from hpc])
    · exact h.pending v q failure hold hpc

/-- A transition of a pass keeps the counters, or writes the counter of its failure. -/
theorem Counted.transition (h : Counted settings failures windows s) {cycle : CycleRow}
    {now : Timestamp} {processingMs : Nat} {tr : Transition} (hp : s.passes w = some p)
    (htr : p.pc.transition settings p.claimed now processingMs = some tr)
    (hcycle : transitionCycle now tr s.cycle = some cycle) :
    cycle.attemptCount ≤ failures ∧ cycle.transientRetryCount ≤ windows
      ∧ (cycle.status = .failed → max 1 settings.maxRetries ≤ cycle.attemptCount) := by
  simp only [transitionCycle, Option.ite_none_right_eq_some, Option.some.injEq] at hcycle
  obtain ⟨-, rfl⟩ := hcycle
  rcases transition_counters htr with ⟨hattempt, hretry, hstatus⟩ | ⟨failure, hpc, rfl⟩
  · refine ⟨?_, ?_, fun hfailed => absurd hfailed hstatus⟩
    · show tr.fields.attemptCount.getD _ ≤ _
      rw [hattempt]
      exact h.attempts
    · show tr.fields.transientRetryCount.getD _ ≤ _
      rw [hretry]
      exact h.retries
  · have hpending := h.pending w p failure hp hpc
    cases failure with
    | transient error notBefore => exact ⟨h.attempts, hpending, fun hfailed => by cases hfailed⟩
    | other error notBefore =>
        by_cases hlast : settings.maxRetries ≤ p.claimed.attemptCount + 1
        · simp only [failureTransition, if_pos hlast]
          refine ⟨hpending, h.retries, fun _ => ?_⟩
          show max 1 settings.maxRetries ≤ p.claimed.attemptCount + 1
          omega
        · simp only [failureTransition, if_neg hlast]
          exact ⟨hpending, h.retries, fun hfailed => by cases hfailed⟩

theorem failed_of_claimable {r : CycleRow} {now : Timestamp} (h : r.due now = true) :
    r.status ≠ .failed := by
  intro hfailed
  simp [CycleRow.due, hfailed, Status.recoverable] at h

/-- A claim copies the counters of the row. -/
theorem Counted.claim (h : Counted settings failures windows s) {now : Timestamp} {owner : String}
    {leaseSeconds : Nat} {cycle : CycleRow}
    (hclaim : claimCycle now owner leaseSeconds s.cycle = some cycle) :
    Counted settings failures windows
      { s with
        cycle, holder := some w
        passes := Function.update s.passes w (some ⟨cycle, PC.start cycle⟩) } := by
  simp only [claimCycle, Option.ite_none_right_eq_some, Option.some.injEq] at hclaim
  obtain ⟨hdue, rfl⟩ := hclaim
  constructor
  · exact h.attempts
  · exact h.retries
  · intro hfailed
    exact absurd (show s.cycle.status = .failed from hfailed) (failed_of_claimable hdue)
  · intro v q hq
    rcases passes_claimed hq with ⟨-, rfl⟩ | ⟨-, hold⟩
    · exact ⟨h.attempts, h.retries⟩
    · exact h.claimed v q hold
  · intro v q failure hq hpc
    rcases passes_claimed hq with ⟨-, rfl⟩ | ⟨-, hold⟩
    · -- a pass starts with a call that records nothing
      have hstart : ∀ r : CycleRow, PC.start r ≠ .recordFailure failure := by
        intro r h
        unfold PC.start at h
        split at h
        next => split at h <;> cases h
        next => cases h
      exact absurd hpc (hstart _)
    · exact h.pending v q failure hold hpc

/-- Where an error leads, and when. -/
theorem onFailure_records {failure failure' : Failure}
    (h : pc.onFailure failure = some (some (.recordFailure failure'))) :
    failure' = failure ∧ pc.recordsFailure = true := by
  unfold PC.onFailure at h
  split at h
  next => cases h
  next hnot =>
    split at h
    next => cases h
    next hrequest =>
      have hrecords : pc.recordsFailure = true := by
        unfold PC.recordsFailure
        cases pc with
        | recordFailure f => exact absurd rfl (hnot f)
        | _ => simp_all
      rw [Option.ite_none_right_eq_some] at h
      obtain ⟨-, h⟩ := h
      split at h
      next =>
        simp only [Option.ite_none_right_eq_some, Option.some.injEq, PC.recordFailure.injEq] at h
        exact ⟨h.2.symm, hrecords⟩
      next =>
        simp only [Option.some.injEq, PC.recordFailure.injEq] at h
        exact ⟨h.symm, hrecords⟩

/-- **A step that stops a pass**, and what its error leads to. -/
theorem workerStep_stops {a : WorkerAction} (h : workerStep settings s a = some t)
    (ha : a.stops = some w) :
    ∃ p next, s.passes w = some p ∧ t = s.goTo w p next
      ∧ ∀ failure, next = some (.recordFailure failure) →
        a.failure? = some (w, failure) ∧ p.pc.recordsFailure = true := by
  cases a with
  | fail v failure =>
      obtain rfl := Option.some.inj ha
      obtain ⟨p, hp, h⟩ := Option.bind_eq_some_iff.mp h
      obtain ⟨next, hnext, rfl⟩ := Option.map_eq_some_iff.mp h
      refine ⟨p, next, hp, rfl, fun failure' heq => ?_⟩
      rw [heq] at hnext
      obtain ⟨rfl, hrecords⟩ := onFailure_records hnext
      exact ⟨rfl, hrecords⟩
  | windowActive v =>
      obtain rfl := Option.some.inj ha
      obtain ⟨p, hp, h⟩ := Option.bind_eq_some_iff.mp h
      simp only [Option.ite_none_right_eq_some, Option.some.injEq] at h
      exact ⟨p, none, hp, h.2.symm, fun failure heq => by cases heq⟩
  | crash v =>
      obtain rfl := Option.some.inj ha
      obtain ⟨p, hp, rfl⟩ := Option.map_eq_some_iff.mp h
      exact ⟨p, none, hp, rfl, fun failure heq => by cases heq⟩
  | _ => cases ha

theorem stops_of_stop {a : WorkerAction}
    (h : (∃ failure, a = .fail w failure) ∨ (a = .windowActive w ∧ pc.isProvider = true)
      ∨ a = .crash w) : a.stops = some w := by
  rcases h with ⟨failure, rfl⟩ | ⟨rfl, -⟩ | rfl
  · rfl
  · rfl
  · rfl

/-- The counter that an error will write is one more than one that has been on record. -/
theorem Counted.counter_le (h : Counted settings failures windows s) (hp : s.passes w = some p)
    (failure : Failure) :
    failure.counter p.claimed ≤ failure.among failures windows + 1 := by
  obtain ⟨hattempts, hretries⟩ := h.claimed w p hp
  cases failure with
  | transient error notBefore => exact Nat.succ_le_succ hretries
  | other error notBefore => exact Nat.succ_le_succ hattempts

/-- **A step of one cycle**, whose error, if it raises one, has been put on record. -/
theorem Counted.step {a : WorkerAction} (h : Counted settings failures windows s)
    (hs : workerStep settings s a = some t) (hf : failures ≤ failures') (hw : windows ≤ windows')
    (hlogged : ∀ w failure p, a.failure? = some (w, failure) → s.passes w = some p →
      p.pc.recordsFailure = true →
        failure.among failures windows + 1 ≤ failure.among failures' windows') :
    Counted settings failures' windows' t := by
  have hmono := h.mono hf hw
  cases workerStep_effect hs with
  | media kind messageId st audio images htables => exact hmono.same rfl rfl
  | wake now cycle hwake =>
      simp only [wakeCycle, Option.ite_none_right_eq_some, Option.some.injEq] at hwake
      obtain ⟨-, rfl⟩ := hwake
      refine ⟨hmono.attempts, hmono.retries, fun hfailed => ?_, hmono.claimed, hmono.pending⟩
      cases hfailed
  | claim w now cycle hidle hclaim => exact hmono.claim hclaim
  | call w answer p t next hp hcall heffect =>
      have hnext : ∀ failure, next ≠ some (.recordFailure failure) := by
        intro failure hnext
        have hq : t.passes w = some { p with pc := .recordFailure failure } := by
          rw [heffect.passes, Function.update_self, hnext]
          rfl
        exact passStep_continues hcall hq failure rfl
      have hrow : t.cycle.attemptCount ≤ failures' ∧ t.cycle.transientRetryCount ≤ windows'
          ∧ (t.cycle.status = .failed → max 1 settings.maxRetries ≤ t.cycle.attemptCount) := by
        rcases heffect.cycle with hsame | ⟨-, now, processingMs, tr, htr, hcycle⟩
        · rw [hsame]
          exact ⟨hmono.attempts, hmono.retries, hmono.failed⟩
        · exact hmono.transition hp htr hcycle
      exact hmono.moved hp heffect.passes hrow.1 hrow.2.1 hrow.2.2
        fun failure heq => absurd heq (hnext failure)
  | stop w a p next hact hp hend hnext =>
      obtain ⟨p', next', hp', hgoTo, hraised⟩ := workerStep_stops hs (stops_of_stop hact)
      rw [hgoTo]
      refine hmono.moved hp' rfl hmono.attempts hmono.retries hmono.failed fun failure heq => ?_
      obtain ⟨hfailure, hrecords⟩ := hraised failure heq
      calc failure.counter p'.claimed
          ≤ failure.among failures windows + 1 := h.counter_le hp' failure
        _ ≤ failure.among failures' windows' := hlogged w failure p' hfailure hp' hrecords

/-! ## §4. Runs of the loops. -/

/-- The errors on record of a cycle that were not transient. -/
def LoopState.failuresOf (s : LoopState) (cycleId : Nat) : Nat := s.log.countP (·.isFailure cycleId)

/-- The transient errors on record of a cycle. -/
def LoopState.windowsOf (s : LoopState) (cycleId : Nat) : Nat := s.log.countP (·.isWindow cycleId)

/-- An error that was put on record is counted. -/
theorem countP_logged {added log : List LoopEvent} {w : WorkerId} {cycleId : Nat} {failure : Failure}
    (h : failure.Logged w cycleId added) :
    failure.among (log.countP (·.isFailure cycleId)) (log.countP (·.isWindow cycleId)) + 1
      ≤ failure.among ((added ++ log).countP (·.isFailure cycleId))
          ((added ++ log).countP (·.isWindow cycleId)) := by
  cases failure with
  | transient error notBefore =>
      obtain ⟨failedAt, asked, at_, hmem⟩ := h
      have hpos : 0 < added.countP (·.isWindow cycleId) :=
        List.countP_pos_iff.mpr ⟨_, hmem, by simp [LoopEvent.isWindow]⟩
      show log.countP _ + 1 ≤ (added ++ log).countP _
      rw [List.countP_append]
      omega
  | other error notBefore =>
      have hpos : 0 < added.countP (·.isFailure cycleId) :=
        List.countP_pos_iff.mpr ⟨_, h, by simp [LoopEvent.isFailure]⟩
      show log.countP _ + 1 ≤ (added ++ log).countP _
      rw [List.countP_append]
      omega

theorem failure_answered (f : Fleet) (cycleId : Nat) (a : WorkerAction) :
    (f.answered cycleId a).failure? = a.failure? := by
  unfold Fleet.answered
  split <;> rfl

/-- All cycles are counted. -/
def AllCounted (settings : LoopSettings) (s : LoopState) : Prop :=
  ∀ cycleId, Counted settings.toSettings (s.failuresOf cycleId) (s.windowsOf cycleId)
    (s.fleet.cycles cycleId)

theorem AllCounted.step {settings : LoopSettings} {s t : LoopState} {a : LoopAction}
    (h : AllCounted settings s) (hs : loopStep settings s a = some t) : AllCounted settings t := by
  obtain ⟨added, moved, heffect⟩ := loopStep_effect hs
  intro cycleId
  have hf : s.failuresOf cycleId ≤ t.failuresOf cycleId := by
    show _ ≤ t.log.countP _
    rw [heffect.log, List.countP_append]
    exact Nat.le_add_left ..
  have hw : s.windowsOf cycleId ≤ t.windowsOf cycleId := by
    show _ ≤ t.log.countP _
    rw [heffect.log, List.countP_append]
    exact Nat.le_add_left ..
  cases moved with
  | none =>
      rw [heffect.still rfl]
      exact (h cycleId).mono hf hw
  | some b =>
      have hfleet := heffect.fleet b rfl
      by_cases hc : cycleId = b.1
      · subst hc
        refine (h b.1).step (fleet_self hfleet) hf hw fun w failure p hraised hp hrecords => ?_
        rw [failure_answered] at hraised
        have hlogged := heffect.logged b rfl w failure p hraised hp hrecords
        unfold LoopState.failuresOf LoopState.windowsOf
        rw [heffect.log]
        exact countP_logged hlogged
      · obtain ⟨hpasses, hcycle⟩ := fleet_others hfleet hc
        exact ((h cycleId).mono hf hw).same hcycle hpasses

theorem allCounted_init {settings : LoopSettings} {s : LoopState}
    (h : (loopMachine settings).init s) : AllCounted settings s := by
  obtain ⟨⟨fleet, ⟨-, hcycles⟩, rfl⟩, hzero⟩ := h
  intro cycleId
  obtain ⟨cycle, contact, -, hpending, -, hfresh⟩ := hcycles cycleId
  obtain ⟨hattempts, hretries⟩ := hzero cycleId
  constructor
  · exact hattempts.le
  · exact hretries.le
  · intro hfailed
    rw [hfresh] at hfailed
    exact absurd (hpending.symm.trans hfailed) (by decide)
  · intro w p hp
    rw [hfresh] at hp
    cases hp
  · intro w p failure hp hpc
    rw [hfresh] at hp
    cases hp

/-- What the counters of a cycle say. -/
structure FailuresCounted (settings : LoopSettings) (s : LoopState) (cycleId : Nat) : Prop where
  /-- A cycle fails by `max_retries` errors at least, none of them transient. -/
  failed : (s.fleet.cycles cycleId).cycle.status = .failed →
    max 1 settings.maxRetries ≤ s.failuresOf cycleId
  attempts : (s.fleet.cycles cycleId).cycle.attemptCount ≤ s.failuresOf cycleId
  retries : (s.fleet.cycles cycleId).cycle.transientRetryCount ≤ s.windowsOf cycleId

/-- **An outage fails no cycle**, whatever workers with old claims write. -/
theorem failures_counted {settings : LoopSettings} {s : LoopState}
    (h : (loopMachine settings).Reachable s) (cycleId : Nat) :
    FailuresCounted settings s cycleId := by
  have hinv : AllCounted settings s :=
    Machine.ReachableWhere.invariant h (fun _ => allCounted_init)
      (fun s a t hs _ hstep => hs.step hstep)
  have hcycle := hinv cycleId
  exact ⟨fun hfailed => (hcycle.failed hfailed).trans hcycle.attempts, hcycle.attempts,
    hcycle.retries⟩

/-- A pass of worker 0 over cycle 1, `seconds` after the start, that loses the database. -/
def failingPass (seconds : Nat) : List LoopAction :=
  let now : Timestamp := seconds * 1000000
  [.pause 0 seconds, .claim 0 1 now,
   .fail 0 [] "OperationalError: connection lost" (now + 10000000), .step 0 [] (.transition now 0)]

/-- Three such passes, after a request that the provider put off. -/
def failingRun : List LoopAction :=
  waitingRun.take 15 ++ failingPass 110 ++ failingPass 130 ++ failingPass 150

/-- The cycle has failed by three errors; the transient one is not among them. -/
theorem failures_counted_three :
    ∃ s, (loopMachine loopSettings).exec { fleet := quietFleet } failingRun = some s
      ∧ (s.fleet.cycles 1).cycle.status = .failed ∧ s.failuresOf 1 = 3 ∧ s.windowsOf 1 = 1
      ∧ FailuresCounted loopSettings s 1 := by
  have hrun : ((loopMachine loopSettings).exec { fleet := quietFleet } failingRun).map
      (fun s => ((s.fleet.cycles 1).cycle.status, s.failuresOf 1, s.windowsOf 1))
        = some (.failed, 3, 1) := by
    decide +kernel
  obtain ⟨s, hs, hobs⟩ := Option.map_eq_some_iff.mp hrun
  simp only [Prod.mk.injEq] at hobs
  obtain ⟨hstatus, hfailures, hwindows⟩ := hobs
  exact ⟨s, hs, hstatus, hfailures, hwindows,
    failures_counted (Machine.reachable_of_exec quietFleet_init hs) 1⟩

end Cai.Worker
