/-
  Cai.Worker.Loop — the loop of the IA workers.

  `_process_cycles` of `src/workers/ia_worker.py`: a worker waits for its
  provider window, claims a cycle, and runs a pass over it; a transient
  error of the provider puts the cycle off (`retry_delay`) and opens a
  window for the whole worker (`provider_cooldown_delay`).  Before each
  request the window is looked at again (`_ensure_provider_available`).

  The passes are those of the fleet: a step of the loops is a run of the
  fleet, so what holds of the fleet holds under the loops
  (`fleet_reachable`).  `time.time()` is a fraction of seconds, and it may
  show anything; the clock of the database is another one.

  Main results:
    * `requests_after_windows` — no request inside an earlier window.
    * `guard_unreached` — with a clock that does not go back, no pass finds
      its window closed.
-/
import Cai.Media.Fleet
import Cai.Worker.Fleet

namespace Cai.Worker

open Cai.Lib
open Cai.Cycle Cai.Media Cai.Finalization
open Cai.Provider (RetrySettings retryDelay)

/-! ## §1. Processes. -/

/-- With `ia_retry_base_seconds`, `ia_retry_max_delay_seconds` and
    `ia_retry_provider_margin_seconds`. -/
structure LoopSettings extends Settings where
  retry : RetrySettings ℚ

/-- `provider_cooldown_delay` -/
def providerCooldownDelay (settings : RetrySettings ℚ) (providerDelaySeconds : Option ℚ) : ℚ :=
  match providerDelaySeconds with
  | none => settings.baseSeconds
  | some providerDelay => providerDelay + settings.providerMarginSeconds

/-- Where a process stands in its loop. -/
inductive Stage
  /-- Before `_pause_for_provider_window`. -/
  | top
  /-- After it: the process may reconcile, and claims. -/
  | ready
  /-- In `_process_cycle` or `_record_cycle_failure`. -/
  | cycle (cycleId : Nat)
  /-- The process is gone; another one has another id. -/
  | gone
  deriving DecidableEq, Repr

structure Process where
  providerBlockedUntil : ℚ := 0
  stage : Stage := .top
  deriving DecidableEq, Repr

/-- The requests to Groq in the next call of a pass: one for each chunk, one
    for a context that is not blank. -/
def PC.requests (settings : Settings) : PC → Nat
  | .summarize snapshot => (chunkMessages settings.contextChunkTokens snapshot.messages).length
  | .analyze j => if j.snapshot.messages.isEmpty || Text.isBlank j.modelContext then 0 else 1
  | _ => 0

/-! ## §2. The machine. -/

inductive LoopEvent
  /-- The loop found no window, and went on. -/
  | polled (w : WorkerId) (clock : ℚ)
  /-- A request was sent. -/
  | requested (w : WorkerId) (clock : ℚ)
  /-- `ProviderRetryWindowActive` was raised. -/
  | guarded (w : WorkerId) (clock : ℚ)
  /-- A request failed, and a window was opened; `notBefore` is the next attempt of
      the cycle, where it is a datetime. -/
  | window (w : WorkerId) (cycleId : Nat) (failedAt : ℚ) (retryAfterSeconds : Option ℚ)
      (notBefore : Option Timestamp)
  /-- A pass raised another error. -/
  | failed (w : WorkerId) (cycleId : Nat)
  deriving DecidableEq, Repr

/-- The reading of `time.time()` that an event was decided by. -/
def LoopEvent.reading : LoopEvent → Option (WorkerId × ℚ)
  | .polled w clock | .requested w clock | .guarded w clock => some (w, clock)
  | .window w _ failedAt _ _ => some (w, failedAt)
  | .failed .. => none

/-- Requests at `clocks`, in this order. -/
def requestEvents (w : WorkerId) (clocks : List ℚ) : History LoopEvent :=
  (clocks.map fun clock => LoopEvent.requested w clock).reverse

structure LoopState where
  fleet : Fleet
  processes : WorkerId → Process := fun _ => {}
  log : History LoopEvent := []

/-- The clocks of an action are the readings of `_ensure_provider_available`, one
    before each request. -/
inductive LoopAction
  /-- A webhook or a media worker writes a row of a media table. -/
  | media (kind : MediaKind) (messageId : String) (st : ContentStatement)
  /-- `_pause_for_provider_window` -/
  | pause (w : WorkerId) (clock : ℚ)
  /-- `_reconcile_cycles` wakes a cycle. -/
  | reconcile (w : WorkerId) (cycleId : Nat) (now : Timestamp)
  /-- `claim_next_cycle` -/
  | claim (w : WorkerId) (cycleId : Nat) (now : Timestamp)
  /-- Nothing is claimed, or a call of the loop raises. -/
  | idle (w : WorkerId)
  /-- The next call of the pass succeeds. -/
  | step (w : WorkerId) (clocks : List ℚ) (answer : Answer)
  /-- It raises an error that is not transient. -/
  | fail (w : WorkerId) (clocks : List ℚ) (error : String) (notBefore : Timestamp)
  /-- Its last request meets a transient error, which is recorded at `failedAt`. -/
  | transient (w : WorkerId) (clocks : List ℚ) (failedAt : ℚ) (error : String)
      (retryAfterSeconds : Option ℚ)
  /-- The window is closed before the request that would come next, at `clock`. -/
  | guard (w : WorkerId) (clocks : List ℚ) (clock : ℚ)
  /-- The process dies, after the requests at `clocks`. -/
  | crash (w : WorkerId) (clocks : List ℚ)

/-- The worker whose process an action moves. -/
def LoopAction.worker : LoopAction → Option WorkerId
  | .media .. => none
  | .pause w _ | .reconcile w .. | .claim w .. | .idle w | .step w .. | .fail w .. | .transient w ..
  | .guard w .. | .crash w _ => some w

/-- The readings of `time.time()` in an action. -/
def LoopAction.readings : LoopAction → List (WorkerId × ℚ)
  | .pause w clock => [(w, clock)]
  | .step w clocks _ | .fail w clocks _ _ | .crash w clocks => clocks.map fun c => (w, c)
  | .transient w clocks failedAt _ _ => (clocks ++ [failedAt]).map fun c => (w, c)
  | .guard w clocks clock => (clocks ++ [clock]).map fun c => (w, c)
  | _ => []

namespace LoopState

/-- The pass of a process, and its cycle. -/
def pass (s : LoopState) (w : WorkerId) : Option (Nat × Pass) :=
  match (s.processes w).stage with
  | .cycle cycleId => ((s.fleet.cycles cycleId).passes w).map fun p => (cycleId, p)
  | _ => none

def enter (s : LoopState) (w : WorkerId) (stage : Stage) : LoopState :=
  { s with processes := Function.update s.processes w { s.processes w with stage } }

/-- An action of the fleet. -/
def perform (settings : LoopSettings) (s : LoopState) (a : Nat × WorkerAction) : Option LoopState :=
  (fleetStep settings.toSettings s.fleet a).map fun fleet => { s with fleet }

/-- An action of the pass of `w`; the loop goes on at its top when the pass ends. -/
def proceed (settings : LoopSettings) (s : LoopState) (w : WorkerId) (cycleId : Nat)
    (a : WorkerAction) : Option LoopState :=
  (s.perform settings (cycleId, a)).map fun t =>
    if ((t.fleet.cycles cycleId).passes w).isSome then t else t.enter w .top

/-- `_ensure_provider_available` lets the requests at `clocks` through. -/
def admits (s : LoopState) (w : WorkerId) (clocks : List ℚ) : Bool :=
  clocks.all fun clock => decide ((s.processes w).providerBlockedUntil ≤ clock)

/-- `w` sends requests at `clocks`. -/
def request (s : LoopState) (w : WorkerId) (clocks : List ℚ) : LoopState :=
  { s with log := requestEvents w clocks ++ s.log }

/-- `_open_provider_window` -/
def openWindow (s : LoopState) (w : WorkerId) (cycleId : Nat) (delay failedAt : ℚ)
    (retryAfterSeconds : Option ℚ) (notBefore : Option Timestamp) : LoopState :=
  { s with
    processes := Function.update s.processes w
      { s.processes w with
        providerBlockedUntil := max (s.processes w).providerBlockedUntil (failedAt + delay) }
    log := .window w cycleId failedAt retryAfterSeconds notBefore :: s.log }

end LoopState

/-- `datetime.fromtimestamp`, up to its greatest value. -/
def fromTimestamp (seconds : ℚ) : Option Timestamp :=
  if microseconds seconds ≤ maxDatetime then some (microseconds seconds) else none

/-- A transient error, once the delay of its cycle is known. -/
def putOffCycle (settings : LoopSettings) (s : LoopState) (w : WorkerId) (cycleId : Nat)
    (failedAt : ℚ) (error : String) (retryAfterSeconds : Option ℚ) (delay : ℚ) :
    Option LoopState :=
  let notBefore := fromTimestamp (failedAt + delay)
  let opened := s.openWindow w cycleId (providerCooldownDelay settings.retry retryAfterSeconds)
    failedAt retryAfterSeconds notBefore
  match notBefore with
  -- the error of `fromtimestamp` is logged by the loop
  | none => opened.proceed settings w cycleId (.crash w)
  | some notBefore => opened.proceed settings w cycleId (.fail w (.transient error notBefore))

/-- The transient branch of `_record_cycle_failure`, up to its transition. -/
def recordTransient (settings : LoopSettings) (s : LoopState) (w : WorkerId) (cycleId : Nat)
    (p : Pass) (failedAt : ℚ) (error : String) (retryAfterSeconds : Option ℚ) : Option LoopState :=
  match retryDelay settings.retry (p.claimed.transientRetryCount + 1) retryAfterSeconds with
  -- the error of `retry_delay` is logged by the loop, before any window
  | .error _ => s.proceed settings w cycleId (.crash w)
  | .ok delay => putOffCycle settings s w cycleId failedAt error retryAfterSeconds delay

/-- Whether `_record_cycle_failure` is called for an error at `pc`. -/
def PC.recordsFailure (pc : PC) : Bool :=
  !pc.isRequest && !(pc matches .recordFailure _)

/-- One call of a loop. -/
def loopStep (settings : LoopSettings) (s : LoopState) : LoopAction → Option LoopState
  | .media kind messageId st => s.perform settings (0, .media kind messageId st)
  | .pause w clock =>
      if (s.processes w).stage = .top then
        if clock < (s.processes w).providerBlockedUntil then some s
        else
          let polled := s.enter w .ready
          some { polled with log := .polled w clock :: polled.log }
      else none
  | .reconcile w cycleId now =>
      if (s.processes w).stage = .ready then s.perform settings (cycleId, .wake now) else none
  | .claim w cycleId now =>
      if (s.processes w).stage = .ready then
        (s.perform settings (cycleId, .claim w now)).map (·.enter w (.cycle cycleId))
      else none
  | .idle w => if (s.processes w).stage = .ready then some (s.enter w .top) else none
  | .step w clocks answer =>
      (s.pass w).bind fun (cycleId, p) =>
        if clocks.length = p.pc.requests settings.toSettings ∧ s.admits w clocks then
          (s.request w clocks).proceed settings w cycleId (.step w answer)
        else none
  | .fail w clocks error notBefore =>
      (s.pass w).bind fun (cycleId, p) =>
        if clocks.length ≤ p.pc.requests settings.toSettings ∧ s.admits w clocks then
          let requested := s.request w clocks
          let logged := if p.pc.recordsFailure then
            { requested with log := .failed w cycleId :: requested.log } else requested
          logged.proceed settings w cycleId (.fail w (.other error notBefore))
        else none
  | .transient w clocks failedAt error retryAfterSeconds =>
      (s.pass w).bind fun (cycleId, p) =>
        if 0 < clocks.length ∧ clocks.length ≤ p.pc.requests settings.toSettings
            ∧ s.admits w clocks then
          recordTransient settings (s.request w clocks) w cycleId p failedAt error retryAfterSeconds
        else none
  | .guard w clocks clock =>
      (s.pass w).bind fun (cycleId, p) =>
        if clocks.length < p.pc.requests settings.toSettings ∧ s.admits w clocks
            ∧ clock < (s.processes w).providerBlockedUntil then
          let requested := s.request w clocks
          { requested with log := .guarded w clock :: requested.log }.proceed settings w cycleId
            (.windowActive w)
        else none
  | .crash w clocks =>
      match s.pass w with
      | none => some (s.enter w .gone)
      | some (cycleId, p) =>
          if clocks.length ≤ p.pc.requests settings.toSettings ∧ s.admits w clocks then
            ((s.request w clocks).perform settings (cycleId, .crash w)).map (·.enter w .gone)
          else none

/-- **The loops over all cycles.** -/
def loopMachine (settings : LoopSettings) : Machine LoopState LoopAction where
  init s := (∃ fleet, (fleetMachine settings.toSettings).init fleet ∧ s = { fleet })
    ∧ ∀ cycleId, (s.fleet.cycles cycleId).cycle.attemptCount = 0
      ∧ (s.fleet.cycles cycleId).cycle.transientRetryCount = 0
  step := loopStep settings

variable {settings : LoopSettings} {s t : LoopState} {w : WorkerId} {cycleId : Nat} {clock : ℚ}

/-! ## §3. The parts of a step. -/

@[simp] theorem enter_log (s : LoopState) (w : WorkerId) (stage : Stage) :
    (s.enter w stage).log = s.log := rfl

@[simp] theorem enter_fleet (s : LoopState) (w : WorkerId) (stage : Stage) :
    (s.enter w stage).fleet = s.fleet := rfl

@[simp] theorem enter_blocked (s : LoopState) (w : WorkerId) (stage : Stage) (v : WorkerId) :
    ((s.enter w stage).processes v).providerBlockedUntil
      = (s.processes v).providerBlockedUntil := by
  show (Function.update s.processes w _ v).providerBlockedUntil = _
  by_cases hv : v = w
  · subst hv
    rw [Function.update_self]
  · rw [Function.update_of_ne hv]

@[simp] theorem enter_stage (s : LoopState) (w : WorkerId) (stage : Stage) :
    ((s.enter w stage).processes w).stage = stage := by
  show (Function.update s.processes w _ w).stage = stage
  rw [Function.update_self]

theorem enter_other {v : WorkerId} (hv : v ≠ w) (s : LoopState) (stage : Stage) :
    (s.enter w stage).processes v = s.processes v :=
  Function.update_of_ne hv _ _

theorem perform_spec {a : Nat × WorkerAction} (h : s.perform settings a = some t) :
    ∃ fleet, fleetStep settings.toSettings s.fleet a = some fleet ∧ t = { s with fleet } := by
  obtain ⟨fleet, hfleet, rfl⟩ := Option.map_eq_some_iff.mp h
  exact ⟨fleet, hfleet, rfl⟩

/-- The pass of `w` moves, or ends. -/
theorem proceed_spec {a : WorkerAction} (h : s.proceed settings w cycleId a = some t) :
    ∃ fleet, fleetStep settings.toSettings s.fleet (cycleId, a) = some fleet
      ∧ (t = { s with fleet }
        ∨ t = LoopState.enter { s with fleet } w .top ∧ (fleet.cycles cycleId).passes w = none) := by
  obtain ⟨u, hu, rfl⟩ := Option.map_eq_some_iff.mp h
  obtain ⟨fleet, hfleet, rfl⟩ := perform_spec hu
  refine ⟨fleet, hfleet, ?_⟩
  by_cases hpass : ((fleet.cycles cycleId).passes w).isSome = true
  · exact .inl (if_pos hpass)
  · exact .inr ⟨if_neg hpass, by simpa using hpass⟩

/-- Neither the log nor a window changes. -/
theorem proceed_keeps {a : WorkerAction} (h : s.proceed settings w cycleId a = some t) :
    t.log = s.log
      ∧ ∀ v, (t.processes v).providerBlockedUntil = (s.processes v).providerBlockedUntil := by
  obtain ⟨fleet, -, rfl | ⟨rfl, -⟩⟩ := proceed_spec h
  · exact ⟨rfl, fun _ => rfl⟩
  · exact ⟨rfl, fun v => enter_blocked _ w .top v⟩

/-- The pass of a process is the pass of its cycle. -/
theorem pass_spec {p : Pass} (h : s.pass w = some (cycleId, p)) :
    (s.processes w).stage = .cycle cycleId ∧ (s.fleet.cycles cycleId).passes w = some p := by
  unfold LoopState.pass at h
  split at h
  next id hstage =>
    obtain ⟨p', hp', heq⟩ := Option.map_eq_some_iff.mp h
    obtain ⟨rfl, rfl⟩ := Prod.mk.inj heq
    exact ⟨hstage, hp'⟩
  next => cases h

/-- **A transient error** ends the pass, or opens a window before the pass moves. -/
theorem recordTransient_spec {p : Pass} {failedAt : ℚ} {error : String} {asked : Option ℚ}
    (h : recordTransient settings s w cycleId p failedAt error asked = some t) :
    s.proceed settings w cycleId (.crash w) = some t
      ∨ ∃ delay a, retryDelay settings.retry (p.claimed.transientRetryCount + 1) asked = .ok delay
        ∧ (a = .crash w ∨ ∃ notBefore, a = .fail w (.transient error notBefore))
        ∧ (s.openWindow w cycleId (providerCooldownDelay settings.retry asked) failedAt asked
            (fromTimestamp (failedAt + delay))).proceed settings w cycleId a = some t := by
  unfold recordTransient at h
  split at h
  next => exact .inl h
  next delay hdelay =>
    refine .inr ⟨delay, ?_⟩
    unfold putOffCycle at h
    dsimp only at h
    split at h
    next => exact ⟨.crash w, hdelay, .inl rfl, h⟩
    next notBefore _ => exact ⟨_, hdelay, .inr ⟨notBefore, rfl⟩, h⟩

/-- What is on record of an error when the failure of its pass is recorded. -/
def Failure.Logged (w : WorkerId) (cycleId : Nat) (log : List LoopEvent) : Failure → Prop
  | .transient .. => ∃ failedAt asked notBefore, .window w cycleId failedAt asked notBefore ∈ log
  | .other .. => .failed w cycleId ∈ log

/-- The error that an action raises. -/
def WorkerAction.failure? : WorkerAction → Option (WorkerId × Failure)
  | .fail w failure => some (w, failure)
  | _ => none

/-- What a step adds to the log, and what it is for the fleet. -/
structure LoopEffect (settings : LoopSettings) (s t : LoopState) (a : LoopAction)
    (added : List LoopEvent) (moved : Option (Nat × WorkerAction)) : Prop where
  log : t.log = added ++ s.log
  others : ∀ v, a.worker ≠ some v → t.processes v = s.processes v
  still : moved = none → t.fleet = s.fleet
  fleet : ∀ b ∈ moved, fleetStep settings.toSettings s.fleet b = some t.fleet
  worker : ∀ b ∈ moved, ∀ v, b.2.worker = some v → a.worker = some v
  logged : ∀ b ∈ moved, ∀ w failure p, b.2.failure? = some (w, failure) →
    (s.fleet.cycles b.1).passes w = some p → p.pc.recordsFailure = true →
      failure.Logged w b.1 added
  guarded : ∀ w clock, .guarded w clock ∈ added → ∃ clocks, a = .guard w clocks clock

/-- A step of the loop alone. -/
theorem LoopEffect.stays {a : LoopAction} {added : List LoopEvent} (hlog : t.log = added ++ s.log)
    (hothers : ∀ v, a.worker ≠ some v → t.processes v = s.processes v) (hfleet : t.fleet = s.fleet)
    (hguarded : ∀ w clock, .guarded w clock ∉ added) : LoopEffect settings s t a added none := by
  refine ⟨hlog, hothers, fun _ => hfleet, fun b hb => ?_, fun b hb => ?_, fun b hb => ?_,
    fun w clock hmem => absurd hmem (hguarded w clock)⟩
  · cases hb
  · cases hb
  · cases hb

/-- A step of the fleet that raises no error. -/
theorem LoopEffect.moves {a : LoopAction} {added : List LoopEvent} {b : Nat × WorkerAction}
    (hlog : t.log = added ++ s.log)
    (hothers : ∀ v, a.worker ≠ some v → t.processes v = s.processes v)
    (hfleet : fleetStep settings.toSettings s.fleet b = some t.fleet)
    (hworker : ∀ v, b.2.worker = some v → a.worker = some v) (hfail : b.2.failure? = none)
    (hguarded : ∀ w clock, .guarded w clock ∈ added → ∃ clocks, a = .guard w clocks clock) :
    LoopEffect settings s t a added (some b) := by
  refine ⟨hlog, hothers, fun hnone => ?_, ?_, ?_, ?_, hguarded⟩
  · cases hnone
  · rintro _ ⟨⟩
    exact hfleet
  · rintro _ ⟨⟩
    exact hworker
  · rintro _ ⟨⟩ w failure p hraised
    rw [hfail] at hraised
    cases hraised

/-- A step that raises an error, which is on record. -/
theorem LoopEffect.raises {a : LoopAction} {added : List LoopEvent} {failure : Failure}
    (hlog : t.log = added ++ s.log)
    (hothers : ∀ v, a.worker ≠ some v → t.processes v = s.processes v)
    (hfleet : fleetStep settings.toSettings s.fleet (cycleId, .fail w failure) = some t.fleet)
    (hworker : a.worker = some w)
    (hlogged : ∀ p, (s.fleet.cycles cycleId).passes w = some p → p.pc.recordsFailure = true →
      failure.Logged w cycleId added)
    (hguarded : ∀ w clock, .guarded w clock ∉ added) :
    LoopEffect settings s t a added (some (cycleId, .fail w failure)) := by
  refine ⟨hlog, hothers, fun hnone => ?_, ?_, ?_, ?_,
    fun w clock hmem => absurd hmem (hguarded w clock)⟩
  · cases hnone
  · rintro _ ⟨⟩
    exact hfleet
  · rintro _ ⟨⟩ v hv
    exact hworker.trans hv
  · rintro _ ⟨⟩ v failure' p hraised hp hrecords
    obtain ⟨rfl, rfl⟩ := Prod.mk.inj (Option.some.inj hraised)
    exact hlogged p hp hrecords

theorem not_guarded_requestEvents (w : WorkerId) (clocks : List ℚ) (v : WorkerId) (clock : ℚ) :
    .guarded v clock ∉ requestEvents w clocks := by
  simp [requestEvents]

theorem fleetStep_proceed {a : WorkerAction} (h : s.proceed settings w cycleId a = some t) :
    fleetStep settings.toSettings s.fleet (cycleId, a) = some t.fleet := by
  obtain ⟨fleet, hfleet, rfl | ⟨rfl, -⟩⟩ := proceed_spec h
  · exact hfleet
  · exact hfleet

/-- The processes of other workers. -/
theorem proceed_other {a : WorkerAction} (h : s.proceed settings w cycleId a = some t) {v : WorkerId}
    (hv : some w ≠ some v) : t.processes v = s.processes v := by
  obtain ⟨fleet, -, rfl | ⟨rfl, -⟩⟩ := proceed_spec h
  · rfl
  · exact enter_other (fun heq => hv (congrArg some heq.symm)) _ _

theorem fleetStep_perform {a : Nat × WorkerAction} (h : s.perform settings a = some t) :
    fleetStep settings.toSettings s.fleet a = some t.fleet ∧ t.log = s.log
      ∧ t.processes = s.processes := by
  obtain ⟨fleet, hfleet, rfl⟩ := perform_spec h
  exact ⟨hfleet, rfl, rfl⟩

/-- A call of a pass, after the requests at `clocks`. -/
theorem LoopEffect.called {a : LoopAction} {b : WorkerAction} {clocks : List ℚ}
    (h : (s.request w clocks).proceed settings w cycleId b = some t) (ha : a.worker = some w)
    (hb : b.worker = some w) (hfail : b.failure? = none) :
    LoopEffect settings s t a (requestEvents w clocks) (some (cycleId, b)) := by
  have hfleet := fleetStep_proceed h
  refine .moves (proceed_keeps h).1 (fun v hv => ?_) hfleet (fun v hv => ?_) hfail
    fun v clock hmem => absurd hmem (not_guarded_requestEvents w clocks v clock)
  · have hother := proceed_other h (ha ▸ hv)
    exact hother
  · rw [ha, ← hb, hv]

/-- The effect of a transient error. -/
theorem recordTransient_effect {a : LoopAction} (ha : a.worker = some w) {clocks : List ℚ}
    {p : Pass} {failedAt : ℚ} {error : String} {asked : Option ℚ}
    (h : recordTransient settings (s.request w clocks) w cycleId p failedAt error asked = some t) :
    ∃ added moved, LoopEffect settings s t a added moved := by
  obtain hend | ⟨delay, b, -, hb, hopened⟩ := recordTransient_spec h
  · exact ⟨_, _, .called hend ha rfl rfl⟩
  · have hfleet := fleetStep_proceed hopened
    have hlog : t.log = (LoopEvent.window w cycleId failedAt asked (fromTimestamp (failedAt + delay))
        :: requestEvents w clocks) ++ s.log := (proceed_keeps hopened).1
    have hothers : ∀ v, a.worker ≠ some v → t.processes v = s.processes v := by
      intro v hv
      rw [proceed_other hopened (ha ▸ hv)]
      exact Function.update_of_ne (fun heq => hv (by rw [ha, heq])) _ _
    have hguarded : ∀ v clock, .guarded v clock ∉ LoopEvent.window w cycleId failedAt asked
        (fromTimestamp (failedAt + delay)) :: requestEvents w clocks := by
      intro v clock hmem
      rcases List.mem_cons.mp hmem with hnew | hold
      · cases hnew
      · exact not_guarded_requestEvents w clocks v clock hold
    rcases hb with rfl | ⟨notBefore, rfl⟩
    · exact ⟨_, _, .moves hlog hothers hfleet (fun v hv => ha.trans hv) rfl
        fun v clock hmem => absurd hmem (hguarded v clock)⟩
    · exact ⟨_, _, .raises hlog hothers hfleet ha
        (fun p _ _ => ⟨failedAt, asked, _, List.mem_cons_self⟩) hguarded⟩

/-- The effect of another error. -/
theorem fail_effect {clocks : List ℚ} {error : String} {notBefore : Timestamp}
    (h : loopStep settings s (.fail w clocks error notBefore) = some t) :
    ∃ added moved, LoopEffect settings s t (.fail w clocks error notBefore) added moved := by
  obtain ⟨⟨cycleId, p⟩, hp, h⟩ := Option.bind_eq_some_iff.mp h
  simp only [Option.ite_none_right_eq_some] at h
  obtain ⟨-, h⟩ := h
  have hfleet := fleetStep_proceed h
  have hlog := (proceed_keeps h).1
  have hothers : ∀ v, some w ≠ some v → t.processes v = s.processes v := by
    intro v hv
    rw [proceed_other h hv]
    split <;> rfl
  by_cases hrecords : p.pc.recordsFailure = true
  · rw [if_pos hrecords] at hfleet hlog
    have hlog : t.log = (.failed w cycleId :: requestEvents w clocks) ++ s.log := hlog
    refine ⟨_, _, .raises hlog hothers hfleet rfl (fun p' _ _ => List.mem_cons_self)
      fun v clock hmem => ?_⟩
    rcases List.mem_cons.mp hmem with hnew | hold
    · cases hnew
    · exact not_guarded_requestEvents w clocks v clock hold
  · rw [if_neg hrecords] at hfleet hlog
    refine ⟨_, _, .raises hlog hothers hfleet rfl (fun p' hp' hrecords' => ?_)
      (not_guarded_requestEvents w clocks)⟩
    -- the failing pass records nothing
    obtain rfl := Option.some.inj ((pass_spec hp).2.symm.trans hp')
    exact absurd hrecords' hrecords

/-- **What a step does** to the log and to the fleet. -/
theorem loopStep_effect {a : LoopAction} (h : loopStep settings s a = some t) :
    ∃ added moved, LoopEffect settings s t a added moved := by
  have hentered : ∀ (u : LoopState) (w : WorkerId) (stage : Stage) (v : WorkerId),
      some w ≠ some v → (u.enter w stage).processes v = u.processes v := by
    intro u w stage v hv
    exact enter_other (fun heq => hv (congrArg some heq.symm)) u stage
  cases a with
  | media kind messageId st =>
      obtain ⟨hfleet, hlog, hprocesses⟩ := fleetStep_perform h
      refine ⟨[], _, .moves hlog (fun v _ => by rw [hprocesses]) hfleet (fun v hv => ?_) rfl (by simp)⟩
      cases hv
  | pause w clock =>
      simp only [loopStep, Option.ite_none_right_eq_some] at h
      obtain ⟨-, h⟩ := h
      split at h
      next =>
        injection h with h
        subst h
        exact ⟨[], none, .stays rfl (fun _ _ => rfl) rfl (by simp)⟩
      next =>
        injection h with h
        subst h
        exact ⟨[.polled w clock], none, .stays rfl (hentered s w .ready) rfl (by simp)⟩
  | reconcile w cycleId now =>
      simp only [loopStep, Option.ite_none_right_eq_some] at h
      obtain ⟨hfleet, hlog, hprocesses⟩ := fleetStep_perform h.2
      refine ⟨[], _, .moves hlog (fun v _ => by rw [hprocesses]) hfleet (fun v hv => ?_) rfl (by simp)⟩
      cases hv
  | claim w cycleId now =>
      simp only [loopStep, Option.ite_none_right_eq_some, Option.map_eq_some_iff] at h
      obtain ⟨-, u, hu, rfl⟩ := h
      obtain ⟨hfleet, hlog, hprocesses⟩ := fleetStep_perform hu
      refine ⟨[], _, .moves hlog (fun v hv => ?_) hfleet (fun v hv => hv) rfl (by simp)⟩
      rw [hentered u w _ v hv, hprocesses]
  | idle w =>
      simp only [loopStep, Option.ite_none_right_eq_some, Option.some.injEq] at h
      obtain ⟨-, rfl⟩ := h
      exact ⟨[], none, .stays rfl (hentered s w .top) rfl (by simp)⟩
  | step w clocks answer =>
      obtain ⟨⟨cycleId, p⟩, -, h⟩ := Option.bind_eq_some_iff.mp h
      simp only [Option.ite_none_right_eq_some] at h
      exact ⟨_, _, .called h.2 rfl rfl rfl⟩
  | fail w clocks error notBefore => exact fail_effect h
  | transient w clocks failedAt error asked =>
      obtain ⟨⟨cycleId, p⟩, -, h⟩ := Option.bind_eq_some_iff.mp h
      simp only [Option.ite_none_right_eq_some] at h
      exact recordTransient_effect rfl h.2
  | guard w clocks clock =>
      obtain ⟨⟨cycleId, p⟩, -, h⟩ := Option.bind_eq_some_iff.mp h
      simp only [Option.ite_none_right_eq_some] at h
      have hfleet := fleetStep_proceed h.2
      refine ⟨.guarded w clock :: requestEvents w clocks, _, .moves (proceed_keeps h.2).1
        (fun v hv => proceed_other h.2 hv) hfleet (fun v hv => hv) rfl fun v clock' hmem => ?_⟩
      rcases List.mem_cons.mp hmem with hnew | hold
      · simp only [LoopEvent.guarded.injEq] at hnew
        obtain ⟨rfl, rfl⟩ := hnew
        exact ⟨clocks, rfl⟩
      · exact absurd hold (not_guarded_requestEvents w clocks v clock')
  | crash w clocks =>
      simp only [loopStep] at h
      split at h
      next =>
        injection h with h
        subst h
        exact ⟨[], none, .stays rfl (hentered s w .gone) rfl (by simp)⟩
      next cycleId p _ =>
        simp only [Option.ite_none_right_eq_some, Option.map_eq_some_iff] at h
        obtain ⟨-, u, hu, rfl⟩ := h
        obtain ⟨hfleet, hlog, hprocesses⟩ := fleetStep_perform hu
        refine ⟨requestEvents w clocks, _, .moves hlog (fun v hv => ?_) hfleet (fun v hv => hv) rfl
          fun v clock hmem => absurd hmem (not_guarded_requestEvents w clocks v clock)⟩
        rw [hentered u w _ v hv, hprocesses]
        rfl

/-- **A step of the loops is a run of the fleet.** -/
theorem run_step {a : LoopAction} (h : loopStep settings s a = some t) :
    (fleetMachine settings.toSettings).RunWhere Machine.anyStep s.fleet t.fleet := by
  obtain ⟨added, moved, heffect⟩ := loopStep_effect h
  cases moved with
  | none => exact Machine.run_of_eq (heffect.still rfl)
  | some b => exact Machine.run_of_step (heffect.fleet b rfl)

/-- What the loops reach, the fleet reaches. -/
theorem fleet_reachable (h : (loopMachine settings).Reachable s) :
    (fleetMachine settings.toSettings).Reachable s.fleet := by
  refine Machine.Reachable.simulate h ?_ fun s a t _ hstep => run_step hstep
  rintro _ ⟨⟨fleet, hinit, rfl⟩, -⟩
  exact hinit

/-! ## §4. Windows. -/

theorem microseconds_mono {a b : ℚ} (h : a ≤ b) : microseconds a ≤ microseconds b := by
  have hscaled : a * 1000000 ≤ b * 1000000 := by linarith
  have hfloor : ⌊a * 1000000⌋ ≤ ⌊b * 1000000⌋ := Int.floor_mono hscaled
  unfold microseconds
  dsimp only
  rcases lt_or_eq_of_le hfloor with hlt | heq
  · split <;> split <;> omega
  · -- the same number of microseconds, with a greater rest
    rw [heq]
    split
    next => split <;> omega
    next ha =>
      rw [if_neg ?_]
      intro hb
      apply ha
      rcases hb with hb | ⟨hb, heven⟩
      · exact .inl (by linarith)
      · rcases lt_or_eq_of_le (show a * 1000000 - ⌊b * 1000000⌋ ≤ 1 / 2 by linarith) with hlt | hhalf
        · exact .inl hlt
        · exact .inr ⟨hhalf, heven⟩

/-- A cycle is put off for the cooldown at least. -/
theorem cooldown_le_retryDelay {settings : RetrySettings ℚ} {attempt : Nat} {asked : Option ℚ}
    {delay : ℚ} (hsettings : settings.baseSeconds ≤ settings.maxDelaySeconds)
    (h : retryDelay settings attempt asked = .ok delay) :
    providerCooldownDelay settings asked ≤ delay := by
  have hle : attempt ≤ 1024 := by
    by_contra hgt
    rw [Provider.retryDelay_raises (by omega)] at h
    cases h
  rw [Provider.retryDelay_of_le hle, Except.ok.injEq] at h
  subst h
  cases asked with
  | none =>
      have hpow : (1 : ℚ) ≤ 2 ^ (attempt - 1) := one_le_pow₀ one_le_two
      exact le_min (le_mul_of_one_le_right settings.base_pos.le hpow) hsettings
  | some providerDelay => exact le_max_right _ _

/-- A worker claims and sends requests when its windows are over. -/
def requestsLate (settings : LoopSettings) : LoopEvent → History LoopEvent → Prop
  | .requested w clock, older | .polled w clock, older =>
      ∀ cycleId failedAt asked notBefore, .window w cycleId failedAt asked notBefore ∈ older →
        failedAt + providerCooldownDelay settings.retry asked ≤ clock
  | .window _ _ failedAt asked notBefore, _ =>
      settings.retry.baseSeconds ≤ settings.retry.maxDelaySeconds →
        ∀ retryAt ∈ notBefore,
          microseconds (failedAt + providerCooldownDelay settings.retry asked) ≤ retryAt
  | _, _ => True

structure LoopWindows (settings : LoopSettings) (s : LoopState) : Prop where
  /-- A worker waits for the latest end of its windows. -/
  windows : ∀ w cycleId failedAt asked notBefore,
    .window w cycleId failedAt asked notBefore ∈ s.log →
      failedAt + providerCooldownDelay settings.retry asked ≤ (s.processes w).providerBlockedUntil
  events : History.Justified (requestsLate settings) s.log

/-- The windows of a state with the same log. -/
theorem LoopWindows.same (h : LoopWindows settings s) (hlog : t.log = s.log)
    (hblocked : ∀ v, (t.processes v).providerBlockedUntil = (s.processes v).providerBlockedUntil) :
    LoopWindows settings t := by
  constructor
  · intro w cycleId failedAt asked notBefore hmem
    rw [hlog] at hmem
    rw [hblocked]
    exact h.windows w cycleId failedAt asked notBefore hmem
  · rw [hlog]
    exact h.events

/-- An event that is no window is added. -/
theorem LoopWindows.add (h : LoopWindows settings s) {e : LoopEvent}
    (he : (e matches .window ..) = false) (hlate : requestsLate settings e s.log) :
    LoopWindows settings { s with log := e :: s.log } := by
  constructor
  · intro w cycleId failedAt asked notBefore hmem
    rcases List.mem_cons.mp hmem with hnew | hold
    · subst hnew
      cases he
    · exact h.windows w cycleId failedAt asked notBefore hold
  · exact (History.justified_cons _ _).mpr ⟨hlate, h.events⟩

/-- A reading that is past the window of its worker. -/
theorem LoopWindows.late (h : LoopWindows settings s)
    (hclock : (s.processes w).providerBlockedUntil ≤ clock) :
    ∀ cycleId failedAt asked notBefore, .window w cycleId failedAt asked notBefore ∈ s.log →
      failedAt + providerCooldownDelay settings.retry asked ≤ clock := by
  intro cycleId failedAt asked notBefore hmem
  exact (h.windows w cycleId failedAt asked notBefore hmem).trans hclock

theorem request_nil (s : LoopState) (w : WorkerId) : s.request w [] = s := rfl

theorem request_cons (s : LoopState) (w : WorkerId) (clock : ℚ) (clocks : List ℚ) :
    s.request w (clock :: clocks)
      = LoopState.request { s with log := .requested w clock :: s.log } w clocks := by
  simp [LoopState.request, requestEvents]

theorem admits_cons (s : LoopState) (w : WorkerId) (clock : ℚ) (clocks : List ℚ) :
    s.admits w (clock :: clocks) = true
      ↔ (s.processes w).providerBlockedUntil ≤ clock ∧ s.admits w clocks = true := by
  simp [LoopState.admits]

/-- Requests that the window lets through. -/
theorem LoopWindows.request {clocks : List ℚ} (h : LoopWindows settings s)
    (hadmits : s.admits w clocks = true) : LoopWindows settings (s.request w clocks) := by
  induction clocks generalizing s with
  | nil => exact h
  | cons clock clocks ih =>
      obtain ⟨hclock, hrest⟩ := (admits_cons s w clock clocks).mp hadmits
      rw [request_cons]
      exact ih (h.add (e := .requested w clock) rfl (h.late hclock)) hrest

theorem LoopWindows.openWindow (h : LoopWindows settings s) (w : WorkerId) (cycleId : Nat)
    (failedAt : ℚ) {attempt : Nat} {asked : Option ℚ} {delay : ℚ}
    (hdelay : retryDelay settings.retry attempt asked = .ok delay) :
    LoopWindows settings (s.openWindow w cycleId (providerCooldownDelay settings.retry asked)
      failedAt asked (fromTimestamp (failedAt + delay))) := by
  constructor
  · intro v id failedAt' asked' notBefore hmem
    show _ ≤ (Function.update s.processes w _ v).providerBlockedUntil
    rcases List.mem_cons.mp hmem with hnew | hold
    · simp only [LoopEvent.window.injEq] at hnew
      obtain ⟨hv, -, hfailed, hasked, -⟩ := hnew
      rw [hv, hfailed, hasked, Function.update_self]
      exact le_max_right _ _
    · have hle := h.windows v id failedAt' asked' notBefore hold
      by_cases hv : v = w
      · subst hv
        rw [Function.update_self]
        exact hle.trans (le_max_left _ _)
      · rw [Function.update_of_ne hv]
        exact hle
  · refine (History.justified_cons _ _).mpr ⟨?_, h.events⟩
    intro hsettings retryAt hretry
    simp only [fromTimestamp, Option.mem_def, Option.ite_none_right_eq_some,
      Option.some.injEq] at hretry
    rw [← hretry.2]
    exact microseconds_mono (by linarith [cooldown_le_retryDelay hsettings hdelay])

theorem LoopWindows.proceed {a : WorkerAction} (h : LoopWindows settings s)
    (hs : s.proceed settings w cycleId a = some t) : LoopWindows settings t := by
  obtain ⟨hlog, hblocked⟩ := proceed_keeps hs
  exact h.same hlog hblocked

theorem LoopWindows.enter (h : LoopWindows settings s) (w : WorkerId) (stage : Stage) :
    LoopWindows settings (s.enter w stage) :=
  h.same rfl (enter_blocked s w stage)

theorem LoopWindows.perform {a : Nat × WorkerAction} (h : LoopWindows settings s)
    (hs : s.perform settings a = some t) : LoopWindows settings t := by
  obtain ⟨fleet, -, rfl⟩ := perform_spec hs
  exact h.same rfl fun _ => rfl

theorem LoopWindows.step {a : LoopAction} (h : LoopWindows settings s)
    (hs : loopStep settings s a = some t) : LoopWindows settings t := by
  cases a with
  | media kind messageId st => exact h.perform hs
  | pause w clock =>
      simp only [loopStep, Option.ite_none_right_eq_some] at hs
      obtain ⟨-, hs⟩ := hs
      split at hs
      next =>
        injection hs with hs
        exact hs ▸ h
      next hopen =>
        injection hs with hs
        subst hs
        exact (h.enter w .ready).add rfl (h.late (not_lt.mp hopen))
  | reconcile w cycleId now =>
      simp only [loopStep, Option.ite_none_right_eq_some] at hs
      exact h.perform hs.2
  | claim w cycleId now =>
      simp only [loopStep, Option.ite_none_right_eq_some, Option.map_eq_some_iff] at hs
      obtain ⟨-, u, hu, rfl⟩ := hs
      exact (h.perform hu).enter w _
  | idle w =>
      simp only [loopStep, Option.ite_none_right_eq_some, Option.some.injEq] at hs
      rw [← hs.2]
      exact h.enter w .top
  | step w clocks answer =>
      obtain ⟨⟨cycleId, p⟩, -, hs⟩ := Option.bind_eq_some_iff.mp hs
      simp only [Option.ite_none_right_eq_some] at hs
      exact (h.request hs.1.2).proceed hs.2
  | fail w clocks error notBefore =>
      obtain ⟨⟨cycleId, p⟩, -, hs⟩ := Option.bind_eq_some_iff.mp hs
      simp only [Option.ite_none_right_eq_some] at hs
      obtain ⟨⟨-, hadmits⟩, hs⟩ := hs
      refine LoopWindows.proceed ?_ hs
      split
      next => exact (h.request hadmits).add rfl trivial
      next => exact h.request hadmits
  | transient w clocks failedAt error asked =>
      obtain ⟨⟨cycleId, p⟩, -, hs⟩ := Option.bind_eq_some_iff.mp hs
      simp only [Option.ite_none_right_eq_some] at hs
      have hrequest := h.request hs.1.2.2
      obtain hend | ⟨delay, a, hdelay, -, hopened⟩ := recordTransient_spec hs.2
      · exact hrequest.proceed hend
      · exact (hrequest.openWindow w cycleId failedAt hdelay).proceed hopened
  | guard w clocks clock =>
      obtain ⟨⟨cycleId, p⟩, -, hs⟩ := Option.bind_eq_some_iff.mp hs
      simp only [Option.ite_none_right_eq_some] at hs
      have hguarded := (h.request hs.1.2.1).add (e := .guarded w clock) rfl trivial
      exact hguarded.proceed hs.2
  | crash w clocks =>
      simp only [loopStep] at hs
      split at hs
      next =>
        injection hs with hs
        exact hs ▸ h.enter w .gone
      next cycleId p _ =>
        simp only [Option.ite_none_right_eq_some, Option.map_eq_some_iff] at hs
        obtain ⟨hadmits, u, hu, rfl⟩ := hs
        exact ((h.request hadmits.2).perform hu).enter w .gone

theorem LoopWindows.init (h : (loopMachine settings).init s) : LoopWindows settings s := by
  obtain ⟨⟨fleet, -, rfl⟩, -⟩ := h
  constructor
  · intro w cycleId failedAt asked notBefore hmem
    cases hmem
  · exact History.justified_nil

/-- The pass of a worker that does not act. -/
theorem passes_other {x y : World} {a : WorkerAction}
    (h : workerStep settings.toSettings x a = some y) (ha : a.worker ≠ some w) :
    y.passes w = x.passes w := by
  cases workerStep_effect h with
  | media kind messageId st audio images htables => rfl
  | wake now cycle hwake => rfl
  | claim w' now cycle hidle hclaim =>
      have hne : w ≠ w' := fun heq => ha (congrArg some heq.symm)
      exact Function.update_of_ne hne _ _
  | call w' answer p t next hp hcall heffect =>
      have hne : w ≠ w' := fun heq => ha (congrArg some heq.symm)
      rw [heffect.passes, Function.update_of_ne hne]
  | stop w' a p next hact hp hend hnext =>
      have hne : w ≠ w' := by
        rintro rfl
        apply ha
        rcases hact with ⟨failure, rfl⟩ | ⟨rfl, -⟩ | rfl
        · rfl
        · rfl
        · rfl
      exact Function.update_of_ne hne _ _

/-- The worker whose pass an action stops. -/
def WorkerAction.stops : WorkerAction → Option WorkerId
  | .fail w _ | .windowActive w | .crash w => some w
  | _ => none

/-- A pass that stops is over, or records its failure. -/
theorem passes_stopped {x y : World} {a : WorkerAction} {p : Pass}
    (h : workerStep settings.toSettings x a = some y) (ha : a.stops = some w)
    (hp : y.passes w = some p) : ∃ failure, p.pc = .recordFailure failure := by
  cases workerStep_effect h with
  | media kind messageId st audio images htables => cases ha
  | wake now cycle hwake => cases ha
  | claim w' now cycle hidle hclaim => cases ha
  | call w' answer p t next hq hcall heffect => cases ha
  | stop w' a q next hact hq hend hnext =>
      have hw : w' = w := by
        rcases hact with ⟨failure, rfl⟩ | ⟨rfl, -⟩ | rfl
        · exact Option.some.inj ha
        · exact Option.some.inj ha
        · exact Option.some.inj ha
      subst hw
      change Function.update x.passes w' _ w' = some p at hp
      rw [Function.update_self] at hp
      obtain ⟨pc, hpc, rfl⟩ := Option.map_eq_some_iff.mp hp
      exact hnext pc hpc

/-- The record of a failure is the last call of a pass. -/
theorem passes_recorded {x y : World} {answer : Answer} {p : Pass} {failure : Failure}
    (h : workerStep settings.toSettings x (.step w answer) = some y) (hp : x.passes w = some p)
    (hpc : p.pc = .recordFailure failure) : y.passes w = none := by
  have hstep : passStep settings.toSettings x w p p.pc answer = some y := by
    rwa [workerStep, hp] at h
  rw [hpc] at hstep
  cases answer with
  | transition now processingMs =>
      rw [passStep] at hstep
      obtain ⟨tr, -, rfl⟩ := Option.map_eq_some_iff.mp hstep
      exact Function.update_self w none x.passes
  | _ => cases hstep

/-! The same in the fleet. -/

theorem worker_answered (f : Fleet) (cycleId : Nat) (a : WorkerAction) :
    (f.answered cycleId a).worker = a.worker := by
  unfold Fleet.answered
  split <;> rfl

/-- The cycle of an action. -/
theorem fleet_self {f g : Fleet} {b : Nat × WorkerAction}
    (h : fleetStep settings.toSettings f b = some g) :
    workerStep settings.toSettings (f.cycles b.1) (f.answered b.1 b.2) = some (g.cycles b.1) := by
  obtain ⟨world, hworld, rfl⟩ := Option.map_eq_some_iff.mp h
  show _ = some (if b.1 = b.1 then world else _)
  rw [if_pos rfl, hworld]

/-- The other cycles. -/
theorem fleet_others {f g : Fleet} {b : Nat × WorkerAction}
    (h : fleetStep settings.toSettings f b = some g) {c : Nat} (hc : c ≠ b.1) :
    (g.cycles c).passes = (f.cycles c).passes ∧ (g.cycles c).cycle = (f.cycles c).cycle := by
  obtain ⟨world, hworld, rfl⟩ := Option.map_eq_some_iff.mp h
  show (if c = b.1 then world else _).passes = _ ∧ (if c = b.1 then world else _).cycle = _
  rw [if_neg hc]
  exact ⟨rfl, rfl⟩

theorem fleet_passes_other {f g : Fleet} {b : Nat × WorkerAction}
    (h : fleetStep settings.toSettings f b = some g) (hb : b.2.worker ≠ some w) (c : Nat) :
    (g.cycles c).passes w = (f.cycles c).passes w := by
  by_cases hc : c = b.1
  · subst hc
    exact passes_other (fleet_self h) (by rwa [worker_answered])
  · rw [(fleet_others h hc).1]

/-! ## §6. The local guard. -/

/-- A clock that does not go back: no reading is before an earlier one of its worker. -/
def Forward (s : LoopState) (a : LoopAction) : Prop :=
  ∀ w clock, (w, clock) ∈ a.readings → ∀ e ∈ s.log, ∀ earlier, e.reading = some (w, earlier) →
    earlier ≤ clock

/-- The window of a worker was over when its loop went on. -/
def WindowOver (s : LoopState) (w : WorkerId) : Prop :=
  ∃ clock, .polled w clock ∈ s.log ∧ (s.processes w).providerBlockedUntil ≤ clock

/-- What a worker knows of its window. -/
def StageOk (s : LoopState) (w : WorkerId) : Prop :=
  match (s.processes w).stage with
  | .ready => WindowOver s w
  | .cycle cycleId => ∀ p, (s.fleet.cycles cycleId).passes w = some p →
      (∃ failure, p.pc = .recordFailure failure) ∨ WindowOver s w
  | .top | .gone => True

structure GuardInv (s : LoopState) : Prop where
  stages : ∀ w, StageOk s w
  unguarded : ∀ w clock, .guarded w clock ∉ s.log

theorem stageOk_top (h : (s.processes w).stage = .top) : StageOk s w := by
  unfold StageOk
  rw [h]
  trivial

/-- A worker whose process and passes stay. -/
theorem StageOk.same (h : StageOk s w) (hlog : ∀ e ∈ s.log, e ∈ t.log)
    (hprocess : t.processes w = s.processes w)
    (hpasses : ∀ c, (t.fleet.cycles c).passes w = (s.fleet.cycles c).passes w) : StageOk t w := by
  have hover : WindowOver s w → WindowOver t w := by
    rintro ⟨clock, hpolled, hle⟩
    exact ⟨clock, hlog _ hpolled, by rwa [hprocess]⟩
  unfold StageOk at h ⊢
  rw [hprocess]
  split at h
  next => exact hover h
  next cycleId _ =>
    intro p hp
    rw [hpasses] at hp
    exact (h p hp).imp_right hover
  next => trivial
  next => trivial

/-- A step of another worker, or of none. -/
theorem StageOk.others {a : LoopAction} (h : StageOk s w) (hs : loopStep settings s a = some t)
    (ha : a.worker ≠ some w) : StageOk t w := by
  obtain ⟨added, moved, heffect⟩ := loopStep_effect hs
  refine h.same (fun e he => ?_) (heffect.others w ha) (fun c => ?_)
  · rw [heffect.log]
    exact List.mem_append_right _ he
  · cases moved with
    | none => rw [heffect.still rfl]
    | some b =>
        exact fleet_passes_other (heffect.fleet b rfl) (fun hv => ha (heffect.worker b rfl w hv)) c

theorem WindowOver.later (h : WindowOver s w) (hlog : ∀ e ∈ s.log, e ∈ t.log)
    (hblocked : (t.processes w).providerBlockedUntil = (s.processes w).providerBlockedUntil) :
    WindowOver t w := by
  obtain ⟨clock, hpolled, hle⟩ := h
  exact ⟨clock, hlog _ hpolled, by rwa [hblocked]⟩

/-- A call of the pass of `w`. -/
theorem stageOk_proceed {a : WorkerAction} (hstage : (s.processes w).stage = .cycle cycleId)
    (h : s.proceed settings w cycleId a = some t)
    (hpass : ∀ p, (t.fleet.cycles cycleId).passes w = some p →
      (∃ failure, p.pc = .recordFailure failure) ∨ WindowOver t w) : StageOk t w := by
  obtain ⟨fleet, -, rfl | ⟨rfl, -⟩⟩ := proceed_spec h
  · unfold StageOk
    rw [show (LoopState.processes { s with fleet } w).stage = .cycle cycleId from hstage]
    exact hpass
  · exact stageOk_top (enter_stage _ w .top)

/-- A call that stops the pass. -/
theorem stageOk_stopped {a : WorkerAction} (hstage : (s.processes w).stage = .cycle cycleId)
    (h : s.proceed settings w cycleId a = some t) (ha : a.stops = some w) : StageOk t w := by
  refine stageOk_proceed hstage h fun p hp => .inl ?_
  have hstops : (s.fleet.answered cycleId a).stops = some w := by
    rw [← ha]
    unfold Fleet.answered
    split <;> rfl
  exact passes_stopped (fleet_self (fleetStep_proceed h)) hstops hp

/-- **The acting worker** knows its window too. -/
theorem StageOk.acting {a : LoopAction} (h : StageOk s w) (ha : a.worker = some w)
    (hs : loopStep settings s a = some t) : StageOk t w := by
  cases a with
  | media kind messageId st => cases ha
  | pause v clock =>
      injection ha with ha
      subst ha
      simp only [loopStep, Option.ite_none_right_eq_some] at hs
      obtain ⟨-, hs⟩ := hs
      split at hs
      next =>
        injection hs with hs
        exact hs ▸ h
      next hopen =>
        injection hs with hs
        subst hs
        have hready : (LoopState.processes (s.enter v .ready) v).stage = .ready := enter_stage s v .ready
        unfold StageOk
        dsimp only
        rw [hready]
        refine ⟨clock, List.mem_cons_self, ?_⟩
        show ((s.enter v .ready).processes v).providerBlockedUntil ≤ clock
        rw [enter_blocked]
        exact not_lt.mp hopen
  | reconcile v cycleId now =>
      injection ha with ha
      subst ha
      simp only [loopStep, Option.ite_none_right_eq_some] at hs
      obtain ⟨hfleet, hlog, hprocesses⟩ := fleetStep_perform hs.2
      refine h.same (fun e he => by rwa [hlog]) (by rw [hprocesses]) fun c => ?_
      exact fleet_passes_other hfleet (by simp [WorkerAction.worker]) c
  | claim v cycleId now =>
      injection ha with ha
      subst ha
      simp only [loopStep, Option.ite_none_right_eq_some, Option.map_eq_some_iff] at hs
      obtain ⟨hready, u, hu, rfl⟩ := hs
      obtain ⟨-, hlog, hprocesses⟩ := fleetStep_perform hu
      unfold StageOk at h ⊢
      rw [hready] at h
      rw [enter_stage]
      intro p _
      refine .inr (h.later (fun e he => ?_) ?_)
      · rw [enter_log, hlog]
        exact he
      · rw [enter_blocked, hprocesses]
  | idle v =>
      injection ha with ha
      subst ha
      simp only [loopStep, Option.ite_none_right_eq_some, Option.some.injEq] at hs
      rw [← hs.2]
      exact stageOk_top (enter_stage s v .top)
  | step v clocks answer =>
      injection ha with ha
      subst ha
      obtain ⟨⟨cycleId, p⟩, hp, hs⟩ := Option.bind_eq_some_iff.mp hs
      simp only [Option.ite_none_right_eq_some] at hs
      obtain ⟨-, hs⟩ := hs
      obtain ⟨hstage, hpass⟩ := pass_spec hp
      obtain ⟨hlog, hblocked⟩ := proceed_keeps hs
      refine stageOk_proceed (s := s.request v clocks) hstage hs fun p' hp' => ?_
      unfold StageOk at h
      rw [hstage] at h
      rcases h p hpass with ⟨failure, hpc⟩ | hover
      · -- the failure is on record now, and the pass is over
        have hself := fleet_self (fleetStep_proceed hs)
        have hcall : ∃ answer', s.fleet.answered cycleId (.step v answer) = .step v answer' := by
          unfold Fleet.answered
          split
          next heq =>
            injection heq with hw _
            exact ⟨_, by rw [hw]⟩
          next => exact ⟨answer, rfl⟩
        obtain ⟨answer', hanswer⟩ := hcall
        have hcalled : workerStep settings.toSettings (s.fleet.cycles cycleId) (.step v answer')
            = some (t.fleet.cycles cycleId) := hanswer ▸ hself
        rw [passes_recorded hcalled hpass hpc] at hp'
        cases hp'
      · refine .inr (hover.later (fun e he => ?_) (hblocked v))
        rw [hlog]
        exact List.mem_append_right _ he
  | fail v clocks error notBefore =>
      injection ha with ha
      subst ha
      obtain ⟨⟨cycleId, p⟩, hp, hs⟩ := Option.bind_eq_some_iff.mp hs
      simp only [Option.ite_none_right_eq_some] at hs
      refine stageOk_stopped ?_ hs.2 rfl
      have hstage := (pass_spec hp).1
      split
      next => exact hstage
      next => exact hstage
  | transient v clocks failedAt error asked =>
      injection ha with ha
      subst ha
      obtain ⟨⟨cycleId, p⟩, hp, hs⟩ := Option.bind_eq_some_iff.mp hs
      simp only [Option.ite_none_right_eq_some] at hs
      have hstage := (pass_spec hp).1
      obtain hend | ⟨delay, b, -, hb, hopened⟩ := recordTransient_spec hs.2
      · exact stageOk_stopped (s := s.request v clocks) hstage hend rfl
      · refine stageOk_stopped ?_ hopened ?_
        · show (Function.update s.processes v _ v).stage = _
          rw [Function.update_self]
          exact hstage
        · rcases hb with rfl | ⟨notBefore, rfl⟩
          · rfl
          · rfl
  | guard v clocks clock =>
      injection ha with ha
      subst ha
      obtain ⟨⟨cycleId, p⟩, hp, hs⟩ := Option.bind_eq_some_iff.mp hs
      simp only [Option.ite_none_right_eq_some] at hs
      refine stageOk_stopped ?_ hs.2 rfl
      exact (pass_spec hp).1
  | crash v clocks =>
      injection ha with ha
      subst ha
      have hgone : ∀ u : LoopState, StageOk (u.enter v .gone) v := by
        intro u
        unfold StageOk
        rw [enter_stage]
        trivial
      simp only [loopStep] at hs
      split at hs
      next =>
        injection hs with hs
        exact hs ▸ hgone s
      next =>
        simp only [Option.ite_none_right_eq_some, Option.map_eq_some_iff] at hs
        obtain ⟨-, u, -, rfl⟩ := hs
        exact hgone u

/-- A pass with a request to make finds its window over. -/
theorem not_guarded {clocks : List ℚ} (hinv : GuardInv s) (hforward : Forward s (.guard w clocks clock)) :
    loopStep settings s (.guard w clocks clock) = none := by
  cases hs : loopStep settings s (.guard w clocks clock) with
  | none => rfl
  | some t =>
      obtain ⟨⟨cycleId, p⟩, hp, hs⟩ := Option.bind_eq_some_iff.mp hs
      simp only [Option.ite_none_right_eq_some] at hs
      obtain ⟨⟨hmore, -, hclosed⟩, -⟩ := hs
      obtain ⟨hstage, hpass⟩ := pass_spec hp
      have hok := hinv.stages w
      unfold StageOk at hok
      rw [hstage] at hok
      rcases hok p hpass with ⟨failure, hpc⟩ | ⟨polledAt, hpolled, hle⟩
      · rw [hpc] at hmore
        cases hmore
      · -- the clock went back since the loop went on
        have hlater : polledAt ≤ clock :=
          hforward w clock (by simp [LoopAction.readings]) _ hpolled polledAt rfl
        exact absurd (hclosed.trans_le (hle.trans hlater)) (lt_irrefl _)

theorem GuardInv.step {a : LoopAction} (h : GuardInv s) (hforward : Forward s a)
    (hs : loopStep settings s a = some t) : GuardInv t := by
  constructor
  · intro w
    by_cases ha : a.worker = some w
    · exact (h.stages w).acting ha hs
    · exact (h.stages w).others hs ha
  · intro w clock hmem
    obtain ⟨added, moved, heffect⟩ := loopStep_effect hs
    rw [heffect.log] at hmem
    rcases List.mem_append.mp hmem with hnew | hold
    · obtain ⟨clocks, rfl⟩ := heffect.guarded w clock hnew
      rw [not_guarded h hforward] at hs
      cases hs
    · exact h.unguarded w clock hold

/-- **The local guard is not reached**: with clocks that do not go back, no
    pass of any worker finds its window closed, so none ends without a trace
    for that. -/
theorem guard_unreached (h : (loopMachine settings).ReachableWhere Forward s) (w : WorkerId)
    (clock : ℚ) : .guarded w clock ∉ s.log := by
  have hinv : GuardInv s := by
    refine h.invariant ?_ fun s a t hs hforward hstep => hs.step hforward hstep
    rintro _ ⟨⟨fleet, -, rfl⟩, -⟩
    exact ⟨fun w => stageOk_top rfl, fun w clock hmem => by cases hmem⟩
  exact hinv.unguarded w clock

/-! ## §7. A worker that waits. -/

/-- `Forward`, as a test. -/
def isForward (s : LoopState) (a : LoopAction) : Bool :=
  a.readings.all fun (w, clock) => s.log.all fun e => e.reading.all fun (v, earlier) =>
    v != w || decide (earlier ≤ clock)

theorem forward_of_isForward {a : LoopAction} (h : isForward s a = true) : Forward s a := by
  intro w clock hreading e he earlier hearlier
  have hall := List.all_eq_true.mp h (w, clock) hreading
  have hevent := List.all_eq_true.mp hall e he
  rw [hearlier] at hevent
  simpa using hevent

/-- The settings of the code. -/
def loopSettings : LoopSettings :=
  { toSettings := defaultSettings, retry := Provider.defaultSettings }

/-- No cycle has been claimed. -/
def quietFleet : Fleet :=
  ⟨noMessages, fun cycleId => World.fresh { firstCycle with id := cycleId } none⟩

theorem quietFleet_init : (loopMachine loopSettings).init { fleet := quietFleet } :=
  ⟨⟨quietFleet, ⟨rfl, fun _ => ⟨_, none, rfl, rfl, rfl, rfl⟩⟩, rfl⟩, fun _ => ⟨rfl, rfl⟩⟩

/-- The provider asks for five seconds; the worker waits, and asks again. -/
def waitingRun : List LoopAction :=
  [.pause 0 100, .claim 0 1 100000000, .step 0 [] (.transition 100000000 0),
   .step 0 [] (.history calmHistory none), .step 0 [] (.saved []), .step 0 [] (.names [] [] []),
   .step 0 [] (.transition 100000000 0), .step 0 [] .read, .step 0 [] .read, .step 0 [] .read,
   .step 0 [] .read, .step 0 [] .read, .step 0 [] (.transition 100000000 0),
   .transient 0 [100] 101 "TransientProviderError: Groq classification request failed" (some 5),
   .step 0 [] (.transition 101000000 0), .pause 0 103, .pause 0 107, .claim 0 1 107000000,
   .step 0 [] .read, .step 0 [] .read, .step 0 [] .read, .step 0 [] .read, .step 0 [] .read,
   .step 0 [] (.transition 107000000 0), .step 0 [107] .analyzed]

/-- What the worker did, newest first. -/
def waitingLog : History LoopEvent :=
  [.requested 0 107, .polled 0 107, .window 0 1 101 (some 5) (some 107000000), .requested 0 100,
   .polled 0 100]

theorem waitingRun_log :
    ((loopMachine loopSettings).execWhere isForward { fleet := quietFleet } waitingRun).map (·.log)
      = some waitingLog := by
  decide +kernel

theorem guard_unreached_waiting :
    ∃ s, (loopMachine loopSettings).execWhere isForward { fleet := quietFleet } waitingRun = some s
      ∧ s.log = waitingLog ∧ .guarded 0 107 ∉ s.log := by
  obtain ⟨s, hs, hlog⟩ := Option.map_eq_some_iff.mp waitingRun_log
  have hrun := Machine.runWhere_of_execWhere (I := fun _ => True)
    (fun _ _ _ => forward_of_isForward) (fun _ _ _ _ _ _ => trivial) trivial hs
  exact ⟨s, hs, hlog, guard_unreached ⟨_, quietFleet_init, hrun⟩ 0 107⟩

/-- With a clock that goes back, the guard is reached: the cycle stays with its lease. -/
example : ((loopMachine loopSettings).exec { fleet := quietFleet }
    (waitingRun.dropLast ++ [.guard 0 [] 106])).map (fun s => s.log.head?)
      = some (some (.guarded 0 106)) := by
  decide +kernel

end Cai.Worker
