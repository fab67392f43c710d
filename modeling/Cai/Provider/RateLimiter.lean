/-
  Cai.Provider.RateLimiter — admission to a provider.

  `SlidingWindowRateLimiter` of `src/core/provider_coordination.py`.  The
  limiters of one key share a state, and a call holds the lock of the state
  from its beginning to its admission, sleeping included.  A round of its
  loop is one step of the machine, so that calls of other keys, and new
  limiters, may come between two of them; how long a sleep takes is left
  open.

  Times are exact: elements of an ordered field.

  Main results:
    * `admissions_spaced` — at most `limit` admissions per window.
    * `round_after_delay` — after a sleep that is not cut short, the call is
      admitted.
    * `request_limiters_agree` — limiters under the keys of the request
      adapter have the limit of their state.
-/
import Mathlib.Algebra.Order.Ring.Rat
import Mathlib.Data.List.DropRight
import Cai.Lib.Replacement
import Cai.Lib.Transition
import Cai.Lib.Window

namespace Cai.Provider

open Cai.Lib

variable {K : Type}

/-! ## §1. The state of a key. -/

/-- `_SlidingWindowState`, with all admissions there were. -/
structure SlidingWindowState (K : Type) where
  limit : Nat
  requests : List K := []
  /-- The limiter whose call holds the lock. -/
  holder : Option Nat := none
  /-- All admissions, in their order; the code keeps `requests` only. -/
  admitted : List K := []
  deriving DecidableEq, Repr

section

variable [Field K] [LinearOrder K]

/-- The inner loop: the requests that are not 60 seconds old. -/
def evict (now : K) : List K → List K
  | [] => []
  | first :: rest => if 60 ≤ now - first then evict now rest else first :: rest

namespace SlidingWindowState

/-- One round of the outer loop: the call is admitted and leaves, or sleeps. -/
def round (s : SlidingWindowState K) (now : K) : SlidingWindowState K :=
  let requests := evict now s.requests
  if requests.length < s.limit then
    { s with requests := requests ++ [now], holder := none, admitted := s.admitted ++ [now] }
  else { s with requests }

/-- What `sleep` is given, after a round that does not admit. -/
def delay (s : SlidingWindowState K) (now : K) : Option K :=
  s.requests.head?.map fun first => max 0 (60 - (now - first))

end SlidingWindowState

end

/-! ## §2. The limiters. -/

/-- `SlidingWindowRateLimiter`; `state` is the number of `_state`. -/
structure SlidingWindowRateLimiter where
  limit : Nat
  state : Nat
  deriving DecidableEq, Repr

/-- The limiters of a process, and the last reading of the clock. -/
structure Coordination (K : Type) where
  clock : K
  states : List (SlidingWindowState K) := []
  /-- `_shared_states` -/
  sharedStates : List (String × Nat) := []
  limiters : List SlidingWindowRateLimiter := []

inductive CoordinationAction (K : Type)
  /-- `SlidingWindowRateLimiter(limit_per_minute, shared_key=…)` -/
  | create (limitPerMinute : Int) (sharedKey : Option String)
  /-- A call of `before_request` of limiter number `i` takes the lock. -/
  | enter (i : Nat)
  /-- It reads the clock. -/
  | round (i : Nat) (now : K)
  /-- The clock or the sleep raises. -/
  | leave (i : Nat)
  deriving DecidableEq, Repr

namespace Coordination

/-- `__init__`, after the check of the limit. -/
def create (w : Coordination K) (limit : Nat) (sharedKey : Option String) : Coordination K :=
  match sharedKey.bind fun key => w.sharedStates.lookup key with
  | some state => { w with limiters := w.limiters ++ [{ limit, state }] }
  | none =>
      { w with
        states := w.states ++ [{ limit }]
        sharedStates := w.sharedStates ++ sharedKey.toList.map fun key => (key, w.states.length)
        limiters := w.limiters ++ [{ limit, state := w.states.length }] }

/-- The limiter number `i`, and its state. -/
def stateOf (w : Coordination K) (i : Nat) : Option (Nat × SlidingWindowState K) := do
  let limiter ← w.limiters[i]?
  let s ← w.states[limiter.state]?
  return (limiter.state, s)

variable [Field K] [LinearOrder K]

/-- What an action does; a call waits for the lock, and the clock never goes back. -/
def step (w : Coordination K) : CoordinationAction K → Option (Coordination K)
  | .create limitPerMinute sharedKey =>
      some (if 1 ≤ limitPerMinute ∧ limitPerMinute ≤ 100 then w.create limitPerMinute.toNat sharedKey
        else w)
  | .enter i => do
      let (j, s) ← w.stateOf i
      if s.holder = none then
        some { w with states := w.states.set j { s with holder := some i } }
      else none
  | .round i now => do
      let (j, s) ← w.stateOf i
      if s.holder = some i ∧ w.clock ≤ now then
        some { w with clock := now, states := w.states.set j (s.round now) }
      else none
  | .leave i => do
      let (j, s) ← w.stateOf i
      if s.holder = some i then some { w with states := w.states.set j { s with holder := none } }
      else none

end Coordination

/-- A process, from its start. -/
def coordination (K : Type) [Field K] [LinearOrder K] :
    Machine (Coordination K) (CoordinationAction K) where
  init w := w.states = [] ∧ w.sharedStates = [] ∧ w.limiters = []
  step := Coordination.step

/-! ## §3. One round. -/

section

variable [Field K] [LinearOrder K] {now clock delay : K} {s : SlidingWindowState K} {requests : List K}

/-- The requests that are evicted are old; the others stay in their order. -/
theorem evict_spec (now : K) (requests : List K) :
    ∃ old, requests = old ++ evict now requests ∧ ∀ a ∈ old, 60 ≤ now - a := by
  induction requests with
  | nil => exact ⟨[], rfl, fun a ha => absurd ha List.not_mem_nil⟩
  | cons first rest ih =>
      unfold evict
      split
      next hold =>
        obtain ⟨old, heq, hall⟩ := ih
        refine ⟨first :: old, congrArg (first :: ·) heq, fun a ha => ?_⟩
        rcases List.mem_cons.mp ha with rfl | hmem
        · exact hold
        · exact hall a hmem
      next => exact ⟨[], rfl, fun a ha => absurd ha List.not_mem_nil⟩

theorem round_of_room (h : (evict now s.requests).length < s.limit) :
    s.round now = { s with
      requests := evict now s.requests ++ [now], holder := none, admitted := s.admitted ++ [now] } :=
  if_pos h

theorem round_of_full (h : ¬(evict now s.requests).length < s.limit) :
    s.round now = { s with requests := evict now s.requests } :=
  if_neg h

theorem limit_round (s : SlidingWindowState K) (now : K) : (s.round now).limit = s.limit := by
  unfold SlidingWindowState.round
  simp only
  split
  next => rfl
  next => rfl

/-- What holds of a state while the clock shows `clock`. -/
structure StateInv (clock : K) (s : SlidingWindowState K) : Prop where
  positive : 0 < s.limit
  room : s.requests.length ≤ s.limit
  /-- The deque is what is left of all admissions after the old ones. -/
  kept : ∃ evicted, s.admitted = evicted ++ s.requests ∧ ∀ a ∈ evicted, 60 ≤ clock - a
  sorted : s.admitted.Pairwise (· ≤ ·)
  past : ∀ a ∈ s.admitted, a ≤ clock
  spaced : Spaced s.limit 60 s.admitted

variable [IsStrictOrderedRing K]

theorem StateInv.later (h : StateInv clock s) (hle : clock ≤ now) : StateInv now s := by
  obtain ⟨evicted, heq, hold⟩ := h.kept
  refine ⟨h.positive, h.room, ⟨evicted, heq, fun a ha => ?_⟩, h.sorted,
    fun a ha => (h.past a ha).trans hle, h.spaced⟩
  have hwidth := hold a ha
  linarith

/-- **One round** keeps the invariant. -/
theorem StateInv.round (h : StateInv clock s) (hle : clock ≤ now) : StateInv now (s.round now) := by
  have hnow := h.later hle
  obtain ⟨evicted, heq, hold⟩ := hnow.kept
  obtain ⟨old, hrequests, holder⟩ := evict_spec now s.requests
  -- the admissions that are not in the deque after the eviction
  have hadmitted : s.admitted = (evicted ++ old) ++ evict now s.requests := by
    rw [List.append_assoc, ← hrequests]
    exact heq
  have hfar : ∀ a ∈ evicted ++ old, 60 ≤ now - a := by
    intro a ha
    rcases List.mem_append.mp ha with hearlier | hlater
    · exact hold a hearlier
    · exact holder a hlater
  have hlength : (evict now s.requests).length ≤ s.requests.length := by
    rw [congrArg List.length hrequests, List.length_append]
    exact Nat.le_add_left _ _
  by_cases hroom : (evict now s.requests).length < s.limit
  · rw [round_of_room hroom]
    have hpast : ∀ a ∈ s.admitted ++ [now], a ≤ now := by
      intro a ha
      rcases List.mem_append.mp ha with hearlier | hlast
      · exact hnow.past a hearlier
      · rw [List.mem_singleton.mp hlast]
    refine ⟨h.positive, ?_, ⟨evicted ++ old, ?_, hfar⟩, ?_, hpast, ?_⟩
    · rw [List.length_append, List.length_singleton]
      exact hroom
    · show s.admitted ++ [now] = _
      rw [hadmitted, List.append_assoc]
    · refine List.pairwise_append.mpr ⟨h.sorted, List.pairwise_singleton _ _, fun a ha b hb => ?_⟩
      rw [List.mem_singleton.mp hb]
      exact hnow.past a ha
    · have hspaced := h.spaced
      show Spaced s.limit 60 (s.admitted ++ [now])
      rw [hadmitted] at hspaced ⊢
      exact hspaced.append hfar hroom
  · rw [round_of_full hroom]
    exact ⟨h.positive, hlength.trans h.room, ⟨evicted ++ old, hadmitted, hfar⟩, h.sorted,
      hnow.past, h.spaced⟩

/-- **A sleep that is not cut short** is followed by the admission. -/
theorem round_after_delay (h : StateInv clock s) (hle : clock ≤ now)
    (hfull : ¬(evict now s.requests).length < s.limit) (hdelay : (s.round now).delay now = some delay)
    {later : K} (hlater : now + delay ≤ later) :
    ((s.round now).round later).admitted = s.admitted ++ [later] := by
  have hinv := h.round hle
  rw [round_of_full hfull] at hinv hdelay ⊢
  obtain ⟨first, hfirst, hmax⟩ := Option.map_eq_some_iff.mp hdelay
  obtain ⟨rest, hrest⟩ := List.head?_eq_some_iff.mp hfirst
  have hwait : 60 - (now - first) ≤ delay := hmax ▸ le_max_right _ _
  have hroom : (evict later (evict now s.requests)).length < s.limit := by
    have hold : 60 ≤ later - first := by linarith
    have hevict : evict later (evict now s.requests) = evict later rest := by
      show evict later (evict now s.requests) = _
      rw [show evict now s.requests = first :: rest from hrest, evict, if_pos hold]
    obtain ⟨old, hold', -⟩ := evict_spec later rest
    have hle' : (evict later rest).length ≤ rest.length := by
      rw [congrArg List.length hold', List.length_append]
      exact Nat.le_add_left _ _
    have hlength : (evict now s.requests).length ≤ s.limit := hinv.room
    rw [show evict now s.requests = first :: rest from hrest, List.length_cons] at hlength
    rw [hevict]
    omega
  rw [round_of_room hroom]

/-! ## §4. Any interleaving. -/

variable {w w' : Coordination K}

/-- What holds of a process at any time. -/
structure CoordinationInv (w : Coordination K) : Prop where
  states : ∀ s ∈ w.states, StateInv w.clock s
  limiters : ∀ limiter ∈ w.limiters, limiter.state < w.states.length
  shared : ∀ item ∈ w.sharedStates, item.2 < w.states.length
  /-- A state has the limit of the limiter that it was made for. -/
  made : ∀ j s, w.states[j]? = some s → ∃ limiter ∈ w.limiters, limiter.state = j ∧ limiter.limit = s.limit

omit [IsStrictOrderedRing K] in
theorem coordinationInv_init (h : (coordination K).init w) : CoordinationInv w := by
  obtain ⟨hstates, hshared, hlimiters⟩ := h
  refine ⟨?_, ?_, ?_, ?_⟩
  · rw [hstates]
    exact fun s hs => absurd hs List.not_mem_nil
  · rw [hlimiters]
    exact fun limiter hl => absurd hl List.not_mem_nil
  · rw [hshared]
    exact fun item hitem => absurd hitem List.not_mem_nil
  · rw [hstates]
    intro j s hs
    cases hs

/-- One state goes on, and the clock. -/
theorem CoordinationInv.set (hinv : CoordinationInv w) {j : Nat} {s' : SlidingWindowState K}
    (hs : w.states[j]? = some s) (hlimit : s'.limit = s.limit) (hle : w.clock ≤ now)
    (hs' : StateInv now s') :
    CoordinationInv { w with clock := now, states := w.states.set j s' } := by
  refine ⟨fun t ht => ?_, fun limiter hl => ?_, fun item hitem => ?_, fun i t ht => ?_⟩
  · rcases List.mem_or_eq_of_mem_set ht with hold | rfl
    · exact (hinv.states t hold).later hle
    · exact hs'
  · rw [List.length_set]
    exact hinv.limiters limiter hl
  · rw [List.length_set]
    exact hinv.shared item hitem
  · obtain ⟨hlt, -⟩ := List.getElem?_eq_some_iff.mp hs
    rw [List.getElem?_set] at ht
    by_cases hij : j = i
    · rw [if_pos hij, if_pos (hij ▸ hlt)] at ht
      rw [← hij, ← Option.some.inj ht, hlimit]
      exact hinv.made j s hs
    · rw [if_neg hij] at ht
      exact hinv.made i t ht

omit [IsStrictOrderedRing K] in
/-- A new limiter shares a state, or gets one of its own. -/
theorem CoordinationInv.create (hinv : CoordinationInv w) {limit : Nat} (hpos : 0 < limit)
    (sharedKey : Option String) : CoordinationInv (w.create limit sharedKey) := by
  unfold Coordination.create
  split
  next j hj =>
    obtain ⟨key, -, hlookup⟩ := Option.bind_eq_some_iff.mp hj
    have hlt : j < w.states.length := hinv.shared (key, j) (mem_of_lookup hlookup)
    refine ⟨hinv.states, fun limiter hl => ?_, hinv.shared, fun i s hs => ?_⟩
    · rcases List.mem_append.mp hl with hold | hnew
      · exact hinv.limiters limiter hold
      · rw [List.mem_singleton.mp hnew]
        exact hlt
    · obtain ⟨limiter, hl, hmade⟩ := hinv.made i s hs
      exact ⟨limiter, List.mem_append_left _ hl, hmade⟩
  next =>
    have hlength : ∀ s : SlidingWindowState K, (w.states ++ [s]).length = w.states.length + 1 :=
      fun s => by rw [List.length_append, List.length_singleton]
    refine ⟨fun s hs => ?_, fun limiter hl => ?_, fun item hitem => ?_, fun i s hs => ?_⟩
    · rcases List.mem_append.mp hs with hold | hnew
      · exact hinv.states s hold
      · -- a new state has no requests
        rw [List.mem_singleton.mp hnew]
        exact ⟨hpos, Nat.zero_le _, ⟨[], rfl, fun a ha => absurd ha List.not_mem_nil⟩,
          List.Pairwise.nil, fun a ha => absurd ha List.not_mem_nil, spaced_nil⟩
    · rw [hlength]
      rcases List.mem_append.mp hl with hold | hnew
      · exact Nat.lt_succ_of_lt (hinv.limiters limiter hold)
      · rw [List.mem_singleton.mp hnew]
        exact Nat.lt_succ_self _
    · rw [hlength]
      rcases List.mem_append.mp hitem with hold | hnew
      · exact Nat.lt_succ_of_lt (hinv.shared item hold)
      · obtain ⟨key, -, rfl⟩ := List.mem_map.mp hnew
        exact Nat.lt_succ_self _
    · rcases Nat.lt_or_ge i w.states.length with hlt | hge
      · rw [List.getElem?_append_left hlt] at hs
        obtain ⟨limiter, hl, hmade⟩ := hinv.made i s hs
        exact ⟨limiter, List.mem_append_left _ hl, hmade⟩
      · obtain ⟨hlast, -⟩ := List.getElem?_eq_some_iff.mp hs
        rw [hlength] at hlast
        have heq : i = w.states.length := by omega
        rw [heq, List.getElem?_concat_length] at hs
        rw [← Option.some.inj hs]
        exact ⟨_, List.mem_append_right _ (List.mem_singleton_self _), heq.symm, rfl⟩

omit [IsStrictOrderedRing K] in
/-- What a step can do: a new limiter, a lock that is taken or given back, a round. -/
theorem step_cases {a : CoordinationAction K} (h : (coordination K).step w a = some w') :
    (∃ n sharedKey, a = .create n sharedKey
        ∧ w' = if 1 ≤ n ∧ n ≤ 100 then w.create n.toNat sharedKey else w)
      ∨ (∃ j s holder, w.states[j]? = some s
        ∧ w' = { w with states := w.states.set j { s with holder } })
      ∨ ∃ i now j s, a = .round i now ∧ w.states[j]? = some s ∧ s.holder = some i ∧ w.clock ≤ now
        ∧ w' = { w with clock := now, states := w.states.set j (s.round now) } := by
  have hstate : ∀ {i j s}, w.stateOf i = some (j, s) → w.states[j]? = some s := by
    intro i j s h
    unfold Coordination.stateOf at h
    obtain ⟨limiter, -, h⟩ := Option.bind_eq_some_iff.mp h
    obtain ⟨t, ht, h⟩ := Option.bind_eq_some_iff.mp h
    obtain ⟨rfl, rfl⟩ := Prod.mk.inj (Option.some.inj h)
    exact ht
  cases a with
  | create n sharedKey => exact .inl ⟨n, sharedKey, rfl, (Option.some.inj h).symm⟩
  | enter i =>
      obtain ⟨⟨j, s⟩, hi, h⟩ := Option.bind_eq_some_iff.mp h
      obtain ⟨-, h⟩ := Option.ite_none_right_eq_some.mp h
      exact .inr (.inl ⟨j, s, _, hstate hi, (Option.some.inj h).symm⟩)
  | round i now =>
      obtain ⟨⟨j, s⟩, hi, h⟩ := Option.bind_eq_some_iff.mp h
      obtain ⟨⟨hholder, hle⟩, h⟩ := Option.ite_none_right_eq_some.mp h
      exact .inr (.inr ⟨i, now, j, s, rfl, hstate hi, hholder, hle, (Option.some.inj h).symm⟩)
  | leave i =>
      obtain ⟨⟨j, s⟩, hi, h⟩ := Option.bind_eq_some_iff.mp h
      obtain ⟨-, h⟩ := Option.ite_none_right_eq_some.mp h
      exact .inr (.inl ⟨j, s, _, hstate hi, (Option.some.inj h).symm⟩)

/-- **One step.** -/
theorem CoordinationInv.step (hinv : CoordinationInv w) {a : CoordinationAction K}
    (h : (coordination K).step w a = some w') : CoordinationInv w' := by
  have hmem : ∀ {j s}, w.states[j]? = some s → StateInv w.clock s :=
    fun hs => hinv.states _ (List.mem_of_getElem? hs)
  rcases step_cases h with ⟨n, key, -, heq⟩ | ⟨j, s, holder, hs, heq⟩ | ⟨i, now, j, s, -, hs, -, hle, heq⟩
  · rw [heq]
    split
    next hlimit => exact hinv.create (by omega) key
    next => exact hinv
  · rw [heq]
    have h := hmem hs
    exact hinv.set hs rfl le_rfl ⟨h.positive, h.room, h.kept, h.sorted, h.past, h.spaced⟩
  · rw [heq]
    exact hinv.set hs (limit_round s now) hle ((hmem hs).round hle)

theorem reachable_coordinationInv {ok : Coordination K → CoordinationAction K → Prop}
    (h : (coordination K).ReachableWhere ok w) : CoordinationInv w :=
  h.invariant (fun _ => coordinationInv_init) fun _ _ _ hinv _ hstep => hinv.step hstep

/-- **At most `limit` admissions per window.**  The admissions number `k` and `k + limit`
    through the limiters of a state are 60 seconds apart, so no shorter window holds more
    than `limit`; the limit is that of one of these limiters. -/
theorem admissions_spaced (h : (coordination K).Reachable w) {i : Nat}
    {limiter : SlidingWindowRateLimiter} (hi : w.limiters[i]? = some limiter) :
    ∃ s, w.states[limiter.state]? = some s ∧ Spaced s.limit 60 s.admitted
      ∧ (∀ start d, d < 60 → s.admitted.countP (fun t => start ≤ t ∧ t ≤ start + d) ≤ s.limit)
      ∧ ∃ first ∈ w.limiters, first.state = limiter.state ∧ first.limit = s.limit := by
  have hinv := reachable_coordinationInv h
  have hlt := hinv.limiters limiter (List.mem_of_getElem? hi)
  have hs := hinv.states _ (List.getElem_mem hlt)
  exact ⟨_, List.getElem?_eq_getElem hlt, hs.spaced,
    fun start d hd => hs.spaced.count_window_le hs.sorted hd,
    hinv.made _ _ (List.getElem?_eq_getElem hlt)⟩

/-- Two limiters of one key, with one admission a minute: the second call has to sleep, and
    its sleep ends early once. -/
theorem earlySleep_spaced :
    ∃ w s, (coordination ℚ).Reachable w ∧ w.states[0]? = some s ∧ s.admitted = [0, 60]
      ∧ Spaced s.limit 60 s.admitted := by
  have hrun : ((coordination ℚ).exec { clock := 0 }
      [.create 1 (some "request:https://api:1"), .create 1 (some "request:https://api:1"),
        .enter 0, .round 0 0, .enter 1, .round 1 30, .round 1 45, .round 1 60]).map
      (fun w => (w.limiters[1]?, w.states.map (·.admitted)))
      = some (some { limit := 1, state := 0 }, [[0, 60]]) := by decide +kernel
  obtain ⟨w, hexec, hw⟩ := Option.map_eq_some_iff.mp hrun
  obtain ⟨hlimiter, hadmitted⟩ := Prod.mk.inj hw
  have hreachable : (coordination ℚ).Reachable w :=
    Machine.reachable_of_exec ⟨rfl, rfl, rfl⟩ hexec
  obtain ⟨s, hs, hspaced, -⟩ := admissions_spaced hreachable hlimiter
  have hs' : (w.states.map (·.admitted))[0]? = some s.admitted := by
    rw [List.getElem?_map, hs]
    rfl
  rw [hadmitted] at hs'
  exact ⟨w, s, hreachable, hs, (Option.some.inj hs').symm, hspaced⟩

end

/-! ## §5. The key of the request adapter. -/

/-- `urlsplit(url)`, as far as it is used. -/
structure SplitUrl where
  scheme : String
  netloc : String
  path : String

/-- `_request_rate_limit_key`, given `urlsplit`. -/
def requestRateLimitKey (urlsplit : String → SplitUrl) (baseUrl : String) (limitPerMinute : Int) :
    String :=
  let parsed := urlsplit baseUrl
  -- `netloc.rsplit("@", 1)[-1]`
  let safeNetloc := String.ofList (parsed.netloc.toList.reverse.takeWhile (· ≠ '@')).reverse
  let endpoint := parsed.scheme ++ "://" ++ safeNetloc
    ++ String.ofList (parsed.path.toList.rdropWhile (· == '/'))
  "request:" ++ endpoint ++ ":" ++ toString limitPerMinute

/-- What follows the last colon. -/
theorem eq_of_append_colon {a b d e : List Char} (h : a ++ ':' :: d = b ++ ':' :: e)
    (hd : ':' ∉ d) (he : ':' ∉ e) : d = e := by
  have hlast : ∀ {a d : List Char}, ':' ∉ d →
      (a ++ ':' :: d).reverse.takeWhile (· ≠ ':') = d.reverse := by
    intro a d hd
    rw [List.reverse_append, List.reverse_cons, List.append_assoc,
      List.takeWhile_append_of_pos fun c hc => ?_]
    · simp
    · simpa using fun heq : c = ':' => hd (heq ▸ List.mem_reverse.mp hc)
  have hreverse := @hlast a d hd
  rw [h, hlast he] at hreverse
  exact (List.reverse_inj.mp hreverse).symm

/-- **The key names the limit.** -/
theorem requestRateLimitKey_limit {urlsplit : String → SplitUrl} {url url' : String} {n n' : Nat}
    (h : requestRateLimitKey urlsplit url n = requestRateLimitKey urlsplit url' n') : n = n' := by
  have hdigits : ∀ n : Nat, (toString (n : Int)).toList = Nat.toDigits 10 n := fun n => Nat.toList_repr
  have hcolon : ∀ n : Nat, ':' ∉ Nat.toDigits 10 n := by
    intro n hmem
    exact absurd (Nat.isDigit_of_mem_toDigits (by decide) (by decide) hmem) (by decide)
  have hkey : ∀ (endpoint : String) (n : Nat),
      ("request:" ++ endpoint ++ ":" ++ toString (n : Int)).toList
        = ("request:" ++ endpoint).toList ++ ':' :: Nat.toDigits 10 n := by
    intro endpoint n
    rw [String.toList_append, String.toList_append, hdigits, List.append_assoc]
    rfl
  have hlist := congrArg String.toList h
  unfold requestRateLimitKey at hlist
  simp only [hkey] at hlist
  have hlimit := eq_of_append_colon hlist (hcolon n) (hcolon n')
  rw [← Nat.ofDigitChars_ten_toDigits (n := n), hlimit, Nat.ofDigitChars_ten_toDigits]

/-- The limit of the state number `j`. -/
def Coordination.limitOf (w : Coordination K) (j : Nat) : Option Nat :=
  (w.states.map (·.limit))[j]?

/-- What holds while all keys are those of the request adapter. -/
structure RequestKeys (urlsplit : String → SplitUrl) (w : Coordination K) : Prop where
  shared : ∀ item ∈ w.sharedStates, ∃ url n,
    item.1 = requestRateLimitKey urlsplit url (n : Nat) ∧ w.limitOf item.2 = some n
  limiters : ∀ limiter ∈ w.limiters, w.limitOf limiter.state = some limiter.limit

variable {urlsplit : String → SplitUrl} {w : Coordination K} {s : SlidingWindowState K}

theorem RequestKeys.create (h : RequestKeys urlsplit w) {limit : Nat} {sharedKey : Option String}
    (hkey : ∀ key, sharedKey = some key → ∃ url, key = requestRateLimitKey urlsplit url limit) :
    RequestKeys urlsplit (w.create limit sharedKey) := by
  unfold Coordination.create
  split
  next j hj =>
    obtain ⟨key, hshared, hlookup⟩ := Option.bind_eq_some_iff.mp hj
    refine ⟨h.shared, fun limiter hl => ?_⟩
    rcases List.mem_append.mp hl with hold | hnew
    · exact h.limiters limiter hold
    · -- the key of the state that is found names the limit
      obtain ⟨url, hurl⟩ := hkey key hshared
      obtain ⟨url', n, hurl', hlimit⟩ := h.shared (key, j) (mem_of_lookup hlookup)
      rw [List.mem_singleton.mp hnew, requestRateLimitKey_limit (hurl.symm.trans hurl')]
      exact hlimit
  next =>
    have hold : ∀ (s : SlidingWindowState K) {j n : Nat}, w.limitOf j = some n →
        ((w.states ++ [s]).map (·.limit))[j]? = some n := by
      intro s j n hlimit
      obtain ⟨hlt, -⟩ := List.getElem?_eq_some_iff.mp hlimit
      rw [List.map_append, List.getElem?_append_left hlt]
      exact hlimit
    have hnew : ∀ s : SlidingWindowState K,
        ((w.states ++ [s]).map (·.limit))[w.states.length]? = some s.limit := by
      intro s
      rw [List.getElem?_map, List.getElem?_concat_length]
      rfl
    refine ⟨fun item hitem => ?_, fun limiter hl => ?_⟩
    · rcases List.mem_append.mp hitem with hbefore | hlast
      · obtain ⟨url, n, hurl, hlimit⟩ := h.shared item hbefore
        exact ⟨url, n, hurl, hold _ hlimit⟩
      · obtain ⟨key, hmem, rfl⟩ := List.mem_map.mp hlast
        obtain ⟨url, hurl⟩ := hkey key (Option.mem_toList.mp hmem)
        exact ⟨url, limit, hurl, hnew _⟩
    · rcases List.mem_append.mp hl with hbefore | hlast
      · exact hold _ (h.limiters limiter hbefore)
      · rw [List.mem_singleton.mp hlast]
        exact hnew _

/-- No call changes a limit. -/
theorem RequestKeys.set (h : RequestKeys urlsplit w) {j : Nat} {s' : SlidingWindowState K}
    (hs : w.states[j]? = some s) (hlimit : s'.limit = s.limit) (clock : K) :
    RequestKeys urlsplit { w with clock, states := w.states.set j s' } := by
  have hstates : (w.states.set j s').map (·.limit) = w.states.map (·.limit) := by
    obtain ⟨hlt, hget⟩ := List.getElem?_eq_some_iff.mp hs
    rw [List.map_set, hlimit, ← hget]
    have hlt' : j < (w.states.map (·.limit)).length := by
      rw [List.length_map]
      exact hlt
    have hself : (w.states.map (·.limit)).set j (w.states.map (·.limit))[j] = w.states.map (·.limit) :=
      List.set_getElem_self hlt'
    rwa [List.getElem_map] at hself
  have hof : ∀ k, Coordination.limitOf { w with clock, states := w.states.set j s' } k
      = w.limitOf k := by
    intro k
    show ((w.states.set j s').map (·.limit))[k]? = _
    rw [hstates]
    rfl
  refine ⟨fun item hitem => ?_, fun limiter hl => ?_⟩
  · obtain ⟨url, n, hurl, hn⟩ := h.shared item hitem
    exact ⟨url, n, hurl, (hof item.2).trans hn⟩
  · exact (hof limiter.state).trans (h.limiters limiter hl)

/-- **Limiters under the keys of the request adapter** have the limit of their state. -/
theorem request_limiters_agree [Field K] [LinearOrder K]
    (h : (coordination K).ReachableWhere (fun _ a => ∀ n key, a = .create n (some key) →
      ∃ url, key = requestRateLimitKey urlsplit url n) w)
    {limiter : SlidingWindowRateLimiter} (hl : limiter ∈ w.limiters)
    (hs : w.states[limiter.state]? = some s) : s.limit = limiter.limit := by
  have hkeys : RequestKeys urlsplit w := by
    refine h.invariant (fun w hinit => ?_) fun w a w' hinv hok hstep => ?_
    · obtain ⟨-, hshared, hlimiters⟩ := hinit
      refine ⟨?_, ?_⟩
      · rw [hshared]
        exact fun item hitem => absurd hitem List.not_mem_nil
      · rw [hlimiters]
        exact fun limiter hl => absurd hl List.not_mem_nil
    · rcases step_cases hstep with ⟨n, sharedKey, ha, heq⟩ | ⟨j, s, holder, hs, heq⟩
        | ⟨i, now, j, s, -, hs, -, -, heq⟩
      · rw [heq]
        split
        next hlimit =>
          refine hinv.create fun key hkey => ?_
          rw [Int.toNat_of_nonneg (by omega)]
          exact hok n key (hkey ▸ ha)
        next => exact hinv
      · rw [heq]
        have hlimit : ({ s with holder } : SlidingWindowState K).limit = s.limit := rfl
        exact hinv.set hs hlimit w.clock
      · rw [heq]
        exact hinv.set hs (limit_round s now) now
  have hlimit := hkeys.limiters limiter hl
  unfold Coordination.limitOf at hlimit
  rw [List.getElem?_map, hs] at hlimit
  exact Option.some.inj hlimit

end Cai.Provider
