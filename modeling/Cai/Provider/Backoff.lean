/-
  Cai.Provider.Backoff — the delay before a retry.

  `retry_delay` of `src/core/provider_retry.py`, and the media row that it
  is called for (`_process_claim` of the media workers).  A factor that is
  an integer becomes a float first, which fails from 2^1024 on; the power
  is made before the cap is applied.

  Delays are exact: elements of an ordered semiring (with a greatest
  element, where a provider may ask for an infinite delay).

  Main results:
    * `retryDelay_returns_iff` — the attempts for which there is a delay.
    * `outage_reaches` — transient failures alone lead to any of them.
    * `outage_fails` — attempt 1025 of a row has no delay.
-/
import Mathlib.Algebra.Order.Ring.Rat
import Mathlib.Tactic.NormNum
import Cai.Lib.Fallible
import Cai.Lib.Json
import Cai.Lib.Transition
import Cai.Media.Repository

namespace Cai.Provider

open Cai.Lib
open Cai.Cycle (Timestamp)
open Cai.Media

variable {K : Type} [Semiring K]

/-! ## §1. The delay. -/

/-- The settings of a worker, in seconds. -/
structure RetrySettings (K : Type) [Semiring K] [LinearOrder K] where
  baseSeconds : K
  maxDelaySeconds : K
  providerMarginSeconds : K
  base_pos : 0 < baseSeconds
  max_pos : 0 < maxDelaySeconds
  margin_pos : 0 < providerMarginSeconds

/-- Half a step above the greatest float. -/
def floatLimit : Nat := 2 ^ 1024 - 2 ^ 970

/-- An integer as a float; a power of two is not rounded. -/
def floatOfInt (K : Type) [Semiring K] (n : Nat) : Except Raised K :=
  if n < floatLimit then .ok (n : K) else .error .overflowError

/-- The powers of two that are floats. -/
theorem pow_lt_floatLimit_iff {k : Nat} : 2 ^ k < floatLimit ↔ k < 1024 := by
  have hmono : ∀ {a b : Nat}, a ≤ b → 2 ^ a ≤ 2 ^ b := fun h => Nat.pow_le_pow_right Nat.two_pos h
  constructor
  · intro h
    by_contra hge
    have hle := hmono (Nat.le_of_not_lt hge)
    have hlimit : floatLimit ≤ 2 ^ 1024 := by decide +kernel
    exact absurd (Nat.lt_of_lt_of_le h (hlimit.trans hle)) (Nat.lt_irrefl _)
  · intro h
    have hle := hmono (Nat.le_of_lt_succ h)
    have hlt : 2 ^ 1023 < floatLimit := by decide +kernel
    exact Nat.lt_of_le_of_lt hle hlt

theorem floatOfInt_pow {k : Nat} (h : k < 1024) : floatOfInt K (2 ^ k) = .ok ((2 : K) ^ k) := by
  unfold floatOfInt
  rw [if_pos (pow_lt_floatLimit_iff.mpr h), Nat.cast_pow, Nat.cast_ofNat]

theorem floatOfInt_pow_raises {k : Nat} (h : 1024 ≤ k) :
    floatOfInt K (2 ^ k) = .error .overflowError := by
  unfold floatOfInt
  rw [if_neg fun hlt => absurd (pow_lt_floatLimit_iff.mp hlt) (Nat.not_lt.mpr h)]

variable [LinearOrder K]

/-- `retry_delay` -/
def retryDelay (settings : RetrySettings K) (attempt : Nat) (providerDelaySeconds : Option K) :
    Except Raised K := do
  let exponent := attempt - 1
  let power ← floatOfInt K (2 ^ exponent)
  let localDelay := min (settings.baseSeconds * power) settings.maxDelaySeconds
  match providerDelaySeconds with
  | none => return localDelay
  | some providerDelay => return max localDelay (providerDelay + settings.providerMarginSeconds)

variable {settings : RetrySettings K} {attempt : Nat} {providerDelay : Option K} {delay : K}

/-- The delay up to attempt 1024. -/
theorem retryDelay_of_le (h : attempt ≤ 1024) :
    retryDelay settings attempt providerDelay
      = .ok (match providerDelay with
        | none => min (settings.baseSeconds * 2 ^ (attempt - 1)) settings.maxDelaySeconds
        | some providerDelay =>
            max (min (settings.baseSeconds * 2 ^ (attempt - 1)) settings.maxDelaySeconds)
              (providerDelay + settings.providerMarginSeconds)) := by
  unfold retryDelay
  dsimp only
  rw [floatOfInt_pow (by omega)]
  cases providerDelay with
  | none => rfl
  | some providerDelay => rfl

/-- From attempt 1025 on, there is none. -/
theorem retryDelay_raises (h : 1024 < attempt) :
    retryDelay settings attempt providerDelay = .error .overflowError := by
  unfold retryDelay
  dsimp only
  rw [floatOfInt_pow_raises (by omega)]
  rfl

section

variable [IsOrderedRing K]

theorem localDelay_mono {earlier : Nat} (h : earlier ≤ attempt) :
    min (settings.baseSeconds * 2 ^ (earlier - 1)) settings.maxDelaySeconds
      ≤ min (settings.baseSeconds * 2 ^ (attempt - 1)) settings.maxDelaySeconds := by
  have hpow : (2 : K) ^ (earlier - 1) ≤ 2 ^ (attempt - 1) :=
    pow_le_pow_right₀ one_le_two (by omega)
  exact min_le_min_right _ (mul_le_mul_of_nonneg_left hpow settings.base_pos.le)

/-- What is asked of a delay. -/
structure IsBackoff (settings : RetrySettings K) (attempt : Nat) (providerDelay : Option K)
    (delay : K) : Prop where
  /-- Without a delay of the provider: exponential, with a cap. -/
  exponential : providerDelay = none →
    delay = min (settings.baseSeconds * 2 ^ (attempt - 1)) settings.maxDelaySeconds
  le_max : providerDelay = none → delay ≤ settings.maxDelaySeconds
  /-- An earlier attempt does not wait longer. -/
  monotone : providerDelay = none → ∀ earlier ≤ attempt, ∀ delay',
    retryDelay settings earlier none = .ok delay' → delay' ≤ delay
  provider : ∀ p, providerDelay = some p → p + settings.providerMarginSeconds ≤ delay

/-- **The attempts for which there is a delay** are those up to 1024. -/
theorem retryDelay_returns_iff (settings : RetrySettings K) (attempt : Nat)
    (providerDelay : Option K) :
    (∃ delay, retryDelay settings attempt providerDelay = .ok delay
        ∧ IsBackoff settings attempt providerDelay delay)
      ↔ attempt ≤ 1024 := by
  constructor
  · intro ⟨delay, hdelay, _⟩
    by_contra hgt
    rw [retryDelay_raises (Nat.lt_of_not_le hgt)] at hdelay
    cases hdelay
  · intro h
    refine ⟨_, retryDelay_of_le h, ?_⟩
    cases providerDelay with
    | none =>
        refine ⟨fun _ => rfl, fun _ => min_le_right _ _, fun _ earlier hle delay' hdelay' => ?_,
          fun p hp => ?_⟩
        · rw [retryDelay_of_le (hle.trans h)] at hdelay'
          rw [← Except.ok.inj hdelay']
          exact localDelay_mono hle
        · cases hp
    | some p =>
        refine ⟨fun hnone => ?_, fun hnone => ?_, fun hnone => ?_, fun p' hp' => ?_⟩
        · cases hnone
        · cases hnone
        · cases hnone
        · rw [← Option.some.inj hp']
          exact le_max_right _ _

end

/-- The default settings of the audio worker. -/
def defaultSettings : RetrySettings ℚ where
  baseSeconds := 2
  maxDelaySeconds := 900
  providerMarginSeconds := 1
  base_pos := by norm_num
  max_pos := by norm_num
  margin_pos := by norm_num

theorem third_attempt_returns :
    ∃ delay, retryDelay defaultSettings 3 none = .ok delay
      ∧ IsBackoff defaultSettings 3 none delay :=
  (retryDelay_returns_iff defaultSettings 3 none).mpr (by decide)

/-! ## §2. A row in an outage. -/

/-- What happens to a media row while its provider is down. -/
inductive RetryAction (K : Type)
  | claim (now : Timestamp) (owner : String) (leaseSeconds : Nat)
  /-- The claim that holds the row meets a transient failure. -/
  | transient (now : Timestamp) (error : String) (providerDelaySeconds : Option K)

/-- `_claim_content_sync`, and the transient branch of `_process_claim`; `micros` is
    `timedelta(seconds=…)`.  An exception of `_retry_delay` leaves the row as it is. -/
def retryStep (settings : RetrySettings K) (micros : K → Timestamp) (r : MediaRow) :
    RetryAction K → Option MediaRow
  | .claim now owner leaseSeconds => claimContent now owner leaseSeconds r
  | .transient now error providerDelaySeconds =>
      r.leaseOwner.bind fun owner =>
        match retryDelay settings r.attemptCount providerDelaySeconds with
        | .ok delay =>
            setContentStatus now now
              (resultWrite owner r.updatedAt audioEmptyError (.transient error (now + micros delay))) r
        | .error _ => some r

/-- A row, from its reservation. -/
def mediaRetries (settings : RetrySettings K) (micros : K → Timestamp) :
    Machine MediaRow (RetryAction K) where
  init r := ∃ now conversationId model marker,
    reserveContent now conversationId model marker none = some r
  step := retryStep settings micros

variable {micros : K → Timestamp} {r r' : MediaRow}

/-- A row that waits is claimed when it is due. -/
theorem claim_pending (hpending : r.status = .pending) (owner : String) (leaseSeconds : Nat) :
    ∃ now r', claimContent now owner leaseSeconds r = some r' := by
  have hdue : r.due (r.nextAttemptAt.getD 0) = true := by
    unfold MediaRow.due
    rw [hpending]
    cases r.nextAttemptAt with
    | none => rfl
    | some due => simp
  exact ⟨r.nextAttemptAt.getD 0, _, if_pos hdue⟩

/-- A claimed row waits again after a transient failure, when there is a delay. -/
theorem transient_waits (hprocessing : r.status = .processing) {owner : String}
    (howner : r.leaseOwner = some owner)
    (hdelay : retryDelay settings r.attemptCount providerDelay = .ok delay) (now : Timestamp)
    (error : String) :
    ∃ r', retryStep settings micros r (.transient now error providerDelay) = some r'
      ∧ r'.status = .pending ∧ r'.attemptCount = r.attemptCount := by
  have happlies : (resultWrite owner r.updatedAt audioEmptyError
      (.transient error (now + micros delay))).applies r = true := by
    simp [resultWrite, ContentWrite.applies, ContentStatus.predecessors, hprocessing, howner]
  have hstep : retryStep settings micros r (.transient now error providerDelay)
      = setContentStatus now now (resultWrite owner r.updatedAt audioEmptyError
        (.transient error (now + micros delay))) r := by
    unfold retryStep
    dsimp only
    rw [howner, Option.bind_some, hdelay]
  rw [hstep]
  exact ⟨_, if_pos happlies, rfl, Nat.add_zero _⟩

/-- **Transient failures alone** lead to every attempt that has a delay. -/
theorem outage_reaches {n : Nat} (h : n ≤ 1024) :
    ∃ r, (mediaRetries settings micros).Reachable r ∧ r.status = .pending ∧ r.attemptCount = n := by
  induction n with
  | zero => exact ⟨_, .init ⟨0, none, "whisper", false, rfl⟩, rfl, rfl⟩
  | succ n ih =>
      obtain ⟨r, hr, hpending, hcount⟩ := ih (by omega)
      obtain ⟨now, claimed, hclaim⟩ := claim_pending hpending "worker" 60
      obtain ⟨-, hprocessing, hcount', howner, -⟩ := claimContent_spec hclaim
      rw [hcount] at hcount'
      -- the claim is attempt `n + 1`, which has a delay
      have hdelay : retryDelay settings claimed.attemptCount none = .ok _ :=
        retryDelay_of_le (hcount' ▸ h)
      obtain ⟨waiting, hwait, hstatus, hkept⟩ : ∃ waiting,
          retryStep settings micros claimed (.transient now "timeout" none) = some waiting
            ∧ waiting.status = .pending ∧ waiting.attemptCount = claimed.attemptCount :=
        transient_waits hprocessing howner hdelay now "timeout"
      have hclaimed : (mediaRetries settings micros).Reachable claimed :=
        hr.step (a := .claim now "worker" 60) trivial hclaim
      exact ⟨waiting, hclaimed.step (a := .transient now "timeout" none) trivial hwait, hstatus, hkept.trans hcount'⟩

/-- **Attempt 1025 of a row** has no delay, whatever the settings. -/
theorem outage_fails (settings : RetrySettings K) (micros : K → Timestamp) :
    ∃ r, (mediaRetries settings micros).Reachable r ∧ r.status = .processing
      ∧ r.attemptCount = 1025
      ∧ ∀ providerDelay, retryDelay settings r.attemptCount providerDelay = .error .overflowError := by
  obtain ⟨r, hr, hpending, hcount⟩ : ∃ r, (mediaRetries settings micros).Reachable r
      ∧ r.status = .pending ∧ r.attemptCount = 1024 := outage_reaches (Nat.le_refl _)
  obtain ⟨now, claimed, hclaim⟩ := claim_pending hpending "worker" 60
  obtain ⟨-, hprocessing, hcount', -, -⟩ := claimContent_spec hclaim
  rw [hcount] at hcount'
  refine ⟨claimed, hr.step (a := .claim now "worker" 60) trivial hclaim, hprocessing, hcount',
    fun providerDelay => retryDelay_raises ?_⟩
  rw [hcount']
  exact Nat.lt_succ_self _

theorem backoff_fails :
    ¬∀ r, (mediaRetries defaultSettings fun seconds => (seconds * 1000000).floor).Reachable r →
      1 ≤ r.attemptCount → ∀ providerDelay,
        ∃ delay, retryDelay defaultSettings r.attemptCount providerDelay = .ok delay := by
  intro h
  obtain ⟨r, hr, -, hcount, hraises⟩ :=
    outage_fails defaultSettings fun seconds => (seconds * 1000000).floor
  obtain ⟨delay, hdelay⟩ := h r hr (by rw [hcount]; decide) none
  rw [hraises none] at hdelay
  cases hdelay

end Cai.Provider
