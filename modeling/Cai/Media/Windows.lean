/-
  Cai.Media.Windows — the windows of the media workers.

  A transient failure of an attempt asks for a delay (`retry_delay`); the
  worker of the attempt does not poll until it is over, whatever other
  failures come in between.

  Main result: `polls_after_windows`.
-/
import Cai.Media.Fleet

namespace Cai.Media

open Cai.Lib
open Cai.Cycle (Timestamp)
open Cai.Provider

variable {settings : FleetSettings} {collation : LinearOrder String} {s t : FleetState}
  {w : WorkerId} {messageId : String} {claim : Claim} {now clock : Timestamp}

/-! ## §1. The windows of a worker. -/

/-- A window lasts for the delay of its failure, and a poll of its worker comes
    after it. -/
def pollsLate (settings : FleetSettings) : FleetEvent → History FleetEvent → Prop
  | .granted w _ (some polledAt), older =>
      ∀ failedAt attempt asked until_, .window w failedAt attempt asked until_ ∈ older →
        until_ ≤ polledAt
  | .window _ failedAt attempt asked until_, _ =>
      ∃ delay, retryDelay settings.retry attempt asked = .ok delay
        ∧ until_ = failedAt + microseconds delay
  | _, _ => True

structure WindowInv (settings : FleetSettings) (s : FleetState) : Prop where
  /-- A worker waits for the latest end of its windows. -/
  windows : ∀ w failedAt attempt asked until_,
    .window w failedAt attempt asked until_ ∈ s.log → until_ ≤ (s.workers w).rateLimitedUntil
  polls : History.Justified (pollsLate settings) s.log

theorem WindowInv.empty (settings : FleetSettings) : WindowInv settings FleetState.empty := by
  constructor
  · intro w failedAt attempt asked until_ hmem
    cases hmem
  · exact History.justified_nil

/-- The window of a worker, when only its claim changes. -/
theorem rateLimitedUntil_update (v : WorkerId) (claim : Option Claim) :
    (Function.update s.workers w { s.workers w with claim := claim } v).rateLimitedUntil
      = (s.workers v).rateLimitedUntil := by
  by_cases hv : v = w
  · subst hv
    rw [Function.update_self]
  · rw [Function.update_of_ne hv]

theorem WindowInv.release (h : WindowInv settings s) (w : WorkerId) :
    WindowInv settings (s.release w) := by
  constructor
  · intro v failedAt attempt asked until_ hmem
    show until_ ≤ (Function.update s.workers w _ v).rateLimitedUntil
    rw [rateLimitedUntil_update]
    exact h.windows v failedAt attempt asked until_ hmem
  · exact h.polls

theorem WindowInv.openWindow (h : WindowInv settings s) {attempt : Nat} {asked : Option ℚ}
    {delay : ℚ} (hdelay : retryDelay settings.retry attempt asked = .ok delay)
    (w : WorkerId) (failedAt : Timestamp) :
    WindowInv settings (s.openWindow w failedAt attempt asked (failedAt + microseconds delay)) := by
  constructor
  · intro v failedAt' attempt' asked' until_ hmem
    show until_ ≤ (Function.update s.workers w _ v).rateLimitedUntil
    rcases List.mem_cons.mp hmem with hnew | hold
    · injection hnew with hv _ _ _ huntil
      subst hv huntil
      rw [Function.update_self]
      exact le_max_right _ _
    · have hle := h.windows v failedAt' attempt' asked' until_ hold
      by_cases hv : v = w
      · subst hv
        rw [Function.update_self]
        exact hle.trans (le_max_left _ _)
      · rw [Function.update_of_ne hv]
        exact hle
  · exact (History.justified_cons _ _).mpr ⟨⟨delay, hdelay, rfl⟩, h.polls⟩

theorem WindowInv.store (h : WindowInv settings s) (w : WorkerId) (claim : Claim)
    (now clock : Timestamp) (extraction : Extraction) :
    WindowInv settings (store settings s w claim now clock extraction) := by
  unfold Media.store
  dsimp only
  split
  next => exact h.release w
  next r _ =>
    have hrelease := h.release w
    constructor
    · intro v failedAt attempt asked until_ hmem
      rcases List.mem_cons.mp hmem with hnew | hold
      · cases hnew
      · exact hrelease.windows v failedAt attempt asked until_ hold
    · exact (History.justified_cons _ _).mpr ⟨trivial, h.polls⟩

/-! ## §2. What a step does to them. -/

/-- Both workers open the window of the delay, if any. -/
theorem schedule_window {kind : ContentKind} {delay : ℚ} {until_ : Timestamp}
    (h : (kind.schedule clock delay).window = some until_) :
    until_ = clock + microseconds delay := by
  cases kind with
  | audio =>
      simp only [ContentKind.schedule, Option.ite_none_right_eq_some, Option.some.injEq] at h
      exact h.2.symm
  | image => exact (Option.some.inj h).symm

theorem WindowInv.putOff (h : WindowInv settings s) (w : WorkerId) (claim : Claim)
    (now clock : Timestamp) (error : String) {asked : Option ℚ} {delay : ℚ}
    (hdelay : retryDelay settings.retry claim.attempt asked = .ok delay) :
    WindowInv settings (putOff settings s w claim now clock error asked delay) := by
  have hopened : ∀ window : Option Timestamp, window = (settings.kind.schedule clock delay).window →
      WindowInv settings (window.elim s (s.openWindow w clock claim.attempt asked)) := by
    intro window hwindow
    cases window with
    | none => exact h
    | some until_ =>
        rw [schedule_window hwindow.symm]
        exact h.openWindow hdelay w clock
  unfold Media.putOff
  dsimp only
  split
  next => exact (hopened _ rfl).release w
  next => exact (hopened _ rfl).store w claim now clock _

theorem WindowInv.retryLater (h : WindowInv settings s) (w : WorkerId) (claim : Claim)
    (now clock : Timestamp) (error : String) (asked : Option ℚ) :
    WindowInv settings (retryLater settings s w claim now clock error asked) := by
  unfold Media.retryLater
  split
  next => exact h.release w
  next delay hdelay => exact h.putOff w claim now clock error hdelay

theorem WindowInv.processClaim (h : WindowInv settings s) (w : WorkerId) (claim : Claim)
    (now clock : Timestamp) (outcome : Outcome) :
    WindowInv settings (processClaim settings s w claim now clock outcome) := by
  cases outcome with
  | text value => exact h.store w claim now clock _
  | permanent error => exact h.store w claim now clock _
  | transient error asked =>
      rw [Media.processClaim]
      exact h.retryLater w claim now clock error asked

/-- A claim, whose poll came after the windows of its worker. -/
theorem WindowInv.claimFor (h : WindowInv settings s) {w : WorkerId} {polledAt : Option Timestamp}
    (hpolled : ∀ at_, polledAt = some at_ → (s.workers w).rateLimitedUntil ≤ at_)
    (collation : LinearOrder String) (now : Timestamp) (locked : List String) (only : Option String) :
    WindowInv settings (claimFor settings collation s w now locked only polledAt) := by
  unfold Media.claimFor
  split
  next => exact h
  next => exact h
  next table claimed _ =>
    constructor
    · intro v failedAt attempt asked until_ hmem
      show until_ ≤ (Function.update s.workers w _ v).rateLimitedUntil
      rw [rateLimitedUntil_update]
      rcases List.mem_cons.mp hmem with hnew | hold
      · cases hnew
      · exact h.windows v failedAt attempt asked until_ hold
    · refine (History.justified_cons _ _).mpr ⟨?_, h.polls⟩
      cases polledAt with
      | none => trivial
      | some at_ =>
          intro failedAt attempt asked until_ hmem
          exact (h.windows w failedAt attempt asked until_ hmem).trans (hpolled at_ rfl)

theorem WindowInv.step {a : FleetAction} (h : WindowInv settings s)
    (hs : fleetStep settings collation s a = some t) : WindowInv settings t := by
  cases a with
  | reserve messageId now conversationId model marker =>
      injection hs with hs
      subst hs
      exact ⟨h.windows, h.polls⟩
  | poll w clock now locked =>
      simp only [fleetStep] at hs
      split at hs
      next => cases hs
      next =>
        split at hs
        next =>
          injection hs with hs
          exact hs ▸ h
        next hopen =>
          injection hs with hs
          subst hs
          apply h.claimFor
          intro at_ hat
          injection hat with hat
          rw [← hat]
          exact not_lt.mp hopen
  | job w messageId now locked =>
      simp only [fleetStep] at hs
      split at hs
      next => cases hs
      next =>
        split at hs
        next =>
          injection hs with hs
          exact hs ▸ h
        next =>
          injection hs with hs
          subst hs
          apply h.claimFor
          intro at_ hat
          cases hat
  | finish w now clock outcome =>
      obtain ⟨claim, -, rfl⟩ := Option.map_eq_some_iff.mp hs
      exact h.processClaim w claim now clock outcome
  | abandon w =>
      injection hs with hs
      subst hs
      exact h.release w

/-- **No poll inside a window**: after a failure that opened a window, its
    worker polls no row before the delay of the failure is over. -/
theorem polls_after_windows (h : (fleetMachine settings collation).Reachable s)
    {newer older : History FleetEvent} {polledAt failedAt until_ : Timestamp} {attempt : Nat}
    {asked : Option ℚ} (hlog : s.log = newer ++ .granted w messageId (some polledAt) :: older)
    (hwindow : .window w failedAt attempt asked until_ ∈ older) :
    ∃ delay, retryDelay settings.retry attempt asked = .ok delay
      ∧ failedAt + microseconds delay ≤ polledAt := by
  have hinv : WindowInv settings s :=
    Machine.ReachableWhere.invariant h (by rintro s rfl; exact WindowInv.empty settings)
      (fun s a t hs _ hstep => hs.step hstep)
  have hle := hinv.polls newer older _ hlog failedAt attempt asked until_ hwindow
  obtain ⟨before, after, rfl⟩ := List.append_of_mem hwindow
  obtain ⟨delay, hdelay, rfl⟩ :=
    hinv.polls (newer ++ .granted w messageId (some polledAt) :: before) after _
      (by rw [hlog, List.append_assoc]; rfl)
  exact ⟨delay, hdelay, hle⟩

/-- Worker 0 failed at 2 and polls again at 30000002, half a minute later. -/
theorem polls_after_windows_rate_limited :
    ∃ s, (fleetMachine audioFleet codePoints).exec FleetState.empty rateLimitedRun = some s
      ∧ ∃ delay, retryDelay audioFleet.retry 1 (some 5) = .ok delay
        ∧ 2 + microseconds delay ≤ 30000002 := by
  obtain ⟨s, hs, hlog⟩ := Option.map_eq_some_iff.mp rateLimitedRun_log
  have hwindow : .window 0 2 1 (some 5) 30000002 ∈ rateLimitedLog.tail := by simp [rateLimitedLog]
  have hpolled : s.log = [] ++ .granted 0 "audio-1" (some 30000002) :: rateLimitedLog.tail := hlog
  exact ⟨s, hs, polls_after_windows (Machine.reachable_of_exec rfl hs) hpolled hwindow⟩

end Cai.Media
