/-
  Cai.Media.Fencing — reservations, claims and results on one media row.

  The webhook and the finalization worker reserve; any number of media
  workers claim, extract and write a result; leases expire at any time
  and a worker may give up a claim without writing.  A worker handles one
  claim at a time, as the loop of `AudioTranscriptionWorker.process` and
  `ImageExtractionWorker.process` does.

  Main result: `media_results_fenced`.
-/
import Mathlib.Logic.Function.Basic
import Cai.Lib.Transition
import Cai.Lib.History
import Cai.Media.Repository

namespace Cai.Media

open Cai.Lib
open Cai.Cycle (Timestamp)

/-! ## §1. The machine of one row. -/

abbrev WorkerId := Nat

/-- The claim a worker works on: its `updated_at` token, and how many claims of
    the row were granted up to it. -/
structure Held where
  token : Timestamp
  number : Nat
  deriving DecidableEq, Repr

inductive MediaEvent
  /-- A claim was granted to `worker`. -/
  | granted (worker : WorkerId)
  /-- `worker` stored a result for its claim with this number. -/
  | stored (worker : WorkerId) (number : Nat) (status : ContentStatus)
  deriving DecidableEq, Repr

/-- How many claims were granted. -/
def grants : History MediaEvent → Nat
  | [] => 0
  | .granted _ :: log => grants log + 1
  | .stored .. :: log => grants log

/-- The worker of the latest claim. -/
def latestGrant : History MediaEvent → Option WorkerId
  | [] => none
  | .granted w :: _ => some w
  | .stored .. :: log => latestGrant log

structure MediaState where
  row : Option MediaRow
  workers : WorkerId → Option Held
  log : History MediaEvent

inductive MediaAction
  /-- A webhook or the finalization worker reserves the message. -/
  | reserve (now : Timestamp) (conversationId : Option String) (model : String) (marker : Bool)
  /-- An idle worker asks for a claim. -/
  | claim (w : WorkerId) (now : Timestamp) (leaseSeconds : Nat)
  /-- A worker writes the result of its claim. -/
  | finish (w : WorkerId) (now clock : Timestamp) (extraction : Extraction)
  /-- A worker gives up its claim without a write. -/
  | abandon (w : WorkerId)
  deriving DecidableEq, Repr

/-- A claim that finds the row due. -/
def claimRow (owner : WorkerId → String) (s : MediaState) (w : WorkerId) (now : Timestamp)
    (leaseSeconds : Nat) (r : MediaRow) : MediaState :=
  match claimContent now (owner w) leaseSeconds r with
  | none => s
  | some r' =>
      { row := some r'
        workers := Function.update s.workers w (some ⟨r'.updatedAt, grants s.log + 1⟩)
        log := .granted w :: s.log }

/-- The end of `_process_claim`: a write that no longer applies is discarded. -/
def finishRow (owner : WorkerId → String) (emptyError : String) (s : MediaState) (w : WorkerId)
    (h : Held) (now clock : Timestamp) (extraction : Extraction) (r : MediaRow) : MediaState :=
  let idle := Function.update s.workers w none
  match setContentStatus now clock (resultWrite (owner w) h.token emptyError extraction) r with
  | none => { s with workers := idle }
  | some r' =>
      { row := some r', workers := idle, log := .stored w h.number r'.status :: s.log }

/-- One action on the row. -/
def mediaStep (owner : WorkerId → String) (emptyError : String) (s : MediaState) :
    MediaAction → Option MediaState
  | .reserve now conversationId model marker =>
      some { s with row := (reserveContent now conversationId model marker s.row).or s.row }
  | .claim w now leaseSeconds =>
      match s.workers w, s.row with
      | none, some r => some (claimRow owner s w now leaseSeconds r)
      | _, _ => none
  | .finish w now clock extraction =>
      match s.workers w, s.row with
      | some h, some r => some (finishRow owner emptyError s w h now clock extraction r)
      | _, _ => none
  | .abandon w => some { s with workers := Function.update s.workers w none }

/-- No row, no worker busy. -/
def MediaState.empty : MediaState := ⟨none, fun _ => none, []⟩

/-- **The machine of one media row.** -/
def mediaMachine (owner : WorkerId → String) (emptyError : String) :
    Machine MediaState MediaAction where
  init s := s = MediaState.empty
  step := mediaStep owner emptyError

/-! ## §2. What a step does to the row. -/

section Steps

variable {owner : WorkerId → String} {emptyError : String} {s t : MediaState} {a : MediaAction}

/-- **One step of the machine**: nothing happens to the row, or one of the
    statements does. -/
theorem mediaStep_row (h : mediaStep owner emptyError s a = some t) :
    t.row = s.row ∨ ∃ r, t.row = some r ∧ MediaWrite s.row r := by
  cases a with
  | reserve now conversationId model marker =>
      injection h with h
      subst h
      cases hres : reserveContent now conversationId model marker s.row with
      | none => exact .inl rfl
      | some r => exact .inr ⟨r, rfl, .reserve now conversationId model marker hres⟩
  | claim w now leaseSeconds =>
      simp only [mediaStep] at h
      split at h
      next r _ hrow =>
        injection h with h
        subst h
        simp only [claimRow]
        split
        next => exact .inl rfl
        next r' hclaim =>
          refine .inr ⟨r', rfl, ?_⟩
          rw [hrow]
          exact .claim now (owner w) leaseSeconds hclaim
      next => cases h
  | finish w now clock extraction =>
      simp only [mediaStep] at h
      split at h
      next held r _ hrow =>
        injection h with h
        subst h
        simp only [finishRow]
        split
        next => exact .inl rfl
        next r' hset =>
          refine .inr ⟨r', rfl, ?_⟩
          rw [hrow]
          exact .result now clock (owner w) held.token emptyError extraction hset
      next => cases h
  | abandon w =>
      injection h with h
      subst h
      exact .inl rfl

/-- A completed row keeps its status and its text. -/
theorem completed_final (h : (mediaMachine owner emptyError).RunWhere Machine.anyStep s t)
    {r : MediaRow} (hrow : s.row = some r) (hc : r.status = .completed) : t.row = some r := by
  induction h with
  | refl => exact hrow
  | tail _ hlast ih =>
      obtain ⟨a, -, hstep⟩ := hlast
      rcases mediaStep_row hstep with hsame | ⟨r', -, hwrite⟩
      · rw [hsame]
        exact ih
      · rw [ih] at hwrite
        exact absurd hc hwrite.not_completed

end Steps

/-! ## §3. The invariant. -/

/-- A stored result belongs to the latest claim. -/
def storedByLatest : MediaEvent → History MediaEvent → Prop
  | .stored w number _, older => latestGrant older = some w ∧ number = grants older
  | .granted _, _ => True

/-- What holds of a media row in every run. -/
structure MediaInv (owner : WorkerId → String) (s : MediaState) : Prop where
  stored : History.Justified storedByLatest s.log
  attempts : ∀ r, s.row = some r → r.attemptCount = grants s.log
  ungranted : s.row = none → grants s.log = 0
  sound : ∀ r, s.row = some r → r.sound
  /-- The lease of a row names the worker of the latest claim only. -/
  lease : ∀ w h r, s.workers w = some h → s.row = some r → r.leaseOwner = some (owner w) →
    latestGrant s.log = some w ∧ h.number = grants s.log

theorem MediaInv.empty (owner : WorkerId → String) : MediaInv owner MediaState.empty := by
  constructor <;> simp [MediaState.empty, grants, History.justified_nil]

variable {owner : WorkerId → String} {emptyError : String} {s : MediaState}

theorem MediaInv.reserve (h : MediaInv owner s) {now : Timestamp}
    {conversationId : Option String} {model : String} {marker : Bool} {r : MediaRow}
    (hres : reserveContent now conversationId model marker s.row = some r) :
    MediaInv owner { s with row := some r } := by
  obtain ⟨hpending, hold⟩ := reserveContent_spec hres
  refine ⟨h.stored, ?_, ?_, ?_, ?_⟩
  · rintro r' ⟨⟩
    rcases hold with ⟨hnone, hzero, -⟩ | ⟨r₀, hr₀, -, hsame, -⟩
    · rw [hzero, h.ungranted hnone]
    · rw [hsame, h.attempts r₀ hr₀]
  · intro hnone
    cases hnone
  · rintro r' ⟨⟩ hc
    rw [hpending] at hc
    cases hc
  · rintro w held r' hw ⟨⟩ hown
    rcases hold with ⟨-, -, hnone⟩ | ⟨r₀, hr₀, -, -, hsame⟩
    · rw [hnone] at hown
      cases hown
    · rw [hsame] at hown
      exact h.lease w held r₀ hw hr₀ hown

/-- A claim: the new lease owner is no other busy worker's owner, because
    owners are distinct. -/
theorem MediaInv.claimRow (h : MediaInv owner s)
    (hdistinct : ∀ v w, Text.strip (owner v) = Text.strip (owner w) → v = w)
    {w : WorkerId} {now : Timestamp} {leaseSeconds : Nat} {r : MediaRow}
    (hrow : s.row = some r) : MediaInv owner (claimRow owner s w now leaseSeconds r) := by
  simp only [Media.claimRow]
  split
  next => exact h
  next r' hclaim =>
    obtain ⟨-, hprocessing, hcount, hlease, -⟩ := claimContent_spec hclaim
    refine ⟨(History.justified_cons _ _).mpr ⟨trivial, h.stored⟩, ?_, ?_, ?_, ?_⟩
    · rintro r'' ⟨⟩
      rw [hcount, h.attempts r hrow]
      rfl
    · intro hnone
      cases hnone
    · rintro r'' ⟨⟩ hc
      rw [hprocessing] at hc
      cases hc
    · rintro v held r'' hv ⟨⟩ hown
      rw [hlease] at hown
      injection hown with hown
      have hvw : v = w := by
        apply hdistinct
        rw [← hown, Text.strip_strip]
      subst hvw
      simp only [Function.update_self, Option.some.injEq] at hv
      subst hv
      exact ⟨rfl, rfl⟩

/-- A result: it is stored under the lease of the worker, and so for the
    latest claim. -/
theorem MediaInv.finishRow (h : MediaInv owner s) {w : WorkerId} {held : Held}
    {now clock : Timestamp} {extraction : Extraction} {r : MediaRow}
    (hw : s.workers w = some held) (hrow : s.row = some r) :
    MediaInv owner (finishRow owner emptyError s w held now clock extraction r) := by
  have hbusy : ∀ v held', Function.update s.workers w none v = some held' →
      s.workers v = some held' := by
    intro v held' hv
    by_cases hvw : v = w
    · subst hvw
      simp at hv
    · rwa [Function.update_of_ne hvw] at hv
  simp only [Media.finishRow]
  split
  next =>
    exact ⟨h.stored, h.attempts, h.ungranted, h.sound,
      fun v held' r' hv hr' => h.lease v held' r' (hbusy v held' hv) hr'⟩
  next r' hset =>
    obtain ⟨-, -, hown, hcount, hfree, husable⟩ := resultWrite_spec hset
    refine ⟨(History.justified_cons _ _).mpr ⟨h.lease w held r hw hrow hown, h.stored⟩,
      ?_, ?_, ?_, ?_⟩
    · rintro r'' ⟨⟩
      rw [hcount, h.attempts r hrow]
      rfl
    · intro hnone
      cases hnone
    · rintro r'' ⟨⟩
      exact husable
    · rintro v held' r'' hv ⟨⟩ hown'
      rw [hfree] at hown'
      cases hown'

/-- **One step keeps the invariant.** -/
theorem MediaInv.step (h : MediaInv owner s)
    (hdistinct : ∀ v w, Text.strip (owner v) = Text.strip (owner w) → v = w)
    {a : MediaAction} {t : MediaState} (hs : mediaStep owner emptyError s a = some t) :
    MediaInv owner t := by
  cases a with
  | reserve now conversationId model marker =>
      injection hs with hs
      subst hs
      cases hres : reserveContent now conversationId model marker s.row with
      | none => exact h
      | some r => exact h.reserve hres
  | claim w now leaseSeconds =>
      simp only [mediaStep] at hs
      split at hs
      next r _ hrow =>
        injection hs with hs
        subst hs
        exact h.claimRow hdistinct hrow
      next => cases hs
  | finish w now clock extraction =>
      simp only [mediaStep] at hs
      split at hs
      next held r hw hrow =>
        injection hs with hs
        subst hs
        exact h.finishRow hw hrow
      next => cases hs
  | abandon w =>
      injection hs with hs
      subst hs
      refine ⟨h.stored, h.attempts, h.ungranted, h.sound, ?_⟩
      intro v held r hv
      by_cases hvw : v = w
      · subst hvw
        simp at hv
      · simp only [Function.update_of_ne hvw] at hv
        exact h.lease v held r hv

/-! ## §4. The guarantee. -/

/-- What is known of a media row in a reachable state. -/
structure MediaFenced (owner : WorkerId → String) (emptyError : String) (s : MediaState) :
    Prop where
  /-- A result is stored by the worker of the most recent claim, for that claim. -/
  stored_by_latest : ∀ newer older w number status,
    s.log = newer ++ .stored w number status :: older →
    latestGrant older = some w ∧ number = grants older
  /-- `completed` is final, with its text, and the text is not blank. -/
  completed : ∀ r, s.row = some r → r.status = .completed →
    (∃ text, r.text = some text ∧ Text.isBlank text = false)
    ∧ ∀ t, (mediaMachine owner emptyError).RunWhere Machine.anyStep s t →
        ∃ r', t.row = some r' ∧ r'.status = .completed ∧ r'.text = r.text
  /-- `attempt_count` counts the claims ever granted. -/
  attempts : ∀ r, s.row = some r → r.attemptCount = grants s.log

/-- **Media results are fenced and final**, for workers with distinct owners,
    in any interleaving of reservations, claims, take-overs and results. -/
theorem media_results_fenced
    (hdistinct : ∀ v w, Text.strip (owner v) = Text.strip (owner w) → v = w)
    (hreach : (mediaMachine owner emptyError).Reachable s) : MediaFenced owner emptyError s := by
  have hinv : MediaInv owner s := by
    refine Machine.ReachableWhere.invariant hreach ?_ ?_
    · rintro s rfl
      exact MediaInv.empty owner
    · intro s a t hs _ hstep
      exact hs.step hdistinct hstep
  refine ⟨fun newer older w number status hlog => hinv.stored newer older _ hlog, ?_, hinv.attempts⟩
  intro r hrow hc
  obtain ⟨-, text, htext, hstrip, hne⟩ := hinv.sound r hrow hc
  refine ⟨⟨text, htext, ?_⟩, ?_⟩
  · rw [Text.isBlank_eq_false_iff, hstrip]
    exact hne
  · intro t hrun
    exact ⟨r, completed_final hrun hrow hc, hc, rfl⟩

/-- Workers named `w`, `w+`, `w++`, and so on. -/
def plusOwners (w : WorkerId) : String := String.ofList ('w' :: List.replicate w '+')

theorem plusOwners_distinct (v w : WorkerId)
    (h : Text.strip (plusOwners v) = Text.strip (plusOwners w)) : v = w := by
  have hspace : ∀ n : Nat, ∀ c ∈ 'w' :: List.replicate n '+', Text.isSpace c = false := by
    intro n c hc
    rcases List.mem_cons.mp hc with rfl | hc
    · decide
    · rw [List.eq_of_mem_replicate hc]
      decide
  unfold plusOwners at h
  rw [Text.strip_ofList (hspace v), Text.strip_ofList (hspace w)] at h
  have hlen := congrArg List.length (String.ofList_injective h)
  simpa using hlen

/-- Worker 0 loses its lease to worker 1, which completes the row; the late
    result of worker 0 is discarded. -/
def takenOverRun : List MediaAction :=
  [.reserve 0 none "whisper" false, .claim 0 0 60, .claim 1 60000000 60,
   .finish 1 70000000 70000000 (.text " bom dia "),
   .finish 0 80000000 80000000 (.transient "transient_audio_failure:timeout" 90000000)]

theorem media_results_fenced_taken_over :
    ∃ s, (mediaMachine plusOwners audioEmptyError).exec MediaState.empty takenOverRun = some s
      ∧ s.log = [.stored 1 2 .completed, .granted 1, .granted 0]
      ∧ MediaFenced plusOwners audioEmptyError s := by
  have hlog : ((mediaMachine plusOwners audioEmptyError).exec MediaState.empty takenOverRun).map
      (·.log) = some [.stored 1 2 .completed, .granted 1, .granted 0] := by
    decide +kernel
  simp only [Option.map_eq_some_iff] at hlog
  obtain ⟨s, hs, hlog⟩ := hlog
  exact ⟨s, hs, hlog, media_results_fenced plusOwners_distinct (Machine.reachable_of_exec rfl hs)⟩

end Cai.Media
