/-
  Cai.Request.Protocol — what the Request operation is for.

  The abstract protocol behind the row: calls claim the operation, commit
  a post-start mark, post, and finish.  A row is reduced to the five facts
  the argument needs (`RowView`) and a call to the part it plays (`Role`).
  `Move` says once what a step of the implementation can do; every
  invariant below is read off from it.

  `strict` adds the two run conditions under which posting is safe: live
  calls have distinct owners, and a call posts only while its own
  post-start mark has not been released by hand.
-/
import Mathlib.Logic.Function.Basic
import Cai.Request.Orchestration

namespace Cai.Request.Protocol

open Cai.Lib

/-! ## §1. Questions about the history. -/

/-- A claim: its owner, and how many claims were granted before it, itself
    included. -/
structure Claim where
  owner : String
  number : Nat
  deriving DecidableEq, Repr

/-- How many claims were granted. -/
def claimCount : History Event → Nat
  | [] => 0
  | .claimed .. :: log => claimCount log + 1
  | _ :: log => claimCount log

/-- How many post-start marks were committed. -/
def markCount : History Event → Nat
  | [] => 0
  | .marked .. :: log => markCount log + 1
  | _ :: log => markCount log

/-- The claim of the latest post-start mark, while neither a finish of that
    claim nor a manual reconciliation was committed after the mark. -/
def openMark : History Event → Option Claim
  | [] => none
  | .marked _ owner :: log => some ⟨owner, claimCount log⟩
  | .finished _ owner _ :: log =>
      if openMark log = some ⟨owner, claimCount log⟩ then none else openMark log
  | .recorded :: _ | .released :: _ => none
  | .claimed .. :: log | .posted .. :: log => openMark log

/-- The call that was granted the latest claim. -/
def claimant : History Event → Option CallerId
  | [] => none
  | .claimed c _ :: _ => some c
  | _ :: log => claimant log

/-- A post-start mark was committed under the latest claim. -/
def claimMarked : History Event → Bool
  | [] => false
  | .claimed .. :: _ => false
  | .marked .. :: _ => true
  | _ :: log => claimMarked log

/-- A `release_retry` row was committed after the latest mark of `c`. -/
def releasedSinceMark (c : CallerId) : History Event → Bool
  | [] => false
  | .marked d _ :: log => if d = c then false else releasedSinceMark c log
  | .released :: _ => true
  | _ :: log => releasedSinceMark c log

/-- A POST after which another one needs a licence. -/
def unsafePost : Event → Bool
  | .posted _ result => !result.safe
  | _ => false

/-- A POST. -/
def isPost : Event → Bool
  | .posted .. => true
  | _ => false

/-- A manual release. -/
def isRelease : Event → Bool
  | .released => true
  | _ => false

/-- Some unsafe POST has not been followed by a release. -/
def exposed (log : History Event) : Bool := History.uncut unsafePost isRelease log

@[simp] theorem exposed_nil : exposed [] = false := rfl
@[simp] theorem exposed_claimed (c o log) : exposed (.claimed c o :: log) = exposed log := rfl
@[simp] theorem exposed_marked (c o log) : exposed (.marked c o :: log) = exposed log := rfl
@[simp] theorem exposed_finished (c o st log) :
    exposed (.finished c o st :: log) = exposed log := rfl
@[simp] theorem exposed_recorded (log) : exposed (.recorded :: log) = exposed log := rfl
@[simp] theorem exposed_released (log) : exposed (.released :: log) = false := rfl
@[simp] theorem exposed_posted (c r log) :
    exposed (.posted c r :: log) = (!r.safe || exposed log) := rfl

/-! ## §2. The protocol. -/

/-- The facts about an operation row that the protocol depends on. -/
structure RowView where
  state : OperationState
  owner : Option String
  started : Bool
  sol : Option String
  attempts : Nat
  deriving DecidableEq, Repr

/-- The part a live call plays. -/
inductive Role
  /-- Nothing in hand. -/
  | idle
  /-- Was granted a claim and has not marked it. -/
  | claimed
  /-- Has marked and may post. -/
  | posting
  /-- Has marked, and is about to finish with this state. -/
  | finishing (state : OperationState)
  deriving DecidableEq, Repr

structure Call where
  owner : String
  role : Role
  deriving DecidableEq, Repr

/-- The protocol's view of the shared state. -/
structure Config where
  row : Option RowView
  calls : CallerId → Option Call
  log : History Event

/-- Replace one call. -/
def Config.setCall (s : Config) (c : CallerId) (call : Option Call) : Config :=
  { s with calls := Function.update s.calls c call }

/-- The states a finish may commit. -/
def finals : List OperationState :=
  [.completed, .definitiveFailure, .retryableFailure, .reconciliationRequired]

/-- **What one step of the implementation can do.** -/
inductive Move (strict : Prop) (s : Config) : Config → Prop
  | enter (c : CallerId) (owner : String) (hfresh : s.calls c = none)
      (hdistinct : strict → ∀ d call, s.calls d = some call → call.owner ≠ owner) :
      Move strict s (s.setCall c (some ⟨owner, .idle⟩))
  | leave (c : CallerId) : Move strict s (s.setCall c none)
  | rest (c : CallerId) (call : Call) (hcall : s.calls c = some call) :
      Move strict s (s.setCall c (some ⟨call.owner, .idle⟩))
  | insert (r : RowView) (hrow : s.row = none)
      (hstate : r.state = .notStarted ∨ r.state = .definitiveFailure)
      (hsol : r.sol = none) (hattempts : r.attempts = 0) :
      Move strict s { s with row := some r }
  | lease (r : RowView) (owner : Option String) (hrow : s.row = some r)
      (hstate : r.state = .definitiveFailure) :
      Move strict s { s with row := some { r with owner } }
  | reopen (r : RowView) (hrow : s.row = some r) (hstate : r.state = .definitiveFailure)
      (hunsent : r.started = false) :
      Move strict s { s with row := some { r with state := .notStarted } }
  | claim (c : CallerId) (owner : String) (r : RowView)
      (hcall : s.calls c = some ⟨owner, .idle⟩) (hrow : s.row = some r)
      (hstate : r.state = .notStarted ∨ r.state = .retryableFailure
        ∨ (r.state = .attempting ∧ r.started = false)) :
      Move strict s
        { row := some { r with state := .attempting, owner := some owner }
          calls := Function.update s.calls c (some ⟨owner, .claimed⟩)
          log := .claimed c owner :: s.log }
  | fence (r : RowView) (hrow : s.row = some r) (hstate : r.state = .attempting)
      (hstarted : r.started = true) :
      Move strict s { s with
        row := some { r with state := .reconciliationRequired, owner := none } }
  | block (r : RowView) (hrow : s.row = some r) (hstate : r.state = .attempting)
      (hunsent : r.started = false) :
      Move strict s { s with row := some { r with state := .definitiveFailure, owner := none } }
  | mark (c : CallerId) (owner : String) (r : RowView)
      (hcall : s.calls c = some ⟨owner, .claimed⟩) (hrow : s.row = some r)
      (hstate : r.state = .attempting) (howner : r.owner = some owner) :
      Move strict s
        { row := some { r with started := true, attempts := r.attempts + 1 }
          calls := Function.update s.calls c (some ⟨owner, .posting⟩)
          log := .marked c owner :: s.log }
  | post (c : CallerId) (owner : String) (result : TransportResult) (next : Role)
      (hcall : s.calls c = some ⟨owner, .posting⟩)
      (hlicence : strict → releasedSinceMark c s.log = false)
      (hnext : next = .posting ∧ result.safe = true
        ∨ ∃ st, next = .finishing st ∧ (st = .retryableFailure → result.safe = true)) :
      Move strict s
        { s with
          calls := Function.update s.calls c (some ⟨owner, next⟩)
          log := .posted c result :: s.log }
  | settle (c : CallerId) (owner : String) (st : OperationState)
      (hcall : s.calls c = some ⟨owner, .posting⟩) :
      Move strict s (s.setCall c (some ⟨owner, .finishing st⟩))
  | finish (c : CallerId) (call : Call) (r : RowView) (st : OperationState)
      (sol : Option String) (hcall : s.calls c = some call)
      (hrole : (call.role = .claimed ∧ st = .retryableFailure) ∨ call.role = .finishing st)
      (hrow : s.row = some r) (hstate : r.state = .attempting)
      (howner : r.owner = some call.owner) (hst : st ∈ finals)
      (hsol : st = .completed ↔ sol.isSome = true) :
      Move strict s
        { row := some { r with state := st, owner := none, sol }
          calls := Function.update s.calls c none
          log := .finished c call.owner st :: s.log }
  | record (r : RowView) (sol : String) (hrow : s.row = some r)
      (hstate : r.state = .reconciliationRequired
        ∨ (r.state = .completed ∧ r.sol = some sol)) :
      Move strict s
        { s with
          row := some { r with state := .completed, owner := none, sol := some sol }
          log := .recorded :: s.log }
  | release (r : RowView) (hrow : s.row = some r)
      (hstate : r.state = .reconciliationRequired) :
      Move strict s
        { s with
          row := some { r with state := .retryableFailure, owner := none }
          log := .released :: s.log }

/-- Any number of moves. -/
def Moves (strict : Prop) : Config → Config → Prop := Relation.ReflTransGen (Move strict)

/-- No row, no call, no history. -/
def Config.empty : Config := ⟨none, fun _ => none, []⟩

variable {strict : Prop} {s t : Config}

/-- The invariant rule for moves. -/
theorem Moves.invariant {I : Config → Prop} (h : Moves strict s t) (hs : I s)
    (hmove : ∀ s t, I s → Move strict s t → I t) : I t := by
  induction h with
  | refl => exact hs
  | tail _ hlast ih => exact hmove _ _ ih hlast

/-! ## §3. The record never forgets or invents an outcome.

    Nothing here depends on `strict`: calls may share owners and post
    whenever they like. -/

/-- What the row tells about the history. -/
structure Ledger (s : Config) : Prop where
  sol_iff : ∀ r, s.row = some r → (r.state = .completed ↔ r.sol.isSome = true)
  attempts_eq : ∀ r, s.row = some r → r.attempts = markCount s.log
  unmarked : s.row = none → markCount s.log = 0
  open_mark : ∀ k, openMark s.log = some k → ∃ r, s.row = some r ∧ r.started = true
    ∧ (r.state = .reconciliationRequired
      ∨ (r.state = .attempting ∧ r.owner = some k.owner ∧ k.number = claimCount s.log))

theorem Ledger.empty : Ledger Config.empty := by
  constructor <;> simp [Config.empty, openMark, markCount]

/-- While a mark is open the row cannot be claimed, blocked or reopened. -/
theorem Ledger.openMark_eq_none (h : Ledger s) {r : RowView} (hrow : s.row = some r)
    (hstate : ¬ (r.started = true
      ∧ (r.state = .reconciliationRequired ∨ r.state = .attempting))) :
    openMark s.log = none := by
  cases hopen : openMark s.log with
  | none => rfl
  | some k =>
      obtain ⟨r', hrow', hstarted, hst⟩ := h.open_mark k hopen
      rw [hrow] at hrow'
      injection hrow' with hrow'
      subst hrow'
      refine absurd ⟨hstarted, ?_⟩ hstate
      rcases hst with hst | ⟨hst, -⟩
      · exact .inl hst
      · exact .inr hst

/-- A move that keeps the history and closes no open mark. -/
theorem Ledger.keep_log (h : Ledger s) {r r' : RowView} (hrow : s.row = some r)
    (hrow' : t.row = some r') (hlog : t.log = s.log)
    (hsol : r'.state = .completed ↔ r'.sol.isSome = true)
    (hattempts : r'.attempts = r.attempts) (hopen : openMark s.log = none) : Ledger t := by
  constructor
  · intro r₁ h₁
    rw [hrow'] at h₁
    injection h₁ with h₁
    subst h₁
    exact hsol
  · intro r₁ h₁
    rw [hrow'] at h₁
    injection h₁ with h₁
    subst h₁
    rw [hattempts, hlog]
    exact h.attempts_eq r hrow
  · intro hnone
    rw [hrow'] at hnone
    cases hnone
  · intro k hk
    rw [hlog, hopen] at hk
    cases hk

/-- **One move keeps the ledger.** -/
theorem Ledger.move (h : Ledger s) (hm : Move strict s t) : Ledger t := by
  cases hm with
  | enter | leave | rest | settle => exact ⟨h.sol_iff, h.attempts_eq, h.unmarked, h.open_mark⟩
  | insert r hrow hstate hsol hattempts =>
      constructor
      · rintro r₁ ⟨⟩
        rcases hstate with hst | hst <;> simp [hst, hsol]
      · rintro r₁ ⟨⟩
        rw [hattempts, h.unmarked hrow]
      · intro hnone
        cases hnone
      · intro k hk
        obtain ⟨r', hrow', -⟩ := h.open_mark k hk
        rw [hrow] at hrow'
        cases hrow'
  | lease r owner hrow hstate =>
      refine h.keep_log hrow rfl rfl ?_ rfl (h.openMark_eq_none hrow (by simp [hstate]))
      exact h.sol_iff r hrow
  | reopen r hrow hstate hunsent =>
      refine h.keep_log hrow rfl rfl ?_ rfl (h.openMark_eq_none hrow (by simp [hunsent]))
      have := h.sol_iff r hrow
      simp_all
  | fence r hrow hstate hstarted =>
      constructor
      · rintro r₁ ⟨⟩
        have := h.sol_iff r hrow
        simp_all
      · rintro r₁ ⟨⟩
        exact h.attempts_eq r hrow
      · intro hnone
        cases hnone
      · intro k hk
        exact ⟨_, rfl, hstarted, .inl rfl⟩
  | block r hrow hstate hunsent =>
      refine h.keep_log hrow rfl rfl ?_ rfl (h.openMark_eq_none hrow (by simp [hunsent]))
      have := h.sol_iff r hrow
      simp_all
  | claim c owner r hcall hrow hstate =>
      have hopen : openMark s.log = none := by
        refine h.openMark_eq_none hrow ?_
        rcases hstate with hst | hst | ⟨hst, hun⟩
        · simp [hst]
        · simp [hst]
        · simp [hun]
      constructor
      · rintro r₁ ⟨⟩
        have := h.sol_iff r hrow
        rcases hstate with hst | hst | ⟨hst, hun⟩ <;> simp_all
      · rintro r₁ ⟨⟩
        exact h.attempts_eq r hrow
      · intro hnone
        cases hnone
      · intro k hk
        rw [show openMark (.claimed c owner :: s.log) = openMark s.log from rfl, hopen] at hk
        cases hk
  | mark c owner r hcall hrow hstate howner =>
      constructor
      · rintro r₁ ⟨⟩
        exact h.sol_iff r hrow
      · rintro r₁ ⟨⟩
        simp only [markCount, h.attempts_eq r hrow]
      · intro hnone
        cases hnone
      · intro k hk
        injection hk with hk
        subst hk
        exact ⟨_, rfl, rfl, .inr ⟨hstate, howner, rfl⟩⟩
  | post c owner result next hcall hlicence hnext =>
      exact ⟨h.sol_iff, h.attempts_eq, h.unmarked, h.open_mark⟩
  | finish c call r st sol hcall hrole hrow hstate howner hst hsol =>
      constructor
      · rintro r₁ ⟨⟩
        exact hsol
      · rintro r₁ ⟨⟩
        exact h.attempts_eq r hrow
      · intro hnone
        cases hnone
      · intro k hk
        -- an open mark is one of the claim that holds the row, and this finish closes it
        simp only [openMark] at hk
        split at hk
        next => cases hk
        next hne =>
          obtain ⟨r', hrow', -, hst'⟩ := h.open_mark k hk
          rw [hrow] at hrow'
          injection hrow' with hrow'
          subst hrow'
          rcases hst' with hst' | ⟨-, howner', hnum⟩
          · rw [hstate] at hst'
            cases hst'
          · rw [howner] at howner'
            injection howner' with howner'
            refine absurd ?_ hne
            rw [hk, howner', ← hnum]
  | record r sol hrow hstate =>
      constructor
      · rintro r₁ ⟨⟩
        simp
      · rintro r₁ ⟨⟩
        exact h.attempts_eq r hrow
      · intro hnone
        cases hnone
      · intro k hk
        cases hk
  | release r hrow hstate =>
      constructor
      · rintro r₁ ⟨⟩
        have := h.sol_iff r hrow
        simp_all
      · rintro r₁ ⟨⟩
        exact h.attempts_eq r hrow
      · intro hnone
        cases hnone
      · intro k hk
        cases hk

/-- A completed row with its identifier, or with the post-start time set,
    stays so. -/
structure RowKept (r r' : RowView) : Prop where
  completed : r.state = .completed → r'.state = .completed ∧ r'.sol = r.sol
  started : r.started = true → r'.started = true

/-- **One move keeps a completed outcome and the post-start time.** -/
theorem Move.rowKept (hm : Move strict s t) {r : RowView} (hrow : s.row = some r) :
    ∃ r', t.row = some r' ∧ RowKept r r' := by
  have same : RowKept r r := ⟨fun h => ⟨h, rfl⟩, id⟩
  -- a statement guarded by another state says nothing about a completed row
  have other {r' : RowView} (hne : r.state ≠ .completed)
      (hstarted : r.started = true → r'.started = true) : RowKept r r' :=
    ⟨fun h => absurd h hne, hstarted⟩
  cases hm with
  | enter | leave | rest | settle | post => exact ⟨r, hrow, same⟩
  | insert r₁ hnone => rw [hrow] at hnone; cases hnone
  | lease r₁ owner hrow₁ hstate =>
      rw [hrow] at hrow₁; cases hrow₁
      exact ⟨_, rfl, other (by simp [hstate]) id⟩
  | reopen r₁ hrow₁ hstate hunsent =>
      rw [hrow] at hrow₁; cases hrow₁
      exact ⟨_, rfl, other (by simp [hstate]) id⟩
  | claim c owner r₁ hcall hrow₁ hstate =>
      rw [hrow] at hrow₁; cases hrow₁
      refine ⟨_, rfl, other ?_ id⟩
      rcases hstate with hst | hst | ⟨hst, -⟩ <;> simp [hst]
  | fence r₁ hrow₁ hstate =>
      rw [hrow] at hrow₁; cases hrow₁
      exact ⟨_, rfl, other (by simp [hstate]) id⟩
  | block r₁ hrow₁ hstate =>
      rw [hrow] at hrow₁; cases hrow₁
      exact ⟨_, rfl, other (by simp [hstate]) id⟩
  | mark c owner r₁ hcall hrow₁ hstate =>
      rw [hrow] at hrow₁; cases hrow₁
      exact ⟨_, rfl, other (by simp [hstate]) fun _ => rfl⟩
  | finish c call r₁ st sol hcall hrole hrow₁ hstate =>
      rw [hrow] at hrow₁; cases hrow₁
      exact ⟨_, rfl, other (by simp [hstate]) id⟩
  | record r₁ sol hrow₁ hstate =>
      rw [hrow] at hrow₁; cases hrow₁
      refine ⟨_, rfl, ⟨fun h => ⟨rfl, ?_⟩, id⟩⟩
      rcases hstate with hst | ⟨-, hsol⟩
      · rw [hst] at h; cases h
      · exact hsol.symm
  | release r₁ hrow₁ hstate =>
      rw [hrow] at hrow₁; cases hrow₁
      exact ⟨_, rfl, other (by simp [hstate]) id⟩

/-- The same over any number of moves. -/
theorem Moves.rowKept (h : Moves strict s t) {r : RowView} (hrow : s.row = some r) :
    ∃ r', t.row = some r' ∧ RowKept r r' := by
  refine Moves.invariant (I := fun u => ∃ r', u.row = some r' ∧ RowKept r r') h
    ⟨r, hrow, fun hc => ⟨hc, rfl⟩, id⟩ ?_
  rintro u v ⟨r₁, hrow₁, hkept⟩ hm
  obtain ⟨r₂, hrow₂, hkept'⟩ := hm.rowKept hrow₁
  refine ⟨r₂, hrow₂, fun hc => ?_, fun hst => hkept'.started (hkept.started hst)⟩
  obtain ⟨hc₁, hs₁⟩ := hkept.completed hc
  obtain ⟨hc₂, hs₂⟩ := hkept'.completed hc₁
  exact ⟨hc₂, hs₂.trans hs₁⟩

end Cai.Request.Protocol
