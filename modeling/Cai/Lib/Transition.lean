/-
  Cai.Lib.Transition — machines with labelled, partial steps.

  A machine says what one atomic action does to a shared state: an action
  that is not enabled has no successor.  Every nondeterministic choice
  (which party moves, what the clock shows, what a remote service
  answers) is part of the action, so `step` itself is a function and a
  concrete run can be evaluated.

  A run may be restricted by a side condition `ok` on the pair (state
  before the step, action).  The rules below are the three this library
  is for: an invariant of every reachable state, a fact that is never
  lost again once it holds, and the passage from an evaluated list of
  actions to a reachable state.
-/
import Mathlib.Logic.Relation
import Mathlib.Data.Option.Basic

namespace Cai.Lib

/-- A labelled machine: `step s a` is the successor of `s` under `a`,
    or `none` when `a` is not enabled in `s`. -/
structure Machine (σ : Type*) (α : Type*) where
  init : σ → Prop
  step : σ → α → Option σ

namespace Machine

variable {σ α : Type*} (M : Machine σ α)

/-! ## §1. Runs, restricted by a condition on their steps. -/

/-- One step whose state and action meet `ok`. -/
def StepWhere (ok : σ → α → Prop) (s t : σ) : Prop :=
  ∃ a, ok s a ∧ M.step s a = some t

/-- Any number of steps, each of which meets `ok`. -/
def RunWhere (ok : σ → α → Prop) : σ → σ → Prop :=
  Relation.ReflTransGen (M.StepWhere ok)

/-- Reached from an initial state by steps that all meet `ok`. -/
def ReachableWhere (ok : σ → α → Prop) (t : σ) : Prop :=
  ∃ s, M.init s ∧ M.RunWhere ok s t

/-- The condition every step meets. -/
def anyStep : σ → α → Prop := fun _ _ => True

/-- Reached from an initial state, by any steps. -/
def Reachable (t : σ) : Prop := M.ReachableWhere anyStep t

variable {M} {ok ok' : σ → α → Prop} {s t u : σ}

theorem ReachableWhere.init (h : M.init s) : M.ReachableWhere ok s :=
  ⟨s, h, .refl⟩

theorem ReachableWhere.step (h : M.ReachableWhere ok s) {a : α} (hok : ok s a)
    (hs : M.step s a = some t) : M.ReachableWhere ok t := by
  obtain ⟨s₀, h₀, hrun⟩ := h
  exact ⟨s₀, h₀, hrun.tail ⟨a, hok, hs⟩⟩

theorem ReachableWhere.run (h : M.ReachableWhere ok s) (hrun : M.RunWhere ok s t) :
    M.ReachableWhere ok t := by
  obtain ⟨s₀, h₀, hrun₀⟩ := h
  exact ⟨s₀, h₀, hrun₀.trans hrun⟩

theorem RunWhere.mono (himp : ∀ s a, ok s a → ok' s a) (h : M.RunWhere ok s t) :
    M.RunWhere ok' s t :=
  Relation.ReflTransGen.mono (fun _ _ ⟨a, hok, hs⟩ => ⟨a, himp _ _ hok, hs⟩) _ _ h

theorem ReachableWhere.mono (himp : ∀ s a, ok s a → ok' s a)
    (h : M.ReachableWhere ok t) : M.ReachableWhere ok' t := by
  obtain ⟨s₀, h₀, hrun⟩ := h
  exact ⟨s₀, h₀, hrun.mono himp⟩

/-- A restricted run is a run. -/
theorem ReachableWhere.reachable (h : M.ReachableWhere ok t) : M.Reachable t :=
  h.mono fun _ _ _ => trivial

/-! ## §2. The invariant rule. -/

/-- **The invariant rule**: what holds initially and is preserved by every
    step that meets `ok` holds of every state reached by such steps. -/
theorem ReachableWhere.invariant {I : σ → Prop} (h : M.ReachableWhere ok t)
    (h₀ : ∀ s, M.init s → I s)
    (hstep : ∀ s a t, I s → ok s a → M.step s a = some t → I t) : I t := by
  obtain ⟨s, hs, hrun⟩ := h
  induction hrun with
  | refl => exact h₀ s hs
  | tail _ hlast ih =>
      obtain ⟨a, hok, ha⟩ := hlast
      exact hstep _ a _ ih hok ha

/-- The invariant rule, where the step may use that its first state is
    itself reachable (so that invariants already proved can be used). -/
theorem ReachableWhere.invariant_of_reachable {I : σ → Prop}
    (h : M.ReachableWhere ok t) (h₀ : ∀ s, M.init s → I s)
    (hstep : ∀ s a t, M.ReachableWhere ok s → I s → ok s a →
      M.step s a = some t → I t) : I t := by
  have key : M.ReachableWhere ok t ∧ I t :=
    ReachableWhere.invariant (I := fun s => M.ReachableWhere ok s ∧ I s) h
      (fun s hs => ⟨.init hs, h₀ s hs⟩)
      (fun s a t hs hok ha => ⟨hs.1.step hok ha, hstep s a t hs.1 hs.2 hok ha⟩)
  exact key.2

/-- **The stability rule**: a fact that no step from a reachable state
    destroys holds for the rest of the run. -/
theorem ReachableWhere.stable {P : σ → Prop} (h : M.ReachableWhere ok s)
    (hP : P s) (hrun : M.RunWhere ok s t)
    (hstep : ∀ s a t, M.ReachableWhere ok s → P s → ok s a →
      M.step s a = some t → P t) : P t := by
  have key : M.ReachableWhere ok t ∧ P t := by
    induction hrun with
    | refl => exact ⟨h, hP⟩
    | tail _ hlast ih =>
        obtain ⟨a, hok, ha⟩ := hlast
        exact ⟨ih.1.step hok ha, hstep _ a _ ih.1 ih.2 hok ha⟩
  exact key.2

/-! ## §3. Evaluated runs. -/

variable (M)

/-- Perform a list of actions in order; `none` as soon as one is not enabled. -/
def exec (s : σ) : List α → Option σ
  | [] => some s
  | a :: as => (M.step s a).bind fun t => exec t as

variable {M}

/-- A list of actions that meet `ok` in every state. -/
theorem runWhere_of_exec {as : List α} (has : ∀ a ∈ as, ∀ s, ok s a) (h : M.exec s as = some t) :
    M.RunWhere ok s t := by
  induction as generalizing s with
  | nil =>
      injection h with h
      subst h
      exact .refl
  | cons a as ih =>
      simp only [exec, Option.bind_eq_some_iff] at h
      obtain ⟨u, ha, hu⟩ := h
      have htail : M.RunWhere ok u t := ih (fun b hb => has b (List.mem_cons_of_mem a hb)) hu
      exact .head ⟨a, has a List.mem_cons_self s, ha⟩ htail

/-- An evaluated list of actions is a run. -/
theorem run_of_exec {as : List α} (h : M.exec s as = some t) : M.RunWhere anyStep s t :=
  runWhere_of_exec (fun _ _ _ => trivial) h

/-- The state at the end of an evaluated list of actions is reachable. -/
theorem reachable_of_exec {as : List α} (h₀ : M.init s) (h : M.exec s as = some t) :
    M.Reachable t :=
  ⟨s, h₀, run_of_exec h⟩

variable (M)

/-- Perform a list of actions in order, each after a test of it. -/
def execWhere (check : σ → α → Bool) (s : σ) : List α → Option σ
  | [] => some s
  | a :: as => if check s a then (M.step s a).bind fun t => execWhere check t as else none

variable {M}

/-- The tests leave the outcome alone. -/
theorem exec_of_execWhere {check : σ → α → Bool} {as : List α}
    (h : M.execWhere check s as = some t) : M.exec s as = some t := by
  induction as generalizing s with
  | nil => exact h
  | cons a as ih =>
      simp only [execWhere, Option.ite_none_right_eq_some, Option.bind_eq_some_iff] at h
      obtain ⟨-, u, ha, hu⟩ := h
      simp only [exec, Option.bind_eq_some_iff]
      exact ⟨u, ha, ih hu⟩

/-- An evaluated list of tested actions is a run whose steps meet `ok`, when
    the test is sound in the states of an invariant `I`. -/
theorem runWhere_of_execWhere {check : σ → α → Bool} {I : σ → Prop} {as : List α}
    (hcheck : ∀ s a, I s → check s a = true → ok s a)
    (hstep : ∀ s a t, I s → check s a = true → M.step s a = some t → I t)
    (hs : I s) (h : M.execWhere check s as = some t) : M.RunWhere ok s t := by
  induction as generalizing s with
  | nil =>
      injection h with h
      subst h
      exact .refl
  | cons a as ih =>
      simp only [execWhere, Option.ite_none_right_eq_some, Option.bind_eq_some_iff] at h
      obtain ⟨hok, u, ha, hu⟩ := h
      exact .head ⟨a, hcheck s a hs hok, ha⟩ (ih (hstep s a u hs hok ha) hu)

end Machine

end Cai.Lib
