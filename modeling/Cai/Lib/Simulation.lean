/-
  Cai.Lib.Simulation — a machine seen through a view of its state.

  Of a large machine one often wants what a smaller one guarantees: a
  table with many rows and a machine of one row, a server and one of its
  tables.  The view maps the large state to the small one, and each step
  of the large machine is seen as a run of the small one: as no step, as
  one, or as several.

  Main results:
    * `Reachable.simulate` — a reachable state is seen as a reachable one.
    * `RunWhere.bounded` — what a run does at most, by a measure that the
      counted steps use up.
-/
import Cai.Lib.Transition

namespace Cai.Lib.Machine

variable {σ τ α β : Type*} {C : Machine σ α} {A : Machine τ β} {view : σ → τ} {s t : σ}

/-! ## §1. The simulation rule. -/

/-- A step that is seen as no step. -/
theorem run_of_eq {a b : τ} (h : b = a) : A.RunWhere anyStep a b := by
  rw [h]
  exact .refl

/-- A step that is seen as one. -/
theorem run_of_step {a b : τ} {x : β} (h : A.step a x = some b) : A.RunWhere anyStep a b :=
  .single ⟨x, trivial, h⟩

/-- **The simulation rule**: when each step from a reachable state is seen as
    a run, a reachable state is seen as a reachable state. -/
theorem Reachable.simulate (h : C.Reachable t) (h₀ : ∀ s, C.init s → A.init (view s))
    (hstep : ∀ s a t, C.Reachable s → C.step s a = some t →
      A.RunWhere anyStep (view s) (view t)) : A.Reachable (view t) := by
  refine ReachableWhere.invariant_of_reachable (I := fun s => A.Reachable (view s)) h
    (fun s hs => .init (h₀ s hs)) ?_
  intro s a t hreach hview _ hs
  exact hview.run (hstep s a t hreach hs)

/-! ## §2. Bounded runs. -/

/-- **The measure rule**: what is counted (`count`) uses up the measure, so a
    run counts no more than the measure of its first state. -/
theorem RunWhere.bounded {ok : σ → α → Prop} (count measure : σ → Nat) (h : C.RunWhere ok s t)
    (hstep : ∀ s a t, ok s a → C.step s a = some t →
      count t + measure t ≤ count s + measure s) :
    count t + measure t ≤ count s + measure s := by
  induction h with
  | refl => exact Nat.le_refl _
  | tail _ hlast ih =>
      obtain ⟨a, hok, ha⟩ := hlast
      exact Nat.le_trans (hstep _ a _ hok ha) ih

end Cai.Lib.Machine
