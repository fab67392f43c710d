/-
  Cai.Lib.Window — how many events a window of time holds.

  Times are elements of an ordered field.  When the events number `k` and
  `k + n` are always a given width apart, no shorter window holds more than
  `n` of them.

  Main results:
    * `Spaced.append` — the next event.
    * `Spaced.count_window_le` — the events of a window.
-/
import Mathlib.Algebra.Order.Field.Basic
import Mathlib.Tactic.Linarith

namespace Cai.Lib

variable {K : Type*} [Field K] [LinearOrder K]

/-- The events number `k` and `k + n` are at least `width` apart, for every `k`. -/
def Spaced (n : Nat) (width : K) (events : List K) : Prop :=
  ∀ k a b, events[k]? = some a → events[k + n]? = some b → width ≤ b - a

variable {n : Nat} {width start d t : K} {events before after : List K}

theorem spaced_nil : Spaced n width ([] : List K) := by
  intro k a b ha
  cases ha

/-- One event more, when all but the last events (less than `n` of them) are far
    enough away. -/
theorem Spaced.append (h : Spaced n width (before ++ after)) (hbefore : ∀ a ∈ before, width ≤ t - a)
    (hafter : after.length < n) : Spaced n width (before ++ after ++ [t]) := by
  intro k a b ha hb
  rcases Nat.lt_trichotomy (k + n) (before ++ after).length with hless | heq | hgreater
  · rw [List.getElem?_append_left hless] at hb
    rw [List.getElem?_append_left (by omega)] at ha
    exact h k a b ha hb
  · -- the new event: number `k` is not among the last ones
    rw [heq, List.getElem?_concat_length] at hb
    rw [List.length_append] at heq
    have hk : k < before.length := by omega
    rw [List.getElem?_append_left (by rw [List.length_append]; omega),
      List.getElem?_append_left hk] at ha
    rw [← Option.some.inj hb]
    exact hbefore a (List.mem_of_getElem? ha)
  · rw [List.getElem?_eq_none (by rw [List.length_append, List.length_singleton]; omega)] at hb
    cases hb

theorem Spaced.tail {a : K} (h : Spaced n width (a :: events)) : Spaced n width events := by
  intro k b c hb hc
  refine h (k + 1) b c hb ?_
  rw [Nat.add_right_comm]
  exact hc

variable [IsStrictOrderedRing K]

/-- The events from number `n` on are not in a window that holds the first one. -/
theorem Spaced.drop_outside {a : K} (h : Spaced n width (a :: events))
    (hsorted : (a :: events).Pairwise (· ≤ ·)) (hd : d < width) (ha : start ≤ a)
    (ht : t ∈ (a :: events).drop n) : start + d < t := by
  have hfirst : ∃ b rest, (a :: events).drop n = b :: rest := by
    cases hdrop : (a :: events).drop n with
    | nil =>
        rw [hdrop] at ht
        cases ht
    | cons b rest => exact ⟨b, rest, rfl⟩
  obtain ⟨b, rest, hdrop⟩ := hfirst
  have hb : (a :: events)[0 + n]? = some b := by
    rw [Nat.zero_add, ← List.head?_drop, hdrop]
    rfl
  have hwidth := h 0 a b rfl hb
  have hbt : b ≤ t := by
    have hrest : ((a :: events).drop n).Pairwise (· ≤ ·) := hsorted.sublist (List.drop_sublist _ _)
    rw [hdrop] at ht hrest
    rcases List.mem_cons.mp ht with rfl | hmem
    · exact le_rfl
    · exact List.rel_of_pairwise_cons hrest hmem
  linarith

/-- **A window that is shorter than the width** holds at most `n` events. -/
theorem Spaced.count_window_le (h : Spaced n width events) (hsorted : events.Pairwise (· ≤ ·))
    (hd : d < width) : events.countP (fun t => start ≤ t ∧ t ≤ start + d) ≤ n := by
  induction events with
  | nil => exact Nat.zero_le n
  | cons a events ih =>
      by_cases ha : start ≤ a
      · -- the window starts before the first event
        have hnone : ((a :: events).drop n).countP (fun t => start ≤ t ∧ t ≤ start + d) = 0 := by
          rw [List.countP_eq_zero]
          intro t ht
          have houtside := h.drop_outside hsorted hd ha ht
          rw [decide_eq_true_eq]
          exact fun hinside => absurd hinside.2 (not_le.mpr houtside)
        rw [← List.take_append_drop n (a :: events), List.countP_append, hnone, Nat.add_zero]
        calc ((a :: events).take n).countP _ ≤ ((a :: events).take n).length := List.countP_le_length
          _ ≤ n := List.length_take_le n _
      · rw [List.countP_cons_of_neg (by simpa using fun hle => absurd hle ha)]
        exact ih h.tail hsorted.of_cons

end Cai.Lib
