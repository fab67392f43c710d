/-
  Cai.Lib.Trail — audit tables.

  An audit table records the state changes of many subjects, one row a
  change, under a unique operation key.  The changes of one subject, in the
  order of their ids, are its history; the history is complete when it
  leads from nothing to the state the subject is in.
-/
import Cai.Lib.Keyed

namespace Cai.Lib

variable {σ ι κ ν : Type*}

/-! ## §1. Changes that follow each other. -/

/-- The changes lead from `s` to `t`: each starts in the state the previous
    one ended in. -/
def Leads : Option σ → List (Option σ × σ) → Option σ → Prop
  | s, [], t => s = t
  | s, (u, v) :: changes, t => u = s ∧ Leads (some v) changes t

instance decidableLeads [DecidableEq σ] : ∀ (s : Option σ) (changes : List (Option σ × σ)) (t : Option σ),
    Decidable (Leads s changes t)
  | s, [], t => inferInstanceAs (Decidable (s = t))
  | s, (u, v) :: changes, t =>
      have : Decidable (Leads (some v) changes t) :=
        decidableLeads (some v) changes t
      inferInstanceAs (Decidable (u = s ∧ Leads (some v) changes t))

/-- One more change, from the state the others lead to. -/
theorem Leads.append {s u : Option σ} {changes : List (Option σ × σ)} (h : Leads s changes u)
    (v : σ) : Leads s (changes ++ [(u, v)]) (some v) := by
  induction changes generalizing s with
  | nil =>
      have h : s = u := h
      exact ⟨h.symm, rfl⟩
  | cons c changes ih => exact ⟨h.1, ih h.2⟩

/-- The changes lead to one state only. -/
theorem Leads.unique {s t t' : Option σ} {changes : List (Option σ × σ)} (h : Leads s changes t)
    (h' : Leads s changes t') : t = t' := by
  induction changes generalizing s with
  | nil =>
      have h : s = t := h
      have h' : s = t' := h'
      exact h.symm.trans h'
  | cons c changes ih => exact ih h.2 h'.2

/-! ## §2. The history of one subject. -/

namespace Keyed

/-- The changes of subject `i`, in the order of the ids. -/
def history [DecidableEq ι] (subject : ν → ι) (change : ν → Option σ × σ) (t : Keyed κ ν) (i : ι) :
    List (Option σ × σ) :=
  (t.rows.filter fun e => subject e.value == i).map fun e => change e.value

variable [DecidableEq ι] {subject : ν → ι} {change : ν → Option σ × σ} {t : Keyed κ ν} {i : ι}

theorem history_eq_nil (h : ∀ e ∈ t.rows, subject e.value ≠ i) :
    t.history subject change i = [] := by
  unfold history
  rw [List.map_eq_nil_iff, List.filter_eq_nil_iff]
  intro e he
  simpa using h e he

variable [DecidableEq κ] {k : κ} {v : ν}

theorem history_insertNew_self (h : t.find? k = none) (hi : subject v = i) :
    (t.insertNew k v).history subject change i = t.history subject change i ++ [change v] := by
  unfold history
  rw [rows_insertNew h, List.filter_append, List.map_append]
  simp [hi]

theorem history_insertNew_ne (hi : subject v ≠ i) :
    (t.insertNew k v).history subject change i = t.history subject change i := by
  cases h : t.find? k with
  | some e => rw [insertNew_of_some h]
  | none =>
      unfold history
      rw [rows_insertNew h, List.filter_append]
      simp [hi]

end Keyed

end Cai.Lib
