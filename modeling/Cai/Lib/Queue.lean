/-
  Cai.Lib.Queue — a table that is served in the order of a key.

  A service takes the first row that waits, and writes it.  The rows in
  front of a place (`ahead`) are the waiting rows with a smaller key: a
  row that is served there and comes back behind the place leaves one row
  less in front of it.

  Main result: `countP_update_key`, what one written row does to a count.
-/
import Mathlib.Data.List.Nodup
import Cai.Lib.Table

namespace Cai.Lib.Table

/-! ## §1. One row of a table. -/

section Count

variable {ρ κ : Type*} {key : ρ → κ} {p q : ρ → Bool} {f : ρ → ρ} {rows : List ρ} {r : ρ}

/-- A table where no row is written. -/
theorem update_of_forall_not (h : ∀ a ∈ rows, p a = false) : update p f rows = rows := by
  have hsame : rows.map (fun r => if p r then f r else r) = rows.map id := by
    apply List.map_congr_left
    intro a ha
    rw [if_neg (by simp [h a ha])]
    rfl
  exact hsame.trans (List.map_id rows)

/-- **One written row**: its old state is no longer counted, and its new one is. -/
theorem countP_update_key (hnodup : (rows.map key).Nodup) (hr : r ∈ rows)
    (hp : ∀ a ∈ rows, p a = true ↔ key a = key r) :
    (update p f rows).countP q + (if q r then 1 else 0)
      = rows.countP q + (if q (f r) then 1 else 0) := by
  induction rows with
  | nil => cases hr
  | cons a rows ih =>
      obtain ⟨hfresh, hnodup⟩ := List.nodup_cons.mp hnodup
      have hrest : ∀ b ∈ rows, p b = true ↔ key b = key r :=
        fun b hb => hp b (List.mem_cons_of_mem a hb)
      show ((if p a then f a else a) :: update p f rows).countP q + _ = _
      rw [List.countP_cons, List.countP_cons]
      rcases List.mem_cons.mp hr with heq | hr
      · -- the key is not there again
        subst heq
        have hothers : ∀ b ∈ rows, p b = false := by
          intro b hb
          rw [Bool.eq_false_iff]
          intro hpb
          exact hfresh ((hrest b hb).mp hpb ▸ List.mem_map_of_mem hb)
        rw [update_of_forall_not hothers, if_pos ((hp r List.mem_cons_self).mpr rfl)]
        omega
      · have hne : p a = false := by
          rw [Bool.eq_false_iff]
          intro hpa
          exact hfresh ((hp a List.mem_cons_self).mp hpa ▸ List.mem_map_of_mem hr)
        have hcount := ih hnodup hr hrest
        have hkept : (if p a then f a else a) = a := by simp [hne]
        rw [hkept]
        omega

theorem countP_insert :
    (insert rows r).countP q = rows.countP q + (if q r then 1 else 0) := by
  unfold insert
  rw [List.countP_append, List.countP_singleton]

end Count

/-! ## §2. The first row, and the rows in front of a place. -/

variable {ρ κ : Type*} [LinearOrder κ] {waits p : ρ → Bool} {key : ρ → κ} {rows : List ρ} {r : ρ}
  {k : κ}

/-- SELECT … WHERE `p` ORDER BY `key` LIMIT 1. -/
def first (p : ρ → Bool) (key : ρ → κ) (rows : List ρ) : Option ρ := (rows.filter p).argmin key

theorem first_mem (h : first p key rows = some r) : r ∈ rows ∧ p r = true :=
  List.mem_filter.mp (List.argmin_mem h)

theorem first_none_iff : first p key rows = none ↔ ∀ a ∈ rows, p a = false := by
  unfold first
  rw [List.argmin_eq_none, List.filter_eq_nil_iff]
  simp

theorem first_le (h : first p key rows = some r) {a : ρ} (ha : a ∈ rows) (hp : p a = true) :
    key r ≤ key a := by
  have hmem : a ∈ rows.filter p := List.mem_filter.mpr ⟨ha, hp⟩
  exact List.le_of_mem_argmin hmem h

/-- A row that waits in front of `k`. -/
def before (waits : ρ → Bool) (key : ρ → κ) (k : κ) (r : ρ) : Bool := waits r && decide (key r < k)

/-- How many rows wait in front of `k`. -/
def ahead (waits : ρ → Bool) (key : ρ → κ) (k : κ) (rows : List ρ) : Nat :=
  rows.countP (before waits key k)

theorem before_of_lt (hwaits : waits r = true) (h : key r < k) : before waits key k r = true := by
  simp [before, hwaits, h]

theorem before_of_le (h : k ≤ key r) : before waits key k r = false := by
  simp [before, h]

theorem before_of_not_waits (h : waits r = false) : before waits key k r = false := by
  simp [before, h]

end Cai.Lib.Table
