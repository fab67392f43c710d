/-
  Cai.Lib.Lists — what does not depend on the order of a list.
-/
import Mathlib.Data.List.Sort

namespace Cai.Lib

theorem max?_perm {l l' : List Int} (h : l.Perm l') : l.max? = l'.max? := by
  cases hmax : l'.max? with
  | none =>
      rw [List.max?_eq_none_iff] at hmax ⊢
      rw [hmax] at h
      exact h.eq_nil
  | some t =>
      rw [List.max?_eq_some_iff] at hmax ⊢
      exact ⟨h.mem_iff.mpr hmax.1, fun s hs => hmax.2 s (h.mem_iff.mp hs)⟩

theorem min?_perm {l l' : List Int} (h : l.Perm l') : l.min? = l'.min? := by
  cases hmin : l'.min? with
  | none =>
      rw [List.min?_eq_none_iff] at hmin ⊢
      rw [hmin] at h
      exact h.eq_nil
  | some t =>
      rw [List.min?_eq_some_iff] at hmin ⊢
      exact ⟨h.mem_iff.mpr hmin.1, fun s hs => hmin.2 s (h.mem_iff.mp hs)⟩

/-- Sorting by a key that is different for different elements. -/
theorem insertionSort_perm {α : Type*} {r : α → α → Prop} [DecidableRel r] [Std.Total r]
    [IsTrans α r] {l l' : List α} (h : l.Perm l')
    (hanti : ∀ a ∈ l, ∀ b ∈ l, r a b → r b a → a = b) :
    l.insertionSort r = l'.insertionSort r := by
  have hperm : (l.insertionSort r).Perm (l'.insertionSort r) :=
    (List.perm_insertionSort r l).trans (h.trans (List.perm_insertionSort r l').symm)
  refine List.Perm.eq_of_pairwise ?_ (List.pairwise_insertionSort r l)
    (List.pairwise_insertionSort r l') hperm
  intro a b ha hb
  exact hanti a ((List.perm_insertionSort r l).mem_iff.mp ha) b
    (h.mem_iff.mpr ((List.perm_insertionSort r l').mem_iff.mp hb))

/-- Sorting brings no value in twice. -/
theorem nodup_map_insertionSort {α β : Type} {r : α → α → Prop} [DecidableRel r] {f : α → β}
    {l : List α} (h : (l.map f).Nodup) : ((l.insertionSort r).map f).Nodup :=
  (((List.perm_insertionSort r l).map f).nodup_iff).mpr h

end Cai.Lib
