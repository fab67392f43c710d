/-
  Cai.Lib.Newest — the value of a field over several versions of a record.

  A version has a time, and the value of the field where it knows one.  Two
  versions are merged into one with the later time; its value is that of the
  later version, or else that of the earlier one.  The result of more than
  two depends on their order: once an older value filled a gap, the time of
  the merged version is no longer the time of its value.

  Main results:
    * `foldl_fill` — where the value comes from.
    * `foldl_fill_isNewest_iff` — when it is the newest one.
-/
import Mathlib.Order.Lattice

namespace Cai.Lib

variable {τ α : Type*} [LinearOrder τ]

/-- Two versions of a record; the first one wins a tie. -/
def fill (s r : τ × Option α) : τ × Option α :=
  if s.1 < r.1 then (r.1, r.2.or s.2) else (s.1, s.2.or r.2)

/-- The versions that are later than `t` and than all before them. -/
def latestFrom (t : τ) : List (τ × Option α) → List (τ × Option α)
  | [] => []
  | r :: l => if t < r.1 then r :: latestFrom r.1 l else latestFrom t l

/-- The versions that are later than all before them. -/
def latest : List (τ × Option α) → List (τ × Option α)
  | [] => []
  | r :: l => r :: latestFrom r.1 l

/-- The value of the last version that knows one and is later than all before it, or
    else of the first version that knows one. -/
def retained (l : List (τ × Option α)) : Option α :=
  ((latest l).filterMap (·.2)).getLast?.or (l.filterMap (·.2)).head?

variable {l before after : List (τ × Option α)} {r s : τ × Option α} {t : τ} {v : α}

theorem fill_of_lt (h : s.1 < r.1) : fill s r = (r.1, r.2.or s.2) := if_pos h

theorem fill_of_not_lt (h : ¬s.1 < r.1) : fill s r = (s.1, s.2.or r.2) := if_neg h

theorem latestFrom_of_lt (h : t < r.1) : latestFrom t (r :: l) = r :: latestFrom r.1 l := by
  rw [latestFrom, if_pos h]

theorem latestFrom_of_not_lt (h : ¬t < r.1) : latestFrom t (r :: l) = latestFrom t l := by
  rw [latestFrom, if_neg h]

/-- The time is never earlier than that of a version before. -/
theorem le_foldl_fill : s.1 ≤ (l.foldl fill s).1 ∧ ∀ r ∈ l, r.1 ≤ (l.foldl fill s).1 := by
  induction l generalizing s with
  | nil => exact ⟨le_rfl, fun r hr => absurd hr List.not_mem_nil⟩
  | cons first l ih =>
      obtain ⟨hstart, hrest⟩ := ih (s := fill s first)
      have hfill : s.1 ≤ (fill s first).1 ∧ first.1 ≤ (fill s first).1 := by
        by_cases hlt : s.1 < first.1
        · rw [fill_of_lt hlt]
          exact ⟨hlt.le, le_rfl⟩
        · rw [fill_of_not_lt hlt]
          exact ⟨le_rfl, not_lt.mp hlt⟩
      refine ⟨hfill.1.trans hstart, fun r hr => ?_⟩
      rcases List.mem_cons.mp hr with rfl | hmem
      · exact hfill.2.trans hstart
      · exact hrest r hmem

/-- It is earlier than `t` when all versions are. -/
theorem foldl_fill_lt_iff : (l.foldl fill s).1 < t ↔ s.1 < t ∧ ∀ r ∈ l, r.1 < t := by
  constructor
  · intro h
    obtain ⟨hstart, hall⟩ := le_foldl_fill (l := l) (s := s)
    exact ⟨hstart.trans_lt h, fun r hr => (hall r hr).trans_lt h⟩
  · intro ⟨hs, hall⟩
    induction l generalizing s with
    | nil => exact hs
    | cons first l ih =>
        have hfill : (fill s first).1 < t := by
          by_cases hlt : s.1 < first.1
          · rw [fill_of_lt hlt]
            exact hall first List.mem_cons_self
          · rw [fill_of_not_lt hlt]
            exact hs
        exact ih hfill fun r hr => hall r (List.mem_cons_of_mem _ hr)

/-- Where the value comes from, from any version on. -/
theorem foldl_fill_snd (s : τ × Option α) (l : List (τ × Option α)) :
    (l.foldl fill s).2
      = ((latestFrom s.1 l).filterMap (·.2)).getLast?.or (s.2.or (l.filterMap (·.2)).head?) := by
  induction l generalizing s with
  | nil => simp [latestFrom]
  | cons r l ih =>
      rw [List.foldl_cons, ih]
      by_cases hlt : s.1 < r.1
      · rw [fill_of_lt hlt, latestFrom_of_lt hlt]
        cases hvalue : r.2 with
        | none =>
            rw [List.filterMap_cons_none hvalue, List.filterMap_cons_none hvalue, Option.none_or]
        | some v =>
            rw [List.filterMap_cons_some hvalue, List.getLast?_cons]
            cases ((latestFrom r.1 l).filterMap (·.2)).getLast? with
            | none => rfl
            | some w => rfl
      · rw [fill_of_not_lt hlt, latestFrom_of_not_lt hlt]
        cases hvalue : r.2 with
        | none => rw [List.filterMap_cons_none hvalue, Option.or_none]
        | some v =>
            rw [List.filterMap_cons_some hvalue, List.head?_cons, Option.or_assoc, Option.some_or]

/-- **Where the value comes from.** -/
theorem foldl_fill (s : τ × Option α) (l : List (τ × Option α)) :
    (l.foldl fill s).2 = retained (s :: l) := by
  rw [foldl_fill_snd]
  unfold retained latest
  cases hvalue : s.2 with
  | none =>
      rw [List.filterMap_cons_none hvalue, List.filterMap_cons_none hvalue, Option.none_or]
  | some v =>
      rw [List.filterMap_cons_some hvalue, List.filterMap_cons_some hvalue, List.getLast?_cons]
      cases ((latestFrom s.1 l).filterMap (·.2)).getLast? with
      | none => rfl
      | some w => rfl

/-- A value stays where no later version knows one. -/
theorem foldl_fill_keeps (h : ∀ r ∈ l, r.2 ≠ none → r.1 ≤ t) (hle : t ≤ s.1) (hs : s.2 = some v) :
    (l.foldl fill s).2 = some v := by
  induction l generalizing s with
  | nil => exact hs
  | cons r l ih =>
      have hrest : ∀ r ∈ l, r.2 ≠ none → r.1 ≤ t := fun r hr => h r (List.mem_cons_of_mem _ hr)
      rw [List.foldl_cons]
      by_cases hlt : s.1 < r.1
      · have hnone : r.2 = none := by
          by_contra hsome
          exact absurd (h r List.mem_cons_self hsome) (not_le.mpr (hle.trans_lt hlt))
        rw [fill_of_lt hlt, hnone, Option.none_or]
        exact ih hrest (hle.trans hlt.le) hs
      · rw [fill_of_not_lt hlt, hs, Option.some_or]
        exact ih hrest hle rfl

theorem foldl_fill_none (hs : s.2 = none) (h : ∀ r ∈ l, r.2 = none) : (l.foldl fill s).2 = none := by
  induction l generalizing s with
  | nil => exact hs
  | cons r l ih =>
      have hfill : (fill s r).2 = none := by
        have hr := h r List.mem_cons_self
        by_cases hlt : s.1 < r.1
        · rw [fill_of_lt hlt, hr, hs]
          rfl
        · rw [fill_of_not_lt hlt, hr, hs]
          rfl
      exact ih hfill fun r' hr' => h r' (List.mem_cons_of_mem _ hr')

/-- The value after the newest version that knows one. -/
theorem retained_newest (hafter : ∀ r ∈ after, r.2 ≠ none → r.1 ≤ t) :
    retained (before ++ (t, some v) :: after)
      = if ∀ r ∈ before, r.1 < t then some v else (retained before).or (some v) := by
  cases before with
  | nil =>
      rw [List.nil_append, ← foldl_fill, if_pos fun r hr => absurd hr List.not_mem_nil]
      exact foldl_fill_keeps hafter le_rfl rfl
  | cons s before =>
      have hearlier : (before.foldl fill s).1 < t ↔ ∀ r ∈ s :: before, r.1 < t := by
        rw [foldl_fill_lt_iff, List.forall_mem_cons]
      rw [List.cons_append, ← foldl_fill, ← foldl_fill, List.foldl_append, List.foldl_cons]
      by_cases hlt : (before.foldl fill s).1 < t
      · rw [if_pos (hearlier.mp hlt), fill_of_lt hlt, Option.some_or]
        exact foldl_fill_keeps hafter le_rfl rfl
      · rw [if_neg fun hall => hlt (hearlier.mpr hall), fill_of_not_lt hlt]
        cases hvalue : (before.foldl fill s).2 with
        | none => exact foldl_fill_keeps hafter (not_lt.mp hlt) rfl
        | some w => exact foldl_fill_keeps hafter (not_lt.mp hlt) rfl

/-- The newest version that knows a value comes after no newer one, or after no version
    whose value is retained instead. -/
def NewestKept (l : List (τ × Option α)) : Prop :=
  ∀ before t v after, l = before ++ (t, some v) :: after → (∀ r ∈ l, r.2 ≠ none → r.1 ≤ t) →
    (∀ r ∈ before, r.1 < t) ∨ ∀ w, retained before = some w → w = v

/-- Nothing is lost when the versions come from the oldest to the newest. -/
theorem newestKept_of_increasing (h : l.Pairwise fun a b => a.1 < b.1) : NewestKept l := by
  intro before t v after heq _
  rw [heq] at h
  exact .inl fun r hr => (List.pairwise_append.mp h).2.2 r hr _ List.mem_cons_self

theorem retained_of_none (h : ∀ r ∈ l, r.2 = none) : retained l = none := by
  cases l with
  | nil => rfl
  | cons s l =>
      rw [← foldl_fill]
      exact foldl_fill_none (h s List.mem_cons_self) fun r hr => h r (List.mem_cons_of_mem s hr)

/-- Nor is it when they come from the newest to the oldest. -/
theorem newestKept_of_decreasing (h : l.Pairwise fun a b => b.1 < a.1) : NewestKept l := by
  intro before t v after heq hnewest
  have hlater : ∀ r ∈ before, t < r.1 := by
    intro r hr
    rw [heq] at h
    exact (List.pairwise_append.mp h).2.2 r hr _ List.mem_cons_self
  -- the later versions before it know no value
  have hnone : ∀ r ∈ before, r.2 = none := by
    intro r hr
    by_contra hsome
    have hmem : r ∈ l := heq ▸ List.mem_append_left _ hr
    exact absurd (hnewest r hmem hsome) (not_le.mpr (hlater r hr))
  right
  intro w hw
  rw [retained_of_none hnone] at hw
  cases hw

/-- The value is that of the newest version that knows one. -/
def IsNewest (l : List (τ × Option α)) (value : Option α) : Prop :=
  (∀ t v, (t, some v) ∈ l → (∀ r ∈ l, r.2 ≠ none → r.1 ≤ t) → value = some v)
    ∧ ((∀ r ∈ l, r.2 = none) → value = none)

/-- **When the merged value is the newest one.** -/
theorem foldl_fill_isNewest_iff (s : τ × Option α) (l : List (τ × Option α)) :
    IsNewest (s :: l) (l.foldl fill s).2 ↔ NewestKept (s :: l) := by
  have hsplit : ∀ before t v after, s :: l = before ++ (t, some v) :: after →
      (∀ r ∈ s :: l, r.2 ≠ none → r.1 ≤ t) → ((l.foldl fill s).2 = some v
        ↔ (∀ r ∈ before, r.1 < t) ∨ ∀ w, retained before = some w → w = v) := by
    intro before t v after heq hnewest
    have hafter : ∀ r ∈ after, r.2 ≠ none → r.1 ≤ t := fun r hr =>
      hnewest r (heq ▸ List.mem_append_right _ (List.mem_cons_of_mem _ hr))
    rw [foldl_fill, heq, retained_newest hafter]
    by_cases hearlier : ∀ r ∈ before, r.1 < t
    · rw [if_pos hearlier]
      exact ⟨fun _ => .inl hearlier, fun _ => rfl⟩
    · rw [if_neg hearlier]
      cases hretained : retained before with
      | none =>
          rw [Option.none_or]
          exact ⟨fun _ => .inr fun w hw => (Option.some_ne_none w hw.symm).elim, fun _ => rfl⟩
      | some w =>
          rw [Option.some_or, Option.some.injEq]
          constructor
          · intro h
            exact .inr fun w' hw' => (Option.some.inj hw').symm.trans h
          · intro h
            rcases h with hall | hsame
            · exact absurd hall hearlier
            · exact hsame w rfl
  constructor
  · intro ⟨hvalue, _⟩ before t v after heq hnewest
    have hmem : (t, some v) ∈ s :: l := heq ▸ List.mem_append_right _ List.mem_cons_self
    exact (hsplit before t v after heq hnewest).mp (hvalue t v hmem hnewest)
  · intro hkept
    refine ⟨fun t v hmem hnewest => ?_, fun hnone => ?_⟩
    · obtain ⟨before, after, heq⟩ := List.append_of_mem hmem
      exact (hsplit before t v after heq hnewest).mpr (hkept before t v after heq hnewest)
    · exact foldl_fill_none (hnone s List.mem_cons_self) fun r hr =>
        hnone r (List.mem_cons_of_mem _ hr)

end Cai.Lib
