/-
  Cai.Lib.History — histories of events, newest first.

  A ghost history records what has been committed so far; the newest
  event is its head.  Two questions about a history are asked again and
  again: is there an event of one kind with no later event of a cutting
  kind, and is every pair of events of two kinds separated by a cut.  The
  second is maintained from the first, one event at a time
  (`everyPairCut_cons`).
-/
import Mathlib.Data.List.Basic

namespace Cai.Lib

/-- A history of committed events, newest first. -/
abbrev History (ε : Type*) := List ε

namespace History

variable {ε : Type*}

/-- Some event of kind `source` has no later event of kind `cut`. -/
def uncut (source cut : ε → Bool) : History ε → Bool
  | [] => false
  | e :: log => source e || (!cut e && uncut source cut log)

/-- Between any event of kind `target` and any earlier event of kind
    `source` there is an event of kind `cut`. -/
def EveryPairCut (source cut target : ε → Bool) (log : History ε) : Prop :=
  ∀ newer between older (first second : ε),
    log = newer ++ second :: (between ++ first :: older) →
    source first = true → target second = true → ∃ e ∈ between, cut e = true

variable {source cut target : ε → Bool}

theorem uncut_cons (e : ε) (log : History ε) :
    uncut source cut (e :: log) = (source e || (!cut e && uncut source cut log)) := rfl

/-- An uncut source splits the history at a source after which nothing cuts. -/
theorem uncut_eq_true_iff (log : History ε) :
    uncut source cut log = true ↔
      ∃ newer older first, log = newer ++ first :: older ∧ source first = true
        ∧ ∀ e ∈ newer, cut e = false := by
  induction log with
  | nil => simp [uncut]
  | cons e log ih =>
      rw [uncut_cons]
      constructor
      · intro h
        by_cases hsrc : source e = true
        · exact ⟨[], log, e, rfl, hsrc, by simp⟩
        · simp only [hsrc, Bool.false_or, Bool.and_eq_true, Bool.not_eq_true'] at h
          obtain ⟨newer, older, first, rfl, hf, hn⟩ := ih.mp h.2
          refine ⟨e :: newer, older, first, rfl, hf, ?_⟩
          intro e' he'
          rcases List.mem_cons.mp he' with rfl | he'
          · exact h.1
          · exact hn e' he'
      · rintro ⟨newer, older, first, heq, hf, hn⟩
        cases newer with
        | nil =>
            obtain ⟨rfl, rfl⟩ := List.cons.inj heq
            simp [hf]
        | cons e' newer =>
            obtain ⟨rfl, rfl⟩ := List.cons.inj heq
            have hrec : uncut source cut (newer ++ first :: older) = true :=
              ih.mpr ⟨newer, older, first, rfl, hf,
                fun x hx => hn x (List.mem_cons_of_mem _ hx)⟩
            simp [hn e List.mem_cons_self, hrec]

theorem everyPairCut_nil : EveryPairCut source cut target ([] : History ε) := by
  intro newer between older first second h
  simp at h

/-- **One event at a time**: a history stays cut exactly when a new
    `target` finds no uncut `source` before it. -/
theorem everyPairCut_cons (e : ε) (log : History ε) :
    EveryPairCut source cut target (e :: log) ↔
      EveryPairCut source cut target log
        ∧ (target e = true → uncut source cut log = false) := by
  constructor
  · intro h
    refine ⟨?_, ?_⟩
    · intro newer between older first second heq
      exact h (e :: newer) between older first second (by rw [heq]; rfl)
    · intro htgt
      by_contra hunc
      obtain ⟨newer, older, first, heq, hf, hn⟩ :=
        (uncut_eq_true_iff log).mp (by simpa using hunc)
      obtain ⟨c, hc, hcut⟩ := h [] newer older first e (by rw [heq]; rfl) hf htgt
      rw [hn c hc] at hcut
      cases hcut
  · rintro ⟨h, htgt⟩ newer between older first second heq hf hs
    cases newer with
    | nil =>
        obtain ⟨rfl, rfl⟩ := List.cons.inj heq
        by_contra hno
        have hunc : uncut source cut (between ++ first :: older) = true := by
          refine (uncut_eq_true_iff _).mpr ⟨between, older, first, rfl, hf, ?_⟩
          intro c hc
          by_contra hcut
          exact hno ⟨c, hc, by simpa using hcut⟩
        rw [htgt hs] at hunc
        cases hunc
    | cons e' newer =>
        obtain ⟨rfl, rfl⟩ := List.cons.inj heq
        exact h newer between older first second rfl hf hs

/-- An event that is no `target` keeps a cut history cut. -/
theorem EveryPairCut.cons_of_not_target {e : ε} {log : History ε}
    (h : EveryPairCut source cut target log) (he : target e = false) :
    EveryPairCut source cut target (e :: log) :=
  (everyPairCut_cons e log).mpr ⟨h, fun ht => by rw [he] at ht; cases ht⟩

/-! Facts about an event and the history before it. -/

/-- Every event met `P` with the history it was added to. -/
def Justified (P : ε → History ε → Prop) (log : History ε) : Prop :=
  ∀ newer older (e : ε), log = newer ++ e :: older → P e older

variable {P : ε → History ε → Prop}

theorem justified_nil : Justified P ([] : History ε) := by
  intro newer older e h
  simp at h

/-- **One event at a time**: only the new event has to be justified. -/
theorem justified_cons (e : ε) (log : History ε) :
    Justified P (e :: log) ↔ P e log ∧ Justified P log := by
  constructor
  · intro h
    refine ⟨h [] log e rfl, ?_⟩
    intro newer older e' heq
    exact h (e :: newer) older e' (by rw [heq]; rfl)
  · rintro ⟨he, hlog⟩ newer older e' heq
    cases newer with
    | nil =>
        obtain ⟨rfl, rfl⟩ := List.cons.inj heq
        exact he
    | cons e'' newer =>
        obtain ⟨rfl, rfl⟩ := List.cons.inj heq
        exact hlog newer older e' rfl

end History

end Cai.Lib
