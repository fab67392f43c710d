/-
  Cai.Lib.Restart — a sequence of writes that is cut off and started again.

  Each write changes a part of the state that is its own.  What it writes
  may depend on the clock, and `Alike` forgets what comes from the clock.
  A sequence that was cut off, any number of times and anywhere, and is at
  last made from its beginning to its end leaves what one undisturbed
  sequence leaves.

  Main result: `restarts`.
-/
import Mathlib.Data.List.Nodup
import Mathlib.Logic.Function.Basic

namespace Cai.Lib

variable {ι τ : Type} {σ : ι → Type}

/-! ## §1. Writes. -/

/-- A write of one part, at a reading of the clock. -/
structure Write (τ : Type) (σ : ι → Type) where
  part : ι
  write : τ → σ part → σ part

variable [DecidableEq ι] {w : Write τ σ} {ws made : List (Write τ σ)} {s : ∀ i, σ i} {t t' : τ}

def Write.run (w : Write τ σ) (t : τ) (s : ∀ i, σ i) : ∀ i, σ i :=
  Function.update s w.part (w.write t (s w.part))

/-- The writes, one after another. -/
def runWrites (t : τ) (ws : List (Write τ σ)) (s : ∀ i, σ i) : ∀ i, σ i :=
  ws.foldl (fun s w => w.run t s) s

theorem runWrites_of_not_mem {i : ι} (h : i ∉ ws.map (·.part)) : runWrites t ws s i = s i := by
  induction ws generalizing s with
  | nil => rfl
  | cons w ws ih =>
      rw [List.map_cons, List.mem_cons, not_or] at h
      show runWrites t ws (w.run t s) i = s i
      rw [ih h.2]
      exact Function.update_of_ne h.1 _ _

/-- A part is written once. -/
theorem runWrites_of_mem (hparts : (ws.map (·.part)).Nodup) (h : w ∈ ws) :
    runWrites t ws s w.part = w.write t (s w.part) := by
  induction ws generalizing s with
  | nil => exact absurd h List.not_mem_nil
  | cons v ws ih =>
      rw [List.map_cons, List.nodup_cons] at hparts
      show runWrites t ws (v.run t s) w.part = _
      rcases List.mem_cons.mp h with rfl | hrest
      · rw [runWrites_of_not_mem hparts.1]
        exact Function.update_self _ _ _
      · have hne : w.part ≠ v.part :=
          fun heq => hparts.1 (heq ▸ List.mem_map.mpr ⟨w, hrest, rfl⟩)
        rw [ih hparts.2 hrest]
        show w.write t (Function.update s v.part (v.write t (s v.part)) w.part) = _
        rw [Function.update_of_ne hne]

/-! ## §2. Starting again. -/

variable {Alike : ∀ i, σ i → σ i → Prop}

/-- Up to the clock, the write is a function of the part, and made again it changes nothing. -/
structure Write.Repeatable (Alike : ∀ i, σ i → σ i → Prop) (w : Write τ σ) : Prop where
  timeless : ∀ t t' x, Alike w.part (w.write t x) (w.write t' x)
  again : ∀ t t' x, Alike w.part (w.write t' (w.write t x)) (w.write t x)

omit [DecidableEq ι] in
/-- However often a write is made again. -/
theorem Write.Repeatable.foldl (h : w.Repeatable Alike) (hequiv : ∀ i, Equivalence (Alike i))
    (ts : List τ) (x : σ w.part) :
    Alike w.part (ts.foldl (fun x t => w.write t x) (w.write t x)) (w.write t x) := by
  induction ts generalizing t x with
  | nil => exact (hequiv _).refl _
  | cons t' ts ih => exact (hequiv _).trans (ih (w.write t x)) (h.again t t' x)

/-- An attempt: its reading of the clock, and the writes it makes before it is cut off. -/
abbrev Attempt (τ : Type) (σ : ι → Type) := τ × List (Write τ σ)

def runAttempts (attempts : List (Attempt τ σ)) (s : ∀ i, σ i) : ∀ i, σ i :=
  attempts.foldl (fun s attempt => runWrites attempt.1 attempt.2 s) s

variable {attempts : List (Attempt τ σ)}

theorem runAttempts_of_not_mem {i : ι} (hsub : ∀ attempt ∈ attempts, attempt.2.Sublist ws)
    (h : i ∉ ws.map (·.part)) : runAttempts attempts s i = s i := by
  induction attempts generalizing s with
  | nil => rfl
  | cons attempt attempts ih =>
      have hfirst : attempt.2.Sublist ws := hsub attempt List.mem_cons_self
      show runAttempts attempts (runWrites attempt.1 attempt.2 s) i = s i
      rw [ih fun a ha => hsub a (List.mem_cons_of_mem _ ha)]
      exact runWrites_of_not_mem fun hmem => h ((hfirst.map _).subset hmem)

/-- What the attempts make of the part of a write: they make it some number of times. -/
theorem runAttempts_of_mem (hparts : (ws.map (·.part)).Nodup)
    (hsub : ∀ attempt ∈ attempts, attempt.2.Sublist ws) (h : w ∈ ws) :
    ∃ ts : List τ, runAttempts attempts s w.part = ts.foldl (fun x t => w.write t x) (s w.part) := by
  induction attempts generalizing s with
  | nil => exact ⟨[], rfl⟩
  | cons attempt attempts ih =>
      have hfirst : attempt.2.Sublist ws := hsub attempt List.mem_cons_self
      obtain ⟨ts, hts⟩ := ih (s := runWrites attempt.1 attempt.2 s)
        fun a ha => hsub a (List.mem_cons_of_mem _ ha)
      by_cases hmade : w ∈ attempt.2
      · refine ⟨attempt.1 :: ts, hts.trans ?_⟩
        rw [runWrites_of_mem ((hfirst.map _).nodup hparts) hmade]
        rfl
      · refine ⟨ts, hts.trans ?_⟩
        -- no other write has the part of this one
        have hpart : w.part ∉ attempt.2.map (·.part) := by
          intro hmem
          obtain ⟨v, hv, heq⟩ := List.mem_map.mp hmem
          exact hmade (List.inj_on_of_nodup_map hparts (hfirst.subset hv) h heq ▸ hv)
        rw [runWrites_of_not_mem hpart]

/-- **Started again.**  After any attempts that were cut off, the whole sequence leaves what it
    leaves undisturbed. -/
theorem restarts (hequiv : ∀ i, Equivalence (Alike i)) (hparts : (ws.map (·.part)).Nodup)
    (hall : ∀ w ∈ ws, w.Repeatable Alike) (hsub : ∀ attempt ∈ attempts, attempt.2.Sublist ws)
    (s : ∀ i, σ i) (t t' : τ) (i : ι) :
    Alike i (runWrites t' ws (runAttempts attempts s) i) (runWrites t ws s i) := by
  by_cases hi : i ∈ ws.map (·.part)
  · obtain ⟨w, hw, rfl⟩ := List.mem_map.mp hi
    obtain ⟨ts, hts⟩ := runAttempts_of_mem (s := s) hparts hsub hw
    rw [runWrites_of_mem hparts hw, runWrites_of_mem hparts hw, hts]
    cases ts with
    | nil => exact (hall w hw).timeless t' t (s w.part)
    | cons t₁ ts =>
        -- the first time counts, all the others repeat it
        have hmany := (hall w hw).foldl hequiv (t := t₁) (ts ++ [t']) (s w.part)
        rw [List.foldl_append] at hmany
        exact (hequiv _).trans hmany ((hall w hw).timeless t₁ t (s w.part))
  · rw [runWrites_of_not_mem hi, runWrites_of_not_mem hi, runAttempts_of_not_mem hsub hi]
    exact (hequiv i).refl _

end Cai.Lib
