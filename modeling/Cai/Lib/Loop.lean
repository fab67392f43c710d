/-
  Cai.Lib.Loop — `while` loops whose body can raise.

  Nothing bounds the number of rounds of such a loop, so it runs with fuel:
  `none` is a loop that has not come to an end.  Fuel only decides whether
  there is a result, not which one.

  Main results:
    * `whileLoop_inv` — the invariant rule.
    * `whileLoop_of_measure` — a loop with a measure comes to an end.
-/
import Cai.Lib.Fallible

namespace Cai.Lib

variable {ε : Type*} {σ : Type}

/-- `while cond(s): s = body(s)` -/
def whileLoop (cond : σ → Bool) (body : σ → Except ε σ) : Nat → σ → Option (Except ε σ)
  | 0, s => if cond s then none else some (.ok s)
  | fuel + 1, s =>
      if cond s then
        match body s with
        | .error e => some (.error e)
        | .ok s' => whileLoop cond body fuel s'
      else some (.ok s)

variable {cond : σ → Bool} {body : σ → Except ε σ} {fuel : Nat} {s s' : σ}

theorem whileLoop_done (h : cond s = false) : whileLoop cond body fuel s = some (.ok s) := by
  cases fuel with
  | zero =>
      unfold whileLoop
      rw [h]
      rfl
  | succ fuel =>
      unfold whileLoop
      rw [h]
      rfl

theorem whileLoop_zero (h : cond s = true) : whileLoop cond body 0 s = none := by
  unfold whileLoop
  rw [h]
  rfl

theorem whileLoop_step (h : cond s = true) (hbody : body s = .ok s') :
    whileLoop cond body (fuel + 1) s = whileLoop cond body fuel s' := by
  rw [whileLoop, h, if_pos rfl, hbody]

theorem whileLoop_raise {e : ε} (h : cond s = true) (hbody : body s = .error e) :
    whileLoop cond body (fuel + 1) s = some (.error e) := by
  rw [whileLoop, h, if_pos rfl, hbody]

/-- **The invariant rule.**  What the rounds keep holds at the end, where the
    condition fails. -/
theorem whileLoop_inv {Inv : σ → Prop}
    (hstep : ∀ s s', Inv s → cond s = true → body s = .ok s' → Inv s') (hs : Inv s)
    (h : whileLoop cond body fuel s = some (.ok s')) : Inv s' ∧ cond s' = false := by
  induction fuel generalizing s with
  | zero =>
      cases hcond : cond s with
      | false =>
          rw [whileLoop_done hcond] at h
          cases h
          exact ⟨hs, hcond⟩
      | true =>
          rw [whileLoop_zero hcond] at h
          cases h
  | succ fuel ih =>
      cases hcond : cond s with
      | false =>
          rw [whileLoop_done hcond] at h
          cases h
          exact ⟨hs, hcond⟩
      | true =>
          cases hbody : body s with
          | error e =>
              rw [whileLoop_raise hcond hbody] at h
              cases h
          | ok next =>
              rw [whileLoop_step hcond hbody] at h
              exact ih (hstep s next hs hcond hbody) h

/-- More fuel does not change a result. -/
theorem whileLoop_mono {result : Except ε σ} {more : Nat} (hle : fuel ≤ more)
    (h : whileLoop cond body fuel s = some result) : whileLoop cond body more s = some result := by
  induction fuel generalizing s more with
  | zero =>
      cases hcond : cond s with
      | false =>
          rw [whileLoop_done hcond] at h ⊢
          exact h
      | true =>
          rw [whileLoop_zero hcond] at h
          cases h
  | succ fuel ih =>
      cases hcond : cond s with
      | false =>
          rw [whileLoop_done hcond] at h ⊢
          exact h
      | true =>
          obtain ⟨k, rfl⟩ : ∃ k, more = k + 1 := ⟨more - 1, by omega⟩
          cases hbody : body s with
          | error e =>
              rw [whileLoop_raise hcond hbody] at h ⊢
              exact h
          | ok next =>
              rw [whileLoop_step hcond hbody] at h ⊢
              exact ih (by omega) h

/-- **A measure that every round decreases** is fuel enough. -/
theorem whileLoop_of_measure {Inv : σ → Prop} {measure : σ → Nat}
    (hstep : ∀ s s', Inv s → cond s = true → body s = .ok s' → Inv s')
    (hdecreases : ∀ s s', Inv s → cond s = true → body s = .ok s' → measure s' < measure s)
    (hs : Inv s) (hfuel : measure s < fuel) :
    ∃ result, whileLoop cond body fuel s = some result := by
  induction fuel generalizing s with
  | zero => omega
  | succ fuel ih =>
      cases hcond : cond s with
      | false => exact ⟨_, whileLoop_done hcond⟩
      | true =>
          cases hbody : body s with
          | error e => exact ⟨_, whileLoop_raise hcond hbody⟩
          | ok next =>
              rw [whileLoop_step hcond hbody]
              have hless := hdecreases s next hs hcond hbody
              exact ih (hstep s next hs hcond hbody) (by omega)

end Cai.Lib
