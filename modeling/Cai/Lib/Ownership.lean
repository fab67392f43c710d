/-
  Cai.Lib.Ownership — items that have one owner at most.

  An ownership says of each item who has it, if anyone.  In one step an
  owner gives up all it has and takes what it wants of the items that
  nobody else has (`retake`): who comes first keeps an item, so two owners
  need not commute.

  Main result: `retake_comm_iff`, the items that decide whether they do.
-/
import Mathlib.Data.Option.Basic

namespace Cai.Lib.Ownership

variable {ι ω : Type*} [DecidableEq ω]

/-- `c` gives up what it has, and takes the items it wants that nobody else has. -/
def retake (c : ω) (wanted : ι → Prop) [DecidablePred wanted] (owner : ι → Option ω) :
    ι → Option ω :=
  fun x =>
    if owner x = none ∨ owner x = some c then (if wanted x then some c else none) else owner x

/-! ## §1. One owner. -/

variable {c d e : ω} {wanted : ι → Prop} [DecidablePred wanted] {owner : ι → Option ω} {x : ι}

/-- An item that someone else has stays where it is. -/
theorem retake_of_other (h : owner x = some e) (hne : e ≠ c) :
    retake c wanted owner x = owner x := by
  unfold retake
  rw [if_neg]
  intro hfree
  rcases hfree with hnone | hself
  · rw [h] at hnone
    cases hnone
  · rw [h] at hself
    exact hne (Option.some.inj hself)

theorem retake_of_free (h : owner x = none ∨ owner x = some c) :
    retake c wanted owner x = if wanted x then some c else none := by
  unfold retake
  rw [if_pos h]

/-- What an owner has after it has taken. -/
theorem retake_eq_self_iff :
    retake c wanted owner x = some c ↔ wanted x ∧ (owner x = none ∨ owner x = some c) := by
  by_cases hfree : owner x = none ∨ owner x = some c
  · rw [retake_of_free hfree]
    simp [hfree]
  · unfold retake
    rw [if_neg hfree]
    exact ⟨fun h => absurd (.inr h) hfree, fun h => absurd h.2 hfree⟩

/-- What the others have. -/
theorem retake_eq_other_iff (hne : e ≠ c) :
    retake c wanted owner x = some e ↔ owner x = some e := by
  by_cases hfree : owner x = none ∨ owner x = some c
  · rw [retake_of_free hfree]
    constructor
    · intro h
      by_cases hw : wanted x
      · rw [if_pos hw] at h
        exact absurd (Option.some.inj h).symm hne
      · rw [if_neg hw] at h
        cases h
    · intro h
      rcases hfree with hnone | hself
      · rw [h] at hnone
        cases hnone
      · rw [h] at hself
        exact absurd (Option.some.inj hself) hne
  · unfold retake
    rw [if_neg hfree]

/-! ## §2. Two owners. -/

variable {wanted' : ι → Prop} [DecidablePred wanted']

/-- An item about which `c` and `d` cannot get in each other's way: it has an
    owner if both want it, and if one alone wants it, the other does not have it. -/
structure Undisputed (c d : ω) (wanted wanted' : ι → Prop) (owner : ι → Option ω) (x : ι) :
    Prop where
  both : wanted x → wanted' x → owner x ≠ none
  first : wanted x → ¬wanted' x → owner x ≠ some d
  second : wanted' x → ¬wanted x → owner x ≠ some c

/-- The two orders on an item that a third owner has. -/
theorem retake_comm_of_other (h : owner x = some e) (hc : e ≠ c) (hd : e ≠ d) :
    retake d wanted' (retake c wanted owner) x = retake c wanted (retake d wanted' owner) x := by
  have hfirst : retake c wanted owner x = some e := (retake_of_other h hc).trans h
  have hsecond : retake d wanted' owner x = some e := (retake_of_other h hd).trans h
  rw [retake_of_other hfirst hd, retake_of_other hsecond hc, hfirst, hsecond]

/-- The two orders on an item that `c` has: `d` waits for `c` to give it up. -/
theorem retake_comm_of_self (hne : c ≠ d) (h : owner x = some c) :
    retake d wanted' (retake c wanted owner) x = retake c wanted (retake d wanted' owner) x
      ↔ (wanted' x → wanted x) := by
  have hfirst : retake c wanted owner x = if wanted x then some c else none :=
    retake_of_free (.inr h)
  have hkept : retake d wanted' owner x = some c := (retake_of_other h hne).trans h
  rw [retake_of_free (.inr hkept)]
  by_cases hw : wanted x
  · rw [if_pos hw] at hfirst ⊢
    rw [retake_of_other hfirst hne, hfirst]
    exact iff_of_true rfl fun _ => hw
  · rw [if_neg hw] at hfirst ⊢
    rw [retake_of_free (.inl hfirst)]
    by_cases hw' : wanted' x
    · simp [hw, hw']
    · simp [hw']

/-- The two orders on an item that nobody has: the first one gets it. -/
theorem retake_comm_of_none (hne : c ≠ d) (h : owner x = none) :
    retake d wanted' (retake c wanted owner) x = retake c wanted (retake d wanted' owner) x
      ↔ ¬(wanted x ∧ wanted' x) := by
  have hfirst : retake c wanted owner x = if wanted x then some c else none :=
    retake_of_free (.inl h)
  have hsecond : retake d wanted' owner x = if wanted' x then some d else none :=
    retake_of_free (.inl h)
  by_cases hw : wanted x
  · rw [if_pos hw] at hfirst
    rw [retake_of_other hfirst hne, hfirst]
    by_cases hw' : wanted' x
    · rw [if_pos hw'] at hsecond
      rw [retake_of_other hsecond hne.symm, hsecond]
      simp [hw, hw', hne]
    · rw [if_neg hw'] at hsecond
      rw [retake_of_free (.inl hsecond)]
      simp [hw, hw']
  · rw [if_neg hw] at hfirst
    rw [retake_of_free (.inl hfirst)]
    by_cases hw' : wanted' x
    · rw [if_pos hw'] at hsecond ⊢
      rw [retake_of_other hsecond hne.symm, hsecond]
      simp [hw]
    · rw [if_neg hw'] at hsecond ⊢
      rw [retake_of_free (.inl hsecond)]
      simp [hw]

/-- **Two owners commute iff no item is disputed.** -/
theorem retake_comm_iff (hne : c ≠ d) :
    (∀ x, retake d wanted' (retake c wanted owner) x = retake c wanted (retake d wanted' owner) x)
      ↔ ∀ x, Undisputed c d wanted wanted' owner x := by
  refine forall_congr' fun x => ?_
  cases h : owner x with
  | none =>
      rw [retake_comm_of_none hne h]
      constructor
      · intro hnot
        exact ⟨fun hw hw' => absurd ⟨hw, hw'⟩ hnot, fun _ _ => by simp [h], fun _ _ => by simp [h]⟩
      · intro hx hboth
        exact hx.both hboth.1 hboth.2 h
  | some e =>
      by_cases hc : e = c
      · rw [hc] at h
        rw [retake_comm_of_self hne h]
        constructor
        · intro himp
          refine ⟨fun _ _ => by simp [h], fun _ _ => by simp [h, hne], fun hw' hw => ?_⟩
          exact absurd (himp hw') hw
        · intro hx hw'
          by_contra hw
          exact hx.second hw' hw h
      · by_cases hd : e = d
        · -- the same, with the owners exchanged
          rw [hd] at h
          rw [eq_comm, retake_comm_of_self hne.symm h]
          constructor
          · intro himp
            refine ⟨fun _ _ => by simp [h], fun hw hw' => ?_, fun _ _ => by simp [h, hne.symm]⟩
            exact absurd (himp hw) hw'
          · intro hx hw
            by_contra hw'
            exact hx.first hw hw' h
        · refine iff_of_true (retake_comm_of_other h hc hd) ?_
          exact ⟨fun _ _ => by simp [h], fun _ _ => by simp [h, hd], fun _ _ => by simp [h, hc]⟩

end Cai.Lib.Ownership
