/-
  Cai.Lib.Fallible — computations that return or raise.

  A function that raises is modelled in `Except ε`; a transaction that
  raises leaves its tables as they were.  The lemmas take a computation
  that returned apart: each part of it returned, and each check passed.
-/
import Mathlib.Tactic.Common

namespace Cai.Lib

variable {ε : Type*} {α β : Type}

/-- A sequence returns exactly when both of its parts do. -/
theorem bind_eq_ok_iff {x : Except ε α} {f : α → Except ε β} {b : β} :
    x >>= f = .ok b ↔ ∃ a, x = .ok a ∧ f a = .ok b := by
  cases x with
  | error e =>
      constructor
      · intro h
        cases h
      · rintro ⟨a, h, -⟩
        cases h
  | ok a =>
      constructor
      · exact fun h => ⟨a, rfl, h⟩
      · rintro ⟨a', h, hf⟩
        injection h with h
        rw [h]
        exact hf

theorem pure_eq_ok_iff {a b : α} : (pure a : Except ε α) = .ok b ↔ a = b := by
  constructor
  · intro h
    injection h
  · rintro rfl
    rfl

theorem mapError_eq_ok_iff {ε' : Type*} {x : Except ε α} {f : ε → ε'} {a : α} :
    x.mapError f = .ok a ↔ x = .ok a := by
  cases x with
  | error e =>
      constructor
      · intro h
        cases h
      · intro h
        cases h
  | ok b =>
      show Except.ok b = .ok a ↔ _
      rw [Except.ok.injEq, Except.ok.injEq]

/-- A value that is returned under a condition. -/
theorem guarded_eq_ok_iff {p : Prop} [Decidable p] {a b : α} {e : ε} :
    (if p then .ok a else .error e : Except ε α) = .ok b ↔ p ∧ b = a := by
  by_cases h : p
  · rw [if_pos h]
    constructor
    · intro heq
      injection heq with heq
      exact ⟨h, heq.symm⟩
    · intro ⟨_, heq⟩
      rw [heq]
  · rw [if_neg h]
    constructor
    · intro heq
      cases heq
    · intro ⟨hp, _⟩
      exact absurd hp h

/-- A check that raises. -/
theorem refused_eq_ok_iff {p : Prop} [Decidable p] {e : ε} {x : Except ε α} {a : α} :
    (if p then .error e else x) = .ok a ↔ ¬p ∧ x = .ok a := by
  by_cases h : p
  · rw [if_pos h]
    constructor
    · intro heq
      cases heq
    · intro ⟨hnot, _⟩
      exact absurd h hnot
  · rw [if_neg h]
    exact ⟨fun heq => ⟨h, heq⟩, fun ⟨_, heq⟩ => heq⟩

/-- Raise `e` unless the check passes. -/
def require (p : Prop) [Decidable p] (e : ε) : Except ε Unit := if p then .ok () else .error e

theorem require_eq_ok_iff {p : Prop} [Decidable p] {e : ε} {u : Unit} :
    require p e = .ok u ↔ p := by
  unfold require
  by_cases h : p
  · simp [h]
  · simp [h]

/-- A loop that returned kept what each of its rounds keeps. -/
theorem foldlM_ok {f : α → β → Except ε α} {P : α → Prop} {l : List β} {a a' : α}
    (hstep : ∀ a b a', b ∈ l → P a → f a b = .ok a' → P a') (ha : P a)
    (h : l.foldlM f a = .ok a') : P a' := by
  induction l generalizing a with
  | nil =>
      rw [← pure_eq_ok_iff.mp h]
      exact ha
  | cons b l ih =>
      rw [List.foldlM_cons] at h
      obtain ⟨a₁, h₁, h⟩ := bind_eq_ok_iff.mp h
      exact ih (fun a c a' hc => hstep a c a' (List.mem_cons_of_mem _ hc))
        (hstep a b a₁ List.mem_cons_self ha h₁) h

/-- A loop that returned did what its rounds do when they return. -/
theorem foldlM_ok_foldl {f : α → β → Except ε α} {g : α → β → α}
    (hstep : ∀ a b a', f a b = .ok a' → a' = g a b) {l : List β} {a a' : α}
    (h : l.foldlM f a = .ok a') : a' = l.foldl g a := by
  induction l generalizing a with
  | nil => exact (pure_eq_ok_iff.mp h).symm
  | cons b l ih =>
      rw [List.foldlM_cons] at h
      obtain ⟨a₁, hfirst, hloop⟩ := bind_eq_ok_iff.mp h
      rw [List.foldl_cons, ← hstep a b a₁ hfirst]
      exact ih hloop

/-- A loop whose rounds return under a condition returns exactly when all of
    them do. -/
theorem foldlM_eq_ok_iff {f : α → β → Except ε α} {g : α → β → α} {P : β → Prop} {l : List β}
    (h : ∀ b ∈ l, ∀ a a', f a b = .ok a' ↔ P b ∧ a' = g a b) {a a' : α} :
    l.foldlM f a = .ok a' ↔ (∀ b ∈ l, P b) ∧ a' = l.foldl g a := by
  induction l generalizing a with
  | nil =>
      rw [List.foldlM_nil, pure_eq_ok_iff]
      exact ⟨fun heq => ⟨fun b hb => absurd hb List.not_mem_nil, heq.symm⟩, fun heq => heq.2.symm⟩
  | cons b l ih =>
      have hrest : ∀ {a₁ : α}, l.foldlM f a₁ = .ok a' ↔ (∀ c ∈ l, P c) ∧ a' = l.foldl g a₁ :=
        ih fun c hc => h c (List.mem_cons_of_mem b hc)
      rw [List.foldlM_cons, bind_eq_ok_iff, List.foldl_cons, List.forall_mem_cons]
      constructor
      · rintro ⟨a₁, hfirst, hloop⟩
        obtain ⟨hb, rfl⟩ := (h b List.mem_cons_self a a₁).mp hfirst
        obtain ⟨hl, ha'⟩ := hrest.mp hloop
        exact ⟨⟨hb, hl⟩, ha'⟩
      · rintro ⟨⟨hb, hl⟩, ha'⟩
        exact ⟨g a b, (h b List.mem_cons_self a _).mpr ⟨hb, rfl⟩, hrest.mpr ⟨hl, ha'⟩⟩

/-- A loop that returns has treated every item. -/
theorem length_of_mapM_eq_ok {f : α → Except ε β} {l : List α} {l' : List β} (h : l.mapM f = .ok l') :
    l'.length = l.length := by
  induction l generalizing l' with
  | nil =>
      rw [List.mapM_nil, pure_eq_ok_iff] at h
      rw [← h]
      rfl
  | cons a l ih =>
      rw [List.mapM_cons] at h
      obtain ⟨b, -, h⟩ := bind_eq_ok_iff.mp h
      obtain ⟨bs, hbs, h⟩ := bind_eq_ok_iff.mp h
      rw [← pure_eq_ok_iff.mp h, List.length_cons, List.length_cons, ih hbs]

/-- What a loop returned, it returned of its items. -/
theorem exists_of_mem_mapM {f : α → Except ε β} {l : List α} {l' : List β} {b : β}
    (h : l.mapM f = .ok l') (hb : b ∈ l') : ∃ a ∈ l, f a = .ok b := by
  induction l generalizing l' with
  | nil =>
      rw [List.mapM_nil, pure_eq_ok_iff] at h
      rw [← h] at hb
      exact absurd hb List.not_mem_nil
  | cons a l ih =>
      rw [List.mapM_cons] at h
      obtain ⟨first, hfirst, h⟩ := bind_eq_ok_iff.mp h
      obtain ⟨bs, hbs, h⟩ := bind_eq_ok_iff.mp h
      rw [← pure_eq_ok_iff.mp h] at hb
      rcases List.mem_cons.mp hb with heq | hmem
      · exact ⟨a, List.mem_cons_self, by rw [heq, hfirst]⟩
      · obtain ⟨a', ha', hfa'⟩ := ih hbs hmem
        exact ⟨a', List.mem_cons_of_mem a ha', hfa'⟩

/-- A function that returns under a condition returns on a list exactly when it
    does at every element. -/
theorem mapM_eq_ok_iff {f : α → Except ε β} {g : α → β} {P : α → Prop} {l : List α}
    (h : ∀ a ∈ l, ∀ b, f a = .ok b ↔ P a ∧ b = g a) {l' : List β} :
    l.mapM f = .ok l' ↔ (∀ a ∈ l, P a) ∧ l' = l.map g := by
  induction l generalizing l' with
  | nil =>
      rw [List.mapM_nil, pure_eq_ok_iff]
      exact ⟨fun heq => ⟨fun a ha => absurd ha List.not_mem_nil, heq.symm⟩, fun heq => heq.2.symm⟩
  | cons a l ih =>
      have hrest : ∀ {bs : List β}, l.mapM f = .ok bs ↔ (∀ c ∈ l, P c) ∧ bs = l.map g :=
        ih fun c hc => h c (List.mem_cons_of_mem a hc)
      rw [List.mapM_cons, bind_eq_ok_iff, List.forall_mem_cons, List.map_cons]
      constructor
      · intro ⟨b, hb, hloop⟩
        obtain ⟨bs, hbs, heq⟩ := bind_eq_ok_iff.mp hloop
        obtain ⟨ha, rfl⟩ := (h a List.mem_cons_self b).mp hb
        obtain ⟨hl, rfl⟩ := hrest.mp hbs
        exact ⟨⟨ha, hl⟩, (pure_eq_ok_iff.mp heq).symm⟩
      · intro ⟨⟨ha, hl⟩, heq⟩
        refine ⟨g a, (h a List.mem_cons_self _).mpr ⟨ha, rfl⟩, ?_⟩
        exact bind_eq_ok_iff.mpr ⟨l.map g, hrest.mpr ⟨hl, rfl⟩, pure_eq_ok_iff.mpr heq.symm⟩

theorem forM_eq_ok_iff {f : β → Except ε Unit} {l : List β} :
    l.forM f = .ok () ↔ ∀ b ∈ l, f b = .ok () := by
  induction l with
  | nil => exact ⟨fun _ b hb => absurd hb List.not_mem_nil, fun _ => rfl⟩
  | cons b l ih =>
      have hcons : (b :: l).forM f = (f b >>= fun _ => l.forM f) := rfl
      rw [hcons, bind_eq_ok_iff, List.forall_mem_cons, ih]
      exact ⟨fun ⟨_, hb, hl⟩ => ⟨hb, hl⟩, fun ⟨hb, hl⟩ => ⟨(), hb, hl⟩⟩

/-- A block in a transaction of its own: when it raises, nothing of it is kept. -/
def committed (before : α) (result : Except ε α) : α :=
  match result with
  | .ok after => after
  | .error _ => before

@[simp] theorem committed_ok {before after : α} :
    committed before (.ok after : Except ε α) = after := rfl

@[simp] theorem committed_error {before : α} {e : ε} :
    committed before (.error e : Except ε α) = before := rfl

/-- The tables after a transaction: those of before when it raised. -/
def tablesAfter (before : α) (result : Except ε (α × β)) : α :=
  match result with
  | .ok (after, _) => after
  | .error _ => before

@[simp] theorem tablesAfter_ok {before after : α} {b : β} :
    tablesAfter before (.ok (after, b) : Except ε (α × β)) = after := rfl

@[simp] theorem tablesAfter_error {before : α} {e : ε} :
    tablesAfter before (.error e : Except ε (α × β)) = before := rfl

/-- A computation that returned, from what is observed of its result. -/
theorem exists_ok_of_toOption {γ : Type} {x : Except ε α} {f : α → γ} {c : γ}
    (h : x.toOption.map f = some c) : ∃ a, x = .ok a ∧ f a = c := by
  cases x with
  | error e => cases h
  | ok a => exact ⟨a, rfl, Option.some.inj h⟩

/-- The error of an evaluated result. -/
theorem eq_error_of_map {γ : Type} {x : Except ε α} {f : α → γ} {e : ε} (h : x.map f = .error e) :
    x = .error e := by
  cases x with
  | ok a => cases h
  | error e' => exact congrArg Except.error (Except.error.inj h)

/-- The same where the state is returned in either case. -/
theorem exists_ok_of_map {σ γ : Type} {x : σ × Except ε α} {f : α → γ} {c : γ}
    (h : x.2.toOption.map f = some c) : ∃ a, x = (x.1, .ok a) ∧ f a = c := by
  obtain ⟨s, outcome⟩ := x
  cases outcome with
  | error e => cases h
  | ok a => exact ⟨a, rfl, Option.some.inj h⟩

end Cai.Lib
