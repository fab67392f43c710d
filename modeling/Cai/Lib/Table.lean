/-
  Cai.Lib.Table — a SQL table as the list of its rows.

  Rows are kept in the order of insertion.  A column with a UNIQUE
  constraint is a key function to `Option`, because NULL never conflicts;
  a partial unique index is a key that is `none` outside the index.
-/
import Mathlib.Data.List.MinMax
import Mathlib.Data.Prod.Lex

namespace Cai.Lib.Table

variable {ρ κ γ : Type*}

/-- SELECT … WHERE `p`: the first matching row. -/
def select (p : ρ → Bool) (rows : List ρ) : Option ρ := rows.find? p

/-- UPDATE … SET `f` WHERE `p`. -/
def update (p : ρ → Bool) (f : ρ → ρ) (rows : List ρ) : List ρ :=
  rows.map fun r => if p r then f r else r

/-- INSERT. -/
def insert (rows : List ρ) (r : ρ) : List ρ := rows ++ [r]

/-- UNIQUE (`key`). -/
def Unique (key : ρ → Option κ) (rows : List ρ) : Prop :=
  rows.Pairwise fun a b => ∀ k, key a = some k → key b ≠ some k

/-! ## §1. Rows of an updated table. -/

variable {p : ρ → Bool} {f : ρ → ρ} {rows : List ρ} {r : ρ}

theorem select_mem (h : select p rows = some r) : r ∈ rows ∧ p r = true :=
  ⟨List.mem_of_find?_eq_some h, List.find?_some h⟩

theorem select_none (h : select p rows = none) : ∀ r ∈ rows, p r = false := by
  intro r hr
  simpa using List.find?_eq_none.mp h r hr

theorem mem_update (h : r ∈ update p f rows) :
    ∃ r₀ ∈ rows, (p r₀ = true ∧ r = f r₀) ∨ (p r₀ = false ∧ r = r₀) := by
  obtain ⟨r₀, hr₀, rfl⟩ := List.mem_map.mp h
  refine ⟨r₀, hr₀, ?_⟩
  by_cases hp : p r₀ = true
  · exact .inl ⟨hp, by rw [if_pos hp]⟩
  · exact .inr ⟨by simpa using hp, by rw [if_neg hp]⟩

theorem mem_update_of_mem (h : r ∈ rows) :
    (if p r then f r else r) ∈ update p f rows :=
  List.mem_map.mpr ⟨r, h, rfl⟩

@[simp] theorem length_update : (update p f rows).length = rows.length := List.length_map _

/-- A column that the update leaves alone in the rows it matches. -/
theorem map_update_of_mem {g : ρ → γ} (h : ∀ r ∈ rows, p r = true → g (f r) = g r) :
    (update p f rows).map g = rows.map g := by
  simp only [update, List.map_map]
  refine List.map_congr_left fun r hr => ?_
  by_cases hp : p r = true
  · simp [hp, h r hr hp]
  · simp [hp]

/-- A column that the update does not write. -/
theorem map_update {g : ρ → γ} (h : ∀ r, p r = true → g (f r) = g r) :
    (update p f rows).map g = rows.map g :=
  map_update_of_mem fun r _ hp => h r hp

/-- Selecting by a column that the update does not write. -/
theorem filter_update {q : ρ → Bool} (h : ∀ r, p r = true → q (f r) = q r) :
    (update p f rows).filter q = update p f (rows.filter q) := by
  induction rows with
  | nil => rfl
  | cons a rows ih =>
      have hq : q (if p a then f a else a) = q a := by
        by_cases hp : p a = true
        · simp [hp, h a hp]
        · simp [hp]
      by_cases ha : q a = true
      · rw [show update p f (a :: rows) = (if p a then f a else a) :: update p f rows from rfl,
          List.filter_cons_of_pos (hq.trans ha), ih, List.filter_cons_of_pos ha]
        rfl
      · rw [show update p f (a :: rows) = (if p a then f a else a) :: update p f rows from rfl,
          List.filter_cons_of_neg (by rw [hq]; exact ha), ih, List.filter_cons_of_neg ha]

/-! ## §2. The latest row. -/

section Latest

variable {τ : Type*} [LinearOrder τ] {time : ρ → τ} {id : ρ → Nat}

/-- The key of ORDER BY `time`, `id`. -/
def orderKey (time : ρ → τ) (id : ρ → Nat) (r : ρ) : τ ×ₗ Nat := toLex (time r, id r)

/-- SELECT … WHERE `p` ORDER BY `time` DESC, `id` DESC LIMIT 1. -/
def latest (p : ρ → Bool) (time : ρ → τ) (id : ρ → Nat) (rows : List ρ) : Option ρ :=
  (rows.filter p).argmax (orderKey time id)

theorem latest_mem (h : latest p time id rows = some r) : r ∈ rows ∧ p r = true :=
  List.mem_filter.mp (List.argmax_mem h)

theorem latest_none_iff : latest p time id rows = none ↔ ∀ a ∈ rows, p a = false := by
  unfold latest
  rw [List.argmax_eq_none, List.filter_eq_nil_iff]
  simp

/-- No matching row is later than the latest. -/
theorem latest_le (h : latest p time id rows = some r) {a : ρ} (ha : a ∈ rows)
    (hp : p a = true) : time a ≤ time r := by
  have hmem : a ∈ rows.filter p := List.mem_filter.mpr ⟨ha, hp⟩
  have hle : orderKey time id a ≤ orderKey time id r := List.le_of_mem_argmax hmem h
  rcases Prod.Lex.toLex_le_toLex.mp hle with hlt | ⟨heq, -⟩
  · exact le_of_lt hlt
  · exact le_of_eq heq

end Latest

/-! ## §3. Unique columns. -/

variable {key : ρ → Option κ}

theorem Unique.eq_of_key (h : Unique key rows) {a b : ρ} {k : κ} (ha : a ∈ rows) (hb : b ∈ rows)
    (hka : key a = some k) (hkb : key b = some k) : a = b := by
  induction rows with
  | nil => cases ha
  | cons c rows ih =>
      obtain ⟨hc, hrest⟩ := List.pairwise_cons.mp h
      rcases List.mem_cons.mp ha with hac | ha' <;> rcases List.mem_cons.mp hb with hbc | hb'
      · rw [hac, hbc]
      · exact absurd hkb (hc b hb' k (hac ▸ hka))
      · exact absurd hka (hc a ha' k (hbc ▸ hkb))
      · exact ih hrest ha' hb'

/-- **At most one row per key.** -/
theorem Unique.length_filter_le [DecidableEq κ] (h : Unique key rows) (k : κ) :
    (rows.filter fun r => key r == some k).length ≤ 1 := by
  induction rows with
  | nil => simp
  | cons a rows ih =>
      obtain ⟨ha, hrest⟩ := List.pairwise_cons.mp h
      by_cases hk : key a = some k
      · have hnone : rows.filter (fun r => key r == some k) = [] := by
          refine List.filter_eq_nil_iff.mpr fun r hr => ?_
          simpa using ha r hr k hk
        rw [List.filter_cons_of_pos (by simpa using hk), hnone]
        exact Nat.le_refl 1
      · rw [List.filter_cons_of_neg (by simpa using hk)]
        exact ih hrest

/-- A key is unique when it is a function of columns in which the rows agree
    with those of another table. -/
theorem Unique.of_map {σ : Type*} {rows' : List σ} {key' : σ → Option κ}
    (h : Unique key rows) (hmap : rows'.map key' = rows.map key) : Unique key' rows' := by
  have hpair : (rows.map key).Pairwise fun a b => ∀ k, a = some k → b ≠ some k :=
    List.pairwise_map.mpr h
  rw [← hmap] at hpair
  exact List.pairwise_map.mp hpair

/-- An INSERT whose key no row has. -/
theorem Unique.insert (h : Unique key rows)
    (hfresh : ∀ k, key r = some k → ∀ a ∈ rows, key a ≠ some k) :
    Unique key (Table.insert rows r) := by
  refine List.pairwise_append.mpr ⟨h, List.pairwise_singleton _ _, ?_⟩
  intro a ha b hb k hka hkb
  rw [List.mem_singleton.mp hb] at hkb
  exact hfresh k hkb a ha hka

/-- An UPDATE of at most one row, to a key that no other row has. -/
theorem Unique.update (h : Unique key rows)
    (hone : ∀ a ∈ rows, ∀ b ∈ rows, p a = true → p b = true → a = b)
    (hnodup : rows.Nodup)
    (hfresh : ∀ a ∈ rows, p a = true → ∀ k, key (f a) = some k → ∀ b ∈ rows, p b = false →
      key b ≠ some k) :
    Unique key (Table.update p f rows) := by
  induction rows with
  | nil => exact List.Pairwise.nil
  | cons a rows ih =>
      obtain ⟨ha, hrest⟩ := List.pairwise_cons.mp h
      obtain ⟨hane, hnodup'⟩ := List.nodup_cons.mp hnodup
      refine List.pairwise_cons.mpr ⟨?_, ih hrest ?_ hnodup' ?_⟩
      · intro b hb k hka hkb
        obtain ⟨b₀, hb₀, ⟨hpb, rfl⟩ | ⟨hpb, rfl⟩⟩ := mem_update hb
        · -- the updated row is `b₀`, so the head is not updated
          have hpa : p a = false := by
            by_contra hpa
            have heq : a = b₀ := hone a List.mem_cons_self b₀ (List.mem_cons_of_mem _ hb₀)
              (by simpa using hpa) hpb
            exact hane (heq ▸ hb₀)
          have hka : key a = some k := by simpa [hpa] using hka
          exact hfresh b₀ (List.mem_cons_of_mem _ hb₀) hpb k hkb a List.mem_cons_self hpa hka
        · by_cases hpa : p a = true
          · have hka : key (f a) = some k := by simpa [hpa] using hka
            exact hfresh a List.mem_cons_self hpa k hka b (List.mem_cons_of_mem _ hb₀) hpb hkb
          · have hka : key a = some k := by simpa [hpa] using hka
            exact ha b hb₀ k hka hkb
      · exact fun x hx y hy => hone x (List.mem_cons_of_mem _ hx) y (List.mem_cons_of_mem _ hy)
      · exact fun x hx hpx k hk y hy => hfresh x (List.mem_cons_of_mem _ hx) hpx k hk y
          (List.mem_cons_of_mem _ hy)

end Cai.Lib.Table
