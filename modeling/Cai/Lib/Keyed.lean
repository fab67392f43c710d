/-
  Cai.Lib.Keyed — a SQL table with a surrogate id and one natural key.

  The ids grow with the order of insertion and no two rows share a key:
  both facts are fields of the table, so that every statement below has to
  keep them.  A row is found by its key or by its id; INSERT … ON CONFLICT
  DO NOTHING, INSERT … ON CONFLICT DO UPDATE and UPDATE are described by
  what they do to those two lookups.
-/
import Mathlib.Data.List.Nodup
import Mathlib.Tactic.Common

namespace Cai.Lib

/-- A row: its surrogate id, its natural key and its other columns. -/
structure Entry (κ ν : Type*) where
  id : Nat
  key : κ
  value : ν
  deriving DecidableEq, Repr

/-- A table of such rows, in the order of insertion. -/
structure Keyed (κ ν : Type*) where
  rows : List (Entry κ ν)
  ids : (rows.map (·.id)).Pairwise (· < ·)
  keys : (rows.map (·.key)).Nodup

namespace Keyed

variable {κ ν : Type*}

@[ext] theorem ext {t t' : Keyed κ ν} (h : t.rows = t'.rows) : t = t' := by
  cases t
  cases t'
  congr

instance [DecidableEq κ] [DecidableEq ν] : DecidableEq (Keyed κ ν) := fun t t' =>
  decidable_of_iff (t.rows = t'.rows) ⟨ext, fun h => h ▸ rfl⟩

/-- The empty table. -/
def empty : Keyed κ ν := ⟨[], List.Pairwise.nil, List.Pairwise.nil⟩

@[simp] theorem rows_empty : (empty : Keyed κ ν).rows = [] := rfl

/-! ## §1. The two lookups. -/

section Lookup

variable [DecidableEq κ] (t : Keyed κ ν)

/-- SELECT … WHERE key = `k`. -/
def find? (k : κ) : Option (Entry κ ν) := t.rows.find? (·.key == k)

/-- The columns of the row with key `k`. -/
def get? (k : κ) : Option ν := (t.find? k).map (·.value)

variable {t} {k k' : κ} {e e' : Entry κ ν}

omit [DecidableEq κ] in
theorem eq_of_key (he : e ∈ t.rows) (he' : e' ∈ t.rows) (h : e.key = e'.key) : e = e' :=
  List.inj_on_of_nodup_map t.keys he he' h

theorem find?_eq_some_iff : t.find? k = some e ↔ e ∈ t.rows ∧ e.key = k := by
  constructor
  · intro h
    exact ⟨List.mem_of_find?_eq_some h, by simpa using List.find?_some h⟩
  · rintro ⟨he, rfl⟩
    cases hfind : t.find? e.key with
    | none =>
        have hnone := List.find?_eq_none.mp hfind e he
        simp at hnone
    | some e' =>
        have hkey : e'.key = e.key := by simpa using List.find?_some hfind
        rw [eq_of_key (List.mem_of_find?_eq_some hfind) he hkey]

theorem find?_of_mem (he : e ∈ t.rows) : t.find? e.key = some e :=
  find?_eq_some_iff.mpr ⟨he, rfl⟩

theorem find?_eq_none_iff : t.find? k = none ↔ ∀ e ∈ t.rows, e.key ≠ k := by
  unfold find?
  rw [List.find?_eq_none]
  simp

theorem key_of_find? (h : t.find? k = some e) : e.key = k := (find?_eq_some_iff.mp h).2

theorem mem_of_find? (h : t.find? k = some e) : e ∈ t.rows := (find?_eq_some_iff.mp h).1

theorem get?_of_find? (h : t.find? k = some e) : t.get? k = some e.value := by
  unfold get?
  rw [h]
  rfl

theorem get?_eq_some_iff {v : ν} :
    t.get? k = some v ↔ ∃ e ∈ t.rows, e.key = k ∧ e.value = v := by
  unfold get?
  rw [Option.map_eq_some_iff]
  constructor
  · rintro ⟨e, he, hv⟩
    exact ⟨e, mem_of_find? he, key_of_find? he, hv⟩
  · rintro ⟨e, he, rfl, hv⟩
    exact ⟨e, find?_of_mem he, hv⟩

end Lookup

section ById

variable (t : Keyed κ ν)

/-- SELECT … WHERE id = `i`. -/
def byId? (i : Nat) : Option (Entry κ ν) := t.rows.find? (·.id == i)

variable {t} {i : Nat} {e e' : Entry κ ν}

theorem eq_of_id (he : e ∈ t.rows) (he' : e' ∈ t.rows) (h : e.id = e'.id) : e = e' := by
  have hnodup : (t.rows.map (·.id)).Nodup := t.ids.imp fun hlt => Nat.ne_of_lt hlt
  exact List.inj_on_of_nodup_map hnodup he he' h

theorem byId?_eq_some_iff : t.byId? i = some e ↔ e ∈ t.rows ∧ e.id = i := by
  constructor
  · intro h
    exact ⟨List.mem_of_find?_eq_some h, by simpa using List.find?_some h⟩
  · rintro ⟨he, rfl⟩
    cases hfind : t.byId? e.id with
    | none =>
        have hnone := List.find?_eq_none.mp hfind e he
        simp at hnone
    | some e' =>
        have hid : e'.id = e.id := by simpa using List.find?_some hfind
        rw [eq_of_id (List.mem_of_find?_eq_some hfind) he hid]

theorem byId?_of_mem (he : e ∈ t.rows) : t.byId? e.id = some e :=
  byId?_eq_some_iff.mpr ⟨he, rfl⟩

theorem mem_of_byId? (h : t.byId? i = some e) : e ∈ t.rows := (byId?_eq_some_iff.mp h).1

theorem id_of_byId? (h : t.byId? i = some e) : e.id = i := (byId?_eq_some_iff.mp h).2

/-- A condition that no two rows meet. -/
theorem length_filter_le {p : Entry κ ν → Bool}
    (h : ∀ a ∈ t.rows, ∀ b ∈ t.rows, p a = true → p b = true → a = b) :
    (t.rows.filter p).length ≤ 1 := by
  have hnodup : (t.rows.filter p).Nodup := List.Nodup.filter p t.keys.of_map
  match hrows : t.rows.filter p with
  | [] => exact Nat.zero_le 1
  | [_] => exact Nat.le_refl 1
  | a :: b :: rest =>
      rw [hrows] at hnodup
      obtain ⟨ha, hpa⟩ := List.mem_filter.mp (hrows ▸ List.mem_cons_self)
      obtain ⟨hb, hpb⟩ := List.mem_filter.mp (hrows ▸ List.mem_cons_of_mem a List.mem_cons_self)
      have heq : a = b := h a ha b hb hpa hpb
      exact absurd (heq ▸ List.mem_cons_self) (List.nodup_cons.mp hnodup).1

end ById

/-! ## §2. INSERT. -/

section Insert

variable (t : Keyed κ ν)

/-- The id of the next row. -/
def freshId : Nat := t.rows.foldr (max ·.id) 0 + 1

variable {t} in
theorem id_lt_freshId {e : Entry κ ν} (he : e ∈ t.rows) : e.id < t.freshId := by
  unfold freshId
  have hle : ∀ rows : List (Entry κ ν), e ∈ rows → e.id ≤ rows.foldr (max ·.id) 0 := by
    intro rows
    induction rows with
    | nil => exact fun h => absurd h List.not_mem_nil
    | cons a rows ih =>
        intro h
        rcases List.mem_cons.mp h with rfl | h
        · exact Nat.le_max_left _ _
        · exact Nat.le_trans (ih h) (Nat.le_max_right _ _)
  exact Nat.lt_succ_of_le (hle t.rows he)

/-- INSERT of a row whose key no row has. -/
def append (k : κ) (v : ν) (h : ∀ e ∈ t.rows, e.key ≠ k) : Keyed κ ν where
  rows := t.rows ++ [⟨t.freshId, k, v⟩]
  ids := by
    rw [List.map_append]
    refine List.pairwise_append.mpr ⟨t.ids, List.pairwise_singleton _ _, ?_⟩
    intro i hi j hj
    obtain ⟨e, he, rfl⟩ := List.mem_map.mp hi
    rw [List.mem_singleton.mp hj]
    exact id_lt_freshId he
  keys := by
    rw [List.map_append]
    refine List.nodup_append.mpr ⟨t.keys, List.nodup_singleton _, ?_⟩
    intro k₁ hk₁ k₂ hk₂
    obtain ⟨e, he, rfl⟩ := List.mem_map.mp hk₁
    rw [List.mem_singleton.mp hk₂]
    exact h e he

variable [DecidableEq κ]

/-- INSERT … ON CONFLICT (key) DO NOTHING. -/
def insertNew (k : κ) (v : ν) : Keyed κ ν :=
  match h : t.find? k with
  | none => t.append k v (find?_eq_none_iff.mp h)
  | some _ => t

variable {t} {k k' : κ} {v : ν} {e : Entry κ ν}

theorem rows_insertNew (h : t.find? k = none) :
    (t.insertNew k v).rows = t.rows ++ [⟨t.freshId, k, v⟩] := by
  unfold insertNew
  split
  next => rfl
  next e he => rw [h] at he; cases he

theorem insertNew_of_some (h : t.find? k = some e) : t.insertNew k v = t := by
  unfold insertNew
  split
  next hnone => rw [h] at hnone; cases hnone
  next => rfl

/-- The row the INSERT wrote. -/
theorem find?_insertNew_self (h : t.find? k = none) :
    (t.insertNew k v).find? k = some ⟨t.freshId, k, v⟩ := by
  refine find?_eq_some_iff.mpr ⟨?_, rfl⟩
  rw [rows_insertNew h]
  exact List.mem_append_right _ (List.mem_singleton_self _)

theorem find?_insertNew_ne (hne : k' ≠ k) : (t.insertNew k v).find? k' = t.find? k' := by
  cases h : t.find? k with
  | some e => rw [insertNew_of_some h]
  | none =>
      unfold find?
      rw [rows_insertNew h, List.find?_append]
      simp [Ne.symm hne]

theorem mem_insertNew : e ∈ (t.insertNew k v).rows ↔
    e ∈ t.rows ∨ (t.find? k = none ∧ e = ⟨t.freshId, k, v⟩) := by
  cases h : t.find? k with
  | some e => rw [insertNew_of_some h]; simp
  | none => rw [rows_insertNew h]; simp

end Insert

/-! ## §3. UPDATE. -/

section Update

/-- UPDATE: every row gets the columns `f` computes for it. -/
def mapRows (t : Keyed κ ν) (f : Entry κ ν → ν) : Keyed κ ν where
  rows := t.rows.map fun e => { e with value := f e }
  ids := by
    rw [List.map_map]
    exact t.ids
  keys := by
    rw [List.map_map]
    exact t.keys

variable {t : Keyed κ ν} {f : Entry κ ν → ν} {e : Entry κ ν}

theorem mem_mapRows : e ∈ (t.mapRows f).rows ↔ ∃ e₀ ∈ t.rows, e = { e₀ with value := f e₀ } := by
  unfold mapRows
  simp only [List.mem_map]
  constructor
  · rintro ⟨e₀, he₀, rfl⟩
    exact ⟨e₀, he₀, rfl⟩
  · rintro ⟨e₀, he₀, rfl⟩
    exact ⟨e₀, he₀, rfl⟩

theorem byId?_mapRows (i : Nat) :
    (t.mapRows f).byId? i = (t.byId? i).map fun e => { e with value := f e } := by
  unfold byId? mapRows
  rw [List.find?_map]
  rfl

variable [DecidableEq κ]

theorem find?_mapRows (k : κ) :
    (t.mapRows f).find? k = (t.find? k).map fun e => { e with value := f e } := by
  unfold find? mapRows
  rw [List.find?_map]
  rfl

/-- UPDATE … WHERE key = `k`. -/
def modify (t : Keyed κ ν) (k : κ) (f : ν → ν) : Keyed κ ν :=
  t.mapRows fun e => if e.key = k then f e.value else e.value

/-- UPDATE … WHERE id = `i`. -/
def modifyId (t : Keyed κ ν) (i : Nat) (f : ν → ν) : Keyed κ ν :=
  t.mapRows fun e => if e.id = i then f e.value else e.value

variable {g : ν → ν} {k k' : κ} {i : Nat}

theorem find?_modify_self (k : κ) :
    (t.modify k g).find? k = (t.find? k).map fun e => { e with value := g e.value } := by
  unfold modify
  rw [find?_mapRows]
  refine Option.map_congr fun e he => ?_
  rw [if_pos (key_of_find? he)]

theorem find?_modify_ne (hne : k' ≠ k) : (t.modify k g).find? k' = t.find? k' := by
  unfold modify
  rw [find?_mapRows]
  cases h : t.find? k' with
  | none => rfl
  | some e =>
      have hkey : e.key ≠ k := by rw [key_of_find? h]; exact hne
      simp only [Option.map_some, if_neg hkey]

omit [DecidableEq κ] in
theorem byId?_modifyId_self (i : Nat) :
    (t.modifyId i g).byId? i = (t.byId? i).map fun e => { e with value := g e.value } := by
  unfold modifyId
  rw [byId?_mapRows]
  refine Option.map_congr fun e he => ?_
  rw [if_pos (id_of_byId? he)]

omit [DecidableEq κ] in
theorem mem_modifyId : e ∈ (t.modifyId i g).rows ↔
    (e ∈ t.rows ∧ e.id ≠ i) ∨ ∃ e₀ ∈ t.rows, e₀.id = i ∧ e = { e₀ with value := g e₀.value } := by
  unfold modifyId
  rw [mem_mapRows]
  constructor
  · rintro ⟨e₀, he₀, rfl⟩
    by_cases hi : e₀.id = i
    · exact .inr ⟨e₀, he₀, hi, by rw [if_pos hi]⟩
    · exact .inl ⟨by rw [if_neg hi]; exact he₀, hi⟩
  · rintro (⟨he, hi⟩ | ⟨e₀, he₀, hi, rfl⟩)
    · exact ⟨e, he, by rw [if_neg hi]⟩
    · exact ⟨e₀, he₀, by rw [if_pos hi]⟩

omit [DecidableEq κ] in
@[simp] theorem modifyId_id (t : Keyed κ ν) (i : Nat) : t.modifyId i id = t := by
  apply ext
  unfold modifyId mapRows
  simp

/-- INSERT … ON CONFLICT (key) DO UPDATE. -/
def upsert (t : Keyed κ ν) (k : κ) (new : ν) (merge : ν → ν) : Keyed κ ν :=
  match t.find? k with
  | none => t.insertNew k new
  | some _ => t.modify k merge

/-- The columns of the upserted row. -/
theorem get?_upsert_self {new : ν} {merge : ν → ν} :
    (t.upsert k new merge).get? k = some ((t.get? k).elim new merge) := by
  unfold upsert get?
  split
  next h =>
    rw [find?_insertNew_self h, h]
    rfl
  next e h =>
    rw [find?_modify_self, h]
    rfl

theorem find?_upsert_ne {new : ν} {merge : ν → ν} (hne : k' ≠ k) :
    (t.upsert k new merge).find? k' = t.find? k' := by
  unfold upsert
  split
  next => exact find?_insertNew_ne hne
  next => exact find?_modify_ne hne

theorem get?_upsert_ne {new : ν} {merge : ν → ν} (hne : k' ≠ k) :
    (t.upsert k new merge).get? k' = t.get? k' := by
  unfold get?
  rw [find?_upsert_ne hne]

/-- An update that finds nothing to change. -/
theorem modify_of_fixed (h : ∀ e ∈ t.find? k, g e.value = e.value) : t.modify k g = t := by
  refine ext ((List.map_congr_left fun e he => ?_).trans (List.map_id _))
  show { e with value := if e.key = k then g e.value else e.value } = e
  by_cases hk : e.key = k
  · rw [if_pos hk, h e (find?_eq_some_iff.mpr ⟨he, hk⟩)]
  · rw [if_neg hk]

/-- An upsert made again changes nothing, where a merge made again does not. -/
theorem upsert_upsert {new : ν} {merge : ν → ν} (hnew : merge new = new)
    (hmerge : ∀ v, merge (merge v) = merge v) :
    (t.upsert k new merge).upsert k new merge = t.upsert k new merge := by
  have hfind : ∃ e, (t.upsert k new merge).find? k = some e ∧ merge e.value = e.value := by
    unfold upsert
    split
    next h => exact ⟨_, find?_insertNew_self h, hnew⟩
    next e h => exact ⟨_, by rw [find?_modify_self, h]; rfl, hmerge e.value⟩
  generalize t.upsert k new merge = t' at hfind
  obtain ⟨e, he, hfixed⟩ := hfind
  unfold upsert
  rw [he]
  refine modify_of_fixed fun e' he' => ?_
  rw [Option.some.inj (he'.symm.trans he)]
  exact hfixed

end Update

/-! ## §4. No row is lost. -/

/-- Every row of `t` is still there, under its id and its key. -/
def Kept (t t' : Keyed κ ν) : Prop :=
  ∀ e ∈ t.rows, ∃ e' ∈ t'.rows, e'.id = e.id ∧ e'.key = e.key

variable {t t' t'' : Keyed κ ν}

instance [DecidableEq κ] (t t' : Keyed κ ν) : Decidable (Kept t t') :=
  inferInstanceAs (Decidable (∀ e ∈ t.rows, ∃ e' ∈ t'.rows, e'.id = e.id ∧ e'.key = e.key))

theorem Kept.refl (t : Keyed κ ν) : Kept t t := fun e he => ⟨e, he, rfl, rfl⟩

theorem Kept.trans (h : Kept t t') (h' : Kept t' t'') : Kept t t'' := by
  intro e he
  obtain ⟨e', he', hid, hkey⟩ := h e he
  obtain ⟨e'', he'', hid', hkey'⟩ := h' e' he'
  exact ⟨e'', he'', hid'.trans hid, hkey'.trans hkey⟩

theorem kept_mapRows (t : Keyed κ ν) (f : Entry κ ν → ν) : Kept t (t.mapRows f) :=
  fun e he => ⟨_, mem_mapRows.mpr ⟨e, he, rfl⟩, rfl, rfl⟩

variable [DecidableEq κ]

theorem kept_insertNew (t : Keyed κ ν) (k : κ) (v : ν) : Kept t (t.insertNew k v) :=
  fun e he => ⟨e, mem_insertNew.mpr (.inl he), rfl, rfl⟩

theorem kept_upsert (t : Keyed κ ν) (k : κ) (new : ν) (merge : ν → ν) :
    Kept t (t.upsert k new merge) := by
  unfold upsert
  split
  next => exact kept_insertNew t k new
  next => exact kept_mapRows t _

/-- The id under which a kept key is found never changes. -/
theorem Kept.find? (h : Kept t t') {k : κ} {e : Entry κ ν} (he : t.find? k = some e) :
    ∃ e', t'.find? k = some e' ∧ e'.id = e.id := by
  obtain ⟨e', he', hid, hkey⟩ := h e (mem_of_find? he)
  exact ⟨e', find?_eq_some_iff.mpr ⟨he', hkey.trans (key_of_find? he)⟩, hid⟩

omit [DecidableEq κ] in
/-- The key under a kept id never changes. -/
theorem Kept.byId? (h : Kept t t') {i : Nat} {e : Entry κ ν} (he : t.byId? i = some e) :
    ∃ e', t'.byId? i = some e' ∧ e'.key = e.key := by
  obtain ⟨e', he', hid, hkey⟩ := h e (mem_of_byId? he)
  exact ⟨e', byId?_eq_some_iff.mpr ⟨he', hid.trans (id_of_byId? he)⟩, hkey⟩

end Keyed

end Cai.Lib
