/-
  Cai.Lib.Dictionary — dictionaries of rows.

  A dictionary is the list of its items, in the order in which their keys
  came in.  The rows of a table are read into one under the names that a
  JOIN gives to their keys (`Keyed.named`), and are found there as the
  table is seen through the references of these names.

  Main results: `dictionary_of_nodup`, `Keyed.rowOf_named`,
  `countMissing_eq_ncard`.
-/
import Mathlib.Data.Set.Card
import Cai.Lib.Replacement

namespace Cai.Lib

variable {κ ν η : Type*}

/-! ## §1. Comprehensions. -/

section Comprehension

variable [DecidableEq κ] {d items : List (κ × ν)}

/-- `d[key] = value`: a key that is there keeps its place. -/
def assign (d : List (κ × ν)) (item : κ × ν) : List (κ × ν) :=
  if d.any (·.1 == item.1) then d.map fun old => if old.1 == item.1 then item else old
  else d ++ [item]

/-- `{key: value for key, value in items}` -/
def dictionary (items : List (κ × ν)) : List (κ × ν) := items.foldl assign []

/-- `d.get(key)` -/
def rowOf (d : List (κ × ν)) (key : κ) : Option ν := d.lookup key

/-- `sum(1 for key in d if key not in names)` -/
def countMissing (d : List (κ × ν)) (names : List κ) : Nat := d.countP fun item => item.1 ∉ names

theorem assign_of_not_mem {item : κ × ν} (h : item.1 ∉ d.map (·.1)) : assign d item = d ++ [item] := by
  unfold assign
  rw [if_neg]
  intro hany
  obtain ⟨old, hold, hkey⟩ := List.any_eq_true.mp hany
  exact h (List.mem_map.mpr ⟨old, hold, beq_iff_eq.mp hkey⟩)

theorem assign_of_mem {item : κ × ν} (h : item.1 ∈ d.map (·.1)) :
    assign d item = d.map fun old => if old.1 == item.1 then item else old := by
  obtain ⟨old, hold, hkey⟩ := List.mem_map.mp h
  have hany : d.any (·.1 == item.1) = true := List.any_eq_true.mpr ⟨old, hold, beq_iff_eq.mpr hkey⟩
  unfold assign
  rw [if_pos hany]

/-- An item is the one that is assigned, or was there. -/
theorem mem_assign {item old : κ × ν} (h : old ∈ assign d item) : old = item ∨ old ∈ d := by
  by_cases hmem : item.1 ∈ d.map (·.1)
  · rw [assign_of_mem hmem] at h
    obtain ⟨a, ha, rfl⟩ := List.mem_map.mp h
    split
    next => exact .inl rfl
    next => exact .inr ha
  · rw [assign_of_not_mem hmem] at h
    rcases List.mem_append.mp h with hold | hnew
    · exact .inr hold
    · exact .inl (List.mem_singleton.mp hnew)

/-- A key that is there keeps its place. -/
theorem keys_assign_of_mem {item : κ × ν} (h : item.1 ∈ d.map (·.1)) :
    (assign d item).map (·.1) = d.map (·.1) := by
  rw [assign_of_mem h, List.map_map]
  refine List.map_congr_left fun old _ => ?_
  by_cases hkey : old.1 = item.1
  · simp [hkey]
  · simp [hkey]

theorem mem_keys_assign {item : κ × ν} {key : κ} :
    key ∈ (assign d item).map (·.1) ↔ key = item.1 ∨ key ∈ d.map (·.1) := by
  by_cases hmem : item.1 ∈ d.map (·.1)
  · rw [keys_assign_of_mem hmem]
    constructor
    · exact .inr
    · intro h
      rcases h with rfl | hold
      · exact hmem
      · exact hold
  · rw [assign_of_not_mem hmem, List.map_append, List.mem_append, or_comm]
    simp

theorem lookup_eq_none_iff_keys {key : κ} : d.lookup key = none ↔ key ∉ d.map (·.1) := by
  rw [lookup_eq_none_iff]
  constructor
  · intro h hmem
    obtain ⟨item, hitem, heq⟩ := List.mem_map.mp hmem
    exact h item hitem heq
  · intro h item hitem heq
    exact h (List.mem_map.mpr ⟨item, hitem, heq⟩)

/-- Replacing the value of one key leaves the others alone. -/
theorem lookup_map_assign {item : κ × ν} {key : κ} (h : item.1 ≠ key) :
    (d.map fun old => if old.1 == item.1 then item else old).lookup key = d.lookup key := by
  induction d with
  | nil => rfl
  | cons old d ih =>
      rw [List.map_cons, List.lookup_cons, List.lookup_cons, ih]
      by_cases hold : old.1 = item.1
      · have hnew : (key == item.1) = false := beq_false_of_ne h.symm
        rw [if_pos (beq_iff_eq.mpr hold), hold, hnew]
      · rw [if_neg fun heq => hold (beq_iff_eq.mp heq)]

/-- `d[key]`, after `d[item.1] = item.2` -/
theorem lookup_assign (d : List (κ × ν)) (item : κ × ν) (key : κ) :
    (assign d item).lookup key = if item.1 = key then some item.2 else d.lookup key := by
  by_cases hmem : item.1 ∈ d.map (·.1)
  · rw [assign_of_mem hmem]
    by_cases hkey : item.1 = key
    · rw [if_pos hkey, ← hkey]
      clear hkey
      induction d with
      | nil => cases hmem
      | cons old d ih =>
          rw [List.map_cons, List.lookup_cons]
          by_cases hold : old.1 = item.1
          · rw [if_pos (beq_iff_eq.mpr hold), beq_self_eq_true]
          · have hrest : item.1 ∈ d.map (·.1) := by
              rcases List.mem_cons.mp hmem with heq | hrest
              · exact absurd heq.symm hold
              · exact hrest
            rw [if_neg fun heq => hold (beq_iff_eq.mp heq), beq_false_of_ne (Ne.symm hold)]
            exact ih hrest
    · rw [if_neg hkey, lookup_map_assign hkey]
  · rw [assign_of_not_mem hmem, List.lookup_append]
    by_cases hkey : item.1 = key
    · rw [if_pos hkey, ← hkey, lookup_eq_none_iff_keys.mpr hmem, Option.none_or,
        List.lookup_cons, beq_self_eq_true]
    · rw [if_neg hkey, List.lookup_cons, beq_false_of_ne (Ne.symm hkey)]
      exact Option.or_none

/-- No key comes in twice. -/
theorem nodup_assign (h : (d.map (·.1)).Nodup) (item : κ × ν) :
    ((assign d item).map (·.1)).Nodup := by
  by_cases hmem : item.1 ∈ d.map (·.1)
  · rw [keys_assign_of_mem hmem]
    exact h
  · rw [assign_of_not_mem hmem, List.map_append]
    refine List.nodup_append.mpr ⟨h, List.nodup_singleton _, fun k hk k' hk' heq => ?_⟩
    rw [List.mem_singleton.mp hk'] at heq
    rw [heq] at hk
    exact hmem hk

theorem foldl_assign (h : ((d ++ items).map (·.1)).Nodup) : items.foldl assign d = d ++ items := by
  induction items generalizing d with
  | nil => rw [List.foldl_nil, List.append_nil]
  | cons item items ih =>
      have hsplit : d ++ item :: items = d ++ [item] ++ items := by simp
      have hnew : item.1 ∉ d.map (·.1) := by
        rw [List.map_append, List.map_cons] at h
        intro hold
        exact (List.nodup_append.mp h).2.2 item.1 hold item.1 List.mem_cons_self rfl
      rw [hsplit] at h ⊢
      rw [List.foldl_cons, assign_of_not_mem hnew, ih h]

/-- Items with different keys are the dictionary they make. -/
theorem dictionary_of_nodup (h : (items.map (·.1)).Nodup) : dictionary items = items :=
  foldl_assign (d := []) h

end Comprehension

/-! ## §2. The rows of a table, by name. -/

namespace Keyed

/-- The key of the row with an id. -/
def keyOf (t : Keyed κ ν) (i : Nat) : Option κ := (t.byId? i).map (·.key)

theorem keyOf_eq_some_iff [DecidableEq κ] {t : Keyed κ ν} {i : Nat} {k : κ} :
    t.keyOf i = some k ↔ t.idOf k = some i := by
  unfold keyOf idOf
  rw [Option.map_eq_some_iff, Option.map_eq_some_iff]
  constructor
  · rintro ⟨e, he, rfl⟩
    exact ⟨e, find?_of_mem (mem_of_byId? he), id_of_byId? he⟩
  · rintro ⟨e, he, rfl⟩
    exact ⟨e, byId?_of_mem (mem_of_find? he), key_of_find? he⟩

/-- The rows under the names of their keys; a row without a name is left out. -/
def named (name : κ → Option η) (t : Keyed κ ν) : List (η × ν) :=
  t.rows.filterMap fun e => (name e.key).map fun n => (n, e.value)

variable {name : κ → Option η} {ref : η → Option κ} {t : Keyed κ ν} {n : η} {v : ν}

theorem mem_named : (n, v) ∈ t.named name ↔ ∃ e ∈ t.rows, name e.key = some n ∧ e.value = v := by
  unfold named
  rw [List.mem_filterMap]
  constructor
  · rintro ⟨e, he, hname⟩
    obtain ⟨n', hn', heq⟩ := Option.map_eq_some_iff.mp hname
    obtain ⟨rfl, rfl⟩ := Prod.mk.inj heq
    exact ⟨e, he, hn', rfl⟩
  · rintro ⟨e, he, hname, rfl⟩
    exact ⟨e, he, Option.map_eq_some_iff.mpr ⟨n, hname, rfl⟩⟩

/-- No two rows have one name, when no two keys do. -/
theorem nodup_named (t : Keyed κ ν)
    (hinj : ∀ k k' n, name k = some n → name k' = some n → k = k') :
    ((t.named name).map (·.1)).Nodup := by
  have hnames : (t.named name).map (·.1) = (t.rows.map (·.key)).filterMap name := by
    unfold named
    rw [List.map_filterMap, List.filterMap_map]
    refine List.filterMap_congr fun e _ => ?_
    rw [Option.map_map]
    exact Option.map_id'
  rw [hnames]
  exact t.keys.filterMap fun k k' n h h' => hinj k k' n h h'

variable [DecidableEq κ] [DecidableEq η]

/-- **A table is found by name as it is seen through references**, where the
    names are those that refer to the keys. -/
theorem rowOf_named (t : Keyed κ ν) (hname : ∀ k n, name k = some n ↔ ref n = some k) :
    rowOf (t.named name) n = t.seen ref n := by
  have hinj : ∀ k k' n, name k = some n → name k' = some n → k = k' := by
    intro k k' n h h'
    exact Option.some.inj (((hname k n).mp h).symm.trans ((hname k' n).mp h'))
  refine Option.ext fun v => ?_
  unfold rowOf seen
  rw [lookup_eq_some_iff (consistent_of_nodup (nodup_named t hinj)), mem_named,
    Option.bind_eq_some_iff]
  constructor
  · rintro ⟨e, he, hn, hv⟩
    exact ⟨e.key, (hname e.key n).mp hn, get?_eq_some_iff.mpr ⟨e, he, rfl, hv⟩⟩
  · rintro ⟨k, hk, hget⟩
    obtain ⟨e, he, rfl, hv⟩ := get?_eq_some_iff.mp hget
    exact ⟨e, he, (hname e.key n).mpr hk, hv⟩

end Keyed

/-! ## §3. The items that a list of names lacks. -/

variable [DecidableEq η]

/-- A loop over the items of a dictionary counts the names that it has and the list lacks. -/
theorem countMissing_eq_ncard {rows : List (η × ν)} (hrows : (rows.map (·.1)).Nodup)
    (names : List η) : countMissing rows names = {n | rowOf rows n ≠ none ∧ n ∉ names}.ncard := by
  have hcount : countMissing rows names
      = ((rows.map (·.1)).filter fun n => n ∉ names).length := by
    unfold countMissing
    rw [List.filter_map, List.length_map, List.countP_eq_length_filter]
    rfl
  have hset : {n | rowOf rows n ≠ none ∧ n ∉ names}
      = ((rows.map (·.1)).filter fun n => n ∉ names).toFinset := by
    ext n
    unfold rowOf
    rw [Set.mem_ofPred_eq, Finset.mem_coe, List.mem_toFinset, List.mem_filter, decide_eq_true_iff,
      List.mem_map, ne_eq, lookup_eq_none_iff]
    refine and_congr_left fun _ => ?_
    push Not
    rfl
  rw [hset, Set.ncard_coe_finset, List.toFinset_card_of_nodup (hrows.filter _), hcount]

end Cai.Lib
