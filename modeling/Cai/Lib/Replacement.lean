/-
  Cai.Lib.Replacement — a keyed table takes over a complete snapshot.

  The rows of the snapshot are written, every other row is retired, and
  none is deleted.  The rows may be retired first and the snapshot written
  over them, or the snapshot written first and the rows it does not name
  retired after it: the rows have `TakenOver` the table either way
  (`takenOver_putAll`, `takenOver_retire`).

  A table whose key refers to rows of other tables is seen through these
  references; there the two agree also where the surrogate ids do not
  (`TakenOver.seen`).
-/
import Cai.Lib.Fallible
import Cai.Lib.Keyed

namespace Cai.Lib

variable {κ ν η : Type*} [DecidableEq κ]

/-! ## §1. Lists of rows. -/

/-- A key has one value in the list. -/
def Consistent (l : List (κ × ν)) : Prop := ∀ a ∈ l, ∀ b ∈ l, a.1 = b.1 → a.2 = b.2

variable {l l' : List (κ × ν)} {k : κ} {v : ν}

theorem lookup_eq_none_iff : l.lookup k = none ↔ ∀ a ∈ l, a.1 ≠ k := by
  induction l with
  | nil => simp
  | cons a l ih =>
      obtain ⟨k', v'⟩ := a
      rw [List.lookup_cons, List.forall_mem_cons, ← ih]
      by_cases hk : k = k'
      · simp [hk]
      · have hbeq : (k == k') = false := beq_false_of_ne hk
        rw [hbeq]
        constructor
        · exact fun h => ⟨fun heq => hk heq.symm, h⟩
        · exact fun h => h.2

theorem mem_of_lookup (h : l.lookup k = some v) : (k, v) ∈ l := by
  induction l with
  | nil => cases h
  | cons a l ih =>
      obtain ⟨k', v'⟩ := a
      rw [List.lookup_cons] at h
      by_cases hk : k = k'
      · subst hk
        rw [beq_self_eq_true] at h
        obtain rfl := Option.some.inj h
        exact List.mem_cons_self
      · rw [beq_false_of_ne hk] at h
        exact List.mem_cons_of_mem _ (ih h)

theorem lookup_eq_some_iff (hl : Consistent l) : l.lookup k = some v ↔ (k, v) ∈ l := by
  refine ⟨mem_of_lookup, fun h => ?_⟩
  cases hlook : l.lookup k with
  | none => exact absurd rfl (lookup_eq_none_iff.mp hlook (k, v) h)
  | some v' => exact congrArg some (hl (k, v') (mem_of_lookup hlook) (k, v) h rfl)

/-- Only the members of a consistent list count. -/
theorem lookup_congr (hl : Consistent l) (hl' : Consistent l') (h : ∀ a, a ∈ l ↔ a ∈ l') (k : κ) :
    l.lookup k = l'.lookup k := by
  refine Option.ext fun v => ?_
  rw [lookup_eq_some_iff hl, lookup_eq_some_iff hl']
  exact h (k, v)

omit [DecidableEq κ] in
theorem Consistent.tail {a : κ × ν} (h : Consistent (a :: l)) : Consistent l :=
  fun b hb c hc => h b (List.mem_cons_of_mem a hb) c (List.mem_cons_of_mem a hc)

omit [DecidableEq κ] in
theorem Consistent.congr (h : Consistent l) (hmem : ∀ a, a ∈ l' → a ∈ l) : Consistent l' :=
  fun a ha b hb => h a (hmem a ha) b (hmem b hb)

omit [DecidableEq κ] in
/-- Rows with different keys. -/
theorem consistent_of_nodup (h : (l.map (·.1)).Nodup) : Consistent l := by
  intro a ha b hb hkey
  rw [List.inj_on_of_nodup_map h ha hb hkey]

/-! ## §2. One table. -/

namespace Keyed

/-- INSERT … ON CONFLICT (key) DO UPDATE, where the new row replaces the old
    one, for each row of the list. -/
def putAll (t : Keyed κ ν) (l : List (κ × ν)) : Keyed κ ν :=
  l.foldl (fun t a => t.upsert a.1 a.2 fun _ => a.2) t

variable {t : Keyed κ ν} {e : Entry κ ν}

theorem putAll_cons (a : κ × ν) : t.putAll (a :: l) = (t.upsert a.1 a.2 fun _ => a.2).putAll l := rfl

theorem putAll_append : t.putAll (l ++ l') = (t.putAll l).putAll l' := by
  unfold putAll
  rw [List.foldl_append]

/-- The columns after all the rows were written. -/
theorem get?_putAll (hl : Consistent l) : (t.putAll l).get? k = (l.lookup k).or (t.get? k) := by
  induction l generalizing t with
  | nil => rfl
  | cons a l ih =>
      obtain ⟨k', v'⟩ := a
      rw [putAll_cons, ih hl.tail, List.lookup_cons]
      by_cases hk : k = k'
      · subst hk
        have hput : (t.upsert k v' fun _ => v').get? k = some v' := by
          rw [get?_upsert_self]
          cases t.get? k with
          | none => rfl
          | some v => rfl
        rw [hput, beq_self_eq_true, Option.some_or]
        cases hlook : l.lookup k with
        | none => rfl
        | some v =>
            have hmem := List.mem_cons_of_mem (k, v') (mem_of_lookup hlook)
            exact congrArg some (hl (k, v) hmem (k, v') List.mem_cons_self rfl)
      · rw [get?_upsert_ne hk, beq_false_of_ne hk]

/-- A loop whose rounds upsert one row each returns exactly when all of them
    do, and then it has put its rows; `set` builds the state of the loop from
    the table and the keys written so far, newest first. -/
theorem foldlM_putAll {ε : Type*} {σ β : Type} {f : σ → β → Except ε σ} {P : β → Prop}
    (row : β → κ × ν) (set : Keyed κ ν → List κ → σ)
    (hstep : ∀ t keys b s, f (set t keys) b = .ok s ↔
      P b ∧ s = set (t.upsert (row b).1 (row b).2 fun _ => (row b).2) ((row b).1 :: keys))
    (bs : List β) (t : Keyed κ ν) (keys : List κ) (s : σ) :
    bs.foldlM f (set t keys) = .ok s ↔
      (∀ b ∈ bs, P b)
        ∧ s = set (t.putAll (bs.map row)) (((bs.map row).map (·.1)).reverse ++ keys) := by
  induction bs generalizing t keys with
  | nil =>
      rw [List.foldlM_nil, pure_eq_ok_iff]
      exact ⟨fun heq => ⟨fun b hb => absurd hb List.not_mem_nil, heq.symm⟩, fun heq => heq.2.symm⟩
  | cons b bs ih =>
      have hkeys : (((b :: bs).map row).map (·.1)).reverse ++ keys
          = ((bs.map row).map (·.1)).reverse ++ ((row b).1 :: keys) := by simp
      rw [List.foldlM_cons, bind_eq_ok_iff, hkeys, List.map_cons, putAll_cons,
        List.forall_mem_cons]
      constructor
      · rintro ⟨s₁, hfirst, hloop⟩
        obtain ⟨hb, rfl⟩ := (hstep t keys b s₁).mp hfirst
        obtain ⟨hbs, hs⟩ := (ih _ _).mp hloop
        exact ⟨⟨hb, hbs⟩, hs⟩
      · rintro ⟨⟨hb, hbs⟩, hs⟩
        exact ⟨_, (hstep t keys b _).mpr ⟨hb, rfl⟩, (ih _ _).mpr ⟨hbs, hs⟩⟩

theorem kept_putAll (t : Keyed κ ν) (l : List (κ × ν)) : Kept t (t.putAll l) := by
  induction l generalizing t with
  | nil => exact .refl t
  | cons a l ih => exact (kept_upsert t a.1 a.2 _).trans (ih _)

/-- A row of an upserted table was there, under its id, or has the new key. -/
theorem mem_upsert {new : ν} {merge : ν → ν} (he : e ∈ (t.upsert k new merge).rows) :
    (∃ e₀ ∈ t.rows, e₀.id = e.id ∧ e₀.key = e.key) ∨ e.key = k := by
  unfold upsert at he
  split at he
  next =>
    rcases mem_insertNew.mp he with he | ⟨-, rfl⟩
    · exact .inl ⟨e, he, rfl, rfl⟩
    · exact .inr rfl
  next =>
    obtain ⟨e₀, he₀, rfl⟩ := mem_mapRows.mp he
    exact .inl ⟨e₀, he₀, rfl, rfl⟩

theorem mem_putAll (he : e ∈ (t.putAll l).rows) :
    (∃ e₀ ∈ t.rows, e₀.id = e.id ∧ e₀.key = e.key) ∨ ∃ a ∈ l, a.1 = e.key := by
  induction l generalizing t with
  | nil => exact .inl ⟨e, he, rfl, rfl⟩
  | cons a l ih =>
      rcases ih he with ⟨e₁, he₁, hid, hkey⟩ | ⟨b, hb, hkey⟩
      · rcases mem_upsert he₁ with ⟨e₀, he₀, hid', hkey'⟩ | hnew
        · exact .inl ⟨e₀, he₀, hid'.trans hid, hkey'.trans hkey⟩
        · exact .inr ⟨a, List.mem_cons_self, hnew.symm.trans hkey⟩
      · exact .inr ⟨b, List.mem_cons_of_mem a hb, hkey⟩

/-- UPDATE of the rows that are not named. -/
def retire (t : Keyed κ ν) (absent : ν → ν) (named : Entry κ ν → Bool) : Keyed κ ν :=
  t.mapRows fun e => if named e then e.value else absent e.value

variable {absent : ν → ν}

theorem get?_mapRows {f : Entry κ ν → ν} : (t.mapRows f).get? k = (t.find? k).map f := by
  unfold get?
  rw [find?_mapRows, Option.map_map]
  rfl

/-- What a replacement leaves: the row of the snapshot, or the retired old one. -/
def replaced (absent : ν → ν) (l : List (κ × ν)) (old : κ → Option ν) (k : κ) : Option ν :=
  (l.lookup k).or ((old k).map absent)

/-- Retire everything, then write. -/
theorem get?_putAll_retireAll (hl : Consistent l) :
    ((t.mapRows fun e => absent e.value).putAll l).get? k = replaced absent l t.get? k := by
  rw [get?_putAll hl, get?_mapRows]
  unfold replaced get?
  rw [Option.map_map]
  rfl

/-- Write, then retire what was not written. -/
theorem get?_retire_putAll (hl : Consistent l) {named : Entry κ ν → Bool}
    (hnamed : ∀ e ∈ (t.putAll l).rows, named e = true ↔ ∃ a ∈ l, a.1 = e.key) :
    ((t.putAll l).retire absent named).get? k = replaced absent l t.get? k := by
  have hput := get?_putAll (t := t) (k := k) hl
  unfold retire
  rw [get?_mapRows]
  unfold replaced
  cases hfind : (t.putAll l).find? k with
  | none =>
      have hget : (t.putAll l).get? k = none := by
        unfold get?
        rw [hfind]
        rfl
      rw [hget] at hput
      obtain ⟨hlook, hold⟩ := Option.or_eq_none_iff.mp hput.symm
      rw [hlook, hold]
      rfl
  | some e =>
      have hmem := mem_of_find? hfind
      have hkey := key_of_find? hfind
      rw [get?_of_find? hfind] at hput
      cases hlook : l.lookup k with
      | none =>
          have hnot : named e = false := by
            refine Bool.eq_false_iff.mpr fun htrue => ?_
            obtain ⟨a, ha, hak⟩ := (hnamed e hmem).mp htrue
            exact lookup_eq_none_iff.mp hlook a ha (hak.trans hkey)
          rw [hlook, Option.none_or] at hput
          rw [← hput, Option.none_or, Option.map_some, Option.map_some, hnot]
          rfl
      | some v =>
          have hyes : named e = true :=
            (hnamed e hmem).mpr ⟨(k, v), mem_of_lookup hlook, hkey.symm⟩
          rw [hlook, Option.some_or] at hput
          rw [Option.map_some, hyes, if_pos rfl, hput, Option.some_or]

/-- The rows `l` have taken over a table. -/
structure TakenOver (absent : ν → ν) (l : List (κ × ν)) (t t' : Keyed κ ν) : Prop where
  columns : ∀ k, t'.get? k = replaced absent l t.get? k
  /-- A row was there, under its id, or is one of `l`. -/
  origin : ∀ e ∈ t'.rows, (∃ e₀ ∈ t.rows, e₀.id = e.id ∧ e₀.key = e.key) ∨ ∃ a ∈ l, a.1 = e.key
  kept : Kept t t'

/-- **Retire everything, then write.** -/
theorem takenOver_putAll (hl : Consistent l) :
    TakenOver absent l t ((t.mapRows fun e => absent e.value).putAll l) where
  columns := fun _ => get?_putAll_retireAll hl
  origin := by
    intro e he
    rcases mem_putAll he with ⟨e₁, he₁, hid, hkey⟩ | hnew
    · obtain ⟨e₀, he₀, rfl⟩ := mem_mapRows.mp he₁
      exact .inl ⟨e₀, he₀, hid, hkey⟩
    · exact .inr hnew
  kept := (kept_mapRows t _).trans (kept_putAll _ l)

/-- **Write, then retire what was not written.** -/
theorem takenOver_retire (hl : Consistent l) {named : Entry κ ν → Bool}
    (hnamed : ∀ e ∈ (t.putAll l).rows, named e = true ↔ ∃ a ∈ l, a.1 = e.key) :
    TakenOver absent l t ((t.putAll l).retire absent named) where
  columns := fun _ => get?_retire_putAll hl hnamed
  origin := by
    intro e he
    obtain ⟨e₁, he₁, rfl⟩ := mem_mapRows.mp he
    have horigin := mem_putAll he₁
    exact horigin
  kept := (kept_putAll t l).trans (kept_mapRows _ _)

/-- The UPDATE of one row after another, for the rows that were read before. -/
def updateEach (t : Keyed κ ν) (f : ν → ν) (stale : Entry κ ν → Bool) (rows : List (Entry κ ν)) :
    Keyed κ ν :=
  rows.foldl (fun t e => if stale e then t.modifyId e.id f else t) t

omit [DecidableEq κ] in
theorem mapRows_mapRows (f : Entry κ ν → ν) (g : Entry κ ν → ν) :
    (t.mapRows f).mapRows g = t.mapRows fun e => g { e with value := f e } := by
  apply ext
  unfold mapRows
  simp only [List.map_map]
  rfl

omit [DecidableEq κ] in
theorem mapRows_congr {f g : Entry κ ν → ν} (h : ∀ e ∈ t.rows, f e = g e) :
    t.mapRows f = t.mapRows g := by
  apply ext
  unfold mapRows
  refine List.map_congr_left fun e he => ?_
  rw [h e he]

omit [DecidableEq κ] in
/-- Each row is written once, however the rows are ordered. -/
theorem updateEach_eq_any (f : ν → ν) (stale : Entry κ ν → Bool) {rows : List (Entry κ ν)}
    (hids : (rows.map (·.id)).Nodup) (t : Keyed κ ν) :
    t.updateEach f stale rows = t.mapRows fun e =>
      if rows.any fun r => r.id == e.id && stale r then f e.value else e.value := by
  induction rows generalizing t with
  | nil =>
      apply ext
      unfold updateEach mapRows
      simp
  | cons r rows ih =>
      rw [List.map_cons, List.nodup_cons] at hids
      have hstep : t.updateEach f stale (r :: rows)
          = (if stale r then t.modifyId r.id f else t).updateEach f stale rows := rfl
      rw [hstep, ih hids.2]
      cases hstale : stale r with
      | false =>
          simp only [Bool.false_eq_true, if_false, List.any_cons, hstale, Bool.and_false,
            Bool.false_or]
      | true =>
          rw [if_pos rfl]
          unfold modifyId
          rw [mapRows_mapRows]
          refine mapRows_congr fun e _ => ?_
          simp only [List.any_cons, hstale, Bool.and_true]
          by_cases hid : r.id = e.id
          · -- no later row has this id
            have hnone : (rows.any fun r' => r'.id == e.id && stale r') = false := by
              refine Bool.eq_false_iff.mpr fun hany => ?_
              obtain ⟨r', hr', hsame⟩ := List.any_eq_true.mp hany
              have hid' : r'.id = e.id := beq_iff_eq.mp (Bool.and_eq_true_iff.mp hsame).1
              exact hids.1 (List.mem_map.mpr ⟨r', hr', hid'.trans hid.symm⟩)
            rw [hnone, if_neg Bool.false_ne_true, if_pos hid.symm, beq_iff_eq.mpr hid,
              Bool.true_or, if_pos rfl]
          · have hne : ¬ e.id = r.id := fun h => hid h.symm
            rw [beq_false_of_ne hid, Bool.false_or, if_neg hne]

omit [DecidableEq κ] in
/-- The loop over all the rows is one UPDATE. -/
theorem updateEach_rows (f : ν → ν) (stale : Entry κ ν → Bool) (t : Keyed κ ν) :
    t.updateEach f stale t.rows
      = t.mapRows fun e => if stale e then f e.value else e.value := by
  have hids : (t.rows.map (·.id)).Nodup := t.ids.imp fun hlt => Nat.ne_of_lt hlt
  rw [updateEach_eq_any f stale hids]
  refine mapRows_congr fun e he => ?_
  have hany : (t.rows.any fun r => r.id == e.id && stale r) = stale e := by
    rw [Bool.eq_iff_iff, List.any_eq_true]
    constructor
    · rintro ⟨r, hr, hsame⟩
      obtain ⟨hid, hstale⟩ := Bool.and_eq_true_iff.mp hsame
      rw [← eq_of_id hr he (beq_iff_eq.mp hid)]
      exact hstale
    · exact fun hstale => ⟨e, he, by rw [beq_self_eq_true, hstale]; rfl⟩
  rw [hany]

/-! ## §3. A table seen through references. -/

/-- The id of the row with a key. -/
def idOf (t : Keyed κ ν) (k : κ) : Option Nat := (t.find? k).map (·.id)

theorem idOf_injective {k k' : κ} {i : Nat} (h : t.idOf k = some i) (h' : t.idOf k' = some i) :
    k = k' := by
  obtain ⟨e, he, hid⟩ := Option.map_eq_some_iff.mp h
  obtain ⟨e', he', hid'⟩ := Option.map_eq_some_iff.mp h'
  have heq : e = e' := eq_of_id (mem_of_find? he) (mem_of_find? he') (hid.trans hid'.symm)
  rw [← key_of_find? he, ← key_of_find? he', heq]

theorem Kept.idOf {t' : Keyed κ ν} (h : Kept t t') {i : Nat} (hi : t.idOf k = some i) :
    t'.idOf k = some i := by
  obtain ⟨e, he, hid⟩ := Option.map_eq_some_iff.mp hi
  obtain ⟨e', he', hid'⟩ := h.find? he
  exact Option.map_eq_some_iff.mpr ⟨e', he', hid'.trans hid⟩

theorem idOf_of_get? (h : t.get? k = some v) : ∃ i, t.idOf k = some i := by
  obtain ⟨e, he, -⟩ := Option.map_eq_some_iff.mp h
  exact ⟨e.id, Option.map_eq_some_iff.mpr ⟨e, he, rfl⟩⟩

theorem idOf_of_mem (he : e ∈ t.rows) : t.idOf e.key = some e.id :=
  Option.map_eq_some_iff.mpr ⟨e, find?_of_mem he, rfl⟩

theorem idOf_upsert_self (t : Keyed κ ν) (k : κ) (new : ν) (merge : ν → ν) :
    ∃ i, (t.upsert k new merge).idOf k = some i :=
  idOf_of_get? get?_upsert_self

theorem idOf_mapRows {f : Entry κ ν → ν} : (t.mapRows f).idOf k = t.idOf k := by
  unfold idOf
  rw [find?_mapRows, Option.map_map]
  rfl

/-- One row of a loop that keeps the ids it was told, newest first. -/
def putId (s : Keyed κ ν × List (κ × Nat)) (a : κ × ν) : Keyed κ ν × List (κ × Nat) :=
  let t := s.1.upsert a.1 a.2 fun _ => a.2
  (t, (a.1, (t.idOf a.1).getD 0) :: s.2)

variable {ids : List (κ × Nat)}

theorem foldl_putId_fst : (l.foldl putId (t, ids)).1 = t.putAll l := by
  induction l generalizing t ids with
  | nil => rfl
  | cons a l ih => exact ih

/-- The ids are those of the table that the loop leaves. -/
theorem mem_foldl_putId {p : κ × Nat} (hp : p ∈ (l.foldl putId (t, ids)).2) :
    p ∈ ids ∨ ((∃ a ∈ l, a.1 = p.1) ∧ (t.putAll l).idOf p.1 = some p.2) := by
  induction l generalizing t ids with
  | nil => exact .inl hp
  | cons a l ih =>
      rcases ih hp with hmem | ⟨⟨b, hb, hkey⟩, hid⟩
      · rcases List.mem_cons.mp hmem with rfl | hold
        · obtain ⟨i, hi⟩ := idOf_upsert_self t a.1 a.2 fun _ => a.2
          refine .inr ⟨⟨a, List.mem_cons_self, rfl⟩, ?_⟩
          rw [putAll_cons, (kept_putAll _ l).idOf hi, hi]
          rfl
        · exact .inl hold
      · exact .inr ⟨⟨b, List.mem_cons_of_mem a hb, hkey⟩, hid⟩

/-- A key that is not in the list keeps its entry. -/
theorem lookup_foldl_putId_of_not (h : ¬ ∃ a ∈ l, a.1 = k) :
    (l.foldl putId (t, ids)).2.lookup k = ids.lookup k := by
  induction l generalizing t ids with
  | nil => rfl
  | cons a l ih =>
      have hne : ¬ k = a.1 := fun heq => h ⟨a, List.mem_cons_self, heq.symm⟩
      rw [List.foldl_cons]
      unfold putId at ih ⊢
      rw [ih fun ⟨b, hb, hkey⟩ => h ⟨b, List.mem_cons_of_mem a hb, hkey⟩, List.lookup_cons,
        beq_false_of_ne hne]

/-- Each key of the list has its id. -/
theorem lookup_foldl_putId (h : ∃ a ∈ l, a.1 = k) :
    (l.foldl putId (t, ids)).2.lookup k = (t.putAll l).idOf k := by
  induction l generalizing t ids with
  | nil =>
      obtain ⟨a, ha, -⟩ := h
      exact absurd ha List.not_mem_nil
  | cons a l ih =>
      rw [putAll_cons, List.foldl_cons]
      by_cases hl : ∃ b ∈ l, b.1 = k
      · exact ih hl
      · -- the entry of `k` is that of `a`
        have hkey : a.1 = k := by
          obtain ⟨b, hb, hbk⟩ := h
          rcases List.mem_cons.mp hb with rfl | hb
          · exact hbk
          · exact absurd ⟨b, hb, hbk⟩ hl
        obtain ⟨i, hi⟩ := idOf_upsert_self t a.1 a.2 fun _ => a.2
        have hlast : (l.foldl putId (putId (t, ids) a)).2.lookup k
            = (putId (t, ids) a).2.lookup k := lookup_foldl_putId_of_not hl
        rw [hlast]
        unfold putId
        rw [List.lookup_cons, hkey, beq_self_eq_true]
        rw [hkey] at hi
        rw [hi, (kept_putAll _ l).idOf hi]
        rfl

/-- Each key of the list has an id. -/
theorem exists_lookup_putId (hl : Consistent l) (h : ∃ a ∈ l, a.1 = k) :
    ∃ i, (l.foldl putId (t, [])).2.lookup k = some i := by
  obtain ⟨a, ha, rfl⟩ := h
  have hget : (t.putAll l).get? a.1 = some a.2 := by
    rw [get?_putAll hl, (lookup_eq_some_iff hl).mpr ha, Option.some_or]
  rw [lookup_foldl_putId ⟨a, ha, rfl⟩]
  exact idOf_of_get? hget

/-- A written key is found under the id that the loop was told. -/
theorem idOf_putAll (hl : Consistent l) (h : ∃ a ∈ l, a.1 = k) :
    (t.putAll l).idOf k = some (((l.foldl putId (t, [])).2.lookup k).getD 0) := by
  obtain ⟨i, hi⟩ := exists_lookup_putId (t := t) hl h
  rw [← lookup_foldl_putId h, hi, Option.getD_some]

/-- The rows under the ids that the loop was told are the rows it wrote. -/
theorem mem_ids_iff (he : e ∈ (t.putAll l).rows) :
    e.id ∈ (l.foldl putId (t, [])).2.map (·.2) ↔ ∃ a ∈ l, a.1 = e.key := by
  constructor
  · intro h
    obtain ⟨p, hp, hid⟩ := List.mem_map.mp h
    rcases mem_foldl_putId hp with hnone | ⟨hwritten, hfound⟩
    · exact absurd hnone List.not_mem_nil
    · have hown := idOf_of_mem he
      rw [← hid] at hown
      rw [← idOf_injective hfound hown]
      exact hwritten
  · intro h
    have hlook : (l.foldl putId (t, [])).2.lookup e.key = some e.id :=
      (lookup_foldl_putId h).trans (idOf_of_mem he)
    exact List.mem_map.mpr ⟨(e.key, e.id), mem_of_lookup hlook, rfl⟩

/-- The rows of a table, by what their keys refer to. -/
def seen (ref : η → Option κ) (t : Keyed κ ν) (n : η) : Option ν := (ref n).bind t.get?

/-- Every key is the reference of something. -/
def Referenced (ref : η → Option κ) (t : Keyed κ ν) : Prop := ∀ e ∈ t.rows, ∃ n, ref n = some e.key

section Seen

variable [DecidableEq η] {ref ref' : η → Option κ} {m : List (η × ν)}

omit [DecidableEq κ] [DecidableEq η] in
/-- Rows that are written under their references. -/
theorem consistent_of_references (hinj : ∀ n n' k, ref' n = some k → ref' n' = some k → n = n')
    (hm : Consistent m) (hl : ∀ k v, (k, v) ∈ l ↔ ∃ n, ref' n = some k ∧ (n, v) ∈ m) :
    Consistent l := by
  intro a ha b hb hkey
  obtain ⟨n, hn, hmem⟩ := (hl a.1 a.2).mp ha
  obtain ⟨n', hn', hmem'⟩ := (hl b.1 b.2).mp hb
  obtain rfl : n = n' := hinj n n' a.1 hn (hn'.trans (congrArg some hkey.symm))
  exact hm (n, a.2) hmem (n, b.2) hmem' rfl

theorem bind_replaced (hext : ∀ n k, ref n = some k → ref' n = some k)
    (hinj : ∀ n n' k, ref' n = some k → ref' n' = some k → n = n') (hold : t.Referenced ref)
    (hm : Consistent m) (hnamed : ∀ a ∈ m, ref' a.1 ≠ none)
    (hl : ∀ k v, (k, v) ∈ l ↔ ∃ n, ref' n = some k ∧ (n, v) ∈ m) (n : η) :
    (ref' n).bind (replaced absent l t.get?) = replaced absent m (t.seen ref) n := by
  have hconsistent : Consistent l := consistent_of_references hinj hm hl
  cases hn : ref' n with
  | none =>
      have hlook : m.lookup n = none :=
        lookup_eq_none_iff.mpr fun a ha heq => hnamed a ha (heq ▸ hn)
      have hseen : t.seen ref n = none := by
        unfold seen
        cases hr : ref n with
        | none => rfl
        | some k => rw [hext n k hr] at hn; cases hn
      unfold replaced
      rw [hlook, hseen]
      rfl
  | some k =>
      have hlook : l.lookup k = m.lookup n := by
        refine Option.ext fun v => ?_
        rw [lookup_eq_some_iff hconsistent, lookup_eq_some_iff hm, hl]
        constructor
        · rintro ⟨n', hn', hmem⟩
          rw [hinj n n' k hn hn']
          exact hmem
        · exact fun hmem => ⟨n, hn, hmem⟩
      have hget : t.get? k = t.seen ref n := by
        unfold seen
        cases hr : ref n with
        | some k' =>
            rw [hext n k' hr] at hn
            rw [Option.some.inj hn]
            rfl
        | none =>
            -- a row with this key would be one of `n`
            have hnone : ∀ e ∈ t.rows, e.key ≠ k := by
              intro e he heq
              obtain ⟨n', hn'⟩ := hold e he
              rw [heq] at hn'
              rw [hinj n' n k (hext n' k hn') hn, hr] at hn'
              cases hn'
            unfold get?
            rw [find?_eq_none_iff.mpr hnone]
            rfl
      show replaced absent l t.get? k = replaced absent m (t.seen ref) n
      unfold replaced
      rw [hlook, hget]

/-- **A takeover, seen through references** that are kept: what the list names
    by reference is replaced. -/
theorem TakenOver.seen {t' : Keyed κ ν} (h : TakenOver absent l t t')
    (hext : ∀ n k, ref n = some k → ref' n = some k)
    (hinj : ∀ n n' k, ref' n = some k → ref' n' = some k → n = n') (hold : t.Referenced ref)
    (hm : Consistent m) (hnamed : ∀ a ∈ m, ref' a.1 ≠ none)
    (hl : ∀ k v, (k, v) ∈ l ↔ ∃ n, ref' n = some k ∧ (n, v) ∈ m) :
    t'.seen ref' = replaced absent m (t.seen ref) := by
  funext n
  have hcolumns : t'.get? = replaced absent l t.get? := funext h.columns
  unfold Keyed.seen
  rw [hcolumns]
  exact bind_replaced hext hinj hold hm hnamed hl n

omit [DecidableEq η] in
/-- The references of a table reach the rows that took it over. -/
theorem TakenOver.referenced {t' : Keyed κ ν} (h : TakenOver absent l t t')
    (hext : ∀ n k, ref n = some k → ref' n = some k) (hold : t.Referenced ref)
    (hl : ∀ k v, (k, v) ∈ l ↔ ∃ n, ref' n = some k ∧ (n, v) ∈ m) : t'.Referenced ref' := by
  intro e he
  rcases h.origin e he with ⟨e₀, he₀, -, hkey⟩ | ⟨a, ha, hkey⟩
  · obtain ⟨n, hn⟩ := hold e₀ he₀
    rw [hkey] at hn
    exact ⟨n, hext n e.key hn⟩
  · obtain ⟨n, hn, -⟩ := (hl a.1 a.2).mp ha
    rw [hkey] at hn
    exact ⟨n, hn⟩

end Seen

end Keyed

end Cai.Lib
