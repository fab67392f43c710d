/-
  Cai.Lib.Keyset — the pages of a table that changes between them.

  A page is cut from the rows that match at its moment: those behind the key
  of the last page, in the order of the keys, with one row more than it
  shows to know whether another page follows.  No row is locked between two
  pages and none is numbered, so that rows may come and go.

  Main results:
    * `page_covers` — a page leaves out no row up to its end.
    * `walk_increasing` — over all pages, the keys only grow.
    * `walk_complete` — a row that is there at every page is listed once.
-/
import Mathlib.Data.List.Sort
import Mathlib.Data.List.Count
import Mathlib.Data.List.MinMax
import Mathlib.Order.Lattice

namespace Cai.Lib.Keyset

variable {ρ κ : Type*} [LinearOrder κ]

/-! ## §1. A page. -/

/-- The key is behind `after`, where there is one. -/
def behind (after : Option κ) (k : κ) : Bool := after.all fun a => decide (a < k)

/-- `WHERE key > after ORDER BY key` -/
def listed (key : ρ → κ) (after : Option κ) (rows : List ρ) : List ρ :=
  (rows.filter fun r => behind after (key r)).insertionSort fun a b => key a ≤ key b

structure Page (ρ κ : Type*) where
  rows : List ρ
  /-- Where the next page begins. -/
  nextAfter : Option κ
  deriving DecidableEq, Repr

/-- The page with `limit` rows behind `after`. -/
def page (key : ρ → κ) (limit : Nat) (after : Option κ) (rows : List ρ) : Page ρ κ :=
  let found := (listed key after rows).take (limit + 1)
  let shown := found.take limit
  { rows := shown, nextAfter := if limit < found.length then shown.getLast?.map key else none }

variable {key : ρ → κ} {limit : Nat} {after : Option κ} {rows : List ρ} {r : ρ} {k : κ}

theorem behind_iff : behind after k = true ↔ ∀ a, after = some a → a < k := by
  unfold behind
  cases after with
  | none => simp
  | some a => simp

theorem mem_listed : r ∈ listed key after rows ↔ r ∈ rows ∧ behind after (key r) = true := by
  unfold listed
  rw [List.mem_insertionSort, List.mem_filter]

/-- No two rows share a key. -/
def Distinct (key : ρ → κ) (rows : List ρ) : Prop := (rows.map key).Nodup

theorem listed_increasing (h : Distinct key rows) :
    (listed key after rows).Pairwise fun a b => key a < key b := by
  have hsorted : (listed key after rows).Pairwise fun a b => key a ≤ key b := by
    have : Std.Total fun a b : ρ => key a ≤ key b := ⟨fun a b => le_total (key a) (key b)⟩
    have : IsTrans ρ fun a b => key a ≤ key b := ⟨fun _ _ _ hab hbc => le_trans hab hbc⟩
    exact List.pairwise_insertionSort _ _
  have hnodup : ((listed key after rows).map key).Nodup := by
    have hperm : (listed key after rows).Perm (rows.filter fun r => behind after (key r)) :=
      List.perm_insertionSort _ _
    rw [(hperm.map key).nodup_iff]
    exact h.sublist (List.filter_sublist.map key)
  have hne : (listed key after rows).Pairwise fun a b => key a ≠ key b := List.pairwise_map.mp hnodup
  exact (hsorted.and hne).imp fun ⟨hle, hne⟩ => lt_of_le_of_ne hle hne

theorem rows_page : (page key limit after rows).rows = (listed key after rows).take limit := by
  unfold page
  dsimp only
  rw [List.take_take, Nat.min_eq_left (Nat.le_succ limit)]

theorem nextAfter_page :
    (page key limit after rows).nextAfter
      = if limit < (listed key after rows).length then
          ((listed key after rows).take limit).getLast?.map key
        else none := by
  unfold page
  dsimp only
  rw [List.take_take, Nat.min_eq_left (Nat.le_succ limit), List.length_take]
  refine if_congr ?_ rfl rfl
  omega

theorem mem_page (h : r ∈ (page key limit after rows).rows) :
    r ∈ rows ∧ behind after (key r) = true := by
  rw [rows_page] at h
  exact mem_listed.mp (List.mem_of_mem_take h)

theorem page_increasing (h : Distinct key rows) :
    (page key limit after rows).rows.Pairwise fun a b => key a < key b := by
  rw [rows_page]
  exact (listed_increasing h).sublist (List.take_sublist _ _)

/-- The next page begins behind the last row. -/
theorem nextAfter_eq_some (h : (page key limit after rows).nextAfter = some k) :
    limit < (listed key after rows).length
      ∧ ∃ front last, (page key limit after rows).rows = front ++ [last] ∧ key last = k := by
  rw [nextAfter_page] at h
  split at h
  next hmore =>
    obtain ⟨last, hlast, hkey⟩ := Option.map_eq_some_iff.mp h
    obtain ⟨front, hfront⟩ := List.getLast?_eq_some_iff.mp hlast
    exact ⟨hmore, front, last, by rw [rows_page, hfront], hkey⟩
  next => cases h

/-- No row of a page is behind the next one. -/
theorem page_le (h : Distinct key rows) (hnext : (page key limit after rows).nextAfter = some k)
    (hr : r ∈ (page key limit after rows).rows) : key r ≤ k := by
  obtain ⟨-, front, last, hrows, hkey⟩ := nextAfter_eq_some hnext
  have hincreasing : (page key limit after rows).rows.Pairwise fun a b => key a < key b :=
    page_increasing h
  rw [hrows] at hincreasing hr
  rcases List.mem_append.mp hr with hfront | hlast
  · rw [← hkey]
    exact le_of_lt ((List.pairwise_append.mp hincreasing).2.2 r hfront last List.mem_cons_self)
  · rw [List.mem_singleton.mp hlast, hkey]

/-- The end of a page is behind its beginning. -/
theorem behind_nextAfter (hnext : (page key limit after rows).nextAfter = some k) :
    behind after k = true := by
  obtain ⟨-, front, last, hrows, hkey⟩ := nextAfter_eq_some hnext
  have hlast : last ∈ (page key limit after rows).rows := by
    rw [hrows]
    exact List.mem_append_right _ List.mem_cons_self
  rw [← hkey]
  exact (mem_page hlast).2

/-- **A page leaves out no row up to its end.** -/
theorem page_covers (hlimit : 0 < limit) (h : Distinct key rows) (hr : r ∈ rows)
    (hbehind : behind after (key r) = true)
    (hend : ∀ k, (page key limit after rows).nextAfter = some k → key r ≤ k) :
    r ∈ (page key limit after rows).rows := by
  have hlisted : r ∈ listed key after rows := mem_listed.mpr ⟨hr, hbehind⟩
  by_cases hmore : limit < (listed key after rows).length
  · -- the page is full: its last row is the end
    have hne : (listed key after rows).take limit ≠ [] := by
      intro hnil
      have hlength := congrArg List.length hnil
      rw [List.length_take, List.length_nil] at hlength
      omega
    have hle := hend (key (((listed key after rows).take limit).getLast hne)) (by
      rw [nextAfter_page, if_pos hmore, List.getLast?_eq_some_getLast hne]
      rfl)
    have hlast := List.getLast_mem hne
    rw [rows_page]
    by_contra hnot
    -- a row that was left out stands behind the last one
    have hsplit : (listed key after rows).Pairwise fun a b => key a < key b := listed_increasing h
    rw [← List.take_append_drop limit (listed key after rows)] at hsplit hlisted
    have hdrop := (List.mem_append.mp hlisted).resolve_left hnot
    exact absurd hle (not_le.mpr ((List.pairwise_append.mp hsplit).2.2 _ hlast r hdrop))
  · rw [rows_page, List.take_of_length_le (Nat.le_of_not_lt hmore)]
    exact hlisted

/-- Every row is on the page behind the row before it. -/
theorem exists_page (hlimit : 0 < limit) (h : Distinct key rows) (hr : r ∈ rows) :
    ∃ after, r ∈ (page key limit after rows).rows := by
  -- a page that ends before `r` shows a row between the two
  have hends {after : Option κ} {k : κ} (hnext : (page key limit after rows).nextAfter = some k) :
      ∃ last ∈ rows, key last = k ∧ behind after (key last) = true := by
    obtain ⟨-, front, last, hrows, hkey⟩ := nextAfter_eq_some hnext
    have hlast : last ∈ (page key limit after rows).rows := by
      rw [hrows]
      exact List.mem_append_right front List.mem_cons_self
    exact ⟨last, (mem_page hlast).1, hkey, (mem_page hlast).2⟩
  cases hbefore : (rows.filter fun a => key a < key r).argmax key with
  | none =>
      refine ⟨none, page_covers hlimit h hr rfl fun k hnext => ?_⟩
      obtain ⟨last, hlast, rfl, -⟩ := hends hnext
      by_contra hlt
      have hmem : last ∈ rows.filter fun a => key a < key r :=
        List.mem_filter.mpr ⟨hlast, decide_eq_true (not_le.mp hlt)⟩
      rw [List.argmax_eq_none.mp hbefore] at hmem
      exact absurd hmem List.not_mem_nil
  | some before =>
      have hlt : key before < key r :=
        of_decide_eq_true (List.mem_filter.mp (List.argmax_mem hbefore)).2
      refine ⟨some (key before), page_covers hlimit h hr (decide_eq_true hlt) fun k hnext => ?_⟩
      obtain ⟨last, hlast, rfl, hbehind⟩ := hends hnext
      by_contra hnot
      have hmem : last ∈ rows.filter fun a => key a < key r :=
        List.mem_filter.mpr ⟨hlast, decide_eq_true (not_le.mp hnot)⟩
      have hle : key last ≤ key before := List.le_of_mem_argmax hmem hbefore
      exact absurd hle (not_le.mpr (of_decide_eq_true hbehind))

/-! ## §2. A walk over the pages. -/

/-- A call: its limit, and the rows that match at its moment. -/
structure Call (ρ : Type*) where
  limit : Nat
  rows : List ρ

/-- The pages of a run of calls, until one has no next page. -/
def walk (key : ρ → κ) : Option κ → List (Call ρ) → List (Page ρ κ)
  | _, [] => []
  | after, call :: calls =>
      let first := page key call.limit after call.rows
      first :: match first.nextAfter with
        | none => []
        | some k => walk key (some k) calls

/-- All rows of the pages. -/
def rowsOf (pages : List (Page ρ κ)) : List ρ := pages.flatMap (·.rows)

variable {calls : List (Call ρ)} {call : Call ρ}

theorem walk_cons_last (h : (page key call.limit after call.rows).nextAfter = none) :
    walk key after (call :: calls) = [page key call.limit after call.rows] := by
  unfold walk
  dsimp only
  rw [h]

theorem walk_cons_more (h : (page key call.limit after call.rows).nextAfter = some k) :
    walk key after (call :: calls)
      = page key call.limit after call.rows :: walk key (some k) calls := by
  rw [walk, h]

theorem length_walk_le : (walk key after calls).length ≤ calls.length := by
  induction calls generalizing after with
  | nil => exact Nat.le_refl 0
  | cons call calls ih =>
      cases hnext : (page key call.limit after call.rows).nextAfter with
      | none =>
          rw [walk_cons_last hnext]
          exact Nat.succ_le_succ (Nat.zero_le _)
      | some k =>
          rw [walk_cons_more hnext]
          exact Nat.succ_le_succ ih

/-- Every row of a page is one of its call. -/
theorem walk_reads :
    ∀ p ∈ (walk key after calls).zip calls, ∀ r ∈ p.1.rows, r ∈ p.2.rows := by
  induction calls generalizing after with
  | nil => exact nofun
  | cons call calls ih =>
      intro p hp r hr
      cases hnext : (page key call.limit after call.rows).nextAfter with
      | none =>
          rw [walk_cons_last hnext, List.zip_cons_cons, List.zip_nil_left] at hp
          rw [List.mem_singleton.mp hp] at hr ⊢
          exact (mem_page hr).1
      | some k =>
          rw [walk_cons_more hnext, List.zip_cons_cons] at hp
          rcases List.mem_cons.mp hp with rfl | hrest
          · exact (mem_page hr).1
          · exact ih p hrest r hr

/-- **Over all pages, the keys only grow.** -/
theorem walk_increasing (h : ∀ call ∈ calls, Distinct key call.rows) :
    (rowsOf (walk key after calls)).Pairwise (fun a b => key a < key b)
      ∧ ∀ r ∈ rowsOf (walk key after calls), behind after (key r) = true := by
  induction calls generalizing after with
  | nil => exact ⟨.nil, nofun⟩
  | cons call calls ih =>
      have hfirst := h call List.mem_cons_self
      cases hnext : (page key call.limit after call.rows).nextAfter with
      | none =>
          rw [walk_cons_last hnext]
          unfold rowsOf
          rw [List.flatMap_singleton]
          exact ⟨page_increasing hfirst, fun r hr => (mem_page hr).2⟩
      | some k =>
          obtain ⟨hincreasing, hbehind⟩ :
              (rowsOf (walk key (some k) calls)).Pairwise (fun a b => key a < key b)
                ∧ ∀ r ∈ rowsOf (walk key (some k) calls), behind (some k) (key r) = true :=
            ih fun c hc => h c (List.mem_cons_of_mem _ hc)
          have hlt : ∀ r ∈ rowsOf (walk key (some k) calls), k < key r :=
            fun r hr => behind_iff.mp (hbehind r hr) k rfl
          rw [walk_cons_more hnext]
          show ((page key call.limit after call.rows).rows ++ rowsOf (walk key (some k) calls)).Pairwise _
            ∧ ∀ r ∈ (page key call.limit after call.rows).rows ++ rowsOf (walk key (some k) calls), _
          refine ⟨List.pairwise_append.mpr ⟨page_increasing hfirst, hincreasing, ?_⟩, ?_⟩
          · intro a ha b hb
            exact lt_of_le_of_lt (page_le hfirst hnext ha) (hlt b hb)
          · intro r hr
            rcases List.mem_append.mp hr with hpage | hrest
            · exact (mem_page hpage).2
            · refine behind_iff.mpr fun a ha => ?_
              exact lt_trans (behind_iff.mp (behind_nextAfter hnext) a ha) (hlt r hrest)

/-- The last page says that there is no other. -/
def Ended (pages : List (Page ρ κ)) : Prop := ∃ last, pages.getLast? = some last ∧ last.nextAfter = none

/-- A key with a row at every call that was made is listed. -/
theorem walk_covers (hlimit : ∀ call ∈ calls, 0 < call.limit)
    (h : ∀ call ∈ calls, Distinct key call.rows) (hended : Ended (walk key after calls))
    (hbehind : behind after k = true)
    (hstays : ∀ call ∈ calls.take (walk key after calls).length, ∃ r ∈ call.rows, key r = k) :
    ∃ r ∈ rowsOf (walk key after calls), key r = k := by
  induction calls generalizing after with
  | nil =>
      obtain ⟨last, hlast, -⟩ := hended
      cases hlast
  | cons call calls ih =>
      have hfirst := h call List.mem_cons_self
      have hpos := hlimit call List.mem_cons_self
      cases hnext : (page key call.limit after call.rows).nextAfter with
      | none =>
          rw [walk_cons_last hnext] at hstays ⊢
          obtain ⟨r, hr, rfl⟩ := hstays call List.mem_cons_self
          refine ⟨r, ?_, rfl⟩
          unfold rowsOf
          rw [List.flatMap_singleton]
          exact page_covers hpos hfirst hr hbehind fun k hk => by rw [hnext] at hk; cases hk
      | some k' =>
          rw [walk_cons_more hnext] at hended hstays ⊢
          obtain ⟨r, hr, rfl⟩ := hstays call List.mem_cons_self
          show ∃ r' ∈ (page key call.limit after call.rows).rows ++ rowsOf (walk key (some k') calls), _
          by_cases hle : key r ≤ k'
          · refine ⟨r, List.mem_append_left _ (page_covers hpos hfirst hr hbehind ?_), rfl⟩
            intro k hk
            rw [hnext] at hk
            cases hk
            exact hle
          · -- the row stands behind this page
            have hended' : Ended (walk key (some k') calls) := by
              obtain ⟨last, hlast, hnone⟩ := hended
              cases hwalk : walk key (some k') calls with
              | nil =>
                  rw [hwalk, List.getLast?_singleton] at hlast
                  rw [← Option.some.inj hlast, hnext] at hnone
                  cases hnone
              | cons second rest =>
                  rw [hwalk, List.getLast?_cons_cons] at hlast
                  exact ⟨last, hlast, hnone⟩
            obtain ⟨r', hr', hkey⟩ := ih (fun c hc => hlimit c (List.mem_cons_of_mem _ hc))
              (fun c hc => h c (List.mem_cons_of_mem _ hc)) hended'
              (behind_iff.mpr fun a ha => by cases ha; exact lt_of_not_ge hle)
              fun c hc => hstays c (List.mem_cons_of_mem _ hc)
            exact ⟨r', List.mem_append_right _ hr', hkey⟩

/-- **A row that is there at every page is listed once.** -/
theorem walk_complete [BEq κ] [LawfulBEq κ] (hlimit : ∀ call ∈ calls, 0 < call.limit)
    (h : ∀ call ∈ calls, Distinct key call.rows) (hended : Ended (walk key none calls))
    (hstays : ∀ call ∈ calls.take (walk key none calls).length, ∃ r ∈ call.rows, key r = k) :
    ((rowsOf (walk key none calls)).map key).count k = 1 := by
  obtain ⟨r, hr, hkey⟩ := walk_covers hlimit h hended (behind_iff.mpr nofun) hstays
  have hnodup : ((rowsOf (walk key none calls)).map key).Nodup :=
    List.pairwise_map.mpr ((walk_increasing h).1.imp fun hlt => ne_of_lt hlt)
  exact List.count_eq_one_of_mem hnodup (List.mem_map.mpr ⟨r, hr, hkey⟩)

end Cai.Lib.Keyset
