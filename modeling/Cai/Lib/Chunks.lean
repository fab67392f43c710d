/-
  Cai.Lib.Chunks — greedy chunks of a list.

  A list is cut into chunks whose cost has a limit, and no chunk could take
  the first element of the next one.  An element that is too dear on its
  own is a chunk of one.  There is only one such cut.

  Main result: `Greedy.unique`.
-/
import Mathlib.Algebra.BigOperators.Group.List.Basic
import Mathlib.Algebra.GroupWithZero.Nat
import Mathlib.Data.List.Chain

namespace Cai.Lib

variable {α : Type*} {cost : α → Nat} {limit : Nat} {l : List α} {cs cs' : List (List α)}

/-- The chunk could not take the first element of the next one. -/
def Full (cost : α → Nat) (limit : Nat) (chunk next : List α) : Prop :=
  ∀ first, next.head? = some first → limit < (chunk.map cost).sum + cost first

/-- The greedy chunks of a list. -/
structure Greedy (cost : α → Nat) (limit : Nat) (l : List α) (cs : List (List α)) : Prop where
  /-- Nothing is lost, and the order is kept. -/
  flatten : cs.flatten = l
  nonempty : ∀ c ∈ cs, c ≠ []
  within : ∀ c ∈ cs, 2 ≤ c.length → (c.map cost).sum ≤ limit
  maximal : cs.IsChain (Full cost limit)

theorem greedy_nil : Greedy cost limit [] [] :=
  ⟨rfl, fun _ hc => absurd hc List.not_mem_nil, fun _ hc => absurd hc List.not_mem_nil, .nil⟩

theorem Greedy.tail {c : List α} (h : Greedy cost limit l (c :: cs)) :
    Greedy cost limit cs.flatten cs :=
  ⟨rfl, fun d hd => h.nonempty d (List.mem_cons_of_mem _ hd),
    fun d hd => h.within d (List.mem_cons_of_mem _ hd), h.maximal.tail⟩

/-- One chunk more, in front. -/
theorem Greedy.cons {c d : List α} (h : Greedy cost limit l (d :: cs)) (hne : c ≠ [])
    (hwithin : 2 ≤ c.length → (c.map cost).sum ≤ limit) (hfull : Full cost limit c d) :
    Greedy cost limit (c ++ l) (c :: d :: cs) := by
  refine ⟨?_, fun e he => ?_, fun e he => ?_, List.isChain_cons_cons.mpr ⟨hfull, h.maximal⟩⟩
  · rw [List.flatten_cons, h.flatten]
  · rcases List.mem_cons.mp he with rfl | hrest
    · exact hne
    · exact h.nonempty e hrest
  · rcases List.mem_cons.mp he with rfl | hrest
    · exact hwithin
    · exact h.within e hrest

/-- What follows a chunk does not fit into it. -/
theorem Greedy.limit_lt {c rest : List α} {first : α} (h : Greedy cost limit l (c :: cs))
    (hrest : cs.flatten = first :: rest) : limit < (c.map cost).sum + cost first := by
  cases cs with
  | nil => cases hrest
  | cons d cs =>
      have hne : d ≠ [] := h.nonempty d (List.mem_cons_of_mem _ List.mem_cons_self)
      obtain ⟨hfull, -⟩ := List.isChain_cons_cons.mp h.maximal
      refine hfull first ?_
      cases d with
      | nil => exact absurd rfl hne
      | cons a d =>
          rw [List.flatten_cons, List.cons_append] at hrest
          exact congrArg some (List.cons.inj hrest).1

/-- A first chunk is not longer than another first chunk. -/
theorem Greedy.not_longer {c more : List α} (h : Greedy cost limit l (c :: cs))
    (h' : Greedy cost limit l ((c ++ more) :: cs')) : more = [] := by
  have hflatten : c ++ cs.flatten = c ++ (more ++ cs'.flatten) := by
    rw [← List.append_assoc]
    exact h.flatten.trans h'.flatten.symm
  have hrest := List.append_cancel_left hflatten
  cases more with
  | nil => rfl
  | cons first more =>
      exfalso
      have hlt : limit < (c.map cost).sum + cost first := h.limit_lt hrest
      have hlength : 2 ≤ (c ++ first :: more).length := by
        have hne : 0 < c.length := List.length_pos_iff.mpr (h.nonempty c List.mem_cons_self)
        rw [List.length_append, List.length_cons]
        omega
      have hle := h'.within _ List.mem_cons_self hlength
      rw [List.map_append, List.sum_append, List.map_cons, List.sum_cons] at hle
      omega

/-- **There is only one greedy cut.** -/
theorem Greedy.unique (h : Greedy cost limit l cs) (h' : Greedy cost limit l cs') : cs = cs' := by
  induction cs generalizing l cs' with
  | nil =>
      have hnil : cs'.flatten = [] := h'.flatten.trans h.flatten.symm
      cases cs' with
      | nil => rfl
      | cons c' cs' =>
          rw [List.flatten_cons, List.append_eq_nil_iff] at hnil
          exact absurd hnil.1 (h'.nonempty c' List.mem_cons_self)
  | cons c cs ih =>
      cases cs' with
      | nil =>
          have hnil : (c :: cs).flatten = [] := h.flatten.trans h'.flatten.symm
          rw [List.flatten_cons, List.append_eq_nil_iff] at hnil
          exact absurd hnil.1 (h.nonempty c List.mem_cons_self)
      | cons c' cs' =>
          have heq : c ++ cs.flatten = c' ++ cs'.flatten := h.flatten.trans h'.flatten.symm
          -- one of the two first chunks begins with the other
          have hfirst : c = c' := by
            rcases List.append_eq_append_iff.mp heq with ⟨more, hc, -⟩ | ⟨more, hc, -⟩
            · rw [hc] at h'
              rw [hc, h.not_longer h', List.append_nil]
            · rw [hc] at h
              rw [hc, h'.not_longer h, List.append_nil]
          rw [hfirst] at heq ⊢
          have hrest := List.append_cancel_left heq
          have htail' := h'.tail
          rw [← hrest] at htail'
          rw [ih h.tail htail']

/-- A list that costs no more than the limit is one chunk. -/
theorem greedy_singleton (hne : l ≠ []) (hwithin : (l.map cost).sum ≤ limit) :
    Greedy cost limit l [l] :=
  ⟨List.append_nil l, fun _ hc => List.mem_singleton.mp hc ▸ hne,
    fun _ hc _ => List.mem_singleton.mp hc ▸ hwithin, .singleton l⟩

end Cai.Lib
