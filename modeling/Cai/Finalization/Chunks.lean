/-
  Cai.Finalization.Chunks — the chunks of a long context.

  `chunk_messages` of `src/core/finalization.py` (`chunkMessages`), whose
  chunks are summarized one by one where the context of a cycle is too
  long.

  Main results:
    * `chunkMessages_greedy` — nothing is lost, and the limit is respected.
    * `chunkMessages_unique` — no other cut does this.
    * `reductionsOf_ids` — the reductions name all messages, in their order.
-/
import Mathlib.Algebra.Order.Floor.Semifield
import Mathlib.Data.Rat.Floor
import Cai.Lib.Chunks
import Cai.Finalization.Context

namespace Cai.Finalization

open Cai.Lib
open Cai.Cycle (Message Reduction)

variable {tokenLimit tokens : Nat} {m : Message} {current rest messages : List Message}

/-- `math.ceil(len(text.encode("utf-8")) / 3)` -/
theorem estimateTokens_eq_ceil (text : String) :
    estimateTokens text = ⌈(text.utf8ByteSize : ℚ) / 3⌉₊ := by
  unfold estimateTokens
  refine le_antisymm ?_ (Nat.ceil_le.mpr ?_)
  · have hceil := Nat.le_ceil ((text.utf8ByteSize : ℚ) / 3)
    rw [div_le_iff₀ (by norm_num)] at hceil
    have hnat : text.utf8ByteSize ≤ ⌈(text.utf8ByteSize : ℚ) / 3⌉₊ * 3 := by exact_mod_cast hceil
    omega
  · rw [div_le_iff₀ (by norm_num)]
    have hnat : text.utf8ByteSize ≤ (text.utf8ByteSize + 2) / 3 * 3 := by omega
    exact_mod_cast hnat

/-! ## §1. The loop. -/

/-- The first chunk begins with the chunk that is being filled. -/
theorem chunkFrom_head (hne : current ≠ []) :
    ∃ more cs, chunkFrom tokenLimit current tokens rest = (current ++ more) :: cs := by
  induction rest generalizing current tokens with
  | nil =>
      refine ⟨[], [], ?_⟩
      rw [chunkFrom, if_neg (by rw [List.isEmpty_iff]; exact hne), List.append_nil]
  | cons m rest ih =>
      rw [chunkFrom]
      split
      next => exact ⟨[], _, by rw [List.append_nil]⟩
      next =>
        have hne' : current ++ [m] ≠ [] := List.append_ne_nil_of_right_ne_nil _ (List.cons_ne_nil m [])
        obtain ⟨more, cs, heq⟩ := ih hne'
        exact ⟨m :: more, cs, by rw [heq, List.append_assoc, List.singleton_append]⟩

/-- **The loop**, from any chunk that is being filled. -/
theorem chunkFrom_greedy (htokens : tokens = (current.map messageCost).sum)
    (hwithin : 2 ≤ current.length → tokens ≤ tokenLimit) :
    Greedy messageCost tokenLimit (current ++ rest) (chunkFrom tokenLimit current tokens rest) := by
  induction rest generalizing current tokens with
  | nil =>
      rw [chunkFrom, List.append_nil]
      split
      next hempty =>
        rw [List.isEmpty_iff.mp hempty]
        exact greedy_nil
      next hne =>
        rw [List.isEmpty_iff] at hne
        exact ⟨List.append_nil current, fun c hc => List.mem_singleton.mp hc ▸ hne,
          fun c hc => by rw [List.mem_singleton.mp hc, ← htokens]; exact hwithin, .singleton current⟩
  | cons m rest ih =>
      have hcons : current ++ m :: rest = (current ++ [m]) ++ rest := by
        rw [List.append_assoc, List.singleton_append]
      rw [chunkFrom]
      split
      next hflush =>
        rw [Bool.and_eq_true, Bool.not_eq_true', decide_eq_true_eq, List.isEmpty_eq_false_iff] at hflush
        obtain ⟨hne, hover⟩ := hflush
        -- the chunk is full, and the next one begins with `m`
        obtain ⟨more, cs, hnext⟩ := @chunkFrom_head tokenLimit (messageCost m) [m] rest (List.cons_ne_nil m [])
        have hgreedy : Greedy messageCost tokenLimit ([m] ++ rest)
            (chunkFrom tokenLimit [m] (messageCost m) rest) := by
          refine ih ?_ fun hlength => ?_
          · rw [List.map_singleton, List.sum_singleton]
          · rw [List.length_singleton] at hlength
            omega
        rw [hnext] at hgreedy ⊢
        refine hgreedy.cons hne (htokens ▸ hwithin) fun first hfirst => ?_
        have hm : m = first := Option.some.inj hfirst
        rw [← hm, ← htokens]
        exact hover
      next hkeep =>
        rw [hcons]
        refine ih ?_ fun hlength => ?_
        · rw [List.map_append, List.sum_append, List.map_singleton, List.sum_singleton, htokens]
        · rw [List.length_append, List.length_singleton] at hlength
          have hne : current ≠ [] := by
            intro hnil
            rw [hnil, List.length_nil] at hlength
            omega
          rw [Bool.and_eq_true, Bool.not_eq_true', decide_eq_true_eq, List.isEmpty_eq_false_iff] at hkeep
          exact Nat.le_of_not_lt fun hover => hkeep ⟨hne, hover⟩

/-! ## §2. The chunks. -/

theorem greedy_chunkMessages (tokenLimit : Nat) (messages : List Message) :
    Greedy messageCost tokenLimit messages (chunkMessages tokenLimit messages) :=
  @chunkFrom_greedy tokenLimit 0 [] messages rfl fun hlength => absurd hlength (Nat.not_succ_le_zero 1)

/-- **Chunking loses nothing and respects the limit.**  The chunks together are the messages in
    their order, none is empty, a chunk of two or more messages costs no more than the limit,
    and no chunk could take the first message of the next one; a message costs a token for each
    three bytes, rounded up, and 40 more. -/
theorem chunkMessages_greedy (tokenLimit : Nat) (messages : List Message) :
    Greedy messageCost tokenLimit messages (chunkMessages tokenLimit messages)
      ∧ ∀ m : Message, messageCost m = ⌈(m.content.utf8ByteSize : ℚ) / 3⌉₊ + 40 := by
  refine ⟨greedy_chunkMessages tokenLimit messages, fun m => ?_⟩
  unfold messageCost
  rw [estimateTokens_eq_ceil]

/-- **No other cut** does this. -/
theorem chunkMessages_unique {chunks : List (List Message)}
    (h : Greedy messageCost tokenLimit messages chunks) : chunks = chunkMessages tokenLimit messages :=
  h.unique (greedy_chunkMessages tokenLimit messages)

/-- Messages that cost no more than the limit are one chunk. -/
theorem chunkMessages_of_within (hne : messages ≠ [])
    (hwithin : (messages.map messageCost).sum ≤ tokenLimit) :
    chunkMessages tokenLimit messages = [messages] :=
  (chunkMessages_unique (greedy_singleton hne hwithin)).symm

/-! ## §3. The reductions. -/

theorem messageIds_reductionsOf {chunks : List (List Message)} {summaries : List String}
    (hlength : summaries.length = chunks.length) :
    (reductionsOf chunks summaries).map (·.messageIds)
      = chunks.map fun chunk => chunk.map (·.messageId) := by
  unfold reductionsOf
  rw [List.map_map]
  have hfst : (chunks.zip summaries).zipIdx.map (·.1.1) = chunks := by
    show (chunks.zip summaries).zipIdx.map (Prod.fst ∘ Prod.fst) = chunks
    rw [← List.map_map, List.zipIdx_map_fst, List.map_fst_zip (Nat.le_of_eq hlength.symm)]
  conv_rhs => rw [← hfst, List.map_map]
  rfl

/-- **The reductions** name all messages in their order, and each of them names one, so that the
    first and the last id of a block exist. -/
theorem reductionsOf_ids {summaries : List String}
    (hlength : summaries.length = (chunkMessages tokenLimit messages).length) :
    (reductionsOf (chunkMessages tokenLimit messages) summaries).flatMap (·.messageIds)
        = messages.map (·.messageId)
      ∧ ∀ r ∈ reductionsOf (chunkMessages tokenLimit messages) summaries, r.messageIds ≠ [] := by
  have hgreedy := greedy_chunkMessages tokenLimit messages
  have hids := messageIds_reductionsOf hlength
  constructor
  · rw [List.flatMap_def, hids, ← List.map_flatten, hgreedy.flatten]
  · intro r hr
    have hmem : r.messageIds ∈ (reductionsOf (chunkMessages tokenLimit messages) summaries).map
        (·.messageIds) := List.mem_map_of_mem hr
    rw [hids] at hmem
    obtain ⟨chunk, hchunk, heq⟩ := List.mem_map.mp hmem
    rw [← heq, ne_eq, List.map_eq_nil_iff]
    exact hgreedy.nonempty chunk hchunk

end Cai.Finalization
