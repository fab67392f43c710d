/-
  Cai.Lib.Base64 — `base64.urlsafe_b64encode` and `urlsafe_b64decode`.

  The decoder is that of `binascii.a2b_base64`: it leaves out characters
  that are not of the alphabet, ends at a complete padding, and fails only
  where a group is left incomplete.

  Main result: `decode_pad_unpadded` — without its padding, a text can be
  padded and decoded again.
-/
import Mathlib.Data.List.DropRight
import Mathlib.Tactic.Common

namespace Cai.Lib.Base64

/-! ## §1. The alphabet. -/

/-- The character of six bits, in the alphabet for URLs. -/
def symbol (n : Nat) : Char :=
  if n < 26 then Char.ofNat (65 + n)
  else if n < 52 then Char.ofNat (97 + (n - 26))
  else if n < 62 then Char.ofNat (48 + (n - 52))
  else if n = 62 then '-'
  else '_'

/-- The six bits of a character; `+` and `/` are those of `-` and `_`. -/
def bits (c : Char) : Option Nat :=
  if 'A' ≤ c ∧ c ≤ 'Z' then some (c.toNat - 65)
  else if 'a' ≤ c ∧ c ≤ 'z' then some (c.toNat - 97 + 26)
  else if '0' ≤ c ∧ c ≤ '9' then some (c.toNat - 48 + 52)
  else if c = '-' ∨ c = '+' then some 62
  else if c = '_' ∨ c = '/' then some 63
  else none

theorem bits_symbol {n : Nat} (h : n < 64) : bits (symbol n) = some n := by
  have hall : ∀ n < 64, bits (symbol n) = some n := by decide +kernel
  exact hall n h

theorem symbol_ne {n : Nat} : symbol n ≠ '=' ∧ symbol n ≠ '.' := by
  have hall : ∀ n < 64, symbol n ≠ '=' ∧ symbol n ≠ '.' := by decide +kernel
  by_cases h : n < 64
  · exact hall n h
  · unfold symbol
    rw [if_neg (by omega), if_neg (by omega), if_neg (by omega), if_neg (by omega)]
    decide

theorem isAscii_symbol {n : Nat} : (symbol n).toNat < 128 := by
  have hall : ∀ n < 64, (symbol n).toNat < 128 := by decide +kernel
  by_cases h : n < 64
  · exact hall n h
  · unfold symbol
    rw [if_neg (by omega), if_neg (by omega), if_neg (by omega), if_neg (by omega)]
    decide

/-! ## §2. Encoding. -/

/-- The symbols of some bytes, without padding. -/
def body : List UInt8 → List Char
  | [] => []
  | [a] => [symbol (a.toNat / 4), symbol (a.toNat % 4 * 16)]
  | [a, b] =>
      [symbol (a.toNat / 4), symbol (a.toNat % 4 * 16 + b.toNat / 16), symbol (b.toNat % 16 * 4)]
  | a :: b :: c :: rest =>
      symbol (a.toNat / 4) :: symbol (a.toNat % 4 * 16 + b.toNat / 16)
        :: symbol (b.toNat % 16 * 4 + c.toNat / 64) :: symbol (c.toNat % 64) :: body rest

/-- `"=" * (-len(text) % 4)` -/
def padding (text : List Char) : List Char := List.replicate ((4 - text.length % 4) % 4) '='

/-- `base64.urlsafe_b64encode` -/
def encode (bytes : List UInt8) : List Char := body bytes ++ padding (body bytes)

/-- `.rstrip(b"=")` -/
def unpadded (text : List Char) : List Char := text.rdropWhile (· == '=')

/-! ## §3. Decoding. -/

/-- The loop of `a2b_base64`: the place in the group, the bits left over, the padding seen. -/
def decodeFrom : (quad left pads : Nat) → List Char → Option (List UInt8)
  | quad, _, _, [] => if quad = 0 then some [] else none
  | quad, left, pads, c :: rest =>
      if c = '=' then
        if quad < 2 then decodeFrom quad left pads rest
        else if 4 ≤ quad + (pads + 1) then some []
        else decodeFrom quad left (pads + 1) rest
      else match bits c with
        | none => decodeFrom quad left pads rest
        | some v =>
            match quad with
            | 0 => decodeFrom 1 v 0 rest
            | 1 => (decodeFrom 2 (v % 16) 0 rest).map (UInt8.ofNat (left * 4 + v / 16) :: ·)
            | 2 => (decodeFrom 3 (v % 4) 0 rest).map (UInt8.ofNat (left * 16 + v / 4) :: ·)
            | _ => (decodeFrom 0 0 0 rest).map (UInt8.ofNat (left * 64 + v) :: ·)

/-- `base64.urlsafe_b64decode` -/
def decode (text : List Char) : Option (List UInt8) := decodeFrom 0 0 0 text

variable {left pads n : Nat} {rest : List Char} {bytes : List UInt8}

/-- The first symbol of a group, … -/
theorem decodeFrom_first (h : n < 64) :
    decodeFrom 0 left pads (symbol n :: rest) = decodeFrom 1 n 0 rest := by
  rw [decodeFrom, if_neg symbol_ne.1, bits_symbol h]
  rfl

/-- … the second one, which completes a byte, … -/
theorem decodeFrom_second (h : n < 64) (a : UInt8) (ha : left * 4 + n / 16 = a.toNat) :
    decodeFrom 1 left pads (symbol n :: rest) = (decodeFrom 2 (n % 16) 0 rest).map (a :: ·) := by
  rw [decodeFrom, if_neg symbol_ne.1, bits_symbol h]
  dsimp only
  rw [ha, UInt8.ofNat_toNat]
  rfl

/-- … the third one, … -/
theorem decodeFrom_third (h : n < 64) (a : UInt8) (ha : left * 16 + n / 4 = a.toNat) :
    decodeFrom 2 left pads (symbol n :: rest) = (decodeFrom 3 (n % 4) 0 rest).map (a :: ·) := by
  rw [decodeFrom, if_neg symbol_ne.1, bits_symbol h]
  dsimp only
  rw [ha, UInt8.ofNat_toNat]
  rfl

/-- … and the fourth one. -/
theorem decodeFrom_fourth (h : n < 64) (a : UInt8) (ha : left * 64 + n = a.toNat) :
    decodeFrom 3 left pads (symbol n :: rest) = (decodeFrom 0 0 0 rest).map (a :: ·) := by
  rw [decodeFrom, if_neg symbol_ne.1, bits_symbol h]
  dsimp only
  rw [ha, UInt8.ofNat_toNat]
  rfl

/-- **The decoder reads back what was encoded.** -/
theorem decode_encode (bytes : List UInt8) : decode (encode bytes) = some bytes := by
  unfold encode decode
  induction bytes using body.induct with
  | case1 => rfl
  | case2 a =>
      have ha := a.toNat_lt
      show decodeFrom 0 0 0 [symbol (a.toNat / 4), symbol (a.toNat % 4 * 16), '=', '='] = _
      rw [decodeFrom_first (by omega), decodeFrom_second (by omega) a (by omega)]
      rfl
  | case3 a b =>
      have ha := a.toNat_lt
      have hb := b.toNat_lt
      show decodeFrom 0 0 0 [symbol (a.toNat / 4), symbol (a.toNat % 4 * 16 + b.toNat / 16),
        symbol (b.toNat % 16 * 4), '='] = _
      rw [decodeFrom_first (by omega), decodeFrom_second (by omega) a (by omega),
        decodeFrom_third (by omega) b (by omega)]
      rfl
  | case4 a b c rest ih =>
      have ha := a.toNat_lt
      have hb := b.toNat_lt
      have hc := c.toNat_lt
      have hpadding : padding (body (a :: b :: c :: rest)) = padding (body rest) := by
        unfold padding
        show List.replicate ((4 - ((body rest).length + 4) % 4) % 4) '=' = _
        rw [Nat.add_mod_right]
      rw [hpadding]
      show decodeFrom 0 0 0 (symbol (a.toNat / 4) :: symbol (a.toNat % 4 * 16 + b.toNat / 16)
        :: symbol (b.toNat % 16 * 4 + c.toNat / 64) :: symbol (c.toNat % 64)
        :: (body rest ++ padding (body rest))) = _
      rw [decodeFrom_first (by omega), decodeFrom_second (by omega) a (by omega),
        decodeFrom_third (by omega) b (by omega), decodeFrom_fourth (by omega) c (by omega), ih]
      rfl

/-- The symbols are of the alphabet. -/
theorem exists_of_mem_body {c : Char} (h : c ∈ body bytes) : ∃ n, c = symbol n := by
  induction bytes using body.induct with
  | case1 => exact absurd h List.not_mem_nil
  | case2 a =>
      simp only [body, List.mem_cons, List.not_mem_nil, or_false] at h
      exact h.elim (fun h => ⟨_, h⟩) fun h => ⟨_, h⟩
  | case3 a b =>
      simp only [body, List.mem_cons, List.not_mem_nil, or_false] at h
      exact h.elim (fun h => ⟨_, h⟩) fun h => h.elim (fun h => ⟨_, h⟩) fun h => ⟨_, h⟩
  | case4 a b c rest ih =>
      simp only [body, List.mem_cons] at h
      rcases h with h | h | h | h | h
      · exact ⟨_, h⟩
      · exact ⟨_, h⟩
      · exact ⟨_, h⟩
      · exact ⟨_, h⟩
      · exact ih h

/-- Without its padding, a text is its symbols. -/
theorem unpadded_encode : unpadded (encode bytes) = body bytes := by
  have hdrop : ∀ k, (body bytes ++ List.replicate k '=').rdropWhile (· == '=') = body bytes := by
    intro k
    induction k with
    | zero =>
        rw [List.replicate_zero, List.append_nil, List.rdropWhile_eq_self_iff]
        intro hne heq
        obtain ⟨n, hn⟩ := exists_of_mem_body (List.getLast_mem hne)
        rw [hn, beq_iff_eq] at heq
        exact symbol_ne.1 heq
    | succ k ih =>
        rw [List.replicate_succ', ← List.append_assoc, List.rdropWhile_concat_pos _ _ _ rfl, ih]
  exact hdrop _

/-- **Padded again, the symbols are decoded.** -/
theorem decode_pad_unpadded (bytes : List UInt8) :
    decode (unpadded (encode bytes) ++ padding (unpadded (encode bytes))) = some bytes := by
  rw [unpadded_encode]
  exact decode_encode bytes

end Cai.Lib.Base64
