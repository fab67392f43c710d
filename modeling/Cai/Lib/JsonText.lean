/-
  Cai.Lib.JsonText — `json.dumps` and `json.loads`.

  The writer is that of `json.dumps(value, ensure_ascii=False,
  separators=(",", ":"), sort_keys=True)`.  The reader takes what a text
  says about a `float` from a parameter; a surrogate without its other half
  is no character here and is refused.

  The reader recurses into the text, with twice its length as fuel: every
  two calls take a character.

  Main results:
    * `loads_dumps` — what was written without floats is read back, with its
      keys sorted.
    * `loadsBytes_dumps` — and so are the bytes of its text.
-/
import Mathlib.Data.List.Sort
import Mathlib.Tactic.IntervalCases
import Cai.Lib.Dictionary
import Cai.Lib.Json

namespace Cai.Lib.JsonText

/-! ## §1. Writing. -/

def hexDigit (n : Nat) : Char := if n < 10 then Char.ofNat (48 + n) else Char.ofNat (87 + n)

/-- A character between quotes. -/
def escape (c : Char) : List Char :=
  if c = '"' then ['\\', '"']
  else if c = '\\' then ['\\', '\\']
  else if c = '\n' then ['\\', 'n']
  else if c = '\r' then ['\\', 'r']
  else if c = '\t' then ['\\', 't']
  else if c.toNat = 8 then ['\\', 'b']
  else if c.toNat = 12 then ['\\', 'f']
  else if c.toNat < 32 then ['\\', 'u', '0', '0', hexDigit (c.toNat / 16), hexDigit (c.toNat % 16)]
  else [c]

def quote (text : String) : List Char := '"' :: (text.toList.flatMap escape ++ ['"'])

def writeInt (value : Int) : List Char :=
  if value < 0 then '-' :: Nat.toDigits 10 value.natAbs else Nat.toDigits 10 value.natAbs

mutual

/-- A value, its keys in their order. -/
def write : Json → List Char
  | .null => ['n', 'u', 'l', 'l']
  | .bool true => ['t', 'r', 'u', 'e']
  | .bool false => ['f', 'a', 'l', 's', 'e']
  | .int value => writeInt value
  | .float number => number.repr.toList
  | .str text => quote text
  | .list [] => ['[', ']']
  | .list (value :: items) => '[' :: (write value ++ writeItems items)
  | .dict [] => ['{', '}']
  | .dict ((key, value) :: items) => '{' :: (quote key ++ ':' :: (write value ++ writeMembers items))

/-- The items after the first one, and the end of the list. -/
def writeItems : List Json → List Char
  | [] => [']']
  | value :: items => ',' :: (write value ++ writeItems items)

/-- The items after the first one, and the end of the dictionary. -/
def writeMembers : List (String × Json) → List Char
  | [] => ['}']
  | (key, value) :: items => ',' :: (quote key ++ ':' :: (write value ++ writeMembers items))

end

mutual

/-- `sort_keys=True` -/
def sortKeys : Json → Json
  | .list items => .list (sortItems items)
  | .dict items => .dict ((sortMembers items).insertionSort fun a b => a.1 ≤ b.1)
  | value => value

def sortItems : List Json → List Json
  | [] => []
  | value :: items => sortKeys value :: sortItems items

def sortMembers : List (String × Json) → List (String × Json)
  | [] => []
  | (key, value) :: items => (key, sortKeys value) :: sortMembers items

end

/-- `json.dumps` -/
def dumps (value : Json) : String := String.ofList (write (sortKeys value))

/-! ## §2. Reading. -/

def isSpace (c : Char) : Bool := c = ' ' || c = '\t' || c = '\n' || c = '\r'

def skipSpace (text : List Char) : List Char := text.dropWhile isSpace

def hexValue (c : Char) : Option Nat :=
  if '0' ≤ c ∧ c ≤ '9' then some (c.toNat - 48)
  else if 'a' ≤ c ∧ c ≤ 'f' then some (c.toNat - 87)
  else if 'A' ≤ c ∧ c ≤ 'F' then some (c.toNat - 55)
  else none

/-- Four hexadecimal digits. -/
def hexFour : List Char → Option (Nat × List Char)
  | a :: b :: c :: d :: rest => do
      let value := (← hexValue a) * 4096 + (← hexValue b) * 256 + (← hexValue c) * 16 + (← hexValue d)
      return (value, rest)
  | _ => none

/-- What follows `\u`. -/
def unicodeEscape (text : List Char) : Option (Char × List Char) := do
  let (high, rest) ← hexFour text
  if 0xD800 ≤ high ∧ high ≤ 0xDBFF then
    match rest with
    | '\\' :: 'u' :: rest => do
        let (low, rest) ← hexFour rest
        if 0xDC00 ≤ low ∧ low ≤ 0xDFFF then
          some (Char.ofNat (0x10000 + (high - 0xD800) * 1024 + (low - 0xDC00)), rest)
        else none
    | _ => none
  else if 0xDC00 ≤ high ∧ high ≤ 0xDFFF then none
  else some (Char.ofNat high, rest)

/-- What follows a backslash, but for `u`. -/
def unescape (c : Char) : Option Char :=
  if c = '"' then some '"'
  else if c = '\\' then some '\\'
  else if c = '/' then some '/'
  else if c = 'b' then some (Char.ofNat 8)
  else if c = 'f' then some (Char.ofNat 12)
  else if c = 'n' then some '\n'
  else if c = 'r' then some '\r'
  else if c = 't' then some '\t'
  else none

/-- What follows a quote, up to the next one. -/
def scanString : Nat → List Char → Option (List Char × List Char)
  | 0, _ => none
  | _ + 1, [] => none
  | fuel + 1, c :: rest =>
      if c = '"' then some ([], rest)
      else if c = '\\' then
        match rest with
        | [] => none
        | e :: rest =>
            if e = 'u' then
              (unicodeEscape rest).bind fun (d, rest) =>
                (scanString fuel rest).map fun r => (d :: r.1, r.2)
            else (unescape e).bind fun d => (scanString fuel rest).map fun r => (d :: r.1, r.2)
      else if c.toNat < 32 then none
      else (scanString fuel rest).map fun r => (c :: r.1, r.2)

/-- A text, after its first quote. -/
def scanText (text : List Char) : Option (String × List Char) :=
  (scanString (text.length + 1) text).map fun r => (String.ofList r.1, r.2)

/-- `(0|[1-9]\d*)` -/
def scanDigits (text : List Char) : List Char × List Char :=
  match text with
  | '0' :: rest => (['0'], rest)
  | _ => (text.takeWhile Char.isDigit, text.dropWhile Char.isDigit)

/-- `(\.\d+)?` -/
def scanFraction (text : List Char) : List Char × List Char :=
  match text with
  | '.' :: rest =>
      let digits := rest.takeWhile Char.isDigit
      if digits = [] then ([], text) else ('.' :: digits, rest.dropWhile Char.isDigit)
  | _ => ([], text)

/-- `([eE][-+]?\d+)?` -/
def scanExponent (text : List Char) : List Char × List Char :=
  match text with
  | e :: rest =>
      if e = 'e' ∨ e = 'E' then
        let (sign, unsigned) : List Char × List Char := match rest with
          | '-' :: rest => (['-'], rest)
          | '+' :: rest => (['+'], rest)
          | _ => ([], rest)
        let digits := unsigned.takeWhile Char.isDigit
        if digits = [] then ([], text)
        else (e :: (sign ++ digits), unsigned.dropWhile Char.isDigit)
      else ([], text)
  | [] => ([], [])

variable (float : String → JsonFloat)

/-- A number, after its sign. -/
def scanUnsigned (negative : Bool) (text : List Char) : Option (Json × List Char) :=
  let (digits, rest) := scanDigits text
  let (fraction, rest') := scanFraction rest
  let (exponent, rest'') := scanExponent rest'
  let magnitude : Int := Nat.ofDigitChars 10 digits 0
  if digits = [] then none
  else if fraction = [] ∧ exponent = [] then
    some (.int (if negative then -magnitude else magnitude), rest)
  else
    some (.float (float (String.ofList
      ((if negative then ['-'] else []) ++ digits ++ fraction ++ exponent))), rest'')

/-- A value that is no text, no list and no dictionary. -/
def scanScalar : List Char → Option (Json × List Char)
  | 'n' :: 'u' :: 'l' :: 'l' :: rest => some (.null, rest)
  | 't' :: 'r' :: 'u' :: 'e' :: rest => some (.bool true, rest)
  | 'f' :: 'a' :: 'l' :: 's' :: 'e' :: rest => some (.bool false, rest)
  | 'N' :: 'a' :: 'N' :: rest => some (.float (float "nan"), rest)
  | 'I' :: 'n' :: 'f' :: 'i' :: 'n' :: 'i' :: 't' :: 'y' :: rest => some (.float (float "inf"), rest)
  | '-' :: 'I' :: 'n' :: 'f' :: 'i' :: 'n' :: 'i' :: 't' :: 'y' :: rest =>
      some (.float (float "-inf"), rest)
  | '-' :: rest => scanUnsigned float true rest
  | text => scanUnsigned float false text

mutual

/-- A value at the beginning of a text. -/
def scanValue : Nat → List Char → Option (Json × List Char)
  | 0, _ => none
  | _ + 1, '"' :: rest => (scanText rest).map fun r => (.str r.1, r.2)
  | fuel + 1, '[' :: rest =>
      match skipSpace rest with
      | ']' :: rest => some (.list [], rest)
      | rest => (scanItems fuel rest).map fun r => (.list r.1, r.2)
  | fuel + 1, '{' :: rest =>
      match skipSpace rest with
      | '}' :: rest => some (.dict [], rest)
      | rest => (scanMembers fuel rest).map fun r => (.dict (dictionary r.1), r.2)
  | _ + 1, text => scanScalar float text

/-- The items of a list, up to its end. -/
def scanItems : Nat → List Char → Option (List Json × List Char)
  | 0, _ => none
  | fuel + 1, text =>
      (scanValue fuel text).bind fun (value, rest) =>
        match skipSpace rest with
        | ']' :: rest => some ([value], rest)
        | ',' :: rest => (scanItems fuel (skipSpace rest)).map fun r => (value :: r.1, r.2)
        | _ => none

/-- The items of a dictionary, up to its end. -/
def scanMembers : Nat → List Char → Option (List (String × Json) × List Char)
  | fuel + 1, '"' :: text =>
      (scanText text).bind fun (key, rest) =>
        match skipSpace rest with
        | ':' :: rest =>
            (scanValue fuel (skipSpace rest)).bind fun (value, rest) =>
              match skipSpace rest with
              | '}' :: rest => some ([(key, value)], rest)
              | ',' :: rest =>
                  (scanMembers fuel (skipSpace rest)).map fun r => ((key, value) :: r.1, r.2)
              | _ => none
        | _ => none
  | _, _ => none

end

/-- `json.loads` of a text -/
def loads (text : String) : Option Json :=
  (scanValue float (2 * text.toList.length + 1) (skipSpace text.toList)).bind fun (value, rest) =>
    if skipSpace rest = [] then some value else none

/-! ## §3. Texts are read back. -/

variable {float} {rest : List Char} {fuel n : Nat} {c : Char}

theorem hexValue_hexDigit (h : n < 16) : hexValue (hexDigit n) = some n := by
  have hall : ∀ n < 16, hexValue (hexDigit n) = some n := by decide +kernel
  exact hall n h

/-- A control character. -/
theorem unicodeEscape_control (h : c.toNat < 32) :
    unicodeEscape ('0' :: '0' :: hexDigit (c.toNat / 16) :: hexDigit (c.toNat % 16) :: rest)
      = some (c, rest) := by
  have hfour : hexFour ('0' :: '0' :: hexDigit (c.toNat / 16) :: hexDigit (c.toNat % 16) :: rest)
      = some (c.toNat, rest) := by
    unfold hexFour
    dsimp only
    rw [hexValue_hexDigit (by omega), hexValue_hexDigit (by omega)]
    show some (0 * 4096 + 0 * 256 + c.toNat / 16 * 16 + c.toNat % 16, rest) = _
    have hsum : 0 * 4096 + 0 * 256 + c.toNat / 16 * 16 + c.toNat % 16 = c.toNat := by omega
    rw [hsum]
  unfold unicodeEscape
  rw [hfour]
  show (if _ then _ else if _ then none else some (Char.ofNat c.toNat, rest)) = _
  rw [if_neg (by omega), if_neg (by omega), Char.ofNat_toNat]

/-- A character is read back. -/
theorem scanString_escape :
    scanString (fuel + 1) (escape c ++ rest) = (scanString fuel rest).map fun r => (c :: r.1, r.2) := by
  unfold escape
  split_ifs with hquote hslash hn hr ht hb hf hcontrol
  · rw [hquote]
    rfl
  · rw [hslash]
    rfl
  · rw [hn]
    rfl
  · rw [hr]
    rfl
  · rw [ht]
    rfl
  · have hc : c = Char.ofNat 8 := by rw [← hb, Char.ofNat_toNat]
    rw [hc]
    rfl
  · have hc : c = Char.ofNat 12 := by rw [← hf, Char.ofNat_toNat]
    rw [hc]
    rfl
  · show (unicodeEscape ('0' :: '0' :: hexDigit (c.toNat / 16) :: hexDigit (c.toNat % 16) :: rest)).bind
      _ = _
    rw [unicodeEscape_control hcontrol]
    rfl
  · show scanString (fuel + 1) (c :: rest) = _
    rw [scanString.eq_def]
    dsimp only
    rw [if_neg hquote, if_neg hslash, if_neg hcontrol]

theorem scanString_flatMap {chars : List Char} (h : chars.length < fuel) :
    scanString fuel (chars.flatMap escape ++ '"' :: rest) = some (chars, rest) := by
  induction chars generalizing fuel with
  | nil =>
      obtain ⟨k, rfl⟩ : ∃ k, fuel = k + 1 := ⟨fuel - 1, by simp only [List.length_nil] at h; omega⟩
      rfl
  | cons d chars ih =>
      simp only [List.length_cons] at h
      obtain ⟨k, rfl⟩ : ∃ k, fuel = k + 1 := ⟨fuel - 1, by omega⟩
      rw [List.flatMap_cons, List.append_assoc, scanString_escape, ih (by omega)]
      rfl

theorem length_flatMap_escape (chars : List Char) : chars.length ≤ (chars.flatMap escape).length := by
  induction chars with
  | nil => exact Nat.le_refl 0
  | cons d chars ih =>
      have hone : 1 ≤ (escape d).length := by
        unfold escape
        split_ifs <;> simp
      rw [List.flatMap_cons, List.length_append, List.length_cons]
      omega

/-- **A text** is read back. -/
theorem scanText_quote (text : String) :
    scanText (text.toList.flatMap escape ++ '"' :: rest) = some (text, rest) := by
  unfold scanText
  rw [scanString_flatMap]
  · rw [Option.map_some, String.ofList_toList]
  · have hle := length_flatMap_escape text.toList
    rw [List.length_append]
    omega

/-! ## §4. Integers are read back. -/

/-- A number ends here. -/
def Stops (rest : List Char) : Prop :=
  ∀ c, rest.head? = some c → c.isDigit = false ∧ c ≠ '.' ∧ c ≠ 'e' ∧ c ≠ 'E'

theorem digit_cases (h : c.isDigit = true) : ∃ n < 10, c = Nat.digitChar n := by
  have hle : 48 ≤ c.toNat ∧ c.toNat ≤ 57 := by
    simp only [Char.isDigit, Bool.and_eq_true, decide_eq_true_eq] at h
    exact h
  have hall : ∀ n < 10, Nat.digitChar n = Char.ofNat (48 + n) := by decide +kernel
  refine ⟨c.toNat - 48, by omega, ?_⟩
  rw [hall _ (by omega), Nat.add_sub_cancel' hle.1, Char.ofNat_toNat]

theorem toDigits_head (h : 0 < n) : ∃ c t, Nat.toDigits 10 n = c :: t ∧ c ≠ '0' := by
  induction n using Nat.strongRecOn with
  | _ n ih =>
      by_cases hsmall : n < 10
      · have hall : ∀ n < 10, 0 < n → Nat.digitChar n ≠ '0' := by decide +kernel
        exact ⟨_, [], Nat.toDigits_of_lt_base hsmall, hall n hsmall h⟩
      · obtain ⟨c, t, ht, hc⟩ := ih (n / 10) (by omega) (by omega)
        refine ⟨c, t ++ [Nat.digitChar (n % 10)], ?_, hc⟩
        rw [Nat.toDigits_of_base_le (by omega) (by omega), ht]
        rfl

theorem isDigit_toDigits : ∀ d ∈ Nat.toDigits 10 n, d.isDigit = true :=
  fun _ hd => Nat.isDigit_of_mem_toDigits (by omega) (by omega) hd

theorem scanDigits_toDigits (h : Stops rest) :
    scanDigits (Nat.toDigits 10 n ++ rest) = (Nat.toDigits 10 n, rest) := by
  rcases Nat.eq_zero_or_pos n with rfl | hpos
  · rw [Nat.toDigits_zero]
    rfl
  · obtain ⟨d, t, hdigits, hd⟩ := toDigits_head hpos
    have htake : (Nat.toDigits 10 n ++ rest).takeWhile Char.isDigit = Nat.toDigits 10 n := by
      rw [List.takeWhile_append_of_pos isDigit_toDigits]
      cases rest with
      | nil => simp
      | cons e rest => simp [(h e rfl).1]
    have hdrop : (Nat.toDigits 10 n ++ rest).dropWhile Char.isDigit = rest := by
      rw [List.dropWhile_append_of_pos isDigit_toDigits]
      cases rest with
      | nil => rfl
      | cons e rest => simp [(h e rfl).1]
    rw [hdigits, List.cons_append] at htake hdrop ⊢
    unfold scanDigits
    split
    next rest' heq =>
      cases heq
      exact absurd rfl hd
    next => rw [htake, hdrop]

theorem scanFraction_stops (h : Stops rest) : scanFraction rest = ([], rest) := by
  unfold scanFraction
  split
  next => exact absurd rfl (h _ rfl).2.1
  next => rfl

theorem scanExponent_stops (h : Stops rest) : scanExponent rest = ([], rest) := by
  unfold scanExponent
  split
  next e rest =>
    obtain ⟨-, -, he, hE⟩ := h e rfl
    rw [if_neg fun hor => hor.elim he hE]
  next => rfl

theorem scanUnsigned_toDigits (negative : Bool) (h : Stops rest) :
    scanUnsigned float negative (Nat.toDigits 10 n ++ rest)
      = some (.int (if negative then -(n : Int) else n), rest) := by
  unfold scanUnsigned
  rw [scanDigits_toDigits h]
  dsimp only
  rw [scanFraction_stops h]
  dsimp only
  rw [scanExponent_stops h]
  dsimp only
  rw [if_neg Nat.toDigits_ne_nil, if_pos ⟨rfl, rfl⟩, Nat.ofDigitChars_ten_toDigits]

theorem scanValue_digit (h : c.isDigit = true) :
    scanValue float (fuel + 1) (c :: rest) = scanUnsigned float false (c :: rest) := by
  obtain ⟨n, hn, rfl⟩ := digit_cases h
  interval_cases n <;> rfl

theorem scanValue_minus (h : c.isDigit = true) :
    scanValue float (fuel + 1) ('-' :: c :: rest) = scanUnsigned float true (c :: rest) := by
  obtain ⟨n, hn, rfl⟩ := digit_cases h
  interval_cases n <;> rfl

/-- **An integer** is read back. -/
theorem scanValue_writeInt (value : Int) (h : Stops rest) :
    scanValue float (fuel + 1) (writeInt value ++ rest) = some (.int value, rest) := by
  obtain ⟨c, t, hdigits⟩ : ∃ c t, Nat.toDigits 10 value.natAbs = c :: t :=
    List.exists_cons_of_ne_nil Nat.toDigits_ne_nil
  have hc : c.isDigit = true := isDigit_toDigits c (by rw [hdigits]; exact List.mem_cons_self)
  unfold writeInt
  split_ifs with hneg
  · rw [hdigits]
    show scanValue float (fuel + 1) ('-' :: c :: (t ++ rest)) = _
    rw [scanValue_minus hc, ← List.cons_append, ← hdigits, scanUnsigned_toDigits true h]
    have habs : -(value.natAbs : Int) = value := by omega
    rw [if_pos rfl, habs]
  · rw [hdigits]
    show scanValue float (fuel + 1) (c :: (t ++ rest)) = _
    rw [scanValue_digit hc, ← List.cons_append, ← hdigits, scanUnsigned_toDigits false h]
    have habs : (value.natAbs : Int) = value := by omega
    rw [if_neg Bool.false_ne_true, habs]

/-! ## §5. Values are read back. -/

/-- A value without floats, and without a key twice. -/
inductive Plain : Json → Prop
  | null : Plain .null
  | bool (value : Bool) : Plain (.bool value)
  | int (value : Int) : Plain (.int value)
  | str (text : String) : Plain (.str text)
  | list (items : List Json) (hitems : ∀ value ∈ items, Plain value) : Plain (.list items)
  | dict (items : List (String × Json)) (hkeys : (items.map (·.1)).Nodup)
      (hitems : ∀ item ∈ items, Plain item.2) : Plain (.dict items)

/-- The value is read from the beginning of a text that it was written to. -/
def ReadsBack (float : String → JsonFloat) (value : Json) : Prop :=
  ∀ rest fuel, Stops rest → 2 * (write value).length ≤ fuel →
    scanValue float fuel (write value ++ rest) = some (value, rest)

variable {value : Json} {items : List Json} {members : List (String × Json)} {key : String}

/-- A written value begins with no space and closes nothing. -/
theorem write_head (h : Plain value) :
    ∃ c t, write value = c :: t ∧ isSpace c = false ∧ c ≠ ']' := by
  cases h with
  | null => exact ⟨_, _, rfl, rfl, by decide⟩
  | bool value =>
      cases value with
      | true => exact ⟨_, _, rfl, rfl, by decide⟩
      | false => exact ⟨_, _, rfl, rfl, by decide⟩
  | int value =>
      obtain ⟨c, t, hdigits⟩ : ∃ c t, Nat.toDigits 10 value.natAbs = c :: t :=
        List.exists_cons_of_ne_nil Nat.toDigits_ne_nil
      have hc : c.isDigit = true := isDigit_toDigits c (by rw [hdigits]; exact List.mem_cons_self)
      show ∃ c t, writeInt value = c :: t ∧ _
      unfold writeInt
      split_ifs
      · exact ⟨_, _, rfl, rfl, by decide⟩
      · obtain ⟨n, hn, rfl⟩ := digit_cases hc
        have hall : ∀ n < 10, isSpace (Nat.digitChar n) = false ∧ Nat.digitChar n ≠ ']' := by
          decide +kernel
        exact ⟨_, t, hdigits, (hall n hn).1, (hall n hn).2⟩
  | str text => exact ⟨_, _, rfl, rfl, by decide⟩
  | list items =>
      cases items with
      | nil => exact ⟨_, _, rfl, rfl, by decide⟩
      | cons value items => exact ⟨_, _, rfl, rfl, by decide⟩
  | dict items =>
      cases items with
      | nil => exact ⟨_, _, rfl, rfl, by decide⟩
      | cons item items => exact ⟨_, _, rfl, rfl, by decide⟩

theorem skipSpace_cons {t : List Char} (h : isSpace c = false) : skipSpace (c :: t) = c :: t := by
  unfold skipSpace
  rw [List.dropWhile_cons, h]
  rfl

theorem skipSpace_write (h : Plain value) : skipSpace (write value ++ rest) = write value ++ rest := by
  obtain ⟨c, t, hwrite, hspace, -⟩ := write_head h
  rw [hwrite, List.cons_append, skipSpace_cons hspace]

theorem stops_writeItems : Stops (writeItems items ++ rest) := by
  intro c hc
  cases items with
  | nil =>
      cases hc
      decide
  | cons value items =>
      cases hc
      decide

theorem stops_writeMembers : Stops (writeMembers members ++ rest) := by
  intro c hc
  cases members with
  | nil =>
      cases hc
      decide
  | cons member members =>
      cases hc
      decide

theorem scanItems_succ (text : List Char) :
    scanItems float (fuel + 1) text
      = (scanValue float fuel text).bind fun (value, rest) =>
          match skipSpace rest with
          | ']' :: rest => some ([value], rest)
          | ',' :: rest => (scanItems float fuel (skipSpace rest)).map fun r => (value :: r.1, r.2)
          | _ => none := rfl

/-- **The items of a list** are read back. -/
theorem scanItems_write (hplain : ∀ v ∈ value :: items, Plain v)
    (h : ∀ v ∈ value :: items, ReadsBack float v)
    (hfuel : 2 * ((write value).length + (writeItems items).length) ≤ fuel) :
    scanItems float fuel (write value ++ (writeItems items ++ rest)) = some (value :: items, rest) := by
  induction items generalizing value fuel with
  | nil =>
      have hlength : (writeItems []).length = 1 := rfl
      obtain ⟨k, rfl⟩ : ∃ k, fuel = k + 1 := ⟨fuel - 1, by omega⟩
      rw [scanItems_succ, h value List.mem_cons_self _ _ stops_writeItems (by omega)]
      rfl
  | cons next items ih =>
      have hlength : (writeItems (next :: items)).length
          = (write next).length + (writeItems items).length + 1 := by
        show (',' :: (write next ++ writeItems items)).length = _
        rw [List.length_cons, List.length_append]
      obtain ⟨k, rfl⟩ : ∃ k, fuel = k + 1 := ⟨fuel - 1, by omega⟩
      have hrest : scanItems float k (write next ++ (writeItems items ++ rest))
          = some (next :: items, rest) :=
        ih (fun v hv => hplain v (List.mem_cons_of_mem _ hv))
          (fun v hv => h v (List.mem_cons_of_mem _ hv)) (by omega)
      rw [scanItems_succ, h value List.mem_cons_self _ _ stops_writeItems (by omega)]
      show (scanItems float k (skipSpace ((write next ++ writeItems items) ++ rest))).map _ = _
      rw [List.append_assoc, skipSpace_write (hplain next (by simp)), hrest]
      rfl

theorem quote_append (text : String) (tail : List Char) :
    quote text ++ tail = '"' :: (text.toList.flatMap escape ++ '"' :: tail) := by
  unfold quote
  rw [List.cons_append, List.append_assoc]
  rfl

theorem scanMembers_succ (text : List Char) :
    scanMembers float (fuel + 1) ('"' :: text)
      = (scanText text).bind fun (key, rest) =>
          match skipSpace rest with
          | ':' :: rest =>
              (scanValue float fuel (skipSpace rest)).bind fun (value, rest) =>
                match skipSpace rest with
                | '}' :: rest => some ([(key, value)], rest)
                | ',' :: rest =>
                    (scanMembers float fuel (skipSpace rest)).map fun r => ((key, value) :: r.1, r.2)
                | _ => none
          | _ => none := rfl

/-- One item of a dictionary. -/
theorem scanMembers_member {tail : List Char} (hplain : Plain value) (h : ReadsBack float value)
    (htail : Stops tail) (hfuel : 2 * (write value).length ≤ fuel) :
    scanMembers float (fuel + 1) (quote key ++ ':' :: (write value ++ tail))
      = match skipSpace tail with
        | '}' :: rest => some ([(key, value)], rest)
        | ',' :: rest =>
            (scanMembers float fuel (skipSpace rest)).map fun r => ((key, value) :: r.1, r.2)
        | _ => none := by
  have hcolon : skipSpace (':' :: (write value ++ tail)) = ':' :: (write value ++ tail) :=
    skipSpace_cons rfl
  rw [quote_append, scanMembers_succ, scanText_quote, Option.bind_some]
  dsimp only
  rw [hcolon]
  show (scanValue float fuel (skipSpace (write value ++ tail))).bind _ = _
  rw [skipSpace_write hplain, h tail fuel htail hfuel]
  rfl

/-- **The items of a dictionary** are read back. -/
theorem scanMembers_write (hplain : ∀ m ∈ (key, value) :: members, Plain m.2)
    (h : ∀ m ∈ (key, value) :: members, ReadsBack float m.2)
    (hfuel : 2 * ((quote key).length + (write value).length + (writeMembers members).length) ≤ fuel) :
    scanMembers float fuel (quote key ++ ':' :: (write value ++ (writeMembers members ++ rest)))
      = some ((key, value) :: members, rest) := by
  induction members generalizing key value fuel with
  | nil =>
      have hlength : (writeMembers []).length = 1 := rfl
      obtain ⟨k, rfl⟩ : ∃ k, fuel = k + 1 := ⟨fuel - 1, by omega⟩
      have hvalue : Plain value := hplain _ List.mem_cons_self
      rw [scanMembers_member hvalue (h _ List.mem_cons_self) stops_writeMembers (by omega)]
      rfl
  | cons next members ih =>
      obtain ⟨key', value'⟩ := next
      have hlength : (writeMembers ((key', value') :: members)).length
          = (quote key').length + (write value').length + (writeMembers members).length + 2 := by
        show (',' :: (quote key' ++ ':' :: (write value' ++ writeMembers members))).length = _
        simp only [List.length_cons, List.length_append]
        omega
      obtain ⟨k, rfl⟩ : ∃ k, fuel = k + 1 := ⟨fuel - 1, by omega⟩
      have hrest : scanMembers float k
          (quote key' ++ ':' :: (write value' ++ (writeMembers members ++ rest)))
            = some ((key', value') :: members, rest) :=
        ih (fun m hm => hplain m (List.mem_cons_of_mem _ hm))
          (fun m hm => h m (List.mem_cons_of_mem _ hm)) (by omega)
      have htail : writeMembers ((key', value') :: members) ++ rest
          = ',' :: (quote key' ++ ':' :: (write value' ++ (writeMembers members ++ rest))) := by
        show ',' :: ((quote key' ++ ':' :: (write value' ++ writeMembers members)) ++ rest) = _
        rw [List.append_assoc, List.cons_append, List.append_assoc]
      have hskip : ∀ tail : List Char, skipSpace (quote key' ++ tail) = quote key' ++ tail :=
        fun tail => skipSpace_cons rfl
      have hvalue : Plain value := hplain _ List.mem_cons_self
      rw [scanMembers_member hvalue (h _ List.mem_cons_self) stops_writeMembers (by omega), htail]
      show (scanMembers float k
        (skipSpace (quote key' ++ ':' :: (write value' ++ (writeMembers members ++ rest))))).map _ = _
      rw [hskip, hrest]
      rfl

theorem scanValue_list {text : List Char} {c : Char} {t : List Char} (htext : text = c :: t)
    (hspace : isSpace c = false) (hc : c ≠ ']') :
    scanValue float (fuel + 1) ('[' :: text)
      = (scanItems float fuel text).map fun r => (.list r.1, r.2) := by
  show (match skipSpace text with
    | ']' :: rest => some (Json.list [], rest)
    | rest => (scanItems float fuel rest).map fun (r : List Json × List Char) =>
        (Json.list r.1, r.2)) = _
  rw [htext, skipSpace_cons hspace]
  split
  next heq =>
    cases heq
    exact absurd rfl hc
  next => rfl

/-- **What was written is read back.** -/
theorem Plain.readsBack (h : Plain value) : ReadsBack float value := by
  have hfuel : ∀ {v : Json} {fuel}, Plain v → 2 * (write v).length ≤ fuel → ∃ k, fuel = k + 1 := by
    intro v fuel hv hle
    obtain ⟨c, t, hwrite, -⟩ := write_head hv
    rw [hwrite, List.length_cons] at hle
    exact ⟨fuel - 1, by omega⟩
  induction h with
  | null =>
      intro rest fuel _ hle
      obtain ⟨k, rfl⟩ := hfuel .null hle
      rfl
  | bool value =>
      intro rest fuel _ hle
      obtain ⟨k, rfl⟩ := hfuel (.bool value) hle
      cases value with
      | true => rfl
      | false => rfl
  | int value =>
      intro rest fuel hstops hle
      obtain ⟨k, rfl⟩ := hfuel (.int value) hle
      exact scanValue_writeInt value hstops
  | str text =>
      intro rest fuel _ hle
      obtain ⟨k, rfl⟩ := hfuel (.str text) hle
      show scanValue float (k + 1) (quote text ++ rest) = _
      rw [quote_append]
      show (scanText (text.toList.flatMap escape ++ '"' :: rest)).map _ = _
      rw [scanText_quote]
      rfl
  | list items hitems ih =>
      intro rest fuel _ hle
      obtain ⟨k, rfl⟩ := hfuel (.list items hitems) hle
      cases items with
      | nil => rfl
      | cons first items =>
          have hlength : (write (.list (first :: items))).length
              = (write first).length + (writeItems items).length + 1 := by
            show ('[' :: (write first ++ writeItems items)).length = _
            rw [List.length_cons, List.length_append]
          obtain ⟨c, t, hwrite, hspace, hc⟩ := write_head (hitems first List.mem_cons_self)
          show scanValue float (k + 1) ('[' :: ((write first ++ writeItems items) ++ rest)) = _
          rw [List.append_assoc]
          have htext : write first ++ (writeItems items ++ rest)
              = c :: (t ++ (writeItems items ++ rest)) := by
            rw [hwrite]
            rfl
          rw [scanValue_list htext hspace hc, scanItems_write hitems ih (by omega)]
          rfl
  | dict items hkeys hitems ih =>
      intro rest fuel _ hle
      obtain ⟨k, rfl⟩ := hfuel (.dict items hkeys hitems) hle
      cases items with
      | nil => rfl
      | cons first items =>
          obtain ⟨key, first⟩ := first
          have hlength : (write (.dict ((key, first) :: items))).length
              = (quote key).length + (write first).length + (writeMembers items).length + 2 := by
            show ('{' :: (quote key ++ ':' :: (write first ++ writeMembers items))).length = _
            simp only [List.length_cons, List.length_append]
            omega
          have htext : write (.dict ((key, first) :: items)) ++ rest
              = '{' :: (quote key ++ ':' :: (write first ++ (writeMembers items ++ rest))) := by
            show '{' :: ((quote key ++ ':' :: (write first ++ writeMembers items)) ++ rest) = _
            rw [List.append_assoc, List.cons_append, List.append_assoc]
          rw [htext]
          show (scanMembers float k
            (quote key ++ ':' :: (write first ++ (writeMembers items ++ rest)))).map
              (fun r => (Json.dict (dictionary r.1), r.2)) = _
          rw [scanMembers_write hitems ih (by omega), Option.map_some, dictionary_of_nodup hkeys]

/-- A text that was written is loaded. -/
theorem loads_write (h : Plain value) :
    loads float (String.ofList (write value)) = some value := by
  have hskip : skipSpace (write value ++ []) = write value ++ [] := skipSpace_write h
  have hread : scanValue float (2 * (write value).length + 1) (write value ++ []) = some (value, []) :=
    h.readsBack [] _ nofun (by omega)
  rw [List.append_nil] at hskip hread
  unfold loads
  rw [String.toList_ofList, hskip, hread]
  rfl

theorem sortItems_eq : sortItems items = items.map sortKeys := by
  induction items with
  | nil => rfl
  | cons value items ih =>
      unfold sortItems
      rw [ih, List.map_cons]

theorem sortMembers_eq : sortMembers members = members.map fun m => (m.1, sortKeys m.2) := by
  induction members with
  | nil => rfl
  | cons member members ih =>
      unfold sortMembers
      rw [ih, List.map_cons]

/-- Sorted, a dictionary has the same items, each of them sorted. -/
theorem sortKeys_dict : ∃ sorted, sortKeys (.dict members) = .dict sorted
    ∧ sorted.Perm (members.map fun m => (m.1, sortKeys m.2)) := by
  refine ⟨_, rfl, ?_⟩
  rw [sortMembers_eq]
  exact List.perm_insertionSort _ _

theorem Plain.sortKeys (h : Plain value) : Plain (sortKeys value) := by
  induction h with
  | null => exact .null
  | bool value => exact .bool value
  | int value => exact .int value
  | str text => exact .str text
  | list items _ ih =>
      show Plain (.list (sortItems items))
      refine .list _ fun v hv => ?_
      rw [sortItems_eq] at hv
      obtain ⟨item, hitem, rfl⟩ := List.mem_map.mp hv
      exact ih item hitem
  | dict items hkeys _ ih =>
      obtain ⟨sorted, heq, hperm⟩ := @sortKeys_dict items
      rw [heq]
      refine .dict _ ?_ fun m hm => ?_
      · rw [(hperm.map (·.1)).nodup_iff, List.map_map]
        exact hkeys
      · obtain ⟨item, hitem, rfl⟩ := List.mem_map.mp (hperm.mem_iff.mp hm)
        exact ih item hitem

/-- **What was dumped is loaded,** with its keys sorted. -/
theorem loads_dumps (h : Plain value) : loads float (dumps value) = some (sortKeys value) :=
  loads_write h.sortKeys

/-! ## §6. Bytes. -/

/-- `text.encode("utf-8")` -/
def utf8 (text : String) : List UInt8 := text.toUTF8.data.toList

/-- `bytes.decode("utf-8")` -/
def ofUtf8 (bytes : List UInt8) : Option String := String.fromUTF8? ⟨bytes.toArray⟩

/-- The byte order marks of the other encodings. -/
def byteOrderMarks : List (List UInt8) := [[0xEF, 0xBB, 0xBF], [0xFE, 0xFF], [0xFF, 0xFE]]

/-- `json.detect_encoding(bytes) == "utf-8"`: no byte order mark, and no byte of zeros. -/
def isUtf8 (bytes : List UInt8) : Bool :=
  !(byteOrderMarks.any fun mark => mark.isPrefixOf bytes) && match bytes with
    | [first, second] => first != 0 && second != 0
    | first :: second :: _ :: _ :: _ => first != 0 && second != 0
    | _ => true

/-- `json.loads` of bytes, given what decodes those that are not of UTF-8. -/
def loadsBytes (float : String → JsonFloat) (decodeOther : List UInt8 → Option String)
    (bytes : List UInt8) : Option Json :=
  (if isUtf8 bytes then ofUtf8 bytes else decodeOther bytes).bind (loads float)

variable {decodeOther : List UInt8 → Option String}

theorem ofUtf8_utf8 (text : String) : ofUtf8 (utf8 text) = some text := by
  have hvalid : text.toUTF8.IsValidUTF8 := text.isValidUTF8
  unfold ofUtf8 utf8 String.fromUTF8?
  rw [Array.toArray_toList, dif_pos hvalid]
  rfl

theorem utf8_cons (c : Char) (text : List Char) :
    utf8 (String.ofList (c :: text)) = utf8 (String.ofList [c]) ++ utf8 (String.ofList text) := by
  have hcons : (c :: text).utf8Encode = [c].utf8Encode ++ text.utf8Encode := List.utf8Encode_cons
  unfold utf8
  rw [String.toUTF8_eq_toByteArray, String.toUTF8_eq_toByteArray, String.toUTF8_eq_toByteArray,
    String.toByteArray_ofList, String.toByteArray_ofList, String.toByteArray_ofList, hcons,
    ByteArray.data_append, Array.toList_append]

theorem isUtf8_of_head {first second : UInt8} {rest : List UInt8}
    (hmark : ∀ mark ∈ byteOrderMarks, mark.head? ≠ some first)
    (hzero : (first != 0 && second != 0) = true) : isUtf8 (first :: second :: rest) = true := by
  have hmarks : (byteOrderMarks.any fun mark => mark.isPrefixOf (first :: second :: rest)) = false := by
    refine List.any_eq_false.mpr fun mark hmem => ?_
    cases mark with
    | nil => exact absurd hmem (by decide)
    | cons byte mark =>
        have hne : (byte == first) = false := beq_false_of_ne fun heq => hmark _ hmem (congrArg some heq)
        rw [List.isPrefixOf_cons_cons, hne]
        exact Bool.false_ne_true
  unfold isUtf8
  rw [hmarks]
  match rest with
  | [] => exact hzero
  | [_] => rfl
  | _ :: _ :: _ => exact hzero

/-- **What was dumped and encoded is loaded.** -/
theorem loadsBytes_dumps (hplain : Plain (.dict members)) (hne : members ≠ []) :
    loadsBytes float decodeOther (utf8 (dumps (.dict members))) = some (sortKeys (.dict members)) := by
  obtain ⟨sorted, heq, hperm⟩ := @sortKeys_dict members
  have hutf8 : isUtf8 (utf8 (dumps (.dict members))) = true := by
    obtain ⟨t, ht⟩ : ∃ t, write (sortKeys (.dict members)) = '{' :: '"' :: t := by
      rw [heq]
      cases sorted with
      | nil => exact absurd (List.map_eq_nil_iff.mp hperm.nil_eq.symm) hne
      | cons member sorted => exact ⟨_, rfl⟩
    have hbrace : utf8 (String.ofList ['{']) = [0x7B] := by decide +kernel
    have hquote : utf8 (String.ofList ['"']) = [0x22] := by decide +kernel
    unfold dumps
    rw [ht, utf8_cons, utf8_cons '"' t, hbrace, hquote]
    exact isUtf8_of_head (by decide) (by decide)
  unfold loadsBytes
  rw [if_pos hutf8, ofUtf8_utf8, Option.bind_some]
  exact loads_dumps hplain

end Cai.Lib.JsonText
