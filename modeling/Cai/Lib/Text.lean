/-
  Cai.Lib.Text — the text operations of the Python standard library that
  the services use: whitespace, `strip`, `casefold`, character classes, `int`.
-/
import Mathlib.Data.List.Infix
import Mathlib.Data.List.DropRight

namespace Cai.Lib.Text

/-! ## §1. Whitespace and `strip`. -/

/-- `str.isspace` of one character (also what `\s` matches). -/
def isSpace (c : Char) : Bool :=
  let n := c.toNat
  (9 ≤ n && n ≤ 13) || (28 ≤ n && n ≤ 32) || n == 0x85 || n == 0xA0 || n == 0x1680
    || (0x2000 ≤ n && n ≤ 0x200A) || n == 0x2028 || n == 0x2029 || n == 0x202F
    || n == 0x205F || n == 0x3000

/-- Drop the elements of both ends that satisfy `p`. -/
def trimList {α : Type*} (p : α → Bool) (l : List α) : List α :=
  (l.dropWhile p).rdropWhile p

/-- `str.strip()`. -/
def strip (s : String) : String := String.ofList (trimList isSpace s.toList)

/-- `str.rstrip()`. -/
def rstrip (s : String) : String := String.ofList (s.toList.rdropWhile isSpace)

/-- `re.sub(r"\s+", " ", s)`: every maximal run of white space becomes one space. -/
def collapseSpace : List Char → List Char
  | [] => []
  | c :: cs =>
      if isSpace c then
        match cs with
        | [] => [' ']
        | d :: ds => if isSpace d then collapseSpace (d :: ds) else ' ' :: collapseSpace (d :: ds)
      else c :: collapseSpace cs

/-- A text with no character left after `strip`. -/
def isBlank (s : String) : Bool := strip s == ""

theorem rdropWhile_of_head_not {α : Type*} {p : α → Bool} {a : α} (ha : p a = false)
    (l : List α) : ∃ m, (a :: l).rdropWhile p = a :: m := by
  induction l using List.reverseRecOn with
  | nil => exact ⟨[], by simp [List.rdropWhile, ha]⟩
  | append_singleton l b ih =>
      rw [← List.cons_append]
      by_cases hb : p b = true
      · rw [List.rdropWhile_concat_pos _ _ _ hb]
        exact ih
      · rw [List.rdropWhile_concat_neg _ _ _ hb]
        exact ⟨l ++ [b], by simp⟩

/-- Trimming twice is trimming once. -/
theorem trimList_trimList {α : Type*} (p : α → Bool) (l : List α) :
    trimList p (trimList p l) = trimList p l := by
  unfold trimList
  have hhead : ((l.dropWhile p).rdropWhile p).dropWhile p = (l.dropWhile p).rdropWhile p := by
    cases hd : l.dropWhile p with
    | nil => simp
    | cons a m =>
        have ha : p a = false := by
          have := List.head_dropWhile_not p (l := l) (by rw [hd]; simp)
          simpa [hd] using this
        obtain ⟨k, hk⟩ := rdropWhile_of_head_not ha m
        rw [hk]
        simp [ha]
  rw [hhead, List.rdropWhile_idempotent p (l.dropWhile p)]

@[simp] theorem strip_strip (s : String) : strip (strip s) = strip s := by
  simp [strip, trimList_trimList]

/-- A text without white space is its own strip. -/
theorem strip_ofList {l : List Char} (h : ∀ c ∈ l, isSpace c = false) :
    strip (String.ofList l) = String.ofList l := by
  have hdrop : l.dropWhile isSpace = l := by
    cases l with
    | nil => rfl
    | cons c l => simp [h c List.mem_cons_self]
  have hrdrop : l.rdropWhile isSpace = l := by
    rw [List.rdropWhile_eq_self_iff]
    intro hl
    simp [h _ (List.getLast_mem hl)]
  simp [strip, trimList, hdrop, hrdrop]

/-- What `text.strip()` keeps, once it is not empty, is not blank. -/
theorem isBlank_eq_false_iff (s : String) : isBlank s = false ↔ strip s ≠ "" := by
  simp [isBlank]

/-! ## §2. Character classes and slices. -/

/-- `[a-z0-9_:-]` -/
def isReasonChar (c : Char) : Bool :=
  ('a' ≤ c && c ≤ 'z') || ('0' ≤ c && c ≤ '9') || c == '_' || c == ':' || c == '-'

/-- `[a-zA-Z0-9_.:@-]` -/
def isKeyChar (c : Char) : Bool :=
  ('a' ≤ c && c ≤ 'z') || ('A' ≤ c && c ≤ 'Z') || ('0' ≤ c && c ≤ '9') || c == '_'
    || c == '.' || c == ':' || c == '@' || c == '-'

/-- `[a-z0-9_.:@-]` -/
def isOperationChar (c : Char) : Bool := isReasonChar c || c == '.' || c == '@'

/-- `re.compile(r"^[class]{1,limit}$").fullmatch(s)` -/
def fullmatch (cls : Char → Bool) (limit : Nat) (s : String) : Bool :=
  let cs := s.toList
  !cs.isEmpty && cs.length ≤ limit && cs.all cls

/-- `s[:n]` -/
def slice (n : Nat) (s : String) : String := String.ofList (s.toList.take n)

/-- `needle in hay` -/
def occursIn (needle hay : String) : Bool := decide (needle.toList <:+: hay.toList)

/-! ## §3. `lower` and `casefold`. -/

/-- The lower case of one character, up to the characters whose lower case has
    no ASCII letter: those are left as they are. -/
def lowerChar (c : Char) : List Char :=
  if 'A' ≤ c && c ≤ 'Z' then [Char.ofNat (c.toNat + 32)]
  else match c.toNat with
    | 0x130 => ['i', Char.ofNat 0x307]
    | 0x212A => ['k']
    | _ => [c]

/-- `str.lower()`, as far as ASCII letters can come out of it. -/
def lower (s : String) : String := String.ofList (s.toList.flatMap lowerChar)

/-- The full case folding of one character, up to the characters whose
    folding has no ASCII letter: those are left as they are. -/
def casefoldChar (c : Char) : List Char :=
  if 'A' ≤ c && c ≤ 'Z' then [Char.ofNat (c.toNat + 32)]
  else match c.toNat with
    | 0xDF | 0x1E9E => ['s', 's']
    | 0x130 => ['i', Char.ofNat 0x307]
    | 0x149 => [Char.ofNat 0x2BC, 'n']
    | 0x17F => ['s']
    | 0x1F0 => ['j', Char.ofNat 0x30C]
    | 0x1E96 => ['h', Char.ofNat 0x331]
    | 0x1E97 => ['t', Char.ofNat 0x308]
    | 0x1E98 => ['w', Char.ofNat 0x30A]
    | 0x1E99 => ['y', Char.ofNat 0x30A]
    | 0x1E9A => ['a', Char.ofNat 0x2BE]
    | 0x212A => ['k']
    | 0xFB00 => ['f', 'f']
    | 0xFB01 => ['f', 'i']
    | 0xFB02 => ['f', 'l']
    | 0xFB03 => ['f', 'f', 'i']
    | 0xFB04 => ['f', 'f', 'l']
    | 0xFB05 | 0xFB06 => ['s', 't']
    | _ => [c]

/-- `str.casefold()`, as far as ASCII letters can come out of it. -/
def casefold (s : String) : String := String.ofList (s.toList.flatMap casefoldChar)

/-- `value.strip().lower()`, if the class and the limit allow the whole of it. -/
def safeValue (cls : Char → Bool) (limit : Nat) (value : String) : Option String :=
  let normalized := lower (strip value)
  if fullmatch cls limit normalized then some normalized else none

/-- `re.sub("[^class]+", "_", s)`: every maximal run outside the class
    becomes one underscore. -/
def replaceRuns (cls : Char → Bool) : List Char → List Char
  | [] => []
  | c :: cs =>
      if cls c then c :: replaceRuns cls cs
      else match cs with
        | [] => ['_']
        | d :: ds => if cls d then '_' :: replaceRuns cls (d :: ds)
                     else replaceRuns cls (d :: ds)

/-! ## §4. `int`. -/

/-- The zeros of the decimal digits of Unicode; nine digits follow each of them. -/
def decimalZeros : List Nat :=
  [0x30, 0x660, 0x6F0, 0x7C0, 0x966, 0x9E6, 0xA66, 0xAE6, 0xB66, 0xBE6, 0xC66, 0xCE6, 0xD66, 0xDE6,
    0xE50, 0xED0, 0xF20, 0x1040, 0x1090, 0x17E0, 0x1810, 0x1946, 0x19D0, 0x1A80, 0x1A90, 0x1B50,
    0x1BB0, 0x1C40, 0x1C50, 0xA620, 0xA8D0, 0xA900, 0xA9D0, 0xA9F0, 0xAA50, 0xABF0, 0xFF10, 0x104A0,
    0x10D30, 0x11066, 0x110F0, 0x11136, 0x111D0, 0x112F0, 0x11450, 0x114D0, 0x11650, 0x116C0,
    0x11730, 0x118E0, 0x11950, 0x11C50, 0x11D50, 0x11DA0, 0x16A60, 0x16AC0, 0x16B50, 0x1D7CE,
    0x1D7D8, 0x1D7E2, 0x1D7EC, 0x1D7F6, 0x1E140, 0x1E2F0, 0x1E950, 0x1FBF0]

/-- The value of a decimal digit. -/
def decimal (c : Char) : Option Nat :=
  (decimalZeros.find? fun first => first ≤ c.toNat && c.toNat < first + 10).map (c.toNat - ·)

/-- The digits of a number; one underscore may stand between two of them. -/
def decimals : List Char → Option (List Nat)
  | [] => none
  | [c] => (decimal c).map ([·])
  | c :: '_' :: rest => (decimal c).bind fun digit => (decimals rest).map (digit :: ·)
  | c :: rest => (decimal c).bind fun digit => (decimals rest).map (digit :: ·)

/-- `int(text)`; more than 4300 digits are refused. -/
def parseInt (text : String) : Option Int :=
  let (negative, unsigned) : Bool × List Char := match (strip text).toList with
    | '-' :: rest => (true, rest)
    | '+' :: rest => (false, rest)
    | rest => (false, rest)
  (decimals unsigned).bind fun digits =>
    if 4300 < digits.length then none
    else
      let magnitude : Int := digits.foldl (fun n digit => 10 * n + digit) 0
      some (if negative then -magnitude else magnitude)

end Cai.Lib.Text
