/-
  Cai.Lib.Calendar — times of the years 1 to 9999, and their ISO texts.

  A time is a number of microseconds since the start of the year 1, in UTC.
  Its text is that of `datetime.isoformat`: the fraction is left out when it
  is zero, so that texts of different lengths are compared.

  Main results:
    * `ordinal_dateOf` — the date of a day is the date with its ordinal.
    * `isoformat_lt_iff` — the texts are ordered as the times are.
-/
import Mathlib.Data.String.Basic
import Mathlib.Tactic.Common

namespace Cai.Lib.Calendar

/-! ## §1. Dates. -/

/-- `_is_leap` -/
def isLeap (year : Nat) : Bool := year % 4 = 0 && (year % 100 ≠ 0 || year % 400 = 0)

/-- `_days_before_year` -/
def daysBeforeYear (year : Nat) : Nat :=
  (year - 1) * 365 + (year - 1) / 4 - (year - 1) / 100 + (year - 1) / 400

/-- The number of days of a year. -/
def yearLength (year : Nat) : Nat := if isLeap year then 366 else 365

/-- `_days_before_month` -/
def daysBeforeMonth (leap : Bool) (month : Nat) : Nat :=
  [0, 0, 31, 59, 90, 120, 151, 181, 212, 243, 273, 304, 334].getD month 365
    + if 2 < month && leap then 1 else 0

/-- A date. -/
structure Date where
  year : Nat
  month : Nat
  day : Nat
  deriving DecidableEq, Repr

/-- The number of days before a date. -/
def Date.ordinal (date : Date) : Nat :=
  daysBeforeYear date.year + daysBeforeMonth (isLeap date.year) date.month + (date.day - 1)

/-- The year of day number `n`: cycles of 400, 100 and 4 years. -/
def yearOf (n : Nat) : Nat :=
  let n400 := n / 146097
  let n100 := min (n % 146097 / 36524) 3
  let rest := n % 146097 - n100 * 36524
  let n1 := min (rest % 1461 / 365) 3
  400 * n400 + 100 * n100 + 4 * (rest / 1461) + n1 + 1

/-- The month of a day of the year: an estimate that is at most one too large. -/
def monthOf (leap : Bool) (day : Nat) : Nat :=
  let month := (day + 50) / 32
  if day < daysBeforeMonth leap month then month - 1 else month

/-- `_ord2ymd`, for the day with `n` days before it. -/
def dateOf (n : Nat) : Date :=
  let year := yearOf n
  let day := n - daysBeforeYear year
  let month := monthOf (isLeap year) day
  { year, month, day := day - daysBeforeMonth (isLeap year) month + 1 }

/-- A year by its place in the cycles of 400, 100 and 4 years. -/
theorem daysBeforeYear_cycles {a b c d : Nat} (hb : b ≤ 3) (hc : c ≤ 24) (hd : d ≤ 3) :
    daysBeforeYear (400 * a + 100 * b + 4 * c + d + 1)
      = 146097 * a + 36524 * b + 1461 * c + 365 * d := by
  unfold daysBeforeYear
  have h4 : (400 * a + 100 * b + 4 * c + d) / 4 = 100 * a + 25 * b + c := by omega
  have h100 : (400 * a + 100 * b + 4 * c + d) / 100 = 4 * a + b := by omega
  have h400 : (400 * a + 100 * b + 4 * c + d) / 400 = a := by omega
  rw [Nat.add_sub_cancel, h4, h100, h400]
  omega

theorem isLeap_cycles {a b c d : Nat} (hb : b ≤ 3) (hc : c ≤ 24) (hd : d ≤ 3) :
    isLeap (400 * a + 100 * b + 4 * c + d + 1) = true ↔ d = 3 ∧ (c = 24 → b = 3) := by
  unfold isLeap
  simp only [Bool.and_eq_true, Bool.or_eq_true, decide_eq_true_eq]
  omega

/-- Day `n` lies in its year. -/
theorem yearOf_spec (n : Nat) :
    daysBeforeYear (yearOf n) ≤ n ∧ n < daysBeforeYear (yearOf n) + yearLength (yearOf n) := by
  -- where the day is in the four cycles
  obtain ⟨a, b, c, d, k, hb, hc, hd, hyear, hn, hk⟩ : ∃ a b c d k, b ≤ 3 ∧ c ≤ 24 ∧ d ≤ 3
      ∧ yearOf n = 400 * a + 100 * b + 4 * c + d + 1
      ∧ n = 146097 * a + 36524 * b + 1461 * c + 365 * d + k
      ∧ (k < 365 ∨ k = 365 ∧ d = 3 ∧ (c = 24 → b = 3)) := by
    refine ⟨n / 146097, min (n % 146097 / 36524) 3,
      (n % 146097 - min (n % 146097 / 36524) 3 * 36524) / 1461,
      min ((n % 146097 - min (n % 146097 / 36524) 3 * 36524) % 1461 / 365) 3,
      (n % 146097 - min (n % 146097 / 36524) 3 * 36524) % 1461
        - min ((n % 146097 - min (n % 146097 / 36524) 3 * 36524) % 1461 / 365) 3 * 365, ?_⟩
    refine ⟨by omega, by omega, by omega, rfl, by omega, by omega⟩
  rw [hyear, daysBeforeYear_cycles hb hc hd, yearLength]
  refine ⟨by omega, ?_⟩
  by_cases hleap : isLeap (400 * a + 100 * b + 4 * c + d + 1) = true
  · rw [if_pos hleap]
    omega
  · rw [if_neg hleap]
    rw [isLeap_cycles hb hc hd] at hleap
    omega

/-- The month of a day of the year starts not after it, the next one after it. -/
theorem monthOf_spec {leap : Bool} {day : Nat} (h : day < if leap then 366 else 365) :
    1 ≤ monthOf leap day ∧ monthOf leap day ≤ 12 ∧ daysBeforeMonth leap (monthOf leap day) ≤ day
      ∧ day < daysBeforeMonth leap (monthOf leap day + 1) := by
  have hall : ∀ leap : Bool, ∀ day : Fin 366, day.val < (if leap then 366 else 365) →
      1 ≤ monthOf leap day ∧ monthOf leap day ≤ 12 ∧ daysBeforeMonth leap (monthOf leap day) ≤ day
        ∧ day.val < daysBeforeMonth leap (monthOf leap day + 1) := by decide +kernel
  have hlt : day < 366 := by
    cases leap
    · exact Nat.lt_of_lt_of_le h (by decide)
    · exact h
  exact hall leap ⟨day, hlt⟩ h

theorem daysBeforeMonth_mono {leap : Bool} {month month' : Nat} (h : month ≤ month')
    (hmonth : month' ≤ 13) : daysBeforeMonth leap month ≤ daysBeforeMonth leap month' := by
  have hall : ∀ leap : Bool, ∀ month' : Fin 14, ∀ month : Fin (month'.val + 1),
      daysBeforeMonth leap month.val ≤ daysBeforeMonth leap month'.val := by decide
  exact hall leap ⟨month', Nat.lt_succ_of_le hmonth⟩ ⟨month, Nat.lt_succ_of_le h⟩

theorem daysBeforeMonth_succ_le (leap : Bool) {month : Nat} (h : month ≤ 12) :
    daysBeforeMonth leap (month + 1) ≤ daysBeforeMonth leap month + 31 := by
  have hall : ∀ leap : Bool, ∀ month : Fin 13,
      daysBeforeMonth leap (month.val + 1) ≤ daysBeforeMonth leap month.val + 31 := by decide
  exact hall leap ⟨month, Nat.lt_succ_of_le h⟩

/-- The day of the year is one of it. -/
theorem dayOfYear_lt (n : Nat) :
    n - daysBeforeYear (yearOf n) < if isLeap (yearOf n) then 366 else 365 := by
  have hspec := yearOf_spec n
  unfold yearLength at hspec
  omega

/-- **The date of day `n` has `n` days before it.** -/
theorem ordinal_dateOf (n : Nat) : (dateOf n).ordinal = n := by
  have hyear := yearOf_spec n
  have hmonth := monthOf_spec (dayOfYear_lt n)
  show daysBeforeYear (yearOf n)
    + daysBeforeMonth (isLeap (yearOf n)) (monthOf (isLeap (yearOf n)) (n - daysBeforeYear (yearOf n)))
    + (n - daysBeforeYear (yearOf n) - daysBeforeMonth (isLeap (yearOf n))
        (monthOf (isLeap (yearOf n)) (n - daysBeforeYear (yearOf n))) + 1 - 1) = n
  omega

example : dateOf 739253 = ⟨2025, 1, 3⟩ := by decide

/-! ## §2. The order of dates. -/

/-- The fields of a date, the larger unit first. -/
def Date.fields (date : Date) : List Nat := [date.year, date.month, date.day]

theorem div_succ_of_mod (k b : Nat) :
    (k + 1) / b = k / b + if (k + 1) % b = 0 then 1 else 0 := by
  rw [Nat.succ_div]
  simp only [Nat.dvd_iff_mod_eq_zero]

theorem daysBeforeYear_succ {year : Nat} (h : 1 ≤ year) :
    daysBeforeYear (year + 1) = daysBeforeYear year + yearLength year := by
  obtain ⟨k, rfl⟩ : ∃ k, year = k + 1 := ⟨year - 1, by omega⟩
  have h4 := div_succ_of_mod k 4
  have h100 := div_succ_of_mod k 100
  have h400 := div_succ_of_mod k 400
  have hle : k / 100 ≤ k / 4 := Nat.div_le_div_left (by decide) (by decide)
  have hmod4 : (k + 1) % 100 = 0 → (k + 1) % 4 = 0 := by omega
  have hmod100 : (k + 1) % 400 = 0 → (k + 1) % 100 = 0 := by omega
  unfold daysBeforeYear yearLength isLeap
  rw [Nat.add_sub_cancel, Nat.add_sub_cancel, h4, h100, h400]
  simp only [Bool.and_eq_true, Bool.or_eq_true, decide_eq_true_eq]
  generalize (k + 1) % 4 = m4 at *
  generalize (k + 1) % 100 = m100 at *
  generalize (k + 1) % 400 = m400 at *
  generalize k / 4 = q4 at *
  generalize k / 100 = q100 at *
  generalize k / 400 = q400 at *
  by_cases hm4 : m4 = 0
  · by_cases hm100 : m100 = 0
    · by_cases hm400 : m400 = 0
      · simp [hm4, hm100, hm400]
        omega
      · simp [hm4, hm100, hm400]
        omega
    · have hm400 : m400 ≠ 0 := fun h400 => hm100 (hmod100 h400)
      simp [hm4, hm100, hm400]
      omega
  · have hm100 : m100 ≠ 0 := fun h100 => hm4 (hmod4 h100)
    have hm400 : m400 ≠ 0 := fun h400 => hm100 (hmod100 h400)
    simp [hm4, hm100, hm400]
    omega

/-- A later year starts after the end of the year. -/
theorem daysBeforeYear_le {year year' : Nat} (hpos : 1 ≤ year) (h : year < year') :
    daysBeforeYear year + yearLength year ≤ daysBeforeYear year' := by
  induction year', h using Nat.le_induction with
  | base => exact (daysBeforeYear_succ hpos).ge
  | succ k hk ih =>
      have hnext : daysBeforeYear (k + 1) = daysBeforeYear k + yearLength k :=
        daysBeforeYear_succ (by omega)
      omega

/-- Days are ordered as their dates are. -/
theorem fields_dateOf_lt {m n : Nat} (h : m < n) : (dateOf m).fields < (dateOf n).fields := by
  have hm := yearOf_spec m
  have hn := yearOf_spec n
  have hpos : 1 ≤ yearOf n := Nat.succ_pos _
  unfold Date.fields dateOf
  simp only
  rw [List.cons_lt_cons_iff]
  rcases Nat.lt_trichotomy (yearOf m) (yearOf n) with hlt | heq | hgt
  · exact .inl hlt
  · -- the same year: compare the months
    right
    refine ⟨heq, ?_⟩
    rw [List.cons_lt_cons_iff]
    have hday := dayOfYear_lt m
    have hday' := dayOfYear_lt n
    rw [heq] at hday hm ⊢
    have hlt : m - daysBeforeYear (yearOf n) < n - daysBeforeYear (yearOf n) := by omega
    generalize m - daysBeforeYear (yearOf n) = a at hday hlt ⊢
    generalize n - daysBeforeYear (yearOf n) = b at hday' hlt ⊢
    generalize isLeap (yearOf n) = leap at hday hday' ⊢
    have ha := monthOf_spec hday
    have hb := monthOf_spec hday'
    rcases Nat.lt_trichotomy (monthOf leap a) (monthOf leap b) with hlt' | heq' | hgt'
    · exact .inl hlt'
    · right
      refine ⟨heq', ?_⟩
      rw [heq'] at ha ⊢
      rw [List.cons_lt_cons_iff]
      left
      omega
    · -- a later month starts after the later day
      have hnext : daysBeforeMonth leap (monthOf leap b + 1) ≤ daysBeforeMonth leap (monthOf leap a) :=
        daysBeforeMonth_mono (Nat.succ_le_of_lt hgt') (by omega)
      omega
  · have := daysBeforeYear_le hpos hgt
    omega

/-! ## §3. Texts with fields of fixed width. -/

/-- `n` in `width` digits. -/
def padded : Nat → Nat → List Char
  | 0, _ => []
  | width + 1, n => Nat.digitChar (n / 10 ^ width) :: padded width (n % 10 ^ width)

/-- Where two texts of one length differ, what follows does not matter. -/
theorem append_lt_append {α : Type*} [LT α] {x y u v : List α} (h : x < y)
    (hlength : x.length = y.length) : x ++ u < y ++ v := by
  induction x generalizing y with
  | nil =>
      cases y with
      | nil => exact absurd h (List.not_lt_nil [])
      | cons b y => cases hlength
  | cons a x ih =>
      cases y with
      | nil => cases hlength
      | cons b y =>
          rw [List.cons_lt_cons_iff] at h
          rw [List.cons_append, List.cons_append, List.cons_lt_cons_iff]
          rcases h with hlt | ⟨heq, hlt⟩
          · exact .inl hlt
          · exact .inr ⟨heq, ih hlt (Nat.succ.inj hlength)⟩

@[simp] theorem length_padded (width n : Nat) : (padded width n).length = width := by
  induction width generalizing n with
  | zero => rfl
  | succ width ih => rw [padded, List.length_cons, ih]

theorem digitChar_lt {a b : Nat} (h : a < b) (hb : b < 10) : Nat.digitChar a < Nat.digitChar b := by
  have hall : ∀ b : Fin 10, ∀ a : Fin b.val, Nat.digitChar a.val < Nat.digitChar b.val := by
    decide
  exact hall ⟨b, hb⟩ ⟨a, h⟩

/-- Digits are ordered as the numbers are. -/
theorem padded_lt {width m n : Nat} (h : m < n) (hn : n < 10 ^ width) :
    padded width m < padded width n := by
  induction width generalizing m n with
  | zero => omega
  | succ width ih =>
      have hpos : 0 < 10 ^ width := Nat.pos_of_ne_zero (by simp)
      rw [padded, padded, List.cons_lt_cons_iff]
      rcases Nat.lt_or_ge (m / 10 ^ width) (n / 10 ^ width) with hlt | hge
      · left
        have hdigit : n / 10 ^ width < 10 := by
          rw [Nat.div_lt_iff_lt_mul hpos, Nat.mul_comm, ← Nat.pow_succ]
          exact hn
        exact digitChar_lt hlt hdigit
      · right
        have heq : m / 10 ^ width = n / 10 ^ width :=
          Nat.le_antisymm (Nat.div_le_div_right h.le) hge
        refine ⟨by rw [heq], ih ?_ (Nat.mod_lt _ hpos)⟩
        have hm := Nat.div_add_mod m (10 ^ width)
        have hn := Nat.div_add_mod n (10 ^ width)
        rw [heq] at hm
        omega

/-- A field of a text: its width, and what stands behind it. -/
structure Field where
  width : Nat
  separator : List Char

/-- The text of the fields. -/
def render : List Field → List Nat → List Char
  | field :: fields, n :: values => padded field.width n ++ (field.separator ++ render fields values)
  | _, _ => []

/-- The values fit into the fields. -/
def Fits (fields : List Field) (values : List Nat) : Prop :=
  List.Forall₂ (fun field n => n < 10 ^ field.width) fields values

/-- **Texts of fields are ordered as the values are**, whatever follows them. -/
theorem render_lt {fields : List Field} {values values' : List Nat} (h : values < values')
    (hfits : Fits fields values) (hfits' : Fits fields values') (u v : List Char) :
    render fields values ++ u < render fields values' ++ v := by
  induction fields generalizing values values' with
  | nil =>
      cases hfits
      cases hfits'
      exact absurd h (List.not_lt_nil [])
  | cons field fields ih =>
      cases hfits with
      | cons hn hrest =>
          cases hfits' with
          | cons hn' hrest' =>
              rw [List.cons_lt_cons_iff] at h
              simp only [render, List.append_assoc]
              rcases h with hlt | ⟨rfl, hlt⟩
              · exact append_lt_append (padded_lt hlt hn') (by simp)
              · exact List.append_left_lt (List.append_left_lt (ih hlt hrest hrest'))

/-! ## §4. `isoformat`. -/

/-- The microseconds of a day. -/
def microsPerDay : Nat := 86400000000

/-- The first microsecond of the year 10000. -/
def timeLimit : Int := 3652059 * 86400000000

/-- A time of the years 1 to 9999. -/
def IsTime (t : Int) : Prop := 0 ≤ t ∧ t < timeLimit

instance (t : Int) : Decidable (IsTime t) := inferInstanceAs (Decidable (0 ≤ t ∧ t < timeLimit))

/-- The fields of a time, down to the second. -/
def fieldsOf (t : Nat) : List Nat :=
  (dateOf (t / microsPerDay)).fields
    ++ [t % microsPerDay / 3600000000, t % 3600000000 / 60000000, t % 60000000 / 1000000]

/-- `%Y-%m-%dT%H:%M:%S` -/
def isoFields : List Field :=
  [⟨4, ['-']⟩, ⟨2, ['-']⟩, ⟨2, ['T']⟩, ⟨2, [':']⟩, ⟨2, [':']⟩, ⟨2, []⟩]

/-- The fraction, where there is one, and the offset of UTC. -/
def isoTail (micros : Nat) : List Char :=
  (if micros = 0 then [] else '.' :: padded 6 micros) ++ ['+', '0', '0', ':', '0', '0']

/-- `timestamp.isoformat()` of a time in UTC -/
def isoformat (t : Int) : String :=
  String.ofList (render isoFields (fieldsOf t.toNat) ++ isoTail (t.toNat % 1000000))

theorem yearOf_le {n : Nat} (h : n < 3652059) : yearOf n ≤ 9999 := by
  by_contra hlater
  have hle := daysBeforeYear_le (by decide) (Nat.lt_of_not_le hlater)
  have hspec := yearOf_spec n
  have hend : daysBeforeYear 9999 + yearLength 9999 = 3652059 := by decide
  omega

theorem fits_fieldsOf {t : Int} (h : IsTime t) : Fits isoFields (fieldsOf t.toNat) := by
  have hday : t.toNat / microsPerDay < 3652059 := by
    have := h.2
    unfold timeLimit at this
    unfold microsPerDay
    omega
  have hyear := yearOf_le hday
  have hspec := monthOf_spec (dayOfYear_lt (t.toNat / microsPerDay))
  have hlength := daysBeforeMonth_succ_le (isLeap (yearOf (t.toNat / microsPerDay))) hspec.2.1
  refine .cons ?_ (.cons ?_ (.cons ?_ (.cons ?_ (.cons ?_ (.cons ?_ .nil)))))
  · show yearOf _ < 10000
    omega
  · show monthOf _ _ < 100
    omega
  · show _ - _ + 1 < 100
    omega
  · show t.toNat % microsPerDay / 3600000000 < 100
    unfold microsPerDay
    omega
  · show t.toNat % 3600000000 / 60000000 < 100
    omega
  · show t.toNat % 60000000 / 1000000 < 100
    omega

/-- Lists that start with fields of one length are ordered by these first. -/
theorem fieldsOf_lt {s t : Nat} (h : s < t) :
    fieldsOf s < fieldsOf t ∨ fieldsOf s = fieldsOf t ∧ s % 1000000 < t % 1000000 := by
  unfold fieldsOf
  rcases Nat.lt_or_ge (s / microsPerDay) (t / microsPerDay) with hday | hday
  · exact .inl (append_lt_append (fields_dateOf_lt hday) rfl)
  · -- the same day: compare the times of the day
    have hday : s / microsPerDay = t / microsPerDay :=
      Nat.le_antisymm (Nat.div_le_div_right h.le) hday
    rw [hday]
    have hclock : [s % microsPerDay / 3600000000, s % 3600000000 / 60000000, s % 60000000 / 1000000]
          < [t % microsPerDay / 3600000000, t % 3600000000 / 60000000, t % 60000000 / 1000000]
        ∨ [s % microsPerDay / 3600000000, s % 3600000000 / 60000000, s % 60000000 / 1000000]
          = [t % microsPerDay / 3600000000, t % 3600000000 / 60000000, t % 60000000 / 1000000]
          ∧ s % 1000000 < t % 1000000 := by
      simp only [List.cons_lt_cons_iff, List.cons.injEq, List.not_lt_nil, and_false, or_false,
        and_true]
      unfold microsPerDay at *
      omega
    rcases hclock with hlt | ⟨heq, hlt⟩
    · exact .inl (List.append_left_lt hlt)
    · exact .inr ⟨by rw [heq], hlt⟩

/-- A text without a fraction comes before the ones with it: `'+' < '.'`. -/
theorem isoTail_lt {m n : Nat} (h : m < n) (hn : n < 1000000) : isoTail m < isoTail n := by
  unfold isoTail
  have hne : n ≠ 0 := by omega
  rw [if_neg hne]
  by_cases hm : m = 0
  · rw [if_pos hm, List.nil_append, List.cons_append, List.cons_lt_cons_iff]
    exact .inl (by decide)
  · rw [if_neg hm, List.cons_append, List.cons_append, List.cons_lt_cons_iff]
    exact .inr ⟨rfl, append_lt_append (padded_lt h hn) (by simp)⟩

theorem isoformat_lt {s t : Int} (hs : IsTime s) (ht : IsTime t) (h : s < t) :
    isoformat s < isoformat t := by
  have hnat : s.toNat < t.toNat := by
    have := hs.1
    omega
  unfold isoformat
  rw [String.lt_iff_toList_lt, String.toList_ofList, String.toList_ofList]
  rcases fieldsOf_lt hnat with hlt | ⟨heq, hlt⟩
  · exact render_lt hlt (fits_fieldsOf hs) (fits_fieldsOf ht) _ _
  · rw [heq]
    exact List.append_left_lt (isoTail_lt hlt (Nat.mod_lt _ (by decide)))

/-- **The texts of times are ordered as the times are.** -/
theorem isoformat_lt_iff {s t : Int} (hs : IsTime s) (ht : IsTime t) :
    isoformat s < isoformat t ↔ s < t := by
  constructor
  · intro h
    rcases lt_trichotomy s t with hlt | rfl | hgt
    · exact hlt
    · exact absurd h (lt_irrefl _)
    · exact absurd h (isoformat_lt ht hs hgt).asymm
  · exact isoformat_lt hs ht

theorem isoformat_inj {s t : Int} (hs : IsTime s) (ht : IsTime t) :
    isoformat s = isoformat t ↔ s = t := by
  constructor
  · intro h
    rcases lt_trichotomy s t with hlt | heq | hgt
    · exact absurd h (isoformat_lt hs ht hlt).ne
    · exact heq
    · exact absurd h (isoformat_lt ht hs hgt).ne'
  · exact congrArg isoformat

end Cai.Lib.Calendar
