import Mathlib.Data.Nat.Find
import Mathlib.Order.Monotone.Basic

/-!
# The calendar of `datetime.date`

The Gregorian calendar carried back to the year 1, as Python's `date` has it.  A `Date` is a
day of it, so its fields are in range.  Days are also counted, the first of January of the
year 1 being day 1 (`toordinal`), and `fromordinal` finds the day of a number again.

Dates come in the order of their numbers exactly as they come when their years, months and
days are compared one after another (`toordinal_lt_iff`).
-/

namespace Calendar

def isLeap (year : Nat) : Bool := year % 4 = 0 ∧ (year % 100 ≠ 0 ∨ year % 400 = 0)

/-- The days before the first of January of a year. -/
def daysBeforeYear (year : Nat) : Nat :=
  (year - 1) * 365 + (year - 1) / 4 - (year - 1) / 100 + (year - 1) / 400

def daysInMonth (leap : Bool) : Nat → Nat
  | 1 | 3 | 5 | 7 | 8 | 10 | 12 => 31
  | 4 | 6 | 9 | 11 => 30
  | 2 => if leap then 29 else 28
  | _ => 0

/-- The days of a year before the first day of a month. -/
def daysBeforeMonth (leap : Bool) : Nat → Nat
  | 0 => 0
  | month + 1 => daysBeforeMonth leap month + daysInMonth leap month

def daysInYear (leap : Bool) : Nat := daysBeforeMonth leap 13

/-! ## Years and months one after another -/

theorem daysInYear_eq (leap : Bool) : daysInYear leap = if leap then 366 else 365 := by
  cases leap <;> rfl

theorem isLeap_iff {year : Nat} :
    isLeap year = true ↔ year % 4 = 0 ∧ (year % 100 ≠ 0 ∨ year % 400 = 0) :=
  decide_eq_true_iff

theorem succ_div_eq (n k : Nat) : (n + 1) / k = n / k + if (n + 1) % k = 0 then 1 else 0 := by
  rw [Nat.succ_div]
  exact congrArg (n / k + ·) (if_congr Nat.dvd_iff_mod_eq_zero rfl rfl)

theorem daysBeforeYear_succ {year : Nat} (h : 1 ≤ year) :
    daysBeforeYear (year + 1) = daysBeforeYear year + daysInYear (isLeap year) := by
  obtain ⟨y, rfl⟩ := Nat.exists_eq_add_of_le' h
  have h4 : (y + 1) / 4 = y / 4 + if (y + 1) % 4 = 0 then 1 else 0 := succ_div_eq y 4
  have h100 : (y + 1) / 100 = y / 100 + if (y + 1) % 100 = 0 then 1 else 0 := succ_div_eq y 100
  have h400 : (y + 1) / 400 = y / 400 + if (y + 1) % 400 = 0 then 1 else 0 := succ_div_eq y 400
  have hle : y / 100 ≤ y / 4 := Nat.div_le_div_left (by decide) (by decide)
  rw [daysInYear_eq]
  unfold daysBeforeYear
  rw [Nat.add_sub_cancel, Nat.add_sub_cancel, h4, h100, h400]
  generalize y / 4 = q4 at hle ⊢
  generalize y / 100 = q100 at hle ⊢
  generalize y / 400 = q400
  by_cases hleap : isLeap (y + 1) = true
  · rw [if_pos hleap]
    obtain ⟨hfour, hcentury⟩ := isLeap_iff.1 hleap
    rw [if_pos hfour]
    split_ifs <;> omega
  · rw [if_neg hleap]
    rw [isLeap_iff] at hleap
    by_cases hfour : (y + 1) % 4 = 0
    · rw [if_pos hfour, if_pos (by omega), if_neg (by omega)]
      omega
    · rw [if_neg hfour, if_neg (by omega), if_neg (by omega)]
      omega

theorem daysBeforeYear_mono : Monotone daysBeforeYear := by
  refine monotone_nat_of_le_succ fun year => ?_
  rcases Nat.eq_zero_or_pos year with rfl | hpos
  · exact Nat.le_refl 0
  · rw [daysBeforeYear_succ hpos]
    exact Nat.le_add_right _ _

theorem daysBeforeYear_cycles {a b c e : Nat} (hb : b ≤ 3) (hc : c ≤ 24) (he : e ≤ 3) :
    daysBeforeYear (a * 400 + b * 100 + c * 4 + e + 1) =
      a * 146097 + b * 36524 + c * 1461 + e * 365 := by
  have h4 : (a * 400 + b * 100 + c * 4 + e) / 4 = a * 100 + b * 25 + c := by omega
  have h100 : (a * 400 + b * 100 + c * 4 + e) / 100 = a * 4 + b := by omega
  have h400 : (a * 400 + b * 100 + c * 4 + e) / 400 = a := by omega
  unfold daysBeforeYear
  rw [Nat.add_sub_cancel, h4, h100, h400]
  omega

theorem isLeap_cycles {a b c e : Nat} (hb : b ≤ 3) (hc : c ≤ 24) (he : e ≤ 3) :
    isLeap (a * 400 + b * 100 + c * 4 + e + 1) = true ↔ e = 3 ∧ (c ≠ 24 ∨ b = 3) := by
  rw [isLeap_iff]
  omega

theorem daysInMonth_le (leap : Bool) (month : Nat) : daysInMonth leap month ≤ 31 := by
  unfold daysInMonth
  split
  all_goals first | decide | cases leap <;> decide

theorem daysBeforeMonth_mono (leap : Bool) : Monotone (daysBeforeMonth leap) :=
  monotone_nat_of_le_succ fun _ => Nat.le_add_right _ _

end Calendar

/-! ## Dates -/

/-- `datetime.date`. -/
@[ext] structure Date where
  year : Nat
  month : Nat
  day : Nat
  year_pos : 1 ≤ year
  year_le : year ≤ 9999
  month_pos : 1 ≤ month
  month_le : month ≤ 12
  day_pos : 1 ≤ day
  day_le : day ≤ Calendar.daysInMonth (Calendar.isLeap year) month

namespace Date

open Calendar

variable {d e : Date}

/-- The number of the day in its year, from 1 on. -/
def dayOfYear (d : Date) : Nat := daysBeforeMonth (isLeap d.year) d.month + d.day

/-- `date.toordinal`. -/
def toordinal (d : Date) : Nat := daysBeforeYear d.year + d.dayOfYear

/-- `date.max.toordinal()`. -/
def maxOrdinal : Nat := 3652059

theorem day_le_thirtyOne (d : Date) : d.day ≤ 31 := d.day_le.trans (daysInMonth_le _ _)

theorem dayOfYear_pos (d : Date) : 1 ≤ d.dayOfYear :=
  d.day_pos.trans (Nat.le_add_left _ _)

theorem dayOfYear_le (d : Date) : d.dayOfYear ≤ daysBeforeMonth (isLeap d.year) (d.month + 1) :=
  Nat.add_le_add_left d.day_le _

theorem toordinal_le (d : Date) : d.toordinal ≤ daysBeforeYear (d.year + 1) := by
  rw [daysBeforeYear_succ d.year_pos]
  exact Nat.add_le_add_left
    (d.dayOfYear_le.trans (daysBeforeMonth_mono _ (Nat.succ_le_succ d.month_le))) _

theorem toordinal_le_max (d : Date) : d.toordinal ≤ maxOrdinal :=
  d.toordinal_le.trans (daysBeforeYear_mono (Nat.succ_le_succ d.year_le))

theorem toordinal_pos (d : Date) : 1 ≤ d.toordinal :=
  d.dayOfYear_pos.trans (Nat.le_add_left _ _)

/-! ## The order of dates -/

theorem toordinal_lt_of_year (h : d.year < e.year) : d.toordinal < e.toordinal := by
  have hnext : daysBeforeYear (d.year + 1) ≤ daysBeforeYear e.year := daysBeforeYear_mono h
  calc d.toordinal ≤ daysBeforeYear e.year := d.toordinal_le.trans hnext
    _ < e.toordinal := Nat.lt_add_of_pos_right e.dayOfYear_pos

theorem toordinal_lt_of_month (hyear : d.year = e.year) (h : d.month < e.month) :
    d.toordinal < e.toordinal := by
  have hnext := d.dayOfYear_le.trans (daysBeforeMonth_mono (isLeap d.year) h)
  have hday : 0 < e.day := e.day_pos
  unfold toordinal
  rw [hyear] at hnext ⊢
  unfold dayOfYear at hnext ⊢
  omega

theorem toordinal_lt_of_day (hyear : d.year = e.year) (hmonth : d.month = e.month)
    (h : d.day < e.day) : d.toordinal < e.toordinal := by
  unfold toordinal dayOfYear
  rw [hyear, hmonth]
  omega

/-- The years, the months and the days are compared one after another. -/
def Before (d e : Date) : Prop :=
  d.year < e.year ∨ d.year = e.year ∧ (d.month < e.month ∨ d.month = e.month ∧ d.day < e.day)

theorem Before.toordinal_lt (h : Before d e) : d.toordinal < e.toordinal := by
  obtain hyear | ⟨hyear, hmonth | ⟨hmonth, hday⟩⟩ := h
  · exact toordinal_lt_of_year hyear
  · exact toordinal_lt_of_month hyear hmonth
  · exact toordinal_lt_of_day hyear hmonth hday

theorem before_trichotomy (d e : Date) : Before d e ∨ d = e ∨ Before e d := by
  rcases Nat.lt_trichotomy d.year e.year with hyear | hyear | hyear
  · exact Or.inl (Or.inl hyear)
  · rcases Nat.lt_trichotomy d.month e.month with hmonth | hmonth | hmonth
    · exact Or.inl (Or.inr ⟨hyear, Or.inl hmonth⟩)
    · rcases Nat.lt_trichotomy d.day e.day with hday | hday | hday
      · exact Or.inl (Or.inr ⟨hyear, Or.inr ⟨hmonth, hday⟩⟩)
      · exact Or.inr (Or.inl (Date.ext hyear hmonth hday))
      · exact Or.inr (Or.inr (Or.inr ⟨hyear.symm, Or.inr ⟨hmonth.symm, hday⟩⟩))
    · exact Or.inr (Or.inr (Or.inr ⟨hyear.symm, Or.inl hmonth⟩))
  · exact Or.inr (Or.inr (Or.inl hyear))

/-- **Dates come in the order of their numbers.** -/
theorem toordinal_lt_iff : d.toordinal < e.toordinal ↔ Before d e := by
  refine ⟨fun h => ?_, Before.toordinal_lt⟩
  rcases before_trichotomy d e with hbefore | rfl | hafter
  · exact hbefore
  · exact absurd h (Nat.lt_irrefl _)
  · exact absurd (hafter.toordinal_lt.trans h) (Nat.lt_irrefl _)

theorem toordinal_injective : Function.Injective toordinal := by
  intro d e h
  rcases before_trichotomy d e with hbefore | heq | hafter
  · exact absurd h hbefore.toordinal_lt.ne
  · exact heq
  · exact absurd h.symm hafter.toordinal_lt.ne

/-! ## The date of a number -/

/-- The year of a day, the days being counted from 0 here. -/
def yearOf (n : Nat) : Nat :=
  let centuries := min 3 (n % 146097 / 36524)
  let inCentury := n % 146097 - centuries * 36524
  n / 146097 * 400 + centuries * 100 + inCentury / 1461 * 4 + min 3 (inCentury % 1461 / 365) + 1

/-- The month of a day of a year, the days of the year being counted from 0 here. -/
def monthOf (leap : Bool) (n : Nat) : Nat :=
  Nat.findGreatest (fun month => daysBeforeMonth leap month ≤ n) 12

theorem yearOf_spec (n : Nat) :
    daysBeforeYear (yearOf n) ≤ n ∧ n < daysBeforeYear (yearOf n + 1) := by
  unfold yearOf
  dsimp only
  generalize hb : min 3 (n % 146097 / 36524) = b
  generalize hr : n % 146097 - b * 36524 = r
  generalize he : min 3 (r % 1461 / 365) = e
  have hb3 : b ≤ 3 := hb ▸ Nat.min_le_left 3 _
  have he3 : e ≤ 3 := he ▸ Nat.min_le_left 3 _
  have hc : r / 1461 ≤ 24 := by omega
  have hstart := daysBeforeYear_cycles (a := n / 146097) hb3 hc he3
  have hleap := isLeap_cycles (a := n / 146097) hb3 hc he3
  rw [daysBeforeYear_succ (Nat.le_add_left 1 _), hstart, daysInYear_eq]
  refine ⟨by omega, ?_⟩
  -- The last year of a cycle has the odd day, if any.
  split_ifs with hodd
  · omega
  · rw [hleap] at hodd
    omega

theorem yearOf_pos (n : Nat) : 1 ≤ yearOf n := Nat.le_add_left 1 _

theorem yearOf_le {n : Nat} (h : n < maxOrdinal) : yearOf n ≤ 9999 := by
  by_contra hlate
  have hmono : daysBeforeYear 10000 ≤ daysBeforeYear (yearOf n) :=
    daysBeforeYear_mono (by omega)
  exact absurd (hmono.trans (yearOf_spec n).1) (Nat.not_le.2 h)

theorem monthOf_pos (leap : Bool) (n : Nat) : 1 ≤ monthOf leap n :=
  Nat.le_findGreatest (by decide) (Nat.zero_le n)

theorem monthOf_le (leap : Bool) (n : Nat) : monthOf leap n ≤ 12 := Nat.findGreatest_le 12

theorem monthOf_spec {leap : Bool} {n : Nat} (h : n < daysInYear leap) :
    daysBeforeMonth leap (monthOf leap n) ≤ n ∧
      n < daysBeforeMonth leap (monthOf leap n) + daysInMonth leap (monthOf leap n) := by
  refine ⟨Nat.findGreatest_spec (P := fun month => daysBeforeMonth leap month ≤ n) (m := 1)
    (by decide) (Nat.zero_le n), Nat.lt_of_not_le fun hnext => ?_⟩
  have hlast : monthOf leap n ≠ 12 := by
    intro hlast
    rw [hlast] at hnext
    exact absurd hnext (Nat.not_le.2 h)
  have hle := Nat.le_findGreatest (P := fun month => daysBeforeMonth leap month ≤ n)
    (Nat.succ_le_of_lt (Nat.lt_of_le_of_ne (monthOf_le leap n) hlast)) hnext
  exact absurd hle (Nat.not_succ_le_self _)

theorem sub_daysBeforeYear_lt (n : Nat) :
    n - daysBeforeYear (yearOf n) < daysInYear (isLeap (yearOf n)) := by
  obtain ⟨hle, hlt⟩ := yearOf_spec n
  rw [daysBeforeYear_succ (yearOf_pos n)] at hlt
  omega

/-- `date.fromordinal`, the days being counted from 0 here. -/
def fromordinal (n : Nat) (h : n < maxOrdinal) : Date where
  year := yearOf n
  month := monthOf (isLeap (yearOf n)) (n - daysBeforeYear (yearOf n))
  day := n - daysBeforeYear (yearOf n) - daysBeforeMonth (isLeap (yearOf n))
    (monthOf (isLeap (yearOf n)) (n - daysBeforeYear (yearOf n))) + 1
  year_pos := yearOf_pos n
  year_le := yearOf_le h
  month_pos := monthOf_pos _ _
  month_le := monthOf_le _ _
  day_pos := Nat.le_add_left 1 _
  day_le := by
    have hspec := monthOf_spec (sub_daysBeforeYear_lt n)
    omega

/-- **The date of a number has that number.** -/
theorem toordinal_fromordinal {n : Nat} (h : n < maxOrdinal) :
    (fromordinal n h).toordinal = n + 1 := by
  have hyear := (yearOf_spec n).1
  have hmonth := (monthOf_spec (sub_daysBeforeYear_lt n)).1
  unfold toordinal dayOfYear fromordinal
  dsimp only
  omega

example : let d := fromordinal 738944 (by decide)
    (d.year, d.month, d.day) = (2024, 2, 29) := by decide

end Date
