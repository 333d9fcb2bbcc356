import Mathlib.Data.Int.Log
import Mathlib.Algebra.Order.Round
import Mathlib.Data.Rat.Floor

/-!
# Python decimals

A finite `Decimal` is modelled by the rational number it stands for: two decimals that are
equal in Python are the same number, and `Decimal(str(d)) == d`.  An arithmetic operation
rounds its exact result to the precision of the context, 28 digits, half to even; that is
`fix`.

A `Numeric(p, s)` column of the database gives back a value rounded to `s` decimals.  Which
way it rounds a tie is not relied on: `NumericType` is any rounding to a nearest multiple.
-/

/-- A finite `Decimal`. -/
abbrev Decimal := ℚ

namespace Decimal

/-- The nearest integer, with ties to the even one. -/
def roundHalfEven (q : ℚ) : ℤ :=
  if q - ⌊q⌋ < 1 / 2 then ⌊q⌋
  else if 1 / 2 < q - ⌊q⌋ then ⌊q⌋ + 1
  else if ⌊q⌋ % 2 = 0 then ⌊q⌋ else ⌊q⌋ + 1

/-- Round to a number of decimals, which may be negative. -/
def quantize (scale : ℤ) (q : ℚ) : ℚ := roundHalfEven (q * 10 ^ scale) / 10 ^ scale

/-- The digits of the default context. -/
def precision : ℤ := 28

/-- Round to the precision of the context. -/
def fix (q : ℚ) : ℚ := if q = 0 then 0 else quantize (precision - 1 - Int.log 10 |q|) q

end Decimal

/-! ## Numeric columns -/

/-- How `Numeric(p, s)` columns read a value back: some multiple of `10⁻ˢ` as close to it as
any. -/
structure NumericType where
  /-- The value read back from a column with `s` decimals. -/
  read : ℕ → ℚ → ℚ
  scaled : ∀ s q, ∃ n : ℤ, read s q = n / 10 ^ s
  nearest : ∀ s q, |read s q - q| ≤ 1 / 2 / 10 ^ s

namespace NumericType

variable (columns : NumericType)

/-- **A value with few enough decimals comes back unchanged**, and no other does. -/
theorem read_eq_self_iff {s : ℕ} {q : ℚ} : columns.read s q = q ↔ ∃ n : ℤ, q = n / 10 ^ s := by
  constructor
  · intro h
    obtain ⟨n, hn⟩ := columns.scaled s q
    exact ⟨n, h ▸ hn⟩
  · rintro ⟨n, rfl⟩
    obtain ⟨m, hm⟩ := columns.scaled s (n / 10 ^ s)
    have hnear := columns.nearest s (n / 10 ^ s)
    have hpos : (0 : ℚ) < 10 ^ s := by positivity
    rw [hm, ← sub_div, abs_div, abs_of_pos hpos, div_le_div_iff_of_pos_right hpos] at hnear
    have hint : |((m - n : ℤ) : ℚ)| < 1 := by
      push_cast
      exact lt_of_le_of_lt hnear (by norm_num)
    rw [← Int.cast_abs] at hint
    have hzero : |m - n| < 1 := by exact_mod_cast hint
    have hmn : m = n := by
      rw [Int.abs_lt_one_iff] at hzero
      omega
    rw [hm, hmn]

/-- Rounding half to even is one such reading. -/
def halfEven : NumericType where
  read s q := Decimal.quantize s q
  scaled s q := ⟨Decimal.roundHalfEven (q * 10 ^ (s : ℤ)), by simp [Decimal.quantize]⟩
  nearest s q := by
    have hpos : (0 : ℚ) < 10 ^ s := by positivity
    have hround : ∀ x : ℚ, |(Decimal.roundHalfEven x : ℚ) - x| ≤ 1 / 2 := by
      intro x
      have hfloor := Int.floor_le x
      have hlt := Int.lt_floor_add_one x
      unfold Decimal.roundHalfEven
      rw [abs_le]
      split_ifs <;> push_cast <;> constructor <;> linarith
    unfold Decimal.quantize
    rw [zpow_natCast, le_div_iff₀ hpos, ← abs_of_pos hpos, ← abs_mul, abs_of_pos hpos, sub_mul,
      div_mul_cancel₀ _ hpos.ne']
    exact hround (q * 10 ^ s)

end NumericType
