import Mathlib.Data.Int.ConditionallyCompleteOrder
import Mathlib.Order.Monotone.Basic
import Mathlib.Tactic.Linarith
import Mathlib.Tactic.Positivity
import PromoBot.Lib.PyDecimal

/-!
# The arithmetic of decimals keeps the order

Rounding to the 28 digits of the context is monotone (`fix_mono`).  Between two numbers of the
same magnitude it is rounding to a multiple of one power of ten; across magnitudes a power of
ten lies between, and powers of ten are not rounded away (`fix_mem_decade`).

`Rounding` is what of this a monotonicity proof needs, so that one proof serves the decimals of
the program (`Rounding.decimal`) and exact arithmetic (`Rounding.exact`).
-/

namespace Decimal

/-! ## To the nearest integer -/

theorem floor_le_roundHalfEven (q : ℚ) : ⌊q⌋ ≤ roundHalfEven q := by
  unfold roundHalfEven
  split_ifs <;> omega

theorem roundHalfEven_le (q : ℚ) : roundHalfEven q ≤ ⌊q⌋ + 1 := by
  unfold roundHalfEven
  split_ifs <;> omega

@[simp] theorem roundHalfEven_intCast (n : ℤ) : roundHalfEven n = n := by
  simp [roundHalfEven]

theorem roundHalfEven_mono : Monotone roundHalfEven := by
  intro x y hxy
  rcases (Int.floor_le_floor hxy).lt_or_eq with hlt | heq
  · calc roundHalfEven x ≤ ⌊x⌋ + 1 := roundHalfEven_le x
      _ ≤ ⌊y⌋ := hlt
      _ ≤ roundHalfEven y := floor_le_roundHalfEven y
  · have hfract : x - ⌊x⌋ ≤ y - ⌊y⌋ := by
      rw [heq]
      linarith
    unfold roundHalfEven
    rw [heq] at hfract ⊢
    split_ifs <;> first | omega | (exfalso; linarith)

theorem roundHalfEven_neg (q : ℚ) : roundHalfEven (-q) = -roundHalfEven q := by
  by_cases hint : (⌊q⌋ : ℚ) = q
  · rw [← hint, ← Int.cast_neg, roundHalfEven_intCast, roundHalfEven_intCast]
  · have hfloor : ⌊-q⌋ = -⌊q⌋ - 1 := by
      have hle := Int.floor_le q
      have hlt := Int.lt_floor_add_one q
      have hne : (⌊q⌋ : ℚ) < q := lt_of_le_of_ne hle hint
      rw [Int.floor_eq_iff]
      push_cast
      constructor <;> linarith
    have hfract : -q - ((-⌊q⌋ - 1 : ℤ) : ℚ) = 1 - (q - ⌊q⌋) := by
      push_cast
      ring
    unfold roundHalfEven
    rw [hfloor, hfract]
    split_ifs <;> first | omega | (exfalso; linarith)

/-! ## To a number of decimals -/

theorem quantize_mono (scale : ℤ) : Monotone (quantize scale) := by
  intro x y hxy
  have hpos : (0 : ℚ) < 10 ^ scale := zpow_pos (by norm_num) _
  unfold quantize
  gcongr
  exact roundHalfEven_mono (by gcongr)

theorem quantize_neg (scale : ℤ) (q : ℚ) : quantize scale (-q) = -quantize scale q := by
  rw [quantize, neg_mul, roundHalfEven_neg, Int.cast_neg, neg_div, quantize]

theorem quantize_zpow {scale e : ℤ} (h : 0 ≤ scale + e) : quantize scale (10 ^ e) = 10 ^ e := by
  obtain ⟨n, hn⟩ := Int.eq_ofNat_of_zero_le h
  have hscale : (10 : ℚ) ^ e * 10 ^ scale = ((10 ^ n : ℤ) : ℚ) := by
    rw [← zpow_add₀ (by norm_num), add_comm, hn]
    push_cast
    exact zpow_natCast _ _
  rw [quantize, hscale, roundHalfEven_intCast, ← hscale, mul_div_cancel_right₀]
  exact (zpow_pos (by norm_num) _).ne'

/-! ## To the precision of the context -/

@[simp] theorem fix_zero : fix 0 = 0 := if_pos rfl

theorem fix_neg (q : ℚ) : fix (-q) = -fix q := by
  by_cases hq : q = 0
  · rw [hq, neg_zero, fix_zero, neg_zero]
  · rw [fix, if_neg (neg_ne_zero.2 hq), abs_neg, quantize_neg, fix, if_neg hq]

theorem fix_of_pos {q : ℚ} (h : 0 < q) : fix q = quantize (precision - 1 - Int.log 10 q) q := by
  rw [fix, if_neg h.ne', abs_of_pos h]

/-- **A number is rounded within its decade.** -/
theorem fix_mem_decade {q : ℚ} (h : 0 < q) :
    (10 : ℚ) ^ Int.log 10 q ≤ fix q ∧ fix q ≤ 10 ^ (Int.log 10 q + 1) := by
  have hlow : (10 : ℚ) ^ Int.log 10 q ≤ q := Int.zpow_log_le_self (by norm_num) h
  have hhigh : q ≤ (10 : ℚ) ^ (Int.log 10 q + 1) :=
    (Int.lt_zpow_succ_log_self (by norm_num) q).le
  rw [fix_of_pos h]
  constructor
  · calc (10 : ℚ) ^ Int.log 10 q
        = quantize (precision - 1 - Int.log 10 q) (10 ^ Int.log 10 q) :=
          (quantize_zpow (by unfold precision; omega)).symm
      _ ≤ quantize (precision - 1 - Int.log 10 q) q := quantize_mono _ hlow
  · calc quantize (precision - 1 - Int.log 10 q) q
        ≤ quantize (precision - 1 - Int.log 10 q) (10 ^ (Int.log 10 q + 1)) :=
          quantize_mono _ hhigh
      _ = 10 ^ (Int.log 10 q + 1) := quantize_zpow (by unfold precision; omega)

theorem fix_pos {q : ℚ} (h : 0 < q) : 0 < fix q :=
  lt_of_lt_of_le (zpow_pos (by norm_num) _) (fix_mem_decade h).1

theorem fix_le_fix_of_pos {x y : ℚ} (hx : 0 < x) (hxy : x ≤ y) : fix x ≤ fix y := by
  have hy := hx.trans_le hxy
  rcases (Int.log_mono_right (b := 10) hx hxy).lt_or_eq with hlt | heq
  · calc fix x ≤ 10 ^ (Int.log 10 x + 1) := (fix_mem_decade hx).2
      _ ≤ (10 : ℚ) ^ Int.log 10 y := zpow_le_zpow_right₀ (by norm_num) hlt
      _ ≤ fix y := (fix_mem_decade hy).1
  · rw [fix_of_pos hx, fix_of_pos hy, heq]
    exact quantize_mono _ hxy

/-- **Rounding to the context keeps the order.** -/
theorem fix_mono : Monotone fix := by
  have hnonneg {q : ℚ} (hq : 0 ≤ q) : 0 ≤ fix q := by
    rcases hq.lt_or_eq with hpos | rfl
    · exact (fix_pos hpos).le
    · rw [fix_zero]
  intro x y hxy
  rcases lt_or_ge 0 x with hx | hx
  · exact fix_le_fix_of_pos hx hxy
  · rcases lt_or_ge y 0 with hy | hy
    · have hneg := fix_le_fix_of_pos (neg_pos.2 hy) (neg_le_neg hxy)
      rw [fix_neg, fix_neg] at hneg
      exact neg_le_neg_iff.1 hneg
    · have hx' := hnonneg (neg_nonneg.2 hx)
      rw [fix_neg, neg_nonneg] at hx'
      exact hx'.trans (hnonneg hy)

/-! ## Roundings -/

/-- How an arithmetic operation rounds its result: the order is kept, and zero. -/
structure Rounding where
  round : ℚ → ℚ
  mono : Monotone round
  zero : round 0 = 0

/-- Exact arithmetic. -/
def Rounding.exact : Rounding := ⟨id, monotone_id, rfl⟩

/-- The arithmetic of the context. -/
def Rounding.decimal : Rounding := ⟨fix, fix_mono, fix_zero⟩

theorem Rounding.nonneg (r : Rounding) {q : ℚ} (h : 0 ≤ q) : 0 ≤ r.round q := by
  have hround := r.mono h
  rwa [r.zero] at hround

end Decimal
