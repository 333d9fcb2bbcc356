import PromoBot.Discovery.CacheReplay
import PromoBot.Lib.DecimalOrder
import PromoBot.Lib.RowOrder

/-!
# What the ranking of products keeps

`rank_discovery_product` adds five parts, each between zero and its own maximum, and the maxima
add up to one hundred.  Of the five only the history part sees the price and the prices of
earlier runs.  It sorts them first, so their order does not matter, and every operation it then
does to the price keeps the order, so a lower price scores at least as much.

None of this depends on how the arithmetic rounds, as long as it keeps the order.  The ranking
is therefore stated for any such arithmetic: `rankDiscoveryProductIn_decimal` says that with
the arithmetic of `Decimal` it is the ranking of the program, and with `Rounding.exact` the
prices are exact rationals.

## Why the rounding is a parameter

Python's `Decimal` rounds each result to the digits of its context.  A median of two prices, a
difference, a quotient and a product are so four roundings, and a law proved of exact fractions
could fail by a digit in the last place: just where a drop reaches its minimum, or a part its
maximum.  `Rounding` asks for two things, that a rounding is monotone and that it leaves zero
alone.  The laws need no more, and the rounding of `Decimal` has both (`Lib.DecimalOrder`).

## Where the laws come from

* The bounds: each part is a minimum of its maximum and a floor of something that is not
  negative (`min_floor_mem`), and the kinds of data a product of the parser has are ten at
  most.
* The order of the history: everything is computed of the sorted prices, and two permutations
  have one sorted list.
* A lower price: the median does not depend on the price, and the drop below it grows as the
  price falls (`priceDropIn_anti`), and with the drop the points and the class.

The class is settled by an equivalence, `classification_eq_historyBacked_iff`: it takes two
positive earlier prices, and a drop from their median that reaches the minimum.
-/

namespace PromoBot
namespace Discovery

open Decimal (Rounding)
open RowOrder

/-! ## The ranking, for an arithmetic -/

/-- `_median`. -/
def medianIn (r : Rounding) (prices : List Decimal) : Decimal :=
  let middle := prices.length / 2
  if prices.length % 2 = 1 then prices.getD middle 0
  else r.round (r.round (prices.getD (middle - 1) 0 + prices.getD middle 0) / 2)

/-- `_bounded_floor`. -/
def boundedFloorIn (r : Rounding) (value : Option Decimal) (divisor : Decimal) (maximum : Int) :
    Int :=
  match value.filter (0 < ·) with
  | some value => min maximum ⌊r.round (value / divisor)⌋
  | none => 0

/-- By how many percent a price is below the median. -/
def priceDropIn (r : Rounding) (median price : Decimal) : Decimal :=
  r.round (r.round (r.round (median - price) / median) * 100)

/-- The positive prices, in order. -/
def sortedPositive (prior : List Decimal) : List Decimal :=
  (prior.filter (0 < ·)).insertionSort (· ≤ ·)

/-- What the history says of a product with a price. -/
def historyIn (r : Rounding) (price : Decimal) (prior : List Decimal) :
    Nat × Option (Decimal × Decimal) :=
  let prices := sortedPositive prior
  if 2 ≤ prices.length then
    (prices.length, some (medianIn r prices, priceDropIn r (medianIn r prices) price))
  else (prices.length, none)

/-- The points of a drop that reaches the minimum. -/
def historyScoreIn (r : Rounding) (minimumDrop : Decimal) (drop : Option Decimal) : Int :=
  match drop.filter (minimumDrop ≤ ·) with
  | some d => min 60 ⌊r.round (d * 2)⌋
  | none => 0

/-- `rank_discovery_product`. -/
def rankDiscoveryProductIn (r : Rounding) (product : DiscoveryProduct) (prior : List Decimal)
    (minimumDrop : Decimal) : DiscoveryScore :=
  let (count, found) := match product.targetBrlPrice with
    | some price => historyIn r price prior
    | none => (0, none)
  let drop := found.map Prod.snd
  let historyScore := historyScoreIn r minimumDrop drop
  let discountScore := boundedFloorIn r product.declaredDiscountPercent 2 15
  let commissionScore := boundedFloorIn r product.commissionRate 1 5
  let volumeScore := volumeScore product.volume
  { historyMedian := found.map Prod.fst
    historySnapshotCount := count
    priceDropPercent := drop
    historyScore := historyScore
    discountScore := discountScore
    volumeScore := volumeScore
    commissionScore := commissionScore
    completenessScore := product.completenessScore
    totalScore := historyScore + discountScore + volumeScore + commissionScore +
      product.completenessScore
    classification := classify product drop minimumDrop }

/-- **The ranking of the program** is the one with the arithmetic of `Decimal`. -/
theorem rankDiscoveryProductIn_decimal (product : DiscoveryProduct) (prior : List Decimal)
    (minimumDrop : Decimal) : rankDiscoveryProductIn .decimal product prior minimumDrop =
      rankDiscoveryProduct product prior minimumDrop := rfl

variable {r : Rounding} {product : DiscoveryProduct} {prior prior' : List Decimal}
  {minimumDrop : Decimal}

/-! ## Bounds -/

theorem min_floor_mem (r : Rounding) {maximum : Int} (hmax : 0 ≤ maximum) {q : ℚ} (hq : 0 ≤ q) :
    0 ≤ min maximum ⌊r.round q⌋ ∧ min maximum ⌊r.round q⌋ ≤ maximum :=
  ⟨le_min hmax (Int.floor_nonneg.2 (r.nonneg hq)), min_le_left _ _⟩

theorem boundedFloorIn_mem (r : Rounding) (value : Option Decimal) (divisor : Decimal)
    (maximum : Int) (hdivisor : 0 < divisor) (hmax : 0 ≤ maximum) :
    0 ≤ boundedFloorIn r value divisor maximum ∧
      boundedFloorIn r value divisor maximum ≤ maximum := by
  unfold boundedFloorIn
  cases hvalue : value.filter (0 < ·) with
  | none => exact ⟨le_rfl, hmax⟩
  | some v =>
    have hpos : 0 < v := of_decide_eq_true (Option.filter_eq_some_iff.1 hvalue).2
    exact min_floor_mem r hmax (div_nonneg hpos.le hdivisor.le)

theorem volumeScore_mem (volume : Option Nat) : 0 ≤ volumeScore volume ∧ volumeScore volume ≤ 10 := by
  unfold volumeScore
  split
  · omega
  · omega
  · split_ifs <;> omega

theorem historyScoreIn_mem (r : Rounding) (hmin : 0 < minimumDrop) (drop : Option Decimal) :
    0 ≤ historyScoreIn r minimumDrop drop ∧ historyScoreIn r minimumDrop drop ≤ 60 := by
  unfold historyScoreIn
  cases hdrop : drop.filter (minimumDrop ≤ ·) with
  | none => exact ⟨le_rfl, by norm_num⟩
  | some d =>
    have hle : minimumDrop ≤ d := of_decide_eq_true (Option.filter_eq_some_iff.1 hdrop).2
    have hpos : 0 ≤ d * 2 := by
      have := hmin.trans_le hle
      linarith
    exact min_floor_mem r (by omega) hpos

/-- **The total is between zero and one hundred**, for a product with at most ten kinds of
data. -/
theorem totalScore_mem (r : Rounding) (hmin : 0 < minimumDrop)
    (hcomplete : product.completenessScore ≤ 10) (prior : List Decimal) :
    0 ≤ (rankDiscoveryProductIn r product prior minimumDrop).totalScore ∧
      (rankDiscoveryProductIn r product prior minimumDrop).totalScore ≤ 100 := by
  have hhistory := historyScoreIn_mem r hmin
    (rankDiscoveryProductIn r product prior minimumDrop).priceDropPercent
  have hdiscount := boundedFloorIn_mem r product.declaredDiscountPercent 2 15 (by norm_num)
    (by omega)
  have hcommission := boundedFloorIn_mem r product.commissionRate 1 5 (by norm_num) (by omega)
  have hvolume := volumeScore_mem product.volume
  have htotal : (rankDiscoveryProductIn r product prior minimumDrop).totalScore =
      historyScoreIn r minimumDrop
          (rankDiscoveryProductIn r product prior minimumDrop).priceDropPercent +
        boundedFloorIn r product.declaredDiscountPercent 2 15 + volumeScore product.volume +
        boundedFloorIn r product.commissionRate 1 5 + product.completenessScore := rfl
  rw [htotal]
  omega

/-! ## The order of the history -/

theorem sortedPositive_perm (h : prior.Perm prior') : sortedPositive prior = sortedPositive prior' :=
  insertionSort_eq_of_perm _ (h.filter _) fun _ _ _ _ => le_antisymm

/-- **The order of the history does not matter.** -/
theorem rankDiscoveryProductIn_perm (r : Rounding) (product : DiscoveryProduct)
    (minimumDrop : Decimal) (h : prior.Perm prior') :
    rankDiscoveryProductIn r product prior minimumDrop =
      rankDiscoveryProductIn r product prior' minimumDrop := by
  simp only [rankDiscoveryProductIn, historyIn, sortedPositive_perm h]

/-! ## A lower price -/

theorem medianIn_nonneg (r : Rounding) {prices : List Decimal} (h : ∀ price ∈ prices, 0 ≤ price) :
    0 ≤ medianIn r prices := by
  have hentry (i : Nat) : 0 ≤ prices.getD i 0 := by
    rw [List.getD_eq_getElem?_getD]
    cases hi : prices[i]? with
    | none => exact le_rfl
    | some price => exact h price (List.mem_of_getElem? hi)
  unfold medianIn
  dsimp only
  split_ifs
  · exact hentry _
  · exact r.nonneg (div_nonneg (r.nonneg (add_nonneg (hentry _) (hentry _))) (by norm_num))

/-- **The drop grows as the price falls.** -/
theorem priceDropIn_anti (r : Rounding) {median price price' : Decimal} (hmedian : 0 ≤ median)
    (h : price' ≤ price) : priceDropIn r median price ≤ priceDropIn r median price' := by
  have hdifference : r.round (median - price) ≤ r.round (median - price') :=
    r.mono (by linarith)
  have hquotient : r.round (r.round (median - price) / median) ≤
      r.round (r.round (median - price') / median) :=
    r.mono (div_le_div_of_nonneg_right hdifference hmedian)
  exact r.mono (by linarith)

theorem historyScoreIn_mono (r : Rounding) (hmin : 0 < minimumDrop) {d d' : Decimal} (h : d ≤ d') :
    historyScoreIn r minimumDrop (some d) ≤ historyScoreIn r minimumDrop (some d') := by
  by_cases hd : minimumDrop ≤ d
  · have hd' := hd.trans h
    have hround : r.round (d * 2) ≤ r.round (d' * 2) := r.mono (by linarith)
    simp only [historyScoreIn, Option.filter_some, hd, hd', decide_true, if_true]
    exact min_le_min_left 60 (Int.floor_le_floor hround)
  · have hnone : historyScoreIn r minimumDrop (some d) = 0 := by
      simp [historyScoreIn, Option.filter_some, hd]
    rw [hnone]
    exact (historyScoreIn_mem r hmin (some d')).1

theorem priceDropPercent_rank (r : Rounding) {price : Decimal} (prior : List Decimal)
    (minimumDrop : Decimal) (hprice : product.targetBrlPrice = some price) :
    (rankDiscoveryProductIn r product prior minimumDrop).priceDropPercent =
      if 2 ≤ (sortedPositive prior).length then
        some (priceDropIn r (medianIn r (sortedPositive prior)) price) else none := by
  simp only [rankDiscoveryProductIn, hprice, historyIn]
  split_ifs <;> rfl

/-- **A lower price never lowers the total.** -/
theorem totalScore_le_of_price_le (r : Rounding) (hmin : 0 < minimumDrop) (prior : List Decimal)
    {price price' : Decimal} (hprice : product.targetBrlPrice = some price) (h : price' ≤ price) :
    (rankDiscoveryProductIn r product prior minimumDrop).totalScore ≤
      (rankDiscoveryProductIn r { product with targetBrlPrice := some price' } prior
        minimumDrop).totalScore := by
  have hmedian : 0 ≤ medianIn r (sortedPositive prior) := by
    apply medianIn_nonneg
    intro p hp
    rw [sortedPositive, List.mem_insertionSort] at hp
    exact (of_decide_eq_true (List.mem_filter.1 hp).2).le
  have hhistory : historyScoreIn r minimumDrop
        (rankDiscoveryProductIn r product prior minimumDrop).priceDropPercent ≤
      historyScoreIn r minimumDrop (rankDiscoveryProductIn r
        { product with targetBrlPrice := some price' } prior minimumDrop).priceDropPercent := by
    have hlower : ({ product with targetBrlPrice := some price' } : DiscoveryProduct).targetBrlPrice =
        some price' := rfl
    rw [priceDropPercent_rank r prior minimumDrop hprice,
      priceDropPercent_rank r prior minimumDrop hlower]
    split_ifs
    · exact historyScoreIn_mono r hmin (priceDropIn_anti r hmedian h)
    · exact le_rfl
  -- The other four parts do not see the price.
  show historyScoreIn r minimumDrop _ + _ + _ + _ + _ ≤ historyScoreIn r minimumDrop _ + _ + _ + _ + _
  gcongr
  exact hhistory

/-! ## The classification -/

/-- **A drop is backed by the history** exactly when there is a price, at least two earlier
prices are positive, and the drop from their median reaches the minimum. -/
theorem classification_eq_historyBacked_iff (r : Rounding) (product : DiscoveryProduct)
    (prior : List Decimal) (minimumDrop : Decimal) :
    (rankDiscoveryProductIn r product prior minimumDrop).classification =
        .historyBackedPriceDrop ↔
      ∃ price, product.targetBrlPrice = some price ∧ 2 ≤ (prior.filter (0 < ·)).length ∧
        minimumDrop ≤ priceDropIn r (medianIn r (sortedPositive prior)) price := by
  have hlength : (sortedPositive prior).length = (prior.filter (0 < ·)).length :=
    List.length_insertionSort _ _
  show classify product (rankDiscoveryProductIn r product prior minimumDrop).priceDropPercent
    minimumDrop = _ ↔ _
  cases hprice : product.targetBrlPrice with
  | none => simp [classify, hprice]
  | some price =>
    rw [priceDropPercent_rank r prior minimumDrop hprice, hlength]
    by_cases hcount : 2 ≤ (prior.filter (0 < ·)).length
    · rw [if_pos hcount]
      by_cases hdrop : minimumDrop ≤ priceDropIn r (medianIn r (sortedPositive prior)) price
      · simp [classify, hprice, hdrop, hcount]
      · simp only [classify, hprice]
        split_ifs <;> simp_all
    · rw [if_neg hcount]
      simp only [classify, hprice]
      split_ifs <;> simp_all

/-! ## The laws -/

/-- **The laws of the ranking**, of a product a page was parsed to, in any arithmetic that keeps
the order: exact, or that of `Decimal`. -/
theorem rankDiscoveryProductIn_laws {digit : Char → Option Nat} {payload : List (String × Json)}
    {wrapper : String} {page : DiscoveryPage}
    (hparse : DiscoveryParser.parseDiscoveryPage digit payload wrapper = .ok page)
    (hproduct : product ∈ page.products) (r : Rounding) (prior : List Decimal)
    (hmin : 0 < minimumDrop) :
    (0 ≤ (rankDiscoveryProductIn r product prior minimumDrop).totalScore ∧
      (rankDiscoveryProductIn r product prior minimumDrop).totalScore ≤ 100) ∧
    (∀ prior' : List Decimal, prior.Perm prior' →
      rankDiscoveryProductIn r product prior minimumDrop =
        rankDiscoveryProductIn r product prior' minimumDrop) ∧
    (∀ price price' : Decimal, product.targetBrlPrice = some price → 0 < price' → price' ≤ price →
      (rankDiscoveryProductIn r product prior minimumDrop).totalScore ≤
        (rankDiscoveryProductIn r { product with targetBrlPrice := some price' } prior
          minimumDrop).totalScore) ∧
    ((rankDiscoveryProductIn r product prior minimumDrop).classification =
        .historyBackedPriceDrop ↔
      ∃ price, product.targetBrlPrice = some price ∧ 2 ≤ (prior.filter (0 < ·)).length ∧
        minimumDrop ≤ priceDropIn r (medianIn r (sortedPositive prior)) price) := by
  have haccepted := DiscoveryParser.accepted_of_parse hparse product hproduct
  refine ⟨totalScore_mem r hmin haccepted.completeness_le prior, fun prior' hperm =>
    rankDiscoveryProductIn_perm r product minimumDrop hperm, ?_,
    classification_eq_historyBacked_iff r product prior minimumDrop⟩
  intro price price' hprice _ hle
  exact totalScore_le_of_price_le r hmin prior hprice hle

/-- The product of a response with one price, with a history of two prices. -/
theorem rankDiscoveryProductIn_laws_onePrice :
    ∃ product ∈ (onePricePage "9.99".toList).products,
      (rankDiscoveryProductIn .exact product [20, 15] 10).classification =
          .historyBackedPriceDrop ∧
        (rankDiscoveryProductIn .exact product [20, 15] 10).totalScore ≤
          (rankDiscoveryProductIn .exact { product with targetBrlPrice := some 5 } [20, 15]
            10).totalScore := by
  obtain ⟨product, hproduct, hprice⟩ : ∃ product ∈ (onePricePage "9.99".toList).products,
      product.targetBrlPrice = some (999 / 100) := by decide +kernel
  obtain ⟨-, -, hlower, hclass⟩ := rankDiscoveryProductIn_laws
    (parse_onePrice "9.99".toList (by decide +kernel)) hproduct .exact [20, 15]
    (show (0 : Decimal) < 10 by norm_num)
  refine ⟨product, hproduct, hclass.2 ⟨999 / 100, hprice, by decide +kernel, by decide +kernel⟩, ?_⟩
  exact hlower _ 5 hprice (by norm_num) (by norm_num)

end Discovery
end PromoBot
