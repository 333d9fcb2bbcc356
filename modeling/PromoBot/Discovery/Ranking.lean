import Mathlib.Data.List.Sort
import PromoBot.Providers.Discovery

/-!
# Ranking a discovered product

`discovery/ranking.py`: the score of a product is the sum of five parts, of which only the
history part looks at the prices of earlier runs.  The arithmetic is that of `Decimal`, so
every quotient and product is rounded by `Decimal.fix`.
-/

namespace PromoBot
namespace Discovery

/-- The values of `DiscoveryScore.classification`. -/
inductive DiscoveryClassification
  | insufficientData | historyBackedPriceDrop | providerDiscountOnly | baselineOnly
  deriving DecidableEq, Repr

/-- `DiscoveryScore`. -/
structure DiscoveryScore where
  historyMedian : Option Decimal
  historySnapshotCount : Nat
  priceDropPercent : Option Decimal
  historyScore : Int
  discountScore : Int
  volumeScore : Int
  commissionScore : Int
  completenessScore : Int
  totalScore : Int
  classification : DiscoveryClassification
  deriving DecidableEq

/-- `_median`, of sorted prices. -/
def median (prices : List Decimal) : Decimal :=
  let middle := prices.length / 2
  if prices.length % 2 = 1 then prices.getD middle 0
  else Decimal.fix (Decimal.fix (prices.getD (middle - 1) 0 + prices.getD middle 0) / 2)

/-- `_bounded_floor`. -/
def boundedFloor (value : Option Decimal) (divisor : Decimal) (maximum : Int) : Int :=
  match value.filter (0 < ·) with
  | some value => min maximum ⌊Decimal.fix (value / divisor)⌋
  | none => 0

/-- `_volume_score`. -/
def volumeScore : Option Nat → Int
  | none | some 0 => 0
  | some volume =>
    if volume < 10 then 2 else if volume < 50 then 4 else if volume < 200 then 6
    else if volume < 1000 then 8 else 10

/-- By how many percent a price is below the median. -/
def priceDrop (median price : Decimal) : Decimal :=
  Decimal.fix (Decimal.fix (Decimal.fix (median - price) / median) * 100)

/-- What the history says of a product with a price: how many prices there are, their median
and the drop below it. -/
def history (price : Decimal) (prior : List Decimal) : Nat × Option (Decimal × Decimal) :=
  let prices := (prior.filter (0 < ·)).insertionSort (· ≤ ·)
  if 2 ≤ prices.length then (prices.length, some (median prices, priceDrop (median prices) price))
  else (prices.length, none)

/-- The classification, from the price, the drop if there is one, and the declared
discount. -/
def classify (product : DiscoveryProduct) (drop : Option Decimal) (minimumDrop : Decimal) :
    DiscoveryClassification :=
  if product.targetBrlPrice = none then .insufficientData
  else if ∃ d ∈ drop, minimumDrop ≤ d then .historyBackedPriceDrop
  else if ∃ d ∈ product.declaredDiscountPercent, 0 < d then .providerDiscountOnly
  else .baselineOnly

/-- `rank_discovery_product`.  Of a `HistoricalPrice` it reads the price alone. -/
def rankDiscoveryProduct (product : DiscoveryProduct) (prior : List Decimal)
    (minimumDrop : Decimal) : DiscoveryScore :=
  let (count, found) := match product.targetBrlPrice with
    | some price => history price prior
    | none => (0, none)
  let drop := found.map Prod.snd
  let historyScore := match drop.filter (minimumDrop ≤ ·) with
    | some d => min 60 ⌊Decimal.fix (d * 2)⌋
    | none => 0
  let discountScore := boundedFloor product.declaredDiscountPercent 2 15
  let commissionScore := boundedFloor product.commissionRate 1 5
  let volumeScore := volumeScore product.volume
  { historyMedian := found.map Prod.fst
    historySnapshotCount := count
    priceDropPercent := drop
    historyScore := historyScore
    discountScore := discountScore
    volumeScore := volumeScore
    commissionScore := commissionScore
    completenessScore := product.completenessScore
    totalScore := historyScore + discountScore + volumeScore + commissionScore +
      product.completenessScore
    classification := classify product drop minimumDrop }

end Discovery
end PromoBot
