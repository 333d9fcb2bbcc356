import PromoBot.Discovery.Ranking
import PromoBot.Domain.StateMachines
import PromoBot.Lib.Fallible

/-!
# Ranking the price of a SKU

`discovery/sku_ranking.py`: the price of a SKU against the prices earlier runs have seen of
it, one of each run.
-/

namespace PromoBot
namespace Discovery

open Fallible

/-- `HistoricalSkuPrice`. -/
structure HistoricalSkuPrice where
  refinementRunId : Nat
  productId : Text
  skuId : Text
  price : Decimal
  observedAt : Instant
  deriving DecidableEq

/-- The values of `SkuPriceHistory.classification`. -/
inductive SkuClassification
  | historyBackedPriceDrop | baselineOnly
  deriving DecidableEq, Repr

/-- `SkuPriceHistory`. -/
structure SkuPriceHistory where
  historyMedian : Option Decimal
  historySnapshotCount : Nat
  priceDropPercent : Option Decimal
  classification : SkuClassification
  deriving DecidableEq

/-- What a SKU is ranked by. -/
structure SkuRankInput where
  productId : Text
  skuId : Text
  currentRunId : Nat
  salePriceWithTax : Decimal
  observedAt : Instant
  minimumDropPercent : Decimal

/-- Whether an earlier price counts. -/
def SkuRankInput.Eligible (q : SkuRankInput) (prior : HistoricalSkuPrice) : Prop :=
  prior.productId = q.productId ∧ prior.skuId = q.skuId ∧ prior.refinementRunId ≠ q.currentRunId ∧
    q.observedAt - seconds (30 * 24 * 60 * 60) ≤ prior.observedAt ∧
    prior.observedAt < q.observedAt ∧ 0 < prior.price

instance (q : SkuRankInput) : DecidablePred q.Eligible :=
  fun _ => inferInstanceAs (Decidable (_ ∧ _))

/-- The first price of each run that is not among those seen: the dictionary built with
`setdefault`. -/
def firstOfEachRun (seen : List Nat) : List HistoricalSkuPrice → List Decimal
  | [] => []
  | prior :: rest =>
    if prior.refinementRunId ∈ seen then firstOfEachRun seen rest
    else prior.price :: firstOfEachRun (prior.refinementRunId :: seen) rest

/-- `rank_sku_price`. -/
def rankSkuPrice (q : SkuRankInput) (prior : List HistoricalSkuPrice) :
    Except String SkuPriceHistory := do
  check (0 < q.salePriceWithTax ∧ 0 < q.minimumDropPercent)
    "ALIEXPRESS_DISCOVERY_SKU_RANK_INPUT_INVALID"
  let prices := (firstOfEachRun [] (prior.filter fun p => q.Eligible p)).insertionSort (· ≤ ·)
  if prices.length < 2 then return ⟨none, prices.length, none, .baselineOnly⟩
  else
    let drop := priceDrop (median prices) q.salePriceWithTax
    return ⟨some (median prices), prices.length, some drop,
      if q.minimumDropPercent ≤ drop then .historyBackedPriceDrop else .baselineOnly⟩

end Discovery
end PromoBot
