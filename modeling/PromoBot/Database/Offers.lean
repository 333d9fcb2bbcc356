import PromoBot.Database.Proofs
import PromoBot.Providers.Offers

/-!
# The tables of offers

The tables an offer is stored in, and the repositories which write them:
`ProductRepository`, `AffiliateOfferRepository`, `ShopeeOfferRepository` and
`AliExpressOfferRepository` of `database/repositories.py`.

A candidate has one proof and one snapshot for each provider.  Those tables are keyed by the
candidate, and a second row is an `IntegrityError`.
-/

namespace PromoBot

/-- A row of `products` (`ProductModel`). -/
structure Product where
  store : Store
  externalId : Text
  title : Text
  canonicalUrl : Text
  imageUrl : Option Text
  seller : Option Text
  currency : Text
  deriving DecidableEq

/-- A row of `deals` (`DealModel`); amounts are in cents. -/
structure Deal where
  productId : Nat
  currentPrice : Nat
  finalPrice : Nat
  currency : Text
  paymentMethod : String
  installments : Nat
  confidence : String
  score : Nat
  source : String
  discoveryOrigin : String
  discoveredAt : Instant
  lastValidatedAt : Option Instant
  affiliateLink : Option Text
  status : String
  priceMin : Option Nat
  priceMax : Option Nat
  selectedPrice : Option Nat
  priceDisplayMode : Option String
  variationId : Option Text
  available : Option Bool
  affiliateProofId : Option Nat
  deriving DecidableEq

/-- A row of `shopee_product_snapshots` (`ShopeeProductSnapshotModel`). -/
structure ShopeeProductSnapshot where
  productId : Nat
  shopId : Text
  itemId : Text
  selectedVariationId : Option Text
  priceMin : Nat
  priceMax : Nat
  selectedPrice : Option Nat
  currency : Text
  available : Bool
  selectedVariationAvailable : Option Bool
  rangeSemanticsConfirmed : Bool
  officialImageUrl : Option Text
  queriedAt : Instant
  deriving DecidableEq

/-- A row of `aliexpress_product_snapshots` (`AliExpressProductSnapshotModel`). -/
structure AliExpressProductSnapshot where
  productId : Nat
  externalProductId : Text
  selectedSkuId : Option Text
  priceMin : Nat
  priceMax : Nat
  selectedPrice : Option Nat
  priceScope : String
  currency : Text
  available : Option Bool
  officialImageUrl : Option Text
  commissionRate : Option Decimal
  commissionAmount : Option Nat
  shippingFee : Option Nat
  sourceOperation : String
  queriedAt : Instant

/-- A row of `price_history` (`PriceHistoryModel`). -/
structure PriceHistory where
  productId : Nat
  price : Nat
  currency : Text
  freight : Option Nat
  paymentMethod : String
  installments : Nat
  collectedAt : Instant
  source : String
  deriving DecidableEq

/-- The tables a stored offer touches. -/
structure OfferDatabase where
  candidates : AffiliateCandidates
  products : SqlTable Nat Product
  proofs : AffiliateLinkProofs
  shopeeSnapshots : SqlTable Nat ShopeeProductSnapshot
  aliexpressSnapshots : SqlTable Nat AliExpressProductSnapshot
  deals : SqlTable Nat Deal
  priceHistory : List PriceHistory

/-- What the statements below raise. -/
inductive OfferRaised
  | valueError (text : String)
  | provider (error : ProviderError)
  /-- An `IntegrityError`, by the constraint. -/
  | integrity (name : String)
  /-- `MultipleResultsFound`. -/
  | multipleResults
  /-- `AffiliateCandidateTransitionConflict`. -/
  | conflict (text : String)

open SqlTable Fallible

/-! ## Products -/

namespace ProductRepository

/-- `get_by_external_id`, with the number of the row. -/
def getByExternalId (t : SqlTable Nat Product) (store : Store) (externalId : Text) :
    Except OfferRaised (Option (Nat × Product)) :=
  match t.select fun _ r => r.store = store ∧ r.externalId = externalId with
  | [] => .ok none
  | [e] => .ok (some e)
  | _ => .error .multipleResults

/-- `upsert_provider`: the table, and the number of the row. -/
def upsertProvider (t : SqlTable Nat Product) (row : Product) :
    Except OfferRaised (SqlTable Nat Product × Nat) := do
  let found ← getByExternalId t row.store row.externalId
  let id := (found.map Prod.fst).getD t.freshId
  return (t.put id row, id)

end ProductRepository

/-! ## Proofs, snapshots and deals -/

/-- An insert into a table with one row for each candidate. -/
def insertForCandidate {ρ : Type} (t : SqlTable Nat ρ) (constraint : String) (candidateId : Nat)
    (row : ρ) : Except OfferRaised (SqlTable Nat ρ) := do
  check (t.get? candidateId = none) (.integrity constraint)
  return t.put candidateId row

namespace AffiliateOfferRepository

/-- What a caller of `add_proof` passes. -/
structure NewProof where
  provider : String
  operation : String
  requestedAt : Instant
  respondedAt : Instant
  sourceExternalProductId : Text
  canonicalUrl : Text
  shortLink : Text
  contractVersion : String

/-- The row `add_proof` inserts. -/
def proofRow (q : NewProof) (id : Nat) : AffiliateLinkProof where
  id := id
  generationId := none
  provider := q.provider
  operation := q.operation
  requestedAt := q.requestedAt
  respondedAt := q.respondedAt
  sourceExternalProductId := q.sourceExternalProductId
  canonicalUrl := q.canonicalUrl
  shortLink := q.shortLink
  contractVersion := q.contractVersion
  promotionLinkType := none
  trackingFingerprint := none
  expiresAt := none
  generationState := "CONFIRMED"
  officialResponseValidated := true

/-- `add_proof`, which `ShopeeOfferRepository` has in the same words. -/
def addProof (t : AffiliateLinkProofs) (candidateId : Nat) (q : NewProof) :
    Except OfferRaised (AffiliateLinkProofs × AffiliateLinkProof) := do
  let row := proofRow q (nextProofId t)
  let t ← insertForCandidate t "uq_affiliate_link_proof_candidate" candidateId row
  return (t, row)

/-- What a caller of `add_ready_deal` passes. -/
structure NewDeal where
  productId : Nat
  proofId : Nat
  displayPrice : Nat
  priceMin : Nat
  priceMax : Nat
  selectedPrice : Option Nat
  priceDisplayMode : String
  variationId : Option Text
  currency : Text
  affiliateLink : Text
  discoveredAt : Instant
  available : Option Bool
  source : String

/-- The row `add_ready_deal` inserts. -/
def dealRow (q : NewDeal) : Deal where
  productId := q.productId
  currentPrice := q.displayPrice
  finalPrice := q.displayPrice
  currency := q.currency
  paymentMethod := "UNKNOWN"
  installments := 1
  confidence := "MEDIUM"
  score := 0
  source := q.source
  discoveryOrigin := "relay"
  discoveredAt := q.discoveredAt
  lastValidatedAt := some q.discoveredAt
  affiliateLink := some q.affiliateLink
  status := "READY"
  priceMin := some q.priceMin
  priceMax := some q.priceMax
  selectedPrice := q.selectedPrice
  priceDisplayMode := some q.priceDisplayMode
  variationId := q.variationId
  available := q.available
  affiliateProofId := some q.proofId

/-- `add_ready_deal`: the table, and the number of the deal. -/
def addReadyDeal (t : SqlTable Nat Deal) (q : NewDeal) : SqlTable Nat Deal × Nat :=
  (t.put t.freshId (dealRow q), t.freshId)

/-- The row `add_price_history` inserts. -/
def priceHistoryRow (productId price : Nat) (currency : Text) (collectedAt : Instant)
    (source : String) (freight : Option Nat) : PriceHistory where
  productId := productId
  price := price
  currency := currency
  freight := freight
  paymentMethod := "UNKNOWN"
  installments := 1
  collectedAt := collectedAt
  source := source

end AffiliateOfferRepository

end PromoBot
