import Mathlib.Data.String.Basic
import PromoBot.Domain.StateMachines
import PromoBot.Providers.Discovery

/-!
# Cached pages of products

The rows of `aliexpress_discovery_query_cache` with their
`aliexpress_discovery_cache_products` (`database/aliexpress_discovery_repository.py`): how a
page is stored, and what is read back of it.

A row holds the values as they were bound.  The database checks them on insertion, and a
decimal column rounds when it is read (`NumericType`).  A price of a product that only its
text carries, in `observed_prices`, is not rounded.
-/

namespace PromoBot

/-- What an `INTEGER` column of SQLite can hold of a number that is not negative. -/
def FitsInteger (n : Nat) : Prop := n < 2 ^ 63

instance : DecidablePred FitsInteger := fun _ => inferInstanceAs (Decidable (_ < _))

/-- The operation a run queries. -/
inductive DiscoveryOperation
  /-- `PRODUCT_QUERY`. -/
  | productQuery
  /-- `HOTPRODUCT_QUERY`. -/
  | hotproductQuery
  deriving DecidableEq, Repr

/-- A row of `aliexpress_discovery_cache_products`, without its key. -/
structure CacheProduct where
  productId : Text
  title : Option Text
  imageUrl : Option Text
  firstCategoryId : Option Text
  firstCategoryName : Option Text
  secondCategoryId : Option Text
  secondCategoryName : Option Text
  shopId : Option Text
  shopName : Option Text
  targetBrlPrice : Option Decimal
  observedPrices : List ObservedPrice
  declaredDiscountPercent : Option Decimal
  commissionRate : Option Decimal
  hotProductCommissionRate : Option Decimal
  volume : Option Nat
  completenessScore : Nat
  diagnostics : List String
  deriving DecidableEq

namespace CacheProduct

/-- `_cache_product_model`. -/
def ofProduct (product : DiscoveryProduct) : CacheProduct where
  productId := product.productId
  title := product.title
  imageUrl := product.imageUrl
  firstCategoryId := product.firstCategoryId
  firstCategoryName := product.firstCategoryName
  secondCategoryId := product.secondCategoryId
  secondCategoryName := product.secondCategoryName
  shopId := product.shopId
  shopName := product.shopName
  targetBrlPrice := product.targetBrlPrice
  observedPrices := product.observedPrices
  declaredDiscountPercent := product.declaredDiscountPercent
  commissionRate := product.commissionRate
  hotProductCommissionRate := product.hotProductCommissionRate
  volume := product.volume
  completenessScore := product.completenessScore
  diagnostics := product.diagnostics.sort (· ≤ ·)

/-- `_discovery_product`. -/
def discoveryProduct (columns : NumericType) (row : CacheProduct) : DiscoveryProduct where
  productId := row.productId
  title := row.title
  imageUrl := row.imageUrl
  firstCategoryId := row.firstCategoryId
  firstCategoryName := row.firstCategoryName
  secondCategoryId := row.secondCategoryId
  secondCategoryName := row.secondCategoryName
  shopId := row.shopId
  shopName := row.shopName
  targetBrlPrice := row.targetBrlPrice.map (columns.read 2)
  observedPrices := row.observedPrices
  declaredDiscountPercent := row.declaredDiscountPercent.map (columns.read 4)
  commissionRate := row.commissionRate.map (columns.read 4)
  hotProductCommissionRate := row.hotProductCommissionRate.map (columns.read 4)
  volume := row.volume
  completenessScore := row.completenessScore
  diagnostics := row.diagnostics.toFinset

/-- What the database checks of a row. -/
def Insertable (row : CacheProduct) : Prop :=
  (∀ price ∈ row.targetBrlPrice, 0 < price) ∧ row.completenessScore ≤ 10 ∧
    ∀ volume ∈ row.volume, FitsInteger volume

instance : DecidablePred Insertable := fun _ => inferInstanceAs (Decidable (_ ∧ _))

end CacheProduct

/-- A row of `aliexpress_discovery_query_cache`, with its products in the order of their
ordinals. -/
structure QueryCache where
  sourceOperation : DiscoveryOperation
  fetchedAt : Instant
  expiresAt : Instant
  itemCount : Nat
  currentRecordCount : Option Nat
  totalRecordCount : Option Nat
  products : List CacheProduct
  deriving DecidableEq

namespace QueryCache

/-- `CACHE_TTL`. -/
def cacheTtl : Int := seconds (60 * 60)

/-- The row of a page, with the rows of its products. -/
def ofPage (operation : DiscoveryOperation) (page : DiscoveryPage) (now : Instant) : QueryCache where
  sourceOperation := operation
  fetchedAt := now
  expiresAt := now + cacheTtl
  itemCount := page.itemCount
  currentRecordCount := page.currentRecordCount
  totalRecordCount := page.totalRecordCount
  products := page.products.map CacheProduct.ofProduct

/-- What the database checks of the rows of a page. -/
def Insertable (row : QueryCache) : Prop :=
  (∀ count ∈ row.currentRecordCount, FitsInteger count) ∧
    (∀ count ∈ row.totalRecordCount, FitsInteger count) ∧
    FitsInteger row.itemCount ∧
    ∀ product ∈ row.products, product.Insertable

instance : DecidablePred Insertable := fun _ => inferInstanceAs (Decidable (_ ∧ _))

/-- The page a scanner makes of a cached row: `_cached_products`, and the counts that
`claim_query` hands on. -/
def page (columns : NumericType) (row : QueryCache) : DiscoveryPage where
  products := row.products.map (CacheProduct.discoveryProduct columns)
  currentRecordCount := row.currentRecordCount
  totalRecordCount := row.totalRecordCount
  rejectedProductCount := row.itemCount - row.products.length

end QueryCache

end PromoBot
