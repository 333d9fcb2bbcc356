import Mathlib.Data.Finset.Sort
import PromoBot.Lib.PyDecimal
import PromoBot.Lib.PyText

/-!
# Discovered products

What `providers/aliexpress/discovery.py` makes of a page of products: only the identifier of
a product is required, every other field is optional and normalised on its own.
-/

namespace PromoBot

/-- `ObservedPrice`. -/
structure ObservedPrice where
  field : String
  amount : Decimal
  currency : Text
  deriving DecidableEq, Repr

/-- `DiscoveryProduct`. -/
structure DiscoveryProduct where
  productId : Text
  title : Option Text
  imageUrl : Option Text
  firstCategoryId : Option Text
  firstCategoryName : Option Text
  secondCategoryId : Option Text
  secondCategoryName : Option Text
  shopId : Option Text
  shopName : Option Text
  targetBrlPrice : Option Decimal
  observedPrices : List ObservedPrice
  declaredDiscountPercent : Option Decimal
  commissionRate : Option Decimal
  hotProductCommissionRate : Option Decimal
  volume : Option Nat
  completenessScore : Nat
  diagnostics : Finset String
  deriving DecidableEq

/-- `DiscoveryPage`. -/
structure DiscoveryPage where
  products : List DiscoveryProduct
  currentRecordCount : Option Nat
  totalRecordCount : Option Nat
  rejectedProductCount : Nat
  deriving DecidableEq

/-- The items of a page, the rejected ones included. -/
def DiscoveryPage.itemCount (page : DiscoveryPage) : Nat :=
  page.products.length + page.rejectedProductCount

end PromoBot
