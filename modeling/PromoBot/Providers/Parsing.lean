import PromoBot.Domain.StateMachines
import PromoBot.Providers.ResponseFields

/-!
# Products, SKUs, shipping and promotions

`parse_product_detail`, `parse_product_query`, `parse_sku_detail`, `parse_shipping` and
`parse_promotion_info` of `providers/aliexpress/parsing.py`, on the decoded body of a response.

Each reads an envelope and then a list of fields, in a fixed order, and ends at the first that
is not what it should be.
-/

namespace PromoBot
namespace Parsing

open Fallible LinkGenerate

/-! ## What is built -/

/-- `AliExpressProduct`. -/
structure AliExpressProduct where
  productId : Text
  title : Option Text
  detailUrl : Option Text
  originalPrice : Option Money
  salePrice : Option Money
  targetSalePrice : Option Money
  appSalePrice : Option Money
  targetAppSalePrice : Option Money
  imageUrl : Option Text
  seller : Option Text
  shopId : Option Text
  skuId : Option Text
  commissionRate : Option Decimal
  hotProductCommissionRate : Option Decimal
  relevantMarketCommissionRate : Option Decimal
  taxRate : Option Decimal
  queriedAt : Instant

/-- `AliExpressSku`. -/
structure AliExpressSku where
  productId : Text
  skuId : Text
  priceWithTax : Option Money
  salePriceWithTax : Option Money
  shippingFee : Option Money
  taxRate : Option Decimal
  color : Option Text
  size : Option Text
  properties : Option Text
  imageUrl : Option Text
  shipFromCountry : Option Text
  deliveryDays : Option Text
  minDeliveryDays : Option Text
  maxDeliveryDays : Option Text

/-- `AliExpressShipping`. -/
structure AliExpressShipping where
  fee : Option Money
  deliveryDays : Option Text
  minDeliveryDays : Option Text
  maxDeliveryDays : Option Text
  shipFromCountry : Option Text

/-- `AliExpressPromotion`. -/
structure AliExpressPromotion where
  productId : Text
  redemptionChannel : Option Text
  minimumPurchase : Option Money
  moneyOff : Option Money
  genericCode : Option Text
  productApplicability : Option Text
  valueType : Option Text
  offerType : Option Text
  title : Option Text
  effectiveDates : Option Text

variable (i : Interpreter)

/-- `AliExpressProduct.__post_init__`; the time is one of UTC. -/
def AliExpressProduct.built (p : AliExpressProduct) : Except Raised AliExpressProduct := do
  check (Urls.isDigits i.unicode p.productId = true)
    (Raised.valueError "AliExpress product ID must contain only digits")
  check (∀ sku ∈ p.skuId, Urls.isDigits i.unicode sku = true)
    (Raised.valueError "AliExpress SKU ID must contain only digits")
  check (∀ shop ∈ p.shopId, Urls.isDigits i.unicode shop = true)
    (Raised.valueError "AliExpress shop ID must contain only digits")
  return p

def AliExpressSku.amounts (s : AliExpressSku) : List Money :=
  s.priceWithTax.toList ++ s.salePriceWithTax.toList ++ s.shippingFee.toList

/-- `AliExpressSku.__post_init__`. -/
def AliExpressSku.built (s : AliExpressSku) : Except Raised AliExpressSku := do
  check (Urls.isDigits i.unicode s.productId = true ∧ Urls.isDigits i.unicode s.skuId = true)
    (Raised.valueError "AliExpress product and SKU IDs must contain only digits")
  check (∀ m ∈ s.amounts, ∀ n ∈ s.amounts, m.currency = n.currency)
    (Raised.valueError "SKU monetary values must use one currency")
  return s

/-! ## The parsers -/

/-- A field which may have a text. -/
def text (item : List (String × Json)) (field : String) : Except Raised (Option Text) :=
  lift (optionalText (Json.get item field))

/-- A price with its currency in a field of its own, which is read first. -/
def priced (item : List (String × Json)) (field : String) : Except Raised (Option Money) := do
  let currency ← text item (field ++ "_currency")
  money i (Json.get item field) currency field

/-- One turn of the loop of `_parse_products`. -/
def product (now : Instant) (raw : Json) : Except Raised AliExpressProduct := do
  let item ← lift (mapping raw)
  let productId ← identifier i (Json.get item "product_id") "product_id"
  let title ← text item "product_title"
  let detailUrl ← text item "product_detail_url"
  let originalPrice ← priced i item "original_price"
  let salePrice ← priced i item "sale_price"
  let targetSalePrice ← priced i item "target_sale_price"
  let appSalePrice ← priced i item "app_sale_price"
  let targetAppSalePrice ← priced i item "target_app_sale_price"
  let imageUrl ← text item "product_main_image_url"
  let seller ← text item "shop_name"
  let shopId ← optionalIdentifier i (Json.get item "shop_id") "shop_id"
  let skuId ← optionalIdentifier i (Json.get item "sku_id") "sku_id"
  let commissionRate ← percent i (Json.get item "commission_rate") "commission_rate"
  let hotProductCommissionRate ← percent i (Json.get item "hot_product_commission_rate")
    "hot_product_commission_rate"
  let relevantMarketCommissionRate ← percent i (Json.get item "relevant_market_commission_rate")
    "relevant_market_commission_rate"
  let taxRate ← decimal i (Json.get item "tax_rate") "tax_rate"
  AliExpressProduct.built i
    { productId, title, detailUrl, originalPrice, salePrice, targetSalePrice, appSalePrice,
      targetAppSalePrice, imageUrl, seller, shopId, skuId, commissionRate,
      hotProductCommissionRate, relevantMarketCommissionRate, taxRate, queriedAt := now }

/-- `_parse_products`; `clock` is the time at which each product is built. -/
def parseProducts (clock : Nat → Instant) (result : List (String × Json)) :
    Except Raised (List AliExpressProduct) := do
  let products ← lift (list (Json.get result "products"))
  products.zipIdx.mapM fun entry => product i (clock entry.2) entry.1

/-- `parse_product_detail`. -/
def parseProductDetail (clock : Nat → Instant) (payload : List (String × Json)) :
    Except Raised (List AliExpressProduct) := do
  let result ← lift (respResult payload "aliexpress_affiliate_productdetail_get_response")
  parseProducts i clock result

/-- `parse_product_query`. -/
def parseProductQuery (clock : Nat → Instant) (payload : List (String × Json)) :
    Except Raised (List AliExpressProduct) := do
  let result ← lift (respResult payload "aliexpress_affiliate_product_query_response")
  parseProducts i clock result

/-- One turn of the loop of `parse_sku_detail`. -/
def sku (productId : Text) (raw : Json) : Except Raised AliExpressSku := do
  let item ← lift (mapping raw)
  let currency ← text item "currency"
  let skuId ← identifier i (Json.get item "sku_id") "sku_id"
  let priceWithTax ← money i (Json.get item "price_with_tax") currency "price_with_tax"
  let salePriceWithTax ← money i (Json.get item "sale_price_with_tax") currency
    "sale_price_with_tax"
  let shippingFee ← money i (Json.get item "shipping_fees") currency "shipping_fees"
  let taxRate ← decimal i (Json.get item "tax_rate") "tax_rate"
  let color ← text item "color"
  let size ← text item "size"
  let properties ← text item "sku_properties"
  let imageUrl ← text item "sku_image_link"
  let shipFromCountry ← text item "ship_from_country"
  let deliveryDays ← text item "delivery_days"
  let minDeliveryDays ← text item "min_delivery_days"
  let maxDeliveryDays ← text item "max_delivery_days"
  AliExpressSku.built i
    { productId, skuId, priceWithTax, salePriceWithTax, shippingFee, taxRate, color, size,
      properties, imageUrl, shipFromCountry, deliveryDays, minDeliveryDays, maxDeliveryDays }

/-- The envelope of `parse_sku_detail`. -/
def skuEnvelope (payload : List (String × Json)) :
    Except LinkGenerate.Raised (List (String × Json)) := do
  let body ← body payload "aliexpress_affiliate_product_sku_detail_get_response"
  let outer ← mapping (Json.get body "result")
  requireSuccessCode (Json.get outer "code") "0".toList
  mapping (Json.get outer "result")

/-- `parse_sku_detail`. -/
def parseSkuDetail (payload : List (String × Json)) : Except Raised (List AliExpressSku) := do
  let inner ← lift (skuEnvelope payload)
  let product ← lift (mapping (Json.get inner "ae_item_info"))
  let productId ← identifier i (Json.get product "product_id") "product_id"
  let rawSkus ← lift (list (Json.get inner "ae_item_sku_info"))
  rawSkus.mapM (sku i productId)

/-- `parse_shipping`. -/
def parseShipping (payload : List (String × Json)) (currency : Text) :
    Except Raised AliExpressShipping := do
  let result ← lift (respResult payload "aliexpress_affiliate_product_shipping_get_response")
  let fee ← money i (Json.get result "shipping_fee") (some currency) "shipping_fee"
  let deliveryDays ← text result "delivery_days"
  let minDeliveryDays ← text result "min_delivery_days"
  let maxDeliveryDays ← text result "max_delivery_days"
  let shipFromCountry ← text result "ship_from_country"
  return ⟨fee, deliveryDays, minDeliveryDays, maxDeliveryDays, shipFromCountry⟩

/-- One turn of the inner loop of `parse_promotion_info`. -/
def promotion (currency productId : Text) (raw : Json) : Except Raised AliExpressPromotion := do
  let promotion ← lift (mapping raw)
  let redemptionChannel ← text promotion "redemption_channel"
  let minimumPurchase ← moneyWithUnit i (Json.get promotion "minimum_purchase_amount") currency
    "minimum_purchase_amount"
  let moneyOff ← moneyWithUnit i (Json.get promotion "money_off_amount") currency
    "money_off_amount"
  let genericCode ← text promotion "generic_redemption_code"
  let productApplicability ← text promotion "product_applicability"
  let valueType ← text promotion "coupon_value_type"
  let offerType ← text promotion "offer_type"
  let title ← text promotion "long_title"
  let effectiveDates ← text promotion "promotion_effective_dates"
  return ⟨productId, redemptionChannel, minimumPurchase, moneyOff, genericCode,
    productApplicability, valueType, offerType, title, effectiveDates⟩

/-- One turn of the outer loop of `parse_promotion_info`. -/
def promotionResult (currency : Text) (raw : Json) : Except Raised (List AliExpressPromotion) := do
  let product ← lift (mapping raw)
  let productId ← identifier i (Json.get product "product_id") "product_id"
  let promotions ← lift (list (Json.get product "promotions"))
  promotions.mapM (promotion i currency productId)

/-- The envelope of `parse_promotion_info`. -/
def promotionEnvelope (payload : List (String × Json)) :
    Except LinkGenerate.Raised (List (String × Json)) := do
  let body ← body payload "aliexpress_affiliate_promotion_info_get_response"
  requireSuccessCode (Json.get body "code") "0".toList
  mapping (Json.get body "result")

/-- `parse_promotion_info`. -/
def parsePromotionInfo (payload : List (String × Json)) (currency shipToCountry : Text) :
    Except Raised (List AliExpressPromotion) := do
  check (i.unicode.upper shipToCountry.strip ≠ "BR".toList)
    (refusal "ALIEXPRESS_PROMOTION_COUNTRY_UNSUPPORTED")
  let result ← lift (promotionEnvelope payload)
  let results ← lift (list (Json.get result "promotion_results"))
  let parsed ← results.mapM (promotionResult i currency)
  return parsed.flatten

end Parsing
end PromoBot
