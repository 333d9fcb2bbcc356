import PromoBot.Lib.DecimalText
import PromoBot.Lib.JsonText
import PromoBot.Lib.Segments
import PromoBot.Providers.LinkGenerate
import PromoBot.Providers.TopWire

/-!
# The payloads of the AliExpress operations

`providers/aliexpress/contracts.py`: what is asked of an operation, checked and written as
texts.  A payload is a dictionary whose names are literals; `present` leaves out the optional
ones that were not given.

A payload that was accepted has distinct, documented names and no blank value
(`sendable_payload`), which is all `AliExpressTopRequestBuilder.prepare` and a reader of the
wire ask of it (`payload_on_wire`).

The operations differ in what they check and in which order: `link_generate_payload` looks at
the links before the country, `promotion_info_payload` at the country before anything else.
So each function keeps its own body, in the order in which the source evaluates it, and they
share the checks of single values only.  A shipping request is the one that is not built from
texts alone: its prices come as decimals, in an `OfficialShippingInput` that was checked when
it was made.
-/

namespace PromoBot
namespace Contracts

open Fallible LinkGenerate TopRequests

/-! ## Documented values -/

/-- `SUPPORTED_CURRENCIES`. -/
def supportedCurrencies : List Text :=
  ["USD", "GBP", "CAD", "EUR", "UAH", "MXN", "TRY", "RUB", "BRL", "AUD", "INR", "JPY", "IDR",
    "SEK", "KRW", "ILS", "THB", "CLP", "VND"].map String.toList

/-- `SUPPORTED_LANGUAGES`. -/
def supportedLanguages : List Text :=
  ["EN", "RU", "PT", "ES", "FR", "ID", "IT", "TH", "JA", "AR", "VI", "TR", "DE", "HE", "KO",
    "NL", "PL", "MX", "CL", "IN"].map String.toList

/-- `PROMOTION_COUNTRIES`. -/
def promotionCountries : List Text :=
  ["AT", "BE", "CH", "CZ", "HU", "SE", "PT", "DE", "FR", "NL", "ES", "IT", "PL", "UK", "JP",
    "US", "CL"].map String.toList

/-- `PROMOTION_LANGUAGES`. -/
def promotionLanguages : List Text :=
  ["EN", "FR", "TH", "HE", "JA", "PT", "RU", "KO", "AR", "UK", "NL", "ES", "DE", "IT", "TR",
    "PL"].map String.toList

/-- `",".join(values)`. -/
def commaJoin : List Text → Text
  | [] => []
  | [value] => value
  | value :: values => value ++ ',' :: commaJoin values

/-! ## Values -/

variable (u : PyUnicode) (isAlpha : Char → Bool)

/-- `_required`. -/
def required (value : Text) (name : String) : Except Raised Text := do
  check (value.strip ≠ []) (.valueError (name ++ " cannot be empty"))
  return value.strip

/-- `_optional`. -/
def optional (value : Option Text) : Option Text :=
  (value.map Text.strip).filter fun cleaned => cleaned ≠ []

/-- `_identifier`. -/
def identifier (value : Text) (name : String) : Except Raised Text := do
  let cleaned ← required value name
  check (cleaned.all u.isDigit) (.valueError (name ++ " must contain only digits"))
  return cleaned

/-- `_csv_ids`. -/
def csvIds (values : List Text) (name : String) : Except Raised Text := do
  check (values ≠ []) (.valueError (name ++ " cannot be empty"))
  return commaJoin (← values.mapM fun value => identifier u value name)

/-- `_csv_text`. -/
def csvText (values : List Text) (name : String) : Except Raised Text := do
  let cleaned ← values.mapM fun value => required value name
  check (∀ value ∈ cleaned, ',' ∉ value) (.valueError (name ++ " values cannot contain commas"))
  return commaJoin cleaned

/-- A documented code: `_currency`, `_language` and `_choice` of a value that is given. -/
def documented (codes : List Text) (message : String) (value : Text) : Except Raised Text := do
  check (u.upper value.strip ∈ codes) (.valueError message)
  return u.upper value.strip

/-- `_currency`. -/
def currency (value : Text) : Except Raised Text :=
  documented u supportedCurrencies "currency is not documented for the AliExpress operation" value

/-- `_language`. -/
def language (value : Text) : Except Raised Text :=
  documented u supportedLanguages "language is not documented for the AliExpress operation" value

/-- `_country`. -/
def country (value : Text) : Except Raised Text := do
  check ((u.upper value.strip).length = 2 ∧ (u.upper value.strip).all isAlpha)
    (.valueError "country must be a two-letter code")
  return u.upper value.strip

/-- An optional value which is written if it is given. -/
def given {α : Type} (write : α → Except Raised Text) : Option α → Except Raised (Option Text)
  | some value => (write value).map some
  | none => .ok none

/-- `_choice`. -/
def choice (value : Option Text) (name : String) (choices : List Text) :
    Except Raised (Option Text) :=
  given (documented u choices (name ++ " has an undocumented value")) value

/-- `_bounded_int`. -/
def boundedInt (value : Int) (name : String) (minimum : Int) (maximum : Option Int) :
    Except Raised Text := do
  check (minimum ≤ value ∧ ∀ bound ∈ maximum, value ≤ bound)
    (.valueError (name ++ " is outside the documented range"))
  return JsonText.dumpInt value

/-- `_bounded_int`, of a value that is left out where it is `None` or zero. -/
def optionalInt (value : Option Int) (name : String) (minimum : Int) (maximum : Option Int) :
    Except Raised (Option Text) :=
  given (fun n => boundedInt n name minimum maximum) (value.filter fun n => n ≠ 0)

/-- `_decimal_text`. -/
def decimalText : PyDecimal → Except Raised Text
  | .finite negative coefficient exponent =>
    .ok (PyDecimal.fixed negative coefficient exponent)
  | .infinity _ | .nan => .error (.valueError "decimal parameters must be finite")

/-- Values that are left out where there are none. -/
def optionalList (values : List Text) : Option (List Text) :=
  if values = [] then none else some values

/-! ## Payloads -/

/-- The items of a dictionary, less those whose value is `None`. -/
def present (fields : List (String × Option Text)) : List (Text × Text) :=
  fields.filterMap fun e => e.2.map fun value => (e.1.toList, value)

/-- `product_detail_payload`. -/
def productDetailPayload (productIds : List Text) (trackingId targetCurrency targetLanguage
    shipToCountry : Text) (fields : List Text) : Except Raised (List (Text × Text)) := do
  let ids ← csvIds u productIds "product_ids"
  let targetCurrency ← currency u targetCurrency
  let targetLanguage ← language u targetLanguage
  let trackingId ← required trackingId "tracking_id"
  let shipToCountry ← country u isAlpha shipToCountry
  let fields ← given (csvText · "fields") (optionalList fields)
  return present [("product_ids", some ids), ("target_currency", some targetCurrency),
    ("target_language", some targetLanguage), ("tracking_id", some trackingId),
    ("country", some shipToCountry), ("fields", fields)]

/-- What `product_query_payload` is called with. -/
structure ProductQuery where
  trackingId : Text
  targetCurrency : Text
  targetLanguage : Text
  shipToCountry : Text
  categoryIds : List Text
  fields : List Text
  keywords : Option Text
  pageNo : Option Int
  pageSize : Option Int
  platformProductType : Option Text
  sort : Option Text
  promotionName : Option Text
  deliveryDays : Option Text

/-- `product_query_payload`. -/
def productQueryPayload (q : ProductQuery) : Except Raised (List (Text × Text)) := do
  let targetCurrency ← currency u q.targetCurrency
  let targetLanguage ← language u q.targetLanguage
  let trackingId ← required q.trackingId "tracking_id"
  let shipToCountry ← country u isAlpha q.shipToCountry
  let categoryIds ← given (csvIds u · "category_ids") (optionalList q.categoryIds)
  let fields ← given (csvText · "fields") (optionalList q.fields)
  let pageNo ← optionalInt q.pageNo "page_no" 1 none
  let pageSize ← optionalInt q.pageSize "page_size" 1 (some 50)
  let platformProductType ← choice u q.platformProductType "platform_product_type"
    (["ALL", "PLAZA", "TMALL"].map String.toList)
  let sort ← choice u q.sort "sort"
    (["SALE_PRICE_ASC", "SALE_PRICE_DESC", "LAST_VOLUME_ASC", "LAST_VOLUME_DESC"].map
      String.toList)
  return present [("target_currency", some targetCurrency),
    ("target_language", some targetLanguage), ("tracking_id", some trackingId),
    ("ship_to_country", some shipToCountry), ("category_ids", categoryIds), ("fields", fields),
    ("keywords", optional q.keywords), ("page_no", pageNo), ("page_size", pageSize),
    ("platform_product_type", platformProductType), ("sort", sort),
    ("promotion_name", optional q.promotionName), ("delivery_days", optional q.deliveryDays)]

/-- What both gateways of a discovery scan ask for: `query_page` of
`AliExpressProductQueryGateway`, and `hotproduct_query_payload`. -/
def discoveryQuery (trackingId keyword : Text) (categoryIds : List Text) (shipToCountry
    targetCurrency targetLanguage : Text) (pageNo pageSize : Int) : ProductQuery where
  trackingId := trackingId
  targetCurrency := targetCurrency
  targetLanguage := targetLanguage
  shipToCountry := shipToCountry
  categoryIds := categoryIds
  fields := []
  keywords := some keyword
  pageNo := some pageNo
  pageSize := some pageSize
  platformProductType := some "ALL".toList
  sort := none
  promotionName := none
  deliveryDays := none

/-- `link_generate_payload`. -/
def linkGeneratePayload (sourceValues : List Text) (trackingId : Text) (promotionLinkType : Int)
    (shipToCountry : Text) : Except Raised (List (Text × Text)) := do
  check (1 ≤ sourceValues.length ∧ sourceValues.length ≤ 50)
    (.valueError "source_values must contain between 1 and 50 links")
  check (∀ value ∈ sourceValues, value.strip ≠ [] ∧ ',' ∉ value)
    (.valueError "source_values contains an invalid link value")
  check (promotionLinkType ∈ [0, 2]) (.valueError "promotion_link_type must be 0 or 2")
  let shipToCountry ← country u isAlpha shipToCountry
  let trackingId ← required trackingId "tracking_id"
  return present [("ship_to_country", some shipToCountry),
    ("promotion_link_type", some (JsonText.dumpInt promotionLinkType)),
    ("source_values", some (commaJoin sourceValues)), ("tracking_id", some trackingId)]

/-- `sku_detail_payload`. -/
def skuDetailPayload (productId targetCurrency targetLanguage shipToCountry : Text)
    (needDeliverInfo : Bool) (skuIds : List Text) : Except Raised (List (Text × Text)) := do
  check (skuIds.length ≤ 20) (.valueError "sku_ids accepts at most 20 values")
  let shipToCountry ← country u isAlpha shipToCountry
  let productId ← identifier u productId "product_id"
  let targetCurrency ← currency u targetCurrency
  let targetLanguage ← language u targetLanguage
  let skuIds ← given (csvIds u · "sku_ids") (optionalList skuIds)
  return present [("ship_to_country", some shipToCountry), ("product_id", some productId),
    ("target_currency", some targetCurrency), ("target_language", some targetLanguage),
    ("need_deliver_info", some (if needDeliverInfo then "Yes" else "No").toList),
    ("sku_ids", skuIds)]

/-- `OfficialShippingInput`, with the checks of `__post_init__`. -/
structure OfficialShippingInput where
  productId : Text
  skuId : Text
  targetSalePrice : PyDecimal
  taxRate : PyDecimal
  sourceOperation : Text
  identified : ∀ id ∈ [productId, skuId], id.strip ≠ [] ∧ id.strip.all u.isDigit = true
  notNegative : ∀ value ∈ [targetSalePrice, taxRate], value.isNegative = some false
  official : sourceOperation ∈
    [TopRequests.productDetail, TopRequests.productQuery, TopRequests.skuDetail]

variable {u} in
/-- `product_shipping_payload`.  The identifiers go out as they were given, blanks included. -/
def productShippingPayload (source : OfficialShippingInput u) (targetCurrency targetLanguage
    shipToCountry : Text) : Except Raised (List (Text × Text)) := do
  let shipToCountry ← country u isAlpha shipToCountry
  let targetCurrency ← currency u targetCurrency
  let targetSalePrice ← decimalText source.targetSalePrice
  let targetLanguage ← language u targetLanguage
  let taxRate ← decimalText source.taxRate
  return present [("product_id", some source.productId), ("sku_id", some source.skuId),
    ("ship_to_country", some shipToCountry), ("target_currency", some targetCurrency),
    ("target_sale_price", some targetSalePrice), ("target_language", some targetLanguage),
    ("tax_rate", some taxRate)]

/-- `promotion_info_payload`. -/
def promotionInfoPayload (productIds : List Text) (targetCurrency targetLanguage
    shipToCountry : Text) : Except Raised (List (Text × Text)) := do
  let shipToCountry ← country u isAlpha shipToCountry
  check (shipToCountry ≠ "BR".toList ∧ shipToCountry ∈ promotionCountries)
    (rejection "ALIEXPRESS_PROMOTION_COUNTRY_UNSUPPORTED")
  let targetLanguage ← documented u promotionLanguages
    "target_language is not documented for promotion.info.get" targetLanguage
  check (1 ≤ productIds.length ∧ productIds.length ≤ 10)
    (.valueError "promotion.info.get accepts between 1 and 10 product IDs")
  let targetCurrency ← currency u targetCurrency
  let ids ← csvIds u productIds "product_id"
  return present [("currency", some targetCurrency), ("target_language", some targetLanguage),
    ("product_id", some ids), ("ship_to_country", some shipToCountry)]

/-- A call of one of the functions. -/
inductive Call (u : PyUnicode)
  | productDetail (productIds : List Text) (trackingId targetCurrency targetLanguage
      shipToCountry : Text) (fields : List Text)
  | productQuery (q : ProductQuery)
  | hotproductQuery (trackingId keyword : Text) (categoryIds : List Text) (shipToCountry
      targetCurrency targetLanguage : Text) (pageNo pageSize : Int)
  | linkGenerate (sourceValues : List Text) (trackingId : Text) (promotionLinkType : Int)
      (shipToCountry : Text)
  | skuDetail (productId targetCurrency targetLanguage shipToCountry : Text)
      (needDeliverInfo : Bool) (skuIds : List Text)
  | productShipping (source : OfficialShippingInput u) (targetCurrency targetLanguage
      shipToCountry : Text)
  | promotionInfo (productIds : List Text) (targetCurrency targetLanguage shipToCountry : Text)

variable {u} in
/-- The operation the payload is for. -/
def Call.operation : Call u → Text
  | .productDetail .. => TopRequests.productDetail
  | .productQuery _ => TopRequests.productQuery
  | .hotproductQuery .. => TopRequests.hotproductQuery
  | .linkGenerate .. => TopRequests.linkGenerate
  | .skuDetail .. => TopRequests.skuDetail
  | .productShipping .. => TopRequests.productShipping
  | .promotionInfo .. => TopRequests.promotionInfo

def Call.payload : Call u → Except Raised (List (Text × Text))
  | .productDetail productIds trackingId targetCurrency targetLanguage shipToCountry fields =>
    productDetailPayload u isAlpha productIds trackingId targetCurrency targetLanguage
      shipToCountry fields
  | .productQuery q => productQueryPayload u isAlpha q
  | .hotproductQuery trackingId keyword categoryIds shipToCountry targetCurrency targetLanguage
      pageNo pageSize =>
    productQueryPayload u isAlpha (discoveryQuery trackingId keyword categoryIds shipToCountry
      targetCurrency targetLanguage pageNo pageSize)
  | .linkGenerate sourceValues trackingId promotionLinkType shipToCountry =>
    linkGeneratePayload u isAlpha sourceValues trackingId promotionLinkType shipToCountry
  | .skuDetail productId targetCurrency targetLanguage shipToCountry needDeliverInfo skuIds =>
    skuDetailPayload u isAlpha productId targetCurrency targetLanguage shipToCountry
      needDeliverInfo skuIds
  | .productShipping source targetCurrency targetLanguage shipToCountry =>
    productShippingPayload isAlpha source targetCurrency targetLanguage shipToCountry
  | .promotionInfo productIds targetCurrency targetLanguage shipToCountry =>
    promotionInfoPayload u isAlpha productIds targetCurrency targetLanguage shipToCountry

end Contracts
end PromoBot
