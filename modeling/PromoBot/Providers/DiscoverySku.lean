import PromoBot.Discovery.SkuMatcher
import PromoBot.Providers.ResponseFields

/-!
# Parsing the SKUs of a discovered product

`parse_discovery_sku_detail` (`providers/aliexpress/discovery_sku.py`), on the decoded body of a
response.  Unlike the page of products, the detail is all or nothing: one SKU that is not what it
should be ends the whole.

The properties of an SKU come as a text which is JSON once more.  What `json.loads` raises for a
text that is none is caught; that it may nest too deeply is not.
-/

namespace PromoBot
namespace DiscoverySkuParser

open Fallible LinkGenerate Parsing
open Discovery (DiscoverySkuAttribute DiscoverySku DiscoverySkuPage)

variable (i : Interpreter)

/-- `_item_invalid`. -/
def itemInvalid : Parsing.Raised :=
  .provider ⟨"ALIEXPRESS_DISCOVERY_SKU_ITEM_INVALID", false, true⟩

/-! ## Fields -/

/-- `str(value)`, if the value is a text or an integer. -/
def strOf : Json → Except Parsing.Raised (Option Text)
  | .int n => (Json.int n).printed (.valueError Json.digitLimit)
  | value => .ok (textOf value)

/-- `int(text)`, of decimal digits. -/
def intOf (t : Text) : Except Parsing.Raised Nat := do
  check (t.length ≤ Json.maxStrDigits) (Parsing.Raised.valueError Json.digitLimit)
  return t.toNat

/-- `_identifier`. -/
def identifier (value : Json) : Except Parsing.Raised (Option Text) := do
  let text ← strOf value
  match text.filter fun t => DiscoveryParser.IsDecimal t with
  | none => return none
  | some t =>
    let n ← intOf t
    return if 0 < n then some t else none

/-- `_decimal`. -/
def decimal (value : Json) : Except Parsing.Raised (Option Decimal) :=
  if DiscoveryParser.isAbsent value = true then .ok none
  else do
    let text ← written value
    let parsed ← orRaise (Decimal.ofText i.digit text.strip) incompatible
    return some parsed

/-- `_percent`. -/
def percent (value : Json) : Except Parsing.Raised (Option Decimal) := do
  let parsed ← decimal i (DiscoveryParser.withoutPercent value)
  check (∀ p ∈ parsed, 0 ≤ p ∧ p ≤ 100) incompatible
  return parsed

/-- `except ProviderError as exc: raise _item_invalid() from exc`. -/
def asItem : Parsing.Raised → Parsing.Raised
  | .provider _ => itemInvalid
  | e => e

/-- `_item_decimal`. -/
def itemDecimal (value : Json) : Except Parsing.Raised (Option Decimal) :=
  (decimal i value).mapError asItem

/-- `_item_percent`. -/
def itemPercent (value : Json) : Except Parsing.Raised (Option Decimal) :=
  (percent i value).mapError asItem

/-! ## Properties -/

/-- A property in a list of them: a pair, or an object with a name and a value. -/
def pairOf : Json → Option (Json × Json)
  | .arr [name, value] => some (name, value)
  | .obj fields =>
    if (∀ f ∈ fields, f.1 = "name" ∨ f.1 = "value") ∧ (fields.lookup "name").isSome = true ∧
        (fields.lookup "value").isSome = true then
      some (Json.get fields "name", Json.get fields "value")
    else none
  | _ => none

/-- The properties, each with its name and its value. -/
def pairsOf : Json → Option (List (Json × Json))
  | .obj fields => some (fields.map fun f => (.str f.1.toList, f.2))
  | .arr items => items.mapM pairOf
  | _ => none

/-- `_text_pair`. -/
def textPair (pair : Json × Json) : Option DiscoverySkuAttribute := do
  let name ← DiscoveryParser.optionalText pair.1
  let value ← DiscoveryParser.optionalText pair.2
  return ⟨name, value⟩

/-- A colour or a size which is no text, or a blank one. -/
def IsUnreadable (candidate : Json) : Prop :=
  candidate ≠ .null ∧ DiscoveryParser.optionalText candidate = none

instance : DecidablePred IsUnreadable := fun _ => inferInstanceAs (Decidable (_ ∧ _))

/-- The colour and the size, as attributes. -/
def topLevel (color size : Json) : List DiscoverySkuAttribute :=
  [("color", color), ("size", size)].filterMap fun entry =>
    (DiscoveryParser.optionalText entry.2).map fun value => ⟨entry.1.toList, value⟩

/-- The part of `_attributes` after the properties are decoded.  Whatever is wrong with them, it
raises `_item_invalid`. -/
def attributesOf (decoded color size : Json) : Option (List DiscoverySkuAttribute) := do
  let pairs ← pairsOf decoded
  let attributes ← pairs.mapM textPair
  if attributes ≠ [] ∧ (attributes.map (·.name)).Nodup ∧ ¬ IsUnreadable color ∧
      ¬ IsUnreadable size then
    some (attributes ++ topLevel color size)
  else none

/-- `except (json.JSONDecodeError, ValueError)`. -/
def ofLoads : LoadsRaised → Parsing.Raised
  | .valueError => itemInvalid
  | .recursionError => .recursionError

/-- `_attributes`. -/
def attributes (value color size : Json) : Except Parsing.Raised (List DiscoverySkuAttribute) := do
  let text ← orRaise value.text? itemInvalid
  let decoded ← (i.loads text).mapError ofLoads
  orRaise (attributesOf decoded color size) itemInvalid

/-! ## SKUs -/

/-- The product an SKU names, if it names one, is the product of the response. -/
def sameProduct (productId : Text) (value : Json) : Except Parsing.Raised Unit :=
  if value = .null then .ok ()
  else do
    let found ← identifier value
    check (found = some productId) (refusal "ALIEXPRESS_DISCOVERY_SKU_PRODUCT_MISMATCH")

/-- One turn of the loop; `seen` are the SKUs before it. -/
def sku (productId : Text) (seen : List Text) (raw : Json) : Except Parsing.Raised DiscoverySku := do
  let item ← orRaise (DiscoveryParser.fieldsOf raw) itemInvalid
  sameProduct productId (Json.get item "product_id")
  let found ← identifier (Json.get item "sku_id")
  let skuId ← orRaise found itemInvalid
  check (skuId ∉ seen) (refusal "ALIEXPRESS_DISCOVERY_SKU_DUPLICATE")
  let currency ← orRaise ((DiscoveryParser.optionalText (Json.get item "currency")).filter
    (· = "BRL".toList)) (refusal "ALIEXPRESS_DISCOVERY_SKU_CURRENCY_INVALID")
  let sale ← itemDecimal i (Json.get item "sale_price_with_tax")
  let salePrice ← orRaise (sale.filter (0 < ·))
    (refusal "ALIEXPRESS_DISCOVERY_SKU_SALE_PRICE_INVALID")
  let priceWithTax ← itemDecimal i (Json.get item "price_with_tax")
  let discountPercent ← itemPercent i (Json.get item "discount")
  let attributes ← attributes i (Json.get item "sku_properties") (Json.get item "color")
    (Json.get item "size")
  return ⟨productId, skuId, currency, priceWithTax, salePrice, discountPercent, attributes⟩

/-- The loop. -/
def skus (productId : Text) : List Text → List Json → Except Parsing.Raised (List DiscoverySku)
  | _, [] => .ok []
  | seen, raw :: raws => do
    let parsed ← sku i productId seen raw
    let rest ← skus productId (parsed.skuId :: seen) raws
    return parsed :: rest

def wrapper : String := "aliexpress_affiliate_product_sku_detail_get_response"

/-- What the wrapper holds, or the response itself. -/
def body (payload : List (String × Json)) : Except LinkGenerate.Raised (List (String × Json)) := do
  if Json.get payload wrapper = .null then
    return payload
  else
    requireOptionalSuccessCode (Json.get payload "code") "0".toList
    mapping (Json.get payload wrapper)

/-- The envelope of `parse_discovery_sku_detail`. -/
def envelope (payload : List (String × Json)) :
    Except LinkGenerate.Raised (List (String × Json)) := do
  let body ← body payload
  requireOptionalSuccessCode (Json.get body "code") "0".toList
  let outer ← mapping (Json.get body "result")
  requireSuccessCode (Json.get outer "code") "0".toList
  mapping (Json.get outer "result")

/-- The product the response is about is the expected one. -/
def expected (productId : Text) : Option Text → Except Parsing.Raised Unit
  | none => .ok ()
  | some t => do
    let found ← identifier (.str t)
    check (found = some productId) (refusal "ALIEXPRESS_DISCOVERY_SKU_PRODUCT_MISMATCH")

/-- `parse_discovery_sku_detail`. -/
def parseDiscoverySkuDetail (payload : List (String × Json)) (expectedProductId : Option Text) :
    Except Parsing.Raised DiscoverySkuPage := do
  let result ← lift (envelope payload)
  let product ← lift (mapping (Json.get result "ae_item_info"))
  let found ← identifier (Json.get product "product_id")
  let productId ← orRaise found incompatible
  expected productId expectedProductId
  let rawSkus ← lift (list (Json.get result "ae_item_sku_info"))
  check (rawSkus ≠ []) itemInvalid
  check (rawSkus.length ≠ 20)
    (Parsing.Raised.provider ⟨"ALIEXPRESS_DISCOVERY_SKU_POSSIBLY_TRUNCATED", false, true⟩)
  let parsed ← skus i productId [] rawSkus
  return ⟨productId, parsed⟩

end DiscoverySkuParser
end PromoBot
