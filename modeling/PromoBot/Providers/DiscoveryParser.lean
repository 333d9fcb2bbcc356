import PromoBot.Lib.DecimalText
import PromoBot.Lib.Fallible
import PromoBot.Lib.PyStr
import PromoBot.Providers.Discovery

/-!
# Parsing a page of products

`parse_discovery_product_query` (`providers/aliexpress/discovery.py`), on the decoded body
of a response.  A product without an identifier is counted as rejected; any other field that
cannot be read is left out, with a diagnostic.

A number that is not an integer is decoded to a `float`, which no field takes.  The
conversions between integers and texts raise on more than 4300 digits, which nothing
catches.
-/

namespace PromoBot
namespace DiscoveryParser

open Fallible

/-- `sys.int_info.default_max_str_digits`. -/
def maxStrDigits : Nat := 4300

/-- `str(value)`, if the value is a text or an integer. -/
def strOf : Json → Except String (Option Text)
  | .str t => .ok (some t)
  | .int n => do
    check ((Text.ofNat n.natAbs).length ≤ maxStrDigits) "ValueError"
    return (Json.int n).numeral?
  | .null | .bool _ | .number _ | .arr _ | .obj _ => .ok none

/-- `text and text.isascii() and text.isdecimal()`. -/
def IsDecimal (t : Text) : Prop := t ≠ [] ∧ t.all Text.isAsciiDigit = true

instance : DecidablePred IsDecimal := fun _ => inferInstanceAs (Decidable (_ ∧ _))

/-- `int(text)`, of decimal digits. -/
def intOf (t : Text) : Except String Nat := do
  check (t.length ≤ maxStrDigits) "ValueError"
  return t.toNat

/-- `int(text)` of what `strip` leaves of a value, if those are decimal digits. -/
def decimalInt (value : Json) : Except String (Option (Text × Nat)) := do
  match ← strOf value with
  | none => return none
  | some t => if IsDecimal t.strip then (intOf t.strip).map fun n => some (t.strip, n) else return none

/-- `_identifier`. -/
def identifier (value : Json) : Except String (Option Text) :=
  (decimalInt value).map fun found => (found.filter fun e => 0 < e.2).map Prod.fst

/-- `_optional_nonnegative_int`. -/
def optionalNonnegativeInt (value : Json) : Except String (Option Nat) :=
  (decimalInt value).map fun found => found.map Prod.snd

/-- `_is_absent`. -/
def isAbsent : Json → Bool
  | .null | .str [] => true
  | _ => false

/-- `_optional_identifier`, with its diagnostics. -/
def optionalIdentifier (value : Json) : Except String (Option Text × List String) :=
  if isAbsent value then .ok (none, [])
  else (identifier value).map fun parsed =>
    (parsed, if parsed = none then ["OPTIONAL_IDENTIFIER_INVALID"] else [])

/-- `_optional_text`. -/
def optionalText : Json → Option Text
  | .str t => if t.strip = [] then none else some t.strip
  | _ => none

variable (digit : Char → Option Nat)

/-- `_optional_decimal`, with its diagnostics. -/
def optionalDecimal (value : Json) (code : String) : Except String (Option Decimal × List String) :=
  if isAbsent value then .ok (none, [])
  else (strOf value).map fun text =>
    match text.bind fun t => Decimal.ofText digit t.strip with
    | some parsed => (some parsed, [])
    | none => (none, [code])

/-- `value.strip().removesuffix("%")`, of a text. -/
def withoutPercent : Json → Json
  | .str t => .str (if t.strip.getLast? = some '%' then t.strip.dropLast else t.strip)
  | value => value

/-- `_optional_percent`, with its diagnostics. -/
def optionalPercent (value : Json) (code : String) : Except String (Option Decimal × List String) :=
  (optionalDecimal digit (withoutPercent value) code).map fun found =>
    match found.1.filter fun parsed => ¬ (0 ≤ parsed ∧ parsed ≤ 100) with
    | some _ => (none, code :: found.2)
    | none => found

/-! ## Products -/

/-- What is read of the prices of a product. -/
structure ParsedPrices where
  targetAmount : Option Decimal
  targetCurrency : Option Text
  observed : List ObservedPrice
  codes : List String

/-- What is read of the other numbers of a product. -/
structure ParsedNumbers where
  discount : Option Decimal
  commission : Option Decimal
  hotCommission : Option Decimal
  volume : Option Nat
  codes : List String

/-- What is read of the texts of a product. -/
structure ParsedTexts where
  title : Option Text
  imageUrl : Option Text
  firstId : Option Text
  firstName : Option Text
  secondId : Option Text
  secondName : Option Text
  shopId : Option Text
  shopName : Option Text
  codes : List String

/-- The prices that are kept for the record, with the field of their currency and their
diagnostic. -/
def observedFields : List (String × String × String) :=
  [("original_price", "original_price_currency", "ORIGINAL_PRICE_INVALID"),
    ("sale_price", "sale_price_currency", "SALE_PRICE_INVALID"),
    ("app_sale_price", "app_sale_price_currency", "APP_SALE_PRICE_INVALID"),
    ("target_app_sale_price", "target_app_sale_price_currency", "TARGET_APP_SALE_PRICE_INVALID")]

/-- A price with a currency, if it is positive. -/
def observedPrice (field : String) (amount : Option Decimal) (currency : Option Text) :
    Option ObservedPrice :=
  match amount.filter (0 < ·), currency with
  | some amount, some currency => some ⟨field, amount, currency⟩
  | _, _ => none

/-- The prices of a product. -/
def parsePrices (item : List (String × Json)) : Except String ParsedPrices := do
  let target ← optionalDecimal digit (Json.get item "target_sale_price") "TARGET_SALE_PRICE_INVALID"
  let targetCurrency := optionalText (Json.get item "target_sale_price_currency")
  let observed ← observedFields.mapM fun field =>
    (optionalDecimal digit (Json.get item field.1) field.2.2).map fun found =>
      (observedPrice field.1 found.1 (optionalText (Json.get item field.2.1)), found.2)
  let foreign := observedPrice "target_sale_price" target.1
    (targetCurrency.filter (· ≠ "BRL".toList))
  return ⟨target.1, targetCurrency, observed.filterMap Prod.fst ++ foreign.toList,
    target.2 ++ (observed.map Prod.snd).flatten⟩

/-- The discount, the commissions and the volume of a product. -/
def parseNumbers (item : List (String × Json)) : Except String ParsedNumbers := do
  let discount ← optionalPercent digit (Json.get item "discount") "DISCOUNT_INVALID"
  let commission ← optionalPercent digit (Json.get item "commission_rate") "COMMISSION_RATE_INVALID"
  let hotCommission ← optionalPercent digit (Json.get item "hot_product_commission_rate")
    "HOT_PRODUCT_COMMISSION_RATE_INVALID"
  let volume ← optionalNonnegativeInt (Json.get item "lastest_volume")
  let invalid := if ¬ isAbsent (Json.get item "lastest_volume") ∧ volume = none then
    ["VOLUME_INVALID"] else []
  return ⟨discount.1, commission.1, hotCommission.1, volume,
    discount.2 ++ commission.2 ++ hotCommission.2 ++ invalid⟩

/-- The texts and identifiers of a product. -/
def parseTexts (item : List (String × Json)) : Except String ParsedTexts := do
  let firstId ← optionalIdentifier (Json.get item "first_level_category_id")
  let secondId ← optionalIdentifier (Json.get item "second_level_category_id")
  let shopId ← optionalIdentifier (Json.get item "shop_id")
  return {
    title := optionalText (Json.get item "product_title")
    imageUrl := optionalText (Json.get item "product_main_image_url")
    firstId := firstId.1
    firstName := optionalText (Json.get item "first_level_category_name")
    secondId := secondId.1
    secondName := optionalText (Json.get item "second_level_category_name")
    shopId := shopId.1
    shopName := optionalText (Json.get item "shop_name")
    codes := firstId.2 ++ secondId.2 ++ shopId.2 }

/-- `target_brl_price`. -/
def ParsedPrices.targetBrl (prices : ParsedPrices) : Option Decimal :=
  if prices.targetCurrency = some "BRL".toList then prices.targetAmount.filter (0 < ·) else none

/-- How many of ten kinds of data a product has. -/
def completeness (prices : ParsedPrices) (numbers : ParsedNumbers) (texts : ParsedTexts) : Nat :=
  [texts.title.isSome, texts.imageUrl.isSome, texts.firstId.isSome || texts.firstName.isSome,
    texts.secondId.isSome || texts.secondName.isSome, prices.targetBrl.isSome,
    numbers.discount.isSome, numbers.commission.isSome, numbers.volume.isSome,
    texts.shopId.isSome || texts.shopName.isSome, !prices.observed.isEmpty].count true

/-- The product that was read. -/
def product (productId : Text) (prices : ParsedPrices) (numbers : ParsedNumbers)
    (texts : ParsedTexts) : DiscoveryProduct where
  productId := productId
  title := texts.title
  imageUrl := texts.imageUrl
  firstCategoryId := texts.firstId
  firstCategoryName := texts.firstName
  secondCategoryId := texts.secondId
  secondCategoryName := texts.secondName
  shopId := texts.shopId
  shopName := texts.shopName
  targetBrlPrice := prices.targetBrl
  observedPrices := prices.observed
  declaredDiscountPercent := numbers.discount
  commissionRate := numbers.commission
  hotProductCommissionRate := numbers.hotCommission
  volume := numbers.volume
  completenessScore := completeness prices numbers texts
  diagnostics := (prices.codes ++ numbers.codes ++ texts.codes).toFinset

/-- `_parse_product`. -/
def parseProduct (productId : Text) (item : List (String × Json)) :
    Except String DiscoveryProduct := do
  let prices ← parsePrices digit item
  let numbers ← parseNumbers digit item
  let texts ← parseTexts item
  return product productId prices numbers texts

/-! ## Pages -/

/-- One turn of the loop: the product, or nothing if it is rejected. -/
def parseRaw : Json → Except String (Option DiscoveryProduct)
  | .obj item => do
    match ← identifier (Json.get item "product_id") with
    | some productId => (parseProduct digit productId item).map some
    | none => return none
  | _ => .ok none

/-- The fields of an object. -/
def fieldsOf : Json → Option (List (String × Json))
  | .obj fields => some fields
  | _ => none

def itemsOf : Json → Option (List Json)
  | .arr items => some items
  | _ => none

/-- `_parse_discovery_page`. -/
def parseDiscoveryPage (payload : List (String × Json)) (wrapper : String) :
    Except String DiscoveryPage := do
  let body ← orRaise (fieldsOf ((payload.lookup wrapper).getD (.obj payload)))
    "ALIEXPRESS_RESPONSE_INCOMPATIBLE"
  let response ← orRaise (fieldsOf (Json.get body "resp_result")) "ALIEXPRESS_API_REJECTED"
  let code ← (Json.get response "resp_code").printed "ValueError"
  check (code = some "200".toList) "ALIEXPRESS_API_REJECTED"
  let result ← orRaise (fieldsOf (Json.get response "result")) "ALIEXPRESS_RESPONSE_INCOMPATIBLE"
  let raw ← orRaise (itemsOf (Json.get result "products")) "ALIEXPRESS_RESPONSE_INCOMPATIBLE"
  let parsed ← raw.mapM (parseRaw digit)
  let current ← optionalNonnegativeInt (Json.get result "current_record_count")
  let total ← optionalNonnegativeInt (Json.get result "total_record_count")
  return ⟨parsed.filterMap id, current, total, parsed.countP Option.isNone⟩

/-- `parse_discovery_product_query`. -/
def parseDiscoveryProductQuery (payload : List (String × Json)) : Except String DiscoveryPage :=
  parseDiscoveryPage digit payload "aliexpress_affiliate_product_query_response"

/-! ## What is accepted -/

variable {digit}

theorem completeness_le (prices : ParsedPrices) (numbers : ParsedNumbers) (texts : ParsedTexts) :
    completeness prices numbers texts ≤ 10 := List.count_le_length

theorem pos_of_mem_targetBrl {prices : ParsedPrices} {price : Decimal}
    (h : price ∈ prices.targetBrl) : 0 < price := by
  unfold ParsedPrices.targetBrl at h
  split at h
  · exact of_decide_eq_true (Option.mem_filter_iff.1 h).2
  · cases h

/-- What the columns of a product ask for besides their widths. -/
structure Accepted (product : DiscoveryProduct) : Prop where
  price_pos : ∀ price ∈ product.targetBrlPrice, 0 < price
  completeness_le : product.completenessScore ≤ 10

theorem accepted_of_parseProduct {productId : Text} {item : List (String × Json)}
    {p : DiscoveryProduct} (h : parseProduct digit productId item = .ok p) : Accepted p := by
  unfold parseProduct at h
  obtain ⟨prices, -, h⟩ := bind_eq_ok.1 h
  obtain ⟨numbers, -, h⟩ := bind_eq_ok.1 h
  obtain ⟨texts, -, h⟩ := bind_eq_ok.1 h
  obtain rfl := Except.ok.inj h
  exact ⟨fun _ hprice => pos_of_mem_targetBrl hprice, completeness_le prices numbers texts⟩

theorem item_of_parseRaw {raw : Json} {p : DiscoveryProduct}
    (h : parseRaw digit raw = .ok (some p)) : ∃ productId item,
      identifier (Json.get item "product_id") = .ok (some productId) ∧
        parseProduct digit productId item = .ok p := by
  cases raw with
  | obj item =>
    obtain ⟨found, hfound, h⟩ := bind_eq_ok.1 h
    cases found with
    | none => cases h
    | some productId =>
      obtain ⟨p', hp', heq⟩ := map_eq_ok.1 h
      obtain rfl := Option.some.inj heq
      exact ⟨productId, item, hfound, hp'⟩
  | _ => cases h

/-- A product of a page was read from an item with an identifier. -/
theorem item_of_parse {payload : List (String × Json)} {wrapper : String}
    {page : DiscoveryPage} (h : parseDiscoveryPage digit payload wrapper = .ok page) :
    ∀ p ∈ page.products, ∃ productId item,
      identifier (Json.get item "product_id") = .ok (some productId) ∧
        parseProduct digit productId item = .ok p := by
  unfold parseDiscoveryPage at h
  obtain ⟨body, -, h⟩ := bind_eq_ok.1 h
  obtain ⟨response, -, h⟩ := bind_eq_ok.1 h
  obtain ⟨code, -, h⟩ := bind_eq_ok.1 h
  obtain ⟨_, -, h⟩ := bind_eq_ok.1 h
  obtain ⟨result, -, h⟩ := bind_eq_ok.1 h
  obtain ⟨raw, -, h⟩ := bind_eq_ok.1 h
  obtain ⟨parsed, hparsed, h⟩ := bind_eq_ok.1 h
  obtain ⟨current, -, h⟩ := bind_eq_ok.1 h
  obtain ⟨total, -, h⟩ := bind_eq_ok.1 h
  obtain rfl := Except.ok.inj h
  intro p hp
  obtain ⟨found, hfound, rfl⟩ := List.mem_filterMap.1 hp
  obtain ⟨item, -, hitem⟩ := exists_of_mem_right (mapM_eq_ok.1 hparsed) hfound
  exact item_of_parseRaw hitem

/-- **The products of a page are accepted ones.** -/
theorem accepted_of_parse {payload : List (String × Json)} {wrapper : String}
    {page : DiscoveryPage} (h : parseDiscoveryPage digit payload wrapper = .ok page) :
    ∀ p ∈ page.products, Accepted p := by
  intro p hp
  obtain ⟨productId, item, -, hproduct⟩ := item_of_parse h p hp
  exact accepted_of_parseProduct hproduct

end DiscoveryParser
end PromoBot
