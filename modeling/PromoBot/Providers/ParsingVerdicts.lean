import PromoBot.Providers.Parsing

/-!
# What the parsers accept, refuse and let escape

For each parser of `Providers/Parsing` the list of the verdicts on what it reads of a response,
in the order in which it reads it.  The verdict on the parser is the first of them that is not
an acceptance: `verdict_product`, `verdict_sku` and `verdict_promotion` for one item, and with
them those on the whole.

The checks of the dataclasses, made when everything has been read, add nothing: an identifier
was read as one, and the amounts of an SKU share the currency of the SKU.
-/

namespace PromoBot

open Fallible LinkGenerate

/-- `.get(key)` of an object. -/
def field : Json → String → Json
  | .obj fields, key => Json.get fields key
  | .null, _ | .bool _, _ | .int _, _ | .number _, _ | .str _, _ | .arr _, _ => .null

/-- The items of a list. -/
def elements : Json → List Json
  | .arr items => items
  | .null | .bool _ | .int _ | .number _ | .str _ | .obj _ => []

namespace Parsing

open Verdict

variable (i : Interpreter)

/-! ## Envelopes -/

def objectVerdict : Json → Verdict
  | .obj _ => .accepted
  | .null | .bool _ | .int _ | .number _ | .str _ | .arr _ => .refused

def listVerdict : Json → Verdict
  | .arr _ => .accepted
  | .null | .bool _ | .int _ | .number _ | .str _ | .obj _ => .refused

/-- A code, which is written out to be compared. -/
def codeVerdict (expected : Text) (value : Json) : Verdict :=
  (printableVerdict value).andThen (test (value.numeral? = some expected))

/-- A code that need not be there. -/
def optionalCodeVerdict (expected : Text) (value : Json) : Verdict :=
  if value = .null then .accepted else codeVerdict expected value

/-- The body of a response: what the wrapper holds, or the response itself. -/
def bodyOf (payload : List (String × Json)) (wrapper : String) : Json :=
  if Json.get payload wrapper = .null then .obj payload else Json.get payload wrapper

/-- `resp_result.result` of the body. -/
def resultOf (payload : List (String × Json)) (wrapper : String) : Json :=
  field (field (bodyOf payload wrapper) "resp_result") "result"

/-- What `_resp_result` reads. -/
def resultVerdicts (payload : List (String × Json)) (wrapper : String) : List Verdict :=
  [objectVerdict (bodyOf payload wrapper),
    optionalCodeVerdict "0".toList (Json.get payload "code"),
    objectVerdict (field (bodyOf payload wrapper) "resp_result"),
    codeVerdict "200".toList (field (field (bodyOf payload wrapper) "resp_result") "resp_code"),
    objectVerdict (resultOf payload wrapper)]

/-- The object the SKUs are in. -/
def skuResultOf (payload : List (String × Json)) : Json :=
  field (field (bodyOf payload "aliexpress_affiliate_product_sku_detail_get_response") "result")
    "result"

/-- What `parse_sku_detail` reads of its envelope. -/
def skuEnvelopeVerdicts (payload : List (String × Json)) : List Verdict :=
  let body := bodyOf payload "aliexpress_affiliate_product_sku_detail_get_response"
  [objectVerdict body, objectVerdict (field body "result"),
    codeVerdict "0".toList (field (field body "result") "code"),
    objectVerdict (skuResultOf payload)]

/-- The object the promotions are in. -/
def promotionResultOf (payload : List (String × Json)) : Json :=
  field (bodyOf payload "aliexpress_affiliate_promotion_info_get_response") "result"

/-- What `parse_promotion_info` reads of its envelope. -/
def promotionEnvelopeVerdicts (payload : List (String × Json)) : List Verdict :=
  let body := bodyOf payload "aliexpress_affiliate_promotion_info_get_response"
  [objectVerdict body, codeVerdict "0".toList (field body "code"),
    objectVerdict (promotionResultOf payload)]

theorem handledLink_reviewed (code : String) : HandledLink (reviewed code) := trivial

theorem handledLink_rejection (code : String) : HandledLink (rejection code) := trivial

/-- The verdict on the helpers of the envelopes. -/
abbrev linkVerdict {α : Type} (x : Except LinkGenerate.Raised α) : Verdict :=
  Verdict.of HandledLink x

theorem linkVerdict_mapping (value : Json) : linkVerdict (mapping value) = objectVerdict value := by
  cases value <;> rfl

theorem linkVerdict_list (value : Json) : linkVerdict (list value) = listVerdict value := by
  cases value <;> rfl

theorem linkVerdict_code {e : LinkGenerate.Raised} (he : HandledLink e) (value : Json)
    (expected : Text) :
    linkVerdict (do
      let code ← value.printed (LinkGenerate.Raised.valueError Json.digitLimit)
      check (code = some expected) e) = codeVerdict expected value := by
  unfold codeVerdict
  have hvalue : ¬ HandledLink (.valueError Json.digitLimit) := id
  rw [← of_printed hvalue value]
  refine of_bind fun code hcode => ?_
  rw [(Json.printed_eq_ok.1 hcode).2]
  exact of_check he

theorem linkVerdict_requireSuccessCode (value : Json) (expected : Text) :
    linkVerdict (requireSuccessCode value expected) = codeVerdict expected value :=
  linkVerdict_code (handledLink_rejection _) value expected

theorem linkVerdict_requireOptionalSuccessCode (value : Json) (expected : Text) :
    linkVerdict (requireOptionalSuccessCode value expected) =
      optionalCodeVerdict expected value := by
  cases value with
  | null => rfl
  | bool _ | int _ | number _ | str _ | arr _ | obj _ =>
    exact linkVerdict_requireSuccessCode _ expected

theorem body_eq (payload : List (String × Json)) (wrapper : String) :
    body payload wrapper = mapping (bodyOf payload wrapper) := by
  unfold body bodyOf
  cases Json.get payload wrapper <;> rfl

theorem linkVerdict_respResult (payload : List (String × Json)) (wrapper : String) :
    linkVerdict (respResult payload wrapper) = first (resultVerdicts payload wrapper) := by
  unfold respResult
  rw [body_eq]
  refine of_step (linkVerdict_mapping _) fun fields hfields => ?_
  rw [resultOf, mapping_eq_ok hfields]
  refine of_step (linkVerdict_requireOptionalSuccessCode _ _) fun _ _ => ?_
  refine of_step (linkVerdict_mapping _) fun response hresponse => ?_
  rw [field, mapping_eq_ok hresponse]
  refine of_step (linkVerdict_requireSuccessCode _ _) fun _ _ => ?_
  exact of_last (linkVerdict_mapping _)

/-- What `_resp_result` returns. -/
theorem respResult_eq_ok {payload result : List (String × Json)} {wrapper : String}
    (h : respResult payload wrapper = .ok result) : resultOf payload wrapper = .obj result := by
  unfold respResult at h
  rw [body_eq] at h
  obtain ⟨fields, hfields, h⟩ := bind_eq_ok.1 h
  obtain ⟨_, -, h⟩ := bind_eq_ok.1 h
  obtain ⟨response, hresponse, h⟩ := bind_eq_ok.1 h
  obtain ⟨_, -, h⟩ := bind_eq_ok.1 h
  rw [resultOf, mapping_eq_ok hfields, field, mapping_eq_ok hresponse, field, mapping_eq_ok h]

theorem linkVerdict_skuEnvelope (payload : List (String × Json)) :
    linkVerdict (skuEnvelope payload) = first (skuEnvelopeVerdicts payload) := by
  unfold skuEnvelope skuEnvelopeVerdicts skuResultOf
  rw [body_eq]
  refine of_step (linkVerdict_mapping _) fun fields hfields => ?_
  rw [mapping_eq_ok hfields, field]
  refine of_step (linkVerdict_mapping _) fun outer houter => ?_
  rw [mapping_eq_ok houter, field]
  refine of_step (linkVerdict_requireSuccessCode _ _) fun _ _ => ?_
  exact of_last (linkVerdict_mapping _)

theorem skuEnvelope_eq_ok {payload inner : List (String × Json)}
    (h : skuEnvelope payload = .ok inner) : skuResultOf payload = .obj inner := by
  unfold skuEnvelope at h
  rw [body_eq] at h
  obtain ⟨fields, hfields, h⟩ := bind_eq_ok.1 h
  obtain ⟨outer, houter, h⟩ := bind_eq_ok.1 h
  obtain ⟨_, -, h⟩ := bind_eq_ok.1 h
  rw [skuResultOf, mapping_eq_ok hfields, field, mapping_eq_ok houter, field, mapping_eq_ok h]

theorem linkVerdict_promotionEnvelope (payload : List (String × Json)) :
    linkVerdict (promotionEnvelope payload) = first (promotionEnvelopeVerdicts payload) := by
  unfold promotionEnvelope promotionEnvelopeVerdicts promotionResultOf
  rw [body_eq]
  refine of_step (linkVerdict_mapping _) fun fields hfields => ?_
  rw [mapping_eq_ok hfields, field]
  refine of_step (linkVerdict_requireSuccessCode _ _) fun _ _ => ?_
  exact of_last (linkVerdict_mapping _)

theorem promotionEnvelope_eq_ok {payload result : List (String × Json)}
    (h : promotionEnvelope payload = .ok result) : promotionResultOf payload = .obj result := by
  unfold promotionEnvelope at h
  rw [body_eq] at h
  obtain ⟨fields, hfields, h⟩ := bind_eq_ok.1 h
  obtain ⟨_, -, h⟩ := bind_eq_ok.1 h
  rw [promotionResultOf, mapping_eq_ok hfields, field, mapping_eq_ok h]

/-! ## Products -/

theorem verdict_mapping (value : Json) : verdict (lift (mapping value)) = objectVerdict value :=
  (verdict_lift _).trans (linkVerdict_mapping value)

theorem verdict_list (value : Json) : verdict (lift (list value)) = listVerdict value :=
  (verdict_lift _).trans (linkVerdict_list value)

theorem lift_eq_ok {α : Type} {x : Except LinkGenerate.Raised α} {a : α} :
    lift x = .ok a ↔ x = .ok a := mapError_eq_ok

/-- A price with its currency in a field of its own. -/
def pricedVerdict (raw : Json) (name : String) : Verdict :=
  (textVerdict (field raw (name ++ "_currency"))).andThen
    (moneyVerdict i (field raw name) (DiscoveryParser.optionalText (field raw (name ++ "_currency"))))

theorem optionalText_eq_ok {value : Json} {t : Option Text}
    (h : lift (optionalText value) = .ok t) : t = DiscoveryParser.optionalText value := by
  cases value with
  | null | str _ => exact (Except.ok.inj h).symm
  | bool _ | int _ | number _ | arr _ | obj _ => cases h

theorem verdict_text (item : List (String × Json)) (name : String) :
    verdict (text item name) = textVerdict (Json.get item name) := verdict_optionalText _

theorem verdict_priced (item : List (String × Json)) (name : String) :
    verdict (priced i item name) = pricedVerdict i (.obj item) name := by
  unfold priced pricedVerdict
  rw [field, ← verdict_text]
  refine of_bind fun currency hcurrency => ?_
  rw [optionalText_eq_ok hcurrency]
  exact verdict_money i _ _ name

/-- What is read of a product. -/
def productVerdicts (raw : Json) : List Verdict :=
  [objectVerdict raw, identifierVerdict i (field raw "product_id"),
    textVerdict (field raw "product_title"), textVerdict (field raw "product_detail_url"),
    pricedVerdict i raw "original_price", pricedVerdict i raw "sale_price",
    pricedVerdict i raw "target_sale_price", pricedVerdict i raw "app_sale_price",
    pricedVerdict i raw "target_app_sale_price", textVerdict (field raw "product_main_image_url"),
    textVerdict (field raw "shop_name"), optionalIdentifierVerdict i (field raw "shop_id"),
    optionalIdentifierVerdict i (field raw "sku_id"), percentVerdict i (field raw "commission_rate"),
    percentVerdict i (field raw "hot_product_commission_rate"),
    percentVerdict i (field raw "relevant_market_commission_rate"),
    decimalVerdict i (field raw "tax_rate")]

theorem AliExpressProduct.built_eq_ok {p : AliExpressProduct}
    (hproduct : Urls.isDigits i.unicode p.productId = true)
    (hsku : ∀ sku ∈ p.skuId, Urls.isDigits i.unicode sku = true)
    (hshop : ∀ shop ∈ p.shopId, Urls.isDigits i.unicode shop = true) :
    p.built i = .ok p := by
  unfold AliExpressProduct.built check
  rw [if_pos hproduct, if_pos hsku, if_pos hshop]
  rfl

/-- **The verdict on a product** is the first of those on its fields. -/
theorem verdict_product (now : Instant) (raw : Json) :
    verdict (product i now raw) = first (productVerdicts i raw) := by
  unfold product
  refine of_step (verdict_mapping raw) fun item hitem => ?_
  obtain rfl := mapping_eq_ok (lift_eq_ok.1 hitem)
  refine of_step (verdict_identifier i _ _) fun productId hproduct => ?_
  refine of_step (verdict_text item _) fun title _ => ?_
  refine of_step (verdict_text item _) fun detailUrl _ => ?_
  refine of_step (verdict_priced i item _) fun originalPrice _ => ?_
  refine of_step (verdict_priced i item _) fun salePrice _ => ?_
  refine of_step (verdict_priced i item _) fun targetSalePrice _ => ?_
  refine of_step (verdict_priced i item _) fun appSalePrice _ => ?_
  refine of_step (verdict_priced i item _) fun targetAppSalePrice _ => ?_
  refine of_step (verdict_text item _) fun imageUrl _ => ?_
  refine of_step (verdict_text item _) fun seller _ => ?_
  refine of_step (verdict_optionalIdentifier i _ _) fun shopId hshop => ?_
  refine of_step (verdict_optionalIdentifier i _ _) fun skuId hsku => ?_
  refine of_step (verdict_percent i _ _) fun commissionRate _ => ?_
  refine of_step (verdict_percent i _ _) fun hotProductCommissionRate _ => ?_
  refine of_step (verdict_percent i _ _) fun relevantMarketCommissionRate _ => ?_
  refine of_step (verdict_decimal i _ _) fun taxRate _ => ?_
  rw [AliExpressProduct.built_eq_ok i (isDigits_of_identifier i hproduct)]
  · rfl
  · rintro sku rfl
    exact isDigits_of_optionalIdentifier i hsku
  · rintro shop rfl
    exact isDigits_of_optionalIdentifier i hshop

/-- What is read of a list of products. -/
def productsVerdicts (result : Json) : List Verdict :=
  listVerdict (field result "products") ::
    (elements (field result "products")).flatMap (productVerdicts i)

theorem verdict_parseProducts (clock : Nat → Instant) (result : List (String × Json)) :
    verdict (parseProducts i clock result) = first (productsVerdicts i (.obj result)) := by
  unfold parseProducts
  refine of_step (verdict_list _) fun products hproducts => ?_
  rw [field, list_eq_ok (lift_eq_ok.1 hproducts)]
  rw [of_mapM_flatMap fun entry _ => verdict_product i (clock entry.2) entry.1]
  show first (products.zipIdx.flatMap (productVerdicts i ∘ Prod.fst)) = _
  have hfst := List.flatMap_map Prod.fst products.zipIdx (g := productVerdicts i)
  rw [List.zipIdx_map_fst] at hfst
  exact congrArg first hfst.symm

/-- What is read of a response which lists products. -/
def productPageVerdicts (payload : List (String × Json)) (wrapper : String) : List Verdict :=
  resultVerdicts payload wrapper ++ productsVerdicts i (resultOf payload wrapper)

theorem verdict_productPage (clock : Nat → Instant) (payload : List (String × Json))
    (wrapper : String) :
    verdict (lift (respResult payload wrapper) >>= parseProducts i clock) =
      first (productPageVerdicts i payload wrapper) := by
  refine of_part ((verdict_lift _).trans (linkVerdict_respResult payload wrapper)) fun result h => ?_
  rw [respResult_eq_ok (lift_eq_ok.1 h)]
  exact verdict_parseProducts i clock result

/-! ## SKUs -/

/-- What `Money` keeps of a currency. -/
theorem currency_of_moneyOf {amount : Decimal} {currency : Text} {m : Money}
    (h : moneyOf i amount currency = .ok m) : m.currency = currencyCode i currency := by
  obtain ⟨_, -, h⟩ := bind_eq_ok.1 h
  obtain ⟨_, -, h⟩ := bind_eq_ok.1 h
  split at h
  · exact congrArg Money.currency (Except.ok.inj h).symm
  · cases h

theorem currency_of_money {value : Json} {currency : Option Text} {name : String}
    {found : Option Money} {m : Money} (h : money i value currency name = .ok found)
    (hm : m ∈ found.toList) : some m.currency = currency.map (currencyCode i) := by
  obtain rfl := Option.mem_toList.1 hm
  obtain ⟨amount, -, h⟩ := bind_eq_ok.1 h
  cases amount with
  | none => cases h
  | some amount =>
    obtain ⟨code, hcode, h⟩ := bind_eq_ok.1 h
    obtain ⟨parsed, hparsed, h⟩ := bind_eq_ok.1 h
    obtain rfl := Option.some.inj (Except.ok.inj h)
    rw [orRaise_eq_ok.1 hcode, Option.map_some, currency_of_moneyOf i hparsed]

/-- An SKU whose identifiers are digits and whose amounts were read with one currency passes
its checks. -/
theorem AliExpressSku.built_eq_ok {s : AliExpressSku} {currency : Option Text}
    (hproduct : Urls.isDigits i.unicode s.productId = true)
    (hsku : Urls.isDigits i.unicode s.skuId = true)
    (hamounts : ∀ m ∈ s.amounts, some m.currency = currency.map (currencyCode i)) :
    s.built i = .ok s := by
  unfold AliExpressSku.built check
  have hone : ∀ m ∈ s.amounts, ∀ n ∈ s.amounts, m.currency = n.currency := by
    intro m hm n hn
    exact Option.some.inj ((hamounts m hm).trans (hamounts n hn).symm)
  rw [if_pos ⟨hproduct, hsku⟩, if_pos hone]
  rfl

/-- What is read of an SKU. -/
def skuVerdicts (raw : Json) : List Verdict :=
  let currency := DiscoveryParser.optionalText (field raw "currency")
  [objectVerdict raw, textVerdict (field raw "currency"), identifierVerdict i (field raw "sku_id"),
    moneyVerdict i (field raw "price_with_tax") currency,
    moneyVerdict i (field raw "sale_price_with_tax") currency,
    moneyVerdict i (field raw "shipping_fees") currency, decimalVerdict i (field raw "tax_rate"),
    textVerdict (field raw "color"), textVerdict (field raw "size"),
    textVerdict (field raw "sku_properties"), textVerdict (field raw "sku_image_link"),
    textVerdict (field raw "ship_from_country"), textVerdict (field raw "delivery_days"),
    textVerdict (field raw "min_delivery_days"), textVerdict (field raw "max_delivery_days")]

/-- **The verdict on an SKU** is the first of those on its fields. -/
theorem verdict_sku {productId : Text} (hproduct : Urls.isDigits i.unicode productId = true)
    (raw : Json) : verdict (sku i productId raw) = first (skuVerdicts i raw) := by
  unfold sku
  refine of_step (verdict_mapping raw) fun item hitem => ?_
  obtain rfl := mapping_eq_ok (lift_eq_ok.1 hitem)
  refine of_step (verdict_text item _) fun currency hcurrency => ?_
  obtain rfl := optionalText_eq_ok hcurrency
  refine of_step (verdict_identifier i _ _) fun skuId hsku => ?_
  refine of_step (verdict_money i _ _ _) fun priceWithTax hprice => ?_
  refine of_step (verdict_money i _ _ _) fun salePriceWithTax hsale => ?_
  refine of_step (verdict_money i _ _ _) fun shippingFee hfee => ?_
  refine of_step (verdict_decimal i _ _) fun taxRate _ => ?_
  refine of_step (verdict_text item _) fun color _ => ?_
  refine of_step (verdict_text item _) fun size _ => ?_
  refine of_step (verdict_text item _) fun properties _ => ?_
  refine of_step (verdict_text item _) fun imageUrl _ => ?_
  refine of_step (verdict_text item _) fun shipFromCountry _ => ?_
  refine of_step (verdict_text item _) fun deliveryDays _ => ?_
  refine of_step (verdict_text item _) fun minDeliveryDays _ => ?_
  refine of_step (verdict_text item _) fun maxDeliveryDays _ => ?_
  rw [AliExpressSku.built_eq_ok i hproduct (isDigits_of_identifier i hsku)]
  · rfl
  · intro m hm
    rcases List.mem_append.1 hm with hm | hm
    · rcases List.mem_append.1 hm with hm | hm
      · exact currency_of_money i hprice hm
      · exact currency_of_money i hsale hm
    · exact currency_of_money i hfee hm

/-- What is read of a response which lists the SKUs of a product. -/
def skuDetailVerdicts (payload : List (String × Json)) : List Verdict :=
  let inner := skuResultOf payload
  skuEnvelopeVerdicts payload ++
    objectVerdict (field inner "ae_item_info") ::
    identifierVerdict i (field (field inner "ae_item_info") "product_id") ::
    listVerdict (field inner "ae_item_sku_info") ::
    (elements (field inner "ae_item_sku_info")).flatMap (skuVerdicts i)

theorem verdict_parseSkuDetail (payload : List (String × Json)) :
    verdict (parseSkuDetail i payload) = first (skuDetailVerdicts i payload) := by
  unfold parseSkuDetail skuDetailVerdicts
  refine of_part ((verdict_lift _).trans (linkVerdict_skuEnvelope payload)) fun inner hinner => ?_
  rw [skuEnvelope_eq_ok (lift_eq_ok.1 hinner), field]
  refine of_step (verdict_mapping _) fun product hproduct => ?_
  rw [mapping_eq_ok (lift_eq_ok.1 hproduct), field]
  refine of_step (verdict_identifier i _ _) fun productId hid => ?_
  refine of_step (verdict_list _) fun raws hraws => ?_
  rw [field, list_eq_ok (lift_eq_ok.1 hraws)]
  exact of_mapM_flatMap fun raw _ => verdict_sku i (isDigits_of_identifier i hid) raw

/-! ## Shipping -/

/-- What is read of a response about shipping. -/
def shippingVerdicts (payload : List (String × Json)) (currency : Text) : List Verdict :=
  let result := resultOf payload "aliexpress_affiliate_product_shipping_get_response"
  resultVerdicts payload "aliexpress_affiliate_product_shipping_get_response" ++
    [moneyVerdict i (field result "shipping_fee") (some currency),
      textVerdict (field result "delivery_days"), textVerdict (field result "min_delivery_days"),
      textVerdict (field result "max_delivery_days"),
      textVerdict (field result "ship_from_country")]

theorem verdict_parseShipping (payload : List (String × Json)) (currency : Text) :
    verdict (parseShipping i payload currency) = first (shippingVerdicts i payload currency) := by
  unfold parseShipping shippingVerdicts
  refine of_part ((verdict_lift _).trans (linkVerdict_respResult payload _)) fun result h => ?_
  rw [respResult_eq_ok (lift_eq_ok.1 h)]
  refine of_step (verdict_money i _ _ _) fun fee _ => ?_
  refine of_step (verdict_text result _) fun deliveryDays _ => ?_
  refine of_step (verdict_text result _) fun minDeliveryDays _ => ?_
  refine of_step (verdict_text result _) fun maxDeliveryDays _ => ?_
  refine of_step (verdict_text result _) fun shipFromCountry _ => ?_
  rfl

/-! ## Promotions -/

/-- What is read of a promotion. -/
def promotionVerdicts (currency : Text) (raw : Json) : List Verdict :=
  [objectVerdict raw, textVerdict (field raw "redemption_channel"),
    moneyWithUnitVerdict i (field raw "minimum_purchase_amount") currency,
    moneyWithUnitVerdict i (field raw "money_off_amount") currency,
    textVerdict (field raw "generic_redemption_code"),
    textVerdict (field raw "product_applicability"), textVerdict (field raw "coupon_value_type"),
    textVerdict (field raw "offer_type"), textVerdict (field raw "long_title"),
    textVerdict (field raw "promotion_effective_dates")]

/-- **The verdict on a promotion** is the first of those on its fields. -/
theorem verdict_promotion (currency productId : Text) (raw : Json) :
    verdict (promotion i currency productId raw) = first (promotionVerdicts i currency raw) := by
  unfold promotion
  refine of_step (verdict_mapping raw) fun item hitem => ?_
  obtain rfl := mapping_eq_ok (lift_eq_ok.1 hitem)
  refine of_step (verdict_text item _) fun redemptionChannel _ => ?_
  refine of_step (verdict_moneyWithUnit i _ _ _) fun minimumPurchase _ => ?_
  refine of_step (verdict_moneyWithUnit i _ _ _) fun moneyOff _ => ?_
  refine of_step (verdict_text item _) fun genericCode _ => ?_
  refine of_step (verdict_text item _) fun productApplicability _ => ?_
  refine of_step (verdict_text item _) fun valueType _ => ?_
  refine of_step (verdict_text item _) fun offerType _ => ?_
  refine of_step (verdict_text item _) fun title _ => ?_
  refine of_step (verdict_text item _) fun effectiveDates _ => ?_
  rfl

/-- What is read of the promotions of a product. -/
def promotionsVerdicts (currency : Text) (raw : Json) : List Verdict :=
  objectVerdict raw :: identifierVerdict i (field raw "product_id") ::
    listVerdict (field raw "promotions") ::
    (elements (field raw "promotions")).flatMap (promotionVerdicts i currency)

theorem verdict_promotionResult (currency : Text) (raw : Json) :
    verdict (promotionResult i currency raw) = first (promotionsVerdicts i currency raw) := by
  unfold promotionResult promotionsVerdicts
  refine of_step (verdict_mapping raw) fun product hproduct => ?_
  rw [mapping_eq_ok (lift_eq_ok.1 hproduct), field]
  refine of_step (verdict_identifier i _ _) fun productId _ => ?_
  refine of_step (verdict_list _) fun raws hraws => ?_
  rw [field, list_eq_ok (lift_eq_ok.1 hraws)]
  exact of_mapM_flatMap fun raw _ => verdict_promotion i currency productId raw

/-- What is read of a response which lists promotions. -/
def promotionInfoVerdicts (payload : List (String × Json)) (currency shipToCountry : Text) :
    List Verdict :=
  let results := field (promotionResultOf payload) "promotion_results"
  test (i.unicode.upper shipToCountry.strip ≠ "BR".toList) ::
    (promotionEnvelopeVerdicts payload ++
      listVerdict results :: (elements results).flatMap (promotionsVerdicts i currency))

theorem verdict_parsePromotionInfo (payload : List (String × Json))
    (currency shipToCountry : Text) :
    verdict (parsePromotionInfo i payload currency shipToCountry) =
      first (promotionInfoVerdicts i payload currency shipToCountry) := by
  unfold parsePromotionInfo promotionInfoVerdicts
  refine of_step (of_check trivial) fun _ _ => ?_
  refine of_part ((verdict_lift _).trans (linkVerdict_promotionEnvelope payload)) fun result h => ?_
  rw [promotionEnvelope_eq_ok (lift_eq_ok.1 h), field]
  refine of_step (verdict_list _) fun raws hraws => ?_
  rw [list_eq_ok (lift_eq_ok.1 hraws), elements, ← List.append_nil (raws.flatMap _)]
  exact of_part (of_mapM_flatMap fun raw _ => verdict_promotionResult i currency raw)
    fun _ _ => rfl

end Parsing
end PromoBot
