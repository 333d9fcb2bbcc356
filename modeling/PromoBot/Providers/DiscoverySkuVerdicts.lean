import PromoBot.Providers.DiscoverySku
import PromoBot.Providers.DiscoveryVerdicts

/-!
# What a list of discovered SKUs accepts, refuses and lets escape

The SKUs of a product are read in order, each against those before it, and the first that is
wrong ends the whole (`verdict_discoverySkus`).  What escapes is a number with too many digits to
be converted, in one direction or the other, and the properties of an SKU that nest too deeply.
-/

namespace PromoBot
namespace Parsing

open Fallible LinkGenerate Verdict

variable (i : Interpreter)

/-! ## Identifiers -/

/-- An identifier of an SKU. -/
def skuNumberVerdict (value : Json) : Verdict :=
  (strVerdict value).andThen ((textOf value).elim .accepted intVerdict)

def skuIdentifier (value : Json) : Option Text :=
  (textOf value).filter fun t => DiscoveryParser.IsDecimal t ∧ 0 < t.toNat

theorem verdict_strOf (value : Json) :
    verdict (DiscoverySkuParser.strOf value) = strVerdict value := by
  cases value with
  | int n => exact of_printed id _
  | null | bool _ | number _ | str _ | arr _ | obj _ => rfl

theorem skuStrOf_eq_ok {value : Json} {t : Option Text}
    (h : DiscoverySkuParser.strOf value = .ok t) : t = textOf value := by
  cases value with
  | int n => exact (Json.printed_eq_ok.1 h).2
  | null | bool _ | number _ | str _ | arr _ | obj _ => exact (Except.ok.inj h).symm

theorem verdict_intOf (t : Text) (h : DiscoveryParser.IsDecimal t) :
    verdict (DiscoverySkuParser.intOf t) = intVerdict t := by
  refine ((of_bind fun _ _ => of_ok _).trans (andThen_accepted _)).trans ?_
  exact (of_check_need id).trans (need_congr ⟨fun hle _ => hle, fun hle => hle h⟩)

/-- What is read of an identifier of an SKU. -/
theorem verdict_skuIdentifier (value : Json) :
    verdict (DiscoverySkuParser.identifier value) = skuNumberVerdict value := by
  unfold DiscoverySkuParser.identifier skuNumberVerdict
  rw [← verdict_strOf]
  refine of_bind fun t ht => ?_
  obtain rfl := skuStrOf_eq_ok ht
  cases textOf value with
  | none => rfl
  | some t =>
    by_cases hdecimal : DiscoveryParser.IsDecimal t
    · rw [Option.filter_some, if_pos (decide_eq_true hdecimal)]
      exact ((of_bind fun _ _ => of_ok _).trans (andThen_accepted _)).trans
        (verdict_intOf t hdecimal)
    · rw [Option.filter_some, if_neg (by simpa using hdecimal)]
      exact (need_pos fun h => absurd h hdecimal).symm

/-- The identifier that was read. -/
theorem skuIdentifier_eq {value : Json} {found : Option Text}
    (h : DiscoverySkuParser.identifier value = .ok found) : found = skuIdentifier value := by
  obtain ⟨t, ht, h⟩ := bind_eq_ok.1 h
  obtain rfl := skuStrOf_eq_ok ht
  unfold skuIdentifier
  cases hvalue : textOf value with
  | none =>
    rw [hvalue] at h
    exact (Except.ok.inj h).symm
  | some t =>
    rw [hvalue] at h
    by_cases hdecimal : DiscoveryParser.IsDecimal t
    · rw [Option.filter_some, if_pos (decide_eq_true hdecimal)] at h
      obtain ⟨n, hn, h⟩ := bind_eq_ok.1 h
      obtain ⟨_, -, hn⟩ := bind_eq_ok.1 hn
      obtain rfl := Except.ok.inj hn
      obtain rfl := Except.ok.inj h
      by_cases hpos : 0 < t.toNat
      · simp [Option.filter_some, hpos, hdecimal]
      · simp [Option.filter_some, hpos]
    · rw [Option.filter_some, if_neg (by simpa using hdecimal)] at h
      obtain rfl := Except.ok.inj h
      simp [Option.filter_some, hdecimal]

/-! ## Fields -/

theorem verdict_asItem {α : Type} (x : Except Raised α) :
    verdict (x.mapError DiscoverySkuParser.asItem) = verdict x := by
  refine of_mapError fun e => ?_
  cases e <;> exact Iff.rfl

theorem verdict_skuDecimal (value : Json) :
    verdict (DiscoverySkuParser.decimal i value) = decimalVerdict i value := by
  unfold DiscoverySkuParser.decimal decimalVerdict
  split
  · rfl
  · rw [← verdict_written]
    refine of_bind fun t ht => ?_
    obtain rfl := written_eq_ok ht
    rw [numeral, ← of_orRaise (P := Handled) (e := incompatible) trivial]
    exact (of_bind fun _ _ => of_ok _).trans (andThen_accepted _)

theorem skuDecimal_eq_ok {value : Json} {found : Option Decimal}
    (h : DiscoverySkuParser.decimal i value = .ok found) : found = amount? i value := by
  unfold DiscoverySkuParser.decimal at h
  unfold amount?
  split at h
  · next habsent =>
    rw [if_pos habsent]
    exact (Except.ok.inj h).symm
  · next habsent =>
    rw [if_neg habsent]
    obtain ⟨text, htext, h⟩ := bind_eq_ok.1 h
    obtain ⟨parsed, hparsed, h⟩ := bind_eq_ok.1 h
    obtain rfl := Except.ok.inj h
    obtain rfl := written_eq_ok htext
    exact (orRaise_eq_ok.1 hparsed).symm

theorem verdict_itemDecimal (value : Json) :
    verdict (DiscoverySkuParser.itemDecimal i value) = decimalVerdict i value :=
  (verdict_asItem _).trans (verdict_skuDecimal i value)

theorem itemDecimal_eq_ok {value : Json} {found : Option Decimal}
    (h : DiscoverySkuParser.itemDecimal i value = .ok found) : found = amount? i value :=
  skuDecimal_eq_ok i (mapError_eq_ok.1 h)

theorem verdict_itemPercent (value : Json) :
    verdict (DiscoverySkuParser.itemPercent i value) = percentVerdict i value := by
  refine (verdict_asItem _).trans ?_
  unfold DiscoverySkuParser.percent percentVerdict
  rw [← verdict_skuDecimal i]
  refine of_bind fun found hfound => ?_
  obtain rfl := skuDecimal_eq_ok i hfound
  rw [← of_check (P := Handled) (e := incompatible) trivial]
  exact (of_bind fun _ _ => of_ok _).trans (andThen_accepted _)

/-- The properties of an SKU, which are decoded once more. -/
def attributesVerdict (value color size : Json) : Verdict :=
  match value.text? with
  | none => .refused
  | some t =>
    match i.loads t with
    | .error .valueError => .refused
    | .error .recursionError => .escaped
    | .ok decoded => test ((DiscoverySkuParser.attributesOf decoded color size).isSome = true)

theorem verdict_attributes (value color size : Json) :
    verdict (DiscoverySkuParser.attributes i value color size) =
      attributesVerdict i value color size := by
  unfold DiscoverySkuParser.attributes attributesVerdict
  cases value.text? with
  | none => rfl
  | some t =>
    show verdict ((i.loads t).mapError DiscoverySkuParser.ofLoads >>= _) = _
    dsimp only
    cases i.loads t with
    | error e => cases e <;> rfl
    | ok decoded => exact of_orRaise (P := Handled) (e := DiscoverySkuParser.itemInvalid) trivial

/-- The product an SKU names, if it names one. -/
def sameProductVerdict (productId : Text) (value : Json) : Verdict :=
  if value = .null then .accepted
  else (skuNumberVerdict value).andThen (test (skuIdentifier value = some productId))

theorem verdict_sameProduct (productId : Text) (value : Json) :
    verdict (DiscoverySkuParser.sameProduct productId value) =
      sameProductVerdict productId value := by
  unfold DiscoverySkuParser.sameProduct sameProductVerdict
  split
  · rfl
  · rw [← verdict_skuIdentifier]
    refine of_bind fun found hfound => ?_
    obtain rfl := skuIdentifier_eq hfound
    exact of_check trivial

/-! ## SKUs -/

/-- What is read of an SKU, after those in `seen`. -/
def discoverySkuVerdicts (productId : Text) (seen : List Text) (raw : Json) : List Verdict :=
  let skuId := skuIdentifier (field raw "sku_id")
  let currency := DiscoveryParser.optionalText (field raw "currency")
  [objectVerdict raw, sameProductVerdict productId (field raw "product_id"),
    skuNumberVerdict (field raw "sku_id"), test (skuId.isSome = true),
    test (skuId.getD [] ∉ seen), test ((currency.filter (· = "BRL".toList)).isSome = true),
    decimalVerdict i (field raw "sale_price_with_tax"),
    test (((amount? i (field raw "sale_price_with_tax")).filter (0 < ·)).isSome = true),
    decimalVerdict i (field raw "price_with_tax"), percentVerdict i (field raw "discount"),
    attributesVerdict i (field raw "sku_properties") (field raw "color") (field raw "size")]

/-- What is read of the SKUs of a product, after those in `seen`. -/
def discoverySkusVerdicts (productId : Text) : List Text → List Json → List Verdict
  | _, [] => []
  | seen, raw :: raws => discoverySkuVerdicts i productId seen raw ++
      discoverySkusVerdicts productId ((skuIdentifier (field raw "sku_id")).getD [] :: seen) raws

/-- The object the SKUs are in. -/
def discoverySkuResultOf (payload : List (String × Json)) : Json :=
  field (field (bodyOf payload DiscoverySkuParser.wrapper) "result") "result"

/-- What is read of the envelope. -/
def discoverySkuEnvelopeVerdicts (payload : List (String × Json)) : List Verdict :=
  let body := bodyOf payload DiscoverySkuParser.wrapper
  [if Json.get payload DiscoverySkuParser.wrapper = .null then .accepted
    else optionalCodeVerdict "0".toList (Json.get payload "code"),
    objectVerdict body, optionalCodeVerdict "0".toList (field body "code"),
    objectVerdict (field body "result"), codeVerdict "0".toList (field (field body "result") "code"),
    objectVerdict (discoverySkuResultOf payload)]

/-- The product the response is about is the expected one. -/
def expectedVerdict (productId : Text) : Option Text → Verdict
  | none => .accepted
  | some t => (skuNumberVerdict (.str t)).andThen (test (skuIdentifier (.str t) = some productId))

/-- What is read of a response which lists the SKUs of a product. -/
def discoverySkuDetailVerdicts (payload : List (String × Json)) (expectedProductId : Option Text) :
    List Verdict :=
  let result := discoverySkuResultOf payload
  let product := skuIdentifier (field (field result "ae_item_info") "product_id")
  let raws := elements (field result "ae_item_sku_info")
  discoverySkuEnvelopeVerdicts payload ++ objectVerdict (field result "ae_item_info") ::
    skuNumberVerdict (field (field result "ae_item_info") "product_id") ::
    test (product.isSome = true) :: expectedVerdict (product.getD []) expectedProductId ::
    listVerdict (field result "ae_item_sku_info") :: test (raws ≠ []) :: test (raws.length ≠ 20) ::
    discoverySkusVerdicts i (product.getD []) [] raws

theorem verdict_fieldsOf (value : Json) :
    verdict (orRaise (DiscoveryParser.fieldsOf value) DiscoverySkuParser.itemInvalid) =
      objectVerdict value := by
  cases value <;> rfl

/-- **The verdict on an SKU** is the first of those on its fields. -/
theorem verdict_discoverySku (productId : Text) (seen : List Text) (raw : Json) :
    verdict (DiscoverySkuParser.sku i productId seen raw) =
      first (discoverySkuVerdicts i productId seen raw) := by
  unfold DiscoverySkuParser.sku discoverySkuVerdicts
  refine of_step (verdict_fieldsOf raw) fun item hitem => ?_
  obtain rfl := fieldsOf_eq_some hitem
  refine of_step (verdict_sameProduct productId _) fun _ _ => ?_
  refine of_step (verdict_skuIdentifier _) fun found hfound => ?_
  obtain rfl := skuIdentifier_eq hfound
  refine of_step (of_orRaise trivial) fun skuId hsku => ?_
  have hid : skuIdentifier (field (.obj item) "sku_id") = some skuId := orRaise_eq_ok.1 hsku
  rw [hid, Option.getD_some]
  refine of_step (of_check trivial) fun _ _ => ?_
  refine of_step (of_orRaise trivial) fun currency _ => ?_
  refine of_step (verdict_itemDecimal i _) fun sale hsale => ?_
  obtain rfl := itemDecimal_eq_ok i hsale
  refine of_step (of_orRaise trivial) fun salePrice _ => ?_
  refine of_step (verdict_itemDecimal i _) fun priceWithTax _ => ?_
  refine of_step (verdict_itemPercent i _) fun discountPercent _ => ?_
  refine of_step (verdict_attributes i _ _ _) fun attributes _ => ?_
  rfl

/-- The identifier of an SKU that was read. -/
theorem skuId_eq {productId : Text} {seen : List Text} {raw : Json} {s : Discovery.DiscoverySku}
    (h : DiscoverySkuParser.sku i productId seen raw = .ok s) :
    s.skuId = (skuIdentifier (field raw "sku_id")).getD [] := by
  obtain ⟨item, hitem, h⟩ := bind_eq_ok.1 h
  obtain ⟨_, -, h⟩ := bind_eq_ok.1 h
  obtain ⟨found, hfound, h⟩ := bind_eq_ok.1 h
  obtain ⟨skuId, hsku, h⟩ := bind_eq_ok.1 h
  obtain ⟨_, -, h⟩ := bind_eq_ok.1 h
  obtain ⟨currency, -, h⟩ := bind_eq_ok.1 h
  obtain ⟨sale, -, h⟩ := bind_eq_ok.1 h
  obtain ⟨salePrice, -, h⟩ := bind_eq_ok.1 h
  obtain ⟨priceWithTax, -, h⟩ := bind_eq_ok.1 h
  obtain ⟨discountPercent, -, h⟩ := bind_eq_ok.1 h
  obtain ⟨attributes, -, h⟩ := bind_eq_ok.1 h
  obtain rfl := Except.ok.inj h
  rw [fieldsOf_eq_some hitem, field, ← skuIdentifier_eq hfound, orRaise_eq_ok.1 hsku]
  rfl

/-- **The verdict on a list of SKUs**, each read against those before it. -/
theorem verdict_discoverySkus (productId : Text) (seen : List Text) (raws : List Json) :
    verdict (DiscoverySkuParser.skus i productId seen raws) =
      first (discoverySkusVerdicts i productId seen raws) := by
  induction raws generalizing seen with
  | nil => rfl
  | cons raw raws ih =>
    unfold DiscoverySkuParser.skus discoverySkusVerdicts
    refine of_part (verdict_discoverySku i productId seen raw) fun parsed hparsed => ?_
    rw [skuId_eq i hparsed, ← ih]
    exact (of_bind fun _ _ => of_ok _).trans (andThen_accepted _)

/-! ## The whole response -/

theorem linkVerdict_discoveryBody (payload : List (String × Json)) :
    linkVerdict (DiscoverySkuParser.body payload) =
      first ((discoverySkuEnvelopeVerdicts payload).take 2) := by
  unfold DiscoverySkuParser.body discoverySkuEnvelopeVerdicts bodyOf
  split
  · rfl
  · refine of_step (linkVerdict_requireOptionalSuccessCode _ _) fun _ _ => ?_
    exact of_last (linkVerdict_mapping _)

theorem discoveryBody_eq_ok {payload fields : List (String × Json)}
    (h : DiscoverySkuParser.body payload = .ok fields) :
    bodyOf payload DiscoverySkuParser.wrapper = .obj fields := by
  unfold DiscoverySkuParser.body at h
  unfold bodyOf
  split at h
  · next hnull =>
    rw [if_pos hnull]
    exact congrArg Json.obj (Except.ok.inj h)
  · next hnull =>
    obtain ⟨_, -, h⟩ := bind_eq_ok.1 h
    rw [if_neg hnull]
    exact mapping_eq_ok h

theorem linkVerdict_discoveryEnvelope (payload : List (String × Json)) :
    linkVerdict (DiscoverySkuParser.envelope payload) =
      first (discoverySkuEnvelopeVerdicts payload) := by
  unfold DiscoverySkuParser.envelope
  rw [← List.take_append_drop 2 (discoverySkuEnvelopeVerdicts payload)]
  refine of_part (linkVerdict_discoveryBody payload) fun body hbody => ?_
  unfold discoverySkuEnvelopeVerdicts discoverySkuResultOf
  rw [discoveryBody_eq_ok hbody, field]
  refine of_step (linkVerdict_requireOptionalSuccessCode _ _) fun _ _ => ?_
  refine of_step (linkVerdict_mapping _) fun outer houter => ?_
  rw [field, mapping_eq_ok houter, field]
  refine of_step (linkVerdict_requireSuccessCode _ _) fun _ _ => ?_
  exact of_last (linkVerdict_mapping _)

theorem discoveryEnvelope_eq_ok {payload result : List (String × Json)}
    (h : DiscoverySkuParser.envelope payload = .ok result) :
    discoverySkuResultOf payload = .obj result := by
  obtain ⟨body, hbody, h⟩ := bind_eq_ok.1 h
  obtain ⟨_, -, h⟩ := bind_eq_ok.1 h
  obtain ⟨outer, houter, h⟩ := bind_eq_ok.1 h
  obtain ⟨_, -, h⟩ := bind_eq_ok.1 h
  rw [discoverySkuResultOf, discoveryBody_eq_ok hbody, field, mapping_eq_ok houter, field,
    mapping_eq_ok h]

theorem verdict_expected (productId : Text) (expectedProductId : Option Text) :
    verdict (DiscoverySkuParser.expected productId expectedProductId) =
      expectedVerdict productId expectedProductId := by
  cases expectedProductId with
  | none => rfl
  | some t =>
    show verdict (DiscoverySkuParser.identifier (.str t) >>= _) =
      (skuNumberVerdict (.str t)).andThen _
    rw [← verdict_skuIdentifier]
    refine of_bind fun found hfound => ?_
    obtain rfl := skuIdentifier_eq hfound
    exact of_check trivial

/-- **The verdict on a response which lists SKUs.** -/
theorem verdict_parseDiscoverySkuDetail (payload : List (String × Json))
    (expectedProductId : Option Text) :
    verdict (DiscoverySkuParser.parseDiscoverySkuDetail i payload expectedProductId) =
      first (discoverySkuDetailVerdicts i payload expectedProductId) := by
  unfold DiscoverySkuParser.parseDiscoverySkuDetail discoverySkuDetailVerdicts
  refine of_part ((verdict_lift _).trans (linkVerdict_discoveryEnvelope payload)) fun result h => ?_
  rw [discoveryEnvelope_eq_ok (lift_eq_ok.1 h), field]
  refine of_step (verdict_mapping _) fun product hproduct => ?_
  rw [mapping_eq_ok (lift_eq_ok.1 hproduct), field]
  refine of_step (verdict_skuIdentifier _) fun found hfound => ?_
  obtain rfl := skuIdentifier_eq hfound
  refine of_step (of_orRaise trivial) fun productId hid => ?_
  rw [orRaise_eq_ok.1 hid, Option.getD_some]
  refine of_step (verdict_expected productId expectedProductId) fun _ _ => ?_
  refine of_step (verdict_list _) fun raws hraws => ?_
  rw [field, list_eq_ok (lift_eq_ok.1 hraws), elements]
  refine of_step (of_check trivial) fun _ _ => ?_
  refine of_step (of_check trivial) fun _ _ => ?_
  rw [← verdict_discoverySkus]
  exact (of_bind fun _ _ => of_ok _).trans (andThen_accepted _)

end Parsing
end PromoBot
