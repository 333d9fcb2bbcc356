import PromoBot.Lib.PyDecimal
import PromoBot.Lib.PyUrl
import PromoBot.Domain.StateMachines
import PromoBot.Providers.LinkGenerate

/-!
# What a provider offers

`providers/shopee/models.py`, `providers/aliexpress/models.py` and the two `policy.py`:
the product a provider was asked about, what it answered of its prices, the affiliate link
it gave, and the price to be shown.

The data are frozen dataclasses which check themselves when they are built.  Each is two
structures here, its fields and the value built from them, which carries the fact that
`__post_init__` did not raise.  The two stores write the variation asked for in different
places: a reference to an AliExpress product has it in its address and in its key, while a
reference to a Shopee product has it in a field of its own, which nothing compares with
the address.
-/

namespace PromoBot

open Fallible PyUrl

/-- `Money`: a number of cents, the amount being rounded to two decimals. -/
structure Money where
  cents : Nat
  currency : Text
  length_currency : currency.length = 3
  deriving DecidableEq

namespace Offers

/-- Reais. -/
def brl (cents : Nat) : Money := ⟨cents, "BRL".toList, rfl⟩

variable (u : PyUnicode)

/-- `urlsplit(url)` with its port; `none` is the `ValueError`. -/
def splitWithPort (url : Text) : Option (SplitResult × Option Nat) :=
  (urlsplit u url).bind fun parts => parts.port.map fun port => (parts, port)

/-- The checks of an address that splits. -/
def SafeHttps (parts : SplitResult) (port : Option Nat) : Prop :=
  parts.scheme = "https".toList ∧ (parts.hostname u).getD [] ≠ [] ∧ parts.username = none ∧
    parts.password = none ∧ port ∈ [none, some 443]

instance (parts : SplitResult) (port : Option Nat) : Decidable (SafeHttps u parts port) :=
  inferInstanceAs (Decidable (_ ∧ _))

/-- `_require_safe_https`. -/
def requireSafeHttps (url : Text) : Except String Unit := do
  let split ← orRaise (splitWithPort u url) "affiliate proof URL is malformed"
  check (SafeHttps u split.1 split.2) "affiliate proof URL must be a safe HTTPS URL"

/-- An address of an image, dropped unless it is on one of the hosts. -/
def officialImageUrl (allowedHosts : List Text) (url : Option Text) : Option Text :=
  url.filter fun url =>
    match splitWithPort u url with
    | none => false
    | some (parts, port) => decide (SafeHttps u parts port ∧
        u.casefold ((parts.hostname u).getD []) ∈ allowedHosts)

/-! ## What may be shown of a price -/

/-- What a provider says of the prices of a product, in cents. -/
structure Quote where
  lowest : Nat
  highest : Nat
  /-- The variation the provider was asked about, and its price. -/
  selected : Option (Text × Nat)
  /-- The variations it listed. -/
  listed : List (Text × Nat)

/-- **A price is shown as it was quoted**: that of a variation is this variation's own, and
exact; that of a product lies in its range, as the mode says. -/
def Quote.Shows (q : Quote) (variation : Option Text) (price : Nat) (mode : String) : Prop :=
  match variation with
  | some v =>
    q.selected = some (v, price) ∧ (∀ e ∈ q.listed, e.1 = v → e.2 = price) ∧ mode = "EXACT"
  | none =>
    (q.lowest ≤ price ∧ price ≤ q.highest) ∧
      ((mode = "EXACT" ∧ q.lowest = q.highest) ∨
        (mode ∈ ["STARTING_AT", "RANGE"] ∧ price = q.lowest))

end Offers

/-! ## Shopee -/

namespace ShopeeOffer

open Offers

structure ReferenceFields where
  store : Text
  externalProductId : Text
  canonicalUrl : Text
  shopId : Text
  itemId : Text
  requestedVariationId : Option Text
  deriving DecidableEq

/-- `ProviderProductReference.__post_init__`. -/
def ReferenceFields.postInit (r : ReferenceFields) : Except String Unit := do
  check (r.store = "shopee".toList) "Shopee reference must use the shopee store"
  check (∀ value ∈ [r.externalProductId, r.canonicalUrl, r.shopId, r.itemId], value.strip ≠ [])
    "Shopee product identifiers cannot be empty"
  check (r.externalProductId = r.shopId ++ ':' :: r.itemId)
    "Shopee identity must use the shop_id:item_id composite"

/-- `ProviderProductReference`. -/
structure ProviderProductReference extends ReferenceFields where
  built : toReferenceFields.postInit = .ok ()

/-- `VariationSnapshot`. -/
structure VariationSnapshot where
  variationId : Text
  price : Money
  available : Bool
  imageUrl : Option Text
  variationId_ne : variationId.strip ≠ []

structure SnapshotFields where
  reference : ProviderProductReference
  title : Text
  priceMin : Money
  priceMax : Money
  available : Bool
  queriedAt : Instant
  seller : Option Text
  imageUrl : Option Text
  selectedVariationId : Option Text
  selectedVariationPrice : Option Money
  selectedVariationAvailable : Option Bool
  selectedVariationImageUrl : Option Text
  rangeSemanticsConfirmed : Bool
  variations : List VariationSnapshot

namespace SnapshotFields

variable (s : SnapshotFields)

/-- `currency`. -/
def currency : Text := s.priceMin.currency

/-- The currencies of all prices. -/
def currencies : List Text :=
  s.priceMin.currency :: s.priceMax.currency ::
    (s.variations.map fun v => v.price.currency) ++
      (s.selectedVariationPrice.map Money.currency).toList

/-- The end of `__post_init__`: a selected variation is listed once, and as it was selected. -/
def checkSelected : Except String Unit :=
  match s.selectedVariationId, s.variations with
  | none, _ | some _, [] => .ok ()
  | some selectedId, variations =>
    match variations.filter fun v => v.variationId = selectedId with
    | [selected] =>
      check (some selected.price = s.selectedVariationPrice ∧
          some selected.available = s.selectedVariationAvailable ∧
          selected.imageUrl = s.selectedVariationImageUrl)
        "selected variation data comes from inconsistent snapshots"
    | _ => .error "selected variation is absent or duplicated in the snapshot"

/-- `ProductSnapshot.__post_init__`. -/
def postInit : Except String Unit := do
  check (s.title.strip ≠ []) "product title cannot be empty"
  check (∀ c ∈ s.currencies, c = s.currency) "snapshot monetary values must use one currency"
  check (s.priceMin.cents ≤ s.priceMax.cents) "price_min cannot exceed price_max"
  check ((s.selectedVariationId.isSome ∧ s.selectedVariationPrice.isSome ∧
        s.selectedVariationAvailable.isSome) ∨
      (s.selectedVariationId = none ∧ s.selectedVariationPrice = none ∧
        s.selectedVariationAvailable = none))
    "selected variation fields must be supplied together"
  check (s.reference.requestedVariationId = none ∨
      s.selectedVariationId = s.reference.requestedVariationId)
    "provider did not confirm the requested variation"
  s.checkSelected

end SnapshotFields

/-- `ProductSnapshot`. -/
structure ProductSnapshot extends SnapshotFields where
  built : toSnapshotFields.postInit = .ok ()

structure ProofFields where
  provider : String
  operation : String
  requestedAt : Instant
  respondedAt : Instant
  sourceExternalProductId : Text
  canonicalUrl : Text
  shortLink : Text
  officialEndpointHost : Text
  credentialProfileId : Text
  contractVersion : String
  subIds : List Text
  officialResponseValidated : Bool
  deriving DecidableEq

variable (u : PyUnicode)

/-- `AffiliateLinkProof.__post_init__`. -/
def ProofFields.postInit (p : ProofFields) : Except String Unit := do
  check (p.requestedAt ≤ p.respondedAt) "affiliate response cannot precede the request"
  check (p.provider = "shopee_official")
    "affiliate proof must identify the official Shopee provider"
  check (∀ value ∈ [p.operation.toList, p.sourceExternalProductId, p.canonicalUrl, p.shortLink,
      p.officialEndpointHost, p.credentialProfileId, p.contractVersion.toList],
      Text.strip value ≠ [])
    "affiliate proof fields cannot be empty"
  requireSafeHttps u p.canonicalUrl
  requireSafeHttps u p.shortLink

/-- `AffiliateLinkProof`. -/
structure AffiliateLinkProof extends ProofFields where
  built : toProofFields.postInit u = .ok ()

structure OfferFields where
  product : ProductSnapshot
  affiliateProof : AffiliateLinkProof u

/-- `EnrichedAffiliateOffer.__post_init__`. -/
def OfferFields.postInit (o : OfferFields u) : Except String Unit := do
  check (o.affiliateProof.officialResponseValidated = true)
    "an enriched offer requires a validated official response"
  check (o.product.reference.externalProductId = o.affiliateProof.sourceExternalProductId)
    "affiliate proof belongs to another product"
  check (o.product.reference.canonicalUrl = o.affiliateProof.canonicalUrl)
    "affiliate proof belongs to another canonical URL"

/-- `EnrichedAffiliateOffer`. -/
structure EnrichedAffiliateOffer extends OfferFields u where
  built : toOfferFields.postInit u = .ok ()

/-- `PriceDisplayMode`. -/
inductive PriceDisplayMode
  | exact | startingAt
  deriving DecidableEq, Repr

def PriceDisplayMode.value : PriceDisplayMode → String
  | exact => "EXACT"
  | startingAt => "STARTING_AT"

/-- `PricePresentation`. -/
structure PricePresentation where
  price : Money
  mode : PriceDisplayMode
  variationId : Option Text

/-- An error of the policy, which is never retried. -/
def refusal (code : String) (manualReview : Bool) : ProviderError := ⟨code, false, manualReview⟩

/-- The variation `select_publishable_price` was asked for, as the provider confirmed it. -/
def selectVariation (s : ProductSnapshot) (requested : Text) :
    Except ProviderError PricePresentation :=
  match s.selectedVariationPrice, s.selectedVariationAvailable with
  | some price, some available => do
    check (s.selectedVariationId = some requested) (refusal "SHOPEE_VARIATION_NOT_CONFIRMED" true)
    check (available = true) (refusal "SHOPEE_VARIATION_UNAVAILABLE" false)
    check (0 < price.cents) (refusal "SHOPEE_NON_POSITIVE_PRICE" false)
    return ⟨price, .exact, some requested⟩
  | _, _ => .error (refusal "SHOPEE_VARIATION_NOT_CONFIRMED" true)

/-- `select_publishable_price`. -/
def selectPublishablePrice (s : ProductSnapshot) : Except ProviderError PricePresentation := do
  check (s.currency = "BRL".toList) (refusal "SHOPEE_CURRENCY_NOT_SUPPORTED" false)
  check (s.available = true) (refusal "SHOPEE_PRODUCT_UNAVAILABLE" false)
  check (0 < s.priceMin.cents ∧ 0 < s.priceMax.cents) (refusal "SHOPEE_NON_POSITIVE_PRICE" false)
  match s.reference.requestedVariationId with
  | some requested => selectVariation s requested
  | none =>
    if s.priceMin.cents = s.priceMax.cents then return ⟨s.priceMin, .exact, none⟩
    else if s.rangeSemanticsConfirmed then return ⟨s.priceMin, .startingAt, none⟩
    else .error (refusal "SHOPEE_PRICE_RANGE_REQUIRES_REVIEW" true)

/-- `validated_official_image_url`. -/
def validatedOfficialImageUrl (allowedHosts : List Text) (url : Option Text) : Option Text :=
  if allowedHosts = [] then none else officialImageUrl u allowedHosts url

/-- The prices of a snapshot. -/
def ProductSnapshot.quote (s : ProductSnapshot) : Quote where
  lowest := s.priceMin.cents
  highest := s.priceMax.cents
  selected := s.selectedVariationId.bind fun v => s.selectedVariationPrice.map fun p => (v, p.cents)
  listed := s.variations.map fun v => (v.variationId, v.price.cents)

variable {s : ProductSnapshot} {p : PricePresentation}

theorem ProductSnapshot.priceMin_le (s : ProductSnapshot) :
    s.priceMin.cents ≤ s.priceMax.cents := by
  obtain ⟨_, -, h⟩ := bind_eq_ok.1 s.built
  obtain ⟨_, -, h⟩ := bind_eq_ok.1 h
  obtain ⟨_, hle, -⟩ := bind_eq_ok.1 h
  exact check_eq_ok.1 hle

theorem ProductSnapshot.checkSelected_built (s : ProductSnapshot) : s.checkSelected = .ok () := by
  obtain ⟨_, -, h⟩ := bind_eq_ok.1 s.built
  obtain ⟨_, -, h⟩ := bind_eq_ok.1 h
  obtain ⟨_, -, h⟩ := bind_eq_ok.1 h
  obtain ⟨_, -, h⟩ := bind_eq_ok.1 h
  obtain ⟨_, -, h⟩ := bind_eq_ok.1 h
  exact h

/-- A variation that is listed has the price it was selected with. -/
theorem price_of_mem_variations {v : Text} {price : Money} (hid : s.selectedVariationId = some v)
    (hprice : s.selectedVariationPrice = some price) {w : VariationSnapshot}
    (hw : w ∈ s.variations) (hwv : w.variationId = v) : w.price = price := by
  have hchecked := s.checkSelected_built
  have hmem : w ∈ s.variations.filter fun w => w.variationId = v :=
    List.mem_filter.2 ⟨hw, by simp [hwv]⟩
  unfold SnapshotFields.checkSelected at hchecked
  rw [hid, hprice] at hchecked
  cases hlist : s.variations with
  | nil =>
    rw [hlist] at hw
    cases hw
  | cons a l =>
    rw [hlist] at hchecked hmem
    dsimp only at hchecked
    split at hchecked
    case h_1 selected hfilter =>
      rw [hfilter, List.mem_singleton] at hmem
      obtain ⟨hselected, -⟩ := check_eq_ok.1 hchecked
      rw [hmem]
      exact Option.some.inj hselected
    case h_2 => cases hchecked

theorem selectVariation_eq_ok {requested : Text} (h : selectVariation s requested = .ok p) :
    s.selectedVariationId = some requested ∧ s.selectedVariationPrice = some p.price ∧
      p.mode = .exact ∧ p.variationId = some requested := by
  unfold selectVariation at h
  split at h
  case h_1 price available hprice _ =>
    obtain ⟨_, hid, h⟩ := bind_eq_ok.1 h
    obtain ⟨_, -, h⟩ := bind_eq_ok.1 h
    obtain ⟨_, -, h⟩ := bind_eq_ok.1 h
    obtain rfl := Except.ok.inj h
    exact ⟨check_eq_ok.1 hid, hprice, rfl, rfl⟩
  case h_2 => cases h

/-- **What is shown is what was quoted**, of the variation the reference asks for. -/
theorem selectPublishablePrice_shows (h : selectPublishablePrice s = .ok p) :
    p.variationId = s.reference.requestedVariationId ∧
      s.quote.Shows p.variationId p.price.cents p.mode.value := by
  obtain ⟨_, -, h⟩ := bind_eq_ok.1 h
  obtain ⟨_, -, h⟩ := bind_eq_ok.1 h
  obtain ⟨_, -, h⟩ := bind_eq_ok.1 h
  cases hrequested : s.reference.requestedVariationId with
  | some requested =>
    rw [hrequested] at h
    obtain ⟨hid, hprice, hmode, hp⟩ := selectVariation_eq_ok h
    rw [hp, hmode]
    refine ⟨rfl, ?_, fun e he hev => ?_, rfl⟩
    · rw [ProductSnapshot.quote, hid, hprice]
      rfl
    · obtain ⟨w, hw, rfl⟩ := List.mem_map.1 he
      exact congrArg Money.cents (price_of_mem_variations hid hprice hw hev)
  | none =>
    rw [hrequested] at h
    have hle := s.priceMin_le
    dsimp only at h
    split at h
    case isTrue heq =>
      obtain rfl := Except.ok.inj h
      exact ⟨rfl, ⟨le_rfl, hle⟩, .inl ⟨rfl, heq⟩⟩
    case isFalse =>
      split at h
      · obtain rfl := Except.ok.inj h
        exact ⟨rfl, ⟨le_rfl, hle⟩, .inr ⟨List.mem_cons_self, rfl⟩⟩
      · cases h

theorem EnrichedAffiliateOffer.proof_agrees {u : PyUnicode} (o : EnrichedAffiliateOffer u) :
    o.product.reference.externalProductId = o.affiliateProof.sourceExternalProductId ∧
      o.product.reference.canonicalUrl = o.affiliateProof.canonicalUrl := by
  obtain ⟨_, -, h⟩ := bind_eq_ok.1 o.built
  obtain ⟨_, hproduct, h⟩ := bind_eq_ok.1 h
  exact ⟨check_eq_ok.1 hproduct, check_eq_ok.1 h⟩

end ShopeeOffer

/-! ## AliExpress -/

namespace AliExpressOffer

open Offers

variable (u : PyUnicode)

structure ReferenceFields where
  externalProductId : Text
  canonicalUrl : Text
  requestedSkuId : Option Text
  deriving DecidableEq

namespace ReferenceFields

variable (r : ReferenceFields)

/-- The address a reference has to have. -/
def expected : Text :=
  let url := "https://www.aliexpress.com/item/".toList ++ r.externalProductId ++ ".html".toList
  match r.requestedSkuId with
  | some sku => url ++ "?sku_id=".toList ++ sku
  | none => url

/-- `variation_key`. -/
def variationKey : Text :=
  match r.requestedSkuId with
  | none | some [] => []
  | some sku => "sku_id:".toList ++ sku

/-- `AliExpressProductReference.__post_init__`. -/
def postInit : Except String Unit := do
  check (Urls.isDigits u r.externalProductId) "AliExpress product ID must contain only digits"
  check (r.canonicalUrl = r.expected) "AliExpress reference must use the canonical product URL"
  check (∀ sku ∈ r.requestedSkuId, Urls.isDigits u sku = true)
    "AliExpress SKU ID must contain only digits"

end ReferenceFields

/-- `AliExpressProductReference`. -/
structure AliExpressProductReference extends ReferenceFields where
  built : toReferenceFields.postInit u = .ok ()

/-- `PriceScope`. -/
inductive PriceScope
  | product | sku | range
  deriving DecidableEq, Repr

def PriceScope.value : PriceScope → String
  | product => "PRODUCT"
  | sku => "SKU"
  | range => "RANGE"

structure SnapshotFields where
  reference : AliExpressProductReference u
  title : Text
  priceMin : Money
  priceMax : Money
  priceScope : PriceScope
  queriedAt : Instant
  selectedSkuId : Option Text
  selectedPrice : Option Money
  available : Option Bool
  imageUrl : Option Text
  seller : Option Text
  commissionRate : Option Decimal
  commissionAmount : Option Money
  shippingFee : Option Money
  sourceOperation : String

namespace SnapshotFields

variable {u} (s : SnapshotFields u)

/-- `currency`. -/
def currency : Text := s.priceMin.currency

/-- `AliExpressProductSnapshot.__post_init__`. -/
def postInit : Except String Unit := do
  check (s.title.strip ≠ []) "product title cannot be empty"
  check (s.priceMin.currency = s.priceMax.currency) "price range must use one currency"
  check (s.priceMin.cents ≤ s.priceMax.cents) "price_min cannot exceed price_max"
  check (∀ sku ∈ s.selectedSkuId, Urls.isDigits u sku = true)
    "selected SKU ID must contain only digits"
  check (s.selectedSkuId.isNone = s.selectedPrice.isNone)
    "selected SKU and selected price must be supplied together"
  check (∀ value ∈ [s.selectedPrice, s.commissionAmount, s.shippingFee], ∀ money ∈ value,
      money.currency = s.priceMin.currency)
    "snapshot monetary values must use one currency"

end SnapshotFields

/-- `AliExpressProductSnapshot`. -/
structure AliExpressProductSnapshot extends SnapshotFields u where
  built : toSnapshotFields.postInit = .ok ()

structure ProofFields where
  operation : String
  requestedAt : Instant
  respondedAt : Instant
  sourceExternalProductId : Text
  canonicalUrl : Text
  shortLink : Text
  officialEndpointHost : Text
  credentialProfileId : Text
  contractVersion : String
  officialResponseValidated : Bool
  deriving DecidableEq

/-- `AffiliateLinkProof.__post_init__`. -/
def ProofFields.postInit (p : ProofFields) : Except String Unit := do
  check (p.requestedAt ≤ p.respondedAt) "affiliate response cannot precede the request"
  check (Urls.isDigits u p.sourceExternalProductId)
    "affiliate proof must preserve the AliExpress product ID"
  check (∀ value ∈ [p.operation.toList, p.canonicalUrl, p.shortLink, p.officialEndpointHost,
      p.credentialProfileId, p.contractVersion.toList], Text.strip value ≠ [])
    "affiliate proof fields cannot be empty"
  requireSafeHttps u p.canonicalUrl
  requireSafeHttps u p.shortLink

/-- `AffiliateLinkProof`. -/
structure AffiliateLinkProof extends ProofFields where
  built : toProofFields.postInit u = .ok ()

structure OfferFields where
  product : AliExpressProductSnapshot u
  affiliateProof : AffiliateLinkProof u

/-- `EnrichedAffiliateOffer.__post_init__`. -/
def OfferFields.postInit (o : OfferFields u) : Except String Unit := do
  check (o.affiliateProof.officialResponseValidated = true)
    "an enriched offer requires a validated official response"
  check (o.product.reference.externalProductId = o.affiliateProof.sourceExternalProductId)
    "affiliate proof belongs to another product"
  check (o.product.reference.canonicalUrl = o.affiliateProof.canonicalUrl)
    "affiliate proof belongs to another canonical URL"

/-- `EnrichedAffiliateOffer`. -/
structure EnrichedAffiliateOffer extends OfferFields u where
  built : toOfferFields.postInit u = .ok ()

/-- `PriceDisplayMode`. -/
inductive PriceDisplayMode
  | exact | startingAt | range
  deriving DecidableEq, Repr

def PriceDisplayMode.value : PriceDisplayMode → String
  | exact => "EXACT"
  | startingAt => "STARTING_AT"
  | range => "RANGE"

/-- `PricePresentation`. -/
structure PricePresentation where
  minimum : Money
  maximum : Money
  mode : PriceDisplayMode
  selectedSkuId : Option Text

/-- An error of the policy, which is never retried. -/
def refusal (code : String) (manualReview : Bool) : ProviderError := ⟨code, false, manualReview⟩

variable {u}

/-- The SKU `select_publishable_price` was asked for, as the provider confirmed it. -/
def selectSku (s : AliExpressProductSnapshot u) (requested : Text) :
    Except ProviderError PricePresentation := do
  let price ← orRaise s.selectedPrice (refusal "ALIEXPRESS_SKU_NOT_CONFIRMED" true)
  check (s.selectedSkuId = some requested ∧ s.priceScope = .sku)
    (refusal "ALIEXPRESS_SKU_NOT_CONFIRMED" true)
  check (0 < price.cents) (refusal "ALIEXPRESS_NON_POSITIVE_PRICE" false)
  return ⟨price, price, .exact, s.selectedSkuId⟩

/-- `select_publishable_price`. -/
def selectPublishablePrice (s : AliExpressProductSnapshot u) :
    Except ProviderError PricePresentation := do
  check (s.currency = "BRL".toList) (refusal "ALIEXPRESS_CURRENCY_INCOMPATIBLE" false)
  check (s.available = some true)
    (refusal "ALIEXPRESS_AVAILABILITY_UNCONFIRMED" s.available.isNone)
  check (0 < s.priceMin.cents ∧ 0 < s.priceMax.cents)
    (refusal "ALIEXPRESS_NON_POSITIVE_PRICE" false)
  match s.reference.requestedSkuId with
  | some requested => selectSku s requested
  | none =>
    if s.priceMin.cents ≠ s.priceMax.cents then do
      check (s.priceScope = .range) (refusal "ALIEXPRESS_PRICE_RANGE_REQUIRES_REVIEW" true)
      return ⟨s.priceMin, s.priceMax, .range, none⟩
    else
      return ⟨s.priceMin, s.priceMax, if s.priceScope = .sku then .exact else .startingAt, none⟩

/-- `OFFICIAL_IMAGE_HOSTS`. -/
def officialImageHosts : List Text :=
  ["ae01.alicdn.com".toList, "ae-pic-a1.aliexpress-media.com".toList]

variable (u) in
/-- `validated_official_image_url`. -/
def validatedOfficialImageUrl (url : Option Text) : Option Text :=
  officialImageUrl u officialImageHosts url

/-- The prices of a snapshot. -/
def AliExpressProductSnapshot.quote (s : AliExpressProductSnapshot u) : Quote where
  lowest := s.priceMin.cents
  highest := s.priceMax.cents
  selected := s.selectedSkuId.bind fun sku => s.selectedPrice.map fun p => (sku, p.cents)
  listed := []

variable {s : AliExpressProductSnapshot u} {p : PricePresentation}

theorem AliExpressProductSnapshot.priceMin_le (s : AliExpressProductSnapshot u) :
    s.priceMin.cents ≤ s.priceMax.cents := by
  obtain ⟨_, -, h⟩ := bind_eq_ok.1 s.built
  obtain ⟨_, -, h⟩ := bind_eq_ok.1 h
  obtain ⟨_, hle, -⟩ := bind_eq_ok.1 h
  exact check_eq_ok.1 hle

theorem selectSku_eq_ok {requested : Text} (h : selectSku s requested = .ok p) :
    s.selectedSkuId = some requested ∧ s.selectedPrice = some p.minimum ∧ p.mode = .exact ∧
      p.selectedSkuId = some requested := by
  obtain ⟨price, hprice, h⟩ := bind_eq_ok.1 h
  obtain ⟨_, hconfirmed, h⟩ := bind_eq_ok.1 h
  obtain ⟨_, -, h⟩ := bind_eq_ok.1 h
  obtain rfl := Except.ok.inj h
  obtain ⟨hid, -⟩ := check_eq_ok.1 hconfirmed
  exact ⟨hid, orRaise_eq_ok.1 hprice, rfl, hid⟩

/-- **What is shown is what was quoted**, of the SKU the reference asks for. -/
theorem selectPublishablePrice_shows (h : selectPublishablePrice s = .ok p) :
    p.selectedSkuId = s.reference.requestedSkuId ∧
      s.quote.Shows p.selectedSkuId p.minimum.cents p.mode.value := by
  obtain ⟨_, -, h⟩ := bind_eq_ok.1 h
  obtain ⟨_, -, h⟩ := bind_eq_ok.1 h
  obtain ⟨_, -, h⟩ := bind_eq_ok.1 h
  cases hrequested : s.reference.requestedSkuId with
  | some requested =>
    rw [hrequested] at h
    obtain ⟨hid, hprice, hmode, hp⟩ := selectSku_eq_ok h
    rw [hp, hmode]
    refine ⟨rfl, ?_, fun e he => absurd he List.not_mem_nil, rfl⟩
    rw [AliExpressProductSnapshot.quote, hid, hprice]
    rfl
  | none =>
    rw [hrequested] at h
    have hle := s.priceMin_le
    dsimp only at h
    split at h
    case isTrue =>
      obtain ⟨_, -, h⟩ := bind_eq_ok.1 h
      obtain rfl := Except.ok.inj h
      exact ⟨rfl, ⟨le_rfl, hle⟩, .inr ⟨List.mem_cons_of_mem _ List.mem_cons_self, rfl⟩⟩
    case isFalse heq =>
      obtain rfl := Except.ok.inj h
      refine ⟨rfl, ⟨le_rfl, hle⟩, ?_⟩
      by_cases hscope : s.priceScope = .sku
      · rw [if_pos hscope]
        exact .inl ⟨rfl, not_not.1 heq⟩
      · rw [if_neg hscope]
        exact .inr ⟨List.mem_cons_self, rfl⟩

theorem EnrichedAffiliateOffer.proof_agrees (o : EnrichedAffiliateOffer u) :
    o.product.reference.externalProductId = o.affiliateProof.sourceExternalProductId ∧
      o.product.reference.canonicalUrl = o.affiliateProof.canonicalUrl := by
  obtain ⟨_, -, h⟩ := bind_eq_ok.1 o.built
  obtain ⟨_, hproduct, h⟩ := bind_eq_ok.1 h
  exact ⟨check_eq_ok.1 hproduct, check_eq_ok.1 h⟩

/-- **The key of a reference names the SKU it asks for.** -/
theorem partition_variationKey (r : AliExpressProductReference u) :
    (r.variationKey.partition ':').2 = r.requestedSkuId := by
  obtain ⟨_, -, h⟩ := bind_eq_ok.1 r.built
  obtain ⟨_, -, hsku⟩ := bind_eq_ok.1 h
  have hdigits := check_eq_ok.1 hsku
  unfold ReferenceFields.variationKey
  split
  case h_1 hnone =>
    rw [hnone]
    rfl
  case h_2 hempty => exact absurd (hdigits [] hempty) (by simp [Urls.isDigits])
  case h_3 sku _ hsome =>
    rw [hsome]
    rfl

end AliExpressOffer

end PromoBot
