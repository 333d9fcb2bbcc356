import Mathlib.Data.Char
import Mathlib.Data.List.Lex
import Mathlib.Data.List.Sort
import PromoBot.Lib.PyDict
import PromoBot.Lib.PyUrl
import PromoBot.Providers.LinkGenerate

/-!
# TOP requests

`providers/aliexpress/top.py`: a prepared request, how its pairs are written on the wire,
and `AliExpressTopRequestBuilder`, which signs.

The HMAC of the signature is a parameter; nothing is assumed of it.
-/

namespace PromoBot
namespace TopRequests

open Fallible LinkGenerate

/-! ## Operations -/

/-- `PRODUCT_DETAIL`. -/
def productDetail : Text := "aliexpress.affiliate.productdetail.get".toList

/-- `PRODUCT_QUERY`. -/
def productQuery : Text := "aliexpress.affiliate.product.query".toList

/-- `HOTPRODUCT_QUERY`. -/
def hotproductQuery : Text := "aliexpress.affiliate.hotproduct.query".toList

/-- `LINK_GENERATE`. -/
def linkGenerate : Text := "aliexpress.affiliate.link.generate".toList

/-- `SKU_DETAIL`. -/
def skuDetail : Text := "aliexpress.affiliate.product.sku.detail.get".toList

/-- `PRODUCT_SHIPPING`. -/
def productShipping : Text := "aliexpress.affiliate.product.shipping.get".toList

/-- `PROMOTION_INFO`. -/
def promotionInfo : Text := "aliexpress.affiliate.promotion.info.get".toList

/-- `AUTHORIZED_OPERATIONS`. -/
def authorizedOperations : List Text :=
  [productDetail, productQuery, hotproductQuery, linkGenerate, skuDetail, productShipping,
    promotionInfo]

/-- `RESERVED_PARAMETER_NAMES`. -/
def reservedParameterNames : List Text :=
  ["access_token", "app_key", "debug", "format", "method", "partner_id", "session", "sign",
    "sign_method", "simplify", "timestamp", "v"].map String.toList

/-! ## Prepared requests -/

/-- `PreparedAliExpressTopRequest`. -/
structure PreparedAliExpressTopRequest where
  method : Text
  path : Text
  queryPairs : List (Text × Text)
  formPairs : List (Text × Text)
  contentType : Text
  deriving DecidableEq

/-- `_encode_pairs`. -/
def encodePairs (pairs : List (Text × Text)) : Text :=
  ['&'].intercalate (pairs.map fun e => e.1 ++ '=' :: PyUrl.quotePlus e.2)

namespace PreparedAliExpressTopRequest

/-- `relative_url`. -/
def relativeUrl (r : PreparedAliExpressTopRequest) : Text :=
  r.path ++ '?' :: encodePairs r.queryPairs

/-- `encoded_form`. -/
def encodedForm (r : PreparedAliExpressTopRequest) : Text := encodePairs r.formPairs

/-- The request asks for affiliate links (`is_link_generate`). -/
def IsLinkGenerate (r : PreparedAliExpressTopRequest) : Prop :=
  ("method".toList, linkGenerate) ∈ r.queryPairs

instance : DecidablePred IsLinkGenerate := fun _ => inferInstanceAs (Decidable (_ ∈ _))

end PreparedAliExpressTopRequest

/-! ## Signing -/

/-- The credentials of `AliExpressTopRequestBuilder`. -/
structure AliExpressTopRequestBuilder where
  appKey : Text
  appSecret : Text
  deriving DecidableEq

/-- `sorted(parameters.items())`, no name standing twice. -/
def sortedItems {β : Type} (parameters : List (Text × β)) : List (Text × β) :=
  parameters.insertionSort fun a b => a.1 ≤ b.1

/-- `_normalized_parameters`. -/
def normalizedParameters (parameters : List (Text × Option Text)) : List (Text × Text) :=
  parameters.filterMap fun e => match e.2 with
    | some value => if e.1.strip ≠ [] ∧ value.strip ≠ [] then some (e.1, value) else none
    | none => none

/-- What `_sign` signs. -/
def canonical (parameters : List (Text × Text)) : Text :=
  ((sortedItems parameters).filter fun e =>
    e.1 ≠ "sign".toList ∧ e.1.strip ≠ [] ∧ e.2.strip ≠ []).flatMap fun e => e.1 ++ e.2

/-- The parameters every request has, before it is signed. -/
def commonParameters (builder : AliExpressTopRequestBuilder) (operation : Text)
    (timestampMs : Int) (session : Option Text) (debug : Bool) : List (Text × Text) :=
  [("app_key".toList, builder.appKey), ("format".toList, "json".toList),
    ("method".toList, operation), ("partner_id".toList, "iop-sdk-java-20181207".toList),
    ("sign_method".toList, "sha256".toList), ("simplify".toList, "true".toList),
    ("timestamp".toList, (toString timestampMs).toList), ("v".toList, "2.0".toList)] ++
  (match session with
    | some session => if session.strip ≠ [] then [("session".toList, session)] else []
    | none => []) ++
  (if debug then [("debug".toList, "true".toList)] else [])

/-- `AliExpressTopRequestBuilder.prepare`.  `hmac` is the upper case hexadecimal HMAC-SHA256
of a text under a secret. -/
def prepare (hmac : Text → Text → Text) (builder : AliExpressTopRequestBuilder)
    (operation : Text) (businessParameters : PyDict Text (Option Text)) (timestampMs : Int)
    (session : Option Text) (debug : Bool) : Except Raised PreparedAliExpressTopRequest := do
  check (operation ∈ authorizedOperations)
    (.valueError "unsupported AliExpress Affiliate operation")
  check (∀ e ∈ businessParameters.items, e.1 ∉ reservedParameterNames)
    (.valueError "business parameters contain a reserved TOP parameter")
  let business := normalizedParameters businessParameters.items
  let common := commonParameters builder operation timestampMs session debug
  let sign := hmac builder.appSecret (canonical (common ++ business))
  return {
    method := "POST".toList
    path := "/sync".toList
    queryPairs := ("method".toList, operation) :: sortedItems (common ++ [("sign".toList, sign)])
    formPairs := sortedItems business
    contentType := "application/x-www-form-urlencoded;charset=UTF-8".toList }

/-- The method of a request is its operation. -/
theorem operation_of_mem_commonParameters {builder : AliExpressTopRequestBuilder}
    {operation value : Text} {timestampMs : Int} {session : Option Text} {debug : Bool}
    (h : ("method".toList, value) ∈ commonParameters builder operation timestampMs session debug) :
    value = operation := by
  rcases List.mem_append.1 h with h | h
  · rcases List.mem_append.1 h with h | h
    · have hnames : ∀ name ∈ ["app_key", "format", "partner_id", "sign_method", "simplify",
          "timestamp", "v"].map String.toList, "method".toList ≠ name := by decide
      simp only [List.mem_cons, Prod.mk.injEq, List.not_mem_nil, or_false] at h
      rcases h with h | h | h | h | h | h | h | h
      case inr.inr.inl => exact h.2
      all_goals exact absurd h.1 (hnames _ (by simp))
    · split at h
      · split at h
        · exact absurd (Prod.mk.inj (List.mem_singleton.1 h)).1 (by decide)
        · cases h
      · cases h
  · split at h
    · exact absurd (Prod.mk.inj (List.mem_singleton.1 h)).1 (by decide)
    · cases h

/-- The only method a prepared request names is its operation. -/
theorem isLinkGenerate_of_prepare {hmac : Text → Text → Text}
    {builder : AliExpressTopRequestBuilder} {operation : Text}
    {businessParameters : PyDict Text (Option Text)} {timestampMs : Int} {session : Option Text}
    {debug : Bool} {r : PreparedAliExpressTopRequest}
    (h : prepare hmac builder operation businessParameters timestampMs session debug = .ok r) :
    r.IsLinkGenerate ↔ operation = linkGenerate := by
  obtain ⟨_, -, h⟩ := bind_eq_ok.1 h
  obtain ⟨_, -, h⟩ := bind_eq_ok.1 h
  obtain rfl := Except.ok.inj h
  constructor
  · intro hmem
    rcases List.mem_cons.1 hmem with heq | hmem
    · exact (Prod.mk.inj heq).2.symm
    · rw [sortedItems, List.mem_insertionSort, List.mem_append] at hmem
      rcases hmem with hmem | hmem
      · exact (operation_of_mem_commonParameters hmem).symm
      · exact absurd (Prod.mk.inj (List.mem_singleton.1 hmem)).1 (by decide)
  · rintro rfl
    exact List.mem_cons_self

end TopRequests
end PromoBot
