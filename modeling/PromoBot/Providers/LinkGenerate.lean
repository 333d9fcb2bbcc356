import PromoBot.Lib.Fallible
import PromoBot.Lib.Lookup
import PromoBot.Lib.PyStr
import PromoBot.Stores.Urls

/-!
# The answer to a request for affiliate links

`parse_link_generate` of `providers/aliexpress/parsing.py`, and the errors that it and the
functions of `providers/aliexpress/contracts.py` raise.

The answer lists links in any order.  Each is matched with the request by the
product id of its `source_value`; `parseLinkGenerate_ok` is what a parse that
succeeds guarantees.
-/

namespace PromoBot

/-- `ProviderError`. -/
structure ProviderError where
  code : String
  retryable : Bool
  manualReview : Bool
  deriving DecidableEq, Repr

/-- `PROMOTION_LINK_UNAVAILABLE_REVIEW_REQUIRED`. -/
def promotionLinkUnavailableReviewRequired : String :=
  "ALIEXPRESS_PROMOTION_LINK_UNAVAILABLE_REVIEW_REQUIRED"

namespace LinkGenerate

open Fallible Urls PyUrl

/-- What the functions here raise. -/
inductive Raised
  | valueError (text : String)
  | provider (error : ProviderError)
  deriving DecidableEq, Repr

variable (u : PyUnicode)

/-! ## Reading the answer -/

/-- A provider error which is neither retried nor reviewed. -/
def rejection (code : String) : Raised := .provider ⟨code, false, false⟩

/-- A provider error somebody has to look at. -/
def reviewed (code : String) : Raised := .provider ⟨code, false, true⟩

/-- `_mapping`. -/
def mapping : Json → Except Raised (List (String × Json))
  | .obj fields => .ok fields
  | _ => .error (reviewed "ALIEXPRESS_RESPONSE_INCOMPATIBLE")

/-- `_list`. -/
def list : Json → Except Raised (List Json)
  | .arr items => .ok items
  | _ => .error (reviewed "ALIEXPRESS_RESPONSE_INCOMPATIBLE")

/-- `_optional_text`. -/
def optionalText : Json → Except Raised (Option Text)
  | .null => .ok none
  | .str t => .ok (if t.strip = [] then none else some t.strip)
  | _ => .error (reviewed "ALIEXPRESS_RESPONSE_INCOMPATIBLE")

/-- `_required_text` and `_required_promotion_link`: they differ in what they raise
where the text is missing. -/
def requiredText (missing : Raised) (value : Json) : Except Raised Text := do
  let text ← optionalText value
  orRaise text missing

/-- `_require_success_code` of a code that has to be there. -/
def requireSuccessCode (value : Json) (expected : Text) : Except Raised Unit := do
  let code ← value.printed (.valueError Json.digitLimit)
  check (code = some expected) (rejection "ALIEXPRESS_API_REJECTED")

/-- `_require_success_code(…, optional=True)`. -/
def requireOptionalSuccessCode : Json → Text → Except Raised Unit
  | .null, _ => .ok ()
  | value, expected => requireSuccessCode value expected

/-- `_body`. -/
def body (payload : List (String × Json)) (wrapper : String) :
    Except Raised (List (String × Json)) :=
  match Json.get payload wrapper with
  | .null => .ok payload
  | wrapped => mapping wrapped

/-- `_resp_result`. -/
def respResult (payload : List (String × Json)) (wrapper : String) :
    Except Raised (List (String × Json)) := do
  let body ← body payload wrapper
  requireOptionalSuccessCode (Json.get payload "code") "0".toList
  let response ← mapping (Json.get body "resp_result")
  requireSuccessCode (Json.get response "resp_code") "200".toList
  mapping (Json.get response "result")

/-- `PROMOTION_LINK_HOSTS`. -/
def promotionLinkHosts : List Text := ["s.click.aliexpress.com".toList]

/-- The checks of `_validate_promotion_link`, of an address that splits. -/
def IsPromotionLink (parts : SplitResult) (port : Option Nat) : Prop :=
  parts.scheme = "https".toList ∧
    ((parts.hostname u).getD [] ≠ [] ∧
      u.casefold ((parts.hostname u).getD []) ∈ promotionLinkHosts) ∧
    parts.username = none ∧ parts.password = none ∧ port ∈ [none, some 443]

instance (parts : SplitResult) (port : Option Nat) : Decidable (IsPromotionLink u parts port) :=
  inferInstanceAs (Decidable (_ ∧ _))

/-- `_validate_promotion_link`. -/
def validatePromotionLink (url : Text) : Except Raised Unit := do
  let split ← orRaise ((urlsplit u url).bind fun parts => parts.port.map fun port => (parts, port))
    (rejection "ALIEXPRESS_PROMOTION_LINK_INVALID")
  check (IsPromotionLink u split.1 split.2) (rejection "ALIEXPRESS_PROMOTION_LINK_INVALID")

/-- `PromotionLinkMapping`. -/
structure PromotionLinkMapping where
  sourceValue : Text
  promotionLink : Text
  deriving DecidableEq, Repr

/-- `_aliexpress_product_id`. -/
def aliexpressProductId (value : Text) : Option Text :=
  if (canonicalizeStoreUrl u value).store = some .aliexpress then
    (canonicalizeStoreUrl u value).externalProductId
  else none

/-- One turn of the loop over `promotion_links`: the product id and the link of an item. -/
def parseItem (requestedIds : List Text) (byProductId : List (Text × PromotionLinkMapping))
    (raw : Json) : Except Raised (Text × PromotionLinkMapping) := do
  let item ← mapping raw
  let source ← requiredText (rejection "ALIEXPRESS_SOURCE_VALUE_MISSING")
    (Json.get item "source_value")
  let productId ← orRaise (aliexpressProductId u source)
    (rejection "ALIEXPRESS_PROMOTION_LINK_SOURCE_UNKNOWN")
  check (byProductId.lookup productId = none)
    (rejection "ALIEXPRESS_PROMOTION_LINK_SOURCE_DUPLICATED")
  check (productId ∈ requestedIds) (rejection "ALIEXPRESS_PROMOTION_LINK_SOURCE_UNKNOWN")
  let link ← requiredText (reviewed promotionLinkUnavailableReviewRequired)
    (Json.get item "promotion_link")
  validatePromotionLink u link
  return (productId, ⟨source, link⟩)

/-- The loop over `promotion_links`. -/
def parseItems (requestedIds : List Text) :
    List (Text × PromotionLinkMapping) → List Json →
      Except Raised (List (Text × PromotionLinkMapping))
  | byProductId, [] => .ok byProductId
  | byProductId, raw :: raws => do
    let entry ← parseItem u requestedIds byProductId raw
    parseItems requestedIds (entry :: byProductId) raws

/-- The tracking of the answer is the expected one. -/
def confirmTracking (returned : Json) (expected : Text) : Except Raised Unit :=
  match returned with
  | .null | .str [] => .error (reviewed "ALIEXPRESS_TRACKING_UNCONFIRMED")
  | .str t => check (t = expected) (reviewed "ALIEXPRESS_TRACKING_MISMATCH")
  | _ => .error (reviewed "ALIEXPRESS_TRACKING_RESPONSE_INVALID")

/-- `parse_link_generate`. -/
def parseLinkGenerate (payload : List (String × Json)) (requested : List Text)
    (expectedTrackingId : Text) : Except Raised (List PromotionLinkMapping) := do
  check (expectedTrackingId ≠ []) (.valueError "ALIEXPRESS_TRACKING_REQUIRED")
  let unusable := Raised.valueError "requested source values must be non-empty and unique"
  let requestedIds ← requested.mapM fun source => orRaise (aliexpressProductId u source) unusable
  check (requested ≠ [] ∧ requestedIds.Nodup) unusable
  let result ← respResult payload "aliexpress_affiliate_link_generate_response"
  confirmTracking (Json.get result "tracking_id") expectedTrackingId
  let rawLinks ← list (Json.get result "promotion_links")
  check (rawLinks.length = requested.length)
    (rejection "ALIEXPRESS_PROMOTION_LINK_COUNT_MISMATCH")
  let byProductId ← parseItems u requestedIds [] rawLinks
  requestedIds.mapM fun productId =>
    orRaise (byProductId.lookup productId) (rejection "ALIEXPRESS_PROMOTION_LINK_SOURCE_MISSING")

/-! ## What a parse guarantees -/

variable {u}

/-- The answer lists this link for this source. -/
def Lists (payload : List (String × Json)) (m : PromotionLinkMapping) : Prop :=
  ∃ result rawLinks item, respResult payload "aliexpress_affiliate_link_generate_response" =
      .ok result ∧
    Json.get result "promotion_links" = .arr rawLinks ∧ .obj item ∈ rawLinks ∧
    optionalText (Json.get item "source_value") = .ok (some m.sourceValue) ∧
    optionalText (Json.get item "promotion_link") = .ok (some m.promotionLink)

/-- An entry of the loop: the link an item of `rawLinks` gives for a source of that
product. -/
structure IsEntry (u : PyUnicode) (rawLinks : List Json)
    (entry : Text × PromotionLinkMapping) : Prop where
  productId : aliexpressProductId u entry.2.sourceValue = some entry.1
  listed : ∃ item, .obj item ∈ rawLinks ∧
    optionalText (Json.get item "source_value") = .ok (some entry.2.sourceValue) ∧
    optionalText (Json.get item "promotion_link") = .ok (some entry.2.promotionLink)

theorem mapping_eq_ok {value : Json} {fields : List (String × Json)}
    (h : mapping value = .ok fields) : value = .obj fields := by
  cases value with
  | obj fields' =>
    obtain rfl := Except.ok.inj h
    rfl
  | null | bool _ | int _ | number _ | str _ | arr _ => cases h

theorem list_eq_ok {value : Json} {items : List Json} (h : list value = .ok items) :
    value = .arr items := by
  cases value with
  | arr items' =>
    obtain rfl := Except.ok.inj h
    rfl
  | null | bool _ | int _ | number _ | str _ | obj _ => cases h

theorem requiredText_eq_ok {missing : Raised} {value : Json} {t : Text}
    (h : requiredText missing value = .ok t) : optionalText value = .ok (some t) := by
  obtain ⟨text, htext, h⟩ := bind_eq_ok.1 h
  rw [orRaise_eq_ok] at h
  rw [htext, h]

theorem isEntry_of_parseItem {requestedIds : List Text} {raw : Json} {rawLinks : List Json}
    {byProductId : List (Text × PromotionLinkMapping)} {entry : Text × PromotionLinkMapping}
    (h : parseItem u requestedIds byProductId raw = .ok entry) (hraw : raw ∈ rawLinks) :
    IsEntry u rawLinks entry := by
  obtain ⟨item, hitem, h⟩ := bind_eq_ok.1 h
  obtain ⟨source, hsource, h⟩ := bind_eq_ok.1 h
  obtain ⟨productId, hid, h⟩ := bind_eq_ok.1 h
  obtain ⟨-, -, h⟩ := bind_eq_ok.1 h
  obtain ⟨-, -, h⟩ := bind_eq_ok.1 h
  obtain ⟨link, hlink, h⟩ := bind_eq_ok.1 h
  obtain ⟨-, -, h⟩ := bind_eq_ok.1 h
  obtain rfl := Except.ok.inj h
  exact ⟨orRaise_eq_ok.1 hid, item, mapping_eq_ok hitem ▸ hraw, requiredText_eq_ok hsource,
    requiredText_eq_ok hlink⟩

/-- What holds of every item of an answer holds of every entry of the loop. -/
theorem forall_of_parseItems {P : Text × PromotionLinkMapping → Prop} {requestedIds : List Text}
    {raws : List Json} {byProductId entries : List (Text × PromotionLinkMapping)}
    (h : parseItems u requestedIds byProductId raws = .ok entries)
    (hitem : ∀ raw ∈ raws, ∀ byProductId entry,
      parseItem u requestedIds byProductId raw = .ok entry → P entry)
    (hby : ∀ e ∈ byProductId, P e) : ∀ e ∈ entries, P e := by
  induction raws generalizing byProductId with
  | nil =>
    obtain rfl := Except.ok.inj h
    exact hby
  | cons raw raws ih =>
    obtain ⟨entry, hentry, h⟩ := bind_eq_ok.1 h
    refine ih h (fun raw' hraw' => hitem raw' (List.mem_cons_of_mem raw hraw')) fun e he => ?_
    rcases List.mem_cons.1 he with rfl | he
    · exact hitem raw List.mem_cons_self _ _ hentry
    · exact hby e he

/-- **The links of an answer are matched by product.**  Where a parse succeeds, the link
given for a requested source is one the answer lists, and its source is an address of
the requested product --- wherever in the answer it stood. -/
theorem parseLinkGenerate_ok {payload : List (String × Json)} {requested : List Text}
    {trackingId : Text} {mappings : List PromotionLinkMapping}
    (h : parseLinkGenerate u payload requested trackingId = .ok mappings) :
    List.Forall₂ (fun source m => ∃ productId, aliexpressProductId u source = some productId ∧
      aliexpressProductId u m.sourceValue = some productId ∧ Lists payload m)
      requested mappings := by
  obtain ⟨-, -, h⟩ := bind_eq_ok.1 h
  obtain ⟨ids, hids, h⟩ := bind_eq_ok.1 h
  obtain ⟨-, -, h⟩ := bind_eq_ok.1 h
  obtain ⟨result, hresult, h⟩ := bind_eq_ok.1 h
  obtain ⟨-, -, h⟩ := bind_eq_ok.1 h
  obtain ⟨rawLinks, hraw, h⟩ := bind_eq_ok.1 h
  obtain ⟨-, -, h⟩ := bind_eq_ok.1 h
  obtain ⟨entries, hentries, h⟩ := bind_eq_ok.1 h
  have hentry : ∀ e ∈ entries, IsEntry u rawLinks e :=
    forall_of_parseItems hentries (fun _ hraw _ _ he => isEntry_of_parseItem he hraw)
      fun _ he => absurd he List.not_mem_nil
  have hlists : ∀ id m, entries.lookup id = some m →
      aliexpressProductId u m.sourceValue = some id ∧ Lists payload m := by
    intro id m hm
    obtain ⟨hid, item, hmem, hsource, hlink⟩ := hentry (id, m) (Lookup.mem_of_lookup hm)
    exact ⟨hid, result, rawLinks, item, hresult, list_eq_ok hraw, hmem, hsource, hlink⟩
  refine forall₂_chain (mapM_eq_ok.1 hids) (mapM_eq_ok.1 h) fun source id m hid hm => ?_
  rw [orRaise_eq_ok] at hid hm
  exact ⟨id, hid, hlists id m hm⟩

theorem validated_of_parseItem {requestedIds : List Text} {raw : Json}
    {byProductId : List (Text × PromotionLinkMapping)} {entry : Text × PromotionLinkMapping}
    (h : parseItem u requestedIds byProductId raw = .ok entry) :
    validatePromotionLink u entry.2.promotionLink = .ok () := by
  obtain ⟨item, -, h⟩ := bind_eq_ok.1 h
  obtain ⟨source, -, h⟩ := bind_eq_ok.1 h
  obtain ⟨productId, -, h⟩ := bind_eq_ok.1 h
  obtain ⟨-, -, h⟩ := bind_eq_ok.1 h
  obtain ⟨-, -, h⟩ := bind_eq_ok.1 h
  obtain ⟨link, -, h⟩ := bind_eq_ok.1 h
  obtain ⟨_, hvalid, h⟩ := bind_eq_ok.1 h
  obtain rfl := Except.ok.inj h
  exact hvalid

/-- **Every link of a parse passed its check.** -/
theorem validated_of_parseLinkGenerate {payload : List (String × Json)} {requested : List Text}
    {trackingId : Text} {mappings : List PromotionLinkMapping}
    (h : parseLinkGenerate u payload requested trackingId = .ok mappings) :
    ∀ m ∈ mappings, validatePromotionLink u m.promotionLink = .ok () := by
  obtain ⟨-, -, h⟩ := bind_eq_ok.1 h
  obtain ⟨ids, -, h⟩ := bind_eq_ok.1 h
  obtain ⟨-, -, h⟩ := bind_eq_ok.1 h
  obtain ⟨result, -, h⟩ := bind_eq_ok.1 h
  obtain ⟨-, -, h⟩ := bind_eq_ok.1 h
  obtain ⟨rawLinks, -, h⟩ := bind_eq_ok.1 h
  obtain ⟨-, -, h⟩ := bind_eq_ok.1 h
  obtain ⟨entries, hentries, h⟩ := bind_eq_ok.1 h
  have hentry := forall_of_parseItems hentries (fun _ _ _ _ he => validated_of_parseItem he)
    fun _ he => absurd he List.not_mem_nil
  intro m hm
  obtain ⟨id, -, hid⟩ := exists_of_mem_right (mapM_eq_ok.1 h) hm
  rw [orRaise_eq_ok] at hid
  exact hentry (id, m) (Lookup.mem_of_lookup hid)

/-- A check of the parts of an address passes exactly when it splits into parts that are
right. -/
theorem split_check_eq_ok {P : SplitResult → Option Nat → Prop}
    [∀ parts port, Decidable (P parts port)] {e e' : Raised} {url : Text} :
    (do
      let split ← orRaise ((urlsplit u url).bind fun parts =>
        parts.port.map fun port => (parts, port)) e
      check (P split.1 split.2) e') = .ok () ↔
      ∃ parts port, urlsplit u url = some parts ∧ parts.port = some port ∧ P parts port := by
  rw [bind_eq_ok]
  constructor
  · rintro ⟨⟨parts, port⟩, hsplit, hcheck⟩
    rw [orRaise_eq_ok] at hsplit
    obtain ⟨parts', hparts, hport⟩ := Option.bind_eq_some_iff.1 hsplit
    obtain ⟨port', hport', heq⟩ := Option.map_eq_some_iff.1 hport
    obtain ⟨rfl, rfl⟩ := Prod.mk.inj heq
    exact ⟨parts', port', hparts, hport', check_eq_ok.1 hcheck⟩
  · rintro ⟨parts, port, hparts, hport, hlink⟩
    exact ⟨(parts, port), orRaise_eq_ok.2 (by rw [hparts, Option.bind_some, hport]; rfl),
      check_eq_ok.2 hlink⟩

theorem validatePromotionLink_eq_ok {url : Text} : validatePromotionLink u url = .ok () ↔
    ∃ parts port, urlsplit u url = some parts ∧ parts.port = some port ∧
      IsPromotionLink u parts port :=
  split_check_eq_ok

end LinkGenerate
end PromoBot
