import PromoBot.Providers.LinkGenerate

/-!
# The answer to a request for one coin link

`providers/aliexpress/coin_shadow.py`: a request names one short link, and its answer
has to list exactly one link, under the expected tracking.
-/

namespace PromoBot
namespace CoinShadow

open Fallible PyUrl LinkGenerate

/-- `CoinShadowCorrelationMode`. -/
inductive CoinShadowCorrelationMode
  | sourceValueExact | positionalSingleton
  deriving DecidableEq, Repr

/-- The values of `CoinShadowCorrelationMode`. -/
def CoinShadowCorrelationMode.value : CoinShadowCorrelationMode → String
  | .sourceValueExact => "SOURCE_VALUE_EXACT"
  | .positionalSingleton => "POSITIONAL_SINGLETON"

/-- `CoinShadowLinkResult`. -/
structure CoinShadowLinkResult where
  sourceValue : Text
  promotionLink : Text
  trackingConfirmed : Bool
  correlationMode : CoinShadowCorrelationMode
  deriving DecidableEq, Repr

/-- `_fail`. -/
def failed (suffix : String) : Raised := reviewed ("ALIEXPRESS_COIN_" ++ suffix)

/-- `[A-Za-z0-9]`. -/
def isCodeChar (c : Char) : Bool := Text.isAsciiLetter c || Text.isAsciiDigit c

/-- `[A-Za-z0-9]{7,8}`. -/
def code : Regex := .either (.times isCodeChar 8) (.times isCodeChar 7)

/-- `_COIN_SHORT`. -/
def coinShort : Regex :=
  .either (.seq (Regex.literal "https://s.click.aliexpress.com/e/_".toList) code)
    (.seq (Regex.literal "https://a.aliexpress.com/_".toList) code)

/-- `validate_coin_short`. -/
def validateCoinShort (value : Text) : Except Raised Text := do
  check (coinShort.fullMatches value = true) (.valueError "ALIEXPRESS_COIN_SHORT_INVALID")
  return value

/-- `_mapping`. -/
def mapping (suffix : String) : Json → Except Raised (List (String × Json))
  | .obj fields => .ok fields
  | _ => .error (failed suffix)

/-- `payload.get("code", "0")` says that the request was served, and otherwise an
`error_response` says more. -/
def checkCode (payload : List (String × Json)) : Except Raised Unit := do
  let code ← ((payload.lookup "code").getD (.str "0".toList)).printed (.valueError Json.digitLimit)
  check (code = some "0".toList)
    (failed (if (payload.lookup "error_response").isSome then "ERROR_RESPONSE" else "API_REJECTED"))

/-- `body.get("resp_result")`. -/
def respResult (payload body : List (String × Json)) : Except Raised (List (String × Json)) :=
  mapping (if (payload.lookup "error_response").isSome ∨ (body.lookup "error_response").isSome then
    "ERROR_RESPONSE" else "RESP_RESULT_INCOMPATIBLE") (Json.get body "resp_result")

/-- The single item of `promotion_links`. -/
def onlyLink : Json → Except Raised Json
  | .arr [item] => .ok item
  | _ => .error (failed "COUNT_MISMATCH")

/-- How the answer names its source. -/
def correlationMode (source : Text) : Json → Except Raised CoinShadowCorrelationMode
  | .null => .ok .positionalSingleton
  | .str t =>
    if t.strip = [] then .ok .positionalSingleton
    else if t = source then .ok .sourceValueExact
    else .error (failed "SOURCE_DIVERGENT")
  | _ => .error (failed "SOURCE_DIVERGENT")

/-- The link of the item, without the whitespace around it. -/
def returnedLink : Json → Except Raised Text
  | .str t =>
    if t.strip = [] then .error (failed "PROMOTION_LINK_INVALID") else .ok t.strip
  | _ => .error (failed "PROMOTION_LINK_INVALID")

variable (u : PyUnicode)

/-- The checks of `_validate_promotion_link`, of an address that splits. -/
def IsCoinPromotionLink (parts : SplitResult) (port : Option Nat) : Prop :=
  parts.scheme = "https".toList ∧
    parts.hostname u = some "s.click.aliexpress.com".toList ∧
    parts.username = none ∧ parts.password = none ∧ port ∈ [none, some 443] ∧ parts.path ≠ []

instance (parts : SplitResult) (port : Option Nat) :
    Decidable (IsCoinPromotionLink u parts port) :=
  inferInstanceAs (Decidable (_ ∧ _))

/-- `_validate_promotion_link`. -/
def validatePromotionLink (value : Text) : Except Raised Unit := do
  let split ← orRaise ((urlsplit u value).bind fun parts =>
    parts.port.map fun port => (parts, port)) (failed "PROMOTION_LINK_INVALID")
  check (IsCoinPromotionLink u split.1 split.2) (failed "PROMOTION_LINK_INVALID")

/-- `parse_coin_shadow_link_generate`. -/
def parseCoinShadowLinkGenerate (payload : List (String × Json))
    (sentSourceValue expectedTrackingId : Text) : Except Raised CoinShadowLinkResult := do
  let source ← validateCoinShort sentSourceValue
  check (expectedTrackingId ≠ []) (.valueError "ALIEXPRESS_COIN_TRACKING_REQUIRED")
  let body ← mapping "WRAPPER_INCOMPATIBLE"
    ((payload.lookup "aliexpress_affiliate_link_generate_response").getD (.obj payload))
  checkCode payload
  let response ← respResult payload body
  let code ← (Json.get response "resp_code").printed (.valueError Json.digitLimit)
  check (code = some "200".toList) (failed "API_REJECTED")
  let result ← mapping "RESULT_INCOMPATIBLE" (Json.get response "result")
  let raw ← onlyLink (Json.get result "promotion_links")
  let item ← mapping "PROMOTION_LINK_ITEM_INCOMPATIBLE" raw
  let mode ← correlationMode source (Json.get item "source_value")
  check ((Json.get result "tracking_id").text? = some expectedTrackingId)
    (failed "TRACKING_MISMATCH")
  let link ← returnedLink (Json.get item "promotion_link")
  validatePromotionLink u link
  check (link ≠ source) (failed "PROMOTION_LINK_EQUALS_SOURCE")
  return ⟨source, link, true, mode⟩

variable {u}

/-- **The link of a parse passed its check**, and the result names the source that was
sent. -/
theorem parseCoinShadowLinkGenerate_eq_ok {payload : List (String × Json)}
    {source trackingId : Text} {result : CoinShadowLinkResult}
    (h : parseCoinShadowLinkGenerate u payload source trackingId = .ok result) :
    validatePromotionLink u result.promotionLink = .ok () ∧ result.sourceValue = source ∧
      result.trackingConfirmed = true := by
  obtain ⟨source', hsource, h⟩ := bind_eq_ok.1 h
  obtain ⟨-, -, h⟩ := bind_eq_ok.1 h
  obtain ⟨body, -, h⟩ := bind_eq_ok.1 h
  obtain ⟨-, -, h⟩ := bind_eq_ok.1 h
  obtain ⟨response, -, h⟩ := bind_eq_ok.1 h
  obtain ⟨code, -, h⟩ := bind_eq_ok.1 h
  obtain ⟨-, -, h⟩ := bind_eq_ok.1 h
  obtain ⟨fields, -, h⟩ := bind_eq_ok.1 h
  obtain ⟨raw, -, h⟩ := bind_eq_ok.1 h
  obtain ⟨item, -, h⟩ := bind_eq_ok.1 h
  obtain ⟨mode, -, h⟩ := bind_eq_ok.1 h
  obtain ⟨-, -, h⟩ := bind_eq_ok.1 h
  obtain ⟨link, -, h⟩ := bind_eq_ok.1 h
  obtain ⟨_, hvalid, h⟩ := bind_eq_ok.1 h
  obtain ⟨-, -, h⟩ := bind_eq_ok.1 h
  obtain rfl := Except.ok.inj h
  obtain ⟨-, -, hsource⟩ := bind_eq_ok.1 hsource
  obtain rfl := Except.ok.inj hsource
  exact ⟨hvalid, rfl, rfl⟩

theorem validatePromotionLink_eq_ok {value : Text} : validatePromotionLink u value = .ok () ↔
    ∃ parts port, urlsplit u value = some parts ∧ parts.port = some port ∧
      IsCoinPromotionLink u parts port :=
  split_check_eq_ok

end CoinShadow
end PromoBot
