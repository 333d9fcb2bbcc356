import PromoBot.Providers.CoinShadow
import PromoBot.Providers.ParsingVerdicts

/-!
# What the parsers of links let escape

`parse_link_generate` and `parse_coin_shadow_link_generate` first ask for arguments that are
right, and then for the codes of the response.  Nothing else escapes: what they read of the
links themselves is refused where it is not right (`raisesOnly_parseItems`).
-/

namespace PromoBot
namespace Parsing

open Fallible LinkGenerate Verdict

variable (u : PyUnicode)

/-! ## Links -/

/-- What `parse_link_generate` reads before the links: its arguments, and the envelope. -/
def linkGenerateVerdicts (payload : List (String × Json)) (requested : List Text)
    (trackingId : Text) : List Verdict :=
  need (trackingId ≠ []) ::
    need (∀ source ∈ requested, (aliexpressProductId u source).isSome = true) ::
    need (requested ≠ [] ∧ (requested.filterMap (aliexpressProductId u)).Nodup) ::
    resultVerdicts payload "aliexpress_affiliate_link_generate_response"

theorem raisesOnly_requiredText {missing : LinkGenerate.Raised} (h : HandledLink missing)
    (value : Json) :
    RaisesOnly HandledLink (requiredText missing value) := by
  refine RaisesOnly.bind ?_ fun _ _ => raisesOnly_orRaise fun _ => h
  cases value with
  | null | str _ => exact raisesOnly_ok _
  | bool _ | int _ | number _ | arr _ | obj _ => exact raisesOnly_error trivial

theorem raisesOnly_mapping (value : Json) : RaisesOnly HandledLink (mapping value) := by
  cases value with
  | obj _ => exact raisesOnly_ok _
  | null | bool _ | int _ | number _ | str _ | arr _ => exact raisesOnly_error trivial

theorem raisesOnly_list (value : Json) : RaisesOnly HandledLink (list value) := by
  cases value with
  | arr _ => exact raisesOnly_ok _
  | null | bool _ | int _ | number _ | str _ | obj _ => exact raisesOnly_error trivial

theorem raisesOnly_validatePromotionLink (url : Text) :
    RaisesOnly HandledLink (validatePromotionLink u url) :=
  (raisesOnly_orRaise fun _ => trivial).bind fun _ _ => raisesOnly_check fun _ => trivial

theorem raisesOnly_parseItem (requestedIds : List Text)
    (byProductId : List (Text × PromotionLinkMapping)) (raw : Json) :
    RaisesOnly HandledLink (parseItem u requestedIds byProductId raw) := by
  refine (raisesOnly_mapping raw).bind fun item _ => ?_
  refine (raisesOnly_requiredText (handledLink_rejection _) _).bind fun source _ => ?_
  refine (raisesOnly_orRaise fun _ => trivial).bind fun productId _ => ?_
  refine (raisesOnly_check fun _ => trivial).bind fun _ _ => ?_
  refine (raisesOnly_check fun _ => trivial).bind fun _ _ => ?_
  refine (raisesOnly_requiredText (handledLink_reviewed _) _).bind fun link _ => ?_
  exact (raisesOnly_validatePromotionLink u link).bind fun _ _ => raisesOnly_ok _

theorem raisesOnly_parseItems (requestedIds : List Text) (raws : List Json)
    (byProductId : List (Text × PromotionLinkMapping)) :
    RaisesOnly HandledLink (parseItems u requestedIds byProductId raws) := by
  induction raws generalizing byProductId with
  | nil => exact raisesOnly_ok _
  | cons raw raws ih =>
    exact (raisesOnly_parseItem u requestedIds byProductId raw).bind fun entry _ => ih _

theorem raisesOnly_confirmTracking (returned : Json) (expected : Text) :
    RaisesOnly HandledLink (confirmTracking returned expected) := by
  unfold confirmTracking
  split
  · exact raisesOnly_error trivial
  · exact raisesOnly_error trivial
  · exact raisesOnly_check fun _ => trivial
  · exact raisesOnly_error trivial

theorem linkVerdict_productIds (requested : List Text) (text : String) :
    linkVerdict (requested.mapM fun source =>
        orRaise (aliexpressProductId u source) (LinkGenerate.Raised.valueError text)) =
      need (∀ source ∈ requested, (aliexpressProductId u source).isSome = true) := by
  rw [mapM_orRaise]
  unfold need
  split
  · rfl
  · rfl

theorem productIds_eq_ok {requested ids : List Text} {e : LinkGenerate.Raised}
    (h : (requested.mapM fun source => orRaise (aliexpressProductId u source) e) = .ok ids) :
    ids = requested.filterMap (aliexpressProductId u) := by
  rw [mapM_orRaise] at h
  split at h
  · exact (Except.ok.inj h).symm
  · cases h

/-- **What escapes `parse_link_generate`.** -/
theorem raisesOnly_parseLinkGenerate (payload : List (String × Json)) (requested : List Text)
    (trackingId : Text) :
    RaisesOnly HandledLink (parseLinkGenerate u payload requested trackingId) ↔
      Sheltered (linkGenerateVerdicts u payload requested trackingId) := by
  unfold parseLinkGenerate linkGenerateVerdicts
  refine raisesOnly_step (of_check_need id) fun _ _ => ?_
  refine raisesOnly_step (linkVerdict_productIds u requested _) fun ids hids => ?_
  obtain rfl := productIds_eq_ok u hids
  refine raisesOnly_step (of_check_need id) fun _ _ => ?_
  rw [← List.append_nil (resultVerdicts payload _)]
  refine raisesOnly_part (linkVerdict_respResult payload _) fun result _ => ?_
  refine iff_of_true ?_ sheltered_nil
  refine (raisesOnly_confirmTracking _ _).bind fun _ _ => ?_
  refine (raisesOnly_list _).bind fun rawLinks _ => ?_
  refine (raisesOnly_check fun _ => trivial).bind fun _ _ => ?_
  refine (raisesOnly_parseItems u _ rawLinks []).bind fun byProductId _ => ?_
  exact raisesOnly_mapM fun productId _ => raisesOnly_orRaise fun _ => trivial

/-! ## Coin links -/

/-- The body of a response about a coin link. -/
def coinBodyOf (payload : List (String × Json)) : Json :=
  (payload.lookup "aliexpress_affiliate_link_generate_response").getD (.obj payload)

/-- What `parse_coin_shadow_link_generate` reads before the link: its arguments, and the codes
of the envelope. -/
def coinVerdicts (payload : List (String × Json)) (sentSourceValue trackingId : Text) :
    List Verdict :=
  [need (CoinShadow.coinShort.fullMatches sentSourceValue = true), need (trackingId ≠ []),
    objectVerdict (coinBodyOf payload),
    codeVerdict "0".toList ((payload.lookup "code").getD (.str "0".toList)),
    objectVerdict (field (coinBodyOf payload) "resp_result"),
    printableVerdict (field (field (coinBodyOf payload) "resp_result") "resp_code")]

theorem handledLink_failed (suffix : String) : HandledLink (CoinShadow.failed suffix) := trivial

theorem linkVerdict_coinMapping (suffix : String) (value : Json) :
    linkVerdict (CoinShadow.mapping suffix value) = objectVerdict value := by
  cases value <;> rfl

theorem coinMapping_eq_ok {suffix : String} {value : Json} {fields : List (String × Json)}
    (h : CoinShadow.mapping suffix value = .ok fields) : value = .obj fields := by
  cases value with
  | obj _ => exact congrArg Json.obj (Except.ok.inj h)
  | null | bool _ | int _ | number _ | str _ | arr _ => cases h

theorem raisesOnly_coinMapping (suffix : String) (value : Json) :
    RaisesOnly HandledLink (CoinShadow.mapping suffix value) := by
  cases value with
  | obj _ => exact raisesOnly_ok _
  | null | bool _ | int _ | number _ | str _ | arr _ => exact raisesOnly_error trivial

theorem linkVerdict_validateCoinShort (value : Text) :
    linkVerdict (CoinShadow.validateCoinShort value) =
      need (CoinShadow.coinShort.fullMatches value = true) :=
  ((of_bind fun _ _ => of_ok _).trans (andThen_accepted _)).trans (of_check_need id)

theorem raisesOnly_onlyLink (value : Json) :
    RaisesOnly HandledLink (CoinShadow.onlyLink value) := by
  unfold CoinShadow.onlyLink
  split
  · exact raisesOnly_ok _
  · exact raisesOnly_error trivial

theorem raisesOnly_correlationMode (source : Text) (value : Json) :
    RaisesOnly HandledLink (CoinShadow.correlationMode source value) := by
  unfold CoinShadow.correlationMode
  repeat' split
  all_goals first
    | exact raisesOnly_ok _
    | exact raisesOnly_error trivial

theorem raisesOnly_returnedLink (value : Json) :
    RaisesOnly HandledLink (CoinShadow.returnedLink value) := by
  unfold CoinShadow.returnedLink
  repeat' split
  all_goals first
    | exact raisesOnly_ok _
    | exact raisesOnly_error trivial

theorem raisesOnly_validateCoinLink (value : Text) :
    RaisesOnly HandledLink (CoinShadow.validatePromotionLink u value) :=
  (raisesOnly_orRaise fun _ => trivial).bind fun _ _ => raisesOnly_check fun _ => trivial

/-- **What escapes `parse_coin_shadow_link_generate`.** -/
theorem raisesOnly_parseCoinShadowLinkGenerate (payload : List (String × Json))
    (sentSourceValue trackingId : Text) :
    RaisesOnly HandledLink
        (CoinShadow.parseCoinShadowLinkGenerate u payload sentSourceValue trackingId) ↔
      Sheltered (coinVerdicts payload sentSourceValue trackingId) := by
  unfold CoinShadow.parseCoinShadowLinkGenerate coinVerdicts coinBodyOf
  refine raisesOnly_step (linkVerdict_validateCoinShort _) fun source _ => ?_
  refine raisesOnly_step (of_check_need id) fun _ _ => ?_
  refine raisesOnly_step (linkVerdict_coinMapping _ _) fun body hbody => ?_
  rw [coinMapping_eq_ok hbody, field]
  refine raisesOnly_step (linkVerdict_code (handledLink_failed _) _ _) fun _ _ => ?_
  refine raisesOnly_step (linkVerdict_coinMapping _ _) fun response hresponse => ?_
  rw [coinMapping_eq_ok hresponse, field]
  refine raisesOnly_step (of_printed id _) fun code _ => ?_
  refine iff_of_true ?_ sheltered_nil
  refine (raisesOnly_check fun _ => handledLink_failed _).bind fun _ _ => ?_
  refine (raisesOnly_coinMapping _ _).bind fun result _ => ?_
  refine (raisesOnly_onlyLink _).bind fun raw _ => ?_
  refine (raisesOnly_coinMapping _ _).bind fun item _ => ?_
  refine (raisesOnly_correlationMode source _).bind fun mode _ => ?_
  refine (raisesOnly_check fun _ => handledLink_failed _).bind fun _ _ => ?_
  refine (raisesOnly_returnedLink _).bind fun link _ => ?_
  refine (raisesOnly_validateCoinLink u link).bind fun _ _ => ?_
  exact (raisesOnly_check fun _ => handledLink_failed _).bind fun _ _ => raisesOnly_ok _

end Parsing
end PromoBot
