import PromoBot.Providers.DiscoverySkuVerdicts
import PromoBot.Providers.LinkVerdicts

/-!
# The errors of the parsers

The callers of the nine parsers of responses handle a `ProviderError`, and leave what they were
doing undone when anything else is raised.  The parsers do raise something else: `Money` checks
its amount and its currency with a `ValueError`, a price with a unit may be blank, a number may
have more digits than the interpreter converts.

`parsers_closed_iff` says exactly when nothing else gets out: each field whose conversion would
fail in such a way stands after one that is refused.

## Why the order of the fields matters

A parser reads the fields of a response one after the other and stops at the first it does not
like.  If that one is refused with a `ProviderError`, whatever would have escaped from a later
field does not.  So it is not enough to know which fields are bad; the answer depends on which
comes first.  The verdicts of `Lib.Verdict` are what is known of a parser without its results:
the list, in the order of reading, of *refused* and *escapes*.  Each parser has its list beside
it, put together the way the parser is, by the steps of a `do` block and the turns of its
loops, and `Sheltered` is that the first verdict which is not *fine* is no escape.

The lists are about the payload, and are computed without the parser, so the right side of each
equivalence can be evaluated and says what to look for in a response.  `not_parsers_closed` has
two that get out: a fee below zero, and an identifier of 4301 digits.
-/

namespace PromoBot
namespace Parsing

open Fallible Verdict

/-- **When the errors of the parsers are closed.**  Each of the nine parsers returns or raises a
`ProviderError` exactly where every conversion which would escape is sheltered by a field, read
before it, that is refused. -/
theorem parsers_closed_iff (i : Interpreter) (clock : Nat → Instant)
    (payload : List (String × Json)) (currency shipToCountry trackingId source : Text)
    (requested : List Text) (expectedProductId : Option Text) :
    (RaisesOnly Handled (parseProductDetail i clock payload) ↔
      Sheltered (productPageVerdicts i payload
        "aliexpress_affiliate_productdetail_get_response")) ∧
    (RaisesOnly Handled (parseProductQuery i clock payload) ↔
      Sheltered (productPageVerdicts i payload "aliexpress_affiliate_product_query_response")) ∧
    (RaisesOnly HandledLink (LinkGenerate.parseLinkGenerate i.unicode payload requested trackingId) ↔
      Sheltered (linkGenerateVerdicts i.unicode payload requested trackingId)) ∧
    (RaisesOnly Handled (parseSkuDetail i payload) ↔ Sheltered (skuDetailVerdicts i payload)) ∧
    (RaisesOnly Handled (parseShipping i payload currency) ↔
      Sheltered (shippingVerdicts i payload currency)) ∧
    (RaisesOnly Handled (parsePromotionInfo i payload currency shipToCountry) ↔
      Sheltered (promotionInfoVerdicts i payload currency shipToCountry)) ∧
    (RaisesOnly HandledLink
        (CoinShadow.parseCoinShadowLinkGenerate i.unicode payload source trackingId) ↔
      Sheltered (coinVerdicts payload source trackingId)) ∧
    (RaisesOnly HandledPage (DiscoveryParser.parseDiscoveryProductQuery i.digit payload) ↔
      Sheltered (discoveryPageVerdicts payload "aliexpress_affiliate_product_query_response")) ∧
    (RaisesOnly Handled
        (DiscoverySkuParser.parseDiscoverySkuDetail i payload expectedProductId) ↔
      Sheltered (discoverySkuDetailVerdicts i payload expectedProductId)) := by
  refine ⟨?_, ?_, ?_, ?_, ?_, ?_, ?_, ?_, ?_⟩
  · exact raisesOnly_iff_sheltered (verdict_productPage i clock payload _)
  · exact raisesOnly_iff_sheltered (verdict_productPage i clock payload _)
  · exact raisesOnly_parseLinkGenerate i.unicode payload requested trackingId
  · exact raisesOnly_iff_sheltered (verdict_parseSkuDetail i payload)
  · exact raisesOnly_iff_sheltered (verdict_parseShipping i payload currency)
  · exact raisesOnly_iff_sheltered (verdict_parsePromotionInfo i payload currency shipToCountry)
  · exact raisesOnly_parseCoinShadowLinkGenerate i.unicode payload source trackingId
  · exact raisesOnly_iff_sheltered (pageVerdict_parseDiscoveryPage i payload _)
  · exact raisesOnly_iff_sheltered
      (verdict_parseDiscoverySkuDetail i payload expectedProductId)

/-- An interpreter, as far as a response of ASCII characters needs one, which decodes no text. -/
def asciiInterpreter : Interpreter where
  unicode := PyUnicode.ascii
  digit := fun _ => none
  isAlpha := Text.isAsciiLetter
  loads := fun _ => .error .valueError

/-- A response about shipping, with a fee below zero. -/
def negativeFee : List (String × Json) :=
  [("resp_result", .obj
    [("resp_code", .int 200), ("result", .obj [("shipping_fee", .str "-1".toList)])])]

/-- A page with one product, whose identifier is a text of 4301 digits. -/
def longIdentifier : List (String × Json) :=
  [("resp_result", .obj
    [("resp_code", .int 200), ("result", .obj
      [("products", .arr [.obj [("product_id", .str (List.replicate 4301 '1'))]])])])]

/-- **A `ValueError` gets out**: for a fee below zero from `Money`, and for a long identifier from
the conversion to an integer. -/
theorem not_parsers_closed :
    ¬ RaisesOnly Handled (parseShipping asciiInterpreter negativeFee "BRL".toList) ∧
    ¬ RaisesOnly HandledPage
      (DiscoveryParser.parseDiscoveryProductQuery asciiInterpreter.digit longIdentifier) := by
  rw [raisesOnly_iff, raisesOnly_iff]
  decide +kernel

end Parsing
end PromoBot
