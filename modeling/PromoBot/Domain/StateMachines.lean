import Mathlib.Data.List.Basic

/-!
# Declared states and transition tables

The enumerations of `domain/enums.py` which the workflows below are driven by,
and the transition tables of `domain/state_machines.py`.  A table is a map from
a state to the states allowed after it; a state it does not mention has no
successor.

Times are whole microseconds, the resolution of the source's `datetime`.
-/

namespace PromoBot

/-- A point in time, in microseconds. -/
abbrev Instant := Int

/-- `timedelta(seconds=n)`. -/
def seconds (n : Int) : Int := n * 1000000

/-- `timedelta(minutes=n)`. -/
def minutes (n : Int) : Int := seconds (n * 60)

/-- `timedelta(hours=n)`. -/
def hours (n : Int) : Int := minutes (n * 60)

/-! ## Enumerations -/

/-- `Store`. -/
inductive Store
  | mercadolivre | amazon | shopee | aliexpress | kabum
  deriving DecidableEq, Repr

/-- `SourceMessageState`. -/
inductive SourceMessageState
  | received | processing | completed | failedRetryable | failedPermanent
  deriving DecidableEq, Repr

/-- `AffiliateCandidateState`. -/
inductive AffiliateCandidateState
  | pendingAffiliate | validating | awaitingAffiliateGeneration | generatingAffiliate
  | affiliateGenerated | enriched | failedRetryable | failedPermanent | manualReview
  deriving DecidableEq, Repr

/-- `RelayLinkState`. -/
inductive RelayLinkState
  | received | pendingAffiliate | manualReview | ignored | rejected
  deriving DecidableEq, Repr

/-- `DeliveryState`. -/
inductive DeliveryState
  | pending | sending | sent | failedRetryable | failedPermanent | deliveryAmbiguous
  | manualReview
  deriving DecidableEq, Repr

/-- `DeliveryPurpose`. -/
inductive DeliveryPurpose
  | internalReview | externalDisclosure
  deriving DecidableEq, Repr

/-- `DealState`. -/
inductive DealState
  | discovered | ready | stale | discarded | expired | error | manualReview
  deriving DecidableEq, Repr

/-- `ReviewState`. -/
inductive ReviewState
  | awaitingInternalReview | manuallyApproved | rejected | externalDisclosurePending
  | externallyDisclosed
  deriving DecidableEq, Repr

/-! ## Transition tables -/

/-- `SOURCE_MESSAGE_TRANSITIONS`. -/
def sourceMessageTransitions : SourceMessageState → List SourceMessageState
  | .received => [.processing, .failedPermanent]
  | .processing => [.completed, .failedRetryable, .failedPermanent]
  | .failedRetryable => [.processing, .failedPermanent]
  | _ => []

/-- `AFFILIATE_CANDIDATE_TRANSITIONS`. -/
def affiliateCandidateTransitions : AffiliateCandidateState → List AffiliateCandidateState
  | .pendingAffiliate => [.validating]
  | .validating =>
    [.awaitingAffiliateGeneration, .enriched, .failedRetryable, .failedPermanent, .manualReview]
  | .awaitingAffiliateGeneration => [.generatingAffiliate, .failedPermanent, .manualReview]
  | .generatingAffiliate => [.enriched, .failedRetryable, .failedPermanent, .manualReview]
  | .failedRetryable => [.validating, .failedPermanent]
  | .manualReview => [.pendingAffiliate]
  | _ => []

/-- `DELIVERY_TRANSITIONS`. -/
def deliveryTransitions : DeliveryState → List DeliveryState
  | .pending => [.sending, .failedPermanent]
  | .sending => [.sent, .failedRetryable, .failedPermanent, .deliveryAmbiguous]
  | .failedRetryable => [.sending, .failedPermanent]
  | .deliveryAmbiguous => [.manualReview]
  | .manualReview => [.sent, .failedPermanent]
  | _ => []

end PromoBot
