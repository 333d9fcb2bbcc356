import PromoBot.Database.Deliveries
import PromoBot.Lib.Tickets
import PromoBot.Lib.TransitionSystem

/-!
# The production outbox

`DealDeliveryService.send` of `delivery/service.py`, run by any number of calls
against one `deliveries` table while the sweep and the rest of the program act
in between.  A call has three steps which commit separately: the claim, the
transport call, and the transaction that records its outcome.  It may crash
before each of them; a restart is that every call in progress crashes.
-/

namespace PromoBot
namespace DealDelivery

open SqlTable DeliveryRepository

/-! ## The publication gate -/

/-- What the gate reads of a deal (`DealModel`). -/
structure Deal where
  affiliateProofId : Option Nat
  status : DealState
  currency : Text
  available : Option Bool
  affiliateLink : Option Text
  reviewState : ReviewState

/-- What the gate reads of an affiliate proof (`AffiliateLinkProofModel`). -/
structure Proof where
  shortLink : Text
  provider : Text
  officialResponseValidated : Bool
  generationState : Text

/-- What the service reads of the settings (`EnvironmentSettings`). -/
structure Settings where
  dryRun : Bool
  publishRealDeals : Bool
  publishWithoutAffiliate : Bool
  telegramTargetChatId : Option Text
  telegramRetryAfterMaxSeconds : Int

/-- `PublicationContext`. -/
structure PublicationContext where
  providerEnabled : Bool
  affiliateMode : Text
  credentialsValid : Bool
  hourlyCapacityAvailable : Bool

/-- The condition `assert_publication_allowed` demands. -/
def PublicationAllowed (settings : Settings) (context : PublicationContext) (deal : Deal)
    (proofId : Nat) (proof : Proof) (delivery : Delivery) : Prop :=
  context.providerEnabled ∧ context.affiliateMode = "official_api".toList ∧
    context.credentialsValid ∧ context.hourlyCapacityAvailable ∧ ¬ settings.dryRun ∧
    settings.publishRealDeals ∧ ¬ settings.publishWithoutAffiliate ∧ deal.status = .ready ∧
    deal.currency = "BRL".toList ∧ deal.available = some true ∧ deal.affiliateLink ≠ none ∧
    deal.affiliateLink ≠ some [] ∧ deal.affiliateLink = some proof.shortLink ∧
    deal.affiliateProofId = some proofId ∧ settings.telegramTargetChatId ≠ none ∧
    settings.telegramTargetChatId = some delivery.targetChatId ∧
    delivery.purpose = .internalReview ∧ deal.reviewState = .awaitingInternalReview ∧
    proof.provider = "shopee_official".toList ∧ proof.officialResponseValidated ∧
    proof.generationState = "CONFIRMED".toList

instance (settings : Settings) (context : PublicationContext) (deal : Deal) (proofId : Nat)
    (proof : Proof) (delivery : Delivery) :
    Decidable (PublicationAllowed settings context deal proofId proof delivery) := by
  unfold PublicationAllowed; infer_instance

/-! ## One call of `send` -/

/-- The service object a call is made on. -/
structure DealDeliveryService where
  settings : Settings
  publicationContext : PublicationContext
  maxAttempts : Nat
  leaseMinutes : Int

/-- The database: the outbox, and the tables the gate reads. -/
structure Db where
  deliveries : Deliveries
  deals : SqlTable Nat Deal
  proofs : SqlTable Nat Proof

/-- The first transaction of `send`: the gate, then the claim.  `none` when it
raised or when no row was claimed. -/
def begin' (service : DealDeliveryService) (db : Db) (deliveryId : Nat) (now : Instant) :
    Option Deliveries := do
  let delivery ← db.deliveries.get? deliveryId
  let deal ← db.deals.get? delivery.dealId
  let proofId ← deal.affiliateProofId
  let proof ← db.proofs.get? proofId
  if PublicationAllowed service.settings service.publicationContext deal proofId proof
      delivery then
    claim db.deliveries deliveryId now (now + minutes service.leaseMinutes) service.maxAttempts
  else
    none

/-- How `transport.send` ended: with a message id, or with one of the exceptions
of `DealMessageTransport`, or with any other exception. -/
inductive SendResult
  | messageId (messageId : Text)
  | rateLimited (retryAfter : Int)
  | retryableBeforeSend (code : String)
  | ambiguous (code : String)
  | permanent (code : String)
  | unexpected
  deriving DecidableEq, Repr

/-- The two results after which the delivery may be sent again. -/
def SendResult.Retryable : SendResult → Prop
  | .rateLimited _ | .retryableBeforeSend _ => True
  | _ => False

instance : DecidablePred SendResult.Retryable := fun r => by
  cases r <;> unfold SendResult.Retryable <;> infer_instance

/-- The transaction of `send` after the transport call; `none` when it raised.  A
blank message id is an ambiguous delivery.  Delays are clamped to what the
settings allow. -/
def record (service : DealDeliveryService) (t : Deliveries) (deliveryId : Nat) (now : Instant) :
    SendResult → Option Deliveries
  | .messageId m =>
    if m.strip = [] then
      markAmbiguous t deliveryId now "TELEGRAM_RESPONSE_WITHOUT_MESSAGE_ID"
    else markSent t deliveryId m now
  | .rateLimited retryAfter =>
    markRetryable t deliveryId now
      (now + min (max 0 retryAfter) (seconds service.settings.telegramRetryAfterMaxSeconds))
      "TELEGRAM_RATE_LIMITED"
  | .retryableBeforeSend code => markRetryable t deliveryId now (now + seconds 2) code
  | .ambiguous code => markAmbiguous t deliveryId now code
  | .permanent code => markPermanent t deliveryId now code
  | .unexpected => none

/-- How an attempt ended: its outcome was recorded, recording it raised, or the
process died. -/
inductive Ending
  | recorded (r : SendResult)
  | raised (r : SendResult)
  | crashed
  deriving DecidableEq, Repr

/-- Where a call of `send` stands. -/
inductive Call
  /-- Not begun. -/
  | idle
  /-- Ended before a claim: the gate raised, or no row was claimed. -/
  | refused
  /-- The claim is committed, the transport not yet called. -/
  | claimed (deliveryId : Nat)
  /-- `transport.send` is running. -/
  | sending (deliveryId : Nat)
  /-- `transport.send` is over, its outcome not yet recorded. -/
  | answered (deliveryId : Nat) (r : SendResult)
  /-- Over. -/
  | ended (deliveryId : Nat) (how : Ending)
  deriving DecidableEq, Repr

/-- The delivery a call in progress has claimed. -/
def Call.attempt? : Call → Option Nat
  | .claimed d | .sending d | .answered d _ => some d
  | _ => none

/-! ## The system -/

/-- The database, the calls, and the deliveries `transport.send` was invoked for. -/
structure World where
  db : Db
  calls : Nat → Call
  sent : List Nat

/-- What can happen next. -/
inductive Action
  /-- `ensure_pending`, by whatever publishes a deal. -/
  | ensurePending (dealId : Nat) (idempotencyKey targetChatId : Text) (purpose : DeliveryPurpose)
  /-- Other parts of the program write deals and proofs. -/
  | external (deals : SqlTable Nat Deal) (proofs : SqlTable Nat Proof)
  /-- Call `p` of `send` runs up to the end of its first transaction. -/
  | start (p deliveryId : Nat) (now : Instant)
  /-- Call `p` invokes `transport.send`. -/
  | callTransport (p : Nat)
  /-- `transport.send` ends for call `p`. -/
  | transportEnds (p : Nat) (r : SendResult)
  /-- Call `p` runs the rest of `send`. -/
  | finish (p : Nat) (now : Instant)
  /-- The process of call `p` dies. -/
  | crash (p : Nat)
  /-- `mark_stale_sending_ambiguous`. -/
  | sweep (now : Instant)

namespace World

/-- The world after call `p` moved on to `c`. -/
def withCall (w : World) (p : Nat) (c : Call) : World :=
  { w with calls := Function.update w.calls p c }

/-- The world after a transaction on the outbox. -/
def withDeliveries (w : World) (t : Deliveries) : World :=
  { w with db := { w.db with deliveries := t } }

@[simp] theorem withCall_calls (w : World) (p : Nat) (c : Call) :
    (w.withCall p c).calls = Function.update w.calls p c := rfl

@[simp] theorem withCall_db (w : World) (p : Nat) (c : Call) : (w.withCall p c).db = w.db := rfl

@[simp] theorem withCall_sent (w : World) (p : Nat) (c : Call) :
    (w.withCall p c).sent = w.sent := rfl

@[simp] theorem withDeliveries_deliveries (w : World) (t : Deliveries) :
    (w.withDeliveries t).db.deliveries = t := rfl

@[simp] theorem withDeliveries_calls (w : World) (t : Deliveries) :
    (w.withDeliveries t).calls = w.calls := rfl

@[simp] theorem withDeliveries_sent (w : World) (t : Deliveries) :
    (w.withDeliveries t).sent = w.sent := rfl

end World

/-- One step; `service p` is the object call `p` is made on. -/
def step (service : Nat → DealDeliveryService) (w : World) : Action → Option World
  | .ensurePending dealId key chat purpose =>
    (ensurePending w.db.deliveries dealId key chat purpose).map w.withDeliveries
  | .external deals proofs => some { w with db := ⟨w.db.deliveries, deals, proofs⟩ }
  | .start p d now =>
    if w.calls p = .idle then
      match begin' (service p) w.db d now with
      | some t => some ((w.withDeliveries t).withCall p (.claimed d))
      | none => some (w.withCall p .refused)
    else none
  | .callTransport p =>
    match w.calls p with
    | .claimed d => some { w.withCall p (.sending d) with sent := d :: w.sent }
    | _ => none
  | .transportEnds p r =>
    match w.calls p with
    | .sending d => some (w.withCall p (.answered d r))
    | _ => none
  | .finish p now =>
    match w.calls p with
    | .answered d r =>
      match record (service p) w.db.deliveries d now r with
      | some t => some ((w.withDeliveries t).withCall p (.ended d (.recorded r)))
      | none => some (w.withCall p (.ended d (.raised r)))
    | _ => none
  | .crash p => (w.calls p).attempt?.map fun d => w.withCall p (.ended d .crashed)
  | .sweep now => some (w.withDeliveries (markStaleSendingAmbiguous w.db.deliveries now))

/-- The outbox, from an empty `deliveries` table on. -/
def system (service : Nat → DealDeliveryService) : TransitionSystem World Action where
  init w := w.db.deliveries = ∅ ∧ (∀ p, w.calls p = .idle) ∧ w.sent = []
  step := step service

end DealDelivery
end PromoBot
