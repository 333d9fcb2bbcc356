import PromoBot.Database.ShadowDeliveries
import PromoBot.Lib.TransitionSystem

/-!
# Shadow delivery

`ShadowDeliveryService._deliver` (`affiliate/shadow_delivery.py`) and
`CoinShadowDeliveryService._deliver` with `_deliver_reserved`
(`affiliate/coin_shadow_delivery.py`), run by any number of calls on one
database.  A call reserves its delivery, checks the preview and the channel,
marks the row as sending, sends, and records the outcome; each of these is a
transaction of its own or none, so everything else may happen in between, and
the process may die at every point.

The two services do the same in a different order: the canonical one marks the
row first and then runs `before_send`, the coin one the other way round.  What a
check finds (`_validated_text`, the channel inspection, the history) is left to
the schedule; what matters here is how it ends.
-/

namespace PromoBot
namespace Shadow

/-! ## The two services -/

/-- Which service a call is made on; `multi` is `deliver_multi_automatic`. -/
inductive Service
  | canonical
  | coin (multi : Bool)
  deriving DecidableEq, Repr

/-- What a delivery is reserved for: a source message and a destination key, or two
fingerprints. -/
inductive DeliveryKey
  | canonical (sourceMessageId : Nat) (destinationKey : Text)
  | coin (sourceMessageFingerprint destinationFingerprint : Text)
  deriving DecidableEq, Repr

/-- A reserved delivery. -/
structure Job where
  service : Service
  deliveryId : Nat
  chatId : Text
  key : DeliveryKey
  deriving DecidableEq, Repr

/-- The points of a delivery between two of which something else may happen. -/
inductive Stage
  /-- The preview and the channel are checked. -/
  | preflight
  /-- Before `mark_sending`. -/
  | marking
  /-- `before_send` is running. -/
  | beforeSend
  /-- Before `send_text`. -/
  | sending
  /-- `send_text` is running. -/
  | inTransport
  deriving DecidableEq, Repr

/-- The stage after a stage that succeeded. -/
def Service.next : Service → Stage → Stage
  | .canonical, .preflight => .marking
  | .canonical, .marking => .beforeSend
  | .canonical, .beforeSend => .sending
  | .coin _, .preflight => .beforeSend
  | .coin _, .beforeSend => .marking
  | .coin _, .marking => .sending
  | _, .sending | _, .inTransport => .inTransport

/-- `persisted_state == "sending"`, or `sending`. -/
def Service.marked : Service → Stage → Bool
  | .canonical, .beforeSend => true
  | _, .sending | _, .inTransport => true
  | _, _ => false

/-- The exceptions a delivery tells apart. -/
inductive Raised
  /-- `ShadowDeliveryRejected` or `CoinShadowDeliveryRejected`. -/
  | rejected (code : String)
  /-- `DefinitiveSendRejection`. -/
  | definitive
  /-- `asyncio.CancelledError`. -/
  | cancelled
  /-- Any other `Exception`. -/
  | other
  deriving DecidableEq, Repr

/-- The outcome a call is about to record; `raises` when it goes on to raise. -/
structure Closing where
  state : ShadowDeliveryState
  errorCode : Option String
  messageId : Option Text
  marked : Bool
  raises : Bool
  deriving DecidableEq, Repr

/-- The `except` clauses. -/
def Service.closing (service : Service) (stage : Stage) (raised : Raised) : Closing :=
  let marked := service.marked stage
  let unknown : ShadowDeliveryState := if marked then .uncertain else .failedSafe
  match service, raised with
  | _, .rejected code => ⟨.failedSafe, some code, none, marked, false⟩
  | .canonical, .definitive => ⟨.failedSafe, some "SHADOW_SEND_REJECTED", none, marked, false⟩
  | .coin _, .definitive => ⟨.failedSafe, some "COIN_SHADOW_SEND_REJECTED", none, marked, false⟩
  | .canonical, .cancelled => ⟨unknown, some "SHADOW_DELIVERY_CANCELLED", none, marked, true⟩
  | .coin _, .cancelled => ⟨unknown, some "COIN_SHADOW_DELIVERY_CANCELLED", none, marked, true⟩
  | .canonical, .other =>
    ⟨unknown, some (if marked then "SHADOW_SEND_UNCERTAIN" else "SHADOW_PREFLIGHT_FAILED"),
      none, marked, false⟩
  | .coin _, .other =>
    ⟨unknown, some (if marked then "COIN_SHADOW_SEND_UNCERTAIN"
      else "COIN_SHADOW_CHANNEL_PREFLIGHT_FAILED"), none, marked, false⟩

/-- `re.fullmatch(r"[1-9][0-9]*", message_id)`. -/
def IsMessageId : Text → Prop
  | [] => False
  | c :: rest => ('1' ≤ c ∧ c ≤ '9') ∧ ∀ d ∈ rest, '0' ≤ d ∧ d ≤ '9'

instance : DecidablePred IsMessageId := fun t => by
  cases t <;> unfold IsMessageId <;> infer_instance

/-- What follows the answer of `send_text`. -/
def Service.answered (service : Service) (messageId : Text) : Closing :=
  if IsMessageId messageId then ⟨.sent, none, some messageId, true, false⟩
  else service.closing .inTransport .other

/-- What a call returns: the status and the error code of its report. -/
structure Report where
  status : ShadowDeliveryState
  errorCode : Option String
  deriving DecidableEq, Repr

/-- The report after `_finish`, which says whether the outcome was `saved`. -/
def Service.report (service : Service) (c : Closing) (saved : Bool) : Report :=
  match service with
  | .canonical =>
    if saved then ⟨c.state, c.errorCode⟩
    else ⟨if c.marked then .uncertain else .failedSafe, some "SHADOW_RESULT_PERSIST_FAILED"⟩
  | .coin _ =>
    if c.state = .sent ∧ saved = false then
      ⟨.uncertain, some "COIN_SHADOW_RESULT_PERSIST_FAILED"⟩
    else ⟨c.state, c.errorCode⟩

/-- The report of a call which found the delivery reserved. -/
def Service.alreadyAttempted (service : Service) (state : ShadowDeliveryState) : Report where
  status := if state = .sending then .uncertain else state
  errorCode :=
    match service with
    | .canonical => some "SHADOW_DELIVERY_ALREADY_ATTEMPTED"
    | .coin _ => some "COIN_SHADOW_DELIVERY_ALREADY_ATTEMPTED"

/-- The report of a call without a usable preview. -/
def Service.noPreview : Service → Report
  | .canonical => ⟨.failedSafe, some "SHADOW_PREVIEW_NOT_FOUND"⟩
  | .coin _ => ⟨.failedSafe, some "COIN_SHADOW_PREVIEW_NOT_READY"⟩

/-! ## The system -/

/-- Where a call stands. -/
inductive Call
  | idle
  | active (job : Job) (stage : Stage)
  | closing (job : Job) (c : Closing)
  /-- Returned a report. -/
  | returned (report : Report)
  /-- Raised, or dead. -/
  | gone
  deriving DecidableEq, Repr

/-- The keys a delivery is reserved under: the SHA-256 of the chat, and its keyed
fingerprint. -/
structure DestinationKeys where
  destinationKey : Text → Text
  destinationFingerprint : Text → Text

/-- The database, the calls, and the invocations of `send_text` so far, with the call
each was made by. -/
structure ShadowWorld where
  previews : SqlTable Nat ShadowPreview
  coinPreviews : SqlTable Nat CoinShadowPreview
  coinMultiPreviews : SqlTable Nat CoinShadowPreview
  deliveries : ShadowDeliveries Nat
  coinDeliveries : ShadowDeliveries Text
  calls : Nat → Call
  sent : List (Nat × Job)

/-- What can happen next. -/
inductive Action
  /-- Other parts of the program write and purge previews. -/
  | previews (previews : SqlTable Nat ShadowPreview)
      (coinPreviews coinMultiPreviews : SqlTable Nat CoinShadowPreview)
  /-- A purge forgets the previews of coin deliveries. -/
  | purge (previewIds multiPreviewIds : List Nat)
  /-- Call `p` runs up to the end of its first transaction.  `ready` says what the
  preview repository finds, `historyOk` that the history part does not raise. -/
  | start (p : Nat) (service : Service) (previewId : Nat) (chatId : Text) (now : Instant)
      (ready historyOk : Bool)
  /-- The checks, or `before_send`, of call `p` succeed. -/
  | proceed (p : Nat)
  /-- Call `p` runs `mark_sending`. -/
  | markSending (p : Nat) (now : Instant) (historyOk : Bool)
  /-- Call `p` invokes `send_text`. -/
  | sendText (p : Nat)
  /-- `send_text` returns. -/
  | answer (p : Nat) (messageId : Text)
  /-- Something in call `p` raises. -/
  | raise (p : Nat) (raised : Raised)
  /-- Call `p` is cancelled while it records that the message was sent.  Only the coin
  service catches this. -/
  | cancelFinish (p : Nat)
  /-- Call `p` runs `_finish`. -/
  | finish (p : Nat) (now : Instant) (historyOk : Bool)
  /-- Call `p` dies. -/
  | crash (p : Nat)

namespace ShadowWorld

/-- The world after call `p` moved on to `c`. -/
def withCall (w : ShadowWorld) (p : Nat) (c : Call) : ShadowWorld :=
  { w with calls := Function.update w.calls p c }

/-- `mark_sending` of the repository of the job. -/
def markSending (w : ShadowWorld) (job : Job) (now : Instant) (historyOk : Bool) :
    Option ShadowWorld :=
  match job.service with
  | .canonical =>
    (ShadowDeliveryRepository.markSending w.deliveries job.deliveryId now historyOk).map
      fun t => { w with deliveries := t }
  | .coin _ =>
    (CoinShadowDeliveryRepository.markSending w.coinDeliveries job.deliveryId now historyOk).map
      fun t => { w with coinDeliveries := t }

/-- `finish` of the repository of the job. -/
def finish (w : ShadowWorld) (job : Job) (c : Closing) (now : Instant) (historyOk : Bool) :
    Option ShadowWorld :=
  match job.service with
  | .canonical =>
    (ShadowDeliveryRepository.finish w.deliveries job.deliveryId c.state now c.errorCode
      c.messageId historyOk).map fun t => { w with deliveries := t }
  | .coin _ =>
    (CoinShadowDeliveryRepository.finish w.coinDeliveries job.deliveryId c.state now c.errorCode
      c.messageId historyOk).map fun t => { w with coinDeliveries := t }

/-- What a call does after `reserve`: go on with a reservation it created, and return
otherwise. -/
def reserved {σ : Type} (service : Service) (chatId : Text) (key : σ → Text → DeliveryKey)
    (r : ShadowDeliveries.Reserved σ) : Call :=
  if r.created then
    .active ⟨service, r.id, chatId, key r.row.source r.row.destination⟩ .preflight
  else .returned (service.alreadyAttempted r.row.state)

/-- The first transaction of `_deliver`. -/
def start (keys : DestinationKeys) (w : ShadowWorld) (p : Nat) (service : Service)
    (previewId : Nat) (chatId : Text) (now : Instant) (ready historyOk : Bool) : ShadowWorld :=
  match service with
  | .canonical =>
    if (w.previews.get? previewId).isNone then w.withCall p (.returned service.noPreview)
    else
      match ShadowDeliveryRepository.reserve w.previews w.deliveries previewId
        (keys.destinationKey chatId) now historyOk with
      | some r =>
        { w with deliveries := r.table }.withCall p (reserved service chatId .canonical r)
      | none => w.withCall p .gone
  | .coin multi =>
    if ready = false then w.withCall p (.returned service.noPreview)
    else
      match CoinShadowDeliveryRepository.reserve w.coinPreviews w.coinMultiPreviews
        w.coinDeliveries previewId (keys.destinationFingerprint chatId) multi historyOk with
      | some r =>
        { w with coinDeliveries := r.table }.withCall p (reserved service chatId .coin r)
      | none => w.withCall p .gone

end ShadowWorld

def step (keys : DestinationKeys) (w : ShadowWorld) : Action → Option ShadowWorld
  | .previews previews coinPreviews coinMultiPreviews =>
    some { w with
      previews := previews
      coinPreviews := coinPreviews
      coinMultiPreviews := coinMultiPreviews }
  | .purge previewIds multiPreviewIds =>
    some { w with coinDeliveries :=
      CoinShadowDeliveryRepository.forgetPreviews w.coinDeliveries previewIds multiPreviewIds }
  | .start p service previewId chatId now ready historyOk =>
    if w.calls p = .idle then
      some (w.start keys p service previewId chatId now ready historyOk)
    else none
  | .proceed p =>
    match w.calls p with
    | .active job .preflight => some (w.withCall p (.active job (job.service.next .preflight)))
    | .active job .beforeSend => some (w.withCall p (.active job (job.service.next .beforeSend)))
    | _ => none
  | .markSending p now historyOk =>
    match w.calls p with
    | .active job .marking =>
      match w.markSending job now historyOk with
      | some w' => some (w'.withCall p (.active job (job.service.next .marking)))
      | none => some (w.withCall p (.closing job (job.service.closing .marking .other)))
    | _ => none
  | .sendText p =>
    match w.calls p with
    | .active job .sending =>
      some { w.withCall p (.active job .inTransport) with sent := (p, job) :: w.sent }
    | _ => none
  | .answer p messageId =>
    match w.calls p with
    | .active job .inTransport =>
      some (w.withCall p (.closing job (job.service.answered messageId)))
    | _ => none
  | .raise p raised =>
    match w.calls p with
    | .active job stage => some (w.withCall p (.closing job (job.service.closing stage raised)))
    | _ => none
  | .cancelFinish p =>
    match w.calls p with
    | .closing ⟨.coin multi, deliveryId, chatId, key⟩ ⟨.sent, _, _, _, _⟩ =>
      some (w.withCall p (.closing ⟨.coin multi, deliveryId, chatId, key⟩
        (Service.closing (.coin multi) .inTransport .cancelled)))
    | _ => none
  | .finish p now historyOk =>
    match w.calls p with
    | .closing job c =>
      let after (saved : Bool) : Call :=
        if c.raises then .gone else .returned (job.service.report c saved)
      match w.finish job c now historyOk with
      | some w' => some (w'.withCall p (after true))
      | none => some (w.withCall p (after false))
    | _ => none
  | .crash p =>
    match w.calls p with
    | .active _ _ | .closing _ _ => some (w.withCall p .gone)
    | _ => none

/-- Any number of deliveries, from empty delivery tables on. -/
def system (keys : DestinationKeys) : TransitionSystem ShadowWorld Action where
  init w := w.deliveries = ∅ ∧ w.coinDeliveries = ∅ ∧ (∀ p, w.calls p = .idle) ∧ w.sent = []
  step := step keys

end Shadow
end PromoBot
