import PromoBot.Affiliate.ShadowDelivery
import PromoBot.Providers.LinkGenerate

/-!
# What is charged, what is sent, and what is uncertain

The two delivery services once more, from one `await` to the next, together with the
budget of `ShadowRunController` (`affiliate/aliexpress_shadow_listener.py`): a call under a
controller is charged by `before_send_message`, which does not wait for anything.  The
canonical service charges a call when its row is marked as sending, right before
`send_text`; the coin service charges it before it marks the row.

A call whose `mark_sending` was committed has still to hear of it.  An exception that
reaches it at that moment finds `persisted_state`, or `sending`, as they were before.

`accounting_exact` says under which condition on its steps a run keeps its accounts: what is
uncertain was sent, and what was charged was sent.
-/

namespace PromoBot
namespace Shadow
namespace Accounting

open ShadowDeliveries SqlTable

/-! ## Deliveries -/

/-- The delivery tables, and the previews they were reserved for. -/
structure Tables where
  previews : SqlTable Nat ShadowPreview
  coinPreviews : SqlTable Nat CoinShadowPreview
  coinMultiPreviews : SqlTable Nat CoinShadowPreview
  deliveries : ShadowDeliveries Nat
  coinDeliveries : ShadowDeliveries Text

/-- A row of one of the two delivery tables. -/
inductive Delivery
  | canonical (id : Nat)
  | coin (id : Nat)
  deriving DecidableEq, Repr

/-- The row a call works on. -/
def delivery (service : Service) (id : Nat) : Delivery :=
  match service with
  | .canonical => .canonical id
  | .coin _ => .coin id

/-- The row of a job. -/
def jobDelivery (job : Job) : Delivery := delivery job.service job.deliveryId

namespace Tables

def state? (t : Tables) : Delivery → Option ShadowDeliveryState
  | .canonical id => (t.deliveries.get? id).map ShadowDelivery.state
  | .coin id => (t.coinDeliveries.get? id).map ShadowDelivery.state

/-- `mark_sending` of the repository of the job. -/
def markSending (t : Tables) (job : Job) (now : Instant) (historyOk : Bool) : Option Tables :=
  match job.service with
  | .canonical =>
    (ShadowDeliveryRepository.markSending t.deliveries job.deliveryId now historyOk).map
      fun deliveries => { t with deliveries := deliveries }
  | .coin _ =>
    (CoinShadowDeliveryRepository.markSending t.coinDeliveries job.deliveryId now historyOk).map
      fun deliveries => { t with coinDeliveries := deliveries }

/-- `finish` of the repository of the job. -/
def finish (t : Tables) (job : Job) (c : Closing) (now : Instant) (historyOk : Bool) :
    Option Tables :=
  match job.service with
  | .canonical =>
    (ShadowDeliveryRepository.finish t.deliveries job.deliveryId c.state now c.errorCode
      c.messageId historyOk).map fun deliveries => { t with deliveries := deliveries }
  | .coin _ =>
    (CoinShadowDeliveryRepository.finish t.coinDeliveries job.deliveryId c.state now c.errorCode
      c.messageId historyOk).map fun deliveries => { t with coinDeliveries := deliveries }

end Tables

/-- What the first transaction of `_deliver` comes to. -/
inductive Reservation
  | noPreview
  /-- A new reservation. -/
  | created (t : Tables) (job : Job)
  /-- One that was there, and its state. -/
  | found (d : Delivery) (state : ShadowDeliveryState)
  | raised

/-- What `reserve` answered. -/
def reserved {σ : Type} (service : Service) (chatId : Text) (key : σ → Text → DeliveryKey)
    (t : ShadowDeliveries σ → Tables) : Option (Reserved σ) → Reservation
  | some r =>
    if r.created then
      .created (t r.table) ⟨service, r.id, chatId, key r.row.source r.row.destination⟩
    else .found (delivery service r.id) r.row.state
  | none => .raised

/-- The first transaction of `_deliver`. -/
def Tables.reserve (keys : DestinationKeys) (t : Tables) (service : Service) (previewId : Nat)
    (chatId : Text) (now : Instant) (ready historyOk : Bool) : Reservation :=
  match service with
  | .canonical =>
    if (t.previews.get? previewId).isNone then .noPreview
    else reserved service chatId .canonical (fun table => { t with deliveries := table })
      (ShadowDeliveryRepository.reserve t.previews t.deliveries previewId
        (keys.destinationKey chatId) now historyOk)
  | .coin multi =>
    if ready = false then .noPreview
    else reserved service chatId .coin (fun table => { t with coinDeliveries := table })
      (CoinShadowDeliveryRepository.reserve t.coinPreviews t.coinMultiPreviews t.coinDeliveries
        previewId (keys.destinationFingerprint chatId) multi historyOk)

/-! ## The budget -/

/-- `before_send_message` of a controller with this limit and counter: the new counter, or
what it raises. -/
def beforeSendMessage (maxSendMessages sendMessages : Nat) : Except ProviderError Nat :=
  if maxSendMessages < 1 then .error ⟨"SHADOW_SEND_MESSAGE_LIMIT_DISABLED", false, false⟩
  else if maxSendMessages ≤ sendMessages then
    .error ⟨"SHADOW_SEND_MESSAGE_LIMIT_REACHED", false, false⟩
  else .ok (sendMessages + 1)

/-! ## The system -/

/-- Where a call stands; a report is about a delivery. -/
inductive Call
  | idle
  /-- The preview and the channel are checked. -/
  | preflight (job : Job)
  /-- At `mark_sending`. -/
  | marking (job : Job)
  /-- `mark_sending` was committed. -/
  | marked (job : Job)
  /-- `send_text` is running. -/
  | inTransport (job : Job)
  /-- At `_finish`. -/
  | closing (job : Job) (c : Closing)
  | returned (d : Option Delivery) (report : Report)
  /-- Raised, or dead. -/
  | gone
  deriving DecidableEq, Repr

/-- The fingerprints, the controller each call is made under (none for `deliver`), and the
limit of each controller. -/
structure Env where
  keys : DestinationKeys
  controller : Nat → Option Nat
  maxSendMessages : Nat → Nat

/-- The tables, the calls, the counters, the calls that were charged, and the invocations of
`send_text`. -/
structure World where
  tables : Tables
  calls : Nat → Call
  sendMessages : Nat → Nat
  charged : List Nat
  sent : List (Nat × Job)

/-- What can happen next. -/
inductive Action
  /-- Other parts of the program write and purge previews. -/
  | previews (previews : SqlTable Nat ShadowPreview)
      (coinPreviews coinMultiPreviews : SqlTable Nat CoinShadowPreview)
  /-- A purge forgets the previews of coin deliveries. -/
  | purge (previewIds multiPreviewIds : List Nat)
  /-- Call `p` runs up to the end of its first transaction. -/
  | start (p : Nat) (service : Service) (previewId : Nat) (chatId : Text) (now : Instant)
      (ready historyOk : Bool)
  /-- The checks of call `p` have passed. -/
  | proceed (p : Nat)
  /-- Call `p` runs `mark_sending`. -/
  | markSending (p : Nat) (now : Instant) (historyOk : Bool)
  /-- Call `p` hears that `mark_sending` was committed. -/
  | resume (p : Nat)
  /-- `send_text` returns. -/
  | answer (p : Nat) (messageId : Text)
  /-- What call `p` waits for raises. -/
  | raise (p : Nat) (raised : Raised)
  /-- Call `p` is cancelled while it records that the message was sent.  Only the coin
  service catches this. -/
  | cancelFinish (p : Nat)
  /-- Call `p` runs `_finish`. -/
  | finish (p : Nat) (now : Instant) (historyOk : Bool)
  /-- Call `p` dies. -/
  | crash (p : Nat)

namespace World

/-- A call moves on. -/
def withCall (w : World) (p : Nat) (c : Call) : World :=
  { w with calls := Function.update w.calls p c }

/-- `before_send` of a call; `none` where it raises. -/
def beforeSend (env : Env) (w : World) (p : Nat) : Option World :=
  match env.controller p with
  | none => some w
  | some k =>
    match beforeSendMessage (env.maxSendMessages k) (w.sendMessages k) with
    | .ok count => some { w with
        sendMessages := Function.update w.sendMessages k count
        charged := p :: w.charged }
    | .error _ => none

/-- A call invokes `send_text`. -/
def sendText (w : World) (p : Nat) (job : Job) : World :=
  { w with sent := (p, job) :: w.sent }.withCall p (.inTransport job)

end World

def step (env : Env) (w : World) : Action → Option World
  | .previews previews coinPreviews coinMultiPreviews =>
    some { w with tables := { w.tables with
      previews := previews
      coinPreviews := coinPreviews
      coinMultiPreviews := coinMultiPreviews } }
  | .purge previewIds multiPreviewIds =>
    some { w with tables := { w.tables with
      coinDeliveries := CoinShadowDeliveryRepository.forgetPreviews w.tables.coinDeliveries
        previewIds multiPreviewIds } }
  | .start p service previewId chatId now ready historyOk =>
    match w.calls p with
    | .idle =>
      match w.tables.reserve env.keys service previewId chatId now ready historyOk with
      | .noPreview => some (w.withCall p (.returned none service.noPreview))
      | .created t job => some ({ w with tables := t }.withCall p (.preflight job))
      | .found d state =>
        some (w.withCall p (.returned (some d) (service.alreadyAttempted state)))
      | .raised => some (w.withCall p .gone)
    | _ => none
  | .proceed p =>
    match w.calls p with
    | .preflight job =>
      match job.service with
      | .canonical => some (w.withCall p (.marking job))
      | .coin multi =>
        match w.beforeSend env p with
        | some w' => some (w'.withCall p (.marking job))
        | none => some (w.withCall p
            (.closing job ((Service.coin multi).closing .beforeSend .other)))
    | _ => none
  | .markSending p now historyOk =>
    match w.calls p with
    | .marking job =>
      match w.tables.markSending job now historyOk with
      | some t => some ({ w with tables := t }.withCall p (.marked job))
      | none => some (w.withCall p (.closing job (job.service.closing .marking .other)))
    | _ => none
  | .resume p =>
    match w.calls p with
    | .marked job =>
      match job.service with
      | .canonical =>
        match w.beforeSend env p with
        | some w' => some (w'.sendText p job)
        | none => some (w.withCall p
            (.closing job (Service.canonical.closing .beforeSend .other)))
      | .coin _ => some (w.sendText p job)
    | _ => none
  | .answer p messageId =>
    match w.calls p with
    | .inTransport job => some (w.withCall p (.closing job (job.service.answered messageId)))
    | _ => none
  | .raise p raised =>
    match w.calls p with
    | .preflight job =>
      some (w.withCall p (.closing job (job.service.closing .preflight raised)))
    | .marking job | .marked job =>
      some (w.withCall p (.closing job (job.service.closing .marking raised)))
    | .inTransport job =>
      some (w.withCall p (.closing job (job.service.closing .inTransport raised)))
    | _ => none
  | .cancelFinish p =>
    match w.calls p with
    | .closing ⟨.coin multi, deliveryId, chatId, key⟩ ⟨.sent, _, _, _, _⟩ =>
      some (w.withCall p (.closing ⟨.coin multi, deliveryId, chatId, key⟩
        ((Service.coin multi).closing .inTransport .cancelled)))
    | _ => none
  | .finish p now historyOk =>
    match w.calls p with
    | .closing job c =>
      let after (saved : Bool) : Call :=
        if c.raises then .gone
        else .returned (some (jobDelivery job)) (job.service.report c saved)
      match w.tables.finish job c now historyOk with
      | some t => some ({ w with tables := t }.withCall p (after true))
      | none => some (w.withCall p (after false))
    | _ => none
  | .crash p =>
    match w.calls p with
    | .idle | .returned _ _ | .gone => none
    | _ => some (w.withCall p .gone)

/-- Any number of calls under any controllers, from empty delivery tables on. -/
def system (env : Env) : TransitionSystem World Action where
  init w := w.tables.deliveries = ∅ ∧ w.tables.coinDeliveries = ∅ ∧ (∀ p, w.calls p = .idle) ∧
    (∀ k, w.sendMessages k = 0) ∧ w.charged = [] ∧ w.sent = []
  step := step env

/-! ## What the repositories do to the state of a delivery -/

section States

variable {σ : Type} {t t' : ShadowDeliveries σ}

theorem map_state_updateOne {id : Nat} {p : ShadowDelivery σ → Prop} [DecidablePred p]
    {f : ShadowDelivery σ → ShadowDelivery σ} {state : ShadowDeliveryState}
    (h : t.updateOne id p f = some t') (hf : ∀ r, (f r).state = state) :
    (t'.get? id).map ShadowDelivery.state = some state ∧
      ∀ j, j ≠ id → t'.get? j = t.get? j := by
  obtain ⟨⟨r, -, -, hafter⟩, hother⟩ := get?_of_updateOne h
  rw [hafter, Option.map_some, hf]
  exact ⟨rfl, hother⟩

theorem map_state_markSending {id : Nat} {startedAt : Option Instant} {historyOk : Bool}
    (h : markSending t id startedAt historyOk = some t') :
    (t'.get? id).map ShadowDelivery.state = some .sending ∧
      ∀ j, j ≠ id → t'.get? j = t.get? j := by
  unfold markSending at h
  split at h
  · exact map_state_updateOne h fun _ => rfl
  · cases h

theorem map_state_finish {id : Nat} {state : ShadowDeliveryState} {now : Instant}
    {errorCode : Option String} {messageId : Option Text} {historyOk : Bool}
    (h : finish t id state now errorCode messageId historyOk = some t') :
    state ≠ .sending ∧ (t'.get? id).map ShadowDelivery.state = some state ∧
      ∀ j, j ≠ id → t'.get? j = t.get? j := by
  unfold finish at h
  split at h
  · next hstate =>
    refine ⟨?_, map_state_updateOne h fun _ => rfl⟩
    rintro rfl
    simp at hstate
  · cases h

/-- What `insertOrFind` answers: a new pending row, or a row of the table. -/
theorem insertOrFind_cases [DecidableEq σ] {row : ShadowDelivery σ} {r : Reserved σ}
    (h : insertOrFind t row = r) :
    (r.created = true ∧ r.table = t.put r.id row ∧ t.get? r.id = none) ∨
      (r.created = false ∧ t.get? r.id = some r.row) := by
  unfold insertOrFind at h
  split at h
  · next i row' hhead =>
    obtain rfl := h
    exact Or.inr ⟨rfl, (mem_select.1 (List.mem_of_mem_head? hhead)).1⟩
  · obtain rfl := h
    exact Or.inl ⟨rfl, rfl, get?_freshId t⟩

end States

namespace Tables

variable {t t' : Tables} {job : Job} {now : Instant} {historyOk : Bool}

theorem state?_canonical_ne {deliveries : ShadowDeliveries Nat} {id : Nat}
    (h : ∀ j, j ≠ id → deliveries.get? j = t.deliveries.get? j) {d : Delivery}
    (hd : d ≠ .canonical id) : { t with deliveries := deliveries }.state? d = t.state? d := by
  cases d with
  | canonical j =>
    have hj : j ≠ id := fun heq => hd (congrArg Delivery.canonical heq)
    exact congrArg (Option.map ShadowDelivery.state) (h j hj)
  | coin j => rfl

theorem state?_coin_ne {deliveries : ShadowDeliveries Text} {id : Nat}
    (h : ∀ j, j ≠ id → deliveries.get? j = t.coinDeliveries.get? j) {d : Delivery}
    (hd : d ≠ .coin id) : { t with coinDeliveries := deliveries }.state? d = t.state? d := by
  cases d with
  | canonical j => rfl
  | coin j =>
    have hj : j ≠ id := fun heq => hd (congrArg Delivery.coin heq)
    exact congrArg (Option.map ShadowDelivery.state) (h j hj)

/-- `mark_sending` moves its row to `sending`, and no other. -/
theorem state?_markSending (h : t.markSending job now historyOk = some t') :
    t'.state? (jobDelivery job) = some .sending ∧
      ∀ d, d ≠ jobDelivery job → t'.state? d = t.state? d := by
  obtain ⟨service, id, chatId, key⟩ := job
  cases service with
  | canonical =>
    obtain ⟨deliveries, hmark, rfl⟩ := Option.map_eq_some_iff.1 h
    obtain ⟨hself, hother⟩ := map_state_markSending hmark
    exact ⟨hself, fun d hd => state?_canonical_ne hother hd⟩
  | coin multi =>
    obtain ⟨deliveries, hmark, rfl⟩ := Option.map_eq_some_iff.1 h
    obtain ⟨hself, hother⟩ := map_state_markSending hmark
    exact ⟨hself, fun d hd => state?_coin_ne hother hd⟩

/-- `finish` moves its row to the state it is given, and no other. -/
theorem state?_finish {c : Closing} (h : t.finish job c now historyOk = some t') :
    c.state ≠ .sending ∧ t'.state? (jobDelivery job) = some c.state ∧
      ∀ d, d ≠ jobDelivery job → t'.state? d = t.state? d := by
  obtain ⟨service, id, chatId, key⟩ := job
  cases service with
  | canonical =>
    obtain ⟨deliveries, hfinish, rfl⟩ := Option.map_eq_some_iff.1 h
    obtain ⟨hstate, hself, hother⟩ := map_state_finish hfinish
    exact ⟨hstate, hself, fun d hd => state?_canonical_ne hother hd⟩
  | coin multi =>
    obtain ⟨deliveries, hfinish, rfl⟩ := Option.map_eq_some_iff.1 h
    obtain ⟨hstate, hself, hother⟩ := map_state_finish hfinish
    exact ⟨hstate, hself, fun d hd => state?_coin_ne hother hd⟩

theorem insertOrFind_of_reserve {previews : SqlTable Nat ShadowPreview}
    {deliveries : ShadowDeliveries Nat} {previewId : Nat} {destinationKey : Text}
    {r : Reserved Nat} (h : ShadowDeliveryRepository.reserve previews deliveries previewId
      destinationKey now historyOk = some r) :
    ∃ row, row.state = .pending ∧ insertOrFind deliveries row = r := by
  simp only [ShadowDeliveryRepository.reserve, Option.bind_eq_bind, Option.bind_eq_some_iff] at h
  obtain ⟨preview, -, h⟩ := h
  refine ⟨reservation (some previewId) none preview.sourceMessageId destinationKey (some now),
    rfl, ?_⟩
  split at h
  · split at h
    · exact Option.some.inj h
    · cases h
  · exact Option.some.inj h

theorem insertOrFind_of_coinReserve {previews multiPreviews : SqlTable Nat CoinShadowPreview}
    {deliveries : ShadowDeliveries Text} {previewId : Nat} {destinationFingerprint : Text}
    {multi : Bool} {r : Reserved Text}
    (h : CoinShadowDeliveryRepository.reserve previews multiPreviews deliveries previewId
      destinationFingerprint multi historyOk = some r) :
    ∃ row, row.state = .pending ∧ insertOrFind deliveries row = r := by
  unfold CoinShadowDeliveryRepository.reserve at h
  split at h
  · cases h
  · obtain ⟨preview, -, h⟩ := Option.bind_eq_some_iff.1 h
    obtain ⟨-, h⟩ := Option.ite_none_right_eq_some.1 h
    exact ⟨_, rfl, Option.some.inj h⟩

/-- What a reservation of a service says of the states. -/
theorem state?_reserved {σ : Type} [DecidableEq σ] {service : Service} {chatId : Text}
    {key : σ → Text → DeliveryKey} {table : ShadowDeliveries σ → Tables}
    {deliveries : ShadowDeliveries σ} {o : Option (Reserved σ)}
    (hrow : ∀ r, o = some r → ∃ row, row.state = .pending ∧ insertOrFind deliveries row = r)
    (hself : ∀ x id, (table x).state? (delivery service id) =
      (x.get? id).map ShadowDelivery.state)
    (hother : ∀ x id, (∀ j, j ≠ id → x.get? j = deliveries.get? j) → ∀ d,
      d ≠ delivery service id → (table x).state? d = t.state? d)
    (hsame : ∀ id, t.state? (delivery service id) =
      (deliveries.get? id).map ShadowDelivery.state) :
    (∀ t' job, reserved service chatId key table o = .created t' job →
      t'.state? (jobDelivery job) = some .pending ∧
        ∀ d, d ≠ jobDelivery job → t'.state? d = t.state? d) ∧
    ∀ d state, reserved service chatId key table o = .found d state →
      t.state? d = some state := by
  cases ho : o with
  | none => exact ⟨nofun, nofun⟩
  | some r =>
    obtain ⟨row, hpending, hr⟩ := hrow r ho
    unfold reserved
    rcases insertOrFind_cases hr with ⟨hcreated, htable, hnone⟩ | ⟨hfound, hget⟩
    · simp only [hcreated, if_true]
      refine ⟨?_, nofun⟩
      rintro t' job heq
      obtain ⟨rfl, rfl⟩ := Reservation.created.inj heq
      show (table r.table).state? (delivery service r.id) = some .pending ∧
        ∀ d, d ≠ delivery service r.id → (table r.table).state? d = t.state? d
      rw [hself, htable, get?_put_self, Option.map_some, hpending]
      exact ⟨rfl, hother _ _ fun j hj => get?_put_ne _ _ hj⟩
    · simp only [hfound]
      refine ⟨nofun, ?_⟩
      rintro d state heq
      obtain ⟨rfl, rfl⟩ := Reservation.found.inj heq
      rw [hsame, hget, Option.map_some]

variable (t) in
/-- A reservation that was created is pending, and no other row changed; one that was found
is a row. -/
theorem state?_reserve (keys : DestinationKeys) (service : Service) (previewId : Nat)
    (chatId : Text) (now : Instant) (ready historyOk : Bool) :
    (∀ t' job, t.reserve keys service previewId chatId now ready historyOk = .created t' job →
      t'.state? (jobDelivery job) = some .pending ∧
        ∀ d, d ≠ jobDelivery job → t'.state? d = t.state? d) ∧
    ∀ d state, t.reserve keys service previewId chatId now ready historyOk = .found d state →
      t.state? d = some state := by
  cases service with
  | canonical =>
    unfold reserve
    dsimp only
    split
    · exact ⟨fun _ _ => Reservation.noConfusion, fun _ _ => Reservation.noConfusion⟩
    · exact state?_reserved (fun _ => insertOrFind_of_reserve) (fun _ _ => rfl)
        (fun _ _ h _ hd => state?_canonical_ne h hd) fun _ => rfl
  | coin multi =>
    unfold reserve
    dsimp only
    split
    · exact ⟨fun _ _ => Reservation.noConfusion, fun _ _ => Reservation.noConfusion⟩
    · exact state?_reserved (fun _ => insertOrFind_of_coinReserve) (fun _ _ => rfl)
        (fun _ _ h _ hd => state?_coin_ne h hd) fun _ => rfl

/-- A purge keeps the states. -/
theorem state?_forgetPreviews {previewIds multiPreviewIds : List Nat} (d : Delivery) :
    { t with
      coinDeliveries := CoinShadowDeliveryRepository.forgetPreviews t.coinDeliveries previewIds
        multiPreviewIds }.state? d = t.state? d := by
  cases d with
  | canonical id => rfl
  | coin id =>
    show ((CoinShadowDeliveryRepository.forgetPreviews t.coinDeliveries previewIds
      multiPreviewIds).get? id).map ShadowDelivery.state =
        (t.coinDeliveries.get? id).map ShadowDelivery.state
    unfold CoinShadowDeliveryRepository.forgetPreviews
    rw [get?_updateWhere, get?_updateWhere]
    cases t.coinDeliveries.get? id with
    | none => rfl
    | some r =>
      simp only [Option.map_some]
      split <;> split <;> rfl

end Tables

end Accounting
end Shadow
end PromoBot
