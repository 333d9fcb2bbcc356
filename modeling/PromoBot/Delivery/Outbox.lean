import PromoBot.Delivery.Service

/-!
# The outbox never re-sends an unknown outcome

The table and the calls of `Delivery.Service` together run the ticket protocol of
`Lib.Tickets`: a claim takes the delivery, the transport call fires it, and the recording of a
rate limit or of a `RetryableBeforeSend` releases it; whatever else a call ends in finishes it
with the delivery still taken. `Tracks.step` says so for every step.

What is known of tickets is then known of deliveries: at most as many sends as claims, and none
at all after an attempt that ended otherwise.  The rows themselves only ever change as
`DeliveryRepository.Change` allows, which gives the two statements about them.

## Where a second send could come from

A delivery is sent again only if it is claimed again, and a row which was claimed once can be
claimed again only in `FAILED_RETRYABLE`.  What puts it there is the record of an outcome, so
the danger is in the attempts which have none: the transport raised something unforeseen, the
task was cancelled while it ran, the process died before the result was stored.  In each of
these the row stays in `SENDING`, or is swept into a state that is closed, and neither can be
claimed.

This is what the slot of a delivery has to say of its row (`RowTracked`): a row which may be
claimed is free, and the attempts a row counts are the takings of its slot.  The proof is by
the step (`Tracks.step`), with one case for each place a call can be in; only the recording of
a retryable outcome gives the slot back.  The bound on the sends is then one on the claims,
which the row counts itself and compares with the maximum before it lets itself be claimed.

`outbox_never_resends` has four parts because there are four things to rely on, and it is about
the future as well: after an unrepeatable attempt no run, however long, sends the delivery
again.
-/

namespace PromoBot
namespace DealDelivery

open SqlTable DeliveryRepository

variable {service : Nat → DealDeliveryService} {w w' : World} {act : Action}

/-! ## What a step does to the rows -/

theorem claim_of_begin' {svc : DealDeliveryService} {db : Db} {d : Nat} {now : Instant}
    {t : Deliveries} (h : begin' svc db d now = some t) :
    claim db.deliveries d now (now + minutes svc.leaseMinutes) svc.maxAttempts = some t := by
  simp only [begin', Option.bind_eq_bind, Option.bind_eq_some_iff] at h
  obtain ⟨delivery, _, deal, _, proofId, _, proof, _, h⟩ := h
  split at h
  · exact h
  · simp at h

/-- The recording of an outcome finishes the row, into `FAILED_RETRYABLE` exactly
when the outcome was retryable. -/
theorem finish_of_record {svc : DealDeliveryService} {t t' : Deliveries} {d : Nat}
    {now : Instant} {r : SendResult} (h : record svc t d now r = some t') :
    ∃ state o, finish t d state now o = some t' ∧
      (state = .failedRetryable ↔ r.Retryable) ∧
      state ∈ [DeliveryState.sent, .failedRetryable, .deliveryAmbiguous, .failedPermanent] := by
  cases r with
  | messageId m =>
    simp only [record] at h
    split at h
    · exact ⟨_, _, h, by simp [SendResult.Retryable], by simp⟩
    · next hblank =>
      rw [markSent, if_neg hblank] at h
      exact ⟨_, _, h, by simp [SendResult.Retryable], by simp⟩
  | rateLimited | retryableBeforeSend | ambiguous | permanent =>
    exact ⟨_, _, h, by simp [SendResult.Retryable], by simp⟩
  | unexpected => simp [record] at h

theorem change_record {svc : DealDeliveryService} {t t' : Deliveries} {i : Nat}
    {now : Instant} {r : SendResult} (h : record svc t i now r = some t') (d : Nat) :
    Change svc.maxAttempts (t.get? d) (t'.get? d) := by
  cases r with
  | messageId m =>
    simp only [record] at h
    split at h
    · exact change_markAmbiguous h d
    · exact change_markSent h d
  | rateLimited | retryableBeforeSend => exact change_markRetryable h d
  | ambiguous => exact change_markAmbiguous h d
  | permanent => exact change_markPermanent h d
  | unexpected => simp [record] at h

/-- Every step changes a row the way the repository may. -/
theorem change_step {maxAttempts : Nat} (hmax : ∀ p, (service p).maxAttempts ≤ maxAttempts)
    (h : step service w act = some w') (d : Nat) :
    Change maxAttempts (w.db.deliveries.get? d) (w'.db.deliveries.get? d) := by
  cases act with
  | ensurePending dealId key chat purpose =>
    simp only [step, Option.map_eq_some_iff] at h
    obtain ⟨t, ht, rfl⟩ := h
    exact change_ensurePending ht d
  | external deals proofs =>
    simp only [step, Option.some.injEq] at h
    exact h ▸ Change.keep _
  | start p i now =>
    simp only [step] at h
    split at h
    · split at h
      · next t ht =>
        simp only [Option.some.injEq] at h
        exact h ▸ (change_claim (claim_of_begin' ht) d).mono (hmax p)
      · simp only [Option.some.injEq] at h
        exact h ▸ Change.keep _
    · simp at h
  | callTransport p | transportEnds p r =>
    simp only [step] at h
    split at h
    · simp only [Option.some.injEq] at h
      exact h ▸ Change.keep _
    · simp at h
  | finish p now =>
    simp only [step] at h
    split at h
    · split at h
      · next t ht =>
        simp only [Option.some.injEq] at h
        exact h ▸ (change_record ht d).mono (hmax p)
      · simp only [Option.some.injEq] at h
        exact h ▸ Change.keep _
    · simp at h
  | crash p =>
    simp only [step, Option.map_eq_some_iff] at h
    obtain ⟨i, _, rfl⟩ := h
    exact Change.keep _
  | sweep now =>
    simp only [step, Option.some.injEq] at h
    exact h ▸ change_markStaleSendingAmbiguous _ now d

/-! ## The outbox runs the ticket protocol -/

section Tracking

open Tickets

variable {a : Tickets.State Nat Nat}

/-- What the slot of a delivery says about its row: a row which may be claimed is
free, and the row counts its takings. -/
def RowTracked (slot : Slot Nat) (takes : Nat) : Option Delivery → Prop
  | none => slot = .free ∧ takes = 0
  | some r =>
    takes = r.attemptCount ∧ (r.state = .pending ∨ r.state = .failedRetryable → slot = .free)

/-- What a call's place in `send` says about the slots. -/
def CallTracked (a : Tickets.State Nat Nat) (p : Nat) : Call → Prop
  | .idle => ¬ a.finished p
  | .refused => True
  | .claimed d => a.slot d = .held p false ∧ ¬ a.finished p
  | .sending d => a.slot d = .held p true ∧ ¬ a.finished p
  | .answered d r => a.slot d = .held p true ∧ (a.finished p ↔ ¬ r.Retryable)
  | .ended d (.recorded r) => ¬ r.Retryable → Stuck a d
  | .ended d (.raised _) => Stuck a d
  | .ended d .crashed => Stuck a d

/-- The world `w` is in the ticket state `a`. -/
structure Tracks (w : World) (a : Tickets.State Nat Nat) : Prop where
  rows : ∀ d, RowTracked (a.slot d) (a.takes d) (w.db.deliveries.get? d)
  calls : ∀ p, CallTracked a p (w.calls p)
  sent : ∀ d, a.fires d = w.sent.count d

theorem tracks_start (h : (system service).init w) : Tracks w State.start := by
  obtain ⟨hrows, hcalls, hsent⟩ := h
  refine ⟨fun d => ?_, fun p => ?_, fun d => ?_⟩
  · rw [hrows, get?_empty]
    exact ⟨rfl, rfl⟩
  · rw [hcalls]
    exact id
  · rw [hsent]
    rfl

theorem CallTracked.of_step {a' : Tickets.State Nat Nat} {p q : Nat} {c : Call}
    (h : CallTracked a q c) (hstep : Step p a a') (hq : q ≠ p) : CallTracked a' q c := by
  have hfin : a'.finished q ↔ a.finished q := (hstep.of_ne (k := 0) (b := true) hq).2
  cases c with
  | idle => exact fun hq => h (hfin.1 hq)
  | refused => trivial
  | claimed d | sending d => exact ⟨(hstep.of_ne hq).1 h.1, fun hq => h.2 (hfin.1 hq)⟩
  | answered d r => exact ⟨(hstep.of_ne hq).1 h.1, hfin.trans h.2⟩
  | ended d how =>
    cases how with
    | recorded r => exact fun hr => (hstep.of_stuck (h hr)).1
    | raised | crashed => exact (hstep.of_stuck h).1

theorem Tracks.calls_of_step {a' : Tickets.State Nat Nat} {p : Nat} {c : Call}
    (h : Tracks w a) (hstep : Step p a a') (hc : CallTracked a' p c) (q : Nat) :
    CallTracked a' q (Function.update w.calls p c q) := by
  rcases eq_or_ne q p with rfl | hq
  · simpa using hc
  · rw [Function.update_of_ne hq]
    exact (h.calls q).of_step hstep hq

theorem Tracks.calls_of_update {p : Nat} {c : Call} (h : Tracks w a) (hc : CallTracked a p c)
    (q : Nat) : CallTracked a q (Function.update w.calls p c q) := by
  rcases eq_or_ne q p with rfl | hq
  · simpa using hc
  · rw [Function.update_of_ne hq]
    exact h.calls q

theorem Tracks.ensurePending {dealId : Nat} {key chat : Text} {purpose : DeliveryPurpose}
    {t : Deliveries} (h : Tracks w a)
    (ht : DeliveryRepository.ensurePending w.db.deliveries dealId key chat purpose = some t) :
    Tracks (w.withDeliveries t) a := by
  refine ⟨fun d => ?_, h.calls, h.sent⟩
  have hd := h.rows d
  rcases get?_of_ensurePending ht d with heq | ⟨hnone, hnew⟩
  · rwa [World.withDeliveries_deliveries, heq]
  · rw [hnone] at hd
    rw [World.withDeliveries_deliveries, hnew]
    exact ⟨hd.2, fun _ => hd.1⟩

theorem Tracks.start {p i : Nat} {now lease : Instant} {maxAttempts : Nat} {t : Deliveries}
    (h : Tracks w a) (hp : w.calls p = .idle)
    (ht : claim w.db.deliveries i now lease maxAttempts = some t) :
    ∃ a', Step p a a' ∧ Tracks ((w.withDeliveries t).withCall p (.claimed i)) a' := by
  obtain ⟨⟨r, hr, hclaim, hr'⟩, hother⟩ := get?_of_claim ht
  have hrow := h.rows i
  rw [hr] at hrow
  have hfree : a.slot i = .free := hrow.2 (hclaim.2.imp id And.left)
  have hfin : ¬ a.finished p := by
    have := h.calls p
    rwa [hp] at this
  have hstep : Step p a (a.taken i p) := .take hfree hfin
  refine ⟨_, hstep, fun d => ?_, h.calls_of_step hstep ⟨by simp [State.taken], hfin⟩, h.sent⟩
  rcases eq_or_ne d i with rfl | hd
  · simpa [State.taken, hr', RowTracked] using hrow.1
  · simpa [State.taken, hd, hother d hd] using h.rows d

theorem Tracks.callTransport {p i : Nat} (h : Tracks w a) (hp : w.calls p = .claimed i) :
    ∃ a', Step p a a' ∧ Tracks { w.withCall p (.sending i) with sent := i :: w.sent } a' := by
  have hcall := h.calls p
  rw [hp] at hcall
  have hstep : Step p a (a.fired i p) := .fire hcall.1 hcall.2
  refine ⟨_, hstep, fun d => ?_, h.calls_of_step hstep ⟨by simp [State.fired], hcall.2⟩,
    fun d => ?_⟩
  · rcases eq_or_ne d i with rfl | hd
    · have hrow := h.rows d
      simp only [World.withCall_db]
      cases hr : w.db.deliveries.get? d with
      | none => simp [hr, RowTracked, hcall.1] at hrow
      | some r =>
        rw [hr, RowTracked, hcall.1] at hrow
        exact ⟨hrow.1, fun hs => absurd (hrow.2 hs) (by simp)⟩
    · simpa [State.fired, hd] using h.rows d
  · rcases eq_or_ne d i with rfl | hd
    · simp [State.fired, h.sent]
    · simp [State.fired, hd, h.sent, Ne.symm hd]

theorem Tracks.finishCall {p i : Nat} {how : Ending} (h : Tracks w a) {b : Bool}
    (hp : a.slot i = .held p b) :
    ∃ a', Step p a a' ∧ Tracks (w.withCall p (.ended i how)) a' := by
  have hstep : Step p a (a.withFinished p) := .finish
  have hstuck : Stuck (a.withFinished p) i := ⟨p, b, hp, Or.inl rfl⟩
  refine ⟨_, hstep, h.rows, h.calls_of_step hstep ?_, h.sent⟩
  cases how with
  | recorded r => exact fun _ => hstuck
  | raised | crashed => exact hstuck

/-- Recording a retryable outcome gives the delivery back. -/
theorem Tracks.recordRetryable {p i : Nat} {now : Instant} {r : SendResult} {o : Outcome}
    {t : Deliveries} (h : Tracks w a) (hp : w.calls p = .answered i r) (hr : r.Retryable)
    (ht : DeliveryRepository.finish w.db.deliveries i .failedRetryable now o = some t) :
    ∃ a', Step p a a' ∧
      Tracks ((w.withDeliveries t).withCall p (.ended i (.recorded r))) a' := by
  have hcall := h.calls p
  rw [hp] at hcall
  obtain ⟨⟨row, hrow, _, hrow'⟩, hother⟩ := get?_of_finish ht
  have hstep : Step p a (a.released i) :=
    .release hcall.1 fun hfin => (hcall.2.1 hfin) hr
  refine ⟨_, hstep, fun d => ?_, h.calls_of_step hstep fun hnr => absurd hr hnr, h.sent⟩
  rcases eq_or_ne d i with rfl | hd
  · have hd := h.rows d
    rw [hrow] at hd
    simpa [State.released, hrow', RowTracked] using hd.1
  · simpa [State.released, hd, hother d hd] using h.rows d

/-- Recording any other outcome closes the row, and the delivery stays taken. -/
theorem Tracks.recordFinal {p i : Nat} {now : Instant} {r : SendResult} {o : Outcome}
    {state : DeliveryState} {t : Deliveries} (h : Tracks w a) (hp : w.calls p = .answered i r)
    (hr : ¬ r.Retryable) (hstate : state ≠ .failedRetryable ∧ state ≠ .pending)
    (ht : DeliveryRepository.finish w.db.deliveries i state now o = some t) :
    Tracks ((w.withDeliveries t).withCall p (.ended i (.recorded r))) a := by
  have hcall := h.calls p
  rw [hp] at hcall
  obtain ⟨⟨row, hrow, _, hrow'⟩, hother⟩ := get?_of_finish ht
  have hstuck : Stuck a i := ⟨p, true, hcall.1, hcall.2.2 hr⟩
  refine ⟨fun d => ?_, h.calls_of_update fun _ => hstuck, h.sent⟩
  rcases eq_or_ne d i with rfl | hd
  · have hd := h.rows d
    rw [hrow] at hd
    simpa [hrow', RowTracked, hstate] using hd.1
  · simpa [hother d hd] using h.rows d

theorem Tracks.sweep {now : Instant} (h : Tracks w a) :
    Tracks (w.withDeliveries (markStaleSendingAmbiguous w.db.deliveries now)) a := by
  refine ⟨fun d => ?_, h.calls, h.sent⟩
  have hd := h.rows d
  rw [World.withDeliveries_deliveries, get?_markStaleSendingAmbiguous]
  cases hr : w.db.deliveries.get? d with
  | none => simpa [hr] using hd
  | some r =>
    rw [hr] at hd
    by_cases hstale : StaleSending now r
    · simpa [hstale, RowTracked] using hd.1
    · simpa [hstale] using hd

/-- **Every step of the outbox is at most one action of the ticket protocol.** -/
theorem Tracks.step (h : Tracks w a) (hstep : DealDelivery.step service w act = some w') :
    ∃ a', Run a a' ∧ Tracks w' a' := by
  have stay {w'' : World} (h' : Tracks w'' a) : ∃ a', Run a a' ∧ Tracks w'' a' :=
    ⟨a, .refl, h'⟩
  have move {w'' : World} {p : Nat} (h' : ∃ a', Step p a a' ∧ Tracks w'' a') :
      ∃ a', Run a a' ∧ Tracks w'' a' := by
    obtain ⟨a', hone, h'⟩ := h'
    exact ⟨a', hone.run, h'⟩
  cases act with
  | ensurePending dealId key chat purpose =>
    simp only [DealDelivery.step, Option.map_eq_some_iff] at hstep
    obtain ⟨t, ht, rfl⟩ := hstep
    exact stay (h.ensurePending ht)
  | external deals proofs =>
    simp only [DealDelivery.step, Option.some.injEq] at hstep
    subst hstep
    exact stay ⟨h.rows, h.calls, h.sent⟩
  | start p i now =>
    simp only [DealDelivery.step] at hstep
    split at hstep
    · next hidle =>
      split at hstep
      · next t ht =>
        simp only [Option.some.injEq] at hstep
        subst hstep
        exact move (h.start hidle (claim_of_begin' ht))
      · simp only [Option.some.injEq] at hstep
        subst hstep
        exact stay ⟨h.rows, h.calls_of_update trivial, h.sent⟩
    · simp at hstep
  | callTransport p =>
    simp only [DealDelivery.step] at hstep
    split at hstep
    · next i hp =>
      simp only [Option.some.injEq] at hstep
      subst hstep
      exact move (h.callTransport hp)
    · simp at hstep
  | transportEnds p r =>
    simp only [DealDelivery.step] at hstep
    split at hstep
    · next i hp =>
      simp only [Option.some.injEq] at hstep
      subst hstep
      have hcall := h.calls p
      rw [hp] at hcall
      by_cases hr : r.Retryable
      · exact stay ⟨h.rows, h.calls_of_update ⟨hcall.1, by simp [hcall.2, hr]⟩, h.sent⟩
      · -- the outcome is final: this call will not release the delivery any more
        have hone : Step p a (a.withFinished p) := .finish
        exact move ⟨_, hone, h.rows,
          h.calls_of_step hone ⟨hcall.1, by simp [State.withFinished, hr]⟩, h.sent⟩
    · simp at hstep
  | finish p now =>
    simp only [DealDelivery.step] at hstep
    split at hstep
    · next i r hp =>
      split at hstep
      · next t ht =>
        simp only [Option.some.injEq] at hstep
        subst hstep
        obtain ⟨state, o, hfin, hretry, hmem⟩ := finish_of_record ht
        by_cases hr : r.Retryable
        · obtain rfl := hretry.2 hr
          exact move (h.recordRetryable hp hr hfin)
        · refine stay (h.recordFinal hp hr ⟨fun e => hr (hretry.1 e), fun e => ?_⟩ hfin)
          simp [e] at hmem
      · simp only [Option.some.injEq] at hstep
        subst hstep
        have hcall := h.calls p
        rw [hp] at hcall
        exact move (h.finishCall hcall.1)
    · simp at hstep
  | crash p =>
    simp only [DealDelivery.step, Option.map_eq_some_iff] at hstep
    obtain ⟨i, hi, rfl⟩ := hstep
    have hcall := h.calls p
    cases hp : w.calls p with
    | idle | refused | ended => simp [hp, Call.attempt?] at hi
    | claimed d | sending d | answered d r =>
      simp only [hp, Call.attempt?, Option.some.injEq] at hi
      rw [hp, hi] at hcall
      exact move (h.finishCall hcall.1)
  | sweep now =>
    simp only [DealDelivery.step, Option.some.injEq] at hstep
    subst hstep
    exact stay h.sweep

theorem Tracks.run (h : Tracks w a) (hrun : (system service).Run w w') :
    ∃ a', Run a a' ∧ Tracks w' a' :=
  hrun.forward_simulation (fun _ _ _ _ h _ hstep => h.step hstep) h

theorem exists_tracks (h : (system service).Reachable w) :
    ∃ a : Tickets.State Nat Nat, Balanced a ∧ Tracks w a := by
  obtain ⟨w₀, hinit, hrun⟩ := h
  obtain ⟨a, hrun', h⟩ := (tracks_start hinit).run hrun
  exact ⟨a, Run.balanced hrun' balanced_start, h⟩

end Tracking

/-! ## The four guarantees -/

/-- The attempt has ended in anything but a rate limit or a
`RetryableBeforeSend`: another result of the transport, a result which could not
be recorded, or a crash. -/
def EndedUnrepeatably (d : Nat) : Call → Prop
  | .answered i r => i = d ∧ ¬ r.Retryable
  | .ended i (.recorded r) => i = d ∧ ¬ r.Retryable
  | .ended i (.raised _) => i = d
  | .ended i .crashed => i = d
  | _ => False

theorem CallTracked.stuck {a : Tickets.State Nat Nat} {p d : Nat} {c : Call}
    (h : CallTracked a p c) (hc : EndedUnrepeatably d c) : Tickets.Stuck a d := by
  cases c with
  | idle | refused | claimed | sending => exact hc.elim
  | answered i r =>
    obtain ⟨rfl, hr⟩ := hc
    exact ⟨p, true, h.1, h.2.2 hr⟩
  | ended i how =>
    cases how with
    | recorded r =>
      obtain ⟨rfl, hr⟩ := hc
      exact h hr
    | raised | crashed =>
      obtain rfl : i = d := hc
      exact h

theorem sent_count_eq_of_endedUnrepeatably (hw : (system service).Reachable w) {p d : Nat}
    (hp : EndedUnrepeatably d (w.calls p)) (hrun : (system service).Run w w') :
    w'.sent.count d = w.sent.count d := by
  obtain ⟨a, _, ha⟩ := exists_tracks hw
  obtain ⟨a', harun, ha'⟩ := ha.run hrun
  rw [← ha.sent, ← ha'.sent]
  exact Tickets.Run.fires_eq_of_stuck harun ((ha.calls p).stuck hp)

/-- What every row of a reachable table satisfies. -/
def RowOk (maxAttempts : Nat) (r : Delivery) : Prop :=
  r.attemptCount ≤ maxAttempts ∧ SentHasMessageId r

theorem rowOk_of_reachable {maxAttempts : Nat} (hmax : ∀ p, (service p).maxAttempts ≤ maxAttempts)
    (hw : (system service).Reachable w) :
    ∀ d, ∀ r ∈ w.db.deliveries.get? d, RowOk maxAttempts r := by
  refine hw.invariant (P := fun w => ∀ d, ∀ r ∈ w.db.deliveries.get? d, RowOk maxAttempts r)
    (fun w hinit d r hr => ?_) fun w act w' ih hstep d => ?_
  · rw [hinit.1, get?_empty] at hr
    exact absurd hr (by simp)
  · have hc := change_step hmax hstep d
    exact fun r hr => ⟨hc.attemptCount_le (fun x hx => (ih d x hx).1) r hr,
      hc.sentHasMessageId (fun x hx => (ih d x hx).2) r hr⟩

theorem sent_count_le {maxAttempts : Nat} (hmax : ∀ p, (service p).maxAttempts ≤ maxAttempts)
    (hw : (system service).Reachable w) (d : Nat) : w.sent.count d ≤ maxAttempts := by
  obtain ⟨a, hbal, ha⟩ := exists_tracks hw
  have hle : w.sent.count d ≤ a.takes d := ha.sent d ▸ hbal.fires_le_takes d
  have hrow := ha.rows d
  cases hr : w.db.deliveries.get? d with
  | none =>
    rw [hr] at hrow
    have := hrow.2
    omega
  | some r =>
    rw [hr] at hrow
    have := (rowOk_of_reachable hmax hw d r hr).1
    have := hrow.1
    omega

theorem get?_eq_of_closed {maxAttempts : Nat} (hmax : ∀ p, (service p).maxAttempts ≤ maxAttempts)
    {d : Nat} {r : Delivery} (hr : w.db.deliveries.get? d = some r) (hclosed : Closed r.state)
    (hrun : (system service).Run w w') : w'.db.deliveries.get? d = some r := by
  refine hrun.invariant (P := fun w => w.db.deliveries.get? d = some r) hr
    fun w act w' hr _ hstep => ?_
  have hc := change_step hmax hstep d
  rw [hr] at hc
  exact hc.of_closed hclosed

/-- **The outbox never re-sends an unknown outcome.**  In every reachable world,
for every delivery: `transport.send` is not invoked again after an attempt that
ended in anything but a rate limit or a `RetryableBeforeSend`; it is invoked at
most `maxAttempts` times in all; a row in `SENT` carries a message id which is
not blank; and a row in `SENT`, `DELIVERY_AMBIGUOUS` or `FAILED_PERMANENT` stays
as it is, and is not claimed. -/
theorem outbox_never_resends {maxAttempts : Nat}
    (hmax : ∀ p, (service p).maxAttempts ≤ maxAttempts) (hw : (system service).Reachable w)
    (d : Nat) :
    (∀ p w', EndedUnrepeatably d (w.calls p) → (system service).Run w w' →
      w'.sent.count d = w.sent.count d) ∧
    w.sent.count d ≤ maxAttempts ∧
    (∀ r, w.db.deliveries.get? d = some r → r.state = .sent →
      ∃ m, r.telegramMessageId = some m ∧ m.strip ≠ []) ∧
    (∀ r, w.db.deliveries.get? d = some r → Closed r.state →
      ∀ w', (system service).Run w w' →
        w'.db.deliveries.get? d = some r ∧
        ∀ now lease limit, claim w'.db.deliveries d now lease limit = none) := by
  refine ⟨fun p w' hp hrun => sent_count_eq_of_endedUnrepeatably hw hp hrun,
    sent_count_le hmax hw d, fun r hr => (rowOk_of_reachable hmax hw d r hr).2,
    fun r hr hclosed w' hrun => ?_⟩
  have hr' := get?_eq_of_closed hmax hr hclosed hrun
  exact ⟨hr', fun now lease limit => claim_eq_none_of_closed hr' hclosed now lease limit⟩

section Demo

/-- A service whose publication gate is open. -/
def openService : DealDeliveryService where
  settings := ⟨false, true, false, some "-100".toList, 300⟩
  publicationContext := ⟨true, "official_api".toList, true, true⟩
  maxAttempts := 3
  leaseMinutes := 5

/-- A deal and its proof which the gate lets through, and one call that dies while
the transport is running. -/
def crashSchedule : List Action :=
  [.external
      ((∅ : SqlTable Nat Deal).put 7 ⟨some 4, .ready, "BRL".toList, some true,
        some "https://s.example/1".toList, .awaitingInternalReview⟩)
      ((∅ : SqlTable Nat Proof).put 4 ⟨"https://s.example/1".toList,
        "shopee_official".toList, true, "CONFIRMED".toList⟩),
    .ensurePending 7 "key".toList "-100".toList .internalReview,
    .start 0 1 0, .callTransport 0, .crash 0]

/-- The empty outbox. -/
def emptyWorld : World := ⟨⟨∅, ∅, ∅⟩, fun _ => .idle, []⟩

/-- A call that dies while the transport is running is the last one: however the
outbox goes on, that delivery was sent once. -/
theorem outbox_never_resends_after_crash :
    ∃ w, (system fun _ => openService).Reachable w ∧ w.calls 0 = .ended 1 .crashed ∧
      ∀ w', (system fun _ => openService).Run w w' → w'.sent.count 1 = 1 := by
  have hreplay : ∃ w, (system fun _ => openService).replay emptyWorld crashSchedule = some w ∧
      w.calls 0 = .ended 1 .crashed ∧ w.sent = [1] := ⟨_, rfl, rfl, rfl⟩
  obtain ⟨w, hreplay, hcall, hsent⟩ := hreplay
  have hw : (system fun _ => openService).Reachable w :=
    TransitionSystem.reachable_of_replay ⟨rfl, fun _ => rfl, rfl⟩ hreplay
  refine ⟨w, hw, hcall, fun w' hrun => ?_⟩
  have hmax : ∀ p : Nat, ((fun _ => openService) p).maxAttempts ≤ 3 := fun _ => Nat.le_refl 3
  have hcount := (outbox_never_resends hmax hw 1).1 0 w' (by rw [hcall]; rfl) hrun
  rw [hcount, hsent]
  rfl

end Demo

end DealDelivery
end PromoBot
