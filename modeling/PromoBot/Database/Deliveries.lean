import PromoBot.Domain.StateMachines
import PromoBot.Lib.PyText
import PromoBot.Lib.SqlTable

/-!
# The `deliveries` table

`database/delivery_repository.py`: the outbox rows and the conditional updates
on them.  Every method is a function from the table to the table it leaves
behind; `none` is a method that raised, so that its transaction rolled back.

`_finish` is the one update behind `mark_sent`, `mark_retryable`,
`mark_ambiguous` and `mark_permanent`.  Its guard asks for a row in `SENDING`
whose lease has not run out; `get?_of_finish` says everything it does.
-/

namespace PromoBot

/-- A row of `deliveries` (`DeliveryModel`). -/
structure Delivery where
  dealId : Nat
  idempotencyKey : Text
  targetChatId : Text
  purpose : DeliveryPurpose
  state : DeliveryState
  attemptCount : Nat
  lastAttemptAt : Option Instant
  nextAttemptAt : Option Instant
  leaseUntil : Option Instant
  telegramMessageId : Option Text
  sentAt : Option Instant
  errorCode : Option String
  errorSummary : Option String
  deriving DecidableEq, Repr

/-- The `deliveries` table. -/
abbrev Deliveries := SqlTable Nat Delivery

namespace DeliveryRepository

open SqlTable

/-- The row `ensure_pending` inserts. -/
def pendingRow (dealId : Nat) (idempotencyKey targetChatId : Text) (purpose : DeliveryPurpose) :
    Delivery where
  dealId := dealId
  idempotencyKey := idempotencyKey
  targetChatId := targetChatId
  purpose := purpose
  state := .pending
  attemptCount := 0
  lastAttemptAt := none
  nextAttemptAt := none
  leaseUntil := none
  telegramMessageId := none
  sentAt := none
  errorCode := none
  errorSummary := none

/-- `ensure_pending`.  A row of the same deal and purpose is left alone and must
have the same identity; a new row must not repeat an idempotency key. -/
def ensurePending (t : Deliveries) (dealId : Nat) (idempotencyKey targetChatId : Text)
    (purpose : DeliveryPurpose) : Option Deliveries :=
  match (t.select fun _ r => r.dealId = dealId ∧ r.purpose = purpose).head? with
  | some (_, r) =>
    if r.idempotencyKey ≠ idempotencyKey ∨ r.targetChatId ≠ targetChatId then none else some t
  | none =>
    if (t.select fun _ r => r.idempotencyKey = idempotencyKey).isEmpty then
      some (t.put t.freshId (pendingRow dealId idempotencyKey targetChatId purpose))
    else none

/-- The rows `claim` takes: never sent yet, or failed retryably and due. -/
def Claimable (now : Instant) (maxAttempts : Nat) (r : Delivery) : Prop :=
  r.attemptCount < maxAttempts ∧
    (r.state = .pending ∨
      (r.state = .failedRetryable ∧ (r.nextAttemptAt = none ∨ AtMost r.nextAttemptAt now)))

instance (now : Instant) (maxAttempts : Nat) : DecidablePred (Claimable now maxAttempts) :=
  fun _ => inferInstanceAs (Decidable (_ ∧ _))

/-- The values `claim` writes. -/
def claimed (now leaseUntil : Instant) (r : Delivery) : Delivery :=
  { r with
    state := .sending
    attemptCount := r.attemptCount + 1
    lastAttemptAt := some now
    nextAttemptAt := none
    leaseUntil := some leaseUntil
    errorCode := none
    errorSummary := none }

/-- `claim`; `none` when no row was taken. -/
def claim (t : Deliveries) (internalId : Nat) (now leaseUntil : Instant) (maxAttempts : Nat) :
    Option Deliveries :=
  t.updateOne internalId (Claimable now maxAttempts) (claimed now leaseUntil)

/-- The guard of `_finish`. -/
def Finishable (transitionedAt : Instant) (r : Delivery) : Prop :=
  r.state = .sending ∧ Above r.leaseUntil transitionedAt

instance (transitionedAt : Instant) : DecidablePred (Finishable transitionedAt) :=
  fun _ => inferInstanceAs (Decidable (_ ∧ _))

/-- What a finishing update writes besides the state. -/
structure Outcome where
  nextAttemptAt : Option Instant
  telegramMessageId : Option Text
  sentAt : Option Instant
  errorCode : Option String

/-- The values `_finish` writes. -/
def finished (state : DeliveryState) (o : Outcome) (r : Delivery) : Delivery :=
  { r with
    state := state
    leaseUntil := none
    nextAttemptAt := o.nextAttemptAt
    telegramMessageId := o.telegramMessageId
    sentAt := o.sentAt
    errorCode := o.errorCode
    errorSummary := none }

/-- `_finish`; `none` is the `DeliveryTransitionConflict`. -/
def finish (t : Deliveries) (internalId : Nat) (state : DeliveryState)
    (transitionedAt : Instant) (o : Outcome) : Option Deliveries :=
  t.updateOne internalId (Finishable transitionedAt) (finished state o)

/-- `mark_sent`, which also refuses a blank message id. -/
def markSent (t : Deliveries) (internalId : Nat) (messageId : Text) (sentAt : Instant) :
    Option Deliveries :=
  if messageId.strip = [] then none
  else finish t internalId .sent sentAt ⟨none, some messageId, some sentAt, none⟩

/-- `mark_retryable`. -/
def markRetryable (t : Deliveries) (internalId : Nat) (transitionedAt nextAttemptAt : Instant)
    (errorCode : String) : Option Deliveries :=
  finish t internalId .failedRetryable transitionedAt
    ⟨some nextAttemptAt, none, none, some errorCode⟩

/-- `mark_ambiguous`. -/
def markAmbiguous (t : Deliveries) (internalId : Nat) (transitionedAt : Instant)
    (errorCode : String) : Option Deliveries :=
  finish t internalId .deliveryAmbiguous transitionedAt ⟨none, none, none, some errorCode⟩

/-- `mark_permanent`. -/
def markPermanent (t : Deliveries) (internalId : Nat) (transitionedAt : Instant)
    (errorCode : String) : Option Deliveries :=
  finish t internalId .failedPermanent transitionedAt ⟨none, none, none, some errorCode⟩

/-- The rows the sweep takes. -/
def StaleSending (now : Instant) (r : Delivery) : Prop :=
  r.state = .sending ∧ AtMost r.leaseUntil now

instance (now : Instant) : DecidablePred (StaleSending now) :=
  fun _ => inferInstanceAs (Decidable (_ ∧ _))

/-- The values the sweep writes. -/
def swept (r : Delivery) : Delivery :=
  { r with
    state := .deliveryAmbiguous
    leaseUntil := none
    nextAttemptAt := none
    errorCode := some "DELIVERY_LEASE_EXPIRED_AMBIGUOUS"
    errorSummary := none }

/-- `mark_stale_sending_ambiguous`. -/
def markStaleSendingAmbiguous (t : Deliveries) (now : Instant) : Deliveries :=
  t.updateWhere (fun _ r => StaleSending now r) swept

/-! ## What each method does to the rows -/

@[simp] theorem claimed_state (now leaseUntil : Instant) (r : Delivery) :
    (claimed now leaseUntil r).state = .sending := rfl

@[simp] theorem claimed_attemptCount (now leaseUntil : Instant) (r : Delivery) :
    (claimed now leaseUntil r).attemptCount = r.attemptCount + 1 := rfl

@[simp] theorem finished_state (state : DeliveryState) (o : Outcome) (r : Delivery) :
    (finished state o r).state = state := rfl

@[simp] theorem finished_attemptCount (state : DeliveryState) (o : Outcome) (r : Delivery) :
    (finished state o r).attemptCount = r.attemptCount := rfl

@[simp] theorem swept_state (r : Delivery) : (swept r).state = .deliveryAmbiguous := rfl

@[simp] theorem swept_attemptCount (r : Delivery) :
    (swept r).attemptCount = r.attemptCount := rfl

/-- `ensure_pending` leaves every existing row as it is; a row it adds is a fresh
`PENDING` one. -/
theorem get?_of_ensurePending {t t' : Deliveries} {dealId : Nat} {key chat : Text}
    {purpose : DeliveryPurpose} (h : ensurePending t dealId key chat purpose = some t')
    (d : Nat) :
    t'.get? d = t.get? d ∨
      (t.get? d = none ∧ t'.get? d = some (pendingRow dealId key chat purpose)) := by
  unfold ensurePending at h
  split at h
  · split at h
    · simp at h
    · exact Or.inl (by rw [Option.some.inj h])
  · split at h
    · rw [← Option.some.inj h]
      rcases eq_or_ne d t.freshId with rfl | hd
      · exact Or.inr ⟨get?_freshId t, get?_put_self _ _ _⟩
      · exact Or.inl (get?_put_ne t _ hd)
    · simp at h

theorem get?_of_claim {t t' : Deliveries} {d : Nat} {now lease : Instant} {maxAttempts : Nat}
    (h : claim t d now lease maxAttempts = some t') :
    (∃ r, t.get? d = some r ∧ Claimable now maxAttempts r ∧
        t'.get? d = some (claimed now lease r)) ∧
      ∀ j, j ≠ d → t'.get? j = t.get? j :=
  get?_of_updateOne h

theorem get?_of_finish {t t' : Deliveries} {d : Nat} {state : DeliveryState} {at' : Instant}
    {o : Outcome} (h : finish t d state at' o = some t') :
    (∃ r, t.get? d = some r ∧ Finishable at' r ∧ t'.get? d = some (finished state o r)) ∧
      ∀ j, j ≠ d → t'.get? j = t.get? j :=
  get?_of_updateOne h

theorem get?_markStaleSendingAmbiguous (t : Deliveries) (now : Instant) (d : Nat) :
    (markStaleSendingAmbiguous t now).get? d =
      (t.get? d).map fun r => if StaleSending now r then swept r else r :=
  get?_updateWhere t _ _ d

/-! ## What can happen to one row -/

/-- The message id of a row in `SENT` is not blank. -/
def SentHasMessageId (r : Delivery) : Prop :=
  r.state = .sent → ∃ m, r.telegramMessageId = some m ∧ m.strip ≠ []

/-- **Everything the repository does to a row**, when no claim is made under a
limit above `maxAttempts`.  It is inserted as `PENDING`, claimed, finished out of
`SENDING`, or swept out of `SENDING`. -/
inductive Change (maxAttempts : Nat) : Option Delivery → Option Delivery → Prop
  | keep (r : Option Delivery) : Change maxAttempts r r
  | insert (dealId : Nat) (key chat : Text) (purpose : DeliveryPurpose) :
      Change maxAttempts none (some (pendingRow dealId key chat purpose))
  | claim {now lease : Instant} {r : Delivery} :
      Claimable now maxAttempts r → Change maxAttempts (some r) (some (claimed now lease r))
  | finish {state : DeliveryState} {at' : Instant} {o : Outcome} {r : Delivery} :
      Finishable at' r →
      state ∈ [.sent, .failedRetryable, .deliveryAmbiguous, .failedPermanent] →
      SentHasMessageId (finished state o r) →
      Change maxAttempts (some r) (some (finished state o r))
  | sweep {now : Instant} {r : Delivery} :
      StaleSending now r → Change maxAttempts (some r) (some (swept r))

variable {maxAttempts : Nat}

theorem Claimable.mono {now : Instant} {limit : Nat} {r : Delivery}
    (h : Claimable now maxAttempts r) (hle : maxAttempts ≤ limit) : Claimable now limit r :=
  ⟨h.1.trans_le hle, h.2⟩

theorem Change.mono {r r' : Option Delivery} {limit : Nat} (h : Change maxAttempts r r')
    (hle : maxAttempts ≤ limit) : Change limit r r' := by
  cases h with
  | keep => exact .keep _
  | insert dealId key chat purpose => exact .insert dealId key chat purpose
  | claim hclaim => exact .claim (hclaim.mono hle)
  | finish hfin hstate hsent => exact .finish hfin hstate hsent
  | sweep hstale => exact .sweep hstale

theorem change_ensurePending {t t' : Deliveries} {dealId : Nat} {key chat : Text}
    {purpose : DeliveryPurpose} (h : ensurePending t dealId key chat purpose = some t')
    (d : Nat) : Change maxAttempts (t.get? d) (t'.get? d) := by
  rcases get?_of_ensurePending h d with heq | ⟨hnone, hnew⟩
  · exact heq ▸ Change.keep _
  · exact hnone ▸ hnew ▸ Change.insert dealId key chat purpose

theorem change_claim {t t' : Deliveries} {i : Nat} {now lease : Instant}
    (h : claim t i now lease maxAttempts = some t') (d : Nat) :
    Change maxAttempts (t.get? d) (t'.get? d) := by
  obtain ⟨⟨r, hr, hclaim, hr'⟩, hother⟩ := get?_of_claim h
  rcases eq_or_ne d i with rfl | hd
  · exact hr ▸ hr' ▸ Change.claim hclaim
  · exact hother d hd ▸ Change.keep _

theorem change_finish {t t' : Deliveries} {i : Nat} {state : DeliveryState} {at' : Instant}
    {o : Outcome} (h : finish t i state at' o = some t')
    (hstate : state ∈ [.sent, .failedRetryable, .deliveryAmbiguous, .failedPermanent])
    (hsent : ∀ r, SentHasMessageId (finished state o r)) (d : Nat) :
    Change maxAttempts (t.get? d) (t'.get? d) := by
  obtain ⟨⟨r, hr, hfin, hr'⟩, hother⟩ := get?_of_finish h
  rcases eq_or_ne d i with rfl | hd
  · exact hr ▸ hr' ▸ Change.finish hfin hstate (hsent r)
  · exact hother d hd ▸ Change.keep _

theorem change_markSent {t t' : Deliveries} {i : Nat} {messageId : Text} {sentAt : Instant}
    (h : markSent t i messageId sentAt = some t') (d : Nat) :
    Change maxAttempts (t.get? d) (t'.get? d) := by
  unfold markSent at h
  split at h
  · simp at h
  · next hblank => exact change_finish h (by simp) (fun r _ => ⟨messageId, rfl, hblank⟩) d

theorem change_markRetryable {t t' : Deliveries} {i : Nat} {at' next : Instant} {code : String}
    (h : markRetryable t i at' next code = some t') (d : Nat) :
    Change maxAttempts (t.get? d) (t'.get? d) :=
  change_finish h (by simp) (fun r hs => by simp at hs) d

theorem change_markAmbiguous {t t' : Deliveries} {i : Nat} {at' : Instant} {code : String}
    (h : markAmbiguous t i at' code = some t') (d : Nat) :
    Change maxAttempts (t.get? d) (t'.get? d) :=
  change_finish h (by simp) (fun r hs => by simp at hs) d

theorem change_markPermanent {t t' : Deliveries} {i : Nat} {at' : Instant} {code : String}
    (h : markPermanent t i at' code = some t') (d : Nat) :
    Change maxAttempts (t.get? d) (t'.get? d) :=
  change_finish h (by simp) (fun r hs => by simp at hs) d

theorem change_markStaleSendingAmbiguous (t : Deliveries) (now : Instant) (d : Nat) :
    Change maxAttempts (t.get? d) ((markStaleSendingAmbiguous t now).get? d) := by
  rw [get?_markStaleSendingAmbiguous]
  cases t.get? d with
  | none => exact Change.keep none
  | some r =>
    by_cases h : StaleSending now r
    · simpa [h] using Change.sweep h
    · simpa [h] using Change.keep (some r)

/-! ## Closed rows -/

/-- The states nothing leaves again: what the outbox knows about the delivery is
final. -/
def Closed (s : DeliveryState) : Prop :=
  s = .sent ∨ s = .deliveryAmbiguous ∨ s = .failedPermanent

instance : DecidablePred Closed := fun _ => inferInstanceAs (Decidable (_ ∨ _))

theorem not_claimable_of_closed {r : Delivery} (h : Closed r.state) (now : Instant)
    (maxAttempts : Nat) : ¬ Claimable now maxAttempts r := by
  rintro ⟨_, hstate⟩
  rcases h with h | h | h <;> simp [h] at hstate

theorem claim_eq_none_of_closed {t : Deliveries} {d : Nat} {r : Delivery}
    (hr : t.get? d = some r) (h : Closed r.state) (now lease : Instant) (maxAttempts : Nat) :
    claim t d now lease maxAttempts = none := by
  refine updateOne_eq_none.2 fun r' hr' => ?_
  obtain rfl := Option.some.inj (hr.symm.trans hr')
  exact not_claimable_of_closed h now maxAttempts

theorem Change.of_closed {r : Delivery} {r' : Option Delivery} (hc : Change maxAttempts (some r) r')
    (h : Closed r.state) : r' = some r := by
  cases hc with
  | keep => rfl
  | claim hclaim => exact absurd hclaim (not_claimable_of_closed h _ _)
  | finish hfin => exact absurd (hfin.1 ▸ h) (by decide)
  | sweep hstale => exact absurd (hstale.1 ▸ h) (by decide)

theorem Change.attemptCount_le {r r' : Option Delivery} (hc : Change maxAttempts r r')
    (h : ∀ x ∈ r, x.attemptCount ≤ maxAttempts) : ∀ x ∈ r', x.attemptCount ≤ maxAttempts := by
  cases hc with
  | keep => exact h
  | insert | claim | finish | sweep =>
    intro x hx
    simp only [Option.mem_some_iff] at hx
    subst hx
    simp_all [pendingRow, Claimable]
    try omega

/-- A row in `SENT` carries a message id, whatever happened to it. -/
theorem Change.sentHasMessageId {r r' : Option Delivery} (hc : Change maxAttempts r r')
    (h : ∀ x ∈ r, SentHasMessageId x) : ∀ x ∈ r', SentHasMessageId x := by
  cases hc with
  | keep => exact h
  | insert | claim | sweep =>
    intro x hx hs
    simp only [Option.mem_some_iff] at hx
    subst hx
    simp [pendingRow] at hs
  | finish _ _ hsent =>
    intro x hx
    simp only [Option.mem_some_iff] at hx
    exact hx ▸ hsent

end DeliveryRepository

end PromoBot
