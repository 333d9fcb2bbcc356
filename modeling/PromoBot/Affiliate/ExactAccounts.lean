import PromoBot.Affiliate.SendAccounting

/-!
# When the accounts are exact

A run keeps its accounts as long as three things do not happen: the budget refuses a call of
the canonical service, whose row is marked as sending by then; a call of the coin service ends
between its charge and its `send_text`; and a call is stopped, or asked about, between the
commit of its `mark_sending` and its `send_text`.

The invariant says of each call what it may still write or report, of each row who will send
it, and of each call under a controller whether it is charged for a send to come.

## Two accounts

There are two things to be exact about.  One is what a delivery row or a report says:
*uncertain* should mean that `send_text` was invoked and nobody knows what came of it, and
*failed safe* that it was not.  The other is the counter of a controller, which should be the
number of messages sent under it.  They are charged and written at different points, and the
two services do so in different orders: the canonical service marks its row and passes
`before_send` then, so a refusal by the budget finds a row which is marked; the coin service is
charged first and marks its row then, so a row that cannot be marked leaves a charge for
nothing.

`Rows` is the invariant of the first account and `Books` that of the second.  They meet in the
call: the first says what a call may still write of its delivery (`Truthful`), and the second
whether it owes a send to a counter (`ahead`).  Each step moves one call, so that what a step
has to show is that the call it moves says nothing untrue where it stands now and is charged
for what it was charged for (`Exact.withCall`).

`Orderly` names the steps at which one of the two goes wrong, by the state before the step.  It
is what the accounts need: `accounting_not_exact` has a run for each account that breaks it.
-/

namespace PromoBot
namespace Shadow
namespace Accounting

open ShadowDeliveries SqlTable

variable {env : Env} {w w' : World} {p : Nat}

/-! ## What the accounts say -/

/-- `send_text` was invoked for the delivery. -/
def Sent (w : World) (d : Delivery) : Prop := ∃ e ∈ w.sent, jobDelivery e.2 = d

/-- The invocations of `send_text` under a controller. -/
def sends (env : Env) (w : World) (k : Nat) : Nat :=
  w.sent.countP fun e => env.controller e.1 = some k

/-- The call was charged and has still to send: it is one of the coin service, under a
controller, at `mark_sending` or right after it. -/
def Charging (env : Env) (p : Nat) : Call → Prop
  | .marking job | .marked job => job.service ≠ .canonical ∧ (env.controller p).isSome
  | _ => False

instance (env : Env) (p : Nat) : DecidablePred (Charging env p) := fun c => by
  cases c <;> unfold Charging <;> infer_instance

/-- **The condition on the steps of a run.**

* A call does not ask for a delivery which another call has marked and not sent yet.
* The budget does not refuse a call of the canonical service.
* `mark_sending` does not fail in a call that was charged.
* Nothing stops a call that was charged, or whose `mark_sending` was committed, before its
  `send_text`. -/
def Orderly (env : Env) (w : World) : Action → Prop
  | .start _ service previewId chatId now ready historyOk =>
    ∀ d state, w.tables.reserve env.keys service previewId chatId now ready historyOk =
      .found d state → ∀ q job, w.calls q = .marked job → jobDelivery job ≠ d
  | .resume p => ∀ job, w.calls p = .marked job → job.service = .canonical →
      (w.beforeSend env p).isSome
  | .markSending p now historyOk => ∀ job, w.calls p = .marking job →
      Charging env p (w.calls p) → (w.tables.markSending job now historyOk).isSome
  | .raise p _ | .crash p => ¬ Charging env p (w.calls p) ∧ ∀ job, w.calls p ≠ .marked job
  | _ => True

/-- What a call may still write or report is true of what was sent. -/
def Truthful (sent : Delivery → Prop) : Call → Prop
  | .inTransport job => sent (jobDelivery job)
  | .closing job c => c.state = .uncertain ∨ c.state = .sent ∨ c.marked = true →
      sent (jobDelivery job)
  | .returned (some d) report => report.status = .uncertain → sent d
  | _ => True

/-- What holds of the rows and of what the calls say of them. -/
structure Rows (w : World) : Prop where
  truthful : ∀ p, Truthful (Sent w) (w.calls p)
  uncertain : ∀ d, w.tables.state? d = some .uncertain → Sent w d
  sending : ∀ d, w.tables.state? d = some .sending →
    Sent w d ∨ ∃ p job, w.calls p = .marked job ∧ jobDelivery job = d

/-- The sends a call was charged for and has still to make. -/
def ahead (env : Env) (p : Nat) (c : Call) : Nat := if Charging env p c then 1 else 0

/-- What holds of the counters. -/
structure Books (env : Env) (w : World) : Prop where
  counter : ∀ k, w.sendMessages k = w.charged.countP fun p => env.controller p = some k
  balanced : ∀ p, (env.controller p).isSome →
    w.charged.count p = (w.sent.map Prod.fst).count p + ahead env p (w.calls p)

theorem Truthful.mono {sent sent' : Delivery → Prop} (h : ∀ d, sent d → sent' d) {c : Call}
    (hc : Truthful sent c) : Truthful sent' c := by
  cases c with
  | inTransport job => exact h _ hc
  | closing job c => exact fun hclaim => h _ (hc hclaim)
  | returned d report =>
    cases d with
    | none => trivial
    | some d => exact fun hclaim => h _ (hc hclaim)
  | _ => trivial

/-! ## What a call records -/

/-- Before a row is marked, what ends a call leaves it in `failed_safe`. -/
theorem closing_of_not_marked {service : Service} {stage : Stage} (raised : Raised)
    (h : service.marked stage = false) :
    (service.closing stage raised).state = .failedSafe ∧
      (service.closing stage raised).marked = false := by
  cases service <;> cases raised <;> simp [Service.closing, h]

theorem truthful_of_not_marked {sent : Delivery → Prop} {job : Job} {service : Service}
    {stage : Stage} {raised : Raised} (h : service.marked stage = false) :
    Truthful sent (.closing job (service.closing stage raised)) := by
  obtain ⟨hstate, hmarked⟩ := closing_of_not_marked raised h
  rintro (huncertain | hsent | htrue)
  · rw [hstate] at huncertain
    cases huncertain
  · rw [hstate] at hsent
    cases hsent
  · rw [hmarked] at htrue
    cases htrue

/-- A report is uncertain only where its call was, or did not save what it sent. -/
theorem claim_of_report {service : Service} {c : Closing} {saved : Bool}
    (h : (service.report c saved).status = .uncertain) :
    c.state = .uncertain ∨ c.state = .sent ∨ c.marked = true := by
  cases service with
  | canonical =>
    simp only [Service.report] at h
    split at h
    · exact Or.inl h
    · split at h
      · next hmarked => exact Or.inr (Or.inr hmarked)
      · cases h
  | coin multi =>
    simp only [Service.report] at h
    split at h
    · next hsent => exact Or.inr (Or.inl hsent.1)
    · exact Or.inl h

/-! ## The rows -/

/-- A call moves on that has nothing marked, to where it says nothing untrue. -/
theorem Rows.withCall {c : Call} (h : Rows w) (hc : Truthful (Sent w) c)
    (hp : ∀ job, w.calls p ≠ .marked job) : Rows (w.withCall p c) where
  truthful q := by
    show Truthful (Sent w) (Function.update w.calls p c q)
    rcases eq_or_ne q p with rfl | hq
    · rwa [Function.update_self]
    · rw [Function.update_of_ne hq]
      exact h.truthful q
  uncertain := h.uncertain
  sending d hd := by
    rcases h.sending d hd with hsent | ⟨q, job, hq, hjob⟩
    · exact Or.inl hsent
    · have hne : q ≠ p := fun heq => hp job (heq ▸ hq)
      exact Or.inr ⟨q, job, (Function.update_of_ne hne ..).trans hq, hjob⟩

theorem Rows.withTables {t : Tables} (h : Rows w)
    (ht : ∀ d state, state = .uncertain ∨ state = .sending → t.state? d = some state →
      w.tables.state? d = some state) : Rows { w with tables := t } where
  truthful := h.truthful
  uncertain d hd := h.uncertain d (ht d _ (Or.inl rfl) hd)
  sending d hd := h.sending d (ht d _ (Or.inr rfl) hd)

/-- A call marks its row. -/
theorem Rows.mark {t : Tables} {job : Job} (h : Rows w) (hp : w.calls p = .marking job)
    (hself : t.state? (jobDelivery job) = some .sending)
    (hother : ∀ d, d ≠ jobDelivery job → t.state? d = w.tables.state? d) :
    Rows ({ w with tables := t }.withCall p (.marked job)) where
  truthful q := by
    show Truthful (Sent w) (Function.update w.calls p (.marked job) q)
    rcases eq_or_ne q p with rfl | hq
    · rw [Function.update_self]
      trivial
    · rw [Function.update_of_ne hq]
      exact h.truthful q
  uncertain d hd := by
    change t.state? d = some .uncertain at hd
    rcases eq_or_ne d (jobDelivery job) with rfl | hne
    · rw [hself] at hd
      cases hd
    · exact h.uncertain d (hother d hne ▸ hd)
  sending d hd := by
    change t.state? d = some .sending at hd
    rcases eq_or_ne d (jobDelivery job) with rfl | hne
    · exact Or.inr ⟨p, job, Function.update_self .., rfl⟩
    · rcases h.sending d (hother d hne ▸ hd) with hsent | ⟨q, job', hq, hjob⟩
      · exact Or.inl hsent
      · have hqp : q ≠ p := by
          rintro rfl
          rw [hp] at hq
          cases hq
        exact Or.inr ⟨q, job', (Function.update_of_ne hqp ..).trans hq, hjob⟩

/-- A call sends the message of the row it has marked. -/
theorem Rows.sendText {job : Job} (h : Rows w) (hp : w.calls p = .marked job) :
    Rows (w.sendText p job) := by
  have hmono : ∀ d, Sent w d → Sent (w.sendText p job) d := by
    rintro d ⟨e, he, hd⟩
    exact ⟨e, List.mem_cons_of_mem _ he, hd⟩
  have hself : Sent (w.sendText p job) (jobDelivery job) := ⟨(p, job), List.mem_cons_self, rfl⟩
  refine ⟨fun q => ?_, fun d hd => hmono d (h.uncertain d hd), fun d hd => ?_⟩
  · show Truthful (Sent (w.sendText p job)) (Function.update w.calls p (.inTransport job) q)
    rcases eq_or_ne q p with rfl | hq
    · rw [Function.update_self]
      exact hself
    · rw [Function.update_of_ne hq]
      exact (h.truthful q).mono hmono
  · rcases h.sending d hd with hsent | ⟨q, job', hq, rfl⟩
    · exact Or.inl (hmono d hsent)
    · rcases eq_or_ne q p with rfl | hne
      · obtain rfl := Call.marked.inj (hp.symm.trans hq)
        exact Or.inl hself
      · exact Or.inr ⟨q, job', (Function.update_of_ne hne ..).trans hq, rfl⟩

/-! ## The books -/

theorem Books.withCall {c : Call} (h : Books env w) (hc : ahead env p c = ahead env p (w.calls p)) :
    Books env (w.withCall p c) where
  counter := h.counter
  balanced q hq := by
    show w.charged.count q = (w.sent.map Prod.fst).count q +
      ahead env q (Function.update w.calls p c q)
    rcases eq_or_ne q p with rfl | hne
    · rw [Function.update_self, hc]
      exact h.balanced q hq
    · rw [Function.update_of_ne hne]
      exact h.balanced q hq

/-- What `before_send` does where it does not raise. -/
theorem beforeSend_eq_some {w₁ : World} (h : w.beforeSend env p = some w₁) :
    (env.controller p = none ∧ w₁ = w) ∨ ∃ k, env.controller p = some k ∧
      w₁ = { w with
        sendMessages := Function.update w.sendMessages k (w.sendMessages k + 1)
        charged := p :: w.charged } := by
  unfold World.beforeSend at h
  split at h
  · next hnone => exact Or.inl ⟨hnone, (Option.some.inj h).symm⟩
  · next k hk =>
    split at h
    · next count hcount =>
      unfold beforeSendMessage at hcount
      split at hcount
      · cases hcount
      · split at hcount
        · cases hcount
        · obtain rfl := Except.ok.inj hcount
          exact Or.inr ⟨k, hk, (Option.some.inj h).symm⟩
    · cases h

/-- The rows and the calls are not touched by `before_send`. -/
theorem Rows.beforeSend {w₁ : World} (h : Rows w) (hw₁ : w.beforeSend env p = some w₁) :
    Rows w₁ ∧ w₁.calls = w.calls ∧ w₁.sent = w.sent := by
  rcases beforeSend_eq_some hw₁ with ⟨-, rfl⟩ | ⟨k, -, rfl⟩
  · exact ⟨h, rfl, rfl⟩
  · exact ⟨⟨h.truthful, h.uncertain, h.sending⟩, rfl, rfl⟩

/-- A call that is charged moves on to where it is charged for a send, or has sent. -/
theorem Books.charge {w₁ w₂ : World} {c : Call} (h : Books env w)
    (hw₁ : w.beforeSend env p = some w₁) (hp : ahead env p (w.calls p) = 0)
    (hcalls : w₂.calls = Function.update w.calls p c)
    (hcharged : w₂.charged = w₁.charged) (hcounters : w₂.sendMessages = w₁.sendMessages)
    (hself : (env.controller p).isSome →
      (w₂.sent.map Prod.fst).count p + ahead env p c = (w.sent.map Prod.fst).count p + 1)
    (hother : ∀ q, q ≠ p → (w₂.sent.map Prod.fst).count q = (w.sent.map Prod.fst).count q) :
    Books env w₂ := by
  rcases beforeSend_eq_some hw₁ with ⟨hnone, rfl⟩ | ⟨k, hk, rfl⟩
  · refine ⟨fun k => by rw [hcounters, hcharged]; exact h.counter k, fun q hq => ?_⟩
    have hne : q ≠ p := by
      rintro rfl
      rw [hnone] at hq
      cases hq
    rw [hcharged, hother q hne, hcalls, Function.update_of_ne hne]
    exact h.balanced q hq
  · refine ⟨fun l => ?_, fun q hq => ?_⟩
    · rw [hcounters, hcharged]
      show Function.update w.sendMessages k (w.sendMessages k + 1) l =
        (p :: w.charged).countP fun p => env.controller p = some l
      rw [List.countP_cons, ← h.counter l]
      rcases eq_or_ne l k with rfl | hne
      · rw [Function.update_self, if_pos (decide_eq_true hk)]
      · rw [Function.update_of_ne hne, if_neg]
        · rfl
        · intro heq
          exact hne (Option.some.inj ((of_decide_eq_true heq).symm.trans hk))
    · rw [hcharged, hcalls]
      show (p :: w.charged).count q = _
      rcases eq_or_ne q p with rfl | hne
      · rw [List.count_cons_self, Function.update_self, h.balanced q hq, hp]
        exact (hself hq).symm
      · rw [List.count_cons_of_ne (Ne.symm hne), Function.update_of_ne hne, hother q hne]
        exact h.balanced q hq

/-- A call sends what it was charged for. -/
theorem Books.sendText {job : Job} (h : Books env w)
    (hp : (env.controller p).isSome → ahead env p (w.calls p) = 1) :
    Books env (w.sendText p job) where
  counter := h.counter
  balanced q hq := by
    show w.charged.count q = ((p, job) :: w.sent |>.map Prod.fst).count q +
      ahead env q (Function.update w.calls p (.inTransport job) q)
    rw [List.map_cons]
    rcases eq_or_ne q p with rfl | hne
    · rw [List.count_cons_self, Function.update_self, h.balanced q hq, hp hq]
      rfl
    · rw [List.count_cons_of_ne (Ne.symm hne), Function.update_of_ne hne]
      exact h.balanced q hq

/-! ## Every step -/

/-- The accounts are kept. -/
structure Exact (env : Env) (w : World) : Prop where
  rows : Rows w
  books : Books env w

/-- A call moves on that is not charged for anything and has marked nothing, to where it is
not charged and says nothing untrue. -/
theorem Exact.withCall {c : Call} (h : Exact env w) (hc : Truthful (Sent w) c)
    (hp : ∀ job, w.calls p ≠ .marked job) (hahead : ahead env p c = ahead env p (w.calls p)) :
    Exact env (w.withCall p c) :=
  ⟨h.rows.withCall hc hp, h.books.withCall hahead⟩

theorem ahead_eq_zero {c : Call} (h : ¬ Charging env p c) : ahead env p c = 0 := if_neg h

theorem Exact.start {service : Service} {previewId : Nat} {chatId : Text} {now : Instant}
    {ready historyOk : Bool} (h : Exact env w)
    (hgood : Orderly env w (.start p service previewId chatId now ready historyOk))
    (hstep : step env w (.start p service previewId chatId now ready historyOk) = some w') :
    Exact env w' := by
  simp only [step] at hstep
  split at hstep
  · next hp =>
    have hmarked : ∀ job, w.calls p ≠ .marked job := by
      intro job heq
      rw [hp] at heq
      cases heq
    have hidle : ahead env p (w.calls p) = 0 := by
      rw [hp]
      rfl
    obtain ⟨hcreated, hfound⟩ := w.tables.state?_reserve env.keys service previewId chatId
      now ready historyOk
    split at hstep
    · obtain rfl := Option.some.inj hstep
      exact h.withCall trivial hmarked hidle.symm
    · next t job hreserve =>
      obtain rfl := Option.some.inj hstep
      obtain ⟨hself, hother⟩ := hcreated t job hreserve
      refine ⟨(h.rows.withTables fun d state hstate hd => ?_).withCall trivial hmarked,
        Books.withCall ⟨h.books.counter, h.books.balanced⟩ hidle.symm⟩
      rcases eq_or_ne d (jobDelivery job) with rfl | hne
      · rw [hself] at hd
        rcases hstate with rfl | rfl <;> cases hd
      · exact hother d hne ▸ hd
    · next d state hreserve =>
      obtain rfl := Option.some.inj hstep
      refine h.withCall ?_ hmarked hidle.symm
      show (service.alreadyAttempted state).status = .uncertain → Sent w d
      intro hstatus
      have hd := hfound d state hreserve
      change (if state = .sending then ShadowDeliveryState.uncertain else state) = .uncertain
        at hstatus
      split at hstatus
      · next hsending =>
        rcases h.rows.sending d (hsending ▸ hd) with hsent | ⟨q, job, hq, hjob⟩
        · exact hsent
        · exact absurd hjob (hgood d state hreserve q job hq)
      · exact h.rows.uncertain d (hstatus ▸ hd)
    · obtain rfl := Option.some.inj hstep
      exact h.withCall trivial hmarked hidle.symm
  · cases hstep

/-- The charge of the coin service, and the end of the checks. -/
theorem Exact.proceed (h : Exact env w) (hstep : step env w (.proceed p) = some w') :
    Exact env w' := by
  simp only [step] at hstep
  split at hstep
  · next job hp =>
    have hmarked : ∀ job, w.calls p ≠ .marked job := by
      intro job heq
      rw [hp] at heq
      cases heq
    have hidle : ahead env p (w.calls p) = 0 := by
      rw [hp]
      rfl
    split at hstep
    · next hservice =>
      obtain rfl := Option.some.inj hstep
      refine h.withCall trivial hmarked ?_
      rw [hidle]
      exact ahead_eq_zero fun hcharging => hcharging.1 hservice
    · next multi hservice =>
      split at hstep
      · next w₁ hw₁ =>
        obtain rfl := Option.some.inj hstep
        obtain ⟨hrows, hcalls, hsent⟩ := h.rows.beforeSend hw₁
        constructor
        · refine hrows.withCall trivial ?_
          rwa [hcalls]
        · refine h.books.charge (c := .marking job) hw₁ hidle ?_ rfl rfl (fun hcontrolled => ?_)
            fun q _ => ?_
          · show Function.update w₁.calls p _ = _
            rw [hcalls]
          · have hahead : ahead env p (.marking job) = 1 := by
              refine if_pos ⟨?_, hcontrolled⟩
              rw [hservice]
              nofun
            show (w₁.sent.map Prod.fst).count p + _ = _
            rw [hsent, hahead]
          · show (w₁.sent.map Prod.fst).count q = _
            rw [hsent]
      · obtain rfl := Option.some.inj hstep
        exact h.withCall (truthful_of_not_marked rfl) hmarked hidle.symm
  · cases hstep

/-- A call marks its row, or cannot. -/
theorem Exact.markSending {now : Instant} {historyOk : Bool} (h : Exact env w)
    (hgood : Orderly env w (.markSending p now historyOk))
    (hstep : step env w (.markSending p now historyOk) = some w') : Exact env w' := by
  simp only [step] at hstep
  split at hstep
  · next job hp =>
    split at hstep
    · next t ht =>
      obtain rfl := Option.some.inj hstep
      obtain ⟨hself, hother⟩ := Tables.state?_markSending ht
      refine ⟨h.rows.mark hp hself hother, Books.withCall ⟨h.books.counter, h.books.balanced⟩ ?_⟩
      show ahead env p (.marked job) = ahead env p (w.calls p)
      rw [hp]
      rfl
    · next hnone =>
      obtain rfl := Option.some.inj hstep
      have hnot : ¬ Charging env p (w.calls p) := by
        intro hcharging
        have hsome := hgood job hp hcharging
        rw [hnone] at hsome
        cases hsome
      refine h.withCall (truthful_of_not_marked ?_) ?_ ?_
      · cases job.service <;> rfl
      · intro job' heq
        rw [hp] at heq
        cases heq
      · rw [ahead_eq_zero hnot]
        rfl
  · cases hstep

/-- A call whose row is marked sends. -/
theorem Exact.resume (h : Exact env w) (hgood : Orderly env w (.resume p))
    (hstep : step env w (.resume p) = some w') : Exact env w' := by
  simp only [step] at hstep
  split at hstep
  · next job hp =>
    split at hstep
    · next hservice =>
      obtain ⟨w₁, hw₁⟩ := Option.isSome_iff_exists.1 (hgood job hp hservice)
      rw [hw₁] at hstep
      obtain rfl := Option.some.inj hstep
      obtain ⟨hrows, hcalls, hsent⟩ := h.rows.beforeSend hw₁
      constructor
      · refine hrows.sendText ?_
        rwa [hcalls]
      · refine h.books.charge (c := .inTransport job) hw₁ ?_ ?_ rfl rfl (fun _ => ?_)
          fun q hq => ?_
        · rw [hp]
          exact ahead_eq_zero fun hcharging => hcharging.1 hservice
        · show Function.update w₁.calls p _ = _
          rw [hcalls]
        · show ((p, job) :: w₁.sent |>.map Prod.fst).count p + 0 = _
          rw [List.map_cons, List.count_cons_self, hsent]
        · show ((p, job) :: w₁.sent |>.map Prod.fst).count q = _
          rw [List.map_cons, List.count_cons_of_ne (Ne.symm hq), hsent]
    · next multi hservice =>
      obtain rfl := Option.some.inj hstep
      refine ⟨h.rows.sendText hp, h.books.sendText fun hcontrolled => ?_⟩
      rw [hp]
      refine if_pos ⟨?_, hcontrolled⟩
      rw [hservice]
      nofun
  · cases hstep

/-- What an exception makes a call record. -/
theorem Exact.raise {raised : Raised} (h : Exact env w) (hgood : Orderly env w (.raise p raised))
    (hstep : step env w (.raise p raised) = some w') : Exact env w' := by
  obtain ⟨hcharging, hmarked⟩ := hgood
  have hahead : ∀ job c, ahead env p (.closing job c) = ahead env p (w.calls p) := by
    intro job c
    rw [ahead_eq_zero hcharging]
    rfl
  simp only [step] at hstep
  split at hstep
  · next job hp =>
    obtain rfl := Option.some.inj hstep
    refine h.withCall (truthful_of_not_marked ?_) hmarked (hahead _ _)
    cases job.service <;> rfl
  · next job hp =>
    obtain rfl := Option.some.inj hstep
    refine h.withCall (truthful_of_not_marked ?_) hmarked (hahead _ _)
    cases job.service <;> rfl
  · next job hp => exact absurd hp (hmarked job)
  · next job hp =>
    obtain rfl := Option.some.inj hstep
    have hsent := h.rows.truthful p
    rw [hp] at hsent
    exact h.withCall (fun _ => hsent) hmarked (hahead _ _)
  · cases hstep

/-- What a call records after the answer. -/
theorem Exact.answer {messageId : Text} (h : Exact env w)
    (hstep : step env w (.answer p messageId) = some w') : Exact env w' := by
  simp only [step] at hstep
  split at hstep
  · next job hp =>
    obtain rfl := Option.some.inj hstep
    have hsent := h.rows.truthful p
    rw [hp] at hsent
    refine h.withCall (fun _ => hsent) ?_ ?_
    · intro job' heq
      rw [hp] at heq
      cases heq
    · rw [hp]
      rfl
  · cases hstep

theorem Exact.cancelFinish (h : Exact env w) (hstep : step env w (.cancelFinish p) = some w') :
    Exact env w' := by
  simp only [step] at hstep
  split at hstep
  · next hp =>
    obtain rfl := Option.some.inj hstep
    have htruthful := h.rows.truthful p
    rw [hp] at htruthful
    refine h.withCall (fun _ => htruthful (Or.inr (Or.inl rfl))) ?_ ?_
    · intro job' heq
      rw [hp] at heq
      cases heq
    · rw [hp]
      rfl
  · cases hstep

/-- What a call has recorded, and reports. -/
theorem Exact.finish {now : Instant} {historyOk : Bool} (h : Exact env w)
    (hstep : step env w (.finish p now historyOk) = some w') : Exact env w' := by
  simp only [step] at hstep
  split at hstep
  · next job c hp =>
    have htruthful := h.rows.truthful p
    rw [hp] at htruthful
    have hmarked : ∀ job, w.calls p ≠ .marked job := by
      intro job' heq
      rw [hp] at heq
      cases heq
    have hafter : ∀ saved, Truthful (Sent w) (if c.raises then .gone
        else .returned (some (jobDelivery job)) (job.service.report c saved)) ∧
          ahead env p (if c.raises then .gone
            else .returned (some (jobDelivery job)) (job.service.report c saved)) =
            ahead env p (w.calls p) := by
      intro saved
      rw [hp]
      split
      · exact ⟨trivial, rfl⟩
      · exact ⟨fun hstatus => htruthful (claim_of_report hstatus), rfl⟩
    split at hstep
    · next t ht =>
      obtain rfl := Option.some.inj hstep
      obtain ⟨hnot, hself, hother⟩ := Tables.state?_finish ht
      constructor
      · have hrows : Rows { w with tables := t } := by
          refine ⟨h.rows.truthful, fun d hd => ?_, fun d hd => ?_⟩
          · rcases eq_or_ne d (jobDelivery job) with rfl | hne
            · exact htruthful (Or.inl (Option.some.inj (hself.symm.trans hd)))
            · exact h.rows.uncertain d ((hother d hne).symm.trans hd)
          · rcases eq_or_ne d (jobDelivery job) with rfl | hne
            · exact absurd (Option.some.inj (hself.symm.trans hd)) hnot
            · exact h.rows.sending d ((hother d hne).symm.trans hd)
        exact hrows.withCall (hafter true).1 hmarked
      · exact Books.withCall ⟨h.books.counter, h.books.balanced⟩ (hafter true).2
    · obtain rfl := Option.some.inj hstep
      exact h.withCall (hafter false).1 hmarked (hafter false).2
  · cases hstep

theorem Exact.crash (h : Exact env w) (hgood : Orderly env w (.crash p))
    (hstep : step env w (.crash p) = some w') : Exact env w' := by
  obtain ⟨hcharging, hmarked⟩ := hgood
  have hw' : w' = w.withCall p .gone := by
    simp only [step] at hstep
    split at hstep
    case h_4 => exact (Option.some.inj hstep).symm
    all_goals cases hstep
  rw [hw']
  refine h.withCall trivial hmarked ?_
  rw [ahead_eq_zero hcharging]
  rfl

/-- **An orderly step keeps the accounts.** -/
theorem Exact.step {act : Action} (h : Exact env w) (hgood : Orderly env w act)
    (hstep : step env w act = some w') : Exact env w' := by
  cases act with
  | previews previews coinPreviews coinMultiPreviews =>
    obtain rfl := Option.some.inj hstep
    refine ⟨h.rows.withTables fun d state _ hd => ?_, h.books.counter, h.books.balanced⟩
    cases d <;> exact hd
  | purge previewIds multiPreviewIds =>
    obtain rfl := Option.some.inj hstep
    refine ⟨h.rows.withTables fun d state _ hd => ?_, h.books.counter, h.books.balanced⟩
    exact (Tables.state?_forgetPreviews d).symm.trans hd
  | start p service previewId chatId now ready historyOk => exact h.start hgood hstep
  | proceed p => exact h.proceed hstep
  | markSending p now historyOk => exact h.markSending hgood hstep
  | resume p => exact h.resume hgood hstep
  | answer p messageId => exact h.answer hstep
  | raise p raised => exact h.raise hgood hstep
  | cancelFinish p => exact h.cancelFinish hstep
  | finish p now historyOk => exact h.finish hstep
  | crash p => exact h.crash hgood hstep

/-- Every orderly run keeps the accounts. -/
theorem exact_of_reachableUnder (hw : (system env).ReachableUnder (Orderly env) w) :
    Exact env w := by
  refine hw.invariant ?_ fun w act w' h hgood hstep => h.step hgood hstep
  rintro w ⟨hdeliveries, hcoinDeliveries, hidle, hcounters, hcharged, hsent⟩
  have hempty : ∀ d, w.tables.state? d = none := by
    intro d
    cases d with
    | canonical id =>
      show (w.tables.deliveries.get? id).map ShadowDelivery.state = none
      rw [hdeliveries]
      rfl
    | coin id =>
      show (w.tables.coinDeliveries.get? id).map ShadowDelivery.state = none
      rw [hcoinDeliveries]
      rfl
  refine ⟨⟨fun p => ?_, fun d hd => ?_, fun d hd => ?_⟩, fun k => ?_, fun p _ => ?_⟩
  · rw [hidle]
    trivial
  · rw [hempty] at hd
    cases hd
  · rw [hempty] at hd
    cases hd
  · rw [hcounters, hcharged]
    rfl
  · rw [hcharged, hsent, hidle]
    rfl

/-! ## The accounts are exact -/

/-- Two lists in which the same elements of a kind stand equally often have equally many
elements of that kind. -/
theorem countP_eq_of_count {f : Nat → Bool} {l l' : List Nat}
    (h : ∀ p, f p = true → l.count p = l'.count p) : l.countP f = l'.countP f := by
  rw [List.countP_eq_length_filter, List.countP_eq_length_filter]
  refine List.Perm.length_eq (List.perm_iff_count.2 fun p => ?_)
  by_cases hp : f p = true
  · rw [List.count_filter hp, List.count_filter hp, h p hp]
  · have hnot : ∀ l : List Nat, p ∉ l.filter f := fun l hmem => hp (List.mem_filter.1 hmem).2
    rw [List.count_eq_zero.2 (hnot l), List.count_eq_zero.2 (hnot l')]

/-- **Send accounting is exact in orderly runs.**  A delivery is uncertain in its row only if
`send_text` was invoked for it, and so it is in a report; and the counter of a controller is
the number of invocations of `send_text` under it, save while one of its calls is between its
charge and its send. -/
theorem accounting_exact (hw : (system env).ReachableUnder (Orderly env) w) :
    (∀ d, w.tables.state? d = some .uncertain → Sent w d) ∧
    (∀ p d report, w.calls p = .returned (some d) report → report.status = .uncertain →
      Sent w d) ∧
    ∀ k, (∀ p, env.controller p = some k → ¬ Charging env p (w.calls p)) →
      w.sendMessages k = sends env w k := by
  have hexact := exact_of_reachableUnder hw
  refine ⟨hexact.rows.uncertain, fun p d report hp hstatus => ?_, fun k hk => ?_⟩
  · have htruthful := hexact.rows.truthful p
    rw [hp] at htruthful
    exact htruthful hstatus
  · have hsends : sends env w k =
        (w.sent.map Prod.fst).countP fun p => env.controller p = some k := by
      rw [List.countP_map]
      rfl
    rw [hexact.books.counter k, hsends]
    refine countP_eq_of_count fun p hp => ?_
    have hcontroller : env.controller p = some k := of_decide_eq_true hp
    have hbalanced := hexact.books.balanced p (by rw [hcontroller]; rfl)
    rw [ahead_eq_zero (hk p hcontroller)] at hbalanced
    exact hbalanced

/-! ## Runs -/

/-- Calls 0 and 1 are made under one controller, which allows one message. -/
def oneMessage : Env where
  keys := ⟨fun chat => chat, fun _ => List.replicate 64 'f'⟩
  controller p := if p < 2 then some 0 else none
  maxSendMessages _ := 1

/-- Two previews of two messages, and a coin preview; nothing was delivered. -/
def twoPreviews : World where
  tables :=
    { previews := ((∅ : SqlTable Nat ShadowPreview).put 1 ⟨1, "aliexpress_official".toList⟩).put 2
        ⟨2, "aliexpress_official".toList⟩
      coinPreviews := (∅ : SqlTable Nat CoinShadowPreview).put 1 ⟨['m']⟩
      coinMultiPreviews := ∅
      deliveries := ∅
      coinDeliveries := ∅ }
  calls _ := .idle
  sendMessages _ := 0
  charged := []
  sent := []

theorem twoPreviews_init : (system oneMessage).init twoPreviews :=
  ⟨rfl, rfl, fun _ => rfl, fun _ => rfl, rfl, rfl⟩

/-- Call 0 has reserved its delivery. -/
def reserved₀ : World := (system oneMessage).endOf twoPreviews
  [.start 0 .canonical 1 ['c'] 0 true true]

/-- It is at `mark_sending`. -/
def marking₀ : World := (system oneMessage).endOf reserved₀ [.proceed 0]

/-- It has marked its row. -/
def marked₀ : World := (system oneMessage).endOf marking₀ [.markSending 0 0 true]

def sent₀ : World := (system oneMessage).endOf marked₀ [.resume 0]

/-- It does not learn what came of it. -/
def lost₀ : World := (system oneMessage).endOf sent₀ [.raise 0 .other]

def recorded₀ : World := (system oneMessage).endOf lost₀ [.finish 0 1 true]

theorem recorded₀_orderly : (system oneMessage).ReachableUnder (Orderly oneMessage) recorded₀ := by
  have hreserved : Orderly oneMessage twoPreviews (.start 0 .canonical 1 ['c'] 0 true true) := by
    intro d state hfound
    cases hfound
  have hmarked : Orderly oneMessage marking₀ (.markSending 0 0 true) := by
    intro job _ hcharging
    exact absurd rfl hcharging.1
  have hsent : Orderly oneMessage marked₀ (.resume 0) := fun _ _ _ => rfl
  have hlost : Orderly oneMessage sent₀ (.raise 0 .other) := by
    constructor
    · exact id
    · intro job hjob
      cases hjob
  have hrun : (system oneMessage).RunUnder (Orderly oneMessage) twoPreviews marking₀ :=
    ((TransitionSystem.RunUnder.refl _).tail (r := reserved₀) hreserved rfl).tail
      (a := .proceed 0) trivial rfl
  exact ⟨twoPreviews, twoPreviews_init,
    (((hrun.tail (r := marked₀) hmarked rfl).tail (r := sent₀) hsent rfl).tail (r := lost₀) hlost
      rfl).tail (a := .finish 0 1 true) trivial rfl⟩

/-- Its delivery is uncertain, and was sent. -/
theorem recorded₀_sent : recorded₀.tables.state? (.canonical 1) = some .uncertain ∧
    Sent recorded₀ (.canonical 1) :=
  ⟨by decide +kernel, (accounting_exact recorded₀_orderly).1 _ (by decide +kernel)⟩

/-- Call 0 delivers the first message; the budget refuses call 1, whose row is marked. -/
def refused : World := (system oneMessage).endOf twoPreviews
  [.start 0 .canonical 1 ['c'] 0 true true, .proceed 0, .markSending 0 0 true, .resume 0,
    .answer 0 ['5'], .finish 0 1 true, .start 1 .canonical 2 ['c'] 2 true true, .proceed 1,
    .markSending 1 3 true, .resume 1, .finish 1 4 true]

/-- Call 0, of the coin service, is charged, and cannot mark its row. -/
def chargedOnly : World := (system oneMessage).endOf twoPreviews
  [.start 0 (.coin false) 1 ['c'] 0 true true, .proceed 0, .markSending 0 0 false]

/-- **The accounts are not exact.**  A canonical delivery the budget has refused is recorded
as uncertain although nothing was sent for it; and a coin delivery whose row cannot be marked
is charged to the budget although nothing was sent. -/
theorem accounting_not_exact :
    (¬ ∀ env w, (system env).Reachable w → ∀ d, w.tables.state? d = some .uncertain → Sent w d) ∧
    ¬ ∀ env w, (system env).Reachable w → ∀ k,
      (∀ p, env.controller p = some k → ¬ Charging env p (w.calls p)) →
      w.sendMessages k = sends env w k := by
  constructor
  · intro hexact
    have hreachable : (system oneMessage).Reachable refused :=
      ⟨twoPreviews, twoPreviews_init, TransitionSystem.run_endOf (by decide +kernel)⟩
    have hstate : refused.tables.state? (.canonical 2) = some .uncertain := by decide +kernel
    have hsent := hexact oneMessage refused hreachable (.canonical 2) hstate
    have hnot : ∀ e ∈ refused.sent, jobDelivery e.2 ≠ .canonical 2 := by decide +kernel
    obtain ⟨e, he, hd⟩ := hsent
    exact hnot e he hd
  · intro hexact
    have hreachable : (system oneMessage).Reachable chargedOnly :=
      ⟨twoPreviews, twoPreviews_init, TransitionSystem.run_endOf (by decide +kernel)⟩
    have hquiet : ∀ p < 2, ¬ Charging oneMessage p (chargedOnly.calls p) := by decide +kernel
    have hcount := hexact oneMessage chargedOnly hreachable 0 fun p hp => hquiet p (by
      by_contra hlt
      change (if p < 2 then some 0 else none) = some 0 at hp
      rw [if_neg hlt] at hp
      cases hp)
    exact absurd hcount (by decide +kernel)

end Accounting
end Shadow
end PromoBot
