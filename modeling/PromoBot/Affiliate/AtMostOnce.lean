import PromoBot.Affiliate.ShadowDelivery
import PromoBot.Lib.Tickets

/-!
# A shadow delivery is sent at most once

The delivery tables run the ticket protocol of `Lib.Tickets` without its release: to create a
reservation is to take its key, to invoke `send_text` is to fire it, and nothing ever gives a
key back, because no update removes a reservation or changes what it was made for.  So a key is
taken once and fired at most once, and only by the call which took it.

## Why tickets and not the states of the row

The obvious argument goes by the state of the delivery row: a row is marked as sending once,
and a call sends after it has marked.  It is a proof about the wrong thing.  A crash between
`send_text` and the commit that records it leaves a row which says less than what happened, and
a restart sees only the row.  What makes a second send impossible is not what the row says but
that it is there: the reservation is a unique `INSERT`, and a call that finds the row returns
what it found and never reaches `send_text`.

The tickets say just that.  `Tracks` ties a world to a state of the protocol, where a slot is
held by the call which created the row and keeps count of how often it was taken and fired.
`Tracks.step` is the simulation: a step of the world is at most one action of the protocol,
whichever call makes it and whatever it dies of. Crashes, restarts and the purge of the
listener are steps like any other and take or fire nothing.

The last clause of `shadow_sends_at_most_once` is about the future of a row rather than about a
count: once a key has its row, in any state, whatever begins later does not send for it.  It is
read off the same simulation, with the slot held from the start (`Tracks.sent_of_run`).
-/

namespace PromoBot
namespace Shadow

open ShadowDeliveries Tickets

variable {keys : DestinationKeys} {w w' : ShadowWorld} {act : Action}
  {a : Tickets.State DeliveryKey Nat}

def HasRow (w : ShadowWorld) : DeliveryKey → Prop
  | .canonical source destination => HasReservation w.deliveries source destination
  | .coin source destination => HasReservation w.coinDeliveries source destination

/-- How often `send_text` was invoked for a key. -/
def sends (w : ShadowWorld) (k : DeliveryKey) : Nat := (w.sent.map fun e => e.2.key).count k

/-- The key of a job is that of its service and of the chat it sends to. -/
def Job.Keyed (keys : DestinationKeys) (job : Job) : Prop :=
  match job.service with
  | .canonical => ∃ source, job.key = .canonical source (keys.destinationKey job.chatId)
  | .coin _ => ∃ source, job.key = .coin source (keys.destinationFingerprint job.chatId)

/-! ## Rows stay -/

theorem hasRow_withCall {p : Nat} {c : Call} (k : DeliveryKey) :
    HasRow (w.withCall p c) k ↔ HasRow w k := by
  cases k <;> exact Iff.rfl

theorem hasRow_markSending {job : Job} {now : Instant} {historyOk : Bool}
    (h : w.markSending job now historyOk = some w') (k : DeliveryKey) :
    HasRow w' k ↔ HasRow w k := by
  unfold ShadowWorld.markSending at h
  split at h
  · obtain ⟨t, ht, rfl⟩ := Option.map_eq_some_iff.1 h
    cases k with
    | canonical source destination => exact hasReservation_markSending ht
    | coin source destination => exact Iff.rfl
  · obtain ⟨t, ht, rfl⟩ := Option.map_eq_some_iff.1 h
    cases k with
    | canonical source destination => exact Iff.rfl
    | coin source destination => exact hasReservation_markSending ht

theorem hasRow_finish {job : Job} {c : Closing} {now : Instant} {historyOk : Bool}
    (h : w.finish job c now historyOk = some w') (k : DeliveryKey) :
    HasRow w' k ↔ HasRow w k := by
  unfold ShadowWorld.finish at h
  split at h
  · obtain ⟨t, ht, rfl⟩ := Option.map_eq_some_iff.1 h
    cases k with
    | canonical source destination => exact hasReservation_finish ht
    | coin source destination => exact Iff.rfl
  · obtain ⟨t, ht, rfl⟩ := Option.map_eq_some_iff.1 h
    cases k with
    | canonical source destination => exact Iff.rfl
    | coin source destination => exact hasReservation_finish ht

theorem hasReservation_forgetPreviews {t : ShadowDeliveries Text}
    {previewIds multiPreviewIds : List Nat} {source destination : Text} :
    HasReservation (CoinShadowDeliveryRepository.forgetPreviews t previewIds multiPreviewIds)
      source destination ↔ HasReservation t source destination := by
  unfold CoinShadowDeliveryRepository.forgetPreviews
  rw [hasReservation_updateWhere, hasReservation_updateWhere] <;> exact fun _ => ⟨rfl, rfl⟩

/-- `mark_sending` and `finish` write delivery rows only. -/
theorem markSending_frame {job : Job} {now : Instant} {historyOk : Bool}
    (h : w.markSending job now historyOk = some w') :
    w'.calls = w.calls ∧ w'.sent = w.sent := by
  unfold ShadowWorld.markSending at h
  split at h <;>
  · obtain ⟨t, _, rfl⟩ := Option.map_eq_some_iff.1 h
    exact ⟨rfl, rfl⟩

theorem finish_frame {job : Job} {c : Closing} {now : Instant} {historyOk : Bool}
    (h : w.finish job c now historyOk = some w') :
    w'.calls = w.calls ∧ w'.sent = w.sent := by
  unfold ShadowWorld.finish at h
  split at h <;>
  · obtain ⟨t, _, rfl⟩ := Option.map_eq_some_iff.1 h
    exact ⟨rfl, rfl⟩

/-! ## The delivery tables run the ticket protocol -/

/-- What a call's place says about the slots: an active call holds the key of its
job, fired once `send_text` is running. -/
def CallTracked (keys : DestinationKeys) (a : Tickets.State DeliveryKey Nat) (p : Nat) :
    Call → Prop
  | .active job stage =>
    a.slot job.key = .held p (decide (stage = .inTransport)) ∧ job.Keyed keys
  | .idle | .closing _ _ | .returned _ | .gone => True

/-- A key has been taken, by a call which has begun, or it has no row. -/
def RowTracked (w : ShadowWorld) (a : Tickets.State DeliveryKey Nat) (k : DeliveryKey) : Prop :=
  (HasRow w k ∧ a.takes k = 1 ∧ ∃ p b, a.slot k = .held p b ∧ w.calls p ≠ .idle) ∨
    (¬ HasRow w k ∧ a.takes k = 0 ∧ a.slot k = .free)

/-- The world `w` is in the ticket state `a`. -/
structure Tracks (keys : DestinationKeys) (w : ShadowWorld) (a : Tickets.State DeliveryKey Nat) :
    Prop where
  rows : ∀ k, RowTracked w a k
  calls : ∀ p, CallTracked keys a p (w.calls p)
  sent : ∀ k, a.fires k = sends w k
  keyed : ∀ e ∈ w.sent, e.2.Keyed keys
  unfinished : ∀ p, ¬ a.finished p

theorem tracks_start (h : (system keys).init w) : Tracks keys w State.start := by
  obtain ⟨hrows, hcoin, hcalls, hsent⟩ := h
  refine ⟨fun k => Or.inr ⟨?_, rfl, rfl⟩, fun p => ?_, fun k => ?_, ?_, fun p => id⟩
  · cases k with
    | canonical source destination =>
      rintro ⟨i, r, hr, -⟩
      rw [hrows, SqlTable.get?_empty] at hr
      cases hr
    | coin source destination =>
      rintro ⟨i, r, hr, -⟩
      rw [hcoin, SqlTable.get?_empty] at hr
      cases hr
  · rw [hcalls]
    trivial
  · rw [sends, hsent]
    rfl
  · rw [hsent]
    exact fun _ he => absurd he List.not_mem_nil

theorem CallTracked.of_step {a' : Tickets.State DeliveryKey Nat} {p q : Nat} {c : Call}
    (h : CallTracked keys a q c) (hstep : Step p a a') (hq : q ≠ p) :
    CallTracked keys a' q c := by
  cases c with
  | active job stage => exact ⟨(hstep.of_ne hq).1 h.1, h.2⟩
  | idle | closing | returned | gone => trivial

/-- A step in which a call moves on without taking or firing a key. -/
theorem Tracks.quiet {p : Nat} {c : Call} (h : Tracks keys w a)
    (hrows : ∀ k, HasRow w' k ↔ HasRow w k) (hcalls : w'.calls = Function.update w.calls p c)
    (hc : CallTracked keys a p c) (hidle : c ≠ .idle) (hsent : w'.sent = w.sent) :
    Tracks keys w' a where
  rows k := by
    rcases h.rows k with ⟨hrow, htakes, q, b, hslot, hq⟩ | ⟨hrow, htakes, hslot⟩
    · refine Or.inl ⟨(hrows k).2 hrow, htakes, q, b, hslot, ?_⟩
      rw [hcalls]
      rcases eq_or_ne q p with rfl | hqp
      · rwa [Function.update_self]
      · rwa [Function.update_of_ne hqp]
    · exact Or.inr ⟨fun hrow' => hrow ((hrows k).1 hrow'), htakes, hslot⟩
  calls q := by
    rw [hcalls]
    rcases eq_or_ne q p with rfl | hqp
    · rwa [Function.update_self]
    · rw [Function.update_of_ne hqp]
      exact h.calls q
  sent k := by
    rw [sends, hsent]
    exact h.sent k
  keyed := hsent ▸ h.keyed
  unfinished := h.unfinished

/-- To create a reservation is to take its key. -/
theorem Tracks.take {p : Nat} (job : Job) (h : Tracks keys w a) (hp : w.calls p = .idle)
    (hfresh : ¬ HasRow w job.key) (hrows : ∀ k, HasRow w' k ↔ HasRow w k ∨ job.key = k)
    (hcalls : w'.calls = Function.update w.calls p (.active job .preflight))
    (hkeyed : job.Keyed keys) (hsent : w'.sent = w.sent) :
    ∃ a', Relation.ReflTransGen AnyStep a a' ∧ Tracks keys w' a' := by
  have hfree : a.slot job.key = .free ∧ a.takes job.key = 0 := by
    rcases h.rows job.key with ⟨hrow, _⟩ | ⟨_, htakes, hslot⟩
    · exact absurd hrow hfresh
    · exact ⟨hslot, htakes⟩
  have hstep : Step p a (a.taken job.key p) := .take hfree.1 (h.unfinished p)
  refine ⟨a.taken job.key p, .single ⟨p, hstep⟩,
    fun k => ?_, fun q => ?_, fun k => ?_, hsent ▸ h.keyed, h.unfinished⟩
  · rcases eq_or_ne k job.key with rfl | hk
    · refine Or.inl ⟨(hrows _).2 (Or.inr rfl), ?_, p, false, ?_, ?_⟩
      · simp [State.taken, hfree.2]
      · simp [State.taken]
      · simp [hcalls]
    · have hrow : HasRow w' k ↔ HasRow w k := by
        rw [hrows, or_iff_left fun heq => hk heq.symm]
      rcases h.rows k with ⟨hrow', htakes, q, b, hslot, hq⟩ | ⟨hrow', htakes, hslot⟩
      · have hqp : q ≠ p := fun heq => hq (heq ▸ hp)
        refine Or.inl ⟨hrow.2 hrow', by simp [State.taken, hk, htakes], q, b,
          by simp [State.taken, hk, hslot], ?_⟩
        rw [hcalls, Function.update_of_ne hqp]
        exact hq
      · exact Or.inr ⟨fun hrow'' => hrow' (hrow.1 hrow''), by simp [State.taken, hk, htakes],
          by simp [State.taken, hk, hslot]⟩
  · rw [hcalls]
    rcases eq_or_ne q p with rfl | hqp
    · rw [Function.update_self]
      exact ⟨by simp [State.taken], hkeyed⟩
    · rw [Function.update_of_ne hqp]
      exact (h.calls q).of_step hstep hqp
  · rw [sends, hsent]
    exact h.sent k

/-- To invoke `send_text` is to fire the key. -/
theorem Tracks.fire {p : Nat} {job : Job} (h : Tracks keys w a)
    (hp : w.calls p = .active job .sending) (hrows : ∀ k, HasRow w' k ↔ HasRow w k)
    (hcalls : w'.calls = Function.update w.calls p (.active job .inTransport))
    (hsent : w'.sent = (p, job) :: w.sent) :
    ∃ a', Relation.ReflTransGen AnyStep a a' ∧ Tracks keys w' a' := by
  have hcall := h.calls p
  rw [hp] at hcall
  obtain ⟨hheld, hkeyed⟩ := hcall
  have hstep : Step p a (a.fired job.key p) := .fire hheld (h.unfinished p)
  refine ⟨a.fired job.key p, .single ⟨p, hstep⟩,
    fun k => ?_, fun q => ?_, fun k => ?_, ?_, h.unfinished⟩
  · rcases h.rows k with ⟨hrow, htakes, q, b, hslot, hq⟩ | ⟨hrow, htakes, hslot⟩
    · rcases eq_or_ne k job.key with rfl | hk
      · refine Or.inl ⟨(hrows _).2 hrow, htakes, p, true, by simp [State.fired], ?_⟩
        simp [hcalls]
      · refine Or.inl ⟨(hrows k).2 hrow, htakes, q, b, by simp [State.fired, hk, hslot], ?_⟩
        rw [hcalls]
        rcases eq_or_ne q p with rfl | hqp
        · simp
        · rwa [Function.update_of_ne hqp]
    · have hk : k ≠ job.key := fun heq => by simp [← heq, hslot] at hheld
      exact Or.inr ⟨fun hrow' => hrow ((hrows k).1 hrow'), htakes,
        by simp [State.fired, hk, hslot]⟩
  · rw [hcalls]
    rcases eq_or_ne q p with rfl | hqp
    · rw [Function.update_self]
      exact ⟨by simp [State.fired], hkeyed⟩
    · rw [Function.update_of_ne hqp]
      exact (h.calls q).of_step hstep hqp
  · rw [sends, hsent, List.map_cons, List.count_cons]
    have hfires := h.sent k
    rw [sends] at hfires
    rcases eq_or_ne k job.key with rfl | hk
    · simp [State.fired, hfires]
    · simp [State.fired, hk, hk.symm, hfires]
  · rw [hsent]
    exact List.forall_mem_cons.2 ⟨hkeyed, h.keyed⟩

theorem Tracks.frame (h : Tracks keys w a) (hrows : ∀ k, HasRow w' k ↔ HasRow w k)
    (hcalls : w'.calls = w.calls) (hsent : w'.sent = w.sent) : Tracks keys w' a where
  rows k := by
    unfold RowTracked
    rw [hrows, hcalls]
    exact h.rows k
  calls := hcalls ▸ h.calls
  sent k := by
    rw [sends, hsent]
    exact h.sent k
  keyed := hsent ▸ h.keyed
  unfinished := h.unfinished

/-- The first transaction takes a key, or leaves the rows as they are. -/
theorem Tracks.start {p previewId : Nat} {service : Service} {chatId : Text} {now : Instant}
    {ready historyOk : Bool} (h : Tracks keys w a) (hp : w.calls p = .idle) :
    ∃ a', Relation.ReflTransGen AnyStep a a' ∧
      Tracks keys (w.start keys p service previewId chatId now ready historyOk) a' := by
  have quiet : ∀ c, CallTracked keys a p c → c ≠ .idle →
      ∃ a', Relation.ReflTransGen AnyStep a a' ∧ Tracks keys (w.withCall p c) a' :=
    fun c hc hidle => ⟨a, .refl, h.quiet (fun _ => Iff.rfl) rfl hc hidle rfl⟩
  unfold ShadowWorld.start
  cases service with
  | canonical =>
    dsimp only
    split
    · exact quiet _ trivial Call.noConfusion
    split
    · next r hr =>
      have hreserves := ShadowDeliveryRepository.reserves_reserve hr
      cases hcreated : r.created with
      | false =>
        refine ⟨a, .refl, h.quiet (fun k => ?_) rfl ?_ ?_ rfl⟩
        · cases k with
          | canonical s d => exact hreserves.unchanged hcreated ▸ Iff.rfl
          | coin s d => exact Iff.rfl
        · rw [ShadowWorld.reserved, hcreated]
          trivial
        · rw [ShadowWorld.reserved, hcreated]
          exact Call.noConfusion
      | true =>
        have hcall : ShadowWorld.reserved .canonical chatId .canonical r =
            .active ⟨.canonical, r.id, chatId, .canonical r.row.source r.row.destination⟩
              .preflight := if_pos hcreated
        rw [hcall]
        refine h.take ⟨.canonical, r.id, chatId, .canonical r.row.source r.row.destination⟩ hp
          (hreserves.fresh hcreated) ?_ rfl ?_ rfl
        · intro k
          cases k with
          | canonical s d =>
            refine (hreserves.reservations hcreated s d).trans (or_congr Iff.rfl ?_)
            rw [DeliveryKey.canonical.injEq]
          | coin s d => simp [HasRow, ShadowWorld.withCall]
        · exact ⟨_, by rw [hreserves.destination_eq hcreated]⟩
    · exact quiet _ trivial Call.noConfusion
  | coin multi =>
    dsimp only
    split
    · exact quiet _ trivial Call.noConfusion
    split
    · next r hr =>
      have hreserves := CoinShadowDeliveryRepository.reserves_reserve hr
      cases hcreated : r.created with
      | false =>
        refine ⟨a, .refl, h.quiet (fun k => ?_) rfl ?_ ?_ rfl⟩
        · cases k with
          | canonical s d => exact Iff.rfl
          | coin s d => exact hreserves.unchanged hcreated ▸ Iff.rfl
        · rw [ShadowWorld.reserved, hcreated]
          trivial
        · rw [ShadowWorld.reserved, hcreated]
          exact Call.noConfusion
      | true =>
        have hcall : ShadowWorld.reserved (.coin multi) chatId .coin r =
            .active ⟨.coin multi, r.id, chatId, .coin r.row.source r.row.destination⟩
              .preflight := if_pos hcreated
        rw [hcall]
        refine h.take ⟨.coin multi, r.id, chatId, .coin r.row.source r.row.destination⟩ hp
          (hreserves.fresh hcreated) ?_ rfl ?_ rfl
        · intro k
          cases k with
          | canonical s d => simp [HasRow, ShadowWorld.withCall]
          | coin s d =>
            refine (hreserves.reservations hcreated s d).trans (or_congr Iff.rfl ?_)
            rw [DeliveryKey.coin.injEq]
        · exact ⟨_, by rw [hreserves.destination_eq hcreated]⟩
    · exact quiet _ trivial Call.noConfusion

/-- **The step lemma**: every step of the world is at most one action of the ticket
protocol. -/
theorem Tracks.step (h : Tracks keys w a) (hstep : Shadow.step keys w act = some w') :
    ∃ a', Relation.ReflTransGen AnyStep a a' ∧ Tracks keys w' a' := by
  have quiet : ∀ {w₁ : ShadowWorld} {p c}, (∀ k, HasRow w₁ k ↔ HasRow w k) →
      w₁.calls = Function.update w.calls p c → CallTracked keys a p c → c ≠ .idle →
      w₁.sent = w.sent → ∃ a', Relation.ReflTransGen AnyStep a a' ∧ Tracks keys w₁ a' :=
    fun hrows hcalls hc hidle hsent => ⟨a, .refl, h.quiet hrows hcalls hc hidle hsent⟩
  have ended : ∀ {p c}, CallTracked keys a p c → c ≠ .idle →
      ∃ a', Relation.ReflTransGen AnyStep a a' ∧ Tracks keys (w.withCall p c) a' :=
    fun hc hidle => quiet (fun _ => Iff.rfl) rfl hc hidle rfl
  have held : ∀ {p job stage}, w.calls p = .active job stage →
      CallTracked keys a p (.active job stage) := fun hp => hp ▸ h.calls _
  cases act with
  | previews previews coinPreviews coinMultiPreviews =>
    rw [← Option.some.inj hstep]
    refine ⟨a, .refl, h.frame (fun k => ?_) rfl rfl⟩
    cases k <;> exact Iff.rfl
  | purge previewIds multiPreviewIds =>
    rw [← Option.some.inj hstep]
    refine ⟨a, .refl, h.frame (fun k => ?_) rfl rfl⟩
    cases k with
    | canonical s d => exact Iff.rfl
    | coin s d => exact hasReservation_forgetPreviews
  | start p service previewId chatId now ready historyOk =>
    simp only [Shadow.step] at hstep
    split at hstep
    · next hp =>
      rw [← Option.some.inj hstep]
      exact h.start hp
    · simp at hstep
  | proceed p =>
    simp only [Shadow.step] at hstep
    split at hstep
    · next job hp =>
      rw [← Option.some.inj hstep]
      refine ended ?_ Call.noConfusion
      have hjob := held hp
      cases hservice : job.service <;> exact hjob
    · next job hp =>
      rw [← Option.some.inj hstep]
      refine ended ?_ Call.noConfusion
      have hjob := held hp
      cases hservice : job.service <;> exact hjob
    · simp at hstep
  | markSending p now historyOk =>
    simp only [Shadow.step] at hstep
    split at hstep
    · next job hp =>
      split at hstep
      · next w₁ hw₁ =>
        rw [← Option.some.inj hstep]
        have hframe := markSending_frame hw₁
        refine quiet (c := .active job (job.service.next .marking)) (p := p) ?_ ?_ ?_ Call.noConfusion hframe.2
        · exact fun k => (hasRow_withCall k).trans (hasRow_markSending hw₁ k)
        · rw [ShadowWorld.withCall, hframe.1]
        · have hjob := held hp
          cases hservice : job.service <;> exact hjob
      · rw [← Option.some.inj hstep]
        exact ended trivial Call.noConfusion
    · simp at hstep
  | sendText p =>
    simp only [Shadow.step] at hstep
    split at hstep
    · next job hp =>
      rw [← Option.some.inj hstep]
      exact h.fire hp (fun _ => Iff.rfl) rfl rfl
    · simp at hstep
  | answer p messageId =>
    simp only [Shadow.step] at hstep
    split at hstep
    · rw [← Option.some.inj hstep]
      exact ended trivial Call.noConfusion
    · simp at hstep
  | raise p raised =>
    simp only [Shadow.step] at hstep
    split at hstep
    · rw [← Option.some.inj hstep]
      exact ended trivial Call.noConfusion
    · simp at hstep
  | cancelFinish p =>
    simp only [Shadow.step] at hstep
    split at hstep
    · rw [← Option.some.inj hstep]
      exact ended trivial Call.noConfusion
    · simp at hstep
  | finish p now historyOk =>
    simp only [Shadow.step] at hstep
    split at hstep
    · next job c hp =>
      have closes : ∀ saved, CallTracked keys a p
          (if c.raises then .gone else .returned (job.service.report c saved)) ∧
          (if c.raises then Call.gone else .returned (job.service.report c saved)) ≠ .idle := by
        intro saved
        split
        · exact ⟨trivial, Call.noConfusion⟩
        · exact ⟨trivial, Call.noConfusion⟩
      split at hstep
      · next w₁ hw₁ =>
        rw [← Option.some.inj hstep]
        have hframe := finish_frame hw₁
        refine quiet (fun k => (hasRow_withCall k).trans (hasRow_finish hw₁ k)) ?_ (closes true).1
          (closes true).2 hframe.2
        rw [ShadowWorld.withCall, hframe.1]
      · rw [← Option.some.inj hstep]
        exact ended (closes false).1 (closes false).2
    · simp at hstep
  | crash p =>
    simp only [Shadow.step] at hstep
    split at hstep
    · rw [← Option.some.inj hstep]
      exact ended trivial Call.noConfusion
    · rw [← Option.some.inj hstep]
      exact ended trivial Call.noConfusion
    · simp at hstep

theorem Tracks.run (h : Tracks keys w a) (hrun : (system keys).Run w w') :
    ∃ a', Tickets.Run a a' ∧ Tracks keys w' a' :=
  hrun.forward_simulation (fun _ _ _ _ hs _ hstep => hs.step hstep) h

/-! ## At most one send -/

theorem exists_tracks (h : (system keys).Reachable w) : ∃ a, Tracks keys w a ∧ Balanced a := by
  obtain ⟨w₀, hinit, hrun⟩ := h
  obtain ⟨a, hrun', htracks⟩ := (tracks_start hinit).run hrun
  exact ⟨a, htracks, hrun'.balanced balanced_start⟩

theorem Tracks.takes_le_one (h : Tracks keys w a) (k : DeliveryKey) : a.takes k ≤ 1 := by
  rcases h.rows k with ⟨_, htakes, _⟩ | ⟨_, htakes, _⟩
  · exact htakes.le
  · exact htakes.le.trans (Nat.zero_le 1)

theorem start_sent {p previewId : Nat} {service : Service} {chatId : Text} {now : Instant}
    {ready historyOk : Bool} :
    (w.start keys p service previewId chatId now ready historyOk).sent = w.sent := by
  unfold ShadowWorld.start
  cases service with
  | canonical | coin =>
    dsimp only
    split
    · rfl
    · split <;> rfl

/-- Nothing but a call before `send_text` adds to what was sent. -/
theorem sent_step (h : Shadow.step keys w act = some w') :
    w'.sent = w.sent ∨
      ∃ p job, w.calls p = .active job .sending ∧ w'.sent = (p, job) :: w.sent := by
  cases act with
  | previews | purge => exact Or.inl (Option.some.inj h ▸ rfl)
  | start p service previewId chatId now ready historyOk =>
    simp only [Shadow.step] at h
    split at h
    · exact Or.inl (Option.some.inj h ▸ start_sent)
    · simp at h
  | sendText p =>
    simp only [Shadow.step] at h
    split at h
    · next job hp => exact Or.inr ⟨p, job, hp, Option.some.inj h ▸ rfl⟩
    · simp at h
  | markSending p now historyOk =>
    simp only [Shadow.step] at h
    split at h
    · split at h
      · next hw₁ =>
        rw [← Option.some.inj h]
        exact Or.inl (markSending_frame hw₁).2
      · exact Or.inl (Option.some.inj h ▸ rfl)
    · simp at h
  | finish p now historyOk =>
    simp only [Shadow.step] at h
    split at h
    · split at h
      · next hw₁ =>
        rw [← Option.some.inj h]
        exact Or.inl (finish_frame hw₁).2
      · exact Or.inl (Option.some.inj h ▸ rfl)
    · simp at h
  | proceed p | crash p =>
    simp only [Shadow.step] at h
    split at h
    · exact Or.inl (Option.some.inj h ▸ rfl)
    · exact Or.inl (Option.some.inj h ▸ rfl)
    · simp at h
  | answer p messageId | raise p raised | cancelFinish p =>
    simp only [Shadow.step] at h
    split at h
    · exact Or.inl (Option.some.inj h ▸ rfl)
    · simp at h

/-- **Only the call that created the reservation sends.**  What is sent for a key
which had its row in `w` was sent before, or by the holder of the key. -/
theorem Tracks.sent_of_run {k : DeliveryKey} {p : Nat} {b : Bool} (h : Tracks keys w a)
    (hslot : a.slot k = .held p b) (htakes : a.takes k = 1) (hrun : (system keys).Run w w') :
    ∀ e ∈ w'.sent, e.2.key = k → e ∈ w.sent ∨ e.1 = p := by
  have hholder : OnlyHolder a k p := by
    intro q c hq
    rw [hslot] at hq
    exact (Slot.held.inj hq).1.symm
  induction hrun with
  | refl => exact fun e he _ => Or.inl he
  | @tail w₁ w₂ hrun hstep ih =>
    obtain ⟨act, _, hstep⟩ := hstep
    intro e he hk
    rcases sent_step hstep with hsent | ⟨q, job, hq, hsent⟩
    · exact ih e (hsent ▸ he) hk
    rw [hsent] at he
    rcases List.mem_cons.1 he with rfl | he
    · obtain ⟨a₁, hrun', htracks⟩ := h.run hrun
      have htakes' : a₁.takes k = a.takes k := by
        have hle := Tickets.Run.takes_le hrun' k
        have hle' := htracks.takes_le_one k
        omega
      have hcall := htracks.calls q
      rw [hq] at hcall
      have hkey : job.key = k := hk
      exact Or.inr (Tickets.Run.holder_eq_of_takes_eq hrun' hholder htakes' q _ (hkey ▸ hcall.1))
    · exact ih e he hk

/-- **Shadow deliveries are sent at most once.**  In every reachable world
`send_text` was invoked at most once for every delivery key, each time under the key
of its service and its chat; and once a key has its delivery row, in whatever state,
no call which begins later invokes it for that key. -/
theorem shadow_sends_at_most_once (h : (system keys).Reachable w) :
    (∀ k, sends w k ≤ 1) ∧ (∀ e ∈ w.sent, e.2.Keyed keys) ∧
      ∀ k w', HasRow w k → (system keys).Run w w' → ∀ e ∈ w'.sent, e.2.key = k →
        e ∈ w.sent ∨ w.calls e.1 ≠ .idle := by
  obtain ⟨a, htracks, hbalanced⟩ := exists_tracks h
  refine ⟨fun k => ?_, htracks.keyed, fun k w' hrow hrun e he hk => ?_⟩
  · rw [← htracks.sent k]
    exact (hbalanced.fires_le_takes k).trans (htracks.takes_le_one k)
  · rcases htracks.rows k with ⟨_, htakes, p, b, hslot, hp⟩ | ⟨hnone, _⟩
    · rcases htracks.sent_of_run hslot htakes hrun e he hk with hold | rfl
      · exact Or.inl hold
      · exact Or.inr hp
    · exact absurd hrow hnone

/-- One canonical preview, of the source message 7. -/
def onePreview : ShadowWorld where
  previews := (∅ : SqlTable Nat ShadowPreview).put 1 ⟨7, "aliexpress_official".toList⟩
  coinPreviews := ∅
  coinMultiPreviews := ∅
  deliveries := ∅
  coinDeliveries := ∅
  calls := fun _ => .idle
  sent := []

/-- The preview is sent by call 0, which dies before it records that, and delivered
again by call 1. -/
def deliveredTwice : ShadowWorld := (system ⟨id, id⟩).endOf onePreview
  [.start 0 .canonical 1 "-100".toList 0 true true, .proceed 0, .markSending 0 0 true, .proceed 0,
    .sendText 0, .crash 0, .start 1 .canonical 1 "-100".toList 5 true true]

theorem shadow_sent_once_after_crash :
    deliveredTwice.calls 1 =
        .returned ⟨.uncertain, some "SHADOW_DELIVERY_ALREADY_ATTEMPTED"⟩ ∧
      sends deliveredTwice (.canonical 7 "-100".toList) = 1 ∧
      sends deliveredTwice (.canonical 7 "-100".toList) ≤ 1 := by
  have hreachable : (system ⟨id, id⟩).Reachable deliveredTwice :=
    ⟨onePreview, ⟨rfl, rfl, fun _ => rfl, rfl⟩, TransitionSystem.run_endOf rfl⟩
  exact ⟨rfl, rfl, (shadow_sends_at_most_once hreachable).1 _⟩

end Shadow
end PromoBot
