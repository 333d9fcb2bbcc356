import PromoBot.Affiliate.DeliveryUses

/-!
# Deliveries and their uses in lockstep

Every delivery of AliExpress links points to the send recorded for it in the history of links,
and the two are always in the same state (`DeliveryUses.deliveries_in_lockstep`). Whatever was
purged or saved again in between, the owner checks of `transition_send` still hold, so that no
delivery is stranded: the next transition its own state allows succeeds.

`Locked` says this of one table of deliveries, for both of them.  What keeps it is that a use
is never changed but by the delivery whose kind and number it has (`InStep.moved`), and that
what the checks read of it and of its preview never changes at all (`Sound.kept`).

## Two rows and a guard in between

A transition of a delivery writes its row and, in the same transaction, the state of its use.
The second write is guarded by an owner: the use has to be a send of the kind, the number, the
destination and the origin the delivery says, and of a preview use that still fits.  A guard
which failed would not leave the tables inconsistent, because the transaction is rolled back.
It would leave the delivery where it is, for good: a send in flight could be neither recorded
nor given up.  So it is not enough that the states agree, and the theorem says that the
transition goes through whenever the row allows it.

What the guard reads was written by the reservation, and the reservation checked it against the
preview (`inStep_recorded`).  In between the preview may be purged, or saved again, which
points it to another use.  Neither matters, because the delivery points to its own use, and
that one to the preview use it was made from (`saveReady_keeps`, `Lockstep.frame`).

The two tables have their numbers apart, so a use with the number of a canonical delivery may
be that of a coin delivery.  The kinds keep them apart, and each table is `Locked` with its
own.
-/

namespace PromoBot
namespace DeliveryUses

open SqlTable Fallible ShadowDeliveries AffiliateLinkHistoryRepository

/-! ## One delivery and its use -/

/-- **A delivery is in step with its use**: it points to a send which is its own and which
has its state. -/
def InStep (uses : LinkUses) (kinds : List OperationalKind) (origin : String × Json) (id : Nat)
    (destination : Text) (state : ShadowDeliveryState) (useId : Option Nat) : Prop :=
  ∃ u use kind, useId = some u ∧ uses.get? u = some use ∧ kind ∈ kinds ∧
    OwnedBy (ownerOf kind origin id destination) use ∧ use.state = sendState state ∧
    Sound uses (ownerOf kind origin id destination) u

/-- Every use is there as it was. -/
def Extends (uses uses' : LinkUses) : Prop :=
  ∀ u use, uses.get? u = some use → uses'.get? u = some use

section InStep

variable {uses uses' : LinkUses} {kinds : List OperationalKind} {origin : String × Json} {id : Nat}
  {destination : Text} {state state' : ShadowDeliveryState} {useId : Option Nat}

theorem Extends.refl (uses : LinkUses) : Extends uses uses := fun _ _ h => h

theorem Extends.kept (h : Extends uses uses') : Kept uses uses' :=
  fun u use huse => ⟨use, h u use huse, .refl use⟩

theorem extends_recordUse {history : Generations} {q : UseRecord} {n : Nat}
    (h : recordUse history uses q = .ok (uses', n)) : Extends uses uses' :=
  fun _ _ huse => recordUse_old h huse

theorem InStep.extends (h : InStep uses kinds origin id destination state useId)
    (hextends : Extends uses uses') : InStep uses' kinds origin id destination state useId := by
  obtain ⟨u, use, kind, hu, huse, hkind, howned, hstate, hsound⟩ := h
  exact ⟨u, use, kind, hu, hextends u use huse, hkind, howned, hstate,
    hsound.kept hextends.kept⟩

/-- The send of one delivery is not touched by that of another. -/
theorem InStep.moved {owner : SendOwner} {otherId : Option Nat} {now : Instant}
    {target : LinkUseState} {errorCode : Option String} {messageId : Option Text}
    (h : InStep uses kinds origin id destination state useId)
    (hmove : transitionSend uses otherId now target owner errorCode messageId = .ok uses')
    (hother : owner.operationalKind ∉ kinds ∨ owner.operationalId ≠ id) :
    InStep uses' kinds origin id destination state useId := by
  obtain ⟨u, use, kind, hu, huse, hkind, howned, hstate, hsound⟩ := h
  obtain ⟨j, use', -, huse', howned', -, -, hkeep⟩ := transitionSend_eq_ok hmove
  have hne : u ≠ j := by
    rintro rfl
    obtain rfl := Option.some.inj (huse.symm.trans huse')
    have hkinds : some kind = some owner.operationalKind := howned.2.2.1.symm.trans howned'.2.2.1
    have hids : some id = some owner.operationalId := howned.2.2.2.1.symm.trans howned'.2.2.2.1
    rcases hother with hother | hother
    · exact hother (Option.some.inj hkinds ▸ hkind)
    · exact hother (Option.some.inj hids).symm
  exact ⟨u, use, kind, hu, (hkeep u hne).trans huse, hkind, howned, hstate,
    hsound.kept (kept_transitionSend hmove)⟩

theorem InStep.moves {owner : SendOwner} {now : Instant} {errorCode : Option String}
    {messageId : Option Text} (h : InStep uses kinds origin id destination state useId)
    (hmove : transitionSend uses useId now (sendState state') owner errorCode messageId =
      .ok uses') : InStep uses' kinds origin id destination state' useId := by
  obtain ⟨u, use, kind, hu, huse, hkind, howned, -, hsound⟩ := h
  obtain ⟨j, use', hj, huse', -, -, hmoved, -⟩ := transitionSend_eq_ok hmove
  obtain rfl := Option.some.inj (hu.symm.trans hj)
  obtain rfl := Option.some.inj (huse.symm.trans huse')
  exact ⟨u, _, kind, hu, hmoved, hkind, howned.same (sameRecord_moved now _ errorCode messageId use),
    rfl, hsound.kept (kept_transitionSend hmove)⟩

theorem InStep.transitionSend (h : InStep uses kinds origin id destination state useId)
    (htarget : sendState state' ∈ sendTargets)
    (hmovable : sendState state ∈ sendAllowed (sendState state')) (now : Instant)
    (errorCode : Option String) (messageId : Option Text) :
    ∃ u use kind uses', useId = some u ∧ uses.get? u = some use ∧ kind ∈ kinds ∧
      use.operationalKind = some kind ∧
      transitionSend uses useId now (sendState state') (ownerOf kind origin id destination)
        errorCode messageId = .ok uses' := by
  obtain ⟨u, use, kind, rfl, huse, hkind, howned, hstate, hsound⟩ := h
  have hmove : Movable (sendState state') use := ⟨howned.1, hstate ▸ hmovable⟩
  obtain ⟨uses', huses'⟩ := hsound.transitionSend now htarget huse hmove errorCode messageId
  exact ⟨u, use, kind, uses', rfl, huse, hkind, howned.2.2.1, huses'⟩

/-- **A delivery is in step from its reservation on.** -/
theorem inStep_recorded {history : Generations} {key : String} {value : Json}
    {kind previewKind : OperationalKind} {ids : List Nat} {sourceId previewId n : Nat}
    {now : Instant} {preview : LinkUse} (hkey : key ∉ coinOccurrenceMetadataKeys)
    (hkind : kind ∈ kinds)
    (hpreviewKind : AffiliateLinkHistoryRepository.previewKind kind = some previewKind)
    (hpreview : uses.get? sourceId = some preview)
    (his : IsPreviewUse previewKind previewId (key, value) preview)
    (h : recordUse history uses
      (sendUse kind (key, value) ids (some sourceId) now id destination) = .ok (uses', n)) :
    InStep uses' kinds (key, value) id destination .pending (some n) := by
  obtain ⟨hpreviewUse, -, hoperation, -, horigin, hvalue⟩ := his
  obtain ⟨hsound, use, huse, hstate, -⟩ := sound_recordUse h hkey
    ⟨rfl, rfl, rfl, rfl, rfl, rfl, rfl⟩ hpreview hpreviewUse (hoperation.trans hpreviewKind.symm)
    horigin hvalue
  have howned := hsound
  obtain ⟨use', -, -, huse', howned', -⟩ := howned
  obtain rfl := Option.some.inj (huse.symm.trans huse')
  exact ⟨n, use, kind, rfl, huse, hkind, howned', hstate, hsound⟩

end InStep

/-! ## A table of deliveries -/

section Locked

variable {σ : Type} (kinds : List OperationalKind) (origin : σ → String × Json)
  (official : ShadowDelivery σ → Prop)

/-- **The deliveries of a table are in step with their uses**, those which have one. -/
structure Locked (uses : LinkUses) (rows : ShadowDeliveries σ) (column : SqlTable Nat Nat) :
    Prop where
  recorded : ∀ id row, rows.get? id = some row → official row →
    InStep uses kinds (origin row.source) id row.destination row.state (column.get? id)
  unsent : ∀ id row, rows.get? id = some row → row.state = .pending → row.attemptCount = 0

variable {kinds origin official} {uses uses' : LinkUses} {rows rows' : ShadowDeliveries σ}
  {column column' : SqlTable Nat Nat} {id : Nat}

theorem locked_empty : Locked kinds origin official uses (∅ : ShadowDeliveries σ) column := by
  constructor
  · intro id row hrow
    rw [get?_empty] at hrow
    cases hrow
  · intro id row hrow
    rw [get?_empty] at hrow
    cases hrow

theorem Locked.extends (h : Locked kinds origin official uses rows column)
    (hextends : Extends uses uses') : Locked kinds origin official uses' rows column :=
  ⟨fun id row hrow hofficial => (h.recorded id row hrow hofficial).extends hextends, h.unsent⟩

theorem Locked.other {owner : SendOwner} {useId : Option Nat} {now : Instant}
    {target : LinkUseState} {errorCode : Option String} {messageId : Option Text}
    (h : Locked kinds origin official uses rows column)
    (hmove : transitionSend uses useId now target owner errorCode messageId = .ok uses')
    (hkind : owner.operationalKind ∉ kinds) : Locked kinds origin official uses' rows column :=
  ⟨fun id row hrow hofficial => (h.recorded id row hrow hofficial).moved hmove (Or.inl hkind),
    h.unsent⟩

/-- What a row says that its use has to do with. -/
structure SameDelivery (row row' : ShadowDelivery σ) : Prop where
  source : row'.source = row.source
  destination : row'.destination = row.destination
  state : row'.state = row.state
  attemptCount : row'.attemptCount = row.attemptCount

/-- Rows may change in what their uses have nothing to do with. -/
theorem Locked.sameRows {official' : ShadowDelivery σ → Prop}
    (h : Locked kinds origin official uses rows column)
    (hrows : ∀ id row', rows'.get? id = some row' → ∃ row, rows.get? id = some row ∧
      SameDelivery row row' ∧ (official' row' → official row)) :
    Locked kinds origin official' uses rows' column := by
  constructor
  · intro id row' hrow' hofficial
    obtain ⟨row, hrow, hsame, himp⟩ := hrows id row' hrow'
    rw [hsame.source, hsame.destination, hsame.state]
    exact h.recorded id row hrow (himp hofficial)
  · intro id row' hrow' hpending
    obtain ⟨row, hrow, hsame, -⟩ := hrows id row' hrow'
    rw [hsame.attemptCount]
    exact h.unsent id row hrow (hsame.state.symm.trans hpending)

/-- A new row is added, in step with its use. -/
theorem Locked.reserve {row : ShadowDelivery σ}
    (h : Locked kinds origin official uses rows column) (hextends : Extends uses uses')
    (hcolumn : ∀ j, j ≠ rows.freshId → column'.get? j = column.get? j)
    (hunsent : row.attemptCount = 0)
    (hnew : official row → InStep uses' kinds (origin row.source) rows.freshId row.destination
      row.state (column'.get? rows.freshId)) :
    Locked kinds origin official uses' (rows.put rows.freshId row) column' := by
  constructor
  · intro j r hr hofficial
    rcases eq_or_ne j rows.freshId with rfl | hj
    · rw [get?_put_self] at hr
      obtain rfl := Option.some.inj hr
      exact hnew hofficial
    · rw [get?_put_ne _ _ hj] at hr
      rw [hcolumn j hj]
      exact (h.recorded j r hr hofficial).extends hextends
  · intro j r hr hpending
    rcases eq_or_ne j rows.freshId with rfl | hj
    · rw [get?_put_self] at hr
      obtain rfl := Option.some.inj hr
      exact hunsent
    · rw [get?_put_ne _ _ hj] at hr
      exact h.unsent j r hr hpending

/-- What the transitions write of a row. -/
structure Moves (state : ShadowDeliveryState) (row row' : ShadowDelivery σ) : Prop where
  source : row'.source = row.source
  destination : row'.destination = row.destination
  previewId : row'.previewId = row.previewId
  state_eq : row'.state = state
  left : state ≠ .pending

theorem moves_marked (startedAt : Option Instant) (row : ShadowDelivery σ) :
    Moves .sending row (marked startedAt row) := ⟨rfl, rfl, rfl, rfl, nofun⟩

theorem moves_finished {state : ShadowDeliveryState} (hstate : state ∈
    [ShadowDeliveryState.sent, .failedSafe, .uncertain]) (now : Instant)
    (errorCode : Option String) (messageId : Option Text) (row : ShadowDelivery σ) :
    Moves state row (finished state now errorCode messageId row) := by
  refine ⟨rfl, rfl, rfl, rfl, ?_⟩
  rintro rfl
  simp at hstate

/-- One row moves, and its use with it. -/
theorem Locked.moves {p : ShadowDelivery σ → Prop} [DecidablePred p]
    {f : ShadowDelivery σ → ShadowDelivery σ} {state : ShadowDeliveryState}
    (h : Locked kinds origin official uses rows column)
    (hupdate : rows.updateOne id p f = some rows') (hf : ∀ row, Moves state row (f row))
    (hofficial : ∀ row, official (f row) → official row)
    (hothers : ∀ j row, rows.get? j = some row → j ≠ id → official row →
      InStep uses' kinds (origin row.source) j row.destination row.state (column.get? j))
    (hself : ∀ row, rows.get? id = some row → official row →
      InStep uses' kinds (origin row.source) id row.destination state (column.get? id)) :
    Locked kinds origin official uses' rows' column := by
  obtain ⟨⟨row, hrow, -, hrow'⟩, hkeep⟩ := get?_of_updateOne hupdate
  constructor
  · intro j r hr hr'
    rcases eq_or_ne j id with rfl | hj
    · obtain rfl := Option.some.inj (hrow'.symm.trans hr)
      rw [(hf row).source, (hf row).destination, (hf row).state_eq]
      exact hself row hrow (hofficial row hr')
    · exact hothers j r ((hkeep j hj).symm.trans hr) hj hr'
  · intro j r hr hpending
    rcases eq_or_ne j id with rfl | hj
    · obtain rfl := Option.some.inj (hrow'.symm.trans hr)
      exact absurd ((hf row).state_eq.symm.trans hpending) (hf row).left
    · exact h.unsent j r ((hkeep j hj).symm.trans hr) hpending

end Locked

/-! ## The invariant -/

/-- A delivery of the links of AliExpress. -/
def IsOfficial (previews : AffiliateShadowPreviews) (row : ShadowDelivery Nat) : Prop :=
  ∃ p preview, row.previewId = some p ∧ previews.get? p = some preview ∧
    preview.provider = aliexpressOfficial

/-- The kinds of coin deliveries. -/
def coinKinds : List OperationalKind := [.coinDelivery, .coinMultiDelivery]

/-- **Both tables of deliveries are in step with their uses.** -/
structure Lockstep (t : ShadowTables) : Prop where
  canonical : Locked [.canonicalDelivery] canonicalOrigin (IsOfficial t.previews) t.uses
    t.deliveries t.deliveryUses
  previewed : ∀ id row, t.deliveries.get? id = some row →
    ∃ p preview, row.previewId = some p ∧ t.previews.get? p = some preview
  coin : Locked coinKinds coinOrigin (fun _ => True) t.uses t.coinDeliveries t.coinDeliveryUses

/-! ## What the checks of a reservation say -/

theorem validatePreviewUse_eq_ok {uses : LinkUses} {kind : OperationalKind} {previewId : Nat}
    {origin : String × Json} {historyUseId : Option Nat} {ids : List Nat}
    (h : validatePreviewUse uses kind previewId origin historyUseId = .ok ids) :
    ∃ u use, historyUseId = some u ∧ uses.get? u = some use ∧
      IsPreviewUse kind previewId origin use := by
  obtain ⟨u, hu, h⟩ := bind_eq_ok.1 h
  obtain ⟨use, huse, h⟩ := bind_eq_ok.1 h
  obtain ⟨_, his, -⟩ := bind_eq_ok.1 h
  exact ⟨u, use, orRaise_eq_ok.1 hu, orRaise_eq_ok.1 huse, check_eq_ok.1 his⟩

theorem validateCoinPreview_eq_ok {history : Generations} {evidence : CoinShadowEvidences}
    {uses : LinkUses} {previewId : Nat} {preview : AliExpressCoinShadowPreview} {ids : List Nat}
    (h : validateCoinPreview history evidence uses previewId preview = .ok ids) :
    ∃ u use, preview.historyUseId = some u ∧ uses.get? u = some use ∧
      IsPreviewUse .coinPreview previewId (coinOrigin preview.sourceMessageFingerprint) use := by
  obtain ⟨_, hids, -⟩ := bind_eq_ok.1 h
  exact validatePreviewUse_eq_ok hids

theorem validateMultiPreview_eq_ok {isAware : Text → Bool} {history : Generations}
    {evidence : CoinShadowEvidences} {uses : LinkUses} {previewId : Nat}
    {preview : CoinShadowMultiPreview} {ids : List Nat}
    (h : validateMultiPreview isAware history evidence uses previewId preview = .ok ids) :
    ∃ u use, preview.historyUseId = some u ∧ uses.get? u = some use ∧
      IsPreviewUse .coinMultiPreview previewId (coinOrigin preview.sourceMessageFingerprint)
        use := by
  obtain ⟨_, hids, -⟩ := bind_eq_ok.1 h
  exact validatePreviewUse_eq_ok hids

/-- The preview of a coin delivery, of either kind, is one it can be made from. -/
theorem isPreviewUse_of_coinPreviewOf {isAware : Text → Bool} {t : ShadowTables}
    {previewId : Nat} {multi : Bool} {fingerprint : Text} {historyUseId : Option Nat}
    {validated : Except String (List Nat)} {ids : List Nat}
    (h : coinPreviewOf isAware t previewId multi = some (fingerprint, historyUseId, validated))
    (hids : validated = .ok ids) :
    ∃ kind u use, previewKind (coinKind multi) = some kind ∧ historyUseId = some u ∧
      t.uses.get? u = some use ∧ IsPreviewUse kind previewId (coinOrigin fingerprint) use := by
  unfold coinPreviewOf at h
  cases multi with
  | true =>
    rw [if_pos rfl, Option.map_eq_some_iff] at h
    obtain ⟨r, -, hr⟩ := h
    obtain ⟨rfl, hr'⟩ := Prod.mk.inj hr
    obtain ⟨rfl, rfl⟩ := Prod.mk.inj hr'
    obtain ⟨u, use, hu, huse, his⟩ := validateMultiPreview_eq_ok hids
    exact ⟨.coinMultiPreview, u, use, rfl, hu, huse, his⟩
  | false =>
    rw [if_neg Bool.false_ne_true, Option.map_eq_some_iff] at h
    obtain ⟨r, -, hr⟩ := h
    obtain ⟨rfl, hr'⟩ := Prod.mk.inj hr
    obtain ⟨rfl, rfl⟩ := Prod.mk.inj hr'
    obtain ⟨u, use, hu, huse, his⟩ := validateCoinPreview_eq_ok hids
    exact ⟨.coinPreview, u, use, rfl, hu, huse, his⟩

/-! ## Reservations -/

theorem insertOrFind_created {σ : Type} [DecidableEq σ] {rows : ShadowDeliveries σ}
    {row : ShadowDelivery σ} (h : (insertOrFind rows row).created = true) :
    insertOrFind rows row = ⟨rows.put rows.freshId row, rows.freshId, row, true⟩ := by
  unfold insertOrFind at h ⊢
  split at h
  · cases h
  · rfl

section Reservations

variable {t t' : ShadowTables}

theorem lockstep_reserve {previewId : Nat} {destinationKey : Text} {now : Instant}
    {reserved : Reserved Nat} (hl : Lockstep t)
    (h : reserve t previewId destinationKey now = .ok (t', reserved)) : Lockstep t' := by
  obtain ⟨preview, hpreview, h⟩ := bind_eq_ok.1 h
  rw [orRaise_eq_ok] at hpreview
  dsimp only at h
  split at h
  next hcreated =>
    rw [insertOrFind_created hcreated] at h
    obtain ⟨_, -, h⟩ := bind_eq_ok.1 h
    have hpreviewed : ∀ id row, (t.deliveries.put t.deliveries.freshId
        (reservation (some previewId) none preview.sourceMessageId destinationKey
          (some now))).get? id = some row →
        ∃ p preview, row.previewId = some p ∧ t.previews.get? p = some preview := by
      intro id row hrow
      rw [get?_put] at hrow
      split at hrow
      · obtain rfl := Option.some.inj hrow
        exact ⟨previewId, preview, rfl, hpreview⟩
      · exact hl.previewed id row hrow
    split at h
    next hofficial =>
      obtain ⟨ids, hids, h⟩ := bind_eq_ok.1 h
      obtain ⟨⟨uses, n⟩, hrecorded, h⟩ := bind_eq_ok.1 h
      obtain ⟨rfl, -⟩ := Prod.mk.inj (Except.ok.inj h)
      obtain ⟨u, use, hu, huse, his⟩ := validatePreviewUse_eq_ok hids
      rw [hu] at hrecorded
      refine ⟨hl.canonical.reserve (extends_recordUse hrecorded)
        (fun j hj => get?_put_ne _ _ hj) rfl fun _ => ?_, hpreviewed,
        hl.coin.extends (extends_recordUse hrecorded)⟩
      rw [get?_put_self]
      exact inStep_recorded (by decide) List.mem_cons_self rfl huse his hrecorded
    next hofficial =>
      obtain ⟨rfl, -⟩ := Prod.mk.inj (Except.ok.inj h)
      refine ⟨hl.canonical.reserve (.refl _) (fun _ _ => rfl) rfl fun hnew => ?_, hpreviewed,
        hl.coin⟩
      obtain ⟨p, preview', hp, hpreview', hprovider⟩ := hnew
      obtain rfl : previewId = p := Option.some.inj hp
      obtain rfl := Option.some.inj (hpreview.symm.trans hpreview')
      exact absurd hprovider hofficial
  next =>
    obtain ⟨rfl, -⟩ := Prod.mk.inj (Except.ok.inj h)
    exact hl

theorem lockstep_coinReserve {isAware : Text → Bool} {previewId : Nat}
    {destinationFingerprint : Text} {now : Instant} {multi : Bool} {reserved : Reserved Text}
    (hl : Lockstep t) (h : coinReserve isAware t previewId destinationFingerprint now multi =
      .ok (t', reserved)) : Lockstep t' := by
  obtain ⟨_, -, h⟩ := bind_eq_ok.1 h
  obtain ⟨⟨fingerprint, historyUseId, validated⟩, hpreview, h⟩ := bind_eq_ok.1 h
  rw [orRaise_eq_ok] at hpreview
  dsimp only at h
  generalize (if multi then none else some previewId) = single at h
  generalize (if multi then some previewId else none) = several at h
  split at h
  next hcreated =>
    rw [insertOrFind_created hcreated] at h
    obtain ⟨ids, hids, h⟩ := bind_eq_ok.1 h
    obtain ⟨⟨uses, n⟩, hrecorded, h⟩ := bind_eq_ok.1 h
    obtain ⟨rfl, -⟩ := Prod.mk.inj (Except.ok.inj h)
    obtain ⟨kind, u, use, hkind, rfl, huse, his⟩ := isPreviewUse_of_coinPreviewOf hpreview hids
    refine ⟨hl.canonical.extends (extends_recordUse hrecorded), hl.previewed,
      hl.coin.reserve (extends_recordUse hrecorded) (fun j hj => get?_put_ne _ _ hj) rfl
        fun _ => ?_⟩
    have hcoin : coinKind multi ∈ coinKinds := by cases multi <;> decide
    rw [get?_put_self]
    exact inStep_recorded (by decide) hcoin hkind huse his hrecorded
  next =>
    obtain ⟨rfl, -⟩ := Prod.mk.inj (Except.ok.inj h)
    exact hl

end Reservations

/-! ## Transitions -/

section Transitions

variable {t t' : ShadowTables} {id : Nat} {now : Instant} {errorCode : Option String}
  {messageId : Option Text}

theorem IsOfficial.moved {previews : AffiliateShadowPreviews} {state : ShadowDeliveryState}
    {row row' : ShadowDelivery Nat} (hmoves : Moves state row row')
    (h : IsOfficial previews row') : IsOfficial previews row := by
  obtain ⟨p, preview, hp, hpreview⟩ := h
  exact ⟨p, preview, hmoves.previewId.symm.trans hp, hpreview⟩

theorem lockstep_moveCanonical {p : ShadowDelivery Nat → Prop} [DecidablePred p]
    {f : ShadowDelivery Nat → ShadowDelivery Nat} {state : ShadowDeliveryState}
    {deliveries : ShadowDeliveries Nat} (hl : Lockstep t)
    (hupdate : t.deliveries.updateOne id p f = some deliveries)
    (hf : ∀ row, Moves state row (f row))
    (h : moveCanonical t deliveries id now (sendState state) errorCode messageId = .ok t') :
    Lockstep t' := by
  obtain ⟨row', hrow', h⟩ := bind_eq_ok.1 h
  obtain ⟨preview, hfound, h⟩ := bind_eq_ok.1 h
  rw [orRaise_eq_ok] at hrow' hfound
  obtain ⟨p', hp', hpreview⟩ := Option.bind_eq_some_iff.1 hfound
  obtain ⟨⟨row, hrow, -, hrow''⟩, hkeep⟩ := get?_of_updateOne hupdate
  obtain rfl := Option.some.inj (hrow''.symm.trans hrow')
  have hkind : OperationalKind.canonicalDelivery ∉ coinKinds := by decide
  have hpreviewed : ∀ j r, deliveries.get? j = some r →
      ∃ p preview, r.previewId = some p ∧ t.previews.get? p = some preview := by
    intro j r hr
    rcases eq_or_ne j id with rfl | hj
    · obtain rfl := Option.some.inj (hrow''.symm.trans hr)
      exact ⟨p', preview, hp', hpreview⟩
    · exact hl.previewed j r ((hkeep j hj).symm.trans hr)
  split at h
  next hofficial =>
    obtain ⟨uses, hmove, h⟩ := bind_eq_ok.1 h
    obtain rfl := Except.ok.inj h
    refine ⟨hl.canonical.moves hupdate hf (fun r => IsOfficial.moved (hf r)) ?_ ?_, hpreviewed,
      hl.coin.other hmove hkind⟩
    · intro j r hr hj hr'
      exact (hl.canonical.recorded j r hr hr').moved hmove (Or.inr hj.symm)
    · intro r hr hr'
      exact (hl.canonical.recorded id r hr hr').moves hmove
  next hofficial =>
    obtain rfl := Except.ok.inj h
    refine ⟨hl.canonical.moves hupdate hf (fun r => IsOfficial.moved (hf r)) ?_ ?_, hpreviewed,
      hl.coin⟩
    · intro j r hr _ hr'
      exact hl.canonical.recorded j r hr hr'
    · intro r hr hr'
      obtain ⟨p'', preview', hp'', hpreview', hprovider⟩ := hr'
      obtain rfl := Option.some.inj (hr.symm.trans hrow)
      obtain rfl := Option.some.inj (hp''.symm.trans ((hf r).previewId.symm.trans hp'))
      obtain rfl := Option.some.inj (hpreview.symm.trans hpreview')
      exact absurd hprovider hofficial

theorem lockstep_moveCoin {p : ShadowDelivery Text → Prop} [DecidablePred p]
    {f : ShadowDelivery Text → ShadowDelivery Text} {state : ShadowDeliveryState}
    {deliveries : ShadowDeliveries Text} (hl : Lockstep t)
    (hupdate : t.coinDeliveries.updateOne id p f = some deliveries)
    (hf : ∀ row, Moves state row (f row))
    (h : moveCoin t deliveries id now (sendState state) errorCode messageId = .ok t') :
    Lockstep t' := by
  obtain ⟨row', -, h⟩ := bind_eq_ok.1 h
  obtain ⟨kind, hkind, h⟩ := bind_eq_ok.1 h
  obtain ⟨uses, hmove, h⟩ := bind_eq_ok.1 h
  obtain rfl := Except.ok.inj h
  have hcoin : kind ∉ [OperationalKind.canonicalDelivery] := by
    obtain ⟨use, -, huse⟩ := Option.bind_eq_some_iff.1 (orRaise_eq_ok.1 hkind)
    obtain ⟨-, hfilter⟩ := Option.filter_eq_some_iff.1 huse
    rcases of_decide_eq_true hfilter with rfl | rfl <;> decide
  refine ⟨hl.canonical.other hmove hcoin, hl.previewed,
    hl.coin.moves hupdate hf (fun _ h => h) ?_ ?_⟩
  · intro j r hr hj hr'
    exact (hl.coin.recorded j r hr hr').moved hmove (Or.inr hj.symm)
  · intro r hr hr'
    exact (hl.coin.recorded id r hr hr').moves hmove

theorem lockstep_markSending (hl : Lockstep t) (h : markSending t id now = .ok t') :
    Lockstep t' := by
  obtain ⟨deliveries, hdeliveries, h⟩ := bind_eq_ok.1 h
  exact lockstep_moveCanonical hl (orRaise_eq_ok.1 hdeliveries) (moves_marked _) h

theorem lockstep_coinMarkSending (hl : Lockstep t) (h : coinMarkSending t id now = .ok t') :
    Lockstep t' := by
  obtain ⟨deliveries, hdeliveries, h⟩ := bind_eq_ok.1 h
  exact lockstep_moveCoin hl (orRaise_eq_ok.1 hdeliveries) (moves_marked _) h

theorem updateOne_of_finish {σ : Type} {rows rows' : ShadowDeliveries σ}
    {state : ShadowDeliveryState}
    (h : ShadowDeliveries.finish rows id state now errorCode messageId true = some rows') :
    state ∈ [ShadowDeliveryState.sent, .failedSafe, .uncertain] ∧
      rows.updateOne id (Finishable state) (finished state now errorCode messageId) =
        some rows' := by
  unfold ShadowDeliveries.finish at h
  obtain ⟨⟨-, hstate⟩, h⟩ := Option.ite_none_right_eq_some.1 h
  exact ⟨hstate, h⟩

theorem lockstep_finish {state : ShadowDeliveryState} (hl : Lockstep t)
    (h : finish t id state now errorCode messageId = .ok t') : Lockstep t' := by
  obtain ⟨_, hstate, h⟩ := bind_eq_ok.1 h
  obtain ⟨deliveries, hdeliveries, h⟩ := bind_eq_ok.1 h
  exact lockstep_moveCanonical hl (updateOne_of_finish (orRaise_eq_ok.1 hdeliveries)).2
    (moves_finished (check_eq_ok.1 hstate) now errorCode messageId) h

theorem lockstep_coinFinish {state : ShadowDeliveryState} (hl : Lockstep t)
    (h : coinFinish t id state now errorCode messageId = .ok t') : Lockstep t' := by
  obtain ⟨_, hstate, h⟩ := bind_eq_ok.1 h
  obtain ⟨deliveries, hdeliveries, h⟩ := bind_eq_ok.1 h
  exact lockstep_moveCoin hl (updateOne_of_finish (orRaise_eq_ok.1 hdeliveries)).2
    (moves_finished (check_eq_ok.1 hstate) now errorCode messageId) h

end Transitions

/-! ## Everything else -/

/-- No preview is deleted, and each keeps its provider. -/
def KeepsProviders (previews previews' : AffiliateShadowPreviews) : Prop :=
  ∀ p preview, previews.get? p = some preview →
    ∃ preview', previews'.get? p = some preview' ∧ preview'.provider = preview.provider

theorem KeepsProviders.refl (previews : AffiliateShadowPreviews) :
    KeepsProviders previews previews := fun _ preview h => ⟨preview, h, rfl⟩

section Elsewhere

variable {t t' : ShadowTables}

/-- What does not move a delivery keeps every one of them in step. -/
theorem Lockstep.frame (hl : Lockstep t) (huses : Extends t.uses t'.uses)
    (hpreviews : KeepsProviders t.previews t'.previews) (hrows : t'.deliveries = t.deliveries)
    (hcolumn : t'.deliveryUses = t.deliveryUses)
    (hcoinRows : ∀ id row', t'.coinDeliveries.get? id = some row' →
      ∃ row, t.coinDeliveries.get? id = some row ∧ SameDelivery row row')
    (hcoinColumn : t'.coinDeliveryUses = t.coinDeliveryUses) : Lockstep t' := by
  constructor
  · rw [hrows, hcolumn]
    refine Locked.sameRows (hl.canonical.extends huses) fun id row hrow =>
      ⟨row, hrow, ⟨rfl, rfl, rfl, rfl⟩, ?_⟩
    rintro ⟨p, preview', hp, hpreview', hprovider⟩
    obtain ⟨p', preview, hp', hpreview⟩ := hl.previewed id row hrow
    obtain rfl := Option.some.inj (hp.symm.trans hp')
    obtain ⟨preview'', hpreview'', hsame⟩ := hpreviews p preview hpreview
    obtain rfl := Option.some.inj (hpreview'.symm.trans hpreview'')
    exact ⟨p, preview, hp, hpreview, hsame.symm.trans hprovider⟩
  · intro id row hrow
    rw [hrows] at hrow
    obtain ⟨p, preview, hp, hpreview⟩ := hl.previewed id row hrow
    obtain ⟨preview', hpreview', -⟩ := hpreviews p preview hpreview
    exact ⟨p, preview', hp, hpreview'⟩
  · rw [hcoinColumn]
    refine Locked.sameRows (hl.coin.extends huses) fun id row' hrow' => ?_
    obtain ⟨row, hrow, hsame⟩ := hcoinRows id row' hrow'
    exact ⟨row, hrow, hsame, fun _ => trivial⟩

theorem sameDelivery_self (rows : ShadowDeliveries Text) :
    ∀ id row', rows.get? id = some row' → ∃ row, rows.get? id = some row ∧ SameDelivery row row' :=
  fun _ row' h => ⟨row', h, rfl, rfl, rfl, rfl⟩

theorem sameDelivery_forgetPreviews {rows : ShadowDeliveries Text} {single multi : List Nat}
    {id : Nat} {row' : ShadowDelivery Text}
    (h : (CoinShadowDeliveryRepository.forgetPreviews rows single multi).get? id = some row') :
    ∃ row, rows.get? id = some row ∧ SameDelivery row row' := by
  unfold CoinShadowDeliveryRepository.forgetPreviews at h
  rw [get?_updateWhere, get?_updateWhere, Option.map_map, Option.map_eq_some_iff] at h
  obtain ⟨row, hrow, rfl⟩ := h
  refine ⟨row, hrow, ?_⟩
  dsimp only [Function.comp]
  split <;> split <;> exact ⟨rfl, rfl, rfl, rfl⟩

/-- **Saving a preview again** records another use and points the preview to it; the one its
deliveries point to is as it was. -/
theorem saveReady_keeps {history : Generations} {candidates : AffiliateCandidates}
    {proofs : AffiliateLinkProofs} {uses uses' : LinkUses}
    {previews previews' : AffiliateShadowPreviews}
    {q : AffiliateShadowPreviewRepository.Save} {previewId : Nat}
    (h : AffiliateShadowPreviewRepository.saveReady history candidates proofs uses previews q =
      .ok (uses', previews', previewId)) :
    Extends uses uses' ∧ KeepsProviders previews previews' := by
  have hput : ∀ historyUseId, KeepsProviders previews (previews.put
      (((AffiliateShadowPreviewRepository.find previews q).map Prod.fst).getD previews.freshId)
      (AffiliateShadowPreviewRepository.savedRow q historyUseId)) := by
    intro historyUseId p preview hp
    cases hfind : AffiliateShadowPreviewRepository.find previews q with
    | none =>
      refine ⟨preview, ?_, rfl⟩
      rw [Option.map_none, Option.getD_none, get?_put_ne _ _ (ne_of_lt (lt_freshId_of_get? hp))]
      exact hp
    | some found =>
      obtain ⟨id, row⟩ := found
      rw [Option.map_some, Option.getD_some, get?_put]
      split
      next heq =>
        obtain ⟨hrow, -, hprovider, -⟩ := mem_select.1 (List.mem_of_mem_head? hfind)
        obtain rfl : p = id := heq
        obtain rfl := Option.some.inj (hrow.symm.trans hp)
        exact ⟨_, rfl, hprovider.symm⟩
      next => exact ⟨preview, hp, rfl⟩
  obtain ⟨_, -, h⟩ := bind_eq_ok.1 h
  obtain ⟨_, -, h⟩ := bind_eq_ok.1 h
  obtain ⟨_, -, h⟩ := bind_eq_ok.1 h
  split at h
  · obtain ⟨ids, -, h⟩ := bind_eq_ok.1 h
    obtain ⟨⟨uses₁, n⟩, hrecorded, h⟩ := bind_eq_ok.1 h
    obtain ⟨rfl, hrest⟩ := Prod.mk.inj (Except.ok.inj h)
    obtain ⟨rfl, -⟩ := Prod.mk.inj hrest
    exact ⟨extends_recordUse hrecorded, hput _⟩
  · obtain ⟨rfl, hrest⟩ := Prod.mk.inj (Except.ok.inj h)
    obtain ⟨rfl, -⟩ := Prod.mk.inj hrest
    exact ⟨.refl _, hput _⟩

theorem keepsProviders_purgeExpiredContent (previews : AffiliateShadowPreviews) (now : Instant) :
    KeepsProviders previews
      (AffiliateShadowPreviewRepository.purgeExpiredContent previews now) := by
  intro p preview hp
  unfold AffiliateShadowPreviewRepository.purgeExpiredContent
  rw [get?_updateWhere, hp]
  refine ⟨_, rfl, ?_⟩
  dsimp only
  split <;> rfl

theorem extends_coinSave {history : Generations} {evidence : CoinShadowEvidences}
    {uses uses' : LinkUses} {previews previews' : AliExpressCoinShadowPreviews} {snapshots : Nat}
    {q : CoinShadowPreviewRepository.Save}
    (h : CoinShadowPreviewRepository.saveReady history evidence uses previews snapshots q =
      .ok (uses', previews')) : Extends uses uses' := by
  obtain ⟨_, -, h⟩ := bind_eq_ok.1 h
  obtain ⟨_, -, h⟩ := bind_eq_ok.1 h
  obtain ⟨_, -, h⟩ := bind_eq_ok.1 h
  obtain ⟨_, -, h⟩ := bind_eq_ok.1 h
  split at h
  · obtain ⟨_, -, h⟩ := bind_eq_ok.1 h
    obtain ⟨_, -, h⟩ := bind_eq_ok.1 h
    obtain ⟨⟨uses₁, n⟩, hrecorded, h⟩ := bind_eq_ok.1 h
    obtain ⟨rfl, -⟩ := Prod.mk.inj (Except.ok.inj h)
    exact extends_recordUse hrecorded
  · obtain ⟨⟨uses₁, n⟩, hrecorded, h⟩ := bind_eq_ok.1 h
    obtain ⟨rfl, -⟩ := Prod.mk.inj (Except.ok.inj h)
    exact extends_recordUse hrecorded

theorem extends_multiSave {isAware : Text → Bool} {history : Generations}
    {evidence : CoinShadowEvidences} {uses uses' : LinkUses}
    {previews previews' : CoinShadowMultiPreviews} {sequence : Nat}
    {q : CoinShadowMultiPreviewRepository.Save}
    (h : CoinShadowMultiPreviewRepository.saveReady isAware history evidence uses previews sequence
      q = .ok (uses', previews')) : Extends uses uses' := by
  obtain ⟨_, -, h⟩ := bind_eq_ok.1 h
  obtain ⟨_, -, h⟩ := bind_eq_ok.1 h
  obtain ⟨_, -, h⟩ := bind_eq_ok.1 h
  obtain ⟨_, -, h⟩ := bind_eq_ok.1 h
  split at h
  · obtain ⟨_, -, h⟩ := bind_eq_ok.1 h
    obtain ⟨_, -, h⟩ := bind_eq_ok.1 h
    obtain ⟨rfl, -⟩ := Prod.mk.inj (Except.ok.inj h)
    exact .refl _
  · obtain ⟨⟨uses₁, n⟩, hrecorded, h⟩ := bind_eq_ok.1 h
    obtain ⟨_, -, h⟩ := bind_eq_ok.1 h
    obtain ⟨rfl, -⟩ := Prod.mk.inj (Except.ok.inj h)
    exact extends_recordUse hrecorded

theorem lockstep_coinClaim {env : Conversion.Environment} {q : CoinGeneration.Request}
    {now : Instant} {uuid : Nat} {unchanged : Bool} (hl : Lockstep t)
    (h : coinClaim env t q now uuid unchanged = .ok t') : Lockstep t' := by
  obtain ⟨claimed, -, h⟩ := bind_eq_ok.1 h
  obtain rfl := Except.ok.inj h
  exact hl.frame (.refl _) (.refl _) rfl rfl (fun _ _ hrow => sameDelivery_forgetPreviews hrow) rfl

end Elsewhere

/-! ## Runs -/

section Runs

variable {env : Conversion.Environment} {isAware : Text → Bool} {t t' : ShadowTables}

theorem lockstep_init (h : (system env isAware).init t) : Lockstep t := by
  obtain ⟨hrows, -, hcoinRows, -⟩ := h
  constructor
  · rw [hrows]
    exact locked_empty
  · intro id row hrow
    rw [hrows, get?_empty] at hrow
    cases hrow
  · rw [hcoinRows]
    exact locked_empty

theorem lockstep_step {a : Action} (hl : Lockstep t) (h : (system env isAware).step t a = some t') :
    Lockstep t' := by
  cases a with
  | reserve previewId destinationKey now =>
    obtain ⟨⟨_, reserved⟩, hreserve, rfl⟩ := map_eq_ok.1 (toOption_eq_some.1 h)
    exact lockstep_reserve hl hreserve
  | markSending id now => exact lockstep_markSending hl (toOption_eq_some.1 h)
  | finish id state now errorCode messageId => exact lockstep_finish hl (toOption_eq_some.1 h)
  | coinReserve previewId destinationFingerprint now multi =>
    obtain ⟨⟨_, reserved⟩, hreserve, rfl⟩ := map_eq_ok.1 (toOption_eq_some.1 h)
    exact lockstep_coinReserve hl hreserve
  | coinMarkSending id now => exact lockstep_coinMarkSending hl (toOption_eq_some.1 h)
  | coinFinish id state now errorCode messageId =>
    exact lockstep_coinFinish hl (toOption_eq_some.1 h)
  | save q =>
    change step env isAware t (.save q) = some t' at h
    rw [step] at h
    split at h
    next hsave =>
      obtain rfl := Option.some.inj h
      obtain ⟨huses, hpreviews⟩ := saveReady_keeps hsave
      exact hl.frame huses hpreviews rfl rfl (sameDelivery_self _) rfl
    next => cases h
  | coinSave snapshots q =>
    change step env isAware t (.coinSave snapshots q) = some t' at h
    rw [step] at h
    split at h
    next hsave =>
      obtain rfl := Option.some.inj h
      exact hl.frame (extends_coinSave hsave) (.refl _) rfl rfl (sameDelivery_self _) rfl
    next => cases h
  | multiSave q =>
    change step env isAware t (.multiSave q) = some t' at h
    rw [step] at h
    split at h
    next hsave =>
      obtain rfl := Option.some.inj h
      exact hl.frame (extends_multiSave hsave) (.refl _) rfl rfl (sameDelivery_self _) rfl
    next => cases h
  | purgeContent now =>
    obtain rfl := Option.some.inj h
    exact hl.frame (.refl _) (keepsProviders_purgeExpiredContent _ now) rfl rfl
      (sameDelivery_self _) rfl
  | coinClaim q now uuid unchanged => exact lockstep_coinClaim hl (toOption_eq_some.1 h)
  | recordUse q =>
    change step env isAware t (.recordUse q) = some t' at h
    rw [step] at h
    obtain ⟨-, h⟩ := Option.ite_none_left_eq_some.1 h
    split at h
    next hrecorded =>
      obtain rfl := Option.some.inj h
      exact hl.frame (extends_recordUse hrecorded) (.refl _) rfl rfl (sameDelivery_self _) rfl
    next => cases h
  | elsewhere history candidates proofs evidence =>
    obtain rfl := Option.some.inj h
    exact hl.frame (.refl _) (.refl _) rfl rfl (sameDelivery_self _) rfl

theorem lockstep_reachable (h : (system env isAware).Reachable t) : Lockstep t :=
  h.invariant (fun _ => lockstep_init) fun _ _ _ => lockstep_step

end Runs

/-! ## No delivery is stranded -/

theorem sendTargets_of_moves {σ : Type} {state : ShadowDeliveryState} {row row' : ShadowDelivery σ}
    (h : Moves state row row') : sendState state ∈ sendTargets := by
  cases state with
  | pending => exact absurd rfl h.left
  | sending | sent | failedSafe | uncertain => decide

theorem sendAllowed_of_finishable {σ : Type} {row : ShadowDelivery σ}
    {state : ShadowDeliveryState}
    (hstate : state ∈ [ShadowDeliveryState.sent, .failedSafe, .uncertain])
    (h : Finishable state row) : sendState row.state ∈ sendAllowed (sendState state) := by
  unfold Finishable at h
  generalize row.state = from' at h
  cases state with
  | pending | sending => simp at hstate
  | sent | failedSafe | uncertain => cases from' <;> first | decide | simp at h

section Progress

variable {t : ShadowTables} {id : Nat}

theorem Lockstep.moveCanonical {p : ShadowDelivery Nat → Prop} [DecidablePred p]
    {f : ShadowDelivery Nat → ShadowDelivery Nat} {state : ShadowDeliveryState}
    {deliveries : ShadowDeliveries Nat} {row : ShadowDelivery Nat} (hl : Lockstep t)
    (hrow : t.deliveries.get? id = some row)
    (hupdate : t.deliveries.updateOne id p f = some deliveries)
    (hf : ∀ row, Moves state row (f row))
    (hallowed : sendState row.state ∈ sendAllowed (sendState state)) (now : Instant)
    (errorCode : Option String) (messageId : Option Text) :
    ∃ t', moveCanonical t deliveries id now (sendState state) errorCode messageId = .ok t' := by
  obtain ⟨⟨row₀, hrow₀, -, hmoved⟩, -⟩ := get?_of_updateOne hupdate
  obtain rfl := Option.some.inj (hrow.symm.trans hrow₀)
  obtain ⟨previewId, preview, hpreviewId, hpreview⟩ := hl.previewed id row hrow
  have hfound : (f row).previewId.bind t.previews.get? = some preview := by
    rw [(hf row).previewId, hpreviewId]
    exact hpreview
  by_cases hofficial : preview.provider = aliexpressOfficial
  · obtain ⟨u, use, kind, uses, -, -, hkind, -, huses⟩ :=
      (hl.canonical.recorded id row hrow
        ⟨previewId, preview, hpreviewId, hpreview, hofficial⟩).transitionSend
        (sendTargets_of_moves (hf row)) hallowed now errorCode messageId
    obtain rfl := List.mem_singleton.1 hkind
    refine ⟨{ t with deliveries := deliveries, uses := uses }, ?_⟩
    refine bind_eq_ok.2 ⟨f row, orRaise_eq_ok.2 hmoved, ?_⟩
    refine bind_eq_ok.2 ⟨preview, orRaise_eq_ok.2 hfound, ?_⟩
    rw [if_pos hofficial, (hf row).source, (hf row).destination]
    exact bind_eq_ok.2 ⟨uses, huses, rfl⟩
  · refine ⟨{ t with deliveries := deliveries }, ?_⟩
    refine bind_eq_ok.2 ⟨f row, orRaise_eq_ok.2 hmoved, ?_⟩
    refine bind_eq_ok.2 ⟨preview, orRaise_eq_ok.2 hfound, ?_⟩
    rw [if_neg hofficial]
    rfl

theorem Lockstep.moveCoin {p : ShadowDelivery Text → Prop} [DecidablePred p]
    {f : ShadowDelivery Text → ShadowDelivery Text} {state : ShadowDeliveryState}
    {deliveries : ShadowDeliveries Text} {row : ShadowDelivery Text} (hl : Lockstep t)
    (hrow : t.coinDeliveries.get? id = some row)
    (hupdate : t.coinDeliveries.updateOne id p f = some deliveries)
    (hf : ∀ row, Moves state row (f row))
    (hallowed : sendState row.state ∈ sendAllowed (sendState state)) (now : Instant)
    (errorCode : Option String) (messageId : Option Text) :
    ∃ t', moveCoin t deliveries id now (sendState state) errorCode messageId = .ok t' := by
  obtain ⟨⟨row₀, hrow₀, -, hmoved⟩, -⟩ := get?_of_updateOne hupdate
  obtain rfl := Option.some.inj (hrow.symm.trans hrow₀)
  obtain ⟨u, use, kind, uses, hu, huse, hkind, hoperation, huses⟩ :=
    (hl.coin.recorded id row hrow trivial).transitionSend (sendTargets_of_moves (hf row)) hallowed
      now errorCode messageId
  have hcoin : kind = .coinDelivery ∨ kind = .coinMultiDelivery := by
    rcases List.mem_cons.1 hkind with rfl | hkind
    · exact Or.inl rfl
    · exact Or.inr (List.mem_singleton.1 hkind)
  have hhistory : historyKind t id = .ok kind := by
    unfold historyKind
    rw [hu, Option.bind_some, huse, Option.bind_some, hoperation, Option.filter_some,
      if_pos (decide_eq_true hcoin)]
    rfl
  refine ⟨{ t with coinDeliveries := deliveries, uses := uses }, ?_⟩
  refine bind_eq_ok.2 ⟨f row, orRaise_eq_ok.2 hmoved, bind_eq_ok.2 ⟨kind, hhistory, ?_⟩⟩
  rw [(hf row).source, (hf row).destination]
  exact bind_eq_ok.2 ⟨uses, huses, rfl⟩

theorem Lockstep.markSending {row : ShadowDelivery Nat} (hl : Lockstep t)
    (hrow : t.deliveries.get? id = some row) (hpending : row.state = .pending) (now : Instant) :
    ∃ t', markSending t id now = .ok t' := by
  have hunsent : Unsent row := ⟨hpending, hl.canonical.unsent id row hrow hpending⟩
  obtain ⟨deliveries, hupdate⟩ := exists_updateOne hrow hunsent (marked none)
  have hallowed : sendState row.state ∈ sendAllowed (sendState .sending) := by
    rw [hpending]
    decide
  obtain ⟨t', ht'⟩ := hl.moveCanonical hrow hupdate (moves_marked none) hallowed now none none
  exact ⟨t', bind_eq_ok.2 ⟨deliveries, orRaise_eq_ok.2 hupdate, ht'⟩⟩

theorem Lockstep.coinMarkSending {row : ShadowDelivery Text} (hl : Lockstep t)
    (hrow : t.coinDeliveries.get? id = some row) (hpending : row.state = .pending)
    (now : Instant) : ∃ t', coinMarkSending t id now = .ok t' := by
  have hunsent : Unsent row := ⟨hpending, hl.coin.unsent id row hrow hpending⟩
  obtain ⟨deliveries, hupdate⟩ := exists_updateOne hrow hunsent (marked (some now))
  have hallowed : sendState row.state ∈ sendAllowed (sendState .sending) := by
    rw [hpending]
    decide
  obtain ⟨t', ht'⟩ := hl.moveCoin hrow hupdate (moves_marked (some now)) hallowed now none none
  exact ⟨t', bind_eq_ok.2 ⟨deliveries, orRaise_eq_ok.2 hupdate, ht'⟩⟩

theorem finish_of_updateOne {σ : Type} {rows rows' : ShadowDeliveries σ}
    {state : ShadowDeliveryState} {now : Instant} {errorCode : Option String}
    {messageId : Option Text}
    (hstate : state ∈ [ShadowDeliveryState.sent, .failedSafe, .uncertain])
    (h : rows.updateOne id (Finishable state) (finished state now errorCode messageId) =
      some rows') :
    ShadowDeliveries.finish rows id state now errorCode messageId true = some rows' := by
  unfold ShadowDeliveries.finish
  rw [if_pos ⟨rfl, hstate⟩]
  exact h

theorem Lockstep.finish {row : ShadowDelivery Nat} {state : ShadowDeliveryState} (hl : Lockstep t)
    (hrow : t.deliveries.get? id = some row)
    (hstate : state ∈ [ShadowDeliveryState.sent, .failedSafe, .uncertain])
    (hfinishable : Finishable state row) (now : Instant) (errorCode : Option String)
    (messageId : Option Text) :
    ∃ t', finish t id state now errorCode messageId = .ok t' := by
  obtain ⟨deliveries, hupdate⟩ :=
    exists_updateOne hrow hfinishable (finished state now errorCode messageId)
  obtain ⟨t', ht'⟩ := hl.moveCanonical hrow hupdate
    (moves_finished hstate now errorCode messageId) (sendAllowed_of_finishable hstate hfinishable)
    now errorCode messageId
  exact ⟨t', bind_eq_ok.2 ⟨⟨⟩, check_eq_ok.2 hstate, bind_eq_ok.2
    ⟨deliveries, orRaise_eq_ok.2 (finish_of_updateOne hstate hupdate), ht'⟩⟩⟩

theorem Lockstep.coinFinish {row : ShadowDelivery Text} {state : ShadowDeliveryState}
    (hl : Lockstep t) (hrow : t.coinDeliveries.get? id = some row)
    (hstate : state ∈ [ShadowDeliveryState.sent, .failedSafe, .uncertain])
    (hfinishable : Finishable state row) (now : Instant) (errorCode : Option String)
    (messageId : Option Text) :
    ∃ t', coinFinish t id state now errorCode messageId = .ok t' := by
  obtain ⟨deliveries, hupdate⟩ :=
    exists_updateOne hrow hfinishable (finished state now errorCode messageId)
  obtain ⟨t', ht'⟩ := hl.moveCoin hrow hupdate
    (moves_finished hstate now errorCode messageId) (sendAllowed_of_finishable hstate hfinishable)
    now errorCode messageId
  exact ⟨t', bind_eq_ok.2 ⟨⟨⟩, check_eq_ok.2 hstate, bind_eq_ok.2
    ⟨deliveries, orRaise_eq_ok.2 (finish_of_updateOne hstate hupdate), ht'⟩⟩⟩

end Progress

/-! ## The result -/

/-- The use recorded for a delivery is a send, of a delivery of one of these kinds and of this
number, and its state is the one of the delivery. -/
def Recorded (uses : LinkUses) (kinds : List OperationalKind) (id : Nat)
    (state : ShadowDeliveryState) (useId : Option Nat) : Prop :=
  ∃ use, useId.bind uses.get? = some use ∧ use.kind = .send ∧
    (∃ kind ∈ kinds, use.operationalKind = some kind) ∧ use.operationalId = some id ∧
    use.state = sendState state

theorem InStep.recorded {uses : LinkUses} {kinds : List OperationalKind} {origin : String × Json}
    {id : Nat} {destination : Text} {state : ShadowDeliveryState} {useId : Option Nat}
    (h : InStep uses kinds origin id destination state useId) :
    Recorded uses kinds id state useId := by
  obtain ⟨u, use, kind, rfl, huse, hkind, howned, hstate, -⟩ := h
  exact ⟨use, huse, howned.1, ⟨kind, hkind, howned.2.2.1⟩, howned.2.2.2.1, hstate⟩

/-- **Deliveries and their uses are in lockstep.**  In every state the program can bring its
tables into, the delivery of a link of AliExpress and the send recorded for it are in the same
state, and every transition a delivery can make by its own row goes through. -/
theorem deliveries_in_lockstep {env : Conversion.Environment} {isAware : Text → Bool}
    {t : ShadowTables} (h : (system env isAware).Reachable t) :
    (∀ id row, t.deliveries.get? id = some row →
      (IsOfficial t.previews row →
        Recorded t.uses [.canonicalDelivery] id row.state (t.deliveryUses.get? id)) ∧
      (row.state = .pending → ∀ now, ∃ t', markSending t id now = .ok t') ∧
      ∀ state ∈ [ShadowDeliveryState.sent, .failedSafe, .uncertain], Finishable state row →
        ∀ now errorCode messageId, ∃ t', finish t id state now errorCode messageId = .ok t') ∧
    ∀ id row, t.coinDeliveries.get? id = some row →
      Recorded t.uses coinKinds id row.state (t.coinDeliveryUses.get? id) ∧
      (row.state = .pending → ∀ now, ∃ t', coinMarkSending t id now = .ok t') ∧
      ∀ state ∈ [ShadowDeliveryState.sent, .failedSafe, .uncertain], Finishable state row →
        ∀ now errorCode messageId, ∃ t', coinFinish t id state now errorCode messageId = .ok t' := by
  have hl := lockstep_reachable h
  constructor
  · intro id row hrow
    exact ⟨fun hofficial => (hl.canonical.recorded id row hrow hofficial).recorded,
      hl.markSending hrow, fun state hstate hfinishable => hl.finish hrow hstate hfinishable⟩
  · intro id row hrow
    exact ⟨(hl.coin.recorded id row hrow trivial).recorded, hl.coinMarkSending hrow,
      fun state hstate hfinishable => hl.coinFinish hrow hstate hfinishable⟩

/-! ## A run -/

/-- ASCII, and a keyed function which leaves the message as it is. -/
def plainEnvironment : Conversion.Environment := ⟨.ascii, fun _ message => message, .shadow⟩

/-- The use of the preview below. -/
def previewUse : LinkUse where
  scope := .shadow
  kind := .preview
  state := .previewReady
  occurredAt := 0
  startedAt := none
  finishedAt := none
  origin := some [canonicalOrigin 7]
  previewHistoryUseId := none
  originMissingReason := none
  destinationKey := none
  operationalKind := some .canonicalPreview
  operationalId := some 1
  telegramMessageId := none
  errorCode := none
  generations := [(1, true)]

/-- The preview of one message, and nothing else. -/
def onePreview : ShadowTables where
  history := (∅ : Generations).put 1
    { newRow .shadow (.canonical 1) with state := .confirmed }
  candidates := ∅
  proofs := ∅
  evidence := ∅
  uses := (∅ : LinkUses).put 1 previewUse
  previews := (∅ : AffiliateShadowPreviews).put 1
    { historyUseId := some 1
      sourceMessageId := 7
      affiliateProofId := 1
      provider := aliexpressOfficial
      store := .aliexpress
      status := "READY"
      replacementCount := 1
      cacheHit := true
      affiliateHost := "s.click.aliexpress.com".toList
      renderedText := some "hi".toList
      affiliateLink := some "https://s.click.aliexpress.com/e/_a".toList
      contentExpiresAt := 50
      purgedAt := none
      createdAt := 0
      links := [] }
  coinPreviews := ∅
  multiPreviews := ∅
  multiSequence := 0
  deliveries := ∅
  deliveryUses := ∅
  coinDeliveries := ∅
  coinDeliveryUses := ∅

/-- The preview is reserved and purged, and then its delivery sent. -/
def purgedAndSent : ShadowTables :=
  (system plainEnvironment fun _ => true).endOf onePreview
    [.reserve 1 "@deals".toList 10, .purgeContent 60, .markSending 1 70]

/-- A delivery whose preview was purged is in flight, and its use with it; it can be finished. -/
theorem deliveries_in_lockstep_purged :
    (∃ row, purgedAndSent.deliveries.get? 1 = some row ∧ row.state = .sending ∧
      Recorded purgedAndSent.uses [.canonicalDelivery] 1 .sending
        (purgedAndSent.deliveryUses.get? 1)) ∧
      ∃ t', finish purgedAndSent 1 .sent 80 none none = .ok t' := by
  have hreachable : (system plainEnvironment fun _ => true).Reachable purgedAndSent :=
    ⟨onePreview, ⟨rfl, rfl, rfl, rfl⟩, TransitionSystem.run_endOf (by decide +kernel)⟩
  have hrow : (purgedAndSent.deliveries.get? 1).map (fun row => (row.state, row.previewId)) =
      some (.sending, some 1) := by decide +kernel
  have hpreview : (purgedAndSent.previews.get? 1).map AffiliateShadowPreview.provider =
      some aliexpressOfficial := by decide +kernel
  obtain ⟨row, hget, heq⟩ := Option.map_eq_some_iff.1 hrow
  obtain ⟨hstate, hpreviewId⟩ := Prod.mk.inj heq
  obtain ⟨preview, hgetPreview, hprovider⟩ := Option.map_eq_some_iff.1 hpreview
  obtain ⟨hrecorded, -, hfinish⟩ := (deliveries_in_lockstep hreachable).1 1 row hget
  refine ⟨⟨row, hget, hstate, ?_⟩, hfinish .sent (by decide) ?_ 80 none none⟩
  · rw [← hstate]
    exact hrecorded ⟨1, preview, hpreviewId, hgetPreview, hprovider⟩
  · unfold Finishable
    rw [hstate]
    decide

end DeliveryUses
end PromoBot
