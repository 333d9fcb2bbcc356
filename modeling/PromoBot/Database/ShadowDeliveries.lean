import PromoBot.Domain.StateMachines
import PromoBot.Lib.PyText
import PromoBot.Lib.SqlTable

/-!
# The shadow delivery tables

`affiliate_shadow_deliveries` (`database/shadow_delivery_repository.py`) and
`aliexpress_coin_shadow_deliveries` (`CoinShadowDeliveryRepository` of
`database/coin_shadow_repository.py`).  Both hold one reservation for every pair
of a source and a destination; a canonical source is the number of a source
message, a coin source the fingerprint of one.

The updates of the two repositories are the same up to the type of the source,
so they are stated once (`ShadowDeliveries`).  A method which also writes the link
history fails when that part raises; `historyOk` says that it did not.
-/

namespace PromoBot

inductive ShadowDeliveryState
  | pending | sending | sent | failedSafe | uncertain
  deriving DecidableEq, Repr

/-- A row of `affiliate_shadow_deliveries` (`ShadowDeliveryModel`) or of
`aliexpress_coin_shadow_deliveries` (`AliExpressCoinShadowDeliveryModel`).  Only coin
rows use `multiPreviewId`. -/
structure ShadowDelivery (σ : Type) where
  previewId : Option Nat
  multiPreviewId : Option Nat
  source : σ
  destination : Text
  state : ShadowDeliveryState
  attemptCount : Nat
  startedAt : Option Instant
  finishedAt : Option Instant
  telegramMessageId : Option Text
  errorCode : Option String
  deriving DecidableEq, Repr

/-- A table of reservations. -/
abbrev ShadowDeliveries (σ : Type) := SqlTable Nat (ShadowDelivery σ)

namespace ShadowDeliveries

open SqlTable

variable {σ : Type}

/-! ## What both repositories do -/

/-- The row a reservation inserts. -/
def reservation (previewId multiPreviewId : Option Nat) (source : σ) (destination : Text)
    (startedAt : Option Instant) : ShadowDelivery σ where
  previewId := previewId
  multiPreviewId := multiPreviewId
  source := source
  destination := destination
  state := .pending
  attemptCount := 0
  startedAt := startedAt
  finishedAt := none
  telegramMessageId := none
  errorCode := none

/-- What `reserve` answers: the table, the row with its number, and whether it was
created. -/
structure Reserved (σ : Type) where
  table : ShadowDeliveries σ
  id : Nat
  row : ShadowDelivery σ
  created : Bool

/-- `INSERT … ON CONFLICT DO NOTHING` on source and destination, and the row of that
pair. -/
def insertOrFind [DecidableEq σ] (t : ShadowDeliveries σ) (row : ShadowDelivery σ) :
    Reserved σ :=
  match (t.select fun _ r => r.source = row.source ∧ r.destination = row.destination).head? with
  | some (i, r) => ⟨t, i, r, false⟩
  | none => ⟨t.put t.freshId row, t.freshId, row, true⟩

/-- The guard of `mark_sending`. -/
def Unsent (r : ShadowDelivery σ) : Prop := r.state = .pending ∧ r.attemptCount = 0

instance : DecidablePred (Unsent (σ := σ)) := fun _ => inferInstanceAs (Decidable (_ ∧ _))

/-- The values `mark_sending` writes; the coin repository also writes `started_at`. -/
def marked (startedAt : Option Instant) (r : ShadowDelivery σ) : ShadowDelivery σ :=
  { r with state := .sending, attemptCount := 1, startedAt := startedAt.or r.startedAt }

/-- `mark_sending`; `none` when it raised. -/
def markSending (t : ShadowDeliveries σ) (id : Nat) (startedAt : Option Instant)
    (historyOk : Bool) : Option (ShadowDeliveries σ) :=
  if historyOk then t.updateOne id Unsent (marked startedAt) else none

/-- The guard of `finish`. -/
def Finishable (state : ShadowDeliveryState) (r : ShadowDelivery σ) : Prop :=
  r.state ∈ if state = .failedSafe then [.pending, .sending] else [ShadowDeliveryState.sending]

instance (state : ShadowDeliveryState) : DecidablePred (Finishable (σ := σ) state) :=
  fun _ => inferInstanceAs (Decidable (_ ∈ _))

/-- The values `finish` writes. -/
def finished (state : ShadowDeliveryState) (now : Instant) (errorCode : Option String)
    (messageId : Option Text) (r : ShadowDelivery σ) : ShadowDelivery σ :=
  { r with
    state := state
    finishedAt := some now
    errorCode := errorCode
    telegramMessageId := messageId }

/-- `finish`; `none` when it raised. -/
def finish (t : ShadowDeliveries σ) (id : Nat) (state : ShadowDeliveryState) (now : Instant)
    (errorCode : Option String) (messageId : Option Text) (historyOk : Bool) :
    Option (ShadowDeliveries σ) :=
  if historyOk ∧ state ∈ [.sent, .failedSafe, .uncertain] then
    t.updateOne id (Finishable state) (finished state now errorCode messageId)
  else none

/-- There is a reservation of that pair. -/
def HasReservation (t : ShadowDeliveries σ) (source : σ) (destination : Text) : Prop :=
  ∃ i r, t.get? i = some r ∧ r.source = source ∧ r.destination = destination

/-! ## Reservations stay -/

variable {t t' : ShadowDeliveries σ} {source : σ} {destination : Text}

/-- An update which keeps sources and destinations keeps the reservations. -/
theorem hasReservation_updateWhere {p : Nat → ShadowDelivery σ → Prop}
    [∀ i r, Decidable (p i r)] {f : ShadowDelivery σ → ShadowDelivery σ}
    (hf : ∀ r, (f r).source = r.source ∧ (f r).destination = r.destination) :
    HasReservation (t.updateWhere p f) source destination ↔
      HasReservation t source destination := by
  have hrow : ∀ i r, (if p i r then f r else r).source = r.source ∧
      (if p i r then f r else r).destination = r.destination := by
    intro i r
    split
    · exact hf r
    · exact ⟨rfl, rfl⟩
  constructor
  · rintro ⟨i, r, hr, hs, hd⟩
    rw [get?_updateWhere, Option.map_eq_some_iff] at hr
    obtain ⟨r₀, hr₀, rfl⟩ := hr
    exact ⟨i, r₀, hr₀, (hrow i r₀).1 ▸ hs, (hrow i r₀).2 ▸ hd⟩
  · rintro ⟨i, r, hr, hs, hd⟩
    refine ⟨i, _, ?_, (hrow i r).1.trans hs, (hrow i r).2.trans hd⟩
    rw [get?_updateWhere, hr, Option.map_some]

theorem hasReservation_updateOne {i : Nat} {p : ShadowDelivery σ → Prop} [DecidablePred p]
    {f : ShadowDelivery σ → ShadowDelivery σ}
    (hf : ∀ r, (f r).source = r.source ∧ (f r).destination = r.destination)
    (h : t.updateOne i p f = some t') :
    HasReservation t' source destination ↔ HasReservation t source destination := by
  obtain ⟨r, hr, hp, rfl⟩ := updateOne_eq_some.1 h
  exact hasReservation_updateWhere hf

theorem hasReservation_markSending {i : Nat} {startedAt : Option Instant} {historyOk : Bool}
    (h : markSending t i startedAt historyOk = some t') :
    HasReservation t' source destination ↔ HasReservation t source destination := by
  unfold markSending at h
  split at h
  · exact hasReservation_updateOne (f := marked startedAt) (fun _ => ⟨rfl, rfl⟩) h
  · simp at h

theorem hasReservation_finish {i : Nat} {state : ShadowDeliveryState} {now : Instant}
    {errorCode : Option String} {messageId : Option Text} {historyOk : Bool}
    (h : finish t i state now errorCode messageId historyOk = some t') :
    HasReservation t' source destination ↔ HasReservation t source destination := by
  unfold finish at h
  split at h
  · exact hasReservation_updateOne (f := finished state now errorCode messageId)
      (fun _ => ⟨rfl, rfl⟩) h
  · simp at h

/-- What a reservation does to the table: a created one is for the destination asked
for, was not there before, and is the only new one; otherwise nothing changes. -/
structure Reserves (t : ShadowDeliveries σ) (destination : Text) (r : Reserved σ) : Prop where
  unchanged : r.created = false → r.table = t
  destination_eq : r.created = true → r.row.destination = destination
  fresh : r.created = true → ¬ HasReservation t r.row.source r.row.destination
  reservations : r.created = true → ∀ s d, HasReservation r.table s d ↔
    HasReservation t s d ∨ (r.row.source = s ∧ r.row.destination = d)

theorem reserves_insertOrFind [DecidableEq σ] (t : ShadowDeliveries σ) {row : ShadowDelivery σ}
    (hrow : row.destination = destination) : Reserves t destination (insertOrFind t row) := by
  unfold insertOrFind
  split
  · exact ⟨fun _ => rfl, nofun, nofun, nofun⟩
  next hhead =>
  rw [List.head?_eq_none_iff] at hhead
  refine ⟨nofun, fun _ => hrow, fun _ => ?_, fun _ s d => ⟨?_, ?_⟩⟩
  · rintro ⟨i, r, hr, hs, hd⟩
    exact List.ne_nil_of_mem (mem_select.2 ⟨hr, hs, hd⟩) hhead
  · rintro ⟨i, r, hr, hs, hd⟩
    rw [get?_put] at hr
    split at hr
    · obtain rfl := Option.some.inj hr
      exact Or.inr ⟨hs, hd⟩
    · exact Or.inl ⟨i, r, hr, hs, hd⟩
  · rintro (⟨i, r, hr, hs, hd⟩ | ⟨hs, hd⟩)
    · refine ⟨i, r, ?_, hs, hd⟩
      rw [get?_put_ne _ _ (ne_of_lt (lt_freshId_of_get? hr))]
      exact hr
    · exact ⟨_, row, get?_put_self _ _ _, hs, hd⟩

end ShadowDeliveries

/-! ## The canonical repository -/

/-- What a reservation reads of `affiliate_shadow_previews`. -/
structure ShadowPreview where
  sourceMessageId : Nat
  provider : Text
  deriving DecidableEq, Repr

namespace ShadowDeliveryRepository

open ShadowDeliveries

/-- `reserve`; `none` when it raised.  Besides the pair of source and destination,
that of preview and destination is unique. -/
def reserve (previews : SqlTable Nat ShadowPreview) (t : ShadowDeliveries Nat) (previewId : Nat)
    (destinationKey : Text) (now : Instant) (historyOk : Bool) : Option (Reserved Nat) := do
  let preview ← previews.get? previewId
  let reserved := insertOrFind t
    (reservation (some previewId) none preview.sourceMessageId destinationKey (some now))
  if reserved.created then
    if (t.select fun _ r =>
        r.previewId = some previewId ∧ r.destination = destinationKey).isEmpty ∧
        (preview.provider = "aliexpress_official".toList → historyOk = true) then
      some reserved
    else none
  else some reserved

theorem reserves_reserve {previews : SqlTable Nat ShadowPreview} {t : ShadowDeliveries Nat}
    {previewId : Nat} {destinationKey : Text} {now : Instant} {historyOk : Bool}
    {r : Reserved Nat}
    (h : reserve previews t previewId destinationKey now historyOk = some r) :
    Reserves t destinationKey r := by
  simp only [reserve, Option.bind_eq_bind, Option.bind_eq_some_iff] at h
  obtain ⟨preview, _, h⟩ := h
  have hr : insertOrFind t (reservation (some previewId) none preview.sourceMessageId
      destinationKey (some now)) = r := by
    split at h
    · split at h
      · exact Option.some.inj h
      · simp at h
    · exact Option.some.inj h
  exact hr ▸ reserves_insertOrFind t rfl

/-- `mark_sending`. -/
def markSending (t : ShadowDeliveries Nat) (internalId : Nat) (_now : Instant)
    (historyOk : Bool) : Option (ShadowDeliveries Nat) :=
  ShadowDeliveries.markSending t internalId none historyOk

/-- `finish`. -/
def finish (t : ShadowDeliveries Nat) (internalId : Nat) (state : ShadowDeliveryState)
    (now : Instant) (errorCode : Option String) (messageId : Option Text) (historyOk : Bool) :
    Option (ShadowDeliveries Nat) :=
  ShadowDeliveries.finish t internalId state now errorCode messageId historyOk

end ShadowDeliveryRepository

/-! ## The coin repository -/

/-- What a reservation reads of `aliexpress_coin_shadow_previews` and of
`aliexpress_coin_shadow_multi_previews`. -/
structure CoinShadowPreview where
  sourceMessageFingerprint : Text
  deriving DecidableEq, Repr

namespace CoinShadowDeliveryRepository

open ShadowDeliveries

/-- `reserve`; `none` when it raised. -/
def reserve (previews multiPreviews : SqlTable Nat CoinShadowPreview)
    (t : ShadowDeliveries Text) (previewId : Nat) (destinationFingerprint : Text)
    (multi historyOk : Bool) : Option (Reserved Text) :=
  if destinationFingerprint.length ≠ 64 then none
  else
    (if multi then multiPreviews.get? previewId else previews.get? previewId).bind fun preview =>
      let reserved := insertOrFind t
        (reservation (if multi then none else some previewId)
          (if multi then some previewId else none)
          preview.sourceMessageFingerprint destinationFingerprint none)
      if reserved.created → historyOk = true then some reserved else none

theorem reserves_reserve {previews multiPreviews : SqlTable Nat CoinShadowPreview}
    {t : ShadowDeliveries Text} {previewId : Nat} {destinationFingerprint : Text}
    {multi historyOk : Bool} {r : Reserved Text}
    (h : reserve previews multiPreviews t previewId destinationFingerprint multi historyOk =
      some r) : Reserves t destinationFingerprint r := by
  unfold reserve at h
  split at h
  · simp at h
  obtain ⟨preview, _, h⟩ := Option.bind_eq_some_iff.1 h
  obtain ⟨_, h⟩ := Option.ite_none_right_eq_some.1 h
  exact Option.some.inj h ▸ reserves_insertOrFind t rfl

/-- `mark_sending`. -/
def markSending (t : ShadowDeliveries Text) (deliveryId : Nat) (now : Instant)
    (historyOk : Bool) : Option (ShadowDeliveries Text) :=
  ShadowDeliveries.markSending t deliveryId (some now) historyOk

/-- `finish`. -/
def finish (t : ShadowDeliveries Text) (deliveryId : Nat) (state : ShadowDeliveryState)
    (now : Instant) (errorCode : Option String) (messageId : Option Text) (historyOk : Bool) :
    Option (ShadowDeliveries Text) :=
  ShadowDeliveries.finish t deliveryId state now errorCode messageId historyOk

/-- The purges forget which preview a reservation was made for, and keep the
reservation. -/
def forgetPreviews (t : ShadowDeliveries Text) (previewIds multiPreviewIds : List Nat) :
    ShadowDeliveries Text :=
  (t.updateWhere (fun _ r => ∃ i ∈ r.previewId, i ∈ previewIds)
      fun r => { r with previewId := none }).updateWhere
    (fun _ r => ∃ i ∈ r.multiPreviewId, i ∈ multiPreviewIds)
    fun r => { r with multiPreviewId := none }

end CoinShadowDeliveryRepository

end PromoBot
