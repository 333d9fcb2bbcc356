import PromoBot.Affiliate.CoinGeneration
import PromoBot.Affiliate.ShadowPreviews
import PromoBot.Database.ShadowDeliveries

/-!
# Deliveries and the uses of their links

`ShadowDeliveryRepository` (`database/shadow_delivery_repository.py`) and
`CoinShadowDeliveryRepository` (`database/coin_shadow_repository.py`) in full: every
method which moves a delivery also moves the use that is recorded for it in the
history of links, in the same transaction.  A method that raises is rolled back.

What a method does to the deliveries alone is `ShadowDeliveries`; the column
`history_use_id` of a table of deliveries is kept apart from it, by the number of the
delivery.

`system` is the database of the shadow, written by any number of services in any
order: reservations, transitions, previews saved and saved again, purges, and
whatever is done to generations, evidence, candidates and proofs.  A service that
is cancelled or dies, and one that starts again, is one that makes some of these
steps and not others.
-/

namespace PromoBot
namespace DeliveryUses

open SqlTable Fallible ShadowDeliveries AffiliateLinkHistoryRepository

/-- The tables of the shadow that deliveries have to do with. -/
structure ShadowTables where
  history : Generations
  candidates : AffiliateCandidates
  proofs : AffiliateLinkProofs
  evidence : CoinShadowEvidences
  uses : LinkUses
  previews : AffiliateShadowPreviews
  coinPreviews : AliExpressCoinShadowPreviews
  multiPreviews : CoinShadowMultiPreviews
  /-- The highest number a row of `multiPreviews` had. -/
  multiSequence : Nat
  deliveries : ShadowDeliveries Nat
  deliveryUses : SqlTable Nat Nat
  coinDeliveries : ShadowDeliveries Text
  coinDeliveryUses : SqlTable Nat Nat

def sendState : ShadowDeliveryState → LinkUseState
  | .pending => .sendReserved
  | .sending => .sendInFlight
  | .sent => .sendConfirmed
  | .failedSafe => .sendFailed
  | .uncertain => .sendUncertain

/-- The use a reservation is recorded with. -/
def sendUse (kind : OperationalKind) (origin : String × Json) (ids : List Nat)
    (historyUseId : Option Nat) (now : Instant) (id : Nat) (destination : Text) : UseRecord where
  scope := .shadow
  kind := .send
  generationIds := ids
  now := now
  cacheHit := false
  cacheHits := none
  sourceUseId := historyUseId
  origin := some [origin]
  operationalKind := some kind
  operationalId := some id
  destinationKey := some destination

/-- The owner of the send of a delivery. -/
def ownerOf (kind : OperationalKind) (origin : String × Json) (id : Nat) (destination : Text) :
    SendOwner :=
  ⟨kind, id, destination, [origin]⟩

/-! ## The canonical repository -/

/-- `ShadowDeliveryRepository.reserve`. -/
def reserve (t : ShadowTables) (previewId : Nat) (destinationKey : Text) (now : Instant) :
    Except String (ShadowTables × Reserved Nat) := do
  let preview ← orRaise (t.previews.get? previewId) "SHADOW_PREVIEW_NOT_FOUND"
  let reserved := insertOrFind t.deliveries
    (reservation (some previewId) none preview.sourceMessageId destinationKey (some now))
  if reserved.created then do
    check (t.deliveries.select fun _ r =>
      r.previewId = some previewId ∧ r.destination = destinationKey).isEmpty "IntegrityError"
    if preview.provider = aliexpressOfficial then do
      let ids ← validatePreviewUse t.uses .canonicalPreview previewId
        (canonicalOrigin preview.sourceMessageId) preview.historyUseId
      let recorded ← recordUse t.history t.uses (sendUse .canonicalDelivery
        (canonicalOrigin preview.sourceMessageId) ids preview.historyUseId now reserved.id
        destinationKey)
      return ({ t with
        deliveries := reserved.table
        uses := recorded.1
        deliveryUses := t.deliveryUses.put reserved.id recorded.2 }, reserved)
    else return ({ t with deliveries := reserved.table }, reserved)
  else return (t, reserved)

/-- The use of a canonical delivery moves, where its preview is one of AliExpress. -/
def moveCanonical (t : ShadowTables) (deliveries : ShadowDeliveries Nat) (id : Nat)
    (now : Instant) (state : LinkUseState) (errorCode : Option String) (messageId : Option Text) :
    Except String ShadowTables := do
  let row ← orRaise (deliveries.get? id) "AssertionError"
  let preview ← orRaise (row.previewId.bind t.previews.get?) "AssertionError"
  if preview.provider = aliexpressOfficial then do
    let uses ← transitionSend t.uses (t.deliveryUses.get? id) now state
      (ownerOf .canonicalDelivery (canonicalOrigin row.source) id row.destination) errorCode
      messageId
    return { t with deliveries := deliveries, uses := uses }
  else return { t with deliveries := deliveries }

/-- `ShadowDeliveryRepository.mark_sending`. -/
def markSending (t : ShadowTables) (id : Nat) (now : Instant) : Except String ShadowTables := do
  let deliveries ← orRaise (ShadowDeliveryRepository.markSending t.deliveries id now true)
    "SHADOW_DELIVERY_TRANSITION_CONFLICT"
  moveCanonical t deliveries id now .sendInFlight none none

/-- `ShadowDeliveryRepository.finish`. -/
def finish (t : ShadowTables) (id : Nat) (state : ShadowDeliveryState) (now : Instant)
    (errorCode : Option String) (messageId : Option Text) : Except String ShadowTables := do
  check (state ∈ [.sent, .failedSafe, .uncertain]) "SHADOW_DELIVERY_STATE_INVALID"
  let deliveries ← orRaise
    (ShadowDeliveryRepository.finish t.deliveries id state now errorCode messageId true)
    "SHADOW_DELIVERY_TRANSITION_CONFLICT"
  moveCanonical t deliveries id now (sendState state) errorCode messageId

/-! ## The coin repository -/

/-- What `reserve` reads of a coin preview of either kind: its source and its use, and
what `validate_preview` says of it. -/
def coinPreviewOf (isAware : Text → Bool) (t : ShadowTables) (previewId : Nat) (multi : Bool) :
    Option (Text × Option Nat × Except String (List Nat)) :=
  if multi then
    (t.multiPreviews.get? previewId).map fun r => (r.sourceMessageFingerprint, r.historyUseId,
      validateMultiPreview isAware t.history t.evidence t.uses previewId r)
  else
    (t.coinPreviews.get? previewId).map fun r => (r.sourceMessageFingerprint, r.historyUseId,
      validateCoinPreview t.history t.evidence t.uses previewId r)

/-- The kind of a coin delivery. -/
def coinKind (multi : Bool) : OperationalKind :=
  if multi then .coinMultiDelivery else .coinDelivery

/-- `CoinShadowDeliveryRepository.reserve`. -/
def coinReserve (isAware : Text → Bool) (t : ShadowTables) (previewId : Nat)
    (destinationFingerprint : Text) (now : Instant) (multi : Bool) :
    Except String (ShadowTables × Reserved Text) := do
  check (destinationFingerprint.length = 64) "COIN_SHADOW_DESTINATION_FINGERPRINT_INVALID"
  let preview ← orRaise (coinPreviewOf isAware t previewId multi) "COIN_SHADOW_PREVIEW_NOT_FOUND"
  let reserved := insertOrFind t.coinDeliveries
    (reservation (if multi then none else some previewId) (if multi then some previewId else none)
      preview.1 destinationFingerprint none)
  if reserved.created then do
    let ids ← preview.2.2
    let recorded ← recordUse t.history t.uses (sendUse (coinKind multi) (coinOrigin preview.1) ids
      preview.2.1 now reserved.id destinationFingerprint)
    return ({ t with
      coinDeliveries := reserved.table
      uses := recorded.1
      coinDeliveryUses := t.coinDeliveryUses.put reserved.id recorded.2 }, reserved)
  else return (t, reserved)

/-- `_history_kind`. -/
def historyKind (t : ShadowTables) (id : Nat) : Except String OperationalKind :=
  orRaise (((t.coinDeliveryUses.get? id).bind t.uses.get?).bind fun use =>
    use.operationalKind.filter fun kind => kind = .coinDelivery ∨ kind = .coinMultiDelivery)
    "AFFILIATE_HISTORY_USE_OWNER_INVALID"

/-- The use of a coin delivery moves. -/
def moveCoin (t : ShadowTables) (deliveries : ShadowDeliveries Text) (id : Nat)
    (now : Instant) (state : LinkUseState) (errorCode : Option String) (messageId : Option Text) :
    Except String ShadowTables := do
  let row ← orRaise (deliveries.get? id) "AssertionError"
  let kind ← historyKind t id
  let uses ← transitionSend t.uses (t.coinDeliveryUses.get? id) now state
    (ownerOf kind (coinOrigin row.source) id row.destination) errorCode messageId
  return { t with coinDeliveries := deliveries, uses := uses }

/-- `CoinShadowDeliveryRepository.mark_sending`. -/
def coinMarkSending (t : ShadowTables) (id : Nat) (now : Instant) :
    Except String ShadowTables := do
  let deliveries ← orRaise (CoinShadowDeliveryRepository.markSending t.coinDeliveries id now true)
    "COIN_SHADOW_DELIVERY_TRANSITION_CONFLICT"
  moveCoin t deliveries id now .sendInFlight none none

/-- `CoinShadowDeliveryRepository.finish`. -/
def coinFinish (t : ShadowTables) (id : Nat) (state : ShadowDeliveryState) (now : Instant)
    (errorCode : Option String) (messageId : Option Text) : Except String ShadowTables := do
  check (state ∈ [.sent, .failedSafe, .uncertain]) "COIN_SHADOW_DELIVERY_STATE_INVALID"
  let deliveries ← orRaise
    (CoinShadowDeliveryRepository.finish t.coinDeliveries id state now errorCode messageId true)
    "COIN_SHADOW_DELIVERY_TRANSITION_CONFLICT"
  moveCoin t deliveries id now (sendState state) errorCode messageId

/-! ## Purges -/

/-- `purge_multi_for_evidence`, and the statements that stand beside it: the coin previews
made from that evidence are deleted, and the deliveries forget them. -/
def purgeForEvidence (t : ShadowTables) (evidenceIds : List Nat) : ShadowTables :=
  let multi := (t.multiPreviews.select fun _ r =>
    ∃ o ∈ r.occurrences, o.evidenceId ∈ evidenceIds).map Prod.fst
  let single := (t.coinPreviews.select fun _ r => r.evidenceId ∈ evidenceIds).map Prod.fst
  { t with
    coinDeliveries := CoinShadowDeliveryRepository.forgetPreviews t.coinDeliveries single multi
    multiPreviews := t.multiPreviews.deleteWhere fun id _ => id ∈ multi
    coinPreviews := t.coinPreviews.deleteWhere fun id _ => id ∈ single }

/-- The evidence a claim deletes: the row its request replaces, and what it finds outlived. -/
def deletedEvidence (env : Conversion.Environment) (t : ShadowTables) (q : CoinGeneration.Request)
    (now : Instant) (unchanged : Bool) : List Nat :=
  let replaced := match CoinGeneration.replacedRow ⟨t.evidence, t.history⟩ q.generationRequest
      (Conversion.coinPreparation env q.service q.sourceValue now 0 q.origin).identityKey
      unchanged with
    | .ok replaced => replaced.toList
    | .error _ => []
  replaced ++ (t.evidence.select fun _ e =>
    CoinShadowEvidenceRepository.Outlived now e).map Prod.fst

/-- The second transaction of `CoinShadowGenerationService.generate`, on all tables. -/
def coinClaim (env : Conversion.Environment) (t : ShadowTables) (q : CoinGeneration.Request)
    (now : Instant) (uuid : Nat) (unchanged : Bool) : Except String ShadowTables := do
  let claimed ← CoinGeneration.claimAndPrepare env ⟨t.evidence, t.history⟩ q now uuid unchanged
  return { purgeForEvidence t (deletedEvidence env t q now unchanged) with
    evidence := claimed.1.evidence
    history := claimed.1.history }

/-! ## The system -/

/-- What can happen next. -/
inductive Action
  | reserve (previewId : Nat) (destinationKey : Text) (now : Instant)
  | markSending (id : Nat) (now : Instant)
  | finish (id : Nat) (state : ShadowDeliveryState) (now : Instant) (errorCode : Option String)
      (messageId : Option Text)
  | coinReserve (previewId : Nat) (destinationFingerprint : Text) (now : Instant) (multi : Bool)
  | coinMarkSending (id : Nat) (now : Instant)
  | coinFinish (id : Nat) (state : ShadowDeliveryState) (now : Instant)
      (errorCode : Option String) (messageId : Option Text)
  /-- A preview is saved, or saved again. -/
  | save (q : AffiliateShadowPreviewRepository.Save)
  | coinSave (snapshots : Nat) (q : CoinShadowPreviewRepository.Save)
  | multiSave (q : CoinShadowMultiPreviewRepository.Save)
  /-- `purge_expired_content`. -/
  | purgeContent (now : Instant)
  /-- A coin link is claimed, and what was made from old evidence purged. -/
  | coinClaim (q : CoinGeneration.Request) (now : Instant) (uuid : Nat) (unchanged : Bool)
  /-- A use is recorded that is no send. -/
  | recordUse (q : UseRecord)
  /-- The rest of the program writes its tables. -/
  | elsewhere (history : Generations) (candidates : AffiliateCandidates)
      (proofs : AffiliateLinkProofs) (evidence : CoinShadowEvidences)

variable (env : Conversion.Environment) (isAware : Text → Bool)

/-- One step; `none` where the transaction raises and is rolled back. -/
def step (t : ShadowTables) : Action → Option ShadowTables
  | .reserve previewId destinationKey now =>
    ((reserve t previewId destinationKey now).map Prod.fst).toOption
  | .markSending id now => (markSending t id now).toOption
  | .finish id state now errorCode messageId =>
    (finish t id state now errorCode messageId).toOption
  | .coinReserve previewId destinationFingerprint now multi =>
    ((coinReserve isAware t previewId destinationFingerprint now multi).map Prod.fst).toOption
  | .coinMarkSending id now => (coinMarkSending t id now).toOption
  | .coinFinish id state now errorCode messageId =>
    (coinFinish t id state now errorCode messageId).toOption
  | .save q =>
    match AffiliateShadowPreviewRepository.saveReady t.history t.candidates t.proofs t.uses
      t.previews q with
    | .ok (uses, previews, _) => some { t with uses := uses, previews := previews }
    | .error _ => none
  | .coinSave snapshots q =>
    match CoinShadowPreviewRepository.saveReady t.history t.evidence t.uses t.coinPreviews
      snapshots q with
    | .ok (uses, previews) => some { t with uses := uses, coinPreviews := previews }
    | .error _ => none
  | .multiSave q =>
    match CoinShadowMultiPreviewRepository.saveReady isAware t.history t.evidence t.uses
      t.multiPreviews t.multiSequence q with
    | .ok (uses, previews) => some { t with
        uses := uses
        multiPreviews := previews
        multiSequence := max t.multiSequence (previews.keys.foldr max 0) }
    | .error _ => none
  | .purgeContent now =>
    some { t with
      previews := AffiliateShadowPreviewRepository.purgeExpiredContent t.previews now }
  | .coinClaim q now uuid unchanged => (coinClaim env t q now uuid unchanged).toOption
  | .recordUse q =>
    if q.kind = .send then none
    else
      match AffiliateLinkHistoryRepository.recordUse t.history t.uses q with
      | .ok (uses, _) => some { t with uses := uses }
      | .error _ => none
  | .elsewhere history candidates proofs evidence =>
    some { t with
      history := history
      candidates := candidates
      proofs := proofs
      evidence := evidence }

/-- The database of the shadow, from one without deliveries on. -/
def system : TransitionSystem ShadowTables Action where
  init t := t.deliveries = ∅ ∧ t.deliveryUses = ∅ ∧ t.coinDeliveries = ∅ ∧ t.coinDeliveryUses = ∅
  step := step env isAware

end DeliveryUses
end PromoBot
