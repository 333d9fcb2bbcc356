import PromoBot.Affiliate.Conversion
import PromoBot.Database.CoinEvidence
import PromoBot.Database.LinkUses

/-!
# The previews of the shadow

The three tables of rendered messages that wait to be sent, with the methods that
write them and the history's checks of them: `affiliate_shadow_previews`
(`AffiliateShadowPreviewRepository` of `database/repositories.py`),
`aliexpress_coin_shadow_previews` (`CoinShadowPreviewRepository`) and
`aliexpress_coin_shadow_multi_previews` (`CoinShadowMultiPreviewRepository`).

A preview points to the use it was recorded with.  Saving a canonical preview again
records another use; a coin preview keeps its first one.

The rows of `affiliate_shadow_preview_links` and of
`aliexpress_coin_shadow_multi_preview_occurrences` are written and deleted with their
preview, so they are columns of it here, the former in the order of their numbers and
the latter in that of their ordinals.  Generations are numbers, in a JSON object too.
-/

namespace PromoBot

open SqlTable Fallible

/-! ## Tables -/

/-- A row of `affiliate_shadow_preview_links` (`AffiliateShadowPreviewLinkModel`), and
`AffiliateShadowPreviewLinkInput`. -/
structure ShadowPreviewLink where
  sourceMessageLinkId : Nat
  affiliateProofId : Nat
  ordinal : Nat
  occurrenceCount : Nat
  cacheHit : Bool
  deriving DecidableEq

/-- A row of `affiliate_shadow_previews` (`AffiliateShadowPreviewModel`). -/
structure AffiliateShadowPreview where
  historyUseId : Option Nat
  sourceMessageId : Nat
  affiliateProofId : Nat
  provider : String
  store : Store
  status : String
  replacementCount : Nat
  cacheHit : Bool
  affiliateHost : Text
  renderedText : Option Text
  affiliateLink : Option Text
  contentExpiresAt : Instant
  purgedAt : Option Instant
  createdAt : Instant
  links : List ShadowPreviewLink

/-- The `affiliate_shadow_previews` table. -/
abbrev AffiliateShadowPreviews := SqlTable Nat AffiliateShadowPreview

/-- A row of `aliexpress_coin_shadow_previews` (`AliExpressCoinShadowPreviewModel`). -/
structure AliExpressCoinShadowPreview where
  historyUseId : Option Nat
  evidenceId : Nat
  sourceMessageFingerprint : Text
  renderedText : Text
  contentExpiresAt : Instant

/-- The `aliexpress_coin_shadow_previews` table. -/
abbrev AliExpressCoinShadowPreviews := SqlTable Nat AliExpressCoinShadowPreview

/-- A row of `aliexpress_coin_shadow_multi_preview_occurrences`
(`AliExpressCoinShadowMultiOccurrenceModel`), and `CoinMultiOccurrenceInput`. -/
structure CoinMultiOccurrence where
  ordinal : Nat
  spanStart : Nat
  spanEnd : Nat
  evidenceId : Nat
  generationId : Nat
  deriving DecidableEq

/-- A row of `aliexpress_coin_shadow_multi_previews`
(`AliExpressCoinShadowMultiPreviewModel`). -/
structure CoinShadowMultiPreview where
  historyUseId : Option Nat
  sourceMessageFingerprint : Text
  renderedText : Text
  contentExpiresAt : Instant
  occurrences : List CoinMultiOccurrence

/-- The `aliexpress_coin_shadow_multi_previews` table. -/
abbrev CoinShadowMultiPreviews := SqlTable Nat CoinShadowMultiPreview

/-- The provider of AliExpress links. -/
def aliexpressOfficial : String := "aliexpress_official"

/-! ## Checks of the history -/

namespace AffiliateLinkHistoryRepository

/-- The row of a proof, with its candidate. -/
def findProof (proofs : AffiliateLinkProofs) (id : Nat) : Option (Nat × AffiliateLinkProof) :=
  (proofs.select fun _ r => r.id = id).head?

def IsPreviewUse (kind : OperationalKind) (previewId : Nat) (origin : String × Json)
    (use : LinkUse) : Prop :=
  use.kind = .preview ∧ use.scope = .shadow ∧ use.operationalKind = some kind ∧
    use.operationalId = some previewId ∧ use.HasOrigin ∧ use.originGet origin.1 = origin.2

instance (kind : OperationalKind) (previewId : Nat) (origin : String × Json) :
    DecidablePred (IsPreviewUse kind previewId origin) :=
  fun _ => inferInstanceAs (Decidable (_ ∧ _))

/-- `validate_preview_use`, of a preview of that kind, number and origin. -/
def validatePreviewUse (uses : LinkUses) (kind : OperationalKind) (previewId : Nat)
    (origin : String × Json) (historyUseId : Option Nat) : Except String (List Nat) := do
  let id ← orRaise historyUseId "AFFILIATE_HISTORY_GENERATION_LINK_MISSING"
  let use ← orRaise (uses.get? id) "AFFILIATE_HISTORY_GENERATION_LINK_INVALID"
  check (IsPreviewUse kind previewId origin use) "AFFILIATE_HISTORY_GENERATION_LINK_INVALID"
  useGenerationIds uses (some id) .shadow

/-- What the origin of a canonical preview says. -/
def canonicalOrigin (sourceMessageId : Nat) : String × Json :=
  ("source_message_id", .int sourceMessageId)

/-- What the origin of a coin preview says. -/
def coinOrigin (sourceMessageFingerprint : Text) : String × Json :=
  ("source_message_fingerprint", .str sourceMessageFingerprint)

/-- The links of a preview, by ordinal. -/
def orderedLinks (preview : AffiliateShadowPreview) : List ShadowPreviewLink :=
  preview.links.insertionSort fun a b => a.ordinal ≤ b.ordinal

/-- The proofs of a preview: of its links, or its own. -/
def previewProofIds (preview : AffiliateShadowPreview) : List Nat :=
  match orderedLinks preview with
  | [] => [preview.affiliateProofId]
  | links => (links.map ShadowPreviewLink.affiliateProofId).eraseDups

/-- The generation of a proof, by its number. -/
def proofGenerationId (history : Generations) (candidates : AffiliateCandidates)
    (proofs : AffiliateLinkProofs) (missing : String) (proofId : Nat) : Except String Nat := do
  let found ← orRaise (findProof proofs proofId) missing
  let _ ← validateCanonicalProof history candidates .shadow found.1 found.2
  orRaise found.2.generationId "AFFILIATE_HISTORY_GENERATION_LINK_MISSING"

/-- `validate_preview`, of a canonical preview. -/
def validateCanonicalPreview (history : Generations) (candidates : AffiliateCandidates)
    (proofs : AffiliateLinkProofs) (uses : LinkUses) (previewId : Nat)
    (preview : AffiliateShadowPreview) : Except String (List Nat) := do
  let ids ← validatePreviewUse uses .canonicalPreview previewId
    (canonicalOrigin preview.sourceMessageId) preview.historyUseId
  let current ← (previewProofIds preview).mapM
    (proofGenerationId history candidates proofs "AFFILIATE_HISTORY_GENERATION_LINK_INVALID")
  check (SameIds ids current) "AFFILIATE_HISTORY_PREVIEW_GENERATION_CHANGED"
  return ids

/-- The generation evidence was made with. -/
def evidenceGenerationId (history : Generations) (evidence : CoinShadowEvidences)
    (missing : String) (evidenceId : Nat) : Except String Nat := do
  let e ← orRaise (evidence.get? evidenceId) missing
  let _ ← validateCoinEvidence history e
  orRaise e.generationId "AFFILIATE_HISTORY_GENERATION_LINK_MISSING"

/-- `validate_preview`, of a coin preview. -/
def validateCoinPreview (history : Generations) (evidence : CoinShadowEvidences)
    (uses : LinkUses) (previewId : Nat) (preview : AliExpressCoinShadowPreview) :
    Except String (List Nat) := do
  let ids ← validatePreviewUse uses .coinPreview previewId
    (coinOrigin preview.sourceMessageFingerprint) preview.historyUseId
  let current ← evidenceGenerationId history evidence "AFFILIATE_HISTORY_GENERATION_LINK_INVALID"
    preview.evidenceId
  check (SameIds ids [current]) "AFFILIATE_HISTORY_PREVIEW_GENERATION_CHANGED"
  return ids

/-- `[a-f0-9]{64}`. -/
def fingerprintPattern : Regex :=
  .times (fun c => ('a' ≤ c && c ≤ 'f') || Text.isAsciiDigit c) 64

/-- A text that is the fingerprint of an input. -/
def isFingerprint : Json → Bool
  | .str t => fingerprintPattern.fullMatches t
  | _ => false

/-- `type(value) is int` and `0 <= value < bound`. -/
def ordinalBelow (bound : Nat) : Json → Option Nat
  | .int (.ofNat n) => if n < bound then some n else none
  | _ => none

/-- The fields of an object. -/
def fields? : Json → Option (List (String × Json))
  | .obj fields => some fields
  | _ => none

section Wrappers

variable (isAware : Text → Bool)

/-- The comparisons of `_validate_wrapper_observations`.  `isAware` says that
`datetime.fromisoformat` reads a time with an offset. -/
def ObservationAgrees (history : Generations) (row : CoinMultiOccurrence)
    (item : List (String × Json)) : Prop :=
  Json.get item "generation_id" = .int row.generationId ∧
    Json.get item "span_start" = .int row.spanStart ∧
    Json.get item "span_end" = .int row.spanEnd ∧ Json.get item "http_status" = .int 302 ∧
    Json.get item "validity" = .str "MESSAGE_ONLY_NOT_CACHE".toList ∧
    (∃ r ∈ history.get? row.generationId,
      Json.get item "resolved_input_fingerprint" = (r.inputFingerprint.elim .null .str)) ∧
    isFingerprint (Json.get item "original_input_fingerprint") = true ∧
    isFingerprint (Json.get item "resolved_input_fingerprint") = true ∧
    ((Json.get item "observed_at").text?.any isAware) = true

instance (history : Generations) (row : CoinMultiOccurrence) (item : List (String × Json)) :
    Decidable (ObservationAgrees isAware history row item) :=
  inferInstanceAs (Decidable (_ ∧ _))

/-- The loop of `_validate_wrapper_observations`. -/
def checkObservations (history : Generations) (rows : List CoinMultiOccurrence) :
    List Nat → List Json → Except String Unit
  | _, [] => .ok ()
  | seen, raw :: rest => do
    let item ← orRaise (fields? raw) "AFFILIATE_HISTORY_WRAPPER_MAP_INVALID"
    let ordinal ← orRaise (ordinalBelow rows.length (Json.get item "ordinal"))
      "AFFILIATE_HISTORY_WRAPPER_MAP_INVALID"
    check (ordinal ∉ seen) "AFFILIATE_HISTORY_WRAPPER_MAP_INVALID"
    let row ← orRaise rows[ordinal]? "AFFILIATE_HISTORY_WRAPPER_MAP_INVALID"
    check (ObservationAgrees isAware history row item) "AFFILIATE_HISTORY_WRAPPER_MAP_INVALID"
    checkObservations history rows (ordinal :: seen) rest

/-- `_validate_wrapper_observations`. -/
def validateWrapperObservations (history : Generations) (use : LinkUse)
    (rows : List CoinMultiOccurrence) : Except String Bool :=
  let observations := use.originGet "wrapper_resolutions"
  if observations = .null ∧
      ((use.origin.getD []).lookup "wrapper_resolution_version").isNone then .ok false
  else do
    check (use.originGet "wrapper_resolution_version" = .int 1)
      "AFFILIATE_HISTORY_WRAPPER_MAP_INVALID"
    match observations with
    | .arr items => do
      check (1 ≤ items.length ∧ items.length ≤ rows.length) "AFFILIATE_HISTORY_WRAPPER_MAP_INVALID"
      checkObservations isAware history rows [] items
      return true
    | _ => .error "AFFILIATE_HISTORY_WRAPPER_MAP_INVALID"

/-- The occurrences, as the origin of a use keeps them. -/
def occurrenceMap (rows : List CoinMultiOccurrence) : Json :=
  .arr (rows.map fun row =>
    .obj [("ordinal", .int row.ordinal), ("generation_id", .int row.generationId)])

def occurrenceGenerationId (history : Generations) (evidence : CoinShadowEvidences)
    (row : CoinMultiOccurrence) : Except String Nat := do
  let id ← evidenceGenerationId history evidence "AFFILIATE_HISTORY_PREVIEW_GENERATION_CHANGED"
    row.evidenceId
  check (id = row.generationId) "AFFILIATE_HISTORY_PREVIEW_GENERATION_CHANGED"
  return row.generationId

/-- `validate_preview`, of the preview of several coin links. -/
def validateMultiPreview (history : Generations) (evidence : CoinShadowEvidences)
    (uses : LinkUses) (previewId : Nat) (preview : CoinShadowMultiPreview) :
    Except String (List Nat) := do
  let ids ← validatePreviewUse uses .coinMultiPreview previewId
    (coinOrigin preview.sourceMessageFingerprint) preview.historyUseId
  let use ← orRaise (preview.historyUseId.bind uses.get?)
    "AFFILIATE_HISTORY_OCCURRENCE_MAP_INVALID"
  let rows := preview.occurrences
  let wrapped ← validateWrapperObservations isAware history use rows
  check ((if wrapped then 1 else 2) ≤ rows.length ∧ rows.length ≤ 3 ∧
    rows.map CoinMultiOccurrence.ordinal = List.range rows.length)
    "AFFILIATE_HISTORY_OCCURRENCE_MAP_INVALID"
  let current ← rows.mapM (occurrenceGenerationId history evidence)
  check (use.originGet "occurrence_map_version" = .int 1 ∧
    use.originGet "occurrences" = occurrenceMap rows) "AFFILIATE_HISTORY_OCCURRENCE_MAP_INVALID"
  check (SameIds ids current) "AFFILIATE_HISTORY_PREVIEW_GENERATION_CHANGED"
  return ids

end Wrappers

end AffiliateLinkHistoryRepository

/-! ## The canonical repository -/

namespace AffiliateShadowPreviewRepository

open AffiliateLinkHistoryRepository

/-- What a caller of `save_ready` passes. -/
structure Save where
  provider : String
  store : Store
  sourceMessageId : Nat
  affiliateProofId : Nat
  replacementCount : Nat
  cacheHit : Bool
  affiliateHost : Text
  renderedText : Text
  affiliateLink : Text
  createdAt : Instant
  contentTtl : Int
  linkCorrelations : List ShadowPreviewLink

/-- The preview of that message, provider and store. -/
def find (previews : AffiliateShadowPreviews) (q : Save) :
    Option (Nat × AffiliateShadowPreview) :=
  (previews.select fun _ r => r.sourceMessageId = q.sourceMessageId ∧
    r.provider = q.provider ∧ r.store = q.store).head?

/-- The row `save_ready` writes. -/
def savedRow (q : Save) (historyUseId : Option Nat) : AffiliateShadowPreview where
  historyUseId := historyUseId
  sourceMessageId := q.sourceMessageId
  affiliateProofId := q.affiliateProofId
  provider := q.provider
  store := q.store
  status := "READY"
  replacementCount := q.replacementCount
  cacheHit := q.cacheHit
  affiliateHost := q.affiliateHost
  renderedText := some q.renderedText
  affiliateLink := some q.affiliateLink
  contentExpiresAt := q.createdAt + q.contentTtl
  purgedAt := none
  createdAt := q.createdAt
  links := q.linkCorrelations

/-- The proofs of the links, or the one of the preview. -/
def savedProofIds (q : Save) : List Nat :=
  match q.linkCorrelations with
  | [] => [q.affiliateProofId]
  | links => (links.map ShadowPreviewLink.affiliateProofId).eraseDups

/-- Whether the proof was found in the cache. -/
def proofCacheHit (q : Save) (proofId : Nat) : Bool :=
  ((q.linkCorrelations.find? fun link => link.affiliateProofId = proofId).map
    ShadowPreviewLink.cacheHit).getD q.cacheHit

/-- The use a saved preview is recorded with. -/
def savedUse (q : Save) (previewId : Nat) (generationIds : List Nat) : UseRecord where
  scope := .shadow
  kind := .preview
  generationIds := generationIds
  now := q.createdAt
  cacheHit := q.cacheHit
  cacheHits := some ((generationIds.zip ((savedProofIds q).map (proofCacheHit q))).reverse)
  sourceUseId := none
  origin := some [canonicalOrigin q.sourceMessageId]
  operationalKind := some .canonicalPreview
  operationalId := some previewId
  destinationKey := none

/-- What `save_ready` checks of a preview of AliExpress, with the generations. -/
def checkOfficial (history : Generations) (candidates : AffiliateCandidates)
    (proofs : AffiliateLinkProofs) (uses : LinkUses) (q : Save)
    (existing : Option (Nat × AffiliateShadowPreview)) : Except String (List Nat) := do
  let ids ← (savedProofIds q).mapM
    (proofGenerationId history candidates proofs "AFFILIATE_HISTORY_GENERATION_LINK_MISSING")
  match existing with
  | some (id, row) => do
    let _ ← validateCanonicalPreview history candidates proofs uses id row
    return ids
  | none => return ids

/-- `save_ready`, with the number of the preview. -/
def saveReady (history : Generations) (candidates : AffiliateCandidates)
    (proofs : AffiliateLinkProofs) (uses : LinkUses) (previews : AffiliateShadowPreviews)
    (q : Save) : Except String (LinkUses × AffiliateShadowPreviews × Nat) := do
  check (∀ link ∈ q.linkCorrelations, 1 ≤ link.occurrenceCount)
    "AFFILIATE_SHADOW_PREVIEW_LINK_OCCURRENCE_COUNT_INVALID"
  check (0 < q.contentTtl) "AFFILIATE_SHADOW_PREVIEW_TTL_INVALID"
  let existing := find previews q
  let previewId := (existing.map Prod.fst).getD previews.freshId
  check (q.linkCorrelations.map ShadowPreviewLink.sourceMessageLinkId).Nodup "IntegrityError"
  if q.provider = aliexpressOfficial then do
    let ids ← checkOfficial history candidates proofs uses q existing
    let recorded ← recordUse history uses (savedUse q previewId ids)
    return (recorded.1, previews.put previewId (savedRow q (some recorded.2)), previewId)
  else
    return (uses, previews.put previewId (savedRow q (existing.bind fun e => e.2.historyUseId)),
      previewId)

/-- `purge_expired_content`. -/
def purgeExpiredContent (previews : AffiliateShadowPreviews) (now : Instant) :
    AffiliateShadowPreviews :=
  previews.updateWhere
    (fun _ r => r.contentExpiresAt ≤ now ∧ (r.renderedText ≠ none ∨ r.affiliateLink ≠ none))
    fun r => { r with renderedText := none, affiliateLink := none, purgedAt := some now }

end AffiliateShadowPreviewRepository

/-! ## The coin repositories -/

namespace CoinShadowPreviewRepository

open AffiliateLinkHistoryRepository

/-- What a caller of `save_ready` passes. -/
structure Save where
  evidenceId : Nat
  sourceMessageFingerprint : Text
  renderedText : Text
  now : Instant
  contentExpiresAt : Instant
  cacheHit : Bool

/-- Evidence a preview can be made from. -/
def IsReady (now : Instant) (e : CoinShadowEvidence) : Prop :=
  e.state = .ready ∧ Above e.expiresAt now

instance (now : Instant) : DecidablePred (IsReady now) :=
  fun _ => inferInstanceAs (Decidable (_ ∧ _))

/-- The number of a new preview: above every one a preview has or had.  `snapshots` is the
highest one the snapshots of the generations name. -/
def nextId (uses : LinkUses) (previews : AliExpressCoinShadowPreviews) (snapshots : Nat) : Nat :=
  max (previews.keys.foldr max 0)
    (((uses.select fun _ use => use.operationalKind = some .coinPreview).map fun e =>
      e.2.operationalId.getD 0).foldr max snapshots) + 1

/-- The use a coin preview is recorded with. -/
def savedUse (q : Save) (previewId generationId : Nat) (cacheHit : Bool) : UseRecord where
  scope := .shadow
  kind := .preview
  generationIds := [generationId]
  now := q.now
  cacheHit := cacheHit
  cacheHits := none
  sourceUseId := none
  origin := some [coinOrigin q.sourceMessageFingerprint]
  operationalKind := some .coinPreview
  operationalId := some previewId
  destinationKey := none

/-- The row `save_ready` inserts, once it points to its use. -/
def savedRow (q : Save) (historyUseId : Option Nat) : AliExpressCoinShadowPreview :=
  ⟨historyUseId, q.evidenceId, q.sourceMessageFingerprint, q.renderedText, q.contentExpiresAt⟩

/-- `save_ready`. -/
def saveReady (history : Generations) (evidence : CoinShadowEvidences) (uses : LinkUses)
    (previews : AliExpressCoinShadowPreviews) (snapshots : Nat) (q : Save) :
    Except String (LinkUses × AliExpressCoinShadowPreviews) := do
  check (q.sourceMessageFingerprint.length = 64) "COIN_SHADOW_MESSAGE_FINGERPRINT_INVALID"
  let e ← orRaise ((evidence.get? q.evidenceId).filter fun e => IsReady q.now e)
    "COIN_SHADOW_READY_EVIDENCE_REQUIRED"
  let _ ← validateCoinEvidence history e
  let generationId ← orRaise e.generationId "AFFILIATE_HISTORY_GENERATION_LINK_MISSING"
  match (previews.select fun _ r =>
      r.sourceMessageFingerprint = q.sourceMessageFingerprint).head? with
  | some (id, row) => do
    check (row.evidenceId = q.evidenceId ∧ row.renderedText = q.renderedText)
      "COIN_SHADOW_SOURCE_MESSAGE_CHANGED"
    let _ ← validateCoinPreview history evidence uses id row
    let recorded ← recordUse history uses (savedUse q id generationId true)
    return (recorded.1, previews)
  | none => do
    let id := nextId uses previews snapshots
    let recorded ← recordUse history uses (savedUse q id generationId q.cacheHit)
    return (recorded.1, previews.put id (savedRow q (some recorded.2)))

end CoinShadowPreviewRepository

namespace CoinShadowMultiPreviewRepository

open AffiliateLinkHistoryRepository

variable (isAware : Text → Bool)

/-- What a caller of `save_ready` passes. -/
structure Save where
  sourceMessageFingerprint : Text
  renderedText : Text
  occurrences : List CoinMultiOccurrence
  cacheHits : List (Nat × Bool)
  now : Instant
  wrapperResolutions : List Json

/-- The occurrences follow one another in the text. -/
def SpansOrdered : List CoinMultiOccurrence → Nat → Int → Bool
  | [], _, _ => true
  | row :: rest, i, last =>
    row.ordinal = i && last ≤ row.spanStart && row.spanStart < row.spanEnd &&
      SpansOrdered rest (i + 1) row.spanEnd

/-- The check of an occurrence, with the time its evidence expires. -/
def occurrenceExpiry (history : Generations) (evidence : CoinShadowEvidences) (now : Instant)
    (row : CoinMultiOccurrence) : Except String Instant := do
  let e ← orRaise ((evidence.get? row.evidenceId).filter fun e => e.state = .ready)
    "COIN_SHADOW_READY_EVIDENCE_REQUIRED"
  let expiresAt ← orRaise e.expiresAt "COIN_SHADOW_READY_EVIDENCE_REQUIRED"
  check (now < expiresAt) "COIN_SHADOW_READY_EVIDENCE_REQUIRED"
  let _ ← validateCoinEvidence history e
  check (e.generationId = some row.generationId) "AFFILIATE_HISTORY_PREVIEW_GENERATION_CHANGED"
  return expiresAt

/-- The origin of the use of a preview. -/
def savedOrigin (q : Save) : List (String × Json) :=
  [coinOrigin q.sourceMessageFingerprint, ("occurrence_map_version", .int 1),
    ("occurrences", occurrenceMap q.occurrences)] ++
  if q.wrapperResolutions = [] then []
  else [("wrapper_resolution_version", .int 1), ("wrapper_resolutions", .arr q.wrapperResolutions)]

/-- The use a preview is recorded with. -/
def savedUse (q : Save) (previewId : Nat) : UseRecord where
  scope := .shadow
  kind := .preview
  generationIds := (q.occurrences.map CoinMultiOccurrence.generationId).eraseDups
  now := q.now
  cacheHit := false
  cacheHits := some q.cacheHits
  sourceUseId := none
  origin := some (savedOrigin q)
  operationalKind := some .coinMultiPreview
  operationalId := some previewId
  destinationKey := none

/-- The row `save_ready` inserts, once it points to its use. -/
def savedRow (q : Save) (expiry : List Instant) (historyUseId : Option Nat) :
    CoinShadowMultiPreview where
  historyUseId := historyUseId
  sourceMessageFingerprint := q.sourceMessageFingerprint
  renderedText := q.renderedText
  contentExpiresAt := expiry.tail.foldl min (expiry.headD 0)
  occurrences := q.occurrences

/-- `save_ready`.  `sequence` is the highest number a preview had. -/
def saveReady (history : Generations) (evidence : CoinShadowEvidences) (uses : LinkUses)
    (previews : CoinShadowMultiPreviews) (sequence : Nat) (q : Save) :
    Except String (LinkUses × CoinShadowMultiPreviews) := do
  check (q.sourceMessageFingerprint.length = 64 ∧
    (if q.wrapperResolutions = [] then 2 else 1) ≤ q.occurrences.length ∧
    q.occurrences.length ≤ 3) "COIN_MULTI_PREVIEW_CONTRACT_INVALID"
  check (Conversion.utf16Length q.renderedText ≤ 4096) "COIN_SHADOW_MESSAGE_TOO_LONG"
  check (SpansOrdered q.occurrences 0 (-1) = true) "COIN_MULTI_PREVIEW_SPANS_INVALID"
  let expiry ← q.occurrences.mapM (occurrenceExpiry history evidence q.now)
  match (previews.select fun _ r =>
      r.sourceMessageFingerprint = q.sourceMessageFingerprint).head? with
  | some (id, row) => do
    check (row.renderedText = q.renderedText ∧ row.occurrences = q.occurrences)
      "COIN_SHADOW_SOURCE_MESSAGE_CHANGED"
    let _ ← validateMultiPreview isAware history evidence uses id row
    return (uses, previews)
  | none => do
    let id := max sequence (previews.keys.foldr max 0) + 1
    let recorded ← recordUse history uses (savedUse q id)
    let row := savedRow q expiry (some recorded.2)
    let _ ← validateMultiPreview isAware history evidence recorded.1 id row
    return (recorded.1, previews.put id row)

end CoinShadowMultiPreviewRepository

end PromoBot
