import Mathlib.Algebra.GroupWithZero.Nat
import PromoBot.Database.Proofs
import PromoBot.Database.SourceMessageLinks
import PromoBot.Database.SourceMessages
import PromoBot.Providers.LinkGenerate
import PromoBot.Relay.Parser
import PromoBot.Stores.ShortLinks

/-!
# Converting the links of a message

The transactions and the pure parts of `AliExpressMessageConversionService`
(`affiliate/aliexpress_conversion.py`), one function each.

* `select` is the transaction which reads a message, identifies its products and,
  for each of them, takes the proof that can be used again or claims the candidate
  and prepares a generation.
* `storeAll` is the transaction which writes the links of an answer.
* `preview` replaces the links in the text.

The order in which they run, and what runs between them, is `Affiliate.Generation`.
-/

namespace PromoBot

namespace Conversion

open Fallible Urls PyUrl SqlTable
open PromoBot.Parser

/-! ## Settings -/

/-- What all services of a program share: the Unicode tables, HMAC-SHA-256 as a function
of the key and the message, and the scope of the database. -/
structure Environment where
  unicode : PyUnicode
  hmac : Text → Text → Text
  scope : HistoryScope

/-- `history_fingerprint`, and `coin_shadow_fingerprint`. -/
def Environment.fingerprint (env : Environment) (secret value domain : Text) : Text :=
  env.hmac (env.hmac secret domain) value

/-- The fingerprint of a secret (`history_fingerprint(secret, "key", …)`). -/
def Environment.keyFingerprint (env : Environment) (secret : Text) : Text :=
  env.fingerprint secret "key".toList "affiliate-history-key-v1".toList

/-- The settings of `AliExpressMessageConversionService`, with the checks of its
constructor. -/
structure Service where
  appKey : Text
  appSecret : Text
  trackingId : Text
  proofTtl : Int
  maxLinks : Nat
  requireSafeSurface : Bool
  configured : appKey ≠ [] ∧ appSecret ≠ [] ∧ trackingId ≠ []
  proofTtl_pos : 0 < proofTtl
  maxLinks_bounds : 1 ≤ maxLinks ∧ maxLinks ≤ 3

/-- `tracking_config_fingerprint`. -/
def Service.trackingFingerprint (env : Environment) (service : Service) : Text :=
  env.hmac service.appSecret
    ("aliexpress-link-generate\x00".toList ++ service.appKey ++ '\x00' :: service.trackingId)

/-- `PROMOTION_LINK_TYPE`. -/
def promotionLinkType : Nat := 0

/-- `GENERATION_LEASE`. -/
def generationLease : Int := minutes 5

/-- `MAX_GENERATION_ATTEMPTS`. -/
def maxGenerationAttempts : Nat := 3

/-- Why a conversion ends before anything was asked for. -/
inductive Refusal
  /-- `AliExpressConversionRejected`. -/
  | rejected (code : String)
  /-- `_AliExpressClaimBusy`. -/
  | busy
  /-- `AffiliateHistoryError`. -/
  | history (code : String)
  /-- Any other `ValueError`. -/
  | valueError
  deriving DecidableEq, Repr

/-- An error of the history passes through. -/
def ofHistory {α : Type} (x : Except String α) : Except Refusal α := x.mapError .history

variable (env : Environment)

/-! ## The links of the message -/

/-- `_is_aliexpress_input`. -/
def isAliexpressInput (url : Text) : Bool :=
  match hostnameFromUrl env.unicode url with
  | some host =>
    host = "aliexpress.com".toList || ".aliexpress.com".toList.isSuffixOf host
  | none => false

/-- `_is_supported_visible_aliexpress_url`. -/
def isSupportedVisibleAliexpressUrl (url : Text) : Bool :=
  match (urlsplit env.unicode url).bind fun parts => parts.port.map fun port => (parts, port) with
  | none => false
  | some (parts, port) =>
    let host := env.unicode.casefold ((parts.hostname env.unicode).getD [])
    if env.unicode.casefold parts.scheme ≠ "https".toList ∨ parts.username ≠ none ∨
        parts.password ≠ none then false
    else if ShortLinks.isSupportedAliexpressShortInput env.unicode url then true
    else if port ∉ [none, some 443] ∨ host ∉ aliexpressHosts then false
    else
      (canonicalizeStoreUrl env.unicode url).store = some .aliexpress &&
        (canonicalizeStoreUrl env.unicode url).state = .pendingAffiliate

/-- `_validate_surface`. -/
def validateSurface (service : Service) (source : SourceMessage) (visibleUrls : List Text) :
    Except Refusal Unit :=
  let m := source.surfaceMetadata
  if service.requireSafeSurface = false then .ok ()
  else if source.legacyUnknown then .error (.rejected "ALIEXPRESS_MESSAGE_SURFACE_UNKNOWN")
  else if m.hasButtons || m.hasCaption || m.hasCustomEmoji || m.hasHiddenLinks || m.hasMedia ||
      m.unsupportedEntityTypes ≠ [] then
    .error (.rejected "ALIEXPRESS_MESSAGE_SURFACE_UNSAFE")
  else if m.hasWebPagePreview && !visibleUrls.any (isSupportedVisibleAliexpressUrl env) then
    .error (.rejected "ALIEXPRESS_MESSAGE_SURFACE_UNSAFE")
  else .ok ()

/-- The AliExpress links of a text, each once (`unique_aliexpress_urls`). -/
def uniqueAliexpressUrls (visibleUrls : List Text) : List Text :=
  (visibleUrls.filter (isAliexpressInput env)).eraseDups

/-- The checks on how many links there are. -/
def checkLinkCount (service : Service) (source : SourceMessage) (uniqueUrls : List Text) :
    Except Refusal Unit :=
  if uniqueUrls = [] then
    if source.links.any fun link => isAliexpressInput env link.url then
      .error (.rejected "ALIEXPRESS_TEXT_LINK_REQUIRED")
    else .error (.rejected "ALIEXPRESS_LINK_NOT_FOUND")
  else check (uniqueUrls.length ≤ service.maxLinks) (.rejected "ALIEXPRESS_LINK_LIMIT_EXCEEDED")

/-- The order the link rows of a message are read in. -/
def LinkBefore (a b : Nat × SourceMessageLink) : Prop :=
  a.2.ordinal < b.2.ordinal ∨ (a.2.ordinal = b.2.ordinal ∧ a.1 ≤ b.1)

instance : DecidableRel LinkBefore := fun _ _ => inferInstanceAs (Decidable (_ ∨ _))

/-- `stored_by_url.get(url)`: of several rows with this address, the last. -/
def storedByUrl (links : SourceMessageLinks) (messageId : Nat) (url : Text) :
    Option (Nat × SourceMessageLink) :=
  ((links.select fun _ r => r.sourceMessageId = messageId).insertionSort
    LinkBefore).reverse.find? fun e => e.2.inputUrl = url

/-! ## Identifying a product -/

/-- `_LinkContext`. -/
structure LinkContext where
  linkId : Nat
  inputUrl : Text
  ordinal : Nat
  productId : Text
  variationKey : Text
  identityUrl : Text
  generationUrl : Text
  candidateId : Nat
  deriving DecidableEq

/-- A product id with a variation. -/
abbrev Identity := Text × Text

/-- `_LinkContext.identity`. -/
def LinkContext.identity (c : LinkContext) : Identity := (c.productId, c.variationKey)

/-- The path of a product page, `/item/[0-9]+\.html`. -/
def itemPath : Regex :=
  .seq (Regex.literal "/item/".toList)
    (.seq (.many Text.isAsciiDigit 1) (Regex.literal ".html".toList))

/-- The address of a product page written the plain way. -/
def IsItemUrl (parts : SplitResult) : Prop :=
  parts.scheme = "https".toList ∧ parts.fragment = [] ∧ parts.username.getD [] = [] ∧
    parts.password.getD [] = [] ∧ parts.port = some none ∧
    env.unicode.casefold ((parts.hostname env.unicode).getD []) ∈ aliexpressHosts ∧
    itemPath.fullMatches parts.path = true

instance (parts : SplitResult) : Decidable (IsItemUrl env parts) :=
  inferInstanceAs (Decidable (_ ∧ _))

/-- The address a link is identified by: what a short link was resolved to, or the link
itself. -/
def canonicalInput (link : SourceMessageLink) (inputUrl : Text) : Except Refusal Text :=
  if isAliexpressRedirectorUrl env.unicode inputUrl then
    orRaise link.expandedUrl (.rejected
      (if link.reasonCode.getD "" = "" then "ALIEXPRESS_SHORT_URL_UNRESOLVED"
        else link.reasonCode.getD ""))
  else do
    let parts ← orRaise (urlsplit env.unicode inputUrl) .valueError
    check (IsItemUrl env parts) (.rejected "ALIEXPRESS_CANONICAL_URL_REQUIRED")
    return inputUrl

/-- `_generation_url`. -/
def generationUrl (productId variationKey : Text) : Except Refusal Text := do
  let query ←
    if variationKey = [] then .ok []
    else
      match Text.partition ':' variationKey with
      | (_, none) => .error .valueError
      | (key, some value) =>
        if key ≠ "sku_id".toList ∨ isDigits env.unicode value = false then
          .error (.rejected "ALIEXPRESS_VARIATION_AMBIGUOUS")
        else .ok (urlencodeOne "sku_id".toList value)
  return urlunsplit ⟨"https".toList, "pt.aliexpress.com".toList,
    "/item/".toList ++ productId ++ ".html".toList, query, []⟩

/-- `_context_for_link`. -/
def contextForLink (candidates : AffiliateCandidates) (stored : Option (Nat × SourceMessageLink))
    (inputUrl : Text) : Except Refusal LinkContext := do
  let link ← orRaise stored (.rejected "ALIEXPRESS_TEXT_LINK_REQUIRED")
  check (link.2.sourceKind ∈ [LinkSource.text, .entityUrl])
    (.rejected "ALIEXPRESS_TEXT_LINK_REQUIRED")
  let input ← canonicalInput env link.2 inputUrl
  let canonical := canonicalizeStoreUrl env.unicode input
  check (canonical.state = .pendingAffiliate ∧ canonical.store = some .aliexpress ∧
    canonical.externalProductId ≠ none ∧ canonical.canonicalUrl ≠ none)
    (.rejected canonical.reasonCode)
  check (link.2.store = some .aliexpress) (.rejected "ALIEXPRESS_CANONICAL_URL_REQUIRED")
  let productId ← orRaise link.2.externalProductId
    (.rejected "ALIEXPRESS_CANONICAL_URL_REQUIRED")
  let identityUrl ← orRaise link.2.canonicalUrl (.rejected "ALIEXPRESS_CANONICAL_URL_REQUIRED")
  let candidateId ← orRaise link.2.affiliateCandidateId
    (.rejected "ALIEXPRESS_CANONICAL_URL_REQUIRED")
  let candidate ← orRaise (candidates.get? candidateId)
    (.rejected "ALIEXPRESS_CANDIDATE_NOT_FOUND")
  check (candidate.store = .aliexpress) (.rejected "ALIEXPRESS_CANDIDATE_NOT_FOUND")
  check (candidate.externalProductId = productId ∧ candidate.canonicalUrl = identityUrl ∧
    canonical.externalProductId = some productId ∧ canonical.canonicalUrl = some identityUrl ∧
    canonical.variationKey.getD [] = candidate.variationKey)
    (.rejected "ALIEXPRESS_CANDIDATE_IDENTITY_MISMATCH")
  check (¬ (candidate.state = .manualReview ∧
    candidate.errorCode = some promotionLinkUnavailableReviewRequired))
    (.rejected promotionLinkUnavailableReviewRequired)
  let url ← generationUrl env productId candidate.variationKey
  return ⟨link.1, inputUrl, link.2.ordinal, productId, candidate.variationKey, identityUrl, url,
    candidateId⟩

/-- The first context of each identity, in the order of the identities. -/
def representatives (contexts : List LinkContext) : List LinkContext :=
  (contexts.map LinkContext.identity).eraseDups.filterMap fun identity =>
    contexts.find? fun c => c.identity = identity

/-! ## Proofs that can be used again -/

/-- `_is_valid_affiliate_link`. -/
def isValidAffiliateLink (url : Text) : Bool :=
  match (urlsplit env.unicode url).bind fun parts => parts.port.map fun port => (parts, port) with
  | none => false
  | some (parts, port) =>
    parts.scheme = "https".toList &&
      parts.hostname env.unicode = some "s.click.aliexpress.com".toList &&
      parts.username.getD [] = [] && parts.password.getD [] = [] && port = none &&
      parts.fragment = []

/-- The database a conversion works on. -/
structure Db where
  messages : SourceMessages
  links : SourceMessageLinks
  candidates : AffiliateCandidates
  history : Generations
  proofs : AffiliateLinkProofs

/-- One turn of the loop over the identities: what blocks is raised, and a proof that can
be used again is returned. -/
def cachedProof (service : Service) (db : Db) (startedAt : Instant) (request : Option Nat)
    (context : LinkContext) : Except Refusal (Option AffiliateLinkProof) := do
  (AffiliateLinkHistoryRepository.checkIdentity db.history env.scope
    (.canonical context.candidateId) (some startedAt)).mapError fun code =>
      if code = "AFFILIATE_HISTORY_GENERATION_IN_PROGRESS" then Refusal.busy else .history code
  if request.isSome then
    return none
  else
    match (db.proofs.get? context.candidateId).filter (·.provider = "aliexpress_official") with
    | none => return none
    | some existing =>
      let _ ← ofHistory (AffiliateLinkHistoryRepository.validateCanonicalProof db.history
        db.candidates env.scope context.candidateId existing)
      return (AffiliateOfferRepository.findReusableAliexpressProof db.proofs context.candidateId
        ⟨context.productId, context.identityUrl, promotionLinkType,
          service.trackingFingerprint env, startedAt⟩).filter fun proof =>
        isValidAffiliateLink env proof.shortLink ∧ startedAt < proof.respondedAt + service.proofTtl

/-! ## Claims -/

/-- `_Claim`. -/
structure Claim where
  context : LinkContext
  startedAt : Instant
  attemptCount : Nat
  generationId : Nat
  leaseToken : Nat
  deriving DecidableEq

/-- What a generation is prepared with.  `uuid` is the call id; the lease tokens are the
numbers after it. -/
def preparation (service : Service) (source : SourceMessage) (messageId : Nat)
    (startedAt : Instant) (uuid ordinal : Nat) (context : LinkContext) :
    AffiliateLinkHistoryRepository.Preparation where
  scope := env.scope
  identityKey := .canonical context.candidateId
  now := startedAt
  leaseUntil := startedAt + generationLease
  leaseToken := uuid + 1 + ordinal
  callId := uuid
  callOrdinal := ordinal
  inputFingerprint := env.fingerprint service.appSecret context.generationUrl
    "affiliate-history-canonical-input-v1".toList
  trackingFingerprint := service.trackingFingerprint env
  keyFingerprint := env.keyFingerprint service.appSecret
  origin := some [("platform", .str source.platform), ("channel_id", .str source.channelId),
    ("message_id", .str source.messageId), ("source_message_id", .int messageId),
    ("product_id", .str context.productId), ("variation_key", .str context.variationKey)]

/-- The guard of `claim_for_generation` over the history: the candidate is blocked. -/
def isBlocked (history : Generations) (candidateId : Nat) : Bool :=
  !(history.select fun _ r => r.scope = env.scope ∧ r.identityKey = .canonical candidateId ∧
    r.Blocking).isEmpty

/-- One turn of the loop over what is not cached: claim the candidate and prepare the
generation.  `targetUnchanged` is what `validate_request` says of the record an operator
asked about. -/
def claimOne (service : Service) (source : SourceMessage) (messageId : Nat)
    (startedAt : Instant) (uuid : Nat) (request : Option Nat) (targetUnchanged : Bool) (db : Db)
    (ordinal : Nat) (context : LinkContext) : Except Refusal (Db × Claim) := do
  check (isBlocked env db.history context.candidateId = false) .busy
  ofHistory (AffiliateLinkHistoryRepository.validateGivenRequest db.history request env.scope
    (.canonical context.candidateId) .canonicalProof targetUnchanged)
  let candidates ← orRaise (AffiliateCandidateRepository.claimForGeneration db.candidates false
    context.candidateId startedAt (startedAt + generationLease) maxGenerationAttempts) .busy
  let claimed ← orRaise (candidates.get? context.candidateId) .busy
  let q := preparation env service source messageId startedAt uuid ordinal context
  let history ← ofHistory (AffiliateLinkHistoryRepository.prepare db.history q request)
  return ({ db with candidates := candidates, history := history.1 },
    ⟨context, startedAt, claimed.attemptCount, history.2, q.leaseToken⟩)

/-- The loop over what is not cached. -/
def claimAll (service : Service) (source : SourceMessage) (messageId : Nat)
    (startedAt : Instant) (uuid : Nat) (request : Option Nat) (targetUnchanged : Bool) :
    Db → Nat → List LinkContext → Except Refusal (Db × List Claim)
  | db, _, [] => .ok (db, [])
  | db, ordinal, context :: contexts => do
    let one ← claimOne env service source messageId startedAt uuid request targetUnchanged db
      ordinal context
    let rest ← claimAll service source messageId startedAt uuid request targetUnchanged one.1
      (ordinal + 1) contexts
    return (rest.1, one.2 :: rest.2)

/-! ## The selection -/

/-- What `_convert` keeps of its selection. -/
structure Job where
  service : Service
  messageId : Nat
  source : SourceMessage
  links : SourceMessageLinks
  startedAt : Instant
  contexts : List LinkContext
  cached : List (Identity × AffiliateLinkProof)
  claims : List Claim

/-- `identities`. -/
def Job.identities (job : Job) : List Identity :=
  (job.contexts.map LinkContext.identity).eraseDups

/-- The order claims are made in. -/
def CandidateLE (a b : LinkContext) : Prop := a.candidateId ≤ b.candidateId

instance : DecidableRel CandidateLE := fun _ _ => inferInstanceAs (Decidable (_ ≤ _))

/-- An operator's request is for one product only, and still stands. -/
def checkRequest (db : Db) (request : Option Nat) (targetUnchanged : Bool)
    (representatives : List LinkContext) : Except Refusal Unit :=
  match request, representatives with
  | none, _ => .ok ()
  | some _, [context] => ofHistory (AffiliateLinkHistoryRepository.validateGivenRequest db.history
      request env.scope (.canonical context.candidateId) .canonicalProof targetUnchanged)
  | some _, _ => .error (.history "AFFILIATE_HISTORY_LEGACY_TARGET_INELIGIBLE")

/-- The transaction of `_convert` which selects proofs and claims candidates. -/
def select (service : Service) (db : Db) (messageId : Nat) (startedAt : Instant) (uuid : Nat)
    (request : Option Nat) (targetUnchanged : Bool) : Except Refusal (Db × Job) := do
  let source ← orRaise (db.messages.get? messageId)
    (.rejected "ALIEXPRESS_SOURCE_MESSAGE_NOT_FOUND")
  check (source.processingStatus = .completed) (.rejected "ALIEXPRESS_SOURCE_NOT_COMPLETED")
  let extracted ← orRaise (extractLinks env.unicode source.originalText [] []) .valueError
  let visibleUrls := extracted.map ExtractedLink.url
  validateSurface env service source visibleUrls
  let uniqueUrls := uniqueAliexpressUrls env visibleUrls
  checkLinkCount env service source uniqueUrls
  let contexts ← uniqueUrls.mapM fun url =>
    contextForLink env db.candidates (storedByUrl db.links messageId url) url
  let chosen := representatives contexts
  check (chosen.length ≤ service.maxLinks) (.rejected "ALIEXPRESS_LINK_LIMIT_EXCEEDED")
  check (chosen.map LinkContext.productId).Nodup (.rejected "ALIEXPRESS_VARIATIONS_AMBIGUOUS")
  checkRequest env db request targetUnchanged chosen
  let found ← chosen.mapM fun context => do
    let proof ← cachedProof env service db startedAt request context
    return (context, proof)
  let cached := found.filterMap fun e => e.2.map fun proof => (e.1.identity, proof)
  let missing := (found.filter fun e => e.2.isNone).map Prod.fst
  let claimed ← claimAll env service source messageId startedAt uuid request targetUnchanged db 0
    (missing.insertionSort CandidateLE)
  return (claimed.1, ⟨service, messageId, source, db.links, startedAt, contexts, cached, claimed.2⟩)

/-! ## Storing an answer -/

/-- What ends the transaction which stores an answer. -/
inductive StoreError
  /-- `AffiliateCandidateTransitionConflict`. -/
  | conflict
  /-- `AffiliateHistoryError`. -/
  | history
  deriving DecidableEq, Repr

def validationFacts (itemCount : Nat) (link : Text) : List (String × Json) :=
  [("tracking_exact", .bool true), ("product_correlated", .bool true),
    ("item_count", .int itemCount), ("promotion_link_validated", .bool true),
    ("affiliate_host", (((urlsplit env.unicode link).bind fun parts =>
      parts.hostname env.unicode).map Json.str).getD .null)]

/-- One turn of the loop which stores an answer. -/
def storeOne (service : Service) (respondedAt : Instant) (itemCount : Nat) (db : Db)
    (claim : Claim) (link : Text) : Except StoreError (Db × (Identity × AffiliateLinkProof)) := do
  let candidates ← orRaise (AffiliateCandidateRepository.markAffiliateGenerated db.candidates
    claim.context.candidateId respondedAt claim.startedAt claim.attemptCount) .conflict
  let proofs := AffiliateOfferRepository.upsertAliexpressLinkProof db.proofs
    claim.context.candidateId
    ⟨claim.startedAt, respondedAt, claim.context.productId, claim.context.identityUrl, link,
      promotionLinkType, service.trackingFingerprint env, respondedAt + service.proofTtl⟩
    claim.generationId
  let history ← orRaise (AffiliateLinkHistoryRepository.confirm db.history claim.generationId
    ⟨respondedAt, link, respondedAt + service.proofTtl, trackingConfirmedContractVersion,
      "PRODUCT_ID_CORRELATED", validationFacts env itemCount link⟩) .history
  return ({ db with candidates := candidates, proofs := proofs.1, history := history },
    (claim.context.identity, proofs.2))

/-- The loop which stores an answer. -/
def storeAll (service : Service) (respondedAt : Instant) (itemCount : Nat) :
    Db → List (Claim × Text) → Except StoreError (Db × List (Identity × AffiliateLinkProof))
  | db, [] => .ok (db, [])
  | db, (claim, link) :: rest => do
    let one ← storeOne env service respondedAt itemCount db claim link
    let others ← storeAll service respondedAt itemCount one.1 rest
    return (others.1, one.2 :: others.2)

/-! ## The preview -/

def renderToken (replacements : List (Text × Text)) (raw : Text) : Text :=
  match replacements.lookup (trimUrl raw) with
  | none => raw
  | some link => link ++ raw.drop (trimUrl raw).length

/-- `render_affiliate_link_replacements`: the text. -/
def renderReplacements (text : Text) (replacements : List (Text × Text)) : Text :=
  urlPattern.sub (renderToken replacements) text

/-- `render_affiliate_link_replacements`: how often a link was replaced. -/
def replacementCount (text url : Text) : Nat := (urlTokens text).count url

/-- `AliExpressLinkCorrelation`. -/
structure LinkCorrelation where
  sourceMessageLinkId : Nat
  productId : Text
  variationKey : Text
  affiliateProofId : Nat
  affiliateLink : Text
  ordinal : Nat
  occurrenceCount : Nat
  cacheHit : Bool
  deriving DecidableEq

/-- `AliExpressDryRunPreview`. -/
structure DryRunPreview where
  sourceMessageId : Nat
  productId : Text
  variationKey : Text
  promotionLinkType : Nat
  convertedText : Text
  affiliateLink : Text
  replacementCount : Nat
  cacheHit : Bool
  affiliateProofId : Nat
  correlations : List LinkCorrelation
  deriving DecidableEq

/-- `replacements`: the link of every context. -/
def replacements (contexts : List LinkContext) (proofs : List (Identity × AffiliateLinkProof)) :
    List (Text × Text) :=
  contexts.filterMap fun c => (proofs.lookup c.identity).map fun proof => (c.inputUrl, proof.shortLink)

def correlation (job : Job) (c : LinkContext) (proof : AffiliateLinkProof) : LinkCorrelation where
  sourceMessageLinkId := c.linkId
  productId := c.productId
  variationKey := c.variationKey
  affiliateProofId := proof.id
  affiliateLink := proof.shortLink
  ordinal := c.ordinal
  occurrenceCount := replacementCount job.source.originalText c.inputUrl
  cacheHit := (job.cached.lookup c.identity).isSome

/-- `_preview`; `none` would be the error over a message without links. -/
def preview (job : Job) (proofs : List (Identity × AffiliateLinkProof)) : Option DryRunPreview :=
  let replaced := replacements job.contexts proofs
  let correlations := job.contexts.filterMap fun c =>
    (proofs.lookup c.identity).map fun proof => correlation job c proof
  match correlations with
  | [] => none
  | first :: _ => some {
      sourceMessageId := job.messageId
      productId := first.productId
      variationKey := first.variationKey
      promotionLinkType := promotionLinkType
      convertedText := renderReplacements job.source.originalText replaced
      affiliateLink := first.affiliateLink
      replacementCount :=
        ((urlTokens job.source.originalText).filter fun t => (replaced.lookup t).isSome).length
      cacheHit := correlations.all LinkCorrelation.cacheHit
      affiliateProofId := first.affiliateProofId
      correlations := correlations }

/-- The length of a text in UTF-16 code units. -/
def utf16Length (t : Text) : Nat := (t.map fun c => if c.toNat < 0x10000 then 1 else 2).sum

/-- The end of `_convert`: the preview, and the check `record_use` makes of the
generations it uses. -/
def finish (db : Db) (job : Job) (proofs : List (Identity × AffiliateLinkProof)) :
    Except Refusal DryRunPreview := do
  check ((∀ identity ∈ proofs.map Prod.fst, identity ∈ job.identities) ∧
    ∀ identity ∈ job.identities, identity ∈ proofs.map Prod.fst)
    (.rejected "ALIEXPRESS_PROMOTION_LINK_SOURCE_MISSING")
  let preview ← orRaise (preview job proofs) .valueError
  check (utf16Length preview.convertedText ≤ 4096) (.rejected "SHADOW_MESSAGE_TOO_LONG")
  check (∀ e ∈ proofs, e.2.generationId ≠ none)
    (.history "AFFILIATE_HISTORY_GENERATION_LINK_MISSING")
  check (AffiliateLinkHistoryRepository.UseRecordable db.history env.scope
    (proofs.filterMap fun e => e.2.generationId))
    (.history "AFFILIATE_HISTORY_GENERATION_LINK_INVALID")
  return preview

end Conversion
end PromoBot
