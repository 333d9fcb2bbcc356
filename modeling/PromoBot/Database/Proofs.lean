import PromoBot.Database.Candidates
import PromoBot.Database.History

/-!
# The `affiliate_link_proofs` table

The AliExpress part of `AffiliateOfferRepository` in `database/repositories.py`,
and the check of a proof against the history,
`AffiliateLinkHistoryRepository.validate_canonical_proof`.

A candidate has at most one proof, the link last generated for it; the table is
keyed by the candidate here.  A proof is used again only where the history has
the generation it came from, and the two agree.
-/

namespace PromoBot

/-- A row of `affiliate_link_proofs` (`AffiliateLinkProofModel`). -/
structure AffiliateLinkProof where
  id : Nat
  generationId : Option Nat
  provider : String
  operation : String
  requestedAt : Instant
  respondedAt : Instant
  sourceExternalProductId : Text
  canonicalUrl : Text
  shortLink : Text
  contractVersion : String
  promotionLinkType : Option Nat
  trackingFingerprint : Option Text
  expiresAt : Option Instant
  generationState : String
  officialResponseValidated : Bool
  deriving DecidableEq

/-- The `affiliate_link_proofs` table, by candidate. -/
abbrev AffiliateLinkProofs := SqlTable Nat AffiliateLinkProof

/-- `LINK_GENERATE`. -/
def linkGenerateOperation : String := "aliexpress.affiliate.link.generate"

/-- `LINK_GENERATE_TRACKING_CONFIRMED_CONTRACT_VERSION`. -/
def trackingConfirmedContractVersion : String := "top-link-generate-tracking-v2"

namespace AffiliateOfferRepository

open SqlTable

/-- What a proof has to be for `find_reusable_aliexpress_proof`. -/
structure Wanted where
  sourceExternalProductId : Text
  canonicalUrl : Text
  promotionLinkType : Nat
  trackingFingerprint : Text
  now : Instant

/-- The `WHERE` clause of `find_reusable_aliexpress_proof`. -/
def Reusable (q : Wanted) (r : AffiliateLinkProof) : Prop :=
  r.provider = "aliexpress_official" ∧ r.operation = linkGenerateOperation ∧
    r.contractVersion = trackingConfirmedContractVersion ∧
    r.sourceExternalProductId = q.sourceExternalProductId ∧ r.canonicalUrl = q.canonicalUrl ∧
    r.promotionLinkType = some q.promotionLinkType ∧
    r.trackingFingerprint = some q.trackingFingerprint ∧ Above r.expiresAt q.now ∧
    r.respondedAt ≤ q.now ∧ r.generationState = "CONFIRMED" ∧ r.officialResponseValidated = true

instance (q : Wanted) : DecidablePred (Reusable q) := fun _ => inferInstanceAs (Decidable (_ ∧ _))

/-- `find_reusable_aliexpress_proof`. -/
def findReusableAliexpressProof (t : AffiliateLinkProofs) (candidateId : Nat) (q : Wanted) :
    Option AffiliateLinkProof :=
  (t.get? candidateId).filter fun r => Reusable q r

/-- The next number of a proof. -/
def nextProofId (t : AffiliateLinkProofs) : Nat :=
  ((t.entries.map fun e => e.2.id).foldr max 0) + 1

/-- What a caller of `upsert_aliexpress_link_proof` passes. -/
structure Upsert where
  requestedAt : Instant
  respondedAt : Instant
  sourceExternalProductId : Text
  canonicalUrl : Text
  shortLink : Text
  promotionLinkType : Nat
  trackingFingerprint : Text
  expiresAt : Instant

/-- The row `upsert_aliexpress_link_proof` writes. -/
def upsertedRow (q : Upsert) (id : Nat) (generationId : Option Nat) : AffiliateLinkProof where
  id := id
  generationId := generationId
  provider := "aliexpress_official"
  operation := linkGenerateOperation
  requestedAt := q.requestedAt
  respondedAt := q.respondedAt
  sourceExternalProductId := q.sourceExternalProductId
  canonicalUrl := q.canonicalUrl
  shortLink := q.shortLink
  contractVersion := trackingConfirmedContractVersion
  promotionLinkType := some q.promotionLinkType
  trackingFingerprint := some q.trackingFingerprint
  expiresAt := some q.expiresAt
  generationState := "CONFIRMED"
  officialResponseValidated := true

/-- `upsert_aliexpress_link_proof`, followed by the caller's `proof.generation_id = …`. -/
def upsertAliexpressLinkProof (t : AffiliateLinkProofs) (candidateId : Nat) (q : Upsert)
    (generationId : Nat) : AffiliateLinkProofs × AffiliateLinkProof :=
  let id := ((t.get? candidateId).map AffiliateLinkProof.id).getD (nextProofId t)
  let row := upsertedRow q id (some generationId)
  (t.put candidateId row, row)

end AffiliateOfferRepository

namespace AffiliateLinkHistoryRepository

open SqlTable Generation Fallible

/-- The comparisons of `validate_canonical_proof`. -/
def ProofAgrees (scope : HistoryScope) (candidateId : Nat) (candidate : AffiliateCandidate)
    (proof : AffiliateLinkProof) (r : Generation) : Prop :=
  r.scope = scope ∧ r.identityKey = .canonical candidateId ∧ r.provider = proof.provider ∧
    r.operation = proof.operation ∧ r.promotionLinkType = proof.promotionLinkType ∧
    r.expiresAt = proof.expiresAt ∧ r.generatedAt = some proof.respondedAt ∧
    r.preparedAt = some proof.requestedAt ∧
    r.originText "product_id" = some proof.sourceExternalProductId ∧
    r.originText "variation_key" = some candidate.variationKey ∧
    proof.canonicalUrl = candidate.canonicalUrl

instance (scope : HistoryScope) (candidateId : Nat) (candidate : AffiliateCandidate)
    (proof : AffiliateLinkProof) : DecidablePred (ProofAgrees scope candidateId candidate proof) :=
  fun _ => inferInstanceAs (Decidable (_ ∧ _))

/-- `validate_canonical_proof`, of the proof of a candidate. -/
def validateCanonicalProof (t : Generations) (candidates : AffiliateCandidates)
    (scope : HistoryScope) (candidateId : Nat) (proof : AffiliateLinkProof) :
    Except String Generation := do
  let r ← validateLink t proof.generationId proof.shortLink proof.trackingFingerprint
    (some proof.contractVersion)
  let candidate ← orRaise (candidates.get? candidateId)
    "AFFILIATE_HISTORY_GENERATION_LINK_INVALID"
  check (ProofAgrees scope candidateId candidate proof r)
    "AFFILIATE_HISTORY_GENERATION_LINK_INVALID"
  return r

/-- **A proof that passes is backed by a confirmed generation.** -/
theorem validateCanonicalProof_eq_ok {t : Generations} {candidates : AffiliateCandidates}
    {scope : HistoryScope} {candidateId : Nat} {proof : AffiliateLinkProof} {r : Generation}
    (h : validateCanonicalProof t candidates scope candidateId proof = .ok r) :
    ∃ id candidate, proof.generationId = some id ∧ t.get? id = some r ∧
      candidates.get? candidateId = some candidate ∧
      LinkValid proof.shortLink proof.trackingFingerprint (some proof.contractVersion) r ∧
      ProofAgrees scope candidateId candidate proof r := by
  obtain ⟨r', hlink, h⟩ := bind_eq_ok.1 h
  obtain ⟨candidate, hcandidate, h⟩ := bind_eq_ok.1 h
  obtain ⟨_, hagrees, h⟩ := bind_eq_ok.1 h
  obtain rfl := Except.ok.inj h
  obtain ⟨id, hid, hr, hvalid⟩ := validateLink_eq_ok hlink
  exact ⟨id, candidate, hid, hr, orRaise_eq_ok.1 hcandidate, hvalid, check_eq_ok.1 hagrees⟩

end AffiliateLinkHistoryRepository

end PromoBot
