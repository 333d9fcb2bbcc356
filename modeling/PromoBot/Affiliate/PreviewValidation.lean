import Mathlib.Algebra.GroupWithZero.Nat
import PromoBot.Affiliate.ShadowPreviews
import PromoBot.Lib.PyDict

/-!
# What a stored preview has to be to be sent

`ShadowDeliveryService._validated_text` with `_validate_multi_link_correlations`
(`affiliate/shadow_delivery.py`).  Before a preview is sent, and again right before the
send, everything about it is computed once more from the database: its proofs, the
links of its message, and the text itself.

A preview without correlations is one from before there were any.  A `ValueError` of
`urlsplit` is an error of that name.
-/

namespace PromoBot
namespace ShadowDeliveryService

open SqlTable Fallible PyUrl Conversion AffiliateLinkHistoryRepository
open PromoBot.Parser

/-- The tables a preview is validated against. -/
structure ShadowDb extends Db where
  uses : LinkUses
  previews : AffiliateShadowPreviews

/-- The host of the links of AliExpress. -/
def promotionHost : Text := "s.click.aliexpress.com".toList

/-- The code most checks reject with. -/
def proofMismatch : String := "SHADOW_PROOF_MISMATCH"

variable (env : Environment)

/-! ## Proofs -/

/-- `_require_aliexpress_tracking_confirmation`. -/
def TrackingConfirmed (proof : AffiliateLinkProof) : Prop :=
  proof.provider = aliexpressOfficial →
    proof.operation = linkGenerateOperation ∧
      proof.contractVersion = trackingConfirmedContractVersion

instance : DecidablePred TrackingConfirmed := fun _ => inferInstanceAs (Decidable (_ → _))

def IsConfirmed (proof : AffiliateLinkProof) : Prop :=
  proof.generationState = "CONFIRMED" ∧ proof.officialResponseValidated = true

instance : DecidablePred IsConfirmed := fun _ => inferInstanceAs (Decidable (_ ∧ _))

/-- The proof has been answered for, and has not expired. -/
def IsCurrent (now : Instant) (proof : AffiliateLinkProof) : Prop :=
  Above proof.expiresAt now ∧ proof.respondedAt ≤ now

instance (now : Instant) : DecidablePred (IsCurrent now) :=
  fun _ => inferInstanceAs (Decidable (_ ∧ _))

/-- The proof, the preview and the candidate say the same. -/
def ProofMatches (preview : AffiliateShadowPreview) (text link : Text)
    (candidate : AffiliateCandidate) (proof : AffiliateLinkProof) : Prop :=
  candidate.store = preview.store ∧ proof.provider = preview.provider ∧ proof.shortLink = link ∧
    proof.sourceExternalProductId = candidate.externalProductId ∧
    proof.canonicalUrl = candidate.canonicalUrl ∧ link <:+: text

instance (preview : AffiliateShadowPreview) (text link : Text) (candidate : AffiliateCandidate)
    (proof : AffiliateLinkProof) : Decidable (ProofMatches preview text link candidate proof) :=
  inferInstanceAs (Decidable (_ ∧ _))

/-- The address is one of this host. -/
def checkHost (url host : Text) : Except String Unit := do
  let parts ← orRaise (urlsplit env.unicode url) "ValueError"
  check (parts.scheme = "https".toList ∧ parts.hostname env.unicode = some host) proofMismatch

/-! ## Several links -/

def storeLinkIds (links : SourceMessageLinks) (messageId : Nat) (store : Store) : List Nat :=
  (links.select fun _ r => r.sourceMessageId = messageId ∧ r.store = some store).map Prod.fst

/-- The correlation, its link, its proof and the candidate say the same. -/
def Correlated (preview : AffiliateShadowPreview) (messageId : Nat) (now : Instant)
    (correlation : ShadowPreviewLink) (link : SourceMessageLink) (candidateId : Nat)
    (candidate : AffiliateCandidate) (proof : AffiliateLinkProof) : Prop :=
  link.sourceMessageId = messageId ∧ correlation.ordinal = link.ordinal ∧
    link.affiliateCandidateId = some candidateId ∧ link.store = some preview.store ∧
    link.externalProductId = some proof.sourceExternalProductId ∧
    link.canonicalUrl = some proof.canonicalUrl ∧ candidate.store = preview.store ∧
    candidate.externalProductId = proof.sourceExternalProductId ∧
    candidate.canonicalUrl = proof.canonicalUrl ∧ proof.provider = preview.provider ∧
    IsConfirmed proof ∧ IsCurrent now proof

instance (preview : AffiliateShadowPreview) (messageId : Nat) (now : Instant)
    (correlation : ShadowPreviewLink) (link : SourceMessageLink) (candidateId : Nat)
    (candidate : AffiliateCandidate) (proof : AffiliateLinkProof) :
    Decidable (Correlated preview messageId now correlation link candidateId candidate proof) :=
  inferInstanceAs (Decidable (_ ∧ _))

def IsFirstProof (preview : AffiliateShadowPreview) (proof : AffiliateLinkProof) : Prop :=
  preview.affiliateProofId = proof.id ∧ preview.affiliateLink = some proof.shortLink ∧
    preview.affiliateHost = promotionHost

instance (preview : AffiliateShadowPreview) : DecidablePred (IsFirstProof preview) :=
  fun _ => inferInstanceAs (Decidable (_ ∧ _))

/-- One turn of the loop over the correlations: the address that is replaced, and by what. -/
def checkCorrelation (db : ShadowDb) (preview : AffiliateShadowPreview) (messageId : Nat)
    (now : Instant) (correlation : ShadowPreviewLink) (isFirst : Bool) :
    Except String (Text × Text) := do
  let proof ← orRaise (findProof db.proofs correlation.affiliateProofId) proofMismatch
  let link ← orRaise (db.links.get? correlation.sourceMessageLinkId) proofMismatch
  check (TrackingConfirmed proof.2) "SHADOW_PROOF_TRACKING_UNCONFIRMED"
  let candidate ← orRaise (db.candidates.get? proof.1) proofMismatch
  check (Correlated preview messageId now correlation link proof.1 candidate proof.2) proofMismatch
  checkHost env proof.2.shortLink promotionHost
  check (isFirst = true → IsFirstProof preview proof.2) proofMismatch
  return (link.inputUrl, proof.2.shortLink)

/-- How many addresses of a text are replaced. -/
def renderedCount (text : Text) (replaced : List (Text × Text)) : Nat :=
  ((urlTokens text).filter fun t => (replaced.lookup t).isSome).length

/-- How often one of them is. -/
def occurrences (text : Text) (replaced : List (Text × Text)) (url : Text) : Nat :=
  ((urlTokens text).filter fun t => (replaced.lookup t).isSome).count url

/-- The link of a correlation is replaced as often as it says. -/
def CountMatches (db : ShadowDb) (text : Text) (replaced : List (Text × Text))
    (correlations : List ShadowPreviewLink) (correlation : ShadowPreviewLink) : Prop :=
  ∃ link ∈ db.links.get? correlation.sourceMessageLinkId,
    PyDict.lookup (correlations.map fun c => (c.sourceMessageLinkId, c.occurrenceCount))
      correlation.sourceMessageLinkId = some (occurrences text replaced link.inputUrl)

instance (db : ShadowDb) (text : Text) (replaced : List (Text × Text))
    (correlations : List ShadowPreviewLink) :
    DecidablePred (CountMatches db text replaced correlations) :=
  fun _ => inferInstanceAs (Decidable (∃ _ ∈ _, _))

/-- `_validate_multi_link_correlations`. -/
def validateMultiLinkCorrelations (db : ShadowDb) (preview : AffiliateShadowPreview)
    (messageId : Nat) (source : SourceMessage) (correlations : List ShadowPreviewLink)
    (now : Instant) : Except String Unit := do
  check ((correlations.map ShadowPreviewLink.occurrenceCount).sum = preview.replacementCount)
    proofMismatch
  check (SameIds (correlations.map ShadowPreviewLink.sourceMessageLinkId)
    (storeLinkIds db.links messageId preview.store)) proofMismatch
  let entries ← correlations.zipIdx.mapM fun e =>
    checkCorrelation env db preview messageId now e.1 (e.2 = 0)
  -- Of entries for one address the last one counts.
  let replaced := entries.reverse
  check (preview.renderedText = some (renderReplacements source.originalText replaced) ∧
    renderedCount source.originalText replaced = preview.replacementCount) proofMismatch
  check (∀ correlation ∈ correlations,
    CountMatches db source.originalText replaced correlations correlation) proofMismatch

/-- What is asked of a preview without correlations: a link of the message is of the
proof. -/
def HasCorrelatedLink (db : ShadowDb) (preview : AffiliateShadowPreview) (candidateId : Nat)
    (proof : AffiliateLinkProof) : Prop :=
  db.links.select (fun _ r => r.sourceMessageId = preview.sourceMessageId ∧
    r.affiliateCandidateId = some candidateId ∧ r.store = some preview.store ∧
    r.externalProductId = some proof.sourceExternalProductId ∧
    r.canonicalUrl = some proof.canonicalUrl) ≠ []

instance (db : ShadowDb) (preview : AffiliateShadowPreview) (candidateId : Nat)
    (proof : AffiliateLinkProof) : Decidable (HasCorrelatedLink db preview candidateId proof) :=
  inferInstanceAs (Decidable (_ ≠ _))

/-! ## The whole -/

/-- The text and the link of a preview which has content. -/
def contentOf (preview : AffiliateShadowPreview) : Option (Text × Text) :=
  match preview.renderedText, preview.affiliateLink, preview.purgedAt with
  | some (c :: text), some (d :: link), none => some (c :: text, d :: link)
  | _, _, _ => none

/-- The end of `_validated_text`, over the links. -/
def checkCorrelations (db : ShadowDb) (preview : AffiliateShadowPreview) (source : SourceMessage)
    (candidateId : Nat) (proof : AffiliateLinkProof) (now : Instant) : Except String Unit :=
  match orderedLinks preview with
  | [] => check (HasCorrelatedLink db preview candidateId proof) proofMismatch
  | correlations => validateMultiLinkCorrelations env db preview preview.sourceMessageId source
      correlations now

/-- What the history says of a preview. -/
def checkHistory (db : ShadowDb) (previewId : Nat) (preview : AffiliateShadowPreview) :
    Except String Unit :=
  if preview.provider = aliexpressOfficial then
    (validateCanonicalPreview db.history db.candidates db.proofs db.uses previewId preview).map
      fun _ => ()
  else .ok ()

/-- `_validated_text`. -/
def validatedText (db : ShadowDb) (previewId : Nat) (chatId : Text) (now : Instant) :
    Except String Text := do
  let preview ← orRaise (db.previews.get? previewId) "SHADOW_PREVIEW_NOT_FOUND"
  check (preview.status = "READY") "SHADOW_PREVIEW_NOT_READY"
  check (now < preview.contentExpiresAt ∧ preview.createdAt ≤ now) "SHADOW_PREVIEW_EXPIRED"
  let content ← orRaise (contentOf preview) "SHADOW_PREVIEW_CONTENT_MISSING"
  check (utf16Length content.1 ≤ 4096) "SHADOW_MESSAGE_TOO_LONG"
  let proof ← orRaise ((findProof db.proofs preview.affiliateProofId).filter fun e =>
    IsConfirmed e.2) "SHADOW_PROOF_INVALID"
  check (TrackingConfirmed proof.2) "SHADOW_PROOF_TRACKING_UNCONFIRMED"
  check (IsCurrent now proof.2) "SHADOW_PROOF_EXPIRED"
  let candidate ← orRaise (db.candidates.get? proof.1) proofMismatch
  check (ProofMatches preview content.1 content.2 candidate proof.2) proofMismatch
  checkHost env content.2 preview.affiliateHost
  let source ← orRaise (db.messages.get? preview.sourceMessageId) "SHADOW_SOURCE_NOT_FOUND"
  check (source.channelId ≠ chatId) "SHADOW_DESTINATION_IS_SOURCE"
  checkCorrelations env db preview source proof.1 proof.2 now
  checkHistory db previewId preview
  return content.1

end ShadowDeliveryService
end PromoBot
