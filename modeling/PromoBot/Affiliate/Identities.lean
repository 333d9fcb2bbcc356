import PromoBot.Affiliate.Transitions

/-!
# Which product a link is for

On its way through a conversion a product has three shapes: the address in the text,
the identity the link row and the candidate agree on, and the address a link is
generated for.  `Resolves` is the first step, from the address to the identity;
`productId_of_generationUrl` is the way back from the last shape, which the answer of
the provider is matched by.

`Backs` says what a generation has to be for its link to stand for an identity.
-/

namespace PromoBot
namespace Conversion

open Fallible SqlTable Urls PyUrl LinkGenerate

variable {env : Environment}

/-! ## From the text to the identity -/

/-- The address in the text is of this product: by itself, or, where it is a short link,
by what that was resolved to. -/
def Resolves (env : Environment) (links : SourceMessageLinks) (messageId : Nat) (url : Text)
    (identity : Identity) : Prop :=
  ∃ link address, storedByUrl links messageId url = some link ∧
    (if isAliexpressRedirectorUrl env.unicode url then link.2.expandedUrl = some address
      else address = url) ∧
    Identifies env.unicode address identity.1 identity.2

theorem canonicalInput_eq_ok {link : SourceMessageLink} {url address : Text}
    (h : canonicalInput env link url = .ok address) :
    if isAliexpressRedirectorUrl env.unicode url then link.expandedUrl = some address
      else address = url := by
  unfold canonicalInput at h
  split at h
  · next hredirector =>
    rw [if_pos hredirector]
    exact orRaise_eq_ok.1 h
  · next hredirector =>
    rw [if_neg hredirector]
    obtain ⟨_, -, h⟩ := bind_eq_ok.1 h
    obtain ⟨_, -, h⟩ := bind_eq_ok.1 h
    exact (Except.ok.inj h).symm

/-- What `_context_for_link` has made sure of. -/
structure IsContext (env : Environment) (candidates : AffiliateCandidates)
    (links : SourceMessageLinks) (messageId : Nat) (c : LinkContext) : Prop where
  resolves : Resolves env links messageId c.inputUrl c.identity
  generationUrl : Conversion.generationUrl env c.productId c.variationKey = .ok c.generationUrl
  productId : c.productId ≠ [] ∧ ∀ d ∈ c.productId, Text.isAsciiDigit d = true
  candidate : ∃ candidate, candidates.get? c.candidateId = some candidate ∧
    candidate.variationKey = c.variationKey

theorem contextForLink_eq_ok {candidates : AffiliateCandidates} {links : SourceMessageLinks}
    {messageId : Nat} {url : Text} {c : LinkContext}
    (h : contextForLink env candidates (storedByUrl links messageId url) url = .ok c) :
    c.inputUrl = url ∧ IsContext env candidates links messageId c := by
  obtain ⟨link, hlink, h⟩ := bind_eq_ok.1 h
  obtain ⟨_, -, h⟩ := bind_eq_ok.1 h
  obtain ⟨address, haddress, h⟩ := bind_eq_ok.1 h
  obtain ⟨_, hcanonical, h⟩ := bind_eq_ok.1 h
  obtain ⟨_, -, h⟩ := bind_eq_ok.1 h
  obtain ⟨productId, -, h⟩ := bind_eq_ok.1 h
  obtain ⟨identityUrl, -, h⟩ := bind_eq_ok.1 h
  obtain ⟨candidateId, -, h⟩ := bind_eq_ok.1 h
  obtain ⟨candidate, hcandidate, h⟩ := bind_eq_ok.1 h
  obtain ⟨_, -, h⟩ := bind_eq_ok.1 h
  obtain ⟨_, hidentity, h⟩ := bind_eq_ok.1 h
  obtain ⟨_, -, h⟩ := bind_eq_ok.1 h
  obtain ⟨generated, hgenerated, h⟩ := bind_eq_ok.1 h
  obtain rfl := Except.ok.inj h
  obtain ⟨hstate, hstore, -, -⟩ := check_eq_ok.1 hcanonical
  obtain ⟨-, -, hproduct, -, hvariation⟩ := check_eq_ok.1 hidentity
  obtain ⟨variation, hsome⟩ := exists_variationKey env.unicode hstate
  rw [hsome, Option.getD_some] at hvariation
  refine ⟨rfl, ⟨link, address, orRaise_eq_ok.1 hlink, canonicalInput_eq_ok haddress, hstate,
    hstore, hproduct, ?_⟩, hgenerated, digits_of_externalProductId env.unicode hstore hproduct,
    candidate, orRaise_eq_ok.1 hcandidate, rfl⟩
  rw [hsome, hvariation]
  rfl

/-- The candidate of a context is for its product. -/
theorem subject_of_contextForLink {candidates : AffiliateCandidates}
    {stored : Option (Nat × SourceMessageLink)} {url : Text} {c : LinkContext}
    (h : contextForLink env candidates stored url = .ok c) :
    (candidates.get? c.candidateId).map AffiliateCandidate.subject =
      some (.aliexpress, c.productId, c.variationKey, c.identityUrl) := by
  obtain ⟨link, -, h⟩ := bind_eq_ok.1 h
  obtain ⟨_, -, h⟩ := bind_eq_ok.1 h
  obtain ⟨address, -, h⟩ := bind_eq_ok.1 h
  obtain ⟨_, -, h⟩ := bind_eq_ok.1 h
  obtain ⟨_, -, h⟩ := bind_eq_ok.1 h
  obtain ⟨productId, -, h⟩ := bind_eq_ok.1 h
  obtain ⟨identityUrl, -, h⟩ := bind_eq_ok.1 h
  obtain ⟨candidateId, -, h⟩ := bind_eq_ok.1 h
  obtain ⟨candidate, hcandidate, h⟩ := bind_eq_ok.1 h
  obtain ⟨_, hstore, h⟩ := bind_eq_ok.1 h
  obtain ⟨_, hidentity, h⟩ := bind_eq_ok.1 h
  obtain ⟨_, -, h⟩ := bind_eq_ok.1 h
  obtain ⟨generated, -, h⟩ := bind_eq_ok.1 h
  obtain rfl := Except.ok.inj h
  obtain ⟨hproduct, hurl, -⟩ := check_eq_ok.1 hidentity
  show (candidates.get? candidateId).map AffiliateCandidate.subject = _
  rw [orRaise_eq_ok.1 hcandidate, Option.map_some, AffiliateCandidate.subject,
    check_eq_ok.1 hstore, hproduct, hurl]

theorem mem_of_mem_representatives {contexts : List LinkContext} {c : LinkContext}
    (h : c ∈ representatives contexts) : c ∈ contexts := by
  obtain ⟨identity, -, hfind⟩ := List.mem_filterMap.1 h
  exact List.mem_of_find?_eq_some hfind

/-! ## From the generated address to the product -/

theorem generationUrl_eq_ok {productId variationKey url : Text}
    (h : generationUrl env productId variationKey = .ok url) :
    ∃ query, url = urlunsplit ⟨"https".toList, "pt.aliexpress.com".toList,
      "/item/".toList ++ productId ++ ".html".toList, query, []⟩ := by
  unfold generationUrl at h
  split at h
  · exact ⟨[], (Except.ok.inj h).symm⟩
  split at h
  · cases h
  split at h
  · cases h
  · exact ⟨_, (Except.ok.inj h).symm⟩

/-- **The address a link is generated for names the product it was made of.** -/
theorem productId_of_generationUrl {productId variationKey url id : Text}
    (hid : productId ≠ [] ∧ ∀ d ∈ productId, Text.isAsciiDigit d = true)
    (hurl : generationUrl env productId variationKey = .ok url)
    (h : aliexpressProductId env.unicode url = some id) : id = productId := by
  obtain ⟨query, rfl⟩ := generationUrl_eq_ok hurl
  unfold aliexpressProductId at h
  split at h
  · next hstore =>
    exact externalProductId_itemUrl env.unicode (by decide) (by decide) hid.1 hid.2 hstore h
  · cases h

/-! ## What stands behind a link -/

/-- The generation stands for this link of this identity, under the settings of the
service. -/
structure Backs (env : Environment) (service : Service) (identity : Identity) (link : Text)
    (r : Generation) : Prop where
  state : r.state = .confirmed
  scope : r.scope = env.scope
  generatedUrl : r.generatedUrl = some link
  trackingFingerprint : r.trackingFingerprint = some (service.trackingFingerprint env)
  product : r.originText "product_id" = some identity.1
  variation : r.originText "variation_key" = some identity.2

/-- The answer gives this link for an address of this product. -/
def Answers (env : Environment) (answer : List (String × Json)) (productId link : Text) : Prop :=
  ∃ m, Lists answer m ∧ m.promotionLink = link ∧
    aliexpressProductId env.unicode m.sourceValue = some productId

/-- The link is that of a generation of this identity, which was still good when the
conversion began, or which the answer was just given for. -/
def Paid (env : Environment) (t : Generations) (service : Service) (startedAt : Instant)
    (answer : Option (List (String × Json))) (identity : Identity) (link : Text) : Prop :=
  ∃ id r, t.get? id = some r ∧ Backs env service identity link r ∧
    (Above r.expiresAt startedAt ∨ ∃ a ∈ answer, Answers env a identity.1 link)

theorem Paid.evolves {t t' : Generations} {service : Service} {startedAt : Instant}
    {answer : Option (List (String × Json))} {identity : Identity} {link : Text}
    (h : Paid env t service startedAt answer identity link)
    (ht : AffiliateLinkHistoryRepository.Evolves t t') :
    Paid env t' service startedAt answer identity link := by
  obtain ⟨id, r, hr, hbacks, htime⟩ := h
  exact ⟨id, r, ht.confirmed hr hbacks.state, hbacks, htime⟩

/-- **A proof which is used again is backed** by a generation of the identity it is used
for, and has not expired. -/
theorem paid_of_cachedProof {service : Service} {db : Db} {startedAt : Instant}
    {request : Option Nat} {c : LinkContext} {proof : AffiliateLinkProof}
    (hcandidate : ∃ candidate, db.candidates.get? c.candidateId = some candidate ∧
      candidate.variationKey = c.variationKey)
    (h : cachedProof env service db startedAt request c = .ok (some proof)) :
    Paid env db.history service startedAt none c.identity proof.shortLink := by
  unfold cachedProof at h
  obtain ⟨_, -, h⟩ := bind_eq_ok.1 h
  split at h
  · cases h
  split at h
  · cases h
  next existing hexisting =>
  obtain ⟨r, hvalid, h⟩ := bind_eq_ok.1 h
  obtain ⟨hreusable, -⟩ := Option.filter_eq_some_iff.1 (Except.ok.inj h)
  obtain ⟨hproof, hreusable⟩ := Option.filter_eq_some_iff.1 hreusable
  obtain ⟨hget, -⟩ := Option.filter_eq_some_iff.1 hexisting
  obtain rfl := Option.some.inj (hget.symm.trans hproof)
  obtain ⟨-, -, -, hproduct, -, -, htracking, hexpires, -⟩ := of_decide_eq_true hreusable
  obtain ⟨id, candidate, -, hr, hcandidate', hlink, hagrees⟩ :=
    AffiliateLinkHistoryRepository.validateCanonicalProof_eq_ok (mapError_eq_ok.1 hvalid)
  obtain ⟨candidate', hget', hvariation⟩ := hcandidate
  obtain rfl := Option.some.inj (hcandidate'.symm.trans hget')
  obtain ⟨hstate, hurl, -, htracking', -⟩ := hlink
  obtain ⟨hscope, -, -, -, -, hexpires', -, -, hproduct', hvariation', -⟩ := hagrees
  refine ⟨id, r, hr, ⟨hstate, hscope, hurl, htracking'.trans htracking, ?_, ?_⟩, Or.inl ?_⟩
  · rw [hproduct', hproduct]
    rfl
  · rw [hvariation', hvariation]
    rfl
  · rw [hexpires']
    exact hexpires

end Conversion
end PromoBot
