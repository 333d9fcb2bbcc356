import PromoBot.Database.Offers

/-!
# Storing an offer as a deal

`ShopeeEnrichmentService.persist` and `AliExpressEnrichmentService.persist` of
`affiliate/service.py`: an offer of a provider becomes a product, a proof, a snapshot, a deal
and an entry of the price history, and the candidate it was made for is enriched.  All of it is
one transaction, so a step that raises leaves nothing behind.

The two services do the same with the tables, which is `storeOffer`.  They differ in what they
ask before: that an offer is for the candidate is four comparisons for AliExpress and two for
Shopee, and it is the two that are missing, the store and the variation, which
`persisted_deal_iff` says the deal depends on.

## What a deal is for

A deal points to a product and to a proof, and has the variation and the price itself.  That it
is *for* a candidate (`DealFor`) is therefore a fact about three rows: the product has the
identity and the address of the candidate, the proof is of a link made for this address, and
the deal names the variation the key of the candidate names, at the price the provider quoted
for that variation, or for the product where it quoted one price for it all.  None of the rows
has the key of the candidate, so nothing in the tables would show that they do not belong
together.

The offers come with their own invariants (`EnrichedAffiliateOffer` checks on construction that
the product and the proof are for one reference), and the writes with theirs (`Stored`).  What
is left is whether the reference is that of the candidate, and there the two services part.  In
the direction from the condition to the deal this is `stored_of_storeOffer` and the invariants
of the offer; in the other one the deal is read off the tables again, since its variation is
that of the reference.
-/

namespace PromoBot

open SqlTable Fallible Offers AffiliateOfferRepository ProductRepository

/-! ## The tables -/

namespace EnrichmentService

/-- A row of one of the two tables of snapshots. -/
inductive SnapshotRow
  | shopee (row : ShopeeProductSnapshot)
  | aliExpress (row : AliExpressProductSnapshot)

/-- `add_snapshot` of the provider. -/
def addSnapshot (db : OfferDatabase) (candidateId : Nat) :
    SnapshotRow → Except OfferRaised OfferDatabase
  | .shopee row => do
    let t ← insertForCandidate db.shopeeSnapshots "uq_shopee_snapshot_candidate" candidateId row
    return { db with shopeeSnapshots := t }
  | .aliExpress row => do
    let t ← insertForCandidate db.aliexpressSnapshots "uq_aliexpress_snapshot_candidate"
      candidateId row
    return { db with aliexpressSnapshots := t }

def claimedCandidate (t : AffiliateCandidates) (candidateId : Nat) :
    Except OfferRaised AffiliateCandidate := do
  let candidate ← orRaise (t.get? candidateId)
    (.valueError "affiliate candidate must be claimed before enrichment")
  check (candidate.state = .validating)
    (.valueError "affiliate candidate must be claimed before enrichment")
  return candidate

/-- What a `persist` has worked out before it writes: the snapshot for the number of the
product, and the deal for the numbers of the product and of the proof. -/
structure Rows where
  product : Product
  proof : NewProof
  snapshot : Nat → SnapshotRow
  deal : Nat → Nat → NewDeal
  freight : Option Nat

/-- The writes of a `persist`: the tables, and the number of the deal. -/
def storeOffer (db : OfferDatabase) (candidateId : Nat) (rows : Rows) :
    Except OfferRaised (OfferDatabase × Nat) := do
  let (products, productId) ← upsertProvider db.products rows.product
  let (proofs, proof) ← addProof db.proofs candidateId rows.proof
  let db ← addSnapshot { db with products := products, proofs := proofs } candidateId
    (rows.snapshot productId)
  let deal := rows.deal productId proof.id
  let (deals, dealId) := addReadyDeal db.deals deal
  let item := priceHistoryRow productId deal.displayPrice deal.currency deal.discoveredAt
    deal.source rows.freight
  let candidates ← orRaise
    (AffiliateCandidateRepository.markEnriched db.candidates candidateId rows.proof.respondedAt
      productId dealId)
    (.conflict "candidate enrichment transition lost or lease expired")
  return ({ db with
      candidates := candidates, deals := deals, priceHistory := db.priceHistory ++ [item] },
    dealId)

end EnrichmentService

open EnrichmentService

/-! ## The services -/

namespace ShopeeEnrichmentService

open ShopeeOffer

variable (u : PyUnicode)

/-- What is stored of an offer. -/
def rows (officialImageHosts : List Text) (offer : EnrichedAffiliateOffer u)
    (presentation : PricePresentation) : Rows :=
  let product := offer.product
  let reference := product.reference
  let proof := offer.affiliateProof
  let proposedImage :=
    if presentation.variationId ≠ none then product.selectedVariationImageUrl
    else product.imageUrl
  let officialImageUrl := validatedOfficialImageUrl u officialImageHosts proposedImage
  { product :=
      { store := .shopee
        externalId := reference.externalProductId
        title := product.title
        canonicalUrl := reference.canonicalUrl
        imageUrl := officialImageUrl
        seller := product.seller
        currency := product.currency }
    proof :=
      { provider := proof.provider
        operation := proof.operation
        requestedAt := proof.requestedAt
        respondedAt := proof.respondedAt
        sourceExternalProductId := proof.sourceExternalProductId
        canonicalUrl := proof.canonicalUrl
        shortLink := proof.shortLink
        contractVersion := proof.contractVersion }
    snapshot := fun productId => .shopee
      { productId := productId
        shopId := reference.shopId
        itemId := reference.itemId
        selectedVariationId := product.selectedVariationId
        priceMin := product.priceMin.cents
        priceMax := product.priceMax.cents
        selectedPrice := product.selectedVariationPrice.map Money.cents
        currency := product.currency
        available := product.available
        selectedVariationAvailable := product.selectedVariationAvailable
        rangeSemanticsConfirmed := product.rangeSemanticsConfirmed
        officialImageUrl := officialImageUrl
        queriedAt := product.queriedAt }
    deal := fun productId proofId =>
      { productId := productId
        proofId := proofId
        displayPrice := presentation.price.cents
        priceMin := product.priceMin.cents
        priceMax := product.priceMax.cents
        selectedPrice := product.selectedVariationPrice.map Money.cents
        priceDisplayMode := presentation.mode.value
        variationId := presentation.variationId
        currency := product.currency
        affiliateLink := proof.shortLink
        discoveredAt := product.queriedAt
        available := some true
        source := "shopee_affiliate_api" }
    freight := none }

/-- `persist`. -/
def persist (officialImageHosts : List Text) (db : OfferDatabase) (candidateId : Nat)
    (offer : EnrichedAffiliateOffer u) : Except OfferRaised (OfferDatabase × Nat) := do
  let presentation ← (selectPublishablePrice offer.product).mapError .provider
  let candidate ← claimedCandidate db.candidates candidateId
  let reference := offer.product.reference
  check (candidate.externalProductId = reference.externalProductId ∧
      candidate.canonicalUrl = reference.canonicalUrl)
    (.valueError "provider offer does not belong to the claimed candidate")
  storeOffer db candidateId (rows u officialImageHosts offer presentation)

end ShopeeEnrichmentService

namespace AliExpressEnrichmentService

open AliExpressOffer PyUrl

variable (u : PyUnicode)

/-- `_validate_proof`, with the hosts as `__init__` folds them. -/
def validateProof (officialEndpointHosts : List Text) (operation : String)
    (shortLink endpointHost : Text) : Except OfferRaised Unit := do
  check (operation = linkGenerateOperation)
    (.valueError "AliExpress affiliate proof must come from link.generate")
  let parts ← orRaise (urlsplit u shortLink)
    (.valueError "AliExpress affiliate link is malformed")
  check (parts.hostname u = some "s.click.aliexpress.com".toList)
    (.valueError "AliExpress affiliate link host is not officially documented")
  check (u.casefold endpointHost.strip ∈
      (officialEndpointHosts.filter fun host => host.strip ≠ []).map fun host =>
        u.casefold host.strip)
    (.valueError "AliExpress endpoint host is not explicitly allowed")

/-- What is stored of an offer. -/
def rows (offer : EnrichedAffiliateOffer u) (presentation : PricePresentation) : Rows :=
  let product := offer.product
  let reference := product.reference
  let proof := offer.affiliateProof
  let officialImageUrl := validatedOfficialImageUrl u product.imageUrl
  { product :=
      { store := .aliexpress
        externalId := reference.externalProductId
        title := product.title
        canonicalUrl := reference.canonicalUrl
        imageUrl := officialImageUrl
        seller := product.seller
        currency := product.currency }
    proof :=
      { provider := "aliexpress_official"
        operation := proof.operation
        requestedAt := proof.requestedAt
        respondedAt := proof.respondedAt
        sourceExternalProductId := proof.sourceExternalProductId
        canonicalUrl := proof.canonicalUrl
        shortLink := proof.shortLink
        contractVersion := proof.contractVersion }
    snapshot := fun productId => .aliExpress
      { productId := productId
        externalProductId := reference.externalProductId
        selectedSkuId := product.selectedSkuId
        priceMin := product.priceMin.cents
        priceMax := product.priceMax.cents
        selectedPrice := product.selectedPrice.map Money.cents
        priceScope := product.priceScope.value
        currency := product.currency
        available := product.available
        officialImageUrl := officialImageUrl
        commissionRate := product.commissionRate
        commissionAmount := product.commissionAmount.map Money.cents
        shippingFee := product.shippingFee.map Money.cents
        sourceOperation := product.sourceOperation
        queriedAt := product.queriedAt }
    deal := fun productId proofId =>
      { productId := productId
        proofId := proofId
        displayPrice := presentation.minimum.cents
        priceMin := presentation.minimum.cents
        priceMax := presentation.maximum.cents
        selectedPrice := product.selectedPrice.map Money.cents
        priceDisplayMode := presentation.mode.value
        variationId := presentation.selectedSkuId
        currency := product.currency
        affiliateLink := proof.shortLink
        discoveredAt := product.queriedAt
        available := product.available
        source := "aliexpress_affiliate_api" }
    freight := product.shippingFee.map Money.cents }

/-- `persist`. -/
def persist (officialEndpointHosts : List Text) (db : OfferDatabase) (candidateId : Nat)
    (offer : EnrichedAffiliateOffer u) : Except OfferRaised (OfferDatabase × Nat) := do
  let proof := offer.affiliateProof
  let presentation ← (selectPublishablePrice offer.product).mapError .provider
  validateProof u officialEndpointHosts proof.operation proof.shortLink proof.officialEndpointHost
  let candidate ← claimedCandidate db.candidates candidateId
  let reference := offer.product.reference
  check (candidate.store = .aliexpress ∧
      candidate.externalProductId = reference.externalProductId ∧
      candidate.canonicalUrl = reference.canonicalUrl ∧
      candidate.variationKey = reference.variationKey)
    (.valueError "provider offer does not belong to the claimed candidate")
  storeOffer db candidateId (rows u offer presentation)

end AliExpressEnrichmentService

/-! ## What has been stored -/

namespace EnrichmentService

variable {db db' : OfferDatabase} {candidateId dealId : Nat}

/-- The row is the one snapshot of the candidate, and no other has changed. -/
def SnapshotStored (candidateId : Nat) (db db' : OfferDatabase) : SnapshotRow → Prop
  | .shopee row => db.shopeeSnapshots.get? candidateId = none ∧
      db'.shopeeSnapshots = db.shopeeSnapshots.put candidateId row ∧
      db'.aliexpressSnapshots = db.aliexpressSnapshots
  | .aliExpress row => db.aliexpressSnapshots.get? candidateId = none ∧
      db'.aliexpressSnapshots = db.aliexpressSnapshots.put candidateId row ∧
      db'.shopeeSnapshots = db.shopeeSnapshots

/-- **An offer is stored**: the rows worked out for it are in the tables, the product in the
place of a row of the same product or in a new one and all others in new ones, the candidate
which was claimed is enriched with this product and this deal, and every other row is as it
was. -/
structure Stored (rows : Rows) (candidateId productId proofId dealId : Nat)
    (db db' : OfferDatabase) : Prop where
  product : db'.products = db.products.put productId rows.product
  sameProduct : ∀ r, db.products.get? productId = some r →
    r.store = rows.product.store ∧ r.externalId = rows.product.externalId
  proof : db.proofs.get? candidateId = none ∧
    db'.proofs = db.proofs.put candidateId (proofRow rows.proof proofId)
  snapshot : SnapshotStored candidateId db db' (rows.snapshot productId)
  deal : db.deals.get? dealId = none ∧
    db'.deals = db.deals.put dealId (dealRow (rows.deal productId proofId))
  priceHistory : db'.priceHistory = db.priceHistory ++
    [priceHistoryRow productId (rows.deal productId proofId).displayPrice
      (rows.deal productId proofId).currency (rows.deal productId proofId).discoveredAt
      (rows.deal productId proofId).source rows.freight]
  candidate : ∃ r, db.candidates.get? candidateId = some r ∧
    AffiliateCandidateRepository.Leased rows.proof.respondedAt r ∧
    db'.candidates.get? candidateId =
      some (AffiliateCandidateRepository.enriched rows.proof.respondedAt productId dealId r)
  others : ∀ j, j ≠ candidateId → db'.candidates.get? j = db.candidates.get? j

/-- What an upsert writes, and over what. -/
theorem upsertProvider_eq_ok {t t' : SqlTable Nat Product} {row : Product} {id : Nat}
    (h : upsertProvider t row = .ok (t', id)) : t' = t.put id row ∧
      ∀ r, t.get? id = some r → r.store = row.store ∧ r.externalId = row.externalId := by
  obtain ⟨found, hfound, h⟩ := bind_eq_ok.1 h
  obtain ⟨rfl, rfl⟩ := Prod.mk.inj (Except.ok.inj h)
  refine ⟨rfl, fun r hr => ?_⟩
  unfold getByExternalId at hfound
  split at hfound
  · obtain rfl := Except.ok.inj hfound
    rw [Option.map_none, Option.getD_none, get?_freshId] at hr
    cases hr
  · next e hselect =>
    obtain rfl := Except.ok.inj hfound
    have he : e ∈ t.select _ := hselect ▸ List.mem_singleton_self e
    obtain ⟨hrow, hsame⟩ := mem_select.1 he
    obtain rfl : r = e.2 := Option.some.inj (hr.symm.trans hrow)
    exact hsame
  · cases hfound

theorem insertForCandidate_eq_ok {ρ : Type} {t t' : SqlTable Nat ρ} {constraint : String}
    {row : ρ} (h : insertForCandidate t constraint candidateId row = .ok t') :
    t.get? candidateId = none ∧ t' = t.put candidateId row := by
  obtain ⟨_, hnone, h⟩ := bind_eq_ok.1 h
  obtain rfl := Except.ok.inj h
  exact ⟨check_eq_ok.1 hnone, rfl⟩

/-- A snapshot is stored, and the tables of the other rows are as they were. -/
theorem addSnapshot_eq_ok {row : SnapshotRow}
    (h : addSnapshot db candidateId row = .ok db') :
    SnapshotStored candidateId db db' row ∧ db'.products = db.products ∧
      db'.proofs = db.proofs ∧ db'.deals = db.deals ∧ db'.priceHistory = db.priceHistory ∧
      db'.candidates = db.candidates := by
  cases row with
  | shopee row =>
    obtain ⟨t, ht, h⟩ := bind_eq_ok.1 h
    obtain rfl := Except.ok.inj h
    obtain ⟨hnone, hput⟩ := insertForCandidate_eq_ok ht
    exact ⟨⟨hnone, hput, rfl⟩, rfl, rfl, rfl, rfl, rfl⟩
  | aliExpress row =>
    obtain ⟨t, ht, h⟩ := bind_eq_ok.1 h
    obtain rfl := Except.ok.inj h
    obtain ⟨hnone, hput⟩ := insertForCandidate_eq_ok ht
    exact ⟨⟨hnone, hput, rfl⟩, rfl, rfl, rfl, rfl, rfl⟩

/-- **Writes which all went through have stored the offer.** -/
theorem stored_of_storeOffer {rows : Rows}
    (h : storeOffer db candidateId rows = .ok (db', dealId)) :
    ∃ productId proofId, Stored rows candidateId productId proofId dealId db db' := by
  obtain ⟨⟨products, productId⟩, hproduct, h⟩ := bind_eq_ok.1 h
  obtain ⟨⟨proofs, proof⟩, hproof, h⟩ := bind_eq_ok.1 h
  obtain ⟨db₁, hsnapshot, h⟩ := bind_eq_ok.1 h
  obtain ⟨candidates, hcandidate, h⟩ := bind_eq_ok.1 h
  obtain ⟨rfl, rfl⟩ := Prod.mk.inj (Except.ok.inj h)
  obtain ⟨hput, hsame⟩ := upsertProvider_eq_ok hproduct
  obtain ⟨t, hinsert, hproof⟩ := bind_eq_ok.1 hproof
  obtain ⟨rfl, rfl⟩ := Prod.mk.inj (Except.ok.inj hproof)
  obtain ⟨hnone, hproofs⟩ := insertForCandidate_eq_ok hinsert
  obtain ⟨hstored, hproducts₁, hproofs₁, hdeals₁, hhistory₁, hcandidates₁⟩ :=
    addSnapshot_eq_ok hsnapshot
  obtain ⟨hrow, hothers⟩ := get?_of_updateOne (orRaise_eq_ok.1 hcandidate)
  rw [hcandidates₁] at hrow hothers
  refine ⟨productId, nextProofId db.proofs, ?_⟩
  exact
    { product := hproducts₁.trans hput
      sameProduct := hsame
      proof := ⟨hnone, hproofs₁.trans hproofs⟩
      snapshot := by
        revert hstored
        cases rows.snapshot productId <;> exact id
      deal := by
        show db.deals.get? db₁.deals.freshId = none ∧ db₁.deals.put _ _ = _
        rw [hdeals₁]
        exact ⟨get?_freshId _, rfl⟩
      priceHistory := by
        show db₁.priceHistory ++ _ = _
        rw [hhistory₁]
        rfl
      candidate := hrow
      others := hothers }

/-- **What the writes leave in the tables**: the rows worked out, under numbers which name one
another. -/
theorem storeOffer_eq_ok {rows : Rows} (h : storeOffer db candidateId rows = .ok (db', dealId)) :
    ∃ productId proofId,
      db'.deals.get? dealId = some (dealRow (rows.deal productId proofId)) ∧
      db'.products.get? productId = some rows.product ∧
      db'.proofs.get? candidateId = some (proofRow rows.proof proofId) := by
  obtain ⟨productId, proofId, hstored⟩ := stored_of_storeOffer h
  refine ⟨productId, proofId, ?_, ?_, ?_⟩
  · rw [hstored.deal.2, get?_put_self]
  · rw [hstored.product, get?_put_self]
  · rw [hstored.proof.2, get?_put_self]

theorem claimedCandidate_eq_ok {t : AffiliateCandidates} {r : AffiliateCandidate}
    (h : claimedCandidate t candidateId = .ok r) : t.get? candidateId = some r := by
  obtain ⟨r', hr, h⟩ := bind_eq_ok.1 h
  obtain ⟨_, -, h⟩ := bind_eq_ok.1 h
  obtain rfl := Except.ok.inj h
  exact orRaise_eq_ok.1 hr

end EnrichmentService

/-! ## A deal for a candidate -/

/-- The variation a key names: the `value` of `key.split(":", 1)`. -/
def variationNamed (variationKey : Text) : Option Text := (variationKey.partition ':').2

/-- **The deal is for the candidate**, given what the provider quoted: for its variation, at
the price of this variation or of the product, and with a link and a proof for its product and
its address. -/
structure DealFor (r : AffiliateCandidate) (quote : Quote) (db : OfferDatabase)
    (candidateId : Nat) (d : Deal) : Prop where
  variation : d.variationId = variationNamed r.variationKey
  final : d.finalPrice = d.currentPrice
  price : ∃ mode, d.priceDisplayMode = some mode ∧ quote.Shows d.variationId d.currentPrice mode
  product : ∃ p, db.products.get? d.productId = some p ∧ p.store = r.store ∧
    p.externalId = r.externalProductId ∧ p.canonicalUrl = r.canonicalUrl
  link : ∃ proof, db.proofs.get? candidateId = some proof ∧ d.affiliateProofId = some proof.id ∧
    d.affiliateLink = some proof.shortLink ∧
    proof.sourceExternalProductId = r.externalProductId ∧ proof.canonicalUrl = r.canonicalUrl

variable {u : PyUnicode} {hosts : List Text} {db db' : OfferDatabase} {candidateId dealId : Nat}
  {r : AffiliateCandidate}

/-- A deal of a Shopee offer is for the candidate but for the store and the variation. -/
theorem shopee_dealFor_iff {offer : ShopeeOffer.EnrichedAffiliateOffer u}
    (hr : db.candidates.get? candidateId = some r)
    (h : ShopeeEnrichmentService.persist u hosts db candidateId offer = .ok (db', dealId)) :
    ∃ d, db'.deals.get? dealId = some d ∧
      (DealFor r offer.product.quote db' candidateId d ↔ r.store = .shopee ∧
        offer.product.reference.requestedVariationId = variationNamed r.variationKey) := by
  obtain ⟨presentation, hpresentation, h⟩ := bind_eq_ok.1 h
  obtain ⟨candidate, hcandidate, h⟩ := bind_eq_ok.1 h
  obtain ⟨_, hbelongs, h⟩ := bind_eq_ok.1 h
  obtain rfl : candidate = r :=
    Option.some.inj ((claimedCandidate_eq_ok hcandidate).symm.trans hr)
  obtain ⟨hid, hurl⟩ := check_eq_ok.1 hbelongs
  obtain ⟨hvariation, hshows⟩ := ShopeeOffer.selectPublishablePrice_shows
    (mapError_eq_ok.1 hpresentation)
  obtain ⟨hproofId, hproofUrl⟩ := offer.proof_agrees
  obtain ⟨productId, proofId, hdeal, hproduct, hproof⟩ := storeOffer_eq_ok h
  refine ⟨_, hdeal, fun hfor => ?_, fun ⟨hstore, hkey⟩ => ?_⟩
  · obtain ⟨p, hp, hstore, -, -⟩ := hfor.product
    obtain rfl := Option.some.inj (hproduct.symm.trans hp)
    exact ⟨hstore.symm, hvariation.symm.trans hfor.variation⟩
  · exact
      { variation := hvariation.trans hkey
        final := rfl
        price := ⟨_, rfl, hshows⟩
        product := ⟨_, hproduct, hstore.symm, hid.symm, hurl.symm⟩
        link := ⟨_, hproof, rfl, rfl, (hid.trans hproofId).symm, (hurl.trans hproofUrl).symm⟩ }

/-- A deal of an AliExpress offer is for the candidate. -/
theorem aliExpress_dealFor {offer : AliExpressOffer.EnrichedAffiliateOffer u}
    (hr : db.candidates.get? candidateId = some r)
    (h : AliExpressEnrichmentService.persist u hosts db candidateId offer = .ok (db', dealId)) :
    ∃ d, db'.deals.get? dealId = some d ∧ DealFor r offer.product.quote db' candidateId d := by
  obtain ⟨presentation, hpresentation, h⟩ := bind_eq_ok.1 h
  obtain ⟨_, -, h⟩ := bind_eq_ok.1 h
  obtain ⟨candidate, hcandidate, h⟩ := bind_eq_ok.1 h
  obtain ⟨_, hbelongs, h⟩ := bind_eq_ok.1 h
  obtain rfl : candidate = r :=
    Option.some.inj ((claimedCandidate_eq_ok hcandidate).symm.trans hr)
  obtain ⟨hstore, hid, hurl, hkey⟩ := check_eq_ok.1 hbelongs
  obtain ⟨hvariation, hshows⟩ := AliExpressOffer.selectPublishablePrice_shows
    (mapError_eq_ok.1 hpresentation)
  obtain ⟨hproofId, hproofUrl⟩ := offer.proof_agrees
  obtain ⟨productId, proofId, hdeal, hproduct, hproof⟩ := storeOffer_eq_ok h
  have hnamed : variationNamed candidate.variationKey = offer.product.reference.requestedSkuId := by
    rw [hkey]
    exact AliExpressOffer.partition_variationKey _
  exact ⟨_, hdeal,
    { variation := hvariation.trans hnamed.symm
      final := rfl
      price := ⟨_, rfl, hshows⟩
      product := ⟨_, hproduct, hstore.symm, hid.symm, hurl.symm⟩
      link := ⟨_, hproof, rfl, rfl, (hid.trans hproofId).symm, (hurl.trans hproofUrl).symm⟩ }⟩

/-- **Which stored deals are for their candidate.**  Every deal of an AliExpress offer is.  A
deal of a Shopee offer is exactly where the candidate is one of Shopee and the reference asked
for the variation the candidate's key names; neither is compared. -/
theorem persisted_deal_iff (hr : db.candidates.get? candidateId = some r) :
    (∀ hosts offer,
      ShopeeEnrichmentService.persist u hosts db candidateId offer = .ok (db', dealId) →
      ((∃ d, db'.deals.get? dealId = some d ∧ DealFor r offer.product.quote db' candidateId d) ↔
        r.store = .shopee ∧
          offer.product.reference.requestedVariationId = variationNamed r.variationKey)) ∧
    ∀ hosts offer,
      AliExpressEnrichmentService.persist u hosts db candidateId offer = .ok (db', dealId) →
      ∃ d, db'.deals.get? dealId = some d ∧ DealFor r offer.product.quote db' candidateId d := by
  refine ⟨fun hosts offer h => ?_, fun hosts offer h => aliExpress_dealFor hr h⟩
  obtain ⟨d, hd, hiff⟩ := shopee_dealFor_iff hr h
  constructor
  · rintro ⟨d', hd', hfor⟩
    obtain rfl := Option.some.inj (hd.symm.trans hd')
    exact hiff.1 hfor
  · exact fun hasked => ⟨d, hd, hiff.2 hasked⟩

/-! ## A candidate for one variation of two -/

namespace TwoVariations

open ShopeeOffer

/-- A candidate for variation 77, as it is made of the address. -/
def candidate : AffiliateCandidate :=
  { AffiliateCandidateRepository.pendingRow .shopee "1:2".toList "variationid:77".toList
      "https://shopee.com.br/product/1/2?variationid=77".toList with
    state := .validating
    processingLeaseUntil := some (minutes 5) }

/-- A database with this candidate, and no offer yet. -/
def database : OfferDatabase where
  candidates := (∅ : AffiliateCandidates).put 1 candidate
  products := ∅
  proofs := ∅
  shopeeSnapshots := ∅
  aliexpressSnapshots := ∅
  deals := ∅
  priceHistory := []

/-- The product at this address, asked for with a variation or without. -/
def reference (requested : Option Text) : ProviderProductReference where
  store := "shopee".toList
  externalProductId := "1:2".toList
  canonicalUrl := candidate.canonicalUrl
  shopId := "1".toList
  itemId := "2".toList
  requestedVariationId := requested
  built := rfl

/-- Its variations, for 19.90 and for 29.90. -/
def snapshotFields (requested : Option Text) : SnapshotFields where
  reference := reference requested
  title := "Garrafa".toList
  priceMin := brl 1990
  priceMax := brl 2990
  available := true
  queriedAt := 0
  seller := none
  imageUrl := none
  selectedVariationId := requested
  selectedVariationPrice := requested.map fun _ => brl 2990
  selectedVariationAvailable := requested.map fun _ => true
  selectedVariationImageUrl := none
  rangeSemanticsConfirmed := true
  variations := [⟨"76".toList, brl 1990, true, none, by decide⟩,
    ⟨"77".toList, brl 2990, true, none, by decide⟩]

/-- The proof of the link for the address. -/
def proof : ShopeeOffer.AffiliateLinkProof .ascii where
  provider := "shopee_official"
  operation := "generateShortLink"
  requestedAt := 0
  respondedAt := 0
  sourceExternalProductId := "1:2".toList
  canonicalUrl := candidate.canonicalUrl
  shortLink := "https://s.shopee.com.br/abc".toList
  officialEndpointHost := "open-api.affiliate.shopee.com.br".toList
  credentialProfileId := "configured".toList
  contractVersion := "v1"
  subIds := []
  officialResponseValidated := true
  built := by decide +kernel

/-- The offer of a provider which was asked for the variation. -/
def named : EnrichedAffiliateOffer .ascii where
  product := { snapshotFields (some "77".toList) with built := rfl }
  affiliateProof := proof
  built := rfl

/-- The offer of a provider which was asked for the address only. -/
def unnamed : EnrichedAffiliateOffer .ascii where
  product := { snapshotFields none with built := rfl }
  affiliateProof := proof
  built := rfl

end TwoVariations

open TwoVariations

/-- The offer with the variation is stored, and the deal is for it. -/
theorem persisted_deal_named : ∃ db' dealId,
    ShopeeEnrichmentService.persist .ascii [] database 1 named = .ok (db', dealId) ∧
      ∃ d, db'.deals.get? dealId = some d ∧ DealFor candidate named.product.quote db' 1 d := by
  have hstored : (ShopeeEnrichmentService.persist .ascii [] database 1 named).toOption.isSome := by
    decide +kernel
  obtain ⟨⟨db', dealId⟩, h⟩ := Option.isSome_iff_exists.1 hstored
  have h := toOption_eq_some.1 h
  exact ⟨db', dealId, h, ((persisted_deal_iff (r := candidate) rfl).1 [] named h).2 ⟨rfl, rfl⟩⟩

/-- **The offer without the variation is stored as well**, for the candidate of variation 77: a
deal for no variation, at the price of the other. -/
theorem not_dealFor_unnamed : ∃ db' dealId d,
    ShopeeEnrichmentService.persist .ascii [] database 1 unnamed = .ok (db', dealId) ∧
      db'.deals.get? dealId = some d ∧ d.variationId = none ∧ d.currentPrice = 1990 ∧
      variationNamed candidate.variationKey = some "77".toList ∧
      ¬ DealFor candidate unnamed.product.quote db' 1 d := by
  have hstored : ((ShopeeEnrichmentService.persist .ascii [] database 1 unnamed).toOption.bind
      fun e => (e.1.deals.get? e.2).map fun d => (d.variationId, d.currentPrice)) =
        some (none, 1990) := by
    decide +kernel
  obtain ⟨⟨db', dealId⟩, h, hdeal⟩ := Option.bind_eq_some_iff.1 hstored
  obtain ⟨d, hd, hvalues⟩ := Option.map_eq_some_iff.1 hdeal
  obtain ⟨hvariation, hprice⟩ := Prod.mk.inj hvalues
  refine ⟨db', dealId, d, toOption_eq_some.1 h, hd, hvariation, hprice, rfl, fun hfor => ?_⟩
  have hnone : (none : Option Text) = some "77".toList := hvariation.symm.trans hfor.variation
  cases hnone

end PromoBot
