import PromoBot.Lib.DbSession
import PromoBot.Affiliate.Persistence

/-!
# An enrichment is stored as a whole

`Affiliate/Persistence` has what a `persist` does to the tables.  Here the two methods are the
sequences of statements they are, inside of a `Database.session`: the candidate and the product
are read, and then a flush each writes the product, the proof, the snapshot, the deal and the
entry of the history, and the last statement, which asks who holds the candidate, enriches it.

Each statement may raise for a reason of its own (a constraint of the table, a lock, a lost
connection), so may the commit and the rollback, and the task may be cancelled at each of them.
`enrichment_atomic` says what the tables are after that: all the rows of the offer are in them,
under numbers which name one another, and nothing else has changed, or they are the tables of
before.

## What befalls a session

A schedule is a list of events, one for each point at which the session waits: the statement
goes through, or raises, or the task is cancelled there.  The theorem is about every schedule,
and there is no hypothesis that the rollback works: a rollback which raises leaves the
connection to the pool, and what it had written to nobody.  A cancelled call is the one place
where the two outcomes cannot be told apart from outside, since the commit may have gone
through before the cancellation arrives.

## Two readings of one method

The statements are written down a second time here, so they have to be the ones of
`Affiliate/Persistence`.  That is `implements_persistSession`, by which the session computes
what the description of the method says it does, and `persistSession_eq_persist`, by which a
session nothing befalls stores exactly that.  Nothing of the proof of `enrichment_atomic` is
about offers: it is the law of `Lib.DbSession`, that a session stores all or nothing, at these
statements.
-/

namespace PromoBot

open SqlTable Fallible DbSession Offers AffiliateOfferRepository ProductRepository

namespace EnrichmentService

/-- A session on the tables of offers. -/
abbrev OfferSession (α : Type) := Session OfferDatabase OfferRaised α

/-! ## The statements -/

/-- A statement that reads. -/
def query {α : Type} (f : OfferDatabase → Except OfferRaised α) :
    StateT OfferDatabase (Except OfferRaised) α := fun db => do
  let a ← f db
  return (a, db)

/-- The flush of `upsert_provider`: an insert, or an update of the row that was found. -/
def flushProduct (found : Option (Nat × Product)) (row : Product) :
    StateT OfferDatabase (Except OfferRaised) Nat := fun db =>
  let id := (found.map Prod.fst).getD db.products.freshId
  .ok (id, { db with products := db.products.put id row })

/-- The flush of `add_proof`. -/
def flushProof (candidateId : Nat) (q : NewProof) :
    StateT OfferDatabase (Except OfferRaised) AffiliateLinkProof := fun db => do
  let (proofs, proof) ← addProof db.proofs candidateId q
  return (proof, { db with proofs := proofs })

/-- The flush of `add_snapshot`. -/
def flushSnapshot (candidateId : Nat) (row : SnapshotRow) :
    StateT OfferDatabase (Except OfferRaised) Unit := fun db => do
  let db ← addSnapshot db candidateId row
  return ((), db)

/-- The flush of `add_ready_deal`. -/
def flushDeal (deal : NewDeal) : StateT OfferDatabase (Except OfferRaised) Nat := fun db =>
  let (deals, dealId) := addReadyDeal db.deals deal
  .ok (dealId, { db with deals := deals })

/-- The flush of `add_price_history`. -/
def flushPriceHistory (item : PriceHistory) :
    StateT OfferDatabase (Except OfferRaised) Unit := fun db =>
  .ok ((), { db with priceHistory := db.priceHistory ++ [item] })

/-- The update of `mark_enriched`. -/
def updateEnriched (candidateId : Nat) (now : Instant) (productId dealId : Nat) :
    StateT OfferDatabase (Except OfferRaised) Unit := fun db => do
  let candidates ← orRaise
    (AffiliateCandidateRepository.markEnriched db.candidates candidateId now productId dealId)
    (.conflict "candidate enrichment transition lost or lease expired")
  return ((), { db with candidates := candidates })

/-! ## The services, statement by statement -/

/-- The writes of a `persist`. -/
def storeOfferSession (candidateId : Nat) (rows : Rows) : OfferSession Nat := do
  let found ← statement (query fun db =>
    getByExternalId db.products rows.product.store rows.product.externalId)
  let productId ← statement (flushProduct found rows.product)
  let proof ← statement (flushProof candidateId rows.proof)
  statement (flushSnapshot candidateId (rows.snapshot productId))
  let deal := rows.deal productId proof.id
  let dealId ← statement (flushDeal deal)
  statement (flushPriceHistory (priceHistoryRow productId deal.displayPrice deal.currency
    deal.discoveredAt deal.source rows.freight))
  statement (updateEnriched candidateId rows.proof.respondedAt productId dealId)
  return dealId

/-- The body of `async with self.database.session()`: the candidate, the test that the offer is
for it, and the writes. -/
def persistSession (candidateId : Nat) (belongs : AffiliateCandidate → Prop)
    [DecidablePred belongs] (rows : Rows) : OfferSession Nat := do
  let candidate ← statement (query fun db => claimedCandidate db.candidates candidateId)
  raising (check (belongs candidate)
    (.valueError "provider offer does not belong to the claimed candidate"))
  storeOfferSession candidateId rows

end EnrichmentService

open EnrichmentService

section Sessions

variable (u : PyUnicode)

/-- `ShopeeEnrichmentService.persist`: what is worked out before the session, and the session. -/
def ShopeeEnrichmentService.persistSession (officialImageHosts : List Text) (candidateId : Nat)
    (offer : ShopeeOffer.EnrichedAffiliateOffer u) : OfferSession Nat := do
  let presentation ← raising ((ShopeeOffer.selectPublishablePrice offer.product).mapError
    .provider)
  let reference := offer.product.reference
  transaction (EnrichmentService.persistSession candidateId
    (fun candidate => candidate.externalProductId = reference.externalProductId ∧
      candidate.canonicalUrl = reference.canonicalUrl)
    (rows u officialImageHosts offer presentation))

/-- `AliExpressEnrichmentService.persist`: the same. -/
def AliExpressEnrichmentService.persistSession (officialEndpointHosts : List Text)
    (candidateId : Nat) (offer : AliExpressOffer.EnrichedAffiliateOffer u) :
    OfferSession Nat := do
  let proof := offer.affiliateProof
  let presentation ← raising ((AliExpressOffer.selectPublishablePrice offer.product).mapError
    .provider)
  raising (validateProof u officialEndpointHosts proof.operation proof.shortLink
    proof.officialEndpointHost)
  let reference := offer.product.reference
  transaction (EnrichmentService.persistSession candidateId
    (fun candidate => candidate.store = .aliexpress ∧
      candidate.externalProductId = reference.externalProductId ∧
      candidate.canonicalUrl = reference.canonicalUrl ∧
      candidate.variationKey = reference.variationKey)
    (rows u offer presentation))

end Sessions

/-! ## What the statements do together -/

namespace EnrichmentService

variable {candidateId : Nat} {rows : Rows} {db : OfferDatabase}

/-- The statements of the writes do what `storeOffer` does. -/
theorem implements_storeOffer : Implements (storeOfferSession candidateId rows)
    (fun db => (storeOffer db candidateId rows).map Prod.swap) := by
  refine Implements.congr
    (.bind (.statement _) fun found =>
      .bind (.statement _) fun productId =>
        .bind (.statement _) fun proof =>
          .bind (.statement _) fun _ =>
            .bind (.statement _) fun dealId =>
              .bind (.statement _) fun _ =>
                .bind (.statement _) fun _ => .pure dealId) fun db => ?_
  show (query _ db >>= fun r => _) = _
  unfold storeOffer upsertProvider query
  dsimp only
  cases getByExternalId db.products rows.product.store rows.product.externalId with
  | error e => rfl
  | ok found =>
    show (flushProof candidateId rows.proof _ >>= fun r => _) = _
    unfold flushProof
    show (addProof db.proofs candidateId rows.proof >>= _ >>= _) =
      (addProof db.proofs candidateId rows.proof >>= _).map Prod.swap
    cases addProof db.proofs candidateId rows.proof with
    | error e => rfl
    | ok r =>
      obtain ⟨proofs, proof⟩ := r
      generalize (found.map Prod.fst).getD db.products.freshId = productId
      show (flushSnapshot candidateId (rows.snapshot productId) _ >>= fun r => _) = _
      unfold flushSnapshot
      show (addSnapshot _ _ _ >>= _ >>= _) = (addSnapshot _ _ _ >>= _).map Prod.swap
      cases addSnapshot _ candidateId (rows.snapshot productId) with
      | error e => rfl
      | ok db' =>
        show (updateEnriched candidateId rows.proof.respondedAt productId db'.deals.freshId _ >>=
          fun r => _) = _
        unfold updateEnriched
        show (orRaise (AffiliateCandidateRepository.markEnriched db'.candidates candidateId
            rows.proof.respondedAt productId db'.deals.freshId) _ >>= _ >>= _) =
          (orRaise (AffiliateCandidateRepository.markEnriched db'.candidates candidateId
            rows.proof.respondedAt productId db'.deals.freshId) _ >>= _).map Prod.swap
        cases AffiliateCandidateRepository.markEnriched db'.candidates candidateId
            rows.proof.respondedAt productId db'.deals.freshId with
        | none => rfl
        | some candidates => rfl

/-- The statements of a session do: read the candidate, ask whether the offer is for it, and
store the offer. -/
theorem implements_persistSession {belongs : AffiliateCandidate → Prop} [DecidablePred belongs] :
    Implements (persistSession candidateId belongs rows) (fun db => do
      let candidate ← claimedCandidate db.candidates candidateId
      check (belongs candidate)
        (.valueError "provider offer does not belong to the claimed candidate")
      (storeOffer db candidateId rows).map Prod.swap) := by
  refine Implements.congr
    (.bind (.statement _) fun candidate =>
      .bind (.raising _) fun _ => implements_storeOffer) fun db => ?_
  show (query _ db >>= fun r => _) = _
  unfold query
  dsimp only
  cases claimedCandidate db.candidates candidateId with
  | error e => rfl
  | ok candidate =>
    show ((check (belongs candidate) _).map _ >>= _) = (check (belongs candidate) _ >>= _)
    cases check (belongs candidate) _ with
    | error e => rfl
    | ok _ => rfl

end EnrichmentService

/-! ## All of it or nothing -/

section Atomic

variable (u : PyUnicode) (db : OfferDatabase) (candidateId : Nat)

theorem persistSession_stored {belongs : AffiliateCandidate → Prop} [DecidablePred belongs]
    (rows : Rows) (schedule : List (Event OfferRaised)) :
    AllOrNothing (fun dealId db' =>
        ∃ productId proofId, Stored rows candidateId productId proofId dealId db db') db
      (transaction (persistSession candidateId belongs rows) (.opened db schedule)) := by
  refine transaction_spec implements_persistSession (fun dealId db' h => ?_) schedule
  obtain ⟨candidate, -, h⟩ := bind_eq_ok.1 h
  obtain ⟨_, -, h⟩ := bind_eq_ok.1 h
  obtain ⟨e, hstore, he⟩ := map_eq_ok.1 h
  obtain ⟨rfl, rfl⟩ := Prod.mk.inj he
  exact stored_of_storeOffer hstore

/-- **An enrichment is stored as a whole or not at all.**  Whatever befalls the statements, the
commit and the rollback of a `persist` of either service: where it returns, the offer is stored;
where it raises, the tables are what they were; and where it is cancelled they are one or the
other. -/
theorem enrichment_atomic (schedule : List (Event OfferRaised)) :
    (∀ officialImageHosts (offer : ShopeeOffer.EnrichedAffiliateOffer u),
      AllOrNothing (fun dealId db' => ∃ presentation productId proofId,
          ShopeeOffer.selectPublishablePrice offer.product = .ok presentation ∧
            Stored (ShopeeEnrichmentService.rows u officialImageHosts offer presentation)
              candidateId productId proofId dealId db db') db
        (ShopeeEnrichmentService.persistSession u officialImageHosts candidateId offer
          (.opened db schedule))) ∧
    ∀ officialEndpointHosts (offer : AliExpressOffer.EnrichedAffiliateOffer u),
      AllOrNothing (fun dealId db' => ∃ presentation productId proofId,
          AliExpressOffer.selectPublishablePrice offer.product = .ok presentation ∧
            Stored (AliExpressEnrichmentService.rows u offer presentation)
              candidateId productId proofId dealId db db') db
        (AliExpressEnrichmentService.persistSession u officialEndpointHosts candidateId offer
          (.opened db schedule)) := by
  constructor
  · intro officialImageHosts offer
    refine AllOrNothing.raising (c := .opened db schedule) fun presentation h => ?_
    refine (persistSession_stored db candidateId _ schedule).mono fun dealId db' hstored => ?_
    obtain ⟨productId, proofId, hstored⟩ := hstored
    exact ⟨presentation, productId, proofId, mapError_eq_ok.1 h, hstored⟩
  · intro officialEndpointHosts offer
    refine AllOrNothing.raising (c := .opened db schedule) fun presentation h => ?_
    refine AllOrNothing.raising (c := .opened db schedule) fun _ _ => ?_
    refine (persistSession_stored db candidateId _ schedule).mono fun dealId db' hstored => ?_
    obtain ⟨productId, proofId, hstored⟩ := hstored
    exact ⟨presentation, productId, proofId, mapError_eq_ok.1 h, hstored⟩

end Atomic

/-! ## Sessions nothing befalls -/

section Quiet

variable {u : PyUnicode} {db db' : OfferDatabase} {candidateId dealId : Nat}

theorem raising_bind_of_ok {α : Type} {x : Except OfferRaised α} {a : α}
    {rest : α → OfferSession Nat} {c : Connection OfferDatabase OfferRaised} (h : x = .ok a) :
    (raising x >>= rest) c = rest a c :=
  bind_of_ok (show raising x c = .ok a c by rw [h]; rfl)

theorem persistSession_quiet {belongs : AffiliateCandidate → Prop} [DecidablePred belongs]
    {rows : Rows} {r : AffiliateCandidate} (hr : claimedCandidate db.candidates candidateId = .ok r)
    (hbelongs : belongs r) (h : storeOffer db candidateId rows = .ok (db', dealId)) :
    transaction (persistSession candidateId belongs rows) (.opened db []) =
      .ok dealId (.opened db' []) := by
  refine transaction_quiet implements_persistSession ?_
  refine bind_eq_ok.2 ⟨r, hr, bind_eq_ok.2 ⟨⟨⟩, check_eq_ok.2 hbelongs, ?_⟩⟩
  rw [h]
  rfl

/-- **A session nothing befalls stores what `persist` of the service stores.** -/
theorem persistSession_eq_persist :
    (∀ officialImageHosts (offer : ShopeeOffer.EnrichedAffiliateOffer u),
      ShopeeEnrichmentService.persist u officialImageHosts db candidateId offer =
        .ok (db', dealId) →
      ShopeeEnrichmentService.persistSession u officialImageHosts candidateId offer
        (.opened db []) = .ok dealId (.opened db' [])) ∧
    ∀ officialEndpointHosts (offer : AliExpressOffer.EnrichedAffiliateOffer u),
      AliExpressEnrichmentService.persist u officialEndpointHosts db candidateId offer =
        .ok (db', dealId) →
      AliExpressEnrichmentService.persistSession u officialEndpointHosts candidateId offer
        (.opened db []) = .ok dealId (.opened db' []) := by
  constructor
  · intro officialImageHosts offer h
    obtain ⟨presentation, hpresentation, h⟩ := bind_eq_ok.1 h
    obtain ⟨candidate, hcandidate, h⟩ := bind_eq_ok.1 h
    obtain ⟨_, hbelongs, h⟩ := bind_eq_ok.1 h
    refine (raising_bind_of_ok hpresentation).trans ?_
    exact persistSession_quiet hcandidate (check_eq_ok.1 hbelongs) h
  · intro officialEndpointHosts offer h
    obtain ⟨presentation, hpresentation, h⟩ := bind_eq_ok.1 h
    obtain ⟨_, hproof, h⟩ := bind_eq_ok.1 h
    obtain ⟨candidate, hcandidate, h⟩ := bind_eq_ok.1 h
    obtain ⟨_, hbelongs, h⟩ := bind_eq_ok.1 h
    refine (raising_bind_of_ok hpresentation).trans ?_
    refine (raising_bind_of_ok hproof).trans ?_
    exact persistSession_quiet hcandidate (check_eq_ok.1 hbelongs) h

end Quiet

end PromoBot
