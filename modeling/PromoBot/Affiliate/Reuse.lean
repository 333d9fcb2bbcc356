import PromoBot.Affiliate.Replacements

/-!
# Using a stored proof again

A proof is stored together with the generation it came from, and a later conversion of the same
product looks at both.  `Stored` says what the store has written; nothing the program does
afterwards changes the generation or what the candidate is for.

`proof_reused_iff`: the checks of the later conversion agree with what was stored, except for
the address itself --- `_validate_promotion_link` lets pass what `_is_valid_affiliate_link`
refuses.

## Checks that mirror each other

Before a stored proof is used again it is compared with its generation column by column: the
link, the tracking, the version of the contract, the times, the identity, and the candidate
with the product and the variation.  Each of these comparisons has a counterpart in what the
store writes, in a different function and often in a different form.  A mismatch in one of them
would be silent: the proof would never be used again, and every message about the product would
be paid for with another request.

So the theorem goes from one conversion to the other one through everything that may happen
between.  The generation is confirmed, so it does not change (`Stored.evolves`).  The candidate
may be claimed, enriched, failed or recovered, but what it is for stays (`Keeps`).  The row of
the proof may be written over, and the theorem asks for it to be still there.  What is left are
the times, which follow from the order of the two conversions, and the address.

The two checks of an address differ in what they look at.  The one the answer passes takes the
parsed host, folded, and the other one the netloc as it stands.  `isValidAffiliateLink_iff`
says which addresses are lost in between: those with a port, with a fragment, and those whose
host is the host of promotion links only after it was folded.
-/

namespace PromoBot
namespace Conversion

open Fallible SqlTable LinkGenerate PyUrl
open AffiliateLinkHistoryRepository (Evolves HasPreparation PreparedAs Preparation)
open AffiliateCandidateRepository (Keeps)

variable {env : Environment} {w w' : World} {act : Action}

/-! ## What candidates are for -/

section Keeps

variable {service : Service} {source : SourceMessage} {messageId uuid ordinal : Nat}
  {startedAt now : Instant} {request : Option Nat} {targetUnchanged : Bool} {db db' : Db}

theorem keeps_claimAll {contexts : List LinkContext} {claims : List Claim}
    (h : claimAll env service source messageId startedAt uuid request targetUnchanged db ordinal
      contexts = .ok (db', claims)) : Keeps db.candidates db'.candidates := by
  induction contexts generalizing db ordinal claims with
  | nil =>
    obtain ⟨rfl, -⟩ := Prod.mk.inj (Except.ok.inj h)
    exact .refl _
  | cons context contexts ih =>
    obtain ⟨⟨db₁, claim⟩, hone, h⟩ := bind_eq_ok.1 h
    obtain ⟨⟨db₂, claims⟩, hall, h⟩ := bind_eq_ok.1 h
    obtain ⟨rfl, rfl⟩ := Prod.mk.inj (Except.ok.inj h)
    obtain ⟨candidates, _, _, _, hclaim, -, -, rfl, -⟩ := claimOne_eq_ok hone
    exact (Keeps.of_change (AffiliateCandidateRepository.change_claimForGeneration hclaim)).trans
      (ih hall)

theorem keeps_storeAll {itemCount : Nat} {l : List (Claim × Text)}
    {stored : List (Identity × AffiliateLinkProof)}
    (h : storeAll env service now itemCount db l = .ok (db', stored)) :
    Keeps db.candidates db'.candidates := by
  induction l generalizing db stored with
  | nil =>
    obtain ⟨rfl, -⟩ := Prod.mk.inj (Except.ok.inj h)
    exact .refl _
  | cons e l ih =>
    obtain ⟨⟨db₁, one⟩, hone, h⟩ := bind_eq_ok.1 h
    obtain ⟨⟨db₂, others⟩, hall, h⟩ := bind_eq_ok.1 h
    obtain ⟨rfl, rfl⟩ := Prod.mk.inj (Except.ok.inj h)
    obtain ⟨candidates, _, hgenerated, -, rfl, -⟩ := storeOne_eq_ok hone
    exact (Keeps.of_change
      (AffiliateCandidateRepository.change_markAffiliateGenerated hgenerated)).trans (ih hall)

theorem keeps_recordFailures {error : ProviderError} {jitter : Int} {claims : List Claim}
    {t t' : AffiliateCandidates} (h : recordFailures error now jitter t claims = some t') :
    Keeps t t' := by
  induction claims generalizing t with
  | nil =>
    obtain rfl := Option.some.inj h
    exact .refl _
  | cons claim claims ih =>
    obtain ⟨t₁, hfail, h⟩ := Option.bind_eq_some_iff.1 h
    exact (Keeps.of_change (AffiliateCandidateRepository.change_fail hfail)).trans (ih h)

theorem keeps_recover (db : Db) (now : Instant) :
    Keeps db.candidates (recover env db now).candidates := by
  have hfold : ∀ (ids : List Nat) (t : AffiliateCandidates),
      Keeps t (ids.foldl AffiliateCandidateRepository.markInterrupted t) := by
    intro ids
    induction ids with
    | nil => exact fun t => .refl t
    | cons i ids ih =>
      exact fun t => (Keeps.of_change
        (AffiliateCandidateRepository.change_markInterrupted t i)).trans (ih _)
  exact hfold _ _

theorem CandidateOp.keeps {op : CandidateOp} {t t' : AffiliateCandidates}
    (h : op.apply t = some t') : Keeps t t' := by
  cases op with
  | ensure store product variation canonical =>
    obtain rfl := Option.some.inj h
    exact .of_change (AffiliateCandidateRepository.change_ensure t store product variation canonical)
  | claim => exact .of_change (AffiliateCandidateRepository.change_claim h)
  | markAwaitingGeneration =>
    exact .of_change (AffiliateCandidateRepository.change_markAwaitingGeneration h)
  | markEnriched => exact .of_change (AffiliateCandidateRepository.change_markEnriched h)
  | fail => exact .of_change (AffiliateCandidateRepository.change_fail h)

/-- **No step changes what a candidate is for.** -/
theorem Transition.keeps (h : Transition env w act w') :
    Keeps w.db.candidates w'.db.candidates := by
  cases h with
  | tables hcandidates _ => exact hcandidates ▸ .refl _
  | candidate happly => exact CandidateOp.keeps happly
  | request | prepareCoin | startCall | send | answer | storeCoin | close | finish | fail | move =>
    exact .refl _
  | recover now | recoverFirst now _ => exact keeps_recover w.db now
  | select _ hselect =>
    obtain ⟨_, _, _, _, _, -, -, -, -, hclaims, -⟩ := select_eq_ok hselect
    exact keeps_claimAll hclaims
  | store _ hstore =>
    obtain ⟨_, -, hstore⟩ := storeAnswer_eq_ok hstore
    exact keeps_storeAll hstore
  | release _ hrelease => exact keeps_recordFailures hrelease

end Keeps

/-! ## What the store writes -/

section Store

variable {service : Service} {source : SourceMessage} {messageId uuid ordinal : Nat}
  {startedAt now : Instant} {request : Option Nat} {targetUnchanged : Bool} {db db' : Db}

/-- What the database knows of a claim: what its generation was prepared for, and what
its candidate is for. -/
structure Ready (env : Environment) (service : Service) (source : SourceMessage)
    (messageId : Nat) (db : Db) (claim : Claim) : Prop where
  prepared : HasClaim env db.history service source messageId claim.startedAt claim
  stamped : ∃ r, db.history.get? claim.generationId = some r ∧
    AffiliateLinkHistoryRepository.Stamped claim.startedAt r
  subject : (db.candidates.get? claim.context.candidateId).map AffiliateCandidate.subject =
    some (.aliexpress, claim.context.productId, claim.context.variationKey,
      claim.context.identityUrl)

theorem Ready.mono {claim : Claim} (h : Ready env service source messageId db claim)
    (hhistory : Evolves db.history db'.history) (hcandidates : Keeps db.candidates db'.candidates) :
    Ready env service source messageId db' claim := by
  obtain ⟨⟨uuid, ordinal, hprepared⟩, hstamped, hsubject⟩ := h
  exact ⟨⟨uuid, ordinal, hhistory.hasPreparation hprepared⟩, hhistory.stamped hstamped,
    hcandidates _ _ hsubject⟩

theorem ready_claimAll {contexts : List LinkContext} {claims : List Claim}
    (hcontexts : ∀ c ∈ contexts, (db.candidates.get? c.candidateId).map
      AffiliateCandidate.subject = some (.aliexpress, c.productId, c.variationKey, c.identityUrl))
    (h : claimAll env service source messageId startedAt uuid request targetUnchanged db ordinal
      contexts = .ok (db', claims)) :
    ∀ claim ∈ claims, Ready env service source messageId db' claim := by
  induction contexts generalizing db ordinal claims with
  | nil =>
    obtain ⟨-, rfl⟩ := Prod.mk.inj (Except.ok.inj h)
    exact fun _ hclaim => absurd hclaim List.not_mem_nil
  | cons context contexts ih =>
    obtain ⟨⟨db₁, claim⟩, hone, h⟩ := bind_eq_ok.1 h
    obtain ⟨⟨db₂, claims⟩, hall, h⟩ := bind_eq_ok.1 h
    obtain ⟨rfl, rfl⟩ := Prod.mk.inj (Except.ok.inj h)
    obtain ⟨hcontext, hcontexts⟩ := List.forall_mem_cons.1 hcontexts
    obtain ⟨candidates, _, history, id, hclaimed, -, hprepare, rfl, rfl⟩ := claimOne_eq_ok hone
    have hkeeps := Keeps.of_change
      (AffiliateCandidateRepository.change_claimForGeneration hclaimed)
    refine List.forall_mem_cons.2 ⟨?_, ih (fun c hc => hkeeps _ _ (hcontexts c hc)) hall⟩
    refine Ready.mono ⟨⟨uuid, ordinal, hasPreparation_prepare hprepare⟩, ?_,
      hkeeps _ _ hcontext⟩ (evolves_claimAll hall) (keeps_claimAll hall)
    obtain ⟨-, base, -, -, -, rfl⟩ := AffiliateLinkHistoryRepository.prepare_eq_ok hprepare
    exact ⟨_, get?_put_self _ _ _, AffiliateLinkHistoryRepository.stamped_prepared _ base⟩

/-- What the store has written for a claim: the proof, and the generation as
`validate_canonical_proof` expects it for a candidate of this product. -/
structure Stored (env : Environment) (service : Service) (now : Instant) (t : Generations)
    (claim : Claim) (proof : AffiliateLinkProof) : Prop where
  row : ∃ id, proof = AffiliateOfferRepository.upsertedRow
    ⟨claim.startedAt, now, claim.context.productId, claim.context.identityUrl, proof.shortLink,
      promotionLinkType, service.trackingFingerprint env, now + service.proofTtl⟩ id
    (some claim.generationId)
  generation : ∃ r, t.get? claim.generationId = some r ∧
    AffiliateLinkHistoryRepository.LinkValid proof.shortLink proof.trackingFingerprint
      (some proof.contractVersion) r ∧
    ∀ candidate : AffiliateCandidate, candidate.variationKey = claim.context.variationKey →
      candidate.canonicalUrl = claim.context.identityUrl →
      AffiliateLinkHistoryRepository.ProofAgrees env.scope claim.context.candidateId candidate
        proof r

theorem Stored.evolves {t t' : Generations} {claim : Claim} {proof : AffiliateLinkProof}
    (h : Stored env service now t claim proof) (ht : Evolves t t') :
    Stored env service now t' claim proof := by
  obtain ⟨hrow, r, hr, hvalid, hagrees⟩ := h
  exact ⟨hrow, r, ht.confirmed hr hvalid.1, hvalid, hagrees⟩

theorem stored_storeOne {itemCount : Nat} {claim : Claim} {link : Text}
    {stored : Identity × AffiliateLinkProof}
    (hclaim : Ready env service source messageId db claim)
    (hofficial : ∀ j r, db.history.get? j = some r → r.provider = "aliexpress_official" ∧
      r.operation = linkGenerateOperation)
    (h : storeOne env service now itemCount db claim link = .ok (db', stored)) :
    stored.1 = claim.context.identity ∧ stored.2.shortLink = link ∧
      Stored env service now db'.history claim stored.2 := by
  obtain ⟨candidates, history, -, hconfirm, -, hhistory, rfl⟩ := storeOne_eq_ok h
  obtain ⟨⟨uuid, ordinal, r, hr, hprepared⟩, ⟨r₁, hr₁, -, htime, htype⟩, -⟩ := hclaim
  obtain rfl := Option.some.inj (hr.symm.trans hr₁)
  obtain ⟨⟨r₂, hr₂, hconfirmable, hconfirmed⟩, -⟩ := get?_of_updateOne hconfirm
  obtain rfl := Option.some.inj (hr.symm.trans hr₂)
  obtain ⟨hprovider, hoperation⟩ := hofficial _ _ hr
  have hcalled : r.callStartedAt ≠ none := by
    intro hnone
    have hstarted := hconfirmable.2.2
    rw [hnone] at hstarted
    exact atMost_none _ hstarted
  have hfacts : (validationFacts env itemCount link).length ≠ 0 := by simp [validationFacts]
  have hmode : "PRODUCT_ID_CORRELATED" ≠ "" := by decide
  refine ⟨rfl, rfl, ⟨_, rfl⟩, _, hhistory ▸ hconfirmed, ?_, ?_⟩
  · exact ⟨rfl, rfl, rfl, hprepared.trackingFingerprint, Or.inr rfl, hfacts, hmode, hcalled,
      Option.some_ne_none now⟩
  · intro candidate hvariation hurl
    refine ⟨hprepared.scope, hprepared.identityKey, hprovider, hoperation, htype, rfl, rfl,
      htime, ?_, ?_, hurl.symm⟩
    · show r.originText "product_id" = _
      rw [Generation.originText, hprepared.origin]
      rfl
    · show r.originText "variation_key" = _
      rw [Generation.originText, hprepared.origin, hvariation]
      rfl

theorem stored_storeAll {itemCount : Nat} {l : List (Claim × Text)}
    {stored : List (Identity × AffiliateLinkProof)}
    (hclaims : ∀ e ∈ l, Ready env service source messageId db e.1)
    (hofficial : ∀ j r, db.history.get? j = some r → r.provider = "aliexpress_official" ∧
      r.operation = linkGenerateOperation)
    (h : storeAll env service now itemCount db l = .ok (db', stored)) :
    List.Forall₂ (fun e p => p.1 = e.1.context.identity ∧ p.2.shortLink = e.2 ∧
      Stored env service now db'.history e.1 p.2) l stored := by
  induction l generalizing db stored with
  | nil =>
    obtain ⟨-, rfl⟩ := Prod.mk.inj (Except.ok.inj h)
    exact .nil
  | cons e l ih =>
    obtain ⟨⟨db₁, one⟩, hone, h⟩ := bind_eq_ok.1 h
    obtain ⟨⟨db₂, others⟩, hall, h⟩ := bind_eq_ok.1 h
    obtain ⟨rfl, rfl⟩ := Prod.mk.inj (Except.ok.inj h)
    obtain ⟨hclaim, hclaims⟩ := List.forall_mem_cons.1 hclaims
    obtain ⟨hidentity, hlink, hstored⟩ := stored_storeOne hclaim hofficial hone
    obtain ⟨candidates, history, hgenerated, hconfirm, hcandidates, hhistory, -⟩ :=
      storeOne_eq_ok hone
    have hevolves : Evolves db.history db₁.history :=
      hhistory ▸ .of_change (AffiliateLinkHistoryRepository.change_confirm hconfirm)
    have hkeeps : Keeps db.candidates db₁.candidates :=
      hcandidates ▸ .of_change
        (AffiliateCandidateRepository.change_markAffiliateGenerated hgenerated)
    exact .cons ⟨hidentity, hlink, hstored.evolves (evolves_storeAll hall)⟩
      (ih (fun e' he' => (hclaims e' he').mono hevolves hkeeps)
        (hevolves.official hofficial) hall)

end Store

/-! ## What is known of the claims of a call -/

theorem subject_of_select {service : Service} {db db' : Db} {messageId uuid : Nat}
    {startedAt : Instant} {request : Option Nat} {targetUnchanged : Bool} {job : Job}
    (h : select env service db messageId startedAt uuid request targetUnchanged =
      .ok (db', job)) : ∀ c ∈ job.contexts, (db.candidates.get? c.candidateId).map
        AffiliateCandidate.subject = some (.aliexpress, c.productId, c.variationKey,
          c.identityUrl) := by
  obtain ⟨_, _, _, _, _, -, hcontexts, -, -, -, rfl⟩ := select_eq_ok h
  intro c hc
  obtain ⟨url, -, hurl⟩ := exists_of_mem_right hcontexts hc
  exact subject_of_contextForLink hurl

theorem ready_of_select {service : Service} {db db' : Db} {messageId uuid : Nat}
    {startedAt : Instant} {request : Option Nat} {targetUnchanged : Bool} {job : Job}
    (h : select env service db messageId startedAt uuid request targetUnchanged =
      .ok (db', job)) :
    ∀ claim ∈ job.claims, Ready env job.service job.source job.messageId db' claim := by
  have hsubject := subject_of_select h
  obtain ⟨source, _, contexts, found, claims, -, -, -, hfound, hclaims, rfl⟩ := select_eq_ok h
  refine ready_claimAll (fun c hc => hsubject c ?_) hclaims
  obtain ⟨e, he, rfl⟩ := List.mem_map.1 ((List.mem_insertionSort CandidateLE).1 hc)
  obtain ⟨c', hc', heq, -⟩ := exists_of_mem_right hfound (List.mem_filter.1 he).1
  exact mem_of_mem_representatives (heq ▸ hc')

/-- The database knows what every claim was made for. -/
def AllReady (env : Environment) (w : World) : Prop :=
  ∀ p work, (w.calls p).work = some work → ∀ job, work = .batch job →
    ∀ claim ∈ job.claims, Ready env job.service job.source job.messageId w.db claim

/-- A history that begins empty. -/
def emptyHistory (db : Db) : Prop := db.history = ∅

theorem allReady_of_reachable {start : Db → Prop} (h : (system env start).Reachable w) :
    AllReady env w := by
  refine h.invariant (P := AllReady env) ?_ ?_
  · rintro w ⟨-, hcalls, -⟩ p work hp
    rw [hcalls] at hp
    cases hp
  · intro w act w' hw hstep
    have htr := transition_of_step hstep
    refine htr.work_invariant (P := fun db work => ∀ job, work = .batch job →
      ∀ claim ∈ job.claims, Ready env job.service job.source job.messageId db claim)
      (fun work hwork job hjob claim hclaim =>
        (hwork job hjob claim hclaim).mono htr.evolves htr.keeps) ?_ ?_ hw
    · rintro _ _ _ _ _ _ _ job hselect _ ⟨⟩
      exact ready_of_select hselect
    · rintro _ _ _ _ _ _ _ _ _ _ _ _ ⟨⟩

theorem official_of_reachable (h : (system env emptyHistory).Reachable w) :
    ∀ j r, w.db.history.get? j = some r → r.provider = "aliexpress_official" ∧
      r.operation = linkGenerateOperation := by
  refine h.invariant (P := fun w => ∀ j r, w.db.history.get? j = some r →
    r.provider = "aliexpress_official" ∧ r.operation = linkGenerateOperation) ?_ ?_
  · rintro w ⟨hempty, -, -⟩ j r hr
    rw [show w.db.history = ∅ from hempty, get?_empty] at hr
    cases hr
  · exact fun w act w' hw hstep => (transition_of_step hstep).evolves.official hw

theorem evolves_of_run {start : Db → Prop} (h : (system env start).Run w w') :
    Evolves w.db.history w'.db.history ∧ Keeps w.db.candidates w'.db.candidates := by
  refine h.invariant (P := fun v => Evolves w.db.history v.db.history ∧
    Keeps w.db.candidates v.db.candidates) ⟨.refl _, .refl _⟩ ?_
  intro v act v' ⟨hhistory, hcandidates⟩ _ hstep
  have htr := transition_of_step hstep
  exact ⟨hhistory.trans htr.evolves, hcandidates.trans htr.keeps⟩

/-! ## The later conversion -/

/-- The address names the host, in whatever case, with no port and no fragment.  `hostname` is
lower-cased, and of that no further folding is done. -/
def IsPlainLink (env : Environment) (link : Text) : Prop :=
  ∃ parts ∈ urlsplit env.unicode link, parts.port = some none ∧ parts.fragment = [] ∧
    parts.hostname env.unicode = some "s.click.aliexpress.com".toList

instance (env : Environment) (link : Text) : Decidable (IsPlainLink env link) :=
  inferInstanceAs (Decidable (∃ parts ∈ urlsplit env.unicode link, _))

/-- **The two checks of an address** differ in the port, the fragment and the hosts that are this
one only when they are folded. -/
theorem isValidAffiliateLink_iff {link : Text}
    (h : validatePromotionLink env.unicode link = .ok ()) :
    isValidAffiliateLink env link = true ↔ IsPlainLink env link := by
  obtain ⟨parts, port, hparts, hport, hscheme, -, husername, hpassword, -⟩ :=
    validatePromotionLink_eq_ok.1 h
  have hsplit : ((urlsplit env.unicode link).bind fun parts =>
      parts.port.map fun port => (parts, port)) = some (parts, port) := by
    rw [hparts, Option.bind_some, hport]
    rfl
  unfold isValidAffiliateLink
  rw [hsplit]
  simp only [Bool.and_eq_true, decide_eq_true_eq]
  constructor
  · rintro ⟨⟨⟨⟨⟨-, hhost⟩, -⟩, -⟩, rfl⟩, hfragment⟩
    exact ⟨parts, hparts, hport, hfragment, hhost⟩
  · rintro ⟨parts', hparts', hport', hfragment, hhost⟩
    obtain rfl := Option.some.inj (hparts.symm.trans hparts')
    obtain rfl := Option.some.inj (hport.symm.trans hport')
    exact ⟨⟨⟨⟨⟨hscheme, hhost⟩, by rw [husername]; rfl⟩, by rw [hpassword]; rfl⟩, rfl⟩, hfragment⟩

/-- What the checks of a later conversion find. -/
theorem cachedProof_of_stored {db : Db} {service service' : Service} {now startedAt : Instant}
    {claim : Claim} {proof : AffiliateLinkProof} {c : LinkContext}
    (hstored : Stored env service now db.history claim proof)
    (hkept : db.proofs.get? claim.context.candidateId = some proof)
    (hsubject : (db.candidates.get? claim.context.candidateId).map AffiliateCandidate.subject =
      some (.aliexpress, claim.context.productId, claim.context.variationKey,
        claim.context.identityUrl))
    (hcandidate : c.candidateId = claim.context.candidateId)
    (hproduct : c.productId = claim.context.productId)
    (hurl : c.identityUrl = claim.context.identityUrl)
    (htracking : service'.trackingFingerprint env = service.trackingFingerprint env)
    (hlater : now ≤ startedAt) (hfresh : startedAt < now + service.proofTtl)
    (hfree : AffiliateLinkHistoryRepository.checkIdentity db.history env.scope
      (.canonical c.candidateId) (some startedAt) = .ok ()) :
    cachedProof env service' db startedAt none c = .ok (if isValidAffiliateLink env
      proof.shortLink ∧ startedAt < now + service'.proofTtl then some proof else none) := by
  obtain ⟨⟨id, hrow⟩, r, hr, hvalid, hagrees⟩ := hstored
  obtain ⟨candidate, hget, hsubject⟩ := Option.map_eq_some_iff.1 hsubject
  obtain ⟨-, -, hvariation, hcanonical⟩ : candidate.store = .aliexpress ∧
      candidate.externalProductId = claim.context.productId ∧
      candidate.variationKey = claim.context.variationKey ∧
      candidate.canonicalUrl = claim.context.identityUrl := by
    simpa [AffiliateCandidate.subject] using hsubject
  have hproof : (db.proofs.get? c.candidateId).filter (·.provider = "aliexpress_official") =
      some proof := by
    rw [hcandidate, hkept, hrow]
    rfl
  have hchecked : AffiliateLinkHistoryRepository.validateCanonicalProof db.history db.candidates
      env.scope c.candidateId proof = .ok r := by
    refine bind_eq_ok.2 ⟨r, ?_, bind_eq_ok.2 ⟨candidate, ?_, bind_eq_ok.2 ⟨⟨⟩, ?_, rfl⟩⟩⟩
    · refine bind_eq_ok.2 ⟨claim.generationId, ?_, bind_eq_ok.2 ⟨r, orRaise_eq_ok.2 hr,
        bind_eq_ok.2 ⟨⟨⟩, check_eq_ok.2 hvalid, rfl⟩⟩⟩
      rw [orRaise_eq_ok, hrow]
      rfl
    · rw [orRaise_eq_ok, hcandidate, hget]
    · rw [check_eq_ok, hcandidate]
      exact hagrees candidate hvariation hcanonical
  have hreusable : AffiliateOfferRepository.findReusableAliexpressProof db.proofs c.candidateId
      ⟨c.productId, c.identityUrl, promotionLinkType, service'.trackingFingerprint env,
        startedAt⟩ = some proof := by
    rw [AffiliateOfferRepository.findReusableAliexpressProof, hcandidate, hkept,
      Option.filter_some, if_pos]
    rw [decide_eq_true_eq, hrow]
    exact ⟨rfl, rfl, rfl, hproduct.symm, hurl.symm, rfl, congrArg some htracking.symm,
      (above_some _ _).2 hfresh, hlater, rfl, rfl⟩
  have hresponded : proof.respondedAt = now := by
    rw [hrow]
    rfl
  unfold cachedProof
  refine bind_eq_ok.2 ⟨⟨⟩, mapError_eq_ok.2 hfree, ?_⟩
  rw [hproof]
  refine bind_eq_ok.2 ⟨r, mapError_eq_ok.2 hchecked, ?_⟩
  rw [hreusable, Option.filter_some, hresponded]
  simp only [decide_eq_true_eq]
  rfl

theorem eq_of_identity_eq {contexts : List LinkContext}
    (h : ((representatives contexts).map LinkContext.productId).Nodup) {c c' : LinkContext}
    (hc : c ∈ representatives contexts) (hc' : c' ∈ representatives contexts)
    (heq : c.identity = c'.identity) : c = c' :=
  List.inj_on_of_nodup_map h hc hc' (congrArg Prod.fst heq)

/-- Claiming claims all that is not cached. -/
theorem exists_claim_of_claimAll {service : Service} {source : SourceMessage}
    {messageId uuid ordinal : Nat} {startedAt : Instant} {request : Option Nat}
    {targetUnchanged : Bool} {db db' : Db} {contexts : List LinkContext} {claims : List Claim}
    (h : claimAll env service source messageId startedAt uuid request targetUnchanged db ordinal
      contexts = .ok (db', claims)) : claims.map Claim.context = contexts := by
  induction contexts generalizing db ordinal claims with
  | nil =>
    obtain ⟨-, rfl⟩ := Prod.mk.inj (Except.ok.inj h)
    rfl
  | cons context contexts ih =>
    obtain ⟨⟨db₁, claim⟩, hone, h⟩ := bind_eq_ok.1 h
    obtain ⟨⟨db₂, claims⟩, hall, h⟩ := bind_eq_ok.1 h
    obtain ⟨rfl, rfl⟩ := Prod.mk.inj (Except.ok.inj h)
    obtain ⟨_, _, _, _, -, -, -, -, rfl⟩ := claimOne_eq_ok hone
    rw [List.map_cons, ih hall]

/-- A selection has taken this proof for a product, and asks for no link of it. -/
def Reuses (job : Job) (c : LinkContext) (proof : AffiliateLinkProof) : Prop :=
  (c.identity, proof) ∈ job.cached ∧ ∀ claim ∈ job.claims, claim.context.identity ≠ c.identity

theorem exists_cachedProof {service : Service} {db db' : Db} {messageId uuid : Nat}
    {startedAt : Instant} {request : Option Nat} {targetUnchanged : Bool} {job : Job}
    {c : LinkContext}
    (h : select env service db messageId startedAt uuid request targetUnchanged = .ok (db', job))
    (hc : c ∈ representatives job.contexts) :
    ∃ o, cachedProof env service db startedAt request c = .ok o := by
  obtain ⟨_, _, contexts, found, _, -, -, -, hfound, -, rfl⟩ := select_eq_ok h
  obtain ⟨e, -, -, hproof⟩ := exists_of_mem_right hfound.flip hc
  exact ⟨e.2, hproof⟩

/-- **A selection uses a proof again exactly when its checks return it.** -/
theorem reuses_iff {service : Service} {db db' : Db} {messageId uuid : Nat}
    {startedAt : Instant} {request : Option Nat} {targetUnchanged : Bool} {job : Job}
    {c : LinkContext} {proof : AffiliateLinkProof}
    (h : select env service db messageId startedAt uuid request targetUnchanged = .ok (db', job))
    (hc : c ∈ representatives job.contexts) :
    Reuses job c proof ↔ cachedProof env service db startedAt request c = .ok (some proof) := by
  obtain ⟨source, _, contexts, found, claims, -, -, hnodup, hfound, hclaims, rfl⟩ :=
    select_eq_ok h
  have hmem : ∀ e ∈ found, e.1 ∈ representatives contexts ∧
      cachedProof env service db startedAt request e.1 = .ok e.2 := by
    intro e he
    obtain ⟨c', hc', rfl, hproof⟩ := exists_of_mem_right hfound he
    exact ⟨hc', hproof⟩
  obtain ⟨e, he, hce⟩ : ∃ e ∈ found, e.1 = c := by
    obtain ⟨e, he, heq, -⟩ := exists_of_mem_right hfound.flip hc
    exact ⟨e, he, heq⟩
  have hproof := (hmem e he).2
  rw [hce] at hproof
  have hcontexts := exists_claim_of_claimAll hclaims
  have hmissing : ∀ c', c' ∈ claims.map Claim.context ↔ (c', none) ∈ found := by
    intro c'
    rw [hcontexts, List.mem_insertionSort, List.mem_map]
    constructor
    · rintro ⟨⟨c', o⟩, hfilter, rfl⟩
      obtain ⟨hin, hnone⟩ := List.mem_filter.1 hfilter
      obtain rfl : o = none := Option.isNone_iff_eq_none.1 hnone
      exact hin
    · exact fun hin => ⟨(c', none), List.mem_filter.2 ⟨hin, rfl⟩, rfl⟩
  constructor
  · rintro ⟨hcached, -⟩
    obtain ⟨⟨c', o⟩, hin, heq⟩ := List.mem_filterMap.1 hcached
    obtain ⟨proof', rfl, heq⟩ := Option.map_eq_some_iff.1 heq
    obtain ⟨hidentity, rfl⟩ := Prod.mk.inj heq
    obtain rfl := eq_of_identity_eq hnodup (hmem _ hin).1 hc hidentity
    exact (hmem _ hin).2
  · intro hreturned
    have hsome : e.2 = some proof := Except.ok.inj (hproof.symm.trans hreturned)
    refine ⟨List.mem_filterMap.2 ⟨e, he, by rw [hsome, hce]; rfl⟩, fun claim hclaim heq => ?_⟩
    have hnone := (hmissing claim.context).1 (List.mem_map_of_mem hclaim)
    obtain rfl := eq_of_identity_eq hnodup (hmem _ hnone).1 hc heq
    have hnothing := (hmem _ hnone).2
    rw [hreturned] at hnothing
    cases hnothing

theorem free_of_cachedProof {service : Service} {db : Db} {startedAt : Instant}
    {request : Option Nat} {c : LinkContext} {o : Option AffiliateLinkProof}
    (h : cachedProof env service db startedAt request c = .ok o) :
    AffiliateLinkHistoryRepository.checkIdentity db.history env.scope
      (.canonical c.candidateId) (some startedAt) = .ok () := by
  obtain ⟨_, hfree, -⟩ := bind_eq_ok.1 h
  exact mapError_eq_ok.1 hfree

/-- A conversion of a message about the first product which was answered with this link. -/
def answeredWith (link : Text) : World :=
  (system (testEnvironment .runtime) emptyHistory).endOf (beforeConversion firstItem)
    ((conversionSchedule [answerItem "https://pt.aliexpress.com/item/1.html".toList link]).take 6)

/-- The job and the answer of a call which was answered. -/
def Call.answered? : Call → Option (Job × List (String × Json))
  | .answered (.batch job) answer => some (job, answer)
  | _ => none

theorem Call.eq_answered {call : Call} {job : Job} {answer : List (String × Json)}
    (h : call.answered? = some (job, answer)) : call = .answered (.batch job) answer := by
  unfold Call.answered? at h
  split at h
  · obtain ⟨rfl, rfl⟩ := Prod.mk.inj (Option.some.inj h)
    rfl
  · cases h

/-- What that conversion stores at 2, and what a second one selects at 3. -/
structure SecondConversion where
  job : Job
  answer : List (String × Json)
  db : Db
  stored : List (Identity × AffiliateLinkProof)
  claim : Claim
  identity : Identity
  proof : AffiliateLinkProof
  context : LinkContext
  db' : Db
  job' : Job

/-- The two conversions, one after the other. -/
def secondConversion (link : Text) : Option SecondConversion :=
  ((answeredWith link).calls 0).answered?.bind fun call =>
  (storeAnswer (testEnvironment .runtime) (answeredWith link).db call.1 call.2 2).toOption.bind
    fun written =>
  (call.1.claims.zip written.2).head?.bind fun first =>
  (contextForLink (testEnvironment .runtime) written.1.candidates
    (storedByUrl written.1.links 1 firstItem) firstItem).toOption.bind fun context =>
  (select (testEnvironment .runtime) testService written.1 1 3 9 none true).toOption.map
    fun selected => ⟨call.1, call.2, written.1, written.2, first.1, first.2.1, first.2.2, context,
      selected.1, selected.2⟩

/-- What is left to be seen of the two conversions. -/
def SecondConversion.Fits (s : SecondConversion) : Prop :=
  s.db.proofs.get? s.claim.context.candidateId = some s.proof ∧
    s.context.candidateId = s.claim.context.candidateId ∧
    testService.trackingFingerprint (testEnvironment .runtime) =
      s.job.service.trackingFingerprint (testEnvironment .runtime) ∧
    Above s.proof.expiresAt 3 ∧ s.context ∈ representatives s.job'.contexts

instance : DecidablePred SecondConversion.Fits := fun _ => inferInstanceAs (Decidable (_ ∧ _))

theorem secondConversion_eq_some {link : Text} {s : SecondConversion}
    (h : secondConversion link = some s) :
    (answeredWith link).calls 0 = .answered (.batch s.job) s.answer ∧
      storeAnswer (testEnvironment .runtime) (answeredWith link).db s.job s.answer 2 =
        .ok (s.db, s.stored) ∧
      (s.claim, s.identity, s.proof) ∈ s.job.claims.zip s.stored ∧
      contextForLink (testEnvironment .runtime) s.db.candidates (storedByUrl s.db.links 1 firstItem)
        firstItem = .ok s.context ∧
      select (testEnvironment .runtime) testService s.db 1 3 9 none true = .ok (s.db', s.job') := by
  obtain ⟨call, hcall, h⟩ := Option.bind_eq_some_iff.1 h
  obtain ⟨written, hwritten, h⟩ := Option.bind_eq_some_iff.1 h
  obtain ⟨first, hfirst, h⟩ := Option.bind_eq_some_iff.1 h
  obtain ⟨context, hcontext, h⟩ := Option.bind_eq_some_iff.1 h
  obtain ⟨selected, hselected, rfl⟩ := Option.map_eq_some_iff.1 h
  exact ⟨Call.eq_answered hcall, toOption_eq_some.1 hwritten, List.mem_of_mem_head? hfirst,
    toOption_eq_some.1 hcontext, toOption_eq_some.1 hselected⟩

theorem exists_secondConversion (link : Text)
    (h : (secondConversion link).map (fun s => decide (s.Fits ∧ s.proof.shortLink = link)) =
      some true) :
    ∃ s, secondConversion link = some s ∧ s.Fits ∧ s.proof.shortLink = link := by
  obtain ⟨s, hs, hfits⟩ := Option.map_eq_some_iff.1 h
  exact ⟨s, hs, of_decide_eq_true hfits⟩

theorem answeredWith_reachable {link : Text}
    (h : ((system (testEnvironment .runtime) emptyHistory).replay (beforeConversion firstItem)
      ((conversionSchedule [answerItem "https://pt.aliexpress.com/item/1.html".toList link]).take
        6)).isSome) :
    (system (testEnvironment .runtime) emptyHistory).Reachable (answeredWith link) :=
  ⟨beforeConversion firstItem, ⟨rfl, fun _ => rfl, rfl⟩, TransitionSystem.run_endOf h⟩

/-- **Which stored proofs are used again.**  A conversion has stored a proof, and it is
still there when another one, under the same tracking, looks at the product, after the
answer and before the proof expires.  Where nothing blocks the product the checks of the
other conversion pass, and they return the proof exactly when its address is plain and
the lifetime the other service gives proofs has not run out.  A selection which succeeds
then uses the proof and asks for no link of the product; otherwise it asks again. -/
theorem proof_reused_iff {p : Nat} {job : Job} {answer : List (String × Json)} {now : Instant}
    {db : Db} {stored : List (Identity × AffiliateLinkProof)} {claim : Claim}
    {identity : Identity} {proof : AffiliateLinkProof}
    (hw : (system env emptyHistory).Reachable w)
    (hp : w.calls p = .answered (.batch job) answer)
    (hstore : storeAnswer env w.db job answer now = .ok (db, stored))
    (hproof : (claim, identity, proof) ∈ job.claims.zip stored)
    (hrun : (system env emptyHistory).Run ((w.withDb db).withCall p
      (.generated job (some answer) (stored ++ job.cached))) w')
    (hkept : w'.db.proofs.get? claim.context.candidateId = some proof)
    {service : Service} {startedAt : Instant} {row : Option (Nat × SourceMessageLink)}
    {url : Text} {c : LinkContext}
    (hcontext : contextForLink env w'.db.candidates row url = .ok c)
    (hcandidate : c.candidateId = claim.context.candidateId)
    (htracking : service.trackingFingerprint env = job.service.trackingFingerprint env)
    (hlater : now ≤ startedAt) (hfresh : Above proof.expiresAt startedAt) :
    (AffiliateLinkHistoryRepository.checkIdentity w'.db.history env.scope
        (.canonical c.candidateId) (some startedAt) = .ok () →
      cachedProof env service w'.db startedAt none c =
        .ok (if IsPlainLink env proof.shortLink ∧ startedAt < now + service.proofTtl then
          some proof else none)) ∧
    ∀ messageId uuid targetUnchanged db' job',
      select env service w'.db messageId startedAt uuid none targetUnchanged = .ok (db', job') →
      c ∈ representatives job'.contexts →
      (Reuses job' c proof ↔
        IsPlainLink env proof.shortLink ∧ startedAt < now + service.proofTtl) := by
  obtain ⟨mappings, hmappings, hall⟩ := storeAnswer_eq_ok hstore
  have hready := allReady_of_reachable hw p _ (by rw [hp]; rfl) job rfl
  have hstored := stored_storeAll (fun e he => hready e.1 (List.of_mem_zip he).1)
    (official_of_reachable hw) hall
  obtain ⟨link, hlink, -, rfl, hstored⟩ := exists_of_mem_zip hstored hproof
  change Stored env job.service now db.history claim proof at hstored
  obtain ⟨m, hm, hmlink⟩ := List.mem_map.1 hlink
  have hvalid : validatePromotionLink env.unicode proof.shortLink = .ok () :=
    hmlink ▸ validated_of_parseLinkGenerate hmappings m hm
  have hmem := (List.of_mem_zip hproof).1
  obtain ⟨hevolves, hkeeps⟩ := evolves_of_run hrun
  have hsubject := hkeeps _ _ (keeps_storeAll hall _ _ (hready claim hmem).subject)
  have hsame := subject_of_contextForLink hcontext
  rw [hcandidate, hsubject, Option.some.injEq, Prod.mk.injEq, Prod.mk.injEq, Prod.mk.injEq]
    at hsame
  obtain ⟨-, hproduct, -, hurl⟩ := hsame
  have hexpires : startedAt < now + job.service.proofTtl := by
    obtain ⟨id, hrow⟩ := hstored.row
    rw [hrow] at hfresh
    exact (above_some _ _).1 hfresh
  have hchecks : AffiliateLinkHistoryRepository.checkIdentity w'.db.history env.scope
      (.canonical c.candidateId) (some startedAt) = .ok () →
      cachedProof env service w'.db startedAt none c =
        .ok (if IsPlainLink env proof.shortLink ∧ startedAt < now + service.proofTtl then
          some proof else none) := by
    intro hfree
    rw [cachedProof_of_stored (hstored.evolves hevolves) hkept hsubject hcandidate hproduct.symm
      hurl.symm htracking hlater hexpires hfree]
    simp only [isValidAffiliateLink_iff hvalid]
  refine ⟨hchecks, fun messageId uuid targetUnchanged db' job' hselect hc => ?_⟩
  rw [reuses_iff hselect hc]
  constructor
  · intro hreturned
    rw [hchecks (free_of_cachedProof hreturned)] at hreturned
    by_contra hcond
    rw [if_neg hcond] at hreturned
    cases hreturned
  · intro hcond
    obtain ⟨o, ho⟩ := exists_cachedProof hselect hc
    rw [hchecks (free_of_cachedProof ho), if_pos hcond]

theorem plain_link_reused : ∃ s : SecondConversion,
    secondConversion "https://s.click.aliexpress.com/e/_one".toList = some s ∧
      Reuses s.job' s.context s.proof := by
  obtain ⟨s, hs, ⟨hkept, hcandidate, htracking, hfresh, hc⟩, hlink⟩ :=
    exists_secondConversion "https://s.click.aliexpress.com/e/_one".toList
      (by decide +kernel)
  obtain ⟨hp, hstore, hproof, hcontext, hselect⟩ := secondConversion_eq_some hs
  refine ⟨s, hs, ((proof_reused_iff (answeredWith_reachable (by decide +kernel)) hp hstore hproof
    (.refl _) hkept hcontext hcandidate htracking (by decide) hfresh).2 _ _ _ _ _ hselect hc).2
    ⟨?_, by decide⟩⟩
  rw [hlink]
  decide +kernel

/-- A link which names the port of its scheme is accepted and stored, and the next
conversion asks for another one. -/
theorem link_with_port_not_reused : ∃ s : SecondConversion,
    (system (testEnvironment .runtime) emptyHistory).Reachable
      (answeredWith "https://s.click.aliexpress.com:443/e/_one".toList) ∧
    secondConversion "https://s.click.aliexpress.com:443/e/_one".toList = some s ∧ s.Fits ∧
    s.job'.cached = [] ∧ s.job'.claims.map (fun c => c.context.identity) =
      [s.context.identity] := by
  obtain ⟨s, hs, hseen⟩ : ∃ s,
      secondConversion "https://s.click.aliexpress.com:443/e/_one".toList = some s ∧
      (s.Fits ∧ s.job'.cached = [] ∧
        s.job'.claims.map (fun c => c.context.identity) = [s.context.identity]) := by
    have heval : (secondConversion "https://s.click.aliexpress.com:443/e/_one".toList).map
        (fun s => decide (s.Fits ∧ s.job'.cached = [] ∧
          s.job'.claims.map (fun c => c.context.identity) = [s.context.identity])) =
        some true := by decide +kernel
    obtain ⟨s, hs, hfits⟩ := Option.map_eq_some_iff.1 heval
    exact ⟨s, hs, of_decide_eq_true hfits⟩
  exact ⟨s, answeredWith_reachable (by decide +kernel), hs, hseen⟩

end Conversion
end PromoBot
