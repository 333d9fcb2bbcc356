import PromoBot.Relay.Deduplication

/-!
# What links are attached to

A candidate is keyed by a store, a product id and a variation, and it carries a canonical
address.  The relay derives both from one answer of `canonicalize_store_url`, so the key is
what the address says and every link attached to the candidate has that address.

`backfill_store` attaches every link under the empty variation.  A link whose canonical address
has a variation is thereby attached to a candidate of another key than its address says --- its
own, or one that other links are attached to already.  As long as the backfill takes no such
link, key and address agree, and this condition is exact.

## What coherence is for

Whoever works on a candidate sees its row and not the links.  The offer is fetched for the
address, the deal is stored for the key, and the message it is sent with has the text of the
link.  If the three are not of one product in one variation, a link is answered with the price
of something else, and there is no column in which one could see it.  `Coherent` says that they
are: the key is the identity of the address, every attached link has this very address, and
links of different variations have different candidates.

## Why outcomes are enough

The relay writes a link and its candidate from one result, so what has to be kept is that every
link is an outcome of `canonicalize_store_url`, and every candidate made from one
(`Canonical`).  Coherence then follows from the function alone: its answers are canonical,
canonical addresses name their identity, and one identity has one address
(`Stores/Idempotence`).  The invariant starts from any database of this kind and not only from
an empty one, because the backfill is there for databases which are older than the candidates.

Two attempts at one product may run at the same time (`Relay/Deduplication`), and both may
write.  This does no harm here: both write the same identity, with the same address.
-/

namespace PromoBot
namespace Relay

open Urls PyUrl SqlTable AffiliateCandidateRepository

variable {env : LinkEnvironment} {cfg : LinkSettings}

/-! ## Coherence -/

/-- Every candidate is keyed by the identity of its address, every link attached to it has
that address, and links which differ in variation are not attached to one candidate. -/
structure Coherent (u : PyUnicode) (links : SourceMessageLinkModels)
    (candidates : AffiliateCandidates) : Prop where
  keyed : ∀ cid c, candidates.get? cid = some c →
    (canonicalizeStoreUrl u c.canonicalUrl).store = some c.store ∧
      (canonicalizeStoreUrl u c.canonicalUrl).externalProductId = some c.externalProductId ∧
      (canonicalizeStoreUrl u c.canonicalUrl).variationKey = some c.variationKey
  attached : ∀ id r cid, links.get? id = some r → r.affiliateCandidateId = some cid →
    ∃ c, candidates.get? cid = some c ∧ r.canonicalUrl = some c.canonicalUrl
  oneVariation : ∀ cid id id' r r' i i', links.get? id = some r → links.get? id' = some r' →
    r.affiliateCandidateId = some cid → r'.affiliateCandidateId = some cid →
    r.outcome.ResolvedTo u i → r'.outcome.ResolvedTo u i' → i.variationKey = i'.variationKey

/-- A database whose links carry outcomes of `canonicalize_store_url`, attached to a
candidate or not, and whose candidates were made of such links. -/
structure Canonical (u : PyUnicode) (links : SourceMessageLinkModels)
    (candidates : AffiliateCandidates) : Prop where
  rows : ∀ id r, links.get? id = some r →
    (r.canonicalUrl = none ∧ r.affiliateCandidateId = none) ∨
      (r.state ≠ .received ∧ ∃ i, r.outcome.ResolvedTo u i)
  made : ∀ cid c, candidates.get? cid = some c → c.identity.IsOutcome u c.canonicalUrl ∧
    (canonicalizeStoreUrl u c.canonicalUrl).store = some c.store ∧
    (canonicalizeStoreUrl u c.canonicalUrl).externalProductId = some c.externalProductId
  attached : ∀ id r cid, links.get? id = some r → r.affiliateCandidateId = some cid →
    ∃ c, candidates.get? cid = some c ∧ r.store = some c.store ∧
      r.externalProductId = some c.externalProductId ∧ r.canonicalUrl = some c.canonicalUrl

namespace Canonical

variable {u : PyUnicode} {links links' : SourceMessageLinkModels}
  {candidates candidates' : AffiliateCandidates}

/-- **Made of outcomes, they are coherent.** -/
theorem coherent (hu : u.Standard) (h : Canonical u links candidates) :
    Coherent u links candidates where
  keyed cid c hc := by
    obtain ⟨hout, hstore, hid⟩ := h.made cid c hc
    exact ⟨hstore, hid, IsOutcome.variationKey_canonical hu hout hstore hid⟩
  attached id r cid hr ha := by
    obtain ⟨c, hc, -, -, hcanonical⟩ := h.attached id r cid hr ha
    exact ⟨c, hc, hcanonical⟩
  oneVariation cid id id' r r' i i' hr hr' ha ha' hi hi' := by
    obtain ⟨c, hc, hstore, hid, hcanonical⟩ := h.attached id r cid hr ha
    obtain ⟨c', hc', hstore', hid', hcanonical'⟩ := h.attached id' r' cid hr' ha'
    obtain rfl := Option.some.inj (hc.symm.trans hc')
    have hsame : r.outcome.ResolvedTo u i' := by
      obtain ⟨hs, he, canonical, hurl, hout⟩ := hi'
      exact ⟨hstore.trans (hstore'.symm.trans hs), hid.trans (hid'.symm.trans he), canonical,
        hcanonical.trans (hcanonical'.symm.trans hurl), hout⟩
    rw [hi.unique hu hsame]

/-- **Attaching a link under its own variation** keeps links and candidates in order. -/
theorem ensureForLink (hu : u.Standard) (h : Canonical u links candidates) {linkId : Nat}
    {variation : Text}
    (hv : ∀ r i canonical, links.get? linkId = some r → r.outcome.ResolvedTo u i →
      r.canonicalUrl = some canonical →
      (canonicalizeStoreUrl u canonical).variationKey = some i.variationKey →
      i.variationKey = variation)
    (hens : AffiliateCandidateRepository.ensureForLink u links candidates linkId variation =
      .ok (links', candidates')) : Canonical u links' candidates' := by
  obtain ⟨r, store, externalId, canonical, cid, c, hr, hstore, hid, hcanonical, hstore', hid', rfl,
    hc, hidentity, hr', hother⟩ := ensureForLink_cases hens
  -- The link is of the identity it is attached under.
  have hout : ProductIdentity.IsOutcome u ⟨store, externalId, variation⟩ canonical := by
    rcases h.rows linkId r hr with ⟨hnone, -⟩ | ⟨-, i, hi⟩
    · rw [hnone] at hcanonical
      cases hcanonical
    · have hi' := hi
      obtain ⟨hs, he, canonical', hurl, hout⟩ := hi'
      obtain rfl := Option.some.inj (hcanonical.symm.trans hurl)
      have hsi : i.store = store := Option.some.inj (hs.symm.trans hstore)
      have hread := IsOutcome.variationKey_canonical hu hout (hsi ▸ hstore') hid'
      have heq : i = ⟨store, externalId, variation⟩ := by
        cases i with
        | mk s e v =>
          obtain rfl : v = variation := hv r _ canonical hr hi hcanonical hread
          obtain rfl := Option.some.inj (hs.symm.trans hstore)
          obtain rfl := Option.some.inj (he.symm.trans hid)
          rfl
      rw [← heq]
      exact hout
  have hmade : ∀ cid c, (ensure candidates store externalId variation canonical).get? cid =
      some c → c.identity.IsOutcome u c.canonicalUrl ∧
        (canonicalizeStoreUrl u c.canonicalUrl).store = some c.store ∧
        (canonicalizeStoreUrl u c.canonicalUrl).externalProductId = some c.externalProductId := by
    intro k d hd
    rcases of_get?_ensure hd with hd | ⟨rfl, -, -⟩
    · exact h.made k d hd
    · exact ⟨hout, hstore', hid'⟩
  constructor
  · intro j s hs
    rcases eq_or_ne j linkId with rfl | hj
    · rw [hr'] at hs
      obtain rfl := Option.some.inj hs
      rcases h.rows j r hr with ⟨hnone, -⟩ | hrow
      · rw [hnone] at hcanonical
        cases hcanonical
      · exact Or.inr hrow
    · rw [hother j hj] at hs
      exact h.rows j s hs
  · exact hmade
  · intro j s k hs hk
    rcases eq_or_ne j linkId with rfl | hj
    · rw [hr'] at hs
      obtain rfl := Option.some.inj hs
      obtain rfl : cid = k := Option.some.inj hk
      have hcout := (hmade cid c hc).1
      rw [hidentity] at hcout
      obtain ⟨hcs, hce, -⟩ := ProductIdentity.mk.inj hidentity
      refine ⟨c, hc, hcs ▸ hstore, hce ▸ hid, ?_⟩
      rw [← isOutcome_unique hout hcout]
      exact hcanonical
    · rw [hother j hj] at hs
      obtain ⟨d, hd, hrest⟩ := h.attached j s k hs hk
      exact ⟨d, get?_ensure hd, hrest⟩

/-- Writing an outcome to a link that is attached to nothing. -/
theorem setOutcome (h : Canonical u links candidates) {linkId : Nat} {o : LinkOutcome}
    (hfree : ∀ r, links.get? linkId = some r → r.affiliateCandidateId = none)
    (ho : o.canonicalUrl = none ∨ (o.state ≠ .received ∧ ∃ i, o.columns.ResolvedTo u i)) :
    Canonical u (SourceMessageLinkRepository.setOutcome links linkId o) candidates := by
  have hcases : ∀ j s, (SourceMessageLinkRepository.setOutcome links linkId o).get? j = some s →
      (j = linkId ∧ ∃ r, links.get? linkId = some r ∧ s = r.withOutcome o) ∨
        links.get? j = some s := by
    intro j s hs
    rw [SourceMessageLinkRepository.get?_setOutcome] at hs
    obtain ⟨r, hr, heq⟩ := Option.map_eq_some_iff.1 hs
    split at heq
    · next hj => exact Or.inl ⟨hj, r, hj ▸ hr, heq.symm⟩
    · exact Or.inr (heq ▸ hr)
  constructor
  · intro j s hs
    rcases hcases j s hs with ⟨-, r, hr, rfl⟩ | hs
    · exact ho.imp (fun hnone => ⟨hnone, hfree r hr⟩) fun hdone => hdone
    · exact h.rows j s hs
  · exact h.made
  · intro j s k hs hk
    rcases hcases j s hs with ⟨-, r, hr, rfl⟩ | hs
    · have hnone : r.affiliateCandidateId = none := hfree r hr
      rw [show (r.withOutcome o).affiliateCandidateId = r.affiliateCandidateId from rfl,
        hnone] at hk
      cases hk
    · exact h.attached j s k hs hk

/-- Taking a link in. -/
theorem received (h : Canonical u links candidates) {m id : Nat} {link : ExtractedLink}
    {hash : Text} {r : SourceMessageLinkModel}
    (hrec : SourceMessageLinkRepository.recordReceived links m link hash = (links', id, r)) :
    Canonical u links' candidates := by
  obtain ⟨-, -, rfl | ⟨-, hr, rfl⟩⟩ := SourceMessageLinkRepository.recordReceived_cases hrec
  · exact h
  · have hcases : ∀ j s, (links.put id r).get? j = some s →
        s = SourceMessageLinkRepository.receivedRow m link hash ∨ links.get? j = some s := by
      intro j s hs
      rw [get?_put] at hs
      split at hs
      · exact Or.inl ((Option.some.inj hs).symm.trans hr)
      · exact Or.inr hs
    constructor
    · intro j s hs
      rcases hcases j s hs with rfl | hs
      · exact Or.inl ⟨rfl, rfl⟩
      · exact h.rows j s hs
    · exact h.made
    · intro j s k hs hk
      rcases hcases j s hs with rfl | hs
      · cases hk
      · exact h.attached j s k hs hk

end Canonical

/-! ## Every step keeps it -/

/-- **The condition**: no link the backfill takes has a variation in its canonical address. -/
def TakesPlain (env : LinkEnvironment) (w : LinkWorld) : LinkAction → Prop
  | .backfill store limit =>
    ∀ id ∈ backfilled w.tables.links store limit, ∀ r canonical,
      w.tables.links.get? id = some r → r.canonicalUrl = some canonical →
      ∀ variation, (canonicalizeStoreUrl env.unicode canonical).variationKey = some variation →
        variation = []
  | _ => True

theorem canonicalUrl_of_columns {r s : SourceMessageLinkModel} (h : r.columns = s.columns) :
    r.canonicalUrl = s.canonicalUrl :=
  congrArg (fun c => c.2.canonicalUrl) h

/-- **A backfill of links without variations** keeps links and candidates in order. -/
theorem Canonical.backfill (hu : env.unicode.Standard) {w : LinkWorld}
    (h : Canonical env.unicode w.tables.links w.tables.candidates) {store : Store} {limit : Int}
    (hgood : TakesPlain env w (.backfill store limit)) :
    Canonical env.unicode (w.tables.backfill env store limit).links
      (w.tables.backfill env store limit).candidates := by
  unfold LinkTables.backfill
  split
  · next links candidates n hback =>
    have hinv : Canonical env.unicode links candidates ∧ ∀ j,
        (links.get? j).map SourceMessageLinkModel.columns = w.tables.columnsAt j := by
      refine backfillStore_invariant (P := fun s => Canonical env.unicode s.1 s.2 ∧ ∀ j,
        (s.1.get? j).map SourceMessageLinkModel.columns = w.tables.columnsAt j) hback
        ⟨h, fun _ => rfl⟩ ?_
      rintro id hid ⟨links₁, candidates₁⟩ ⟨links₂, candidates₂⟩ ⟨hc, hcolumns⟩ hens
      refine ⟨hc.ensureForLink hu ?_ hens, fun j => (columns_ensureForLink hens j).trans
        (hcolumns j)⟩
      intro r i canonical hr _ hcanonical hvariation
      have hcol := hcolumns id
      rw [hr, Option.map_some] at hcol
      obtain ⟨r₀, hr₀, hsame⟩ := columnsAt_eq_some.1 hcol.symm
      exact hgood id hid r₀ canonical hr₀
        ((canonicalUrl_of_columns hsame).trans hcanonical) _ hvariation
    exact hinv.1
  · exact h

theorem free_of_inFlight {w : LinkWorld}
    (h : Canonical env.unicode w.tables.links w.tables.candidates) (hflight : InFlight w)
    {m id : Nat} (hm : (w.attempts m).linkId? = some id) (r : SourceMessageLinkModel)
    (hr : w.tables.links.get? id = some r) : r.affiliateCandidateId = none := by
  obtain ⟨o, ho, hreceived⟩ := hflight m id hm
  obtain ⟨r', hr', hcolumns⟩ := columnsAt_eq_some.1 ho
  obtain rfl := Option.some.inj (hr.symm.trans hr')
  rcases h.rows id r hr with ⟨-, hfree⟩ | ⟨hdone, -⟩
  · exact hfree
  · refine absurd ?_ hdone
    rw [← (Prod.mk.inj hcolumns).2] at hreceived
    exact hreceived

/-- **Every step under the condition** keeps links and candidates in order. -/
theorem canonical_step (hu : env.unicode.Standard) {w w' : LinkWorld} {a : LinkAction}
    (h : Canonical env.unicode w.tables.links w.tables.candidates) (hflight : InFlight w)
    (hr : Readings env w) (hgood : TakesPlain env w a) (hstep : LinkChange env w a w') :
    Canonical env.unicode w'.tables.links w'.tables.candidates := by
  cases hstep with
  | attempt | find => exact h
  | receive m link rest =>
    unfold LinkWorld.received
    cases hrec : SourceMessageLinkRepository.recordReceived w.tables.links m link
        (env.sha256 link.url) with
    | mk links row => exact h.received hrec
  | refuse m id rest o hm hreceived hpending hcanonical =>
    exact h.setOutcome (free_of_inFlight h hflight hm) (Or.inl hcanonical)
  | record m id link rest p known t hm hattach =>
    obtain ⟨hout, -⟩ := hr m id link rest p known hm
    have hnames := resolvedTo_productOutcome hout link.url known
    have ht := h.setOutcome (free_of_inFlight h hflight (congrArg Attempt.linkId? hm))
      (Or.inr ⟨productOutcome_ne_received link.url p known, p.identity, hnames⟩)
    obtain ⟨-, rfl | hens⟩ := attachCandidate_cases hattach
    · exact ht
    · refine ht.ensureForLink hu ?_ hens
      intro r j canonical hrow hj _ _
      have hrow := (SourceMessageLinkRepository.get?_setOutcome ..).symm.trans hrow
      obtain ⟨r₀, -, rfl⟩ := Option.map_eq_some_iff.1 hrow
      rw [if_pos rfl, SourceMessageLinkModel.withOutcome_outcome] at hj
      rw [hj.unique hu hnames]
  | backfill store limit => exact h.backfill hu hgood

/-- Links and candidates as the program left them, whatever items there are. -/
def FromOutcomes (env : LinkEnvironment) (t : LinkTables) : Prop :=
  Canonical env.unicode t.links t.candidates

/-- **In every run whose backfills take no link with a variation** links and candidates stay
in order. -/
theorem canonical_of_reachable (hu : env.unicode.Standard) {w : LinkWorld}
    (h : (linkSystem env cfg (FromOutcomes env)).ReachableUnder (TakesPlain env) w) :
    Canonical env.unicode w.tables.links w.tables.candidates ∧ InFlight w ∧ Readings env w := by
  refine h.invariant (P := fun w => Canonical env.unicode w.tables.links w.tables.candidates ∧
    InFlight w ∧ Readings env w) ?_ ?_
  · rintro s ⟨htables, hattempts⟩
    exact ⟨htables, inFlight_of_idle hattempts, readings_of_idle hattempts⟩
  · rintro s a t ⟨hs, hflight, hr⟩ hgood hstep
    have hchange := linkStep_change hstep
    exact ⟨canonical_step hu hs hflight hr hgood hchange, hflight.step hchange, hr.step hchange⟩

/-! ## The condition is exact -/

/-- A link attached to a candidate without a variation. -/
def AttachedPlain (id : Nat) (s : SourceMessageLinkModels × AffiliateCandidates) : Prop :=
  ∃ r cid c, s.1.get? id = some r ∧ r.affiliateCandidateId = some cid ∧
    s.2.get? cid = some c ∧ c.variationKey = []

/-- The backfill attaches every link it takes under the empty variation. -/
theorem attachedPlain_of_backfill {u : PyUnicode} {links links' : SourceMessageLinkModels}
    {candidates candidates' : AffiliateCandidates} {store : Store} {limit : Int} {n : Nat}
    (h : backfillStore u links candidates store limit = .ok (links', candidates', n)) :
    ∀ id ∈ backfilled links store limit, AttachedPlain id (links', candidates') := by
  obtain ⟨-, -, h⟩ := Fallible.bind_eq_ok.1 h
  obtain ⟨⟨links₁, candidates₁⟩, hfold, h⟩ := Fallible.bind_eq_ok.1 h
  obtain ⟨rfl, hpair⟩ := Prod.mk.inj (Except.ok.inj h)
  obtain ⟨rfl, -⟩ := Prod.mk.inj hpair
  have hturn : ∀ id (s s' : SourceMessageLinkModels × AffiliateCandidates),
      ensureForLink u s.1 s.2 id [] = .ok s' → AttachedPlain id s' := by
    intro id s s' hens
    obtain ⟨r, store, externalId, canonical, cid, c, -, -, -, -, -, -, -, hc, hidentity, hr', -⟩ :=
      ensureForLink_cases hens
    exact ⟨_, cid, c, hr', rfl, hc, congrArg ProductIdentity.variationKey hidentity⟩
  refine Fallible.foldlM_each (Q := AttachedPlain) hfold hturn ?_
  rintro id id' s s' ⟨r, cid, c, hr, hcid, hc, hplain⟩ hens
  rcases eq_or_ne id id' with rfl | hne
  · exact hturn id s s' hens
  · obtain ⟨_, _, _, _, _, _, -, -, -, -, -, -, hs', -, -, -, hother⟩ := ensureForLink_cases hens
    refine ⟨r, cid, c, (hother id hne).trans hr, hcid, ?_, hplain⟩
    rw [hs']
    exact get?_ensure hc

/-- **Candidates are coherent as long as the backfill takes no link with a variation**, in
every state of every run, from any database of outcomes.  The condition is exact: a backfill
that goes through leaves them coherent if and only if it meets it. -/
theorem candidates_coherent (hu : env.unicode.Standard) {w : LinkWorld}
    (h : (linkSystem env cfg (FromOutcomes env)).ReachableUnder (TakesPlain env) w) :
    Coherent env.unicode w.tables.links w.tables.candidates ∧
      ∀ store limit links candidates n,
        backfillStore env.unicode w.tables.links w.tables.candidates store limit =
          .ok (links, candidates, n) →
        (Coherent env.unicode links candidates ↔ TakesPlain env w (.backfill store limit)) := by
  obtain ⟨hc, -⟩ := canonical_of_reachable hu h
  refine ⟨hc.coherent hu, fun store limit links candidates n hback => ⟨?_, ?_⟩⟩
  · intro hcoherent id hid r canonical hr hcanonical variation hvariation
    obtain ⟨r', cid, c, hr', hcid, hcand, hplain⟩ := attachedPlain_of_backfill hback id hid
    have hcolumns : (links.get? id).map SourceMessageLinkModel.columns =
        (w.tables.links.get? id).map SourceMessageLinkModel.columns :=
      backfillStore_invariant (P := fun s => (s.1.get? id).map SourceMessageLinkModel.columns =
        (w.tables.links.get? id).map SourceMessageLinkModel.columns) hback rfl
        fun j _ s s' hs hens => (columns_ensureForLink hens id).trans hs
    rw [hr, hr', Option.map_some, Option.map_some, Option.some.injEq] at hcolumns
    obtain ⟨c', hc', hurl⟩ := hcoherent.attached id r' cid hr' hcid
    obtain rfl := Option.some.inj (hcand.symm.trans hc')
    have hsame : canonical = c.canonicalUrl := by
      rw [canonicalUrl_of_columns hcolumns, hcanonical] at hurl
      exact Option.some.inj hurl
    have hread := (hcoherent.keyed cid c hcand).2.2
    rw [← hsame, hvariation, hplain] at hread
    exact Option.some.inj hread
  · intro hgood
    have hbackfill := hc.backfill hu hgood
    unfold LinkTables.backfill at hbackfill
    rw [hback] at hbackfill
    exact hbackfill.coherent hu

/-! ## Rows written before candidates existed -/

/-- A row for Shopee item `1:2`, attached to no candidate. -/
def legacyRow (canonicalUrl : String) : SourceMessageLinkModel where
  sourceMessageId := 1
  ordinal := 0
  sourceKind := .text
  inputUrl := canonicalUrl.toList
  expandedUrl := none
  store := some .shopee
  externalProductId := some "1:2".toList
  canonicalUrl := some canonicalUrl.toList
  reasonCode := some "AFFILIATE_PROVIDER_UNAVAILABLE"
  affiliateCandidateId := none
  inputHash := canonicalUrl.toList
  redirectCount := 0
  state := .pendingAffiliate

/-- One such row, and nothing else. -/
def legacyRelay (canonicalUrl : String) : LinkWorld :=
  ⟨⟨(∅ : SourceMessageLinkModels).put 1 (legacyRow canonicalUrl), ∅, ∅⟩, fun _ => .none⟩

theorem eq_legacyRow {canonicalUrl : String} {id : Nat} {r : SourceMessageLinkModel}
    (hr : (legacyRelay canonicalUrl).tables.links.get? id = some r) : r = legacyRow canonicalUrl := by
  replace hr : ((∅ : SourceMessageLinkModels).put 1 (legacyRow canonicalUrl)).get? id = some r := hr
  rw [get?_put] at hr
  split at hr
  · exact (Option.some.inj hr).symm
  · cases hr

/-- A row of an outcome is where a run may begin. -/
theorem init_legacyRelay {canonicalUrl : String} {v : Text}
    (h : ProductIdentity.IsOutcome asciiLinks.unicode ⟨.shopee, "1:2".toList, v⟩
      canonicalUrl.toList) :
    (linkSystem asciiLinks plainSettings (FromOutcomes asciiLinks)).init
      (legacyRelay canonicalUrl) := by
  refine ⟨⟨?_, ?_, ?_⟩, fun _ => rfl⟩
  · intro id r hr
    obtain rfl := eq_legacyRow hr
    exact Or.inr ⟨by simp [legacyRow], _, rfl, rfl, _, rfl, h⟩
  · exact fun _ _ => nofun
  · intro id r cid hr hcid
    obtain rfl := eq_legacyRow hr
    cases hcid

/-- **A variation is lost**: the backfill attaches a link of variation 5 to a candidate without
a variation. -/
theorem candidates_not_coherent :
    ∃ w, (linkSystem asciiLinks plainSettings (FromOutcomes asciiLinks)).Reachable w ∧
      ¬ Coherent asciiLinks.unicode w.tables.links w.tables.candidates := by
  refine ⟨_, ⟨legacyRelay "https://shopee.com.br/product/1/2?variationid=5",
    init_legacyRelay (v := "variationid:5".toList)
      ⟨"https://shopee.com.br/product/1/2?variationid=5".toList, by decide +kernel⟩,
    (TransitionSystem.RunUnder.refl _).tail (a := .backfill .shopee 10) trivial rfl⟩, ?_⟩
  intro h
  have hcandidate : (((legacyRelay "https://shopee.com.br/product/1/2?variationid=5").tables.backfill
      asciiLinks .shopee 10).candidates.get? 1).map (fun c => (c.canonicalUrl, c.variationKey)) =
        some ("https://shopee.com.br/product/1/2?variationid=5".toList, []) := by
    decide +kernel
  obtain ⟨c, hc, heq⟩ := Option.map_eq_some_iff.1 hcandidate
  obtain ⟨hurl, hkey⟩ := Prod.mk.inj heq
  have hread := (h.keyed 1 c hc).2.2
  rw [hurl, hkey] at hread
  exact absurd hread (by decide +kernel)

/-- A link without a variation is attached as it should be. -/
theorem coherent_plain :
    Coherent asciiLinks.unicode
      ((legacyRelay "https://shopee.com.br/product/1/2").tables.backfill asciiLinks .shopee 10).links
      ((legacyRelay "https://shopee.com.br/product/1/2").tables.backfill asciiLinks .shopee
        10).candidates := by
  have hgood : TakesPlain asciiLinks (legacyRelay "https://shopee.com.br/product/1/2")
      (.backfill .shopee 10) := by
    intro id _ r canonical hr hcanonical variation hvariation
    rw [eq_legacyRow hr] at hcanonical
    obtain rfl := Option.some.inj hcanonical
    have hnone : (canonicalizeStoreUrl asciiLinks.unicode
        "https://shopee.com.br/product/1/2".toList).variationKey = some [] := by decide +kernel
    exact Option.some.inj (hvariation.symm.trans hnone)
  exact (candidates_coherent PyUnicode.ascii_standard
    ⟨legacyRelay "https://shopee.com.br/product/1/2",
      init_legacyRelay (v := []) ⟨"https://shopee.com.br/product/1/2".toList,
        by decide +kernel⟩,
      (TransitionSystem.RunUnder.refl _).tail (a := .backfill .shopee 10) hgood rfl⟩).1

end Relay
end PromoBot
