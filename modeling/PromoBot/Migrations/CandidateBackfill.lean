import PromoBot.Database.SourceMessageLinks
import PromoBot.Stores.Idempotence

/-!
# The backfills of two migrations

Two migrations attach the links which were stored before them to candidates:
`_backfill_existing_shopee_links` of `3d5a7c9e214b`, which creates the table of candidates, and
`_backfill_mercado_livre_candidates` of `9c7e2a4f1b63`.  Both go through the links in a loop, and
each link finds the candidate an earlier one has inserted, or inserts one.

What they look a candidate up by is the store, the product id and the empty variation.  The
addresses of Mercado Livre have no variation, so there this is the identity of the link
(`keptApart_mercadoLivre`).  Those of Shopee have one where they name it, and
`backfills_keptApart_iff` says that products and variations are kept apart exactly where no
link names any.
-/

namespace PromoBot

open SqlTable Fallible Urls AffiliateCandidateRepository

namespace CandidateBackfill

/-! ## The migrations -/

/-- The tables a backfill reads and writes. -/
structure Tables where
  links : SourceMessageLinkModels
  candidates : AffiliateCandidates

/-- What a statement of a backfill raises. -/
inductive Raised
  /-- `MultipleResultsFound`. -/
  | multipleResults
  /-- `NoResultFound`. -/
  | noResult
  deriving DecidableEq

/-- The links of a store that are to be attached. -/
def Eligible (store : Store) (r : SourceMessageLinkModel) : Prop :=
  r.store = some store ∧
    (r.state = .pendingAffiliate ∨ r.reasonCode = some "DUPLICATE_CANONICAL")

instance (store : Store) : DecidablePred (Eligible store) :=
  fun _ => inferInstanceAs (Decidable (_ ∧ _))

/-- The `SELECT` of a candidate, with its `scalar_one_or_none`. -/
def selectCandidate (t : AffiliateCandidates) (store : Store) (externalId : Text) :
    Except Raised (Option Nat) :=
  match t.select fun _ r =>
    r.store = store ∧ r.externalProductId = externalId ∧ r.variationKey = [] with
  | [] => .ok none
  | [e] => .ok (some e.1)
  | _ => .error .multipleResults

/-- The body of the loops, which is the same: the candidate is looked up, or else inserted and
looked up again, and the link is attached to it. -/
def attachRow (store : Store) (t : Tables) (row : Nat × SourceMessageLinkModel) :
    Except Raised Tables := do
  let externalId := row.2.externalProductId.getD []
  let canonicalUrl := row.2.canonicalUrl.getD []
  let existing ← selectCandidate t.candidates store externalId
  match existing with
  | some candidateId =>
    return { t with
      links := t.links.updateWhere (fun j _ => j = row.1)
        (SourceMessageLinkModel.attachedTo candidateId) }
  | none =>
    let candidates := t.candidates.put t.candidates.freshId
      (pendingRow store externalId [] canonicalUrl)
    let inserted ← selectCandidate candidates store externalId
    let candidateId ← orRaise inserted .noResult
    return {
      links := t.links.updateWhere (fun j _ => j = row.1)
        (SourceMessageLinkModel.attachedTo candidateId)
      candidates := candidates }

/-- The clause of `_backfill_existing_shopee_links`. -/
def ShopeeClause (r : SourceMessageLinkModel) : Prop :=
  r.store = some .shopee ∧ r.externalProductId ≠ none ∧ r.canonicalUrl ≠ none ∧
    (r.state = .pendingAffiliate ∨ r.reasonCode = some "DUPLICATE_CANONICAL")

instance : DecidablePred ShopeeClause := fun _ => inferInstanceAs (Decidable (_ ∧ _))

/-- `_backfill_existing_shopee_links`. -/
def backfillExistingShopeeLinks (t : Tables) : Except Raised Tables :=
  (t.links.select fun _ r => ShopeeClause r).foldlM (attachRow .shopee) t

/-- The tables when the backfill of Shopee begins: the column of the candidate is new, and so
is the table of candidates. -/
def withCandidates (links : SourceMessageLinkModels) : Tables where
  links := links.updateWhere (fun _ _ => True) fun r => { r with affiliateCandidateId := none }
  candidates := ∅

/-- The clause of `_backfill_mercado_livre_candidates`. -/
def MercadoLivreClause (r : SourceMessageLinkModel) : Prop :=
  r.store = some .mercadolivre ∧ r.externalProductId ≠ none ∧ r.canonicalUrl ≠ none ∧
    r.affiliateCandidateId = none ∧
    (r.state = .pendingAffiliate ∨ r.reasonCode = some "DUPLICATE_CANONICAL")

instance : DecidablePred MercadoLivreClause := fun _ => inferInstanceAs (Decidable (_ ∧ _))

/-- `_MERCADO_LIVRE_ID`. -/
def mercadoLivreId : Regex := .seq (Regex.literal "MLB".toList) (.many Text.isAsciiDigit 5)

/-- What a link of Mercado Livre is asked for in the loop: its id has the shape of one, and its
address is the one made of it. -/
def Expected (r : SourceMessageLinkModel) : Prop :=
  mercadoLivreId.fullMatches (r.externalProductId.getD []) = true ∧
    r.canonicalUrl.getD [] =
      "https://produto.mercadolivre.com.br/MLB-".toList ++ (r.externalProductId.getD []).drop 3

instance : DecidablePred Expected := fun _ => inferInstanceAs (Decidable (_ ∧ _))

/-- `_backfill_mercado_livre_candidates`. -/
def backfillMercadoLivreCandidates (t : Tables) : Except Raised Tables :=
  (t.links.select fun _ r => MercadoLivreClause r).foldlM
    (fun t row => if Expected row.2 then attachRow .mercadolivre t row else .ok t) t

/-! ## What is asked of a backfill -/

variable (u : PyUnicode)

/-- The store, the id and the address of the links to be attached are ones
`canonicalize_store_url` answered. -/
def Resolved (store : Store) (links : SourceMessageLinkModels) : Prop :=
  ∀ i r, links.get? i = some r → Eligible store r → ∃ identity, r.outcome.ResolvedTo u identity

/-- The tables a backfill may find: the links are resolved, two candidates have different
identities, a candidate has the address of its identity, and a link that is attached is
attached to the candidate of its own. -/
structure Written (store : Store) (t : Tables) : Prop where
  resolved : Resolved u store t.links
  distinct : Distinct t.candidates
  outcome : ∀ c candidate, t.candidates.get? c = some candidate → candidate.store = store →
    candidate.identity.IsOutcome u candidate.canonicalUrl
  attached : ∀ i r c, t.links.get? i = some r → Eligible store r →
    r.affiliateCandidateId = some c →
    ∃ candidate, t.candidates.get? c = some candidate ∧
      r.outcome.ResolvedTo u candidate.identity

/-- **Products and variations are kept apart**: every link to be attached is attached to one
candidate, whose identity and address are what `canonicalize_store_url` answers for the address
of the link; two candidates have different identities; links of different variations have
different candidates; and no other link is touched. -/
structure KeptApart (store : Store) (before after : Tables) : Prop where
  attached : ∀ i r, before.links.get? i = some r → Eligible store r →
    ∃ c candidate canonicalUrl, after.links.get? i = some (r.attachedTo c) ∧
      after.candidates.get? c = some candidate ∧ r.canonicalUrl = some canonicalUrl ∧
      canonicalizeStoreUrl u canonicalUrl =
        ⟨.pendingAffiliate, "AFFILIATE_PROVIDER_UNAVAILABLE", some candidate.store,
          some candidate.externalProductId, some candidate.variationKey,
          some candidate.canonicalUrl⟩
  distinct : Distinct after.candidates
  apart : ∀ i j r s c url url', before.links.get? i = some r → before.links.get? j = some s →
    Eligible store r → Eligible store s → r.canonicalUrl = some url → s.canonicalUrl = some url' →
    after.links.get? i = some (r.attachedTo c) → after.links.get? j = some (s.attachedTo c) →
    (canonicalizeStoreUrl u url).variationKey = (canonicalizeStoreUrl u url').variationKey
  untouched : ∀ i, (∀ r, before.links.get? i = some r → ¬ Eligible store r) →
    after.links.get? i = before.links.get? i

variable {u} {store : Store} {t t' before after : Tables}

/-- Where links are attached to candidates with the answer for their address, links of one
candidate have one variation. -/
theorem apart_of_attached
    (h : ∀ i r, before.links.get? i = some r → Eligible store r →
      ∃ c candidate canonicalUrl, after.links.get? i = some (r.attachedTo c) ∧
        after.candidates.get? c = some candidate ∧ r.canonicalUrl = some canonicalUrl ∧
        canonicalizeStoreUrl u canonicalUrl =
          ⟨.pendingAffiliate, "AFFILIATE_PROVIDER_UNAVAILABLE", some candidate.store,
            some candidate.externalProductId, some candidate.variationKey,
            some candidate.canonicalUrl⟩)
    {i j c : Nat} {r s : SourceMessageLinkModel} {url url' : Text}
    (hr : before.links.get? i = some r) (hs : before.links.get? j = some s)
    (her : Eligible store r) (hes : Eligible store s) (hurl : r.canonicalUrl = some url)
    (hurl' : s.canonicalUrl = some url') (hi : after.links.get? i = some (r.attachedTo c))
    (hj : after.links.get? j = some (s.attachedTo c)) :
    (canonicalizeStoreUrl u url).variationKey = (canonicalizeStoreUrl u url').variationKey := by
  have hcandidate : ∀ {k : Nat} {q : SourceMessageLinkModel} {x : Text},
      before.links.get? k = some q → Eligible store q → q.canonicalUrl = some x →
      after.links.get? k = some (q.attachedTo c) →
      ∃ candidate, after.candidates.get? c = some candidate ∧
        (canonicalizeStoreUrl u x).variationKey = some candidate.variationKey := by
    intro k q x hq heq hx hk
    obtain ⟨c', candidate, x', hk', hc', hx', hresult⟩ := h k q hq heq
    obtain rfl : x' = x := Option.some.inj (hx'.symm.trans hx)
    have hsame := congrArg SourceMessageLinkModel.toSourceMessageLink
      (Option.some.inj (hk.symm.trans hk'))
    obtain rfl : c = c' := Option.some.inj
      (congrArg SourceMessageLink.affiliateCandidateId hsame)
    exact ⟨candidate, hc', by rw [hresult]⟩
  obtain ⟨a, ha, hva⟩ := hcandidate hr her hurl hi
  obtain ⟨b, hb, hvb⟩ := hcandidate hs hes hurl' hj
  obtain rfl := Option.some.inj (ha.symm.trans hb)
  exact hva.trans hvb.symm

/-! ## One turn of a loop -/

/-- A link of a product without a variation. -/
def NamesProduct (u : PyUnicode) (store : Store) (r : SourceMessageLinkModel) : Prop :=
  ∃ externalId canonicalUrl, r.externalProductId = some externalId ∧
    r.canonicalUrl = some canonicalUrl ∧ Urls.IsOutcome u store externalId [] canonicalUrl

/-- What holds of the tables in the middle of a backfill. -/
structure Sound (u : PyUnicode) (store : Store) (t : AffiliateCandidates) : Prop where
  distinct : Distinct t
  outcome : ∀ c candidate, t.get? c = some candidate → candidate.store = store →
    candidate.identity.IsOutcome u candidate.canonicalUrl

theorem Sound.ensure {t : AffiliateCandidates} (h : Sound u store t) {externalId url : Text}
    (hout : Urls.IsOutcome u store externalId [] url) :
    Sound u store (ensure t store externalId [] url) where
  distinct := h.distinct.ensure
  outcome := by
    intro c candidate hc hstore
    rcases of_get?_ensure hc with hc | ⟨rfl, -, -⟩
    · exact h.outcome c candidate hc hstore
    · exact hout

/-- **What a candidate is looked up by is its identity**, where identities are not repeated. -/
theorem selectCandidate_spec (store : Store) (externalId : Text) {t : AffiliateCandidates}
    (ht : Distinct t) :
    selectCandidate t store externalId = .ok none ∧
        (∀ c candidate, t.get? c = some candidate →
          candidate.identity ≠ ⟨store, externalId, []⟩) ∨
      ∃ c candidate, selectCandidate t store externalId = .ok (some c) ∧
        t.get? c = some candidate ∧ candidate.identity = ⟨store, externalId, []⟩ := by
  unfold selectCandidate
  split
  · next hnil =>
    refine .inl ⟨rfl, fun c candidate hc hi => ?_⟩
    obtain ⟨hstore, hid, hvariation⟩ := ProductIdentity.mk.inj hi
    have hmem : (c, candidate) ∈ t.select fun _ r =>
        r.store = store ∧ r.externalProductId = externalId ∧ r.variationKey = [] :=
      mem_select.2 ⟨hc, hstore, hid, hvariation⟩
    rw [hnil] at hmem
    cases hmem
  · next e he =>
    have hmem := he ▸ List.mem_singleton_self e
    obtain ⟨hget, hstore, hid, hvariation⟩ := mem_select.1 hmem
    refine .inr ⟨e.1, e.2, rfl, hget, ?_⟩
    rw [AffiliateCandidate.identity, hstore, hid, hvariation]
  · next hnil hone =>
    exfalso
    have hnodup := nodup_keys_select t fun _ r =>
      r.store = store ∧ r.externalProductId = externalId ∧ r.variationKey = []
    generalize hselect : (t.select fun _ r =>
      r.store = store ∧ r.externalProductId = externalId ∧ r.variationKey = []) = l at *
    obtain - | ⟨a, - | ⟨b, l⟩⟩ := l
    · exact hnil rfl
    · exact hone a rfl
    · have ha : a ∈ t.select _ := hselect ▸ List.mem_cons_self
      have hb : b ∈ t.select _ := hselect ▸ List.mem_cons_of_mem a List.mem_cons_self
      obtain ⟨hga, hsa, hia, hva⟩ := mem_select.1 ha
      obtain ⟨hgb, hsb, hib, hvb⟩ := mem_select.1 hb
      have hsame : a.1 = b.1 := ht a.1 b.1 a.2 b.2 hga hgb (by
        rw [AffiliateCandidate.identity, AffiliateCandidate.identity, hsa, hia, hva, hsb, hib,
          hvb])
      rw [List.map_cons, List.map_cons, List.nodup_cons] at hnodup
      exact hnodup.1 (hsame ▸ List.mem_cons_self)

/-- **One turn of a loop**: the candidate of the product is there afterwards, and the link is
attached to it. -/
theorem attachRow_spec (ht : Sound u store t.candidates) {row : Nat × SourceMessageLinkModel}
    {externalId url : Text} (hid : row.2.externalProductId = some externalId)
    (hurl : row.2.canonicalUrl = some url) (hout : Urls.IsOutcome u store externalId [] url) :
    ∃ t' c candidate, attachRow store t row = .ok t' ∧
      t'.candidates = ensure t.candidates store externalId [] url ∧
      t'.candidates.get? c = some candidate ∧ candidate.identity = ⟨store, externalId, []⟩ ∧
      t'.links = t.links.updateWhere (fun j _ => j = row.1)
        (SourceMessageLinkModel.attachedTo c) := by
  unfold attachRow
  rw [hid, hurl]
  dsimp only [Option.getD_some]
  obtain ⟨hnone, hno⟩ | ⟨c, candidate, hsome, hc, hi⟩ :=
    selectCandidate_spec store externalId ht.distinct
  · have hensure : ensure t.candidates store externalId [] url =
        t.candidates.put t.candidates.freshId (pendingRow store externalId [] url) := by
      refine if_pos (List.isEmpty_iff.2 (List.eq_nil_iff_forall_not_mem.2 ?_))
      rintro ⟨c, candidate⟩ hmem
      obtain ⟨hc, hstore, hexternal, hvariation⟩ := mem_select.1 hmem
      refine hno c candidate hc ?_
      rw [AffiliateCandidate.identity, hstore, hexternal, hvariation]
    have hsound := (ht.ensure hout).distinct
    rw [hensure] at hsound
    obtain ⟨-, habsent⟩ | ⟨c, candidate, hsome, hc, hi⟩ :=
      selectCandidate_spec store externalId hsound
    · exact absurd rfl (habsent _ _ (get?_put_self _ _ _))
    · refine ⟨⟨t.links.updateWhere (fun j _ => j = row.1)
        (SourceMessageLinkModel.attachedTo c), _⟩, c, candidate, ?_, hensure.symm, hc, hi, rfl⟩
      rw [hnone]
      show (selectCandidate _ store externalId >>= _) = _
      rw [hsome]
      rfl
  · have hensure : ensure t.candidates store externalId [] url = t.candidates := by
      refine if_neg fun hempty => ?_
      obtain ⟨hstore, hexternal, hvariation⟩ := ProductIdentity.mk.inj hi
      have hmem : (c, candidate) ∈ t.candidates.select fun _ r => r.store = store ∧
          r.externalProductId = externalId ∧ r.variationKey = [] :=
        mem_select.2 ⟨hc, hstore, hexternal, hvariation⟩
      rw [List.isEmpty_iff.1 hempty] at hmem
      cases hmem
    refine ⟨⟨t.links.updateWhere (fun j _ => j = row.1)
      (SourceMessageLinkModel.attachedTo c), t.candidates⟩, c, candidate, ?_, hensure.symm, hc, hi,
      rfl⟩
    rw [hsome]
    rfl

/-! ## The loops -/

/-- **A loop over links of products without variations**: it comes to its end, every link is
attached to the candidate of its product, and the other links are as they were. -/
theorem foldlM_attachRow {step : Tables → Nat × SourceMessageLinkModel → Except Raised Tables}
    {rows : List (Nat × SourceMessageLinkModel)} (ht : Sound u store t.candidates)
    (hstep : ∀ t, ∀ row ∈ rows, step t row = attachRow store t row)
    (hrows : ∀ row ∈ rows, NamesProduct u store row.2) (hnodup : (rows.map Prod.fst).Nodup) :
    ∃ t', rows.foldlM step t = .ok t' ∧ Sound u store t'.candidates ∧
      (∀ c candidate, t.candidates.get? c = some candidate →
        t'.candidates.get? c = some candidate) ∧
      (∀ row ∈ rows, ∃ c candidate externalId, row.2.externalProductId = some externalId ∧
        t'.candidates.get? c = some candidate ∧ candidate.identity = ⟨store, externalId, []⟩ ∧
        t'.links.get? row.1 = (t.links.get? row.1).map (SourceMessageLinkModel.attachedTo c)) ∧
      ∀ i, i ∉ rows.map Prod.fst → t'.links.get? i = t.links.get? i := by
  induction rows generalizing t with
  | nil =>
    exact ⟨t, rfl, ht, fun _ _ h => h, fun row hrow => absurd hrow List.not_mem_nil,
      fun _ _ => rfl⟩
  | cons row rows ih =>
    obtain ⟨hrow, hrows⟩ := List.forall_mem_cons.1 hrows
    rw [List.map_cons, List.nodup_cons] at hnodup
    obtain ⟨externalId, url, hid, hurl, hout⟩ := hrow
    obtain ⟨t₁, c, candidate, hattach, hcandidates, hc, hidentity, hlinks⟩ :=
      attachRow_spec ht hid hurl hout
    have ht₁ : Sound u store t₁.candidates := hcandidates ▸ ht.ensure hout
    obtain ⟨t', hloop, hsound, hgrow, hattached, hother⟩ :=
      ih ht₁ (fun t r hr => hstep t r (List.mem_cons_of_mem row hr)) hrows hnodup.2
    have hget : ∀ j, t₁.links.get? j =
        (t.links.get? j).map fun r => if j = row.1 then r.attachedTo c else r := by
      intro j
      rw [hlinks]
      exact get?_updateWhere t.links _ _ j
    have hsame : ∀ j, j ≠ row.1 → t₁.links.get? j = t.links.get? j := by
      intro j hj
      rw [hget]
      simp [hj]
    refine ⟨t', ?_, hsound, fun d candidate' hd => ?_, ?_, fun i hi => ?_⟩
    · rw [List.foldlM_cons, hstep t row List.mem_cons_self, hattach]
      exact hloop
    · refine hgrow d candidate' ?_
      rw [hcandidates]
      exact get?_ensure hd
    · intro r hr
      rcases List.mem_cons.1 hr with heq | hr
      · subst heq
        refine ⟨c, candidate, externalId, hid, hgrow c candidate hc, hidentity, ?_⟩
        rw [hother _ hnodup.1, hget]
        simp
      · obtain ⟨d, candidate', externalId', hid', hd, hidentity', hlink⟩ := hattached r hr
        refine ⟨d, candidate', externalId', hid', hd, hidentity', ?_⟩
        have hne : r.1 ≠ row.1 := fun heq => hnodup.1 (heq ▸ List.mem_map_of_mem hr)
        rw [hlink, hsame _ hne]
    · rw [List.map_cons, List.mem_cons, not_or] at hi
      rw [hother i hi.2, hsame i hi.1]

/-- A link that is resolved and a candidate of its identity: the candidate has what
`canonicalize_store_url` answers for the address of the link. -/
theorem canonicalize_of_identity (hu : u.ReadsBack) {candidate : AffiliateCandidate}
    {url : Text} (hout : candidate.identity.IsOutcome u url)
    (hcandidate : candidate.identity.IsOutcome u candidate.canonicalUrl) :
    canonicalizeStoreUrl u url =
      ⟨.pendingAffiliate, "AFFILIATE_PROVIDER_UNAVAILABLE", some candidate.store,
        some candidate.externalProductId, some candidate.variationKey,
        some candidate.canonicalUrl⟩ := by
  have hsame : url = candidate.canonicalUrl :=
    (Urls.IsOutcome.canonical_eq hout).trans (Urls.IsOutcome.canonical_eq hcandidate).symm
  rw [← hsame]
  exact Urls.IsOutcome.canonicalize hu hout

/-- **A backfill whose links are of products without variations keeps products apart**, if what
its clause leaves out is attached already. -/
theorem exists_keptApart (hu : u.ReadsBack) (ht : Written u store t)
    (clause : SourceMessageLinkModel → Prop) [DecidablePred clause]
    {step : Tables → Nat × SourceMessageLinkModel → Except Raised Tables}
    (hclause : ∀ r, clause r → Eligible store r)
    (hleft : ∀ r, Eligible store r → NamesProduct u store r → ¬ clause r →
      ∃ c, r.affiliateCandidateId = some c)
    (hproduct : ∀ i r, t.links.get? i = some r → Eligible store r → NamesProduct u store r)
    (hstep : ∀ t row, NamesProduct u store row.2 → step t row = attachRow store t row) :
    ∃ after, (t.links.select fun _ r => clause r).foldlM step t = .ok after ∧
      KeptApart u store t after := by
  have hnames : ∀ row ∈ t.links.select (fun _ r => clause r), NamesProduct u store row.2 := by
    intro row hrow
    obtain ⟨hget, hc⟩ := mem_select.1 hrow
    exact hproduct row.1 row.2 hget (hclause _ hc)
  obtain ⟨after, hloop, hsound, hgrow, hattached, hother⟩ :=
    foldlM_attachRow ⟨ht.distinct, ht.outcome⟩
      (fun t row hrow => hstep t row (hnames row hrow)) hnames (nodup_keys_select _ _)
  have hnot : ∀ i, (∀ r, t.links.get? i = some r → ¬ clause r) →
      after.links.get? i = t.links.get? i := by
    intro i hi
    refine hother i fun hmem => ?_
    obtain ⟨⟨j, r⟩, hrow, rfl⟩ := List.mem_map.1 hmem
    obtain ⟨hget, hc⟩ := mem_select.1 hrow
    exact hi r hget hc
  have hall : ∀ i r, t.links.get? i = some r → Eligible store r →
      ∃ c candidate canonicalUrl, after.links.get? i = some (r.attachedTo c) ∧
        after.candidates.get? c = some candidate ∧ r.canonicalUrl = some canonicalUrl ∧
        canonicalizeStoreUrl u canonicalUrl =
          ⟨.pendingAffiliate, "AFFILIATE_PROVIDER_UNAVAILABLE", some candidate.store,
            some candidate.externalProductId, some candidate.variationKey,
            some candidate.canonicalUrl⟩ := by
    intro i r hr helig
    by_cases hc : clause r
    · obtain ⟨externalId, url, hid, hurl, hout⟩ := hproduct i r hr helig
      obtain ⟨c, candidate, externalId', hid', hcandidate, hidentity, hlink⟩ :=
        hattached (i, r) (mem_select.2 ⟨hr, hc⟩)
      obtain rfl : externalId' = externalId := Option.some.inj (hid'.symm.trans hid)
      refine ⟨c, candidate, url, by rw [hlink, hr, Option.map_some], hcandidate, hurl, ?_⟩
      have hstore : candidate.store = store := congrArg ProductIdentity.store hidentity
      refine canonicalize_of_identity hu ?_ (hsound.outcome c candidate hcandidate hstore)
      rw [hidentity]
      exact hout
    · obtain ⟨c, hcandidate⟩ := hleft r helig (hproduct i r hr helig) hc
      obtain ⟨candidate, hget, hstore, -, url, hurl, hout⟩ := ht.attached i r c hr helig hcandidate
      refine ⟨c, candidate, url, ?_, hgrow c candidate hget, hurl, ?_⟩
      · rw [hnot i fun s hs hcs => hc (Option.some.inj (hs.symm.trans hr) ▸ hcs), hr,
          SourceMessageLinkModel.attachedTo, ← hcandidate]
      · have hsame : candidate.store = store :=
          (Option.some.inj (helig.1.symm.trans hstore)).symm
        exact canonicalize_of_identity hu hout (ht.outcome c candidate hget hsame)
  refine ⟨after, hloop, ?_⟩
  exact
    { attached := hall
      distinct := hsound.distinct
      apart := fun i j r s c url url' => apart_of_attached hall
      untouched := fun i hi => hnot i fun r hr hc => hi r hr (hclause r hc) }

/-! ## Mercado Livre -/

theorem fullMatches_mercadoLivreId {n : Text} (hn : IsNumber 5 n) :
    mercadoLivreId.fullMatches ("MLB".toList ++ n) = true := by
  have hmatch : mercadoLivreId.match? ("MLB".toList ++ n) =
      some ⟨"MLB".toList ++ n, [], []⟩ :=
    Regex.match?_seq_literal "MLB".toList (Regex.match?_many_all hn.1 hn.2)
  have hmem := Regex.match?_eq_some hmatch
  exact List.any_eq_true.2 ⟨_, hmem, rfl⟩

theorem productUrl_mercadoLivre (externalId : Text) :
    productUrl .mercadolivre externalId =
      "https://produto.mercadolivre.com.br/MLB-".toList ++ externalId.drop 3 := by
  have hword : "https://produto.mercadolivre.com.br/MLB-".toList = "https:".toList ++
      "//".toList ++ "produto.mercadolivre.com.br".toList ++ '/' :: "MLB-".toList := by decide
  show "https:".toList ++ "//".toList ++ "produto.mercadolivre.com.br".toList ++
    '/' :: ("MLB-".toList ++ externalId.drop 3) = _
  rw [hword]
  simp only [List.append_assoc, List.cons_append]

theorem expected_of_namesProduct (hu : u.ReadsBack) {r : SourceMessageLinkModel}
    (h : NamesProduct u .mercadolivre r) : Expected r := by
  obtain ⟨externalId, url, hid, hurl, hout⟩ := h
  obtain ⟨parts, hproduct, -, hcanonical⟩ := hout.exists_product
  obtain ⟨n, hn, rfl⟩ := isExternalId_of_product u hu hproduct
  unfold Expected
  rw [hid, hurl, Option.getD_some, Option.getD_some]
  refine ⟨fullMatches_mercadoLivreId hn, ?_⟩
  rw [hcanonical, ← productUrl_mercadoLivre]
  rfl

theorem exists_outcome_of_resolved {links : SourceMessageLinkModels}
    (h : Resolved u store links) {i : Nat} {r : SourceMessageLinkModel}
    (hr : links.get? i = some r) (helig : Eligible store r) :
    ∃ externalId variation url, r.externalProductId = some externalId ∧
      r.canonicalUrl = some url ∧ Urls.IsOutcome u store externalId variation url := by
  obtain ⟨identity, hstore, hid, url, hurl, hout⟩ := h i r hr helig
  obtain rfl : store = identity.store := Option.some.inj (helig.1.symm.trans hstore)
  exact ⟨_, _, url, hid, hurl, hout⟩

/-- **The backfill of Mercado Livre keeps products apart.** -/
theorem keptApart_mercadoLivre (hu : u.ReadsBack) (ht : Written u .mercadolivre t) :
    ∃ after, backfillMercadoLivreCandidates t = .ok after ∧
      KeptApart u .mercadolivre t after := by
  refine exists_keptApart hu ht MercadoLivreClause
    (fun r h => ⟨h.1, h.2.2.2.2⟩) ?_ ?_ ?_
  · rintro r helig ⟨externalId, url, hid, hurl, -⟩ hclause
    cases hcandidate : r.affiliateCandidateId with
    | some c => exact ⟨c, rfl⟩
    | none =>
      refine absurd ⟨helig.1, ?_, ?_, hcandidate, helig.2⟩ hclause
      · simp [hid]
      · simp [hurl]
  · intro i r hr helig
    obtain ⟨externalId, variation, url, hid, hurl, hout⟩ :=
      exists_outcome_of_resolved ht.resolved hr helig
    obtain ⟨parts, -, hvariation, -⟩ := hout.exists_product
    have hstore : Store.mercadolivre ≠ .shopee ∧ Store.mercadolivre ≠ .aliexpress := by decide
    obtain rfl := variation_eq_nil u hstore hvariation
    exact ⟨externalId, url, hid, hurl, hout⟩
  · intro t row hrow
    exact if_pos (expected_of_namesProduct hu hrow)

/-! ## Shopee -/

theorem get?_withCandidates {links : SourceMessageLinkModels} {i : Nat}
    {r : SourceMessageLinkModel} (h : (withCandidates links).links.get? i = some r) :
    r.affiliateCandidateId = none ∧ ∃ s, links.get? i = some s ∧
      r = { s with affiliateCandidateId := none } := by
  rw [withCandidates, get?_updateWhere] at h
  obtain ⟨s, hs, hr⟩ := Option.map_eq_some_iff.1 h
  rw [if_pos trivial] at hr
  exact ⟨hr ▸ rfl, s, hs, hr.symm⟩

theorem get?_candidates_withCandidates (links : SourceMessageLinkModels) (c : Nat) :
    (withCandidates links).candidates.get? c = none := get?_empty c

/-- The tables the backfill of Shopee finds. -/
theorem written_withCandidates {links : SourceMessageLinkModels}
    (h : Resolved u .shopee links) : Written u .shopee (withCandidates links) where
  resolved := by
    intro i r hr helig
    obtain ⟨-, s, hs, rfl⟩ := get?_withCandidates hr
    exact h i s hs helig
  distinct := by
    intro j k a b ha
    rw [get?_candidates_withCandidates] at ha
    cases ha
  outcome := by
    intro c candidate hc
    rw [get?_candidates_withCandidates] at hc
    cases hc
  attached := by
    intro i r c hr _ hc
    rw [(get?_withCandidates hr).1] at hc
    cases hc

/-- Every candidate the backfill of Shopee inserts is one without a variation. -/
theorem variationKey_of_backfill {links : SourceMessageLinkModels}
    (h : backfillExistingShopeeLinks (withCandidates links) = .ok after) {c : Nat}
    {candidate : AffiliateCandidate} (hc : after.candidates.get? c = some candidate) :
    candidate.variationKey = [] := by
  have hnone : ∀ c candidate, (withCandidates links).candidates.get? c = some candidate →
      candidate.variationKey = [] := by
    intro c candidate hc
    rw [get?_candidates_withCandidates] at hc
    cases hc
  have hinvariant := foldlM_invariant
    (P := fun t : Tables => ∀ c candidate, t.candidates.get? c = some candidate →
      candidate.variationKey = []) h hnone ?_
  · exact hinvariant c candidate hc
  · intro row _ t t' ht hstep
    unfold attachRow at hstep
    obtain ⟨existing, -, hstep⟩ := bind_eq_ok.1 hstep
    cases existing with
    | some d =>
      obtain rfl := Except.ok.inj hstep
      exact ht
    | none =>
      obtain ⟨inserted, -, hstep⟩ := bind_eq_ok.1 hstep
      obtain ⟨d, -, hstep⟩ := bind_eq_ok.1 hstep
      obtain rfl := Except.ok.inj hstep
      intro e candidate he
      replace he : (t.candidates.put _ _).get? e = some candidate := he
      rw [get?_put] at he
      split at he
      · obtain rfl := Option.some.inj he
        rfl
      · exact ht e candidate he

/-- **The backfill of Shopee keeps products and variations apart exactly where no link to be
attached names a variation.** -/
theorem keptApart_shopee_iff (hu : u.ReadsBack) {links : SourceMessageLinkModels}
    (hlinks : Resolved u .shopee links) :
    (∃ after, backfillExistingShopeeLinks (withCandidates links) = .ok after ∧
      KeptApart u .shopee (withCandidates links) after) ↔
    ∀ i r url, links.get? i = some r → Eligible .shopee r → r.canonicalUrl = some url →
      (canonicalizeStoreUrl u url).variationKey = some [] := by
  constructor
  · rintro ⟨after, hafter, hkept⟩ i r url hr helig hurl
    have hwith : (withCandidates links).links.get? i =
        some { r with affiliateCandidateId := none } := by
      rw [withCandidates, get?_updateWhere, hr, Option.map_some, if_pos trivial]
    obtain ⟨c, candidate, url', -, hcandidate, hurl', hresult⟩ := hkept.attached i _ hwith helig
    obtain rfl : url' = url := Option.some.inj (hurl'.symm.trans hurl)
    rw [hresult, ← variationKey_of_backfill hafter hcandidate]
  · intro hnone
    refine exists_keptApart hu (written_withCandidates hlinks) ShopeeClause
      (fun r h => ⟨h.1, h.2.2.2⟩) ?_ ?_ fun _ _ _ => rfl
    · rintro r helig ⟨externalId, url, hid, hurl, -⟩ hclause
      refine absurd ⟨helig.1, ?_, ?_, helig.2⟩ hclause
      · simp [hid]
      · simp [hurl]
    · intro i r hr helig
      obtain ⟨-, s, hs, rfl⟩ := get?_withCandidates hr
      obtain ⟨externalId, variation, url, hid, hurl, hout⟩ :=
        exists_outcome_of_resolved hlinks hs helig
      have hvariation := hnone i s url hs helig hurl
      rw [Urls.IsOutcome.canonicalize hu hout] at hvariation
      obtain rfl : variation = [] := Option.some.inj hvariation
      exact ⟨externalId, url, hid, hurl, hout⟩

/-- **The two backfills keep products and variations apart exactly where no link of Shopee to
be attached names a variation.** -/
theorem backfills_keptApart_iff (hu : u.ReadsBack) {links : SourceMessageLinkModels}
    (hlinks : Resolved u .shopee links) (ht : Written u .mercadolivre t) :
    ((∃ after, backfillExistingShopeeLinks (withCandidates links) = .ok after ∧
        KeptApart u .shopee (withCandidates links) after) ∧
      ∃ after, backfillMercadoLivreCandidates t = .ok after ∧
        KeptApart u .mercadolivre t after) ↔
    ∀ i r url, links.get? i = some r → Eligible .shopee r → r.canonicalUrl = some url →
      (canonicalizeStoreUrl u url).variationKey = some [] := by
  rw [← keptApart_shopee_iff hu hlinks]
  exact ⟨fun h => h.1, fun h => ⟨h, keptApart_mercadoLivre hu ht⟩⟩

/-! ## Two links of one product -/

namespace OneProduct

/-- Unicode as far as these addresses need it. -/
def unicode : PyUnicode := { PyUnicode.ascii with upper := fun t => t.map Text.upperLetter }

/-- The address of the product, with what is asked of it. -/
def address (query : String) : Text := "https://shopee.com.br/product/10/20".toList ++ query.toList

/-- A link to it, as the relay leaves it. -/
def link (ordinal : Nat) (query : String) : SourceMessageLinkModel where
  sourceMessageId := 1
  ordinal := ordinal
  sourceKind := .text
  inputUrl := address query
  expandedUrl := none
  store := some .shopee
  externalProductId := some "10:20".toList
  canonicalUrl := some (address query)
  reasonCode := some "AFFILIATE_PROVIDER_UNAVAILABLE"
  affiliateCandidateId := none
  inputHash := []
  redirectCount := 0
  state := .pendingAffiliate

/-- Two links to it. -/
def links (query query' : String) : SourceMessageLinkModels :=
  ((∅ : SourceMessageLinkModels).put 1 (link 0 query)).put 2 (link 1 query')

/-- The address of a product of Mercado Livre. -/
def meliAddress : Text := "https://produto.mercadolivre.com.br/MLB-12345678".toList

def meliLink (ordinal : Nat) (candidate : Option Nat) : SourceMessageLinkModel :=
  { link ordinal "" with
    inputUrl := meliAddress
    store := some .mercadolivre
    externalProductId := some "MLB12345678".toList
    canonicalUrl := some meliAddress
    affiliateCandidateId := candidate }

/-- Two links to it, the first attached to the candidate of the product and the second still to
be attached. -/
def meliTables : Tables where
  links := ((∅ : SourceMessageLinkModels).put 1 (meliLink 0 (some 1))).put 2 (meliLink 1 none)
  candidates := (∅ : AffiliateCandidates).put 1
    (pendingRow .mercadolivre "MLB12345678".toList [] meliAddress)

theorem get?_links {query query' : String} {i : Nat} {r : SourceMessageLinkModel}
    (h : (links query query').get? i = some r) : r = link 0 query ∨ r = link 1 query' := by
  rw [links, get?_put, get?_put, get?_empty] at h
  split at h
  · exact .inr (Option.some.inj h).symm
  · split at h
    · exact .inl (Option.some.inj h).symm
    · cases h

theorem get?_withCandidates_links (query query' : String) :
    (withCandidates (links query query')).links.get? 1 = some (link 0 query) ∧
      (withCandidates (links query query')).links.get? 2 = some (link 1 query') := by
  have hget : ∀ i, (withCandidates (links query query')).links.get? i =
      ((links query query').get? i).map fun r => { r with affiliateCandidateId := none } := by
    intro i
    rw [withCandidates, get?_updateWhere]
    simp
  rw [hget, hget]
  exact ⟨rfl, rfl⟩

theorem resolved_links {query query' : String} {identity identity' : ProductIdentity}
    (h : (link 0 query).outcome.ResolvedTo unicode identity)
    (h' : (link 1 query').outcome.ResolvedTo unicode identity') :
    Resolved unicode .shopee (links query query') := by
  intro i r hr _
  rcases get?_links hr with rfl | rfl
  · exact ⟨identity, h⟩
  · exact ⟨identity', h'⟩

theorem resolvedTo_meliLink (ordinal : Nat) (candidate : Option Nat) :
    (meliLink ordinal candidate).outcome.ResolvedTo unicode
      ⟨.mercadolivre, "MLB12345678".toList, []⟩ :=
  ⟨rfl, rfl, meliAddress, rfl, meliAddress, by decide +kernel⟩

theorem get?_meliTables_links {i : Nat} {r : SourceMessageLinkModel}
    (h : meliTables.links.get? i = some r) : r = meliLink 0 (some 1) ∨ r = meliLink 1 none := by
  rw [meliTables, get?_put, get?_put, get?_empty] at h
  split at h
  · exact .inr (Option.some.inj h).symm
  · split at h
    · exact .inl (Option.some.inj h).symm
    · cases h

theorem get?_meliTables_candidates {c : Nat} {candidate : AffiliateCandidate}
    (h : meliTables.candidates.get? c = some candidate) :
    c = 1 ∧ candidate = pendingRow .mercadolivre "MLB12345678".toList [] meliAddress := by
  rw [meliTables, get?_put, get?_empty] at h
  split at h
  · exact ⟨‹c = 1›, (Option.some.inj h).symm⟩
  · cases h

theorem written_meliTables : Written unicode .mercadolivre meliTables where
  resolved := by
    intro i r hr _
    rcases get?_meliTables_links hr with rfl | rfl
    · exact ⟨_, resolvedTo_meliLink 0 (some 1)⟩
    · exact ⟨_, resolvedTo_meliLink 1 none⟩
  distinct := by
    intro j k a b ha hb _
    exact (get?_meliTables_candidates ha).1.trans (get?_meliTables_candidates hb).1.symm
  outcome := by
    intro c candidate hc _
    obtain ⟨-, rfl⟩ := get?_meliTables_candidates hc
    exact ⟨meliAddress, by decide +kernel⟩
  attached := by
    intro i r c hr _ hc
    rcases get?_meliTables_links hr with rfl | rfl
    · obtain rfl := Option.some.inj hc
      exact ⟨_, rfl, resolvedTo_meliLink 0 (some 1)⟩
    · cases hc

end OneProduct

open OneProduct

/-- Two links without variations end up at one candidate, as they should, and so do the links
of Mercado Livre. -/
theorem backfills_keptApart_plain :
    (∃ after, backfillExistingShopeeLinks (withCandidates (links "" "")) = .ok after ∧
        KeptApart unicode .shopee (withCandidates (links "" "")) after) ∧
      ∃ after, backfillMercadoLivreCandidates meliTables = .ok after ∧
        KeptApart unicode .mercadolivre meliTables after := by
  have houtcome : ∀ ordinal, (link ordinal "").outcome.ResolvedTo unicode
      ⟨.shopee, "10:20".toList, []⟩ := fun ordinal =>
    ⟨rfl, rfl, address "", rfl, address "", by decide +kernel⟩
  refine (backfills_keptApart_iff readsBack_ascii (resolved_links (houtcome 0) (houtcome 1))
    written_meliTables).2 fun i r url hr _ hurl => ?_
  have haddress : (canonicalizeStoreUrl unicode (address "")).variationKey = some [] := by
    decide +kernel
  rcases get?_links hr with rfl | rfl
  · obtain rfl := Option.some.inj hurl
    exact haddress
  · obtain rfl := Option.some.inj hurl
    exact haddress

/-- **Links of two variations end up at one candidate**, which has no variation. -/
theorem not_backfills_keptApart :
    Resolved unicode .shopee (links "?variationid=77" "?variationid=78") ∧
      Written unicode .mercadolivre meliTables ∧
      ¬ ((∃ after, backfillExistingShopeeLinks
            (withCandidates (links "?variationid=77" "?variationid=78")) = .ok after ∧
          KeptApart unicode .shopee
            (withCandidates (links "?variationid=77" "?variationid=78")) after) ∧
        ∃ after, backfillMercadoLivreCandidates meliTables = .ok after ∧
          KeptApart unicode .mercadolivre meliTables after) := by
  have hresolved : (link 0 "?variationid=77").outcome.ResolvedTo unicode
      ⟨.shopee, "10:20".toList, "variationid:77".toList⟩ :=
    ⟨rfl, rfl, address "?variationid=77", rfl, address "?variationid=77", by decide +kernel⟩
  have hresolved' : (link 1 "?variationid=78").outcome.ResolvedTo unicode
      ⟨.shopee, "10:20".toList, "variationid:78".toList⟩ :=
    ⟨rfl, rfl, address "?variationid=78", rfl, address "?variationid=78", by decide +kernel⟩
  refine ⟨resolved_links hresolved hresolved', written_meliTables, ?_⟩
  rintro ⟨⟨after, hafter, hkept⟩, -⟩
  have hattached : (backfillExistingShopeeLinks
      (withCandidates (links "?variationid=77" "?variationid=78"))).toOption.map
        (fun t => (t.links.get? 1, t.links.get? 2)) =
      some (some ((link 0 "?variationid=77").attachedTo 1),
        some ((link 1 "?variationid=78").attachedTo 1)) := by
    decide +kernel
  have hdifferent : (canonicalizeStoreUrl unicode (address "?variationid=77")).variationKey ≠
      (canonicalizeStoreUrl unicode (address "?variationid=78")).variationKey := by
    decide +kernel
  rw [hafter] at hattached
  obtain ⟨hfirst, hsecond⟩ := Prod.mk.inj (Option.some.inj hattached)
  have heligible : ∀ ordinal query, Eligible .shopee (link ordinal query) :=
    fun _ _ => ⟨rfl, .inl rfl⟩
  obtain ⟨hlink, hlink'⟩ := get?_withCandidates_links "?variationid=77" "?variationid=78"
  exact hdifferent (hkept.apart 1 2 _ _ 1 _ _ hlink hlink' (heligible 0 _) (heligible 1 _) rfl rfl
    hfirst hsecond)

end CandidateBackfill

end PromoBot
