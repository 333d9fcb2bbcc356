import PromoBot.Database.Candidates
import PromoBot.Lib.Fallible
import PromoBot.Relay.Models
import PromoBot.Stores.Canonical

/-!
# The links of the messages, and what they are attached to

Three repositories of `database/repositories.py` which the relay writes in one
transaction: `SourceMessageLinkRepository`, `ProcessedItemRepository`, and the
part of `AffiliateCandidateRepository` which attaches links to candidates.

An id, once given, stays: no statement deletes a row of these tables.
-/

namespace PromoBot

open SqlTable Fallible

/-- A row of `source_message_links` (`SourceMessageLinkModel`), as the conversion of a
message reads it. -/
structure SourceMessageLink where
  sourceMessageId : Nat
  ordinal : Nat
  sourceKind : LinkSource
  inputUrl : Text
  expandedUrl : Option Text
  store : Option Store
  externalProductId : Option Text
  canonicalUrl : Option Text
  reasonCode : Option String
  affiliateCandidateId : Option Nat
  deriving DecidableEq

/-- The `source_message_links` table. -/
abbrev SourceMessageLinks := SqlTable Nat SourceMessageLink

/-- The whole row, as the relay writes it. -/
structure SourceMessageLinkModel extends SourceMessageLink where
  inputHash : Text
  redirectCount : Nat
  state : RelayLinkState
  deriving DecidableEq

/-- The `source_message_links` table, with all its columns. -/
abbrev SourceMessageLinkModels := SqlTable Nat SourceMessageLinkModel

/-- A row of `processed_items` (`ProcessedItemModel`). -/
structure ProcessedItem where
  store : Store
  externalProductId : Text
  variationKey : Text
  dealHash : Text
  deriving DecidableEq

/-- The `processed_items` table. -/
abbrev ProcessedItems := SqlTable Nat ProcessedItem

/-- What one product in one variation is known by. -/
structure ProductIdentity where
  store : Store
  externalProductId : Text
  variationKey : Text
  deriving DecidableEq

/-- The key of an item. -/
def ProcessedItem.identity (r : ProcessedItem) : ProductIdentity :=
  ⟨r.store, r.externalProductId, r.variationKey⟩

/-- The key of a candidate. -/
def AffiliateCandidate.identity (r : AffiliateCandidate) : ProductIdentity :=
  ⟨r.store, r.externalProductId, r.variationKey⟩

/-- `canonicalize_store_url` answers this identity with this canonical address, for some
address. -/
def ProductIdentity.IsOutcome (u : PyUnicode) (i : ProductIdentity) (canonicalUrl : Text) : Prop :=
  Urls.IsOutcome u i.store i.externalProductId i.variationKey canonicalUrl

/-! ## `SourceMessageLinkRepository` -/

/-- What `set_outcome` writes. -/
structure LinkOutcome where
  state : RelayLinkState
  reasonCode : String
  expandedUrl : Option Text := none
  redirectCount : Nat := 0
  store : Option Store := none
  externalProductId : Option Text := none
  canonicalUrl : Option Text := none
  deriving DecidableEq

/-- The columns `set_outcome` writes. -/
structure OutcomeColumns where
  state : RelayLinkState
  reasonCode : Option String
  expandedUrl : Option Text
  redirectCount : Nat
  store : Option Store
  externalProductId : Option Text
  canonicalUrl : Option Text
  deriving DecidableEq

/-- An outcome names the identity that was answered for some address. -/
def OutcomeColumns.ResolvedTo (u : PyUnicode) (o : OutcomeColumns) (i : ProductIdentity) : Prop :=
  o.store = some i.store ∧ o.externalProductId = some i.externalProductId ∧
    ∃ canonicalUrl, o.canonicalUrl = some canonicalUrl ∧ i.IsOutcome u canonicalUrl

/-- **An outcome names one identity.** -/
theorem OutcomeColumns.ResolvedTo.unique {u : PyUnicode} (hu : u.Standard) {o : OutcomeColumns}
    {i j : ProductIdentity} (hi : o.ResolvedTo u i) (hj : o.ResolvedTo u j) : i = j := by
  obtain ⟨hstore, hid, canonical, hcanonical, hout⟩ := hi
  obtain ⟨hstore', hid', canonical', hcanonical', hout'⟩ := hj
  cases i with
  | mk store externalId variation =>
    cases j with
    | mk store' externalId' variation' =>
      obtain rfl := Option.some.inj (hstore.symm.trans hstore')
      obtain rfl := Option.some.inj (hid.symm.trans hid')
      obtain rfl := Option.some.inj (hcanonical.symm.trans hcanonical')
      obtain rfl := Urls.IsOutcome.variation_unique hu hout hout'
      rfl

/-- The columns an outcome is written to. -/
def LinkOutcome.columns (o : LinkOutcome) : OutcomeColumns :=
  ⟨o.state, some o.reasonCode, o.expandedUrl, o.redirectCount, o.store, o.externalProductId,
    o.canonicalUrl⟩

namespace SourceMessageLinkModel

/-- The outcome a row carries. -/
def outcome (r : SourceMessageLinkModel) : OutcomeColumns :=
  ⟨r.state, r.reasonCode, r.expandedUrl, r.redirectCount, r.store, r.externalProductId,
    r.canonicalUrl⟩

/-- What no attaching changes: the message of a row, and its outcome. -/
def columns (r : SourceMessageLinkModel) : Nat × OutcomeColumns := (r.sourceMessageId, r.outcome)

/-- The row with an outcome. -/
def withOutcome (o : LinkOutcome) (r : SourceMessageLinkModel) : SourceMessageLinkModel :=
  { r with
    state := o.state
    reasonCode := some o.reasonCode
    expandedUrl := o.expandedUrl
    redirectCount := o.redirectCount
    store := o.store
    externalProductId := o.externalProductId
    canonicalUrl := o.canonicalUrl }

/-- The row attached to a candidate. -/
def attachedTo (candidateId : Nat) (r : SourceMessageLinkModel) : SourceMessageLinkModel :=
  { r with affiliateCandidateId := some candidateId }

@[simp] theorem withOutcome_outcome (o : LinkOutcome) (r : SourceMessageLinkModel) :
    (r.withOutcome o).outcome = o.columns := rfl

@[simp] theorem attachedTo_outcome (candidateId : Nat) (r : SourceMessageLinkModel) :
    (r.attachedTo candidateId).outcome = r.outcome := rfl

@[simp] theorem attachedTo_sourceMessageId (candidateId : Nat) (r : SourceMessageLinkModel) :
    (r.attachedTo candidateId).sourceMessageId = r.sourceMessageId := rfl

end SourceMessageLinkModel

namespace SourceMessageLinkRepository

/-- The row `record_received` inserts. -/
def receivedRow (sourceMessageId : Nat) (link : ExtractedLink) (inputHash : Text) :
    SourceMessageLinkModel where
  sourceMessageId := sourceMessageId
  ordinal := link.ordinal
  sourceKind := link.source
  inputUrl := link.url
  expandedUrl := none
  store := none
  externalProductId := none
  canonicalUrl := none
  reasonCode := none
  affiliateCandidateId := none
  inputHash := inputHash
  redirectCount := 0
  state := .received

/-- `record_received`: the table, and the row of this message and hash. -/
def recordReceived (t : SourceMessageLinkModels) (sourceMessageId : Nat) (link : ExtractedLink)
    (inputHash : Text) : SourceMessageLinkModels × Nat × SourceMessageLinkModel :=
  match (t.select fun _ r => r.sourceMessageId = sourceMessageId ∧ r.inputHash = inputHash).head?
  with
  | some row => (t, row)
  | none =>
    (t.put t.freshId (receivedRow sourceMessageId link inputHash), t.freshId,
      receivedRow sourceMessageId link inputHash)

/-- `set_outcome`. -/
def setOutcome (t : SourceMessageLinkModels) (internalId : Nat) (o : LinkOutcome) :
    SourceMessageLinkModels :=
  t.updateWhere (fun j _ => j = internalId) (SourceMessageLinkModel.withOutcome o)

/-- **What `record_received` does**: the row is there already, or it is put in. -/
theorem recordReceived_cases {t t' : SourceMessageLinkModels} {m id : Nat} {link : ExtractedLink}
    {hash : Text} {r : SourceMessageLinkModel} (h : recordReceived t m link hash = (t', id, r)) :
    r.sourceMessageId = m ∧ t'.get? id = some r ∧
      (t' = t ∨ id = t.freshId ∧ r = receivedRow m link hash ∧ t' = t.put id r) := by
  unfold recordReceived at h
  split at h
  · next row hrow =>
    obtain ⟨rfl, rfl⟩ := Prod.mk.inj h
    obtain ⟨hget, hm, -⟩ := mem_select.1 (List.mem_of_mem_head? hrow)
    exact ⟨hm, hget, Or.inl rfl⟩
  · obtain ⟨rfl, hrow⟩ := Prod.mk.inj h
    obtain ⟨rfl, rfl⟩ := Prod.mk.inj hrow
    exact ⟨rfl, get?_put_self _ _ _, Or.inr ⟨rfl, rfl, rfl⟩⟩

theorem get?_setOutcome (t : SourceMessageLinkModels) (id : Nat) (o : LinkOutcome) (j : Nat) :
    (setOutcome t id o).get? j =
      (t.get? j).map fun r => if j = id then r.withOutcome o else r :=
  get?_updateWhere t _ _ j

end SourceMessageLinkRepository

/-! ## `ProcessedItemRepository` -/

namespace ProcessedItemRepository

/-- `find`. -/
def find (t : ProcessedItems) (i : ProductIdentity) : Option (Nat × ProcessedItem) :=
  (t.select fun _ r => r.identity = i).head?

/-- `record`. -/
def record (t : ProcessedItems) (i : ProductIdentity) (dealHash : Text) : ProcessedItems :=
  match find t i with
  | some (id, _) => t.updateWhere (fun j _ => j = id) fun r => { r with dealHash := dealHash }
  | none => t.put t.freshId ⟨i.store, i.externalProductId, i.variationKey, dealHash⟩

theorem find_eq_some {t : ProcessedItems} {i : ProductIdentity} {id : Nat} {r : ProcessedItem}
    (h : find t i = some (id, r)) : t.get? id = some r ∧ r.identity = i :=
  mem_select.1 (List.mem_of_mem_head? h)

theorem find_ne_none {t : ProcessedItems} {i : ProductIdentity} {id : Nat} {r : ProcessedItem}
    (hr : t.get? id = some r) (hi : r.identity = i) : find t i ≠ none := by
  intro h
  have hmem : (id, r) ∈ t.select fun _ r => r.identity = i := mem_select.2 ⟨hr, hi⟩
  rw [List.head?_eq_none_iff.1 h] at hmem
  cases hmem

/-- What is recorded is of an identity that was there, unless it is new. -/
theorem of_get?_record {t : ProcessedItems} {i : ProductIdentity} {dealHash : Text} {k : Nat}
    {item : ProcessedItem} (h : (record t i dealHash).get? k = some item) :
    (∃ old, t.get? k = some old ∧ old.identity = item.identity) ∨
      (find t i = none ∧ k = t.freshId ∧ item.identity = i) := by
  unfold record at h
  split at h
  · rw [get?_updateWhere] at h
    obtain ⟨old, hold, rfl⟩ := Option.map_eq_some_iff.1 h
    refine Or.inl ⟨old, hold, ?_⟩
    split
    · rfl
    · rfl
  · next hnone =>
    rw [get?_put] at h
    split at h
    · next hk =>
      obtain rfl := Option.some.inj h
      exact Or.inr ⟨hnone, hk, rfl⟩
    · exact Or.inl ⟨item, h, rfl⟩

theorem get?_record {t : ProcessedItems} {k : Nat} {item : ProcessedItem}
    (h : t.get? k = some item) (i : ProductIdentity) (dealHash : Text) :
    ∃ item', (record t i dealHash).get? k = some item' ∧ item'.identity = item.identity := by
  unfold record
  split
  · rw [get?_updateWhere, h, Option.map_some]
    refine ⟨_, rfl, ?_⟩
    split
    · rfl
    · rfl
  · exact ⟨item, (get?_put_ne _ _ (lt_freshId_of_get? h).ne).trans h, rfl⟩

theorem exists_get?_record (t : ProcessedItems) (i : ProductIdentity) (dealHash : Text) :
    ∃ k item, (record t i dealHash).get? k = some item ∧ item.identity = i := by
  cases hfind : find t i with
  | none =>
    refine ⟨t.freshId, ⟨i.store, i.externalProductId, i.variationKey, dealHash⟩, ?_, rfl⟩
    rw [record, hfind]
    exact get?_put_self _ _ _
  | some e =>
    obtain ⟨hget, hidentity⟩ := find_eq_some hfind
    obtain ⟨item, hitem, hsame⟩ := get?_record hget i dealHash
    exact ⟨e.1, item, hitem, hsame.trans hidentity⟩

end ProcessedItemRepository

/-! ## `AffiliateCandidateRepository` -/

namespace AffiliateCandidateRepository

open Urls

variable (u : PyUnicode)

/-- `find`. -/
def find (t : AffiliateCandidates) (i : ProductIdentity) : Option (Nat × AffiliateCandidate) :=
  (t.select fun _ r => r.identity = i).head?

def candidateStores : List Store := [.shopee, .mercadolivre, .aliexpress]

/-- The texts of the errors `ensure_for_link` raises for a wrong identity. -/
def identityError : Store → String
  | .shopee => "Shopee source link requires a shop_id:item_id identity"
  | .mercadolivre => "Mercado Livre source link requires a canonical MLB identity"
  | _ => "AliExpress source link requires a canonical numeric product ID"

/-- The checks of `ensure_for_link`: the store, the product id and the canonical address of
an eligible link. -/
def eligible (link : Option SourceMessageLinkModel) : Except String (Store × Text × Text) := do
  let link ← orRaise link "source link is not an eligible affiliate candidate"
  let store ← orRaise link.store "source link is not an eligible affiliate candidate"
  let externalId ← orRaise (link.externalProductId.filter (· ≠ []))
    "source link is not an eligible affiliate candidate"
  let canonicalUrl ← orRaise (link.canonicalUrl.filter (· ≠ []))
    "source link is not an eligible affiliate candidate"
  check (store ∈ candidateStores) "source link store is not enabled for affiliate candidates"
  check ((canonicalizeStoreUrl u canonicalUrl).store = some store ∧
      (canonicalizeStoreUrl u canonicalUrl).externalProductId = some externalId)
    (identityError store)
  check (store = .shopee → ':' ∈ externalId) (identityError store)
  check (store = .aliexpress → isDigits u externalId = true) (identityError store)
  return (store, externalId, canonicalUrl)

/-- The end of `ensure_for_link`: the link points to the candidate. -/
def attach (links : SourceMessageLinkModels) (linkId candidateId : Nat)
    (attached : Option Nat) : Except String SourceMessageLinkModels :=
  match attached with
  | none =>
    .ok (links.updateWhere (fun j _ => j = linkId)
      (SourceMessageLinkModel.attachedTo candidateId))
  | some other =>
    if other = candidateId then .ok links
    else .error "source link is already attached to another candidate"

/-- `ensure_for_link`: both tables after it. -/
def ensureForLink (links : SourceMessageLinkModels) (candidates : AffiliateCandidates)
    (linkId : Nat) (variationKey : Text) :
    Except String (SourceMessageLinkModels × AffiliateCandidates) := do
  let (store, externalId, canonicalUrl) ← eligible u (links.get? linkId)
  let candidates := ensure candidates store externalId variationKey canonicalUrl
  let (candidateId, _) ← orRaise (find candidates ⟨store, externalId, variationKey⟩)
    "affiliate candidate insert could not be read back"
  let links ← attach links linkId candidateId
    ((links.get? linkId).bind fun r => r.affiliateCandidateId)
  return (links, candidates)

/-- `identity_filter` of `backfill_store`. -/
def IdentityFilter (store : Store) (externalId : Text) : Prop :=
  match store with
  | .shopee => ':' ∈ externalId
  | .mercadolivre => (externalId.take 3).map Char.toLower = "mlb".toList
  | _ => externalId ≠ [] ∧ ∀ c ∈ externalId, Text.isAsciiDigit c = true

instance (store : Store) (externalId : Text) : Decidable (IdentityFilter store externalId) := by
  unfold IdentityFilter
  split
  · exact inferInstanceAs (Decidable (_ ∈ _))
  · exact inferInstanceAs (Decidable (_ = _))
  · exact inferInstanceAs (Decidable (_ ∧ _))

/-- The `WHERE` clause of `backfill_store`. -/
def Backfillable (store : Store) (r : SourceMessageLinkModel) : Prop :=
  r.affiliateCandidateId = none ∧ r.store = some store ∧
    (∃ externalId ∈ r.externalProductId, IdentityFilter store externalId) ∧
    r.canonicalUrl ≠ none ∧
    (r.state = .pendingAffiliate ∨ r.reasonCode = some "DUPLICATE_CANONICAL")

instance (store : Store) : DecidablePred (Backfillable store) :=
  fun _ => inferInstanceAs (Decidable (_ ∧ _))

/-- The links a `backfill_store` takes: in the order of their ids, at most `limit` of them;
a negative limit is none. -/
def backfilled (links : SourceMessageLinkModels) (store : Store) (limit : Int) : List Nat :=
  let ids := ((links.select fun _ r => Backfillable store r).map Prod.fst).insertionSort (· ≤ ·)
  if limit < 0 then ids else ids.take limit.toNat

/-- `backfill_store`: both tables, and how many links it took. -/
def backfillStore (links : SourceMessageLinkModels) (candidates : AffiliateCandidates)
    (store : Store) (limit : Int) :
    Except String (SourceMessageLinkModels × AffiliateCandidates × Nat) := do
  check (store ∈ candidateStores) "candidate backfill is not enabled for this store"
  let (links', candidates) ← (backfilled links store limit).foldlM
    (fun tables linkId => ensureForLink u tables.1 tables.2 linkId []) (links, candidates)
  return (links', candidates, (backfilled links store limit).length)

/-! ## What attaching a link does -/

variable {u} {t : AffiliateCandidates} {store : Store} {externalId variation canonical : Text}

theorem get?_ensure {cid : Nat} {c : AffiliateCandidate} (h : t.get? cid = some c) :
    (ensure t store externalId variation canonical).get? cid = some c := by
  unfold ensure
  split
  · rw [get?_put_ne t _ (lt_freshId_of_get? h).ne, h]
  · exact h

/-- A row is there already, or it is put in and is the only one of its identity. -/
theorem of_get?_ensure {cid : Nat} {c : AffiliateCandidate}
    (h : (ensure t store externalId variation canonical).get? cid = some c) :
    t.get? cid = some c ∨ c = pendingRow store externalId variation canonical ∧
      cid = t.freshId ∧ ∀ j d, t.get? j = some d → d.identity ≠ ⟨store, externalId, variation⟩ := by
  unfold ensure at h
  split at h
  · next hnone =>
    rw [get?_put] at h
    split at h
    · next hcid =>
      refine Or.inr ⟨(Option.some.inj h).symm, hcid, fun j d hd hi => ?_⟩
      obtain ⟨hstore, hid, hvariation⟩ := ProductIdentity.mk.inj hi
      have hmem : (j, d) ∈ t.select fun _ r => r.store = store ∧
          r.externalProductId = externalId ∧ r.variationKey = variation :=
        mem_select.2 ⟨hd, hstore, hid, hvariation⟩
      rw [List.isEmpty_iff.1 hnone] at hmem
      cases hmem
    · exact Or.inl h
  · exact Or.inl h

theorem eligible_eq_ok {link : Option SourceMessageLinkModel}
    (h : eligible u link = .ok (store, externalId, canonical)) :
    ∃ r, link = some r ∧ r.store = some store ∧ r.externalProductId = some externalId ∧
      r.canonicalUrl = some canonical ∧ (canonicalizeStoreUrl u canonical).store = some store ∧
      (canonicalizeStoreUrl u canonical).externalProductId = some externalId := by
  obtain ⟨r, hr, h⟩ := bind_eq_ok.1 h
  obtain ⟨s, hs, h⟩ := bind_eq_ok.1 h
  obtain ⟨e, he, h⟩ := bind_eq_ok.1 h
  obtain ⟨c, hc, h⟩ := bind_eq_ok.1 h
  obtain ⟨-, -, h⟩ := bind_eq_ok.1 h
  obtain ⟨_, hidentity, h⟩ := bind_eq_ok.1 h
  obtain ⟨-, -, h⟩ := bind_eq_ok.1 h
  obtain ⟨-, -, h⟩ := bind_eq_ok.1 h
  obtain ⟨rfl, hpair⟩ := Prod.mk.inj (Except.ok.inj h)
  obtain ⟨rfl, rfl⟩ := Prod.mk.inj hpair
  rw [orRaise_eq_ok] at hr hs he hc
  rw [check_eq_ok] at hidentity
  exact ⟨r, hr, hs, (Option.filter_eq_some_iff.1 he).1, (Option.filter_eq_some_iff.1 hc).1,
    hidentity⟩

/-- **What attaching a link does**: the candidate of its identity is there afterwards, and
the link points to it, now or already. -/
theorem ensureForLink_cases {links links' : SourceMessageLinkModels} {t' : AffiliateCandidates}
    {linkId : Nat} (h : ensureForLink u links t linkId variation = .ok (links', t')) :
    ∃ r store externalId canonical cid c, links.get? linkId = some r ∧ r.store = some store ∧
      r.externalProductId = some externalId ∧ r.canonicalUrl = some canonical ∧
      (canonicalizeStoreUrl u canonical).store = some store ∧
      (canonicalizeStoreUrl u canonical).externalProductId = some externalId ∧
      t' = ensure t store externalId variation canonical ∧
      t'.get? cid = some c ∧ c.identity = ⟨store, externalId, variation⟩ ∧
      links'.get? linkId = some (r.attachedTo cid) ∧
      ∀ j, j ≠ linkId → links'.get? j = links.get? j := by
  obtain ⟨⟨store, externalId, canonical⟩, helig, h⟩ := bind_eq_ok.1 h
  obtain ⟨r, hr, hstore, hid, hcanonical, hstore', hid'⟩ := eligible_eq_ok helig
  obtain ⟨⟨cid, c⟩, hfind, h⟩ := bind_eq_ok.1 h
  obtain ⟨links₁, hattach, h⟩ := bind_eq_ok.1 h
  obtain ⟨rfl, rfl⟩ := Prod.mk.inj (Except.ok.inj h)
  rw [orRaise_eq_ok] at hfind
  obtain ⟨hc, hidentity⟩ := mem_select.1 (List.mem_of_mem_head? hfind)
  refine ⟨r, store, externalId, canonical, cid, c, hr, hstore, hid, hcanonical, hstore', hid', rfl,
    hc, hidentity, ?_⟩
  rw [hr, Option.bind_some] at hattach
  unfold attach at hattach
  split at hattach
  · obtain rfl := Except.ok.inj hattach
    constructor
    · rw [get?_updateWhere, hr, Option.map_some, if_pos rfl]
    · intro j hj
      rw [get?_updateWhere]
      simp [hj]
  · next other hother =>
    split at hattach
    · next heq =>
      obtain rfl := Except.ok.inj hattach
      refine ⟨?_, fun _ _ => rfl⟩
      rw [hr, SourceMessageLinkModel.attachedTo, ← heq, ← hother]
    · cases hattach

theorem columns_ensureForLink {links links' : SourceMessageLinkModels} {t' : AffiliateCandidates}
    {linkId : Nat} (h : ensureForLink u links t linkId variation = .ok (links', t')) (j : Nat) :
    (links'.get? j).map SourceMessageLinkModel.columns =
      (links.get? j).map SourceMessageLinkModel.columns := by
  obtain ⟨r, store, externalId, canonical, cid, c, hr, -, -, -, -, -, -, -, -, hr', hother⟩ :=
    ensureForLink_cases h
  rcases eq_or_ne j linkId with rfl | hj
  · rw [hr, hr']
    rfl
  · rw [hother j hj]

/-- No two candidates have one identity. -/
def Distinct (t : AffiliateCandidates) : Prop :=
  ∀ j k a b, t.get? j = some a → t.get? k = some b → a.identity = b.identity → j = k

theorem Distinct.ensure (h : Distinct t) :
    Distinct (ensure t store externalId variation canonical) := by
  intro j k a b ha hb hab
  rcases of_get?_ensure ha with ha | ⟨rfl, rfl, hnone⟩
  · rcases of_get?_ensure hb with hb | ⟨rfl, rfl, hnone⟩
    · exact h j k a b ha hb hab
    · exact absurd hab (hnone j a ha)
  · rcases of_get?_ensure hb with hb | ⟨rfl, rfl, -⟩
    · exact absurd hab.symm (hnone k b hb)
    · rfl

theorem Distinct.ensureForLink {links links' : SourceMessageLinkModels} {t' : AffiliateCandidates}
    {linkId : Nat} (ht : Distinct t)
    (h : ensureForLink u links t linkId variation = .ok (links', t')) : Distinct t' := by
  obtain ⟨r, store, externalId, canonical, cid, c, -, -, -, -, -, -, rfl, -⟩ :=
    ensureForLink_cases h
  exact ht.ensure

theorem backfillStore_invariant {P : SourceMessageLinkModels × AffiliateCandidates → Prop}
    {links links' : SourceMessageLinkModels} {t' : AffiliateCandidates} {limit : Int} {n : Nat}
    (h : backfillStore u links t store limit = .ok (links', t', n)) (hP : P (links, t))
    (hstep : ∀ id ∈ backfilled links store limit, ∀ s s', P s →
      ensureForLink u s.1 s.2 id [] = .ok s' → P s') : P (links', t') := by
  obtain ⟨-, -, h⟩ := bind_eq_ok.1 h
  obtain ⟨⟨links₁, t₁⟩, hfold, h⟩ := bind_eq_ok.1 h
  obtain ⟨rfl, hpair⟩ := Prod.mk.inj (Except.ok.inj h)
  obtain ⟨rfl, -⟩ := Prod.mk.inj hpair
  exact foldlM_invariant hfold hP hstep

end AffiliateCandidateRepository
end PromoBot
