import PromoBot.Database.SkuRefinements

/-!
# What the methods of the refinement repository do

One lemma for each method, on all that it can have done when it returns, as far as the
accounts of a run, its evidence and its claims go.  The proofs about whole runs use these
lemmas alone.
-/

namespace PromoBot
namespace SkuRefinementRepository

open Discovery Fallible SqlTable

variable {columns : NumericType} {db db' : SkuDb}

/-! ## Rows that are kept -/

/-- A run keeps its counters and limits, and once it has ended, all of its row. -/
structure SkuKept (run run' : SkuRun) : Prop where
  apiCallCount : run'.apiCallCount = run.apiCallCount
  refinedCount : run'.refinedCount = run.refinedCount
  snapshotCount : run'.snapshotCount = run.snapshotCount
  maxRefinedProducts : run'.maxRefinedProducts = run.maxRefinedProducts
  maxSkuApiCalls : run'.maxSkuApiCalls = run.maxSkuApiCalls
  frozen : run.state ≠ .running → run' = run

theorem SkuKept.refl (run : SkuRun) : SkuKept run run := ⟨rfl, rfl, rfl, rfl, rfl, fun _ => rfl⟩

theorem SkuKept.trans {a b c : SkuRun} (h : SkuKept a b) (h' : SkuKept b c) : SkuKept a c where
  apiCallCount := h'.apiCallCount.trans h.apiCallCount
  refinedCount := h'.refinedCount.trans h.refinedCount
  snapshotCount := h'.snapshotCount.trans h.snapshotCount
  maxRefinedProducts := h'.maxRefinedProducts.trans h.maxRefinedProducts
  maxSkuApiCalls := h'.maxSkuApiCalls.trans h.maxSkuApiCalls
  frozen := by
    intro hended
    obtain rfl := h.frozen hended
    exact h'.frozen hended

theorem skuKept_end {run : SkuRun} (h : run.state = .running) (state : DiscoveryRunState)
    (now : Instant) (stopReason : String) (errorCode : Option String) :
    SkuKept run (endSkuRun state now stopReason errorCode run) :=
  ⟨rfl, rfl, rfl, rfl, rfl, fun hended => absurd h hended⟩

def SkuItem.evidence (item : SkuItem) : DiscoveryOrigin × SkuMatchState × Option Text :=
  (item.origin, item.state, item.selectedSkuId)

/-- How many rows a run has in a table. -/
def ownRows {κ ρ : Type} (t : SqlTable (Nat × κ) ρ) (runId : Nat) : Nat :=
  (t.select fun key _ => key.1 = runId).length

section OwnRows

variable {κ ρ : Type} [DecidableEq κ] (t : SqlTable (Nat × κ) ρ) {key : Nat × κ}

theorem ownRows_put (r : ρ) (h : t.get? key = none) (id : Nat) :
    ownRows (t.put key r) id = ownRows t id + if key.1 = id then 1 else 0 :=
  length_select_put t _ r h

theorem ownRows_put_of_get? {r r' : ρ} (h : t.get? key = some r') (id : Nat) :
    ownRows (t.put key r) id = ownRows t id :=
  length_select_put_of_get? t _ h Iff.rfl

theorem ownRows_eq_zero {id : Nat} (h : ∀ key, (t.get? key).isSome → key.1 ≠ id) :
    ownRows t id = 0 := by
  unfold ownRows
  rw [List.length_eq_zero_iff, List.eq_nil_iff_forall_not_mem]
  rintro ⟨key, r⟩ hmem
  obtain ⟨hr, hid⟩ := mem_select.1 hmem
  exact h key (by rw [hr]; rfl) hid

end OwnRows

/-! ## New runs -/

theorem get?_createSkuRun (db : SkuDb) (q : NewSkuRun) (id : Nat) :
    (createSkuRun db q).1.runs.get? id =
      if id = (createSkuRun db q).2 then some (q.row db.nextToken) else db.runs.get? id :=
  get?_put _ _ _ _

theorem ne_createSkuRun_snd {q : NewSkuRun} {id : Nat} {run : SkuRun}
    (h : db.runs.get? id = some run) : id ≠ (createSkuRun db q).2 := by
  rintro rfl
  rw [show db.runs.get? (createSkuRun db q).2 = none from get?_freshId _] at h
  cases h

/-! ## The end of a run -/

/-- `finish_run` ends a running run, and does nothing else. -/
theorem finishSkuRun_eq_ok {runId : Nat} {state : DiscoveryRunState} {now : Instant}
    {stopReason : String} {errorCode : Option String}
    (h : finishSkuRun db runId state now stopReason errorCode = .ok db') :
    state ≠ .running ∧
      ∃ runs, db.runs.updateOne runId (fun run => run.state = .running)
        (endSkuRun state now stopReason errorCode) = some runs ∧ db' = { db with runs := runs } := by
  unfold finishSkuRun at h
  obtain ⟨⟨⟩, hstate, h⟩ := bind_eq_ok.1 h
  obtain ⟨runs, hruns, h⟩ := bind_eq_ok.1 h
  exact ⟨check_eq_ok.1 hstate, runs, orRaise_eq_ok.1 hruns, (Except.ok.inj h).symm⟩

/-- All that ending a run does to the runs. -/
structure SkuEnded (db : SkuDb) (runId : Nat) (db' : SkuDb) : Prop where
  active : ∃ run, db.runs.get? runId = some run ∧ run.state = .running
  ended : ∃ run', db'.runs.get? runId = some run' ∧ run'.state ≠ .running
  runs : RowsRel (fun _ => SkuKept) db.runs db'.runs

theorem skuEnded_of_finishSkuRun {runId : Nat} {state : DiscoveryRunState} {now : Instant}
    {stopReason : String} {errorCode : Option String}
    (h : finishSkuRun db runId state now stopReason errorCode = .ok db') :
    SkuEnded db runId db' := by
  obtain ⟨hstate, runs, hruns, rfl⟩ := finishSkuRun_eq_ok h
  obtain ⟨⟨run, hrun, hactive, hrun'⟩, -⟩ := get?_of_updateOne hruns
  exact ⟨⟨run, hrun, hactive⟩, ⟨_, hrun', hstate⟩,
    rowsRel_updateOne hruns (fun _ run => .refl run) fun _ _ hactive => skuKept_end hactive ..⟩

/-! ## Claims -/

/-- All that the first statements of `claim_sku` do, and counting a cache hit with them. -/
structure SkuRenewed (db : SkuDb) (q : SkuClaimRequest) (db' : SkuDb) : Prop where
  active : ∃ run, db.runs.get? q.runId = some run ∧ run.state = .running
  runs : RowsRel (fun _ => SkuKept) db.runs db'.runs
  stays : ∃ run', db'.runs.get? q.runId = some run' ∧ run'.state = .running
  claims : ∀ fingerprint claim, db'.claims.get? fingerprint = some claim →
    db.claims.get? fingerprint = some claim
  cache : ∀ fingerprint cached, db'.cache.get? fingerprint = some cached →
    db.cache.get? fingerprint = some cached ∧ q.now < cached.expiresAt
  items : db'.items = db.items
  snapshots : db'.snapshots = db.snapshots
  nextToken : db'.nextToken = db.nextToken

theorem skuRenewed_of_renewSkuLease {q : SkuClaimRequest} (h : renewSkuLease db q = .ok db') :
    SkuRenewed db q db' := by
  unfold renewSkuLease at h
  obtain ⟨runs, hruns, h⟩ := bind_eq_ok.1 h
  obtain rfl := Except.ok.inj h
  have hruns := orRaise_eq_ok.1 hruns
  obtain ⟨⟨run, hrun, hstate, hrun'⟩, -⟩ := get?_of_updateOne hruns
  -- The sweep passes over the run of the claim.
  have hself : db.runs.get? q.runId = some run := by
    rw [get?_updateWhere] at hrun
    obtain ⟨run₀, hrun₀, heq⟩ := Option.map_eq_some_iff.1 hrun
    rw [if_neg fun hlapsed => hlapsed.2.1 rfl] at heq
    exact heq ▸ hrun₀
  refine ⟨⟨run, hself, hstate⟩, ?_, ⟨_, hrun', hstate⟩, ?_, ?_, rfl, rfl, rfl⟩
  · refine (rowsRel_updateWhere (R := fun _ => SkuKept) db.runs _ _ (fun _ run => .refl run)
      fun _ _ _ hlapsed => skuKept_end hlapsed.1 ..).trans
        (rowsRel_updateOne (R := fun _ => SkuKept) hruns (fun _ run => .refl run) ?_)
        fun _ _ _ _ => SkuKept.trans
    exact fun _ _ hactive => ⟨rfl, rfl, rfl, rfl, rfl, fun hended => absurd hactive hended⟩
  · intro fingerprint claim hclaim
    rw [get?_deleteWhere, Option.filter_eq_some_iff] at hclaim
    exact hclaim.1
  · intro fingerprint cached hcached
    rw [get?_deleteWhere, Option.filter_eq_some_iff] at hcached
    exact ⟨hcached.1, by simpa using hcached.2⟩

/-- All that granting a call does. -/
structure SkuCalled (db : SkuDb) (q : SkuClaimRequest) (db' : SkuDb) : Prop where
  free : db.claims.get? q.fingerprint = none
  budget : ∃ run, db.runs.get? q.runId = some run ∧ run.state = .running ∧
    run.apiCallCount < run.maxSkuApiCalls
  runs : db'.runs = db.runs.updateWhere (fun id _ => id = q.runId) fun run =>
    { run with apiCallCount := run.apiCallCount + 1 }
  claims : db'.claims = db.claims.put q.fingerprint
    ⟨q.runId, q.productId, db.nextToken, q.now, q.leaseUntil⟩
  nextToken : db'.nextToken = db.nextToken + 1
  cache : db'.cache = db.cache
  items : db'.items = db.items
  snapshots : db'.snapshots = db.snapshots

/-- A cached page answers a claim: the run that claims is running, and the page is of the product
and has not expired. -/
def Answers (db : SkuDb) (q : SkuClaimRequest) (cached : SkuCache) : Prop :=
  IsSkuFingerprint q.fingerprint ∧ (∃ run ∈ db.runs.get? q.runId, run.state = .running) ∧
    q.now < cached.expiresAt ∧ cached.productId = q.productId

instance (db : SkuDb) (q : SkuClaimRequest) : DecidablePred (Answers db q) :=
  fun _ => inferInstanceAs (Decidable (_ ∧ _ ∧ _ ∧ _))

/-- What `claim_sku` can have done: the lease is renewed, and then either a cached page of
the product is answered, or the product is in progress, or a call is granted. -/
inductive SkuClaimEffect (columns : NumericType) (db : SkuDb) (q : SkuClaimRequest) :
    SkuDb → SkuQueryClaim → Prop
  | cache (db' : SkuDb) (cached : SkuCache) : SkuRenewed db q db' →
      db.cache.get? q.fingerprint = some cached → Answers db q cached →
      SkuClaimEffect columns db q db' (.cache (SkuCache.page columns cached q.productId))
  | inProgress (db' : SkuDb) : SkuRenewed db q db' → SkuClaimEffect columns db q db' .inProgress
  | call (db₁ db₂ : SkuDb) : SkuRenewed db q db₁ → SkuCalled db₁ q db₂ →
      SkuClaimEffect columns db q db₂ (.call db₁.nextToken)

theorem claimSkuCall_eq_ok {q : SkuClaimRequest} {claim : SkuQueryClaim}
    (h : claimSkuCall db q = .ok (db', claim)) :
    (db' = db ∧ claim = .inProgress) ∨ (SkuCalled db q db' ∧ claim = .call db.nextToken) := by
  unfold claimSkuCall at h
  split at h
  · obtain ⟨rfl, rfl⟩ := Prod.mk.inj (Except.ok.inj h)
    exact .inl ⟨rfl, rfl⟩
  · next hfree =>
    obtain ⟨runs, hruns, h⟩ := bind_eq_ok.1 h
    obtain ⟨rfl, rfl⟩ := Prod.mk.inj (Except.ok.inj h)
    obtain ⟨run, hrun, ⟨hstate, hlt⟩, rfl⟩ := updateOne_eq_some.1 (orRaise_eq_ok.1 hruns)
    refine .inr ⟨⟨?_, ⟨run, hrun, hstate, hlt⟩, rfl, rfl, rfl, rfl, rfl, rfl⟩, rfl⟩
    simpa using hfree

/-- Counting a cache hit, after the lease was renewed. -/
theorem SkuRenewed.cacheHit {q : SkuClaimRequest} (h : SkuRenewed db q db') :
    SkuRenewed db q { db' with
      runs := db'.runs.updateWhere (fun id _ => id = q.runId) fun run =>
        { run with cacheHitCount := run.cacheHitCount + 1 } } where
  active := h.active
  runs := by
    intro id
    rw [get?_updateWhere]
    cases hrun : db.runs.get? id with
    | none =>
      cases hrun' : db'.runs.get? id with
      | none => exact .none
      | some run' =>
        obtain ⟨run, hrun₀, -⟩ := h.runs.of_get?' hrun'
        rw [hrun] at hrun₀
        cases hrun₀
    | some run =>
      obtain ⟨run', hrun', hkept⟩ := h.runs.of_get? hrun
      rw [hrun']
      refine .some ?_
      dsimp only
      by_cases hid : id = q.runId
      · subst hid
        obtain ⟨run₀, hrun₀, hactive⟩ := h.active
        obtain rfl := Option.some.inj (hrun.symm.trans hrun₀)
        rw [if_pos rfl]
        exact ⟨hkept.1, hkept.2, hkept.3, hkept.4, hkept.5, fun hended => absurd hactive hended⟩
      · rw [if_neg hid]
        exact hkept
  stays := by
    obtain ⟨run, hrun, hstate⟩ := h.stays
    refine ⟨{ run with cacheHitCount := run.cacheHitCount + 1 }, ?_, hstate⟩
    rw [get?_updateWhere, hrun, Option.map_some, if_pos rfl]
  claims := h.claims
  cache := h.cache
  items := h.items
  snapshots := h.snapshots
  nextToken := h.nextToken

theorem skuClaimEffect_of_claimSku {q : SkuClaimRequest} {claim : SkuQueryClaim}
    (h : claimSku columns db q = .ok (db', claim)) : SkuClaimEffect columns db q db' claim := by
  unfold claimSku at h
  obtain ⟨⟨⟩, hfingerprint, h⟩ := bind_eq_ok.1 h
  obtain ⟨db₁, hrenew, h⟩ := bind_eq_ok.1 h
  have hrenewed := skuRenewed_of_renewSkuLease hrenew
  split at h
  · next cached hcached =>
    obtain ⟨⟨⟩, hproduct, h⟩ := bind_eq_ok.1 h
    obtain ⟨rfl, rfl⟩ := Prod.mk.inj (Except.ok.inj h)
    obtain ⟨hrow, hlive⟩ := hrenewed.cache _ cached hcached
    exact .cache _ cached hrenewed.cacheHit hrow
      ⟨check_eq_ok.1 hfingerprint, hrenewed.active, hlive, check_eq_ok.1 hproduct⟩
  · obtain ⟨rfl, rfl⟩ | ⟨hcalled, rfl⟩ := claimSkuCall_eq_ok h
    · exact .inProgress _ hrenewed
    · exact .call db₁ db' hrenewed hcalled

theorem get?_releaseSkuClaim (claims : SqlTable Text SkuClaim) (fingerprint k : Text)
    (token : Nat) : (releaseSkuClaim claims fingerprint token).get? k =
      (claims.get? k).filter fun claim => ¬ (k = fingerprint ∧ claim.leaseToken = token) :=
  get?_deleteWhere _ _ _

/-- All that storing a page does. -/
structure SkuStored (db : SkuDb) (fingerprint : Text) (token : Nat) (page : DiscoverySkuPage)
    (now : Instant) (db' : SkuDb) : Prop where
  claims : db'.claims = releaseSkuClaim db.claims fingerprint token
  cache : db'.cache = db.cache.put fingerprint
    ⟨page.productId, now, now + skuCacheTtl, page.skus.length, page.skus⟩
  runs : db'.runs = db.runs
  items : db'.items = db.items
  snapshots : db'.snapshots = db.snapshots
  nextToken : db'.nextToken = db.nextToken

theorem skuStored_of_finishSkuSuccess {runId token : Nat} {fingerprint : Text}
    {page : DiscoverySkuPage} {now : Instant}
    (h : finishSkuSuccess db runId fingerprint token page now = .ok db') :
    SkuStored db fingerprint token page now db' := by
  unfold finishSkuSuccess at h
  obtain ⟨⟨⟩, -, h⟩ := bind_eq_ok.1 h
  obtain ⟨-, -, h⟩ := bind_eq_ok.1 h
  obtain ⟨⟨⟩, -, h⟩ := bind_eq_ok.1 h
  obtain rfl := Except.ok.inj h
  exact ⟨rfl, rfl, rfl, rfl, rfl, rfl⟩

/-! ## Items -/

/-- The counters of a run after an item was recorded in it. -/
def countItem (snapped : Bool) (run : SkuRun) : SkuRun :=
  { run with
    refinedCount := run.refinedCount + 1
    snapshotCount := run.snapshotCount + if snapped then 1 else 0 }

/-- All that recording an item does. -/
structure ItemRecorded (db : SkuDb) (q : ItemRecord) (db' : SkuDb) : Prop where
  fresh : db.items.get? (q.runId, q.productId) = none
  active : ∃ run, db.runs.get? q.runId = some run ∧ run.state = .running
  runs : db'.runs =
    db.runs.updateWhere (fun id _ => id = q.runId) (countItem q.snapshot.isSome)
  items : db'.items = db.items.put (q.runId, q.productId) q.row
  snapshots : insertSnapshot db.snapshots q.snapshot = .ok db'.snapshots
  claims : db'.claims = db.claims
  cache : db'.cache = db.cache
  nextToken : db'.nextToken = db.nextToken

theorem itemRecorded_of_recordItem {q : ItemRecord} (h : recordItem db q = .ok db') :
    ItemRecorded db q db' := by
  unfold recordItem at h
  obtain ⟨⟨⟩, hinsert, h⟩ := bind_eq_ok.1 h
  obtain ⟨run, hrun, h⟩ := bind_eq_ok.1 h
  obtain ⟨⟨⟩, hstate, h⟩ := bind_eq_ok.1 h
  obtain ⟨snapshots, hsnapshots, h⟩ := bind_eq_ok.1 h
  obtain rfl := Except.ok.inj h
  exact ⟨(check_eq_ok.1 hinsert).1, ⟨run, orRaise_eq_ok.1 hrun, check_eq_ok.1 hstate⟩, rfl, rfl,
    hsnapshots, rfl, rfl, rfl⟩

theorem insertSnapshot_eq_ok {snapshots snapshots' : SqlTable SkuSnapshotKey SkuSnapshot}
    {entry : Option (SkuSnapshotKey × SkuSnapshot)}
    (h : insertSnapshot snapshots entry = .ok snapshots') :
    (entry = none ∧ snapshots' = snapshots) ∨
      ∃ key row, entry = some (key, row) ∧ snapshots.get? key = none ∧
        snapshots' = snapshots.put key row := by
  cases entry with
  | none => exact .inl ⟨rfl, (Except.ok.inj h).symm⟩
  | some e =>
    obtain ⟨⟨⟩, hfree, h⟩ := bind_eq_ok.1 h
    exact .inr ⟨e.1, e.2, rfl, check_eq_ok.1 hfree, (Except.ok.inj h).symm⟩

/-! ## Ranking -/

/-- All that ranking a run does. -/
structure Reranked (db : SkuDb) (runId : Nat) (db' : SkuDb) : Prop where
  active : ∃ run, db.runs.get? runId = some run ∧ run.state = .running
  items : RowsRel (fun key item item' => SkuItem.evidence item' = SkuItem.evidence item ∧
    (key.1 ≠ runId → item' = item)) db.items db'.items
  count : ∀ id, ownRows db'.items id = ownRows db.items id
  runs : db'.runs = db.runs
  claims : db'.claims = db.claims
  cache : db'.cache = db.cache
  snapshots : db'.snapshots = db.snapshots
  nextToken : db'.nextToken = db.nextToken

theorem rankItem_eq_ok {runId : Nat} {run : SkuRun} {now : Instant} {e e' : ResultKey × SkuItem}
    (h : rankItem columns db runId run now e = .ok e') :
    e'.1 = e.1 ∧ SkuItem.evidence e'.2 = SkuItem.evidence e.2 := by
  unfold rankItem at h
  obtain ⟨skuId, -, h⟩ := bind_eq_ok.1 h
  obtain ⟨price, -, h⟩ := bind_eq_ok.1 h
  obtain ⟨history, -, h⟩ := bind_eq_ok.1 h
  obtain rfl := Except.ok.inj h
  exact ⟨rfl, rfl⟩

/-- **The induction over the ranked items.**  Each is written where it was, with its
evidence. -/
theorem writeRanked_spec (runId : Nat) (items : SqlTable ResultKey SkuItem) (position : Nat)
    (ranked : List (ResultKey × SkuItem))
    (h : ∀ e ∈ ranked, e.1.1 = runId ∧
      ∃ item, items.get? e.1 = some item ∧ SkuItem.evidence e.2 = SkuItem.evidence item) :
    RowsRel (fun key item item' => SkuItem.evidence item' = SkuItem.evidence item ∧
        (key.1 ≠ runId → item' = item)) items (writeRanked items position ranked) ∧
      ∀ id, ownRows (writeRanked items position ranked) id = ownRows items id := by
  induction ranked generalizing items position with
  | nil => exact ⟨.refl (fun _ _ => ⟨rfl, fun _ => rfl⟩) items, fun _ => rfl⟩
  | cons e rest ih =>
    obtain ⟨⟨hid, item, hitem, hevidence⟩, hrest⟩ := List.forall_mem_cons.1 h
    obtain ⟨key, written⟩ := e
    rw [writeRanked]
    have hput : RowsRel (fun key item item' => SkuItem.evidence item' = SkuItem.evidence item ∧
        (key.1 ≠ runId → item' = item)) items
        (items.put key { written with rankPosition := some position }) := by
      intro k
      rw [get?_put]
      by_cases hk : k = key
      · subst hk
        rw [if_pos rfl, hitem]
        exact .some ⟨hevidence, fun hne => absurd hid hne⟩
      · rw [if_neg hk]
        cases items.get? k with
        | none => exact .none
        | some r => exact .some ⟨rfl, fun _ => rfl⟩
    obtain ⟨hrel, hcount⟩ := ih (items.put key { written with rankPosition := some position })
      (position + 1) (by
        intro e he
        obtain ⟨hid', item', hitem', hevidence'⟩ := hrest e he
        obtain ⟨item'', hitem'', hsame, -⟩ := hput.of_get? hitem'
        exact ⟨hid', item'', hitem'', hevidence'.trans hsame.symm⟩)
    refine ⟨hput.trans hrel ?_, fun id => (hcount id).trans (ownRows_put_of_get? _ hitem id)⟩
    exact fun k a b c hab hbc => ⟨hbc.1.trans hab.1, fun hne => (hbc.2 hne).trans (hab.2 hne)⟩

theorem reranked_of_rankRun {runId : Nat} {now : Instant}
    (h : rankRun columns db runId now = .ok db') : Reranked db runId db' := by
  unfold rankRun at h
  obtain ⟨run, hrun, h⟩ := bind_eq_ok.1 h
  obtain ⟨⟨⟩, hactive, h⟩ := bind_eq_ok.1 h
  obtain ⟨ranked, hranked, h⟩ := bind_eq_ok.1 h
  obtain rfl := Except.ok.inj h
  obtain ⟨hrel, hcount⟩ := writeRanked_spec runId db.items 1
    (ranked.insertionSort fun a b => rankLe (rankKey columns a) (rankKey columns b)) (by
      intro e he
      rw [List.mem_insertionSort] at he
      obtain ⟨e₀, he₀, hrank⟩ := exists_of_mem_right (mapM_eq_ok.1 hranked) he
      obtain ⟨hitem, hid, -⟩ := mem_matchedItems.1 he₀
      obtain ⟨hkey, hevidence⟩ := rankItem_eq_ok hrank
      rw [hkey]
      exact ⟨hid, e₀.2, hitem, hevidence⟩)
  exact ⟨⟨run, orRaise_eq_ok.1 hrun, check_eq_ok.1 hactive⟩, hrel, hcount, rfl, rfl, rfl, rfl,
    rfl⟩

/-! ## What is left alone -/

/-- A transaction that records nothing: the runs keep their accounts, the items keep what they
are evidence of, and those of a run that has ended are as they were. -/
structure SkuLeaves (db db' : SkuDb) : Prop where
  runs : RowsRel (fun _ => SkuKept) db.runs db'.runs
  items : RowsRel (fun key item item' => SkuItem.evidence item' = SkuItem.evidence item ∧
    ((∃ run, db.runs.get? key.1 = some run ∧ run.state ≠ .running) → item' = item))
    db.items db'.items
  count : ∀ id, ownRows db'.items id = ownRows db.items id
  snapshots : db'.snapshots = db.snapshots

theorem SkuLeaves.of_items (hruns : RowsRel (fun _ => SkuKept) db.runs db'.runs)
    (hitems : db'.items = db.items) (hsnapshots : db'.snapshots = db.snapshots) :
    SkuLeaves db db' where
  runs := hruns
  items := by
    rw [hitems]
    exact .refl (fun _ _ => ⟨rfl, fun _ => rfl⟩) db.items
  count := by
    intro id
    rw [hitems]
  snapshots := hsnapshots

theorem SkuRenewed.leaves {q : SkuClaimRequest} (h : SkuRenewed db q db') : SkuLeaves db db' :=
  .of_items h.runs h.items h.snapshots

/-- Ending a run, whether it was ranked first or not. -/
structure SkuFinished (db : SkuDb) (runId : Nat) (db' : SkuDb) : Prop where
  leaves : SkuLeaves db db'
  ended : ∃ run', db'.runs.get? runId = some run' ∧ run'.state ≠ .running
  claims : db'.claims = db.claims
  cache : db'.cache = db.cache
  nextToken : db'.nextToken = db.nextToken

theorem skuFinished_of_finishSkuRun {runId : Nat} {state : DiscoveryRunState} {now : Instant}
    {stopReason : String} {errorCode : Option String}
    (h : finishSkuRun db runId state now stopReason errorCode = .ok db') :
    SkuFinished db runId db' := by
  have hended := skuEnded_of_finishSkuRun h
  obtain ⟨-, runs, -, rfl⟩ := finishSkuRun_eq_ok h
  exact ⟨.of_items hended.runs rfl rfl, hended.ended, rfl, rfl, rfl⟩

theorem Reranked.finished {runId : Nat} {state : DiscoveryRunState} {now : Instant}
    {stopReason : String} {errorCode : Option String} {db₁ : SkuDb} (h : Reranked db runId db₁)
    (hfinish : finishSkuRun db₁ runId state now stopReason errorCode = .ok db') :
    SkuFinished db runId db' := by
  have hended := skuEnded_of_finishSkuRun hfinish
  obtain ⟨-, runs, -, rfl⟩ := finishSkuRun_eq_ok hfinish
  have hruns := hended.runs
  rw [h.runs] at hruns
  refine ⟨⟨hruns, h.items.mono ?_, h.count, h.snapshots⟩, hended.ended, h.claims, h.cache,
    h.nextToken⟩
  rintro key item item' ⟨hevidence, hother⟩
  refine ⟨hevidence, ?_⟩
  rintro ⟨run, hrun, hstate⟩
  apply hother
  -- The run that is ranked is running.
  rintro rfl
  obtain ⟨run', hrun', hactive⟩ := h.active
  obtain rfl := Option.some.inj (hrun.symm.trans hrun')
  exact hstate hactive

/-- Everything of a run is as it was: its row, its items and its snapshots. -/
structure SkuFrozen (db db' : SkuDb) (id : Nat) : Prop where
  run : db'.runs.get? id = db.runs.get? id
  items : ∀ productId, db'.items.get? (id, productId) = db.items.get? (id, productId)
  snapshots : ∀ productId skuId,
    db'.snapshots.get? (id, productId, skuId) = db.snapshots.get? (id, productId, skuId)

theorem SkuFrozen.refl (db : SkuDb) (id : Nat) : SkuFrozen db db id :=
  ⟨rfl, fun _ => rfl, fun _ _ => rfl⟩

theorem SkuFrozen.trans {db'' : SkuDb} {id : Nat} (h : SkuFrozen db db' id)
    (h' : SkuFrozen db' db'' id) : SkuFrozen db db'' id where
  run := h'.run.trans h.run
  items := fun productId => (h'.items productId).trans (h.items productId)
  snapshots := fun productId skuId => (h'.snapshots productId skuId).trans (h.snapshots productId skuId)

/-- What records nothing leaves a run that has ended as it is. -/
theorem SkuLeaves.frozen (h : SkuLeaves db db') {id : Nat} {run : SkuRun}
    (hrun : db.runs.get? id = some run) (hended : run.state ≠ .running) : SkuFrozen db db' id where
  run := by
    obtain ⟨run', hrun', hkept⟩ := h.runs.of_get? hrun
    rw [hrun, hrun', hkept.frozen hended]
  items := by
    intro productId
    cases hitem : db.items.get? (id, productId) with
    | none =>
      cases hitem' : db'.items.get? (id, productId) with
      | none => rfl
      | some item' =>
        obtain ⟨item, hitem₀, -⟩ := h.items.of_get?' hitem'
        rw [hitem] at hitem₀
        cases hitem₀
    | some item =>
      obtain ⟨item', hitem', -, hsame⟩ := h.items.of_get? hitem
      rw [hitem', hsame ⟨run, hrun, hended⟩]
  snapshots := fun _ _ => by rw [h.snapshots]

theorem SkuCalled.frozen {q : SkuClaimRequest} (h : SkuCalled db q db') {id : Nat}
    (hid : id ≠ q.runId) : SkuFrozen db db' id where
  run := by
    rw [h.runs, get?_updateWhere]
    simp [hid]
  items := fun _ => by rw [h.items]
  snapshots := fun _ _ => by rw [h.snapshots]

theorem SkuClaimEffect.frozen {q : SkuClaimRequest} {claim : SkuQueryClaim}
    (h : SkuClaimEffect columns db q db' claim) {id : Nat} {run : SkuRun}
    (hrun : db.runs.get? id = some run) (hended : run.state ≠ .running) : SkuFrozen db db' id := by
  cases h with
  | cache _ _ hrenewed => exact hrenewed.leaves.frozen hrun hended
  | inProgress _ hrenewed => exact hrenewed.leaves.frozen hrun hended
  | call db₁ _ hrenewed hcalled =>
    refine (hrenewed.leaves.frozen hrun hended).trans (hcalled.frozen ?_)
    rintro rfl
    obtain ⟨run', hrun', hactive⟩ := hrenewed.active
    obtain rfl := Option.some.inj (hrun.symm.trans hrun')
    exact hended hactive

/-- An item is recorded in its own run alone. -/
theorem ItemRecorded.frozen {q : ItemRecord} (h : ItemRecorded db q db') {id : Nat}
    (hid : id ≠ q.runId) : SkuFrozen db db' id where
  run := by
    rw [h.runs, get?_updateWhere]
    simp [hid]
  items := by
    intro productId
    rw [h.items, get?_put_ne]
    exact fun heq => hid (Prod.mk.inj heq).1
  snapshots := by
    intro productId skuId
    obtain ⟨-, hsame⟩ | ⟨key, row, hentry, -, hput⟩ := insertSnapshot_eq_ok h.snapshots
    · rw [hsame]
    · rw [hput, get?_put_ne]
      rintro rfl
      apply hid
      unfold ItemRecord.snapshot at hentry
      split at hentry
      · exact (Prod.mk.inj (Prod.mk.inj (Option.some.inj hentry)).1).1.symm
      · cases hentry

end SkuRefinementRepository
end PromoBot
