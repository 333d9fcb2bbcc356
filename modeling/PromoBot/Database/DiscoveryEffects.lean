import PromoBot.Database.Discoveries

/-!
# What the methods of the discovery repository do

One lemma for each method, on all that it can have done when it returns.  The proofs about
whole runs use these lemmas alone.
-/

namespace PromoBot
namespace DiscoveryRepository

open Discovery Fallible SqlTable

variable {columns : NumericType} {db db' : DiscoveryDb}

/-! ## Runs and leases -/

/-- Of a run, all that decides on claims. -/
structure SameLease (run run' : DiscoveryRun) : Prop where
  state : run'.state = run.state
  leaseUntil : run'.leaseUntil = run.leaseUntil
  apiCallCount : run'.apiCallCount = run.apiCallCount
  maxApiCalls : run'.maxApiCalls = run.maxApiCalls

/-- Of a run, the counters that go with its results, and their limit. -/
structure SameFindings (run run' : DiscoveryRun) : Prop where
  uniqueProductCount : run'.uniqueProductCount = run.uniqueProductCount
  snapshotCount : run'.snapshotCount = run.snapshotCount
  maxResults : run'.maxResults = run.maxResults

structure SameCounters (run run' : DiscoveryRun) : Prop where
  findings : SameFindings run run'
  apiCallCount : run'.apiCallCount = run.apiCallCount
  cacheHitCount : run'.cacheHitCount = run.cacheHitCount
  pageCount : run'.pageCount = run.pageCount
  receivedCount : run'.receivedCount = run.receivedCount

theorem SameLease.refl (run : DiscoveryRun) : SameLease run run := ⟨rfl, rfl, rfl, rfl⟩

theorem SameFindings.refl (run : DiscoveryRun) : SameFindings run run := ⟨rfl, rfl, rfl⟩

theorem SameCounters.refl (run : DiscoveryRun) : SameCounters run run :=
  ⟨.refl run, rfl, rfl, rfl, rfl⟩

theorem sameCounters_finished (state : DiscoveryRunState) (now : Instant) (stopReason : String)
    (errorCode : Option String) (run : DiscoveryRun) :
    SameCounters run (finished state now stopReason errorCode run) :=
  ⟨⟨rfl, rfl, rfl⟩, rfl, rfl, rfl, rfl⟩

/-- `finish_run` ends a running run, and does nothing else. -/
theorem finishRun_eq_ok {runId : Nat} {state : DiscoveryRunState} {now : Instant}
    {stopReason : String} {errorCode : Option String}
    (h : finishRun db runId state now stopReason errorCode = .ok db') :
    state ≠ .running ∧
      ∃ runs, db.runs.updateOne runId (fun run => run.state = .running)
        (finished state now stopReason errorCode) = some runs ∧ db' = { db with runs := runs } := by
  unfold finishRun at h
  obtain ⟨⟨⟩, hstate, h⟩ := bind_eq_ok.1 h
  obtain ⟨runs, hruns, h⟩ := bind_eq_ok.1 h
  exact ⟨check_eq_ok.1 hstate, runs, orRaise_eq_ok.1 hruns, (Except.ok.inj h).symm⟩

/-- All that renewing a lease does. -/
structure Renewed (db : DiscoveryDb) (q : ClaimRequest) (db' : DiscoveryDb) : Prop where
  /-- The run is running, and has its lease renewed. -/
  active : ∃ run, db.runs.get? q.runId = some run ∧ run.state = .running ∧
    db'.runs.get? q.runId = some { run with leaseUntil := some q.leaseUntil }
  /-- Other runs are swept if they have lapsed. -/
  other : ∀ id, id ≠ q.runId → db'.runs.get? id = (db.runs.get? id).map fun run =>
    if Lapsed db q.now q.runId id run then
      finished .uncertain q.now "UNCERTAIN" (some "ALIEXPRESS_DISCOVERY_LEASE_EXPIRED") run
    else run
  claims : db'.claims = db.claims.deleteWhere fun _ claim => claim.leaseUntil ≤ q.now
  cache : db'.cache = db.cache.deleteWhere fun _ cached => cached.expiresAt ≤ q.now
  results : db'.results = db.results
  snapshots : db'.snapshots = db.snapshots
  nextToken : db'.nextToken = db.nextToken

theorem renewed_of_renewLease {q : ClaimRequest} (h : renewLease db q = .ok db') :
    Renewed db q db' := by
  unfold renewLease at h
  obtain ⟨runs, hruns, h⟩ := bind_eq_ok.1 h
  obtain rfl := Except.ok.inj h
  obtain ⟨⟨run, hrun, hstate, hrun'⟩, hother⟩ := get?_of_updateOne (orRaise_eq_ok.1 hruns)
  have hswept : ∀ id, (recoverExpired db q.now q.runId).runs.get? id =
      (db.runs.get? id).map fun run => if Lapsed db q.now q.runId id run then
        finished .uncertain q.now "UNCERTAIN" (some "ALIEXPRESS_DISCOVERY_LEASE_EXPIRED") run
      else run := fun id => get?_updateWhere _ _ _ id
  have hself : ∀ run, ¬ Lapsed db q.now q.runId q.runId run := fun run hlapsed => hlapsed.2.1 rfl
  refine ⟨?_, ?_, rfl, rfl, rfl, rfl, rfl⟩
  · rw [hswept] at hrun
    simp only [hself, if_false, Option.map_id'] at hrun
    exact ⟨run, hrun, hstate, hrun'⟩
  · intro id hid
    exact (hother id hid).trans (hswept id)

/-- A renewal leaves every counter as it is. -/
theorem Renewed.sameCounters {q : ClaimRequest} (h : Renewed db q db') :
    RowsRel (fun _ run run' => SameCounters run run' ∧ run'.maxApiCalls = run.maxApiCalls)
      db.runs db'.runs := by
  intro id
  by_cases hid : id = q.runId
  · obtain ⟨run, hrun, -, hrun'⟩ := h.active
    rw [hid, hrun, hrun']
    exact .some ⟨⟨⟨rfl, rfl, rfl⟩, rfl, rfl, rfl, rfl⟩, rfl⟩
  · rw [h.other id hid]
    cases db.runs.get? id with
    | none => exact .none
    | some run =>
      refine .some ?_
      dsimp only
      split
      · exact ⟨sameCounters_finished .., rfl⟩
      · exact ⟨.refl run, rfl⟩

theorem Renewed.get?_of_ended {q : ClaimRequest} (h : Renewed db q db') {id : Nat}
    {run : DiscoveryRun} (hrun : db.runs.get? id = some run) (hended : run.state ≠ .running) :
    id ≠ q.runId ∧ db'.runs.get? id = some run := by
  have hid : id ≠ q.runId := by
    rintro rfl
    obtain ⟨run', hrun', hstate, -⟩ := h.active
    obtain rfl := Option.some.inj (hrun.symm.trans hrun')
    exact hended hstate
  refine ⟨hid, ?_⟩
  rw [h.other id hid, hrun, Option.map_some, if_neg fun hlapsed => hended hlapsed.1]

theorem Renewed.of_claims {q : ClaimRequest} (h : Renewed db q db') {key : QueryKey}
    {claim : DiscoveryClaim} (hclaim : db'.claims.get? key = some claim) :
    db.claims.get? key = some claim := by
  rw [h.claims, get?_deleteWhere, Option.filter_eq_some_iff] at hclaim
  exact hclaim.1

/-! ## Claims -/

/-- All that granting a call does. -/
structure Called (db : DiscoveryDb) (q : ClaimRequest) (db' : DiscoveryDb) : Prop where
  free : db.claims.get? q.key = none
  run : ∃ run, db.runs.get? q.runId = some run ∧ run.state = .running ∧
    run.apiCallCount < run.maxApiCalls ∧
    db'.runs.get? q.runId = some { run with apiCallCount := run.apiCallCount + 1 }
  other : ∀ id, id ≠ q.runId → db'.runs.get? id = db.runs.get? id
  claims : db'.claims = db.claims.put q.key
    ⟨q.runId, q.queryOrdinal, q.pageNo, db.nextToken, q.now, q.leaseUntil⟩
  nextToken : db'.nextToken = db.nextToken + 1
  cache : db'.cache = db.cache
  results : db'.results = db.results
  snapshots : db'.snapshots = db.snapshots

theorem Called.exists_run {q : ClaimRequest} (h : Called db q db') {id : Nat} {run : DiscoveryRun}
    (hrun : db.runs.get? id = some run) : ∃ run', db'.runs.get? id = some run' := by
  by_cases hid : id = q.runId
  · obtain ⟨run₀, -, -, -, hrun₀⟩ := h.run
    rw [hid]
    exact ⟨_, hrun₀⟩
  · exact ⟨run, (h.other id hid).trans hrun⟩

theorem Called.sameFindings {q : ClaimRequest} (h : Called db q db') :
    RowsRel (fun _ => SameFindings) db.runs db'.runs := by
  intro id
  by_cases hid : id = q.runId
  · obtain ⟨run, hrun, -, -, hrun'⟩ := h.run
    rw [hid, hrun, hrun']
    exact .some ⟨rfl, rfl, rfl⟩
  · rw [h.other id hid]
    cases db.runs.get? id with
    | none => exact .none
    | some run => exact .some (.refl run)

theorem Called.of_claims {q : ClaimRequest} (h : Called db q db') {key : QueryKey}
    {claim : DiscoveryClaim} (hclaim : db'.claims.get? key = some claim) :
    (key = q.key ∧
      claim = ⟨q.runId, q.queryOrdinal, q.pageNo, db.nextToken, q.now, q.leaseUntil⟩) ∨
      db.claims.get? key = some claim := by
  rw [h.claims, get?_put] at hclaim
  split at hclaim
  · next hkey => exact .inl ⟨hkey, (Option.some.inj hclaim).symm⟩
  · exact .inr hclaim

/-- What `claim_query` can have done: the lease is renewed, and then either a live cached
page is answered, or the query is in progress, or a call is granted. -/
inductive ClaimEffect (columns : NumericType) (db : DiscoveryDb) (q : ClaimRequest) :
    DiscoveryDb → DiscoveryQueryClaim → Prop
  | cache (db₁ : DiscoveryDb) (cached : QueryCache) : Renewed db q db₁ →
      db₁.cache.get? q.key = some cached →
      ClaimEffect columns db q
        { db₁ with
          runs := db₁.runs.updateWhere (fun id _ => id = q.runId) (cacheHit cached.itemCount) }
        (.cache (cached.page columns))
  | inProgress (db₁ : DiscoveryDb) : Renewed db q db₁ → ClaimEffect columns db q db₁ .inProgress
  | call (db₁ db₂ : DiscoveryDb) : Renewed db q db₁ →
      (∀ cached, db.cache.get? q.key = some cached → cached.expiresAt ≤ q.now) →
      Called db₁ q db₂ → ClaimEffect columns db q db₂ (.call db₁.nextToken)

theorem claimCall_eq_ok {q : ClaimRequest} {claim : DiscoveryQueryClaim}
    (h : claimCall db q = .ok (db', claim)) :
    (db' = db ∧ claim = .inProgress) ∨ (Called db q db' ∧ claim = .call db.nextToken) := by
  unfold claimCall at h
  split at h
  · obtain ⟨rfl, rfl⟩ := Prod.mk.inj (Except.ok.inj h)
    exact .inl ⟨rfl, rfl⟩
  · next hfree =>
    obtain ⟨runs, hruns, h⟩ := bind_eq_ok.1 h
    obtain ⟨rfl, rfl⟩ := Prod.mk.inj (Except.ok.inj h)
    obtain ⟨⟨run, hrun, ⟨hstate, hlt⟩, hrun'⟩, hother⟩ := get?_of_updateOne (orRaise_eq_ok.1 hruns)
    refine .inr ⟨⟨?_, ⟨run, hrun, hstate, hlt, hrun'⟩, hother, rfl, rfl, rfl, rfl, rfl⟩, rfl⟩
    simpa using hfree

theorem claimEffect_of_claimQuery {q : ClaimRequest} {claim : DiscoveryQueryClaim}
    (h : claimQuery columns db q = .ok (db', claim)) : ClaimEffect columns db q db' claim := by
  unfold claimQuery at h
  obtain ⟨⟨⟩, -, h⟩ := bind_eq_ok.1 h
  obtain ⟨db₁, hrenew, h⟩ := bind_eq_ok.1 h
  obtain ⟨run, -, h⟩ := bind_eq_ok.1 h
  have hrenewed := renewed_of_renewLease hrenew
  split at h
  · next cached hcached =>
    obtain ⟨⟨⟩, -, h⟩ := bind_eq_ok.1 h
    obtain ⟨rfl, rfl⟩ := Prod.mk.inj (Except.ok.inj h)
    exact .cache db₁ cached hrenewed (Option.filter_eq_some_iff.1 hcached).1
  · next hnone =>
    obtain ⟨rfl, rfl⟩ | ⟨hcalled, rfl⟩ := claimCall_eq_ok h
    · exact .inProgress _ hrenewed
    · refine .call db₁ db' hrenewed ?_ hcalled
      intro cached hcached
      -- A page that has not expired would still be there, and be answered.
      by_contra hlive
      have hstays : db₁.cache.get? q.key = some cached := by
        rw [hrenewed.cache, get?_deleteWhere, hcached]
        simpa using hlive
      rw [hstays, Option.filter_eq_none_iff] at hnone
      exact hnone cached rfl (decide_eq_true (not_le.1 hlive))

theorem get?_releaseClaim (claims : SqlTable QueryKey DiscoveryClaim) (key k : QueryKey)
    (token : Nat) : (releaseClaim claims key token).get? k =
      (claims.get? k).filter fun claim => ¬ (k = key ∧ claim.leaseToken = token) :=
  get?_deleteWhere _ _ _

theorem readHeld_eq_ok_iff {runId token : Nat} {key : QueryKey} {now : Instant}
    {run : DiscoveryRun} : readHeld db runId key token now = .ok run ↔
      (∃ claim, db.claims.get? key = some claim ∧ HeldBy runId token now claim) ∧
        db.runs.get? runId = some run := by
  unfold readHeld
  rw [bind_eq_ok]
  simp only [orRaise_eq_ok, Option.filter_eq_some_iff, decide_eq_true_eq]
  constructor
  · rintro ⟨claim, hclaim, hrun⟩
    exact ⟨⟨claim, hclaim⟩, hrun⟩
  · rintro ⟨⟨claim, hclaim⟩, hrun⟩
    exact ⟨claim, hclaim, hrun⟩

/-- All that storing a page does. -/
structure Stored (db : DiscoveryDb) (runId : Nat) (key : QueryKey) (token : Nat)
    (page : DiscoveryPage) (operation : DiscoveryOperation) (now : Instant) (db' : DiscoveryDb) :
    Prop where
  cache : db'.cache = db.cache.put key (QueryCache.ofPage operation page now)
  claims : db'.claims = releaseClaim db.claims key token
  runs : db'.runs = db.runs.updateWhere (fun id _ => id = runId) fun run =>
    { run with
      pageCount := run.pageCount + 1
      receivedCount := run.receivedCount + page.itemCount }
  results : db'.results = db.results
  snapshots : db'.snapshots = db.snapshots
  nextToken : db'.nextToken = db.nextToken

theorem stored_of_storePage {runId token : Nat} {key : QueryKey} {page : DiscoveryPage}
    {operation : DiscoveryOperation} {now : Instant}
    (h : storePage db runId key token page operation now = .ok db') :
    Stored db runId key token page operation now db' := by
  unfold storePage at h
  obtain ⟨⟨⟩, -, h⟩ := bind_eq_ok.1 h
  obtain ⟨⟨⟩, -, h⟩ := bind_eq_ok.1 h
  obtain rfl := Except.ok.inj h
  exact ⟨rfl, rfl, rfl, rfl, rfl, rfl⟩

theorem Stored.sameLease {runId token : Nat} {key : QueryKey}
    {page : DiscoveryPage} {operation : DiscoveryOperation} {now : Instant}
    (h : Stored db runId key token page operation now db') :
    RowsRel (fun _ => SameLease) db.runs db'.runs := by
  rw [h.runs]
  exact rowsRel_updateWhere _ _ _ (fun _ run => .refl run) fun _ _ _ _ => ⟨rfl, rfl, rfl, rfl⟩

/-! ## Results -/

/-- What becomes of the snapshots when a product is recorded live: there is one of it if, and
only if, it has a price. -/
structure Snapped (db : DiscoveryDb) (key : ResultKey) (price : Option Decimal)
    (snapshots : SqlTable ResultKey PriceSnapshot) (snapshotId : Option ResultKey) : Prop where
  fresh : price.isSome → db.snapshots.get? key = none
  some : price.isSome → snapshotId = some key ∧ ∃ row, snapshots = db.snapshots.put key row
  none : price = none → snapshotId = none ∧ snapshots = db.snapshots

theorem snapped_of_createSnapshot {runId : Nat} {run : DiscoveryRun} {key : QueryKey}
    {product : DiscoveryProduct} {observedAt : Instant}
    {snapshots : SqlTable ResultKey PriceSnapshot} {snapshotId : Option ResultKey}
    (h : createSnapshot db runId run key product observedAt = .ok (snapshots, snapshotId)) :
    Snapped db (runId, product.productId) product.targetBrlPrice snapshots snapshotId := by
  unfold createSnapshot at h
  split at h
  · next hprice =>
    obtain ⟨rfl, rfl⟩ := Prod.mk.inj (Except.ok.inj h)
    constructor <;> simp [hprice]
  · next price hprice =>
    obtain ⟨⟨⟩, hfresh, h⟩ := bind_eq_ok.1 h
    obtain ⟨⟨⟩, -, h⟩ := bind_eq_ok.1 h
    obtain ⟨rfl, rfl⟩ := Prod.mk.inj (Except.ok.inj h)
    constructor
    · exact fun _ => check_eq_ok.1 hfresh
    · exact fun _ => ⟨rfl, _, rfl⟩
    · simp [hprice]

/-- The counters of a run after a product was recorded in it. -/
def countRecorded (answer : RecordedProduct) (run : DiscoveryRun) : DiscoveryRun :=
  { run with
    uniqueProductCount := run.uniqueProductCount + if answer.insertedUnique then 1 else 0
    snapshotCount := run.snapshotCount + if answer.snapshotCreated then 1 else 0 }

/-- How the result of a product is written. -/
inductive ResultEffect (db : DiscoveryDb) (q : Recording)
    (snapshots : SqlTable ResultKey PriceSnapshot) : RunResult → RecordedProduct → Prop
  /-- Nothing but the count of the queries changes. -/
  | counted (existing : RunResult) : db.results.get? q.resultKey = some existing →
      existing.origin = .live ∨ q.origin = .cache → snapshots = db.snapshots →
      ResultEffect db q snapshots
        { existing with matchedQueryCount := existing.matchedQueryCount + 1 } ⟨false, false⟩
  /-- A cached result gives way to a live one. -/
  | promoted (existing : RunResult) (snapshotId : Option ResultKey) (minimumDrop : Decimal)
      (score : DiscoveryScore) : db.results.get? q.resultKey = some existing →
      existing.origin = .cache →
      Snapped db q.resultKey q.product.targetBrlPrice snapshots snapshotId →
      ResultEffect db q snapshots
        (resultRow .live snapshotId q.product minimumDrop score (existing.matchedQueryCount + 1))
        ⟨false, snapshotId.isSome⟩
  /-- A new live result. -/
  | live (snapshotId : Option ResultKey) (minimumDrop : Decimal) (score : DiscoveryScore) :
      db.results.get? q.resultKey = none → q.origin = .live →
      Snapped db q.resultKey q.product.targetBrlPrice snapshots snapshotId →
      ResultEffect db q snapshots (resultRow .live snapshotId q.product minimumDrop score 1)
        ⟨true, snapshotId.isSome⟩
  /-- A new cached result. -/
  | cached (minimumDrop : Decimal) (score : DiscoveryScore) :
      db.results.get? q.resultKey = none → q.origin = .cache → snapshots = db.snapshots →
      ResultEffect db q snapshots (resultRow .cache none q.product minimumDrop score 1)
        ⟨true, false⟩

/-- All that recording a product does. -/
structure RecordEffect (db : DiscoveryDb) (q : Recording) (db' : DiscoveryDb)
    (answer : RecordedProduct) : Prop where
  run : ∃ run, db.runs.get? q.runId = some run
  runs : RowsRel (fun id run run' => run' = if id = q.runId then countRecorded answer run else run)
    db.runs db'.runs
  result : ∃ row, db'.results = db.results.put q.resultKey row ∧
    ResultEffect db q db'.snapshots row answer
  claims : db'.claims = db.claims
  cache : db'.cache = db.cache
  nextToken : db'.nextToken = db.nextToken

theorem rowsRel_updateWhere_run (runs : SqlTable Nat DiscoveryRun) (runId : Nat)
    (f g : DiscoveryRun → DiscoveryRun) (hfg : ∀ run, f run = g run) :
    RowsRel (fun id run run' => run' = if id = runId then g run else run) runs
      (runs.updateWhere (fun id _ => id = runId) f) := by
  intro id
  rw [get?_updateWhere]
  cases runs.get? id with
  | none => exact .none
  | some run => exact .some (by simp only [hfg])

theorem recordEffect_of_recordAgain {q : Recording} {run : DiscoveryRun} {existing : RunResult}
    {answer : RecordedProduct} (hrun : db.runs.get? q.runId = some run)
    (hexisting : db.results.get? q.resultKey = some existing)
    (h : recordAgain columns db q run existing = .ok (db', answer)) :
    RecordEffect db q db' answer := by
  unfold recordAgain at h
  split at h
  · next horigin =>
    obtain ⟨rfl, rfl⟩ := Prod.mk.inj (Except.ok.inj h)
    refine ⟨⟨run, hrun⟩, ?_, ⟨_, rfl, .counted existing hexisting horigin rfl⟩, rfl, rfl, rfl⟩
    exact RowsRel.refl (fun id run => by simp [countRecorded]) db.runs
  · next horigin =>
    rw [not_or] at horigin
    obtain ⟨⟨snapshots, snapshotId⟩, hsnapshot, h⟩ := bind_eq_ok.1 h
    obtain ⟨⟨⟩, -, h⟩ := bind_eq_ok.1 h
    obtain ⟨rfl, rfl⟩ := Prod.mk.inj (Except.ok.inj h)
    have hcache : existing.origin = .cache := by
      cases horigin' : existing.origin with
      | live => exact absurd horigin' horigin.1
      | cache => rfl
    have hsnapped := snapped_of_createSnapshot hsnapshot
    refine ⟨⟨run, hrun⟩, ?_,
      ⟨_, rfl, .promoted existing snapshotId _ _ hexisting hcache hsnapped⟩, rfl, rfl, rfl⟩
    exact rowsRel_updateWhere_run db.runs q.runId _ _ fun run => by
      simp [countSnapshot, countRecorded]

theorem recordEffect_of_recordNew {q : Recording} {run : DiscoveryRun} {answer : RecordedProduct}
    (hrun : db.runs.get? q.runId = some run) (hnone : db.results.get? q.resultKey = none)
    (h : recordNew columns db q run = .ok (db', answer)) : RecordEffect db q db' answer := by
  unfold recordNew at h
  obtain ⟨⟨snapshots, snapshotId⟩, hsnapshot, h⟩ := bind_eq_ok.1 h
  obtain ⟨⟨⟩, -, h⟩ := bind_eq_ok.1 h
  obtain ⟨rfl, rfl⟩ := Prod.mk.inj (Except.ok.inj h)
  refine ⟨⟨run, hrun⟩, ?_, ⟨_, rfl, ?_⟩, rfl, rfl, rfl⟩
  · exact rowsRel_updateWhere_run db.runs q.runId _ _ fun run => by
      simp [countSnapshot, countRecorded]
  · unfold newSnapshot at hsnapshot
    split at hsnapshot
    · next horigin =>
      rw [horigin]
      exact .live snapshotId _ _ hnone horigin (snapped_of_createSnapshot hsnapshot)
    · next horigin =>
      obtain ⟨rfl, rfl⟩ := Prod.mk.inj (Except.ok.inj hsnapshot)
      rw [horigin]
      exact .cached _ _ hnone horigin rfl

theorem recordEffect_of_recordProduct {q : Recording} {answer : RecordedProduct}
    (h : recordProduct columns db q = .ok (db', answer)) : RecordEffect db q db' answer := by
  unfold recordProduct at h
  obtain ⟨run, hrun, h⟩ := bind_eq_ok.1 h
  split at h
  · next existing hexisting =>
    exact recordEffect_of_recordAgain (orRaise_eq_ok.1 hrun) hexisting h
  · next hnone => exact recordEffect_of_recordNew (orRaise_eq_ok.1 hrun) hnone h

end DiscoveryRepository
end PromoBot
