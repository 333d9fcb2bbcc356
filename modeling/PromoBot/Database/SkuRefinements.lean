import PromoBot.Database.Discoveries
import PromoBot.Discovery.SkuMatcher
import PromoBot.Discovery.SkuRanking
import PromoBot.Lib.RowOrder

/-!
# SKU refinements in the database

`SkuRefinementRepository` (`database/aliexpress_discovery_sku_repository.py`): the
refinement runs, the claims on products, the cached pages of SKUs, the items with their
alternatives, and the prices seen live.

As for the discovery runs, a method is a function to the database it leaves, the unique
constraints are the keys of the tables, and a token is a number not used before.  The
alternatives of an item, `aliexpress_discovery_sku_matches`, are written with the item and
are a column of it here; so are the cached SKUs of a page.
-/

namespace PromoBot

open Discovery Fallible SqlTable

/-- A row of `aliexpress_discovery_sku_refinement_runs`. -/
structure SkuRun where
  sourceRunId : Nat
  profileName : Text
  requirementsFingerprint : Text
  state : DiscoveryRunState
  startedAt : Instant
  finishedAt : Option Instant
  leaseToken : Option Nat
  leaseUntil : Option Instant
  maxRefinedProducts : Nat
  maxSkuApiCalls : Nat
  minimumDropPercent : Decimal
  apiCallCount : Nat
  refinedCount : Nat
  cacheHitCount : Nat
  snapshotCount : Nat
  stopReason : Option String
  errorCode : Option String
  deriving DecidableEq

/-- A row of `aliexpress_discovery_sku_claims`. -/
structure SkuClaim where
  ownerRunId : Nat
  productId : Text
  leaseToken : Nat
  claimedAt : Instant
  leaseUntil : Instant
  deriving DecidableEq

/-- A row of `aliexpress_discovery_sku_cache`, with its SKUs as they were bound. -/
structure SkuCache where
  productId : Text
  fetchedAt : Instant
  expiresAt : Instant
  skuCount : Nat
  items : List DiscoverySku
  deriving DecidableEq

/-- A row of `aliexpress_discovery_sku_refinement_items`. -/
structure SkuItem where
  skuQueryFingerprint : Text
  origin : DiscoveryOrigin
  state : SkuMatchState
  sourceProductScore : Int
  selectedSkuId : Option Text
  salePriceWithTax : Option Decimal
  currency : Option Text
  historyMedian : Option Decimal
  historySnapshotCount : Nat
  priceDropPercent : Option Decimal
  classification : Option SkuClassification
  rankPosition : Option Nat
  errorCode : Option String
  alternatives : List (Text × Decimal × List DiscoverySkuAttribute)
  deriving DecidableEq

/-- A run, a product and a SKU. -/
abbrev SkuSnapshotKey := Nat × Text × Text

/-- A row of `aliexpress_discovery_sku_price_snapshots`. -/
structure SkuSnapshot where
  price : Decimal
  observedAt : Instant
  deriving DecidableEq

/-- The tables of SKU refinement. -/
structure SkuDb where
  runs : SqlTable Nat SkuRun
  claims : SqlTable Text SkuClaim
  cache : SqlTable Text SkuCache
  items : SqlTable ResultKey SkuItem
  snapshots : SqlTable SkuSnapshotKey SkuSnapshot
  nextToken : Nat

namespace SkuRefinementRepository

/-- `SKU_CACHE_TTL`. -/
def skuCacheTtl : Int := seconds (15 * 60)

/-! ## Runs -/

/-- What `create_run` is called with. -/
structure NewSkuRun where
  sourceRunId : Nat
  profileName : Text
  requirementsFingerprint : Text
  maxRefinedProducts : Nat
  maxSkuApiCalls : Nat
  minimumDropPercent : Decimal
  now : Instant
  leaseUntil : Instant

def NewSkuRun.row (q : NewSkuRun) (token : Nat) : SkuRun where
  sourceRunId := q.sourceRunId
  profileName := q.profileName
  requirementsFingerprint := q.requirementsFingerprint
  state := .running
  startedAt := q.now
  finishedAt := none
  leaseToken := some token
  leaseUntil := some q.leaseUntil
  maxRefinedProducts := q.maxRefinedProducts
  maxSkuApiCalls := q.maxSkuApiCalls
  minimumDropPercent := q.minimumDropPercent
  apiCallCount := 0
  refinedCount := 0
  cacheHitCount := 0
  snapshotCount := 0
  stopReason := none
  errorCode := none

/-- `create_run`, with the number of the row. -/
def createSkuRun (db : SkuDb) (q : NewSkuRun) : SkuDb × Nat :=
  ({ db with
      runs := db.runs.put db.runs.freshId (q.row db.nextToken)
      nextToken := db.nextToken + 1 },
    db.runs.freshId)

/-- The row of a run that ends. -/
def endSkuRun (state : DiscoveryRunState) (now : Instant) (stopReason : String)
    (errorCode : Option String) (run : SkuRun) : SkuRun :=
  { run with
    state := state
    finishedAt := some now
    leaseToken := none
    leaseUntil := none
    stopReason := some stopReason
    errorCode := errorCode }

/-- `finish_run`. -/
def finishSkuRun (db : SkuDb) (runId : Nat) (state : DiscoveryRunState) (now : Instant)
    (stopReason : String) (errorCode : Option String) : Except String SkuDb := do
  check (state ≠ .running) "ALIEXPRESS_DISCOVERY_SKU_TERMINAL_STATE_INVALID"
  let runs ← orRaise (db.runs.updateOne runId (fun run => run.state = .running)
    (endSkuRun state now stopReason errorCode)) "ALIEXPRESS_DISCOVERY_SKU_RUN_TRANSITION_CONFLICT"
  return { db with runs := runs }

/-! ## Claims -/

/-- What `claim_sku` is called with. -/
structure SkuClaimRequest where
  runId : Nat
  fingerprint : Text
  productId : Text
  now : Instant
  leaseUntil : Instant

/-- `SkuQueryClaim`, by its disposition. -/
inductive SkuQueryClaim
  | call (leaseToken : Nat)
  | cache (page : DiscoverySkuPage)
  | inProgress

/-- A lower-case hexadecimal digit. -/
def isLowerHex (c : Char) : Bool := Text.isAsciiDigit c || ('a' ≤ c && c ≤ 'f')

/-- `re.fullmatch(r"[0-9a-f]{64}", text)`. -/
def IsSkuFingerprint (text : Text) : Prop := text.length = 64 ∧ text.all isLowerHex = true

instance : DecidablePred IsSkuFingerprint := fun _ => inferInstanceAs (Decidable (_ ∧ _))

/-- A run whose lease is over, other than the one that claims. -/
def SkuLapsed (q : SkuClaimRequest) (id : Nat) (run : SkuRun) : Prop :=
  run.state = .running ∧ id ≠ q.runId ∧ AtMost run.leaseUntil q.now

instance (q : SkuClaimRequest) (id : Nat) : DecidablePred (SkuLapsed q id) :=
  fun _ => inferInstanceAs (Decidable (_ ∧ _))

/-- The first statements of `claim_sku`: lapsed runs, claims and pages are cleared away, and
the lease of the run is renewed. -/
def renewSkuLease (db : SkuDb) (q : SkuClaimRequest) : Except String SkuDb := do
  let swept := db.runs.updateWhere (SkuLapsed q)
    (endSkuRun .uncertain q.now "UNCERTAIN" (some "ALIEXPRESS_DISCOVERY_SKU_LEASE_EXPIRED"))
  let runs ← orRaise (swept.updateOne q.runId (fun run => run.state = .running)
    fun run => { run with leaseUntil := some q.leaseUntil })
    "ALIEXPRESS_DISCOVERY_SKU_RUN_NOT_ACTIVE"
  return { db with
    runs := runs
    claims := db.claims.deleteWhere fun _ claim => claim.leaseUntil ≤ q.now
    cache := db.cache.deleteWhere fun _ cached => cached.expiresAt ≤ q.now }

/-- `_cached_sku`. -/
def cachedSku (columns : NumericType) (sku : DiscoverySku) : DiscoverySku :=
  { sku with
    priceWithTax := sku.priceWithTax.map (columns.read 2)
    salePriceWithTax := columns.read 2 sku.salePriceWithTax
    discountPercent := sku.discountPercent.map (columns.read 4) }

/-- The page a claim is answered with from the cache. -/
def SkuCache.page (columns : NumericType) (cached : SkuCache) (productId : Text) :
    DiscoverySkuPage :=
  ⟨productId, cached.items.map (cachedSku columns)⟩

/-- The last statements of `claim_sku`. -/
def claimSkuCall (db : SkuDb) (q : SkuClaimRequest) : Except String (SkuDb × SkuQueryClaim) :=
  if (db.claims.get? q.fingerprint).isSome then .ok (db, .inProgress)
  else do
    let runs ← orRaise (db.runs.updateOne q.runId
      (fun run => run.state = .running ∧ run.apiCallCount < run.maxSkuApiCalls)
      fun run => { run with apiCallCount := run.apiCallCount + 1 })
      "ALIEXPRESS_DISCOVERY_SKU_API_BUDGET_EXHAUSTED"
    return ({ db with
        runs := runs
        claims := db.claims.put q.fingerprint
          ⟨q.runId, q.productId, db.nextToken, q.now, q.leaseUntil⟩
        nextToken := db.nextToken + 1 },
      .call db.nextToken)

/-- `claim_sku`. -/
def claimSku (columns : NumericType) (db : SkuDb) (q : SkuClaimRequest) :
    Except String (SkuDb × SkuQueryClaim) := do
  check (IsSkuFingerprint q.fingerprint) "ALIEXPRESS_DISCOVERY_SKU_FINGERPRINT_INVALID"
  let db ← renewSkuLease db q
  match db.cache.get? q.fingerprint with
  | some cached => do
    check (cached.productId = q.productId) "ALIEXPRESS_DISCOVERY_SKU_CACHE_IDENTITY_MISMATCH"
    return ({ db with
        runs := db.runs.updateWhere (fun id _ => id = q.runId) fun run =>
          { run with cacheHitCount := run.cacheHitCount + 1 } },
      .cache (SkuCache.page columns cached q.productId))
  | none => claimSkuCall db q

/-- The claim is the unexpired one of this run, token and product. -/
def SkuHeldBy (runId token : Nat) (productId : Text) (now : Instant) (claim : SkuClaim) : Prop :=
  claim.ownerRunId = runId ∧ claim.leaseToken = token ∧ now < claim.leaseUntil ∧
    claim.productId = productId

instance (runId token : Nat) (productId : Text) (now : Instant) :
    DecidablePred (SkuHeldBy runId token productId now) :=
  fun _ => inferInstanceAs (Decidable (_ ∧ _))

/-- `DELETE` of the claim with a token. -/
def releaseSkuClaim (claims : SqlTable Text SkuClaim) (fingerprint : Text) (token : Nat) :
    SqlTable Text SkuClaim :=
  claims.deleteWhere fun k claim => k = fingerprint ∧ claim.leaseToken = token

/-- What the database checks of the SKUs of a page. -/
def SkusInsertable (skus : List DiscoverySku) : Prop :=
  (skus.map DiscoverySku.skuId).Nodup ∧
    ∀ sku ∈ skus, 0 < sku.salePriceWithTax ∧ sku.currency = "BRL".toList

instance : DecidablePred SkusInsertable := fun _ => inferInstanceAs (Decidable (_ ∧ _))

/-- `finish_sku_success`. -/
def finishSkuSuccess (db : SkuDb) (runId : Nat) (fingerprint : Text) (token : Nat)
    (page : DiscoverySkuPage) (now : Instant) : Except String SkuDb := do
  check (1 ≤ page.skus.length ∧ page.skus.length < 20)
    "ALIEXPRESS_DISCOVERY_SKU_CACHE_INPUT_INVALID"
  let _ ← orRaise ((db.claims.get? fingerprint).filter fun claim =>
    SkuHeldBy runId token page.productId now claim) "ALIEXPRESS_DISCOVERY_SKU_LEASE_LOST"
  check (db.cache.get? fingerprint = none ∧ SkusInsertable page.skus) "IntegrityError"
  return { db with
    cache := db.cache.put fingerprint
      ⟨page.productId, now, now + skuCacheTtl, page.skus.length, page.skus⟩
    claims := releaseSkuClaim db.claims fingerprint token }

/-- `abandon_claim`. -/
def abandonClaim (db : SkuDb) (fingerprint : Text) (token : Option Nat) : SkuDb :=
  match token with
  | none => db
  | some token => { db with claims := releaseSkuClaim db.claims fingerprint token }

/-! ## Items -/

/-- What `record_item` is called with. -/
structure ItemRecord where
  runId : Nat
  productId : Text
  fingerprint : Text
  origin : DiscoveryOrigin
  sourceProductScore : Int
  result : SkuMatchResult
  observedAt : Instant
  errorCode : Option String

def ItemRecord.row (q : ItemRecord) : SkuItem where
  skuQueryFingerprint := q.fingerprint
  origin := q.origin
  state := q.result.state
  sourceProductScore := q.sourceProductScore
  selectedSkuId := q.result.selected.map DiscoverySku.skuId
  salePriceWithTax := q.result.selected.map DiscoverySku.salePriceWithTax
  currency := q.result.selected.map DiscoverySku.currency
  historyMedian := none
  historySnapshotCount := 0
  priceDropPercent := none
  classification := none
  rankPosition := none
  errorCode := q.errorCode
  alternatives := q.result.alternatives.map fun sku =>
    (sku.skuId, sku.salePriceWithTax, sku.attributes)

/-- What the database checks of an item and its alternatives. -/
def ItemRecord.Insertable (q : ItemRecord) : Prop :=
  (∀ sku ∈ q.result.selected, 0 < sku.salePriceWithTax ∧ sku.currency = "BRL".toList) ∧
    0 ≤ q.sourceProductScore ∧ q.sourceProductScore ≤ 100 ∧
    (q.result.alternatives.map DiscoverySku.skuId).Nodup ∧
    ∀ sku ∈ q.result.alternatives, 0 < sku.salePriceWithTax

instance : DecidablePred ItemRecord.Insertable := fun _ => inferInstanceAs (Decidable (_ ∧ _))

/-- The snapshot of an item: a SKU selected on a live page. -/
def ItemRecord.snapshot (q : ItemRecord) : Option (SkuSnapshotKey × SkuSnapshot) :=
  match q.origin, q.result.selected with
  | .live, some sku => some ((q.runId, q.productId, sku.skuId), ⟨sku.salePriceWithTax, q.observedAt⟩)
  | _, _ => none

/-- The insertion of a snapshot. -/
def insertSnapshot (snapshots : SqlTable SkuSnapshotKey SkuSnapshot) :
    Option (SkuSnapshotKey × SkuSnapshot) → Except String (SqlTable SkuSnapshotKey SkuSnapshot)
  | none => .ok snapshots
  | some (key, row) => do
    check (snapshots.get? key = none) "IntegrityError"
    return snapshots.put key row

/-- `record_item`. -/
def recordItem (db : SkuDb) (q : ItemRecord) : Except String SkuDb := do
  check (db.items.get? (q.runId, q.productId) = none ∧ q.Insertable) "IntegrityError"
  let run ← orRaise (db.runs.get? q.runId) "ALIEXPRESS_DISCOVERY_SKU_RUN_NOT_ACTIVE"
  check (run.state = .running) "ALIEXPRESS_DISCOVERY_SKU_RUN_NOT_ACTIVE"
  let snapshots ← insertSnapshot db.snapshots q.snapshot
  return { db with
    items := db.items.put (q.runId, q.productId) q.row
    snapshots := snapshots
    runs := db.runs.updateWhere (fun id _ => id = q.runId) fun run =>
      { run with
        refinedCount := run.refinedCount + 1
        snapshotCount := run.snapshotCount + if q.snapshot.isSome then 1 else 0 } }

/-! ## The ranking of a run -/

/-- The matched items of a run, in the order they are stored in. -/
def storedMatches (db : SkuDb) (runId : Nat) : List (ResultKey × SkuItem) :=
  db.items.select fun key item => key.1 = runId ∧ item.state = .matched

/-- The `SELECT` of the matched items.  It has no `ORDER BY`, but the one index that begins
with `refinement_run_id` is that of the unique constraint over run and product, and SQLite
answers the condition on the run by walking it: the rows come in the order of the texts of
their products, whatever order they are stored in. -/
def matchedItems (db : SkuDb) (runId : Nat) : List (ResultKey × SkuItem) :=
  (storedMatches db runId).insertionSort fun a b => a.1.2 ≤ b.1.2

theorem mem_matchedItems {db : SkuDb} {runId : Nat} {e : ResultKey × SkuItem} :
    e ∈ matchedItems db runId ↔
      db.items.get? e.1 = some e.2 ∧ e.1.1 = runId ∧ e.2.state = .matched := by
  unfold matchedItems
  rw [List.mem_insertionSort]
  exact mem_select

/-- The prices `rank_run` hands on. -/
def priorSkuPrices (columns : NumericType) (db : SkuDb) (runId : Nat) (productId skuId : Text)
    (now : Instant) : List HistoricalSkuPrice :=
  (db.snapshots.select fun key snapshot =>
    key.2.1 = productId ∧ key.2.2 = skuId ∧ key.1 ≠ runId ∧
      now - seconds (30 * 24 * 60 * 60) ≤ snapshot.observedAt ∧ snapshot.observedAt < now).map
    fun e => ⟨e.1.1, e.1.2.1, e.1.2.2, columns.read 2 e.2.price, e.2.observedAt⟩

/-- The history of a matched item. -/
def rankItem (columns : NumericType) (db : SkuDb) (runId : Nat) (run : SkuRun) (now : Instant)
    (e : ResultKey × SkuItem) : Except String (ResultKey × SkuItem) := do
  let skuId ← orRaise e.2.selectedSkuId "ALIEXPRESS_DISCOVERY_SKU_MATCH_INCOMPLETE"
  let price ← orRaise e.2.salePriceWithTax "ALIEXPRESS_DISCOVERY_SKU_MATCH_INCOMPLETE"
  let history ← rankSkuPrice ⟨e.1.2, skuId, runId, columns.read 2 price, now,
    columns.read 4 run.minimumDropPercent⟩ (priorSkuPrices columns db runId e.1.2 skuId now)
  return (e.1, { e.2 with
    historyMedian := history.historyMedian
    historySnapshotCount := history.historySnapshotCount
    priceDropPercent := history.priceDropPercent
    classification := some history.classification })

/-- The key items are sorted by. -/
def rankKey (columns : NumericType) (e : ResultKey × SkuItem) :
    Nat × Decimal × Int × Decimal × Nat × Nat :=
  (if e.2.classification = some .historyBackedPriceDrop then 0 else 1,
    -(e.2.priceDropPercent.getD 0), -e.2.sourceProductScore,
    (e.2.salePriceWithTax.map (columns.read 2)).getD 0, e.1.2.toNat,
    (e.2.selectedSkuId.getD "0".toList).toNat)

/-- The comparison of two keys, part by part. -/
def rankLe (a b : Nat × Decimal × Int × Decimal × Nat × Nat) : Prop :=
  ((cmp a.1 b.1).then <| (cmp a.2.1 b.2.1).then <| (cmp a.2.2.1 b.2.2.1).then <|
    (cmp a.2.2.2.1 b.2.2.2.1).then <| (cmp a.2.2.2.2.1 b.2.2.2.2.1).then <|
    cmp a.2.2.2.2.2 b.2.2.2.2.2) ≠ .gt

instance : DecidableRel rankLe := fun _ _ => inferInstanceAs (Decidable (_ ≠ _))

/-- The items written back, each with its position. -/
def writeRanked (items : SqlTable ResultKey SkuItem) :
    Nat → List (ResultKey × SkuItem) → SqlTable ResultKey SkuItem
  | _, [] => items
  | position, (key, item) :: rest =>
    writeRanked (items.put key { item with rankPosition := some position }) (position + 1) rest

/-- `rank_run`. -/
def rankRun (columns : NumericType) (db : SkuDb) (runId : Nat) (now : Instant) :
    Except String SkuDb := do
  let run ← orRaise (db.runs.get? runId) "ALIEXPRESS_DISCOVERY_SKU_RUN_NOT_ACTIVE"
  check (run.state = .running) "ALIEXPRESS_DISCOVERY_SKU_RUN_NOT_ACTIVE"
  let ranked ← (matchedItems db runId).mapM (rankItem columns db runId run now)
  let sorted := ranked.insertionSort fun a b => rankLe (rankKey columns a) (rankKey columns b)
  return { db with items := writeRanked db.items 1 sorted }

end SkuRefinementRepository
end PromoBot
