import PromoBot.Database.DiscoveryCache
import PromoBot.Discovery.Ranking
import PromoBot.Lib.Fallible
import PromoBot.Lib.SqlTable

/-!
# Discovery runs in the database

`DiscoveryRepository` (`database/aliexpress_discovery_repository.py`): the runs, the claims
on queries, the cached pages, and what was found, with the prices seen live.

A method is a function from the database to the database it leaves; an exception rolls
back, so it leaves nothing.  SQLite begins a transaction at the first statement that writes:
`claim_query`, `finish_run` and `abandon_query` begin with one, and are atomic.
`finish_query_success` begins with two `SELECT`s, so it is two functions here, `readHeld` and
`storePage`, and others may write in between.  The unique constraints of claims, cached pages, results and
snapshots are the keys of their tables, and `snapshot_id` is the key of the snapshot.  A
lease token, `uuid4().hex`, is the next number not used before.
-/

namespace PromoBot

open Discovery Fallible SqlTable

/-- `DiscoveryRunState`. -/
inductive DiscoveryRunState
  | running | completed | stopped | reviewRequired | uncertain
  deriving DecidableEq, Repr

/-- Whether something was seen live, or came from the cache. -/
inductive DiscoveryOrigin
  | live | cache
  deriving DecidableEq, Repr

/-- A row of `aliexpress_discovery_runs`. -/
structure DiscoveryRun where
  profileName : Text
  profileFingerprint : Text
  sourceOperation : DiscoveryOperation
  state : DiscoveryRunState
  startedAt : Instant
  finishedAt : Option Instant
  leaseToken : Option Nat
  leaseUntil : Option Instant
  pageSize : Nat
  maxPages : Nat
  maxResults : Nat
  maxApiCalls : Nat
  minimumDropPercent : Decimal
  apiCallCount : Nat
  cacheHitCount : Nat
  pageCount : Nat
  receivedCount : Nat
  uniqueProductCount : Nat
  snapshotCount : Nat
  stopReason : Option String
  errorCode : Option String
  deriving DecidableEq

/-- The query and tracking fingerprints of a query. -/
structure QueryKey where
  query : Text
  tracking : Text
  deriving DecidableEq, Repr

/-- A row of `aliexpress_discovery_query_claims`. -/
structure DiscoveryClaim where
  ownerRunId : Nat
  queryOrdinal : Nat
  pageNo : Nat
  leaseToken : Nat
  claimedAt : Instant
  leaseUntil : Instant
  deriving DecidableEq, Repr

/-- A run and a product. -/
abbrev ResultKey := Nat × Text

/-- A row of `aliexpress_discovery_price_snapshots`. -/
structure PriceSnapshot where
  key : QueryKey
  price : Decimal
  observedAt : Instant
  sourceOperation : DiscoveryOperation
  deriving DecidableEq

/-- A row of `aliexpress_discovery_run_results`. -/
structure RunResult where
  origin : DiscoveryOrigin
  snapshotId : Option ResultKey
  title : Option Text
  imageUrl : Option Text
  targetBrlPrice : Option Decimal
  observedPrices : List ObservedPrice
  declaredDiscountPercent : Option Decimal
  commissionRate : Option Decimal
  volume : Option Nat
  minimumDropPercent : Decimal
  score : DiscoveryScore
  matchedQueryCount : Nat
  deriving DecidableEq

/-- The tables of discovery. -/
structure DiscoveryDb where
  runs : SqlTable Nat DiscoveryRun
  claims : SqlTable QueryKey DiscoveryClaim
  cache : SqlTable QueryKey QueryCache
  results : SqlTable ResultKey RunResult
  snapshots : SqlTable ResultKey PriceSnapshot
  nextToken : Nat

namespace DiscoveryRepository

/-! ## Runs -/

/-- What `create_run` is called with. -/
structure NewRun where
  profileName : Text
  profileFingerprint : Text
  pageSize : Nat
  maxPages : Nat
  maxResults : Nat
  maxApiCalls : Nat
  minimumDropPercent : Decimal
  now : Instant
  leaseUntil : Instant
  sourceOperation : DiscoveryOperation

def NewRun.row (q : NewRun) (token : Nat) : DiscoveryRun where
  profileName := q.profileName
  profileFingerprint := q.profileFingerprint
  sourceOperation := q.sourceOperation
  state := .running
  startedAt := q.now
  finishedAt := none
  leaseToken := some token
  leaseUntil := some q.leaseUntil
  pageSize := q.pageSize
  maxPages := q.maxPages
  maxResults := q.maxResults
  maxApiCalls := q.maxApiCalls
  minimumDropPercent := q.minimumDropPercent
  apiCallCount := 0
  cacheHitCount := 0
  pageCount := 0
  receivedCount := 0
  uniqueProductCount := 0
  snapshotCount := 0
  stopReason := none
  errorCode := none

/-- `create_run`, with the number of the row. -/
def createRun (db : DiscoveryDb) (q : NewRun) : DiscoveryDb × Nat :=
  ({ db with
      runs := db.runs.put db.runs.freshId (q.row db.nextToken)
      nextToken := db.nextToken + 1 },
    db.runs.freshId)

/-- The row of a run that ends. -/
def finished (state : DiscoveryRunState) (now : Instant) (stopReason : String)
    (errorCode : Option String) (run : DiscoveryRun) : DiscoveryRun :=
  { run with
    state := state
    finishedAt := some now
    leaseToken := none
    leaseUntil := none
    stopReason := some stopReason
    errorCode := errorCode }

/-- `finish_run`. -/
def finishRun (db : DiscoveryDb) (runId : Nat) (state : DiscoveryRunState) (now : Instant)
    (stopReason : String) (errorCode : Option String) : Except String DiscoveryDb := do
  check (state ≠ .running) "ALIEXPRESS_DISCOVERY_TERMINAL_STATE_REQUIRED"
  let runs ← orRaise (db.runs.updateOne runId (fun run => run.state = .running)
    (finished state now stopReason errorCode)) "ALIEXPRESS_DISCOVERY_RUN_TRANSITION_CONFLICT"
  return { db with runs := runs }

/-! ## Claims -/

/-- Some claim of the run has expired. -/
def HasExpiredClaim (db : DiscoveryDb) (now : Instant) (runId : Nat) : Prop :=
  ∃ e ∈ db.claims.select (fun _ claim => claim.leaseUntil ≤ now), e.2.ownerRunId = runId

instance (db : DiscoveryDb) (now : Instant) : DecidablePred (HasExpiredClaim db now) :=
  fun _ => inferInstanceAs (Decidable (∃ e ∈ _, _))

/-- What `_recover_expired` takes for a run that is gone. -/
def Lapsed (db : DiscoveryDb) (now : Instant) (activeRunId : Nat) (id : Nat)
    (run : DiscoveryRun) : Prop :=
  run.state = .running ∧ id ≠ activeRunId ∧
    (AtMost run.leaseUntil now ∨ HasExpiredClaim db now id)

instance (db : DiscoveryDb) (now : Instant) (activeRunId id : Nat) :
    DecidablePred (Lapsed db now activeRunId id) :=
  fun _ => inferInstanceAs (Decidable (_ ∧ _))

/-- `_recover_expired`. -/
def recoverExpired (db : DiscoveryDb) (now : Instant) (activeRunId : Nat) : DiscoveryDb :=
  { db with
    runs := db.runs.updateWhere (Lapsed db now activeRunId)
      (finished .uncertain now "UNCERTAIN" (some "ALIEXPRESS_DISCOVERY_LEASE_EXPIRED"))
    claims := db.claims.deleteWhere fun _ claim => claim.leaseUntil ≤ now }

/-- `_purge_expired_cache`. -/
def purgeExpiredCache (db : DiscoveryDb) (now : Instant) : DiscoveryDb :=
  { db with cache := db.cache.deleteWhere fun _ cached => cached.expiresAt ≤ now }

/-- What `claim_query` is called with. -/
structure ClaimRequest where
  runId : Nat
  key : QueryKey
  queryOrdinal : Nat
  pageNo : Nat
  now : Instant
  leaseUntil : Instant

/-- `DiscoveryQueryClaim`, by its disposition. -/
inductive DiscoveryQueryClaim
  | call (leaseToken : Nat)
  | cache (page : DiscoveryPage)
  | inProgress

/-- The counters of a run that is served from the cache. -/
def cacheHit (itemCount : Nat) (run : DiscoveryRun) : DiscoveryRun :=
  { run with
    cacheHitCount := run.cacheHitCount + 1
    pageCount := run.pageCount + 1
    receivedCount := run.receivedCount + itemCount }

/-- The part of `claim_query` that follows the recovery. -/
def claimCall (db : DiscoveryDb) (q : ClaimRequest) :
    Except String (DiscoveryDb × DiscoveryQueryClaim) :=
  if (db.claims.get? q.key).isSome then .ok (db, .inProgress)
  else do
    let runs ← orRaise (db.runs.updateOne q.runId
      (fun run => run.state = .running ∧ run.apiCallCount < run.maxApiCalls)
      fun run => { run with apiCallCount := run.apiCallCount + 1 })
      "ALIEXPRESS_DISCOVERY_API_BUDGET_EXHAUSTED"
    let claim : DiscoveryClaim :=
      ⟨q.runId, q.queryOrdinal, q.pageNo, db.nextToken, q.now, q.leaseUntil⟩
    return ({ db with
        runs := runs
        claims := db.claims.put q.key claim
        nextToken := db.nextToken + 1 },
      .call db.nextToken)

/-- A run asks for its lease to be renewed, and the lapsed runs and pages are cleared
away. -/
def renewLease (db : DiscoveryDb) (q : ClaimRequest) : Except String DiscoveryDb := do
  let db := recoverExpired db q.now q.runId
  let runs ← orRaise (db.runs.updateOne q.runId (fun run => run.state = .running)
    fun run => { run with leaseUntil := some q.leaseUntil }) "ALIEXPRESS_DISCOVERY_RUN_NOT_ACTIVE"
  return purgeExpiredCache { db with runs := runs } q.now

/-- `claim_query`. -/
def claimQuery (columns : NumericType) (db : DiscoveryDb) (q : ClaimRequest) :
    Except String (DiscoveryDb × DiscoveryQueryClaim) := do
  check (q.key.query.length = 64 ∧ q.key.tracking.length = 64)
    "ALIEXPRESS_DISCOVERY_FINGERPRINT_INVALID"
  let db ← renewLease db q
  let run ← orRaise (db.runs.get? q.runId) "ALIEXPRESS_DISCOVERY_RUN_NOT_FOUND"
  match (db.cache.get? q.key).filter (q.now < ·.expiresAt) with
  | some cached => do
    check (cached.sourceOperation = run.sourceOperation)
      "ALIEXPRESS_DISCOVERY_CACHE_SOURCE_MISMATCH"
    return ({ db with
        runs := db.runs.updateWhere (fun id _ => id = q.runId) (cacheHit cached.itemCount) },
      .cache (cached.page columns))
  | none => claimCall db q

/-- The claim is the unexpired one of this run and token. -/
def HeldBy (runId token : Nat) (now : Instant) (claim : DiscoveryClaim) : Prop :=
  claim.ownerRunId = runId ∧ claim.leaseToken = token ∧ now < claim.leaseUntil

instance (runId token : Nat) (now : Instant) : DecidablePred (HeldBy runId token now) :=
  fun _ => inferInstanceAs (Decidable (_ ∧ _))

/-- `DELETE` of the claim with a token. -/
def releaseClaim (claims : SqlTable QueryKey DiscoveryClaim) (key : QueryKey) (token : Nat) :
    SqlTable QueryKey DiscoveryClaim :=
  claims.deleteWhere fun k claim => k = key ∧ claim.leaseToken = token

/-- What `finish_query_success` reads before its first write: the claim, if the run holds it and
it has not expired, and the run. -/
def readHeld (db : DiscoveryDb) (runId : Nat) (key : QueryKey) (token : Nat) (now : Instant) :
    Except String DiscoveryRun := do
  let _ ← orRaise ((db.claims.get? key).filter fun claim => HeldBy runId token now claim)
    "ALIEXPRESS_DISCOVERY_LEASE_LOST"
  orRaise (db.runs.get? runId) "ALIEXPRESS_DISCOVERY_RUN_NOT_FOUND"

/-- What `finish_query_success` writes, with the operation of the run it has read. -/
def storePage (db : DiscoveryDb) (runId : Nat) (key : QueryKey) (token : Nat)
    (page : DiscoveryPage) (operation : DiscoveryOperation) (now : Instant) :
    Except String DiscoveryDb := do
  check (db.cache.get? key = none) "IntegrityError"
  let cached := QueryCache.ofPage operation page now
  check cached.Insertable "IntegrityError"
  return { db with
    cache := db.cache.put key cached
    claims := releaseClaim db.claims key token
    runs := db.runs.updateWhere (fun id _ => id = runId) fun run =>
      { run with
        pageCount := run.pageCount + 1
        receivedCount := run.receivedCount + page.itemCount } }

/-- `finish_query_success`, when nothing comes between its reads and its writes. -/
def finishQuerySuccess (db : DiscoveryDb) (runId : Nat) (key : QueryKey) (token : Nat)
    (page : DiscoveryPage) (now : Instant) : Except String DiscoveryDb := do
  let run ← readHeld db runId key token now
  storePage db runId key token page run.sourceOperation now

/-- `abandon_query`. -/
def abandonQuery (db : DiscoveryDb) (key : QueryKey) (token : Nat) : DiscoveryDb :=
  { db with claims := releaseClaim db.claims key token }

/-! ## Results -/

/-- The prices `_rank_product` looks at: those of other runs of the same operation, of the
last 30 days. -/
def priorPrices (columns : NumericType) (db : DiscoveryDb) (runId : Nat) (run : DiscoveryRun)
    (product : DiscoveryProduct) (observedAt : Instant) : List Decimal :=
  (db.snapshots.select fun key snapshot =>
    key.2 = product.productId ∧ snapshot.sourceOperation = run.sourceOperation ∧
      key.1 ≠ runId ∧ observedAt - seconds (30 * 24 * 60 * 60) ≤ snapshot.observedAt ∧
      snapshot.observedAt < observedAt).map fun e => columns.read 2 e.2.price

/-- `_rank_product`. -/
def rankProduct (columns : NumericType) (db : DiscoveryDb) (runId : Nat) (run : DiscoveryRun)
    (product : DiscoveryProduct) (observedAt : Instant) : DiscoveryScore :=
  rankDiscoveryProduct product (priorPrices columns db runId run product observedAt)
    (columns.read 4 run.minimumDropPercent)

def resultRow (origin : DiscoveryOrigin) (snapshotId : Option ResultKey) (product : DiscoveryProduct)
    (minimumDrop : Decimal) (score : DiscoveryScore) (matchedQueryCount : Nat) : RunResult where
  origin := origin
  snapshotId := snapshotId
  title := product.title
  imageUrl := product.imageUrl
  targetBrlPrice := product.targetBrlPrice
  observedPrices := product.observedPrices
  declaredDiscountPercent := product.declaredDiscountPercent
  commissionRate := product.commissionRate
  volume := product.volume
  minimumDropPercent := minimumDrop
  score := score
  matchedQueryCount := matchedQueryCount

/-- What the database checks of a result that the ranking does not see to. -/
def ResultInsertable (row : RunResult) : Prop :=
  (∀ price ∈ row.targetBrlPrice, 0 < price) ∧ ∀ volume ∈ row.volume, FitsInteger volume

instance : DecidablePred ResultInsertable := fun _ => inferInstanceAs (Decidable (_ ∧ _))

/-- `_create_snapshot`: the table, and the key of the row if there is one. -/
def createSnapshot (db : DiscoveryDb) (runId : Nat) (run : DiscoveryRun) (key : QueryKey)
    (product : DiscoveryProduct) (observedAt : Instant) :
    Except String (SqlTable ResultKey PriceSnapshot × Option ResultKey) :=
  match product.targetBrlPrice with
  | none => .ok (db.snapshots, none)
  | some price => do
    check (db.snapshots.get? (runId, product.productId) = none) "IntegrityError"
    check (0 < price) "IntegrityError"
    return (db.snapshots.put (runId, product.productId)
      ⟨key, price, observedAt, run.sourceOperation⟩, some (runId, product.productId))

/-- `RecordedProduct`. -/
structure RecordedProduct where
  insertedUnique : Bool
  snapshotCreated : Bool
  deriving DecidableEq, Repr

/-- What `record_product` is called with. -/
structure Recording where
  runId : Nat
  key : QueryKey
  product : DiscoveryProduct
  origin : DiscoveryOrigin
  observedAt : Instant

/-- The row of the product in the run. -/
def Recording.resultKey (q : Recording) : ResultKey := (q.runId, q.product.productId)

/-- One more snapshot in the counter, if there is one. -/
def countSnapshot (snapshotId : Option ResultKey) (run : DiscoveryRun) : DiscoveryRun :=
  { run with snapshotCount := run.snapshotCount + if snapshotId.isSome then 1 else 0 }

/-- `record_product`, for a product the run has: it is counted, and a cached result gives
way to a live one. -/
def recordAgain (columns : NumericType) (db : DiscoveryDb) (q : Recording) (run : DiscoveryRun)
    (existing : RunResult) : Except String (DiscoveryDb × RecordedProduct) :=
  if existing.origin = .live ∨ q.origin = .cache then
    .ok ({ db with
        results := db.results.put q.resultKey
          { existing with matchedQueryCount := existing.matchedQueryCount + 1 } },
      ⟨false, false⟩)
  else do
    let score := rankProduct columns db q.runId run q.product q.observedAt
    let (snapshots, snapshotId) ← createSnapshot db q.runId run q.key q.product q.observedAt
    let row := resultRow .live snapshotId q.product existing.minimumDropPercent score
      (existing.matchedQueryCount + 1)
    check (ResultInsertable row) "IntegrityError"
    return ({ db with
        results := db.results.put q.resultKey row
        snapshots := snapshots
        runs := db.runs.updateWhere (fun id _ => id = q.runId) (countSnapshot snapshotId) },
      ⟨false, snapshotId.isSome⟩)

/-- The snapshot of a new result: only one seen live has any. -/
def newSnapshot (db : DiscoveryDb) (q : Recording) (run : DiscoveryRun) :
    Except String (SqlTable ResultKey PriceSnapshot × Option ResultKey) :=
  match q.origin with
  | .live => createSnapshot db q.runId run q.key q.product q.observedAt
  | .cache => .ok (db.snapshots, none)

/-- `record_product`, for a product new to the run. -/
def recordNew (columns : NumericType) (db : DiscoveryDb) (q : Recording) (run : DiscoveryRun) :
    Except String (DiscoveryDb × RecordedProduct) := do
  let score := rankProduct columns db q.runId run q.product q.observedAt
  let (snapshots, snapshotId) ← newSnapshot db q run
  let row := resultRow q.origin snapshotId q.product (columns.read 4 run.minimumDropPercent) score 1
  check (ResultInsertable row) "IntegrityError"
  return ({ db with
      results := db.results.put q.resultKey row
      snapshots := snapshots
      runs := db.runs.updateWhere (fun id _ => id = q.runId) fun run =>
        { countSnapshot snapshotId run with uniqueProductCount := run.uniqueProductCount + 1 } },
    ⟨true, snapshotId.isSome⟩)

/-- `record_product`. -/
def recordProduct (columns : NumericType) (db : DiscoveryDb) (q : Recording) :
    Except String (DiscoveryDb × RecordedProduct) := do
  let run ← orRaise (db.runs.get? q.runId) "ALIEXPRESS_DISCOVERY_RUN_NOT_FOUND"
  match db.results.get? q.resultKey with
  | some existing => recordAgain columns db q run existing
  | none => recordNew columns db q run

end DiscoveryRepository
end PromoBot
