import Mathlib.Logic.Function.Basic
import PromoBot.Database.SkuRefinements
import PromoBot.Lib.TransitionSystem

/-!
# Refinements of one database

`AliExpressSkuRefinementRunner.refine` (`discovery/sku_runner.py`), for any number of
runners that work on one database at once.  As with the scanners, an action takes a runner
from one wait to the next: a transaction with the branch taken on its outcome, or an answer
of the gateway.

A page is judged as soon as it is there, so that what is left to do with it is one
transaction: it goes to a reviewer, or its SKUs are recorded.

`grants` are the claims ever granted, and `fromCache` the items that were recorded of a
cached page.  No step reads them.
-/

namespace PromoBot
namespace Discovery

open Fallible SkuRefinementRepository SqlTable

/-- `LEASE_DURATION`. -/
def skuLeaseDuration : Int := seconds 60

/-- `SkuRefinementProfile`, with what its validators see to. -/
structure SkuRefinementProfile where
  maxRefinedProducts : Nat
  maxSkuApiCalls : Nat
  requirements : List SkuRequirement
  calls_le : maxSkuApiCalls ≤ maxRefinedProducts
  requirements_ne : requirements ≠ []

/-- A call of `refine`.  `fingerprint` is `sku_query_fingerprint` with the secret. -/
structure SkuJob where
  sourceRunId : Nat
  profileName : Text
  profileFingerprint : Text
  requirementsFingerprint : Text
  minimumPriceDropPercent : Decimal
  refinement : SkuRefinementProfile
  fingerprint : Text → Text

/-- What the loop reads of a result of the source run. -/
structure Candidate where
  productId : Text
  totalScore : Int
  deriving DecidableEq, Repr

/-- `ITEM_ERROR_CODES`. -/
def itemErrorCodes : List String :=
  ["ALIEXPRESS_DISCOVERY_SKU_PRODUCT_MISMATCH", "ALIEXPRESS_DISCOVERY_SKU_DUPLICATE",
    "ALIEXPRESS_DISCOVERY_SKU_CURRENCY_INVALID", "ALIEXPRESS_DISCOVERY_SKU_SALE_PRICE_INVALID",
    "ALIEXPRESS_DISCOVERY_SKU_POSSIBLY_TRUNCATED", "ALIEXPRESS_DISCOVERY_SKU_ITEM_INVALID"]

/-- Where the evidence of an item came from: the gateway, with the claim it was called for,
or the cache. -/
inductive SkuSource
  | live (token : Nat)
  | cached
  deriving DecidableEq, Repr

/-- `claim.lease_token`. -/
def SkuSource.token : SkuSource → Option Nat
  | .live token => some token
  | .cached => none

/-- `origin`. -/
def SkuSource.origin : SkuSource → DiscoveryOrigin
  | .live _ => .live
  | .cached => .cache

/-- Where a runner is in `refine`. -/
inductive RefinePhase
  /-- At the top of the loop over the shortlist. -/
  | next
  /-- The gateway is called for the candidate. -/
  | call (candidate : Candidate) (token : Nat)
  /-- `_record_review_item` is next. -/
  | review (candidate : Candidate) (source : SkuSource) (errorCode : String)
  /-- The transaction that records a page is next. -/
  | record (candidate : Candidate) (source : SkuSource) (page : DiscoverySkuPage)
  /-- `_finish` is next. -/
  | finish (state : DiscoveryRunState) (stopReason : String) (errorCode : Option String)
  /-- `_fail` is next. -/
  | fail (candidate : Candidate) (token : Nat) (state : DiscoveryRunState) (errorCode : String)
  /-- `refine` has returned. -/
  | returned
  /-- `refine` has raised, or its process is gone. -/
  | gone

/-- A runner: its job and its local variables. -/
structure Refiner where
  job : SkuJob
  runId : Nat
  shortlist : List Candidate
  phase : RefinePhase

/-! ## The shortlist -/

/-- The order of the shortlist. -/
def shortlistLe (a b : Candidate) : Prop :=
  ((cmp (-a.totalScore) (-b.totalScore)).then (cmp a.productId.toNat b.productId.toNat)) ≠ .gt

instance : DecidableRel shortlistLe := fun _ _ => inferInstanceAs (Decidable (_ ≠ _))

/-- The results of a run. -/
def candidatesOf (source : DiscoveryDb) (sourceRunId : Nat) : List Candidate :=
  (source.results.select fun key _ => key.1 = sourceRunId).map fun e =>
    ⟨e.1.2, e.2.score.totalScore⟩

/-- The first transaction of `refine`: the shortlist of a source run that was completed with
this profile. -/
def selectShortlist (source : DiscoveryDb) (job : SkuJob) : Except String (List Candidate) := do
  let run ← orRaise (source.runs.get? job.sourceRunId)
    "ALIEXPRESS_DISCOVERY_SKU_SOURCE_NOT_COMPLETED"
  check (run.state = .completed) "ALIEXPRESS_DISCOVERY_SKU_SOURCE_NOT_COMPLETED"
  check (run.profileName = job.profileName ∧ run.profileFingerprint = job.profileFingerprint)
    "ALIEXPRESS_DISCOVERY_SKU_PROFILE_MISMATCH"
  return ((candidatesOf source job.sourceRunId).insertionSort shortlistLe).take
    job.refinement.maxRefinedProducts

/-! ## The branches -/

namespace Refiner

/-- A runner about to turn to the next candidate. -/
def atNext (r : Refiner) : Refiner := { r with phase := .next }

/-- The runner ends its run. -/
def finishing (r : Refiner) (state : DiscoveryRunState) (stopReason : String)
    (errorCode : Option String) : Refiner :=
  { r with phase := .finish state stopReason errorCode }

/-- The runner is gone. -/
def vanish (r : Refiner) : Refiner := { r with phase := .gone }

/-- What the runner does with a page. -/
def judge (u : PyUnicode) (r : Refiner) (candidate : Candidate) (source : SkuSource)
    (page : DiscoverySkuPage) : Refiner :=
  { r with phase :=
      if page.productId ≠ candidate.productId then
        .review candidate source "ALIEXPRESS_DISCOVERY_SKU_PRODUCT_MISMATCH"
      else if Comparable u page r.job.refinement.requirements then .record candidate source page
      else .review candidate source "ALIEXPRESS_DISCOVERY_SKU_ITEM_INVALID" }

/-- The branch taken on the claim that was answered. -/
def claimed (u : PyUnicode) (r : Refiner) (candidate : Candidate) : SkuQueryClaim → Refiner
  | .call token => { r with phase := .call candidate token }
  | .cache page => r.judge u candidate .cached page
  | .inProgress => r.finishing .stopped "CONCURRENT_SKU_QUERY_IN_PROGRESS"
      (some "CONCURRENT_SKU_QUERY_IN_PROGRESS")

/-- The branch taken when `claim_sku` raises. -/
def refused (r : Refiner) (error : String) : Refiner :=
  if error = "ALIEXPRESS_DISCOVERY_SKU_API_BUDGET_EXHAUSTED" then
    r.finishing .completed "MAX_SKU_API_CALLS" none
  else r.vanish

/-- What the runner claims. -/
def claimRequest (r : Refiner) (candidate : Candidate) (now : Instant) : SkuClaimRequest where
  runId := r.runId
  fingerprint := r.job.fingerprint candidate.productId
  productId := candidate.productId
  now := now
  leaseUntil := now + skuLeaseDuration

/-- The item of a candidate whose page was judged. -/
def item (r : Refiner) (candidate : Candidate) (origin : DiscoveryOrigin) (result : SkuMatchResult)
    (observedAt : Instant) (errorCode : Option String) : ItemRecord :=
  ⟨r.runId, candidate.productId, r.job.fingerprint candidate.productId, origin,
    candidate.totalScore, result, observedAt, errorCode⟩

/-- The run a runner creates. -/
def newRun (job : SkuJob) (now : Instant) : NewSkuRun where
  sourceRunId := job.sourceRunId
  profileName := job.profileName
  requirementsFingerprint := job.requirementsFingerprint
  maxRefinedProducts := job.refinement.maxRefinedProducts
  maxSkuApiCalls := job.refinement.maxSkuApiCalls
  minimumDropPercent := job.minimumPriceDropPercent
  now := now
  leaseUntil := now + skuLeaseDuration

end Refiner

/-! ## The world -/

/-- The database, the runners and the histories. -/
structure RefineWorld where
  db : SkuDb
  refiners : Nat → Option Refiner
  grants : List (Text × SkuClaim)
  fromCache : List ResultKey

/-- How the gateway ends a call. -/
inductive SkuAnswer
  | page (page : DiscoverySkuPage)
  /-- `ProviderError`. -/
  | providerError (code : String) (retryable : Bool)
  /-- `OSError` or `TimeoutError`. -/
  | transportError
  /-- `CancelledError`. -/
  | cancelled

/-- What can happen next. -/
inductive RefineAction
  /-- A runner starts on a job, reads the source run as it then is, and creates its run. -/
  | start (i : Nat) (job : SkuJob) (source : DiscoveryDb) (now : Instant)
  /-- The gateway answers a runner. -/
  | answer (i : Nat) (answer : SkuAnswer)
  /-- A runner goes on to its next wait. -/
  | proceed (i : Nat) (now : Instant)
  /-- A runner is gone, with its process or with an exception. -/
  | die (i : Nat)

/-- The runner that acts. -/
def RefineAction.refiner : RefineAction → Nat
  | .start i _ _ _ | .answer i _ | .proceed i _ | .die i => i

namespace RefineWorld

variable (columns : NumericType) (u : PyUnicode) (w : RefineWorld) (i : Nat) (r : Refiner)

/-- The runner `i` is now `r`. -/
def setRefiner : RefineWorld := { w with refiners := Function.update w.refiners i (some r) }

/-- `create_run`, and the loop begins. -/
def start (job : SkuJob) (shortlist : List Candidate) (now : Instant) : RefineWorld :=
  { w with db := (createSkuRun w.db (Refiner.newRun job now)).1 }.setRefiner i
    ⟨job, (createSkuRun w.db (Refiner.newRun job now)).2, shortlist, .next⟩

/-- The claims a transaction granted. -/
def granted (db : SkuDb) (fingerprint : Text) : SkuQueryClaim → List (Text × SkuClaim)
  | .call _ => ((db.claims.get? fingerprint).map fun claim => (fingerprint, claim)).toList ++ w.grants
  | .cache _ | .inProgress => w.grants

/-- `claim_sku`, for the first candidate of the shortlist. -/
def claim (candidate : Candidate) (rest : List Candidate) (now : Instant) : RefineWorld :=
  match claimSku columns w.db (r.claimRequest candidate now) with
  | .error error => w.setRefiner i (r.refused error)
  | .ok (db, claim) =>
    { w with db := db, grants := w.granted db (r.job.fingerprint candidate.productId) claim }
      |>.setRefiner i ({ r with shortlist := rest }.claimed u candidate claim)

/-- The items recorded of cached pages, with the one that is recorded now. -/
def noted (source : SkuSource) (key : ResultKey) : List ResultKey :=
  match source with
  | .live _ => w.fromCache
  | .cached => key :: w.fromCache

/-- `_record_review_item`. -/
def review (candidate : Candidate) (source : SkuSource) (errorCode : String) (now : Instant) :
    RefineWorld :=
  let fingerprint := r.job.fingerprint candidate.productId
  match recordItem (abandonClaim w.db fingerprint source.token)
      (r.item candidate .live .review now (some errorCode)) with
  | .error _ => w.setRefiner i r.vanish
  | .ok db =>
    { w with db := db, fromCache := w.noted source (r.runId, candidate.productId) }
      |>.setRefiner i r.atNext

/-- The statements that record a page. -/
def recordPage (candidate : Candidate) (source : SkuSource) (page : DiscoverySkuPage)
    (now : Instant) : Except String SkuDb := do
  let db ← match source with
    | .live token =>
      finishSkuSuccess w.db r.runId (r.job.fingerprint candidate.productId) token page now
    | .cached => .ok w.db
  recordItem db (r.item candidate source.origin
    (matchDiscoverySkus u page r.job.refinement.requirements) now none)

/-- The transaction that records a page. -/
def record (candidate : Candidate) (source : SkuSource) (page : DiscoverySkuPage)
    (now : Instant) : RefineWorld :=
  match w.recordPage u r candidate source page now with
  | .error _ => w.setRefiner i r.vanish
  | .ok db =>
    { w with db := db, fromCache := w.noted source (r.runId, candidate.productId) }
      |>.setRefiner i r.atNext

/-- The statements of `_finish`. -/
def finishStatements (state : DiscoveryRunState) (stopReason : String) (errorCode : Option String)
    (now : Instant) : Except String SkuDb := do
  let db ← if state = .completed then rankRun columns w.db r.runId now else .ok w.db
  finishSkuRun db r.runId state now stopReason errorCode

/-- `_finish`. -/
def finish (state : DiscoveryRunState) (stopReason : String) (errorCode : Option String)
    (now : Instant) : RefineWorld :=
  match w.finishStatements columns r state stopReason errorCode now with
  | .error _ => w.setRefiner i r.vanish
  | .ok db => { w with db := db }.setRefiner i { r with phase := .returned }

/-- The name of a state. -/
def stateText : DiscoveryRunState → String
  | .running => "RUNNING"
  | .completed => "COMPLETED"
  | .stopped => "STOPPED"
  | .reviewRequired => "REVIEW_REQUIRED"
  | .uncertain => "UNCERTAIN"

/-- `_fail`. -/
def fail (candidate : Candidate) (token : Nat) (state : DiscoveryRunState) (errorCode : String)
    (now : Instant) : RefineWorld :=
  match finishSkuRun (abandonClaim w.db (r.job.fingerprint candidate.productId) (some token))
      r.runId state now (stateText state) (some errorCode) with
  | .error _ => w.setRefiner i r.vanish
  | .ok db => { w with db := db }.setRefiner i { r with phase := .returned }

/-- A runner goes on. -/
def proceed (now : Instant) : Option RefineWorld :=
  match r.phase with
  | .next =>
    match r.shortlist with
    | [] => some (w.setRefiner i (r.finishing .completed "SHORTLIST_COMPLETED" none))
    | candidate :: rest => some (w.claim columns u i r candidate rest now)
  | .review candidate source errorCode => some (w.review i r candidate source errorCode now)
  | .record candidate source page => some (w.record u i r candidate source page now)
  | .finish state stopReason errorCode => some (w.finish columns i r state stopReason errorCode now)
  | .fail candidate token state errorCode => some (w.fail i r candidate token state errorCode now)
  | .call _ _ | .returned | .gone => none

/-- How a run ends whose provider raised. -/
def failureState (code : String) (retryable : Bool) : DiscoveryRunState :=
  if retryable ∨ code = "ALIEXPRESS_RETRY_EXHAUSTED" then .uncertain else .reviewRequired

/-- What a runner makes of the answer of the gateway. -/
def answered (candidate : Candidate) (token : Nat) : SkuAnswer → Refiner
  | .page page => r.judge u candidate (.live token) page
  | .providerError code retryable =>
    { r with phase :=
        if code ∈ itemErrorCodes then .review candidate (.live token) code
        else .fail candidate token (failureState code retryable) code }
  | .transportError =>
    { r with phase := .fail candidate token .uncertain "SKU_QUERY_TRANSPORT_UNCERTAIN" }
  | .cancelled => { r with phase := .fail candidate token .uncertain "SKU_QUERY_CANCELLED" }

end RefineWorld

def refineStep (columns : NumericType) (u : PyUnicode) (w : RefineWorld) :
    RefineAction → Option RefineWorld
  | .start i job source now =>
    match w.refiners i, selectShortlist source job with
    | none, .ok shortlist => some (w.start i job shortlist now)
    | _, _ => none
  | .answer i answer =>
    match w.refiners i with
    | some r =>
      match r.phase with
      | .call candidate token =>
        some (w.setRefiner i (RefineWorld.answered u r candidate token answer))
      | _ => none
    | none => none
  | .proceed i now =>
    match w.refiners i with
    | some r => w.proceed columns u i r now
    | none => none
  | .die i => (w.refiners i).map fun r => w.setRefiner i r.vanish

/-- Nothing was refined yet. -/
def noRefinements : RefineWorld where
  db := ⟨∅, ∅, ∅, ∅, ∅, 0⟩
  refiners := fun _ => none
  grants := []
  fromCache := []

/-- Any number of runners of one database. -/
def refineSystem (columns : NumericType) (u : PyUnicode) :
    TransitionSystem RefineWorld RefineAction where
  init w := w = noRefinements
  step := refineStep columns u

end Discovery
end PromoBot
