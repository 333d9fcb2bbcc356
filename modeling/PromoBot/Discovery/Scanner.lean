import Mathlib.Logic.Function.Basic
import PromoBot.Database.Discoveries
import PromoBot.Lib.TransitionSystem

/-!
# Scanners of one database

`AliExpressDiscoveryScanner.scan` (`discovery/scanner.py`), for any number of scanners that
work on one database at once.  What a scanner does between two waits is one action: a
transaction with the branch taken on its outcome.  Between any two actions of a scanner the
others may act, time may pass, and the scanner may die.

The session of a live page is two actions.  It reads the claim and the run, at one reading of
the clock, before SQLite has begun a transaction (`receive`); then a transaction caches the
page with that time, gives the claim up and records the products (`store`).  A scanner that
claims in between may sweep away the claim that was read, and end the run.

A scanner calls the gateway outside of any transaction; what the gateway answers is up to
the schedule, and so is every reading of the clock.

`grants`, `closed`, `clock` and `recorded` are histories: the claims ever granted, the
tokens of those their scanner gave up, the latest time any scanner has acted at, and the
products recorded, one entry for each time.  No step reads them.
-/

namespace PromoBot
namespace Discovery

open DiscoveryRepository Fallible SqlTable

/-- `LEASE_DURATION`. -/
def leaseDuration : Int := seconds 60

/-- What the loop reads of a `DiscoveryProfile`. -/
structure DiscoveryProfile where
  keywords : List Text
  pageSize : Nat
  maxPages : Nat
  maxResults : Nat
  maxApiCalls : Nat
  minimumPriceDropPercent : Decimal

/-- A call of `scan`.  `key` is the pair of fingerprints of a page of a keyword. -/
structure ScanJob where
  profileName : Text
  profileFingerprint : Text
  profile : DiscoveryProfile
  sourceOperation : DiscoveryOperation
  key : Text → Nat → QueryKey

/-- Where a scanner is in `scan`. -/
inductive ScanPhase
  /-- At the top of the loop over the pages. -/
  | query
  /-- The gateway is called for a granted claim. -/
  | call (key : QueryKey) (token : Nat)
  /-- The gateway has answered with a page. -/
  | received (key : QueryKey) (token : Nat) (page : DiscoveryPage)
  /-- The claim and the run were read for the page at a time; the page is stored next. -/
  | storing (key : QueryKey) (token : Nat) (page : DiscoveryPage)
      (operation : DiscoveryOperation) (now : Instant)
  /-- Cached products are still to be recorded. -/
  | replay (key : QueryKey) (page : DiscoveryPage) (rest : List DiscoveryProduct)
  /-- `_finish` is next. -/
  | finish (state : DiscoveryRunState) (stopReason : String) (errorCode : Option String)
  /-- `_fail_query` is next. -/
  | fail (key : QueryKey) (token : Nat) (state : DiscoveryRunState) (errorCode : String)
  /-- `scan` has returned or raised, or its process is gone. -/
  | done

/-- A scanner: its job and its local variables.  The keywords are those not yet done. -/
structure Scanner where
  job : ScanJob
  runId : Nat
  keywords : List Text
  pageNo : Nat
  uniqueProducts : Nat
  queryOrdinal : Nat
  finalReason : String
  phase : ScanPhase

namespace Scanner

/-- Go on with the page the variables name, or finish if no keyword is left. -/
def atQuery (s : Scanner) : Scanner :=
  { s with phase :=
      if s.keywords = [] then .finish .completed s.finalReason none else .query }

/-- The scanner turns to the next keyword. -/
def nextKeyword (s : Scanner) (reason : String) : Scanner :=
  atQuery { s with keywords := s.keywords.tail, pageNo := 1, finalReason := reason }

/-- The scanner is done with a page of so many items. -/
def nextPage (s : Scanner) (itemCount : Nat) : Scanner :=
  if itemCount < s.job.profile.pageSize then s.nextKeyword "SHORT_PAGE"
  else if s.job.profile.maxPages ≤ s.pageNo then s.nextKeyword "MAX_PAGES"
  else atQuery { s with pageNo := s.pageNo + 1 }

/-- The scanner ends its run. -/
def finishing (s : Scanner) (state : DiscoveryRunState) (stopReason : String)
    (errorCode : Option String) : Scanner :=
  { s with phase := .finish state stopReason errorCode }

def gone (s : Scanner) : Scanner := { s with phase := .done }

/-- The maximum of results is reached. -/
def Full (s : Scanner) : Prop := s.job.profile.maxResults ≤ s.uniqueProducts

instance : DecidablePred Full := fun _ => inferInstanceAs (Decidable (_ ≤ _))

/-- The run a scanner creates. -/
def newRun (job : ScanJob) (now : Instant) : NewRun where
  profileName := job.profileName
  profileFingerprint := job.profileFingerprint
  pageSize := job.profile.pageSize
  maxPages := job.profile.maxPages
  maxResults := job.profile.maxResults
  maxApiCalls := job.profile.maxApiCalls
  minimumDropPercent := job.profile.minimumPriceDropPercent
  now := now
  leaseUntil := now + leaseDuration
  sourceOperation := job.sourceOperation

/-- A scanner whose run was just created. -/
def started (job : ScanJob) (runId : Nat) : Scanner :=
  atQuery ⟨job, runId, job.profile.keywords, 1, 0, 0, "ALL_KEYWORDS_COMPLETED", .query⟩

def key (s : Scanner) : QueryKey := s.job.key (s.keywords.headD []) s.pageNo

def claimRequest (s : Scanner) (now : Instant) : ClaimRequest where
  runId := s.runId
  key := s.key
  queryOrdinal := s.queryOrdinal
  pageNo := s.pageNo
  now := now
  leaseUntil := now + leaseDuration

/-- How a scanner records a product. -/
def recording (s : Scanner) (key : QueryKey) (product : DiscoveryProduct)
    (origin : DiscoveryOrigin) (observedAt : Instant) : Recording :=
  ⟨s.runId, key, product, origin, observedAt⟩

/-- The branch taken on the claim that was answered. -/
def claimed (s : Scanner) (key : QueryKey) : DiscoveryQueryClaim → Scanner
  | .call token => { s with queryOrdinal := s.queryOrdinal + 1, phase := .call key token }
  | .cache page =>
    { s with queryOrdinal := s.queryOrdinal + 1, phase := .replay key page page.products }
  | .inProgress =>
    { s with queryOrdinal := s.queryOrdinal + 1 }.finishing .stopped "CONCURRENT_QUERY_IN_PROGRESS"
      (some "CONCURRENT_QUERY_IN_PROGRESS")

/-- The branch taken when `claim_query` raises. -/
def refused (s : Scanner) (error : String) : Scanner :=
  if error = "ALIEXPRESS_DISCOVERY_API_BUDGET_EXHAUSTED" then
    s.finishing .completed "MAX_API_CALLS" none
  else s.gone

end Scanner

/-- A granted claim, under its key. -/
abbrev Grant := QueryKey × DiscoveryClaim

/-- The database, the scanners and the histories. -/
structure DiscoveryWorld where
  db : DiscoveryDb
  scanners : Nat → Option Scanner
  grants : List Grant
  closed : List Nat
  clock : Instant
  recorded : List ResultKey

/-- How the gateway ends a call. -/
inductive GatewayAnswer
  | page (page : DiscoveryPage)
  /-- `ProviderError`. -/
  | providerError (code : String) (manualReview : Bool)
  /-- `CancelledError`. -/
  | cancelled

/-- What can happen next. -/
inductive ScanAction
  /-- A scanner starts on a job, and creates its run. -/
  | start (i : Nat) (job : ScanJob) (now : Instant)
  /-- The gateway answers a scanner. -/
  | answer (i : Nat) (answer : GatewayAnswer)
  /-- A scanner goes on to its next wait.  `observedAt` is what the clock reads as it
  records the products of a page. -/
  | proceed (i : Nat) (now : Instant) (observedAt : Nat → Instant)
  /-- A scanner is gone, with its process or with an exception. -/
  | die (i : Nat)

/-- The scanner that acts. -/
def ScanAction.scanner : ScanAction → Nat
  | .start i _ _ | .answer i _ | .proceed i _ _ | .die i => i

/-! ## Recording a live page -/

/-- What recording a page comes to. -/
structure PageRecord where
  db : DiscoveryDb
  uniqueProducts : Nat
  reachedMaxResults : Bool
  recorded : List ResultKey

/-- The loop over the products of a live page; `recorded` begins with what was recorded
before. -/
def recordAll (columns : NumericType) (s : Scanner) (key : QueryKey) (observedAt : Nat → Instant)
    (db : DiscoveryDb) (unique : Nat) (recorded : List ResultKey) :
    List DiscoveryProduct → Except String PageRecord
  | [] => .ok ⟨db, unique, false, recorded⟩
  | item :: rest =>
    if s.job.profile.maxResults ≤ unique then .ok ⟨db, unique, true, recorded⟩
    else do
      let q := s.recording key item .live (observedAt rest.length)
      let (db, answer) ← recordProduct columns db q
      recordAll columns s key observedAt db (unique + if answer.insertedUnique then 1 else 0)
        (q.resultKey :: recorded) rest

/-- The transaction that caches a page and records its products, after the reads. -/
def finishPage (columns : NumericType) (w : DiscoveryWorld) (s : Scanner) (key : QueryKey)
    (token : Nat) (page : DiscoveryPage) (operation : DiscoveryOperation) (now : Instant)
    (observedAt : Nat → Instant) : Except String PageRecord := do
  let db ← storePage w.db s.runId key token page operation now
  recordAll columns s key observedAt db s.uniqueProducts w.recorded page.products

/-! ## One step -/

namespace DiscoveryWorld

/-- The scanner `i` is now `s`. -/
def setScanner (w : DiscoveryWorld) (i : Nat) (s : Scanner) : DiscoveryWorld :=
  { w with scanners := Function.update w.scanners i (some s) }

/-- A scanner acts at a time. -/
def actedAt (w : DiscoveryWorld) (now : Instant) : DiscoveryWorld :=
  { w with clock := max w.clock now }

/-- `create_run`, and the scanner begins. -/
def start (w : DiscoveryWorld) (i : Nat) (job : ScanJob) (now : Instant) : DiscoveryWorld :=
  { w.actedAt now with db := (createRun w.db (Scanner.newRun job now)).1 }.setScanner i
    (Scanner.started job (createRun w.db (Scanner.newRun job now)).2)

/-- The claims a transaction granted: the one of the new token. -/
def granted (w : DiscoveryWorld) (db : DiscoveryDb) (key : QueryKey) :
    DiscoveryQueryClaim → List Grant
  | .call _ => ((db.claims.get? key).map fun claim => (key, claim)).toList ++ w.grants
  | .cache _ | .inProgress => w.grants

/-- `claim_query`. -/
def query (columns : NumericType) (w : DiscoveryWorld) (i : Nat) (s : Scanner) (now : Instant) :
    DiscoveryWorld :=
  if s.Full then w.setScanner i (s.finishing .completed "MAX_RESULTS" none)
  else match claimQuery columns w.db (s.claimRequest now) with
    | .error error => (w.actedAt now).setScanner i (s.refused error)
    | .ok (db, claim) =>
      { w.actedAt now with db := db, grants := w.granted db s.key claim }.setScanner i
        (s.claimed s.key claim)

/-- The reads that come before the transaction of a live page. -/
def receive (w : DiscoveryWorld) (i : Nat) (s : Scanner) (key : QueryKey) (token : Nat)
    (page : DiscoveryPage) (now : Instant) : DiscoveryWorld :=
  match readHeld w.db s.runId key token now with
  | .error _ => (w.actedAt now).setScanner i s.gone
  | .ok run =>
    (w.actedAt now).setScanner i { s with phase := .storing key token page run.sourceOperation now }

/-- The transaction of a live page. -/
def store (columns : NumericType) (w : DiscoveryWorld) (i : Nat) (s : Scanner) (key : QueryKey)
    (token : Nat) (page : DiscoveryPage) (operation : DiscoveryOperation) (now : Instant)
    (observedAt : Nat → Instant) : DiscoveryWorld :=
  match finishPage columns w s key token page operation now observedAt with
  | .error _ => w.setScanner i s.gone
  | .ok record =>
    let s' := { s with uniqueProducts := record.uniqueProducts }
    { w with
      db := record.db
      closed := token :: w.closed
      recorded := record.recorded }.setScanner i
      (if record.reachedMaxResults then s'.finishing .completed "MAX_RESULTS" none
        else s'.nextPage page.itemCount)

/-- The transaction of a cached product. -/
def replayOne (columns : NumericType) (w : DiscoveryWorld) (i : Nat) (s : Scanner) (key : QueryKey)
    (page : DiscoveryPage) (item : DiscoveryProduct) (rest : List DiscoveryProduct)
    (now : Instant) : DiscoveryWorld :=
  if s.Full then w.setScanner i (s.finishing .completed "MAX_RESULTS" none)
  else match recordProduct columns w.db (s.recording key item .cache now) with
    | .error _ => w.setScanner i s.gone
    | .ok (db, answer) =>
      { w with db := db, recorded := (s.runId, item.productId) :: w.recorded }.setScanner i
        { s with
          uniqueProducts := s.uniqueProducts + if answer.insertedUnique then 1 else 0
          phase := .replay key page rest }

/-- `_finish`. -/
def finish (w : DiscoveryWorld) (i : Nat) (s : Scanner) (state : DiscoveryRunState)
    (stopReason : String) (errorCode : Option String) (now : Instant) : DiscoveryWorld :=
  match finishRun w.db s.runId state now stopReason errorCode with
  | .error _ => w.setScanner i s.gone
  | .ok db => { w with db := db }.setScanner i s.gone

/-- What a run that failed stops with. -/
def stateName : DiscoveryRunState → String
  | .running => "RUNNING"
  | .completed => "COMPLETED"
  | .stopped => "STOPPED"
  | .reviewRequired => "REVIEW_REQUIRED"
  | .uncertain => "UNCERTAIN"

/-- `_fail_query`. -/
def fail (w : DiscoveryWorld) (i : Nat) (s : Scanner) (key : QueryKey) (token : Nat)
    (state : DiscoveryRunState) (errorCode : String) (now : Instant) : DiscoveryWorld :=
  match finishRun (abandonQuery w.db key token) s.runId state now (stateName state)
    (some errorCode) with
  | .error _ => w.setScanner i s.gone
  | .ok db => { w with db := db, closed := token :: w.closed }.setScanner i s.gone

/-- A scanner goes on. -/
def proceed (columns : NumericType) (w : DiscoveryWorld) (i : Nat) (s : Scanner) (now : Instant)
    (observedAt : Nat → Instant) : Option DiscoveryWorld :=
  match s.phase with
  | .query => some (w.query columns i s now)
  | .call _ _ | .done => none
  | .received key token page => some (w.receive i s key token page now)
  | .storing key token page operation readAt =>
    some (w.store columns i s key token page operation readAt observedAt)
  | .replay _ page [] => some (w.setScanner i (s.nextPage page.itemCount))
  | .replay key page (item :: rest) => some (w.replayOne columns i s key page item rest now)
  | .finish state stopReason errorCode => some (w.finish i s state stopReason errorCode now)
  | .fail key token state errorCode => some (w.fail i s key token state errorCode now)

/-- How a run ends whose provider raised. -/
def failureState (code : String) (manualReview : Bool) : DiscoveryRunState :=
  if manualReview ∨ code ≠ "ALIEXPRESS_RETRY_EXHAUSTED" then .reviewRequired else .uncertain

/-- What a scanner makes of the answer of the gateway. -/
def answered (s : Scanner) (key : QueryKey) (token : Nat) : GatewayAnswer → Scanner
  | .page page => { s with phase := .received key token page }
  | .providerError code manualReview =>
    { s with phase := .fail key token (failureState code manualReview) code }
  | .cancelled => { s with phase := .fail key token .uncertain "ALIEXPRESS_DISCOVERY_CANCELLED" }

end DiscoveryWorld

def discoveryStep (columns : NumericType) (w : DiscoveryWorld) :
    ScanAction → Option DiscoveryWorld
  | .start i job now => if (w.scanners i).isNone then some (w.start i job now) else none
  | .answer i answer =>
    match w.scanners i with
    | some s =>
      match s.phase with
      | .call key token => some (w.setScanner i (DiscoveryWorld.answered s key token answer))
      | _ => none
    | none => none
  | .proceed i now observedAt =>
    match w.scanners i with
    | some s => w.proceed columns i s now observedAt
    | none => none
  | .die i => (w.scanners i).map fun s => w.setScanner i s.gone

/-- Nothing was discovered yet. -/
def noDiscoveries : DiscoveryWorld where
  db := ⟨∅, ∅, ∅, ∅, ∅, 0⟩
  scanners := fun _ => none
  grants := []
  closed := []
  clock := 0
  recorded := []

/-- Any number of scanners of one database. -/
def discoverySystem (columns : NumericType) : TransitionSystem DiscoveryWorld ScanAction where
  init w := ∃ clock, w = { noDiscoveries with clock := clock }
  step := discoveryStep columns

end Discovery
end PromoBot
