import Mathlib.Algebra.Group.Int.Defs
import PromoBot.Affiliate.Conversion
import PromoBot.Lib.TransitionSystem
import PromoBot.Providers.Contracts

/-!
# Generating affiliate links

The order in which `AliExpressMessageConversionService` and
`CoinShadowGenerationService` (`affiliate/coin_shadow_generation.py`) run their
transactions, as one transition system: any number of calls of either service,
with any settings, over one database.

Both services do the same in the middle.  A call prepares its generations, marks
them started (`AuditedGenerationCall.mark_started`), hands the request to the
network, and stores the answer or closes the generations it prepared
(`Work.failure` has the `except` clauses).  Between any two transactions anything
may raise, be cancelled or die, and everything else in the program may run.

Times are read from a clock nothing is assumed of.  The evidence table of the coin
service is not part of the database here: what it decides --- whether a coin link
has to be generated, and whether an outcome can be written to it --- is left to
the schedule.
-/

namespace PromoBot
namespace Conversion

open Fallible SqlTable LinkGenerate

/-! ## Calls -/

/-- What an affiliate link is asked for: an affiliate candidate, or a raw coin short
URL. -/
inductive Source
  | candidate (id : Nat)
  | coin (url : Text)
  deriving DecidableEq

/-- The settings of `CoinShadowGenerationService`. -/
structure CoinService where
  appSecret : Text
  trackingId : Text
  configured : appSecret ≠ [] ∧ trackingId ≠ []

/-- What a call was made for. -/
inductive Task
  /-- `convert(message_id, generation_request=…)`. -/
  | message (service : Service) (messageId : Nat) (request : Option Nat)
  /-- `generate(source_value, generation_request=…)`. -/
  | coin (service : CoinService) (sourceValue : Text) (request : Option Nat)

/-- What the coin service keeps of its preparation. -/
structure CoinJob where
  service : CoinService
  sourceValue : Text
  generationId : Nat
  leaseToken : Nat

/-- What a call has prepared. -/
inductive Work
  | batch (job : Job)
  | coin (job : CoinJob)

/-- The generations a call has prepared, with what they are for. -/
def Work.entries : Work → List (Source × Nat)
  | .batch job => job.claims.map fun c => (.candidate c.context.candidateId, c.generationId)
  | .coin job => [(.coin job.sourceValue, job.generationId)]

/-- The generations of a call, with their lease tokens. -/
def Work.tokens : Work → List (Nat × Nat)
  | .batch job => job.claims.map fun c => (c.generationId, c.leaseToken)
  | .coin job => [(job.generationId, job.leaseToken)]

/-- The payload of the request.  The country is ASCII, where a letter is an ASCII one. -/
def Work.payload (env : Environment) : Work → Except LinkGenerate.Raised (List (Text × Text))
  | .batch job =>
    Contracts.linkGeneratePayload env.unicode Text.isAsciiLetter
      (job.claims.map fun c => c.context.generationUrl) job.service.trackingId promotionLinkType
      "BR".toList
  | .coin job =>
    Contracts.linkGeneratePayload env.unicode Text.isAsciiLetter [job.sourceValue]
      job.service.trackingId promotionLinkType "BR".toList

/-- The exceptions a call tells apart. -/
inductive Raised
  /-- `ProviderError`; `complete` says that it is `AliExpressCompleteResponseError`. -/
  | provider (complete : Bool) (error : ProviderError)
  /-- `TypeError` or `ValueError`. -/
  | typeOrValue (text : String)
  /-- Any other `Exception`. -/
  | other
  /-- `asyncio.CancelledError`. -/
  | cancelled

/-- What a call does after it has closed its generations. -/
inductive Ending
  /-- `_record_failures`, and then the error. -/
  | release (error : ProviderError)
  /-- `AliExpressConversionRejected`. -/
  | reject (code : String)
  /-- The outcome of the coin service. -/
  | outcome
  /-- The cancellation goes on. -/
  | cancelled

/-- How a call closes its generations. -/
structure Failure where
  state : GenerationState
  code : String
  ending : Ending

/-- The `except` clauses; `none` where the exception is not caught.  `received` says that
the answer has arrived. -/
def Work.failure (received : Bool) : Work → Raised → Option Failure
  | .batch _, .provider complete error =>
    if received || complete then some ⟨.rejected, error.code, .release error⟩
    else some ⟨.uncertain, error.code, .release ⟨error.code, false, true⟩⟩
  | .batch _, .typeOrValue _ =>
    some ⟨if received then .rejected else .uncertain, "ALIEXPRESS_RESPONSE_INCOMPATIBLE",
      .release ⟨"ALIEXPRESS_RESPONSE_INCOMPATIBLE", false, true⟩⟩
  | .batch _, .other =>
    some ⟨.uncertain, "ALIEXPRESS_CONVERSION_FAILED",
      .release ⟨"ALIEXPRESS_CONVERSION_FAILED", false, true⟩⟩
  | .batch _, .cancelled =>
    some ⟨.uncertain, "AFFILIATE_HISTORY_GENERATION_CANCELLED", .cancelled⟩
  | .coin _, .provider complete error =>
    if received || complete then some ⟨.rejected, error.code, .outcome⟩
    else some ⟨.uncertain, "ALIEXPRESS_COIN_GENERATION_UNCERTAIN", .outcome⟩
  | .coin _, .typeOrValue text =>
    if received then some ⟨.rejected, text, .outcome⟩
    else some ⟨.uncertain, "ALIEXPRESS_COIN_GENERATION_UNCERTAIN", .outcome⟩
  | .coin _, .other =>
    if received then none
    else some ⟨.uncertain, "ALIEXPRESS_COIN_GENERATION_UNCERTAIN", .outcome⟩
  | .coin _, .cancelled =>
    if received then none
    else some ⟨.uncertain, "ALIEXPRESS_COIN_GENERATION_CANCELLED", .cancelled⟩

/-- The clause for `AffiliateCandidateTransitionConflict`. -/
def leaseLost : Failure :=
  ⟨.uncertain, "AFFILIATE_HISTORY_GENERATION_LEASE_LOST",
    .reject "ALIEXPRESS_GENERATION_LEASE_LOST"⟩

/-- Where the outcome of a coin link cannot be written. -/
def persistenceUncertain : Failure :=
  ⟨.uncertain, "ALIEXPRESS_COIN_PERSISTENCE_UNCERTAIN", .outcome⟩

/-- A conversion that returned: its selection, the answer its fresh links came with, the
proofs it used, and the preview. -/
structure Converted where
  job : Job
  answer : Option (List (String × Json))
  proofs : List (Identity × AffiliateLinkProof)
  preview : DryRunPreview

/-- Where a call stands. -/
inductive Call
  | idle
  /-- Before `recover`; `busy` after a `_AliExpressClaimBusy`. -/
  | waiting (task : Task) (busy : Bool)
  /-- `recover` is committed. -/
  | recovered (task : Task) (startedAt : Instant)
  /-- The generations are prepared. -/
  | claimed (work : Work)
  /-- The generations are marked started. -/
  | started (work : Work)
  /-- The request is on its way. -/
  | inFlight (work : Work)
  /-- The answer has arrived. -/
  | answered (work : Work) (answer : List (String × Json))
  /-- Before `_record_history_failure`. -/
  | failing (work : Work) (failure : Failure)
  /-- Before `_record_failures`. -/
  | releasing (job : Job) (error : ProviderError)
  /-- All links are there. -/
  | generated (job : Job) (answer : Option (List (String × Json)))
      (proofs : List (Identity × AffiliateLinkProof))
  /-- `convert` returned. -/
  | returned (converted : Converted)
  /-- `generate` returned. -/
  | outcome
  /-- `convert` or `generate` raised, with `AliExpressConversionRejected.failed`. -/
  | rejected (code : String) (failed : Bool)
  /-- Dead. -/
  | gone

/-! ## Transactions of a call -/

variable (env : Environment)

/-- What a coin generation is prepared with. -/
def coinPreparation (service : CoinService) (sourceValue : Text) (startedAt : Instant)
    (uuid : Nat) (origin : Option (List (String × Json))) :
    AffiliateLinkHistoryRepository.Preparation :=
  let input := env.fingerprint service.appSecret sourceValue
    "aliexpress-coin-shadow-input-v1".toList
  { scope := .shadow
    identityKey := .coin input
    now := startedAt
    leaseUntil := startedAt + minutes 5
    leaseToken := uuid + 1
    callId := uuid
    callOrdinal := 0
    inputFingerprint := input
    trackingFingerprint := env.fingerprint service.appSecret service.trackingId
      "aliexpress-coin-shadow-tracking-v1".toList
    keyFingerprint := env.keyFingerprint service.appSecret
    origin := origin }

/-- The transaction of `generate` which prepares a generation. -/
def prepareCoin (service : CoinService) (history : Generations) (sourceValue : Text)
    (startedAt : Instant) (uuid : Nat) (request : Option Nat) (targetUnchanged : Bool)
    (origin : Option (List (String × Json))) : Except String (Generations × CoinJob) := do
  let q := coinPreparation env service sourceValue startedAt uuid origin
  AffiliateLinkHistoryRepository.checkKeyRotation history .shadow
    (env.keyFingerprint service.appSecret)
  AffiliateLinkHistoryRepository.validateGivenRequest history request .shadow q.identityKey
    .coinEvidence targetUnchanged
  let row ← AffiliateLinkHistoryRepository.prepare history q request
  return (row.1, ⟨service, sourceValue, row.2, q.leaseToken⟩)

/-- Why an answer is not stored. -/
inductive Unstored
  | conflict
  | raised (raised : Raised)

/-- What the parser raises, as the call tells it apart. -/
def Raised.ofParser : LinkGenerate.Raised → Raised
  | .valueError text => .typeOrValue text
  | .provider error => .provider false error

/-- From the answer to the stored links. -/
def storeAnswer (db : Db) (job : Job) (answer : List (String × Json)) (respondedAt : Instant) :
    Except Unstored (Db × List (Identity × AffiliateLinkProof)) := do
  let mappings ← (parseLinkGenerate env.unicode answer
    (job.claims.map fun c => c.context.generationUrl) job.service.trackingId).mapError
      fun raised => Unstored.raised (.ofParser raised)
  check (∀ claim ∈ job.claims, claim.startedAt ≤ respondedAt)
    (Unstored.raised (.typeOrValue "ALIEXPRESS_CLOCK_MOVED_BACKWARDS"))
  (storeAll env job.service respondedAt job.claims.length db
    (job.claims.zip (mappings.map PromotionLinkMapping.promotionLink))).mapError fun
      | .conflict => Unstored.conflict
      | .history => Unstored.raised (.typeOrValue "AFFILIATE_HISTORY_GENERATION_LEASE_LOST")

/-- `BackoffPolicy(initial_seconds=60, maximum_seconds=300).next_attempt_at`. -/
def nextAttemptAt (now : Instant) (attemptCount : Nat) (jitter : Int) : Instant :=
  let base : Int := min 300 (60 * 2 ^ (attemptCount - 1))
  now + min (seconds 300) (seconds base + max 0 (min jitter (seconds base / 5)))

/-- The state a failed candidate goes to. -/
def failureTarget (error : ProviderError) : AffiliateCandidateState :=
  if error.retryable then .failedRetryable
  else if error.manualReview then .manualReview else .failedPermanent

/-- `_record_failures`; `none` is the conflict. -/
def recordFailures (error : ProviderError) (now : Instant) (jitter : Int) :
    AffiliateCandidates → List Claim → Option AffiliateCandidates
  | t, [] => some t
  | t, claim :: claims =>
    (AffiliateCandidateRepository.fail t claim.context.candidateId now (failureTarget error)
      (if error.retryable then some (nextAttemptAt now claim.attemptCount jitter) else none)
      error.code none (some (claim.startedAt, claim.attemptCount))).bind fun t =>
        recordFailures error now jitter t claims

/-- `AffiliateLinkHistoryRepository.recover`, on both tables. -/
def recover (db : Db) (now : Instant) : Db :=
  { db with
    history := AffiliateLinkHistoryRepository.recover db.history env.scope now
    candidates := (AffiliateLinkHistoryRepository.expiredCandidates db.history env.scope
      now).foldl AffiliateCandidateRepository.markInterrupted db.candidates }

/-! ## The system -/

/-- What the rest of the program does to candidates. -/
inductive CandidateOp
  | ensure (store : Store) (product variation canonical : Text)
  | claim (id : Nat) (now leaseUntil : Instant) (maxAttempts : Nat)
  | markAwaitingGeneration (id : Nat) (now : Instant)
  | markEnriched (id : Nat) (now : Instant) (productId dealId : Nat)
  | fail (id : Nat) (now : Instant) (target : AffiliateCandidateState)
      (nextAttemptAt : Option Instant) (errorCode : String) (errorSummary : Option Text)
      (owner : AffiliateCandidateRepository.Owner)

/-- The candidates after an operation; `none` is the conflict. -/
def CandidateOp.apply (t : AffiliateCandidates) : CandidateOp → Option AffiliateCandidates
  | .ensure store product variation canonical =>
    some (AffiliateCandidateRepository.ensure t store product variation canonical)
  | .claim id now leaseUntil maxAttempts =>
    AffiliateCandidateRepository.claim t id now leaseUntil maxAttempts
  | .markAwaitingGeneration id now => AffiliateCandidateRepository.markAwaitingGeneration t id now
  | .markEnriched id now productId dealId =>
    AffiliateCandidateRepository.markEnriched t id now productId dealId
  | .fail id now target nextAttemptAt errorCode errorSummary owner =>
    AffiliateCandidateRepository.fail t id now target nextAttemptAt errorCode errorSummary owner

/-- The database, the calls, and the requests handed to the network so far: what each was
for, and its generation. -/
structure World where
  db : Db
  calls : Nat → Call
  wire : List (Source × Nat)

/-- What can happen next. -/
inductive Action
  /-- Other parts of the program write messages, link rows, candidates and proofs. -/
  | message (id : Nat) (row : SourceMessage)
  | link (id : Nat) (row : SourceMessageLink)
  | candidate (op : CandidateOp)
  | proof (candidateId : Nat) (row : AffiliateLinkProof)
  /-- An operator asks for a generation in place of a record from before the history. -/
  | request (key : IdentityKey) (legacyKind : LegacyKind) (legacyId : Nat)
  /-- A recovery sweep. -/
  | recover (now : Instant)
  /-- Call `p` is made. -/
  | begin' (p : Nat) (task : Task)
  /-- Call `p` runs `recover`. -/
  | recoverFirst (p : Nat) (now : Instant)
  /-- Call `p` stops waiting for a busy candidate. -/
  | giveUp (p : Nat)
  /-- Call `p` selects proofs and claims candidates. -/
  | select (p uuid : Nat) (targetUnchanged : Bool)
  /-- Call `p` prepares a coin generation. -/
  | prepareCoin (p uuid : Nat) (targetUnchanged : Bool) (origin : Option (List (String × Json)))
  /-- Call `p` finds that its coin link need not or must not be generated. -/
  | returnCoin (p : Nat)
  /-- Call `p` marks its generations started. -/
  | startCall (p : Nat) (now : Instant)
  /-- Call `p` hands its request to the network. -/
  | send (p : Nat)
  /-- The answer to call `p` arrives. -/
  | answer (p : Nat) (answer : List (String × Json))
  /-- Call `p` parses and stores the answer. -/
  | store (p : Nat) (now : Instant)
  /-- Call `p` stores a coin link; `evidenceOk` says that the evidence could be written. -/
  | storeCoin (p : Nat) (now : Instant) (link : Text) (correlationMode : String)
      (facts : List (String × Json)) (evidenceOk : Bool)
  /-- Something in call `p` raises. -/
  | raise (p : Nat) (raised : Raised)
  /-- Call `p` closes its generations; where that fails, `ok` is `false`. -/
  | recordHistoryFailure (p : Nat) (now : Instant) (ok : Bool)
  /-- Call `p` releases its candidates; where that fails, `ok` is `false`. -/
  | recordFailures (p : Nat) (now : Instant) (jitter : Int) (ok : Bool)
  /-- Call `p` builds and records its preview. -/
  | finish (p : Nat)
  /-- Call `p` dies. -/
  | crash (p : Nat)

namespace World

/-- The world after call `p` moved on to `c`. -/
def withCall (w : World) (p : Nat) (c : Call) : World :=
  { w with calls := Function.update w.calls p c }

/-- The world with another database. -/
def withDb (w : World) (db : Db) : World := { w with db := db }

/-- The world with other generations. -/
def withHistory (w : World) (history : Generations) : World :=
  { w with db := { w.db with history := history } }

end World

/-- What `convert` makes of a refusal. -/
def refused (task : Task) : Refusal → Call
  | .busy => .waiting task true
  | .rejected code => .rejected code false
  | .history code => .rejected code true
  | .valueError => .rejected "ALIEXPRESS_CONVERSION_FAILED" true

/-- Where a call goes when something raises. -/
def raised (work : Work) (received : Bool) (r : Raised) : Call :=
  match work.failure received r with
  | some failure => .failing work failure
  | none => .gone

/-- Where a call goes once it has closed its generations; `ok` says that it could. -/
def afterHistoryFailure (work : Work) (failure : Failure) (ok : Bool) : Call :=
  match work, failure.ending with
  | .batch job, .release error => .releasing job error
  | .batch _, .reject code => .rejected code false
  | .coin job, .outcome =>
    if ok = false ∧ failure.state = .rejected then .failing (.coin job) persistenceUncertain
    else .outcome
  | _, _ => .gone

def step (w : World) : Action → Option World
  | .message id row => some (w.withDb { w.db with messages := w.db.messages.put id row })
  | .link id row => some (w.withDb { w.db with links := w.db.links.put id row })
  | .candidate op =>
    (op.apply w.db.candidates).map fun t => w.withDb { w.db with candidates := t }
  | .proof candidateId row =>
    some (w.withDb { w.db with proofs := w.db.proofs.put candidateId row })
  | .request key legacyKind legacyId =>
    match AffiliateLinkHistoryRepository.requestLegacyGeneration w.db.history env.scope key
      legacyKind legacyId with
    | .ok history => some (w.withHistory history)
    | .error _ => none
  | .recover now => some (w.withDb (recover env w.db now))
  | .begin' p task =>
    match w.calls p with
    | .idle => some (w.withCall p (.waiting task false))
    | _ => none
  | .recoverFirst p now =>
    match w.calls p with
    | .waiting task _ => some ((w.withDb (recover env w.db now)).withCall p (.recovered task now))
    | _ => none
  | .giveUp p =>
    match w.calls p with
    | .waiting _ true =>
      some (w.withCall p (.rejected "ALIEXPRESS_CANDIDATE_BUSY_OR_EXHAUSTED" false))
    | _ => none
  | .select p uuid targetUnchanged =>
    match w.calls p with
    | .recovered (.message service messageId request) startedAt =>
      match select env service w.db messageId startedAt uuid request targetUnchanged with
      | .ok (db, job) =>
        some ((w.withDb db).withCall p (if job.claims = [] then .generated job none job.cached
          else .claimed (.batch job)))
      | .error refusal =>
        some (w.withCall p (refused (.message service messageId request) refusal))
    | _ => none
  | .prepareCoin p uuid targetUnchanged origin =>
    match w.calls p with
    | .recovered (.coin service sourceValue request) startedAt =>
      if env.scope = .shadow then
        match prepareCoin env service w.db.history sourceValue startedAt uuid request
          targetUnchanged origin with
        | .ok (history, job) => some ((w.withHistory history).withCall p (.claimed (.coin job)))
        | .error code => some (w.withCall p (.rejected code true))
      else none
    | _ => none
  | .returnCoin p =>
    match w.calls p with
    | .recovered (.coin _ _ _) _ => some (w.withCall p .outcome)
    | _ => none
  | .startCall p now =>
    match w.calls p with
    | .claimed work =>
      match work.payload env with
      | .error _ => none
      | .ok _ =>
        match AffiliateLinkHistoryRepository.startCall now w.db.history work.tokens with
        | some history => some ((w.withHistory history).withCall p (.started work))
        | none =>
          some (w.withCall p (raised work false
            (.typeOrValue "AFFILIATE_HISTORY_GENERATION_IN_PROGRESS")))
    | _ => none
  | .send p =>
    match w.calls p with
    | .started work =>
      some { w.withCall p (.inFlight work) with wire := work.entries ++ w.wire }
    | _ => none
  | .answer p answer =>
    match w.calls p with
    | .inFlight work => some (w.withCall p (.answered work answer))
    | _ => none
  | .store p now =>
    match w.calls p with
    | .answered (.batch job) answer =>
      match storeAnswer env w.db job answer now with
      | .ok (db, stored) =>
        some ((w.withDb db).withCall p (.generated job (some answer) (stored ++ job.cached)))
      | .error .conflict => some (w.withCall p (.failing (.batch job) leaseLost))
      | .error (.raised r) => some (w.withCall p (raised (.batch job) true r))
    | _ => none
  | .storeCoin p now link correlationMode facts evidenceOk =>
    match w.calls p with
    | .answered (.coin job) _ =>
      match AffiliateLinkHistoryRepository.confirm w.db.history job.generationId
        ⟨now, link, now + hours 24, "coin-short-v1", correlationMode, facts⟩, evidenceOk with
      | some history, true => some ((w.withHistory history).withCall p .outcome)
      | _, _ => some (w.withCall p (.failing (.coin job) persistenceUncertain))
    | _ => none
  | .raise p r =>
    match w.calls p with
    | .claimed work | .started work | .inFlight work => some (w.withCall p (raised work false r))
    | .answered work _ => some (w.withCall p (raised work true r))
    | _ => none
  | .recordHistoryFailure p now ok =>
    match w.calls p with
    | .failing work failure =>
      match AffiliateLinkHistoryRepository.fail w.db.history (work.entries.map Prod.snd) now
        failure.state failure.code, ok with
      | some history, true =>
        some ((w.withHistory history).withCall p (afterHistoryFailure work failure true))
      | _, _ => some (w.withCall p (afterHistoryFailure work failure false))
    | _ => none
  | .recordFailures p now jitter ok =>
    match w.calls p with
    | .releasing job error =>
      if ok then
        match recordFailures error now jitter w.db.candidates job.claims with
        | some candidates =>
          some ((w.withDb { w.db with candidates := candidates }).withCall p
            (.rejected error.code true))
        | none => some (w.withCall p (.rejected "ALIEXPRESS_GENERATION_LEASE_LOST" false))
      else some (w.withCall p (.rejected "ALIEXPRESS_CONVERSION_FAILED" true))
    | _ => none
  | .finish p =>
    match w.calls p with
    | .generated job answer proofs =>
      match finish env w.db job proofs with
      | .ok preview => some (w.withCall p (.returned ⟨job, answer, proofs, preview⟩))
      | .error (.rejected code) => some (w.withCall p (.rejected code false))
      | .error (.history code) => some (w.withCall p (.rejected code true))
      | .error _ => some (w.withCall p (.rejected "ALIEXPRESS_CONVERSION_FAILED" true))
    | _ => none
  | .crash p =>
    match w.calls p with
    | .idle | .returned _ | .outcome | .rejected _ _ | .gone => none
    | _ => some (w.withCall p .gone)

/-- Any number of calls, from a database of some kind on. -/
def system (start : Db → Prop) : TransitionSystem World Action where
  init w := start w.db ∧ (∀ p, w.calls p = .idle) ∧ w.wire = []
  step := step env

/-! ## Something to run it on -/

/-- A keyed function whose values show the key and the end of the message.  A fingerprint has
64 characters; it is taken with a key that is such a value, or of a message with a zero
character. -/
def testHmac (key message : Text) : Text :=
  let shown := message.drop (message.length - 24) ++ '/' :: key
  if '/' ∈ key ∨ '\x00' ∈ message then List.replicate (64 - shown.length) '0' ++ shown else shown

/-- ASCII, and that function. -/
def testEnvironment (scope : HistoryScope) : Environment := ⟨.ascii, testHmac, scope⟩

/-- A service with two links a message. -/
def testService : Service where
  appKey := "key".toList
  appSecret := "secret".toList
  trackingId := "t1".toList
  proofTtl := hours 24
  maxLinks := 2
  requireSafeSurface := true
  configured := by decide
  proofTtl_pos := by decide
  maxLinks_bounds := by decide

/-- The page of product 1. -/
def firstItem : Text := "https://www.aliexpress.com/item/1.html".toList

/-- The page of product 2. -/
def secondItem : Text := "https://www.aliexpress.com/item/2.html".toList

/-- A message the relay is done with. -/
def completedMessage (text : Text) : SourceMessage where
  platform := "telegram".toList
  messageId := "1".toList
  channelId := "-100".toList
  occurredAt := 0
  originalText := text
  links := []
  surfaceMetadata := .default
  legacyUnknown := false
  contentHash := []
  processingStatus := .completed
  attemptCount := 1
  lastAttemptAt := some 0
  nextAttemptAt := none
  processingStartedAt := some 0
  processingLeaseUntil := none
  completedAt := some 0
  errorCode := none
  errorSummary := none

/-- Message 1 has this text; its links are to the two products, candidates 1 and 2. -/
def messageDb (text : Text) : Db where
  messages := (∅ : SourceMessages).put 1 (completedMessage text)
  links := ((∅ : SourceMessageLinks).put 1
    ⟨1, 0, .text, firstItem, none, some .aliexpress, some "1".toList, some firstItem, none,
      some 1⟩).put 2
    ⟨1, 1, .text, secondItem, none, some .aliexpress, some "2".toList, some secondItem, none,
      some 2⟩
  candidates := ((∅ : AffiliateCandidates).put 1
    (AffiliateCandidateRepository.pendingRow .aliexpress "1".toList [] firstItem)).put 2
    (AffiliateCandidateRepository.pendingRow .aliexpress "2".toList [] secondItem)
  history := ∅
  proofs := ∅

def answerItem (source link : Text) : Json :=
  .obj [("source_value", .str source), ("promotion_link", .str link)]

/-- An answer with these items. -/
def answerOf (items : List Json) : List (String × Json) :=
  [("resp_result", .obj [("resp_code", .int 200), ("result", .obj
    [("tracking_id", .str "t1".toList), ("promotion_links", .arr items)])])]

end Conversion
end PromoBot
