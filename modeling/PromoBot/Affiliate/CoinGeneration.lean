import PromoBot.Affiliate.Generation
import PromoBot.Database.CoinEvidence
import PromoBot.Providers.CoinShadow

/-!
# Generating coin links, with their evidence

`CoinShadowGenerationService` of `affiliate/coin_shadow_generation.py` over both
tables it writes: the evidence of coin links and the generations.

A call of `generate` reads the clock, runs `recover` in a transaction of its own,
and then claims the evidence and prepares the generation in a second one, with the
time read before the first.  What it won is requested after `mark_started`, which is
a third transaction inside the client, and ends in one of three more: the link is
stored, the answer is rejected, or the outcome is uncertain.

Between any two transactions any other call may run, something may raise, and the
call may be cancelled or die.  A transaction whose outcome is lost on the way back is
one that is committed and raises.  Nothing is assumed of the clock.
-/

namespace PromoBot
namespace CoinGeneration

open Conversion Fallible SqlTable PyUrl CoinShadow

/-- The two tables. -/
structure CoinTables where
  evidence : CoinShadowEvidences
  history : Generations

/-- A call of `generate`. -/
structure Request where
  service : CoinService
  sourceValue : Text
  generationRequest : Option Nat
  origin : Option (List (String × Json))

/-- What `_generate_winner` is called with. -/
structure Winner where
  request : Request
  claim : CoinShadowClaim
  generationId : Nat

variable (env : Environment)

/-! ## The transactions of a call -/

/-- `recover`, on both tables. -/
def recover (t : CoinTables) (now : Instant) : CoinTables where
  evidence := AffiliateLinkHistoryRepository.recoverEvidence t.history t.evidence .shadow now
  history := AffiliateLinkHistoryRepository.recover t.history .shadow now

/-- The row from before the history which a request replaces. -/
def replacedRow (t : CoinTables) (request : Option Nat) (key : IdentityKey) (unchanged : Bool) :
    Except String (Option Nat) :=
  match request with
  | none => .ok none
  | some id =>
    (AffiliateLinkHistoryRepository.validateCoinRequest t.history t.evidence id key
      unchanged).map some

/-- The loop of `generate` over the rows of its link. -/
def checkRow (history : Generations) (row : Nat × CoinShadowEvidence) : Except String Unit := do
  check (row.2.state ≠ .uncertain) "AFFILIATE_HISTORY_GENERATION_UNCERTAIN_BLOCKED"
  if row.2.state = .ready then
    let _ ← AffiliateLinkHistoryRepository.validateCoinEvidence history row.2

/-- The identity is checked unless the link is being generated. -/
def checkFree (history : Generations) (rows : List (Nat × CoinShadowEvidence))
    (key : IdentityKey) (now : Instant) : Except String Unit :=
  if ∃ row ∈ rows, row.2.state = .generating ∧ Above row.2.leaseUntil now then .ok ()
  else AffiliateLinkHistoryRepository.checkIdentity history .shadow key (some now)

/-- The end of the transaction: what the claim has won is prepared, and the evidence points
to it. -/
def prepareWon (history : Generations) (p : AffiliateLinkHistoryRepository.Preparation)
    (request : Option Nat) (claimed : CoinShadowEvidences × CoinShadowClaim) :
    Except String (CoinTables × CoinShadowClaim × Option Nat) :=
  if claimed.2.disposition = .generate then do
    let row ← AffiliateLinkHistoryRepository.prepare history p request
    return (⟨claimed.1.updateWhere (fun id _ => id = claimed.2.evidenceId)
      fun e => { e with generationId := some row.2 }, row.1⟩, claimed.2, some row.2)
  else return (⟨claimed.1, history⟩, claimed.2, none)

/-- The second transaction of `generate`.  `unchanged` says that the snapshot of the
request is that of its row. -/
def claimAndPrepare (t : CoinTables) (q : Request) (now : Instant) (uuid : Nat)
    (unchanged : Bool) : Except String (CoinTables × CoinShadowClaim × Option Nat) := do
  let p := coinPreparation env q.service q.sourceValue now uuid q.origin
  AffiliateLinkHistoryRepository.checkCoinKeyRotation t.history t.evidence p.keyFingerprint
    p.inputFingerprint p.trackingFingerprint
  let replaced ← replacedRow t q.generationRequest p.identityKey unchanged
  let rows := t.evidence.select fun id e =>
    e.inputFingerprint = p.inputFingerprint ∧ some id ≠ replaced
  let _ ← rows.mapM (checkRow t.history)
  checkFree t.history rows p.identityKey now
  let claimed ← CoinShadowEvidenceRepository.claim t.history
    (t.evidence.deleteWhere fun id _ => some id = replaced) p.inputFingerprint
    p.trackingFingerprint promotionLinkType now p.leaseUntil p.leaseToken
  prepareWon t.history p q.generationRequest claimed

/-- `mark_started`. -/
def markStarted (t : CoinTables) (w : Winner) (now : Instant) : Option CoinTables :=
  (AffiliateLinkHistoryRepository.startCall now t.history
    [(w.generationId, w.claim.leaseToken.getD 0)]).map fun history => { t with history := history }

/-- What is stored of the link. -/
def confirmation (parsed : CoinShadowLinkResult) (generatedAt : Instant) :
    AffiliateLinkHistoryRepository.Confirmation where
  now := generatedAt
  generatedUrl := parsed.promotionLink
  expiresAt := generatedAt + hours 24
  contractVersion := "coin-short-v1"
  correlationMode := parsed.correlationMode.value
  validationFacts :=
    [("tracking_exact", .bool true), ("item_count", .int 1),
      ("promotion_link_validated", .bool true),
      ("affiliate_host", ((urlsplit env.unicode parsed.promotionLink).bind fun parts =>
        parts.hostname env.unicode).elim .null .str),
      ("route_preservation_manually_observed", .bool false)]

/-- What is stored of the link in its evidence. -/
def readyEvidence (parsed : CoinShadowLinkResult) (generatedAt : Instant) :
    CoinShadowEvidenceRepository.Ready where
  now := generatedAt
  expiresAt := generatedAt + hours 24
  promotionLink := parsed.promotionLink
  affiliateHost := ((urlsplit env.unicode parsed.promotionLink).bind fun parts =>
    parts.hostname env.unicode).getD []
  correlationMode := parsed.correlationMode.value

/-- The last transaction of `_generate_winner`. -/
def storeLink (t : CoinTables) (w : Winner) (parsed : CoinShadowLinkResult)
    (generatedAt : Instant) : Except String CoinTables := do
  let history ← orRaise (AffiliateLinkHistoryRepository.confirm t.history w.generationId
    (confirmation env parsed generatedAt)) "AFFILIATE_HISTORY_GENERATION_LEASE_LOST"
  let evidence ← CoinShadowEvidenceRepository.finishReady t.evidence w.claim.evidenceId
    w.claim.leaseToken (readyEvidence env parsed generatedAt)
  return ⟨evidence, history⟩

/-- A transaction which ends a generation and its evidence without a link.  Both read the
clock anew. -/
def endWithout (t : CoinTables) (w : Winner) (state : GenerationState)
    (evidenceState : CoinShadowEvidenceState) (code : String) (now now' : Instant) :
    Except String CoinTables := do
  let history ← orRaise (AffiliateLinkHistoryRepository.fail t.history [w.generationId] now state
    code) "AFFILIATE_HISTORY_STATE_INVALID"
  let evidence ← CoinShadowEvidenceRepository.finish t.evidence w.claim.evidenceId
    w.claim.leaseToken now' (CoinShadowEvidenceRepository.ended evidenceState code)
  return ⟨evidence, history⟩

/-- The transaction of `_finish_rejected`: `fail` and `finish_review_required`. -/
def finishRejected (t : CoinTables) (w : Winner) (code : String) (now now' : Instant) :
    Except String CoinTables :=
  endWithout t w .rejected .reviewRequired code now now'

/-- The transaction of `_finish_uncertain`: `fail` and `finish_uncertain`. -/
def finishUncertain (t : CoinTables) (w : Winner) (code : String) (now now' : Instant) :
    Except String CoinTables :=
  endWithout t w .uncertain .uncertain code now now'

/-! ## What else is done to generations -/

/-- What the conversion of messages does to the generations of candidates. -/
inductive CanonicalOp
  | request (scope : HistoryScope) (candidateId legacyId : Nat)
  | prepare (q : AffiliateLinkHistoryRepository.Preparation) (requestId : Option Nat)
  | startCall (now : Instant) (tokens : List (Nat × Nat))
  | confirm (id : Nat) (c : AffiliateLinkHistoryRepository.Confirmation)
  | fail (ids : List Nat) (now : Instant) (state : GenerationState) (code : String)

/-- The row is there, and is that of a candidate. -/
def IsCanonical (t : Generations) (id : Nat) : Prop :=
  ∃ r ∈ t.get? id, AffiliateLinkHistoryRepository.isCoin r.identityKey = false

instance (t : Generations) : DecidablePred (IsCanonical t) :=
  fun _ => inferInstanceAs (Decidable (∃ _ ∈ _, _))

/-- The generations after an operation; `none` where it raised. -/
def CanonicalOp.apply (t : Generations) : CanonicalOp → Option Generations
  | .request scope candidateId legacyId =>
    (AffiliateLinkHistoryRepository.requestLegacyGeneration t scope (.canonical candidateId)
      .canonicalProof legacyId).toOption
  | .prepare q requestId =>
    if AffiliateLinkHistoryRepository.isCoin q.identityKey then none
    else ((AffiliateLinkHistoryRepository.prepare t q requestId).map Prod.fst).toOption
  | .startCall now tokens =>
    if ∀ e ∈ tokens, IsCanonical t e.1 then
      AffiliateLinkHistoryRepository.startCall now t tokens
    else none
  | .confirm id c =>
    if IsCanonical t id then AffiliateLinkHistoryRepository.confirm t id c else none
  | .fail ids now state code =>
    if ∀ id ∈ ids, IsCanonical t id then AffiliateLinkHistoryRepository.fail t ids now state code
    else none

/-- `request_legacy_generation`, of coin evidence. -/
def requestLegacy (t : CoinTables) (legacyId : Nat) : Except String CoinTables := do
  let e ← AffiliateLinkHistoryRepository.coinTarget t.history t.evidence .shadow legacyId
  let history ← AffiliateLinkHistoryRepository.requestLegacyGeneration t.history .shadow
    (.coin e.inputFingerprint) .coinEvidence legacyId
  return { t with history := history }

/-! ## The system -/

/-- What `execute` of the client comes back with, where it does. -/
inductive Answer
  /-- It returns. -/
  | response (payload : List (String × Json))
  /-- It raises `AliExpressCompleteResponseError`. -/
  | complete (code : String)

/-- Where a call stands. -/
inductive Phase
  /-- There is none, or it returned or raised. -/
  | idle
  /-- Before `recover`. -/
  | recovering (q : Request) (now : Instant)
  /-- Before the claim. -/
  | claiming (q : Request) (now : Instant)
  /-- Inside the client, before `mark_started`. -/
  | calling (w : Winner)
  /-- The call is started. -/
  | started (w : Winner)
  /-- The answer is parsed. -/
  | storing (w : Winner) (parsed : CoinShadowLinkResult) (generatedAt : Instant)
  /-- In `_finish_rejected`. -/
  | rejecting (w : Winner) (code : String)
  /-- In `_finish_uncertain`. -/
  | closing (w : Winner) (code : String)

/-- The code of an exception of the parser, as `_finish_rejected` gets it. -/
def parserCode : LinkGenerate.Raised → String
  | .valueError text => String.ofList (text.toList.take 80)
  | .provider error => String.ofList (error.code.toList.take 80)

/-- Where a call goes with its answer. -/
def answered (w : Winner) (now : Instant) : Answer → Phase
  | .complete code => .rejecting w code
  | .response payload =>
    match parseCoinShadowLinkGenerate env.unicode payload w.request.sourceValue
      w.request.service.trackingId with
    | .ok parsed => .storing w parsed now
    | .error raised => .rejecting w (parserCode raised)

/-- Where a call goes after its claim. -/
def claimed (q : Request) (claim : CoinShadowClaim) : Option Nat → Phase
  | some generationId => .calling ⟨q, claim, generationId⟩
  | none => .idle

/-- Where a call goes when something raises. -/
def interruptedPhase : Phase → Option Phase
  | .calling w | .started w => some (.closing w "ALIEXPRESS_COIN_GENERATION_UNCERTAIN")
  | .storing w _ _ | .rejecting w _ =>
    some (.closing w "ALIEXPRESS_COIN_PERSISTENCE_UNCERTAIN")
  | _ => none

/-- Where a call goes when it is cancelled. -/
def cancelledPhase : Phase → Phase
  | .calling w | .started w => .closing w "ALIEXPRESS_COIN_GENERATION_CANCELLED"
  | _ => .idle

/-- The tables, the calls, and the first number no `uuid4` gave yet. -/
structure World where
  tables : CoinTables
  calls : Nat → Phase
  nextUuid : Nat

/-- What can happen next. -/
inductive Action
  /-- `generate` is called, and reads the clock. -/
  | begin' (p : Nat) (q : Request) (now : Instant)
  /-- Call `p` runs `recover`. -/
  | recover (p : Nat)
  /-- Call `p` claims the evidence and prepares the generation. -/
  | claim (p : Nat) (unchanged : Bool)
  /-- Call `p` marks its call started. -/
  | start (p : Nat) (now : Instant)
  /-- The answer to call `p` arrives. -/
  | answer (p : Nat) (answer : Answer) (now : Instant)
  /-- Call `p` stores its link; `reported` says that it learns of it. -/
  | store (p : Nat) (reported : Bool)
  /-- Call `p` is in `_finish_rejected`; `reported` as above. -/
  | reject (p : Nat) (now now' : Instant) (reported : Bool)
  /-- Call `p` is in `_finish_uncertain`. -/
  | close (p : Nat) (now now' : Instant)
  /-- Something in call `p` raises: a budget, the network, the database. -/
  | raise (p : Nat)
  /-- Call `p` is cancelled. -/
  | cancel (p : Nat)
  /-- Call `p` dies. -/
  | crash (p : Nat)
  /-- Another service runs `recover`. -/
  | recoverElsewhere (now : Instant)
  /-- An operator asks for a link in place of one from before the history. -/
  | request (legacyId : Nat)
  /-- The conversion of messages writes the history. -/
  | canonical (op : CanonicalOp)

/-- The world after call `p` moved on and left these tables. -/
def World.after (w : World) (p : Nat) (t : CoinTables) (phase : Phase) : World :=
  { w with tables := t, calls := Function.update w.calls p phase }

def step (w : World) : Action → Option World
  | .begin' p q now =>
    match w.calls p, validateCoinShort q.sourceValue with
    | .idle, .ok _ => some (w.after p w.tables (.recovering q now))
    | _, _ => none
  | .recover p =>
    match w.calls p with
    | .recovering q now => some (w.after p (recover w.tables now) (.claiming q now))
    | _ => none
  | .claim p unchanged =>
    match w.calls p with
    | .claiming q now =>
      match claimAndPrepare env w.tables q now w.nextUuid unchanged with
      | .ok (t, claim, generationId) =>
        some { w.after p t (claimed q claim generationId) with nextUuid := w.nextUuid + 2 }
      | .error _ => some (w.after p w.tables .idle)
    | _ => none
  | .start p now =>
    match w.calls p with
    | .calling winner =>
      match markStarted w.tables winner now with
      | some t => some (w.after p t (.started winner))
      | none => some (w.after p w.tables (.closing winner "ALIEXPRESS_COIN_GENERATION_UNCERTAIN"))
    | _ => none
  | .answer p answer now =>
    match w.calls p with
    | .started winner => some (w.after p w.tables (answered env winner now answer))
    | _ => none
  | .store p reported =>
    match w.calls p with
    | .storing winner parsed generatedAt =>
      match storeLink env w.tables winner parsed generatedAt with
      | .ok t =>
        some (w.after p t (if reported then .idle
          else .closing winner "ALIEXPRESS_COIN_PERSISTENCE_UNCERTAIN"))
      | .error _ =>
        some (w.after p w.tables (.closing winner "ALIEXPRESS_COIN_PERSISTENCE_UNCERTAIN"))
    | _ => none
  | .reject p now now' reported =>
    match w.calls p with
    | .rejecting winner code =>
      match finishRejected w.tables winner code now now' with
      | .ok t =>
        some (w.after p t (if reported then .idle
          else .closing winner "ALIEXPRESS_COIN_PERSISTENCE_UNCERTAIN"))
      | .error _ =>
        some (w.after p w.tables (.closing winner "ALIEXPRESS_COIN_PERSISTENCE_UNCERTAIN"))
    | _ => none
  | .close p now now' =>
    match w.calls p with
    | .closing winner code =>
      match finishUncertain w.tables winner code now now' with
      | .ok t => some (w.after p t .idle)
      | .error _ => some (w.after p w.tables .idle)
    | _ => none
  | .raise p => (interruptedPhase (w.calls p)).map fun phase => w.after p w.tables phase
  | .cancel p => some (w.after p w.tables (cancelledPhase (w.calls p)))
  | .crash p => some (w.after p w.tables .idle)
  | .recoverElsewhere now => some { w with tables := recover w.tables now }
  | .request legacyId =>
    match requestLegacy w.tables legacyId with
    | .ok t => some { w with tables := t }
    | .error _ => none
  | .canonical op =>
    (op.apply w.tables.history).map fun history =>
      { w with tables := { w.tables with history := history } }

/-- Any number of calls, from evidence from before the history on. -/
def system : TransitionSystem World Action where
  init w := (∀ id e, w.tables.evidence.get? id = some e → e.generationId = none) ∧
    ∀ p, w.calls p = .idle
  step := step env

end CoinGeneration
end PromoBot
