import PromoBot.Database.History
import PromoBot.Lib.Trace
import PromoBot.Lib.TransitionSystem
import PromoBot.Providers.Top

/-!
# Requests on the wire

`AliExpressHttpTransport.execute` of `providers/aliexpress/transport.py`, the client before
it (`AliExpressAffiliateApiClient.execute`), and `AuditedGenerationCall` of
`affiliate/history_context.py`.

Any number of executions go on at once, each from one `await` to the next, and share the
audited calls and the table of generations.  What an `await` brings is part of the action:
the budget may be refused, the storage may be found unfit, a transaction may fail before or
after it was committed, and the network may answer anything.  Others work on the table
meanwhile.

The log says what has happened, in order; no execution reads it.  `no_call_before_audit` is
what can be said of it: no request goes out without a charge of its own, and none for
affiliate links goes out before the record of it.
-/

namespace PromoBot
namespace Transport

open Fallible LinkGenerate TopRequests AffiliateLinkHistoryRepository

/-! ## Transports, clients and audited calls -/

/-- The settings of `AliExpressHttpTransport`, less those of timing; `beforeSend` says that
one was given. -/
structure AliExpressHttpTransport where
  maxAttempts : Nat
  durableRetry : Bool
  beforeSend : Bool
  /-- `max_attempts must be positive`. -/
  positive : 1 ≤ maxAttempts

/-- `AliExpressAffiliateApiClient`, less its transport. -/
structure AliExpressAffiliateApiClient where
  requestBuilder : AliExpressTopRequestBuilder
  liveEnabled : Bool

/-- `AuditedGenerationCall`, less what changes: the generations of a batch. -/
structure AuditedGenerationCall where
  generationIds : List Nat
  leaseTokens : List Nat
  payload : PyDict Text Text
  /-- `link_generate_payload` refuses an empty batch. -/
  nonempty : generationIds ≠ []

/-- What is asked of a transport, by the client or directly. -/
inductive Entry
  | client (client : AliExpressAffiliateApiClient) (operation : Text)
      (payload : PyDict Text Text)
  | prepared (r : PreparedAliExpressTopRequest)

/-- The entry asks for affiliate links. -/
def Entry.Generates : Entry → Prop
  | client _ operation _ => operation = linkGenerate
  | prepared r => r.IsLinkGenerate

/-- One execution; `call` is what `CURRENT_GENERATION_CALL` holds in its context. -/
structure Task where
  transport : AliExpressHttpTransport
  entry : Entry
  call : Option Nat

/-- All executions and audited calls there are, and the HMAC. -/
structure Env where
  tasks : Nat → Task
  calls : Nat → AuditedGenerationCall
  hmac : Text → Text → Text

/-! ## What an execution returns -/

/-- What an execution may raise. -/
inductive Failure
  | raised (error : Raised)
  /-- `AliExpressCompleteResponseError`. -/
  | completeResponse
  /-- `AffiliateHistoryError`. -/
  | history (code : String)
  /-- What the code it calls has raised, or its cancellation. -/
  | other
  deriving DecidableEq

/-- The body of a response. -/
inductive Body
  | notJson
  | notMapping
  | mapping (fields : List (String × Json))

/-- What comes of `client.request`. -/
inductive Answer
  | transportError
  | response (statusCode : Nat) (body : Body)
  /-- Another exception, or the execution is cancelled. -/
  | other

/-- What comes of `before_send`. -/
inductive Charge
  | granted
  /-- It raised `httpx.TransportError`, which the loop takes for one of its own. -/
  | transportError
  | refused (failure : Failure)

/-- What comes of a transaction which has changed what it wanted to change. -/
inductive Commit
  | committed
  | rolledBack
  /-- It was committed, and then an exception arrived. -/
  | interrupted
  deriving DecidableEq

/-- `TRANSIENT_STATUS`. -/
def transientStatus : List Nat := [429, 502, 503, 504]

/-- `response.is_error`. -/
def isError (statusCode : Nat) : Bool := 400 ≤ statusCode && statusCode ≤ 599

/-- What a response comes to; `none` where the loop goes on. -/
def received (statusCode : Nat) : Body → Option (Except Failure (List (String × Json)))
  | body =>
    if statusCode ∈ transientStatus then none
    else if isError statusCode then
      some (.error (.raised (rejection "ALIEXPRESS_HTTP_PERMANENT")))
    else some (match body with
      | .notJson => .error (.raised (reviewed "ALIEXPRESS_RESPONSE_INCOMPATIBLE"))
      | .notMapping => .error .completeResponse
      | .mapping fields => .ok fields)

/-! ## The state -/

/-- Where an execution stands: at which `await`, with which request, in which attempt. -/
inductive Phase
  | idle
  /-- At the storage check of the client. -/
  | clientStorage
  /-- At the storage check of the transport. -/
  | storage (r : PreparedAliExpressTopRequest)
  /-- At `before_send`. -/
  | charging (r : PreparedAliExpressTopRequest) (attempt : Nat)
  /-- At `mark_started`. -/
  | starting (r : PreparedAliExpressTopRequest) (attempt : Nat) (call : Nat)
  /-- The request is out. -/
  | waiting (r : PreparedAliExpressTopRequest) (attempt : Nat)
  | sleeping (r : PreparedAliExpressTopRequest) (attempt : Nat)
  | done (result : Except Failure (List (String × Json)))

/-- What is checked before a request goes out. -/
inductive Check
  | budget | storage | commit
  deriving DecidableEq

/-- What can be seen to happen. -/
inductive Event
  /-- `before_send` was called, and returned. -/
  | granted (p : Nat)
  /-- A check of an execution failed. -/
  | failed (p : Nat) (check : Check)
  /-- `CALL_STARTED` was committed for a call; the table after it. -/
  | committed (call : Nat) (table : Generations)
  /-- A request went out. -/
  | wire (p : Nat) (r : PreparedAliExpressTopRequest)

/-- The table, the two flags of each audited call, the executions, and the log. -/
structure World where
  history : Generations
  started : Nat → Bool
  wireEntered : Nat → Bool
  phases : Nat → Phase
  log : List Event

namespace World

/-- An execution moves on. -/
def withPhase (w : World) (p : Nat) (phase : Phase) : World :=
  { w with phases := Function.update w.phases p phase }

/-- Something happens. -/
def logged (w : World) (e : Event) : World := { w with log := w.log ++ [e] }

/-- `CALL_STARTED` is committed for a call. -/
def commit (w : World) (c : Nat) (table : Generations) : World :=
  { w with history := table, log := w.log ++ [.committed c table] }

/-- An execution sends a request under an audited call. -/
def enterWire (w : World) (p : Nat) (r : PreparedAliExpressTopRequest) (attempt c : Nat) :
    World :=
  ({ w with wireEntered := Function.update w.wireEntered c true }.logged
    (.wire p r)).withPhase p (.waiting r attempt)

end World

/-! ## The client and the transport up to the first `await` -/

variable (env : Env)

def Matches (r : PreparedAliExpressTopRequest) (call : AuditedGenerationCall) : Prop :=
  r.formPairs.length = call.payload.items.length ∧
    PyDict.SameDict r.formPairs call.payload.items

instance (r : PreparedAliExpressTopRequest) (call : AuditedGenerationCall) :
    Decidable (Matches r call) := inferInstanceAs (Decidable (_ ∧ _))

/-- What `execute` of the transport checks of a request for affiliate links. -/
def admitGeneration (w : World) (task : Task) (r : PreparedAliExpressTopRequest) :
    Except Raised Unit := do
  check (task.transport.maxAttempts = 1)
    (.valueError "AFFILIATE_HISTORY_SINGLE_ATTEMPT_REQUIRED")
  let c ← orRaise task.call (.valueError "AFFILIATE_HISTORY_CONTEXT_REQUIRED")
  check (Matches r (env.calls c) ∧ w.wireEntered c = false)
    (.valueError "AFFILIATE_HISTORY_CONTEXT_INVALID")

/-- `execute` of the transport, up to its first `await`. -/
def enterTransport (w : World) (task : Task) (r : PreparedAliExpressTopRequest) :
    Except Raised Phase := do
  check (r.method = "POST".toList ∧ r.path = "/sync".toList)
    (.valueError "AliExpress TOP request has an unsupported method or path")
  if r.IsLinkGenerate then
    admitGeneration env w task r
    return .storage r
  else
    return .charging r 1

/-- The client prepares the request and hands it to the transport. -/
def prepareAndEnter (w : World) (task : Task) (client : AliExpressAffiliateApiClient)
    (operation : Text) (payload : PyDict Text Text) (timestampMs : Int) :
    Except Raised Phase := do
  let r ← prepare env.hmac client.requestBuilder operation
    ⟨payload.items.map fun e => (e.1, some e.2), by
      simpa [Function.comp_def] using payload.nodup⟩ timestampMs none false
  enterTransport env w task r

/-- `execute` of the client, up to its first `await`. -/
def enterClient (w : World) (task : Task) (client : AliExpressAffiliateApiClient)
    (operation : Text) (payload : PyDict Text Text) (timestampMs : Int) :
    Except Raised Phase := do
  check (operation ∈ authorizedOperations) (rejection "ALIEXPRESS_OPERATION_UNSUPPORTED")
  check (client.liveEnabled = true) (rejection "ALIEXPRESS_LIVE_API_DISABLED")
  if operation = linkGenerate then
    let c ← orRaise task.call (.valueError "AFFILIATE_HISTORY_CONTEXT_REQUIRED")
    check (PyDict.SameDict payload.items (env.calls c).payload.items ∧ w.wireEntered c = false)
      (.valueError "AFFILIATE_HISTORY_CONTEXT_INVALID")
    return .clientStorage
  else
    prepareAndEnter env w task client operation payload timestampMs

/-- Where an execution goes. -/
def settled : Except Raised Phase → Phase
  | .ok phase => phase
  | .error error => .done (.error (.raised error))

/-! ## Steps -/

/-- `start_call` of an audited call, in its transaction. -/
def startAudited (t : Generations) (call : AuditedGenerationCall) (now : Instant) :
    Except Failure Generations := do
  let t ← orRaise (startCall now t (call.generationIds.zip call.leaseTokens))
    (.history "AFFILIATE_HISTORY_GENERATION_IN_PROGRESS")
  check (call.generationIds.length = call.leaseTokens.length)
    (.raised (.valueError "zip() arguments differ in length"))
  return t

/-- What others do to the table. -/
inductive HistoryOp
  | requestLegacyGeneration (scope : HistoryScope) (key : IdentityKey) (legacyKind : LegacyKind)
      (legacyId : Nat)
  | prepare (q : Preparation) (requestId : Option Nat)
  | startCall (now : Instant) (tokens : List (Nat × Nat))
  | confirm (id : Nat) (c : Confirmation)
  | fail (ids : List Nat) (now : Instant) (state : GenerationState) (code : String)
  | recover (scope : HistoryScope) (now : Instant)

/-- The table after it; `none` where it raises. -/
def HistoryOp.apply (t : Generations) : HistoryOp → Option Generations
  | .requestLegacyGeneration scope key legacyKind legacyId =>
    (AffiliateLinkHistoryRepository.requestLegacyGeneration t scope key legacyKind
      legacyId).toOption
  | .prepare q requestId =>
    ((AffiliateLinkHistoryRepository.prepare t q requestId).map Prod.fst).toOption
  | .startCall now tokens => AffiliateLinkHistoryRepository.startCall now t tokens
  | .confirm id c => AffiliateLinkHistoryRepository.confirm t id c
  | .fail ids now state code => AffiliateLinkHistoryRepository.fail t ids now state code
  | .recover scope now => some (AffiliateLinkHistoryRepository.recover t scope now)

/-- What can happen next. -/
inductive Action
  /-- `execute` is called. -/
  | enter (p : Nat) (timestampMs : Int)
  /-- The storage check of the client returns, or raises. -/
  | clientStorage (p : Nat) (fit : Bool) (timestampMs : Int)
  /-- The storage check of the transport returns, or raises. -/
  | storage (p : Nat) (fit : Bool)
  /-- `before_send` returns, or raises. -/
  | charge (p : Nat) (charge : Charge)
  /-- The transaction of `mark_started` ends. -/
  | start (p : Nat) (now : Instant) (commit : Commit)
  /-- `client.request` returns, or raises. -/
  | answer (p : Nat) (answer : Answer)
  /-- The execution has slept, or is cancelled. -/
  | wake (p : Nat) (cancelled : Bool)
  /-- Who made an audited call marks it started, having a client of another kind. -/
  | markStarted (c : Nat) (now : Instant) (commit : Commit)
  /-- Others work on the table. -/
  | other (op : HistoryOp)

/-- The transport after a failed attempt. -/
def retry (transport : AliExpressHttpTransport) (r : PreparedAliExpressTopRequest)
    (attempt : Nat) : Phase :=
  if attempt = transport.maxAttempts then
    .done (.error (.raised (.provider ⟨"ALIEXPRESS_RETRY_EXHAUSTED", transport.durableRetry,
      false⟩)))
  else .sleeping r attempt

/-- The transport goes on after `before_send`, up to the next `await`. -/
def afterCharge (w : World) (p : Nat) (task : Task) (r : PreparedAliExpressTopRequest)
    (attempt : Nat) : World :=
  if r.IsLinkGenerate then
    match task.call with
    | none => w.withPhase p
        (.done (.error (.raised (.valueError "AFFILIATE_HISTORY_CONTEXT_REQUIRED"))))
    | some c =>
      if w.wireEntered c = true then
        w.withPhase p (.done (.error (.history "AFFILIATE_HISTORY_GENERATION_ALREADY_STARTED")))
      else if w.started c = true then w.enterWire p r attempt c
      else w.withPhase p (.starting r attempt c)
  else (w.logged (.wire p r)).withPhase p (.waiting r attempt)

def step (w : World) : Action → Option World
  | .enter p timestampMs =>
    match w.phases p with
    | .idle => some (w.withPhase p (settled (match (env.tasks p).entry with
        | .client client operation payload =>
          enterClient env w (env.tasks p) client operation payload timestampMs
        | .prepared r => enterTransport env w (env.tasks p) r)))
    | _ => none
  | .clientStorage p fit timestampMs =>
    match w.phases p, (env.tasks p).entry with
    | .clientStorage, .client client operation payload =>
      if fit then some (w.withPhase p (settled
        (prepareAndEnter env w (env.tasks p) client operation payload timestampMs)))
      else some ((w.logged (.failed p .storage)).withPhase p (.done (.error .other)))
    | _, _ => none
  | .storage p fit =>
    match w.phases p with
    | .storage r =>
      if fit then some (w.withPhase p (.charging r 1))
      else some ((w.logged (.failed p .storage)).withPhase p (.done (.error .other)))
    | _ => none
  | .charge p charge =>
    match w.phases p with
    | .charging r attempt =>
      if (env.tasks p).transport.beforeSend then
        match charge with
        | .granted => some (afterCharge (w.logged (.granted p)) p (env.tasks p) r attempt)
        | .transportError => some ((w.logged (.failed p .budget)).withPhase p
            (retry (env.tasks p).transport r attempt))
        | .refused failure => some ((w.logged (.failed p .budget)).withPhase p
            (.done (.error failure)))
      else some (afterCharge w p (env.tasks p) r attempt)
    | _ => none
  | .start p now commit =>
    match w.phases p with
    | .starting r attempt c =>
      match startAudited w.history (env.calls c) now, commit with
      | .error failure, _ =>
        some ((w.logged (.failed p .commit)).withPhase p (.done (.error failure)))
      | .ok _, .rolledBack =>
        some ((w.logged (.failed p .commit)).withPhase p (.done (.error .other)))
      | .ok t, .interrupted =>
        some (((w.commit c t).logged (.failed p .commit)).withPhase p (.done (.error .other)))
      | .ok t, .committed =>
        some ({ w.commit c t with
          started := Function.update w.started c true }.enterWire p r attempt c)
    | _ => none
  | .answer p answer =>
    match w.phases p with
    | .waiting r attempt => some (w.withPhase p (match answer with
      | .transportError => retry (env.tasks p).transport r attempt
      | .response statusCode body =>
        match received statusCode body with
        | some result => .done result
        | none => retry (env.tasks p).transport r attempt
      | .other => .done (.error .other)))
    | _ => none
  | .wake p cancelled =>
    match w.phases p with
    | .sleeping r attempt =>
      some (w.withPhase p (if cancelled then .done (.error .other) else .charging r (attempt + 1)))
    | _ => none
  | .markStarted c now commit =>
    if w.started c = true then none
    else match startAudited w.history (env.calls c) now, commit with
      | .ok t, .committed =>
        some { w.commit c t with started := Function.update w.started c true }
      | .ok t, .interrupted => some (w.commit c t)
      | _, _ => none
  | .other op => (op.apply w.history).map fun t => { w with history := t }

/-- Any executions, beside any other work on the table. -/
def system : TransitionSystem World Action where
  init w := (∀ c, w.started c = false) ∧ (∀ c, w.wireEntered c = false) ∧
    (∀ p, w.phases p = .idle) ∧ w.log = []
  step := step env

end Transport
end PromoBot
