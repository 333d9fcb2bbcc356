import PromoBot.Affiliate.CoinGeneration
import PromoBot.Affiliate.CoinOccurrences
import PromoBot.Affiliate.ShadowPreviews
import PromoBot.Security.WrapperLinks

/-!
# Previews of messages with several coin links

`CoinShadowMultiPreview.prepare` (`affiliate/coin_shadow_multi.py`) over the calls of
`CoinGeneration`: the links of a message are collected, wrappers are resolved, every
distinct link is generated, one after the other, and the whole text is stored at once.

A run of `prepare` has a number, and its calls of `generate` are the calls of that number.
Between any two of its waits the world may do anything else: other runs go on, other
services generate links, previews are purged, uses are written, and the run may end.  The
budgets of the listener are numbers of the schedule, read where the source reads them; its
counters are left out, and so is what a preview stores of the time it was made at.

`effects` lists what the runs did outside: the requests of wrappers, the requests for links,
and the previews they stored.
-/

namespace PromoBot
namespace MultiPreview

open Conversion Fallible SqlTable PyUrl CoinOccurrences
open CoinGeneration (CoinTables Request)
open SeuHardwareShortResolver (WrapperNetwork Fetch)

/-- The functions of an `Environment`, and those of `datetime`. -/
structure Clockwork extends Environment where
  /-- `datetime.fromisoformat` reads a time with an offset. -/
  isAware : Text → Bool
  /-- `datetime.isoformat`. -/
  isoformat : Instant → Text

variable (env : Clockwork)

/-! ## Outcomes of a generation -/

/-- `CoinShadowGenerationOutcome`, as far as it is read. -/
structure Outcome where
  evidenceId : Nat
  state : CoinShadowEvidenceState
  cacheHit : Bool
  promotionLink : Option Text
  trackingConfirmed : Bool
  errorCode : Option String
  expiresAt : Option Instant
  generationId : Option Nat
  deriving DecidableEq

/-- `f"ALIEXPRESS_COIN_{state.value}"`. -/
def stateCode : CoinShadowEvidenceState → String
  | .generating => "ALIEXPRESS_COIN_GENERATING"
  | .ready => "ALIEXPRESS_COIN_READY"
  | .reviewRequired => "ALIEXPRESS_COIN_REVIEW_REQUIRED"
  | .uncertain => "ALIEXPRESS_COIN_UNCERTAIN"

/-- `_outcome`. -/
def outcomeOf (claim : CoinShadowClaim) (cacheHit : Bool) : Outcome where
  evidenceId := claim.evidenceId
  state := claim.state
  cacheHit := cacheHit
  promotionLink := claim.promotionLink
  trackingConfirmed := claim.state = .ready
  errorCode := if claim.state = .ready then none else some (stateCode claim.state)
  expiresAt := claim.expiresAt
  generationId := claim.generationId

/-- An outcome without a link. -/
def endedOutcome (evidenceId : Nat) (state : CoinShadowEvidenceState) (code : String) : Outcome :=
  ⟨evidenceId, state, false, none, false, some code, none, none⟩

/-- The outcome of a call that won nothing.  The observers of this path wait for nothing. -/
def claimOutcome (claim : CoinShadowClaim) : Outcome :=
  match claim.disposition with
  | .ready => outcomeOf claim true
  | .inProgress =>
    endedOutcome claim.evidenceId .generating "ALIEXPRESS_COIN_GENERATION_IN_PROGRESS"
  | .blocked | .generate => outcomeOf claim false

def storedOutcome (w : CoinGeneration.Winner) (parsed : CoinShadow.CoinShadowLinkResult)
    (generatedAt : Instant) : Outcome where
  evidenceId := w.claim.evidenceId
  state := .ready
  cacheHit := false
  promotionLink := some parsed.promotionLink
  trackingConfirmed := true
  errorCode := none
  expiresAt := some (generatedAt + hours 24)
  generationId := some w.generationId

/-- What `prepare` asks of an outcome. -/
def Outcome.Usable (o : Outcome) : Prop :=
  o.state = .ready ∧ (o.promotionLink.getD []) ≠ [] ∧ o.generationId ≠ none ∧
    o.trackingConfirmed = true ∧ o.expiresAt ≠ none

instance : DecidablePred Outcome.Usable := fun _ => inferInstanceAs (Decidable (_ ∧ _))

/-! ## Looking at the cache -/

/-- The first loop of `inspect` over the rows of a link. -/
def inspectRow (history : Generations) (now : Instant) (row : Nat × CoinShadowEvidence) :
    Except String Unit := do
  check (¬ (row.2.state = .uncertain ∨ row.2.state = .generating ∧ ¬ Above row.2.leaseUntil now))
    "AFFILIATE_HISTORY_GENERATION_UNCERTAIN_BLOCKED"
  check (row.2.state ≠ .generating) "AFFILIATE_HISTORY_GENERATION_IN_PROGRESS"
  if row.2.state = .ready then
    let _ ← AffiliateLinkHistoryRepository.validateCoinEvidence history row.2

/-- The second loop of `inspect`. -/
def eligible (trackingFingerprint : Text) (now : Instant) :
    List (Nat × CoinShadowEvidence) → Except String (Option Outcome)
  | [] => .ok none
  | row :: rest =>
    if row.2.trackingFingerprint ≠ trackingFingerprint ∨ row.2.promotionLinkType ≠ 0 then
      eligible trackingFingerprint now rest
    else if row.2.state ≠ .ready then
      .error ((row.2.errorCode.filter (· ≠ "")).getD (stateCode row.2.state))
    else if Above row.2.expiresAt now then
      .ok (some (outcomeOf (CoinShadowEvidenceRepository.claimForExisting row) true))
    else eligible trackingFingerprint now rest

/-- `inspect`. -/
def inspect (t : CoinTables) (service : CoinService) (value : Text) (now : Instant) :
    Except String (Option Outcome) := do
  let p := coinPreparation env.toEnvironment service value now 0 none
  AffiliateLinkHistoryRepository.checkCoinKeyRotation t.history t.evidence p.keyFingerprint
    p.inputFingerprint p.trackingFingerprint
  let rows := t.evidence.select fun _ e => e.inputFingerprint = p.inputFingerprint
  let _ ← rows.mapM (inspectRow t.history now)
  AffiliateLinkHistoryRepository.checkIdentity t.history .shadow p.identityKey (some now)
  eligible p.trackingFingerprint now rows

/-! ## A run of `prepare` -/

/-- The settings of the service and the message it was called with; `wrappers` says that there
is a `wrapper_resolver`. -/
structure Job where
  service : CoinService
  message : IncomingMessage
  maxOccurrences : Nat
  wrappers : Bool

/-- What `prepare` knows once every link is resolved. -/
structure Plan where
  job : Job
  occurrences : List CoinShortOccurrence
  /-- `resolved`. -/
  resolved : List (Text × Text)
  /-- `observed_at`. -/
  observedAt : List (Text × Text)

/-- `tuple(dict.fromkeys(resolved.values()))`. -/
def Plan.inputs (plan : Plan) : List Text := (plan.resolved.map Prod.snd).eraseDups

/-- Where a run of `prepare` stands. -/
inductive Stage
  | absent
  /-- The first of these occurrences is a wrapper which is not resolved yet. -/
  | resolving (plan : Plan) (todo : List CoinShortOccurrence)
  /-- Before `recover`. -/
  | recovering (plan : Plan)
  /-- Before `inspect`; so many inputs were not in the cache. -/
  | inspecting (plan : Plan) (todo : List Text) (missing : Nat)
  /-- Before the second look at the cache. -/
  | probing (plan : Plan) (todo : List Text) (generated : List (Text × Outcome))
  /-- In `generate`, for this input. -/
  | generating (plan : Plan) (value : Text) (todo : List Text) (generated : List (Text × Outcome))
  /-- Before the last transaction. -/
  | saving (plan : Plan) (generated : List (Text × Outcome))
  /-- Returned, with the number of the preview and its text. -/
  | done (previewId : Nat) (renderedText : Text)
  /-- Raised, with this text; nothing is known of a cancellation. -/
  | ended (text : Option String)

/-- What a run does outside of its own process. -/
inductive Effect
  | fetch (f : Fetch)
  | send (value : Text)
  | save
  deriving DecidableEq

/-- The tables and the calls of the generation, the other tables, the runs, and what they did,
the last one last. -/
structure World where
  base : CoinGeneration.World
  uses : LinkUses
  previews : CoinShadowMultiPreviews
  /-- The highest number a preview had. -/
  sequence : Nat
  stages : Nat → Stage
  effects : List (Nat × Effect)

/-! ### Resolving -/

/-- The loop which resolves, as far as it needs no request: short links stand for themselves.
What is left begins with a wrapper. -/
def advance (resolved : List (Text × Text)) :
    List CoinShortOccurrence → List (Text × Text) × List CoinShortOccurrence
  | [] => (resolved, [])
  | row :: rest =>
    if (resolved.lookup row.sourceValue).isSome then advance resolved rest
    else if CoinShadow.coinShort.fullMatches row.sourceValue then
      advance (resolved ++ [(row.sourceValue, row.sourceValue)]) rest
    else (resolved, row :: rest)

/-- Where the run goes after the links it resolved. -/
def resolvingStage (plan : Plan) (todo : List CoinShortOccurrence) : Stage :=
  let next := advance plan.resolved todo
  let plan := { plan with resolved := next.1 }
  match next.2 with
  | [] => .recovering plan
  | row :: rest => .resolving plan (row :: rest)

/-- The beginning of `prepare`. -/
def begun (job : Job) (sendBudget : Nat) : Stage :=
  match collectCoinOccurrences job.message job.maxOccurrences job.wrappers with
  | .error e => .ended (some e.code)
  | .ok occurrences =>
    if occurrences.length < 2 ∧ job.wrappers = false then
      .ended (some "ALIEXPRESS_COIN_MULTI_OCCURRENCES_REQUIRED")
    else if job.wrappers = true ∧ sendBudget < 1 then
      .ended (some "SHADOW_SEND_MESSAGE_LIMIT_REACHED")
    else resolvingStage ⟨job, occurrences, [], []⟩ occurrences

/-- Where the run goes after the answer for a wrapper. -/
def afterWrapper (plan : Plan) (row : CoinShortOccurrence) (rest : List CoinShortOccurrence)
    (now : Instant) : Except (SeuHardwareShortResolver.Raised Unit) Text → Stage
  | .ok link =>
    resolvingStage { plan with
      resolved := plan.resolved ++ [(row.sourceValue, link)]
      observedAt := plan.observedAt ++ [(row.sourceValue, env.isoformat now)] } rest
  | .error (.rejected code) => .ended (some code)
  | .error _ => .ended none

/-- `resolution_metadata`, with the ordinals. -/
def Plan.metadata (plan : Plan) : List (CoinShortOccurrence × List (String × Json)) :=
  plan.occurrences.filterMap fun row =>
    (plan.observedAt.lookup row.sourceValue).map fun observedAt =>
      (row, [("ordinal", .int row.ordinal), ("span_start", .int row.start),
        ("span_end", .int row.stop),
        ("original_input_fingerprint", .str (env.fingerprint plan.job.service.appSecret
          row.sourceValue "seuhardware-wrapper-input-v1".toList)),
        ("resolved_input_fingerprint", .str (env.fingerprint plan.job.service.appSecret
          ((plan.resolved.lookup row.sourceValue).getD [])
          "aliexpress-coin-shadow-input-v1".toList)),
        ("http_status", .int 302), ("observed_at", .str observedAt),
        ("validity", .str "MESSAGE_ONLY_NOT_CACHE".toList)])

/-! ### Generating -/

/-- The origin a generation is prepared with. -/
def Plan.origin (plan : Plan) (value : Text) : List (String × Json) :=
  let message := plan.job.message
  let observations := (plan.metadata env).filter fun e =>
    plan.resolved.lookup e.1.sourceValue = some value
  [("platform", .str message.platform), ("channel_id", .str message.channelId),
    ("message_id", .str (Text.ofNat message.messageId)),
    ("occurred_at", .str (env.isoformat message.occurredAt))] ++
  if observations = [] then []
  else [("wrapper_resolution_version", .int 1),
    ("wrapper_resolutions", .arr (observations.map fun e => .obj e.2))]

/-- The request for an input. -/
def Plan.request (plan : Plan) (value : Text) : Request where
  service := plan.job.service
  sourceValue := value
  generationRequest := none
  origin := some (plan.origin env value)

/-- Where the run goes after the last look at the cache. -/
def afterInspection (plan : Plan) (missing sendBudget apiBudget : Nat) : Stage :=
  if sendBudget < 1 then .ended (some "SHADOW_SEND_MESSAGE_LIMIT_REACHED")
  else if apiBudget < missing then
    .ended (some "ALIEXPRESS_COIN_MESSAGE_API_BUDGET_INSUFFICIENT")
  else .probing plan plan.inputs []

/-- How the step of a call ends its `generate`: with an outcome, or with what it raises. -/
def ending (w : CoinGeneration.World) :
    CoinGeneration.Action → Option (Except (Option String) Outcome)
  | .claim p unchanged =>
    match w.calls p with
    | .claiming q now =>
      match CoinGeneration.claimAndPrepare env.toEnvironment w.tables q now w.nextUuid
          unchanged with
      | .ok (_, claim, none) => some (.ok (claimOutcome claim))
      | .ok (_, _, some _) => none
      | .error text => some (.error (some text))
    | _ => none
  | .store p reported =>
    match w.calls p with
    | .storing winner parsed generatedAt =>
      match CoinGeneration.storeLink env.toEnvironment w.tables winner parsed generatedAt with
      | .ok _ => if reported then some (.ok (storedOutcome winner parsed generatedAt)) else none
      | .error _ => none
    | _ => none
  | .reject p now now' reported =>
    match w.calls p with
    | .rejecting winner code =>
      match CoinGeneration.finishRejected w.tables winner code now now' with
      | .ok _ =>
        if reported then some (.ok (endedOutcome winner.claim.evidenceId .reviewRequired code))
        else none
      | .error _ => none
    | _ => none
  | .close p _ _ =>
    match w.calls p with
    | .closing winner code =>
      if code = "ALIEXPRESS_COIN_GENERATION_CANCELLED" then some (.error none)
      else some (.ok (endedOutcome winner.claim.evidenceId .uncertain code))
    | _ => none
  | .cancel _ | .crash _ => some (.error none)
  | _ => none

/-- Where the run goes with the outcome of an input. -/
def afterGeneration (plan : Plan) (value : Text) (todo : List Text)
    (generated : List (Text × Outcome)) : Except (Option String) Outcome → Stage
  | .error text => .ended text
  | .ok outcome =>
    if outcome.Usable then
      match todo with
      | [] => .saving plan (generated ++ [(value, outcome)])
      | next :: rest => .probing plan (next :: rest) (generated ++ [(value, outcome)])
    else .ended (some ((outcome.errorCode.filter (· ≠ "")).getD
      "ALIEXPRESS_COIN_GENERATION_NOT_READY"))

/-! ### Storing -/

/-- `replacements`. -/
def Plan.replacements (plan : Plan) (generated : List (Text × Outcome)) : List (Text × Text) :=
  plan.resolved.filterMap fun e =>
    ((generated.lookup e.2).bind Outcome.promotionLink).map fun link => (e.1, link)

/-- The evidence and the generation of an occurrence. -/
def Plan.correlation (plan : Plan) (generated : List (Text × Outcome))
    (row : CoinShortOccurrence) : CoinMultiOccurrence :=
  let outcome := (plan.resolved.lookup row.sourceValue).bind fun value => generated.lookup value
  ⟨row.ordinal, row.start, row.stop, (outcome.map Outcome.evidenceId).getD 0,
    (outcome.bind Outcome.generationId).getD 0⟩

/-- The fingerprint of the message. -/
def Job.fingerprint (job : Job) : Text :=
  env.toEnvironment.fingerprint job.service.appSecret
    (job.message.platform ++ '\x00' :: job.message.channelId ++
      '\x00' :: Text.ofNat job.message.messageId)
    "aliexpress-coin-shadow-message-v1".toList

/-- The checks of the rendered text, and what `save_ready` is called with. -/
def Plan.save (plan : Plan) (generated : List (Text × Outcome)) (now : Instant) :
    Except String CoinShadowMultiPreviewRepository.Save := do
  let text := plan.job.message.originalText
  let replacements := plan.replacements generated
  let rendered := renderReplacements text replacements
  let replaced := (Parser.urlTokens text).filter fun url => (replacements.lookup url).isSome
  check (replaced.length = plan.occurrences.length ∧
    replaced.Perm (plan.occurrences.map CoinShortOccurrence.sourceValue))
    "ALIEXPRESS_COIN_REPLACEMENT_MISMATCH"
  check (utf16Length rendered ≤ 4096) "COIN_SHADOW_MESSAGE_TOO_LONG"
  return {
    sourceMessageFingerprint := plan.job.fingerprint env
    renderedText := rendered
    occurrences := plan.occurrences.map (plan.correlation generated)
    cacheHits := generated.filterMap fun e => e.2.generationId.map fun id => (id, e.2.cacheHit)
    now := now
    wrapperResolutions := (plan.metadata env).map fun e => .obj (e.2 ++
      [("generation_id", .int (plan.correlation generated e.1).generationId)]) }

/-- The last transaction of `prepare`. -/
def saved (w : World) (plan : Plan) (generated : List (Text × Outcome)) (now : Instant) :
    Except String (LinkUses × CoinShadowMultiPreviews × CoinShadowMultiPreviewRepository.Save) := do
  let q ← plan.save env generated now
  let written ← CoinShadowMultiPreviewRepository.saveReady env.isAware w.base.tables.history
    w.base.tables.evidence w.uses w.previews w.sequence q
  return (written.1, written.2, q)

/-- The number of the preview of a message. -/
def previewIdOf (previews : CoinShadowMultiPreviews) (fingerprint : Text) : Nat :=
  ((previews.select fun _ r => r.sourceMessageFingerprint = fingerprint).head?.map
    Prod.fst).getD 0

/-! ## The system -/

/-- What can happen next. -/
inductive Action
  /-- `prepare` is called. -/
  | start (p : Nat) (job : Job) (sendBudget : Nat)
  /-- The resolver of run `p` is done with a wrapper, in this network. -/
  | resolve (p : Nat) (net : WrapperNetwork Unit) (now : Instant)
  /-- Run `p` runs `recover`. -/
  | recover (p : Nat) (now : Instant)
  /-- Run `p` looks at the cache; the budgets are read after the last look. -/
  | inspect (p : Nat) (now : Instant) (sendBudget apiBudget : Nat)
  /-- Run `p` looks at the cache again, and calls `generate`, which reads the clock. -/
  | probe (p : Nat) (now : Instant) (apiBudget : Nat) (startedAt : Instant)
  /-- Run `p` stores its preview. -/
  | save (p : Nat) (now : Instant)
  /-- Run `p` is cancelled, or something in it raises. -/
  | abandon (p : Nat)
  /-- A step of the generation of links. -/
  | base (a : CoinGeneration.Action)
  /-- Others write the uses. -/
  | uses (uses : LinkUses)
  /-- Previews are purged. -/
  | purge (ids : List Nat)

/-- The call an action of the generation is a step of. -/
def callOf : CoinGeneration.Action → Option Nat
  | .begin' p _ _ | .recover p | .claim p _ | .start p _ | .answer p _ _ | .store p _
  | .reject p _ _ _ | .close p _ _ | .raise p | .cancel p | .crash p => some p
  | .recoverElsewhere _ | .request _ | .canonical _ => none

/-- The action calls `generate`. -/
def begins : CoinGeneration.Action → Bool
  | .begin' _ _ _ => true
  | _ => false

/-- The stage of a run after a step of its call. -/
def stageAfter (w : CoinGeneration.World) (a : CoinGeneration.Action) (stage : Stage) : Stage :=
  match stage with
  | .generating plan value todo generated =>
    match ending env w a with
    | some result => afterGeneration plan value todo generated result
    | none => stage
  | stage => stage

/-- What a run does with a step of its call: the request is sent once the call is started. -/
def sentBy (w w' : CoinGeneration.World) (p : Nat) (stage : Stage) : List (Nat × Effect) :=
  match stage, w.calls p, w'.calls p with
  | .generating _ value _ _, .calling _, .started _ => [(p, .send value)]
  | _, _, _ => []

/-- The world after run `p` moved on. -/
def World.withStage (w : World) (p : Nat) (stage : Stage) : World :=
  { w with stages := Function.update w.stages p stage }

def step (w : World) : Action → Option World
  | .start p job sendBudget =>
    match w.stages p, w.base.calls p with
    | .absent, .idle => some (w.withStage p (begun job sendBudget))
    | _, _ => none
  | .resolve p net now =>
    match w.stages p with
    | .resolving plan (row :: rest) =>
      let resolution := SeuHardwareShortResolver.resolve net row.sourceValue
      some { w.withStage p (afterWrapper env plan row rest now resolution.outcome) with
        effects := w.effects ++ resolution.fetches.map fun f => (p, .fetch f) }
    | _ => none
  | .recover p now =>
    match w.stages p with
    | .recovering plan =>
      some { w.withStage p (.inspecting plan plan.inputs 0) with
        base := { w.base with tables := CoinGeneration.recover w.base.tables now } }
    | _ => none
  | .inspect p now sendBudget apiBudget =>
    match w.stages p with
    | .inspecting plan (value :: todo) missing =>
      match inspect env w.base.tables plan.job.service value now with
      | .error text => some (w.withStage p (.ended (some text)))
      | .ok found =>
        let missing := missing + if found = none then 1 else 0
        some (w.withStage p (match todo with
          | [] => afterInspection plan missing sendBudget apiBudget
          | next :: rest => .inspecting plan (next :: rest) missing))
    | _ => none
  | .probe p now apiBudget startedAt =>
    match w.stages p with
    | .probing plan (value :: todo) generated =>
      match inspect env w.base.tables plan.job.service value now with
      | .error text => some (w.withStage p (.ended (some text)))
      | .ok found =>
        if found = none ∧ apiBudget < 1 then
          some (w.withStage p (.ended (some "ALIEXPRESS_COIN_MESSAGE_API_BUDGET_INSUFFICIENT")))
        else
          (CoinGeneration.step env.toEnvironment w.base
            (.begin' p (plan.request env value) startedAt)).map fun base =>
              { w.withStage p (.generating plan value todo generated) with base := base }
    | _ => none
  | .save p now =>
    match w.stages p with
    | .saving plan generated =>
      match saved env w plan generated now with
      | .ok (uses, previews, q) =>
        some { w.withStage p
            (.done (previewIdOf previews q.sourceMessageFingerprint) q.renderedText) with
          uses := uses
          previews := previews
          sequence := max w.sequence (previews.keys.foldr max 0)
          effects := w.effects ++ [(p, .save)] }
      | .error text => some (w.withStage p (.ended (some text)))
    | _ => none
  | .abandon p =>
    match w.stages p with
    | .absent | .generating _ _ _ _ | .done _ _ => none
    | _ => some (w.withStage p (.ended none))
  | .base a =>
    match callOf a with
    | none => (CoinGeneration.step env.toEnvironment w.base a).map fun base =>
        { w with base := base }
    | some p =>
      match w.stages p with
      | .absent => (CoinGeneration.step env.toEnvironment w.base a).map fun base =>
          { w with base := base }
      | stage =>
        if begins a = true then none
        else (CoinGeneration.step env.toEnvironment w.base a).map fun base =>
          { w.withStage p (stageAfter env w.base a stage) with
            base := base
            effects := w.effects ++ sentBy w.base base p stage }
  | .uses uses => some { w with uses := uses }
  | .purge ids => some { w with previews := w.previews.deleteWhere fun id _ => id ∈ ids }

/-- Any number of runs, from no preview on. -/
def system : TransitionSystem World Action where
  init w := w.previews = ∅ ∧ (∀ p, w.stages p = .absent) ∧ w.effects = []
  step := step env

end MultiPreview
end PromoBot
