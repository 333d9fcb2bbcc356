import Mathlib.Logic.Relation
import PromoBot.Domain.StateMachines
import PromoBot.Lib.Fallible
import PromoBot.Lib.PyJson
import PromoBot.Lib.SqlTable

/-!
# The `affiliate_link_generations` table

`AffiliateLinkHistoryRepository` of `database/history_repository.py`, as far as it
is about generations: one row for every time an affiliate link was asked for.

A row is *open* while the request may still be made or answered, and it *blocks*
its identity until it is confirmed: a row which ended any other way blocks it for
good.  `Change` collects, for a single row, everything the repository can do.

The key of a row is the `uuid4` of the source, here a fresh number.  An identity
key is the text `canonical:<candidate id>` or `coin:<input fingerprint>` of the
source, taken apart.
-/

namespace PromoBot

/-- The values of `AffiliateLinkGenerationModel.state`. -/
inductive GenerationState
  | requested | prepared | callStarted | confirmed | rejected | failed | uncertain
  deriving DecidableEq, Repr

/-- The values of `AffiliateLinkGenerationModel.scope`. -/
inductive HistoryScope
  | runtime | shadow
  deriving DecidableEq, Repr

/-- `AffiliateLinkGenerationModel.identity_key`. -/
inductive IdentityKey
  | canonical (candidateId : Nat)
  | coin (inputFingerprint : Text)
  deriving DecidableEq, Repr

/-- The values of `AffiliateLinkGenerationModel.legacy_kind`. -/
inductive LegacyKind
  | canonicalProof | coinEvidence
  deriving DecidableEq, Repr

/-- A row of `affiliate_link_generations` (`AffiliateLinkGenerationModel`). -/
structure Generation where
  scope : HistoryScope
  platform : String
  provider : String
  operation : String
  state : GenerationState
  identityKey : IdentityKey
  keyFingerprint : Option Text
  inputFingerprint : Option Text
  trackingFingerprint : Option Text
  promotionLinkType : Option Nat
  callId : Option Nat
  callOrdinal : Option Nat
  leaseToken : Option Nat
  leaseUntil : Option Instant
  preparedAt : Option Instant
  callStartedAt : Option Instant
  generatedAt : Option Instant
  finishedAt : Option Instant
  expiresAt : Option Instant
  generatedUrl : Option Text
  contractVersion : Option String
  correlationMode : Option String
  trackingConfirmed : Bool
  validationFacts : Option (List (String × Json))
  origin : Option (List (String × Json))
  originMissingReason : Option String
  errorCode : Option String
  legacyKind : Option LegacyKind
  legacyId : Option Nat

/-- The `affiliate_link_generations` table. -/
abbrev Generations := SqlTable Nat Generation

namespace Generation

/-- The states in which the request may still be made or answered. -/
def openStates : List GenerationState := [.prepared, .callStarted]

/-- The states in which a row keeps its identity from being generated again. -/
def blockingStates : List GenerationState :=
  [.prepared, .callStarted, .uncertain, .failed, .rejected]

/-- The states `fail` may put a row in. -/
def closingStates : List GenerationState := [.failed, .rejected, .uncertain]

/-- The request may still be made or answered. -/
def Open (r : Generation) : Prop := r.state ∈ openStates

/-- The row keeps its identity from being generated again. -/
def Blocking (r : Generation) : Prop := r.state ∈ blockingStates

instance : DecidablePred Open := fun _ => inferInstanceAs (Decidable (_ ∈ _))

instance : DecidablePred Blocking := fun _ => inferInstanceAs (Decidable (_ ∈ _))

theorem blocking_iff {r : Generation} :
    r.Blocking ↔ r.state ≠ .requested ∧ r.state ≠ .confirmed := by
  unfold Blocking
  cases r.state <;> decide

theorem Open.blocking {r : Generation} (h : r.Open) : r.Blocking := by
  unfold Open at h
  unfold Blocking
  cases hstate : r.state <;> rw [hstate] at h <;> first | decide | simp [openStates] at h

theorem blocking_of_closing {r : Generation} (h : r.state ∈ closingStates) : r.Blocking := by
  unfold Blocking
  cases hstate : r.state <;> rw [hstate] at h <;> first | decide | simp [closingStates] at h

theorem not_open_of_closing {r : Generation} (h : r.state ∈ closingStates) : ¬ r.Open := by
  unfold Open
  cases hstate : r.state <;> rw [hstate] at h <;> first | decide | simp [closingStates] at h

/-- The row blocks this identity. -/
def Blocks (scope : HistoryScope) (key : IdentityKey) (r : Generation) : Prop :=
  r.scope = scope ∧ r.platform = "aliexpress" ∧ r.identityKey = key ∧ r.Blocking

instance (scope : HistoryScope) (key : IdentityKey) : DecidablePred (Blocks scope key) :=
  fun _ => inferInstanceAs (Decidable (_ ∧ _))

/-- An entry of the origin, where it is a text (`origin.get(name)`). -/
def originText (r : Generation) (name : String) : Option Text :=
  r.origin.bind fun origin => (Json.get origin name).text?

end Generation

namespace AffiliateLinkHistoryRepository

open SqlTable Generation Fallible

/-! ## Checks -/

/-- What `check_identity` says of the row that blocks. -/
def blockedCode (now : Option Instant) (r : Generation) : String :=
  if r.state = .uncertain ∨ (r.state = .callStarted ∧
      (now = none ∨ r.leaseUntil = none ∨ ∃ n ∈ now, AtMost r.leaseUntil n)) then
    "AFFILIATE_HISTORY_GENERATION_UNCERTAIN_BLOCKED"
  else if r.Open then "AFFILIATE_HISTORY_GENERATION_IN_PROGRESS"
  else "AFFILIATE_HISTORY_LEGACY_TARGET_INELIGIBLE"

/-- `check_identity`. -/
def checkIdentity (t : Generations) (scope : HistoryScope) (key : IdentityKey)
    (now : Option Instant) : Except String Unit :=
  match (t.select fun _ r => Blocks scope key r).head? with
  | some (_, r) => .error (blockedCode now r)
  | none => .ok ()

/-- A coin row which was made under another key, or under one that is not known. -/
def OtherKey (scope : HistoryScope) (keyFingerprint : Text) (r : Generation) : Prop :=
  r.scope = scope ∧ (∃ fingerprint, r.identityKey = .coin fingerprint) ∧ r.Blocking ∧
    r.keyFingerprint ≠ some keyFingerprint

instance (scope : HistoryScope) (keyFingerprint : Text) :
    DecidablePred (OtherKey scope keyFingerprint) := fun r =>
  have : Decidable (∃ fingerprint, r.identityKey = .coin fingerprint) :=
    match r.identityKey with
    | .coin fingerprint => isTrue ⟨fingerprint, rfl⟩
    | .canonical _ => isFalse fun ⟨_, h⟩ => IdentityKey.noConfusion h
  inferInstanceAs (Decidable (_ ∧ _))

/-- `check_key_rotation`, as far as it is about generations. -/
def checkKeyRotation (t : Generations) (scope : HistoryScope) (keyFingerprint : Text) :
    Except String Unit :=
  match (t.select fun _ r => OtherKey scope keyFingerprint r).head? with
  | some (_, r) =>
    .error (if r.state = .rejected then "AFFILIATE_HISTORY_GENERATION_REJECTED_BLOCKED"
      else "AFFILIATE_HISTORY_GENERATION_UNCERTAIN_BLOCKED")
  | none => .ok ()

/-- The conditions of `validate_link`. -/
def LinkValid (generatedUrl : Text) (trackingFingerprint : Option Text)
    (contractVersion : Option String) (r : Generation) : Prop :=
  r.state = .confirmed ∧ r.generatedUrl = some generatedUrl ∧ r.trackingConfirmed = true ∧
    r.trackingFingerprint = trackingFingerprint ∧
    (contractVersion = none ∨ r.contractVersion = contractVersion) ∧
    (r.validationFacts.getD []).length ≠ 0 ∧ r.correlationMode.getD "" ≠ "" ∧
    r.callStartedAt ≠ none ∧ r.generatedAt ≠ none

instance (generatedUrl : Text) (trackingFingerprint : Option Text)
    (contractVersion : Option String) :
    DecidablePred (LinkValid generatedUrl trackingFingerprint contractVersion) :=
  fun _ => inferInstanceAs (Decidable (_ ∧ _))

/-- `validate_link`. -/
def validateLink (t : Generations) (generationId : Option Nat) (generatedUrl : Text)
    (trackingFingerprint : Option Text) (contractVersion : Option String) :
    Except String Generation := do
  let id ← orRaise generationId "AFFILIATE_HISTORY_GENERATION_LINK_MISSING"
  let r ← orRaise (t.get? id) "AFFILIATE_HISTORY_GENERATION_LINK_INVALID"
  check (LinkValid generatedUrl trackingFingerprint contractVersion r)
    "AFFILIATE_HISTORY_GENERATION_LINK_INVALID"
  return r

/-- `validate_request`, as far as it is about the request.  The record it was made for
is looked at by `legacy_target`, which is the last argument. -/
def validateRequest (t : Generations) (requestId : Nat) (scope : HistoryScope)
    (key : IdentityKey) (legacyKind : LegacyKind) (targetUnchanged : Bool) :
    Except String Generation := do
  check (¬ ∃ r, t.get? requestId = some r ∧ r.scope = scope ∧ r.identityKey = key ∧
    r.state = .uncertain) "AFFILIATE_HISTORY_GENERATION_UNCERTAIN_BLOCKED"
  let r ← orRaise (t.get? requestId) "AFFILIATE_HISTORY_LEGACY_TARGET_INELIGIBLE"
  check (r.state = .requested ∧ r.scope = scope ∧ r.identityKey = key ∧
    r.legacyKind = some legacyKind ∧ r.legacyId ≠ none)
    "AFFILIATE_HISTORY_LEGACY_TARGET_INELIGIBLE"
  checkIdentity t scope key none
  check (targetUnchanged = true) "AFFILIATE_HISTORY_LEGACY_TARGET_CHANGED"
  return r

/-- `validate_request`, where an operator made a request. -/
def validateGivenRequest (t : Generations) (request : Option Nat) (scope : HistoryScope)
    (key : IdentityKey) (legacyKind : LegacyKind) (targetUnchanged : Bool) :
    Except String Unit :=
  match request with
  | none => .ok ()
  | some id => (validateRequest t id scope key legacyKind targetUnchanged).map fun _ => ()

/-! ## Requests and preparations -/

/-- A new row, before anything is filled in. -/
def newRow (scope : HistoryScope) (key : IdentityKey) : Generation where
  scope := scope
  platform := "aliexpress"
  provider := "aliexpress_official"
  operation := "aliexpress.affiliate.link.generate"
  state := .requested
  identityKey := key
  keyFingerprint := none
  inputFingerprint := none
  trackingFingerprint := none
  promotionLinkType := none
  callId := none
  callOrdinal := none
  leaseToken := none
  leaseUntil := none
  preparedAt := none
  callStartedAt := none
  generatedAt := none
  finishedAt := none
  expiresAt := none
  generatedUrl := none
  contractVersion := none
  correlationMode := none
  trackingConfirmed := false
  validationFacts := none
  origin := none
  originMissingReason := none
  errorCode := none
  legacyKind := none
  legacyId := none

/-- The row an operator asks for, in place of a record from before the history. -/
def requestedRow (scope : HistoryScope) (key : IdentityKey) (legacyKind : LegacyKind)
    (legacyId : Nat) : Generation :=
  { newRow scope key with
    legacyKind := some legacyKind
    legacyId := some legacyId
    originMissingReason := some "OPERATOR_REQUEST_WITHOUT_MESSAGE" }

/-- `request_legacy_generation`, of a record `legacy_target` accepts. -/
def requestLegacyGeneration (t : Generations) (scope : HistoryScope) (key : IdentityKey)
    (legacyKind : LegacyKind) (legacyId : Nat) : Except String Generations := do
  checkIdentity t scope key none
  if (t.select fun _ r => r.scope = scope ∧ r.legacyKind = some legacyKind ∧
      r.legacyId = some legacyId ∧ r.state = .requested).isEmpty then
    return t.put t.freshId (requestedRow scope key legacyKind legacyId)
  else
    return t

/-- What a caller of `prepare` passes. -/
structure Preparation where
  scope : HistoryScope
  identityKey : IdentityKey
  now : Instant
  leaseUntil : Instant
  leaseToken : Nat
  callId : Nat
  callOrdinal : Nat
  inputFingerprint : Text
  trackingFingerprint : Text
  keyFingerprint : Text
  origin : Option (List (String × Json))

/-- The values `prepare` writes. -/
def prepared (q : Preparation) (r : Generation) : Generation :=
  { r with
    state := .prepared
    preparedAt := some q.now
    leaseUntil := some q.leaseUntil
    leaseToken := some q.leaseToken
    callId := some q.callId
    callOrdinal := some q.callOrdinal
    inputFingerprint := some q.inputFingerprint
    trackingFingerprint := some q.trackingFingerprint
    keyFingerprint := some q.keyFingerprint
    promotionLinkType := some 0
    origin := q.origin
    originMissingReason := if (q.origin.getD []).length = 0 then some "NOT_PROVIDED" else none }

/-- The row `prepare` fills in: a new one, or the one that was requested. -/
def preparedFrom (t : Generations) (q : Preparation) (requestId : Option Nat) :
    Except String (Nat × Generation) :=
  match requestId with
  | none => .ok (t.freshId, newRow q.scope q.identityKey)
  | some id => do
    let r ← orRaise (t.get? id) "AFFILIATE_HISTORY_LEGACY_TARGET_INELIGIBLE"
    check (r.state = .requested ∧ r.scope = q.scope ∧ r.identityKey = q.identityKey)
      "AFFILIATE_HISTORY_LEGACY_TARGET_INELIGIBLE"
    return (id, r)

/-- `ck_history_input_fingerprint` and `ck_history_tracking_fingerprint`. -/
structure Preparation.Fits (q : Preparation) : Prop where
  inputFingerprint : q.inputFingerprint.length = 64
  trackingFingerprint : q.trackingFingerprint.length = 64

/-- The checks of the table on what `prepare` writes. -/
def checkFingerprints (q : Preparation) : Except String Unit := do
  check (q.inputFingerprint.length = 64) "CHECK constraint failed: ck_history_input_fingerprint"
  check (q.trackingFingerprint.length = 64)
    "CHECK constraint failed: ck_history_tracking_fingerprint"

/-- `prepare`, with the number of the row.  What a service writes passes the checks of the
table: its fingerprints are HMAC-SHA256 digests. -/
def prepare (t : Generations) (q : Preparation) (requestId : Option Nat) :
    Except String (Generations × Nat) := do
  checkIdentity t q.scope q.identityKey (some q.now)
  let row ← preparedFrom t q requestId
  checkFingerprints q
  return (t.put row.1 (prepared q row.2), row.1)

/-! ## The call and its end -/

/-- The guard of `start_call`. -/
def Startable (now : Instant) (token : Nat) (r : Generation) : Prop :=
  r.state = .prepared ∧ r.leaseToken = some token ∧ Above r.leaseUntil now

instance (now : Instant) (token : Nat) : DecidablePred (Startable now token) :=
  fun _ => inferInstanceAs (Decidable (_ ∧ _))

/-- The values `start_call` writes. -/
def started (now : Instant) (r : Generation) : Generation :=
  { r with state := .callStarted, callStartedAt := some now }

/-- `start_call`, of generations with their lease tokens; `none` is the conflict. -/
def startCall (now : Instant) : Generations → List (Nat × Nat) → Option Generations
  | t, [] => some t
  | t, (id, token) :: rest =>
    (t.updateOne id (Startable now token) (started now)).bind fun t => startCall now t rest

/-- The guard of `confirm`. -/
def Confirmable (now : Instant) (r : Generation) : Prop :=
  r.state = .callStarted ∧ Above r.leaseUntil now ∧ AtMost r.callStartedAt now

instance (now : Instant) : DecidablePred (Confirmable now) :=
  fun _ => inferInstanceAs (Decidable (_ ∧ _))

/-- What a caller of `confirm` passes. -/
structure Confirmation where
  now : Instant
  generatedUrl : Text
  expiresAt : Instant
  contractVersion : String
  correlationMode : String
  validationFacts : List (String × Json)

/-- The values `confirm` writes. -/
def confirmed (c : Confirmation) (r : Generation) : Generation :=
  { r with
    state := .confirmed
    generatedUrl := some c.generatedUrl
    generatedAt := some c.now
    finishedAt := some c.now
    expiresAt := some c.expiresAt
    contractVersion := some c.contractVersion
    correlationMode := some c.correlationMode
    trackingConfirmed := true
    validationFacts := some c.validationFacts
    leaseUntil := none }

/-- `confirm`; `none` is the lost lease. -/
def confirm (t : Generations) (id : Nat) (c : Confirmation) : Option Generations :=
  t.updateOne id (Confirmable c.now) (confirmed c)

/-- The values `fail` and `recover` write: what was never started has failed. -/
def closed (now : Instant) (state : GenerationState) (code : String) (r : Generation) :
    Generation :=
  { r with
    state := if r.callStartedAt = none then .failed else state
    finishedAt := some now
    leaseUntil := none
    errorCode := some code }

theorem closed_state (now : Instant) {state : GenerationState} (code : String) {r : Generation}
    (h : state ∈ closingStates) : (closed now state code r).state ∈ closingStates := by
  unfold closed
  dsimp only
  split
  · decide
  · exact h

/-- `fail`; `none` is the error over its state. -/
def fail (t : Generations) (ids : List Nat) (now : Instant) (state : GenerationState)
    (code : String) : Option Generations :=
  if state ∈ closingStates then
    some (t.updateWhere (fun id r => id ∈ ids ∧ r.Open) (closed now state code))
  else none

/-- The rows `recover` sweeps. -/
def Expired (scope : HistoryScope) (now : Instant) (r : Generation) : Prop :=
  r.scope = scope ∧ r.Open ∧ AtMost r.leaseUntil now

instance (scope : HistoryScope) (now : Instant) : DecidablePred (Expired scope now) :=
  fun _ => inferInstanceAs (Decidable (_ ∧ _))

/-- The generations after `recover`. -/
def recover (t : Generations) (scope : HistoryScope) (now : Instant) : Generations :=
  t.updateWhere (fun _ r => Expired scope now r)
    (closed now .uncertain "AFFILIATE_HISTORY_INTERRUPTED_GENERATION")

/-- The candidates whose generations `recover` sweeps. -/
def expiredCandidates (t : Generations) (scope : HistoryScope) (now : Instant) : List Nat :=
  (t.select fun _ r => Expired scope now r).filterMap fun e =>
    match e.2.identityKey with
    | .canonical candidateId => some candidateId
    | .coin _ => none

/-- The check of `record_use`: all generations are confirmed, in this scope. -/
def UseRecordable (t : Generations) (scope : HistoryScope) (ids : List Nat) : Prop :=
  ids ≠ [] ∧ ∀ id ∈ ids, ∃ r ∈ t.get? id, r.scope = scope ∧ r.state = .confirmed

instance (t : Generations) (scope : HistoryScope) (ids : List Nat) :
    Decidable (UseRecordable t scope ids) := inferInstanceAs (Decidable (_ ∧ _))

/-! ## What the operations do -/

variable {t t' : Generations}

theorem head?_select_eq_none {p : Nat → Generation → Prop} [∀ k r, Decidable (p k r)] :
    (t.select p).head? = none ↔ ∀ id r, t.get? id = some r → ¬ p id r := by
  rw [List.head?_eq_none_iff, List.eq_nil_iff_forall_not_mem]
  constructor
  · intro h id r hr hp
    exact h (id, r) (mem_select.2 ⟨hr, hp⟩)
  · rintro h ⟨id, r⟩ hmem
    obtain ⟨hr, hp⟩ := mem_select.1 hmem
    exact h id r hr hp

/-- `check_identity` passes exactly when nothing blocks the identity. -/
theorem checkIdentity_eq_ok {scope : HistoryScope} {key : IdentityKey} {now : Option Instant}
    {x : Unit} : checkIdentity t scope key now = .ok x ↔
      ∀ id r, t.get? id = some r → ¬ Blocks scope key r := by
  rw [← head?_select_eq_none (p := fun _ r => Blocks scope key r), checkIdentity]
  cases (t.select fun _ r => Blocks scope key r).head? <;> simp

/-- `check_key_rotation` passes exactly when every blocking coin row has this key. -/
theorem checkKeyRotation_eq_ok {scope : HistoryScope} {keyFingerprint : Text} {x : Unit} :
    checkKeyRotation t scope keyFingerprint = .ok x ↔
      ∀ id r, t.get? id = some r → ¬ OtherKey scope keyFingerprint r := by
  rw [← head?_select_eq_none (p := fun _ r => OtherKey scope keyFingerprint r), checkKeyRotation]
  cases (t.select fun _ r => OtherKey scope keyFingerprint r).head? <;> simp

theorem validateLink_eq_ok {generationId : Option Nat} {generatedUrl : Text}
    {trackingFingerprint : Option Text} {contractVersion : Option String} {r : Generation}
    (h : validateLink t generationId generatedUrl trackingFingerprint contractVersion = .ok r) :
    ∃ id, generationId = some id ∧ t.get? id = some r ∧
      LinkValid generatedUrl trackingFingerprint contractVersion r := by
  obtain ⟨id, hid, h⟩ := bind_eq_ok.1 h
  obtain ⟨r', hr, h⟩ := bind_eq_ok.1 h
  obtain ⟨_, hvalid, h⟩ := bind_eq_ok.1 h
  obtain rfl := Except.ok.inj h
  exact ⟨id, orRaise_eq_ok.1 hid, orRaise_eq_ok.1 hr, check_eq_ok.1 hvalid⟩

theorem fits_of_checkFingerprints {q : Preparation} {x : Unit}
    (h : checkFingerprints q = .ok x) : q.Fits := by
  obtain ⟨_, hinput, htracking⟩ := bind_eq_ok.1 h
  exact ⟨check_eq_ok.1 hinput, check_eq_ok.1 htracking⟩

theorem fits_of_prepare {q : Preparation} {requestId : Option Nat} {id : Nat}
    (h : prepare t q requestId = .ok (t', id)) : q.Fits := by
  obtain ⟨_, -, h⟩ := bind_eq_ok.1 h
  obtain ⟨_, -, h⟩ := bind_eq_ok.1 h
  obtain ⟨_, hfits, -⟩ := bind_eq_ok.1 h
  exact fits_of_checkFingerprints hfits

/-- **What `prepare` does.**  Nothing blocked the identity; one row which was not there,
or was requested for this identity, is now prepared; all others are as before. -/
theorem prepare_eq_ok {q : Preparation} {requestId : Option Nat} {id : Nat}
    (h : prepare t q requestId = .ok (t', id)) :
    (∀ j r, t.get? j = some r → ¬ Blocks q.scope q.identityKey r) ∧
      ∃ base : Generation, base.scope = q.scope ∧ base.identityKey = q.identityKey ∧
        (t.get? id = none ∧ base = newRow q.scope q.identityKey ∨
          t.get? id = some base ∧ base.state = .requested) ∧
        t' = t.put id (prepared q base) := by
  obtain ⟨_, hfree, h⟩ := bind_eq_ok.1 h
  obtain ⟨⟨id', base⟩, hbase, h⟩ := bind_eq_ok.1 h
  obtain ⟨_, -, h⟩ := bind_eq_ok.1 h
  obtain ⟨rfl, rfl⟩ := Prod.mk.inj (Except.ok.inj h)
  refine ⟨checkIdentity_eq_ok.1 hfree, base, ?_⟩
  cases requestId with
  | none =>
    obtain ⟨rfl, rfl⟩ := Prod.mk.inj (Except.ok.inj hbase)
    exact ⟨rfl, rfl, Or.inl ⟨get?_freshId t, rfl⟩, rfl⟩
  | some request =>
    obtain ⟨r, hr, hbase⟩ := bind_eq_ok.1 hbase
    obtain ⟨_, hcheck, hbase⟩ := bind_eq_ok.1 hbase
    obtain ⟨rfl, rfl⟩ := Prod.mk.inj (Except.ok.inj hbase)
    obtain ⟨hstate, hscope, hkey⟩ := check_eq_ok.1 hcheck
    exact ⟨hscope, hkey, Or.inr ⟨orRaise_eq_ok.1 hr, hstate⟩, rfl⟩

/-- What is done to a generation without preparing or confirming it. -/
inductive QuietChange : Option Generation → Option Generation → Prop
  | keep (r : Option Generation) : QuietChange r r
  | request (scope : HistoryScope) (key : IdentityKey) (legacyKind : LegacyKind)
      (legacyId : Nat) : QuietChange none (some (requestedRow scope key legacyKind legacyId))
  | start (now : Instant) {r : Generation} :
      r.state = .prepared → QuietChange (some r) (some (started now r))
  | close (now : Instant) (state : GenerationState) (code : String) {r : Generation} :
      r.Open → state ∈ closingStates → QuietChange (some r) (some (closed now state code r))

/-- **Everything that is done to a generation.** -/
inductive Change : Option Generation → Option Generation → Prop
  | quiet {r r' : Option Generation} : QuietChange r r' → Change r r'
  | insert (q : Preparation) :
      q.Fits → Change none (some (prepared q (newRow q.scope q.identityKey)))
  | prepare (q : Preparation) {r : Generation} :
      r.state = .requested → r.scope = q.scope → r.identityKey = q.identityKey → q.Fits →
      Change (some r) (some (prepared q r))
  | confirm (c : Confirmation) {r : Generation} :
      Confirmable c.now r → Change (some r) (some (confirmed c r))

theorem Change.keep (r : Option Generation) : Change r r := .quiet (.keep r)

theorem quiet_requestLegacyGeneration {scope : HistoryScope} {key : IdentityKey}
    {legacyKind : LegacyKind} {legacyId : Nat}
    (h : requestLegacyGeneration t scope key legacyKind legacyId = .ok t') (j : Nat) :
    QuietChange (t.get? j) (t'.get? j) := by
  obtain ⟨-, -, h⟩ := bind_eq_ok.1 h
  split at h
  · obtain rfl := Except.ok.inj h
    rcases eq_or_ne j t.freshId with rfl | hj
    · rw [get?_freshId, get?_put_self]
      exact .request scope key legacyKind legacyId
    · rw [get?_put_ne t _ hj]
      exact .keep _
  · obtain rfl := Except.ok.inj h
    exact .keep _

theorem change_prepare {q : Preparation} {requestId : Option Nat} {id : Nat}
    (h : prepare t q requestId = .ok (t', id)) (j : Nat) : Change (t.get? j) (t'.get? j) := by
  obtain ⟨-, base, hscope, hkey, hbase, rfl⟩ := prepare_eq_ok h
  rcases eq_or_ne j id with rfl | hj
  · rw [get?_put_self]
    rcases hbase with ⟨hnone, rfl⟩ | ⟨hsome, hstate⟩
    · rw [hnone]
      exact .insert q (fits_of_prepare h)
    · rw [hsome]
      exact .prepare q hstate hscope hkey (fits_of_prepare h)
  · rw [get?_put_ne t _ hj]
    exact .keep _

theorem change_confirm {id : Nat} {c : Confirmation} (h : confirm t id c = some t') (j : Nat) :
    Change (t.get? j) (t'.get? j) := by
  obtain ⟨⟨r, hr, hc, hr'⟩, hother⟩ := get?_of_updateOne h
  rcases eq_or_ne j id with rfl | hj
  · rw [hr, hr']
    exact .confirm c hc
  · rw [hother j hj]
    exact .keep _

/-- Closing rows under a condition changes them as `close` says. -/
theorem quiet_updateWhere_closed {p : Nat → Generation → Prop} [∀ k r, Decidable (p k r)]
    {now : Instant} {state : GenerationState} {code : String} (hp : ∀ k r, p k r → r.Open)
    (hstate : state ∈ closingStates) (j : Nat) :
    QuietChange (t.get? j) ((t.updateWhere p (closed now state code)).get? j) := by
  rw [get?_updateWhere]
  cases t.get? j with
  | none => exact .keep none
  | some r =>
    by_cases h : p j r
    · simpa [h] using QuietChange.close now state code (hp j r h) hstate
    · simpa [h] using QuietChange.keep (some r)

theorem quiet_fail {ids : List Nat} {now : Instant} {state : GenerationState} {code : String}
    (h : fail t ids now state code = some t') (j : Nat) : QuietChange (t.get? j) (t'.get? j) := by
  unfold fail at h
  split at h
  · next hstate =>
    obtain rfl := Option.some.inj h
    exact quiet_updateWhere_closed (fun _ _ hp => hp.2) hstate j
  · cases h

theorem quiet_recover (scope : HistoryScope) (now : Instant) (j : Nat) :
    QuietChange (t.get? j) ((recover t scope now).get? j) :=
  quiet_updateWhere_closed (fun _ _ hp => hp.2.1) (by decide) j

/-! ## What stays -/

/-- Every row of `t'` came from that of `t` by what the repository does. -/
def Evolves (t t' : Generations) : Prop :=
  ∀ j, Relation.ReflTransGen Change (t.get? j) (t'.get? j)

theorem Evolves.refl (t : Generations) : Evolves t t := fun _ => .refl

theorem Evolves.trans {t'' : Generations} (h : Evolves t t') (h' : Evolves t' t'') :
    Evolves t t'' := fun j => (h j).trans (h' j)

theorem Evolves.of_change (h : ∀ j, Change (t.get? j) (t'.get? j)) : Evolves t t' :=
  fun j => .single (h j)

theorem Evolves.of_quiet (h : ∀ j, QuietChange (t.get? j) (t'.get? j)) : Evolves t t' :=
  .of_change fun j => .quiet (h j)

/-- A call is started row by row. -/
theorem quiet_startCall {now : Instant} {l : List (Nat × Nat)}
    (h : startCall now t l = some t') (j : Nat) :
    Relation.ReflTransGen QuietChange (t.get? j) (t'.get? j) := by
  induction l generalizing t with
  | nil =>
    obtain rfl := Option.some.inj h
    exact .refl
  | cons e l ih =>
    obtain ⟨t₁, ht₁, h⟩ := Option.bind_eq_some_iff.1 h
    refine .head ?_ (ih h)
    obtain ⟨⟨r, hr, hstart, hr'⟩, hother⟩ := get?_of_updateOne ht₁
    rcases eq_or_ne j e.1 with rfl | hj
    · rw [hr, hr']
      exact .start now hstart.1
    · rw [hother j hj]
      exact .keep _

theorem evolves_startCall {now : Instant} {l : List (Nat × Nat)}
    (h : startCall now t l = some t') : Evolves t t' :=
  fun j => Relation.ReflTransGen.mono (fun _ _ hchange => .quiet hchange) _ _ (quiet_startCall h j)

theorem Evolves.invariant {P : Option Generation → Prop} (h : Evolves t t')
    (hP : ∀ r r', Change r r' → P r → P r') {j : Nat} (hj : P (t.get? j)) : P (t'.get? j) := by
  have hkeep : ∀ o, Relation.ReflTransGen Change (t.get? j) o → P o := by
    intro o hrun
    induction hrun with
    | refl => exact hj
    | tail _ hstep ih => exact hP _ _ hstep ih
  exact hkeep _ (h j)

/-- A confirmed generation never changes. -/
theorem Evolves.confirmed (h : Evolves t t') {j : Nat} {r : Generation}
    (hr : t.get? j = some r) (hstate : r.state = .confirmed) : t'.get? j = some r := by
  refine h.invariant (P := fun o => o = some r) ?_ hr
  rintro _ _ hchange rfl
  cases hchange with
  | quiet h =>
    cases h with
    | keep => rfl
    | start now h =>
      rw [hstate] at h
      cases h
    | close now state code h _ =>
      rw [Open, hstate] at h
      simp [openStates] at h
  | prepare q h _ _ =>
    rw [hstate] at h
    cases h
  | confirm c h =>
    rw [Confirmable, hstate] at h
    cases h.1

/-- What holds of a new row, and depends on what no change touches, holds of all rows. -/
theorem Evolves.forall_rows {P : Generation → Prop} (h : Evolves t t')
    (hnew : ∀ scope key, P (newRow scope key))
    (hsame : ∀ r r', r'.platform = r.platform → r'.provider = r.provider →
      r'.operation = r.operation → P r → P r')
    (ht : ∀ j r, t.get? j = some r → P r) (j : Nat) (r : Generation) (hr : t'.get? j = some r) :
    P r := by
  refine h.invariant (P := fun o => ∀ r, o = some r → P r) ?_ (ht j) r hr
  intro o o' hchange hr r' hr'
  cases hchange with
  | quiet h =>
    cases h with
    | keep => exact hr r' hr'
    | @request scope key =>
      obtain rfl := Option.some.inj hr'
      exact hsame (newRow scope key) _ rfl rfl rfl (hnew scope key)
    | @start _ r | @close _ _ _ r =>
      obtain rfl := Option.some.inj hr'
      exact hsame r _ rfl rfl rfl (hr r rfl)
  | insert q =>
    obtain rfl := Option.some.inj hr'
    exact hsame (newRow q.scope q.identityKey) _ rfl rfl rfl (hnew q.scope q.identityKey)
  | @prepare _ r | @confirm _ r =>
    obtain rfl := Option.some.inj hr'
    exact hsame r _ rfl rfl rfl (hr r rfl)

theorem Evolves.platform (h : Evolves t t')
    (ht : ∀ j r, t.get? j = some r → r.platform = "aliexpress") (j : Nat) (r : Generation)
    (hr : t'.get? j = some r) : r.platform = "aliexpress" :=
  h.forall_rows (P := fun r => r.platform = "aliexpress") (fun _ _ => rfl)
    (fun _ _ hplatform _ _ hr => hplatform.trans hr) ht j r hr

theorem Evolves.official (h : Evolves t t')
    (ht : ∀ j r, t.get? j = some r → r.provider = "aliexpress_official" ∧
      r.operation = "aliexpress.affiliate.link.generate") (j : Nat) (r : Generation)
    (hr : t'.get? j = some r) : r.provider = "aliexpress_official" ∧
      r.operation = "aliexpress.affiliate.link.generate" :=
  h.forall_rows (P := fun r => r.provider = "aliexpress_official" ∧
      r.operation = "aliexpress.affiliate.link.generate") (fun _ _ => ⟨rfl, rfl⟩)
    (fun _ _ _ hprovider hoperation hr => ⟨hprovider.trans hr.1, hoperation.trans hr.2⟩) ht j r hr

/-- The row was prepared so: what no later change touches. -/
structure PreparedAs (q : Preparation) (r : Generation) : Prop where
  state : r.state ≠ .requested
  scope : r.scope = q.scope
  identityKey : r.identityKey = q.identityKey
  keyFingerprint : r.keyFingerprint = some q.keyFingerprint
  trackingFingerprint : r.trackingFingerprint = some q.trackingFingerprint
  origin : r.origin = q.origin

/-- The generation was prepared so. -/
def HasPreparation (t : Generations) (id : Nat) (q : Preparation) : Prop :=
  ∃ r, t.get? id = some r ∧ PreparedAs q r

theorem preparedAs_prepared {q : Preparation} {r : Generation} (hscope : r.scope = q.scope)
    (hkey : r.identityKey = q.identityKey) : PreparedAs q (prepared q r) :=
  ⟨nofun, hscope, hkey, rfl, rfl, rfl⟩

theorem PreparedAs.of_change {q : Preparation} {r : Generation} {o : Option Generation}
    (h : Change (some r) o) (hr : PreparedAs q r) : ∃ r', o = some r' ∧ PreparedAs q r' := by
  obtain ⟨hstate, hscope, hidentity, hkey, htracking, horigin⟩ := hr
  cases h with
  | quiet h =>
    cases h with
    | keep => exact ⟨r, rfl, hstate, hscope, hidentity, hkey, htracking, horigin⟩
    | start now _ => exact ⟨_, rfl, nofun, hscope, hidentity, hkey, htracking, horigin⟩
    | close now state code _ hclosing =>
      refine ⟨_, rfl, ?_, hscope, hidentity, hkey, htracking, horigin⟩
      unfold closed
      dsimp only
      split
      · nofun
      · rintro rfl
        simp [closingStates] at hclosing
  | prepare _ h _ _ => exact absurd h hstate
  | confirm c _ => exact ⟨_, rfl, nofun, hscope, hidentity, hkey, htracking, horigin⟩

theorem Evolves.hasPreparation {id : Nat} {q : Preparation} (h : Evolves t t')
    (hq : HasPreparation t id q) : HasPreparation t' id q := by
  refine h.invariant (P := fun o => ∃ r, o = some r ∧ PreparedAs q r) ?_ hq
  rintro _ _ hchange ⟨r, rfl, hr⟩
  exact hr.of_change hchange

/-- When and for which kind of link the generation was prepared. -/
def Stamped (startedAt : Instant) (r : Generation) : Prop :=
  r.state ≠ .requested ∧ r.preparedAt = some startedAt ∧ r.promotionLinkType = some 0

theorem stamped_prepared (q : Preparation) (r : Generation) : Stamped q.now (prepared q r) :=
  ⟨nofun, rfl, rfl⟩

/-- The stamp of a generation stays. -/
theorem Evolves.stamped {id : Nat} {startedAt : Instant} (h : Evolves t t')
    (hr : ∃ r, t.get? id = some r ∧ Stamped startedAt r) :
    ∃ r, t'.get? id = some r ∧ Stamped startedAt r := by
  refine h.invariant (P := fun o => ∃ r, o = some r ∧ Stamped startedAt r) ?_ hr
  rintro _ _ hchange ⟨r, rfl, hstate, htime, htype⟩
  cases hchange with
  | quiet h =>
    cases h with
    | keep => exact ⟨r, rfl, hstate, htime, htype⟩
    | start now _ => exact ⟨_, rfl, nofun, htime, htype⟩
    | close now state code _ hclosing =>
      refine ⟨_, rfl, fun hrequested => ?_, htime, htype⟩
      have hclosed := closed_state now code (r := r) hclosing
      rw [hrequested] at hclosed
      simp [closingStates] at hclosed
  | prepare _ h _ _ => exact absurd h hstate
  | confirm c _ => exact ⟨_, rfl, nofun, htime, htype⟩

/-! ## The record of a call -/

/-- The call was started, whatever came of it. -/
def CallMade (r : Generation) : Prop :=
  r.state ≠ .requested ∧ r.state ≠ .prepared ∧ r.callStartedAt ≠ none

/-- The record of a call stays. -/
theorem Evolves.callMade {id : Nat} (h : Evolves t t')
    (hr : ∃ r, t.get? id = some r ∧ CallMade r) : ∃ r, t'.get? id = some r ∧ CallMade r := by
  refine h.invariant (P := fun o => ∃ r, o = some r ∧ CallMade r) ?_ hr
  rintro _ _ hchange ⟨r, rfl, hrequested, hprepared, hstarted⟩
  cases hchange with
  | quiet h =>
    cases h with
    | keep => exact ⟨r, rfl, hrequested, hprepared, hstarted⟩
    | start now h => exact absurd h hprepared
    | close now state code _ hclosing =>
      have hclosed := closed_state now code (r := r) hclosing
      refine ⟨_, rfl, fun hstate => ?_, fun hstate => ?_, hstarted⟩
      · rw [hstate] at hclosed
        simp [closingStates] at hclosed
      · rw [hstate] at hclosed
        simp [closingStates] at hclosed
  | prepare _ h _ _ => exact absurd h hrequested
  | confirm c _ => exact ⟨_, rfl, nofun, nofun, hstarted⟩

/-- A row whose call is started stays so while other calls are. -/
theorem callStarted_of_startCall {now : Instant} {l : List (Nat × Nat)} {j : Nat}
    {r : Generation} (h : startCall now t l = some t') (hr : t.get? j = some r)
    (hstate : r.state = .callStarted) : t'.get? j = some r := by
  induction l generalizing t with
  | nil =>
    obtain rfl := Option.some.inj h
    exact hr
  | cons e l ih =>
    obtain ⟨t₁, ht₁, h⟩ := Option.bind_eq_some_iff.1 h
    obtain ⟨⟨r', hr', hstart, -⟩, hother⟩ := get?_of_updateOne ht₁
    refine ih h ?_
    rcases eq_or_ne j e.1 with rfl | hj
    · obtain rfl := Option.some.inj (hr.symm.trans hr')
      exact absurd (hstate.symm.trans hstart.1) nofun
    · rw [hother j hj, hr]

/-- **What starting a call does.**  Every row of it was prepared, and its call is now
started. -/
theorem startCall_eq_some {now : Instant} {l : List (Nat × Nat)}
    (h : startCall now t l = some t') {e : Nat × Nat} (he : e ∈ l) :
    ∃ r, t.get? e.1 = some r ∧ r.state = .prepared ∧ t'.get? e.1 = some (started now r) := by
  induction l generalizing t with
  | nil => cases he
  | cons e' l ih =>
    obtain ⟨t₁, ht₁, hrest⟩ := Option.bind_eq_some_iff.1 h
    obtain ⟨⟨r', hr', hstart, hafter⟩, hother⟩ := get?_of_updateOne ht₁
    rcases List.mem_cons.1 he with rfl | he
    · exact ⟨r', hr', hstart.1, callStarted_of_startCall hrest hafter rfl⟩
    · obtain ⟨r, hr, hstate, hafter'⟩ := ih hrest he
      rcases eq_or_ne e.1 e'.1 with heq | hne
      · rw [heq, hafter] at hr
        rw [← Option.some.inj hr] at hstate
        cases hstate
      · exact ⟨r, (hother e.1 hne).symm.trans hr, hstate, hafter'⟩

end AffiliateLinkHistoryRepository

end PromoBot
