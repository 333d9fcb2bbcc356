import Mathlib.Data.List.Sort
import Mathlib.Data.Prod.Lex
import PromoBot.Database.LinkUses
import PromoBot.Lib.PyDatetime
import PromoBot.Lib.Regex
import PromoBot.Lib.SqlWhere

/-!
# The read-only history query

`affiliate/history_query.py`: `read_history` puts a `SELECT` together from the filters it is
given, runs it, and reports each generation it finds with the uses of its link.

The database is what SQLite sees of it: a time is the text its column holds, and the filters
on dates compare such texts with the text `_date` makes of the argument.  How an argument is
read as a time is `datetime.fromisoformat`, a parameter here: the time of day it names, and
the offset from UTC if it has one.

The key of a row is a number in the other modules and its `uuid` here.  The columns which only
this query reads stand in `GenerationRow`.
-/

namespace PromoBot

open Fallible

/-! ## What the database calls its values -/

def HistoryScope.text : HistoryScope → Text
  | .runtime => "runtime".toList
  | .shadow => "shadow".toList

def GenerationState.text : GenerationState → Text
  | .requested => "REQUESTED".toList
  | .prepared => "PREPARED".toList
  | .callStarted => "CALL_STARTED".toList
  | .confirmed => "CONFIRMED".toList
  | .rejected => "REJECTED".toList
  | .failed => "FAILED".toList
  | .uncertain => "UNCERTAIN".toList

def LegacyKind.text : LegacyKind → Text
  | .canonicalProof => "canonical-proof".toList
  | .coinEvidence => "coin-evidence".toList

def LinkUseKind.text : LinkUseKind → Text
  | .preview => "PREVIEW".toList
  | .explicitOutput => "EXPLICIT_OUTPUT".toList
  | .send => "SEND".toList

def LinkUseState.text : LinkUseState → Text
  | .previewReady => "PREVIEW_READY".toList
  | .outputRecorded => "OUTPUT_RECORDED".toList
  | .sendReserved => "SEND_RESERVED".toList
  | .sendInFlight => "SEND_IN_FLIGHT".toList
  | .sendConfirmed => "SEND_CONFIRMED".toList
  | .sendFailed => "SEND_FAILED".toList
  | .sendUncertain => "SEND_UNCERTAIN".toList

/-- The text of a kind of operation. -/
def OperationalKind.text : OperationalKind → Text
  | .canonicalPreview => "canonical-preview".toList
  | .coinPreview => "coin-preview".toList
  | .coinMultiPreview => "coin-multi-preview".toList
  | .conversionPreview => "conversion-preview".toList
  | .canonicalDelivery => "canonical-delivery".toList
  | .coinDelivery => "coin-delivery".toList
  | .coinMultiDelivery => "coin-multi-delivery".toList

/-- The states a send goes through. -/
def LinkUseState.sendStates : List LinkUseState :=
  [.sendReserved, .sendInFlight, .sendConfirmed, .sendFailed, .sendUncertain]

/-- Only a send is in a state of sends. -/
def SendsOnly (t : LinkUses) : Prop :=
  ∀ k u, t.get? k = some u → u.state ∈ LinkUseState.sendStates → u.kind = .send

/-! ## The database -/

/-- A row of `affiliate_link_generations`, with the columns that only the query reads. -/
structure GenerationRow extends Generation where
  createdAt : Instant
  operatorRequestedAt : Option Instant
  requestReason : Option String
  legacyRecordSnapshot : Option (List (String × Json))

def GenerationRow.times (r : GenerationRow) : List Instant :=
  r.createdAt :: [r.operatorRequestedAt, r.preparedAt, r.callStartedAt, r.generatedAt,
    r.finishedAt, r.expiresAt].reduceOption

def LinkUse.times (u : LinkUse) : List Instant :=
  u.occurredAt :: [u.startedAt, u.finishedAt].reduceOption

/-- What the query reads of a database. -/
structure HistoryDatabase where
  generations : SqlTable Nat GenerationRow
  uses : LinkUses
  /-- The text of a key. -/
  uuid : Nat → Text
  uuid_injective : Function.Injective uuid
  /-- Every time is one of the calendar. -/
  generation_times : ∀ k r, generations.get? k = some r → ∀ m ∈ r.times, DateTime.Representable m
  use_times : ∀ k u, uses.get? k = some u → ∀ m ∈ u.times, DateTime.Representable m
  send_states : SendsOnly uses

/-- What a path leads to. -/
inductive HistoryFile
  /-- The path is relative, or no file is there. -/
  | missing
  /-- A database without the tables of the history. -/
  | withoutHistory
  | history (db : HistoryDatabase)

/-! ## Reports -/

/-- What is reported of a use. -/
structure UseReport where
  id : Text
  kind : Text
  state : Text
  effectiveSendResult : Option Text
  occurredAt : Text
  startedAt : Option Text
  finishedAt : Option Text
  cacheHit : Bool
  operationalKind : Option Text
  operationalId : Option Nat
  destinationKey : Option Text
  telegramMessageId : Option Text
  errorCode : Option String
  origin : Option (List (String × Json))
  originMissingReason : Option String
  deriving DecidableEq

/-- What is reported of a generation.  `generatedUrl` and `legacySnapshot` are only there when
they are asked for. -/
structure GenerationReport where
  id : Text
  scope : Text
  platform : Text
  provider : String
  operation : String
  state : Text
  operatorRequestedAt : Option Text
  preparedAt : Option Text
  callStartedAt : Option Text
  generatedAt : Option Text
  finishedAt : Option Text
  expiresAt : Option Text
  contractVersion : Option String
  correlationMode : Option String
  originMissingReason : Option String
  errorCode : Option String
  requestReason : Option String
  legacyKind : Option Text
  legacyId : Option Nat
  trackingConfirmed : Bool
  attributionUnverified : Bool
  origin : Option (List (String × Json))
  validationFacts : Option (List (String × Json))
  urlIncluded : Bool
  commissionConfirmed : Bool
  historyAuthorizesReuse : Bool
  generatedUrl : Option Text
  legacySnapshot : Option (List (String × Json))
  uses : List UseReport
  deriving DecidableEq

/-- What `read_history` returns. -/
inductive HistoryReport
  | generation (g : GenerationReport)
  | generations (gs : List GenerationReport) (count : Nat)
  deriving DecidableEq

/-- What `read_history` raises. -/
inductive HistoryFailure
  /-- `AffiliateHistoryError`. -/
  | history (code : String)
  /-- The `ValueError` of `datetime.fromisoformat`. -/
  | valueError (message : Text)
  /-- `date value out of range`. -/
  | overflowError
  deriving DecidableEq

namespace HistoryQuery

/-- The text of a column that holds a time. -/
def timeText (m : Instant) : Text := ((DateTime.ofInstant? m).map DateTime.stored).getD []

/-- The entries of an object, some of them hidden. -/
def hideFields (hidden : List String) : Json → Json
  | .obj fields =>
    .obj (fields.map fun e => if e.1 ∈ hidden then (e.1, .str "<redacted>".toList) else e)
  | value => value

/-- The fields of a legacy snapshot that hold a URL, by the object they are in. -/
def urlFields (key : String) : List String :=
  if key = "record" then ["short_link", "promotion_link", "canonical_url"]
  else if key = "candidate_identity" then ["canonical_url"]
  else []

/-- A legacy snapshot, its URLs hidden unless they are asked for. -/
def legacySnapshot (includeUrls : Bool) (snapshot : List (String × Json)) : List (String × Json) :=
  if includeUrls then snapshot else snapshot.map fun e => (e.1, hideFields (urlFields e.1) e.2)

/-- `_generation`. -/
def generation (db : HistoryDatabase) (includeUrls includeLegacy : Bool) (k : Nat)
    (r : GenerationRow) (uses : List UseReport) : GenerationReport where
  id := db.uuid k
  scope := r.scope.text
  platform := r.platform.toList
  provider := r.provider
  operation := r.operation
  state := r.state.text
  operatorRequestedAt := r.operatorRequestedAt.map timeText
  preparedAt := r.preparedAt.map timeText
  callStartedAt := r.callStartedAt.map timeText
  generatedAt := r.generatedAt.map timeText
  finishedAt := r.finishedAt.map timeText
  expiresAt := r.expiresAt.map timeText
  contractVersion := r.contractVersion
  correlationMode := r.correlationMode
  originMissingReason := r.originMissingReason
  errorCode := r.errorCode
  requestReason := r.requestReason
  legacyKind := r.legacyKind.map LegacyKind.text
  legacyId := r.legacyId
  trackingConfirmed := r.trackingConfirmed
  attributionUnverified := true
  origin := r.origin
  validationFacts := r.validationFacts
  urlIncluded := includeUrls && r.state = .confirmed
  commissionConfirmed := false
  historyAuthorizesReuse := false
  generatedUrl := if includeUrls && r.state = .confirmed then r.generatedUrl else none
  legacySnapshot :=
    if includeLegacy then r.legacyRecordSnapshot.map (legacySnapshot includeUrls) else none
  uses := uses

/-- The origin of a use, with the preview it was made from. -/
def useOrigin (db : HistoryDatabase) (u : LinkUse) : Option (List (String × Json)) :=
  match u.previewHistoryUseId with
  | none => u.origin
  | some k => some (u.origin.getD [] ++ [("preview_history_use_id", .str (db.uuid k))])

/-- The result of a send: what is still on its way is uncertain. -/
def effectiveSendResult (u : LinkUse) : Option Text :=
  if u.state = .sendInFlight then some "SEND_UNCERTAIN".toList
  else if u.kind = .send then some u.state.text
  else none

/-- The report of a use, and whether the generation was found in the cache for it. -/
def useReport (db : HistoryDatabase) (k : Nat) (u : LinkUse) (cacheHit : Bool) : UseReport where
  id := db.uuid k
  kind := u.kind.text
  state := u.state.text
  effectiveSendResult := effectiveSendResult u
  occurredAt := timeText u.occurredAt
  startedAt := u.startedAt.map timeText
  finishedAt := u.finishedAt.map timeText
  cacheHit := cacheHit
  operationalKind := u.operationalKind.map OperationalKind.text
  operationalId := u.operationalId
  destinationKey := u.destinationKey
  telegramMessageId := u.telegramMessageId
  errorCode := u.errorCode
  origin := useOrigin db u
  originMissingReason := u.originMissingReason

/-! ## The rows of the statements -/

/-- A row of `affiliate_link_use_links l JOIN affiliate_link_uses u ON u.id = l.use_id`. -/
structure JoinedUse where
  useId : Nat
  use : LinkUse
  generationId : Nat
  cacheHit : Bool

/-- The rows of the join. -/
def joinedUses (db : HistoryDatabase) : List JoinedUse :=
  (db.uses.select fun _ _ => True).flatMap fun e =>
    e.2.generations.map fun l => ⟨e.1, e.2, l.1, l.2⟩

/-- `ORDER BY u.occurred_at, u.id`. -/
def useKey (db : HistoryDatabase) (j : JoinedUse) : Text ×ₗ Text :=
  toLex (timeText j.use.occurredAt, db.uuid j.useId)

/-- `_uses`. -/
def uses (db : HistoryDatabase) (generationId : Text) : List UseReport :=
  (((joinedUses db).filter fun j => db.uuid j.generationId = generationId).insertionSort
    fun i j => useKey db i ≤ useKey db j).map fun j => useReport db j.useId j.use j.cacheHit

/-- `ORDER BY g.created_at DESC, g.id`. -/
def generationKey (db : HistoryDatabase) (e : Nat × GenerationRow) : Textᵒᵈ ×ₗ Text :=
  toLex (OrderDual.toDual (timeText e.2.createdAt), db.uuid e.1)

/-- The columns the conditions name. -/
inductive Column
  | scope | id | platform | state | generatedAt
  | linkGenerationId | useState | useKind | occurredAt

/-- The columns of a generation, `g`. -/
def generationColumns (db : HistoryDatabase) (k : Nat) (r : GenerationRow) : Column → Option Text
  | .scope => some r.scope.text
  | .id => some (db.uuid k)
  | .platform => some r.platform.toList
  | .state => some r.state.text
  | .generatedAt => r.generatedAt.map timeText
  | _ => none

/-- The columns of the subquery: those of the joined row, and of the generation outside. -/
def joinedColumns (db : HistoryDatabase) (outer : Column → Option Text) (j : JoinedUse) :
    Column → Option Text
  | .linkGenerationId => some (db.uuid j.generationId)
  | .useState => some j.use.state.text
  | .useKind => some j.use.kind.text
  | .occurredAt => some (timeText j.use.occurredAt)
  | c => outer c

end HistoryQuery

open HistoryQuery SqlWhere

/-- The arguments of `read_history`, except the path. -/
structure HistoryQuery where
  scope : Text
  generationId : Option Text
  platform : Option Text
  generationResult : Option Text
  sendResult : Option Text
  generatedAfter : Option Text
  generatedBefore : Option Text
  usedAfter : Option Text
  usedBefore : Option Text
  limit : Int
  includeUrls : Bool
  includeLegacy : Bool

namespace HistoryQuery

/-! ## The filters -/

/-- `GENERATION_STATES`. -/
def generationStates : List Text :=
  [.requested, .prepared, .callStarted, .confirmed, .rejected, .failed, .uncertain].map
    GenerationState.text

/-- `SEND_STATES`. -/
def sendStates : List Text := LinkUseState.sendStates.map LinkUseState.text

/-- At most `n` characters of a class, as many as possible. -/
def atMost (p : Char → Bool) : Nat → Regex
  | 0 => .nothing
  | n + 1 => .optional (.seq (.one p) (atMost p n))

/-- `[a-z]`. -/
def isLower (c : Char) : Bool := 'a' ≤ c && c ≤ 'z'

/-- `[a-z][a-z0-9_-]{0,31}`. -/
def platformPattern : Regex :=
  .seq (.one isLower) (atMost (fun c => isLower c || Text.isAsciiDigit c || c = '_' || c = '-') 31)

/-- The arguments the first checks let through. -/
structure Valid (q : HistoryQuery) : Prop where
  scope : q.scope = "shadow".toList ∨ q.scope = "runtime".toList
  limit : 1 ≤ q.limit ∧ q.limit ≤ 200
  platform : ∀ p ∈ q.platform, platformPattern.fullMatches p = true
  generationResult : ∀ s ∈ q.generationResult, s ∈ generationStates
  sendResult : ∀ s ∈ q.sendResult, s ∈ sendStates

/-- The first checks. -/
def checkArguments (q : HistoryQuery) : Except HistoryFailure Unit := do
  check ((q.scope = "shadow".toList ∨ q.scope = "runtime".toList) ∧ 1 ≤ q.limit ∧ q.limit ≤ 200)
    (.history "AFFILIATE_HISTORY_QUERY_INVALID")
  check (∀ p ∈ q.platform, platformPattern.fullMatches p = true)
    (.history "AFFILIATE_HISTORY_QUERY_INVALID")
  check (∀ s ∈ q.generationResult, s ∈ generationStates)
    (.history "AFFILIATE_HISTORY_QUERY_INVALID")
  check (∀ s ∈ q.sendResult, s ∈ sendStates) (.history "AFFILIATE_HISTORY_QUERY_INVALID")

/-- The value of an argument that is neither `None` nor empty. -/
def truthy (o : Option Text) : Option Text := o.filter fun t => t ≠ []

/-- The dates of the filters, as the statement has them. -/
structure Dates where
  generatedAfter : Option Text
  generatedBefore : Option Text
  usedAfter : Option Text
  usedBefore : Option Text

section Dates

variable (fromisoformat : Text → Except Text (DateTime × Option Int))

/-- `_date`, of a value that is there. -/
def date (value : Text) : Except HistoryFailure Text := do
  let parsed ← (fromisoformat value).mapError .valueError
  let offset ← orRaise parsed.2 (.history "AFFILIATE_HISTORY_PERIOD_INVALID")
  let utc ← orRaise (parsed.1.toUtc offset) .overflowError
  return utc.isoformat

/-- The dates, in the order in which `read_history` converts them.  A date of a use counts as
missing when it is empty. -/
def dates (q : HistoryQuery) : Except HistoryFailure Dates := do
  let generatedAfter ← q.generatedAfter.mapM (date fromisoformat)
  let generatedBefore ← q.generatedBefore.mapM (date fromisoformat)
  let usedAfter ← (truthy q.usedAfter).mapM (date fromisoformat)
  let usedBefore ← (truthy q.usedBefore).mapM (date fromisoformat)
  return ⟨generatedAfter, generatedBefore, usedAfter, usedBefore⟩

end Dates

/-- The conditions on the generation. -/
def conditions (q : HistoryQuery) (d : Dates) : Where Column Text :=
  let scope : Where Column Text := ⟨[.parameter .scope .eq], [q.scope], rfl⟩
  ((((scope.addIfGiven .id .eq q.generationId).addIfGiven .platform .eq q.platform).addIfGiven
    .state .eq q.generationResult).addIfGiven .generatedAt .ge d.generatedAfter).addIfGiven
      .generatedAt .lt d.generatedBefore

/-- The conditions on the state and the kind of a use.  What is still on its way is looked for
with what is uncertain. -/
def sendConditions (w : Where Column Text) : Option Text → Where Column Text
  | none => w
  | some result =>
    let state := if result = "SEND_UNCERTAIN".toList then
        w.addPlain (.isIn .useState ["SEND_UNCERTAIN".toList, "SEND_IN_FLIGHT".toList])
          (Condition.holes_isIn _ _)
      else w.addIfGiven .useState .eq (some result)
    state.addPlain (.literal .useKind "SEND".toList) (Condition.holes_literal _ _)

/-- `uses_where`. -/
def usesConditions (q : HistoryQuery) (d : Dates) : Where Column Text :=
  let link : Where Column Text := ⟨[.same .linkGenerationId .id], [], rfl⟩
  ((sendConditions link (truthy q.sendResult)).addIfGiven .occurredAt .ge d.usedAfter).addIfGiven
    .occurredAt .lt d.usedBefore

/-- A filter on the uses is given. -/
def AsksForUse (q : HistoryQuery) : Prop :=
  truthy q.sendResult ≠ none ∨ truthy q.usedAfter ≠ none ∨ truthy q.usedBefore ≠ none

instance (q : HistoryQuery) : Decidable q.AsksForUse := inferInstanceAs (Decidable (_ ∨ _))

/-- The statement's `WHERE`. -/
def statement (q : HistoryQuery) (d : Dates) : Subquery Column Text where
  outer := q.conditions d
  inner := if q.AsksForUse then some (q.usesConditions d) else none

/-! ## The query -/

/-- `readonly_history`. -/
def readonlyHistory : HistoryFile → Except HistoryFailure HistoryDatabase
  | .missing => .error (.history "AFFILIATE_HISTORY_DATABASE_REQUIRED")
  | .withoutHistory => .error (.history "AFFILIATE_HISTORY_SCHEMA_REQUIRED")
  | .history db => .ok db

/-- The rows of `SELECT g.* … ORDER BY g.created_at DESC, g.id LIMIT ?`. -/
def rows (db : HistoryDatabase) (s : Subquery Column Text) (limit : Nat) :
    List (Nat × GenerationRow) :=
  ((db.generations.select fun k r => s.Selects s.parameters (generationColumns db k r)
    ((joinedUses db).map (joinedColumns db (generationColumns db k r)))).insertionSort
      fun e f => generationKey db e ≤ generationKey db f).take limit

def report (db : HistoryDatabase) (includeUrls includeLegacy : Bool) (e : Nat × GenerationRow) :
    GenerationReport :=
  generation db includeUrls includeLegacy e.1 e.2 (uses db (db.uuid e.1))

/-- What is returned of the generations found. -/
def answer (generationId : Option Text) (gs : List GenerationReport) :
    Except HistoryFailure HistoryReport :=
  match generationId, gs with
  | none, gs => .ok (.generations gs gs.length)
  | some _, g :: _ => .ok (.generation g)
  | some _, [] => .error (.history "AFFILIATE_HISTORY_GENERATION_NOT_FOUND")

/-- `read_history`. -/
def readHistory (fromisoformat : Text → Except Text (DateTime × Option Int)) (file : HistoryFile)
    (q : HistoryQuery) : Except HistoryFailure HistoryReport := do
  q.checkArguments
  let d ← q.dates fromisoformat
  let db ← readonlyHistory file
  answer q.generationId
    ((rows db (q.statement d) q.limit.toNat).map (report db q.includeUrls q.includeLegacy))

end HistoryQuery

end PromoBot
