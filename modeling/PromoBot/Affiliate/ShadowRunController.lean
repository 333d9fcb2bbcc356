import Mathlib.Data.List.Basic

/-!
# The counters of a bounded listener run

`ShadowRunLimits` and `ShadowRunController`
(`affiliate/aliexpress_shadow_listener.py`): events are admitted until a limit is
reached, every admitted event is to end in one terminal record, and
`reconcile_unfinished` reports the events that did not.

The bounds which `ShadowRunLimits` checks are fields.  The clocks of a run
(`run_seconds`, `shutdown_seconds`) and the counters only the coin reports read
are left out.

`record_processed`, `record_skipped` and `record_rejected` are the three terminal
records, so they are one type, `TerminalRecord`, and one operation, `record`.
-/

namespace PromoBot

/-- `ShadowRunLimits`, without its durations. -/
structure ShadowRunLimits where
  maxMessages : Nat
  maxApiCalls : Nat
  maxSendMessages : Nat
  messages_pos : 1 ≤ maxMessages
  apiCalls_pos : 1 ≤ maxApiCalls

/-- `ShadowRunController`. -/
structure ShadowRunController where
  limits : ShadowRunLimits
  messagesReceived : Nat
  apiCalls : Nat
  sendMessages : Nat
  deliveriesSent : Nat
  processed : Nat
  rejected : Nat
  failed : Nat
  cacheHits : Nat
  previewsCreated : Nat
  skipped : Nat
  excludedEvents : Nat
  exclusionCodes : List String
  rejectionCodes : List String
  skipCodes : List String
  stopReason : Option String
  ready : Bool
  accepting : Bool
  terminalEvents : Nat

/-- A terminal record of an event. -/
inductive TerminalRecord
  /-- `record_processed`. -/
  | processed (cacheHit previewCreated : Bool)
  /-- `record_skipped`. -/
  | skipped (code : String)
  /-- `record_rejected`. -/
  | rejected (code : String) (failed processed : Bool)
  deriving DecidableEq, Repr

namespace ShadowRunController

/-- `_safe_counter_code`, over the Unicode predicates `str.isupper` and `str.isdigit` of one
character. -/
def safeCounterCode (isUpper isDigit : Char → Bool) (code : String) : String :=
  if code ≠ "" ∧ code.toList.all fun c => isUpper c || isDigit c || c = '_' then code
  else "AFFILIATE_SHADOW_REJECTED"

variable (isUpper isDigit : Char → Bool)

/-- A fresh controller. -/
def new (limits : ShadowRunLimits) : ShadowRunController where
  limits := limits
  messagesReceived := 0
  apiCalls := 0
  sendMessages := 0
  deliveriesSent := 0
  processed := 0
  rejected := 0
  failed := 0
  cacheHits := 0
  previewsCreated := 0
  skipped := 0
  excludedEvents := 0
  exclusionCodes := []
  rejectionCodes := []
  skipCodes := []
  stopReason := none
  ready := false
  accepting := false
  terminalEvents := 0

/-- A code is listed once. -/
def noteCode (codes : List String) (code : String) : List String :=
  let safeCode := safeCounterCode isUpper isDigit code
  if safeCode ∈ codes then codes else codes ++ [safeCode]

/-! ## Admission -/

/-- `mark_ready`. -/
def markReady (c : ShadowRunController) : ShadowRunController :=
  { c with ready := true, accepting := c.stopReason.isNone }

/-- `_request_stop`. -/
def requestStop (c : ShadowRunController) (reason : String) : ShadowRunController :=
  { c with accepting := false, stopReason := c.stopReason.or (some reason) }

/-- `try_admit_message`; `none` when the event is not admitted. -/
def tryAdmitMessage (c : ShadowRunController) : Option ShadowRunController :=
  if c.ready ∧ c.accepting then
    let c := { c with messagesReceived := c.messagesReceived + 1 }
    some (if c.limits.maxMessages ≤ c.messagesReceived then c.requestStop "max_messages" else c)
  else none

/-- `close_admission`. -/
def closeAdmission (c : ShadowRunController) (reason : Option String) : ShadowRunController :=
  let c := { c with accepting := false }
  match reason with
  | some reason => c.requestStop reason
  | none => c

/-- `record_excluded`. -/
def recordExcluded (c : ShadowRunController) (code : String) : ShadowRunController :=
  { c with
    excludedEvents := c.excludedEvents + 1
    exclusionCodes := noteCode isUpper isDigit c.exclusionCodes code }

/-! ## Charges -/

/-- `before_api_call`; `none` is the `ProviderError`. -/
def beforeApiCall (c : ShadowRunController) : Option ShadowRunController :=
  if c.limits.maxApiCalls ≤ c.apiCalls then none
  else
    let c := { c with apiCalls := c.apiCalls + 1 }
    some (if c.limits.maxApiCalls ≤ c.apiCalls then c.requestStop "max_api_calls" else c)

/-- `before_send_message`; `none` is the `ProviderError`. -/
def beforeSendMessage (c : ShadowRunController) : Option ShadowRunController :=
  if c.limits.maxSendMessages < 1 then none
  else if c.limits.maxSendMessages ≤ c.sendMessages then none
  else
    let c := { c with sendMessages := c.sendMessages + 1 }
    some (if c.limits.maxSendMessages ≤ c.sendMessages then c.requestStop "max_send_messages"
      else c)

/-- `record_delivery_sent`. -/
def recordDeliverySent (c : ShadowRunController) : ShadowRunController :=
  { c with deliveriesSent := c.deliveriesSent + 1 }

/-! ## Terminal records -/

/-- `record_processed`, `record_skipped` and `record_rejected`. -/
def record (c : ShadowRunController) : TerminalRecord → ShadowRunController
  | .processed cacheHit previewCreated =>
    { c with
      processed := c.processed + 1
      terminalEvents := c.terminalEvents + 1
      cacheHits := c.cacheHits + cacheHit.toNat
      previewsCreated := c.previewsCreated + previewCreated.toNat }
  | .skipped code =>
    { c with
      processed := c.processed + 1
      skipped := c.skipped + 1
      terminalEvents := c.terminalEvents + 1
      skipCodes := noteCode isUpper isDigit c.skipCodes code }
  | .rejected code failed processed =>
    { c with
      rejected := c.rejected + 1
      failed := c.failed + failed.toNat
      processed := c.processed + processed.toNat
      terminalEvents := c.terminalEvents + 1
      rejectionCodes := noteCode isUpper isDigit c.rejectionCodes code }

/-- `reconcile_unfinished`, with the number it returns. -/
def reconcileUnfinished (c : ShadowRunController) (code : String) : ShadowRunController × Nat :=
  let unfinished := c.messagesReceived - c.terminalEvents
  if unfinished = 0 then (c, 0)
  else
    ({ c with
      rejected := c.rejected + unfinished
      failed := c.failed + unfinished
      terminalEvents := c.terminalEvents + unfinished
      rejectionCodes := noteCode isUpper isDigit c.rejectionCodes code }, unfinished)

/-! ## What the operations do to the two counts of events -/

section Counts

variable {isUpper isDigit} {c c' : ShadowRunController}

@[simp] theorem requestStop_messagesReceived (reason : String) :
    (c.requestStop reason).messagesReceived = c.messagesReceived := rfl

@[simp] theorem requestStop_terminalEvents (reason : String) :
    (c.requestStop reason).terminalEvents = c.terminalEvents := rfl

theorem tryAdmitMessage_counts (h : c.tryAdmitMessage = some c') :
    c'.messagesReceived = c.messagesReceived + 1 ∧ c'.terminalEvents = c.terminalEvents := by
  unfold tryAdmitMessage at h
  rw [Option.ite_none_right_eq_some] at h
  obtain rfl := Option.some.inj h.2
  dsimp only
  split
  · exact ⟨rfl, rfl⟩
  · exact ⟨rfl, rfl⟩

/-- The counts of events are left alone. -/
def SameCounts (c c' : ShadowRunController) : Prop :=
  c'.messagesReceived = c.messagesReceived ∧ c'.terminalEvents = c.terminalEvents

theorem sameCounts_closeAdmission (reason : Option String) :
    SameCounts c (c.closeAdmission reason) := by
  cases reason with
  | none => exact ⟨rfl, rfl⟩
  | some reason => exact ⟨rfl, rfl⟩

theorem sameCounts_beforeApiCall (h : c.beforeApiCall = some c') : SameCounts c c' := by
  unfold beforeApiCall at h
  rw [Option.ite_none_left_eq_some] at h
  obtain rfl := Option.some.inj h.2
  dsimp only
  split
  · exact ⟨rfl, rfl⟩
  · exact ⟨rfl, rfl⟩

theorem sameCounts_beforeSendMessage (h : c.beforeSendMessage = some c') : SameCounts c c' := by
  unfold beforeSendMessage at h
  rw [Option.ite_none_left_eq_some, Option.ite_none_left_eq_some] at h
  obtain rfl := Option.some.inj h.2.2
  dsimp only
  split
  · exact ⟨rfl, rfl⟩
  · exact ⟨rfl, rfl⟩

variable (c isUpper isDigit) in
theorem record_counts (r : TerminalRecord) :
    (c.record isUpper isDigit r).messagesReceived = c.messagesReceived ∧
      (c.record isUpper isDigit r).terminalEvents = c.terminalEvents + 1 := by
  cases r with
  | processed cacheHit previewCreated => exact ⟨rfl, rfl⟩
  | skipped code => exact ⟨rfl, rfl⟩
  | rejected code failed processed => exact ⟨rfl, rfl⟩

theorem reconcileUnfinished_of_eq (h : c.terminalEvents = c.messagesReceived) (code : String) :
    c.reconcileUnfinished isUpper isDigit code = (c, 0) := by
  unfold reconcileUnfinished
  rw [h, Nat.sub_self]
  exact if_pos rfl

end Counts

end ShadowRunController

end PromoBot
