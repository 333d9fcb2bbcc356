import PromoBot.Lib.SqlTable
import PromoBot.Relay.Models

/-!
# The `source_messages` table

`SourceMessageRepository` of `database/repositories.py`: the rows a relay works
through, and the statements on them.

Most of the updates ask for the state they expect in their `WHERE` clause.  Two
do not: `fail` and `mark_content_mismatch` write whatever state the row is in.
`Change` collects, for a single row, everything the repository can do.
-/

namespace PromoBot

/-- A row of `source_messages` (`SourceMessageModel`).  `legacyUnknown` is the
`legacy_unknown` entry of the stored surface metadata. -/
structure SourceMessage where
  platform : Text
  messageId : Text
  channelId : Text
  occurredAt : Instant
  originalText : Text
  links : List ExtractedLink
  surfaceMetadata : MessageSurfaceMetadata
  legacyUnknown : Bool
  contentHash : Text
  processingStatus : SourceMessageState
  attemptCount : Nat
  lastAttemptAt : Option Instant
  nextAttemptAt : Option Instant
  processingStartedAt : Option Instant
  processingLeaseUntil : Option Instant
  completedAt : Option Instant
  errorCode : Option String
  errorSummary : Option Text
  deriving DecidableEq

/-- The `source_messages` table. -/
abbrev SourceMessages := SqlTable Nat SourceMessage

namespace SourceMessageRepository

open SqlTable

/-! ## Intake -/

/-- The row `receive` inserts. -/
def receivedRow (hashes : ContentHashes) (m : IncomingMessage) : SourceMessage where
  platform := m.platform
  messageId := Text.ofNat m.messageId
  channelId := m.channelId
  occurredAt := m.occurredAt
  originalText := m.originalText
  links := m.links
  surfaceMetadata := m.surfaceMetadata
  legacyUnknown := false
  contentHash := hashes.contentHash m
  processingStatus := .received
  attemptCount := 0
  lastAttemptAt := none
  nextAttemptAt := none
  processingStartedAt := none
  processingLeaseUntil := none
  completedAt := none
  errorCode := none
  errorSummary := none

/-- The unique key of the table: platform, message and channel. -/
def SameMessage (m : IncomingMessage) (r : SourceMessage) : Prop :=
  r.platform = m.platform ∧ r.messageId = Text.ofNat m.messageId ∧ r.channelId = m.channelId

instance (m : IncomingMessage) : DecidablePred (SameMessage m) :=
  fun _ => inferInstanceAs (Decidable (_ ∧ _))

/-- `ReceiveResult`, with the row number of the message. -/
structure ReceiveResult where
  internalId : Nat
  message : SourceMessage
  created : Bool
  contentMatches : Bool
  legacyContentMatches : Bool

/-- What `receive` says of the row it found or inserted. -/
def receiveResult (hashes : ContentHashes) (m : IncomingMessage) (internalId : Nat)
    (message : SourceMessage) (created : Bool) : ReceiveResult where
  internalId := internalId
  message := message
  created := created
  contentMatches := message.contentHash = hashes.contentHash m
  legacyContentMatches :=
    message.contentHash ≠ hashes.contentHash m ∧ message.legacyUnknown ∧
      message.contentHash = hashes.legacyContentHash m

/-- `receive`: insert unless there is a row of that message already. -/
def receive (hashes : ContentHashes) (t : SourceMessages) (m : IncomingMessage) :
    SourceMessages × ReceiveResult :=
  match (t.select fun _ r => SameMessage m r).head? with
  | some (i, r) => (t, receiveResult hashes m i r false)
  | none =>
    (t.put t.freshId (receivedRow hashes m),
      receiveResult hashes m t.freshId (receivedRow hashes m) true)

/-! ## Claims and their ends -/

/-- `_recoverable_expression`: new, due again, or held under a lease that ran out. -/
def Recoverable (now : Instant) (r : SourceMessage) : Prop :=
  r.processingStatus = .received ∨
    (r.processingStatus = .failedRetryable ∧
      (r.nextAttemptAt = none ∨ AtMost r.nextAttemptAt now)) ∨
    (r.processingStatus = .processing ∧ AtMost r.processingLeaseUntil now)

instance (now : Instant) : DecidablePred (Recoverable now) :=
  fun _ => inferInstanceAs (Decidable (_ ∨ _))

/-- The guard of `claim`, and the rows `recoverable` lists. -/
def Claimable (now : Instant) (maxAttempts : Nat) (r : SourceMessage) : Prop :=
  r.attemptCount < maxAttempts ∧ Recoverable now r

instance (now : Instant) (maxAttempts : Nat) : DecidablePred (Claimable now maxAttempts) :=
  fun _ => inferInstanceAs (Decidable (_ ∧ _))

/-- The values `claim` writes. -/
def claimed (now leaseUntil : Instant) (r : SourceMessage) : SourceMessage :=
  { r with
    processingStatus := .processing
    attemptCount := r.attemptCount + 1
    lastAttemptAt := some now
    processingStartedAt := some now
    processingLeaseUntil := some leaseUntil
    nextAttemptAt := none
    errorCode := none
    errorSummary := none }

/-- `claim`; `none` when no row was taken. -/
def claim (t : SourceMessages) (internalId : Nat) (now leaseUntil : Instant)
    (maxAttempts : Nat) : Option SourceMessages :=
  t.updateOne internalId (Claimable now maxAttempts) (claimed now leaseUntil)

/-- The guard of `complete` and `renew_lease`. -/
def Processing (r : SourceMessage) : Prop := r.processingStatus = .processing

instance : DecidablePred Processing := fun _ => inferInstanceAs (Decidable (_ = _))

/-- The values `complete` writes. -/
def completed (now : Instant) (r : SourceMessage) : SourceMessage :=
  { r with
    processingStatus := .completed
    completedAt := some now
    processingLeaseUntil := none
    nextAttemptAt := none
    errorCode := none
    errorSummary := none }

/-- `complete`, which looks at no row count. -/
def complete (t : SourceMessages) (internalId : Nat) (now : Instant) : SourceMessages :=
  t.updateWhere (fun i r => i = internalId ∧ Processing r) (completed now)

/-- The value `renew_lease` writes. -/
def renewed (leaseUntil : Instant) (r : SourceMessage) : SourceMessage :=
  { r with processingLeaseUntil := some leaseUntil }

/-- `renew_lease`. -/
def renewLease (t : SourceMessages) (internalId : Nat) (leaseUntil : Instant) :
    SourceMessages :=
  t.updateWhere (fun i r => i = internalId ∧ Processing r) (renewed leaseUntil)

/-- What a caller of `fail` reports. -/
structure Failure where
  retryable : Bool
  nextAttemptAt : Option Instant
  errorCode : String
  errorSummary : Option Text
  deriving DecidableEq

/-- `retryable and not exhausted`: the failure leaves the row due again. -/
def Failure.Retries (f : Failure) (maxAttempts : Nat) (r : SourceMessage) : Prop :=
  f.retryable = true ∧ r.attemptCount < maxAttempts

instance (f : Failure) (maxAttempts : Nat) : DecidablePred (f.Retries maxAttempts) :=
  fun _ => inferInstanceAs (Decidable (_ ∧ _))

/-- The state `fail` puts the row in. -/
def Failure.state (f : Failure) (maxAttempts : Nat) (r : SourceMessage) : SourceMessageState :=
  if f.Retries maxAttempts r then .failedRetryable else .failedPermanent

/-- The error code `fail` records. -/
def Failure.code (f : Failure) (maxAttempts : Nat) (r : SourceMessage) : String :=
  if f.retryable ∧ maxAttempts ≤ r.attemptCount then "RETRY_EXHAUSTED" else f.errorCode

/-- The error summary `fail` records. -/
def Failure.summary (f : Failure) : Option Text :=
  match f.errorSummary with
  | none | some [] => none
  | some summary => some (summary.take 500)

/-- The values `fail` writes. -/
def failed (f : Failure) (maxAttempts : Nat) (r : SourceMessage) : SourceMessage :=
  { r with
    processingStatus := f.state maxAttempts r
    processingLeaseUntil := none
    nextAttemptAt := if f.state maxAttempts r = .failedRetryable then f.nextAttemptAt else none
    errorCode := some (f.code maxAttempts r)
    errorSummary := f.summary }

/-- `fail`; `none` is its `LookupError`.  There is no guard on the state. -/
def fail (t : SourceMessages) (internalId : Nat) (maxAttempts : Nat) (f : Failure) :
    Option SourceMessages :=
  (t.get? internalId).map fun _ =>
    t.updateWhere (fun i _ => i = internalId) (failed f maxAttempts)

/-! ## The other updates -/

/-- The values `mark_content_mismatch` writes. -/
def mismatched (r : SourceMessage) : SourceMessage :=
  { r with
    processingStatus := .failedPermanent
    processingLeaseUntil := none
    nextAttemptAt := none
    completedAt := none
    errorCode := some "CONTENT_HASH_MISMATCH"
    errorSummary := none }

/-- `mark_content_mismatch`, without a guard on the state. -/
def markContentMismatch (t : SourceMessages) (internalId : Nat) : SourceMessages :=
  t.updateWhere (fun i _ => i = internalId) mismatched

/-- The values `defer_queue_full` writes. -/
def deferred (r : SourceMessage) : SourceMessage :=
  { r with errorCode := some "QUEUE_CAPACITY_DEFERRED", errorSummary := none }

/-- `defer_queue_full`. -/
def deferQueueFull (t : SourceMessages) (internalId : Nat) : SourceMessages :=
  t.updateWhere (fun i r => i = internalId ∧ r.processingStatus = .received) deferred

/-- The rows `expire_pilot_processing` ends. -/
def PilotExpired (now : Instant) (r : SourceMessage) : Prop :=
  r.processingStatus = .processing ∧ AtMost r.processingLeaseUntil now

instance (now : Instant) : DecidablePred (PilotExpired now) :=
  fun _ => inferInstanceAs (Decidable (_ ∧ _))

/-- The values `expire_pilot_processing` writes. -/
def pilotExpired (r : SourceMessage) : SourceMessage :=
  { r with
    processingStatus := .failedPermanent
    processingLeaseUntil := none
    nextAttemptAt := none
    errorCode := some "SHADOW_PILOT_OUTCOME_UNCERTAIN"
    errorSummary := none }

/-- `expire_pilot_processing`. -/
def expirePilotProcessing (t : SourceMessages) (now : Instant) : SourceMessages :=
  t.updateWhere (fun _ r => PilotExpired now r) pilotExpired

/-- The rows `mark_exhausted` ends.  The lease is not looked at. -/
def Exhausted (maxAttempts : Nat) (r : SourceMessage) : Prop :=
  maxAttempts ≤ r.attemptCount ∧
    r.processingStatus ∈ [SourceMessageState.received, .processing, .failedRetryable]

instance (maxAttempts : Nat) : DecidablePred (Exhausted maxAttempts) :=
  fun _ => inferInstanceAs (Decidable (_ ∧ _))

/-- The values `mark_exhausted` writes. -/
def exhausted (r : SourceMessage) : SourceMessage :=
  { r with
    processingStatus := .failedPermanent
    processingLeaseUntil := none
    nextAttemptAt := none
    errorCode := some "RETRY_EXHAUSTED"
    errorSummary := none }

/-- `mark_exhausted`. -/
def markExhausted (t : SourceMessages) (maxAttempts : Nat) : SourceMessages :=
  t.updateWhere (fun _ r => Exhausted maxAttempts r) exhausted

/-- `recoverable`: the row numbers, oldest message first. -/
def recoverable (t : SourceMessages) (now : Instant) (maxAttempts limit : Nat) : List Nat :=
  (((t.select fun _ r => Claimable now maxAttempts r).mergeSort fun a b =>
    decide (a.2.occurredAt < b.2.occurredAt ∨
      (a.2.occurredAt = b.2.occurredAt ∧ a.1 ≤ b.1))).take limit).map Prod.fst

/-! ## What each update does to a row -/

theorem get?_complete (t : SourceMessages) (i : Nat) (now : Instant) (j : Nat) :
    (complete t i now).get? j =
      (t.get? j).map fun r => if j = i ∧ Processing r then completed now r else r :=
  get?_updateWhere t _ _ j

theorem get?_renewLease (t : SourceMessages) (i : Nat) (lease : Instant) (j : Nat) :
    (renewLease t i lease).get? j =
      (t.get? j).map fun r => if j = i ∧ Processing r then renewed lease r else r :=
  get?_updateWhere t _ _ j

theorem get?_markExhausted (t : SourceMessages) (maxAttempts j : Nat) :
    (markExhausted t maxAttempts).get? j =
      (t.get? j).map fun r => if Exhausted maxAttempts r then exhausted r else r :=
  get?_updateWhere t _ _ j

theorem get?_of_claim {t t' : SourceMessages} {i : Nat} {now lease : Instant}
    {maxAttempts : Nat} (h : claim t i now lease maxAttempts = some t') :
    (∃ r, t.get? i = some r ∧ Claimable now maxAttempts r ∧
        t'.get? i = some (claimed now lease r)) ∧
      ∀ j, j ≠ i → t'.get? j = t.get? j :=
  get?_of_updateOne h

theorem get?_of_fail {t t' : SourceMessages} {i maxAttempts : Nat} {f : Failure}
    (h : fail t i maxAttempts f = some t') :
    (∃ r, t.get? i = some r ∧ t'.get? i = some (failed f maxAttempts r)) ∧
      ∀ j, j ≠ i → t'.get? j = t.get? j := by
  simp only [fail, Option.map_eq_some_iff] at h
  obtain ⟨r, hr, rfl⟩ := h
  refine ⟨⟨r, hr, ?_⟩, fun j hj => ?_⟩
  · rw [get?_updateWhere, hr]
    simp
  · rw [get?_updateWhere]
    simp [hj]

/-! ## What can happen to one row -/

/-- **Everything the repository does to a row**, when `fail` is called only on rows
satisfying `failsOn`; the statement itself does not ask. -/
inductive Change (failsOn : SourceMessage → Prop) :
    Option SourceMessage → Option SourceMessage → Prop
  | keep (r : Option SourceMessage) : Change failsOn r r
  | receive (hashes : ContentHashes) (m : IncomingMessage) :
      Change failsOn none (some (receivedRow hashes m))
  | claim {now lease : Instant} {maxAttempts : Nat} {r : SourceMessage} :
      Claimable now maxAttempts r → Change failsOn (some r) (some (claimed now lease r))
  | complete {now : Instant} {r : SourceMessage} :
      Processing r → Change failsOn (some r) (some (completed now r))
  | renew {lease : Instant} {r : SourceMessage} :
      Processing r → Change failsOn (some r) (some (renewed lease r))
  | fail (f : Failure) (maxAttempts : Nat) {r : SourceMessage} :
      failsOn r → Change failsOn (some r) (some (failed f maxAttempts r))
  | mismatch (r : SourceMessage) : Change failsOn (some r) (some (mismatched r))
  | defer {r : SourceMessage} :
      r.processingStatus = .received → Change failsOn (some r) (some (deferred r))
  | expire {now : Instant} {r : SourceMessage} :
      PilotExpired now r → Change failsOn (some r) (some (pilotExpired r))
  | exhaust {maxAttempts : Nat} {r : SourceMessage} :
      Exhausted maxAttempts r → Change failsOn (some r) (some (exhausted r))

variable {failsOn : SourceMessage → Prop}

theorem Change.of_updateWhere {p : Nat → SourceMessage → Prop} [∀ k r, Decidable (p k r)]
    {f : SourceMessage → SourceMessage} (t : SourceMessages) (j : Nat)
    (h : ∀ r, p j r → Change failsOn (some r) (some (f r))) :
    Change failsOn (t.get? j) ((t.updateWhere p f).get? j) := by
  rw [get?_updateWhere]
  cases t.get? j with
  | none => exact .keep none
  | some r =>
    by_cases hp : p j r
    · simpa [hp] using h r hp
    · simpa [hp] using Change.keep (some r)

theorem change_receive (hashes : ContentHashes) (t : SourceMessages) (m : IncomingMessage)
    (j : Nat) : Change failsOn (t.get? j) ((receive hashes t m).1.get? j) := by
  unfold receive
  split
  · exact .keep _
  · rcases eq_or_ne j t.freshId with rfl | hj
    · simpa using Change.receive hashes m
    · simpa [get?_put_ne t _ hj] using Change.keep _

theorem change_claim {t t' : SourceMessages} {i : Nat} {now lease : Instant}
    {maxAttempts : Nat} (h : claim t i now lease maxAttempts = some t') (j : Nat) :
    Change failsOn (t.get? j) (t'.get? j) := by
  obtain ⟨⟨r, hr, hclaim, hr'⟩, hother⟩ := get?_of_claim h
  rcases eq_or_ne j i with rfl | hj
  · exact hr ▸ hr' ▸ .claim hclaim
  · exact hother j hj ▸ .keep _

theorem change_complete (t : SourceMessages) (i : Nat) (now : Instant) (j : Nat) :
    Change failsOn (t.get? j) ((complete t i now).get? j) :=
  .of_updateWhere t j fun _ hp => .complete hp.2

theorem change_renewLease (t : SourceMessages) (i : Nat) (lease : Instant) (j : Nat) :
    Change failsOn (t.get? j) ((renewLease t i lease).get? j) :=
  .of_updateWhere t j fun _ hp => .renew hp.2

theorem change_fail {t t' : SourceMessages} {i maxAttempts : Nat} {f : Failure}
    (h : fail t i maxAttempts f = some t') (hfails : ∀ r, t.get? i = some r → failsOn r)
    (j : Nat) : Change failsOn (t.get? j) (t'.get? j) := by
  obtain ⟨⟨r, hr, hr'⟩, hother⟩ := get?_of_fail h
  rcases eq_or_ne j i with rfl | hj
  · exact hr ▸ hr' ▸ .fail f maxAttempts (hfails r hr)
  · exact hother j hj ▸ .keep _

theorem change_markContentMismatch (t : SourceMessages) (i j : Nat) :
    Change failsOn (t.get? j) ((markContentMismatch t i).get? j) :=
  .of_updateWhere t j fun r _ => .mismatch r

theorem change_deferQueueFull (t : SourceMessages) (i j : Nat) :
    Change failsOn (t.get? j) ((deferQueueFull t i).get? j) :=
  .of_updateWhere t j fun _ hp => .defer hp.2

theorem change_expirePilotProcessing (t : SourceMessages) (now : Instant) (j : Nat) :
    Change failsOn (t.get? j) ((expirePilotProcessing t now).get? j) :=
  .of_updateWhere t j fun _ hp => .expire hp

theorem change_markExhausted (t : SourceMessages) (maxAttempts j : Nat) :
    Change failsOn (t.get? j) ((markExhausted t maxAttempts).get? j) :=
  .of_updateWhere t j fun _ hp => .exhaust hp

theorem Change.attemptCount_le {r : SourceMessage} {r' : Option SourceMessage}
    (h : Change failsOn (some r) r') : ∃ x, r' = some x ∧ r.attemptCount ≤ x.attemptCount := by
  cases h with
  | keep => exact ⟨r, rfl, le_rfl⟩
  | claim => exact ⟨_, rfl, Nat.le_succ _⟩
  | complete | renew | fail | mismatch | defer | expire | exhaust => exact ⟨_, rfl, le_rfl⟩

end SourceMessageRepository

end PromoBot
