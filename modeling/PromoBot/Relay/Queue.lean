import Mathlib.Algebra.Group.Nat.Defs
import PromoBot.Database.Checkpoints
import PromoBot.Database.SourceMessages

/-!
# The durable relay queue

`TelegramRelayConfig`, `BackoffPolicy` (`relay/retry.py`) and `DurableRelayQueue`
(`relay/queue.py`).  The queue in memory is bounded and holds row numbers only;
what survives a restart is the table.

An intake persists the message and raises the checkpoint of its channel in one
transaction, whether or not there is room in the queue afterwards.
-/

namespace PromoBot

/-- `TelegramRelayConfig`, with the bounds its validators demand. -/
structure TelegramRelayConfig where
  catchUpOnStart : Bool
  catchUpLookbackHours : Nat
  catchUpMaxMessagesPerChannel : Nat
  queueMaxSize : Nat
  recoveryBatchSize : Nat
  processingMaxAttempts : Nat
  processingStaleAfterMinutes : Nat
  retryInitialSeconds : Nat
  retryMaxSeconds : Nat
  lookback_bounds : 1 ≤ catchUpLookbackHours ∧ catchUpLookbackHours ≤ 168
  catchUp_bounds : 1 ≤ catchUpMaxMessagesPerChannel ∧ catchUpMaxMessagesPerChannel ≤ 1000
  queue_bounds : 1 ≤ queueMaxSize ∧ queueMaxSize ≤ 10000
  batch_bounds : 1 ≤ recoveryBatchSize ∧ recoveryBatchSize ≤ 1000
  attempts_bounds : 1 ≤ processingMaxAttempts ∧ processingMaxAttempts ≤ 20
  stale_bounds : 1 ≤ processingStaleAfterMinutes ∧ processingStaleAfterMinutes ≤ 1440
  initial_bounds : 1 ≤ retryInitialSeconds ∧ retryInitialSeconds ≤ 300
  max_bounds : 1 ≤ retryMaxSeconds ∧ retryMaxSeconds ≤ 86400
  retry_window : retryInitialSeconds ≤ retryMaxSeconds

/-- `TelegramRelayConfig()`, the defaults. -/
def TelegramRelayConfig.default : TelegramRelayConfig where
  catchUpOnStart := true
  catchUpLookbackHours := 6
  catchUpMaxMessagesPerChannel := 100
  queueMaxSize := 200
  recoveryBatchSize := 50
  processingMaxAttempts := 5
  processingStaleAfterMinutes := 15
  retryInitialSeconds := 2
  retryMaxSeconds := 300
  lookback_bounds := by decide
  catchUp_bounds := by decide
  queue_bounds := by decide
  batch_bounds := by decide
  attempts_bounds := by decide
  stale_bounds := by decide
  initial_bounds := by decide
  max_bounds := by decide
  retry_window := by decide

namespace TelegramRelayConfig

variable (cfg : TelegramRelayConfig)

/-- When a lease taken at `now` runs out. -/
def leaseUntil (now : Instant) : Instant := now + minutes cfg.processingStaleAfterMinutes

/-- `BackoffPolicy.delay_seconds`: doubled with every attempt, with up to a fifth
of that as jitter, and bounded. -/
def delaySeconds (attemptCount : Nat) (jitter : Int) : Int :=
  let base := min cfg.retryMaxSeconds (cfg.retryInitialSeconds * 2 ^ (attemptCount - 1))
  min (seconds cfg.retryMaxSeconds) (seconds base + max 0 (min jitter (seconds base / 5)))

/-- `BackoffPolicy.next_attempt_at`. -/
def nextAttemptAt (now : Instant) (attemptCount : Nat) (jitter : Int) : Instant :=
  now + cfg.delaySeconds attemptCount jitter

end TelegramRelayConfig

/-- The queue in memory: the waiting row numbers, first in first out, and
`_enqueued`. -/
structure RelayQueue where
  waiting : List Nat
  enqueued : List Nat
  deriving DecidableEq, Repr

namespace DurableRelayQueue

open SourceMessageRepository

variable (cfg : TelegramRelayConfig)

/-- `_enqueue`; the answer says whether the message is waiting now. -/
def enqueue (q : RelayQueue) (internalId : Nat) : RelayQueue × Bool :=
  if internalId ∈ q.enqueued then (q, true)
  else if cfg.queueMaxSize ≤ q.waiting.length then (q, false)
  else (⟨q.waiting ++ [internalId], internalId :: q.enqueued⟩, true)

/-- The loop of `recover_once`: enqueue until one does not fit. -/
def enqueueAll (q : RelayQueue) : List Nat → RelayQueue × Nat
  | [] => (q, 0)
  | i :: rest =>
    match enqueue cfg q i with
    | (q', true) =>
      let (q'', n) := enqueueAll q' rest
      (q'', n + 1)
    | (q', false) => (q', 0)

/-- `recover_once`: one transaction that ends the exhausted rows and lists the
recoverable ones, which are then enqueued. -/
def recoverOnce (t : SourceMessages) (q : RelayQueue) (now : Instant) :
    SourceMessages × RelayQueue × Nat :=
  let t' := markExhausted t cfg.processingMaxAttempts
  (t', enqueueAll cfg q
    (recoverable t' now cfg.processingMaxAttempts cfg.recoveryBatchSize))

/-! ## Intake -/

/-- `PersistedMessage`. -/
structure PersistedMessage where
  internalId : Nat
  created : Bool
  completedDuplicate : Bool
  queued : Bool
  contentMatches : Bool
  legacyCompatible : Bool
  legacyRejectionCode : Option String
  deriving DecidableEq, Repr

/-- What `persist_without_enqueue` answers for a received message whose row is in
`state`. -/
def persistedMessage (m : IncomingMessage) (result : ReceiveResult)
    (state : SourceMessageState) (legacyHistory : Bool) : PersistedMessage :=
  let completedDuplicate := !result.created && result.contentMatches && state = .completed
  if result.legacyContentMatches then
    let safeSurface := m.surfaceMetadata.isSafePlainText
    { internalId := result.internalId
      created := result.created
      completedDuplicate := legacyHistory && safeSurface
      queued := false
      contentMatches := false
      legacyCompatible := true
      legacyRejectionCode :=
        if !safeSurface then some "ALIEXPRESS_MESSAGE_SURFACE_UNSAFE"
        else if !legacyHistory then some "TELEGRAM_LEGACY_SOURCE_UNVALIDATED"
        else none }
  else
    { internalId := result.internalId
      created := result.created
      completedDuplicate := completedDuplicate
      queued := !(completedDuplicate || !result.contentMatches || state = .failedPermanent)
      contentMatches := result.contentMatches
      legacyCompatible := false
      legacyRejectionCode := none }

/-- `persist_without_enqueue`: one transaction on the messages and the checkpoint
of the channel.  `hasHistory` is `has_shadow_preview_or_terminal_delivery`. -/
def persistWithoutEnqueue (hashes : ContentHashes) (hasHistory : Nat → Bool)
    (t : SourceMessages) (c : TelegramCheckpoints) (m : IncomingMessage) :
    SourceMessages × TelegramCheckpoints × PersistedMessage :=
  let (t, result) := receive hashes t m
  let c := TelegramCheckpointRepository.recordPersisted c m.channelId m.messageId m.occurredAt none
  let mismatch := !result.contentMatches && !result.legacyContentMatches
  let t := if mismatch then markContentMismatch t result.internalId else t
  let state := if mismatch then .failedPermanent else result.message.processingStatus
  let legacyHistory :=
    result.legacyContentMatches && (state = .completed || hasHistory result.internalId)
  (t, c, persistedMessage m result state legacyHistory)

/-- `persist`: persist, and then make the message wait for a worker.  A message for
which there is no room stays in the table, marked as deferred. -/
def persist (hashes : ContentHashes) (hasHistory : Nat → Bool) (t : SourceMessages)
    (c : TelegramCheckpoints) (q : RelayQueue) (m : IncomingMessage) :
    SourceMessages × TelegramCheckpoints × RelayQueue :=
  let (t, c, persisted) := persistWithoutEnqueue hashes hasHistory t c m
  if persisted.completedDuplicate || !persisted.contentMatches || !persisted.queued then
    (t, c, q)
  else
    match enqueue cfg q persisted.internalId with
    | (q, true) => (t, c, q)
    | (q, false) => (deferQueueFull t persisted.internalId, c, q)

/-! ## What the operations leave in the tables -/

@[simp] theorem recoverOnce_fst (t : SourceMessages) (q : RelayQueue) (now : Instant) :
    (recoverOnce cfg t q now).1 = markExhausted t cfg.processingMaxAttempts := rfl

/-- There is a row of that message. -/
def Persisted (t : SourceMessages) (m : IncomingMessage) : Prop :=
  ∃ i r, t.get? i = some r ∧ SameMessage m r

open SqlTable in
theorem persisted_iff_select (t : SourceMessages) (m : IncomingMessage) :
    Persisted t m ↔ t.select (fun _ r => SameMessage m r) ≠ [] := by
  constructor
  · rintro ⟨i, r, hr, hsame⟩
    exact List.ne_nil_of_mem (mem_select.2 ⟨hr, hsame⟩)
  · intro hne
    obtain ⟨⟨i, r⟩, hmem⟩ := List.exists_mem_of_ne_nil _ hne
    obtain ⟨hr, hsame⟩ := mem_select.1 hmem
    exact ⟨i, r, hr, hsame⟩

instance (t : SourceMessages) (m : IncomingMessage) : Decidable (Persisted t m) :=
  decidable_of_iff' _ (persisted_iff_select t m)

section Persist

open SqlTable

variable {cfg} {hashes : ContentHashes} {hasHistory : Nat → Bool} {t t' : SourceMessages}
  {c : TelegramCheckpoints} {q : RelayQueue} {m n : IncomingMessage}

theorem Change.sameMessage {failsOn : SourceMessage → Prop} {r : SourceMessage}
    {r' : Option SourceMessage} (h : Change failsOn (some r) r') (hr : SameMessage m r) :
    ∃ x, r' = some x ∧ SameMessage m x := by
  cases h with
  | keep => exact ⟨r, rfl, hr⟩
  | claim | complete | renew | fail | mismatch | defer | expire | exhaust => exact ⟨_, rfl, hr⟩

theorem Persisted.of_change {failsOn : SourceMessage → Prop}
    (hchange : ∀ i, Change failsOn (t.get? i) (t'.get? i)) (h : Persisted t m) :
    Persisted t' m := by
  obtain ⟨i, r, hr, hsame⟩ := h
  have hc := hchange i
  rw [hr] at hc
  obtain ⟨x, hx, hx'⟩ := Change.sameMessage hc hsame
  exact ⟨i, x, hx, hx'⟩

theorem persisted_receive : Persisted (receive hashes t m).1 m := by
  unfold receive
  split
  · next i r hhead =>
    have hmem := List.mem_of_mem_head? (Option.mem_def.2 hhead)
    obtain ⟨hr, hsame⟩ := mem_select.1 hmem
    exact ⟨i, r, hr, hsame⟩
  · exact ⟨_, _, get?_put_self _ _ _, rfl, rfl, rfl⟩

theorem keptBy_receive (hashes : ContentHashes) (t : SourceMessages) (m : IncomingMessage)
    (i : Nat) : Change (fun _ => False) (t.get? i) ((receive hashes t m).1.get? i) :=
  change_receive hashes t m i

/-- What holds once the message is received, and survives updates of existing rows,
holds after `persist`. -/
theorem persist_induction {P : SourceMessages → Prop} (hreceive : P (receive hashes t m).1)
    (hupdate : ∀ t t', P t → (∀ i, Change (fun _ => False) (t.get? i) (t'.get? i)) → P t') :
    P (persist cfg hashes hasHistory t c q m).1 := by
  have hwithout : P (persistWithoutEnqueue hashes hasHistory t c m).1 := by
    simp only [persistWithoutEnqueue]
    split
    · exact hupdate _ _ hreceive fun i => change_markContentMismatch _ _ i
    · exact hreceive
  unfold persist
  split
  next t₁ c₁ persisted heq =>
  rw [heq] at hwithout
  split
  · exact hwithout
  · split
    · exact hwithout
    · exact hupdate _ _ hwithout fun i => change_deferQueueFull _ _ i

/-- `persist` persists its message. -/
theorem persisted_persist : Persisted (persist cfg hashes hasHistory t c q m).1 m :=
  persist_induction (P := fun t => Persisted t m) persisted_receive
    fun _ _ h hchange => h.of_change hchange

/-- `persist` keeps the messages persisted before. -/
theorem Persisted.persist (h : Persisted t n) :
    Persisted (DurableRelayQueue.persist cfg hashes hasHistory t c q m).1 n :=
  persist_induction (P := fun t => Persisted t n) (h.of_change fun i => keptBy_receive hashes t m i)
    fun _ _ h hchange => h.of_change hchange

/-- `persist` records its message in the checkpoint of the channel. -/
theorem persist_checkpoints : (persist cfg hashes hasHistory t c q m).2.1 =
    TelegramCheckpointRepository.recordPersisted c m.channelId m.messageId m.occurredAt none := by
  unfold persist
  split
  next t₁ c₁ persisted heq =>
  have hc : c₁ = TelegramCheckpointRepository.recordPersisted c m.channelId m.messageId
      m.occurredAt none := by
    have hck := congrArg (fun x => x.2.1) heq
    exact hck.symm
  split
  · exact hc
  · split <;> exact hc

end Persist

end DurableRelayQueue

end PromoBot
