import PromoBot.Affiliate.ShadowListener
import PromoBot.Relay.Workers

/-!
# The events of a bounded listener run

`TelegramMonitor._handle_new_message` under a `ShadowRunController`
(`telegram/monitor.py`), the relay queue behind it, and the calls of
`AliExpressShadowMessageProcessor.process` its workers make.

A handler is a task of its own.  It admits its event, persists the message in one
transaction, has the row wait for a worker, and, where there is no room, defers the
row in a second transaction; other tasks may run between these.  What it learns from
the persisted row, and every exception but a cancellation, it records itself.  A row
that waits is left to the worker, whose call makes the record.

What the rows look like is up to the schedule (`write`): the workers, earlier runs and
other processes write them.

Events are numbered in the order of their admission.  `carrier` remembers which event
had a row wait, and `records` which event a record was made for; no step reads either.
-/

namespace PromoBot
namespace Telegram

open DurableRelayQueue

/-- What a run is started with. -/
structure ShadowRun where
  config : TelegramRelayConfig
  hashes : ContentHashes
  /-- `_source_channel_ids`. -/
  channels : List Text
  limits : ShadowRunLimits
  /-- `str.isupper` and `str.isdigit`, of one character. -/
  isUpper : Char → Bool
  isDigit : Char → Bool

/-- Where a handler of an admitted event stands. -/
inductive HandlerStage
  /-- In `persist_without_enqueue`. -/
  | persisting (m : IncomingMessage)
  /-- Persisted; before `_enqueue`. -/
  | enqueueing (persisted : PersistedMessage)
  /-- There was no room; in the transaction which defers the row. -/
  | deferring (persisted : PersistedMessage)
  deriving DecidableEq

/-- A handler of an admitted event. -/
structure EventHandler where
  event : Nat
  stage : HandlerStage
  deriving DecidableEq

/-- The tables, the queue, the controller and the handlers. -/
structure EventWorld where
  rows : SourceMessages
  checkpoints : TelegramCheckpoints
  /-- `has_shadow_preview_or_terminal_delivery`. -/
  hasHistory : Nat → Bool
  tasks : RelayTasks
  controller : ShadowRunController
  /-- `_bounded_ready_second`. -/
  readySecond : Option Instant
  handlers : List EventHandler
  /-- The event which had a row wait. -/
  carrier : Nat → Nat
  /-- The terminal records, each with its event. -/
  records : List (Nat × TerminalRecord)

/-! ## The handler -/

/-- `_utc_message_second`, of a valid date. -/
def wholeSecond (t : Instant) : Instant := t - t % seconds 1

/-- `_bounded_event_exclusion`, from the two seconds it compares. -/
def boundedEventExclusion (readySecond messageSecond : Option Instant) : Option String :=
  match readySecond, messageSecond with
  | none, _ => some "TELEGRAM_MESSAGE_WINDOW_NOT_READY"
  | some _, none => some "TELEGRAM_MESSAGE_TIMESTAMP_INVALID"
  | some ready, some message =>
    if message < ready then some "TELEGRAM_MESSAGE_BEFORE_WINDOW"
    else if message = ready then some "TELEGRAM_MESSAGE_READY_SECOND_AMBIGUOUS"
    else none

/-- What the handler records of a persisted message; nothing when it waits. -/
def handlerRecord (persisted : PersistedMessage) : Option TerminalRecord :=
  match persisted.legacyRejectionCode with
  | some code => some (.rejected code false true)
  | none =>
    if persisted.completedDuplicate then some (.skipped "TELEGRAM_SOURCE_ALREADY_COMPLETED")
    else if !persisted.contentMatches then
      some (.rejected "TELEGRAM_SOURCE_CONTENT_MISMATCH" false true)
    else if persisted.queued then none
    else some (.rejected "TELEGRAM_QUEUE_CAPACITY_DEFERRED" true true)

/-- The handler's record of any other exception. -/
def persistFailed : TerminalRecord := .rejected "TELEGRAM_EVENT_PERSIST_FAILED" true true

/-- `persist` goes on to `_enqueue`. -/
def Queues (persisted : PersistedMessage) : Prop :=
  ¬ (persisted.completedDuplicate || !persisted.contentMatches || !persisted.queued) = true

instance (persisted : PersistedMessage) : Decidable (Queues persisted) :=
  inferInstanceAs (Decidable (¬ _))

/-- What `persist` answers when there was no room. -/
def deferredMessage (persisted : PersistedMessage) : PersistedMessage where
  internalId := persisted.internalId
  created := persisted.created
  completedDuplicate := persisted.completedDuplicate
  queued := false
  contentMatches := persisted.contentMatches
  legacyCompatible := false
  legacyRejectionCode := none

/-- A message `persist` does not queue is recorded by its handler. -/
theorem exists_handlerRecord {persisted : PersistedMessage} (h : ¬ Queues persisted) :
    ∃ r, handlerRecord persisted = some r := by
  unfold Queues at h
  rw [not_not] at h
  unfold handlerRecord
  split
  · exact ⟨_, rfl⟩
  · split
    · exact ⟨_, rfl⟩
    · next hdup =>
      split
      · exact ⟨_, rfl⟩
      · next hmatch =>
        split
        · next hqueued => simp_all
        · exact ⟨_, rfl⟩

theorem exists_handlerRecord_deferred {persisted : PersistedMessage} (h : Queues persisted) :
    handlerRecord (deferredMessage persisted) =
      some (.rejected "TELEGRAM_QUEUE_CAPACITY_DEFERRED" true true) := by
  unfold Queues at h
  rw [Bool.or_eq_true, Bool.or_eq_true, not_or, not_or] at h
  obtain ⟨⟨hdup, hmatch⟩, -⟩ := h
  unfold handlerRecord deferredMessage
  dsimp only
  rw [if_neg hdup, if_neg hmatch]
  rfl

/-! ## The steps -/

/-- What a call charges the controller with on its way. -/
inductive Charge
  /-- `before_api_call`. -/
  | apiCall
  /-- `before_send_message`. -/
  | sendMessage
  /-- `record_delivery_sent`. -/
  | deliverySent
  deriving DecidableEq, Repr

/-- The controller after a charge; `none` is the `ProviderError`. -/
def Charge.apply (c : ShadowRunController) : Charge → Option ShadowRunController
  | apiCall => c.beforeApiCall
  | sendMessage => c.beforeSendMessage
  | deliverySent => some c.recordDeliverySent

/-- What can happen next. -/
inductive EventAction
  /-- The listener is ready: `mark_ready`. -/
  | ready (now : Instant)
  /-- A `NewMessage` event; `dated` says that its date is valid, and `task` that the
  handler runs in a task. -/
  | event (m : IncomingMessage) (dated task : Bool)
  /-- The transaction of `persist_without_enqueue` ends for the handler at a place. -/
  | persisted (i : Nat) (ends : Except String Unit)
  /-- The handler at a place calls `_enqueue`. -/
  | enqueues (i : Nat)
  /-- The transaction which defers the row ends for the handler at a place. -/
  | deferred (i : Nat) (ends : Except String Unit)
  /-- The worker at a place gets a row. -/
  | get (i : Nat)
  /-- The call of the processor ends for the worker at a place. -/
  | processed (i : Nat) (steps : AliExpressShadowMessageProcessor.ShadowSteps)
  /-- A call charges the controller. -/
  | charge (c : Charge)
  /-- `close_admission`, at the end of the run. -/
  | close (reason : Option String)
  /-- The tables are written. -/
  | write (rows : SourceMessages) (checkpoints : TelegramCheckpoints) (hasHistory : Nat → Bool)

namespace EventWorld

variable (S : ShadowRun)

/-- A terminal record is made for an event. -/
def recordFor (w : EventWorld) (event : Nat) (r : TerminalRecord) : EventWorld :=
  { w with
    controller := w.controller.record S.isUpper S.isDigit r
    records := w.records ++ [(event, r)] }

/-- The handler at a place is done. -/
def handlerDone (w : EventWorld) (i : Nat) : EventWorld :=
  { w with handlers := w.handlers.eraseIdx i }

/-- The handler at a place goes on to another stage. -/
def handlerAt (w : EventWorld) (i : Nat) (h : EventHandler) : EventWorld :=
  { w with handlers := w.handlers.set i h }

end EventWorld

/-- `safe_counter_code` of a run. -/
def ShadowRun.safeCode (S : ShadowRun) : String → String :=
  ShadowRunController.safeCounterCode S.isUpper S.isDigit

/-- `_handle_new_message`, up to its first transaction. -/
def handleNewMessage (S : ShadowRun) (w : EventWorld) (m : IncomingMessage) (dated task : Bool) :
    EventWorld :=
  if m.channelId ∉ S.channels then w
  else
    match boundedEventExclusion w.readySecond
        (if dated then some (wholeSecond m.occurredAt) else none) with
    | some code =>
      { w with controller := w.controller.recordExcluded S.isUpper S.isDigit code }
    | none =>
      match w.controller.tryAdmitMessage with
      | none => w
      | some controller =>
        let event := w.controller.messagesReceived
        if task then
          { w with
            controller := controller
            handlers := w.handlers ++ [⟨event, .persisting m⟩] }
        else
          { w with controller := controller }.recordFor S event
            (.rejected "TELEGRAM_HANDLER_TASK_MISSING" true true)

/-- The transaction of `persist_without_enqueue` ends for a handler. -/
def persistEnds (S : ShadowRun) (w : EventWorld) (i event : Nat) (m : IncomingMessage)
    (ends : Except String Unit) : EventWorld :=
  match ends with
  | .error _ => (w.handlerDone i).recordFor S event persistFailed
  | .ok () =>
    let (rows, checkpoints, persisted) :=
      persistWithoutEnqueue S.hashes w.hasHistory w.rows w.checkpoints m
    let w := { w with rows := rows, checkpoints := checkpoints }
    if Queues persisted then w.handlerAt i ⟨event, .enqueueing persisted⟩
    else
      match handlerRecord persisted with
      | some r => (w.handlerDone i).recordFor S event r
      | none => w.handlerDone i

/-- `_enqueue`, for a handler.  A row which has its mark already is waiting as well. -/
def enqueueEnds (S : ShadowRun) (w : EventWorld) (i event : Nat) (persisted : PersistedMessage) :
    EventWorld :=
  match enqueue S.config w.tasks.queue persisted.internalId with
  | (_, false) => w.handlerAt i ⟨event, .deferring persisted⟩
  | (queue, true) =>
    { w.handlerDone i with
      tasks := { w.tasks with queue := queue }
      carrier :=
        if persisted.internalId ∈ w.tasks.queue.enqueued then w.carrier
        else Function.update w.carrier persisted.internalId event }

/-- The transaction which defers the row ends for a handler. -/
def deferEnds (S : ShadowRun) (w : EventWorld) (i event : Nat) (persisted : PersistedMessage)
    (ends : Except String Unit) : EventWorld :=
  match ends with
  | .error _ => (w.handlerDone i).recordFor S event persistFailed
  | .ok () =>
    let w := { w with rows := SourceMessageRepository.deferQueueFull w.rows persisted.internalId }
    match handlerRecord (deferredMessage persisted) with
    | some r => (w.handlerDone i).recordFor S event r
    | none => w.handlerDone i

/-- A call of the processor ends for the worker at a place. -/
def processEnds (S : ShadowRun) (w : EventWorld) (i internalId : Nat)
    (ends : Except String TerminalRecord) : Option EventWorld :=
  (w.tasks.processed i (ends.map fun _ => ())).map fun T =>
    match ends with
    | .ok r => { w with tasks := T }.recordFor S (w.carrier internalId) r
    | .error _ => { w with tasks := T }

def eventStep (S : ShadowRun) (w : EventWorld) : EventAction → Option EventWorld
  | .ready now =>
    some { w with
      controller := w.controller.markReady
      readySecond := some (wholeSecond now) }
  | .event m dated task => some (handleNewMessage S w m dated task)
  | .persisted i ends =>
    match w.handlers[i]? with
    | some ⟨event, .persisting m⟩ => some (persistEnds S w i event m ends)
    | _ => none
  | .enqueues i =>
    match w.handlers[i]? with
    | some ⟨event, .enqueueing persisted⟩ => some (enqueueEnds S w i event persisted)
    | _ => none
  | .deferred i ends =>
    match w.handlers[i]? with
    | some ⟨event, .deferring persisted⟩ => some (deferEnds S w i event persisted ends)
    | _ => none
  | .get i => (w.tasks.get i).map fun T => { w with tasks := T }
  | .processed i steps =>
    match w.tasks.workers[i]? with
    | some (.processing internalId) =>
      processEnds S w i internalId (AliExpressShadowMessageProcessor.process S.safeCode steps)
    | _ => none
  | .charge c => (c.apply w.controller).map fun controller => { w with controller := controller }
  | .close reason => some { w with controller := w.controller.closeAdmission reason }
  | .write rows checkpoints hasHistory =>
    some { w with rows := rows, checkpoints := checkpoints, hasHistory := hasHistory }

/-- A bounded run with `n` workers, on any tables: `start(worker_count=n, recover=False)`. -/
def eventSystem (S : ShadowRun) (n : Nat) : TransitionSystem EventWorld EventAction where
  init w := w.tasks = ⟨⟨[], []⟩, List.replicate n .waiting⟩ ∧
    w.controller = .new S.limits ∧ w.readySecond = none ∧ w.handlers = [] ∧ w.records = []
  step := eventStep S

end Telegram
end PromoBot
