import PromoBot.Telegram.ShadowEvents

/-!
# Every admitted event is accounted for

`Accounted` is the account of a bounded run: each admitted event, by its number, has either a
terminal record, or a handler, or a row which is waiting or in process, and only one of these.
The controller's `terminal_events` is the number of records.  An event moves from its handler
to the queue and from the queue to its record, so every step keeps the account, with one
exception.

The exception is `_enqueue` of a row which has its mark already.  The handler takes the answer
for a place in the queue of its own and records nothing, while the call of the worker makes one
record, for the event which came first.  `RecordsEachOnce` is the condition that this does not
happen, and that no exception escapes a call of the processor.

## Events and rows

What is admitted is an event, and what waits in the queue is a row.  One message may come as
two events, a new one and the same again after a reconnect, and both are admitted, because the
controller counts before it knows which message it is.  From the transaction of the handler on,
the second has the row of the first.  If that row has been processed the event is recorded as a
duplicate, and if it is still waiting the event vanishes.  So the account must be kept by
events, and the world says for each row in the queue which event it is there for (`carrier`).

## A partition, counted

That an event is in exactly one place is stated as a sum of three counts that is one.  A step
takes an event out of one list and puts it into another, and the sum stays; a step that only
looks at an event does not change it.  When nothing is under way two of the three counts are
zero, and so each event has its record, and `reconcile_unfinished` at the end of a run finds
nothing to add.
-/

namespace PromoBot
namespace Telegram

open DurableRelayQueue

variable {S : ShadowRun} {n : Nat} {w w' : EventWorld} {i : Nat}

/-! ## The account -/

/-- The handlers past their first transaction persisted a message that `persist` queues. -/
def HandlerStage.Ok : HandlerStage → Prop
  | persisting _ => True
  | enqueueing persisted | deferring persisted => Queues persisted

/-- Every admitted event is recorded, or with its handler, or in the queue, and only one of
these. -/
structure Accounted (w : EventWorld) : Prop where
  events : (List.range w.controller.messagesReceived).Perm
    (w.records.map Prod.fst ++
      (w.handlers.map EventHandler.event ++ w.tasks.queue.enqueued.map w.carrier))
  records : w.controller.terminalEvents = w.records.length
  tidy : w.tasks.Tidy
  stages : ∀ h ∈ w.handlers, h.stage.Ok

/-- The steps which keep the account: a row is queued for one event only, and a call of the
processor makes its record. -/
def RecordsEachOnce (w : EventWorld) : EventAction → Prop
  | .enqueues i => ∀ event persisted, w.handlers[i]? = some ⟨event, .enqueueing persisted⟩ →
      persisted.internalId ∉ w.tasks.queue.enqueued
  | .processed _ steps => AliExpressShadowMessageProcessor.Contained steps
  | .ready _ | .event _ _ _ | .persisted _ _ | .deferred _ _ | .get _ | .charge _ | .close _
  | .write _ _ _ => True

namespace Accounted

theorem handlers_perm {h : EventHandler} (hi : w.handlers[i]? = some h) :
    (w.handlers.map EventHandler.event).Perm
      (h.event :: (w.handlers.eraseIdx i).map EventHandler.event) := by
  obtain ⟨hlt, rfl⟩ := List.getElem?_eq_some_iff.1 hi
  exact ((List.getElem_cons_eraseIdx_perm hlt).map EventHandler.event).symm

/-- A handler makes the record of its event, and is done. -/
theorem handlerRecords (h : Accounted w) {event : Nat} {stage : HandlerStage}
    (hi : w.handlers[i]? = some ⟨event, stage⟩) (r : TerminalRecord) :
    Accounted ((w.handlerDone i).recordFor S event r) where
  events := by
    have hcount := (w.controller.record_counts S.isUpper S.isDigit r).1
    show (List.range (w.controller.record S.isUpper S.isDigit r).messagesReceived).Perm
      ((w.records ++ [(event, r)]).map Prod.fst ++
        ((w.handlers.eraseIdx i).map EventHandler.event ++ w.tasks.queue.enqueued.map w.carrier))
    rw [hcount, List.map_append, List.append_assoc]
    refine h.events.trans (List.Perm.append_left _ ?_)
    exact (handlers_perm hi).append_right _
  records := by
    have hcount := (w.controller.record_counts S.isUpper S.isDigit r).2
    show (w.controller.record S.isUpper S.isDigit r).terminalEvents =
      (w.records ++ [(event, r)]).length
    rw [hcount, h.records, List.length_append, List.length_singleton]
  tidy := h.tidy
  stages := fun k hk => h.stages k (List.mem_of_mem_eraseIdx hk)

/-- A handler goes on to another stage. -/
theorem handlerAt (h : Accounted w) {event : Nat} {stage stage' : HandlerStage}
    (hi : w.handlers[i]? = some ⟨event, stage⟩) (hok : stage'.Ok) :
    Accounted (w.handlerAt i ⟨event, stage'⟩) where
  events := by
    have hsame : (w.handlers.set i ⟨event, stage'⟩).map EventHandler.event =
        w.handlers.map EventHandler.event := by
      obtain ⟨hlt, hget⟩ := List.getElem?_eq_some_iff.1 hi
      rw [List.map_set]
      refine List.ext_getElem (by simp) fun j hj hj' => ?_
      rw [List.getElem_set]
      split
      · next hij =>
        subst hij
        rw [List.getElem_map, hget]
      · rfl
    show (List.range w.controller.messagesReceived).Perm
      (w.records.map Prod.fst ++ ((w.handlers.set i ⟨event, stage'⟩).map EventHandler.event ++
        w.tasks.queue.enqueued.map w.carrier))
    rw [hsame]
    exact h.events
  records := h.records
  tidy := h.tidy
  stages := by
    intro k hk
    rcases List.mem_or_eq_of_mem_set hk with hk | rfl
    · exact h.stages k hk
    · exact hok

theorem withController (h : Accounted w) {c : ShadowRunController}
    (hc : ShadowRunController.SameCounts w.controller c) :
    Accounted { w with controller := c } where
  events := by
    show (List.range c.messagesReceived).Perm _
    rw [hc.1]
    exact h.events
  records := hc.2.trans h.records
  tidy := h.tidy
  stages := h.stages

theorem withTables (h : Accounted w) (rows : SourceMessages) (checkpoints : TelegramCheckpoints)
    (hasHistory : Nat → Bool) :
    Accounted { w with rows := rows, checkpoints := checkpoints, hasHistory := hasHistory } :=
  ⟨h.events, h.records, h.tidy, h.stages⟩

/-! ## Each step keeps it -/

theorem handleNewMessage (h : Accounted w) (m : IncomingMessage) (dated task : Bool) :
    Accounted (handleNewMessage S w m dated task) := by
  unfold Telegram.handleNewMessage
  split
  · exact h
  · split
    · exact h.withController ⟨rfl, rfl⟩
    · split
      · exact h
      · next controller hadmit =>
        obtain ⟨hreceived, hterminal⟩ := ShadowRunController.tryAdmitMessage_counts hadmit
        -- The new event is the next number.
        have hevents : (List.range controller.messagesReceived).Perm
            (w.records.map Prod.fst ++ (w.controller.messagesReceived ::
              (w.handlers.map EventHandler.event ++ w.tasks.queue.enqueued.map w.carrier))) := by
          rw [hreceived, List.range_succ]
          refine (List.perm_append_singleton _ _).trans ?_
          exact (h.events.cons _).trans List.perm_middle.symm
        dsimp only
        split
        · constructor
          · show (List.range controller.messagesReceived).Perm (w.records.map Prod.fst ++
              ((w.handlers ++ [EventHandler.mk w.controller.messagesReceived (.persisting m)]).map
                EventHandler.event ++ w.tasks.queue.enqueued.map w.carrier))
            rw [List.map_append, List.map_singleton]
            refine hevents.trans (List.Perm.append_left _ ?_)
            rw [List.append_assoc, List.singleton_append]
            exact List.perm_middle.symm
          · exact hterminal.trans h.records
          · exact h.tidy
          · intro k hk
            rcases List.mem_append.1 hk with hk | hk
            · exact h.stages k hk
            · rw [List.mem_singleton.1 hk]
              trivial
        · have hcounts := controller.record_counts S.isUpper S.isDigit
            (.rejected "TELEGRAM_HANDLER_TASK_MISSING" true true)
          constructor
          · show (List.range (controller.record S.isUpper S.isDigit _).messagesReceived).Perm
              ((w.records ++ [(w.controller.messagesReceived, _)]).map Prod.fst ++
                (w.handlers.map EventHandler.event ++ w.tasks.queue.enqueued.map w.carrier))
            rw [hcounts.1, List.map_append, List.append_assoc]
            exact hevents
          · show (controller.record S.isUpper S.isDigit _).terminalEvents =
              (w.records ++ [(w.controller.messagesReceived, _)]).length
            rw [hcounts.2, hterminal, h.records, List.length_append, List.length_singleton]
          · exact h.tidy
          · exact h.stages

theorem persistEnds (h : Accounted w) {event : Nat} {m : IncomingMessage}
    (hi : w.handlers[i]? = some ⟨event, .persisting m⟩) (ends : Except String Unit) :
    Accounted (persistEnds S w i event m ends) := by
  unfold Telegram.persistEnds
  split
  · exact h.handlerRecords hi _
  · dsimp only
    generalize persistWithoutEnqueue S.hashes w.hasHistory w.rows w.checkpoints m = after
    obtain ⟨rows, checkpoints, persisted⟩ := after
    have h' := h.withTables rows checkpoints w.hasHistory
    dsimp only
    split
    · next hqueues => exact h'.handlerAt hi hqueues
    · next hqueues =>
      obtain ⟨r, hr⟩ := exists_handlerRecord hqueues
      rw [hr]
      exact h'.handlerRecords hi r

theorem enqueueEnds (h : Accounted w) {event : Nat} {persisted : PersistedMessage}
    (hi : w.handlers[i]? = some ⟨event, .enqueueing persisted⟩)
    (hnew : persisted.internalId ∉ w.tasks.queue.enqueued) :
    Accounted (enqueueEnds S w i event persisted) := by
  have hok : Queues persisted := h.stages _ (List.mem_of_getElem? hi)
  unfold Telegram.enqueueEnds enqueue
  rw [if_neg hnew]
  split
  · next heq => exact h.handlerAt hi hok
  · next queue heq =>
    have hqueue : queue = ⟨w.tasks.queue.waiting ++ [persisted.internalId],
        persisted.internalId :: w.tasks.queue.enqueued⟩ := by
      split at heq
      · cases heq
      · exact (Prod.mk.inj heq).1.symm
    subst hqueue
    rw [if_neg hnew]
    have hcarrier : w.tasks.queue.enqueued.map
        (Function.update w.carrier persisted.internalId event) =
          w.tasks.queue.enqueued.map w.carrier := by
      refine List.map_congr_left fun j hj => Function.update_of_ne ?_ _ _
      rintro rfl
      exact hnew hj
    constructor
    · show (List.range w.controller.messagesReceived).Perm (w.records.map Prod.fst ++
        ((w.handlers.eraseIdx i).map EventHandler.event ++
          (persisted.internalId :: w.tasks.queue.enqueued).map
            (Function.update w.carrier persisted.internalId event)))
      rw [List.map_cons, Function.update_self, hcarrier]
      refine h.events.trans (List.Perm.append_left _ ?_)
      exact ((handlers_perm hi).append_right _).trans List.perm_middle.symm
    · exact h.records
    · exact h.tidy.put hnew
    · exact fun k hk => h.stages k (List.mem_of_mem_eraseIdx hk)

theorem deferEnds (h : Accounted w) {event : Nat} {persisted : PersistedMessage}
    (hi : w.handlers[i]? = some ⟨event, .deferring persisted⟩) (ends : Except String Unit) :
    Accounted (deferEnds S w i event persisted ends) := by
  have hok : Queues persisted := h.stages _ (List.mem_of_getElem? hi)
  unfold Telegram.deferEnds
  split
  · exact h.handlerRecords hi _
  · rw [exists_handlerRecord_deferred hok]
    have h' := h.withTables (SourceMessageRepository.deferQueueFull w.rows persisted.internalId)
      w.checkpoints w.hasHistory
    exact h'.handlerRecords hi _

theorem get (h : Accounted w) {T : RelayTasks} (hT : w.tasks.get i = some T) :
    Accounted { w with tasks := T } := by
  have htidy := h.tidy.get hT
  obtain ⟨internalId, waiting, -, -, rfl⟩ := RelayTasks.get_eq_some.1 hT
  exact ⟨h.events, h.records, htidy, h.stages⟩

/-- The call of the worker makes the record of the event which had the row wait. -/
theorem processEnds (h : Accounted w) {internalId : Nat}
    (hworker : w.tasks.workers[i]? = some (.processing internalId)) {r : TerminalRecord}
    (hstep : processEnds S w i internalId (.ok r) = some w') : Accounted w' := by
  obtain ⟨T, hT, rfl⟩ := Option.map_eq_some_iff.1 hstep
  have htidy := h.tidy.processed hT
  obtain ⟨internalId', hworker', rfl⟩ := RelayTasks.processed_eq_some.1 hT
  obtain rfl : internalId = internalId' :=
    Worker.processing.inj (Option.some.inj (hworker.symm.trans hworker'))
  have hmarked : internalId ∈ w.tasks.queue.enqueued :=
    h.tidy.mem_iff.2 (Or.inr (Slots.mem_held.2 ⟨_, List.mem_of_getElem? hworker, rfl⟩))
  have hcounts := w.controller.record_counts S.isUpper S.isDigit r
  constructor
  · show (List.range (w.controller.record S.isUpper S.isDigit r).messagesReceived).Perm
      ((w.records ++ [(w.carrier internalId, r)]).map Prod.fst ++
        (w.handlers.map EventHandler.event ++
          (w.tasks.queue.enqueued.erase internalId).map w.carrier))
    rw [hcounts.1, List.map_append, List.append_assoc]
    refine h.events.trans (List.Perm.append_left _ ?_)
    have herase := (List.perm_cons_erase hmarked).map w.carrier
    exact (herase.append_left _).trans List.perm_middle
  · show (w.controller.record S.isUpper S.isDigit r).terminalEvents =
      (w.records ++ [(w.carrier internalId, r)]).length
    rw [hcounts.2, h.records, List.length_append, List.length_singleton]
  · exact htidy
  · exact h.stages

/-- **A step which records each once keeps the account.** -/
theorem step (h : Accounted w) {a : EventAction} (hgood : RecordsEachOnce w a)
    (hstep : eventStep S w a = some w') : Accounted w' := by
  cases a with
  | ready now =>
    obtain rfl := Option.some.inj hstep
    exact ⟨h.events, h.records, h.tidy, h.stages⟩
  | event m dated task =>
    obtain rfl := Option.some.inj hstep
    exact h.handleNewMessage m dated task
  | persisted i ends =>
    simp only [eventStep] at hstep
    split at hstep
    · next event m hi =>
      obtain rfl := Option.some.inj hstep
      exact h.persistEnds hi ends
    · cases hstep
  | enqueues i =>
    simp only [eventStep] at hstep
    split at hstep
    · next event persisted hi =>
      obtain rfl := Option.some.inj hstep
      exact h.enqueueEnds hi (hgood event persisted hi)
    · cases hstep
  | deferred i ends =>
    simp only [eventStep] at hstep
    split at hstep
    · next event persisted hi =>
      obtain rfl := Option.some.inj hstep
      exact h.deferEnds hi ends
    · cases hstep
  | get i =>
    obtain ⟨T, hT, rfl⟩ := Option.map_eq_some_iff.1 hstep
    exact h.get hT
  | processed i steps =>
    obtain ⟨r, hr⟩ := (AliExpressShadowMessageProcessor.exists_process_iff S.safeCode steps).2 hgood
    simp only [eventStep] at hstep
    split at hstep
    · next internalId hworker =>
      rw [hr] at hstep
      exact h.processEnds hworker hstep
    · cases hstep
  | charge c =>
    obtain ⟨controller, hc, rfl⟩ := Option.map_eq_some_iff.1 hstep
    refine h.withController ?_
    cases c with
    | apiCall => exact ShadowRunController.sameCounts_beforeApiCall hc
    | sendMessage => exact ShadowRunController.sameCounts_beforeSendMessage hc
    | deliverySent =>
      obtain rfl := Option.some.inj hc
      exact ⟨rfl, rfl⟩
  | close reason =>
    obtain rfl := Option.some.inj hstep
    exact h.withController (ShadowRunController.sameCounts_closeAdmission reason)
  | write rows checkpoints hasHistory =>
    obtain rfl := Option.some.inj hstep
    exact h.withTables rows checkpoints hasHistory

end Accounted

theorem accounted_of_reachableUnder (h : (eventSystem S n).ReachableUnder RecordsEachOnce w) :
    Accounted w := by
  refine h.invariant ?_ fun s a t hs hgood hstep => hs.step hgood hstep
  rintro s ⟨htasks, hcontroller, -, hhandlers, hrecords⟩
  constructor
  · rw [hcontroller, hrecords, hhandlers, htasks]
    exact List.Perm.nil
  · rw [hcontroller, hrecords]
    rfl
  · rw [htasks]
    exact RelayTasks.tidy_started n
  · rw [hhandlers]
    exact fun h hh => absurd hh List.not_mem_nil

/-! ## The end of a run -/

/-- The handlers are done, the queue is empty, and nothing is in process. -/
def Drained (w : EventWorld) : Prop :=
  w.handlers = [] ∧ w.tasks.queue.waiting = [] ∧ w.tasks.processing = []

/-- **Every admitted event is accounted for.**  In every run in which no row is queued for
two events at a time, and no exception escapes a call of the processor: each admitted event
has one terminal record, or a handler, or a row in the queue or in process, and only one of
these; and once the handlers are done and the queue has drained, each has exactly one
terminal record, and `reconcile_unfinished` finds nothing and changes nothing. -/
theorem events_accounted_for (h : (eventSystem S n).ReachableUnder RecordsEachOnce w) :
    (∀ event < w.controller.messagesReceived,
      (w.records.map Prod.fst).count event +
        ((w.handlers.map EventHandler.event).count event +
          (w.tasks.queue.enqueued.map w.carrier).count event) = 1) ∧
    (Drained w →
      (∀ event < w.controller.messagesReceived, (w.records.map Prod.fst).count event = 1) ∧
      ∀ code, w.controller.reconcileUnfinished S.isUpper S.isDigit code = (w.controller, 0)) := by
  have hacc := accounted_of_reachableUnder h
  have hone : ∀ event < w.controller.messagesReceived,
      (w.records.map Prod.fst).count event +
        ((w.handlers.map EventHandler.event).count event +
          (w.tasks.queue.enqueued.map w.carrier).count event) = 1 := by
    intro event hevent
    rw [← List.count_append, ← List.count_append, ← hacc.events.count_eq]
    exact List.count_eq_one_of_mem List.nodup_range (List.mem_range.2 hevent)
  refine ⟨hone, ?_⟩
  rintro ⟨hhandlers, hwaiting, hprocessing⟩
  have henqueued : w.tasks.queue.enqueued = [] := by
    have hperm := hacc.tidy.perm
    rw [hwaiting, hprocessing, List.append_nil] at hperm
    exact hperm.eq_nil
  constructor
  · intro event hevent
    have hevents := hone event hevent
    rwa [hhandlers, henqueued, List.map_nil, List.map_nil, List.count_nil] at hevents
  · intro code
    refine ShadowRunController.reconcileUnfinished_of_eq ?_ code
    have hlen := hacc.events.length_eq
    rw [hhandlers, henqueued, List.map_nil, List.map_nil, List.append_nil, List.append_nil,
      List.length_range, List.length_map] at hlen
    rw [hacc.records, hlen]

/-! ## An event which repeats a queued message -/

/-- A run over one channel, with room for five events. -/
def pilotRun : ShadowRun where
  config := .default
  hashes := ⟨fun m => m.originalText, fun m => m.originalText⟩
  channels := ["-100".toList]
  limits := ⟨5, 5, 5, by decide, by decide⟩
  isUpper := Char.isUpper
  isDigit := Char.isDigit

/-- The listener of that run with one worker, on empty tables. -/
def oneWorker : EventWorld where
  rows := ∅
  checkpoints := ∅
  hasHistory _ := false
  tasks := ⟨⟨[], []⟩, List.replicate 1 .waiting⟩
  controller := .new pilotRun.limits
  readySecond := none
  handlers := []
  carrier _ := 0
  records := []

/-- A message posted after the listener is ready. -/
def newMessage : IncomingMessage := { plainMessage with occurredAt := seconds 5 }

/-- A call on the canonical path whose preview is cached and not delivered. -/
def cachedPreview : AliExpressShadowMessageProcessor.ShadowSteps where
  source := none
  canonical := ⟨.ok (), .ok (some 1, true), .ok (), none⟩
  coin := ⟨.ok true, .ok true, .ok ⟨"sent", none⟩, .ok (), .ok (), .ok ()⟩

/-- One event, up to the queue. -/
def eventArrives : List EventAction :=
  [.ready 0, .event newMessage true true, .persisted 0 (.ok ())]

/-- The row of the event is queued and processed. -/
def eventProcessed : List EventAction := [.get 0, .processed 0 cachedPreview]

/-- The event of a message, and the same event again while its row is waiting. -/
def repeatedEvent : List EventAction :=
  [.ready 0, .event newMessage true true, .persisted 0 (.ok ()), .enqueues 0,
    .event newMessage true true, .persisted 0 (.ok ()), .enqueues 0, .get 0,
    .processed 0 cachedPreview]

theorem init_oneWorker : (eventSystem pilotRun 1).init oneWorker := ⟨rfl, rfl, rfl, rfl, rfl⟩

theorem contained_cachedPreview :
    AliExpressShadowMessageProcessor.Contained cachedPreview := nofun

theorem events_accounted_for_oneEvent :
    let w := (eventSystem pilotRun 1).endOf oneWorker
      (eventArrives ++ .enqueues 0 :: eventProcessed)
    w.controller.messagesReceived = 1 ∧ w.records = [(0, .processed true true)] ∧
      ∀ code, w.controller.reconcileUnfinished Char.isUpper Char.isDigit code =
        (w.controller, 0) := by
  have harrives : ∀ a ∈ eventArrives, ∀ s, RecordsEachOnce s a := by
    intro a ha s
    simp only [eventArrives, List.mem_cons, List.not_mem_nil, or_false] at ha
    rcases ha with rfl | rfl | rfl <;> trivial
  have hprocessed : ∀ a ∈ eventProcessed, ∀ s, RecordsEachOnce s a := by
    intro a ha s
    simp only [eventProcessed, List.mem_cons, List.not_mem_nil, or_false] at ha
    rcases ha with rfl | rfl
    · trivial
    · exact contained_cachedPreview
  have hreplay := TransitionSystem.replay_endOf (T := eventSystem pilotRun 1) oneWorker
    (eventArrives ++ .enqueues 0 :: eventProcessed) (by decide +kernel)
  have hsplit := hreplay
  rw [TransitionSystem.replay, List.foldlM_append] at hsplit
  obtain ⟨v, hv, hrest⟩ := Option.bind_eq_some_iff.1 hsplit
  rw [List.foldlM_cons] at hrest
  obtain ⟨v', hv', hrest⟩ := Option.bind_eq_some_iff.1 hrest
  -- Nothing has a mark when the row of the event is queued.
  have hempty : v.tasks.queue.enqueued = [] := by
    have h : ((eventSystem pilotRun 1).endOf oneWorker eventArrives).tasks.queue.enqueued = [] := by
      decide +kernel
    rwa [TransitionSystem.endOf, TransitionSystem.replay, hv] at h
  have hgood : RecordsEachOnce v (.enqueues 0) := by
    intro event persisted _
    rw [hempty]
    exact List.not_mem_nil
  have hrun := (TransitionSystem.runUnder_of_replay harrives hv).tail hgood hv'
  have hreach : (eventSystem pilotRun 1).ReachableUnder RecordsEachOnce _ :=
    ⟨_, init_oneWorker, hrun.trans (TransitionSystem.runUnder_of_replay hprocessed hrest)⟩
  have hdrained := (events_accounted_for hreach).2
    ⟨by decide +kernel, by decide +kernel, by decide +kernel⟩
  exact ⟨by decide +kernel, by decide +kernel, hdrained.2⟩

/-- **A repeated event can be left without a record.**  Both events of a message are
admitted, the second while the row of the first is waiting; when everything is done there
is one terminal record for the two, and `reconcile_unfinished` reports a missing outcome. -/
theorem repeated_event_unrecorded :
    let w := (eventSystem pilotRun 1).endOf oneWorker repeatedEvent
    (eventSystem pilotRun 1).Reachable w ∧ Drained w ∧
      w.controller.messagesReceived = 2 ∧ w.records.map Prod.fst = [0] ∧
      (w.controller.reconcileUnfinished Char.isUpper Char.isDigit
        "AFFILIATE_SHADOW_OUTCOME_MISSING").2 = 1 := by
  refine ⟨⟨_, init_oneWorker, TransitionSystem.run_endOf (by decide +kernel)⟩, ?_, ?_, ?_, ?_⟩
  · exact ⟨by decide +kernel, by decide +kernel, by decide +kernel⟩
  · decide +kernel
  · decide +kernel
  · decide +kernel

end Telegram
end PromoBot
