import PromoBot.Relay.Workers

/-!
# No queued message is lost, as long as no exception escapes

The relay queue with its workers and its recovery loop, over whole runs: rows are put in the
queue by the intake and by the recovery loop, workers take them out, and every call of the
processor ends in whichever way its database steps end.

The logs `put` and `handed` list the rows in the order in which they were put in the queue and
handed to the processor; no step reads them.  `Lossless` is the invariant: the rows handed over
and the rows still waiting are together the rows put, in that order, `_enqueued` is the rows in
the queue and in process, and every task is alive. It is kept by every step that is `Sound`,
which is a condition on how the steps of the processor and of the recovery loop end.

That the queue is emptied is a matter of counting: every step of a worker lowers `work`, and
where no worker can take a step nothing is waiting.

An exception which does escape ends its worker.  `queued_message_lost` is what that comes to
with one worker: a row waits which no later step hands over.

## Where the exceptions come from

The processor is written to return: what it does to a row is inside of a `try`, and whatever is
raised there becomes a failure of the row.  But the first thing it does is to claim the row,
and the last thing to record the failure, and both are outside.  The database may be locked at
either of them. The loop of the worker has no handler of its own, and nothing looks at whether
a worker is alive.  So `Sound` asks of a call that it is *contained*, and this is exact, call
by call (`outlives_iff`).

## Three statements about a run

Nothing lost, nothing twice and nothing forgotten are different things to say of a queue.  The
equation between the logs says the first two: what was handed over is a prefix of what was put,
in order.  The mark `_enqueued` is what keeps a row from waiting twice, and a mark without a
row would keep it from ever waiting again, so it has to be exactly the rows waiting or in
process.  And the last one is about what workers can do: any schedule of theirs is finite, and
where it cannot go on all that was put has been handed over.
-/

namespace PromoBot
namespace Relay

open DurableRelayQueue

/-! ## The system -/

/-- The task that runs `_recovery_loop`. -/
inductive RecoveryTask
  /-- Not started, by `start(recover=False)`. -/
  | absent
  | running
  /-- Ended with an exception. -/
  | dead
  deriving DecidableEq, Repr

/-- The queue, its tasks and the logs. -/
structure QueueWorld where
  tasks : RelayTasks
  recovery : RecoveryTask
  /-- The rows put in the queue. -/
  put : List Nat
  /-- The rows handed to the processor. -/
  handed : List Nat
  deriving DecidableEq, Repr

/-- How a pass of the recovery loop ends: `backfill_affiliate_candidates_once`, and the
transaction of `recover_once` with the rows it lists. -/
structure RecoveryPass where
  backfill : Except String Nat
  recoverable : Except String (List Nat)

def RecoveryPass.rows (pass : RecoveryPass) : Except String (List Nat) := do
  let _ ← pass.backfill
  pass.recoverable

/-- What can happen next. -/
inductive QueueAction
  /-- The intake has a row wait for a worker. -/
  | enqueue (internalId : Nat)
  /-- The worker at a place gets a row. -/
  | get (i : Nat)
  /-- The call of the processor ends for the worker at a place. -/
  | processed (i : Nat) (steps : ProcessSteps)
  /-- A pass of the recovery loop. -/
  | recover (pass : RecoveryPass)

/-- The world after an operation on the queue. -/
def QueueWorld.withQueue (w : QueueWorld) (q : RelayQueue) : QueueWorld :=
  { w with tasks := { w.tasks with queue := q }, put := w.put ++ newlyPut w.tasks.queue q }

def queueStep (cfg : TelegramRelayConfig) (w : QueueWorld) : QueueAction → Option QueueWorld
  | .enqueue internalId => some (w.withQueue (enqueue cfg w.tasks.queue internalId).1)
  | .get i => (w.tasks.get i).map fun T =>
      { w with tasks := T, handed := w.handed ++ w.tasks.queue.waiting.take 1 }
  | .processed i steps => (w.tasks.processed i steps.process).map fun T => { w with tasks := T }
  | .recover pass =>
    if w.recovery = .running then
      match pass.rows with
      | .ok rows => some (w.withQueue (enqueueAll cfg w.tasks.queue rows).1)
      | .error _ => some { w with recovery := .dead }
    else none

/-- `start(worker_count=n)`: the rows `recover_once` listed are waiting. -/
def started (cfg : TelegramRelayConfig) (n : Nat) (rows : List Nat) (recovery : RecoveryTask) :
    QueueWorld where
  tasks := ⟨(enqueueAll cfg ⟨[], []⟩ rows).1, List.replicate n .waiting⟩
  recovery := recovery
  put := (enqueueAll cfg ⟨[], []⟩ rows).1.waiting
  handed := []

/-- The relay queue with `n` workers. -/
def queueSystem (cfg : TelegramRelayConfig) (n : Nat) : TransitionSystem QueueWorld QueueAction where
  init w := ∃ rows recovery, recovery ≠ .dead ∧ w = started cfg n rows recovery
  step := queueStep cfg

/-- No exception escapes: the processor returns, and the recovery loop finishes its
pass. -/
def Sound (_ : QueueWorld) : QueueAction → Prop
  | .processed _ steps => steps.Contained
  | .recover pass => (∃ count, pass.backfill = .ok count) ∧ ∃ rows, pass.recoverable = .ok rows
  | .enqueue _ | .get _ => True

/-! ## The invariant -/

/-- Nothing put in the queue is lost, and every task is alive. -/
structure Lossless (n : Nat) (w : QueueWorld) : Prop where
  /-- What was put in the queue was handed over in that order, or is still waiting. -/
  put : w.put = w.handed ++ w.tasks.queue.waiting
  tidy : w.tasks.Tidy
  workers : w.tasks.workers.length = n
  alive : ∀ worker ∈ w.tasks.workers, worker ≠ .dead
  recovery : w.recovery ≠ .dead

variable {cfg : TelegramRelayConfig} {n : Nat} {w w' : QueueWorld}

theorem lossless_started (cfg : TelegramRelayConfig) (n : Nat) (rows : List Nat)
    {recovery : RecoveryTask} (hrecovery : recovery ≠ .dead) :
    Lossless n (started cfg n rows recovery) where
  put := rfl
  tidy := (extends_enqueueAll _ rows).tidy (RelayTasks.tidy_started n)
  workers := List.length_replicate
  alive := by
    intro worker hmem
    rw [List.eq_of_mem_replicate hmem]
    exact nofun
  recovery := hrecovery

theorem Lossless.withQueue (h : Lossless n w) {q : RelayQueue}
    (hq : Extends w.tasks.processing w.tasks.queue q) : Lossless n (w.withQueue q) where
  put := by
    show w.put ++ newlyPut w.tasks.queue q = w.handed ++ q.waiting
    rw [hq.waiting, h.put, List.append_assoc]
  tidy := hq.tidy h.tidy
  workers := h.workers
  alive := h.alive
  recovery := h.recovery

/-- **A sound step loses nothing.** -/
theorem Lossless.step (h : Lossless n w) {a : QueueAction} (hsound : Sound w a)
    (hstep : queueStep cfg w a = some w') : Lossless n w' := by
  cases a with
  | enqueue internalId =>
    obtain rfl := Option.some.inj hstep
    exact h.withQueue (extends_enqueue _ internalId)
  | get i =>
    obtain ⟨T, hT, rfl⟩ := Option.map_eq_some_iff.1 hstep
    have htidy := h.tidy.get hT
    obtain ⟨internalId, waiting, hworker, hwaiting, rfl⟩ := RelayTasks.get_eq_some.1 hT
    constructor
    · show w.put = w.handed ++ w.tasks.queue.waiting.take 1 ++ waiting
      rw [h.put, hwaiting, List.take_succ_cons, List.take_zero, List.append_assoc,
        List.singleton_append]
    · exact htidy
    · rw [List.length_set, h.workers]
    · intro worker hmem
      rcases Slots.mem_set hmem with rfl | hmem
      · exact nofun
      · exact h.alive worker hmem
    · exact h.recovery
  | processed i steps =>
    obtain ⟨T, hT, rfl⟩ := Option.map_eq_some_iff.1 hstep
    have htidy := h.tidy.processed hT
    rw [(ProcessSteps.process_eq_ok_iff steps).2 hsound] at hT
    obtain ⟨internalId, hworker, rfl⟩ := RelayTasks.processed_eq_some.1 hT
    constructor
    · exact h.put
    · exact htidy
    · rw [List.length_set, h.workers]
    · intro worker hmem
      rcases Slots.mem_set hmem with rfl | hmem
      · exact nofun
      · exact h.alive worker hmem
    · exact h.recovery
  | recover pass =>
    obtain ⟨⟨count, hbackfill⟩, rows, hrecoverable⟩ := hsound
    have hrows : pass.rows = .ok rows := by
      rw [RecoveryPass.rows, hbackfill]
      exact hrecoverable
    simp only [queueStep, hrows, Option.ite_none_right_eq_some] at hstep
    obtain rfl := Option.some.inj hstep.2
    exact h.withQueue (extends_enqueueAll _ rows)

theorem lossless_of_reachableUnder (h : (queueSystem cfg n).ReachableUnder Sound w) :
    Lossless n w := by
  refine h.invariant ?_ fun s a t hs hsound hstep => hs.step hsound hstep
  rintro s ⟨rows, recovery, hrecovery, rfl⟩
  exact lossless_started cfg n rows hrecovery

/-! ## The workers empty the queue -/

/-- The steps of the workers. -/
def OfWorker : QueueAction → Prop
  | .get _ | .processed _ _ => True
  | .enqueue _ | .recover _ => False

/-- The steps the workers have before them: two for a waiting row, one for a row in
process. -/
def work (w : QueueWorld) : Nat := 2 * w.tasks.queue.waiting.length + w.tasks.processing.length

/-- A step of a worker leaves less to do, and puts nothing in the queue. -/
theorem work_lt {a : QueueAction} (ha : OfWorker a) (hstep : queueStep cfg w a = some w') :
    work w' < work w ∧ w'.put = w.put := by
  cases a with
  | enqueue internalId => exact absurd ha id
  | recover pass => exact absurd ha id
  | get i =>
    obtain ⟨T, hT, rfl⟩ := Option.map_eq_some_iff.1 hstep
    obtain ⟨internalId, waiting, hworker, hwaiting, rfl⟩ := RelayTasks.get_eq_some.1 hT
    have hlen := (Slots.held_set_take (f := Worker.row?) (t := .processing internalId)
      hworker rfl rfl).length_eq
    refine ⟨?_, rfl⟩
    unfold work RelayTasks.processing
    rw [hlen, hwaiting, List.length_cons, List.length_cons]
    show 2 * waiting.length + _ < _
    omega
  | processed i steps =>
    obtain ⟨T, hT, rfl⟩ := Option.map_eq_some_iff.1 hstep
    obtain ⟨internalId, hworker, rfl⟩ := RelayTasks.processed_eq_some.1 hT
    have hlen := (Slots.held_set_release (f := Worker.row?) hworker rfl
      (Worker.row?_after steps.process)).length_eq
    rw [List.length_cons] at hlen
    refine ⟨?_, rfl⟩
    show 2 * w.tasks.queue.waiting.length + (Slots.held Worker.row?
      (w.tasks.workers.set i (.after steps.process))).length < 2 * _ + (Slots.held _ _).length
    omega

/-- The workers cannot take a step. -/
def Stuck (cfg : TelegramRelayConfig) (w : QueueWorld) : Prop :=
  ∀ a, OfWorker a → Sound w a → queueStep cfg w a = none

/-- A call of the processor which returns at once. -/
def ProcessSteps.returning : ProcessSteps where
  claim := .ok none
  link _ := .ok ()
  fail _ := .ok ()
  complete := .ok ()

theorem ProcessSteps.contained_returning : ProcessSteps.returning.Contained :=
  ⟨none, rfl, by rintro links ⟨⟩⟩

/-- **Where no worker can take a step, nothing is waiting and nothing is in process.** -/
theorem Lossless.drained (h : Lossless n w) (hn : 0 < n) (hstuck : Stuck cfg w) :
    w.tasks.queue.waiting = [] ∧ w.tasks.processing = [] := by
  have hprocessing : ∀ worker ∈ w.tasks.workers, Worker.row? worker = none := by
    intro worker hmem
    obtain ⟨i, hi, hworker⟩ := List.getElem_of_mem hmem
    cases worker with
    | waiting => rfl
    | dead => rfl
    | processing internalId =>
      have hstep := hstuck (.processed i .returning) trivial ProcessSteps.contained_returning
      have hi' : w.tasks.workers[i]? = some (.processing internalId) := by
        rw [List.getElem?_eq_getElem hi, hworker]
      have hsome : w.tasks.processed i ProcessSteps.returning.process = some _ :=
        RelayTasks.processed_eq_some.2 ⟨internalId, hi', rfl⟩
      rw [queueStep, hsome] at hstep
      cases hstep
  refine ⟨?_, List.filterMap_eq_nil_iff.2 hprocessing⟩
  have hlen : 0 < w.tasks.workers.length := by rw [h.workers]; exact hn
  cases hwaiting : w.tasks.queue.waiting with
  | nil => rfl
  | cons internalId waiting =>
    -- The first worker is alive and processes nothing, so it could take the first row.
    have hmem : w.tasks.workers[0] ∈ w.tasks.workers := List.getElem_mem hlen
    have hworker : w.tasks.workers[0]? = some .waiting := by
      rw [List.getElem?_eq_getElem hlen]
      have hnone := hprocessing _ hmem
      have halive := h.alive _ hmem
      revert hnone halive
      cases w.tasks.workers[0] <;> simp [Worker.row?]
    have hstep := hstuck (.get 0) trivial trivial
    have hsome := RelayTasks.get_eq_some.2 ⟨internalId, waiting, hworker, hwaiting, rfl⟩
    rw [queueStep, hsome] at hstep
    cases hstep

/-- A schedule of the workers is no longer than the work there is, loses nothing, and
puts nothing in the queue. -/
theorem Lossless.replay {as : List QueueAction} (h : Lossless n w)
    (has : ∀ a ∈ as, OfWorker a ∧ ∀ v, Sound v a)
    (hreplay : (queueSystem cfg n).replay w as = some w') :
    Lossless n w' ∧ as.length + work w' ≤ work w ∧ w'.put = w.put := by
  induction as generalizing w with
  | nil =>
    rw [TransitionSystem.replay_nil, Option.some.injEq] at hreplay
    subst hreplay
    exact ⟨h, by simp, rfl⟩
  | cons a as ih =>
    rw [TransitionSystem.replay_cons, Option.bind_eq_some_iff] at hreplay
    obtain ⟨v, hv, hreplay⟩ := hreplay
    obtain ⟨hworker, hsound⟩ := has a List.mem_cons_self
    obtain ⟨hlt, hput⟩ := work_lt hworker hv
    obtain ⟨hlossless, hlen, hput'⟩ := ih (h.step (hsound w) hv)
      (fun b hb => has b (List.mem_cons_of_mem _ hb)) hreplay
    refine ⟨hlossless, ?_, hput'.trans hput⟩
    rw [List.length_cons]
    omega

/-- **No queued message is lost.**  In every run in which no exception escapes a call of
the processor or a pass of the recovery loop: every row put in the queue was handed to
the processor once, in order, or is waiting; `_enqueued` is the rows waiting and in
process, and no row waits twice; every worker and the recovery loop are alive.  With
any worker at all, whatever the workers do next comes to an end after so many steps,
and has by then handed over every row that was put in the queue. -/
theorem no_queued_message_lost (h : (queueSystem cfg n).ReachableUnder Sound w) :
    w.put = w.handed ++ w.tasks.queue.waiting ∧
      (∀ i, i ∈ w.tasks.queue.enqueued ↔ i ∈ w.tasks.queue.waiting ∨ i ∈ w.tasks.processing) ∧
      w.tasks.queue.waiting.Nodup ∧
      (w.tasks.workers.length = n ∧ ∀ worker ∈ w.tasks.workers, worker ≠ .dead) ∧
      w.recovery ≠ .dead ∧
      ∀ as t, (∀ a ∈ as, OfWorker a ∧ ∀ v, Sound v a) →
        (queueSystem cfg n).replay w as = some t →
        as.length ≤ work w ∧ (0 < n → Stuck cfg t → t.handed = w.put) := by
  have hlossless := lossless_of_reachableUnder h
  refine ⟨hlossless.put, fun i => hlossless.tidy.mem_iff, hlossless.tidy.nodup_waiting,
    ⟨hlossless.workers, hlossless.alive⟩, hlossless.recovery, ?_⟩
  intro as t has hreplay
  obtain ⟨ht, hlen, hput⟩ := hlossless.replay has hreplay
  refine ⟨by omega, fun hn hstuck => ?_⟩
  have hdrained := (ht.drained hn hstuck).1
  rw [← hput, ht.put, hdrained, List.append_nil]

/-- Two rows are put in the queue, and the one worker handles both. -/
def handlesBoth : List QueueAction :=
  [.enqueue 1, .enqueue 2, .get 0, .processed 0 .returning, .recover ⟨.ok 0, .ok [2]⟩, .get 0]

theorem no_queued_message_lost_handlesBoth :
    let w := (queueSystem .default 1).endOf (started .default 1 [] .running) handlesBoth
    w.put = [1, 2] ∧ w.handed = [1, 2] ∧ w.put = w.handed ++ w.tasks.queue.waiting := by
  have hgood : ∀ a ∈ handlesBoth, ∀ s, Sound s a := by
    intro a ha s
    simp only [handlesBoth, List.mem_cons, List.not_mem_nil, or_false] at ha
    rcases ha with rfl | rfl | rfl | rfl | rfl | rfl
    · trivial
    · trivial
    · trivial
    · exact ProcessSteps.contained_returning
    · exact ⟨⟨0, rfl⟩, [2], rfl⟩
    · trivial
  have hrun := TransitionSystem.runUnder_of_replay hgood
    (TransitionSystem.replay_endOf (T := queueSystem .default 1)
      (started .default 1 [] .running) handlesBoth (by decide))
  have hlossless := no_queued_message_lost ⟨_, ⟨[], .running, nofun, rfl⟩, hrun⟩
  exact ⟨by decide, by decide, hlossless.1⟩

/-! ## An exception which escapes -/

/-- **The condition is exact, call by call**: a worker outlives the calls which are
contained, and no others. -/
theorem outlives_iff {i : Nat} {steps : ProcessSteps}
    (hstep : queueStep cfg w (.processed i steps) = some w') :
    w'.tasks.workers[i]? = some .waiting ↔ steps.Contained := by
  obtain ⟨T, hT, rfl⟩ := Option.map_eq_some_iff.1 hstep
  obtain ⟨internalId, hworker, rfl⟩ := RelayTasks.processed_eq_some.1 hT
  have hi := (List.getElem?_eq_some_iff.1 hworker).1
  show (w.tasks.workers.set i (.after steps.process))[i]? = some .waiting ↔ _
  rw [List.getElem?_set_self hi, Option.some.injEq, ← ProcessSteps.process_eq_ok_iff]
  cases steps.process with
  | ok => exact ⟨fun _ => rfl, fun _ => rfl⟩
  | error e => exact ⟨nofun, nofun⟩

/-- A call of the processor whose claim meets a locked database. -/
def ProcessSteps.locked : ProcessSteps :=
  { ProcessSteps.returning with claim := .error "database is locked" }

/-- The one worker of a queue with two rows gets the first of them, and its claim meets a
locked database. -/
def meetsLock : List QueueAction := [.enqueue 1, .enqueue 2, .get 0, .processed 0 .locked]

/-- The only worker is dead, and what it was handed is what will ever be. -/
def Halted (handed : List Nat) (w : QueueWorld) : Prop :=
  w.tasks.workers = [.dead] ∧ w.handed = handed

theorem Halted.step {handed : List Nat} {a : QueueAction} (h : Halted handed w)
    (hstep : queueStep cfg w a = some w') : Halted handed w' := by
  obtain ⟨hworkers, hhanded⟩ := h
  have hdead : ∀ (i : Nat) (worker : Worker), w.tasks.workers[i]? = some worker → worker = Worker.dead := by
    intro i worker hi
    have hmem := List.mem_of_getElem? hi
    rw [hworkers, List.mem_singleton] at hmem
    exact hmem
  cases a with
  | enqueue internalId =>
    obtain rfl := Option.some.inj hstep
    exact ⟨hworkers, hhanded⟩
  | get i =>
    obtain ⟨T, hT, rfl⟩ := Option.map_eq_some_iff.1 hstep
    obtain ⟨internalId, waiting, hworker, -, rfl⟩ := RelayTasks.get_eq_some.1 hT
    exact absurd (hdead i _ hworker) nofun
  | processed i steps =>
    obtain ⟨T, hT, rfl⟩ := Option.map_eq_some_iff.1 hstep
    obtain ⟨internalId, hworker, rfl⟩ := RelayTasks.processed_eq_some.1 hT
    exact absurd (hdead i _ hworker) nofun
  | recover pass =>
    unfold queueStep at hstep
    rw [Option.ite_none_right_eq_some] at hstep
    have hstep' := hstep.2
    split at hstep'
    · obtain rfl := Option.some.inj hstep'
      exact ⟨hworkers, hhanded⟩
    · obtain rfl := Option.some.inj hstep'
      exact ⟨hworkers, hhanded⟩

/-- **A queued message can be lost.**  After one escaped exception the second row waits,
and no later step, of whatever task, hands it over or has a worker alive. -/
theorem queued_message_lost :
    ∃ w, (queueSystem .default 1).Reachable w ∧ w.put = [1, 2] ∧ w.handed = [1] ∧
      w.tasks.queue.waiting = [2] ∧ ∀ t, (queueSystem .default 1).Run w t →
        t.handed = [1] ∧ ∀ worker ∈ t.tasks.workers, worker = .dead := by
  have hreplay := TransitionSystem.replay_endOf (T := queueSystem .default 1)
    (started .default 1 [] .running) meetsLock (by decide)
  refine ⟨_, ⟨_, ⟨[], .running, nofun, rfl⟩, TransitionSystem.run_of_replay hreplay⟩,
    by decide, by decide, by decide, ?_⟩
  intro t hrun
  have hhalted : Halted [1] t := hrun.invariant ⟨by decide, by decide⟩
    fun s a t hs _ hstep => hs.step hstep
  refine ⟨hhalted.2, fun worker hmem => ?_⟩
  rw [hhalted.1, List.mem_singleton] at hmem
  exact hmem

end Relay
end PromoBot
