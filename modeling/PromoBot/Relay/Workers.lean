import PromoBot.Lib.Fallible
import PromoBot.Lib.Slots
import PromoBot.Relay.Processor

/-!
# The workers of the relay queue

`DurableRelayQueue._worker` and `_recovery_loop` (`relay/queue.py`): tasks on one
event loop, any number of workers and at most one recovery loop.  A worker waits in
`queue.get()`, has its processor process the row it got, and then, whichever way
the processor ended, takes the row out of `_enqueued` and goes on.  An exception
which leaves the processor leaves the worker as well: the `finally` clause lets it
through, and nobody starts the task again.  The recovery loop has no handler at
all.

Between two `await`s nothing else runs, so a step below is what a task does from one
to the next: `_enqueue` of a row for which there is room is one step, and so is the
loop of `recover_once` after its transaction.

`RelayProcessor.process` guards its link loop only.  `process` says how a call ends
in terms of how its database steps do, and `Contained` which calls return.
-/

namespace PromoBot

/-! ## The tasks -/

/-- A task that runs `_worker`. -/
inductive Worker
  /-- In `queue.get()`. -/
  | waiting
  /-- In `processor.process(internal_id)`. -/
  | processing (internalId : Nat)
  /-- Ended with an exception. -/
  | dead
  deriving DecidableEq, Repr

/-- The row a worker is processing. -/
def Worker.row? : Worker → Option Nat
  | processing internalId => some internalId
  | waiting | dead => none

/-- A worker after its call of the processor: it waits again, or ends with the
exception that is on its way out. -/
def Worker.after : Except String Unit → Worker
  | .ok () => waiting
  | .error _ => dead

@[simp] theorem Worker.row?_after (ends : Except String Unit) : (Worker.after ends).row? = none := by
  cases ends <;> rfl

/-- The queue with its workers. -/
structure RelayTasks where
  queue : RelayQueue
  workers : List Worker
  deriving DecidableEq, Repr

namespace RelayTasks

/-- The rows which are being processed. -/
def processing (T : RelayTasks) : List Nat := Slots.held Worker.row? T.workers

/-- `await self.queue.get()` returns for the worker at a place. -/
def get (T : RelayTasks) (i : Nat) : Option RelayTasks :=
  match T.workers[i]?, T.queue.waiting with
  | some .waiting, internalId :: waiting =>
    some { queue := { T.queue with waiting := waiting }
           workers := T.workers.set i (.processing internalId) }
  | _, _ => none

/-- `process` ends for the worker at a place: the `finally` clause. -/
def processed (T : RelayTasks) (i : Nat) (ends : Except String Unit) : Option RelayTasks :=
  match T.workers[i]? with
  | some (.processing internalId) =>
    some { queue := { T.queue with enqueued := T.queue.enqueued.erase internalId }
           workers := T.workers.set i (.after ends) }
  | _ => none

/-- `_enqueued` is the rows in the queue and those being processed, each once. -/
def Tidy (T : RelayTasks) : Prop := Marked T.queue.enqueued T.queue.waiting T.processing

/-! ## What the steps of the tasks do -/

section Steps

variable {cfg : TelegramRelayConfig} {T T' : RelayTasks} {i internalId : Nat}
  {ends : Except String Unit}

theorem get_eq_some : T.get i = some T' ↔
    ∃ internalId waiting, T.workers[i]? = some .waiting ∧
      T.queue.waiting = internalId :: waiting ∧
      T' = { queue := { T.queue with waiting := waiting }
             workers := T.workers.set i (.processing internalId) } := by
  unfold get
  constructor
  · intro h
    split at h
    · next internalId waiting hworker hwaiting =>
      exact ⟨internalId, waiting, hworker, hwaiting, (Option.some.inj h).symm⟩
    · cases h
  · rintro ⟨internalId, waiting, hworker, hwaiting, rfl⟩
    rw [hworker, hwaiting]

theorem processed_eq_some : T.processed i ends = some T' ↔
    ∃ internalId, T.workers[i]? = some (.processing internalId) ∧
      T' = { queue := { T.queue with enqueued := T.queue.enqueued.erase internalId }
             workers := T.workers.set i (.after ends) } := by
  unfold processed
  constructor
  · intro h
    split at h
    · next internalId hworker => exact ⟨internalId, hworker, (Option.some.inj h).symm⟩
    · cases h
  · rintro ⟨internalId, hworker, rfl⟩
    rw [hworker]

theorem held_replicate (n : Nat) : Slots.held Worker.row? (List.replicate n .waiting) = [] := by
  refine List.filterMap_eq_nil_iff.2 fun worker hmem => ?_
  rw [List.eq_of_mem_replicate hmem]
  rfl

theorem tidy_started (n : Nat) : Tidy ⟨⟨[], []⟩, List.replicate n .waiting⟩ := by
  show Marked [] [] (Slots.held Worker.row? (List.replicate n .waiting))
  rw [held_replicate]
  exact Marked.empty

theorem Tidy.get (hT : T.Tidy) (h : T.get i = some T') : T'.Tidy := by
  obtain ⟨internalId, waiting, hworker, hwaiting, rfl⟩ := get_eq_some.1 h
  unfold Tidy at hT
  rw [hwaiting] at hT
  exact hT.take (Slots.held_set_take hworker rfl rfl)

theorem Tidy.processed (hT : T.Tidy) (h : T.processed i ends = some T') : T'.Tidy := by
  obtain ⟨internalId, hworker, rfl⟩ := processed_eq_some.1 h
  exact hT.release (Slots.held_set_release hworker rfl (Worker.row?_after ends))

end Steps

end RelayTasks

namespace DurableRelayQueue

/-! ## What `_enqueue` does -/

variable {cfg : TelegramRelayConfig} {q : RelayQueue} {held : List Nat}

/-- `_enqueue` leaves the queue alone, or puts a row in it which has no mark. -/
theorem enqueue_cases (cfg : TelegramRelayConfig) (q : RelayQueue) (internalId : Nat) :
    (enqueue cfg q internalId).1 = q ∨
      internalId ∉ q.enqueued ∧
        (enqueue cfg q internalId).1 = ⟨q.waiting ++ [internalId], internalId :: q.enqueued⟩ := by
  unfold enqueue
  split
  · exact Or.inl rfl
  · next hmem =>
    split
    · exact Or.inl rfl
    · exact Or.inr ⟨hmem, rfl⟩

/-- The rows which an operation on the queue put in it. -/
def newlyPut (q q' : RelayQueue) : List Nat := q'.waiting.drop q.waiting.length

/-- A queue to which nothing but new rows was added. -/
structure Extends (held : List Nat) (q q' : RelayQueue) : Prop where
  waiting : q'.waiting = q.waiting ++ newlyPut q q'
  tidy : Marked q.enqueued q.waiting held → Marked q'.enqueued q'.waiting held

theorem Extends.refl (held : List Nat) (q : RelayQueue) : Extends held q q where
  waiting := by rw [newlyPut, List.drop_length, List.append_nil]
  tidy := id

theorem Extends.trans {q₁ q₂ q₃ : RelayQueue} (h : Extends held q₁ q₂) (h' : Extends held q₂ q₃) :
    Extends held q₁ q₃ where
  waiting := by
    have hwaiting : q₃.waiting = q₁.waiting ++ (newlyPut q₁ q₂ ++ newlyPut q₂ q₃) := by
      rw [h'.waiting, ← List.append_assoc, ← h.waiting]
    have hput : newlyPut q₁ q₃ = newlyPut q₁ q₂ ++ newlyPut q₂ q₃ := by
      conv_lhs => rw [newlyPut, hwaiting]
      exact List.drop_left
    rw [hput]
    exact hwaiting
  tidy := fun hq => h'.tidy (h.tidy hq)

theorem extends_enqueue (held : List Nat) (internalId : Nat) :
    Extends held q (enqueue cfg q internalId).1 := by
  rcases enqueue_cases cfg q internalId with h | ⟨hmem, h⟩
  · rw [h]
    exact Extends.refl held q
  · rw [h]
    constructor
    · rw [newlyPut, List.drop_left]
    · exact fun hq => hq.put hmem

theorem extends_enqueueAll (held : List Nat) (rows : List Nat) :
    Extends held q (enqueueAll cfg q rows).1 := by
  induction rows generalizing q with
  | nil => exact Extends.refl held q
  | cons internalId rows ih =>
    have hfirst : Extends held q (enqueue cfg q internalId).1 := extends_enqueue held internalId
    unfold enqueueAll
    generalize hq : enqueue cfg q internalId = r at hfirst
    obtain ⟨q', room⟩ := r
    cases room with
    | true => exact hfirst.trans ih
    | false => exact hfirst

end DurableRelayQueue

/-! ## The processor -/

namespace Relay

/-- How the steps of one call of `process` end.  An exception which is no cancellation
is given by its text. -/
structure ProcessSteps where
  /-- The session of the claim; `none` when no row was claimed. -/
  claim : Except String (Option (List ExtractedLink))
  /-- Renewing the lease and `_process_link`, for the link at a place. -/
  link : Nat → Except LinkError Unit
  /-- The session that fails the row. -/
  fail : LinkError → Except String Unit
  /-- The session that completes the row. -/
  complete : Except String Unit

namespace ProcessSteps

/-- The loop over the links. -/
def loop (s : ProcessSteps) (links : List ExtractedLink) : Except LinkError Unit :=
  (List.range links.length).forM s.link

/-- `process`. -/
def process (s : ProcessSteps) : Except String Unit := do
  match ← s.claim with
  | none => return ()
  | some links =>
    match s.loop links with
    | .ok () => s.complete
    | .error e => s.fail e

/-- The steps outside the link loop which the call takes do not raise. -/
def Contained (s : ProcessSteps) : Prop :=
  ∃ claimed, s.claim = .ok claimed ∧ ∀ links ∈ claimed,
    match s.loop links with
    | .ok () => s.complete = .ok ()
    | .error e => s.fail e = .ok ()

/-- **Which calls of `process` return.** -/
theorem process_eq_ok_iff (s : ProcessSteps) : s.process = .ok () ↔ s.Contained := by
  unfold process Contained
  rw [Fallible.bind_eq_ok]
  constructor
  · rintro ⟨claimed, hclaim, h⟩
    refine ⟨claimed, hclaim, ?_⟩
    rintro links rfl
    dsimp only at h
    split at h
    · exact h
    · exact h
  · rintro ⟨claimed, hclaim, h⟩
    refine ⟨claimed, hclaim, ?_⟩
    cases claimed with
    | none => rfl
    | some links =>
      have hlinks := h links rfl
      dsimp only
      split
      · next hloop => rwa [hloop] at hlinks
      · next e hloop => rwa [hloop] at hlinks

end ProcessSteps

end Relay

end PromoBot
