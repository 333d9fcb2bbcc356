import PromoBot.Lib.TransitionSystem
import PromoBot.Relay.Queue

/-!
# Processors and recovery on one table

`RelayProcessor.process` (`relay/service.py`), run by any number of processors
against one `source_messages` table, with `recover_once` in between.  A
processor claims its row, then for every link renews the lease and processes the
link, and at the end completes the row or, after the first error, fails it.  All
of these are transactions of their own, so any other step may come between two
of them, and a processor may crash at every point.

Every step reads the clock before its transaction, so the time it works with is
at most the time of the world.  `_process_link` writes other tables only; what
matters here is how it ends, which the schedule decides.
-/

namespace PromoBot
namespace Relay

open SqlTable SourceMessageRepository

/-! ## One processor -/

/-- What a processor knows of its claim: the row, the attempt, and the lease it
wrote last. -/
structure Held where
  internalId : Nat
  attempt : Nat
  lease : Instant
  deriving DecidableEq, Repr

/-- An exception out of the link loop. -/
inductive LinkError
  /-- `RelayProcessingError`. -/
  | processing (code : String) (retryable : Bool) (summary : Option Text)
  /-- Any other exception. -/
  | unexpected
  deriving DecidableEq

/-- Where a call of `process` stands. -/
inductive Processor
  /-- Not begun. -/
  | idle
  /-- The claim took no row. -/
  | skipped
  /-- Before the next link, or, with no link left, before `complete`. -/
  | linking (h : Held) (rest : List ExtractedLink)
  /-- The lease is renewed and `_process_link` is running. -/
  | inLink (h : Held) (rest : List ExtractedLink)
  /-- Before `fail`. -/
  | failing (h : Held) (e : LinkError)
  /-- Returned after `complete`. -/
  | completed (h : Held)
  /-- Returned after `fail`. -/
  | failed (h : Held)
  /-- Dead. -/
  | crashed
  deriving DecidableEq

namespace Processor

/-- The claim of a processor which has not crashed. -/
def held? : Processor → Option Held
  | linking h _ | inLink h _ | failing h _ | completed h | failed h => some h
  | idle | skipped | crashed => none

/-- The claim of a processor which has not ended. -/
def working? : Processor → Option Held
  | linking h _ | inLink h _ | failing h _ => some h
  | idle | skipped | completed _ | failed _ | crashed => none

end Processor

/-- The failure `process` reports for an exception caught at `now`. -/
def failureOf (cfg : TelegramRelayConfig) (h : Held) (now : Instant) (jitter : Int) :
    LinkError → Failure
  | .processing code retryable summary =>
    ⟨retryable, if retryable then some (cfg.nextAttemptAt now h.attempt jitter) else none,
      code, summary⟩
  | .unexpected =>
    ⟨true, some (cfg.nextAttemptAt now h.attempt jitter), "UNEXPECTED_PROCESSING_ERROR", none⟩

/-! ## The system -/

/-- The clock, the table, and the processors. -/
structure World where
  clock : Instant
  rows : SourceMessages
  processors : Nat → Processor

/-- What can happen next. -/
inductive Action
  /-- Time passes. -/
  | tick (now : Instant)
  /-- Processor `p` runs the claim of `process(internal_id)`. -/
  | begin' (p internalId : Nat) (now : Instant)
  /-- Processor `p` renews its lease for the next link. -/
  | renew (p : Nat) (now : Instant)
  /-- `_process_link` ends for processor `p`: normally, or with an exception. -/
  | linkEnds (p : Nat) (outcome : Option LinkError)
  /-- Processor `p` runs `fail`. -/
  | fail (p : Nat) (now : Instant) (jitter : Int)
  /-- Processor `p` runs `complete`. -/
  | complete (p : Nat) (now : Instant)
  /-- `recover_once`, with whatever waits in memory. -/
  | recover (queue : RelayQueue) (now : Instant)
  /-- The process of `p` dies. -/
  | crash (p : Nat)
  deriving DecidableEq

/-- The world after processor `p` moved on to `c` and left the table `t`. -/
def World.after (w : World) (p : Nat) (t : SourceMessages) (c : Processor) : World :=
  { w with rows := t, processors := Function.update w.processors p c }

@[simp] theorem World.after_rows (w : World) (p : Nat) (t : SourceMessages) (c : Processor) :
    (w.after p t c).rows = t := rfl

@[simp] theorem World.after_clock (w : World) (p : Nat) (t : SourceMessages) (c : Processor) :
    (w.after p t c).clock = w.clock := rfl

@[simp] theorem World.after_processors (w : World) (p : Nat) (t : SourceMessages)
    (c : Processor) : (w.after p t c).processors = Function.update w.processors p c := rfl

def step (cfg : TelegramRelayConfig) (w : World) : Action → Option World
  | .tick now => if w.clock ≤ now then some { w with clock := now } else none
  | .begin' p i now =>
    if now ≤ w.clock ∧ w.processors p = .idle then
      match claim w.rows i now (cfg.leaseUntil now) cfg.processingMaxAttempts with
      | some t =>
        (t.get? i).map fun r =>
          w.after p t (.linking ⟨i, r.attemptCount, cfg.leaseUntil now⟩ r.links)
      | none => some (w.after p w.rows .skipped)
    else none
  | .renew p now =>
    match w.processors p with
    | .linking h (_ :: rest) =>
      if now ≤ w.clock then
        some (w.after p (renewLease w.rows h.internalId (cfg.leaseUntil now))
          (.inLink { h with lease := cfg.leaseUntil now } rest))
      else none
    | _ => none
  | .linkEnds p outcome =>
    match w.processors p with
    | .inLink h rest =>
      match outcome with
      | none => some (w.after p w.rows (.linking h rest))
      | some e => some (w.after p w.rows (.failing h e))
    | _ => none
  | .fail p now jitter =>
    match w.processors p with
    | .failing h e =>
      if now ≤ w.clock then
        (SourceMessageRepository.fail w.rows h.internalId cfg.processingMaxAttempts
          (failureOf cfg h now jitter e)).map fun t => w.after p t (.failed h)
      else none
    | _ => none
  | .complete p now =>
    match w.processors p with
    | .linking h [] =>
      if now ≤ w.clock then
        some (w.after p (SourceMessageRepository.complete w.rows h.internalId now)
          (.completed h))
      else none
    | _ => none
  | .recover queue now =>
    if now ≤ w.clock then
      some { w with rows := (DurableRelayQueue.recoverOnce cfg w.rows queue now).1 }
    else none
  | .crash p => (w.processors p).working?.map fun _ => w.after p w.rows .crashed

/-- Processors and recovery, from any table on. -/
def system (cfg : TelegramRelayConfig) : TransitionSystem World Action where
  init w := ∀ p, w.processors p = .idle
  step := step cfg

end Relay
end PromoBot
