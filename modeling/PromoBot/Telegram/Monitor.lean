import PromoBot.Relay.Catchup
import PromoBot.Relay.Processor

/-!
# The start-up of the Telegram monitor

`TelegramMonitor.run` (`telegram/monitor.py`) from the resolved channels to the
end of the bridge: catch up channel by channel, register the `NewMessage`
handler, and then bridge the gap channel by channel.  Around it new messages are
posted, the handler persists live ones as soon as it is registered, and the
workers and the recovery of the relay run on the same tables.

`_catch_up` and `_bridge_gap` are one loop run in two passes; the first also
records its outcome in the checkpoint of the channel.  A channel costs one read
of its checkpoint, one scan (retried on connection errors), and one transaction
per selected message.

What the scans saw is kept in a log (`fetches`), which no step reads.
-/

namespace PromoBot
namespace Telegram

open Relay DurableRelayQueue TelegramCheckpointRepository

/-- What a run is started with.  `hashes` are the content hashes of a message. -/
structure Monitor where
  config : TelegramRelayConfig
  hashes : ContentHashes
  /-- The resolved ids of `source_channels`. -/
  channels : List Text

/-- The channels the two passes go through: none without `catch_up_on_start`. -/
def Monitor.scanned (M : Monitor) : List Text :=
  if M.config.catchUpOnStart then M.channels else []

/-! ## Where a run stands -/

/-- The two passes over the channels. -/
inductive Pass
  /-- `_catch_up`. -/
  | catchUp
  /-- `_bridge_gap`. -/
  | bridge
  deriving DecidableEq, Repr

/-- The program counter of `run`. -/
inductive Phase
  /-- Before the next channel of the pass, or, with none left, before its end. -/
  | next (pass : Pass) (rest : List Text)
  /-- The checkpoint of the channel is read and `_fetch_recent` is running. -/
  | fetching (pass : Pass) (channelId : Text) (rest : List Text) (checkpointId : Option Nat)
      (attempt : Nat)
  /-- The selected messages which are still to be persisted. -/
  | persisting (pass : Pass) (channelId : Text) (rest : List Text)
      (messages : List IncomingMessage)
  /-- The bridge has ended. -/
  | listening
  /-- Left by an exception. -/
  | failed
  deriving DecidableEq

/-- A scan of a channel: the messages posted when it was made, oldest first, and the
time the selection was made at. -/
structure Fetch where
  channelId : Text
  posted : List IncomingMessage
  now : Instant
  deriving DecidableEq

/-- The channels, the tables and the run. -/
structure MonitorWorld where
  /-- The messages of each channel, oldest first. -/
  posts : Text → List IncomingMessage
  /-- The clock, the `source_messages` table and its processors. -/
  relay : World
  checkpoints : TelegramCheckpoints
  queue : RelayQueue
  /-- `has_shadow_preview_or_terminal_delivery`, of the tables the workers write. -/
  hasHistory : Nat → Bool
  phase : Phase
  /-- `_handle_new_message` is registered. -/
  registered : Bool
  fetches : List Fetch

/-! ## The steps -/

/-- The newest messages of a channel, as `iter_messages` lists them. -/
def newestFirst (cfg : TelegramRelayConfig) (posted : List IncomingMessage) :
    List IncomingMessage :=
  posted.reverse.take cfg.catchUpMaxMessagesPerChannel

/-- `_fetch_recent`, when its scan succeeds. -/
def fetchRecent (cfg : TelegramRelayConfig) (posted : List IncomingMessage) (now : Instant)
    (checkpointId : Option Nat) : List IncomingMessage :=
  selectCatchUpMessages (newestFirst cfg posted) now cfg.catchUpLookbackHours
    cfg.catchUpMaxMessagesPerChannel checkpointId

/-- `relay.persist(message)`. -/
def MonitorWorld.persist (M : Monitor) (w : MonitorWorld) (m : IncomingMessage) : MonitorWorld :=
  let after :=
    DurableRelayQueue.persist M.config M.hashes w.hasHistory w.relay.rows w.checkpoints w.queue m
  { w with
    relay := { w.relay with rows := after.1 }
    checkpoints := after.2.1
    queue := after.2.2 }

/-- What can happen next. -/
inductive MonitorAction
  /-- A message is posted; a channel numbers its messages upwards. -/
  | post (m : IncomingMessage)
  /-- Time passes, or a processor or the recovery of the relay takes a step. -/
  | relay (act : Relay.Action)
  /-- The workers take rows out of the queue, or write their other tables. -/
  | work (queue : RelayQueue) (hasHistory : Nat → Bool)
  /-- `_handle_new_message` persists a posted message. -/
  | live (m : IncomingMessage)
  /-- The checkpoint of the next channel is read. -/
  | read
  /-- The scan of the channel succeeds, and the selection is made at `now`. -/
  | fetch (now : Instant)
  /-- The scan fails with an error which is retried. -/
  | retry
  /-- The next selected message is persisted. -/
  | persistNext
  /-- The channel is done. -/
  | finishChannel
  /-- `add_event_handler`, between the passes. -/
  | register
  /-- `_bridge_gap` returns. -/
  | finish
  /-- An exception leaves the pass. -/
  | fails

def step (M : Monitor) (w : MonitorWorld) : MonitorAction → Option MonitorWorld
  | .post m =>
    if ∀ m' ∈ w.posts m.channelId, m'.messageId < m.messageId then
      some { w with
        posts := Function.update w.posts m.channelId (w.posts m.channelId ++ [m]) }
    else none
  | .relay act => (Relay.step M.config w.relay act).map fun r => { w with relay := r }
  | .work queue hasHistory => some { w with queue := queue, hasHistory := hasHistory }
  | .live m =>
    if w.registered = true ∧ m.channelId ∈ M.channels ∧ m ∈ w.posts m.channelId then
      some (w.persist M m)
    else none
  | .read =>
    match w.phase with
    | .next pass (c :: rest) =>
      some { w with phase := .fetching pass c rest (checkpointId w.checkpoints c) 1 }
    | _ => none
  | .fetch now =>
    match w.phase with
    | .fetching pass c rest checkpointId _ =>
      if w.relay.clock ≤ now then
        some { w with
          phase := .persisting pass c rest (fetchRecent M.config (w.posts c) now checkpointId)
          fetches := ⟨c, w.posts c, now⟩ :: w.fetches }
      else none
    | _ => none
  | .retry =>
    match w.phase with
    | .fetching pass c rest checkpointId attempt =>
      if attempt < M.config.processingMaxAttempts then
        some { w with phase := .fetching pass c rest checkpointId (attempt + 1) }
      else none
    | _ => none
  | .persistNext =>
    match w.phase with
    | .persisting pass c rest (m :: messages) =>
      some { w.persist M m with phase := .persisting pass c rest messages }
    | _ => none
  | .finishChannel =>
    match w.phase with
    | .persisting .catchUp c rest [] =>
      some { w with
        phase := .next .catchUp rest
        checkpoints := markCatchUpComplete w.checkpoints c w.relay.clock }
    | .persisting .bridge _ rest [] => some { w with phase := .next .bridge rest }
    | _ => none
  | .register =>
    match w.phase with
    | .next .catchUp [] =>
      some { w with phase := .next .bridge M.scanned, registered := true }
    | _ => none
  | .finish =>
    match w.phase with
    | .next .bridge [] => some { w with phase := .listening }
    | _ => none
  | .fails =>
    match w.phase with
    | .next .catchUp (c :: _) | .fetching .catchUp c _ _ _ | .persisting .catchUp c _ _ =>
      some { w with
        phase := .failed
        checkpoints := recordFailure w.checkpoints c "CATCH_UP_FAILED" }
    | .next .bridge (_ :: _) | .fetching .bridge _ _ _ _ | .persisting .bridge _ _ _ =>
      some { w with phase := .failed }
    | _ => none

/-- A channel lists its own messages, with ascending ids. -/
structure ChannelPosts (channelId : Text) (posted : List IncomingMessage) : Prop where
  channel : ∀ m ∈ posted, m.channelId = channelId
  ascending : posted.Pairwise fun m m' => m.messageId < m'.messageId

/-- The start-up from any tables, any checkpoints and any posted messages on. -/
def system (M : Monitor) : TransitionSystem MonitorWorld MonitorAction where
  init w := (∀ c, ChannelPosts c (w.posts c)) ∧ w.phase = .next .catchUp M.scanned ∧
    w.registered = false ∧ w.fetches = []
  step := step M

end Telegram
end PromoBot
