import PromoBot.Domain.StateMachines
import PromoBot.Lib.PyText
import PromoBot.Lib.SqlTable

/-!
# The `telegram_channel_checkpoints` table

`TelegramCheckpointRepository` of `database/repositories.py`.  One row per
channel; what the monitor reads of it is the id of the last persisted message,
which `record_persisted` only ever raises.
-/

namespace PromoBot

/-- A row of `telegram_channel_checkpoints` (`TelegramChannelCheckpointModel`). -/
structure TelegramChannelCheckpoint where
  lastPersistedMessageId : Option Nat
  lastPersistedAt : Option Instant
  lastCatchUpAt : Option Instant
  status : String
  errorCode : Option String
  deriving DecidableEq, Repr

abbrev TelegramCheckpoints := SqlTable Text TelegramChannelCheckpoint

namespace TelegramCheckpointRepository

open SqlTable

/-- The id of the last persisted message of a channel, as the monitor reads it. -/
def checkpointId (t : TelegramCheckpoints) (channelId : Text) : Option Nat :=
  (t.get? channelId).bind (·.lastPersistedMessageId)

/-- The `is_newer` expression: no id yet, or a smaller one. -/
def IsNewer (messageId : Nat) (r : TelegramChannelCheckpoint) : Prop :=
  ∀ v ∈ r.lastPersistedMessageId, v < messageId

instance (messageId : Nat) : DecidablePred (IsNewer messageId) :=
  fun r => inferInstanceAs (Decidable (∀ v ∈ r.lastPersistedMessageId, v < messageId))

/-- `record_persisted`: an upsert which never lowers the id. -/
def recordPersisted (t : TelegramCheckpoints) (channelId : Text) (messageId : Nat)
    (occurredAt : Instant) (catchUpAt : Option Instant) : TelegramCheckpoints :=
  match t.get? channelId with
  | none => t.put channelId ⟨some messageId, some occurredAt, catchUpAt, "READY", none⟩
  | some r =>
    t.put channelId
      { lastPersistedMessageId :=
          if IsNewer messageId r then some messageId else r.lastPersistedMessageId
        lastPersistedAt := if IsNewer messageId r then some occurredAt else r.lastPersistedAt
        lastCatchUpAt := catchUpAt.or r.lastCatchUpAt
        status := "READY"
        errorCode := none }

/-- The row of a channel, or the one the session adds for it. -/
def getOrAdd (t : TelegramCheckpoints) (channelId : Text) : TelegramChannelCheckpoint :=
  (t.get? channelId).getD ⟨none, none, none, "READY", none⟩

/-- `record_failure`. -/
def recordFailure (t : TelegramCheckpoints) (channelId : Text) (errorCode : String) :
    TelegramCheckpoints :=
  t.put channelId
    { getOrAdd t channelId with status := "ERROR", errorCode := some errorCode }

/-- `mark_catch_up_complete`. -/
def markCatchUpComplete (t : TelegramCheckpoints) (channelId : Text) (now : Instant) :
    TelegramCheckpoints :=
  t.put channelId
    { getOrAdd t channelId with lastCatchUpAt := some now, status := "READY", errorCode := none }

/-! ## What happens to the id -/

variable (t : TelegramCheckpoints) (c d : Text)

/-- The id after a message was recorded: raised to it, never lowered. -/
def raised (checkpoint : Option Nat) (messageId : Nat) : Nat :=
  max (checkpoint.getD 0) messageId

theorem checkpointId_recordPersisted (messageId : Nat) (occurredAt : Instant)
    (catchUpAt : Option Instant) :
    checkpointId (recordPersisted t c messageId occurredAt catchUpAt) d =
      if d = c then some (raised (checkpointId t c) messageId) else checkpointId t d := by
  unfold recordPersisted checkpointId raised
  cases h : t.get? c with
  | none =>
    rw [get?_put]
    split <;> simp
  | some r =>
    rw [get?_put]
    split
    · cases hid : r.lastPersistedMessageId with
      | none => simp [IsNewer, hid]
      | some v =>
        by_cases hlt : v < messageId
        · simp [IsNewer, hid, hlt, Nat.max_eq_right hlt.le]
        · simp [IsNewer, hid, hlt, Nat.max_eq_left (Nat.le_of_not_lt hlt)]
    · rfl

theorem checkpointId_put_getOrAdd (r : TelegramChannelCheckpoint)
    (hr : r.lastPersistedMessageId = (getOrAdd t c).lastPersistedMessageId) :
    checkpointId (t.put c r) d = checkpointId t d := by
  unfold checkpointId
  rw [get?_put]
  split
  · next hd =>
    subst hd
    rw [Option.bind_some, hr, getOrAdd]
    cases t.get? d <;> rfl
  · rfl

@[simp] theorem checkpointId_recordFailure (errorCode : String) :
    checkpointId (recordFailure t c errorCode) d = checkpointId t d :=
  checkpointId_put_getOrAdd t c d _ rfl

@[simp] theorem checkpointId_markCatchUpComplete (now : Instant) :
    checkpointId (markCatchUpComplete t c now) d = checkpointId t d :=
  checkpointId_put_getOrAdd t c d _ rfl

end TelegramCheckpointRepository

end PromoBot
