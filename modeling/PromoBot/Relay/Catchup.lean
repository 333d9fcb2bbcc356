import PromoBot.Relay.Models
import Mathlib.Data.List.DropRight
import Mathlib.Data.List.Sort

/-!
# Catch-up selection

`select_catch_up_messages` of `relay/catchup.py`: of the messages a scan of a
channel returned, the ones inside the lookback window and above the checkpoint,
oldest first.
-/

namespace PromoBot
namespace Relay

/-- `checkpoint_id is None or message_id > checkpoint_id`. -/
def AboveCheckpoint (checkpointId : Option Nat) (m : IncomingMessage) : Prop :=
  ∀ v ∈ checkpointId, v < m.messageId

instance (checkpointId : Option Nat) : DecidablePred (AboveCheckpoint checkpointId) :=
  fun m => inferInstanceAs (Decidable (∀ v ∈ checkpointId, v < m.messageId))

/-- Inside the lookback window: `occurred_at >= now - timedelta(hours=lookback_hours)`. -/
def InWindow (now : Instant) (lookbackHours : Nat) (m : IncomingMessage) : Prop :=
  now - hours lookbackHours ≤ m.occurredAt

instance (now : Instant) (lookbackHours : Nat) : DecidablePred (InWindow now lookbackHours) :=
  fun _ => inferInstanceAs (Decidable (_ ≤ _))

/-- The order of the message ids. -/
def IdLE (a b : IncomingMessage) : Prop := a.messageId ≤ b.messageId

instance : DecidableRel IdLE := fun a b => inferInstanceAs (Decidable (a.messageId ≤ b.messageId))

instance : Std.Total IdLE := ⟨fun a b => Nat.le_total a.messageId b.messageId⟩

instance : IsTrans IncomingMessage IdLE := ⟨fun _ _ _ => Nat.le_trans⟩

/-- `select_catch_up_messages`. -/
def selectCatchUpMessages (messages : List IncomingMessage) (now : Instant)
    (lookbackHours maxMessages : Nat) (checkpointId : Option Nat) : List IncomingMessage :=
  let eligible := messages.filter fun m =>
    InWindow now lookbackHours m ∧ AboveCheckpoint checkpointId m
  (eligible.insertionSort IdLE).rtake maxMessages

variable {messages : List IncomingMessage} {now : Instant} {lookbackHours maxMessages : Nat}
  {checkpointId : Option Nat}

theorem mem_selectCatchUpMessages (hlen : messages.length ≤ maxMessages) {m : IncomingMessage} :
    m ∈ selectCatchUpMessages messages now lookbackHours maxMessages checkpointId ↔
      m ∈ messages ∧ InWindow now lookbackHours m ∧ AboveCheckpoint checkpointId m := by
  have hall : ∀ l : List IncomingMessage, l.length ≤ maxMessages → l.rtake maxMessages = l := by
    intro l hl
    rw [List.rtake, Nat.sub_eq_zero_of_le hl, List.drop_zero]
  rw [selectCatchUpMessages, hall _ ?_, List.mem_insertionSort, List.mem_filter]
  · simp
  · rw [List.length_insertionSort]
    exact (List.length_filter_le _ _).trans hlen

theorem pairwise_selectCatchUpMessages :
    (selectCatchUpMessages messages now lookbackHours maxMessages checkpointId).Pairwise
      IdLE := by
  unfold selectCatchUpMessages
  exact (List.pairwise_insertionSort IdLE _).sublist (List.drop_sublist _ _)

end Relay
end PromoBot
