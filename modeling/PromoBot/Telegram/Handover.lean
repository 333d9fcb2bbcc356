import PromoBot.Relay.Fencing
import PromoBot.Telegram.Monitor

/-!
# What the start-up handover loses

The bridge is there to pick up what was posted between the catch-up of a channel and the
registration of the handler.  It selects by the checkpoint it reads, and by then the handler is
running: a live message of a channel which still waits for its bridge raises that checkpoint
over the messages posted before it, and the bridge passes them by.

`LiveInOrder` says that this does not happen.  Under it nothing is lost
(`handover_loses_nothing`), for any channels, checkpoints and interleaving; without it a
message can be (`message_lost`).

## What is owed

Not every message has to be delivered.  The catch-up is limited, to a number of messages and to
a time, and what lies outside is left out by design; and a message may fall out of either limit
while the start-up is under way.  `Owed` is therefore careful: a message above the checkpoint
stored before the start, of a configured channel, which some scan of the channel saw and which
was eligible in every scan that saw it.  A message that is posted after the last scan is not
owed by the handover, but by the handler, which is registered by then.

## The invariant

Every read of a checkpoint is `Passed`: the messages at or below it which the run owes are
settled, which means persisted, or not eligible in some scan, or not eligible any more.  While
the selection of a scan is being persisted (`Scanning`), every message some scan of the channel
saw is settled or still in the selection. Since a selection is persisted in the order of the
ids, raising the checkpoint to its next message passes over no message which is still to come.

`Settled` looks ahead, which makes it stable: a message that is not eligible any more will not
be, since messages are only posted and time only passes (`Eligible.of_append`).  So what a step
has to show is about checkpoints only, and a checkpoint is raised in one place
(`Passed.raise`).
-/

namespace PromoBot
namespace Telegram

open Relay DurableRelayQueue TelegramCheckpointRepository

variable {M : Monitor} {w₀ w w' : MonitorWorld} {act : MonitorAction}

/-! ## Eligible messages -/

/-- Among the newest messages of its channel, and inside the lookback window. -/
def Eligible (cfg : TelegramRelayConfig) (posted : List IncomingMessage) (now : Instant)
    (m : IncomingMessage) : Prop :=
  m ∈ newestFirst cfg posted ∧ InWindow now cfg.catchUpLookbackHours m

theorem Eligible.mem {cfg : TelegramRelayConfig} {posted : List IncomingMessage} {now : Instant}
    {m : IncomingMessage} (h : Eligible cfg posted now m) : m ∈ posted :=
  List.mem_reverse.1 (List.mem_of_mem_take h.1)

theorem mem_fetchRecent {cfg : TelegramRelayConfig} {posted : List IncomingMessage}
    {now : Instant} {checkpointId : Option Nat} {m : IncomingMessage} :
    m ∈ fetchRecent cfg posted now checkpointId ↔
      Eligible cfg posted now m ∧ AboveCheckpoint checkpointId m := by
  have hlen : (newestFirst cfg posted).length ≤ cfg.catchUpMaxMessagesPerChannel :=
    List.length_take_le _ _
  rw [fetchRecent, mem_selectCatchUpMessages hlen, Eligible, and_assoc]

theorem Eligible.of_append {cfg : TelegramRelayConfig} {posted new : List IncomingMessage}
    {now now' : Instant} {m : IncomingMessage} (h : Eligible cfg (posted ++ new) now' m)
    (hnew : m ∉ new) (hle : now ≤ now') : Eligible cfg posted now m := by
  obtain ⟨hmem, hwindow⟩ := h
  constructor
  · rw [newestFirst, List.reverse_append, List.take_append, List.mem_append] at hmem
    rcases hmem with hmem | hmem
    · exact absurd (List.mem_reverse.1 (List.mem_of_mem_take hmem)) hnew
    · exact List.take_subset_take_left _ (Nat.sub_le _ _) hmem
  · exact (Int.sub_le_sub_right hle _).trans hwindow

theorem ChannelPosts.lt {c : Text} {posted new : List IncomingMessage}
    (h : ChannelPosts c (posted ++ new)) {m m' : IncomingMessage} (hm : m ∈ posted)
    (hm' : m' ∈ new) : m.messageId < m'.messageId :=
  (List.pairwise_append.1 h.ascending).2.2 m hm m' hm'

theorem ChannelPosts.eq_of_messageId {c : Text} {posted : List IncomingMessage}
    (h : ChannelPosts c posted) {m m' : IncomingMessage} (hm : m ∈ posted) (hm' : m' ∈ posted)
    (hid : m.messageId = m'.messageId) : m = m' := by
  by_contra hne
  have hsymm : Std.Symm fun a b : IncomingMessage => a.messageId ≠ b.messageId :=
    ⟨fun _ _ => Ne.symm⟩
  have hdistinct := h.ascending.imp fun hlt => Nat.ne_of_lt hlt
  exact hdistinct.forall hm hm' hne hid

/-! ## What the handover owes -/

/-- Above the checkpoint stored before the start. -/
def AboveStored (w₀ : MonitorWorld) (m : IncomingMessage) : Prop :=
  AboveCheckpoint (checkpointId w₀.checkpoints m.channelId) m

/-- A message of a configured channel, above the checkpoint stored before the start,
which a scan saw and which was eligible in every scan that saw it. -/
structure Owed (M : Monitor) (w₀ w : MonitorWorld) (m : IncomingMessage) : Prop where
  configured : m.channelId ∈ M.channels
  above : AboveStored w₀ m
  scanned : ∃ f ∈ w.fetches, m ∈ f.posted
  eligible : ∀ f ∈ w.fetches, m ∈ f.posted → Eligible M.config f.posted f.now m

/-- Every message the handover owes is persisted. -/
def NothingLost (M : Monitor) (w₀ w : MonitorWorld) : Prop :=
  ∀ m, Owed M w₀ w m → Persisted w.relay.rows m

/-- The channels whose checkpoint the bridge has still to read. -/
def Phase.awaiting (M : Monitor) : Phase → List Text
  | .next .catchUp _ | .fetching .catchUp _ _ _ _ | .persisting .catchUp _ _ _ => M.scanned
  | .next .bridge rest | .fetching .bridge _ rest _ _ | .persisting .bridge _ rest _ => rest
  | .listening | .failed => []

/-- A live message of a channel which still waits for its bridge passes over no
message that a bridge could select: every message posted between the checkpoint and
the live message is persisted, or not eligible. -/
def LiveInOrder (M : Monitor) (w : MonitorWorld) (act : MonitorAction) : Prop :=
  ∀ n, act = .live n → n.channelId ∈ w.phase.awaiting M →
    ∀ m ∈ w.posts n.channelId, AboveCheckpoint (checkpointId w.checkpoints n.channelId) m →
      m.messageId < n.messageId →
        Persisted w.relay.rows m ∨
          ¬ Eligible M.config (w.posts n.channelId) w.relay.clock m

/-! ## Settled messages -/

/-- Persisted, or not eligible in some scan that saw it: not owed any more. -/
def Covered (M : Monitor) (w : MonitorWorld) (m : IncomingMessage) : Prop :=
  Persisted w.relay.rows m ∨
    ∃ f ∈ w.fetches, m ∈ f.posted ∧ ¬ Eligible M.config f.posted f.now m

/-- Covered, or not eligible in any scan from now on. -/
def Settled (M : Monitor) (w : MonitorWorld) (m : IncomingMessage) : Prop :=
  Covered M w m ∨ ¬ Eligible M.config (w.posts m.channelId) w.relay.clock m

/-- What every step respects: messages are posted at the end, time passes, persisted
messages and scans stay. -/
structure Grows (w w' : MonitorWorld) : Prop where
  posts : ∀ c, w.posts c <+: w'.posts c
  channelPosts : ∀ c, ChannelPosts c (w'.posts c)
  clock : w.relay.clock ≤ w'.relay.clock
  persisted : ∀ m, Persisted w.relay.rows m → Persisted w'.relay.rows m
  fetches : ∀ f ∈ w.fetches, f ∈ w'.fetches

namespace Grows

variable (h : Grows w w')
include h

theorem covered {m : IncomingMessage} (hm : Covered M w m) : Covered M w' m := by
  rcases hm with hm | ⟨f, hf, hm⟩
  · exact Or.inl (h.persisted m hm)
  · exact Or.inr ⟨f, h.fetches f hf, hm⟩

theorem settled {m : IncomingMessage} (hmem : m ∈ w.posts m.channelId)
    (hm : Settled M w m) : Settled M w' m := by
  rcases hm with hm | hm
  · exact Or.inl (h.covered hm)
  · refine Or.inr fun heligible => hm ?_
    have hposts := h.channelPosts m.channelId
    obtain ⟨new, hnew⟩ := h.posts m.channelId
    rw [← hnew] at heligible hposts
    exact heligible.of_append (fun hm' => lt_irrefl _ (hposts.lt hmem hm')) h.clock

end Grows

/-- A checkpoint of the channel that passes over settled messages only, and which is
no higher than the stored one or some posted message. -/
structure Passed (M : Monitor) (w₀ w : MonitorWorld) (c : Text) (checkpoint : Option Nat) :
    Prop where
  bounded : ∀ v ∈ checkpoint, checkpointId w₀.checkpoints c = some v ∨
    ∃ m ∈ w.posts c, v ≤ m.messageId
  settled : ∀ m ∈ w.posts c, AboveStored w₀ m → ¬ AboveCheckpoint checkpoint m → Settled M w m

/-- The selection `messages` of the last scan of the channel, still to be persisted:
whatever a scan of the channel saw is covered or in the selection. -/
structure Scanning (M : Monitor) (w₀ w : MonitorWorld) (c : Text)
    (messages : List IncomingMessage) : Prop where
  ascending : messages.Pairwise IdLE
  seen : ∃ f ∈ w.fetches, f.channelId = c ∧ f.posted <+: w.posts c ∧ ∀ m ∈ messages, m ∈ f.posted
  covered : ∀ f ∈ w.fetches, f.channelId = c → ∀ m ∈ f.posted, AboveStored w₀ m →
    Covered M w m ∨ m ∈ messages

theorem not_aboveCheckpoint {checkpoint : Option Nat} {m : IncomingMessage} :
    ¬ AboveCheckpoint checkpoint m ↔ ∃ v ∈ checkpoint, m.messageId ≤ v := by
  simp [AboveCheckpoint]

theorem Passed.grows {c : Text} {checkpoint : Option Nat} (hp : Passed M w₀ w c checkpoint)
    (h : Grows w w') : Passed M w₀ w' c checkpoint where
  bounded v hv := by
    rcases hp.bounded v hv with hstored | ⟨m, hm, hle⟩
    · exact Or.inl hstored
    · exact Or.inr ⟨m, (h.posts c).subset hm, hle⟩
  settled m hm habove hnot := by
    have hposts := h.channelPosts c
    have hc : m.channelId = c := hposts.channel m hm
    obtain ⟨new, hnew⟩ := h.posts c
    rw [← hnew] at hposts
    rcases List.mem_append.1 (hnew ▸ hm) with hold | hmem
    · exact h.settled (hc ▸ hold) (hp.settled m hold habove hnot)
    -- a new message is above the stored checkpoint and every message posted before
    · obtain ⟨v, hv, hle⟩ := not_aboveCheckpoint.1 hnot
      rcases hp.bounded v hv with hstored | ⟨m', hm', hle'⟩
      · have hlt : v < m.messageId := habove v (by rw [hc]; exact hstored)
        omega
      · have hlt := hposts.lt hm' hmem
        omega

theorem Scanning.grows {c : Text} {messages : List IncomingMessage}
    (hs : Scanning M w₀ w c messages) (h : Grows w w') (hfetches : w'.fetches = w.fetches) :
    Scanning M w₀ w' c messages where
  ascending := hs.ascending
  seen := by
    obtain ⟨f, hf, hc, hleading, hmem⟩ := hs.seen
    exact ⟨f, h.fetches f hf, hc, hleading.trans (h.posts c), hmem⟩
  covered f hf hc m hm habove := by
    rw [hfetches] at hf
    exact (hs.covered f hf hc m hm habove).imp_left h.covered

/-- **Raising a checkpoint.**  When the message `n` is persisted, and every message
between the checkpoint and `n` is settled, the raised checkpoint passes over settled
messages only. -/
theorem Passed.raise {checkpoint : Option Nat} {n : IncomingMessage}
    (hp : Passed M w₀ w n.channelId checkpoint) (h : Grows w w')
    (hposts : w'.posts = w.posts) (hn : n ∈ w.posts n.channelId)
    (hpersisted : Persisted w'.relay.rows n)
    (hbetween : ∀ m ∈ w.posts n.channelId, AboveStored w₀ m → AboveCheckpoint checkpoint m →
      m.messageId < n.messageId → Settled M w m) :
    Passed M w₀ w' n.channelId (some (raised checkpoint n.messageId)) where
  bounded v hv := by
    obtain rfl : raised checkpoint n.messageId = v := Option.some.inj hv
    rw [hposts]
    unfold raised
    rcases le_total (checkpoint.getD 0) n.messageId with hle | hle
    · rw [Nat.max_eq_right hle]
      exact Or.inr ⟨n, hn, le_rfl⟩
    · rw [Nat.max_eq_left hle]
      cases hck : checkpoint with
      | none =>
        rw [hck, Option.getD_none] at hle
        exact Or.inr ⟨n, hn, Nat.zero_le _⟩
      | some u => exact hp.bounded u hck
  settled m hm habove hnot := by
    have hchannel := h.channelPosts n.channelId
    have hc : m.channelId = n.channelId := hchannel.channel m hm
    rw [hposts] at hm hchannel
    by_cases hck : AboveCheckpoint checkpoint m
    · have hle : m.messageId ≤ n.messageId := by
        obtain ⟨v, hv, hle⟩ := not_aboveCheckpoint.1 hnot
        obtain rfl : raised checkpoint n.messageId = v := Option.some.inj hv
        unfold raised at hle
        cases hcheck : checkpoint with
        | none => simpa [hcheck] using hle
        | some u =>
          have hlt : u < m.messageId := hck u hcheck
          rw [hcheck, Option.getD_some] at hle
          omega
      rcases hle.lt_or_eq with hlt | heq
      · exact h.settled (hc ▸ hm) (hbetween m hm habove hck hlt)
      · obtain rfl := hchannel.eq_of_messageId hm hn heq
        exact Or.inl (Or.inl hpersisted)
    · exact h.settled (hc ▸ hm) (hp.settled m hm habove hck)

/-- The messages below the next one of the selection are covered. -/
theorem Scanning.between {c : Text} {n : IncomingMessage} {rest : List IncomingMessage}
    (hs : Scanning M w₀ w c (n :: rest)) (hposts : ChannelPosts c (w.posts c)) :
    n ∈ w.posts c ∧ ∀ m ∈ w.posts c, AboveStored w₀ m → m.messageId < n.messageId →
      Covered M w m := by
  obtain ⟨f, hf, hc, ⟨new, hnew⟩, hmem⟩ := hs.seen
  have hn : n ∈ f.posted := hmem n List.mem_cons_self
  rw [← hnew] at hposts ⊢
  refine ⟨List.mem_append_left _ hn, fun m hm habove hlt => ?_⟩
  rcases List.mem_append.1 hm with hold | hm'
  · rcases hs.covered f hf hc m hold habove with hcov | hsel
    · exact hcov
    · rcases List.mem_cons.1 hsel with rfl | hrest
      · exact absurd hlt (lt_irrefl _)
      · have hle : n.messageId ≤ m.messageId := List.rel_of_pairwise_cons hs.ascending hrest
        omega
  · have hgt := hposts.lt hn hm'
    omega

/-- The next message of the selection is persisted. -/
theorem Scanning.persistNext {c : Text} {n : IncomingMessage} {rest : List IncomingMessage}
    (hs : Scanning M w₀ w c (n :: rest)) (h : Grows w w') (hfetches : w'.fetches = w.fetches)
    (hn : Persisted w'.relay.rows n) : Scanning M w₀ w' c rest where
  ascending := hs.ascending.of_cons
  seen := by
    obtain ⟨f, hf, hc, hleading, hmem⟩ := hs.seen
    exact ⟨f, h.fetches f hf, hc, hleading.trans (h.posts c),
      fun m hm => hmem m (List.mem_cons_of_mem _ hm)⟩
  covered f hf hc m hm habove := by
    rw [hfetches] at hf
    rcases hs.covered f hf hc m hm habove with hcov | hsel
    · exact Or.inl (h.covered hcov)
    · rcases List.mem_cons.1 hsel with rfl | hrest
      · exact Or.inl (Or.inl hn)
      · exact Or.inr hrest

/-- A scan by a checkpoint which passes over settled messages only. -/
theorem Passed.scanning {c : Text} {checkpoint : Option Nat} {now : Instant}
    (hp : Passed M w₀ w c checkpoint) (h : Grows w w') (hposts : w'.posts = w.posts)
    (hsnapshots : ∀ f ∈ w.fetches, f.posted <+: w.posts f.channelId)
    (hfetches : w'.fetches = ⟨c, w.posts c, now⟩ :: w.fetches) (hnow : w.relay.clock ≤ now) :
    Scanning M w₀ w' c (fetchRecent M.config (w.posts c) now checkpoint) where
  ascending := pairwise_selectCatchUpMessages
  seen := by
    refine ⟨⟨c, w.posts c, now⟩, ?_, rfl, ?_, ?_⟩
    · rw [hfetches]
      exact List.mem_cons_self
    · exact (congrFun hposts c).symm ▸ List.prefix_rfl
    · exact fun m hm => (mem_fetchRecent.1 hm).1.mem
  covered f hf hc m hm habove := by
    have hmem : m ∈ w.posts c := by
      rw [hfetches] at hf
      rcases List.mem_cons.1 hf with rfl | hold
      · exact hm
      · exact hc ▸ (hsnapshots f hold).subset hm
    -- the new scan excludes what is not eligible
    have hexcluded (hnot : ¬ Eligible M.config (w.posts c) now m) : Covered M w' m :=
      Or.inr ⟨⟨c, w.posts c, now⟩, hfetches ▸ List.mem_cons_self, hmem, hnot⟩
    by_cases hck : AboveCheckpoint checkpoint m
    · by_cases heligible : Eligible M.config (w.posts c) now m
      · exact Or.inr (mem_fetchRecent.2 ⟨heligible, hck⟩)
      · exact Or.inl (hexcluded heligible)
    · refine Or.inl ?_
      rcases hp.settled m hmem habove hck with hcov | hnot
      · exact h.covered hcov
      · have hchannel : m.channelId = c := (hposts ▸ h.channelPosts c).channel m hmem
        refine hexcluded fun heligible => hnot ?_
        rw [hchannel]
        rw [← List.append_nil (w.posts c)] at heligible
        exact heligible.of_append List.not_mem_nil hnow

/-! ## Persisting -/

section Persist

variable (n : IncomingMessage)

@[simp] theorem persist_posts : (w.persist M n).posts = w.posts := rfl

@[simp] theorem persist_phase : (w.persist M n).phase = w.phase := rfl

@[simp] theorem persist_fetches : (w.persist M n).fetches = w.fetches := rfl

theorem persisted_persist : Persisted (w.persist M n).relay.rows n :=
  DurableRelayQueue.persisted_persist

theorem grows_persist (hposts : ∀ c, ChannelPosts c (w.posts c)) : Grows w (w.persist M n) where
  posts _ := List.prefix_rfl
  channelPosts := hposts
  clock := le_refl w.relay.clock
  persisted _ hm := hm.persist
  fetches _ := id

theorem checkpointId_persist (c : Text) :
    checkpointId (w.persist M n).checkpoints c =
      if c = n.channelId then some (raised (checkpointId w.checkpoints n.channelId) n.messageId)
      else checkpointId w.checkpoints c := by
  rw [MonitorWorld.persist, persist_checkpoints, checkpointId_recordPersisted]

end Persist

/-! ## The invariant -/

/-- The channels a pass has still to finish. -/
def Phase.todo : Phase → List Text
  | .next _ rest => rest
  | .fetching _ c rest _ _ | .persisting _ c rest _ => c :: rest
  | .listening | .failed => []

/-- The channel being scanned. -/
def Phase.current? : Phase → Option Text
  | .fetching _ c _ _ _ | .persisting _ c _ _ => some c
  | .next _ _ | .listening | .failed => none

/-- What holds of the channel being scanned. -/
def CurrentChannel (M : Monitor) (w₀ w : MonitorWorld) : Prop :=
  match w.phase with
  | .fetching _ c _ checkpoint _ => Passed M w₀ w c checkpoint
  | .persisting _ c _ messages => Scanning M w₀ w c messages
  | .next _ _ | .listening | .failed => True

/-- The invariant of the start-up. -/
structure Inv (M : Monitor) (w₀ w : MonitorWorld) : Prop where
  channelPosts : ∀ c, ChannelPosts c (w.posts c)
  snapshots : ∀ f ∈ w.fetches, f.posted <+: w.posts f.channelId
  scanned : ∀ f ∈ w.fetches, f.channelId ∈ M.scanned
  todo : ∀ c ∈ w.phase.todo, c ∈ M.scanned
  awaiting : ∀ c ∈ w.phase.awaiting M, Passed M w₀ w c (checkpointId w.checkpoints c)
  current : CurrentChannel M w₀ w
  done : w.phase ≠ .failed → ∀ f ∈ w.fetches, f.channelId ∉ w.phase.awaiting M →
    w.phase.current? ≠ some f.channelId → ∀ m ∈ f.posted, AboveStored w₀ m → Covered M w m

theorem CurrentChannel.grows (hc : CurrentChannel M w₀ w) (h : Grows w w')
    (hphase : w'.phase = w.phase) (hfetches : w'.fetches = w.fetches) :
    CurrentChannel M w₀ w' := by
  unfold CurrentChannel at hc ⊢
  rw [hphase]
  cases hw : w.phase with
  | fetching pass c rest checkpoint attempt =>
    rw [hw] at hc
    exact Passed.grows hc h
  | persisting pass c rest messages =>
    rw [hw] at hc
    exact Scanning.grows hc h hfetches
  | next | listening | failed => trivial

/-- A step without a scan. -/
theorem Inv.move (hw : Inv M w₀ w) (h : Grows w w') (hfetches : w'.fetches = w.fetches)
    (htodo : ∀ c ∈ w'.phase.todo, c ∈ M.scanned)
    (hawaiting : ∀ c ∈ w'.phase.awaiting M, Passed M w₀ w' c (checkpointId w'.checkpoints c))
    (hcurrent : CurrentChannel M w₀ w')
    (hdone : w'.phase ≠ .failed → ∀ f ∈ w.fetches, f.channelId ∉ w'.phase.awaiting M →
      w'.phase.current? ≠ some f.channelId → ∀ m ∈ f.posted, AboveStored w₀ m →
        Covered M w m) :
    Inv M w₀ w' where
  channelPosts := h.channelPosts
  snapshots f hf := (hw.snapshots f (hfetches ▸ hf)).trans (h.posts _)
  scanned f hf := hw.scanned f (hfetches ▸ hf)
  todo := htodo
  awaiting := hawaiting
  current := hcurrent
  done hne f hf hnot hcur m hm habove := by
    rw [hfetches] at hf
    exact h.covered (hdone hne f hf hnot hcur m hm habove)

theorem Inv.grows (hw : Inv M w₀ w) (h : Grows w w') (hphase : w'.phase = w.phase)
    (hfetches : w'.fetches = w.fetches)
    (hawaiting : ∀ c ∈ w.phase.awaiting M, Passed M w₀ w' c (checkpointId w'.checkpoints c)) :
    Inv M w₀ w' := by
  refine hw.move h hfetches ?_ ?_ (hw.current.grows h hphase hfetches) ?_
  · rw [hphase]
    exact hw.todo
  · rw [hphase]
    exact hawaiting
  · rw [hphase]
    exact hw.done

theorem Inv.rephase (hw : Inv M w₀ w) (h : Grows w w') (hfetches : w'.fetches = w.fetches)
    (hids : ∀ c, checkpointId w'.checkpoints c = checkpointId w.checkpoints c)
    (htodo : ∀ c ∈ w'.phase.todo, c ∈ M.scanned)
    (hawaiting : ∀ c ∈ w'.phase.awaiting M, c ∈ w.phase.awaiting M)
    (hcurrent : CurrentChannel M w₀ w')
    (hdone : w'.phase ≠ .failed → ∀ f ∈ w.fetches, f.channelId ∉ w'.phase.awaiting M →
      w'.phase.current? ≠ some f.channelId → ∀ m ∈ f.posted, AboveStored w₀ m →
        Covered M w m) :
    Inv M w₀ w' := by
  refine hw.move h hfetches htodo (fun c hc => ?_) hcurrent hdone
  rw [hids]
  exact (hw.awaiting c (hawaiting c hc)).grows h

/-- Persisting a posted message which passes over no unsettled one. -/
theorem Inv.awaiting_persist (hw : Inv M w₀ w) {n : IncomingMessage}
    (hn : n ∈ w.posts n.channelId)
    (hbetween : n.channelId ∈ w.phase.awaiting M → ∀ m ∈ w.posts n.channelId, AboveStored w₀ m →
      AboveCheckpoint (checkpointId w.checkpoints n.channelId) m → m.messageId < n.messageId →
        Settled M w m) :
    ∀ c ∈ w.phase.awaiting M,
      Passed M w₀ (w.persist M n) c (checkpointId (w.persist M n).checkpoints c) := by
  intro c hc
  have h := grows_persist (M := M) n hw.channelPosts
  rw [checkpointId_persist]
  split
  · next heq =>
    subst heq
    exact (hw.awaiting _ hc).raise h rfl hn (persisted_persist n) (hbetween hc)
  · exact (hw.awaiting c hc).grows h

theorem Grows.of_relay_eq (hw : Inv M w₀ w) (hposts : w'.posts = w.posts)
    (hrelay : w'.relay = w.relay) (hfetches : ∀ f ∈ w.fetches, f ∈ w'.fetches) : Grows w w' where
  posts c := (congrFun hposts c).symm ▸ List.prefix_rfl
  channelPosts := hposts ▸ hw.channelPosts
  clock := by rw [hrelay]
  persisted m hm := by rwa [hrelay]
  fetches := hfetches

theorem grows_post (hw : Inv M w₀ w) {n : IncomingMessage}
    (hn : ∀ m ∈ w.posts n.channelId, m.messageId < n.messageId) :
    Grows w { w with posts := Function.update w.posts n.channelId (w.posts n.channelId ++ [n]) } where
  posts c := by
    rcases eq_or_ne c n.channelId with rfl | hc
    · simp only [Function.update_self]
      exact List.prefix_append _ _
    · simp only [Function.update_of_ne hc]
      exact List.prefix_rfl
  channelPosts c := by
    rcases eq_or_ne c n.channelId with rfl | hc
    · simp only [Function.update_self]
      constructor
      · intro m hm
        rcases List.mem_append.1 hm with hold | hnew
        · exact (hw.channelPosts _).channel m hold
        · rw [List.mem_singleton.1 hnew]
      · refine List.pairwise_append.2 ⟨(hw.channelPosts _).ascending, List.pairwise_singleton _ _, ?_⟩
        intro m hm m' hm'
        rw [List.mem_singleton.1 hm']
        exact hn m hm
    · simp only [Function.update_of_ne hc]
      exact hw.channelPosts c
  clock := le_refl w.relay.clock
  persisted _ := id
  fetches _ := id

theorem grows_relay (hw : Inv M w₀ w) {act : Relay.Action} {r : World}
    (h : Relay.step M.config w.relay act = some r) : Grows w { w with relay := r } where
  posts _ := List.prefix_rfl
  channelPosts := hw.channelPosts
  clock := clock_le_of_step h
  persisted _ hm := hm.of_change fun i => change_step h i
  fetches _ := id

theorem Inv.background (hw : Inv M w₀ w) (h : Grows w w') (hphase : w'.phase = w.phase)
    (hfetches : w'.fetches = w.fetches) (hcheckpoints : w'.checkpoints = w.checkpoints) :
    Inv M w₀ w' :=
  hw.grows h hphase hfetches fun c hc => hcheckpoints ▸ (hw.awaiting c hc).grows h

theorem mem_awaiting_next {pass : Pass} {c d : Text} {rest : List Text}
    {checkpoint : Option Nat} {attempt : Nat} :
    d ∈ (Phase.next pass (c :: rest)).awaiting M ↔
      d ∈ (Phase.fetching pass c rest checkpoint attempt).awaiting M ∨
        pass = .bridge ∧ d = c := by
  cases pass with
  | catchUp => simp [Phase.awaiting]
  | bridge => simp [Phase.awaiting, or_comm]

theorem Inv.read (hw : Inv M w₀ w) {pass : Pass} {c : Text} {rest : List Text}
    (hphase : w.phase = .next pass (c :: rest)) :
    Inv M w₀ { w with phase := .fetching pass c rest (checkpointId w.checkpoints c) 1 } := by
  have hgrows : Grows w
      { w with phase := .fetching pass c rest (checkpointId w.checkpoints c) 1 } :=
    .of_relay_eq hw rfl rfl fun _ => id
  have htodo : ∀ d ∈ c :: rest, d ∈ M.scanned := by
    have h := hw.todo
    rwa [hphase] at h
  have hc : c ∈ w.phase.awaiting M := by
    rw [hphase]
    cases pass with
    | catchUp => exact htodo c List.mem_cons_self
    | bridge => exact List.mem_cons_self
  refine hw.rephase hgrows rfl (fun _ => rfl) htodo ?_ ((hw.awaiting c hc).grows hgrows) ?_
  · intro d hd
    rw [hphase]
    exact mem_awaiting_next.2 (Or.inl hd)
  · intro _ f hf hnot hcur
    refine hw.done (by simp [hphase]) f hf ?_ (by simp [hphase, Phase.current?])
    rw [hphase]
    intro haw
    rcases mem_awaiting_next.1 haw with haw | ⟨_, heq⟩
    · exact hnot haw
    · exact hcur (heq ▸ rfl)

theorem Inv.fetch (hw : Inv M w₀ w) {pass : Pass} {c : Text} {rest : List Text}
    {checkpoint : Option Nat} {attempt : Nat} {now : Instant}
    (hphase : w.phase = .fetching pass c rest checkpoint attempt)
    (hnow : w.relay.clock ≤ now) :
    Inv M w₀ { w with
      phase := .persisting pass c rest (fetchRecent M.config (w.posts c) now checkpoint)
      fetches := ⟨c, w.posts c, now⟩ :: w.fetches } := by
  have hgrows : Grows w { w with
      phase := .persisting pass c rest (fetchRecent M.config (w.posts c) now checkpoint)
      fetches := ⟨c, w.posts c, now⟩ :: w.fetches } :=
    .of_relay_eq hw rfl rfl fun _ => List.mem_cons_of_mem _
  have htodo : ∀ d ∈ c :: rest, d ∈ M.scanned := by
    have h := hw.todo
    rwa [hphase] at h
  have hpassed : Passed M w₀ w c checkpoint := by
    have h := hw.current
    rwa [CurrentChannel, hphase] at h
  have hawaiting : (Phase.persisting pass c rest
      (fetchRecent M.config (w.posts c) now checkpoint)).awaiting M = w.phase.awaiting M := by
    rw [hphase]
    cases pass <;> rfl
  constructor
  · exact hw.channelPosts
  · exact List.forall_mem_cons.2 ⟨List.prefix_rfl, hw.snapshots⟩
  · exact List.forall_mem_cons.2 ⟨htodo c List.mem_cons_self, hw.scanned⟩
  · exact htodo
  · intro d hd
    rw [hawaiting] at hd
    exact (hw.awaiting d hd).grows hgrows
  · exact hpassed.scanning hgrows rfl hw.snapshots rfl hnow
  · intro _ f hf hnot hcur m hm habove
    rcases List.mem_cons.1 hf with rfl | hf
    · exact absurd rfl hcur
    · rw [hawaiting] at hnot
      refine hgrows.covered (hw.done (by simp [hphase]) f hf hnot ?_ m hm habove)
      rw [hphase]
      exact hcur

theorem Inv.retry (hw : Inv M w₀ w) {pass : Pass} {c : Text} {rest : List Text}
    {checkpoint : Option Nat} {attempt : Nat}
    (hphase : w.phase = .fetching pass c rest checkpoint attempt) :
    Inv M w₀ { w with phase := .fetching pass c rest checkpoint (attempt + 1) } := by
  have hgrows : Grows w { w with phase := .fetching pass c rest checkpoint (attempt + 1) } :=
    .of_relay_eq hw rfl rfl fun _ => id
  have hpassed : Passed M w₀ w c checkpoint := by
    have h := hw.current
    rwa [CurrentChannel, hphase] at h
  have hawaiting : (Phase.fetching pass c rest checkpoint (attempt + 1)).awaiting M =
      w.phase.awaiting M := by
    rw [hphase]
    cases pass <;> rfl
  refine hw.rephase hgrows rfl (fun _ => rfl) ?_ ?_ (hpassed.grows hgrows) ?_
  · intro d hd
    refine hw.todo d ?_
    rw [hphase]
    exact hd
  · rw [hawaiting]
    exact fun _ => id
  · intro _ f hf hnot hcur
    rw [hawaiting] at hnot
    refine hw.done (by simp [hphase]) f hf hnot ?_
    rw [hphase]
    exact hcur

/-- A run which has failed owes nothing. -/
theorem Inv.fails (hw : Inv M w₀ w) (hposts : w'.posts = w.posts) (hrelay : w'.relay = w.relay)
    (hfetches : w'.fetches = w.fetches)
    (hids : ∀ c, checkpointId w'.checkpoints c = checkpointId w.checkpoints c)
    (hphase' : w'.phase = .failed) : Inv M w₀ w' := by
  refine hw.rephase (.of_relay_eq hw hposts hrelay (hfetches ▸ fun _ => id)) hfetches hids
    ?_ ?_ ?_ ?_
  · rw [hphase']
    exact fun _ hd => absurd hd List.not_mem_nil
  · rw [hphase']
    exact fun _ hd => absurd hd List.not_mem_nil
  · rw [CurrentChannel, hphase']
    trivial
  · exact fun hne => absurd hphase' hne

theorem Inv.persistNext (hw : Inv M w₀ w) {pass : Pass} {c : Text} {rest : List Text}
    {n : IncomingMessage} {messages : List IncomingMessage}
    (hphase : w.phase = .persisting pass c rest (n :: messages)) :
    Inv M w₀ { w.persist M n with phase := .persisting pass c rest messages } := by
  have hscanning : Scanning M w₀ w c (n :: messages) := by
    have h := hw.current
    rwa [CurrentChannel, hphase] at h
  obtain ⟨hn, hbetween⟩ := hscanning.between (hw.channelPosts c)
  obtain rfl : n.channelId = c := (hw.channelPosts c).channel n hn
  have hgrows := grows_persist (M := M) n hw.channelPosts
  have hawaiting : (Phase.persisting pass n.channelId rest messages).awaiting M =
      w.phase.awaiting M := by
    rw [hphase]
    cases pass <;> rfl
  have htodo : ∀ d ∈ n.channelId :: rest, d ∈ M.scanned := by
    have h := hw.todo
    rwa [hphase] at h
  refine hw.move ⟨hgrows.posts, hgrows.channelPosts, hgrows.clock, hgrows.persisted,
    hgrows.fetches⟩ rfl htodo ?_ ?_ ?_
  · intro d hd
    rw [hawaiting] at hd
    have hpassed := hw.awaiting_persist hn
      (fun _ m hm habove _ hlt => Or.inl (hbetween m hm habove hlt)) d hd
    exact ⟨hpassed.bounded, hpassed.settled⟩
  · have hs := hscanning.persistNext hgrows rfl (persisted_persist n)
    exact ⟨hs.ascending, hs.seen, hs.covered⟩
  · intro _ f hf hnot hcur
    rw [hawaiting] at hnot
    refine hw.done (by simp [hphase]) f hf hnot ?_
    rw [hphase]
    exact hcur

/-- The channel is done: what its scans saw is covered. -/
theorem Inv.finishChannel (hw : Inv M w₀ w) {pass : Pass} {c : Text} {rest : List Text}
    (hphase : w.phase = .persisting pass c rest []) (hposts : w'.posts = w.posts)
    (hrelay : w'.relay = w.relay) (hfetches : w'.fetches = w.fetches)
    (hids : ∀ c, checkpointId w'.checkpoints c = checkpointId w.checkpoints c)
    (hphase' : w'.phase = .next pass rest) : Inv M w₀ w' := by
  have hscanning : Scanning M w₀ w c [] := by
    have h := hw.current
    rwa [CurrentChannel, hphase] at h
  have hawaiting : w'.phase.awaiting M = w.phase.awaiting M := by
    rw [hphase, hphase']
    cases pass <;> rfl
  refine hw.rephase (.of_relay_eq hw hposts hrelay (hfetches ▸ fun _ => id)) hfetches hids ?_ ?_ ?_ ?_
  · intro d hd
    rw [hphase'] at hd
    refine hw.todo d ?_
    rw [hphase]
    exact List.mem_cons_of_mem _ hd
  · rw [hawaiting]
    exact fun _ => id
  · rw [CurrentChannel, hphase']
    trivial
  · intro _ f hf hnot _ m hm habove
    rw [hawaiting] at hnot
    rcases eq_or_ne f.channelId c with hc | hc
    · exact (hscanning.covered f hf hc m hm habove).resolve_right List.not_mem_nil
    · refine hw.done (by simp [hphase]) f hf hnot ?_ m hm habove
      rw [hphase]
      exact fun heq => hc (Option.some.inj heq).symm

/-- **The step lemma**: every step keeps the invariant, as long as live messages come
in order. -/
theorem Inv.step (hw : Inv M w₀ w) (hgood : LiveInOrder M w act)
    (h : Telegram.step M w act = some w') : Inv M w₀ w' := by
  cases act with
  | post n =>
    simp only [Telegram.step] at h
    split at h
    · next hn =>
      rw [← Option.some.inj h]
      exact hw.background (grows_post hw hn) rfl rfl rfl
    · simp at h
  | relay act =>
    obtain ⟨r, hr, rfl⟩ := Option.map_eq_some_iff.1 h
    exact hw.background (grows_relay hw hr) rfl rfl rfl
  | work queue hasHistory =>
    rw [← Option.some.inj h]
    exact hw.background (.of_relay_eq hw rfl rfl fun _ => id) rfl rfl rfl
  | live n =>
    simp only [Telegram.step] at h
    split at h
    · next hlive =>
      rw [← Option.some.inj h]
      have hn := hlive.2.2
      refine hw.grows (grows_persist n hw.channelPosts) rfl rfl (hw.awaiting_persist hn ?_)
      intro hc m hm _ hck hlt
      have hchannel : m.channelId = n.channelId := (hw.channelPosts _).channel m hm
      rcases hgood n rfl hc m hm hck hlt with hpersisted | hnot
      · exact Or.inl (Or.inl hpersisted)
      · exact Or.inr (hchannel ▸ hnot)
    · simp at h
  | read =>
    simp only [Telegram.step] at h
    split at h
    · next hphase =>
      rw [← Option.some.inj h]
      exact hw.read hphase
    · simp at h
  | fetch now =>
    simp only [Telegram.step] at h
    split at h
    · next hphase =>
      split at h
      · next hnow =>
        rw [← Option.some.inj h]
        exact hw.fetch hphase hnow
      · simp at h
    · simp at h
  | retry =>
    simp only [Telegram.step] at h
    split at h
    · next pass c rest checkpoint attempt hphase =>
      split at h
      · rw [← Option.some.inj h]
        exact hw.retry hphase
      · simp at h
    · simp at h
  | persistNext =>
    simp only [Telegram.step] at h
    split at h
    · next hphase =>
      rw [← Option.some.inj h]
      exact hw.persistNext hphase
    · simp at h
  | finishChannel =>
    simp only [Telegram.step] at h
    split at h
    · next hphase =>
      rw [← Option.some.inj h]
      exact hw.finishChannel hphase rfl rfl rfl (fun c => by simp) rfl
    · next hphase =>
      rw [← Option.some.inj h]
      exact hw.finishChannel hphase rfl rfl rfl (fun _ => rfl) rfl
    · simp at h
  | register =>
    simp only [Telegram.step] at h
    split at h
    · next hphase =>
      rw [← Option.some.inj h]
      refine hw.rephase (.of_relay_eq hw rfl rfl fun _ => id) rfl (fun _ => rfl)
        (fun _ => id) ?_ trivial ?_
      · rw [hphase]
        exact fun _ => id
      · intro _ f hf hnot _
        refine hw.done (by simp [hphase]) f hf ?_ (by simp [hphase, Phase.current?])
        rw [hphase]
        exact hnot
    · simp at h
  | finish =>
    simp only [Telegram.step] at h
    split at h
    · next hphase =>
      rw [← Option.some.inj h]
      refine hw.rephase (.of_relay_eq hw rfl rfl fun _ => id) rfl (fun _ => rfl)
        (fun _ hd => absurd hd List.not_mem_nil) (fun _ hd => absurd hd List.not_mem_nil) trivial ?_
      intro _ f hf hnot _
      refine hw.done (by simp [hphase]) f hf ?_ (by simp [hphase, Phase.current?])
      rw [hphase]
      exact hnot
    · simp at h
  | fails =>
    simp only [Telegram.step] at h
    split at h
    · rw [← Option.some.inj h]
      exact hw.fails rfl rfl rfl (fun c => by simp) rfl
    · rw [← Option.some.inj h]
      exact hw.fails rfl rfl rfl (fun c => by simp) rfl
    · rw [← Option.some.inj h]
      exact hw.fails rfl rfl rfl (fun c => by simp) rfl
    · rw [← Option.some.inj h]
      exact hw.fails rfl rfl rfl (fun _ => rfl) rfl
    · rw [← Option.some.inj h]
      exact hw.fails rfl rfl rfl (fun _ => rfl) rfl
    · rw [← Option.some.inj h]
      exact hw.fails rfl rfl rfl (fun _ => rfl) rfl
    · simp at h

theorem Inv.of_init (h : (system M).init w₀) : Inv M w₀ w₀ := by
  obtain ⟨hposts, hphase, -, hfetches⟩ := h
  constructor
  · exact hposts
  · simp [hfetches]
  · simp [hfetches]
  · rw [hphase]
    exact fun _ => id
  · intro c _
    refine ⟨fun v hv => Or.inl hv, fun m hm habove hnot => absurd ?_ hnot⟩
    have hc : m.channelId = c := (hposts c).channel m hm
    exact hc ▸ habove
  · rw [CurrentChannel, hphase]
    trivial
  · simp [hfetches]

/-- **The start-up handover loses nothing while live messages come in order.**  For
any channels, stored checkpoints and interleaving: if no live message passes over a
message its channel still owes to the bridge, then everything the handover owes is
persisted when the bridge ends. -/
theorem handover_loses_nothing (hinit : (system M).init w₀)
    (hrun : (system M).RunUnder (LiveInOrder M) w₀ w) (hend : w.phase = .listening) :
    NothingLost M w₀ w := by
  have hw : Inv M w₀ w := hrun.invariant (Inv.of_init hinit) fun _ _ _ hw hgood h =>
    hw.step hgood h
  intro m howed
  obtain ⟨f, hf, hm⟩ := howed.scanned
  have hcovered : Covered M w m := by
    refine hw.done (by simp [hend]) f hf ?_ (by simp [hend, Phase.current?]) m hm howed.above
    rw [hend]
    exact List.not_mem_nil
  rcases hcovered with hpersisted | ⟨f', hf', hm', hnot⟩
  · exact hpersisted
  · exact absurd (howed.eligible f' hf' hm') hnot

/-! ## A live message that comes too early -/

/-- One configured channel, with the default settings. -/
def oneChannel : Monitor where
  config := .default
  hashes := ⟨fun _ => [], fun _ => []⟩
  channels := [plainMessage.channelId]

/-- The message after `plainMessage` in its channel. -/
def nextMessage : IncomingMessage :=
  { plainMessage with messageId := 2, messageId_pos := by decide }

/-- A start on empty tables, before anything is posted. -/
def quietStart : MonitorWorld where
  posts := fun _ => []
  relay := ⟨0, ∅, fun _ => .idle⟩
  checkpoints := ∅
  queue := ⟨[], []⟩
  hasHistory := fun _ => false
  phase := .next .catchUp oneChannel.scanned
  registered := false
  fetches := []

theorem quietStart_init : (system oneChannel).init quietStart :=
  ⟨fun _ => ⟨fun _ hm => absurd hm List.not_mem_nil, List.Pairwise.nil⟩, rfl, rfl, rfl⟩

/-- The first message is posted after the catch-up; the handler persists the second
one before the bridge reads the checkpoint. -/
def overtaken : MonitorWorld := (system oneChannel).endOf quietStart
  [.read, .fetch 0, .finishChannel, .post plainMessage, .register, .post nextMessage,
    .live nextMessage, .read, .fetch 0, .finishChannel, .finish]

/-- **The handover can lose a message.** -/
theorem message_lost : ¬ ∀ (M : Monitor) (w₀ w : MonitorWorld), (system M).init w₀ →
    (system M).Run w₀ w → w.phase = .listening → NothingLost M w₀ w := by
  intro hnothing
  have hfetches : overtaken.fetches =
      [⟨plainMessage.channelId, [plainMessage, nextMessage], 0⟩, ⟨plainMessage.channelId, [], 0⟩] :=
    rfl
  have howed : Owed oneChannel quietStart overtaken plainMessage := by
    refine ⟨List.mem_singleton_self _, ?_, ?_, ?_⟩
    · exact fun v hv => absurd hv (Option.not_mem_none v)
    · exact ⟨_, hfetches ▸ List.mem_cons_self, List.mem_cons_self⟩
    · intro f hf hm
      rw [hfetches] at hf
      rcases List.mem_cons.1 hf with rfl | hf
      · exact ⟨by decide, by decide⟩
      · rw [List.mem_singleton.1 hf] at hm
        exact absurd hm List.not_mem_nil
  have hpersisted := hnothing oneChannel quietStart overtaken quietStart_init
    (TransitionSystem.run_endOf rfl) rfl plainMessage howed
  exact absurd hpersisted (by decide)

/-- The handler persists the first message, and the second one is posted before the
bridge reads the checkpoint. -/
def inOrder : List MonitorAction :=
  [.read, .fetch 0, .finishChannel, .post plainMessage, .register, .live plainMessage,
    .post nextMessage, .read, .fetch 0, .persistNext, .finishChannel, .finish]

theorem liveInOrder_inOrder : ∀ act ∈ inOrder, ∀ w, LiveInOrder oneChannel w act := by
  intro act hact w n hn hc m hm hck hlt
  subst hn
  obtain rfl : n = plainMessage := by simpa [inOrder] using hact
  have hpos := m.messageId_pos
  have hlt : m.messageId < 1 := hlt
  omega

/-- A start-up in which live messages come in order loses nothing. -/
theorem handover_in_order :
    NothingLost oneChannel quietStart ((system oneChannel).endOf quietStart inOrder) :=
  handover_loses_nothing quietStart_init
    (TransitionSystem.runUnder_of_replay liveInOrder_inOrder (TransitionSystem.replay_endOf _ _ rfl))
    rfl

end Telegram
end PromoBot
