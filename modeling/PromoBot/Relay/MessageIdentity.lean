import Mathlib
import PromoBot.Relay.MessageJson
import PromoBot.Relay.Queue

/-!
# A persisted message and the next one under its id

Once a message was received, its row keeps what it was received with: no statement of the
repository writes the content of a row, its hash or its key, and `receive` inserts no second
row of a message (`StoredAs.step`).  So whatever happened in between, a message received later
under the same id is compared with the hash of the first, and that comparison is one of
contents (`contentHash_eq_iff`).  Rows from before the metadata was stored are told apart by
their marker, which `as_dict` never writes.

## What a hash has to see

A message under a known id is either the same one again, which is to be ignored, or an edited
one, which is to be reported.  What decides is the hash of a text in which everything that
counts is written down: the text of the message, its links with their places, the media, the
metadata.  Two things may go wrong with such a hash besides the hash itself.  Two contents may
have one text, which is excluded by showing that the text can be read back
(`Relay/MessageJson`).  And the text may be in a form of before, written without the metadata;
such a row must not be compared by the new form.

SHA-256 is a parameter, and is taken to be injective where the theorem needs it.  That is false
of any function to 64 characters, and it is how one says that nobody finds a collision: every
use of it is for two given messages.

## What may happen in between

`Statement` has every statement of the repository, with any arguments and on any row: claims,
leases, failures, recoveries, other messages, and the message itself again.  `Statements` is
any number of them, so the theorem is about the next receive after a history of any length.
-/

namespace PromoBot

open JsonText SqlTable SourceMessageRepository DurableRelayQueue

/-- Two messages have the same platform, number and channel. -/
def SameId (m n : IncomingMessage) : Prop :=
  m.platform = n.platform ∧ m.messageId = n.messageId ∧ m.channelId = n.channelId

/-- What a row was received with. -/
def SourceMessage.received (r : SourceMessage) :
    Text × Text × Text × Text × List ExtractedLink × MessageSurfaceMetadata × Bool × Text :=
  (r.platform, r.messageId, r.channelId, r.originalText, r.links, r.surfaceMetadata,
    r.legacyUnknown, r.contentHash)

/-! ## The statements of the repository -/

/-- One statement of the repository, by anyone. -/
inductive Statement (hashes : ContentHashes) : SourceMessages → SourceMessages → Prop
  | receive (t : SourceMessages) (m : IncomingMessage) : Statement hashes t (receive hashes t m).1
  | claim {t t' : SourceMessages} {i maxAttempts : Nat} {now leaseUntil : Instant} :
      claim t i now leaseUntil maxAttempts = some t' → Statement hashes t t'
  | complete (t : SourceMessages) (i : Nat) (now : Instant) : Statement hashes t (complete t i now)
  | renewLease (t : SourceMessages) (i : Nat) (leaseUntil : Instant) :
      Statement hashes t (renewLease t i leaseUntil)
  | fail {t t' : SourceMessages} {i maxAttempts : Nat} {f : Failure} :
      fail t i maxAttempts f = some t' → Statement hashes t t'
  | markContentMismatch (t : SourceMessages) (i : Nat) : Statement hashes t (markContentMismatch t i)
  | deferQueueFull (t : SourceMessages) (i : Nat) : Statement hashes t (deferQueueFull t i)
  | expirePilotProcessing (t : SourceMessages) (now : Instant) :
      Statement hashes t (expirePilotProcessing t now)
  | markExhausted (t : SourceMessages) (maxAttempts : Nat) :
      Statement hashes t (markExhausted t maxAttempts)

/-- Any number of statements. -/
abbrev Statements (hashes : ContentHashes) : SourceMessages → SourceMessages → Prop :=
  Relation.ReflTransGen (Statement hashes)

variable {hashes : ContentHashes} {t t' : SourceMessages} {m n : IncomingMessage} {i : Nat}

/-- The rows are there, each with what it was received with. -/
def KeepsReceived (t t' : SourceMessages) : Prop :=
  RowsRel (fun _ r r' => SourceMessage.received r' = SourceMessage.received r) t t'

theorem keepsReceived_updateWhere (t : SourceMessages) (p : Nat → SourceMessage → Prop)
    [∀ k r, Decidable (p k r)] {f : SourceMessage → SourceMessage}
    (hf : ∀ r, SourceMessage.received (f r) = SourceMessage.received r) :
    KeepsReceived t (t.updateWhere p f) :=
  rowsRel_updateWhere t p f (fun _ _ => rfl) fun _ r _ _ => hf r

/-- **Every statement but `receive` keeps what the rows were received with.** -/
theorem Statement.keepsReceived (h : Statement hashes t t') :
    (∃ m, t' = (SourceMessageRepository.receive hashes t m).1) ∨ KeepsReceived t t' := by
  cases h with
  | receive m => exact .inl ⟨m, rfl⟩
  | claim hclaim => exact .inr (rowsRel_updateOne hclaim (fun _ _ => rfl) fun _ _ _ => rfl)
  | complete i now => exact .inr (keepsReceived_updateWhere t _ fun _ => rfl)
  | renewLease i leaseUntil => exact .inr (keepsReceived_updateWhere t _ fun _ => rfl)
  | fail hfail =>
    obtain ⟨r, -, rfl⟩ := Option.map_eq_some_iff.1 hfail
    exact .inr (keepsReceived_updateWhere t _ fun _ => rfl)
  | markContentMismatch i => exact .inr (keepsReceived_updateWhere t _ fun _ => rfl)
  | deferQueueFull i => exact .inr (keepsReceived_updateWhere t _ fun _ => rfl)
  | expirePilotProcessing now => exact .inr (keepsReceived_updateWhere t _ fun _ => rfl)
  | markExhausted maxAttempts => exact .inr (keepsReceived_updateWhere t _ fun _ => rfl)

/-! ## The row of a message -/

/-- The message is stored in that row, and in no other. -/
structure StoredAs (hashes : ContentHashes) (t : SourceMessages) (m : IncomingMessage) (i : Nat) :
    Prop where
  row : ∃ r, t.get? i = some r ∧ SourceMessage.received r = (receivedRow hashes m).received
  only : ∀ j r, t.get? j = some r → SameMessage m r → j = i

theorem sameMessage_congr {r r' : SourceMessage} (h : r'.received = r.received) :
    SameMessage m r' ↔ SameMessage m r := by
  have hplatform : r'.platform = r.platform := congrArg (fun v => v.1) h
  have hid : r'.messageId = r.messageId := congrArg (fun v => v.2.1) h
  have hchannel : r'.channelId = r.channelId := congrArg (fun v => v.2.2.1) h
  rw [SameMessage, SameMessage, hplatform, hid, hchannel]

theorem sameMessage_of_sameId (h : SameId m n) (r : SourceMessage) :
    SameMessage n r ↔ SameMessage m r := by
  obtain ⟨hplatform, hid, hchannel⟩ := h
  rw [SameMessage, SameMessage, hplatform, hid, hchannel]

theorem storedAs_receive (h : ¬ Persisted t m) :
    StoredAs hashes (receive hashes t m).1 m (receive hashes t m).2.internalId := by
  have hnone : (t.select fun _ r => SameMessage m r) = [] := by
    by_contra hne
    exact h ((persisted_iff_select t m).2 hne)
  simp only [receive, hnone, List.head?_nil]
  refine ⟨⟨_, get?_put_self _ _ _, rfl⟩, fun j r hj hsame => ?_⟩
  show j = t.freshId
  by_contra hne
  rw [get?_put_ne _ _ hne] at hj
  exact h ⟨j, r, hj, hsame⟩

/-- **What is received next is looked for in the row of the message.** -/
theorem StoredAs.receive_eq (h : StoredAs hashes t m i) (hid : SameId m n) :
    ∃ r, t.get? i = some r ∧ SourceMessage.received r = (receivedRow hashes m).received ∧
      receive hashes t n = (t, receiveResult hashes n i r false) := by
  obtain ⟨r, hr, hreceived⟩ := h.row
  have hsame : SameMessage n r := by
    rw [sameMessage_of_sameId hid, sameMessage_congr hreceived]
    exact ⟨rfl, rfl, rfl⟩
  have hselected : (i, r) ∈ t.select fun _ r => SameMessage n r := mem_select.2 ⟨hr, hsame⟩
  refine ⟨r, hr, hreceived, ?_⟩
  cases hlist : t.select fun _ r => SameMessage n r with
  | nil =>
    rw [hlist] at hselected
    cases hselected
  | cons e rest =>
    obtain ⟨j, r'⟩ := e
    have hfirst : (j, r') ∈ t.select fun _ r => SameMessage n r := by
      rw [hlist]
      exact List.mem_cons_self
    obtain ⟨hr', hsame'⟩ := mem_select.1 hfirst
    obtain rfl := h.only j r' hr' ((sameMessage_of_sameId hid r').1 hsame')
    obtain rfl := Option.some.inj (hr.symm.trans hr')
    simp only [receive, hlist, List.head?_cons]

/-- **One statement keeps the row of a message.** -/
theorem StoredAs.step (h : StoredAs hashes t m i) (hstep : Statement hashes t t') :
    StoredAs hashes t' m i := by
  obtain ⟨n, rfl⟩ | hkeeps := hstep.keepsReceived
  · cases hhead : (t.select fun _ r => SameMessage n r).head? with
    | some e =>
      have hsame : (receive hashes t n).1 = t := by simp only [receive, hhead]
      rw [hsame]
      exact h
    | none =>
      have hput : (receive hashes t n).1 = t.put t.freshId (receivedRow hashes n) := by
        simp only [receive, hhead]
      obtain ⟨r, hr, hreceived⟩ := h.row
      have hfresh : i ≠ t.freshId := (lt_freshId_of_get? hr).ne
      rw [hput]
      refine ⟨⟨r, by rw [get?_put_ne _ _ hfresh, hr], hreceived⟩, fun j s hj hsame => ?_⟩
      by_cases hnew : j = t.freshId
      · -- A row that was inserted is of another message.
        subst hnew
        rw [get?_put_self] at hj
        obtain rfl := Option.some.inj hj
        have hid : SameMessage n r := by
          have hm : SameMessage m r := (sameMessage_congr hreceived).2 ⟨rfl, rfl, rfl⟩
          exact ⟨hm.1.trans hsame.1.symm, hm.2.1.trans hsame.2.1.symm, hm.2.2.trans hsame.2.2.symm⟩
        have hmem : (i, r) ∈ t.select fun _ r => SameMessage n r := mem_select.2 ⟨hr, hid⟩
        rw [List.head?_eq_none_iff.1 hhead] at hmem
        cases hmem
      · rw [get?_put_ne _ _ hnew] at hj
        exact h.only j s hj hsame
  · obtain ⟨r, hr, hreceived⟩ := h.row
    obtain ⟨r', hr', hsame⟩ := hkeeps.of_get? hr
    refine ⟨⟨r', hr', hsame.trans hreceived⟩, fun j s' hs' hmessage => ?_⟩
    obtain ⟨s, hs, hkept⟩ := hkeeps.of_get?' hs'
    exact h.only j s hs ((sameMessage_congr hkept).1 hmessage)

/-- **Any number of statements keep it.** -/
theorem StoredAs.run (h : StoredAs hashes t m i) (hrun : Statements hashes t t') :
    StoredAs hashes t' m i := by
  induction hrun with
  | refl => exact h
  | tail _ hstep ih => exact ih.step hstep

/-! ## The answer -/

/-- What `persist_without_enqueue` answers for a message under the id of one that is stored. -/
theorem StoredAs.persistWithoutEnqueue (h : StoredAs hashes t m i) (hid : SameId m n)
    (hasHistory : Nat → Bool) (c : TelegramCheckpoints) :
    (DurableRelayQueue.persistWithoutEnqueue hashes hasHistory t c n).2.2.internalId = i ∧
      (DurableRelayQueue.persistWithoutEnqueue hashes hasHistory t c n).2.2.created = false ∧
      (DurableRelayQueue.persistWithoutEnqueue hashes hasHistory t c n).2.2.legacyCompatible =
        false ∧
      (DurableRelayQueue.persistWithoutEnqueue hashes hasHistory t c n).2.2.contentMatches =
        decide (hashes.contentHash m = hashes.contentHash n) := by
  obtain ⟨r, -, hreceived, hreceive⟩ := h.receive_eq hid
  have hlegacy : r.legacyUnknown = false := congrArg (fun v => v.2.2.2.2.2.2.1) hreceived
  have hhash : r.contentHash = hashes.contentHash m :=
    congrArg (fun v => v.2.2.2.2.2.2.2) hreceived
  simp only [DurableRelayQueue.persistWithoutEnqueue, hreceive, persistedMessage, receiveResult,
    hlegacy, hhash]
  simp

/-- **Messages come back whole and are known by their hash.**  The links and the metadata read
from their columns are those that were stored.  With SHA-256 taken as injective, two messages
have the same hash exactly when they have the same content.  And when a message was received,
whatever the repository did since, one received under the same id is recognised exactly when
its content is the same, and is a mismatch otherwise. -/
theorem message_identified {sha256 : ByteArray → Text} (hsha : Function.Injective sha256) :
    (∀ m : IncomingMessage, readLinks (jsonColumn (linksJson m.links)) = some m.links ∧
      readSurface (jsonColumn m.surfaceMetadata.asDict) = some m.surfaceMetadata) ∧
    (∀ m n : IncomingMessage,
      (messageHashes sha256).contentHash m = (messageHashes sha256).contentHash n ↔
        SameContent m n) ∧
    ∀ (t t' : SourceMessages) (m n : IncomingMessage), ¬ Persisted t m →
      Statements (messageHashes sha256) (receive (messageHashes sha256) t m).1 t' → SameId m n →
      ∀ (hasHistory : Nat → Bool) (c : TelegramCheckpoints), ∃ answer,
        (persistWithoutEnqueue (messageHashes sha256) hasHistory t' c n).2.2 = answer ∧
        answer.internalId = (receive (messageHashes sha256) t m).2.internalId ∧
        answer.created = false ∧ answer.legacyCompatible = false ∧
        (answer.contentMatches = true ↔ SameContent m n) := by
  refine ⟨fun m => ⟨readLinks_jsonColumn m.links, readSurface_jsonColumn m.surfaceMetadata⟩,
    fun m n => contentHash_eq_iff hsha, fun t t' m n hnew hrun hid hasHistory c => ?_⟩
  obtain ⟨hinternal, hcreated, hlegacy, hmatches⟩ :=
    ((storedAs_receive hnew).run hrun).persistWithoutEnqueue hid hasHistory c
  refine ⟨_, rfl, hinternal, hcreated, hlegacy, ?_⟩
  rw [hmatches, decide_eq_true_eq]
  exact contentHash_eq_iff hsha

/-! ## A message that was edited -/

example : dumps .compact (sortKeys (.obj plainMessage.payload)) =
    ("\x7b\"links\":[],\"surface_metadata\":\x7b\"flattened_entity_types\":[]," ++
      "\"has_buttons\":false,\"has_caption\":false,\"has_custom_emoji\":false," ++
      "\"has_hidden_links\":false,\"has_media\":false,\"unsupported_entity_types\":[]\x7d," ++
      "\"text\":\"oi\"\x7d").toList := by decide +kernel

/-- `plainMessage`, with another text. -/
def editedMessage : IncomingMessage := { plainMessage with originalText := "oi!".toList }

/-- A digest that is right on the two messages, and injective. -/
def twoDigests (bytes : ByteArray) : Text :=
  if bytes = hashedBytes plainMessage.payload then
    "f648398570e21c9320a3cd0ff41c9e95db3c690d993f7b16d1699559958ebd11".toList
  else if bytes = hashedBytes editedMessage.payload then
    "6a5e7037d0a39c9ad2093a6ba680fbc67026cb4c089448d483bbf3b70c4167de".toList
  else '#' :: bytes.data.toList.map Char.ofUInt8

theorem twoDigests_injective : Function.Injective twoDigests := by
  have hchars : Function.Injective Char.ofUInt8 := by
    intro a b hab
    exact UInt8.toUInt32_inj.1 (congrArg Char.val hab)
  intro a b h
  unfold twoDigests at h
  split_ifs at h with ha hb hb' ha' hb hb' hb hb'
  · exact ha.trans hb.symm
  · exact absurd h (by decide)
  · cases h
  · exact absurd h (by decide)
  · exact ha'.trans hb'.symm
  · cases h
  · cases h
  · cases h
  · have hlists := (List.map_injective_iff.2 hchars) (List.cons.inj h).2
    exact ByteArray.ext (Array.toList_inj.1 hlists)

/-- The edited message is a mismatch, after the first was processed. -/
theorem message_identified_edited :
    (persistWithoutEnqueue (messageHashes twoDigests) (fun _ => false)
      (complete (receive (messageHashes twoDigests) ∅ plainMessage).1 1 0) ∅
      editedMessage).2.2.contentMatches = false := by
  obtain ⟨-, -, hrun⟩ := message_identified twoDigests_injective
  obtain ⟨answer, hanswer, -, -, -, hmatches⟩ := hrun ∅ _ plainMessage editedMessage (by decide)
    (.single (.complete _ 1 0)) ⟨rfl, rfl, rfl⟩ (fun _ => false) ∅
  have hedited : ¬ SameContent plainMessage editedMessage := by decide
  rw [hanswer]
  cases hvalue : answer.contentMatches with
  | false => rfl
  | true => exact absurd (hmatches.1 hvalue) hedited

end PromoBot
