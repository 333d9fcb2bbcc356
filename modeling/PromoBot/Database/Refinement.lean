import PromoBot.Database.Candidates
import PromoBot.Database.Deliveries
import PromoBot.Database.SourceMessages
import PromoBot.Lib.StateMachine

/-!
# The repositories and the declared state machines

`domain/state_machines.py` declares a transition table for each of the three workflows; the
repositories never consult them.  Here all their operations act on one database, and every row
is compared with its table.

The deliveries stay inside theirs.  Two tables are left by design: a later message with other
content makes a completed source message a permanent failure, and the generation of affiliate
links takes candidates from `PENDING_AFFILIATE`, `FAILED_RETRYABLE` and `AFFILIATE_GENERATED`,
and into `AFFILIATE_GENERATED`, none of which the candidate table mentions.
`sourceMessageMoves` and `candidateMoves` are the declared tables with exactly these edges
added.

`SourceMessageRepository.fail` has no guard on the state; nothing is said here of what it does
to a row which is not in `PROCESSING`.

## Two levels

A declared table is a relation on states, and an operation is a statement on rows.  In between
is `Change`, which each repository module proves of its own operations: what one call may do to
the row of one number, with all the columns and the guards.  A `Change` is then a move of the
declared table or leaves the state alone (`sourceMove_of_change` and its siblings), and so is a
step of the whole database, since an operation writes one table and every other row of it is
untouched.

Runs come from `Lib.StateMachine`: whoever stays inside a table stays, in a state without
successors, for good.  That is what makes the added edges worth naming.  `ENRICHED` and the
closed states of deliveries have no successors in the larger tables either, and
`FAILED_PERMANENT` has none, so those are final whatever the repositories do; `COMPLETED` is
final but for the one edge. `not_insideDeclared` shows that none of the added edges is idle.
-/

namespace PromoBot
namespace Repositories

open SqlTable StateMachine

/-! ## The operations -/

/-- The updates of `SourceMessageRepository`. -/
inductive SourceOp
  | receive (hashes : ContentHashes) (m : IncomingMessage)
  | claim (i : Nat) (now leaseUntil : Instant) (maxAttempts : Nat)
  | complete (i : Nat) (now : Instant)
  | renewLease (i : Nat) (leaseUntil : Instant)
  | fail (i maxAttempts : Nat) (f : SourceMessageRepository.Failure)
  | markContentMismatch (i : Nat)
  | deferQueueFull (i : Nat)
  | expirePilotProcessing (now : Instant)
  | markExhausted (maxAttempts : Nat)

/-- What an operation leaves behind; `none` when it changed nothing and said so. -/
def SourceOp.run (t : SourceMessages) : SourceOp → Option SourceMessages
  | .receive hashes m => some (SourceMessageRepository.receive hashes t m).1
  | .claim i now lease n => SourceMessageRepository.claim t i now lease n
  | .complete i now => some (SourceMessageRepository.complete t i now)
  | .renewLease i lease => some (SourceMessageRepository.renewLease t i lease)
  | .fail i n f => SourceMessageRepository.fail t i n f
  | .markContentMismatch i => some (SourceMessageRepository.markContentMismatch t i)
  | .deferQueueFull i => some (SourceMessageRepository.deferQueueFull t i)
  | .expirePilotProcessing now => some (SourceMessageRepository.expirePilotProcessing t now)
  | .markExhausted n => some (SourceMessageRepository.markExhausted t n)

/-- The updates of `AffiliateCandidateRepository`, and the sweep of the link
history. -/
inductive CandidateOp
  | ensure (store : Store) (product variation canonical : Text)
  | claim (i : Nat) (now leaseUntil : Instant) (maxAttempts : Nat)
  | claimForGeneration (blocked : Bool) (i : Nat) (now leaseUntil : Instant) (maxAttempts : Nat)
  | markAwaitingGeneration (i : Nat) (now : Instant)
  | markAffiliateGenerated (i : Nat) (now expectedStartedAt : Instant) (expectedAttempt : Nat)
  | markEnriched (i : Nat) (now : Instant) (productId dealId : Nat)
  | fail (i : Nat) (now : Instant) (target : AffiliateCandidateState)
      (nextAttemptAt : Option Instant) (code : String) (summary : Option Text)
      (owner : AffiliateCandidateRepository.Owner)
  | markInterrupted (i : Nat)

/-- What an operation leaves behind; `none` when it raised or took no row. -/
def CandidateOp.run (t : AffiliateCandidates) : CandidateOp → Option AffiliateCandidates
  | .ensure store product variation canonical =>
    some (AffiliateCandidateRepository.ensure t store product variation canonical)
  | .claim i now lease n => AffiliateCandidateRepository.claim t i now lease n
  | .claimForGeneration blocked i now lease n =>
    AffiliateCandidateRepository.claimForGeneration t blocked i now lease n
  | .markAwaitingGeneration i now =>
    AffiliateCandidateRepository.markAwaitingGeneration t i now
  | .markAffiliateGenerated i now started attempt =>
    AffiliateCandidateRepository.markAffiliateGenerated t i now started attempt
  | .markEnriched i now product deal =>
    AffiliateCandidateRepository.markEnriched t i now product deal
  | .fail i now target next code summary owner =>
    AffiliateCandidateRepository.fail t i now target next code summary owner
  | .markInterrupted i => some (AffiliateCandidateRepository.markInterrupted t i)

/-- The updates of `DeliveryRepository`. -/
inductive DeliveryOp
  | ensurePending (dealId : Nat) (key chat : Text) (purpose : DeliveryPurpose)
  | claim (i : Nat) (now leaseUntil : Instant) (maxAttempts : Nat)
  | markSent (i : Nat) (messageId : Text) (sentAt : Instant)
  | markRetryable (i : Nat) (transitionedAt nextAttemptAt : Instant) (code : String)
  | markAmbiguous (i : Nat) (transitionedAt : Instant) (code : String)
  | markPermanent (i : Nat) (transitionedAt : Instant) (code : String)
  | markStaleSendingAmbiguous (now : Instant)

/-- What an operation leaves behind; `none` when it raised or took no row. -/
def DeliveryOp.run (t : Deliveries) : DeliveryOp → Option Deliveries
  | .ensurePending deal key chat purpose =>
    DeliveryRepository.ensurePending t deal key chat purpose
  | .claim i now lease n => DeliveryRepository.claim t i now lease n
  | .markSent i m sentAt => DeliveryRepository.markSent t i m sentAt
  | .markRetryable i now next code => DeliveryRepository.markRetryable t i now next code
  | .markAmbiguous i now code => DeliveryRepository.markAmbiguous t i now code
  | .markPermanent i now code => DeliveryRepository.markPermanent t i now code
  | .markStaleSendingAmbiguous now =>
    some (DeliveryRepository.markStaleSendingAmbiguous t now)

/-- The three tables. -/
structure Db where
  sources : SourceMessages
  candidates : AffiliateCandidates
  deliveries : Deliveries

/-- An operation on one of them. -/
inductive Op
  | source (op : SourceOp)
  | candidate (op : CandidateOp)
  | delivery (op : DeliveryOp)

/-- One operation. -/
def step (db : Db) : Op → Option Db
  | .source op => (op.run db.sources).map fun t => { db with sources := t }
  | .candidate op => (op.run db.candidates).map fun t => { db with candidates := t }
  | .delivery op => (op.run db.deliveries).map fun t => { db with deliveries := t }

/-- All repository operations, from the empty database on. -/
def system : TransitionSystem Db Op where
  init db := db = ⟨∅, ∅, ∅⟩
  step := step

/-- The state of a source message, if there is one of that number. -/
def Db.sourceState (i : Nat) (db : Db) : Option SourceMessageState :=
  (db.sources.get? i).map SourceMessage.processingStatus

def Db.candidateState (i : Nat) (db : Db) : Option AffiliateCandidateState :=
  (db.candidates.get? i).map AffiliateCandidate.state

def Db.deliveryState (i : Nat) (db : Db) : Option DeliveryState :=
  (db.deliveries.get? i).map Delivery.state

/-! ## The tables with the edges taken by design -/

/-- The source-message table, and a completed message whose content changed. -/
def sourceMessageMoves : SourceMessageState → List SourceMessageState
  | .completed => [.failedPermanent]
  | s => sourceMessageTransitions s

/-- The candidate table, and the edges of link generation. -/
def candidateMoves : AffiliateCandidateState → List AffiliateCandidateState
  | .pendingAffiliate => .generatingAffiliate :: affiliateCandidateTransitions .pendingAffiliate
  | .failedRetryable => .generatingAffiliate :: affiliateCandidateTransitions .failedRetryable
  | .affiliateGenerated => [.generatingAffiliate]
  | .generatingAffiliate =>
    .affiliateGenerated :: affiliateCandidateTransitions .generatingAffiliate
  | s => affiliateCandidateTransitions s

/-! ## Every operation moves along an edge -/

theorem sourceMessageTransitions_subset (s : SourceMessageState) :
    sourceMessageTransitions s ⊆ sourceMessageMoves s := by
  cases s <;> simp [sourceMessageMoves, sourceMessageTransitions]

theorem affiliateCandidateTransitions_subset (s : AffiliateCandidateState) :
    affiliateCandidateTransitions s ⊆ candidateMoves s := by
  cases s <;> simp [candidateMoves, affiliateCandidateTransitions]

section Sources

open SourceMessageRepository

abbrev SourceMove : Option SourceMessageState → Option SourceMessageState → Prop :=
  Move .received sourceMessageMoves

/-- What the repository does to a source message is a move, if `fail` is called
only on rows in `PROCESSING`. -/
theorem sourceMove_of_change {r r' : Option SourceMessage} (h : Change Processing r r') :
    SourceMove (r.map (·.processingStatus)) (r'.map (·.processingStatus)) := by
  cases h with
  | keep => exact .stay _
  | receive => exact .create
  | claim hclaim =>
    rcases hclaim.2 with h | ⟨h, _⟩ | ⟨h, _⟩
    · exact .of_eq (b := .processing) h rfl (by decide)
    · exact .of_eq (b := .processing) h rfl (by decide)
    · rw [Option.map_some, h]
      exact .stay _
  | complete hproc => exact .of_eq (b := .completed) hproc rfl (by decide)
  | renew => exact .stay _
  | fail f n hproc =>
    refine .of_eq hproc rfl ?_
    show Failure.state f n _ ∈ _
    unfold Failure.state
    split <;> decide
  | mismatch r =>
    cases hs : r.processingStatus with
    | failedPermanent =>
      rw [Option.map_some, hs]
      exact .stay _
    | received | processing | completed | failedRetryable =>
      exact .of_eq (b := .failedPermanent) hs rfl (by decide)
  | defer => exact .stay _
  | expire hexp => exact .of_eq (b := .failedPermanent) hexp.1 rfl (by decide)
  | exhaust hex =>
    have hmem := hex.2
    simp only [List.mem_cons, List.not_mem_nil, or_false] at hmem
    rcases hmem with h | h | h <;> exact .of_eq (b := .failedPermanent) h rfl (by decide)

end Sources

section Candidates

open AffiliateCandidateRepository

abbrev CandidateMove : Option AffiliateCandidateState → Option AffiliateCandidateState → Prop :=
  Move .pendingAffiliate candidateMoves

theorem candidateMove_of_leased {now : Instant} {r : AffiliateCandidate} (h : Leased now r)
    {s : AffiliateCandidateState} (hs : s = .enriched ∨ s ∈ failureStates) :
    CandidateMove (some r.state) (some s) := by
  have hmem := h.1
  simp only [List.mem_cons, List.not_mem_nil, or_false] at hmem
  simp only [failureStates, List.mem_cons, List.not_mem_nil, or_false] at hs
  rcases hmem with hr | hr <;> rcases hs with rfl | rfl | rfl | rfl <;>
  · rw [hr]
    exact .edge (by decide)

/-- What is done to a candidate is a move. -/
theorem candidateMove_of_change {r r' : Option AffiliateCandidate} (h : Change r r') :
    CandidateMove (r.map (·.state)) (r'.map (·.state)) := by
  cases h with
  | keep => exact .stay _
  | insert => exact .create
  | claim hclaim =>
    rcases hclaim.2 with h | ⟨h, _⟩ | ⟨h, _⟩
    · exact .of_eq (b := .validating) h rfl (by decide)
    · exact .of_eq (b := .validating) h rfl (by decide)
    · rw [Option.map_some, h]
      exact .stay _
  | claimForGeneration hgen =>
    rcases hgen.2 with hmem | ⟨h, _⟩
    · simp only [List.mem_cons, List.not_mem_nil, or_false] at hmem
      rcases hmem with h | h | h <;> exact .of_eq (b := .generatingAffiliate) h rfl (by decide)
    · exact .of_eq (b := .generatingAffiliate) h rfl (by decide)
  | await hawait => exact .of_eq (b := .awaitingAffiliateGeneration) hawait.1 rfl (by decide)
  | generate hgen => exact .of_eq (b := .affiliateGenerated) hgen.1 rfl (by decide)
  | enrich hleased => exact candidateMove_of_leased hleased (Or.inl rfl)
  | fail hleased htarget => exact candidateMove_of_leased hleased (Or.inr htarget)
  | interrupt hstate => exact .of_eq (b := .manualReview) hstate rfl (by decide)

end Candidates

section Deliveries

open DeliveryRepository

/-- The moves of one delivery: the declared table, as it stands. -/
abbrev DeliveryMove : Option DeliveryState → Option DeliveryState → Prop :=
  Move .pending deliveryTransitions

/-- What the repository does to a delivery is a move. -/
theorem deliveryMove_of_change {n : Nat} {r r' : Option Delivery} (h : Change n r r') :
    DeliveryMove (r.map (·.state)) (r'.map (·.state)) := by
  cases h with
  | keep => exact .stay _
  | insert => exact .create
  | claim hclaim =>
    rcases hclaim.2 with h | ⟨h, _⟩ <;> exact .of_eq (b := .sending) h rfl (by decide)
  | finish hfin hstate =>
    refine .of_eq hfin.1 rfl ?_
    simp only [List.mem_cons, List.not_mem_nil, or_false] at hstate
    rcases hstate with rfl | rfl | rfl | rfl <;>
      simp [deliveryTransitions, DeliveryRepository.finished]
  | sweep hstale => exact .of_eq (b := .deliveryAmbiguous) hstale.1 rfl (by decide)

end Deliveries

/-! ## Every step and every run -/

/-- `fail` is called on source messages in `PROCESSING` only. -/
def FailsOnlyProcessing (db : Db) (op : Op) : Prop :=
  ∀ i n f r, op = .source (.fail i n f) → db.sources.get? i = some r →
    SourceMessageRepository.Processing r

variable {db db' : Db} {op : Op}

theorem sourceMove_step (hgood : FailsOnlyProcessing db op) (h : step db op = some db')
    (i : Nat) : SourceMove (db.sourceState i) (db'.sourceState i) := by
  cases op with
  | source op =>
    simp only [step, Option.map_eq_some_iff] at h
    obtain ⟨t, ht, rfl⟩ := h
    refine sourceMove_of_change ?_
    cases op with
    | claim j now lease n => exact SourceMessageRepository.change_claim ht i
    | fail j n f =>
      exact SourceMessageRepository.change_fail ht (fun r hr => hgood j n f r rfl hr) i
    | receive hashes m =>
      exact Option.some.inj ht ▸ SourceMessageRepository.change_receive hashes _ m i
    | complete j now => exact Option.some.inj ht ▸ SourceMessageRepository.change_complete _ j now i
    | renewLease j lease =>
      exact Option.some.inj ht ▸ SourceMessageRepository.change_renewLease _ j lease i
    | markContentMismatch j =>
      exact Option.some.inj ht ▸ SourceMessageRepository.change_markContentMismatch _ j i
    | deferQueueFull j =>
      exact Option.some.inj ht ▸ SourceMessageRepository.change_deferQueueFull _ j i
    | expirePilotProcessing now =>
      exact Option.some.inj ht ▸ SourceMessageRepository.change_expirePilotProcessing _ now i
    | markExhausted n =>
      exact Option.some.inj ht ▸ SourceMessageRepository.change_markExhausted _ n i
  | candidate op | delivery op =>
    simp only [step, Option.map_eq_some_iff] at h
    obtain ⟨t, _, rfl⟩ := h
    exact .stay _

theorem candidateMove_step (h : step db op = some db') (i : Nat) :
    CandidateMove (db.candidateState i) (db'.candidateState i) := by
  cases op with
  | candidate op =>
    simp only [step, Option.map_eq_some_iff] at h
    obtain ⟨t, ht, rfl⟩ := h
    refine candidateMove_of_change ?_
    cases op with
    | ensure store product variation canonical =>
      exact Option.some.inj ht ▸
        AffiliateCandidateRepository.change_ensure _ store product variation canonical i
    | claim => exact AffiliateCandidateRepository.change_claim ht i
    | claimForGeneration => exact AffiliateCandidateRepository.change_claimForGeneration ht i
    | markAwaitingGeneration =>
      exact AffiliateCandidateRepository.change_markAwaitingGeneration ht i
    | markAffiliateGenerated =>
      exact AffiliateCandidateRepository.change_markAffiliateGenerated ht i
    | markEnriched => exact AffiliateCandidateRepository.change_markEnriched ht i
    | fail => exact AffiliateCandidateRepository.change_fail ht i
    | markInterrupted j =>
      exact Option.some.inj ht ▸ AffiliateCandidateRepository.change_markInterrupted _ j i
  | source op | delivery op =>
    simp only [step, Option.map_eq_some_iff] at h
    obtain ⟨t, _, rfl⟩ := h
    exact .stay _

theorem deliveryMove_step (h : step db op = some db') (i : Nat) :
    DeliveryMove (db.deliveryState i) (db'.deliveryState i) := by
  cases op with
  | delivery op =>
    simp only [step, Option.map_eq_some_iff] at h
    obtain ⟨t, ht, rfl⟩ := h
    cases op with
    | ensurePending =>
      exact deliveryMove_of_change (n := 0) (DeliveryRepository.change_ensurePending ht i)
    | claim => exact deliveryMove_of_change (DeliveryRepository.change_claim ht i)
    | markSent => exact deliveryMove_of_change (n := 0) (DeliveryRepository.change_markSent ht i)
    | markRetryable =>
      exact deliveryMove_of_change (n := 0) (DeliveryRepository.change_markRetryable ht i)
    | markAmbiguous =>
      exact deliveryMove_of_change (n := 0) (DeliveryRepository.change_markAmbiguous ht i)
    | markPermanent =>
      exact deliveryMove_of_change (n := 0) (DeliveryRepository.change_markPermanent ht i)
    | markStaleSendingAmbiguous now =>
      exact Option.some.inj ht ▸ deliveryMove_of_change (n := 0)
        (DeliveryRepository.change_markStaleSendingAmbiguous _ now i)
  | source op | candidate op =>
    simp only [step, Option.map_eq_some_iff] at h
    obtain ⟨t, _, rfl⟩ := h
    exact .stay _

/-- **The repositories refine the state machines, with the edges taken by design
added.**  Every operation moves every row along an edge or leaves its state
alone, as long as `fail` is called on source messages in `PROCESSING` only.  In
every run of such operations, a source message in `FAILED_PERMANENT`, a candidate
in `ENRICHED` or `FAILED_PERMANENT`, and a delivery in `SENT` or
`FAILED_PERMANENT` never change state again, and a completed source message can
only become a permanent failure. -/
theorem repositories_refine_state_machines (db : Db) (i : Nat) :
    (∀ op db', FailsOnlyProcessing db op → step db op = some db' →
      SourceMove (db.sourceState i) (db'.sourceState i) ∧
      CandidateMove (db.candidateState i) (db'.candidateState i) ∧
      DeliveryMove (db.deliveryState i) (db'.deliveryState i)) ∧
    ∀ db', system.RunUnder FailsOnlyProcessing db db' →
      (db.sourceState i = some .failedPermanent → db'.sourceState i = some .failedPermanent) ∧
      (db.sourceState i = some .completed →
        db'.sourceState i = some .completed ∨ db'.sourceState i = some .failedPermanent) ∧
      (∀ s, candidateMoves s = [] → db.candidateState i = some s →
        db'.candidateState i = some s) ∧
      (∀ s, deliveryTransitions s = [] → db.deliveryState i = some s →
        db'.deliveryState i = some s) := by
  refine ⟨fun op db' hgood h => ⟨sourceMove_step hgood h i, candidateMove_step h i,
    deliveryMove_step h i⟩, fun db' hrun => ?_⟩
  have hsource : Life .received sourceMessageMoves (db.sourceState i) (db'.sourceState i) :=
    life_of_run (Db.sourceState i) (fun _ _ _ hgood h => sourceMove_step hgood h i) hrun
  have hcandidate : Life .pendingAffiliate candidateMoves (db.candidateState i)
      (db'.candidateState i) :=
    life_of_run (Db.candidateState i) (fun _ _ _ _ h => candidateMove_step h i) hrun
  have hdelivery : Life .pending deliveryTransitions (db.deliveryState i)
      (db'.deliveryState i) :=
    life_of_run (Db.deliveryState i) (fun _ _ _ _ h => deliveryMove_step h i) hrun
  refine ⟨fun h => ?_, fun h => ?_, fun s hs h => ?_, fun s hs h => ?_⟩
  · rw [h] at hsource
    exact hsource.of_terminal rfl
  · rw [h] at hsource
    obtain ⟨b, hb, hmem⟩ := hsource.of_closed
      (P := fun s => s = .completed ∨ s = .failedPermanent) (by
        rintro a b (rfl | rfl) hab
        · exact Or.inr (by simpa [sourceMessageMoves] using hab)
        · simp [sourceMessageMoves, sourceMessageTransitions] at hab) (Or.inl rfl)
    rcases hmem with rfl | rfl
    · exact Or.inl hb
    · exact Or.inr hb
  · rw [h] at hcandidate
    exact hcandidate.of_terminal hs
  · rw [h] at hdelivery
    exact hdelivery.of_terminal hs

/-! ## The edges the declared tables do not have -/

/-- An operation that keeps every row inside the three declared tables. -/
def InsideDeclared (db db' : Db) : Prop :=
  ∀ i, Move .received sourceMessageTransitions (db.sourceState i) (db'.sourceState i) ∧
    Move .pendingAffiliate affiliateCandidateTransitions (db.candidateState i)
      (db'.candidateState i) ∧
    Move .pending deliveryTransitions (db.deliveryState i) (db'.deliveryState i)

/-- A message which is completed, and then found with other content. -/
def completedThenMismatched : List Op :=
  [.source (.receive ⟨fun _ => [], fun _ => []⟩ plainMessage),
    .source (.claim 1 0 900 5), .source (.complete 1 1), .source (.markContentMismatch 1)]

/-- A candidate which goes through link generation twice and then fails. -/
def generatedTwice : List Op :=
  [.candidate (.ensure .aliexpress "1005".toList [] "https://www.aliexpress.com".toList),
    .candidate (.claimForGeneration false 1 0 300 3),
    .candidate (.markAffiliateGenerated 1 1 0 1),
    .candidate (.claimForGeneration false 1 2 300 3),
    .candidate (.fail 1 3 .failedRetryable none "X" none (some (2, 1))),
    .candidate (.claimForGeneration false 1 4 300 3)]

/-- **The declared tables are left.**  Not every operation keeps the rows inside
them; and each of the added edges is taken on one of the two schedules. -/
theorem not_insideDeclared :
    (¬ ∀ db op db', system.Reachable db → step db op = some db' → InsideDeclared db db') ∧
    (completedThenMismatched.inits.map fun ops =>
        (system.endOf ⟨∅, ∅, ∅⟩ ops).sourceState 1) =
      [none, some .received, some .processing, some .completed, some .failedPermanent] ∧
    (generatedTwice.inits.map fun ops => (system.endOf ⟨∅, ∅, ∅⟩ ops).candidateState 1) =
      [none, some .pendingAffiliate, some .generatingAffiliate, some .affiliateGenerated,
        some .generatingAffiliate, some .failedRetryable, some .generatingAffiliate] := by
  refine ⟨fun hinside => ?_, rfl, rfl⟩
  have hreach : system.Reachable (system.endOf ⟨∅, ∅, ∅⟩ (generatedTwice.take 1)) :=
    ⟨⟨∅, ∅, ∅⟩, rfl, TransitionSystem.run_endOf rfl⟩
  have hmove := (hinside _ (.candidate (.claimForGeneration false 1 0 300 3))
    (system.endOf ⟨∅, ∅, ∅⟩ (generatedTwice.take 2)) hreach rfl 1).2.1
  generalize hx : (system.endOf ⟨∅, ∅, ∅⟩ (generatedTwice.take 1)).candidateState 1 = x at hmove
  generalize hy : (system.endOf ⟨∅, ∅, ∅⟩ (generatedTwice.take 2)).candidateState 1 = y at hmove
  obtain rfl : some .pendingAffiliate = x := hx
  obtain rfl : some .generatingAffiliate = y := hy
  cases hmove with
  | edge hedge => exact absurd hedge (by decide)

/-- After the mismatch nothing but a failed row is left, however the repositories
go on. -/
theorem mismatched_stays_failed : ∀ db',
    system.RunUnder FailsOnlyProcessing (system.endOf ⟨∅, ∅, ∅⟩ completedThenMismatched) db' →
    db'.sourceState 1 = some .failedPermanent :=
  fun db' hrun => ((repositories_refine_state_machines
    (system.endOf ⟨∅, ∅, ∅⟩ completedThenMismatched) 1).2 db' hrun).1 rfl

end Repositories
end PromoBot
