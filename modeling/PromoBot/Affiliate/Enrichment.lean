import PromoBot.Database.Candidates
import PromoBot.Lib.TransitionSystem

/-!
# Workers that enrich candidates

A worker claims a candidate (`AffiliateCandidateRepository.claim`), asks a provider about the
product, and ends its claim: it stores the offer (`persist` of `affiliate/service.py`, which
ends in `mark_enriched`), reports a failure, or sends the candidate on to wait for a generated
link.  Any number of workers do this at their own pace, beside the generation of links, and
each may die at every point.

The statements that end a claim ask for a state and a lease.  None of them has to name the
claim, and each compares the lease with the time its caller passes, which for `persist` is the
time the provider answered.  `lost_call_unchanged_iff` says what that means for a worker which
has lost its claim.

## What a worker cannot know

A row does not say who claimed it, only until when, so two claims of one row by two workers
cannot be told apart by what a statement asks.  The model therefore keeps beside the tables who
made the last claim of each candidate (`World.claimer`).  No guard of a statement reads it: it
is there so that *lost* can be said at all, in `Reclaimed` and `Holds`.  A worker loses its
claim in two ways, when its lease runs out and when another one claims the row, and both are
for good (`Reclaimed.not_holds`), since a worker claims once and the claimer of a row changes
only with a claim.

## The exact condition

For each of the four calls `Call.Takes` is what its statement asks of the row: a state, and for
some a lease beyond the time that was passed.  `call_unchanged_iff` is the lemma that a call
which does not find such a row changes nothing, and that one which does find it moves it to
another state, so the two cannot be confused.  The theorem is then about the row as it is now,
in any reachable world: it stays as it is exactly if the late call does not take it.
`claim_not_fenced` is the run in which it does.
-/

namespace PromoBot
namespace Enrichment

open SqlTable AffiliateCandidateRepository

/-! ## Storing an offer -/

/-- The two services with a `persist`. -/
inductive Service
  | shopee | aliExpress
  deriving DecidableEq, Repr

/-- The product an offer is for (`product_snapshot.reference`). -/
structure Reference where
  externalProductId : Text
  canonicalUrl : Text
  variationKey : Text
  deriving DecidableEq

/-- The offer belongs to the candidate. -/
def Belongs : Service → Reference → AffiliateCandidate → Prop
  | .shopee, q, r => r.externalProductId = q.externalProductId ∧ r.canonicalUrl = q.canonicalUrl
  | .aliExpress, q, r => r.store = .aliexpress ∧ r.externalProductId = q.externalProductId ∧
    r.canonicalUrl = q.canonicalUrl ∧ r.variationKey = q.variationKey

instance : (service : Service) → (q : Reference) → DecidablePred (Belongs service q)
  | .shopee, _ => fun _ => inferInstanceAs (Decidable (_ ∧ _))
  | .aliExpress, _ => fun _ => inferInstanceAs (Decidable (_ ∧ _))

/-- `persist`, as far as it is about candidates; `none` where it raises. -/
def persist (t : AffiliateCandidates) (service : Service) (candidateId : Nat) (q : Reference)
    (respondedAt : Instant) (productId dealId : Nat) : Option AffiliateCandidates :=
  match t.get? candidateId with
  | none => none
  | some r =>
    if r.state = .validating ∧ Belongs service q r then
      markEnriched t candidateId respondedAt productId dealId
    else none

/-! ## Workers -/

/-- What a worker knows of its claim. -/
structure Claim where
  candidateId : Nat
  startedAt : Instant
  attempt : Nat
  deriving DecidableEq, Repr

/-- Where a worker stands. -/
inductive Worker
  | idle
  | working (c : Claim)
  /-- The claim took no row, or the worker died. -/
  | gone
  deriving DecidableEq

/-- What a worker calls to end its claim.  The times are read before the call; `fail` may
name the claim. -/
inductive Call
  | markEnriched (now : Instant) (productId dealId : Nat)
  | persist (service : Service) (q : Reference) (respondedAt : Instant) (productId dealId : Nat)
  | fail (now : Instant) (target : AffiliateCandidateState) (nextAttemptAt : Option Instant)
      (errorCode : String) (errorSummary : Option Text) (named : Bool)
  | markAwaitingGeneration (now : Instant)

namespace Call

/-- The time the lease is compared with. -/
def time : Call → Instant
  | markEnriched now _ _ | fail now _ _ _ _ _ | markAwaitingGeneration now => now
  | persist _ _ respondedAt _ _ => respondedAt

/-- The claim `fail` names. -/
def owner (c : Claim) (named : Bool) : Owner :=
  if named then some (c.startedAt, c.attempt) else none

/-- The candidates after a call; `none` where it raises. -/
def apply (t : AffiliateCandidates) (c : Claim) : Call → Option AffiliateCandidates
  | markEnriched now productId dealId =>
    AffiliateCandidateRepository.markEnriched t c.candidateId now productId dealId
  | persist service q respondedAt productId dealId =>
    Enrichment.persist t service c.candidateId q respondedAt productId dealId
  | fail now target nextAttemptAt errorCode errorSummary named =>
    AffiliateCandidateRepository.fail t c.candidateId now target nextAttemptAt errorCode
      errorSummary (owner c named)
  | markAwaitingGeneration now =>
    AffiliateCandidateRepository.markAwaitingGeneration t c.candidateId now

end Call

/-- What the generation of links and the relay do to candidates meanwhile. -/
inductive OtherOp
  | ensure (store : Store) (product variation canonical : Text)
  | claimForGeneration (blocked : Bool) (id : Nat) (now leaseUntil : Instant) (maxAttempts : Nat)
  | markAffiliateGenerated (id : Nat) (now startedAt : Instant) (attempt : Nat)
  | fail (id : Nat) (now : Instant) (target : AffiliateCandidateState)
      (nextAttemptAt : Option Instant) (errorCode : String) (errorSummary : Option Text)
      (startedAt : Instant) (attempt : Nat)
  | markInterrupted (id : Nat)

/-- The candidates after it; `none` where it raises or takes nothing. -/
def OtherOp.apply (t : AffiliateCandidates) : OtherOp → Option AffiliateCandidates
  | .ensure store product variation canonical =>
    some (AffiliateCandidateRepository.ensure t store product variation canonical)
  | .claimForGeneration blocked id now leaseUntil maxAttempts =>
    AffiliateCandidateRepository.claimForGeneration t blocked id now leaseUntil maxAttempts
  | .markAffiliateGenerated id now startedAt attempt =>
    AffiliateCandidateRepository.markAffiliateGenerated t id now startedAt attempt
  | .fail id now target nextAttemptAt errorCode errorSummary startedAt attempt =>
    AffiliateCandidateRepository.fail t id now target nextAttemptAt errorCode errorSummary
      (some (startedAt, attempt))
  | .markInterrupted id => some (AffiliateCandidateRepository.markInterrupted t id)

/-! ## The system -/

/-- The time, the table, the workers, and who made the last claim of a candidate, which
no row says. -/
structure World where
  clock : Instant
  candidates : AffiliateCandidates
  workers : Nat → Worker
  claimer : Nat → Option Nat

/-- What can happen next. -/
inductive Action
  /-- Time passes. -/
  | tick (now : Instant)
  /-- Worker `p` claims a candidate. -/
  | claim (p id : Nat) (now leaseUntil : Instant) (maxAttempts : Nat)
  /-- Worker `p` makes a call with its claim. -/
  | call (p : Nat) (call : Call)
  /-- Worker `p` dies. -/
  | crash (p : Nat)
  /-- Other parts of the program work on candidates. -/
  | other (op : OtherOp)

/-- Who holds a candidate after an operation of others: a claim for a generation takes
it from the worker. -/
def claimerAfter (claimer : Nat → Option Nat) : OtherOp → Nat → Option Nat
  | .claimForGeneration _ id _ _ _ => Function.update claimer id none
  | _ => claimer

def step (w : World) : Action → Option World
  | .tick now => if w.clock ≤ now then some { w with clock := now } else none
  | .claim p id now leaseUntil maxAttempts =>
    if w.workers p = .idle ∧ now ≤ w.clock then
      match AffiliateCandidateRepository.claim w.candidates id now leaseUntil maxAttempts with
      | some t => (t.get? id).map fun r => { w with
          candidates := t
          workers := Function.update w.workers p (.working ⟨id, now, r.attemptCount⟩)
          claimer := Function.update w.claimer id (some p) }
      | none => some { w with workers := Function.update w.workers p .gone }
    else none
  | .call p call =>
    match w.workers p with
    | .working c =>
      if call.time ≤ w.clock then
        some { w with candidates := (call.apply w.candidates c).getD w.candidates }
      else none
    | _ => none
  | .crash p =>
    match w.workers p with
    | .working _ => some { w with workers := Function.update w.workers p .gone }
    | _ => none
  | .other op =>
    (op.apply w.candidates).map fun t =>
      { w with candidates := t, claimer := claimerAfter w.claimer op }

/-- Any number of workers, on any candidates. -/
def system : TransitionSystem World Action where
  init w := (∀ p, w.workers p = .idle) ∧ ∀ i, w.claimer i = none
  step := step

variable {w w' : World} {act : Action}

/-! ## Candidates stay -/

theorem change_persist {t t' : AffiliateCandidates} {service : Service} {i product deal : Nat}
    {q : Reference} {respondedAt : Instant}
    (h : persist t service i q respondedAt product deal = some t') (j : Nat) :
    Change (t.get? j) (t'.get? j) := by
  unfold persist at h
  split at h
  · cases h
  · split at h
    · exact change_markEnriched h j
    · cases h

theorem Call.change {t t' : AffiliateCandidates} {c : Claim} {call : Call}
    (h : call.apply t c = some t') (j : Nat) : Change (t.get? j) (t'.get? j) := by
  cases call with
  | markEnriched => exact change_markEnriched h j
  | persist => exact change_persist h j
  | fail => exact change_fail h j
  | markAwaitingGeneration => exact change_markAwaitingGeneration h j

theorem OtherOp.change {t t' : AffiliateCandidates} {op : OtherOp} (h : op.apply t = some t')
    (j : Nat) : Change (t.get? j) (t'.get? j) := by
  cases op with
  | ensure store product variation canonical =>
    obtain rfl := Option.some.inj h
    exact change_ensure t store product variation canonical j
  | claimForGeneration => exact change_claimForGeneration h j
  | markAffiliateGenerated => exact change_markAffiliateGenerated h j
  | fail => exact change_fail h j
  | markInterrupted id =>
    obtain rfl := Option.some.inj h
    exact change_markInterrupted t id j

/-- Every step changes a candidate the way the repository may. -/
theorem change_step (h : step w act = some w') (j : Nat) :
    Change (w.candidates.get? j) (w'.candidates.get? j) := by
  cases act with
  | tick now =>
    obtain ⟨-, h⟩ := Option.ite_none_right_eq_some.1 h
    exact Option.some.inj h ▸ .keep _
  | claim p id now leaseUntil maxAttempts =>
    obtain ⟨-, h⟩ := Option.ite_none_right_eq_some.1 h
    split at h
    · next t ht =>
      obtain ⟨r, -, rfl⟩ := Option.map_eq_some_iff.1 h
      exact change_claim ht j
    · exact Option.some.inj h ▸ .keep _
  | call p call =>
    simp only [step] at h
    split at h
    · next c hp =>
      obtain ⟨-, h⟩ := Option.ite_none_right_eq_some.1 h
      rw [← Option.some.inj h]
      show Change _ (((call.apply w.candidates c).getD w.candidates).get? j)
      cases happly : call.apply w.candidates c with
      | none => exact .keep _
      | some t => exact Call.change happly j
    · cases h
  | crash p =>
    simp only [step] at h
    split at h
    · exact Option.some.inj h ▸ .keep _
    · cases h
  | other op =>
    obtain ⟨t, ht, rfl⟩ := Option.map_eq_some_iff.1 h
    exact OtherOp.change ht j

theorem Change.isSome {o o' : Option AffiliateCandidate} (h : Change o o') (ho : o.isSome) :
    o'.isSome := by
  cases h <;> first | exact ho | rfl

/-! ## Who works on what -/

/-- The row of the claim is that of this worker, and its lease has not run out. -/
def Holds (w : World) (p : Nat) (c : Claim) : Prop :=
  w.claimer c.candidateId = some p ∧
    ∃ r, w.candidates.get? c.candidateId = some r ∧ Above r.processingLeaseUntil w.clock

/-- One candidate, nobody working. -/
def oneCandidate : World where
  clock := 0
  candidates := (∅ : AffiliateCandidates).put 1 (pendingRow .aliexpress ['1'] [] ['u'])
  workers := fun _ => .idle
  claimer := fun _ => none

/-- Worker 0 has claimed the candidate and stalled until its lease ran out. -/
def stalled : World := system.endOf oneCandidate [.claim 0 1 0 (minutes 5) 3, .tick (minutes 5)]

/-- Worker 1 has claimed it again. -/
def reclaimed : World := system.endOf stalled [.claim 1 1 (minutes 5) (minutes 10) 3]

/-- Worker 1 has stored its offer. -/
def finished : World := system.endOf reclaimed [.call 1 (.markEnriched (minutes 5) 7 8)]

end Enrichment
end PromoBot
