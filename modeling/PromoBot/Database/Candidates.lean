import PromoBot.Domain.StateMachines
import PromoBot.Lib.PyText
import PromoBot.Lib.SqlTable

/-!
# The `affiliate_candidates` table

`AffiliateCandidateRepository` of `database/repositories.py`, together with the
one statement on this table which stands elsewhere: when the link history sweeps
an interrupted generation, it takes the candidate out of `GENERATING_AFFILIATE`
(`AffiliateLinkHistoryRepository.recover`).

`claim_for_generation` first asks the link history whether the candidate is
blocked; that question is the argument `blocked` here, and the history answers
it in `Database.History`.
-/

namespace PromoBot

/-- A row of `affiliate_candidates` (`AffiliateCandidateModel`). -/
structure AffiliateCandidate where
  store : Store
  externalProductId : Text
  variationKey : Text
  canonicalUrl : Text
  state : AffiliateCandidateState
  attemptCount : Nat
  lastAttemptAt : Option Instant
  nextAttemptAt : Option Instant
  processingStartedAt : Option Instant
  processingLeaseUntil : Option Instant
  enrichedAt : Option Instant
  errorCode : Option String
  errorSummary : Option Text
  productId : Option Nat
  dealId : Option Nat
  deriving DecidableEq

/-- What a candidate is for: its key, and the address it was made of. -/
def AffiliateCandidate.subject (r : AffiliateCandidate) : Store × Text × Text × Text :=
  (r.store, r.externalProductId, r.variationKey, r.canonicalUrl)

/-- The `affiliate_candidates` table. -/
abbrev AffiliateCandidates := SqlTable Nat AffiliateCandidate

namespace AffiliateCandidateRepository

open SqlTable

/-! ## Inserting -/

/-- The row `ensure_for_link` inserts. -/
def pendingRow (store : Store) (externalProductId variationKey canonicalUrl : Text) :
    AffiliateCandidate where
  store := store
  externalProductId := externalProductId
  variationKey := variationKey
  canonicalUrl := canonicalUrl
  state := .pendingAffiliate
  attemptCount := 0
  lastAttemptAt := none
  nextAttemptAt := none
  processingStartedAt := none
  processingLeaseUntil := none
  enrichedAt := none
  errorCode := none
  errorSummary := none
  productId := none
  dealId := none

/-- The `INSERT … ON CONFLICT DO NOTHING` of `ensure_for_link`. -/
def ensure (t : AffiliateCandidates) (store : Store)
    (externalProductId variationKey canonicalUrl : Text) : AffiliateCandidates :=
  if (t.select fun _ r => r.store = store ∧ r.externalProductId = externalProductId ∧
      r.variationKey = variationKey).isEmpty then
    t.put t.freshId (pendingRow store externalProductId variationKey canonicalUrl)
  else t

/-! ## Claims -/

/-- `_recoverable_expression`. -/
def Recoverable (now : Instant) (r : AffiliateCandidate) : Prop :=
  r.state = .pendingAffiliate ∨
    (r.state = .failedRetryable ∧ (r.nextAttemptAt = none ∨ AtMost r.nextAttemptAt now)) ∨
    (r.state = .validating ∧ AtMost r.processingLeaseUntil now)

instance (now : Instant) : DecidablePred (Recoverable now) :=
  fun _ => inferInstanceAs (Decidable (_ ∨ _))

/-- The guard of `claim`. -/
def Claimable (now : Instant) (maxAttempts : Nat) (r : AffiliateCandidate) : Prop :=
  r.attemptCount < maxAttempts ∧ Recoverable now r

instance (now : Instant) (maxAttempts : Nat) : DecidablePred (Claimable now maxAttempts) :=
  fun _ => inferInstanceAs (Decidable (_ ∧ _))

/-- The guard of the update in `claim_for_generation`. -/
def Generatable (now : Instant) (maxAttempts : Nat) (r : AffiliateCandidate) : Prop :=
  r.attemptCount < maxAttempts ∧
    (r.state ∈ [AffiliateCandidateState.pendingAffiliate, .awaitingAffiliateGeneration,
        .affiliateGenerated] ∨
      (r.state = .failedRetryable ∧ (r.nextAttemptAt = none ∨ AtMost r.nextAttemptAt now)))

instance (now : Instant) (maxAttempts : Nat) : DecidablePred (Generatable now maxAttempts) :=
  fun _ => inferInstanceAs (Decidable (_ ∧ _))

/-- The values both claims write, with the state they claim for. -/
def claimedFor (state : AffiliateCandidateState) (now leaseUntil : Instant)
    (r : AffiliateCandidate) : AffiliateCandidate :=
  { r with
    state := state
    attemptCount := r.attemptCount + 1
    lastAttemptAt := some now
    processingStartedAt := some now
    processingLeaseUntil := some leaseUntil
    nextAttemptAt := none
    errorCode := none
    errorSummary := none }

/-- `claim`; `none` when no row was taken. -/
def claim (t : AffiliateCandidates) (internalId : Nat) (now leaseUntil : Instant)
    (maxAttempts : Nat) : Option AffiliateCandidates :=
  t.updateOne internalId (Claimable now maxAttempts) (claimedFor .validating now leaseUntil)

/-- `claim_for_generation`; `none` when the history blocks the candidate or no row
was taken. -/
def claimForGeneration (t : AffiliateCandidates) (blocked : Bool) (internalId : Nat)
    (now leaseUntil : Instant) (maxAttempts : Nat) : Option AffiliateCandidates :=
  if blocked then none
  else t.updateOne internalId (Generatable now maxAttempts)
    (claimedFor .generatingAffiliate now leaseUntil)

/-! ## The ends of a claim -/

/-- The guard of `mark_awaiting_generation`. -/
def Awaitable (now : Instant) (r : AffiliateCandidate) : Prop :=
  r.state = .validating ∧ Above r.processingLeaseUntil now

instance (now : Instant) : DecidablePred (Awaitable now) :=
  fun _ => inferInstanceAs (Decidable (_ ∧ _))

/-- The values `mark_awaiting_generation` writes. -/
def awaiting (r : AffiliateCandidate) : AffiliateCandidate :=
  { r with
    state := .awaitingAffiliateGeneration
    processingLeaseUntil := none
    nextAttemptAt := none
    errorCode := some "WAITING_AFFILIATE_GENERATION"
    errorSummary := none }

/-- `mark_awaiting_generation`; `none` is the conflict. -/
def markAwaitingGeneration (t : AffiliateCandidates) (internalId : Nat) (now : Instant) :
    Option AffiliateCandidates :=
  t.updateOne internalId (Awaitable now) awaiting

/-- The guard of `mark_affiliate_generated`: the claim it was made under. -/
def GeneratedBy (now expectedStartedAt : Instant) (expectedAttemptCount : Nat)
    (r : AffiliateCandidate) : Prop :=
  r.state = .generatingAffiliate ∧ Above r.processingLeaseUntil now ∧
    r.processingStartedAt = some expectedStartedAt ∧ r.attemptCount = expectedAttemptCount

instance (now expectedStartedAt : Instant) (expectedAttemptCount : Nat) :
    DecidablePred (GeneratedBy now expectedStartedAt expectedAttemptCount) :=
  fun _ => inferInstanceAs (Decidable (_ ∧ _))

/-- The values `mark_affiliate_generated` writes. -/
def generated (r : AffiliateCandidate) : AffiliateCandidate :=
  { r with
    state := .affiliateGenerated
    attemptCount := 0
    processingLeaseUntil := none
    nextAttemptAt := none
    errorCode := none
    errorSummary := none }

/-- `mark_affiliate_generated`; `none` is the conflict. -/
def markAffiliateGenerated (t : AffiliateCandidates) (internalId : Nat)
    (now expectedStartedAt : Instant) (expectedAttemptCount : Nat) :
    Option AffiliateCandidates :=
  t.updateOne internalId (GeneratedBy now expectedStartedAt expectedAttemptCount) generated

/-- A candidate somebody is working on, under a lease that has not run out. -/
def Leased (now : Instant) (r : AffiliateCandidate) : Prop :=
  r.state ∈ [AffiliateCandidateState.validating, .generatingAffiliate] ∧
    Above r.processingLeaseUntil now

instance (now : Instant) : DecidablePred (Leased now) :=
  fun _ => inferInstanceAs (Decidable (_ ∧ _))

/-- The values `mark_enriched` writes. -/
def enriched (now : Instant) (productId dealId : Nat) (r : AffiliateCandidate) :
    AffiliateCandidate :=
  { r with
    state := .enriched
    enrichedAt := some now
    processingLeaseUntil := none
    nextAttemptAt := none
    errorCode := none
    errorSummary := none
    productId := some productId
    dealId := some dealId }

/-- `mark_enriched`; `none` is the conflict. -/
def markEnriched (t : AffiliateCandidates) (internalId : Nat) (now : Instant)
    (productId dealId : Nat) : Option AffiliateCandidates :=
  t.updateOne internalId (Leased now) (enriched now productId dealId)

/-- The claim a failure is reported under, where the caller names it. -/
abbrev Owner := Option (Instant × Nat)

/-- The row was claimed by that owner. -/
def OwnedBy (owner : Owner) (r : AffiliateCandidate) : Prop :=
  ∀ o ∈ owner, r.processingStartedAt = some o.1 ∧ r.attemptCount = o.2

instance (owner : Owner) : DecidablePred (OwnedBy owner) :=
  fun _ => inferInstanceAs (Decidable (∀ o ∈ owner, _))

/-- The states `fail` may put a candidate in. -/
def failureStates : List AffiliateCandidateState :=
  [.failedRetryable, .failedPermanent, .manualReview]

/-- The guard of `fail`. -/
def Failable (now : Instant) (owner : Owner) (r : AffiliateCandidate) : Prop :=
  Leased now r ∧ OwnedBy owner r

instance (now : Instant) (owner : Owner) : DecidablePred (Failable now owner) :=
  fun _ => inferInstanceAs (Decidable (_ ∧ _))

/-- The values `fail` writes. -/
def failed (target : AffiliateCandidateState) (nextAttemptAt : Option Instant)
    (errorCode : String) (errorSummary : Option Text) (r : AffiliateCandidate) :
    AffiliateCandidate :=
  { r with
    state := target
    processingLeaseUntil := none
    nextAttemptAt := if target = .failedRetryable then nextAttemptAt else none
    errorCode := some errorCode
    errorSummary :=
      match errorSummary with
      | none | some [] => none
      | some summary => some (summary.take 500) }

/-- `fail`; `none` is its `ValueError` or the conflict. -/
def fail (t : AffiliateCandidates) (internalId : Nat) (now : Instant)
    (target : AffiliateCandidateState) (nextAttemptAt : Option Instant) (errorCode : String)
    (errorSummary : Option Text) (owner : Owner) : Option AffiliateCandidates :=
  if target ∈ failureStates then
    t.updateOne internalId (Failable now owner)
      (failed target nextAttemptAt errorCode errorSummary)
  else none

/-- The values the sweep of the link history writes. -/
def interrupted (r : AffiliateCandidate) : AffiliateCandidate :=
  { r with
    state := .manualReview
    processingLeaseUntil := none
    errorCode := some "AFFILIATE_HISTORY_INTERRUPTED_GENERATION" }

/-- The candidate of an interrupted generation (`AffiliateLinkHistoryRepository.recover`). -/
def markInterrupted (t : AffiliateCandidates) (internalId : Nat) : AffiliateCandidates :=
  t.updateWhere (fun i r => i = internalId ∧ r.state = .generatingAffiliate) interrupted

/-! ## What can happen to one row -/

/-- **Everything that is done to a candidate.** -/
inductive Change : Option AffiliateCandidate → Option AffiliateCandidate → Prop
  | keep (r : Option AffiliateCandidate) : Change r r
  | insert (store : Store) (product variation canonical : Text) :
      Change none (some (pendingRow store product variation canonical))
  | claim {now lease : Instant} {maxAttempts : Nat} {r : AffiliateCandidate} :
      Claimable now maxAttempts r → Change (some r) (some (claimedFor .validating now lease r))
  | claimForGeneration {now lease : Instant} {maxAttempts : Nat} {r : AffiliateCandidate} :
      Generatable now maxAttempts r →
      Change (some r) (some (claimedFor .generatingAffiliate now lease r))
  | await {now : Instant} {r : AffiliateCandidate} :
      Awaitable now r → Change (some r) (some (awaiting r))
  | generate {now started : Instant} {attempt : Nat} {r : AffiliateCandidate} :
      GeneratedBy now started attempt r → Change (some r) (some (generated r))
  | enrich {now : Instant} {product deal : Nat} {r : AffiliateCandidate} :
      Leased now r → Change (some r) (some (enriched now product deal r))
  | fail {now : Instant} {target : AffiliateCandidateState} {next : Option Instant}
      {code : String} {summary : Option Text} {r : AffiliateCandidate} :
      Leased now r → target ∈ failureStates →
      Change (some r) (some (failed target next code summary r))
  | interrupt {r : AffiliateCandidate} :
      r.state = .generatingAffiliate → Change (some r) (some (interrupted r))

theorem Change.of_updateOne {t t' : AffiliateCandidates} {i : Nat}
    {p : AffiliateCandidate → Prop} [DecidablePred p]
    {f : AffiliateCandidate → AffiliateCandidate} (h : t.updateOne i p f = some t') (j : Nat)
    (hf : ∀ r, p r → Change (some r) (some (f r))) : Change (t.get? j) (t'.get? j) := by
  obtain ⟨⟨r, hr, hp, hr'⟩, hother⟩ := get?_of_updateOne h
  rcases eq_or_ne j i with rfl | hj
  · rw [hr, hr']
    exact hf r hp
  · rw [hother j hj]
    exact .keep _

theorem change_ensure (t : AffiliateCandidates) (store : Store)
    (product variation canonical : Text) (j : Nat) :
    Change (t.get? j) ((ensure t store product variation canonical).get? j) := by
  unfold ensure
  split
  · rcases eq_or_ne j t.freshId with rfl | hj
    · simpa using Change.insert store product variation canonical
    · rw [get?_put_ne t _ hj]
      exact .keep _
  · exact .keep _

theorem change_claim {t t' : AffiliateCandidates} {i : Nat} {now lease : Instant}
    {maxAttempts : Nat} (h : claim t i now lease maxAttempts = some t') (j : Nat) :
    Change (t.get? j) (t'.get? j) :=
  .of_updateOne h j fun _ hp => .claim hp

theorem change_claimForGeneration {t t' : AffiliateCandidates} {blocked : Bool} {i : Nat}
    {now lease : Instant} {maxAttempts : Nat}
    (h : claimForGeneration t blocked i now lease maxAttempts = some t') (j : Nat) :
    Change (t.get? j) (t'.get? j) := by
  unfold claimForGeneration at h
  split at h
  · simp at h
  · exact .of_updateOne h j fun _ hp => .claimForGeneration hp

theorem change_markAwaitingGeneration {t t' : AffiliateCandidates} {i : Nat} {now : Instant}
    (h : markAwaitingGeneration t i now = some t') (j : Nat) : Change (t.get? j) (t'.get? j) :=
  .of_updateOne h j fun _ hp => .await hp

theorem change_markAffiliateGenerated {t t' : AffiliateCandidates} {i attempt : Nat}
    {now started : Instant} (h : markAffiliateGenerated t i now started attempt = some t')
    (j : Nat) : Change (t.get? j) (t'.get? j) :=
  .of_updateOne h j fun _ hp => .generate hp

theorem change_markEnriched {t t' : AffiliateCandidates} {i product deal : Nat} {now : Instant}
    (h : markEnriched t i now product deal = some t') (j : Nat) :
    Change (t.get? j) (t'.get? j) :=
  .of_updateOne h j fun _ hp => .enrich hp

theorem change_fail {t t' : AffiliateCandidates} {i : Nat} {now : Instant}
    {target : AffiliateCandidateState} {next : Option Instant} {code : String}
    {summary : Option Text} {owner : Owner}
    (h : fail t i now target next code summary owner = some t') (j : Nat) :
    Change (t.get? j) (t'.get? j) := by
  unfold fail at h
  split at h
  · next htarget => exact .of_updateOne h j fun _ hp => .fail hp.1 htarget
  · simp at h

theorem change_markInterrupted (t : AffiliateCandidates) (i j : Nat) :
    Change (t.get? j) ((markInterrupted t i).get? j) := by
  rw [markInterrupted, get?_updateWhere]
  cases t.get? j with
  | none => exact .keep none
  | some r =>
    by_cases hp : j = i ∧ r.state = .generatingAffiliate
    · simpa [hp] using Change.interrupt hp.2
    · simpa [hp] using Change.keep (some r)

/-! ## What stays -/

theorem Change.subject {o o' : Option AffiliateCandidate} (h : Change o o')
    {s : Store × Text × Text × Text} (hs : o.map AffiliateCandidate.subject = some s) :
    o'.map AffiliateCandidate.subject = some s := by
  cases h with
  | keep => exact hs
  | insert => cases hs
  | claim | claimForGeneration | await | generate | enrich | fail | interrupt => exact hs

/-- The candidates of `t` are still there in `t'`, for the same products. -/
def Keeps (t t' : AffiliateCandidates) : Prop :=
  ∀ j s, (t.get? j).map AffiliateCandidate.subject = some s →
    (t'.get? j).map AffiliateCandidate.subject = some s

theorem Keeps.refl (t : AffiliateCandidates) : Keeps t t := fun _ _ h => h

theorem Keeps.trans {t t' t'' : AffiliateCandidates} (h : Keeps t t') (h' : Keeps t' t'') :
    Keeps t t'' := fun j s hs => h' j s (h j s hs)

theorem Keeps.of_change {t t' : AffiliateCandidates}
    (h : ∀ j, Change (t.get? j) (t'.get? j)) : Keeps t t' := fun j _ hs => (h j).subject hs

end AffiliateCandidateRepository

end PromoBot
