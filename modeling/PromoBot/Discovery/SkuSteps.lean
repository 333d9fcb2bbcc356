import PromoBot.Database.SkuEffects
import PromoBot.Discovery.SkuRunner

/-!
# What a step of a refinement does

`RefineEffect` lists what one step can do: move a runner without touching the database, or
commit one of its transactions.  `refineEffect_of_step` is the only place where the step
function is taken apart.

Of a runner, three things matter to the others and to the accounts: the products it may
still record, the claim it answers for, and what it knows of the page it is about to record.
-/

namespace PromoBot
namespace Discovery

open Fallible SkuRefinementRepository SqlTable

variable {columns : NumericType} {u : PyUnicode}

/-! ## Runners -/

namespace Refiner

/-- The candidate whose item is next. -/
def current (r : Refiner) : Option Candidate :=
  match r.phase with
  | .call candidate _ | .review candidate _ _ | .record candidate _ _ => some candidate
  | .next | .finish _ _ _ | .fail _ _ _ _ | .returned | .gone => none

/-- The products the runner may still record. -/
def pending (r : Refiner) : List Text :=
  (r.current.toList ++ r.shortlist).map Candidate.productId

/-- The granted claim the runner has to answer for. -/
def claimOf (r : Refiner) : Option (Text × Nat) :=
  match r.phase with
  | .call candidate token | .fail candidate token _ _ =>
    some (r.job.fingerprint candidate.productId, token)
  | .review candidate source _ | .record candidate source _ =>
    source.token.map fun token => (r.job.fingerprint candidate.productId, token)
  | .next | .finish _ _ _ | .returned | .gone => none

/-- What the runner knows of the evidence it is about to record: what goes to a reviewer was
seen live, and a page has SKUs of the candidate that can be compared. -/
def Sound (u : PyUnicode) (r : Refiner) : Prop :=
  match r.phase with
  | .review _ source _ => source ≠ .cached
  | .record candidate _ page =>
    Comparable u page r.job.refinement.requirements ∧ page.productId = candidate.productId
  | .next | .call _ _ | .finish _ _ _ | .fail _ _ _ _ | .returned | .gone => True

/-- The runner goes on with the same job, to record no more products than before, and either is
gone or answers for the same claim. -/
structure Moves (u : PyUnicode) (r r' : Refiner) : Prop where
  job : r'.job = r.job
  runId : r'.runId = r.runId
  pending : r'.pending.Sublist r.pending
  sound : r'.Sound u
  claimOf : r'.phase = .gone ∨ (r.phase ≠ .gone ∧ r'.claimOf = r.claimOf)
  working : r'.phase ≠ .returned

variable {r : Refiner}

theorem moves_vanish (r : Refiner) : Moves u r r.vanish where
  job := rfl
  runId := rfl
  pending := (List.sublist_append_right _ _).map _
  sound := trivial
  claimOf := .inl rfl
  working := nofun

theorem moves_finishing (hphase : r.phase = .next) (state : DiscoveryRunState)
    (stopReason : String) (errorCode : Option String) :
    Moves u r (r.finishing state stopReason errorCode) where
  job := rfl
  runId := rfl
  pending := (List.sublist_append_right _ _).map _
  sound := trivial
  claimOf := .inr ⟨by simp [hphase], by simp [Refiner.claimOf, hphase, finishing]⟩
  working := nofun

theorem moves_refused (hphase : r.phase = .next) (error : String) :
    Moves u r (r.refused error) := by
  unfold refused
  split
  · exact moves_finishing hphase ..
  · exact moves_vanish r

/-- The phase a page leads to. -/
theorem judge_cases (r : Refiner) (candidate : Candidate) (source : SkuSource)
    (page : DiscoverySkuPage) :
    (∃ code, r.judge u candidate source page = { r with phase := .review candidate source code } ∧
      (page.productId ≠ candidate.productId ∨
        ¬ Comparable u page r.job.refinement.requirements)) ∨
    (r.judge u candidate source page = { r with phase := .record candidate source page } ∧
      page.productId = candidate.productId ∧ Comparable u page r.job.refinement.requirements) := by
  unfold judge
  by_cases hproduct : page.productId = candidate.productId
  · by_cases hcomparable : Comparable u page r.job.refinement.requirements
    · simp [hproduct, hcomparable]
    · left
      exact ⟨"ALIEXPRESS_DISCOVERY_SKU_ITEM_INVALID", by simp [hproduct, hcomparable],
        .inr hcomparable⟩
  · left
    exact ⟨"ALIEXPRESS_DISCOVERY_SKU_PRODUCT_MISMATCH", by simp [hproduct], .inl hproduct⟩

/-- A runner in a call which goes to a phase of the same candidate and claim. -/
theorem moves_answered {candidate : Candidate} {token : Nat}
    (hphase : r.phase = .call candidate token) (answer : SkuAnswer) :
    Moves u r (RefineWorld.answered u r candidate token answer) := by
  have hclaim : r.claimOf = some (r.job.fingerprint candidate.productId, token) := by
    simp [Refiner.claimOf, hphase]
  have hpending : r.pending = (candidate :: r.shortlist).map Candidate.productId := by
    simp [Refiner.pending, current, hphase]
  have hfail : ∀ state code,
      Moves u r { r with phase := .fail candidate token state code } := fun state code =>
    ⟨rfl, rfl, by simp [Refiner.pending, current, hphase], trivial,
      .inr ⟨by simp [hphase], hclaim.symm⟩, nofun⟩
  have hreview : ∀ code,
      Moves u r { r with phase := .review candidate (.live token) code } := fun code =>
    ⟨rfl, rfl, by simp [Refiner.pending, current, hphase], by simp [Sound],
      .inr ⟨by simp [hphase], hclaim.symm⟩, nofun⟩
  cases answer with
  | page page =>
    rcases judge_cases (u := u) r candidate (.live token) page with
      ⟨code, hjudge, -⟩ | ⟨hjudge, hproduct, hcomparable⟩
    · rw [RefineWorld.answered, hjudge]
      exact hreview code
    · rw [RefineWorld.answered, hjudge]
      exact ⟨rfl, rfl, by simp [Refiner.pending, current, hphase], ⟨hcomparable, hproduct⟩,
        .inr ⟨by simp [hphase], hclaim.symm⟩, nofun⟩
  | providerError code retryable =>
    unfold RefineWorld.answered
    by_cases hitem : code ∈ itemErrorCodes
    · simp only [hitem, if_true]
      exact hreview code
    · simp only [hitem, if_false]
      exact hfail _ code
  | transportError => exact hfail _ _
  | cancelled => exact hfail _ _

end Refiner

/-! ## The effects -/

open Refiner

theorem refiners_update {f : Nat → Option Refiner} {i j : Nat} {r t : Refiner}
    (h : Function.update f i (some r) j = some t) : (j = i ∧ t = r) ∨ (j ≠ i ∧ f j = some t) := by
  by_cases hj : j = i
  · subst hj
    rw [Function.update_self] at h
    exact .inl ⟨rfl, (Option.some.inj h).symm⟩
  · rw [Function.update_of_ne hj] at h
    exact .inr ⟨hj, h⟩

/-- What a page leaves behind that is recorded: the live one is stored and its claim released, for
the cached one there is nothing to do. -/
def Settled (db : SkuDb) (fingerprint : Text) (page : DiscoverySkuPage) (now : Instant)
    (db' : SkuDb) : SkuSource → Prop
  | .live token => SkuStored db fingerprint token page now db'
  | .cached => db' = db

/-- What one step can do. -/
inductive RefineEffect (columns : NumericType) (u : PyUnicode) (w : RefineWorld)
    (a : RefineAction) : RefineWorld → Prop
  | started (job : SkuJob) (source : DiscoveryDb) (shortlist : List Candidate) (now : Instant) :
      w.refiners a.refiner = none → selectShortlist source job = .ok shortlist →
      RefineEffect columns u w a (w.start a.refiner job shortlist now)
  | moved (r r' : Refiner) : w.refiners a.refiner = some r → Moves u r r' →
      RefineEffect columns u w a (w.setRefiner a.refiner r')
  | claimed (r : Refiner) (candidate : Candidate) (rest : List Candidate) (now : Instant)
      (db : SkuDb) (claim : SkuQueryClaim) : a = .proceed a.refiner now →
      w.refiners a.refiner = some r → r.phase = .next → r.shortlist = candidate :: rest →
      SkuClaimEffect columns w.db (r.claimRequest candidate now) db claim →
      RefineEffect columns u w a
        ({ w with
          db := db
          grants := w.granted db (r.job.fingerprint candidate.productId) claim }.setRefiner
          a.refiner ({ r with shortlist := rest }.claimed u candidate claim))
  | reviewed (r : Refiner) (candidate : Candidate) (source : SkuSource) (errorCode : String)
      (now : Instant) (db : SkuDb) : w.refiners a.refiner = some r →
      r.phase = .review candidate source errorCode →
      ItemRecorded (abandonClaim w.db (r.job.fingerprint candidate.productId) source.token)
        (r.item candidate .live .review now (some errorCode)) db →
      RefineEffect columns u w a
        ({ w with
          db := db
          fromCache := w.noted source (r.runId, candidate.productId) }.setRefiner
          a.refiner r.atNext)
  | recorded (r : Refiner) (candidate : Candidate) (source : SkuSource) (page : DiscoverySkuPage)
      (now : Instant) (db₁ db : SkuDb) : w.refiners a.refiner = some r →
      r.phase = .record candidate source page →
      Settled w.db (r.job.fingerprint candidate.productId) page now db₁ source →
      ItemRecorded db₁ (r.item candidate source.origin
        (matchDiscoverySkus u page r.job.refinement.requirements) now none) db →
      RefineEffect columns u w a
        ({ w with
          db := db
          fromCache := w.noted source (r.runId, candidate.productId) }.setRefiner
          a.refiner r.atNext)
  | finished (r : Refiner) (db : SkuDb) : w.refiners a.refiner = some r →
      r.claimOf = none → r.phase ≠ .gone → SkuFinished w.db r.runId db →
      RefineEffect columns u w a
        ({ w with db := db }.setRefiner a.refiner { r with phase := .returned })
  | failed (r : Refiner) (fingerprint : Text) (token : Nat) (db : SkuDb) :
      w.refiners a.refiner = some r → r.claimOf = some (fingerprint, token) →
      SkuFinished (abandonClaim w.db fingerprint (some token)) r.runId db →
      RefineEffect columns u w a
        ({ w with db := db }.setRefiner a.refiner { r with phase := .returned })

variable {w w' : RefineWorld} {i : Nat} {r : Refiner}

theorem effect_of_claim {candidate : Candidate} {rest : List Candidate} (now : Instant)
    (hr : w.refiners i = some r) (hphase : r.phase = .next)
    (hshortlist : r.shortlist = candidate :: rest) :
    RefineEffect columns u w (.proceed i now) (w.claim columns u i r candidate rest now) := by
  unfold RefineWorld.claim
  split
  · next error _ => exact .moved r _ hr (moves_refused hphase error)
  · next db claim hclaim =>
    exact .claimed r candidate rest now db claim rfl hr hphase hshortlist
      (skuClaimEffect_of_claimSku hclaim)

theorem effect_of_review {candidate : Candidate} {source : SkuSource} {errorCode : String}
    (now : Instant) (hr : w.refiners i = some r)
    (hphase : r.phase = .review candidate source errorCode) :
    RefineEffect columns u w (.proceed i now) (w.review i r candidate source errorCode now) := by
  unfold RefineWorld.review
  dsimp only
  split
  · exact .moved r _ hr (moves_vanish r)
  · next db hrecord =>
    exact .reviewed r candidate source errorCode now db hr hphase
      (itemRecorded_of_recordItem hrecord)

theorem effect_of_record {candidate : Candidate} {source : SkuSource} {page : DiscoverySkuPage}
    (now : Instant) (hr : w.refiners i = some r)
    (hphase : r.phase = .record candidate source page) :
    RefineEffect columns u w (.proceed i now) (w.record u i r candidate source page now) := by
  unfold RefineWorld.record
  split
  · exact .moved r _ hr (moves_vanish r)
  · next db hrecord =>
    cases source with
    | live token =>
      obtain ⟨db₁, hstored, hrecord⟩ := bind_eq_ok.1 hrecord
      exact .recorded r candidate _ page now db₁ db hr hphase
        (skuStored_of_finishSkuSuccess hstored) (itemRecorded_of_recordItem hrecord)
    | cached =>
      obtain ⟨db₁, hsame, hrecord⟩ := bind_eq_ok.1 hrecord
      exact .recorded r candidate _ page now db₁ db hr hphase (Except.ok.inj hsame).symm
        (itemRecorded_of_recordItem hrecord)

theorem effect_of_finish {state : DiscoveryRunState} {stopReason : String}
    {errorCode : Option String} (now : Instant) (hr : w.refiners i = some r)
    (hphase : r.phase = .finish state stopReason errorCode) :
    RefineEffect columns u w (.proceed i now) (w.finish columns i r state stopReason errorCode now) := by
  unfold RefineWorld.finish
  split
  · exact .moved r _ hr (moves_vanish r)
  · next db hfinish =>
    refine .finished r db hr (by simp [Refiner.claimOf, hphase]) (by simp [hphase]) ?_
    unfold RefineWorld.finishStatements at hfinish
    dsimp only at hfinish
    split at hfinish
    · obtain ⟨db₁, hrank, hfinish⟩ := bind_eq_ok.1 hfinish
      exact (reranked_of_rankRun hrank).finished hfinish
    · obtain ⟨db₁, hsame, hfinish⟩ := bind_eq_ok.1 hfinish
      obtain rfl := Except.ok.inj hsame
      exact skuFinished_of_finishSkuRun hfinish

theorem effect_of_fail {candidate : Candidate} {token : Nat} {state : DiscoveryRunState}
    {errorCode : String} (now : Instant) (hr : w.refiners i = some r)
    (hphase : r.phase = .fail candidate token state errorCode) :
    RefineEffect columns u w (.proceed i now) (w.fail i r candidate token state errorCode now) := by
  unfold RefineWorld.fail
  split
  · exact .moved r _ hr (moves_vanish r)
  · next db hfinish =>
    exact .failed r (r.job.fingerprint candidate.productId) token db hr
      (by simp [Refiner.claimOf, hphase]) (skuFinished_of_finishSkuRun hfinish)

/-- **The effects are all that a step can do.** -/
theorem refineEffect_of_step {a : RefineAction} (h : refineStep columns u w a = some w') :
    RefineEffect columns u w a w' := by
  cases a with
  | start i job source now =>
    simp only [refineStep] at h
    split at h
    · next shortlist hnone hshortlist =>
      obtain rfl := Option.some.inj h
      exact .started job source shortlist now hnone hshortlist
    · cases h
  | answer i answer =>
    simp only [refineStep] at h
    split at h
    · next r hr =>
      split at h
      · next candidate token hphase =>
        obtain rfl := Option.some.inj h
        exact .moved r _ hr (moves_answered hphase answer)
      · cases h
    · cases h
  | proceed i now =>
    simp only [refineStep] at h
    split at h
    · next r hr =>
      unfold RefineWorld.proceed at h
      split at h
      · next hphase =>
        split at h
        · obtain rfl := Option.some.inj h
          exact .moved r _ hr (moves_finishing hphase ..)
        · next candidate rest hshortlist =>
          obtain rfl := Option.some.inj h
          exact effect_of_claim now hr hphase hshortlist
      · next hphase =>
        obtain rfl := Option.some.inj h
        exact effect_of_review now hr hphase
      · next hphase =>
        obtain rfl := Option.some.inj h
        exact effect_of_record now hr hphase
      · next hphase =>
        obtain rfl := Option.some.inj h
        exact effect_of_finish now hr hphase
      · next hphase =>
        obtain rfl := Option.some.inj h
        exact effect_of_fail now hr hphase
      · cases h
      · cases h
      · cases h
    · cases h
  | die i =>
    simp only [refineStep, Option.map_eq_some_iff] at h
    obtain ⟨r, hr, rfl⟩ := h
    exact .moved r _ hr (moves_vanish r)

end Discovery
end PromoBot
