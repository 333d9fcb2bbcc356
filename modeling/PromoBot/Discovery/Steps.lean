import PromoBot.Database.DiscoveryEffects
import PromoBot.Discovery.Scanner

/-!
# What a step of a scanner does

`Effect` lists what one step can do to the world: move a scanner without touching the
database, or commit one of its transactions.  `effect_of_step` is the only place where the
step function is taken apart; every invariant is a case analysis of `Effect`.
-/

namespace PromoBot
namespace Discovery

open DiscoveryRepository Fallible

/-! ## Scanners -/

namespace Scanner

/-- The granted claim a scanner has to answer for. -/
def answersFor (s : Scanner) : Option (QueryKey × Nat) :=
  match s.phase with
  | .call key token | .received key token _ | .storing key token _ _ _ | .fail key token _ _ =>
    some (key, token)
  | .query | .replay _ _ _ | .finish _ _ _ | .done => none

/-- The scanner answers for a claim. -/
def Holds (s : Scanner) (key : QueryKey) (token : Nat) : Prop := s.answersFor = some (key, token)

/-- The time a scanner has read its claim at, for the page it stores next. -/
def readAt (s : Scanner) : Option Instant :=
  match s.phase with
  | .storing _ _ _ _ now => some now
  | _ => none

/-- The same scan, at the same count of results. -/
structure SameScan (s s' : Scanner) : Prop where
  job : s'.job = s.job
  runId : s'.runId = s.runId
  uniqueProducts : s'.uniqueProducts = s.uniqueProducts

variable {s s' : Scanner} {key : QueryKey} {token : Nat}

theorem not_holds_of_answersFor (h : s.answersFor = none) : ¬ s.Holds key token := by
  unfold Holds
  rw [h]
  exact nofun

theorem readAt_of_not_holds (h : ∀ key token, ¬ s.Holds key token) : s.readAt = none := by
  unfold readAt
  split
  · next key token _ _ _ hphase =>
    exact absurd (by simp [Holds, answersFor, hphase]) (h key token)
  · rfl

theorem not_holds_atQuery (s : Scanner) : ¬ s.atQuery.Holds key token := by
  unfold atQuery Holds answersFor
  by_cases hkeywords : s.keywords = [] <;> simp [hkeywords]

theorem sameScan_nextPage (s : Scanner) (itemCount : Nat) : SameScan s (s.nextPage itemCount) := by
  unfold nextPage
  split
  · exact ⟨rfl, rfl, rfl⟩
  · split
    · exact ⟨rfl, rfl, rfl⟩
    · exact ⟨rfl, rfl, rfl⟩

theorem not_holds_nextPage (s : Scanner) (itemCount : Nat) :
    ¬ (s.nextPage itemCount).Holds key token := by
  unfold nextPage
  split
  · exact not_holds_atQuery _
  · split
    · exact not_holds_atQuery _
    · exact not_holds_atQuery _

theorem sameScan_refused (s : Scanner) (error : String) : SameScan s (s.refused error) := by
  unfold refused
  split
  · exact ⟨rfl, rfl, rfl⟩
  · exact ⟨rfl, rfl, rfl⟩

theorem not_holds_refused (s : Scanner) (error : String) :
    ¬ (s.refused error).Holds key token := by
  unfold refused
  split
  · exact not_holds_of_answersFor rfl
  · exact not_holds_of_answersFor rfl

theorem sameScan_claimed (s : Scanner) (key : QueryKey) (claim : DiscoveryQueryClaim) :
    SameScan s (s.claimed key claim) := by
  cases claim <;> exact ⟨rfl, rfl, rfl⟩

theorem sameScan_answered (s : Scanner) (key : QueryKey) (token : Nat) (answer : GatewayAnswer) :
    SameScan s (DiscoveryWorld.answered s key token answer) := by
  cases answer <;> exact ⟨rfl, rfl, rfl⟩

/-- The scanner stays at the same scan, and either is gone or is at work and answers for the
same claims. -/
structure Moves (s s' : Scanner) : Prop where
  same : SameScan s s'
  holds : s'.phase = .done ∨
    s.phase ≠ .done ∧ ∀ key token, s'.Holds key token ↔ s.Holds key token

theorem moves_gone (s : Scanner) : Moves s s.gone := ⟨⟨rfl, rfl, rfl⟩, .inl rfl⟩

theorem Moves.of_not_holds (h : SameScan s s') (hdone : s.phase ≠ .done)
    (hs : ∀ key token, ¬ s.Holds key token) (hs' : ∀ key token, ¬ s'.Holds key token) :
    Moves s s' :=
  ⟨h, .inr ⟨hdone, fun key token => iff_of_false (hs' key token) (hs key token)⟩⟩

end Scanner

/-! ## The effects -/

open Scanner

theorem scanners_update {f : Nat → Option Scanner} {i j : Nat} {s t : Scanner}
    (h : Function.update f i (some s) j = some t) : (j = i ∧ t = s) ∨ (j ≠ i ∧ f j = some t) := by
  by_cases hj : j = i
  · subst hj
    rw [Function.update_self] at h
    exact .inl ⟨rfl, (Option.some.inj h).symm⟩
  · rw [Function.update_of_ne hj] at h
    exact .inr ⟨hj, h⟩

/-- What one step can do. -/
inductive Effect (columns : NumericType) (w : DiscoveryWorld) (i : Nat) : DiscoveryWorld → Prop
  | started (job : ScanJob) (now : Instant) : w.scanners i = none →
      Effect columns w i (w.start i job now)
  /-- The scanner may have read the claim it answers for. -/
  | moved (s s' : Scanner) (clock : Instant) : w.scanners i = some s → Moves s s' →
      (∀ now ∈ s'.readAt, ∃ key token claim, s.Holds key token ∧
        w.db.claims.get? key = some claim ∧ HeldBy s.runId token now claim) →
      w.clock ≤ clock → Effect columns w i ({ w with clock := clock }.setScanner i s')
  | queried (s : Scanner) (now : Instant) (db : DiscoveryDb) (claim : DiscoveryQueryClaim) :
      w.scanners i = some s → (∀ key token, ¬ s.Holds key token) → s.phase ≠ .done →
      ClaimEffect columns w.db (s.claimRequest now) db claim →
      Effect columns w i
        ({ w.actedAt now with db := db, grants := w.granted db s.key claim }.setScanner i
          (s.claimed s.key claim))
  | stored (s s' : Scanner) (key : QueryKey) (token : Nat) (page : DiscoveryPage)
      (operation : DiscoveryOperation) (now : Instant) (observedAt : Nat → Instant)
      (db : DiscoveryDb) (record : PageRecord) :
      w.scanners i = some s → s.phase = .storing key token page operation now →
      Stored w.db s.runId key token page operation now db →
      recordAll columns s key observedAt db s.uniqueProducts w.recorded page.products =
        .ok record →
      SameScan { s with uniqueProducts := record.uniqueProducts } s' →
      (∀ key token, ¬ s'.Holds key token) →
      Effect columns w i ({ w with
        db := record.db
        closed := token :: w.closed
        recorded := record.recorded }.setScanner i s')
  | replayed (s : Scanner) (key : QueryKey) (page : DiscoveryPage) (item : DiscoveryProduct)
      (rest : List DiscoveryProduct) (now : Instant) (db : DiscoveryDb)
      (answer : RecordedProduct) :
      w.scanners i = some s → s.phase = .replay key page (item :: rest) → ¬ s.Full →
      RecordEffect w.db (s.recording key item .cache now) db answer →
      Effect columns w i
        ({ w with db := db, recorded := (s.runId, item.productId) :: w.recorded }.setScanner i
          { s with
            uniqueProducts := s.uniqueProducts + if answer.insertedUnique then 1 else 0
            phase := .replay key page rest })
  | finished (s : Scanner) (state : DiscoveryRunState) (stopReason : String)
      (errorCode : Option String) (now : Instant) (db : DiscoveryDb) :
      w.scanners i = some s → (∀ key token, ¬ s.Holds key token) → s.phase ≠ .done →
      finishRun w.db s.runId state now stopReason errorCode = .ok db →
      Effect columns w i ({ w with db := db }.setScanner i s.gone)
  | failed (s : Scanner) (key : QueryKey) (token : Nat) (state : DiscoveryRunState)
      (stopReason : String) (errorCode : Option String) (now : Instant) (db : DiscoveryDb) :
      w.scanners i = some s → s.Holds key token →
      finishRun (abandonQuery w.db key token) s.runId state now stopReason errorCode = .ok db →
      Effect columns w i ({ w with db := db, closed := token :: w.closed }.setScanner i s.gone)

variable {columns : NumericType} {w w' : DiscoveryWorld} {i : Nat} {s : Scanner}

/-- **The induction over a live page.**  What recording one product keeps holds of the page
once it is recorded. -/
theorem recordAll_invariant {P : DiscoveryDb → Nat → List ResultKey → Prop} {key : QueryKey}
    {observedAt : Nat → Instant} {items : List DiscoveryProduct} {db : DiscoveryDb} {unique : Nat}
    {recorded : List ResultKey} {record : PageRecord}
    (hstep : ∀ db unique recorded item now db' answer, P db unique recorded →
      unique < s.job.profile.maxResults →
      RecordEffect db (s.recording key item .live now) db' answer →
      P db' (unique + if answer.insertedUnique then 1 else 0)
        ((s.runId, item.productId) :: recorded))
    (h : recordAll columns s key observedAt db unique recorded items = .ok record)
    (hstart : P db unique recorded) : P record.db record.uniqueProducts record.recorded := by
  induction items generalizing db unique recorded with
  | nil =>
    obtain rfl := Except.ok.inj h
    exact hstart
  | cons item rest ih =>
    unfold recordAll at h
    split at h
    · obtain rfl := Except.ok.inj h
      exact hstart
    · next hlt =>
      obtain ⟨⟨db', answer⟩, hanswer, h⟩ := bind_eq_ok.1 h
      exact ih h (hstep db unique recorded item _ db' answer hstart (not_le.1 hlt)
        (recordEffect_of_recordProduct hanswer))

theorem Effect.move {s' : Scanner} {clock : Instant} (hs : w.scanners i = some s)
    (h : Moves s s') (hread : s'.readAt = none) (hle : w.clock ≤ clock) :
    Effect columns w i ({ w with clock := clock }.setScanner i s') :=
  .moved s s' clock hs h (fun now hnow => by rw [hread] at hnow; cases hnow) hle

theorem Effect.turn {s' : Scanner} {clock : Instant} (hs : w.scanners i = some s)
    (h : SameScan s s') (hdone : s.phase ≠ .done) (hholds : ∀ key token, ¬ s.Holds key token)
    (hholds' : ∀ key token, ¬ s'.Holds key token) (hle : w.clock ≤ clock) :
    Effect columns w i ({ w with clock := clock }.setScanner i s') :=
  .move hs (.of_not_holds h hdone hholds hholds') (readAt_of_not_holds hholds') hle

theorem Effect.gone {clock : Instant} (hs : w.scanners i = some s) (hle : w.clock ≤ clock) :
    Effect columns w i ({ w with clock := clock }.setScanner i s.gone) :=
  .move hs (moves_gone s) rfl hle

theorem effect_of_query (now : Instant) (hs : w.scanners i = some s) (hphase : s.phase = .query) :
    Effect columns w i (w.query columns i s now) := by
  have hholds : ∀ key token, ¬ s.Holds key token := by simp [Holds, answersFor, hphase]
  have hdone : s.phase ≠ .done := by simp [hphase]
  unfold DiscoveryWorld.query
  split
  · exact .turn hs ⟨rfl, rfl, rfl⟩ hdone hholds (fun _ _ => not_holds_of_answersFor rfl) le_rfl
  · split
    · next error _ =>
      exact .turn hs (sameScan_refused s error) hdone hholds (fun _ _ => not_holds_refused s error)
        (le_max_left _ _)
    · next db claim hclaim =>
      exact .queried s now db claim hs hholds hdone (claimEffect_of_claimQuery hclaim)

theorem effect_of_receive {key : QueryKey} {token : Nat} {page : DiscoveryPage} (now : Instant)
    (hs : w.scanners i = some s) (hphase : s.phase = .received key token page) :
    Effect columns w i (w.receive i s key token page now) := by
  have hholds : s.Holds key token := by simp [Holds, answersFor, hphase]
  unfold DiscoveryWorld.receive
  split
  · exact .gone hs (le_max_left _ _)
  · next run hread =>
    obtain ⟨⟨claim, hclaim, hheld⟩, -⟩ := readHeld_eq_ok_iff.1 hread
    refine .moved s _ _ hs ⟨⟨rfl, rfl, rfl⟩, .inr ⟨by simp [hphase], fun k t => ?_⟩⟩ ?_
      (le_max_left _ _)
    · simp [Holds, answersFor, hphase]
    · intro now' hnow
      obtain rfl := Option.some.inj hnow
      exact ⟨key, token, claim, hholds, hclaim, hheld⟩

theorem effect_of_store {key : QueryKey} {token : Nat} {page : DiscoveryPage}
    {operation : DiscoveryOperation} {now : Instant} (observedAt : Nat → Instant)
    (hs : w.scanners i = some s) (hphase : s.phase = .storing key token page operation now) :
    Effect columns w i (w.store columns i s key token page operation now observedAt) := by
  unfold DiscoveryWorld.store
  split
  · exact .gone hs le_rfl
  · next record hrecord =>
    obtain ⟨db, hstored, hrecord⟩ := bind_eq_ok.1 hrecord
    refine .stored s _ key token page operation now observedAt db record hs hphase
      (stored_of_storePage hstored) hrecord ?_ ?_
    · split
      · exact ⟨rfl, rfl, rfl⟩
      · exact sameScan_nextPage _ _
    · intro key token
      split
      · exact not_holds_of_answersFor rfl
      · exact not_holds_nextPage _ _

theorem effect_of_replayOne {key : QueryKey} {page : DiscoveryPage} {item : DiscoveryProduct}
    {rest : List DiscoveryProduct} (now : Instant) (hs : w.scanners i = some s)
    (hphase : s.phase = .replay key page (item :: rest)) :
    Effect columns w i (w.replayOne columns i s key page item rest now) := by
  have hholds : ∀ key token, ¬ s.Holds key token := by simp [Holds, answersFor, hphase]
  unfold DiscoveryWorld.replayOne
  split
  · exact .turn hs ⟨rfl, rfl, rfl⟩ (by simp [hphase]) hholds
      (fun _ _ => not_holds_of_answersFor rfl) le_rfl
  · next hfull =>
    split
    · exact .gone hs le_rfl
    · next db answer hanswer =>
      exact .replayed s key page item rest now db answer hs hphase hfull
        (recordEffect_of_recordProduct hanswer)

theorem effect_of_proceed {now : Instant} {observedAt : Nat → Instant}
    (hs : w.scanners i = some s) (h : w.proceed columns i s now observedAt = some w') :
    Effect columns w i w' := by
  unfold DiscoveryWorld.proceed at h
  split at h
  · next hphase =>
    obtain rfl := Option.some.inj h
    exact effect_of_query now hs hphase
  · cases h
  · cases h
  · next key token page hphase =>
    obtain rfl := Option.some.inj h
    exact effect_of_receive now hs hphase
  · next key token page operation readAt hphase =>
    obtain rfl := Option.some.inj h
    exact effect_of_store observedAt hs hphase
  · next key page hphase =>
    obtain rfl := Option.some.inj h
    exact .turn hs (sameScan_nextPage s _) (by simp [hphase])
      (by simp [Holds, answersFor, hphase]) (fun _ _ => not_holds_nextPage s _) le_rfl
  · next key page item rest hphase =>
    obtain rfl := Option.some.inj h
    exact effect_of_replayOne now hs hphase
  · next state stopReason errorCode hphase =>
    obtain rfl := Option.some.inj h
    unfold DiscoveryWorld.finish
    split
    · exact .gone hs le_rfl
    · next db hfinish =>
      exact .finished s state stopReason errorCode now db hs (by simp [Holds, answersFor, hphase])
        (by simp [hphase]) hfinish
  · next key token state errorCode hphase =>
    obtain rfl := Option.some.inj h
    unfold DiscoveryWorld.fail
    split
    · exact .gone hs le_rfl
    · next db hfinish =>
      exact .failed s key token state _ _ now db hs (by simp [Holds, answersFor, hphase]) hfinish

/-- **The effects are all that a step can do.** -/
theorem effect_of_step {a : ScanAction} (h : discoveryStep columns w a = some w') :
    Effect columns w a.scanner w' := by
  cases a with
  | start i job now =>
    simp only [discoveryStep, Option.ite_none_right_eq_some] at h
    obtain ⟨hnone, h⟩ := h
    obtain rfl := Option.some.inj h
    exact .started job now (Option.isNone_iff_eq_none.1 hnone)
  | answer i answer =>
    simp only [discoveryStep] at h
    split at h
    · next s hs =>
      split at h
      · next key token hphase =>
        obtain rfl := Option.some.inj h
        refine .move hs ⟨sameScan_answered s key token answer,
          .inr ⟨by simp [hphase], fun k t => ?_⟩⟩ ?_ le_rfl
        · cases answer <;> simp [Holds, answersFor, DiscoveryWorld.answered, hphase]
        · cases answer <;> rfl
      · cases h
    · cases h
  | proceed i now observedAt =>
    simp only [discoveryStep] at h
    split at h
    · next s hs => exact effect_of_proceed hs h
    · cases h
  | die i =>
    simp only [discoveryStep, Option.map_eq_some_iff] at h
    obtain ⟨s, hs, rfl⟩ := h
    exact .gone hs le_rfl

end Discovery
end PromoBot
