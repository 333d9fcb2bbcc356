import PromoBot.Discovery.SkuAccounting

/-!
# What a finished run keeps

A run that has ended keeps its counters, its results and its prices, whatever the scanners and
runners still do.  Of a refinement this is so in every run of the system: each of its
transactions asks whether the run is running after it has begun to write, when no other writer
can come in between.

A product scan writes in its run in two transactions, and neither asks.  The one that records a
cached product does not look at the state of the run at all: a scanner which stalls between two
cached products finds its run swept, and goes on to write in it.  The one that records a live
page relies on the claim, but has read it before it began; a scanner that is swept between the
two writes just the same.

`RecordsRunning` is that neither happens: a product is recorded only in a run that is running.

## When a transaction begins

SQLite, as the program opens it, begins a transaction with the first statement that writes.
What a session reads before that is read by itself, and other sessions may write between the
reading and the first write.  So whether a guard guards depends on what comes first.  A session
which updates the row of its claim and then looks at the number of rows it changed has the lock
when it learns whether it may go on.  A session which selects the claim and the run, compares,
and then inserts has compared something that may be gone.  The steps of `Discovery/Scanner` are
cut where a session has read and not yet written, and this is the only way in which the two
kinds of sessions differ there.

## The two halves

For a refinement `skuFrozen_of_effect` goes through what a step can do, and finds a run that is
running at the bottom of each.  For a scan `scanFrozen_of_effect` does the same and is left
with the two recordings (`RecordsInto`).  The condition is a condition on the state before a
step: the run that products are going to be recorded in (`recordedRun`) is running.  The run of
`finishedRun_not_frozen` breaks it on the cache path, by a scanner that stalls and a third one
whose claim sweeps the run.
-/

namespace PromoBot
namespace Discovery

open DiscoveryRepository Refiner Scanner SkuRefinementRepository SqlTable

variable {columns : NumericType} {u : PyUnicode}

/-! ## Refinements -/

section Refinements

variable {w w' : RefineWorld}

theorem ne_of_ended {db : SkuDb} {id runId : Nat} {run : SkuRun}
    (hrun : db.runs.get? id = some run) (hended : run.state ≠ .running)
    (hactive : ∃ run, db.runs.get? runId = some run ∧ run.state = .running) : id ≠ runId := by
  rintro rfl
  obtain ⟨run', hrun', hstate⟩ := hactive
  obtain rfl := Option.some.inj (hrun.symm.trans hrun')
  exact hended hstate

/-- **No step touches a refinement that has ended.** -/
theorem skuFrozen_of_effect {a : RefineAction} (heffect : RefineEffect columns u w a w') {id : Nat}
    {run : SkuRun} (hrun : w.db.runs.get? id = some run) (hended : run.state ≠ .running) :
    SkuFrozen w.db w'.db id := by
  cases heffect with
  | started job source shortlist now hnone hshortlist =>
    refine ⟨?_, fun _ => rfl, fun _ _ => rfl⟩
    show (createSkuRun w.db (Refiner.newRun job now)).1.runs.get? id = _
    rw [get?_createSkuRun, if_neg (ne_createSkuRun_snd hrun)]
  | moved r r' hr hmoves => exact .refl w.db id
  | claimed r candidate rest now db claim ha hr hphase hshortlist heffect =>
    exact heffect.frozen hrun hended
  | reviewed r candidate source errorCode now db hr hphase hrecorded =>
    have habandoned := (skuLeaves_abandon w.db (r.job.fingerprint candidate.productId)
      source.token).frozen hrun hended
    exact habandoned.trans
      (hrecorded.frozen (ne_of_ended (habandoned.run.trans hrun) hended hrecorded.active))
  | recorded r candidate source page now db₁ db hr hphase hsettled hrecorded =>
    have hsettled := (skuLeaves_settled hsettled).frozen hrun hended
    exact hsettled.trans
      (hrecorded.frozen (ne_of_ended (hsettled.run.trans hrun) hended hrecorded.active))
  | finished r db hr hclaim hphase hfinished => exact hfinished.leaves.frozen hrun hended
  | failed r fingerprint token db hr hclaim hfinished =>
    have habandoned := (skuLeaves_abandon w.db fingerprint (some token)).frozen hrun hended
    exact habandoned.trans (hfinished.leaves.frozen (habandoned.run.trans hrun) hended)

theorem skuFrozen_of_run (h : (refineSystem columns u).Run w w') {id : Nat} {run : SkuRun}
    (hrun : w.db.runs.get? id = some run) (hended : run.state ≠ .running) :
    SkuFrozen w.db w'.db id := by
  refine h.invariant (P := fun v => SkuFrozen w.db v.db id) (.refl w.db id) ?_
  intro v a v' hv _ hstep
  exact hv.trans (skuFrozen_of_effect (refineEffect_of_step hstep) (hv.run.trans hrun) hended)

end Refinements

/-! ## Product scans -/

section Scans

variable {w w' : DiscoveryWorld} {i id : Nat} {s : Scanner}

/-- Everything of a run is as it was: its row, its results and its snapshots. -/
structure ScanFrozen (db db' : DiscoveryDb) (id : Nat) : Prop where
  run : db'.runs.get? id = db.runs.get? id
  results : ∀ productId, db'.results.get? (id, productId) = db.results.get? (id, productId)
  snapshots : ∀ productId, db'.snapshots.get? (id, productId) = db.snapshots.get? (id, productId)

theorem ScanFrozen.refl (db : DiscoveryDb) (id : Nat) : ScanFrozen db db id :=
  ⟨rfl, fun _ => rfl, fun _ => rfl⟩

theorem ScanFrozen.trans {db db' db'' : DiscoveryDb} {id : Nat} (h : ScanFrozen db db' id)
    (h' : ScanFrozen db' db'' id) : ScanFrozen db db'' id where
  run := h'.run.trans h.run
  results := fun productId => (h'.results productId).trans (h.results productId)
  snapshots := fun productId => (h'.snapshots productId).trans (h.snapshots productId)

/-- A product is recorded in its own run alone. -/
theorem RecordEffect.frozen {db db' : DiscoveryDb} {q : Recording} {answer : RecordedProduct}
    (h : RecordEffect db q db' answer) {id : Nat} (hid : id ≠ q.runId) : ScanFrozen db db' id := by
  obtain ⟨row, hwritten, hresult⟩ := h.result
  have hkey : ∀ productId, (id, productId) ≠ q.resultKey :=
    fun productId heq => hid (Prod.mk.inj heq).1
  constructor
  · cases hrun : db.runs.get? id with
    | some run =>
      obtain ⟨run', hrun', rfl⟩ := h.runs.of_get? hrun
      rw [hrun', if_neg hid]
    | none =>
      cases hrun' : db'.runs.get? id with
      | none => rfl
      | some run' =>
        obtain ⟨run, hrun₀, -⟩ := h.runs.of_get?' hrun'
        rw [hrun] at hrun₀
        cases hrun₀
  · intro productId
    rw [hwritten, get?_put_ne _ _ (hkey productId)]
  · intro productId
    cases hresult with
    | counted _ _ _ hsame => rw [hsame]
    | promoted _ _ _ _ _ _ hsnapped => exact snapshots_other hsnapped (hkey productId)
    | live _ _ _ _ _ hsnapped => exact snapshots_other hsnapped (hkey productId)
    | cached _ _ _ _ hsame => rw [hsame]

theorem frozen_of_recordAll {db : DiscoveryDb} {key : QueryKey} {observedAt : Nat → Instant}
    {unique : Nat} {recorded : List ResultKey} {items : List DiscoveryProduct}
    {record : PageRecord} {id : Nat} (hid : id ≠ s.runId)
    (h : recordAll columns s key observedAt db unique recorded items = .ok record) :
    ScanFrozen db record.db id :=
  recordAll_invariant (P := fun db' _ _ => ScanFrozen db db' id)
    (fun _ _ _ _ _ _ _ hfrozen _ heffect => hfrozen.trans (RecordEffect.frozen heffect hid)) h (.refl db id)

theorem LeavesFindings.frozen {db db' : DiscoveryDb} (h : LeavesFindings db db') {id : Nat}
    (hrun : db'.runs.get? id = db.runs.get? id) : ScanFrozen db db' id :=
  ⟨hrun, fun _ => by rw [h.results], fun _ => by rw [h.snapshots]⟩

/-- **No step touches a scan that has ended**, but the recording of products. -/
theorem scanFrozen_of_effect (heffect : Effect columns w i w') {id : Nat} {run : DiscoveryRun}
    (hrun : w.db.runs.get? id = some run) (hended : run.state ≠ .running)
    (hrecords : ¬ RecordsInto w i id) : ScanFrozen w.db w'.db id := by
  cases heffect with
  | started job now hnone =>
    refine ⟨?_, fun _ => rfl, fun _ => rfl⟩
    show (createRun w.db (Scanner.newRun job now)).1.runs.get? id = _
    rw [get?_createRun, if_neg (ne_createRun_snd hrun)]
  | moved s s' clock hs hmoves hle => exact .refl w.db id
  | queried s now db claim hs hholds hdone heffect =>
    refine LeavesFindings.frozen (leavesFindings_of_claimEffect heffect) ?_
    rw [hrun]
    exact get?_claimEffect_of_ended heffect hrun hended
  | stored s s' key token page operation now observedAt db record hs hphase hstored hrecord =>
    have hid : id ≠ s.runId := fun hid =>
      hrecords ⟨s, hs, hid.symm, .inr ⟨key, token, page, operation, now, hphase⟩⟩
    refine (LeavesFindings.frozen (leavesFindings_of_stored hstored) ?_).trans
      (frozen_of_recordAll hid hrecord)
    rw [hstored.runs, get?_updateWhere]
    simp [hid]
  | replayed s key page item rest now db answer hs hphase hfull heffect =>
    refine RecordEffect.frozen heffect fun hid => hrecords ?_
    exact ⟨s, hs, hid.symm, .inl ⟨key, page, item, rest, hphase, hfull⟩⟩
  | finished s state stopReason errorCode now db hs hholds hdone hfinish =>
    refine LeavesFindings.frozen (leavesFindings_of_finishRun hfinish) ?_
    rw [hrun]
    exact get?_finishRun_of_ended hfinish hrun hended
  | failed s key token state stopReason errorCode now db hs hholds hfinish =>
    have hleaves := leavesFindings_of_finishRun hfinish
    have hrow : db.runs.get? id = (abandonQuery w.db key token).runs.get? id :=
      (get?_finishRun_of_ended hfinish hrun hended).trans hrun.symm
    have hfrozen := LeavesFindings.frozen hleaves hrow
    exact ⟨hfrozen.run, hfrozen.results, hfrozen.snapshots⟩

/-! ### Recording in a running run -/

/-- The run that products are going to be recorded in, if that is what the step does. -/
def recordedRun (w : DiscoveryWorld) : ScanAction → Option Nat
  | .proceed i _ _ => (w.scanners i).bind fun s =>
      match s.phase with
      | .replay _ _ (_ :: _) => if s.Full then none else some s.runId
      | .storing _ _ _ _ _ => some s.runId
      | _ => none
  | .start _ _ _ | .answer _ _ | .die _ => none

/-- **A product is recorded only in a run that is running.** -/
def RecordsRunning (w : DiscoveryWorld) (a : ScanAction) : Prop :=
  ∀ id ∈ recordedRun w a, (w.db.runs.get? id).map DiscoveryRun.state = some .running

instance (w : DiscoveryWorld) (a : ScanAction) : Decidable (RecordsRunning w a) :=
  inferInstanceAs (Decidable (∀ id ∈ recordedRun w a, _))

theorem recordedRun_of_recordsInto (h : RecordsInto w i id) (now : Instant)
    (observedAt : Nat → Instant) : recordedRun w (.proceed i now observedAt) = some id := by
  obtain ⟨s, hs, rfl, ⟨key, page, item, rest, hphase, hfull⟩ |
    ⟨key, token, page, operation, readAt, hphase⟩⟩ := h
  · simp [recordedRun, hs, hphase, hfull]
  · simp [recordedRun, hs, hphase]

theorem scanFrozen_of_step {a : ScanAction} (hgood : RecordsRunning w a)
    (hstep : discoveryStep columns w a = some w') {run : DiscoveryRun}
    (hrun : w.db.runs.get? id = some run) (hended : run.state ≠ .running) :
    ScanFrozen w.db w'.db id := by
  have heffect := effect_of_step hstep
  cases a with
  | start i job now =>
    refine scanFrozen_of_effect heffect hrun hended ?_
    rintro ⟨s, hs, -⟩
    simp only [discoveryStep, Option.ite_none_right_eq_some, Option.isNone_iff_eq_none] at hstep
    have hs : w.scanners i = some s := hs
    rw [hstep.1] at hs
    cases hs
  | answer i answer =>
    -- Whoever waits for the gateway records nothing.
    simp only [discoveryStep] at hstep
    split at hstep
    · split at hstep
      · obtain rfl := Option.some.inj hstep
        exact .refl w.db id
      · cases hstep
    · cases hstep
  | proceed i now observedAt =>
    refine scanFrozen_of_effect heffect hrun hended fun hrecords => ?_
    have hrunning := hgood id (recordedRun_of_recordsInto hrecords now observedAt)
    rw [hrun, Option.map_some, Option.some.injEq] at hrunning
    exact hended hrunning
  | die i =>
    -- The scanner is gone, and the database as it was.
    simp only [discoveryStep, Option.map_eq_some_iff] at hstep
    obtain ⟨s, -, rfl⟩ := hstep
    exact .refl w.db id

theorem scanFrozen_of_run (hrun : (discoverySystem columns).RunUnder RecordsRunning w w')
    {run : DiscoveryRun} (hrow : w.db.runs.get? id = some run) (hended : run.state ≠ .running) :
    ScanFrozen w.db w'.db id := by
  refine hrun.invariant (P := fun v => ScanFrozen w.db v.db id) (.refl w.db id) ?_
  intro v a v' hfrozen hgood hstep
  exact hfrozen.trans (scanFrozen_of_step hgood hstep (hfrozen.run.trans hrow) hended)

end Scans

/-! ## A finished run is frozen -/

/-- A run that has ended stays as it is: a refinement in every run, and a product scan in every
run in which products are recorded in running runs only. -/
theorem finishedRuns_frozen (columns : NumericType) :
    (∀ w w', (discoverySystem columns).Reachable w →
      (discoverySystem columns).RunUnder RecordsRunning w w' → ∀ id run,
        w.db.runs.get? id = some run → run.state ≠ .running → ScanFrozen w.db w'.db id) ∧
    ∀ u w w', (refineSystem columns u).Reachable w → (refineSystem columns u).Run w w' →
      ∀ id run, w.db.runs.get? id = some run → run.state ≠ .running →
        SkuFrozen w.db w'.db id := by
  constructor
  · intro w w' _ hrun id run hrow hended
    exact scanFrozen_of_run hrun hrow hended
  · intro u w w' _ hrun id run hrow hended
    exact skuFrozen_of_run hrun hrow hended

/-- Where one scanner has finished its run and another one is answered from the cache. -/
def oneFinished : DiscoveryWorld :=
  (discoverySystem NumericType.halfEven).endOf noDiscoveries liveThenCached

/-- Where the second scanner has recorded the cached product, too. -/
def bothRecorded : DiscoveryWorld :=
  (discoverySystem NumericType.halfEven).endUnder RecordsRunning oneFinished
    [.proceed 1 (seconds 11) fun _ => 0]

theorem finishedRuns_frozen_bothRecorded :
    ScanFrozen oneFinished.db bothRecorded.db 1 ∧
      SkuFrozen refinedAtTen.db refinedAtTen.db 2 := by
  constructor
  · obtain ⟨run, hrun, hended⟩ :
        ∃ run, oneFinished.db.runs.get? 1 = some run ∧ run.state ≠ .running := by
      have hstate : (oneFinished.db.runs.get? 1).map DiscoveryRun.state = some .completed := by
        decide +kernel
      obtain ⟨run, hrun, hstate⟩ := Option.map_eq_some_iff.1 hstate
      exact ⟨run, hrun, by rw [hstate]; decide⟩
    exact (finishedRuns_frozen _).1 _ _
      ⟨noDiscoveries, ⟨0, rfl⟩, TransitionSystem.run_endOf (by decide +kernel)⟩
      (TransitionSystem.runUnder_endUnder (by decide +kernel)) 1 run hrun hended
  · obtain ⟨run, hrun, hended⟩ :
        ∃ run, refinedAtTen.db.runs.get? 2 = some run ∧ run.state ≠ .running := by
      have hstate : (refinedAtTen.db.runs.get? 2).map SkuRun.state = some .completed := by
        decide +kernel
      obtain ⟨run, hrun, hstate⟩ := Option.map_eq_some_iff.1 hstate
      exact ⟨run, hrun, by rw [hstate]; decide⟩
    exact (finishedRuns_frozen _).2 _ _ _ refinedAtTen_reachable.reachable
      (TransitionSystem.RunUnder.refl _) 2 run hrun hended

/-- The second scanner stalls before its cached product, and a third one claims past its
lease. -/
def stalled : DiscoveryWorld :=
  (discoverySystem NumericType.halfEven).endOf noDiscoveries
    (liveThenCached ++ [.start 2 smallJob (seconds 200), .proceed 2 (seconds 200) fun _ => 0])

/-- The second scanner goes on. -/
def resumed : DiscoveryWorld :=
  (discoverySystem NumericType.halfEven).endOf stalled [.proceed 1 (seconds 201) fun _ => 0]

theorem stalled_reachable : (discoverySystem NumericType.halfEven).Reachable stalled :=
  ⟨noDiscoveries, ⟨0, rfl⟩, TransitionSystem.run_endOf (by decide +kernel)⟩

theorem resumed_run : (discoverySystem NumericType.halfEven).Run stalled resumed :=
  TransitionSystem.run_endOf (by decide +kernel)

/-- **A swept run is written in**: it has ended as uncertain and without a result, and is given
one. -/
theorem finishedRun_not_frozen :
    ¬ ∀ columns w w', (discoverySystem columns).Reachable w → (discoverySystem columns).Run w w' →
      ∀ id run, w.db.runs.get? id = some run → run.state ≠ .running →
        ScanFrozen w.db w'.db id := by
  intro h
  have hstate : (stalled.db.runs.get? 2).map DiscoveryRun.state = some .uncertain := by
    decide +kernel
  obtain ⟨run, hrun, hstate⟩ := Option.map_eq_some_iff.1 hstate
  have hfrozen := h _ _ _ stalled_reachable resumed_run 2 run hrun (by rw [hstate]; decide)
  have hsome : (resumed.db.results.get? (2, "7".toList)).isSome = true := by decide +kernel
  have hnone : (stalled.db.results.get? (2, "7".toList)).isSome = false := by decide +kernel
  rw [← hfrozen.results, hsome] at hnone
  cases hnone

end Discovery
end PromoBot
