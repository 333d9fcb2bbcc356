import PromoBot.Discovery.QueryBudget

/-!
# The accounts of a discovery run

The counters of a run stand next to the rows they count.  `Accounted` says what they come to:
as many products as results, as many snapshots as live results with a price, and for each
result as many queries as times its product was recorded.  Recording a product keeps it,
whatever was there, so it holds in every state of every run, and between any two products of a
page.

That the results of a run stay within their maximum is a matter of the scanner, which counts
them for itself: `Counting` says that it counts right.

## Why the counters stay right

A product may be recorded many times in a run: found by several keywords, on several pages,
first from the cache and then live, or the other way round.  The row is inserted once and
updated then, and an update may turn a cached result into a live one, which is when its
snapshot is due.  So the increment of each counter hangs on what the row was before.
`RowAfter` states what becomes of the row, of its snapshot and of its origin in each of these
cases, and `Accounted.record` is the arithmetic: a counter goes up by one exactly where a row
is new.

The count of queries has no rows to be compared with.  What it counts is recordings, and the
tables do not keep them, so the world of `Discovery/Steps` does, in `recorded`.

## Who writes

A page is recorded in one transaction, row by row, by the scanner which works at the run, and a
run has one scanner.  Several scanners share the tables, but not the rows: the keys of results
and snapshots begin with the number of the run.  That is why the maximum can be enforced by a
scanner that counts for itself (`Counts`), and why a step of another scanner does not have to
be looked at but for the claims and the cache (`LeavesFindings`).  `LiveStays` is the other
half of the theorem: a live result is never made a cached one again.
-/

namespace PromoBot
namespace Discovery

open DiscoveryRepository Scanner SqlTable

/-- How many rows a run has in a table. -/
def rowsOf {ρ : Type} (t : SqlTable ResultKey ρ) (runId : Nat) : Nat :=
  (t.select fun key _ => key.1 = runId).length

/-- **The counters are those of the rows.** -/
structure Accounted (db : DiscoveryDb) (recorded : List ResultKey) : Prop where
  unique : ∀ id run, db.runs.get? id = some run → run.uniqueProductCount = rowsOf db.results id
  snapshots : ∀ id run, db.runs.get? id = some run → run.snapshotCount = rowsOf db.snapshots id
  live : ∀ key, (db.snapshots.get? key).isSome ↔
    ∃ r, db.results.get? key = some r ∧ r.origin = .live ∧ r.targetBrlPrice.isSome
  snapshotId : ∀ key r, db.results.get? key = some r →
    r.snapshotId = if r.origin = .live ∧ r.targetBrlPrice.isSome then some key else none
  matched : ∀ key r, db.results.get? key = some r → r.matchedQueryCount = recorded.count key
  listed : ∀ key ∈ recorded, (db.results.get? key).isSome
  known : ∀ key r, db.results.get? key = some r → ∃ run, db.runs.get? key.1 = some run
  limit : ∀ id run, db.runs.get? id = some run → run.uniqueProductCount ≤ run.maxResults

variable {columns : NumericType} {db db' : DiscoveryDb} {recorded : List ResultKey}
  {q : Recording} {answer : RecordedProduct}

/-! ## One product -/

theorem rowsOf_put {ρ : Type} (t : SqlTable ResultKey ρ) {key : ResultKey} (r : ρ)
    (h : t.get? key = none) (id : Nat) :
    rowsOf (t.put key r) id = rowsOf t id + if id = key.1 then 1 else 0 := by
  unfold rowsOf
  rw [length_select_put t _ r h]
  simp only [eq_comm]

theorem rowsOf_put_of_get? {ρ : Type} (t : SqlTable ResultKey ρ) {key : ResultKey} {r r' : ρ}
    (h : t.get? key = some r') (id : Nat) : rowsOf (t.put key r) id = rowsOf t id :=
  length_select_put_of_get? t _ h Iff.rfl

/-- The snapshots of a product recorded live. -/
theorem get?_of_snapped {key : ResultKey} {price : Option Decimal}
    {snapshots : SqlTable ResultKey PriceSnapshot} {snapshotId : Option ResultKey}
    (h : Snapped db key price snapshots snapshotId) (k : ResultKey) :
    (snapshots.get? k).isSome ↔
      (k = key ∧ price.isSome) ∨ (k ≠ key ∧ (db.snapshots.get? k).isSome) ∨
        (k = key ∧ price = .none ∧ (db.snapshots.get? k).isSome) := by
  cases price with
  | none =>
    obtain ⟨-, rfl⟩ := h.none rfl
    by_cases hk : k = key <;> simp [hk]
  | some p =>
    obtain ⟨-, row, rfl⟩ := h.some rfl
    rw [get?_put]
    by_cases hk : k = key <;> simp [hk]

/-- A result is written where there was one, or is one more. -/
theorem rowsOf_results (h : RecordEffect db q db' answer) (id : Nat) :
    rowsOf db'.results id =
      rowsOf db.results id + if id = q.runId ∧ answer.insertedUnique then 1 else 0 := by
  obtain ⟨row, hrow, heffect⟩ := h.result
  rw [hrow]
  cases heffect with
  | counted existing hexisting => simp [rowsOf_put_of_get? _ hexisting]
  | promoted existing _ _ _ hexisting => simp [rowsOf_put_of_get? _ hexisting]
  | live _ _ _ hnone =>
    rw [rowsOf_put _ _ hnone]
    exact congrArg _ (if_congr (by simp [Recording.resultKey]) rfl rfl)
  | cached _ _ hnone =>
    rw [rowsOf_put _ _ hnone]
    exact congrArg _ (if_congr (by simp [Recording.resultKey]) rfl rfl)

theorem rowsOf_of_snapped {key : ResultKey} {price : Option Decimal}
    {snapshots : SqlTable ResultKey PriceSnapshot} {snapshotId : Option ResultKey}
    (h : Snapped db key price snapshots snapshotId) (id : Nat) :
    rowsOf snapshots id =
      rowsOf db.snapshots id + if id = key.1 ∧ snapshotId.isSome then 1 else 0 := by
  cases price with
  | none =>
    obtain ⟨rfl, rfl⟩ := h.none rfl
    simp
  | some p =>
    obtain ⟨rfl, row, rfl⟩ := h.some rfl
    rw [rowsOf_put _ _ (h.fresh rfl)]
    simp

theorem rowsOf_snapshots (h : RecordEffect db q db' answer) (id : Nat) :
    rowsOf db'.snapshots id =
      rowsOf db.snapshots id + if id = q.runId ∧ answer.snapshotCreated then 1 else 0 := by
  obtain ⟨row, -, heffect⟩ := h.result
  cases heffect with
  | counted _ _ _ hsame => simp [hsame]
  | promoted _ snapshotId _ _ _ _ hsnapped => exact rowsOf_of_snapped hsnapped id
  | live snapshotId _ _ _ _ hsnapped => exact rowsOf_of_snapped hsnapped id
  | cached _ _ _ _ hsame => simp [hsame]

/-- What recording a product makes of its result, of its snapshot and of their origin. -/
structure RowAfter (db : DiscoveryDb) (q : Recording) (db' : DiscoveryDb) (row : RunResult) :
    Prop where
  written : db'.results = db.results.put q.resultKey row
  matched : row.matchedQueryCount =
    1 + ((db.results.get? q.resultKey).map RunResult.matchedQueryCount).getD 0
  snapshotId : row.snapshotId =
    if row.origin = .live ∧ row.targetBrlPrice.isSome then some q.resultKey else none
  live : (db'.snapshots.get? q.resultKey).isSome ↔ row.origin = .live ∧ row.targetBrlPrice.isSome
  other : ∀ key, key ≠ q.resultKey → db'.snapshots.get? key = db.snapshots.get? key

theorem snapshots_other {key k : ResultKey} {price : Option Decimal}
    {snapshots : SqlTable ResultKey PriceSnapshot} {snapshotId : Option ResultKey}
    (h : Snapped db key price snapshots snapshotId) (hk : k ≠ key) :
    snapshots.get? k = db.snapshots.get? k := by
  cases price with
  | none => rw [(h.none rfl).2]
  | some p =>
    obtain ⟨-, row, rfl⟩ := h.some rfl
    exact get?_put_ne _ _ hk

/-- The live row of a product: its snapshot is there if it has a price, provided no snapshot was
there before. -/
theorem rowAfter_live {snapshotId : Option ResultKey} {minimumDrop : Decimal}
    {score : DiscoveryScore} {count : Nat}
    (hfresh : (db.snapshots.get? q.resultKey).isSome = false)
    (hsnapped : Snapped db q.resultKey q.product.targetBrlPrice db'.snapshots snapshotId)
    (hwritten : db'.results =
      db.results.put q.resultKey (resultRow .live snapshotId q.product minimumDrop score count))
    (hcount : count = 1 + ((db.results.get? q.resultKey).map RunResult.matchedQueryCount).getD 0) :
    RowAfter db q db' (resultRow .live snapshotId q.product minimumDrop score count) where
  written := hwritten
  matched := hcount
  snapshotId := by
    cases hprice : q.product.targetBrlPrice with
    | none => simp [resultRow, hprice, (hsnapped.none hprice).1]
    | some price => simp [resultRow, hprice, (hsnapped.some (hprice ▸ rfl)).1]
  live := by
    rw [get?_of_snapped hsnapped]
    simp [resultRow, hfresh]
  other := fun _ hk => snapshots_other hsnapped hk

theorem exists_rowAfter (h : Accounted db recorded) (heffect : RecordEffect db q db' answer) :
    ∃ row, RowAfter db q db' row := by
  obtain ⟨row, hwritten, hresult⟩ := heffect.result
  refine ⟨row, ?_⟩
  cases hresult with
  | counted existing hexisting horigin hsame =>
    refine ⟨hwritten, ?_, h.snapshotId _ existing hexisting, ?_, ?_⟩
    · rw [hexisting]
      exact Nat.add_comm ..
    · rw [hsame, h.live]
      constructor
      · rintro ⟨r, hr, hlive⟩
        obtain rfl := Option.some.inj (hexisting.symm.trans hr)
        exact hlive
      · exact fun hlive => ⟨existing, hexisting, hlive⟩
    · exact fun key _ => by rw [hsame]
  | promoted existing snapshotId minimumDrop score hexisting hcache hsnapped =>
    refine rowAfter_live ?_ hsnapped hwritten ?_
    · rw [← Bool.not_eq_true, h.live]
      rintro ⟨r, hr, hlive, -⟩
      obtain rfl := Option.some.inj (hexisting.symm.trans hr)
      rw [hcache] at hlive
      cases hlive
    · rw [hexisting]
      exact Nat.add_comm ..
  | live snapshotId minimumDrop score hnone horigin hsnapped =>
    refine rowAfter_live ?_ hsnapped hwritten ?_
    · rw [← Bool.not_eq_true, h.live]
      rintro ⟨r, hr, -⟩
      rw [hnone] at hr
      cases hr
    · rw [hnone]
      rfl
  | cached minimumDrop score hnone horigin hsame =>
    refine ⟨hwritten, ?_, rfl, ?_, ?_⟩
    · rw [hnone]
      rfl
    · rw [hsame, h.live]
      constructor
      · rintro ⟨r, hr, -⟩
        rw [hnone] at hr
        cases hr
      · rintro ⟨hlive, -⟩
        cases hlive
    · exact fun key _ => by rw [hsame]

theorem matched_before (h : Accounted db recorded) (key : ResultKey) :
    ((db.results.get? key).map RunResult.matchedQueryCount).getD 0 = recorded.count key := by
  cases hr : db.results.get? key with
  | some r => exact h.matched key r hr
  | none =>
    refine (List.count_eq_zero_of_not_mem fun hmem => ?_).symm
    have hsome := h.listed key hmem
    rw [hr] at hsome
    cases hsome

/-- **Recording a product keeps the accounts**, when its run has room for one more. -/
theorem Accounted.record (h : Accounted db recorded) (heffect : RecordEffect db q db' answer)
    (hroom : ∀ run, db.runs.get? q.runId = some run → run.uniqueProductCount < run.maxResults) :
    Accounted db' (q.resultKey :: recorded) := by
  obtain ⟨row, hrow⟩ := exists_rowAfter h heffect
  have hresults : ∀ key r, db'.results.get? key = some r →
      (key = q.resultKey ∧ r = row) ∨ (key ≠ q.resultKey ∧ db.results.get? key = some r) := by
    intro key r hr
    rw [hrow.written, get?_put] at hr
    split at hr
    · next hkey => exact .inl ⟨hkey, (Option.some.inj hr).symm⟩
    · next hkey => exact .inr ⟨hkey, hr⟩
  constructor
  · intro id run' hrun'
    obtain ⟨run, hrun, heq⟩ := heffect.runs.of_get?' hrun'
    rw [rowsOf_results heffect id, ← h.unique id run hrun, heq]
    by_cases hid : id = q.runId <;> simp [hid, countRecorded]
  · intro id run' hrun'
    obtain ⟨run, hrun, heq⟩ := heffect.runs.of_get?' hrun'
    rw [rowsOf_snapshots heffect id, ← h.snapshots id run hrun, heq]
    by_cases hid : id = q.runId <;> simp [hid, countRecorded]
  · intro key
    by_cases hkey : key = q.resultKey
    · subst hkey
      rw [hrow.live, hrow.written, get?_put_self]
      simp
    · rw [hrow.other key hkey, h.live, hrow.written, get?_put_ne _ _ hkey]
  · intro key r hr
    rcases hresults key r hr with ⟨rfl, rfl⟩ | ⟨-, hr⟩
    · exact hrow.snapshotId
    · exact h.snapshotId key r hr
  · intro key r hr
    rcases hresults key r hr with ⟨rfl, rfl⟩ | ⟨hkey, hr⟩
    · rw [hrow.matched, matched_before h, List.count_cons_self, Nat.add_comm]
    · rw [List.count_cons_of_ne (Ne.symm hkey)]
      exact h.matched key r hr
  · intro key hkey
    rw [hrow.written, get?_put]
    split
    · rfl
    · next hne =>
      exact h.listed key ((List.mem_cons.1 hkey).resolve_left hne)
  · intro key r hr
    have hrun : ∃ run, db.runs.get? key.1 = some run := by
      rcases hresults key r hr with ⟨rfl, rfl⟩ | ⟨-, hr⟩
      · exact heffect.run
      · exact h.known key r hr
    obtain ⟨run, hrun⟩ := hrun
    obtain ⟨run', hrun', -⟩ := heffect.runs.of_get? hrun
    exact ⟨run', hrun'⟩
  · intro id run' hrun'
    obtain ⟨run, hrun, rfl⟩ := heffect.runs.of_get?' hrun'
    have hle := h.limit id run hrun
    split
    · next hid =>
      have hlt := hroom run (hid ▸ hrun)
      show run.uniqueProductCount + _ ≤ run.maxResults
      split <;> omega
    · exact hle

/-! ## Transactions that record nothing -/

theorem Accounted.of_sameFindings (h : Accounted db recorded)
    (hruns : RowsRel (fun _ => SameFindings) db.runs db'.runs) (hresults : db'.results = db.results)
    (hsnapshots : db'.snapshots = db.snapshots) : Accounted db' recorded where
  unique := by
    intro id run' hrun'
    obtain ⟨run, hrun, hsame⟩ := hruns.of_get?' hrun'
    rw [hresults, hsame.uniqueProductCount]
    exact h.unique id run hrun
  snapshots := by
    intro id run' hrun'
    obtain ⟨run, hrun, hsame⟩ := hruns.of_get?' hrun'
    rw [hsnapshots, hsame.snapshotCount]
    exact h.snapshots id run hrun
  live := by
    rw [hresults, hsnapshots]
    exact h.live
  snapshotId := by
    rw [hresults]
    exact h.snapshotId
  matched := by
    rw [hresults]
    exact h.matched
  listed := by
    rw [hresults]
    exact h.listed
  known := by
    intro key r hr
    rw [hresults] at hr
    obtain ⟨run, hrun⟩ := h.known key r hr
    obtain ⟨run', hrun', -⟩ := hruns.of_get? hrun
    exact ⟨run', hrun'⟩
  limit := by
    intro id run' hrun'
    obtain ⟨run, hrun, hsame⟩ := hruns.of_get?' hrun'
    rw [hsame.uniqueProductCount, hsame.maxResults]
    exact h.limit id run hrun

theorem rowsOf_eq_zero {ρ : Type} {t : SqlTable ResultKey ρ} {id : Nat}
    (h : ∀ key, (t.get? key).isSome → key.1 ≠ id) : rowsOf t id = 0 := by
  unfold rowsOf
  rw [List.length_eq_zero_iff, List.eq_nil_iff_forall_not_mem]
  rintro ⟨key, r⟩ hmem
  obtain ⟨hr, hid⟩ := mem_select.1 hmem
  exact h key (by rw [hr]; rfl) hid

theorem Accounted.created (h : Accounted db recorded) (q : NewRun) :
    Accounted (createRun db q).1 recorded := by
  have hfresh : ∀ key r, db.results.get? key = some r → key.1 ≠ (createRun db q).2 := by
    intro key r hr
    obtain ⟨run, hrun⟩ := h.known key r hr
    exact ne_createRun_snd hrun
  constructor
  · intro id run hrun
    rw [get?_createRun] at hrun
    split at hrun
    · next hid =>
      obtain rfl := Option.some.inj hrun
      refine (rowsOf_eq_zero fun key hkey => ?_).symm
      obtain ⟨r, hr⟩ := Option.isSome_iff_exists.1 hkey
      exact hid ▸ hfresh key r hr
    · exact h.unique id run hrun
  · intro id run hrun
    rw [get?_createRun] at hrun
    split at hrun
    · next hid =>
      obtain rfl := Option.some.inj hrun
      refine (rowsOf_eq_zero fun key hkey => ?_).symm
      obtain ⟨r, hr, -⟩ := (h.live key).1 hkey
      exact hid ▸ hfresh key r hr
    · exact h.snapshots id run hrun
  · exact h.live
  · exact h.snapshotId
  · exact h.matched
  · exact h.listed
  · intro key r hr
    obtain ⟨run, hrun⟩ := h.known key r hr
    refine ⟨run, ?_⟩
    rw [get?_createRun, if_neg (ne_createRun_snd hrun)]
    exact hrun
  · intro id run hrun
    rw [get?_createRun] at hrun
    split at hrun
    · obtain rfl := Option.some.inj hrun
      exact Nat.zero_le _
    · exact h.limit id run hrun

/-- A transaction that leaves the results of all runs alone. -/
structure LeavesFindings (db db' : DiscoveryDb) : Prop where
  runs : RowsRel (fun _ => SameFindings) db.runs db'.runs
  results : db'.results = db.results
  snapshots : db'.snapshots = db.snapshots

theorem leavesFindings_of_claimEffect {q : ClaimRequest} {claim : DiscoveryQueryClaim}
    (h : ClaimEffect columns db q db' claim) : LeavesFindings db db' := by
  cases h with
  | cache db₁ cached hrenewed hcached =>
    refine ⟨hrenewed.sameCounters.trans (rowsRel_updateWhere (R := fun _ => SameFindings) _ _ _
      (fun _ run => .refl run) fun _ _ _ _ => ⟨rfl, rfl, rfl⟩) ?_, hrenewed.results,
      hrenewed.snapshots⟩
    exact fun _ _ _ _ hab hbc => ⟨hbc.uniqueProductCount.trans hab.1.findings.uniqueProductCount,
      hbc.snapshotCount.trans hab.1.findings.snapshotCount,
      hbc.maxResults.trans hab.1.findings.maxResults⟩
  | inProgress _ hrenewed =>
    exact ⟨hrenewed.sameCounters.mono fun _ _ _ h => h.1.findings, hrenewed.results,
      hrenewed.snapshots⟩
  | call db₁ _ hrenewed _ hcalled =>
    refine ⟨hrenewed.sameCounters.trans hcalled.sameFindings ?_,
      hcalled.results.trans hrenewed.results, hcalled.snapshots.trans hrenewed.snapshots⟩
    exact fun _ _ _ _ hab hbc => ⟨hbc.uniqueProductCount.trans hab.1.findings.uniqueProductCount,
      hbc.snapshotCount.trans hab.1.findings.snapshotCount,
      hbc.maxResults.trans hab.1.findings.maxResults⟩

theorem leavesFindings_of_finishRun {runId : Nat} {state : DiscoveryRunState} {now : Instant}
    {stopReason : String} {errorCode : Option String}
    (h : finishRun db runId state now stopReason errorCode = .ok db') : LeavesFindings db db' := by
  obtain ⟨-, runs, hruns, rfl⟩ := finishRun_eq_ok h
  exact ⟨rowsRel_updateOne hruns (fun _ run => .refl run) fun _ _ _ => ⟨rfl, rfl, rfl⟩, rfl, rfl⟩

theorem leavesFindings_of_stored {runId token : Nat} {key : QueryKey} {page : DiscoveryPage}
    {operation : DiscoveryOperation} {now : Instant}
    (h : Stored db runId key token page operation now db') : LeavesFindings db db' := by
  refine ⟨?_, h.results, h.snapshots⟩
  rw [h.runs]
  exact rowsRel_updateWhere _ _ _ (fun _ run => .refl run) fun _ _ _ _ => ⟨rfl, rfl, rfl⟩

/-! ## Whole runs -/

/-- The run of the scanner has so many products, and the maximum of the scanner's job. -/
def Counts (db : DiscoveryDb) (s : Scanner) (unique : Nat) : Prop :=
  ∃ run, db.runs.get? s.runId = some run ∧ run.uniqueProductCount = unique ∧
    run.maxResults = s.job.profile.maxResults

/-- **The invariant of a run.** -/
structure Balanced (w : DiscoveryWorld) : Prop where
  accounted : Accounted w.db w.recorded
  counts : ∀ i s, w.scanners i = some s → s.phase ≠ .done → Counts w.db s s.uniqueProducts

variable {w w' : DiscoveryWorld} {i : Nat} {s : Scanner}

theorem Counts.of_leavesFindings {unique : Nat} (h : Counts db s unique)
    (hleaves : LeavesFindings db db') : Counts db' s unique := by
  obtain ⟨run, hrun, hunique, hmax⟩ := h
  obtain ⟨run', hrun', hsame⟩ := hleaves.runs.of_get? hrun
  exact ⟨run', hrun', hsame.uniqueProductCount.trans hunique, hsame.maxResults.trans hmax⟩

theorem Counts.record {unique : Nat} {key : QueryKey} {item : DiscoveryProduct}
    {origin : DiscoveryOrigin} {now : Instant} (h : Counts db s unique)
    (heffect : RecordEffect db (s.recording key item origin now) db' answer) :
    Counts db' s (unique + if answer.insertedUnique then 1 else 0) := by
  obtain ⟨run, hrun, hunique, hmax⟩ := h
  obtain ⟨run', hrun', heq⟩ := heffect.runs.of_get? hrun
  rw [if_pos (show s.runId = (s.recording key item origin now).runId from rfl)] at heq
  subst heq
  exact ⟨_, hrun', by rw [← hunique]; rfl, hmax⟩

theorem Counts.of_ne {t : Scanner} {unique : Nat} (h : Counts db t unique)
    (hrun : db'.runs.get? t.runId = db.runs.get? t.runId) : Counts db' t unique := by
  unfold Counts
  rw [hrun]
  exact h

theorem Counts.of_sameScan {s' : Scanner} (h : Counts db s s.uniqueProducts)
    (hsame : SameScan s s') : Counts db s' s'.uniqueProducts := by
  unfold Counts at *
  rw [hsame.runId, hsame.uniqueProducts, hsame.job]
  exact h

/-- A live page, product by product. -/
theorem balanced_recordAll {key : QueryKey} {observedAt : Nat → Instant} {unique : Nat}
    {items : List DiscoveryProduct} {record : PageRecord}
    (h : recordAll columns s key observedAt db unique recorded items = .ok record)
    (haccounted : Accounted db recorded) (hcounts : Counts db s unique) :
    Accounted record.db record.recorded ∧ Counts record.db s record.uniqueProducts := by
  refine recordAll_invariant
    (P := fun db unique recorded => Accounted db recorded ∧ Counts db s unique) ?_ h
    ⟨haccounted, hcounts⟩
  rintro db unique recorded item now db' answer ⟨haccounted, hcounts⟩ hlt heffect
  refine ⟨haccounted.record heffect ?_, hcounts.record heffect⟩
  intro run hrun
  obtain ⟨run', hrun', hunique, hmax⟩ := hcounts
  obtain rfl := Option.some.inj (hrun'.symm.trans hrun)
  rw [hunique, hmax]
  exact hlt

theorem balanced_init {clock : Instant} : Balanced { noDiscoveries with clock := clock } where
  accounted := by
    constructor
    · exact fun id run h => absurd h (by simp [noDiscoveries])
    · exact fun id run h => absurd h (by simp [noDiscoveries])
    · simp [noDiscoveries]
    · exact fun key r h => absurd h (by simp [noDiscoveries])
    · exact fun key r h => absurd h (by simp [noDiscoveries])
    · simp [noDiscoveries]
    · exact fun key r h => absurd h (by simp [noDiscoveries])
    · exact fun id run h => absurd h (by simp [noDiscoveries])
  counts := fun i s hs => absurd hs (by simp [noDiscoveries])

/-- A step that records nothing keeps the balance. -/
theorem Balanced.of_leavesFindings (h : Balanced w) {s' : Scanner}
    (hs : w.scanners i = some s) (hwork : s'.phase ≠ .done → s.phase ≠ .done)
    (hsame : SameScan s s') (hscanners : w'.scanners = Function.update w.scanners i (some s'))
    (hleaves : LeavesFindings w.db w'.db) (hrecorded : w'.recorded = w.recorded) : Balanced w' where
  accounted := by
    rw [hrecorded]
    exact h.accounted.of_sameFindings hleaves.runs hleaves.results hleaves.snapshots
  counts := by
    intro j t ht hdone
    rw [hscanners] at ht
    rcases scanners_update ht with ⟨rfl, rfl⟩ | ⟨-, ht⟩
    · exact ((h.counts j s hs (hwork hdone)).of_leavesFindings hleaves).of_sameScan hsame
    · exact (h.counts j t ht hdone).of_leavesFindings hleaves

theorem Balanced.step (horderly : Orderly w) (h : Balanced w) {a : ScanAction}
    (hstep : discoveryStep columns w a = some w') : Balanced w' := by
  cases effect_of_step hstep with
  | started job now hnone =>
    refine ⟨h.accounted.created _, ?_⟩
    intro j t ht hdone
    rcases scanners_update ht with ⟨rfl, rfl⟩ | ⟨-, ht⟩
    · refine ⟨(newRun job now).row w.db.nextToken, ?_, rfl, rfl⟩
      exact (get?_createRun w.db (newRun job now) _).trans (if_pos rfl)
    · refine (h.counts j t ht hdone).of_ne ?_
      obtain ⟨run, hrun⟩ := horderly.fleet.run j t ht
      exact (get?_createRun w.db (newRun job now) _).trans (if_neg (ne_createRun_snd hrun))
  | moved s s' clock hs hmoves =>
    refine h.of_leavesFindings hs ?_ hmoves.same rfl ⟨.refl (fun _ run => .refl run) _, rfl, rfl⟩ rfl
    intro hdone
    exact (hmoves.holds.resolve_left hdone).1
  | queried s now db claim hs hholds hdone heffect =>
    exact h.of_leavesFindings hs (fun _ => hdone) (sameScan_claimed s s.key claim) rfl
      (leavesFindings_of_claimEffect heffect) rfl
  | stored s s' key token page operation now observedAt db record hs hphase hstored hrecord
      hsame =>
    have hleaves := leavesFindings_of_stored hstored
    obtain ⟨haccounted, hcounts⟩ := balanced_recordAll hrecord
      (h.accounted.of_sameFindings hleaves.runs hleaves.results hleaves.snapshots)
      ((h.counts _ s hs (by simp [hphase])).of_leavesFindings hleaves)
    refine ⟨haccounted, ?_⟩
    intro j t ht hwork
    rcases scanners_update ht with ⟨rfl, rfl⟩ | ⟨hj, ht⟩
    · have hsame' : Counts record.db { s with uniqueProducts := record.uniqueProducts }
        record.uniqueProducts := hcounts
      exact hsame'.of_sameScan hsame
    · have hid : t.runId ≠ s.runId := fun hid => hj (horderly.fleet.distinct _ _ t s ht hs hid)
      exact ((h.counts j t ht hwork).of_leavesFindings hleaves).of_ne
        (get?_recordAll_of_ne hid hrecord)
  | replayed s key page item rest now db answer hs hphase hfull heffect =>
    have hcounts := h.counts _ s hs (by simp [hphase])
    refine ⟨h.accounted.record heffect ?_, ?_⟩
    · intro run hrun
      obtain ⟨run', hrun', hunique, hmax⟩ := hcounts
      obtain rfl := Option.some.inj (hrun'.symm.trans hrun)
      rw [hunique, hmax]
      exact not_le.1 hfull
    · intro j t ht hwork
      rcases scanners_update ht with ⟨rfl, rfl⟩ | ⟨hj, ht⟩
      · exact hcounts.record heffect
      · obtain ⟨run, hrun, hunique, hmax⟩ := h.counts j t ht hwork
        obtain ⟨run', hrun', heq⟩ := heffect.runs.of_get? hrun
        have hid : t.runId ≠ s.runId := fun hid => hj (horderly.fleet.distinct _ _ t s ht hs hid)
        rw [if_neg (show t.runId ≠ (s.recording key item .cache now).runId from hid)] at heq
        subst heq
        exact ⟨run', hrun', hunique, hmax⟩
  | finished s state stopReason errorCode now db hs hholds hdone hfinish =>
    exact h.of_leavesFindings hs (fun _ => hdone) (moves_gone s).same rfl
      (leavesFindings_of_finishRun hfinish) rfl
  | failed s key token state stopReason errorCode now db hs hholds hfinish =>
    have hleaves := leavesFindings_of_finishRun hfinish
    exact h.of_leavesFindings hs (fun hdone => absurd rfl hdone) (moves_gone s).same rfl
      ⟨hleaves.runs, hleaves.results, hleaves.snapshots⟩ rfl

theorem balanced_of_reachable (h : (discoverySystem columns).Reachable w) : Balanced w := by
  have hboth : Orderly w ∧ Balanced w := by
    refine h.invariant (P := fun w => Orderly w ∧ Balanced w) ?_ ?_
    · rintro w ⟨clock, rfl⟩
      exact ⟨orderly_init, balanced_init⟩
    · rintro w a w' ⟨horderly, hbalanced⟩ hstep
      exact ⟨horderly.step hstep, hbalanced.step horderly hstep⟩
  exact hboth.2

/-! ## No live result is downgraded -/

/-- Live results stay live. -/
def LiveStays (db db' : DiscoveryDb) : Prop :=
  ∀ key r, db.results.get? key = some r → r.origin = .live →
    ∃ r', db'.results.get? key = some r' ∧ r'.origin = .live

theorem liveStays_of_eq (h : db'.results = db.results) : LiveStays db db' := by
  intro key r hr hlive
  exact ⟨r, h ▸ hr, hlive⟩

theorem liveStays_of_recordEffect (h : RecordEffect db q db' answer) : LiveStays db db' := by
  intro key r hr hlive
  obtain ⟨row, hwritten, hresult⟩ := h.result
  rw [hwritten, get?_put]
  split
  · next hkey =>
    subst hkey
    refine ⟨row, rfl, ?_⟩
    cases hresult with
    | counted existing hexisting =>
      obtain rfl := Option.some.inj (hexisting.symm.trans hr)
      exact hlive
    | promoted => rfl
    | live => rfl
    | cached _ _ hnone =>
      rw [hnone] at hr
      cases hr
  · exact ⟨r, hr, hlive⟩

theorem LiveStays.trans {db'' : DiscoveryDb} (h : LiveStays db db') (h' : LiveStays db' db'') :
    LiveStays db db'' := by
  intro key r hr hlive
  obtain ⟨r', hr', hlive'⟩ := h key r hr hlive
  exact h' key r' hr' hlive'

theorem liveStays_of_effect (h : Effect columns w i w') : LiveStays w.db w'.db := by
  cases h with
  | started | moved => exact liveStays_of_eq rfl
  | queried s now db claim hs hholds hdone heffect =>
    exact liveStays_of_eq (leavesFindings_of_claimEffect heffect).results
  | stored s s' key token page operation now observedAt db record hs hphase hstored hrecord =>
    refine (liveStays_of_eq hstored.results).trans ?_
    exact recordAll_invariant (P := fun db' _ _ => LiveStays db db')
      (fun _ _ _ _ _ _ _ hstays _ heffect => hstays.trans (liveStays_of_recordEffect heffect))
      hrecord (liveStays_of_eq rfl)
  | replayed s key page item rest now db answer hs hphase hfull heffect =>
    exact liveStays_of_recordEffect heffect
  | finished s state stopReason errorCode now db hs hholds hdone hfinish =>
    exact liveStays_of_eq (leavesFindings_of_finishRun hfinish).results
  | failed s key token state stopReason errorCode now db hs hholds hfinish =>
    exact liveStays_of_eq (leavesFindings_of_finishRun hfinish).results

/-! ## The accounts are exact -/

/-- What holds of the results in every state. -/
structure AccountsExact (w : DiscoveryWorld) : Prop where
  unique : ∀ id run, w.db.runs.get? id = some run →
    run.uniqueProductCount = rowsOf w.db.results id ∧ run.uniqueProductCount ≤ run.maxResults
  snapshots : ∀ id run, w.db.runs.get? id = some run →
    run.snapshotCount = rowsOf w.db.snapshots id
  live : ∀ key, (w.db.snapshots.get? key).isSome ↔
    ∃ r, w.db.results.get? key = some r ∧ r.origin = .live ∧ r.targetBrlPrice.isSome
  fromCache : ∀ key r, w.db.results.get? key = some r → r.origin = .cache →
    w.db.snapshots.get? key = none ∧ r.snapshotId = none
  atMostOne : ∀ key, (w.db.results.select fun k _ => k = key).length ≤ 1 ∧
    (w.db.snapshots.select fun k _ => k = key).length ≤ 1
  matched : ∀ key r, w.db.results.get? key = some r → r.matchedQueryCount = w.recorded.count key

theorem Accounted.exact (h : Accounted w.db w.recorded) : AccountsExact w where
  unique := fun id run hrun => ⟨h.unique id run hrun, h.limit id run hrun⟩
  snapshots := h.snapshots
  live := h.live
  fromCache := by
    intro key r hr hcache
    constructor
    · rw [← Option.not_isSome_iff_eq_none, h.live]
      rintro ⟨r', hr', hlive, -⟩
      obtain rfl := Option.some.inj (hr.symm.trans hr')
      rw [hcache] at hlive
      cases hlive
    · rw [h.snapshotId key r hr, if_neg]
      rintro ⟨hlive, -⟩
      rw [hcache] at hlive
      cases hlive
  atMostOne := fun key => ⟨length_select_key_le_one _ key, length_select_key_le_one _ key⟩
  matched := h.matched

/-- In every state that any scanners reach, the counters of every run are those of its rows,
and no step downgrades a live result. -/
theorem discovery_accountsExact (h : (discoverySystem columns).Reachable w) :
    AccountsExact w ∧
      ∀ a w', discoveryStep columns w a = some w' → LiveStays w.db w'.db :=
  ⟨(balanced_of_reachable h).accounted.exact,
    fun _ _ hstep => liveStays_of_effect (effect_of_step hstep)⟩

/-! ## A page seen live and then cached -/

/-- A product with nothing but a price. -/
def pricedProduct : DiscoveryProduct where
  productId := "7".toList
  title := none
  imageUrl := none
  firstCategoryId := none
  firstCategoryName := none
  secondCategoryId := none
  secondCategoryName := none
  shopId := none
  shopName := none
  targetBrlPrice := some 10
  observedPrices := []
  declaredDiscountPercent := none
  commissionRate := none
  hotProductCommissionRate := none
  volume := none
  completenessScore := 1
  diagnostics := ∅

/-- One scanner records the product live and finishes; a second one is answered from the
cache. -/
def liveThenCached : List ScanAction :=
  [.start 0 smallJob 0, .proceed 0 1 fun _ => 1,
    .answer 0 (.page ⟨[pricedProduct], none, none, 0⟩), .proceed 0 2 fun _ => 2,
    .proceed 0 2 fun _ => 2, .proceed 0 3 fun _ => 3, .start 1 smallJob (seconds 10),
    .proceed 1 (seconds 10) fun _ => 0]

/-- The second scanner has recorded the product too. -/
def browsed : DiscoveryWorld :=
  (discoverySystem NumericType.halfEven).endOf noDiscoveries
    (liveThenCached ++ [.proceed 1 (seconds 11) fun _ => 0])

theorem browsed_reachable : (discoverySystem NumericType.halfEven).Reachable browsed :=
  ⟨noDiscoveries, ⟨0, rfl⟩, TransitionSystem.run_endOf (by decide +kernel)⟩

theorem discovery_accountsExact_browsed :
    browsed.recorded = [(2, "7".toList), (1, "7".toList)] ∧ AccountsExact browsed ∧
      ∀ a w', discoveryStep NumericType.halfEven browsed a = some w' → LiveStays browsed.db w'.db :=
  ⟨by decide +kernel, discovery_accountsExact browsed_reachable⟩

end Discovery
end PromoBot
