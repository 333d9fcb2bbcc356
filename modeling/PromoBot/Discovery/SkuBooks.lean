import PromoBot.Discovery.SkuSteps

/-!
# The books of the refinement runs

`SkuBooks` is the law of the counters and of the evidence: the counters of a run are the
rows they count, a snapshot is kept of exactly the SKUs that were matched live, and an item
is called cached exactly if its page was.

There is one lemma here for each effect a transaction can have on the books.  Recording an
item keeps them when its run has room for one more; that it has is a matter of the
shortlist, whose products are different, and no more than the run may refine.
-/

namespace PromoBot
namespace Discovery

open Fallible Refiner SkuRefinementRepository SqlTable

/-- The claims granted to a run. -/
def skuGrantCount (grants : List (Text × SkuClaim)) (runId : Nat) : Nat :=
  grants.countP fun g => g.2.ownerRunId = runId

/-- **The counters are those of the rows, and the evidence is where it belongs.** -/
structure SkuBooks (db : SkuDb) (grants : List (Text × SkuClaim)) (fromCache : List ResultKey) :
    Prop where
  calls : ∀ id run, db.runs.get? id = some run →
    run.apiCallCount = skuGrantCount grants id ∧ run.apiCallCount ≤ run.maxSkuApiCalls
  refined : ∀ id run, db.runs.get? id = some run →
    run.refinedCount = ownRows db.items id ∧ run.refinedCount ≤ run.maxRefinedProducts
  snapshots : ∀ id run, db.runs.get? id = some run → run.snapshotCount = ownRows db.snapshots id
  evidence : ∀ id productId skuId, (db.snapshots.get? (id, productId, skuId)).isSome ↔
    ∃ item, db.items.get? (id, productId) = some item ∧
      SkuItem.evidence item = (.live, .matched, some skuId)
  origin : ∀ key item, db.items.get? key = some item → (item.origin = .cache ↔ key ∈ fromCache)
  noted : ∀ key ∈ fromCache, (db.items.get? key).isSome
  ofRun : ∀ key item, db.items.get? key = some item → ∃ run, db.runs.get? key.1 = some run
  toRun : ∀ g ∈ grants, ∃ run, db.runs.get? g.2.ownerRunId = some run

variable {columns : NumericType} {u : PyUnicode} {db db' : SkuDb}
  {grants : List (Text × SkuClaim)} {fromCache : List ResultKey}

/-! ## The books -/

theorem skuBooks_empty : SkuBooks noRefinements.db [] [] where
  calls := fun id run h => absurd h (by simp [noRefinements])
  refined := fun id run h => absurd h (by simp [noRefinements])
  snapshots := fun id run h => absurd h (by simp [noRefinements])
  evidence := by simp [noRefinements]
  origin := fun key item h => absurd h (by simp [noRefinements])
  noted := by simp
  ofRun := fun key item h => absurd h (by simp [noRefinements])
  toRun := by simp

/-- A transaction that records nothing. -/
theorem SkuBooks.leaves (h : SkuBooks db grants fromCache) (hleaves : SkuLeaves db db') :
    SkuBooks db' grants fromCache where
  calls := by
    intro id run' hrun'
    obtain ⟨run, hrun, hkept⟩ := hleaves.runs.of_get?' hrun'
    rw [hkept.apiCallCount, hkept.maxSkuApiCalls]
    exact h.calls id run hrun
  refined := by
    intro id run' hrun'
    obtain ⟨run, hrun, hkept⟩ := hleaves.runs.of_get?' hrun'
    rw [hkept.refinedCount, hkept.maxRefinedProducts, hleaves.count]
    exact h.refined id run hrun
  snapshots := by
    intro id run' hrun'
    obtain ⟨run, hrun, hkept⟩ := hleaves.runs.of_get?' hrun'
    rw [hkept.snapshotCount, hleaves.snapshots]
    exact h.snapshots id run hrun
  evidence := by
    intro id productId skuId
    rw [hleaves.snapshots, h.evidence]
    constructor
    · rintro ⟨item, hitem, hevidence⟩
      obtain ⟨item', hitem', hsame, -⟩ := hleaves.items.of_get? hitem
      exact ⟨item', hitem', hsame.trans hevidence⟩
    · rintro ⟨item', hitem', hevidence⟩
      obtain ⟨item, hitem, hsame, -⟩ := hleaves.items.of_get?' hitem'
      exact ⟨item, hitem, hsame.symm.trans hevidence⟩
  origin := by
    intro key item' hitem'
    obtain ⟨item, hitem, hsame, -⟩ := hleaves.items.of_get?' hitem'
    rw [(Prod.mk.inj hsame).1]
    exact h.origin key item hitem
  noted := by
    intro key hkey
    obtain ⟨item, hitem⟩ := Option.isSome_iff_exists.1 (h.noted key hkey)
    obtain ⟨item', hitem', -⟩ := hleaves.items.of_get? hitem
    rw [hitem']
    rfl
  ofRun := by
    intro key item' hitem'
    obtain ⟨item, hitem, -⟩ := hleaves.items.of_get?' hitem'
    obtain ⟨run, hrun⟩ := h.ofRun key item hitem
    obtain ⟨run', hrun', -⟩ := hleaves.runs.of_get? hrun
    exact ⟨run', hrun'⟩
  toRun := by
    intro g hg
    obtain ⟨run, hrun⟩ := h.toRun g hg
    obtain ⟨run', hrun', -⟩ := hleaves.runs.of_get? hrun
    exact ⟨run', hrun'⟩

theorem SkuBooks.created (h : SkuBooks db grants fromCache) (q : NewSkuRun) :
    SkuBooks (createSkuRun db q).1 grants fromCache := by
  have hstays : ∀ id, (∃ run, db.runs.get? id = some run) →
      ∃ run, (createSkuRun db q).1.runs.get? id = some run := by
    rintro id ⟨run, hrun⟩
    refine ⟨run, ?_⟩
    rw [get?_createSkuRun, if_neg (ne_createSkuRun_snd hrun)]
    exact hrun
  have hitems : ∀ key, (db.items.get? key).isSome → key.1 ≠ (createSkuRun db q).2 := by
    intro key hkey
    obtain ⟨item, hitem⟩ := Option.isSome_iff_exists.1 hkey
    obtain ⟨run, hrun⟩ := h.ofRun key item hitem
    exact ne_createSkuRun_snd hrun
  constructor
  · intro id run hrun
    rw [get?_createSkuRun] at hrun
    split at hrun
    · next hid =>
      obtain rfl := Option.some.inj hrun
      refine ⟨Eq.symm ?_, Nat.zero_le _⟩
      show List.countP _ grants = 0
      rw [List.countP_eq_zero]
      intro g hg howner
      obtain ⟨run, hrun⟩ := h.toRun g hg
      rw [of_decide_eq_true howner] at hrun
      exact ne_createSkuRun_snd hrun hid
    · exact h.calls id run hrun
  · intro id run hrun
    rw [get?_createSkuRun] at hrun
    split at hrun
    · next hid =>
      obtain rfl := Option.some.inj hrun
      exact ⟨(ownRows_eq_zero _ fun key hkey => hid ▸ hitems key hkey).symm, Nat.zero_le _⟩
    · exact h.refined id run hrun
  · intro id run hrun
    rw [get?_createSkuRun] at hrun
    split at hrun
    · next hid =>
      obtain rfl := Option.some.inj hrun
      refine (ownRows_eq_zero _ ?_).symm
      rintro ⟨id', productId, skuId⟩ hkey
      obtain ⟨item, hitem, -⟩ := (h.evidence id' productId skuId).1 hkey
      exact hid ▸ hitems (id', productId) (by rw [hitem]; rfl)
    · exact h.snapshots id run hrun
  · exact h.evidence
  · exact h.origin
  · exact h.noted
  · exact fun key item hitem => hstays _ (h.ofRun key item hitem)
  · exact fun g hg => hstays _ (h.toRun g hg)

/-- The claim that is granted with a call. -/
def skuGrant (q : SkuClaimRequest) (token : Nat) : Text × SkuClaim :=
  (q.fingerprint, ⟨q.runId, q.productId, token, q.now, q.leaseUntil⟩)

theorem SkuBooks.called (h : SkuBooks db grants fromCache) {q : SkuClaimRequest}
    (hcalled : SkuCalled db q db') :
    SkuBooks db' (skuGrant q db.nextToken :: grants) fromCache := by
  have hruns : RowsRel (fun id run run' => run' =
      if id = q.runId then { run with apiCallCount := run.apiCallCount + 1 } else run)
      db.runs db'.runs := by
    intro id
    rw [hcalled.runs, get?_updateWhere]
    cases db.runs.get? id with
    | none => exact .none
    | some run => exact .some rfl
  constructor
  · intro id run' hrun'
    obtain ⟨run, hrun, rfl⟩ := hruns.of_get?' hrun'
    obtain ⟨hcount, hle⟩ := h.calls id run hrun
    by_cases hid : id = q.runId
    · subst hid
      obtain ⟨run₀, hrun₀, -, hlt⟩ := hcalled.budget
      obtain rfl := Option.some.inj (hrun.symm.trans hrun₀)
      rw [if_pos rfl]
      exact ⟨by simp [skuGrantCount, skuGrant, hcount], hlt⟩
    · rw [if_neg hid]
      refine ⟨?_, hle⟩
      rw [hcount, skuGrantCount, skuGrantCount, List.countP_cons_of_neg]
      simp [skuGrant, Ne.symm hid]
  · intro id run' hrun'
    obtain ⟨run, hrun, rfl⟩ := hruns.of_get?' hrun'
    rw [hcalled.items]
    split <;> exact h.refined id run hrun
  · intro id run' hrun'
    obtain ⟨run, hrun, rfl⟩ := hruns.of_get?' hrun'
    rw [hcalled.snapshots]
    split <;> exact h.snapshots id run hrun
  · rw [hcalled.items, hcalled.snapshots]
    exact h.evidence
  · rw [hcalled.items]
    exact h.origin
  · rw [hcalled.items]
    exact h.noted
  · intro key item hitem
    rw [hcalled.items] at hitem
    obtain ⟨run, hrun⟩ := h.ofRun key item hitem
    obtain ⟨run', hrun', -⟩ := hruns.of_get? hrun
    exact ⟨run', hrun'⟩
  · intro g hg
    have hrun : ∃ run, db.runs.get? g.2.ownerRunId = some run := by
      rcases List.mem_cons.1 hg with rfl | hg
      · obtain ⟨run, hrun, -⟩ := hcalled.budget
        exact ⟨run, hrun⟩
      · exact h.toRun g hg
    obtain ⟨run, hrun⟩ := hrun
    obtain ⟨run', hrun', -⟩ := hruns.of_get? hrun
    exact ⟨run', hrun'⟩

/-! ### An item -/

variable {q : ItemRecord}

/-- The key a recorded item has its snapshot under. -/
theorem snapshot_key_iff {id : Nat} {productId skuId : Text} :
    q.snapshot.map Prod.fst = some (id, productId, skuId) ↔
      id = q.runId ∧ productId = q.productId ∧ q.origin = .live ∧
        q.result.selected.map DiscoverySku.skuId = some skuId := by
  unfold ItemRecord.snapshot
  cases horigin : q.origin with
  | cache => simp
  | live =>
    cases hselected : q.result.selected with
    | none => simp
    | some sku =>
      simp only [Option.map_some, Option.some.injEq, Prod.mk.injEq, true_and]
      constructor
      · rintro ⟨rfl, rfl, rfl⟩
        exact ⟨rfl, rfl, rfl⟩
      · rintro ⟨rfl, rfl, rfl⟩
        exact ⟨rfl, rfl, rfl⟩

theorem isSome_snapshots (h : ItemRecorded db q db') (key : SkuSnapshotKey) :
    (db'.snapshots.get? key).isSome ↔
      (db.snapshots.get? key).isSome ∨ q.snapshot.map Prod.fst = some key := by
  obtain ⟨hnone, hsame⟩ | ⟨key', row, hentry, -, hput⟩ := insertSnapshot_eq_ok h.snapshots
  · simp [hnone, hsame]
  · rw [hput, get?_put, hentry]
    by_cases hkey : key = key'
    · simp [hkey]
    · simp [hkey, Ne.symm hkey]

theorem ownRows_snapshots (h : ItemRecorded db q db') (id : Nat) :
    ownRows db'.snapshots id =
      ownRows db.snapshots id + if id = q.runId ∧ q.snapshot.isSome then 1 else 0 := by
  obtain ⟨hnone, hsame⟩ | ⟨⟨id', productId, skuId⟩, row, hentry, hfree, hput⟩ :=
    insertSnapshot_eq_ok h.snapshots
  · simp [hnone, hsame]
  · obtain ⟨rfl, -, -, -⟩ := snapshot_key_iff.1 (show q.snapshot.map Prod.fst = _ by rw [hentry]; rfl)
    rw [hput, ownRows_put _ _ hfree, hentry]
    simp [eq_comm]

/-- **Recording an item keeps the books**, when its run has room for one more. -/
theorem SkuBooks.recorded (h : SkuBooks db grants fromCache) (hrecorded : ItemRecorded db q db')
    (hroom : ∀ run, db.runs.get? q.runId = some run → run.refinedCount < run.maxRefinedProducts)
    (hselected : q.result.selected.isSome ↔ q.result.state = .matched)
    {fromCache' : List ResultKey}
    (hnoted : ∀ key, key ∈ fromCache' ↔
      key ∈ fromCache ∨ (q.origin = .cache ∧ key = (q.runId, q.productId))) :
    SkuBooks db' grants fromCache' := by
  have hruns : RowsRel (fun id run run' => run' =
      if id = q.runId then countItem q.snapshot.isSome run else run) db.runs db'.runs := by
    intro id
    rw [hrecorded.runs, get?_updateWhere]
    cases db.runs.get? id with
    | none => exact .none
    | some run => exact .some rfl
  have hitems : ∀ key item, db'.items.get? key = some item →
      (key = (q.runId, q.productId) ∧ item = q.row) ∨
        (key ≠ (q.runId, q.productId) ∧ db.items.get? key = some item) := by
    intro key item hitem
    rw [hrecorded.items, get?_put] at hitem
    split at hitem
    · next hkey => exact .inl ⟨hkey, (Option.some.inj hitem).symm⟩
    · next hkey => exact .inr ⟨hkey, hitem⟩
  constructor
  · intro id run' hrun'
    obtain ⟨run, hrun, rfl⟩ := hruns.of_get?' hrun'
    split <;> exact h.calls id run hrun
  · intro id run' hrun'
    obtain ⟨run, hrun, rfl⟩ := hruns.of_get?' hrun'
    obtain ⟨hcount, hle⟩ := h.refined id run hrun
    rw [hrecorded.items, ownRows_put _ _ hrecorded.fresh, ← hcount]
    by_cases hid : id = q.runId
    · subst hid
      simpa [countItem, Nat.succ_le_iff] using hroom run hrun
    · simpa [hid, Ne.symm hid] using hle
  · intro id run' hrun'
    obtain ⟨run, hrun, rfl⟩ := hruns.of_get?' hrun'
    rw [ownRows_snapshots hrecorded, ← h.snapshots id run hrun]
    by_cases hid : id = q.runId <;> simp [hid, countItem]
  · intro id productId skuId
    rw [isSome_snapshots hrecorded, snapshot_key_iff, h.evidence]
    by_cases hkey : (id, productId) = (q.runId, q.productId)
    · obtain ⟨rfl, rfl⟩ := Prod.mk.inj hkey
      rw [hrecorded.items, get?_put_self, hrecorded.fresh]
      simp only [reduceCtorEq, false_and, exists_false, false_or, true_and, Option.some.injEq,
        exists_eq_left', SkuItem.evidence, ItemRecord.row, Prod.mk.injEq]
      constructor
      · rintro ⟨horigin, hsku⟩
        refine ⟨horigin, hselected.1 ?_, hsku⟩
        obtain ⟨sku, hsku, -⟩ := Option.map_eq_some_iff.1 hsku
        rw [hsku]
        rfl
      · rintro ⟨horigin, -, hsku⟩
        exact ⟨horigin, hsku⟩
    · rw [hrecorded.items, get?_put_ne _ _ hkey]
      constructor
      · rintro (hitem | ⟨rfl, rfl, -⟩)
        · exact hitem
        · exact absurd rfl hkey
      · exact .inl
  · intro key item hitem
    rw [hnoted]
    rcases hitems key item hitem with ⟨rfl, rfl⟩ | ⟨hkey, hitem⟩
    · -- No item was there, so none was noted.
      have hnew : (q.runId, q.productId) ∉ fromCache := fun hmem => by
        have hsome := h.noted _ hmem
        rw [hrecorded.fresh] at hsome
        cases hsome
      simp [hnew, ItemRecord.row]
    · simp [h.origin key item hitem, hkey]
  · intro key hkey
    rw [hrecorded.items, get?_put]
    split
    · rfl
    · next hne =>
      exact h.noted key (((hnoted key).1 hkey).resolve_right fun hnew => hne hnew.2)
  · intro key item hitem
    have hrun : ∃ run, db.runs.get? key.1 = some run := by
      rcases hitems key item hitem with ⟨rfl, rfl⟩ | ⟨-, hitem⟩
      · obtain ⟨run, hrun, -⟩ := hrecorded.active
        exact ⟨run, hrun⟩
      · exact h.ofRun key item hitem
    obtain ⟨run, hrun⟩ := hrun
    obtain ⟨run', hrun', -⟩ := hruns.of_get? hrun
    exact ⟨run', hrun'⟩
  · intro g hg
    obtain ⟨run, hrun⟩ := h.toRun g hg
    obtain ⟨run', hrun', -⟩ := hruns.of_get? hrun
    exact ⟨run', hrun'⟩

/-! ## The shortlist -/

theorem map_productId_candidatesOf (source : DiscoveryDb) (sourceRunId : Nat) :
    ((candidatesOf source sourceRunId).map Candidate.productId).Nodup := by
  unfold candidatesOf
  rw [List.map_map]
  set rows := source.results.select fun key _ => key.1 = sourceRunId with hrows
  have hkeys : (rows.map Prod.fst).Nodup := nodup_keys_select ..
  have hfun : (Candidate.productId ∘ fun e : ResultKey × RunResult =>
      (⟨e.1.2, e.2.score.totalScore⟩ : Candidate)) = Prod.snd ∘ Prod.fst := rfl
  rw [hfun, ← List.map_map]
  refine hkeys.map_on ?_
  intro key hkey key' hkey' heq
  obtain ⟨e, he, rfl⟩ := List.mem_map.1 hkey
  obtain ⟨e', he', rfl⟩ := List.mem_map.1 hkey'
  have hid := (mem_select.1 (show (e.1, e.2) ∈ rows from he)).2
  have hid' := (mem_select.1 (show (e'.1, e'.2) ∈ rows from he')).2
  exact Prod.ext (hid.trans hid'.symm) heq

/-- **The shortlist**: different products, no more than the run may refine. -/
theorem selectShortlist_eq_ok {source : DiscoveryDb} {job : SkuJob} {shortlist : List Candidate}
    (h : selectShortlist source job = .ok shortlist) :
    (shortlist.map Candidate.productId).Nodup ∧
      shortlist.length ≤ job.refinement.maxRefinedProducts := by
  unfold selectShortlist at h
  obtain ⟨run, -, h⟩ := bind_eq_ok.1 h
  obtain ⟨⟨⟩, -, h⟩ := bind_eq_ok.1 h
  obtain ⟨⟨⟩, -, h⟩ := bind_eq_ok.1 h
  obtain rfl := Except.ok.inj h
  constructor
  · have hperm := (List.perm_insertionSort shortlistLe (candidatesOf source job.sourceRunId)).map
      Candidate.productId
    exact (hperm.nodup_iff.2 (map_productId_candidatesOf ..)).sublist
      ((List.take_sublist _ _).map _)
  · exact List.length_take_le ..

end Discovery
end PromoBot
