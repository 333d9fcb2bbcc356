import PromoBot.Discovery.Accounting
import PromoBot.Discovery.SkuBooks

/-!
# The accounts of a refinement run

`Crew` is what ties the books to the runners: a runner has room for every product it may still
record, none of which has an item yet, and its run owns no claim but the one it answers for.

What an item says of its origin rests on what can be in the cache.  A page is cached only after
its SKUs were compared, so it would be compared again --- unless the column has rounded the
price of one of them to zero.  Then the cached page goes to a reviewer, and what
`_record_review_item` records is called live whatever it was.  `PricesSurvive` is that this
does not happen.

## Three columns for one fact

The origin of an item stands in three places: in the item itself, in the counters of the run,
and in whether there is a grant for its product, which no row says and the world keeps
(`RefineWorld.grants`).  `SkuAccounts` is that they agree: a product is refined once, it is
live where a call was granted for it and cached where a page was found, and the counters are
those of the items.

Most of this is bookkeeping, and `SkuBooks` has it as an invariant of the tables.  The one
thing that is not is the origin of an item for review.  There the code does not pass on what it
knows and writes the constant, which is right as long as a page for review was received just
now.  That it was is an argument about the page: it could not be compared, and what could not
be compared was never cached (`WasComparable`).  The column of prices has two decimals, so the
argument has a hole at prices below half a cent, and nowhere else (`comparable_page`).

The condition is on the state before a claim: of the SKUs it is going to be answered with
(`skusToRead`) none has a price that is read as zero.  A claim which is refused is answered
with nothing, and the condition does not speak of it.
-/

namespace PromoBot
namespace Discovery

open Fallible Refiner SkuRefinementRepository SqlTable

variable {columns : NumericType} {u : PyUnicode} {w w' : RefineWorld} {i : Nat} {r : Refiner}

/-- The SKUs of a cached page could be compared when they were stored. -/
def WasComparable (u : PyUnicode) (cached : SkuCache) : Prop :=
  1 ≤ cached.items.length ∧ cached.items.length < 20 ∧
    ∀ sku ∈ cached.items, validSku u sku cached.productId = true

/-- **The runners and their runs.** -/
structure Crew (u : PyUnicode) (w : RefineWorld) : Prop where
  cached : ∀ fingerprint cached, w.db.cache.get? fingerprint = some cached → WasComparable u cached
  owners : ∀ fingerprint claim, w.db.claims.get? fingerprint = some claim →
    ∃ run, w.db.runs.get? claim.ownerRunId = some run
  distinct : ∀ i j r t, w.refiners i = some r → w.refiners j = some t → r.runId = t.runId → i = j
  room : ∀ i r, w.refiners i = some r → ∃ run, w.db.runs.get? r.runId = some run ∧
    run.refinedCount + r.pending.length ≤ run.maxRefinedProducts
  fresh : ∀ i r, w.refiners i = some r → r.pending.Nodup ∧
    ∀ productId ∈ r.pending, w.db.items.get? (r.runId, productId) = none
  sound : ∀ i r, w.refiners i = some r → r.Sound u
  rows : ∀ fingerprint claim, w.db.claims.get? fingerprint = some claim → ∀ i r,
    w.refiners i = some r → r.runId = claim.ownerRunId →
      r.phase = .gone ∨ r.claimOf = some (fingerprint, claim.leaseToken)
  returned : ∀ i r, w.refiners i = some r → r.phase = .returned →
    ∃ run, w.db.runs.get? r.runId = some run ∧ run.state ≠ .running

/-- What a step of the runner `r`, which becomes `r'`, does to the others, and what it has to
see to for itself. -/
structure Turn (u : PyUnicode) (w w' : RefineWorld) (i : Nat) (r r' : Refiner) : Prop where
  refiners : w'.refiners = Function.update w.refiners i (some r')
  runId : r'.runId = r.runId
  cached : ∀ fingerprint cached, w'.db.cache.get? fingerprint = some cached → WasComparable u cached
  others : ∀ id run, id ≠ r.runId → w.db.runs.get? id = some run →
    ∃ run', w'.db.runs.get? id = some run' ∧ run'.refinedCount = run.refinedCount ∧
      run'.maxRefinedProducts = run.maxRefinedProducts ∧ (run.state ≠ .running → run' = run)
  items : ∀ key, key.1 ≠ r.runId → w.db.items.get? key = none → w'.db.items.get? key = none
  claims : ∀ fingerprint claim, w'.db.claims.get? fingerprint = some claim →
    w.db.claims.get? fingerprint = some claim ∨ claim.ownerRunId = r.runId
  room : ∃ run, w'.db.runs.get? r.runId = some run ∧
    run.refinedCount + r'.pending.length ≤ run.maxRefinedProducts
  fresh : r'.pending.Nodup ∧
    ∀ productId ∈ r'.pending, w'.db.items.get? (r.runId, productId) = none
  sound : r'.Sound u
  own : ∀ fingerprint claim, w'.db.claims.get? fingerprint = some claim →
    claim.ownerRunId = r.runId →
      r'.phase = .gone ∨ r'.claimOf = some (fingerprint, claim.leaseToken)
  returned : r'.phase = .returned →
    ∃ run, w'.db.runs.get? r.runId = some run ∧ run.state ≠ .running

theorem Crew.turn (h : Crew u w) (hr : w.refiners i = some r) {r' : Refiner}
    (hturn : Turn u w w' i r r') : Crew u w' := by
  have hcases : ∀ j t, w'.refiners j = some t →
      (j = i ∧ t = r') ∨ (j ≠ i ∧ w.refiners j = some t) := by
    intro j t ht
    rw [hturn.refiners] at ht
    exact refiners_update ht
  have hold : ∀ j t, w'.refiners j = some t →
      ∃ t₀, w.refiners j = some t₀ ∧ t₀.runId = t.runId := by
    intro j t ht
    rcases hcases j t ht with ⟨rfl, rfl⟩ | ⟨-, ht⟩
    · exact ⟨r, hr, hturn.runId.symm⟩
    · exact ⟨t, ht, rfl⟩
  -- The run of another runner is another run.
  have hother : ∀ j t, j ≠ i → w.refiners j = some t → t.runId ≠ r.runId :=
    fun j t hj ht hid => hj (h.distinct j i t r ht hr hid)
  constructor
  · exact hturn.cached
  · intro fingerprint claim hclaim
    by_cases hid : claim.ownerRunId = r.runId
    · obtain ⟨run, hrun, -⟩ := hturn.room
      exact ⟨run, hid ▸ hrun⟩
    · obtain ⟨run, hrun⟩ :=
        h.owners fingerprint claim ((hturn.claims fingerprint claim hclaim).resolve_right hid)
      obtain ⟨run', hrun', -⟩ := hturn.others _ run hid hrun
      exact ⟨run', hrun'⟩
  · intro j k t t' ht ht' hid
    obtain ⟨t₀, ht₀, hidt⟩ := hold j t ht
    obtain ⟨t₀', ht₀', hidt'⟩ := hold k t' ht'
    exact h.distinct j k t₀ t₀' ht₀ ht₀' (hidt.trans (hid.trans hidt'.symm))
  · intro j t ht
    rcases hcases j t ht with ⟨rfl, rfl⟩ | ⟨hj, ht⟩
    · rw [hturn.runId]
      exact hturn.room
    · obtain ⟨run, hrun, hle⟩ := h.room j t ht
      obtain ⟨run', hrun', hcount, hmax, -⟩ := hturn.others _ run (hother j t hj ht) hrun
      refine ⟨run', hrun', ?_⟩
      rw [hcount, hmax]
      exact hle
  · intro j t ht
    rcases hcases j t ht with ⟨rfl, rfl⟩ | ⟨hj, ht⟩
    · rw [hturn.runId]
      exact hturn.fresh
    · obtain ⟨hnodup, hnone⟩ := h.fresh j t ht
      exact ⟨hnodup, fun productId hmem => hturn.items _ (hother j t hj ht) (hnone productId hmem)⟩
  · intro j t ht
    rcases hcases j t ht with ⟨rfl, rfl⟩ | ⟨-, ht⟩
    · exact hturn.sound
    · exact h.sound j t ht
  · intro fingerprint claim hclaim j t ht hid
    rcases hcases j t ht with ⟨rfl, rfl⟩ | ⟨hj, ht⟩
    · exact hturn.own fingerprint claim hclaim (hid.symm.trans hturn.runId)
    · rcases hturn.claims fingerprint claim hclaim with hclaim | howner
      · exact h.rows fingerprint claim hclaim j t ht hid
      · exact absurd (hid.trans howner) (hother j t hj ht)
  · intro j t ht hphase
    rcases hcases j t ht with ⟨rfl, rfl⟩ | ⟨hj, ht⟩
    · rw [hturn.runId]
      exact hturn.returned hphase
    · obtain ⟨run, hrun, hended⟩ := h.returned j t ht hphase
      obtain ⟨run', hrun', -, -, hsame⟩ := hturn.others _ run (hother j t hj ht) hrun
      exact ⟨run', hrun', hsame hended ▸ hended⟩

/-! ## The steps -/

theorem crew_init : Crew u noRefinements := by
  constructor
  · exact fun _ _ h => absurd h (by simp [noRefinements])
  · exact fun _ _ h => absurd h (by simp [noRefinements])
  · exact fun _ _ _ _ h => absurd h (by simp [noRefinements])
  · exact fun _ _ h => absurd h (by simp [noRefinements])
  · exact fun _ _ h => absurd h (by simp [noRefinements])
  · exact fun _ _ h => absurd h (by simp [noRefinements])
  · exact fun _ _ h => absurd h (by simp [noRefinements])
  · exact fun _ _ h => absurd h (by simp [noRefinements])

theorem Crew.not_owner (h : Crew u w) (hr : w.refiners i = some r) (hclaim : r.claimOf = none)
    (hphase : r.phase ≠ .gone) {fingerprint : Text} {claim : SkuClaim}
    (hrow : w.db.claims.get? fingerprint = some claim) : claim.ownerRunId ≠ r.runId := by
  intro howner
  rcases h.rows fingerprint claim hrow i r hr howner.symm with hgone | hsome
  · exact hphase hgone
  · rw [hclaim] at hsome
    cases hsome

/-- Once the claim a runner answers for is released, its run owns none. -/
theorem Crew.not_owner_released (h : Crew u w) (hr : w.refiners i = some r) {fingerprint : Text}
    {token : Nat} (hclaim : r.claimOf = some (fingerprint, token)) {k : Text} {claim : SkuClaim}
    (hrow : (releaseSkuClaim w.db.claims fingerprint token).get? k = some claim) :
    w.db.claims.get? k = some claim ∧ claim.ownerRunId ≠ r.runId := by
  rw [get?_releaseSkuClaim, Option.filter_eq_some_iff] at hrow
  obtain ⟨hrow, hnot⟩ := hrow
  refine ⟨hrow, fun howner => ?_⟩
  rcases h.rows k claim hrow i r hr howner.symm with hgone | hsome
  · unfold claimOf at hclaim
    rw [hgone] at hclaim
    cases hclaim
  · obtain ⟨rfl, rfl⟩ := Prod.mk.inj (Option.some.inj (hclaim.symm.trans hsome))
    simp at hnot

theorem Crew.moved (h : Crew u w) (hr : w.refiners i = some r) {r' : Refiner}
    (hmoves : Moves u r r') : Crew u (w.setRefiner i r') := by
  obtain ⟨hnodup, hnone⟩ := h.fresh i r hr
  refine h.turn hr ⟨rfl, hmoves.runId, h.cached, fun id run _ hrun => ⟨run, hrun, rfl, rfl,
    fun _ => rfl⟩, fun _ _ hitem => hitem, fun _ _ hclaim => .inl hclaim, ?_,
    ⟨hnodup.sublist hmoves.pending, fun productId hmem => hnone productId
      (hmoves.pending.subset hmem)⟩, hmoves.sound, ?_, fun hphase => absurd hphase hmoves.working⟩
  · obtain ⟨run, hrun, hle⟩ := h.room i r hr
    exact ⟨run, hrun, (Nat.add_le_add_left hmoves.pending.length_le _).trans hle⟩
  · intro fingerprint claim hclaim howner
    rcases hmoves.claimOf with hgone | ⟨hwork, hsame⟩
    · exact .inl hgone
    · rw [hsame]
      exact .inr ((h.rows fingerprint claim hclaim i r hr howner.symm).resolve_left hwork)

theorem Crew.start (h : Crew u w) (hbooks : SkuBooks w.db w.grants w.fromCache) {job : SkuJob}
    {source : DiscoveryDb} {shortlist : List Candidate} (now : Instant)
    (hshortlist : selectShortlist source job = .ok shortlist) :
    Crew u (w.start i job shortlist now) := by
  obtain ⟨hnodup, hlength⟩ := selectShortlist_eq_ok hshortlist
  set q := newRun job now with hq
  have hcases : ∀ j t, (w.start i job shortlist now).refiners j = some t →
      (j = i ∧ t = ⟨job, (createSkuRun w.db q).2, shortlist, .next⟩) ∨
        (j ≠ i ∧ w.refiners j = some t) := fun j t ht => refiners_update ht
  have hstays : ∀ id run, w.db.runs.get? id = some run →
      (createSkuRun w.db q).1.runs.get? id = some run := by
    intro id run hrun
    rw [get?_createSkuRun, if_neg (ne_createSkuRun_snd hrun)]
    exact hrun
  have hold : ∀ j t, w.refiners j = some t → t.runId ≠ (createSkuRun w.db q).2 := by
    intro j t ht
    obtain ⟨run, hrun, -⟩ := h.room j t ht
    exact ne_createSkuRun_snd hrun
  constructor
  · exact h.cached
  · intro fingerprint claim hclaim
    obtain ⟨run, hrun⟩ := h.owners fingerprint claim hclaim
    exact ⟨run, hstays _ run hrun⟩
  · intro j k t t' ht ht' hid
    rcases hcases j t ht with ⟨hj, rfl⟩ | ⟨-, ht₀⟩ <;>
      rcases hcases k t' ht' with ⟨hk, rfl⟩ | ⟨-, ht₀'⟩
    · exact hj.trans hk.symm
    · exact absurd hid.symm (hold k t' ht₀')
    · exact absurd hid (hold j t ht₀)
    · exact h.distinct j k t t' ht₀ ht₀' hid
  · intro j t ht
    rcases hcases j t ht with ⟨-, rfl⟩ | ⟨-, ht⟩
    · refine ⟨q.row w.db.nextToken, ?_, ?_⟩
      · show (createSkuRun w.db q).1.runs.get? _ = _
        rw [get?_createSkuRun, if_pos rfl]
      · simpa [Refiner.pending, current, NewSkuRun.row, hq, newRun] using hlength
    · obtain ⟨run, hrun, hle⟩ := h.room j t ht
      exact ⟨run, hstays _ run hrun, hle⟩
  · intro j t ht
    rcases hcases j t ht with ⟨-, rfl⟩ | ⟨-, ht⟩
    · refine ⟨by simpa [Refiner.pending, current] using hnodup, fun productId _ => ?_⟩
      show w.db.items.get? _ = none
      cases hitem : w.db.items.get? ((createSkuRun w.db q).2, productId) with
      | none => rfl
      | some item =>
        obtain ⟨run, hrun⟩ := hbooks.ofRun _ item hitem
        exact absurd rfl (ne_createSkuRun_snd (q := q) hrun)
    · exact h.fresh j t ht
  · intro j t ht
    rcases hcases j t ht with ⟨-, rfl⟩ | ⟨-, ht⟩
    · trivial
    · exact h.sound j t ht
  · intro fingerprint claim hclaim j t ht hid
    rcases hcases j t ht with ⟨-, rfl⟩ | ⟨-, ht⟩
    · obtain ⟨run, hrun⟩ := h.owners fingerprint claim hclaim
      exact absurd hid.symm (ne_createSkuRun_snd (q := q) hrun)
    · exact h.rows fingerprint claim hclaim j t ht hid
  · intro j t ht hphase
    rcases hcases j t ht with ⟨-, rfl⟩ | ⟨-, ht⟩
    · cases hphase
    · obtain ⟨run, hrun, hended⟩ := h.returned j t ht hphase
      exact ⟨run, hstays _ run hrun, hended⟩

/-! ### Claims -/

variable (columns) in
/-- A cached page is as good as when it was stored, if no price was rounded to zero. -/
theorem comparable_page {cached : SkuCache} {productId : Text} {requirements : List SkuRequirement}
    (h : WasComparable u cached) (hproduct : cached.productId = productId)
    (hprices : ∀ sku ∈ cached.items, 0 < columns.read 2 sku.salePriceWithTax)
    (hrequirements : requirements ≠ []) :
    Comparable u (SkuCache.page columns cached productId) requirements := by
  obtain ⟨hone, htwenty, hvalid⟩ := h
  refine ⟨hrequirements, by simpa [SkuCache.page] using hone, by simpa [SkuCache.page] using htwenty,
    ?_⟩
  intro sku hsku
  obtain ⟨sku₀, hsku₀, rfl⟩ := List.mem_map.1 hsku
  have hvalid₀ := hvalid sku₀ hsku₀
  simp only [validSku, Bool.and_eq_true, decide_eq_true_eq] at hvalid₀ ⊢
  obtain ⟨⟨⟨⟨hid, hcurrency⟩, -⟩, hattributes⟩, hagree⟩ := hvalid₀
  exact ⟨⟨⟨⟨hid.trans hproduct, hcurrency⟩, hprices sku₀ hsku₀⟩, hattributes⟩, hagree⟩

theorem claimed_cache (r : Refiner) (candidate : Candidate) (page : DiscoverySkuPage) :
    r.claimed u candidate (.cache page) = r.judge u candidate .cached page := rfl

/-- After a claim the runner has the candidates it had. -/
theorem pending_claimed (hphase : r.phase = .next) {candidate : Candidate} {rest : List Candidate}
    (hshortlist : r.shortlist = candidate :: rest) (claim : SkuQueryClaim) :
    ({ r with shortlist := rest }.claimed u candidate claim).pending.Sublist r.pending := by
  have hpending : r.pending = (candidate :: rest).map Candidate.productId := by
    simp [Refiner.pending, current, hphase, hshortlist]
  rw [hpending]
  cases claim with
  | call token => exact List.Sublist.refl _
  | inProgress => exact (List.sublist_cons_self _ _)
  | cache page =>
    rw [claimed_cache]
    rcases judge_cases { r with shortlist := rest } candidate .cached page with
      ⟨code, hjudge, -⟩ | ⟨hjudge, -⟩
    · rw [hjudge]
      exact List.Sublist.refl _
    · rw [hjudge]
      exact List.Sublist.refl _

variable (u r) in
theorem claimOf_claimed (candidate : Candidate) (rest : List Candidate) (claim : SkuQueryClaim) :
    ({ r with shortlist := rest }.claimed u candidate claim).claimOf =
      match claim with
      | .call token => some (r.job.fingerprint candidate.productId, token)
      | .cache _ | .inProgress => none := by
  cases claim with
  | call token => rfl
  | inProgress => rfl
  | cache page =>
    rw [claimed_cache]
    rcases judge_cases { r with shortlist := rest } candidate .cached page with
      ⟨code, hjudge, -⟩ | ⟨hjudge, -⟩
    · rw [hjudge]
      rfl
    · rw [hjudge]
      rfl

theorem Crew.claimed (h : Crew u w) {candidate : Candidate} {rest : List Candidate} {now : Instant}
    {db : SkuDb} {claim : SkuQueryClaim} (hr : w.refiners i = some r) (hphase : r.phase = .next)
    (hshortlist : r.shortlist = candidate :: rest)
    (hprices : ∀ cached, w.db.cache.get? (r.job.fingerprint candidate.productId) = some cached →
      Answers w.db (r.claimRequest candidate now) cached →
      ∀ sku ∈ cached.items, 0 < columns.read 2 sku.salePriceWithTax)
    (heffect : SkuClaimEffect columns w.db (r.claimRequest candidate now) db claim)
    (grants : List (Text × SkuClaim)) :
    Crew u ({ w with db := db, grants := grants }.setRefiner i
      ({ r with shortlist := rest }.claimed u candidate claim)) := by
  have hsublist := pending_claimed (u := u) hphase hshortlist claim
  have hclaimOf := claimOf_claimed u r candidate rest claim
  obtain ⟨hnodup, hnone⟩ := h.fresh i r hr
  obtain ⟨run, hrun, hle⟩ := h.room i r hr
  have hle' := (Nat.add_le_add_left hsublist.length_le run.refinedCount).trans hle
  have hnot : ∀ fingerprint claim, w.db.claims.get? fingerprint = some claim →
      claim.ownerRunId ≠ r.runId := fun _ _ => h.not_owner hr (by simp [claimOf, hphase]) (by simp [hphase])
  have hrunId : ({ r with shortlist := rest }.claimed u candidate claim).runId = r.runId := by
    cases claim <;> rfl
  have hreturned : ({ r with shortlist := rest }.claimed u candidate claim).phase ≠ .returned := by
    cases claim with
    | call token => exact RefinePhase.noConfusion
    | inProgress => exact RefinePhase.noConfusion
    | cache page =>
      unfold Refiner.claimed judge
      dsimp only
      split_ifs <;> exact RefinePhase.noConfusion
  -- What renewing the lease leaves of the runs, the claims and the cache.
  have hrenewed : ∀ db₁, SkuRenewed w.db (r.claimRequest candidate now) db₁ →
      (∀ fingerprint cached, db₁.cache.get? fingerprint = some cached → WasComparable u cached) ∧
      (∀ id run, id ≠ r.runId → w.db.runs.get? id = some run → ∃ run', db₁.runs.get? id = some run' ∧
        run'.refinedCount = run.refinedCount ∧ run'.maxRefinedProducts = run.maxRefinedProducts ∧
        (run.state ≠ .running → run' = run)) ∧
      ∃ run', db₁.runs.get? r.runId = some run' ∧ run'.refinedCount = run.refinedCount ∧
        run'.maxRefinedProducts = run.maxRefinedProducts := by
    intro db₁ hdb₁
    refine ⟨fun fingerprint cached hcached => h.cached _ _ (hdb₁.cache _ _ hcached).1, ?_, ?_⟩
    · intro id run _ hrun
      obtain ⟨run', hrun', hkept⟩ := hdb₁.runs.of_get? hrun
      exact ⟨run', hrun', hkept.refinedCount, hkept.maxRefinedProducts, hkept.frozen⟩
    · obtain ⟨run', hrun', hkept⟩ := hdb₁.runs.of_get? hrun
      exact ⟨run', hrun', hkept.refinedCount, hkept.maxRefinedProducts⟩
  cases heffect with
  | cache _ cached hdb hcached hanswers =>
    obtain ⟨hcache, hothers, run', hrun', hcount, hmax⟩ := hrenewed db hdb
    refine h.turn hr ⟨rfl, hrunId, hcache, hothers, fun _ _ hitem => hdb.items ▸ hitem,
      fun _ _ hrow => .inl (hdb.claims _ _ hrow), ⟨run', hrun', by rw [hcount, hmax]; exact hle'⟩,
      ⟨hnodup.sublist hsublist, fun productId hmem => hdb.items ▸ hnone _ (hsublist.subset hmem)⟩,
      ?_, fun _ _ hrow howner => absurd howner (hnot _ _ (hdb.claims _ _ hrow)),
      fun hphase => absurd hphase hreturned⟩
    have hcomparable := comparable_page columns (h.cached _ cached hcached) hanswers.2.2.2
      (hprices cached hcached hanswers) r.job.refinement.requirements_ne
    rw [claimed_cache]
    rcases judge_cases { r with shortlist := rest } candidate .cached
      (SkuCache.page columns cached (r.claimRequest candidate now).productId) with
      ⟨code, -, hne | hne⟩ | ⟨hjudge, hpage⟩
    · exact absurd rfl hne
    · exact absurd hcomparable hne
    · rw [hjudge]
      exact ⟨hpage.2, hpage.1⟩
  | inProgress _ hdb =>
    obtain ⟨hcache, hothers, run', hrun', hcount, hmax⟩ := hrenewed db hdb
    exact h.turn hr ⟨rfl, hrunId, hcache, hothers, fun _ _ hitem => hdb.items ▸ hitem,
      fun _ _ hrow => .inl (hdb.claims _ _ hrow), ⟨run', hrun', by rw [hcount, hmax]; exact hle'⟩,
      ⟨hnodup.sublist hsublist, fun productId hmem => hdb.items ▸ hnone _ (hsublist.subset hmem)⟩,
      trivial, fun _ _ hrow howner => absurd howner (hnot _ _ (hdb.claims _ _ hrow)),
      fun hphase => absurd hphase hreturned⟩
  | call db₁ _ hdb hcalled =>
    obtain ⟨hcache, hothers, run', hrun', hcount, hmax⟩ := hrenewed db₁ hdb
    have hrow : ∀ fingerprint claim, db.claims.get? fingerprint = some claim →
        (fingerprint = r.job.fingerprint candidate.productId ∧ claim.leaseToken = db₁.nextToken ∧
          claim.ownerRunId = r.runId) ∨ w.db.claims.get? fingerprint = some claim := by
      intro fingerprint claim hclaim
      rw [hcalled.claims, get?_put] at hclaim
      split at hclaim
      · next hkey =>
        obtain rfl := Option.some.inj hclaim
        exact .inl ⟨hkey, rfl, rfl⟩
      · exact .inr (hdb.claims _ _ hclaim)
    refine h.turn hr ⟨rfl, hrunId, hcalled.cache ▸ hcache, ?_, ?_, ?_, ?_,
      ⟨hnodup.sublist hsublist, ?_⟩, trivial, ?_, fun hphase => absurd hphase hreturned⟩
    · intro id run hid hrun
      obtain ⟨run', hrun', hrest⟩ := hothers id run hid hrun
      exact ⟨run', (hcalled.frozen hid).run.trans hrun', hrest⟩
    · intro key _ hitem
      show db.items.get? key = none
      rw [hcalled.items, hdb.items]
      exact hitem
    · intro fingerprint claim hclaim
      rcases hrow fingerprint claim hclaim with ⟨-, -, howner⟩ | hclaim
      · exact .inr howner
      · exact .inl hclaim
    · refine ⟨{ run' with apiCallCount := run'.apiCallCount + 1 }, ?_, ?_⟩
      · show db.runs.get? r.runId = _
        rw [hcalled.runs, get?_updateWhere, hrun', Option.map_some]
        exact congrArg some (if_pos rfl)
      · show run'.refinedCount + _ ≤ run'.maxRefinedProducts
        rw [hcount, hmax]
        exact hle'
    · intro productId hmem
      show db.items.get? _ = none
      rw [hcalled.items, hdb.items]
      exact hnone _ (hsublist.subset hmem)
    · intro fingerprint claim hclaim howner
      rcases hrow fingerprint claim hclaim with ⟨rfl, htoken, -⟩ | hclaim
      · rw [hclaimOf, htoken]
        exact .inr rfl
      · exact absurd howner (hnot _ _ hclaim)

/-! ### Items -/

/-- A runner records the item of its candidate, having given up its claim. -/
theorem Crew.recorded (h : Crew u w) {candidate : Candidate} {q : ItemRecord} {db₁ db : SkuDb}
    {fromCache : List ResultKey} (hr : w.refiners i = some r) (hcurrent : r.current = some candidate)
    (hrunId : q.runId = r.runId) (hproduct : q.productId = candidate.productId)
    (hruns : db₁.runs = w.db.runs) (hitems : db₁.items = w.db.items)
    (hclaims : ∀ k claim, db₁.claims.get? k = some claim →
      w.db.claims.get? k = some claim ∧ claim.ownerRunId ≠ r.runId)
    (hcache : ∀ k cached, db₁.cache.get? k = some cached → WasComparable u cached)
    (hrecorded : ItemRecorded db₁ q db) :
    Crew u ({ w with db := db, fromCache := fromCache }.setRefiner i r.atNext) := by
  obtain ⟨hnodup, hnone⟩ := h.fresh i r hr
  have hpending : r.pending = candidate.productId :: r.shortlist.map Candidate.productId := by
    simp [Refiner.pending, hcurrent]
  have hnext : r.atNext.pending = r.shortlist.map Candidate.productId := by
    simp [Refiner.pending, current, atNext]
  rw [hpending, List.nodup_cons] at hnodup
  refine h.turn hr ⟨rfl, rfl, ?_, ?_, ?_, ?_, ?_, ?_, trivial, ?_, RefinePhase.noConfusion⟩
  · intro k cached hcached
    exact hcache k cached (hrecorded.cache ▸ hcached)
  · intro id run hid hrun
    rw [← hrunId] at hid
    refine ⟨run, ?_, rfl, rfl, fun _ => rfl⟩
    show db.runs.get? id = some run
    rw [(hrecorded.frozen hid).run, hruns]
    exact hrun
  · rintro ⟨id, productId⟩ hid hitem
    have hfrozen : SkuFrozen _ db id := hrecorded.frozen (hrunId ▸ hid)
    show db.items.get? (id, productId) = none
    rw [hfrozen.items, hitems]
    exact hitem
  · intro k claim hclaim
    exact .inl (hclaims k claim (hrecorded.claims ▸ hclaim)).1
  · obtain ⟨run, hrun, hle⟩ := h.room i r hr
    refine ⟨countItem q.snapshot.isSome run, ?_, ?_⟩
    · show db.runs.get? r.runId = _
      rw [hrecorded.runs, get?_updateWhere, hruns, hrun, Option.map_some]
      exact congrArg some (if_pos hrunId.symm)
    · rw [hpending, List.length_cons] at hle
      rw [hnext]
      show run.refinedCount + 1 + _ ≤ run.maxRefinedProducts
      omega
  · rw [hnext]
    refine ⟨hnodup.2, fun productId hmem => ?_⟩
    show db.items.get? (r.runId, productId) = none
    have hne : (r.runId, productId) ≠ (q.runId, q.productId) := by
      intro heq
      rw [hproduct] at heq
      exact hnodup.1 ((Prod.mk.inj heq).2 ▸ hmem)
    rw [hrecorded.items, get?_put_ne _ _ hne, hitems]
    exact hnone productId (by rw [hpending]; exact List.mem_cons_of_mem _ hmem)
  · intro k claim hclaim howner
    exact absurd howner (hclaims k claim (hrecorded.claims ▸ hclaim)).2

theorem Crew.abandoned (h : Crew u w) (hr : w.refiners i = some r) {candidate : Candidate}
    {source : SkuSource}
    (hclaimOf : r.claimOf =
      source.token.map fun token => (r.job.fingerprint candidate.productId, token))
    (hphase : r.phase ≠ .gone) {k : Text} {claim : SkuClaim}
    (hrow : (abandonClaim w.db (r.job.fingerprint candidate.productId) source.token).claims.get? k =
      some claim) :
    w.db.claims.get? k = some claim ∧ claim.ownerRunId ≠ r.runId := by
  cases source with
  | live token => exact h.not_owner_released hr hclaimOf hrow
  | cached => exact ⟨hrow, h.not_owner hr hclaimOf hphase hrow⟩

theorem Crew.reviewed (h : Crew u w) {candidate : Candidate} {source : SkuSource}
    {errorCode : String} {now : Instant} {db : SkuDb} {fromCache : List ResultKey}
    (hr : w.refiners i = some r) (hphase : r.phase = .review candidate source errorCode)
    (hrecorded : ItemRecorded
      (abandonClaim w.db (r.job.fingerprint candidate.productId) source.token)
      (r.item candidate .live .review now (some errorCode)) db) :
    Crew u ({ w with db := db, fromCache := fromCache }.setRefiner i r.atNext) := by
  have habandon : ∀ db fingerprint token, (abandonClaim db fingerprint token).runs = db.runs ∧
      (abandonClaim db fingerprint token).items = db.items ∧
      (abandonClaim db fingerprint token).cache = db.cache := by
    intro db fingerprint token
    cases token <;> exact ⟨rfl, rfl, rfl⟩
  obtain ⟨hruns, hitems, hcache⟩ :=
    habandon w.db (r.job.fingerprint candidate.productId) source.token
  refine h.recorded hr (by simp [current, hphase]) rfl rfl hruns hitems ?_ ?_ hrecorded
  · exact fun k claim => h.abandoned hr (by simp [claimOf, hphase]) (by simp [hphase])
  · rw [hcache]
    exact h.cached

theorem Crew.page (h : Crew u w) {candidate : Candidate} {source : SkuSource}
    {page : DiscoverySkuPage} {now : Instant} {db₁ db : SkuDb} {fromCache : List ResultKey}
    (hr : w.refiners i = some r) (hphase : r.phase = .record candidate source page)
    (hsettled : Settled w.db (r.job.fingerprint candidate.productId) page now db₁ source)
    (hrecorded : ItemRecorded db₁ (r.item candidate source.origin
      (matchDiscoverySkus u page r.job.refinement.requirements) now none) db) :
    Crew u ({ w with db := db, fromCache := fromCache }.setRefiner i r.atNext) := by
  have hsound := h.sound i r hr
  rw [Refiner.Sound, hphase] at hsound
  obtain ⟨⟨-, hone, htwenty, hvalid⟩, -⟩ := hsound
  cases source with
  | live token =>
    refine h.recorded hr (by simp [current, hphase]) rfl rfl hsettled.runs hsettled.items ?_ ?_
      hrecorded
    · intro k claim hclaim
      rw [hsettled.claims] at hclaim
      exact h.not_owner_released hr (by simp [claimOf, hphase, SkuSource.token]) hclaim
    · intro k cached hcached
      rw [hsettled.cache, get?_put] at hcached
      split at hcached
      · obtain rfl := Option.some.inj hcached
        exact ⟨hone, htwenty, hvalid⟩
      · exact h.cached k cached hcached
  | cached =>
    obtain rfl : db₁ = w.db := hsettled
    refine h.recorded hr (by simp [current, hphase]) rfl rfl rfl rfl ?_ h.cached hrecorded
    exact fun k claim hclaim => ⟨hclaim, h.not_owner hr
      (by simp [claimOf, hphase, SkuSource.token]) (by simp [hphase]) hclaim⟩

/-! ### The end of a run -/

/-- A runner ends its run, having given up its claim. -/
theorem Crew.finished (h : Crew u w) {db₁ db : SkuDb} (hr : w.refiners i = some r)
    (hruns : db₁.runs = w.db.runs) (hitems : db₁.items = w.db.items)
    (hclaims : ∀ k claim, db₁.claims.get? k = some claim →
      w.db.claims.get? k = some claim ∧ claim.ownerRunId ≠ r.runId)
    (hcache : db₁.cache = w.db.cache) (hfinished : SkuFinished db₁ r.runId db) :
    Crew u ({ w with db := db }.setRefiner i { r with phase := .returned }) := by
  obtain ⟨hnodup, hnone⟩ := h.fresh i r hr
  have hsublist : (Refiner.pending { r with phase := .returned }).Sublist r.pending :=
    (List.sublist_append_right _ _).map _
  have hgone : ∀ key, w.db.items.get? key = none → db.items.get? key = none := by
    intro key hitem
    cases hitem' : db.items.get? key with
    | none => rfl
    | some item' =>
      obtain ⟨item, hitem₀, -⟩ := hfinished.leaves.items.of_get?' hitem'
      rw [hitems, hitem] at hitem₀
      cases hitem₀
  refine h.turn hr ⟨rfl, rfl, ?_, ?_, fun key _ => hgone key, ?_, ?_, ⟨hnodup.sublist hsublist,
    fun productId hmem => hgone _ (hnone productId (hsublist.subset hmem))⟩, trivial, ?_,
    fun _ => hfinished.ended⟩
  · intro k cached hcached
    change db.cache.get? k = some cached at hcached
    rw [hfinished.cache, hcache] at hcached
    exact h.cached k cached hcached
  · intro id run _ hrun
    obtain ⟨run', hrun', hkept⟩ := hfinished.leaves.runs.of_get? (hruns ▸ hrun)
    exact ⟨run', hrun', hkept.refinedCount, hkept.maxRefinedProducts, hkept.frozen⟩
  · intro k claim hclaim
    exact .inl (hclaims k claim (hfinished.claims ▸ hclaim)).1
  · obtain ⟨run, hrun, hle⟩ := h.room i r hr
    obtain ⟨run', hrun', hkept⟩ := hfinished.leaves.runs.of_get? (hruns ▸ hrun)
    refine ⟨run', hrun', ?_⟩
    rw [hkept.refinedCount, hkept.maxRefinedProducts]
    exact (Nat.add_le_add_left hsublist.length_le _).trans hle
  · intro k claim hclaim howner
    exact absurd howner (hclaims k claim (hfinished.claims ▸ hclaim)).2

/-! ## Whole runs -/

/-- The cached SKUs a step is going to be answered with, if it is a claim that is answered from
the cache. -/
def skusToRead (w : RefineWorld) : RefineAction → List DiscoverySku
  | .proceed i now =>
    match w.refiners i with
    | some r =>
      match r.phase, r.shortlist with
      | .next, candidate :: _ =>
        match w.db.cache.get? (r.job.fingerprint candidate.productId) with
        | some cached =>
          if Answers w.db (r.claimRequest candidate now) cached then cached.items else []
        | none => []
      | _, _ => []
    | none => []
  | .start _ _ _ _ | .answer _ _ | .die _ => []

/-- **No price that is read from the cache has been rounded to zero.** -/
def PricesSurvive (columns : NumericType) (w : RefineWorld) (a : RefineAction) : Prop :=
  ∀ sku ∈ skusToRead w a, 0 < columns.read 2 sku.salePriceWithTax

instance (columns : NumericType) (w : RefineWorld) (a : RefineAction) :
    Decidable (PricesSurvive columns w a) :=
  inferInstanceAs (Decidable (∀ sku ∈ skusToRead w a, _))

/-- **The invariant of a run.** -/
structure Refined (u : PyUnicode) (w : RefineWorld) : Prop where
  books : SkuBooks w.db w.grants w.fromCache
  crew : Crew u w

/-- The grants after a claim. -/
theorem SkuBooks.claimed (h : SkuBooks w.db w.grants w.fromCache) {q : SkuClaimRequest}
    {db : SkuDb} {claim : SkuQueryClaim} (heffect : SkuClaimEffect columns w.db q db claim) :
    SkuBooks db (w.granted db q.fingerprint claim) w.fromCache := by
  cases heffect with
  | cache _ _ hrenewed => exact h.leaves hrenewed.leaves
  | inProgress _ hrenewed => exact h.leaves hrenewed.leaves
  | call db₁ _ hrenewed hcalled =>
    have hgranted : w.granted db q.fingerprint (.call db₁.nextToken) =
        skuGrant q db₁.nextToken :: w.grants := by
      have hrow : db.claims.get? q.fingerprint = some (skuGrant q db₁.nextToken).2 := by
        rw [hcalled.claims]
        exact get?_put_self ..
      unfold RefineWorld.granted
      rw [hrow]
      rfl
    rw [hgranted]
    exact (h.leaves hrenewed.leaves).called hcalled

theorem Crew.room_of_current (h : Crew u w) (hr : w.refiners i = some r) {candidate : Candidate}
    (hcurrent : r.current = some candidate) {run : SkuRun}
    (hrun : w.db.runs.get? r.runId = some run) : run.refinedCount < run.maxRefinedProducts := by
  obtain ⟨run', hrun', hle⟩ := h.room i r hr
  obtain rfl := Option.some.inj (hrun.symm.trans hrun')
  have hpending : r.pending = candidate.productId :: r.shortlist.map Candidate.productId := by
    simp [Refiner.pending, hcurrent]
  rw [hpending, List.length_cons] at hle
  omega

theorem skuLeaves_abandon (db : SkuDb) (fingerprint : Text) (token : Option Nat) :
    SkuLeaves db (abandonClaim db fingerprint token) := by
  cases token <;> exact .of_items (.refl (fun _ run => .refl run) db.runs) rfl rfl

theorem skuLeaves_settled {db db₁ : SkuDb} {fingerprint : Text} {page : DiscoverySkuPage}
    {now : Instant} {source : SkuSource} (h : Settled db fingerprint page now db₁ source) :
    SkuLeaves db db₁ := by
  cases source with
  | live token =>
    refine .of_items ?_ h.items h.snapshots
    rw [h.runs]
    exact .refl (fun _ run => .refl run) db.runs
  | cached =>
    obtain rfl : db₁ = db := h
    exact .of_items (.refl (fun _ run => .refl run) db₁.runs) rfl rfl

/-- **Every step at surviving prices keeps the accounts.** -/
theorem Refined.step (h : Refined u w) {a : RefineAction} (hgood : PricesSurvive columns w a)
    (hstep : refineStep columns u w a = some w') : Refined u w' := by
  cases refineEffect_of_step hstep with
  | started job source shortlist now hnone hshortlist =>
    exact ⟨h.books.created _, h.crew.start h.books now hshortlist⟩
  | moved r r' hr hmoves => exact ⟨h.books, h.crew.moved hr hmoves⟩
  | claimed r candidate rest now db claim ha hr hphase hshortlist heffect =>
    refine ⟨h.books.claimed heffect, h.crew.claimed hr hphase hshortlist ?_ heffect _⟩
    intro cached hcached hanswers sku hsku
    apply hgood
    rw [ha]
    simp only [skusToRead, hr, hphase, hshortlist, hcached, hanswers, if_true]
    exact hsku
  | reviewed r candidate source errorCode now db hr hphase hrecorded =>
    refine ⟨?_, h.crew.reviewed hr hphase hrecorded⟩
    have hsound := h.crew.sound _ r hr
    rw [Refiner.Sound, hphase] at hsound
    have habandoned := skuLeaves_abandon w.db (r.job.fingerprint candidate.productId) source.token
    have hcurrent : r.current = some candidate := by simp [current, hphase]
    show SkuBooks db w.grants (w.noted source (r.runId, candidate.productId))
    refine (h.books.leaves habandoned).recorded hrecorded ?_
      (by simp [Refiner.item, SkuMatchResult.review]) ?_
    · intro run hrun
      obtain ⟨run₀, hrun₀, hkept⟩ := habandoned.runs.of_get?' hrun
      rw [hkept.refinedCount, hkept.maxRefinedProducts]
      exact h.crew.room_of_current hr hcurrent hrun₀
    · cases source with
      | live token => simp [RefineWorld.noted, Refiner.item]
      | cached => exact absurd rfl hsound
  | recorded r candidate source page now db₁ db hr hphase hsettled hrecorded =>
    refine ⟨?_, h.crew.page hr hphase hsettled hrecorded⟩
    have hleaves := skuLeaves_settled hsettled
    have hcurrent : r.current = some candidate := by simp [current, hphase]
    show SkuBooks db w.grants (w.noted source (r.runId, candidate.productId))
    refine (h.books.leaves hleaves).recorded hrecorded ?_ matchDiscoverySkus_selected ?_
    · intro run hrun
      obtain ⟨run₀, hrun₀, hkept⟩ := hleaves.runs.of_get?' hrun
      rw [hkept.refinedCount, hkept.maxRefinedProducts]
      exact h.crew.room_of_current hr hcurrent hrun₀
    · intro key
      cases source with
      | live token => simp [RefineWorld.noted, Refiner.item, SkuSource.origin]
      | cached => simp [RefineWorld.noted, Refiner.item, SkuSource.origin, or_comm]
  | finished r db hr hclaim hphase hfinished =>
    refine ⟨h.books.leaves hfinished.leaves, h.crew.finished hr rfl rfl ?_ rfl hfinished⟩
    exact fun k claim hrow => ⟨hrow, h.crew.not_owner hr hclaim hphase hrow⟩
  | failed r fingerprint token db hr hclaim hfinished =>
    have hruns : (abandonClaim w.db fingerprint (some token)).runs = w.db.runs := rfl
    refine ⟨(h.books.leaves (skuLeaves_abandon w.db fingerprint (some token))).leaves
      hfinished.leaves, h.crew.finished hr hruns rfl ?_ rfl hfinished⟩
    exact fun k claim hrow => h.crew.not_owner_released hr hclaim hrow

theorem refined_of_reachableUnder
    (h : (refineSystem columns u).ReachableUnder (PricesSurvive columns) w) : Refined u w := by
  refine h.invariant ?_ fun _ _ _ hw hgood hstep => hw.step hgood hstep
  rintro _ rfl
  exact ⟨skuBooks_empty, crew_init⟩

/-! ## The accounts are exact -/

/-- What holds of the refinement runs in every state. -/
structure SkuAccounts (w : RefineWorld) : Prop where
  /-- No product has two items in a run, and none that is still to come has one. -/
  once : (∀ key, (w.db.items.select fun k _ => k = key).length ≤ 1) ∧
    ∀ i r, w.refiners i = some r → (r.shortlist.map Candidate.productId).Nodup ∧
      ∀ candidate ∈ r.shortlist, w.db.items.get? (r.runId, candidate.productId) = none
  refined : ∀ id run, w.db.runs.get? id = some run →
    run.refinedCount = (w.db.items.select fun key _ => key.1 = id).length ∧
      run.refinedCount ≤ run.maxRefinedProducts
  calls : ∀ id run, w.db.runs.get? id = some run →
    run.apiCallCount = skuGrantCount w.grants id ∧ run.apiCallCount ≤ run.maxSkuApiCalls
  snapshots : ∀ id run, w.db.runs.get? id = some run →
    run.snapshotCount = (w.db.snapshots.select fun key _ => key.1 = id).length
  /-- The snapshots are those of the SKUs matched on a page that was not cached. -/
  evidence : ∀ id productId skuId, (w.db.snapshots.get? (id, productId, skuId)).isSome ↔
    ∃ item, w.db.items.get? (id, productId) = some item ∧ item.state = .matched ∧
      item.selectedSkuId = some skuId ∧ (id, productId) ∉ w.fromCache
  origin : ∀ key item, w.db.items.get? key = some item →
    (item.origin = .cache ↔ key ∈ w.fromCache)
  returned : ∀ i r, w.refiners i = some r → r.phase = .returned →
    (∃ run, w.db.runs.get? r.runId = some run ∧ run.state ≠ .running) ∧
      ∀ fingerprint claim, w.db.claims.get? fingerprint = some claim →
        claim.ownerRunId ≠ r.runId

theorem Refined.skuAccounts (h : Refined u w) : SkuAccounts w where
  once := by
    refine ⟨fun key => length_select_key_le_one _ key, fun i r hr => ?_⟩
    obtain ⟨hnodup, hnone⟩ := h.crew.fresh i r hr
    have hsublist : (r.shortlist.map Candidate.productId).Sublist r.pending :=
      (List.sublist_append_right _ _).map _
    exact ⟨hnodup.sublist hsublist, fun candidate hmem =>
      hnone _ (hsublist.subset (List.mem_map_of_mem hmem))⟩
  refined := h.books.refined
  calls := h.books.calls
  snapshots := h.books.snapshots
  evidence := by
    intro id productId skuId
    rw [h.books.evidence]
    have hlive : ∀ item, w.db.items.get? (id, productId) = some item →
        (item.origin = .live ↔ (id, productId) ∉ w.fromCache) := by
      intro item hitem
      rw [← h.books.origin _ item hitem]
      cases item.origin <;> simp
    constructor
    · rintro ⟨item, hitem, hevidence⟩
      simp only [SkuItem.evidence, Prod.mk.injEq] at hevidence
      exact ⟨item, hitem, hevidence.2.1, hevidence.2.2, (hlive item hitem).1 hevidence.1⟩
    · rintro ⟨item, hitem, hstate, hsku, hnot⟩
      refine ⟨item, hitem, ?_⟩
      rw [SkuItem.evidence, (hlive item hitem).2 hnot, hstate, hsku]
  origin := h.books.origin
  returned := by
    intro i r hr hphase
    refine ⟨h.crew.returned i r hr hphase, fun fingerprint claim hrow => ?_⟩
    exact h.crew.not_owner hr (by simp [claimOf, hphase]) (by simp [hphase]) hrow

/-- In every run whose claims are answered with no price rounded to zero, the accounts of all
refinements are exact in every state. -/
theorem refinement_accountsExact
    (h : (refineSystem columns u).ReachableUnder (PricesSurvive columns) w) : SkuAccounts w :=
  (refined_of_reachableUnder h).skuAccounts

/-! ## A page seen live and then cached -/

/-- A profile that wants a black one. -/
def blackOnly : SkuRefinementProfile :=
  ⟨1, 1, [⟨["cor".toList], ["preto".toList]⟩], le_rfl, by decide⟩

/-- A refinement of one product. -/
def blackJob : SkuJob where
  sourceRunId := 1
  profileName := "small".toList
  profileFingerprint := List.replicate 64 'p'
  requirementsFingerprint := List.replicate 64 'r'
  minimumPriceDropPercent := 5
  refinement := blackOnly
  fingerprint := fun _ => List.replicate 64 'a'

/-- A page with one SKU, in another colour. -/
def bluePage (price : Decimal) : DiscoverySkuPage where
  productId := "7".toList
  skus := [⟨"7".toList, "1".toList, "BRL".toList, none, price, none,
    [⟨"Cor".toList, "Azul".toList⟩]⟩]

/-- One refinement sees the page live, and a second one is answered from the cache. -/
def refinedTwice (price : Decimal) : List RefineAction :=
  [.start 0 blackJob browsed.db 0, .proceed 0 1, .answer 0 (.page (bluePage price)), .proceed 0 2,
    .start 1 blackJob browsed.db 3, .proceed 1 4, .proceed 1 5, .proceed 1 6, .proceed 1 7]

/-- Where that leads if the price survives. -/
def refinedAtTen : RefineWorld :=
  (refineSystem NumericType.halfEven PyUnicode.ascii).endUnder (PricesSurvive NumericType.halfEven)
    noRefinements (refinedTwice 10)

theorem refinedAtTen_reachable :
    (refineSystem NumericType.halfEven PyUnicode.ascii).ReachableUnder
      (PricesSurvive NumericType.halfEven) refinedAtTen :=
  ⟨noRefinements, rfl, TransitionSystem.runUnder_endUnder (by decide +kernel)⟩

theorem refinement_accountsExact_refinedAtTen :
    refinedAtTen.fromCache = [(2, "7".toList)] ∧ SkuAccounts refinedAtTen :=
  ⟨by decide +kernel, refinement_accountsExact refinedAtTen_reachable⟩

/-- Where it leads at a price below half a cent. -/
def refinedBelowCent : RefineWorld :=
  (refineSystem NumericType.halfEven PyUnicode.ascii).endOf noRefinements (refinedTwice (4 / 1000))

theorem refinedBelowCent_reachable :
    (refineSystem NumericType.halfEven PyUnicode.ascii).Reachable refinedBelowCent :=
  ⟨noRefinements, rfl, TransitionSystem.run_endOf (by decide +kernel)⟩

/-- **The item of a cached page is called live**: its only price has come back as zero. -/
theorem refinement_accounts_belowCent :
    ¬ ∀ columns u w, (refineSystem columns u).Reachable w → SkuAccounts w := by
  intro h
  have hitem : (refinedBelowCent.db.items.get? (2, "7".toList)).map SkuItem.origin = some .live := by
    decide +kernel
  have hcached : (2, "7".toList) ∈ refinedBelowCent.fromCache := by decide +kernel
  obtain ⟨item, hget, horigin⟩ := Option.map_eq_some_iff.1 hitem
  have hcache := ((h _ _ _ refinedBelowCent_reachable).origin _ item hget).2 hcached
  rw [horigin] at hcache
  cases hcache

end Discovery
end PromoBot
