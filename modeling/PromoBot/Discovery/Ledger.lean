import PromoBot.Database.DiscoveryEffects
import PromoBot.Discovery.Scanner

/-!
# The claims on queries

`Ledger` is what ties the claims in the database to the claims ever granted: a row is a
grant, a grant that is neither given up nor expired is still a row, every row belongs to a
run that is running and has the lease of that run, and the call counter of a run is the
number of its grants.

There is one lemma here for each effect a transaction can have; `Claimable` is what the
scanners see to before they claim or finish: their run has no claim open.
-/

namespace PromoBot
namespace Discovery

open DiscoveryRepository SqlTable

def grantCount (grants : List Grant) (runId : Nat) : Nat :=
  grants.countP fun g => g.2.ownerRunId = runId

/-- **The claims in the database are those granted.** -/
structure Ledger (db : DiscoveryDb) (grants : List Grant) (closed : List Nat) (clock : Instant) :
    Prop where
  token_lt : ∀ g ∈ grants, g.2.leaseToken < db.nextToken
  closed_lt : ∀ token ∈ closed, token < db.nextToken
  distinct : ∀ g ∈ grants, ∀ g' ∈ grants, g.2.leaseToken = g'.2.leaseToken → g = g'
  known : ∀ g ∈ grants, ∃ run, db.runs.get? g.2.ownerRunId = some run
  granted : ∀ key claim, db.claims.get? key = some claim → (key, claim) ∈ grants
  kept : ∀ g ∈ grants, g.2.leaseToken ∉ closed → clock < g.2.leaseUntil →
    db.claims.get? g.1 = some g.2
  leased : ∀ key claim, db.claims.get? key = some claim →
    ∃ run, db.runs.get? claim.ownerRunId = some run ∧ run.state = .running ∧
      run.leaseUntil = some claim.leaseUntil
  budget : ∀ id run, db.runs.get? id = some run →
    run.apiCallCount = grantCount grants id ∧ run.apiCallCount ≤ run.maxApiCalls

/-- The run has no claim open. -/
def Claimable (db : DiscoveryDb) (runId : Nat) : Prop :=
  ∀ key claim, db.claims.get? key = some claim → claim.ownerRunId ≠ runId

variable {columns : NumericType} {db db' : DiscoveryDb} {grants : List Grant} {closed : List Nat}
  {clock : Instant}

theorem ledger_empty (clock : Instant) : Ledger noDiscoveries.db [] [] clock where
  token_lt := by simp
  closed_lt := by simp
  distinct := by simp
  known := by simp
  granted := fun key claim h => absurd h (by simp [noDiscoveries])
  kept := by simp
  leased := fun key claim h => absurd h (by simp [noDiscoveries])
  budget := fun id run h => absurd h (by simp [noDiscoveries])

theorem Ledger.later (h : Ledger db grants closed clock) {clock' : Instant}
    (hle : clock ≤ clock') : Ledger db grants closed clock' where
  token_lt := h.token_lt
  closed_lt := h.closed_lt
  distinct := h.distinct
  known := h.known
  granted := h.granted
  kept := fun g hg hopen hlt => h.kept g hg hopen (lt_of_le_of_lt hle hlt)
  leased := h.leased
  budget := h.budget

/-- A transaction that leaves the claims alone, and of the runs all that decides on
them. -/
theorem Ledger.of_sameLease (h : Ledger db grants closed clock)
    (hruns : RowsRel (fun _ => SameLease) db.runs db'.runs) (hclaims : db'.claims = db.claims)
    (htoken : db'.nextToken = db.nextToken) : Ledger db' grants closed clock where
  token_lt := by
    rw [htoken]
    exact h.token_lt
  closed_lt := by
    rw [htoken]
    exact h.closed_lt
  distinct := h.distinct
  known := by
    intro g hg
    obtain ⟨run, hrun⟩ := h.known g hg
    obtain ⟨run', hrun', -⟩ := hruns.of_get? hrun
    exact ⟨run', hrun'⟩
  granted := by
    rw [hclaims]
    exact h.granted
  kept := by
    rw [hclaims]
    exact h.kept
  leased := by
    intro key claim hclaim
    rw [hclaims] at hclaim
    obtain ⟨run, hrun, hstate, hlease⟩ := h.leased key claim hclaim
    obtain ⟨run', hrun', hsame⟩ := hruns.of_get? hrun
    exact ⟨run', hrun', hsame.state.trans hstate, hsame.leaseUntil.trans hlease⟩
  budget := by
    intro id run' hrun'
    obtain ⟨run, hrun, hsame⟩ := hruns.of_get?' hrun'
    obtain ⟨hcount, hle⟩ := h.budget id run hrun
    rw [hsame.apiCallCount, hsame.maxApiCalls]
    exact ⟨hcount, hle⟩

/-! ## A new run -/

theorem get?_createRun (db : DiscoveryDb) (q : NewRun) (id : Nat) :
    (createRun db q).1.runs.get? id =
      if id = (createRun db q).2 then some (q.row db.nextToken) else db.runs.get? id :=
  get?_put _ _ _ _

theorem get?_createRun_snd (db : DiscoveryDb) (q : NewRun) :
    db.runs.get? (createRun db q).2 = none := get?_freshId _

theorem ne_createRun_snd {q : NewRun} {id : Nat} {run : DiscoveryRun}
    (h : db.runs.get? id = some run) : id ≠ (createRun db q).2 := by
  rintro rfl
  rw [get?_createRun_snd] at h
  cases h

theorem Ledger.createRun (h : Ledger db grants closed clock) (q : NewRun) :
    Ledger (createRun db q).1 grants closed clock where
  token_lt := fun g hg => Nat.lt_succ_of_lt (h.token_lt g hg)
  closed_lt := fun token ht => Nat.lt_succ_of_lt (h.closed_lt token ht)
  distinct := h.distinct
  known := by
    intro g hg
    obtain ⟨run, hrun⟩ := h.known g hg
    refine ⟨run, ?_⟩
    rw [get?_createRun, if_neg (ne_createRun_snd hrun)]
    exact hrun
  granted := h.granted
  kept := h.kept
  leased := by
    intro key claim hclaim
    obtain ⟨run, hrun, hrest⟩ := h.leased key claim hclaim
    refine ⟨run, ?_, hrest⟩
    rw [get?_createRun, if_neg (ne_createRun_snd hrun)]
    exact hrun
  budget := by
    intro id run hrun
    rw [get?_createRun] at hrun
    split at hrun
    · next hid =>
      obtain rfl := Option.some.inj hrun
      have hnone : grantCount grants id = 0 := by
        rw [grantCount, List.countP_eq_zero]
        intro g hg howner
        obtain ⟨run, hrun⟩ := h.known g hg
        rw [of_decide_eq_true howner] at hrun
        exact ne_createRun_snd hrun hid
      exact ⟨hnone.symm, Nat.zero_le _⟩
    · exact h.budget id run hrun

/-! ## Renewal and sweep -/

/-- A sweep takes away the run of no claim that is left. -/
theorem not_lapsed_of_claim (h : Ledger db grants closed clock) {key : QueryKey}
    {claim : DiscoveryClaim} (hclaim : db.claims.get? key = some claim) {now : Instant}
    (hlive : now < claim.leaseUntil) {run : DiscoveryRun}
    (hrun : db.runs.get? claim.ownerRunId = some run) (active : Nat) :
    ¬ Lapsed db now active claim.ownerRunId run := by
  obtain ⟨run', hrun', -, hlease⟩ := h.leased key claim hclaim
  obtain rfl := Option.some.inj (hrun.symm.trans hrun')
  rintro ⟨-, -, hlapsed | ⟨⟨key', claim'⟩, hexpired, howner⟩⟩
  · rw [hlease, atMost_some] at hlapsed
    exact absurd hlive (not_lt.2 hlapsed)
  · -- Claims of one run have one lease.
    obtain ⟨hclaim', hle⟩ := mem_select.1 hexpired
    obtain ⟨run', hrun', -, hlease'⟩ := h.leased key' claim' hclaim'
    rw [show claim'.ownerRunId = claim.ownerRunId from howner] at hrun'
    obtain rfl := Option.some.inj (hrun.symm.trans hrun')
    rw [hlease, Option.some.injEq] at hlease'
    rw [← hlease'] at hle
    exact absurd hlive (not_lt.2 hle)

theorem Ledger.renewed (h : Ledger db grants closed clock) {q : ClaimRequest}
    (hrenewed : Renewed db q db') (hclaimable : Claimable db q.runId) :
    Ledger db' grants closed (max clock q.now) where
  token_lt := by
    rw [hrenewed.nextToken]
    exact h.token_lt
  closed_lt := by
    rw [hrenewed.nextToken]
    exact h.closed_lt
  distinct := h.distinct
  known := by
    intro g hg
    obtain ⟨run, hrun⟩ := h.known g hg
    obtain ⟨run', hrun', -⟩ := hrenewed.sameCounters.of_get? hrun
    exact ⟨run', hrun'⟩
  granted := by
    intro key claim hclaim
    rw [hrenewed.claims, get?_deleteWhere, Option.filter_eq_some_iff] at hclaim
    exact h.granted key claim hclaim.1
  kept := by
    intro g hg hopen hlt
    have hrow := h.kept g hg hopen (lt_of_le_of_lt (le_max_left _ _) hlt)
    rw [hrenewed.claims, get?_deleteWhere, hrow]
    simpa using lt_of_le_of_lt (le_max_right clock q.now) hlt
  leased := by
    intro key claim hclaim
    rw [hrenewed.claims, get?_deleteWhere, Option.filter_eq_some_iff] at hclaim
    obtain ⟨hclaim, hlive⟩ := hclaim
    have hlt : q.now < claim.leaseUntil := by simpa using hlive
    obtain ⟨run, hrun, hstate, hlease⟩ := h.leased key claim hclaim
    refine ⟨run, ?_, hstate, hlease⟩
    rw [hrenewed.other _ (hclaimable key claim hclaim), hrun, Option.map_some,
      if_neg (not_lapsed_of_claim h hclaim hlt hrun q.runId)]
  budget := by
    intro id run' hrun'
    obtain ⟨run, hrun, hsame, hmax⟩ := hrenewed.sameCounters.of_get?' hrun'
    rw [hsame.apiCallCount, hmax]
    exact h.budget id run hrun

/-! ## A call is granted -/

theorem Ledger.called (h : Ledger db grants closed clock) {q : ClaimRequest}
    (hcalled : Called db q db')
    (hlease : ∀ run, db.runs.get? q.runId = some run → run.leaseUntil = some q.leaseUntil) :
    Ledger db' ((q.key, ⟨q.runId, q.queryOrdinal, q.pageNo, db.nextToken, q.now, q.leaseUntil⟩) ::
      grants) closed clock := by
  obtain ⟨run₀, hrun₀, hstate₀, hlt₀, hrun₀'⟩ := hcalled.run
  have hold : ∀ id run, db.runs.get? id = some run → ∃ run', db'.runs.get? id = some run' ∧
      run'.state = run.state ∧ run'.leaseUntil = run.leaseUntil := by
    intro id run hrun
    by_cases hid : id = q.runId
    · subst hid
      obtain rfl := Option.some.inj (hrun₀.symm.trans hrun)
      exact ⟨_, hrun₀', rfl, rfl⟩
    · exact ⟨run, (hcalled.other id hid).trans hrun, rfl, rfl⟩
  constructor
  · intro g hg
    rw [hcalled.nextToken]
    rcases List.mem_cons.1 hg with rfl | hg
    · exact Nat.lt_succ_self _
    · exact Nat.lt_succ_of_lt (h.token_lt g hg)
  · intro token ht
    rw [hcalled.nextToken]
    exact Nat.lt_succ_of_lt (h.closed_lt token ht)
  · intro g hg g' hg' htoken
    rcases List.mem_cons.1 hg with rfl | hg <;> rcases List.mem_cons.1 hg' with rfl | hg'
    · rfl
    · exact absurd htoken.symm (h.token_lt g' hg').ne
    · exact absurd htoken (h.token_lt g hg).ne
    · exact h.distinct g hg g' hg' htoken
  · intro g hg
    rcases List.mem_cons.1 hg with rfl | hg
    · exact ⟨_, hrun₀'⟩
    · obtain ⟨run, hrun⟩ := h.known g hg
      obtain ⟨run', hrun', -⟩ := hold _ run hrun
      exact ⟨run', hrun'⟩
  · intro key claim hclaim
    rw [hcalled.claims, get?_put] at hclaim
    split at hclaim
    · next hkey =>
      obtain rfl := Option.some.inj hclaim
      rw [hkey]
      exact List.mem_cons_self
    · exact List.mem_cons_of_mem _ (h.granted key claim hclaim)
  · intro g hg hopen hlt
    rcases List.mem_cons.1 hg with rfl | hg
    · rw [hcalled.claims]
      exact get?_put_self ..
    · have hrow := h.kept g hg hopen hlt
      have hne : g.1 ≠ q.key := by
        rintro hkey
        rw [hkey, hcalled.free] at hrow
        cases hrow
      rw [hcalled.claims, get?_put_ne _ _ hne]
      exact hrow
  · intro key claim hclaim
    rw [hcalled.claims, get?_put] at hclaim
    split at hclaim
    · obtain rfl := Option.some.inj hclaim
      exact ⟨_, hrun₀', hstate₀, hlease run₀ hrun₀⟩
    · obtain ⟨run, hrun, hstate, hlease⟩ := h.leased key claim hclaim
      obtain ⟨run', hrun', hstate', hlease'⟩ := hold _ run hrun
      exact ⟨run', hrun', hstate'.trans hstate, hlease'.trans hlease⟩
  · intro id run hrun
    by_cases hid : id = q.runId
    · subst hid
      obtain rfl := Option.some.inj (hrun₀'.symm.trans hrun)
      obtain ⟨hcount, -⟩ := h.budget _ run₀ hrun₀
      constructor
      · simp [grantCount, hcount]
      · exact hlt₀
    · rw [hcalled.other id hid] at hrun
      obtain ⟨hcount, hle⟩ := h.budget id run hrun
      refine ⟨?_, hle⟩
      rw [hcount, grantCount, grantCount, List.countP_cons_of_neg]
      simpa using Ne.symm hid

/-! ## A claim is given up -/

variable (db') in
theorem Ledger.released (h : Ledger db grants closed clock) (key : QueryKey) {token : Nat}
    (hlt : token < db.nextToken)
    (hclaims : db'.claims = releaseClaim db.claims key token)
    (hruns : RowsRel (fun _ => SameLease) db.runs db'.runs)
    (htoken : db'.nextToken = db.nextToken) : Ledger db' grants (token :: closed) clock := by
  have hsub : ∀ k claim, db'.claims.get? k = some claim → db.claims.get? k = some claim := by
    intro k claim hclaim
    rw [hclaims, get?_releaseClaim, Option.filter_eq_some_iff] at hclaim
    exact hclaim.1
  constructor
  · rw [htoken]
    exact h.token_lt
  · intro t ht
    rw [htoken]
    rcases List.mem_cons.1 ht with rfl | ht
    · exact hlt
    · exact h.closed_lt t ht
  · exact h.distinct
  · intro g hg
    obtain ⟨run, hrun⟩ := h.known g hg
    obtain ⟨run', hrun', -⟩ := hruns.of_get? hrun
    exact ⟨run', hrun'⟩
  · exact fun k claim hclaim => h.granted k claim (hsub k claim hclaim)
  · intro g hg hopen hlive
    rw [List.mem_cons, not_or] at hopen
    rw [hclaims, get?_releaseClaim, h.kept g hg hopen.2 hlive]
    simp [hopen.1]
  · intro k claim hclaim
    obtain ⟨run, hrun, hstate, hlease⟩ := h.leased k claim (hsub k claim hclaim)
    obtain ⟨run', hrun', hsame⟩ := hruns.of_get? hrun
    exact ⟨run', hrun', hsame.state.trans hstate, hsame.leaseUntil.trans hlease⟩
  · intro id run' hrun'
    obtain ⟨run, hrun, hsame⟩ := hruns.of_get?' hrun'
    rw [hsame.apiCallCount, hsame.maxApiCalls]
    exact h.budget id run hrun

/-! ## A run is finished -/

theorem Ledger.finishRun (h : Ledger db grants closed clock) {runId : Nat}
    {state : DiscoveryRunState} {now : Instant} {stopReason : String} {errorCode : Option String}
    (hfinish : finishRun db runId state now stopReason errorCode = .ok db')
    (hclaimable : Claimable db runId) : Ledger db' grants closed clock := by
  obtain ⟨-, runs, hruns, rfl⟩ := finishRun_eq_ok hfinish
  have hrel : RowsRel (fun id run run' => SameCounters run run' ∧
      run'.maxApiCalls = run.maxApiCalls ∧ (id ≠ runId → run' = run)) db.runs runs := by
    obtain ⟨run, hrun, -, rfl⟩ := updateOne_eq_some.1 hruns
    refine rowsRel_updateWhere _ _ _ (fun _ run => ⟨.refl run, rfl, fun _ => rfl⟩) ?_
    exact fun id run _ hid => ⟨sameCounters_finished .., rfl, fun hne => absurd hid hne⟩
  constructor
  · exact h.token_lt
  · exact h.closed_lt
  · exact h.distinct
  · intro g hg
    obtain ⟨run, hrun⟩ := h.known g hg
    obtain ⟨run', hrun', -⟩ := hrel.of_get? hrun
    exact ⟨run', hrun'⟩
  · exact h.granted
  · exact h.kept
  · intro key claim hclaim
    obtain ⟨run, hrun, hrest⟩ := h.leased key claim hclaim
    obtain ⟨run', hrun', -, -, hsame⟩ := hrel.of_get? hrun
    obtain rfl := hsame (hclaimable key claim hclaim)
    exact ⟨_, hrun', hrest⟩
  · intro id run' hrun'
    obtain ⟨run, hrun, hsame, hmax, -⟩ := hrel.of_get?' hrun'
    rw [hsame.apiCallCount, hmax]
    exact h.budget id run hrun

end Discovery
end PromoBot
