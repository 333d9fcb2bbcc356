import PromoBot.Discovery.Ledger
import PromoBot.Discovery.Steps

/-!
# Queries are made one at a time, and within the budget

Over every run of any number of scanners: `Ledger` ties the claims to the grants, and `Fleet`
ties them to the scanners.  A scanner answers for a claim exactly while it is in the call or is
about to give the claim up, so that its run has no claim open when it claims the next page or
finishes; this is what keeps the lease of a claim equal to that of its run, and with it the
sweep from ending a run whose claim it leaves.

## What a claim is worth

A claim is a row with a lease and a token.  Three things are built on it: nobody else calls for
the same page while it lasts, no run calls more often than its budget says, and what is cached
is cached by whoever holds it.  The first two are decided where the claim is granted.
`claim_query` begins by writing, so it holds the lock when it looks for a claim in its way, for
a page in the cache and for a call that is left, and nothing can change before it has inserted
its own (`StepWithinBudget`, `WithinBudget`).

The third is decided when the answer has come, and there the order of the statements is another
one.  `finish_query_success` reads the claim and the run first and begins to write afterwards.
In between, the lease may run out and another scanner may sweep the claim and be granted the
page.  The first one then caches what it has: `page_cached_late`.  `StoresHeld` is the
condition that the claim which was read is still in the table when the page is stored, and it
is exact, for every step in every reachable state.

## The proof

The invariant is in two parts, because the tables alone do not say who is at work.  `Ledger` is
about rows: an unexpired grant that was not given up is in the table, a run has been granted as
many calls as it counts, its lease is that of its claim.  `Fleet` is about scanners: each has a
run of its own, and answers for a claim that was granted to it and not given up.  A step is of
one scanner, and what it may do to the claims of others is nothing (`Yields`); so a step lemma
has to look at the scanner that moves, and at no other.  Tokens are drawn in order, which is
why a claim in the table under the token a scanner holds is the claim it was granted, and not
another one of the same key.
-/

namespace PromoBot
namespace Discovery

open DiscoveryRepository Scanner SqlTable

/-- The claims are those the scanners answer for. -/
structure Fleet (w : DiscoveryWorld) : Prop where
  run : ∀ i s, w.scanners i = some s → ∃ run, w.db.runs.get? s.runId = some run
  distinct : ∀ i j s s', w.scanners i = some s → w.scanners j = some s' → s.runId = s'.runId →
    i = j
  holds : ∀ i s key token, w.scanners i = some s → s.Holds key token → token ∉ w.closed ∧
    ∃ claim, (key, claim) ∈ w.grants ∧ claim.ownerRunId = s.runId ∧ claim.leaseToken = token ∧
      ∀ now ∈ s.readAt, now < claim.leaseUntil
  rows : ∀ key claim, w.db.claims.get? key = some claim → ∀ i s, w.scanners i = some s →
    s.runId = claim.ownerRunId → s.phase = .done ∨ s.Holds key claim.leaseToken

/-- The invariant of a run. -/
structure Orderly (w : DiscoveryWorld) : Prop where
  ledger : Ledger w.db w.grants w.closed w.clock
  fleet : Fleet w

variable {columns : NumericType} {w w' : DiscoveryWorld} {i : Nat} {s : Scanner}

/-! ## The fleet after a step -/

theorem Fleet.claimable (h : Fleet w) (hs : w.scanners i = some s)
    (hholds : ∀ key token, ¬ s.Holds key token) (hdone : s.phase ≠ .done) :
    Claimable w.db s.runId := by
  intro key claim hclaim howner
  rcases h.rows key claim hclaim i s hs howner.symm with hphase | hphase
  · exact hdone hphase
  · exact hholds key _ hphase

/-- What a step of the scanner `s`, which becomes `s'`, may do to the claims of others:
nothing. -/
structure Yields (w w' : DiscoveryWorld) (i : Nat) (s s' : Scanner) : Prop where
  scanners : w'.scanners = Function.update w.scanners i (some s')
  runId : s'.runId = s.runId
  runs : ∀ id run, w.db.runs.get? id = some run → ∃ run', w'.db.runs.get? id = some run'
  grants : ∀ g ∈ w.grants, g ∈ w'.grants
  closed : ∀ token ∈ w'.closed, token ∈ w.closed ∨ ∃ key, s.Holds key token
  claims : ∀ key claim, w'.db.claims.get? key = some claim →
    w.db.claims.get? key = some claim ∨ claim.ownerRunId = s.runId
  /-- What the scanner itself answers for. -/
  holds : ∀ key token, s'.Holds key token → token ∉ w'.closed ∧
    ∃ claim, (key, claim) ∈ w'.grants ∧ claim.ownerRunId = s.runId ∧ claim.leaseToken = token ∧
      ∀ now ∈ s'.readAt, now < claim.leaseUntil
  own : ∀ key claim, w'.db.claims.get? key = some claim → claim.ownerRunId = s.runId →
    s'.phase = .done ∨ s'.Holds key claim.leaseToken

theorem Fleet.step (h : Orderly w) (hs : w.scanners i = some s) {s' : Scanner}
    (hyields : Yields w w' i s s') : Fleet w' := by
  -- A scanner after the step is the one that acted, or is as it was.
  have hcases : ∀ j t, w'.scanners j = some t →
      (j = i ∧ t = s') ∨ (j ≠ i ∧ w.scanners j = some t) := by
    intro j t ht
    rw [hyields.scanners] at ht
    exact scanners_update ht
  have hold : ∀ j t, w'.scanners j = some t → ∃ t₀, w.scanners j = some t₀ ∧ t₀.runId = t.runId := by
    intro j t ht
    rcases hcases j t ht with ⟨rfl, rfl⟩ | ⟨-, ht⟩
    · exact ⟨s, hs, hyields.runId.symm⟩
    · exact ⟨t, ht, rfl⟩
  constructor
  · intro j t ht
    obtain ⟨t₀, ht₀, hid⟩ := hold j t ht
    obtain ⟨run, hrun⟩ := h.fleet.run j t₀ ht₀
    exact hyields.runs _ run (hid ▸ hrun)
  · intro j k t u ht hu hid
    obtain ⟨t₀, ht₀, hidt⟩ := hold j t ht
    obtain ⟨u₀, hu₀, hidu⟩ := hold k u hu
    exact h.fleet.distinct j k t₀ u₀ ht₀ hu₀ (hidt.trans (hid.trans hidu.symm))
  · intro j t key token ht hholds
    rcases hcases j t ht with ⟨rfl, rfl⟩ | ⟨hj, ht⟩
    · rw [hyields.runId]
      exact hyields.holds key token hholds
    · obtain ⟨hopen, claim, hgrant, howner, hrest⟩ := h.fleet.holds j t key token ht hholds
      have htoken := hrest.1
      refine ⟨?_, claim, hyields.grants _ hgrant, howner, hrest⟩
      intro hclosed
      rcases hyields.closed token hclosed with hclosed | ⟨key', hholds'⟩
      · exact hopen hclosed
      · -- Two scanners do not answer for one token.
        obtain ⟨-, claim', hgrant', howner', htoken', -⟩ := h.fleet.holds i s key' token hs hholds'
        have heq := h.ledger.distinct _ hgrant _ hgrant' (htoken.trans htoken'.symm)
        obtain ⟨-, rfl⟩ := Prod.mk.inj heq
        exact hj (h.fleet.distinct j i t s ht hs (howner.symm.trans howner'))
  · intro key claim hclaim j t ht hid
    rcases hcases j t ht with ⟨rfl, rfl⟩ | ⟨hj, ht⟩
    · exact hyields.own key claim hclaim (hid.symm.trans hyields.runId)
    · rcases hyields.claims key claim hclaim with hclaim | howner
      · exact h.fleet.rows key claim hclaim j t ht hid
      · exact absurd (h.fleet.distinct j i t s ht hs (hid.trans howner)) hj

/-! ## The invariant -/

theorem orderly_init {clock : Instant} : Orderly { noDiscoveries with clock := clock } where
  ledger := ledger_empty clock
  fleet := by
    constructor
    · exact fun i s hs => absurd hs (by simp [noDiscoveries])
    · exact fun i j s s' hs => absurd hs (by simp [noDiscoveries])
    · exact fun i s key token hs => absurd hs (by simp [noDiscoveries])
    · exact fun key claim hclaim => absurd hclaim (by simp [noDiscoveries])

theorem Orderly.start (h : Orderly w) (job : ScanJob) (now : Instant)
    (hnone : w.scanners i = none) : Orderly (w.start i job now) := by
  refine ⟨(h.ledger.later (le_max_left _ now)).createRun _, ?_⟩
  have hcases : ∀ j t, (w.start i job now).scanners j = some t →
      (j = i ∧ t = started job (createRun w.db (newRun job now)).2) ∨
        (j ≠ i ∧ w.scanners j = some t) :=
    fun j t ht => scanners_update ht
  have hfresh : ∀ j t, w.scanners j = some t →
      t.runId ≠ (createRun w.db (newRun job now)).2 := by
    intro j t ht
    obtain ⟨run, hrun⟩ := h.fleet.run j t ht
    exact ne_createRun_snd hrun
  constructor
  · intro j t ht
    show ∃ run, (createRun w.db (newRun job now)).1.runs.get? t.runId = some run
    rw [get?_createRun]
    rcases hcases j t ht with ⟨rfl, rfl⟩ | ⟨-, ht⟩
    · exact ⟨_, if_pos rfl⟩
    · rw [if_neg (hfresh j t ht)]
      exact h.fleet.run j t ht
  · intro j k t u ht hu hid
    rcases hcases j t ht with ⟨hj, rfl⟩ | ⟨-, ht'⟩ <;>
      rcases hcases k u hu with ⟨hk, rfl⟩ | ⟨-, hu'⟩
    · exact hj.trans hk.symm
    · exact absurd hid.symm (hfresh k u hu')
    · exact absurd hid (hfresh j t ht')
    · exact h.fleet.distinct j k t u ht' hu' hid
  · intro j t key token ht hholds
    rcases hcases j t ht with ⟨rfl, rfl⟩ | ⟨-, ht⟩
    · exact absurd hholds (not_holds_atQuery _)
    · exact h.fleet.holds j t key token ht hholds
  · intro key claim hclaim j t ht hid
    rcases hcases j t ht with ⟨rfl, rfl⟩ | ⟨-, ht⟩
    · obtain ⟨run, hrun, -⟩ := h.ledger.leased key claim hclaim
      exact absurd hid.symm (ne_createRun_snd (q := newRun job now) hrun)
    · exact h.fleet.rows key claim hclaim j t ht hid

theorem Orderly.eq_grant (h : Orderly w) {key : QueryKey} {claim granted : DiscoveryClaim}
    (hclaim : w.db.claims.get? key = some claim) (hgrant : (key, granted) ∈ w.grants)
    (htoken : claim.leaseToken = granted.leaseToken) : claim = granted := by
  have heq := h.ledger.distinct _ (h.ledger.granted key claim hclaim) _ hgrant htoken
  exact (Prod.mk.inj heq).2

theorem Orderly.moved (h : Orderly w) {s' : Scanner} {clock : Instant}
    (hs : w.scanners i = some s) (hmoves : Moves s s')
    (hread : ∀ now ∈ s'.readAt, ∃ key token claim, s.Holds key token ∧
      w.db.claims.get? key = some claim ∧ HeldBy s.runId token now claim)
    (hle : w.clock ≤ clock) :
    Orderly ({ w with clock := clock }.setScanner i s') := by
  refine ⟨h.ledger.later hle, Fleet.step h hs ⟨rfl, hmoves.same.runId,
    fun _ run hrun => ⟨run, hrun⟩, fun _ hg => hg, fun _ ht => .inl ht, fun _ _ hc => .inl hc,
    ?_, ?_⟩⟩
  · intro key token hholds
    rcases hmoves.holds with hdone | ⟨-, hiff⟩
    · exact absurd hholds (by simp [Holds, answersFor, hdone])
    · have hholds := (hiff key token).1 hholds
      obtain ⟨hopen, claim, hgrant, howner, htoken, -⟩ := h.fleet.holds i s key token hs hholds
      refine ⟨hopen, claim, hgrant, howner, htoken, fun now hnow => ?_⟩
      -- What was read is the claim that was granted.
      obtain ⟨key', token', row, hholds', hrow, -, htoken', hlive⟩ := hread now hnow
      obtain ⟨rfl, rfl⟩ := Prod.mk.inj (Option.some.inj (hholds.symm.trans hholds'))
      obtain rfl := h.eq_grant hrow hgrant (htoken'.trans htoken.symm)
      exact hlive
  · intro key claim hclaim howner
    rcases hmoves.holds with hdone | ⟨hwork, hiff⟩
    · exact .inl hdone
    · rcases h.fleet.rows key claim hclaim i s hs howner.symm with hdone | hholds
      · exact absurd hdone hwork
      · exact .inr ((hiff key _).2 hholds)

/-! ### Transactions -/

/-- What a scanner is granted with a token. -/
def Scanner.grant (s : Scanner) (now : Instant) (token : Nat) : Grant :=
  (s.key, ⟨s.runId, s.queryOrdinal, s.pageNo, token, now, now + leaseDuration⟩)

theorem granted_call (w : DiscoveryWorld) {db₁ db₂ : DiscoveryDb} {now : Instant} (token : Nat)
    (h : Called db₁ (s.claimRequest now) db₂) :
    w.granted db₂ s.key (.call token) = s.grant now db₁.nextToken :: w.grants := by
  have hrow : db₂.claims.get? s.key = some (s.grant now db₁.nextToken).2 := by
    rw [h.claims]
    exact get?_put_self ..
  unfold DiscoveryWorld.granted
  rw [hrow]
  rfl

theorem Orderly.queried (h : Orderly w) {now : Instant} {db : DiscoveryDb}
    {claim : DiscoveryQueryClaim} (hs : w.scanners i = some s)
    (hholds : ∀ key token, ¬ s.Holds key token) (hdone : s.phase ≠ .done)
    (heffect : ClaimEffect columns w.db (s.claimRequest now) db claim) :
    Orderly ({ w.actedAt now with db := db, grants := w.granted db s.key claim }.setScanner i
      (s.claimed s.key claim)) := by
  have hclaimable := h.fleet.claimable hs hholds hdone
  have hrunId := (sameScan_claimed s s.key claim).runId
  cases heffect with
  | cache db₁ cached hrenewed hcached =>
    have hledger := h.ledger.renewed hrenewed hclaimable
    have hrel : RowsRel (fun _ => SameLease) db₁.runs
        (db₁.runs.updateWhere (fun id _ => id = s.runId) (cacheHit cached.itemCount)) :=
      rowsRel_updateWhere _ _ _ (fun _ run => .refl run) fun _ _ _ _ => ⟨rfl, rfl, rfl, rfl⟩
    refine ⟨hledger.of_sameLease hrel rfl rfl, Fleet.step h hs ⟨rfl, hrunId, ?_, fun _ hg => hg,
      fun _ ht => .inl ht, ?_, fun _ _ h => absurd h (not_holds_of_answersFor rfl), ?_⟩⟩
    · intro id run hrun
      obtain ⟨run₁, hrun₁, -⟩ := hrenewed.sameCounters.of_get? hrun
      obtain ⟨run₂, hrun₂, -⟩ := hrel.of_get? hrun₁
      exact ⟨run₂, hrun₂⟩
    · intro key claim hclaim
      exact .inl (hrenewed.of_claims hclaim)
    · intro key claim hclaim howner
      exact absurd howner (hclaimable key claim (hrenewed.of_claims hclaim))
  | inProgress db₁ hrenewed =>
    refine ⟨h.ledger.renewed hrenewed hclaimable, Fleet.step h hs ⟨rfl, hrunId, ?_,
      fun _ hg => hg, fun _ ht => .inl ht, ?_, fun _ _ h => absurd h (not_holds_of_answersFor rfl), ?_⟩⟩
    · intro id run hrun
      obtain ⟨run₁, hrun₁, -⟩ := hrenewed.sameCounters.of_get? hrun
      exact ⟨run₁, hrun₁⟩
    · intro key claim hclaim
      exact .inl (hrenewed.of_claims hclaim)
    · intro key claim hclaim howner
      exact absurd howner (hclaimable key claim (hrenewed.of_claims hclaim))
  | call db₁ db₂ hrenewed hcache hcalled =>
    obtain ⟨run, hrun, -, hrun₁⟩ := hrenewed.active
    have hledger := (h.ledger.renewed hrenewed hclaimable).called hcalled (by
      intro run' hrun'
      obtain rfl := Option.some.inj (hrun₁.symm.trans hrun')
      rfl)
    have hgranted := granted_call w db₁.nextToken hcalled
    refine ⟨?_, Fleet.step h hs ⟨rfl, hrunId, ?_, ?_, fun _ ht => .inl ht, ?_, ?_, ?_⟩⟩
    · show Ledger db (w.granted db s.key (.call db₁.nextToken)) w.closed (max w.clock now)
      rw [hgranted]
      exact hledger
    · intro id run hrun
      obtain ⟨run₁, hrun₁, -⟩ := hrenewed.sameCounters.of_get? hrun
      exact hcalled.exists_run hrun₁
    · intro g hg
      show g ∈ w.granted db s.key (.call db₁.nextToken)
      rw [hgranted]
      exact List.mem_cons_of_mem _ hg
    · intro key claim hclaim
      rcases hcalled.of_claims hclaim with ⟨rfl, rfl⟩ | hclaim
      · exact .inr rfl
      · exact .inl (hrenewed.of_claims hclaim)
    · rintro key token hholds
      obtain ⟨rfl, rfl⟩ := Prod.mk.inj (Option.some.inj hholds)
      refine ⟨?_, ?_⟩
      · intro hclosed
        have hlt := h.ledger.closed_lt _ hclosed
        rw [← hrenewed.nextToken] at hlt
        exact absurd hlt (lt_irrefl _)
      · show ∃ claim, (s.key, claim) ∈ w.granted db s.key (.call db₁.nextToken) ∧ _
        rw [hgranted]
        refine ⟨_, List.mem_cons_self, rfl, rfl, fun now hnow => ?_⟩
        cases hnow
    · intro key claim hclaim howner
      rcases hcalled.of_claims hclaim with ⟨rfl, rfl⟩ | hclaim
      · exact .inr rfl
      · exact absurd howner (hclaimable key claim (hrenewed.of_claims hclaim))

/-- Recording products changes nothing that decides on claims. -/
structure LeavesClaims (db db' : DiscoveryDb) : Prop where
  runs : RowsRel (fun _ => SameLease) db.runs db'.runs
  claims : db'.claims = db.claims
  cache : db'.cache = db.cache
  nextToken : db'.nextToken = db.nextToken

theorem LeavesClaims.refl (db : DiscoveryDb) : LeavesClaims db db :=
  ⟨.refl (fun _ run => .refl run) db.runs, rfl, rfl, rfl⟩

theorem LeavesClaims.trans {db db' db'' : DiscoveryDb} (h : LeavesClaims db db')
    (h' : LeavesClaims db' db'') : LeavesClaims db db'' where
  runs := h.runs.trans h'.runs fun _ _ _ _ hab hbc =>
    ⟨hbc.state.trans hab.state, hbc.leaseUntil.trans hab.leaseUntil,
      hbc.apiCallCount.trans hab.apiCallCount, hbc.maxApiCalls.trans hab.maxApiCalls⟩
  claims := h'.claims.trans h.claims
  cache := h'.cache.trans h.cache
  nextToken := h'.nextToken.trans h.nextToken

theorem leavesClaims_of_recordEffect {db db' : DiscoveryDb} {q : Recording}
    {answer : RecordedProduct} (h : RecordEffect db q db' answer) : LeavesClaims db db' where
  runs := h.runs.mono fun id run run' hrun => by
    rw [hrun]
    split <;> exact ⟨rfl, rfl, rfl, rfl⟩
  claims := h.claims
  cache := h.cache
  nextToken := h.nextToken

theorem leavesClaims_of_recordAll {db : DiscoveryDb} {key : QueryKey} {observedAt : Nat → Instant}
    {unique : Nat} {recorded : List ResultKey} {items : List DiscoveryProduct}
    {record : PageRecord}
    (h : recordAll columns s key observedAt db unique recorded items = .ok record) :
    LeavesClaims db record.db :=
  recordAll_invariant (P := fun db' _ _ => LeavesClaims db db')
    (fun _ _ _ _ _ _ _ hleaves _ heffect => hleaves.trans (leavesClaims_of_recordEffect heffect))
    h (.refl db)

theorem Orderly.token_lt (h : Orderly w) {key : QueryKey} {token : Nat}
    (hs : w.scanners i = some s) (hholds : s.Holds key token) : token < w.db.nextToken := by
  obtain ⟨-, claim, hgrant, -, rfl, -⟩ := h.fleet.holds i s key token hs hholds
  exact h.ledger.token_lt _ hgrant

theorem Orderly.own_claim (h : Orderly w) {key key' : QueryKey} {token : Nat}
    {claim : DiscoveryClaim} (hs : w.scanners i = some s) (hholds : s.Holds key token)
    (hclaim : w.db.claims.get? key' = some claim) (howner : claim.ownerRunId = s.runId) :
    key' = key ∧ claim.leaseToken = token := by
  rcases h.fleet.rows key' claim hclaim i s hs howner.symm with hdone | hholds'
  · exact absurd hholds (by simp [Holds, answersFor, hdone])
  · obtain ⟨rfl, rfl⟩ := Prod.mk.inj (Option.some.inj (hholds'.symm.trans hholds))
    exact ⟨rfl, rfl⟩

theorem Orderly.claimable_release (h : Orderly w) {key : QueryKey} {token : Nat}
    (hs : w.scanners i = some s) (hholds : s.Holds key token) :
    Claimable (abandonQuery w.db key token) s.runId := by
  intro key' claim hclaim howner
  have hrow : (releaseClaim w.db.claims key token).get? key' = some claim := hclaim
  rw [get?_releaseClaim, Option.filter_eq_some_iff] at hrow
  have hsame := h.own_claim hs hholds hrow.1 howner
  simp [hsame] at hrow

theorem Orderly.stored (h : Orderly w) {s' : Scanner} {key : QueryKey} {token : Nat}
    {page : DiscoveryPage} {operation : DiscoveryOperation} {now : Instant}
    {observedAt : Nat → Instant} {db : DiscoveryDb} {record : PageRecord}
    (hs : w.scanners i = some s) (hphase : s.phase = .storing key token page operation now)
    (hstored : Stored w.db s.runId key token page operation now db)
    (hrecord : recordAll columns s key observedAt db s.uniqueProducts w.recorded page.products =
      .ok record)
    (hsame : SameScan { s with uniqueProducts := record.uniqueProducts } s')
    (hnot : ∀ key token, ¬ s'.Holds key token) :
    Orderly ({ w with
      db := record.db
      closed := token :: w.closed
      recorded := record.recorded }.setScanner i s') := by
  have hholds : s.Holds key token := by simp [Holds, answersFor, hphase]
  have hleaves := leavesClaims_of_recordAll hrecord
  have hledger := h.ledger.released _ key (h.token_lt hs hholds)
    hstored.claims hstored.sameLease hstored.nextToken
  have hrow : ∀ key' claim, record.db.claims.get? key' = some claim →
      (abandonQuery w.db key token).claims.get? key' = some claim := by
    intro key' claim hclaim
    rw [hleaves.claims, hstored.claims] at hclaim
    exact hclaim
  refine ⟨hledger.of_sameLease hleaves.runs hleaves.claims hleaves.nextToken,
    Fleet.step h hs ⟨rfl, hsame.runId, ?_, fun _ hg => hg, ?_, ?_, ?_, ?_⟩⟩
  · intro id run hrun
    obtain ⟨run₁, hrun₁, -⟩ := hstored.sameLease.of_get? hrun
    obtain ⟨run₂, hrun₂, -⟩ := hleaves.runs.of_get? hrun₁
    exact ⟨run₂, hrun₂⟩
  · intro t ht
    rcases List.mem_cons.1 ht with rfl | ht
    · exact .inr ⟨key, hholds⟩
    · exact .inl ht
  · intro key' claim hclaim
    have hclaim := hrow key' claim hclaim
    rw [abandonQuery, get?_releaseClaim, Option.filter_eq_some_iff] at hclaim
    exact .inl hclaim.1
  · exact fun key token hholds => absurd hholds (hnot key token)
  · intro key' claim hclaim howner
    exact absurd howner (h.claimable_release hs hholds key' claim (hrow key' claim hclaim))

theorem Orderly.replayed (h : Orderly w) {key : QueryKey} {page : DiscoveryPage}
    {item : DiscoveryProduct} {rest : List DiscoveryProduct} {now : Instant} {db : DiscoveryDb}
    {answer : RecordedProduct} (hs : w.scanners i = some s)
    (hphase : s.phase = .replay key page (item :: rest))
    (heffect : RecordEffect w.db (s.recording key item .cache now) db answer) :
    Orderly ({ w with db := db, recorded := (s.runId, item.productId) :: w.recorded }.setScanner i
      { s with
        uniqueProducts := s.uniqueProducts + if answer.insertedUnique then 1 else 0
        phase := .replay key page rest }) := by
  have hleaves := leavesClaims_of_recordEffect heffect
  have hclaimable : Claimable w.db s.runId :=
    h.fleet.claimable hs (by simp [Holds, answersFor, hphase]) (by simp [hphase])
  refine ⟨h.ledger.of_sameLease hleaves.runs hleaves.claims hleaves.nextToken,
    Fleet.step h hs ⟨rfl, rfl, ?_, fun _ hg => hg, fun _ ht => .inl ht, ?_, ?_, ?_⟩⟩
  · intro id run hrun
    obtain ⟨run', hrun', -⟩ := hleaves.runs.of_get? hrun
    exact ⟨run', hrun'⟩
  · intro key' claim hclaim
    exact .inl (hleaves.claims ▸ hclaim)
  · exact fun _ _ hholds => absurd hholds (not_holds_of_answersFor rfl)
  · intro key' claim hclaim howner
    exact absurd howner (hclaimable key' claim (hleaves.claims ▸ hclaim))

theorem finishRun_frame {db db' : DiscoveryDb} {runId : Nat} {state : DiscoveryRunState}
    {now : Instant} {stopReason : String} {errorCode : Option String}
    (h : finishRun db runId state now stopReason errorCode = .ok db') :
    (∀ id run, db.runs.get? id = some run → ∃ run', db'.runs.get? id = some run') ∧
      db'.claims = db.claims ∧ db'.cache = db.cache := by
  obtain ⟨-, runs, hruns, rfl⟩ := finishRun_eq_ok h
  refine ⟨fun id run hrun => ?_, rfl, rfl⟩
  have hrel : RowsRel (fun _ _ _ => True) db.runs runs :=
    rowsRel_updateOne hruns (fun _ _ => trivial) fun _ _ _ => trivial
  obtain ⟨run', hrun', -⟩ := hrel.of_get? hrun
  exact ⟨run', hrun'⟩

theorem Orderly.finished (h : Orderly w) {state : DiscoveryRunState} {stopReason : String}
    {errorCode : Option String} {now : Instant} {db : DiscoveryDb} (hs : w.scanners i = some s)
    (hholds : ∀ key token, ¬ s.Holds key token) (hdone : s.phase ≠ .done)
    (hfinish : finishRun w.db s.runId state now stopReason errorCode = .ok db) :
    Orderly ({ w with db := db }.setScanner i s.gone) := by
  obtain ⟨hruns, hclaims, -⟩ := finishRun_frame hfinish
  refine ⟨h.ledger.finishRun hfinish (h.fleet.claimable hs hholds hdone),
    Fleet.step h hs ⟨rfl, rfl, hruns, fun _ hg => hg, fun _ ht => .inl ht, ?_, ?_, ?_⟩⟩
  · exact fun key claim hclaim => .inl (hclaims ▸ hclaim)
  · exact fun _ _ hholds => absurd hholds (not_holds_of_answersFor rfl)
  · exact fun _ _ _ _ => .inl rfl

theorem Orderly.failed (h : Orderly w) {key : QueryKey} {token : Nat} {state : DiscoveryRunState}
    {stopReason : String} {errorCode : Option String} {now : Instant} {db : DiscoveryDb}
    (hs : w.scanners i = some s) (hholds : s.Holds key token)
    (hfinish : finishRun (abandonQuery w.db key token) s.runId state now stopReason errorCode =
      .ok db) :
    Orderly ({ w with db := db, closed := token :: w.closed }.setScanner i s.gone) := by
  obtain ⟨hruns, hclaims, -⟩ := finishRun_frame hfinish
  have hledger := h.ledger.released (abandonQuery w.db key token) key
    (h.token_lt hs hholds) rfl (.refl (fun _ run => .refl run) w.db.runs) rfl
  refine ⟨hledger.finishRun hfinish (h.claimable_release hs hholds),
    Fleet.step h hs ⟨rfl, rfl, hruns, fun _ hg => hg, ?_, ?_, ?_, ?_⟩⟩
  · intro t ht
    rcases List.mem_cons.1 ht with rfl | ht
    · exact .inr ⟨key, hholds⟩
    · exact .inl ht
  · intro key' claim hclaim
    change db.claims.get? key' = some claim at hclaim
    rw [hclaims, abandonQuery, get?_releaseClaim, Option.filter_eq_some_iff] at hclaim
    exact .inl hclaim.1
  · exact fun _ _ hholds => absurd hholds (not_holds_of_answersFor rfl)
  · exact fun _ _ _ _ => .inl rfl

/-- **Every step keeps the scanners in order.** -/
theorem Orderly.step (h : Orderly w) {a : ScanAction}
    (hstep : discoveryStep columns w a = some w') : Orderly w' := by
  cases effect_of_step hstep with
  | started job now hnone => exact h.start job now hnone
  | moved s s' clock hs hmoves hread hle => exact h.moved hs hmoves hread hle
  | queried s now db claim hs hholds hdone heffect => exact h.queried hs hholds hdone heffect
  | stored s s' key token page operation now observedAt db record hs hphase hstored hrecord hsame
      hnot =>
    exact h.stored hs hphase hstored hrecord hsame hnot
  | replayed s key page item rest now db answer hs hphase _ heffect =>
    exact h.replayed hs hphase heffect
  | finished s state stopReason errorCode now db hs hholds hdone hfinish =>
    exact h.finished hs hholds hdone hfinish
  | failed s key token state stopReason errorCode now db hs hholds hfinish =>
    exact h.failed hs hholds hfinish

theorem orderly_of_reachable (h : (discoverySystem columns).Reachable w) : Orderly w := by
  refine h.invariant ?_ fun _ _ _ hw => hw.step
  rintro w ⟨clock, rfl⟩
  exact orderly_init

/-! ## The rows of the runs after a step -/

/-- A query that is claimed leaves the rows of ended runs as they are. -/
theorem get?_claimEffect_of_ended {db db' : DiscoveryDb} {q : ClaimRequest}
    {claim : DiscoveryQueryClaim} (h : ClaimEffect columns db q db' claim) {id : Nat}
    {run : DiscoveryRun} (hrun : db.runs.get? id = some run) (hended : run.state ≠ .running) :
    db'.runs.get? id = some run := by
  cases h with
  | cache db₁ cached hrenewed hcached =>
    obtain ⟨hid, hrow⟩ := hrenewed.get?_of_ended hrun hended
    show (db₁.runs.updateWhere _ _).get? id = _
    rw [get?_updateWhere, hrow, Option.map_some, if_neg hid]
  | inProgress _ hrenewed => exact (hrenewed.get?_of_ended hrun hended).2
  | call db₁ _ hrenewed _ hcalled =>
    obtain ⟨hid, hrow⟩ := hrenewed.get?_of_ended hrun hended
    exact (hcalled.other id hid).trans hrow

theorem get?_finishRun_of_ended {db db' : DiscoveryDb} {runId : Nat} {state : DiscoveryRunState}
    {now : Instant} {stopReason : String} {errorCode : Option String}
    (h : finishRun db runId state now stopReason errorCode = .ok db') {id : Nat}
    {run : DiscoveryRun} (hrun : db.runs.get? id = some run) (hended : run.state ≠ .running) :
    db'.runs.get? id = some run := by
  obtain ⟨-, runs, hruns, rfl⟩ := finishRun_eq_ok h
  obtain ⟨⟨run', hrun', hstate, -⟩, hother⟩ := get?_of_updateOne hruns
  have hid : id ≠ runId := by
    rintro rfl
    obtain rfl := Option.some.inj (hrun.symm.trans hrun')
    exact hended hstate
  exact (hother id hid).trans hrun

/-- A page that is recorded is recorded in its own run alone. -/
theorem get?_recordAll_of_ne {db : DiscoveryDb} {key : QueryKey} {observedAt : Nat → Instant}
    {unique : Nat} {recorded : List ResultKey} {items : List DiscoveryProduct}
    {record : PageRecord} {id : Nat} (hid : id ≠ s.runId)
    (h : recordAll columns s key observedAt db unique recorded items = .ok record) :
    record.db.runs.get? id = db.runs.get? id := by
  refine recordAll_invariant (P := fun db' _ _ => db'.runs.get? id = db.runs.get? id) ?_ h rfl
  intro db₁ unique recorded item now db₂ answer hsame _ heffect
  rw [← hsame]
  cases hrun : db₁.runs.get? id with
  | some run =>
    obtain ⟨run', hrun', rfl⟩ := heffect.runs.of_get? hrun
    rw [hrun']
    exact congrArg some (if_neg hid)
  | none =>
    cases hrun' : db₂.runs.get? id with
    | none => rfl
    | some run' =>
      obtain ⟨run, hrun₁, -⟩ := heffect.runs.of_get?' hrun'
      rw [hrun] at hrun₁
      cases hrun₁

/-- The scanner is about to record in a run: a cached product, or a live page. -/
def RecordsInto (w : DiscoveryWorld) (i id : Nat) : Prop :=
  ∃ s, w.scanners i = some s ∧ s.runId = id ∧
    ((∃ key page item rest, s.phase = .replay key page (item :: rest) ∧ ¬ s.Full) ∨
      ∃ key token page operation now, s.phase = .storing key token page operation now)

/-- **A step leaves the row of an ended run as it is**, except that products may be recorded
in it; even then it stays ended. -/
theorem Effect.get?_of_ended (heffect : Effect columns w i w') {id : Nat}
    {run : DiscoveryRun} (hrun : w.db.runs.get? id = some run) (hended : run.state ≠ .running) :
    w'.db.runs.get? id = some run ∨
      (RecordsInto w i id ∧ ∃ run', w'.db.runs.get? id = some run' ∧ run'.state = run.state) := by
  cases heffect with
  | started job now hnone =>
    refine .inl ?_
    show (createRun w.db (newRun job now)).1.runs.get? id = _
    rw [get?_createRun, if_neg (ne_createRun_snd hrun)]
    exact hrun
  | moved s s' clock hs hmoves => exact .inl hrun
  | queried s now db claim hs hholds hdone heffect =>
    exact .inl (get?_claimEffect_of_ended heffect hrun hended)
  | stored s s' key token page operation now observedAt db record hs hphase hstored hrecord =>
    by_cases hid : id = s.runId
    · -- The claim of the run may have been swept since it was read.
      obtain ⟨run₁, hrun₁, hsame₁⟩ := hstored.sameLease.of_get? hrun
      obtain ⟨run₂, hrun₂, hsame₂⟩ := (leavesClaims_of_recordAll hrecord).runs.of_get? hrun₁
      exact .inr ⟨⟨s, hs, hid.symm, .inr ⟨key, token, page, operation, now, hphase⟩⟩, run₂, hrun₂,
        hsame₂.state.trans hsame₁.state⟩
    · refine .inl ?_
      show record.db.runs.get? id = _
      rw [get?_recordAll_of_ne hid hrecord, hstored.runs, get?_updateWhere, hrun, Option.map_some,
        if_neg hid]
  | replayed s key page item rest now db answer hs hphase hfull heffect =>
    obtain ⟨run', hrun', heq⟩ := heffect.runs.of_get? hrun
    by_cases hid : id = s.runId
    · refine .inr ⟨⟨s, hs, hid.symm, .inl ⟨key, page, item, rest, hphase, hfull⟩⟩, run', hrun', ?_⟩
      rw [heq, if_pos (show id = (s.recording key item .cache now).runId from hid)]
      rfl
    · refine .inl (hrun'.trans (congrArg some ?_))
      rw [heq]
      exact if_neg hid
  | finished s state stopReason errorCode now db hs hholds hdone hfinish =>
    exact .inl (get?_finishRun_of_ended hfinish hrun hended)
  | failed s key token state stopReason errorCode now db hs hholds hfinish =>
    have hrun' : (abandonQuery w.db key token).runs.get? id = some run := hrun
    exact .inl (get?_finishRun_of_ended hfinish hrun' hended)

/-! ## One query at a time -/

/-- A claim its scanner has not given up, and that has not expired by the latest time a
scanner has acted at. -/
def Outstanding (w : DiscoveryWorld) (g : Grant) : Prop :=
  g ∈ w.grants ∧ g.2.leaseToken ∉ w.closed ∧ w.clock < g.2.leaseUntil

/-- What holds in every state. -/
structure WithinBudget (w : DiscoveryWorld) : Prop where
  singleFlight : ∀ g g', Outstanding w g → Outstanding w g' → g.1 = g'.1 → g = g'
  present : ∀ g, Outstanding w g → w.db.claims.get? g.1 = some g.2
  budget : ∀ id run, w.db.runs.get? id = some run →
    run.apiCallCount = grantCount w.grants id ∧ run.apiCallCount ≤ run.maxApiCalls

/-- What holds of every step. -/
structure StepWithinBudget (w w' : DiscoveryWorld) : Prop where
  /-- A call is granted when no live page is cached, and the run has a call left. -/
  granted : ∀ g ∈ w'.grants, g ∉ w.grants →
    (∀ cached, w.db.cache.get? g.1 = some cached → cached.expiresAt ≤ g.2.claimedAt) ∧
      ∃ run, w.db.runs.get? g.2.ownerRunId = some run ∧ run.state = .running ∧
        run.apiCallCount < run.maxApiCalls
  /-- A run that has ended stays so. -/
  ended : ∀ id run, w.db.runs.get? id = some run → run.state ≠ .running →
    ∃ run', w'.db.runs.get? id = some run' ∧ run'.state = run.state

/-- The page that a step of the scanner `i` caches is cached by the run of a claim that was
granted it and has not expired. -/
def CachedByHolder (w : DiscoveryWorld) (i : Nat) (w' : DiscoveryWorld) : Prop :=
  ∀ key cached, w'.db.cache.get? key = some cached → w.db.cache.get? key = some cached ∨
    ∃ s claim, w.scanners i = some s ∧ claim.ownerRunId = s.runId ∧
      s.Holds key claim.leaseToken ∧ (key, claim) ∈ w.grants ∧
      w.db.claims.get? key = some claim ∧ cached.fetchedAt < claim.leaseUntil

theorem Orderly.withinBudget (h : Orderly w) : WithinBudget w where
  singleFlight := by
    intro g g' hg hg' hkey
    have hrow := h.ledger.kept g hg.1 hg.2.1 hg.2.2
    have hrow' := h.ledger.kept g' hg'.1 hg'.2.1 hg'.2.2
    rw [hkey, hrow', Option.some.injEq] at hrow
    exact Prod.ext hkey hrow.symm
  present := fun g hg => h.ledger.kept g hg.1 hg.2.1 hg.2.2
  budget := h.ledger.budget

/-- What a new grant says of the state it was made in. -/
theorem granted_of_claimEffect {now : Instant} {db : DiscoveryDb} {claim : DiscoveryQueryClaim}
    (heffect : ClaimEffect columns w.db (s.claimRequest now) db claim) {g : Grant}
    (hg : g ∈ w.granted db s.key claim) (hnew : g ∉ w.grants) :
    (∀ cached, w.db.cache.get? g.1 = some cached → cached.expiresAt ≤ g.2.claimedAt) ∧
      ∃ run, w.db.runs.get? g.2.ownerRunId = some run ∧ run.state = .running ∧
        run.apiCallCount < run.maxApiCalls := by
  cases heffect with
  | cache => exact absurd hg hnew
  | inProgress => exact absurd hg hnew
  | call db₁ _ hrenewed hcache hcalled =>
    rw [granted_call w db₁.nextToken hcalled] at hg
    rcases List.mem_cons.1 hg with rfl | hg
    · obtain ⟨run, hrun, hstate, hrun₁⟩ := hrenewed.active
      obtain ⟨run₁, hrun₁', -, hlt, -⟩ := hcalled.run
      obtain rfl := Option.some.inj (hrun₁.symm.trans hrun₁')
      exact ⟨hcache, run, hrun, hstate, hlt⟩
    · exact absurd hg hnew

theorem claimEffect_cache {db db' : DiscoveryDb} {q : ClaimRequest} {claim : DiscoveryQueryClaim}
    (h : ClaimEffect columns db q db' claim) {key : QueryKey} {cached : QueryCache}
    (hcached : db'.cache.get? key = some cached) : db.cache.get? key = some cached := by
  have hpurged : ∀ db₁, Renewed db q db₁ → db₁.cache.get? key = some cached →
      db.cache.get? key = some cached := by
    intro db₁ hrenewed hcached
    rw [hrenewed.cache, get?_deleteWhere, Option.filter_eq_some_iff] at hcached
    exact hcached.1
  cases h with
  | cache db₁ _ hrenewed _ => exact hpurged db₁ hrenewed hcached
  | inProgress _ hrenewed => exact hpurged _ hrenewed hcached
  | call db₁ _ hrenewed _ hcalled => exact hpurged db₁ hrenewed (hcalled.cache ▸ hcached)

theorem Effect.stepWithinBudget (heffect : Effect columns w i w') :
    StepWithinBudget w w' where
  granted := by
    intro g hg hnew
    cases heffect with
    | queried s now db claim hs hholds hdone heffect =>
      exact granted_of_claimEffect heffect hg hnew
    | _ => exact absurd hg hnew
  ended := by
    intro id run hrun hended
    rcases heffect.get?_of_ended hrun hended with hsame | ⟨-, hrun'⟩
    · exact ⟨run, hsame, rfl⟩
    · exact hrun'

/-! ### Who caches a page

A page is cached in the transaction of a live page, and that transaction does not look at the
claim again.  What it caches is cached by the holder exactly if the claim is still there: a
claim that is in the table under its token is the one that was read, and its time was. -/

/-- The claim the scanner has read for the page it stores next. -/
def Scanner.storing (s : Scanner) : Option (QueryKey × Nat) :=
  match s.phase with
  | .storing key token _ _ _ => some (key, token)
  | _ => none

/-- **The claim that was read for a live page is still in the table when the page is stored.** -/
def StoresHeld (w : DiscoveryWorld) (i : Nat) : Prop :=
  ∀ s ∈ w.scanners i, ∀ k ∈ s.storing, ∃ claim ∈ w.db.claims.get? k.1, claim.leaseToken = k.2

instance (w : DiscoveryWorld) (i : Nat) : Decidable (StoresHeld w i) :=
  inferInstanceAs (Decidable (∀ s ∈ w.scanners i, _))

/-- The step caches a page. -/
def Caches (w w' : DiscoveryWorld) : Prop :=
  ∃ key cached, w'.db.cache.get? key = some cached ∧ w.db.cache.get? key ≠ some cached

/-- A page that is new in the cache is the one the scanner has stored. -/
theorem Effect.caches (heffect : Effect columns w i w') {key : QueryKey} {cached : QueryCache}
    (hcached : w'.db.cache.get? key = some cached)
    (hnew : w.db.cache.get? key ≠ some cached) :
    ∃ s token page operation now, w.scanners i = some s ∧
      s.phase = .storing key token page operation now ∧ cached.fetchedAt = now := by
  cases heffect with
  | queried s now db claim hs hholds hdone heffect =>
    exact absurd (claimEffect_cache heffect hcached) hnew
  | stored s s' key' token page operation now observedAt db record hs hphase hstored hrecord =>
    change record.db.cache.get? key = some cached at hcached
    rw [(leavesClaims_of_recordAll hrecord).cache, hstored.cache, get?_put] at hcached
    split at hcached
    · next hkey =>
      subst hkey
      obtain rfl := Option.some.inj hcached
      exact ⟨s, token, page, operation, now, hs, hphase, rfl⟩
    · exact absurd hcached hnew
  | replayed s key' page item rest now db answer hs hphase _ heffect =>
    exact absurd (heffect.cache ▸ hcached) hnew
  | finished s state stopReason errorCode now db hs hholds hdone hfinish =>
    exact absurd ((finishRun_frame hfinish).2.2 ▸ hcached) hnew
  | failed s key' token state stopReason errorCode now db hs hholds hfinish =>
    change db.cache.get? key = some cached at hcached
    rw [(finishRun_frame hfinish).2.2] at hcached
    exact absurd hcached hnew
  | started | moved => exact absurd hcached hnew

theorem Orderly.cachedByHolder_iff (h : Orderly w) (heffect : Effect columns w i w') :
    CachedByHolder w i w' ↔ (Caches w w' → StoresHeld w i) := by
  constructor
  · rintro hholder ⟨key, cached, hcached, hnew⟩ s hs k hk
    obtain ⟨s', token, page, operation, now, hs', hphase, -⟩ := heffect.caches hcached hnew
    obtain rfl := Option.some.inj (hs.symm.trans hs')
    rcases hholder key cached hcached with hold | ⟨s', claim, hs', -, hholds, -, hclaim, -⟩
    · exact absurd hold hnew
    · obtain rfl := Option.some.inj (hs.symm.trans hs')
      simp only [Scanner.storing, hphase, Option.mem_def, Option.some.injEq] at hk
      simp only [Holds, answersFor, hphase, Option.some.injEq, Prod.mk.injEq, true_and] at hholds
      subst hk
      exact ⟨claim, hclaim, hholds.symm⟩
  · intro hheld key cached hcached
    by_cases hnew : w.db.cache.get? key = some cached
    · exact .inl hnew
    · obtain ⟨s, token, page, operation, now, hs, hphase, rfl⟩ := heffect.caches hcached hnew
      have hholds : s.Holds key token := by simp [Holds, answersFor, hphase]
      obtain ⟨claim, hclaim, htoken⟩ :=
        hheld ⟨key, cached, hcached, hnew⟩ s hs (key, token) (by simp [Scanner.storing, hphase])
      obtain ⟨-, granted, hgrant, howner, rfl, hread⟩ := h.fleet.holds i s key token hs hholds
      obtain rfl := h.eq_grant hclaim hgrant htoken
      exact .inr ⟨s, claim, hs, howner, hholds, hgrant, hclaim,
        hread _ (by simp [readAt, hphase])⟩

/-- In every state that any scanners reach, a query has one unexpired claim at most and the
calls of a run are those granted to it, within its budget; every step grants and ends only as
it may; and what it caches is cached by the holder of the claim if, and only if, that claim is
still in the table. -/
theorem discovery_withinBudget (h : (discoverySystem columns).Reachable w) :
    WithinBudget w ∧
      ∀ a w', discoveryStep columns w a = some w' → StepWithinBudget w w' ∧
        (CachedByHolder w a.scanner w' ↔ (Caches w w' → StoresHeld w a.scanner)) := by
  have horderly := orderly_of_reachable h
  refine ⟨horderly.withinBudget, fun a w' hstep => ?_⟩
  have heffect := effect_of_step hstep
  exact ⟨heffect.stepWithinBudget, horderly.cachedByHolder_iff heffect⟩

/-! ## Two scanners want the same page -/

/-- A job of one page, with one result to a page. -/
def smallJob : ScanJob where
  profileName := "small".toList
  profileFingerprint := List.replicate 64 'p'
  profile := ⟨["mouse".toList], 1, 1, 5, 1, 10⟩
  sourceOperation := .productQuery
  key := fun _ _ => ⟨List.replicate 64 'q', List.replicate 64 't'⟩

/-- Two scanners with that job claim its page, one after the other. -/
def contention : List ScanAction :=
  [.start 0 smallJob 0, .start 1 smallJob 0, .proceed 0 1 fun _ => 1, .proceed 1 2 fun _ => 2]

/-- Where that leads. -/
def contested : DiscoveryWorld :=
  (discoverySystem NumericType.halfEven).endOf noDiscoveries contention

theorem contested_reachable : (discoverySystem NumericType.halfEven).Reachable contested :=
  ⟨noDiscoveries, ⟨0, rfl⟩, TransitionSystem.run_endOf (by decide +kernel)⟩

theorem discovery_withinBudget_contested :
    contested.grants = [(Scanner.key (started smallJob 1), ⟨1, 0, 1, 2, 1, 1 + leaseDuration⟩)] ∧
      WithinBudget contested ∧
      ∀ a w', discoveryStep NumericType.halfEven contested a = some w' →
        StepWithinBudget contested w' ∧
          (CachedByHolder contested a.scanner w' ↔
            (Caches contested w' → StoresHeld contested a.scanner)) :=
  ⟨by decide +kernel, discovery_withinBudget contested_reachable⟩

/-- The first scanner has its page, and has read its claim just before the lease is over; the
second one claims the same page after it. -/
def claimSwept : List ScanAction :=
  [.start 0 smallJob 0, .proceed 0 1 fun _ => 1, .answer 0 (.page ⟨[], none, none, 0⟩),
    .proceed 0 (seconds 59) fun _ => 0, .start 1 smallJob (seconds 100),
    .proceed 1 (seconds 100) fun _ => 0]

/-- Where that leads. -/
def swept : DiscoveryWorld :=
  (discoverySystem NumericType.halfEven).endOf noDiscoveries claimSwept

/-- The first scanner goes on. -/
def storedLate : DiscoveryWorld :=
  (discoverySystem NumericType.halfEven).endOf swept [.proceed 0 (seconds 100) fun _ => 0]

theorem swept_reachable : (discoverySystem NumericType.halfEven).Reachable swept :=
  ⟨noDiscoveries, ⟨0, rfl⟩, TransitionSystem.run_endOf (by decide +kernel)⟩

theorem storedLate_step : discoveryStep NumericType.halfEven swept
    (.proceed 0 (seconds 100) fun _ => 0) = some storedLate := by
  have hreplay : (discoverySystem NumericType.halfEven).replay swept
      [.proceed 0 (seconds 100) fun _ => 0] = some storedLate :=
    TransitionSystem.replay_endOf _ _ (by decide +kernel)
  exact (Option.bind_fun_some _).symm.trans hreplay

/-- **A page is cached by a run whose claim is gone**: the run was swept, and another one has
been granted the page. -/
theorem page_cached_late :
    ¬ ∀ columns w, (discoverySystem columns).Reachable w → WithinBudget w ∧
      ∀ a w', discoveryStep columns w a = some w' →
        StepWithinBudget w w' ∧ CachedByHolder w a.scanner w' := by
  intro h
  have hholder := ((h _ _ swept_reachable).2 _ _ storedLate_step).2
  have hsome : (storedLate.db.cache.get? (Scanner.key (started smallJob 1))).isSome = true := by
    decide +kernel
  have hnone : (swept.db.cache.get? (Scanner.key (started smallJob 1))).isSome = false := by
    decide +kernel
  obtain ⟨cached, hcached⟩ := Option.isSome_iff_exists.1 hsome
  have hcaches : Caches swept storedLate := by
    refine ⟨_, cached, hcached, fun hold => ?_⟩
    rw [hold] at hnone
    cases hnone
  have hheld := ((orderly_of_reachable swept_reachable).cachedByHolder_iff
    (effect_of_step storedLate_step)).1 hholder hcaches
  exact absurd hheld (by decide +kernel)

end Discovery
end PromoBot
