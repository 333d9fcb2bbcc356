import PromoBot.Discovery.QueryBudget

/-!
# How a scan goes on

A step changes one scanner only.  `Follows` is all that can become of it where it goes on, with
the claim it is granted, and `Advances` adds what the step does to the cache;
`advances_of_step` is the one place where the step function is taken apart for this.

`Placed` says where in its two loops, over the keywords and over the pages, a scanner can be.
-/

namespace PromoBot
namespace Discovery

open DiscoveryRepository Fallible SqlTable

/-! ## What becomes of a scanner -/

namespace Scanner

def pageKey (s : Scanner) : Option QueryKey :=
  match s.phase with
  | .query => some s.key
  | .call key _ | .received key _ _ | .storing key _ _ _ _ | .replay key _ _ => some key
  | .finish _ _ _ | .fail _ _ _ _ | .done => none

/-- How far a scanner is from being done with its page, by phases. -/
def rank (s : Scanner) : Nat :=
  match s.phase with
  | .query => 5
  | .call _ _ => 4
  | .received _ _ _ => 3
  | .storing _ _ _ _ _ | .replay _ _ _ => 2
  | .finish _ _ _ | .fail _ _ _ _ => 1
  | .done => 0

/-- The same place in the loops of the same run. -/
structure SamePlace (s t : Scanner) : Prop where
  job : t.job = s.job
  runId : t.runId = s.runId
  keywords : t.keywords = s.keywords
  pageNo : t.pageNo = s.pageNo

variable {s t : Scanner}

theorem SamePlace.key (h : SamePlace s t) : t.key = s.key := by
  unfold Scanner.key
  rw [h.job, h.keywords, h.pageNo]

/-- What becomes of a scanner that goes on, and what it is granted. -/
inductive Follows (columns : NumericType) (db : DiscoveryDb) (s : Scanner) :
    Scanner → List Grant → Prop
  /-- The page is given up. -/
  | rests {t : Scanner} : SamePlace s t → t.pageKey = none → t.rank < s.rank →
      Follows columns db s t []
  /-- The page is done. -/
  | turns (n itemCount : Nat) {key : QueryKey} : s.pageKey = some key →
      Follows columns db s (nextPage { s with uniqueProducts := n } itemCount) []
  | called {t : Scanner} (now : Instant) (token : Nat) : s.phase = .query → SamePlace s t →
      t.phase = .call s.key token → Follows columns db s t [s.grant now token]
  | cached {t : Scanner} (row : QueryCache) : s.phase = .query → SamePlace s t →
      db.cache.get? s.key = some row →
      t.phase = .replay s.key (row.page columns) (row.page columns).products →
      Follows columns db s t []
  | answered {t : Scanner} (key : QueryKey) (token : Nat) (page : DiscoveryPage) :
      s.phase = .call key token → SamePlace s t → t.phase = .received key token page →
      Follows columns db s t []
  | read {t : Scanner} (key : QueryKey) (token : Nat) (page : DiscoveryPage)
      (operation : DiscoveryOperation) (now : Instant) : s.phase = .received key token page →
      SamePlace s t → t.phase = .storing key token page operation now → Follows columns db s t []
  | replayed {t : Scanner} (key : QueryKey) (page : DiscoveryPage) (item : DiscoveryProduct)
      (rest : List DiscoveryProduct) : s.phase = .replay key page (item :: rest) →
      SamePlace s t → t.phase = .replay key page rest → Follows columns db s t []

variable {columns : NumericType} {db : DiscoveryDb}

theorem Follows.gone (h : 0 < s.rank) : Follows columns db s s.gone [] :=
  .rests ⟨rfl, rfl, rfl, rfl⟩ rfl h

theorem Follows.finishing (state : DiscoveryRunState) (stopReason : String)
    (errorCode : Option String) (h : 1 < s.rank) :
    Follows columns db s (s.finishing state stopReason errorCode) [] :=
  .rests ⟨rfl, rfl, rfl, rfl⟩ rfl h

theorem Follows.refused (error : String) (h : 1 < s.rank) :
    Follows columns db s (s.refused error) [] := by
  unfold Scanner.refused
  split
  · exact .finishing _ _ _ h
  · exact .gone (Nat.zero_lt_of_lt h)

end Scanner

/-! ## What a step does -/

open Scanner

variable {columns : NumericType} {w w' : DiscoveryWorld} {i : Nat} {s : Scanner}

/-- All that a step does to the scanner `i`, to the grants and to the cache. -/
structure Advances (columns : NumericType) (w : DiscoveryWorld) (i : Nat) (s : Scanner)
    (w' : DiscoveryWorld) : Prop where
  scanner : ∃ t new, w'.scanners = Function.update w.scanners i (some t) ∧
    w'.grants = new ++ w.grants ∧ Follows columns w.db s t new
  /-- What is new in the cache is the page the scanner was about to store. -/
  cache : ∀ key row, w'.db.cache.get? key = some row → w.db.cache.get? key = some row ∨
    ∃ token page operation now, s.phase = .storing key token page operation now ∧
      row = QueryCache.ofPage operation page now

theorem Advances.still {w₁ : DiscoveryWorld} {t : Scanner} (hscanners : w₁.scanners = w.scanners)
    (hgrants : w₁.grants = w.grants) (hdb : w₁.db = w.db) (h : Follows columns w.db s t []) :
    Advances columns w i s (w₁.setScanner i t) where
  scanner := ⟨t, [], by rw [DiscoveryWorld.setScanner, hscanners], hgrants, h⟩
  cache := fun key row hrow => .inl (by rw [← hdb]; exact hrow)

theorem advances_of_query (now : Instant) (hphase : s.phase = .query) :
    Advances columns w i s (w.query columns i s now) := by
  have hrank : s.rank = 5 := by rw [rank, hphase]
  unfold DiscoveryWorld.query
  split
  · exact .still rfl rfl rfl (.finishing _ _ _ (by omega))
  · split
    · next error _ => exact .still rfl rfl rfl (.refused error (by omega))
    · next db claim hclaim =>
      have heffect := claimEffect_of_claimQuery hclaim
      refine ⟨?_, fun key row hrow => .inl (claimEffect_cache heffect hrow)⟩
      cases heffect with
      | cache db₁ row hrenewed hrow =>
        refine ⟨_, [], rfl, rfl, .cached row hphase ⟨rfl, rfl, rfl, rfl⟩ ?_ rfl⟩
        rw [hrenewed.cache, get?_deleteWhere, Option.filter_eq_some_iff] at hrow
        exact hrow.1
      | inProgress db₁ _ =>
        refine ⟨_, [], rfl, rfl, .rests ⟨rfl, rfl, rfl, rfl⟩ rfl ?_⟩
        show 1 < s.rank
        omega
      | call db₁ db₂ _ _ hcalled =>
        exact ⟨_, [s.grant now db₁.nextToken], rfl, granted_call w db₁.nextToken hcalled,
          .called now db₁.nextToken hphase ⟨rfl, rfl, rfl, rfl⟩ rfl⟩

theorem advances_of_receive {key : QueryKey} {token : Nat} {page : DiscoveryPage} (now : Instant)
    (hphase : s.phase = .received key token page) :
    Advances columns w i s (w.receive i s key token page now) := by
  have hrank : s.rank = 3 := by rw [rank, hphase]
  unfold DiscoveryWorld.receive
  split
  · exact .still rfl rfl rfl (.gone (by omega))
  · next run _ =>
    exact .still rfl rfl rfl
      (.read key token page run.sourceOperation now hphase ⟨rfl, rfl, rfl, rfl⟩ rfl)

theorem advances_of_store {key : QueryKey} {token : Nat} {page : DiscoveryPage}
    {operation : DiscoveryOperation} {now : Instant} (observedAt : Nat → Instant)
    (hphase : s.phase = .storing key token page operation now) :
    Advances columns w i s (w.store columns i s key token page operation now observedAt) := by
  have hrank : s.rank = 2 := by rw [rank, hphase]
  unfold DiscoveryWorld.store
  split
  · exact .still rfl rfl rfl (.gone (by omega))
  · next record hrecord =>
    obtain ⟨db, hstored, hrecord⟩ := bind_eq_ok.1 hrecord
    refine ⟨⟨_, [], rfl, rfl, ?_⟩, fun key' row hrow => ?_⟩
    · split
      · refine .rests ⟨rfl, rfl, rfl, rfl⟩ rfl ?_
        show 1 < s.rank
        omega
      · exact .turns _ _ (by rw [pageKey, hphase])
    · change record.db.cache.get? key' = some row at hrow
      rw [(leavesClaims_of_recordAll hrecord).cache, (stored_of_storePage hstored).cache,
        get?_put] at hrow
      split at hrow
      · next hkey =>
        subst hkey
        exact .inr ⟨token, page, operation, now, hphase, (Option.some.inj hrow).symm⟩
      · exact .inl hrow

theorem advances_of_replayOne {key : QueryKey} {page : DiscoveryPage} {item : DiscoveryProduct}
    {rest : List DiscoveryProduct} (now : Instant)
    (hphase : s.phase = .replay key page (item :: rest)) :
    Advances columns w i s (w.replayOne columns i s key page item rest now) := by
  have hrank : s.rank = 2 := by rw [rank, hphase]
  unfold DiscoveryWorld.replayOne
  split
  · exact .still rfl rfl rfl (.finishing _ _ _ (by omega))
  · split
    · exact .still rfl rfl rfl (.gone (by omega))
    · next db answer hanswer =>
      refine ⟨⟨_, [], rfl, rfl, .replayed key page item rest hphase ⟨rfl, rfl, rfl, rfl⟩ rfl⟩, ?_⟩
      intro key' row hrow
      change db.cache.get? key' = some row at hrow
      rw [(recordEffect_of_recordProduct hanswer).cache] at hrow
      exact .inl hrow

theorem advances_of_proceed {now : Instant} {observedAt : Nat → Instant}
    (h : w.proceed columns i s now observedAt = some w') : Advances columns w i s w' := by
  unfold DiscoveryWorld.proceed at h
  split at h
  · next hphase =>
    obtain rfl := Option.some.inj h
    exact advances_of_query now hphase
  · cases h
  · cases h
  · next key token page hphase =>
    obtain rfl := Option.some.inj h
    exact advances_of_receive now hphase
  · next key token page operation readAt hphase =>
    obtain rfl := Option.some.inj h
    exact advances_of_store observedAt hphase
  · next key page hphase =>
    obtain rfl := Option.some.inj h
    exact .still rfl rfl rfl (.turns s.uniqueProducts _ (by rw [pageKey, hphase]))
  · next key page item rest hphase =>
    obtain rfl := Option.some.inj h
    exact advances_of_replayOne now hphase
  · next state stopReason errorCode hphase =>
    obtain rfl := Option.some.inj h
    have hrank : 0 < s.rank := by simp [rank, hphase]
    unfold DiscoveryWorld.finish
    split
    · exact .still rfl rfl rfl (.gone hrank)
    · next db hfinish =>
      refine ⟨⟨_, [], rfl, rfl, .gone hrank⟩, fun key row hrow => .inl ?_⟩
      change db.cache.get? key = some row at hrow
      rwa [(finishRun_frame hfinish).2.2] at hrow
  · next key token state errorCode hphase =>
    obtain rfl := Option.some.inj h
    have hrank : 0 < s.rank := by simp [rank, hphase]
    unfold DiscoveryWorld.fail
    split
    · exact .still rfl rfl rfl (.gone hrank)
    · next db hfinish =>
      refine ⟨⟨_, [], rfl, rfl, .gone hrank⟩, fun key' row hrow => .inl ?_⟩
      change db.cache.get? key' = some row at hrow
      rw [(finishRun_frame hfinish).2.2] at hrow
      exact hrow

theorem advances_of_answered {key : QueryKey} {token : Nat}
    (hphase : s.phase = .call key token) (answer : GatewayAnswer) :
    Advances columns w i s (w.setScanner i (DiscoveryWorld.answered s key token answer)) := by
  have hrank : 1 < s.rank := by simp [rank, hphase]
  refine .still rfl rfl rfl ?_
  cases answer with
  | page page => exact .answered key token page hphase ⟨rfl, rfl, rfl, rfl⟩ rfl
  | providerError code manualReview => exact .rests ⟨rfl, rfl, rfl, rfl⟩ rfl hrank
  | cancelled => exact .rests ⟨rfl, rfl, rfl, rfl⟩ rfl hrank

/-- **A step starts a scanner, ends it, or lets it go on.** -/
theorem advances_of_step {a : ScanAction} (h : discoveryStep columns w a = some w') :
    (∃ job now, a = .start a.scanner job now ∧ w.scanners a.scanner = none ∧
        w' = w.start a.scanner job now) ∨
      ∃ s, w.scanners a.scanner = some s ∧
        ((a = .die a.scanner ∧ w' = w.setScanner a.scanner s.gone) ∨
          Advances columns w a.scanner s w') := by
  cases a with
  | start i job now =>
    simp only [discoveryStep, Option.ite_none_right_eq_some, Option.isNone_iff_eq_none] at h
    exact .inl ⟨job, now, rfl, h.1, (Option.some.inj h.2).symm⟩
  | answer i answer =>
    simp only [discoveryStep] at h
    split at h
    · next s hs =>
      split at h
      · next key token hphase =>
        obtain rfl := Option.some.inj h
        exact .inr ⟨s, hs, .inr (advances_of_answered hphase answer)⟩
      · cases h
    · cases h
  | proceed i now observedAt =>
    simp only [discoveryStep] at h
    split at h
    · next s hs => exact .inr ⟨s, hs, .inr (advances_of_proceed h)⟩
    · cases h
  | die i =>
    simp only [discoveryStep, Option.map_eq_some_iff] at h
    obtain ⟨s, hs, rfl⟩ := h
    exact .inr ⟨s, hs, .inl ⟨rfl, rfl⟩⟩

/-! ## The place of a scanner -/

namespace Scanner

/-- A scanner is where its loops can be. -/
structure Placed (s : Scanner) : Prop where
  keywords : s.keywords <:+ s.job.profile.keywords
  pageNo : 1 ≤ s.pageNo ∧ (1 ≤ s.job.profile.maxPages → s.pageNo ≤ s.job.profile.maxPages)
  atPage : ∀ key, s.pageKey = some key → key = s.key ∧ s.keywords ≠ []

variable {s t : Scanner}

theorem placed_atQuery (hkeywords : s.keywords <:+ s.job.profile.keywords)
    (hpage : 1 ≤ s.pageNo ∧ (1 ≤ s.job.profile.maxPages → s.pageNo ≤ s.job.profile.maxPages)) :
    s.atQuery.Placed where
  keywords := hkeywords
  pageNo := hpage
  atPage := by
    intro key hkey
    unfold atQuery pageKey at hkey
    by_cases hnil : s.keywords = []
    · simp [hnil] at hkey
    · simp only [hnil, if_false] at hkey
      exact ⟨(Option.some.inj hkey).symm, hnil⟩

theorem placed_started (job : ScanJob) (runId : Nat) : (started job runId).Placed :=
  placed_atQuery (List.suffix_refl _) ⟨Nat.le_refl 1, id⟩

theorem Placed.nextKeyword (h : s.Placed) (reason : String) : (s.nextKeyword reason).Placed :=
  placed_atQuery ((List.tail_suffix _).trans h.keywords) ⟨Nat.le_refl 1, id⟩

theorem Placed.nextPage (h : s.Placed) (n itemCount : Nat) :
    (nextPage { s with uniqueProducts := n } itemCount).Placed := by
  have hsame : ({ s with uniqueProducts := n } : Scanner).Placed :=
    ⟨h.keywords, h.pageNo, h.atPage⟩
  unfold Scanner.nextPage
  split
  · exact hsame.nextKeyword _
  · split
    · exact hsame.nextKeyword _
    · next hlt =>
      exact placed_atQuery h.keywords ⟨Nat.le_add_left 1 _, fun _ => Nat.lt_of_not_le hlt⟩

theorem phase_atQuery (s : Scanner) :
    s.atQuery.phase = .query ∨ ∃ reason, s.atQuery.phase = .finish .completed reason none := by
  unfold atQuery
  by_cases hkeywords : s.keywords = []
  · exact .inr ⟨s.finalReason, by simp [hkeywords]⟩
  · exact .inl (by simp [hkeywords])

theorem phase_nextPage (s : Scanner) (itemCount : Nat) : (s.nextPage itemCount).phase = .query ∨
    ∃ reason, (s.nextPage itemCount).phase = .finish .completed reason none := by
  unfold Scanner.nextPage
  split
  · exact phase_atQuery _
  · split
    · exact phase_atQuery _
    · exact phase_atQuery _

theorem Placed.same (h : s.Placed) (hsame : SamePlace s t)
    (hkey : ∀ key, t.pageKey = some key → s.pageKey = some key) : t.Placed where
  keywords := by
    rw [hsame.keywords, hsame.job]
    exact h.keywords
  pageNo := by
    rw [hsame.pageNo, hsame.job]
    exact h.pageNo
  atPage := by
    intro key ht
    rw [hsame.key, hsame.keywords]
    exact h.atPage key (hkey key ht)

theorem Placed.gone (h : s.Placed) : s.gone.Placed :=
  h.same ⟨rfl, rfl, rfl, rfl⟩ fun _ hkey => absurd hkey (by simp [pageKey, Scanner.gone])

theorem Placed.follows {db : DiscoveryDb} {new : List Grant} (h : s.Placed)
    (hfollows : Follows columns db s t new) : t.Placed := by
  cases hfollows with
  | rests hsame hrest _ =>
    refine h.same hsame fun key hkey => ?_
    rw [hrest] at hkey
    cases hkey
  | turns n itemCount _ => exact h.nextPage n itemCount
  | called now token hphase hsame hcall =>
    refine h.same hsame fun key hkey => ?_
    rw [pageKey, hcall] at hkey
    rw [pageKey, hphase, hkey]
  | cached row hphase hsame _ hreplay =>
    refine h.same hsame fun key hkey => ?_
    rw [pageKey, hreplay] at hkey
    rw [pageKey, hphase, hkey]
  | answered key' token page hphase hsame hreceived =>
    refine h.same hsame fun key hkey => ?_
    rw [pageKey, hreceived] at hkey
    rw [pageKey, hphase, hkey]
  | read key' token page operation now hphase hsame hread =>
    refine h.same hsame fun key hkey => ?_
    rw [pageKey, hread] at hkey
    rw [pageKey, hphase, hkey]
  | replayed key' page item rest hphase hsame hreplay =>
    refine h.same hsame fun key hkey => ?_
    rw [pageKey, hreplay] at hkey
    rw [pageKey, hphase, hkey]

theorem Follows.sameScan {db : DiscoveryDb} {new : List Grant} (h : Follows columns db s t new) :
    t.job = s.job ∧ t.runId = s.runId := by
  cases h with
  | turns n itemCount _ =>
    have hsame := sameScan_nextPage { s with uniqueProducts := n } itemCount
    exact ⟨hsame.job, hsame.runId⟩
  | rests hsame _ _ | called _ _ _ hsame _ | cached _ _ hsame _ _ | answered _ _ _ _ hsame _
  | read _ _ _ _ _ _ hsame _ | replayed _ _ _ _ _ hsame _ => exact ⟨hsame.job, hsame.runId⟩

end Scanner

end Discovery
end PromoBot
