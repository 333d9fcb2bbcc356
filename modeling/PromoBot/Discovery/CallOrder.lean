import PromoBot.Discovery.ScanProgress

/-!
# The order of the calls

The pages a scanner calls for are pages of its profile, in the order of the two loops over the
keywords and the pages, and none of them twice (`calls_in_order`); those it finds in the cache
are left out.  What carries this is that the pages called for, followed by those a scanner may
still call for (`toCall`), are some of the pages of the profile, in order.

## Why it is not obvious

The two loops are plain, but the scanner does not run them by itself.  At each page it asks the
database for leave to call (`claim_query`), and the answer may be a cached page, a refusal
because another scanner holds the claim, or a grant, and a page may be the last of its keyword
for several reasons, some of which are known only when the page has come back.  Meanwhile any
number of other scanners ask for the same keys under runs of their own.  The order of the calls
is therefore a fact about the log of the grants, and not about one function.

## One list

An invariant on the place of a scanner alone would be enough for the pages to come, and the log
for those that were called for.  What has to be kept is how the two fit, and that is one
statement about one list: the grants of the run so far, followed by `toCall`, are a sublist of
`places`.  A grant moves the page a scanner is at from the second part to the first and leaves
the list as it is; going on without a call, to the next page or to the next keyword, drops
pages from the second part. So a step can only make the list shorter (`Follows.toCall`), and
what is a sublist of a sublist is one.

A grant is written by the first statement of its transaction, so between the decision and the
log there is no window for another scanner.  That no turn of the loops calls twice then needs
no argument of its own, since its page stands in `places` once for the turn.
-/

namespace PromoBot
namespace Discovery

open DiscoveryRepository Scanner SqlTable

variable {columns : NumericType} {w w' : DiscoveryWorld} {i : Nat} {s t : Scanner}

/-! ## The pages of a scan -/

/-- The pages of a keyword from one on, with the keys they are asked for under. -/
def ScanJob.pages (job : ScanJob) (keyword : Text) (pageNo : Nat) : List (QueryKey × Nat) :=
  (List.range' pageNo (job.profile.maxPages + 1 - pageNo)).map fun n => (job.key keyword n, n)

/-- All pages of a profile, keyword by keyword. -/
def ScanJob.places (job : ScanJob) : List (QueryKey × Nat) :=
  job.profile.keywords.flatMap fun keyword => job.pages keyword 1

/-- The pages called for in a run, in the order of the calls. -/
def calledFor (grants : List Grant) (runId : Nat) : List (QueryKey × Nat) :=
  ((grants.filter fun g => g.2.ownerRunId = runId).map fun g => (g.1, g.2.pageNo)).reverse

/-- The pages from the one a scanner is at. -/
def Scanner.placesFrom (s : Scanner) : List (QueryKey × Nat) :=
  match s.keywords with
  | [] => []
  | keyword :: rest =>
    s.job.pages keyword s.pageNo ++ rest.flatMap fun keyword => s.job.pages keyword 1

/-- The pages a scanner may still call for. -/
def Scanner.toCall (s : Scanner) : List (QueryKey × Nat) :=
  match s.phase with
  | .query => s.placesFrom
  | _ => s.placesFrom.tail

theorem ScanJob.pages_eq_cons {job : ScanJob} {keyword : Text} {n : Nat}
    (h : n ≤ job.profile.maxPages) :
    job.pages keyword n = (job.key keyword n, n) :: job.pages keyword (n + 1) := by
  unfold ScanJob.pages
  rw [Nat.succ_sub h, List.range'_succ, List.map_cons, Nat.add_sub_add_right]

namespace Scanner

theorem placesFrom_same (h : SamePlace s t) : t.placesFrom = s.placesFrom := by
  unfold placesFrom
  rw [h.job, h.keywords, h.pageNo]

theorem placesFrom_first (h : s.pageNo = 1) :
    s.placesFrom = s.keywords.flatMap fun keyword => s.job.pages keyword 1 := by
  unfold placesFrom
  split
  · next hnil => rw [hnil, List.flatMap_nil]
  · next keyword rest hcons => rw [hcons, h, List.flatMap_cons]

theorem toCall_atQuery (s : Scanner) : s.atQuery.toCall = s.placesFrom := by
  unfold toCall atQuery
  by_cases hnil : s.keywords = []
  · simp [hnil, placesFrom]
  · simp only [hnil, if_false]
    rfl

theorem tail_sublist_toCall (s : Scanner) : s.placesFrom.tail.Sublist s.toCall := by
  unfold toCall
  split
  · exact List.tail_sublist _
  · exact List.Sublist.refl _

theorem toCall_of_ne_query (h : s.phase ≠ .query) : s.toCall = s.placesFrom.tail := by
  unfold toCall
  split
  · contradiction
  · rfl

theorem Placed.placesFrom_eq_cons (h : s.Placed) (hpages : 1 ≤ s.job.profile.maxPages)
    (hne : s.keywords ≠ []) : ∃ keyword rest, s.keywords = keyword :: rest ∧
      s.placesFrom = (s.key, s.pageNo) :: (s.job.pages keyword (s.pageNo + 1) ++
        rest.flatMap fun keyword => s.job.pages keyword 1) := by
  obtain ⟨keyword, rest, hcons⟩ := List.exists_cons_of_ne_nil hne
  refine ⟨keyword, rest, hcons, ?_⟩
  unfold placesFrom key
  rw [hcons, List.headD_cons]
  dsimp only
  rw [ScanJob.pages_eq_cons (h.pageNo.2 hpages), List.cons_append]

/-- After a page, the scanner calls for later pages only. -/
theorem Placed.toCall_nextPage (h : s.Placed) (hpages : 1 ≤ s.job.profile.maxPages)
    (hne : s.keywords ≠ []) (n itemCount : Nat) :
    (Scanner.nextPage { s with uniqueProducts := n } itemCount).toCall.Sublist
      s.placesFrom.tail := by
  obtain ⟨keyword, rest, hcons, hplaces⟩ := h.placesFrom_eq_cons hpages hne
  rw [hplaces, List.tail_cons]
  have hkeyword : ∀ reason,
      (Scanner.nextKeyword { s with uniqueProducts := n } reason).toCall.Sublist
        (s.job.pages keyword (s.pageNo + 1) ++
          rest.flatMap fun keyword => s.job.pages keyword 1) := by
    intro reason
    rw [Scanner.nextKeyword, toCall_atQuery, placesFrom_first rfl]
    dsimp only
    rw [hcons, List.tail_cons]
    exact List.sublist_append_right _ _
  unfold Scanner.nextPage
  split
  · exact hkeyword _
  · split
    · exact hkeyword _
    · rw [toCall_atQuery, placesFrom, hcons]

end Scanner

/-! ## The pages called for -/

theorem calledFor_append {new grants : List Grant} {runId : Nat}
    (h : ∀ g ∈ new, g.2.ownerRunId ≠ runId) : calledFor (new ++ grants) runId =
      calledFor grants runId := by
  have hnone : new.filter (fun g => g.2.ownerRunId = runId) = [] := by
    rw [List.filter_eq_nil_iff]
    exact fun g hg => by simpa using h g hg
  unfold calledFor
  rw [List.filter_append, hnone, List.nil_append]

theorem calledFor_grant (s : Scanner) (now : Instant) (token : Nat) (grants : List Grant) :
    calledFor (s.grant now token :: grants) s.runId =
      calledFor grants s.runId ++ [(s.key, s.pageNo)] := by
  unfold calledFor
  rw [List.filter_cons_of_pos (by simp [Scanner.grant]), List.map_cons,
    List.reverse_cons]
  rfl

namespace Scanner

theorem Follows.owner {db : DiscoveryDb} {new : List Grant} (h : Follows columns db s t new) :
    ∀ g ∈ new, g.2.ownerRunId = s.runId := by
  cases h with
  | called now token _ _ _ =>
    intro g hg
    rw [List.mem_singleton.1 hg]
    rfl
  | _ => exact fun g hg => absurd hg List.not_mem_nil

/-- **A scanner that goes on calls for the next page, or leaves it out.** -/
theorem Follows.toCall {db : DiscoveryDb} {new : List Grant} (hplaced : s.Placed)
    (hpages : 1 ≤ s.job.profile.maxPages) (h : Follows columns db s t new) (grants : List Grant) :
    (calledFor (new ++ grants) s.runId ++ t.toCall).Sublist
      (calledFor grants s.runId ++ s.toCall) := by
  -- Where nothing is granted, what the scanner may call for was left of it before.
  have hnone : new = [] → t.toCall.Sublist s.placesFrom.tail →
      (calledFor (new ++ grants) s.runId ++ t.toCall).Sublist
        (calledFor grants s.runId ++ s.toCall) := by
    rintro rfl hsub
    exact (hsub.trans (tail_sublist_toCall s)).append_left _
  have hsame : SamePlace s t → t.phase ≠ .query → t.toCall.Sublist s.placesFrom.tail := by
    intro hsame hphase
    rw [toCall_of_ne_query hphase, placesFrom_same hsame]
  cases h with
  | rests hplace hrest _ =>
    refine hnone rfl (hsame hplace fun hphase => ?_)
    rw [pageKey, hphase] at hrest
    cases hrest
  | turns n itemCount hkey =>
    exact hnone rfl (hplaced.toCall_nextPage hpages (hplaced.atPage _ hkey).2 n itemCount)
  | called now token hphase hplace hcall =>
    have hkey : s.pageKey = some s.key := by rw [pageKey, hphase]
    obtain ⟨keyword, rest, -, hplaces⟩ :=
      hplaced.placesFrom_eq_cons hpages (hplaced.atPage _ hkey).2
    have hs : s.toCall = s.placesFrom := by rw [Scanner.toCall, hphase]
    rw [List.singleton_append, calledFor_grant, hs, List.append_assoc,
      toCall_of_ne_query (by rw [hcall]; exact ScanPhase.noConfusion), placesFrom_same hplace,
      hplaces, List.tail_cons, List.singleton_append]
  | cached row _ hplace _ hreplay =>
    exact hnone rfl (hsame hplace (by rw [hreplay]; exact ScanPhase.noConfusion))
  | answered key token page _ hplace hreceived =>
    exact hnone rfl (hsame hplace (by rw [hreceived]; exact ScanPhase.noConfusion))
  | read key token page operation now _ hplace hread =>
    exact hnone rfl (hsame hplace (by rw [hread]; exact ScanPhase.noConfusion))
  | replayed key page item rest _ hplace hreplay =>
    exact hnone rfl (hsame hplace (by rw [hreplay]; exact ScanPhase.noConfusion))

end Scanner

/-! ## Whole runs -/

/-- A scanner has called for pages of its profile in their order, and goes on so. -/
structure InOrder (grants : List Grant) (s : Scanner) : Prop where
  pages : 1 ≤ s.job.profile.maxPages
  places : (calledFor grants s.runId ++ s.toCall).Sublist s.job.places

theorem inOrder_started {grants : List Grant} {job : ScanJob} {runId : Nat}
    (hpages : 1 ≤ job.profile.maxPages) (hnew : ∀ g ∈ grants, g.2.ownerRunId ≠ runId) :
    InOrder grants (started job runId) where
  pages := hpages
  places := by
    have hnone : calledFor grants runId = [] := by
      rw [← List.append_nil grants]
      exact calledFor_append hnew
    show (calledFor grants runId ++ (started job runId).toCall).Sublist _
    rw [hnone, List.nil_append, Scanner.started, toCall_atQuery, placesFrom_first rfl]
    exact List.Sublist.refl _

/-- Only jobs with pages are started; the profiles that are read have one page at least. -/
def Paged (_ : DiscoveryWorld) (a : ScanAction) : Prop :=
  ∀ i job now, a = .start i job now → 1 ≤ job.profile.maxPages

/-- **Every step keeps the order of the calls.** -/
theorem inOrder_step (hreachable : (discoverySystem columns).Reachable w)
    (h : ∀ i s, w.scanners i = some s → InOrder w.grants s) {a : ScanAction} (ha : Paged w a)
    (hstep : discoveryStep columns w a = some w') :
    ∀ i s, w'.scanners i = some s → InOrder w'.grants s := by
  have horderly := orderly_of_reachable hreachable
  intro j t ht
  obtain ⟨job, now, hstart, -, rfl⟩ | ⟨s, hs, ⟨-, rfl⟩ | ⟨hadvances, -⟩⟩ :=
    advances_of_step hstep
  · rcases scanners_update ht with ⟨-, rfl⟩ | ⟨-, ht⟩
    · refine inOrder_started (ha _ job now hstart) fun g hg => ?_
      obtain ⟨run, hrun⟩ := horderly.ledger.known g hg
      exact ne_createRun_snd hrun
    · exact h j t ht
  · rcases scanners_update ht with ⟨-, rfl⟩ | ⟨-, ht⟩
    · have hin := h _ s hs
      refine ⟨hin.pages, ((tail_sublist_toCall s).append_left _).trans hin.places⟩
    · exact h j t ht
  · obtain ⟨t₀, new, hscanners, hgrants, hfollows⟩ := hadvances
    rw [hscanners] at ht
    rw [hgrants]
    rcases scanners_update ht with ⟨-, rfl⟩ | ⟨hne, ht⟩
    · have hin := h _ s hs
      obtain ⟨hjob, hrunId⟩ := hfollows.sameScan
      refine ⟨hjob ▸ hin.pages, ?_⟩
      rw [hrunId, hjob]
      exact (hfollows.toCall (placed_of_reachable hreachable _ s hs) hin.pages _).trans hin.places
    · have hin := h j t ht
      refine ⟨hin.pages, ?_⟩
      rw [calledFor_append fun g hg => ?_]
      · exact hin.places
      · rw [hfollows.owner g hg]
        exact fun heq => hne (horderly.fleet.distinct _ _ _ _ hs ht heq).symm

/-- **A scan calls for its pages in their order.**  In every run of any number of scanners, the
pages a scanner was granted calls for are, in the order of the calls, some of the pages of its
profile, keyword by keyword and from the first to the last page of each; so each of them is
called for once at most. -/
theorem calls_in_order {w₀ : DiscoveryWorld} (hinit : (discoverySystem columns).init w₀)
    (hrun : (discoverySystem columns).RunUnder Paged w₀ w) (hs : w.scanners i = some s) :
    (calledFor w.grants s.runId).Sublist s.job.places := by
  have hinvariant : (discoverySystem columns).Reachable w ∧
      ∀ i s, w.scanners i = some s → InOrder w.grants s := by
    refine hrun.invariant (P := fun w => (discoverySystem columns).Reachable w ∧
      ∀ i s, w.scanners i = some s → InOrder w.grants s) ⟨⟨w₀, hinit, .refl _⟩, ?_⟩ ?_
    · obtain ⟨clock, rfl⟩ := hinit
      rintro i s hs
      cases hs
    · rintro w a w' ⟨hreachable, h⟩ ha hstep
      exact ⟨hreachable.run ((TransitionSystem.RunUnder.refl w).tail trivial hstep),
        inOrder_step hreachable h ha hstep⟩
  exact (List.sublist_append_left _ _).trans (hinvariant.2 i s hs).places

theorem calls_in_order_contested :
    ∃ s, contested.scanners 0 = some s ∧ calledFor contested.grants s.runId ≠ [] ∧
      (calledFor contested.grants s.runId).Sublist s.job.places := by
  have hrun : (discoverySystem NumericType.halfEven).RunUnder Paged noDiscoveries contested := by
    refine TransitionSystem.runUnder_of_replay (fun a ha _ i job now hstart => ?_)
      (TransitionSystem.replay_endOf _ _ (show ((discoverySystem NumericType.halfEven).replay
        noDiscoveries contention).isSome from by decide +kernel))
    subst hstart
    simp only [contention, List.mem_cons, List.not_mem_nil, or_false, ScanAction.start.injEq,
      reduceCtorEq] at ha
    obtain ⟨-, rfl, -⟩ | ⟨-, rfl, -⟩ := ha <;> decide
  have hcalled : (contested.scanners 0).map (fun s =>
      decide (calledFor contested.grants s.runId ≠ [])) = some true := by decide +kernel
  obtain ⟨s, hs, hcalled⟩ := Option.map_eq_some_iff.1 hcalled
  exact ⟨s, hs, of_decide_eq_true hcalled, calls_in_order ⟨0, rfl⟩ hrun hs⟩

end Discovery
end PromoBot
