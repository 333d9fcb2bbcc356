import PromoBot.Discovery.ScanSteps
import PromoBot.Lib.Progress

/-!
# How far a scan gets

Whatever the other scanners do, and whatever the gateway answers, every step of a scanner
brings it nearer to its end: it is in a later keyword, or at a later page of the keyword, or
nearer to the end of the page, or nearer to the end of the cached products of the page.  So a
scanner that has its turn again and again comes to the end of its scan (`scan_ends`).

## Why it needs a proof

A scanner waits for nothing but the gateway, and it never tries a page twice.  That is not
written down anywhere: a page whose claim is held by another run, a call that fails, a page
that came back empty and a page that was cached are handled in different places, and each of
them has to go on to something later.  One that did not would make a scan that never ends, and
keep its run from ever being finished.

## The measure

`left` counts what is to come in four numbers, compared lexicographically: the keywords, the
pages of the keyword, the phases of the page, and the cached products still to be recorded.
Each kind of step lowers one of them and leaves those before it alone (`Follows.left_lt`). A
replay may be long, a page of products may bring a scanner to the end of a keyword before its
last page, and neither matters to the order.  The other scanners do not matter because no step
changes a scanner but its own (`nearerEnd_of_step`).

From the measure to the end is `Lib.Progress`: in an infinite run in which a lexicographic
measure never goes up, and goes down at every turn, there are only finitely many turns.  The
hypothesis of `scan_ends` is fairness, and only for the one scanner.  Waiting for the answer of
the gateway is not a turn; the answer is.
-/

namespace PromoBot
namespace Discovery

open DiscoveryRepository Scanner SqlTable

variable {columns : NumericType} {w w' : DiscoveryWorld} {i : Nat} {s t : Scanner}

/-! ## Every scanner is placed -/

/-- In every state that is reached, a scanner is where its loops can be. -/
theorem placed_of_reachable (h : (discoverySystem columns).Reachable w) :
    ∀ i s, w.scanners i = some s → s.Placed := by
  refine h.invariant (P := fun w => ∀ i s, w.scanners i = some s → s.Placed) ?_ ?_
  · rintro w ⟨clock, rfl⟩ i s hs
    cases hs
  · intro w a w' hplaced hstep j t ht
    obtain ⟨job, now, -, -, rfl⟩ | ⟨s, hs, ⟨-, rfl⟩ | ⟨⟨t₀, new, hscanners, -, hfollows⟩, -⟩⟩ :=
      advances_of_step hstep
    · rcases scanners_update ht with ⟨-, rfl⟩ | ⟨-, ht⟩
      · exact placed_started _ _
      · exact hplaced j t ht
    · rcases scanners_update ht with ⟨-, rfl⟩ | ⟨-, ht⟩
      · exact (hplaced _ s hs).gone
      · exact hplaced j t ht
    · rw [hscanners] at ht
      rcases scanners_update ht with ⟨-, rfl⟩ | ⟨-, ht⟩
      · exact (hplaced _ s hs).follows hfollows
      · exact hplaced j t ht

/-! ## What is left of a scan -/

namespace Scanner

/-- How many cached products are still to be recorded. -/
def unrecorded (s : Scanner) : Nat :=
  match s.phase with
  | .replay _ _ rest => rest.length
  | _ => 0

/-- What is left of a scan: keywords, pages of the keyword, phases of the page, and cached
products of it. -/
def left (s : Scanner) : Nat ×ₗ Nat ×ₗ Nat ×ₗ Nat :=
  toLex (s.keywords.length, toLex (s.job.profile.maxPages - s.pageNo,
    toLex (s.rank, s.unrecorded)))

theorem left_lt_of_rank (hsame : SamePlace s t) (h : t.rank < s.rank) : t.left < s.left := by
  unfold left
  rw [hsame.keywords, hsame.job, hsame.pageNo]
  simp [Prod.Lex.toLex_lt_toLex, h]

theorem left_lt_of_unrecorded (hsame : SamePlace s t) (hrank : t.rank = s.rank)
    (h : t.unrecorded < s.unrecorded) : t.left < s.left := by
  unfold left
  rw [hsame.keywords, hsame.job, hsame.pageNo, hrank]
  simp [Prod.Lex.toLex_lt_toLex, h]

theorem left_lt_of_keywords (h : t.keywords.length < s.keywords.length) : t.left < s.left := by
  simp [left, Prod.Lex.toLex_lt_toLex, h]

theorem left_lt_of_pageNo (hjob : t.job = s.job) (hkeywords : t.keywords = s.keywords)
    (hlt : s.pageNo < s.job.profile.maxPages) (h : s.pageNo < t.pageNo) : t.left < s.left := by
  have hpages : t.job.profile.maxPages - t.pageNo < s.job.profile.maxPages - s.pageNo := by
    rw [hjob]
    omega
  simp [left, Prod.Lex.toLex_lt_toLex, hkeywords, hpages]

/-- The next page is at a later place. -/
theorem left_nextPage_lt (hne : s.keywords ≠ []) (n itemCount : Nat) :
    (Scanner.nextPage { s with uniqueProducts := n } itemCount).left < s.left := by
  have hkeyword : ∀ reason,
      (Scanner.nextKeyword { s with uniqueProducts := n } reason).left < s.left := by
    intro reason
    refine left_lt_of_keywords ?_
    show s.keywords.tail.length < s.keywords.length
    rw [List.length_tail]
    exact Nat.sub_one_lt (mt List.length_eq_zero_iff.1 hne)
  unfold Scanner.nextPage
  split
  · exact hkeyword _
  · split
    · exact hkeyword _
    · next hlt => exact left_lt_of_pageNo rfl rfl (Nat.lt_of_not_le hlt) (Nat.lt_succ_self s.pageNo)

/-- **A scanner that goes on is nearer to its end.** -/
theorem Follows.left_lt {db : DiscoveryDb} {new : List Grant} (hplaced : s.Placed)
    (h : Follows columns db s t new) : t.left < s.left := by
  cases h with
  | rests hsame _ hrank => exact left_lt_of_rank hsame hrank
  | turns n itemCount hkey => exact left_nextPage_lt (hplaced.atPage _ hkey).2 n itemCount
  | called now token hphase hsame hcall =>
    refine left_lt_of_rank hsame ?_
    simp [rank, hphase, hcall]
  | cached row hphase hsame _ hreplay =>
    refine left_lt_of_rank hsame ?_
    simp [rank, hphase, hreplay]
  | answered key token page hphase hsame hreceived =>
    refine left_lt_of_rank hsame ?_
    simp [rank, hphase, hreceived]
  | read key token page operation now hphase hsame hread =>
    refine left_lt_of_rank hsame ?_
    simp [rank, hphase, hread]
  | replayed key page item rest hphase hsame hreplay =>
    refine left_lt_of_unrecorded hsame ?_ ?_
    · simp [rank, hphase, hreplay]
    · simp [unrecorded, hphase, hreplay]

theorem rank_pos (h : s.phase ≠ .done) : 0 < s.rank := by
  unfold rank
  split
  all_goals first | omega | contradiction

theorem left_gone_lt (h : s.phase ≠ .done) : s.gone.left < s.left :=
  left_lt_of_rank ⟨rfl, rfl, rfl, rfl⟩ (rank_pos h)

theorem gone_of_done (h : s.phase = .done) : s.gone = s := by
  cases s
  obtain rfl := h
  rfl

end Scanner

/-! ## The end of a scan -/

/-- What a step makes of the scanner `i`, which has its turn in it or not. -/
structure NearerEnd (s s' : Scanner) (turn : Prop) : Prop where
  runId : s'.runId = s.runId
  left_le : s'.left ≤ s.left
  left_lt : turn → s.phase ≠ .done → s'.left < s.left

theorem nearerEnd_refl (s : Scanner) {turn : Prop} (h : ¬ turn) : NearerEnd s s turn :=
  ⟨rfl, le_refl _, fun hturn => absurd hturn h⟩

theorem nearerEnd_gone (s : Scanner) (turn : Prop) : NearerEnd s s.gone turn := by
  by_cases hdone : s.phase = .done
  · rw [gone_of_done hdone]
    exact ⟨rfl, le_refl _, fun _ h => absurd hdone h⟩
  · exact ⟨rfl, (left_gone_lt hdone).le, fun _ _ => left_gone_lt hdone⟩

theorem scanners_of_other {a : ScanAction} (hstep : discoveryStep columns w a = some w')
    (h : a.scanner ≠ i) : w'.scanners i = w.scanners i := by
  obtain ⟨job, now, -, -, rfl⟩ | ⟨s, hs, ⟨-, rfl⟩ | ⟨⟨t, new, hscanners, -, -⟩, -⟩⟩ :=
    advances_of_step hstep
  · exact Function.update_of_ne (Ne.symm h) ..
  · exact Function.update_of_ne (Ne.symm h) ..
  · rw [hscanners]
    exact Function.update_of_ne (Ne.symm h) ..

/-- **A step brings a scanner nearer to its end, or leaves it alone.** -/
theorem nearerEnd_of_step (hplaced : ∀ i s, w.scanners i = some s → s.Placed) {a : ScanAction}
    (hstep : discoveryStep columns w a = some w') (hs : w.scanners i = some s) :
    ∃ s', w'.scanners i = some s' ∧ NearerEnd s s' (a.scanner = i) := by
  by_cases hi : a.scanner = i
  · subst hi
    obtain ⟨job, now, -, hnone, rfl⟩ | ⟨s₀, hs₀, h⟩ := advances_of_step hstep
    · rw [hnone] at hs
      cases hs
    · obtain rfl := Option.some.inj (hs.symm.trans hs₀)
      rcases h with ⟨-, rfl⟩ | ⟨⟨t, new, hscanners, -, hfollows⟩, -⟩
      · exact ⟨s.gone, Function.update_self .., nearerEnd_gone s _⟩
      · have hlt := hfollows.left_lt (hplaced _ s hs)
        refine ⟨t, ?_, hfollows.sameScan.2, hlt.le, fun _ _ => hlt⟩
        rw [hscanners]
        exact Function.update_self ..
  · exact ⟨s, (scanners_of_other hstep hi).trans hs, nearerEnd_refl s hi⟩

section Endings

variable (r : (discoverySystem columns).InfiniteRun)

/-- What is left of the scanner `i`, where there is one. -/
def leftOf (i : Nat) (w : DiscoveryWorld) : Nat ×ₗ Nat ×ₗ Nat ×ₗ Nat :=
  (w.scanners i).elim (toLex (0, toLex (0, toLex (0, 0)))) left

theorem leftOf_eq (h : w.scanners i = some s) : leftOf i w = s.left := by
  rw [leftOf, h, Option.elim_some]

/-- The scanner `i` has its turn, and is not done. -/
def HasTurn (i : Nat) (w : DiscoveryWorld) (a : ScanAction) : Prop :=
  a.scanner = i ∧ ∃ s, w.scanners i = some s ∧ s.phase ≠ .done

theorem stays (hinit : (discoverySystem columns).init (r.state 0)) {n : Nat}
    (hs : (r.state n).scanners i = some s) {k : Nat} (hk : n ≤ k) :
    ∃ s', (r.state k).scanners i = some s' ∧ s'.runId = s.runId := by
  refine r.always (P := fun w => ∃ s', w.scanners i = some s' ∧ s'.runId = s.runId) ⟨s, hs, rfl⟩
    ?_ hk
  rintro k - ⟨s', hs', hrunId⟩
  obtain ⟨s'', hs'', hnearer⟩ :=
    nearerEnd_of_step (placed_of_reachable (r.reachable hinit k)) (r.step k) hs'
  exact ⟨s'', hs'', hnearer.runId.trans hrunId⟩

/-- A scanner comes to rest. -/
theorem scanner_rests (hinit : (discoverySystem columns).init (r.state 0)) {n : Nat}
    (hs : (r.state n).scanners i = some s) :
    ∃ N, ∀ k, N ≤ k → ¬ HasTurn i (r.state k) (r.action k) := by
  have hnearer : ∀ k, n ≤ k → ∃ s s', (r.state k).scanners i = some s ∧
      leftOf i (r.state k) = s.left ∧ leftOf i (r.state (k + 1)) = s'.left ∧
      NearerEnd s s' ((r.action k).scanner = i) := by
    intro k hk
    obtain ⟨s₁, hs₁, -⟩ := stays r hinit hs hk
    obtain ⟨s₂, hs₂, hnearer⟩ :=
      nearerEnd_of_step (placed_of_reachable (r.reachable hinit k)) (r.step k) hs₁
    exact ⟨s₁, s₂, hs₁, leftOf_eq hs₁, leftOf_eq hs₂, hnearer⟩
  refine r.rests (leftOf i) n (fun k hk => ?_) fun k hk => ?_
  · obtain ⟨s₁, s₂, -, hleft, hleft', hnearer⟩ := hnearer k hk
    rw [hleft, hleft']
    exact hnearer.left_le
  · rintro ⟨hturn, s₀, hs₀, hphase⟩
    obtain ⟨s₁, s₂, hs₁, hleft, hleft', hnearer⟩ := hnearer k hk
    obtain rfl := Option.some.inj (hs₀.symm.trans hs₁)
    rw [hleft, hleft']
    exact hnearer.left_lt hturn hphase

/-- **A scan ends.**  In an infinite run of any number of scanners, a scanner that has its turn
again and again as long as it is not done --- the answer of the gateway it waits for being such
a turn --- is done from some time on, and stays the scanner of its run. -/
theorem scan_ends (hinit : (discoverySystem columns).init (r.state 0)) {n : Nat}
    (hs : (r.state n).scanners i = some s)
    (hturns : ∀ k s', (r.state k).scanners i = some s' → s'.phase ≠ .done →
      ∃ m, k ≤ m ∧ (r.action m).scanner = i) :
    ∃ N, ∀ k, N ≤ k → ∃ s', (r.state k).scanners i = some s' ∧ s'.runId = s.runId ∧
      s'.phase = .done := by
  obtain ⟨N, hN⟩ := scanner_rests r hinit hs
  refine ⟨max N n, fun k hk => ?_⟩
  obtain ⟨s', hs', hrunId⟩ := stays r hinit hs (le_of_max_le_right hk)
  refine ⟨s', hs', hrunId, ?_⟩
  by_contra hphase
  -- As it has no turn any more, it would be left alone for ever, which it is not.
  have hother : ∀ j, k ≤ j → (r.state j).scanners i = some s' → (r.action j).scanner ≠ i :=
    fun j hj hs hturn => hN j ((le_of_max_le_left hk).trans hj) ⟨hturn, s', hs, hphase⟩
  have halone : ∀ j, k ≤ j → (r.state j).scanners i = some s' := by
    intro j hj
    induction j, hj using Nat.le_induction with
    | base => exact hs'
    | succ j hj ih => exact (scanners_of_other (r.step j) (hother j hj ih)).trans ih
  obtain ⟨m, hm, hturn⟩ := hturns k s' hs' hphase
  exact hother m hm (halone m hm) hturn

/-- A scanner whose gateway fails, and what is done when nothing is left to do. -/
def gatewayFails : List ScanAction :=
  [.start 0 smallJob 0, .proceed 0 1 fun _ => 1,
    .answer 0 (.providerError "ALIEXPRESS_RETRY_EXHAUSTED" false), .proceed 0 2 fun _ => 2]

/-- Where that leads. -/
def gatewayFailed : DiscoveryWorld :=
  (discoverySystem NumericType.halfEven).endOf noDiscoveries gatewayFails

theorem scan_ends_gatewayFails :
    ∃ r : (discoverySystem NumericType.halfEven).InfiniteRun, r.state 0 = noDiscoveries ∧
      r.state gatewayFails.length = gatewayFailed ∧
      ∃ N, ∀ k, N ≤ k → ∃ s, (r.state k).scanners 0 = some s ∧ s.phase = .done := by
  have hreplay : (discoverySystem NumericType.halfEven).replay noDiscoveries gatewayFails =
      some gatewayFailed :=
    TransitionSystem.replay_endOf _ _ (by decide +kernel)
  have hdone : (gatewayFailed.scanners 0).map Scanner.rank = some 0 := by decide +kernel
  obtain ⟨s, hs, hrank⟩ := Option.map_eq_some_iff.1 hdone
  have hphase : s.phase = .done := by
    by_contra h
    exact absurd hrank (rank_pos h).ne'
  have hstill : (discoverySystem NumericType.halfEven).step gatewayFailed (.die 0) =
      some gatewayFailed := by
    show (gatewayFailed.scanners 0).map (fun s => gatewayFailed.setScanner 0 s.gone) = _
    rw [hs, Option.map_some, gone_of_done hphase, DiscoveryWorld.setScanner, ← hs,
      Function.update_eq_self]
  obtain ⟨r, hr, hlength, haction⟩ := TransitionSystem.InfiniteRun.exists_before
    (TransitionSystem.InfiniteRun.still hstill) hreplay
  have hscanner : ∀ n, (r.action n).scanner = 0 := by
    intro n
    rcases haction n with hmem | ⟨m, hm⟩
    · revert hmem
      generalize r.action n = a
      simp only [gatewayFails, List.mem_cons, List.not_mem_nil, or_false]
      rintro (rfl | rfl | rfl | rfl) <;> rfl
    · rw [hm]
      rfl
  have hs' : (r.state gatewayFails.length).scanners 0 = some s := by
    rw [hlength]
    exact hs
  obtain ⟨N, hN⟩ := scan_ends r (hr ▸ ⟨0, rfl⟩) hs' fun k _ _ _ => ⟨k, le_refl k, hscanner k⟩
  refine ⟨r, hr, hlength, N, fun k hk => ?_⟩
  obtain ⟨s', hs', -, hphase'⟩ := hN k hk
  exact ⟨s', hs', hphase'⟩

end Endings

end Discovery
end PromoBot
