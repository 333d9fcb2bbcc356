import PromoBot.Discovery.CacheReplay
import PromoBot.Discovery.Queries
import PromoBot.Discovery.ScanSteps

/-!
# Where a replayed page comes from

The cache is looked up by two fingerprints, and whoever scans the database may have filled it.
What a scanner replays is a page that some scanner of the same run received before, for the
same page of the same query and the same tracking identifier (`replayed_page_was_received`).

Every step keeps the place of a scanner in its loops (`Placed`) and the origin of every cached
page (`Fetched`).

## What a key stands for

A row of the cache has no keyword in it, no categories and no page.  It has a key of two
fingerprints: one of the query, with everything that is asked for in a text of one form, and
one of the tracking identifier.  So two questions meet in this theorem.  One is whether the row
under a key was received for that key at all, which is an invariant of runs: a page is stored
by a scanner which is at the key and has received it there, and nobody else stores
(`Fetched`).  The other is whether the key stands for one query only.  It does as far as the
fingerprints do, and that they do is not assumed: the theorem names the collision, two
different messages of one fingerprint, as the other thing there may be (`Collision`).

## The same query

The categories are sorted before the fingerprint is taken and are sent in the order of the
profile, so two scanners of one key may have asked with the categories in different orders.
That is the one difference `SamePage` allows, and `askedTwice` is a run where it happens.

The page that is replayed is not quite the one that was received: the columns round its
decimals.  The theorem says so, and when it makes no difference is the subject of
`Discovery/CacheReplay`.
-/

namespace PromoBot
namespace Discovery

open DiscoveryRepository Scanner Fallible SqlTable

variable {columns : NumericType} {w w' : DiscoveryWorld} {i : Nat} {s : Scanner}

/-! ## The origin of the pages -/

section Origin

variable (u : PyUnicode) (hmac : Text → Text → Text) (secret : Text)

/-- Scanners are started with the jobs of configured scans, under one secret. -/
def Configured (_ : DiscoveryWorld) (a : ScanAction) : Prop :=
  ∀ i job now, a = .start i job now →
    ∃ c : ScanCall u, c.appSecret = secret ∧ job = c.job hmac

variable (columns) in
/-- The world `v` came before `w` in a run from `w₀`. -/
def Before (w₀ v w : DiscoveryWorld) : Prop :=
  (discoverySystem columns).RunUnder (Configured u hmac secret) w₀ v ∧
    (discoverySystem columns).RunUnder (Configured u hmac secret) v w

/-- A scanner has received a page for the key. -/
def Received (key : QueryKey) (page : DiscoveryPage) (w : DiscoveryWorld) : Prop :=
  ∃ j s token, w.scanners j = some s ∧ s.phase = .received key token page

/-- A scanner has received the page of a row of the cache. -/
def Fetched (key : QueryKey) (row : QueryCache) (w : DiscoveryWorld) : Prop :=
  ∃ page operation now, Received key page w ∧ row = QueryCache.ofPage operation page now

variable (columns) in
/-- A page was received for the key before, and was read back from the cache; the products of
`rest` are its last. -/
def FromCache (w₀ w : DiscoveryWorld) (key : QueryKey) (page : DiscoveryPage)
    (rest : List DiscoveryProduct) : Prop :=
  ∃ v row, Before columns u hmac secret w₀ v w ∧ Fetched key row v ∧ page = row.page columns ∧
    rest <:+ page.products

variable (columns) in
/-- What is known of a scanner in a run from `w₀`. -/
structure ScannerSourced (w₀ w : DiscoveryWorld) (s : Scanner) : Prop where
  job : ∃ c : ScanCall u, c.appSecret = secret ∧ s.job = c.job hmac
  placed : s.Placed
  storing : ∀ key token page operation now, s.phase = .storing key token page operation now →
    ∃ v, Before columns u hmac secret w₀ v w ∧ Received key page v
  replay : ∀ key page rest, s.phase = .replay key page rest →
    FromCache columns u hmac secret w₀ w key page rest

variable (columns) in
/-- What is known of a world of a run from `w₀`. -/
structure Sourced (w₀ w : DiscoveryWorld) : Prop where
  run : (discoverySystem columns).RunUnder (Configured u hmac secret) w₀ w
  fetched : ∀ key row, w.db.cache.get? key = some row →
    ∃ v, Before columns u hmac secret w₀ v w ∧ Fetched key row v
  scanner : ∀ i s, w.scanners i = some s → ScannerSourced columns u hmac secret w₀ w s

variable {u hmac secret} {w₀ : DiscoveryWorld}

theorem sourced_init (h : (discoverySystem columns).init w₀) :
    Sourced columns u hmac secret w₀ w₀ := by
  obtain ⟨clock, rfl⟩ := h
  refine ⟨.refl _, fun key row hrow => ?_, fun i s hs => ?_⟩
  · exact absurd hrow (by simp [noDiscoveries])
  · exact absurd hs (by simp [noDiscoveries])

theorem scannerSourced_started {c : ScanCall u} (hc : c.appSecret = secret) (runId : Nat) :
    ScannerSourced columns u hmac secret w₀ w (started (c.job hmac) runId) where
  job := ⟨c, hc, rfl⟩
  placed := placed_started _ runId
  storing := by
    intro key token page operation now hphase
    rcases phase_atQuery _ with h | ⟨_, h⟩ <;> cases h.symm.trans hphase
  replay := by
    intro key page rest hphase
    rcases phase_atQuery _ with h | ⟨_, h⟩ <;> cases h.symm.trans hphase

/-- The page a scanner stores next is one it has received. -/
theorem Sourced.storing (h : Sourced columns u hmac secret w₀ w) {t : Scanner}
    {new : List Grant} (hs : w.scanners i = some s) (hfollows : Follows columns w.db s t new)
    {key : QueryKey} {token : Nat} {page : DiscoveryPage} {operation : DiscoveryOperation}
    {now : Instant} (ht : t.phase = .storing key token page operation now) :
    ∃ v, Before columns u hmac secret w₀ v w ∧ Received key page v := by
  cases hfollows with
  | rests _ hrest _ =>
    rw [pageKey, ht] at hrest
    cases hrest
  | turns n itemCount _ =>
    rcases phase_nextPage _ itemCount with h | ⟨_, h⟩ <;> cases h.symm.trans ht
  | read key' token' page' operation' now' hphase _ hread =>
    rw [hread] at ht
    obtain ⟨rfl, rfl, rfl, -, -⟩ := ScanPhase.storing.inj ht
    exact ⟨w, ⟨h.run, .refl w⟩, i, s, token', hs, hphase⟩
  | called _ _ _ _ hphase | cached _ _ _ _ hphase | answered _ _ _ _ _ hphase
  | replayed _ _ _ _ _ _ hphase =>
    rw [hphase] at ht
    cases ht

/-- The replay of a scanner goes on, or begins with what is cached. -/
theorem Sourced.replay (h : Sourced columns u hmac secret w₀ w) {t : Scanner}
    {new : List Grant} (hs : w.scanners i = some s) (hfollows : Follows columns w.db s t new)
    {key : QueryKey} {page : DiscoveryPage} {rest : List DiscoveryProduct}
    (ht : t.phase = .replay key page rest) :
    FromCache columns u hmac secret w₀ w key page rest := by
  cases hfollows with
  | rests _ hrest _ =>
    rw [pageKey, ht] at hrest
    cases hrest
  | turns n itemCount _ =>
    rcases phase_nextPage _ itemCount with h | ⟨_, h⟩ <;> cases h.symm.trans ht
  | called now token _ _ hcall =>
    rw [hcall] at ht
    cases ht
  | cached row hphase hsame hrow hreplay =>
    rw [hreplay] at ht
    obtain ⟨rfl, rfl, rfl⟩ := ScanPhase.replay.inj ht
    obtain ⟨v, hv, hfetched⟩ := h.fetched _ _ hrow
    exact ⟨v, row, hv, hfetched, rfl, List.suffix_refl _⟩
  | answered _ _ _ _ _ hphase | read _ _ _ _ _ _ _ hphase =>
    rw [hphase] at ht
    cases ht
  | replayed key' page' item rest' hphase _ hreplay =>
    rw [hreplay] at ht
    obtain ⟨rfl, rfl, rfl⟩ := ScanPhase.replay.inj ht
    obtain ⟨v, row, hv, hfetched, hpage, hrest⟩ := (h.scanner i s hs).replay _ _ _ hphase
    exact ⟨v, row, hv, hfetched, hpage, (List.suffix_cons item _).trans hrest⟩

theorem Sourced.follows (h : Sourced columns u hmac secret w₀ w) {t : Scanner}
    {new : List Grant} (hs : w.scanners i = some s) (hfollows : Follows columns w.db s t new) :
    ScannerSourced columns u hmac secret w₀ w t where
  job := hfollows.sameScan.1 ▸ (h.scanner i s hs).job
  placed := (h.scanner i s hs).placed.follows hfollows
  storing := fun _ _ _ _ _ ht => h.storing hs hfollows ht
  replay := fun _ _ _ ht => h.replay hs hfollows ht

theorem ScannerSourced.gone (h : ScannerSourced columns u hmac secret w₀ w s) :
    ScannerSourced columns u hmac secret w₀ w s.gone where
  job := h.job
  placed := h.placed.gone
  storing := fun _ _ _ _ _ hphase => absurd hphase (by simp [Scanner.gone])
  replay := fun _ _ _ hphase => absurd hphase (by simp [Scanner.gone])

/-- What is known stays known. -/
theorem ScannerSourced.later (h : ScannerSourced columns u hmac secret w₀ w s) {a : ScanAction}
    (ha : Configured u hmac secret w a) (hstep : discoveryStep columns w a = some w') :
    ScannerSourced columns u hmac secret w₀ w' s where
  job := h.job
  placed := h.placed
  storing := by
    intro key token page operation now hphase
    obtain ⟨v, hv, hreceived⟩ := h.storing key token page operation now hphase
    exact ⟨v, ⟨hv.1, hv.2.tail ha hstep⟩, hreceived⟩
  replay := by
    intro key page rest hphase
    obtain ⟨v, row, hv, hfetched⟩ := h.replay key page rest hphase
    exact ⟨v, row, ⟨hv.1, hv.2.tail ha hstep⟩, hfetched⟩

/-- **A step keeps the origin of every page.** -/
theorem Sourced.step (h : Sourced columns u hmac secret w₀ w) {a : ScanAction}
    (ha : Configured u hmac secret w a) (hstep : discoveryStep columns w a = some w') :
    Sourced columns u hmac secret w₀ w' := by
  -- In either case one scanner is new, and what is newly cached was received before.
  obtain ⟨t₀, hscanners, ht₀, hcache⟩ : ∃ t₀,
      w'.scanners = Function.update w.scanners a.scanner (some t₀) ∧
      ScannerSourced columns u hmac secret w₀ w t₀ ∧
      ∀ key row, w'.db.cache.get? key = some row →
        w.db.cache.get? key = some row ∨
          ∃ v, Before columns u hmac secret w₀ v w ∧ Fetched key row v := by
    obtain ⟨job, now, hstart, -, rfl⟩ | ⟨s, hs, ⟨-, rfl⟩ | ⟨hadvances, hcache⟩⟩ :=
      advances_of_step hstep
    · obtain ⟨c, hc, rfl⟩ := ha _ job now hstart
      exact ⟨_, rfl, scannerSourced_started hc _, fun key row hrow => .inl hrow⟩
    · exact ⟨_, rfl, (h.scanner _ s hs).gone, fun key row hrow => .inl hrow⟩
    · obtain ⟨t₀, new, hscanners, -, hfollows⟩ := hadvances
      refine ⟨t₀, hscanners, h.follows hs hfollows, fun key row hrow => ?_⟩
      rcases hcache key row hrow with hrow | ⟨token, page, operation, now, hphase, rfl⟩
      · exact .inl hrow
      · obtain ⟨v, hv, hreceived⟩ := (h.scanner _ s hs).storing _ _ _ _ _ hphase
        exact .inr ⟨v, hv, page, operation, now, hreceived, rfl⟩
  refine ⟨h.run.tail ha hstep, fun key row hrow => ?_, fun j t ht => ?_⟩
  · obtain ⟨v, hv, hfetched⟩ := (hcache key row hrow).elim (h.fetched key row) id
    exact ⟨v, ⟨hv.1, hv.2.tail ha hstep⟩, hfetched⟩
  · rw [hscanners] at ht
    rcases scanners_update ht with ⟨-, rfl⟩ | ⟨-, ht⟩
    · exact ht₀.later ha hstep
    · exact (h.scanner j t ht).later ha hstep

theorem sourced_of_run (hinit : (discoverySystem columns).init w₀)
    (h : (discoverySystem columns).RunUnder (Configured u hmac secret) w₀ w) :
    Sourced columns u hmac secret w₀ w :=
  h.invariant (sourced_init hinit) fun _ _ _ hsourced ha hstep => hsourced.step ha hstep

end Origin

/-! ## What is replayed -/

/-- The scanner is at a page of a configured scan, which is asked for under the key. -/
structure AtPage {u : PyUnicode} (hmac : Text → Text → Text) (s : Scanner) (key : QueryKey)
    (c : ScanCall u) (keyword : Text) (pageNo : Nat) : Prop where
  job : s.job = c.job hmac
  key : key = c.key hmac keyword pageNo
  keyword : keyword ∈ c.profile.entry.keywords
  pageNo : 1 ≤ pageNo ∧ (pageNo : Int) ≤ c.profile.entry.maxPages

section Replays

variable {u : PyUnicode} {hmac : Text → Text → Text} {secret : Text} {w₀ : DiscoveryWorld}

/-- Where a scanner works at a key, it is at the page the key is of. -/
theorem ScannerSourced.atPage (h : ScannerSourced columns u hmac secret w₀ w s) {key : QueryKey}
    (hkey : s.pageKey = some key) :
    ∃ (c : ScanCall u) (keyword : Text) (pageNo : Nat), c.appSecret = secret ∧
      AtPage hmac s key c keyword pageNo := by
  obtain ⟨c, hc, hjob⟩ := h.job
  obtain ⟨rfl, hne⟩ := h.placed.atPage key hkey
  obtain ⟨keyword, rest, hkeywords⟩ := List.exists_cons_of_ne_nil hne
  have hsuffix := h.placed.keywords
  have hpage := h.placed.pageNo
  rw [hjob] at hsuffix hpage
  refine ⟨c, keyword, s.pageNo, hc, hjob, ?_, ?_, hpage.1, ?_⟩
  · rw [Scanner.key, hjob, hkeywords]
    rfl
  · exact hsuffix.subset (hkeywords ▸ List.mem_cons_self)
  · obtain ⟨-, -, ⟨-, -, hmaxPages, -⟩, -⟩ := c.profile.valid
    have hle : s.pageNo ≤ c.profile.entry.maxPages.toNat := hpage.2 (by
      show 1 ≤ c.profile.entry.maxPages.toNat
      omega)
    omega

/-- **A replayed page was received before, for the same query.**  In every run of configured
scans of one secret, whatever a scanner replays at a page of a keyword was received, earlier in
the run and before it was rounded by the cache, by a scanner at the same page of the same
query --- the order of the categories apart --- for the same tracking identifier, unless HMAC
collides on just these messages. -/
theorem replayed_page_was_received (hinit : (discoverySystem columns).init w₀)
    (hrun : (discoverySystem columns).RunUnder (Configured u hmac secret) w₀ w)
    (hs : w.scanners i = some s) {key : QueryKey} {page : DiscoveryPage}
    {rest : List DiscoveryProduct} (hphase : s.phase = .replay key page rest) :
    ∃ (c : ScanCall u) (keyword : Text) (pageNo : Nat), AtPage hmac s key c keyword pageNo ∧
      ∃ v, Before columns u hmac secret w₀ v w ∧ ∃ j s' token received operation now,
        v.scanners j = some s' ∧ s'.phase = .received key token received ∧
        page = (QueryCache.ofPage operation received now).page columns ∧ rest <:+ page.products ∧
        ∃ (c' : ScanCall u) (keyword' : Text) (pageNo' : Nat),
          AtPage hmac s' key c' keyword' pageNo' ∧
          ((c.query keyword pageNo).SamePage (c'.query keyword' pageNo') ∨
            Collision hmac secret "aliexpress-discovery-query-v1".toList
              (c.query keyword pageNo).message (c'.query keyword' pageNo').message) ∧
          (c.trackingId = c'.trackingId ∨
            Collision hmac secret "aliexpress-discovery-tracking-v1".toList c.trackingId
              c'.trackingId) := by
  have hscanner := (sourced_of_run hinit hrun).scanner i s hs
  obtain ⟨c, keyword, pageNo, hc, hat⟩ := hscanner.atPage (by rw [pageKey, hphase])
  obtain ⟨v, row, hv, hfetched, rfl, hrest⟩ := hscanner.replay _ _ _ hphase
  obtain ⟨received, operation, now, ⟨j, s', token, hs', hphase'⟩, rfl⟩ := hfetched
  have hscanner' := (sourced_of_run hinit hv.1).scanner j s' hs'
  obtain ⟨c', keyword', pageNo', hc', hat'⟩ := hscanner'.atPage (by rw [pageKey, hphase'])
  have hquery := (ScanCall.key_eq_iff (hc.trans hc'.symm)).1 (hat.key.symm.trans hat'.key)
  rw [hc] at hquery
  exact ⟨c, keyword, pageNo, hat, v, hv, j, s', token, received, operation, now, hs', hphase',
    rfl, hrest, c', keyword', pageNo', hat', hquery⟩

end Replays

/-! ## Two orders of the categories -/

/-- The page a scanner replays. -/
def Scanner.replaying (s : Scanner) : Option (QueryKey × DiscoveryPage × List DiscoveryProduct) :=
  match s.phase with
  | .replay key page rest => some (key, page, rest)
  | _ => none

theorem Scanner.phase_of_replaying {s : Scanner} {key : QueryKey} {page : DiscoveryPage}
    {rest : List DiscoveryProduct} (h : s.replaying = some (key, page, rest)) :
    s.phase = .replay key page rest := by
  unfold replaying at h
  split at h
  · next hphase =>
    rw [hphase]
    cases h
    rfl
  · cases h

/-- An HMAC that shows its message. -/
def shownHmac (key message : Text) : Text :=
  ((message ++ '/' :: key) ++ List.replicate 64 '0').take 64

theorem valid_sevenFirst : ({ onePageEntry.cleaned with
    categoryIds := ["7".toList, "44".toList] }).Valid .utf8Reader := by
  decide +kernel

theorem valid_fortyFourFirst : ({ onePageEntry.cleaned with
    categoryIds := ["44".toList, "7".toList] }).Valid .utf8Reader := by
  decide +kernel

/-- One scanner receives a page, and then another one asks for it, with the categories the other
way round. -/
def askedTwice : List ScanAction :=
  [.start 0 ((onePageCall ["7".toList, "44".toList] valid_sevenFirst).job shownHmac) 0,
    .proceed 0 1 fun _ => 1, .answer 0 (.page (onePricePage "9.99".toList)),
    .proceed 0 2 fun _ => 2, .proceed 0 2 fun _ => 2,
    .start 1 ((onePageCall ["44".toList, "7".toList] valid_fortyFourFirst).job shownHmac) 3,
    .proceed 1 4 fun _ => 4]

theorem mem_askedTwice {i : Nat} {job : ScanJob} {now : Instant}
    (h : .start i job now ∈ askedTwice) :
    job = (onePageCall ["7".toList, "44".toList] valid_sevenFirst).job shownHmac ∨
      job = (onePageCall ["44".toList, "7".toList] valid_fortyFourFirst).job shownHmac := by
  simp only [askedTwice, List.mem_cons, List.not_mem_nil, or_false, ScanAction.start.injEq,
    reduceCtorEq, false_or] at h
  exact h.imp (fun h => h.2.1) fun h => h.2.1

theorem replayed_page_was_received_askedTwice :
    let w := (discoverySystem NumericType.halfEven).endOf noDiscoveries askedTwice
    ∃ s replay, w.scanners 1 = some s ∧ s.replaying = some replay ∧
      ∃ v, Before NumericType.halfEven .utf8Reader shownHmac "s".toList noDiscoveries v w ∧
        ∃ j s' token received operation now, v.scanners j = some s' ∧
          s'.phase = .received replay.1 token received ∧
          replay.2.1 = (QueryCache.ofPage operation received now).page NumericType.halfEven := by
  intro w
  have hreplays : ((discoverySystem NumericType.halfEven).replay noDiscoveries
      askedTwice).isSome = true := by decide +kernel
  have hrun : (discoverySystem NumericType.halfEven).RunUnder
      (Configured .utf8Reader shownHmac "s".toList) noDiscoveries w := by
    refine TransitionSystem.runUnder_of_replay (fun a ha _ i job now hstart => ?_)
      (TransitionSystem.replay_endOf _ _ hreplays)
    subst hstart
    rcases mem_askedTwice ha with rfl | rfl
    · exact ⟨_, rfl, rfl⟩
    · exact ⟨_, rfl, rfl⟩
  have hfound : ((w.scanners 1).bind Scanner.replaying).isSome = true := by decide +kernel
  obtain ⟨replay, hreplay⟩ := Option.isSome_iff_exists.1 hfound
  obtain ⟨s, hs, hreplay⟩ := Option.bind_eq_some_iff.1 hreplay
  obtain ⟨-, -, -, -, v, hv, j, s', token, received, operation, now, hs', hphase, hpage, -⟩ :=
    replayed_page_was_received ⟨0, rfl⟩ hrun hs
      (Scanner.phase_of_replaying hreplay)
  exact ⟨s, replay, hs, hreplay, v, hv, j, s', token, received, operation, now, hs', hphase, hpage⟩

end Discovery
end PromoBot
