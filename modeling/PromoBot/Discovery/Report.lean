import Mathlib.Data.List.Sort
import Mathlib.Data.Prod.Lex
import PromoBot.Discovery.Accounting
import PromoBot.Discovery.CacheReplay
import PromoBot.Discovery.ScanSteps

/-!
# The report on a run

`read_discovery_results` (`discovery/runtime.py`) reports a run, and lists its products with
the highest score first.  It raises on a product whose identifier is no positive number, so one
such row would take the whole report away: no row is one, as long as the gateway answers with
pages the parser has read (`Identified`).

The run and its products are read by two statements, each in a transaction of its own, so a
scanner may record products in between.  The counters of the report are those of the first
reading and its products those of the second (`discoveryReport_faithful`).

## An error far from its cause

The address of a product is made of its identifier when the report is written, by a function
which refuses what is no number.  The identifier was read long before, by a parser, and came
into the table by way of a scanner, or by way of the cache and another scanner.  None of these
checks it again.  So that the report is there at all is an invariant of whole runs: what is
listed, what is cached and what a scanner has at hand are identifiers the parser has let pass
(`Identified.step`).  It is kept because recording lists what was at hand
(`listed_of_proceed`), storing caches what was received, and replaying has at hand what was
cached.

## Two readings

`w` is the state at the first statement and `w'` that at the second, with any steps between
them.  A discovery run only grows in these: it loses no product, its counter goes up with its
rows, and its maximum stays (`RunsGrow`).  So no fewer products are listed than are counted,
and no more than the run may have; and the two numbers agree where nothing happened in between,
by the accounts of `Discovery/Accounting`.

The order is part of the answer: the highest score first, and among products of one score the
order of their identifiers as texts.
-/

namespace PromoBot

open Fallible

/-! ## Identifiers -/

namespace DiscoveryParser

/-- A text that `canonical_discovery_product_url` takes. -/
structure IsProductId (t : Text) : Prop where
  decimal : IsDecimal t
  length_le : t.length ≤ maxStrDigits
  pos : 0 < t.toNat

variable {digit : Char → Option Nat}

theorem isProductId_of_identifier {value : Json} {t : Text}
    (h : identifier value = .ok (some t)) : IsProductId t := by
  obtain ⟨found, hfound, ht⟩ := map_eq_ok.1 h
  obtain ⟨⟨t, n⟩, hfilter, rfl⟩ := Option.map_eq_some_iff.1 ht
  obtain ⟨rfl, hpos⟩ := Option.filter_eq_some_iff.1 hfilter
  obtain ⟨text, -, hfound⟩ := bind_eq_ok.1 hfound
  cases text with
  | none => cases hfound
  | some text =>
    change (if _ then _ else _) = _ at hfound
    split at hfound
    · next hdecimal =>
      obtain ⟨m, hm, hfound⟩ := map_eq_ok.1 hfound
      obtain ⟨rfl, rfl⟩ := Prod.mk.inj (Option.some.inj hfound)
      obtain ⟨_, hlength, hm⟩ := bind_eq_ok.1 hm
      obtain rfl := Except.ok.inj hm
      exact ⟨hdecimal, check_eq_ok.1 hlength, of_decide_eq_true hpos⟩
    · cases hfound

theorem productId_of_parseProduct {t : Text} {item : List (String × Json)} {p : DiscoveryProduct}
    (h : parseProduct digit t item = .ok p) : p.productId = t := by
  unfold parseProduct at h
  obtain ⟨prices, -, h⟩ := bind_eq_ok.1 h
  obtain ⟨numbers, -, h⟩ := bind_eq_ok.1 h
  obtain ⟨texts, -, h⟩ := bind_eq_ok.1 h
  obtain rfl := Except.ok.inj h
  rfl

/-- **The products of a page have identifiers.** -/
theorem isProductId_of_parse {payload : List (String × Json)} {wrapper : String}
    {page : DiscoveryPage} (h : parseDiscoveryPage digit payload wrapper = .ok page) :
    ∀ p ∈ page.products, IsProductId p.productId := by
  intro p hp
  obtain ⟨productId, item, hidentifier, hproduct⟩ := item_of_parse h p hp
  exact productId_of_parseProduct hproduct ▸ isProductId_of_identifier hidentifier

end DiscoveryParser

namespace Discovery

open DiscoveryRepository DiscoveryParser Scanner SqlTable

/-! ## The report -/

/-- The address of a product. -/
def discoveryProductUrl (productId : Text) : Text :=
  "https://pt.aliexpress.com/item/".toList ++ productId ++ ".html".toList

theorem discoveryProductUrl_injective : Function.Injective discoveryProductUrl := by
  intro t t' h
  exact List.append_cancel_left (List.append_cancel_right h)

/-- `canonical_discovery_product_url`. -/
def canonicalDiscoveryProductUrl (productId : Text) : Except String Text :=
  if IsDecimal productId then do
    let n ← intOf productId
    check (0 < n) "ALIEXPRESS_DISCOVERY_PRODUCT_ID_INVALID"
    return discoveryProductUrl productId
  else .error "ALIEXPRESS_DISCOVERY_PRODUCT_ID_INVALID"

theorem canonicalDiscoveryProductUrl_eq_ok {t : Text} (h : IsProductId t) :
    canonicalDiscoveryProductUrl t = .ok (discoveryProductUrl t) := by
  have hread : intOf t = .ok t.toNat := bind_eq_ok.2 ⟨⟨⟩, check_eq_ok.2 h.length_le, rfl⟩
  rw [canonicalDiscoveryProductUrl, if_pos h.decimal, hread]
  exact bind_eq_ok.2 ⟨_, rfl, bind_eq_ok.2 ⟨⟨⟩, check_eq_ok.2 h.pos, rfl⟩⟩

/-- A product of the report. -/
structure ReportedProduct where
  productId : Text
  canonicalProductUrl : Text
  title : Option Text
  priceBrl : Option Decimal
  score : Int
  classification : DiscoveryClassification
  origin : DiscoveryOrigin
  sourceOperation : DiscoveryOperation

/-- What `read_discovery_results` returns.  The last two fields are there if products are
asked for. -/
structure DiscoveryReport where
  runId : Nat
  sourceOperation : DiscoveryOperation
  state : DiscoveryRunState
  stopReason : Option String
  pageSize : Nat
  maxPages : Nat
  maxResults : Nat
  maxApiCalls : Nat
  apiCallCount : Nat
  cacheHitCount : Nat
  pageCount : Nat
  receivedCount : Nat
  uniqueProductCount : Nat
  snapshotCount : Nat
  classificationCounts : List (DiscoveryClassification × Nat)
  errorCode : Option String
  priceNotice : Option String
  products : Option (List ReportedProduct)

/-- `ORDER BY total_score DESC, product_id`. -/
def resultOrder (e : ResultKey × RunResult) : ℤᵒᵈ ×ₗ Text :=
  toLex (OrderDual.toDual e.2.score.totalScore, e.1.2)

/-- The results of a run, in the order of the report. -/
def rankedResults (db : DiscoveryDb) (runId : Nat) : List (ResultKey × RunResult) :=
  (db.results.select fun key _ => key.1 = runId).insertionSort
    fun e f => resultOrder e ≤ resultOrder f

/-- The classifications, in the order of their names. -/
def classifications : List DiscoveryClassification :=
  [.baselineOnly, .historyBackedPriceDrop, .insufficientData, .providerDiscountOnly]

/-- `dict(sorted(Counter(classification for …).items()))`. -/
def classificationCounts (found : List DiscoveryClassification) :
    List (DiscoveryClassification × Nat) :=
  (classifications.map fun c => (c, found.count c)).filter fun e => e.2 ≠ 0

/-- The entry of a product.  `str` prints the price; here it stays a number. -/
def reportedProduct (columns : NumericType) (run : DiscoveryRun) (e : ResultKey × RunResult)
    (url : Text) : ReportedProduct where
  productId := e.1.2
  canonicalProductUrl := url
  title := e.2.title
  priceBrl := e.2.targetBrlPrice.map (columns.read 2)
  score := e.2.score.totalScore
  classification := e.2.score.classification
  origin := e.2.origin
  sourceOperation := run.sourceOperation

/-- The report on a run without its products. -/
def reportSummary (run : DiscoveryRun) (runId : Nat) (found : List DiscoveryClassification) :
    DiscoveryReport where
  runId := runId
  sourceOperation := run.sourceOperation
  state := run.state
  stopReason := run.stopReason
  pageSize := run.pageSize
  maxPages := run.maxPages
  maxResults := run.maxResults
  maxApiCalls := run.maxApiCalls
  apiCallCount := run.apiCallCount
  cacheHitCount := run.cacheHitCount
  pageCount := run.pageCount
  receivedCount := run.receivedCount
  uniqueProductCount := run.uniqueProductCount
  snapshotCount := run.snapshotCount
  classificationCounts := classificationCounts found
  errorCode := run.errorCode
  priceNotice := none
  products := none

/-- `read_discovery_results`.  The run is read of `db`, its products of `db'`; there is a
database at the path, or there is none. -/
def readDiscoveryResults (columns : NumericType) (found : Bool) (db db' : DiscoveryDb)
    (runId : Nat) (includeProducts : Bool) : Except String DiscoveryReport := do
  check (found = true) "ALIEXPRESS_DISCOVERY_DATABASE_NOT_FOUND"
  let run ← orRaise (db.runs.get? runId) "ALIEXPRESS_DISCOVERY_RUN_NOT_FOUND"
  let products := rankedResults db' runId
  let report := reportSummary run runId (products.map fun e => e.2.score.classification)
  if includeProducts then do
    let listed ← products.mapM fun e =>
      (canonicalDiscoveryProductUrl e.1.2).map (reportedProduct columns run e)
    return { report with
      priceNotice := some "Preço product-level; não é preço de SKU nem prova de queda histórica."
      products := some listed }
  else return report

/-! ## Where the results come from -/

def Scanner.atHand (s : Scanner) : List DiscoveryProduct :=
  match s.phase with
  | .received _ _ page | .storing _ _ page _ _ => page.products
  | .replay _ _ rest => rest
  | .query | .call _ _ | .finish _ _ _ | .fail _ _ _ _ | .done => []

variable {columns : NumericType} {db db' : DiscoveryDb} {w w' : DiscoveryWorld} {i : Nat}
  {s t : Scanner}

theorem listed_of_recordEffect {q : Recording} {answer : RecordedProduct}
    (h : RecordEffect db q db' answer) {key : ResultKey} (hkey : (db'.results.get? key).isSome) :
    (db.results.get? key).isSome ∨ key = q.resultKey := by
  obtain ⟨row, hrow, -⟩ := h.result
  rw [hrow, get?_put] at hkey
  split at hkey
  · next heq => exact .inr heq
  · exact .inl hkey

theorem listed_of_recordAll {key : QueryKey} {observedAt : Nat → Instant} {unique : Nat}
    {recorded : List ResultKey} {items : List DiscoveryProduct} {record : PageRecord}
    (h : recordAll columns s key observedAt db unique recorded items = .ok record)
    {k : ResultKey} (hk : (record.db.results.get? k).isSome) :
    (db.results.get? k).isSome ∨ ∃ p ∈ items, k = (s.runId, p.productId) := by
  induction items generalizing db unique recorded with
  | nil =>
    obtain rfl := Except.ok.inj h
    exact .inl hk
  | cons item rest ih =>
    unfold recordAll at h
    split at h
    · obtain rfl := Except.ok.inj h
      exact .inl hk
    · obtain ⟨⟨db', answer⟩, hanswer, h⟩ := bind_eq_ok.1 h
      rcases ih h with hk | ⟨p, hp, rfl⟩
      · rcases listed_of_recordEffect (recordEffect_of_recordProduct hanswer) hk with hk | rfl
        · exact .inl hk
        · exact .inr ⟨item, List.mem_cons_self, rfl⟩
      · exact .inr ⟨p, List.mem_cons_of_mem _ hp, rfl⟩

/-- **What a scanner lists it has at hand.** -/
theorem listed_of_proceed {now : Instant} {observedAt : Nat → Instant}
    (h : w.proceed columns i s now observedAt = some w') {k : ResultKey}
    (hk : (w'.db.results.get? k).isSome) :
    (w.db.results.get? k).isSome ∨ ∃ p ∈ s.atHand, k = (s.runId, p.productId) := by
  unfold DiscoveryWorld.proceed at h
  split at h
  · obtain rfl := Option.some.inj h
    unfold DiscoveryWorld.query at hk
    split at hk
    · exact .inl hk
    · split at hk
      · exact .inl hk
      · next db claim hclaim =>
        have hleaves := leavesFindings_of_claimEffect (claimEffect_of_claimQuery hclaim)
        exact .inl (hleaves.results ▸ hk)
  · cases h
  · cases h
  · obtain rfl := Option.some.inj h
    unfold DiscoveryWorld.receive at hk
    split at hk
    · exact .inl hk
    · exact .inl hk
  · next key token page operation readAt hphase =>
    obtain rfl := Option.some.inj h
    unfold DiscoveryWorld.store at hk
    split at hk
    · exact .inl hk
    · next record hrecord =>
      obtain ⟨db, hstored, hrecord⟩ := bind_eq_ok.1 hrecord
      rw [← (leavesFindings_of_stored (stored_of_storePage hstored)).results]
      rw [Scanner.atHand, hphase]
      exact listed_of_recordAll hrecord hk
  · obtain rfl := Option.some.inj h
    exact .inl hk
  · next key page item rest hphase =>
    obtain rfl := Option.some.inj h
    unfold DiscoveryWorld.replayOne at hk
    split at hk
    · exact .inl hk
    · split at hk
      · exact .inl hk
      · next db answer hanswer =>
        rw [Scanner.atHand, hphase]
        exact (listed_of_recordEffect (recordEffect_of_recordProduct hanswer) hk).imp id
          fun heq => ⟨item, List.mem_cons_self, heq⟩
  · obtain rfl := Option.some.inj h
    unfold DiscoveryWorld.finish at hk
    split at hk
    · exact .inl hk
    · next db hfinish => exact .inl ((leavesFindings_of_finishRun hfinish).results ▸ hk)
  · obtain rfl := Option.some.inj h
    unfold DiscoveryWorld.fail at hk
    split at hk
    · exact .inl hk
    · next db hfinish =>
      have hresults := (leavesFindings_of_finishRun hfinish).results
      exact .inl (hresults ▸ hk)

/-! ## Every product has an identifier -/

section Identifiers

variable (digit : Char → Option Nat)

/-- The gateway answers with pages that the parser has read. -/
def Parsed (_ : DiscoveryWorld) (a : ScanAction) : Prop :=
  ∀ i page, a = .answer i (.page page) →
    ∃ payload wrapper, parseDiscoveryPage digit payload wrapper = .ok page

/-- **Every identifier there is names a product**: of the results, of what is cached, and of
what the scanners have at hand. -/
structure Identified (w : DiscoveryWorld) : Prop where
  listed : ∀ key, (w.db.results.get? key).isSome → IsProductId key.2
  cached : ∀ key row, w.db.cache.get? key = some row →
    ∀ p ∈ row.products, IsProductId p.productId
  atHand : ∀ i s, w.scanners i = some s → ∀ p ∈ s.atHand, IsProductId p.productId

theorem identified_init (h : (discoverySystem columns).init w) : Identified w := by
  obtain ⟨clock, rfl⟩ := h
  refine ⟨fun key hkey => ?_, fun key row hrow => ?_, fun i s hs => ?_⟩
  · exact absurd hkey (by simp [noDiscoveries])
  · exact absurd hrow (by simp [noDiscoveries])
  · exact absurd hs (by simp [noDiscoveries])

theorem atHand_atQuery (s : Scanner) : s.atQuery.atHand = [] := by
  unfold Scanner.atHand Scanner.atQuery
  by_cases hkeywords : s.keywords = [] <;> simp [hkeywords]

theorem atHand_nextPage (s : Scanner) (itemCount : Nat) : (s.nextPage itemCount).atHand = [] := by
  unfold Scanner.nextPage
  split
  · exact atHand_atQuery _
  · split
    · exact atHand_atQuery _
    · exact atHand_atQuery _

theorem atHand_of_pageKey (h : s.pageKey = none) : s.atHand = [] := by
  cases hphase : s.phase <;> simp_all [Scanner.pageKey, Scanner.atHand]

/-- What a scanner that goes on has at hand, unless it is answered. -/
theorem Identified.follows (h : Identified w) {new : List Grant} (hs : w.scanners i = some s)
    (hcall : ∀ key token, s.phase ≠ .call key token) (hfollows : Follows columns w.db s t new) :
    ∀ p ∈ t.atHand, IsProductId p.productId := by
  have hcached : ∀ (row : QueryCache) key, w.db.cache.get? key = some row →
      ∀ p ∈ (row.page columns).products, IsProductId p.productId := by
    intro row key hrow p hp
    obtain ⟨q, hq, rfl⟩ := List.mem_map.1 hp
    exact h.cached key row hrow q hq
  cases hfollows with
  | rests _ hrest _ => simp [atHand_of_pageKey hrest]
  | turns n itemCount _ => simp [atHand_nextPage]
  | called now token _ _ hphase => simp [Scanner.atHand, hphase]
  | cached row _ _ hrow hphase =>
    rw [Scanner.atHand, hphase]
    exact hcached row _ hrow
  | answered key token _ hphase => exact absurd hphase (hcall key token)
  | read key token page operation now hphase _ hphase' =>
    intro p hp
    rw [Scanner.atHand, hphase'] at hp
    exact h.atHand i s hs p (by rwa [Scanner.atHand, hphase])
  | replayed key page item rest hphase _ hphase' =>
    intro p hp
    rw [Scanner.atHand, hphase'] at hp
    refine h.atHand i s hs p ?_
    rw [Scanner.atHand, hphase]
    exact List.mem_cons_of_mem _ hp

/-- A step that lets one scanner go on. -/
theorem Identified.next (h : Identified w)
    (hscanners : w'.scanners = Function.update w.scanners i (some t))
    (hhand : ∀ p ∈ t.atHand, IsProductId p.productId)
    (hcache : ∀ key row, w'.db.cache.get? key = some row →
      w.db.cache.get? key = some row ∨ ∀ p ∈ row.products, IsProductId p.productId)
    (hlisted : ∀ k, (w'.db.results.get? k).isSome →
      (w.db.results.get? k).isSome ∨ IsProductId k.2) : Identified w' where
  listed := fun k hk => (hlisted k hk).elim (h.listed k) id
  cached := fun key row hrow => (hcache key row hrow).elim (h.cached key row) id
  atHand := by
    intro j r hr
    rw [hscanners] at hr
    rcases scanners_update hr with ⟨-, rfl⟩ | ⟨-, hr⟩
    · exact hhand
    · exact h.atHand j r hr

variable {digit}

theorem atHand_answered {answer : GatewayAnswer} (ha : Parsed digit w (.answer i answer))
    (s : Scanner) (key : QueryKey) (token : Nat) :
    ∀ p ∈ (DiscoveryWorld.answered s key token answer).atHand, IsProductId p.productId := by
  cases answer with
  | page page =>
    obtain ⟨payload, wrapper, hparse⟩ := ha i page rfl
    exact isProductId_of_parse hparse
  | providerError code manualReview => simp [DiscoveryWorld.answered, Scanner.atHand]
  | cancelled => simp [DiscoveryWorld.answered, Scanner.atHand]

/-- **A step keeps the identifiers.** -/
theorem Identified.step (h : Identified w) {a : ScanAction} (ha : Parsed digit w a)
    (hstep : discoveryStep columns w a = some w') : Identified w' := by
  cases a with
  | start i job now =>
    simp only [discoveryStep, Option.ite_none_right_eq_some] at hstep
    obtain rfl := Option.some.inj hstep.2
    refine h.next rfl ?_ (fun _ _ hrow => .inl hrow) fun _ hk => .inl hk
    simp [Scanner.started, atHand_atQuery]
  | answer i answer =>
    simp only [discoveryStep] at hstep
    split at hstep
    · next s hs =>
      split at hstep
      · next key token hphase =>
        obtain rfl := Option.some.inj hstep
        exact h.next rfl (atHand_answered ha s key token) (fun _ _ hrow => .inl hrow)
          fun _ hk => .inl hk
      · cases hstep
    · cases hstep
  | proceed i now observedAt =>
    simp only [discoveryStep] at hstep
    split at hstep
    · next s hs =>
      have hcall : ∀ key token, s.phase ≠ .call key token := by
        intro key token hphase
        simp [DiscoveryWorld.proceed, hphase] at hstep
      obtain ⟨⟨t, new, hscanners, -, hfollows⟩, hcache⟩ := advances_of_proceed hstep
      refine h.next hscanners (h.follows hs hcall hfollows) (fun key row hrow => ?_)
        fun k hk => ?_
      · refine (hcache key row hrow).imp id ?_
        rintro ⟨token, page, operation, now, hphase, rfl⟩ p hp
        obtain ⟨q, hq, rfl⟩ := List.mem_map.1 hp
        exact h.atHand i s hs q (by rwa [Scanner.atHand, hphase])
      · refine (listed_of_proceed hstep hk).imp id ?_
        rintro ⟨p, hp, rfl⟩
        exact h.atHand i s hs p hp
    · cases hstep
  | die i =>
    simp only [discoveryStep, Option.map_eq_some_iff] at hstep
    obtain ⟨s, hs, rfl⟩ := hstep
    refine h.next rfl ?_ (fun _ _ hrow => .inl hrow) fun _ hk => .inl hk
    simp [Scanner.gone, Scanner.atHand]

end Identifiers

/-! ## Between the two readings -/

/-- No run loses products, or changes its maximum. -/
def RunsGrow (db db' : DiscoveryDb) : Prop :=
  ∀ id run, db.runs.get? id = some run → ∃ run', db'.runs.get? id = some run' ∧
    run'.maxResults = run.maxResults ∧ run.uniqueProductCount ≤ run'.uniqueProductCount

theorem RunsGrow.refl (db : DiscoveryDb) : RunsGrow db db :=
  fun _ run hrun => ⟨run, hrun, rfl, le_rfl⟩

theorem RunsGrow.trans {db'' : DiscoveryDb} (h : RunsGrow db db') (h' : RunsGrow db' db'') :
    RunsGrow db db'' := by
  intro id run hrun
  obtain ⟨run', hrun', hmax, hle⟩ := h id run hrun
  obtain ⟨run'', hrun'', hmax', hle'⟩ := h' id run' hrun'
  exact ⟨run'', hrun'', hmax'.trans hmax, hle.trans hle'⟩

theorem LeavesFindings.runsGrow (h : LeavesFindings db db') : RunsGrow db db' := by
  intro id run hrun
  obtain ⟨run', hrun', hsame⟩ := h.runs.of_get? hrun
  exact ⟨run', hrun', hsame.maxResults, hsame.uniqueProductCount.ge⟩

theorem runsGrow_of_recordEffect {q : Recording} {answer : RecordedProduct}
    (h : RecordEffect db q db' answer) : RunsGrow db db' := by
  intro id run hrun
  obtain ⟨run', hrun', rfl⟩ := h.runs.of_get? hrun
  refine ⟨_, hrun', ?_⟩
  split
  · exact ⟨rfl, Nat.le_add_right _ _⟩
  · exact ⟨rfl, le_rfl⟩

theorem runsGrow_of_effect (h : Effect columns w i w') : RunsGrow w.db w'.db := by
  cases h with
  | started job now hnone =>
    intro id run hrun
    refine ⟨run, ?_, rfl, le_rfl⟩
    exact (get?_createRun w.db (newRun job now) id).trans
      ((if_neg (ne_createRun_snd hrun)).trans hrun)
  | moved s s' clock hs hmoves => exact .refl _
  | queried s now db claim hs hholds hdone heffect =>
    exact (leavesFindings_of_claimEffect heffect).runsGrow
  | stored s s' key token page operation now observedAt db record hs hphase hstored hrecord =>
    refine (leavesFindings_of_stored hstored).runsGrow.trans ?_
    refine recordAll_invariant (P := fun db' _ _ => RunsGrow db db') ?_ hrecord (.refl db)
    exact fun _ _ _ _ _ _ _ hgrows _ heffect => hgrows.trans (runsGrow_of_recordEffect heffect)
  | replayed s key page item rest now db answer hs hphase hfull heffect =>
    exact runsGrow_of_recordEffect heffect
  | finished s state stopReason errorCode now db hs hholds hdone hfinish =>
    exact (leavesFindings_of_finishRun hfinish).runsGrow
  | failed s key token state stopReason errorCode now db hs hholds hfinish =>
    have hleaves := leavesFindings_of_finishRun hfinish
    exact LeavesFindings.runsGrow ⟨hleaves.runs, hleaves.results, hleaves.snapshots⟩

theorem runsGrow_of_run {good : DiscoveryWorld → ScanAction → Prop}
    (h : (discoverySystem columns).RunUnder good w w') : RunsGrow w.db w'.db :=
  h.invariant (P := fun v => RunsGrow w.db v.db) (.refl _) fun _ _ _ hgrows _ hstep =>
    hgrows.trans (runsGrow_of_effect (effect_of_step hstep))

/-! ## What the report says -/

section Listing

variable {runId : Nat}

theorem mem_rankedResults {e : ResultKey × RunResult} :
    e ∈ rankedResults db runId ↔ db.results.get? e.1 = some e.2 ∧ e.1.1 = runId := by
  unfold rankedResults
  rw [List.mem_insertionSort]
  exact mem_select

theorem nodup_rankedResults : ((rankedResults db runId).map fun e => e.1.2).Nodup := by
  have hkeys : ((rankedResults db runId).map Prod.fst).Nodup :=
    (((List.perm_insertionSort _ _).map Prod.fst).nodup_iff).2 (nodup_keys_select _ _)
  refine List.Nodup.map_on ?_ (List.Nodup.of_map _ hkeys)
  intro e he f hf heq
  obtain ⟨hrow, hid⟩ := mem_rankedResults.1 he
  obtain ⟨hrow', hid'⟩ := mem_rankedResults.1 hf
  have hkey : e.1 = f.1 := Prod.ext (hid.trans hid'.symm) heq
  refine Prod.ext hkey (Option.some.inj ?_)
  rw [← hrow, ← hrow', hkey]

/-- **The highest score comes first**, and among products of one score the identifiers decide. -/
theorem ordered_rankedResults : (rankedResults db runId).Pairwise fun e f =>
    f.2.score.totalScore < e.2.score.totalScore ∨
      e.2.score.totalScore = f.2.score.totalScore ∧ e.1.2 < f.1.2 := by
  have hsorted : (rankedResults db runId).Pairwise fun e f => resultOrder e ≤ resultOrder f :=
    List.pairwise_insertionSort _ _
  have hids : (rankedResults db runId).Pairwise fun e f => e.1.2 ≠ f.1.2 :=
    List.pairwise_map.1 nodup_rankedResults
  refine (hsorted.and hids).imp ?_
  rintro e f ⟨hle, hne⟩
  rw [resultOrder, resultOrder, Prod.Lex.toLex_le_toLex, OrderDual.toDual_lt_toDual,
    EmbeddingLike.apply_eq_iff_eq] at hle
  exact hle.imp id fun h => ⟨h.1, lt_of_le_of_ne h.2 hne⟩

theorem length_rankedResults : (rankedResults db runId).length = rowsOf db.results runId :=
  List.length_insertionSort _ _

/-- A table of counts says of each key what was counted. -/
theorem lookup_filter_counts {κ : Type} [DecidableEq κ] (f : κ → Nat) (keys : List κ) (k : κ) :
    (((keys.map fun c => (c, f c)).filter fun e => e.2 ≠ 0).lookup k).getD 0 =
      if k ∈ keys then f k else 0 := by
  induction keys with
  | nil => rfl
  | cons c keys ih =>
    rw [List.map_cons, List.filter_cons]
    by_cases hk : k = c
    · subst hk
      by_cases hc : f k = 0
      · simpa [hc] using ih
      · simp [hc]
    · have hbeq : (k == c) = false := by simpa using hk
      split
      · rw [List.lookup_cons, hbeq]
        simpa [hk] using ih
      · simpa [hk] using ih

theorem lookup_classificationCounts (found : List DiscoveryClassification)
    (c : DiscoveryClassification) :
    ((classificationCounts found).lookup c).getD 0 = found.count c := by
  refine (lookup_filter_counts found.count classifications c).trans (if_pos ?_)
  cases c <;> decide

end Listing

/-- What a report comes to: it lists each result of the run once, in the order asked for, as its
row has it and under an address of its own, and counts the classifications of what it lists.  No
fewer products are listed than the run counts, and no more than it may have. -/
structure ReportFaithful (db : DiscoveryDb) (runId : Nat) (report : DiscoveryReport)
    (products : List ReportedProduct) : Prop where
  listed : ∀ id, id ∈ products.map ReportedProduct.productId ↔
    (db.results.get? (runId, id)).isSome
  shown : ∀ p ∈ products, p.canonicalProductUrl = discoveryProductUrl p.productId ∧
    ∃ row, db.results.get? (runId, p.productId) = some row ∧ p.title = row.title ∧
      p.score = row.score.totalScore ∧ p.classification = row.score.classification ∧
      p.origin = row.origin
  ordered : products.Pairwise fun p q =>
    q.score < p.score ∨ p.score = q.score ∧ p.productId < q.productId
  addresses : (products.map ReportedProduct.canonicalProductUrl).Nodup
  counts : ∀ c, (report.classificationCounts.lookup c).getD 0 =
    products.countP fun p => p.classification = c
  count_le : report.uniqueProductCount ≤ products.length
  le_max : products.length ≤ report.maxResults

variable {digit : Char → Option Nat} {runId : Nat} {run : DiscoveryRun}

theorem mapM_reportedProduct (h : ∀ key, (db.results.get? key).isSome → IsProductId key.2) :
    ((rankedResults db runId).mapM fun e =>
        (canonicalDiscoveryProductUrl e.1.2).map (reportedProduct columns run e)) =
      .ok ((rankedResults db runId).map fun e =>
        reportedProduct columns run e (discoveryProductUrl e.1.2)) := by
  refine mapM_eq_ok.2 (List.forall₂_map_right_iff.2 (List.forall₂_same.2 fun e he => ?_))
  have hrow : (db.results.get? e.1).isSome := by rw [(mem_rankedResults.1 he).1]; rfl
  rw [canonicalDiscoveryProductUrl_eq_ok (h e.1 hrow)]
  rfl

/-- What is listed of the second reading. -/
theorem reportFaithful_ranked {run' : DiscoveryRun} {recorded : List ResultKey}
    (haccounted : Accounted db' recorded) (hrun' : db'.runs.get? runId = some run')
    (hmax : run'.maxResults = run.maxResults)
    (hle : run.uniqueProductCount ≤ run'.uniqueProductCount) {notice : Option String}
    {listed : Option (List ReportedProduct)} :
    ReportFaithful db' runId
      { reportSummary run runId
          ((rankedResults db' runId).map fun e => e.2.score.classification) with
        priceNotice := notice
        products := listed }
      ((rankedResults db' runId).map fun e =>
        reportedProduct columns run e (discoveryProductUrl e.1.2)) where
  listed := by
    intro id
    rw [List.map_map, List.mem_map]
    constructor
    · rintro ⟨e, he, rfl⟩
      obtain ⟨hrow, rfl⟩ := mem_rankedResults.1 he
      exact Option.isSome_iff_exists.2 ⟨e.2, hrow⟩
    · intro hsome
      obtain ⟨row, hrow⟩ := Option.isSome_iff_exists.1 hsome
      exact ⟨((runId, id), row), mem_rankedResults.2 ⟨hrow, rfl⟩, rfl⟩
  shown := by
    intro p hp
    obtain ⟨e, he, rfl⟩ := List.mem_map.1 hp
    obtain ⟨hrow, rfl⟩ := mem_rankedResults.1 he
    exact ⟨rfl, e.2, hrow, rfl, rfl, rfl, rfl⟩
  ordered := List.pairwise_map.2 ordered_rankedResults
  addresses := by
    have hids : ((rankedResults db' runId).map fun e => e.1.2).Nodup := nodup_rankedResults
    have haddresses := hids.map discoveryProductUrl_injective
    rw [List.map_map] at haddresses ⊢
    exact haddresses
  counts := by
    intro c
    refine (lookup_classificationCounts _ c).trans ?_
    rw [List.count, List.countP_map, List.countP_map]
    rfl
  count_le := by
    rw [List.length_map, length_rankedResults, ← haccounted.unique runId run' hrun']
    exact hle
  le_max := by
    rw [List.length_map, length_rankedResults, ← haccounted.unique runId run' hrun']
    exact (haccounted.limit runId run' hrun').trans_eq hmax

/-- **The report is there, and says what is in the database.**  In every run of any scanners
whose gateway answers with parsed pages, a run that is there is reported: no product takes the
report away, and what is listed is what the database holds by the second reading. -/
theorem discoveryReport_faithful {w₀ : DiscoveryWorld} (hinit : (discoverySystem columns).init w₀)
    (hbefore : (discoverySystem columns).RunUnder (Parsed digit) w₀ w)
    (hafter : (discoverySystem columns).RunUnder (Parsed digit) w w')
    (hrun : w.db.runs.get? runId = some run) :
    ∃ report products,
      readDiscoveryResults columns true w.db w'.db runId true = .ok report ∧
        readDiscoveryResults columns true w.db w'.db runId false =
          .ok { report with priceNotice := none, products := none } ∧
        report.products = some products ∧ ReportFaithful w'.db runId report products ∧
        (w' = w → report.uniqueProductCount = products.length) := by
  have hreachable : (discoverySystem columns).Reachable w' :=
    TransitionSystem.ReachableUnder.reachable ⟨w₀, hinit, hbefore.trans hafter⟩
  have hidentified : Identified w' :=
    (hbefore.trans hafter).invariant (identified_init hinit) fun _ _ _ h ha hstep => h.step ha hstep
  have haccounted := (balanced_of_reachable hreachable).accounted
  obtain ⟨run', hrun', hmax, hle⟩ := runsGrow_of_run hafter runId run hrun
  refine ⟨_, _, bind_eq_ok.2 ⟨⟨⟩, check_eq_ok.2 rfl, bind_eq_ok.2 ⟨run, orRaise_eq_ok.2 hrun,
    bind_eq_ok.2 ⟨_, mapM_reportedProduct hidentified.listed, rfl⟩⟩⟩,
    bind_eq_ok.2 ⟨⟨⟩, check_eq_ok.2 rfl, bind_eq_ok.2 ⟨run, orRaise_eq_ok.2 hrun, rfl⟩⟩, rfl,
    reportFaithful_ranked haccounted hrun' hmax hle, ?_⟩
  rintro rfl
  rw [List.length_map, length_rankedResults]
  exact haccounted.unique runId run hrun

/-- A scanner receives a page, and has read its claim. -/
def pageAnswered : List ScanAction :=
  [.start 0 smallJob 0, .proceed 0 1 fun _ => 1, .answer 0 (.page (onePricePage "9.99".toList)),
    .proceed 0 2 fun _ => 2]

theorem parsed_pageAnswered {a : ScanAction} (ha : a ∈ pageAnswered) (v : DiscoveryWorld) :
    Parsed (fun _ => none) v a := by
  intro i page heq
  subst heq
  simp only [pageAnswered, List.mem_cons, List.not_mem_nil, or_false, ScanAction.answer.injEq,
    GatewayAnswer.page.injEq, reduceCtorEq, false_or] at ha
  rw [ha.2]
  exact ⟨_, _, parse_onePrice _ (by decide +kernel)⟩

/-- The run is read before its product is recorded, and its products afterwards. -/
theorem discoveryReport_faithful_pageAnswered :
    let w := (discoverySystem NumericType.halfEven).endOf noDiscoveries pageAnswered
    let w' := (discoverySystem NumericType.halfEven).endOf w [.proceed 0 2 fun _ => 2]
    ∃ report products,
      readDiscoveryResults NumericType.halfEven true w.db w'.db 1 true = .ok report ∧
        report.products = some products ∧ ReportFaithful w'.db 1 report products ∧
        report.uniqueProductCount = 0 ∧ products.length = 1 := by
  intro w w'
  have hbefore : (discoverySystem NumericType.halfEven).RunUnder (Parsed fun _ => none)
      noDiscoveries w :=
    TransitionSystem.runUnder_of_replay (fun a ha v => parsed_pageAnswered ha v)
      (TransitionSystem.replay_endOf _ _ (by decide +kernel))
  have hafter : (discoverySystem NumericType.halfEven).RunUnder (Parsed fun _ => none) w w' := by
    refine TransitionSystem.runUnder_of_replay (fun a ha v i page heq => ?_)
      (TransitionSystem.replay_endOf _ _ (by decide +kernel))
    obtain rfl := List.mem_singleton.1 ha
    cases heq
  have hfound : (w.db.runs.get? 1).isSome = true := by decide +kernel
  obtain ⟨run, hrun⟩ := Option.isSome_iff_exists.1 hfound
  obtain ⟨report, products, hread, -, hproducts, hfaithful, -⟩ :=
    discoveryReport_faithful ⟨0, rfl⟩ hbefore hafter hrun
  refine ⟨report, products, hread, hproducts, hfaithful, ?_⟩
  have hcounts : (readDiscoveryResults NumericType.halfEven true w.db w'.db 1 true).toOption.map
      (fun r => (r.uniqueProductCount, r.products.map List.length)) = some (0, some 1) := by
    decide +kernel
  rw [hread] at hcounts
  obtain ⟨hunique, hlength⟩ := Prod.mk.inj (Option.some.inj hcounts)
  rw [hproducts] at hlength
  exact ⟨hunique, Option.some.inj hlength⟩

end Discovery
end PromoBot
