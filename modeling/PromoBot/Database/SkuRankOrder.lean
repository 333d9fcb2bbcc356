import PromoBot.Database.SkuEffects
import PromoBot.Lib.RowOrder
import Mathlib.Data.List.Perm.Basic

/-!
# The ranking of a run does not depend on the order of the rows

`rank_run` reads the snapshots and the matched items without an `ORDER BY`.  The statistics of
an item are a function of what other runs saw of its SKU in the 30 days before
(`rankItem_congr`), because a run has at most one snapshot of a SKU and the prices are sorted
before the median is taken.

The positions are those of a sort by six columns (`rankLe_iff`), written back in order
(`RankRun.matchedItems_perm`).  The last two columns are the ids *as numbers*, while the rows
are told apart by the ids as texts: `7` and `07` are two products and one number, and may tie
on all six.  The sort is stable and leaves such items in the order they were read in, so the
positions would show that order.  It is not the order of storage: the items are read through
the index over run and product, and a run has each product once, so they come in one order only
(`matchedItems_eq_of_perm`).

## What an order of storage is

The tables of this development are lists of rows under keys, in the order of insertion, which
is one order a database may hold them in.  That an operation does not depend on it is a
statement about two databases: their rows are the same, and come in any two orders.  For the
snapshots it is enough that every other run saw the same of a SKU (`SameHistory`), since
nothing but the prices is used of them and no run has two.  For the items it is a permutation
of the rows of the run.

## From the positions to the items

The loop writes a position back under the key of each item, while the item of another product
is under another key, so the writes do not disturb one another (`get?_writeRanked`), and what
is there in the end is the sorted list with its numbers.  The permutation is what the second
database is compared by: two sorts of one list are one list (`ranked_eq`).
-/

namespace PromoBot

open Discovery Fallible RowOrder SqlTable

namespace SkuRefinementRepository

variable {columns : NumericType} {db db' out out' : SkuDb} {runId : Nat} {now : Instant}

/-! ## The matched items -/

theorem storedMatches_perm : (matchedItems db runId).Perm (storedMatches db runId) :=
  List.perm_insertionSort _ _

theorem nodup_keys_matchedItems : ((matchedItems db runId).map Prod.fst).Nodup :=
  (storedMatches_perm.map Prod.fst).symm.nodup (nodup_keys_select _ _)

/-- **The order the items are stored in is not seen.** -/
theorem matchedItems_eq_of_perm (h : (storedMatches db runId).Perm (storedMatches db' runId)) :
    matchedItems db runId = matchedItems db' runId := by
  refine insertionSort_eq_of_perm _ h fun a ha b hb hab hba => ?_
  obtain ⟨hrow, hid, -⟩ := mem_select.1 ha
  obtain ⟨hrow', hid', -⟩ := mem_select.1 hb
  have hkey : a.1 = b.1 := Prod.ext (hid.trans hid'.symm) (le_antisymm hab hba)
  refine Prod.ext hkey (Option.some.inj ?_)
  rw [← hrow, ← hrow', hkey]

/-! ## The history of a SKU -/

/-- In the 30 days before an instant. -/
def InWindow (now : Instant) (snapshot : SkuSnapshot) : Prop :=
  now - seconds (30 * 24 * 60 * 60) ≤ snapshot.observedAt ∧ snapshot.observedAt < now

instance (now : Instant) : DecidablePred (InWindow now) :=
  fun _ => inferInstanceAs (Decidable (_ ∧ _))

/-- Two databases hold the same history of a SKU: every other run saw the same of it in the
window. -/
def SameHistory (runId : Nat) (now : Instant) (productId skuId : Text) (db db' : SkuDb) : Prop :=
  ∀ r, r ≠ runId →
    (db.snapshots.get? (r, productId, skuId)).filter (fun s => InWindow now s) =
      (db'.snapshots.get? (r, productId, skuId)).filter fun s => InWindow now s

/-- The same history is read in some order. -/
theorem priorSkuPrices_perm {productId skuId : Text}
    (h : SameHistory runId now productId skuId db db') :
    (priorSkuPrices columns db runId productId skuId now).Perm
      (priorSkuPrices columns db' runId productId skuId now) := by
  unfold priorSkuPrices
  refine (select_perm ?_).map _
  rintro ⟨r, product, sku⟩
  by_cases hkey : product = productId ∧ sku = skuId ∧ r ≠ runId
  · obtain ⟨rfl, rfl, hr⟩ := hkey
    simpa [hr, InWindow] using h r hr
  · have hnone (o : Option SkuSnapshot) : o.filter (fun s =>
        product = productId ∧ sku = skuId ∧ r ≠ runId ∧
          now - seconds (30 * 24 * 60 * 60) ≤ s.observedAt ∧ s.observedAt < now) = none := by
      rw [Option.filter_eq_none_iff]
      intro s _ hs
      rw [decide_eq_true_eq] at hs
      exact hkey ⟨hs.1, hs.2.1, hs.2.2.1⟩
    exact (hnone _).trans (hnone _).symm

/-- A run has at most one snapshot of a SKU. -/
theorem nodup_runs_priorSkuPrices (productId skuId : Text) :
    ((priorSkuPrices columns db runId productId skuId now).map
      HistoricalSkuPrice.refinementRunId).Nodup := by
  rw [priorSkuPrices, List.map_map]
  have hkeys := nodup_keys_select db.snapshots fun key snapshot =>
    key.2.1 = productId ∧ key.2.2 = skuId ∧ key.1 ≠ runId ∧
      now - seconds (30 * 24 * 60 * 60) ≤ snapshot.observedAt ∧ snapshot.observedAt < now
  refine List.Nodup.map_on ?_ (List.Nodup.of_map _ hkeys)
  rintro ⟨⟨r, product, sku⟩, s⟩ hs ⟨⟨r', product', sku'⟩, s'⟩ hs' hr
  obtain ⟨-, hproduct, hsku, -⟩ := mem_select.1 hs
  obtain ⟨-, hproduct', hsku', -⟩ := mem_select.1 hs'
  have hkey : (r, product, sku) = (r', product', sku') :=
    Prod.ext hr (Prod.ext (hproduct.trans hproduct'.symm) (hsku.trans hsku'.symm))
  exact List.inj_on_of_nodup_map hkeys hs hs' hkey

/-- With one price of each run the dictionary keeps them all. -/
theorem firstOfEachRun_eq_map {seen : List Nat} {prior : List HistoricalSkuPrice}
    (hruns : (prior.map HistoricalSkuPrice.refinementRunId).Nodup)
    (hseen : ∀ p ∈ prior, p.refinementRunId ∉ seen) :
    firstOfEachRun seen prior = prior.map HistoricalSkuPrice.price := by
  induction prior generalizing seen with
  | nil => rfl
  | cons p rest ih =>
    rw [List.map_cons, List.nodup_cons] at hruns
    rw [firstOfEachRun, if_neg (hseen p List.mem_cons_self), List.map_cons]
    congr 1
    apply ih hruns.2
    intro p' hp'
    rw [List.mem_cons, not_or]
    refine ⟨?_, hseen p' (List.mem_cons_of_mem _ hp')⟩
    intro hsame
    exact hruns.1 (hsame ▸ List.mem_map_of_mem hp')

/-- **The statistics do not depend on the order of the prices**, one of each run. -/
theorem rankSkuPrice_perm (q : SkuRankInput) {prior prior' : List HistoricalSkuPrice}
    (h : prior.Perm prior') (hruns : (prior.map HistoricalSkuPrice.refinementRunId).Nodup) :
    rankSkuPrice q prior = rankSkuPrice q prior' := by
  have hfirst {l : List HistoricalSkuPrice}
      (hl : (l.map HistoricalSkuPrice.refinementRunId).Nodup) :
      firstOfEachRun [] (l.filter fun p => q.Eligible p) =
        (l.filter fun p => q.Eligible p).map HistoricalSkuPrice.price :=
    firstOfEachRun_eq_map (hl.sublist (List.filter_sublist.map _)) fun _ _ => List.not_mem_nil
  have hprices : (firstOfEachRun [] (prior.filter fun p => q.Eligible p)).insertionSort (· ≤ ·) =
      (firstOfEachRun [] (prior'.filter fun p => q.Eligible p)).insertionSort (· ≤ ·) := by
    rw [hfirst hruns, hfirst ((h.map _).nodup hruns)]
    exact insertionSort_eq_of_perm _ ((h.filter _).map _) fun _ _ _ _ => le_antisymm
  simp only [rankSkuPrice, hprices]

/-- **The statistics of an item** are a function of the history of its SKU. -/
theorem rankItem_congr {run : SkuRun} {e : ResultKey × SkuItem}
    (h : ∀ skuId, e.2.selectedSkuId = some skuId → SameHistory runId now e.1.2 skuId db db') :
    rankItem columns db runId run now e = rankItem columns db' runId run now e := by
  unfold rankItem
  cases hsku : e.2.selectedSkuId with
  | none => rfl
  | some skuId =>
    have hrank (q : SkuRankInput) :
        rankSkuPrice q (priorSkuPrices columns db runId e.1.2 skuId now) =
          rankSkuPrice q (priorSkuPrices columns db' runId e.1.2 skuId now) :=
      rankSkuPrice_perm q (priorSkuPrices_perm (h skuId hsku)) (nodup_runs_priorSkuPrices _ _)
    simp only [orRaise, bind, Except.bind, hrank]

/-! ## The key -/

/-- **The key orders the items lexicographically.** -/
theorem rankLe_iff {a b : Nat × Decimal × Int × Decimal × Nat × Nat} :
    rankLe a b ↔
      toLex (a.1, toLex (a.2.1, toLex (a.2.2.1, toLex (a.2.2.2.1,
        toLex (a.2.2.2.2.1, a.2.2.2.2.2))))) ≤
      toLex (b.1, toLex (b.2.1, toLex (b.2.2.1, toLex (b.2.2.2.1,
        toLex (b.2.2.2.2.1, b.2.2.2.2.2))))) := by
  rw [rankLe, then_ne_gt, then_ne_gt, then_ne_gt, then_ne_gt, then_ne_gt, cmp_ne_gt,
    Prod.Lex.toLex_le_toLex, Prod.Lex.toLex_le_toLex, Prod.Lex.toLex_le_toLex,
    Prod.Lex.toLex_le_toLex, Prod.Lex.toLex_le_toLex]

instance : Std.Total rankLe where
  total a b := by
    rw [rankLe_iff, rankLe_iff]
    exact le_total _ _

instance : IsTrans (Nat × Decimal × Int × Decimal × Nat × Nat) rankLe where
  trans a b c hab hbc := by
    rw [rankLe_iff] at hab hbc ⊢
    exact hab.trans hbc

/-- The comparison of two items. -/
def RankedBefore (columns : NumericType) (a b : ResultKey × SkuItem) : Prop :=
  rankLe (rankKey columns a) (rankKey columns b)

instance (columns : NumericType) : DecidableRel (RankedBefore columns) :=
  fun _ _ => inferInstanceAs (Decidable (rankLe _ _))

instance (columns : NumericType) : Std.Total (RankedBefore columns) where
  total a b := Std.Total.total (rankKey columns a) (rankKey columns b)

instance (columns : NumericType) : IsTrans (ResultKey × SkuItem) (RankedBefore columns) where
  trans a b c := IsTrans.trans (rankKey columns a) (rankKey columns b) (rankKey columns c)

/-! ## The positions -/

/-- The items with the positions they are written back with. -/
def placed (position : Nat) (ranked : List (ResultKey × SkuItem)) : List (ResultKey × SkuItem) :=
  (ranked.zipIdx position).map fun e => (e.1.1, { e.1.2 with rankPosition := some e.2 })

@[simp] theorem map_fst_placed (position : Nat) (ranked : List (ResultKey × SkuItem)) :
    (placed position ranked).map Prod.fst = ranked.map Prod.fst := by
  induction ranked generalizing position with
  | nil => rfl
  | cons e rest ih =>
    rw [placed, List.zipIdx_cons, List.map_cons, List.map_cons, List.map_cons]
    exact congrArg _ (ih (position + 1))

theorem map_rankPosition_placed (position : Nat) (ranked : List (ResultKey × SkuItem)) :
    (placed position ranked).map (fun e => e.2.rankPosition) =
      (List.range' position ranked.length).map some := by
  induction ranked generalizing position with
  | nil => rfl
  | cons e rest ih =>
    rw [placed, List.zipIdx_cons, List.map_cons, List.map_cons, List.length_cons,
      List.range'_succ, List.map_cons]
    exact congrArg _ (ih (position + 1))

/-- **What is written back**: every ranked item under its key, and no other row. -/
theorem get?_writeRanked (items : SqlTable ResultKey SkuItem) (position : Nat)
    {ranked : List (ResultKey × SkuItem)} (hkeys : (ranked.map Prod.fst).Nodup)
    (key : ResultKey) (item : SkuItem) :
    (writeRanked items position ranked).get? key = some item ↔
      (key, item) ∈ placed position ranked ∨
        key ∉ ranked.map Prod.fst ∧ items.get? key = some item := by
  induction ranked generalizing items position with
  | nil => simp [writeRanked, placed]
  | cons e rest ih =>
    obtain ⟨k, written⟩ := e
    rw [List.map_cons, List.nodup_cons] at hkeys
    rw [writeRanked, ih _ _ hkeys.2, get?_put]
    have hplaced : placed position ((k, written) :: rest) =
        (k, { written with rankPosition := some position }) :: placed (position + 1) rest := rfl
    simp only [hplaced, List.mem_cons, List.map_cons, not_or, Prod.mk.injEq]
    by_cases hk : key = k
    · subst hk
      have hother : (key, item) ∉ placed (position + 1) rest := by
        intro hmem
        have hkey := List.mem_map_of_mem (f := Prod.fst) hmem
        rw [map_fst_placed] at hkey
        exact hkeys.1 hkey
      simp [hother, hkeys.1, eq_comm]
    · simp [hk]

/-! ## A ranked run -/

/-- The matched items of a run are ranked: their positions are the numbers from one on, and an
item of a lower position does not come after one of a higher position in the key. -/
structure SkuRanks (columns : NumericType) (runId n : Nat) (out : SkuDb) : Prop where
  positions : ((matchedItems out runId).map fun e => e.2.rankPosition).Perm
    ((List.range' 1 n).map some)
  sorted : ∀ a ∈ matchedItems out runId, ∀ b ∈ matchedItems out runId, ∀ i j : Nat,
    a.2.rankPosition = some i → b.2.rankPosition = some j → i < j → RankedBefore columns a b

def SkuItem.statistics (item : SkuItem) :
    Option Decimal × Nat × Option Decimal × Option SkuClassification :=
  (item.historyMedian, item.historySnapshotCount, item.priceDropPercent, item.classification)

/-- The items a ranking works on, each with its history. -/
structure RankRun (columns : NumericType) (db : SkuDb) (runId : Nat) (now : Instant)
    (out : SkuDb) (run : SkuRun) (ranked : List (ResultKey × SkuItem)) : Prop where
  row : db.runs.get? runId = some run
  history : List.Forall₂ (fun e e' => rankItem columns db runId run now e = .ok e')
    (matchedItems db runId) ranked
  items : out.items = writeRanked db.items 1 (ranked.insertionSort (RankedBefore columns))

theorem rankRun_eq_ok (h : rankRun columns db runId now = .ok out) :
    ∃ run ranked, RankRun columns db runId now out run ranked := by
  unfold rankRun at h
  obtain ⟨run, hrun, h⟩ := bind_eq_ok.1 h
  obtain ⟨⟨⟩, -, h⟩ := bind_eq_ok.1 h
  obtain ⟨ranked, hranked, h⟩ := bind_eq_ok.1 h
  obtain rfl := Except.ok.inj h
  exact ⟨run, ranked, orRaise_eq_ok.1 hrun, mapM_eq_ok.1 hranked, rfl⟩

namespace RankRun

variable {run run' : SkuRun} {ranked ranked' : List (ResultKey × SkuItem)}

theorem map_fst (h : RankRun columns db runId now out run ranked) :
    ranked.map Prod.fst = (matchedItems db runId).map Prod.fst := by
  obtain ⟨-, hhistory, -⟩ := h
  generalize matchedItems db runId = l at hhistory
  induction hhistory with
  | nil => rfl
  | cons hrank _ ih => rw [List.map_cons, List.map_cons, ih, (rankItem_eq_ok hrank).1]

theorem nodup (h : RankRun columns db runId now out run ranked) :
    (ranked.map Prod.fst).Nodup := by
  rw [h.map_fst]
  exact nodup_keys_matchedItems

theorem mem_ranked (h : RankRun columns db runId now out run ranked) {e : ResultKey × SkuItem}
    (he : e ∈ ranked) : e.1.1 = runId ∧ e.2.state = .matched := by
  obtain ⟨e₀, he₀, hrank⟩ := exists_of_mem_right h.history he
  obtain ⟨-, hid, hstate⟩ := mem_matchedItems.1 he₀
  obtain ⟨hkey, hevidence⟩ := rankItem_eq_ok hrank
  have hsame : e.2.state = e₀.2.state := congrArg (fun v => v.2.1) hevidence
  exact ⟨by rw [hkey, hid], hsame.trans hstate⟩

theorem nodup_sorted (h : RankRun columns db runId now out run ranked) :
    ((ranked.insertionSort (RankedBefore columns)).map Prod.fst).Nodup :=
  (((List.perm_insertionSort _ ranked).map Prod.fst).nodup_iff).2 h.nodup

/-- **What a ranking leaves as the matched items**: the sorted ones, with their positions. -/
theorem matchedItems_perm (h : RankRun columns db runId now out run ranked) :
    (matchedItems out runId).Perm (placed 1 (ranked.insertionSort (RankedBefore columns))) := by
  have hkeys := h.nodup_sorted
  refine perm_of_nodup_map Prod.fst nodup_keys_matchedItems (by rwa [map_fst_placed]) ?_
  rintro ⟨key, item⟩
  rw [mem_matchedItems, h.items, get?_writeRanked _ _ hkeys]
  constructor
  · rintro ⟨hplaced | ⟨hother, hitem⟩, hid, hstate⟩
    · exact hplaced
    · -- A matched item that was not ranked.
      have hmem : (key, item) ∈ matchedItems db runId :=
        mem_matchedItems.2 ⟨hitem, hid, hstate⟩
      have hkey := List.mem_map_of_mem (f := Prod.fst) hmem
      rw [← h.map_fst, ← ((List.perm_insertionSort (RankedBefore columns) ranked).map
        Prod.fst).mem_iff] at hkey
      exact absurd hkey hother
  · intro hplaced
    refine ⟨.inl hplaced, ?_⟩
    obtain ⟨⟨e, i⟩, he, heq⟩ := List.mem_map.1 hplaced
    obtain ⟨rfl, rfl⟩ := Prod.mk.inj heq
    have hmem : e ∈ ranked := (List.mem_insertionSort _).1 (List.fst_mem_of_mem_zipIdx he)
    obtain ⟨hid, hstate⟩ := h.mem_ranked hmem
    exact ⟨hid, hstate⟩

theorem length_sorted (h : RankRun columns db runId now out run ranked) :
    (ranked.insertionSort (RankedBefore columns)).length = (matchedItems db runId).length := by
  rw [List.length_insertionSort, ← List.length_map (f := Prod.fst), h.map_fst, List.length_map]

/-- **A ranked run is ranked.** -/
theorem skuRanks (h : RankRun columns db runId now out run ranked) :
    SkuRanks columns runId (matchedItems db runId).length out where
  positions := by
    refine (h.matchedItems_perm.map _).trans ?_
    rw [map_rankPosition_placed, h.length_sorted]
  sorted := by
    intro a ha b hb i j hi hj hij
    rw [h.matchedItems_perm.mem_iff] at ha hb
    obtain ⟨⟨a₀, m⟩, ha₀, rfl⟩ := List.mem_map.1 ha
    obtain ⟨⟨b₀, n⟩, hb₀, rfl⟩ := List.mem_map.1 hb
    obtain rfl := Option.some.inj hi
    obtain rfl := Option.some.inj hj
    obtain ⟨hm, ham⟩ := List.mk_mem_zipIdx_iff_le_and_getElem?_sub.1 ha₀
    obtain ⟨hn, hbn⟩ := List.mk_mem_zipIdx_iff_le_and_getElem?_sub.1 hb₀
    obtain ⟨hm', hma⟩ := List.getElem?_eq_some_iff.1 ham
    obtain ⟨hn', hnb⟩ := List.getElem?_eq_some_iff.1 hbn
    have hsorted := List.pairwise_iff_getElem.1
      (List.pairwise_insertionSort (RankedBefore columns) ranked) (m - 1) (n - 1) hm' hn'
      (by omega)
    rw [hma, hnb] at hsorted
    exact hsorted

theorem ranked_eq (h : RankRun columns db runId now out run ranked)
    (h' : RankRun columns db' runId now out' run ranked')
    (hitems : matchedItems db runId = matchedItems db' runId)
    (hsame : ∀ e ∈ matchedItems db runId, ∀ skuId, e.2.selectedSkuId = some skuId →
      SameHistory runId now e.1.2 skuId db db') : ranked = ranked' := by
  have hloop := mapM_eq_ok.2 h.history
  have hloop' := mapM_eq_ok.2 h'.history
  rw [← hitems, ← mapM_congr fun e he => rankItem_congr (hsame e he), hloop] at hloop'
  exact Except.ok.inj hloop'

/-- **The order the rows are stored in does not matter.** -/
theorem matchedItems_eq (h : RankRun columns db runId now out run ranked)
    (h' : RankRun columns db' runId now out' run ranked')
    (hitems : (storedMatches db runId).Perm (storedMatches db' runId))
    (hsame : ∀ e ∈ matchedItems db runId, ∀ skuId, e.2.selectedSkuId = some skuId →
      SameHistory runId now e.1.2 skuId db db') :
    matchedItems out runId = matchedItems out' runId := by
  obtain rfl := h.ranked_eq h' (matchedItems_eq_of_perm hitems) hsame
  refine matchedItems_eq_of_perm ?_
  exact (storedMatches_perm.symm.trans (h.matchedItems_perm.trans h'.matchedItems_perm.symm)).trans
    storedMatches_perm

/-- The statistics an item is left with. -/
theorem statistics_eq (h : RankRun columns db runId now out run ranked)
    {key : ResultKey} {item : SkuItem} (hitem : (key, item) ∈ matchedItems db runId) :
    ∃ e, rankItem columns db runId run now (key, item) = .ok e ∧
      (out.items.get? key).map SkuItem.statistics = some (SkuItem.statistics e.2) := by
  obtain ⟨e, he, hrank⟩ := exists_of_mem_right h.history.flip hitem
  refine ⟨e, hrank, ?_⟩
  obtain ⟨hkey, -⟩ := rankItem_eq_ok hrank
  rw [← List.mem_insertionSort (RankedBefore columns),
    ← List.zipIdx_map_fst 1 (ranked.insertionSort (RankedBefore columns))] at he
  obtain ⟨⟨e, i⟩, hi, rfl⟩ := List.mem_map.1 he
  have hplaced := List.mem_map_of_mem (f := fun e : (ResultKey × SkuItem) × Nat =>
    (e.1.1, { e.1.2 with rankPosition := some e.2 })) hi
  have hout := (get?_writeRanked db.items 1 h.nodup_sorted _ _).2 (.inl hplaced)
  rw [← h.items, hkey] at hout
  rw [hout]
  rfl

end RankRun

/-- **The ranking of a run.**  The statistics of an item depend on the history of its SKU
alone, the positions are the numbers from one to the number of matched items in the order of
the key, and for the same items with the same histories the ranked items are the same, whatever
order the items are stored in. -/
theorem rankRun_spec (h : rankRun columns db runId now = .ok out)
    (h' : rankRun columns db' runId now = .ok out')
    (hrun : db.runs.get? runId = db'.runs.get? runId) :
    (∀ productId item skuId, ((runId, productId), item) ∈ matchedItems db runId →
      ((runId, productId), item) ∈ matchedItems db' runId → item.selectedSkuId = some skuId →
      SameHistory runId now productId skuId db db' →
      (out.items.get? (runId, productId)).map SkuItem.statistics =
        (out'.items.get? (runId, productId)).map SkuItem.statistics) ∧
    SkuRanks columns runId (matchedItems db runId).length out ∧
    ((storedMatches db runId).Perm (storedMatches db' runId) →
      (∀ e ∈ matchedItems db runId, ∀ skuId, e.2.selectedSkuId = some skuId →
        SameHistory runId now e.1.2 skuId db db') →
      matchedItems out runId = matchedItems out' runId) := by
  obtain ⟨run, ranked, hranks⟩ := rankRun_eq_ok h
  obtain ⟨run', ranked', hranks'⟩ := rankRun_eq_ok h'
  have hrow := hranks.row
  rw [hrun, hranks'.row] at hrow
  obtain rfl := Option.some.inj hrow
  refine ⟨?_, hranks.skuRanks, fun hitems hsame => hranks.matchedItems_eq hranks' hitems hsame⟩
  intro productId item skuId hitem hitem' hsku hhistory
  obtain ⟨e, hrank, hstatistics⟩ := hranks.statistics_eq hitem
  obtain ⟨e', hrank', hstatistics'⟩ := hranks'.statistics_eq hitem'
  have hcongr : rankItem columns db runId run' now ((runId, productId), item) =
      rankItem columns db' runId run' now ((runId, productId), item) := by
    refine rankItem_congr fun skuId' hsku' => ?_
    obtain rfl := Option.some.inj (hsku.symm.trans hsku')
    exact hhistory
  rw [hrank, hrank'] at hcongr
  obtain rfl := Except.ok.inj hcongr
  rw [hstatistics, hstatistics']

/-! ## Two products -/

/-- A running run with two matched items that differ in their product alone, and with no
history. -/
def twoMatched (first second : Text) : SkuDb where
  runs := (∅ : SqlTable Nat SkuRun).put 2 (NewSkuRun.row ⟨1, [], [], 10, 10, 5, 0, 1⟩ 0)
  claims := ∅
  cache := ∅
  items := ((∅ : SqlTable ResultKey SkuItem).put (2, first) matched).put (2, second) matched
  snapshots := ∅
  nextToken := 1
where
  matched : SkuItem :=
    { skuQueryFingerprint := [], origin := .cache, state := .matched, sourceProductScore := 50
      selectedSkuId := some "5".toList, salePriceWithTax := some 10
      currency := some "BRL".toList, historyMedian := none, historySnapshotCount := 0
      priceDropPercent := none, classification := none, rankPosition := none, errorCode := none
      alternatives := [] }

/-- The database after the run was ranked. -/
def rankedTwo (first second : Text) : SkuDb :=
  ((rankRun .halfEven (twoMatched first second) 2 0).toOption).getD (twoMatched first second)

theorem rankRun_twoMatched (first second : Text)
    (h : (rankRun .halfEven (twoMatched first second) 2 0).toOption.isSome) :
    rankRun .halfEven (twoMatched first second) 2 0 = .ok (rankedTwo first second) := by
  obtain ⟨out, hout⟩ := Option.isSome_iff_exists.1 h
  rw [rankedTwo, hout, Option.getD_some]
  exact toOption_eq_some.1 hout

/-- The products `7` and `07`, stored in either order: they tie on the whole key, and `07` comes
first in both. -/
theorem rankRun_spec_twoMatched :
    matchedItems (rankedTwo "7".toList "07".toList) 2 =
        matchedItems (rankedTwo "07".toList "7".toList) 2 ∧
      (matchedItems (rankedTwo "7".toList "07".toList) 2).map
          (fun e => (e.1.2, e.2.rankPosition)) =
        [("07".toList, some 1), ("7".toList, some 2)] := by
  have hspec := rankRun_spec
    (rankRun_twoMatched "7".toList "07".toList (by decide +kernel))
    (rankRun_twoMatched "07".toList "7".toList (by decide +kernel)) rfl
  refine ⟨hspec.2.2 (List.Perm.swap _ _ _) ?_, by decide +kernel⟩
  intro _ _ _ _ _ _
  rfl

end SkuRefinementRepository
end PromoBot
