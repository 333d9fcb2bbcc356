import PromoBot.Discovery.QueryBudget
import PromoBot.Providers.DiscoveryParser

/-!
# A page replayed from the cache

What the parser accepts, what the columns of the cache can hold and what a decoded product is
ranked by were written apart from each other.  `DiscoveryPage.Storable` is what has to be so of
a page for the three to agree: its integers fit a column, and its decimals have no more
decimals than their columns keep.  The parser sees to the rest, the sign of a price and the
bound of the score.

## Both directions

That a storable page comes back is a round trip, column by column: what is encoded is decoded
to what it was (`discoveryProduct_ofProduct_iff`), the rows come back in the order of their
positions, and a product that is equal is ranked equally.  The other direction says that
nothing less is enough.  A decimal with a digit more than its column keeps is another number
afterwards, because rounding to so many places is the identity only on those which have them
(`map_read_eq_self_iff`), and an integer that does not fit makes the insertion raise, so that
the page is not stored at all (`insertable_ofPage_iff`).

A page is one or the other as a whole.  One price with three decimals is enough for the
products not to be those that were received, and `discovery_notReplayed` has such a page: what
the live scan ranks at 9.999 the cached one ranks at 10.

The condition is on the page and not on the payload.  Which pages the parser can return is not
used but for the two facts it checks itself, so a change of the parser does not change the
theorem as long as it keeps to these.
-/

namespace PromoBot

open Discovery DiscoveryParser DiscoveryRepository Fallible SqlTable

variable {columns : NumericType} {digit : Char → Option Nat}

/-! ## Products -/

/-- The decimals of a product are not rounded by their columns. -/
structure DiscoveryProduct.Exact (p : DiscoveryProduct) : Prop where
  price : ∀ q ∈ p.targetBrlPrice, Decimal.HasDecimals 2 q
  discount : ∀ q ∈ p.declaredDiscountPercent, Decimal.HasDecimals 4 q
  commission : ∀ q ∈ p.commissionRate, Decimal.HasDecimals 4 q
  hotCommission : ∀ q ∈ p.hotProductCommissionRate, Decimal.HasDecimals 4 q

theorem map_read_eq_self_iff {s : ℕ} {value : Option Decimal} :
    value.map (columns.read s) = value ↔ ∀ q ∈ value, Decimal.HasDecimals s q := by
  cases value with
  | none => simp
  | some q =>
    rw [Option.map_some, Option.some.injEq, columns.read_eq_self_iff]
    constructor
    · rintro h q' hq'
      obtain rfl := Option.some.inj hq'
      exact h
    · exact fun h => h q rfl

/-- **Decoding an encoded product gives it back** exactly if its decimals are kept. -/
theorem discoveryProduct_ofProduct_iff (p : DiscoveryProduct) :
    (CacheProduct.ofProduct p).discoveryProduct columns = p ↔ p.Exact := by
  have hdiagnostics : (p.diagnostics.sort (· ≤ ·)).toFinset = p.diagnostics :=
    Finset.sort_toFinset ..
  constructor
  · intro h
    constructor
    · exact map_read_eq_self_iff.1 (congrArg DiscoveryProduct.targetBrlPrice h)
    · exact map_read_eq_self_iff.1 (congrArg DiscoveryProduct.declaredDiscountPercent h)
    · exact map_read_eq_self_iff.1 (congrArg DiscoveryProduct.commissionRate h)
    · exact map_read_eq_self_iff.1 (congrArg DiscoveryProduct.hotProductCommissionRate h)
  · intro h
    unfold CacheProduct.discoveryProduct CacheProduct.ofProduct
    dsimp only
    rw [map_read_eq_self_iff.2 h.price, map_read_eq_self_iff.2 h.discount,
      map_read_eq_self_iff.2 h.commission, map_read_eq_self_iff.2 h.hotCommission, hdiagnostics]

/-! ## Pages -/

/-- The integers of a page fit their columns. -/
structure DiscoveryPage.Fits (page : DiscoveryPage) : Prop where
  current : ∀ count ∈ page.currentRecordCount, FitsInteger count
  total : ∀ count ∈ page.totalRecordCount, FitsInteger count
  items : FitsInteger page.itemCount
  volumes : ∀ p ∈ page.products, ∀ volume ∈ p.volume, FitsInteger volume

/-- **The page comes back from the cache as it was.** -/
def DiscoveryPage.Storable (page : DiscoveryPage) : Prop :=
  page.Fits ∧ ∀ p ∈ page.products, p.Exact

/-- The rows of an accepted page are inserted exactly if its integers fit. -/
theorem insertable_ofPage_iff {operation : DiscoveryOperation} {page : DiscoveryPage}
    {now : Instant} (h : ∀ p ∈ page.products, Accepted p) :
    (QueryCache.ofPage operation page now).Insertable ↔ page.Fits := by
  unfold QueryCache.Insertable QueryCache.ofPage
  constructor
  · rintro ⟨hcurrent, htotal, hitems, hproducts⟩
    refine ⟨hcurrent, htotal, hitems, fun p hp volume hvolume => ?_⟩
    obtain ⟨-, -, hvolumes⟩ := hproducts _ (List.mem_map_of_mem hp)
    exact hvolumes volume hvolume
  · intro hfits
    refine ⟨hfits.current, hfits.total, hfits.items, fun row hrow => ?_⟩
    obtain ⟨p, hp, rfl⟩ := List.mem_map.1 hrow
    exact ⟨(h p hp).price_pos, (h p hp).completeness_le, hfits.volumes p hp⟩

variable (columns) in
theorem products_page_ofPage_iff (operation : DiscoveryOperation) {page : DiscoveryPage}
    (now : Instant) :
    ((QueryCache.ofPage operation page now).page columns).products = page.products ↔
      ∀ p ∈ page.products, p.Exact := by
  show (page.products.map CacheProduct.ofProduct).map (CacheProduct.discoveryProduct columns) =
    page.products ↔ _
  have hself : page.products.map id = page.products := List.map_id page.products
  rw [List.map_map]
  constructor
  · intro h p hp
    exact (discoveryProduct_ofProduct_iff p).1 (List.map_eq_map_iff.1 (h.trans hself.symm) p hp)
  · intro h
    refine Eq.trans (List.map_congr_left fun p hp => ?_) hself
    exact (discoveryProduct_ofProduct_iff p).2 (h p hp)

/-! ## The repository -/

/-- The page of a claim can be stored: the run is there, holds the claim, and nothing is cached. -/
structure CanStore (db : DiscoveryDb) (runId : Nat) (key : QueryKey) (token : Nat)
    (now : Instant) : Prop where
  held : ∃ claim, db.claims.get? key = some claim ∧ HeldBy runId token now claim
  run : ∃ run, db.runs.get? runId = some run
  free : db.cache.get? key = none

theorem finishQuerySuccess_eq_ok_iff {db db' : DiscoveryDb} {runId token : Nat} {key : QueryKey}
    {page : DiscoveryPage} {now : Instant} {run : DiscoveryRun}
    (hstore : CanStore db runId key token now) (hrun : db.runs.get? runId = some run) :
    finishQuerySuccess db runId key token page now = .ok db' ↔
      (QueryCache.ofPage run.sourceOperation page now).Insertable ∧
        db' = { db with
          cache := db.cache.put key (QueryCache.ofPage run.sourceOperation page now)
          claims := releaseClaim db.claims key token
          runs := db.runs.updateWhere (fun id _ => id = runId) fun run =>
            { run with
              pageCount := run.pageCount + 1
              receivedCount := run.receivedCount + page.itemCount } } := by
  have hread := readHeld_eq_ok_iff.2 ⟨hstore.held, hrun⟩
  unfold finishQuerySuccess storePage
  constructor
  · intro h
    obtain ⟨run', hrun', h⟩ := bind_eq_ok.1 h
    obtain rfl := Except.ok.inj (hrun'.symm.trans hread)
    obtain ⟨⟨⟩, -, h⟩ := bind_eq_ok.1 h
    obtain ⟨⟨⟩, hinsertable, h⟩ := bind_eq_ok.1 h
    exact ⟨check_eq_ok.1 hinsertable, (Except.ok.inj h).symm⟩
  · rintro ⟨hinsertable, rfl⟩
    refine bind_eq_ok.2 ⟨run, hread, bind_eq_ok.2 ⟨⟨⟩, check_eq_ok.2 hstore.free,
      bind_eq_ok.2 ⟨⟨⟩, check_eq_ok.2 hinsertable, rfl⟩⟩⟩

/-- Storing the page of a claim succeeds, its rows decode to the products of the page, in order,
and each is ranked as the live one. -/
def ReplaysFrom (columns : NumericType) (page : DiscoveryPage) (db : DiscoveryDb) (runId : Nat)
    (key : QueryKey) (token : Nat) (now : Instant) : Prop :=
  ∃ db' cached, finishQuerySuccess db runId key token page now = .ok db' ∧
    db'.cache.get? key = some cached ∧ (cached.page columns).products = page.products ∧
    ∀ prior minimumDrop,
      (cached.page columns).products.map (rankDiscoveryProduct · prior minimumDrop) =
        page.products.map (rankDiscoveryProduct · prior minimumDrop)

theorem replaysFrom_iff {page : DiscoveryPage} {db : DiscoveryDb} {runId token : Nat}
    {key : QueryKey} {now : Instant} (haccepted : ∀ p ∈ page.products, Accepted p)
    (hstore : CanStore db runId key token now) :
    ReplaysFrom columns page db runId key token now ↔ page.Storable := by
  obtain ⟨run, hrun⟩ := hstore.run
  constructor
  · rintro ⟨db', cached, hfinish, hcached, hproducts, -⟩
    obtain ⟨hinsertable, rfl⟩ := (finishQuerySuccess_eq_ok_iff hstore hrun).1 hfinish
    obtain rfl := Option.some.inj ((get?_put_self ..).symm.trans hcached)
    exact ⟨(insertable_ofPage_iff haccepted).1 hinsertable, (products_page_ofPage_iff ..).1 hproducts⟩
  · rintro ⟨hfits, hexact⟩
    have hproducts := (products_page_ofPage_iff columns run.sourceOperation now).2 hexact
    refine ⟨_, QueryCache.ofPage run.sourceOperation page now, (finishQuerySuccess_eq_ok_iff hstore hrun).2
      ⟨(insertable_ofPage_iff haccepted).2 hfits, rfl⟩, get?_put_self .., hproducts, ?_⟩
    intro prior minimumDrop
    rw [hproducts]

/-- **Replaying a page from the cache gives what the live call gave** exactly if its integers fit
their columns and its decimals have no more decimals than their columns keep. -/
theorem discovery_replaysFrom_iff {payload : List (String × Json)} {page : DiscoveryPage}
    (hparse : parseDiscoveryProductQuery digit payload = .ok page) {db : DiscoveryDb}
    {runId token : Nat} {key : QueryKey} {now : Instant}
    (hstore : CanStore db runId key token now) :
    ReplaysFrom columns page db runId key token now ↔ page.Storable :=
  replaysFrom_iff (accepted_of_parse hparse) hstore

/-! ## A price with three decimals -/

/-- A response with one product, of one price. -/
def onePrice (price : Text) : List (String × Json) :=
  [("resp_result", .obj [("resp_code", .int 200), ("result", .obj [("products", .arr [.obj
    [("product_id", .int 7), ("target_sale_price", .str price),
      ("target_sale_price_currency", .str "BRL".toList)]])])])]

/-- The page of that response. -/
def onePricePage (price : Text) : DiscoveryPage :=
  ((parseDiscoveryProductQuery (fun _ => none) (onePrice price)).toOption).getD ⟨[], none, none, 0⟩

theorem parse_onePrice (price : Text)
    (h : (parseDiscoveryProductQuery (fun _ => none) (onePrice price)).toOption.isSome = true) :
    parseDiscoveryProductQuery (fun _ => none) (onePrice price) = .ok (onePricePage price) := by
  obtain ⟨page, hpage⟩ := Option.isSome_iff_exists.1 h
  rw [onePricePage, hpage, Option.getD_some]
  exact toOption_eq_some.1 hpage

theorem canStore_contested :
    CanStore contested.db 1 (Scanner.key (Scanner.started smallJob 1)) 2 3 := by
  have hheld : ∃ claim ∈ contested.db.claims.get? (Scanner.key (Scanner.started smallJob 1)),
      HeldBy 1 2 3 claim := by decide +kernel
  have hrun : (contested.db.runs.get? 1).isSome = true := by decide +kernel
  exact ⟨hheld, Option.isSome_iff_exists.1 hrun, by decide +kernel⟩

theorem discovery_replaysFrom_iff_ten :
    ReplaysFrom NumericType.halfEven (onePricePage "9.99".toList) contested.db 1
      (Scanner.key (Scanner.started smallJob 1)) 2 3 ↔ (onePricePage "9.99".toList).Storable :=
  discovery_replaysFrom_iff (parse_onePrice _ (by decide +kernel)) canStore_contested

/-- **A price of 9.999 comes back as 10.** -/
theorem discovery_notReplayed :
    ¬ ∀ (digit : Char → Option Nat) (columns : NumericType) (payload : List (String × Json))
      (page : DiscoveryPage), parseDiscoveryProductQuery digit payload = .ok page →
        ∀ db runId key token now, CanStore db runId key token now →
          ReplaysFrom columns page db runId key token now := by
  intro h
  obtain ⟨db', cached, hfinish, hcached, hproducts, -⟩ := h _ NumericType.halfEven _ _
    (parse_onePrice _ (by decide +kernel : (parseDiscoveryProductQuery (fun _ => none)
      (onePrice "9.999".toList)).toOption.isSome = true)) _ _ _ _ _ canStore_contested
  obtain ⟨run, hrun⟩ := canStore_contested.run
  obtain ⟨-, rfl⟩ := (finishQuerySuccess_eq_ok_iff canStore_contested hrun).1 hfinish
  obtain rfl := Option.some.inj ((get?_put_self ..).symm.trans hcached)
  have hprices := congrArg (List.map DiscoveryProduct.targetBrlPrice) hproducts
  have hrounded : (onePricePage "9.999".toList).products.map DiscoveryProduct.targetBrlPrice =
      [some (9999 / 1000)] := by decide +kernel
  have hread : ((onePricePage "9.999".toList).products.map fun p =>
      p.targetBrlPrice.map (NumericType.halfEven.read 2)) = [some 10] := by decide +kernel
  have hsame : (onePricePage "9.999".toList).products.map (fun p =>
      p.targetBrlPrice.map (NumericType.halfEven.read 2)) =
        (onePricePage "9.999".toList).products.map DiscoveryProduct.targetBrlPrice := by
    refine Eq.trans ?_ hprices
    show _ = List.map _ (List.map _ (List.map _ _))
    rw [List.map_map, List.map_map]
    rfl
  rw [hread, hrounded] at hsame
  exact absurd hsame (by decide +kernel)

end PromoBot
