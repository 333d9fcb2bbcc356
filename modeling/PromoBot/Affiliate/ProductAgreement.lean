import PromoBot.Affiliate.Conversion
import PromoBot.Security.ShortLinkProduct
import PromoBot.Stores.Idempotence

/-!
# Three readings of a product

The resolver of short links reads a product off the address a chain of redirects ends at
(`productFromUrl`), the relay off the identity address it is given (`canonicalizeStoreUrl`),
and the converter writes the address a promotion link is asked for
(`Conversion.generationUrl`).  They agree: the identity address of a resolved product is the
canonical address of that product in that variation, and the addresses a promotion link is
generated for are the same.

## Why this is not one function called thrice

The three parts were written apart, and each has a list of hosts, a list of query keys and a
pattern of its own.  The resolver takes the address of a page, on any regional or mobile host,
with tracking keys and a fragment, and must refuse what names two skus; the relay takes what
the resolver wrote; the converter writes what is sent to the provider.  If the variation were
spelled differently by two of them, the candidate of a message and the link generated for it
would be of different products, and no check in between would notice.

The agreement has two halves.  `productPageUrl_identity` is that what the resolver writes is
what the relay calls canonical, and so, by `Stores/Idempotence`, what the relay reads as this
very product.  `identifies_of_namesProduct` is about the address itself, before it is
rewritten: where the relay recognizes it at all, it recognizes the product the resolver reads.
There the queries are compared key by key (`variationKey_skuValues`): the resolver gathers the
values under all the keys which name a sku and asks for one value in all, and the relay takes
the first key that has one.
-/

namespace PromoBot
namespace ShortLinkResolver

open PyUrl PyUnicode Urls Fallible

variable {u : PyUnicode} {ips : IpAddresses}

/-! ## The addresses of a product -/

def variationOf (skuId : Option Text) : Text := (skuId.map ("sku_id:".toList ++ ·)).getD []

/-- **The identity address is the canonical address** of the product in its variation. -/
theorem productPageUrl_identity (hu : u.ReadsBack) {productId : Text} (hid : IsNumber 1 productId)
    (skuId : Option Text) :
    productPageUrl "www.aliexpress.com".toList productId skuId =
      canonicalUrlOf u .aliexpress productId (variationOf skuId) := by
  have hpath : '/' :: canonicalPath .aliexpress productId =
      "/item/".toList ++ productId ++ ".html".toList := rfl
  cases skuId with
  | none =>
    have hwritten : urlunsplit ⟨"https".toList, canonicalHost .aliexpress,
        '/' :: canonicalPath .aliexpress productId, [], []⟩ = _ :=
      urlunsplit_https [] (plainHost_canonicalHost .aliexpress).1
    rw [hpath, show queryPart [] = [] from rfl, List.append_nil, ← hpath] at hwritten
    exact hwritten
  | some v =>
    have hplain : ∀ c ∈ canonicalPath .aliexpress productId,
        c ≠ '?' ∧ c ≠ '#' ∧ isUnsafe c = false := plain_canonicalPath hid
    have hlower : u.lower "https".toList = "https".toList := hu.lower_ascii _ (by decide)
    have hkey : ':' ∉ "sku_id".toList := by decide
    exact (canonicalUrlOf_named u hlower v hplain hkey).symm

/-! ## The address a link is generated for -/

/-- The converter writes the address the resolver wrote. -/
theorem generationUrl_variationOf (env : Conversion.Environment) (productId : Text)
    {skuId : Option Text} (hsku : ∀ v, skuId = some v → isDigits env.unicode v = true) :
    Conversion.generationUrl env productId (variationOf skuId) =
      .ok (productPageUrl "pt.aliexpress.com".toList productId skuId) := by
  cases skuId with
  | none => rfl
  | some v =>
    have hne : variationOf (some v) ≠ [] := by
      show "sku_id:".toList ++ v ≠ []
      exact List.append_ne_nil_of_left_ne_nil (by decide) v
    have hpartition : Text.partition ':' (variationOf (some v)) = ("sku_id".toList, some v) :=
      Text.partition_append_cons v (show ':' ∉ "sku_id".toList by decide)
    unfold Conversion.generationUrl
    rw [if_neg hne, hpartition]
    dsimp only
    rw [if_neg (by rw [hsku v rfl]; decide)]
    rfl

/-! ## The address itself -/

/-- The entries of a query that name a sku. -/
def skuEntries (query : List (Text × Text)) : List (Text × Text) :=
  query.filter fun e => e.1 ∈ ["sku_id".toList, "skuid".toList]

theorem map_snd_skuEntries (query : Text) :
    (skuEntries (foldedQuery u query)).map Prod.snd = skuValues u query := by
  rw [skuEntries, foldedQuery, List.filter_map, List.map_map]
  rfl

theorem valuesOf_skuEntries {query : List (Text × Text)} {key : Text}
    (h : key ∈ ["sku_id".toList, "skuid".toList]) :
    valuesOf (skuEntries query) key = valuesOf query key := by
  unfold valuesOf skuEntries
  rw [List.filter_filter]
  congr 1
  refine List.filter_congr fun e _ => ?_
  by_cases hkey : e.1 = key
  · rw [hkey]
    simpa using h
  · simp [hkey]

/-- The relay and the resolver find the same variation in a query. -/
theorem variationKey_skuValues {query : Text} {variation : Text} {skuId : Option Text}
    (hsku : skuIdOf u (skuValues u query) = .ok skuId)
    (h : variationKey u .aliexpress (foldedQuery u query) = some variation) :
    variation = variationOf skuId := by
  obtain ⟨hvalues, hdigits⟩ := skuIdOf_eq_ok hsku
  rw [← map_snd_skuEntries] at hvalues
  have hvaluesOf : ∀ key ∈ explicitKeys .aliexpress,
      valuesOf (foldedQuery u query) key = valuesOf (skuEntries (foldedQuery u query)) key :=
    fun key hkey => (valuesOf_skuEntries hkey).symm
  have hmem : ∀ e ∈ skuEntries (foldedQuery u query), e.1 ∈ explicitKeys .aliexpress :=
    fun e he => of_decide_eq_true (List.mem_filter.1 he).2
  generalize skuEntries (foldedQuery u query) = entries at hvalues hvaluesOf hmem
  have hkeys : (explicitKeys .aliexpress).filter (fun key =>
      valuesOf (foldedQuery u query) key ≠ []) =
        (explicitKeys .aliexpress).filter fun key => valuesOf entries key ≠ [] :=
    List.filter_congr fun key hkey => by rw [hvaluesOf key hkey]
  unfold variationKey at h
  rw [hkeys] at h
  split at h
  · cases h
  cases skuId with
  | none =>
    obtain rfl : entries = [] := List.map_eq_nil_iff.1 hvalues
    exact (Option.some.inj h).symm
  | some v =>
    obtain ⟨⟨key, value⟩, rfl, rfl⟩ := List.map_eq_singleton_iff.1 hvalues
    have hone : (explicitKeys .aliexpress).filter (fun k => valuesOf [(key, value)] k ≠ []) = [key] ∧
        valuesOf [(key, value)] key = [value] := by
      have hkey : key = "sku_id".toList ∨ key = "skuid".toList := by
        simpa [explicitKeys] using hmem _ (List.mem_singleton_self _)
      rcases hkey with rfl | rfl
      · exact ⟨rfl, rfl⟩
      · exact ⟨rfl, rfl⟩
    rw [hone.1] at h
    dsimp only at h
    rw [hvaluesOf key (hmem _ (List.mem_singleton_self _)), hone.2] at h
    dsimp only at h
    rw [if_pos (hdigits value rfl)] at h
    exact (Option.some.inj h).symm

/-- A host of AliExpress belongs to AliExpress, and the mobile one to no store. -/
theorem storeForHost_networkHop (hu : u.ReadsBack) {hostname : Text} {store : Store}
    (hmem : hostname ∈ networkHopHosts) (hshort : hostname ∉ shortHosts)
    (h : storeForHost u hostname = some store) :
    store = .aliexpress ∧ hostname ≠ mobileHopHost := by
  have hplain : ∀ host ∈ networkHopHosts, host.rstripBy (· = '.') = host ∧ host.isAscii = true ∧
      labelsFit (host.split '.') = true ∧ host.map Char.toLower = host := by decide
  obtain ⟨hstrip, hascii, hfit, hlower⟩ := hplain hostname hmem
  have hnormal : normalizeHostname u hostname = hostname := by
    rw [normalizeHostname, hstrip, hu.idna_ascii _ hascii hfit]
    show u.casefold hostname = _
    rw [hu.casefold_ascii _ hascii, hlower]
  have hstores : ∀ host ∈ networkHopHosts, host ∉ shortHosts →
      (storeHosts.find? fun e => host ∈ e.2).map Prod.fst =
        if host = mobileHopHost then none else some .aliexpress := by decide
  rw [storeForHost, hnormal, hstores hostname hmem hshort] at h
  split at h
  · cases h
  · next hne => exact ⟨(Option.some.inj h).symm, hne⟩

/-- An address that is recognized is recognized as the product the resolver reads off it. -/
theorem identifies_of_namesProduct (hu : u.ReadsBack) {url hostname productId : Text}
    {parts : SplitResult} {port : Option Nat} {skuId : Option Text}
    (hhop : AllowedHop u networkHopHosts url hostname parts port) (hshort : hostname ∉ shortHosts)
    (hnames : NamesProduct u hostname parts productId skuId)
    (hstate : (canonicalizeStoreUrl u url).state = .pendingAffiliate) :
    Identifies u url productId (variationOf skuId) := by
  obtain ⟨store, id, variation, canonical, hurl⟩ := exists_outcome u hstate
  have hstore : (canonicalizeStoreUrl u url).store = some store := by rw [hurl]
  have hresult : (canonicalizeStoreUrl u url).externalProductId = some id := by rw [hurl]
  obtain ⟨parts', hsplit, hhost, -⟩ := storeForHost_of_store u hstore
  obtain rfl := Option.some.inj (hhop.split.symm.trans hsplit)
  replace hhost : storeForHost u (hostOf u parts) = some store := hhost
  rw [hhop.host] at hhost
  obtain ⟨rfl, hmobile⟩ := storeForHost_networkHop hu hhop.allowed hshort hhost
  obtain ⟨store', parts', _, variation', hsplit', hproduct, hvariation, hurl'⟩ :=
    exists_parts_of_recognized u hresult
  obtain rfl := Option.some.inj (hhop.split.symm.trans hsplit')
  rw [hurl] at hurl'
  obtain ⟨-, -, hstore', -, hvariation', -⟩ := CanonicalUrlResult.mk.inj hurl'
  obtain rfl := Option.some.inj hstore'
  obtain rfl := Option.some.inj hvariation'
  -- The path is that of a product page from its beginning on.
  have hid : id = productId := by
    obtain ⟨hnumber, item, html, hpath, hitem, hhtml⟩ := productIdOf_eq_some hnames.path
    rw [product, hpath, search_aliexpress hnumber hitem hhtml, Option.map_some] at hproduct
    exact (Prod.mk.inj (Option.some.inj hproduct)).1.symm
  have hsku := hnames.sku
  rw [if_neg hmobile] at hsku
  refine ⟨by rw [hurl], by rw [hurl], by rw [hurl, hid], ?_⟩
  rw [hurl, variationKey_skuValues hsku hvariation]

/-! ## Agreement -/

/-- What the relay and the converter make of a product the resolver answered for an
address. -/
structure Agrees (env : Conversion.Environment) (url : Text) (p : ResolvedProduct) : Prop where
  identity : canonicalizeStoreUrl env.unicode p.identityUrl =
    ⟨.pendingAffiliate, "AFFILIATE_PROVIDER_UNAVAILABLE", some .aliexpress, some p.productId,
      some p.variationKey, some p.identityUrl⟩
  generation : Conversion.generationUrl env p.productId p.variationKey = .ok p.generationUrl
  resolved : (canonicalizeStoreUrl env.unicode url).state = .pendingAffiliate →
    Identifies env.unicode url p.productId p.variationKey

/-- **Resolver, relay and converter agree on a product.** -/
theorem productFromUrl_agrees {env : Conversion.Environment} (hu : env.unicode.ReadsBack)
    {url : Text} {redirectCount : Nat} {allowMobileTerminal : Bool} {p : ResolvedProduct}
    (h : productFromUrl env.unicode ips url redirectCount allowMobileTerminal = .ok p) :
    Agrees env url p := by
  obtain ⟨hostname, parts, port, skuId, hhop, hshort, hnames, hvariation, hidentity,
    hgeneration⟩ := productFromUrl_eq_ok h
  obtain ⟨hid, -⟩ := productIdOf_eq_some hnames.path
  obtain ⟨-, hdigits⟩ := skuIdOf_eq_ok hnames.sku
  replace hvariation : p.variationKey = variationOf skuId := hvariation
  rw [productPageUrl_identity hu hid] at hidentity
  constructor
  · rw [hidentity, hvariation]
    refine canonicalizeStoreUrl_canonicalUrlOf env.unicode hu hid ?_
    cases skuId with
    | none => exact Or.inl rfl
    | some v => exact Or.inr ⟨"sku_id".toList, v, by decide, hdigits v rfl, rfl⟩
  · rw [hvariation, hgeneration]
    exact generationUrl_variationOf env p.productId hdigits
  · intro hstate
    rw [hvariation]
    exact identifies_of_namesProduct hu hhop hshort hnames hstate

/-- The address of a variation, on a regional host, with tracking keys and a fragment. -/
theorem productFromUrl_agrees_item :
    let u : PyUnicode := { PyUnicode.ascii with upper := fun t => t.map Text.upperLetter }
    let url := "https://de.aliexpress.com/ITEM/1005.html?SkuId=12&spm=a#b".toList
    let p : ResolvedProduct := ⟨"1005".toList, "sku_id:12".toList,
      "https://www.aliexpress.com/item/1005.html?sku_id=12".toList,
      "https://pt.aliexpress.com/item/1005.html?sku_id=12".toList, 2⟩
    productFromUrl u ⟨fun _ => none, fun _ => false⟩ url 2 true = .ok p ∧
      Agrees ⟨u, fun key message => key ++ message, .runtime⟩ url p := by
  intro u url p
  have h : productFromUrl u ⟨fun _ => none, fun _ => false⟩ url 2 true = .ok p := by
    decide +kernel
  exact ⟨h, productFromUrl_agrees readsBack_ascii h⟩

end ShortLinkResolver
end PromoBot
