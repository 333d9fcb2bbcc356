import PromoBot.Lib.UrlRoundTrip
import PromoBot.Stores.Urls

/-!
# What a canonical address says

`canonicalize_store_url` answers a store, a product id, a variation and a
canonical address.  The canonical address is written from the other three
(`canonicalUrlOf`), and, where a store has variations at all, the variation is
read back from it (`variationKey_canonical`).  So for one product two
canonical addresses are the same exactly when the variations are.
-/

namespace PromoBot
namespace Urls

open PyUrl PyUnicode

variable (u : PyUnicode)

/-! ## What a pattern captures -/

/-- A number of at least so many digits, as the patterns capture it. -/
def IsNumber (least : Nat) (t : Text) : Prop :=
  least ≤ t.length ∧ ∀ c ∈ t, Text.isAsciiDigit c = true

section Groups

open Regex

theorem groups_of_literalIgnoreCase {w t : Text} {m : Match}
    (hm : m ∈ (literalIgnoreCase w).allMatches t) : m.groups = [] := by
  obtain ⟨_, _, _, _, rfl⟩ := mem_allMatches_literalIgnoreCase.1 hm
  rfl

theorem groups_of_literal {w t : Text} {m : Match} (hm : m ∈ (literal w).allMatches t) :
    m.groups = [] := by
  unfold literal at hm
  induction w generalizing t m with
  | nil =>
    rw [List.foldr_nil, mem_allMatches_nothing] at hm
    rw [hm]
  | cons c w ih =>
    rw [List.foldr_cons] at hm
    obtain ⟨k, hk, n, hn, hmatch⟩ := mem_allMatches_seq.1 hm
    obtain ⟨_, _, _, _, rfl⟩ := mem_allMatches_one.1 hk
    rw [hmatch, ih hn]
    rfl

theorem groups_of_boundary {t : Text} {m : Match} (hm : m ∈ boundary.allMatches t) :
    m.groups = [] := by
  rcases mem_allMatches_either.1 hm with h | h
  · obtain ⟨_, _, _, _, rfl⟩ := mem_allMatches_one.1 h
    rfl
  · rw [(mem_allMatches_atEnd.1 h).2]

theorem groups_of_digits {least : Nat} {t : Text} {m : Match}
    (hm : m ∈ (Regex.group (.many Text.isAsciiDigit least)).allMatches t) :
    m.groups = [m.text] ∧ IsNumber least m.text := by
  obtain ⟨k, hk, rfl⟩ := mem_allMatches_group.1 hm
  obtain ⟨-, hall, hleast, hgroups⟩ := mem_allMatches_many.1 hk
  exact ⟨by rw [hgroups], hleast, hall⟩

/-- Two numbers with a literal before and a literal between them. -/
theorem groups_of_twoNumbers {r s : Regex} {t : Text} {m : Match}
    (hr : ∀ {t m}, m ∈ r.allMatches t → m.groups = [])
    (hs : ∀ {t m}, m ∈ s.allMatches t → m.groups = [])
    (hm : m ∈ (Regex.seq r (.seq number (.seq s (.seq number boundary)))).allMatches t) :
    ∃ p q, m.groups = [p, q] ∧ IsNumber 1 p ∧ IsNumber 1 q := by
  obtain ⟨first, hfirst, _, hm₁, rfl⟩ := mem_allMatches_seq.1 hm
  obtain ⟨shop, hshop, _, hm₂, rfl⟩ := mem_allMatches_seq.1 hm₁
  obtain ⟨between, hbetween, _, hm₃, rfl⟩ := mem_allMatches_seq.1 hm₂
  obtain ⟨item, hitem, last, hlast, rfl⟩ := mem_allMatches_seq.1 hm₃
  obtain ⟨hp, hpd⟩ := groups_of_digits hshop
  obtain ⟨hq, hqd⟩ := groups_of_digits hitem
  refine ⟨shop.text, item.text, ?_, hpd, hqd⟩
  simp [hr hfirst, hp, hs hbetween, hq, groups_of_boundary hlast]

theorem groups_of_shopee {path : Text} {m : Match}
    (hm : (shopeeProduct.search path).or (shopeeIProduct.search path) = some m) :
    ∃ p q, m.groups = [p, q] ∧ IsNumber 1 p ∧ IsNumber 1 q := by
  rcases Option.or_eq_some_iff.1 hm with h | ⟨-, h⟩
  · obtain ⟨t, ht⟩ := exists_mem_of_search h
    exact groups_of_twoNumbers groups_of_literalIgnoreCase groups_of_literal ht
  · obtain ⟨t, ht⟩ := exists_mem_of_search h
    exact groups_of_twoNumbers groups_of_literalIgnoreCase groups_of_literal ht

end Groups

/-! ## The address of a product -/

/-- The host the canonical addresses of a store have. -/
def canonicalHost : Store → Text
  | .amazon => "www.amazon.com.br".toList
  | .mercadolivre => "produto.mercadolivre.com.br".toList
  | .shopee => "shopee.com.br".toList
  | .aliexpress => "www.aliexpress.com".toList
  | .kabum => "www.kabum.com.br".toList

/-- What follows the host and a slash in the canonical address of a product. -/
def canonicalPath : Store → Text → Text
  | .amazon, externalId => "dp/".toList ++ externalId
  | .mercadolivre, externalId => "MLB-".toList ++ externalId.drop 3
  | .shopee, externalId =>
    "product/".toList ++ (externalId.partition ':').1 ++
      '/' :: (externalId.partition ':').2.getD []
  | .aliexpress, externalId => "item/".toList ++ externalId ++ ".html".toList
  | .kabum, externalId => "produto/".toList ++ externalId

/-- The canonical address of a product, before its variation. -/
def productUrl (store : Store) (externalId : Text) : Text :=
  "https:".toList ++ "//".toList ++ canonicalHost store ++ '/' :: canonicalPath store externalId

/-- The canonical address of a product in a variation. -/
def canonicalUrlOf (store : Store) (externalId variation : Text) : Text :=
  withVariation u (productUrl store externalId) variation

theorem canonicalPath_shopee {p q : Text} (h : ':' ∉ p) :
    canonicalPath .shopee (p ++ ':' :: q) = "product/".toList ++ p ++ '/' :: q := by
  show "product/".toList ++ (Text.partition ':' (p ++ ':' :: q)).1 ++
    '/' :: (Text.partition ':' (p ++ ':' :: q)).2.getD [] = _
  rw [Text.partition_append_cons q h, Option.getD_some]

theorem plain_of_digit {c : Char} (h : Text.isAsciiDigit c = true) :
    c ≠ ':' ∧ c ≠ '?' ∧ c ≠ '#' ∧ isUnsafe c = false := by
  have hne : ∀ d : Char, Text.isAsciiDigit d = false → c ≠ d := by
    rintro d hd rfl
    rw [h] at hd
    cases hd
  refine ⟨hne _ (by decide), hne _ (by decide), hne _ (by decide), ?_⟩
  simp [isUnsafe, hne '\t' (by decide), hne '\r' (by decide), hne '\n' (by decide)]

/-- The address `canonicalize_store_url` writes for a product is made of its store and id. -/
theorem productUrl_of_product {store : Store} {path externalId canonical : Text}
    (h : product u store path = some (externalId, canonical)) :
    canonical = productUrl store externalId := by
  unfold product at h
  cases store with
  | amazon =>
    obtain ⟨m, -, hpair⟩ := Option.map_eq_some_iff.1 h
    obtain ⟨rfl, rfl⟩ := Prod.mk.inj hpair
    rfl
  | mercadolivre =>
    obtain ⟨m, -, hpair⟩ := Option.map_eq_some_iff.1 h
    obtain ⟨rfl, rfl⟩ := Prod.mk.inj hpair
    rfl
  | shopee =>
    obtain ⟨m, hm, hpair⟩ := Option.map_eq_some_iff.1 h
    dsimp only at hpair
    obtain ⟨rfl, rfl⟩ := Prod.mk.inj hpair
    obtain ⟨p, q, hgroups, hp, -⟩ := groups_of_shopee hm
    have hcolon : ':' ∉ p := fun hmem => (plain_of_digit (hp.2 _ hmem)).1 rfl
    rw [hgroups]
    show _ = "https:".toList ++ "//".toList ++ "shopee.com.br".toList ++
      '/' :: canonicalPath .shopee (p ++ ':' :: q)
    rw [canonicalPath_shopee hcolon]
    rfl
  | aliexpress =>
    obtain ⟨m, -, hpair⟩ := Option.map_eq_some_iff.1 h
    obtain ⟨rfl, rfl⟩ := Prod.mk.inj hpair
    rfl
  | kabum =>
    obtain ⟨m, -, hpair⟩ := Option.map_eq_some_iff.1 h
    obtain ⟨rfl, rfl⟩ := Prod.mk.inj hpair
    rfl

/-! ## Variations -/

/-- The stores with variations, and the key their variations are written under. -/
def variationNames : List (Store × Text) :=
  [(.shopee, "variationid".toList), (.aliexpress, "sku_id".toList)]

/-- **What a variation looks like.** -/
theorem variation_shape {store : Store} {query : List (Text × Text)} {variation : Text}
    (h : variationKey u store query = some variation) :
    variation = [] ∨ ∃ key value, (store, key) ∈ variationNames ∧ isDigits u value = true ∧
      variation = key ++ ':' :: value := by
  unfold variationKey at h
  split at h
  · cases h
  · split at h
    · exact Or.inl (Option.some.inj h).symm
    · next key hkey =>
      have hmem : key ∈ explicitKeys store := List.mem_of_mem_filter (hkey ▸ List.mem_singleton_self key)
      split at h
      · next value hvalue =>
        split at h
        · next hdigits =>
          refine Or.inr ⟨_, value, ?_, hdigits, (Option.some.inj h).symm⟩
          cases store with
          | shopee =>
            rw [List.mem_singleton.1 hmem]
            decide
          | aliexpress =>
            rw [if_pos rfl]
            decide
          | amazon => cases hmem
          | mercadolivre => cases hmem
          | kabum => cases hmem
        · cases h
      · cases h
    · cases h

theorem variationKey_named {store : Store} {key value : Text} (h : (store, key) ∈ variationNames)
    (hvalue : isDigits u value = true) :
    variationKey u store [(key, value)] = some (key ++ ':' :: value) := by
  rcases List.mem_cons.1 h with h | h
  · obtain ⟨rfl, rfl⟩ := Prod.mk.inj h
    show (if isDigits u value then _ else none) = _
    rw [if_pos hvalue]
    rfl
  · obtain ⟨rfl, rfl⟩ := Prod.mk.inj (List.mem_singleton.1 h)
    show (if isDigits u value then _ else none) = _
    rw [if_pos hvalue]
    rfl

theorem variation_eq_nil {store : Store} {query : List (Text × Text)} {variation : Text}
    (hstore : store ≠ .shopee ∧ store ≠ .aliexpress)
    (h : variationKey u store query = some variation) : variation = [] := by
  rcases variation_shape u h with rfl | ⟨key, value, hname, -, -⟩
  · rfl
  · have hnames : ∀ e ∈ variationNames, e.1 = .shopee ∨ e.1 = .aliexpress := by decide
    rcases hnames _ hname with heq | heq
    · exact absurd heq hstore.1
    · exact absurd heq hstore.2

/-! ## Reading a canonical address -/

theorem plainHost_canonicalHost (store : Store) : PlainHost (canonicalHost store) := by
  cases store <;> decide

/-- A query that names a variation of a store, as far as there is one. -/
def Names (store : Store) (query : List (Text × Text)) (variation : Text) : Prop :=
  query = [] ∧ variation = [] ∨
    ∃ key value, (store, key) ∈ variationNames ∧ isDigits u value = true ∧
      query = [(key, value)] ∧ variation = key ++ ':' :: value

variable {u} in
theorem Names.variationKey {store : Store} {query : List (Text × Text)} {variation : Text}
    (h : Names u store query variation) : variationKey u store query = some variation := by
  rcases h with ⟨rfl, rfl⟩ | ⟨key, value, hname, hdigits, rfl, rfl⟩
  · cases store <;> rfl
  · exact variationKey_named u hname hdigits

theorem urlsplit_productUrl (hlower : u.lower "https".toList = "https".toList) {store : Store}
    {externalId : Text}
    (hpath : ∀ c ∈ canonicalPath store externalId, c ≠ '?' ∧ c ≠ '#' ∧ isUnsafe c = false) :
    urlsplit u (productUrl store externalId) =
      some ⟨"https".toList, canonicalHost store, '/' :: canonicalPath store externalId, [], []⟩ := by
  have := urlsplit_https u hlower (plainHost_canonicalHost store) hpath
    (fun c (hc : c ∈ ([] : Text)) => absurd hc List.not_mem_nil)
  rwa [show queryPart [] = [] from rfl, List.append_nil] at this

theorem canonicalUrlOf_named (hlower : u.lower "https".toList = "https".toList) {store : Store}
    {externalId key : Text} (value : Text)
    (hpath : ∀ c ∈ canonicalPath store externalId, c ≠ '?' ∧ c ≠ '#' ∧ isUnsafe c = false)
    (hkey : ':' ∉ key) :
    canonicalUrlOf u store externalId (key ++ ':' :: value) =
      urlunsplit ⟨"https".toList, canonicalHost store, '/' :: canonicalPath store externalId,
        urlencodeOne key value, []⟩ := by
  rw [canonicalUrlOf, withVariation, Text.partition_append_cons value hkey]
  show withQuery u (productUrl store externalId) (urlencodeOne key value) = _
  rw [withQuery, urlsplit_productUrl u hlower hpath]

/-- **A canonical address is split into its parts, and its query names its variation.** -/
theorem urlsplit_canonicalUrlOf (hu : u.Standard) {store : Store} {externalId variation : Text}
    (hpath : ∀ c ∈ canonicalPath store externalId, c ≠ '?' ∧ c ≠ '#' ∧ isUnsafe c = false)
    (hvariation : variation = [] ∨ ∃ key value, (store, key) ∈ variationNames ∧
      isDigits u value = true ∧ variation = key ++ ':' :: value) :
    ∃ query, urlsplit u (canonicalUrlOf u store externalId variation) =
        some ⟨"https".toList, canonicalHost store, '/' :: canonicalPath store externalId, query,
          []⟩ ∧
      Names u store (foldedQuery u query) variation := by
  have hlower : u.lower "https".toList = "https".toList := hu.lower_ascii _ (by decide)
  rcases hvariation with rfl | ⟨key, value, hname, hdigits, rfl⟩
  · exact ⟨[], urlsplit_productUrl u hlower hpath, Or.inl ⟨rfl, rfl⟩⟩
  · have hascii : ∀ e ∈ variationNames, ':' ∉ e.2 ∧ e.2.isAscii = true ∧
        e.2.map Char.toLower = e.2 ∧ ∀ c ∈ e.2, c.toNat < 128 := by decide
    obtain ⟨hcolon, hkey, hlowerKey, hlt⟩ := hascii _ hname
    have hplain : ∀ c ∈ urlencodeOne key value, c ≠ '#' ∧ isUnsafe c = false := by
      intro c hc
      have hnot := plain_of_mem_urlencodeOne hc
      simp only [List.mem_cons, List.not_mem_nil, or_false, not_or] at hnot
      refine ⟨hnot.2.1, ?_⟩
      simp [isUnsafe, hnot]
    have hread : parseQsl u (urlencodeOne key value) = [(key, value)] := by
      refine parseQsl_urlencodeOne u (hu.decodeUtf8_utf8 key fun c hc => Or.inl (hlt c hc))
        (hu.decodeUtf8_utf8 value fun c hc => Or.inr ?_)
      have := (Bool.and_eq_true _ _).mp hdigits
      exact List.all_eq_true.1 this.2 c hc
    refine ⟨urlencodeOne key value, ?_, Or.inr ⟨key, value, hname, hdigits, ?_, rfl⟩⟩
    · rw [canonicalUrlOf_named u hlower value hpath hcolon,
        urlunsplit_https _ (plainHost_canonicalHost store).1]
      exact urlsplit_https u hlower (plainHost_canonicalHost store) hpath hplain
    · rw [foldedQuery, hread, List.map_singleton]
      show [(u.casefold key, value)] = _
      rw [hu.casefold_ascii key hkey, hlowerKey]

/-- A product that `canonicalize_store_url` answered for some address. -/
def IsOutcome (store : Store) (externalId variation canonical : Text) : Prop :=
  ∃ url, canonicalizeStoreUrl u url =
    ⟨.pendingAffiliate, "AFFILIATE_PROVIDER_UNAVAILABLE", some store, some externalId,
      some variation, some canonical⟩

namespace IsOutcome

variable {u} {store : Store} {externalId variation variation' canonical : Text}

/-- What an outcome was read from. -/
theorem exists_product (h : IsOutcome u store externalId variation canonical) :
    ∃ parts : SplitResult,
      product u store parts.path = some (externalId, productUrl store externalId) ∧
      variationKey u store (foldedQuery u parts.query) = some variation ∧
      canonical = canonicalUrlOf u store externalId variation := by
  obtain ⟨url, hurl⟩ := h
  have hid : (canonicalizeStoreUrl u url).externalProductId = some externalId := by rw [hurl]
  obtain ⟨store', parts, base, variation', -, hproduct, hvariation, hresult⟩ :=
    exists_parts_of_recognized u hid
  rw [hurl] at hresult
  obtain ⟨-, -, hstore, -, hvariation', hcanonical⟩ := CanonicalUrlResult.mk.inj hresult
  obtain rfl := Option.some.inj hstore
  obtain rfl := Option.some.inj hvariation'
  obtain rfl := productUrl_of_product u hproduct
  exact ⟨parts, hproduct, hvariation, Option.some.inj hcanonical⟩

/-- **The canonical address is a function of the product and its variation.** -/
theorem canonical_eq (h : IsOutcome u store externalId variation canonical) :
    canonical = canonicalUrlOf u store externalId variation := by
  obtain ⟨parts, -, -, heq⟩ := h.exists_product
  exact heq

/-- Nothing in the path of a product with variations ends the path. -/
theorem plain_path (h : IsOutcome u store externalId variation canonical)
    (hstore : store = .shopee ∨ store = .aliexpress) :
    ∀ c ∈ canonicalPath store externalId, c ≠ '?' ∧ c ≠ '#' ∧ isUnsafe c = false := by
  obtain ⟨parts, hproduct, -, -⟩ := h.exists_product
  unfold product at hproduct
  have hword : ∀ c ∈ "product/item/.html".toList, c ≠ '?' ∧ c ≠ '#' ∧ isUnsafe c = false := by
    decide
  have hdigits : ∀ {p : Text}, (∀ c ∈ p, Text.isAsciiDigit c = true) →
      ∀ c ∈ p, c ≠ '?' ∧ c ≠ '#' ∧ isUnsafe c = false :=
    fun hp c hc => (plain_of_digit (hp c hc)).2
  intro c hc
  rcases hstore with rfl | rfl
  · obtain ⟨m, hm, hpair⟩ := Option.map_eq_some_iff.1 hproduct
    obtain ⟨rfl, -⟩ := Prod.mk.inj hpair
    obtain ⟨p, q, hgroups, hp, hq⟩ := groups_of_shopee hm
    have hcolon : ':' ∉ p := fun hmem => (plain_of_digit (hp.2 _ hmem)).1 rfl
    rw [hgroups] at hc
    replace hc : c ∈ canonicalPath .shopee (p ++ ':' :: q) := hc
    rw [canonicalPath_shopee hcolon, List.mem_append, List.mem_append, List.mem_cons] at hc
    rcases hc with (hc | hc) | rfl | hc
    · exact hword c (List.mem_append_left "item/.html".toList hc)
    · exact hdigits hp.2 c hc
    · decide
    · exact hdigits hq.2 c hc
  · obtain ⟨m, hm, hpair⟩ := Option.map_eq_some_iff.1 hproduct
    obtain ⟨rfl, -⟩ := Prod.mk.inj hpair
    obtain ⟨t, ht⟩ := Regex.exists_mem_of_search hm
    obtain ⟨p, hgroups, -, hp⟩ := groups_of_match_aliexpressProduct ht
    rw [hgroups] at hc
    replace hc : c ∈ "item/".toList ++ p ++ ".html".toList := hc
    rw [List.mem_append, List.mem_append] at hc
    rcases hc with (hc | hc) | hc
    · exact hword c (List.mem_append_right "product/".toList
        (List.mem_append_left ".html".toList hc))
    · exact hdigits hp c hc
    · exact hword c (List.mem_append_right "product/item/".toList hc)

/-- **Where a store has variations, the variation is read back from the query.** -/
theorem exists_query (hu : u.Standard) (h : IsOutcome u store externalId variation canonical)
    (hstore : store = .shopee ∨ store = .aliexpress) :
    ∃ parts, urlsplit u canonical = some parts ∧
      variationKey u store (foldedQuery u parts.query) = some variation := by
  have hpath := h.plain_path hstore
  obtain ⟨_, -, hvariation, rfl⟩ := h.exists_product
  obtain ⟨query, hsplit, hnames⟩ :=
    urlsplit_canonicalUrlOf u hu hpath (variation_shape u hvariation)
  exact ⟨_, hsplit, hnames.variationKey⟩

/-- **Canonicalizing a canonical address that is recognized gives the variation back.** -/
theorem variationKey_canonical (hu : u.Standard)
    (h : IsOutcome u store externalId variation canonical) {q : Text}
    (hstore : (canonicalizeStoreUrl u canonical).store = some store)
    (hid : (canonicalizeStoreUrl u canonical).externalProductId = some q) :
    (canonicalizeStoreUrl u canonical).variationKey = some variation := by
  obtain ⟨store', parts, base, variation', hsplit, -, hvariation, hresult⟩ :=
    exists_parts_of_recognized u hid
  rw [hresult] at hstore ⊢
  obtain rfl := Option.some.inj hstore
  show some variation' = some variation
  by_cases hs : store' = .shopee ∨ store' = .aliexpress
  · obtain ⟨parts', hsplit', hvariation'⟩ := h.exists_query hu hs
    obtain rfl := Option.some.inj (hsplit.symm.trans hsplit')
    exact hvariation.symm.trans hvariation'
  · obtain ⟨_, -, hv, -⟩ := h.exists_product
    rw [not_or] at hs
    rw [variation_eq_nil u hs hvariation, variation_eq_nil u hs hv]

/-- **One canonical address, one variation.** -/
theorem variation_unique (hu : u.Standard)
    (h : IsOutcome u store externalId variation canonical)
    (h' : IsOutcome u store externalId variation' canonical) : variation = variation' := by
  by_cases hs : store = .shopee ∨ store = .aliexpress
  · obtain ⟨parts, hsplit, hvariation⟩ := h.exists_query hu hs
    obtain ⟨parts', hsplit', hvariation'⟩ := h'.exists_query hu hs
    obtain rfl := Option.some.inj (hsplit.symm.trans hsplit')
    exact Option.some.inj (hvariation.symm.trans hvariation')
  · obtain ⟨_, -, hv, -⟩ := h.exists_product
    obtain ⟨_, -, hv', -⟩ := h'.exists_product
    rw [not_or] at hs
    rw [variation_eq_nil u hs hv, variation_eq_nil u hs hv']

end IsOutcome

end Urls
end PromoBot
