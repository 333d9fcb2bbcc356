import PromoBot.Domain.StateMachines
import PromoBot.Lib.PyUrl
import PromoBot.Lib.Regex

/-!
# Store addresses

`stores/urls.py`: which store an address belongs to, and the canonical form of a
product address --- its product id, its variation and one address for all the
ways to write it.

The last section is about the addresses the program itself builds from a product
id: reading such an address gives the product id back.
-/

namespace PromoBot
namespace Urls

open PyUrl

variable (u : PyUnicode)

/-! ## Tables -/

/-- `STORE_HOSTS`, in its order. -/
def storeHosts : List (Store × List Text) :=
  [(.amazon, ["amazon.com.br".toList, "www.amazon.com.br".toList]),
    (.mercadolivre, ["mercadolivre.com.br".toList, "www.mercadolivre.com.br".toList,
      "produto.mercadolivre.com.br".toList]),
    (.shopee, ["shopee.com.br".toList, "www.shopee.com.br".toList]),
    (.aliexpress, ["aliexpress.com".toList, "www.aliexpress.com".toList,
      "pt.aliexpress.com".toList, "de.aliexpress.com".toList]),
    (.kabum, ["kabum.com.br".toList, "www.kabum.com.br".toList])]

/-- `STORE_HOSTS[Store.ALIEXPRESS]`. -/
def aliexpressHosts : List Text := (storeHosts.lookup .aliexpress).getD []

/-- `SHORTENER_HOSTS`. -/
def shortenerHosts : List Text :=
  ["amzn.to".toList, "meli.la".toList, "s.shopee.com.br".toList, "a.aliexpress.com".toList,
    "s.click.aliexpress.com".toList]

/-- `ALIEXPRESS_REDIRECTOR_HOSTS`. -/
def aliexpressRedirectorHosts : List Text :=
  ["a.aliexpress.com".toList, "s.click.aliexpress.com".toList]

/-- `AMBIGUOUS_VARIATION_KEYS`. -/
def ambiguousVariationKeys : List Text :=
  ["color".toList, "colour".toList, "model".toList, "size".toList, "sku".toList,
    "variant".toList, "variation".toList, "variacao".toList]

/-- `REMOVABLE_QUERY_KEYS`. -/
def removableQueryKeys : List Text :=
  ["ascsubtag".toList, "awc".toList, "creativeasin".toList, "gatewayadapt".toList,
    "linkcode".toList, "psc".toList, "ref".toList, "share_channel_code".toList, "sk".toList,
    "smid".toList, "sp_atk".toList, "spm".toList, "tag".toList, "th".toList,
    "tracking_id".toList, "uls_trackid".toList, "xptdk".toList]

/-- `REMOVABLE_QUERY_PREFIXES`. -/
def removableQueryPrefixes : List Text :=
  ["aff_".toList, "matt_".toList, "ref_".toList, "utm_".toList]

/-! ## Patterns -/

section Patterns

open Regex

/-- `[0-9]+`, captured. -/
def number : Regex := .group (.many Text.isAsciiDigit 1)

/-- `(?:[/?]|$)`. -/
def boundary : Regex := .either (.one fun c => c = '/' || c = '?') .atEnd

/-- `[A-Z0-9]` under `re.IGNORECASE`. -/
def isAlphanumeric (c : Char) : Bool :=
  Text.isAsciiLetter c || Text.isAsciiDigit c || sameLetter 'i' c || sameLetter 'k' c ||
    sameLetter 's' c

/-- `AMAZON_PRODUCT`. -/
def amazonProduct : Regex :=
  .seq (literal "/".toList)
    (.seq (.either (literalIgnoreCase "dp".toList) (literalIgnoreCase "gp/product".toList))
      (.seq (literal "/".toList) (.seq (.group (.times isAlphanumeric 10)) boundary)))

/-- `MERCADOLIVRE_PRODUCT`. -/
def mercadolivreProduct : Regex :=
  .seq (literalIgnoreCase "MLB".toList)
    (.seq (optional (.one fun c => c = '-' || c = '_')) (.group (.many Text.isAsciiDigit 5)))

/-- `SHOPEE_PRODUCT`. -/
def shopeeProduct : Regex :=
  .seq (literalIgnoreCase "/product/".toList)
    (.seq number (.seq (literal "/".toList) (.seq number boundary)))

/-- `SHOPEE_I_PRODUCT`. -/
def shopeeIProduct : Regex :=
  .seq (literalIgnoreCase "-i.".toList)
    (.seq number (.seq (literal ".".toList) (.seq number boundary)))

/-- `ALIEXPRESS_PRODUCT`. -/
def aliexpressProduct : Regex :=
  .seq (literalIgnoreCase "/item/".toList)
    (.seq number (.seq (literalIgnoreCase ".html".toList) boundary))

/-- `KABUM_PRODUCT`. -/
def kabumProduct : Regex := .seq (literalIgnoreCase "/produto/".toList) (.seq number boundary)

end Patterns

/-! ## Hosts -/

/-- `normalize_hostname`. -/
def normalizeHostname (hostname : Text) : Text :=
  match u.idna (hostname.rstripBy (· = '.')) with
  | some name => u.casefold name
  | none => []

/-- `hostname_from_url`. -/
def hostnameFromUrl (url : Text) : Option Text :=
  (urlsplit u url).bind fun parts => (parts.hostname u).map (normalizeHostname u)

/-- `store_for_host`. -/
def storeForHost (hostname : Text) : Option Store :=
  (storeHosts.find? fun e => normalizeHostname u hostname ∈ e.2).map Prod.fst

/-- `STORE_HOSTS[Store.MERCADOLIVRE]`. -/
def mercadolivreHosts : List Text := (storeHosts.lookup .mercadolivre).getD []

/-- `is_shortener_url`. -/
def isShortenerUrl (url : Text) : Bool :=
  match urlsplit u url with
  | none => false
  | some parts =>
    match (parts.hostname u).map (normalizeHostname u) with
    | none => false
    | some host =>
      host ∈ shortenerHosts ||
        (host ∈ mercadolivreHosts && "/sec/".toList.isPrefixOf (u.casefold parts.path))

/-- `is_allowed_network_url`, with `ALLOWED_NETWORK_HOSTS`. -/
def isAllowedNetworkUrl (url : Text) : Bool :=
  match hostnameFromUrl u url with
  | some host => host ∈ storeHosts.flatMap Prod.snd ++ shortenerHosts
  | none => false

/-- `is_aliexpress_redirector_url`. -/
def isAliexpressRedirectorUrl (url : Text) : Bool :=
  match hostnameFromUrl u url with
  | some host => host ∈ aliexpressRedirectorHosts
  | none => false

/-! ## Canonical addresses -/

/-- `CanonicalUrlResult`. -/
structure CanonicalUrlResult where
  state : RelayLinkState
  reasonCode : String
  store : Option Store
  externalProductId : Option Text
  variationKey : Option Text
  canonicalUrl : Option Text
  deriving DecidableEq, Repr

/-- A result without a product. -/
def CanonicalUrlResult.refused (state : RelayLinkState) (reasonCode : String)
    (store : Option Store) : CanonicalUrlResult :=
  ⟨state, reasonCode, store, none, none, none⟩

/-- The product id in a path, and the canonical address of that product. -/
def product (store : Store) (path : Text) : Option (Text × Text) :=
  match store with
  | .amazon =>
    (amazonProduct.search path).map fun m =>
      let externalId := u.upper (m.groups.headD [])
      (externalId, "https://www.amazon.com.br/dp/".toList ++ externalId)
  | .mercadolivre =>
    (mercadolivreProduct.search path).map fun m =>
      let number := m.groups.headD []
      ("MLB".toList ++ number, "https://produto.mercadolivre.com.br/MLB-".toList ++ number)
  | .shopee =>
    ((shopeeProduct.search path).or (shopeeIProduct.search path)).map fun m =>
      let shopId := m.groups.headD []
      let itemId := m.groups.tail.headD []
      (shopId ++ ':' :: itemId, "https://shopee.com.br/product/".toList ++ shopId ++ '/' :: itemId)
  | .aliexpress =>
    (aliexpressProduct.search path).map fun m =>
      let externalId := m.groups.headD []
      (externalId, "https://www.aliexpress.com/item/".toList ++ externalId ++ ".html".toList)
  | .kabum =>
    (kabumProduct.search path).map fun m =>
      let externalId := m.groups.headD []
      (externalId, "https://www.kabum.com.br/produto/".toList ++ externalId)

/-- The query of an address, its keys casefolded. -/
def foldedQuery (query : Text) : List (Text × Text) :=
  (parseQsl u query).map fun e => (u.casefold e.1, e.2)

/-- `query.get(key)`. -/
def valuesOf (query : List (Text × Text)) (key : Text) : List Text :=
  (query.filter fun e => e.1 = key).map Prod.snd

/-- The keys which name a variation. -/
def explicitKeys : Store → List Text
  | .shopee => ["variationid".toList]
  | .aliexpress => ["sku_id".toList, "skuid".toList]
  | _ => []

/-- `_is_known_query_key`. -/
def isKnownQueryKey (store : Store) (key : Text) : Bool :=
  key ∈ ambiguousVariationKeys || key ∈ explicitKeys store || key ∈ removableQueryKeys ||
    removableQueryPrefixes.any fun start => start.isPrefixOf key

/-- `str.isdigit()`. -/
def isDigits (t : Text) : Bool := t ≠ [] && t.all u.isDigit

/-- `_variation_key`; `none` says that the variation is ambiguous. -/
def variationKey (store : Store) (query : List (Text × Text)) : Option Text :=
  if query.any fun e => e.1 ∈ ambiguousVariationKeys then none
  else
    match (explicitKeys store).filter fun key => valuesOf query key ≠ [] with
    | [] => some []
    | [key] =>
      match valuesOf query key with
      | [value] =>
        if isDigits u value then
          some ((if store = .aliexpress then "sku_id".toList else key) ++ ':' :: value)
        else none
      | _ => none
    | _ => none

/-- `urlunsplit((*urlsplit(url)[:3], query, ""))`. -/
def withQuery (url query : Text) : Text :=
  match urlsplit u url with
  | some parts => urlunsplit { parts with query := query, fragment := [] }
  | none => url

/-- A canonical address with its variation. -/
def withVariation (url variation : Text) : Text :=
  match variation.partition ':' with
  | (key, some value) => withQuery u url (urlencodeOne key value)
  | (_, none) => url

/-- `canonicalize_store_url`, once the store is known. -/
def canonicalizeFor (store : Store) (parts : SplitResult) : CanonicalUrlResult :=
  match product u store parts.path with
  | none => .refused .manualReview "PRODUCT_ID_NOT_FOUND" store
  | some (externalId, canonicalUrl) =>
    let query := foldedQuery u parts.query
    if query.any fun e => !isKnownQueryKey store e.1 then
      .refused .manualReview "QUERY_SEMANTICS_UNKNOWN" store
    else
      match variationKey u store query with
      | none => .refused .manualReview "VARIATION_AMBIGUOUS" store
      | some variation =>
        { state := .pendingAffiliate
          reasonCode := "AFFILIATE_PROVIDER_UNAVAILABLE"
          store := some store
          externalProductId := some externalId
          variationKey := some variation
          canonicalUrl := some (withVariation u canonicalUrl variation) }

/-- The scheme, the user and the port of an address are those of a store. -/
def SafeAuthority (parts : SplitResult) (port : Option Nat) : Prop :=
  u.casefold parts.scheme ∈ ["http".toList, "https".toList] ∧ parts.username = none ∧
    parts.password = none ∧ port ∈ [none, some 80, some 443]

instance (parts : SplitResult) (port : Option Nat) : Decidable (SafeAuthority u parts port) :=
  inferInstanceAs (Decidable (_ ∧ _))

/-- `canonicalize_store_url`. -/
def canonicalizeStoreUrl (url : Text) : CanonicalUrlResult :=
  match (urlsplit u url).bind fun parts => parts.port.map fun port => (parts, port) with
  | none => .refused .rejected "INVALID_URL" none
  | some (parts, port) =>
    if SafeAuthority u parts port then
      let host := ((parts.hostname u).map (normalizeHostname u)).getD []
      match if host = [] then none else storeForHost u host with
      | some store => canonicalizeFor u store parts
      | none =>
        if host ∈ shortenerHosts then .refused .manualReview "UNEXPANDED_SHORT_URL" none
        else .refused .ignored "UNSUPPORTED_DOMAIN" none
    else .refused .rejected "UNSAFE_URL_AUTHORITY" none

/-- The address of an AliExpress product, with its product id and variation. -/
def Identifies (url productId variation : Text) : Prop :=
  (canonicalizeStoreUrl u url).state = .pendingAffiliate ∧
    (canonicalizeStoreUrl u url).store = some .aliexpress ∧
    (canonicalizeStoreUrl u url).externalProductId = some productId ∧
    (canonicalizeStoreUrl u url).variationKey = some variation

instance (url productId variation : Text) : Decidable (Identifies u url productId variation) :=
  inferInstanceAs (Decidable (_ ∧ _))

/-- **What a recognized address was recognized by**: its path gave the product id and its
query the variation. -/
theorem exists_parts_of_recognized {url q : Text}
    (hid : (canonicalizeStoreUrl u url).externalProductId = some q) :
    ∃ store parts canonical variation, urlsplit u url = some parts ∧
      product u store parts.path = some (q, canonical) ∧
      variationKey u store (foldedQuery u parts.query) = some variation ∧
      canonicalizeStoreUrl u url =
        ⟨.pendingAffiliate, "AFFILIATE_PROVIDER_UNAVAILABLE", some store, some q, some variation,
          some (withVariation u canonical variation)⟩ := by
  generalize hresult : canonicalizeStoreUrl u url = result at hid ⊢
  unfold canonicalizeStoreUrl at hresult
  split at hresult
  · subst hresult
    cases hid
  · next parts port hparts =>
    obtain ⟨parts', hsplit, hport⟩ := Option.bind_eq_some_iff.1 hparts
    obtain ⟨port', -, hpair⟩ := Option.map_eq_some_iff.1 hport
    obtain ⟨rfl, rfl⟩ := Prod.mk.inj hpair
    dsimp only at hresult
    split at hresult
    · split at hresult
      · next store hhost =>
        unfold canonicalizeFor at hresult
        split at hresult
        · subst hresult
          cases hid
        · next externalId canonical hproduct =>
          dsimp only at hresult
          split at hresult
          · subst hresult
            cases hid
          · split at hresult
            · subst hresult
              cases hid
            · next variation hvariation =>
              subst hresult
              obtain rfl := Option.some.inj hid
              exact ⟨store, parts', canonical, variation, hsplit, hproduct, hvariation, rfl⟩
      · split at hresult
        · subst hresult
          cases hid
        · subst hresult
          cases hid
    · subst hresult
      cases hid

/-- **What an address without a product is**: neither taken in nor pending. -/
theorem refused_of_externalProductId {url : Text}
    (hid : (canonicalizeStoreUrl u url).externalProductId = none) :
    (canonicalizeStoreUrl u url).state ≠ .pendingAffiliate ∧
      (canonicalizeStoreUrl u url).state ≠ .received ∧
      (canonicalizeStoreUrl u url).canonicalUrl = none := by
  generalize hresult : canonicalizeStoreUrl u url = result at hid ⊢
  unfold canonicalizeStoreUrl at hresult
  have hrefused : ∀ {state reason store}, state ≠ RelayLinkState.pendingAffiliate →
      state ≠ .received → CanonicalUrlResult.refused state reason store = result →
      result.state ≠ .pendingAffiliate ∧ result.state ≠ .received ∧ result.canonicalUrl = none := by
    rintro state reason store hpending hreceived rfl
    exact ⟨hpending, hreceived, rfl⟩
  split at hresult
  · exact hrefused (by decide) (by decide) hresult
  · dsimp only at hresult
    split at hresult
    · split at hresult
      · unfold canonicalizeFor at hresult
        split at hresult
        · exact hrefused (by decide) (by decide) hresult
        · dsimp only at hresult
          split at hresult
          · exact hrefused (by decide) (by decide) hresult
          · split at hresult
            · exact hrefused (by decide) (by decide) hresult
            · rw [← hresult] at hid
              cases hid
      · split at hresult
        · exact hrefused (by decide) (by decide) hresult
        · exact hrefused (by decide) (by decide) hresult
    · exact hrefused (by decide) (by decide) hresult

theorem exists_variationKey {url : Text}
    (h : (canonicalizeStoreUrl u url).state = .pendingAffiliate) :
    ∃ variation, (canonicalizeStoreUrl u url).variationKey = some variation := by
  cases hid : (canonicalizeStoreUrl u url).externalProductId with
  | none => exact absurd h (refused_of_externalProductId u hid).1
  | some q =>
    obtain ⟨store, parts, canonical, variation, -, -, -, hresult⟩ :=
      exists_parts_of_recognized u hid
    exact ⟨variation, by rw [hresult]⟩

/-! ## The addresses the program builds -/

section ItemAddress

open Regex

/-- No digit is matched by the dot of a pattern. -/
theorem sameLetter_dot_of_digit {c : Char} (h : Text.isAsciiDigit c = true) :
    sameLetter '.' c = false := by
  obtain ⟨h0, h9⟩ : '0' ≤ c ∧ c ≤ '9' := by simpa [Text.isAsciiDigit] using h
  have hupper : ¬ (c.val ≥ 'A'.val ∧ c.val ≤ 'Z'.val) := by
    simp only [Char.le_def, UInt32.le_iff_toNat_le] at h0 h9
    simp only [ge_iff_le, UInt32.le_iff_toNat_le]
    have := show ('9' : Char).val.toNat = 57 from rfl
    have := show ('A' : Char).val.toNat = 65 from rfl
    omega
  have hlower : c.toLower = c := Text.toLower_of_not_upper hupper
  have hdot : c ≠ '.' := by
    rintro rfl
    exact absurd h0 (by decide)
  simp [sameLetter, hlower, hdot.symm]

theorem digits_unique {a b s t : Text} {c d : Char} (h : a ++ c :: s = b ++ d :: t)
    (ha : ∀ e ∈ a, Text.isAsciiDigit e = true) (hb : ∀ e ∈ b, Text.isAsciiDigit e = true)
    (hc : Text.isAsciiDigit c = false) (hd : Text.isAsciiDigit d = false) : a = b := by
  have hcut : ∀ {a s : Text} {c : Char}, (∀ e ∈ a, Text.isAsciiDigit e = true) →
      Text.isAsciiDigit c = false → (a ++ c :: s).takeWhile Text.isAsciiDigit = a := by
    intro a s c ha hc
    rw [List.takeWhile_append_of_pos ha, List.takeWhile_cons, hc]
    exact List.append_nil a
  rw [← hcut (s := s) ha hc, h, hcut hb hd]

/-- The path of a product is matched. -/
theorem exists_match_itemPath {p : Text} (hne : p ≠ [])
    (hp : ∀ c ∈ p, Text.isAsciiDigit c = true) :
    ∃ m, m ∈ aliexpressProduct.allMatches ("/item/".toList ++ p ++ ".html".toList) := by
  refine ⟨⟨"/item/".toList ++ (p ++ (".html".toList ++ [])), [], [p]⟩, ?_⟩
  rw [aliexpressProduct, mem_allMatches_seq]
  refine ⟨⟨"/item/".toList, p ++ ".html".toList, []⟩, ?_, ⟨p ++ (".html".toList ++ []), [], [p]⟩,
    ?_, rfl⟩
  · exact mem_allMatches_literalIgnoreCase.2
      ⟨_, _, List.append_assoc _ _ _, forall₂_sameLetter_self _, rfl⟩
  rw [mem_allMatches_seq]
  refine ⟨⟨p, ".html".toList, [p]⟩, ?_, ⟨".html".toList ++ [], [], []⟩, ?_, rfl⟩
  · refine mem_allMatches_group.2 ⟨⟨p, ".html".toList, []⟩, ?_, rfl⟩
    exact mem_allMatches_many.2 ⟨rfl, hp, List.length_pos_iff.2 hne, rfl⟩
  rw [mem_allMatches_seq]
  refine ⟨⟨".html".toList, [], []⟩, ?_, ⟨[], [], []⟩, ?_, rfl⟩
  · exact mem_allMatches_literalIgnoreCase.2
      ⟨_, [], (List.append_nil _).symm, forall₂_sameLetter_self _, rfl⟩
  · exact mem_allMatches_either.2 (Or.inr (mem_allMatches_atEnd.2 ⟨Or.inl rfl, rfl⟩))

/-- A match of an AliExpress product captures a number. -/
theorem groups_of_match_aliexpressProduct {t : Text} {m : Match}
    (hm : m ∈ aliexpressProduct.allMatches t) :
    ∃ p, m.groups = [p] ∧ p ≠ [] ∧ ∀ c ∈ p, Text.isAsciiDigit c = true := by
  obtain ⟨_, hitem, _, hrest, rfl⟩ := mem_allMatches_seq.1 hm
  obtain ⟨_, _, _, _, rfl⟩ := mem_allMatches_literalIgnoreCase.1 hitem
  obtain ⟨_, hnumber, _, hend, rfl⟩ := mem_allMatches_seq.1 hrest
  obtain ⟨digits, hdigits, rfl⟩ := mem_allMatches_group.1 hnumber
  obtain ⟨-, hall, hlength, hgroups⟩ := mem_allMatches_many.1 hdigits
  obtain ⟨_, hhtml, last, hlast, rfl⟩ := mem_allMatches_seq.1 hend
  obtain ⟨_, _, _, _, rfl⟩ := mem_allMatches_literalIgnoreCase.1 hhtml
  have hnoGroups : last.groups = [] := by
    rcases mem_allMatches_either.1 hlast with h | h
    · obtain ⟨_, _, _, _, rfl⟩ := mem_allMatches_one.1 h
      rfl
    · rw [(mem_allMatches_atEnd.1 h).2]
  refine ⟨digits.text, ?_, List.length_pos_iff.1 hlength, hall⟩
  simp [hgroups, hnoGroups]

/-- However the path of a product is matched, the group is its product id: the run of
digits after the first six characters. -/
theorem groups_of_match_itemPath {p : Text} {m : Match}
    (hp : ∀ c ∈ p, Text.isAsciiDigit c = true)
    (hm : m ∈ aliexpressProduct.allMatches ("/item/".toList ++ p ++ ".html".toList)) :
    m.groups = [p] := by
  obtain ⟨_, hitem, _, hrest, rfl⟩ := mem_allMatches_seq.1 hm
  obtain ⟨item, afterItem, hab, hitem', rfl⟩ := mem_allMatches_literalIgnoreCase.1 hitem
  obtain ⟨_, hnumber, _, hend, rfl⟩ := mem_allMatches_seq.1 hrest
  obtain ⟨digits, hdigits, rfl⟩ := mem_allMatches_group.1 hnumber
  obtain ⟨happ, hall, -, hgroups⟩ := mem_allMatches_many.1 hdigits
  obtain ⟨_, hhtml, last, hlast, rfl⟩ := mem_allMatches_seq.1 hend
  obtain ⟨html, afterHtml, hhtml', hdot, rfl⟩ := mem_allMatches_literalIgnoreCase.1 hhtml
  have hlength : "/item/".toList.length = item.length := hitem'.length_eq
  rw [List.append_assoc] at hab
  obtain ⟨-, rfl⟩ := List.append_inj hab hlength
  have hnoGroups : last.groups = [] := by
    rcases mem_allMatches_either.1 hlast with h | h
    · obtain ⟨_, _, _, _, rfl⟩ := mem_allMatches_one.1 h
      rfl
    · rw [(mem_allMatches_atEnd.1 h).2]
  have hsame : digits.text = p := by
    have hdot' : List.Forall₂ (fun c d => sameLetter c d = true) ('.' :: "html".toList) html := hdot
    cases hdot' with
    | @cons _ d _ dots hd _ =>
      have hd' : Text.isAsciiDigit d = false := by
        by_contra h
        rw [sameLetter_dot_of_digit (Bool.not_eq_false _ ▸ h)] at hd
        cases hd
      have happ' : digits.text ++ d :: (dots ++ afterHtml) = p ++ '.' :: "html".toList :=
        (congrArg (digits.text ++ ·) hhtml').symm.trans happ
      exact digits_unique happ' hall hp hd' (by decide)
  simp [hsame, hgroups, hnoGroups]

/-- **The path of a product names that product.** -/
theorem product_itemPath {p : Text} (hne : p ≠ []) (hp : ∀ c ∈ p, Text.isAsciiDigit c = true) :
    ∃ canonical, product u .aliexpress ("/item/".toList ++ p ++ ".html".toList) =
      some (p, canonical) := by
  obtain ⟨m, hm⟩ := exists_match_itemPath hne hp
  obtain ⟨n, hn, hsearch⟩ := search_of_mem hm
  rw [product, hsearch, Option.map_some, groups_of_match_itemPath hp hn]
  exact ⟨_, rfl⟩

theorem exists_parts_of_externalProductId {url q : Text} {store : Store}
    (hstore : (canonicalizeStoreUrl u url).store = some store)
    (hid : (canonicalizeStoreUrl u url).externalProductId = some q) :
    ∃ parts canonical, urlsplit u url = some parts ∧
      product u store parts.path = some (q, canonical) := by
  obtain ⟨store', parts, canonical, variation, hsplit, hproduct, -, hresult⟩ :=
    exists_parts_of_recognized u hid
  rw [hresult] at hstore
  obtain rfl := Option.some.inj hstore
  exact ⟨parts, canonical, hsplit, hproduct⟩

/-- The product id of an AliExpress address is a number. -/
theorem digits_of_externalProductId {url q : Text}
    (hstore : (canonicalizeStoreUrl u url).store = some .aliexpress)
    (hid : (canonicalizeStoreUrl u url).externalProductId = some q) :
    q ≠ [] ∧ ∀ c ∈ q, Text.isAsciiDigit c = true := by
  obtain ⟨parts, canonical, -, hproduct⟩ := exists_parts_of_externalProductId u hstore hid
  obtain ⟨m, hm, hpair⟩ := Option.map_eq_some_iff.1 hproduct
  obtain ⟨t, hmatch⟩ := exists_mem_of_search hm
  obtain ⟨p, hgroups, hne, hdigits⟩ := groups_of_match_aliexpressProduct hmatch
  have hq : p = q := by
    rw [hgroups] at hpair
    exact (Prod.mk.inj hpair).1
  rw [← hq]
  exact ⟨hne, hdigits⟩

/-- **Reading the address of a product gives its product id.** -/
theorem externalProductId_itemUrl {host p query q : Text} (hne : host ≠ [])
    (hhost : ∀ c ∈ host, isDelimiter c = false ∧ isUnsafe c = false) (hp : p ≠ [])
    (hdigits : ∀ c ∈ p, Text.isAsciiDigit c = true)
    (hstore : (canonicalizeStoreUrl u (urlunsplit
      ⟨"https".toList, host, "/item/".toList ++ p ++ ".html".toList, query, []⟩)).store =
        some .aliexpress)
    (hid : (canonicalizeStoreUrl u (urlunsplit
      ⟨"https".toList, host, "/item/".toList ++ p ++ ".html".toList, query, []⟩)).externalProductId =
        some q) : q = p := by
  obtain ⟨parts, canonical, hsplit, hproduct⟩ := exists_parts_of_externalProductId u hstore hid
  have hpath : parts.path = "/item/".toList ++ p ++ ".html".toList := by
    refine path_of_urlsplit u ("item/".toList ++ p ++ ".html".toList) hne hhost ?_ hsplit
    intro c hc
    have hdigit : ∀ d, Text.isAsciiDigit d = true → d ≠ '?' ∧ d ≠ '#' ∧ isUnsafe d = false := by
      intro d hd
      refine ⟨?_, ?_, ?_⟩
      · rintro rfl
        exact absurd hd (by decide)
      · rintro rfl
        exact absurd hd (by decide)
      · have hd3 : d ≠ '\t' ∧ d ≠ '\r' ∧ d ≠ '\n' := by
          refine ⟨?_, ?_, ?_⟩ <;>
          · rintro rfl
            exact absurd hd (by decide)
        simp [isUnsafe, hd3]
    rw [List.append_assoc, List.mem_append, List.mem_append] at hc
    rcases hc with hc | hc | hc
    · revert c
      decide
    · exact hdigit c (hdigits c hc)
    · revert c
      decide
  obtain ⟨canonical', hitem⟩ := product_itemPath u hp hdigits
  rw [hpath, hitem] at hproduct
  exact (Prod.mk.inj (Option.some.inj hproduct)).1.symm

end ItemAddress

end Urls
end PromoBot
