import PromoBot.Lib.Preferred
import PromoBot.Lib.Raises
import PromoBot.Security.UrlExpander
import PromoBot.Stores.Canonical
import PromoBot.Stores.ShortLinks

/-!
# The product of a resolved short link

The checks of `security/aliexpress_short_links.py` that look at one address: the syntax of
a hop (`_validate_hop_syntax`), the step from one host to the next
(`_validate_redirect_transition`), the key an address is visited under (`_loop_key`) and
the product of the address a chain of redirects ends at (`_product_from_url`).

`AliExpressShortLinkRejected` carries a code, and these functions are written to raise
nothing else.  What `urlsplit` and the port of its result raise where the source does not
catch it is `Raised.value`.
-/

namespace PromoBot
namespace ShortLinkResolver

open PyUrl Urls Fallible

/-! ## Hosts and paths -/

/-- `ALIEXPRESS_SHORT_HOST`. -/
def shortHost : Text := "s.click.aliexpress.com".toList

/-- `ALIEXPRESS_A_SHORT_HOST`. -/
def aShortHost : Text := "a.aliexpress.com".toList

/-- `ALIEXPRESS_MOBILE_HOP_HOST`. -/
def mobileHopHost : Text := "m.aliexpress.com".toList

/-- `ALIEXPRESS_SHORT_HOSTS`. -/
def shortHosts : List Text := [shortHost, aShortHost]

/-- `ALIEXPRESS_REDIRECT_HOSTS`. -/
def redirectHosts : List Text := aliexpressHosts ++ shortHosts

/-- `ALIEXPRESS_NETWORK_HOP_HOSTS`. -/
def networkHopHosts : List Text := redirectHosts ++ [mobileHopHost]

/-- `ALIEXPRESS_PRODUCT_PATH`. -/
def productPath : Regex :=
  .seq (Regex.literalIgnoreCase "/item/".toList)
    (.seq number (Regex.literalIgnoreCase ".html".toList))

/-- `ALIEXPRESS_MOBILE_PRODUCT_PATH`; its `^` is where `fullmatch` begins. -/
def mobileProductPath : Regex :=
  .seq (Regex.literal "/item/".toList)
    (.seq number (.seq (Regex.literal ".html".toList) .atEnd))

/-! ## Checks of one address -/

/-- An exception of the pure parts. -/
inductive Raised
  /-- `AliExpressShortLinkRejected`, by its code. -/
  | rejected (code : String)
  /-- A `ValueError` that is not caught. -/
  | value
  deriving DecidableEq, Repr

/-- `ResolvedAliExpressProduct`. -/
structure ResolvedProduct where
  productId : Text
  variationKey : Text
  identityUrl : Text
  generationUrl : Text
  redirectCount : Nat
  deriving DecidableEq, Repr

variable (u : PyUnicode) (ips : IpAddresses)

/-- `normalize_hostname(parts.hostname) if parts.hostname else ""`. -/
def hostOf (parts : SplitResult) : Text :=
  ((parts.hostname u).map (normalizeHostname u)).getD []

/-- `urlsplit(url)` and its `port`. -/
def splitWithPort (url : Text) : Option (SplitResult × Option Nat) :=
  (urlsplit u url).bind fun parts => parts.port.map fun port => (parts, port)

/-- `_validate_hop_syntax`; an error is the code of the rejection. -/
def validateHopSyntax (allowedHosts : List Text) (url : Text) : Except String Text := do
  check (ShortLinks.hasUnsafeUrlText u url = false) "ALIEXPRESS_URL_INVALID"
  check ('\\' ∉ url) "ALIEXPRESS_URL_INVALID"
  let (parts, port) ← orRaise (splitWithPort u url) "ALIEXPRESS_URL_INVALID"
  check (u.casefold parts.scheme = "https".toList) "ALIEXPRESS_HTTPS_REQUIRED"
  check (parts.username = none ∧ parts.password = none) "ALIEXPRESS_URL_USERINFO_FORBIDDEN"
  check (port ∈ [none, some 443]) "ALIEXPRESS_URL_PORT_FORBIDDEN"
  let hostname := hostOf u parts
  check (hostname ∈ allowedHosts) "ALIEXPRESS_REDIRECT_HOST_FORBIDDEN"
  check (hostname = aShortHost → ShortLinks.isProvenAShortShape parts = true)
    "ALIEXPRESS_SHORT_URL_REQUIRED"
  check (ips.parse hostname = none) "ALIEXPRESS_REDIRECT_HOST_FORBIDDEN"
  return hostname

/-- `_validate_redirect_transition`. -/
def validateRedirectTransition (sourceHostname destinationUrl : Text) : Except String Text := do
  let destinationHostname ← validateHopSyntax u ips networkHopHosts destinationUrl
  check (destinationHostname = mobileHopHost → sourceHostname ∈ shortHosts)
    "ALIEXPRESS_REDIRECT_HOST_FORBIDDEN"
  return destinationHostname

/-- `is_supported_aliexpress_short_input`. -/
def isSupportedAliexpressShortInput (url : Text) : Bool :=
  match validateHopSyntax u ips redirectHosts url, urlsplit u url with
  | .ok hostname, some parts =>
    if hostname = shortHost then "/e/".toList.isPrefixOf parts.path
    else hostname = aShortHost && ShortLinks.isProvenAShortShape parts
  | _, _ => false

/-- `_validate_short_input`. -/
def validateShortInput (url : Text) : Except String Text := do
  let hostname ← validateHopSyntax u ips networkHopHosts url
  check (isSupportedAliexpressShortInput u ips url = true) "ALIEXPRESS_SHORT_URL_REQUIRED"
  return hostname

/-- `_loop_key`. -/
def loopKey (url : Text) : Except Raised Text := do
  let parts ← orRaise (urlsplit u url) .value
  let hostname := hostOf u parts
  let port ← orRaise parts.port .value
  let netloc :=
    match port with
    | none => hostname
    | some port => if port = 443 then hostname else hostname ++ ':' :: Text.ofNat port
  return urlunsplit ⟨u.casefold parts.scheme, netloc, parts.path, parts.query, []⟩

/-! ## The product -/

/-- The product id in the path of a product page on a host. -/
def productIdOf (hostname path : Text) : Option Text :=
  ((if hostname = mobileHopHost then mobileProductPath else productPath).fullMatch? path).map
    fun m => m.groups.headD []

/-- The values of the keys `sku_id` and `skuid` in a query. -/
def skuValues (query : Text) : List Text :=
  ((parseQsl u query).filter fun e =>
    u.casefold e.1 ∈ ["sku_id".toList, "skuid".toList]).map Prod.snd

/-- The one variation among the values. -/
def skuIdOf : List Text → Except Raised (Option Text)
  | [] => .ok none
  | [value] =>
    if isDigits u value then .ok (some value)
    else .error (.rejected "ALIEXPRESS_VARIATION_AMBIGUOUS")
  | _ => .error (.rejected "ALIEXPRESS_VARIATION_AMBIGUOUS")

/-- The address of a product page with a variation, if any. -/
def productPageUrl (host productId : Text) (skuId : Option Text) : Text :=
  urlunsplit ⟨"https".toList, host, "/item/".toList ++ productId ++ ".html".toList,
    (skuId.map (urlencodeOne "sku_id".toList)).getD [], []⟩

/-- `_product_from_url`. -/
def productFromUrl (url : Text) (redirectCount : Nat) (allowMobileTerminal : Bool) :
    Except Raised ResolvedProduct := do
  let hostname ← (validateHopSyntax u ips
    (if allowMobileTerminal then networkHopHosts else redirectHosts) url).mapError .rejected
  check (hostname ∉ shortHosts) (.rejected "ALIEXPRESS_PRODUCT_URL_REQUIRED")
  let parts ← orRaise (urlsplit u url) .value
  let productId ← orRaise (productIdOf hostname parts.path)
    (.rejected "ALIEXPRESS_PRODUCT_ID_NOT_FOUND")
  let skuId ← skuIdOf u (if hostname = mobileHopHost then [] else skuValues u parts.query)
  return {
    productId := productId
    variationKey := (skuId.map ("sku_id:".toList ++ ·)).getD []
    identityUrl := productPageUrl "www.aliexpress.com".toList productId skuId
    generationUrl := productPageUrl "pt.aliexpress.com".toList productId skuId
    redirectCount := redirectCount }

/-! ## What the checks establish -/

variable {u ips}

/-- What `_validate_hop_syntax` established of an address. -/
structure AllowedHop (u : PyUnicode) (allowedHosts : List Text) (url hostname : Text)
    (parts : SplitResult) (port : Option Nat) : Prop where
  split : urlsplit u url = some parts
  port_eq : parts.port = some port
  scheme : u.casefold parts.scheme = "https".toList
  credentials : parts.username = none ∧ parts.password = none
  port_mem : port ∈ [none, some 443]
  host : hostOf u parts = hostname
  allowed : hostname ∈ allowedHosts

theorem validateHopSyntax_eq_ok {allowedHosts : List Text} {url hostname : Text}
    (h : validateHopSyntax u ips allowedHosts url = .ok hostname) :
    ∃ parts port, AllowedHop u allowedHosts url hostname parts port := by
  unfold validateHopSyntax at h
  obtain ⟨⟨⟩, -, h⟩ := bind_eq_ok.1 h
  obtain ⟨⟨⟩, -, h⟩ := bind_eq_ok.1 h
  obtain ⟨⟨parts, port⟩, hparts, h⟩ := bind_eq_ok.1 h
  obtain ⟨⟨⟩, hscheme, h⟩ := bind_eq_ok.1 h
  obtain ⟨⟨⟩, hcredentials, h⟩ := bind_eq_ok.1 h
  obtain ⟨⟨⟩, hport, h⟩ := bind_eq_ok.1 h
  obtain ⟨⟨⟩, hallowed, h⟩ := bind_eq_ok.1 h
  obtain ⟨⟨⟩, -, h⟩ := bind_eq_ok.1 h
  obtain ⟨⟨⟩, -, h⟩ := bind_eq_ok.1 h
  obtain rfl := Except.ok.inj h
  obtain ⟨parts', hsplit, hpair⟩ := Option.bind_eq_some_iff.1 (orRaise_eq_ok.1 hparts)
  obtain ⟨port', hport', hpair⟩ := Option.map_eq_some_iff.1 hpair
  obtain ⟨rfl, rfl⟩ := Prod.mk.inj hpair
  exact ⟨parts', port', hsplit, hport', check_eq_ok.1 hscheme, check_eq_ok.1 hcredentials,
    check_eq_ok.1 hport, rfl, check_eq_ok.1 hallowed⟩

/-- **The syntax of a short link**: where `ipaddress` takes no allowed host for an address,
the hops of a redirect are those a message's short links are told by. -/
theorem toOption_validateHopSyntax {url : Text} (hips : ∀ host ∈ redirectHosts, ips.parse host = none) :
    (validateHopSyntax u ips redirectHosts url).toOption = ShortLinks.validateHopSyntax u url := by
  have hhosts : ∀ host, host ∈ redirectHosts ↔ host ∈ aliexpressHosts ++ aliexpressRedirectorHosts := by
    intro host
    have hswap : host ∈ shortHosts ↔ host ∈ aliexpressRedirectorHosts :=
      (List.Perm.swap aShortHost shortHost []).mem_iff
    rw [redirectHosts, List.mem_append, List.mem_append, hswap]
  ext hostname
  rw [toOption_eq_some]
  unfold ShortLinks.validateHopSyntax
  constructor
  · intro h
    unfold validateHopSyntax at h
    obtain ⟨⟨⟩, hsafe, h⟩ := bind_eq_ok.1 h
    obtain ⟨⟨⟩, hslash, h⟩ := bind_eq_ok.1 h
    obtain ⟨⟨parts, port⟩, hparts, h⟩ := bind_eq_ok.1 h
    obtain ⟨⟨⟩, hscheme, h⟩ := bind_eq_ok.1 h
    obtain ⟨⟨⟩, hcredentials, h⟩ := bind_eq_ok.1 h
    obtain ⟨⟨⟩, hport, h⟩ := bind_eq_ok.1 h
    obtain ⟨⟨⟩, hallowed, h⟩ := bind_eq_ok.1 h
    obtain ⟨⟨⟩, hshape, h⟩ := bind_eq_ok.1 h
    obtain ⟨⟨⟩, -, h⟩ := bind_eq_ok.1 h
    obtain rfl := Except.ok.inj h
    obtain ⟨parts', hsplit, hpair⟩ := Option.bind_eq_some_iff.1 (orRaise_eq_ok.1 hparts)
    obtain ⟨port', hport', hpair⟩ := Option.map_eq_some_iff.1 hpair
    obtain ⟨rfl, rfl⟩ := Prod.mk.inj hpair
    rw [check_eq_ok] at hsafe hslash hscheme hcredentials hport hallowed hshape
    rw [if_neg (by rw [hsafe]; simpa using hslash), hsplit, Option.bind_some, hport',
      Option.bind_some]
    exact if_pos ⟨hscheme, hcredentials.1, hcredentials.2, hport, (hhosts _).1 hallowed, hshape⟩
  · intro h
    split at h
    · cases h
    · next hsafe =>
      obtain ⟨parts, hsplit, h⟩ := Option.bind_eq_some_iff.1 h
      obtain ⟨port, hport, h⟩ := Option.bind_eq_some_iff.1 h
      obtain ⟨⟨hscheme, husername, hpassword, hmem, hallowed, hshape⟩, h⟩ :=
        Option.ite_none_right_eq_some.1 h
      obtain rfl := Option.some.inj h
      rw [not_or, Bool.not_eq_true] at hsafe
      have hparts : splitWithPort u url = some (parts, port) := by
        rw [splitWithPort, hsplit, Option.bind_some, hport, Option.map_some]
      have hhost : hostOf u parts ∈ redirectHosts := (hhosts _).2 hallowed
      unfold validateHopSyntax
      refine bind_eq_ok.2 ⟨⟨⟩, check_eq_ok.2 hsafe.1, ?_⟩
      refine bind_eq_ok.2 ⟨⟨⟩, check_eq_ok.2 hsafe.2, ?_⟩
      refine bind_eq_ok.2 ⟨(parts, port), orRaise_eq_ok.2 hparts, ?_⟩
      refine bind_eq_ok.2 ⟨⟨⟩, check_eq_ok.2 hscheme, ?_⟩
      refine bind_eq_ok.2 ⟨⟨⟩, check_eq_ok.2 ⟨husername, hpassword⟩, ?_⟩
      refine bind_eq_ok.2 ⟨⟨⟩, check_eq_ok.2 hmem, ?_⟩
      refine bind_eq_ok.2 ⟨⟨⟩, check_eq_ok.2 hhost, ?_⟩
      refine bind_eq_ok.2 ⟨⟨⟩, check_eq_ok.2 hshape, ?_⟩
      exact bind_eq_ok.2 ⟨⟨⟩, check_eq_ok.2 (hips _ hhost), rfl⟩

theorem isSupportedAliexpressShortInput_eq {url : Text}
    (hips : ∀ host ∈ redirectHosts, ips.parse host = none) :
    isSupportedAliexpressShortInput u ips url =
      ShortLinks.isSupportedAliexpressShortInput u url := by
  unfold isSupportedAliexpressShortInput ShortLinks.isSupportedAliexpressShortInput
  rw [← toOption_validateHopSyntax hips]
  cases validateHopSyntax u ips redirectHosts url with
  | error code => rfl
  | ok hostname => cases urlsplit u url <;> rfl

theorem validateRedirectTransition_eq_ok {source url hostname : Text}
    (h : validateRedirectTransition u ips source url = .ok hostname) :
    validateHopSyntax u ips networkHopHosts url = .ok hostname ∧
      (hostname = mobileHopHost → source ∈ shortHosts) := by
  unfold validateRedirectTransition at h
  obtain ⟨hostname', hsyn, h⟩ := bind_eq_ok.1 h
  obtain ⟨⟨⟩, hmobile, h⟩ := bind_eq_ok.1 h
  obtain rfl := Except.ok.inj h
  exact ⟨hsyn, check_eq_ok.1 hmobile⟩

/-- An address that was let through has a key. -/
theorem AllowedHop.exists_loopKey {allowedHosts : List Text} {url hostname : Text}
    {parts : SplitResult} {port : Option Nat} (h : AllowedHop u allowedHosts url hostname parts port) :
    ∃ key, loopKey u url = .ok key := by
  have hraises : RaisesOnly (fun _ => False) (loopKey u url) := by
    unfold loopKey
    refine (raisesOnly_orRaise fun hnone => ?_).bind fun parts' hparts => ?_
    · rw [h.split] at hnone
      cases hnone
    · obtain rfl := Option.some.inj (h.split.symm.trans (orRaise_eq_ok.1 hparts))
      refine (raisesOnly_orRaise fun hnone => ?_).bind fun _ _ => raisesOnly_ok _
      rw [h.port_eq] at hnone
      cases hnone
  cases hkey : loopKey u url with
  | ok key => exact ⟨key, rfl⟩
  | error e => exact absurd (hraises e hkey) id

/-- The product an address names: its path, and for hosts other than the mobile one its
query. -/
structure NamesProduct (u : PyUnicode) (hostname : Text) (parts : SplitResult)
    (productId : Text) (skuId : Option Text) : Prop where
  path : productIdOf hostname parts.path = some productId
  sku : skuIdOf u (if hostname = mobileHopHost then [] else skuValues u parts.query) = .ok skuId

theorem productFromUrl_eq_ok {url : Text} {redirectCount : Nat} {allowMobileTerminal : Bool}
    {p : ResolvedProduct} (h : productFromUrl u ips url redirectCount allowMobileTerminal = .ok p) :
    ∃ hostname parts port skuId, AllowedHop u networkHopHosts url hostname parts port ∧
      hostname ∉ shortHosts ∧ NamesProduct u hostname parts p.productId skuId ∧
      p.variationKey = (skuId.map ("sku_id:".toList ++ ·)).getD [] ∧
      p.identityUrl = productPageUrl "www.aliexpress.com".toList p.productId skuId ∧
      p.generationUrl = productPageUrl "pt.aliexpress.com".toList p.productId skuId := by
  unfold productFromUrl at h
  obtain ⟨hostname, hsyn, h⟩ := bind_eq_ok.1 h
  obtain ⟨⟨⟩, hshort, h⟩ := bind_eq_ok.1 h
  obtain ⟨parts, hparts, h⟩ := bind_eq_ok.1 h
  obtain ⟨productId, hproductId, h⟩ := bind_eq_ok.1 h
  obtain ⟨skuId, hsku, h⟩ := bind_eq_ok.1 h
  obtain rfl := Except.ok.inj h
  obtain ⟨parts', port, hhop⟩ := validateHopSyntax_eq_ok (mapError_eq_ok.1 hsyn)
  obtain rfl := Option.some.inj (hhop.split.symm.trans (orRaise_eq_ok.1 hparts))
  have hallowed : hostname ∈ networkHopHosts := by
    have hmem := hhop.allowed
    split at hmem
    · exact hmem
    · exact List.mem_append_left [mobileHopHost] hmem
  exact ⟨hostname, parts', port, skuId, ⟨hhop.split, hhop.port_eq, hhop.scheme, hhop.credentials,
    hhop.port_mem, hhop.host, hallowed⟩, check_eq_ok.1 hshort,
    ⟨orRaise_eq_ok.1 hproductId, hsku⟩, rfl, rfl, rfl⟩

theorem skuIdOf_eq_ok {values : List Text} {skuId : Option Text}
    (h : skuIdOf u values = .ok skuId) :
    values = skuId.toList ∧ ∀ v, skuId = some v → isDigits u v = true := by
  unfold skuIdOf at h
  split at h
  · obtain rfl := Except.ok.inj h
    exact ⟨rfl, nofun⟩
  · next value =>
    split at h
    · next hdigits =>
      obtain rfl := Except.ok.inj h
      refine ⟨rfl, ?_⟩
      rintro v hv
      obtain rfl := Option.some.inj hv
      exact hdigits
    · cases h
  · cases h

section Paths

open Regex

/-- An id between two literals is what the pattern of a product path captures. -/
theorem exists_item_html {r s : Regex} {path : Text} {m : Match} (hm : m ∈ (Regex.seq r
      (.seq number s)).allMatches path) (hrest : m.rest = [])
    (hr : ∀ {t k}, k ∈ r.allMatches t → k.groups = [] ∧
      List.Forall₂ (fun c d => sameLetter c d = true) "/item/".toList k.text)
    (hs : ∀ {t k}, k ∈ s.allMatches t →
      List.Forall₂ (fun c d => sameLetter c d = true) ".html".toList k.text) :
    IsNumber 1 (m.groups.headD []) ∧ ∃ item html, path = item ++ (m.groups.headD [] ++ html) ∧
      List.Forall₂ (fun c d => sameLetter c d = true) "/item/".toList item ∧
      List.Forall₂ (fun c d => sameLetter c d = true) ".html".toList html := by
  have htext := text_append_rest hm
  obtain ⟨item, hitem, _, hm₁, rfl⟩ := mem_allMatches_seq.1 hm
  obtain ⟨digits, hdigits, html, hhtml, rfl⟩ := mem_allMatches_seq.1 hm₁
  obtain ⟨hgroups, hnumber⟩ := groups_of_digits hdigits
  obtain ⟨hnone, hitem'⟩ := hr hitem
  have hid : (item.groups ++ (digits.groups ++ html.groups)).headD [] = digits.text := by
    rw [hnone, hgroups]
    rfl
  dsimp only at htext hrest ⊢
  rw [hid]
  refine ⟨hnumber, item.text, html.text, ?_, hitem', hs hhtml⟩
  rw [← htext, hrest, List.append_nil]

theorem forall₂_of_literalIgnoreCase {w t : Text} {m : Match}
    (hm : m ∈ (literalIgnoreCase w).allMatches t) :
    List.Forall₂ (fun c d => sameLetter c d = true) w m.text := by
  obtain ⟨_, _, _, hsame, rfl⟩ := mem_allMatches_literalIgnoreCase.1 hm
  exact hsame

/-- **The path of a product page**: its id is the number between `/item/` and `.html`. -/
theorem productIdOf_eq_some {hostname path productId : Text}
    (h : productIdOf hostname path = some productId) :
    IsNumber 1 productId ∧ ∃ item html, path = item ++ (productId ++ html) ∧
      List.Forall₂ (fun c d => sameLetter c d = true) "/item/".toList item ∧
      List.Forall₂ (fun c d => sameLetter c d = true) ".html".toList html := by
  obtain ⟨m, hm, rfl⟩ := Option.map_eq_some_iff.1 h
  obtain ⟨hmem, hrest⟩ := fullMatch?_eq_some hm
  split at hmem
  · refine exists_item_html hmem hrest (fun hk => ?_) fun hk => ?_
    · rw [text_of_literal hk]
      exact ⟨groups_of_literal hk, forall₂_sameLetter_self _⟩
    · obtain ⟨html, hhtml, last, hlast, rfl⟩ := mem_allMatches_seq.1 hk
      obtain ⟨-, rfl⟩ := mem_allMatches_atEnd.1 hlast
      rw [text_of_literal hhtml, List.append_nil]
      exact forall₂_sameLetter_self _
  · refine exists_item_html hmem hrest (fun hk => ?_) fun hk => forall₂_of_literalIgnoreCase hk
    exact ⟨groups_of_literalIgnoreCase hk, forall₂_of_literalIgnoreCase hk⟩

end Paths

end ShortLinkResolver
end PromoBot
