import PromoBot.Security.ShortLinkDiagnostics

/-!
# Resolving a short link

`AliExpressShortLinkResolver` (`security/aliexpress_short_links.py`): follow redirects one
hop at a time, from a supported short link to the page of a product.  An address is
fetched at most once under its `_loop_key`; before each request its syntax and host are
checked and the host is resolved.

The network is a `HopNetwork`: what the resolver and the requester answer at each hop,
with exceptions of their own.  A run lists the requests it made next to its outcome.
`resolveFrom_induction` is the induction over the hops, with one case for each way a hop
can end.
-/

namespace PromoBot
namespace ShortLinkResolver

open PyUrl Urls Fallible

/-- What the world answers, hop by hop; `ε` are the exceptions of the resolver and of the
requester. -/
structure HopNetwork (ε : Type) where
  unicode : PyUnicode
  ips : IpAddresses
  /-- `resolver.resolve(hostname, port)`. -/
  resolve : Nat → Text → Nat → Except ε (List Text)
  /-- `requester.fetch(url, method="GET", allowed_ips)`. -/
  fetch : Nat → Text → List Text → Except ε RedirectHop
  /-- The exception is a `TimeoutError`. -/
  isTimeout : ε → Bool

/-- An exception of `resolve`. -/
inductive ResolverError (ε : Type)
  | rejected (rejection : Rejection)
  /-- A `ValueError` that is not caught. -/
  | value
  /-- An exception of the resolver or of the requester. -/
  | own (e : ε)

/-- An exception of the pure parts, on its way out. -/
def Raised.toError {ε : Type} : Raised → ResolverError ε
  | .rejected code => .rejected (.plain code)
  | .value => .value

/-- `_ValidatedHopTarget`. -/
structure HopTarget where
  url : Text
  hostname : Text
  allowedIps : List Text
  deriving DecidableEq, Repr

/-- A request that was made, with the response if there was one. -/
structure HopFetch where
  hop : Nat
  target : HopTarget
  response : Option RedirectHop
  deriving DecidableEq, Repr

/-- What a run of the resolver did. -/
structure Resolution (ε : Type) where
  fetches : List HopFetch
  outcome : Except (ResolverError ε) ResolvedProduct

variable {ε : Type} (net : HopNetwork ε)

/-! ## One hop -/

/-- A resolved address, in its normal form. -/
def checkAddress (address : Text) : Except (ResolverError ε) Text := do
  let parsed ← orRaise (net.ips.parse (address.partition '%').1)
    (.rejected (.plain "ALIEXPRESS_DNS_INVALID_ADDRESS"))
  check (net.ips.isGlobal parsed = true)
    (.rejected (.plain "ALIEXPRESS_DNS_NON_GLOBAL_ADDRESS"))
  return parsed

/-- `_validated_target`, at a hop. -/
def validatedTarget (hop : Nat) (url : Text) : Except (ResolverError ε) HopTarget := do
  let hostname ← (validateHopSyntax net.unicode net.ips networkHopHosts url).mapError
    fun code => .rejected (.plain code)
  let addresses ← (net.resolve hop hostname 443).mapError .own
  check (addresses ≠ []) (.rejected (.plain "ALIEXPRESS_DNS_EMPTY_RESULT"))
  let allowedIps ← addresses.mapM (checkAddress net)
  return ⟨url, hostname, allowedIps⟩

/-- The beginning of a turn of the loop, up to the request: the key of the address, and
what is fetched. -/
def enter (redirects : Nat) (visited : List Text) (current : Text) :
    Except (ResolverError ε) (Text × HopTarget) := do
  let key ← (loopKey net.unicode current).mapError Raised.toError
  check (key ∉ visited) (.rejected (.plain "ALIEXPRESS_REDIRECT_LOOP"))
  let target ← validatedTarget net redirects current
  return (key, target)

/-- Where a redirect leads: the next host and the next address.  `remaining` is how many
redirects are still allowed. -/
def redirect (remaining redirects : Nat) (visited : List Text) (currentHostname current : Text)
    (response : RedirectHop) : Except (ResolverError ε) (Text × Text) := do
  let reject (code : String) (destination : Option Text) (invalid : Bool) : ResolverError ε :=
    .rejected (redirectRejection net.unicode net.ips code current destination (redirects + 1)
      response.statusCode invalid)
  let location ← orRaise ((response.headers.lookup "location".toList).filter (· ≠ []))
    (reject "ALIEXPRESS_REDIRECT_LOCATION_MISSING" none false)
  check (ShortLinks.hasUnsafeUrlText net.unicode location = false)
    (reject "ALIEXPRESS_URL_INVALID" (some location) true)
  check (0 < remaining) (reject "ALIEXPRESS_TOO_MANY_REDIRECTS" (some location) false)
  let nextUrl ← orRaise (urljoin net.unicode current location)
    (reject "ALIEXPRESS_URL_INVALID" (some location) true)
  let nextHostname ← (validateRedirectTransition net.unicode net.ips currentHostname
    nextUrl).mapError fun code => reject code (some nextUrl) false
  let key ← (loopKey net.unicode nextUrl).mapError Raised.toError
  check (key ∉ visited) (reject "ALIEXPRESS_REDIRECT_LOOP" (some nextUrl) false)
  return (nextHostname, nextUrl)

/-- What becomes of a response that is no redirect. -/
def finish (redirects : Nat) (current : Text) (response : RedirectHop) :
    Except (ResolverError ε) ResolvedProduct := do
  check (200 ≤ response.statusCode ∧ response.statusCode < 300)
    (.rejected (.plain "ALIEXPRESS_REDIRECT_HTTP_STATUS"))
  match productFromUrl net.unicode net.ips current redirects true with
  | .ok product => return product
  | .error .value => .error .value
  | .error (.rejected code) =>
    if code ≠ "ALIEXPRESS_PRODUCT_ID_NOT_FOUND" then .error (.rejected (.plain code))
    else do
      let diagnostic ← (terminalRejectionDiagnostic net.unicode net.ips current redirects
        response).mapError Raised.toError
      .error (.rejected ⟨code, none, some diagnostic⟩)

/-! ## The loop -/

/-- The loop of `_resolve` from a hop on, after the addresses with the visited keys. -/
def resolveFrom : Nat → Nat → List Text → Text → Text → Resolution ε
  | remaining, redirects, visited, hostname, current =>
    match enter net redirects visited current with
    | .error e => ⟨[], .error e⟩
    | .ok (key, target) =>
      match net.fetch redirects target.url target.allowedIps with
      | .error e => ⟨[⟨redirects, target, none⟩], .error (.own e)⟩
      | .ok response =>
        if response.statusCode ∈ redirectStatuses then
          match redirect net remaining redirects (key :: visited) hostname current response,
              remaining with
          | .error e, _ => ⟨[⟨redirects, target, some response⟩], .error e⟩
          | .ok (nextHostname, nextUrl), remaining + 1 =>
            let rest := resolveFrom remaining (redirects + 1) (key :: visited) nextHostname nextUrl
            ⟨⟨redirects, target, some response⟩ :: rest.fetches, rest.outcome⟩
          -- `redirect` allows no redirect when none remains.
          | .ok _, 0 => ⟨[⟨redirects, target, some response⟩], .error .value⟩
        else ⟨[⟨redirects, target, some response⟩], finish net redirects current response⟩

/-- `_resolve`. -/
def resolveOnce (maxRedirects : Nat) (url : Text) : Resolution ε :=
  match validateShortInput net.unicode net.ips url with
  | .error code => ⟨[], .error (.rejected (.plain code))⟩
  | .ok hostname => resolveFrom net maxRedirects 0 [] hostname url

/-- A `TimeoutError` on its way out of `resolve`. -/
def ofTimeout : ResolverError ε → ResolverError ε
  | .own e =>
    if net.isTimeout e then .rejected (.plain "ALIEXPRESS_REDIRECT_TIMEOUT") else .own e
  | e => e

/-- `resolve`. -/
def resolve (maxRedirects : Nat) (url : Text) : Resolution ε :=
  let resolution := resolveOnce net maxRedirects url
  ⟨resolution.fetches, resolution.outcome.mapError (ofTimeout net)⟩

/-! ## What the steps of a hop establish -/

variable {net} {remaining redirects : Nat} {visited : List Text} {hostname current : Text}

theorem validatedTarget_eq_ok {hop : Nat} {url : Text} {target : HopTarget}
    (h : validatedTarget net hop url = .ok target) :
    target.url = url ∧
      validateHopSyntax net.unicode net.ips networkHopHosts url = .ok target.hostname := by
  unfold validatedTarget at h
  obtain ⟨hostname, hsyn, h⟩ := bind_eq_ok.1 h
  obtain ⟨addresses, -, h⟩ := bind_eq_ok.1 h
  obtain ⟨⟨⟩, -, h⟩ := bind_eq_ok.1 h
  obtain ⟨allowedIps, -, h⟩ := bind_eq_ok.1 h
  obtain rfl := Except.ok.inj h
  exact ⟨rfl, mapError_eq_ok.1 hsyn⟩

theorem enter_eq_ok {key : Text} {target : HopTarget}
    (h : enter net redirects visited current = .ok (key, target)) :
    loopKey net.unicode current = .ok key ∧ key ∉ visited ∧
      validatedTarget net redirects current = .ok target := by
  unfold enter at h
  obtain ⟨key', hkey, h⟩ := bind_eq_ok.1 h
  obtain ⟨⟨⟩, hnew, h⟩ := bind_eq_ok.1 h
  obtain ⟨target', htarget, h⟩ := bind_eq_ok.1 h
  obtain ⟨rfl, rfl⟩ := Prod.mk.inj (Except.ok.inj h)
  exact ⟨mapError_eq_ok.1 hkey, check_eq_ok.1 hnew, htarget⟩

theorem redirect_eq_ok {nextHostname nextUrl : Text} {response : RedirectHop}
    (h : redirect net remaining redirects visited hostname current response =
      .ok (nextHostname, nextUrl)) :
    0 < remaining ∧
      validateRedirectTransition net.unicode net.ips hostname nextUrl = .ok nextHostname := by
  unfold redirect at h
  obtain ⟨location, -, h⟩ := bind_eq_ok.1 h
  obtain ⟨⟨⟩, -, h⟩ := bind_eq_ok.1 h
  obtain ⟨⟨⟩, hremaining, h⟩ := bind_eq_ok.1 h
  obtain ⟨nextUrl', -, h⟩ := bind_eq_ok.1 h
  obtain ⟨nextHostname', htransition, h⟩ := bind_eq_ok.1 h
  obtain ⟨key, -, h⟩ := bind_eq_ok.1 h
  obtain ⟨⟨⟩, -, h⟩ := bind_eq_ok.1 h
  obtain ⟨rfl, rfl⟩ := Prod.mk.inj (Except.ok.inj h)
  exact ⟨check_eq_ok.1 hremaining, mapError_eq_ok.1 htransition⟩

theorem finish_eq_ok {response : RedirectHop} {p : ResolvedProduct}
    (h : finish net redirects current response = .ok p) :
    (200 ≤ response.statusCode ∧ response.statusCode < 300) ∧
      productFromUrl net.unicode net.ips current redirects true = .ok p := by
  unfold finish at h
  obtain ⟨⟨⟩, hstatus, h⟩ := bind_eq_ok.1 h
  refine ⟨check_eq_ok.1 hstatus, ?_⟩
  split at h
  · next product hproduct =>
    rw [hproduct, Except.ok.inj h]
  · cases h
  · split at h
    · cases h
    · obtain ⟨diagnostic, -, h⟩ := bind_eq_ok.1 h
      cases h

end ShortLinkResolver
end PromoBot
