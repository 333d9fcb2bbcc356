import PromoBot.Lib.Fallible
import PromoBot.Lib.UrlJoin
import PromoBot.Stores.Urls

/-!
# Expanding short addresses

`SafeUrlExpander` (`security/urls.py`): follow redirects one hop at a time.  Before each
request the address is checked and its host resolved; after it the peer the connection
really had is checked, and only then is the response looked at.

The network is an `Internet`: what the resolver and the requester answer at each hop.
`ipaddress` is a parameter of it (`IpAddresses`), as the address registries it consults
are.  An `expand` lists the requests it made next to its outcome; `used` in such a request
is the response, if the loop went on to read it.
-/

namespace PromoBot

open PyUrl Urls Fallible

/-- An exception of `expand`. -/
inductive UrlError
  /-- `SafeUrlError`. -/
  | safe (code : String)
  /-- `TransientUrlError`. -/
  | transient (code : String)
  /-- `ValueError`, from `urljoin`. -/
  | value
  deriving DecidableEq, Repr

/-- `REDIRECT_STATUSES`. -/
def redirectStatuses : List Nat := [301, 302, 303, 307, 308]

/-- `TRANSIENT_STATUSES`. -/
def transientStatuses : List Nat := [408, 429, 500, 502, 503, 504]

/-- `ALLOWED_NETWORK_HOSTS`. -/
def allowedNetworkHosts : List Text := storeHosts.flatMap Prod.snd ++ shortenerHosts

/-- The module `ipaddress`. -/
structure IpAddresses where
  /-- `str(ipaddress.ip_address(text))`; `none` is a `ValueError`. -/
  parse : Text → Option Text
  /-- `ip_address(text).is_global`. -/
  isGlobal : Text → Bool

/-- `HopResponse`, with the one header the loop reads. -/
structure HopResponse where
  statusCode : Nat
  location : Option Text
  peerIp : Option Text
  deriving DecidableEq, Repr

/-- `ValidatedTarget`. -/
structure ValidatedTarget where
  url : Text
  hostname : Text
  port : Nat
  allowedIps : List Text
  deriving DecidableEq, Repr

/-- `UrlExpansionResult`. -/
structure UrlExpansionResult where
  url : Text
  redirectCount : Nat
  deriving DecidableEq, Repr

/-- What the world answers, hop by hop. -/
structure Internet where
  unicode : PyUnicode
  ips : IpAddresses
  /-- `resolver.resolve(hostname, port)`. -/
  resolve : Nat → Text → Nat → Except UrlError (List Text)
  /-- `requester.fetch(url)`. -/
  fetch : Nat → Text → Except UrlError HopResponse

namespace SafeUrlExpander

variable (net : Internet)

/-! ## One hop -/

/-- The ports an address may have: `effective_port`.  An explicit port of zero is taken for
none. -/
def effectivePort (scheme : Text) (port : Option Nat) : Nat :=
  match port with
  | some (p + 1) => p + 1
  | some 0 | none => if net.unicode.casefold scheme = "https".toList then 443 else 80

/-- `urlsplit` and the `port` of its result. -/
def splitWithPort (url : Text) : Option (SplitResult × Option Nat) :=
  (urlsplit net.unicode url).bind fun parts => parts.port.map fun port => (parts, port)

/-- A resolved address, in its normal form. -/
def checkAddress (address : Text) : Except UrlError Text := do
  let parsed ← orRaise (net.ips.parse address) (.safe "DNS_INVALID_ADDRESS")
  check (net.ips.isGlobal parsed = true) (.safe "DNS_NON_GLOBAL_ADDRESS")
  return parsed

/-- The host of an address, when all but its ports are in order. -/
def checkAuthority (parts : SplitResult) : Except UrlError Text := do
  check (net.unicode.casefold parts.scheme ∈ ["http".toList, "https".toList])
    (.safe "UNSUPPORTED_SCHEME")
  let host ← orRaise (parts.hostname net.unicode) (.safe "MISSING_HOST")
  check (parts.username = none ∧ parts.password = none) (.safe "URL_CREDENTIALS_FORBIDDEN")
  let hostname := normalizeHostname net.unicode host
  check (hostname ∈ allowedNetworkHosts) (.safe "DOMAIN_NOT_ALLOWED")
  return hostname

/-- `_validate_target`, at a hop. -/
def validateTarget (hop : Nat) (url : Text) : Except UrlError ValidatedTarget := do
  let (parts, port) ← orRaise (splitWithPort net url) (.safe "INVALID_URL")
  let hostname ← checkAuthority net parts
  let effectivePort := effectivePort net parts.scheme port
  check (effectivePort ∈ [80, 443]) (.safe "PORT_NOT_ALLOWED")
  let addresses ← net.resolve hop hostname effectivePort
  check (addresses ≠ []) (.transient "DNS_EMPTY_RESULT")
  let allowedIps ← addresses.mapM (checkAddress net)
  return ⟨url, hostname, effectivePort, allowedIps⟩

/-- `_validate_peer`. -/
def validatePeer (peerIp : Option Text) (allowedIps : List Text) : Except UrlError Unit := do
  let peer ← orRaise peerIp (.safe "PEER_IP_UNVERIFIED")
  let parsed ← orRaise (net.ips.parse (peer.partition '%').1) (.safe "PEER_IP_INVALID")
  check (net.ips.isGlobal parsed = true) (.safe "PEER_IP_NON_GLOBAL")
  check (parsed ∈ allowedIps) (.safe "PEER_IP_DNS_MISMATCH")

/-- `_is_https_downgrade`. -/
def isHttpsDowngrade (currentUrl nextUrl : Text) : Except UrlError Bool :=
  match urlsplit net.unicode currentUrl, urlsplit net.unicode nextUrl with
  | some current, some next =>
    .ok (net.unicode.casefold current.scheme = "https".toList &&
      net.unicode.casefold next.scheme = "http".toList)
  | _, _ => .error (.safe "INVALID_REDIRECT_URL")

/-- What the loop makes of a response whose peer is verified: nothing more to follow, or the
next address.  `remaining` is how many redirects are still allowed. -/
def follow (remaining : Nat) (current : Text) (response : HopResponse) :
    Except UrlError (Option Text) := do
  check (response.statusCode ∉ transientStatuses)
    (.transient ("HTTP_" ++ toString response.statusCode))
  check (response.statusCode ≠ 403) (.safe "HTTP_FORBIDDEN_OR_CHALLENGE")
  check (response.statusCode < 400) (.safe ("HTTP_" ++ toString response.statusCode))
  if response.statusCode ∉ redirectStatuses then return none
  else
    let location ← orRaise (response.location.filter (· ≠ [])) (.safe "REDIRECT_WITHOUT_LOCATION")
    check (0 < remaining) (.safe "TOO_MANY_REDIRECTS")
    let nextUrl ← orRaise (urljoin net.unicode current location) .value
    let downgrade ← isHttpsDowngrade net current nextUrl
    check (downgrade = false) (.safe "HTTPS_DOWNGRADE_FORBIDDEN")
    return some nextUrl

/-! ## The loop -/

/-- A request the loop made. -/
structure HopRequest where
  hop : Nat
  target : ValidatedTarget
  /-- The response, if the loop went on to read it. -/
  used : Option HopResponse
  deriving DecidableEq, Repr

/-- What a run of the loop did. -/
structure Expansion where
  requests : List HopRequest
  outcome : Except UrlError UrlExpansionResult

/-- The loop of `expand` from a hop on. -/
def expandFrom : Nat → Nat → Text → Expansion
  | remaining, redirects, current =>
    match validateTarget net redirects current with
    | .error e => ⟨[], .error e⟩
    | .ok target =>
      match net.fetch redirects target.url with
      | .error e => ⟨[⟨redirects, target, none⟩], .error e⟩
      | .ok response =>
        match validatePeer net response.peerIp target.allowedIps with
        | .error e => ⟨[⟨redirects, target, none⟩], .error e⟩
        | .ok () =>
          match follow net remaining current response, remaining with
          | .error e, _ => ⟨[⟨redirects, target, some response⟩], .error e⟩
          | .ok none, _ => ⟨[⟨redirects, target, some response⟩], .ok ⟨current, redirects⟩⟩
          | .ok (some nextUrl), remaining + 1 =>
            let rest := expandFrom remaining (redirects + 1) nextUrl
            ⟨⟨redirects, target, some response⟩ :: rest.requests, rest.outcome⟩
          -- `follow` allows no redirect when none remains.
          | .ok (some _), 0 => ⟨[⟨redirects, target, some response⟩],
              .error (.safe "TOO_MANY_REDIRECTS")⟩

/-- `expand`. -/
def expand (maxRedirects : Nat) (url : Text) : Expansion := expandFrom net maxRedirects 0 url

/-! ## What the checks establish -/

variable {net}

theorem checkAddress_eq_ok {address parsed : Text} : checkAddress net address = .ok parsed ↔
    net.ips.parse address = some parsed ∧ net.ips.isGlobal parsed = true := by
  unfold checkAddress
  rw [bind_eq_ok]
  constructor
  · rintro ⟨parsed', hparse, h⟩
    obtain ⟨⟨⟩, hglobal, h⟩ := bind_eq_ok.1 h
    obtain rfl := Except.ok.inj h
    exact ⟨orRaise_eq_ok.1 hparse, check_eq_ok.1 hglobal⟩
  · rintro ⟨hparse, hglobal⟩
    refine ⟨parsed, orRaise_eq_ok.2 hparse, ?_⟩
    exact bind_eq_ok.2 ⟨⟨⟩, check_eq_ok.2 hglobal, rfl⟩

/-- The scheme, the host and the user of an address the fence lets through. -/
structure AllowedAuthority (net : Internet) (parts : SplitResult) (hostname : Text) : Prop where
  scheme : net.unicode.casefold parts.scheme ∈ ["http".toList, "https".toList]
  host : (parts.hostname net.unicode).map (normalizeHostname net.unicode) = some hostname
  allowed : hostname ∈ allowedNetworkHosts
  credentials : parts.username = none ∧ parts.password = none

theorem checkAuthority_eq_ok {parts : SplitResult} {hostname : Text}
    (h : checkAuthority net parts = .ok hostname) : AllowedAuthority net parts hostname := by
  unfold checkAuthority at h
  obtain ⟨⟨⟩, hscheme, h⟩ := bind_eq_ok.1 h
  obtain ⟨host, hhost, h⟩ := bind_eq_ok.1 h
  obtain ⟨⟨⟩, hcredentials, h⟩ := bind_eq_ok.1 h
  obtain ⟨⟨⟩, hallowed, h⟩ := bind_eq_ok.1 h
  obtain rfl := Except.ok.inj h
  constructor
  · exact check_eq_ok.1 hscheme
  · rw [orRaise_eq_ok.1 hhost]
    rfl
  · exact check_eq_ok.1 hallowed
  · exact check_eq_ok.1 hcredentials

/-- All that `_validate_target` established of a target. -/
structure Validated (net : Internet) (hop : Nat) (url : Text) (target : ValidatedTarget)
    (parts : SplitResult) (port : Option Nat) : Prop where
  split : splitWithPort net url = some (parts, port)
  url_eq : target.url = url
  authority : AllowedAuthority net parts target.hostname
  port_eq : target.port = effectivePort net parts.scheme port
  port_mem : target.port ∈ [80, 443]
  resolved : ∃ addresses, net.resolve hop target.hostname target.port = .ok addresses ∧
    addresses ≠ [] ∧
    List.Forall₂ (fun address parsed =>
      net.ips.parse address = some parsed ∧ net.ips.isGlobal parsed = true)
      addresses target.allowedIps

theorem validateTarget_eq_ok {hop : Nat} {url : Text} {target : ValidatedTarget}
    (h : validateTarget net hop url = .ok target) :
    ∃ parts port, Validated net hop url target parts port := by
  unfold validateTarget at h
  obtain ⟨⟨parts, port⟩, hsplit, h⟩ := bind_eq_ok.1 h
  obtain ⟨hostname, hauthority, h⟩ := bind_eq_ok.1 h
  obtain ⟨⟨⟩, hport, h⟩ := bind_eq_ok.1 h
  obtain ⟨addresses, hresolve, h⟩ := bind_eq_ok.1 h
  obtain ⟨⟨⟩, hne, h⟩ := bind_eq_ok.1 h
  obtain ⟨allowedIps, hips, h⟩ := bind_eq_ok.1 h
  obtain rfl := Except.ok.inj h
  refine ⟨parts, port, orRaise_eq_ok.1 hsplit, rfl, checkAuthority_eq_ok hauthority, rfl,
    check_eq_ok.1 hport, addresses, hresolve, check_eq_ok.1 hne, ?_⟩
  exact (mapM_eq_ok.1 hips).imp fun _ _ h => checkAddress_eq_ok.1 h

theorem validatePeer_eq_ok {peerIp : Option Text} {allowedIps : List Text}
    (h : validatePeer net peerIp allowedIps = .ok ()) :
    ∃ peer parsed, peerIp = some peer ∧ net.ips.parse (peer.partition '%').1 = some parsed ∧
      net.ips.isGlobal parsed = true ∧ parsed ∈ allowedIps := by
  unfold validatePeer at h
  obtain ⟨peer, hpeer, h⟩ := bind_eq_ok.1 h
  obtain ⟨parsed, hparsed, h⟩ := bind_eq_ok.1 h
  obtain ⟨⟨⟩, hglobal, h⟩ := bind_eq_ok.1 h
  exact ⟨peer, parsed, orRaise_eq_ok.1 hpeer, orRaise_eq_ok.1 hparsed, check_eq_ok.1 hglobal,
    check_eq_ok.1 h⟩

/-- The next address is the location joined to the current one, and no downgrade of it. -/
theorem follow_eq_ok_some {remaining : Nat} {current nextUrl : Text} {response : HopResponse}
    (h : follow net remaining current response = .ok (some nextUrl)) :
    0 < remaining ∧
      (∃ location, response.location = some location ∧
        urljoin net.unicode current location = some nextUrl) ∧
      isHttpsDowngrade net current nextUrl = .ok false := by
  unfold follow at h
  obtain ⟨⟨⟩, -, h⟩ := bind_eq_ok.1 h
  obtain ⟨⟨⟩, -, h⟩ := bind_eq_ok.1 h
  obtain ⟨⟨⟩, -, h⟩ := bind_eq_ok.1 h
  split at h
  · cases h
  · obtain ⟨location, hlocation, h⟩ := bind_eq_ok.1 h
    obtain ⟨⟨⟩, hremaining, h⟩ := bind_eq_ok.1 h
    obtain ⟨joined, hjoin, h⟩ := bind_eq_ok.1 h
    obtain ⟨downgrade, hdowngrade, h⟩ := bind_eq_ok.1 h
    obtain ⟨⟨⟩, hno, h⟩ := bind_eq_ok.1 h
    obtain rfl := Option.some.inj (Except.ok.inj h)
    obtain rfl : downgrade = false := check_eq_ok.1 hno
    refine ⟨check_eq_ok.1 hremaining, ⟨location, ?_, orRaise_eq_ok.1 hjoin⟩, hdowngrade⟩
    exact (Option.filter_eq_some_iff.1 (orRaise_eq_ok.1 hlocation)).1

end SafeUrlExpander

end PromoBot
