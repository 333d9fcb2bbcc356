import PromoBot.Affiliate.CoinOccurrences
import PromoBot.Lib.Raises
import PromoBot.Security.PinnedConnections
import PromoBot.Security.UrlExpander

/-!
# Links that wrap a short coin link

`SeuHardwareShortResolver` (`security/seuhardware_short_links.py`): one request of a wrapper
link, whose answer has to be a redirect to a short coin link.  The short link itself is never
fetched.

A wrapper is a page of a foreign host whose only use is the address it redirects to, so the
resolver is built to learn that address and nothing else: one lookup of a fixed host, one
request which is pinned to one global address, no redirect followed, no body read, and a fixed
code in place of whatever was raised.

The answers of the name server and of the requester are parameters (`WrapperNetwork`), with
whatever they raise.  A run lists its lookups and its requests, and how often the request was
announced before.  `resolve_sealed` says that there is at most one of each, for the wrapper as
it stood in the message, and lists what can be raised: the codes the resolver gives itself
(`resolverCodes`), and what was raised outside of it, as `closed` passes it on.

## The order of the checks

There are three ways a run goes once the link has the form of a wrapper (`attempt_cases`): the
lookup gives no usable address, the announcement is refused, or the request is made.  Nothing
is announced before an address is selected and nothing requested before it is announced, so a
budget which refuses a request has refused it before it left.  What is read of the response is
in a fixed order too: the peer, the status, the size of the headers, the `Location`, and its
form.  A link is taken only from a response that has passed all of it (`Redirects`).

## Errors

The `except` clauses close most of what can be raised into a code each, and pass on what has a
code of its own and what they do not know.  So the outcome is one of a list that can be written
down, or it is something the resolver has not made (`Foreign`); and of the latter the theorem
says from which call it came, the name server, the announcement or the requester.
-/

namespace PromoBot
namespace SeuHardwareShortResolver

open Fallible PyUrl Urls CoinOccurrences

/-- What is raised in `resolve`. -/
inductive Raised (ε : Type)
  /-- `SeuHardwareRejected`. -/
  | rejected (code : String)
  /-- `TimeoutError`, or that of the HTTP libraries. -/
  | timeout
  /-- `SafeUrlError`. -/
  | safe (code : String)
  /-- `ValueError`, `TransientUrlError`, `OSError`, or another error of the HTTP libraries. -/
  | failed
  /-- Anything else. -/
  | other (e : ε)
  deriving DecidableEq

/-- `HopResponse`. -/
structure HeaderResponse where
  statusCode : Nat
  headers : List (Text × Text)
  peerIp : Option Text
  deriving DecidableEq

/-- What the world answers. -/
structure WrapperNetwork (ε : Type) where
  unicode : PyUnicode
  ips : IpAddresses
  /-- `resolver.resolve(hostname, port)`. -/
  resolve : Text → Nat → Except (Raised ε) (List Text)
  /-- `before_request()`. -/
  beforeRequest : Except (Raised ε) Unit
  /-- `requester.fetch(url, method="GET", allowed_ips)`. -/
  fetch : Text → List Text → Except (Raised ε) HeaderResponse

/-- A request that was made. -/
structure Fetch where
  url : Text
  allowedIps : List Text
  deriving DecidableEq, Repr

/-- What a run of the resolver did: the hosts and ports it looked up, how often a request was
announced, the requests, and the outcome. -/
structure Resolution (ε : Type) where
  lookups : List (Text × Nat)
  announced : Nat
  fetches : List Fetch
  outcome : Except (Raised ε) Text

/-- `seuhardware.com`. -/
def wrapperHost : Text := "seuhardware.com".toList

/-- `MAX_HEADER_BYTES`. -/
def maxHeaderBytes : Nat := 16384

/-- `validate_seuhardware_short`. -/
def validateSeuhardwareShort {ε : Type} (value : Text) : Except (Raised ε) Text := do
  check (wrapper.fullMatches value = true) (.rejected "SEUHARDWARE_SHORT_INVALID")
  return value

variable {ε : Type} (net : WrapperNetwork ε)

/-- An address, in its normal form. -/
def publicAddress (address : Text) : Except (Raised ε) Text := do
  let parsed ← orRaise (net.ips.parse address) .failed
  check (net.ips.isGlobal parsed = true) (.rejected "SEUHARDWARE_DNS_NON_GLOBAL")
  return parsed

/-- The addresses of the host. -/
def publicAddresses : Except (Raised ε) (List Text) := do
  let addresses ← net.resolve wrapperHost 443
  check (addresses ≠ []) (.rejected "SEUHARDWARE_DNS_EMPTY")
  addresses.mapM (publicAddress net)

/-- The first of two texts, by their characters. -/
def lesser (a b : Text) : Text := if b.lex a (fun c d => decide (c < d)) then b else a

/-- `sorted(public)[0]`, of a set that is not empty. -/
def selected : List Text → Text
  | [] => []
  | a :: rest => rest.foldl lesser a

/-- `SafeUrlExpander._validate_peer`, with the addresses of this network. -/
def validatePeer (peerIp : Option Text) (allowedIps : List Text) : Except (Raised ε) Unit :=
  (SafeUrlExpander.validatePeer
    ⟨net.unicode, net.ips, fun _ _ _ => .ok [], fun _ _ => .error .value⟩
    peerIp allowedIps).mapError fun
    | .safe code => .safe code
    | .transient _ | .value => .failed

/-- `sum(len(k) + len(v) + 4 for k, v in headers.items())`. -/
def headerBytes (headers : List (Text × Text)) : Nat :=
  (headers.map fun e => e.1.length + e.2.length + 4).foldr (· + ·) 0

/-- What becomes of a response: the link it leads to. -/
def locationOf (allowedIps : List Text) (response : HeaderResponse) : Except (Raised ε) Text := do
  validatePeer net response.peerIp allowedIps
  check (headerBytes response.headers ≤ maxHeaderBytes)
    (.rejected "SEUHARDWARE_HEADERS_TOO_LARGE")
  check (response.statusCode = 302) (.rejected "SEUHARDWARE_STATUS_UNSUPPORTED")
  let location ← orRaise ((response.headers.lookup "location".toList).filter (· ≠ []))
    (.rejected "SEUHARDWARE_LOCATION_MISSING")
  (CoinShadow.validateCoinShort location).mapError fun _ =>
    .rejected "SEUHARDWARE_LOCATION_INVALID"

/-- The body of the `try` of `resolve`. -/
def attempt (original : Text) : Resolution ε :=
  let lookups := [(wrapperHost, 443)]
  match publicAddresses net with
  | .error e => ⟨lookups, 0, [], .error e⟩
  | .ok addresses =>
    match net.beforeRequest with
    | .error e => ⟨lookups, 1, [], .error e⟩
    | .ok () =>
      let allowedIps := [selected addresses]
      ⟨lookups, 1, [⟨original, allowedIps⟩],
        (net.fetch original allowedIps).bind (locationOf net allowedIps)⟩

/-- The `except` clauses of `resolve`. -/
def closed : Raised ε → Raised ε
  | .rejected code => .rejected code
  | .timeout => .rejected "SEUHARDWARE_TIMEOUT"
  | .safe code => .rejected ("SEUHARDWARE_" ++ code)
  | .failed => .rejected "SEUHARDWARE_RESOLUTION_FAILED"
  | .other e => .other e

/-- `resolve`. -/
def resolve (original : Text) : Resolution ε :=
  match validateSeuhardwareShort original with
  | .error e => ⟨[], 0, [], .error e⟩
  | .ok _ =>
    let resolution := attempt net original
    { resolution with outcome := resolution.outcome.mapError closed }

/-! ## What a run does -/

variable {net} {original : Text}

theorem lesser_cases (a b : Text) : lesser a b = a ∨ lesser a b = b := by
  unfold lesser
  split
  · exact Or.inr rfl
  · exact Or.inl rfl

theorem foldl_lesser_mem (rest : List Text) (a : Text) : rest.foldl lesser a ∈ a :: rest := by
  induction rest generalizing a with
  | nil => exact List.mem_singleton.2 rfl
  | cons b rest ih =>
    rw [List.foldl_cons]
    rcases List.mem_cons.1 (ih (lesser a b)) with hfirst | hrest
    · rw [hfirst]
      rcases lesser_cases a b with h | h
      · rw [h]
        exact List.mem_cons_self
      · rw [h]
        exact List.mem_cons_of_mem _ List.mem_cons_self
    · exact List.mem_cons_of_mem _ (List.mem_cons_of_mem _ hrest)

theorem selected_mem {addresses : List Text} (h : addresses ≠ []) :
    selected addresses ∈ addresses := by
  cases addresses with
  | nil => exact absurd rfl h
  | cons a rest => exact foldl_lesser_mem rest a

/-- A global address the name server gave for the host of the wrappers. -/
structure WrapperAddress (net : WrapperNetwork ε) (ip : Text) : Prop where
  answered : ∃ answer, net.resolve wrapperHost 443 = .ok answer ∧
    ∃ address ∈ answer, net.ips.parse address = some ip
  isGlobal : net.ips.isGlobal ip = true

theorem wrapperAddress_selected {addresses : List Text}
    (h : publicAddresses net = .ok addresses) : WrapperAddress net (selected addresses) := by
  obtain ⟨answer, hanswer, h⟩ := bind_eq_ok.1 h
  obtain ⟨⟨⟩, hne, h⟩ := bind_eq_ok.1 h
  have heach := mapM_eq_ok.1 h
  have hmem : selected addresses ∈ addresses := by
    refine selected_mem ?_
    rintro rfl
    cases heach
    exact check_eq_ok.1 hne rfl
  obtain ⟨address, haddress, hpublic⟩ := exists_of_mem_right heach hmem
  obtain ⟨parsed, hparsed, hpublic⟩ := bind_eq_ok.1 hpublic
  obtain ⟨⟨⟩, hglobal, hpublic⟩ := bind_eq_ok.1 hpublic
  obtain rfl := Except.ok.inj hpublic
  exact ⟨⟨answer, hanswer, address, haddress, orRaise_eq_ok.1 hparsed⟩, check_eq_ok.1 hglobal⟩

/-- The response a link was taken from: a redirect to that link, by the address the request
was pinned to. -/
structure Redirects (net : WrapperNetwork ε) (ip : Text) (response : HeaderResponse) (link : Text) :
    Prop where
  status : response.statusCode = 302
  location : response.headers.lookup "location".toList = some link
  coinShort : CoinShadow.coinShort.fullMatches link = true
  peer : ∃ peer, response.peerIp = some peer ∧ net.ips.parse (peer.partition '%').1 = some ip
  small : headerBytes response.headers ≤ maxHeaderBytes

theorem redirects_of_locationOf {ip link : Text} {response : HeaderResponse}
    (h : locationOf net [ip] response = .ok link) : Redirects net ip response link := by
  obtain ⟨⟨⟩, hpeer, h⟩ := bind_eq_ok.1 h
  obtain ⟨⟨⟩, hsmall, h⟩ := bind_eq_ok.1 h
  obtain ⟨⟨⟩, hstatus, h⟩ := bind_eq_ok.1 h
  obtain ⟨location, hlocation, h⟩ := bind_eq_ok.1 h
  obtain ⟨⟨⟩, hshort, h⟩ := bind_eq_ok.1 (mapError_eq_ok.1 h)
  obtain rfl := Except.ok.inj h
  obtain ⟨peer, parsed, hpeerIp, hparsed, -, hmem⟩ :=
    SafeUrlExpander.validatePeer_eq_ok (mapError_eq_ok.1 hpeer)
  obtain rfl := List.mem_singleton.1 hmem
  exact {
    status := check_eq_ok.1 hstatus
    location := (Option.filter_eq_some_iff.1 (orRaise_eq_ok.1 hlocation)).1
    coinShort := check_eq_ok.1 hshort
    peer := ⟨peer, hpeerIp, hparsed⟩
    small := check_eq_ok.1 hsmall }

/-- **The three ways a run goes**: no address, no announcement, or a request of the wrapper
itself at the address that was selected. -/
theorem attempt_cases (net : WrapperNetwork ε) (original : Text) :
    (∃ e, publicAddresses net = .error e ∧
      attempt net original = ⟨[(wrapperHost, 443)], 0, [], .error e⟩) ∨
    (∃ e, net.beforeRequest = .error e ∧
      attempt net original = ⟨[(wrapperHost, 443)], 1, [], .error e⟩) ∨
    ∃ ip, WrapperAddress net ip ∧ attempt net original = ⟨[(wrapperHost, 443)], 1,
      [⟨original, [ip]⟩], (net.fetch original [ip]).bind (locationOf net [ip])⟩ := by
  unfold attempt
  cases haddresses : publicAddresses net with
  | error e => exact Or.inl ⟨e, rfl, rfl⟩
  | ok addresses =>
    cases hbefore : net.beforeRequest with
    | error e => exact Or.inr (Or.inl ⟨e, rfl, rfl⟩)
    | ok => exact Or.inr (Or.inr ⟨_, wrapperAddress_selected haddresses, rfl⟩)

/-! ## What is raised -/

/-- The codes the resolver gives itself. -/
def resolverCodes : List String :=
  ["SEUHARDWARE_SHORT_INVALID", "SEUHARDWARE_DNS_EMPTY", "SEUHARDWARE_DNS_NON_GLOBAL",
    "SEUHARDWARE_PEER_IP_UNVERIFIED", "SEUHARDWARE_PEER_IP_INVALID",
    "SEUHARDWARE_PEER_IP_NON_GLOBAL", "SEUHARDWARE_PEER_IP_DNS_MISMATCH",
    "SEUHARDWARE_HEADERS_TOO_LARGE", "SEUHARDWARE_STATUS_UNSUPPORTED",
    "SEUHARDWARE_LOCATION_MISSING", "SEUHARDWARE_LOCATION_INVALID", "SEUHARDWARE_TIMEOUT",
    "SEUHARDWARE_RESOLUTION_FAILED"]

/-- The name server, the announcement or the requester has raised this. -/
def Foreign (net : WrapperNetwork ε) (original : Text) (e : Raised ε) : Prop :=
  net.resolve wrapperHost 443 = .error e ∨ net.beforeRequest = .error e ∨
    ∃ allowedIps, net.fetch original allowedIps = .error e

/-- What is raised in a run: one of the codes once it is closed, or something foreign. -/
def Known (net : WrapperNetwork ε) (original : Text) (e : Raised ε) : Prop :=
  (∃ code ∈ resolverCodes, closed e = .rejected code) ∨ Foreign net original e

theorem known_rejected {code : String} (h : code ∈ resolverCodes) :
    Known net original (.rejected code) := .inl ⟨code, h, rfl⟩

theorem known_failed : Known net original .failed :=
  .inl ⟨"SEUHARDWARE_RESOLUTION_FAILED", by simp [resolverCodes], rfl⟩

theorem raisesOnly_publicAddresses : RaisesOnly (Known net original) (publicAddresses net) := by
  refine RaisesOnly.bind (fun e he => Or.inr (Or.inl he)) fun addresses _ => ?_
  refine RaisesOnly.bind (raisesOnly_check fun _ => known_rejected (by simp [resolverCodes]))
    fun _ _ => ?_
  refine raisesOnly_mapM fun address _ => ?_
  refine RaisesOnly.bind (raisesOnly_orRaise fun _ => known_failed) fun parsed _ => ?_
  refine RaisesOnly.bind (raisesOnly_check fun _ => known_rejected (by simp [resolverCodes]))
    fun _ _ => ?_
  exact raisesOnly_ok _

theorem raisesOnly_validatePeer (peerIp : Option Text) (allowedIps : List Text) :
    RaisesOnly (Known net original) (validatePeer net peerIp allowedIps) := by
  refine RaisesOnly.mapError ?_
  unfold SafeUrlExpander.validatePeer
  refine RaisesOnly.bind (raisesOnly_orRaise fun _ => ?_) fun peer _ => ?_
  · exact .inl ⟨"SEUHARDWARE_PEER_IP_UNVERIFIED", by simp [resolverCodes], rfl⟩
  refine RaisesOnly.bind (raisesOnly_orRaise fun _ => ?_) fun parsed _ => ?_
  · exact .inl ⟨"SEUHARDWARE_PEER_IP_INVALID", by simp [resolverCodes], rfl⟩
  refine RaisesOnly.bind (raisesOnly_check fun _ => ?_) fun _ _ => raisesOnly_check fun _ => ?_
  · exact .inl ⟨"SEUHARDWARE_PEER_IP_NON_GLOBAL", by simp [resolverCodes], rfl⟩
  · exact .inl ⟨"SEUHARDWARE_PEER_IP_DNS_MISMATCH", by simp [resolverCodes], rfl⟩

theorem raisesOnly_locationOf (allowedIps : List Text) (response : HeaderResponse) :
    RaisesOnly (Known net original) (locationOf net allowedIps response) := by
  refine RaisesOnly.bind (raisesOnly_validatePeer _ _) fun _ _ => ?_
  refine RaisesOnly.bind (raisesOnly_check fun _ => known_rejected (by simp [resolverCodes]))
    fun _ _ => ?_
  refine RaisesOnly.bind (raisesOnly_check fun _ => known_rejected (by simp [resolverCodes]))
    fun _ _ => ?_
  refine RaisesOnly.bind (raisesOnly_orRaise fun _ => known_rejected (by simp [resolverCodes]))
    fun location _ => ?_
  exact RaisesOnly.mapError fun _ _ => known_rejected (by simp [resolverCodes])

theorem raisesOnly_attempt : RaisesOnly (Known net original) (attempt net original).outcome := by
  rcases attempt_cases net original with ⟨e, he, hrun⟩ | ⟨e, he, hrun⟩ | ⟨ip, -, hrun⟩
  · rw [hrun]
    exact raisesOnly_error (raisesOnly_publicAddresses e he)
  · rw [hrun]
    exact raisesOnly_error (Or.inr (Or.inr (Or.inl he)))
  · rw [hrun]
    refine RaisesOnly.bind (fun e he => Or.inr (Or.inr (Or.inr ⟨[ip], he⟩))) fun response _ => ?_
    exact raisesOnly_locationOf _ response

/-! ## The whole run -/

/-- The backend of the transport of `SeuHardwareHeaderRequester.fetch`. -/
def wrapperBackend (u : PyUnicode) (ip : Text) : ShortLinkResolver.PinnedBackend :=
  ⟨normalizeHostname u wrapperHost, [ip], List.cons_ne_nil _ _⟩

theorem attempts_wrapperBackend (u : PyUnicode) (ip : Text) (timeUp : Nat → Bool)
    (delegate : Nat → Text → ShortLinkResolver.ConnectAnswer) (key : ShortLinkResolver.IpSortKey)
    (host : Text) (port : Nat) :
    ((wrapperBackend u ip).connectTcp timeUp delegate u key host port).attempts <+: [ip] := by
  have horder : (wrapperBackend u ip).inOrder key = [ip] := by
    have hdedup : ([ip] : List Text).dedup = [ip] := List.dedup_eq_self.2 (List.nodup_singleton ip)
    show ([ip] : List Text).dedup.insertionSort key.Before = [ip]
    rw [hdedup]
    rfl
  have hbegins := (ShortLinkResolver.PinnedBackend.inOrder_connectTcp timeUp delegate u key
    (wrapperBackend u ip) host port).begins
  rwa [horder] at hbegins

/-- What a run stays inside of. -/
structure Sealed (net : WrapperNetwork ε) (original : Text) (r : Resolution ε) : Prop where
  looked : r.lookups = [] ∨ r.lookups = [(wrapperHost, 443)]
  announced : r.fetches.length ≤ r.announced ∧ r.announced ≤ r.lookups.length
  wrapped : r.lookups ≠ [] → wrapper.fullMatches original = true
  pinned : ∀ f ∈ r.fetches, f.url = original ∧ ∃ ip, f.allowedIps = [ip] ∧ WrapperAddress net ip ∧
    ∀ timeUp delegate key host port, ((wrapperBackend net.unicode ip).connectTcp timeUp delegate
      net.unicode key host port).attempts <+: [ip]
  returned : ∀ link, r.outcome = .ok link → ∃ ip response, r.fetches = [⟨original, [ip]⟩] ∧
    net.fetch original [ip] = .ok response ∧ Redirects net ip response link
  /-- What is raised is one of the codes, or what was raised outside: a rejection or an exception
  that is not caught as it was, and the error of an address under its code. -/
  raised : ∀ e, r.outcome = .error e → (∃ code ∈ resolverCodes, e = .rejected code) ∨
    ∃ e', Foreign net original e' ∧ e = closed e'

theorem sealed_attempt (hwrapper : wrapper.fullMatches original = true) :
    Sealed net original
      { attempt net original with outcome := (attempt net original).outcome.mapError closed } := by
  have hraised : ∀ e, (attempt net original).outcome.mapError closed = .error e →
      (∃ code ∈ resolverCodes, e = .rejected code) ∨
        ∃ e', Foreign net original e' ∧ e = closed e' := by
    intro e h
    obtain ⟨e', he', rfl⟩ := mapError_eq_error.1 h
    exact (raisesOnly_attempt _ he').imp id fun hforeign => ⟨e', hforeign, rfl⟩
  rcases attempt_cases net original with ⟨e, -, hrun⟩ | ⟨e, -, hrun⟩ | ⟨ip, hip, hrun⟩
  · rw [hrun] at hraised ⊢
    refine ⟨Or.inr rfl, ⟨Nat.le_refl 0, Nat.zero_le 1⟩, fun _ => hwrapper,
      fun f hf => absurd hf List.not_mem_nil, fun link h => ?_, hraised⟩
    cases h
  · rw [hrun] at hraised ⊢
    refine ⟨Or.inr rfl, ⟨Nat.zero_le 1, Nat.le_refl 1⟩, fun _ => hwrapper,
      fun f hf => absurd hf List.not_mem_nil, fun link h => ?_, hraised⟩
    cases h
  · rw [hrun] at hraised ⊢
    refine ⟨Or.inr rfl, ⟨Nat.le_refl 1, Nat.le_refl 1⟩, fun _ => hwrapper, fun f hf => ?_,
      fun link h => ?_, hraised⟩
    · obtain rfl := List.mem_singleton.1 hf
      exact ⟨rfl, ip, rfl, hip, attempts_wrapperBackend net.unicode ip⟩
    · obtain ⟨response, hresponse, hlocation⟩ := bind_eq_ok.1 (mapError_eq_ok.1 h)
      exact ⟨ip, response, rfl, hresponse, redirects_of_locationOf hlocation⟩

/-- What is no wrapper is rejected at once. -/
theorem resolve_cases (net : WrapperNetwork ε) (original : Text) :
    resolve net original = ⟨[], 0, [], .error (.rejected "SEUHARDWARE_SHORT_INVALID")⟩ ∨
      wrapper.fullMatches original = true ∧ Sealed net original (resolve net original) := by
  unfold resolve
  cases hvalid : (validateSeuhardwareShort original : Except (Raised ε) Text) with
  | error e =>
    rcases bind_eq_error.1 hvalid with hcheck | ⟨⟨⟩, -, hreturn⟩
    · obtain ⟨-, rfl⟩ := check_eq_error.1 hcheck
      exact Or.inl rfl
    · cases hreturn
  | ok value =>
    obtain ⟨⟨⟩, hmatch, -⟩ := bind_eq_ok.1 hvalid
    have hwrapper := check_eq_ok.1 hmatch
    exact Or.inr ⟨hwrapper, sealed_attempt hwrapper⟩

/-- **A wrapper is looked up and fetched at most once**, as it is and pinned to one address; it
resolves to nothing but a short coin link its redirect named, and what the resolver raises is
one of its codes, or was raised outside. -/
theorem resolve_sealed (net : WrapperNetwork ε) (original : Text) :
    Sealed net original (resolve net original) := by
  rcases resolve_cases net original with hrejected | ⟨-, hsealed⟩
  · rw [hrejected]
    refine ⟨Or.inl rfl, ⟨Nat.le_refl 0, Nat.le_refl 0⟩, fun h => absurd rfl h,
      fun f hf => absurd hf List.not_mem_nil, fun link h => (by cases h), fun e h => ?_⟩
    obtain rfl := Except.error.inj h
    exact Or.inl ⟨_, by simp [resolverCodes], rfl⟩
  · exact hsealed

end SeuHardwareShortResolver
end PromoBot
