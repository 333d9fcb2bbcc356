import Mathlib.Data.List.Dedup
import Mathlib.Data.List.Sort
import PromoBot.Security.ShortLinkSafety

/-!
# Connections of the short-link resolver

`PinnedAliExpressNetworkBackend` (`security/aliexpress_short_links.py`): the HTTP pool of a
request asks this backend for its connections, and the backend opens them to the addresses it
was made with and to nothing else.  The name of a host is resolved once, before its request; a
second answer of the name server cannot change where the request goes.

`resolver_connects_pinned` says it of the whole resolver.  Whatever the pool of a hop asks for,
an address is connected to only if the name server gave it for the host of that hop and it is a
global one, and a connection that is handed on has that address at its other end.

`timeUp` says that the deadline of the call has passed before an attempt, and `delegate` what
the network below answers to it.

## What pinning is against

The resolver checks the addresses of a host before it asks for anything.  An HTTP library would
then resolve the name again when it connects, and the name server, which belongs to whoever
wrote the link, could answer with an address inside the network of the program.  The backend
closes this gap by never resolving.  So the theorem is not about one function: it goes from the
addresses the name server gave (`globalAddressOf_of_validatedTarget`), through the target the
request is made with, to the attempts of the backend (`InOrder`), for every request of every
run.

The pool below is not trusted.  It may ask for another host or another port, as often as it
likes, and gets nothing for it (`authority_of_mem_attempts`).  Nor is the stream: where the
other end of it is not the address that was tried, it is closed and the call fails, even if
further addresses are left. An attempt that raises is another matter, and the next address is
tried, in the order of `_ip_sort_key` and none of them twice.
-/

namespace PromoBot
namespace ShortLinkResolver

open PyUrl Urls Fallible

/-! ## The backend -/

/-- What `delegate.connect_tcp` comes back with. -/
inductive ConnectAnswer
  /-- A stream, with the text of its `server_addr`. -/
  | stream (serverAddr : Option Text)
  /-- `ConnectError` or `ConnectTimeout`. -/
  | failed
  /-- Any other exception. -/
  | raised
  deriving DecidableEq, Repr

/-- How `connect_tcp` of the backend ends without a stream. -/
inductive ConnectRaised
  /-- `ConnectError("target authority mismatch")`. -/
  | authority
  /-- `ConnectError("peer address mismatch")`. -/
  | peer
  /-- The last error of an attempt. -/
  | last
  /-- `ConnectTimeout("prevalidated addresses exhausted")`. -/
  | exhausted
  /-- Any other exception of an attempt. -/
  | other
  deriving DecidableEq, Repr

/-- `PinnedAliExpressNetworkBackend`, after the check of its constructor. -/
structure PinnedBackend where
  hostname : Text
  allowedIps : List Text
  allowedIps_ne_nil : allowedIps ≠ []

/-- What `connect_tcp` did: the addresses it tried, the streams it closed again, and the
address of the stream it handed on. -/
structure Connecting where
  attempts : List Text
  closed : List Text
  outcome : Except ConnectRaised Text
  deriving DecidableEq

/-- `_stream_peer_ip`. -/
def streamPeerIp (serverAddr : Option Text) : Option Text :=
  serverAddr.map fun value => (value.partition '%').1

/-- `_ip_sort_key`: the version and the number of an address. -/
structure IpSortKey where
  version : Text → Nat
  number : Text → Nat

/-- An address stands before another one. -/
def IpSortKey.Before (k : IpSortKey) (a b : Text) : Prop :=
  k.version a < k.version b ∨ k.version a = k.version b ∧ k.number a ≤ k.number b

instance (k : IpSortKey) : DecidableRel k.Before :=
  fun _ _ => inferInstanceAs (Decidable (_ ∨ _))

namespace PinnedBackend

/-- `sorted(self.allowed_ips, key=_ip_sort_key)`. -/
def inOrder (key : IpSortKey) (b : PinnedBackend) : List Text :=
  b.allowedIps.dedup.insertionSort key.Before

theorem nodup_inOrder (key : IpSortKey) (b : PinnedBackend) : (b.inOrder key).Nodup :=
  (List.perm_insertionSort key.Before _).nodup_iff.2 (List.nodup_dedup _)

theorem mem_inOrder {key : IpSortKey} {b : PinnedBackend} {address : Text} :
    address ∈ b.inOrder key ↔ address ∈ b.allowedIps := by
  rw [inOrder, List.mem_insertionSort, List.mem_dedup]

variable (timeUp : Nat → Bool) (delegate : Nat → Text → ConnectAnswer)

/-- The loop of `connect_tcp`, at an attempt; `failedBefore` says that there is a last
error. -/
def tryAddresses (failedBefore : Bool) : Nat → List Text → Connecting
  | _, [] => ⟨[], [], .error (if failedBefore then .last else .exhausted)⟩
  | attempt, address :: rest =>
    if timeUp attempt = true then ⟨[], [], .error (if failedBefore then .last else .exhausted)⟩
    else
      match delegate attempt address with
      | .failed =>
        let more := tryAddresses true (attempt + 1) rest
        ⟨address :: more.attempts, more.closed, more.outcome⟩
      | .raised => ⟨[address], [], .error .other⟩
      | .stream serverAddr =>
        if streamPeerIp serverAddr = some address then ⟨[address], [], .ok address⟩
        else ⟨[address], [address], .error .peer⟩

/-- `connect_tcp`. -/
def connectTcp (u : PyUnicode) (key : IpSortKey) (b : PinnedBackend) (host : Text) (port : Nat) :
    Connecting :=
  if normalizeHostname u host ≠ b.hostname ∨ port ≠ 443 then ⟨[], [], .error .authority⟩
  else tryAddresses timeUp delegate false 0 (b.inOrder key)

/-! ## What a call connects to -/

variable {timeUp delegate}

/-- **A call tries its addresses in order**, none of them twice; it hands on the last one only
where the other end of the stream is that address, and closes the stream otherwise. -/
structure InOrder (delegate : Nat → Text → ConnectAnswer) (addresses : List Text)
    (c : Connecting) : Prop where
  begins : c.attempts <+: addresses
  handed : ∀ peer, c.outcome = .ok peer → c.attempts.getLast? = some peer ∧ c.closed = [] ∧
    ∃ i serverAddr, delegate i peer = .stream serverAddr ∧ streamPeerIp serverAddr = some peer
  mismatch : c.outcome = .error .peer → ∃ i address serverAddr,
    delegate i address = .stream serverAddr ∧ streamPeerIp serverAddr ≠ some address ∧
      c.closed = [address]

theorem inOrder_tryAddresses {failedBefore : Bool} {attempt : Nat} {addresses : List Text} :
    InOrder delegate addresses (tryAddresses timeUp delegate failedBefore attempt addresses) := by
  have hnone : ∀ {failedBefore : Bool} {addresses : List Text}, InOrder delegate addresses
      ⟨[], [], .error (if failedBefore then .last else .exhausted)⟩ := by
    intro failedBefore addresses
    refine ⟨List.nil_prefix, (fun peer h => by cases h), fun h => ?_⟩
    cases failedBefore <;> cases h
  induction addresses generalizing failedBefore attempt with
  | nil => exact hnone
  | cons address rest ih =>
    unfold tryAddresses
    by_cases htime : timeUp attempt = true
    · rw [if_pos htime]
      exact hnone
    · rw [if_neg htime]
      have hone : [address] <+: address :: rest := ⟨rest, rfl⟩
      cases hanswer : delegate attempt address with
      | failed =>
        obtain ⟨hbegins, hhanded, hmismatch⟩ : InOrder delegate rest
          (tryAddresses timeUp delegate true (attempt + 1) rest) := ih
        refine ⟨List.cons_prefix_cons.2 ⟨rfl, hbegins⟩, fun peer h => ?_, hmismatch⟩
        obtain ⟨hlast, hstream⟩ := hhanded peer h
        refine ⟨?_, hstream⟩
        show (address :: _).getLast? = some peer
        rw [List.getLast?_cons, hlast]
        rfl
      | raised => exact ⟨hone, (fun peer h => by cases h), fun h => by cases h⟩
      | stream serverAddr =>
        dsimp only
        by_cases hpeer : streamPeerIp serverAddr = some address
        · rw [if_pos hpeer]
          refine ⟨hone, fun peer h => ?_, fun h => by cases h⟩
          obtain rfl := Except.ok.inj h
          exact ⟨rfl, rfl, attempt, serverAddr, hanswer, hpeer⟩
        · rw [if_neg hpeer]
          exact ⟨hone, (fun peer h => by cases h),
            fun _ => ⟨attempt, address, serverAddr, hanswer, hpeer, rfl⟩⟩

variable {u : PyUnicode} {key : IpSortKey} {b : PinnedBackend} {host : Text} {port : Nat}

theorem inOrder_connectTcp (timeUp : Nat → Bool) (delegate : Nat → Text → ConnectAnswer)
    (u : PyUnicode) (key : IpSortKey) (b : PinnedBackend) (host : Text) (port : Nat) :
    InOrder delegate (b.inOrder key) (connectTcp timeUp delegate u key b host port) := by
  unfold connectTcp
  by_cases hauthority : normalizeHostname u host ≠ b.hostname ∨ port ≠ 443
  · rw [if_pos hauthority]
    exact ⟨List.nil_prefix, (fun peer h => by cases h), fun h => by cases h⟩
  · rw [if_neg hauthority]
    exact inOrder_tryAddresses

theorem authority_of_mem_attempts {address : Text}
    (h : address ∈ (connectTcp timeUp delegate u key b host port).attempts) :
    normalizeHostname u host = b.hostname ∧ port = 443 := by
  unfold connectTcp at h
  by_cases hauthority : normalizeHostname u host ≠ b.hostname ∨ port ≠ 443
  · rw [if_pos hauthority] at h
    cases h
  · rwa [not_or, not_not, not_not] at hauthority

end PinnedBackend

/-! ## The resolver over its backends -/

section Resolver

variable {ε : Type} {net : HopNetwork ε}

theorem checkAddress_eq_ok {address parsed : Text} (h : checkAddress net address = .ok parsed) :
    net.ips.parse (address.partition '%').1 = some parsed ∧ net.ips.isGlobal parsed = true := by
  unfold checkAddress at h
  obtain ⟨parsed', hparse, h⟩ := bind_eq_ok.1 h
  obtain ⟨⟨⟩, hglobal, h⟩ := bind_eq_ok.1 h
  obtain rfl := Except.ok.inj h
  exact ⟨orRaise_eq_ok.1 hparse, check_eq_ok.1 hglobal⟩

/-- An address the name server gave for a host at a hop, in its normal form, and global. -/
structure GlobalAddressOf (net : HopNetwork ε) (hop : Nat) (hostname ip : Text) : Prop where
  answered : ∃ answer, net.resolve hop hostname 443 = .ok answer ∧
    ∃ address ∈ answer, net.ips.parse (address.partition '%').1 = some ip
  isGlobal : net.ips.isGlobal ip = true

/-- **A target is resolved** before it is fetched: it has addresses, and each of them is a
global one of its host. -/
theorem globalAddressOf_of_validatedTarget {hop : Nat} {url : Text} {target : HopTarget}
    (h : validatedTarget net hop url = .ok target) :
    target.allowedIps ≠ [] ∧
      ∀ ip ∈ target.allowedIps, GlobalAddressOf net hop target.hostname ip := by
  unfold validatedTarget at h
  obtain ⟨host, -, h⟩ := bind_eq_ok.1 h
  obtain ⟨answer, hanswer, h⟩ := bind_eq_ok.1 h
  obtain ⟨⟨⟩, hne, h⟩ := bind_eq_ok.1 h
  obtain ⟨ips, hips, h⟩ := bind_eq_ok.1 h
  obtain rfl := Except.ok.inj h
  have heach := mapM_eq_ok.1 hips
  refine ⟨?_, fun ip hip => ?_⟩
  · rintro rfl
    cases heach
    exact check_eq_ok.1 hne rfl
  · obtain ⟨address, haddress, hchecked⟩ := exists_of_mem_right heach hip
    obtain ⟨hparse, hglobal⟩ := checkAddress_eq_ok hchecked
    exact ⟨⟨answer, mapError_eq_ok.1 hanswer, address, haddress, hparse⟩, hglobal⟩

/-- The backend of the transport of `AliExpressPinnedHttpRequester.fetch`. -/
def requesterBackend (u : PyUnicode) (url : Text) (allowedIps : List Text) :
    Option PinnedBackend :=
  (urlsplit u url).bind fun parts =>
    let hostname := normalizeHostname u ((parts.hostname u).getD [])
    if h : allowedIps ≠ [] then some ⟨normalizeHostname u hostname, allowedIps, h⟩ else none

/-- What a call of the backend of a request did. -/
structure PinnedCall (net : HopNetwork ε) (delegate : Nat → Text → ConnectAnswer) (f : HopFetch)
    (host : Text) (port : Nat) (c : Connecting) : Prop where
  authority : c.attempts ≠ [] →
    normalizeHostname net.unicode host = normalizeHostname net.unicode f.target.hostname ∧
      port = 443
  allowed : ∀ address ∈ c.attempts, GlobalAddressOf net f.hop f.target.hostname address
  once : c.attempts.Nodup
  handed : ∀ peer, c.outcome = .ok peer → c.attempts.getLast? = some peer ∧
    ∃ i serverAddr, delegate i peer = .stream serverAddr ∧ streamPeerIp serverAddr = some peer

/-- The backend of a request of a turn, and its calls. -/
theorem Turn.pinnedCall {redirects : Nat} {visited : List Text} {hostname current key : Text}
    {target : HopTarget} (hturn : Turn net redirects visited hostname current key target)
    (response : Option RedirectHop) :
    target.hostname ∈ networkHopHosts ∧
    ∃ b, requesterBackend net.unicode target.url target.allowedIps = some b ∧
      ∀ timeUp delegate order host port,
        PinnedCall net delegate ⟨redirects, target, response⟩ host port
          (b.connectTcp timeUp delegate net.unicode order host port) := by
  obtain ⟨hurl, rfl⟩ := hturn.target_eq
  obtain ⟨parts, portOf, hhop⟩ := validateHopSyntax_eq_ok hturn.valid
  obtain ⟨hne, hglobal⟩ := globalAddressOf_of_validatedTarget (enter_eq_ok hturn.entered).2.2
  obtain ⟨name, hname⟩ : ∃ name, parts.hostname net.unicode = some name := by
    cases hnone : parts.hostname net.unicode with
    | some name => exact ⟨name, rfl⟩
    | none =>
      have hempty : ([] : Text) ∈ networkHopHosts := by
        have hallowed := hhop.allowed
        rwa [← hhop.host, hostOf, hnone] at hallowed
      exact absurd hempty (by decide)
  have hhost : normalizeHostname net.unicode name = target.hostname := by
    rw [← hhop.host, hostOf, hname]
    rfl
  refine ⟨hhop.allowed, ⟨normalizeHostname net.unicode target.hostname, target.allowedIps, hne⟩,
    ?_, fun timeUp delegate order host port => ?_⟩
  · rw [requesterBackend, hurl, hhop.split, Option.bind_some, dif_pos hne, hname,
      Option.getD_some, hhost]
  · have horder := PinnedBackend.inOrder_connectTcp timeUp delegate net.unicode order
      ⟨normalizeHostname net.unicode target.hostname, target.allowedIps, hne⟩ host port
    exact {
      authority := fun hattempts => by
        obtain ⟨address, haddress⟩ := List.exists_mem_of_ne_nil _ hattempts
        exact PinnedBackend.authority_of_mem_attempts haddress
      allowed := fun address haddress =>
        hglobal address (PinnedBackend.mem_inOrder.1 (horder.begins.subset haddress))
      once := (PinnedBackend.nodup_inOrder order _).sublist horder.begins.sublist
      handed := fun peer hpeer => by
        obtain ⟨hlast, -, hstream⟩ := horder.handed peer hpeer
        exact ⟨hlast, hstream⟩ }

/-- **The resolver connects to pinned addresses only.**  For every request of a run, the
backend its transport is made with tries, whatever host and port it is asked for, only global
addresses the name server gave for the host of that hop; and a connection it hands on ends at
the address that was tried. -/
theorem resolver_connects_pinned (net : HopNetwork ε) (maxRedirects : Nat) (url : Text) :
    ∀ f ∈ (resolve net maxRedirects url).fetches,
      f.target.hostname ∈ networkHopHosts ∧
      ∃ b, requesterBackend net.unicode f.target.url f.target.allowedIps = some b ∧
        ∀ timeUp delegate order host port,
          PinnedCall net delegate f host port
            (b.connectTcp timeUp delegate net.unicode order host port) := by
  unfold resolve resolveOnce
  split
  · exact fun f hf => absurd hf List.not_mem_nil
  · next hostname hinput =>
    refine forall_fetches ?_ (validateShortInput_eq_ok hinput).1
    intro redirects visited hostname current key target hturn response _
    exact hturn.pinnedCall response

/-! ## A redirect to a product page -/

/-- A short link that is redirected to a product, whose page has one address. -/
def toProduct : HopNetwork Unit where
  unicode := .ascii
  ips := ⟨fun text => if text.all fun c => c.isDigit || c = '.' then some text else none,
    fun ip => ip != "10.0.0.1".toList⟩
  resolve hop _ _ := .ok (if hop = 0 then ["47.246.2.2".toList, "47.246.1.1".toList]
    else ["47.246.3.3".toList])
  fetch hop _ _ := .ok (if hop = 0
    then ⟨302, [("location".toList, "https://pt.aliexpress.com/item/1005001.html".toList)]⟩
    else ⟨200, []⟩)
  isTimeout _ := false

/-- The request for the page. -/
def productFetch : HopFetch :=
  ⟨1, ⟨"https://pt.aliexpress.com/item/1005001.html".toList, "pt.aliexpress.com".toList,
    ["47.246.3.3".toList]⟩, some ⟨200, []⟩⟩

theorem resolver_connects_pinned_toProduct :
    ∃ b, requesterBackend .ascii productFetch.target.url productFetch.target.allowedIps = some b ∧
      ∀ timeUp delegate order host port,
        PinnedCall toProduct delegate productFetch host port
          (b.connectTcp timeUp delegate .ascii order host port) :=
  (resolver_connects_pinned toProduct 5 "https://s.click.aliexpress.com/e/_short".toList
    productFetch (by decide +kernel)).2

end Resolver

end ShortLinkResolver
end PromoBot
