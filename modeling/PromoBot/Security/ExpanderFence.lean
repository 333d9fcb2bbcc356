import PromoBot.Security.UrlExpander

/-!
# The fence around the expander

What every request of `SafeUrlExpander.expand` is inside of, whatever the redirects and the
resolver answer.  The checks of a hop are made anew for every address, and the properties of a
whole run follow by induction on the redirects that remain. `expandFrom_induction` is that
induction, with one case for each way a hop can end; every lemma below uses it.

The fence has a gap.  `effective_port = port or default` takes an explicit port of zero for a
missing one, so the check is made of a port which is not the one the request goes to.
`expand_insideFence_iff` says that this is the only gap.

## What the fence is

The expander fetches addresses a stranger has written, so what it may be led to is the whole
question. `InsideFence` says of a run, and not of a hop: each request is for an address on a
host that is allowed, over a port that belongs to its scheme, to addresses which are global;
what it reads has come from one of these addresses; after a request under `https` there is none
under `http`; there is one request more than redirects at most; and an address which is
answered was fetched.

None of this is assumed of the network.  The name server may answer anything, each time
something else, and the requester may hand over a response from anywhere; what is used of a
response is what was checked of it (`answered_of_used`).

## The parts

Each part of the fence is a lemma of its own, by the same induction.  Most are about one hop
and only have to be carried along.  The one about schemes is about two requests with any number
of others in between: from an `https` address on every request is for an `https` address
(`https_throughout`), because a redirect to `http` is refused where it is read.

The port is compared with the port the request goes to (`destinationPort`).  The two agree but
for an explicit zero, so the equivalence comes down to whether the loop comes to such an
address and lets it through (`Reaches`).
-/

namespace PromoBot
namespace SafeUrlExpander

open PyUrl Urls

variable {net : Internet} {remaining redirects : Nat} {current : Text}

/-! ## The induction over the hops -/

/-- A hop whose response the loop reads. -/
structure Answered (net : Internet) (redirects : Nat) (current : Text) (target : ValidatedTarget)
    (response : HopResponse) : Prop where
  valid : validateTarget net redirects current = .ok target
  fetched : net.fetch redirects target.url = .ok response
  peer : validatePeer net response.peerIp target.allowedIps = .ok ()

/-- Why a request was made whose response is not read. -/
def Unread (net : Internet) (redirects : Nat) (target : ValidatedTarget) (e : UrlError) : Prop :=
  net.fetch redirects target.url = .error e ∨
    ∃ response, net.fetch redirects target.url = .ok response ∧
      validatePeer net response.peerIp target.allowedIps = .error e

/-- How the loop ends at a response it reads. -/
def endAt (net : Internet) (remaining redirects : Nat) (current : Text) (response : HopResponse) :
    Except UrlError UrlExpansionResult :=
  (follow net remaining current response).map fun _ => ⟨current, redirects⟩

variable (net) in
/-- **The induction over the hops.**  A hop is refused before any request, or makes a request
whose response is not read, or reads a response which ends the loop, or follows it. -/
theorem expandFrom_induction {motive : Nat → Nat → Text → Expansion → Prop}
    (refused : ∀ remaining redirects current e,
      validateTarget net redirects current = .error e →
      motive remaining redirects current ⟨[], .error e⟩)
    (unused : ∀ remaining redirects current target e,
      validateTarget net redirects current = .ok target → Unread net redirects target e →
      motive remaining redirects current ⟨[⟨redirects, target, none⟩], .error e⟩)
    (ended : ∀ remaining redirects current target response,
      Answered net redirects current target response →
      motive remaining redirects current
        ⟨[⟨redirects, target, some response⟩], endAt net remaining redirects current response⟩)
    (followed : ∀ remaining redirects current target response nextUrl,
      Answered net redirects current target response →
      follow net (remaining + 1) current response = .ok (some nextUrl) →
      motive remaining (redirects + 1) nextUrl (expandFrom net remaining (redirects + 1) nextUrl) →
      motive (remaining + 1) redirects current
        ⟨⟨redirects, target, some response⟩ ::
            (expandFrom net remaining (redirects + 1) nextUrl).requests,
          (expandFrom net remaining (redirects + 1) nextUrl).outcome⟩)
    (remaining redirects : Nat) (current : Text) :
    motive remaining redirects current (expandFrom net remaining redirects current) := by
  induction remaining generalizing redirects current with
  | zero =>
    unfold expandFrom
    split
    · next e htarget => exact refused 0 redirects current e htarget
    · next target htarget =>
      split
      · next e hfetch => exact unused 0 redirects current target e htarget (.inl hfetch)
      · next response hfetch =>
        split
        · next e hpeer =>
          exact unused 0 redirects current target e htarget (.inr ⟨response, hfetch, hpeer⟩)
        · next hpeer =>
          have hend := ended 0 redirects current target response ⟨htarget, hfetch, hpeer⟩
          unfold endAt at hend
          split
          · next e hfollow => rwa [hfollow] at hend
          · next hfollow => rwa [hfollow] at hend
          · next heq => cases heq
          · next nextUrl hfollow _ =>
            exact absurd (follow_eq_ok_some hfollow).1 (Nat.lt_irrefl 0)
  | succ remaining ih =>
    unfold expandFrom
    split
    · next e htarget => exact refused _ redirects current e htarget
    · next target htarget =>
      split
      · next e hfetch => exact unused _ redirects current target e htarget (.inl hfetch)
      · next response hfetch =>
        split
        · next e hpeer =>
          exact unused _ redirects current target e htarget (.inr ⟨response, hfetch, hpeer⟩)
        · next hpeer =>
          have hanswered : Answered net redirects current target response :=
            ⟨htarget, hfetch, hpeer⟩
          have hend := ended (remaining + 1) redirects current target response hanswered
          unfold endAt at hend
          split
          · next e hfollow => rwa [hfollow] at hend
          · next hfollow => rwa [hfollow] at hend
          · next nextUrl fewer hfollow heq =>
            obtain rfl := Nat.succ.inj heq
            exact followed remaining redirects current target response nextUrl hanswered hfollow
              (ih (redirects + 1) nextUrl)
          · next heq => cases heq

/-! ## The addresses the loop comes to -/

/-- Whether the loop, at an address with so many redirects left, comes to an address at a
later hop: to its own, or where a redirect it follows leads. -/
inductive Reaches (net : Internet) : Nat → Nat → Text → Nat → Text → Prop
  | here (remaining redirects : Nat) (current : Text) :
      Reaches net remaining redirects current redirects current
  | next {remaining redirects : Nat} {current : Text} {target : ValidatedTarget}
      {response : HopResponse} {nextUrl : Text} {hop : Nat} {url : Text} :
      Answered net redirects current target response →
      follow net (remaining + 1) current response = .ok (some nextUrl) →
      Reaches net remaining (redirects + 1) nextUrl hop url →
      Reaches net (remaining + 1) redirects current hop url

theorem expandFrom_followed {target : ValidatedTarget} {response : HopResponse} {nextUrl : Text}
    (hanswered : Answered net redirects current target response)
    (hfollow : follow net (remaining + 1) current response = .ok (some nextUrl)) :
    (expandFrom net (remaining + 1) redirects current).requests =
      ⟨redirects, target, some response⟩ ::
        (expandFrom net remaining (redirects + 1) nextUrl).requests := by
  rw [expandFrom]
  simp only [hanswered.valid, hanswered.fetched, hanswered.peer, hfollow]

theorem exists_request_here {target : ValidatedTarget}
    (h : validateTarget net redirects current = .ok target) :
    ∃ r ∈ (expandFrom net remaining redirects current).requests,
      r.hop = redirects ∧ r.target = target := by
  unfold expandFrom
  simp only [h]
  repeat' split
  all_goals exact ⟨_, List.mem_cons_self, rfl, rfl⟩

theorem Reaches.exists_request {hop : Nat} {url : Text} {target : ValidatedTarget}
    (hreach : Reaches net remaining redirects current hop url)
    (htarget : validateTarget net hop url = .ok target) :
    ∃ r ∈ (expandFrom net remaining redirects current).requests,
      r.hop = hop ∧ r.target = target := by
  induction hreach with
  | here => exact exists_request_here htarget
  | next hanswered hfollow _ ih =>
    obtain ⟨r, hr, hhop, htarget⟩ := ih htarget
    rw [expandFrom_followed hanswered hfollow]
    exact ⟨r, List.mem_cons_of_mem _ hr, hhop, htarget⟩

/-- Every request is for an address the loop comes to, let through at its hop. -/
theorem reaches_of_mem_requests {r : HopRequest}
    (h : r ∈ (expandFrom net remaining redirects current).requests) :
    ∃ url, Reaches net remaining redirects current r.hop url ∧
      validateTarget net r.hop url = .ok r.target := by
  revert h
  refine expandFrom_induction net
    (motive := fun remaining redirects current e => r ∈ e.requests →
      ∃ url, Reaches net remaining redirects current r.hop url ∧
        validateTarget net r.hop url = .ok r.target) ?_ ?_ ?_ ?_ remaining redirects current
  · intro remaining redirects current e _ h
    exact absurd h (List.not_mem_nil)
  · intro remaining redirects current target e htarget _ h
    obtain rfl := List.mem_singleton.1 h
    exact ⟨current, .here .., htarget⟩
  · intro remaining redirects current target response hanswered h
    obtain rfl := List.mem_singleton.1 h
    exact ⟨current, .here .., hanswered.valid⟩
  · intro remaining redirects current target response nextUrl hanswered hfollow ih h
    obtain rfl | h := List.mem_cons.1 h
    · exact ⟨current, .here .., hanswered.valid⟩
    · obtain ⟨url, hreach, htarget⟩ := ih h
      exact ⟨url, .next hanswered hfollow hreach, htarget⟩

theorem exists_target_of_mem_requests {r : HopRequest}
    (h : r ∈ (expandFrom net remaining redirects current).requests) :
    ∃ target, validateTarget net redirects current = .ok target := by
  cases htarget : validateTarget net redirects current with
  | ok target => exact ⟨target, rfl⟩
  | error e =>
    unfold expandFrom at h
    simp only [htarget] at h
    exact absurd h List.not_mem_nil

/-! ## The fence -/

/-- The port a request goes to: the explicit one, or the default of the scheme. -/
def destinationPort (net : Internet) (parts : SplitResult) (port : Option Nat) : Nat :=
  port.getD (if net.unicode.casefold parts.scheme = "https".toList then 443 else 80)

/-- The address gives its port, and gives zero. -/
def NamesPortZero (net : Internet) (url : Text) : Prop :=
  ∃ parts, splitWithPort net url = some (parts, some 0)

/-- The scheme of an address. -/
def HasScheme (net : Internet) (scheme : String) (url : Text) : Prop :=
  ∃ parts, urlsplit net.unicode url = some parts ∧
    net.unicode.casefold parts.scheme = scheme.toList

/-- A request the fence may let through. -/
structure InsideRequest (net : Internet) (r : HopRequest) (parts : SplitResult)
    (port : Option Nat) : Prop where
  address : splitWithPort net r.target.url = some (parts, port)
  authority : AllowedAuthority net parts r.target.hostname
  destination : destinationPort net parts port ∈ [80, 443]
  resolved : ∃ addresses, net.resolve r.hop r.target.hostname r.target.port = .ok addresses ∧
    addresses ≠ [] ∧
    List.Forall₂ (fun address parsed =>
      net.ips.parse address = some parsed ∧ net.ips.isGlobal parsed = true)
      addresses r.target.allowedIps

/-- The peer of a response is in the validated address set of its hop. -/
def PeerVerified (net : Internet) (r : HopRequest) (response : HopResponse) : Prop :=
  ∃ peer parsed, response.peerIp = some peer ∧
    net.ips.parse (peer.partition '%').1 = some parsed ∧ parsed ∈ r.target.allowedIps

/-- **The fence.**  What no run of the expander may leave. -/
structure InsideFence (net : Internet) (maxRedirects : Nat) (e : Expansion) : Prop where
  inside : ∀ r ∈ e.requests, ∃ parts port, InsideRequest net r parts port
  verified : ∀ r ∈ e.requests, ∀ response, r.used = some response →
    net.fetch r.hop r.target.url = .ok response ∧ PeerVerified net r response
  noDowngrade : e.requests.Pairwise fun earlier later =>
    HasScheme net "https" earlier.target.url → ¬ HasScheme net "http" later.target.url
  few : e.requests.length ≤ maxRedirects + 1
  fetched : ∀ result, e.outcome = .ok result →
    ∃ r ∈ e.requests, r.target.url = result.url ∧ r.used.isSome

/-! ## One lemma for each part of the fence -/

theorem destinationPort_eq_effectivePort {parts : SplitResult} {port : Option Nat}
    (h : port ≠ some 0) : destinationPort net parts port = effectivePort net parts.scheme port := by
  match port with
  | none => rfl
  | some 0 => exact absurd rfl h
  | some (p + 1) => rfl

theorem length_requests_le :
    (expandFrom net remaining redirects current).requests.length ≤ remaining + 1 := by
  refine expandFrom_induction net
    (motive := fun remaining _ _ e => e.requests.length ≤ remaining + 1) ?_ ?_ ?_ ?_
    remaining redirects current
  · intro remaining redirects current e _
    exact Nat.zero_le _
  · intro remaining redirects current target e _ _
    exact Nat.le_add_left 1 remaining
  · intro remaining redirects current target response _
    exact Nat.le_add_left 1 remaining
  · intro remaining redirects current target response nextUrl _ _ ih
    rw [List.length_cons]
    exact Nat.succ_le_succ ih

/-- A response is read only after its peer was found among the addresses of the hop. -/
theorem answered_of_used {r : HopRequest} {response : HopResponse}
    (h : r ∈ (expandFrom net remaining redirects current).requests)
    (hused : r.used = some response) : ∃ url, Answered net r.hop url r.target response := by
  revert h
  refine expandFrom_induction net
    (motive := fun _ _ _ e => r ∈ e.requests → ∃ url, Answered net r.hop url r.target response)
    ?_ ?_ ?_ ?_ remaining redirects current
  · intro remaining redirects current e _ h
    exact absurd h List.not_mem_nil
  · intro remaining redirects current target e _ _ h
    obtain rfl := List.mem_singleton.1 h
    exact absurd hused (by simp)
  · intro remaining redirects current target response' hanswered h
    obtain rfl := List.mem_singleton.1 h
    obtain rfl := Option.some.inj hused
    exact ⟨current, hanswered⟩
  · intro remaining redirects current target response' nextUrl hanswered _ ih h
    obtain rfl | h := List.mem_cons.1 h
    · obtain rfl := Option.some.inj hused
      exact ⟨current, hanswered⟩
    · exact ih h

theorem fetched_of_outcome_eq_ok {result : UrlExpansionResult}
    (h : (expandFrom net remaining redirects current).outcome = .ok result) :
    ∃ r ∈ (expandFrom net remaining redirects current).requests,
      r.target.url = result.url ∧ r.used.isSome := by
  revert h
  refine expandFrom_induction net
    (motive := fun _ _ _ e => e.outcome = .ok result →
      ∃ r ∈ e.requests, r.target.url = result.url ∧ r.used.isSome)
    ?_ ?_ ?_ ?_ remaining redirects current
  · intro remaining redirects current e _ h
    cases h
  · intro remaining redirects current target e _ _ h
    cases h
  · intro remaining redirects current target response hanswered h
    obtain ⟨parts, port, hvalid⟩ := validateTarget_eq_ok hanswered.valid
    obtain ⟨_, -, rfl⟩ := Fallible.map_eq_ok.1 h
    exact ⟨_, List.mem_singleton_self _, hvalid.url_eq, rfl⟩
  · intro remaining redirects current target response nextUrl _ _ ih h
    obtain ⟨r, hr, hurl⟩ := ih h
    exact ⟨r, List.mem_cons_of_mem _ hr, hurl⟩

/-! ## No request after an https one is for an http address -/

theorem Validated.urlsplit_eq {hop : Nat} {url : Text} {target : ValidatedTarget}
    {parts : SplitResult} {port : Option Nat} (h : Validated net hop url target parts port) :
    urlsplit net.unicode target.url = some parts := by
  obtain ⟨parts', hsplit, hport⟩ := Option.bind_eq_some_iff.1 h.split
  obtain ⟨port', -, heq⟩ := Option.map_eq_some_iff.1 hport
  rw [h.url_eq, hsplit, (Prod.mk.inj heq).1]

theorem hasScheme_https_of_validateTarget {target : ValidatedTarget}
    (h : validateTarget net redirects current = .ok target)
    (hnot : ¬ HasScheme net "http" current) : HasScheme net "https" current := by
  obtain ⟨parts, port, hvalid⟩ := validateTarget_eq_ok h
  have hsplit : urlsplit net.unicode current = some parts := hvalid.url_eq ▸ hvalid.urlsplit_eq
  rcases List.mem_pair.1 hvalid.authority.scheme with hhttp | hhttps
  · exact absurd ⟨parts, hsplit, hhttp⟩ hnot
  · exact ⟨parts, hsplit, hhttps⟩

theorem not_hasScheme_http {url : Text} (h : HasScheme net "https" url) :
    ¬ HasScheme net "http" url := by
  obtain ⟨parts, hsplit, hhttps⟩ := h
  rintro ⟨parts', hsplit', hhttp⟩
  obtain rfl := Option.some.inj (hsplit.symm.trans hsplit')
  exact absurd (hhttps.symm.trans hhttp) (by decide)

theorem not_http_of_follow {response : HopResponse} {nextUrl : Text}
    (h : follow net remaining current response = .ok (some nextUrl))
    (hhttps : HasScheme net "https" current) : ¬ HasScheme net "http" nextUrl := by
  obtain ⟨-, -, hdowngrade⟩ := follow_eq_ok_some h
  obtain ⟨parts, hsplit, hscheme⟩ := hhttps
  rintro ⟨parts', hsplit', hscheme'⟩
  unfold isHttpsDowngrade at hdowngrade
  rw [hsplit, hsplit'] at hdowngrade
  simp [hscheme, hscheme'] at hdowngrade

/-- From an https address on, every request is for an https address. -/
theorem https_throughout {r : HopRequest} (hhttps : HasScheme net "https" current)
    (h : r ∈ (expandFrom net remaining redirects current).requests) :
    HasScheme net "https" r.target.url := by
  revert hhttps h
  refine expandFrom_induction net
    (motive := fun _ _ current e => HasScheme net "https" current → r ∈ e.requests →
      HasScheme net "https" r.target.url) ?_ ?_ ?_ ?_ remaining redirects current
  · intro remaining redirects current e _ _ h
    exact absurd h List.not_mem_nil
  · intro remaining redirects current target e htarget _ hhttps h
    obtain rfl := List.mem_singleton.1 h
    obtain ⟨parts, port, hvalid⟩ := validateTarget_eq_ok htarget
    exact hvalid.url_eq ▸ hhttps
  · intro remaining redirects current target response hanswered hhttps h
    obtain rfl := List.mem_singleton.1 h
    obtain ⟨parts, port, hvalid⟩ := validateTarget_eq_ok hanswered.valid
    exact hvalid.url_eq ▸ hhttps
  · intro remaining redirects current target response nextUrl hanswered hfollow ih hhttps h
    obtain rfl | h := List.mem_cons.1 h
    · obtain ⟨parts, port, hvalid⟩ := validateTarget_eq_ok hanswered.valid
      exact hvalid.url_eq ▸ hhttps
    · obtain ⟨target', htarget'⟩ := exists_target_of_mem_requests h
      have hnot := not_http_of_follow hfollow hhttps
      exact ih (hasScheme_https_of_validateTarget htarget' hnot) h

theorem pairwise_noDowngrade :
    (expandFrom net remaining redirects current).requests.Pairwise fun earlier later =>
      HasScheme net "https" earlier.target.url → ¬ HasScheme net "http" later.target.url := by
  refine expandFrom_induction net
    (motive := fun _ _ _ e => e.requests.Pairwise fun earlier later =>
      HasScheme net "https" earlier.target.url → ¬ HasScheme net "http" later.target.url)
    ?_ ?_ ?_ ?_ remaining redirects current
  · intro remaining redirects current e _
    exact .nil
  · intro remaining redirects current target e _ _
    exact List.pairwise_singleton _ _
  · intro remaining redirects current target response _
    exact List.pairwise_singleton _ _
  · intro remaining redirects current target response nextUrl hanswered hfollow ih
    refine List.pairwise_cons.2 ⟨?_, ih⟩
    intro later hlater hhttps
    obtain ⟨parts, port, hvalid⟩ := validateTarget_eq_ok hanswered.valid
    have hcurrent : HasScheme net "https" current := hvalid.url_eq ▸ hhttps
    obtain ⟨target', htarget'⟩ := exists_target_of_mem_requests hlater
    have hnext : HasScheme net "https" nextUrl :=
      hasScheme_https_of_validateTarget htarget' (not_http_of_follow hfollow hcurrent)
    exact not_hasScheme_http (https_throughout hnext hlater)

/-! ## The only gap -/

/-- An address let through which names port zero is fetched from port zero. -/
theorem not_insideFence_of_namesPortZero {maxRedirects : Nat} {start : Text} {hop : Nat}
    {url : Text} {target : ValidatedTarget} (hreach : Reaches net maxRedirects 0 start hop url)
    (htarget : validateTarget net hop url = .ok target) (hzero : NamesPortZero net url) :
    ¬ InsideFence net maxRedirects (expand net maxRedirects start) := by
  intro hfence
  obtain ⟨parts, hzero⟩ := hzero
  obtain ⟨r, hr, rfl, rfl⟩ := hreach.exists_request htarget
  obtain ⟨parts', port, hinside⟩ := hfence.inside r hr
  obtain ⟨_, _, hvalid⟩ := validateTarget_eq_ok htarget
  have haddress := hinside.address
  rw [hvalid.url_eq, hzero] at haddress
  obtain ⟨rfl, rfl⟩ := Prod.mk.inj (Option.some.inj haddress)
  exact absurd hinside.destination (by simp [destinationPort])

/-- The expander stays inside its fence exactly if it never comes to an address which is let
through at its hop and names port zero. -/
theorem expand_insideFence_iff (net : Internet) (maxRedirects : Nat) (start : Text) :
    InsideFence net maxRedirects (expand net maxRedirects start) ↔
      ∀ hop url target, Reaches net maxRedirects 0 start hop url →
        validateTarget net hop url = .ok target → ¬ NamesPortZero net url := by
  constructor
  · intro hfence hop url target hreach htarget hzero
    exact not_insideFence_of_namesPortZero hreach htarget hzero hfence
  · intro hnone
    refine ⟨?_, ?_, pairwise_noDowngrade, length_requests_le,
      fun _ => fetched_of_outcome_eq_ok⟩
    · intro r hr
      obtain ⟨url, hreach, htarget⟩ := reaches_of_mem_requests hr
      obtain ⟨parts, port, hvalid⟩ := validateTarget_eq_ok htarget
      have hport : port ≠ some 0 := by
        rintro rfl
        exact hnone _ _ _ hreach htarget ⟨parts, hvalid.split⟩
      refine ⟨parts, port, ?_, hvalid.authority, ?_, hvalid.resolved⟩
      · rw [hvalid.url_eq]
        exact hvalid.split
      · rw [destinationPort_eq_effectivePort hport, ← hvalid.port_eq]
        exact hvalid.port_mem
    · intro r hr response hused
      obtain ⟨url, hanswered⟩ := answered_of_used hr hused
      obtain ⟨peer, parsed, hpeer, hparse, -, hmem⟩ := validatePeer_eq_ok hanswered.peer
      exact ⟨hanswered.fetched, peer, parsed, hpeer, hparse, hmem⟩

/-! ## An address through the gap -/

/-- A network where every name has one address, and the first response is the last. -/
def openInternet : Internet where
  unicode := .ascii
  ips := ⟨some, fun address => address == "93.184.216.34".toList⟩
  resolve := fun _ _ _ => .ok ["93.184.216.34".toList]
  fetch := fun _ _ => .ok ⟨200, none, some "93.184.216.34".toList⟩

/-- `http://amzn.to:0/` is let through, and fetched from port zero. -/
theorem portZero_outsideFence :
    ¬ InsideFence openInternet 5 (expand openInternet 5 "http://amzn.to:0/".toList) := by
  have htarget : validateTarget openInternet 0 "http://amzn.to:0/".toList =
      .ok ⟨"http://amzn.to:0/".toList, "amzn.to".toList, 80, ["93.184.216.34".toList]⟩ := by
    decide +kernel
  have hsplit : splitWithPort openInternet "http://amzn.to:0/".toList =
      some (⟨"http".toList, "amzn.to:0".toList, "/".toList, [], []⟩, some 0) := by
    decide +kernel
  exact not_insideFence_of_namesPortZero (.here 5 0 _) htarget ⟨_, hsplit⟩

end SafeUrlExpander
end PromoBot
