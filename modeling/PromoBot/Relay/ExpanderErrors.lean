import PromoBot.Lib.Raises
import PromoBot.Relay.Links
import PromoBot.Security.ExpanderFence

/-!
# What `expand` raises

`_process_link` expects two exceptions of `SafeUrlExpander.expand`: a `SafeUrlError` settles
the link as refused, a `TransientUrlError` has the message tried again.  Any other one leaves
the loop over the links, and the whole message is failed as an unexpected processing error and
tried again.

The address of the next hop is `urljoin(current, location)`, and `urljoin` raises a
`ValueError` over a `Location` which `urlsplit` refuses.  Nothing catches it.
`closedErrors_iff` says that this is the only way out: the errors are those two, and a
malformed `Location` is a `SafeUrlError`, exactly when `urlsplit` takes every `Location` the
loop comes to follow.

## Two ways to be malformed

A `Location` is joined to the address of the hop, and the result is checked like every address.
What `urljoin` lets through and the check refuses is a refusal, as it should be
(`ComesToFollow.refused`).  What `urljoin` itself does not take never gets to the check.  Both
are malformed to a reader, and which of the two a text is depends on how `urljoin` reads it: it
splits the reference before anything else, so a bracket out of place in the host is enough.

The condition has to speak of the addresses the loop comes to, and not of all the world
answers, because a `Location` matters only where a redirect is followed.  `ComesToFollow` says
so without the loop: each hop before was let through and answered with a redirect which was
followed.  Whatever becomes of the run from such a hop on becomes of the whole run
(`ComesToFollow.outcome`), which is what the direction from the errors to the addresses needs;
the other one is the induction over the hops of `Security/ExpanderFence`.
-/

namespace PromoBot
namespace SafeUrlExpander

open PyUrl Urls Fallible

/-! ## The expected exceptions -/

/-- `SafeUrlError` or `TransientUrlError`. -/
def IsExpected : UrlError → Prop
  | .safe _ | .transient _ => True
  | .value => False

/-- The resolver and the requester raise nothing else. -/
structure Reliable (net : Internet) : Prop where
  resolve : ∀ hop hostname port e, net.resolve hop hostname port = .error e → IsExpected e
  fetch : ∀ hop url e, net.fetch hop url = .error e → IsExpected e

/-- How the call of `expand` in `_process_link` ended. -/
def answerOf : Except UrlError UrlExpansionResult → Relay.Expansion
  | .ok result => .resolved result.url result.redirectCount
  | .error (.safe code) => .refused code
  | .error (.transient code) => .transient code
  | .error .value => .raised

/-! ## Malformed redirects -/

variable {net : Internet} {remaining redirects : Nat} {current : Text}

/-- The loop, with so many redirects left, comes to follow a `Location` of the response at a
hop. -/
def ComesToFollow (net : Internet) (remaining redirects : Nat) (current : Text) (hop : Nat)
    (url location : Text) : Prop :=
  Reaches net remaining redirects current hop url ∧ hop < redirects + remaining ∧
    ∃ target response, Answered net hop url target response ∧
      response.statusCode ∈ redirectStatuses ∧ response.location = some location ∧ location ≠ []

/-- A `Location` which leads nowhere: it is not joined, or its address has no parts. -/
def IsMalformed (net : Internet) (url location : Text) : Prop :=
  ∀ nextUrl, urljoin net.unicode url location = some nextUrl → splitWithPort net nextUrl = none

/-- The errors of `expand` are closed: nothing unexpected is raised, a malformed `Location` is
a permanent refusal, and the message of the link is not failed over it. -/
structure ClosedErrors (net : Internet) (maxRedirects : Nat) (url : Text) : Prop where
  expected : ∀ e, (expand net maxRedirects url).outcome = .error e → IsExpected e
  malformed : ∀ hop current location, ComesToFollow net maxRedirects 0 url hop current location →
    IsMalformed net current location →
    ∃ code, (expand net maxRedirects url).outcome = .error (.safe code)
  relayed : ∀ (env : Relay.LinkEnvironment) cfg, env.unicode = net.unicode →
    isAliexpressRedirectorUrl net.unicode url = false →
    Relay.expandLink env cfg url (answerOf (expand net maxRedirects url).outcome) ≠
      .raises .unexpected

/-! ## The addresses of the hops -/

theorem urlsplit_of_validateTarget {hop : Nat} {url : Text} {target : ValidatedTarget}
    (h : validateTarget net hop url = .ok target) :
    url ≠ [] ∧ ∃ parts, urlsplit net.unicode url = some parts := by
  obtain ⟨parts, port, hvalid⟩ := validateTarget_eq_ok h
  have hsplit : urlsplit net.unicode url = some parts := hvalid.url_eq ▸ hvalid.urlsplit_eq
  refine ⟨?_, parts, hsplit⟩
  rintro rfl
  have hnone : urlsplit net.unicode [] = some ⟨[], [], [], [], []⟩ := rfl
  have hhost := hvalid.authority.host
  rw [hnone] at hsplit
  obtain rfl := Option.some.inj hsplit
  cases hhost

theorem urljoin_eq_none_iff {u : PyUnicode} {base location : Text} (hbase : base ≠ [])
    (hlocation : location ≠ []) {parts : SplitResult} (hsplit : urlsplit u base = some parts) :
    urljoin u base location = none ↔ urlsplit u location = none := by
  unfold urljoin urlparse
  rw [if_neg hbase, if_neg hlocation, hsplit]
  dsimp only [Option.map_some, Option.bind_eq_bind, Option.bind_some]
  cases urlsplit u location with
  | none => simp
  | some parts' =>
    simp only [Option.map_some, Option.bind_some, reduceCtorEq, iff_false]
    repeat' split
    all_goals exact Option.some_ne_none _

/-- Where the loop goes on after the checks of a response: it follows the `Location`. -/
theorem follow_of_redirect {url location : Text} {response : HopResponse}
    (hstatus : response.statusCode ∈ redirectStatuses)
    (hlocation : response.location = some location) (hne : location ≠ []) :
    follow net (remaining + 1) url response =
      (do
        let nextUrl ← orRaise (urljoin net.unicode url location) .value
        let downgrade ← isHttpsDowngrade net url nextUrl
        check (downgrade = false) (.safe "HTTPS_DOWNGRADE_FORBIDDEN")
        return some nextUrl) := by
  have hcode : ∀ code ∈ redirectStatuses, code ∉ transientStatuses ∧ code ≠ 403 ∧ code < 400 := by
    decide
  obtain ⟨htransient, hforbidden, hlt⟩ := hcode _ hstatus
  have hfilter : response.location.filter (· ≠ []) = some location := by
    rw [hlocation, Option.filter_some, if_pos (decide_eq_true hne)]
  unfold follow
  simp only [check, htransient, hforbidden, hlt, hstatus, hfilter, orRaise, Nat.succ_pos, not_true,
    not_false_iff, ne_eq, if_true, if_false]
  rfl

/-! ## What the checks raise -/

theorem raisesOnly_validateTarget (hnet : Reliable net) (hop : Nat) (url : Text) :
    RaisesOnly IsExpected (validateTarget net hop url) := by
  unfold validateTarget
  refine (raisesOnly_orRaise fun _ => trivial).bind fun ⟨parts, port⟩ _ => ?_
  refine RaisesOnly.bind ?_ fun hostname _ => ?_
  · unfold checkAuthority
    refine (raisesOnly_check fun _ => trivial).bind fun _ _ => ?_
    refine (raisesOnly_orRaise fun _ => trivial).bind fun host _ => ?_
    refine (raisesOnly_check fun _ => trivial).bind fun _ _ => ?_
    exact (raisesOnly_check fun _ => trivial).bind fun _ _ => raisesOnly_ok _
  refine (raisesOnly_check fun _ => trivial).bind fun _ _ => ?_
  refine RaisesOnly.bind (hnet.resolve _ _ _) fun addresses _ => ?_
  refine (raisesOnly_check fun _ => trivial).bind fun _ _ => ?_
  refine RaisesOnly.bind (raisesOnly_mapM fun address _ => ?_) fun _ _ => raisesOnly_ok _
  unfold checkAddress
  refine (raisesOnly_orRaise fun _ => trivial).bind fun parsed _ => ?_
  exact (raisesOnly_check fun _ => trivial).bind fun _ _ => raisesOnly_ok _

theorem raisesOnly_validatePeer (peerIp : Option Text) (allowedIps : List Text) :
    RaisesOnly IsExpected (validatePeer net peerIp allowedIps) := by
  unfold validatePeer
  refine (raisesOnly_orRaise fun _ => trivial).bind fun peer _ => ?_
  refine (raisesOnly_orRaise fun _ => trivial).bind fun parsed _ => ?_
  refine (raisesOnly_check fun _ => trivial).bind fun _ _ => ?_
  exact raisesOnly_check fun _ => trivial

theorem raisesOnly_isHttpsDowngrade (url nextUrl : Text) :
    RaisesOnly (· = .safe "INVALID_REDIRECT_URL") (isHttpsDowngrade net url nextUrl) := by
  unfold isHttpsDowngrade
  split
  · exact raisesOnly_ok _
  · exact raisesOnly_error rfl

/-- What is done with a response raises nothing unexpected, unless it is a redirect to a
reference that is not joined. -/
theorem raisesOnly_follow {url : Text} {response : HopResponse}
    (h : response.statusCode ∈ redirectStatuses → 0 < remaining → ∀ location,
      response.location = some location → location ≠ [] →
      urljoin net.unicode url location ≠ none) :
    RaisesOnly IsExpected (follow net remaining url response) := by
  unfold follow
  refine (raisesOnly_check fun _ => trivial).bind fun _ _ => ?_
  refine (raisesOnly_check fun _ => trivial).bind fun _ _ => ?_
  refine (raisesOnly_check fun _ => trivial).bind fun _ _ => ?_
  split
  · exact raisesOnly_ok _
  · next hstatus =>
    refine (raisesOnly_orRaise fun _ => trivial).bind fun location hlocation => ?_
    refine (raisesOnly_check fun _ => trivial).bind fun _ hremaining => ?_
    obtain ⟨hheader, hne⟩ := Option.filter_eq_some_iff.1 (orRaise_eq_ok.1 hlocation)
    refine (raisesOnly_orRaise fun hnone => ?_).bind fun nextUrl _ => ?_
    · exact absurd hnone (h (not_not.1 hstatus) (check_eq_ok.1 hremaining) location hheader
        (of_decide_eq_true hne))
    · refine RaisesOnly.bind ?_ fun downgrade _ => ?_
      · exact (raisesOnly_isHttpsDowngrade url nextUrl).mono fun e he => he ▸ trivial
      · exact (raisesOnly_check fun _ => trivial).bind fun _ _ => raisesOnly_ok _

/-- **Without a malformed `Location` to follow, nothing unexpected is raised.** -/
theorem raisesOnly_outcome (hnet : Reliable net)
    (h : ∀ hop url location, ComesToFollow net remaining redirects current hop url location →
      urlsplit net.unicode location ≠ none) :
    RaisesOnly IsExpected (expandFrom net remaining redirects current).outcome := by
  revert h
  refine expandFrom_induction net
    (motive := fun remaining redirects current e =>
      (∀ hop url location, ComesToFollow net remaining redirects current hop url location →
        urlsplit net.unicode location ≠ none) → RaisesOnly IsExpected e.outcome)
    ?_ ?_ ?_ ?_ remaining redirects current
  · intro remaining redirects current e htarget _
    exact raisesOnly_error (raisesOnly_validateTarget hnet _ _ e htarget)
  · intro remaining redirects current target e htarget hunread _
    refine raisesOnly_error ?_
    rcases hunread with hfetch | ⟨response, -, hpeer⟩
    · exact hnet.fetch _ _ e hfetch
    · exact raisesOnly_validatePeer _ _ e hpeer
  · intro remaining redirects current target response hanswered h
    have hfollow : RaisesOnly IsExpected (follow net remaining current response) := by
      refine raisesOnly_follow fun hstatus hremaining location hlocation hne hnone => ?_
      obtain ⟨hcurrent, parts, hsplit⟩ := urlsplit_of_validateTarget hanswered.valid
      exact h redirects current location
        ⟨.here .., Nat.lt_add_of_pos_right hremaining, target, response, hanswered, hstatus,
          hlocation, hne⟩ ((urljoin_eq_none_iff hcurrent hne hsplit).1 hnone)
    intro e he
    cases hx : follow net remaining current response with
    | error e' =>
      rw [endAt, hx] at he
      exact Except.error.inj he ▸ hfollow e' hx
    | ok next =>
      rw [endAt, hx] at he
      cases he
  · intro remaining redirects current target response nextUrl hanswered hfollow ih h
    refine ih fun hop url location hcomes => ?_
    obtain ⟨hreach, hlt, hrest⟩ := hcomes
    exact h hop url location ⟨.next hanswered hfollow hreach, by omega, hrest⟩

/-! ## What a redirect comes to -/

theorem outcome_followed {target : ValidatedTarget} {response : HopResponse} {nextUrl : Text}
    (hanswered : Answered net redirects current target response)
    (hfollow : follow net (remaining + 1) current response = .ok (some nextUrl)) :
    (expandFrom net (remaining + 1) redirects current).outcome =
      (expandFrom net remaining (redirects + 1) nextUrl).outcome := by
  rw [expandFrom]
  simp only [hanswered.valid, hanswered.fetched, hanswered.peer, hfollow]

theorem outcome_of_follow_error {target : ValidatedTarget} {response : HopResponse} {e : UrlError}
    (hanswered : Answered net redirects current target response)
    (hfollow : follow net remaining current response = .error e) :
    (expandFrom net remaining redirects current).outcome = .error e := by
  unfold expandFrom
  simp only [hanswered.valid, hanswered.fetched, hanswered.peer, hfollow]

/-- **The redirect at a hop decides how the run ends**, whatever led to the hop: what holds of
the run from the hop on holds of the whole run. -/
theorem ComesToFollow.outcome {hop : Nat} {url location : Text}
    {P : Except UrlError UrlExpansionResult → Prop}
    (h : ComesToFollow net remaining redirects current hop url location)
    (hhop : ∀ remaining target response, Answered net hop url target response →
      response.statusCode ∈ redirectStatuses → response.location = some location →
      location ≠ [] → P (expandFrom net (remaining + 1) hop url).outcome) :
    P (expandFrom net remaining redirects current).outcome := by
  obtain ⟨hreach, hlt, target, response, hanswered, hstatus, hlocation, hne⟩ := h
  induction hreach with
  | here remaining redirects current =>
    obtain ⟨n, rfl⟩ : ∃ n, remaining = n + 1 := ⟨remaining - 1, by omega⟩
    exact hhop n target response hanswered hstatus hlocation hne
  | next hanswered' hfollow _ ih =>
    rw [outcome_followed hanswered' hfollow]
    exact ih hhop (by omega) hanswered

/-- A `Location` which `urlsplit` refuses ends the run with a `ValueError`. -/
theorem ComesToFollow.raises {hop : Nat} {url location : Text}
    (h : ComesToFollow net remaining redirects current hop url location)
    (hnone : urlsplit net.unicode location = none) :
    (expandFrom net remaining redirects current).outcome = .error .value := by
  refine h.outcome (P := (· = .error .value)) ?_
  intro remaining target response hanswered hstatus hlocation hne
  obtain ⟨hurl, parts, hsplit⟩ := urlsplit_of_validateTarget hanswered.valid
  refine outcome_of_follow_error hanswered ?_
  rw [follow_of_redirect hstatus hlocation hne, (urljoin_eq_none_iff hurl hne hsplit).2 hnone]
  rfl

/-- A `Location` which is joined to an address without parts is refused for good. -/
theorem ComesToFollow.refused {hop : Nat} {url location nextUrl : Text}
    (h : ComesToFollow net remaining redirects current hop url location)
    (hjoin : urljoin net.unicode url location = some nextUrl)
    (hnone : splitWithPort net nextUrl = none) :
    ∃ code, (expandFrom net remaining redirects current).outcome = .error (.safe code) := by
  refine h.outcome (P := fun outcome => ∃ code, outcome = .error (.safe code)) ?_
  intro remaining target response hanswered hstatus hlocation hne
  have hfollow : follow net (remaining + 1) url response = _ :=
    follow_of_redirect hstatus hlocation hne
  rw [hjoin] at hfollow
  cases hdowngrade : isHttpsDowngrade net url nextUrl with
  | error e =>
    obtain rfl := raisesOnly_isHttpsDowngrade url nextUrl e hdowngrade
    refine ⟨"INVALID_REDIRECT_URL", outcome_of_follow_error hanswered (hfollow.trans ?_)⟩
    show (isHttpsDowngrade net url nextUrl >>= fun _ => _) = _
    rw [hdowngrade]
    rfl
  | ok downgrade =>
    cases downgrade with
    | true =>
      refine ⟨"HTTPS_DOWNGRADE_FORBIDDEN", outcome_of_follow_error hanswered (hfollow.trans ?_)⟩
      show (isHttpsDowngrade net url nextUrl >>= fun _ => _) = _
      rw [hdowngrade]
      rfl
    | false =>
      have hnext : follow net (remaining + 1) url response = .ok (some nextUrl) := by
        refine hfollow.trans ?_
        show (isHttpsDowngrade net url nextUrl >>= fun _ => _) = _
        rw [hdowngrade]
        rfl
      refine ⟨"INVALID_URL", (outcome_followed hanswered hnext).trans ?_⟩
      unfold expandFrom validateTarget
      rw [hnone]
      rfl

/-! ## The error set -/

/-- `_process_link` fails the message as unexpected over an unexpected exception alone. -/
theorem expandLink_ne_unexpected {env : Relay.LinkEnvironment} {cfg : Relay.LinkSettings}
    {url : Text} {answer : Relay.Expansion}
    (hredirector : isAliexpressRedirectorUrl env.unicode url = false) (h : answer ≠ .raised) :
    Relay.expandLink env cfg url answer ≠ .raises .unexpected := by
  unfold Relay.expandLink
  rw [if_neg (by rw [hredirector]; exact Bool.false_ne_true)]
  split
  · exact nofun
  · split
    · cases answer with
      | resolved expandedUrl redirectCount => exact nofun
      | refused code => exact nofun
      | transient code => exact nofun
      | raised => exact absurd rfl h
    · split
      · exact nofun
      · exact nofun

/-- **The errors of `expand` are closed exactly when `urlsplit` takes every `Location` the
loop comes to follow.** -/
theorem closedErrors_iff (hnet : Reliable net) (maxRedirects : Nat) (url : Text) :
    ClosedErrors net maxRedirects url ↔
      ∀ hop current location, ComesToFollow net maxRedirects 0 url hop current location →
        urlsplit net.unicode location ≠ none := by
  constructor
  · intro hclosed hop current location hcomes hnone
    exact hclosed.expected .value (hcomes.raises hnone)
  · intro hsplits
    have honly := raisesOnly_outcome hnet hsplits
    refine ⟨honly, ?_, ?_⟩
    · intro hop current location hcomes hmalformed
      cases hjoin : urljoin net.unicode current location with
      | some nextUrl => exact hcomes.refused hjoin (hmalformed nextUrl hjoin)
      | none =>
        obtain ⟨-, -, target, response, hanswered, -, -, hne⟩ := id hcomes
        obtain ⟨hcurrent, parts, hsplit⟩ := urlsplit_of_validateTarget hanswered.valid
        exact absurd ((urljoin_eq_none_iff hcurrent hne hsplit).1 hjoin)
          (hsplits hop current location hcomes)
    · intro env cfg henv hredirector hraises
      have hnot : answerOf (expand net maxRedirects url).outcome ≠ .raised := by
        cases houtcome : (expand net maxRedirects url).outcome with
        | ok result => exact nofun
        | error e =>
          cases e with
          | safe code => exact nofun
          | transient code => exact nofun
          | value => exact absurd (honly .value houtcome) id
      refine expandLink_ne_unexpected ?_ hnot hraises
      rw [henv]
      exact hredirector

/-! ## One redirect -/

/-- A network with one redirect, whatever the address. -/
def redirectingTo (location : Text) : Internet where
  unicode := .ascii
  ips := ⟨some, fun address => address == "93.184.216.34".toList⟩
  resolve := fun _ _ _ => .ok ["93.184.216.34".toList]
  fetch := fun hop _ =>
    .ok ⟨if hop = 0 then 302 else 200, some location, some "93.184.216.34".toList⟩

theorem reliable_redirectingTo (location : Text) : Reliable (redirectingTo location) where
  resolve _ _ _ _ h := by cases h
  fetch _ _ _ h := by cases h

/-- A redirect to another address of the same shortener raises nothing unexpected. -/
theorem closedErrors_redirectingTo :
    ClosedErrors (redirectingTo "https://amzn.to/next".toList) 5 "https://amzn.to/x".toList := by
  refine (closedErrors_iff (reliable_redirectingTo _) 5 _).2 ?_
  intro hop current location hcomes
  obtain ⟨-, -, target, response, hanswered, -, hlocation, -⟩ := hcomes
  have hsame : location = "https://amzn.to/next".toList := by
    have hfetched := hanswered.fetched
    obtain rfl := Except.ok.inj hfetched
    exact (Option.some.inj hlocation).symm
  rw [hsame]
  decide +kernel

/-- **A malformed `Location` escapes.**  The redirect to `http://[` raises a `ValueError`, over
which the whole message is failed as an unexpected processing error. -/
theorem malformed_location_escapes :
    Reliable (redirectingTo "http://[".toList) ∧
      (expand (redirectingTo "http://[".toList) 5 "https://amzn.to/x".toList).outcome =
        .error .value ∧
      Relay.expandLink ⟨.ascii, id⟩ ⟨false, false⟩ "https://amzn.to/x".toList
        (answerOf (expand (redirectingTo "http://[".toList) 5
          "https://amzn.to/x".toList).outcome) = .raises .unexpected ∧
      ¬ ClosedErrors (redirectingTo "http://[".toList) 5 "https://amzn.to/x".toList := by
  have houtcome : (expand (redirectingTo "http://[".toList) 5 "https://amzn.to/x".toList).outcome =
      .error .value := by
    have hcomes : ComesToFollow (redirectingTo "http://[".toList) 5 0 "https://amzn.to/x".toList 0
        "https://amzn.to/x".toList "http://[".toList := by
      refine ⟨.here .., by decide, ⟨"https://amzn.to/x".toList, "amzn.to".toList, 443,
        ["93.184.216.34".toList]⟩, _, ⟨?_, rfl, ?_⟩, by decide, rfl, by decide⟩
      · decide +kernel
      · decide +kernel
    exact hcomes.raises (by decide +kernel)
  refine ⟨reliable_redirectingTo _, houtcome, ?_, ?_⟩
  · unfold Relay.expandLink
    rw [houtcome, if_neg (by decide +kernel), if_neg (by decide +kernel),
      if_pos (by decide +kernel)]
    rfl
  · intro hclosed
    exact hclosed.expected .value houtcome

end SafeUrlExpander
end PromoBot
