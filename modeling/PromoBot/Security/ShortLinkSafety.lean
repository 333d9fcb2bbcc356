import Mathlib.Data.List.Chain
import Mathlib.Data.List.Nodup
import PromoBot.Security.ShortLinkResolver

/-!
# The resolver is safe and ends

What a run of `AliExpressShortLinkResolver.resolve` stays inside of, whatever redirects are
answered (`SafeResolution`).  Every address is validated anew before it is fetched, the host of
the address before is what the step to the mobile host is judged by, and the keys of the
addresses fetched so far are carried along.

The loop ends because each redirect takes one of those that remain; that it raises nothing
unforeseen is that an address it looks at a second time was let through the first time.

## A narrow path

A short link leads over a few hosts to the page of a product.  The resolver lets it do so and
nothing else, and most of what it asks is about where a step may come from as well as where it
leads: a run starts at a host of short links, the mobile host is entered from there only, and
an address is fetched once under its key, which leaves out what a server could add to make a
circle look like a line.  These are properties of a list of requests (`EntersFromShort`,
`FreshKeys`), and the induction over the hops of `ShortLinkResolver` carries for each what the
next hop has to know: the host before, and the keys so far.

## What it may raise

The caller turns a rejection into an outcome and lets everything else through, so an exception
of another kind would be a failure of the message.  Two places could give one.  The product is
read off the last address by a function that parses it again, and the key of an address parses
it a third time.  Both may raise over an address which is not valid, and every address was
validated before it gets there (`raisesOnly_productFromUrl`).  What is left is what the network
raises of its own accord (`Foreseen`).
-/

namespace PromoBot
namespace ShortLinkResolver

open PyUrl Urls Fallible

variable {ε : Type} {net : HopNetwork ε} {remaining redirects : Nat} {visited : List Text}
  {hostname current : Text}

/-! ## The induction over the hops -/

/-- An address which is let through, on a host. -/
def Valid (net : HopNetwork ε) (hostname url : Text) : Prop :=
  validateHopSyntax net.unicode net.ips networkHopHosts url = .ok hostname

/-- A turn of the loop that makes a request. -/
structure Turn (net : HopNetwork ε) (redirects : Nat) (visited : List Text)
    (hostname current key : Text) (target : HopTarget) : Prop where
  valid : Valid net hostname current
  entered : enter net redirects visited current = .ok (key, target)

/-- A turn whose request was answered. -/
structure AnsweredTurn (net : HopNetwork ε) (redirects : Nat) (visited : List Text)
    (hostname current key : Text) (target : HopTarget) (response : RedirectHop) : Prop
    extends Turn net redirects visited hostname current key target where
  fetched : net.fetch redirects target.url target.allowedIps = .ok response

/-- **The induction over the hops.**  A hop is refused before any request, or makes a request
that fails, or ends with a response which is no redirect, or is stopped at a redirect, or
follows it. -/
theorem resolveFrom_induction {motive : Nat → Nat → List Text → Text → Text → Resolution ε → Prop}
    (refused : ∀ remaining redirects visited hostname current e, Valid net hostname current →
      enter net redirects visited current = .error e →
      motive remaining redirects visited hostname current ⟨[], .error e⟩)
    (failed : ∀ remaining redirects visited hostname current key target e,
      Turn net redirects visited hostname current key target →
      net.fetch redirects target.url target.allowedIps = .error e →
      motive remaining redirects visited hostname current
        ⟨[⟨redirects, target, none⟩], .error (.own e)⟩)
    (ended : ∀ remaining redirects visited hostname current key target response,
      AnsweredTurn net redirects visited hostname current key target response →
      motive remaining redirects visited hostname current
        ⟨[⟨redirects, target, some response⟩], finish net redirects current response⟩)
    (stopped : ∀ remaining redirects visited hostname current key target response e,
      AnsweredTurn net redirects visited hostname current key target response →
      redirect net remaining redirects (key :: visited) hostname current response = .error e →
      motive remaining redirects visited hostname current
        ⟨[⟨redirects, target, some response⟩], .error e⟩)
    (followed : ∀ remaining redirects visited hostname current key target response nextHostname
      nextUrl, AnsweredTurn net redirects visited hostname current key target response →
      validateRedirectTransition net.unicode net.ips hostname nextUrl = .ok nextHostname →
      motive remaining (redirects + 1) (key :: visited) nextHostname nextUrl
        (resolveFrom net remaining (redirects + 1) (key :: visited) nextHostname nextUrl) →
      motive (remaining + 1) redirects visited hostname current
        ⟨⟨redirects, target, some response⟩ ::
            (resolveFrom net remaining (redirects + 1) (key :: visited) nextHostname
              nextUrl).fetches,
          (resolveFrom net remaining (redirects + 1) (key :: visited) nextHostname
            nextUrl).outcome⟩)
    (hvalid : Valid net hostname current) :
    motive remaining redirects visited hostname current
      (resolveFrom net remaining redirects visited hostname current) := by
  induction remaining generalizing redirects visited hostname current with
  | zero =>
    unfold resolveFrom
    split
    · next e henter => exact refused 0 redirects visited hostname current e hvalid henter
    · next key target henter =>
      split
      · next e hfetch =>
        exact failed 0 redirects visited hostname current key target e ⟨hvalid, henter⟩ hfetch
      · next response hfetch =>
        have hturn : AnsweredTurn net redirects visited hostname current key target response :=
          ⟨⟨hvalid, henter⟩, hfetch⟩
        split
        · split
          · next e hredirect =>
            exact stopped 0 redirects visited hostname current key target response e hturn hredirect
          · next heq => cases heq
          · next next hredirect _ =>
            exact absurd (redirect_eq_ok hredirect).1 (Nat.lt_irrefl 0)
        · exact ended 0 redirects visited hostname current key target response hturn
  | succ remaining ih =>
    unfold resolveFrom
    split
    · next e henter => exact refused _ redirects visited hostname current e hvalid henter
    · next key target henter =>
      split
      · next e hfetch =>
        exact failed _ redirects visited hostname current key target e ⟨hvalid, henter⟩ hfetch
      · next response hfetch =>
        have hturn : AnsweredTurn net redirects visited hostname current key target response :=
          ⟨⟨hvalid, henter⟩, hfetch⟩
        split
        · split
          · next e hredirect =>
            exact stopped _ redirects visited hostname current key target response e hturn hredirect
          · next nextHostname nextUrl fewer hredirect heq =>
            obtain rfl := Nat.succ.inj heq
            obtain ⟨-, htransition⟩ := redirect_eq_ok hredirect
            exact followed remaining redirects visited hostname current key target response
              nextHostname nextUrl hturn htransition
              (ih (validateRedirectTransition_eq_ok htransition).1)
          · next heq => cases heq
        · exact ended _ redirects visited hostname current key target response hturn

/-! ## What a turn fetches -/

theorem Turn.target_eq {key : Text} {target : HopTarget}
    (h : Turn net redirects visited hostname current key target) :
    target.url = current ∧ target.hostname = hostname := by
  obtain ⟨hvalid, henter⟩ := h
  obtain ⟨-, -, htarget⟩ := enter_eq_ok henter
  obtain ⟨hurl, hsyn⟩ := validatedTarget_eq_ok htarget
  exact ⟨hurl, Except.ok.inj (hsyn.symm.trans hvalid)⟩

theorem Turn.key_eq {key : Text} {target : HopTarget}
    (h : Turn net redirects visited hostname current key target) :
    loopKey net.unicode target.url = .ok key ∧ key ∉ visited := by
  obtain ⟨hkey, hnew, -⟩ := enter_eq_ok h.entered
  rw [h.target_eq.1]
  exact ⟨hkey, hnew⟩

/-- A property of the requests of a run that each turn establishes. -/
theorem forall_fetches {P : HopFetch → Prop}
    (h : ∀ redirects visited hostname current key target,
      Turn net redirects visited hostname current key target →
      ∀ response, (∀ answer, response = some answer →
        net.fetch redirects target.url target.allowedIps = .ok answer) →
      P ⟨redirects, target, response⟩)
    (hvalid : Valid net hostname current) :
    ∀ f ∈ (resolveFrom net remaining redirects visited hostname current).fetches, P f := by
  have hanswered : ∀ {redirects visited hostname current key target response},
      AnsweredTurn net redirects visited hostname current key target response →
      P ⟨redirects, target, some response⟩ := by
    intro redirects visited hostname current key target response hturn
    refine h redirects visited hostname current key target hturn.toTurn _ ?_
    rintro answer heq
    rw [hturn.fetched, Option.some.inj heq]
  refine resolveFrom_induction (motive := fun _ _ _ _ _ r => ∀ f ∈ r.fetches, P f)
    ?_ ?_ ?_ ?_ ?_ hvalid
  · intro _ _ _ _ _ e _ _ f hf
    exact absurd hf List.not_mem_nil
  · intro _ redirects visited hostname current key target e hturn _ f hf
    obtain rfl := List.mem_singleton.1 hf
    exact h redirects visited hostname current key target hturn none nofun
  · intro _ redirects visited hostname current key target response hturn f hf
    obtain rfl := List.mem_singleton.1 hf
    exact hanswered hturn
  · intro _ redirects visited hostname current key target response e hturn _ f hf
    obtain rfl := List.mem_singleton.1 hf
    exact hanswered hturn
  · intro _ redirects visited hostname current key target response _ _ hturn _ ih f hf
    rcases List.mem_cons.1 hf with rfl | hf
    · exact hanswered hturn
    · exact ih f hf

theorem length_fetches_le (hvalid : Valid net hostname current) :
    (resolveFrom net remaining redirects visited hostname current).fetches.length ≤
      remaining + 1 := by
  refine resolveFrom_induction
    (motive := fun remaining _ _ _ _ r => r.fetches.length ≤ remaining + 1) ?_ ?_ ?_ ?_ ?_ hvalid
  · intro remaining _ _ _ _ _ _ _
    exact Nat.zero_le _
  · intro remaining _ _ _ _ _ _ _ _ _
    exact Nat.le_add_left 1 remaining
  · intro remaining _ _ _ _ _ _ _ _
    exact Nat.le_add_left 1 remaining
  · intro remaining _ _ _ _ _ _ _ _ _ _
    exact Nat.le_add_left 1 remaining
  · intro remaining _ _ _ _ _ _ _ _ _ _ _ ih
    rw [List.length_cons]
    omega

/-! ## The mobile host -/

/-- The step from one request to the next enters the mobile host from a short-link host. -/
def EntersFromShort (f g : HopFetch) : Prop :=
  g.target.hostname = mobileHopHost → f.target.hostname ∈ shortHosts

/-- A run begins on its host, and enters the mobile host from short-link hosts only. -/
theorem isChain_fetches (hvalid : Valid net hostname current) :
    (∀ f, (resolveFrom net remaining redirects visited hostname current).fetches.head? = some f →
        f.target.hostname = hostname) ∧
      (resolveFrom net remaining redirects visited hostname current).fetches.IsChain
        EntersFromShort := by
  refine resolveFrom_induction
    (motive := fun _ _ _ hostname _ r => (∀ f, r.fetches.head? = some f →
      f.target.hostname = hostname) ∧ r.fetches.IsChain EntersFromShort) ?_ ?_ ?_ ?_ ?_ hvalid
  · intro _ _ _ _ _ _ _ _
    exact ⟨nofun, List.isChain_nil⟩
  · intro _ _ _ _ _ _ target _ hturn _
    refine ⟨fun f hf => ?_, List.isChain_singleton _⟩
    obtain rfl := Option.some.inj hf
    exact hturn.target_eq.2
  · intro _ _ _ _ _ _ target _ hturn
    refine ⟨fun f hf => ?_, List.isChain_singleton _⟩
    obtain rfl := Option.some.inj hf
    exact hturn.target_eq.2
  · intro _ _ _ _ _ _ target _ _ hturn _
    refine ⟨fun f hf => ?_, List.isChain_singleton _⟩
    obtain rfl := Option.some.inj hf
    exact hturn.target_eq.2
  · intro _ _ _ _ _ _ target response nextHostname _ hturn htransition ih
    obtain ⟨hfirst, hchain⟩ := ih
    refine ⟨fun f hf => ?_, ?_⟩
    · obtain rfl := Option.some.inj hf
      exact hturn.target_eq.2
    · refine List.isChain_cons.2 ⟨fun g hg hmobile => ?_, hchain⟩
      show target.hostname ∈ shortHosts
      rw [hturn.target_eq.2]
      exact (validateRedirectTransition_eq_ok htransition).2 ((hfirst g hg).symm.trans hmobile)

/-! ## Keys -/

/-- The keys of the requests of a run are new and different. -/
structure FreshKeys (net : HopNetwork ε) (visited : List Text) (r : Resolution ε) : Prop where
  fresh : ∀ f ∈ r.fetches, ∃ key, loopKey net.unicode f.target.url = .ok key ∧ key ∉ visited
  nodup : (r.fetches.map fun f => loopKey net.unicode f.target.url).Nodup

theorem freshKeys (hvalid : Valid net hostname current) :
    FreshKeys net visited (resolveFrom net remaining redirects visited hostname current) := by
  refine resolveFrom_induction (motive := fun _ _ visited _ _ r => FreshKeys net visited r)
    ?_ ?_ ?_ ?_ ?_ hvalid
  · intro _ _ _ _ _ _ _ _
    exact ⟨fun f hf => absurd hf List.not_mem_nil, List.nodup_nil⟩
  · intro _ _ _ _ _ key _ _ hturn _
    refine ⟨fun f hf => ?_, List.nodup_singleton _⟩
    obtain rfl := List.mem_singleton.1 hf
    exact ⟨key, hturn.key_eq⟩
  · intro _ _ _ _ _ key _ _ hturn
    refine ⟨fun f hf => ?_, List.nodup_singleton _⟩
    obtain rfl := List.mem_singleton.1 hf
    exact ⟨key, hturn.key_eq⟩
  · intro _ _ _ _ _ key _ _ _ hturn _
    refine ⟨fun f hf => ?_, List.nodup_singleton _⟩
    obtain rfl := List.mem_singleton.1 hf
    exact ⟨key, hturn.key_eq⟩
  · intro _ _ visited _ _ key target _ _ _ hturn _ ih
    obtain ⟨hkeys, hnodup⟩ := ih
    refine ⟨fun f hf => ?_, ?_⟩
    · rcases List.mem_cons.1 hf with rfl | hf
      · exact ⟨key, hturn.key_eq⟩
      · obtain ⟨k, hk, hnot⟩ := hkeys f hf
        exact ⟨k, hk, fun hmem => hnot (List.mem_cons_of_mem key hmem)⟩
    · refine List.nodup_cons.2 ⟨fun hmem => ?_, hnodup⟩
      obtain ⟨f, hf, heq⟩ := List.mem_map.1 hmem
      obtain ⟨k, hk, hnot⟩ := hkeys f hf
      have hsame : key = k := Except.ok.inj (hturn.key_eq.1.symm.trans (heq.symm.trans hk))
      exact hnot (hsame ▸ List.mem_cons_self)

/-! ## The product -/

/-- The last request of a run was answered with the page of a product. -/
def EndsAtProduct (net : HopNetwork ε) (r : Resolution ε) (p : ResolvedProduct) : Prop :=
  ∃ f response, r.fetches.getLast? = some f ∧ f.response = some response ∧
    (200 ≤ response.statusCode ∧ response.statusCode < 300) ∧
    ∃ parts skuId, urlsplit net.unicode f.target.url = some parts ∧
      f.target.hostname ∉ shortHosts ∧
      NamesProduct net.unicode f.target.hostname parts p.productId skuId ∧
      p.variationKey = (skuId.map ("sku_id:".toList ++ ·)).getD []

theorem getLast?_cons_of_ne_nil {α : Type} (a : α) {l : List α} (h : l ≠ []) :
    (a :: l).getLast? = l.getLast? := by
  cases l with
  | nil => exact absurd rfl h
  | cons b l => rw [List.getLast?_cons_cons]

theorem endsAtProduct_of_outcome {p : ResolvedProduct} (hvalid : Valid net hostname current) :
    (resolveFrom net remaining redirects visited hostname current).outcome = .ok p →
      EndsAtProduct net (resolveFrom net remaining redirects visited hostname current) p := by
  refine resolveFrom_induction
    (motive := fun _ _ _ _ _ r => r.outcome = .ok p → EndsAtProduct net r p)
    ?_ ?_ ?_ ?_ ?_ hvalid
  · intro _ _ _ _ _ _ _ _ h
    cases h
  · intro _ _ _ _ _ _ _ _ _ _ h
    cases h
  · intro _ _ _ hostname _ _ target response hturn h
    obtain ⟨hstatus, hproduct⟩ := finish_eq_ok h
    obtain ⟨hostname', parts, port, skuId, hhop, hshort, hnames, hvariation, -, -⟩ :=
      productFromUrl_eq_ok hproduct
    obtain ⟨hurl, hhostname⟩ := hturn.target_eq
    have hsame : hostname' = target.hostname := by
      obtain ⟨parts', port', hhop'⟩ := validateHopSyntax_eq_ok hturn.valid
      obtain rfl := Option.some.inj (hhop.split.symm.trans hhop'.split)
      rw [hhostname, ← hhop.host, hhop'.host]
    rw [hsame] at hshort hnames
    refine ⟨_, response, rfl, rfl, hstatus, parts, skuId, ?_, hshort, hnames, hvariation⟩
    show urlsplit net.unicode target.url = some parts
    rw [hurl, hhop.split]
  · intro _ _ _ _ _ _ _ _ _ _ _ h
    cases h
  · intro _ redirects _ _ _ _ target response _ _ _ _ ih h
    obtain ⟨f, answer, hlast, hrest⟩ := ih h
    refine ⟨f, answer, ?_, hrest⟩
    refine (getLast?_cons_of_ne_nil _ fun hnil => ?_).trans hlast
    rw [hnil] at hlast
    cases hlast

/-! ## What is raised -/

/-- The exceptions `resolve` may end with. -/
def Foreseen (net : HopNetwork ε) : ResolverError ε → Prop
  | .rejected _ => True
  | .value => False
  | .own e => (∃ hop hostname, net.resolve hop hostname 443 = .error e) ∨
      ∃ hop url allowedIps, net.fetch hop url allowedIps = .error e

theorem raisesOnly_loopKey {url : Text} (hvalid : Valid net hostname url) :
    RaisesOnly (Foreseen net) ((loopKey net.unicode url).mapError Raised.toError) := by
  obtain ⟨parts, port, hhop⟩ := validateHopSyntax_eq_ok hvalid
  obtain ⟨key, hkey⟩ := hhop.exists_loopKey
  rw [hkey]
  exact raisesOnly_ok key

theorem raisesOnly_enter (hvalid : Valid net hostname current) :
    RaisesOnly (Foreseen net) (enter net redirects visited current) := by
  unfold enter
  refine (raisesOnly_loopKey hvalid).bind fun key _ => ?_
  refine (raisesOnly_check fun _ => trivial).bind fun _ _ => ?_
  refine RaisesOnly.bind ?_ fun _ _ => raisesOnly_ok _
  unfold validatedTarget
  refine (RaisesOnly.mapError fun _ _ => trivial).bind fun hostname' _ => ?_
  have hresolve : RaisesOnly (Foreseen net)
      ((net.resolve redirects hostname' 443).mapError ResolverError.own) :=
    RaisesOnly.mapError fun e he => Or.inl ⟨redirects, hostname', he⟩
  refine hresolve.bind fun _ _ => ?_
  refine (raisesOnly_check fun _ => trivial).bind fun _ _ => ?_
  refine (raisesOnly_mapM fun address _ => ?_).bind fun _ _ => raisesOnly_ok _
  unfold checkAddress
  refine (raisesOnly_orRaise fun _ => trivial).bind fun _ _ => ?_
  exact (raisesOnly_check fun _ => trivial).bind fun _ _ => raisesOnly_ok _

theorem raisesOnly_redirect {response : RedirectHop} :
    RaisesOnly (Foreseen net)
      (redirect net remaining redirects visited hostname current response) := by
  unfold redirect
  refine (raisesOnly_orRaise fun _ => trivial).bind fun location _ => ?_
  refine (raisesOnly_check fun _ => trivial).bind fun _ _ => ?_
  refine (raisesOnly_check fun _ => trivial).bind fun _ _ => ?_
  refine (raisesOnly_orRaise fun _ => trivial).bind fun nextUrl _ => ?_
  refine (RaisesOnly.mapError fun _ _ => trivial).bind fun nextHostname hnext => ?_
  have hvalid : Valid net nextHostname nextUrl :=
    (validateRedirectTransition_eq_ok (mapError_eq_ok.1 hnext)).1
  refine (raisesOnly_loopKey hvalid).bind fun key _ => ?_
  exact (raisesOnly_check fun _ => trivial).bind fun _ _ => raisesOnly_ok _

/-- The product of a valid address is no reason to raise anything but a rejection. -/
theorem raisesOnly_productFromUrl (hvalid : Valid net hostname current) :
    RaisesOnly (· ≠ .value) (productFromUrl net.unicode net.ips current redirects true) := by
  obtain ⟨parts, port, hhop⟩ := validateHopSyntax_eq_ok hvalid
  unfold productFromUrl
  refine (RaisesOnly.mapError fun _ _ => nofun).bind fun _ _ => ?_
  refine (raisesOnly_check fun _ => nofun).bind fun _ _ => ?_
  refine (raisesOnly_orRaise fun hnone => ?_).bind fun parts' _ => ?_
  · rw [hhop.split] at hnone
    cases hnone
  refine (raisesOnly_orRaise fun _ => nofun).bind fun _ _ => ?_
  refine RaisesOnly.bind ?_ fun _ _ => raisesOnly_ok _
  unfold skuIdOf
  split
  · exact raisesOnly_ok _
  · split
    · exact raisesOnly_ok _
    · exact raisesOnly_error nofun
  · exact raisesOnly_error nofun

theorem raisesOnly_finish {response : RedirectHop} (hvalid : Valid net hostname current) :
    RaisesOnly (Foreseen net) (finish net redirects current response) := by
  obtain ⟨parts, port, hhop⟩ := validateHopSyntax_eq_ok hvalid
  unfold finish
  refine (raisesOnly_check fun _ => trivial).bind fun _ _ => ?_
  split
  · exact raisesOnly_ok _
  · next hvalue => exact absurd rfl (raisesOnly_productFromUrl hvalid _ hvalue)
  · split
    · exact raisesOnly_error trivial
    · refine RaisesOnly.bind (RaisesOnly.mapError ?_) fun _ _ => raisesOnly_error trivial
      unfold terminalRejectionDiagnostic
      refine (raisesOnly_orRaise fun hnone => ?_).bind fun _ _ => raisesOnly_ok _
      rw [hhop.split] at hnone
      cases hnone

theorem raisesOnly_resolveFrom (hvalid : Valid net hostname current) :
    RaisesOnly (Foreseen net)
      (resolveFrom net remaining redirects visited hostname current).outcome := by
  refine resolveFrom_induction (motive := fun _ _ _ _ _ r => RaisesOnly (Foreseen net) r.outcome)
    ?_ ?_ ?_ ?_ ?_ hvalid
  · intro _ _ _ _ _ e hvalid henter
    exact raisesOnly_error (raisesOnly_enter hvalid e henter)
  · intro _ redirects _ _ _ _ target e _ hfetch
    exact raisesOnly_error (Or.inr ⟨redirects, target.url, target.allowedIps, hfetch⟩)
  · intro _ _ _ _ _ _ _ response hturn
    exact raisesOnly_finish hturn.valid
  · intro _ _ _ _ _ _ _ _ e _ hredirect
    exact raisesOnly_error (raisesOnly_redirect e hredirect)
  · intro _ _ _ _ _ _ _ _ _ _ _ _ ih
    exact ih

/-! ## The whole run -/

/-- **What no run of the resolver leaves.** -/
structure SafeResolution (net : HopNetwork ε) (maxRedirects : Nat) (r : Resolution ε) : Prop where
  allowed : ∀ f ∈ r.fetches, ∃ parts port,
    AllowedHop net.unicode networkHopHosts f.target.url f.target.hostname parts port
  answered : ∀ f ∈ r.fetches, ∀ response, f.response = some response →
    net.fetch f.hop f.target.url f.target.allowedIps = .ok response
  start : ∀ f, r.fetches.head? = some f → f.target.hostname ∈ shortHosts
  mobile : r.fetches.IsChain EntersFromShort
  keyed : ∀ f ∈ r.fetches, ∃ key, loopKey net.unicode f.target.url = .ok key
  distinct : (r.fetches.map fun f => loopKey net.unicode f.target.url).Nodup
  few : r.fetches.length ≤ maxRedirects + 1
  product : ∀ p, r.outcome = .ok p → EndsAtProduct net r p
  raises : RaisesOnly (Foreseen net) r.outcome

/-- A short link that is taken is a valid address on a short-link host. -/
theorem validateShortInput_eq_ok {u : PyUnicode} {ips : IpAddresses} {url hostname : Text}
    (h : validateShortInput u ips url = .ok hostname) :
    validateHopSyntax u ips networkHopHosts url = .ok hostname ∧ hostname ∈ shortHosts := by
  unfold validateShortInput at h
  obtain ⟨hostname', hsyn, h⟩ := bind_eq_ok.1 h
  obtain ⟨⟨⟩, hsupported, h⟩ := bind_eq_ok.1 h
  obtain rfl := Except.ok.inj h
  refine ⟨hsyn, ?_⟩
  replace hsupported := check_eq_ok.1 hsupported
  unfold isSupportedAliexpressShortInput at hsupported
  split at hsupported
  · next host parts hhost hsplit =>
    obtain ⟨parts₁, port₁, hhop⟩ := validateHopSyntax_eq_ok hsyn
    obtain ⟨parts₂, port₂, hhop'⟩ := validateHopSyntax_eq_ok hhost
    obtain rfl := Option.some.inj (hhop.split.symm.trans hhop'.split)
    have hsame : host = hostname' := hhop'.host.symm.trans hhop.host
    rw [hsame] at hsupported
    split at hsupported
    · next hshort =>
      rw [hshort]
      exact List.mem_cons_self
    · have ha : hostname' = aShortHost := by
        simpa using ((Bool.and_eq_true _ _).mp hsupported).1
      rw [ha]
      exact List.mem_cons_of_mem _ List.mem_cons_self
  · cases hsupported

/-- **The resolver is safe and ends**, whatever the network answers. -/
theorem resolve_safe (net : HopNetwork ε) (maxRedirects : Nat) (url : Text) :
    SafeResolution net maxRedirects (resolve net maxRedirects url) := by
  unfold resolve resolveOnce
  split
  · exact {
      allowed := fun f hf => absurd hf List.not_mem_nil
      answered := fun f hf => absurd hf List.not_mem_nil
      start := nofun
      mobile := List.isChain_nil
      keyed := fun f hf => absurd hf List.not_mem_nil
      distinct := List.nodup_nil
      few := Nat.zero_le _
      product := nofun
      raises := raisesOnly_error trivial }
  · next hostname hinput =>
    obtain ⟨hvalid, hshort⟩ := validateShortInput_eq_ok hinput
    replace hvalid : Valid net hostname url := hvalid
    obtain ⟨hfirst, hchain⟩ := isChain_fetches hvalid
    have hfresh : FreshKeys net [] (resolveFrom net maxRedirects 0 [] hostname url) :=
      freshKeys hvalid
    obtain ⟨hkeys, hnodup⟩ := hfresh
    exact {
      allowed := forall_fetches (fun _ _ _ _ _ _ hturn _ _ => by
        obtain ⟨hurl, hhostname⟩ := hturn.target_eq
        rw [hurl, hhostname]
        exact validateHopSyntax_eq_ok hturn.valid) hvalid
      answered := forall_fetches (fun _ _ _ _ _ _ _ _ hresponse => hresponse) hvalid
      start := fun f hf => by rw [hfirst f hf]; exact hshort
      mobile := hchain
      keyed := fun f hf => by
        obtain ⟨key, hkey, -⟩ := hkeys f hf
        exact ⟨key, hkey⟩
      distinct := hnodup
      few := length_fetches_le hvalid
      product := fun p hp => endsAtProduct_of_outcome hvalid (mapError_eq_ok.1 hp)
      raises := by
        refine RaisesOnly.mapError ((raisesOnly_resolveFrom hvalid).mono fun e he => ?_)
        cases e with
        | rejected rejection => trivial
        | value => exact he
        | own e =>
          show Foreseen net (if net.isTimeout e then _ else _)
          split
          · trivial
          · exact he }

end ShortLinkResolver
end PromoBot
