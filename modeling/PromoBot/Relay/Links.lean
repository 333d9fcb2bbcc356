import PromoBot.Database.SourceMessageLinks
import PromoBot.Relay.Processor

/-!
# The links of a message, one by one

`RelayProcessor._process_link` (`relay/service.py`) in full: a transaction that
takes the link in, the expansion of the address, and a session that settles
what the link is.  What the network answers is left to the schedule.

The last session is not one transaction.  SQLite begins one at the first statement
that writes, and the session of a product begins with a `SELECT` of the item of its
identity; so it is two steps here.  `settle` expands the address and reads whether the
product is known (`knows`), and writes the outcome of a link that is of no product;
`record` writes what the first step has decided, with the second `SELECT` that
`ProcessedItemRepository.record` makes of its own (`retain`).  Other attempts may come
between the two.

`links` is the relay at work on any number of messages: each attempt goes through
the links of its message, may fail or die at any point, and may be made again,
but no two attempts at one message overlap --- the lease of `claim` sees to that.
`backfill_store` may run in between.  A transaction that loses to another one
raises, so it is an attempt that stops.
-/

namespace PromoBot
namespace Relay

open Urls PyUrl SqlTable Fallible

/-- The Unicode tables, and the hexadecimal SHA-256 digest of a text. -/
structure LinkEnvironment where
  unicode : PyUnicode
  sha256 : Text → Text

/-- The settings of a `RelayProcessor` that `_process_link` reads. -/
structure LinkSettings where
  hasShortResolver : Bool
  preserveNonAliexpress : Bool

/-! ## Expanding an address -/

/-- How `AliExpressShortResolver.resolve`, or `UrlExpander.expand`, ended. -/
inductive Expansion
  /-- An address, after so many redirects. -/
  | resolved (url : Text) (redirectCount : Nat)
  /-- `AliExpressShortLinkRejected`, or `SafeUrlError`. -/
  | refused (code : String)
  /-- `TransientUrlError`. -/
  | transient (code : String)
  /-- Any other exception. -/
  | raised
  deriving DecidableEq

/-- What `_process_link` goes on with. -/
inductive Verdict
  /-- The outcome is known. -/
  | outcome (o : LinkOutcome)
  /-- The expanded address is canonicalized. -/
  | canonicalize (expandedUrl : Text) (redirectCount : Nat)
  /-- An exception. -/
  | raises (e : LinkError)

variable (env : LinkEnvironment) (cfg : LinkSettings)

/-- `_is_aliexpress_url`. -/
def isAliexpressUrl (url : Text) : Bool :=
  match hostnameFromUrl env.unicode url with
  | some host => host = "aliexpress.com".toList || ".aliexpress.com".toList.isSuffixOf host
  | none => false

/-- `_process_link`, between its two transactions. -/
def expandLink (url : Text) (answer : Expansion) : Verdict :=
  if isAliexpressRedirectorUrl env.unicode url then
    if cfg.hasShortResolver then
      match answer with
      | .resolved identityUrl redirectCount => .canonicalize identityUrl redirectCount
      | .refused code => .outcome ⟨.rejected, code, none, 0, none, none, none⟩
      | .transient _ | .raised => .raises .unexpected
    else .outcome ⟨.rejected, "ALIEXPRESS_SHORT_URL_UNSUPPORTED", none, 0, none, none, none⟩
  else if cfg.preserveNonAliexpress ∧ ¬ isAliexpressUrl env url then
    .outcome ⟨.ignored, "NON_ALIEXPRESS_LINK_PRESERVED", none, 0, none, none, none⟩
  else if isShortenerUrl env.unicode url then
    match answer with
    | .resolved expandedUrl redirectCount => .canonicalize expandedUrl redirectCount
    | .refused code => .outcome ⟨.rejected, code, none, 0, none, none, none⟩
    | .transient code => .raises (.processing code true none)
    | .raised => .raises .unexpected
  else if isAllowedNetworkUrl env.unicode url then .canonicalize url 0
  else .outcome ⟨.ignored, "UNSUPPORTED_DOMAIN", none, 0, none, none, none⟩

/-! ## Settling a link -/

/-- The tables `_process_link` writes. -/
structure LinkTables where
  links : SourceMessageLinkModels
  items : ProcessedItems
  candidates : AffiliateCandidates

/-- `ensure_for_link`, for the stores whose links are attached at once. -/
def attachCandidate (t : LinkTables) (linkId : Nat) (i : ProductIdentity) :
    Except String LinkTables :=
  if i.store ∈ [Store.shopee, .aliexpress] then
    (AffiliateCandidateRepository.ensureForLink env.unicode t.links t.candidates linkId
      i.variationKey).map fun (links, candidates) =>
        { t with links := links, candidates := candidates }
  else .ok t

/-- The address of a product, as the last session of `_process_link` writes it. -/
structure ProductAddress where
  expandedUrl : Text
  redirectCount : Nat
  reasonCode : String
  identity : ProductIdentity
  canonicalUrl : Text
  deriving DecidableEq

/-- What `canonicalize_store_url` finds: a product, or the outcome of a link without one. -/
def canonicalized (url expandedUrl : Text) (redirectCount : Nat) : LinkOutcome ⊕ ProductAddress :=
  let outcome := canonicalizeStoreUrl env.unicode expandedUrl
  match outcome.state, outcome.store, outcome.externalProductId, outcome.canonicalUrl with
  | .pendingAffiliate, some store, some externalId, some canonicalUrl =>
    .inr ⟨expandedUrl, redirectCount, outcome.reasonCode,
      ⟨store, externalId, outcome.variationKey.getD []⟩, canonicalUrl⟩
  | _, _, _, _ =>
    .inl ⟨outcome.state, outcome.reasonCode,
      if expandedUrl ≠ url then some expandedUrl else none, redirectCount, outcome.store,
      outcome.externalProductId, outcome.canonicalUrl⟩

/-- Whether `find` answers an item with the hash of the address. -/
def knows (items : ProcessedItems) (p : ProductAddress) : Bool :=
  (ProcessedItemRepository.find items p.identity).any fun e =>
    e.2.dealHash = env.sha256 p.canonicalUrl

/-- The outcome of the link of a product: it is retained, unless the product was known. -/
def productOutcome (url : Text) (p : ProductAddress) (known : Bool) : LinkOutcome :=
  if known then
    ⟨.ignored, "DUPLICATE_CANONICAL", some p.expandedUrl, p.redirectCount, some p.identity.store,
      some p.identity.externalProductId, some p.canonicalUrl⟩
  else
    ⟨.pendingAffiliate, p.reasonCode, if p.expandedUrl ≠ url then some p.expandedUrl else none,
      p.redirectCount, some p.identity.store, some p.identity.externalProductId,
      some p.canonicalUrl⟩

/-- What the session writes, up to the candidate. -/
def retain (t : LinkTables) (linkId : Nat) (url : Text) (p : ProductAddress) (known : Bool) :
    LinkTables :=
  { t with
    items :=
      if known then t.items
      else ProcessedItemRepository.record t.items p.identity (env.sha256 p.canonicalUrl)
    links := SourceMessageLinkRepository.setOutcome t.links linkId (productOutcome url p known) }

/-! ## What settling a link does -/

section Settle

variable {env} {t t' : LinkTables} {linkId : Nat} {i : ProductIdentity}

/-- Attaching a link changes no item. -/
theorem attachCandidate_cases (h : attachCandidate env t linkId i = .ok t') :
    t'.items = t.items ∧ (t' = t ∨
      AffiliateCandidateRepository.ensureForLink env.unicode t.links t.candidates linkId
        i.variationKey = .ok (t'.links, t'.candidates)) := by
  unfold attachCandidate at h
  split at h
  · cases hens : AffiliateCandidateRepository.ensureForLink env.unicode t.links t.candidates
        linkId i.variationKey with
    | error e =>
      rw [hens] at h
      cases h
    | ok tables =>
      rw [hens] at h
      obtain rfl := Except.ok.inj h
      exact ⟨rfl, Or.inr rfl⟩
  · obtain rfl := Except.ok.inj h
    exact ⟨rfl, Or.inl rfl⟩

/-- **A product has the canonical address of its identity.** -/
theorem isOutcome_canonicalized {url expandedUrl : Text} {n : Nat} {p : ProductAddress}
    (h : canonicalized env url expandedUrl n = .inr p) :
    p.identity.IsOutcome env.unicode p.canonicalUrl := by
  unfold canonicalized at h
  cases hid : (canonicalizeStoreUrl env.unicode expandedUrl).externalProductId with
  | none =>
    dsimp only at h
    split at h
    · next hid' _ =>
      rw [hid] at hid'
      cases hid'
    · cases h
  | some externalId =>
    obtain ⟨store, parts, base, variation, -, -, -, hresult⟩ :=
      exists_parts_of_recognized env.unicode hid
    rw [hresult] at h
    obtain rfl := Sum.inr.inj h
    exact ⟨expandedUrl, hresult⟩

/-- A link without a product is done, and has no canonical address. -/
theorem refused_canonicalized {url expandedUrl : Text} {n : Nat} {o : LinkOutcome}
    (h : canonicalized env url expandedUrl n = .inl o) :
    o.state ≠ .received ∧ o.state ≠ .pendingAffiliate ∧ o.canonicalUrl = none := by
  unfold canonicalized at h
  cases hid : (canonicalizeStoreUrl env.unicode expandedUrl).externalProductId with
  | none =>
    obtain ⟨hpending, hreceived, hcanonical⟩ := refused_of_externalProductId env.unicode hid
    dsimp only at h
    split at h
    · cases h
    · obtain rfl := Sum.inl.inj h
      exact ⟨hreceived, hpending, hcanonical⟩
  | some externalId =>
    obtain ⟨store, parts, base, variation, -, -, -, hresult⟩ :=
      exists_parts_of_recognized env.unicode hid
    rw [hresult] at h
    cases h

theorem resolvedTo_productOutcome {p : ProductAddress}
    (h : p.identity.IsOutcome env.unicode p.canonicalUrl) (url : Text) (known : Bool) :
    (productOutcome url p known).columns.ResolvedTo env.unicode p.identity := by
  cases known with
  | true => exact ⟨rfl, rfl, p.canonicalUrl, rfl, h⟩
  | false => exact ⟨rfl, rfl, p.canonicalUrl, rfl, h⟩

theorem productOutcome_ne_received (url : Text) (p : ProductAddress) (known : Bool) :
    (productOutcome url p known).state ≠ .received := by
  cases known with
  | true => exact RelayLinkState.noConfusion
  | false => exact RelayLinkState.noConfusion

theorem exists_item_of_knows {items : ProcessedItems} {p : ProductAddress}
    (h : knows env items p = true) :
    ∃ k item, items.get? k = some item ∧ item.identity = p.identity := by
  obtain ⟨⟨k, item⟩, hfind, -⟩ := (Option.any_eq_true _ _).1 h
  obtain ⟨hget, hidentity⟩ := ProcessedItemRepository.find_eq_some hfind
  exact ⟨k, item, hget, hidentity⟩

end Settle

/-! ## The system -/

/-- Where an attempt at a message stands. -/
inductive Attempt
  /-- There is none. -/
  | none
  /-- Before the next link, or, with no link left, before `complete`. -/
  | linking (rest : List ExtractedLink)
  /-- A link is taken in and is being expanded. -/
  | inLink (linkId : Nat) (link : ExtractedLink) (rest : List ExtractedLink)
  /-- The link is one of a product, and it was read whether the product is known. -/
  | found (linkId : Nat) (link : ExtractedLink) (rest : List ExtractedLink) (p : ProductAddress)
      (known : Bool)
  deriving DecidableEq

def Attempt.linkId? : Attempt → Option Nat
  | .inLink linkId _ _ => some linkId
  | .found linkId _ _ _ _ => some linkId
  | _ => Option.none

/-- The tables, and the attempts at the messages. -/
structure LinkWorld where
  tables : LinkTables
  attempts : Nat → Attempt

/-- What can happen next. -/
inductive LinkAction
  /-- `process` claimed message `m` and read its links. -/
  | begin' (m : Nat) (links : List ExtractedLink)
  /-- `_process_link` takes the next link of message `m` in. -/
  | receive (m : Nat)
  /-- The address of the link is expanded; a link without a product is settled. -/
  | settle (m : Nat) (answer : Expansion)
  /-- The outcome of the link of a product is written. -/
  | record (m : Nat)
  /-- `process` ended: all links are done, an error was caught, or it died. -/
  | stop (m : Nat)
  /-- `backfill_store`. -/
  | backfill (store : Store) (limit : Int)
  deriving DecidableEq

/-- The world after message `m` moved on to `a` and left the tables `t`. -/
def LinkWorld.after (w : LinkWorld) (m : Nat) (t : LinkTables) (a : Attempt) : LinkWorld :=
  ⟨t, Function.update w.attempts m a⟩

theorem LinkWorld.after_self (w : LinkWorld) (m : Nat) (t : LinkTables) (a : Attempt) :
    (w.after m t a).attempts m = a := Function.update_self _ _ _

theorem LinkWorld.after_ne (w : LinkWorld) {m m' : Nat} (t : LinkTables) (a : Attempt)
    (h : m' ≠ m) : (w.after m t a).attempts m' = w.attempts m' := Function.update_of_ne h _ _

/-- Taking a link in. -/
def LinkWorld.received (w : LinkWorld) (m : Nat) (link : ExtractedLink)
    (rest : List ExtractedLink) : LinkWorld :=
  let (links, linkId, row) :=
    SourceMessageLinkRepository.recordReceived w.tables.links m link (env.sha256 link.url)
  w.after m { w.tables with links := links }
    (if row.state = .received then .inLink linkId link rest else .linking rest)

/-- A link without a product has its outcome written. -/
def LinkWorld.refused (w : LinkWorld) (m linkId : Nat) (rest : List ExtractedLink)
    (o : LinkOutcome) : LinkWorld :=
  w.after m { w.tables with
    links := SourceMessageLinkRepository.setOutcome w.tables.links linkId o } (.linking rest)

/-- Settling a link, up to the writes of a product; an exception ends the attempt. -/
def LinkWorld.settled (w : LinkWorld) (m linkId : Nat) (link : ExtractedLink)
    (rest : List ExtractedLink) (answer : Expansion) : LinkWorld :=
  match expandLink env cfg link.url answer with
  | .raises _ => w.after m w.tables .none
  | .outcome o => w.refused m linkId rest o
  | .canonicalize expandedUrl redirectCount =>
    match canonicalized env link.url expandedUrl redirectCount with
    | .inl o => w.refused m linkId rest o
    | .inr p => w.after m w.tables (.found linkId link rest p (knows env w.tables.items p))

/-- Writing the outcome of the link of a product; an exception ends the attempt and leaves the
tables alone. -/
def LinkWorld.recorded (w : LinkWorld) (m linkId : Nat) (link : ExtractedLink)
    (rest : List ExtractedLink) (p : ProductAddress) (known : Bool) : LinkWorld :=
  match attachCandidate env (retain env w.tables linkId link.url p known) linkId p.identity with
  | .ok t => w.after m t (.linking rest)
  | .error _ => w.after m w.tables .none

/-- `backfill_store`; an exception leaves the tables alone. -/
def LinkTables.backfill (t : LinkTables) (store : Store) (limit : Int) : LinkTables :=
  match AffiliateCandidateRepository.backfillStore env.unicode t.links t.candidates store limit with
  | .ok (links, candidates, _) => { t with links := links, candidates := candidates }
  | .error _ => t

def linkStep (w : LinkWorld) : LinkAction → Option LinkWorld
  | .begin' m links =>
    if w.attempts m = .none then some (w.after m w.tables (.linking links)) else none
  | .receive m =>
    match w.attempts m with
    | .linking (link :: rest) => some (w.received env m link rest)
    | _ => none
  | .settle m answer =>
    match w.attempts m with
    | .inLink linkId link rest => some (w.settled env cfg m linkId link rest answer)
    | _ => none
  | .record m =>
    match w.attempts m with
    | .found linkId link rest p known => some (w.recorded env m linkId link rest p known)
    | _ => none
  | .stop m => if w.attempts m ≠ .none then some (w.after m w.tables .none) else none
  | .backfill store limit => some { w with tables := w.tables.backfill env store limit }

/-- The relay and the backfill, from the databases on that `init` allows. -/
def linkSystem (init : LinkTables → Prop) : TransitionSystem LinkWorld LinkAction where
  init w := init w.tables ∧ ∀ m, w.attempts m = .none
  step := linkStep env cfg

/-! ## What a step does -/

section Steps

variable {env cfg} {w w' : LinkWorld}

/-- An address that is not canonicalized has no product. -/
theorem expandLink_outcome {url : Text} {answer : Expansion} {o : LinkOutcome}
    (h : expandLink env cfg url answer = .outcome o) :
    o.state ≠ .received ∧ o.state ≠ .pendingAffiliate ∧ o.canonicalUrl = none := by
  have hdone : ∀ {state reason}, state ≠ RelayLinkState.received → state ≠ .pendingAffiliate →
      Verdict.outcome ⟨state, reason, none, 0, none, none, none⟩ = Verdict.outcome o →
      o.state ≠ .received ∧ o.state ≠ .pendingAffiliate ∧ o.canonicalUrl = none := by
    intro state reason hreceived hpending heq
    rw [← Verdict.outcome.inj heq]
    exact ⟨hreceived, hpending, rfl⟩
  unfold expandLink at h
  split at h
  · split at h
    · cases answer with
      | refused code => exact hdone (by decide) (by decide) h
      | resolved url n => cases h
      | transient code => cases h
      | raised => cases h
    · exact hdone (by decide) (by decide) h
  · split at h
    · exact hdone (by decide) (by decide) h
    · split at h
      · cases answer with
        | refused code => exact hdone (by decide) (by decide) h
        | resolved url n => cases h
        | transient code => cases h
        | raised => cases h
      · split at h
        · cases h
        · exact hdone (by decide) (by decide) h

/-- The ways a step can change the world. -/
inductive LinkChange (env : LinkEnvironment) (w : LinkWorld) : LinkAction → LinkWorld → Prop
  /-- An attempt begins or ends; the tables stay. -/
  | attempt {act : LinkAction} (m : Nat) (a : Attempt) (ha : a.linkId? = none) :
      LinkChange env w act (w.after m w.tables a)
  /-- A link is taken in. -/
  | receive {act : LinkAction} (m : Nat) (link : ExtractedLink) (rest : List ExtractedLink) :
      LinkChange env w act (w.received env m link rest)
  /-- A link turns out to be of no product. -/
  | refuse {act : LinkAction} (m id : Nat) (rest : List ExtractedLink) (o : LinkOutcome)
      (hm : (w.attempts m).linkId? = some id) (hreceived : o.state ≠ .received)
      (hpending : o.state ≠ .pendingAffiliate) (hcanonical : o.canonicalUrl = none) :
      LinkChange env w act (w.refused m id rest o)
  /-- A link turns out to be of a product, which is known or not. -/
  | find {act : LinkAction} (m id : Nat) (link : ExtractedLink) (rest : List ExtractedLink)
      (p : ProductAddress) (hm : (w.attempts m).linkId? = some id)
      (hp : p.identity.IsOutcome env.unicode p.canonicalUrl) :
      LinkChange env w act
        (w.after m w.tables (.found id link rest p (knows env w.tables.items p)))
  /-- The outcome of the link of a product is written. -/
  | record (m id : Nat) (link : ExtractedLink) (rest : List ExtractedLink) (p : ProductAddress)
      (known : Bool) (t : LinkTables) (hm : w.attempts m = .found id link rest p known)
      (hattach : attachCandidate env (retain env w.tables id link.url p known) id p.identity =
        .ok t) :
      LinkChange env w (.record m) (w.after m t (.linking rest))
  /-- The backfill runs. -/
  | backfill (store : Store) (limit : Int) :
      LinkChange env w (.backfill store limit)
        { w with tables := w.tables.backfill env store limit }

/-- **What a step does.** -/
theorem linkStep_change {a : LinkAction} (h : linkStep env cfg w a = some w') :
    LinkChange env w a w' := by
  cases a with
  | begin' m links =>
    simp only [linkStep] at h
    split at h
    · obtain rfl := Option.some.inj h
      exact .attempt m _ rfl
    · cases h
  | receive m =>
    simp only [linkStep] at h
    split at h
    · next link rest hm =>
      obtain rfl := Option.some.inj h
      exact .receive m link rest
    · cases h
  | settle m answer =>
    simp only [linkStep] at h
    split at h
    · next id link rest hm =>
      have hid : (w.attempts m).linkId? = some id := congrArg Attempt.linkId? hm
      obtain rfl := Option.some.inj h
      unfold LinkWorld.settled
      split
      · exact .attempt m _ rfl
      · next o ho =>
        obtain ⟨hreceived, hpending, hcanonical⟩ := expandLink_outcome ho
        exact .refuse m id rest o hid hreceived hpending hcanonical
      · next expandedUrl n hexpand =>
        split
        · next o ho =>
          obtain ⟨hreceived, hpending, hcanonical⟩ := refused_canonicalized ho
          exact .refuse m id rest o hid hreceived hpending hcanonical
        · next p hp => exact .find m id link rest p hid (isOutcome_canonicalized hp)
    · cases h
  | record m =>
    simp only [linkStep] at h
    split at h
    · next id link rest p known hm =>
      obtain rfl := Option.some.inj h
      unfold LinkWorld.recorded
      split
      · next t ht => exact .record m id link rest p known t hm ht
      · exact .attempt m _ rfl
    · cases h
  | stop m =>
    simp only [linkStep] at h
    split at h
    · obtain rfl := Option.some.inj h
      exact .attempt m _ rfl
    · cases h
  | backfill store limit =>
    obtain rfl := Option.some.inj h
    exact .backfill store limit

end Steps

/-! ## Messages and outcomes -/

/-- The message and the outcome of a link. -/
def LinkTables.columnsAt (t : LinkTables) (id : Nat) : Option (Nat × OutcomeColumns) :=
  (t.links.get? id).map SourceMessageLinkModel.columns

section Columns

variable {env} {w w' : LinkWorld} {t t' : LinkTables}

theorem columnsAt_eq_some {id : Nat} {c : Nat × OutcomeColumns} :
    t.columnsAt id = some c ↔ ∃ r, t.links.get? id = some r ∧ r.columns = c :=
  Option.map_eq_some_iff

theorem columnsAt_setOutcome (links : SourceMessageLinkModels) (items : ProcessedItems)
    (candidates : AffiliateCandidates) (id : Nat) (o : LinkOutcome) (j : Nat) :
    LinkTables.columnsAt ⟨SourceMessageLinkRepository.setOutcome links id o, items, candidates⟩ j =
      ((links.get? j).map SourceMessageLinkModel.columns).map fun c =>
        if j = id then (c.1, o.columns) else c := by
  unfold LinkTables.columnsAt
  rw [SourceMessageLinkRepository.get?_setOutcome, Option.map_map, Option.map_map]
  congr 1
  funext r
  by_cases hj : j = id
  · simp [hj, SourceMessageLinkModel.columns, SourceMessageLinkModel.withOutcome,
      SourceMessageLinkModel.outcome, LinkOutcome.columns]
  · simp [hj]

theorem columnsAt_attachCandidate {linkId : Nat} {i : ProductIdentity}
    (h : attachCandidate env t linkId i = .ok t') (j : Nat) : t'.columnsAt j = t.columnsAt j := by
  obtain ⟨-, rfl | hens⟩ := attachCandidate_cases h
  · rfl
  · exact AffiliateCandidateRepository.columns_ensureForLink hens j

theorem columnsAt_backfill (store : Store) (limit : Int) (j : Nat) :
    (t.backfill env store limit).columnsAt j = t.columnsAt j := by
  unfold LinkTables.backfill
  split
  · next links candidates n h =>
    exact AffiliateCandidateRepository.backfillStore_invariant
      (P := fun s => (s.1.get? j).map SourceMessageLinkModel.columns = t.columnsAt j) h rfl
      fun id _ s s' hs hens =>
        (AffiliateCandidateRepository.columns_ensureForLink hens j).trans hs
  · rfl

theorem distinct_backfill (h : AffiliateCandidateRepository.Distinct t.candidates) (store : Store)
    (limit : Int) :
    AffiliateCandidateRepository.Distinct (t.backfill env store limit).candidates := by
  unfold LinkTables.backfill
  split
  · next links candidates n hback =>
    exact AffiliateCandidateRepository.backfillStore_invariant
      (P := fun s => AffiliateCandidateRepository.Distinct s.2) hback h
      fun id _ s s' hs hens => hs.ensureForLink hens
  · exact h

theorem items_backfill (store : Store) (limit : Int) :
    (t.backfill env store limit).items = t.items := by
  unfold LinkTables.backfill
  split
  · rfl
  · rfl

end Columns

/-! ## Links in flight -/

/-- The link an attempt is in has no outcome yet. -/
def InFlight (w : LinkWorld) : Prop :=
  ∀ m id, (w.attempts m).linkId? = some id →
    ∃ o, w.tables.columnsAt id = some (m, o) ∧ o.state = .received

/-- The tables with the outcome of one link changed. -/
def Replaces (t t' : LinkTables) (id m : Nat) (o : OutcomeColumns) : Prop :=
  ∀ j, t'.columnsAt j = if j = id then some (m, o) else t.columnsAt j

section InFlight

variable {env} {w w' : LinkWorld} {t t' : LinkTables} {id m : Nat}

theorem Replaces.cases {o : OutcomeColumns} (h : Replaces t t' id m o) {j m' : Nat}
    {o' : OutcomeColumns} (hj : t'.columnsAt j = some (m', o')) :
    (j = id ∧ o' = o) ∨ (j ≠ id ∧ t.columnsAt j = some (m', o')) := by
  rw [h j] at hj
  split at hj
  · next heq => exact Or.inl ⟨heq, (Prod.mk.inj (Option.some.inj hj)).2.symm⟩
  · next hne => exact Or.inr ⟨hne, hj⟩

/-- Settling the link an attempt is in replaces its outcome. -/
theorem InFlight.replaces (hflight : InFlight w) {o : LinkOutcome}
    (hm : (w.attempts m).linkId? = some id)
    (hlinks : t.links = SourceMessageLinkRepository.setOutcome w.tables.links id o) :
    Replaces w.tables t id m o.columns := by
  obtain ⟨o₀, ho₀, -⟩ := hflight m id hm
  intro j
  have hcolumns : t.columnsAt j = (w.tables.columnsAt j).map fun c =>
      if j = id then (c.1, o.columns) else c := by
    rw [show t.columnsAt j = LinkTables.columnsAt ⟨t.links, t.items, t.candidates⟩ j from rfl,
      hlinks]
    exact columnsAt_setOutcome _ _ _ _ _ _
  rw [hcolumns]
  split
  · next heq =>
    rw [heq, ho₀, Option.map_some]
  · exact congrFun Option.map_id _

theorem InFlight.replaces_record (hflight : InFlight w) {link : ExtractedLink}
    {rest : List ExtractedLink} {p : ProductAddress} {known : Bool}
    (hm : w.attempts m = .found id link rest p known)
    (hattach : attachCandidate env (retain env w.tables id link.url p known) id p.identity =
      .ok t) :
    Replaces w.tables t id m (productOutcome link.url p known).columns := fun j =>
  (columnsAt_attachCandidate hattach j).trans
    (hflight.replaces (t := retain env w.tables id link.url p known)
      (congrArg Attempt.linkId? hm) rfl j)

/-- Another message's link stays in flight when this one's is settled. -/
theorem InFlight.after (hflight : InFlight w) {rest : List ExtractedLink}
    {o : OutcomeColumns} (hm : (w.attempts m).linkId? = some id)
    (h : Replaces w.tables t id m o) : InFlight (w.after m t (.linking rest)) := by
  intro m' id' hm'
  have hne : m' ≠ m := by
    rintro rfl
    rw [LinkWorld.after_self] at hm'
    cases hm'
  rw [LinkWorld.after_ne _ _ _ hne] at hm'
  obtain ⟨o', ho', hreceived⟩ := hflight m' id' hm'
  obtain ⟨o₀, ho₀, -⟩ := hflight m id hm
  refine ⟨o', ?_, hreceived⟩
  show t.columnsAt id' = _
  rw [h id', if_neg]
  · exact ho'
  · rintro rfl
    rw [ho₀] at ho'
    exact hne (Prod.mk.inj (Option.some.inj ho')).1.symm

/-- A link taken in: its row is there, and the other rows are as before. -/
theorem columnsAt_received {link : ExtractedLink} {hash : Text} {links : SourceMessageLinkModels}
    {r : SourceMessageLinkModel}
    (h : SourceMessageLinkRepository.recordReceived t.links m link hash = (links, id, r)) :
    LinkTables.columnsAt ⟨links, t.items, t.candidates⟩ id = some (m, r.outcome) ∧
      (links = t.links ∨ t.columnsAt id = none ∧ r.state = .received ∧ r.canonicalUrl = none ∧
        Replaces t ⟨links, t.items, t.candidates⟩ id m r.outcome) := by
  obtain ⟨rfl, hget, hcases⟩ := SourceMessageLinkRepository.recordReceived_cases h
  refine ⟨columnsAt_eq_some.2 ⟨r, hget, rfl⟩, hcases.imp (fun h => h) ?_⟩
  rintro ⟨rfl, hr, rfl⟩
  refine ⟨?_, by rw [hr]; rfl, by rw [hr]; rfl, fun j => ?_⟩
  · show (t.links.get? t.links.freshId).map _ = none
    rw [get?_freshId]
    rfl
  · show ((t.links.put t.links.freshId r).get? j).map _ = _
    rw [get?_put]
    split
    · rfl
    · rfl

theorem columnsAt_received_keep {link : ExtractedLink} {hash : Text}
    {links : SourceMessageLinkModels} {r : SourceMessageLinkModel}
    (h : SourceMessageLinkRepository.recordReceived t.links m link hash = (links, id, r))
    {j : Nat} {c : Nat × OutcomeColumns} (hj : t.columnsAt j = some c) :
    LinkTables.columnsAt ⟨links, t.items, t.candidates⟩ j = some c := by
  rcases (columnsAt_received h).2 with rfl | ⟨hnone, -, -, hrep⟩
  · exact hj
  · rw [hrep j, if_neg, hj]
    rintro rfl
    rw [hnone] at hj
    cases hj

/-- **Every step keeps it.** -/
theorem InFlight.step (hflight : InFlight w) {a : LinkAction} (h : LinkChange env w a w') :
    InFlight w' := by
  cases h with
  | attempt m b hb =>
    intro m' id hm'
    rcases eq_or_ne m' m with rfl | hne
    · rw [LinkWorld.after_self, hb] at hm'
      cases hm'
    · rw [LinkWorld.after_ne _ _ _ hne] at hm'
      exact hflight m' id hm'
  | receive m link rest =>
    unfold LinkWorld.received
    cases hrec : SourceMessageLinkRepository.recordReceived w.tables.links m link
        (env.sha256 link.url) with
    | mk links row =>
    obtain ⟨id, r⟩ := row
    intro m' id' hm'
    rcases eq_or_ne m' m with rfl | hne
    · rw [LinkWorld.after_self] at hm'
      split at hm'
      · next hreceived =>
        cases hm'
        exact ⟨r.outcome, (columnsAt_received hrec).1, hreceived⟩
      · cases hm'
    · rw [LinkWorld.after_ne _ _ _ hne] at hm'
      obtain ⟨o', ho', hreceived⟩ := hflight m' id' hm'
      exact ⟨o', columnsAt_received_keep hrec ho', hreceived⟩
  | refuse m id rest o hm => exact hflight.after hm (hflight.replaces hm rfl)
  | find m id link rest p hm hp =>
    intro m' id' hm'
    rcases eq_or_ne m' m with rfl | hne
    · rw [LinkWorld.after_self] at hm'
      exact hflight m' id' (hm.trans hm')
    · rw [LinkWorld.after_ne _ _ _ hne] at hm'
      exact hflight m' id' hm'
  | record m id link rest p known t hm hattach =>
    exact hflight.after (congrArg Attempt.linkId? hm) (hflight.replaces_record hm hattach)
  | backfill store limit =>
    intro m id hm
    obtain ⟨o, ho, hreceived⟩ := hflight m id hm
    exact ⟨o, (columnsAt_backfill store limit id).trans ho, hreceived⟩

end InFlight

end Relay
end PromoBot
