import PromoBot.Affiliate.Transitions
import PromoBot.Lib.SingleFlight

/-!
# No link is asked for twice on an unknown outcome

The generations of the history are the slots of `Lib.SingleFlight`: `prepare` begins a slot, to
hand the request to the network fires it, and only `confirm` settles it. What conflicts is not
only what has the same identity.  The identity of a coin link depends on the secret of its
service, so under a new secret the same link has another identity; `check_key_rotation`
therefore takes any two coin identities of different secrets as one, and so does
`FlightKey.Conflicts`.

Of HMAC nothing is needed but that different keys give different fingerprints.

## What is at stake

A generation that was sent and not answered may have made a link, and a second request would
make another one for the same message, which nobody could tell apart from the first.  So the
program never asks again unless it knows what came of it.  The rows alone do not tell: a sweep
closes what has expired, a call that was cancelled closes its own generations, and a row which
is *failed* looks the same whether its request had left or not.  `World.wire` is the list of
the requests which were handed to the network.  It belongs to no row, and only a theorem about
it says anything about requests.

## How the invariant is divided

`Exclusive` is about the slots alone and belongs to the library.  `Tracked` adds whose slots
they are: a call holds the generations it has prepared, those which are sent and those which
are not, and no two calls hold the same one (`apart`).  A batch is many slots at once, with
different identities, so it fires them one by one (`flights_append`).

`Asks.conflicts` is where the two services meet: two preparations for one source are in each
other's way whatever the settings they were made under.  For a canonical link that is its
identity. For a coin link the identity under another secret is another one, and then the
fingerprints of the secrets differ, which is the only place where the hypothesis on HMAC is
used.
-/

namespace PromoBot
namespace Conversion

open Fallible SqlTable SingleFlight
open AffiliateLinkHistoryRepository (Evolves HasPreparation Preparation PreparedAs QuietChange)

variable {env : Environment} {w w' : World} {act : Action} {t t' : Generations}
  {wire : List (Source × Nat)}

/-! ## Generations as slots -/

/-- What a generation keeps others out by. -/
structure FlightKey where
  scope : HistoryScope
  identity : IdentityKey
  keyFingerprint : Option Text

/-- Two keys may stand for one request: they have one identity, or they are of coin links
under different secrets. -/
def FlightKey.Conflicts (k k' : FlightKey) : Prop :=
  k.scope = k'.scope ∧ (k.identity = k'.identity ∨
    (∃ f, k.identity = .coin f) ∧ (∃ f, k'.identity = .coin f) ∧
      k.keyFingerprint ≠ k'.keyFingerprint)

theorem FlightKey.Conflicts.symm (k k' : FlightKey) (h : k.Conflicts k') : k'.Conflicts k := by
  obtain ⟨hscope, hidentity | ⟨hk, hk', hkey⟩⟩ := h
  · exact ⟨hscope.symm, Or.inl hidentity.symm⟩
  · exact ⟨hscope.symm, Or.inr ⟨hk', hk, hkey.symm⟩⟩

def flightKey (r : Generation) : FlightKey := ⟨r.scope, r.identityKey, r.keyFingerprint⟩

/-- The key a generation is prepared under. -/
def preparedKey (q : Preparation) : FlightKey := ⟨q.scope, q.identityKey, some q.keyFingerprint⟩

/-- How far a generation has come; `sent` says that its request was handed to the
network. -/
def flight (sent : Bool) (r : Generation) : Option (FlightKey × Phase) :=
  match r.state with
  | .requested => none
  | .confirmed => some (flightKey r, .settled)
  | _ => some (flightKey r, if sent then .fired else .ready)

def flights (t : Generations) (wire : List (Source × Nat)) : Slots Nat FlightKey :=
  fun j => (t.get? j).bind (flight (decide (j ∈ wire.map Prod.snd)))

/-- The generations of a world, as slots. -/
def World.flights (w : World) : Slots Nat FlightKey := Conversion.flights w.db.history w.wire

theorem flight_of_blocking {sent : Bool} {r : Generation} (h : r.Blocking) :
    flight sent r = some (flightKey r, if sent then .fired else .ready) := by
  obtain ⟨hrequested, hconfirmed⟩ := Generation.blocking_iff.1 h
  unfold flight
  split
  · next hstate => exact absurd hstate hrequested
  · next hstate => exact absurd hstate hconfirmed
  · rfl

theorem flight_eq_some {sent : Bool} {r : Generation} {k : FlightKey} {phase : Phase}
    (h : flight sent r = some (k, phase)) :
    k = flightKey r ∧ r.state ≠ .requested ∧ (phase = .settled ∨ r.Blocking) := by
  unfold flight at h
  split at h
  · cases h
  · next hstate =>
    obtain ⟨rfl, rfl⟩ := Prod.mk.inj (Option.some.inj h)
    exact ⟨rfl, by rw [hstate]; nofun, Or.inl rfl⟩
  · next hrequested hconfirmed =>
    obtain ⟨rfl, -⟩ := Prod.mk.inj (Option.some.inj h)
    exact ⟨rfl, hrequested, Or.inr (Generation.blocking_iff.2 ⟨hrequested, hconfirmed⟩)⟩

theorem flights_eq_some {j : Nat} {k : FlightKey} {phase : Phase}
    (h : flights t wire j = some (k, phase)) : ∃ r, t.get? j = some r ∧
      flight (decide (j ∈ wire.map Prod.snd)) r = some (k, phase) :=
  Option.bind_eq_some_iff.1 h

theorem flights_of_get? {j : Nat} {r : Generation} (h : t.get? j = some r) :
    flights t wire j = flight (decide (j ∈ wire.map Prod.snd)) r := by
  rw [flights, h, Option.bind_some]

theorem World.flights_of_blocking {j : Nat} {r : Generation} (hr : w.db.history.get? j = some r)
    (hblocking : r.Blocking) :
    ∃ phase, w.flights j = some (flightKey r, phase) ∧ phase ≠ .settled := by
  refine ⟨_, (flights_of_get? hr).trans (flight_of_blocking hblocking), ?_⟩
  split <;> nofun

/-! ## What the repository does to the slots -/

theorem flight_quiet {sent : Bool} {o o' : Option Generation} (h : QuietChange o o') :
    o'.bind (flight sent) = o.bind (flight sent) := by
  cases h with
  | keep | request => rfl
  | start now hstate => simp [flight, AffiliateLinkHistoryRepository.started, flightKey, hstate]
  | @close now state code r hopen hstate =>
    have hclosed := AffiliateLinkHistoryRepository.closed_state now code (r := r) hstate
    rw [Option.bind_some, Option.bind_some, flight_of_blocking hopen.blocking,
      flight_of_blocking (Generation.blocking_of_closing hclosed)]
    rfl

theorem flights_quiet (h : ∀ j, Relation.ReflTransGen QuietChange (t.get? j) (t'.get? j)) :
    flights t' wire = flights t wire := by
  funext j
  have hkeep : ∀ o, Relation.ReflTransGen QuietChange (t.get? j) o →
      o.bind (flight (decide (j ∈ wire.map Prod.snd))) = flights t wire j := by
    intro o hrun
    induction hrun with
    | refl => rfl
    | tail _ hstep ih => exact (flight_quiet hstep).trans ih
  exact hkeep _ (h j)

/-- A generation on its way is in the history, prepared. -/
def Wired (t : Generations) (wire : List (Source × Nat)) : Prop :=
  ∀ j ∈ wire.map Prod.snd, flights t wire j ≠ none

/-- `prepare` opens the slot of its row. -/
theorem flights_prepare {q : Preparation} {request : Option Nat} {id : Nat}
    (hwired : Wired t wire)
    (h : AffiliateLinkHistoryRepository.prepare t q request = .ok (t', id)) :
    flights t wire id = none ∧
      flights t' wire = Function.update (flights t wire) id (some (preparedKey q, .ready)) := by
  obtain ⟨-, base, hscope, hkey, hbase, rfl⟩ := AffiliateLinkHistoryRepository.prepare_eq_ok h
  have hnone : flights t wire id = none := by
    rcases hbase with ⟨hid, -⟩ | ⟨hid, hstate⟩
    · rw [flights, hid, Option.bind_none]
    · rw [flights_of_get? hid, flight, hstate]
  have hunsent : id ∉ wire.map Prod.snd := fun hmem => hwired id hmem hnone
  refine ⟨hnone, funext fun j => ?_⟩
  rcases eq_or_ne j id with rfl | hj
  · rw [Function.update_self, flights_of_get? (get?_put_self t j _), decide_eq_false hunsent,
      flight_of_blocking (by simp [Generation.Blocking, Generation.blockingStates,
        AffiliateLinkHistoryRepository.prepared])]
    simp [flightKey, preparedKey, AffiliateLinkHistoryRepository.prepared, hscope, hkey]
  · rw [Function.update_of_ne hj, flights, get?_put_ne t _ hj]
    rfl

/-- What blocks nothing has only settled slots in its way. -/
theorem settled_of_conflicts {q : Preparation}
    (hplatform : ∀ j r, t.get? j = some r → r.platform = "aliexpress")
    (hfree : ∀ j r, t.get? j = some r → ¬ Generation.Blocks q.scope q.identityKey r)
    (hrotation : ∀ f, q.identityKey = .coin f → ∀ j r, t.get? j = some r →
      ¬ AffiliateLinkHistoryRepository.OtherKey q.scope q.keyFingerprint r)
    {j : Nat} {k : FlightKey} {phase : Phase} (hj : flights t wire j = some (k, phase))
    (hconflict : (preparedKey q).Conflicts k) : phase = .settled := by
  obtain ⟨r, hr, hflight⟩ := flights_eq_some hj
  obtain ⟨rfl, -, hphase | hblocking⟩ := flight_eq_some hflight
  · exact hphase
  obtain ⟨hscope, hidentity | ⟨⟨f, hf⟩, ⟨f', hf'⟩, hkey⟩⟩ := hconflict
  · exact absurd ⟨hscope.symm, hplatform j r hr, hidentity.symm, hblocking⟩ (hfree j r hr)
  · exact absurd ⟨hscope.symm, ⟨f', hf'⟩, hblocking, hkey.symm⟩ (hrotation f hf j r hr)

/-- `confirm` settles the slot of its row. -/
theorem flights_confirm {id : Nat} {c : AffiliateLinkHistoryRepository.Confirmation}
    {k : FlightKey} {phase : Phase} (hid : flights t wire id = some (k, phase))
    (h : AffiliateLinkHistoryRepository.confirm t id c = some t') :
    flights t' wire = Function.update (flights t wire) id (some (k, .settled)) := by
  obtain ⟨⟨r, hr, -, hr'⟩, hother⟩ := get?_of_updateOne h
  rw [flights_of_get? hr] at hid
  obtain ⟨rfl, -, -⟩ := flight_eq_some hid
  funext j
  rcases eq_or_ne j id with rfl | hj
  · rw [Function.update_self, flights_of_get? hr']
    rfl
  · rw [Function.update_of_ne hj, flights, hother j hj]
    rfl

/-! ## Whole batches -/

section Batches

variable {service : Service} {source : SourceMessage} {messageId uuid ordinal : Nat}
  {startedAt now : Instant} {request : Option Nat} {targetUnchanged : Bool} {db db' : Db}

theorem Wired.update {j : Nat} {k : FlightKey} {phase : Phase} (h : Wired t wire)
    (ht : flights t' wire = Function.update (flights t wire) j (some (k, phase))) :
    Wired t' wire := by
  intro i hi
  rw [ht]
  rcases eq_or_ne i j with rfl | hij
  · rw [Function.update_self]
    nofun
  · rw [Function.update_of_ne hij]
    exact h i hi

theorem begins_claimAll {contexts : List LinkContext} {claims : List Claim}
    (hplatform : ∀ j r, db.history.get? j = some r → r.platform = "aliexpress")
    (hwired : Wired db.history wire)
    (h : claimAll env service source messageId startedAt uuid request targetUnchanged db ordinal
      contexts = .ok (db', claims)) :
    Begins FlightKey.Conflicts (flights db.history wire) (flights db'.history wire)
      (claims.map Claim.generationId) := by
  induction contexts generalizing db ordinal claims with
  | nil =>
    obtain ⟨rfl, rfl⟩ := Prod.mk.inj (Except.ok.inj h)
    exact .nil _
  | cons context contexts ih =>
    obtain ⟨⟨db₁, claim⟩, hone, h⟩ := bind_eq_ok.1 h
    obtain ⟨⟨db₂, claims⟩, hall, h⟩ := bind_eq_ok.1 h
    obtain ⟨rfl, rfl⟩ := Prod.mk.inj (Except.ok.inj h)
    obtain ⟨_, _, history, id, -, -, hprepare, rfl, rfl⟩ := claimOne_eq_ok hone
    obtain ⟨hnone, hupdate⟩ := flights_prepare hwired hprepare
    have hevolves : Evolves db.history history :=
      .of_change (AffiliateLinkHistoryRepository.change_prepare hprepare)
    refine .cons hnone ?_ hupdate (ih (hevolves.platform hplatform) (hwired.update hupdate) hall)
    intro j k phase hj hconflict
    exact settled_of_conflicts hplatform
      (AffiliateLinkHistoryRepository.prepare_eq_ok hprepare).1 nofun hj hconflict

theorem run_storeAll {itemCount : Nat} {l : List (Claim × Text)}
    {stored : List (Identity × AffiliateLinkProof)}
    (hnodup : (l.map fun e => e.1.generationId).Nodup)
    (hfired : ∀ e ∈ l, ∃ k, flights db.history wire e.1.generationId = some (k, .fired))
    (h : storeAll env service now itemCount db l = .ok (db', stored)) :
    Run FlightKey.Conflicts (flights db.history wire) (flights db'.history wire) ∧
      ∀ j, j ∉ l.map (fun e => e.1.generationId) →
        flights db'.history wire j = flights db.history wire j := by
  induction l generalizing db stored with
  | nil =>
    obtain ⟨rfl, -⟩ := Prod.mk.inj (Except.ok.inj h)
    exact ⟨.refl, fun _ _ => rfl⟩
  | cons e l ih =>
    obtain ⟨⟨db₁, one⟩, hone, h⟩ := bind_eq_ok.1 h
    obtain ⟨⟨db₂, others⟩, hall, h⟩ := bind_eq_ok.1 h
    obtain ⟨rfl, rfl⟩ := Prod.mk.inj (Except.ok.inj h)
    obtain ⟨_, history, -, hconfirm, -, hhistory, -⟩ := storeOne_eq_ok hone
    obtain ⟨⟨k, hk⟩, hfired⟩ := List.forall_mem_cons.1 hfired
    obtain ⟨hne, hnodup⟩ := List.nodup_cons.1 hnodup
    have hupdate := flights_confirm hk hconfirm
    rw [← hhistory] at hupdate
    have hkeep : ∀ j, j ≠ e.1.generationId →
        flights db₁.history wire j = flights db.history wire j := by
      intro j hj
      rw [hupdate, Function.update_of_ne hj]
    have hfired₁ : ∀ e' ∈ l, ∃ k, flights db₁.history wire e'.1.generationId =
        some (k, .fired) := by
      intro e' he'
      obtain ⟨k', hk'⟩ := hfired e' he'
      have hne' : e'.1.generationId ≠ e.1.generationId :=
        fun heq => hne (List.mem_map.2 ⟨e', he', heq⟩)
      exact ⟨k', (hkeep _ hne').trans hk'⟩
    obtain ⟨hrun, hframe⟩ := ih hnodup hfired₁ hall
    refine ⟨.head ?_ hrun, fun j hj => ?_⟩
    · rw [hupdate]
      exact .settle hk
    · obtain ⟨hje, hjl⟩ := not_or.1 (mt List.mem_cons.2 hj)
      rw [hframe j hjl, hkeep j hje]

end Batches

/-- To hand a request to the network fires the slots of its generations. -/
theorem flights_append {entries : List (Source × Nat)} (hnodup : (entries.map Prod.snd).Nodup)
    (hready : ∀ e ∈ entries, ∃ k, flights t wire e.2 = some (k, .ready)) :
    Run FlightKey.Conflicts (flights t wire) (flights t (entries ++ wire)) ∧
      (∀ e ∈ entries, ∃ k, flights t (entries ++ wire) e.2 = some (k, .fired)) ∧
      ∀ j, j ∉ entries.map Prod.snd → flights t (entries ++ wire) j = flights t wire j := by
  induction entries with
  | nil => exact ⟨.refl, nofun, fun _ _ => rfl⟩
  | cons e entries ih =>
    obtain ⟨⟨k, hk⟩, hready⟩ := List.forall_mem_cons.1 hready
    obtain ⟨hne, hnodup⟩ := List.nodup_cons.1 hnodup
    obtain ⟨hrun, hfired, hframe⟩ := ih hnodup hready
    have hstill : flights t (entries ++ wire) e.2 = some (k, .ready) := by
      rw [hframe e.2 hne, hk]
    have hupdate : flights t (e :: entries ++ wire) =
        Function.update (flights t (entries ++ wire)) e.2 (some (k, .fired)) := by
      funext j
      rcases eq_or_ne j e.2 with rfl | hj
      · obtain ⟨r, hr, hflight⟩ := flights_eq_some hk
        obtain ⟨rfl, -, hphase | hblocking⟩ := flight_eq_some hflight
        · cases hphase
        rw [Function.update_self, flights_of_get? hr, flight_of_blocking hblocking]
        simp
      · have hmem : j ∈ (e :: entries ++ wire).map Prod.snd ↔
            j ∈ (entries ++ wire).map Prod.snd := by
          rw [List.cons_append, List.map_cons, List.mem_cons, or_iff_right hj]
        rw [Function.update_of_ne hj, flights, flights, decide_eq_decide.2 hmem]
    refine ⟨hrun.tail ?_, List.forall_mem_cons.2 ⟨⟨k, ?_⟩, fun e' he' => ?_⟩, fun j hj => ?_⟩
    · rw [hupdate]
      exact .fire hstill
    · rw [hupdate, Function.update_self]
    · obtain ⟨k', hk'⟩ := hfired e' he'
      have hne' : e'.2 ≠ e.2 := fun heq => hne (List.mem_map.2 ⟨e', he', heq⟩)
      exact ⟨k', by rw [hupdate, Function.update_of_ne hne', hk']⟩
    · obtain ⟨hje, hjl⟩ := not_or.1 (mt List.mem_cons.2 hj)
      rw [hupdate, Function.update_of_ne hje, hframe j hjl]

/-! ## What the calls hold -/

def Asks (env : Environment) : Source → Preparation → Prop
  | .candidate id, q => q.scope = env.scope ∧ q.identityKey = .canonical id
  | .coin url, q => q.scope = env.scope ∧ ∃ secret,
    q.identityKey = .coin (env.fingerprint secret url "aliexpress-coin-shadow-input-v1".toList) ∧
      q.keyFingerprint = env.keyFingerprint secret

/-- **Two preparations for one source are in each other's way**, whatever the settings they
were made under. -/
theorem Asks.conflicts (hhmac : ∀ k k' m, env.hmac k m = env.hmac k' m → k = k')
    {source : Source} {q q' : Preparation} (h : Asks env source q) (h' : Asks env source q') :
    (preparedKey q).Conflicts (preparedKey q') := by
  cases source with
  | candidate id => exact ⟨h.1.trans h'.1.symm, Or.inl (h.2.trans h'.2.symm)⟩
  | coin url =>
    obtain ⟨hscope, secret, hidentity, hkey⟩ := h
    obtain ⟨hscope', secret', hidentity', hkey'⟩ := h'
    refine ⟨hscope.trans hscope'.symm, ?_⟩
    by_cases hsecret : secret = secret'
    · exact Or.inl (by rw [preparedKey, preparedKey, hidentity, hidentity', hsecret])
    · refine Or.inr ⟨⟨_, hidentity⟩, ⟨_, hidentity'⟩, fun hfingerprints => hsecret ?_⟩
      rw [preparedKey, preparedKey, hkey, hkey', Option.some.injEq] at hfingerprints
      exact hhmac _ _ _ (hhmac _ _ _ hfingerprints)

theorem Work.Held.asks {work : Work} (h : work.Held env t) :
    ∀ e ∈ work.entries, ∃ q, Asks env e.1 q ∧ HasPreparation t e.2 q := by
  intro e he
  cases work with
  | batch job =>
    obtain ⟨claim, hclaim, rfl⟩ := List.mem_map.1 he
    obtain ⟨uuid, ordinal, hprepared⟩ := h claim hclaim
    exact ⟨_, ⟨rfl, rfl⟩, hprepared⟩
  | coin job =>
    obtain rfl := List.mem_singleton.1 he
    obtain ⟨hscope, startedAt, uuid, origin, hprepared⟩ := h
    exact ⟨_, ⟨hscope.symm, job.service.appSecret, rfl, rfl⟩, hprepared⟩

theorem flights_of_hasPreparation {id : Nat} {q : Preparation} {k : FlightKey} {phase : Phase}
    (h : HasPreparation t id q) (hid : flights t wire id = some (k, phase)) :
    k = preparedKey q := by
  obtain ⟨r, hr, -, hscope, hidentity, hkey, -, -⟩ := h
  rw [flights_of_get? hr] at hid
  obtain ⟨rfl, -, -⟩ := flight_eq_some hid
  rw [flightKey, preparedKey, hscope, hidentity, hkey]

/-- The generations of a call whose request was not handed to the network yet. -/
def Call.unsent : Call → List (Source × Nat)
  | .claimed work | .started work => work.entries
  | _ => []

/-- The generations of a call whose request was handed to the network, with the outcome
open. -/
def Call.sent : Call → List (Source × Nat)
  | .inFlight work | .answered work _ => work.entries
  | _ => []

/-- All of them. -/
def Call.ids (c : Call) : List Nat := (c.unsent ++ c.sent).map Prod.snd

theorem Call.Bare.unsent_eq_nil {c : Call} (h : c.Bare) : c.unsent = [] := by
  cases c <;> first | rfl | exact h.elim

theorem Call.Bare.sent_eq_nil {c : Call} (h : c.Bare) : c.sent = [] := by
  cases c <;> first | rfl | exact h.elim

/-- **The invariant.**  The slots exclude each other; every call has slots of its own,
which fired exactly if the call has handed over its request; and every request that was
handed over belongs to a slot which fired for its source. -/
structure Tracked (env : Environment) (w : World) : Prop where
  held : Held env w
  platform : ∀ j r, w.db.history.get? j = some r → r.platform = "aliexpress"
  exclusive : Exclusive FlightKey.Conflicts w.flights
  unsent : ∀ p, ∀ e ∈ (w.calls p).unsent, ∃ k, w.flights e.2 = some (k, .ready)
  sent : ∀ p, ∀ e ∈ (w.calls p).sent, ∃ k, w.flights e.2 = some (k, .fired)
  nodup : ∀ p, (w.calls p).ids.Nodup
  apart : ∀ p q, p ≠ q → ∀ j ∈ (w.calls p).ids, j ∉ (w.calls q).ids
  wired : ∀ e ∈ w.wire, (∃ k, Fired w.flights e.2 k) ∧
    ∃ q, Asks env e.1 q ∧ HasPreparation w.db.history e.2 q

theorem Tracked.taken (h : Tracked env w) {p j : Nat} (hj : j ∈ (w.calls p).ids) :
    w.flights j ≠ none := by
  obtain ⟨e, he, rfl⟩ := List.mem_map.1 hj
  rcases List.mem_append.1 he with he | he
  · obtain ⟨k, hk⟩ := h.unsent p e he
    simp [hk]
  · obtain ⟨k, hk⟩ := h.sent p e he
    simp [hk]

theorem Tracked.wired_flights (h : Tracked env w) : Wired w.db.history w.wire := by
  intro j hj
  obtain ⟨e, he, rfl⟩ := List.mem_map.1 hj
  obtain ⟨⟨k, phase, hphase, -⟩, -⟩ := h.wired e he
  rw [World.flights] at hphase
  rw [hphase]
  nofun

/-- A call moves on, and touches no slots but its own and free ones. -/
theorem Tracked.move {p : Nat} {c : Call} (h : Tracked env w) (htr : Transition env w act w')
    (hcalls : w'.calls = Function.update w.calls p c)
    (hrun : Run FlightKey.Conflicts w.flights w'.flights)
    (hframe : ∀ j, j ∉ (w.calls p).ids → w.flights j ≠ none → w'.flights j = w.flights j)
    (hunsent : ∀ e ∈ c.unsent, ∃ k, w'.flights e.2 = some (k, .ready))
    (hsent : ∀ e ∈ c.sent, ∃ k, w'.flights e.2 = some (k, .fired))
    (hnodup : c.ids.Nodup) (hids : ∀ j ∈ c.ids, j ∈ (w.calls p).ids ∨ w.flights j = none)
    (hwire : ∀ e ∈ w'.wire, e ∈ w.wire ∨ (∃ k, Fired w'.flights e.2 k) ∧
      ∃ q, Asks env e.1 q ∧ HasPreparation w'.db.history e.2 q) : Tracked env w' where
  held := htr.held h.held
  platform := htr.evolves.platform h.platform
  exclusive := hrun.exclusive FlightKey.Conflicts.symm h.exclusive
  unsent q e he := by
    rw [hcalls] at he
    rcases eq_or_ne q p with rfl | hqp
    · rw [Function.update_self] at he
      exact hunsent e he
    · rw [Function.update_of_ne hqp] at he
      have hmem : e.2 ∈ (w.calls q).ids := List.mem_map_of_mem (List.mem_append_left _ he)
      obtain ⟨k, hk⟩ := h.unsent q e he
      exact ⟨k, (hframe e.2 (h.apart q p hqp _ hmem) (h.taken hmem)).trans hk⟩
  sent q e he := by
    rw [hcalls] at he
    rcases eq_or_ne q p with rfl | hqp
    · rw [Function.update_self] at he
      exact hsent e he
    · rw [Function.update_of_ne hqp] at he
      have hmem : e.2 ∈ (w.calls q).ids := List.mem_map_of_mem (List.mem_append_right _ he)
      obtain ⟨k, hk⟩ := h.sent q e he
      exact ⟨k, (hframe e.2 (h.apart q p hqp _ hmem) (h.taken hmem)).trans hk⟩
  nodup q := by
    rw [hcalls]
    rcases eq_or_ne q p with rfl | hqp
    · rwa [Function.update_self]
    · rw [Function.update_of_ne hqp]
      exact h.nodup q
  apart q r hqr j hj hj' := by
    have other : ∀ {q}, q ≠ p → j ∈ (w.calls q).ids → j ∉ c.ids := by
      intro q hqp hq hc
      rcases hids j hc with hp | hnone
      · exact h.apart q p hqp j hq hp
      · exact h.taken hq hnone
    rw [hcalls] at hj hj'
    rcases eq_or_ne q p with rfl | hqp
    · rw [Function.update_self] at hj
      rw [Function.update_of_ne hqr.symm] at hj'
      exact other hqr.symm hj' hj
    · rw [Function.update_of_ne hqp] at hj
      rcases eq_or_ne r p with rfl | hrp
      · rw [Function.update_self] at hj'
        exact other hqp hj hj'
      · rw [Function.update_of_ne hrp] at hj'
        exact h.apart q r hqr j hj hj'
  wired e he := by
    rcases hwire e he with hold | hnew
    · obtain ⟨⟨k, hk⟩, q, hasks, hprepared⟩ := h.wired e hold
      exact ⟨⟨k, hrun.fired hk⟩, q, hasks, htr.evolves.hasPreparation hprepared⟩
    · exact hnew

/-- A step which leaves the slots alone; the call keeps what it holds, or drops it. -/
theorem Tracked.quiet {p : Nat} {c : Call} (h : Tracked env w) (htr : Transition env w act w')
    (hcalls : w'.calls = Function.update w.calls p c) (hflights : w'.flights = w.flights)
    (hwire : w'.wire = w.wire) (hunsent : c.unsent.Sublist (w.calls p).unsent)
    (hsent : c.sent.Sublist (w.calls p).sent) : Tracked env w' := by
  have hids : c.ids.Sublist (w.calls p).ids := (hunsent.append hsent).map Prod.snd
  refine h.move htr hcalls (hflights ▸ .refl) (fun j _ _ => congrFun hflights j) ?_ ?_
    ((h.nodup p).sublist hids) (fun j hj => Or.inl (hids.subset hj)) (fun e he => Or.inl ?_)
  · intro e he
    obtain ⟨k, hk⟩ := h.unsent p e (hunsent.subset he)
    exact ⟨k, (congrFun hflights e.2).trans hk⟩
  · intro e he
    obtain ⟨k, hk⟩ := h.sent p e (hsent.subset he)
    exact ⟨k, (congrFun hflights e.2).trans hk⟩
  · rwa [hwire] at he

/-- A call opens slots for what it has prepared. -/
theorem Tracked.begins {p : Nat} {work : Work} {l : List Nat} (h : Tracked env w)
    (htr : Transition env w act w')
    (hcalls : w'.calls = Function.update w.calls p (.claimed work))
    (hwire : w'.wire = w.wire) (hl : work.entries.map Prod.snd = l)
    (hbegins : Begins FlightKey.Conflicts w.flights w'.flights l) : Tracked env w' := by
  have hids : (Call.claimed work).ids = l := by
    show (work.entries ++ []).map Prod.snd = l
    rw [List.append_nil, hl]
  refine h.move htr hcalls hbegins.run ?_ ?_ nofun (hids ▸ hbegins.nodup) ?_
    (fun e he => Or.inl (hwire ▸ he))
  · intro j _ hj
    exact hbegins.frame j fun hmem => hj (hbegins.fresh j hmem)
  · intro e he
    exact hbegins.ready e.2 (hl ▸ List.mem_map_of_mem he)
  · intro j hj
    exact Or.inr (hbegins.fresh j (hids ▸ hj))

/-- **The step lemma.** -/
theorem Tracked.step (h : Tracked env w) (hstep : step env w act = some w') : Tracked env w' := by
  have htr := transition_of_step hstep
  have quiet : ∀ {p : Nat} {c : Call}, w'.calls = Function.update w.calls p c →
      w'.flights = w.flights → w'.wire = w.wire → c.unsent.Sublist (w.calls p).unsent →
      c.sent.Sublist (w.calls p).sent → Tracked env w' :=
    fun hcalls hflights hwire => h.quiet htr hcalls hflights hwire
  have bare : ∀ {p : Nat} {c : Call}, c.Bare → w'.calls = Function.update w.calls p c →
      w'.flights = w.flights → w'.wire = w.wire → Tracked env w' := by
    intro p c hc hcalls hflights hwire
    refine quiet hcalls hflights hwire ?_ ?_
    · rw [hc.unsent_eq_nil]
      exact List.nil_sublist _
    · rw [hc.sent_eq_nil]
      exact List.nil_sublist _
  have same : w.calls = Function.update w.calls 0 (w.calls 0) :=
    (Function.update_eq_self 0 w.calls).symm
  cases transition_of_step hstep with
  | @tables _ db _ hhistory =>
    refine quiet same ?_ rfl (List.Sublist.refl _) (List.Sublist.refl _)
    rw [World.flights, World.flights]
    exact congrArg (Conversion.flights · w.wire) hhistory
  | candidate => exact quiet same rfl rfl (List.Sublist.refl _) (List.Sublist.refl _)
  | request hrequest =>
    refine quiet same (flights_quiet fun j => .single ?_) rfl (List.Sublist.refl _)
      (List.Sublist.refl _)
    exact AffiliateLinkHistoryRepository.quiet_requestLegacyGeneration hrequest j
  | recover now =>
    refine quiet same (flights_quiet fun j => .single ?_) rfl (List.Sublist.refl _)
      (List.Sublist.refl _)
    exact AffiliateLinkHistoryRepository.quiet_recover env.scope now j
  | recoverFirst now _ =>
    refine bare ?_ rfl (flights_quiet fun j => .single ?_) rfl
    · exact trivial
    · exact AffiliateLinkHistoryRepository.quiet_recover env.scope now j
  | @select p service messageId uuid request startedAt targetUnchanged db job hp hselect =>
    obtain ⟨_, _, _, _, claims, -, -, -, -, hclaims, hjob⟩ := select_eq_ok hselect
    have hbegins := begins_claimAll h.platform h.wired_flights hclaims
    have hids : (Work.batch job).entries.map Prod.snd = claims.map Claim.generationId := by
      rw [hjob, Work.entries, List.map_map]
      rfl
    by_cases hnil : job.claims = []
    · have hclaims' : claims = [] := by
        rw [hjob] at hnil
        exact hnil
      subst hclaims'
      rw [if_pos hnil] at htr ⊢
      refine h.move htr rfl hbegins.run ?_ nofun nofun List.nodup_nil nofun fun e he => Or.inl he
      exact fun j _ _ => hbegins.frame j List.not_mem_nil
    · rw [if_neg hnil] at htr ⊢
      exact h.begins htr rfl rfl hids hbegins
  | @prepareCoin p service sourceValue uuid request startedAt targetUnchanged origin history job
      hp hscope hprepare =>
    obtain ⟨hrotation, hprepare, -⟩ := prepareCoin_eq_ok hprepare
    obtain ⟨hnone, hupdate⟩ := flights_prepare h.wired_flights hprepare
    refine h.begins htr rfl rfl rfl (.cons hnone ?_ hupdate (.nil _))
    intro j k phase hj hconflict
    exact settled_of_conflicts h.platform
      (AffiliateLinkHistoryRepository.prepare_eq_ok hprepare).1 (fun _ _ => hrotation) hj hconflict
  | @startCall p work now history hp hstart =>
    refine quiet rfl (flights_quiet fun j => ?_) rfl ?_ (List.nil_sublist _)
    · exact AffiliateLinkHistoryRepository.quiet_startCall hstart j
    · rw [hp]
      exact List.Sublist.refl _
  | @send p work hp =>
    have hunsent := h.unsent p
    have hnodup := h.nodup p
    have hids : (w.calls p).ids = work.entries.map Prod.snd := by
      rw [hp]
      show (work.entries ++ []).map Prod.snd = _
      rw [List.append_nil]
    rw [hids] at hnodup
    rw [hp] at hunsent
    obtain ⟨hrun, hfired, hframe⟩ := flights_append hnodup hunsent
    refine h.move htr rfl hrun ?_ nofun hfired hnodup (fun j hj => Or.inl (hids ▸ hj)) ?_
    · intro j hj _
      exact hframe j (hids ▸ hj)
    · intro e he
      rcases List.mem_append.1 he with hnew | hold
      · obtain ⟨k, hk⟩ := hfired e hnew
        exact Or.inr ⟨⟨k, _, hk, nofun⟩, (h.held p work (by rw [hp]; rfl)).asks e hnew⟩
      · exact Or.inl hold
  | @answer p work answer hp =>
    refine quiet rfl rfl rfl (List.nil_sublist _) ?_
    rw [hp]
    exact List.Sublist.refl _
  | @store p job answer now db stored hp hstore =>
    obtain ⟨mappings, hmappings, hstore⟩ := storeAnswer_eq_ok hstore
    have hids : (w.calls p).ids = job.claims.map Claim.generationId := by
      rw [hp]
      show (Work.batch job).entries.map Prod.snd = _
      rw [Work.entries, List.map_map]
      rfl
    have hsent := h.sent p
    rw [hp] at hsent
    have hzip : (job.claims.zip (mappings.map
        LinkGenerate.PromotionLinkMapping.promotionLink)).map Prod.fst = job.claims := by
      have hlength := (LinkGenerate.parseLinkGenerate_ok hmappings).length_eq
      exact List.map_fst_zip (by simpa using hlength.le)
    have hnodup := h.nodup p
    rw [hids, ← hzip, List.map_map] at hnodup
    have hfired : ∀ e ∈ job.claims.zip (mappings.map
        LinkGenerate.PromotionLinkMapping.promotionLink),
        ∃ k, w.flights e.1.generationId = some (k, .fired) := by
      intro e he
      have hclaim : e.1 ∈ job.claims := by
        rw [← hzip]
        exact List.mem_map_of_mem he
      exact hsent (.candidate e.1.context.candidateId, e.1.generationId)
        (List.mem_map.2 ⟨e.1, hclaim, rfl⟩)
    obtain ⟨hrun, hframe⟩ := run_storeAll hnodup hfired hstore
    refine h.move htr rfl hrun ?_ nofun nofun List.nodup_nil nofun fun e he => Or.inl he
    intro j hj _
    refine hframe j ?_
    rw [hids, ← hzip, List.map_map] at hj
    exact hj
  | @storeCoin _ p job answer c history hp hconfirm =>
    have hsent := h.sent p
    rw [hp] at hsent
    obtain ⟨k, hk⟩ := hsent (.coin job.sourceValue, job.generationId) List.mem_cons_self
    have hupdate := flights_confirm hk hconfirm
    refine h.move htr rfl (.single ?_) ?_ nofun nofun List.nodup_nil nofun fun e he => Or.inl he
    · show Step _ _ (Conversion.flights history w.wire)
      rw [hupdate]
      exact .settle hk
    · intro j hj _
      have hne : j ≠ job.generationId := by
        rintro rfl
        rw [hp] at hj
        exact hj List.mem_cons_self
      show Conversion.flights history w.wire j = _
      rw [hupdate, Function.update_of_ne hne]
      rfl
  | @close p work failure now history c hp hfail hc =>
    refine bare hc rfl (flights_quiet fun j => .single ?_) rfl
    exact AffiliateLinkHistoryRepository.quiet_fail hfail j
  | release | finish | fail =>
    exact quiet rfl rfl rfl (List.nil_sublist _) (List.nil_sublist _)
  | move hc => exact bare hc rfl rfl rfl

/-! ## Requests -/

theorem tracked_of_reachable {start : Db → Prop} (hstart : ∀ db, start db → db.history = ∅)
    (h : (system env start).Reachable w) : Tracked env w := by
  refine h.invariant (P := Tracked env) ?_ fun w act w' hw hstep => hw.step hstep
  rintro w ⟨hinit, hcalls, hwire⟩
  have hempty : ∀ j, w.db.history.get? j = none := fun j => by
    rw [hstart w.db hinit, get?_empty]
  have hflights : ∀ j, w.flights j = none := fun j => by
    rw [World.flights, flights, hempty, Option.bind_none]
  refine ⟨fun p work hp => ?_, fun j r hr => ?_, fun i j k k' phase phase' hi => ?_,
    fun p e he => ?_, fun p e he => ?_, fun p => ?_, fun p q _ j hj => ?_, fun e he => ?_⟩
  · rw [hcalls] at hp
    cases hp
  · rw [hempty] at hr
    cases hr
  · rw [hflights] at hi
    cases hi
  · rw [hcalls] at he
    cases he
  · rw [hcalls] at he
    cases he
  · rw [hcalls]
    exact List.nodup_nil
  · rw [hcalls] at hj
    cases hj
  · rw [hwire] at he
    cases he

/-- Only `send` hands anything to the network. -/
theorem Transition.sends (h : Transition env w act w') :
    w'.wire = w.wire ∨
      ∃ p work, w.calls p = .started work ∧ w'.wire = work.entries ++ w.wire := by
  cases h with
  | @send p work hp => exact Or.inr ⟨p, work, hp, rfl⟩
  | _ => exact Or.inl rfl

/-- The generation was prepared for this source, under whatever settings. -/
def MadeFor (env : Environment) (source : Source) (r : Generation) : Prop :=
  ∃ q, Asks env source q ∧ PreparedAs q r

/-- The slot of a generation which may still be sent finds every other generation for its
source confirmed. -/
theorem Tracked.confirmed (h : Tracked env w)
    (hhmac : ∀ k k' m, env.hmac k m = env.hmac k' m → k = k') {p : Nat} {e : Source × Nat}
    (he : e ∈ (w.calls p).unsent) {work : Work} (hwork : (w.calls p).work = some work)
    (hmem : e ∈ work.entries) {j : Nat} {r : Generation} (hr : w.db.history.get? j = some r)
    (hmade : MadeFor env e.1 r) (hj : j ≠ e.2) : r.state = .confirmed := by
  obtain ⟨k, hk⟩ := h.unsent p e he
  obtain ⟨q, hasks, hprepared⟩ := (h.held p work hwork).asks e hmem
  obtain ⟨q', hasks', hprepared'⟩ := hmade
  obtain rfl := flights_of_hasPreparation hprepared hk
  by_contra hconfirmed
  obtain ⟨phase, hj', hphase⟩ :=
    World.flights_of_blocking hr (Generation.blocking_iff.2 ⟨hprepared'.state, hconfirmed⟩)
  have hkey := flights_of_hasPreparation ⟨r, hr, hprepared'⟩ hj'
  rw [hkey] at hj'
  exact hphase (h.exclusive.settled hk hj' hj.symm (hasks.conflicts hhmac hasks'))

/-- **No link is asked for again on an unknown outcome.**  Of the generations of one
identity at most one is not confirmed.  And whenever requests are handed to the network,
they are for different sources; whatever was requested for one of these before was
confirmed, and so was every other generation ever prepared for it, under any secret and
any tracking id. -/
theorem no_request_on_unknown_outcome
    (hhmac : ∀ k k' m, env.hmac k m = env.hmac k' m → k = k')
    (h : (system env fun db => db.history = ∅).Reachable w) :
    (∀ i j r r', w.db.history.get? i = some r → w.db.history.get? j = some r' →
      r.Blocking → r'.Blocking → r.scope = r'.scope → r.identityKey = r'.identityKey → i = j) ∧
    (∀ e ∈ w.wire, ∃ r, w.db.history.get? e.2 = some r ∧ MadeFor env e.1 r) ∧
    ∀ act w', step env w act = some w' → ∃ new, w'.wire = new ++ w.wire ∧
      (new.map Prod.fst).Nodup ∧ ∀ e ∈ new,
        (∀ e₀ ∈ w.wire, e₀.1 = e.1 →
          ∃ r, w.db.history.get? e₀.2 = some r ∧ r.state = .confirmed) ∧
        ∀ j r, w.db.history.get? j = some r → MadeFor env e.1 r → j ≠ e.2 →
          r.state = .confirmed := by
  have htracked := tracked_of_reachable (fun _ hdb => hdb) h
  refine ⟨fun i j r r' hi hj hr hr' hscope hidentity => ?_, fun e he => ?_,
    fun act w' hstep => ?_⟩
  · obtain ⟨phase, hi, hphase⟩ := World.flights_of_blocking hi hr
    obtain ⟨phase', hj, hphase'⟩ := World.flights_of_blocking hj hr'
    exact htracked.exclusive i j _ _ _ _ hi hj hphase hphase' ⟨hscope, Or.inl hidentity⟩
  · obtain ⟨-, q, hasks, r, hr, hprepared⟩ := htracked.wired e he
    exact ⟨r, hr, q, hasks, hprepared⟩
  rcases (transition_of_step hstep).sends with hwire | ⟨p, work, hp, hwire⟩
  · exact ⟨[], hwire, List.nodup_nil, nofun⟩
  have hunsent : (w.calls p).unsent = work.entries := by
    rw [hp]
    rfl
  have hwork : (w.calls p).work = some work := by
    rw [hp]
    rfl
  have hothers : ∀ e ∈ work.entries, ∀ j r, w.db.history.get? j = some r → MadeFor env e.1 r →
      j ≠ e.2 → r.state = .confirmed :=
    fun e he j r hr hmade hj => htracked.confirmed hhmac (hunsent ▸ he) hwork he hr hmade hj
  refine ⟨work.entries, hwire, ?_, fun e he => ⟨fun e₀ he₀ hsource => ?_, hothers e he⟩⟩
  · have hnodup := htracked.nodup p
    rw [Call.ids, hunsent, List.map_append] at hnodup
    have hentries : work.entries.Nodup := hnodup.of_append_left.of_map _
    refine hentries.map_on fun e he e' he' hsource => ?_
    by_contra hne
    have hids : e'.2 ≠ e.2 := fun heq => hne (Prod.ext hsource heq.symm)
    obtain ⟨q, hasks, r, hr, hprepared⟩ := (htracked.held p work hwork).asks e' he'
    obtain ⟨k, hk⟩ := htracked.unsent p e' (hunsent ▸ he')
    have hconfirmed := hothers e he e'.2 r hr ⟨q, hsource ▸ hasks, hprepared⟩ hids
    rw [World.flights, flights_of_get? hr, flight, hconfirmed] at hk
    cases hk
  · obtain ⟨⟨k₀, hfired⟩, q, hasks, r, hr, hprepared⟩ := htracked.wired e₀ he₀
    obtain ⟨k, hk⟩ := htracked.unsent p e (hunsent ▸ he)
    exact ⟨r, hr, hothers e he e₀.2 r hr ⟨q, hsource ▸ hasks, hprepared⟩
      (hfired.ne_of_ready hk).symm⟩

theorem dropWhile_testHmac (key message : Text) :
    (testHmac key message).dropWhile (· = '0') =
      (message.drop (message.length - 24) ++ '/' :: key).dropWhile (· = '0') := by
  unfold testHmac
  dsimp only
  split
  · exact List.dropWhile_append_of_pos fun c hc => by simp [List.eq_of_mem_replicate hc]
  · rfl

theorem testHmac_injective {key key' message : Text}
    (h : testHmac key message = testHmac key' message) : key = key' := by
  have hdrop := congrArg (List.dropWhile (· = '0')) h
  rw [dropWhile_testHmac, dropWhile_testHmac, List.dropWhile_append, List.dropWhile_append] at hdrop
  split at hdrop
  · exact (List.cons.inj hdrop).2
  · exact (List.cons.inj (List.append_cancel_left hdrop)).2

def oldCoinService : CoinService := ⟨"old".toList, "t1".toList, by decide⟩

/-- The service after its secret and its tracking id were changed. -/
def newCoinService : CoinService := ⟨"new".toList, "t2".toList, by decide⟩

/-- A coin short URL. -/
def coinUrl : Text := "https://s.click.aliexpress.com/e/_abc".toList

/-- A link is asked for, and the call dies before the answer.  Ten minutes later, with
another secret and another tracking id, the same link is to be generated again. -/
def rotated : World := (system (testEnvironment .shadow) fun db => db.history = ∅).endOf
  ⟨⟨∅, ∅, ∅, ∅, ∅⟩, fun _ => .idle, []⟩
  [.begin' 0 (.coin oldCoinService coinUrl none), .recoverFirst 0 0, .prepareCoin 0 7 true none,
    .startCall 0 1, .send 0, .crash 0, .begin' 1 (.coin newCoinService coinUrl none),
    .recoverFirst 1 (minutes 10), .prepareCoin 1 9 true none]

theorem not_requested_again_after_rotation :
    rotated.wire = [(.coin coinUrl, 1)] ∧
      rotated.calls 1 = .rejected "AFFILIATE_HISTORY_GENERATION_UNCERTAIN_BLOCKED" true ∧
      ∀ act w', step (testEnvironment .shadow) rotated act = some w' →
        ∃ new, w'.wire = new ++ rotated.wire ∧ ∀ e ∈ new, e.1 ≠ .coin coinUrl := by
  have hreachable : (system (testEnvironment .shadow) fun db => db.history = ∅).Reachable rotated :=
    ⟨_, ⟨rfl, fun _ => rfl, rfl⟩, TransitionSystem.run_endOf rfl⟩
  have hhmac : ∀ k k' m, (testEnvironment .shadow).hmac k m =
      (testEnvironment .shadow).hmac k' m → k = k' :=
    fun _ _ _ => testHmac_injective
  refine ⟨rfl, rfl, fun act w' hstep => ?_⟩
  obtain ⟨-, -, hsteps⟩ := no_request_on_unknown_outcome hhmac hreachable
  obtain ⟨new, hwire, -, hnew⟩ := hsteps act w' hstep
  refine ⟨new, hwire, fun e he hsource => ?_⟩
  obtain ⟨r, hr, hconfirmed⟩ := (hnew e he).1 (.coin coinUrl, 1) List.mem_cons_self hsource.symm
  have huncertain : (rotated.db.history.get? 1).map Generation.state = some .uncertain := rfl
  rw [hr, Option.map_some, hconfirmed] at huncertain
  cases huncertain

end Conversion
end PromoBot
