import PromoBot.Providers.Transport

/-!
# No call before its record

The log of `Transport` is lawful: every request on the wire was paid for by a `before_send` of
its own, and every request for affiliate links follows the commit of `CALL_STARTED` for its
whole batch.  The invariant behind this says, for each execution, how many charges and requests
it has made in the phase it is in, and, for each audited call, what its two flags say about the
table and the log.

## Four layers

A request for affiliate links passes through the client, the transport, the budget and the
audited call before it is on the wire.  Each is a few lines that await the next one, and each
may raise, be cancelled or be called again after a failure.  The client checks its storage and
builds the request; the transport checks the request, and tries it up to a number of times; the
budget is charged before each attempt; the audited call marks its generations as started and
lets one request through.  The property is about the whole: nothing leaves before the record of
it is committed, nothing leaves twice on one record, and a charge which was refused is followed
by no request until one is granted.

## A log and what it may say

Most of the theorem compares a moment with what was before it, so it is stated on the log.
`Allowed` says of each kind of event what the events before it must be, and `Lawful` that it is
so all along.  The invariant then has to make the next event allowed, whatever phase an
execution is in: `InPhase` has for each phase the numbers of charges, requests and failures so
far, and `Sound` has for each audited call that its flag for *started* means a commit in the
log and its flag for *sent* one request.  The flag for *sent* is set before the request is
awaited and neither is ever taken back, which is what makes an execution safe that is cancelled
at the wrong moment.

Of the parts that are not in the repository nothing is assumed: the network may do anything,
and so may the database at `mark_started`.
-/

namespace PromoBot
namespace Transport

open Fallible LinkGenerate TopRequests AffiliateLinkHistoryRepository Trace

/-! ## Counting -/

/-- A charge of the execution. -/
def Event.isGrant (p : Nat) : Event → Bool
  | .granted q => q = p
  | _ => false

/-- A request of the execution. -/
def Event.isWire (p : Nat) : Event → Bool
  | .wire q _ => q = p
  | _ => false

/-- A failed check of the execution. -/
def Event.isFailure (p : Nat) : Event → Bool
  | .failed q _ => q = p
  | _ => false

/-- A request for affiliate links under the audited call. -/
def Event.isCallWire (env : Env) (c : Nat) : Event → Bool
  | .wire p r => decide (r.IsLinkGenerate ∧ (env.tasks p).call = some c)
  | _ => false

/-- The charges of an execution. -/
def grants (p : Nat) (log : List Event) : Nat := log.countP (Event.isGrant p)

/-- The requests an execution has put on the wire. -/
def wires (p : Nat) (log : List Event) : Nat := log.countP (Event.isWire p)

/-- The failed checks of an execution. -/
def failures (p : Nat) (log : List Event) : Nat := log.countP (Event.isFailure p)

/-- The requests that went out under an audited call. -/
def callWires (env : Env) (c : Nat) (log : List Event) : Nat :=
  log.countP (Event.isCallWire env c)

/-- What an execution has done. -/
structure Tally where
  grants : Nat
  wires : Nat
  failures : Nat

/-- What an execution has done by the log. -/
def tally (p : Nat) (log : List Event) : Tally := ⟨grants p log, wires p log, failures p log⟩

/-- The execution an event is of. -/
def Event.task? : Event → Option Nat
  | .granted p | .failed p _ | .wire p _ => some p
  | .committed _ _ => none

variable {env : Env} {w w' : World} {p : Nat} {log : List Event}

theorem tally_append_ne {e : Event} (h : e.task? ≠ some p) :
    tally p (log ++ [e]) = tally p log := by
  have hnot : e.isGrant p = false ∧ e.isWire p = false ∧ e.isFailure p = false := by
    cases e <;> simp_all [Event.task?, Event.isGrant, Event.isWire, Event.isFailure]
  simp [tally, grants, wires, failures, List.countP_append, hnot]

variable (p log) in
theorem tally_granted :
    tally p (log ++ [.granted p]) = { tally p log with grants := grants p log + 1 } := by
  simp [tally, grants, wires, failures, List.countP_append, Event.isGrant, Event.isWire,
    Event.isFailure]

theorem tally_wire (r : PreparedAliExpressTopRequest) :
    tally p (log ++ [.wire p r]) = { tally p log with wires := wires p log + 1 } := by
  simp [tally, grants, wires, failures, List.countP_append, Event.isGrant, Event.isWire,
    Event.isFailure]

theorem tally_failed (check : Check) :
    tally p (log ++ [.failed p check]) = { tally p log with failures := failures p log + 1 } := by
  simp [tally, grants, wires, failures, List.countP_append, Event.isGrant, Event.isWire,
    Event.isFailure]

/-! ## What is allowed to happen -/

/-- **What an event says about those before it.** -/
def Allowed (env : Env) (pre : List Event) : Event → Prop
  | .granted _ => True
  | .failed p check =>
    ((env.tasks p).entry.Generates → wires p pre = 0) ∧
      (check = .budget → grants p pre = wires p pre)
  | .committed c t => ∀ id ∈ (env.calls c).generationIds, ∃ g, t.get? id = some g ∧
      g.state = .callStarted
  | .wire p r =>
    ((env.tasks p).transport.beforeSend = true → grants p pre = wires p pre + 1) ∧
      wires p pre < (env.tasks p).transport.maxAttempts ∧
      (r.IsLinkGenerate ↔ (env.tasks p).entry.Generates) ∧
      (r.IsLinkGenerate → failures p pre = 0 ∧ ∃ c, (env.tasks p).call = some c ∧
        callWires env c pre = 0 ∧ (∃ t, Event.committed c t ∈ pre) ∧
        r.formPairs.Perm (env.calls c).payload.items)

/-- The request has passed the checks of `execute`. -/
def Admitted (env : Env) (task : Task) (r : PreparedAliExpressTopRequest) : Prop :=
  (r.IsLinkGenerate ↔ task.entry.Generates) ∧
    (r.IsLinkGenerate → task.transport.maxAttempts = 1 ∧
      ∃ c, task.call = some c ∧ Matches r (env.calls c))

/-- The charges of an execution are by `ahead` beyond its requests. -/
def Paid (task : Task) (n : Tally) (ahead : Nat) : Prop :=
  task.transport.beforeSend = true → n.grants = n.wires + ahead

/-- The execution is in an attempt it may make, with a request it may send, and no check of a
request for affiliate links has failed. -/
structure Attempting (env : Env) (task : Task) (n : Tally) (r : PreparedAliExpressTopRequest)
    (attempt : Nat) : Prop where
  le : attempt ≤ task.transport.maxAttempts
  admitted : Admitted env task r
  clean : r.IsLinkGenerate → n.failures = 0

/-- **What an execution has done in each of its phases.** -/
def InPhase (env : Env) (task : Task) (n : Tally) : Phase → Prop
  | .idle | .clientStorage => n = ⟨0, 0, 0⟩
  | .storage r => n = ⟨0, 0, 0⟩ ∧ Admitted env task r
  | .charging r attempt => Attempting env task n r attempt ∧ n.wires < attempt ∧ Paid task n 0
  | .starting r attempt c => Attempting env task n r attempt ∧ n.wires < attempt ∧
      Paid task n 1 ∧ r.IsLinkGenerate ∧ task.call = some c
  | .waiting r attempt => Attempting env task n r attempt ∧ 1 ≤ attempt ∧ n.wires ≤ attempt ∧
      Paid task n 0
  | .sleeping r attempt => Attempting env task n r (attempt + 1) ∧ n.wires ≤ attempt ∧
      Paid task n 0
  | .done _ => True

/-- The record of a call: it was committed for the whole batch, and is there. -/
def Recorded (env : Env) (w : World) (c : Nat) : Prop :=
  (∃ t, Event.committed c t ∈ w.log) ∧
    ∀ id ∈ (env.calls c).generationIds, ∃ g, w.history.get? id = some g ∧ CallMade g

/-- What holds of the log, the flags and the table. -/
structure Sound (env : Env) (w : World) : Prop where
  lawful : Lawful (Allowed env) w.log
  started_of_wireEntered : ∀ c, w.wireEntered c = true → w.started c = true
  recorded : ∀ c, w.started c = true → Recorded env w c
  callWires_eq : ∀ c, w.wireEntered c = false → callWires env c w.log = 0

/-- All but one of the executions are in phase with the log. -/
def OthersInPhase (env : Env) (w : World) (p : Nat) : Prop :=
  ∀ q, q ≠ p → InPhase env (env.tasks q) (tally q w.log) (w.phases q)

/-- **The invariant.** -/
structure Inv (env : Env) (w : World) : Prop where
  sound : Sound env w
  inPhase : ∀ p, InPhase env (env.tasks p) (tally p w.log) (w.phases p)

/-! ## What the parts of a step keep -/

theorem Inv.others (h : Inv env w) (p : Nat) : OthersInPhase env w p := fun q _ => h.inPhase q

theorem Sound.withPhase {phase : Phase} (hsound : Sound env w) (hothers : OthersInPhase env w p)
    (hphase : InPhase env (env.tasks p) (tally p w.log) phase) :
    Inv env (w.withPhase p phase) where
  sound := ⟨hsound.lawful, hsound.started_of_wireEntered, hsound.recorded, hsound.callWires_eq⟩
  inPhase q := by
    show InPhase env (env.tasks q) (tally q w.log) (Function.update w.phases p phase q)
    rcases eq_or_ne q p with rfl | hq
    · rw [Function.update_self]
      exact hphase
    · rw [Function.update_of_ne hq]
      exact hothers q hq

theorem OthersInPhase.logged {e : Event} (h : OthersInPhase env w p)
    (he : ∀ q, q ≠ p → e.task? ≠ some q) : OthersInPhase env (w.logged e) p := by
  intro q hq
  show InPhase env (env.tasks q) (tally q (w.log ++ [e])) (w.phases q)
  rw [tally_append_ne (he q hq)]
  exact h q hq

theorem Recorded.logged {c : Nat} {e : Event} (h : Recorded env w c) :
    Recorded env (w.logged e) c := by
  obtain ⟨⟨t, ht⟩, hrows⟩ := h
  exact ⟨⟨t, List.mem_append_left _ ht⟩, hrows⟩

theorem callWires_append {c : Nat} {e : Event} (h : e.isCallWire env c = false) :
    callWires env c (log ++ [e]) = callWires env c log := by
  rw [callWires, callWires, List.countP_append, List.countP_singleton, h]
  rfl

theorem Sound.logged {e : Event} (h : Sound env w) (hallowed : Allowed env w.log e)
    (he : ∀ c, e.isCallWire env c = false) : Sound env (w.logged e) where
  lawful := h.lawful.concat hallowed
  started_of_wireEntered := h.started_of_wireEntered
  recorded c hc := (h.recorded c hc).logged
  callWires_eq c hc := by
    show callWires env c (w.log ++ [e]) = 0
    rw [callWires_append (he c)]
    exact h.callWires_eq c hc

theorem Sound.evolves {t : Generations} (h : Sound env w) (ht : Evolves w.history t) :
    Sound env { w with history := t } where
  lawful := h.lawful
  started_of_wireEntered := h.started_of_wireEntered
  recorded c hc := ⟨(h.recorded c hc).1, fun id hid => ht.callMade ((h.recorded c hc).2 id hid)⟩
  callWires_eq := h.callWires_eq

/-! ## Starting a call -/

theorem startAudited_eq_ok {t t' : Generations} {call : AuditedGenerationCall} {now : Instant} :
    startAudited t call now = .ok t' ↔
      startCall now t (call.generationIds.zip call.leaseTokens) = some t' ∧
        call.generationIds.length = call.leaseTokens.length := by
  rw [startAudited, bind_eq_ok]
  constructor
  · rintro ⟨t₁, ht₁, h⟩
    obtain ⟨_, hlength, h⟩ := bind_eq_ok.1 h
    obtain rfl := Except.ok.inj h
    exact ⟨orRaise_eq_ok.1 ht₁, check_eq_ok.1 hlength⟩
  · rintro ⟨ht', hlength⟩
    exact ⟨t', orRaise_eq_ok.2 ht', bind_eq_ok.2 ⟨⟨⟩, check_eq_ok.2 hlength, rfl⟩⟩

theorem exists_token {call : AuditedGenerationCall}
    (h : call.generationIds.length = call.leaseTokens.length) {id : Nat}
    (hid : id ∈ call.generationIds) :
    ∃ token, (id, token) ∈ call.generationIds.zip call.leaseTokens := by
  rw [← List.map_fst_zip h.le] at hid
  obtain ⟨⟨id', token⟩, hmem, rfl⟩ := List.mem_map.1 hid
  exact ⟨token, hmem⟩

theorem evolves_startAudited {t t' : Generations} {call : AuditedGenerationCall} {now : Instant}
    (h : startAudited t call now = .ok t') : Evolves t t' :=
  evolves_startCall (startAudited_eq_ok.1 h).1

/-- **A call is started for its whole batch.** -/
theorem callStarted_of_startAudited {t t' : Generations} {call : AuditedGenerationCall}
    {now : Instant} (h : startAudited t call now = .ok t') {id : Nat}
    (hid : id ∈ call.generationIds) :
    ∃ g, t'.get? id = some g ∧ g.state = .callStarted ∧ CallMade g := by
  obtain ⟨hstart, hlength⟩ := startAudited_eq_ok.1 h
  obtain ⟨token, hmem⟩ := exists_token hlength hid
  obtain ⟨r, -, -, hafter⟩ := startCall_eq_some hstart hmem
  exact ⟨_, hafter, rfl, nofun, nofun, nofun⟩

theorem not_recorded_of_startAudited {c : Nat} {t' : Generations} {now : Instant}
    (h : startAudited w.history (env.calls c) now = .ok t') : ¬ Recorded env w c := by
  rintro ⟨-, hrows⟩
  obtain ⟨hstart, hlength⟩ := startAudited_eq_ok.1 h
  obtain ⟨id, hid⟩ := List.exists_mem_of_ne_nil _ (env.calls c).nonempty
  obtain ⟨token, hmem⟩ := exists_token hlength hid
  obtain ⟨r, hr, hprepared, -⟩ := startCall_eq_some hstart hmem
  obtain ⟨g, hg, -, hnot, -⟩ := hrows id hid
  obtain rfl := Option.some.inj (hr.symm.trans hg)
  exact hnot hprepared

/-- `CALL_STARTED` is committed. -/
theorem Sound.commit {c : Nat} {t' : Generations} {now : Instant} (h : Sound env w)
    (hstart : startAudited w.history (env.calls c) now = .ok t') : Sound env (w.commit c t') := by
  have hallowed : Allowed env w.log (.committed c t') := by
    intro id hid
    obtain ⟨g, hg, hstate, -⟩ := callStarted_of_startAudited hstart hid
    exact ⟨g, hg, hstate⟩
  exact (h.logged hallowed fun _ => rfl).evolves (evolves_startAudited hstart)

theorem recorded_commit {c : Nat} {t' : Generations} {now : Instant}
    (hstart : startAudited w.history (env.calls c) now = .ok t') :
    Recorded env (w.commit c t') c := by
  refine ⟨⟨t', List.mem_append_right _ List.mem_cons_self⟩, fun id hid => ?_⟩
  obtain ⟨g, hg, -, hmade⟩ := callStarted_of_startAudited hstart hid
  exact ⟨g, hg, hmade⟩

/-- The call is marked as started. -/
theorem Sound.markStarted {c : Nat} (h : Sound env w) (hc : Recorded env w c) :
    Sound env { w with started := Function.update w.started c true } where
  lawful := h.lawful
  started_of_wireEntered c' hc' := by
    show Function.update w.started c true c' = true
    rcases eq_or_ne c' c with rfl | hne
    · rw [Function.update_self]
    · rw [Function.update_of_ne hne]
      exact h.started_of_wireEntered c' hc'
  recorded c' hc' := by
    rcases eq_or_ne c' c with rfl | hne
    · exact hc
    · change Function.update w.started c true c' = true at hc'
      rw [Function.update_of_ne hne] at hc'
      exact h.recorded c' hc'
  callWires_eq := h.callWires_eq

theorem tally_commit {c : Nat} {t : Generations} :
    tally p (w.commit c t).log = tally p w.log := tally_append_ne nofun

theorem OthersInPhase.commit {c : Nat} {t : Generations} (h : OthersInPhase env w p) :
    OthersInPhase env (w.commit c t) p := by
  intro q hq
  rw [tally_commit]
  exact h q hq

theorem Inv.commit {c : Nat} {t : Generations} {now : Instant} (h : Inv env w)
    (hstart : startAudited w.history (env.calls c) now = .ok t) : Inv env (w.commit c t) where
  sound := h.sound.commit hstart
  inPhase p := by
    rw [tally_commit]
    exact h.inPhase p

/-! ## Sending -/

theorem perm_of_matches {r : PreparedAliExpressTopRequest} {call : AuditedGenerationCall}
    (h : Matches r call) : r.formPairs.Perm call.payload.items :=
  PyDict.perm_of_sameDict call.payload.nodup h.1 h.2

theorem allowed_wire {r : PreparedAliExpressTopRequest} {attempt : Nat}
    (hattempt : Attempting env (env.tasks p) (tally p log) r attempt)
    (hlt : wires p log < attempt) (hpaid : Paid (env.tasks p) (tally p log) 1)
    (hcall : r.IsLinkGenerate → ∃ c, (env.tasks p).call = some c ∧ callWires env c log = 0 ∧
      ∃ t, Event.committed c t ∈ log) : Allowed env log (.wire p r) := by
  refine ⟨hpaid, hlt.trans_le hattempt.le, hattempt.admitted.1, fun hr => ?_⟩
  obtain ⟨c, hc, hwires, hcommitted⟩ := hcall hr
  obtain ⟨-, c', hc', hmatches⟩ := hattempt.admitted.2 hr
  obtain rfl := Option.some.inj (hc.symm.trans hc')
  exact ⟨hattempt.clean hr, c, hc, hwires, hcommitted, perm_of_matches hmatches⟩

theorem inPhase_waiting {r : PreparedAliExpressTopRequest} {attempt : Nat}
    (hattempt : Attempting env (env.tasks p) (tally p log) r attempt)
    (hlt : wires p log < attempt) (hpaid : Paid (env.tasks p) (tally p log) 1) :
    InPhase env (env.tasks p) (tally p (log ++ [.wire p r])) (.waiting r attempt) := by
  rw [tally_wire]
  exact ⟨⟨hattempt.le, hattempt.admitted, hattempt.clean⟩, Nat.one_le_of_lt hlt, hlt, hpaid⟩

theorem Sound.send {r : PreparedAliExpressTopRequest} {attempt : Nat} (hsound : Sound env w)
    (hothers : OthersInPhase env w p) (hr : ¬ r.IsLinkGenerate)
    (hattempt : Attempting env (env.tasks p) (tally p w.log) r attempt)
    (hlt : wires p w.log < attempt) (hpaid : Paid (env.tasks p) (tally p w.log) 1) :
    Inv env ((w.logged (.wire p r)).withPhase p (.waiting r attempt)) := by
  have hallowed := allowed_wire hattempt hlt hpaid fun h => absurd h hr
  refine (hsound.logged hallowed fun c => ?_).withPhase
    (hothers.logged fun q hq heq => hq (Option.some.inj heq).symm)
    (inPhase_waiting hattempt hlt hpaid)
  exact decide_eq_false fun h => hr h.1

/-- A request for affiliate links is sent under a call that is recorded. -/
theorem Sound.enterWire {r : PreparedAliExpressTopRequest} {attempt c : Nat}
    (hsound : Sound env w) (hothers : OthersInPhase env w p) (hc : (env.tasks p).call = some c)
    (hstarted : w.started c = true) (hentered : w.wireEntered c = false)
    (hattempt : Attempting env (env.tasks p) (tally p w.log) r attempt)
    (hlt : wires p w.log < attempt) (hpaid : Paid (env.tasks p) (tally p w.log) 1) :
    Inv env (w.enterWire p r attempt c) := by
  have hallowed := allowed_wire hattempt hlt hpaid fun _ =>
    ⟨c, hc, hsound.callWires_eq c hentered, (hsound.recorded c hstarted).1⟩
  refine Sound.withPhase ⟨hsound.lawful.concat hallowed, ?_, ?_, ?_⟩
    (hothers.logged fun q hq heq => hq (Option.some.inj heq).symm)
    (inPhase_waiting hattempt hlt hpaid)
  · intro c' hc'
    change Function.update w.wireEntered c true c' = true at hc'
    rcases eq_or_ne c' c with rfl | hne
    · exact hstarted
    · rw [Function.update_of_ne hne] at hc'
      exact hsound.started_of_wireEntered c' hc'
  · exact fun c' hc' => (hsound.recorded c' hc').logged
  · intro c' hc'
    change Function.update w.wireEntered c true c' = false at hc'
    rcases eq_or_ne c' c with rfl | hne
    · rw [Function.update_self] at hc'
      cases hc'
    · rw [Function.update_of_ne hne] at hc'
      show callWires env c' (w.log ++ [.wire p r]) = 0
      rw [callWires_append]
      · exact hsound.callWires_eq c' hc'
      · exact decide_eq_false fun h => hne (Option.some.inj (h.2.symm.trans hc))

/-! ## Entering -/

theorem admitGeneration_eq_ok {task : Task} {r : PreparedAliExpressTopRequest} {x : Unit}
    (h : admitGeneration env w task r = .ok x) : task.transport.maxAttempts = 1 ∧
      ∃ c, task.call = some c ∧ Matches r (env.calls c) := by
  obtain ⟨_, hsingle, h⟩ := bind_eq_ok.1 h
  obtain ⟨c, hc, h⟩ := bind_eq_ok.1 h
  exact ⟨check_eq_ok.1 hsingle, c, orRaise_eq_ok.1 hc, (check_eq_ok.1 h).1⟩

/-- What `execute` of the transport lets through is in phase. -/
theorem inPhase_enterTransport {task : Task} {r : PreparedAliExpressTopRequest} {phase : Phase}
    (hr : r.IsLinkGenerate ↔ task.entry.Generates) (h : enterTransport env w task r = .ok phase) :
    InPhase env task ⟨0, 0, 0⟩ phase := by
  obtain ⟨_, -, h⟩ := bind_eq_ok.1 h
  split at h
  · obtain ⟨_, hadmit, h⟩ := bind_eq_ok.1 h
    obtain rfl := Except.ok.inj h
    exact ⟨rfl, hr, fun _ => admitGeneration_eq_ok hadmit⟩
  · next hnot =>
    obtain rfl := Except.ok.inj h
    exact ⟨⟨task.transport.positive, ⟨hr, fun h => absurd h hnot⟩, fun _ => rfl⟩,
      Nat.one_pos, fun _ => rfl⟩

theorem inPhase_prepareAndEnter {task : Task} {client : AliExpressAffiliateApiClient}
    {operation : Text} {payload : PyDict Text Text} {timestampMs : Int} {phase : Phase}
    (hentry : task.entry = .client client operation payload)
    (h : prepareAndEnter env w task client operation payload timestampMs = .ok phase) :
    InPhase env task ⟨0, 0, 0⟩ phase := by
  obtain ⟨r, hr, h⟩ := bind_eq_ok.1 h
  refine inPhase_enterTransport ?_ h
  rw [hentry]
  exact isLinkGenerate_of_prepare hr

theorem inPhase_enterClient {task : Task} {client : AliExpressAffiliateApiClient}
    {operation : Text} {payload : PyDict Text Text} {timestampMs : Int} {phase : Phase}
    (hentry : task.entry = .client client operation payload)
    (h : enterClient env w task client operation payload timestampMs = .ok phase) :
    InPhase env task ⟨0, 0, 0⟩ phase := by
  obtain ⟨_, -, h⟩ := bind_eq_ok.1 h
  obtain ⟨_, -, h⟩ := bind_eq_ok.1 h
  split at h
  · obtain ⟨_, -, h⟩ := bind_eq_ok.1 h
    obtain ⟨_, -, h⟩ := bind_eq_ok.1 h
    obtain rfl := Except.ok.inj h
    rfl
  · exact inPhase_prepareAndEnter hentry h

theorem inPhase_settled {task : Task} {n : Tally} {x : Except Raised Phase}
    (h : ∀ phase, x = .ok phase → InPhase env task n phase) : InPhase env task n (settled x) := by
  cases x with
  | error error => exact trivial
  | ok phase => exact h phase rfl

theorem inPhase_enter {task : Task} {timestampMs : Int} :
    InPhase env task ⟨0, 0, 0⟩ (settled (match task.entry with
      | .client client operation payload =>
        enterClient env w task client operation payload timestampMs
      | .prepared r => enterTransport env w task r)) := by
  refine inPhase_settled fun phase h => ?_
  split at h
  · next client operation payload hentry => exact inPhase_enterClient hentry h
  · next r hentry =>
    refine inPhase_enterTransport ?_ h
    rw [hentry]
    rfl

/-! ## Going on, and failing -/

/-- A failed attempt is repeated as long as there are attempts left; one for affiliate links
has none left. -/
theorem inPhase_retry {task : Task} {n n' : Tally} {r : PreparedAliExpressTopRequest}
    {attempt : Nat} (hattempt : Attempting env task n r attempt) (hpos : 1 ≤ attempt)
    (hle : n'.wires ≤ attempt) (hpaid : Paid task n' 0) :
    InPhase env task n' (retry task.transport r attempt) := by
  have hmax := hattempt.le
  unfold retry
  split
  · exact trivial
  · next hne =>
    refine ⟨⟨by omega, hattempt.admitted, fun hr => ?_⟩, hle, hpaid⟩
    have hsingle := (hattempt.admitted.2 hr).1
    omega

theorem Sound.fail {check : Check} {phase : Phase} (hsound : Sound env w)
    (hothers : OthersInPhase env w p)
    (hnothing : (env.tasks p).entry.Generates → wires p w.log = 0)
    (hbudget : check = .budget → grants p w.log = wires p w.log)
    (hphase : InPhase env (env.tasks p)
      { tally p w.log with failures := failures p w.log + 1 } phase) :
    Inv env ((w.logged (.failed p check)).withPhase p phase) := by
  have hallowed : Allowed env w.log (.failed p check) := ⟨hnothing, hbudget⟩
  refine (hsound.logged hallowed fun _ => rfl).withPhase
    (hothers.logged fun q hq heq => hq (Option.some.inj heq).symm) ?_
  rw [show (w.logged (.failed p check)).log = w.log ++ [.failed p check] from rfl, tally_failed]
  exact hphase

/-- A paid attempt goes on. -/
theorem Sound.afterCharge {r : PreparedAliExpressTopRequest} {attempt : Nat}
    (hsound : Sound env w) (hothers : OthersInPhase env w p)
    (hattempt : Attempting env (env.tasks p) (tally p w.log) r attempt)
    (hlt : wires p w.log < attempt) (hpaid : Paid (env.tasks p) (tally p w.log) 1) :
    Inv env (afterCharge w p (env.tasks p) r attempt) := by
  unfold Transport.afterCharge
  split
  · next hr =>
    split
    · exact hsound.withPhase hothers trivial
    · next c hc =>
      split
      · exact hsound.withPhase hothers trivial
      · next hentered =>
        split
        · next hstarted =>
          exact hsound.enterWire hothers hc hstarted (Bool.eq_false_iff.2 hentered) hattempt hlt
            hpaid
        · exact hsound.withPhase hothers ⟨hattempt, hlt, hpaid, hr, hc⟩
  · next hr => exact hsound.send hothers hr hattempt hlt hpaid

/-! ## Every step -/

theorem evolves_apply {t t' : Generations} {op : HistoryOp} (h : op.apply t = some t') :
    Evolves t t' := by
  cases op with
  | requestLegacyGeneration scope key legacyKind legacyId =>
    exact .of_quiet (quiet_requestLegacyGeneration (toOption_eq_some.1 h))
  | prepare q requestId =>
    have hok := toOption_eq_some.1 h
    cases hprepare : AffiliateLinkHistoryRepository.prepare t q requestId with
    | error error =>
      rw [hprepare] at hok
      cases hok
    | ok result =>
      rw [hprepare] at hok
      obtain rfl := Except.ok.inj hok
      exact .of_change (change_prepare hprepare)
  | startCall now tokens => exact evolves_startCall h
  | confirm id c => exact .of_change (change_confirm h)
  | fail ids now state code => exact .of_quiet (quiet_fail h)
  | recover scope now =>
    obtain rfl := Option.some.inj h
    exact .of_quiet (quiet_recover scope now)

theorem Attempting.wires_eq_zero {task : Task} {n : Tally} {r : PreparedAliExpressTopRequest}
    {attempt : Nat} (h : Attempting env task n r attempt) (hlt : n.wires < attempt)
    (hgenerates : task.entry.Generates) : n.wires = 0 := by
  have hsingle := (h.admitted.2 (h.admitted.1.2 hgenerates)).1
  have hle := h.le
  omega

theorem Inv.step {act : Action} (hw : Inv env w) (h : Transport.step env w act = some w') :
    Inv env w' := by
  cases act with
  | enter p timestampMs =>
    simp only [Transport.step] at h
    split at h
    · next hphase =>
      obtain rfl := Option.some.inj h
      have htally := hw.inPhase p
      rw [hphase] at htally
      refine hw.sound.withPhase (hw.others p) ?_
      rw [show tally p w.log = ⟨0, 0, 0⟩ from htally]
      exact inPhase_enter
    · cases h
  | clientStorage p fit timestampMs =>
    simp only [Transport.step] at h
    split at h
    · next client operation payload hphase hentry =>
      have htally := hw.inPhase p
      rw [hphase] at htally
      have hzero : tally p w.log = ⟨0, 0, 0⟩ := htally
      split at h
      · obtain rfl := Option.some.inj h
        refine hw.sound.withPhase (hw.others p) ?_
        rw [hzero]
        exact inPhase_settled fun phase h => inPhase_prepareAndEnter hentry h
      · obtain rfl := Option.some.inj h
        exact hw.sound.fail (hw.others p) (fun _ => congrArg Tally.wires hzero) nofun trivial
    · cases h
  | storage p fit =>
    simp only [Transport.step] at h
    split at h
    · next r hphase =>
      have hin := hw.inPhase p
      rw [hphase] at hin
      obtain ⟨hzero, hadmitted⟩ := hin
      split at h
      · obtain rfl := Option.some.inj h
        refine hw.sound.withPhase (hw.others p) ?_
        rw [hzero]
        exact ⟨⟨(env.tasks p).transport.positive, hadmitted, fun _ => rfl⟩, Nat.one_pos,
          fun _ => rfl⟩
      · obtain rfl := Option.some.inj h
        exact hw.sound.fail (hw.others p) (fun _ => congrArg Tally.wires hzero) nofun trivial
    · cases h
  | charge p charge =>
    simp only [Transport.step] at h
    split at h
    · next r attempt hphase =>
      have hin := hw.inPhase p
      rw [hphase] at hin
      obtain ⟨hattempt, hlt, hpaid⟩ := hin
      split at h
      · next hbefore =>
        have hnothing := hattempt.wires_eq_zero hlt
        cases charge with
        | granted =>
          obtain rfl := Option.some.inj h
          have htally := tally_granted p w.log
          refine (hw.sound.logged (e := .granted p) trivial fun _ => rfl).afterCharge
            ((hw.others p).logged fun q hq heq => hq (Option.some.inj heq).symm) ?_ ?_ ?_
          · show Attempting env (env.tasks p) (tally p (w.log ++ [.granted p])) r attempt
            rw [htally]
            exact ⟨hattempt.le, hattempt.admitted, hattempt.clean⟩
          · show (tally p (w.log ++ [.granted p])).wires < attempt
            rw [htally]
            exact hlt
          · show Paid (env.tasks p) (tally p (w.log ++ [.granted p])) 1
            rw [htally]
            exact fun hbefore => congrArg (· + 1) (hpaid hbefore)
        | transportError =>
          obtain rfl := Option.some.inj h
          exact hw.sound.fail (hw.others p) hnothing (fun _ => hpaid hbefore)
            (inPhase_retry hattempt (Nat.one_le_of_lt hlt) hlt.le hpaid)
        | refused failure =>
          obtain rfl := Option.some.inj h
          exact hw.sound.fail (hw.others p) hnothing (fun _ => hpaid hbefore) trivial
      · next hbefore =>
        obtain rfl := Option.some.inj h
        exact hw.sound.afterCharge (hw.others p) hattempt hlt fun h => absurd h hbefore
    · cases h
  | start p now commit =>
    simp only [Transport.step] at h
    split at h
    · next r attempt c hphase =>
      have hin := hw.inPhase p
      rw [hphase] at hin
      obtain ⟨hattempt, hlt, hpaid, hr, hc⟩ := hin
      have hnothing := hattempt.wires_eq_zero hlt
      split at h
      · obtain rfl := Option.some.inj h
        exact hw.sound.fail (hw.others p) hnothing nofun trivial
      · obtain rfl := Option.some.inj h
        exact hw.sound.fail (hw.others p) hnothing nofun trivial
      · next t hstart =>
        obtain rfl := Option.some.inj h
        refine (hw.sound.commit hstart).fail (hw.others p).commit ?_ nofun trivial
        exact fun hgenerates => (congrArg Tally.wires tally_commit).trans (hnothing hgenerates)
      · next t hstart =>
        obtain rfl := Option.some.inj h
        have hentered : w.wireEntered c = false := by
          refine Bool.eq_false_iff.2 fun htrue => not_recorded_of_startAudited hstart ?_
          exact hw.sound.recorded c (hw.sound.started_of_wireEntered c htrue)
        have hwires : wires p (w.commit c t).log = wires p w.log :=
          congrArg Tally.wires tally_commit
        refine ((hw.sound.commit hstart).markStarted (recorded_commit hstart)).enterWire
          (hw.others p).commit hc (Function.update_self ..) hentered ?_ (hwires ▸ hlt) ?_
        · show Attempting env (env.tasks p) (tally p (w.commit c t).log) r attempt
          rw [tally_commit]
          exact hattempt
        · show Paid (env.tasks p) (tally p (w.commit c t).log) 1
          rw [tally_commit]
          exact hpaid
    · cases h
  | answer p answer =>
    simp only [Transport.step] at h
    split at h
    · next r attempt hphase =>
      have hin := hw.inPhase p
      rw [hphase] at hin
      obtain ⟨hattempt, hpos, hle, hpaid⟩ := hin
      obtain rfl := Option.some.inj h
      refine hw.sound.withPhase (hw.others p) ?_
      have hretry := inPhase_retry hattempt hpos hle hpaid
      cases answer with
      | transportError => exact hretry
      | response statusCode body =>
        dsimp only
        split
        · exact trivial
        · exact hretry
      | other => exact trivial
    · cases h
  | wake p cancelled =>
    simp only [Transport.step] at h
    split at h
    · next r attempt hphase =>
      have hin := hw.inPhase p
      rw [hphase] at hin
      obtain ⟨hattempt, hle, hpaid⟩ := hin
      obtain rfl := Option.some.inj h
      refine hw.sound.withPhase (hw.others p) ?_
      cases cancelled with
      | true => exact trivial
      | false => exact ⟨hattempt, Nat.lt_succ_of_le hle, hpaid⟩
    · cases h
  | markStarted c now commit =>
    simp only [Transport.step] at h
    split at h
    · cases h
    · split at h
      · next t hstart =>
        obtain rfl := Option.some.inj h
        exact ⟨(hw.sound.commit hstart).markStarted (recorded_commit hstart),
          (Inv.commit hw hstart).inPhase⟩
      · next t hstart =>
        obtain rfl := Option.some.inj h
        exact hw.commit hstart
      · cases h
  | other op =>
    obtain ⟨t, ht, rfl⟩ := Option.map_eq_some_iff.1 h
    exact ⟨hw.sound.evolves (evolves_apply ht), hw.inPhase⟩

theorem inv_of_reachable (hw : (system env).Reachable w) : Inv env w := by
  refine hw.invariant ?_ fun w act w' hw hstep => hw.step hstep
  rintro w ⟨hstarted, hentered, hidle, hlog⟩
  refine ⟨⟨?_, fun c hc => ?_, fun c hc => ?_, fun c _ => ?_⟩, fun p => ?_⟩
  · rw [hlog]
    exact lawful_nil
  · rw [hentered] at hc
    cases hc
  · rw [hstarted] at hc
    cases hc
  · rw [hlog]
    rfl
  · rw [hidle, hlog]
    rfl

/-! ## The record -/

/-- A request for affiliate links is one of an execution that asks for them. -/
theorem failures_eq_zero_of_wires (h : Lawful (Allowed env) log)
    (hgenerates : (env.tasks p).entry.Generates) {check : Check}
    (hfailed : Event.failed p check ∈ log) : wires p log = 0 := by
  by_contra hwires
  obtain ⟨e, he, hwire⟩ := List.countP_pos_iff.1 (Nat.pos_of_ne_zero hwires)
  cases e with
  | wire q r =>
    obtain rfl : q = p := of_decide_eq_true hwire
    obtain ⟨pre, post, rfl⟩ := List.append_of_mem he
    rcases List.mem_append.1 hfailed with hbefore | hafter
    · -- the request would have come after the failure
      obtain ⟨-, -, hr, hclean⟩ := h pre _ post rfl
      have hpos : 0 < failures q pre :=
        List.countP_pos_iff.2 ⟨_, hbefore, decide_eq_true rfl⟩
      have hzero := (hclean (hr.2 hgenerates)).1
      omega
    · -- the failure would have come after the request
      rcases List.mem_cons.1 hafter with heq | hafter
      · cases heq
      obtain ⟨mid, post, rfl⟩ := List.append_of_mem hafter
      have hallowed := h (pre ++ .wire q r :: mid) (.failed q check) post (by simp)
      have hpos : 0 < wires q (pre ++ .wire q r :: mid) :=
        List.countP_pos_iff.2 ⟨_, List.mem_append_right _ List.mem_cons_self, decide_eq_true rfl⟩
      have hzero := hallowed.1 hgenerates
      omega
  | _ => cases hwire

/-- Between a refused charge and the next request there is a charge that was granted. -/
theorem granted_of_refused (h : Lawful (Allowed env) log)
    (hbefore : (env.tasks p).transport.beforeSend = true) {pre mid post : List Event}
    {r : PreparedAliExpressTopRequest}
    (hlog : log = pre ++ .failed p .budget :: (mid ++ .wire p r :: post)) :
    Event.granted p ∈ mid := by
  have hrefused := (h pre (.failed p .budget) (mid ++ .wire p r :: post) hlog).2 rfl
  have hsent := (h (pre ++ .failed p .budget :: mid) (.wire p r) post (by simp [hlog])).1 hbefore
  have hpos : 0 < grants p mid := by
    have hgrants : grants p (pre ++ .failed p .budget :: mid) = grants p pre + grants p mid :=
      List.countP_append
    have hwires : wires p (pre ++ .failed p .budget :: mid) = wires p pre + wires p mid :=
      List.countP_append
    omega
  obtain ⟨e, he, hgrant⟩ := List.countP_pos_iff.1 hpos
  cases e with
  | granted q =>
    obtain rfl : q = p := of_decide_eq_true hgrant
    exact he
  | _ => cases hgrant

/-- **No generation call before its audit record.**  Whatever executions have done:

* each request on the wire was paid for by one `before_send` of its own, and an execution
  puts at most `max_attempts` of them on the wire;
* a request for affiliate links went out under an audited call, once for each call, after
  `CALL_STARTED` was committed for all generations of the batch, with the form parameters of
  the audited payload, and the record of the call is still there;
* where the budget, the storage or the commit failed an execution for affiliate links has
  sent nothing, and any other sends nothing before the next charge. -/
theorem no_call_before_audit (hw : (system env).Reachable w) :
    (∀ p pre r post, w.log = pre ++ .wire p r :: post →
      ((env.tasks p).transport.beforeSend = true → grants p pre = wires p pre + 1) ∧
      (r.IsLinkGenerate → ∃ c, (env.tasks p).call = some c ∧
        (∃ t, Event.committed c t ∈ pre ∧ ∀ id ∈ (env.calls c).generationIds,
          ∃ g, t.get? id = some g ∧ g.state = .callStarted) ∧
        r.formPairs.Perm (env.calls c).payload.items ∧
        ∀ id ∈ (env.calls c).generationIds,
          ∃ g, w.history.get? id = some g ∧ g.callStartedAt ≠ none)) ∧
    (∀ p, wires p w.log ≤ (env.tasks p).transport.maxAttempts) ∧
    (∀ c, callWires env c w.log ≤ 1) ∧
    (∀ p check, (env.tasks p).entry.Generates → Event.failed p check ∈ w.log →
      wires p w.log = 0) ∧
    (∀ p pre mid r post, (env.tasks p).transport.beforeSend = true →
      w.log = pre ++ .failed p .budget :: (mid ++ .wire p r :: post) →
      Event.granted p ∈ mid) := by
  have hinv := inv_of_reachable hw
  have hlawful := hinv.sound.lawful
  refine ⟨fun p pre r post hlog => ?_, fun p => ?_, fun c => ?_, fun p check hgenerates hfailed =>
    failures_eq_zero_of_wires hlawful hgenerates hfailed, fun p pre mid r post hbefore hlog =>
    granted_of_refused hlawful hbefore hlog⟩
  · obtain ⟨hpaid, -, -, hcall⟩ := hlawful pre _ post hlog
    refine ⟨hpaid, fun hr => ?_⟩
    obtain ⟨-, c, hc, -, ⟨t, ht⟩, hperm⟩ := hcall hr
    refine ⟨c, hc, ⟨t, ht, ?_⟩, hperm, ?_⟩
    · obtain ⟨pre', post', rfl⟩ := List.append_of_mem ht
      exact hlawful pre' (.committed c t) (post' ++ .wire p r :: post) (by simp [hlog])
    · have hentered : w.wireEntered c = true := by
        by_contra hnot
        have hzero := hinv.sound.callWires_eq c (Bool.eq_false_iff.2 hnot)
        have hmem : Event.wire p r ∈ w.log := hlog ▸ List.mem_append_right _ List.mem_cons_self
        have hpos : 0 < callWires env c w.log :=
          List.countP_pos_iff.2 ⟨_, hmem, decide_eq_true ⟨hr, hc⟩⟩
        omega
      intro id hid
      obtain ⟨g, hg, -, -, hstarted⟩ :=
        (hinv.sound.recorded c (hinv.sound.started_of_wireEntered c hentered)).2 id hid
      exact ⟨g, hg, hstarted⟩
  · refine hlawful.countP_le fun pre e hallowed he => ?_
    cases e with
    | wire q r =>
      obtain rfl : q = p := of_decide_eq_true he
      exact hallowed.2.1
    | _ => cases he
  · refine hlawful.countP_le fun pre e hallowed he => ?_
    cases e with
    | wire q r =>
      obtain ⟨hr, hc⟩ := of_decide_eq_true he
      obtain ⟨-, c', hc', hzero, -, -⟩ := hallowed.2.2.2 hr
      obtain rfl := Option.some.inj (hc.symm.trans hc')
      exact Nat.lt_one_iff.2 hzero
    | _ => cases he

/-! ## One call -/

/-- The payload of a request for one link. -/
def onePayload : PyDict Text Text where
  items := [("ship_to_country".toList, "BR".toList), ("promotion_link_type".toList, "0".toList),
    ("source_values".toList, "https://www.aliexpress.com/item/1.html".toList),
    ("tracking_id".toList, "t".toList)]
  nodup := by decide

/-- One execution through the client, with a budget, under one audited call. -/
def oneCall : Env where
  tasks _ := ⟨⟨1, true, true, Nat.one_pos⟩, .client ⟨⟨['k'], ['s']⟩, true⟩ linkGenerate onePayload,
    some 0⟩
  calls _ := ⟨[1], [7], onePayload, List.cons_ne_nil _ _⟩
  hmac _ _ := ['F']

/-- The generation of the call is prepared, nothing else has happened. -/
def prepared₁ : World where
  history := (∅ : Generations).put 1 (AffiliateLinkHistoryRepository.prepared
    ⟨.runtime, .canonical 1, 0, 300, 7, 1, 0, List.replicate 64 'a', List.replicate 64 'b',
      List.replicate 64 'c', none⟩ (newRow .runtime (.canonical 1)))
  started _ := false
  wireEntered _ := false
  phases _ := .idle
  log := []

/-- The schedule of an execution which sends its request. -/
def sending : List Action :=
  [.enter 0 1, .clientStorage 0 true 2, .storage 0 true, .charge 0 .granted,
    .start 0 3 .committed]

/-- The request has gone out. -/
def sent : World := (system oneCall).endOf prepared₁ sending

theorem sent_reachable : (system oneCall).Reachable sent :=
  ⟨prepared₁, ⟨fun _ => rfl, fun _ => rfl, fun _ => rfl, rfl⟩,
    TransitionSystem.run_endOf (by decide +kernel)⟩

/-- The request has gone out once, and no other can go out under its call. -/
theorem one_call_sent : wires 0 sent.log = 1 ∧
    (wires 0 sent.log ≤ 1 ∧ callWires oneCall 0 sent.log ≤ 1) := by
  have haudit := no_call_before_audit sent_reachable
  exact ⟨by decide +kernel, haudit.2.1 0, haudit.2.2.1 0⟩

end Transport
end PromoBot
