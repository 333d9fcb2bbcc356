import PromoBot.Affiliate.EvidenceCoherence

/-!
# Runs of the coin service

`evidence_lockstep` is about every run none of whose claims sweeps evidence of a generation.
`evidence_not_lockstep` is a run with one that does: a call whose `recover` ran before another
one claimed, and whose own claim comes after, sweeps the evidence of a generation that is still
open, where the other call read the clock long enough before.

## Why the condition is on the claims

A call of the service is a series of transactions.  The first recovers what has expired, in
both tables.  The second claims the evidence and prepares the generation, and begins with a
sweep of its own, which looks at the leases of the evidence only.  The others mark the call as
started and end both rows.  Between the first two, other calls may do theirs, and the time both
are given was read before the first.  So a claim may find expired evidence which its own
`recover` has not seen, and it makes that uncertain without looking whether it points to a
generation.

`ClaimsInTime` is a condition on the state before the step and on its own time: there is no
generating evidence which has expired at that time and points to a generation.  Under it the
invariant of `Affiliate/EvidenceCoherence` is kept by every step (`inv_step`), whatever the
calls and the provider do.  It is not too strong either: the second half of the theorem says
that after such a run a claim which goes through keeps the two tables in lockstep exactly if it
meets the condition itself.
-/

namespace PromoBot
namespace CoinGeneration

open Conversion SqlTable CoinShadow

/-! ## Runs -/

section Runs

variable {env : Environment} {w w' : World}

theorem Inv.after (h : Inv w) {p : Nat} {t : CoinTables} {phase : Phase}
    (ht : Coherent t) (hchange : Change w.nextUuid w.tables t)
    (hphase : Held t w.nextUuid phase) : Inv (w.after p t phase) := by
  refine ⟨ht, fun p' => ?_⟩
  show Held t w.nextUuid (Function.update w.calls p phase p')
  rcases eq_or_ne p' p with rfl | hp
  · rw [Function.update_self]
    exact hphase
  · rw [Function.update_of_ne hp]
    exact (h.held p').change hchange le_rfl

theorem Inv.move (h : Inv w) {p : Nat} {phase : Phase}
    (hphase : Held w.tables w.nextUuid phase) : Inv (w.after p w.tables phase) :=
  h.after h.coherent (.refl _ _) hphase

theorem Inv.elsewhere (h : Inv w) {t : CoinTables} (ht : Coherent t)
    (hchange : Change w.nextUuid w.tables t) : Inv { w with tables := t } :=
  ⟨ht, fun p => (h.held p).change hchange le_rfl⟩

/-- The claim of a call sweeps no evidence of a generation. -/
def ClaimsInTime (w : World) : Action → Prop
  | .claim p _ => ∀ q now, w.calls p = .claiming q now → ¬ SweepsOpen w.tables now
  | _ => True

theorem held_interrupted {t : CoinTables} {uuid : Nat} {phase phase' : Phase}
    (h : Held t uuid phase) (hphase : interruptedPhase phase = some phase') :
    Held t uuid phase' := by
  cases phase with
  | idle | recovering | claiming | closing => cases hphase
  | calling | storing =>
    obtain rfl := Option.some.inj hphase
    exact h
  | started | rejecting =>
    obtain rfl := Option.some.inj hphase
    exact h.1

theorem held_cancelled {t : CoinTables} {uuid : Nat} {phase : Phase} (h : Held t uuid phase) :
    Held t uuid (cancelledPhase phase) := by
  cases phase with
  | calling => exact h
  | started => exact h.1
  | idle | recovering | claiming | storing | rejecting | closing => trivial

theorem held_answered {t : CoinTables} {uuid : Nat} {winner : Winner} {now : Instant}
    (h : Held t uuid (.started winner)) (answer : Answer) :
    Held t uuid (answered env winner now answer) := by
  cases answer with
  | complete code => exact h
  | response payload =>
    unfold answered
    dsimp only
    split
    · exact h.1
    · exact h

theorem held_reported {t : CoinTables} {uuid : Nat} {winner : Winner} {reported : Bool}
    {code : String} (h : Owns t uuid winner) :
    Held t uuid (if reported then .idle else .closing winner code) := by
  cases reported with
  | true => trivial
  | false => exact h

/-- **Every step keeps the invariant**, if it claims in time. -/
theorem inv_step {a : Action} (h : Inv w) (hgood : ClaimsInTime w a)
    (hstep : step env w a = some w') : Inv w' := by
  cases a with
  | begin' p q now =>
    unfold step at hstep
    dsimp only at hstep
    split at hstep
    · obtain rfl := Option.some.inj hstep
      exact h.move trivial
    · cases hstep
  | recover p =>
    unfold step at hstep
    dsimp only at hstep
    split at hstep
    · next q now hp =>
      obtain rfl := Option.some.inj hstep
      exact h.after (h.coherent.recover now) (change_recover now) trivial
    · cases hstep
  | claim p unchanged =>
    unfold step at hstep
    dsimp only at hstep
    split at hstep
    · next q now hp =>
      split at hstep
      · next t claim generationId hclaim =>
        obtain rfl := Option.some.inj hstep
        have hcoherent := h.coherent.claimAndPrepare (hgood q now hp) hclaim
        refine ⟨hcoherent, fun p' => ?_⟩
        show Held t (w.nextUuid + 2) (Function.update w.calls p _ p')
        rcases eq_or_ne p' p with rfl | hp'
        · rw [Function.update_self]
          exact held_claimed hclaim
        · rw [Function.update_of_ne hp']
          exact (h.held p').change (change_claimAndPrepare hclaim) (Nat.le_add_right _ 2)
      · obtain rfl := Option.some.inj hstep
        exact h.move trivial
    · cases hstep
  | start p now =>
    unfold step at hstep
    dsimp only at hstep
    split at hstep
    · next winner hp =>
      have hheld := h.held p
      rw [hp] at hheld
      split at hstep
      · next t hstart =>
        obtain rfl := Option.some.inj hstep
        have hchange : Change w.nextUuid w.tables t := change_markStarted hstart
        exact h.after (h.coherent.markStarted hstart) hchange
          ⟨Owns.change hheld hchange le_rfl, made_markStarted hstart⟩
      · obtain rfl := Option.some.inj hstep
        exact h.move hheld
    · cases hstep
  | answer p answer now =>
    unfold step at hstep
    dsimp only at hstep
    split at hstep
    · next winner hp =>
      obtain rfl := Option.some.inj hstep
      have hheld := h.held p
      rw [hp] at hheld
      exact h.move (held_answered hheld answer)
    · cases hstep
  | store p reported =>
    unfold step at hstep
    dsimp only at hstep
    split at hstep
    · next winner parsed generatedAt hp =>
      have hheld : Owns w.tables w.nextUuid winner := by
        have hheld := h.held p
        rw [hp] at hheld
        exact hheld
      split at hstep
      · next t hstore =>
        obtain rfl := Option.some.inj hstep
        have hchange : Change w.nextUuid w.tables t := change_storeLink hstore
        exact h.after (h.coherent.storeLink hheld hstore) hchange
          (held_reported (hheld.change hchange le_rfl))
      · obtain rfl := Option.some.inj hstep
        exact h.move hheld
    · cases hstep
  | reject p now now' reported =>
    unfold step at hstep
    dsimp only at hstep
    split at hstep
    · next winner code hp =>
      have hheld : Owns w.tables w.nextUuid winner ∧ Made w.tables winner := by
        have hheld := h.held p
        rw [hp] at hheld
        exact hheld
      split at hstep
      · next t hreject =>
        obtain rfl := Option.some.inj hstep
        have hchange : Change w.nextUuid w.tables t := change_endWithout hreject
        exact h.after (h.coherent.finishRejected hheld.1 hheld.2 hreject) hchange
          (held_reported (hheld.1.change hchange le_rfl))
      · obtain rfl := Option.some.inj hstep
        exact h.move hheld.1
    · cases hstep
  | close p now now' =>
    unfold step at hstep
    dsimp only at hstep
    split at hstep
    · next winner code hp =>
      have hheld : Owns w.tables w.nextUuid winner := by
        have hheld := h.held p
        rw [hp] at hheld
        exact hheld
      split at hstep
      · next t hclose =>
        obtain rfl := Option.some.inj hstep
        exact h.after (h.coherent.finishUncertain hheld hclose) (change_endWithout hclose) trivial
      · obtain rfl := Option.some.inj hstep
        exact h.move trivial
    · cases hstep
  | raise p =>
    obtain ⟨phase, hphase, rfl⟩ := Option.map_eq_some_iff.1 hstep
    exact h.move (held_interrupted (h.held p) hphase)
  | cancel p =>
    obtain rfl := Option.some.inj hstep
    exact h.move (held_cancelled (h.held p))
  | crash p =>
    obtain rfl := Option.some.inj hstep
    exact h.move trivial
  | recoverElsewhere now =>
    obtain rfl := Option.some.inj hstep
    exact h.elsewhere (h.coherent.recover now) (change_recover now)
  | request legacyId =>
    unfold step at hstep
    dsimp only at hstep
    split at hstep
    · next t hrequest =>
      obtain rfl := Option.some.inj hstep
      obtain ⟨input, hevidence, hhistory⟩ := requestLegacy_eq_ok hrequest
      refine h.elsewhere (h.coherent.of_kept hevidence fun g r hr _ =>
        requestLegacyGeneration_keeps hhistory hr) ⟨fun j => ?_, .of_quiet
          (AffiliateLinkHistoryRepository.quiet_requestLegacyGeneration hhistory)⟩
      rw [hevidence]
      exact .keep _
    · cases hstep
  | canonical op =>
    obtain ⟨history, hop, rfl⟩ := Option.map_eq_some_iff.1 hstep
    exact h.elsewhere (h.coherent.of_kept rfl fun g r hr hcoin => op.keeps hop hr hcoin)
      (.of_history (op.evolves hop))

theorem inv_init (h : (system env).init w) : Inv w := by
  refine ⟨⟨fun id e g he hg => ?_, fun id id' e e' g he _ hg _ => ?_⟩, fun p => ?_⟩
  · rw [h.1 id e he] at hg
    cases hg
  · rw [h.1 id e he] at hg
    cases hg
  · rw [h.2 p]
    trivial

/-- **Coin evidence and its generation stay in lockstep**, in every run none of whose claims
sweeps evidence of a generation.  After such a run, a claim that goes through keeps them so
exactly if it sweeps none either. -/
theorem evidence_lockstep (env : Environment) {w : World}
    (h : (system env).ReachableUnder ClaimsInTime w) :
    Lockstep w.tables ∧
      ∀ (q : Request) (now : Instant) (unchanged : Bool) (t : CoinTables)
        (claim : CoinShadowClaim) (generationId : Option Nat),
        claimAndPrepare env w.tables q now w.nextUuid unchanged =
          .ok (t, claim, generationId) → (Lockstep t ↔ ¬ SweepsOpen w.tables now) := by
  have hinv : Inv w := h.invariant (fun _ => inv_init) fun _ _ _ hinv hgood hstep =>
    inv_step hinv hgood hstep
  exact ⟨hinv.coherent.lockstep, fun q now unchanged t claim generationId hclaim =>
    claimAndPrepare_lockstep_iff hinv.coherent hclaim⟩

end Runs

/-! ## Two runs -/

/-- ASCII, and a keyed function whose values show key and message and have 64 characters. -/
def testEnvironment : Environment where
  unicode := .ascii
  hmac key message := ((message ++ '/' :: key) ++ List.replicate 64 '0').take 64
  scope := .shadow

/-- A request for a coin link. -/
def coinRequest (sourceValue : String) : Request where
  service := ⟨"secret".toList, "t1".toList, by decide⟩
  sourceValue := sourceValue.toList
  generationRequest := none
  origin := none

/-- Nothing has happened. -/
def emptyWorld : World := ⟨⟨∅, ∅⟩, fun _ => .idle, 0⟩

theorem init_emptyWorld : (system testEnvironment).init emptyWorld :=
  ⟨fun _ _ h => absurd h nofun, fun _ => rfl⟩

/-- The answer to a request for the first link. -/
def firstAnswer : List (String × Json) :=
  [("resp_result", .obj [("resp_code", .int 200), ("result", .obj [
    ("tracking_id", .str "t1".toList), ("promotion_links", .arr [.obj [
      ("source_value", .str "https://a.aliexpress.com/_firsta1".toList),
      ("promotion_link", .str "https://s.click.aliexpress.com/e/_ownlink1".toList)]])])])]

/-- A call is about to claim. -/
def beforeClaim : World :=
  (system testEnvironment).endOf emptyWorld
    [.begin' 0 (coinRequest "https://a.aliexpress.com/_firsta1") 0, .recover 0]

/-- The call has claimed. -/
def afterClaim : World := (system testEnvironment).endOf beforeClaim [.claim 0 true]

/-- The link is stored. -/
def stored : World :=
  (system testEnvironment).endOf afterClaim
    [.start 0 1, .answer 0 (.response firstAnswer) 2, .store 0 true]

/-- A run in which the link is generated and its evidence is ready. -/
theorem evidence_lockstep_stored : Lockstep stored.tables ∧
    (stored.tables.evidence.get? 1).map (fun e => (e.state, e.generationId)) =
      some (.ready, some 1) := by
  have hbefore : (system testEnvironment).RunUnder ClaimsInTime emptyWorld beforeClaim :=
    TransitionSystem.runUnder_of_replay (by
      intro a ha w
      simp only [List.mem_cons, List.not_mem_nil, or_false] at ha
      rcases ha with rfl | rfl <;> trivial)
      (TransitionSystem.replay_endOf _ _ (by decide +kernel))
  have hclaim : (system testEnvironment).RunUnder ClaimsInTime emptyWorld afterClaim := by
    have hstep : (system testEnvironment).replay beforeClaim [.claim 0 true] = some afterClaim :=
      TransitionSystem.replay_endOf _ _ (by decide +kernel)
    rw [TransitionSystem.replay_cons, Option.bind_eq_some_iff] at hstep
    obtain ⟨w, hw, hend⟩ := hstep
    obtain rfl := Option.some.inj hend
    refine hbefore.tail (a := Action.claim 0 true) ?_ hw
    rintro q now - ⟨id, e, he, -⟩
    cases he
  have hstored : (system testEnvironment).RunUnder ClaimsInTime afterClaim stored :=
    TransitionSystem.runUnder_of_replay (by
      intro a ha w
      simp only [List.mem_cons, List.not_mem_nil, or_false] at ha
      rcases ha with rfl | rfl | rfl <;> trivial)
      (TransitionSystem.replay_endOf _ _ (by decide +kernel))
  exact ⟨(evidence_lockstep testEnvironment
    ⟨emptyWorld, init_emptyWorld, hclaim.trans hstored⟩).1, by decide +kernel⟩

/-- A call reads the clock and stalls; six minutes later another one recovers, the first one
claims, and the other one claims. -/
def overtaken : World :=
  (system testEnvironment).endOf emptyWorld
    [.begin' 0 (coinRequest "https://a.aliexpress.com/_firsta1") 0, .recover 0,
      .begin' 1 (coinRequest "https://a.aliexpress.com/_second2") (minutes 6), .recover 1,
      .claim 0 true, .claim 1 true]

/-- **The evidence of a coin link is uncertain while its generation is prepared**: the sweep of
another claim ends the one and not the other. -/
theorem evidence_not_lockstep :
    ∃ w, (system testEnvironment).Reachable w ∧ ¬ Lockstep w.tables := by
  refine ⟨overtaken, ⟨emptyWorld, init_emptyWorld,
    TransitionSystem.run_endOf (by decide +kernel)⟩, fun h => ?_⟩
  have hevidence : (overtaken.tables.evidence.get? 1).map
      (fun e => (e.state, e.generationId)) = some (.uncertain, some 1) := by decide +kernel
  have hhistory : (overtaken.tables.history.get? 1).map Generation.state = some .prepared := by
    decide +kernel
  obtain ⟨e, he, heq⟩ := Option.map_eq_some_iff.1 hevidence
  obtain ⟨hstate, hpointer⟩ := Prod.mk.inj heq
  obtain ⟨r, hr, hprepared⟩ := Option.map_eq_some_iff.1 hhistory
  obtain ⟨r', hr', hagree⟩ := h 1 e 1 he hpointer
  obtain rfl := Option.some.inj (hr.symm.trans hr')
  have hopen := hagree.open_iff.1 (open_iff.2 (Or.inl hprepared))
  rw [hstate] at hopen
  cases hopen

end CoinGeneration
end PromoBot
