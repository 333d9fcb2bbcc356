import PromoBot.Affiliate.EvidenceCoherence
import PromoBot.Affiliate.MultiPreviews

/-!
# What a usable outcome rests on

A run of `prepare` takes the link of an outcome as it comes.  `CallStep.confirmed` says what it
may rely on: whichever way the call of `generate` went, a usable outcome names a generation
which is confirmed in the history, with this link, for the input of the call and under the
tracking of its service.  Nothing is assumed of the clock or of the other calls.

A link from the cache rests on the checks of the claim, which looks at every row of its input;
a new one rests on what the call prepared, which nobody else can change.

`CallStep` says once what a step of a call can do; everything else here is read off from it.
-/

namespace PromoBot
namespace MultiPreview

open Conversion Fallible SqlTable CoinShadowEvidenceRepository
open CoinGeneration (CoinTables Request Winner Phase)
open AffiliateLinkHistoryRepository (Evolves HasPreparation)

/-! ## Steps of a call -/

/-- The call is over, or about to close its generation without a link. -/
def Left : Phase → Prop
  | .idle | .rejecting _ _ | .closing _ _ => True
  | _ => False

/-- **What a step of a call does**: the phases before and after it, and how it ends the call. -/
inductive CallStep (env : Environment) (uuid : Nat) (t t' : CoinTables) :
    Phase → Phase → Option (Except (Option String) Outcome) → Prop
  | recover {q : Request} {now : Instant} (h : t' = CoinGeneration.recover t now) :
    CallStep env uuid t t' (.recovering q now) (.claiming q now) none
  | won {q : Request} {now : Instant} {unchanged : Bool} {claim : CoinShadowClaim}
      {generationId : Nat} (h : CoinGeneration.claimAndPrepare env t q now uuid unchanged =
        .ok (t', claim, some generationId)) :
    CallStep env uuid t t' (.claiming q now) (.calling ⟨q, claim, generationId⟩) none
  | lost {q : Request} {now : Instant} {unchanged : Bool} {claim : CoinShadowClaim}
      (h : CoinGeneration.claimAndPrepare env t q now uuid unchanged = .ok (t', claim, none)) :
    CallStep env uuid t t' (.claiming q now) .idle (some (.ok (claimOutcome claim)))
  | start {winner : Winner} {now : Instant}
      (h : CoinGeneration.markStarted t winner now = some t') :
    CallStep env uuid t t' (.calling winner) (.started winner) none
  | answer {winner : Winner} {now : Instant} {answer : CoinGeneration.Answer} (h : t' = t) :
    CallStep env uuid t t' (.started winner) (CoinGeneration.answered env winner now answer) none
  | store {winner : Winner} {parsed : CoinShadow.CoinShadowLinkResult} {generatedAt : Instant}
      (h : CoinGeneration.storeLink env t winner parsed generatedAt = .ok t') :
    CallStep env uuid t t' (.storing winner parsed generatedAt) .idle
      (some (.ok (storedOutcome winner parsed generatedAt)))
  | leave {phase phase' : Phase} {result : Option (Except (Option String) Outcome)}
      (hevolves : Evolves t.history t'.history) (hphase : Left phase')
      (hresult : ∀ o, result = some (.ok o) → ¬ o.Usable) :
    CallStep env uuid t t' phase phase' result

theorem not_usable_endedOutcome (evidenceId : Nat) (state : CoinShadowEvidenceState)
    (code : String) : ¬ (endedOutcome evidenceId state code).Usable :=
  fun h => h.2.1 rfl

variable {env : Clockwork} {w w' : CoinGeneration.World} {a : CoinGeneration.Action} {p : Nat}

theorem CallStep.quit {env : Environment} {uuid : Nat} {t : CoinTables} {phase phase' : Phase}
    {result : Option (Except (Option String) Outcome)} (hphase : Left phase')
    (hresult : ∀ o, result = some (.ok o) → ¬ o.Usable) :
    CallStep env uuid t t phase phase' result :=
  .leave (Evolves.refl _) hphase hresult

theorem calls_after (w : CoinGeneration.World) (p : Nat) (t : CoinTables) (phase : Phase) :
    (w.after p t phase).calls p = phase := by
  show Function.update w.calls p phase p = phase
  rw [Function.update_self]

theorem not_usable_none (o : Outcome)
    (h : (none : Option (Except (Option String) Outcome)) = some (.ok o)) : ¬ o.Usable := by
  cases h

theorem not_usable_ended {evidenceId : Nat} {state : CoinShadowEvidenceState} {code : String}
    (o : Outcome) (h : some (Except.ok (endedOutcome evidenceId state code)) =
      (some (.ok o) : Option (Except (Option String) Outcome))) : ¬ o.Usable := by
  obtain rfl := Except.ok.inj (Option.some.inj h)
  exact not_usable_endedOutcome evidenceId state code

theorem not_usable_raised {text : Option String} (o : Outcome)
    (h : (some (.error text) : Option (Except (Option String) Outcome)) = some (.ok o)) :
    ¬ o.Usable := by
  cases Option.some.inj h

theorem callStep_claim {unchanged : Bool}
    (h : CoinGeneration.step env.toEnvironment w (.claim p unchanged) = some w') :
    CallStep env.toEnvironment w.nextUuid w.tables w'.tables (w.calls p) (w'.calls p)
      (ending env w (.claim p unchanged)) := by
  unfold CoinGeneration.step at h
  dsimp only at h
  split at h
  · next q now hp =>
    split at h
    · next t claim generationId hclaim =>
      obtain rfl := Option.some.inj h
      have hending : ending env w (.claim p unchanged) =
          generationId.elim (some (.ok (claimOutcome claim))) fun _ => none := by
        simp only [ending, hp, hclaim]
        cases generationId <;> rfl
      rw [hp, hending]
      show CallStep env.toEnvironment w.nextUuid w.tables t _
        (Function.update w.calls p (CoinGeneration.claimed q claim generationId) p) _
      rw [Function.update_self]
      cases generationId with
      | none => exact .lost hclaim
      | some generationId => exact .won hclaim
    · next text hclaim =>
      obtain rfl := Option.some.inj h
      have hending : ending env w (.claim p unchanged) = some (.error (some text)) := by
        simp only [ending, hp, hclaim]
      rw [calls_after, hending]
      exact .quit trivial not_usable_raised
  · cases h

theorem callStep_store {reported : Bool}
    (h : CoinGeneration.step env.toEnvironment w (.store p reported) = some w') :
    CallStep env.toEnvironment w.nextUuid w.tables w'.tables (w.calls p) (w'.calls p)
      (ending env w (.store p reported)) := by
  unfold CoinGeneration.step at h
  dsimp only at h
  split at h
  · next winner parsed generatedAt hp =>
    split at h
    · next t hstore =>
      obtain rfl := Option.some.inj h
      have hending : ending env w (.store p reported) =
          if reported then some (.ok (storedOutcome winner parsed generatedAt)) else none := by
        simp only [ending, hp, hstore]
      have hchange : CoinGeneration.Change 0 w.tables t := CoinGeneration.change_storeLink hstore
      rw [hp, hending, calls_after]
      cases reported with
      | true => exact .store hstore
      | false => exact .leave hchange.history trivial not_usable_none
    · next text hstore =>
      obtain rfl := Option.some.inj h
      have hending : ending env w (.store p reported) = none := by
        simp only [ending, hp, hstore]
      rw [hending, calls_after]
      exact .quit trivial not_usable_none
  · cases h

theorem callStep_reject {now now' : Instant} {reported : Bool}
    (h : CoinGeneration.step env.toEnvironment w (.reject p now now' reported) = some w') :
    CallStep env.toEnvironment w.nextUuid w.tables w'.tables (w.calls p) (w'.calls p)
      (ending env w (.reject p now now' reported)) := by
  unfold CoinGeneration.step at h
  dsimp only at h
  split at h
  · next winner code hp =>
    split at h
    · next t hreject =>
      obtain rfl := Option.some.inj h
      have hending : ending env w (.reject p now now' reported) =
          if reported then some (.ok (endedOutcome winner.claim.evidenceId .reviewRequired code))
          else none := by
        simp only [ending, hp, hreject]
      have hchange : CoinGeneration.Change 0 w.tables t := CoinGeneration.change_endWithout hreject
      rw [hending, calls_after]
      cases reported with
      | true => exact .leave hchange.history trivial not_usable_ended
      | false => exact .leave hchange.history trivial not_usable_none
    · next text hreject =>
      obtain rfl := Option.some.inj h
      have hending : ending env w (.reject p now now' reported) = none := by
        simp only [ending, hp, hreject]
      rw [hending, calls_after]
      exact .quit trivial not_usable_none
  · cases h

theorem callStep_close {now now' : Instant}
    (h : CoinGeneration.step env.toEnvironment w (.close p now now') = some w') :
    CallStep env.toEnvironment w.nextUuid w.tables w'.tables (w.calls p) (w'.calls p)
      (ending env w (.close p now now')) := by
  unfold CoinGeneration.step at h
  dsimp only at h
  split at h
  · next winner code hp =>
    have hresult : ∀ o, ending env w (.close p now now') = some (.ok o) → ¬ o.Usable := by
      intro o ho
      simp only [ending, hp] at ho
      split at ho
      · exact not_usable_raised o ho
      · exact not_usable_ended o ho
    split at h
    · next t hclose =>
      obtain rfl := Option.some.inj h
      have hchange : CoinGeneration.Change 0 w.tables t := CoinGeneration.change_endWithout hclose
      rw [calls_after]
      exact .leave hchange.history trivial hresult
    · obtain rfl := Option.some.inj h
      rw [calls_after]
      exact .quit trivial hresult
  · cases h

/-- **Every step of a call is one of these**, whatever the other calls do. -/
theorem callStep_of_step (h : CoinGeneration.step env.toEnvironment w a = some w')
    (hcall : callOf a = some p) (hbegins : begins a = false) :
    CallStep env.toEnvironment w.nextUuid w.tables w'.tables (w.calls p) (w'.calls p)
      (ending env w a) := by
  cases a with
  | begin' => cases hbegins
  | recover p' =>
    obtain rfl := Option.some.inj hcall
    unfold CoinGeneration.step at h
    dsimp only at h
    split at h
    · next q now hp =>
      obtain rfl := Option.some.inj h
      rw [hp, calls_after]
      exact .recover rfl
    · cases h
  | claim p' unchanged =>
    obtain rfl := Option.some.inj hcall
    exact callStep_claim h
  | start p' now =>
    obtain rfl := Option.some.inj hcall
    unfold CoinGeneration.step at h
    dsimp only at h
    split at h
    · next winner hp =>
      split at h
      · next t hstart =>
        obtain rfl := Option.some.inj h
        rw [hp, calls_after]
        exact .start hstart
      · obtain rfl := Option.some.inj h
        rw [calls_after]
        exact .quit trivial not_usable_none
    · cases h
  | answer p' answer now =>
    obtain rfl := Option.some.inj hcall
    unfold CoinGeneration.step at h
    dsimp only at h
    split at h
    · next winner hp =>
      obtain rfl := Option.some.inj h
      rw [hp, calls_after]
      exact .answer rfl
    · cases h
  | store p' reported =>
    obtain rfl := Option.some.inj hcall
    exact callStep_store h
  | reject p' now now' reported =>
    obtain rfl := Option.some.inj hcall
    exact callStep_reject h
  | close p' now now' =>
    obtain rfl := Option.some.inj hcall
    exact callStep_close h
  | raise p' =>
    obtain rfl := Option.some.inj hcall
    obtain ⟨phase, hphase, rfl⟩ := Option.map_eq_some_iff.1 h
    rw [calls_after]
    refine .quit ?_ not_usable_none
    unfold CoinGeneration.interruptedPhase at hphase
    split at hphase
    case h_5 => cases hphase
    all_goals
      obtain rfl := Option.some.inj hphase
      trivial
  | cancel p' =>
    obtain rfl := Option.some.inj hcall
    obtain rfl := Option.some.inj h
    rw [calls_after]
    refine .quit ?_ not_usable_raised
    unfold CoinGeneration.cancelledPhase
    split <;> trivial
  | crash p' =>
    obtain rfl := Option.some.inj hcall
    obtain rfl := Option.some.inj h
    rw [calls_after]
    exact .quit trivial not_usable_raised
  | recoverElsewhere => cases hcall
  | request => cases hcall
  | canonical => cases hcall

theorem phase_of_begins {q : Request} {now : Instant}
    (h : CoinGeneration.step env.toEnvironment w (.begin' p q now) = some w') :
    w'.calls p = .recovering q now := by
  unfold CoinGeneration.step at h
  dsimp only at h
  split at h
  · obtain rfl := Option.some.inj h
    exact calls_after _ _ _ _
  · cases h

theorem CallStep.evolves {env : Environment} {uuid : Nat} {t t' : CoinTables}
    {phase phase' : Phase} {result : Option (Except (Option String) Outcome)}
    (h : CallStep env uuid t t' phase phase' result) : Evolves t.history t'.history := by
  cases h with
  | recover h =>
    have hchange : CoinGeneration.Change 0 t t' := h ▸ CoinGeneration.change_recover _
    exact hchange.history
  | won h | lost h => exact (CoinGeneration.change_claimAndPrepare h).history
  | start h =>
    have hchange : CoinGeneration.Change 0 t t' := CoinGeneration.change_markStarted h
    exact hchange.history
  | answer h =>
    rw [h]
    exact Evolves.refl _
  | store h =>
    have hchange : CoinGeneration.Change 0 t t' := CoinGeneration.change_storeLink h
    exact hchange.history
  | leave hevolves => exact hevolves

/-- The history evolves with every step. -/
theorem evolves_step (h : CoinGeneration.step env.toEnvironment w a = some w') :
    Evolves w.tables.history w'.tables.history := by
  cases hcall : callOf a with
  | some p =>
    by_cases hbegins : begins a = false
    · exact (callStep_of_step h hcall hbegins).evolves
    · cases a with
      | begin' p q now =>
        unfold CoinGeneration.step at h
        dsimp only at h
        split at h
        · obtain rfl := Option.some.inj h
          exact Evolves.refl _
        · cases h
      | _ => exact absurd rfl hbegins
  | none =>
    cases a with
    | recoverElsewhere now =>
      obtain rfl := Option.some.inj h
      have hchange : CoinGeneration.Change 0 w.tables (CoinGeneration.recover w.tables now) :=
        CoinGeneration.change_recover now
      exact hchange.history
    | request legacyId =>
      unfold CoinGeneration.step at h
      dsimp only at h
      split at h
      · next t hrequest =>
        obtain rfl := Option.some.inj h
        obtain ⟨input, -, hhistory⟩ := CoinGeneration.requestLegacy_eq_ok hrequest
        exact .of_quiet (AffiliateLinkHistoryRepository.quiet_requestLegacyGeneration hhistory)
      · cases h
    | canonical op =>
      obtain ⟨history, hop, rfl⟩ := Option.map_eq_some_iff.1 h
      exact op.evolves hop
    | _ => cases hcall

/-- A step is one of its own call; the other calls stand where they stood. -/
theorem calls_of_ne (h : CoinGeneration.step env.toEnvironment w a = some w')
    (hp : callOf a ≠ some p) : w'.calls p = w.calls p := by
  have hother : ∀ (p' : Nat) (phase : Phase), callOf a = some p' →
      Function.update w.calls p' phase p = w.calls p := by
    intro p' phase hcall
    have hne : p ≠ p' := fun heq => hp (heq ▸ hcall)
    exact Function.update_of_ne hne phase w.calls
  cases a <;> unfold CoinGeneration.step at h <;> dsimp only at h
  case recoverElsewhere =>
    obtain rfl := Option.some.inj h
    rfl
  case request =>
    split at h
    · obtain rfl := Option.some.inj h
      rfl
    · cases h
  case canonical =>
    obtain ⟨history, -, rfl⟩ := Option.map_eq_some_iff.1 h
    rfl
  case raise =>
    obtain ⟨phase, -, rfl⟩ := Option.map_eq_some_iff.1 h
    exact hother _ _ rfl
  case cancel | crash =>
    obtain rfl := Option.some.inj h
    exact hother _ _ rfl
  case begin' | recover | answer =>
    split at h
    · obtain rfl := Option.some.inj h
      exact hother _ _ rfl
    · cases h
  case claim | start | store | reject | close =>
    split at h
    · split at h
      all_goals
        obtain rfl := Option.some.inj h
        exact hother _ _ rfl
    · cases h

/-! ## What a call stands for -/

/-- The generation of a winner was prepared for its request. -/
def Prepared (env : Environment) (history : Generations) (w : Winner) : Prop :=
  ∃ now uuid, HasPreparation history w.generationId
    (coinPreparation env w.request.service w.request.sourceValue now uuid w.request.origin)

/-- As long as a call may still end with a link, it is for this request. -/
def Serves (env : Environment) (history : Generations) (q : Request) : Phase → Prop
  | .idle | .rejecting _ _ | .closing _ _ => True
  | .recovering q' _ | .claiming q' _ => q' = q
  | .calling w | .started w | .storing w _ _ => w.request = q ∧ Prepared env history w

/-- The generation is confirmed, with this link, for this input and under the tracking of the
service. -/
def ConfirmedLink (env : Environment) (history : Generations) (service : CoinService)
    (value : Text) (generationId : Nat) (link : Text) : Prop :=
  ∃ r, history.get? generationId = some r ∧ r.state = .confirmed ∧ r.generatedUrl = some link ∧
    r.identityKey = .coin (env.fingerprint service.appSecret value
      "aliexpress-coin-shadow-input-v1".toList) ∧
    r.trackingFingerprint = some (env.fingerprint service.appSecret service.trackingId
      "aliexpress-coin-shadow-tracking-v1".toList)

section Calls

variable {env : Environment} {history history' : Generations} {q : Request} {phase phase' : Phase}
  {t t' : CoinTables} {uuid : Nat}

theorem Prepared.evolves {winner : Winner} (h : Prepared env history winner)
    (hevolves : Evolves history history') : Prepared env history' winner := by
  obtain ⟨now, uuid, hprepared⟩ := h
  exact ⟨now, uuid, hevolves.hasPreparation hprepared⟩

theorem Serves.evolves (h : Serves env history q phase) (hevolves : Evolves history history') :
    Serves env history' q phase := by
  cases phase with
  | idle | rejecting | closing => trivial
  | recovering | claiming => exact h
  | calling | started | storing => exact ⟨h.1, h.2.evolves hevolves⟩

theorem ConfirmedLink.evolves {service : CoinService} {value : Text} {generationId : Nat}
    {link : Text} (h : ConfirmedLink env history service value generationId link)
    (hevolves : Evolves history history') :
    ConfirmedLink env history' service value generationId link := by
  obtain ⟨r, hr, hstate, hrest⟩ := h
  exact ⟨r, hevolves.confirmed hr hstate, hstate, hrest⟩

theorem hasPreparation_prepare {p : AffiliateLinkHistoryRepository.Preparation}
    {request : Option Nat} {generationId : Nat}
    (h : AffiliateLinkHistoryRepository.prepare history p request = .ok (history', generationId)) :
    HasPreparation history' generationId p := by
  obtain ⟨-, base, hscope, hkey, -, rfl⟩ := AffiliateLinkHistoryRepository.prepare_eq_ok h
  exact ⟨_, get?_put_self _ _ _, AffiliateLinkHistoryRepository.preparedAs_prepared hscope hkey⟩

/-- **A call keeps standing for its request** until it is over. -/
theorem CallStep.serves {result : Option (Except (Option String) Outcome)}
    (h : CallStep env uuid t t' phase phase' result) (hs : Serves env t.history q phase) :
    Serves env t'.history q phase' := by
  cases h with
  | recover => exact hs
  | won h =>
    obtain ⟨-, -, ⟨hnone, -⟩ | ⟨g, hg, -, hprepare, -⟩⟩ := CoinGeneration.claimAndPrepare_eq_ok h
    · cases hnone
    · obtain rfl := Option.some.inj hg
      exact ⟨hs, _, _, hasPreparation_prepare hprepare⟩
  | lost | store => trivial
  | @start _ _ h =>
    have hchange : CoinGeneration.Change 0 t t' := CoinGeneration.change_markStarted h
    exact ⟨hs.1, hs.2.evolves hchange.history⟩
  | @answer winner now answer h =>
    rw [h]
    cases answer with
    | complete code => trivial
    | response payload =>
      unfold CoinGeneration.answered
      dsimp only
      split
      · exact hs
      · trivial
  | leave _ hphase _ =>
    cases phase' with
    | idle | rejecting | closing => trivial
    | _ => exact hphase.elim

/-! ## A link from the cache -/

/-- A claim which won nothing found a row. -/
theorem exists_found {evidence evidence' : CoinShadowEvidences} {input tracking : Text}
    {promotionLinkType : Nat} {now leaseUntil : Instant} {leaseToken : Nat} {c : CoinShadowClaim}
    (h : claim history evidence input tracking promotionLinkType now leaseUntil leaseToken =
      .ok (evidence', c)) (hlost : c.disposition ≠ .generate) :
    ∃ row, find (tidied evidence now) input tracking promotionLinkType = some row ∧
      c = claimForExisting row := by
  obtain ⟨_, -, h⟩ := bind_eq_ok.1 h
  obtain ⟨_, -, h⟩ := bind_eq_ok.1 h
  obtain ⟨_, -, h⟩ := bind_eq_ok.1 h
  replace h := Except.ok.inj h
  unfold insertOrFind at h
  split at h
  · next row hrow =>
    obtain ⟨-, rfl⟩ := Prod.mk.inj h
    exact ⟨row, hrow, rfl⟩
  · obtain ⟨-, rfl⟩ := Prod.mk.inj h
    exact absurd rfl hlost

/-- A row that is ready after the sweep was so before. -/
theorem get?_of_tidied {evidence : CoinShadowEvidences} {now : Instant} {id : Nat}
    {e : CoinShadowEvidence} (h : (tidied evidence now).get? id = some e)
    (hready : e.state = .ready) : evidence.get? id = some e := by
  rw [get?_tidied] at h
  obtain ⟨e', he', hleaves⟩ := Option.bind_eq_some_iff.1 h
  unfold leaves at hleaves
  split at hleaves
  · cases hleaves
  · obtain rfl := Option.some.inj hleaves
    by_cases hexpired : Expired now e'
    · rw [if_pos hexpired] at hready
      cases hready
    · rw [if_neg hexpired]
      exact he'

/-- **What a claim finds ready was checked in the history**, with its generation. -/
theorem confirmedLink_of_lost {now : Instant} {unchanged : Bool} {c : CoinShadowClaim}
    (h : CoinGeneration.claimAndPrepare env t q now uuid unchanged = .ok (t', c, none))
    (hrequest : q.generationRequest = none) (hready : c.state = .ready) :
    ∃ g link, c.generationId = some g ∧ c.promotionLink.getD [] = link ∧
      ConfirmedLink env t'.history q.service q.sourceValue g link := by
  obtain ⟨_, -, h⟩ := bind_eq_ok.1 h
  obtain ⟨replaced, hreplaced, h⟩ := bind_eq_ok.1 h
  rw [hrequest] at hreplaced
  obtain rfl := Except.ok.inj hreplaced
  obtain ⟨_, hrows, h⟩ := bind_eq_ok.1 h
  obtain ⟨_, -, h⟩ := bind_eq_ok.1 h
  obtain ⟨⟨evidence, c'⟩, hclaim, h⟩ := bind_eq_ok.1 h
  unfold CoinGeneration.prepareWon at h
  split at h
  · obtain ⟨_, -, h⟩ := bind_eq_ok.1 h
    cases Except.ok.inj h
  · next hlost =>
    obtain ⟨rfl, hrest⟩ := Prod.mk.inj (Except.ok.inj h)
    obtain ⟨rfl, -⟩ := Prod.mk.inj hrest
    obtain ⟨row, hfind, rfl⟩ := exists_found hclaim hlost
    obtain ⟨hrow, hinput, htracking, -⟩ := mem_select.1 (List.mem_of_head? hfind)
    have hget := get?_of_tidied hrow hready
    rw [get?_deleteWhere] at hget
    obtain ⟨hget, -⟩ := Option.filter_eq_some_iff.1 hget
    -- the row is one of those the loop before the claim has checked
    have hmem : (row.1, row.2) ∈ t.evidence.select fun id e =>
        e.inputFingerprint = (coinPreparation env q.service q.sourceValue now uuid
          q.origin).inputFingerprint ∧ some id ≠ none :=
      mem_select.2 ⟨hget, hinput, Option.some_ne_none _⟩
    obtain ⟨_, -, hchecked⟩ := exists_of_mem_right (mapM_eq_ok.1 hrows).flip hmem
    obtain ⟨_, -, hchecked⟩ := bind_eq_ok.1 hchecked
    have hrowReady : row.2.state = .ready := hready
    rw [if_pos hrowReady] at hchecked
    obtain ⟨r, hvalid, -⟩ := bind_eq_ok.1 hchecked
    obtain ⟨r', hlink, hvalid⟩ := bind_eq_ok.1 hvalid
    obtain ⟨_, hagrees, hvalid⟩ := bind_eq_ok.1 hvalid
    obtain rfl := Except.ok.inj hvalid
    obtain ⟨g, hg, hr, hstate, hurl, -, htracked, -⟩ :=
      AffiliateLinkHistoryRepository.validateLink_eq_ok hlink
    have hidentity := (check_eq_ok.1 hagrees).2.1
    refine ⟨g, _, hg, rfl, r', hr, hstate, hurl, ?_, ?_⟩
    · rw [hidentity, hinput]
      rfl
    · rw [htracked, htracking]
      rfl

/-- **A usable outcome rests on a confirmed generation** of its input. -/
theorem CallStep.confirmed {o : Outcome} (h : CallStep env uuid t t' phase phase' (some (.ok o)))
    (hs : Serves env t.history q phase) (hrequest : q.generationRequest = none) (ho : o.Usable) :
    ∃ g link, o.generationId = some g ∧ o.promotionLink = some link ∧
      ConfirmedLink env t'.history q.service q.sourceValue g link := by
  cases h with
  | @lost q' now unchanged claim h =>
    obtain rfl : q' = q := hs
    have hready : claim.state = .ready := by
      have hstate := ho.1
      unfold claimOutcome at hstate
      split at hstate
      · exact hstate
      · cases hstate
      · exact hstate
      · exact hstate
    have hdisposition : (claimOutcome claim).generationId = claim.generationId ∧
        (claimOutcome claim).promotionLink = claim.promotionLink := by
      have hlink := ho.2.1
      unfold claimOutcome at hlink ⊢
      split at hlink
      · exact ⟨rfl, rfl⟩
      · exact absurd rfl hlink
      · exact ⟨rfl, rfl⟩
      · exact ⟨rfl, rfl⟩
    obtain ⟨g, link, hg, hlink, hconfirmed⟩ := confirmedLink_of_lost h hrequest hready
    obtain ⟨hid, hpromotion⟩ := hdisposition
    have hne := ho.2.1
    rw [hpromotion] at hne
    obtain ⟨link', hlink'⟩ : ∃ link', claim.promotionLink = some link' := by
      cases hnone : claim.promotionLink with
      | some link' => exact ⟨link', rfl⟩
      | none =>
        rw [hnone] at hne
        exact absurd rfl hne
    rw [hlink', Option.getD_some] at hlink
    obtain rfl := hlink
    exact ⟨g, link', hid.trans hg, hpromotion.trans hlink', hconfirmed⟩
  | @store winner parsed generatedAt h =>
    obtain ⟨rfl, now, uuid', r₀, hr₀, hprepared⟩ := hs
    obtain ⟨hconfirm, -⟩ := CoinGeneration.storeLink_eq_ok h
    obtain ⟨⟨r, hr, -, hr'⟩, -⟩ := get?_of_updateOne hconfirm
    obtain rfl := Option.some.inj (hr.symm.trans hr₀)
    exact ⟨winner.generationId, parsed.promotionLink, rfl, rfl, _, hr', rfl, rfl,
      hprepared.identityKey, hprepared.trackingFingerprint⟩
  | leave _ _ hresult => exact absurd ho (hresult o rfl)

end Calls

end MultiPreview
end PromoBot
