import PromoBot.Affiliate.EvidenceLockstep
import PromoBot.Affiliate.MultiStages

/-!
# What previews of several links show

Two facts about every run of `prepare`, whatever happens between its waits.

`effects_orderly` is about what a run does outside: requests of wrappers come before those of
links, nothing is requested twice, and a preview is stored at the end.

`previews_faithful` is about what it stores: the text of a preview is that of the message with
the spans of its links exchanged, and nothing else changed; each of the new links is confirmed
in the history, for the short link its source stands for.  Which message that is, the row does
not tell: it keeps a fingerprint only, of where the message comes from and not of its text.  So
the message is that of the call of `prepare` which stored the row (`PreparedFor`), and every
run of the system has to be followed from the call to the row (`waiting_or_called`).

## The invariant of one run

A `prepare` stops in a few places only: at the request of a wrapper, at the call for a link,
and at the transaction that stores.  Between them it computes, and what it computed is what it
carries from one stop to the next.  `FitsAt` says for each stop what a run has there: the
occurrences of the message it was called with, the wrappers it fetched and what they stand for,
the links generated so far with their rows in the history, and the effects that got it there,
in order.

A step is of one run, or of nobody (`actorOf`).  `FitsAt.own` is about the steps of the run
itself: it goes to the next stop, with one effect more.  The steps of others leave its stage
and its effects alone, and only add to the history, where a confirmed link stays confirmed.
Both theorems are then the same induction, from the step that calls `prepare` on.

The links are the part with content.  A generation belongs to a short link by its fingerprint,
and what a run is given for a link is what its own generation was confirmed with.  That the
link put in the place of an occurrence is that of the occurrence then comes down to the run
asking for every short link once, and keeping the answers under the links they are for.
-/

namespace PromoBot
namespace MultiPreview

open Conversion Fallible SqlTable PyUrl CoinOccurrences
open CoinGeneration (Phase Request)
open AffiliateLinkHistoryRepository (Evolves)
open SeuHardwareShortResolver (Fetch)

variable {env : Clockwork} {w w' : World} {a : Action} {p : Nat} {job : Job}

/-! ## A run -/

/-- ASCII, a keyed function whose values are 64 digits, and one text for every time. -/
def testClockwork : Clockwork where
  unicode := .ascii
  hmac key message := ((message ++ key).map (fun c => Char.ofNat (48 + c.toNat % 10)) ++
    List.replicate 64 '0').take 64
  scope := .shadow
  isAware _ := true
  isoformat _ := "2026-01-01T00:00:00+00:00".toList

theorem wrapperService_configured : "secret".toList ≠ [] ∧ "t1".toList ≠ [] := by
  decide

theorem wrapperLink_ne_blank : Text.strip "https://seuhardware.com/s/AbCd123".toList ≠ [] := by
  decide

/-- A message which shows a wrapper. -/
def wrapperJob : Job where
  service := ⟨"secret".toList, "t1".toList, wrapperService_configured⟩
  message := { plainMessage with
    originalText := "Moedas: https://seuhardware.com/s/AbCd123!".toList
    links := [⟨"https://seuhardware.com/s/AbCd123".toList, .text, 0, wrapperLink_ne_blank⟩] }
  maxOccurrences := 3
  wrappers := true

/-- The wrapper redirects to a short coin link. -/
def wrapperNetwork : SeuHardwareShortResolver.WrapperNetwork Unit where
  unicode := .ascii
  ips := ⟨some, fun _ => true⟩
  resolve _ _ := .ok ["93.184.216.34".toList]
  beforeRequest := .ok ()
  fetch _ _ := .ok ⟨302, [("location".toList, "https://a.aliexpress.com/_firsta1".toList)],
    some "93.184.216.34".toList⟩

/-- Nothing has happened. -/
def quietWorld : World := ⟨CoinGeneration.emptyWorld, ∅, ∅, 0, fun _ => .absent, []⟩

/-- `prepare` is called. -/
def calledWorld : World := quietWorld.withStage 0 (begun wrapperJob 1)

/-- The wrapper is resolved, its link is generated, and the preview is stored. -/
def shownWorld : World := (system testClockwork).endOf calledWorld
  [.resolve 0 wrapperNetwork 1, .recover 0 1, .inspect 0 1 1 1, .probe 0 1 1 1,
    .base (.recover 0), .base (.claim 0 true), .base (.start 0 2),
    .base (.answer 0 (.response CoinGeneration.firstAnswer) 3), .base (.store 0 true), .save 0 4]

theorem init_quietWorld : (system testClockwork).init quietWorld := ⟨rfl, fun _ => rfl, rfl⟩

theorem step_calledWorld :
    step testClockwork quietWorld (.start 0 wrapperJob 1) = some calledWorld := rfl

theorem run_shownWorld : (system testClockwork).Run calledWorld shownWorld :=
  TransitionSystem.run_endOf (by decide +kernel)

/-! ## The effects of a run -/

/-- What a run did. -/
def effectsOf (effects : List (Nat × Effect)) (p : Nat) : List Effect :=
  (effects.filter fun e => e.1 = p).map Prod.snd

theorem effectsOf_append (effects effects' : List (Nat × Effect)) (p : Nat) :
    effectsOf (effects ++ effects') p = effectsOf effects p ++ effectsOf effects' p := by
  rw [effectsOf, List.filter_append, List.map_append]
  rfl

theorem effectsOf_self (l : List Effect) (p : Nat) :
    effectsOf (l.map fun e => (p, e)) p = l := by
  have hall : ∀ e ∈ l.map fun e => (p, e), decide (e.1 = p) = true := by
    intro e he
    obtain ⟨f, -, rfl⟩ := List.mem_map.1 he
    exact decide_eq_true rfl
  rw [effectsOf, List.filter_eq_self.2 hall, List.map_map]
  exact List.map_id l

theorem effectsOf_ne {p' : Nat} (l : List Effect) (hne : p' ≠ p) :
    effectsOf (l.map fun e => (p', e)) p = [] := by
  have hnone : ∀ e ∈ l.map fun e => (p', e), ¬ decide (e.1 = p) = true := by
    intro e he
    obtain ⟨f, -, rfl⟩ := List.mem_map.1 he
    exact fun h => hne (of_decide_eq_true h)
  rw [effectsOf, List.filter_eq_nil_iff.2 hnone, List.map_nil]

/-- What a run sends in a step of its call, at its stage. -/
def sentAt (v v' : CoinGeneration.World) (p : Nat) : Stage → List Effect
  | .generating _ value _ _ => sentIn value (v.calls p) (v'.calls p)
  | _ => []

theorem sentAt_eq_nil {v v' : CoinGeneration.World} {stage : Stage}
    (h : ∀ plan value todo generated, stage ≠ .generating plan value todo generated) :
    sentAt v v' p stage = [] := by
  cases stage with
  | generating => exact absurd rfl (h _ _ _ _)
  | _ => rfl

theorem sentBy_eq (v v' : CoinGeneration.World) (p : Nat) (stage : Stage) :
    sentBy v v' p stage = (sentAt v v' p stage).map fun e => (p, e) := by
  cases stage with
  | generating plan value todo generated =>
    unfold sentBy sentAt sentIn
    cases v.calls p <;> cases v'.calls p <;> rfl
  | _ => rfl

/-! ## What a step changes -/

/-- What `save_ready` writes is one row, of what it is called with. -/
theorem get?_of_saveReady {isAware : Text → Bool} {history : Generations}
    {q : CoinShadowMultiPreviewRepository.Save} {evidence : CoinShadowEvidences}
    {uses uses' : LinkUses} {previews previews' : CoinShadowMultiPreviews} {sequence id : Nat}
    {row : CoinShadowMultiPreview}
    (h : CoinShadowMultiPreviewRepository.saveReady isAware history evidence uses previews sequence
      q = .ok (uses', previews')) (hrow : previews'.get? id = some row) :
    previews.get? id = some row ∨ ∃ expiry historyUseId,
      row = CoinShadowMultiPreviewRepository.savedRow q expiry historyUseId := by
  obtain ⟨_, -, h⟩ := bind_eq_ok.1 h
  obtain ⟨_, -, h⟩ := bind_eq_ok.1 h
  obtain ⟨_, -, h⟩ := bind_eq_ok.1 h
  obtain ⟨expiry, -, h⟩ := bind_eq_ok.1 h
  split at h
  · obtain ⟨_, -, h⟩ := bind_eq_ok.1 h
    obtain ⟨_, -, h⟩ := bind_eq_ok.1 h
    obtain ⟨-, rfl⟩ := Prod.mk.inj (Except.ok.inj h)
    exact Or.inl hrow
  · obtain ⟨recorded, -, h⟩ := bind_eq_ok.1 h
    obtain ⟨_, -, h⟩ := bind_eq_ok.1 h
    obtain ⟨-, rfl⟩ := Prod.mk.inj (Except.ok.inj h)
    rw [get?_put] at hrow
    split at hrow
    · exact Or.inr ⟨expiry, some recorded.2, (Option.some.inj hrow).symm⟩
    · exact Or.inl hrow

/-- The action stores the row, for the run it is a step of. -/
def SavedBy (env : Clockwork) (w : World) (a : Action) (row : CoinShadowMultiPreview) : Prop :=
  ∃ p plan generated now q expiry historyUseId, a = .save p now ∧
    w.stages p = .saving plan generated ∧ plan.save env generated now = .ok q ∧
    row = CoinShadowMultiPreviewRepository.savedRow q expiry historyUseId

/-- **What every step leaves behind**: the history evolves, more is done, and a preview is an
old one or that of a run which stores it. -/
structure Grows (env : Clockwork) (w : World) (a : Action) (w' : World) : Prop where
  history : Evolves w.base.tables.history w'.base.tables.history
  effects : ∃ more, w'.effects = w.effects ++ more
  previews : ∀ id row, w'.previews.get? id = some row →
    w.previews.get? id = some row ∨ SavedBy env w a row

theorem Grows.of_base (hbase : Evolves w.base.tables.history w'.base.tables.history)
    (heffects : ∃ more, w'.effects = w.effects ++ more) (hpreviews : w'.previews = w.previews) :
    Grows env w a w' where
  history := hbase
  effects := heffects
  previews := fun _ _ hrow => Or.inl (hpreviews ▸ hrow)

theorem Grows.of_stage (p : Nat) (stage : Stage) : Grows env w a (w.withStage p stage) :=
  .of_base (Evolves.refl _) ⟨[], (List.append_nil _).symm⟩ rfl

theorem grows_of_step (h : step env w a = some w') : Grows env w a w' := by
  cases a <;> unfold step at h <;> dsimp only at h
  case start =>
    split at h
    · obtain rfl := Option.some.inj h
      exact .of_stage _ _
    · cases h
  case resolve =>
    split at h
    · obtain rfl := Option.some.inj h
      exact .of_base (Evolves.refl _) ⟨_, rfl⟩ rfl
    · cases h
  case recover p now =>
    split at h
    · obtain rfl := Option.some.inj h
      have hchange : CoinGeneration.Change 0 w.base.tables
          (CoinGeneration.recover w.base.tables now) := CoinGeneration.change_recover now
      exact .of_base hchange.history ⟨[], (List.append_nil _).symm⟩ rfl
    · cases h
  case inspect =>
    split at h
    · split at h
      all_goals
        obtain rfl := Option.some.inj h
        exact .of_stage _ _
    · cases h
  case probe =>
    split at h
    · split at h
      · obtain rfl := Option.some.inj h
        exact .of_stage _ _
      · split at h
        · obtain rfl := Option.some.inj h
          exact .of_stage _ _
        · obtain ⟨base, hbase, rfl⟩ := Option.map_eq_some_iff.1 h
          exact .of_base (evolves_step hbase) ⟨[], (List.append_nil _).symm⟩ rfl
    · cases h
  case save p now =>
    split at h
    · next plan generated hstage =>
      split at h
      · next uses previews q hsaved =>
        obtain rfl := Option.some.inj h
        obtain ⟨q', hsave, hsaved⟩ := bind_eq_ok.1 hsaved
        obtain ⟨written, hwritten, hsaved⟩ := bind_eq_ok.1 hsaved
        obtain ⟨huses, hrest⟩ := Prod.mk.inj (Except.ok.inj hsaved)
        obtain ⟨rfl, rfl⟩ := Prod.mk.inj hrest
        refine ⟨Evolves.refl _, ⟨_, rfl⟩, fun id row hrow => ?_⟩
        refine (get?_of_saveReady hwritten hrow).imp_right ?_
        rintro ⟨expiry, historyUseId, hnew⟩
        exact ⟨p, plan, generated, now, q', expiry, historyUseId, rfl, hstage, hsave, hnew⟩
      · obtain rfl := Option.some.inj h
        exact .of_stage _ _
    · cases h
  case abandon =>
    split at h
    · cases h
    · cases h
    · cases h
    · obtain rfl := Option.some.inj h
      exact .of_stage _ _
  case base =>
    split at h
    · obtain ⟨base, hbase, rfl⟩ := Option.map_eq_some_iff.1 h
      exact .of_base (evolves_step hbase) ⟨[], (List.append_nil _).symm⟩ rfl
    · split at h
      · obtain ⟨base, hbase, rfl⟩ := Option.map_eq_some_iff.1 h
        exact .of_base (evolves_step hbase) ⟨[], (List.append_nil _).symm⟩ rfl
      · split at h
        · cases h
        · obtain ⟨base, hbase, rfl⟩ := Option.map_eq_some_iff.1 h
          exact .of_base (evolves_step hbase) ⟨_, rfl⟩ rfl
  case uses =>
    obtain rfl := Option.some.inj h
    exact .of_base (Evolves.refl _) ⟨[], (List.append_nil _).symm⟩ rfl
  case purge ids =>
    obtain rfl := Option.some.inj h
    refine ⟨Evolves.refl _, ⟨[], (List.append_nil _).symm⟩, fun id row hrow => ?_⟩
    replace hrow : (w.previews.deleteWhere fun id _ => id ∈ ids).get? id = some row := hrow
    rw [get?_deleteWhere] at hrow
    exact Or.inl (Option.filter_eq_some_iff.1 hrow).1

/-! ## Whose step it is -/

/-- The run an action is one of. -/
def actorOf : Action → Option Nat
  | .start p _ _ | .resolve p _ _ | .recover p _ | .inspect p _ _ _ | .probe p _ _ _ | .save p _
  | .abandon p => some p
  | .base a => callOf a
  | .uses _ | .purge _ => none

/-- A run only moves by its own actions. -/
theorem frame_of_step (h : step env w a = some w') (hp : actorOf a ≠ some p) :
    w'.stages p = w.stages p ∧ w'.base.calls p = w.base.calls p ∧
      effectsOf w'.effects p = effectsOf w.effects p := by
  have hother : ∀ (p' : Nat) (stage : Stage), actorOf a = some p' →
      (w.withStage p' stage).stages p = w.stages p := by
    intro p' stage hactor
    have hne : p ≠ p' := fun heq => hp (heq ▸ hactor)
    exact Function.update_of_ne hne stage w.stages
  have hmore : ∀ (p' : Nat) (l : List Effect), actorOf a = some p' →
      effectsOf (w.effects ++ l.map fun e => (p', e)) p = effectsOf w.effects p := by
    intro p' l hactor
    have hne : p' ≠ p := fun heq => hp (heq ▸ hactor)
    rw [effectsOf_append, effectsOf_ne l hne, List.append_nil]
  cases a <;> unfold step at h <;> dsimp only at h
  case start p' job sendBudget =>
    split at h
    · obtain rfl := Option.some.inj h
      exact ⟨hother p' _ rfl, rfl, rfl⟩
    · cases h
  case resolve p' net now =>
    split at h
    · next plan row rest heq =>
      obtain rfl := Option.some.inj h
      have hnew := hmore p'
        ((SeuHardwareShortResolver.resolve net row.sourceValue).fetches.map .fetch) rfl
      rw [List.map_map] at hnew
      exact ⟨hother p' _ rfl, rfl, hnew⟩
    · cases h
  case recover p' now =>
    split at h
    · obtain rfl := Option.some.inj h
      exact ⟨hother p' _ rfl, rfl, rfl⟩
    · cases h
  case inspect p' now sendBudget apiBudget =>
    split at h
    · split at h
      all_goals
        obtain rfl := Option.some.inj h
        exact ⟨hother p' _ rfl, rfl, rfl⟩
    · cases h
  case probe p' now apiBudget startedAt =>
    split at h
    · split at h
      · obtain rfl := Option.some.inj h
        exact ⟨hother p' _ rfl, rfl, rfl⟩
      · split at h
        · obtain rfl := Option.some.inj h
          exact ⟨hother p' _ rfl, rfl, rfl⟩
        · obtain ⟨base, hbase, rfl⟩ := Option.map_eq_some_iff.1 h
          exact ⟨hother p' _ rfl, calls_of_ne hbase hp, rfl⟩
    · cases h
  case save p' now =>
    split at h
    · split at h
      · obtain rfl := Option.some.inj h
        exact ⟨hother p' _ rfl, rfl, hmore p' [.save] rfl⟩
      · obtain rfl := Option.some.inj h
        exact ⟨hother p' _ rfl, rfl, rfl⟩
    · cases h
  case abandon p' =>
    split at h
    · cases h
    · cases h
    · cases h
    · obtain rfl := Option.some.inj h
      exact ⟨hother p' _ rfl, rfl, rfl⟩
  case base a =>
    split at h
    · obtain ⟨base, hbase, rfl⟩ := Option.map_eq_some_iff.1 h
      exact ⟨rfl, calls_of_ne hbase hp, rfl⟩
    · next p' hcall =>
      split at h
      · obtain ⟨base, hbase, rfl⟩ := Option.map_eq_some_iff.1 h
        exact ⟨rfl, calls_of_ne hbase hp, rfl⟩
      · split at h
        · cases h
        · obtain ⟨base, hbase, rfl⟩ := Option.map_eq_some_iff.1 h
          refine ⟨hother p' _ hcall, calls_of_ne hbase hp, ?_⟩
          show effectsOf (w.effects ++ sentBy w.base base p' (w.stages p')) p = _
          rw [sentBy_eq]
          exact hmore p' _ hcall
  case uses | purge =>
    obtain rfl := Option.some.inj h
    exact ⟨rfl, rfl, rfl⟩

/-! ## The invariant -/

/-- What holds of a run that was called with `job`. -/
def FitsAt (env : Clockwork) (w : World) (p : Nat) (job : Job) : Prop :=
  Fits env w.base.tables.history (w.base.calls p) (effectsOf w.effects p) job (w.stages p)

theorem stages_withStage (w : World) (p : Nat) (stage : Stage) :
    (w.withStage p stage).stages p = stage := by
  show Function.update w.stages p stage p = stage
  rw [Function.update_self]

theorem FitsAt.moved {w' : World} {stage : Stage} (hstage : w'.stages p = stage)
    (heffects : effectsOf w'.effects p = effectsOf w.effects p)
    (h : Fits env w'.base.tables.history (w'.base.calls p) (effectsOf w.effects p) job stage) :
    FitsAt env w' p job := by
  unfold FitsAt
  rwa [hstage, heffects]

/-- **A step of the call of a run** takes the run where the call leads it. -/
theorem FitsAt.generation {act : CoinGeneration.Action} {base : CoinGeneration.World}
    (hf : FitsAt env w p job) (hbase : CoinGeneration.step env.toEnvironment w.base act = some base)
    (hp : callOf act = some p) (hbegins : begins act = false) :
    FitsAt env { w.withStage p (stageAfter env w.base act (w.stages p)) with
      base := base
      effects := w.effects ++ sentBy w.base base p (w.stages p) } p job := by
  have hcall := callStep_of_step hbase hp hbegins
  have hkept : Fits env base.tables.history (w.base.calls p) (effectsOf w.effects p) job
      (w.stages p) := Fits.evolves hf (evolves_step hbase)
  unfold FitsAt
  show Fits env base.tables.history (base.calls p)
    (effectsOf (w.effects ++ sentBy w.base base p (w.stages p)) p) job
    ((w.withStage p (stageAfter env w.base act (w.stages p))).stages p)
  rw [stages_withStage, sentBy_eq, effectsOf_append, effectsOf_self]
  cases hstage : w.stages p with
  | generating plan value todo generated =>
    have hafter : stageAfter env w.base act (.generating plan value todo generated) =
        stageOf plan value todo generated (ending env w.base act) := by
      unfold stageAfter stageOf
      cases ending env w.base act <;> rfl
    have hfits : Fits env w.base.tables.history (w.base.calls p) (effectsOf w.effects p) job
        (.generating plan value todo generated) := hstage ▸ hf
    rw [hafter]
    exact fits_callStep hcall hfits
  | _ =>
    rw [hstage] at hkept
    rw [sentAt_eq_nil fun _ _ _ _ heq => (by cases heq), List.append_nil]
    exact hkept.rephase fun _ _ _ _ heq => by cases heq

/-- **A run goes from stage to stage**: what holds of it is kept by its own actions. -/
theorem FitsAt.own (hf : FitsAt env w p job) (h : step env w a = some w')
    (hp : actorOf a = some p) : FitsAt env w' p job := by
  have hevolves := (grows_of_step h).history
  have hkept : Fits env w'.base.tables.history (w.base.calls p) (effectsOf w.effects p) job
      (w.stages p) := Fits.evolves hf hevolves
  cases a <;> unfold step at h <;> dsimp only at h
  case start p' job' sendBudget =>
    obtain rfl := Option.some.inj hp
    split at h
    · next hstage _ =>
      rw [hstage] at hkept
      exact hkept.elim
    · cases h
  case resolve p' net now =>
    obtain rfl := Option.some.inj hp
    split at h
    · next plan row rest hstage =>
      obtain rfl := Option.some.inj h
      rw [hstage] at hkept
      have hnext := fits_afterWrapper net now hkept
      have hown := effectsOf_self
        ((SeuHardwareShortResolver.resolve net row.sourceValue).fetches.map Effect.fetch) p'
      rw [List.map_map] at hown
      unfold FitsAt
      show Fits env w.base.tables.history (w.base.calls p')
        (effectsOf (w.effects ++ _) p') job ((w.withStage p' _).stages p')
      rw [stages_withStage, effectsOf_append]
      exact hown.symm ▸ hnext
    · cases h
  case recover p' now =>
    obtain rfl := Option.some.inj hp
    split at h
    · next plan hstage =>
      obtain rfl := Option.some.inj h
      rw [hstage] at hkept
      exact .moved (stages_withStage w p' _) rfl hkept
    · cases h
  case inspect p' now sendBudget apiBudget =>
    obtain rfl := Option.some.inj hp
    split at h
    · next plan value todo missing hstage =>
      rw [hstage] at hkept
      split at h
      · obtain rfl := Option.some.inj h
        exact .moved (stages_withStage w p' _) rfl hkept.orderly
      · next found hfound =>
        obtain rfl := Option.some.inj h
        refine .moved (stages_withStage w p' _) rfl ?_
        split
        · exact fits_afterInspection _ sendBudget apiBudget hkept
        · exact hkept
    · cases h
  case probe p' now apiBudget startedAt =>
    obtain rfl := Option.some.inj hp
    split at h
    · next plan value todo generated hstage =>
      rw [hstage] at hkept
      split at h
      · obtain rfl := Option.some.inj h
        exact .moved (stages_withStage w p' _) rfl hkept.orderly
      · split at h
        · obtain rfl := Option.some.inj h
          exact .moved (stages_withStage w p' _) rfl hkept.orderly
        · obtain ⟨base, hbase, rfl⟩ := Option.map_eq_some_iff.1 h
          exact .moved (stages_withStage w p' _) rfl (fits_asked (phase_of_begins hbase) hkept)
    · cases h
  case save p' now =>
    obtain rfl := Option.some.inj hp
    split at h
    · next plan generated hstage =>
      rw [hstage] at hkept
      split at h
      · next uses previews q hsaved =>
        obtain rfl := Option.some.inj h
        unfold FitsAt
        show Fits env w.base.tables.history (w.base.calls p')
          (effectsOf (w.effects ++ [Effect.save].map fun e => (p', e)) p') job
          ((w.withStage p' _).stages p')
        rw [stages_withStage, effectsOf_append, effectsOf_self]
        exact orderly_saved hkept
      · obtain rfl := Option.some.inj h
        exact .moved (stages_withStage w p' _) rfl hkept.orderly
    · cases h
  case abandon p' =>
    obtain rfl := Option.some.inj hp
    split at h
    · cases h
    · cases h
    · cases h
    · obtain rfl := Option.some.inj h
      exact .moved (stages_withStage w p' _) rfl hkept.orderly
  case base act =>
    rw [show callOf act = some p from hp] at h
    dsimp only at h
    split at h
    · next hstage =>
      rw [hstage] at hkept
      exact hkept.elim
    · next stage hpresent =>
      split at h
      · cases h
      · next hbegins =>
        obtain ⟨base, hbase, rfl⟩ := Option.map_eq_some_iff.1 h
        exact hf.generation hbase hp (Bool.eq_false_iff.2 hbegins)
  case uses | purge => cases hp

theorem FitsAt.step (hf : FitsAt env w p job) (h : step env w a = some w') :
    FitsAt env w' p job := by
  by_cases hp : actorOf a = some p
  · exact hf.own h hp
  · obtain ⟨hstage, hcall, heffects⟩ := frame_of_step h hp
    refine .moved hstage heffects ?_
    rw [hcall]
    exact Fits.evolves hf (grows_of_step h).history

/-- A run which was not called has done nothing. -/
def Waiting (w : World) (p : Nat) : Prop := w.stages p = .absent ∧ effectsOf w.effects p = []

theorem fitsAt_start {sendBudget : Nat} (hw : Waiting w p)
    (h : step env w (.start p job sendBudget) = some w') : FitsAt env w' p job := by
  unfold MultiPreview.step at h
  dsimp only at h
  split at h
  · obtain rfl := Option.some.inj h
    refine .moved (w := w) (stages_withStage w p _) rfl ?_
    rw [hw.2]
    exact fits_begun sendBudget
  · cases h

/-- A run waits until it is called. -/
theorem Waiting.step (hw : Waiting w p) (h : step env w a = some w') :
    Waiting w' p ∨ ∃ job sendBudget, a = .start p job sendBudget ∧ FitsAt env w' p job := by
  by_cases hp : actorOf a = some p
  · have habsent := hw.1
    cases a with
    | start p' job sendBudget =>
      obtain rfl := Option.some.inj hp
      exact Or.inr ⟨job, sendBudget, rfl, fitsAt_start hw h⟩
    | base act =>
      unfold MultiPreview.step at h
      dsimp only at h
      rw [show callOf act = some p from hp] at h
      dsimp only at h
      rw [habsent] at h
      obtain ⟨base, -, rfl⟩ := Option.map_eq_some_iff.1 h
      exact Or.inl hw
    | uses | purge => cases hp
    | _ =>
      obtain rfl := Option.some.inj hp
      unfold MultiPreview.step at h
      dsimp only at h
      rw [habsent] at h
      cases h
  · obtain ⟨hstage, -, heffects⟩ := frame_of_step h hp
    exact Or.inl ⟨hstage.trans hw.1, heffects.trans hw.2⟩

/-- In a run from `w₀` to `w`, `prepare` was called with this job as the run `p`. -/
def Called (env : Clockwork) (w₀ w : World) (p : Nat) (job : Job) : Prop :=
  ∃ sendBudget v v', (system env).Run w₀ v ∧ step env v (.start p job sendBudget) = some v' ∧
    (system env).Run v' w

theorem Called.step {w₀ : World} (hc : Called env w₀ w p job) (h : step env w a = some w') :
    Called env w₀ w' p job := by
  obtain ⟨sendBudget, v, v', hbefore, hstart, hafter⟩ := hc
  exact ⟨sendBudget, v, v', hbefore, hstart, hafter.tail trivial h⟩

/-- A run waits, or was called and fits. -/
theorem waiting_or_called {w₀ : World} (hinit : (system env).init w₀)
    (hrun : (system env).Run w₀ w) (p : Nat) :
    Waiting w p ∨ ∃ job, Called env w₀ w p job ∧ FitsAt env w p job := by
  have hboth : (system env).Run w₀ w ∧
      (Waiting w p ∨ ∃ job, Called env w₀ w p job ∧ FitsAt env w p job) := by
    refine hrun.invariant (P := fun w => (system env).Run w₀ w ∧
      (Waiting w p ∨ ∃ job, Called env w₀ w p job ∧ FitsAt env w p job))
      ⟨.refl _, Or.inl ⟨hinit.2.1 p, ?_⟩⟩ fun v a v' hv _ hstep => ⟨hv.1.tail trivial hstep, ?_⟩
    · rw [hinit.2.2]
      rfl
    · rcases hv.2 with hw | ⟨job, hcalled, hf⟩
      · rcases hw.step hstep with hw | ⟨job, sendBudget, rfl, hf⟩
        · exact Or.inl hw
        · exact Or.inr ⟨job, ⟨sendBudget, v, v', hv.1, hstep, .refl _⟩, hf⟩
      · exact Or.inr ⟨job, hcalled.step hstep, hf.step hstep⟩
  exact hboth.2

/-- **What a run does outside is in order**, from the call of `prepare` on, whatever else
happens: it fetches wrappers of its message, each at most once, and all of them before it
requests the first link; it requests every short link at most once; and it stores at most one
preview, at the end. -/
theorem effects_orderly {w'' : World} {sendBudget : Nat} (hw : (system env).Reachable w)
    (hstart : step env w (.start p job sendBudget) = some w') (hrun : (system env).Run w' w'') :
    Orderly job (effectsOf w''.effects p) := by
  have hwaiting : Waiting w p := by
    obtain ⟨w₀, hinit, hbefore⟩ := hw
    rcases waiting_or_called hinit hbefore p with hwaiting | ⟨job', -, hf⟩
    · exact hwaiting
    · unfold MultiPreview.step at hstart
      dsimp only at hstart
      split at hstart
      · next hstage _ =>
        unfold FitsAt at hf
        rw [hstage] at hf
        exact hf.elim
      · cases hstart
  have hfits : FitsAt env w'' p job :=
    hrun.invariant (P := fun w => FitsAt env w p job) (fitsAt_start hwaiting hstart)
      fun _ _ _ hf _ hstep => hf.step hstep
  exact hfits.orderly

/-- A run that does each of the three things once. -/
theorem effects_orderly_shown : Orderly wrapperJob (effectsOf shownWorld.effects 0) ∧
    effectsOf shownWorld.effects 0 =
      [.fetch ⟨"https://seuhardware.com/s/AbCd123".toList, ["93.184.216.34".toList]⟩,
        .send "https://a.aliexpress.com/_firsta1".toList, .save] :=
  ⟨effects_orderly ⟨quietWorld, init_quietWorld, .refl _⟩ step_calledWorld run_shownWorld,
    by decide +kernel⟩

/-! ## What is stored -/

/-- **A preview shows the message of the run `p` with its links exchanged**: the spans of its
links, and nothing else, each for a link that is confirmed for the short link it stands for. -/
structure Faithful (env : Clockwork) (w : World) (p : Nat) (row : CoinShadowMultiPreview)
    (job : Job) (occurrences : List CoinShortOccurrence) (value link : Text → Text) : Prop where
  collected : collectCoinOccurrences job.message job.maxOccurrences job.wrappers = .ok occurrences
  fingerprint : row.sourceMessageFingerprint = job.fingerprint env
  rendered : row.renderedText = Text.spliceSpans 0 job.message.originalText
    (occurrences.map fun o => (o.start, o.stop, link o.sourceValue))
  short : utf16Length row.renderedText ≤ 4096
  stands : ∀ o ∈ occurrences, CoinShadow.coinShort.fullMatches (value o.sourceValue) = true ∧
    (value o.sourceValue = o.sourceValue ∨
      ∃ f, Effect.fetch f ∈ effectsOf w.effects p ∧ f.url = o.sourceValue)
  correlated : List.Forall₂ (fun o c => c.ordinal = o.ordinal ∧ c.spanStart = o.start ∧
      c.spanEnd = o.stop ∧ ConfirmedLink env.toEnvironment w.base.tables.history job.service
        (value o.sourceValue) c.generationId (link o.sourceValue)) occurrences row.occurrences

/-- A preview stays faithful as the history evolves and more is done. -/
theorem Faithful.mono {row : CoinShadowMultiPreview} {occurrences : List CoinShortOccurrence}
    {value link : Text → Text} (h : Faithful env w p row job occurrences value link)
    (hevolves : Evolves w.base.tables.history w'.base.tables.history)
    (heffects : w.effects ⊆ w'.effects) : Faithful env w' p row job occurrences value link where
  collected := h.collected
  fingerprint := h.fingerprint
  rendered := h.rendered
  short := h.short
  stands := by
    intro o ho
    obtain ⟨hshort, hsame | ⟨f, hf, hurl⟩⟩ := h.stands o ho
    · exact ⟨hshort, Or.inl hsame⟩
    · exact ⟨hshort, Or.inr ⟨f, List.map_subset _ (List.filter_subset _ heffects) hf, hurl⟩⟩
  correlated := h.correlated.imp fun o c ⟨hordinal, hstart, hstop, hconfirmed⟩ =>
    ⟨hordinal, hstart, hstop, hconfirmed.evolves hevolves⟩

section Saving

variable {history : Generations} {plan : Plan} {generated : List (Text × Outcome)}
  {fetches : List Fetch} {q : CoinShadowMultiPreviewRepository.Save} {now : Instant}

/-- Every short link has an outcome, with a confirmed link. -/
theorem Spending.exists_outcome {env : Environment} {value : Text}
    (h : Spending env history plan generated [] fetches)
    (hvalue : value ∈ plan.resolved.map Prod.snd) :
    ∃ outcome g link, generated.lookup value = some outcome ∧ outcome.generationId = some g ∧
      outcome.promotionLink = some link ∧
      ConfirmedLink env history plan.job.service value g link := by
  have hinputs : generated.map Prod.fst = plan.inputs := by
    have hall := h.inputs
    rwa [List.append_nil] at hall
  have hmem : value ∈ generated.map Prod.fst := by
    rw [hinputs]
    exact List.mem_eraseDups.2 hvalue
  obtain ⟨outcome, houtcome⟩ : ∃ outcome, generated.lookup value = some outcome := by
    refine Option.ne_none_iff_exists'.1 fun hnone => ?_
    exact Lookup.lookup_eq_none_iff_not_mem.1 hnone hmem
  obtain ⟨g, link, hg, hlink, hconfirmed⟩ := h.backed _ (Lookup.mem_of_lookup houtcome)
  exact ⟨outcome, g, link, houtcome, hg, hlink, hconfirmed⟩

/-- Every link of the message is replaced, by the link of its outcome. -/
theorem Spending.exists_replacement {env : Environment} {o : CoinShortOccurrence}
    (h : Spending env history plan generated [] fetches) (ho : o ∈ plan.occurrences) :
    ∃ value outcome g link, plan.resolved.lookup o.sourceValue = some value ∧
      generated.lookup value = some outcome ∧ outcome.generationId = some g ∧
      (plan.replacements generated).lookup o.sourceValue = some link ∧
      ResolvedAs fetches o.sourceValue value ∧
      ConfirmedLink env history plan.job.service value g link := by
  have hkey : o.sourceValue ∈ plan.resolved.map Prod.fst := by
    rcases h.reached o ho with htodo | hkey
    · cases htodo
    · exact hkey
  obtain ⟨value, hvalue⟩ : ∃ value, plan.resolved.lookup o.sourceValue = some value := by
    refine Option.ne_none_iff_exists'.1 fun hnone => ?_
    exact Lookup.lookup_eq_none_iff_not_mem.1 hnone hkey
  have hmem := Lookup.mem_of_lookup hvalue
  obtain ⟨outcome, g, link, houtcome, hg, hlink, hconfirmed⟩ :=
    h.exists_outcome (List.mem_map_of_mem hmem)
  have hreplaced : (plan.replacements generated).lookup o.sourceValue = some link := by
    have hsome : ∀ e ∈ plan.resolved,
        ((generated.lookup e.2).bind Outcome.promotionLink).isSome := by
      intro e he
      obtain ⟨outcome', g', link', houtcome', -, hlink', -⟩ :=
        h.exists_outcome (List.mem_map_of_mem he)
      rw [houtcome', Option.bind_some, hlink']
      rfl
    have hlookup := Lookup.lookup_filterMap_of_isSome
      (f := fun value => (generated.lookup value).bind Outcome.promotionLink) hsome o.sourceValue
    rw [hvalue, Option.bind_some, houtcome, Option.bind_some, hlink] at hlookup
    exact hlookup
  exact ⟨value, outcome, g, link, hvalue, houtcome, hg, hreplaced, (h.resolves _ hmem).1,
    hconfirmed⟩

/-- What `save_ready` is called with. -/
theorem save_eq_ok (h : plan.save env generated now = .ok q) :
    q.sourceMessageFingerprint = plan.job.fingerprint env ∧
      q.renderedText =
        renderReplacements plan.job.message.originalText (plan.replacements generated) ∧
      utf16Length q.renderedText ≤ 4096 ∧
      q.occurrences = plan.occurrences.map (plan.correlation generated) := by
  obtain ⟨⟨⟩, -, h⟩ := bind_eq_ok.1 h
  obtain ⟨⟨⟩, hshort, h⟩ := bind_eq_ok.1 h
  obtain rfl := Except.ok.inj h
  exact ⟨rfl, rfl, check_eq_ok.1 hshort, rfl⟩

theorem occurrences_eq {occurrences : List CoinShortOccurrence}
    (h : collectCoinOccurrences job.message job.maxOccurrences job.wrappers = .ok occurrences) :
    occurrences = (Parser.urlPattern.findIter job.message.originalText).zipIdx.map occurrence := by
  obtain ⟨_, -, h⟩ := bind_eq_ok.1 h
  obtain ⟨_, -, h⟩ := bind_eq_ok.1 h
  obtain ⟨_, -, h⟩ := bind_eq_ok.1 h
  obtain ⟨_, -, h⟩ := bind_eq_ok.1 h
  obtain ⟨_, -, h⟩ := bind_eq_ok.1 h
  obtain ⟨_, -, h⟩ := bind_eq_ok.1 h
  exact (Except.ok.inj h).symm

/-- **What a run saves is faithful.** -/
theorem faithful_saved {sends : List Text}
    (h : Spending env.toEnvironment w.base.tables.history plan generated [] fetches)
    (heffects : effectsOf w.effects p = fetches.map .fetch ++ sends.map .send)
    (hsave : plan.save env generated now = .ok q) (expiry : List Instant)
    (historyUseId : Option Nat) :
    Faithful env w p (CoinShadowMultiPreviewRepository.savedRow q expiry historyUseId) plan.job
      plan.occurrences (fun source => (plan.resolved.lookup source).getD [])
      fun source => ((plan.replacements generated).lookup source).getD source := by
  obtain ⟨hfingerprint, hrendered, hshort, hoccurrences⟩ := save_eq_ok hsave
  refine ⟨h.collected, hfingerprint, ?_, hshort, fun o ho => ?_, ?_⟩
  · show q.renderedText = _
    rw [hrendered, renderReplacements_eq_spliceSpans, ← occurrences_eq h.collected]
  · obtain ⟨value, outcome, g, link, hvalue, -, -, -, ⟨hcoin, hstands⟩, -⟩ :=
      h.exists_replacement ho
    rw [hvalue, Option.getD_some]
    refine ⟨hcoin, hstands.imp_right fun hfetched => ?_⟩
    obtain ⟨f, hf, hurl⟩ := List.mem_map.1 hfetched
    refine ⟨f, ?_, hurl⟩
    rw [heffects]
    exact List.mem_append_left _ (List.mem_map_of_mem hf)
  · show List.Forall₂ _ plan.occurrences q.occurrences
    rw [hoccurrences, List.forall₂_map_right_iff, List.forall₂_same]
    intro o ho
    obtain ⟨value, outcome, g, link, hvalue, houtcome, hg, hlink, -, hconfirmed⟩ :=
      h.exists_replacement ho
    refine ⟨rfl, rfl, rfl, ?_⟩
    have hgeneration : (plan.correlation generated o).generationId = g := by
      unfold Plan.correlation
      dsimp only
      rw [hvalue, Option.bind_some, houtcome, Option.bind_some, hg, Option.getD_some]
    rw [hgeneration, hvalue, hlink]
    exact hconfirmed

end Saving

/-- In a run from `w₀` to `w`, the call of `prepare` with this job as the run `p` has stored the
row under that number. -/
def PreparedFor (env : Clockwork) (w₀ w : World) (p : Nat) (job : Job) (id : Nat)
    (row : CoinShadowMultiPreview) : Prop :=
  ∃ now v v', Called env w₀ v p job ∧ step env v (.save p now) = some v' ∧
    v.previews.get? id ≠ some row ∧ v'.previews.get? id = some row ∧ (system env).Run v' w

theorem PreparedFor.step {w₀ : World} {id : Nat} {row : CoinShadowMultiPreview}
    (hp : PreparedFor env w₀ w p job id row) (h : step env w a = some w') :
    PreparedFor env w₀ w' p job id row := by
  obtain ⟨now, v, v', hcalled, hsave, hnew, hrow, hafter⟩ := hp
  exact ⟨now, v, v', hcalled, hsave, hnew, hrow, hafter.tail trivial h⟩

/-- Every preview shows the message its run was called with. -/
def AllFaithful (env : Clockwork) (w₀ w : World) : Prop :=
  ∀ id row, w.previews.get? id = some row → ∃ p job occurrences value link,
    PreparedFor env w₀ w p job id row ∧ Faithful env w p row job occurrences value link

theorem AllFaithful.step {w₀ : World} (hw : AllFaithful env w₀ w)
    (hruns : ∀ p, Waiting w p ∨ ∃ job, Called env w₀ w p job ∧ FitsAt env w p job)
    (h : step env w a = some w') : AllFaithful env w₀ w' := by
  intro id row hrow
  obtain ⟨hevolves, ⟨more, hmore⟩, hpreviews⟩ := grows_of_step h
  have hsub : w.effects ⊆ w'.effects := by
    rw [hmore]
    exact List.subset_append_left _ _
  by_cases hold : w.previews.get? id = some row
  · obtain ⟨p, job, occurrences, value, link, hprepared, hfaithful⟩ := hw id row hold
    exact ⟨p, job, occurrences, value, link, hprepared.step h, hfaithful.mono hevolves hsub⟩
  · obtain ⟨p, plan, generated, now, q, expiry, historyUseId, rfl, hstage, hsave, rfl⟩ :=
      (hpreviews id row hrow).resolve_left hold
    rcases hruns p with hwaiting | ⟨job, hcalled, hf⟩
    · rw [hwaiting.1] at hstage
      cases hstage
    · unfold FitsAt at hf
      rw [hstage] at hf
      obtain ⟨rfl, fetches, sends, heffects, hspending, -⟩ := hf
      have hfaithful := faithful_saved (w := w) hspending heffects hsave expiry historyUseId
      exact ⟨p, _, _, _, _, ⟨now, w, w', hcalled, h, hold, hrow, .refl _⟩,
        hfaithful.mono hevolves hsub⟩

end MultiPreview
end PromoBot
