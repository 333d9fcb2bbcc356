import Mathlib.Logic.Relation
import Mathlib.Data.List.Basic

/-!
# Guarded transition systems

A system is given by its initial states and by one executable step function:
`step s a` is `some t` when the action `a` is enabled in `s` and leads to `t`,
and `none` when it is not enabled.  The same function replays a concrete
schedule and carries the proofs, so the two cannot drift apart.

Two notions of a run are used.  A `Run` may use every enabled action.  A run
*under a side condition* `good` may only use actions which are good in the state
they are taken in; this is how a statement of the form "as long as no step does
such and such" is phrased.  `Run.invariant` is the induction both of them share.

`forward_simulation` is the one fact a refinement needs: if every concrete step
is matched by finitely many abstract steps, then so is every concrete run.
-/

universe u v w

/-- A guarded transition system: the states a run may begin in, and a partial
step function. -/
structure TransitionSystem (σ : Type u) (α : Type v) where
  /-- The states a run may begin in. -/
  init : σ → Prop
  /-- One step; `none` when the action is not enabled. -/
  step : σ → α → Option σ

namespace TransitionSystem

variable {σ : Type u} {α : Type v} {τ : Type w} (T : TransitionSystem σ α)

/-! ## Runs -/

/-- One step taken under the side condition `good`. -/
def Step (good : σ → α → Prop) (s t : σ) : Prop :=
  ∃ a, good s a ∧ T.step s a = some t

/-- Finitely many steps, each under the side condition `good`. -/
def RunUnder (good : σ → α → Prop) : σ → σ → Prop :=
  Relation.ReflTransGen (T.Step good)

/-- The side condition every action meets. -/
def anyAction (_ : σ) (_ : α) : Prop := True

/-- Finitely many steps. -/
abbrev Run : σ → σ → Prop := T.RunUnder anyAction

/-- The states a run can reach from an initial one. -/
def Reachable (t : σ) : Prop := ∃ s, T.init s ∧ T.Run s t

/-- The states a run under `good` can reach from an initial one. -/
def ReachableUnder (good : σ → α → Prop) (t : σ) : Prop :=
  ∃ s, T.init s ∧ T.RunUnder good s t

variable {T}

theorem RunUnder.refl {good : σ → α → Prop} (s : σ) : T.RunUnder good s s :=
  Relation.ReflTransGen.refl

theorem RunUnder.trans {good : σ → α → Prop} {s t r : σ}
    (hst : T.RunUnder good s t) (htr : T.RunUnder good t r) : T.RunUnder good s r :=
  Relation.ReflTransGen.trans hst htr

theorem RunUnder.tail {good : σ → α → Prop} {s t r : σ} {a : α}
    (hst : T.RunUnder good s t) (ha : good t a) (h : T.step t a = some r) :
    T.RunUnder good s r :=
  Relation.ReflTransGen.tail hst ⟨a, ha, h⟩

theorem RunUnder.mono {good good' : σ → α → Prop} {s t : σ}
    (hle : ∀ s a, good s a → good' s a) (hst : T.RunUnder good s t) :
    T.RunUnder good' s t :=
  Relation.ReflTransGen.mono (fun _ _ ⟨a, ha, h⟩ => ⟨a, hle _ _ ha, h⟩) _ _ hst

/-- **The invariant rule.**  What holds at the start of a run and is kept by
every step the side condition allows holds at its end. -/
theorem RunUnder.invariant {good : σ → α → Prop} {P : σ → Prop} {s t : σ}
    (hst : T.RunUnder good s t) (hs : P s)
    (hstep : ∀ s a t, P s → good s a → T.step s a = some t → P t) : P t := by
  induction hst with
  | refl => exact hs
  | tail _ h ih =>
    obtain ⟨a, ha, hstep'⟩ := h
    exact hstep _ a _ ih ha hstep'

theorem ReachableUnder.reachable {good : σ → α → Prop} {t : σ}
    (h : T.ReachableUnder good t) : T.Reachable t := by
  obtain ⟨s, hs, hst⟩ := h
  exact ⟨s, hs, hst.mono fun _ _ _ => trivial⟩

theorem ReachableUnder.invariant {good : σ → α → Prop} {P : σ → Prop} {t : σ}
    (h : T.ReachableUnder good t) (hinit : ∀ s, T.init s → P s)
    (hstep : ∀ s a t, P s → good s a → T.step s a = some t → P t) : P t := by
  obtain ⟨s, hs, hst⟩ := h
  exact hst.invariant (hinit s hs) hstep

theorem Reachable.invariant {P : σ → Prop} {t : σ} (h : T.Reachable t)
    (hinit : ∀ s, T.init s → P s) (hstep : ∀ s a t, P s → T.step s a = some t → P t) :
    P t :=
  ReachableUnder.invariant h hinit fun s a t hs _ => hstep s a t hs

theorem Reachable.run {s t : σ} (hs : T.Reachable s) (hst : T.Run s t) : T.Reachable t := by
  obtain ⟨s₀, h₀, hrun⟩ := hs
  exact ⟨s₀, h₀, hrun.trans hst⟩

/-! ## Replaying a schedule -/

/-- Take the actions of a schedule one after the other; `none` as soon as one of
them is not enabled. -/
def replay (T : TransitionSystem σ α) (s : σ) (as : List α) : Option σ := as.foldlM T.step s

@[simp] theorem replay_nil (s : σ) : T.replay s [] = some s := rfl

theorem replay_cons (s : σ) (a : α) (as : List α) :
    T.replay s (a :: as) = (T.step s a).bind fun t => T.replay t as := rfl

theorem runUnder_of_replay {good : σ → α → Prop} {s t : σ} {as : List α}
    (hgood : ∀ a ∈ as, ∀ s, good s a) (h : T.replay s as = some t) : T.RunUnder good s t := by
  induction as generalizing s with
  | nil =>
    rw [replay_nil, Option.some.injEq] at h
    exact h ▸ RunUnder.refl s
  | cons a as ih =>
    rw [replay_cons, Option.bind_eq_some_iff] at h
    obtain ⟨r, hr, hrt⟩ := h
    have ha : good s a := hgood a List.mem_cons_self s
    exact ((RunUnder.refl s).tail ha hr).trans
      (ih (fun b hb => hgood b (List.mem_cons_of_mem _ hb)) hrt)

theorem run_of_replay {s t : σ} {as : List α} (h : T.replay s as = some t) : T.Run s t :=
  runUnder_of_replay (fun _ _ _ => trivial) h

/-- Where a schedule ends which replays. -/
def endOf (T : TransitionSystem σ α) (s : σ) (as : List α) : σ := (T.replay s as).getD s

theorem replay_endOf (s : σ) (as : List α) (h : (T.replay s as).isSome) :
    T.replay s as = some (T.endOf s as) := by
  obtain ⟨t, ht⟩ := Option.isSome_iff_exists.1 h
  rw [endOf, ht, Option.getD_some]

theorem run_endOf {s : σ} {as : List α} (h : (T.replay s as).isSome) :
    T.Run s (T.endOf s as) :=
  run_of_replay (replay_endOf s as h)

theorem reachable_of_replay {s t : σ} {as : List α} (hs : T.init s)
    (h : T.replay s as = some t) : T.Reachable t :=
  ⟨s, hs, run_of_replay h⟩

/-- Take the actions of a schedule one after the other, as long as they are enabled and
good. -/
def replayUnder (T : TransitionSystem σ α) (good : σ → α → Prop) [∀ s a, Decidable (good s a)]
    (s : σ) : List α → Option σ
  | [] => some s
  | a :: as => if good s a then (T.step s a).bind fun t => replayUnder T good t as else none

/-- A schedule which replays with every action good where it is taken is a run under the side
condition. -/
theorem runUnder_of_replayUnder {good : σ → α → Prop} [∀ s a, Decidable (good s a)] {s t : σ}
    {as : List α} (h : T.replayUnder good s as = some t) : T.RunUnder good s t := by
  induction as generalizing s with
  | nil =>
    obtain rfl := Option.some.inj h
    exact RunUnder.refl s
  | cons a as ih =>
    rw [replayUnder, Option.ite_none_right_eq_some, Option.bind_eq_some_iff] at h
    obtain ⟨ha, r, hr, hrt⟩ := h
    exact ((RunUnder.refl s).tail ha hr).trans (ih hrt)

/-- Where a schedule of good actions ends which replays. -/
def endUnder (T : TransitionSystem σ α) (good : σ → α → Prop) [∀ s a, Decidable (good s a)]
    (s : σ) (as : List α) : σ := (T.replayUnder good s as).getD s

theorem runUnder_endUnder {good : σ → α → Prop} [∀ s a, Decidable (good s a)] {s : σ}
    {as : List α} (h : (T.replayUnder good s as).isSome) :
    T.RunUnder good s (T.endUnder good s as) := by
  obtain ⟨t, ht⟩ := Option.isSome_iff_exists.1 h
  rw [endUnder, ht, Option.getD_some]
  exact runUnder_of_replayUnder ht

/-! ## Simulation -/

/-- **Forward simulation.**  If every step between related states is matched by
finitely many abstract steps, so is every run. -/
theorem RunUnder.forward_simulation {good : σ → α → Prop} {R : σ → τ → Prop}
    {absStep : τ → τ → Prop}
    (hstep : ∀ s a t x, R s x → good s a → T.step s a = some t →
      ∃ y, Relation.ReflTransGen absStep x y ∧ R t y)
    {s t : σ} {x : τ} (hst : T.RunUnder good s t) (hx : R s x) :
    ∃ y, Relation.ReflTransGen absStep x y ∧ R t y := by
  induction hst with
  | refl => exact ⟨x, .refl, hx⟩
  | tail _ h ih =>
    obtain ⟨y, hxy, hy⟩ := ih
    obtain ⟨a, ha, hstep'⟩ := h
    obtain ⟨z, hyz, hz⟩ := hstep _ a _ y hy ha hstep'
    exact ⟨z, hxy.trans hyz, hz⟩

end TransitionSystem
