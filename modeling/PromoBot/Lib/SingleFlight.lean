import Mathlib.Logic.Function.Basic
import Mathlib.Logic.Relation

/-!
# Single flight

A request whose outcome is not known must not be made again: it may have had its
effect.  Here every attempt at a request gets a slot of its own, with the key it is
made under.  A slot is opened only while every slot with a *conflicting* key is
settled; it may then fire, once, and it is settled when its outcome is known.
A slot which is never settled keeps all conflicting keys from ever being tried
again.

Which keys conflict is a parameter.  For the usual single flight it is equality;
a relation is needed where one request may be known under several keys, so that
two keys which are not equal may still stand for one request.

What an implementation owes is that each of its steps is a `Run` on slots.  What it
gets is `Exclusive`, which every run keeps, and `Exclusive.settled`: a slot which
may still fire finds every slot in its way settled.
-/

universe u v

namespace SingleFlight

/-- How far an attempt has come. -/
inductive Phase
  /-- Nothing was sent yet. -/
  | ready
  /-- The request is out, and nothing is known of it. -/
  | fired
  /-- The outcome is known. -/
  | settled
  deriving DecidableEq, Repr

/-- The attempts made so far, with the key of each. -/
abbrev Slots (ι : Type u) (κ : Type v) := ι → Option (κ × Phase)

variable {ι : Type u} {κ : Type v} {Conflict : κ → κ → Prop}
  {s t : Slots ι κ} {i j : ι} {k k' : κ} {phase : Phase}

/-- The slot has fired, under the key `k`. -/
def Fired (s : Slots ι κ) (i : ι) (k : κ) : Prop := ∃ phase, s i = some (k, phase) ∧ phase ≠ .ready

/-- No two unsettled slots conflict. -/
def Exclusive (Conflict : κ → κ → Prop) (s : Slots ι κ) : Prop :=
  ∀ i j k k' phase phase', s i = some (k, phase) → s j = some (k', phase') →
    phase ≠ .settled → phase' ≠ .settled → Conflict k k' → i = j

/-- **A slot which may still fire finds every other slot in its way settled.** -/
theorem Exclusive.settled (hs : Exclusive Conflict s) (hi : s i = some (k, .ready))
    (hj : s j = some (k', phase)) (hij : i ≠ j) (hconflict : Conflict k k') :
    phase = .settled := by
  by_contra hsettled
  exact hij (hs i j k k' .ready phase hi hj nofun hsettled hconflict)

theorem Fired.ne_of_ready (hj : Fired s j k') (hi : s i = some (k, .ready)) : i ≠ j := by
  rintro rfl
  obtain ⟨phase, hj, hphase⟩ := hj
  obtain ⟨-, rfl⟩ := Prod.mk.inj (Option.some.inj (hi.symm.trans hj))
  exact hphase rfl

/-! ## Steps -/

variable [DecidableEq ι]

/-- The three things that happen to a slot. -/
inductive Step (Conflict : κ → κ → Prop) : Slots ι κ → Slots ι κ → Prop
  | begin' {s : Slots ι κ} {i : ι} {k : κ} : s i = none →
      (∀ j k' phase, s j = some (k', phase) → Conflict k k' → phase = .settled) →
      Step Conflict s (Function.update s i (some (k, .ready)))
  | fire {s : Slots ι κ} {i : ι} {k : κ} : s i = some (k, .ready) →
      Step Conflict s (Function.update s i (some (k, .fired)))
  | settle {s : Slots ι κ} {i : ι} {k : κ} : s i = some (k, .fired) →
      Step Conflict s (Function.update s i (some (k, .settled)))

/-- Finitely many of them. -/
abbrev Run (Conflict : κ → κ → Prop) : Slots ι κ → Slots ι κ → Prop :=
  Relation.ReflTransGen (Step Conflict)

theorem Step.fired (h : Step Conflict s t) (hs : Fired s i k) : Fired t i k := by
  obtain ⟨phase, hi, hphase⟩ := hs
  cases h with
  | @begin' j k' hj _ =>
    have hij : i ≠ j := fun heq => by simp [heq, hj] at hi
    exact ⟨phase, by rwa [Function.update_of_ne hij], hphase⟩
  | @fire j k' hj | @settle j k' hj =>
    rcases eq_or_ne i j with rfl | hij
    · obtain ⟨rfl, rfl⟩ := Prod.mk.inj (Option.some.inj (hi.symm.trans hj))
      exact ⟨_, Function.update_self .., nofun⟩
    · exact ⟨phase, by rwa [Function.update_of_ne hij], hphase⟩

theorem Run.fired (h : Run Conflict s t) (hs : Fired s i k) : Fired t i k := by
  induction h with
  | refl => exact hs
  | tail _ hstep ih => exact hstep.fired ih

theorem Step.exclusive (hsymm : ∀ k k', Conflict k k' → Conflict k' k) (h : Step Conflict s t)
    (hs : Exclusive Conflict s) : Exclusive Conflict t := by
  have forward : ∀ {i k phase}, s i = some (k, .ready) ∨ s i = some (k, .fired) →
      Exclusive Conflict (Function.update s i (some (k, phase))) := by
    intro i k phase hi j j' l l' ph ph' hj hj' hph hph' hconflict
    have old : ∀ {m n q}, Function.update s i (some (k, phase)) m = some (n, q) →
        q ≠ .settled → ∃ q', s m = some (n, q') ∧ q' ≠ .settled := by
      intro m n q hm hq
      rcases eq_or_ne m i with rfl | hmi
      · rw [Function.update_self] at hm
        obtain ⟨rfl, rfl⟩ := Prod.mk.inj (Option.some.inj hm)
        rcases hi with hi | hi
        · exact ⟨_, hi, nofun⟩
        · exact ⟨_, hi, nofun⟩
      · exact ⟨q, by rwa [Function.update_of_ne hmi] at hm, hq⟩
    obtain ⟨q, hq, hqs⟩ := old hj hph
    obtain ⟨q', hq', hqs'⟩ := old hj' hph'
    exact hs j j' l l' q q' hq hq' hqs hqs' hconflict
  cases h with
  | fire hi => exact forward (Or.inl hi)
  | settle hi => exact forward (Or.inr hi)
  | @begin' i k _ hfree =>
    intro j j' l l' ph ph' hj hj' hph hph' hconflict
    rcases eq_or_ne j i with rfl | hji
    · rcases eq_or_ne j' j with rfl | hji'
      · rfl
      rw [Function.update_self] at hj
      rw [Function.update_of_ne hji'] at hj'
      obtain ⟨rfl, rfl⟩ := Prod.mk.inj (Option.some.inj hj)
      exact absurd (hfree j' l' ph' hj' hconflict) hph'
    · rw [Function.update_of_ne hji] at hj
      rcases eq_or_ne j' i with rfl | hji'
      · rw [Function.update_self] at hj'
        obtain ⟨rfl, rfl⟩ := Prod.mk.inj (Option.some.inj hj')
        exact absurd (hfree j l ph hj (hsymm _ _ hconflict)) hph
      · rw [Function.update_of_ne hji'] at hj'
        exact hs j j' l l' ph ph' hj hj' hph hph' hconflict

theorem Run.exclusive (hsymm : ∀ k k', Conflict k k' → Conflict k' k) (h : Run Conflict s t)
    (hs : Exclusive Conflict s) : Exclusive Conflict t := by
  induction h with
  | refl => exact hs
  | tail _ hstep ih => exact hstep.exclusive hsymm ih

/-! ## Opening several slots -/

/-- From `s` to `t` the slots `l` were begun, and nothing else was done. -/
structure Begins (Conflict : κ → κ → Prop) (s t : Slots ι κ) (l : List ι) : Prop where
  run : Run Conflict s t
  nodup : l.Nodup
  fresh : ∀ i ∈ l, s i = none
  ready : ∀ i ∈ l, ∃ k, t i = some (k, .ready)
  frame : ∀ i, i ∉ l → t i = s i

theorem Begins.nil (s : Slots ι κ) : Begins Conflict s s [] :=
  ⟨.refl, List.nodup_nil, nofun, nofun, fun _ _ => rfl⟩

theorem Begins.cons {r : Slots ι κ} {l : List ι} (hi : s i = none)
    (hfree : ∀ j k' phase, s j = some (k', phase) → Conflict k k' → phase = .settled)
    (hr : r = Function.update s i (some (k, .ready))) (h : Begins Conflict r t l) :
    Begins Conflict s t (i :: l) := by
  subst hr
  have hil : i ∉ l := by
    intro hmem
    have hnone := h.fresh i hmem
    rw [Function.update_self] at hnone
    cases hnone
  refine ⟨.head (.begin' hi hfree) h.run, List.nodup_cons.2 ⟨hil, h.nodup⟩,
    List.forall_mem_cons.2 ⟨hi, fun j hj => ?_⟩, List.forall_mem_cons.2 ⟨⟨k, ?_⟩, h.ready⟩,
    fun j hj => ?_⟩
  · have hji : j ≠ i := fun heq => hil (heq ▸ hj)
    have hnone := h.fresh j hj
    rwa [Function.update_of_ne hji] at hnone
  · rw [h.frame i hil, Function.update_self]
  · obtain ⟨hji, hjl⟩ := not_or.1 (mt List.mem_cons.2 hj)
    rw [h.frame j hjl, Function.update_of_ne hji]

end SingleFlight
