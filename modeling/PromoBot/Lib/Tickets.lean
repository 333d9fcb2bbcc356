import Mathlib.Logic.Function.Basic
import Mathlib.Logic.Relation

/-!
# Tickets: one effect for every time a key was taken

Several holders compete for keys.  A holder *takes* a free key, may then *fire*
it --- once, the irrevocable effect outside --- and may afterwards *release* it,
which makes the key free again.  A holder which has *finished* does nothing any
more, and what it still holds stays taken.

This is the pattern behind an outbox, a reservation and a single-flight request.
What an implementation has to supply is a map from its rows and processes to
these four actions; what it gets back is `fires_le_takes` (never more effects
than takings), `fires_eq_of_stuck` (nothing fires a key whose holder finished
without releasing it) and `holder_eq_of_takes_eq` (while nobody takes a key
again, nobody but its holder fires it).

Nothing here says what a key or a holder is, and nothing is computable: the
protocol is a yardstick.
-/

universe u v

namespace Tickets

/-- A key is free, or held; a held key has been fired or not. -/
inductive Slot (π : Type v) where
  | free
  | held (holder : π) (fired : Bool)

/-- The state of the protocol: the slot of every key, the holders which have
finished, and how often every key was taken and fired. -/
structure State (κ : Type u) (π : Type v) where
  /-- Who holds a key. -/
  slot : κ → Slot π
  /-- Which holders act no more. -/
  finished : π → Prop
  /-- How often a key was taken. -/
  takes : κ → Nat
  /-- How often a key was fired. -/
  fires : κ → Nat

variable {κ : Type u} {π : Type v} {s t : State κ π} {k : κ} {p : π}

/-- The effects still owed to a key: one while its holder has not fired it. -/
def Slot.owed : Slot π → Nat
  | .held _ false => 1
  | _ => 0

/-- All keys free, nobody finished. -/
def State.start : State κ π where
  slot := fun _ => .free
  finished := fun _ => False
  takes := fun _ => 0
  fires := fun _ => 0

namespace State

variable [DecidableEq κ]

/-- `p` has taken `k`. -/
def taken (s : State κ π) (k : κ) (p : π) : State κ π :=
  { s with slot := Function.update s.slot k (.held p false),
           takes := Function.update s.takes k (s.takes k + 1) }

/-- `p` has fired `k`. -/
def fired (s : State κ π) (k : κ) (p : π) : State κ π :=
  { s with slot := Function.update s.slot k (.held p true),
           fires := Function.update s.fires k (s.fires k + 1) }

/-- `k` has been given back. -/
def released (s : State κ π) (k : κ) : State κ π :=
  { s with slot := Function.update s.slot k .free }

/-- `p` has finished. -/
def withFinished (s : State κ π) (p : π) : State κ π :=
  { s with finished := fun q => q = p ∨ s.finished q }

end State

/-- The four actions of a holder. -/
inductive Step [DecidableEq κ] (p : π) : State κ π → State κ π → Prop
  | take {s : State κ π} {k : κ} :
      s.slot k = .free → ¬ s.finished p → Step p s (s.taken k p)
  | fire {s : State κ π} {k : κ} :
      s.slot k = .held p false → ¬ s.finished p → Step p s (s.fired k p)
  | release {s : State κ π} {k : κ} :
      s.slot k = .held p true → ¬ s.finished p → Step p s (s.released k)
  | finish {s : State κ π} : Step p s (s.withFinished p)

/-- An action of any holder. -/
def AnyStep [DecidableEq κ] (s t : State κ π) : Prop := ∃ p, Step p s t

/-- Finitely many actions. -/
abbrev Run [DecidableEq κ] : State κ π → State κ π → Prop := Relation.ReflTransGen AnyStep

theorem Step.run [DecidableEq κ] (h : Step p s t) : Run s t :=
  Relation.ReflTransGen.single ⟨p, h⟩

/-! ## Never more effects than takings -/

/-- Every taking is accounted for: it has been fired, is still owed, or --- but
then it was fired --- has been released. -/
def Balanced (s : State κ π) : Prop := ∀ k, s.fires k + (s.slot k).owed = s.takes k

theorem balanced_start : Balanced (State.start : State κ π) := fun _ => rfl

theorem Balanced.fires_le_takes (hs : Balanced s) (k : κ) : s.fires k ≤ s.takes k := by
  have := hs k
  omega

variable [DecidableEq κ]

theorem Step.balanced (h : Step p s t) (hs : Balanced s) : Balanced t := by
  intro j
  have hj := hs j
  cases h with
  | @take k hfree _ =>
    rcases eq_or_ne j k with rfl | hjk
    · simpa [State.taken, Slot.owed, hfree] using hj
    · simpa [State.taken, hjk] using hj
  | @fire k hheld _ =>
    rcases eq_or_ne j k with rfl | hjk
    · simp only [hheld, Slot.owed] at hj
      simp [State.fired, Slot.owed, hj]
    · simpa [State.fired, hjk] using hj
  | @release k hheld _ =>
    rcases eq_or_ne j k with rfl | hjk
    · simp only [hheld, Slot.owed] at hj
      simp [State.released, Slot.owed, hj]
    · simpa [State.released, hjk] using hj
  | finish => exact hj

theorem Run.balanced (h : Run s t) (hs : Balanced s) : Balanced t := by
  induction h with
  | refl => exact hs
  | tail _ hstep ih =>
    obtain ⟨p, hstep⟩ := hstep
    exact hstep.balanced ih

/-! ## What the others hold -/

/-- **The frame rule.**  An action of `p` changes neither what another holder
holds nor whether it has finished. -/
theorem Step.of_ne {q : π} {b : Bool} (h : Step p s t) (hq : q ≠ p) :
    (s.slot k = .held q b → t.slot k = .held q b) ∧ (t.finished q ↔ s.finished q) := by
  cases h with
  | @take j hfree _ =>
    refine ⟨fun hk => ?_, Iff.rfl⟩
    have hkj : k ≠ j := fun e => by simp [← e, hk] at hfree
    simpa [State.taken, hkj] using hk
  | @fire j hheld _ =>
    refine ⟨fun hk => ?_, Iff.rfl⟩
    have hkj : k ≠ j := by
      rintro rfl
      exact hq (Slot.held.inj (hk.symm.trans hheld)).1
    simpa [State.fired, hkj] using hk
  | @release j hheld _ =>
    refine ⟨fun hk => ?_, Iff.rfl⟩
    have hkj : k ≠ j := by
      rintro rfl
      exact hq (Slot.held.inj (hk.symm.trans hheld)).1
    simpa [State.released, hkj] using hk
  | finish => exact ⟨id, by simp [State.withFinished, hq]⟩

/-! ## A key whose holder finished -/

/-- The holder of `k` has finished without giving it back. -/
def Stuck (s : State κ π) (k : κ) : Prop :=
  ∃ p b, s.slot k = .held p b ∧ s.finished p

/-- A stuck key stays stuck, and is neither taken nor fired. -/
theorem Step.of_stuck (h : Step p s t) (hs : Stuck s k) :
    Stuck t k ∧ t.fires k = s.fires k ∧ t.takes k = s.takes k := by
  obtain ⟨q, b, hq, hfin⟩ := hs
  cases h with
  | @take j hfree _ =>
    have hjk : k ≠ j := fun e => by simp [← e, hq] at hfree
    exact ⟨⟨q, b, by simpa [State.taken, hjk] using hq, hfin⟩, rfl, by simp [State.taken, hjk]⟩
  | @fire j hheld hp =>
    have hjk : k ≠ j := by
      rintro rfl
      rw [hq] at hheld
      exact hp ((Slot.held.inj hheld).1 ▸ hfin)
    exact ⟨⟨q, b, by simpa [State.fired, hjk] using hq, hfin⟩, by simp [State.fired, hjk], rfl⟩
  | @release j hheld hp =>
    have hjk : k ≠ j := by
      rintro rfl
      rw [hq] at hheld
      exact hp ((Slot.held.inj hheld).1 ▸ hfin)
    exact ⟨⟨q, b, by simpa [State.released, hjk] using hq, hfin⟩, rfl, rfl⟩
  | finish => exact ⟨⟨q, b, hq, Or.inr hfin⟩, rfl, rfl⟩

/-- **A stuck key is never fired again.** -/
theorem Run.fires_eq_of_stuck (h : Run s t) (hs : Stuck s k) :
    t.fires k = s.fires k := by
  have hboth : Stuck t k ∧ t.fires k = s.fires k := by
    induction h with
    | refl => exact ⟨hs, rfl⟩
    | tail _ hstep ih =>
      obtain ⟨p, hstep⟩ := hstep
      obtain ⟨hstuck, hfires, _⟩ := hstep.of_stuck ih.1
      exact ⟨hstuck, hfires.trans ih.2⟩
  exact hboth.2

/-! ## A key nobody takes again -/

theorem Step.takes_le (h : Step p s t) (k : κ) : s.takes k ≤ t.takes k := by
  cases h with
  | @take j _ _ =>
    rcases eq_or_ne k j with rfl | hjk
    · simp [State.taken]
    · simp [State.taken, hjk]
  | fire | release | finish => exact Nat.le_refl _

theorem Run.takes_le (h : Run s t) (k : κ) : s.takes k ≤ t.takes k := by
  induction h with
  | refl => exact Nat.le_refl _
  | tail _ hstep ih =>
    obtain ⟨p, hstep⟩ := hstep
    exact Nat.le_trans ih (hstep.takes_le k)

/-- The key is free, or its holder is `p`. -/
def OnlyHolder (s : State κ π) (k : κ) (p : π) : Prop :=
  ∀ q b, s.slot k = .held q b → q = p

theorem Step.onlyHolder {r : π} (h : Step r s t) (hs : OnlyHolder s k p)
    (htakes : t.takes k = s.takes k) : OnlyHolder t k p := by
  intro q b hq
  cases h with
  | @take j _ _ =>
    have hjk : k ≠ j := fun e => by simp [State.taken, e] at htakes
    exact hs q b (by simpa [State.taken, hjk] using hq)
  | @fire j hheld _ =>
    rcases eq_or_ne k j with rfl | hjk
    · simp only [State.fired, Function.update_self, Slot.held.injEq] at hq
      exact hq.1 ▸ hs r false hheld
    · exact hs q b (by simpa [State.fired, hjk] using hq)
  | @release j _ _ =>
    rcases eq_or_ne k j with rfl | hjk
    · simp [State.released] at hq
    · exact hs q b (by simpa [State.released, hjk] using hq)
  | finish => exact hs q b hq

/-- **While nobody takes a key again, nobody but its holder holds it.** -/
theorem Run.holder_eq_of_takes_eq (h : Run s t) (hs : OnlyHolder s k p)
    (htakes : t.takes k = s.takes k) : OnlyHolder t k p := by
  induction h with
  | refl => exact hs
  | tail hrun hstep ih =>
    obtain ⟨r, hstep⟩ := hstep
    have hle := Run.takes_le hrun k
    have hle' := hstep.takes_le k
    exact hstep.onlyHolder (ih (by omega)) (by omega)

end Tickets
