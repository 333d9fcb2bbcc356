import PromoBot.Lib.Raises

/-!
# Which errors get out

A caller of fallible code handles some errors, those with a property `P`, and lets every other
pass.  `Verdict.of P x` says how a computation ends as the caller sees it: it is accepted, it is
refused with an error that is handled, or another error escapes.

The verdict of a sequence is that of its first step which is not accepted.  So a step whose error
would escape does no harm where an earlier one refuses, and the order of the steps has to be part
of every exact statement; `raisesOnly_iff_sheltered` reads such a statement off a list of verdicts.
-/

universe u v

open Fallible

/-- How a computation ends, as a caller sees it. -/
inductive Verdict
  | accepted
  | refused
  | escaped
  deriving DecidableEq, Repr

namespace Verdict

variable {ε : Type u} {α β : Type v} {P : ε → Prop} [DecidablePred P] {x : Except ε α} {w : Verdict}

/-- The verdict on a computation. -/
def of (P : ε → Prop) [DecidablePred P] : Except ε α → Verdict
  | .ok _ => .accepted
  | .error e => if P e then .refused else .escaped

/-- One after the other. -/
def andThen : Verdict → Verdict → Verdict
  | .accepted, w => w
  | .refused, _ => .refused
  | .escaped, _ => .escaped

/-- The first verdict that is not `accepted`. -/
def first : List Verdict → Verdict
  | [] => .accepted
  | v :: vs => v.andThen (first vs)

/-- A test: what fails it is refused. -/
def test (p : Prop) [Decidable p] : Verdict := if p then .accepted else .refused

/-- What must not fail: if it does, that escapes. -/
def need (p : Prop) [Decidable p] : Verdict := if p then .accepted else .escaped

/-- Before everything that would escape, something is refused. -/
def Sheltered (vs : List Verdict) : Prop :=
  ∀ before after, vs = before ++ .escaped :: after → .refused ∈ before

/-! ## Verdicts one after the other -/

@[simp] theorem accepted_andThen (w : Verdict) : accepted.andThen w = w := rfl

@[simp] theorem andThen_accepted (v : Verdict) : v.andThen accepted = v := by
  cases v <;> rfl

theorem andThen_assoc (v w z : Verdict) : (v.andThen w).andThen z = v.andThen (w.andThen z) := by
  cases v <;> rfl

theorem andThen_ne_escaped_iff {v w : Verdict} :
    v.andThen w ≠ .escaped ↔ v ≠ .escaped ∧ (v = .accepted → w ≠ .escaped) := by
  cases v <;> simp [andThen]

theorem first_append (vs ws : List Verdict) :
    first (vs ++ ws) = (first vs).andThen (first ws) := by
  induction vs with
  | nil => rfl
  | cons v vs ih =>
    show v.andThen (first (vs ++ ws)) = (v.andThen (first vs)).andThen (first ws)
    rw [ih, andThen_assoc]

theorem first_flatMap {γ : Type u} (f : γ → List Verdict) (l : List γ) :
    first (l.flatMap f) = first (l.map fun a => first (f a)) := by
  induction l with
  | nil => rfl
  | cons a l ih => rw [List.flatMap_cons, first_append, ih, List.map_cons, first]

/-- **Nothing escapes exactly where a refusal stands before every escape.** -/
theorem first_ne_escaped_iff {vs : List Verdict} : first vs ≠ .escaped ↔ Sheltered vs := by
  unfold Sheltered
  induction vs with
  | nil => simp [first]
  | cons v vs ih =>
    rw [first, andThen_ne_escaped_iff, ih]
    constructor
    · rintro ⟨hv, hvs⟩ before after heq
      cases before with
      | nil =>
        obtain ⟨rfl, -⟩ := List.cons.inj heq
        exact absurd rfl hv
      | cons b before =>
        obtain ⟨rfl, hrest⟩ := List.cons.inj heq
        cases hb : v with
        | accepted => exact List.mem_cons_of_mem _ (hvs hb before after hrest)
        | refused => exact List.mem_cons_self
        | escaped => exact absurd hb hv
    · intro h
      have hv : v ≠ .escaped := by
        rintro rfl
        exact absurd (h [] vs rfl) List.not_mem_nil
      refine ⟨hv, fun haccepted before after heq => ?_⟩
      rcases List.mem_cons.1 (h (v :: before) after (by rw [heq]; rfl)) with hmem | hmem
      · rw [haccepted] at hmem
        cases hmem
      · exact hmem

theorem need_congr {p q : Prop} [Decidable p] [Decidable q] (h : p ↔ q) : need p = need q := by
  unfold need
  simp only [h]

theorem need_pos {p : Prop} [Decidable p] (h : p) : need p = .accepted := if_pos h

/-! ## The verdict on a sequence -/

@[simp] theorem of_ok (a : α) : of P (.ok a : Except ε α) = .accepted := rfl

theorem of_error {e : ε} (h : P e) : of P (.error e : Except ε α) = .refused := if_pos h

theorem of_error_of_not {e : ε} (h : ¬ P e) : of P (.error e : Except ε α) = .escaped := if_neg h

/-- **No error escapes exactly where all errors are handled.** -/
theorem raisesOnly_iff : RaisesOnly P x ↔ of P x ≠ .escaped := by
  cases x with
  | ok a => exact iff_of_true (raisesOnly_ok a) nofun
  | error e =>
    by_cases he : P e
    · rw [of_error he]
      exact iff_of_true (raisesOnly_error he) nofun
    · rw [of_error_of_not he]
      exact iff_of_false (fun hall => he (hall e rfl)) fun hne => hne rfl

/-- **No error escapes exactly where every escape is sheltered.** -/
theorem raisesOnly_iff_sheltered {vs : List Verdict} (h : of P x = first vs) :
    RaisesOnly P x ↔ Sheltered vs := by
  rw [raisesOnly_iff, h, first_ne_escaped_iff]

theorem of_eq_accepted_iff : of P x = .accepted ↔ ∃ a, x = .ok a := by
  cases x with
  | ok a => exact iff_of_true rfl ⟨a, rfl⟩
  | error e =>
    by_cases he : P e
    · rw [of_error he]
      exact iff_of_false nofun nofun
    · rw [of_error_of_not he]
      exact iff_of_false nofun nofun

theorem of_last {v : Verdict} (hx : of P x = v) : of P x = first [v] :=
  hx.trans (andThen_accepted v).symm

theorem sheltered_nil : Sheltered [] :=
  first_ne_escaped_iff.1 nofun

/-- What follows steps whose verdicts are known decides only where they all accept. -/
theorem raisesOnly_part {f : α → Except ε β} {vs ws : List Verdict} (hx : of P x = first vs)
    (h : ∀ a, x = .ok a → (RaisesOnly P (f a) ↔ Sheltered ws)) :
    RaisesOnly P (x >>= f) ↔ Sheltered (vs ++ ws) := by
  rw [← first_ne_escaped_iff, first_append, andThen_ne_escaped_iff, ← hx]
  cases x with
  | ok a =>
    show RaisesOnly P (f a) ↔ accepted ≠ escaped ∧ (accepted = accepted → first ws ≠ escaped)
    rw [h a rfl, ← first_ne_escaped_iff]
    exact ⟨fun hws => ⟨nofun, fun _ => hws⟩, fun hboth => hboth.2 rfl⟩
  | error e =>
    show RaisesOnly P (.error e : Except ε β) ↔ _
    rw [raisesOnly_iff]
    refine ⟨fun he => ⟨he, fun haccepted => ?_⟩, And.left⟩
    obtain ⟨a, ha⟩ := of_eq_accepted_iff.1 haccepted
    cases ha

theorem raisesOnly_step {f : α → Except ε β} {v : Verdict} {vs : List Verdict} (hx : of P x = v)
    (h : ∀ a, x = .ok a → (RaisesOnly P (f a) ↔ Sheltered vs)) :
    RaisesOnly P (x >>= f) ↔ Sheltered (v :: vs) :=
  raisesOnly_part (of_last hx) h

/-- **A sequence**, whose rest has the same verdict for every value of its first step. -/
theorem of_bind {f : α → Except ε β} (h : ∀ a, x = .ok a → of P (f a) = w) :
    of P (x >>= f) = (of P x).andThen w := by
  cases x with
  | ok a => exact h a rfl
  | error e =>
    show of P (.error e) = _
    by_cases he : P e
    · rw [of_error he, of_error he]
      rfl
    · rw [of_error_of_not he, of_error_of_not he]
      rfl

theorem of_step {f : α → Except ε β} {v : Verdict} {vs : List Verdict} (hx : of P x = v)
    (h : ∀ a, x = .ok a → of P (f a) = first vs) : of P (x >>= f) = first (v :: vs) := by
  rw [of_bind h, hx, first]

theorem of_part {f : α → Except ε β} {vs ws : List Verdict} (hx : of P x = first vs)
    (h : ∀ a, x = .ok a → of P (f a) = first ws) : of P (x >>= f) = first (vs ++ ws) := by
  rw [of_bind h, hx, first_append]

theorem of_map (f : α → β) : of P (x.map f) = of P x := by
  cases x <;> rfl

theorem of_check {p : Prop} [Decidable p] {e : ε} (he : P e) :
    of P (check p e : Except ε PUnit.{v + 1}) = test p := by
  unfold check test
  split
  · rfl
  · exact of_error he

theorem of_check_need {p : Prop} [Decidable p] {e : ε} (he : ¬ P e) :
    of P (check p e : Except ε PUnit.{v + 1}) = need p := by
  unfold check need
  split
  · rfl
  · exact of_error_of_not he

theorem of_orRaise {o : Option α} {e : ε} (he : P e) :
    of P (orRaise o e) = test (o.isSome = true) := by
  cases o with
  | some a => rfl
  | none => exact of_error he

theorem of_mapM {f : α → Except ε β} (l : List α) :
    of P (l.mapM f) = first (l.map fun a => of P (f a)) := by
  induction l with
  | nil => rfl
  | cons a l ih =>
    rw [List.mapM_cons, List.map_cons, first]
    refine of_bind fun b _ => ?_
    rw [← ih]
    exact (of_bind fun bs _ => of_ok (b :: bs)).trans (andThen_accepted _)

theorem of_mapM_flatMap {f : α → Except ε β} {g : α → List Verdict} {l : List α}
    (h : ∀ a ∈ l, of P (f a) = first (g a)) : of P (l.mapM f) = first (l.flatMap g) := by
  rw [of_mapM, first_flatMap, List.map_congr_left h]

theorem of_mapError {ε' : Type u} {Q : ε' → Prop} [DecidablePred Q] {f : ε → ε'}
    (h : ∀ e, Q (f e) ↔ P e) : of Q (x.mapError f) = of P x := by
  cases x with
  | ok a => rfl
  | error e =>
    show of Q (.error (f e)) = _
    by_cases he : P e
    · rw [of_error he, of_error ((h e).2 he)]
    · rw [of_error_of_not he, of_error_of_not fun hq => he ((h e).1 hq)]

end Verdict
