import PromoBot.Lib.Fallible

/-!
# What fallible code raises

`Fallible.RaisesOnly P x` says that every error the computation `x` can end with has the
property `P`.  The rules follow the shape of the code: a sequence of steps raises what its
steps raise, a guard raises its own error, a loop what a turn of it raises.
-/

universe u v w

namespace Fallible

variable {ε : Type u} {α β : Type v} {P Q : ε → Prop} {x : Except ε α} {e : ε}

/-- Every error of the computation has a property. -/
def RaisesOnly (P : ε → Prop) (x : Except ε α) : Prop := ∀ e, x = .error e → P e

theorem raisesOnly_ok (a : α) : RaisesOnly P (.ok a) := nofun

theorem raisesOnly_error (h : P e) : RaisesOnly P (.error e : Except ε α) := by
  rintro _ heq
  obtain rfl := Except.error.inj heq
  exact h

theorem RaisesOnly.mono (h : RaisesOnly P x) (hPQ : ∀ e, P e → Q e) : RaisesOnly Q x :=
  fun e he => hPQ e (h e he)

/-- **A sequence raises what its steps raise.**  The rest has to be looked at only for the
values the first step can return. -/
theorem RaisesOnly.bind {f : α → Except ε β} (hx : RaisesOnly P x)
    (hf : ∀ a, x = .ok a → RaisesOnly P (f a)) : RaisesOnly P (x >>= f) := by
  cases x with
  | error e => exact raisesOnly_error (hx e rfl)
  | ok a => exact hf a rfl

theorem raisesOnly_check {p : Prop} [Decidable p] (h : ¬ p → P e) :
    RaisesOnly P (check p e : Except ε PUnit.{v + 1}) := by
  unfold check
  split
  · exact raisesOnly_ok _
  · next hp => exact raisesOnly_error (h hp)

theorem raisesOnly_orRaise {o : Option α} (h : o = none → P e) :
    RaisesOnly P (orRaise o e) := by
  cases o with
  | none => exact raisesOnly_error (h rfl)
  | some a => exact raisesOnly_ok a

theorem RaisesOnly.mapError {ε' : Type u} {P : ε' → Prop} {f : ε → ε'}
    (h : RaisesOnly (fun e => P (f e)) x) : RaisesOnly P (x.mapError f) := by
  cases x with
  | error e => exact raisesOnly_error (h e rfl)
  | ok a => exact raisesOnly_ok a

theorem raisesOnly_mapM {f : α → Except ε β} {l : List α}
    (h : ∀ a ∈ l, RaisesOnly P (f a)) : RaisesOnly P (l.mapM f) := by
  induction l with
  | nil =>
    rw [List.mapM_nil]
    exact raisesOnly_ok _
  | cons a l ih =>
    obtain ⟨ha, hl⟩ := List.forall_mem_cons.1 h
    rw [List.mapM_cons]
    refine ha.bind fun b _ => (ih hl).bind fun bs _ => ?_
    exact raisesOnly_ok _

/-- A loop which looks every element up, and raises one error: it returns where all of them
are found. -/
theorem mapM_orRaise (f : α → Option β) (e : ε) (l : List α) :
    (l.mapM fun a => orRaise (f a) e) =
      if ∀ a ∈ l, (f a).isSome = true then .ok (l.filterMap f) else .error e := by
  induction l with
  | nil =>
    rw [List.mapM_nil, if_pos fun _ h => absurd h List.not_mem_nil]
    rfl
  | cons a l ih =>
    rw [List.mapM_cons, ih]
    cases ha : f a with
    | none =>
      have hmissing : ¬ ∀ c ∈ a :: l, (f c).isSome = true := by
        intro h
        have hsome := h a List.mem_cons_self
        rw [ha] at hsome
        cases hsome
      rw [if_neg hmissing]
      rfl
    | some b =>
      rw [List.filterMap_cons_some ha]
      by_cases hl : ∀ a ∈ l, (f a).isSome = true
      · have hall : ∀ c ∈ a :: l, (f c).isSome = true := by
          intro c hc
          rcases List.mem_cons.1 hc with rfl | hc
          · rw [ha]
            rfl
          · exact hl c hc
        rw [if_pos hl, if_pos hall]
        rfl
      · rw [if_neg hl, if_neg fun h => hl fun c hc => h c (List.mem_cons_of_mem a hc)]
        rfl

/-! ## A given error -/

section Error

variable {ε : Type u} {ε' : Type w} {α β : Type v} {e : ε}

/-- The error a computation ended with, if it did. -/
def raised? : Except ε α → Option ε
  | .ok _ => none
  | .error e => some e

theorem raised?_eq_some {x : Except ε α} : raised? x = some e ↔ x = .error e := by
  cases x <;> simp [raised?]

theorem bind_eq_error {x : Except ε α} {f : α → Except ε β} :
    (x >>= f) = .error e ↔ x = .error e ∨ ∃ a, x = .ok a ∧ f a = .error e := by
  cases x with
  | error e' => simp [bind, Except.bind]
  | ok a => simp [bind, Except.bind]

theorem check_eq_error {p : Prop} [Decidable p] {e' : ε} :
    (check p e' : Except ε PUnit.{v + 1}) = .error e ↔ ¬ p ∧ e' = e := by
  by_cases hp : p <;> simp [check, hp]

theorem mapError_eq_error {f : ε' → ε} {x : Except ε' α} :
    x.mapError f = .error e ↔ ∃ e', x = .error e' ∧ f e' = e := by
  cases x <;> simp [Except.mapError]

end Error

end Fallible
