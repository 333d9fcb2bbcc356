import Mathlib.Data.List.Forall2

/-!
# Fallible code

A computation which may raise is an `Except`: a sequence of steps, each of which
may end the whole with an error.  The rules below take such a sequence apart: a
computation returned a value exactly when each of its steps did.

`Fallible.check` is the guard clause, `if not p: raise e`.
-/

universe u v w

namespace Fallible

variable {ε : Type u} {α β : Type v}

/-- Raise unless the condition holds. -/
def check (p : Prop) [Decidable p] (e : ε) : Except ε PUnit.{v + 1} :=
  if p then .ok ⟨⟩ else .error e

/-- The value, or else the error. -/
def orRaise (o : Option α) (e : ε) : Except ε α :=
  match o with
  | some a => .ok a
  | none => .error e

@[simp] theorem check_eq_ok {p : Prop} [Decidable p] {e : ε} {x : PUnit.{v + 1}} :
    check p e = .ok x ↔ p := by
  by_cases hp : p <;> simp [check, hp]

@[simp] theorem orRaise_eq_ok {o : Option α} {e : ε} {a : α} :
    orRaise o e = .ok a ↔ o = some a := by
  cases o <;> simp [orRaise]

theorem bind_eq_ok {x : Except ε α} {f : α → Except ε β} {b : β} :
    (x >>= f) = .ok b ↔ ∃ a, x = .ok a ∧ f a = .ok b := by
  cases x with
  | error e => simp [bind, Except.bind]
  | ok a => simp [bind, Except.bind]

@[simp] theorem mapError_eq_ok {ε' : Type w} {f : ε → ε'} {x : Except ε α} {a : α} :
    x.mapError f = .ok a ↔ x = .ok a := by
  cases x <;> simp [Except.mapError]

theorem map_eq_ok {f : α → β} {x : Except ε α} {b : β} :
    x.map f = .ok b ↔ ∃ a, x = .ok a ∧ f a = b := by
  cases x <;> simp [Except.map]

theorem toOption_eq_some {x : Except ε α} {a : α} : x.toOption = some a ↔ x = .ok a := by
  cases x <;> simp [Except.toOption]

theorem optionMapM_eq_ok {f : α → Except ε β} {o : Option α} {o' : Option β} :
    o.mapM f = .ok o' ↔ Option.Rel (fun a b => f a = .ok b) o o' := by
  cases o with
  | none => cases o' <;> simp [pure, Except.pure]
  | some a =>
    rw [Option.mapM_some]
    cases o' <;> cases h : f a <;> simp [Functor.map, Except.map, h]

/-- A loop which may raise returned exactly when every turn of it did. -/
theorem mapM_eq_ok {f : α → Except ε β} {l : List α} {l' : List β} :
    l.mapM f = .ok l' ↔ List.Forall₂ (fun a b => f a = .ok b) l l' := by
  induction l generalizing l' with
  | nil =>
    rw [List.mapM_nil]
    constructor
    · intro h
      obtain rfl := Except.ok.inj h
      exact .nil
    · intro h
      cases h
      rfl
  | cons a l ih =>
    rw [List.mapM_cons, bind_eq_ok]
    constructor
    · rintro ⟨b, hb, h⟩
      obtain ⟨bs, hbs, h⟩ := bind_eq_ok.1 h
      obtain rfl := Except.ok.inj h
      exact .cons hb (ih.1 hbs)
    · intro h
      cases h with
      | @cons _ b _ bs hb hbs => exact ⟨b, hb, bind_eq_ok.2 ⟨bs, ih.2 hbs, rfl⟩⟩

theorem mapM_congr {f g : α → Except ε β} {l : List α} (h : ∀ a ∈ l, f a = g a) :
    l.mapM f = l.mapM g := by
  induction l with
  | nil => rfl
  | cons a l ih =>
    rw [List.mapM_cons, List.mapM_cons, h a List.mem_cons_self,
      ih fun b hb => h b (List.mem_cons_of_mem a hb)]

/-- **The loop rule**: what every turn of a loop keeps, the whole loop keeps. -/
theorem foldlM_invariant {f : β → α → Except ε β} {P : β → Prop} {l : List α} {b b' : β}
    (h : l.foldlM f b = .ok b') (hb : P b)
    (hstep : ∀ a ∈ l, ∀ b b', P b → f b a = .ok b' → P b') : P b' := by
  induction l generalizing b with
  | nil =>
    rw [List.foldlM_nil] at h
    exact Except.ok.inj h ▸ hb
  | cons a l ih =>
    rw [List.foldlM_cons] at h
    obtain ⟨c, hc, h⟩ := bind_eq_ok.1 h
    exact ih h (hstep a List.mem_cons_self b c hb hc)
      fun d hd => hstep d (List.mem_cons_of_mem a hd)

/-- What the turn of an element brings about and every turn keeps, is so of every element
at the end. -/
theorem foldlM_each {f : β → α → Except ε β} {Q : α → β → Prop} {l : List α} {b b' : β}
    (h : l.foldlM f b = .ok b') (hturn : ∀ a b b', f b a = .ok b' → Q a b')
    (hkeep : ∀ a c b b', Q a b → f b c = .ok b' → Q a b') : ∀ a ∈ l, Q a b' := by
  induction l generalizing b with
  | nil => exact fun a ha => absurd ha List.not_mem_nil
  | cons c l ih =>
    rw [List.foldlM_cons] at h
    obtain ⟨d, hd, hrest⟩ := bind_eq_ok.1 h
    intro a ha
    rcases List.mem_cons.1 ha with rfl | ha
    · exact foldlM_invariant hrest (hturn a b d hd) fun e _ b b' hb hb' => hkeep a e b b' hb hb'
    · exact ih hrest a ha

theorem exists_of_mem_right {α β : Type*} {R : α → β → Prop} {l : List α} {m : List β}
    (h : List.Forall₂ R l m) {b : β} (hb : b ∈ m) : ∃ a ∈ l, R a b := by
  induction h with
  | nil => cases hb
  | @cons a c _ _ hac _ ih =>
    rcases List.mem_cons.1 hb with rfl | hb
    · exact ⟨a, List.mem_cons_self, hac⟩
    · obtain ⟨a', ha', hab⟩ := ih hb
      exact ⟨a', List.mem_cons_of_mem _ ha', hab⟩

theorem forall₂_chain {α β γ : Type*} {R : α → β → Prop} {S : β → γ → Prop} {T : α → γ → Prop}
    {l : List α} {m : List β} {n : List γ} (hR : List.Forall₂ R l m) (hS : List.Forall₂ S m n)
    (hT : ∀ a b c, R a b → S b c → T a c) : List.Forall₂ T l n := by
  induction hR generalizing n with
  | nil =>
    cases hS
    exact .nil
  | @cons a b _ _ hab _ ih =>
    cases hS with
    | @cons _ c _ _ hbc hS => exact .cons (hT a b c hab hbc) (ih hS)

/-- What a loop over pairs wrote stands at the place of the pair it was written for. -/
theorem exists_of_mem_zip {α β γ : Type*} {R : α × β → γ → Prop} {l : List α} {m : List β}
    {n : List γ} (h : List.Forall₂ R (l.zip m) n) {a : α} {c : γ} (hac : (a, c) ∈ l.zip n) :
    ∃ b ∈ m, R (a, b) c := by
  induction l generalizing m n with
  | nil => cases hac
  | cons a' l ih =>
    cases h' : m with
    | nil =>
      rw [h'] at h
      cases h
      cases hac
    | cons b m =>
      rw [h'] at h
      cases h with
      | @cons _ c' _ n hR h =>
        rcases List.mem_cons.1 hac with heq | hac
        · obtain ⟨rfl, rfl⟩ := Prod.mk.inj heq
          exact ⟨b, List.mem_cons_self, hR⟩
        · obtain ⟨b', hb', hR'⟩ := ih h hac
          exact ⟨b', List.mem_cons_of_mem _ hb', hR'⟩

end Fallible
