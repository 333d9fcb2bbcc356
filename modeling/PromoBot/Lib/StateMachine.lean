import PromoBot.Lib.TransitionSystem

/-!
# Refinement of a declared state machine

A state machine is declared by the state a record is created in and by the list
of states allowed after each state.  A system refines it when, seen through a
projection to the state of one record, every step either leaves the record alone,
or creates it, or moves it along a declared edge.

From that one-step statement follow the two facts about whole runs which make a
declared machine worth having: a record ends in a state its first one leads to
(`life_of_run`), and a set of states closed under the edges --- a terminal state
in particular --- is never left (`Life.of_closed`, `Life.of_terminal`).
-/

universe u v w

namespace StateMachine

variable {S : Type u} {first : S} {next : S → List S}

/-- What a step may do to one record, which may not exist yet. -/
inductive Move (first : S) (next : S → List S) : Option S → Option S → Prop
  | stay (x : Option S) : Move first next x x
  | create : Move first next none (some first)
  | edge {a b : S} : b ∈ next a → Move first next (some a) (some b)

theorem Move.of_eq {a b x y : S} (hx : x = a) (hy : y = b) (h : b ∈ next a) :
    Move first next (some x) (some y) :=
  hx ▸ hy ▸ .edge h

/-- What a run may do to one record. -/
abbrev Life (first : S) (next : S → List S) : Option S → Option S → Prop :=
  Relation.ReflTransGen (Move first next)

theorem Life.of_closed {P : S → Prop} (hclosed : ∀ a b, P a → b ∈ next a → P b) {a : S}
    {x : Option S} (h : Life first next (some a) x) (ha : P a) : ∃ b, x = some b ∧ P b := by
  induction h with
  | refl => exact ⟨a, rfl, ha⟩
  | tail _ hmove ih =>
    obtain ⟨b, rfl, hb⟩ := ih
    cases hmove with
    | stay => exact ⟨b, rfl, hb⟩
    | edge hbc => exact ⟨_, rfl, hclosed b _ hb hbc⟩

theorem Life.of_terminal {a : S} {x : Option S} (h : Life first next (some a) x)
    (ha : next a = []) : x = some a := by
  obtain ⟨b, rfl, rfl⟩ := h.of_closed (P := fun b => b = a) (by
    rintro b c rfl hc
    rw [ha] at hc
    exact absurd hc List.not_mem_nil) rfl
  rfl

variable {σ : Type v} {α : Type w} {T : TransitionSystem σ α} {good : σ → α → Prop}

theorem life_of_run (state : σ → Option S)
    (hstep : ∀ s a t, good s a → T.step s a = some t → Move first next (state s) (state t))
    {s t : σ} (hrun : T.RunUnder good s t) : Life first next (state s) (state t) := by
  obtain ⟨y, hlife, rfl⟩ := hrun.forward_simulation (R := fun s x => x = state s)
    (fun s a t x hx ha h => ⟨_, Relation.ReflTransGen.single (hx ▸ hstep s a t ha h), rfl⟩) rfl
  exact hlife

end StateMachine
