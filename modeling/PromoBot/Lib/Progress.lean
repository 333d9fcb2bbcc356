import Mathlib.Data.Prod.Lex
import Mathlib.Order.OrderIsoNat
import PromoBot.Lib.TransitionSystem

/-!
# Parties that come to rest

An infinite run takes a step at every time.  Where every step of one party lowers a measure
which no step of the others raises, and the measure cannot fall for ever, there is a time after
which the party takes no step any more (`InfiniteRun.rests`).
-/

universe u v w

namespace TransitionSystem

variable {σ : Type u} {α : Type v} {T : TransitionSystem σ α}

/-- An infinite run: the states it goes through, and what is done in each of them. -/
structure InfiniteRun (T : TransitionSystem σ α) where
  state : Nat → σ
  action : Nat → α
  step : ∀ n, T.step (state n) (action n) = some (state (n + 1))

namespace InfiniteRun

/-- A run that does the same thing for ever, where it changes nothing. -/
def still {s : σ} {a : α} (h : T.step s a = some s) : T.InfiniteRun where
  state := fun _ => s
  action := fun _ => a
  step := fun _ => h

def before (s : σ) (a : α) (r : T.InfiniteRun) (h : T.step s a = some (r.state 0)) :
    T.InfiniteRun where
  state
    | 0 => s
    | n + 1 => r.state n
  action
    | 0 => a
    | n + 1 => r.action n
  step
    | 0 => h
    | n + 1 => r.step n

/-- A schedule which replays can be taken before a run. -/
theorem exists_before {s : σ} {as : List α} (r : T.InfiniteRun)
    (h : T.replay s as = some (r.state 0)) :
    ∃ r' : T.InfiniteRun, r'.state 0 = s ∧ r'.state as.length = r.state 0 ∧
      ∀ n, r'.action n ∈ as ∨ ∃ m, r'.action n = r.action m := by
  induction as generalizing s with
  | nil =>
    obtain rfl := Option.some.inj h
    exact ⟨r, rfl, rfl, fun n => .inr ⟨n, rfl⟩⟩
  | cons a as ih =>
    rw [replay_cons, Option.bind_eq_some_iff] at h
    obtain ⟨t, ht, hrest⟩ := h
    obtain ⟨r', rfl, hlength, haction⟩ := ih hrest
    refine ⟨before s a r' ht, rfl, hlength, fun n => ?_⟩
    cases n with
    | zero => exact .inl List.mem_cons_self
    | succ n => exact (haction n).imp (List.mem_cons_of_mem a) id

variable (r : T.InfiniteRun)

theorem run (n k : Nat) : T.Run (r.state n) (r.state (n + k)) := by
  induction k with
  | zero => exact .refl _
  | succ k ih => exact ih.tail trivial (r.step (n + k))

theorem reachable (h : T.init (r.state 0)) (n : Nat) : T.Reachable (r.state n) :=
  ⟨_, h, Nat.zero_add n ▸ r.run 0 n⟩

theorem always {P : σ → Prop} {n : Nat} (h : P (r.state n))
    (hstep : ∀ k, n ≤ k → P (r.state k) → P (r.state (k + 1))) {k : Nat} (hk : n ≤ k) :
    P (r.state k) :=
  Nat.le_induction h hstep k hk

/-- **A party comes to rest** where its steps lower a well-founded measure which no step
raises. -/
theorem rests {β : Type w} [PartialOrder β] [WellFoundedLT β] (m : σ → β) (n : Nat)
    {mine : σ → α → Prop} (hle : ∀ k, n ≤ k → m (r.state (k + 1)) ≤ m (r.state k))
    (hlt : ∀ k, n ≤ k → mine (r.state k) (r.action k) → m (r.state (k + 1)) < m (r.state k)) :
    ∃ N, ∀ k, N ≤ k → ¬ mine (r.state k) (r.action k) := by
  have hanti : Antitone fun k => m (r.state (n + k)) :=
    antitone_nat_of_succ_le fun k => hle (n + k) (Nat.le_add_right n k)
  obtain ⟨N, hN⟩ := WellFoundedLT.antitone_chain_condition hanti
  refine ⟨n + N, fun k hk hmine => ?_⟩
  obtain ⟨j, rfl⟩ := Nat.exists_eq_add_of_le hk
  rw [Nat.add_assoc] at hmine
  have hconst := (hN (N + j) (Nat.le_add_right N j)).symm.trans
    (hN (N + j + 1) (Nat.le_add_right N (j + 1)))
  have hdrop := hlt (n + (N + j)) (Nat.le_add_right n _) hmine
  exact absurd hconst (ne_of_gt hdrop)

end InfiniteRun

end TransitionSystem
