import Mathlib.Data.List.Induction

/-!
# Logs of what has happened

A system that writes down what it does keeps a log, in the order of events.  A log is
*lawful* when every event was allowed by the events before it.  A log grows at its end,
so it stays lawful as long as every event is allowed when it happens.
-/

universe u

namespace Trace

variable {ε : Type u} {allowed : List ε → ε → Prop} {log : List ε} {e : ε}

/-- Every event was allowed by the events before it. -/
def Lawful (allowed : List ε → ε → Prop) (log : List ε) : Prop :=
  ∀ pre e post, log = pre ++ e :: post → allowed pre e

theorem lawful_nil : Lawful allowed [] := by
  intro pre e post h
  cases pre <;> cases h

/-- Where an event of a log that grew by one stands: before the last one, or it is the
last one. -/
theorem split_concat {pre post : List ε} {e' : ε} (h : log ++ [e] = pre ++ e' :: post) :
    (∃ post', log = pre ++ e' :: post') ∨ pre = log ∧ e' = e := by
  rcases List.eq_nil_or_concat post with rfl | ⟨post', last, rfl⟩
  · obtain ⟨rfl, hlast⟩ := List.append_inj' h rfl
    exact Or.inr ⟨rfl, (List.cons.inj hlast).1.symm⟩
  · rw [List.concat_eq_append, ← List.cons_append, ← List.append_assoc] at h
    exact Or.inl ⟨post', (List.append_inj' h rfl).1⟩

/-- **A lawful log grows by an event its entries allow.** -/
theorem Lawful.concat (h : Lawful allowed log) (he : allowed log e) :
    Lawful allowed (log ++ [e]) := by
  intro pre e' post hsplit
  rcases split_concat hsplit with ⟨post', hlog⟩ | ⟨rfl, rfl⟩
  · exact h pre e' post' hlog
  · exact he

/-- What was allowed only below a bound has not gone beyond it. -/
theorem Lawful.countP_le (h : Lawful allowed log) {f : ε → Bool} {n : Nat}
    (hf : ∀ pre e, allowed pre e → f e = true → pre.countP f < n) : log.countP f ≤ n := by
  induction log using List.reverseRecOn with
  | nil => exact Nat.zero_le n
  | append_singleton log e ih =>
    have hlog : Lawful allowed log := by
      intro pre e' post hsplit
      exact h pre e' (post ++ [e]) (by rw [hsplit, List.append_assoc, List.cons_append])
    rw [List.countP_append, List.countP_singleton]
    split
    · next hfe =>
      have hlt := hf log e (h log e [] rfl) hfe
      omega
    · exact ih hlog

end Trace
