import Mathlib.Data.List.Perm.Basic
import Mathlib.Data.List.Lattice

/-!
# Slots which hold an item each

A fixed row of slots, each of which is empty or holds one item; `f` reads the
item of a slot.  Replacing one slot adds an item to what the slots hold, takes one
away, or leaves it alone, and `held` says so up to the order.

A queue in front of the slots holds the items which are still waiting.  An item is
*marked* from the moment it waits until its slot lets go of it; `Marked` is the
bookkeeping between the three, and the lemmas after it are the three ways in which
an item moves.
-/

universe u v

namespace Slots

variable {σ : Type u} {β : Type v} (f : σ → Option β)

/-- What the slots hold. -/
def held (slots : List σ) : List β := slots.filterMap f

variable {f} {slots : List σ} {i : Nat} {s s' : σ} {x : β}

theorem mem_held : x ∈ held f slots ↔ ∃ s ∈ slots, f s = some x := List.mem_filterMap

/-- The slots around one of them. -/
theorem exists_split (h : slots[i]? = some s) (s' : σ) :
    ∃ l r, slots = l ++ s :: r ∧ slots.set i s' = l ++ s' :: r := by
  induction slots generalizing i with
  | nil => exact absurd h (by simp)
  | cons a slots ih =>
    cases i with
    | zero =>
      rw [List.getElem?_cons_zero, Option.some.injEq] at h
      exact ⟨[], slots, by rw [h, List.nil_append], rfl⟩
    | succ i =>
      rw [List.getElem?_cons_succ] at h
      obtain ⟨l, r, hslots, hset⟩ := ih h
      exact ⟨a :: l, r, by rw [hslots, List.cons_append],
        by rw [List.set_cons_succ, hset, List.cons_append]⟩

theorem held_set_take {t : σ} (h : slots[i]? = some s) (hs : f s = none) (ht : f t = some x) :
    (held f (slots.set i t)).Perm (x :: held f slots) := by
  obtain ⟨l, r, rfl, hset⟩ := exists_split h t
  rw [hset]
  unfold held
  rw [List.filterMap_append, List.filterMap_append, List.filterMap_cons_some ht,
    List.filterMap_cons_none hs]
  exact List.perm_middle

theorem held_set_release (h : slots[i]? = some s) (hs : f s = some x) (hs' : f s' = none) :
    (held f slots).Perm (x :: held f (slots.set i s')) := by
  obtain ⟨l, r, rfl, hset⟩ := exists_split h s'
  rw [hset]
  unfold held
  rw [List.filterMap_append, List.filterMap_append, List.filterMap_cons_some hs,
    List.filterMap_cons_none hs']
  exact List.perm_middle

theorem mem_set {t : σ} (h : t ∈ slots.set i s') : t = s' ∨ t ∈ slots := by
  rcases List.mem_or_eq_of_mem_set h with h | h
  · exact Or.inr h
  · exact Or.inl h

end Slots

/-! ## Marks -/

/-- The marked items are those which wait and those which are held, each once. -/
structure Marked {β : Type v} (marks waiting held : List β) : Prop where
  perm : marks.Perm (waiting ++ held)
  nodup : marks.Nodup

namespace Marked

variable {β : Type v} {marks waiting held held' : List β} {x : β}

theorem empty : Marked ([] : List β) [] [] where
  perm := by simp
  nodup := List.nodup_nil

theorem mem_iff (h : Marked marks waiting held) : x ∈ marks ↔ x ∈ waiting ∨ x ∈ held := by
  rw [h.perm.mem_iff, List.mem_append]

theorem nodup_append (h : Marked marks waiting held) : (waiting ++ held).Nodup :=
  h.perm.nodup_iff.1 h.nodup

theorem nodup_waiting (h : Marked marks waiting held) : waiting.Nodup :=
  (List.nodup_append.1 h.nodup_append).1

theorem put (h : Marked marks waiting held) (hx : x ∉ marks) :
    Marked (x :: marks) (waiting ++ [x]) held where
  perm := by
    rw [List.append_assoc, List.singleton_append]
    exact (h.perm.cons x).trans List.perm_middle.symm
  nodup := List.nodup_cons.2 ⟨hx, h.nodup⟩

theorem take (h : Marked marks (x :: waiting) held) (hp : held'.Perm (x :: held)) :
    Marked marks waiting held' where
  perm := h.perm.trans (List.perm_middle.symm.trans (hp.symm.append_left _))
  nodup := h.nodup

theorem release [DecidableEq β] (h : Marked marks waiting held) (hp : held.Perm (x :: held')) :
    Marked (marks.erase x) waiting held' where
  perm := by
    have hmarks : marks.Perm (x :: (waiting ++ held')) :=
      h.perm.trans ((hp.append_left _).trans List.perm_middle)
    have herase := hmarks.erase x
    rwa [List.erase_cons_head] at herase
  nodup := h.nodup.erase x

end Marked
