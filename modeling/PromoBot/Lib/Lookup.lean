import Mathlib.Data.List.Nodup
import Mathlib.Data.List.Perm.Basic

/-!
# Lists with keys

A list of pairs whose keys are distinct is a finite map: a value is found under the key it
stands with, and the order of the pairs does not matter.
-/

universe u v

namespace Lookup

variable {κ : Type u} {β : Type v} [BEq κ] [LawfulBEq κ] {l l' : List (κ × β)} {k : κ}

theorem mem_of_lookup {b : β} (h : l.lookup k = some b) : (k, b) ∈ l := by
  obtain ⟨before, after, rfl, -⟩ := List.lookup_eq_some_iff.1 h
  exact List.mem_append_right _ List.mem_cons_self

theorem lookup_eq_some_iff_mem (h : (l.map Prod.fst).Nodup) {b : β} :
    l.lookup k = some b ↔ (k, b) ∈ l := by
  refine ⟨mem_of_lookup, fun hmem => ?_⟩
  obtain ⟨before, after, rfl⟩ := List.append_of_mem hmem
  refine List.lookup_eq_some_iff.2 ⟨before, after, rfl, fun e he => ?_⟩
  rw [List.map_append, List.nodup_append] at h
  have hne := h.2.2 e.1 (List.mem_map_of_mem he) k (List.mem_map_of_mem List.mem_cons_self)
  exact bne_iff_ne.2 hne.symm

theorem lookup_eq_none_iff_not_mem : l.lookup k = none ↔ k ∉ l.map Prod.fst := by
  rw [List.lookup_eq_none_iff, List.mem_map]
  constructor
  · rintro h ⟨e, he, rfl⟩
    simpa using h e he
  · intro h e he
    exact bne_iff_ne.2 fun heq => h ⟨e, he, heq.symm⟩

/-- **The order of the pairs does not matter.** -/
theorem lookup_perm (h : l.Perm l') (hkeys : (l.map Prod.fst).Nodup) (k : κ) :
    l.lookup k = l'.lookup k := by
  ext b
  rw [lookup_eq_some_iff_mem hkeys, lookup_eq_some_iff_mem ((h.map Prod.fst).nodup hkeys),
    h.mem_iff]

omit [LawfulBEq κ] in
theorem lookup_map_snd {γ : Type*} (f : β → γ) (l : List (κ × β)) (k : κ) :
    (l.map fun e => (e.1, f e.2)).lookup k = (l.lookup k).map f := by
  induction l with
  | nil => rfl
  | cons e l ih =>
    rw [List.map_cons, List.lookup_cons, List.lookup_cons]
    cases k == e.1 with
    | true => rfl
    | false => exact ih

omit [LawfulBEq κ] in
/-- Looking up where every value becomes another one. -/
theorem lookup_filterMap_of_isSome {γ : Type*} {f : β → Option γ} {l : List (κ × β)}
    (h : ∀ e ∈ l, (f e.2).isSome) (k : κ) :
    (l.filterMap fun e => (f e.2).map fun c => (e.1, c)).lookup k = (l.lookup k).bind f := by
  induction l with
  | nil => rfl
  | cons e l ih =>
    obtain ⟨c, hc⟩ := Option.isSome_iff_exists.1 (h e List.mem_cons_self)
    have hrest := ih fun e' he' => h e' (List.mem_cons_of_mem _ he')
    rw [List.filterMap_cons, hc, Option.map_some]
    dsimp only
    rw [List.lookup_cons, List.lookup_cons, hrest]
    cases k == e.1 with
    | true => exact hc.symm
    | false => rfl

omit [BEq κ] [LawfulBEq κ] in
/-- What is left when the later ones of equal values are left out stands there once. -/
theorem nodup_eraseDups {α : Type*} [BEq α] [LawfulBEq α] (l : List α) : l.eraseDups.Nodup := by
  induction hn : l.length using Nat.strongRecOn generalizing l with
  | _ n ih =>
    cases l with
    | nil => exact List.nodup_nil
    | cons a l =>
      rw [List.eraseDups_cons, List.nodup_cons]
      have hlt : (l.filter fun b => !b == a).length < n := by
        rw [← hn, List.length_cons]
        exact Nat.lt_succ_of_le (List.length_filter_le _ _)
      refine ⟨fun hmem => ?_, ih _ hlt _ rfl⟩
      have hkept := (List.mem_filter.1 (List.mem_eraseDups.1 hmem)).2
      simp at hkept

end Lookup
