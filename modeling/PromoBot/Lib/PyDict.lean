import Mathlib.Data.List.Nodup
import Mathlib.Data.List.Perm.Basic

/-!
# Python dictionaries

A Python `dict` is its list of items, no key twice.  `dict(pairs)` of a list in which
keys may repeat keeps the last value of each key; two dictionaries are equal when they
have the same value under every key.

`perm_of_sameDict` is why a program may compare two lists of pairs as dictionaries: when
they are of the same length, and the keys of one are distinct, nothing is lost.
-/

universe u v

/-- A Python `dict`. -/
structure PyDict (α : Type u) (β : Type v) where
  items : List (α × β)
  nodup : (items.map Prod.fst).Nodup

namespace PyDict

variable {α : Type u} {β : Type v} [DecidableEq α]

/-- `dict(pairs).get(key)`. -/
def lookup (pairs : List (α × β)) (key : α) : Option β :=
  (pairs.findRev? fun e => e.1 = key).map Prod.snd

/-- `dict(pairs) == dict(pairs')`. -/
def SameDict (pairs pairs' : List (α × β)) : Prop :=
  ∀ key ∈ pairs.map Prod.fst ++ pairs'.map Prod.fst, lookup pairs key = lookup pairs' key

instance [DecidableEq β] (pairs pairs' : List (α × β)) : Decidable (SameDict pairs pairs') :=
  inferInstanceAs (Decidable (∀ _ ∈ _, _))

theorem exists_lookup_of_mem {pairs : List (α × β)} {key : α} (h : key ∈ pairs.map Prod.fst) :
    ∃ value, lookup pairs key = some value ∧ (key, value) ∈ pairs := by
  obtain ⟨⟨key', value'⟩, hmem, rfl⟩ := List.mem_map.1 h
  have hfound : (pairs.reverse.find? fun e => e.1 = key').isSome :=
    List.find?_isSome.2 ⟨(key', value'), List.mem_reverse.2 hmem, decide_eq_true rfl⟩
  obtain ⟨⟨key, value⟩, hfind⟩ := Option.isSome_iff_exists.1 hfound
  obtain rfl : key = key' := by simpa using List.find?_some hfind
  refine ⟨value, ?_, List.mem_reverse.1 (List.mem_of_find?_eq_some hfind)⟩
  rw [lookup, List.findRev?_eq_find?_reverse, hfind, Option.map_some]

theorem mem_keys_of_lookup {pairs : List (α × β)} {key : α} {value : β}
    (h : lookup pairs key = some value) : key ∈ pairs.map Prod.fst := by
  rw [lookup, List.findRev?_eq_find?_reverse] at h
  obtain ⟨e, hfind, rfl⟩ := Option.map_eq_some_iff.1 h
  obtain rfl : e.1 = key := by simpa using List.find?_some hfind
  exact List.mem_map_of_mem (List.mem_reverse.1 (List.mem_of_find?_eq_some hfind))

theorem lookup_eq_some_iff {pairs : List (α × β)} (hnodup : (pairs.map Prod.fst).Nodup)
    {key : α} {value : β} : lookup pairs key = some value ↔ (key, value) ∈ pairs := by
  constructor
  · intro h
    obtain ⟨value', h', hmem⟩ := exists_lookup_of_mem (mem_keys_of_lookup h)
    obtain rfl := Option.some.inj (h.symm.trans h')
    exact hmem
  · intro hmem
    obtain ⟨value', h', hmem'⟩ := exists_lookup_of_mem (List.mem_map_of_mem hmem)
    rw [h']
    exact congrArg (some ∘ Prod.snd) (List.inj_on_of_nodup_map hnodup hmem' hmem rfl)

/-- **Equal dictionaries of the same number of items have the same items**, and a list
compared so repeats no key. -/
theorem perm_of_sameDict {pairs pairs' : List (α × β)} (hnodup : (pairs'.map Prod.fst).Nodup)
    (hlength : pairs.length = pairs'.length) (h : SameDict pairs pairs') : pairs.Perm pairs' := by
  have hkeys : pairs'.map Prod.fst ⊆ pairs.map Prod.fst := by
    intro key hkey
    obtain ⟨value, hvalue, -⟩ := exists_lookup_of_mem hkey
    exact mem_keys_of_lookup ((h key (List.mem_append_right _ hkey)).trans hvalue)
  have hperm : (pairs'.map Prod.fst).Perm (pairs.map Prod.fst) :=
    (List.subperm_of_subset hnodup hkeys).perm_of_length_le (by simp [hlength])
  have hnodup' : (pairs.map Prod.fst).Nodup := hperm.nodup_iff.1 hnodup
  refine (List.perm_ext_iff_of_nodup hnodup'.of_map hnodup.of_map).2 ?_
  rintro ⟨key, value⟩
  rw [← lookup_eq_some_iff hnodup, ← lookup_eq_some_iff hnodup']
  by_cases hkey : key ∈ pairs.map Prod.fst
  · rw [h key (List.mem_append_left _ hkey)]
  · have hkey' : key ∉ pairs'.map Prod.fst := fun hmem => hkey (hkeys hmem)
    exact ⟨fun hvalue => absurd (mem_keys_of_lookup hvalue) hkey,
      fun hvalue => absurd (mem_keys_of_lookup hvalue) hkey'⟩

end PyDict
