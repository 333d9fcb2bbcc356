import Mathlib.Data.List.Sort
import Mathlib.Data.Prod.Lex
import PromoBot.Lib.SqlTable

/-!
# Rows that come in any order

A query without `ORDER BY` promises the rows and not their order, so a table is known only up
to a permutation of its entries.  What is selected from two tables with the same rows is the
same list up to a permutation (`select_perm`), and a sort gives the same list for every order
of the rows as long as no two of them tie (`insertionSort_eq_of_perm`).

A comparison of several columns is written with `Ordering.then`; `then_ne_gt` reads it as the
lexicographic order.
-/

universe u v w

namespace RowOrder

variable {α : Type u} {κ : Type v}

/-! ## Sorting -/

/-- **A sort does not see the order of its input**, as long as no two elements tie. -/
theorem insertionSort_eq_of_perm (r : α → α → Prop) [DecidableRel r] [Std.Total r] [IsTrans α r]
    {l l' : List α} (h : l.Perm l')
    (hties : ∀ a ∈ l, ∀ b ∈ l, r a b → r b a → a = b) :
    l.insertionSort r = l'.insertionSort r := by
  have hsame : (l.insertionSort r).Perm (l'.insertionSort r) :=
    ((List.perm_insertionSort r l).trans h).trans (List.perm_insertionSort r l').symm
  refine hsame.eq_of_pairwise ?_ (List.pairwise_insertionSort r l)
    (List.pairwise_insertionSort r l')
  intro a b ha hb hab hba
  rw [List.mem_insertionSort] at ha hb
  exact hties a ha b (h.mem_iff.2 hb) hab hba

/-- **Sorting what is selected is selecting from what is sorted**, also when the two sorts are
by different orders, the one implying the other. -/
theorem insertionSort_filter (r s : α → α → Prop) [DecidableRel r] [DecidableRel s] [Std.Total r]
    [IsTrans α r] [Std.Total s] [IsTrans α s] (p : α → Bool) {l : List α}
    (himp : ∀ a ∈ l, ∀ b ∈ l, r a b → s a b) (hties : ∀ a ∈ l, ∀ b ∈ l, s a b → s b a → a = b) :
    (l.filter p).insertionSort r = (l.insertionSort s).filter p := by
  have hperm : ((l.filter p).insertionSort r).Perm ((l.insertionSort s).filter p) :=
    (List.perm_insertionSort r _).trans ((List.perm_insertionSort s l).filter p).symm
  have hleft : ∀ a ∈ (l.filter p).insertionSort r, a ∈ l := fun a ha =>
    (List.mem_filter.1 ((List.mem_insertionSort r).1 ha)).1
  have hright : ∀ a ∈ (l.insertionSort s).filter p, a ∈ l := fun a ha =>
    (List.mem_insertionSort s).1 (List.mem_filter.1 ha).1
  have hsorted : ((l.filter p).insertionSort r).Pairwise s :=
    (List.pairwise_insertionSort r _).imp_of_mem fun ha hb hab =>
      himp _ (hleft _ ha) _ (hleft _ hb) hab
  refine hperm.eq_of_pairwise ?_ hsorted ((List.pairwise_insertionSort s l).filter p)
  intro a b ha hb hab hba
  exact hties a (hleft a ha) b (hright b hb) hab hba

/-- Two lists with the same elements, told apart by a column, are permutations of each
other. -/
theorem perm_of_nodup_map (f : α → κ) {l l' : List α} (hl : (l.map f).Nodup)
    (hl' : (l'.map f).Nodup) (h : ∀ a, a ∈ l ↔ a ∈ l') : l.Perm l' :=
  (List.perm_ext_iff_of_nodup (List.Nodup.of_map f hl) (List.Nodup.of_map f hl')).2 h

/-! ## Comparing several columns -/

/-- The first column decides, and if it ties the others do. -/
theorem then_ne_gt [LinearOrder α] {a b : α} {rest : Ordering} :
    (cmp a b).then rest ≠ .gt ↔ a < b ∨ a = b ∧ rest ≠ .gt := by
  rcases lt_trichotomy a b with hlt | rfl | hgt
  · have hcmp : cmp a b = .lt := cmp_eq_lt_iff _ _ |>.2 hlt
    rw [hcmp]
    exact iff_of_true Ordering.noConfusion (Or.inl hlt)
  · rw [cmp_self_eq_eq]
    exact ⟨fun h => Or.inr ⟨rfl, h⟩, fun h => h.elim (absurd · (lt_irrefl a)) And.right⟩
  · have hcmp : cmp a b = .gt := cmp_eq_gt_iff _ _ |>.2 hgt
    rw [hcmp]
    refine iff_of_false (fun h => h rfl) ?_
    rintro (hlt | ⟨heq, -⟩)
    · exact hgt.not_gt hlt
    · exact hgt.ne' heq

theorem cmp_ne_gt [LinearOrder α] {a b : α} : cmp a b ≠ .gt ↔ a ≤ b := by
  rw [Ne, cmp_eq_gt_iff, not_lt]

/-! ## Selecting -/

variable {ρ : Type w} [DecidableEq κ]

/-- **A query sees only the rows its clause is true of**: from two tables which agree on those
it selects the same rows. -/
theorem select_perm {t t' : SqlTable κ ρ} {p : κ → ρ → Prop} [∀ k r, Decidable (p k r)]
    (h : ∀ k, (t.get? k).filter (fun r => p k r) = (t'.get? k).filter fun r => p k r) :
    (t.select p).Perm (t'.select p) := by
  refine perm_of_nodup_map Prod.fst (t.nodup_keys_select p) (t'.nodup_keys_select p) ?_
  rintro ⟨k, r⟩
  have hrow (s : SqlTable κ ρ) : (k, r) ∈ s.select p ↔ (s.get? k).filter (fun r => p k r) = some r := by
    rw [SqlTable.mem_select, Option.filter_eq_some_iff, decide_eq_true_eq]
  rw [hrow, hrow, h k]

end RowOrder
