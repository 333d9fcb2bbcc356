import Mathlib.Data.List.AList
import Mathlib.Data.List.Sort

/-!
# Tables with a primary key

A table is Mathlib's `AList`: a list of rows together with the fact that no two
of them have the same key.  On top of it stand the four statements a program
issues --- `SELECT`, `INSERT`, `UPDATE … WHERE` and `DELETE … WHERE` --- each
with the lemma saying what it does to the row of a given key.  Proofs about a
program's statements use only those lemmas, so a table behaves there like a
partial function from keys to rows.

A comparison with a nullable column is not a comparison of options: SQL counts a
row whose column is `NULL` as not matching.  `AtMost` and `Above` are the two
comparisons needed, in that reading.

---

`updateOne` is an `UPDATE` of one key whose row count the caller looks at: it
answers `none` when no row matched, which is how a conditional update reports
that it lost a race.
-/

universe u v

/-- A table: rows of type `ρ` under pairwise different keys of type `κ`. -/
abbrev SqlTable (κ : Type u) (ρ : Type v) := AList (fun _ : κ => ρ)

/-! ## Comparisons with a nullable column -/

section Nullable

variable {α : Type u}

/-- `column <= bound`, which `NULL` does not satisfy. -/
def AtMost [LE α] (column : Option α) (bound : α) : Prop := ∃ v ∈ column, v ≤ bound

/-- `column > bound`, which `NULL` does not satisfy. -/
def Above [LT α] (column : Option α) (bound : α) : Prop := ∃ v ∈ column, bound < v

instance [LE α] [DecidableLE α] (column : Option α) (bound : α) : Decidable (AtMost column bound) :=
  inferInstanceAs (Decidable (∃ v ∈ column, v ≤ bound))

instance [LT α] [DecidableLT α] (column : Option α) (bound : α) : Decidable (Above column bound) :=
  inferInstanceAs (Decidable (∃ v ∈ column, bound < v))

@[simp] theorem atMost_none [LE α] (bound : α) : ¬ AtMost none bound := by simp [AtMost]

@[simp] theorem atMost_some [LE α] (v bound : α) : AtMost (some v) bound ↔ v ≤ bound := by
  simp [AtMost]

@[simp] theorem above_none [LT α] (bound : α) : ¬ Above none bound := by simp [Above]

@[simp] theorem above_some [LT α] (v bound : α) : Above (some v) bound ↔ bound < v := by
  simp [Above]

end Nullable

namespace SqlTable

variable {κ : Type u} {ρ : Type v} [DecidableEq κ]

/-! ## The statements -/

/-- The row of a key. -/
def get? (t : SqlTable κ ρ) (k : κ) : Option ρ := t.lookup k

/-- The rows a `WHERE` clause selects, with their keys. -/
def select (t : SqlTable κ ρ) (p : κ → ρ → Prop) [∀ k r, Decidable (p k r)] : List (κ × ρ) :=
  (t.entries.map fun e => (e.1, e.2)).filter fun e => p e.1 e.2

/-- `INSERT`, or replacement of the row of that key. -/
def put (t : SqlTable κ ρ) (k : κ) (r : ρ) : SqlTable κ ρ := t.insert k r

/-- `UPDATE … WHERE p`. -/
def updateWhere (t : SqlTable κ ρ) (p : κ → ρ → Prop) [∀ k r, Decidable (p k r)] (f : ρ → ρ) :
    SqlTable κ ρ where
  entries := t.entries.map fun e => ⟨e.1, if p e.1 e.2 then f e.2 else e.2⟩
  nodupKeys := by
    rw [List.NodupKeys, List.keys, List.map_map]
    exact t.nodupKeys

/-- `DELETE … WHERE p`. -/
def deleteWhere (t : SqlTable κ ρ) (p : κ → ρ → Prop) [∀ k r, Decidable (p k r)] :
    SqlTable κ ρ where
  entries := t.entries.filter fun e => ¬ p e.1 e.2
  nodupKeys := t.nodupKeys.sublist List.filter_sublist

/-- `UPDATE … WHERE key = k AND p`, answering `none` when no row matched. -/
def updateOne (t : SqlTable κ ρ) (k : κ) (p : ρ → Prop) [DecidablePred p] (f : ρ → ρ) :
    Option (SqlTable κ ρ) :=
  match t.get? k with
  | some r => if p r then some (t.updateWhere (fun j _ => j = k) f) else none
  | none => none

/-! ## What they do to one row -/

@[simp] theorem get?_empty (k : κ) : (∅ : SqlTable κ ρ).get? k = none := rfl

theorem get?_put (t : SqlTable κ ρ) (j k : κ) (r : ρ) :
    (t.put k r).get? j = if j = k then some r else t.get? j := by
  rcases eq_or_ne j k with rfl | hjk
  · rw [if_pos rfl]
    exact AList.lookup_insert t
  · rw [if_neg hjk]
    exact AList.lookup_insert_ne hjk

@[simp] theorem get?_put_self (t : SqlTable κ ρ) (k : κ) (r : ρ) :
    (t.put k r).get? k = some r := by
  rw [get?_put, if_pos rfl]

theorem get?_put_ne (t : SqlTable κ ρ) {j k : κ} (r : ρ) (h : j ≠ k) :
    (t.put k r).get? j = t.get? j := by
  rw [get?_put, if_neg h]

theorem get?_updateWhere (t : SqlTable κ ρ) (p : κ → ρ → Prop) [∀ k r, Decidable (p k r)]
    (f : ρ → ρ) (k : κ) :
    (t.updateWhere p f).get? k = (t.get? k).map fun r => if p k r then f r else r :=
  List.dlookup_map₂ (f := fun k r => if p k r then f r else r) k

theorem get?_deleteWhere (t : SqlTable κ ρ) (p : κ → ρ → Prop) [∀ k r, Decidable (p k r)]
    (k : κ) :
    (t.deleteWhere p).get? k = (t.get? k).filter fun r => ¬ p k r := by
  ext r
  simp only [get?, ← Option.mem_def, AList.mem_lookup_iff, Option.mem_filter_iff]
  simp [deleteWhere]

/-- A row is selected exactly when it is the row of its key and satisfies the
clause. -/
theorem mem_select {t : SqlTable κ ρ} {p : κ → ρ → Prop} [∀ k r, Decidable (p k r)]
    {k : κ} {r : ρ} : (k, r) ∈ t.select p ↔ t.get? k = some r ∧ p k r := by
  rw [select, List.mem_filter, get?, ← Option.mem_def, AList.mem_lookup_iff]
  refine and_congr ⟨fun h => ?_, fun h => ?_⟩ (by simp)
  · obtain ⟨e, he, hekr⟩ := List.mem_map.1 h
    obtain ⟨rfl, rfl⟩ := Prod.mk.inj hekr
    exact he
  · exact List.mem_map.2 ⟨⟨k, r⟩, h, rfl⟩

omit [DecidableEq κ] in
theorem select_eq_filter (t : SqlTable κ ρ) (p : κ → ρ → Prop) [∀ k r, Decidable (p k r)] :
    t.select p = (t.select fun _ _ => True).filter fun e => p e.1 e.2 := by
  unfold select
  rw [List.filter_filter]
  exact List.filter_congr fun e _ => (Bool.and_true _).symm

omit [DecidableEq κ] in
theorem nodup_keys_select (t : SqlTable κ ρ) (p : κ → ρ → Prop) [∀ k r, Decidable (p k r)] :
    ((t.select p).map Prod.fst).Nodup := by
  have hkeys : ((t.entries.map fun e => (e.1, e.2)).map Prod.fst).Nodup := by
    rw [List.map_map]
    exact t.nodupKeys
  exact hkeys.sublist (List.filter_sublist.map Prod.fst)

/-! ## Conditional updates -/

theorem updateOne_eq_some {t t' : SqlTable κ ρ} {k : κ} {p : ρ → Prop} [DecidablePred p]
    {f : ρ → ρ} : t.updateOne k p f = some t' ↔
      ∃ r, t.get? k = some r ∧ p r ∧ t' = t.updateWhere (fun j _ => j = k) f := by
  unfold updateOne
  cases h : t.get? k with
  | none => simp
  | some r => by_cases hp : p r <;> simp [hp, eq_comm]

theorem exists_updateOne {t : SqlTable κ ρ} {k : κ} {p : ρ → Prop} [DecidablePred p] {r : ρ}
    (hr : t.get? k = some r) (hp : p r) (f : ρ → ρ) : ∃ t', t.updateOne k p f = some t' :=
  ⟨t.updateWhere (fun j _ => j = k) f, updateOne_eq_some.2 ⟨r, hr, hp, rfl⟩⟩

theorem updateOne_eq_none {t : SqlTable κ ρ} {k : κ} {p : ρ → Prop} [DecidablePred p]
    {f : ρ → ρ} : t.updateOne k p f = none ↔ ∀ r, t.get? k = some r → ¬ p r := by
  unfold updateOne
  cases h : t.get? k with
  | none => simp
  | some r => by_cases hp : p r <;> simp [hp]

/-- The whole effect of a conditional update that matched: the row of its key is
changed, every other row is as before. -/
theorem get?_of_updateOne {t t' : SqlTable κ ρ} {k : κ} {p : ρ → Prop} [DecidablePred p]
    {f : ρ → ρ} (h : t.updateOne k p f = some t') :
    (∃ r, t.get? k = some r ∧ p r ∧ t'.get? k = some (f r)) ∧
      ∀ j, j ≠ k → t'.get? j = t.get? j := by
  obtain ⟨r, hr, hp, rfl⟩ := updateOne_eq_some.1 h
  refine ⟨⟨r, hr, hp, ?_⟩, fun j hj => ?_⟩
  · rw [get?_updateWhere, hr]
    simp
  · rw [get?_updateWhere]
    simp [hj]

/-! ## Counting rows -/

theorem length_select_put (t : SqlTable κ ρ) (p : κ → ρ → Prop) [∀ k r, Decidable (p k r)]
    {k : κ} (r : ρ) (h : t.get? k = none) :
    ((t.put k r).select p).length = (t.select p).length + if p k r then 1 else 0 := by
  have hk : k ∉ t := AList.lookup_eq_none.1 h
  unfold select put
  rw [AList.insert_of_notMem hk, List.map_cons, List.filter_cons]
  by_cases hp : p k r <;> simp [hp]

/-- A row that replaces one counts for it. -/
theorem length_select_put_of_get? (t : SqlTable κ ρ) (p : κ → ρ → Prop)
    [∀ k r, Decidable (p k r)] {k : κ} {r r' : ρ} (h : t.get? k = some r') (hp : p k r ↔ p k r') :
    ((t.put k r).select p).length = (t.select p).length := by
  have hk : k ∈ t.entries.keys := by
    have hmem : k ∈ t := AList.lookup_isSome.1 (by rw [get?] at h; rw [h]; rfl)
    exact hmem
  obtain ⟨r₀, l₁, l₂, hl₁, hentries, hkerase⟩ := List.exists_of_kerase hk
  have hr₀ : r₀ = r' := by
    have hmem : (⟨k, r₀⟩ : Sigma fun _ : κ => ρ) ∈ t.entries := by
      rw [hentries]
      exact List.mem_append_right _ List.mem_cons_self
    have hget : t.get? k = some r₀ := AList.mem_lookup_iff.2 hmem
    exact Option.some.inj (hget.symm.trans h)
  unfold select put
  rw [AList.entries_insert, hkerase, hentries]
  subst hr₀
  by_cases hpk : p k r₀
  · simp [List.filter_append, hp, hpk]
    omega
  · simp [List.filter_append, hp, hpk]

theorem length_select_key_le_one (t : SqlTable κ ρ) (k : κ) :
    (t.select fun j _ => j = k).length ≤ 1 := by
  unfold select
  have hnodup : (t.entries.map fun e => e.1).Nodup := t.nodupKeys
  rw [List.filter_map, List.length_map]
  have hcount := List.nodup_iff_count_le_one.1 hnodup k
  rw [List.count, List.countP_map, List.countP_eq_length_filter] at hcount
  refine le_trans (le_of_eq ?_) hcount
  congr 1

/-! ## Row by row -/

/-- Two tables have rows under the same keys, and these are related. -/
def RowsRel (R : κ → ρ → ρ → Prop) (t t' : SqlTable κ ρ) : Prop :=
  ∀ k, Option.Rel (R k) (t.get? k) (t'.get? k)

section RowsRel

variable {R : κ → ρ → ρ → Prop} {t t' : SqlTable κ ρ} {k : κ} {r : ρ}

theorem RowsRel.of_get? (h : RowsRel R t t') (hr : t.get? k = some r) :
    ∃ r', t'.get? k = some r' ∧ R k r r' := by
  have hk := h k
  rw [hr] at hk
  cases ht : t'.get? k with
  | none => rw [ht] at hk; cases hk
  | some r' =>
    rw [ht] at hk
    cases hk with
    | some hR => exact ⟨r', rfl, hR⟩

theorem RowsRel.of_get?' (h : RowsRel R t t') (hr : t'.get? k = some r) :
    ∃ r₀, t.get? k = some r₀ ∧ R k r₀ r := by
  have hk := h k
  rw [hr] at hk
  cases ht : t.get? k with
  | none => rw [ht] at hk; cases hk
  | some r₀ =>
    rw [ht] at hk
    cases hk with
    | some hR => exact ⟨r₀, rfl, hR⟩

theorem RowsRel.refl (hR : ∀ k r, R k r r) (t : SqlTable κ ρ) : RowsRel R t t := by
  intro k
  cases t.get? k with
  | none => exact .none
  | some r => exact .some (hR k r)

theorem RowsRel.trans {R' R'' : κ → ρ → ρ → Prop} {t'' : SqlTable κ ρ} (h : RowsRel R t t')
    (h' : RowsRel R' t' t'') (hR : ∀ k a b c, R k a b → R' k b c → R'' k a c) :
    RowsRel R'' t t'' := by
  intro k
  cases ht : t.get? k with
  | none =>
    cases ht'' : t''.get? k with
    | none => exact .none
    | some r'' =>
      obtain ⟨r', hr', -⟩ := h'.of_get?' ht''
      obtain ⟨r, hr, -⟩ := h.of_get?' hr'
      rw [ht] at hr
      cases hr
  | some r =>
    obtain ⟨r', hr', hrr'⟩ := h.of_get? ht
    obtain ⟨r'', hr'', hr'r''⟩ := h'.of_get? hr'
    rw [hr'']
    exact .some (hR k r r' r'' hrr' hr'r'')

theorem RowsRel.mono {R' : κ → ρ → ρ → Prop} (h : RowsRel R t t')
    (hR : ∀ k r r', R k r r' → R' k r r') : RowsRel R' t t' :=
  h.trans (RowsRel.refl (fun _ _ => rfl) t') fun k a b _ hab hbc => hbc ▸ hR k a b hab

/-- An update relates every row it selects to its new one. -/
theorem rowsRel_updateWhere (t : SqlTable κ ρ) (p : κ → ρ → Prop) [∀ k r, Decidable (p k r)]
    (f : ρ → ρ) (hR : ∀ k r, R k r r) (hf : ∀ k r, t.get? k = some r → p k r → R k r (f r)) :
    RowsRel R t (t.updateWhere p f) := by
  intro k
  rw [get?_updateWhere]
  cases ht : t.get? k with
  | none => exact .none
  | some r =>
    refine .some ?_
    by_cases hp : p k r
    · simp only [hp, if_true]
      exact hf k r ht hp
    · simp only [hp, if_false]
      exact hR k r

theorem rowsRel_updateOne {p : ρ → Prop} [DecidablePred p] {f : ρ → ρ}
    (h : t.updateOne k p f = some t') (hR : ∀ k r, R k r r)
    (hf : ∀ r, t.get? k = some r → p r → R k r (f r)) : RowsRel R t t' := by
  obtain ⟨r, hr, hp, rfl⟩ := updateOne_eq_some.1 h
  refine rowsRel_updateWhere t _ f hR ?_
  rintro j r' hr' rfl
  obtain rfl := Option.some.inj (hr.symm.trans hr')
  exact hf r hr hp

end RowsRel

/-! ## Fresh row numbers -/

/-- A row number above every one in use, as an autoincremented key is. -/
def freshId (t : SqlTable Nat ρ) : Nat := (t.keys.foldr max 0) + 1

theorem lt_freshId_of_get? {t : SqlTable Nat ρ} {k : Nat} {r : ρ} (h : t.get? k = some r) :
    k < t.freshId := by
  have hmem : k ∈ t.keys := by
    have : k ∈ t := AList.lookup_isSome.1 (by rw [get?] at h; rw [h]; rfl)
    exact AList.mem_keys.1 this
  have hle : ∀ l : List Nat, k ∈ l → k ≤ l.foldr max 0 := by
    intro l hl
    induction l with
    | nil => simp at hl
    | cons a l ih =>
      rcases List.mem_cons.1 hl with rfl | hl
      · simp
      · exact (ih hl).trans (by simp)
  exact Nat.lt_succ_of_le (hle _ hmem)

@[simp] theorem get?_freshId (t : SqlTable Nat ρ) : t.get? t.freshId = none := by
  cases h : t.get? t.freshId with
  | none => rfl
  | some r => exact absurd (lt_freshId_of_get? h) (lt_irrefl _)

end SqlTable
