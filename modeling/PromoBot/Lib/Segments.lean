import PromoBot.Lib.PyText

/-!
# The segments of a path

`t.strip(sep).split(sep)` at a single character, the usual way to take a path apart.  The
result forgets the separators around the path and keeps those inside it, so as long as no
segment is empty it says exactly what the path is (`split_stripOf_eq_iff`).
-/

namespace Text

/-- `t.strip(sep)`. -/
def stripOf (sep : Char) (t : Text) : Text := rstripBy (· = sep) (t.dropWhile (· = sep))

/-! ## Splitting and joining -/

theorem split_eq_splitOn (sep : Char) (t : Text) : t.split sep = t.splitOn sep := by
  induction t with
  | nil => rfl
  | cons c t ih =>
    rw [List.splitOn_cons_eq_if_modifyHead, Text.split, ih]
    by_cases hc : c = sep
    · rw [if_pos hc, if_pos (beq_iff_eq.2 hc)]
    · rw [if_neg hc, if_neg (mt beq_iff_eq.1 hc)]
      cases hparts : t.splitOn sep with
      | nil => exact absurd hparts (List.splitOn_ne_nil sep t)
      | cons part parts => rfl

/-- A part has no separator in it. -/
theorem not_mem_of_mem_split {sep : Char} {t part : Text} (h : part ∈ t.split sep) :
    sep ∉ part := by
  rw [split_eq_splitOn] at h
  induction t generalizing part with
  | nil =>
    rw [List.splitOn_nil, List.mem_singleton] at h
    rw [h]
    exact List.not_mem_nil
  | cons c t ih =>
    rw [List.splitOn_cons_eq_if_modifyHead] at h
    split at h
    · rcases List.mem_cons.1 h with rfl | h
      · exact List.not_mem_nil
      · exact ih h
    · next hc =>
      cases hparts : t.splitOn sep with
      | nil => exact absurd hparts (List.splitOn_ne_nil sep t)
      | cons first parts =>
        rw [hparts, List.modifyHead_cons, List.mem_cons] at h
        rw [hparts] at ih
        rcases h with rfl | h
        · rw [List.mem_cons, not_or]
          exact ⟨fun heq => hc (beq_iff_eq.2 heq.symm), ih List.mem_cons_self⟩
        · exact ih (List.mem_cons_of_mem first h)

theorem split_eq_iff {sep : Char} {t : Text} {parts : List Text} (hne : parts ≠ []) :
    t.split sep = parts ↔ (∀ part ∈ parts, sep ∉ part) ∧ t = [sep].intercalate parts := by
  constructor
  · rintro rfl
    refine ⟨fun part hpart => not_mem_of_mem_split hpart, ?_⟩
    rw [split_eq_splitOn, List.intercalate_splitOn]
  · rintro ⟨hfree, rfl⟩
    rw [split_eq_splitOn, List.splitOn_intercalate sep hfree hne]

/-! ## Separators around a text -/

theorem stripOf_spec (sep : Char) (t : Text) : ∃ front back, (∀ c ∈ front, c = sep) ∧
    (∀ c ∈ back, c = sep) ∧ t = front ++ stripOf sep t ++ back := by
  refine ⟨t.takeWhile (· = sep), (t.dropWhile (· = sep)).rtakeWhile (· = sep), ?_, ?_, ?_⟩
  · intro c hc
    exact of_decide_eq_true (List.mem_takeWhile_imp (p := (· = sep)) hc)
  · intro c hc
    exact of_decide_eq_true (List.mem_rtakeWhile_imp (p := (· = sep)) hc)
  · rw [List.append_assoc, stripOf, rstripBy, List.rdropWhile_append_rtakeWhile,
      List.takeWhile_append_dropWhile]

/-- What neither begins nor ends with the separator is what is left between separators. -/
theorem stripOf_append {sep : Char} {front t back : Text} (hfront : ∀ c ∈ front, c = sep)
    (hback : ∀ c ∈ back, c = sep) (hhead : t.head? ≠ some sep) (hlast : t.getLast? ≠ some sep)
    (hne : t ≠ []) : stripOf sep (front ++ t ++ back) = t := by
  have hleft : (front ++ (t ++ back)).dropWhile (· = sep) = t ++ back := by
    obtain ⟨c, t, rfl⟩ := List.exists_cons_of_ne_nil hne
    have hc : c ≠ sep := fun heq => hhead (congrArg some heq)
    rw [List.dropWhile_append_of_pos fun d hd => decide_eq_true (hfront d hd), List.cons_append,
      List.dropWhile_cons_of_neg (by simpa using hc)]
  have hright : (t ++ back).rdropWhile (· = sep) = t.rdropWhile (· = sep) := by
    rw [List.rdropWhile, List.rdropWhile, List.reverse_append, List.dropWhile_append_of_pos]
    exact fun d hd => decide_eq_true (hback d (List.mem_reverse.1 hd))
  rw [stripOf, rstripBy, List.append_assoc, hleft, hright, List.rdropWhile_eq_self_iff]
  intro hnil hsep
  refine hlast ?_
  rw [List.getLast?_eq_some_getLast hnil, of_decide_eq_true hsep]

/-- A path of segments begins with the first character of one. -/
theorem head?_intercalate_ne {sep : Char} {parts : List Text} (hne : ∀ part ∈ parts, part ≠ [])
    (hfree : ∀ part ∈ parts, sep ∉ part) : ([sep].intercalate parts).head? ≠ some sep := by
  cases parts with
  | nil => exact fun h => by cases h
  | cons part parts =>
    obtain ⟨c, part, rfl⟩ := List.exists_cons_of_ne_nil (hne part List.mem_cons_self)
    have hc : c ≠ sep := fun heq => hfree _ List.mem_cons_self (heq ▸ List.mem_cons_self)
    cases parts with
    | nil =>
      rw [List.intercalate_singleton, List.head?_cons]
      exact fun h => hc (Option.some.inj h)
    | cons next parts =>
      rw [List.intercalate_cons_cons]
      exact fun h => hc (Option.some.inj h)

theorem intercalate_ne_nil {sep : Char} {parts : List Text} (hparts : parts ≠ [])
    (hne : ∀ part ∈ parts, part ≠ []) : [sep].intercalate parts ≠ [] := by
  obtain ⟨part, parts, rfl⟩ := List.exists_cons_of_ne_nil hparts
  have hpart := hne part List.mem_cons_self
  cases parts with
  | nil => rwa [List.intercalate_singleton]
  | cons next parts =>
    rw [List.intercalate_cons_cons]
    simp [hpart]

/-- A path of segments ends with the last character of one. -/
theorem getLast?_intercalate_ne {sep : Char} {parts : List Text} (hne : ∀ part ∈ parts, part ≠ [])
    (hfree : ∀ part ∈ parts, sep ∉ part) : ([sep].intercalate parts).getLast? ≠ some sep := by
  induction parts with
  | nil => exact fun h => by cases h
  | cons part parts ih =>
    cases parts with
    | nil =>
      rw [List.intercalate_singleton]
      exact fun h => hfree part List.mem_cons_self (List.mem_of_getLast? h)
    | cons next parts =>
      have hrest : [sep].intercalate (next :: parts) ≠ [] :=
        intercalate_ne_nil (List.cons_ne_nil next parts) fun p hp =>
          hne p (List.mem_cons_of_mem part hp)
      rw [List.intercalate_cons_cons, List.getLast?_append, List.getLast?_eq_some_getLast hrest,
        Option.some_or, ← List.getLast?_eq_some_getLast hrest]
      exact ih (fun p hp => hne p (List.mem_cons_of_mem part hp))
        fun p hp => hfree p (List.mem_cons_of_mem part hp)

/-- **What the segments of a path say of it**, where none of them is empty. -/
theorem split_stripOf_eq_iff {sep : Char} {t : Text} {parts : List Text} (hparts : parts ≠ [])
    (hne : ∀ part ∈ parts, part ≠ []) :
    (stripOf sep t).split sep = parts ↔ (∀ part ∈ parts, sep ∉ part) ∧
      ∃ front back, (∀ c ∈ front, c = sep) ∧ (∀ c ∈ back, c = sep) ∧
        t = front ++ [sep].intercalate parts ++ back := by
  rw [split_eq_iff hparts]
  constructor
  · rintro ⟨hfree, hstrip⟩
    obtain ⟨front, back, hfront, hback, ht⟩ := stripOf_spec sep t
    rw [hstrip] at ht
    exact ⟨hfree, front, back, hfront, hback, ht⟩
  · rintro ⟨hfree, front, back, hfront, hback, rfl⟩
    exact ⟨hfree, stripOf_append hfront hback (head?_intercalate_ne hne hfree)
      (getLast?_intercalate_ne hne hfree) (intercalate_ne_nil hparts hne)⟩

end Text
