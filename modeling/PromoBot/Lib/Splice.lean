import PromoBot.Lib.Cut

/-!
# Replacing one occurrence

A text may be replaced where it first occurs, or between two places.  The two agree when
the places are those of the first occurrence (`replaceFirst_eq_splice`).

For a text with a single match, `exists_around_of_foundIn` says where the match is and
that none begins before it, so whatever makes a match begin does not occur there.
-/

namespace Text

/-! ## Replacing a text and replacing a span -/

/-- `t.replace(old, new, 1)`. -/
def replaceFirst (t old new : Text) : Text :=
  match t with
  | [] => if old = [] then new else []
  | c :: t =>
    if old <+: c :: t then new ++ (c :: t).drop old.length else c :: replaceFirst t old new

/-- `t[:start] + new + t[stop:]`. -/
def splice (t : Text) (start stop : Nat) (new : Text) : Text := t.take start ++ new ++ t.drop stop

theorem splice_append (before old after new : Text) :
    splice (before ++ old ++ after) before.length (before.length + old.length) new =
      before ++ new ++ after := by
  unfold splice
  rw [← List.length_append, List.drop_left, List.append_assoc before old, List.take_left]

/-- Text that begins nowhere before is replaced where it stands. -/
theorem replaceFirst_append {before old : Text} (new after : Text)
    (h : ∀ a c b, before = a ++ c :: b → ¬ old <+: c :: b ++ old ++ after) :
    replaceFirst (before ++ old ++ after) old new = before ++ new ++ after := by
  induction before with
  | nil =>
    rw [List.nil_append, List.nil_append]
    cases hwhole : old ++ after with
    | nil =>
      obtain ⟨rfl, rfl⟩ := List.append_eq_nil_iff.1 hwhole
      rw [replaceFirst, if_pos rfl, List.append_nil]
    | cons c t =>
      have hleading : old <+: c :: t := ⟨after, hwhole⟩
      rw [replaceFirst, if_pos hleading, ← hwhole, List.drop_left]
  | cons c before ih =>
    have hhere : ¬ old <+: c :: (before ++ old ++ after) := h [] c before rfl
    have hlater := ih fun a d b hsplit => h (c :: a) d b (by rw [hsplit]; rfl)
    show replaceFirst (c :: (before ++ old ++ after)) old new = c :: (before ++ new ++ after)
    rw [replaceFirst, if_neg hhere, hlater]

/-- **Replacing the first occurrence replaces its span.** -/
theorem replaceFirst_eq_splice {before old : Text} (new after : Text)
    (h : ∀ a c b, before = a ++ c :: b → ¬ old <+: c :: b ++ old ++ after) :
    replaceFirst (before ++ old ++ after) old new =
      splice (before ++ old ++ after) before.length (before.length + old.length) new := by
  rw [replaceFirst_append new after h, splice_append]

end Text

/-! ## A text with one match -/

namespace Regex

variable {r : Regex} {t raw : Text} {ps : List Piece}

theorem eq_gaps_of_foundIn (h : foundIn ps = []) : ps = (ps.flatMap Piece.text).map .gap := by
  induction ps with
  | nil => rfl
  | cons p ps ih =>
    cases p with
    | gap c =>
      conv_lhs => rw [ih h]
      rfl
    | found raw => cases h

theorem startsFrom_gaps (n : Nat) (after : Text) : startsFrom n (after.map .gap) = [] := by
  induction after generalizing n with
  | nil => rfl
  | cons c after ih => exact ih (n + 1)

theorem startsFrom_around (n : Nat) (before raw after : Text) :
    startsFrom n (before.map .gap ++ .found raw :: after.map .gap) = [(n + before.length, raw)] := by
  induction before generalizing n with
  | nil =>
    show (n, raw) :: startsFrom (n + raw.length) (after.map .gap) = _
    rw [startsFrom_gaps]
    rfl
  | cons c before ih =>
    refine (ih (n + 1)).trans ?_
    rw [List.length_cons]
    congr 2
    omega

/-- **Where the one match of a text is**: no match begins before it. -/
theorem exists_around_of_foundIn (hr : r.Productive) (h : foundIn (r.pieces t) = [raw]) :
    ∃ before after, t = before ++ raw ++ after ∧
      r.pieces t = before.map .gap ++ .found raw :: after.map .gap ∧
      ∀ a c b, before = a ++ c :: b → r.match? (c :: b ++ raw ++ after) = none := by
  have hcut := cut_pieces hr t
  generalize r.pieces t = ps at h hcut
  induction hcut with
  | nil => cases h
  | @gap c t ps hnone _ ih =>
    obtain ⟨before, after, htext, hps, hbefore⟩ := ih h
    refine ⟨c :: before, after, by rw [htext]; rfl, by rw [hps]; rfl, ?_⟩
    intro a d b hsplit
    cases a with
    | nil =>
      obtain ⟨rfl, rfl⟩ := List.cons.inj hsplit
      rw [htext] at hnone
      exact hnone
    | cons d' a => exact hbefore a d b (List.cons.inj hsplit).2
  | @found m ps hmatch hrest _ =>
    obtain ⟨rfl, hnone⟩ := List.cons.inj h
    have hps := eq_gaps_of_foundIn hnone
    have htext : ps.flatMap Piece.text = m.rest := by
      rw [← (cut_iff hr).1 hrest]
      exact pieces_flatMap_text r m.rest
    refine ⟨[], m.rest, rfl, ?_, fun a c b hsplit => by cases a <;> cases hsplit⟩
    rw [hps, htext]
    rfl

theorem sub_around {f : Text → Text} {before after : Text}
    (h : r.pieces t = before.map .gap ++ .found raw :: after.map .gap) :
    r.sub f t = before ++ f raw ++ after := by
  have hgaps : ∀ s : Text, (s.map Piece.gap).flatMap (fun p => (p.map f).text) = s := by
    intro s
    rw [List.flatMap_map]
    exact List.flatMap_singleton' s
  rw [sub_eq, List.flatMap_map, h, List.flatMap_append, List.flatMap_cons, hgaps, hgaps,
    List.append_assoc]
  rfl

end Regex
