import PromoBot.Lib.Cut

/-!
# Replacing spans of a text

`Text.spliceSpans` replaces several spans of a text at once, each by a text of its own; what
stands between the spans is kept.  `Regex.sub_eq_spliceSpans` says that rewriting the matches
of a pattern is such a replacement, also where only the beginning of a match is rewritten.
-/

namespace Text

/-- Replace the spans, from the first place on which is not cut off yet. -/
def spliceSpans (place : Nat) (t : Text) : List (Nat × Nat × Text) → Text
  | [] => t
  | (start, stop, new) :: spans =>
    t.take (start - place) ++ new ++ spliceSpans stop (t.drop (stop - place)) spans

variable {place : Nat} {t : Text} {spans : List (Nat × Nat × Text)}

/-- What stands before all spans is kept. -/
theorem spliceSpans_append (kept : Text)
    (hstarts : ∀ e ∈ spans, place + kept.length ≤ e.1 ∧ e.1 ≤ e.2.1) :
    spliceSpans place (kept ++ t) spans =
      kept ++ spliceSpans (place + kept.length) t spans := by
  cases spans with
  | nil => rfl
  | cons e spans =>
    obtain ⟨start, stop, new⟩ := e
    obtain ⟨hstart, hstop⟩ := hstarts _ List.mem_cons_self
    dsimp only at hstart hstop
    have htake : (kept ++ t).take (start - place) =
        kept ++ t.take (start - (place + kept.length)) := by
      rw [List.take_append, List.take_of_length_le (by omega)]
      congr 2
      omega
    have hdrop : (kept ++ t).drop (stop - place) = t.drop (stop - (place + kept.length)) := by
      rw [List.drop_append, List.drop_of_length_le (by omega), List.nil_append]
      congr 1
      omega
    rw [spliceSpans, spliceSpans, htake, hdrop, List.append_assoc, List.append_assoc,
      List.append_assoc]

theorem spliceSpans_cons (old new : Text) :
    spliceSpans place (old ++ t) ((place, place + old.length, new) :: spans) =
      new ++ spliceSpans (place + old.length) t spans := by
  rw [spliceSpans, Nat.sub_self, List.take_zero, List.nil_append, Nat.add_sub_cancel_left,
    List.drop_left]

end Text

namespace Regex

open Text

variable {ps : List Piece} {place : Nat}

theorem le_of_mem_startsFrom {e : Nat × Text} (h : e ∈ startsFrom place ps) : place ≤ e.1 := by
  induction ps generalizing place with
  | nil => cases h
  | cons p ps ih =>
    cases p with
    | gap c => exact (Nat.le_succ place).trans (ih h)
    | found raw =>
      rcases List.mem_cons.1 h with rfl | h
      · exact Nat.le_refl place
      · exact (Nat.le_add_right place raw.length).trans (ih h)

/-- The span a match is replaced at: its beginning, as long as `kept` says. -/
def spanOf (length : Text → Nat) (new : Text → Text) (m : Nat × Text) : Nat × Nat × Text :=
  (m.1, m.1 + length m.2, new m.2)

theorem flatMap_map_eq_spliceSpans {length : Text → Nat} {new : Text → Text}
    (hlength : ∀ raw, length raw ≤ raw.length) (ps : List Piece) (place : Nat) :
    (ps.map (Piece.map fun raw => new raw ++ raw.drop (length raw))).flatMap Piece.text =
      spliceSpans place (ps.flatMap Piece.text)
        ((startsFrom place ps).map (spanOf length new)) := by
  have hspans : ∀ (place : Nat) (ps : List Piece),
      ∀ e ∈ (startsFrom place ps).map (spanOf length new), place ≤ e.1 ∧ e.1 ≤ e.2.1 := by
    intro place ps e he
    obtain ⟨m, hm, rfl⟩ := List.mem_map.1 he
    exact ⟨le_of_mem_startsFrom hm, Nat.le_add_right _ _⟩
  induction ps generalizing place with
  | nil => rfl
  | cons p ps ih =>
    cases p with
    | gap c =>
      rw [List.map_cons, List.flatMap_cons, List.flatMap_cons, ih (place + 1)]
      exact (spliceSpans_append [c] (hspans (place + 1) ps)).symm
    | found raw =>
      obtain ⟨old, tail, hraw, hold, htail⟩ : ∃ old tail, raw = old ++ tail ∧
          length raw = old.length ∧ raw.drop (length raw) = tail :=
        ⟨raw.take (length raw), raw.drop (length raw), (List.take_append_drop _ _).symm,
          (List.length_take_of_le (hlength raw)).symm, rfl⟩
      have hplace : place + raw.length = place + old.length + tail.length := by
        rw [hraw, List.length_append, Nat.add_assoc]
      have hafter : ∀ e ∈ (startsFrom (place + raw.length) ps).map (spanOf length new),
          place + old.length + tail.length ≤ e.1 ∧ e.1 ≤ e.2.1 :=
        hplace ▸ hspans (place + raw.length) ps
      rw [List.map_cons, List.flatMap_cons, List.flatMap_cons, ih (place + raw.length)]
      calc new raw ++ raw.drop (length raw) ++ _
          = new raw ++ (tail ++ spliceSpans (place + old.length + tail.length)
              (ps.flatMap Piece.text)
              ((startsFrom (place + raw.length) ps).map (spanOf length new))) := by
            rw [htail, hplace, List.append_assoc]
        _ = spliceSpans place (old ++ (tail ++ ps.flatMap Piece.text))
              ((place, place + old.length, new raw) ::
                (startsFrom (place + raw.length) ps).map (spanOf length new)) := by
            rw [spliceSpans_cons, spliceSpans_append tail hafter]
        _ = _ := by
            rw [← List.append_assoc, ← hraw, ← hold]
            rfl

/-- **Rewriting the beginnings of all matches replaces their spans.** -/
theorem sub_eq_spliceSpans {length : Text → Nat} (new : Text → Text)
    (hlength : ∀ raw, length raw ≤ raw.length) (r : Regex) (t : Text) :
    r.sub (fun raw => new raw ++ raw.drop (length raw)) t =
      spliceSpans 0 t ((r.findIter t).map (spanOf length new)) := by
  rw [sub_eq, flatMap_map_eq_spliceSpans hlength _ 0, pieces_flatMap_text, findIter]

end Regex
