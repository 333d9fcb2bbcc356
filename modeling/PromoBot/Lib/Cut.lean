import PromoBot.Lib.Regex

/-!
# Cutting a text at the matches of a pattern

`Regex.Cut r t ps` says that scanning `t` for `r` gives the pieces `ps`, one piece
at a time: a character at which no match begins is a gap, and a match is a piece
of its own.  `cut_iff` connects it with `Regex.pieces`, so that a statement about
scanning is proved by induction on the cut, and the scan of a text that was put
together from pieces is found by building its cut.
-/

namespace Regex

variable {r : Regex} {t : Text} {ps : List Piece}

/-- The pattern matches no empty text. -/
def Productive (r : Regex) : Prop := ∀ t, ∀ m ∈ r.allMatches t, m.text ≠ []

/-- The pieces `t` is cut into. -/
inductive Cut (r : Regex) : Text → List Piece → Prop
  | nil : Cut r [] []
  | gap {c : Char} {t : Text} {ps : List Piece} (h : r.match? (c :: t) = none)
      (rest : Cut r t ps) : Cut r (c :: t) (.gap c :: ps)
  | found {m : Match} {ps : List Piece} (h : r.match? (m.text ++ m.rest) = some m)
      (rest : Cut r m.rest ps) : Cut r (m.text ++ m.rest) (.found m.text :: ps)

theorem scan_drop (r : Regex) (n : Nat) (t : Text) : scan r n t = scan r 0 (t.drop n) := by
  induction t generalizing n with
  | nil => rw [List.drop_nil, scan, scan]
  | cons c t ih =>
    cases n with
    | zero => rfl
    | succ n => exact ih n

/-- A scan lists a match, and goes on after it. -/
theorem pieces_of_match {m : Match} (hr : r.Productive) (h : r.match? t = some m) :
    r.pieces t = .found m.text :: r.pieces m.rest := by
  have hmem := match?_eq_some h
  have hne := hr t m hmem
  have happ := text_append_rest hmem
  cases t with
  | nil => exact absurd (List.append_eq_nil_iff.1 happ).1 hne
  | cons c t =>
    obtain ⟨d, text, htext⟩ := List.exists_cons_of_ne_nil hne
    have hrest : t.drop (m.text.length - 1) = m.rest := by
      rw [htext, List.cons_append] at happ
      obtain ⟨-, rfl⟩ := List.cons.inj happ
      simp [htext]
    rw [pieces, scan, h]
    dsimp only
    rw [if_neg hne, scan_drop, hrest]
    rfl

theorem pieces_of_no_match {c : Char} (h : r.match? (c :: t) = none) :
    r.pieces (c :: t) = .gap c :: r.pieces t := by
  rw [pieces, scan, h]
  rfl

theorem cut_pieces (hr : r.Productive) (t : Text) : Cut r t (r.pieces t) := by
  induction hn : t.length using Nat.strong_induction_on generalizing t with
  | _ n ih =>
    cases t with
    | nil => exact .nil
    | cons c t =>
      cases hm : r.match? (c :: t) with
      | none =>
        rw [pieces_of_no_match hm]
        exact .gap hm (ih t.length (by rw [← hn, List.length_cons]; omega) t rfl)
      | some m =>
        have hmem := match?_eq_some hm
        have happ := text_append_rest hmem
        have hlt : m.rest.length < n := by
          have hlen := List.length_pos_of_ne_nil (hr _ m hmem)
          rw [← hn, ← happ, List.length_append]
          omega
        rw [pieces_of_match hr hm]
        rw [← happ] at hm ⊢
        exact .found hm (ih _ hlt m.rest rfl)

/-- **A text has one cut, its pieces.** -/
theorem cut_iff (hr : r.Productive) : Cut r t ps ↔ r.pieces t = ps := by
  constructor
  · intro h
    induction h with
    | nil => rfl
    | gap h _ ih => rw [pieces_of_no_match h, ih]
    | found h _ ih => rw [pieces_of_match hr h, ih]
  · rintro rfl
    exact cut_pieces hr t

/-- What a match becomes. -/
def Piece.map (f : Text → Text) : Piece → Piece
  | .gap c => .gap c
  | .found raw => .found (f raw)

theorem sub_eq (r : Regex) (f : Text → Text) (t : Text) :
    r.sub f t = ((r.pieces t).map (Piece.map f)).flatMap Piece.text := by
  rw [sub, List.flatMap_map]
  congr 1
  funext p
  cases p with
  | gap c => rfl
  | found raw => rfl

/-! ## Literals -/

theorem allMatches_literalIgnoreCase {w a : Text} (b : Text)
    (h : List.Forall₂ (fun c d => sameLetter c d = true) w a) :
    (literalIgnoreCase w).allMatches (a ++ b) = [⟨a, b, []⟩] := by
  induction h with
  | nil => rfl
  | @cons c d w a hd h ih =>
    have hseq : (literalIgnoreCase (c :: w)).allMatches (d :: a ++ b) =
        ((one (sameLetter c)).allMatches (d :: (a ++ b))).flatMap fun m =>
          ((literalIgnoreCase w).allMatches m.rest).map fun n =>
            ⟨m.text ++ n.text, n.rest, m.groups ++ n.groups⟩ := rfl
    rw [hseq, allMatches_one_cons, if_pos hd, List.flatMap_singleton, ih]
    rfl

/-- The preferred run is the longest. -/
theorem match?_many {p : Char → Bool} {least : Nat} (h : least ≤ (t.takeWhile p).length) :
    (many p least).match? t = some ⟨t.takeWhile p, t.dropWhile p, []⟩ := by
  have hhead : ∃ l, runs p t = (t.takeWhile p, t.dropWhile p) :: l := by
    clear h
    induction t with
    | nil => exact ⟨[], rfl⟩
    | cons c t ih =>
      obtain ⟨l, hl⟩ := ih
      rw [runs_cons]
      by_cases hc : p c = true
      · rw [if_pos hc, hl, List.takeWhile_cons_of_pos hc, List.dropWhile_cons_of_pos hc]
        exact ⟨_, rfl⟩
      · rw [if_neg hc, List.takeWhile_cons_of_neg hc, List.dropWhile_cons_of_neg hc]
        exact ⟨[], rfl⟩
  obtain ⟨l, hl⟩ := hhead
  rw [match?, allMatches_many, hl, List.filter_cons, if_pos (by simpa using h)]
  rfl

end Regex
