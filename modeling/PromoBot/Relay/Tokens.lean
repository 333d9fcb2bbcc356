import PromoBot.Lib.Cut
import PromoBot.Relay.Parser

/-!
# The addresses of a text, and what stands between them

`urlPattern` is a head --- `http://` or `https://`, in any case --- and a run of
characters an address may have, as long as it goes on.  So whether a match begins at
a character depends on the next few characters only, and a text in which every match
is exchanged for another one of the pattern is cut at the same places:
`pieces_rebuilt`.

`spans` is the text as its readers see it: the trimmed addresses, and the characters
outside of them.
-/

namespace PromoBot
namespace Parser

open Regex

/-! ## Where a match begins -/

/-- The first characters of a text are of these classes. -/
def fits : List (Char → Bool) → Text → Bool
  | [], _ => true
  | _ :: _, [] => false
  | p :: ps, c :: t => p c && fits ps t

/-- The spellings of the head, without and with its optional letter. -/
def heads : List Text := ["http://".toList, "https://".toList]

/-- An address begins here: a head, and at least one more character. -/
def Begins (t : Text) : Prop := ∃ w ∈ heads, fits (w.map sameLetter ++ [isUrlChar]) t = true

/-- `a` is a head, in some case. -/
def IsHead (a : Text) : Prop :=
  ∃ w ∈ heads, List.Forall₂ (fun c d => sameLetter c d = true) w a

variable {t t' : Text} {m : Match}

theorem fits_append_singleton {w : Text} {p : Char → Bool} :
    fits (w.map sameLetter ++ [p]) t = true ↔
      ∃ a c b, t = a ++ c :: b ∧ List.Forall₂ (fun c d => sameLetter c d = true) w a ∧
        p c = true := by
  induction w generalizing t with
  | nil =>
    cases t with
    | nil => simp [fits]
    | cons c t =>
      constructor
      · intro h
        exact ⟨[], c, t, rfl, .nil, by simpa [fits] using h⟩
      · rintro ⟨a, c', b, htext, ha, hc⟩
        cases ha
        obtain ⟨rfl, -⟩ := List.cons.inj htext
        simpa [fits] using hc
  | cons d w ih =>
    cases t with
    | nil => simp [fits]
    | cons c t =>
      rw [List.map_cons, List.cons_append, fits, Bool.and_eq_true, ih]
      constructor
      · rintro ⟨hd, a, c', b, rfl, ha, hc⟩
        exact ⟨c :: a, c', b, rfl, .cons hd ha, hc⟩
      · rintro ⟨a, c', b, htext, ha, hc⟩
        cases ha with
        | cons hd ha =>
          obtain ⟨rfl, rfl⟩ := List.cons.inj htext
          exact ⟨hd, _, c', b, rfl, ha, hc⟩

theorem begins_iff : Begins t ↔
    ∃ a b, IsHead a ∧ t = a ++ b ∧ b.takeWhile isUrlChar ≠ [] := by
  constructor
  · rintro ⟨w, hw, h⟩
    obtain ⟨a, c, b, rfl, ha, hc⟩ := fits_append_singleton.1 h
    exact ⟨a, c :: b, ⟨w, hw, ha⟩, rfl, by simp [hc]⟩
  · rintro ⟨a, b, ⟨w, hw, ha⟩, rfl, hb⟩
    cases b with
    | nil => exact absurd rfl hb
    | cons c b =>
      refine ⟨w, hw, fits_append_singleton.2 ⟨a, c, b, rfl, ha, ?_⟩⟩
      by_contra hc
      exact hb (List.takeWhile_cons_of_neg hc)

/-! ## What a match is -/

/-- The pattern after its first letters. -/
def afterLetters : Regex := .seq (.literalIgnoreCase "://".toList) (.many isUrlChar 1)

theorem match?_seq {r s : Regex} {k n : Match} (hr : r.allMatches t = [k])
    (hs : s.match? k.rest = some n) :
    (Regex.seq r s).match? t = some ⟨k.text ++ n.text, n.rest, k.groups ++ n.groups⟩ := by
  rw [match?, allMatches_seq, hr, List.flatMap_singleton, List.head?_map]
  rw [match?] at hs
  rw [hs]
  rfl

theorem match?_afterLetters {a b : Text}
    (ha : List.Forall₂ (fun c d => sameLetter c d = true) "://".toList a)
    (hb : b.takeWhile isUrlChar ≠ []) :
    afterLetters.match? (a ++ b) = some ⟨a ++ b.takeWhile isUrlChar, b.dropWhile isUrlChar, []⟩ :=
  match?_seq (allMatches_literalIgnoreCase b ha)
    (match?_many (List.length_pos_of_ne_nil hb))

/-- A letter that continues the head is no colon. -/
theorem sameLetter_colon {c d : Char} (h : sameLetter 's' d = true) (h' : c = ':') :
    sameLetter c d = false := by
  subst h'
  unfold sameLetter at h ⊢
  have hs : 's'.toLower = 's' := by decide
  have hcolon : ':'.toLower = ':' := by decide
  rw [hs] at h
  rw [hcolon]
  by_cases hd : d.toLower = 's'
  · have hne : d ≠ '\u0130' ∧ d ≠ '\u0131' ∧ d ≠ '\u212A' ∧ d ≠ '\u017F' := by
      refine ⟨?_, ?_, ?_, ?_⟩ <;> (rintro rfl; revert hd; decide)
    simp [hd]
  · have hlong : d = '\u017F' := by simpa [hd, Ne.symm hd] using h
    subst hlong
    decide

theorem not_fits_colon {d : Char} {t : Text} (h : sameLetter 's' d = true) :
    afterLetters.allMatches (d :: t) = [] := by
  have hnone : (one (sameLetter ':')).allMatches (d :: t) = [] := by
    rw [allMatches_one_cons, sameLetter_colon h rfl]
    rfl
  have hlit : (literalIgnoreCase "://".toList).allMatches (d :: t) = [] := by
    show ((one (sameLetter ':')).allMatches (d :: t)).flatMap _ = []
    rw [hnone]
    rfl
  rw [afterLetters, allMatches_seq, hlit]
  rfl

theorem forall₂_append_left {w₁ w₂ a : Text}
    (h : List.Forall₂ (fun c d => sameLetter c d = true) (w₁ ++ w₂) a) :
    ∃ a₁ a₂, a = a₁ ++ a₂ ∧ List.Forall₂ (fun c d => sameLetter c d = true) w₁ a₁ ∧
      List.Forall₂ (fun c d => sameLetter c d = true) w₂ a₂ :=
  ⟨a.take w₁.length, a.drop w₁.length, (List.take_append_drop _ _).symm,
    (List.forall₂_take_append _ _ _ h.flip).flip, (List.forall₂_drop_append _ _ _ h.flip).flip⟩

/-- Without its optional letter, the head goes on with the colon. -/
theorem match?_plain {a b : Text}
    (ha : List.Forall₂ (fun c d => sameLetter c d = true) "://".toList a)
    (hb : b.takeWhile isUrlChar ≠ []) :
    (Regex.seq (.optional (.one (sameLetter 's'))) afterLetters).match? (a ++ b) =
      some ⟨a ++ b.takeWhile isUrlChar, b.dropWhile isUrlChar, []⟩ := by
  have hcolon : List.Forall₂ (fun c d => sameLetter c d = true) (':' :: "//".toList) a := ha
  have hnone : (one (sameLetter 's')).allMatches (a ++ b) = [] := by
    cases hcolon with
    | @cons _ d _ rest hd _ =>
      have hne : sameLetter 's' d = false := by
        by_contra hs
        rw [Bool.not_eq_false] at hs
        rw [sameLetter_colon hs rfl] at hd
        cases hd
      rw [List.cons_append, allMatches_one_cons, hne]
      rfl
  have hopt : (Regex.optional (.one (sameLetter 's'))).allMatches (a ++ b) =
      [⟨[], a ++ b, []⟩] := by
    rw [Regex.optional, allMatches_either, hnone]
    rfl
  exact match?_seq hopt (match?_afterLetters ha hb)

/-- With its optional letter, the head goes on after it; leaving the letter out leads
nowhere. -/
theorem match?_secure {d : Char} {a b : Text} (hd : sameLetter 's' d = true)
    (ha : List.Forall₂ (fun c d => sameLetter c d = true) "://".toList a)
    (hb : b.takeWhile isUrlChar ≠ []) :
    (Regex.seq (.optional (.one (sameLetter 's'))) afterLetters).match? (d :: (a ++ b)) =
      some ⟨d :: (a ++ b.takeWhile isUrlChar), b.dropWhile isUrlChar, []⟩ := by
  have hboth : (Regex.optional (.one (sameLetter 's'))).allMatches (d :: (a ++ b)) =
      [⟨[d], a ++ b, []⟩, ⟨[], d :: (a ++ b), []⟩] := by
    have hone : (one (sameLetter 's')).allMatches (d :: (a ++ b)) = [⟨[d], a ++ b, []⟩] := by
      rw [allMatches_one_cons, if_pos hd]
    rw [Regex.optional, allMatches_either, hone]
    rfl
  have hmatch := match?_afterLetters ha hb
  rw [match?] at hmatch ⊢
  rw [allMatches_seq, hboth, List.flatMap_cons, List.flatMap_singleton, not_fits_colon hd,
    List.map_nil, List.append_nil, List.head?_map, hmatch]
  rfl

/-- **The preferred match at a head goes on to the end of the run.** -/
theorem match?_urlPattern {a b : Text} (ha : IsHead a) (hb : b.takeWhile isUrlChar ≠ []) :
    urlPattern.match? (a ++ b) =
      some ⟨a ++ b.takeWhile isUrlChar, b.dropWhile isUrlChar, []⟩ := by
  obtain ⟨w, hw, ha⟩ := ha
  have hw' : w = "http".toList ++ "://".toList ∨ w = "http".toList ++ 's' :: "://".toList := by
    simpa [heads] using hw
  rcases hw' with rfl | rfl
  · obtain ⟨letters, rest, rfl, hletters, hrest⟩ := forall₂_append_left ha
    rw [List.append_assoc, List.append_assoc]
    exact match?_seq (allMatches_literalIgnoreCase (rest ++ b) hletters) (match?_plain hrest hb)
  · obtain ⟨letters, tail, rfl, hletters, htail⟩ := forall₂_append_left ha
    cases htail with
    | @cons _ d _ rest hd hrest =>
      rw [List.append_assoc, List.append_assoc]
      exact match?_seq (allMatches_literalIgnoreCase (d :: (rest ++ b)) hletters)
        (match?_secure hd hrest hb)

/-- A match is a head and a run of at least one character. -/
theorem begins_of_match (h : m ∈ urlPattern.allMatches t) :
    ∃ a b, IsHead a ∧ m.text = a ++ b ∧ b ≠ [] ∧ (∀ c ∈ b, isUrlChar c = true) ∧
      t = a ++ b ++ m.rest := by
  have happ := text_append_rest h
  obtain ⟨k, hk, n, hn, rfl⟩ := mem_allMatches_seq.1 h
  obtain ⟨k', hk', n', hn', rfl⟩ := mem_allMatches_seq.1 hn
  obtain ⟨k'', hk'', n'', hn'', rfl⟩ := mem_allMatches_seq.1 hn'
  obtain ⟨letters, _, -, hletters, rfl⟩ := mem_allMatches_literalIgnoreCase.1 hk
  obtain ⟨colon, _, -, hcolon, rfl⟩ := mem_allMatches_literalIgnoreCase.1 hk''
  obtain ⟨-, hrun, hlen, -⟩ := mem_allMatches_many.1 hn''
  have hne : n''.text ≠ [] := List.ne_nil_of_length_pos hlen
  refine ⟨letters ++ (k'.text ++ colon), n''.text, ?_, by simp, hne, hrun, ?_⟩
  · rcases mem_allMatches_either.1 hk' with hs | hs
    · obtain ⟨d, t', -, hd, rfl⟩ := mem_allMatches_one.1 hs
      exact ⟨"https://".toList, by simp [heads],
        List.rel_append hletters (List.Forall₂.cons hd hcolon)⟩
    · rw [mem_allMatches_nothing.1 hs]
      exact ⟨"http://".toList, by simp [heads], List.rel_append hletters hcolon⟩
  · rw [← happ]
    simp

theorem match?_eq_none_iff : urlPattern.match? t = none ↔ ¬ Begins t := by
  rw [begins_iff]
  constructor
  · rintro h ⟨a, b, ha, rfl, hb⟩
    rw [match?_urlPattern ha hb] at h
    cases h
  · intro h
    cases hm : urlPattern.match? t with
    | none => rfl
    | some m =>
      obtain ⟨a, b, ha, -, hb, hrun, rfl⟩ := begins_of_match (match?_eq_some hm)
      refine absurd ⟨a, b ++ m.rest, ha, List.append_assoc _ _ _, ?_⟩ h
      rw [List.takeWhile_append_of_pos hrun]
      exact fun hnil => hb (List.append_eq_nil_iff.1 hnil).1

theorem productive_urlPattern : urlPattern.Productive := by
  intro t m hm hnil
  obtain ⟨a, b, -, htext, hb, -⟩ := begins_of_match hm
  rw [hnil] at htext
  exact hb (List.append_eq_nil_iff.1 htext.symm).2

/-! ## Rebuilding a text -/

/-- The text is, as a whole, one match of the pattern. -/
def IsAddress (raw : Text) : Prop := urlPattern.fullMatches raw = true

instance (raw : Text) : Decidable (IsAddress raw) := inferInstanceAs (Decidable (_ = true))

theorem isAddress_iff {raw : Text} : IsAddress raw ↔
    ∃ a b, IsHead a ∧ raw = a ++ b ∧ b ≠ [] ∧ ∀ c ∈ b, isUrlChar c = true := by
  rw [IsAddress, fullMatches, List.any_eq_true]
  constructor
  · rintro ⟨m, hm, hrest⟩
    obtain ⟨a, b, ha, -, hb, hrun, rfl⟩ := begins_of_match hm
    exact ⟨a, b, ha, by rw [List.isEmpty_iff.1 hrest, List.append_nil], hb, hrun⟩
  · rintro ⟨a, b, ha, rfl, hb, hrun⟩
    have htake : b.takeWhile isUrlChar = b := List.takeWhile_eq_self_iff.2 hrun
    have hdrop : b.dropWhile isUrlChar = [] := List.dropWhile_eq_nil_iff.2 hrun
    have hmatch := match?_urlPattern (a := a) (b := b) ha (by rwa [htake])
    exact ⟨_, match?_eq_some hmatch, by rw [hdrop]; rfl⟩

/-- The characters a head begins with. -/
theorem eq_h_of_sameLetter {c : Char} (h : sameLetter 'h' c = true) : c = 'h' ∨ c = 'H' := by
  have hlower : c.toLower = 'h' := by
    have hh : 'h'.toLower = 'h' := by decide
    simpa [sameLetter, hh, eq_comm] using h
  rcases Text.toLower_cases c with hc | ⟨-, -, hc⟩
  · exact Or.inl (hc ▸ hlower)
  · right
    have h72 : c.toNat = 'H'.toNat := by
      rw [hlower] at hc
      have hh : 'h'.toNat = 104 := rfl
      have hH : 'H'.toNat = 72 := rfl
      omega
    exact Char.toNat_inj.1 h72

theorem eq_of_sameLetter {x c : Char} (hx : x ∈ ":/".toList) (h : sameLetter x c = true) :
    c = x := by
  have hmarks : ∀ y ∈ ":/".toList,
      y.toLower = y ∧ y ≠ 'i' ∧ y ≠ 'k' ∧ y ≠ 's' ∧ y.toNat < 97 := by decide
  obtain ⟨hx', hi, hk, hs, hlt⟩ := hmarks x hx
  have hc : c.toLower = x := by simpa [sameLetter, hx', hi, hk, hs, eq_comm] using h
  rcases Text.toLower_cases c with hc' | ⟨-, hge, hc'⟩
  · exact hc' ▸ hc
  · rw [hc] at hc'
    omega

/-- Two texts are alike when they agree up to a place where an address begins in both. -/
inductive Alike : Text → Text → Prop
  | nil : Alike [] []
  | same {t t' : Text} (c : Char) (h : Alike t t') : Alike (c :: t) (c :: t')
  | head {c d : Char} (t t' : Text) (hc : sameLetter 'h' c = true)
      (hd : sameLetter 'h' d = true) : Alike (c :: t) (d :: t')

/-- Texts which are alike fit the same classes, when an address can only begin at the
last of them. -/
theorem Alike.fits {w : Text} (h : Alike t t') (hw : ∀ x ∈ w, x ∈ "tps:/".toList)
    (hf : fits (w.map sameLetter ++ [isUrlChar]) t' = true) :
    fits (w.map sameLetter ++ [isUrlChar]) t = true := by
  induction h generalizing w with
  | nil => exact hf
  | same c h ih =>
    cases w with
    | nil => simpa [Parser.fits] using hf
    | cons x w =>
      rw [List.map_cons, List.cons_append, Parser.fits, Bool.and_eq_true] at hf ⊢
      exact ⟨hf.1, ih (fun y hy => hw y (List.mem_cons_of_mem x hy)) hf.2⟩
  | @head c d t t' hc hd =>
    cases w with
    | nil =>
      have hurl : isUrlChar c = true := by
        rcases eq_h_of_sameLetter hc with rfl | rfl <;> decide
      simp [Parser.fits, hurl]
    | cons x w =>
      have hnone : ∀ y ∈ "tps:/".toList, sameLetter y 'h' = false ∧ sameLetter y 'H' = false := by
        decide
      have hx := hnone x (hw x List.mem_cons_self)
      rw [List.map_cons, List.cons_append, Parser.fits, Bool.and_eq_true] at hf
      rcases eq_h_of_sameLetter hd with rfl | rfl
      · rw [hx.1] at hf
        cases hf.1
      · rw [hx.2] at hf
        cases hf.1

theorem Alike.begins {c : Char} (h : Alike t t') (hb : Begins (c :: t')) : Begins (c :: t) := by
  obtain ⟨w, hw, hf⟩ := hb
  refine ⟨w, hw, ?_⟩
  have hw' : ∃ w', w = 'h' :: w' ∧ ∀ x ∈ w', x ∈ "tps:/".toList := by
    have hboth : w = 'h' :: "ttp://".toList ∨ w = 'h' :: "ttps://".toList := by
      simpa [heads] using hw
    rcases hboth with rfl | rfl
    · exact ⟨_, rfl, by decide⟩
    · exact ⟨_, rfl, by decide⟩
  obtain ⟨w', rfl, hletters⟩ := hw'
  rw [List.map_cons, List.cons_append, Parser.fits, Bool.and_eq_true] at hf ⊢
  exact ⟨hf.1, h.fits hletters hf.2⟩

/-- Texts which are alike go on with an address character together. -/
theorem Alike.takeWhile_eq_nil (h : Alike t t') (ht : t.takeWhile isUrlChar = []) :
    t'.takeWhile isUrlChar = [] := by
  cases h with
  | nil => rfl
  | same c h =>
    by_cases hc : isUrlChar c = true
    · rw [List.takeWhile_cons_of_pos hc] at ht
      cases ht
    · exact List.takeWhile_cons_of_neg hc
  | @head c d t t' hc hd =>
    have hurl : isUrlChar c = true := by
      rcases eq_h_of_sameLetter hc with rfl | rfl <;> decide
    rw [List.takeWhile_cons_of_pos hurl] at ht
    cases ht

theorem exists_head_cons {raw : Text} (h : IsAddress raw) :
    ∃ c rest, raw = c :: rest ∧ sameLetter 'h' c = true := by
  obtain ⟨a, b, ⟨w, hw, ha⟩, rfl, -⟩ := isAddress_iff.1 h
  have hboth : w = 'h' :: "ttp://".toList ∨ w = 'h' :: "ttps://".toList := by
    simpa [heads] using hw
  rcases hboth with rfl | rfl
  · obtain ⟨c, rest, hc, -, rfl⟩ := List.forall₂_cons_left_iff.1 ha
    exact ⟨c, rest ++ b, rfl, hc⟩
  · obtain ⟨c, rest, hc, -, rfl⟩ := List.forall₂_cons_left_iff.1 ha
    exact ⟨c, rest ++ b, rfl, hc⟩

/-- A match of a scan is an address, and the text does not go on with it. -/
theorem isAddress_of_match (h : urlPattern.match? t = some m) :
    IsAddress m.text ∧ m.rest.takeWhile isUrlChar = [] := by
  obtain ⟨a, b, ha, htext, hb, hrun, rfl⟩ := begins_of_match (match?_eq_some h)
  have htake : (b ++ m.rest).takeWhile isUrlChar = b ++ m.rest.takeWhile isUrlChar :=
    List.takeWhile_append_of_pos hrun
  have hbest := match?_urlPattern (b := b ++ m.rest) ha (by
    rw [htake]
    exact fun hnil => hb (List.append_eq_nil_iff.1 hnil).1)
  rw [List.append_assoc, hbest, Option.some.injEq] at h
  have hend : (b ++ m.rest).dropWhile isUrlChar = m.rest := congrArg Match.rest h
  refine ⟨isAddress_iff.2 ⟨a, b, ha, htext, hb, hrun⟩, ?_⟩
  rw [← hend]
  cases hd : (b ++ m.rest).dropWhile isUrlChar with
  | nil => rfl
  | cons c l =>
    have hc := List.head?_dropWhile_not isUrlChar (b ++ m.rest)
    rw [hd] at hc
    exact List.takeWhile_cons_of_neg (by simpa using hc)

theorem match?_of_isAddress {raw rest : Text} (h : IsAddress raw)
    (hrest : rest.takeWhile isUrlChar = []) :
    urlPattern.match? (raw ++ rest) = some ⟨raw, rest, []⟩ := by
  obtain ⟨a, b, ha, rfl, hb, hrun⟩ := isAddress_iff.1 h
  have htake : (b ++ rest).takeWhile isUrlChar = b := by
    rw [List.takeWhile_append_of_pos hrun, hrest, List.append_nil]
  have hdrop : (b ++ rest).dropWhile isUrlChar = rest := by
    have happ := List.takeWhile_append_dropWhile (p := isUrlChar) (l := b ++ rest)
    rw [htake] at happ
    exact List.append_cancel_left happ
  have hbest := match?_urlPattern (b := b ++ rest) ha (by rwa [htake])
  rw [List.append_assoc, hbest, htake, hdrop]

theorem cut_rebuilt {f : Text → Text} {ps : List Piece} (h : Cut urlPattern t ps)
    (hf : ∀ raw ∈ foundIn ps, IsAddress (f raw)) :
    Cut urlPattern ((ps.map (Piece.map f)).flatMap Piece.text) (ps.map (Piece.map f)) ∧
      Alike t ((ps.map (Piece.map f)).flatMap Piece.text) := by
  induction h with
  | nil => exact ⟨.nil, .nil⟩
  | @gap c t ps h _ ih =>
    obtain ⟨hcut, halike⟩ := ih hf
    refine ⟨.gap ?_ hcut, .same c halike⟩
    rw [match?_eq_none_iff] at h ⊢
    exact fun hb => h (halike.begins hb)
  | @found m ps h _ ih =>
    obtain ⟨hcut, halike⟩ := ih fun raw hraw => hf raw (List.mem_cons_of_mem _ hraw)
    obtain ⟨hraw, hend⟩ := isAddress_of_match h
    have hnew := hf m.text List.mem_cons_self
    refine ⟨Cut.found (m := ⟨f m.text, _, []⟩)
      (match?_of_isAddress hnew (halike.takeWhile_eq_nil hend)) hcut, ?_⟩
    obtain ⟨c, text, htext, hc⟩ := exists_head_cons hraw
    obtain ⟨d, text', htext', hd⟩ := exists_head_cons hnew
    rw [List.map_cons, List.flatMap_cons, Piece.map, Piece.text, htext', htext]
    exact .head _ _ hc hd

/-- **A text whose matches are exchanged for addresses is cut at the same places.** -/
theorem pieces_rebuilt {f : Text → Text} (hf : ∀ raw ∈ foundIn (urlPattern.pieces t),
    IsAddress (f raw)) :
    urlPattern.pieces (urlPattern.sub f t) = (urlPattern.pieces t).map (Piece.map f) := by
  rw [sub_eq]
  exact (cut_iff productive_urlPattern).1
    (cut_rebuilt (cut_pieces productive_urlPattern t) hf).1

/-! ## The text as its readers see it -/

/-- A trimmed address, or a character outside of all addresses. -/
inductive Span
  | token (url : Text)
  | outside (c : Char)
  deriving DecidableEq, Repr

def Span.text : Span → Text
  | .token url => url
  | .outside c => [c]

/-- The spans of a piece: what is trimmed from an address stands outside of it. -/
def spansOf : Piece → List Span
  | .gap c => [.outside c]
  | .found raw => .token (trimUrl raw) :: (raw.drop (trimUrl raw).length).map .outside

def spans (text : Text) : List Span := (urlPattern.pieces text).flatMap spansOf

/-- The address a span is. -/
def Span.token? : Span → Option Text
  | .token url => some url
  | .outside _ => none

theorem trimUrl_append (raw : Text) : ∃ tail, raw = trimUrl raw ++ tail ∧
    raw.drop (trimUrl raw).length = tail ∧ ∀ c ∈ tail, c ∈ trailingPunctuation := by
  have hdrop : trimUrl raw ++ raw.drop (trimUrl raw).length = raw :=
    (List.prefix_iff_eq_append.1 (List.rdropWhile_prefix _ raw))
  refine ⟨_, hdrop.symm, rfl, fun c hc => ?_⟩
  have htake : raw.drop (trimUrl raw).length = raw.rtakeWhile (· ∈ trailingPunctuation) :=
    List.append_cancel_left (hdrop.trans List.rdropWhile_append_rtakeWhile.symm)
  rw [htake] at hc
  simpa using List.mem_rtakeWhile_imp hc

theorem trimUrl_append_of_punctuation {url tail : Text}
    (h : ∀ c ∈ tail, c ∈ trailingPunctuation) : trimUrl (url ++ tail) = trimUrl url := by
  induction tail using List.reverseRecOn with
  | nil => rw [List.append_nil]
  | append_singleton tail c ih =>
    have hc : c ∈ trailingPunctuation := h c (by simp)
    rw [← List.append_assoc, trimUrl, Text.rstripBy,
      List.rdropWhile_concat_pos _ _ _ (by simpa using hc)]
    exact ih fun d hd => h d (by simp [hd])

/-- The spans make up the text. -/
theorem spans_text (text : Text) : (spans text).flatMap Span.text = text := by
  have hpiece : ∀ p : Piece, (spansOf p).flatMap Span.text = p.text := by
    intro p
    cases p with
    | gap c => rfl
    | found raw =>
      obtain ⟨tail, htail, hdrop, -⟩ := trimUrl_append raw
      rw [spansOf, hdrop, List.flatMap_cons, List.flatMap_map]
      conv_rhs => rw [Piece.text, htail]
      rw [Span.text]
      congr 1
      exact List.flatMap_singleton' tail
  rw [spans, List.flatMap_assoc]
  simp only [hpiece]
  exact pieces_flatMap_text urlPattern text

/-- The addresses among the spans are the tokens of the text, in their order. -/
theorem tokens_spans (text : Text) : (spans text).filterMap Span.token? = urlTokens text := by
  rw [spans, urlTokens]
  induction urlPattern.pieces text with
  | nil => rfl
  | cons p ps ih =>
    rw [List.flatMap_cons, List.filterMap_append, ih]
    cases p with
    | gap c => rfl
    | found raw =>
      have hnone : ((raw.drop (trimUrl raw).length).map Span.outside).filterMap Span.token? = [] := by
        rw [List.filterMap_eq_nil_iff]
        intro s hs
        obtain ⟨c, -, rfl⟩ := List.mem_map.1 hs
        rfl
      rw [spansOf, List.filterMap_cons, hnone]
      rfl

end Parser
end PromoBot
