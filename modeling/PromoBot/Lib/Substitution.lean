import Mathlib.Data.List.Find
import PromoBot.Lib.Cut

/-!
# Substitution with word boundaries

`re.sub` for patterns which may begin or end with `\b`, and whose replacement may use
the groups.  A boundary depends on the character before, so the scanner carries it
along, and a pattern is used as a `Finder`: a function of the character before a place
and of the text from there on.

## Barriers

A scanner looks ahead, so what it makes of a text may depend on what follows it.  A
character `d` is a *barrier* for a finder (`Finder.Decides`) when, at every place before
a `d`, either the match runs through that `d`, or whatever follows the `d` makes no
difference.  Text before a barrier which no match runs through is rewritten on its own:
that is `replaceFrom_barrier`.  A pattern none of whose classes has the character in it
has it as a barrier (`decides_anywhere`).
-/

namespace Regex

/-! ## Finders -/

/-- A pattern as a scanner uses it: the character before the place, and the text from
the place on. -/
abbrev Finder := Option Char → Text → Option Match

/-- `\b`, of Python's word characters. -/
def atBoundary (word : Char → Bool) (before : Option Char) (t : Text) : Bool :=
  before.any word != t.head?.any word

/-- The pattern alone. -/
def anywhere (r : Regex) : Finder := fun _ t => r.match? t

/-- `\br`. -/
def fromBoundary (r : Regex) (word : Char → Bool) : Finder := fun before t =>
  if atBoundary word before t then r.match? t else none

/-- `\br\b`: the preferred match which ends at a boundary. -/
def betweenBoundaries (r : Regex) (word : Char → Bool) : Finder := fun before t =>
  if atBoundary word before t then
    (r.allMatches t).find? fun m => atBoundary word (m.text.getLast?.or before) m.rest
  else none

/-- At least `least` and at most `most` characters of a class, as many as possible. -/
def between (p : Char → Bool) (least most : Nat) : Regex :=
  ((List.range' least (most + 1 - least)).reverse.map (times p)).foldr either
    (one fun _ => false)

/-! ## Scanning -/

/-- A segment of a scanned text: a character between two matches, or a match with its
groups. -/
inductive Segment
  | kept (c : Char)
  | matched (raw : Text) (groups : List Text)
  deriving DecidableEq, Repr

/-- Scan a text after a character, first skipping what belongs to a match already
listed. -/
def segments (f : Finder) : Option Char → Nat → Text → List Segment
  | _, _, [] => []
  | _, skip + 1, c :: t => segments f (some c) skip t
  | before, 0, c :: t =>
    match f before (c :: t) with
    | some m =>
      if m.text = [] then .kept c :: segments f (some c) 0 t
      else .matched m.text m.groups :: segments f (some c) (m.text.length - 1) t
    | none => .kept c :: segments f (some c) 0 t

/-- What a segment becomes. -/
def Segment.replaced (g : Text → List Text → Text) : Segment → Text
  | .kept c => [c]
  | .matched raw groups => g raw groups

/-- `re.sub` with a function of the match, after a character. -/
def replaceFrom (f : Finder) (g : Text → List Text → Text) (before : Option Char) (t : Text) :
    Text :=
  (segments f before 0 t).flatMap (Segment.replaced g)

/-- `re.sub` with a function of the match. -/
def replace (f : Finder) (g : Text → List Text → Text) (t : Text) : Text :=
  replaceFrom f g none t

/-! ## One step of a scan -/

section Step

variable {f : Finder} {before : Option Char} {c : Char} {t : Text}

theorem segments_skip (n : Nat) :
    segments f before (n + 1) (c :: t) = segments f (some c) n t := rfl

theorem segments_cons :
    segments f before 0 (c :: t) =
      match f before (c :: t) with
      | some m =>
        if m.text = [] then .kept c :: segments f (some c) 0 t
        else .matched m.text m.groups :: segments f (some c) (m.text.length - 1) t
      | none => .kept c :: segments f (some c) 0 t := rfl

theorem segments_none (h : f before (c :: t) = none) :
    segments f before 0 (c :: t) = .kept c :: segments f (some c) 0 t := by
  rw [segments_cons, h]

theorem segments_some {m : Match} (h : f before (c :: t) = some m) (hne : m.text ≠ []) :
    segments f before 0 (c :: t) =
      .matched m.text m.groups :: segments f (some c) (m.text.length - 1) t := by
  rw [segments_cons, h]
  exact if_neg hne

theorem segments_empty {m : Match} (h : f before (c :: t) = some m) (he : m.text = []) :
    segments f before 0 (c :: t) = .kept c :: segments f (some c) 0 t := by
  rw [segments_cons, h]
  exact if_pos he

theorem segments_skip_append (a b : Text) (hne : a ≠ []) (before : Option Char) :
    segments f before a.length (a ++ b) = segments f a.getLast? 0 b := by
  induction a generalizing before with
  | nil => exact absurd rfl hne
  | cons c a ih =>
    rw [List.length_cons, List.cons_append, segments_skip]
    cases a with
    | nil => rfl
    | cons d a =>
      rw [ih (List.cons_ne_nil d a), List.getLast?_cons_cons]

/-- A scan which does not skip everything lists something. -/
theorem segments_ne_nil {skip : Nat} (h : skip < t.length) : segments f before skip t ≠ [] := by
  induction t generalizing before skip with
  | nil => exact absurd h (Nat.not_lt_zero skip)
  | cons c t ih =>
    cases skip with
    | succ n =>
      rw [segments_skip]
      exact ih (Nat.lt_of_succ_lt_succ h)
    | zero =>
      rw [segments_cons]
      split
      · split <;> exact List.cons_ne_nil _ _
      · exact List.cons_ne_nil _ _

/-- A listed match was found at some place of the text. -/
theorem exists_of_matched_mem {skip : Nat} {raw : Text} {groups : List Text}
    (h : Segment.matched raw groups ∈ segments f before skip t) :
    ∃ b u m, f b u = some m ∧ m.text = raw ∧ u <:+ t := by
  induction t generalizing before skip with
  | nil => exact absurd h List.not_mem_nil
  | cons c t ih =>
    cases skip with
    | succ n =>
      rw [segments_skip] at h
      obtain ⟨b, u, m, hm, hraw, hu⟩ := ih h
      exact ⟨b, u, m, hm, hraw, hu.trans (List.suffix_cons c t)⟩
    | zero =>
      have later : ∀ {k : Nat}, Segment.matched raw groups ∈ segments f (some c) k t →
          ∃ b u m, f b u = some m ∧ m.text = raw ∧ u <:+ c :: t := by
        intro k hk
        obtain ⟨b, u, m, hm, hraw, hu⟩ := ih hk
        exact ⟨b, u, m, hm, hraw, hu.trans (List.suffix_cons c t)⟩
      cases hm : f before (c :: t) with
      | none =>
        rw [segments_none hm, List.mem_cons] at h
        rcases h with h | h
        · exact absurd h Segment.noConfusion
        · exact later h
      | some m =>
        by_cases he : m.text = []
        · rw [segments_empty hm he, List.mem_cons] at h
          rcases h with h | h
          · exact absurd h Segment.noConfusion
          · exact later h
        · rw [segments_some hm he, List.mem_cons] at h
          rcases h with h | h
          · obtain ⟨rfl, -⟩ := Segment.matched.inj h
            exact ⟨before, c :: t, m, hm, rfl, List.suffix_refl _⟩
          · exact later h

end Step

/-! ## Barriers -/

/-- The answer of a finder, without the text after the match. -/
def answer (f : Finder) (before : Option Char) (t : Text) : Option (Text × List Text) :=
  (f before t).map fun m => (m.text, m.groups)

/-- Whether the segments of a text end in a match. -/
def EndsInMatch (ss : List Segment) : Prop :=
  ∃ front raw groups, ss = front ++ [.matched raw groups]

def Segment.isMatch : Segment → Bool
  | .kept _ => false
  | .matched _ _ => true

theorem endsInMatch_iff {ss : List Segment} :
    EndsInMatch ss ↔ ss.getLast?.any Segment.isMatch = true := by
  rcases List.eq_nil_or_concat ss with rfl | ⟨front, s, rfl⟩
  · constructor
    · rintro ⟨front, raw, groups, h⟩
      exact absurd h (by simp)
    · exact fun h => absurd h (by decide)
  · rw [List.concat_eq_append, List.getLast?_concat]
    constructor
    · rintro ⟨front', raw, groups, h⟩
      obtain ⟨-, hs⟩ := List.append_inj' h rfl
      rw [(List.cons.inj hs).1]
      rfl
    · intro h
      cases s with
      | kept c => exact absurd h (by simp [Segment.isMatch])
      | matched raw groups => exact ⟨front, raw, groups, rfl⟩

instance (ss : List Segment) : Decidable (EndsInMatch ss) :=
  decidable_of_iff' _ endsInMatch_iff

theorem EndsInMatch.of_cons {s : Segment} {ss : List Segment} (h : EndsInMatch (s :: ss))
    (hne : ss ≠ []) : EndsInMatch ss := by
  obtain ⟨front, raw, groups, heq⟩ := h
  cases front with
  | nil => exact absurd (List.cons.inj heq).2 hne
  | cons s' front => exact ⟨front, raw, groups, (List.cons.inj heq).2⟩

/-- **A barrier**: where a `d` comes, a match runs through it to the end of the text, or
what follows the `d` makes no difference. -/
def Finder.Decides (f : Finder) (d : Char) : Prop :=
  ∀ before t, (∃ m, f before (t ++ [d]) = some m ∧ m.text = t ++ [d]) ∨
    ∃ found, (∀ rest, answer f before (t ++ d :: rest) = found) ∧
      ∀ raw groups, found = some (raw, groups) → raw.length ≤ t.length

theorem segments_answer {f : Finder} {before : Option Char} {c : Char} {t : Text} :
    segments f before 0 (c :: t) =
      match answer f before (c :: t) with
      | some (raw, groups) =>
        if raw = [] then .kept c :: segments f (some c) 0 t
        else .matched raw groups :: segments f (some c) (raw.length - 1) t
      | none => .kept c :: segments f (some c) 0 t := by
  rw [segments_cons, answer]
  cases f before (c :: t) <;> rfl

/-- What a scan lists at a place, and how much it skips then, follow from the answer. -/
theorem segments_of_answer (f : Finder) (before : Option Char) (c : Char)
    (found : Option (Text × List Text)) :
    ∃ s k, (∀ t, answer f before (c :: t) = found →
        segments f before 0 (c :: t) = s :: segments f (some c) k t) ∧
      ∀ n, (∀ raw groups, found = some (raw, groups) → raw.length ≤ n + 1) → k ≤ n := by
  rcases found with - | ⟨raw, groups⟩
  · refine ⟨.kept c, 0, fun t ht => ?_, fun n _ => Nat.zero_le n⟩
    rw [segments_answer, ht]
  · by_cases hraw : raw = []
    · refine ⟨.kept c, 0, fun t ht => ?_, fun n _ => Nat.zero_le n⟩
      rw [segments_answer, ht]
      exact if_pos hraw
    · refine ⟨.matched raw groups, raw.length - 1, fun t ht => ?_, fun n hn => ?_⟩
      · rw [segments_answer, ht]
        exact if_neg hraw
      · have hle := hn raw groups rfl
        omega

/-- Before a barrier which no match runs through, a scan does not depend on what follows. -/
theorem segments_barrier {f : Finder} {d : Char} (hf : f.Decides d) {p : Text}
    {before : Option Char} {skip : Nat} (hskip : skip ≤ p.length)
    (h : ¬ EndsInMatch (segments f before skip (p ++ [d]))) :
    ∃ front, ∀ rest, segments f before skip (p ++ d :: rest) =
      front ++ .kept d :: segments f (some d) 0 rest := by
  induction p generalizing before skip with
  | nil =>
    obtain rfl : skip = 0 := Nat.le_zero.1 hskip
    refine ⟨[], fun rest => ?_⟩
    rcases hf before [] with ⟨m, hm, htext⟩ | ⟨found, hfound, hlength⟩
    · refine absurd ⟨[], m.text, m.groups, ?_⟩ h
      rw [List.nil_append] at hm ⊢
      rw [segments_some hm (by rw [htext]; exact List.cons_ne_nil _ _)]
      rfl
    · rw [List.nil_append, List.nil_append, segments_answer]
      specialize hfound rest
      rw [List.nil_append] at hfound
      rw [hfound]
      rcases found with - | ⟨raw, groups⟩
      · rfl
      · exact if_pos (List.length_eq_zero_iff.1 (Nat.le_zero.1 (hlength raw groups rfl)))
  | cons c p ih =>
    cases skip with
    | succ n =>
      rw [List.cons_append, segments_skip] at h
      obtain ⟨front, hfront⟩ := ih (Nat.le_of_succ_le_succ hskip) h
      refine ⟨front, fun rest => ?_⟩
      rw [List.cons_append, segments_skip, hfront]
    | zero =>
      rcases hf before (c :: p) with ⟨m, hm, htext⟩ | ⟨found, hfound, hlength⟩
      · -- The match runs through the barrier, so it is the last segment.
        refine absurd ⟨[], m.text, m.groups, ?_⟩ h
        rw [List.cons_append] at hm htext ⊢
        have hne : m.text ≠ [] := by
          rw [htext]
          exact List.cons_ne_nil _ _
        have hlast : m.text.length - 1 = (p ++ [d]).length := by
          rw [htext, List.length_cons, Nat.add_sub_cancel]
        rw [segments_some hm hne, hlast, ← List.append_nil (p ++ [d]), List.length_append,
          List.length_nil, Nat.add_zero, segments_skip_append _ _ (by simp)]
        rfl
      · -- The answer here is the same whatever follows, so the scan goes on alike.
        obtain ⟨s, k, hs, hk⟩ := segments_of_answer f before c found
        have hstep : ∀ rest, segments f before 0 (c :: p ++ d :: rest) =
            s :: segments f (some c) k (p ++ d :: rest) := fun rest => hs _ (hfound rest)
        have hopen : ¬ EndsInMatch (segments f (some c) k (p ++ [d])) := by
          rintro ⟨front, raw, groups, hsegments⟩
          refine h ⟨s :: front, raw, groups, ?_⟩
          rw [hstep [], hsegments, List.cons_append]
        obtain ⟨front, hfront⟩ := ih (hk _ hlength) hopen
        refine ⟨s :: front, fun rest => ?_⟩
        rw [hstep rest, hfront rest, List.cons_append]

/-- **Before a barrier which no match runs through, a text is rewritten on its own.** -/
theorem replaceFrom_barrier {f : Finder} {d : Char} (hf : f.Decides d)
    (g : Text → List Text → Text) (before : Option Char) (p : Text)
    (h : ¬ EndsInMatch (segments f before 0 (p ++ [d]))) :
    ∃ front, ∀ rest, replaceFrom f g before (p ++ d :: rest) =
      front ++ d :: replaceFrom f g (some d) rest := by
  obtain ⟨front, hfront⟩ := segments_barrier hf (Nat.zero_le _) h
  refine ⟨front.flatMap (Segment.replaced g), fun rest => ?_⟩
  rw [replaceFrom, hfront rest, List.flatMap_append, List.flatMap_cons]
  rfl

/-! ## Patterns which a character stops -/

/-- No class of the pattern has the character in it, and the pattern has no `$`. -/
def avoids (d : Char) : Regex → Bool
  | .nothing => true
  | .one p => !p d
  | .many p _ => !p d
  | .times p _ => !p d
  | .seq r s => avoids d r && avoids d s
  | .either r s => avoids d r && avoids d s
  | .group r => avoids d r
  | .atEnd => false

section Avoids

variable {d : Char}

theorem runs_append_barrier {p : Char → Bool} (hp : p d = false) (t rest : Text) :
    runs p (t ++ d :: rest) = (runs p (t ++ [d])).map fun s => (s.1, s.2 ++ rest) := by
  induction t with
  | nil => simp [runs_cons, hp]
  | cons c t ih =>
    rw [List.cons_append, List.cons_append, runs_cons, runs_cons]
    split
    · rw [ih, List.map_append, List.map_map, List.map_map]
      simp [Function.comp_def]
    · simp

theorem runs_barrier {p : Char → Bool} (hp : p d = false) {t : Text} {s : Text × Text}
    (h : s ∈ runs p (t ++ [d])) : ∃ u, s.2 = u ++ [d] := by
  obtain ⟨a, b⟩ := s
  obtain ⟨happ, hall⟩ := mem_runs.1 h
  rcases List.eq_nil_or_concat b with rfl | ⟨u, e, rfl⟩
  · rw [List.append_nil] at happ
    subst happ
    rw [hall d (by simp)] at hp
    exact absurd hp (by simp)
  · rw [List.concat_eq_append, ← List.append_assoc] at happ
    obtain ⟨-, he⟩ := List.append_inj' happ rfl
    rw [List.concat_eq_append, he]
    exact ⟨u, rfl⟩

/-- A match leaves the character which stops it. -/
theorem exists_rest_of_avoids {r : Regex} (hr : r.avoids d = true) {t : Text} {m : Match}
    (h : m ∈ r.allMatches (t ++ [d])) : ∃ u, m.rest = u ++ [d] := by
  induction r generalizing t m with
  | nothing => exact ⟨t, by rw [mem_allMatches_nothing.1 h]⟩
  | one p =>
    obtain ⟨c, t', ht, hc, rfl⟩ := mem_allMatches_one.1 h
    cases t with
    | nil =>
      obtain ⟨rfl, -⟩ := List.cons.inj ht
      rw [avoids, hc] at hr
      exact absurd hr (by decide)
    | cons e t =>
      obtain ⟨-, rfl⟩ := List.cons.inj ht
      exact ⟨t, rfl⟩
  | many p least =>
    rw [allMatches_many, List.mem_map] at h
    obtain ⟨s, hs, rfl⟩ := h
    exact runs_barrier (by simpa [avoids] using hr) (List.mem_filter.1 hs).1
  | times p n =>
    rw [allMatches_times, List.mem_map] at h
    obtain ⟨s, hs, rfl⟩ := h
    exact runs_barrier (by simpa [avoids] using hr) (List.mem_filter.1 hs).1
  | seq r s ihr ihs =>
    rw [avoids, Bool.and_eq_true] at hr
    obtain ⟨k, hk, n, hn, rfl⟩ := mem_allMatches_seq.1 h
    obtain ⟨u, hu⟩ := ihr hr.1 hk
    rw [hu] at hn
    exact ihs (m := n) hr.2 hn
  | either r s ihr ihs =>
    rw [avoids, Bool.and_eq_true] at hr
    rcases mem_allMatches_either.1 h with h | h
    · exact ihr hr.1 h
    · exact ihs hr.2 h
  | group r ih =>
    obtain ⟨k, hk, rfl⟩ := mem_allMatches_group.1 h
    exact ih (m := k) hr hk
  | atEnd => exact absurd hr (by simp [avoids])

/-- **What follows a character which stops a pattern changes no match before it.** -/
theorem allMatches_append_barrier {r : Regex} (hr : r.avoids d = true) (t rest : Text) :
    r.allMatches (t ++ d :: rest) =
      (r.allMatches (t ++ [d])).map fun m => { m with rest := m.rest ++ rest } := by
  induction r generalizing t with
  | nothing => simp [allMatches_nothing]
  | one p =>
    have hp : p d = false := by simpa [avoids] using hr
    cases t with
    | nil => simp [allMatches_one_cons, hp]
    | cons c t => by_cases hc : p c = true <;> simp [allMatches_one_cons, hc]
  | many p least =>
    rw [allMatches_many, allMatches_many, runs_append_barrier (by simpa [avoids] using hr)]
    simp [List.filter_map, Function.comp_def]
  | times p n =>
    rw [allMatches_times, allMatches_times, runs_append_barrier (by simpa [avoids] using hr)]
    simp [List.filter_map, Function.comp_def]
  | seq r s ihr ihs =>
    rw [avoids, Bool.and_eq_true] at hr
    rw [allMatches_seq, allMatches_seq, ihr hr.1, List.flatMap_map, List.map_flatMap]
    refine List.flatMap_congr fun k hk => ?_
    obtain ⟨u, hu⟩ := exists_rest_of_avoids hr.1 hk
    rw [hu, List.append_assoc, List.singleton_append, ihs hr.2]
    simp [Function.comp_def]
  | either r s ihr ihs =>
    rw [avoids, Bool.and_eq_true] at hr
    rw [allMatches_either, allMatches_either, ihr hr.1, ihs hr.2, List.map_append]
  | group r ih =>
    rw [allMatches_group, allMatches_group, ih hr, List.map_map, List.map_map]
    rfl
  | atEnd => exact absurd hr (by simp [avoids])

theorem length_text_of_avoids {r : Regex} (hr : r.avoids d = true) {t : Text} {m : Match}
    (h : m ∈ r.allMatches (t ++ [d])) : m.text.length ≤ t.length := by
  obtain ⟨u, hu⟩ := exists_rest_of_avoids hr h
  have hlength := congrArg List.length (text_append_rest h)
  rw [hu, List.length_append, List.length_append, List.length_append] at hlength
  omega

theorem atBoundary_barrier (word : Char → Bool) (before : Option Char) (t rest : Text) :
    atBoundary word before (t ++ d :: rest) = atBoundary word before (t ++ [d]) := by
  unfold atBoundary
  cases t <;> rfl

theorem length_anywhere {r : Regex} (hr : r.avoids d = true) (before : Option Char) (t : Text)
    (m : Match) (h : anywhere r before (t ++ [d]) = some m) : m.text.length ≤ t.length :=
  length_text_of_avoids hr (match?_eq_some h)

theorem length_betweenBoundaries (word : Char → Bool) {r : Regex} (hr : r.avoids d = true)
    (before : Option Char) (t : Text) (m : Match)
    (h : betweenBoundaries r word before (t ++ [d]) = some m) : m.text.length ≤ t.length := by
  unfold betweenBoundaries at h
  rw [Option.ite_none_right_eq_some] at h
  exact length_text_of_avoids hr (List.mem_of_find?_eq_some h.2)

/-- A finder whose matches end before a character has it as a barrier, when its answer is
the same whatever follows. -/
theorem decides_of_length {f : Finder}
    (hlength : ∀ before t m, f before (t ++ [d]) = some m → m.text.length ≤ t.length)
    (hrest : ∀ before t rest, answer f before (t ++ d :: rest) = answer f before (t ++ [d])) :
    f.Decides d := by
  intro before t
  refine Or.inr ⟨answer f before (t ++ [d]), hrest before t, fun raw groups h => ?_⟩
  obtain ⟨m, hm, heq⟩ := Option.map_eq_some_iff.1 h
  obtain ⟨rfl, -⟩ := Prod.mk.inj heq
  exact hlength before t m hm

/-- **A character a pattern avoids is a barrier for it.** -/
theorem decides_anywhere {r : Regex} (hr : r.avoids d = true) : (anywhere r).Decides d := by
  refine decides_of_length (length_anywhere hr) fun before t rest => ?_
  unfold answer anywhere match?
  rw [allMatches_append_barrier hr t rest, List.head?_map, Option.map_map]
  rfl

/-- The same between two boundaries. -/
theorem decides_betweenBoundaries (word : Char → Bool) {r : Regex} (hr : r.avoids d = true) :
    (betweenBoundaries r word).Decides d := by
  refine decides_of_length (length_betweenBoundaries word hr) fun before t rest => ?_
  unfold answer betweenBoundaries
  rw [atBoundary_barrier]
  split
  · rw [allMatches_append_barrier hr t rest, List.find?_map, Option.map_map]
    congr 1
    -- The boundary at the end of a match reads the same character.
    refine List.find?_congr fun m hm => ?_
    obtain ⟨u, hu⟩ := exists_rest_of_avoids hr hm
    show atBoundary word _ (m.rest ++ rest) = _
    rw [hu, List.append_assoc, List.singleton_append, atBoundary_barrier]
  · rfl

/-- No match which ends before a character runs through it. -/
theorem not_endsInMatch {f : Finder}
    (hf : ∀ before t m, f before (t ++ [d]) = some m → m.text.length ≤ t.length) {p : Text}
    {before : Option Char} {skip : Nat} (hskip : skip ≤ p.length) :
    ¬ EndsInMatch (segments f before skip (p ++ [d])) := by
  have hlt : ∀ {q : Text} {k : Nat}, k ≤ q.length → k < (q ++ [d]).length := by
    intro q k hk
    rw [List.length_append, List.length_singleton]
    omega
  induction p generalizing before skip with
  | nil =>
    obtain rfl : skip = 0 := Nat.le_zero.1 hskip
    have hkept : segments f before 0 [d] = [.kept d] := by
      cases hm : f before [d] with
      | none => exact segments_none hm
      | some m => exact segments_empty hm (List.length_eq_zero_iff.1 (Nat.le_zero.1 (hf _ [] m hm)))
    rw [List.nil_append, hkept]
    rintro ⟨front, raw, groups, h⟩
    rcases front with - | ⟨s, front⟩
    · exact Segment.noConfusion (List.cons.inj h).1
    · exact absurd (List.cons.inj h).2 (by simp)
  | cons c p ih =>
    intro h
    rw [List.cons_append] at h
    cases skip with
    | succ n =>
      rw [segments_skip] at h
      exact ih (Nat.le_of_succ_le_succ hskip) h
    | zero =>
      have further : ∀ {s : Segment} {k : Nat}, k ≤ p.length →
          segments f before 0 (c :: (p ++ [d])) = s :: segments f (some c) k (p ++ [d]) →
          False := by
        intro s k hk hs
        rw [hs] at h
        exact ih hk (h.of_cons (segments_ne_nil (hlt hk)))
      cases hm : f before (c :: (p ++ [d])) with
      | none => exact further (Nat.zero_le _) (segments_none hm)
      | some m =>
        by_cases he : m.text = []
        · exact further (Nat.zero_le _) (segments_empty hm he)
        · have hle := hf before (c :: p) m hm
          rw [List.length_cons] at hle
          exact further (by omega) (segments_some hm he)

end Avoids

/-! ## Patterns with one way to match

A pattern may match in many ways where only one of them lets what comes after it match.
Then the preferred match is that one, whatever the order of preference is. -/

section OneWay

variable {p : Char → Bool} {r s : Regex} {t : Text}

/-- Every class of the pattern lies in `p`, and it has no group and no `$`. -/
def Within (p : Char → Bool) : Regex → Prop
  | .nothing => True
  | .one q => ∀ c, q c = true → p c = true
  | .many q _ => ∀ c, q c = true → p c = true
  | .times q _ => ∀ c, q c = true → p c = true
  | .seq r s => Within p r ∧ Within p s
  | .either r s => Within p r ∧ Within p s
  | .group _ => False
  | .atEnd => False

/-- A match of such a pattern is a text of the class, and matches before any other text. -/
theorem Within.match_spec (h : Within p r) {m : Match} (hm : m ∈ r.allMatches t) :
    (∀ c ∈ m.text, p c = true) ∧ m.groups = [] ∧
      ∀ rest, (⟨m.text, rest, []⟩ : Match) ∈ r.allMatches (m.text ++ rest) := by
  induction r generalizing t m with
  | nothing =>
    obtain rfl := mem_allMatches_nothing.1 hm
    exact ⟨by simp, rfl, fun rest => mem_allMatches_nothing.2 rfl⟩
  | one q =>
    obtain ⟨c, t', rfl, hc, rfl⟩ := mem_allMatches_one.1 hm
    exact ⟨by simpa using h c hc, rfl, fun rest => mem_allMatches_one.2 ⟨c, rest, rfl, hc, rfl⟩⟩
  | many q least =>
    obtain ⟨-, hall, hleast, hgroups⟩ := mem_allMatches_many.1 hm
    exact ⟨fun c hc => h c (hall c hc), hgroups, fun rest =>
      mem_allMatches_many.2 ⟨rfl, hall, hleast, rfl⟩⟩
  | times q n =>
    rw [allMatches_times, List.mem_map] at hm
    obtain ⟨⟨a, b⟩, hmem, rfl⟩ := hm
    obtain ⟨hruns, hn⟩ := List.mem_filter.1 hmem
    have hall := (mem_runs.1 hruns).2
    refine ⟨fun c hc => h c (hall c hc), rfl, fun rest => ?_⟩
    rw [allMatches_times, List.mem_map]
    exact ⟨(a, rest), List.mem_filter.2 ⟨mem_runs.2 ⟨rfl, hall⟩, hn⟩, rfl⟩
  | seq r s ihr ihs =>
    obtain ⟨k, hk, n, hn, rfl⟩ := mem_allMatches_seq.1 hm
    obtain ⟨hall, hgroups, hframe⟩ := ihr h.1 hk
    obtain ⟨hall', hgroups', hframe'⟩ := ihs h.2 hn
    refine ⟨fun c hc => ?_, ?_, fun rest => ?_⟩
    · rcases List.mem_append.1 hc with hc | hc
      · exact hall c hc
      · exact hall' c hc
    · rw [hgroups, hgroups', List.append_nil]
    · refine mem_allMatches_seq.2 ⟨⟨k.text, n.text ++ rest, []⟩, ?_, ⟨n.text, rest, []⟩,
        hframe' rest, rfl⟩
      have hmem := hframe (n.text ++ rest)
      rwa [← List.append_assoc] at hmem
  | either r s ihr ihs =>
    rcases mem_allMatches_either.1 hm with hm | hm
    · obtain ⟨hall, hgroups, hframe⟩ := ihr h.1 hm
      exact ⟨hall, hgroups, fun rest => mem_allMatches_either.2 (Or.inl (hframe rest))⟩
    · obtain ⟨hall, hgroups, hframe⟩ := ihs h.2 hm
      exact ⟨hall, hgroups, fun rest => mem_allMatches_either.2 (Or.inr (hframe rest))⟩
  | group r ih => exact h.elim
  | atEnd => exact h.elim

theorem within_literalIgnoreCase {w : Text}
    (h : ∀ c ∈ w, ∀ d, sameLetter c d = true → p d = true) :
    Within p (literalIgnoreCase w) := by
  unfold literalIgnoreCase
  induction w with
  | nil => exact trivial
  | cons c w ih =>
    exact ⟨h c List.mem_cons_self, ih fun d hd => h d (List.mem_cons_of_mem c hd)⟩

/-- The preferred match of two patterns, where only one match of the first goes on. -/
theorem match?_seq_of_unique {k n : Match} (hk : k ∈ r.allMatches t)
    (hn : s.match? k.rest = some n)
    (hunique : ∀ k' ∈ r.allMatches t, ∀ n' ∈ s.allMatches k'.rest, k' = k) :
    (Regex.seq r s).match? t = some ⟨k.text ++ n.text, n.rest, k.groups ++ n.groups⟩ := by
  have hseq : (Regex.seq r s).match? t = (r.allMatches t).findSome? fun k' =>
      (s.match? k'.rest).map fun n' =>
        (⟨k'.text ++ n'.text, n'.rest, k'.groups ++ n'.groups⟩ : Match) := by
    rw [match?, allMatches_seq, List.head?_flatMap]
    congr 1
    funext k'
    rw [List.head?_map]
    rfl
  rw [hseq]
  cases hfound : (r.allMatches t).findSome? _ with
  | none =>
    have hnone := List.findSome?_eq_none_iff.1 hfound k hk
    rw [hn] at hnone
    exact absurd hnone (by simp)
  | some m =>
    obtain ⟨k', hk', hm⟩ := List.exists_of_findSome?_eq_some hfound
    obtain ⟨n', hn', rfl⟩ := Option.map_eq_some_iff.1 hm
    obtain rfl := hunique k' hk' n' (match?_eq_some hn')
    rw [hn] at hn'
    rw [← Option.some.inj hn']

theorem takeWhile_append_stop {a b : Text} (ha : ∀ c ∈ a, p c = true)
    (hb : ∀ c, b.head? = some c → p c = false) : (a ++ b).takeWhile p = a := by
  rw [List.takeWhile_append_of_pos ha]
  cases b with
  | nil => exact List.append_nil a
  | cons c b => rw [List.takeWhile_cons_of_neg (by simp [hb c rfl]), List.append_nil]

theorem cut_unique {a b a' b' : Text} (ha : ∀ c ∈ a, p c = true)
    (hb : ∀ c, b.head? = some c → p c = false) (ha' : ∀ c ∈ a', p c = true)
    (hb' : ∀ c, b'.head? = some c → p c = false) (h : a ++ b = a' ++ b') : a = a' ∧ b = b' := by
  have heq : a = a' := by
    rw [← takeWhile_append_stop ha hb, h, takeWhile_append_stop ha' hb']
  subst heq
  exact ⟨rfl, List.append_cancel_left h⟩

end OneWay

end Regex
