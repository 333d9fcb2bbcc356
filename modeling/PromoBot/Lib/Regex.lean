import Mathlib.Data.List.Forall2
import PromoBot.Lib.PyText

/-!
# Regular expressions

The constructs of Python's `re` from which the patterns below are built, with
the matching order of a backtracking matcher: `Regex.allMatches r t` lists every way
in which `r` matches a prefix of `t`, the preferred one first.  A match knows the
text it covers, the text after it and what its groups captured.

Proofs about a pattern do not run the matcher: the `mem_allMatches` lemmas say what
a match of each construct looks like, whichever one is preferred.

## Scanning

`Regex.pieces` cuts a text at the non-overlapping matches `finditer` finds, and
`Regex.sub` rebuilds it from the pieces.  Both are meant for patterns which match
no empty text.
-/

/-- A match of a prefix: the prefix, what is left, and what the groups captured. -/
structure Match where
  text : Text
  rest : Text
  groups : List Text
  deriving DecidableEq, Repr

/-- A regular expression. -/
inductive Regex
  /-- The empty pattern. -/
  | nothing
  /-- One character of a class. -/
  | one (p : Char → Bool)
  /-- At least so many characters of a class, as many as possible. -/
  | many (p : Char → Bool) (least : Nat)
  /-- Exactly so many characters of a class. -/
  | times (p : Char → Bool) (n : Nat)
  | seq (r s : Regex)
  /-- The first pattern, or else the second. -/
  | either (r s : Regex)
  /-- A capturing group. -/
  | group (r : Regex)
  /-- `$`: the end, or before a newline which is the end. -/
  | atEnd

namespace Regex

/-! ## Matching -/

/-- The prefixes of characters of a class, the longest first. -/
def runs (p : Char → Bool) : Text → List (Text × Text)
  | [] => [([], [])]
  | c :: t => if p c then (runs p t).map (fun s => (c :: s.1, s.2)) ++ [([], c :: t)]
    else [([], c :: t)]

/-- All matches of a prefix, in order of preference. -/
def allMatches : Regex → Text → List Match
  | .nothing, t => [⟨[], t, []⟩]
  | .one _, [] => []
  | .one p, c :: t => if p c then [⟨[c], t, []⟩] else []
  | .many p least, t =>
    ((runs p t).filter fun s => least ≤ s.1.length).map fun s => ⟨s.1, s.2, []⟩
  | .times p n, t => ((runs p t).filter fun s => s.1.length = n).map fun s => ⟨s.1, s.2, []⟩
  | .seq r s, t =>
    (r.allMatches t).flatMap fun m =>
      (s.allMatches m.rest).map fun n => ⟨m.text ++ n.text, n.rest, m.groups ++ n.groups⟩
  | .either r s, t => r.allMatches t ++ s.allMatches t
  | .group r, t => (r.allMatches t).map fun m => { m with groups := m.text :: m.groups }
  | .atEnd, t => if t = [] ∨ t = ['\n'] then [⟨[], t, []⟩] else []

section Equations

variable (p : Char → Bool) (r s : Regex) (c : Char) (t : Text)

theorem runs_nil : runs p [] = [([], [])] := rfl

theorem runs_cons :
    runs p (c :: t) =
      if p c then (runs p t).map (fun s => (c :: s.1, s.2)) ++ [([], c :: t)]
      else [([], c :: t)] := rfl

theorem allMatches_nothing : nothing.allMatches t = [⟨[], t, []⟩] := rfl

theorem allMatches_one_nil : (one p).allMatches [] = [] := rfl

theorem allMatches_one_cons :
    (one p).allMatches (c :: t) = if p c then [⟨[c], t, []⟩] else [] := rfl

theorem allMatches_many (least : Nat) :
    (many p least).allMatches t =
      ((runs p t).filter fun s => least ≤ s.1.length).map fun s => ⟨s.1, s.2, []⟩ := rfl

theorem allMatches_times (n : Nat) :
    (times p n).allMatches t =
      ((runs p t).filter fun s => s.1.length = n).map fun s => ⟨s.1, s.2, []⟩ := rfl

theorem allMatches_seq :
    (seq r s).allMatches t = (r.allMatches t).flatMap fun m =>
      (s.allMatches m.rest).map fun n => ⟨m.text ++ n.text, n.rest, m.groups ++ n.groups⟩ := rfl

theorem allMatches_either : (either r s).allMatches t = r.allMatches t ++ s.allMatches t := rfl

theorem allMatches_group :
    (group r).allMatches t = (r.allMatches t).map fun m => { m with groups := m.text :: m.groups } :=
  rfl

theorem allMatches_atEnd :
    atEnd.allMatches t = if t = [] ∨ t = ['\n'] then [⟨[], t, []⟩] else [] := rfl

end Equations

/-- `re.match`, at the beginning of the text. -/
def match? (r : Regex) (t : Text) : Option Match := (r.allMatches t).head?

/-- `re.search`: the preferred match at the first place where there is one. -/
def search (r : Regex) : Text → Option Match
  | [] => r.match? []
  | c :: t => (r.match? (c :: t)).or (search r t)

/-- `re.fullmatch(…) is not None`. -/
def fullMatches (r : Regex) (t : Text) : Bool := (r.allMatches t).any fun m => m.rest.isEmpty

/-! ## Writing patterns -/

def literal (t : Text) : Regex := t.foldr (fun c r => .seq (.one (· = c)) r) .nothing

/-- The characters a literal character matches under `re.IGNORECASE`: both cases, and
the characters Unicode folds onto `i`, `k` and `s`. -/
def sameLetter (c d : Char) : Bool :=
  c.toLower = d.toLower ||
    (c.toLower = 'i' && (d = '\u0130' || d = '\u0131')) ||
    (c.toLower = 'k' && d = '\u212A') ||
    (c.toLower = 's' && d = '\u017F')

/-- A literal text under `re.IGNORECASE`. -/
def literalIgnoreCase (t : Text) : Regex :=
  t.foldr (fun c r => .seq (.one (sameLetter c)) r) .nothing

theorem sameLetter_self (c : Char) : sameLetter c c = true := by simp [sameLetter]

theorem forall₂_sameLetter_self (w : Text) :
    List.Forall₂ (fun c d => sameLetter c d = true) w w :=
  List.forall₂_same.2 fun c _ => sameLetter_self c

/-- `r?`. -/
def optional (r : Regex) : Regex := .either r .nothing

/-! ## What a match looks like -/

section MemMatches

variable {p : Char → Bool} {r s : Regex} {t : Text} {m : Match}

theorem mem_runs {a b : Text} : (a, b) ∈ runs p t ↔ a ++ b = t ∧ ∀ c ∈ a, p c = true := by
  induction t generalizing a with
  | nil =>
    rw [runs_nil, List.mem_singleton, Prod.mk.injEq, List.append_eq_nil_iff]
    refine ⟨fun h => ⟨h, ?_⟩, fun h => h.1⟩
    rw [h.1]
    exact fun c hc => absurd hc List.not_mem_nil
  | cons c t ih =>
    rw [runs_cons]
    split
    · next hc =>
      rw [List.mem_append, List.mem_map, List.mem_singleton]
      constructor
      · rintro (⟨⟨a', b'⟩, hmem, heq⟩ | heq)
        · obtain ⟨rfl, rfl⟩ := Prod.mk.inj heq
          obtain ⟨happ, hall⟩ := ih.1 hmem
          exact ⟨by rw [List.cons_append, happ], by simpa [hc] using hall⟩
        · obtain ⟨rfl, rfl⟩ := Prod.mk.inj heq
          exact ⟨rfl, by simp⟩
      · rintro ⟨happ, hall⟩
        cases a with
        | nil => exact Or.inr (by rw [List.nil_append] at happ; rw [happ])
        | cons d a =>
          obtain ⟨rfl, happ'⟩ := List.cons.inj happ
          refine Or.inl ⟨(a, b), ih.2 ⟨happ', fun e he => hall e (by simp [he])⟩, rfl⟩
    · next hc =>
      rw [List.mem_singleton]
      constructor
      · rintro heq
        obtain ⟨rfl, rfl⟩ := Prod.mk.inj heq
        exact ⟨rfl, by simp⟩
      · rintro ⟨happ, hall⟩
        cases a with
        | nil => rw [List.nil_append] at happ; rw [happ]
        | cons d a =>
          obtain ⟨rfl, _⟩ := List.cons.inj happ
          exact absurd (hall d (by simp)) hc

@[simp] theorem mem_allMatches_nothing : m ∈ nothing.allMatches t ↔ m = ⟨[], t, []⟩ := by
  simp [allMatches_nothing]

@[simp] theorem mem_allMatches_one :
    m ∈ (one p).allMatches t ↔ ∃ c t', t = c :: t' ∧ p c = true ∧ m = ⟨[c], t', []⟩ := by
  cases t with
  | nil => simp [allMatches_one_nil]
  | cons c t => by_cases hc : p c = true <;> simp [allMatches_one_cons, hc]

@[simp] theorem mem_allMatches_many {least : Nat} :
    m ∈ (many p least).allMatches t ↔
      m.text ++ m.rest = t ∧ (∀ c ∈ m.text, p c = true) ∧ least ≤ m.text.length ∧
        m.groups = [] := by
  rw [allMatches_many, List.mem_map]
  constructor
  · rintro ⟨⟨a, b⟩, hmem, rfl⟩
    rw [List.mem_filter, mem_runs] at hmem
    exact ⟨hmem.1.1, hmem.1.2, by simpa using hmem.2, rfl⟩
  · rintro ⟨happ, hall, hlen, hgroups⟩
    refine ⟨(m.text, m.rest), ?_, ?_⟩
    · rw [List.mem_filter, mem_runs]
      exact ⟨⟨happ, hall⟩, by simpa using hlen⟩
    · cases m
      simp_all

@[simp] theorem mem_allMatches_seq :
    m ∈ (seq r s).allMatches t ↔ ∃ k ∈ r.allMatches t, ∃ n ∈ s.allMatches k.rest,
      m = ⟨k.text ++ n.text, n.rest, k.groups ++ n.groups⟩ := by
  simp only [allMatches_seq, List.mem_flatMap, List.mem_map, eq_comm]

@[simp] theorem mem_allMatches_either :
    m ∈ (either r s).allMatches t ↔ m ∈ r.allMatches t ∨ m ∈ s.allMatches t := by
  rw [allMatches_either, List.mem_append]

@[simp] theorem mem_allMatches_group :
    m ∈ (group r).allMatches t ↔ ∃ k ∈ r.allMatches t, m = { k with groups := k.text :: k.groups } := by
  simp only [allMatches_group, List.mem_map, eq_comm]

@[simp] theorem mem_allMatches_atEnd :
    m ∈ atEnd.allMatches t ↔ (t = [] ∨ t = ['\n']) ∧ m = ⟨[], t, []⟩ := by
  rw [allMatches_atEnd]
  split
  · next h => simp [h]
  · next h => simp [h]

/-- A literal matches exactly the texts whose characters match its own. -/
theorem mem_allMatches_literalIgnoreCase {w : Text} :
    m ∈ (literalIgnoreCase w).allMatches t ↔
      ∃ a b, t = a ++ b ∧ List.Forall₂ (fun c d => sameLetter c d = true) w a ∧
        m = ⟨a, b, []⟩ := by
  unfold literalIgnoreCase
  induction w generalizing t m with
  | nil =>
    rw [List.foldr_nil, mem_allMatches_nothing]
    constructor
    · rintro rfl
      exact ⟨[], t, rfl, .nil, rfl⟩
    · rintro ⟨a, b, rfl, hw, rfl⟩
      cases hw
      rfl
  | cons c w ih =>
    rw [List.foldr_cons, mem_allMatches_seq]
    constructor
    · rintro ⟨k, hk, n, hn, rfl⟩
      obtain ⟨d, t', rfl, hd, rfl⟩ := mem_allMatches_one.1 hk
      obtain ⟨a, b, hab, hw, rfl⟩ := ih.1 hn
      exact ⟨d :: a, b, by rw [List.cons_append, ← hab], .cons hd hw, rfl⟩
    · rintro ⟨a, b, rfl, hw, rfl⟩
      cases hw with
      | @cons _ d _ a hd hw =>
        exact ⟨⟨[d], a ++ b, []⟩, mem_allMatches_one.2 ⟨d, a ++ b, rfl, hd, rfl⟩,
          ⟨a, b, []⟩, ih.2 ⟨a, b, rfl, hw, rfl⟩, rfl⟩

/-- A match is a prefix of the text. -/
theorem text_append_rest (h : m ∈ r.allMatches t) : m.text ++ m.rest = t := by
  induction r generalizing t m with
  | nothing => rw [mem_allMatches_nothing.1 h, List.nil_append]
  | one p =>
    obtain ⟨c, t', rfl, -, rfl⟩ := mem_allMatches_one.1 h
    rfl
  | many p least => exact (mem_allMatches_many.1 h).1
  | times p n =>
    rw [allMatches_times, List.mem_map] at h
    obtain ⟨⟨a, b⟩, hmem, rfl⟩ := h
    exact (mem_runs.1 (List.mem_filter.1 hmem).1).1
  | seq r s ihr ihs =>
    obtain ⟨k, hk, n, hn, rfl⟩ := mem_allMatches_seq.1 h
    rw [List.append_assoc, ihs hn, ihr hk]
  | either r s ihr ihs =>
    rcases mem_allMatches_either.1 h with h | h
    · exact ihr h
    · exact ihs h
  | group r ih =>
    obtain ⟨k, hk, rfl⟩ := mem_allMatches_group.1 h
    exact ih (m := k) hk
  | atEnd => rw [(mem_allMatches_atEnd.1 h).2, List.nil_append]

theorem match?_eq_some (h : r.match? t = some m) : m ∈ r.allMatches t :=
  List.mem_of_mem_head? h

theorem exists_match? (h : m ∈ r.allMatches t) : ∃ n, r.match? t = some n := by
  cases hm : r.allMatches t with
  | nil => exact absurd (hm ▸ h) List.not_mem_nil
  | cons n ms => exact ⟨n, by rw [match?, hm, List.head?_cons]⟩

/-- Where a pattern matches at the beginning, `search` answers a match there. -/
theorem search_of_mem (h : m ∈ r.allMatches t) :
    ∃ n ∈ r.allMatches t, r.search t = some n := by
  obtain ⟨n, hn⟩ := exists_match? h
  refine ⟨n, match?_eq_some hn, ?_⟩
  cases t with
  | nil => rw [search, hn]
  | cons c t => rw [search, hn, Option.some_or]

/-- What `search` answers is a match somewhere in the text. -/
theorem exists_mem_of_search (h : r.search t = some m) : ∃ t', m ∈ r.allMatches t' := by
  induction t with
  | nil => exact ⟨[], match?_eq_some h⟩
  | cons c t ih =>
    rcases Option.or_eq_some_iff.1 h with h | ⟨-, h⟩
    · exact ⟨c :: t, match?_eq_some h⟩
    · exact ih h

end MemMatches

/-! ## Scanning -/

/-- A piece of a scanned text: a character between two matches, or a match. -/
inductive Piece
  | gap (c : Char)
  | found (raw : Text)
  deriving DecidableEq, Repr

/-- Scan a text, first skipping so many characters which belong to a match already
listed. -/
def scan (r : Regex) : Nat → Text → List Piece
  | _, [] => []
  | skip + 1, _ :: t => scan r skip t
  | 0, c :: t =>
    match r.match? (c :: t) with
    | some m =>
      if m.text = [] then .gap c :: scan r 0 t
      else .found m.text :: scan r (m.text.length - 1) t
    | none => .gap c :: scan r 0 t

def pieces (r : Regex) (t : Text) : List Piece := scan r 0 t

def Piece.text : Piece → Text
  | .gap c => [c]
  | .found raw => raw

/-- The texts of the matches, in order. -/
def foundIn : List Piece → List Text
  | [] => []
  | .gap _ :: ps => foundIn ps
  | .found raw :: ps => raw :: foundIn ps

/-- The matches with the places where they begin. -/
def startsFrom : Nat → List Piece → List (Nat × Text)
  | _, [] => []
  | n, .gap _ :: ps => startsFrom (n + 1) ps
  | n, .found raw :: ps => (n, raw) :: startsFrom (n + raw.length) ps

/-- `finditer`: the matches of a text, with their `start()`. -/
def findIter (r : Regex) (t : Text) : List (Nat × Text) := startsFrom 0 (r.pieces t)

/-- `re.sub` with a function. -/
def sub (r : Regex) (f : Text → Text) (t : Text) : Text :=
  (r.pieces t).flatMap fun
    | .gap c => [c]
    | .found raw => f raw

/-- The matches `finditer` finds are the pieces that are matches. -/
theorem map_snd_startsFrom (n : Nat) (ps : List Piece) :
    (startsFrom n ps).map Prod.snd = foundIn ps := by
  induction ps generalizing n with
  | nil => rfl
  | cons p ps ih =>
    cases p with
    | gap c => exact ih (n + 1)
    | found raw => rw [startsFrom, foundIn, List.map_cons, ih]

theorem scan_flatMap_text (r : Regex) (skip : Nat) (t : Text) :
    (scan r skip t).flatMap Piece.text = t.drop skip := by
  induction t generalizing skip with
  | nil => simp [scan]
  | cons c t ih =>
    cases skip with
    | succ skip => rw [scan, ih, List.drop_succ_cons]
    | zero =>
      rw [scan, List.drop_zero]
      cases hm : r.match? (c :: t) with
      | none => simp [Piece.text, ih]
      | some m =>
        dsimp only
        split
        · simp [Piece.text, ih]
        · next hne =>
          have happ := text_append_rest (match?_eq_some hm)
          obtain ⟨d, text, htext⟩ := List.exists_cons_of_ne_nil hne
          rw [htext, List.cons_append] at happ
          obtain ⟨rfl, rfl⟩ := List.cons.inj happ
          simp [Piece.text, ih, htext]

/-- **The pieces make up the text.** -/
theorem pieces_flatMap_text (r : Regex) (t : Text) : (r.pieces t).flatMap Piece.text = t :=
  scan_flatMap_text r 0 t

end Regex
