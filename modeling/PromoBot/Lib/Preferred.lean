import PromoBot.Lib.Substitution

/-!
# Preferred matches

Which of its matches a backtracking matcher prefers, for a pattern that is read from
left to right: a literal matches in one way, and a run of a class is taken whole as
soon as what follows it cannot begin inside the run (`match?_seq_many`).
-/

namespace Regex

variable {r s : Regex} {t : Text}

/-! ## Searching -/

/-- A match at the beginning is what `search` answers. -/
theorem search_of_match? {m : Match} (h : r.match? t = some m) : r.search t = some m := by
  cases t with
  | nil => exact h
  | cons c t => rw [search, h, Option.some_or]

/-- Where there is no match at the beginning, `search` goes on. -/
theorem search_of_no_match {c : Char} (h : r.match? (c :: t) = none) :
    r.search (c :: t) = r.search t := by
  rw [search, h, Option.none_or]

/-! ## The preferred match of a construct -/

/-- Where what follows goes on from the preferred match of a pattern, that is the preferred
match of both. -/
theorem match?_seq_of_match? {k n : Match} (hk : r.match? t = some k)
    (hn : s.match? k.rest = some n) :
    (Regex.seq r s).match? t = some ⟨k.text ++ n.text, n.rest, k.groups ++ n.groups⟩ := by
  obtain ⟨ks, hks⟩ := List.head?_eq_some_iff.1 hk
  rw [match?, allMatches_seq, hks, List.flatMap_cons, List.head?_append, List.head?_map]
  rw [match?] at hn
  rw [hn]
  rfl

theorem match?_either_left {m : Match} (h : r.match? t = some m) :
    (Regex.either r s).match? t = some m := by
  rw [match?] at h
  rw [match?, allMatches_either, List.head?_append, h]
  rfl

theorem match?_group {m : Match} (h : r.match? t = some m) :
    (Regex.group r).match? t = some { m with groups := m.text :: m.groups } := by
  rw [match?] at h
  rw [match?, allMatches_group, List.head?_map, h]
  rfl

theorem match?_many_all {p : Char → Bool} {least : Nat} (hleast : least ≤ t.length)
    (ht : ∀ c ∈ t, p c = true) : (many p least).match? t = some ⟨t, [], []⟩ := by
  have htake : t.takeWhile p = t := List.takeWhile_eq_self_iff.2 ht
  have hdrop : t.dropWhile p = [] := List.dropWhile_eq_nil_iff.2 ht
  rw [match?_many (by rw [htake]; exact hleast), htake, hdrop]

theorem of_mem_allMatches_times {p : Char → Bool} {n : Nat} {m : Match}
    (h : m ∈ (times p n).allMatches t) :
    (∀ c ∈ m.text, p c = true) ∧ m.text.length = n ∧ m.groups = [] := by
  rw [allMatches_times, List.mem_map] at h
  obtain ⟨⟨a, b⟩, hrun, rfl⟩ := h
  obtain ⟨hmem, hlength⟩ := List.mem_filter.1 hrun
  exact ⟨(mem_runs.1 hmem).2, of_decide_eq_true hlength, rfl⟩

/-- So many characters of a class are the whole text. -/
theorem match?_times_all {p : Char → Bool} {n : Nat} (hlength : t.length = n)
    (ht : ∀ c ∈ t, p c = true) : (times p n).match? t = some ⟨t, [], []⟩ := by
  have hmem : (⟨t, [], []⟩ : Match) ∈ (times p n).allMatches t := by
    rw [allMatches_times, List.mem_map]
    refine ⟨(t, []), List.mem_filter.2 ⟨mem_runs.2 ⟨List.append_nil t, ht⟩, ?_⟩, rfl⟩
    exact decide_eq_true hlength
  obtain ⟨m, hm⟩ := exists_match? hmem
  have hfound := match?_eq_some hm
  have happ := text_append_rest hfound
  obtain ⟨-, hlength', hgroups⟩ := of_mem_allMatches_times hfound
  have happ' : m.text ++ m.rest = t ++ [] := happ.trans (List.append_nil t).symm
  obtain ⟨htext, hrest⟩ := List.append_inj happ' (hlength'.trans hlength.symm)
  have heq : m = ⟨t, [], []⟩ := by
    rw [Match.mk.injEq]
    exact ⟨htext, hrest, hgroups⟩
  rw [hm, heq]

theorem match?_literalIgnoreCase {w a : Text} (t : Text)
    (h : List.Forall₂ (fun c d => sameLetter c d = true) w a) :
    (literalIgnoreCase w).match? (a ++ t) = some ⟨a, t, []⟩ := by
  rw [match?, allMatches_literalIgnoreCase t h]
  rfl

theorem match?_seq_literalIgnoreCase {n : Match} {w a : Text}
    (ha : List.Forall₂ (fun c d => sameLetter c d = true) w a) (h : s.match? t = some n) :
    (Regex.seq (literalIgnoreCase w) s).match? (a ++ t) = some ⟨a ++ n.text, n.rest, n.groups⟩ :=
  match?_seq_of_match? (match?_literalIgnoreCase t ha) h

theorem text_of_literal {w : Text} {m : Match} (hm : m ∈ (literal w).allMatches t) :
    m.text = w := by
  unfold literal at hm
  induction w generalizing t m with
  | nil =>
    rw [List.foldr_nil, mem_allMatches_nothing] at hm
    rw [hm]
  | cons c w ih =>
    rw [List.foldr_cons] at hm
    obtain ⟨k, hk, n, hn, rfl⟩ := mem_allMatches_seq.1 hm
    obtain ⟨d, _, _, hd, rfl⟩ := mem_allMatches_one.1 hk
    obtain rfl : d = c := of_decide_eq_true hd
    rw [← ih hn]
    rfl

theorem match?_literal (w t : Text) : (literal w).match? (w ++ t) = some ⟨w, t, []⟩ := by
  induction w with
  | nil => rfl
  | cons c w ih =>
    have hone : (one (· = c)).match? (c :: (w ++ t)) = some ⟨[c], w ++ t, []⟩ := by
      rw [match?, allMatches_one_cons, if_pos (decide_eq_true rfl)]
      rfl
    exact match?_seq_of_match? hone ih

theorem match?_seq_literal {n : Match} (w : Text) (h : s.match? t = some n) :
    (Regex.seq (literal w) s).match? (w ++ t) = some ⟨w ++ n.text, n.rest, n.groups⟩ :=
  match?_seq_of_match? (match?_literal w t) h

/-- The pattern begins with no character of a class. -/
def Refuses (r : Regex) (p : Char → Bool) : Prop :=
  ∀ c t, p c = true → r.allMatches (c :: t) = []

theorem refuses_literalIgnoreCase {p : Char → Bool} {c : Char} (w : Text)
    (h : ∀ d, p d = true → sameLetter c d = false) : (literalIgnoreCase (c :: w)).Refuses p := by
  intro d t hd
  show ((one (sameLetter c)).allMatches (d :: t)).flatMap _ = []
  rw [allMatches_one_cons, h d hd]
  rfl

theorem refuses_literal {p : Char → Bool} {c : Char} (w : Text) (h : p c = false) :
    (literal (c :: w)).Refuses p := by
  intro d t hd
  show ((one (· = c)).allMatches (d :: t)).flatMap _ = []
  have hne : d ≠ c := by
    rintro rfl
    rw [hd] at h
    cases h
  rw [allMatches_one_cons, if_neg (by simpa using hne)]
  rfl

theorem Refuses.seq {p : Char → Bool} (h : r.Refuses p) : (Regex.seq r s).Refuses p := by
  intro c t hc
  rw [allMatches_seq, h c t hc]
  rfl

/-- **The preferred match of a run and what follows it**: where what follows cannot begin
inside the run, the run is taken whole. -/
theorem match?_seq_many {p : Char → Bool} {least : Nat} {a b : Text} {n : Match}
    (hs : s.Refuses p) (hleast : least ≤ a.length) (ha : ∀ c ∈ a, p c = true)
    (hb : s.match? b = some n) :
    (Regex.seq (.group (.many p least)) s).match? (a ++ b) =
      some ⟨a ++ n.text, n.rest, a :: n.groups⟩ := by
  have hstops : ∀ {b' : Text} {m : Match}, m ∈ s.allMatches b' →
      ∀ c, b'.head? = some c → p c = false := by
    intro b' m hm c hc
    cases b' with
    | nil => cases hc
    | cons d b' =>
      obtain rfl := Option.some.inj hc
      by_contra hp
      rw [hs d b' (Bool.not_eq_false _ ▸ hp)] at hm
      cases hm
  refine match?_seq_of_unique (k := ⟨a, b, [a]⟩) ?_ hb ?_
  · exact mem_allMatches_group.2 ⟨⟨a, b, []⟩, mem_allMatches_many.2 ⟨rfl, ha, hleast, rfl⟩, rfl⟩
  · intro k' hk' n' hn'
    obtain ⟨m, hm, rfl⟩ := mem_allMatches_group.1 hk'
    obtain ⟨happ, hall, -, hgroups⟩ := mem_allMatches_many.1 hm
    obtain ⟨htext, hrest⟩ := cut_unique hall (hstops hn') ha (hstops (match?_eq_some hb)) happ
    rw [Match.mk.injEq]
    exact ⟨htext, hrest, by rw [hgroups, htext]⟩

/-! ## The whole text -/

/-- `re.fullmatch`: the preferred match that leaves nothing. -/
def fullMatch? (r : Regex) (t : Text) : Option Match :=
  (r.allMatches t).find? fun m => m.rest.isEmpty

theorem fullMatch?_eq_some {m : Match} (h : r.fullMatch? t = some m) :
    m ∈ r.allMatches t ∧ m.rest = [] := by
  have hempty : m.rest.isEmpty = true :=
    List.find?_some (p := fun m : Match => m.rest.isEmpty) h
  exact ⟨List.mem_of_find?_eq_some h, List.isEmpty_iff.1 hempty⟩

end Regex
