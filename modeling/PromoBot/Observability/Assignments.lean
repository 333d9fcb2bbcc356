import PromoBot.Observability.Redaction

/-!
# What an assignment looks like

`ASSIGNMENT_PATTERN` can match at a place in one way only: the name goes on to the
first character which no name has, the assigner to the first character after its sign
which is no space, and the value to the first character which no value has
(`assignmentPattern_match?_iff`).

From this follows how far the pattern looks ahead.  Take a text `x` and whatever stands
after it, beginning with a character of a value.  If `x` is `Pending` --- a name, an
assigner, and value characters up to its end --- the match runs out of `x`.  Otherwise
the match lies within `x`, or there is none, and what stands after `x` makes no
difference (`answer_agrees`).  The exception is an `x` without any sign, which the text
after it may complete; it does not if it begins with `<`, which has a place in values
only.
-/

namespace PromoBot
namespace Observability

open Regex

/-! ## The characters of a name -/

theorem isNameChar_of_sameLetter {c d : Char} (hc : 'a' ≤ c ∧ c ≤ 'z')
    (h : sameLetter c d = true) : isNameChar d = true := by
  have hlower : c.toLower = c := by
    refine dif_neg fun hupper => ?_
    have h₁ : 'a'.toNat ≤ c.toNat := hc.1
    have h₂ : c.toNat ≤ 'Z'.toNat := hupper.2
    exact absurd (h₁.trans h₂) (by decide)
  unfold sameLetter at h
  rw [hlower] at h
  simp only [Bool.or_eq_true, Bool.and_eq_true, decide_eq_true_eq] at h
  rcases h with ((h | ⟨-, rfl | rfl⟩) | ⟨-, rfl⟩) | ⟨-, rfl⟩
  · by_cases hupper : 'A' ≤ d ∧ d ≤ 'Z'
    · simp [isNameChar, Text.isAsciiLetter, hupper.1, hupper.2]
    · have hd : d.toLower = d := dif_neg fun h' => hupper ⟨h'.1, h'.2⟩
      rw [hd] at h
      subst h
      simp [isNameChar, Text.isAsciiLetter, hc.1, hc.2]
  all_goals decide

theorem within_word {w : String} (hw : ∀ c ∈ w.toList, 'a' ≤ c ∧ c ≤ 'z') :
    (literalIgnoreCase w.toList).Within isNameChar :=
  within_literalIgnoreCase fun c hc _ h => isNameChar_of_sameLetter (hw c hc) h

theorem within_twoWords {first : String} {second : Regex}
    (hfirst : ∀ c ∈ first.toList, 'a' ≤ c ∧ c ≤ 'z') (hsecond : second.Within isNameChar) :
    (twoWords first second).Within isNameChar := by
  refine ⟨within_word hfirst, ⟨fun c hc => ?_, trivial⟩, hsecond⟩
  simp only [Bool.or_eq_true, decide_eq_true_eq] at hc
  rcases hc with rfl | rfl <;> decide

theorem within_assignedName : assignedName.Within isNameChar := by
  refine ⟨fun c hc => hc, ?_, fun c hc => hc⟩
  exact ⟨within_twoWords (by decide) (within_word (by decide)),
    within_twoWords (by decide) ⟨within_word (by decide), within_word (by decide)⟩,
    within_twoWords (by decide) ⟨within_word (by decide), within_word (by decide)⟩,
    within_word (by decide), within_word (by decide),
    within_twoWords (by decide) (within_word (by decide)),
    within_word (by decide), within_word (by decide), within_word (by decide),
    within_word (by decide), within_word (by decide),
    within_twoWords (by decide) (within_word (by decide))⟩

/-- No space is a character of a name. -/
theorem isSpace_of_isNameChar {c : Char} (h : isNameChar c = true) :
    Text.isSpace c = false := by
  unfold isNameChar Text.isAsciiLetter Text.isAsciiDigit at h
  simp only [Bool.or_eq_true, Bool.and_eq_true, decide_eq_true_eq] at h
  have between : ∀ {a b : Nat}, 33 ≤ a → b ≤ 126 → a ≤ c.toNat → c.toNat ≤ b →
      Text.isSpace c = false := by
    intro a b ha hb hac hcb
    rw [Bool.eq_false_iff]
    intro hspace
    unfold Text.isSpace at hspace
    simp only [Bool.or_eq_true, Bool.and_eq_true, decide_eq_true_eq, beq_iff_eq] at hspace
    omega
  rcases h with (((((((h | h) | h) | rfl) | rfl) | rfl) | rfl) | rfl) | rfl
  · exact between (a := 'a'.toNat) (b := 'z'.toNat) (by decide) (by decide) h.1 h.2
  · exact between (a := 'A'.toNat) (b := 'Z'.toNat) (by decide) (by decide) h.1 h.2
  · exact between (a := '0'.toNat) (b := '9'.toNat) (by decide) (by decide) h.1 h.2
  all_goals decide

theorem isNameChar_of_isSpace {c : Char} (h : Text.isSpace c = true) : isNameChar c = false := by
  rw [Bool.eq_false_iff]
  intro hname
  rw [isSpace_of_isNameChar hname] at h
  exact Bool.false_ne_true h

theorem isAssigner_chars {c : Char} (h : isAssigner c = true) :
    Text.isSpace c = false ∧ isNameChar c = false ∧ isValueChar c = true := by
  unfold isAssigner at h
  simp only [Bool.or_eq_true, decide_eq_true_eq] at h
  rcases h with rfl | rfl <;> decide

theorem isSpace_of_isValueChar {c : Char} (h : isValueChar c = true) :
    Text.isSpace c = false := by
  unfold isValueChar at h
  rw [Bool.and_eq_true, Bool.and_eq_true] at h
  simpa using h.1.1

/-! ## The parts of an assignment -/

/-- A text the first group of the pattern matches. -/
def IsName (name : Text) : Prop := (⟨name, [], []⟩ : Match) ∈ assignedName.allMatches name

/-- A text the second group matches. -/
def IsAssigner (sep : Text) : Prop :=
  ∃ a ch b, sep = a ++ ch :: b ∧ (∀ c ∈ a, Text.isSpace c = true) ∧ isAssigner ch = true ∧
    ∀ c ∈ b, Text.isSpace c = true

/-- An assignment and the text after it. -/
structure Assigns (name sep value rest : Text) : Prop where
  name : IsName name
  assigner : IsAssigner sep
  value_ne : value ≠ []
  value : ∀ c ∈ value, isValueChar c = true
  stops : ∀ c, rest.head? = some c → isValueChar c = false

theorem IsName.chars {name : Text} (h : IsName name) : ∀ c ∈ name, isNameChar c = true :=
  (within_assignedName.match_spec h).1

theorem IsAssigner.ne_nil {sep : Text} (h : IsAssigner sep) : sep ≠ [] := by
  obtain ⟨a, ch, b, rfl, -⟩ := h
  simp

theorem IsAssigner.head {sep : Text} (h : IsAssigner sep) (t : Text) :
    ∀ c, (sep ++ t).head? = some c → isNameChar c = false := by
  obtain ⟨a, ch, b, rfl, ha, hch, -⟩ := h
  intro c hc
  cases a with
  | nil =>
    obtain rfl := Option.some.inj hc
    exact (isAssigner_chars hch).2.1
  | cons d a =>
    obtain rfl := Option.some.inj hc
    exact isNameChar_of_isSpace (ha d List.mem_cons_self)

theorem name_unique {name name' sep sep' t t' : Text} (hname : IsName name)
    (hsep : IsAssigner sep) (hname' : IsName name') (hsep' : IsAssigner sep')
    (h : name ++ (sep ++ t) = name' ++ (sep' ++ t')) : name = name' ∧ sep ++ t = sep' ++ t' :=
  cut_unique hname.chars (hsep.head t) hname'.chars (hsep'.head t') h

/-- The assigner ends where something else than a space begins. -/
theorem assigner_unique {sep sep' t t' : Text} (hsep : IsAssigner sep) (hsep' : IsAssigner sep')
    (ht : ∀ c, t.head? = some c → Text.isSpace c = false)
    (ht' : ∀ c, t'.head? = some c → Text.isSpace c = false) (h : sep ++ t = sep' ++ t') :
    sep = sep' ∧ t = t' := by
  obtain ⟨a, ch, b, rfl, ha, hch, hb⟩ := hsep
  obtain ⟨a', ch', b', rfl, ha', hch', hb'⟩ := hsep'
  rw [List.append_assoc, List.append_assoc, List.cons_append, List.cons_append] at h
  have hstop : ∀ {e : Char} {u : Text}, isAssigner e = true →
      ∀ c, (e :: u).head? = some c → Text.isSpace c = false := by
    intro e u he c hc
    obtain rfl := Option.some.inj hc
    exact (isAssigner_chars he).1
  obtain ⟨rfl, hcons⟩ := cut_unique ha (hstop hch) ha' (hstop hch') h
  obtain ⟨rfl, htail⟩ := List.cons.inj hcons
  obtain ⟨rfl, rfl⟩ := cut_unique hb ht hb' ht' htail
  exact ⟨rfl, rfl⟩

/-! ## The one way to match -/

theorem mem_assignment {t : Text} {m : Match} (h : m ∈ assignment.allMatches t) :
    IsAssigner m.text := by
  obtain ⟨k, hk, n, hn, rfl⟩ := mem_allMatches_seq.1 h
  obtain ⟨o, ho, l, hl, rfl⟩ := mem_allMatches_seq.1 hn
  obtain ⟨c, t', -, hc, rfl⟩ := mem_allMatches_one.1 ho
  exact ⟨k.text, c, l.text, rfl, (mem_allMatches_many.1 hk).2.1, hc,
    (mem_allMatches_many.1 hl).2.1⟩

theorem within_assignment : assignment.Within fun c => Text.isSpace c || isAssigner c := by
  refine ⟨fun c hc => ?_, fun c hc => ?_, fun c hc => ?_⟩ <;> simp [hc]

theorem IsAssigner.mem {sep : Text} (h : IsAssigner sep) (t : Text) :
    (⟨sep, t, []⟩ : Match) ∈ assignment.allMatches (sep ++ t) := by
  obtain ⟨a, ch, b, rfl, ha, hch, hb⟩ := h
  refine mem_allMatches_seq.2 ⟨⟨a, ch :: (b ++ t), []⟩, mem_allMatches_many.2 ?_,
    ⟨ch :: b, t, []⟩, mem_allMatches_seq.2 ⟨⟨[ch], b ++ t, []⟩, ?_, ⟨b, t, []⟩, ?_, rfl⟩, rfl⟩
  · exact ⟨by simp, ha, Nat.zero_le _, rfl⟩
  · exact mem_allMatches_one.2 ⟨ch, b ++ t, rfl, hch, rfl⟩
  · exact mem_allMatches_many.2 ⟨rfl, hb, Nat.zero_le _, rfl⟩

/-- What follows the name in a match: an assigner, and something else than a space. -/
theorem assigner_of_mem {t : Text} {m : Match}
    (h : m ∈ (Regex.seq (.group assignment) (.group (.many isValueChar 1))).allMatches t) :
    ∃ sep value rest, IsAssigner sep ∧ value ≠ [] ∧ (∀ c ∈ value, isValueChar c = true) ∧
      t = sep ++ (value ++ rest) ∧ m.text = sep ++ value := by
  obtain ⟨k, hk, n, hn, rfl⟩ := mem_allMatches_seq.1 h
  obtain ⟨s, hs, rfl⟩ := mem_allMatches_group.1 hk
  obtain ⟨v, hv, rfl⟩ := mem_allMatches_group.1 hn
  obtain ⟨happ, hall, hleast, -⟩ := mem_allMatches_many.1 hv
  refine ⟨s.text, v.text, v.rest, mem_assignment hs, ?_, hall, ?_, rfl⟩
  · exact List.ne_nil_of_length_pos hleast
  · have ht := text_append_rest hs
    rw [← ht]
    congr 1
    exact happ.symm

/-- **Where there is an assignment, the pattern matches it.** -/
theorem Assigns.match?_eq {name sep value rest : Text} (h : Assigns name sep value rest) :
    assignmentPattern.match? (name ++ (sep ++ (value ++ rest))) =
      some ⟨name ++ (sep ++ value), rest, [name, sep, value]⟩ := by
  have hspace : ∀ {v r : Text}, v ≠ [] → (∀ c ∈ v, isValueChar c = true) →
      ∀ c, (v ++ r).head? = some c → Text.isSpace c = false := by
    intro v r hne hv c hc
    obtain ⟨d, v, rfl⟩ := List.exists_cons_of_ne_nil hne
    obtain rfl := Option.some.inj hc
    exact isSpace_of_isValueChar (hv d List.mem_cons_self)
  have hvalue : (Regex.group (.many isValueChar 1)).match? (value ++ rest) =
      some ⟨value, rest, [value]⟩ := by
    have htake : (value ++ rest).takeWhile isValueChar = value :=
      takeWhile_append_stop h.value h.stops
    have hmany : (Regex.many isValueChar 1).match? (value ++ rest) = some ⟨value, rest, []⟩ := by
      rw [match?_many (by rw [htake]; exact List.length_pos_of_ne_nil h.value_ne), htake]
      have happ := List.takeWhile_append_dropWhile (p := isValueChar) (l := value ++ rest)
      rw [htake] at happ
      rw [List.append_cancel_left happ]
    unfold match? at hmany ⊢
    rw [allMatches_group, List.head?_map, hmany]
    rfl
  have htail : (Regex.seq (.group assignment) (.group (.many isValueChar 1))).match?
      (sep ++ (value ++ rest)) = some ⟨sep ++ value, rest, [sep, value]⟩ := by
    refine match?_seq_of_unique (k := ⟨sep, value ++ rest, [sep]⟩)
      (mem_allMatches_group.2 ⟨_, h.assigner.mem _, rfl⟩) hvalue ?_
    intro k' hk' n' hn'
    obtain ⟨s, hs, rfl⟩ := mem_allMatches_group.1 hk'
    obtain ⟨v, hv, rfl⟩ := mem_allMatches_group.1 hn'
    obtain ⟨happ, hall, hleast, -⟩ := mem_allMatches_many.1 hv
    have hgroups := (within_assignment.match_spec hs).2.1
    have htext := text_append_rest hs
    have hrest : s.rest = v.text ++ v.rest := happ.symm
    have hne : v.text ≠ [] := List.ne_nil_of_length_pos hleast
    obtain ⟨htext', hrest'⟩ := assigner_unique (mem_assignment hs) h.assigner
      (by rw [hrest]; exact hspace hne hall) (hspace h.value_ne h.value) htext
    rw [Match.mk.injEq]
    exact ⟨htext', hrest', by rw [hgroups, htext']⟩
  refine match?_seq_of_unique (k := ⟨name, sep ++ (value ++ rest), [name]⟩)
    (mem_allMatches_group.2 ⟨_, (within_assignedName.match_spec h.name).2.2 _, rfl⟩) htail ?_
  intro k' hk' n' hn'
  obtain ⟨s, hs, rfl⟩ := mem_allMatches_group.1 hk'
  obtain ⟨hchars, hgroups, hframe⟩ := within_assignedName.match_spec hs
  obtain ⟨sep', value', rest', hsep', -, -, hrest', -⟩ := assigner_of_mem hn'
  have hname' : IsName s.text := by
    have hmem := hframe []
    rwa [List.append_nil] at hmem
  have htext := text_append_rest hs
  change s.rest = _ at hrest'
  rw [hrest'] at htext
  obtain ⟨heq, heq'⟩ := name_unique hname' hsep' h.name h.assigner htext
  rw [Match.mk.injEq]
  exact ⟨heq, by rw [hrest', heq'], by rw [hgroups, heq]⟩

/-- **The matches of the pattern are the assignments.** -/
theorem assignmentPattern_match?_iff {t : Text} {m : Match} :
    assignmentPattern.match? t = some m ↔ ∃ name sep value rest,
      Assigns name sep value rest ∧ t = name ++ (sep ++ (value ++ rest)) ∧
        m = ⟨name ++ (sep ++ value), rest, [name, sep, value]⟩ := by
  constructor
  · intro h
    obtain ⟨k, hk, n, hn, -⟩ := mem_allMatches_seq.1 (match?_eq_some h)
    obtain ⟨s, hs, rfl⟩ := mem_allMatches_group.1 hk
    obtain ⟨sep, value, rest, hsep, hne, hvalue, hrest, -⟩ := assigner_of_mem hn
    change s.rest = _ at hrest
    -- The preferred value goes on as long as it can.
    have hassigns : Assigns s.text sep (value ++ rest.takeWhile isValueChar)
        (rest.dropWhile isValueChar) := by
      refine ⟨?_, hsep, fun happ => hne (List.append_eq_nil_iff.1 happ).1, fun c hc => ?_,
        fun c hc => ?_⟩
      · have hmem := (within_assignedName.match_spec hs).2.2 []
        rwa [List.append_nil] at hmem
      · rcases List.mem_append.1 hc with hc | hc
        · exact hvalue c hc
        · exact List.mem_takeWhile_imp hc
      · have hdrop := List.head?_dropWhile_not isValueChar rest
        rw [hc] at hdrop
        simpa using hdrop
    have ht : t = s.text ++ (sep ++ (value ++ rest.takeWhile isValueChar ++
        rest.dropWhile isValueChar)) := by
      rw [List.append_assoc, List.takeWhile_append_dropWhile, ← hrest]
      exact (text_append_rest hs).symm
    refine ⟨_, _, _, _, hassigns, ht, ?_⟩
    rw [ht, hassigns.match?_eq] at h
    exact (Option.some.inj h).symm
  · rintro ⟨name, sep, value, rest, h, rfl, rfl⟩
    exact h.match?_eq

/-! ## How far the pattern looks ahead -/

/-- A name, an assigner and the beginning of a value, up to the end. -/
def Pending (x : Text) : Prop :=
  ∃ name sep v, IsName name ∧ IsAssigner sep ∧ (∀ c ∈ v, isValueChar c = true) ∧
    x = name ++ (sep ++ v)

/-- Text which cannot complete an assignment whose sign `x` lacks: it begins with a
character of a value, and there is a sign in `x`, or it begins with `<`. -/
def Goes (x y : Text) : Prop :=
  ∃ c t, y = c :: t ∧ isValueChar c = true ∧ (c = '<' ∨ ∃ e ∈ x, isAssigner e = true)

theorem goes_lt (x t : Text) : Goes x ('<' :: t) :=
  ⟨'<', t, rfl, by decide, Or.inl rfl⟩

/-- The sign of an assigner is the only one, up to the end of its spaces. -/
theorem IsAssigner.signs {sep : Text} (h : IsAssigner sep) {name x z : Text}
    (hname : ∀ c ∈ name, isNameChar c = true) (heq : name ++ sep = x ++ z) {e : Char}
    (he : e ∈ x) (hsign : isAssigner e = true) : ∀ c ∈ z, Text.isSpace c = true := by
  obtain ⟨a, ch, b, rfl, ha, hch, hb⟩ := h
  have hno : ∀ {front : Text}, front <+: name ++ a → e ∉ front := by
    intro front hfront hmem
    rcases List.mem_append.1 (hfront.subset hmem) with hmem | hmem
    · have hchar := hname e hmem
      rw [(isAssigner_chars hsign).2.1] at hchar
      exact Bool.false_ne_true hchar
    · have hspace := ha e hmem
      rw [(isAssigner_chars hsign).1] at hspace
      exact Bool.false_ne_true hspace
  rw [← List.append_assoc] at heq
  rcases List.append_eq_append_iff.1 heq with ⟨w, rfl, hw⟩ | ⟨w, hx, -⟩
  · cases w with
    | nil =>
      rw [List.append_nil] at he
      exact absurd he (hno (List.prefix_refl _))
    | cons d w =>
      obtain ⟨-, rfl⟩ := List.cons.inj hw
      exact fun c hc => hb c (List.mem_append_right w hc)
  · exact absurd he (hno ⟨w, hx.symm⟩)

/-- **An assignment at `x`, with more text after `x`, has its name and its sign in `x`**:
it ends in `x`, or `x` is pending. -/
theorem Assigns.ends_or_pending {name sep value rest x y : Text}
    (h : Assigns name sep value rest) (hy : Goes x y)
    (heq : name ++ (sep ++ (value ++ rest)) = x ++ y) :
    (∃ r, x = name ++ (sep ++ (value ++ r)) ∧ rest = r ++ y) ∨ Pending x := by
  obtain ⟨c, t, rfl, hc, hgoes⟩ := hy
  rw [← List.append_assoc name] at heq
  rcases List.append_eq_append_iff.1 heq with ⟨w, rfl, hw⟩ | ⟨w, hx, hw⟩
  · rcases List.append_eq_append_iff.1 hw with ⟨r, rfl, hr⟩ | ⟨r, hvalue, -⟩
    · exact Or.inl ⟨r, by rw [List.append_assoc], hr⟩
    · refine Or.inr ⟨name, sep, w, h.name, h.assigner, fun d hd => ?_, List.append_assoc _ _ _⟩
      exact h.value d (hvalue ▸ List.mem_append_left r hd)
  · cases w with
    | nil =>
      refine Or.inr ⟨name, sep, [], h.name, h.assigner, by simp, ?_⟩
      rw [List.append_nil] at hx ⊢
      exact hx.symm
    | cons d w =>
      -- The assigner goes on after `x`, which its characters do not allow.
      obtain ⟨rfl, -⟩ := List.cons.inj hw
      exfalso
      rcases hgoes with rfl | ⟨e, he, hsign⟩
      · have hmem : '<' ∈ name ++ sep := by
          rw [hx]
          exact List.mem_append_right x List.mem_cons_self
        rcases List.mem_append.1 hmem with hmem | hmem
        · exact absurd (h.name.chars _ hmem) (by decide)
        · obtain ⟨a, ch, b, rfl, ha, hch, hb⟩ := h.assigner
          rcases List.mem_append.1 hmem with hmem | hmem
          · exact absurd (ha _ hmem) (by decide)
          · rcases List.mem_cons.1 hmem with rfl | hmem
            · exact absurd hch (by decide)
            · exact absurd (hb _ hmem) (by decide)
      · have hspace := h.assigner.signs h.name.chars hx he hsign c List.mem_cons_self
        rw [isSpace_of_isValueChar hc] at hspace
        exact Bool.false_ne_true hspace

/-- The finder of `ASSIGNMENT_PATTERN`. -/
def assignmentFinder (env : LogEnv) : Finder := assignmentPattern.fromBoundary env.isWord

variable {env : LogEnv} {before : Option Char}

theorem answer_eq_some_iff {t raw : Text} {groups : List Text} :
    answer (assignmentFinder env) before t = some (raw, groups) ↔
      atBoundary env.isWord before t = true ∧ ∃ name sep value rest,
        Assigns name sep value rest ∧ t = name ++ (sep ++ (value ++ rest)) ∧
          raw = name ++ (sep ++ value) ∧ groups = [name, sep, value] := by
  unfold answer assignmentFinder fromBoundary
  rw [Option.map_eq_some_iff]
  constructor
  · rintro ⟨m, hm, heq⟩
    rw [Option.ite_none_right_eq_some] at hm
    obtain ⟨name, sep, value, rest, h, ht, rfl⟩ := assignmentPattern_match?_iff.1 hm.2
    obtain ⟨rfl, rfl⟩ := Prod.mk.inj heq
    exact ⟨hm.1, name, sep, value, rest, h, ht, rfl, rfl⟩
  · rintro ⟨hboundary, name, sep, value, rest, h, rfl, rfl, rfl⟩
    refine ⟨⟨name ++ (sep ++ value), rest, [name, sep, value]⟩, ?_, rfl⟩
    rw [if_pos hboundary, h.match?_eq]

/-- A match at a text which is not pending lies within it, whatever follows. -/
theorem answer_within {x y raw : Text} {groups : List Text} (hy : Goes x y)
    (hx : ¬ Pending x)
    (h : answer (assignmentFinder env) before (x ++ y) = some (raw, groups)) :
    raw.length ≤ x.length ∧ ∀ y', Goes x y' → (x ++ y').head? = (x ++ y).head? →
      answer (assignmentFinder env) before (x ++ y') = some (raw, groups) := by
  obtain ⟨hboundary, name, sep, value, rest, hassigns, ht, rfl, rfl⟩ := answer_eq_some_iff.1 h
  rcases hassigns.ends_or_pending hy ht.symm with ⟨r, rfl, rfl⟩ | hpending
  · refine ⟨by simp, fun y' hy' hhead => answer_eq_some_iff.2 ⟨?_, name, sep, value, r ++ y', ?_⟩⟩
    · unfold atBoundary at hboundary ⊢
      rw [hhead]
      exact hboundary
    · have hstops : ∀ c, (r ++ y').head? = some c → isValueChar c = false := by
        cases r with
        | cons d r => exact hassigns.stops
        | nil =>
          -- The value would end where a character of a value follows.
          obtain ⟨c, t, rfl, hc, -⟩ := hy
          have hstop := hassigns.stops c rfl
          rw [hc] at hstop
          exact absurd hstop (by decide)
      refine ⟨⟨hassigns.name, hassigns.assigner, hassigns.value_ne, hassigns.value, hstops⟩, ?_,
        rfl, rfl⟩
      rw [List.append_assoc, List.append_assoc, List.append_assoc]
  · exact absurd hpending hx

/-- **At a text which is not pending, what follows makes no difference.** -/
theorem answer_agrees {x y y' : Text} (hy : Goes x y) (hy' : Goes x y') (hx : ¬ Pending x)
    (hhead : (x ++ y).head? = (x ++ y').head?) :
    answer (assignmentFinder env) before (x ++ y) =
      answer (assignmentFinder env) before (x ++ y') := by
  refine Option.ext fun ⟨raw, groups⟩ => ⟨fun h => ?_, fun h => ?_⟩
  · exact (answer_within hy hx h).2 y' hy' hhead.symm
  · exact (answer_within hy' hx h).2 y hy hhead

/-- The value of a pending assignment goes on with what follows. -/
theorem assigns_append {name sep v c q : Text} (hname : IsName name) (hsep : IsAssigner sep)
    (hv : ∀ d ∈ v, isValueChar d = true) (hne : c ≠ []) (hc : ∀ d ∈ c, isValueChar d = true) :
    Assigns name sep (v ++ (c ++ q.takeWhile isValueChar)) (q.dropWhile isValueChar) := by
  refine ⟨hname, hsep, ?_, fun d hd => ?_, fun d hd => ?_⟩
  · exact fun h => hne (List.append_eq_nil_iff.1 (List.append_eq_nil_iff.1 h).2).1
  · rcases List.mem_append.1 hd with hd | hd
    · exact hv d hd
    · rcases List.mem_append.1 hd with hd | hd
      · exact hc d hd
      · exact List.mem_takeWhile_imp hd
  · have hdrop := List.head?_dropWhile_not isValueChar q
    rw [hd] at hdrop
    simpa using hdrop

theorem isValueChar_of_isNameChar {c : Char} (h : isNameChar c = true) :
    isValueChar c = true := by
  have hcomma : c ≠ ',' := by
    rintro rfl
    exact absurd h (by decide)
  have hsemicolon : c ≠ ';' := by
    rintro rfl
    exact absurd h (by decide)
  simp [isValueChar, isSpace_of_isNameChar h, hcomma, hsemicolon]

/-- No assignment begins with a character of no name. -/
theorem answer_eq_none {t : Text} (ht : ∀ d, t.head? = some d → isNameChar d = false) :
    answer (assignmentFinder env) before t = none := by
  rw [Option.eq_none_iff_forall_ne_some]
  rintro ⟨raw, groups⟩ h
  obtain ⟨-, name, sep, value, rest, hassigns, rfl, -⟩ := answer_eq_some_iff.1 h
  cases name with
  | nil =>
    have hname : (⟨[], [], []⟩ : Match) ∉ assignedName.allMatches [] := by decide
    exact hname hassigns.name
  | cons d name =>
    have hd := hassigns.name.chars d List.mem_cons_self
    rw [ht d rfl] at hd
    exact Bool.false_ne_true hd

/-- **`<` is a barrier for assignments**: it is taken by a value, or by nothing. -/
theorem decides_assignmentFinder : (assignmentFinder env).Decides '<' := by
  intro before x
  by_cases hx : Pending x ∧ atBoundary env.isWord before (x ++ ['<']) = true
  · obtain ⟨⟨name, sep, v, hname, hsep, hv, rfl⟩, hboundary⟩ := hx
    have hassigns := assigns_append (c := ['<']) (q := []) hname hsep hv (by simp) (by decide)
    rw [List.takeWhile_nil, List.append_nil, List.dropWhile_nil] at hassigns
    refine Or.inl ⟨⟨name ++ (sep ++ (v ++ ['<'])), [], [name, sep, v ++ ['<']]⟩, ?_, ?_⟩
    · unfold assignmentFinder fromBoundary
      have hmatch := hassigns.match?_eq
      rw [List.append_nil] at hmatch
      rw [if_pos hboundary, List.append_assoc, List.append_assoc, hmatch]
    · rw [List.append_assoc, List.append_assoc]
  · refine Or.inr ⟨answer (assignmentFinder env) before (x ++ ['<']), fun rest => ?_,
      fun raw groups h => ?_⟩
    · by_cases hpending : Pending x
      · have hboundary : ∀ u, atBoundary env.isWord before (x ++ '<' :: u) ≠ true := by
          intro u hu
          rw [atBoundary_barrier] at hu
          exact hx ⟨hpending, hu⟩
        unfold answer assignmentFinder fromBoundary
        rw [if_neg (hboundary rest), if_neg (hboundary [])]
      · refine answer_agrees (goes_lt x rest) (goes_lt x []) hpending ?_
        cases x <;> rfl
    · by_cases hpending : Pending x
      · exact absurd ⟨hpending, (answer_eq_some_iff.1 h).1⟩ hx
      · exact (answer_within (goes_lt x []) hpending h).1

end Observability
end PromoBot
