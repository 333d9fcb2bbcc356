import PromoBot.Lib.Substitution
import PromoBot.Telegram.Adaptation

/-!
# The order of the links of a message

`extract_links` sorts links by their places.  An address of the text has the place where it
begins, in code points.  A text link has the UTF-16 offset of its entity, cut at the length of
the text in code points, which is never before the place where it begins and may be after it.

So two links may change places only where a text link is given a place that is too late: it
gets behind an address it stands before, or, past the end of the text, behind a text link which
was found before it (`Overtakes`).

## Places and beginnings

Two numbers belong to a link.  Its *place* is what the program sorts by, and its *beginning* is
where it stands in the message.  `Fits` says how they are related for each of the three
surfaces: equal for an address, not later than the place for a text link, and nothing for a
button, which stands nowhere in the text.  Two links that are stored in the wrong order have
places in one order and beginnings in the other, and from `Fits` alone one of them is then a
text link (`overtakes_of_before`).

## What is stored

Sorting is followed by dropping what was there before under another spelling.  So the condition
is not about all links but about those which are the first of their key in the sorted list
(`IsFirst`), and a text link which is dropped may stand where it likes.  A visible address
comes up twice, in the text and among the entities, and it is the one of the text that is kept
(`not_isFirst_of_entityUrl`), because its place is the same and it was found before.

The sort is stable, so links of one place stay in the order of discovery.  This is where the
cut at the end of the text matters: several text links may be given the last place there is,
and are then stored as they were found.
-/

namespace PromoBot
namespace Telegram

open PromoBot.Parser

/-! ## Where links begin -/

/-- Where an entity begins, in code points. -/
def entityStart (text : Text) (e : EntityUrl) : Nat :=
  if e.source = .entityTextUrl then Utf16.position text e.offset.toNat else e.offset.toNat

/-- Where the links of the three surfaces begin, in the order of discovery. -/
def starts (text : Text) (entityUrls : List EntityUrl) (buttonUrls : List Text) : List Nat :=
  let inText := ((urlPattern.findIter text).map fun m => (m.1, trimUrl m.2)).filter (·.2 ≠ [])
  let inEntities := (entityUrls.map fun e => (entityStart text e, trimUrl e.url.strip)).filter
    (·.2 ≠ [])
  let inButtons := (buttonUrls.map fun url => trimUrl url.strip).filter (· ≠ [])
  inText.map Prod.fst ++ inEntities.map Prod.fst ++
    inButtons.zipIdx.map fun e => text.length + 1 + e.2

variable (u : PyUnicode)

namespace Message

variable (m : Message)

/-- The links of a message, before they are merged. -/
def found : List Candidate := candidates m.text m.surface.entities m.buttonUrls

/-- The links of a message that are stored, in their order. -/
def stored : List Candidate := firstByKey u [] (m.found.insertionSort Candidate.Before)

/-- Where a link begins. -/
def startOf (c : Candidate) : Nat :=
  (starts m.text m.surface.entities m.buttonUrls)[c.sequence]?.getD 0

/-- The links are stored in the order in which they begin, buttons apart. -/
def LinksInOrder : Prop :=
  ((m.stored u).filter fun c => c.source ≠ .button).Pairwise fun a b => m.startOf a ≤ m.startOf b

instance : Decidable (m.LinksInOrder u) := inferInstanceAs (Decidable (List.Pairwise _ _))

/-- The link is none of which another spelling has an earlier place. -/
def IsFirst (c : Candidate) : Prop :=
  c ∈ m.found ∧ ∀ c' ∈ m.found, c'.Before c → c' ≠ c → dedupKey u c'.url ≠ dedupKey u c.url

/-- Link `a` gets before the text link `b`, which begins before it: `a` is an address of the
text, or a text link found before `b` where both have the last place there is. -/
def Overtakes (a b : Candidate) : Prop :=
  b.source = .entityTextUrl ∧ m.startOf b < m.startOf a ∧
    ((a.source = .text ∧ a.position ≤ b.position) ∨
      (a.source = .entityTextUrl ∧ a.position = m.text.length ∧ b.position = m.text.length ∧
        a.sequence < b.sequence))

end Message

/-! ## What the entities give -/

/-- Addresses have no whitespace in them. -/
theorem isSpace_of_sameLetter {x c : Char} (hx : x ∈ "https:/".toList)
    (h : Regex.sameLetter x c = true) : Text.isSpace c = false := by
  have hletters : ∀ y ∈ "https:/".toList, y.toLower = y ∧ y ≠ 'i' ∧ y ≠ 'k' ∧
      33 ≤ y.toNat ∧ y.toNat ≤ 122 := by decide
  obtain ⟨hlower, hi, hk, hge, hle⟩ := hletters x hx
  have hcases : x = c.toLower ∨ c = '\u017F' := by
    simp only [Regex.sameLetter, hlower, hi, hk, Bool.or_eq_true, decide_eq_true_eq,
      Bool.and_eq_true, false_and, or_false] at h
    rcases h with h | h
    · exact Or.inl h
    · exact Or.inr h.2
  rcases hcases with rfl | rfl
  · have hrange : 33 ≤ c.toNat ∧ c.toNat ≤ 122 := by
      rcases Text.toLower_cases c with hc | ⟨hle', hge', -⟩
      · exact ⟨hc ▸ hge, hc ▸ hle⟩
      · omega
    by_contra hspace
    rw [Bool.not_eq_false] at hspace
    simp only [Text.isSpace, Bool.or_eq_true, Bool.and_eq_true, decide_eq_true_eq,
      beq_iff_eq] at hspace
    omega
  · decide

theorem within_urlPattern : urlPattern.Within fun c => !Text.isSpace c := by
  have hletters : ∀ w : Text, (∀ c ∈ w, c ∈ "https:/".toList) →
      (Regex.literalIgnoreCase w).Within fun c => !Text.isSpace c := by
    intro w hw
    refine Regex.within_literalIgnoreCase fun c hc d hd => ?_
    rw [isSpace_of_sameLetter (hw c hc) hd]
    rfl
  refine ⟨hletters _ (by decide), ⟨fun c hc => ?_, trivial⟩, hletters _ (by decide), fun c hc => ?_⟩
  · show (!Text.isSpace c) = true
    rw [isSpace_of_sameLetter (by decide) hc]
    rfl
  · unfold isUrlChar at hc
    simp only [Bool.not_eq_true', Bool.or_eq_false_iff] at hc
    simp [hc]

theorem strip_eq_self {t : Text} (h : ∀ c ∈ t, Text.isSpace c = false) : t.strip = t := by
  have hleft : t.dropWhile Text.isSpace = t := by
    cases t with
    | nil => rfl
    | cons c t => rw [List.dropWhile_cons_of_neg (by simp [h c List.mem_cons_self])]
  rw [Text.strip, hleft, Text.rstripBy, List.rdropWhile_eq_self_iff]
  exact fun hne => by simp [h _ (List.getLast_mem hne)]

theorem trimUrl_strip {text : Text} {e : Nat × Text} (h : e ∈ urlPattern.findIter text) :
    trimUrl (trimUrl e.2).strip = trimUrl e.2 := by
  have hfound : e.2 ∈ Regex.foundIn (urlPattern.pieces text) := by
    rw [← Regex.map_snd_startsFrom 0]
    exact List.mem_map_of_mem h
  obtain ⟨t, k, hk, hraw⟩ := exists_match_of_mem_foundIn hfound
  have hplain : ∀ c ∈ trimUrl e.2, Text.isSpace c = false := by
    intro c hc
    have hmem : c ∈ k.text := hraw ▸ (List.rdropWhile_prefix _ e.2).subset hc
    simpa using (within_urlPattern.match_spec hk).1 c hmem
  rw [strip_eq_self hplain]
  exact List.rdropWhile_idempotent _ _

/-- What the loop over the entities gives: text links, and addresses of the text. -/
def IsEntity (text : Text) (e : EntityUrl) : Prop :=
  e.source = .entityTextUrl ∨ e.source = .entityUrl ∧
    ∃ f ∈ urlPattern.findIter text, e.offset = f.1 ∧ e.url = trimUrl f.2

theorem addType_entities (s : Surface) (typeName : String) :
    (s.addType typeName).entities = s.entities := by
  unfold Surface.addType
  split
  · rfl
  · split <;> rfl

theorem isEntity_of_mem_add {text : Text} {s : Surface} {entity : MessageEntity × Text}
    {e : EntityUrl} (h : e ∈ (s.add text entity).entities) : e ∈ s.entities ∨ IsEntity text e := by
  obtain ⟨entity, entityText⟩ := entity
  cases entity with
  | textUrl url offset length =>
    simp only [Surface.add] at h
    split at h
    · rw [addType_entities] at h
      exact Or.inl h
    · rcases List.mem_append.1 h with h | h
      · exact Or.inl h
      · rw [List.mem_singleton.1 h]
        exact Or.inr (Or.inl rfl)
  | url offset length =>
    simp only [Surface.add] at h
    split at h
    · exact Or.inl h
    · next span hspan =>
      rcases List.mem_append.1 h with h | h
      · exact Or.inl h
      · obtain ⟨before, rest, htext, -, -, -, -, hs, he, f, hf, hstart, hstop⟩ :=
          visibleUrlEntitySpan_spec.1 hspan
        obtain ⟨before', rest', htext', hstart', -⟩ := address_of_mem_findIter hf
        rw [List.mem_singleton.1 h]
        refine Or.inr (Or.inr ⟨rfl, f, hf, by rw [← hstart], ?_⟩)
        show entityText = trimUrl f.2
        rw [htext, List.append_assoc, List.append_assoc] at htext'
        have hafter := (List.append_inj htext' (by omega)).2
        exact (List.append_inj hafter (by omega)).1
  | other typeName =>
    simp only [Surface.add, addType_entities] at h
    exact Or.inl h

theorem isEntity_of_mem {text : Text} {s : Surface} {es : List (MessageEntity × Text)}
    {e : EntityUrl} (h : e ∈ (es.foldl (Surface.add text) s).entities) :
    e ∈ s.entities ∨ IsEntity text e := by
  induction es generalizing s with
  | nil => exact Or.inl h
  | cons entity es ih =>
    rcases ih h with h | h
    · exact isEntity_of_mem_add h
    · exact Or.inr h

/-! ## Places and beginnings -/

/-- What the place of a link has to do with where it begins. -/
def Fits (text : Text) (position : Nat) (source : LinkSource) (start : Nat) : Prop :=
  match source with
  | .text | .entityUrl => start = position
  | .entityTextUrl => ∃ n, position = min n text.length ∧ start = Utf16.position text n
  | .button => True

/-- Every link has a beginning that fits its place. -/
theorem fits_starts (text : Text) (entityUrls : List EntityUrl) (buttonUrls : List Text)
    (hentities : ∀ e ∈ entityUrls, IsEntity text e) :
    List.Forall₂ (fun f s => Fits text f.1 f.2.2 s) (found text entityUrls buttonUrls)
      (starts text entityUrls buttonUrls) := by
  unfold found starts
  refine List.rel_append (List.rel_append ?_ ?_) ?_
  · rw [List.forall₂_map_left_iff, List.forall₂_map_right_iff, List.forall₂_same]
    exact fun _ _ => rfl
  · induction entityUrls with
    | nil => exact .nil
    | cons e entityUrls ih =>
      have hrest := ih fun e' he' => hentities e' (List.mem_cons_of_mem e he')
      rw [List.map_cons, List.map_cons, List.filter_cons, List.filter_cons]
      by_cases hurl : trimUrl e.url.strip = []
      · simpa [hurl] using hrest
      · simp only [hurl, ne_eq, not_false_eq_true, decide_true, if_true, List.map_cons]
        refine .cons ?_ (by simpa using hrest)
        have htoNat : (max e.offset 0).toNat = e.offset.toNat := by omega
        unfold entityStart
        rcases hentities e List.mem_cons_self with hsource | ⟨hsource, f, hf, hoffset, -⟩
        · rw [hsource, if_pos rfl, htoNat]
          exact ⟨_, rfl, rfl⟩
        · obtain ⟨before, rest, rfl, hstart, -⟩ := address_of_mem_findIter hf
          rw [hsource, if_neg nofun, htoNat, Nat.min_eq_left]
          · exact rfl
          · rw [List.length_append, List.length_append]
            omega
  · rw [List.forall₂_map_left_iff, List.forall₂_map_right_iff, List.forall₂_same]
    exact fun _ _ => trivial

variable {u} {m : Message} {a b c : Candidate}

theorem mem_found : c ∈ m.found ↔ ∃ i f,
    (found m.text m.surface.entities m.buttonUrls)[i]? = some f ∧
      c = ⟨f.1, i, f.2.1, f.2.2⟩ := by
  unfold Message.found candidates
  rw [List.mem_map]
  constructor
  · rintro ⟨⟨f, i⟩, hf, rfl⟩
    exact ⟨i, f, List.mem_zipIdx_iff_getElem?.1 hf, rfl⟩
  · rintro ⟨i, f, hf, rfl⟩
    exact ⟨(f, i), List.mem_zipIdx_iff_getElem?.2 hf, rfl⟩

theorem fits_startOf (h : c ∈ m.found) : Fits m.text c.position c.source (m.startOf c) := by
  have hfits := fits_starts m.text m.surface.entities m.buttonUrls
    fun e he => (isEntity_of_mem he).resolve_left nofun
  obtain ⟨i, f, hf, rfl⟩ := mem_found.1 h
  obtain ⟨hi, rfl⟩ := List.getElem?_eq_some_iff.1 hf
  have hi' := hfits.length_eq ▸ hi
  unfold Message.startOf
  dsimp only
  rw [List.getElem?_eq_getElem hi', Option.getD_some]
  exact (List.forall₂_iff_get.1 hfits).2 i hi hi'

theorem eq_of_sequence (ha : a ∈ m.found) (hb : b ∈ m.found) (h : a.sequence = b.sequence) :
    a = b := by
  obtain ⟨i, f, hf, rfl⟩ := mem_found.1 ha
  obtain ⟨j, g, hg, rfl⟩ := mem_found.1 hb
  obtain rfl : i = j := h
  rw [hf] at hg
  obtain rfl := Option.some.inj hg
  rfl

/-! ## Addresses of the text come first -/

def textLinks (text : Text) : List (Nat × Text × LinkSource) :=
  (((urlPattern.findIter text).map fun m => (m.1, trimUrl m.2)).filter (·.2 ≠ [])).map
    fun m => (m.1, m.2, .text)

/-- The links of the entities. -/
def entityLinks (text : Text) (entityUrls : List EntityUrl) : List (Nat × Text × LinkSource) :=
  (entityUrls.map fun e => (min (max e.offset 0).toNat text.length, trimUrl e.url.strip,
    e.source)).filter (·.2.1 ≠ [])

def buttonLinks (text : Text) (buttonUrls : List Text) : List (Nat × Text × LinkSource) :=
  ((buttonUrls.map fun url => trimUrl url.strip).filter (· ≠ [])).zipIdx.map
    fun e => (text.length + 1 + e.2, e.1, .button)

theorem found_eq (text : Text) (entityUrls : List EntityUrl) (buttonUrls : List Text) :
    found text entityUrls buttonUrls =
      textLinks text ++ (entityLinks text entityUrls ++ buttonLinks text buttonUrls) :=
  List.append_assoc _ _ _

/-- A link that is not of the text is an entity of the message, or a button. -/
theorem of_mem_others {f : Nat × Text × LinkSource}
    (h : f ∈ entityLinks m.text m.surface.entities ++ buttonLinks m.text m.buttonUrls) :
    f.2.2 = .entityTextUrl ∨ f.2.2 = .button ∨
      (f.2.2 = .entityUrl ∧ (f.1, f.2.1, .text) ∈ textLinks m.text) := by
  rcases List.mem_append.1 h with h | h
  · obtain ⟨hmem, hurl⟩ := List.mem_filter.1 h
    obtain ⟨e, he, rfl⟩ := List.mem_map.1 hmem
    rcases (isEntity_of_mem he).resolve_left nofun with hsource | ⟨hsource, g, hg, hoffset, hsame⟩
    · exact Or.inl hsource
    · refine Or.inr (Or.inr ⟨hsource, ?_⟩)
      obtain ⟨before, rest, htext, hstart, hne⟩ := address_of_mem_findIter hg
      have hle : g.1 ≤ m.text.length := by
        rw [htext, List.length_append, List.length_append]
        omega
      have hplace : min (max e.offset 0).toNat m.text.length = g.1 := by omega
      dsimp only
      rw [hplace, hsame, trimUrl_strip hg]
      refine List.mem_map.2 ⟨(g.1, trimUrl g.2), List.mem_filter.2 ⟨?_, by simpa using hne⟩, rfl⟩
      exact List.mem_map.2 ⟨g, hg, rfl⟩
  · obtain ⟨e, -, rfl⟩ := List.mem_map.1 h
    exact Or.inr (Or.inl rfl)

/-- The links of the text are numbered first. -/
theorem sequence_lt_iff (h : c ∈ m.found) :
    c.sequence < (textLinks m.text).length ↔ c.source = .text := by
  obtain ⟨i, f, hf, rfl⟩ := mem_found.1 h
  rw [found_eq, List.getElem?_append] at hf
  split at hf
  · next hi =>
    obtain ⟨e, -, rfl⟩ := List.mem_map.1 (List.mem_of_getElem? hf)
    exact ⟨fun _ => rfl, fun _ => hi⟩
  · next hi =>
    refine ⟨fun hlt => absurd hlt hi, fun hsource => ?_⟩
    replace hsource : f.2.2 = .text := hsource
    rcases of_mem_others (List.mem_of_getElem? hf) with hother | hother | ⟨hother, -⟩
    · exact absurd (hsource.symm.trans hother) nofun
    · exact absurd (hsource.symm.trans hother) nofun
    · exact absurd (hsource.symm.trans hother) nofun

/-- **A visible address is never stored as an entity**: it is found in the text before. -/
theorem not_isFirst_of_entityUrl (hsource : c.source = .entityUrl) : ¬ m.IsFirst u c := by
  rintro ⟨hc, hfirst⟩
  have hnot : ¬ c.sequence < (textLinks m.text).length := by
    rw [sequence_lt_iff hc, hsource]
    nofun
  obtain ⟨i, f, hf, rfl⟩ := mem_found.1 hc
  replace hsource : f.2.2 = .entityUrl := hsource
  have hother := hf
  rw [found_eq, List.getElem?_append_right (Nat.le_of_not_lt hnot)] at hother
  rcases of_mem_others (List.mem_of_getElem? hother) with h | h | ⟨-, hmem⟩
  · exact absurd (hsource.symm.trans h) nofun
  · exact absurd (hsource.symm.trans h) nofun
  · obtain ⟨j, hj, hget⟩ := List.mem_iff_getElem.1 hmem
    have htwin : (⟨f.1, j, f.2.1, .text⟩ : Candidate) ∈ m.found := by
      refine mem_found.2 ⟨j, (f.1, f.2.1, .text), ?_, rfl⟩
      rw [found_eq, List.getElem?_append_left hj, List.getElem?_eq_getElem hj, hget]
    refine hfirst _ htwin (Or.inr ⟨rfl, ?_⟩) (fun heq => ?_) rfl
    · show j ≤ i
      exact hj.le.trans (Nat.le_of_not_lt hnot)
    · have hsame := congrArg Candidate.source heq
      exact absurd (hsame.trans hsource) nofun

/-! ## What is stored -/

theorem pairwise_sorted (m : Message) :
    (m.found.insertionSort Candidate.Before).Pairwise Candidate.Before := by
  have : Std.Total Candidate.Before := ⟨fun a b => by unfold Candidate.Before; omega⟩
  have : IsTrans Candidate Candidate.Before := ⟨fun a b c => by unfold Candidate.Before; omega⟩
  exact List.pairwise_insertionSort _ _

/-- Of links in their order, one is kept exactly if its key is not that of one before it. -/
theorem mem_firstByKey_iff {seen : List Text} {cs : List Candidate}
    (hsorted : cs.Pairwise fun a b => a.Before b ∧ ¬ b.Before a) : c ∈ firstByKey u seen cs ↔
      c ∈ cs ∧ dedupKey u c.url ∉ seen ∧
        ∀ c' ∈ cs, c'.Before c → c' ≠ c → dedupKey u c'.url ≠ dedupKey u c.url := by
  induction cs generalizing seen with
  | nil => simp [firstByKey]
  | cons a cs ih =>
    obtain ⟨hbefore, hrest⟩ := List.pairwise_cons.1 hsorted
    unfold firstByKey
    split
    · next hseen =>
      rw [ih hrest]
      constructor
      · rintro ⟨hc, hnew, hfirst⟩
        refine ⟨List.mem_cons_of_mem a hc, hnew, fun c' hc' hlt hne hkey => ?_⟩
        rcases List.mem_cons.1 hc' with rfl | hc'
        · exact hnew (hkey ▸ hseen)
        · exact hfirst c' hc' hlt hne hkey
      · rintro ⟨hc, hnew, hfirst⟩
        rcases List.mem_cons.1 hc with rfl | hc
        · exact absurd hseen hnew
        · exact ⟨hc, hnew, fun c' hc' => hfirst c' (List.mem_cons_of_mem a hc')⟩
    · next hseen =>
      rw [List.mem_cons, ih hrest]
      constructor
      · rintro (rfl | ⟨hc, hnew, hfirst⟩)
        · refine ⟨List.mem_cons_self, hseen, fun c' hc' hlt hne => ?_⟩
          rcases List.mem_cons.1 hc' with rfl | hc'
          · exact absurd rfl hne
          · exact absurd hlt (hbefore c' hc').2
        · rw [List.mem_cons, not_or] at hnew
          refine ⟨List.mem_cons_of_mem a hc, hnew.2, fun c' hc' hlt hne hkey => ?_⟩
          rcases List.mem_cons.1 hc' with rfl | hc'
          · exact hnew.1 hkey.symm
          · exact hfirst c' hc' hlt hne hkey
      · rintro ⟨hc, hnew, hfirst⟩
        rcases List.mem_cons.1 hc with rfl | hc
        · exact Or.inl rfl
        · by_cases hsame : c = a
          · exact Or.inl hsame
          · refine Or.inr ⟨hc, ?_, fun c' hc' => hfirst c' (List.mem_cons_of_mem a hc')⟩
            rw [List.mem_cons, not_or]
            exact ⟨fun hkey => hfirst a List.mem_cons_self (hbefore c hc).1 (Ne.symm hsame)
              hkey.symm, hnew⟩

theorem firstByKey_sublist (seen : List Text) (cs : List Candidate) :
    (firstByKey u seen cs).Sublist cs := by
  induction cs generalizing seen with
  | nil => exact List.Sublist.refl _
  | cons a cs ih =>
    unfold firstByKey
    split
    · exact (ih seen).cons a
    · exact List.Sublist.cons_cons a (ih _)

/-- The stored links are in the strict order of their places. -/
theorem pairwise_strict (m : Message) : (m.found.insertionSort Candidate.Before).Pairwise
    fun a b => a.Before b ∧ ¬ b.Before a := by
  have hperm := List.perm_insertionSort Candidate.Before m.found
  have hnodup : (m.found.insertionSort Candidate.Before).Nodup := by
    rw [hperm.nodup_iff]
    refine List.Nodup.of_map Candidate.sequence ?_
    have hsequence : m.found.map Candidate.sequence =
        List.range (found m.text m.surface.entities m.buttonUrls).length := by
      unfold Message.found candidates
      rw [List.map_map]
      exact (List.map_congr_left fun _ _ => rfl).trans (List.zipIdx_map_snd 0 _ |>.trans
        (List.range_eq_range' ▸ rfl))
    rw [hsequence]
    exact List.nodup_range
  refine ((pairwise_sorted m).and hnodup).imp_of_mem ?_
  rintro a b ha hb ⟨hab, hne⟩
  refine ⟨hab, fun hba => hne (eq_of_sequence (hperm.mem_iff.1 ha) (hperm.mem_iff.1 hb) ?_)⟩
  unfold Candidate.Before at hab hba
  omega

theorem mem_stored : c ∈ m.stored u ↔ m.IsFirst u c := by
  have hmem : ∀ c, c ∈ m.found.insertionSort Candidate.Before ↔ c ∈ m.found := fun c =>
    (List.perm_insertionSort Candidate.Before m.found).mem_iff
  unfold Message.stored Message.IsFirst
  rw [mem_firstByKey_iff (pairwise_strict m)]
  simp only [hmem, List.not_mem_nil, not_false_eq_true, true_and]

theorem pairwise_stored : (m.stored u).Pairwise fun a b => a.Before b ∧ ¬ b.Before a :=
  (pairwise_strict m).sublist (firstByKey_sublist [] _)

/-! ## When the order is that of the message -/

theorem source_of_isFirst (h : m.IsFirst u c) (hbutton : c.source ≠ .button) :
    c.source = .text ∨ c.source = .entityTextUrl := by
  cases hsource : c.source with
  | text => exact Or.inl rfl
  | entityTextUrl => exact Or.inr rfl
  | entityUrl => exact absurd h (not_isFirst_of_entityUrl hsource)
  | button => exact absurd hsource hbutton

theorem Message.Overtakes.before (h : m.Overtakes a b) (ha : a ∈ m.found) (hb : b ∈ m.found) :
    a.Before b := by
  obtain ⟨hsource', -, h⟩ := h
  rcases h with ⟨hsource, hle⟩ | ⟨-, hposition, hposition', hlt⟩
  · have hlt := (sequence_lt_iff ha).2 hsource
    have hge : ¬ b.sequence < (textLinks m.text).length := by
      rw [sequence_lt_iff hb, hsource']
      nofun
    unfold Candidate.Before
    omega
  · exact Or.inr ⟨hposition.trans hposition'.symm, hlt.le⟩

/-- A link that is sorted before another and begins after it overtakes it. -/
theorem overtakes_of_before (ha : m.IsFirst u a) (hb : m.IsFirst u b)
    (hbutton : a.source ≠ .button) (hbutton' : b.source ≠ .button) (hbefore : a.Before b)
    (hstart : m.startOf b < m.startOf a) : m.Overtakes a b := by
  have hfits := fits_startOf ha.1
  have hfits' := fits_startOf hb.1
  have hne : a.sequence ≠ b.sequence := by
    intro hsame
    rw [eq_of_sequence ha.1 hb.1 hsame] at hstart
    exact lt_irrefl _ hstart
  unfold Candidate.Before at hbefore
  rcases source_of_isFirst ha hbutton with hsource | hsource <;>
    rcases source_of_isFirst hb hbutton' with hsource' | hsource' <;>
      rw [hsource] at hfits <;> rw [hsource'] at hfits'
  · -- two addresses of the text begin at their places
    have hplace : m.startOf a = a.position := hfits
    have hplace' : m.startOf b = b.position := hfits'
    omega
  · have hplace : m.startOf a = a.position := hfits
    exact ⟨hsource', hstart, Or.inl ⟨hsource, by omega⟩⟩
  · -- a text link begins no later than at its place
    obtain ⟨n, hposition, hn⟩ := hfits
    have hplace' : m.startOf b = b.position := hfits'
    have hle := Utf16.position_le m.text n
    omega
  · -- the offsets descend, so the places are the same only past the end
    obtain ⟨n, hposition, hn⟩ := hfits
    obtain ⟨n', hposition', hn'⟩ := hfits'
    have hdescend : n' < n := by
      by_contra hle
      have hmono := Utf16.position_mono m.text (Nat.le_of_not_lt hle)
      omega
    refine ⟨hsource', hstart, Or.inr ⟨hsource, ?_, ?_, ?_⟩⟩ <;> omega

/-- Of two links in a list in a strict order, the one before stands before the other. -/
theorem rel_of_pairwise {l : List Candidate} {R : Candidate → Candidate → Prop}
    (h : l.Pairwise fun a b => (a.Before b ∧ ¬ b.Before a) ∧ R a b) (ha : a ∈ l) (hb : b ∈ l)
    (hne : a ≠ b) (hbefore : a.Before b) : R a b := by
  induction l with
  | nil => cases ha
  | cons c l ih =>
    obtain ⟨hhead, htail⟩ := List.pairwise_cons.1 h
    rcases List.mem_cons.1 ha with rfl | hla
    · rcases List.mem_cons.1 hb with rfl | hlb
      · exact absurd rfl hne
      · exact (hhead b hlb).2
    · rcases List.mem_cons.1 hb with rfl | hlb
      · exact absurd hbefore (hhead a hla).1.2
      · exact ih htail hla hlb

/-- The links of an adapted message are those that are stored. -/
theorem links_of_adaptMessage {channelId : Text} {message : IncomingMessage}
    (h : adaptMessage u m channelId = some message) :
    message.links.map (fun link => (link.url, link.source)) =
      (m.stored u).map fun c => (c.url, c.source) := by
  obtain ⟨links, hlinks, h⟩ := Option.bind_eq_some_iff.1 h
  have hmessage : message.links = links := by
    split at h
    · rw [← Option.some.inj h]
    · cases h
  have hmap : ∀ (l : List (Candidate × Nat)) (links : List ExtractedLink),
      (l.mapM fun e => extractedLink e.1 e.2) = some links →
        links.map (fun link => (link.url, link.source)) = l.map fun e => (e.1.url, e.1.source) := by
    intro l
    induction l with
    | nil =>
      intro links h
      rw [List.mapM_nil] at h
      obtain rfl := Option.some.inj h
      rfl
    | cons e l ih =>
      intro links h
      rw [List.mapM_cons] at h
      obtain ⟨link, hlink, h⟩ := Option.bind_eq_some_iff.1 h
      obtain ⟨rest, hrest, h⟩ := Option.bind_eq_some_iff.1 h
      obtain rfl := Option.some.inj h
      unfold extractedLink at hlink
      split at hlink
      · obtain rfl := Option.some.inj hlink
        rw [List.map_cons, List.map_cons, ih rest hrest]
      · cases hlink
  have hpair : (fun e : Candidate × Nat => (e.1.url, e.1.source)) =
      (fun c : Candidate => (c.url, c.source)) ∘ Prod.fst := rfl
  rw [hmessage, hmap _ _ hlinks, hpair, ← List.map_map, List.zipIdx_map_fst]
  rfl

/-- **When links come out in message order**: exactly if no stored link overtakes another one. -/
theorem linksInOrder_iff (u : PyUnicode) (m : Message) :
    (∀ channelId message, adaptMessage u m channelId = some message →
      message.links.map (fun link => (link.url, link.source)) =
        (m.stored u).map fun c => (c.url, c.source)) ∧
      (m.LinksInOrder u ↔ ∀ a b, m.IsFirst u a → m.IsFirst u b → ¬ m.Overtakes a b) := by
  have hpair := pairwise_stored (u := u) (m := m)
  refine ⟨fun _ _ h => links_of_adaptMessage h, ?_⟩
  constructor
  · intro horder a b ha hb hovertakes
    have hsource : a.source ≠ .button ∧ b.source ≠ .button := by
      obtain ⟨hb', -, h⟩ := hovertakes
      refine ⟨?_, by rw [hb']; nofun⟩
      rcases h with ⟨ha', -⟩ | ⟨ha', -⟩ <;> rw [ha'] <;> nofun
    have hmem : ∀ c, m.IsFirst u c → c.source ≠ .button →
        c ∈ (m.stored u).filter fun c => c.source ≠ .button := fun c hc hbutton =>
      List.mem_filter.2 ⟨mem_stored.2 hc, decide_eq_true hbutton⟩
    have hle := rel_of_pairwise ((hpair.filter _).and horder) (hmem a ha hsource.1)
      (hmem b hb hsource.2) (fun heq => ?_) (hovertakes.before ha.1 hb.1)
    · exact absurd hovertakes.2.1 (Nat.not_lt.2 hle)
    · rw [heq] at hovertakes
      exact lt_irrefl _ hovertakes.2.1
  · intro hnone
    refine (hpair.filter _).imp_of_mem ?_
    rintro a b ha hb ⟨hbefore, -⟩
    obtain ⟨ha, hbutton⟩ := List.mem_filter.1 ha
    obtain ⟨hb, hbutton'⟩ := List.mem_filter.1 hb
    by_contra hlt
    exact hnone a b (mem_stored.1 ha) (mem_stored.1 hb) (overtakes_of_before (mem_stored.1 ha)
      (mem_stored.1 hb) (of_decide_eq_true hbutton) (of_decide_eq_true hbutton') hbefore
      (Nat.lt_of_not_le hlt))

/-- A text link behind three emoji, and an address after it. -/
def emojiMessage : Message where
  id := 1
  date := 0
  rawText := some (List.replicate 3 (Char.ofNat 0x1F600) ++ "x http://b.c".toList)
  media := none
  entitiesText := [(.textUrl "http://a.b".toList 6 1, "x".toList)]
  buttons := []

/-- The text link begins before the address, and is stored after it. -/
theorem not_linksInOrder_emojiMessage :
    (adaptMessage .ascii emojiMessage "c".toList).map (fun message =>
        message.links.map ExtractedLink.url) =
      some ["http://b.c".toList, "http://a.b".toList] ∧
    Utf16.position emojiMessage.text 6 = 3 ∧
    urlPattern.findIter emojiMessage.text = [(5, "http://b.c".toList)] ∧
    ¬ emojiMessage.LinksInOrder .ascii := by
  decide +kernel

end Telegram
end PromoBot
