import Mathlib.Algebra.BigOperators.Group.List.Basic
import Mathlib.Algebra.GroupWithZero.Nat
import PromoBot.Lib.UrlRoundTrip

/-!
# Query strings of pairs

A query written from pairs, the values quoted and the names as they are, and what
`parse_qsl` reads from it.  It reads the pairs that were written when every name is
*plain*: it has no `&` and no `=` in it, and reading it as quoted text changes nothing.

The converse holds too (`plain_of_perm_parseQsl`), and the reason is lengths.  Reading a
name never makes it longer; a `&`, a `=` or an escape in it makes the names that are read
shorter in sum; and a `+` that is read as a space is missing among the characters read.
-/

namespace PyUnicode

/-- What is asked of decoding UTF-8: encoded text is decoded to itself, and no character is
decoded from no byte. -/
structure DecodesUtf8 (u : PyUnicode) : Prop where
  decodeUtf8_utf8 : ∀ t : Text, u.decodeUtf8 (utf8 t) = t
  length_decodeUtf8 : ∀ bytes, (u.decodeUtf8 bytes).length ≤ bytes.length

/-- Bytes read as UTF-8.  Bytes that are not UTF-8 are all replaced, where the codec keeps
what it can. -/
def readUtf8 (bytes : List UInt8) : Text :=
  match bytes.toByteArray.utf8Decode? with
  | some chars => chars.toList
  | none => bytes.map fun _ => '\uFFFD'

/-- How Python treats ASCII text, with the bytes of any text read back. -/
def utf8Reader : PyUnicode := { ascii with decodeUtf8 := readUtf8 }

theorem length_le_length_utf8 (t : Text) : t.length ≤ (utf8 t).length := by
  induction t with
  | nil => exact Nat.le_refl 0
  | cons c t ih =>
    show t.length + 1 ≤ (String.utf8EncodeChar c ++ utf8 t).length
    have hsize := c.utf8Size_pos
    rw [List.length_append, String.length_utf8EncodeChar]
    omega

theorem utf8Reader_decodesUtf8 : utf8Reader.DecodesUtf8 where
  decodeUtf8_utf8 t := by
    have hread : (utf8 t).toByteArray.utf8Decode? = some t.toArray := List.utf8Decode?_utf8Encode
    show readUtf8 (utf8 t) = t
    rw [readUtf8, hread]
  length_decodeUtf8 bytes := by
    show (readUtf8 bytes).length ≤ bytes.length
    unfold readUtf8
    split
    · next chars hread =>
      -- The bytes that were read are those of what was read.
      have hsome : (bytes.toByteArray.utf8Decode?).isSome := by
        rw [hread]
        rfl
      have hencode : (utf8 chars.toList).toByteArray = bytes.toByteArray := by
        have hget : chars.toList.utf8Encode = bytes.toByteArray := by
          have hkept := ByteArray.utf8Encode_get_utf8Decode? (h := hsome)
          simpa only [hread, Option.get_some] using hkept
        exact hget
      have hbytes : utf8 chars.toList = bytes := by
        have hdata := congrArg (fun b => b.data.toList) hencode
        simpa using hdata
      rw [← hbytes]
      exact length_le_length_utf8 _
    · rw [List.length_map]

end PyUnicode

namespace PyUrl

open PyUnicode

variable (u : PyUnicode)

/-! ## Writing and splitting -/

/-- A pair on the wire, its name as it is. -/
def writePair (e : Text × Text) : Text := e.1 ++ '=' :: quotePlus e.2

/-- Pairs on the wire. -/
def writePairs (pairs : List (Text × Text)) : Text := ['&'].intercalate (pairs.map writePair)

theorem split_ne_nil (sep : Char) (t : Text) : t.split sep ≠ [] := by
  induction t with
  | nil => exact List.cons_ne_nil _ _
  | cons c t ih =>
    unfold Text.split
    split
    · exact List.cons_ne_nil _ _
    · split
      · exact List.cons_ne_nil _ _
      · exact List.cons_ne_nil _ _

/-- Splitting at a separator that stands between two texts splits both. -/
theorem split_append_cons (sep : Char) (a b : Text) :
    Text.split sep (a ++ sep :: b) = a.split sep ++ b.split sep := by
  induction a with
  | nil =>
    show (if sep = sep then [] :: Text.split sep b else _) = [[]] ++ Text.split sep b
    rw [if_pos rfl]
    rfl
  | cons c a ih =>
    rw [List.cons_append, Text.split, Text.split, ih]
    split
    · rfl
    · cases ha : Text.split sep a with
      | nil => exact absurd ha (split_ne_nil sep a)
      | cons part parts => rfl

/-- Reading a query whose parts are joined by `&` reads the parts. -/
theorem parseQsl_append_cons (a b : Text) :
    parseQsl u (a ++ '&' :: b) = parseQsl u a ++ parseQsl u b := by
  rw [parseQsl, split_append_cons, List.filter_append, List.map_append]
  rfl

theorem parseQsl_writePairs (pairs : List (Text × Text)) :
    parseQsl u (writePairs pairs) = pairs.flatMap fun e => parseQsl u (writePair e) := by
  unfold writePairs
  induction pairs with
  | nil => rfl
  | cons e pairs ih =>
    cases pairs with
    | nil =>
      rw [List.flatMap_cons, List.flatMap_nil, List.append_nil]
      congr 1
      exact List.append_nil _
    | cons e' pairs =>
      rw [List.flatMap_cons, ← ih, ← parseQsl_append_cons]
      rfl

/-! ## Plain names -/

/-- The name is read as it is written. -/
def PlainName (name : Text) : Prop := '&' ∉ name ∧ '=' ∉ name ∧ unquotePlus u name = name

instance (name : Text) : Decidable (PlainName u name) := inferInstanceAs (Decidable (_ ∧ _))

/-- A name without any of the characters a query gives a meaning to. -/
theorem plainName_of_not_mem {name : Text} (h : ∀ c ∈ name, c ∉ ['&', '=', '%', '+']) :
    PlainName u name := by
  have hnone : ∀ c : Char, c ∈ ['&', '=', '%', '+'] → c ∉ name := fun c hc hmem => h c hmem hc
  have hunplus : name.map unplus = name := by
    refine (List.map_congr_left fun c hc => ?_).trans (List.map_id name)
    rw [unplus, if_neg]
    · rfl
    · rintro rfl
      exact hnone '+' (by decide) hc
  have hread : unquotePlus u name =
      if '%' ∈ name.map unplus then unquoteFrom u (name.map unplus) [] else name.map unplus := rfl
  refine ⟨hnone '&' (by decide), hnone '=' (by decide), ?_⟩
  rw [hread, hunplus, if_neg (hnone '%' (by decide))]

/-- The characters of a written query are those of its names and of its quoted values. -/
theorem mem_writePairs {pairs : List (Text × Text)} {c : Char} (h : c ∈ writePairs pairs) :
    c = '&' ∨ c = '=' ∨ ∃ e ∈ pairs, c ∈ e.1 ∨ c ∈ quotePlus e.2 := by
  unfold writePairs at h
  induction pairs with
  | nil => cases h
  | cons e pairs ih =>
    have hpair : c ∈ writePair e → c = '&' ∨ c = '=' ∨ ∃ e' ∈ e :: pairs, c ∈ e'.1 ∨
        c ∈ quotePlus e'.2 := by
      intro hc
      rcases List.mem_append.1 hc with hc | hc
      · exact Or.inr (Or.inr ⟨e, List.mem_cons_self, Or.inl hc⟩)
      · rcases List.mem_cons.1 hc with rfl | hc
        · exact Or.inr (Or.inl rfl)
        · exact Or.inr (Or.inr ⟨e, List.mem_cons_self, Or.inr hc⟩)
    cases pairs with
    | nil =>
      refine hpair ?_
      rwa [List.map_singleton, List.intercalate_singleton] at h
    | cons e' pairs =>
      rw [List.map_cons, List.map_cons, List.intercalate_cons_cons] at h
      rcases List.mem_append.1 h with h | h
      · rcases List.mem_append.1 h with h | h
        · exact hpair h
        · exact Or.inl (List.mem_singleton.1 h)
      · rcases ih h with h | h | ⟨e'', he'', h⟩
        · exact Or.inl h
        · exact Or.inr (Or.inl h)
        · exact Or.inr (Or.inr ⟨e'', List.mem_cons_of_mem e he'', h⟩)

/-- **A relative address with a query is split at its question mark.** -/
theorem urlsplit_relative {path query : Text} (hslash : path.head? ≠ some '/')
    (hpath : ∀ c ∈ path, c ∉ ['?', '#', '\t', '\r', '\n'])
    (hquery : ∀ c ∈ query, c ∉ ['#', '\t', '\r', '\n']) :
    urlsplit u ('/' :: path ++ '?' :: query) = some ⟨[], [], '/' :: path, query, []⟩ := by
  have hsafe : ∀ c ∈ '/' :: path ++ '?' :: query, c ∉ ['#', '\t', '\r', '\n'] := by
    intro c hc
    rcases List.mem_append.1 hc with hc | hc
    · rcases List.mem_cons.1 hc with rfl | hc
      · decide
      · exact fun hmem => hpath c hc (List.mem_cons_of_mem _ hmem)
    · rcases List.mem_cons.1 hc with rfl | hc
      · decide
      · exact hquery c hc
  have hclean : cleaned ('/' :: path ++ '?' :: query) = '/' :: path ++ '?' :: query := by
    show List.filter _ ('/' :: path ++ '?' :: query) = _
    refine List.filter_eq_self.2 fun c hc => ?_
    have hc := hsafe c hc
    simp only [List.mem_cons, List.not_mem_nil, or_false, not_or] at hc
    simp [isUnsafe, hc]
  have hscheme : splitScheme u ('/' :: path ++ '?' :: query) =
      ([], '/' :: path ++ '?' :: query) := by
    unfold splitScheme
    split
    · next c scheme rest hpartition =>
      have hhead : c = '/' := by
        rw [List.cons_append, Text.partition, if_neg (by decide)] at hpartition
        exact (List.cons.inj (Prod.mk.inj hpartition).1).1.symm
      subst hhead
      rfl
    · rfl
  have hauthority : splitAuthority u ('/' :: path ++ '?' :: query) =
      some ([], '/' :: path ++ '?' :: query) := by
    unfold splitAuthority
    split
    · next rest heq =>
      cases path with
      | nil => cases heq
      | cons c path => exact absurd (congrArg some (List.cons.inj (List.cons.inj heq).2).1) hslash
    · rfl
  have hfragment : '#' ∉ '/' :: path ++ '?' :: query := fun h => hsafe _ h (by decide)
  have hquestion : '?' ∉ '/' :: path := by
    intro h
    rcases List.mem_cons.1 h with h | h
    · cases h
    · exact hpath _ h (by decide)
  unfold urlsplit
  rw [hclean, hscheme]
  show (splitAuthority u ('/' :: path ++ '?' :: query)).bind _ = _
  rw [hauthority, Option.bind_some]
  dsimp only
  rw [partition_of_not_mem hfragment, Text.partition_append_cons _ hquestion]
  rfl

/-- A pair whose name has no separators is read as one pair. -/
theorem parseQsl_writePair (hu : u.DecodesUtf8) {name : Text} (value : Text) (hamp : '&' ∉ name)
    (heq : '=' ∉ name) : parseQsl u (writePair (name, value)) = [(unquotePlus u name, value)] := by
  have hwhole : '&' ∉ writePair (name, value) := by
    intro h
    rcases List.mem_append.1 h with h | h
    · exact hamp h
    · rcases List.mem_cons.1 h with h | h
      · cases h
      · exact (plain_of_mem_quotePlus h).2 List.mem_cons_self
  have hne : writePair (name, value) ≠ [] := List.append_ne_nil_of_right_ne_nil _ (List.cons_ne_nil _ _)
  rw [parseQsl, split_of_not_mem hwhole, List.filter_cons, if_pos (by simpa using hne),
    List.filter_nil, List.map_singleton]
  dsimp only
  rw [writePair, Text.partition_append_cons _ heq, Option.getD_some,
    unquotePlus_quotePlus u (hu.decodeUtf8_utf8 value)]

/-- **Pairs with plain names are read as they were written.** -/
theorem parseQsl_writePairs_of_plain (hu : u.DecodesUtf8) {pairs : List (Text × Text)}
    (h : ∀ e ∈ pairs, PlainName u e.1) : parseQsl u (writePairs pairs) = pairs := by
  rw [parseQsl_writePairs]
  induction pairs with
  | nil => rfl
  | cons e pairs ih =>
    obtain ⟨hamp, heq, hname⟩ := h e List.mem_cons_self
    rw [List.flatMap_cons, parseQsl_writePair u hu e.2 hamp heq, hname,
      ih fun e' he' => h e' (List.mem_cons_of_mem e he')]
    rfl

/-! ## Lengths -/

/-- The characters of the names of some pairs. -/
def nameLength (pairs : List (Text × Text)) : Nat := (pairs.map fun e => e.1.length).sum

theorem nameLength_append (l l' : List (Text × Text)) :
    nameLength (l ++ l') = nameLength l + nameLength l' := by
  rw [nameLength, List.map_append, List.sum_append]
  rfl

theorem length_unquoteToBytes_le (t : Text) : (unquoteToBytes t).length ≤ t.length := by
  induction t using unquoteToBytes.induct with
  | case1 a b t x y hx hy ih =>
    rw [unquoteToBytes, hx, hy]
    simp only [List.length_cons]
    omega
  | case2 a b t h ih =>
    have hread : unquoteToBytes ('%' :: a :: b :: t) =
        UInt8.ofNat '%'.toNat :: unquoteToBytes (a :: b :: t) := by
      rw [unquoteToBytes]
      split
      · next x y hx hy => exact absurd hy (h x y hx)
      · rfl
    rw [hread]
    simp only [List.length_cons] at ih ⊢
    omega
  | case3 c t h ih =>
    rw [unquoteToBytes]
    · simp only [List.length_cons]
      omega
    · exact h
  | case4 => exact Nat.le_refl 0

/-- Text that is read as as many bytes has no escape in it. -/
theorem unquoteToBytes_of_length {t : Text} (h : (unquoteToBytes t).length = t.length) :
    unquoteToBytes t = t.map fun c => UInt8.ofNat c.toNat := by
  induction t using unquoteToBytes.induct with
  | case1 a b t x y hx hy ih =>
    have hle := length_unquoteToBytes_le t
    rw [unquoteToBytes, hx, hy] at h
    simp only [List.length_cons] at h
    omega
  | case2 a b t hnone ih =>
    have hread : unquoteToBytes ('%' :: a :: b :: t) =
        UInt8.ofNat '%'.toNat :: unquoteToBytes (a :: b :: t) := by
      rw [unquoteToBytes]
      split
      · next x y hx hy => exact absurd hy (hnone x y hx)
      · rfl
    rw [hread] at h ⊢
    rw [List.length_cons, List.length_cons, Nat.add_right_cancel_iff] at h
    rw [ih h]
    rfl
  | case3 c t hc ih =>
    rw [unquoteToBytes] at h ⊢
    · rw [List.length_cons, List.length_cons, Nat.add_right_cancel_iff] at h
      rw [ih h, List.map_cons]
    · exact hc
    · exact hc
  | case4 => rfl

theorem utf8_of_ascii {t : Text} (h : ∀ c ∈ t, c.toNat < 128) :
    utf8 t = t.map fun c => UInt8.ofNat c.toNat := by
  induction t with
  | nil => rfl
  | cons c t ih =>
    rw [List.map_cons, ← ih fun d hd => h d (List.mem_cons_of_mem c hd)]
    show String.utf8EncodeChar c ++ utf8 t = _
    rw [utf8EncodeChar_of_lt (h c List.mem_cons_self)]
    rfl

theorem length_unquoteFrom_le (hu : u.DecodesUtf8) (t run : Text) :
    (unquoteFrom u t run).length ≤ run.length + t.length := by
  have hrun : ∀ run : Text, (u.decodeUtf8 (unquoteToBytes run.reverse)).length ≤ run.length := by
    intro run
    refine le_trans (hu.length_decodeUtf8 _) (le_trans (length_unquoteToBytes_le _) ?_)
    rw [List.length_reverse]
  induction t generalizing run with
  | nil => exact hrun run
  | cons c t ih =>
    unfold unquoteFrom
    split
    · refine le_trans (ih (c :: run)) ?_
      simp only [List.length_cons]
      omega
    · have hrest := ih []
      rw [List.length_append, List.length_cons, List.length_cons]
      have := hrun run
      rw [List.length_nil] at hrest
      omega

/-- Text that is read as text of the same length is read as itself. -/
theorem unquoteFrom_of_length (hu : u.DecodesUtf8) {t run : Text}
    (hrun : ∀ c ∈ run, c.toNat < 128)
    (h : (unquoteFrom u t run).length = run.length + t.length) :
    unquoteFrom u t run = run.reverse ++ t := by
  have hread : ∀ run : Text, (∀ c ∈ run, c.toNat < 128) →
      (u.decodeUtf8 (unquoteToBytes run.reverse)).length = run.length →
      u.decodeUtf8 (unquoteToBytes run.reverse) = run.reverse := by
    intro run hrun hlength
    have hbytes : (unquoteToBytes run.reverse).length = run.reverse.length := by
      have hle := length_unquoteToBytes_le run.reverse
      have hdecode := hu.length_decodeUtf8 (unquoteToBytes run.reverse)
      rw [List.length_reverse] at hle ⊢
      omega
    rw [unquoteToBytes_of_length hbytes,
      ← utf8_of_ascii fun c hc => hrun c (List.mem_reverse.1 hc), hu.decodeUtf8_utf8]
  induction t generalizing run with
  | nil =>
    rw [List.append_nil]
    exact hread run hrun h
  | cons c t ih =>
    by_cases hc : c.toNat < 128
    · rw [unquoteFrom, if_pos hc] at h ⊢
      have hlonger : ∀ d ∈ c :: run, d.toNat < 128 := List.forall_mem_cons.2 ⟨hc, hrun⟩
      rw [ih hlonger (by rw [h]; simp only [List.length_cons]; omega), List.reverse_cons,
        List.append_assoc, List.singleton_append]
    · rw [unquoteFrom, if_neg hc] at h ⊢
      have hfirst : (u.decodeUtf8 (unquoteToBytes run.reverse)).length ≤ run.length := by
        refine le_trans (hu.length_decodeUtf8 _) (le_trans (length_unquoteToBytes_le _) ?_)
        rw [List.length_reverse]
      have hrest := length_unquoteFrom_le u hu t []
      rw [List.length_append, List.length_cons, List.length_cons] at h
      rw [List.length_nil] at hrest
      have hnone : ∀ d ∈ ([] : Text), d.toNat < 128 := List.forall_mem_nil _
      rw [hread run hrun (by omega), ih hnone (by rw [List.length_nil]; omega)]
      rfl

theorem length_unquotePlus_le (hu : u.DecodesUtf8) (t : Text) :
    (unquotePlus u t).length ≤ t.length := by
  unfold unquotePlus
  dsimp only
  split
  · have := length_unquoteFrom_le u hu (t.map unplus) []
    rwa [List.length_map, List.length_nil, Nat.zero_add] at this
  · rw [List.length_map]

/-- A name that is read as a name of the same length has at most its `+` changed. -/
theorem unquotePlus_of_length (hu : u.DecodesUtf8) {t : Text}
    (h : (unquotePlus u t).length = t.length) : unquotePlus u t = t.map unplus := by
  unfold unquotePlus at h ⊢
  dsimp only at h ⊢
  split at h
  · next hpercent =>
    rw [if_pos hpercent]
    have hnone : ∀ d ∈ ([] : Text), d.toNat < 128 := List.forall_mem_nil _
    refine unquoteFrom_of_length u hu hnone ?_
    rw [h, List.length_nil, Nat.zero_add, List.length_map]
  · next hpercent =>
    rw [if_neg hpercent]
    rfl

/-! ## The names that are read -/

theorem length_partition_fst_le (sep : Char) (t : Text) :
    (Text.partition sep t).1.length ≤ t.length := by
  induction t with
  | nil => exact Nat.le_refl 0
  | cons c t ih =>
    unfold Text.partition
    split
    · exact Nat.zero_le _
    · exact Nat.succ_le_succ ih

theorem nameLength_parseQsl_of_not_mem (hu : u.DecodesUtf8) {t : Text} (h : '&' ∉ t) :
    nameLength (parseQsl u t) ≤ (Text.partition '=' t).1.length := by
  rw [parseQsl, split_of_not_mem h]
  by_cases hnil : t = []
  · rw [List.filter_cons, if_neg (by simpa using hnil)]
    exact Nat.zero_le _
  · rw [List.filter_cons, if_pos (by simpa using hnil)]
    exact length_unquotePlus_le u hu _

/-- Reading a query makes no name longer. -/
theorem nameLength_parseQsl_le (hu : u.DecodesUtf8) (t : Text) :
    nameLength (parseQsl u t) ≤ t.length := by
  induction hn : t.length using Nat.strong_induction_on generalizing t with
  | _ n ih =>
    by_cases hamp : '&' ∈ t
    · obtain ⟨a, b, rfl, ha⟩ := List.eq_append_cons_of_mem hamp
      have hlength : a.length + (b.length + 1) = n := by
        rw [← hn, List.length_append, List.length_cons]
      rw [parseQsl_append_cons, nameLength_append]
      have hleft := ih a.length (by omega) a rfl
      have hright := ih b.length (by omega) b rfl
      omega
    · rw [← hn]
      exact le_trans (nameLength_parseQsl_of_not_mem u hu hamp) (length_partition_fst_le '=' t)

/-- **What is read of a pair has no longer names**, and shorter ones where the name has a
separator in it. -/
theorem nameLength_writePair (hu : u.DecodesUtf8) (name value : Text) :
    nameLength (parseQsl u (writePair (name, value))) ≤ name.length ∧
      ('&' ∈ name ∨ '=' ∈ name →
        nameLength (parseQsl u (writePair (name, value))) < name.length) := by
  induction hn : name.length using Nat.strong_induction_on generalizing name with
  | _ n ih =>
    by_cases hamp : '&' ∈ name
    · obtain ⟨a, b, rfl, ha⟩ := List.eq_append_cons_of_mem hamp
      have hlength : a.length + (b.length + 1) = n := by
        rw [← hn, List.length_append, List.length_cons]
      have hwrite : writePair (a ++ '&' :: b, value) = a ++ '&' :: writePair (b, value) := by
        rw [writePair, List.append_assoc]
        rfl
      have hleft := nameLength_parseQsl_le u hu a
      have hright := (ih b.length (by omega) b rfl).1
      rw [hwrite, parseQsl_append_cons, nameLength_append]
      exact ⟨by omega, fun _ => by omega⟩
    · have hwhole : '&' ∉ writePair (name, value) := by
        intro h
        rcases List.mem_append.1 h with h | h
        · exact hamp h
        · rcases List.mem_cons.1 h with h | h
          · cases h
          · exact (plain_of_mem_quotePlus h).2 List.mem_cons_self
      have hle := nameLength_parseQsl_of_not_mem u hu hwhole
      by_cases heq : '=' ∈ name
      · obtain ⟨a, b, rfl, ha⟩ := List.eq_append_cons_of_mem heq
        have hwrite : writePair (a ++ '=' :: b, value) = a ++ '=' :: writePair (b, value) := by
          rw [writePair, List.append_assoc]
          rfl
        rw [hwrite, Text.partition_append_cons _ ha] at hle
        replace hle : _ ≤ a.length := hle
        rw [hwrite]
        rw [List.length_append, List.length_cons] at hn
        exact ⟨by omega, fun _ => by omega⟩
      · rw [writePair, Text.partition_append_cons _ heq] at hle
        refine ⟨hn ▸ hle, fun h => ?_⟩
        exact absurd h (not_or.2 ⟨hamp, heq⟩)

/-- Where a sum is as large as a sum of bounds, every bound is reached. -/
theorem eq_of_sum_eq {α : Type*} {f g : α → Nat} {l : List α} (hle : ∀ a ∈ l, f a ≤ g a)
    (hsum : (l.map f).sum = (l.map g).sum) : ∀ a ∈ l, f a = g a := by
  have hmono : ∀ l : List α, (∀ a ∈ l, f a ≤ g a) → (l.map f).sum ≤ (l.map g).sum := by
    intro l hle
    induction l with
    | nil => exact Nat.le_refl 0
    | cons a l ih =>
      obtain ⟨ha, hl⟩ := List.forall_mem_cons.1 hle
      rw [List.map_cons, List.map_cons, List.sum_cons, List.sum_cons]
      exact Nat.add_le_add ha (ih hl)
  induction l with
  | nil => exact fun a ha => absurd ha List.not_mem_nil
  | cons a l ih =>
    obtain ⟨ha, hl⟩ := List.forall_mem_cons.1 hle
    rw [List.map_cons, List.map_cons, List.sum_cons, List.sum_cons] at hsum
    have hrest := hmono l hl
    refine List.forall_mem_cons.2 ⟨by omega, ih hl (by omega)⟩

theorem nameLength_flatMap {α : Type*} (f : α → List (Text × Text)) (l : List α) :
    nameLength (l.flatMap f) = (l.map fun a => nameLength (f a)).sum := by
  induction l with
  | nil => rfl
  | cons a l ih => rw [List.flatMap_cons, nameLength_append, ih, List.map_cons, List.sum_cons]

theorem nameLength_perm {l l' : List (Text × Text)} (h : l.Perm l') :
    nameLength l = nameLength l' :=
  (h.map _).sum_eq

/-- **Only plain names are read as they were written.** -/
theorem plain_of_perm_parseQsl (hu : u.DecodesUtf8) {pairs : List (Text × Text)}
    (h : (parseQsl u (writePairs pairs)).Perm pairs) : ∀ e ∈ pairs, PlainName u e.1 := by
  rw [parseQsl_writePairs] at h
  have hlengths : ∀ e ∈ pairs, nameLength (parseQsl u (writePair e)) = e.1.length := by
    refine eq_of_sum_eq (fun e _ => (nameLength_writePair u hu e.1 e.2).1) ?_
    rw [← nameLength_flatMap]
    exact nameLength_perm h
  have hnone : ∀ e ∈ pairs, '&' ∉ e.1 ∧ '=' ∉ e.1 := by
    intro e he
    have hstrict := (nameLength_writePair u hu e.1 e.2).2
    rw [show writePair (e.1, e.2) = writePair e from rfl, hlengths e he] at hstrict
    exact not_or.1 fun hmem => absurd (hstrict hmem) (Nat.lt_irrefl _)
  -- Nothing but a `+` can have changed.
  have hread : ∀ e ∈ pairs, parseQsl u (writePair e) = [(e.1.map unplus, e.2)] := by
    intro e he
    have hpair := parseQsl_writePair u hu e.2 (hnone e he).1 (hnone e he).2
    have hlength := hlengths e he
    rw [show writePair e = writePair (e.1, e.2) from rfl] at hlength ⊢
    rw [hpair] at hlength ⊢
    have hsame : (unquotePlus u e.1).length = e.1.length := by
      rw [nameLength, List.map_singleton, List.sum_singleton] at hlength
      exact hlength
    rw [unquotePlus_of_length u hu hsame]
  have hmap : (pairs.map fun e => (e.1.map unplus, e.2)).Perm pairs := by
    have hflat : (pairs.flatMap fun e => parseQsl u (writePair e)) =
        pairs.map fun e => (e.1.map unplus, e.2) := by
      rw [List.map_eq_flatMap]
      exact List.flatMap_congr hread
    rwa [hflat] at h
  have hplus : ∀ e ∈ pairs, '+' ∉ e.1 := by
    intro e he hmem
    obtain ⟨e', he', heq⟩ := List.mem_map.1 (hmap.symm.subset he)
    rw [← heq] at hmem
    obtain ⟨c, -, hc⟩ := List.mem_map.1 hmem
    unfold unplus at hc
    split at hc
    · cases hc
    · next hne => exact hne hc
  intro e he
  refine ⟨(hnone e he).1, (hnone e he).2, ?_⟩
  have hpair := parseQsl_writePair u hu e.2 (hnone e he).1 (hnone e he).2
  have hunplus : e.1.map unplus = e.1 := by
    refine (List.map_congr_left fun c hc => ?_).trans (List.map_id e.1)
    rw [unplus, if_neg]
    · rfl
    · rintro rfl
      exact hplus e he hc
  have hsame := hpair.symm.trans (hread e he)
  rw [hunplus] at hsame
  exact (Prod.mk.inj (List.cons.inj hsame).1).1

end PyUrl
