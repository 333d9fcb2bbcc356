import PromoBot.Lib.PyUrl

/-!
# Addresses and queries that are read back

`PyUnicode` leaves open how a Python treats text.  `PyUnicode.Standard` says as
much of it as reading an address back takes: ASCII letters are lowered one by
one, and decoding the UTF-8 bytes of a text gives the text back.

With it, `urlsplit` takes an address apart into what it was written from, and
`parse_qsl` gives back the key and the value `urlencode` wrote.
-/

namespace PyUnicode

/-- The UTF-8 bytes of a text. -/
def utf8 (t : Text) : List UInt8 := t.flatMap String.utf8EncodeChar

/-- What reading an address back asks of the Unicode tables and codecs. -/
structure Standard (u : PyUnicode) : Prop where
  lower_ascii : ∀ t : Text, t.isAscii = true → u.lower t = t.map Char.toLower
  casefold_ascii : ∀ t : Text, t.isAscii = true → u.casefold t = t.map Char.toLower
  decodeUtf8_utf8 : ∀ t : Text, (∀ c ∈ t, c.toNat < 128 ∨ u.isDigit c = true) →
    u.decodeUtf8 (utf8 t) = t

theorem utf8EncodeChar_of_lt {c : Char} (h : c.toNat < 128) :
    String.utf8EncodeChar c = [UInt8.ofNat c.toNat] := by
  have hval : c.val ≤ 127 := by
    rw [UInt32.le_iff_toNat_le]
    exact Nat.le_of_lt_succ h
  rw [String.utf8EncodeChar_eq_singleton (by simp [Char.utf8Size, hval])]
  rfl

theorem isAsciiDigit_lt {c : Char} (h : Text.isAsciiDigit c = true) : c.toNat < 128 := by
  have h9 : c ≤ '9' := by
    rw [Text.isAsciiDigit, Bool.and_eq_true, decide_eq_true_eq, decide_eq_true_eq] at h
    exact h.2
  have hle : c.toNat ≤ ('9' : Char).toNat := h9
  have : ('9' : Char).toNat = 57 := rfl
  omega

/-- ASCII text is treated as it should be. -/
theorem ascii_standard : ascii.Standard where
  lower_ascii _ _ := rfl
  casefold_ascii _ _ := rfl
  decodeUtf8_utf8 t ht := by
    have hbyte : ∀ c ∈ t, c.toNat < 128 := fun c hc => (ht c hc).elim id isAsciiDigit_lt
    clear ht
    induction t with
    | nil => rfl
    | cons c t ih =>
      have hc : c.toNat < 128 := hbyte c List.mem_cons_self
      have htoNat : (UInt8.ofNat c.toNat).toNat = c.toNat := by
        rw [UInt8.toNat_ofNat']
        omega
      have hlt : UInt8.ofNat c.toNat < 128 := by
        rw [UInt8.lt_iff_toNat_lt, htoNat]
        exact hc
      have hrest : ascii.decodeUtf8 (utf8 t) = t :=
        ih fun d hd => hbyte d (List.mem_cons_of_mem c hd)
      show ascii.decodeUtf8 (String.utf8EncodeChar c ++ utf8 t) = c :: t
      rw [utf8EncodeChar_of_lt hc]
      show (if UInt8.ofNat c.toNat < 128 then Char.ofNat (UInt8.ofNat c.toNat).toNat
        else '\uFFFD') :: ascii.decodeUtf8 (utf8 t) = c :: t
      rw [if_pos hlt, htoNat, Char.ofNat_toNat, hrest]

end PyUnicode

namespace PyUrl

open PyUnicode

variable (u : PyUnicode)

/-! ## Quoting -/

theorem isAlwaysSafe_lt {c : Char} (h : isAlwaysSafe c = true) : c.toNat < 128 ∧ c ≠ '%' := by
  constructor
  · by_contra hge
    have hlarge : ∀ d : Char, d.toNat < 128 → c ≠ d := by
      rintro d hd rfl
      exact hge hd
    have hdigit : Text.isAsciiDigit c = false := by
      by_contra hd
      exact hge (isAsciiDigit_lt (Bool.not_eq_false _ ▸ hd))
    have hletter : Text.isAsciiLetter c = false := by
      have hz : ¬ c ≤ 'z' := fun hle => hge (lt_of_le_of_lt (Char.le_def.1 hle) (by decide))
      have hZ : ¬ c ≤ 'Z' := fun hle => hge (lt_of_le_of_lt (Char.le_def.1 hle) (by decide))
      simp [Text.isAsciiLetter, hz, hZ]
    rw [isAlwaysSafe, hdigit, hletter] at h
    simp [hlarge '_' (by decide), hlarge '.' (by decide), hlarge '-' (by decide),
      hlarge '~' (by decide)] at h
  · rintro rfl
    exact absurd h (by decide)

theorem hexValue_hexDigit {n : Nat} (h : n < 16) : hexValue (hexDigit n) = some n := by
  have hall : ∀ k : Fin 16, hexValue (hexDigit k) = some k.val := by decide
  exact hall ⟨n, h⟩

theorem unquoteToBytes_escape (b : UInt8) (t : Text) :
    unquoteToBytes ('%' :: hexDigit (b.toNat / 16) :: hexDigit (b.toNat % 16) :: t) =
      b :: unquoteToBytes t := by
  have hb : b.toNat < 256 := b.toNat_lt_size
  rw [unquoteToBytes, hexValue_hexDigit (by omega), hexValue_hexDigit (Nat.mod_lt _ (by omega))]
  show UInt8.ofNat (16 * (b.toNat / 16) + b.toNat % 16) :: unquoteToBytes t = _
  rw [Nat.div_add_mod, UInt8.ofNat_toNat]

theorem unquoteToBytes_escapes (bytes : List UInt8) (t : Text) :
    unquoteToBytes ((bytes.flatMap fun b =>
      ['%', hexDigit (b.toNat / 16), hexDigit (b.toNat % 16)]) ++ t) =
        bytes ++ unquoteToBytes t := by
  induction bytes with
  | nil => rfl
  | cons b bytes ih =>
    rw [List.flatMap_cons, List.append_assoc, List.cons_append, List.cons_append,
      List.cons_append, List.nil_append, unquoteToBytes_escape, ih, List.cons_append]

theorem unquoteToBytes_cons {c : Char} (h : c ≠ '%') (t : Text) :
    unquoteToBytes (c :: t) = UInt8.ofNat c.toNat :: unquoteToBytes t := by
  rw [unquoteToBytes]
  rintro a b t' hc -
  exact h hc

/-- `+` read as the space it stands for. -/
def unplus (c : Char) : Char := if c = '+' then ' ' else c

theorem hexDigit_plain {n : Nat} (h : n < 16) :
    (hexDigit n).toNat < 128 ∧ hexDigit n ∉ ['+', '&', '=', '#', '\t', '\r', '\n'] := by
  have hall : ∀ k : Fin 16, (hexDigit k).toNat < 128 ∧
      hexDigit k ∉ ['+', '&', '=', '#', '\t', '\r', '\n'] := by decide
  exact hall ⟨n, h⟩

/-- The characters a quoted text is made of: none of them ends a query or a part of it. -/
theorem plain_of_mem_quoteChar {c d : Char} (h : d ∈ quoteChar c) :
    d.toNat < 128 ∧ d ∉ ['&', '=', '#', '\t', '\r', '\n'] := by
  unfold quoteChar at h
  split at h
  · next hsafe =>
    rw [List.mem_singleton.1 h]
    refine ⟨(isAlwaysSafe_lt hsafe).1, fun hmem => ?_⟩
    have hreserved : ∀ e ∈ ['&', '=', '#', '\t', '\r', '\n'], isAlwaysSafe e = false := by decide
    rw [hreserved c hmem] at hsafe
    cases hsafe
  · split at h
    · rw [List.mem_singleton.1 h]
      decide
    · obtain ⟨b, -, hd⟩ := List.mem_flatMap.1 h
      have hb : b.toNat < 256 := b.toNat_lt_size
      have hsub : ∀ e : Char, e ∉ ['+', '&', '=', '#', '\t', '\r', '\n'] →
          e ∉ ['&', '=', '#', '\t', '\r', '\n'] := fun e he hmem =>
        he (List.mem_cons_of_mem _ hmem)
      simp only [List.mem_cons, List.not_mem_nil, or_false] at hd
      rcases hd with rfl | rfl | rfl
      · decide
      · exact ⟨(hexDigit_plain (by omega)).1, hsub _ (hexDigit_plain (by omega)).2⟩
      · exact ⟨(hexDigit_plain (by omega)).1, hsub _ (hexDigit_plain (by omega)).2⟩

theorem plain_of_mem_quotePlus {t : Text} {d : Char} (h : d ∈ quotePlus t) :
    d.toNat < 128 ∧ d ∉ ['&', '=', '#', '\t', '\r', '\n'] := by
  obtain ⟨c, -, hd⟩ := List.mem_flatMap.1 h
  exact plain_of_mem_quoteChar hd

/-- What a quoted character looks like once its `+` is a space. -/
theorem map_unplus_quoteChar (c : Char) :
    ((quoteChar c).map unplus = [c] ∧ c ≠ '%' ∧ c.toNat < 128) ∨
      (quoteChar c).map unplus = (String.utf8EncodeChar c).flatMap fun b =>
        ['%', hexDigit (b.toNat / 16), hexDigit (b.toNat % 16)] := by
  unfold quoteChar
  split
  · next hsafe =>
    obtain ⟨hlt, hpercent⟩ := isAlwaysSafe_lt hsafe
    have hplus : c ≠ '+' := by
      rintro rfl
      exact absurd hsafe (by decide)
    exact Or.inl ⟨by rw [List.map_singleton, unplus, if_neg hplus], hpercent, hlt⟩
  · split
    · next hspace =>
      subst hspace
      exact Or.inl ⟨rfl, by decide, by decide⟩
    · refine Or.inr ?_
      rw [List.map_flatMap]
      congr 1
      funext b
      have hb : b.toNat < 256 := b.toNat_lt_size
      have hdigit : ∀ n, n < 16 → unplus (hexDigit n) = hexDigit n := by
        intro n hn
        rw [unplus, if_neg]
        intro heq
        exact (hexDigit_plain hn).2 (heq ▸ List.mem_cons_self)
      rw [List.map_cons, List.map_cons, List.map_cons, hdigit _ (by omega), hdigit _ (by omega)]
      rfl

theorem unquoteToBytes_quotePlus (t : Text) :
    unquoteToBytes ((quotePlus t).map unplus) = utf8 t := by
  induction t with
  | nil => rfl
  | cons c t ih =>
    rw [quotePlus, List.flatMap_cons, List.map_append]
    show _ = String.utf8EncodeChar c ++ utf8 t
    rw [← ih, quotePlus]
    rcases map_unplus_quoteChar c with ⟨h, hpercent, hlt⟩ | h
    · rw [h, List.singleton_append, unquoteToBytes_cons hpercent, utf8EncodeChar_of_lt hlt,
        List.singleton_append]
    · rw [h, unquoteToBytes_escapes]

/-- A quoted text without escapes is the text. -/
theorem map_unplus_quotePlus {t : Text} (h : '%' ∉ (quotePlus t).map unplus) :
    (quotePlus t).map unplus = t := by
  induction t with
  | nil => rfl
  | cons c t ih =>
    rw [quotePlus, List.flatMap_cons, List.map_append] at h ⊢
    rw [List.mem_append, not_or] at h
    have hrest : (t.flatMap quoteChar).map unplus = t := ih h.2
    rcases map_unplus_quoteChar c with ⟨hc, -, -⟩ | hc
    · rw [hc, hrest, List.singleton_append]
    · refine absurd ?_ h.1
      rw [hc]
      cases hbytes : String.utf8EncodeChar c with
      | nil => exact absurd (hbytes ▸ String.length_utf8EncodeChar c) (by
          have := c.utf8Size_pos
          simp only [List.length_nil]
          omega)
      | cons b bytes => exact List.mem_cons_self

theorem unquoteFrom_ascii {t : Text} (h : ∀ c ∈ t, c.toNat < 128) (run : Text) :
    unquoteFrom u t run = u.decodeUtf8 (unquoteToBytes (run.reverse ++ t)) := by
  induction t generalizing run with
  | nil => rw [unquoteFrom, List.append_nil]
  | cons c t ih =>
    rw [unquoteFrom, if_pos (h c List.mem_cons_self),
      ih (fun d hd => h d (List.mem_cons_of_mem c hd)), List.reverse_cons, List.append_assoc,
      List.singleton_append]

/-- **What was quoted is read back.** -/
theorem unquotePlus_quotePlus {t : Text} (h : u.decodeUtf8 (utf8 t) = t) :
    unquotePlus u (quotePlus t) = t := by
  have hmap : (quotePlus t).map (fun c => if c = '+' then ' ' else c) =
      (quotePlus t).map unplus := rfl
  unfold unquotePlus
  rw [hmap]
  dsimp only
  split
  · have hascii : ∀ c ∈ (quotePlus t).map unplus, c.toNat < 128 := by
      intro c hc
      obtain ⟨d, hd, rfl⟩ := List.mem_map.1 hc
      unfold unplus
      split
      · decide
      · exact (plain_of_mem_quotePlus hd).1
    rw [unquoteFrom_ascii u hascii, List.reverse_nil, List.nil_append,
      unquoteToBytes_quotePlus, h]
  · next hpercent => exact map_unplus_quotePlus hpercent

theorem split_of_not_mem {sep : Char} {t : Text} (h : sep ∉ t) : t.split sep = [t] := by
  induction t with
  | nil => rfl
  | cons c t ih =>
    rw [List.mem_cons, not_or] at h
    rw [Text.split, if_neg (Ne.symm h.1), ih h.2]

/-- What is written for one key and one value. -/
theorem plain_of_mem_urlencodeOne {key value : Text} {d : Char} (h : d ∈ urlencodeOne key value) :
    d ∉ ['&', '#', '\t', '\r', '\n'] := by
  have hsub : ∀ e : Char, e ∉ ['&', '=', '#', '\t', '\r', '\n'] →
      e ∉ ['&', '#', '\t', '\r', '\n'] := by
    intro e he hmem
    refine he ?_
    revert hmem
    simp only [List.mem_cons, List.not_mem_nil, or_false]
    tauto
  rw [urlencodeOne, List.mem_append, List.mem_cons] at h
  rcases h with h | rfl | h
  · exact hsub d (plain_of_mem_quotePlus h).2
  · decide
  · exact hsub d (plain_of_mem_quotePlus h).2

/-- **The query of one key and one value is read back.** -/
theorem parseQsl_urlencodeOne {key value : Text} (hkey : u.decodeUtf8 (utf8 key) = key)
    (hvalue : u.decodeUtf8 (utf8 value) = value) :
    parseQsl u (urlencodeOne key value) = [(key, value)] := by
  have hamp : '&' ∉ urlencodeOne key value := fun h =>
    plain_of_mem_urlencodeOne h List.mem_cons_self
  have heq : '=' ∉ quotePlus key := fun h => (plain_of_mem_quotePlus h).2 (by decide)
  have hne : urlencodeOne key value ≠ [] := by
    intro h
    have : '=' ∈ urlencodeOne key value := by simp [urlencodeOne]
    rw [h] at this
    cases this
  rw [parseQsl, split_of_not_mem hamp, List.filter_cons, if_pos (by simpa using hne),
    List.filter_nil, List.map_singleton]
  dsimp only
  rw [urlencodeOne, Text.partition_append_cons _ heq, Option.getD_some,
    unquotePlus_quotePlus u hkey, unquotePlus_quotePlus u hvalue]

/-! ## Splitting what was written -/

theorem partition_of_not_mem {sep : Char} {t : Text} (h : sep ∉ t) :
    Text.partition sep t = (t, none) := by
  induction t with
  | nil => rfl
  | cons c t ih =>
    rw [List.mem_cons, not_or] at h
    rw [Text.partition, if_neg (Ne.symm h.1), ih h.2]

/-- A host name of letters, digits, dots and the like. -/
def PlainHost (host : Text) : Prop :=
  host ≠ [] ∧ ∀ c ∈ host, c.toNat < 128 ∧ isDelimiter c = false ∧ isUnsafe c = false ∧
    c ≠ '[' ∧ c ≠ ']'

instance (host : Text) : Decidable (PlainHost host) := inferInstanceAs (Decidable (_ ∧ _))

/-- **An address that was written is split into its parts.** -/
theorem urlsplit_https (hlower : u.lower "https".toList = "https".toList)
    {host path query : Text} (hhost : PlainHost host)
    (hpath : ∀ c ∈ path, c ≠ '?' ∧ c ≠ '#' ∧ isUnsafe c = false)
    (hquery : ∀ c ∈ query, c ≠ '#' ∧ isUnsafe c = false) :
    urlsplit u ("https:".toList ++ "//".toList ++ host ++ '/' :: path ++ queryPart query) =
      some ⟨"https".toList, host, '/' :: path, query, []⟩ := by
  obtain ⟨-, hplain⟩ := hhost
  have htail : ∀ c ∈ queryPart query, c ≠ '#' ∧ isUnsafe c = false := by
    intro c hc
    unfold queryPart at hc
    split at hc
    · rcases List.mem_cons.1 hc with rfl | hc
      · decide
      · exact hquery c hc
    · cases hc
  have hclean : cleaned ("https:".toList ++ "//".toList ++ host ++ '/' :: path ++
      queryPart query) =
        "https".toList ++ ':' :: ('/' :: '/' :: (host ++ '/' :: (path ++ queryPart query))) := by
    refine Eq.trans (b := ("https:".toList ++ "//".toList ++ host ++ '/' :: path ++
      queryPart query).filter fun c => !isUnsafe c) rfl ?_
    rw [List.filter_eq_self.2]
    · simp [List.append_assoc]
    intro c hc
    have hwritten : ∀ d ∈ "https://".toList, (!isUnsafe d) = true := by decide
    rw [List.mem_append, List.mem_append, List.mem_append, List.mem_cons] at hc
    rcases hc with ((hc | hc) | rfl | hc) | hc
    · exact hwritten c hc
    · simp [(hplain c hc).2.2.1]
    · decide
    · simp [(hpath c hc).2.2]
    · simp [(htail c hc).2]
  have hfit : bracketsFit u host = true := by
    have hopen : '[' ∉ host := fun h => (hplain _ h).2.2.2.1 rfl
    have hclose : ']' ∉ host := fun h => (hplain _ h).2.2.2.2 rfl
    simp [bracketsFit, hopen, hclose]
  have hascii : netlocFits u host = true := by
    have : host.isAscii = true := List.all_eq_true.2 fun c hc => by simpa using (hplain c hc).1
    simp [netlocFits, this]
  have hhash : '#' ∉ '/' :: path ++ queryPart query := by
    intro h
    rcases List.mem_append.1 h with h | h
    · rcases List.mem_cons.1 h with h | h
      · cases h
      · exact (hpath _ h).2.1 rfl
    · exact (htail _ h).1 rfl
  have hquestion : '?' ∉ '/' :: path := by
    intro h
    rcases List.mem_cons.1 h with h | h
    · cases h
    · exact (hpath _ h).1 rfl
  have hparts : Text.partition '?' ('/' :: path ++ queryPart query) =
      ('/' :: path, if query ≠ [] then some query else none) := by
    unfold queryPart
    split
    · exact Text.partition_append_cons _ hquestion
    · rw [List.append_nil, partition_of_not_mem hquestion]
  have hread : (if query ≠ [] then some query else none).getD [] = query := by
    by_cases h : query = [] <;> simp [h]
  have hscheme : splitScheme u (cleaned ("https:".toList ++ "//".toList ++ host ++ '/' :: path ++
      queryPart query)) =
        ("https".toList, '/' :: '/' :: (host ++ '/' :: (path ++ queryPart query))) := by
    rw [hclean, splitScheme, Text.partition_append_cons _ (by decide)]
    show (u.lower "https".toList, _) = _
    rw [hlower]
  unfold urlsplit
  rw [hscheme]
  dsimp only
  rw [splitAuthority, splitNetloc_append _ fun c hc => (hplain c hc).2.1, if_pos hfit,
    Option.bind_some]
  dsimp only
  rw [← List.cons_append, partition_of_not_mem hhash]
  dsimp only
  rw [hparts, if_pos hascii, hread, Option.getD_none]

end PyUrl
