import PromoBot.Lib.Preferred
import PromoBot.Stores.Canonical

/-!
# Canonicalizing a canonical address

A canonical address is written from a store, a product id and a variation (`canonicalUrlOf`),
by format strings and `urlencode`, and read again by the patterns and by `parse_qsl`.  Reading
undoes writing: an address that `canonicalize_store_url` answered is canonicalized to itself,
with the same store, id and variation.

The patterns are searched anywhere in a path and take the longest number, so what has to be
shown of each is which of its matches is *preferred*, not only what its matches look like.

Two facts about Unicode are needed beyond `PyUnicode.Standard`: the IDNA codec leaves ASCII
names whose labels are neither empty nor too long alone, and `str.upper` maps the characters of
an Amazon id one by one.

## Why canonical addresses are keys

The relay tells products apart by the hash of their canonical address, the tables by the store,
the id and the variation.  If an address of one product could be canonicalized in two ways, the
product would be sent twice; if two products had one canonical address, one of them would never
be sent.  And since addresses are stored in canonical form and canonicalized again by
migrations, by the converter and by the next message with the link, the form must be a fixed
point.  `canonicalizeStoreUrl_idempotent_injective` is these three facts, over all texts.

## One store at a time

Each store has its own patterns, some of them several, with different capture groups and an
address written in one way only.  The argument for each is the same and is in three parts: what
is found in a path has the shape of an id (`isExternalId_of_product`), an id of that shape is
found again in the path written for it (`product_canonicalPath`), and the query, if there is
one, gives back the variation.  Injectivity then needs nothing more: an identity is read off
its canonical address, so two identities cannot share one.
-/

/-! ## What is asked of Unicode -/

/-- `str.upper` of a character that `[A-Z0-9]` matches under `re.IGNORECASE`: the two
characters which are folded onto `i` and `s` from below are mapped to `I` and `S`. -/
def Text.upperLetter (c : Char) : Char :=
  if c = '\u0131' then 'I' else if c = '\u017F' then 'S' else c.toUpper

namespace PyUnicode

/-- What reading a canonical address back asks of the Unicode tables and codecs. -/
structure ReadsBack (u : PyUnicode) : Prop extends u.Standard where
  idna_ascii : ∀ t : Text, t.isAscii = true → labelsFit (t.split '.') = true → u.idna t = some t
  upper_alphanumeric : ∀ t : Text, (∀ c ∈ t, PromoBot.Urls.isAlphanumeric c = true) →
    u.upper t = t.map Text.upperLetter

end PyUnicode

namespace PromoBot
namespace Urls

open PyUrl PyUnicode Regex

variable (u : PyUnicode)

/-! ## Product ids -/

/-- What a product id of a store looks like. -/
def IsExternalId : Store → Text → Prop
  | .amazon, id => id.length = 10 ∧
      ∀ c ∈ id, isAlphanumeric c = true ∧ Text.upperLetter c = c
  | .mercadolivre, id => ∃ n, IsNumber 5 n ∧ id = "MLB".toList ++ n
  | .shopee, id => ∃ p q, IsNumber 1 p ∧ IsNumber 1 q ∧ id = p ++ ':' :: q
  | .aliexpress, id => IsNumber 1 id
  | .kabum, id => IsNumber 1 id

/-- The characters of an Amazon id: ASCII letters and digits, and four more. -/
theorem mem_of_isAlphanumeric {c : Char} (h : isAlphanumeric c = true) :
    c.toNat < 128 ∨ c ∈ ['\u0130', '\u0131', '\u212A', '\u017F'] := by
  have hlow : ∀ d : Char, d.toLower = d → d.toNat < 128 → d.toLower = c.toLower →
      c.toNat < 128 := by
    intro d hd hlt heq
    rw [hd] at heq
    rcases Text.toLower_cases c with hsame | ⟨hle, -⟩
    · rwa [← hsame, ← heq]
    · omega
  have hsame : ∀ d : Char, d.toLower = d → d.toNat < 128 → sameLetter d c = true →
      c.toNat < 128 ∨ c ∈ ['\u0130', '\u0131', '\u212A', '\u017F'] := by
    intro d hd hlt hs
    simp only [sameLetter, Bool.or_eq_true, Bool.and_eq_true, decide_eq_true_eq] at hs
    rcases hs with ((hs | ⟨-, hs | hs⟩) | ⟨-, hs⟩) | ⟨-, hs⟩
    · exact Or.inl (hlow d hd hlt hs)
    all_goals
      rw [hs]
      exact Or.inr (by decide)
  simp only [isAlphanumeric, Bool.or_eq_true] at h
  rcases h with (((h | h) | h) | h) | h
  · have hle : c ≤ 'z' := by
      simp only [Text.isAsciiLetter, Bool.or_eq_true, Bool.and_eq_true, decide_eq_true_eq] at h
      rcases h with h | h
      · exact h.2
      · exact Char.le_trans h.2 (by decide)
    have : c.toNat ≤ 122 := hle
    exact Or.inl (by omega)
  · exact Or.inl (isAsciiDigit_lt h)
  · exact hsame 'i' (by decide) (by decide) h
  · exact hsame 'k' (by decide) (by decide) h
  · exact hsame 's' (by decide) (by decide) h

theorem forall_isAlphanumeric {P : Char → Prop}
    (hascii : ∀ n < 128, isAlphanumeric (Char.ofNat n) = true → P (Char.ofNat n))
    (hmore : ∀ c ∈ ['\u0130', '\u0131', '\u212A', '\u017F'], P c) {c : Char}
    (h : isAlphanumeric c = true) : P c := by
  rcases mem_of_isAlphanumeric h with hlt | hmem
  · rw [← Char.ofNat_toNat c] at h ⊢
    exact hascii _ hlt h
  · exact hmore c hmem

/-- `str.upper` keeps the characters of an id, and there is nothing left to do after it. -/
theorem upperLetter_spec {c : Char} (h : isAlphanumeric c = true) :
    isAlphanumeric (Text.upperLetter c) = true ∧
      Text.upperLetter (Text.upperLetter c) = Text.upperLetter c :=
  forall_isAlphanumeric (P := fun c => isAlphanumeric (Text.upperLetter c) = true ∧
    Text.upperLetter (Text.upperLetter c) = Text.upperLetter c)
    (by decide +kernel) (by decide +kernel) h

theorem plain_of_isAlphanumeric {c : Char} (h : isAlphanumeric c = true) :
    c ≠ '?' ∧ c ≠ '#' ∧ isUnsafe c = false :=
  forall_isAlphanumeric (P := fun c => c ≠ '?' ∧ c ≠ '#' ∧ isUnsafe c = false)
    (by decide +kernel) (by decide +kernel) h

/-- The path of a canonical address is read as a path. -/
theorem plain_canonicalPath {store : Store} {id : Text} (h : IsExternalId store id) :
    ∀ c ∈ canonicalPath store id, c ≠ '?' ∧ c ≠ '#' ∧ isUnsafe c = false := by
  have hword : ∀ c ∈ "dp/MLB-product/item/.htmlproduto/".toList,
      c ≠ '?' ∧ c ≠ '#' ∧ isUnsafe c = false := by decide
  have hdigits : ∀ {least : Nat} {p : Text}, IsNumber least p →
      ∀ c ∈ p, c ≠ '?' ∧ c ≠ '#' ∧ isUnsafe c = false :=
    fun hp c hc => (plain_of_digit (hp.2 c hc)).2
  have hin : ∀ {w : Text}, (∀ c ∈ w, c ∈ "dp/MLB-product/item/.htmlproduto/".toList) →
      ∀ c ∈ w, c ≠ '?' ∧ c ≠ '#' ∧ isUnsafe c = false := fun hw c hc => hword c (hw c hc)
  have hjoin : ∀ {v w : Text}, (∀ c ∈ v, c ≠ '?' ∧ c ≠ '#' ∧ isUnsafe c = false) →
      (∀ c ∈ w, c ≠ '?' ∧ c ≠ '#' ∧ isUnsafe c = false) →
      ∀ c ∈ v ++ w, c ≠ '?' ∧ c ≠ '#' ∧ isUnsafe c = false := by
    intro v w hv hw c hc
    exact (List.mem_append.1 hc).elim (hv c) (hw c)
  cases store with
  | amazon => exact hjoin (hin (by decide)) fun c hc => plain_of_isAlphanumeric (h.2 c hc).1
  | mercadolivre =>
    obtain ⟨n, hn, rfl⟩ := h
    exact hjoin (hin (by decide)) (hdigits hn)
  | shopee =>
    obtain ⟨p, q, hp, hq, rfl⟩ := h
    have hcolon : ':' ∉ p := fun hmem => (plain_of_digit (hp.2 _ hmem)).1 rfl
    rw [canonicalPath_shopee hcolon]
    exact hjoin (hjoin (hin (by decide)) (hdigits hp))
      (hjoin (v := ['/']) (hin (by decide)) (hdigits hq))
  | aliexpress => exact hjoin (hjoin (hin (by decide)) (hdigits h)) (hin (by decide))
  | kabum => exact hjoin (hin (by decide)) (hdigits h)

theorem groups_of_amazon {t : Text} {m : Match} (hm : m ∈ amazonProduct.allMatches t) :
    ∃ w, m.groups = [w] ∧ w.length = 10 ∧ ∀ c ∈ w, isAlphanumeric c = true := by
  obtain ⟨slash, hslash, _, hm₁, rfl⟩ := mem_allMatches_seq.1 hm
  obtain ⟨dp, hdp, _, hm₂, rfl⟩ := mem_allMatches_seq.1 hm₁
  obtain ⟨between, hbetween, _, hm₃, rfl⟩ := mem_allMatches_seq.1 hm₂
  obtain ⟨found, hfound, last, hlast, rfl⟩ := mem_allMatches_seq.1 hm₃
  obtain ⟨w, hw, rfl⟩ := mem_allMatches_group.1 hfound
  obtain ⟨hall, hlength, hgroups⟩ := of_mem_allMatches_times hw
  refine ⟨w.text, ?_, hlength, hall⟩
  have hdp' : dp.groups = [] :=
    (mem_allMatches_either.1 hdp).elim groups_of_literalIgnoreCase groups_of_literalIgnoreCase
  simp [groups_of_literal hslash, hdp', groups_of_literal hbetween, hgroups,
    groups_of_boundary hlast]

theorem groups_of_mercadolivre {t : Text} {m : Match}
    (hm : m ∈ mercadolivreProduct.allMatches t) : ∃ n, m.groups = [n] ∧ IsNumber 5 n := by
  obtain ⟨mlb, hmlb, _, hm₁, rfl⟩ := mem_allMatches_seq.1 hm
  obtain ⟨hyphen, hhyphen, found, hfound, rfl⟩ := mem_allMatches_seq.1 hm₁
  obtain ⟨hgroups, hn⟩ := groups_of_digits hfound
  refine ⟨found.text, ?_, hn⟩
  have hhyphen' : hyphen.groups = [] := by
    rcases mem_allMatches_either.1 hhyphen with h | h
    · obtain ⟨_, _, _, _, rfl⟩ := mem_allMatches_one.1 h
      rfl
    · rw [mem_allMatches_nothing.1 h]
  simp [groups_of_literalIgnoreCase hmlb, hhyphen', hgroups]

theorem groups_of_kabum {t : Text} {m : Match} (hm : m ∈ kabumProduct.allMatches t) :
    ∃ p, m.groups = [p] ∧ IsNumber 1 p := by
  obtain ⟨first, hfirst, _, hm₁, rfl⟩ := mem_allMatches_seq.1 hm
  obtain ⟨found, hfound, last, hlast, rfl⟩ := mem_allMatches_seq.1 hm₁
  obtain ⟨hgroups, hp⟩ := groups_of_digits hfound
  exact ⟨found.text, by simp [groups_of_literalIgnoreCase hfirst, hgroups, groups_of_boundary hlast], hp⟩

/-- **A product that is found in a path has an id of its store's shape.** -/
theorem isExternalId_of_product (hu : u.ReadsBack) {store : Store} {path id canonical : Text}
    (h : product u store path = some (id, canonical)) : IsExternalId store id := by
  cases store with
  | amazon =>
    obtain ⟨m, hm, hpair⟩ := Option.map_eq_some_iff.1 h
    obtain ⟨rfl, -⟩ := Prod.mk.inj hpair
    obtain ⟨t, ht⟩ := exists_mem_of_search hm
    obtain ⟨w, hgroups, hlength, hw⟩ := groups_of_amazon ht
    rw [hgroups, List.headD_cons, hu.upper_alphanumeric w hw]
    refine ⟨by rw [List.length_map, hlength], fun c hc => ?_⟩
    obtain ⟨d, hd, rfl⟩ := List.mem_map.1 hc
    exact upperLetter_spec (hw d hd)
  | mercadolivre =>
    obtain ⟨m, hm, hpair⟩ := Option.map_eq_some_iff.1 h
    obtain ⟨rfl, -⟩ := Prod.mk.inj hpair
    obtain ⟨t, ht⟩ := exists_mem_of_search hm
    obtain ⟨n, hgroups, hn⟩ := groups_of_mercadolivre ht
    exact ⟨n, hn, by rw [hgroups, List.headD_cons]⟩
  | shopee =>
    obtain ⟨m, hm, hpair⟩ := Option.map_eq_some_iff.1 h
    obtain ⟨rfl, -⟩ := Prod.mk.inj hpair
    obtain ⟨p, q, hgroups, hp, hq⟩ := groups_of_shopee hm
    exact ⟨p, q, hp, hq, by rw [hgroups]; rfl⟩
  | aliexpress =>
    obtain ⟨m, hm, hpair⟩ := Option.map_eq_some_iff.1 h
    obtain ⟨rfl, -⟩ := Prod.mk.inj hpair
    obtain ⟨t, ht⟩ := exists_mem_of_search hm
    obtain ⟨p, hgroups, hne, hp⟩ := groups_of_match_aliexpressProduct ht
    rw [hgroups]
    exact ⟨List.length_pos_of_ne_nil hne, hp⟩
  | kabum =>
    obtain ⟨m, hm, hpair⟩ := Option.map_eq_some_iff.1 h
    obtain ⟨rfl, -⟩ := Prod.mk.inj hpair
    obtain ⟨t, ht⟩ := exists_mem_of_search hm
    obtain ⟨p, hgroups, hp⟩ := groups_of_kabum ht
    rw [hgroups]
    exact hp

/-! ## Reading a canonical path -/

theorem match?_boundary : boundary.match? [] = some ⟨[], [], []⟩ := rfl

theorem boundary_refuses : boundary.Refuses Text.isAsciiDigit := by
  intro c t hc
  have hslash : (c = '/' || c = '?') = false := by
    have hne : c ≠ '/' := by
      rintro rfl
      exact absurd hc (by decide)
    simp [hne, (plain_of_digit hc).2.1]
  have hend : ¬ (c :: t = [] ∨ c :: t = ['\n']) := by
    rintro (h | h)
    · cases h
    · obtain ⟨rfl, -⟩ := List.cons.inj h
      exact absurd hc (by decide)
  rw [boundary, allMatches_either, allMatches_one_cons, allMatches_atEnd, hslash, if_neg hend]
  rfl

theorem match?_number {s : Regex} {p t : Text} {n : Match} (hp : IsNumber 1 p)
    (hs : s.Refuses Text.isAsciiDigit) (hn : s.match? t = some n) :
    (Regex.seq number s).match? (p ++ t) = some ⟨p ++ n.text, n.rest, p :: n.groups⟩ :=
  match?_seq_many hs hp.1 hp.2 hn

theorem match?_lastNumber {p : Text} (hp : IsNumber 1 p) :
    (Regex.seq number boundary).match? p = some ⟨p, [], [p]⟩ := by
  have := match?_number (t := []) hp boundary_refuses match?_boundary
  rwa [List.append_nil] at this

theorem search_kabum {p : Text} (hp : IsNumber 1 p) :
    kabumProduct.search ("/produto/".toList ++ p) = some ⟨"/produto/".toList ++ p, [], [p]⟩ :=
  search_of_match? (match?_seq_literalIgnoreCase (forall₂_sameLetter_self _) (match?_lastNumber hp))

theorem search_shopee {p q : Text} (hp : IsNumber 1 p) (hq : IsNumber 1 q) :
    shopeeProduct.search ("/product/".toList ++ (p ++ ("/".toList ++ q))) =
      some ⟨"/product/".toList ++ (p ++ ("/".toList ++ q)), [], [p, q]⟩ :=
  search_of_match? (match?_seq_literalIgnoreCase (forall₂_sameLetter_self _) (match?_number hp
    (Refuses.seq (refuses_literal [] (by decide))) (match?_seq_literal _ (match?_lastNumber hq))))

theorem search_aliexpress {item html p : Text} (hp : IsNumber 1 p)
    (hitem : List.Forall₂ (fun c d => sameLetter c d = true) "/item/".toList item)
    (hhtml : List.Forall₂ (fun c d => sameLetter c d = true) ".html".toList html) :
    aliexpressProduct.search (item ++ (p ++ html)) = some ⟨item ++ (p ++ html), [], [p]⟩ := by
  have htail : (Regex.seq (literalIgnoreCase ".html".toList) boundary).match? html =
      some ⟨html, [], []⟩ := by
    have := match?_seq_literalIgnoreCase hhtml match?_boundary
    rwa [List.append_nil] at this
  have hdot : (Regex.seq (literalIgnoreCase ".html".toList) boundary).Refuses Text.isAsciiDigit :=
    Refuses.seq (refuses_literalIgnoreCase _ fun _ hd => sameLetter_dot_of_digit hd)
  exact search_of_match? (match?_seq_literalIgnoreCase hitem (match?_number hp hdot htail))

theorem search_mercadolivre {n : Text} (hn : IsNumber 5 n) :
    mercadolivreProduct.search ('/' :: ("MLB".toList ++ ('-' :: n))) =
      some ⟨"MLB".toList ++ ('-' :: n), [], [n]⟩ := by
  have hslash : mercadolivreProduct.match? ('/' :: ("MLB".toList ++ ('-' :: n))) = none := rfl
  have hhyphen : (optional (.one fun c => c = '-' || c = '_')).match? ('-' :: n) =
      some ⟨['-'], n, []⟩ := rfl
  have htail : (Regex.seq (optional (.one fun c => c = '-' || c = '_'))
      (.group (.many Text.isAsciiDigit 5))).match? ('-' :: n) = some ⟨'-' :: n, [], [n]⟩ :=
    match?_seq_of_match? hhyphen (match?_group (match?_many_all hn.1 hn.2))
  rw [search_of_no_match hslash]
  exact search_of_match? (match?_seq_literalIgnoreCase (forall₂_sameLetter_self _) htail)

theorem search_amazon {id : Text} (h : IsExternalId .amazon id) :
    amazonProduct.search ("/".toList ++ ("dp".toList ++ ("/".toList ++ id))) =
      some ⟨"/".toList ++ ("dp".toList ++ ("/".toList ++ (id ++ []))), [], [id]⟩ := by
  have hid : (Regex.seq (.group (.times isAlphanumeric 10)) boundary).match? id =
      some ⟨id ++ [], [], [id]⟩ :=
    match?_seq_of_match? (match?_group (match?_times_all h.1 fun c hc => (h.2 c hc).1))
      match?_boundary
  have hdp : (Regex.either (literalIgnoreCase "dp".toList)
      (literalIgnoreCase "gp/product".toList)).match? ("dp".toList ++ ("/".toList ++ id)) =
        some ⟨"dp".toList, "/".toList ++ id, []⟩ :=
    match?_either_left (match?_literalIgnoreCase _ (forall₂_sameLetter_self _))
  have htail := match?_seq_of_match? hdp (match?_seq_literal "/".toList hid)
  exact search_of_match? (match?_seq_literal "/".toList htail)

/-- **The path of a canonical address names its product.** -/
theorem product_canonicalPath (hu : u.ReadsBack) {store : Store} {id : Text}
    (h : IsExternalId store id) :
    product u store ('/' :: canonicalPath store id) = some (id, productUrl store id) := by
  suffices hid : ∃ canonical,
      product u store ('/' :: canonicalPath store id) = some (id, canonical) by
    obtain ⟨canonical, hcanonical⟩ := hid
    rw [hcanonical, productUrl_of_product u hcanonical]
  cases store with
  | amazon =>
    have hupper : u.upper id = id := by
      rw [hu.upper_alphanumeric id fun c hc => (h.2 c hc).1]
      exact (List.map_congr_left fun c hc => (h.2 c hc).2).trans (List.map_id id)
    have hpath : '/' :: canonicalPath .amazon id =
        "/".toList ++ ("dp".toList ++ ("/".toList ++ id)) := rfl
    rw [hpath, product, search_amazon h, Option.map_some]
    exact ⟨_, congrArg some (Prod.ext hupper rfl)⟩
  | mercadolivre =>
    obtain ⟨n, hn, rfl⟩ := h
    have hpath : '/' :: canonicalPath .mercadolivre ("MLB".toList ++ n) =
        '/' :: ("MLB".toList ++ ('-' :: n)) := rfl
    rw [hpath, product, search_mercadolivre hn, Option.map_some]
    exact ⟨_, rfl⟩
  | shopee =>
    obtain ⟨p, q, hp, hq, rfl⟩ := h
    have hcolon : ':' ∉ p := fun hmem => (plain_of_digit (hp.2 _ hmem)).1 rfl
    have hpath : '/' :: canonicalPath .shopee (p ++ ':' :: q) =
        "/product/".toList ++ (p ++ ("/".toList ++ q)) := by
      rw [canonicalPath_shopee hcolon, List.append_assoc]
      rfl
    rw [hpath, product, search_shopee hp hq, Option.some_or, Option.map_some]
    exact ⟨_, rfl⟩
  | aliexpress =>
    have hpath : '/' :: canonicalPath .aliexpress id =
        "/item/".toList ++ (id ++ ".html".toList) :=
      congrArg ('/' :: ·) (List.append_assoc "item/".toList id ".html".toList)
    rw [hpath, product,
      search_aliexpress h (forall₂_sameLetter_self _) (forall₂_sameLetter_self _), Option.map_some]
    exact ⟨_, rfl⟩
  | kabum =>
    have hpath : '/' :: canonicalPath .kabum id = "/produto/".toList ++ id := rfl
    rw [hpath, product, search_kabum h, Option.map_some]
    exact ⟨_, rfl⟩

/-! ## Reading a canonical address -/

theorem known_of_names {store : Store} {query : List (Text × Text)} {variation : Text}
    (h : Names u store query variation) :
    (query.any fun e => !isKnownQueryKey store e.1) = false := by
  rcases h with ⟨rfl, -⟩ | ⟨key, value, hname, -, rfl, -⟩
  · rfl
  · have hknown : ∀ e ∈ variationNames, isKnownQueryKey e.1 e.2 = true := by decide
    simpa using hknown _ hname

theorem normalizeHostname_canonicalHost (hu : u.ReadsBack) (store : Store) :
    normalizeHostname u (canonicalHost store) = canonicalHost store := by
  have hstrip : (canonicalHost store).rstripBy (· = '.') = canonicalHost store := by
    cases store <;> decide
  have hascii : (canonicalHost store).isAscii = true := by cases store <;> decide
  have hfit : labelsFit ((canonicalHost store).split '.') = true := by cases store <;> decide
  have hlow : (canonicalHost store).map Char.toLower = canonicalHost store := by
    cases store <;> decide
  rw [normalizeHostname, hstrip, hu.idna_ascii _ hascii hfit]
  show u.casefold (canonicalHost store) = _
  rw [hu.casefold_ascii _ hascii, hlow]

theorem storeForHost_canonicalHost (hu : u.ReadsBack) (store : Store) :
    storeForHost u (canonicalHost store) = some store := by
  rw [storeForHost, normalizeHostname_canonicalHost u hu]
  cases store <;> decide

/-- The address of a canonical host is an address of its store. -/
theorem canonicalizeStoreUrl_of_split (hu : u.ReadsBack) {store : Store} {url path query : Text}
    (h : urlsplit u url = some ⟨"https".toList, canonicalHost store, path, query, []⟩) :
    canonicalizeStoreUrl u url =
      canonicalizeFor u store ⟨"https".toList, canonicalHost store, path, query, []⟩ := by
  have hport : (⟨"https".toList, canonicalHost store, path, query, []⟩ : SplitResult).port =
      some none := by cases store <;> rfl
  have husername : (⟨"https".toList, canonicalHost store, path, query, []⟩ :
      SplitResult).username = none := by cases store <;> rfl
  have hpassword : (⟨"https".toList, canonicalHost store, path, query, []⟩ :
      SplitResult).password = none := by cases store <;> rfl
  have hhostname : (⟨"https".toList, canonicalHost store, path, query, []⟩ :
      SplitResult).hostname u = some (u.lower (canonicalHost store)) := by cases store <;> rfl
  have hlower : u.lower (canonicalHost store) = canonicalHost store := by
    rw [hu.lower_ascii _ (by cases store <;> decide)]
    cases store <;> decide
  have hscheme : u.casefold "https".toList = "https".toList := hu.casefold_ascii _ (by decide)
  have hsafe : SafeAuthority u ⟨"https".toList, canonicalHost store, path, query, []⟩ none := by
    refine ⟨?_, husername, hpassword, by decide⟩
    show u.casefold "https".toList ∈ _
    rw [hscheme]
    decide
  have hne : canonicalHost store ≠ [] := (plainHost_canonicalHost store).1
  unfold canonicalizeStoreUrl
  rw [h, Option.bind_some, hport, Option.map_some]
  dsimp only
  rw [if_pos hsafe, hhostname, Option.map_some, hlower, normalizeHostname_canonicalHost u hu,
    Option.getD_some, if_neg hne, storeForHost_canonicalHost u hu]

/-- **Reading undoes writing**: the canonical address of a product in a variation is
canonicalized to that product, that variation and itself. -/
theorem canonicalizeStoreUrl_canonicalUrlOf (hu : u.ReadsBack) {store : Store}
    {id variation : Text} (hid : IsExternalId store id)
    (hvariation : variation = [] ∨ ∃ key value, (store, key) ∈ variationNames ∧
      isDigits u value = true ∧ variation = key ++ ':' :: value) :
    canonicalizeStoreUrl u (canonicalUrlOf u store id variation) =
      ⟨.pendingAffiliate, "AFFILIATE_PROVIDER_UNAVAILABLE", some store, some id, some variation,
        some (canonicalUrlOf u store id variation)⟩ := by
  obtain ⟨query, hsplit, hnames⟩ :=
    urlsplit_canonicalUrlOf u hu.toStandard (plain_canonicalPath hid) hvariation
  rw [canonicalizeStoreUrl_of_split u hu hsplit, canonicalizeFor]
  dsimp only
  rw [product_canonicalPath u hu hid]
  dsimp only
  rw [known_of_names u hnames, if_neg Bool.false_ne_true, hnames.variationKey]
  rfl

/-! ## Stores and hosts -/

theorem store_canonicalizeFor (store : Store) (parts : SplitResult) :
    (canonicalizeFor u store parts).store = some store := by
  unfold canonicalizeFor
  split
  · rfl
  · dsimp only
    split
    · rfl
    · split <;> rfl

/-- **An address of a store has a host of that store.** -/
theorem storeForHost_of_store {url : Text} {store : Store}
    (h : (canonicalizeStoreUrl u url).store = some store) :
    ∃ parts, urlsplit u url = some parts ∧
      storeForHost u (((parts.hostname u).map (normalizeHostname u)).getD []) = some store ∧
      canonicalizeStoreUrl u url = canonicalizeFor u store parts := by
  generalize hresult : canonicalizeStoreUrl u url = result at h ⊢
  unfold canonicalizeStoreUrl at hresult
  split at hresult
  · subst hresult
    cases h
  · next parts port hparts =>
    obtain ⟨parts', hsplit, hport⟩ := Option.bind_eq_some_iff.1 hparts
    obtain ⟨port', -, hpair⟩ := Option.map_eq_some_iff.1 hport
    obtain ⟨rfl, rfl⟩ := Prod.mk.inj hpair
    dsimp only at hresult
    split at hresult
    · split at hresult
      · next store' hhost =>
        subst hresult
        rw [store_canonicalizeFor] at h
        obtain rfl := Option.some.inj h
        split at hhost
        · cases hhost
        · exact ⟨parts', hsplit, hhost, rfl⟩
      · split at hresult
        · subst hresult
          cases h
        · subst hresult
          cases h
    · subst hresult
      cases h

/-! ## Canonical addresses and identities -/

theorem exists_outcome {url : Text} (h : (canonicalizeStoreUrl u url).state = .pendingAffiliate) :
    ∃ store id variation canonical, canonicalizeStoreUrl u url =
      ⟨.pendingAffiliate, "AFFILIATE_PROVIDER_UNAVAILABLE", some store, some id, some variation,
        some canonical⟩ := by
  cases hid : (canonicalizeStoreUrl u url).externalProductId with
  | none => exact absurd h (refused_of_externalProductId u hid).1
  | some id =>
    obtain ⟨store, _, _, variation, -, -, -, hresult⟩ := exists_parts_of_recognized u hid
    exact ⟨store, id, variation, _, hresult⟩

theorem IsOutcome.canonicalize {u : PyUnicode} (hu : u.ReadsBack) {store : Store}
    {id variation canonical : Text} (h : IsOutcome u store id variation canonical) :
    canonicalizeStoreUrl u canonical =
      ⟨.pendingAffiliate, "AFFILIATE_PROVIDER_UNAVAILABLE", some store, some id, some variation,
        some canonical⟩ := by
  obtain ⟨parts, hproduct, hvariation, rfl⟩ := h.exists_product
  exact canonicalizeStoreUrl_canonicalUrlOf u hu (isExternalId_of_product u hu hproduct)
    (variation_shape u hvariation)

/-- **Canonicalization is idempotent, and canonical addresses are those of identities.**  An
address that is recognized has a canonical address, which is canonicalized with the same
result; and two such addresses have the same canonical address exactly when they have the
same store, product id and variation. -/
theorem canonicalizeStoreUrl_idempotent_injective (hu : u.ReadsBack) :
    (∀ url, (canonicalizeStoreUrl u url).state = .pendingAffiliate →
      ∃ canonical, (canonicalizeStoreUrl u url).canonicalUrl = some canonical ∧
        canonicalizeStoreUrl u canonical = canonicalizeStoreUrl u url) ∧
    ∀ url url', (canonicalizeStoreUrl u url).state = .pendingAffiliate →
      (canonicalizeStoreUrl u url').state = .pendingAffiliate →
      ((canonicalizeStoreUrl u url).canonicalUrl = (canonicalizeStoreUrl u url').canonicalUrl ↔
        (canonicalizeStoreUrl u url).store = (canonicalizeStoreUrl u url').store ∧
        (canonicalizeStoreUrl u url).externalProductId =
          (canonicalizeStoreUrl u url').externalProductId ∧
        (canonicalizeStoreUrl u url).variationKey = (canonicalizeStoreUrl u url').variationKey) := by
  constructor
  · intro url h
    obtain ⟨store, id, variation, canonical, hurl⟩ := exists_outcome u h
    refine ⟨canonical, by rw [hurl], ?_⟩
    rw [IsOutcome.canonicalize hu ⟨url, hurl⟩, hurl]
  · intro url url' h h'
    obtain ⟨store, id, variation, canonical, hurl⟩ := exists_outcome u h
    obtain ⟨store', id', variation', canonical', hurl'⟩ := exists_outcome u h'
    have hself := IsOutcome.canonicalize hu ⟨url, hurl⟩
    have hself' := IsOutcome.canonicalize hu ⟨url', hurl'⟩
    constructor
    · intro heq
      have hsame : canonical = canonical' := by
        rw [hurl, hurl'] at heq
        exact Option.some.inj heq
      rw [hsame] at hself
      rw [hurl, hurl', hsame, hself.symm.trans hself']
      exact ⟨rfl, rfl, rfl⟩
    · rintro ⟨hstore, hid, hvariation⟩
      rw [hurl, hurl'] at hstore hid hvariation ⊢
      obtain rfl := Option.some.inj hstore
      obtain rfl := Option.some.inj hid
      obtain rfl := Option.some.inj hvariation
      show some canonical = some canonical'
      rw [IsOutcome.canonical_eq ⟨url, hurl⟩, IsOutcome.canonical_eq ⟨url', hurl'⟩]

theorem readsBack_ascii :
    ({ PyUnicode.ascii with upper := fun t => t.map Text.upperLetter } : PyUnicode).ReadsBack where
  lower_ascii := ascii_standard.lower_ascii
  casefold_ascii := ascii_standard.casefold_ascii
  decodeUtf8_utf8 := ascii_standard.decodeUtf8_utf8
  idna_ascii t hascii hfit := by
    show (if t.isAscii && labelsFit (t.split '.') then some t else none) = _
    rw [hascii, hfit]
    rfl
  upper_alphanumeric _ _ := rfl

/-- The address of a product in a variation, on a regional host and with tracking keys, and
the address of another variation of it. -/
theorem canonicalizeStoreUrl_idempotent_injective_item :
    let u : PyUnicode := { PyUnicode.ascii with upper := fun t => t.map Text.upperLetter }
    let url := "https://pt.aliexpress.com/x/ITEM/1005.html?skuId=12&utm_source=a".toList
    let url' := "http://aliexpress.com/item/1005.html?sku_id=13".toList
    (∃ canonical, (canonicalizeStoreUrl u url).canonicalUrl = some canonical ∧
      canonicalizeStoreUrl u canonical = canonicalizeStoreUrl u url) ∧
    (canonicalizeStoreUrl u url).canonicalUrl ≠ (canonicalizeStoreUrl u url').canonicalUrl := by
  intro u url url'
  have hstate : (canonicalizeStoreUrl u url).state = .pendingAffiliate ∧
      (canonicalizeStoreUrl u url').state = .pendingAffiliate ∧
      (canonicalizeStoreUrl u url).variationKey ≠ (canonicalizeStoreUrl u url').variationKey := by
    decide +kernel
  obtain ⟨hpending, hpending', hvariation⟩ := hstate
  have hboth := canonicalizeStoreUrl_idempotent_injective u readsBack_ascii
  exact ⟨hboth.1 url hpending,
    fun heq => hvariation ((hboth.2 url url' hpending hpending').1 heq).2.2⟩

end Urls
end PromoBot
