import PromoBot.Affiliate.Generation
import PromoBot.Providers.CoinShadow
import PromoBot.Relay.Tokens

/-!
# Reading a rendered text again

`render_affiliate_link_replacements` puts promotion links in the place of the addresses of a
text.  A reader --- and every part of the program which looks for addresses --- cuts the result
at `urlPattern` again.

`faithful_iff`: the links are found again, and nothing else of the text has changed, exactly
when every link used is itself one address with nothing to trim.  The parsers of the answers
check the host of a link and not this.

## Spans

A text is cut into spans: addresses, each with the punctuation that is trimmed from its end,
and what is between them.  Rendering maps the spans one by one (`spanReplaced`), and `Faithful`
says that the rendered text, cut again, has the mapped spans.  This is more than that the links
occur in it: an address could swallow the comma behind it, or two spans could run into one.

Whole links are enough (`faithful_of_usesWhole`): the pattern is greedy, so all depends on
where a match stops, and a whole link followed by the punctuation that followed the old
address, and then by whatever stopped the old match, stops there too (`IsWhole.append`).  In
the other direction a link which is not whole is read as something else.  It may end in
punctuation, which is then trimmed with what followed, or have a character the pattern stops
at.

The condition is on the links that are used.  A link the provider answered for an address which
is not in the text may look as it likes.
-/

namespace PromoBot
namespace Conversion

open PyUrl
open PromoBot.Parser

variable {u : PyUnicode} {text : Text} {replacements : List (Text × Text)}

/-- A promotion link one of the two parsers of answers accepts. -/
inductive Accepted (u : PyUnicode) (link : Text) : Prop
  | product {payload : List (String × Json)} {requested : List Text} {trackingId : Text}
      {mappings : List LinkGenerate.PromotionLinkMapping} {m : LinkGenerate.PromotionLinkMapping}
      (h : LinkGenerate.parseLinkGenerate u payload requested trackingId = .ok mappings)
      (hm : m ∈ mappings) (hlink : m.promotionLink = link)
  | coin {payload : List (String × Json)} {source trackingId : Text}
      {result : CoinShadow.CoinShadowLinkResult}
      (h : CoinShadow.parseCoinShadowLinkGenerate u payload source trackingId = .ok result)
      (hlink : result.promotionLink = link)

/-- What a replacement does to a span. -/
def spanReplaced (replacements : List (Text × Text)) : Span → Span
  | .token url => .token ((replacements.lookup url).getD url)
  | .outside c => .outside c

/-- The rendered text is read as the text was, with each replaced address mapped to its
link. -/
def Faithful (text : Text) (replacements : List (Text × Text)) : Prop :=
  spans (renderReplacements text replacements) = (spans text).map (spanReplaced replacements)

instance (text : Text) (replacements : List (Text × Text)) :
    Decidable (Faithful text replacements) :=
  inferInstanceAs (Decidable (_ = _))

/-- The link is one address, and does not end in punctuation. -/
def IsWhole (link : Text) : Prop := IsAddress link ∧ trimUrl link = link

instance (link : Text) : Decidable (IsWhole link) := inferInstanceAs (Decidable (_ ∧ _))

/-! ## Links that are whole -/

/-- Every link that is used is whole. -/
def UsesWhole (text : Text) (replacements : List (Text × Text)) : Prop :=
  ∀ url ∈ urlTokens text, ∀ link, replacements.lookup url = some link → IsWhole link

/-- The punctuation in an address is of characters an address may have. -/
theorem isUrlChar_of_punctuation {raw : Text} (h : IsAddress raw) {c : Char} (hc : c ∈ raw)
    (hp : c ∈ trailingPunctuation) : isUrlChar c = true := by
  by_contra hurl
  have hbracket : ∀ d ∈ trailingPunctuation, ¬ isUrlChar d = true → d ∈ "]\x7d".toList := by
    decide
  have hnone : ∀ w ∈ heads, ∀ x ∈ w, ∀ d ∈ "]\x7d".toList, Regex.sameLetter x d = false := by
    decide
  obtain ⟨a, b, ⟨w, hw, ha⟩, rfl, -, hrun⟩ := isAddress_iff.1 h
  rcases List.mem_append.1 hc with hc | hc
  · obtain ⟨x, hx, hsame⟩ := Fallible.exists_of_mem_right ha hc
    rw [hnone w hw x hx c (hbracket c hp hurl)] at hsame
    cases hsame
  · exact hurl (hrun c hc)

theorem IsWhole.append {link raw tail : Text} (h : IsWhole link) (hraw : IsAddress raw)
    (htail : tail <:+ raw) (hp : ∀ c ∈ tail, c ∈ trailingPunctuation) :
    IsAddress (link ++ tail) := by
  obtain ⟨a, b, ha, rfl, hb, hrun⟩ := isAddress_iff.1 h.1
  refine isAddress_iff.2 ⟨a, b ++ tail, ha, List.append_assoc _ _ _, by simp [hb], ?_⟩
  intro c hc
  rcases List.mem_append.1 hc with hc | hc
  · exact hrun c hc
  · exact isUrlChar_of_punctuation hraw (htail.subset hc) (hp c hc)

theorem isAddress_of_mem_foundIn {raw : Text}
    (h : raw ∈ Regex.foundIn (urlPattern.pieces text)) : IsAddress raw := by
  have hcut := Regex.cut_pieces productive_urlPattern text
  generalize urlPattern.pieces text = ps at h hcut
  induction hcut with
  | nil => cases h
  | gap _ _ ih => exact ih h
  | found hm _ ih =>
    rcases List.mem_cons.1 h with rfl | h
    · exact (isAddress_of_match hm).1
    · exact ih h

/-- **Whole links are read again**, and nothing outside of them has changed. -/
theorem faithful_of_usesWhole (h : UsesWhole text replacements) : Faithful text replacements := by
  have hlink : ∀ raw ∈ Regex.foundIn (urlPattern.pieces text),
      ∀ link, replacements.lookup (trimUrl raw) = some link → IsWhole link := fun raw hraw =>
    h (trimUrl raw) (List.mem_map.2 ⟨raw, hraw, rfl⟩)
  have haddress : ∀ raw ∈ Regex.foundIn (urlPattern.pieces text),
      IsAddress (renderToken replacements raw) := by
    intro raw hraw
    unfold renderToken
    split
    · exact isAddress_of_mem_foundIn hraw
    · next link hlookup =>
      obtain ⟨tail, htail, hdrop, hp⟩ := trimUrl_append raw
      rw [hdrop]
      exact (hlink raw hraw link hlookup).append (isAddress_of_mem_foundIn hraw)
        ⟨trimUrl raw, htail.symm⟩ hp
  unfold Faithful spans renderReplacements
  rw [pieces_rebuilt haddress]
  clear haddress h
  generalize urlPattern.pieces text = ps at hlink ⊢
  induction ps with
  | nil => rfl
  | cons p ps ih =>
    rw [List.map_cons, List.flatMap_cons, List.flatMap_cons, List.map_append]
    cases p with
    | gap c =>
      rw [ih hlink]
      rfl
    | found raw =>
      rw [ih fun raw' hraw' => hlink raw' (List.mem_cons_of_mem raw hraw')]
      congr 1
      obtain ⟨tail, htail, hdrop, hp⟩ := trimUrl_append raw
      have houtside : (tail.map Span.outside).map (spanReplaced replacements) =
          tail.map Span.outside := by
        rw [List.map_map]
        rfl
      rw [Regex.Piece.map, spansOf, spansOf, hdrop, List.map_cons, houtside, renderToken,
        spanReplaced]
      split
      · next hlookup =>
        rw [hdrop, hlookup]
        rfl
      · next link hlookup =>
        have htrim : trimUrl (link ++ tail) = link := by
          rw [trimUrl_append_of_punctuation hp]
          exact (hlink raw List.mem_cons_self link hlookup).2
        rw [hdrop, htrim, hlookup, List.drop_left]
        rfl

/-! ## Links that are read again are whole -/

theorem eq_of_forall₂_marks {v marks : Text} (hv : ∀ x ∈ v, x ∈ ":/".toList)
    (h : List.Forall₂ (fun c d => Regex.sameLetter c d = true) v marks) : marks = v := by
  induction h with
  | nil => rfl
  | @cons x c v marks hsame _ ih =>
    rw [eq_of_sameLetter (hv x List.mem_cons_self) hsame,
      ih fun y hy => hv y (List.mem_cons_of_mem x hy)]

/-- A head is letters of `https`, and the three marks. -/
theorem exists_letters {a : Text} (ha : IsHead a) :
    ∃ c rest, a = c :: rest ++ ':' :: "//".toList ∧ ':' ∉ c :: rest := by
  have hcolon : ∀ x ∈ "https".toList, Regex.sameLetter x ':' = false := by decide
  obtain ⟨w, hw, ha⟩ := ha
  obtain ⟨x, v, rfl, hv⟩ : ∃ x v, w = (x :: v) ++ "://".toList ∧ ∀ y ∈ x :: v, y ∈ "https".toList := by
    have hw' : w = "http://".toList ∨ w = "https://".toList := by simpa [heads] using hw
    rcases hw' with rfl | rfl
    · exact ⟨'h', "ttp".toList, rfl, by decide⟩
    · exact ⟨'h', "ttps".toList, rfl, by decide⟩
  obtain ⟨letters, marks, rfl, hletters, hmarks⟩ := forall₂_append_left ha
  have hmarks' : marks = "://".toList := eq_of_forall₂_marks (by decide) hmarks
  obtain ⟨c, rest, -, -, rfl⟩ := List.forall₂_cons_left_iff.1 hletters
  refine ⟨c, rest, by rw [hmarks']; rfl, fun hc => ?_⟩
  obtain ⟨y, hy, hsame⟩ := Fallible.exists_of_mem_right hletters hc
  rw [hcolon y (hv y hy)] at hsame
  cases hsame

/-- Nothing of a head is cleaned away. -/
theorem cleaned_of_isHead {a : Text} (ha : IsHead a) : cleaned a = a := by
  have hsafe : ∀ w ∈ heads, ∀ x ∈ w, ∀ d ∈ "\t\r\n".toList, Regex.sameLetter x d = false := by
    decide
  have hfilter : (a.filter fun c => !isUnsafe c) = a := by
    obtain ⟨w, hw, ha⟩ := ha
    refine List.filter_eq_self.2 fun c hc => ?_
    obtain ⟨x, hx, hsame⟩ := Fallible.exists_of_mem_right ha hc
    by_contra hkept
    have hd : c ∈ "\t\r\n".toList := by
      have hcases : isUnsafe c = true := by simpa using hkept
      simpa [isUnsafe, or_assoc] using hcases
    rw [hsafe w hw x hx c hd] at hsame
    cases hsame
  obtain ⟨c, rest, rfl, hc⟩ : ∃ c rest, a = c :: rest ∧ isC0OrSpace c = false := by
    have haddress : IsAddress (a ++ ['a']) :=
      isAddress_iff.2 ⟨a, ['a'], ha, rfl, by simp, by decide⟩
    obtain ⟨c, rest, heq, hc⟩ := exists_head_cons haddress
    cases a with
    | nil =>
      obtain ⟨rfl, -⟩ := List.cons.inj heq
      exact absurd hc (by decide)
    | cons c' a =>
      obtain ⟨rfl, -⟩ := List.cons.inj heq
      refine ⟨c', a, rfl, ?_⟩
      rcases eq_h_of_sameLetter hc with rfl | rfl <;> decide
  rw [cleaned, List.dropWhile_cons_of_neg (by simp [hc]), hfilter]

/-- A head alone names no host. -/
theorem not_host_of_isHead {a : Text} (ha : IsHead a) {parts : SplitResult}
    (h : urlsplit u a = some parts) (hscheme : parts.scheme ≠ []) : parts.hostname u = none := by
  obtain ⟨c, rest, rfl, hcolon⟩ := exists_letters ha
  have hparts : parts.scheme = [] ∨ parts.netloc = [] := by
    unfold urlsplit splitScheme at h
    rw [cleaned_of_isHead ha, Text.partition_append_cons ("//".toList) hcolon] at h
    dsimp only at h
    split at h
    · obtain ⟨⟨netloc, tail⟩, hauth, h⟩ := Option.bind_eq_some_iff.1 h
      rw [Option.ite_none_right_eq_some] at h
      obtain rfl := Option.some.inj h.2
      right
      have hslashes : splitAuthority u ('/' :: '/' :: []) = some (netloc, tail) := hauth
      rw [splitAuthority, Option.ite_none_right_eq_some] at hslashes
      exact (Prod.mk.inj (Option.some.inj hslashes.2)).1.symm
    · obtain ⟨⟨netloc, tail⟩, -, h⟩ := Option.bind_eq_some_iff.1 h
      rw [Option.ite_none_right_eq_some] at h
      obtain rfl := Option.some.inj h.2
      exact Or.inl rfl
  have hnetloc := hparts.resolve_left hscheme
  unfold SplitResult.hostname SplitResult.hostinfo
  rw [hnetloc]
  rfl

/-- A link that was accepted names a host. -/
theorem Accepted.host {link : Text} (h : Accepted u link) :
    ∃ parts, urlsplit u link = some parts ∧ parts.scheme ≠ [] ∧ parts.hostname u ≠ none := by
  cases h with
  | product h hm hlink =>
    subst hlink
    obtain ⟨parts, port, hparts, -, hscheme, ⟨hhost, -⟩, -⟩ :=
      LinkGenerate.validatePromotionLink_eq_ok.1
        (LinkGenerate.validated_of_parseLinkGenerate h _ hm)
    refine ⟨parts, hparts, by rw [hscheme]; decide, fun hnone => hhost ?_⟩
    rw [hnone]
    rfl
  | coin h hlink =>
    subst hlink
    obtain ⟨parts, port, hparts, -, hscheme, hhost, -⟩ :=
      CoinShadow.validatePromotionLink_eq_ok.1 (CoinShadow.parseCoinShadowLinkGenerate_eq_ok h).1
    refine ⟨parts, hparts, by rw [hscheme]; decide, ?_⟩
    rw [hhost]
    exact Option.some_ne_none _

/-- An accepted link which is a trimmed address is whole. -/
theorem Accepted.isWhole {raw : Text} (h : Accepted u (trimUrl raw)) (hraw : IsAddress raw) :
    IsWhole (trimUrl raw) := by
  refine ⟨?_, List.rdropWhile_idempotent _ raw⟩
  obtain ⟨a, b, ha, rfl, hb, hrun⟩ := isAddress_iff.1 hraw
  obtain ⟨tail, htail, -, hp⟩ := trimUrl_append (a ++ b)
  have hshort : trimUrl (a ++ b) ≠ a := by
    intro heq
    rw [heq] at h
    obtain ⟨parts, hparts, hscheme, hhost⟩ := h.host
    exact hhost (not_host_of_isHead ha hparts hscheme)
  rcases List.append_eq_append_iff.1 htail with ⟨rest, hlink, htail⟩ | ⟨rest, hlink, htail⟩
  · have hne : rest ≠ [] := by
      rintro rfl
      rw [List.append_nil] at hlink
      exact hshort hlink
    refine isAddress_iff.2 ⟨a, rest, ha, hlink, hne, fun c hc => hrun c ?_⟩
    rw [htail]
    exact List.mem_append_left _ hc
  · -- The head ends in a slash, which is not trimmed.
    exfalso
    rcases List.eq_nil_or_concat rest with rfl | ⟨rest, c, rfl⟩
    · rw [List.append_nil] at hlink
      exact hshort hlink.symm
    · have hmark : ∀ d ∈ trailingPunctuation, d ≠ '/' := by decide
      have hslash : c = '/' := by
        obtain ⟨d, letters, ha', -⟩ := exists_letters ha
        have hlast := congrArg (fun l => l.reverse.head?) (hlink.symm.trans ha')
        simpa using hlast
      exact hmark c (hp c (by rw [htail]; simp)) hslash

/-- **A rendered text is read as the text was exactly when every link it uses is whole.** -/
theorem faithful_iff (haccepted : ∀ e ∈ replacements, Accepted u e.2) :
    Faithful text replacements ↔
      ∀ url ∈ urlTokens text, ∀ link, replacements.lookup url = some link → IsWhole link := by
  refine ⟨fun h url hurl link hlookup => ?_, faithful_of_usesWhole⟩
  have hmem : Span.token url ∈ spans text := by
    rw [← tokens_spans, List.mem_filterMap] at hurl
    obtain ⟨s, hs, hsurl⟩ := hurl
    cases s with
    | token url' =>
      obtain rfl := Option.some.inj hsurl
      exact hs
    | outside c => cases hsurl
  have hlink : link ∈ urlTokens (renderReplacements text replacements) := by
    rw [← tokens_spans, h, List.mem_filterMap]
    refine ⟨.token link, List.mem_map.2 ⟨.token url, hmem, ?_⟩, rfl⟩
    rw [spanReplaced, hlookup]
    rfl
  obtain ⟨raw, hraw, rfl⟩ := List.mem_map.1 hlink
  exact (haccepted (url, trimUrl raw) (Lookup.mem_of_lookup hlookup)).isWhole
    (isAddress_of_mem_foundIn hraw)

theorem accepted_of_answer {link : Text}
    (h : LinkGenerate.parseLinkGenerate .ascii (answerOf [answerItem firstItem link]) [firstItem]
      "t1".toList = .ok [⟨firstItem, link⟩]) : ∀ e ∈ [(firstItem, link)], Accepted .ascii e.2 := by
  intro e he
  obtain rfl := List.mem_singleton.1 he
  exact .product h List.mem_cons_self rfl

/-- A message about the first product. -/
def sentence : Text := "Veja ".toList ++ firstItem ++ ", corra!".toList

theorem whole_link_read_again :
    Faithful sentence [(firstItem, "https://s.click.aliexpress.com/e/_one".toList)] :=
  (faithful_iff (accepted_of_answer (by decide +kernel))).2 (by
    intro url _ link hlookup
    obtain rfl : "https://s.click.aliexpress.com/e/_one".toList = link :=
      (Prod.mk.inj (List.mem_singleton.1 (Lookup.mem_of_lookup hlookup))).2.symm
    decide +kernel)

/-- A link which ends in a full stop is accepted, and read without it. -/
theorem link_read_truncated :
    (∀ e ∈ [(firstItem, "https://s.click.aliexpress.com/e/_one.".toList)],
      Accepted .ascii e.2) ∧
    ¬ Faithful sentence [(firstItem, "https://s.click.aliexpress.com/e/_one.".toList)] :=
  ⟨accepted_of_answer (by decide +kernel), by decide +kernel⟩

end Conversion
end PromoBot
