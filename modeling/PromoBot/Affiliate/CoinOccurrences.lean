import PromoBot.Affiliate.Conversion
import PromoBot.Lib.Preferred
import PromoBot.Lib.Splice
import PromoBot.Providers.CoinShadow
import PromoBot.Relay.Tokens

/-!
# The coin links of a message

A message whose short coin links are to be exchanged.  `CoinShadowPreviewService`
(`affiliate/coin_shadow_preview.py`) takes one link, and replaces its text where it first
occurs; `collect_coin_occurrences` (`affiliate/coin_shadow_multi.py`) takes up to three, with
their places.

For one link the ways to exchange it agree (`renderers_agree`).  They could differ only if the
link stood in the text before its place.  But it is an address, and an address begins wherever
its text does.

## Three ways to exchange a link

The program has three ways to put a link in the place of another one:

* `renderedText` replaces the first occurrence of the link as a text (`str.replace` with a
  count of one);
* `renderReplacements` goes through the matches of `URL_PATTERN` and rewrites those whose
  trimmed text is the link;
* the occurrences of `collect_coin_occurrences` have a start and an end, and what is between
  them is cut out and replaced.

The first knows nothing of addresses, and the other two know nothing but.  The difference shows
where the text of a link is part of something else, say of a longer address which contains it,
or of the link itself once punctuation is trimmed.  `exists_place` is the argument that there
is no such thing with one short link: the matches of the text are the one link, the link is an
address (`isAddress_of_coinShort`), and an address that begins somewhere in a text is found
there by the pattern unless an earlier match covers it.  So the first place at which the text
occurs is the place of the match, with what is trimmed from it behind.
-/

namespace PromoBot
namespace CoinOccurrences

open Fallible PromoBot.Parser CoinShadow Conversion

/-! ## What a message has to show -/

/-- `CoinShadowPreviewRejected`, with its code. -/
structure CoinShadowPreviewRejected where
  code : String
  deriving DecidableEq

/-- `_WRAPPER` of `security/seuhardware_short_links.py`. -/
def wrapper : Regex :=
  .seq (Regex.literal "https://seuhardware.com/s/".toList) (.seq (.times isCodeChar 7) .atEnd)

/-- A literal is accepted: a short coin link, or a wrapper of one where wrappers are
allowed and the match has no question mark, not even a trimmed one. -/
def IsAccepted (allowWrappers : Bool) (raw : Text) : Prop :=
  coinShort.fullMatches (trimUrl raw) = true ∨
    (allowWrappers = true ∧ '?' ∉ raw ∧ wrapper.fullMatches (trimUrl raw) = true)

instance (allowWrappers : Bool) (raw : Text) : Decidable (IsAccepted allowWrappers raw) :=
  inferInstanceAs (Decidable (_ ∨ _))

/-- `CoinShortOccurrence`; `stop` is its `end`. -/
structure CoinShortOccurrence where
  ordinal : Nat
  start : Nat
  stop : Nat
  sourceValue : Text
  deriving DecidableEq

/-- The occurrence a match is. -/
def occurrence (m : (Nat × Text) × Nat) : CoinShortOccurrence :=
  ⟨m.2, m.1.1, m.1.1 + (trimUrl m.1.2).length, trimUrl m.1.2⟩

/-- The links of the message are the addresses its text shows. -/
def SurfaceMatches (message : IncomingMessage) (visible : List Text) : Prop :=
  (∀ link ∈ message.links, link.source = .text ∨ link.source = .entityUrl) ∧
    (∀ url ∈ message.links.map ExtractedLink.url, url ∈ visible) ∧
    ∀ url ∈ visible, url ∈ message.links.map ExtractedLink.url

instance (message : IncomingMessage) (visible : List Text) :
    Decidable (SurfaceMatches message visible) :=
  inferInstanceAs (Decidable ((∀ _ ∈ _, _) ∧ (∀ _ ∈ _, _) ∧ ∀ _ ∈ _, _))

/-- `collect_coin_occurrences`. -/
def collectCoinOccurrences (message : IncomingMessage) (maxOccurrences : Nat)
    (allowWrappers : Bool) : Except CoinShadowPreviewRejected (List CoinShortOccurrence) := do
  check (1 ≤ maxOccurrences ∧ maxOccurrences ≤ 3) ⟨"ALIEXPRESS_COIN_OCCURRENCE_LIMIT_INVALID"⟩
  check (message.platform = "telegram".toList) ⟨"ALIEXPRESS_COIN_SOURCE_PLATFORM_INVALID"⟩
  check (message.surfaceMetadata.isSafePlainText = true) ⟨"ALIEXPRESS_COIN_SURFACE_UNSAFE"⟩
  let found := urlPattern.findIter message.originalText
  check (1 ≤ found.length ∧ found.length ≤ maxOccurrences)
    ⟨"ALIEXPRESS_COIN_VISIBLE_URL_COUNT_INVALID"⟩
  check (∀ m ∈ found, IsAccepted allowWrappers m.2) ⟨"ALIEXPRESS_COIN_SHORT_INVALID"⟩
  let occurrences := found.zipIdx.map occurrence
  check (SurfaceMatches message (occurrences.map CoinShortOccurrence.sourceValue))
    ⟨"ALIEXPRESS_COIN_URL_SURFACE_MISMATCH"⟩
  return occurrences

/-! ## One link -/

/-- `CoinShadowPreviewService.prepare`, up to the generation: the link a promotion link is
generated for. -/
def sourceValue (message : IncomingMessage) : Except CoinShadowPreviewRejected Text := do
  check (message.platform = "telegram".toList) ⟨"ALIEXPRESS_COIN_SOURCE_PLATFORM_INVALID"⟩
  check (message.surfaceMetadata.isSafePlainText = true) ⟨"ALIEXPRESS_COIN_SURFACE_UNSAFE"⟩
  match urlTokens message.originalText with
  | [url] => (validateCoinShort url).mapError fun _ => ⟨"ALIEXPRESS_COIN_SHORT_INVALID"⟩
  | _ => throw ⟨"ALIEXPRESS_COIN_VISIBLE_URL_COUNT_INVALID"⟩

/-- `CoinShadowPreviewService.prepare`, after the generation: the text with its link
exchanged. -/
def renderedText (message : IncomingMessage) (source promotionLink : Text) : Text :=
  message.originalText.replaceFirst source promotionLink

/-! ## A short link is an address -/

section Address

open Regex

theorem isUrlChar_of_isCodeChar {c : Char} (h : isCodeChar c = true) : isUrlChar c = true := by
  have hrange : (48 ≤ c.toNat ∧ c.toNat ≤ 57) ∨ (65 ≤ c.toNat ∧ c.toNat ≤ 90) ∨
      (97 ≤ c.toNat ∧ c.toNat ≤ 122) := by
    simp only [isCodeChar, Text.isAsciiLetter, Text.isAsciiDigit, Bool.or_eq_true,
      Bool.and_eq_true, decide_eq_true_eq, Char.le_def, UInt32.le_iff_toNat_le] at h
    rcases h with (h | h) | h
    · exact Or.inr (Or.inr h)
    · exact Or.inr (Or.inl h)
    · exact Or.inl h
  have hspace : Text.isSpace c = false := by
    by_contra hspace
    rw [Bool.not_eq_false] at hspace
    simp only [Text.isSpace, Bool.or_eq_true, Bool.and_eq_true, decide_eq_true_eq,
      beq_iff_eq] at hspace
    omega
  have hmarks : ∀ d ∈ ['<', '>', '[', ']', '\x7b', '\x7d', '"', '\''], c ≠ d := by
    intro d hd heq
    subst heq
    revert hd hrange
    simp only [List.mem_cons, List.not_mem_nil, or_false]
    rintro hrange (rfl | rfl | rfl | rfl | rfl | rfl | rfl | rfl) <;> revert hrange <;> decide
  unfold isUrlChar
  simp only [List.mem_cons, List.not_mem_nil, or_false, forall_eq_or_imp, forall_eq] at hmarks
  simp [hspace, hmarks]

/-- **A short coin link is an address**, head and all. -/
theorem isAddress_of_coinShort {url : Text} (h : coinShort.fullMatches url = true) :
    IsAddress url := by
  -- A link is one of two beginnings, and a code.
  obtain ⟨m, hm, hrest⟩ := List.any_eq_true.1 h
  have htext : m.text = url := by
    have happ := text_append_rest hm
    rwa [List.isEmpty_iff.1 hrest, List.append_nil] at happ
  have hcode : ∀ {w t : Text} {k : Match}, k ∈ (Regex.seq (literal w) code).allMatches t →
      ∃ b, k.text = w ++ b ∧ ∀ c ∈ b, isUrlChar c = true := by
    intro w t k hk
    obtain ⟨k₁, hk₁, k₂, hk₂, rfl⟩ := mem_allMatches_seq.1 hk
    refine ⟨k₂.text, by rw [text_of_literal hk₁], fun c hc => isUrlChar_of_isCodeChar ?_⟩
    rcases mem_allMatches_either.1 hk₂ with hk₂ | hk₂
    · exact (of_mem_allMatches_times hk₂).1 c hc
    · exact (of_mem_allMatches_times hk₂).1 c hc
  have hhead : IsHead "https://".toList :=
    ⟨"https://".toList, by simp [heads], forall₂_sameLetter_self _⟩
  have haddress : ∀ w b : Text, w ≠ [] → (∀ c ∈ w, isUrlChar c = true) →
      (∀ c ∈ b, isUrlChar c = true) → IsAddress ("https://".toList ++ (w ++ b)) := by
    intro w b hne hw hb
    refine isAddress_iff.2 ⟨_, w ++ b, hhead, rfl, List.append_ne_nil_of_left_ne_nil hne b, ?_⟩
    exact fun c hc => (List.mem_append.1 hc).elim (hw c) (hb c)
  rw [← htext]
  rcases mem_allMatches_either.1 hm with hm | hm
  · obtain ⟨b, hb, hrun⟩ := hcode hm
    rw [hb]
    exact haddress "s.click.aliexpress.com/e/_".toList b (by decide) (by decide) hrun
  · obtain ⟨b, hb, hrun⟩ := hcode hm
    rw [hb]
    exact haddress "a.aliexpress.com/_".toList b (by decide) (by decide) hrun

theorem begins_of_leading {url t : Text} (h : IsAddress url) (hleading : url <+: t) : Begins t := by
  obtain ⟨rest, rfl⟩ := hleading
  obtain ⟨a, b, ha, rfl, hb, hrun⟩ := isAddress_iff.1 h
  refine begins_iff.2 ⟨a, b ++ rest, ha, List.append_assoc _ _ _, ?_⟩
  rw [List.takeWhile_append_of_pos hrun]
  exact fun hnil => hb (List.append_eq_nil_iff.1 hnil).1

end Address

/-! ## The ways to exchange one link -/

/-- **Where the one link of a text is**: its place is that of its first occurrence, which is
the place its match is found at. -/
theorem exists_place {text source : Text} (hone : urlTokens text = [source])
    (hshort : coinShort.fullMatches source = true) :
    ∃ start, (∃ raw, urlPattern.findIter text = [(start, raw)] ∧ trimUrl raw = source) ∧
      ∀ link, text.replaceFirst source link = renderReplacements text [(source, link)] ∧
        text.splice start (start + source.length) link = text.replaceFirst source link := by
  obtain ⟨raw, hraw, htrim⟩ := List.map_eq_singleton_iff.1 hone
  obtain ⟨before, after, htext, hpieces, hnone⟩ :=
    Regex.exists_around_of_foundIn productive_urlPattern hraw
  obtain ⟨tail, htail, hdrop, -⟩ := trimUrl_append raw
  rw [htrim] at htail hdrop
  have hsplit : text = before ++ source ++ (tail ++ after) := by
    rw [htext, htail]
    simp
  refine ⟨before.length, ⟨raw, ?_, htrim⟩, fun link => ⟨?_, ?_⟩⟩
  · rw [Regex.findIter, hpieces, Regex.startsFrom_around, Nat.zero_add]
  all_goals
    -- Where the link occurs an address begins, and before its match none does.
    have hfirst : ∀ a c b, before = a ++ c :: b →
        ¬ source <+: c :: b ++ source ++ (tail ++ after) := by
      intro a c b hbefore hleading
      have hrest : c :: b ++ source ++ (tail ++ after) = c :: b ++ raw ++ after := by
        rw [htail]
        simp
      rw [hrest] at hleading
      exact match?_eq_none_iff.1 (hnone a c b hbefore)
        (begins_of_leading (isAddress_of_coinShort hshort) hleading)
  · have htoken : renderToken [(source, link)] raw = link ++ tail := by
      rw [renderToken, htrim, List.lookup_cons_self, hdrop]
    rw [renderReplacements, Regex.sub_around hpieces, htoken, hsplit,
      Text.replaceFirst_append link _ hfirst]
    simp
  · rw [hsplit, Text.replaceFirst_eq_splice link _ hfirst]

/-- The checks `collectCoinOccurrences` makes of a message with one short coin link. -/
def Collectable (message : IncomingMessage) (source : Text) (maxOccurrences : Nat) : Prop :=
  (1 ≤ maxOccurrences ∧ maxOccurrences ≤ 3) ∧ message.platform = "telegram".toList ∧
    message.surfaceMetadata.isSafePlainText = true ∧ SurfaceMatches message [source]

/-- **The renderers agree.**  In a text whose only match is, trimmed, a short coin link,
replacing the link where it first occurs, rewriting the matches and replacing the span of
the occurrence give the same text, whatever the promotion link is. -/
theorem renderers_agree {message : IncomingMessage} {source : Text}
    (hone : urlTokens message.originalText = [source])
    (hshort : coinShort.fullMatches source = true) (promotionLink : Text) :
    renderedText message source promotionLink =
        renderReplacements message.originalText [(source, promotionLink)] ∧
      (∀ value, sourceValue message = .ok value → value = source) ∧
      ∃ o : CoinShortOccurrence, o.sourceValue = source ∧
        message.originalText.splice o.start o.stop promotionLink =
          renderedText message source promotionLink ∧
        ∀ maxOccurrences allowWrappers,
          (∀ occurrences, collectCoinOccurrences message maxOccurrences allowWrappers =
            .ok occurrences → occurrences = [o]) ∧
          (Collectable message source maxOccurrences →
            collectCoinOccurrences message maxOccurrences allowWrappers = .ok [o]) := by
  obtain ⟨start, ⟨raw, hfound, htrim⟩, hagree⟩ := exists_place hone hshort
  obtain ⟨hrender, hsplice⟩ := hagree promotionLink
  have hoccurrences : (urlPattern.findIter message.originalText).zipIdx.map occurrence =
      [⟨0, start, start + source.length, source⟩] := by
    rw [hfound, ← htrim]
    rfl
  refine ⟨hrender, fun value hvalue => ?_, ⟨0, start, start + source.length, source⟩, rfl, hsplice,
    fun maxOccurrences allowWrappers => ⟨fun occurrences h => ?_, ?_⟩⟩
  · obtain ⟨_, -, hvalue⟩ := bind_eq_ok.1 hvalue
    obtain ⟨_, -, hvalue⟩ := bind_eq_ok.1 hvalue
    rw [hone] at hvalue
    simp only [validateCoinShort, check, hshort] at hvalue
    exact (Except.ok.inj hvalue).symm
  · obtain ⟨_, -, h⟩ := bind_eq_ok.1 h
    obtain ⟨_, -, h⟩ := bind_eq_ok.1 h
    obtain ⟨_, -, h⟩ := bind_eq_ok.1 h
    obtain ⟨_, -, h⟩ := bind_eq_ok.1 h
    obtain ⟨_, -, h⟩ := bind_eq_ok.1 h
    obtain ⟨_, -, h⟩ := bind_eq_ok.1 h
    exact (Except.ok.inj h).symm.trans hoccurrences
  · rintro ⟨hmax, hplatform, hsurface, hlinks⟩
    have haccepted : ∀ m ∈ urlPattern.findIter message.originalText,
        IsAccepted allowWrappers m.2 := by
      intro m hm
      rw [hfound] at hm
      rw [List.mem_singleton.1 hm]
      exact Or.inl (htrim ▸ hshort)
    have hcount : 1 ≤ (urlPattern.findIter message.originalText).length ∧
        (urlPattern.findIter message.originalText).length ≤ maxOccurrences := by
      rw [hfound]
      exact ⟨Nat.le_refl 1, hmax.1⟩
    have hvisible : SurfaceMatches message
        (((urlPattern.findIter message.originalText).zipIdx.map occurrence).map
          CoinShortOccurrence.sourceValue) := by
      rw [hoccurrences]
      exact hlinks
    have hpass : ∀ {p : Prop} [Decidable p] (e : CoinShadowPreviewRejected), p →
        check p e = .ok PUnit.unit := fun _ hp => check_eq_ok.2 hp
    unfold collectCoinOccurrences
    dsimp only
    rw [hpass _ hmax, hpass _ hplatform, hpass _ hsurface, hpass _ hcount, hpass _ haccepted,
      hpass _ hvisible, hoccurrences]
    rfl

/-- A message that ends its sentence with a short coin link. -/
def coinMessage : IncomingMessage :=
  { plainMessage with
    originalText := "Moedas: https://a.aliexpress.com/_AbCd123!".toList
    links := [⟨"https://a.aliexpress.com/_AbCd123".toList, .text, 0, by decide⟩] }

/-- Its link may be exchanged in any of the ways. -/
theorem renderers_agree_coinMessage :
    urlTokens coinMessage.originalText = ["https://a.aliexpress.com/_AbCd123".toList] ∧
      renderedText coinMessage "https://a.aliexpress.com/_AbCd123".toList "https://b".toList =
        renderReplacements coinMessage.originalText
          [("https://a.aliexpress.com/_AbCd123".toList, "https://b".toList)] :=
  ⟨by decide +kernel, (renderers_agree (by decide +kernel) (by decide +kernel) _).1⟩

end CoinOccurrences
end PromoBot
