import PromoBot.Lib.Utf16
import PromoBot.Relay.Parser

/-!
# From a Telegram message to an incoming one

`_adapt_message` and `_visible_url_entity_span` of `telegram/monitor.py`.  Telegram gives the
places of entities in UTF-16 code units; the text is one of code points.

* `visibleUrlEntitySpan` converts the place of a visible address, and refuses everything that
  is not exactly an address of the text (`visibleUrlEntitySpan_eq_some_iff`).
* The place of a text link is passed on as it is, and `extract_links` sorts it among places in
  code points.  So a text link after characters outside the basic plane is taken to begin later
  than it does, and `linksInOrder_iff` says when that puts it behind another link.

## From code units to code points

The conversion encodes the text, cuts out the units of the entity, and decodes what is before
them and what they are.  A cut through a surrogate pair does not decode, and so is refused; an
offset or a length beyond the text gives a part which is not the text of the entity.  What is
left is that the entity be an address: one the pattern finds in the whole text, trimmed as
addresses are trimmed, at this place and of this length.

`visibleUrlEntitySpan_spec` takes the function apart into these conditions, and the theorem
then drops all of it but the address.  It says for every text, every offset and every length,
negative ones included, that a span is given exactly for an address of the text which begins at
that code unit and has so many; and that the span is the place of the address in code points.
The step between is `drop_encode`: what stands after a prefix of a text is, in code units, what
stands after those of the prefix.
-/

namespace PromoBot
namespace Telegram

open PromoBot.Parser

/-! ## Messages -/

/-- The media of a message, as far as it is looked at. -/
inductive MessageMedia
  /-- `MessageMediaWebPage`. -/
  | webPage
  | other
  deriving DecidableEq, Repr

inductive MessageEntity
  /-- `MessageEntityTextUrl`. -/
  | textUrl (url : Text) (offset length : Int)
  /-- `MessageEntityUrl`. -/
  | url (offset length : Int)
  /-- Any other, with the name of its type. -/
  | other (typeName : String)
  deriving DecidableEq, Repr

/-- `Message`, as far as it is looked at.  The entities come with their texts, as
`get_entities_text` gives them; a button has its address, where that is a text. -/
structure Message where
  id : Int
  date : Instant
  rawText : Option Text
  media : Option MessageMedia
  entitiesText : List (MessageEntity × Text)
  buttons : List (List (Option Text))

/-! ## Visible addresses -/

/-- `_visible_url_entity_span`. -/
def visibleUrlEntitySpan (text : Text) (offset length : Int) (entityText : Text) :
    Option (Nat × Nat) :=
  if offset < 0 ∨ length ≤ 0 then none
  else
    let encoded := Utf16.encode text
    if encoded.length < offset.toNat + length.toNat then none
    else do
      let before ← Utf16.decode (encoded.take offset.toNat)
      let inside ← Utf16.decode ((encoded.drop offset.toNat).take length.toNat)
      let start := before.length
      let stop := start + inside.length
      if (text.drop start).take (stop - start) ≠ entityText then none
      else if ∃ m ∈ urlPattern.findIter text, m.1 = start ∧
          m.1 + (trimUrl m.2).length = stop then some (start, stop)
      else none

/-! ## Entities -/

/-- `flattenable`. -/
def flattenable : List String :=
  ["MessageEntityBlockquote", "MessageEntityBold", "MessageEntityBotCommand",
    "MessageEntityCashtag", "MessageEntityCode", "MessageEntityEmail", "MessageEntityHashtag",
    "MessageEntityItalic", "MessageEntityMention", "MessageEntityPhone", "MessageEntityPre",
    "MessageEntitySpoiler", "MessageEntityStrike", "MessageEntityUnderline", "MessageEntityUrl"]

/-- What the loop over the entities collects. -/
structure Surface where
  entities : List EntityUrl
  flattenedEntityTypes : List String
  unsupportedEntityTypes : List String
  hasHiddenLinks : Bool
  hasCustomEmoji : Bool

/-- Before the loop. -/
def Surface.empty : Surface := ⟨[], [], [], false, false⟩

/-- The branches on the name of a type. -/
def Surface.addType (s : Surface) (typeName : String) : Surface :=
  if typeName = "MessageEntityCustomEmoji" then { s with hasCustomEmoji := true }
  else if typeName ∈ flattenable then
    { s with flattenedEntityTypes := s.flattenedEntityTypes ++ [typeName] }
  else { s with unsupportedEntityTypes := s.unsupportedEntityTypes ++ [typeName] }

/-- One turn of the loop over the entities. -/
def Surface.add (text : Text) (s : Surface) : MessageEntity × Text → Surface
  | (.textUrl url offset _, _) =>
    if url = [] then s.addType "MessageEntityTextUrl"
    else { s with
      hasHiddenLinks := true
      entities := s.entities ++ [⟨url, .entityTextUrl, offset⟩] }
  | (.url offset length, entityText) =>
    match visibleUrlEntitySpan text offset length entityText with
    | none => { s with
      unsupportedEntityTypes := s.unsupportedEntityTypes ++ ["MessageEntityUrlInvalidSpan"] }
    | some span => { s with
      entities := s.entities ++ [⟨entityText, .entityUrl, span.1⟩]
      flattenedEntityTypes := s.flattenedEntityTypes ++ ["MessageEntityUrl"] }
  | (.other typeName, _) => s.addType typeName

/-- `tuple(sorted(…))` of a set of names. -/
def sortedNames (names : List String) : List Text :=
  (names.eraseDups.insertionSort fun a b => a ≤ b).map String.toList

namespace Message

variable (m : Message)

/-- `message.raw_text or ""`. -/
def text : Text := m.rawText.getD []

/-- The loop over the entities. -/
def surface : Surface := m.entitiesText.foldl (Surface.add m.text) .empty

/-- `button_urls`. -/
def buttonUrls : List Text := m.buttons.flatten.filterMap fun url => url

end Message

variable (u : PyUnicode)

/-- `_adapt_message`; `none` is a `ValueError`. -/
def adaptMessage (m : Message) (channelId : Text) : Option IncomingMessage := do
  let links ← extractLinks u m.text m.surface.entities m.buttonUrls
  if h : 1 ≤ m.id ∧ channelId ≠ [] then
    return {
      platform := "telegram".toList
      messageId := m.id.toNat
      channelId := channelId
      occurredAt := m.date
      originalText := m.text
      links := links
      surfaceMetadata := {
        hasButtons := !m.buttons.isEmpty
        hasCaption := m.media == some .other && !m.text.isEmpty
        hasCustomEmoji := m.surface.hasCustomEmoji
        hasHiddenLinks := m.surface.hasHiddenLinks
        hasMedia := m.media == some .other
        hasWebPagePreview := m.media == some .webPage
        flattenedEntityTypes := sortedNames m.surface.flattenedEntityTypes
        unsupportedEntityTypes := sortedNames m.surface.unsupportedEntityTypes }
      messageId_pos := by omega
      channelId_ne_empty := h.2 }
  else none

/-! ## Where matches stand -/

/-- A match of a list of pieces has the text before it and after it. -/
theorem append_of_mem_startsFrom {n : Nat} {ps : List Regex.Piece} {e : Nat × Text}
    (h : e ∈ Regex.startsFrom n ps) : ∃ before rest,
      ps.flatMap Regex.Piece.text = before ++ e.2 ++ rest ∧ e.1 = n + before.length := by
  induction ps generalizing n with
  | nil => cases h
  | cons p ps ih =>
    cases p with
    | gap c =>
      obtain ⟨before, rest, htext, hstart⟩ := ih h
      refine ⟨c :: before, rest, ?_, ?_⟩
      · rw [List.flatMap_cons, htext]
        rfl
      · rw [hstart, List.length_cons]
        omega
    | found raw =>
      rcases List.mem_cons.1 h with rfl | h
      · exact ⟨[], ps.flatMap Regex.Piece.text, rfl, rfl⟩
      · obtain ⟨before, rest, htext, hstart⟩ := ih h
        refine ⟨raw ++ before, rest, ?_, ?_⟩
        · rw [List.flatMap_cons, htext]
          simp [Regex.Piece.text]
        · rw [hstart, List.length_append]
          omega

/-- **An address of a text, trimmed, stands at its place**, and it is not empty. -/
theorem address_of_mem_findIter {text : Text} {m : Nat × Text}
    (h : m ∈ urlPattern.findIter text) : ∃ before rest,
      text = before ++ trimUrl m.2 ++ rest ∧ m.1 = before.length ∧ trimUrl m.2 ≠ [] := by
  obtain ⟨before, rest, htext, hstart⟩ := append_of_mem_startsFrom h
  rw [Regex.pieces_flatMap_text] at htext
  obtain ⟨tail, htail⟩ : trimUrl m.2 <+: m.2 := List.rdropWhile_prefix _ _
  have htoken : trimUrl m.2 ∈ urlTokens text → trimUrl m.2 ≠ [] := urlToken_ne_nil
  refine ⟨before, tail ++ rest, ?_, ?_, htoken ?_⟩
  · rw [htext, List.append_assoc before, List.append_assoc before, ← List.append_assoc _ tail, htail]
  · rw [hstart, Nat.zero_add]
  · refine List.mem_map_of_mem ?_
    rw [← Regex.map_snd_startsFrom 0]
    exact List.mem_map_of_mem h

/-! ## What is a visible address -/

theorem drop_encode {text before : Text} (h : before <+: text) :
    (Utf16.encode text).drop (Utf16.length before) = Utf16.encode (text.drop before.length) := by
  obtain ⟨rest, rfl⟩ := h
  rw [Utf16.encode_append, Utf16.length, List.drop_left, List.drop_left]

/-- **What the span is**: the units in question are those of a part of the text, and that part
is the text of the entity and an address. -/
theorem visibleUrlEntitySpan_spec {text entityText : Text} {offset length : Int} {s e : Nat} :
    visibleUrlEntitySpan text offset length entityText = some (s, e) ↔
      ∃ before rest, text = before ++ entityText ++ rest ∧ 0 ≤ offset ∧ 0 < length ∧
        (Utf16.length before : Int) = offset ∧ (Utf16.length entityText : Int) = length ∧
        s = before.length ∧ e = s + entityText.length ∧
        ∃ m ∈ urlPattern.findIter text, m.1 = s ∧ m.1 + (trimUrl m.2).length = e := by
  constructor
  · intro h
    unfold visibleUrlEntitySpan at h
    split at h
    · cases h
    · next hsign =>
      dsimp only at h
      split at h
      · cases h
      · next hlength =>
        obtain ⟨before, hbefore, hrest⟩ := Option.bind_eq_some_iff.1 h
        obtain ⟨inside, hinside, hspan⟩ := Option.bind_eq_some_iff.1 hrest
        clear h hrest
        have hfits : offset.toNat + length.toNat ≤ Utf16.length text := Nat.le_of_not_lt hlength
        obtain ⟨hleading, hoffset⟩ := (Utf16.decode_take_eq_some (by omega)).1 hbefore
        rw [← hoffset, drop_encode hleading] at hinside
        obtain ⟨rest, rfl⟩ := hleading
        rw [Utf16.length_append] at hfits
        rw [List.drop_left] at hinside hspan
        obtain ⟨hleading', hlength'⟩ := (Utf16.decode_take_eq_some (by omega)).1 hinside
        obtain ⟨rest', rfl⟩ := hleading'
        rw [Nat.add_sub_cancel_left, List.take_left] at hspan
        split at hspan
        · cases hspan
        · next hsame =>
          split at hspan
          · next hmatch =>
            obtain rfl := not_not.1 hsame
            obtain ⟨rfl, rfl⟩ := Prod.mk.inj (Option.some.inj hspan)
            exact ⟨before, rest', (List.append_assoc _ _ _).symm, by omega, by omega, by omega,
              by omega, rfl, rfl, hmatch⟩
          · cases hspan
  · rintro ⟨before, rest, rfl, hoffset, hlength, hbefore, hentity, rfl, rfl, hmatch⟩
    have hoffset' : offset.toNat = Utf16.length before := by omega
    have hlength' : length.toNat = Utf16.length entityText := by omega
    have hleading : before <+: before ++ entityText ++ rest :=
      ⟨entityText ++ rest, (List.append_assoc _ _ _).symm⟩
    have hdrop : (before ++ entityText ++ rest).drop before.length = entityText ++ rest := by
      rw [List.append_assoc, List.drop_left]
    unfold visibleUrlEntitySpan
    rw [if_neg (by omega), hoffset', hlength']
    dsimp only
    rw [if_neg ?_]
    · refine Option.bind_eq_some_iff.2 ⟨before, ?_, Option.bind_eq_some_iff.2 ⟨entityText, ?_, ?_⟩⟩
      · rw [Utf16.decode_take_eq_some]
        · exact ⟨hleading, rfl⟩
        · rw [Utf16.length_append, Utf16.length_append]
          omega
      · rw [drop_encode hleading, hdrop, Utf16.decode_take_eq_some]
        · exact ⟨List.prefix_append _ _, rfl⟩
        · rw [Utf16.length_append]
          omega
      · rw [hdrop, Nat.add_sub_cancel_left, List.take_left, if_neg (not_not.2 rfl), if_pos hmatch]
    · rw [Utf16.encode_append, Utf16.encode_append, List.length_append, List.length_append]
      exact Nat.not_lt.2 (Nat.le_add_right _ _)

/-- **A span is given exactly for an address of the text**: one which, trimmed, stands there,
begins at that code unit, has so many code units and is the text of the entity. -/
theorem visibleUrlEntitySpan_eq_some_iff (text : Text) (offset length : Int) (entityText : Text)
    (s e : Nat) : visibleUrlEntitySpan text offset length entityText = some (s, e) ↔
      ∃ m ∈ urlPattern.findIter text, s = m.1 ∧ e = m.1 + (trimUrl m.2).length ∧
        (Utf16.length (text.take m.1) : Int) = offset ∧
        (Utf16.length (trimUrl m.2) : Int) = length ∧ trimUrl m.2 = entityText := by
  rw [visibleUrlEntitySpan_spec]
  constructor
  · rintro ⟨before, rest, htext, -, -, hoffset, hlength, rfl, rfl, m, hm, hstart, hstop⟩
    obtain ⟨before', rest', htext', hstart', -⟩ := address_of_mem_findIter hm
    have hbefore : text.take m.1 = before := by
      rw [hstart, htext, List.append_assoc, List.take_left]
    have hdrop : ∀ a b c : Text, text = a ++ b ++ c → a.length = m.1 → text.drop m.1 = b ++ c := by
      rintro a b c rfl ha
      rw [← ha, List.append_assoc, List.drop_left]
    have hentity : trimUrl m.2 = entityText := by
      have hafter := (hdrop _ _ _ htext' hstart'.symm).symm.trans (hdrop _ _ _ htext hstart.symm)
      exact (List.append_inj hafter (by omega)).1
    exact ⟨m, hm, hstart.symm, hstop.symm, by rw [hbefore]; exact hoffset,
      by rw [hentity]; exact hlength, hentity⟩
  · rintro ⟨m, hm, rfl, rfl, rfl, rfl, rfl⟩
    obtain ⟨before, rest, htext, hstart, hne⟩ := address_of_mem_findIter hm
    have hbefore : text.take m.1 = before := by
      rw [hstart, htext, List.append_assoc, List.take_left]
    have hpos := Utf16.le_length (trimUrl m.2)
    have hlength := List.length_pos_iff.2 hne
    exact ⟨before, rest, htext, by omega, by omega, by rw [hbefore], rfl, hstart, rfl, m, hm, rfl,
      rfl⟩

end Telegram
end PromoBot
