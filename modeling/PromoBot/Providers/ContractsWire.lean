import PromoBot.Providers.Contracts

/-!
# What a payload is on the wire

Every payload a function of `contracts.py` returns is `Sendable`, and what is sendable is
prepared, signed and read back as it is: `payload_on_wire`.  `Marked` is the one fact about
values: there is something in them that is not whitespace.

## From a payload to a body

`prepare` takes the business parameters as any dictionary.  It refuses the names of common
parameters and drops what is absent or blank, and it does not quote names.  Each of these is
harmless for some payloads only.  A value of spaces would be dropped, so that a request goes
out without what the caller asked for; a name with a separator in it would come back as two.
The builders are trusted not to make such payloads, and nothing in `prepare` checks that they
do not.

`Sendable` is what is needed: names that are documented, each once, and values with a mark in
them.  `sendable_payload` goes through the builders, all of which end in the same way, with a
list of fields of which those without a value are left out (`sendable_present`).  Then
`TopWire` has the rest, since a documented name is read as it is written.  The identity of the
body with the payload is on the side of a reader: it is parsed as a form is parsed, and
compared as a list, in the order of the names.
-/

namespace PromoBot
namespace Contracts

open Fallible LinkGenerate TopRequests

/-! ## Values -/

/-- Something of the text is not whitespace. -/
def Marked (t : Text) : Prop := ∃ c ∈ t, Text.isSpace c = false

theorem marked_iff {t : Text} : Marked t ↔ t.strip ≠ [] := by
  rw [Ne, Text.strip_eq_nil_iff]
  constructor
  · rintro ⟨c, hc, hspace⟩ hall
    rw [hall c hc] at hspace
    cases hspace
  · intro h
    obtain ⟨c, hc⟩ := not_forall.1 h
    obtain ⟨hmem, hspace⟩ := Classical.not_imp.1 hc
    exact ⟨c, hmem, Bool.eq_false_iff.2 hspace⟩

theorem marked_strip {t : Text} (h : t.strip ≠ []) : Marked t.strip := by
  refine ⟨t.strip.getLast h, List.getLast_mem h, ?_⟩
  have hlast := List.rdropWhile_last_not Text.isSpace (t.dropWhile Text.isSpace) h
  exact Bool.eq_false_iff.2 hlast

theorem isSpace_of_isAsciiDigit {c : Char} (h : Text.isAsciiDigit c = true) :
    Text.isSpace c = false := by
  rw [Text.isAsciiDigit, Bool.and_eq_true, decide_eq_true_eq, decide_eq_true_eq] at h
  have hlow : 48 ≤ c.toNat := UInt32.le_iff_toNat_le.1 h.1
  have hhigh : c.toNat ≤ 57 := UInt32.le_iff_toNat_le.1 h.2
  unfold Text.isSpace
  simp only [Bool.or_eq_false_iff, Bool.and_eq_false_iff, decide_eq_false_iff_not,
    beq_eq_false_iff_ne]
  omega

theorem marked_ofNat (n : Nat) : Marked (Text.ofNat n) := by
  obtain ⟨c, rest, hc⟩ := List.exists_cons_of_ne_nil (Text.ofNat_ne_nil n)
  have hmem : c ∈ Text.ofNat n := hc ▸ List.mem_cons_self
  exact ⟨c, hmem, isSpace_of_isAsciiDigit (Text.isAsciiDigit_of_mem_ofNat hmem)⟩

theorem marked_fixed (negative : Bool) (coefficient : Nat) (exponent : Int) :
    Marked (PyDecimal.fixed negative coefficient exponent) := by
  obtain ⟨c, hc, hspace⟩ := marked_ofNat coefficient
  exact ⟨c, PyDecimal.mem_fixed hc, hspace⟩

theorem Marked.append_right {t : Text} (s : Text) (h : Marked t) : Marked (s ++ t) := by
  obtain ⟨c, hc, hspace⟩ := h
  exact ⟨c, List.mem_append_right s hc, hspace⟩

theorem marked_dumpInt (n : Int) : Marked (JsonText.dumpInt n) := by
  cases n with
  | ofNat n => exact marked_ofNat n
  | negSucc n => exact (marked_ofNat (n + 1)).append_right ['-']

theorem marked_commaJoin {values : List Text} (hne : values ≠ [])
    (h : ∀ value ∈ values, Marked value) : Marked (commaJoin values) := by
  cases values with
  | nil => exact absurd rfl hne
  | cons value values =>
    obtain ⟨c, hc, hspace⟩ := h value List.mem_cons_self
    refine ⟨c, ?_, hspace⟩
    cases values with
    | nil => exact hc
    | cons next values => exact List.mem_append_left _ hc

section Values

variable {u : PyUnicode} {isAlpha : Char → Bool} {value t : Text} {name : String}

theorem required_eq_ok (h : required value name = .ok t) : t = value.strip ∧ Marked t := by
  obtain ⟨_, hne, h⟩ := bind_eq_ok.1 h
  obtain rfl := Except.ok.inj h
  exact ⟨rfl, marked_strip (check_eq_ok.1 hne)⟩

theorem marked_optional {value : Option Text} (h : optional value = some t) : Marked t := by
  obtain ⟨hcleaned, hne⟩ := Option.filter_eq_some_iff.1 h
  obtain ⟨value, -, rfl⟩ := Option.map_eq_some_iff.1 hcleaned
  exact marked_strip (of_decide_eq_true hne)

theorem identifier_eq_ok (h : identifier u value name = .ok t) :
    t = value.strip ∧ Marked t ∧ t.all u.isDigit = true := by
  obtain ⟨cleaned, hcleaned, h⟩ := bind_eq_ok.1 h
  obtain ⟨_, hdigits, h⟩ := bind_eq_ok.1 h
  obtain rfl := Except.ok.inj h
  obtain ⟨rfl, hmarked⟩ := required_eq_ok hcleaned
  exact ⟨rfl, hmarked, check_eq_ok.1 hdigits⟩

/-- The identifiers of a list are stripped and joined. -/
theorem csvIds_eq_ok {values : List Text} (h : csvIds u values name = .ok t) :
    values ≠ [] ∧ t = commaJoin (values.map Text.strip) ∧
      ∀ value ∈ values, Marked value.strip ∧ value.strip.all u.isDigit = true := by
  obtain ⟨_, hne, h⟩ := bind_eq_ok.1 h
  obtain ⟨ids, hids, h⟩ := bind_eq_ok.1 h
  obtain rfl := Except.ok.inj h
  have hall := mapM_eq_ok.1 hids
  have hmap : values.map Text.strip = ids := by
    have hstripped : List.Forall₂ (fun value id => value.strip = id) values ids :=
      hall.imp fun value id hid => (identifier_eq_ok hid).1.symm
    rw [← List.forall₂_map_left_iff, List.forall₂_eq_eq_eq] at hstripped
    exact hstripped
  refine ⟨check_eq_ok.1 hne, by rw [hmap], fun value hvalue => ?_⟩
  obtain ⟨id, -, hid⟩ := exists_of_mem_right hall.flip hvalue
  obtain ⟨rfl, hmarked, hdigits⟩ := identifier_eq_ok hid
  exact ⟨hmarked, hdigits⟩

theorem marked_decimalText {value : PyDecimal} (h : decimalText value = .ok t) : Marked t := by
  cases value with
  | finite negative coefficient exponent =>
    obtain rfl := Except.ok.inj h
    exact marked_fixed negative coefficient exponent
  | infinity _ | nan => cases h

theorem marked_csvIds {values : List Text} (h : csvIds u values name = .ok t) : Marked t := by
  obtain ⟨hne, rfl, hmarked⟩ := csvIds_eq_ok h
  refine marked_commaJoin (mt List.map_eq_nil_iff.1 hne) fun id hid => ?_
  obtain ⟨value, hvalue, rfl⟩ := List.mem_map.1 hid
  exact (hmarked value hvalue).1

theorem marked_csvText {values : List Text} (hne : values ≠ [])
    (h : csvText values name = .ok t) : Marked t := by
  obtain ⟨cleaned, hcleaned, h⟩ := bind_eq_ok.1 h
  obtain ⟨_, -, h⟩ := bind_eq_ok.1 h
  obtain rfl := Except.ok.inj h
  have hall := mapM_eq_ok.1 hcleaned
  refine marked_commaJoin ?_ fun value hvalue => ?_
  · rintro rfl
    cases hall
    exact hne rfl
  · obtain ⟨raw, -, hraw⟩ := exists_of_mem_right hall hvalue
    exact (required_eq_ok hraw).2

theorem marked_documented {codes : List Text} {message : String}
    (hcodes : ∀ code ∈ codes, code.strip ≠ []) (h : documented u codes message value = .ok t) :
    Marked t := by
  obtain ⟨_, hmem, h⟩ := bind_eq_ok.1 h
  obtain rfl := Except.ok.inj h
  exact marked_iff.2 (hcodes _ (check_eq_ok.1 hmem))

theorem marked_currency (h : currency u value = .ok t) : Marked t :=
  marked_documented (by decide) h

theorem marked_language (h : language u value = .ok t) : Marked t :=
  marked_documented (by decide) h

theorem marked_country (hletters : ∀ c, isAlpha c = true → Text.isSpace c = false)
    (h : country u isAlpha value = .ok t) : Marked t := by
  obtain ⟨_, hcheck, h⟩ := bind_eq_ok.1 h
  obtain rfl := Except.ok.inj h
  obtain ⟨hlength, halpha⟩ := check_eq_ok.1 hcheck
  obtain ⟨c, rest, hc⟩ := List.exists_cons_of_length_pos
    (hlength ▸ Nat.two_pos : 0 < (u.upper value.strip).length)
  have hmem : c ∈ u.upper value.strip := hc ▸ List.mem_cons_self
  exact ⟨c, hmem, hletters c (List.all_eq_true.1 halpha c hmem)⟩

theorem given_eq_ok {α : Type} {write : α → Except Raised Text} {o : Option α} {o' : Option Text}
    (h : given write o = .ok o') : ∀ t ∈ o', ∃ value ∈ o, write value = .ok t := by
  cases o with
  | none =>
    obtain rfl := Except.ok.inj h
    exact fun t ht => absurd ht nofun
  | some value =>
    obtain ⟨t, ht, rfl⟩ := map_eq_ok.1 h
    intro t' ht'
    obtain rfl := Option.some.inj ht'
    exact ⟨value, rfl, ht⟩

theorem marked_choice {value o : Option Text} {choices : List Text}
    (hchoices : ∀ code ∈ choices, code.strip ≠ []) (h : choice u value name choices = .ok o) :
    ∀ t ∈ o, Marked t := by
  intro t ht
  obtain ⟨raw, -, hraw⟩ := given_eq_ok h t ht
  exact marked_documented hchoices hraw

theorem marked_optionalInt {value : Option Int} {minimum : Int} {maximum : Option Int}
    {o : Option Text} (h : optionalInt value name minimum maximum = .ok o) :
    ∀ t ∈ o, Marked t := by
  intro t ht
  obtain ⟨n, -, hn⟩ := given_eq_ok h t ht
  obtain ⟨_, -, hn⟩ := bind_eq_ok.1 hn
  obtain rfl := Except.ok.inj hn
  exact marked_dumpInt n

theorem ne_nil_of_mem_optionalList {values l : List Text} (h : l ∈ optionalList values) :
    l = values ∧ values ≠ [] := by
  unfold optionalList at h
  split at h
  · cases h
  · next hne => exact ⟨(Option.some.inj h).symm, hne⟩

theorem marked_optionalIds {values : List Text} {o : Option Text}
    (h : given (csvIds u · name) (optionalList values) = .ok o) : ∀ t ∈ o, Marked t := by
  intro t ht
  obtain ⟨l, -, hl⟩ := given_eq_ok h t ht
  exact marked_csvIds hl

theorem marked_optionalText {values : List Text} {o : Option Text}
    (h : given (csvText · name) (optionalList values) = .ok o) : ∀ t ∈ o, Marked t := by
  intro t ht
  obtain ⟨l, hl, htext⟩ := given_eq_ok h t ht
  obtain ⟨rfl, hne⟩ := ne_nil_of_mem_optionalList hl
  exact marked_csvText hne htext

end Values

/-! ## Payloads -/

/-- Every name a payload has. -/
def documentedNames : List Text :=
  ["product_ids", "target_currency", "target_language", "tracking_id", "country", "fields",
    "ship_to_country", "category_ids", "keywords", "page_no", "page_size",
    "platform_product_type", "sort", "promotion_name", "delivery_days", "promotion_link_type",
    "source_values", "product_id", "need_deliver_info", "sku_ids", "sku_id",
    "target_sale_price", "tax_rate", "currency"].map String.toList

theorem documentedNames_spec : ∀ name ∈ documentedNames, name ∉ reservedParameterNames ∧
    name.strip ≠ [] ∧ ∀ c ∈ name, c ∉ ['&', '=', '%', '+'] := by
  decide

/-- A payload that goes through `prepare` whole. -/
structure Sendable (payload : List (Text × Text)) : Prop where
  nodup : (payload.map Prod.fst).Nodup
  names : ∀ e ∈ payload, e.1 ∈ documentedNames
  marked : ∀ e ∈ payload, Marked e.2

theorem mem_present {fields : List (String × Option Text)} {e : Text × Text} :
    e ∈ present fields ↔ ∃ name, (name, some e.2) ∈ fields ∧ name.toList = e.1 := by
  unfold present
  rw [List.mem_filterMap]
  constructor
  · rintro ⟨⟨name, value⟩, hmem, heq⟩
    obtain ⟨value, rfl, rfl⟩ := Option.map_eq_some_iff.1 heq
    exact ⟨name, hmem, rfl⟩
  · rintro ⟨name, hmem, hname⟩
    exact ⟨(name, some e.2), hmem, by rw [Option.map_some, hname]⟩

theorem names_present (fields : List (String × Option Text)) :
    ((present fields).map Prod.fst).Sublist ((fields.map Prod.fst).map String.toList) := by
  induction fields with
  | nil => exact List.Sublist.refl _
  | cons e fields ih =>
    obtain ⟨name, value⟩ := e
    cases value with
    | none => exact ih.cons _
    | some value => exact ih.cons_cons _

/-- What is present has distinct names where the literals are distinct. -/
theorem sendable_present {fields : List (String × Option Text)} (names : List String)
    (hfields : fields.map Prod.fst = names)
    (hnames : (names.map String.toList).Nodup ∧ ∀ name ∈ names, name.toList ∈ documentedNames)
    (hmarked : ∀ e ∈ fields, ∀ t ∈ e.2, Marked t) : Sendable (present fields) where
  nodup := (hfields ▸ hnames.1).sublist (names_present fields)
  names := by
    intro e he
    obtain ⟨name, hmem, hname⟩ := mem_present.1 he
    have hmem' : name ∈ fields.map Prod.fst := List.mem_map_of_mem hmem
    exact hname ▸ hnames.2 name (hfields ▸ hmem')
  marked := by
    intro e he
    obtain ⟨name, hmem, -⟩ := mem_present.1 he
    exact hmarked _ hmem e.2 rfl

theorem marked_some {value : Text} (h : Marked value) : ∀ t ∈ some value, Marked t := by
  intro t ht
  obtain rfl := Option.some.inj ht
  exact h

section Payloads

variable {u : PyUnicode} {isAlpha : Char → Bool} {payload : List (Text × Text)}

theorem sendable_productDetail (hletters : ∀ c, isAlpha c = true → Text.isSpace c = false)
    {productIds fields : List Text} {trackingId targetCurrency targetLanguage shipToCountry : Text}
    (h : productDetailPayload u isAlpha productIds trackingId targetCurrency targetLanguage
      shipToCountry fields = .ok payload) : Sendable payload := by
  obtain ⟨ids, hids, h⟩ := bind_eq_ok.1 h
  obtain ⟨currency, hcurrency, h⟩ := bind_eq_ok.1 h
  obtain ⟨language, hlanguage, h⟩ := bind_eq_ok.1 h
  obtain ⟨tracking, htracking, h⟩ := bind_eq_ok.1 h
  obtain ⟨country, hcountry, h⟩ := bind_eq_ok.1 h
  obtain ⟨fields, hfields, h⟩ := bind_eq_ok.1 h
  obtain rfl := Except.ok.inj h
  refine sendable_present ["product_ids", "target_currency", "target_language", "tracking_id",
    "country", "fields"] rfl (by decide) ?_
  simp only [List.forall_mem_cons]
  exact ⟨marked_some (marked_csvIds hids), marked_some (marked_currency hcurrency),
    marked_some (marked_language hlanguage), marked_some (required_eq_ok htracking).2,
    marked_some (marked_country hletters hcountry), marked_optionalText hfields, nofun⟩

theorem sendable_productQuery (hletters : ∀ c, isAlpha c = true → Text.isSpace c = false)
    {q : ProductQuery} (h : productQueryPayload u isAlpha q = .ok payload) :
    Sendable payload := by
  obtain ⟨currency, hcurrency, h⟩ := bind_eq_ok.1 h
  obtain ⟨language, hlanguage, h⟩ := bind_eq_ok.1 h
  obtain ⟨tracking, htracking, h⟩ := bind_eq_ok.1 h
  obtain ⟨country, hcountry, h⟩ := bind_eq_ok.1 h
  obtain ⟨categoryIds, hcategories, h⟩ := bind_eq_ok.1 h
  obtain ⟨fields, hfields, h⟩ := bind_eq_ok.1 h
  obtain ⟨pageNo, hpageNo, h⟩ := bind_eq_ok.1 h
  obtain ⟨pageSize, hpageSize, h⟩ := bind_eq_ok.1 h
  obtain ⟨type, htype, h⟩ := bind_eq_ok.1 h
  obtain ⟨sort, hsort, h⟩ := bind_eq_ok.1 h
  obtain rfl := Except.ok.inj h
  refine sendable_present ["target_currency", "target_language", "tracking_id",
    "ship_to_country", "category_ids", "fields", "keywords", "page_no", "page_size",
    "platform_product_type", "sort", "promotion_name", "delivery_days"] rfl (by decide) ?_
  simp only [List.forall_mem_cons]
  exact ⟨marked_some (marked_currency hcurrency), marked_some (marked_language hlanguage),
    marked_some (required_eq_ok htracking).2, marked_some (marked_country hletters hcountry),
    marked_optionalIds hcategories, marked_optionalText hfields, fun _ => marked_optional,
    marked_optionalInt hpageNo, marked_optionalInt hpageSize, marked_choice (by decide) htype,
    marked_choice (by decide) hsort, fun _ => marked_optional, fun _ => marked_optional, nofun⟩

theorem sendable_linkGenerate (hletters : ∀ c, isAlpha c = true → Text.isSpace c = false)
    {sourceValues : List Text} {trackingId shipToCountry : Text} {promotionLinkType : Int}
    (h : linkGeneratePayload u isAlpha sourceValues trackingId promotionLinkType shipToCountry =
      .ok payload) : Sendable payload := by
  obtain ⟨_, hlength, h⟩ := bind_eq_ok.1 h
  obtain ⟨_, hvalues, h⟩ := bind_eq_ok.1 h
  obtain ⟨_, -, h⟩ := bind_eq_ok.1 h
  obtain ⟨country, hcountry, h⟩ := bind_eq_ok.1 h
  obtain ⟨tracking, htracking, h⟩ := bind_eq_ok.1 h
  obtain rfl := Except.ok.inj h
  have hne : sourceValues ≠ [] := by
    rintro rfl
    exact absurd (check_eq_ok.1 hlength).1 (by decide)
  refine sendable_present ["ship_to_country", "promotion_link_type", "source_values",
    "tracking_id"] rfl (by decide) ?_
  simp only [List.forall_mem_cons]
  exact ⟨marked_some (marked_country hletters hcountry), marked_some (marked_dumpInt _),
    marked_some (marked_commaJoin hne fun value hvalue =>
      marked_iff.2 (check_eq_ok.1 hvalues value hvalue).1),
    marked_some (required_eq_ok htracking).2, nofun⟩

theorem sendable_skuDetail (hletters : ∀ c, isAlpha c = true → Text.isSpace c = false)
    {productId targetCurrency targetLanguage shipToCountry : Text} {needDeliverInfo : Bool}
    {skuIds : List Text} (h : skuDetailPayload u isAlpha productId targetCurrency targetLanguage
      shipToCountry needDeliverInfo skuIds = .ok payload) : Sendable payload := by
  obtain ⟨_, -, h⟩ := bind_eq_ok.1 h
  obtain ⟨country, hcountry, h⟩ := bind_eq_ok.1 h
  obtain ⟨id, hid, h⟩ := bind_eq_ok.1 h
  obtain ⟨currency, hcurrency, h⟩ := bind_eq_ok.1 h
  obtain ⟨language, hlanguage, h⟩ := bind_eq_ok.1 h
  obtain ⟨skuIds, hskuIds, h⟩ := bind_eq_ok.1 h
  obtain rfl := Except.ok.inj h
  refine sendable_present ["ship_to_country", "product_id", "target_currency", "target_language",
    "need_deliver_info", "sku_ids"] rfl (by decide) ?_
  simp only [List.forall_mem_cons]
  refine ⟨marked_some (marked_country hletters hcountry), marked_some (identifier_eq_ok hid).2.1,
    marked_some (marked_currency hcurrency), marked_some (marked_language hlanguage),
    marked_some (marked_iff.2 ?_), marked_optionalIds hskuIds, nofun⟩
  split
  · decide
  · decide

theorem sendable_productShipping (hletters : ∀ c, isAlpha c = true → Text.isSpace c = false)
    {source : OfficialShippingInput u} {targetCurrency targetLanguage shipToCountry : Text}
    (h : productShippingPayload isAlpha source targetCurrency targetLanguage shipToCountry =
      .ok payload) : Sendable payload := by
  obtain ⟨country, hcountry, h⟩ := bind_eq_ok.1 h
  obtain ⟨currency, hcurrency, h⟩ := bind_eq_ok.1 h
  obtain ⟨price, hprice, h⟩ := bind_eq_ok.1 h
  obtain ⟨language, hlanguage, h⟩ := bind_eq_ok.1 h
  obtain ⟨taxRate, htaxRate, h⟩ := bind_eq_ok.1 h
  obtain rfl := Except.ok.inj h
  refine sendable_present ["product_id", "sku_id", "ship_to_country", "target_currency",
    "target_sale_price", "target_language", "tax_rate"] rfl (by decide) ?_
  have hids : ∀ id ∈ [source.productId, source.skuId], Marked id := fun id hid =>
    marked_iff.2 (source.identified id hid).1
  simp only [List.forall_mem_cons] at hids ⊢
  exact ⟨marked_some hids.1, marked_some hids.2.1, marked_some (marked_country hletters hcountry),
    marked_some (marked_currency hcurrency), marked_some (marked_decimalText hprice),
    marked_some (marked_language hlanguage), marked_some (marked_decimalText htaxRate), nofun⟩

theorem sendable_promotionInfo (hletters : ∀ c, isAlpha c = true → Text.isSpace c = false)
    {productIds : List Text} {targetCurrency targetLanguage shipToCountry : Text}
    (h : promotionInfoPayload u isAlpha productIds targetCurrency targetLanguage shipToCountry =
      .ok payload) : Sendable payload := by
  obtain ⟨country, hcountry, h⟩ := bind_eq_ok.1 h
  obtain ⟨_, -, h⟩ := bind_eq_ok.1 h
  obtain ⟨language, hlanguage, h⟩ := bind_eq_ok.1 h
  obtain ⟨_, -, h⟩ := bind_eq_ok.1 h
  obtain ⟨currency, hcurrency, h⟩ := bind_eq_ok.1 h
  obtain ⟨ids, hids, h⟩ := bind_eq_ok.1 h
  obtain rfl := Except.ok.inj h
  refine sendable_present ["currency", "target_language", "product_id", "ship_to_country"] rfl
    (by decide) ?_
  simp only [List.forall_mem_cons]
  exact ⟨marked_some (marked_currency hcurrency),
    marked_some (marked_documented (by decide) hlanguage), marked_some (marked_csvIds hids),
    marked_some (marked_country hletters hcountry), nofun⟩

/-- **Every payload is sendable.** -/
theorem sendable_payload (hletters : ∀ c, isAlpha c = true → Text.isSpace c = false)
    {call : Call u} (h : call.payload u isAlpha = .ok payload) : Sendable payload := by
  cases call with
  | productDetail => exact sendable_productDetail hletters h
  | productQuery q => exact sendable_productQuery hletters h
  | hotproductQuery => exact sendable_productQuery hletters h
  | linkGenerate => exact sendable_linkGenerate hletters h
  | skuDetail => exact sendable_skuDetail hletters h
  | productShipping => exact sendable_productShipping hletters h
  | promotionInfo => exact sendable_promotionInfo hletters h

end Payloads

/-! ## On the wire -/

section Wire

variable {u : PyUnicode} {isAlpha : Char → Bool} {payload : List (Text × Text)}
  (hmac : Text → Text → Text) (builder : AliExpressTopRequestBuilder) (timestampMs : Int)
  (session : Option Text) (debug : Bool)

theorem Sendable.normalizedParameters (h : Sendable payload) :
    normalizedParameters (payload.map fun e => (e.1, some e.2)) = payload := by
  unfold TopRequests.normalizedParameters
  rw [List.filterMap_map]
  refine (List.filterMap_congr fun e he => ?_).trans List.filterMap_some
  have hname := (documentedNames_spec e.1 (h.names e he)).2.1
  exact if_pos ⟨hname, marked_iff.1 (h.marked e he)⟩

theorem Sendable.prepare (h : Sendable payload) {operation : Text}
    (hoperation : operation ∈ authorizedOperations) {parameters : PyDict Text (Option Text)}
    (hitems : parameters.items = payload.map fun e => (e.1, some e.2)) :
    ∃ r, TopRequests.prepare hmac builder operation parameters timestampMs session debug = .ok r ∧
      r.formPairs = sortedItems payload := by
  have hnames : ∀ e ∈ parameters.items, e.1 ∉ reservedParameterNames := by
    intro e he
    rw [hitems] at he
    obtain ⟨e', he', rfl⟩ := List.mem_map.1 he
    exact (documentedNames_spec e'.1 (h.names e' he')).1
  obtain ⟨r, hr⟩ : ∃ r, TopRequests.prepare hmac builder operation parameters timestampMs session
      debug = .ok r :=
    ⟨_, bind_eq_ok.2 ⟨⟨⟩, check_eq_ok.2 hoperation, bind_eq_ok.2 ⟨⟨⟩, check_eq_ok.2 hnames, rfl⟩⟩⟩
  refine ⟨r, hr, ?_⟩
  rw [(prepare_eq_ok hr).2.2.2, hitems, h.normalizedParameters]

theorem operation_authorized (call : Call u) : call.operation ∈ authorizedOperations := by
  cases call <;> simp [Call.operation, authorizedOperations]

/-- What is sendable is taken whole, carried signed, and read back as it is. -/
theorem Sendable.on_wire (h : Sendable payload) (hu : u.DecodesUtf8) {operation : Text}
    (hoperation : operation ∈ authorizedOperations) {parameters : PyDict Text (Option Text)}
    (hitems : parameters.items = payload.map fun e => (e.1, some e.2)) :
    ∃ r, TopRequests.prepare hmac builder operation parameters timestampMs session debug = .ok r ∧
      CarriesSigned u hmac builder.appSecret operation
        (commonParameters builder operation timestampMs session debug ++ payload) r ∧
      PyUrl.parseQsl u r.encodedForm = sortedItems payload := by
  obtain ⟨r, hr, hform⟩ := h.prepare hmac builder timestampMs session debug hoperation hitems
  have hplain : ∀ e ∈ payload, PyUrl.PlainName u e.1 := fun e he =>
    PyUrl.plainName_of_not_mem u (documentedNames_spec e.1 (h.names e he)).2.2
  have hcarries := (carriesSigned_iff_plain u hu hr).2
  rw [hitems, h.normalizedParameters] at hcarries
  refine ⟨r, hr, hcarries hplain, ?_⟩
  rw [PreparedAliExpressTopRequest.encodedForm, hform]
  refine PyUrl.parseQsl_writePairs_of_plain u hu fun e he => hplain e ?_
  exact (List.perm_insertionSort _ payload).subset he

/-- **Every payload goes out as it was built.**  `prepare` takes it whole, the request carries it
signed, each parameter once, and the body reads back as the payload, sorted by its names. -/
theorem payload_on_wire (hu : u.DecodesUtf8)
    (hletters : ∀ c, isAlpha c = true → Text.isSpace c = false) {call : Call u}
    (h : call.payload u isAlpha = .ok payload) (parameters : PyDict Text (Option Text))
    (hitems : parameters.items = payload.map fun e => (e.1, some e.2)) :
    ∃ r, TopRequests.prepare hmac builder call.operation parameters timestampMs session debug =
        .ok r ∧
      CarriesSigned u hmac builder.appSecret call.operation
        (commonParameters builder call.operation timestampMs session debug ++ payload) r ∧
      PyUrl.parseQsl u r.encodedForm = sortedItems payload :=
  (sendable_payload hletters h).on_wire hmac builder timestampMs session debug hu
    (operation_authorized call) hitems

end Wire

theorem isSpace_of_isAsciiLetter {c : Char} (h : Text.isAsciiLetter c = true) :
    Text.isSpace c = false := by
  simp only [Text.isAsciiLetter, Bool.or_eq_true, Bool.and_eq_true, decide_eq_true_eq] at h
  have hrange : 97 ≤ c.toNat ∧ c.toNat ≤ 122 ∨ 65 ≤ c.toNat ∧ c.toNat ≤ 90 :=
    h.imp (And.imp UInt32.le_iff_toNat_le.1 UInt32.le_iff_toNat_le.1)
      (And.imp UInt32.le_iff_toNat_le.1 UInt32.le_iff_toNat_le.1)
  unfold Text.isSpace
  simp only [Bool.or_eq_false_iff, Bool.and_eq_false_iff, decide_eq_false_iff_not,
    beq_eq_false_iff_ne]
  omega

/-- A query for the first page of a keyword. -/
def oneQuery : Call .utf8Reader :=
  .hotproductQuery " t1 ".toList "fone & cabo".toList ["7".toList, "44".toList] "br".toList
    "BRL".toList "pt".toList 1 20

def oneQueryPayload : List (Text × Text) :=
  [("target_currency", "BRL"), ("target_language", "PT"), ("tracking_id", "t1"),
    ("ship_to_country", "BR"), ("category_ids", "7,44"), ("keywords", "fone & cabo"),
    ("page_no", "1"), ("page_size", "20"), ("platform_product_type", "ALL")].map
      fun e => (e.1.toList, e.2.toList)

/-- The body of the query, with its ampersand and its comma. -/
theorem payload_on_wire_oneQuery : ∃ r,
    TopRequests.prepare (fun _ _ => "AB".toList) ⟨"key".toList, "secret".toList⟩
        TopRequests.hotproductQuery
        ⟨oneQueryPayload.map fun e => (e.1, some e.2), by decide⟩ 1 none false = .ok r ∧
      PyUrl.parseQsl PyUnicode.utf8Reader r.encodedForm = sortedItems oneQueryPayload := by
  have hpayload : oneQuery.payload PyUnicode.utf8Reader Text.isAsciiLetter =
      .ok oneQueryPayload := by
    decide +kernel
  obtain ⟨r, hr, -, hread⟩ := payload_on_wire (fun _ _ => "AB".toList)
    ⟨"key".toList, "secret".toList⟩ 1 none false PyUnicode.utf8Reader_decodesUtf8
    (fun _ => isSpace_of_isAsciiLetter) hpayload
    ⟨oneQueryPayload.map fun e => (e.1, some e.2), by decide⟩ rfl
  exact ⟨r, hr, hread⟩

end Contracts
end PromoBot
