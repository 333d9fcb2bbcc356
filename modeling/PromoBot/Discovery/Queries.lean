import PromoBot.Discovery.SkuRunner
import PromoBot.Discovery.Scanner
import PromoBot.Lib.RowOrder
import PromoBot.Providers.ContractsWire
import PromoBot.Relay.MessageJson

/-!
# The queries of a scan

What a scan asks AliExpress for: a profile of the file (`discovery/config.py`), the query of
one page of a keyword (`query_page` of the two gateways), and the fingerprint that stands for
it in the claims and in the cache (`discovery_query_fingerprint`).

`ConfiguredProfile` is a profile that was accepted, with what its validators see to.  Its
queries are accepted by `product_query_payload`, and are read off the wire as they were meant
(`query_on_wire`); two queries with one fingerprint ask for the same page (`key_eq_iff`).

## Two lists of checks

The file is checked when it is loaded, by the types and the validators of the profile, and each
payload is checked again when it is built, by the functions of `contracts.py`.  The second list
was written for any caller.  If it refused something the first one lets pass, the scan would
end with an error of its own making at the first page.  `productQueryPayload_discoveryQuery`
compares them, check by check: the lengths, the letters of the codes, the numbers of the
categories, the bounds of page and size.  Nothing of the profile is changed either: what the
second list would strip or fold is stripped and folded already.

## What stands for a page

The query is fingerprinted as a JSON object with its keys in order, and the categories sorted.
So the message tells which page is asked for (`message_eq_iff`), with one exception made on
purpose: the order of the categories.  From the message to the fingerprint goes a keyed hash
with a domain of its own for the query and another one for the tracking identifier.  Nothing is
assumed of it.  Where two messages have one fingerprint the theorems name the pair
(`Collision`), so that whoever grants that there is none can read it away.

`AsksFor` says what a server finds in the body, in its own words: the keyword, the categories
in the order of the profile, the page and its size, and whom the links are for.
-/

namespace PromoBot
namespace Discovery

open Contracts Fallible JsonText LinkGenerate TopRequests

variable (u : PyUnicode)

/-! ## Profiles -/

/-- `_normalize_sku_label`; `none` is a `ValueError`. -/
def normalizeSkuLabel (value : Text) : Option Text :=
  if 1 ≤ (skuLabel u value).length ∧ (skuLabel u value).length ≤ 100 ∧
      ∀ c ∈ skuLabel u value, 32 ≤ c.toNat ∧ c.toNat ≠ 127 then
    some (skuLabel u value)
  else none

/-- `normalize_property_names` and `normalize_accepted_values`. -/
def normalizeLabels (most : Nat) (values : List Text) : Option (List Text) := do
  let normalized ← values.mapM (normalizeSkuLabel u)
  if 1 ≤ values.length ∧ values.length ≤ most ∧ normalized.Nodup then some normalized else none

/-- A requirement of the file. -/
structure RequirementEntry where
  dimension : Text
  propertyNames : List Text
  acceptedValues : List Text
  deriving DecidableEq

/-- `SkuRefinementRequirement`, with the name of its dimension. -/
def RequirementEntry.validate (e : RequirementEntry) : Option (Text × SkuRequirement) := do
  let dimension ← normalizeSkuLabel u e.dimension
  let propertyNames ← normalizeLabels u 10 e.propertyNames
  let acceptedValues ← normalizeLabels u 20 e.acceptedValues
  return (dimension, ⟨propertyNames, acceptedValues⟩)

/-- A refinement of the file. -/
structure RefinementEntry where
  maxRefinedProducts : Int
  maxSkuApiCalls : Int
  requirements : List RequirementEntry
  deriving DecidableEq

/-- The budgets of a refinement. -/
def RefinementEntry.WithinLimits (e : RefinementEntry) : Prop :=
  1 ≤ e.maxRefinedProducts ∧ e.maxRefinedProducts ≤ 20 ∧ 1 ≤ e.maxSkuApiCalls ∧
    e.maxSkuApiCalls ≤ 20 ∧ e.maxSkuApiCalls ≤ e.maxRefinedProducts

instance : DecidablePred RefinementEntry.WithinLimits :=
  fun _ => inferInstanceAs (Decidable (_ ∧ _))

/-- `SkuRefinementProfile`. -/
def RefinementEntry.validate (e : RefinementEntry) : Option SkuRefinementProfile := do
  let requirements ← e.requirements.mapM (RequirementEntry.validate u)
  if h : e.WithinLimits ∧ requirements.map Prod.snd ≠ [] ∧ requirements.length ≤ 10 ∧
      (requirements.map Prod.fst).Nodup then
    some {
      maxRefinedProducts := e.maxRefinedProducts.toNat
      maxSkuApiCalls := e.maxSkuApiCalls.toNat
      requirements := requirements.map Prod.snd
      calls_le := Int.toNat_le_toNat h.1.2.2.2.2
      requirements_ne := h.2.1 }
  else none

/-- A profile of the file, once each value has its type. -/
structure ProfileEntry where
  keywords : List Text
  categoryIds : List Text
  shipToCountry : Text
  targetCurrency : Text
  targetLanguage : Text
  pageSize : Int
  maxPages : Int
  maxResults : Int
  maxApiCalls : Int
  minimumPriceDropPercent : Decimal
  skuRefinement : Option RefinementEntry
  deriving DecidableEq

namespace ProfileEntry

/-- The keywords as `validate_keywords` returns them. -/
def cleaned (e : ProfileEntry) : ProfileEntry :=
  { e with keywords := e.keywords.map Text.strip }

/-- What `validate_keywords` sees to. -/
def KeywordsValid (e : ProfileEntry) : Prop :=
  (1 ≤ e.keywords.length ∧ e.keywords.length ≤ 20) ∧
    (∀ keyword ∈ e.keywords, keyword ≠ [] ∧ keyword.length ≤ 100) ∧
    (e.keywords.map u.casefold).Nodup

instance : DecidablePred (KeywordsValid u) := fun _ => inferInstanceAs (Decidable (_ ∧ _))

/-- What `validate_category_ids` sees to. -/
def CategoriesValid (e : ProfileEntry) : Prop :=
  e.categoryIds.length ≤ 20 ∧
    (∀ id ∈ e.categoryIds, id ≠ [] ∧ id.all Text.isAsciiDigit = true) ∧ e.categoryIds.Nodup

instance : DecidablePred CategoriesValid := fun _ => inferInstanceAs (Decidable (_ ∧ _))

/-- What the types of the fields see to. -/
def FieldsValid (e : ProfileEntry) : Prop :=
  (e.shipToCountry = "BR".toList ∧ e.targetCurrency = "BRL".toList ∧
      e.targetLanguage = "PT".toList) ∧
    (1 ≤ e.pageSize ∧ e.pageSize ≤ 50) ∧ (1 ≤ e.maxPages ∧ e.maxPages ≤ 5) ∧
    (1 ≤ e.maxResults ∧ e.maxResults ≤ 250) ∧ (1 ≤ e.maxApiCalls ∧ e.maxApiCalls ≤ 20) ∧
    (0 < e.minimumPriceDropPercent ∧ e.minimumPriceDropPercent ≤ 100)

instance : DecidablePred FieldsValid := fun _ => inferInstanceAs (Decidable (_ ∧ _))

/-- What the validators of a profile see to. -/
def Valid (e : ProfileEntry) : Prop :=
  e.KeywordsValid u ∧ e.CategoriesValid ∧ e.FieldsValid ∧
    ∀ refinement ∈ e.skuRefinement, (refinement.validate u).isSome = true

instance : DecidablePred (Valid u) := fun _ => inferInstanceAs (Decidable (_ ∧ _))

end ProfileEntry

/-- `DiscoveryProfile`: an entry that was accepted. -/
structure ConfiguredProfile where
  entry : ProfileEntry
  valid : entry.Valid u
  stripped : ∀ keyword ∈ entry.keywords, keyword.strip = keyword

/-- Stripping twice strips once. -/
theorem strip_strip (t : Text) : t.strip.strip = t.strip := by
  have hdrop : t.strip.dropWhile Text.isSpace = t.strip := by
    cases hstrip : t.strip with
    | nil => rfl
    | cons c rest =>
      have hprefix : c :: rest <+: t.dropWhile Text.isSpace := hstrip ▸ List.rdropWhile_prefix _ _
      obtain ⟨tail, htail⟩ := hprefix
      have hc : Text.isSpace c = false := by
        have hhead := List.head?_dropWhile_not Text.isSpace t
        rw [← htail] at hhead
        simpa using hhead
      rw [List.dropWhile_cons, if_neg (by rw [hc]; exact Bool.false_ne_true)]
  unfold Text.strip Text.rstripBy at hdrop ⊢
  rw [hdrop]
  exact List.rdropWhile_idempotent _ _

/-- `DiscoveryProfile.model_validate`, as `load_discovery_profiles` calls it. -/
def validateProfile (raw : ProfileEntry) : Except String (ConfiguredProfile u) :=
  if h : raw.cleaned.Valid u then
    .ok ⟨raw.cleaned, h, by
      intro keyword hkeyword
      obtain ⟨text, -, rfl⟩ := List.mem_map.1 hkeyword
      exact strip_strip text⟩
  else .error "ALIEXPRESS_DISCOVERY_PROFILE_INVALID"

namespace ConfiguredProfile

variable {u}

/-- What the loop of a scan reads of a profile. -/
def discoveryProfile (p : ConfiguredProfile u) : DiscoveryProfile where
  keywords := p.entry.keywords
  pageSize := p.entry.pageSize.toNat
  maxPages := p.entry.maxPages.toNat
  maxResults := p.entry.maxResults.toNat
  maxApiCalls := p.entry.maxApiCalls.toNat
  minimumPriceDropPercent := p.entry.minimumPriceDropPercent

end ConfiguredProfile

/-! ## A page of a keyword -/

def operationName : DiscoveryOperation → Text
  | .productQuery => TopRequests.productQuery
  | .hotproductQuery => TopRequests.hotproductQuery

theorem operationName_injective : Function.Injective operationName := by
  intro operation operation' h
  cases operation <;> cases operation'
  case productQuery.hotproductQuery => exact absurd h (by decide)
  case hotproductQuery.productQuery => exact absurd h (by decide)
  all_goals rfl

/-- What a scan asks for at once. -/
structure PageQuery where
  operation : DiscoveryOperation
  keyword : Text
  categoryIds : List Text
  shipToCountry : Text
  targetCurrency : Text
  targetLanguage : Text
  pageNo : Nat
  pageSize : Nat
  deriving DecidableEq

namespace PageQuery

/-- `query_page` of the gateway of the operation: the payload it has built. -/
def call {u : PyUnicode} (q : PageQuery) (trackingId : Text) : Call u :=
  match q.operation with
  | .productQuery => .productQuery (discoveryQuery trackingId q.keyword q.categoryIds
      q.shipToCountry q.targetCurrency q.targetLanguage q.pageNo q.pageSize)
  | .hotproductQuery => .hotproductQuery trackingId q.keyword q.categoryIds q.shipToCountry
      q.targetCurrency q.targetLanguage q.pageNo q.pageSize

/-- `sorted(category_ids)`. -/
def sortedCategories (q : PageQuery) : List Text :=
  q.categoryIds.insertionSort fun a b => a ≤ b

/-- The dictionary that is fingerprinted. -/
def fields (q : PageQuery) : List (String × Json) :=
  [("operation", .str (operationName q.operation)), ("keyword", .str q.keyword),
    ("category_ids", .arr (q.sortedCategories.map .str)),
    ("ship_to_country", .str q.shipToCountry), ("target_currency", .str q.targetCurrency),
    ("target_language", .str q.targetLanguage), ("page_no", .int q.pageNo),
    ("page_size", .int q.pageSize), ("platform_product_type", .str "ALL".toList)]

/-- The message that is fingerprinted. -/
def message (q : PageQuery) : Text := dumps .compact (sortKeys (.obj q.fields))

/-- Two queries ask for one page: they differ in the order of their categories at most. -/
def SamePage (q q' : PageQuery) : Prop :=
  { q with categoryIds := [] } = { q' with categoryIds := [] } ∧
    q.categoryIds.Perm q'.categoryIds

instance (q q' : PageQuery) : Decidable (q.SamePage q') := inferInstanceAs (Decidable (_ ∧ _))

end PageQuery

variable (hmac : Text → Text → Text)

/-- `_contextual_fingerprint`, of a secret and a value that are not empty. -/
def contextualFingerprint (secret domain value : Text) : Text := hmac (hmac secret domain) value

/-- `discovery_query_fingerprint`. -/
def discoveryQueryFingerprint (secret : Text) (q : PageQuery) : Text :=
  contextualFingerprint hmac secret "aliexpress-discovery-query-v1".toList q.message

/-- `discovery_tracking_fingerprint`. -/
def discoveryTrackingFingerprint (secret trackingId : Text) : Text :=
  contextualFingerprint hmac secret "aliexpress-discovery-tracking-v1".toList trackingId

/-- A call of `run_aliexpress_discovery_scan`: the arguments it passes to `scan`, and to the
gateway. -/
structure ScanCall where
  profileName : Text
  profileFingerprint : Text
  profile : ConfiguredProfile u
  appSecret : Text
  trackingId : Text
  sourceOperation : DiscoveryOperation
  configured : appSecret ≠ [] ∧ trackingId ≠ []

namespace ScanCall

variable {u}

def query (c : ScanCall u) (keyword : Text) (pageNo : Nat) : PageQuery where
  operation := c.sourceOperation
  keyword := keyword
  categoryIds := c.profile.entry.categoryIds
  shipToCountry := c.profile.entry.shipToCountry
  targetCurrency := c.profile.entry.targetCurrency
  targetLanguage := c.profile.entry.targetLanguage
  pageNo := pageNo
  pageSize := c.profile.entry.pageSize.toNat

/-- The fingerprints of a page of a keyword. -/
def key (c : ScanCall u) (keyword : Text) (pageNo : Nat) : QueryKey where
  query := discoveryQueryFingerprint hmac c.appSecret (c.query keyword pageNo)
  tracking := discoveryTrackingFingerprint hmac c.appSecret c.trackingId

/-- The job of a scanner. -/
def job (c : ScanCall u) : ScanJob where
  profileName := c.profileName
  profileFingerprint := c.profileFingerprint
  profile := c.profile.discoveryProfile
  sourceOperation := c.sourceOperation
  key := c.key hmac

end ScanCall

/-! ## What a fingerprint stands for -/

namespace PageQuery

theorem exact_fields (q : PageQuery) : Exact (.obj q.fields) := by
  refine ⟨?_, ?_⟩
  · show ["operation", "keyword", "category_ids", "ship_to_country", "target_currency",
      "target_language", "page_no", "page_size", "platform_product_type"].Nodup
    decide
  · refine (exactFields_iff _).2 fun e he => ?_
    simp only [fields, List.mem_cons, List.not_mem_nil, or_false] at he
    rcases he with rfl | rfl | rfl | rfl | rfl | rfl | rfl | rfl | rfl
    case inr.inr.inl =>
      refine (exactItems_iff _).2 fun v hv => ?_
      obtain ⟨id, -, rfl⟩ := List.mem_map.1 hv
      trivial
    all_goals trivial

theorem sortKeys_categories (q : PageQuery) :
    sortKeys (.arr (q.sortedCategories.map .str)) = .arr (q.sortedCategories.map .str) := by
  rw [sortKeys, sortItems_eq_map, List.map_map]
  rfl

theorem sortedCategories_eq_iff {q q' : PageQuery} :
    q.sortedCategories = q'.sortedCategories ↔ q.categoryIds.Perm q'.categoryIds := by
  constructor
  · intro h
    exact ((List.perm_insertionSort _ _).symm.trans (.of_eq h)).trans (List.perm_insertionSort _ _)
  · exact fun h => RowOrder.insertionSort_eq_of_perm _ h fun _ _ _ _ => le_antisymm

/-- **A message tells which page is asked for**, and is the same for every query of it. -/
theorem message_eq_iff {q q' : PageQuery} : q.message = q'.message ↔ q.SamePage q' := by
  constructor
  · intro h
    have hlookup := lookup_of_hashedBytes_eq q.exact_fields q'.exact_fields (congrArg encode h)
    have hcategories : Json.arr (q.sortedCategories.map .str) =
        .arr (q'.sortedCategories.map .str) := by
      have hsorted := Option.some.inj (hlookup "category_ids")
      rwa [sortKeys_categories, sortKeys_categories] at hsorted
    have hoperation : operationName q.operation = operationName q'.operation :=
      Json.str.inj (Option.some.inj (hlookup "operation"))
    have hkeyword := Json.str.inj (Option.some.inj (hlookup "keyword"))
    have hcountry := Json.str.inj (Option.some.inj (hlookup "ship_to_country"))
    have hcurrency := Json.str.inj (Option.some.inj (hlookup "target_currency"))
    have hlanguage := Json.str.inj (Option.some.inj (hlookup "target_language"))
    have hpageNo := Int.ofNat.inj (Json.int.inj (Option.some.inj (hlookup "page_no")))
    have hpageSize := Int.ofNat.inj (Json.int.inj (Option.some.inj (hlookup "page_size")))
    refine ⟨?_, sortedCategories_eq_iff.1 ?_⟩
    · simp only [operationName_injective hoperation, hkeyword, hcountry, hcurrency, hlanguage,
        hpageNo, hpageSize]
    · exact List.map_injective_iff.2 (fun _ _ => Json.str.inj) (Json.arr.inj hcategories)
  · rintro ⟨hfields, hcategories⟩
    have hsorted := sortedCategories_eq_iff.2 hcategories
    obtain ⟨operation, keyword, categoryIds, country, currency, language, pageNo, pageSize⟩ := q
    simp only [mk.injEq] at hfields
    obtain ⟨rfl, rfl, -, rfl, rfl, rfl, rfl, rfl⟩ := hfields
    rw [message, message, fields, fields, hsorted]

end PageQuery

variable {hmac}

/-- The fingerprint of the one value is that of the other. -/
def Collision (hmac : Text → Text → Text) (secret domain value value' : Text) : Prop :=
  value ≠ value' ∧ contextualFingerprint hmac secret domain value =
    contextualFingerprint hmac secret domain value'

theorem contextualFingerprint_eq_iff {secret domain value value' : Text} :
    contextualFingerprint hmac secret domain value =
        contextualFingerprint hmac secret domain value' ↔
      value = value' ∨ Collision hmac secret domain value value' := by
  unfold Collision
  by_cases hvalue : value = value'
  · simp [hvalue]
  · simp [hvalue]

namespace ScanCall

variable {u}

/-- **The fingerprints of a page tell which page it is**, and for whom it is asked, whatever
the order of the categories, as long as HMAC does not collide. -/
theorem key_eq_iff {c c' : ScanCall u} (hsecret : c.appSecret = c'.appSecret)
    {keyword keyword' : Text} {pageNo pageNo' : Nat} :
    c.key hmac keyword pageNo = c'.key hmac keyword' pageNo' ↔
      ((c.query keyword pageNo).SamePage (c'.query keyword' pageNo') ∨
        Collision hmac c.appSecret "aliexpress-discovery-query-v1".toList
          (c.query keyword pageNo).message (c'.query keyword' pageNo').message) ∧
      (c.trackingId = c'.trackingId ∨
        Collision hmac c.appSecret "aliexpress-discovery-tracking-v1".toList c.trackingId
          c'.trackingId) := by
  unfold key discoveryQueryFingerprint discoveryTrackingFingerprint
  rw [QueryKey.mk.injEq, ← hsecret, contextualFingerprint_eq_iff, contextualFingerprint_eq_iff,
    PageQuery.message_eq_iff]

end ScanCall

/-! ## A query on the wire -/

/-- A query `query_page` can be called with. -/
structure PageQuery.Askable (q : PageQuery) : Prop where
  shipToCountry : q.shipToCountry = "BR".toList
  targetCurrency : q.targetCurrency = "BRL".toList
  targetLanguage : q.targetLanguage = "PT".toList
  keyword_ne : q.keyword ≠ []
  stripped : q.keyword.strip = q.keyword
  digits : ∀ id ∈ q.categoryIds, id ≠ [] ∧ id.all Text.isAsciiDigit = true
  pageNo_pos : 1 ≤ q.pageNo
  pageSize_bounds : 1 ≤ q.pageSize ∧ q.pageSize ≤ 50

/-- A page of a scan can be asked for. -/
theorem ScanCall.askable {c : ScanCall u} {keyword : Text}
    (hkeyword : keyword ∈ c.profile.entry.keywords) {pageNo : Nat} (hpage : 1 ≤ pageNo) :
    (c.query keyword pageNo).Askable := by
  obtain ⟨⟨-, hkeywords, -⟩, ⟨-, hcategories, -⟩,
    ⟨⟨hcountry, hcurrency, hlanguage⟩, hsize, -⟩, -⟩ := c.profile.valid
  exact {
    shipToCountry := hcountry
    targetCurrency := hcurrency
    targetLanguage := hlanguage
    keyword_ne := (hkeywords keyword hkeyword).1
    stripped := c.profile.stripped keyword hkeyword
    digits := hcategories
    pageNo_pos := hpage
    pageSize_bounds := by
      show 1 ≤ c.profile.entry.pageSize.toNat ∧ c.profile.entry.pageSize.toNat ≤ 50
      omega }

/-- What the functions of `contracts.py` rely on of Python's texts; all of it is so of
ASCII. -/
structure AsciiTexts (u : PyUnicode) (isAlpha : Char → Bool) : Prop where
  upper : ∀ code ∈ ["BR", "BRL", "PT", "ALL"].map String.toList, u.upper code = code
  isDigit : ∀ c, Text.isAsciiDigit c = true → u.isDigit c = true
  isAlpha : isAlpha 'B' = true ∧ isAlpha 'R' = true

/-- The dictionary of a query that was accepted. -/
def queryFields (q : PageQuery) (trackingId : Text) : List (String × Option Text) :=
  [("target_currency", some q.targetCurrency), ("target_language", some q.targetLanguage),
    ("tracking_id", some trackingId.strip), ("ship_to_country", some q.shipToCountry),
    ("category_ids", (optionalList q.categoryIds).map commaJoin), ("fields", none),
    ("keywords", some q.keyword), ("page_no", some (Text.ofNat q.pageNo)),
    ("page_size", some (Text.ofNat q.pageSize)), ("platform_product_type", some "ALL".toList),
    ("sort", none), ("promotion_name", none), ("delivery_days", none)]

section Payload

variable {u} {isAlpha : Char → Bool}

theorem strip_of_digits {t : Text} (h : t.all Text.isAsciiDigit = true) : t.strip = t := by
  have hspace : ∀ c ∈ t, ¬ Text.isSpace c = true := fun c hc =>
    Bool.eq_false_iff.1 (isSpace_of_isAsciiDigit (List.all_eq_true.1 h c hc))
  have hdrop : t.dropWhile Text.isSpace = t := by
    cases t with
    | nil => rfl
    | cons c t => exact List.dropWhile_cons_of_neg (hspace c List.mem_cons_self)
  rw [Text.strip, hdrop, Text.rstripBy, List.rdropWhile_eq_self_iff]
  exact fun hne => hspace _ (List.getLast_mem hne)

theorem documented_eq_ok {codes : List Text} {message : String} {code : Text}
    (hcode : code ∈ codes) (hupper : u.upper code = code) (hstrip : code.strip = code) :
    documented u codes message code = .ok code := by
  unfold documented
  rw [hstrip, hupper]
  exact bind_eq_ok.2 ⟨⟨⟩, check_eq_ok.2 hcode, rfl⟩

theorem required_of_marked {t : Text} {name : String} (h : t.strip ≠ []) :
    required t name = .ok t.strip :=
  bind_eq_ok.2 ⟨⟨⟩, check_eq_ok.2 h, rfl⟩

theorem csvIds_of_digits (hu : AsciiTexts u isAlpha) {ids : List Text} {name : String}
    (hne : ids ≠ []) (h : ∀ id ∈ ids, id ≠ [] ∧ id.all Text.isAsciiDigit = true) :
    csvIds u ids name = .ok (commaJoin ids) := by
  have hid : ∀ id ∈ ids, identifier u id name = .ok id := by
    intro id hmem
    obtain ⟨hid, hdigits⟩ := h id hmem
    have hstrip := strip_of_digits hdigits
    have hall : id.all u.isDigit = true := List.all_eq_true.2 fun c hc =>
      hu.isDigit c (List.all_eq_true.1 hdigits c hc)
    refine bind_eq_ok.2 ⟨id, ?_, bind_eq_ok.2 ⟨⟨⟩, check_eq_ok.2 hall, rfl⟩⟩
    rw [required_of_marked (hstrip.symm ▸ hid), hstrip]
  have hmap : ids.mapM (fun id => identifier u id name) = .ok ids :=
    mapM_eq_ok.2 (List.forall₂_same.2 hid)
  exact bind_eq_ok.2 ⟨⟨⟩, check_eq_ok.2 hne, bind_eq_ok.2 ⟨ids, hmap, rfl⟩⟩

theorem optionalInt_of_pos {n : Nat} (name : String) (maximum : Option Int) (h : 1 ≤ n)
    (hmaximum : ∀ bound ∈ maximum, (n : Int) ≤ bound) :
    optionalInt (some (n : Int)) name 1 maximum = .ok (some (Text.ofNat n)) := by
  have hone : (1 : Int) ≤ n := by omega
  have hgiven : (some (n : Int)).filter (fun n => n ≠ 0) = some (n : Int) :=
    Option.filter_some_pos (decide_eq_true (by omega))
  rw [optionalInt, hgiven]
  exact map_eq_ok.2 ⟨_, bind_eq_ok.2 ⟨⟨⟩, check_eq_ok.2 ⟨hone, hmaximum⟩, rfl⟩, rfl⟩

/-- **The payload of a page**: nothing is refused, and nothing is changed. -/
theorem productQueryPayload_discoveryQuery (hu : AsciiTexts u isAlpha) {q : PageQuery}
    (hq : q.Askable) {trackingId : Text} (htracking : trackingId.strip ≠ []) :
    productQueryPayload u isAlpha (discoveryQuery trackingId q.keyword q.categoryIds
      q.shipToCountry q.targetCurrency q.targetLanguage q.pageNo q.pageSize) =
      .ok (present (queryFields q trackingId)) := by
  have hcurrency : currency u q.targetCurrency = .ok q.targetCurrency := by
    rw [hq.targetCurrency]
    exact documented_eq_ok (by decide) (hu.upper _ (by decide)) (by decide)
  have hlanguage : language u q.targetLanguage = .ok q.targetLanguage := by
    rw [hq.targetLanguage]
    exact documented_eq_ok (by decide) (hu.upper _ (by decide)) (by decide)
  have hcountry : country u isAlpha q.shipToCountry = .ok q.shipToCountry := by
    have hstrip : Text.strip "BR".toList = "BR".toList := by decide
    unfold country
    rw [hq.shipToCountry, hstrip, hu.upper _ (by decide)]
    have hall : "BR".toList.all isAlpha = true := by
      show (isAlpha 'B' && (isAlpha 'R' && true)) = true
      rw [hu.isAlpha.1, hu.isAlpha.2]
      rfl
    exact bind_eq_ok.2 ⟨⟨⟩, check_eq_ok.2 ⟨rfl, hall⟩, rfl⟩
  have hcategories : given (csvIds u · "category_ids") (optionalList q.categoryIds) =
      .ok ((optionalList q.categoryIds).map commaJoin) := by
    unfold optionalList
    split
    · rfl
    · next hne => exact map_eq_ok.2 ⟨_, csvIds_of_digits hu hne hq.digits, rfl⟩
  have hplatform : choice u (some "ALL".toList) "platform_product_type"
      (["ALL", "PLAZA", "TMALL"].map String.toList) = .ok (some "ALL".toList) :=
    map_eq_ok.2 ⟨_, documented_eq_ok (by decide) (hu.upper _ (by decide)) (by decide), rfl⟩
  have hkeyword : Contracts.optional (some q.keyword) = some q.keyword := by
    show (some q.keyword.strip).filter (fun cleaned => cleaned ≠ []) = some q.keyword
    rw [hq.stripped]
    exact Option.filter_some_pos (decide_eq_true hq.keyword_ne)
  have hpageNo := optionalInt_of_pos "page_no" none hq.pageNo_pos (by simp)
  have hpageSize := optionalInt_of_pos "page_size" (some 50) hq.pageSize_bounds.1 (by
    intro bound hbound
    obtain rfl := Option.some.inj hbound
    exact Int.ofNat_le.2 hq.pageSize_bounds.2)
  unfold productQueryPayload
  refine bind_eq_ok.2 ⟨_, hcurrency, bind_eq_ok.2 ⟨_, hlanguage, bind_eq_ok.2
    ⟨_, required_of_marked htracking, bind_eq_ok.2 ⟨_, hcountry, bind_eq_ok.2
    ⟨_, hcategories, bind_eq_ok.2 ⟨none, rfl, bind_eq_ok.2 ⟨_, hpageNo, bind_eq_ok.2
    ⟨_, hpageSize, bind_eq_ok.2 ⟨_, hplatform, bind_eq_ok.2 ⟨none, rfl, ?_⟩⟩⟩⟩⟩⟩⟩⟩⟩⟩
  show Except.ok _ = Except.ok _
  rw [show (discoveryQuery trackingId q.keyword q.categoryIds q.shipToCountry q.targetCurrency
    q.targetLanguage q.pageNo q.pageSize).keywords = some q.keyword from rfl, hkeyword]
  rfl

theorem payload_call (hu : AsciiTexts u isAlpha) {q : PageQuery} (hq : q.Askable)
    {trackingId : Text} (htracking : trackingId.strip ≠ []) :
    (q.call trackingId).payload u isAlpha = .ok (present (queryFields q trackingId)) := by
  unfold PageQuery.call
  split <;> exact productQueryPayload_discoveryQuery hu hq htracking

end Payload

/-! ## Reading a query back -/

/-- The value of an optional name is found under it. -/
theorem lookup_present {fields : List (String × Option Text)} (h : (fields.map Prod.fst).Nodup)
    (name : String) : (present fields).lookup name.toList = (fields.lookup name).join := by
  induction fields with
  | nil => rfl
  | cons e fields ih =>
    obtain ⟨first, value⟩ := e
    rw [List.map_cons, List.nodup_cons] at h
    have hrest := ih h.2
    rw [List.lookup_cons]
    by_cases hname : name = first
    · subst hname
      rw [beq_self_eq_true]
      cases value with
      | none =>
        show (present fields).lookup name.toList = none
        rw [hrest, Lookup.lookup_eq_none_iff_not_mem.2 h.1]
        rfl
      | some value =>
        show ((name.toList, value) :: present fields).lookup name.toList = some value
        rw [List.lookup_cons, beq_self_eq_true]
    · rw [beq_false_of_ne hname]
      cases value with
      | none => exact hrest
      | some value =>
        show ((first.toList, value) :: present fields).lookup name.toList = _
        have hlist : name.toList ≠ first.toList := fun heq => hname (String.toList_inj.1 heq)
        rw [List.lookup_cons, beq_false_of_ne hlist]
        exact hrest

structure AsksFor (q : PageQuery) (trackingId : Text) (pairs : List (Text × Text)) : Prop where
  keyword : pairs.lookup "keywords".toList = some q.keyword
  categories : ((pairs.lookup "category_ids".toList).map (·.split ',')).getD [] = q.categoryIds
  shipToCountry : pairs.lookup "ship_to_country".toList = some q.shipToCountry
  targetCurrency : pairs.lookup "target_currency".toList = some q.targetCurrency
  targetLanguage : pairs.lookup "target_language".toList = some q.targetLanguage
  pageNo : pairs.lookup "page_no".toList = some (Text.ofNat q.pageNo)
  pageSize : pairs.lookup "page_size".toList = some (Text.ofNat q.pageSize)
  trackingId : pairs.lookup "tracking_id".toList = some trackingId.strip

theorem commaJoin_eq_intercalate (parts : List Text) :
    commaJoin parts = [','].intercalate parts := by
  induction parts with
  | nil => rfl
  | cons part parts ih =>
    cases parts with
    | nil => exact List.intercalate_singleton.symm
    | cons next parts =>
      show part ++ ',' :: commaJoin (next :: parts) = _
      rw [ih, List.intercalate_cons_cons, List.append_assoc]
      rfl

theorem split_commaJoin {parts : List Text} (hne : parts ≠ []) (h : ∀ part ∈ parts, ',' ∉ part) :
    (commaJoin parts).split ',' = parts :=
  (Text.split_eq_iff hne).2 ⟨h, commaJoin_eq_intercalate parts⟩

theorem nodup_queryFields (q : PageQuery) (trackingId : Text) :
    ((queryFields q trackingId).map Prod.fst).Nodup := by
  show ["target_currency", "target_language", "tracking_id", "ship_to_country", "category_ids",
    "fields", "keywords", "page_no", "page_size", "platform_product_type", "sort",
    "promotion_name", "delivery_days"].Nodup
  decide

theorem asksFor_sortedItems {q : PageQuery} (hq : q.Askable) (trackingId : Text) :
    AsksFor q trackingId (sortedItems (present (queryFields q trackingId))) := by
  have hnodup : ((sortedItems (present (queryFields q trackingId))).map Prod.fst).Nodup := by
    refine (((List.perm_insertionSort _ _).map _).nodup_iff).2 ?_
    refine List.Nodup.sublist (names_present _) ?_
    exact (nodup_queryFields q trackingId).map fun _ _ => String.toList_inj.1
  have hlookup : ∀ name : String,
      (sortedItems (present (queryFields q trackingId))).lookup name.toList =
        ((queryFields q trackingId).lookup name).join := fun name =>
    (Lookup.lookup_perm (List.perm_insertionSort _ _) hnodup _).trans
      (lookup_present (nodup_queryFields q trackingId) name)
  refine ⟨hlookup "keywords", ?_, hlookup "ship_to_country", hlookup "target_currency",
    hlookup "target_language", hlookup "page_no", hlookup "page_size", hlookup "tracking_id"⟩
  rw [hlookup "category_ids"]
  show (((optionalList q.categoryIds).map commaJoin).map (·.split ',')).getD [] = q.categoryIds
  unfold optionalList
  split
  · next hnil => exact hnil.symm
  · next hne =>
    refine split_commaJoin hne fun id hid hcomma => ?_
    have hdigit := List.all_eq_true.1 (hq.digits id hid).2 ',' hcomma
    exact absurd hdigit (by decide)

section Gateway

variable {u} {isAlpha : Char → Bool} (hmac) (builder : AliExpressTopRequestBuilder)
  (timestampMs : Int) (session : Option Text) (debug : Bool)

/-- **A page of a configured scan is asked for as the profile has it.**  Its payload is not
refused, its request is signed, and who reads the body back finds the keyword, the categories in
their order, the page and its size, and the tracking identifier without blanks around it. -/
theorem query_on_wire (hu : u.DecodesUtf8) (hascii : AsciiTexts u isAlpha)
    (hletters : ∀ c, isAlpha c = true → Text.isSpace c = false) (c : ScanCall u) {keyword : Text}
    (hkeyword : keyword ∈ c.profile.entry.keywords) {pageNo : Nat} (hpage : 1 ≤ pageNo)
    (htracking : c.trackingId.strip ≠ []) :
    ∃ payload, ((c.query keyword pageNo).call c.trackingId).payload u isAlpha = .ok payload ∧
      ∀ parameters : PyDict Text (Option Text),
        parameters.items = payload.map (fun e => (e.1, some e.2)) →
        ∃ r, TopRequests.prepare hmac builder (operationName c.sourceOperation) parameters
            timestampMs session debug = .ok r ∧
          CarriesSigned u hmac builder.appSecret (operationName c.sourceOperation)
            (commonParameters builder (operationName c.sourceOperation) timestampMs session debug ++
              payload) r ∧
          AsksFor (c.query keyword pageNo) c.trackingId (PyUrl.parseQsl u r.encodedForm) := by
  have hq := ScanCall.askable u hkeyword hpage
  have hpayload := payload_call hascii hq htracking
  refine ⟨_, hpayload, fun parameters hitems => ?_⟩
  have hoperation : operationName c.sourceOperation ∈ authorizedOperations := by
    cases c.sourceOperation <;> decide
  obtain ⟨r, hr, hcarries, hread⟩ := (sendable_payload hletters hpayload).on_wire hmac builder
    timestampMs session debug hu hoperation hitems
  exact ⟨r, hr, hcarries, hread ▸ asksFor_sortedItems hq c.trackingId⟩

end Gateway

/-! ## A configured scan -/

/-- A profile as it stands in a file. -/
def onePageEntry : ProfileEntry where
  keywords := ["  fone & cabo ".toList, "Mouse".toList]
  categoryIds := ["7".toList, "44".toList]
  shipToCountry := "BR".toList
  targetCurrency := "BRL".toList
  targetLanguage := "PT".toList
  pageSize := 20
  maxPages := 1
  maxResults := 10
  maxApiCalls := 2
  minimumPriceDropPercent := 5
  skuRefinement := none

def onePageProfile : ConfiguredProfile .utf8Reader :=
  ⟨onePageEntry.cleaned, by decide +kernel, by decide +kernel⟩

/-- A scan with the profile, its categories in the order given. -/
def onePageCall (categoryIds : List Text)
    (h : ({ onePageEntry.cleaned with categoryIds := categoryIds }).Valid .utf8Reader := by
      decide +kernel) : ScanCall .utf8Reader where
  profileName := "one".toList
  profileFingerprint := "one".toList
  profile := ⟨{ onePageEntry.cleaned with categoryIds := categoryIds }, h, by
    exact onePageProfile.stripped⟩
  appSecret := "s".toList
  trackingId := " t1".toList
  sourceOperation := .hotproductQuery
  configured := by decide

example : validateProfile .utf8Reader onePageEntry = .ok onePageProfile := rfl

/-- The body of the query, with its ampersand and its comma. -/
theorem query_on_wire_onePage : ∃ r,
    TopRequests.prepare (fun _ _ => "AB".toList) ⟨"key".toList, "secret".toList⟩
        TopRequests.hotproductQuery
        ⟨oneQueryPayload.map fun e => (e.1, some e.2), by decide⟩ 1 none false = .ok r ∧
      AsksFor ((onePageCall ["7".toList, "44".toList]).query "fone & cabo".toList 1)
        " t1".toList (PyUrl.parseQsl .utf8Reader r.encodedForm) := by
  have hascii : AsciiTexts .utf8Reader Text.isAsciiLetter :=
    ⟨by decide, fun _ h => h, by decide, by decide⟩
  obtain ⟨payload, hpayload, hwire⟩ := query_on_wire (fun _ _ => "AB".toList)
    ⟨"key".toList, "secret".toList⟩ 1 none false PyUnicode.utf8Reader_decodesUtf8 hascii
    (fun _ => isSpace_of_isAsciiLetter) (onePageCall ["7".toList, "44".toList])
    (show "fone & cabo".toList ∈ _ by decide) (Nat.le_refl 1) (by decide)
  obtain rfl : oneQueryPayload = payload := Except.ok.inj (by rw [← hpayload]; decide +kernel)
  obtain ⟨r, hr, -, hasks⟩ := hwire ⟨_, by decide⟩ rfl
  exact ⟨r, hr, hasks⟩

end Discovery
end PromoBot
