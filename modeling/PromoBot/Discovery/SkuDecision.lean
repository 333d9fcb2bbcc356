import Mathlib.Data.List.Perm.Basic
import PromoBot.Lib.Fallible
import PromoBot.Discovery.SkuMatcher

/-!
# What the matcher decides

`match_discovery_skus` goes through the SKUs of a page, their attributes and the requirements
in loops, and keeps the labels it has seen to notice that one contradicts another.  Here is
what these loops decide, in terms in which no order occurs (`IsValid`, `Satisfies`):

* a SKU is selected exactly if all are valid and it is the one that meets all requirements;
* the order of the SKUs, of their attributes and of the requirements changes nothing.

## One bad SKU decides for all

The matcher is cautious: it answers with a SKU only where it has understood all of the page.  A
SKU of another product, in another currency, without a price or with attributes which
contradict each other sends the whole page to a reviewer, wherever it stands, even if another
one would have matched before the loop came to it.  So *valid* is a condition on all of the
page, and the three answers are told apart by one number, how many SKUs meet the requirements.

## The loop that remembers

Order could come in at one place only.  The labels of a SKU are read into a dictionary, and a
label which is there already is compared with what was seen; what is compared with what then
depends on which came first.  `attributesAgree_iff` says that the outcome does not: the loop
succeeds exactly if no two attributes contradict each other and none contradicts what was there
when it began. The induction is on the attributes, with the dictionary as a parameter, since it
grows.

After that, requirements are a conjunction and SKUs are filtered, and both are the same for a
permutation.
-/

namespace PromoBot
namespace Discovery

variable (u : PyUnicode)

/-! ## What is decided -/

/-- A SKU can be compared: it is of the product and in reais, has a price and attributes, and
no two of its attributes have one name and two values. -/
structure IsValid (productId : Text) (sku : DiscoverySku) : Prop where
  product : sku.productId = productId
  currency : sku.currency = "BRL".toList
  price : 0 < sku.salePriceWithTax
  attributes : sku.attributes ≠ []
  labels : ∀ a ∈ sku.attributes, skuLabel u a.name ≠ [] ∧ skuLabel u a.value ≠ []
  agree : ∀ a ∈ sku.attributes, ∀ b ∈ sku.attributes,
    skuLabel u a.name = skuLabel u b.name → skuLabel u a.value = skuLabel u b.value

/-- A SKU meets all requirements: for each it has an attribute of one of the names with one of
the values. -/
def Satisfies (requirements : List SkuRequirement) (sku : DiscoverySku) : Prop :=
  ∀ requirement ∈ requirements, ∃ a ∈ sku.attributes,
    skuLabel u a.name ∈ requirement.propertyNames ∧
      skuLabel u a.value ∈ requirement.acceptedValues

instance (requirements : List SkuRequirement) : DecidablePred (Satisfies u requirements) :=
  fun _ => inferInstanceAs (Decidable (∀ _ ∈ _, ∃ _ ∈ _, _))

/-- The answer of a page whose SKUs can be compared, from those that meet all requirements. -/
def answerOf : List DiscoverySku → SkuMatchResult
  | [sku] => ⟨.matched, some sku, [sku]⟩
  | [] => ⟨.noMatch, none, []⟩
  | alternatives => ⟨.ambiguous, none, alternatives⟩

/-- The SKUs agree but for the order of their attributes. -/
structure SameSku (sku sku' : DiscoverySku) : Prop where
  productId : sku.productId = sku'.productId
  skuId : sku.skuId = sku'.skuId
  currency : sku.currency = sku'.currency
  priceWithTax : sku.priceWithTax = sku'.priceWithTax
  salePriceWithTax : sku.salePriceWithTax = sku'.salePriceWithTax
  discountPercent : sku.discountPercent = sku'.discountPercent
  attributes : sku.attributes.Perm sku'.attributes

/-- The lists have the same SKUs, in any order and with their attributes in any order. -/
def SameSkus (skus skus' : List DiscoverySku) : Prop :=
  ∃ between, List.Forall₂ SameSku skus between ∧ between.Perm skus'

/-- The pages agree but for the order of their SKUs and of the attributes of each. -/
def Rearranged (page page' : DiscoverySkuPage) : Prop :=
  page.productId = page'.productId ∧ SameSkus page.skus page'.skus

/-- The answers agree but for the order of the alternatives, and of the attributes of each. -/
def SameAnswer (result result' : SkuMatchResult) : Prop :=
  result.state = result'.state ∧ Option.Rel SameSku result.selected result'.selected ∧
    SameSkus result.alternatives result'.alternatives

variable {u} {seen : List (Text × Text)} {attributes : List DiscoverySkuAttribute}
  {productId : Text} {sku sku' : DiscoverySku} {skus skus' : List DiscoverySku}
  {page page' : DiscoverySkuPage} {requirements requirements' : List SkuRequirement}

/-! ## The loops -/

/-- **What the loop over the attributes decides**: all labels are there, no two attributes
contradict each other, and none contradicts what was seen. -/
theorem attributesAgree_iff : attributesAgree u seen attributes = true ↔
    (∀ a ∈ attributes, skuLabel u a.name ≠ [] ∧ skuLabel u a.value ≠ []) ∧
      (∀ a ∈ attributes, ∀ b ∈ attributes,
        skuLabel u a.name = skuLabel u b.name → skuLabel u a.value = skuLabel u b.value) ∧
      ∀ a ∈ attributes, ∀ value, seen.lookup (skuLabel u a.name) = some value →
        value = skuLabel u a.value := by
  induction attributes generalizing seen with
  | nil => simp [attributesAgree]
  | cons a attributes ih =>
    unfold attributesAgree
    dsimp only
    rw [Bool.and_eq_true, Bool.and_eq_true, Bool.and_eq_true, decide_eq_true_eq, decide_eq_true_eq,
      Option.all_eq_true, ih]
    constructor
    · rintro ⟨⟨⟨hname, hvalue⟩, hseen⟩, hlabels, hagree, hrest⟩
      -- what follows agrees with this attribute, which has been seen by then
      have hself : ∀ b ∈ attributes, skuLabel u a.name = skuLabel u b.name →
          skuLabel u a.value = skuLabel u b.value := by
        intro b hb hsame
        refine hrest b hb _ ?_
        rw [List.lookup_cons, hsame, beq_self_eq_true]
      refine ⟨?_, ?_, ?_⟩
      · intro b hb
        rcases List.mem_cons.1 hb with rfl | hb
        · exact ⟨hname, hvalue⟩
        · exact hlabels b hb
      · intro b hb c hc hsame
        rcases List.mem_cons.1 hb with rfl | hb'
        · rcases List.mem_cons.1 hc with rfl | hc'
          · rfl
          · exact hself c hc' hsame
        · rcases List.mem_cons.1 hc with rfl | hc'
          · exact (hself b hb' hsame.symm).symm
          · exact hagree b hb' c hc' hsame
      · intro b hb value hlookup
        rcases List.mem_cons.1 hb with rfl | hb
        · exact of_decide_eq_true (hseen value hlookup)
        · by_cases hsame : skuLabel u b.name = skuLabel u a.name
          · rw [hsame] at hlookup
            rw [of_decide_eq_true (hseen value hlookup)]
            exact hself b hb hsame.symm
          · refine hrest b hb value ?_
            rw [List.lookup_cons, beq_eq_false_iff_ne.2 hsame]
            exact hlookup
    · rintro ⟨hlabels, hagree, hseen⟩
      have hmem : ∀ b ∈ attributes, b ∈ a :: attributes := fun b hb => List.mem_cons_of_mem a hb
      refine ⟨⟨hlabels a List.mem_cons_self, fun value hvalue => ?_⟩,
        fun b hb => hlabels b (hmem b hb), fun b hb c hc => hagree b (hmem b hb) c (hmem c hc),
        fun b hb value hlookup => ?_⟩
      · exact decide_eq_true (hseen a List.mem_cons_self value hvalue)
      · rw [List.lookup_cons] at hlookup
        split at hlookup
        · next hsame =>
          rw [← Option.some.inj hlookup]
          exact hagree a List.mem_cons_self b (hmem b hb) (eq_of_beq hsame).symm
        · exact hseen b (hmem b hb) value hlookup

theorem validSku_iff : validSku u sku productId = true ↔ IsValid u productId sku := by
  unfold validSku
  simp only [Bool.and_eq_true, decide_eq_true_eq, ne_eq, attributesAgree_iff]
  constructor
  · rintro ⟨⟨⟨⟨hproduct, hcurrency⟩, hprice⟩, hattributes⟩, hlabels, hagree, -⟩
    exact ⟨hproduct, hcurrency, hprice, hattributes, hlabels, hagree⟩
  · rintro ⟨hproduct, hcurrency, hprice, hattributes, hlabels, hagree⟩
    exact ⟨⟨⟨⟨hproduct, hcurrency⟩, hprice⟩, hattributes⟩, hlabels, hagree, by simp⟩

theorem matchesSku_iff : matchesSku u sku requirements = true ↔ Satisfies u requirements sku := by
  simp [matchesSku, Satisfies]

theorem filter_matchesSku : skus.filter (fun sku => matchesSku u sku requirements) =
    skus.filter fun sku => Satisfies u requirements sku := by
  refine List.filter_congr fun sku _ => ?_
  rw [Bool.eq_iff_iff, matchesSku_iff, decide_eq_true_eq]

/-- **What the matcher decides.** -/
theorem matchDiscoverySkus_eq (hrequirements : requirements ≠ []) (hpos : 1 ≤ page.skus.length)
    (hle : page.skus.length ≤ 19) :
    ((∀ sku ∈ page.skus, IsValid u page.productId sku) ∧ matchDiscoverySkus u page requirements =
        answerOf (page.skus.filter fun sku => Satisfies u requirements sku)) ∨
      ¬ (∀ sku ∈ page.skus, IsValid u page.productId sku) ∧
        matchDiscoverySkus u page requirements = .review := by
  have hcomparable : Comparable u page requirements ↔
      ∀ sku ∈ page.skus, IsValid u page.productId sku := by
    unfold Comparable
    simp only [validSku_iff]
    exact ⟨fun h => h.2.2.2, fun h => ⟨hrequirements, hpos, by omega, h⟩⟩
  unfold matchDiscoverySkus
  by_cases h : Comparable u page requirements
  · left
    rw [if_pos h]
    refine ⟨hcomparable.1 h, ?_⟩
    dsimp only
    rw [filter_matchesSku]
    generalize page.skus.filter (fun sku => decide (Satisfies u requirements sku)) = alternatives
    rcases alternatives with _ | ⟨a, _ | ⟨b, alternatives⟩⟩
    · rfl
    · rfl
    · rfl
  · right
    rw [if_neg h]
    exact ⟨fun hvalid => h (hcomparable.2 hvalid), rfl⟩

/-! ## Other orders -/

theorem SameSku.symm (h : SameSku sku sku') : SameSku sku' sku :=
  ⟨h.productId.symm, h.skuId.symm, h.currency.symm, h.priceWithTax.symm, h.salePriceWithTax.symm,
    h.discountPercent.symm, h.attributes.symm⟩

theorem SameSku.isValid (h : SameSku sku sku') (hvalid : IsValid u productId sku) :
    IsValid u productId sku' where
  product := h.productId ▸ hvalid.product
  currency := h.currency ▸ hvalid.currency
  price := h.salePriceWithTax ▸ hvalid.price
  attributes := fun hnil => hvalid.attributes (List.Perm.eq_nil (hnil ▸ h.attributes))
  labels := fun a ha => hvalid.labels a (h.attributes.mem_iff.2 ha)
  agree := fun a ha b hb => hvalid.agree a (h.attributes.mem_iff.2 ha) b
    (h.attributes.mem_iff.2 hb)

theorem SameSku.satisfies (h : SameSku sku sku') (hrequirements : requirements.Perm requirements')
    (hsku : Satisfies u requirements sku) : Satisfies u requirements' sku' := by
  intro requirement hrequirement
  obtain ⟨a, ha, hname, hvalue⟩ := hsku requirement (hrequirements.mem_iff.2 hrequirement)
  exact ⟨a, h.attributes.mem_iff.1 ha, hname, hvalue⟩

theorem SameSkus.isValid (h : SameSkus skus skus')
    (hvalid : ∀ sku ∈ skus, IsValid u productId sku) : ∀ sku ∈ skus', IsValid u productId sku := by
  obtain ⟨between, hbetween, hperm⟩ := h
  intro sku' hsku'
  obtain ⟨sku, hsku, hsame⟩ := Fallible.exists_of_mem_right hbetween (hperm.mem_iff.2 hsku')
  exact hsame.isValid (hvalid sku hsku)

theorem SameSkus.symm (h : SameSkus skus skus') : SameSkus skus' skus := by
  obtain ⟨between, hbetween, hperm⟩ := h
  have hback : List.Forall₂ SameSku between skus := hbetween.flip.imp fun _ _ hsame => hsame.symm
  obtain ⟨between', hbetween', hperm'⟩ := List.perm_comp_forall₂ hperm.symm hback
  exact ⟨between', hbetween', hperm'⟩

theorem SameSkus.filter (h : SameSkus skus skus')
    (hrequirements : requirements.Perm requirements') :
    SameSkus (skus.filter fun sku => Satisfies u requirements sku)
      (skus'.filter fun sku => Satisfies u requirements' sku) := by
  obtain ⟨between, hbetween, hperm⟩ := h
  refine ⟨between.filter fun sku => Satisfies u requirements' sku, ?_, hperm.filter _⟩
  refine List.rel_filter (fun sku sku' hsame => ?_) hbetween
  show decide (Satisfies u requirements sku) = true ↔ decide (Satisfies u requirements' sku') = true
  rw [decide_eq_true_eq, decide_eq_true_eq]
  exact ⟨hsame.satisfies hrequirements, hsame.symm.satisfies hrequirements.symm⟩

/-- The answer does not depend on the order of what meets the requirements. -/
theorem SameSkus.answerOf (h : SameSkus skus skus') :
    SameAnswer (answerOf skus) (answerOf skus') := by
  obtain ⟨between, hbetween, hperm⟩ := h
  have hsame : SameSkus skus skus' := ⟨between, hbetween, hperm⟩
  rcases skus with _ | ⟨a, _ | ⟨b, skus⟩⟩
  · cases hbetween
    obtain rfl := hperm.nil_eq
    exact ⟨rfl, .none, hsame⟩
  · obtain ⟨a', rest, ha, hrest, rfl⟩ := List.forall₂_cons_left_iff.1 hbetween
    cases hrest
    obtain rfl := List.singleton_perm.1 hperm
    exact ⟨rfl, .some ha, hsame⟩
  · have hlength := hbetween.length_eq.trans hperm.length_eq
    rcases skus' with _ | ⟨a', _ | ⟨b', skus'⟩⟩
    · cases hlength
    · cases hlength
    · exact ⟨rfl, .none, hsame⟩

/-- **The matcher selects a SKU exactly if all are valid and it is the only one that meets all
requirements; it finds several exactly if all are valid and several do; and no order matters.** -/
theorem matchDiscoverySkus_decides (u : PyUnicode) (page : DiscoverySkuPage)
    (requirements : List SkuRequirement) (hrequirements : requirements ≠ [])
    (hpos : 1 ≤ page.skus.length) (hle : page.skus.length ≤ 19) :
    (∀ sku, (matchDiscoverySkus u page requirements).state = .matched ∧
        (matchDiscoverySkus u page requirements).selected = some sku ↔
      (∀ s ∈ page.skus, IsValid u page.productId s) ∧
        (page.skus.filter fun s => Satisfies u requirements s) = [sku]) ∧
    ((matchDiscoverySkus u page requirements).state = .ambiguous ↔
      (∀ s ∈ page.skus, IsValid u page.productId s) ∧
        2 ≤ (page.skus.filter fun s => Satisfies u requirements s).length) ∧
    ∀ page' requirements', Rearranged page page' → requirements.Perm requirements' →
      SameAnswer (matchDiscoverySkus u page requirements)
        (matchDiscoverySkus u page' requirements') := by
  have hspec := matchDiscoverySkus_eq (u := u) hrequirements hpos hle
  refine ⟨fun sku => ?_, ?_, fun page' requirements' hpage hperm => ?_⟩
  · rcases hspec with ⟨hvalid, hanswer⟩ | ⟨hinvalid, hanswer⟩
    · rw [hanswer]
      rcases page.skus.filter fun s => decide (Satisfies u requirements s) with
        _ | ⟨a, _ | ⟨b, alternatives⟩⟩
      · simp [answerOf]
      · simpa [answerOf] using fun _ => hvalid
      · simp [answerOf]
    · rw [hanswer]
      simp [SkuMatchResult.review, hinvalid]
  · rcases hspec with ⟨hvalid, hanswer⟩ | ⟨hinvalid, hanswer⟩
    · rw [hanswer]
      rcases page.skus.filter fun s => decide (Satisfies u requirements s) with
        _ | ⟨a, _ | ⟨b, alternatives⟩⟩
      · simp [answerOf]
      · simp [answerOf]
      · simpa [answerOf] using hvalid
    · rw [hanswer]
      simp [SkuMatchResult.review, hinvalid]
  · obtain ⟨hproduct, hskus⟩ := hpage
    have hlength : page.skus.length = page'.skus.length := by
      obtain ⟨between, hbetween, hbetween'⟩ := hskus
      exact hbetween.length_eq.trans hbetween'.length_eq
    have hrequirements' : requirements' ≠ [] := fun hnil =>
      hrequirements (List.Perm.eq_nil (hnil ▸ hperm))
    rw [hlength] at hpos hle
    have hspec' := matchDiscoverySkus_eq (u := u) hrequirements' hpos hle
    rw [← hproduct] at hspec'
    rcases hspec with ⟨hvalid, hanswer⟩ | ⟨hinvalid, hanswer⟩
    · rcases hspec' with ⟨-, hanswer'⟩ | ⟨hinvalid', -⟩
      · rw [hanswer, hanswer']
        exact (hskus.filter hperm).answerOf
      · exact absurd (hskus.isValid hvalid) hinvalid'
    · rcases hspec' with ⟨hvalid', -⟩ | ⟨-, hanswer'⟩
      · exact absurd (hskus.symm.isValid hvalid') hinvalid
      · rw [hanswer, hanswer']
        exact ⟨rfl, .none, [], .nil, .refl _⟩

def colouredSku (skuId colour : String) : DiscoverySku :=
  ⟨"1".toList, skuId.toList, "BRL".toList, none, 10, none, [⟨" Cor ".toList, colour.toList⟩]⟩

/-- Of a blue and a red SKU, the blue one is selected where blue is asked for. -/
theorem matchDiscoverySkus_decides_colour :
    (matchDiscoverySkus .ascii ⟨"1".toList, [colouredSku "7" "Azul", colouredSku "8" "Rojo"]⟩
        [⟨["cor".toList], ["azul".toList]⟩]).state = .matched ∧
      (matchDiscoverySkus .ascii ⟨"1".toList, [colouredSku "7" "Azul", colouredSku "8" "Rojo"]⟩
        [⟨["cor".toList], ["azul".toList]⟩]).selected = some (colouredSku "7" "Azul") := by
  refine ((matchDiscoverySkus_decides .ascii _ _ (List.cons_ne_nil _ _) (by decide)
    (by decide)).1 _).2 ⟨?_, by decide +kernel⟩
  have hvalid : ∀ s ∈ [colouredSku "7" "Azul", colouredSku "8" "Rojo"],
      validSku .ascii s "1".toList = true := by decide +kernel
  exact fun s hs => validSku_iff.1 (hvalid s hs)

end Discovery
end PromoBot
