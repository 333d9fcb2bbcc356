import PromoBot.Lib.PyDecimal
import PromoBot.Lib.PyUrl

/-!
# Matching the SKUs of a product

`discovery/sku_matcher.py` and the values it works on: a page of SKUs is matched against
the requirements of a profile, and a SKU is selected only if it is the one that meets them
all.  A page with anything malformed in it is left to a reviewer as a whole.
-/

namespace PromoBot
namespace Discovery

/-- `DiscoverySkuAttribute`. -/
structure DiscoverySkuAttribute where
  name : Text
  value : Text
  deriving DecidableEq, Repr

/-- `DiscoverySku`. -/
structure DiscoverySku where
  productId : Text
  skuId : Text
  currency : Text
  priceWithTax : Option Decimal
  salePriceWithTax : Decimal
  discountPercent : Option Decimal
  attributes : List DiscoverySkuAttribute
  deriving DecidableEq

/-- `DiscoverySkuPage`. -/
structure DiscoverySkuPage where
  productId : Text
  skus : List DiscoverySku
  deriving DecidableEq

/-- `SkuRefinementRequirement`, without the name of its dimension. -/
structure SkuRequirement where
  propertyNames : List Text
  acceptedValues : List Text
  deriving DecidableEq, Repr

/-- `SkuMatchState`. -/
inductive SkuMatchState
  | matched | noMatch | ambiguous | reviewRequired
  deriving DecidableEq, Repr

/-- `SkuMatchResult`. -/
structure SkuMatchResult where
  state : SkuMatchState
  selected : Option DiscoverySku
  alternatives : List DiscoverySku
  deriving DecidableEq

/-- Nothing but a review. -/
def SkuMatchResult.review : SkuMatchResult := ⟨.reviewRequired, none, []⟩

variable (u : PyUnicode)

/-- `text.strip().casefold()`. -/
def skuLabel (text : Text) : Text := u.casefold text.strip

/-- The loop of `_valid_sku` over the attributes; `seen` are the labels so far. -/
def attributesAgree (seen : List (Text × Text)) : List DiscoverySkuAttribute → Bool
  | [] => true
  | a :: rest =>
    let name := skuLabel u a.name
    let value := skuLabel u a.value
    name ≠ [] && value ≠ [] && (seen.lookup name).all (· = value) &&
      attributesAgree ((name, value) :: seen) rest

/-- `_valid_sku`. -/
def validSku (sku : DiscoverySku) (productId : Text) : Bool :=
  sku.productId = productId && sku.currency = "BRL".toList && 0 < sku.salePriceWithTax &&
    sku.attributes ≠ [] && attributesAgree u [] sku.attributes

/-- `_matches`. -/
def matchesSku (sku : DiscoverySku) (requirements : List SkuRequirement) : Bool :=
  requirements.all fun requirement => sku.attributes.any fun a =>
    skuLabel u a.name ∈ requirement.propertyNames && skuLabel u a.value ∈ requirement.acceptedValues

/-- What a page has to be for its SKUs to be compared. -/
def Comparable (page : DiscoverySkuPage) (requirements : List SkuRequirement) : Prop :=
  requirements ≠ [] ∧ 1 ≤ page.skus.length ∧ page.skus.length < 20 ∧
    ∀ sku ∈ page.skus, validSku u sku page.productId = true

instance (page : DiscoverySkuPage) (requirements : List SkuRequirement) :
    Decidable (Comparable u page requirements) := inferInstanceAs (Decidable (_ ∧ _))

/-- `match_discovery_skus`. -/
def matchDiscoverySkus (page : DiscoverySkuPage) (requirements : List SkuRequirement) :
    SkuMatchResult :=
  if Comparable u page requirements then
    let alternatives := page.skus.filter fun sku => matchesSku u sku requirements
    match alternatives with
    | [sku] => ⟨.matched, some sku, alternatives⟩
    | [] => ⟨.noMatch, none, []⟩
    | _ => ⟨.ambiguous, none, alternatives⟩
  else .review

variable {u}

/-! ## What a match says -/

theorem matchDiscoverySkus_review_iff {page : DiscoverySkuPage}
    {requirements : List SkuRequirement} :
    (matchDiscoverySkus u page requirements).state = .reviewRequired ↔
      ¬ Comparable u page requirements := by
  unfold matchDiscoverySkus
  by_cases hcomparable : Comparable u page requirements
  · rw [if_pos hcomparable]
    dsimp only
    split <;> simp [hcomparable]
  · rw [if_neg hcomparable]
    exact iff_of_true rfl hcomparable

theorem matchDiscoverySkus_selected {page : DiscoverySkuPage}
    {requirements : List SkuRequirement} :
    (matchDiscoverySkus u page requirements).selected.isSome ↔
      (matchDiscoverySkus u page requirements).state = .matched := by
  unfold matchDiscoverySkus
  split
  · dsimp only
    split <;> simp
  · simp [SkuMatchResult.review]

end Discovery
end PromoBot
