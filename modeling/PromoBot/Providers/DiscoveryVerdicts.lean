import PromoBot.Providers.ParsingVerdicts

/-!
# What a page of products accepts, refuses and lets escape

The parser of a page is tolerant: past the envelope nothing is refused, so that whatever escapes
one field of one product escapes the whole (`pageVerdict_parseDiscoveryPage`).  That is a number
with too many digits to be converted, in one direction or the other.
-/

namespace PromoBot
namespace Parsing

open Fallible LinkGenerate Verdict

variable (i : Interpreter)

/-! ## Numbers -/

/-- A value that is written out, if it is a text or an integer. -/
def strVerdict : Json → Verdict
  | .int n => printableVerdict (.int n)
  | .null | .bool _ | .number _ | .str _ | .arr _ | .obj _ => .accepted

/-- Decimal digits that are converted to an integer. -/
def intVerdict (t : Text) : Verdict :=
  need (DiscoveryParser.IsDecimal t → t.length ≤ Json.maxStrDigits)

/-- A number of a page, which is read without the whitespace around it. -/
def pageNumberVerdict (value : Json) : Verdict :=
  (strVerdict value).andThen ((textOf value).elim .accepted fun t => intVerdict t.strip)

def pageIdentifier (value : Json) : Option Text :=
  ((textOf value).map Text.strip).filter fun t => DiscoveryParser.IsDecimal t ∧ 0 < t.toNat

/-! ## The page of products -/

/-- What a caller of the parser of pages handles. -/
abbrev HandledPage (error : String) : Prop := error ≠ "ValueError"

/-- The verdict on the parser of pages. -/
abbrev pageVerdict {α : Type} (x : Except String α) : Verdict := Verdict.of HandledPage x

theorem pageVerdict_strOf (value : Json) :
    pageVerdict (DiscoveryParser.strOf value) = strVerdict value := by
  cases value with
  | int n =>
    refine ((of_bind fun _ _ => of_ok _).trans (andThen_accepted _)).trans ?_
    refine (of_check_need fun h => h rfl).trans (need_congr ?_)
    exact decide_eq_true_iff.symm
  | null | bool _ | number _ | str _ | arr _ | obj _ => rfl

theorem strOf_eq_ok {value : Json} {t : Option Text} (h : DiscoveryParser.strOf value = .ok t) :
    t = textOf value := by
  cases value with
  | int n =>
    obtain ⟨_, -, h⟩ := bind_eq_ok.1 h
    exact (Except.ok.inj h).symm
  | null | bool _ | number _ | str _ | arr _ | obj _ => exact (Except.ok.inj h).symm

theorem pageVerdict_intOf (t : Text) (h : DiscoveryParser.IsDecimal t) :
    pageVerdict (DiscoveryParser.intOf t) = intVerdict t := by
  refine ((of_bind fun _ _ => of_ok _).trans (andThen_accepted _)).trans ?_
  exact (of_check_need fun hne => hne rfl).trans (need_congr ⟨fun hle _ => hle, fun hle => hle h⟩)

/-- What is read of a number of a page. -/
theorem pageVerdict_decimalInt (value : Json) :
    pageVerdict (DiscoveryParser.decimalInt value) = pageNumberVerdict value := by
  unfold DiscoveryParser.decimalInt pageNumberVerdict
  rw [← pageVerdict_strOf]
  refine of_bind fun t ht => ?_
  obtain rfl := strOf_eq_ok ht
  cases textOf value with
  | none => rfl
  | some t =>
    show pageVerdict (if DiscoveryParser.IsDecimal t.strip then _ else _) = intVerdict t.strip
    split
    · next hdecimal => exact (of_map _).trans (pageVerdict_intOf _ hdecimal)
    · next hdecimal => exact (need_pos fun h => absurd h hdecimal).symm

theorem pageVerdict_identifier (value : Json) :
    pageVerdict (DiscoveryParser.identifier value) = pageNumberVerdict value :=
  (of_map _).trans (pageVerdict_decimalInt value)

theorem pageVerdict_optionalNonnegativeInt (value : Json) :
    pageVerdict (DiscoveryParser.optionalNonnegativeInt value) = pageNumberVerdict value :=
  (of_map _).trans (pageVerdict_decimalInt value)

/-- The identifier that was read. -/
theorem pageIdentifier_eq {value : Json} {found : Option Text}
    (h : DiscoveryParser.identifier value = .ok found) : found = pageIdentifier value := by
  obtain ⟨entry, hentry, rfl⟩ := map_eq_ok.1 h
  obtain ⟨t, ht, hentry⟩ := bind_eq_ok.1 hentry
  obtain rfl := strOf_eq_ok ht
  unfold pageIdentifier
  cases hvalue : textOf value with
  | none =>
    rw [hvalue] at hentry
    obtain rfl := Except.ok.inj hentry
    rfl
  | some t =>
    rw [hvalue] at hentry
    change (if DiscoveryParser.IsDecimal t.strip then _ else _) = _ at hentry
    split at hentry
    · next hdecimal =>
      obtain ⟨n, hn, rfl⟩ := map_eq_ok.1 hentry
      obtain ⟨_, -, hn⟩ := bind_eq_ok.1 hn
      obtain rfl := Except.ok.inj hn
      by_cases hpos : 0 < t.strip.toNat
      · simp [Option.filter_some, hpos, hdecimal]
      · simp [Option.filter_some, hpos]
    · next hdecimal =>
      obtain rfl := Except.ok.inj hentry
      simp [Option.filter_some, hdecimal]

theorem isAbsent_iff {value : Json} :
    DiscoveryParser.isAbsent value = true ↔ value = .null ∨ value = .str [] := by
  cases value with
  | str t => cases t <;> simp [DiscoveryParser.isAbsent]
  | null | bool _ | int _ | number _ | arr _ | obj _ => simp [DiscoveryParser.isAbsent]

theorem pageVerdict_optionalIdentifier (value : Json) :
    pageVerdict (DiscoveryParser.optionalIdentifier value) = pageNumberVerdict value := by
  unfold DiscoveryParser.optionalIdentifier
  split
  · next habsent =>
    rcases isAbsent_iff.1 habsent with rfl | rfl
    · rfl
    · rfl
  · exact (of_map _).trans (pageVerdict_identifier value)

theorem pageVerdict_optionalDecimal (value : Json) (code : String) :
    pageVerdict (DiscoveryParser.optionalDecimal i.digit value code) = strVerdict value := by
  unfold DiscoveryParser.optionalDecimal
  split
  · next habsent =>
    rcases isAbsent_iff.1 habsent with rfl | rfl
    · rfl
    · rfl
  · exact (of_map _).trans (pageVerdict_strOf value)

theorem strVerdict_withoutPercent (value : Json) :
    strVerdict (DiscoveryParser.withoutPercent value) = strVerdict value := by
  cases value <;> rfl

theorem pageVerdict_optionalPercent (value : Json) (code : String) :
    pageVerdict (DiscoveryParser.optionalPercent i.digit value code) = strVerdict value := by
  refine (of_map _).trans ((pageVerdict_optionalDecimal i _ code).trans ?_)
  exact strVerdict_withoutPercent value

/-! ## The page of products -/

/-- What is read of a product that has an identifier. -/
def discoveredVerdicts (raw : Json) : List Verdict :=
  [strVerdict (field raw "target_sale_price"), strVerdict (field raw "original_price"),
    strVerdict (field raw "sale_price"), strVerdict (field raw "app_sale_price"),
    strVerdict (field raw "target_app_sale_price"), strVerdict (field raw "discount"),
    strVerdict (field raw "commission_rate"), strVerdict (field raw "hot_product_commission_rate"),
    pageNumberVerdict (field raw "lastest_volume"),
    pageNumberVerdict (field raw "first_level_category_id"),
    pageNumberVerdict (field raw "second_level_category_id"),
    pageNumberVerdict (field raw "shop_id")]

/-- What is read of an item of a page. -/
def rawVerdicts (raw : Json) : List Verdict :=
  pageNumberVerdict (field raw "product_id") ::
    if (pageIdentifier (field raw "product_id")).isSome = true then discoveredVerdicts raw else []

/-- What is read of a page of products. -/
def discoveryPageVerdicts (payload : List (String × Json)) (wrapper : String) : List Verdict :=
  let body := (payload.lookup wrapper).getD (.obj payload)
  let response := field body "resp_result"
  let result := field response "result"
  objectVerdict body :: objectVerdict response :: printableVerdict (field response "resp_code") ::
    test ((field response "resp_code").numeral? = some "200".toList) ::
    objectVerdict result :: listVerdict (field result "products") ::
    ((elements (field result "products")).flatMap rawVerdicts ++
      [pageNumberVerdict (field result "current_record_count"),
        pageNumberVerdict (field result "total_record_count")])

theorem pageVerdict_parsePrices (item : List (String × Json)) :
    pageVerdict (DiscoveryParser.parsePrices i.digit item) =
      first ((discoveredVerdicts (.obj item)).take 5) := by
  unfold DiscoveryParser.parsePrices
  refine of_step (pageVerdict_optionalDecimal i _ _) fun target _ => ?_
  refine ((of_bind fun _ _ => of_ok _).trans (andThen_accepted _)).trans ?_
  refine of_mapM_flatMap (g := fun f : String × String × String =>
    [strVerdict (Json.get item f.1)]) fun f _ => of_last ?_
  exact (of_map _).trans (pageVerdict_optionalDecimal i _ _)

theorem pageVerdict_parseNumbers (item : List (String × Json)) :
    pageVerdict (DiscoveryParser.parseNumbers i.digit item) =
      first (((discoveredVerdicts (.obj item)).drop 5).take 4) := by
  unfold DiscoveryParser.parseNumbers
  refine of_step (pageVerdict_optionalPercent i _ _) fun discount _ => ?_
  refine of_step (pageVerdict_optionalPercent i _ _) fun commission _ => ?_
  refine of_step (pageVerdict_optionalPercent i _ _) fun hotCommission _ => ?_
  refine of_step (pageVerdict_optionalNonnegativeInt _) fun volume _ => ?_
  rfl

theorem pageVerdict_parseTexts (item : List (String × Json)) :
    pageVerdict (DiscoveryParser.parseTexts item) =
      first ((discoveredVerdicts (.obj item)).drop 9) := by
  unfold DiscoveryParser.parseTexts
  refine of_step (pageVerdict_optionalIdentifier _) fun firstId _ => ?_
  refine of_step (pageVerdict_optionalIdentifier _) fun secondId _ => ?_
  refine of_step (pageVerdict_optionalIdentifier _) fun shopId _ => ?_
  rfl

/-- **The verdict on a product of a page.** -/
theorem pageVerdict_parseProduct (productId : Text) (item : List (String × Json)) :
    pageVerdict (DiscoveryParser.parseProduct i.digit productId item) =
      first (discoveredVerdicts (.obj item)) := by
  unfold DiscoveryParser.parseProduct
  refine of_part (pageVerdict_parsePrices i item) fun prices _ => ?_
  refine of_part (pageVerdict_parseNumbers i item) fun numbers _ => ?_
  exact ((of_bind fun _ _ => of_ok _).trans (andThen_accepted _)).trans
    (pageVerdict_parseTexts item)

/-- **The verdict on an item of a page.** -/
theorem pageVerdict_parseRaw (raw : Json) :
    pageVerdict (DiscoveryParser.parseRaw i.digit raw) = first (rawVerdicts raw) := by
  cases raw with
  | obj item =>
    unfold DiscoveryParser.parseRaw rawVerdicts
    refine of_step (pageVerdict_identifier _) fun found hfound => ?_
    obtain rfl := pageIdentifier_eq hfound
    rw [field]
    cases pageIdentifier (Json.get item "product_id") with
    | none => rfl
    | some productId => exact (of_map _).trans (pageVerdict_parseProduct i productId item)
  | null | bool _ | int _ | number _ | str _ | arr _ => rfl

theorem pageVerdict_fieldsOf {e : String} (he : HandledPage e) (value : Json) :
    pageVerdict (orRaise (DiscoveryParser.fieldsOf value) e) = objectVerdict value := by
  refine (of_orRaise he).trans ?_
  cases value <;> rfl

theorem pageVerdict_itemsOf {e : String} (he : HandledPage e) (value : Json) :
    pageVerdict (orRaise (DiscoveryParser.itemsOf value) e) = listVerdict value := by
  refine (of_orRaise he).trans ?_
  cases value <;> rfl

theorem fieldsOf_eq_some {ε : Type} {e : ε} {value : Json} {fields : List (String × Json)}
    (h : orRaise (DiscoveryParser.fieldsOf value) e = .ok fields) : value = .obj fields := by
  rw [orRaise_eq_ok] at h
  cases value with
  | obj _ => exact congrArg Json.obj (Option.some.inj h)
  | null | bool _ | int _ | number _ | str _ | arr _ => cases h

theorem itemsOf_eq_some {ε : Type} {e : ε} {value : Json} {items : List Json}
    (h : orRaise (DiscoveryParser.itemsOf value) e = .ok items) : value = .arr items := by
  rw [orRaise_eq_ok] at h
  cases value with
  | arr _ => exact congrArg Json.arr (Option.some.inj h)
  | null | bool _ | int _ | number _ | str _ | obj _ => cases h

/-- **The verdict on a page.** -/
theorem pageVerdict_parseDiscoveryPage (payload : List (String × Json)) (wrapper : String) :
    pageVerdict (DiscoveryParser.parseDiscoveryPage i.digit payload wrapper) =
      first (discoveryPageVerdicts payload wrapper) := by
  unfold DiscoveryParser.parseDiscoveryPage discoveryPageVerdicts
  refine of_step (pageVerdict_fieldsOf (by decide) _) fun body hbody => ?_
  rw [fieldsOf_eq_some hbody, field]
  refine of_step (pageVerdict_fieldsOf (by decide) _) fun response hresponse => ?_
  rw [fieldsOf_eq_some hresponse, field, field]
  refine of_step (of_printed (fun h => h rfl) _) fun code hcode => ?_
  rw [(Json.printed_eq_ok.1 hcode).2]
  refine of_step (of_check (by decide)) fun _ _ => ?_
  refine of_step (pageVerdict_fieldsOf (by decide) _) fun result hresult => ?_
  rw [fieldsOf_eq_some hresult, field, field, field]
  refine of_step (pageVerdict_itemsOf (by decide) _) fun raw hraw => ?_
  rw [itemsOf_eq_some hraw]
  refine of_part (of_mapM_flatMap fun item _ => pageVerdict_parseRaw i item) fun parsed _ => ?_
  refine of_step (pageVerdict_optionalNonnegativeInt _) fun current _ => ?_
  refine of_step (pageVerdict_optionalNonnegativeInt _) fun total _ => ?_
  rfl

end Parsing
end PromoBot
