import PromoBot.Lib.Verdict
import PromoBot.Providers.DiscoveryParser
import PromoBot.Providers.Offers

/-!
# The fields of a response

The helpers of `providers/aliexpress/parsing.py` which read one field of a decoded response,
and `Money.__post_init__` of `domain/models.py`, which checks what some of them build.

A caller of the parsers handles a `ProviderError` and nothing else.  Each helper has its verdict
beside it: what it accepts, what it refuses with such an error, and what escapes.  Three things
do: an integer too long to be written out, an amount of money `Money` does not take, and a price
with a unit which is blank.
-/

namespace PromoBot
namespace Parsing

open Fallible LinkGenerate DiscoveryParser

/-- What `json.loads` raises.  A `JSONDecodeError` is a `ValueError`. -/
inductive LoadsRaised
  | valueError
  | recursionError
  deriving DecidableEq

/-- What the parsers ask of the interpreter: its Unicode tables, the value of a digit of any
script, `str.isalpha` of one character, and `json.loads` with an `object_pairs_hook` which
raises a `ValueError` for a repeated key. -/
structure Interpreter where
  unicode : PyUnicode
  digit : Char → Option Nat
  isAlpha : Char → Bool
  loads : Text → Except LoadsRaised Json

/-- What the parsers raise. -/
inductive Raised
  | provider (error : ProviderError)
  | valueError (text : String)
  | indexError
  | recursionError
  deriving DecidableEq

/-- What a caller of the parsers handles. -/
def Handled : Raised → Prop
  | .provider _ => True
  | .valueError _ | .indexError | .recursionError => False

instance : DecidablePred Handled
  | .provider _ => .isTrue trivial
  | .valueError _ | .indexError | .recursionError => .isFalse id

/-- The same of the helpers the parser of links has. -/
def HandledLink : LinkGenerate.Raised → Prop
  | .provider _ => True
  | .valueError _ => False

instance : DecidablePred HandledLink
  | .provider _ => .isTrue trivial
  | .valueError _ => .isFalse id

/-- An error of those helpers. -/
def Raised.ofLink : LinkGenerate.Raised → Raised
  | .provider error => .provider error
  | .valueError text => .valueError text

/-- Code of those helpers. -/
def lift {α : Type} (x : Except LinkGenerate.Raised α) : Except Raised α :=
  x.mapError Raised.ofLink

/-- A provider error which is neither retried nor reviewed. -/
def refusal (code : String) : Raised := .provider ⟨code, false, false⟩

/-- `_incompatible` and its like. -/
def incompatible : Raised := .provider ⟨"ALIEXPRESS_RESPONSE_INCOMPATIBLE", false, true⟩

/-- The error of a field: its name, and what is wrong with it. -/
def fieldError (field suffix : String) : Raised :=
  refusal ("ALIEXPRESS_" ++ field.toUpper ++ suffix)

/-! ## Numbers -/

/-- The text of a value that is a text or an integer. -/
def textOf : Json → Option Text
  | .str t => some t
  | .int n => (Json.int n).numeral?
  | .null | .bool _ | .number _ | .arr _ | .obj _ => none

/-- `str(value)`, after the test that the value is a text or an integer. -/
def written : Json → Except Raised Text
  | .str t => .ok t
  | .int n => ((Json.int n).printed (.valueError Json.digitLimit)).map fun text => text.getD []
  | .null | .bool _ | .number _ | .arr _ | .obj _ => .error incompatible

variable (i : Interpreter)

/-- `_optional_identifier`. -/
def optionalIdentifier (value : Json) (field : String) : Except Raised (Option Text) :=
  if value = .null then .ok none
  else do
    let text ← written value
    check (Urls.isDigits i.unicode text.strip = true) (fieldError field "_INVALID")
    return some text.strip

/-- `_identifier`. -/
def identifier (value : Json) (field : String) : Except Raised Text := do
  let parsed ← optionalIdentifier i value field
  orRaise parsed (fieldError field "_MISSING")

/-- `_decimal`. -/
def decimal (value : Json) (field : String) : Except Raised (Option Decimal) :=
  if isAbsent value = true then .ok none
  else do
    let text ← written value
    let parsed ← orRaise (Decimal.ofText i.digit text.strip) (fieldError field "_INVALID")
    return some parsed

/-- `_percent`. -/
def percent (value : Json) (field : String) : Except Raised (Option Decimal) := do
  let parsed ← decimal i (withoutPercent value) field
  check (∀ p ∈ parsed, 0 ≤ p ∧ p ≤ 100) (fieldError field "_INVALID")
  return parsed

/-! ## Money -/

end Parsing

/-- `ROUND_HALF_UP`: the nearest integer, with ties away from zero. -/
def Decimal.roundHalfUp (q : ℚ) : ℤ := if 0 ≤ q then ⌊q + 1 / 2⌋ else -⌊-q + 1 / 2⌋

namespace Parsing

open Fallible LinkGenerate DiscoveryParser

variable (i : Interpreter)

/-- `amount.quantize(Decimal("0.01"), rounding=ROUND_HALF_UP)`, in cents. -/
def cents (amount : Decimal) : ℤ := Decimal.roundHalfUp (amount * 100)

/-- `currency.strip().upper()`. -/
def currencyCode (currency : Text) : Text := i.unicode.upper currency.strip

/-- **What `Money` takes**: an amount which has at most 28 digits when it is rounded to cents,
and is not negative then, and a currency of three letters. -/
structure IsMoney (amount : Decimal) (currency : Text) : Prop where
  fits : (cents amount).natAbs < 10 ^ 28
  nonnegative : 0 ≤ cents amount
  letters : (currencyCode i currency).length = 3 ∧ (currencyCode i currency).all i.isAlpha = true

instance (amount : Decimal) (currency : Text) : Decidable (IsMoney i amount currency) :=
  decidable_of_iff ((cents amount).natAbs < 10 ^ 28 ∧ 0 ≤ cents amount ∧
      (currencyCode i currency).length = 3 ∧ (currencyCode i currency).all i.isAlpha = true)
    ⟨fun h => ⟨h.1, h.2.1, h.2.2⟩, fun h => ⟨h.1, h.2, h.3⟩⟩

/-- `Money(amount, currency)`. -/
def moneyOf (amount : Decimal) (currency : Text) : Except Raised Money := do
  check ((cents amount).natAbs < 10 ^ 28) (Raised.valueError "money amount must be finite")
  check (0 ≤ cents amount) (Raised.valueError "money amount must be finite and non-negative")
  if h : (currencyCode i currency).length = 3 ∧ (currencyCode i currency).all i.isAlpha = true then
    .ok ⟨(cents amount).toNat, currencyCode i currency, h.1⟩
  else .error (.valueError "currency must be a three-letter ISO code")

/-- `_money`. -/
def money (value : Json) (currency : Option Text) (field : String) :
    Except Raised (Option Money) := do
  let amount ← decimal i value field
  match amount with
  | none => return none
  | some amount =>
    let currency ← orRaise currency (fieldError field "_CURRENCY_MISSING")
    let parsed ← moneyOf i amount currency
    return some parsed

/-- `_money_with_unit`.  The first word of a blank text is an `IndexError`. -/
def moneyWithUnit (value : Json) (currency : Text) (field : String) :
    Except Raised (Option Money) :=
  match value with
  | .null => .ok none
  | .str t => do
    check (t.strip ≠ []) Raised.indexError
    money i (.str (t.strip.takeWhile fun c => !Text.isSpace c)) (some currency) field
  | .bool _ | .int _ | .number _ | .arr _ | .obj _ => .error incompatible

/-! ## Verdicts -/

section Verdicts

open Verdict

/-- The verdict on a parser. -/
abbrev verdict {α : Type} (x : Except Raised α) : Verdict := Verdict.of Handled x

/-- Whether a value can be written out. -/
def printableVerdict (value : Json) : Verdict := need (value.printable = true)

/-- Whether a text or an integer is there, and can be written out. -/
def writtenVerdict : Json → Verdict
  | .str _ => .accepted
  | .int n => printableVerdict (.int n)
  | .null | .bool _ | .number _ | .arr _ | .obj _ => .refused

/-- The text of a value that can be written out, without the whitespace around it. -/
def numeral (value : Json) : Text := (value.numeral?.getD []).strip

/-- An identifier that need not be there. -/
def optionalIdentifierVerdict (value : Json) : Verdict :=
  if value = .null then .accepted
  else (writtenVerdict value).andThen (test (Urls.isDigits i.unicode (numeral value) = true))

def identifierVerdict (value : Json) : Verdict :=
  if value = .null then .refused else optionalIdentifierVerdict i value

/-- The number a value stands for, if it stands for one. -/
def amount? (value : Json) : Option Decimal :=
  if isAbsent value = true then none else Decimal.ofText i.digit (numeral value)

/-- A number that need not be there. -/
def decimalVerdict (value : Json) : Verdict :=
  if isAbsent value = true then .accepted
  else (writtenVerdict value).andThen (test ((Decimal.ofText i.digit (numeral value)).isSome = true))

/-- A percentage. -/
def percentVerdict (value : Json) : Verdict :=
  (decimalVerdict i (withoutPercent value)).andThen
    (test (∀ p ∈ amount? i (withoutPercent value), 0 ≤ p ∧ p ≤ 100))

/-- An amount that was read, with its currency. -/
def amountVerdict (currency : Option Text) : Option Decimal → Verdict
  | none => .accepted
  | some amount =>
    match currency with
    | none => .refused
    | some currency => need (IsMoney i amount currency)

/-- An amount of money. -/
def moneyVerdict (value : Json) (currency : Option Text) : Verdict :=
  (decimalVerdict i value).andThen (amountVerdict i currency (amount? i value))

/-- An amount of money with a unit. -/
def moneyWithUnitVerdict (value : Json) (currency : Text) : Verdict :=
  match value with
  | .null => .accepted
  | .str t =>
    if t.strip = [] then .escaped
    else moneyVerdict i (.str (t.strip.takeWhile fun c => !Text.isSpace c)) (some currency)
  | .bool _ | .int _ | .number _ | .arr _ | .obj _ => .refused

/-- A text that need not be there. -/
def textVerdict : Json → Verdict
  | .null | .str _ => .accepted
  | .bool _ | .int _ | .number _ | .arr _ | .obj _ => .refused

theorem handled_ofLink (e : LinkGenerate.Raised) : Handled (.ofLink e) ↔ HandledLink e := by
  cases e <;> exact Iff.rfl

theorem handled_fieldError (field suffix : String) : Handled (fieldError field suffix) := trivial

theorem verdict_lift {α : Type} (x : Except LinkGenerate.Raised α) :
    verdict (lift x) = Verdict.of HandledLink x := of_mapError handled_ofLink

theorem verdict_optionalText (value : Json) :
    verdict (lift (LinkGenerate.optionalText value)) = textVerdict value := by
  cases value <;> rfl

/-- `str` of a value, where its error is not handled. -/
theorem of_printed {ε : Type} {P : ε → Prop} [DecidablePred P] {raised : ε} (h : ¬ P raised)
    (value : Json) : Verdict.of P (value.printed raised) = printableVerdict value := by
  unfold Json.printed printableVerdict
  exact ((of_bind fun _ _ => of_ok _).trans (andThen_accepted _)).trans (of_check_need h)

theorem verdict_written (value : Json) : verdict (written value) = writtenVerdict value := by
  cases value with
  | int n =>
    show verdict (Except.map _ _) = _
    rw [verdict, of_map]
    exact of_printed id _
  | null | bool _ | number _ | str _ | arr _ | obj _ => rfl

theorem written_eq_ok {value : Json} {t : Text} (h : written value = .ok t) :
    t = value.numeral?.getD [] := by
  cases value with
  | str s =>
    obtain rfl := Except.ok.inj h
    rfl
  | int n =>
    obtain ⟨text, htext, rfl⟩ := map_eq_ok.1 h
    rw [(Json.printed_eq_ok.1 htext).2]
  | null | bool _ | number _ | arr _ | obj _ => cases h

theorem verdict_optionalIdentifier (value : Json) (field : String) :
    verdict (optionalIdentifier i value field) = optionalIdentifierVerdict i value := by
  unfold optionalIdentifier optionalIdentifierVerdict
  split
  · rfl
  · rw [← verdict_written]
    refine of_bind fun t ht => ?_
    obtain rfl := written_eq_ok ht
    rw [numeral, ← of_check (handled_fieldError field "_INVALID")]
    exact (of_bind fun _ _ => of_ok _).trans (andThen_accepted _)

theorem isDigits_of_optionalIdentifier {value : Json} {field : String} {t : Text}
    (h : optionalIdentifier i value field = .ok (some t)) :
    Urls.isDigits i.unicode t = true := by
  unfold optionalIdentifier at h
  split at h
  · cases h
  · obtain ⟨text, -, h⟩ := bind_eq_ok.1 h
    obtain ⟨_, hdigits, h⟩ := bind_eq_ok.1 h
    obtain rfl := Option.some.inj (Except.ok.inj h)
    exact check_eq_ok.1 hdigits

theorem isDigits_of_identifier {value : Json} {field : String} {t : Text}
    (h : identifier i value field = .ok t) : Urls.isDigits i.unicode t = true := by
  obtain ⟨parsed, hparsed, h⟩ := bind_eq_ok.1 h
  rw [orRaise_eq_ok] at h
  exact isDigits_of_optionalIdentifier i (h ▸ hparsed)

theorem verdict_identifier (value : Json) (field : String) :
    verdict (identifier i value field) = identifierVerdict i value := by
  unfold identifier identifierVerdict
  split
  · next h =>
    rw [h]
    rfl
  · next h =>
    rw [← verdict_optionalIdentifier i value field]
    refine (of_bind fun parsed hparsed => ?_).trans (andThen_accepted _)
    unfold optionalIdentifier at hparsed
    rw [if_neg h] at hparsed
    obtain ⟨text, -, hparsed⟩ := bind_eq_ok.1 hparsed
    obtain ⟨_, -, hparsed⟩ := bind_eq_ok.1 hparsed
    obtain rfl := Except.ok.inj hparsed
    rfl

/-- What is read of a number is the number the value stands for. -/
theorem decimal_eq_ok {value : Json} {field : String} {found : Option Decimal}
    (h : decimal i value field = .ok found) : found = amount? i value := by
  unfold decimal at h
  unfold amount?
  split at h
  · next habsent =>
    rw [if_pos habsent]
    exact (Except.ok.inj h).symm
  · next habsent =>
    rw [if_neg habsent]
    obtain ⟨text, htext, h⟩ := bind_eq_ok.1 h
    obtain ⟨parsed, hparsed, h⟩ := bind_eq_ok.1 h
    obtain rfl := Except.ok.inj h
    obtain rfl := written_eq_ok htext
    exact (orRaise_eq_ok.1 hparsed).symm

theorem verdict_decimal (value : Json) (field : String) :
    verdict (decimal i value field) = decimalVerdict i value := by
  unfold decimal decimalVerdict
  split
  · rfl
  · rw [← verdict_written]
    refine of_bind fun t ht => ?_
    obtain rfl := written_eq_ok ht
    rw [numeral, ← of_orRaise (handled_fieldError field "_INVALID")]
    exact (of_bind fun _ _ => of_ok _).trans (andThen_accepted _)

theorem verdict_percent (value : Json) (field : String) :
    verdict (percent i value field) = percentVerdict i value := by
  unfold percent percentVerdict
  rw [← verdict_decimal i _ field]
  refine of_bind fun found hfound => ?_
  obtain rfl := decimal_eq_ok i hfound
  rw [← of_check (handled_fieldError field "_INVALID")]
  exact (of_bind fun _ _ => of_ok _).trans (andThen_accepted _)

/-- **`Money` escapes exactly where it does not take what it is given.** -/
theorem verdict_moneyOf (amount : Decimal) (currency : Text) :
    verdict (moneyOf i amount currency) = need (IsMoney i amount currency) := by
  unfold moneyOf need
  by_cases hfits : (cents amount).natAbs < 10 ^ 28
  · by_cases hnonnegative : 0 ≤ cents amount
    · rw [check, if_pos hfits, check, if_pos hnonnegative]
      show verdict (if h : _ then _ else _) = _
      split
      · next h =>
        rw [if_pos ⟨hfits, hnonnegative, h⟩]
        rfl
      · next h =>
        rw [if_neg fun hmoney => h hmoney.letters]
        rfl
    · rw [check, if_pos hfits, check, if_neg hnonnegative,
        if_neg fun hmoney => hnonnegative hmoney.nonnegative]
      rfl
  · rw [check, if_neg hfits, if_neg fun hmoney => hfits hmoney.fits]
    rfl

theorem verdict_money (value : Json) (currency : Option Text) (field : String) :
    verdict (money i value currency field) = moneyVerdict i value currency := by
  unfold money moneyVerdict
  rw [← verdict_decimal i value field]
  refine of_bind fun found hfound => ?_
  obtain rfl := decimal_eq_ok i hfound
  cases amount? i value with
  | none => rfl
  | some amount =>
    cases currency with
    | none => rfl
    | some currency =>
      show verdict (moneyOf i amount currency >>= _) = _
      rw [amountVerdict, ← verdict_moneyOf]
      exact (of_bind fun _ _ => of_ok _).trans (andThen_accepted _)

theorem verdict_moneyWithUnit (value : Json) (currency : Text) (field : String) :
    verdict (moneyWithUnit i value currency field) = moneyWithUnitVerdict i value currency := by
  cases value with
  | str t =>
    unfold moneyWithUnit moneyWithUnitVerdict
    dsimp only
    split
    · next h =>
      rw [check, if_neg (not_not.2 h)]
      rfl
    · next h =>
      rw [check, if_pos h]
      exact verdict_money i _ _ field
  | null | bool _ | int _ | number _ | arr _ | obj _ => rfl

end Verdicts

end Parsing
end PromoBot
