import PromoBot.Lib.Fallible
import PromoBot.Lib.PyJson

/-!
# `str` of a decoded value

`str(value)` writes an integer out in decimal, and raises a `ValueError` where that takes more
digits than the interpreter allows.  A list or an object is written with everything in it, so
one such integer anywhere in it is enough.

Of the text itself only that of a number or a text is modelled (`Json.numeral?`).
-/

namespace Json

open Fallible

/-- `sys.int_info.default_max_str_digits`. -/
def maxStrDigits : Nat := 4300

/-- What the `ValueError` says. -/
def digitLimit : String :=
  "Exceeds the limit (4300 digits) for integer string conversion; " ++
    "use sys.set_int_max_str_digits() to increase the limit"

mutual

/-- `str` does not raise. -/
def printable : Json → Bool
  | .int n => (Text.ofNat n.natAbs).length ≤ maxStrDigits
  | .arr items => printableItems items
  | .obj fields => printableFields fields
  | .null | .bool _ | .number _ | .str _ => true

/-- `str` raises for none of the items of a list. -/
def printableItems : List Json → Bool
  | [] => true
  | item :: items => printable item && printableItems items

/-- `str` raises for none of the values of an object. -/
def printableFields : List (String × Json) → Bool
  | [] => true
  | (_, value) :: fields => printable value && printableFields fields

end

/-- `str(value)`, as far as it may be a numeral. -/
def printed {ε : Type} (raised : ε) (value : Json) : Except ε (Option Text) := do
  check (value.printable = true) raised
  return value.numeral?

theorem printed_eq_ok {ε : Type} {raised : ε} {value : Json} {t : Option Text} :
    value.printed raised = .ok t ↔ value.printable = true ∧ t = value.numeral? := by
  unfold printed
  rw [bind_eq_ok]
  constructor
  · rintro ⟨_, hcheck, h⟩
    exact ⟨check_eq_ok.1 hcheck, (Except.ok.inj h).symm⟩
  · rintro ⟨hprintable, rfl⟩
    exact ⟨⟨⟩, check_eq_ok.2 hprintable, rfl⟩

end Json
