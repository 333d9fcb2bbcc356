import PromoBot.Lib.PyDecimal
import PromoBot.Lib.PyText

/-!
# Decimals written as text

`Decimal(text)`, for a text that stands for a finite number: an optional sign, digits with
at most one point among them, and an optional exponent.  Underscores are dropped and the
digits of any script are taken for the ASCII ones; which characters those are is the
parameter `digit`.  The value is exact; only a number whose exponent is out of range is
refused.

What is no finite number (`NaN`, `Infinity`, a malformed text) has no value here.

The other way, `format(value, "f")` writes a decimal without an exponent.  It does not write
the number but the decimal as it is kept: `1.10` keeps its last digit, and `-0` its sign.  So a
written decimal is a `PyDecimal`, where a read one is a rational number.
-/

namespace Decimal

/-- A digit of another script is read as the ASCII one. -/
def asciiDigit (digit : Char → Option Nat) (c : Char) : Char :=
  if c.toNat < 128 then c
  else match digit c with
    | some d => Nat.digitChar d
    | none => c

/-- A sign, and what follows it. -/
def signed : Text → Int × Text
  | '-' :: t => (-1, t)
  | '+' :: t => (1, t)
  | t => (1, t)

/-- The number a text of digits stands for. -/
def digits? (t : Text) : Option Nat :=
  if t ≠ [] ∧ t.all Text.isAsciiDigit then some t.toNat else none

/-- The exponent, if one is written. -/
def exponent? : Option Text → Option Int
  | none => some 0
  | some t => (digits? (signed t).2).map fun n => (signed t).1 * n

/-- Coefficient and exponent of an unsigned number. -/
def number? (t : Text) : Option (Nat × Int) := do
  let (mantissa, written) := Text.partition 'e' (t.map fun c => if c = 'E' then 'e' else c)
  let (whole, fraction) := Text.partition '.' mantissa
  let n ← digits? (whole ++ fraction.getD [])
  let e ← exponent? written
  return (n, e - (fraction.getD []).length)

/-- `MAX_EMAX`. -/
def maxExponent : Int := 999999999999999999

/-- `MIN_ETINY`. -/
def minExponent : Int := -1999999999999999997

/-- The exponent is in range. -/
def InRange (n : Nat) (e : Int) : Prop :=
  e + ((Text.ofNat n).length - 1) ≤ maxExponent ∧ minExponent ≤ e

instance (n : Nat) (e : Int) : Decidable (InRange n e) := inferInstanceAs (Decidable (_ ∧ _))

/-- `Decimal(text)`; `none` if that raises, or is not finite. -/
def ofText (digit : Char → Option Nat) (t : Text) : Option Decimal := do
  let (sign, rest) := signed ((t.strip.filter (· ≠ '_')).map (asciiDigit digit))
  let (n, e) ← number? rest
  if InRange n e then some (sign * n * (10 : ℚ) ^ e) else none

/-- The value has so many decimals at most. -/
def HasDecimals (s : ℕ) (q : Decimal) : Prop := ∃ n : ℤ, q = n / 10 ^ s

end Decimal

/-! ## Writing -/

/-- A `Decimal` as it is kept. -/
inductive PyDecimal
  | finite (negative : Bool) (coefficient : Nat) (exponent : Int)
  | infinity (negative : Bool)
  | nan
  deriving DecidableEq, Repr

namespace PyDecimal

/-- `value < 0`; `none` where the comparison raises. -/
def isNegative : PyDecimal → Option Bool
  | finite negative coefficient _ => some (negative && coefficient != 0)
  | infinity negative => some negative
  | nan => none

/-- The digits on both sides of a point that stands behind the first `place` of them. -/
def pointed (digits : Text) (place : Int) : Text × Text :=
  if place < 0 then (['0'], List.replicate place.natAbs '0' ++ digits)
  else if digits.length < place then
    (digits ++ List.replicate (place.toNat - digits.length) '0', [])
  else
    (if digits.take place.toNat = [] then ['0'] else digits.take place.toNat,
      digits.drop place.toNat)

/-- `_format_number`: the sign, and a point where there are digits behind it. -/
def formatNumber (negative : Bool) (parts : Text × Text) : Text :=
  (if negative then ['-'] else []) ++ parts.1 ++ if parts.2 = [] then [] else '.' :: parts.2

/-- `format(value, "f")` of a finite value. -/
def fixed (negative : Bool) (coefficient : Nat) (exponent : Int) : Text :=
  let digits := Text.ofNat coefficient
  -- of a zero no digits are asked for in front of the point
  let exponent := if coefficient = 0 ∧ 0 < exponent then 0 else exponent
  formatNumber negative (pointed digits (exponent + digits.length))

example : fixed false 11990 (-2) = "119.90".toList := by decide

example : fixed true 0 3 = "-0".toList := by decide

theorem mem_pointed {digits : Text} {place : Int} {c : Char} (h : c ∈ digits) :
    c ∈ (pointed digits place).1 ∨ c ∈ (pointed digits place).2 := by
  unfold pointed
  split
  · exact .inr (List.mem_append_right _ h)
  · split
    · exact .inl (List.mem_append_left _ h)
    · rw [← List.take_append_drop place.toNat digits] at h
      rcases List.mem_append.1 h with hwhole | hfraction
      · have hne : digits.take place.toNat ≠ [] := List.ne_nil_of_mem hwhole
        exact .inl (if_neg hne ▸ hwhole)
      · exact .inr hfraction

theorem mem_formatNumber {negative : Bool} {parts : Text × Text} {c : Char}
    (h : c ∈ parts.1 ∨ c ∈ parts.2) : c ∈ formatNumber negative parts := by
  unfold formatNumber
  rcases h with hwhole | hfraction
  · exact List.mem_append_left _ (List.mem_append_right _ hwhole)
  · refine List.mem_append_right _ ?_
    rw [if_neg (List.ne_nil_of_mem hfraction)]
    exact List.mem_cons_of_mem _ hfraction

theorem mem_fixed {negative : Bool} {coefficient : Nat} {exponent : Int} {c : Char}
    (h : c ∈ Text.ofNat coefficient) : c ∈ fixed negative coefficient exponent :=
  mem_formatNumber (mem_pointed h)

end PyDecimal
