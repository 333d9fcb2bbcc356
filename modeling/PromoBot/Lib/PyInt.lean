import Mathlib.Algebra.GroupWithZero.Nat
import PromoBot.Lib.PyStr

/-!
# `int` of a text

What `int(t)` makes of a text without blanks and underscores.  It reads the decimal digits of
every script, and refuses two kinds of text that `str.isdigit` lets through: digits that are
not decimal ones, as superscripts are, and more digits than the interpreter allows.

Which characters are decimal digits is the parameter `digit` (`unicodedata.decimal`); on ASCII
text all tables agree (`ReadsAscii`).
-/

namespace PyInt

/-- A `ValueError` of `int`. -/
inductive Refusal
  /-- `invalid literal for int() with base 10: …`, with `repr(t)`. -/
  | literal (t : Text)
  /-- `Exceeds the limit (4300 digits) for integer string conversion: value has … digits; use
  sys.set_int_max_str_digits() to increase the limit`. -/
  | tooLong (digits : Nat)
  deriving DecidableEq, Repr

variable (digit : Char → Option Nat)

/-- The number that decimal digits stand for. -/
def value (t : Text) : Nat := t.foldl (fun n c => 10 * n + (digit c).getD 0) 0

/-- Every character is a decimal digit. -/
def IsDecimal (t : Text) : Prop := ∀ c ∈ t, digit c ≠ none

instance (t : Text) : Decidable (IsDecimal digit t) := inferInstanceAs (Decidable (∀ c ∈ t, _))

/-- `int` of what may be digits. -/
def ofDigits (t : Text) : Except Refusal Nat :=
  if t ≠ [] ∧ IsDecimal digit t then
    if t.length ≤ Json.maxStrDigits then .ok (value digit t) else .error (.tooLong t.length)
  else .error (.literal t)

/-- `int`. -/
def int : Text → Except Refusal Int
  | '-' :: t => (ofDigits digit t).map fun (n : Nat) => -(n : Int)
  | t => (ofDigits digit t).map Int.ofNat

/-- The decimal digits among the ASCII characters are the ten digits. -/
def ReadsAscii : Prop :=
  ∀ c : Char, Text.isAsciiDigit c = true → digit c = some (c.toNat - '0'.toNat)

/-- Every character is an ASCII digit. -/
def IsAsciiNumeral (t : Text) : Prop := ∀ c ∈ t, Text.isAsciiDigit c = true

instance (t : Text) : Decidable (IsAsciiNumeral t) := inferInstanceAs (Decidable (∀ c ∈ t, _))

/-! ## Values -/

variable {digit} {t : Text}

theorem foldl_eq_zero {n : Nat} :
    t.foldl (fun n c => 10 * n + (digit c).getD 0) n = 0 ↔
      n = 0 ∧ ∀ c ∈ t, (digit c).getD 0 = 0 := by
  induction t generalizing n with
  | nil => simp
  | cons c t ih =>
    rw [List.foldl_cons, ih, List.forall_mem_cons, ← and_assoc]
    refine and_congr_left fun _ => ?_
    omega

theorem value_eq_zero_iff (h : IsDecimal digit t) :
    value digit t = 0 ↔ ∀ c ∈ t, digit c = some 0 := by
  rw [value, foldl_eq_zero, and_iff_right rfl]
  refine forall₂_congr fun c hc => ?_
  obtain ⟨d, hd⟩ := Option.ne_none_iff_exists'.1 (h c hc)
  rw [hd, Option.getD_some, Option.some.injEq]

theorem IsAsciiNumeral.isDecimal (hdigit : ReadsAscii digit) (h : IsAsciiNumeral t) :
    IsDecimal digit t := by
  intro c hc
  rw [hdigit c (h c hc)]
  exact Option.some_ne_none _

theorem digit_range {c : Char} (h : Text.isAsciiDigit c = true) :
    '0'.toNat ≤ c.toNat ∧ c.toNat ≤ '9'.toNat := by
  rw [Text.isAsciiDigit, Bool.and_eq_true, decide_eq_true_eq, decide_eq_true_eq, Char.le_def,
    Char.le_def, UInt32.le_iff_toNat_le, UInt32.le_iff_toNat_le] at h
  exact h

theorem digit_le_nine {c : Char} (h : Text.isAsciiDigit c = true) : c.toNat - '0'.toNat ≤ 9 :=
  Nat.sub_le_iff_le_add.2 (digit_range h).2

theorem digit_pos {c : Char} (h : Text.isAsciiDigit c = true) (hne : c ≠ '0') :
    1 ≤ c.toNat - '0'.toNat := by
  have hne' : c.toNat ≠ '0'.toNat := fun heq => hne (Char.toNat_inj.1 heq)
  have hle := (digit_range h).1
  omega

/-- On ASCII digits `int` is what it is on ASCII text. -/
theorem value_of_ascii (hdigit : ReadsAscii digit) (h : IsAsciiNumeral t) :
    value digit t = Text.toNat t := by
  rw [value, Text.toNat, Nat.ofDigitChars_eq_foldl]
  refine List.foldl_ext _ _ _ fun n c hc => ?_
  rw [hdigit c (h c hc), Option.getD_some]

/-! ## What `int` accepts -/

theorem ofDigits_eq_ok {n : Nat} : ofDigits digit t = .ok n ↔
    t ≠ [] ∧ IsDecimal digit t ∧ t.length ≤ Json.maxStrDigits ∧ n = value digit t := by
  unfold ofDigits
  by_cases hdecimal : t ≠ [] ∧ IsDecimal digit t
  · by_cases hlength : t.length ≤ Json.maxStrDigits
    · rw [if_pos hdecimal, if_pos hlength, Except.ok.injEq]
      exact ⟨fun h => ⟨hdecimal.1, hdecimal.2, hlength, h.symm⟩, fun h => h.2.2.2.symm⟩
    · rw [if_pos hdecimal, if_neg hlength]
      exact iff_of_false (by simp) fun h => hlength h.2.2.1
  · rw [if_neg hdecimal]
    exact iff_of_false (by simp) fun h => hdecimal ⟨h.1, h.2.1⟩

/-! ## How many digits a number takes -/

theorem toNat_cons (c : Char) (t : Text) :
    Text.toNat (c :: t) = 10 ^ t.length * (c.toNat - '0'.toNat) + Text.toNat t := by
  rw [Text.toNat, Nat.ofDigitChars_cons, Nat.ofDigitChars_eq_ofDigitChars_zero, Text.toNat]
  simp

theorem toNat_lt_pow (h : IsAsciiNumeral t) : Text.toNat t < 10 ^ t.length := by
  induction t with
  | nil => decide
  | cons c t ih =>
    have hdigit : c.toNat - '0'.toNat ≤ 9 := digit_le_nine (h c List.mem_cons_self)
    have htail := ih fun d hd => h d (List.mem_cons_of_mem c hd)
    calc Text.toNat (c :: t) = 10 ^ t.length * (c.toNat - '0'.toNat) + Text.toNat t :=
          toNat_cons c t
      _ < 10 ^ t.length * 9 + 10 ^ t.length :=
        Nat.add_lt_add_of_le_of_lt (Nat.mul_le_mul_left _ hdigit) htail
      _ = 10 ^ (c :: t).length := by rw [List.length_cons, Nat.pow_succ]; omega

theorem toNat_dropWhile (t : Text) : Text.toNat (t.dropWhile (· = '0')) = Text.toNat t := by
  induction t with
  | nil => rfl
  | cons c t ih =>
    by_cases hc : c = '0'
    · rw [List.dropWhile_cons_of_pos (by simpa using hc), ih, toNat_cons, hc, Nat.sub_self,
        Nat.mul_zero, Nat.zero_add]
    · rw [List.dropWhile_cons_of_neg (by simpa using hc)]

theorem toNat_lt_pow_iff {k : Nat} (h : IsAsciiNumeral t) :
    Text.toNat t < 10 ^ k ↔ (t.dropWhile (· = '0')).length ≤ k := by
  have hrest : IsAsciiNumeral (t.dropWhile (· = '0')) := fun c hc =>
    h c ((List.dropWhile_sublist _).subset hc)
  rw [← toNat_dropWhile t]
  constructor
  · intro hlt
    cases hdrop : t.dropWhile (· = '0') with
    | nil => exact Nat.zero_le k
    | cons c s =>
      have hc : c ≠ '0' := by
        have hhead := List.head?_dropWhile_not (· = '0') t
        rw [hdrop] at hhead
        simpa using hhead
      rw [hdrop] at hlt hrest
      have hpos : 1 ≤ c.toNat - '0'.toNat := digit_pos (hrest c List.mem_cons_self) hc
      have hle : 10 ^ s.length ≤ Text.toNat (c :: s) := by
        rw [toNat_cons]
        exact Nat.le_add_right_of_le (Nat.le_mul_of_pos_right _ hpos)
      exact Nat.succ_le_of_lt ((Nat.pow_lt_pow_iff_right (by decide)).1 (hle.trans_lt hlt))
  · intro hle
    exact (toNat_lt_pow hrest).trans_le (Nat.pow_le_pow_right (by decide) hle)

/-- **How long a number is when it is written again**: as long as it was, without the zeros
before it. -/
theorem length_ofNat_le_iff {k : Nat} (hk : 0 < k) (h : IsAsciiNumeral t) :
    (Text.ofNat (Text.toNat t)).length ≤ k ↔ (t.dropWhile (· = '0')).length ≤ k :=
  (Nat.length_toDigits_le_iff (by decide) hk).trans (toNat_lt_pow_iff h)

end PyInt
