import Mathlib.Data.List.DropRight

/-!
# Python text

A Python `str` is a sequence of code points, modelled as a list of characters.
This file has the methods a program uses on it, each as the language reference
describes it, with the lemmas that say what they return.
-/

/-- A Python `str`. -/
abbrev Text := List Char

namespace Text

/-- Texts are equal where `==` says so. -/
instance instLawfulBEq : LawfulBEq Text := List.instLawfulBEq

/-- What holds of all characters of a text is decided along the text, not over every
character there is. -/
instance (priority := 2000) decidableForallMem {p : Char → Prop} [DecidablePred p] (t : Text) :
    Decidable (∀ c ∈ t, p c) :=
  List.decidableBAll p t

instance (priority := 2000) decidableExistsMem {p : Char → Prop} [DecidablePred p] (t : Text) :
    Decidable (∃ c ∈ t, p c) :=
  List.decidableBEx p t

/-- `str.isspace` of one character: the Unicode whitespace of Python's tables. -/
def isSpace (c : Char) : Bool :=
  let n := c.toNat
  (9 ≤ n && n ≤ 13) || (28 ≤ n && n ≤ 32) || n == 0x85 || n == 0xA0 || n == 0x1680 ||
    (0x2000 ≤ n && n ≤ 0x200A) || n == 0x2028 || n == 0x2029 || n == 0x202F || n == 0x205F ||
    n == 0x3000

/-- Drop a suffix of characters satisfying `p`. -/
def rstripBy (p : Char → Bool) (t : Text) : Text := t.rdropWhile p

/-- `str.strip()`. -/
def strip (t : Text) : Text := rstripBy isSpace (t.dropWhile isSpace)

theorem strip_eq_nil_iff (t : Text) : t.strip = [] ↔ ∀ c ∈ t, isSpace c = true := by
  rw [strip, rstripBy, List.rdropWhile_eq_nil_iff]
  refine ⟨fun h c hc => ?_, fun h c hc => h c ((List.dropWhile_sublist _).subset hc)⟩
  rcases List.mem_append.1 ((List.takeWhile_append_dropWhile (p := isSpace) (l := t)).symm ▸ hc)
    with hc | hc
  · exact List.mem_takeWhile_imp hc
  · exact h c hc

theorem val_toLower_of_upper {c : Char} (h : c.val ≥ 'A'.val ∧ c.val ≤ 'Z'.val) :
    c.toLower.val = c.val + 32 :=
  congrArg Char.val (dif_pos h)

theorem toLower_of_not_upper {c : Char} (h : ¬ (c.val ≥ 'A'.val ∧ c.val ≤ 'Z'.val)) :
    c.toLower = c :=
  dif_neg h

/-- Lowering a character leaves it or moves it from the one block of letters to the
other. -/
theorem toLower_cases (c : Char) : c.toLower = c ∨
    (c.toNat ≤ 90 ∧ 65 ≤ c.toNat ∧ c.toLower.toNat = c.toNat + 32) := by
  by_cases hrange : c.val ≥ 'A'.val ∧ c.val ≤ 'Z'.val
  · right
    have hle : c.val.toNat ≤ 90 := UInt32.le_iff_toNat_le.1 hrange.2
    have hge : 65 ≤ c.val.toNat := UInt32.le_iff_toNat_le.1 hrange.1
    refine ⟨hle, hge, ?_⟩
    show c.toLower.val.toNat = c.val.toNat + 32
    rw [val_toLower_of_upper hrange, UInt32.toNat_add]
    have h32 : (32 : UInt32).toNat = 32 := rfl
    omega
  · exact Or.inl (toLower_of_not_upper hrange)

/-- `str.isascii()`. -/
def isAscii (t : Text) : Bool := t.all fun c => c.toNat < 128

/-- An ASCII digit, `[0-9]`. -/
def isAsciiDigit (c : Char) : Bool := '0' ≤ c && c ≤ '9'

/-- An ASCII letter, `[A-Za-z]`. -/
def isAsciiLetter (c : Char) : Bool := ('a' ≤ c && c ≤ 'z') || ('A' ≤ c && c ≤ 'Z')

/-! ## Splitting at a separator -/

/-- `str.partition(sep)` at a single character: what stands before its first
occurrence, and what stands after it, if there is one. -/
def partition (sep : Char) : Text → Text × Option Text
  | [] => ([], none)
  | c :: t => if c = sep then ([], some t) else (c :: (partition sep t).1, (partition sep t).2)

/-- `str.rpartition(sep)`: what stands before the last occurrence, if there is one,
and what stands after it. -/
def rpartition (sep : Char) (t : Text) : Option Text × Text :=
  match partition sep t.reverse with
  | (after, before) => (before.map List.reverse, after.reverse)

/-- `str.split(sep)` at a single character. -/
def split (sep : Char) : Text → List Text
  | [] => [[]]
  | c :: t =>
    if c = sep then [] :: split sep t
    else match split sep t with
      | [] => [[c]]
      | part :: parts => (c :: part) :: parts

theorem partition_append_fst {sep : Char} {a : Text} (b : Text) (h : sep ∉ a) :
    (partition sep (a ++ b)).1 = a ++ (partition sep b).1 := by
  induction a with
  | nil => rfl
  | cons c a ih =>
    rw [List.mem_cons, not_or] at h
    rw [List.cons_append, partition, if_neg (Ne.symm h.1), ih h.2, List.cons_append]

theorem partition_append_cons {sep : Char} {a : Text} (b : Text) (h : sep ∉ a) :
    partition sep (a ++ sep :: b) = (a, some b) := by
  induction a with
  | nil => rw [List.nil_append, partition, if_pos rfl]
  | cons c a ih =>
    rw [List.mem_cons, not_or] at h
    rw [List.cons_append, partition, if_neg (Ne.symm h.1), ih h.2]

/-! ## Numbers -/

/-- `int(t)` of a text of ASCII digits. -/
def toNat (t : Text) : Nat := Nat.ofDigitChars 10 t 0

/-- `str(n)` of a natural number. -/
def ofNat (n : Nat) : Text := Nat.toDigits 10 n

theorem toNat_ofNat (n : Nat) : toNat (ofNat n) = n := by
  rw [toNat, ofNat, Nat.ofDigitChars_toDigits (by decide) (by decide)]

theorem ofNat_ne_nil (n : Nat) : ofNat n ≠ [] := Nat.toDigits_ne_nil

theorem isAsciiDigit_of_mem_ofNat {n : Nat} {c : Char} (h : c ∈ ofNat n) :
    isAsciiDigit c = true := by
  have hdigit := Nat.isDigit_of_mem_toDigits (by decide) (by decide) h
  rw [Char.isDigit, Bool.and_eq_true, decide_eq_true_eq, decide_eq_true_eq] at hdigit
  rw [isAsciiDigit, Bool.and_eq_true, decide_eq_true_eq, decide_eq_true_eq]
  exact hdigit

end Text
