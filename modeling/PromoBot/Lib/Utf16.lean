import Mathlib.Data.List.Basic
import PromoBot.Lib.PyText

/-!
# Text in UTF-16

The code units of a text, and what reading code units back gives.  A character outside the
basic plane has two units, and a half of one is not read.

`decode_take_eq_some` is the point: the first so many units of a text can be read exactly if
they are those of a prefix, and then that prefix is what is read.  `position` says in which
character a unit lies.
-/

namespace Utf16

/-! ## Code units -/

/-- The code units of a character. -/
def units (c : Char) : List Nat :=
  if c.toNat < 0x10000 then [c.toNat]
  else [0xD800 + (c.toNat - 0x10000) / 0x400, 0xDC00 + (c.toNat - 0x10000) % 0x400]

/-- How many they are. -/
def width (c : Char) : Nat := if c.toNat < 0x10000 then 1 else 2

/-- `str.encode("utf-16-le")`, by units. -/
def encode (t : Text) : List Nat := t.flatMap units

/-- The length of a text in code units. -/
def length (t : Text) : Nat := (encode t).length

/-- `bytes.decode("utf-16-le")`, by units; `none` is the `UnicodeDecodeError`. -/
def decode : List Nat → Option Text
  | [] => some []
  | n :: ns =>
    if 0xD800 ≤ n ∧ n < 0xDC00 then
      match ns with
      | [] => none
      | m :: ns =>
        if 0xDC00 ≤ m ∧ m < 0xE000 then
          (decode ns).map (Char.ofNat (0x10000 + (n - 0xD800) * 0x400 + (m - 0xDC00)) :: ·)
        else none
    else if 0xDC00 ≤ n ∧ n < 0xE000 then none
    else (decode ns).map (Char.ofNat n :: ·)

theorem decode_nil : decode [] = some [] := rfl

/-- How many characters begin before the unit of that number ends; past the end, all. -/
def position : Text → Nat → Nat
  | [], _ => 0
  | c :: t, n => if n < width c then 0 else position t (n - width c) + 1

/-! ## The units of a character -/

theorem length_units (c : Char) : (units c).length = width c := by
  unfold units width
  split <;> rfl

theorem width_pos (c : Char) : 0 < width c := by
  unfold width
  split <;> omega

@[simp] theorem encode_nil : encode [] = [] := rfl

@[simp] theorem encode_cons (c : Char) (t : Text) : encode (c :: t) = units c ++ encode t := rfl

theorem encode_append (s t : Text) : encode (s ++ t) = encode s ++ encode t :=
  List.flatMap_append

@[simp] theorem length_nil : length [] = 0 := rfl

@[simp] theorem length_cons (c : Char) (t : Text) : length (c :: t) = width c + length t := by
  rw [length, encode_cons, List.length_append, length_units, length]

theorem length_append (s t : Text) : length (s ++ t) = length s + length t := by
  rw [length, encode_append, List.length_append, length, length]

theorem le_length (t : Text) : t.length ≤ length t := by
  induction t with
  | nil => exact le_refl 0
  | cons c t ih =>
    have hpos := width_pos c
    rw [List.length_cons, length_cons]
    omega

theorem not_surrogate (c : Char) : c.toNat < 0xD800 ∨ 0xE000 ≤ c.toNat := by
  have hvalid : c.toNat.isValidChar := c.valid
  rcases hvalid with h | h
  · exact Or.inl h
  · exact Or.inr (by omega)

theorem toNat_lt (c : Char) : c.toNat < 0x110000 := by
  have hvalid : c.toNat.isValidChar := c.valid
  rcases hvalid with h | h <;> omega

/-- What is read of the units of a character, and of what follows. -/
theorem decode_units_append (c : Char) (ns : List Nat) :
    decode (units c ++ ns) = (decode ns).map (c :: ·) := by
  have hsurrogate := not_surrogate c
  have hlt := toNat_lt c
  unfold units
  split
  · rw [List.singleton_append, decode.eq_def]
    dsimp only
    rw [if_neg (by omega), if_neg (by omega), Char.ofNat_toNat]
  · next hbasic =>
    have hjoin : 0x10000 + (0xD800 + (c.toNat - 0x10000) / 0x400 - 0xD800) * 0x400 +
        (0xDC00 + (c.toNat - 0x10000) % 0x400 - 0xDC00) = c.toNat := by omega
    rw [List.cons_append, List.singleton_append, decode.eq_def]
    dsimp only
    rw [if_pos (by omega), if_pos (by omega), hjoin, Char.ofNat_toNat]

/-! ## Reading back -/

theorem decode_encode (t : Text) : decode (encode t) = some t := by
  induction t with
  | nil => rw [encode_nil, decode_nil]
  | cons c t ih => rw [encode_cons, decode_units_append, ih, Option.map_some]

theorem decode_take_units {c : Char} {k : Nat} (hpos : 0 < k) (hlt : k < width c) :
    decode ((units c).take k) = none := by
  have hk : k = 1 := by
    unfold width at hlt
    split at hlt <;> omega
  have hastral : ¬ c.toNat < 0x10000 := by
    intro hbasic
    rw [width, if_pos hbasic] at hlt
    omega
  have hcode := toNat_lt c
  rw [hk, units, if_neg hastral, List.take_succ_cons, List.take_zero, decode, if_pos (by omega)]

/-- **Some units at the beginning of a text are read exactly if they are those of a prefix.** -/
theorem decode_take_eq_some {t s : Text} {k : Nat} (hk : k ≤ length t) :
    decode ((encode t).take k) = some s ↔ s <+: t ∧ length s = k := by
  constructor
  · intro h
    induction t generalizing k s with
    | nil =>
      rw [encode_nil, List.take_nil, decode_nil] at h
      obtain rfl := Option.some.inj h
      exact ⟨List.nil_prefix, (Nat.le_zero.1 hk).symm⟩
    | cons c t ih =>
      rw [length_cons] at hk
      rcases Nat.eq_zero_or_pos k with rfl | hpos
      · rw [List.take_zero, decode_nil] at h
        obtain rfl := Option.some.inj h
        exact ⟨List.nil_prefix, rfl⟩
      · by_cases hlt : k < width c
        · rw [encode_cons, List.take_append_of_le_length (by rw [length_units]; omega),
            decode_take_units hpos hlt] at h
          cases h
        · rw [encode_cons, List.take_append, length_units, List.take_of_length_le
            (by rw [length_units]; omega), decode_units_append, Option.map_eq_some_iff] at h
          obtain ⟨s', hs', rfl⟩ := h
          obtain ⟨hleading, hlength⟩ := ih (by omega) hs'
          refine ⟨(List.prefix_cons_inj c).2 hleading, ?_⟩
          rw [length_cons]
          omega
  · rintro ⟨⟨rest, rfl⟩, rfl⟩
    rw [encode_append, length, List.take_left, decode_encode]

/-! ## Positions -/

theorem position_le (t : Text) (n : Nat) : position t n ≤ min n t.length := by
  induction t generalizing n with
  | nil => exact Nat.zero_le _
  | cons c t ih =>
    have hpos := width_pos c
    unfold position
    split
    · exact Nat.zero_le _
    · have htail := ih (n - width c)
      rw [List.length_cons]
      omega

theorem position_mono (t : Text) {m n : Nat} (h : m ≤ n) : position t m ≤ position t n := by
  induction t generalizing m n with
  | nil => exact le_refl 0
  | cons c t ih =>
    unfold position
    split
    · exact Nat.zero_le _
    · next hm =>
      rw [if_neg (by omega)]
      exact Nat.succ_le_succ (ih (by omega))

end Utf16
