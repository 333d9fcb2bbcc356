import Mathlib.Data.Char
import Mathlib.Data.List.Lex
import PromoBot.Lib.Calendar
import PromoBot.Lib.PyInt

/-!
# `datetime.datetime`

A `DateTime` is a day and a time of it, to the microsecond.  Read in UTC it is an instant, the
microseconds since the beginning of the year 1; not every number of microseconds is one, since
the calendar ends with the year 9999 (`Representable`).

A time is written with fields of fixed width, so that texts come in the order of the instants
they stand for.  That is not quite a matter of course: `isoformat` leaves a fraction of zero
out and a database does not, and still a text of the one kind and a text of the other are in
the right order (`stored_lt_isoformat_iff`).
-/

/-! ## Numbers of fixed width -/

section Digits

variable {a b h h' k : Nat} {P : Prop}

theorem mul_add_lt_iff (hh : h < k) (hh' : h' < k) :
    a * k + h < b * k + h' ↔ a < b ∨ a = b ∧ h < h' := by
  rcases Nat.lt_trichotomy a b with hab | rfl | hab
  · have hnext : (a + 1) * k ≤ b * k := Nat.mul_le_mul_right k hab
    rw [Nat.succ_mul] at hnext
    exact iff_of_true (by omega) (Or.inl hab)
  · simp
  · have hnext : (b + 1) * k ≤ a * k := Nat.mul_le_mul_right k hab
    rw [Nat.succ_mul] at hnext
    exact iff_of_false (by omega) (by omega)

theorem mul_add_eq_iff (hh : h < k) (hh' : h' < k) :
    a * k + h = b * k + h' ↔ a = b ∧ h = h' := by
  have hlt := mul_add_lt_iff (a := a) (b := b) hh hh'
  have hgt := mul_add_lt_iff (a := b) (b := a) hh' hh
  omega

theorem lex_mul_add_iff (hh : h < k) (hh' : h' < k) :
    (a < b ∨ a = b ∧ (h < h' ∨ h = h' ∧ P)) ↔
      a * k + h < b * k + h' ∨ a * k + h = b * k + h' ∧ P := by
  rw [mul_add_lt_iff hh hh', mul_add_eq_iff hh hh']
  tauto

end Digits

namespace PyInt

/-- **Numerals of one length come in the order of their numbers**, whatever follows. -/
theorem append_lt_append_iff {s t u v : Text} (hs : IsAsciiNumeral s) (ht : IsAsciiNumeral t)
    (hlength : s.length = t.length) :
    s ++ u < t ++ v ↔ Text.toNat s < Text.toNat t ∨ Text.toNat s = Text.toNat t ∧ u < v := by
  induction s generalizing t with
  | nil =>
    obtain rfl := List.length_eq_zero_iff.1 hlength.symm
    simp
  | cons c s ih =>
    obtain _ | ⟨d, t⟩ := t
    · cases hlength
    have hlength' : s.length = t.length := Nat.succ.inj hlength
    have hs' : IsAsciiNumeral s := fun e he => hs e (List.mem_cons_of_mem c he)
    have ht' : IsAsciiNumeral t := fun e he => ht e (List.mem_cons_of_mem d he)
    have hc := digit_range (hs c List.mem_cons_self)
    have hd := digit_range (ht d List.mem_cons_self)
    have hlt : c < d ↔ c.toNat - '0'.toNat < d.toNat - '0'.toNat := by
      rw [Char.lt_def, UInt32.lt_iff_toNat_lt]
      show c.toNat < d.toNat ↔ _
      omega
    have heq : c = d ↔ c.toNat - '0'.toNat = d.toNat - '0'.toNat := by
      rw [← Char.toNat_inj]
      omega
    rw [List.cons_append, List.cons_append, List.cons_lt_cons_iff, ih hs' ht' hlength', hlt, heq,
      toNat_cons, toNat_cons, hlength', Nat.mul_comm _ (c.toNat - _),
      Nat.mul_comm _ (d.toNat - _)]
    exact lex_mul_add_iff (hlength' ▸ toNat_lt_pow hs') (toNat_lt_pow ht')

end PyInt

namespace Text

/-- `n` with zeros before it, `k` digits in all. -/
def pad (k n : Nat) : Text := List.replicate (k - (ofNat n).length) '0' ++ ofNat n

theorem isAsciiNumeral_pad (k n : Nat) : PyInt.IsAsciiNumeral (pad k n) := by
  intro c hc
  rcases List.mem_append.1 hc with hzero | hdigit
  · obtain rfl := List.eq_of_mem_replicate hzero
    decide
  · exact isAsciiDigit_of_mem_ofNat hdigit

theorem toNat_replicate_append (k : Nat) (t : Text) :
    toNat (List.replicate k '0' ++ t) = toNat t := by
  induction k with
  | zero => rfl
  | succ k ih =>
    rw [List.replicate_succ, List.cons_append, PyInt.toNat_cons, ih, Nat.sub_self, Nat.mul_zero,
      Nat.zero_add]

@[simp] theorem toNat_pad (k n : Nat) : toNat (pad k n) = n := by
  rw [pad, toNat_replicate_append, toNat_ofNat]

theorem length_pad {k n : Nat} (hk : 0 < k) (h : n < 10 ^ k) : (pad k n).length = k := by
  have hle : (ofNat n).length ≤ k := (Nat.length_toDigits_le_iff (by decide) hk).2 h
  rw [pad, List.length_append, List.length_replicate]
  omega

theorem pad_append_lt_iff {k m n : Nat} {u v : Text} (hk : 0 < k) (hm : m < 10 ^ k)
    (hn : n < 10 ^ k) : pad k m ++ u < pad k n ++ v ↔ m < n ∨ m = n ∧ u < v := by
  rw [PyInt.append_lt_append_iff (isAsciiNumeral_pad k m) (isAsciiNumeral_pad k n)
    ((length_pad hk hm).trans (length_pad hk hn).symm), toNat_pad, toNat_pad]

theorem pad_lt_iff {k m n : Nat} (hk : 0 < k) (hm : m < 10 ^ k) (hn : n < 10 ^ k) :
    pad k m < pad k n ↔ m < n := by
  have h := pad_append_lt_iff (u := []) (v := []) hk hm hn
  rw [List.append_nil, List.append_nil] at h
  rw [h]
  simp

end Text

/-! ## Times -/

/-- `datetime.datetime`, without its time zone. -/
structure DateTime extends Date where
  hour : Nat
  minute : Nat
  second : Nat
  microsecond : Nat
  hour_lt : hour < 24
  minute_lt : minute < 60
  second_lt : second < 60
  microsecond_lt : microsecond < 1000000

namespace DateTime

variable {d e : DateTime} {m : Int}

/-- The seconds since the beginning of the year 1. -/
def seconds (d : DateTime) : Nat :=
  (((d.toordinal - 1) * 24 + d.hour) * 60 + d.minute) * 60 + d.second

/-- The microseconds since the beginning of the year 1, of a time of UTC. -/
def instant (d : DateTime) : Int := (d.seconds * 1000000 + d.microsecond : Nat)

/-- The microseconds of the whole calendar. -/
def endOfTime : Nat := Date.maxOrdinal * 86400 * 1000000

/-- The instant is one of the calendar. -/
def Representable (m : Int) : Prop := 0 ≤ m ∧ m < endOfTime

instance (m : Int) : Decidable (Representable m) := inferInstanceAs (Decidable (_ ∧ _))

theorem day_lt_of_lt_endOfTime {n : Nat} (h : n < endOfTime) :
    n / 1000000 / 86400 < Date.maxOrdinal := by
  unfold endOfTime at h
  omega

/-- The time of an instant. -/
def ofMicroseconds (n : Nat) (h : n < endOfTime) : DateTime where
  toDate := Date.fromordinal (n / 1000000 / 86400) (day_lt_of_lt_endOfTime h)
  hour := n / 1000000 / 3600 % 24
  minute := n / 1000000 / 60 % 60
  second := n / 1000000 % 60
  microsecond := n % 1000000
  hour_lt := Nat.mod_lt _ (by decide)
  minute_lt := Nat.mod_lt _ (by decide)
  second_lt := Nat.mod_lt _ (by decide)
  microsecond_lt := Nat.mod_lt _ (by decide)

theorem Representable.toNat_lt (h : Representable m) : m.toNat < endOfTime := by
  obtain ⟨hnonneg, hlt⟩ := h
  exact (Int.toNat_lt hnonneg).2 hlt

/-- The time of an instant of the calendar. -/
def ofInstant? (m : Int) : Option DateTime :=
  if h : Representable m then
    some (ofMicroseconds m.toNat h.toNat_lt)
  else none

/-- `astimezone(UTC)` of a time with this offset; `none` is its `OverflowError`. -/
def toUtc (d : DateTime) (offset : Int) : Option DateTime := ofInstant? (d.instant - offset)

theorem seconds_lt (d : DateTime) : d.seconds < Date.maxOrdinal * 86400 := by
  have hmax := d.toordinal_le_max
  have hpos := d.toordinal_pos
  have hhour := d.hour_lt
  have hminute := d.minute_lt
  have hsecond := d.second_lt
  unfold seconds
  omega

theorem representable_instant (d : DateTime) : Representable d.instant := by
  have hseconds := d.seconds_lt
  have hmicrosecond := d.microsecond_lt
  refine ⟨Int.natCast_nonneg _, Int.ofNat_lt.2 ?_⟩
  unfold endOfTime
  omega

theorem seconds_ofMicroseconds {n : Nat} (h : n < endOfTime) :
    (ofMicroseconds n h).seconds = n / 1000000 := by
  unfold seconds ofMicroseconds
  dsimp only
  rw [Date.toordinal_fromordinal]
  omega

theorem ofInstant?_eq_some (h : ofInstant? m = some d) : d.instant = m := by
  unfold ofInstant? at h
  split at h
  · next hm =>
    obtain rfl := Option.some.inj h
    unfold instant
    rw [seconds_ofMicroseconds]
    have hnonneg := hm.1
    unfold ofMicroseconds
    dsimp only
    omega
  · cases h

theorem exists_ofInstant? (h : Representable m) : ∃ d, ofInstant? m = some d ∧ d.instant = m := by
  have hd : ofInstant? m = some (ofMicroseconds m.toNat h.toNat_lt) := dif_pos h
  exact ⟨_, hd, ofInstant?_eq_some hd⟩

/-! ## Texts -/

/-- `YYYY-MM-DD`. -/
def dateText (d : Date) : Text :=
  Text.pad 4 d.year ++ '-' :: (Text.pad 2 d.month ++ '-' :: Text.pad 2 d.day)

/-- `HH:MM:SS`. -/
def clockText (d : DateTime) : Text :=
  Text.pad 2 d.hour ++ ':' :: (Text.pad 2 d.minute ++ ':' :: Text.pad 2 d.second)

/-- The fraction of a second, with its point. -/
def fractionText (d : DateTime) : Text := '.' :: Text.pad 6 d.microsecond

/-- `isoformat(sep=" ")`, which leaves a fraction of zero out. -/
def isoformat (d : DateTime) : Text :=
  dateText d.toDate ++ ' ' :: (clockText d ++ if d.microsecond = 0 then [] else fractionText d)

/-- The text a `DATETIME` column of SQLite has, which always has the fraction. -/
def stored (d : DateTime) : Text :=
  dateText d.toDate ++ ' ' :: (clockText d ++ fractionText d)

theorem dateText_append_lt_iff {d e : Date} {u v : Text} :
    dateText d ++ u < dateText e ++ v ↔
      d.toordinal < e.toordinal ∨ d.toordinal = e.toordinal ∧ u < v := by
  have hyear : d.year < 10 ^ 4 ∧ e.year < 10 ^ 4 :=
    ⟨Nat.lt_succ_of_le d.year_le, Nat.lt_succ_of_le e.year_le⟩
  have hmonth : d.month < 10 ^ 2 ∧ e.month < 10 ^ 2 :=
    ⟨d.month_le.trans_lt (by decide), e.month_le.trans_lt (by decide)⟩
  have hday : d.day < 10 ^ 2 ∧ e.day < 10 ^ 2 := 
    ⟨d.day_le_thirtyOne.trans_lt (by decide), e.day_le_thirtyOne.trans_lt (by decide)⟩
  have heq : d.toordinal = e.toordinal ↔ d = e := Date.toordinal_injective.eq_iff
  unfold dateText
  rw [Date.toordinal_lt_iff, heq, Date.ext_iff]
  simp only [List.append_assoc, List.cons_append]
  rw [Text.pad_append_lt_iff (by decide) hyear.1 hyear.2, List.cons_lt_cons_self,
    Text.pad_append_lt_iff (by decide) hmonth.1 hmonth.2, List.cons_lt_cons_self,
    Text.pad_append_lt_iff (by decide) hday.1 hday.2]
  simp only [Date.Before, and_or_left, or_assoc, and_assoc]

theorem clockText_append_lt_iff {u v : Text} :
    clockText d ++ u < clockText e ++ v ↔
      d.hour < e.hour ∨ d.hour = e.hour ∧ (d.minute < e.minute ∨ d.minute = e.minute ∧
        (d.second < e.second ∨ d.second = e.second ∧ u < v)) := by
  have hhour : ∀ d : DateTime, d.hour < 10 ^ 2 := fun d => d.hour_lt.trans (by decide)
  have hminute : ∀ d : DateTime, d.minute < 10 ^ 2 := fun d => d.minute_lt.trans (by decide)
  have hsecond : ∀ d : DateTime, d.second < 10 ^ 2 := fun d => d.second_lt.trans (by decide)
  unfold clockText
  simp only [List.append_assoc, List.cons_append]
  rw [Text.pad_append_lt_iff (by decide) (hhour d) (hhour e), List.cons_lt_cons_self,
    Text.pad_append_lt_iff (by decide) (hminute d) (hminute e), List.cons_lt_cons_self,
    Text.pad_append_lt_iff (by decide) (hsecond d) (hsecond e)]

/-- **Up to the second, texts come in the order of the times.** -/
theorem text_append_lt_iff {u v : Text} :
    dateText d.toDate ++ ' ' :: (clockText d ++ u) < dateText e.toDate ++ ' ' :: (clockText e ++ v) ↔
      d.seconds < e.seconds ∨ d.seconds = e.seconds ∧ u < v := by
  have hday : d.toordinal < e.toordinal ↔ d.toordinal - 1 < e.toordinal - 1 := by
    have hd := d.toordinal_pos
    have he := e.toordinal_pos
    omega
  have hday' : d.toordinal = e.toordinal ↔ d.toordinal - 1 = e.toordinal - 1 := by
    have hd := d.toordinal_pos
    have he := e.toordinal_pos
    omega
  rw [dateText_append_lt_iff, List.cons_lt_cons_self, clockText_append_lt_iff, hday, hday',
    lex_mul_add_iff d.hour_lt e.hour_lt, lex_mul_add_iff d.minute_lt e.minute_lt,
    lex_mul_add_iff d.second_lt e.second_lt]
  exact Iff.rfl

theorem fractionText_lt_iff : fractionText d < fractionText e ↔ d.microsecond < e.microsecond := by
  unfold fractionText
  rw [List.cons_lt_cons_self, Text.pad_lt_iff (by decide) d.microsecond_lt e.microsecond_lt]

theorem instant_lt_iff : d.instant < e.instant ↔
    d.seconds < e.seconds ∨ d.seconds = e.seconds ∧ d.microsecond < e.microsecond := by
  unfold instant
  rw [Int.ofNat_lt, mul_add_lt_iff d.microsecond_lt e.microsecond_lt]

/-- **Stored texts come in the order of the instants.** -/
theorem stored_lt_stored_iff : stored d < stored e ↔ d.instant < e.instant := by
  unfold stored
  rw [text_append_lt_iff, fractionText_lt_iff, instant_lt_iff]

/-- **A stored text and one of `isoformat` come in the order of the instants**, also where
the latter leaves its fraction out. -/
theorem stored_lt_isoformat_iff : stored d < isoformat e ↔ d.instant < e.instant := by
  unfold stored isoformat
  rw [text_append_lt_iff, instant_lt_iff]
  by_cases hzero : e.microsecond = 0
  · -- Nothing is below the empty text, and no fraction is below zero.
    rw [if_pos hzero, hzero]
    simp
  · rw [if_neg hzero, fractionText_lt_iff]

theorem isoformat_le_stored_iff : isoformat e ≤ stored d ↔ e.instant ≤ d.instant := by
  rw [← not_lt, stored_lt_isoformat_iff, not_lt]

end DateTime
