import Mathlib.Data.Char
import Mathlib.Data.List.Lex
import Mathlib.Data.List.Sort
import PromoBot.Lib.Lookup
import PromoBot.Lib.PyJson
import PromoBot.Lib.Utf16

/-!
# JSON as text

`json.dumps` and `json.loads`.  A `Style` is what the two calls of `dumps` differ in: whether
characters outside ASCII are escaped, and what stands after a comma or a colon.

`loads` reads every value except numbers with a fraction or an exponent, which it refuses, and
objects as dictionaries: of a key that stands twice the last value counts.  A text with half of
a surrogate pair is refused, since it is no sequence of characters.

`loads_dumps` is the round trip.  It is an induction over the value, with the rest of the input
arbitrary; the length of what was written bounds the depth of the recursive descent.
-/

namespace JsonText

/-! ## Writing -/

/-- `\"`. -/
def quote : Char := '\x22'

/-- The reverse solidus. -/
def backslash : Char := '\x5c'

/-- A space between tokens, `[ \t\n\r]`. -/
def isSpace (c : Char) : Bool := c = ' ' || c = '\t' || c = '\n' || c = '\r'

/-- How a value is written. -/
structure Style where
  ensureAscii : Bool
  gap : Text
  gap_space : ∀ c ∈ gap, isSpace c = true

/-- `json.dumps(value)`. -/
def Style.default : Style := ⟨true, [' '], by decide⟩

/-- `json.dumps(value, ensure_ascii=False, separators=(",", ":"))`. -/
def Style.compact : Style := ⟨false, [], by decide⟩

/-- `{n:04x}`, of a number below 2¹⁶. -/
def hex4 (n : Nat) : Text :=
  [n / 4096 % 16, n / 256 % 16, n / 16 % 16, n % 16].map Nat.digitChar

/-- A code unit, escaped. -/
def unitEscape (n : Nat) : Text := backslash :: 'u' :: hex4 n

/-- The characters that have an escape of their own, with its letter. -/
def shortEscapes : List (Char × Char) :=
  [(quote, quote), (backslash, backslash), ('\n', 'n'), ('\r', 'r'), ('\t', 't'),
    ('\x0c', 'f'), ('\x08', 'b')]

/-- A character of a string. -/
def escape (ensureAscii : Bool) (c : Char) : Text :=
  match shortEscapes.lookup c with
  | some letter => [backslash, letter]
  | none =>
    if c.toNat < 0x20 ∨ (ensureAscii = true ∧ 0x7f ≤ c.toNat) then
      (Utf16.units c).flatMap unitEscape
    else [c]

def dumpString (s : Style) (t : Text) : Text :=
  quote :: (t.flatMap (escape s.ensureAscii) ++ [quote])

/-- An integer. -/
def dumpInt : Int → Text
  | .ofNat n => Text.ofNat n
  | .negSucc n => '-' :: Text.ofNat (n + 1)

mutual

/-- `json.dumps`. -/
def dumps (s : Style) : Json → Text
  | .null => ['n', 'u', 'l', 'l']
  | .bool true => ['t', 'r', 'u', 'e']
  | .bool false => ['f', 'a', 'l', 's', 'e']
  | .int n => dumpInt n
  | .number repr => repr
  | .str t => dumpString s t
  | .arr [] => ['[', ']']
  | .arr (v :: vs) => '[' :: (dumps s v ++ dumpItems s vs)
  | .obj [] => ['\x7b', '\x7d']
  | .obj ((k, v) :: fs) =>
    '\x7b' :: (dumpString s k.toList ++ ':' :: (s.gap ++ (dumps s v ++ dumpFields s fs)))

/-- The items after the first, and the end of the array. -/
def dumpItems (s : Style) : List Json → Text
  | [] => [']']
  | v :: vs => ',' :: (s.gap ++ (dumps s v ++ dumpItems s vs))

/-- The fields after the first, and the end of the object. -/
def dumpFields (s : Style) : List (String × Json) → Text
  | [] => ['\x7d']
  | (k, v) :: fs =>
    ',' :: (s.gap ++ (dumpString s k.toList ++ ':' :: (s.gap ++ (dumps s v ++ dumpFields s fs))))

end

/-! ## Reading -/

/-- `WHITESPACE.match`. -/
def skip (t : Text) : Text := t.dropWhile isSpace

/-- The value of a hexadecimal digit. -/
def hexValue (c : Char) : Option Nat :=
  if '0' ≤ c ∧ c ≤ '9' then some (c.toNat - 48)
  else if 'a' ≤ c ∧ c ≤ 'f' then some (c.toNat - 87)
  else if 'A' ≤ c ∧ c ≤ 'F' then some (c.toNat - 55)
  else none

/-- Four hexadecimal digits. -/
def hexValue4 (a b c d : Char) : Option Nat := do
  return ((← hexValue a) * 4096 + (← hexValue b) * 256 + (← hexValue c) * 16 + (← hexValue d))

/-- The character an escape with one letter stands for. -/
def unescape (letter : Char) : Option Char :=
  ((shortEscapes ++ [('/', '/')]).find? fun e => e.2 = letter).map Prod.fst

/-- The code units of a string up to its closing quote, and the rest. -/
def scanUnits : Text → Option (List Nat × Text)
  | [] => none
  | c :: rest =>
    if c = quote then some ([], rest)
    else if c = backslash then
      match rest with
      | [] => none
      | letter :: rest =>
        if letter = 'u' then
          match rest with
          | a :: b :: d :: e :: rest => do
            let n ← hexValue4 a b d e
            (scanUnits rest).map fun found => (n :: found.1, found.2)
          | _ => none
        else do
          let c ← unescape letter
          (scanUnits rest).map fun found => (Utf16.units c ++ found.1, found.2)
    else if c.toNat < 0x20 then none
    else (scanUnits rest).map fun found => (Utf16.units c ++ found.1, found.2)
termination_by structural t => t

/-- The rest of a string after its opening quote. -/
def scanString (t : Text) : Option (Text × Text) := do
  let found ← scanUnits t
  return (← Utf16.decode found.1, found.2)

/-- An integer without leading zeros, and the rest. -/
def scanNat (t : Text) : Option (Nat × Text) :=
  let digits := t.takeWhile Text.isAsciiDigit
  if Text.ofNat (Text.toNat digits) = digits then
    some (Text.toNat digits, t.dropWhile Text.isAsciiDigit)
  else none

/-- A dictionary of pairs: of a key that stands twice the last value counts. -/
def dictOf (pairs : List (String × Json)) : List (String × Json) :=
  pairs.foldl (fun d e =>
    if e.1 ∈ d.map Prod.fst then d.map fun e' => if e'.1 = e.1 then e else e' else d ++ [e]) []

/-- The rest of a literal. -/
def scanLiteral (letters : Text) (v : Json) (t : Text) : Option (Json × Text) :=
  if letters.isPrefixOf t then some (v, t.drop letters.length) else none

mutual

/-- A value, and the rest. -/
def scanValue : Nat → Text → Option (Json × Text)
  | 0, _ => none
  | _ + 1, [] => none
  | n + 1, c :: rest =>
    if c = quote then (scanString rest).map fun found => (.str found.1, found.2)
    else if c = '\x7b' then
      match skip rest with
      | [] => none
      | d :: rest =>
        if d = '\x7d' then some (.obj [], rest)
        else (scanFields n (d :: rest)).map fun found => (.obj (dictOf found.1), found.2)
    else if c = '[' then
      match skip rest with
      | [] => none
      | d :: rest =>
        if d = ']' then some (.arr [], rest)
        else (scanItems n (d :: rest)).map fun found => (.arr found.1, found.2)
    else if c = 'n' then scanLiteral ['u', 'l', 'l'] .null rest
    else if c = 't' then scanLiteral ['r', 'u', 'e'] (.bool true) rest
    else if c = 'f' then scanLiteral ['a', 'l', 's', 'e'] (.bool false) rest
    else if c = '-' then (scanNat rest).map fun found => (.int (-found.1), found.2)
    else (scanNat (c :: rest)).map fun found => (.int found.1, found.2)

/-- The items of an array, from the first. -/
def scanItems : Nat → Text → Option (List Json × Text)
  | 0, _ => none
  | n + 1, t => do
    let (v, rest) ← scanValue n t
    match skip rest with
    | [] => none
    | c :: rest =>
      if c = ']' then some ([v], rest)
      else if c = ',' then (scanItems n (skip rest)).map fun found => (v :: found.1, found.2)
      else none

/-- The fields of an object, from the first. -/
def scanFields : Nat → Text → Option (List (String × Json) × Text)
  | 0, _ => none
  | _ + 1, [] => none
  | n + 1, c :: rest =>
    if c = quote then do
      let (k, rest) ← scanString rest
      match skip rest with
      | [] => none
      | c :: rest =>
        if c = ':' then do
          let (v, rest) ← scanValue n (skip rest)
          match skip rest with
          | [] => none
          | c :: rest =>
            if c = '\x7d' then some ([(String.ofList k, v)], rest)
            else if c = ',' then
              (scanFields n (skip rest)).map fun found =>
                ((String.ofList k, v) :: found.1, found.2)
            else none
        else none
    else none

end

/-- `json.loads`. -/
def loads (t : Text) : Option Json := do
  let (v, rest) ← scanValue (t.length + 1) (skip t)
  if skip rest = [] then some v else none

/-! ## Strings read back -/

theorem hexValue_digitChar : ∀ d < 16, hexValue (Nat.digitChar d) = some d := by decide

theorem hexValue4_hex4 {n : Nat} (h : n < 0x10000) :
    hexValue4 (n / 4096 % 16).digitChar (n / 256 % 16).digitChar (n / 16 % 16).digitChar
      (n % 16).digitChar = some n := by
  have hdigit (m : Nat) : hexValue (m % 16).digitChar = some (m % 16) :=
    hexValue_digitChar _ (Nat.mod_lt m (by decide))
  have hsum : n / 4096 % 16 * 4096 + n / 256 % 16 * 256 + n / 16 % 16 * 16 + n % 16 = n := by omega
  rw [hexValue4, hdigit, hdigit, hdigit, hdigit]
  exact congrArg some hsum

theorem scanUnits_unitEscape {n : Nat} (h : n < 0x10000) (rest : Text) :
    scanUnits (unitEscape n ++ rest) = (scanUnits rest).map fun found => (n :: found.1, found.2) := by
  have hescape : unitEscape n ++ rest = backslash :: 'u' :: (n / 4096 % 16).digitChar ::
      (n / 256 % 16).digitChar :: (n / 16 % 16).digitChar :: (n % 16).digitChar :: rest := rfl
  rw [hescape, scanUnits.eq_def]
  dsimp only
  rw [if_neg (by decide), if_pos rfl, if_pos rfl, hexValue4_hex4 h]
  rfl

theorem scanUnits_unicodeEscape (c : Char) (rest : Text) :
    scanUnits ((Utf16.units c).flatMap unitEscape ++ rest) =
      (scanUnits rest).map fun found => (Utf16.units c ++ found.1, found.2) := by
  have hlt := Utf16.toNat_lt c
  unfold Utf16.units
  split
  · rw [List.flatMap_singleton, scanUnits_unitEscape (by omega)]
    rfl
  · rw [List.flatMap_cons, List.flatMap_singleton, List.append_assoc,
      scanUnits_unitEscape (by omega), scanUnits_unitEscape (by omega), Option.map_map]
    rfl

/-- **A character is read back**, however it was written. -/
theorem scanUnits_escape (ensureAscii : Bool) (c : Char) (rest : Text) :
    scanUnits (escape ensureAscii c ++ rest) =
      (scanUnits rest).map fun found => (Utf16.units c ++ found.1, found.2) := by
  unfold escape
  split
  · next letter hletter =>
    -- Seven characters have a short escape.
    have hmem : (c, letter) ∈ shortEscapes := Lookup.mem_of_lookup hletter
    have hall : ∀ e ∈ shortEscapes, e.2 ≠ 'u' ∧ unescape e.2 = some e.1 := by decide
    obtain ⟨hu, hback⟩ := hall _ hmem
    rw [List.cons_append, List.cons_append, List.nil_append, scanUnits.eq_def]
    dsimp only
    rw [if_neg (by decide), if_pos rfl, if_neg hu, hback]
    rfl
  · next hnone =>
    have hplain : c ≠ quote ∧ c ≠ backslash := by
      constructor
      · rintro rfl
        exact absurd hnone (by decide)
      · rintro rfl
        exact absurd hnone (by decide)
    split
    · exact scanUnits_unicodeEscape c rest
    · next hcontrol =>
      rw [List.singleton_append, scanUnits.eq_def]
      dsimp only
      rw [if_neg hplain.1, if_neg hplain.2, if_neg (by omega)]

theorem scanUnits_dump (ensureAscii : Bool) (t rest : Text) :
    scanUnits (t.flatMap (escape ensureAscii) ++ quote :: rest) = some (Utf16.encode t, rest) := by
  induction t with
  | nil =>
    rw [List.flatMap_nil, List.nil_append, scanUnits.eq_def]
    dsimp only
    rw [if_pos rfl, Utf16.encode_nil]
  | cons c t ih =>
    rw [List.flatMap_cons, List.append_assoc, scanUnits_escape, ih, Option.map_some,
      Utf16.encode_cons]

/-- **A string is read back.** -/
theorem scanString_dump (ensureAscii : Bool) (t rest : Text) :
    scanString (t.flatMap (escape ensureAscii) ++ quote :: rest) = some (t, rest) := by
  rw [scanString, scanUnits_dump]
  show (Utf16.decode (Utf16.encode t)).bind _ = _
  rw [Utf16.decode_encode]
  rfl

/-! ## Numbers read back -/

/-- What follows a number does not go on with it. -/
def NoDigit (rest : Text) : Prop := ∀ c ∈ rest.head?, Text.isAsciiDigit c = false

theorem scanNat_ofNat (n : Nat) {rest : Text} (h : NoDigit rest) :
    scanNat (Text.ofNat n ++ rest) = some (n, rest) := by
  have hdigits : ∀ c ∈ Text.ofNat n, Text.isAsciiDigit c = true :=
    fun c hc => Text.isAsciiDigit_of_mem_ofNat hc
  have htake : rest.takeWhile Text.isAsciiDigit = [] := by
    cases rest with
    | nil => rfl
    | cons c rest => rw [List.takeWhile_cons, h c rfl]; rfl
  have hdrop : rest.dropWhile Text.isAsciiDigit = rest := by
    cases rest with
    | nil => rfl
    | cons c rest => rw [List.dropWhile_cons, h c rfl]; rfl
  rw [scanNat, List.takeWhile_append_of_pos hdigits, List.dropWhile_append_of_pos hdigits, htake,
    hdrop, List.append_nil, Text.toNat_ofNat, if_pos rfl]

/-! ## Space -/

theorem skip_append {gap : Text} (h : ∀ c ∈ gap, isSpace c = true) (t : Text) :
    skip (gap ++ t) = skip t := by
  induction gap with
  | nil => rfl
  | cons c gap ih =>
    rw [List.cons_append, skip, List.dropWhile_cons, h c List.mem_cons_self]
    exact ih fun c' hc' => h c' (List.mem_cons_of_mem c hc')

theorem skip_cons {c : Char} (h : isSpace c = false) (t : Text) : skip (c :: t) = c :: t := by
  rw [skip, List.dropWhile_cons, h]
  rfl

/-! ## Dictionaries -/

/-- Without a key that stands twice, nothing is lost. -/
theorem dictOf_eq_self {pairs : List (String × Json)} (h : (pairs.map Prod.fst).Nodup) :
    dictOf pairs = pairs := by
  have hgeneral : ∀ d : List (String × Json), ((d ++ pairs).map Prod.fst).Nodup →
      pairs.foldl (fun d e =>
        if e.1 ∈ d.map Prod.fst then d.map fun e' => if e'.1 = e.1 then e else e' else d ++ [e]) d =
        d ++ pairs := by
    induction pairs with
    | nil => exact fun d _ => (List.append_nil d).symm
    | cons e pairs ih =>
      intro d hd
      have hfresh : e.1 ∉ d.map Prod.fst := by
        rw [List.map_append, List.nodup_append] at hd
        exact fun he => hd.2.2 _ he _ List.mem_cons_self rfl
      rw [List.foldl_cons, if_neg hfresh, ih (List.nodup_cons.1 h).2 (d ++ [e]) (by simpa using hd),
        List.append_assoc, List.singleton_append]
  exact hgeneral [] h

/-! ## The round trip -/

mutual

/-- A value `loads` can give back: its numbers are integers, and no object has a key twice. -/
def Exact : Json → Prop
  | .null | .bool _ | .int _ | .str _ => True
  | .number _ => False
  | .arr vs => ExactItems vs
  | .obj fs => (fs.map Prod.fst).Nodup ∧ ExactFields fs

/-- `Exact`, of every item. -/
def ExactItems : List Json → Prop
  | [] => True
  | v :: vs => Exact v ∧ ExactItems vs

/-- `Exact`, of every field. -/
def ExactFields : List (String × Json) → Prop
  | [] => True
  | (_, v) :: fs => Exact v ∧ ExactFields fs

end

/-- What a written value begins with. -/
theorem exists_dumps_cons (s : Style) {v : Json} (h : Exact v) :
    ∃ c t, dumps s v = c :: t ∧ isSpace c = false ∧ c ≠ ']' := by
  have hnat (n : Nat) : ∃ c t, Text.ofNat n = c :: t ∧ isSpace c = false ∧ c ≠ ']' := by
    obtain ⟨c, t, ht⟩ := List.exists_cons_of_ne_nil (Text.ofNat_ne_nil n)
    have hdigit : Text.isAsciiDigit c = true :=
      Text.isAsciiDigit_of_mem_ofNat (n := n) (by rw [ht]; exact List.mem_cons_self)
    refine ⟨c, t, ht, ?_, ?_⟩
    · cases hspace : isSpace c with
      | false => rfl
      | true =>
        simp only [isSpace, Bool.or_eq_true, decide_eq_true_eq] at hspace
        rcases hspace with ((rfl | rfl) | rfl) | rfl <;> exact absurd hdigit (by decide)
    · rintro rfl
      exact absurd hdigit (by decide)
  cases v with
  | null => exact ⟨_, _, rfl, by decide, by decide⟩
  | bool b => cases b <;> exact ⟨_, _, rfl, by decide, by decide⟩
  | int n =>
    cases n with
    | ofNat n => exact hnat n
    | negSucc n => exact ⟨_, _, rfl, by decide, by decide⟩
  | number repr => exact h.elim
  | str t => exact ⟨_, _, rfl, by decide, by decide⟩
  | arr vs => cases vs <;> exact ⟨_, _, rfl, by decide, by decide⟩
  | obj fs => cases fs <;> exact ⟨_, _, rfl, by decide, by decide⟩

theorem skip_dumps (s : Style) {v : Json} (h : Exact v) (t : Text) :
    skip (dumps s v ++ t) = dumps s v ++ t := by
  obtain ⟨c, rest, hdump, hspace, -⟩ := exists_dumps_cons s h
  rw [hdump, List.cons_append, skip_cons hspace]

theorem noDigit_dumpItems (s : Style) (vs : List Json) (rest : Text) :
    NoDigit (dumpItems s vs ++ rest) := by
  cases vs <;> · rintro c hc; obtain rfl := Option.some.inj hc; decide

theorem noDigit_dumpFields (s : Style) (fs : List (String × Json)) (rest : Text) :
    NoDigit (dumpFields s fs ++ rest) := by
  obtain _ | ⟨⟨k, v⟩, fs⟩ := fs <;> · rintro c hc; obtain rfl := Option.some.inj hc; decide

/-- An integer is read back. -/
theorem scanValue_dumpInt (n : Nat) (i : Int) {rest : Text} (h : NoDigit rest) :
    scanValue (n + 1) (dumpInt i ++ rest) = some (.int i, rest) := by
  cases i with
  | negSucc m =>
    rw [dumpInt, List.cons_append, scanValue, if_neg (by decide), if_neg (by decide),
      if_neg (by decide), if_neg (by decide), if_neg (by decide), if_neg (by decide), if_pos rfl,
      scanNat_ofNat _ h]
    rfl
  | ofNat m =>
    obtain ⟨c, t, ht⟩ := List.exists_cons_of_ne_nil (Text.ofNat_ne_nil m)
    have hdigit : Text.isAsciiDigit c = true :=
      Text.isAsciiDigit_of_mem_ofNat (n := m) (by rw [ht]; exact List.mem_cons_self)
    have hne {d : Char} (hd : Text.isAsciiDigit d = false) : c ≠ d := by
      rintro rfl
      rw [hdigit] at hd
      cases hd
    have hscan := scanNat_ofNat m h
    rw [ht, List.cons_append] at hscan
    rw [dumpInt, ht, List.cons_append, scanValue, if_neg (hne (by decide)),
      if_neg (hne (by decide)), if_neg (hne (by decide)), if_neg (hne (by decide)),
      if_neg (hne (by decide)), if_neg (hne (by decide)), if_neg (hne (by decide)), hscan]
    rfl

theorem length_dumps_pos (s : Style) {v : Json} (h : Exact v) : 0 < (dumps s v).length := by
  obtain ⟨c, t, hdump, -⟩ := exists_dumps_cons s h
  rw [hdump, List.length_cons]
  omega

mutual

/-- A value is read back, whatever follows. -/
theorem scanValue_dumps (s : Style) (v : Json) (n : Nat) (rest : Text) (hv : Exact v)
    (hn : (dumps s v).length ≤ n) (hrest : NoDigit rest) :
    scanValue n (dumps s v ++ rest) = some (v, rest) := by
  obtain ⟨m, rfl⟩ : ∃ m, n = m + 1 := ⟨n - 1, by have := length_dumps_pos s hv; omega⟩
  match hvalue : v, hv, hn with
  | .null, _, _ => rfl
  | .bool true, _, _ => rfl
  | .bool false, _, _ => rfl
  | .int i, _, _ => exact scanValue_dumpInt m i hrest
  | .str t, _, _ =>
    rw [dumps, dumpString, List.cons_append, List.append_assoc, List.singleton_append, scanValue,
      if_pos rfl, scanString_dump]
    rfl
  | .arr [], _, _ => rfl
  | .arr (v :: vs), ⟨hv, hvs⟩, hn =>
    rw [dumps, List.length_cons] at hn
    obtain ⟨c, t, hdump, hspace, hclose⟩ := exists_dumps_cons s hv
    have hitems := scanItems_dumps s v vs m rest hv hvs (by omega)
    rw [hdump, List.cons_append, List.cons_append] at hitems
    rw [dumps, List.cons_append, scanValue, if_neg (by decide), if_neg (by decide), if_pos rfl,
      hdump, List.cons_append, List.cons_append, skip_cons hspace]
    dsimp only
    rw [if_neg hclose, hitems]
    rfl
  | .obj [], _, _ => rfl
  | .obj ((k, v) :: fs), ⟨hkeys, hv, hfs⟩, hn =>
    rw [dumps, List.length_cons] at hn
    have hfields := scanFields_dumps s k v fs m rest hv hfs (by omega)
    rw [dumpString, List.cons_append, List.cons_append] at hfields
    rw [dumps, List.cons_append, scanValue, if_neg (by decide), if_pos rfl, dumpString,
      List.cons_append, List.cons_append, skip_cons (by decide)]
    dsimp only
    rw [if_neg (by decide), hfields, Option.map_some, dictOf_eq_self hkeys]
termination_by sizeOf v
decreasing_by all_goals (subst_vars; simp +arith)

/-- The items of an array are read back. -/
theorem scanItems_dumps (s : Style) (v : Json) (vs : List Json) (n : Nat) (rest : Text)
    (hv : Exact v) (hvs : ExactItems vs) (hn : (dumps s v ++ dumpItems s vs).length ≤ n) :
    scanItems n (dumps s v ++ dumpItems s vs ++ rest) = some (v :: vs, rest) := by
  have hpos := length_dumps_pos s hv
  rw [List.length_append] at hn
  obtain ⟨m, rfl⟩ : ∃ m, n = m + 1 := ⟨n - 1, by omega⟩
  have hlength : 0 < (dumpItems s vs).length := by cases vs <;> simp [dumpItems]
  have hfirst := scanValue_dumps s v m (dumpItems s vs ++ rest) hv (by omega)
    (noDigit_dumpItems s vs rest)
  rw [scanItems, List.append_assoc, hfirst]
  match hitems : vs, hvs, hn with
  | [], _, _ => rfl
  | v' :: vs, ⟨hv', hvs⟩, hn =>
    rw [dumpItems, List.length_cons, List.length_append] at hn
    have htail := scanItems_dumps s v' vs m rest hv' hvs (by omega)
    show (scanItems m (skip (s.gap ++ (dumps s v' ++ dumpItems s vs) ++ rest))).map _ = _
    rw [List.append_assoc, skip_append s.gap_space, List.append_assoc, skip_dumps s hv',
      ← List.append_assoc, htail]
    rfl
termination_by sizeOf v + sizeOf vs + 1
decreasing_by all_goals (subst_vars; simp +arith)

/-- The fields of an object are read back. -/
theorem scanFields_dumps (s : Style) (k : String) (v : Json) (fs : List (String × Json))
    (n : Nat) (rest : Text) (hv : Exact v) (hfs : ExactFields fs)
    (hn : (dumpString s k.toList ++ ':' :: (s.gap ++ (dumps s v ++ dumpFields s fs))).length ≤ n) :
    scanFields n (dumpString s k.toList ++ ':' :: (s.gap ++ (dumps s v ++ dumpFields s fs)) ++
      rest) = some ((k, v) :: fs, rest) := by
  have hpos := length_dumps_pos s hv
  simp only [dumpString, List.cons_append, List.length_cons, List.length_append] at hn
  obtain ⟨m, rfl⟩ : ∃ m, n = m + 1 := ⟨n - 1, by omega⟩
  have hfirst := scanValue_dumps s v m (dumpFields s fs ++ rest) hv (by omega)
    (noDigit_dumpFields s fs rest)
  have hkey := scanString_dump s.ensureAscii k.toList
    (':' :: (s.gap ++ (dumps s v ++ dumpFields s fs)) ++ rest)
  rw [dumpString, List.cons_append, List.cons_append, List.append_assoc, List.append_assoc,
    List.singleton_append, scanFields, if_pos rfl, hkey]
  show (scanValue m (skip (s.gap ++ (dumps s v ++ dumpFields s fs) ++ rest))).bind _ = _
  rw [List.append_assoc, skip_append s.gap_space, List.append_assoc, skip_dumps s hv, hfirst]
  match hfields : fs, hfs, hn with
  | [], _, _ => simp [dumpFields, skip_cons, isSpace]
  | (k', v') :: fs, ⟨hv', hfs⟩, hn =>
    simp only [dumpFields, dumpString, List.length_cons, List.length_append] at hn
    have htail := scanFields_dumps s k' v' fs m rest hv' hfs (by
      simp only [dumpString, List.cons_append, List.length_cons, List.length_append]
      omega)
    show Option.map _ (scanFields m (skip (s.gap ++ (dumpString s k'.toList ++
      ':' :: (s.gap ++ (dumps s v' ++ dumpFields s fs))) ++ rest))) = _
    rw [List.append_assoc, skip_append s.gap_space]
    rw [dumpString, List.cons_append, List.cons_append] at htail ⊢
    rw [skip_cons (by decide), htail]
    simp
termination_by sizeOf v + sizeOf fs + 1
decreasing_by all_goals (subst_vars; simp +arith)

end

/-- **What is written is read back.** -/
theorem loads_dumps (s : Style) {v : Json} (h : Exact v) : loads (dumps s v) = some v := by
  have hscan := scanValue_dumps s v ((dumps s v).length + 1) [] h (by omega) (by
    intro c hc
    cases hc)
  have hskip := skip_dumps s h []
  rw [List.append_nil] at hscan hskip
  rw [loads, hskip, hscan]
  rfl

theorem dumps_injOn (s : Style) {v w : Json} (hv : Exact v) (hw : Exact w)
    (h : dumps s v = dumps s w) : v = w := by
  have hback := loads_dumps s hv
  rw [h, loads_dumps s hw] at hback
  exact (Option.some.inj hback).symm

/-! ## Sorted keys -/

/-- The order of keys: that of their code points. -/
def KeyLe (a b : String × Json) : Prop := a.1.toList ≤ b.1.toList

instance : DecidableRel KeyLe := fun _ _ => inferInstanceAs (Decidable (_ ≤ _))

mutual

/-- What `sort_keys=True` writes. -/
def sortKeys : Json → Json
  | .null => .null
  | .bool b => .bool b
  | .int n => .int n
  | .number repr => .number repr
  | .str t => .str t
  | .arr vs => .arr (sortItems vs)
  | .obj fs => .obj ((sortFields fs).insertionSort KeyLe)

/-- `sortKeys`, of every item. -/
def sortItems : List Json → List Json
  | [] => []
  | v :: vs => sortKeys v :: sortItems vs

/-- `sortKeys`, of every field. -/
def sortFields : List (String × Json) → List (String × Json)
  | [] => []
  | (k, v) :: fs => (k, sortKeys v) :: sortFields fs

end

theorem sortItems_eq_map (vs : List Json) : sortItems vs = vs.map sortKeys := by
  induction vs with
  | nil => rfl
  | cons v vs ih => rw [sortItems, ih, List.map_cons]

theorem sortFields_eq_map (fs : List (String × Json)) :
    sortFields fs = fs.map fun e => (e.1, sortKeys e.2) := by
  induction fs with
  | nil => rfl
  | cons e fs ih => rw [sortFields, ih, List.map_cons]

@[simp] theorem map_fst_sortFields (fs : List (String × Json)) :
    (sortFields fs).map Prod.fst = fs.map Prod.fst := by
  rw [sortFields_eq_map, List.map_map]
  rfl

/-- **A value is found under its key**, sorted itself. -/
theorem lookup_sortFields {fs : List (String × Json)} (h : (fs.map Prod.fst).Nodup)
    (key : String) :
    ((sortFields fs).insertionSort KeyLe).lookup key = (fs.lookup key).map sortKeys := by
  have hkeys : (((sortFields fs).insertionSort KeyLe).map Prod.fst).Nodup := by
    rw [((List.perm_insertionSort KeyLe (sortFields fs)).map Prod.fst).nodup_iff,
      map_fst_sortFields]
    exact h
  rw [Lookup.lookup_perm (List.perm_insertionSort KeyLe _) hkeys, sortFields_eq_map,
    Lookup.lookup_map_snd]

theorem lookup_sortFields_of_flat {fs : List (String × Json)} (h : (fs.map Prod.fst).Nodup)
    (hflat : ∀ e ∈ fs, sortKeys e.2 = e.2) (key : String) :
    ((sortFields fs).insertionSort KeyLe).lookup key = fs.lookup key := by
  rw [lookup_sortFields h]
  cases hlookup : fs.lookup key with
  | none => rfl
  | some v => rw [Option.map_some, hflat (key, v) ((Lookup.lookup_eq_some_iff_mem h).1 hlookup)]

theorem exactItems_iff (vs : List Json) : ExactItems vs ↔ ∀ v ∈ vs, Exact v := by
  induction vs with
  | nil => simp [ExactItems]
  | cons v vs ih => rw [ExactItems, ih, List.forall_mem_cons]

theorem exactFields_iff (fs : List (String × Json)) : ExactFields fs ↔ ∀ e ∈ fs, Exact e.2 := by
  induction fs with
  | nil => simp [ExactFields]
  | cons e fs ih => rw [ExactFields, ih, List.forall_mem_cons]

mutual

theorem exact_sortKeys : ∀ v : Json, Exact v → Exact (sortKeys v)
  | .null, h | .bool _, h | .int _, h | .str _, h => h
  | .number _, h => h
  | .arr vs, h => exactItems_sortItems vs h
  | .obj fs, ⟨hkeys, hfs⟩ => by
    have hperm := List.perm_insertionSort KeyLe (sortFields fs)
    refine ⟨?_, (exactFields_iff _).2 fun e he => ?_⟩
    · rw [(hperm.map Prod.fst).nodup_iff, map_fst_sortFields]
      exact hkeys
    · exact (exactFields_iff _).1 (exactFields_sortFields fs hfs) e (hperm.mem_iff.1 he)

theorem exactItems_sortItems : ∀ vs : List Json, ExactItems vs → ExactItems (sortItems vs)
  | [], h => h
  | v :: vs, ⟨hv, hvs⟩ => ⟨exact_sortKeys v hv, exactItems_sortItems vs hvs⟩

theorem exactFields_sortFields :
    ∀ fs : List (String × Json), ExactFields fs → ExactFields (sortFields fs)
  | [], h => h
  | (_, v) :: fs, ⟨hv, hfs⟩ => ⟨exact_sortKeys v hv, exactFields_sortFields fs hfs⟩

end

/-! ## Bytes -/

/-- `str.encode()`. -/
def encode (t : Text) : ByteArray := (String.ofList t).toByteArray

theorem encode_injective : Function.Injective encode := by
  intro t t' h
  have hstring : String.ofList t = String.ofList t' := String.toByteArray_inj.1 h
  rw [← String.toList_ofList (l := t), hstring, String.toList_ofList]

end JsonText
