import PromoBot.Lib.PyText

/-!
# Decoded JSON

What `json.loads` returns.  A number which is no integer is kept as the text
`str` gives for it.
-/

/-- A decoded JSON value. -/
inductive Json
  | null
  | bool (b : Bool)
  | int (n : Int)
  | number (repr : Text)
  | str (t : Text)
  | arr (items : List Json)
  | obj (fields : List (String × Json))

namespace Json

/-! ## Equality -/

mutual

/-- Equality of values, decided along their structure. -/
def beq : Json → Json → Bool
  | .null, .null => true
  | .bool a, .bool b => a = b
  | .int a, .int b => a = b
  | .number a, .number b => a = b
  | .str a, .str b => a = b
  | .arr a, .arr b => beqItems a b
  | .obj a, .obj b => beqFields a b
  | _, _ => false

/-- Equality of the items of two arrays. -/
def beqItems : List Json → List Json → Bool
  | [], [] => true
  | a :: as, b :: bs => beq a b && beqItems as bs
  | _, _ => false

/-- Equality of the fields of two objects. -/
def beqFields : List (String × Json) → List (String × Json) → Bool
  | [], [] => true
  | (k, a) :: as, (l, b) :: bs => k = l && beq a b && beqFields as bs
  | _, _ => false

end

mutual

theorem beq_iff : ∀ a b : Json, beq a b = true ↔ a = b
  | .null, b => by cases b <;> simp [beq]
  | .bool a, b => by cases b <;> simp [beq]
  | .int a, b => by cases b <;> simp [beq]
  | .number a, b => by cases b <;> simp [beq]
  | .str a, b => by cases b <;> simp [beq]
  | .arr a, b => by cases b <;> simp [beq, beqItems_iff]
  | .obj a, b => by cases b <;> simp [beq, beqFields_iff]

theorem beqItems_iff : ∀ a b : List Json, beqItems a b = true ↔ a = b
  | [], b => by cases b <;> simp [beqItems]
  | a :: as, b => by cases b <;> simp [beqItems, beq_iff, beqItems_iff]

theorem beqFields_iff : ∀ a b : List (String × Json), beqFields a b = true ↔ a = b
  | [], b => by cases b <;> simp [beqFields]
  | (k, a) :: as, b => by
    cases b with
    | nil => simp [beqFields]
    | cons f fs =>
      obtain ⟨l, b⟩ := f
      simp [beqFields, beq_iff, beqFields_iff, and_assoc]

end

instance : DecidableEq Json := fun a b => decidable_of_iff _ (beq_iff a b)

/-! ## Reading -/

/-- `fields.get(key)`, with `None` read as JSON reads it. -/
def get (fields : List (String × Json)) (key : String) : Json :=
  (fields.lookup key).getD .null

/-- The text of a string. -/
def text? : Json → Option Text
  | .str t => some t
  | _ => none

/-- `str(value)`, of the values whose `str` may be a number. -/
def numeral? : Json → Option Text
  | .str t => some t
  | .int (.ofNat n) => some (Text.ofNat n)
  | .int (.negSucc n) => some ('-' :: Text.ofNat (n + 1))
  | .number repr => some repr
  | _ => none

end Json
