import Mathlib.Data.List.Basic
import Mathlib.Order.Lattice

/-!
# `WHERE` clauses put together

A program writes a `WHERE` clause by collecting conditions with `?` in them, and next to them
the values these stand for.  The database binds the values to the placeholders by position, so
the two lists must go together; a `Where` carries that fact, and one more condition with its
values is then one more conjunct (`holds_add`), whatever stands before it.

A clause whose last condition is an `EXISTS` has the placeholders of the subquery last, and
`Subquery` is that case: the values of the clause come first, and then those of the subquery
(`selects_iff`).
-/

namespace SqlWhere

universe u v w

variable {γ : Type u} {ν : Type v}

/-- A comparison of a column. -/
inductive Operator
  | eq | ge | lt
  deriving DecidableEq, Repr

/-- One of the conditions joined by `AND`, over columns of type `γ` and values of type `ν`. -/
inductive Condition (γ : Type u) (ν : Type v)
  /-- `c = ?`, `c >= ?` or `c < ?`. -/
  | parameter (c : γ) (op : Operator)
  /-- `c = 'v'`. -/
  | literal (c : γ) (v : ν)
  /-- `c IN ('v', …)`. -/
  | isIn (c : γ) (vs : List ν)
  /-- `c = c'`. -/
  | same (c c' : γ)

/-- How many placeholders a condition has. -/
def Condition.holes : Condition γ ν → Nat
  | .parameter _ _ => 1
  | _ => 0

@[simp] theorem Condition.holes_parameter (c : γ) (op : Operator) :
    (parameter c op : Condition γ ν).holes = 1 := rfl

@[simp] theorem Condition.holes_literal (c : γ) (v : ν) : (literal c v).holes = 0 := rfl

@[simp] theorem Condition.holes_isIn (c : γ) (vs : List ν) : (isIn c vs).holes = 0 := rfl

/-- How many placeholders conditions have. -/
def holes : List (Condition γ ν) → Nat
  | [] => 0
  | c :: cs => c.holes + holes cs

@[simp] theorem holes_nil : holes ([] : List (Condition γ ν)) = 0 := rfl

@[simp] theorem holes_cons (c : Condition γ ν) (cs : List (Condition γ ν)) :
    holes (c :: cs) = c.holes + holes cs := rfl

@[simp] theorem holes_append (cs cs' : List (Condition γ ν)) :
    holes (cs ++ cs') = holes cs + holes cs' := by
  induction cs with
  | nil => rw [List.nil_append, holes_nil, Nat.zero_add]
  | cons c cs ih => rw [List.cons_append, holes_cons, holes_cons, ih, Nat.add_assoc]

/-! ## What a clause says of a row -/

section Holds

variable [LinearOrder ν] (row : γ → Option ν)

/-- The value of a column compared with a value. -/
def Operator.Compares (op : Operator) (x v : ν) : Prop :=
  match op with
  | .eq => x = v
  | .ge => v ≤ x
  | .lt => x < v

instance (op : Operator) (x v : ν) : Decidable (op.Compares x v) :=
  match op with
  | .eq => inferInstanceAs (Decidable (x = v))
  | .ge => inferInstanceAs (Decidable (v ≤ x))
  | .lt => inferInstanceAs (Decidable (x < v))

/-- What a condition says, its placeholders being bound to these values.  A column that is
`NULL` meets no condition. -/
def Condition.Holds (vs : List ν) : Condition γ ν → Prop
  | .parameter c op => ∃ x ∈ row c, ∃ v ∈ vs.head?, op.Compares x v
  | .literal c v => row c = some v
  | .isIn c vs => ∃ x ∈ row c, x ∈ vs
  | .same c c' => ∃ x ∈ row c, row c' = some x

instance Condition.decidableHolds (vs : List ν) : (c : Condition γ ν) → Decidable (c.Holds row vs)
  | .parameter c op =>
    inferInstanceAs (Decidable (∃ x ∈ row c, ∃ v ∈ vs.head?, op.Compares x v))
  | .literal c v => inferInstanceAs (Decidable (row c = some v))
  | .isIn c vs => inferInstanceAs (Decidable (∃ x ∈ row c, x ∈ vs))
  | .same c c' => inferInstanceAs (Decidable (∃ x ∈ row c, row c' = some x))

/-- What conditions say, the values being bound to their placeholders one after another. -/
def Holds : List ν → List (Condition γ ν) → Prop
  | _, [] => True
  | vs, c :: cs => c.Holds row (vs.take c.holes) ∧ Holds (vs.drop c.holes) cs

instance decidableHolds : (vs : List ν) → (cs : List (Condition γ ν)) → Decidable (Holds row vs cs)
  | _, [] => inferInstanceAs (Decidable True)
  | vs, c :: cs =>
    have := decidableHolds (vs.drop c.holes) cs
    inferInstanceAs (Decidable (_ ∧ Holds row (vs.drop c.holes) cs))

variable {row}

/-- **Conditions bind the first values, and those after them the rest.** -/
theorem holds_append {vs vs' : List ν} {cs cs' : List (Condition γ ν)}
    (h : holes cs = vs.length) :
    Holds row (vs ++ vs') (cs ++ cs') ↔ Holds row vs cs ∧ Holds row vs' cs' := by
  induction cs generalizing vs with
  | nil =>
    obtain rfl := List.length_eq_zero_iff.1 h.symm
    exact (iff_of_eq (true_and _)).symm
  | cons c cs ih =>
    rw [holes_cons] at h
    have hle : c.holes ≤ vs.length := by omega
    have hrest : holes cs = (vs.drop c.holes).length := by
      rw [List.length_drop]
      omega
    show c.Holds row ((vs ++ vs').take c.holes) ∧ Holds row ((vs ++ vs').drop c.holes) (cs ++ cs') ↔
      (c.Holds row (vs.take c.holes) ∧ Holds row (vs.drop c.holes) cs) ∧ Holds row vs' cs'
    rw [List.take_append_of_le_length hle, List.drop_append_of_le_length hle, ih hrest, and_assoc]

end Holds

/-! ## Putting a clause together -/

/-- Conditions and the values of their placeholders. -/
structure Where (γ : Type u) (ν : Type v) where
  conditions : List (Condition γ ν)
  parameters : List ν
  /-- There is a value for every placeholder, and no other. -/
  aligned : holes conditions = parameters.length

namespace Where

/-- The clause with one more condition, and the values of its placeholders. -/
def add (q : Where γ ν) (c : Condition γ ν) (vs : List ν) (h : c.holes = vs.length) :
    Where γ ν where
  conditions := q.conditions ++ [c]
  parameters := q.parameters ++ vs
  aligned := by
    rw [holes_append, holes_cons, holes_nil, q.aligned, h, List.length_append, Nat.add_zero]

/-- The clause with one more condition, which has no placeholder. -/
def addPlain (q : Where γ ν) (c : Condition γ ν) (h : c.holes = 0) : Where γ ν := q.add c [] h

/-- The clause with a comparison, if there is a value to compare with. -/
def addIfGiven (q : Where γ ν) (c : γ) (op : Operator) : Option ν → Where γ ν
  | some v => q.add (.parameter c op) [v] (Condition.holes_parameter c op)
  | none => q

variable [LinearOrder ν] {row : γ → Option ν} {q : Where γ ν}

/-- What the clause says of a row. -/
def Holds (row : γ → Option ν) (q : Where γ ν) : Prop :=
  SqlWhere.Holds row q.parameters q.conditions

theorem holds_single (c : Condition γ ν) (vs : List ν) (h : c.holes = vs.length) :
    SqlWhere.Holds row vs [c] ↔ c.Holds row vs := by
  show c.Holds row (vs.take c.holes) ∧ True ↔ _
  rw [and_true, h, List.take_length]

/-- **One more condition is one more conjunct.** -/
theorem holds_add {c : Condition γ ν} {vs : List ν} {h : c.holes = vs.length} :
    (q.add c vs h).Holds row ↔ q.Holds row ∧ c.Holds row vs :=
  (holds_append q.aligned).trans (and_congr_right' (holds_single c vs h))

theorem holds_addPlain {c : Condition γ ν} {h : c.holes = 0} :
    (q.addPlain c h).Holds row ↔ q.Holds row ∧ c.Holds row [] := holds_add

theorem holds_addIfGiven {c : γ} {op : Operator} {o : Option ν} :
    (q.addIfGiven c op o).Holds row ↔
      q.Holds row ∧ ∀ v, o = some v → ∃ x ∈ row c, op.Compares x v := by
  cases o with
  | none => simp [addIfGiven]
  | some v =>
    rw [addIfGiven, holds_add]
    simp [Condition.Holds]

end Where

/-! ## Subqueries -/

/-- A clause, and last in it `EXISTS (… WHERE …)` if there is a subquery. -/
structure Subquery (γ : Type u) (ν : Type v) where
  outer : Where γ ν
  inner : Option (Where γ ν)

namespace Subquery

/-- The values of all placeholders, in the order of the text. -/
def parameters (s : Subquery γ ν) : List ν :=
  s.outer.parameters ++ (s.inner.elim [] Where.parameters)

variable [LinearOrder ν]

/-- What the whole says of a row, `rows` being the rows of the subquery. -/
def Selects (s : Subquery γ ν) (vs : List ν) (row : γ → Option ν) (rows : List (γ → Option ν)) :
    Prop :=
  Holds row (vs.take (holes s.outer.conditions)) s.outer.conditions ∧
    ∀ q ∈ s.inner, ∃ row' ∈ rows, Holds row' (vs.drop (holes s.outer.conditions)) q.conditions

instance (s : Subquery γ ν) (vs : List ν) (row : γ → Option ν) (rows : List (γ → Option ν)) :
    Decidable (s.Selects vs row rows) :=
  inferInstanceAs (Decidable (_ ∧ ∀ q ∈ s.inner, ∃ row' ∈ rows,
    Holds row' (vs.drop (holes s.outer.conditions)) q.conditions))

/-- **Every part of the clause gets its own values.** -/
theorem selects_iff {s : Subquery γ ν} {row : γ → Option ν} {rows : List (γ → Option ν)} :
    s.Selects s.parameters row rows ↔
      s.outer.Holds row ∧ ∀ q ∈ s.inner, ∃ row' ∈ rows, q.Holds row' := by
  unfold Selects parameters
  rw [s.outer.aligned, List.take_left, List.drop_left]
  refine and_congr_right' (forall₂_congr fun q hq => ?_)
  rw [Option.mem_def.1 hq]
  exact Iff.rfl

end Subquery

end SqlWhere
