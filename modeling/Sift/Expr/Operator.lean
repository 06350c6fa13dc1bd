import Sift.Json.Printer

/-!
# Operators

The operators of expressions, their keys in expression objects, and arithmetic on constants.

* `Comparison.mirror?`: the operator for swapped operands.
* `Arith.compute?`: the value of an operator on two constants, where it has one. Integers are
  computed exactly while the result fits 64 bits, and as floats otherwise; a text on either side
  makes addition a concatenation.
-/

namespace Sift

open Number

/-- Logical connectives. -/
inductive Connective where
  | and
  | or
  deriving DecidableEq, Repr

namespace Connective

/-- The key of a connective in an expression object. -/
def key : Connective → String
  | and => "$and"
  | or => "$or"

/-- The connective of a key. -/
def ofKey? : String → Option Connective
  | "$and" => some and
  | "$or" => some or
  | _ => none

/-- The text between operands in SQL. -/
def separator : Connective → String
  | and => " AND "
  | or => " OR "

/-- The connective on truth values. -/
def apply : Connective → Bool → Bool → Bool
  | and, a, b => a && b
  | or, a, b => a || b

end Connective

/-- Comparisons, set membership among them. -/
inductive Comparison where
  | eq
  | ne
  | lt
  | le
  | gt
  | ge
  | isIn
  | notIn
  deriving DecidableEq, Repr

namespace Comparison

/-- The key of a comparison in an expression object. -/
def key : Comparison → String
  | eq => "$eq"
  | ne => "$ne"
  | lt => "$lt"
  | le => "$lte"
  | gt => "$gt"
  | ge => "$gte"
  | isIn => "$in"
  | notIn => "$nin"

/-- The comparison of a key. -/
def ofKey? : String → Option Comparison
  | "$eq" => some eq
  | "$ne" => some ne
  | "$lt" => some lt
  | "$lte" => some le
  | "$gt" => some gt
  | "$gte" => some ge
  | "$in" => some isIn
  | "$nin" => some notIn
  | _ => none

/-- The operator for swapped operands; membership has none. -/
def mirror? : Comparison → Option Comparison
  | eq => some eq
  | ne => some ne
  | lt => some gt
  | le => some ge
  | gt => some lt
  | ge => some le
  | isIn => none
  | notIn => none

end Comparison

/-- Arithmetic operators. -/
inductive Arith where
  | add
  | sub
  | mul
  | div
  | mod
  deriving DecidableEq, Repr

namespace Arith

/-- The name of an operator, under which functions and renderers know it. -/
def name : Arith → String
  | add => "add"
  | sub => "sub"
  | mul => "mul"
  | div => "div"
  | mod => "mod"

/-- The key of an operator in an expression object. -/
def key (op : Arith) : String := "$" ++ op.name

/-- The operator of a name. -/
def ofName? : String → Option Arith
  | "add" => some add
  | "sub" => some sub
  | "mul" => some mul
  | "div" => some div
  | "mod" => some mod
  | _ => none

/-- The exact integer result, where there is one: a quotient only if it leaves no remainder, and
a remainder only if the quotient itself fits. -/
def integer? (op : Arith) (a b : Int) : Option Int :=
  let fitting (n : Int) : Option Int := if Json.inSigned n then some n else none
  match op with
  | add => fitting (a + b)
  | sub => fitting (a - b)
  | mul => fitting (a * b)
  | div => if b ≠ 0 ∧ a.tmod b = 0 then fitting (a.tdiv b) else none
  | mod => if b ≠ 0 ∧ Json.inSigned (a.tdiv b) then some (a.tmod b) else none

/-- The result in floats; a division by zero has none. -/
def approximate? (op : Arith) (x y : Float) : Option Float :=
  match op with
  | add => some (x + y)
  | sub => some (x - y)
  | mul => some (x * y)
  | div => if y == 0.0 then none else some (x / y)
  | mod => if y == 0.0 then none else some (remainder x y)

end Arith

namespace Json

/-- A number as a float. -/
def float? : Json → Option Float
  | .int n => some (ofInt n)
  | .float x => some x
  | _ => none

/-- A scalar as text, as concatenation writes it. -/
def scalarText? : Json → Option String
  | .str s => some s
  | .arr _ => none
  | .obj _ => none
  | v => some v.text

/-- Whether a value is a text. -/
def isStr : Json → Bool
  | .str _ => true
  | _ => false

/-- A finite float as a value. -/
def ofFinite? (x : Float) : Option Json := if x.isFinite then some (.float x) else none

end Json

/-- An operator on two constants, where it has a value: a concatenation if either is a text and
the operator is addition, else the exact integer, else a finite float. -/
def Arith.compute? (op : Arith) (a b : Json) : Option Json :=
  if op = .add ∧ (a.isStr || b.isStr) then do
    let s ← a.scalarText?
    let t ← b.scalarText?
    some (.str (s ++ t))
  else
    let whole := do
      let m ← a.signed?
      let n ← b.signed?
      op.integer? m n
    match whole with
    | some n => some (.int n)
    | none => do
      let x ← a.float?
      let y ← b.float?
      Json.ofFinite? (← op.approximate? x y)

end Sift
