import Sift.Json.Basic
import Sift.Number.Decimal

/-!
# Terms of closures

What the body of a closure says, before any of its names is given a meaning.

* `Operator`: binary operators, with their spelling and their level of precedence.
* `Unary`: unary operators.
* `Term`, `Closure`: the body of a closure, and the closure with its parameter.
* `constant?`: a number as the constant that stands for it.
-/

namespace Sift.Lambda

open Number

/-- Binary operators. Not all of them have a meaning on rows. -/
inductive Operator where
  | or
  | and
  | bitOr
  | bitXor
  | bitAnd
  | strictEq
  | strictNe
  | eq
  | ne
  | le
  | ge
  | lt
  | gt
  | isIn
  | instanceOf
  | shiftLeft
  | shiftRightZero
  | shiftRight
  | add
  | sub
  | mul
  | div
  | mod
  deriving DecidableEq, Repr

namespace Operator

/-- All binary operators, from the lowest precedence to the highest. -/
def all : List Operator :=
  [or, and, bitOr, bitXor, bitAnd, strictEq, strictNe, eq, ne, le, ge, lt, gt, isIn, instanceOf,
   shiftLeft, shiftRightZero, shiftRight, add, sub, mul, div, mod]

/-- The spelling of an operator: a punctuator, or a word. -/
def symbol : Operator → String
  | or => "||"
  | and => "&&"
  | bitOr => "|"
  | bitXor => "^"
  | bitAnd => "&"
  | strictEq => "==="
  | strictNe => "!=="
  | eq => "=="
  | ne => "!="
  | le => "<="
  | ge => ">="
  | lt => "<"
  | gt => ">"
  | isIn => "in"
  | instanceOf => "instanceof"
  | shiftLeft => "<<"
  | shiftRightZero => ">>>"
  | shiftRight => ">>"
  | add => "+"
  | sub => "-"
  | mul => "*"
  | div => "/"
  | mod => "%"

/-- The level of an operator: operands of a higher level bind tighter. -/
def level : Operator → Nat
  | or => 0
  | and => 1
  | bitOr => 2
  | bitXor => 3
  | bitAnd => 4
  | strictEq | strictNe | eq | ne => 5
  | le | ge | lt | gt | isIn | instanceOf => 6
  | shiftLeft | shiftRightZero | shiftRight => 7
  | add | sub => 8
  | mul | div | mod => 9

/-- The number of levels. -/
def levels : Nat := 10

/-- The operator of a spelling. -/
def ofSymbol? (s : String) : Option Operator := all.find? (·.symbol == s)

end Operator

/-- Unary operators. Not all of them have a meaning on rows. -/
inductive Unary where
  | not
  | minus
  | plus
  | bitNot
  | typeOf
  deriving DecidableEq, Repr

namespace Unary

/-- The spelling of a unary operator. -/
def symbol : Unary → String
  | not => "!"
  | minus => "-"
  | plus => "+"
  | bitNot => "~"
  | typeOf => "typeof"

/-- The unary operator of a spelling. -/
def ofSymbol? (s : String) : Option Unary :=
  [not, minus, plus, bitNot, typeOf].find? (·.symbol == s)

end Unary

/-- A term. A property is given by name, whichever way its access is written. -/
inductive Term where
  | name (s : String)
  | lit (value : Json)
  | member (of : Term) (property : String)
  | call (callee : Term) (args : List Term)
  | binary (op : Operator) (left right : Term)
  | unary (op : Unary) (operand : Term)
  | array (items : List Term)
  deriving Inhabited

/-- A closure: its parameter and the term it returns. -/
structure Closure where
  parameter : String
  body : Term

/-- The constant for a number: an integer where it is integral and below `0x20000000000000` in
size, a float where it is finite. -/
def constant? (x : Float) : Option Json :=
  if !x.isFinite then none
  else if isIntegral x && (truncate x).natAbs < 0x20000000000000 then some (.int (truncate x))
  else some (.float x)

end Sift.Lambda
