import Sift.Expr.Basic

/-!
# Composition with folding

The constructors by which the notations compose expressions. They keep trees small: constants are
computed, and a connective under the same connective is merged into it.

* `arithmetic`: computes an operator on two constants where it has a value.
* `connect`: computes a connective on two truth values, and joins the operands otherwise.
* `all`, `any`: the conjunction and the disjunction of a list.
* `negate`: negation, which undoes a negation.
-/

namespace Sift.Expr

/-- Arithmetic, computed on two constants where the operator has a value there. -/
def arithmetic (left : Expr) (op : Arith) (right : Expr) : Expr :=
  match left, right with
  | .lit a, .lit b => match op.compute? a b with
    | some v => .lit v
    | none => .arith left op right
  | _, _ => .arith left op right

/-- The operands under a connective: those of a node of that connective, else the expression
itself. -/
def operandsOf (op : Connective) : Expr → List Expr
  | .logical op' operands => if op' = op then operands else [.logical op' operands]
  | e => [e]

/-- A connective, computed on two truth values; otherwise one node of all operands on both
sides. -/
def connect (op : Connective) (left right : Expr) : Expr :=
  match left, right with
  | .lit (.bool a), .lit (.bool b) => .lit (.bool (op.apply a b))
  | _, _ => .logical op (operandsOf op left ++ operandsOf op right)

/-- A list joined by a connective, from the left; a single expression is returned as it is. -/
def joined (op : Connective) : List Expr → Option Expr
  | [] => none
  | e :: es => some (es.foldl (connect op) e)

/-- The conjunction of a list. -/
def all (es : List Expr) : Option Expr := joined .and es

/-- The disjunction of a list. -/
def any (es : List Expr) : Option Expr := joined .or es

/-- Negation: a truth value is inverted, a negation undone, and anything else negated. -/
def negate : Expr → Expr
  | .lit (.bool b) => .lit (.bool !b)
  | .not e => e
  | e => .not e

/-! Comparisons and arithmetic by name. -/

def equal (l r : Expr) : Expr := .compare l .eq r

def notEqual (l r : Expr) : Expr := .compare l .ne r

def greaterThan (l r : Expr) : Expr := .compare l .gt r

def greaterOrEqual (l r : Expr) : Expr := .compare l .ge r

def lowerThan (l r : Expr) : Expr := .compare l .lt r

def lowerOrEqual (l r : Expr) : Expr := .compare l .le r

def plus (l r : Expr) : Expr := arithmetic l .add r

def minus (l r : Expr) : Expr := arithmetic l .sub r

def times (l r : Expr) : Expr := arithmetic l .mul r

def dividedBy (l r : Expr) : Expr := arithmetic l .div r

def modulo (l r : Expr) : Expr := arithmetic l .mod r

/-- Membership in a set of constants. -/
def within (e : Expr) (values : List Json) : Expr := .compare e .isIn (.lit (.arr values))

/-- Absence from a set of constants. -/
def without (e : Expr) (values : List Json) : Expr := .compare e .notIn (.lit (.arr values))

end Sift.Expr
