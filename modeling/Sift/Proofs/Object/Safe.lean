import Sift.Object.Decode
import Sift.Proofs.Tree

/-!
# Trees whose objects read back

An object is told apart by the spelling of its keys and the shapes of its values alone, so a few
trees are written like others. `Node.JsonSafe` leaves these out, node by node; of a whole tree it is
required `Everywhere`.

* `Expr.keyMember?`: the member under which a comparison is written, if there is one.
* `Expr.JsonSafe`, `Field.JsonSafe`, `Query.JsonSafe`: what is required of one node.
-/

namespace Sift

/-- Names that stand for something else than a call behind a dollar sign: connectives,
comparisons and clauses of queries. -/
def reservedNames : List String :=
  ["and", "or", "not", "eq", "ne", "lt", "lte", "gt", "gte", "in", "nin", "select", "insert",
   "update", "delete", "collection"]

/-- Names of arithmetic, which two arguments make an operator of. -/
def arithNames : List String := ["add", "sub", "mul", "div", "mod"]

/-- A key with a dollar sign in front. -/
def isDollarKey (key : String) : Bool := key.toList.head? == some '$'

namespace Expr

/-- The member that a comparison is keyed by: its left side, or the first operand there. -/
def keyMember? : Expr → Option String
  | .member path => some path
  | .call _ (.member path :: _) => some path
  | .arith (.member path) _ _ => some path
  | _ => none

/-- A comparison keyed by a member. -/
def isKeyed : Expr → Bool
  | .compare l _ _ => l.keyMember?.isSome
  | _ => false

/-- A set as it is written: an array or a query. -/
def isSetOperand : Expr → Bool
  | .lit (.arr _) => true
  | .subquery _ => true
  | _ => false

/-- What a comparison keyed by a member has to satisfy to read back. -/
structure KeyedSafe (path : String) (l : Expr) (op : Comparison) (r : Expr) : Prop where
  key : isDollarKey path = false
  callee : ∀ name args, l = .call name args → name ∉ ["name", "text", "regex"]
  operand : op = .isIn ∨ op = .notIn → r.isSetOperand = true

/-- What one expression has to satisfy to read back. -/
def JsonSafe : Expr → Prop
  | .lit v => v.isObj = false
  | .call name args => name ∉ reservedNames ∧ (name ∈ arithNames → args.length ≠ 2)
  | .compare l op r => ∀ path, l.keyMember? = some path → KeyedSafe path l op r
  | .subquery q =>
    q.collection.isSome ∨ q.select.isSome ∨ q.insert.isSome ∨ q.update.isSome ∨ q.delete = true
  | _ => True

end Expr

/-- What a field has to satisfy to read back: a bare text names a member, a key without a dollar
sign is a label and a key with one is none. -/
structure Field.JsonSafe (f : Field) : Prop where
  text : ∀ s, f.expr ≠ .lit (.str s)
  label : ∀ name, f.label = some name → isDollarKey name = false
  bare : f.label = none → f.expr.isKeyed = false

/-- What one query has to satisfy to read back: a predicate that is null counts as none. -/
structure Query.JsonSafe (q : Query) : Prop where
  filter : q.filter ≠ some (.lit .null)
  prepared : q.prepared ≠ some (.lit .null)
  fields : ∀ f ∈ q.fields, f.JsonSafe

/-- What one node has to satisfy to read back. -/
def Node.JsonSafe : Node → Prop
  | .expr e => e.JsonSafe
  | .query q => q.JsonSafe

end Sift
