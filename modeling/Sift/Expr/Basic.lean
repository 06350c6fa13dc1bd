import Sift.Expr.Operator

/-!
# Expressions and queries

The tree that every notation produces and every statement is made of. An expression may hold a
nested query and a query holds expressions, so the two are defined together.

* `Expr`: constants, members, connectives, comparisons, arithmetic, calls, negations and subqueries.
* `Query`: one select, insert, update or delete statement.
* `Field`, `Order`, `Join`: the parts of a select statement.
-/

namespace Sift

/-- A field of a joined entity; without an entity it belongs to the side it stands on. -/
structure FieldRef where
  entity : Option String
  field : String
  deriving DecidableEq, Repr

/-- Join kinds. -/
inductive JoinKind where
  | inner
  | left
  | right
  deriving DecidableEq, Repr

/-- Sort directions. -/
inductive Direction where
  | ascending
  | descending
  deriving DecidableEq, Repr

mutual

/-- An expression: a value or a predicate. A logical node joins any number of operands. -/
inductive Expr where
  | lit (value : Json)
  | member (path : String)
  | logical (op : Connective) (operands : List Expr)
  | compare (left : Expr) (op : Comparison) (right : Expr)
  | arith (left : Expr) (op : Arith) (right : Expr)
  | call (name : String) (args : List Expr)
  | not (operand : Expr)
  | subquery (query : Query)

/-- A selected or grouped field, with the label it is selected under. -/
structure Field where
  expr : Expr
  label : Option String

/-- One item of an ordering. -/
structure Order where
  expr : Expr
  direction : Direction

/-- What is joined: an entity or a nested select. -/
inductive Target where
  | entity (name : String)
  | query (query : Query)

/-- A join condition: fields equal pair by pair, or any predicate. -/
inductive Condition where
  | fields (left right : List FieldRef)
  | predicate (expr : Expr)

/-- A join. -/
structure Join where
  target : Target
  label : Option String
  kind : JoinKind
  condition : Option Condition

/-- A query. The statement kind is given by which of `select`, `insert`, `update` and `delete`
is set; an empty selection selects every column. `prepared` is a predicate put aside, to which
`filter` is added. -/
structure Query where
  collection : Option String
  label : Option String
  select : Option (List Field)
  insert : Option (List (String × Json))
  update : Option (List (String × Json))
  delete : Bool
  filter : Option Expr
  prepared : Option Expr
  order : List Order
  group : List Field
  joins : List Join
  skip : Option UInt64
  take : Option UInt64
  distinct : Bool
  fixed : Bool

end

instance : Inhabited Expr := ⟨.lit .null⟩

/-- The query with nothing set. -/
def Query.empty : Query where
  collection := none
  label := none
  select := none
  insert := none
  update := none
  delete := false
  filter := none
  prepared := none
  order := []
  group := []
  joins := []
  skip := none
  take := none
  distinct := false
  fixed := false

instance : Inhabited Query := ⟨Query.empty⟩

namespace Expr

/-- The constant that an expression is, if it is one. -/
def literal? : Expr → Option Json
  | .lit v => some v
  | _ => none

/-- Whether an expression is a constant. -/
def isLiteral (e : Expr) : Bool := e.literal?.isSome

/-- The path of a member. -/
def path? : Expr → Option String
  | .member path => some path
  | _ => none

/-- Whether an expression is a predicate by its form: a connective, a comparison or a negation.
-/
def isPredicate : Expr → Bool
  | .logical _ _ => true
  | .compare _ _ _ => true
  | .not _ => true
  | _ => false

end Expr

namespace Query

/-! The parts of a query are smaller than the query, by which functions on queries end. -/

theorem sizeOf_select_lt (q : Query) : sizeOf q.select < sizeOf q := by
  cases q; simp only [Query.mk.sizeOf_spec]; omega

theorem sizeOf_filter_lt (q : Query) : sizeOf q.filter < sizeOf q := by
  cases q; simp only [Query.mk.sizeOf_spec]; omega

theorem sizeOf_prepared_lt (q : Query) : sizeOf q.prepared < sizeOf q := by
  cases q; simp only [Query.mk.sizeOf_spec]; omega

theorem sizeOf_order_lt (q : Query) : sizeOf q.order < sizeOf q := by
  cases q; simp only [Query.mk.sizeOf_spec]; omega

theorem sizeOf_group_lt (q : Query) : sizeOf q.group < sizeOf q := by
  cases q; simp only [Query.mk.sizeOf_spec]; omega

theorem sizeOf_joins_lt (q : Query) : sizeOf q.joins < sizeOf q := by
  cases q; simp only [Query.mk.sizeOf_spec]; omega

end Query

theorem Field.sizeOf_expr_lt (f : Field) : sizeOf f.expr < sizeOf f := by
  cases f; simp only [Field.mk.sizeOf_spec]; omega

theorem Order.sizeOf_expr_lt (o : Order) : sizeOf o.expr < sizeOf o := by
  cases o; simp only [Order.mk.sizeOf_spec]; omega

theorem Join.sizeOf_target_lt (j : Join) : sizeOf j.target < sizeOf j := by
  cases j; simp only [Join.mk.sizeOf_spec]; omega

theorem Join.sizeOf_condition_lt (j : Join) : sizeOf j.condition < sizeOf j := by
  cases j; simp only [Join.mk.sizeOf_spec]; omega

end Sift
