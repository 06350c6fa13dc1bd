import Sift.Expr.Basic

/-!
# Expression objects: writing

The JSON form of expressions and queries. A comparison whose left side is a member, or a function of
one, is keyed by the member:

* `{"name": "a"}` for `name = 'a'`, `{"price": {"$gt": 5}}` for `price > 5`;
* `{"date": {"$year": 10}}` for `year(date) = 10`;
* `{"price": {"$add": [5, {"$gt": 100}]}}` for `price + 5 > 100`.

Everything else is keyed by its operator or function, and a query by its clauses.

* `Expr.toJson`, `Query.toJson`: the forms of expressions and of queries.
-/

namespace Sift

/-- An object of one field. -/
def single (key : String) (value : Json) : Json := .obj [(key, value)]

/-- The fields that are present, in order. -/
def present (fields : List (String × Option Json)) : List (String × Json) :=
  fields.filterMap fun (key, value?) => value?.map (key, ·)

/-- A field of a joined entity as an object. -/
def FieldRef.toJson (f : FieldRef) : Json :=
  .obj (present [("entity", f.entity.map .str), ("field", some (.str f.field))])

/-- The word for a join kind. -/
def JoinKind.word : JoinKind → String
  | .inner => "inner"
  | .left => "left"
  | .right => "right"

/-- The word for a direction. -/
def Direction.word : Direction → String
  | .ascending => "asc"
  | .descending => "desc"

/-- A comparison with a given right side: the bare value for equality with a scalar, else an
object of the operator. -/
def comparisonPart (op : Comparison) (right : Expr) (encoded : Json) : Json :=
  match op, right with
  | .eq, .lit v => if v.isArr || v.isObj then single op.key encoded else encoded
  | _, _ => single op.key encoded

/-- The arguments of a function before its comparison; alone, the comparison stands bare. -/
def withArguments (args : List Json) (part : Json) : Json :=
  if args.isEmpty then part else .arr (args ++ [part])

/-- A flag that is written only when set. -/
def flag (b : Bool) : Option Json := if b then some (.bool true) else none

/-- A list that is written only when not empty. -/
def nonEmpty (items : List Json) : Option Json := if items.isEmpty then none else some (.arr items)

/-- A field under its label, if it has one. -/
def labelled (label : Option String) (v : Json) : Json :=
  match label with
  | none => v
  | some name => single name v

mutual

/-- The object form of an expression; a constant stands for itself. -/
def Expr.toJson (e : Expr) : Json :=
  match e with
  | .lit v => v
  | .member path => single "$name" (.str path)
  | .logical op operands => single op.key (.arr (encodeExprs operands))
  | .not e => single "$not" e.toJson
  | .arith l op r => single op.key (.arr [l.toJson, r.toJson])
  | .call name args => single ("$" ++ name) (.arr (encodeExprs args))
  | .subquery q => q.toJson
  | .compare (.member path) op r => single path (comparisonPart op r r.toJson)
  | .compare (.call name (.member path :: args)) op r =>
    single path (single ("$" ++ name)
      (withArguments (encodeExprs args) (comparisonPart op r r.toJson)))
  | .compare (.arith (.member path) a operand) op r =>
    single path (single a.key
      (withArguments [operand.toJson] (comparisonPart op r r.toJson)))
  | .compare l op r => single op.key (.arr [l.toJson, r.toJson])
termination_by sizeOf e

/-- The object forms of a list of expressions. -/
def encodeExprs (es : List Expr) : List Json :=
  match es with
  | [] => []
  | e :: es => e.toJson :: encodeExprs es
termination_by sizeOf es

/-- An optional expression. -/
def encodeExpr? (e? : Option Expr) : Option Json :=
  match e? with
  | none => none
  | some e => some e.toJson
termination_by sizeOf e?

/-- Fields, each under its label. -/
def encodeFields (fs : List Field) : List Json :=
  match fs with
  | [] => []
  | f :: fs => labelled f.label f.expr.toJson :: encodeFields fs
termination_by sizeOf fs
decreasing_by
  · have := f.sizeOf_expr_lt; simp only [List.cons.sizeOf_spec]; omega
  · simp only [List.cons.sizeOf_spec]; omega

/-- A selection. -/
def encodeSelection? (fs? : Option (List Field)) : Option Json :=
  match fs? with
  | none => none
  | some fs => some (.arr (encodeFields fs))
termination_by sizeOf fs?

/-- An ordering. -/
def encodeOrders (os : List Order) : List Json :=
  match os with
  | [] => []
  | o :: os =>
    .obj [("field", o.expr.toJson), ("direction", .str o.direction.word)] :: encodeOrders os
termination_by sizeOf os
decreasing_by
  · have := o.sizeOf_expr_lt; simp only [List.cons.sizeOf_spec]; omega
  · simp only [List.cons.sizeOf_spec]; omega

/-- A join target. -/
def Target.toJson (t : Target) : Json :=
  match t with
  | .entity name => single "entity" (.str name)
  | .query q => single "query" q.toJson
termination_by sizeOf t

/-- A join condition. -/
def encodeCondition? (c? : Option Condition) : Option Json :=
  match c? with
  | none => none
  | some (.fields l r) => some (single "fields" (.obj
      [("left", .arr (l.map FieldRef.toJson)), ("right", .arr (r.map FieldRef.toJson))]))
  | some (.predicate e) => some (single "predicate" e.toJson)
termination_by sizeOf c?

/-- Joins. -/
def encodeJoins (js : List Join) : List Json :=
  match js with
  | [] => []
  | j :: js =>
    .obj (present [("target", some j.target.toJson), ("alias", j.label.map .str),
      ("kind", some (.str j.kind.word)), ("on", encodeCondition? j.condition)]) :: encodeJoins js
termination_by sizeOf js
decreasing_by
  · have := j.sizeOf_target_lt; simp only [List.cons.sizeOf_spec]; omega
  · have := j.sizeOf_condition_lt; simp only [List.cons.sizeOf_spec]; omega
  · simp only [List.cons.sizeOf_spec]; omega

/-- The object form of a query: its clauses in a fixed order, those that are set. -/
def Query.toJson (q : Query) : Json :=
  .obj (present
    [("$collection", q.collection.map .str),
     ("$alias", q.label.map .str),
     ("$select", encodeSelection? q.select),
     ("$insert", q.insert.map .obj),
     ("$update", q.update.map .obj),
     ("$delete", flag q.delete),
     ("$where", encodeExpr? q.filter),
     ("$prepared", encodeExpr? q.prepared),
     ("$order", nonEmpty (encodeOrders q.order)),
     ("$group", nonEmpty (encodeFields q.group)),
     ("$expand", nonEmpty (encodeJoins q.joins)),
     ("$skip", q.skip.map fun n => .int n.toNat),
     ("$take", q.take.map fun n => .int n.toNat),
     ("$distinct", flag q.distinct),
     ("$fixed", flag q.fixed)])
termination_by sizeOf q
decreasing_by
  · exact q.sizeOf_select_lt
  · exact q.sizeOf_filter_lt
  · exact q.sizeOf_prepared_lt
  · exact q.sizeOf_order_lt
  · exact q.sizeOf_group_lt
  · exact q.sizeOf_joins_lt

end

/-- The object form of a field. -/
def Field.toJson (f : Field) : Json := labelled f.label f.expr.toJson

/-- The object form of an order item. -/
def Order.toJson (o : Order) : Json :=
  .obj [("field", o.expr.toJson), ("direction", .str o.direction.word)]

end Sift
