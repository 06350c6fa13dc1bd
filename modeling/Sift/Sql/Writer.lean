import Sift.Expr.Fold
import Sift.Query.Kind
import Sift.Settings
import Sift.Sql.Function
import Sift.Sql.Name

/-!
# Expressions and selects in SQL

A walk over the tree that writes it. How an object constant is written is left to a parameter, since
it is itself the form of an expression.

* `Writer.constant`: the text of a constant.
* `Writer.expr`: the text of an expression, as a value or a predicate alike.
* `Writer.select`, `Writer.subselect`: the texts of select statements.
-/

namespace Sift

/-- The conjunction of a list of expressions is hardly larger than its parts. -/
theorem sizeOf_append_exprs (ds es : List Expr) :
    sizeOf (ds ++ es) + 1 = sizeOf ds + sizeOf es := by
  induction ds with
  | nil => simp; omega
  | cons d ds ih => simp; omega

/-- The operands that a connective takes over from an expression are hardly larger than it. -/
theorem Expr.sizeOf_operandsOf_le (op : Connective) (e : Expr) :
    sizeOf (operandsOf op e) ≤ 2 + sizeOf e := by
  unfold operandsOf
  split
  · split <;> simp only [List.cons.sizeOf_spec, List.nil.sizeOf_spec, logical.sizeOf_spec] <;> omega
  · simp only [List.cons.sizeOf_spec, List.nil.sizeOf_spec]; omega

/-- A connective is hardly larger than its two sides together. -/
theorem Expr.sizeOf_connect_le (op : Connective) (d e : Expr) :
    sizeOf (connect op d e) ≤ 5 + sizeOf d + sizeOf e := by
  unfold connect
  split
  · have size_bool (b : Bool) : sizeOf b = 1 := by cases b <;> rfl
    simp only [lit.sizeOf_spec, Json.bool.sizeOf_spec, size_bool]
    omega
  · have h := sizeOf_append_exprs (operandsOf op d) (operandsOf op e)
    have h₁ := sizeOf_operandsOf_le op d
    have h₂ := sizeOf_operandsOf_le op e
    have size_op : sizeOf op = 1 := by cases op <;> rfl
    simp only [logical.sizeOf_spec, size_op]
    omega

/-- The predicate of a query: what it filters by, and what was put aside. -/
def Query.predicate? (q : Query) : Option Expr := Expr.all (q.filter.toList ++ q.prepared.toList)

theorem one_le_sizeOf_option {α : Type} [SizeOf α] (o : Option α) : 1 ≤ sizeOf o := by
  cases o <;> simp

/-- The other clauses of a query leave room for the connective around its two predicates. -/
theorem Query.sizeOf_predicates_le (q : Query) :
    sizeOf q.filter + sizeOf q.prepared + 5 ≤ sizeOf q := by
  have collection := one_le_sizeOf_option q.collection
  have label := one_le_sizeOf_option q.label
  have select := one_le_sizeOf_option q.select
  have insert := one_le_sizeOf_option q.insert
  have update := one_le_sizeOf_option q.update
  cases q
  simp only [Query.mk.sizeOf_spec] at *
  omega

/-- The predicate that is written for a query is smaller than the query, although it is put together
only then. -/
theorem Query.sizeOf_lt_of_predicate? {q : Query} {e : Expr} (h : q.predicate? = some e) :
    sizeOf e < sizeOf q := by
  have room := q.sizeOf_predicates_le
  unfold predicate? at h
  cases hf : q.filter <;> cases hp : q.prepared <;> rw [hf, hp] at h room <;>
    simp [Expr.all, Expr.joined] at h room
  · subst h; omega
  · subst h; omega
  · next a b =>
    have together := Expr.sizeOf_connect_le .and a b
    rw [← h]
    omega

/-- What is selected is smaller than the query. -/
theorem Query.sizeOf_lt_of_select {q : Query} {fs : List Field} (h : q.select = some fs) :
    sizeOf fs < sizeOf q := by
  have := q.sizeOf_select_lt
  rw [h, Option.some.sizeOf_spec] at this
  omega

end Sift

namespace Sift.Sql

open Text Number

/-- What a walk needs: the settings, the functions, and how object constants are written. -/
structure Writer where
  settings : Settings
  functions : FunctionTable
  objects : List (String × Json) → Except Error String

namespace Writer

variable (w : Writer)

/-- A name under the identifier template. -/
def name (s : String) : String := quoteName w.settings.nameFormat s

/-- A label behind what it labels. -/
def labelled (label : String) : String :=
  (if w.settings.useAliasKeyword then " AS " else " ") ++ w.name label

/-- An optional label. -/
def labelled? : Option String → String
  | some label => w.labelled label
  | none => ""

mutual

/-- The text of a constant; the items of an array are separated by commas. -/
def constant : Json → Except Error String
  | .null => .ok "NULL"
  | .bool true => .ok "true"
  | .bool false => .ok "false"
  | .int n => .ok (intText n)
  | .float x => .ok (Json.numberFormat.write x)
  | .str s => .ok (quoteText s)
  | .arr items => do return joinWith ", " (← constants items)
  | .obj fields => w.objects fields

/-- The texts of constants. -/
def constants : List Json → Except Error (List String)
  | [] => .ok []
  | v :: items => do
    let s ← constant v
    let rest ← constants items
    return s :: rest

end

/-- The set of an array; an empty one holds null. -/
def constantSet (items : List Json) : Except Error String :=
  if items.isEmpty then .ok "NULL" else do return joinWith ", " (← w.constants items)

/-- Texts under a connective: empty ones are left out, and one alone needs no brackets. -/
def connected (op : Connective) (texts : List String) : String :=
  match texts with
  | [] => ""
  | [s] => s
  | texts => "(" ++ joinWith op.separator texts ++ ")"

/-- A negated text; nothing negated is nothing. -/
def negated (s : String) : String := if s.isEmpty then s else "(NOT " ++ s ++ ")"

/-- The symbol of a comparison between values, and whether the comparison is negated. -/
def comparisonSymbol : Comparison → Bool × String
  | .eq => (false, "=")
  | .ne => (true, "=")
  | .lt => (false, "<")
  | .le => (false, "<=")
  | .gt => (false, ">")
  | .ge => (false, ">=")
  | .isIn => (false, "IN")
  | .notIn => (true, "IN")

/-- How a comparison is written: as a test for null, as membership, or between values. -/
inductive ComparisonForm where
  | null
  | set
  | values

/-- The form of a comparison: equality with null is a test for it, and equality with an array is
membership. -/
def comparisonForm (op : Comparison) (right : Expr) : ComparisonForm :=
  match op, right with
  | .isIn, _ => .set
  | .notIn, _ => .set
  | .eq, .lit .null => .null
  | .ne, .lit .null => .null
  | .eq, .lit (.arr _) => .set
  | .ne, .lit (.arr _) => .set
  | _, _ => .values

/-- A comparison in brackets, negated or not. -/
def bracketed (negative : Bool) (s : String) : String :=
  (if negative then "(NOT " else "(") ++ s ++ ")"

/-- A field reference, qualified by its own entity or by the side it stands on. -/
def fieldRef (side : String) (f : FieldRef) : String :=
  w.name ((f.entity.getD side) ++ "." ++ f.field)

/-- Equal fields pair by pair. -/
def fieldPairs (leftSide rightSide : String) (left right : List FieldRef) : String :=
  joinWith " AND " ((left.zip right).map fun (l, r) =>
    w.fieldRef leftSide l ++ " = " ++ w.fieldRef rightSide r)

/-- The words of a join kind. -/
def joinWords : JoinKind → String
  | .inner => "INNER JOIN"
  | .left => "LEFT JOIN"
  | .right => "RIGHT JOIN"

/-- The word of a direction. -/
def directionWord : Direction → String
  | .ascending => "ASC"
  | .descending => "DESC"

/-- A member without a qualifier, one that belongs to the entity of the query. -/
def ownMember? : Expr → Option String
  | .member path => if path.toList.contains '.' || path == "*" then none else some path
  | _ => none

/-- The label of a selected field: its own, or the last segment of a plain member where every
one gets a label. -/
def fieldLabel? (f : Field) : Option String :=
  match f.label, f.expr with
  | some label, _ => some label
  | none, .member path =>
    if w.settings.forceAlias && path != "*" then some (String.ofList (afterLast '.' path.toList))
    else none
  | none, _ => none

/-- The rows asked for. -/
def limit (q : Query) : String :=
  match q.skip, q.take with
  | some skip, some take => " LIMIT " ++ natText skip.toNat ++ ", " ++ natText take.toNat
  | none, some take => " LIMIT " ++ natText take.toNat
  | _, none => ""

/-- A clause that is left out when it has no text. -/
def clause (keyword s : String) : List String := if s.isEmpty then [] else [keyword ++ s]

mutual

/-- The text of an expression. -/
def expr (e : Expr) : Except Error String :=
  match e with
  | .lit v => w.constant v
  | .member path => .ok (w.name path)
  | .call name args => w.functions.render name (operands args)
  | .arith l op r => w.functions.render op.name [⟨l, expr l⟩, ⟨r, expr r⟩]
  | .subquery q => do return "(" ++ (← subselect q) ++ ")"
  | .logical op es => do return connected op (← nonEmptyTexts es)
  | .not e => do return negated (← expr e)
  | .compare l op r => do
    let left ← expr l
    let (negative, symbol) := comparisonSymbol op
    match comparisonForm op r with
    | .null => return bracketed negative (left ++ " IS NULL")
    | .set => do
      let right ← set r
      return bracketed negative (left ++ " IN (" ++ right ++ ")")
    | .values => do
      let right ← expr r
      return bracketed negative (left ++ " " ++ symbol ++ " " ++ right)
termination_by (sizeOf e, 0)

/-- The contents of a set: the items of an array, a select, or one expression. -/
def set (e : Expr) : Except Error String :=
  match e with
  | .lit (.arr items) => w.constantSet items
  | .subquery q => subselect q
  | e => expr e
termination_by (sizeOf e, 1)

/-- Arguments with their texts. -/
def operands (es : List Expr) : List Operand :=
  match es with
  | [] => []
  | e :: es => ⟨e, expr e⟩ :: operands es
termination_by (sizeOf es, 0)

/-- The texts of operands that are not empty. -/
def nonEmptyTexts (es : List Expr) : Except Error (List String) :=
  match es with
  | [] => .ok []
  | e :: es => do
    let s ← expr e
    let rest ← nonEmptyTexts es
    return if s.isEmpty then rest else s :: rest
termination_by (sizeOf es, 0)

/-- The predicate of a query; empty when there is none. -/
def filter (q : Query) : Except Error String :=
  match h : q.predicate? with
  | some e =>
    have := Query.sizeOf_lt_of_predicate? h
    expr e
  | none => .ok ""
termination_by (sizeOf q, 0)

/-- Selected fields. A member without a qualifier is qualified by the entity. -/
def fields (qualifier : String) (fs : List Field) : Except Error (List String) :=
  match fs with
  | [] => .ok []
  | f :: fs => do
    let s ← match ownMember? f.expr with
      | some path => pure (w.name (qualifier ++ "." ++ path))
      | none => expr f.expr
    let rest ← fields qualifier fs
    return (s ++ w.labelled? (w.fieldLabel? f)) :: rest
termination_by (sizeOf fs, 0)
decreasing_by
  all_goals
    have := f.sizeOf_expr_lt
    simp only [List.cons.sizeOf_spec]
    exact Prod.Lex.left _ _ (by omega)

/-- Grouped fields. -/
def groups (fs : List Field) : Except Error (List String) :=
  match fs with
  | [] => .ok []
  | f :: fs => do
    let s ← expr f.expr
    let rest ← groups fs
    return s :: rest
termination_by (sizeOf fs, 0)
decreasing_by
  all_goals
    have := f.sizeOf_expr_lt
    simp only [List.cons.sizeOf_spec]
    exact Prod.Lex.left _ _ (by omega)

/-- Order items. -/
def orders (os : List Order) : Except Error (List String) :=
  match os with
  | [] => .ok []
  | o :: os => do
    let s ← expr o.expr
    let rest ← orders os
    return (s ++ " " ++ directionWord o.direction) :: rest
termination_by (sizeOf os, 0)
decreasing_by
  all_goals
    have := o.sizeOf_expr_lt
    simp only [List.cons.sizeOf_spec]
    exact Prod.Lex.left _ _ (by omega)

/-- What is joined, and the name it goes by without a label. A nested select needs a label. -/
def target (label : Option String) (t : Target) : Except Error (String × String) :=
  match t with
  | .entity entity => .ok (w.name entity, entity)
  | .query q =>
    match label with
    | none => .error (.format .joinWithoutAlias)
    | some label => do return ("(" ++ (← subselect q) ++ ")", label)
termination_by (sizeOf t, 0)

/-- A join condition. -/
def condition (qualifier joined : String) (c? : Option Condition) : Except Error String :=
  match c? with
  | none => .ok ""
  | some (.fields left right) =>
    if left.length ≠ right.length ∨ left.isEmpty then
      .error (.format (.joinFields joined left.length right.length))
    else .ok (" ON " ++ w.fieldPairs qualifier joined left right)
  | some (.predicate e) => do return " ON " ++ (← expr e)
termination_by (sizeOf c?, 0)

/-- Joins. -/
def joins (qualifier : String) (js : List Join) : Except Error (List String) :=
  match js with
  | [] => .ok []
  | j :: js => do
    let (joinedText, defaultName) ← target j.label j.target
    let on ← condition qualifier (j.label.getD defaultName) j.condition
    let rest ← joins qualifier js
    return (joinWords j.kind ++ " " ++ joinedText ++ w.labelled? j.label ++ on) :: rest
termination_by (sizeOf js, 0)
decreasing_by
  all_goals
    have := j.sizeOf_target_lt
    have := j.sizeOf_condition_lt
    simp only [List.cons.sizeOf_spec]
    exact Prod.Lex.left _ _ (by omega)

/-- A select statement without its limit. -/
def select (q : Query) : Except Error String :=
  match h : q.select with
  | none => .error (.format (.notKind .select))
  | some selection => do
    have := Query.sizeOf_lt_of_select h
    let entity ← q.entity
    let qualifier := q.label.getD entity
    let columns ← fields qualifier selection
    let projection := if selection.isEmpty then "*" else joinWith ", " columns
    let joined ← joins qualifier q.joins
    let condition ← filter q
    let grouped ← groups q.group
    let ordered ← orders q.order
    let sql := joinWith " " <|
      [(if q.distinct then "SELECT DISTINCT " else "SELECT ") ++ projection,
       "FROM " ++ w.name entity ++ w.labelled? q.label] ++
      joined ++ clause "WHERE " condition ++
      (if q.group.isEmpty then [] else ["GROUP BY " ++ joinWith ", " grouped]) ++
      (if q.order.isEmpty then [] else ["ORDER BY " ++ joinWith ", " ordered])
    return if q.fixed then "SELECT * FROM (" ++ sql ++ ")" ++ w.labelled qualifier else sql
termination_by (sizeOf q, 1)
decreasing_by
  · exact Prod.Lex.left _ _ this
  · exact Prod.Lex.left _ _ q.sizeOf_joins_lt
  · exact Prod.Lex.right _ (by omega)
  · exact Prod.Lex.left _ _ q.sizeOf_group_lt
  · exact Prod.Lex.left _ _ q.sizeOf_order_lt

/-- A select statement with its limit. -/
def limitSelect (q : Query) : Except Error String := do
  return (← select q) ++ limit q
termination_by (sizeOf q, 2)

/-- A nested select; no other kind can be nested. -/
def subselect (q : Query) : Except Error String := do
  match ← q.kind with
  | .select => if q.hasPaging then limitSelect q else select q
  | _ => .error (.format .subqueryKind)
termination_by (sizeOf q, 3)

end

end Writer

end Sift.Sql
