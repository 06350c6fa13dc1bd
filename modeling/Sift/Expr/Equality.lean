import Sift.Expr.Basic

/-!
# Equality of expressions and queries

Equality of trees, part by part. The constants inside are compared as JSON values, so the order of
keys in them does not count and a float differs from an integer.

* `Expr.same`, `Query.same`: the two equalities.
-/

namespace Sift

mutual

/-- Equality of expressions. -/
def Expr.same (d e : Expr) : Bool :=
  match d, e with
  | .lit v, .lit w => v.same w
  | .member p, .member q => p == q
  | .logical o ds, .logical o' es => o == o' && sameExprs ds es
  | .compare l o r, .compare l' o' r' => l.same l' && o == o' && r.same r'
  | .arith l o r, .arith l' o' r' => l.same l' && o == o' && r.same r'
  | .call n ds, .call n' es => n == n' && sameExprs ds es
  | .not d, .not e => d.same e
  | .subquery p, .subquery q => p.same q
  | _, _ => false
termination_by sizeOf d

/-- Equality of lists of expressions. -/
def sameExprs (ds es : List Expr) : Bool :=
  match ds, es with
  | [], [] => true
  | d :: ds, e :: es => d.same e && sameExprs ds es
  | _, _ => false
termination_by sizeOf ds

/-- Equality of optional expressions. -/
def sameExpr? (d? e? : Option Expr) : Bool :=
  match d?, e? with
  | none, none => true
  | some d, some e => d.same e
  | _, _ => false
termination_by sizeOf d?

/-- Equality of lists of fields, labels included. -/
def sameFields (fs gs : List Field) : Bool :=
  match fs, gs with
  | [], [] => true
  | f :: fs, g :: gs =>
    f.expr.same g.expr && f.label == g.label && sameFields fs gs
  | _, _ => false
termination_by sizeOf fs
decreasing_by
  · have := f.sizeOf_expr_lt; simp only [List.cons.sizeOf_spec]; omega
  · simp only [List.cons.sizeOf_spec]; omega

/-- Equality of selections. -/
def sameFields? (fs? gs? : Option (List Field)) : Bool :=
  match fs?, gs? with
  | none, none => true
  | some fs, some gs => sameFields fs gs
  | _, _ => false
termination_by sizeOf fs?

/-- Equality of orderings. -/
def sameOrders (os ps : List Order) : Bool :=
  match os, ps with
  | [], [] => true
  | o :: os, p :: ps => o.expr.same p.expr && o.direction == p.direction && sameOrders os ps
  | _, _ => false
termination_by sizeOf os
decreasing_by
  · have := o.sizeOf_expr_lt; simp only [List.cons.sizeOf_spec]; omega
  · simp only [List.cons.sizeOf_spec]; omega

/-- Equality of join targets. -/
def Target.same (s t : Target) : Bool :=
  match s, t with
  | .entity a, .entity b => a == b
  | .query p, .query q => p.same q
  | _, _ => false
termination_by sizeOf s

/-- Equality of optional join conditions. -/
def sameCondition? (c? d? : Option Condition) : Bool :=
  match c?, d? with
  | none, none => true
  | some (.fields l r), some (.fields l' r') => l == l' && r == r'
  | some (.predicate d), some (.predicate e) => d.same e
  | _, _ => false
termination_by sizeOf c?

/-- Equality of lists of joins. -/
def sameJoins (js ks : List Join) : Bool :=
  match js, ks with
  | [], [] => true
  | j :: js, k :: ks =>
    j.target.same k.target && j.label == k.label && j.kind == k.kind &&
      sameCondition? j.condition k.condition && sameJoins js ks
  | _, _ => false
termination_by sizeOf js
decreasing_by
  · have := j.sizeOf_target_lt; simp only [List.cons.sizeOf_spec]; omega
  · have := j.sizeOf_condition_lt; simp only [List.cons.sizeOf_spec]; omega
  · simp only [List.cons.sizeOf_spec]; omega

/-- Equality of queries. -/
def Query.same (p q : Query) : Bool :=
  let values (v? w? : Option (List (String × Json))) : Bool :=
    match v?, w? with
    | none, none => true
    | some v, some w => (Json.obj v).same (.obj w)
    | _, _ => false
  p.collection == q.collection && p.label == q.label && sameFields? p.select q.select &&
    values p.insert q.insert && values p.update q.update && p.delete == q.delete &&
    sameExpr? p.filter q.filter && sameExpr? p.prepared q.prepared &&
    sameOrders p.order q.order && sameFields p.group q.group && sameJoins p.joins q.joins &&
    p.skip == q.skip && p.take == q.take && p.distinct == q.distinct && p.fixed == q.fixed
termination_by sizeOf p
decreasing_by
  · exact p.sizeOf_select_lt
  · exact p.sizeOf_filter_lt
  · exact p.sizeOf_prepared_lt
  · exact p.sizeOf_order_lt
  · exact p.sizeOf_group_lt
  · exact p.sizeOf_joins_lt

end

end Sift
