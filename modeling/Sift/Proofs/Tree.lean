import Sift.Expr.Basic

/-!
# The parts of trees

Expressions hold queries and queries hold expressions, through lists, options and records. Here both
are nodes of one kind with a list of parts, so that a property of all trees needs one induction.

* `Node.parts`: the nodes right inside a node.
* `Node.induction`: a property that passes from the parts to the whole holds of every node.
* `Everywhere`: a property holds at a node and at every node inside it.
-/

namespace Sift

/-- A node: an expression or a query. -/
inductive Node where
  | expr (e : Expr)
  | query (q : Query)

/-- The constant that a node is, if it is one. -/
def Node.constant? : Node → Option Json
  | .expr e => e.literal?
  | .query _ => none

/-- Only a literal is a constant. -/
theorem Node.eq_lit_of_constant? {n : Node} {v : Json} (h : n.constant? = some v) :
    n = .expr (.lit v) := by
  cases n with
  | query q => cases h
  | expr e =>
    cases e <;> cases h
    rfl

/-- The expressions right inside an expression. -/
def Expr.parts : Expr → List Expr
  | .lit _ => []
  | .member _ => []
  | .logical _ es => es
  | .compare l _ r => [l, r]
  | .arith l _ r => [l, r]
  | .call _ args => args
  | .not e => [e]
  | .subquery _ => []

/-- The query that is joined, if it is one. -/
def Target.query? : Target → Option Query
  | .entity _ => none
  | .query q => some q

/-- The predicate of a condition, if it is one. -/
def Condition.predicate? : Condition → Option Expr
  | .fields _ _ => none
  | .predicate e => some e

namespace Query

/-- The fields of a query, selected and grouped ones. -/
def fields (q : Query) : List Field := q.select.getD [] ++ q.group

/-- The expressions right inside a query. -/
def exprs (q : Query) : List Expr :=
  q.fields.map Field.expr ++ q.filter.toList ++ q.prepared.toList ++ q.order.map Order.expr ++
    q.joins.filterMap fun j => j.condition.bind Condition.predicate?

/-- The queries right inside a query. -/
def targets (q : Query) : List Query := q.joins.filterMap fun j => j.target.query?

variable {q : Query}

/-- A property of the expressions right inside a query, place by place. -/
theorem forall_mem_exprs {P : Expr → Prop} :
    (∀ e ∈ q.exprs, P e) ↔ (∀ f ∈ q.fields, P f.expr) ∧ (∀ e, q.filter = some e → P e) ∧
      (∀ e, q.prepared = some e → P e) ∧ (∀ o ∈ q.order, P o.expr) ∧
      ∀ j ∈ q.joins, ∀ e, j.condition.bind Condition.predicate? = some e → P e := by
  simp only [exprs, List.forall_mem_append, List.forall_mem_map, List.forall_mem_filterMap,
    Option.mem_toList, and_assoc]

theorem forall_mem_targets {P : Query → Prop} :
    (∀ p ∈ q.targets, P p) ↔ ∀ j ∈ q.joins, ∀ p, j.target.query? = some p → P p :=
  List.forall_mem_filterMap

/-- Where an expression stands in a query tells that it is right inside it: in a field, a predicate,
an ordering or a join. -/
theorem field_mem_exprs {f : Field} (h : f ∈ q.fields) : f.expr ∈ q.exprs := by
  simp only [exprs, List.mem_append]
  exact .inl (.inl (.inl (.inl (List.mem_map_of_mem h))))

theorem filter_mem_exprs {e : Expr} (h : q.filter = some e) : e ∈ q.exprs := by
  simp [exprs, h]

theorem prepared_mem_exprs {e : Expr} (h : q.prepared = some e) : e ∈ q.exprs := by
  simp [exprs, h]

theorem order_mem_exprs {o : Order} (h : o ∈ q.order) : o.expr ∈ q.exprs := by
  simp only [exprs, List.mem_append]
  exact .inl (.inr (List.mem_map_of_mem h))

theorem predicate_mem_exprs {j : Join} {e : Expr} (h : j ∈ q.joins)
    (he : j.condition.bind Condition.predicate? = some e) : e ∈ q.exprs := by
  simp only [exprs, List.mem_append]
  exact .inr (List.mem_filterMap.2 ⟨j, h, he⟩)

theorem query_mem_targets {j : Join} {p : Query} (h : j ∈ q.joins)
    (hp : j.target.query? = some p) : p ∈ q.targets :=
  List.mem_filterMap.2 ⟨j, h, hp⟩

end Query

/-- The nodes right inside a node. -/
def Node.parts : Node → List Node
  | .expr (.subquery q) => [.query q]
  | .expr e => e.parts.map .expr
  | .query q => q.exprs.map .expr ++ q.targets.map .query

/-! ### Parts are smaller -/

/-- What is right inside an expression is smaller, so walks over parts end. -/
theorem Expr.sizeOf_lt_of_mem_parts {d e : Expr} (h : d ∈ e.parts) : sizeOf d < sizeOf e := by
  cases e <;> simp only [parts, List.mem_cons, List.not_mem_nil, or_false] at h
  case logical op es =>
    have := List.sizeOf_lt_of_mem h
    simp only [logical.sizeOf_spec]; omega
  case compare l op r =>
    rcases h with rfl | rfl <;> simp only [compare.sizeOf_spec] <;> omega
  case arith l op r =>
    rcases h with rfl | rfl <;> simp only [arith.sizeOf_spec] <;> omega
  case call name args =>
    have := List.sizeOf_lt_of_mem h
    simp only [call.sizeOf_spec]; omega
  case not e => subst h; simp only [not.sizeOf_spec]; omega

theorem sizeOf_lt_of_mem_toList {α : Type} [SizeOf α] {a : α} {o : Option α} (h : a ∈ o.toList) :
    sizeOf a < sizeOf o := by
  cases o with
  | none => simp at h
  | some b =>
    rw [Option.toList_some, List.mem_singleton] at h
    subst h; simp only [Option.some.sizeOf_spec]; omega

/-- A field of a query is smaller than the query, in whichever clause it stands. -/
theorem Query.sizeOf_lt_of_mem_fields {q : Query} {f : Field} (h : f ∈ q.fields) :
    sizeOf f < sizeOf q := by
  rcases List.mem_append.1 h with h | h
  · cases hs : q.select with
    | none => rw [hs] at h; simp at h
    | some fs =>
      rw [hs] at h
      have h₁ := List.sizeOf_lt_of_mem (show f ∈ fs from h)
      have h₂ := q.sizeOf_select_lt
      rw [hs, Option.some.sizeOf_spec] at h₂; omega
  · exact Nat.lt_trans (List.sizeOf_lt_of_mem h) q.sizeOf_group_lt

/-- An expression right inside a query is smaller, clause by clause. -/
theorem Query.sizeOf_lt_of_mem_exprs {q : Query} {e : Expr} (h : e ∈ q.exprs) :
    sizeOf e < sizeOf q := by
  simp only [exprs, List.mem_append, List.mem_map, List.mem_filterMap] at h
  rcases h with (((⟨f, hf, rfl⟩ | h) | h) | ⟨o, ho, rfl⟩) | ⟨j, hj, h⟩
  · exact Nat.lt_trans f.sizeOf_expr_lt (q.sizeOf_lt_of_mem_fields hf)
  · exact Nat.lt_trans (sizeOf_lt_of_mem_toList h) q.sizeOf_filter_lt
  · exact Nat.lt_trans (sizeOf_lt_of_mem_toList h) q.sizeOf_prepared_lt
  · exact Nat.lt_trans o.sizeOf_expr_lt (Nat.lt_trans (List.sizeOf_lt_of_mem ho) q.sizeOf_order_lt)
  · obtain ⟨c, hc, he⟩ := Option.bind_eq_some_iff.1 h
    have h₁ : sizeOf e < sizeOf c := by
      cases c <;> simp only [Condition.predicate?, Option.some.injEq, reduceCtorEq] at he
      subst he; simp only [Condition.predicate.sizeOf_spec]; omega
    have h₂ := j.sizeOf_condition_lt
    rw [hc, Option.some.sizeOf_spec] at h₂
    have h₃ := Nat.lt_trans (List.sizeOf_lt_of_mem hj) q.sizeOf_joins_lt
    omega

/-- A joined query is smaller than the query that joins it. -/
theorem Query.sizeOf_lt_of_mem_targets {p q : Query} (h : p ∈ q.targets) :
    sizeOf p < sizeOf q := by
  obtain ⟨j, hj, ht⟩ := List.mem_filterMap.1 h
  have h₁ : sizeOf p < sizeOf j.target := by
    cases hjt : j.target <;> rw [hjt] at ht <;>
      simp only [Target.query?, Option.some.injEq, reduceCtorEq] at ht
    subst ht; simp only [Target.query.sizeOf_spec]; omega
  have h₂ := j.sizeOf_target_lt
  have h₃ := Nat.lt_trans (List.sizeOf_lt_of_mem hj) q.sizeOf_joins_lt
  omega

/-- Every part of a node is smaller than the node. -/
theorem Node.sizeOf_lt_of_mem_parts {m n : Node} (h : m ∈ n.parts) : sizeOf m < sizeOf n := by
  cases n with
  | expr e =>
    cases e
    case subquery q =>
      rw [parts, List.mem_singleton] at h
      subst h
      simp only [expr.sizeOf_spec, query.sizeOf_spec, Expr.subquery.sizeOf_spec]; omega
    all_goals
      obtain ⟨d, hd, rfl⟩ := List.mem_map.1 h
      have := Expr.sizeOf_lt_of_mem_parts hd
      simp only [expr.sizeOf_spec] at *; omega
  | query q =>
    rcases List.mem_append.1 h with h | h <;> obtain ⟨d, hd, rfl⟩ := List.mem_map.1 h
    · have := Query.sizeOf_lt_of_mem_exprs hd
      simp only [expr.sizeOf_spec, query.sizeOf_spec]; omega
    · have := Query.sizeOf_lt_of_mem_targets hd
      simp only [query.sizeOf_spec]; omega

/-- **Induction over nodes**: what passes from the parts of a node to the node holds of all. -/
theorem Node.induction {P : Node → Prop} (step : ∀ n : Node, (∀ m ∈ n.parts, P m) → P n)
    (n : Node) : P n :=
  step n fun m h =>
    have := Node.sizeOf_lt_of_mem_parts h
    Node.induction step m
termination_by sizeOf n

/-- A property everywhere at and inside a node. -/
inductive Everywhere (P : Node → Prop) : Node → Prop where
  | intro {n : Node} (here : P n) (parts : ∀ m ∈ n.parts, Everywhere P m) : Everywhere P n

namespace Everywhere

variable {P : Node → Prop} {n m : Node}

/-- What holds everywhere holds at the top. -/
theorem here (h : Everywhere P n) : P n := by
  cases h with
  | intro here _ => exact here

/-- What holds everywhere holds everywhere in each part. -/
theorem part (h : Everywhere P n) (hm : m ∈ n.parts) : Everywhere P m := by
  cases h with
  | intro _ parts => exact parts m hm

/-- A weaker property holds everywhere where a stronger one does. -/
theorem mono {Q : Node → Prop} (h : Everywhere P n) (imp : ∀ m, P m → Q m) : Everywhere Q n := by
  induction h with
  | intro here _ ih => exact .intro (imp _ here) ih

/-! A property everywhere, construct by construct. -/

theorem iff_parts : Everywhere P n ↔ P n ∧ ∀ m ∈ n.parts, Everywhere P m :=
  ⟨fun h => ⟨h.here, fun _ hm => h.part hm⟩, fun h => .intro h.1 h.2⟩

@[simp] theorem lit_iff {v : Json} : Everywhere P (.expr (.lit v)) ↔ P (.expr (.lit v)) := by
  rw [iff_parts]; simp [Node.parts, Expr.parts]

@[simp] theorem member_iff {path : String} :
    Everywhere P (.expr (.member path)) ↔ P (.expr (.member path)) := by
  rw [iff_parts]; simp [Node.parts, Expr.parts]

@[simp] theorem logical_iff {op : Connective} {es : List Expr} :
    Everywhere P (.expr (.logical op es)) ↔
      P (.expr (.logical op es)) ∧ ∀ e ∈ es, Everywhere P (.expr e) := by
  rw [iff_parts]; simp [Node.parts, Expr.parts]

@[simp] theorem compare_iff {l : Expr} {op : Comparison} {r : Expr} :
    Everywhere P (.expr (.compare l op r)) ↔
      P (.expr (.compare l op r)) ∧ Everywhere P (.expr l) ∧ Everywhere P (.expr r) := by
  rw [iff_parts]; simp [Node.parts, Expr.parts]

@[simp] theorem arith_iff {l : Expr} {op : Arith} {r : Expr} :
    Everywhere P (.expr (.arith l op r)) ↔
      P (.expr (.arith l op r)) ∧ Everywhere P (.expr l) ∧ Everywhere P (.expr r) := by
  rw [iff_parts]; simp [Node.parts, Expr.parts]

@[simp] theorem call_iff {name : String} {args : List Expr} :
    Everywhere P (.expr (.call name args)) ↔
      P (.expr (.call name args)) ∧ ∀ e ∈ args, Everywhere P (.expr e) := by
  rw [iff_parts]; simp [Node.parts, Expr.parts]

@[simp] theorem not_iff {e : Expr} :
    Everywhere P (.expr (.not e)) ↔ P (.expr (.not e)) ∧ Everywhere P (.expr e) := by
  rw [iff_parts]; simp [Node.parts, Expr.parts]

@[simp] theorem subquery_iff {q : Query} :
    Everywhere P (.expr (.subquery q)) ↔ P (.expr (.subquery q)) ∧ Everywhere P (.query q) := by
  rw [iff_parts]; simp [Node.parts]

/-- A property everywhere in a query, with its expressions and the queries that it joins. -/
@[simp] theorem query_iff {q : Query} :
    Everywhere P (.query q) ↔ P (.query q) ∧ (∀ e ∈ q.exprs, Everywhere P (.expr e)) ∧
      ∀ p ∈ q.targets, Everywhere P (.query p) := by
  rw [iff_parts]; simp [Node.parts, or_imp, forall_and]

end Everywhere

end Sift
