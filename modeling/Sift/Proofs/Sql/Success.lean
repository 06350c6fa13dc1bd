import Sift.Proofs.Sql.Arities
import Sift.Proofs.Sql.Plain
import Sift.Proofs.Sql.Selects
import Sift.Sql.Statement

/-!
# What writing needs

Every step of writing succeeds exactly if the steps for its parts do: nothing that fails is passed
over, and a part that is written is never the cause of a fault. What is asked beyond that is said
step by step: the arguments of calls, the labels and fields of joins, the kind of a nested query,
entities and values.

* `Writer.succeeds_constant`: a constant without an object is always written.
* `Writer.succeeds_render`, `Writer.succeeds_compare`, `Writer.succeeds_arith`: expressions.
* `Join.Good`, `Writer.WritesJoin`: joins; `Writer.succeeds_select`: all clauses of a select.
* `Formatter.succeeds_insert`, `succeeds_update`, `succeeds_delete`: the other statements.
* `Formatter.expr_call`: a call of a built-in function.
-/

namespace Sift

open Text Sql

/-- A join that can be written: a nested select has a label, and fields come in pairs. -/
structure Join.Good (j : Join) : Prop where
  label (h : j.target.query?.isSome) : j.label.isSome
  fields (left right : List FieldRef) (h : j.condition = some (.fields left right)) :
    left.length = right.length ∧ left ≠ []

namespace Query

variable {q : Query}

theorem select_mem_kinds_iff : Kind.select ∈ q.kinds ↔ q.select.isSome := by
  simp [kinds]

theorem insert_mem_kinds_iff : Kind.insert ∈ q.kinds ↔ q.insert.isSome := by
  simp [kinds]

theorem update_mem_kinds_iff : Kind.update ∈ q.kinds ↔ q.update.isSome := by
  simp [kinds]

theorem delete_mem_kinds_iff : Kind.delete ∈ q.kinds ↔ q.delete := by
  simp [kinds]

/-- A query is of a kind if it is of no other. -/
theorem kind_eq_ok_iff {kind : Kind} : q.kind = .ok kind ↔ q.kinds = [kind] := by
  unfold Query.kind
  split
  · next k hk => simp [hk]
  · next hk => simp [hk]
  · next many _ =>
    simp only [reduceCtorEq, false_iff]
    exact many kind

/-- A query with no single kind is of none. -/
theorem kinds_ne_of_error {e : Error} (h : q.kind = .error e) (kind : Kind) :
    q.kinds ≠ [kind] := by
  intro only
  rw [kind_eq_ok_iff.2 only] at h
  cases h

/-- A statement is about an entity if the query has a collection. -/
theorem succeeds_entity_iff : Succeeds q.entity ↔ q.collection.isSome := by
  unfold entity
  cases q.collection <;> simp

end Query

end Sift

namespace Sift.Sql

open Text

namespace Writer

variable {w : Writer}

/-! ### Constants -/

mutual

/-- Without an object in it, every constant is written. -/
theorem succeeds_constant (v : Json) (h : v.hasObject = false) : Succeeds (w.constant v) := by
  cases v with
  | null => rw [constant]; exact succeeds_ok _
  | bool b => cases b <;> rw [constant] <;> exact succeeds_ok _
  | int n => rw [constant]; exact succeeds_ok _
  | float x => rw [constant]; exact succeeds_ok _
  | str s => rw [constant]; exact succeeds_ok _
  | arr items =>
    rw [constant]
    exact succeeds_bind_ok.2 (succeeds_constants items h)
  | obj fields => cases h

theorem succeeds_constants (items : List Json) (h : Json.anyObject items = false) :
    Succeeds (w.constants items) := by
  cases items with
  | nil => rw [constants]; exact succeeds_ok _
  | cons v items =>
    rw [Json.anyObject, Bool.or_eq_false_iff] at h
    rw [constants]
    exact (succeeds_bind_iff fun _ => succeeds_bind_ok).2
      ⟨succeeds_constant v h.1, succeeds_constants items h.2⟩

end

theorem succeeds_constantSet {items : List Json} (h : Json.anyObject items = false) :
    Succeeds (w.constantSet items) := by
  unfold constantSet
  split
  · exact succeeds_ok _
  · exact succeeds_bind_ok.2 (succeeds_constants items h)

/-- No object in any item is no object in the list. -/
theorem anyObject_eq_false {items : List Json} (h : ∀ v ∈ items, v.hasObject = false) :
    Json.anyObject items = false := by
  induction items with
  | nil => rfl
  | cons v items ih =>
    rw [List.forall_mem_cons] at h
    rw [Json.anyObject, h.1, ih h.2]
    rfl

/-! ### Expressions -/

/-- The constants of an operand without objects are written, whatever form the function asks for. -/
theorem sound_operand {e : Expr} (h : (Node.expr e).Objectless) :
    Operand.Sound ⟨e, w.expr e⟩ := by
  intro v hv
  dsimp only at hv
  subst hv
  rw [expr]
  exact succeeds_constant v (h v (by simp [Node.constants, Expr.literal?]))

/-- A call by name needs a known function, one of its numbers of arguments, and each of these
written. -/
theorem succeeds_render (hw : w.functions = .standard) {n : String} {es : List Expr}
    (objectless : ∀ e ∈ es, (Node.expr e).Objectless) :
    Succeeds (w.functions.render n (es.map fun e => ⟨e, w.expr e⟩)) ↔
      (∃ arity, FunctionTable.arities.lookup (asciiLower n) = some arity ∧
        arity.Admits es.length) ∧ ∀ e ∈ es, Succeeds (w.expr e) := by
  have sound : ∀ a ∈ es.map fun e => (⟨e, w.expr e⟩ : Operand), a.Sound :=
    List.forall_mem_map.2 fun e he => sound_operand (objectless e he)
  rw [hw, FunctionTable.succeeds_render_standard sound, List.length_map, List.forall_mem_map]

theorem lookup_arities_arith (op : Arith) :
    FunctionTable.arities.lookup (asciiLower op.name) = some (.exactly 2) := by
  cases op <;> decide

/-- Operations are functions of two arguments that are always known. -/
theorem succeeds_arith (hw : w.functions = .standard) {l : Expr} {op : Arith} {r : Expr}
    (left : (Node.expr l).Objectless) (right : (Node.expr r).Objectless) :
    Succeeds (w.expr (.arith l op r)) ↔ Succeeds (w.expr l) ∧ Succeeds (w.expr r) := by
  have sides : ∀ e ∈ [l, r], (Node.expr e).Objectless :=
    List.forall_mem_cons.2 ⟨left, List.forall_mem_singleton.2 right⟩
  have render := succeeds_render hw sides (n := op.name)
  rw [lookup_arities_arith] at render
  rw [expr]
  refine render.trans ?_
  simp [Arity.Admits]

/-- Leaving out empty texts passes over no fault. -/
theorem succeeds_nonEmptyTexts {es : List Expr} :
    Succeeds (w.nonEmptyTexts es) ↔ ∀ e ∈ es, Succeeds (w.expr e) := by
  induction es with
  | nil => rw [nonEmptyTexts]; simp
  | cons e es ih =>
    rw [nonEmptyTexts, List.forall_mem_cons, ← ih]
    exact succeeds_bind_iff fun _ => succeeds_bind_ok

/-- The contents of a set are written exactly if they are as an expression. -/
theorem succeeds_set {e : Expr} (h : (Node.expr e).Objectless) :
    Succeeds (w.set e) ↔ Succeeds (w.expr e) := by
  rw [set.eq_def]
  -- the items of a list and a nested query stand in the brackets of the set, without their own
  split
  · next items =>
    have plain : (Json.arr items).hasObject = false :=
      h _ (by simp [Node.constants, Expr.literal?])
    have whole : Succeeds (w.expr (.lit (.arr items))) := by
      rw [expr]
      exact succeeds_constant _ plain
    exact ⟨fun _ => whole, fun _ => succeeds_constantSet plain⟩
  · rw [expr]
    exact succeeds_bind_ok.symm
  · exact Iff.rfl

/-- **A comparison** is written exactly if both sides are, in whatever form. -/
theorem succeeds_compare {l : Expr} {op : Comparison} {r : Expr}
    (h : (Node.expr r).Objectless) :
    Succeeds (w.expr (.compare l op r)) ↔ Succeeds (w.expr l) ∧ Succeeds (w.expr r) := by
  rw [expr]
  refine succeeds_bind_iff fun _ => ?_
  dsimp only
  split
  · next form =>
    -- nothing is written of the null that is tested for
    have null : r = .lit .null := by
      unfold comparisonForm at form
      split at form <;> first | rfl | cases form
    rw [null, expr, constant]
    simp
  · exact succeeds_bind_ok.trans (succeeds_set h)
  · exact succeeds_bind_ok

/-! ### Clauses -/

/-- Selected fields fail only by their expressions. -/
theorem succeeds_fields {qualifier : String} {fs : List Field} :
    Succeeds (w.fields qualifier fs) ↔ ∀ f ∈ fs, Succeeds (w.expr f.expr) := by
  induction fs with
  | nil => rw [fields]; simp
  | cons f fs ih =>
    rw [fields, List.forall_mem_cons, ← ih]
    cases ho : ownMember? f.expr with
    | none => exact succeeds_bind_iff fun _ => succeeds_bind_ok
    | some path =>
      -- such a member is written with a qualifier; as an expression it would be written too
      rw [eq_member_of_ownMember? ho, expr]
      simp only [pure_eq_ok, ok_bind, succeeds_ok, true_and]
      exact succeeds_bind_ok

theorem succeeds_groups {fs : List Field} :
    Succeeds (w.groups fs) ↔ ∀ f ∈ fs, Succeeds (w.expr f.expr) := by
  induction fs with
  | nil => rw [groups]; simp
  | cons f fs ih =>
    rw [groups, List.forall_mem_cons, ← ih]
    exact succeeds_bind_iff fun _ => succeeds_bind_ok

/-- So do orderings. -/
theorem succeeds_orders {os : List Order} :
    Succeeds (w.orders os) ↔ ∀ o ∈ os, Succeeds (w.expr o.expr) := by
  induction os with
  | nil => rw [orders]; simp
  | cons o os ih =>
    rw [orders, List.forall_mem_cons, ← ih]
    exact succeeds_bind_iff fun _ => succeeds_bind_ok

/-- A join that is written: it is good, and so are the select and the predicate in it. -/
structure WritesJoin (w : Writer) (j : Join) : Prop where
  good : j.Good
  target (q : Query) (h : j.target.query? = some q) : Succeeds (w.subselect q)
  predicate (e : Expr) (h : j.condition.bind Condition.predicate? = some e) : Succeeds (w.expr e)

/-- A nested query needs a label, and has to be written itself. -/
theorem succeeds_target {label : Option String} {t : Target} :
    Succeeds (w.target label t) ↔ (t.query?.isSome → label.isSome) ∧
      ∀ q, t.query? = some q → Succeeds (w.subselect q) := by
  cases t with
  | entity name => rw [target]; simp [Target.query?]
  | query q =>
    cases label with
    | none => rw [target]; simp [Target.query?]
    | some label =>
      rw [target]
      simp only [Target.query?, Option.isSome_some, imp_self, Option.some.injEq, true_and,
        forall_eq']
      exact succeeds_bind_ok

/-- Pairs of columns must be as many on both sides, and some; a predicate must be written. -/
theorem succeeds_condition {qualifier joined : String} {c? : Option Condition} :
    Succeeds (w.condition qualifier joined c?) ↔
      (∀ left right, c? = some (.fields left right) → left.length = right.length ∧ left ≠ []) ∧
      ∀ e, c?.bind Condition.predicate? = some e → Succeeds (w.expr e) := by
  rcases c? with - | ⟨left, right⟩ | e
  · rw [condition]; simp
  · rw [condition]
    -- pairs are refused if the sides differ in number or there are none
    split
    · next h =>
      simp only [not_succeeds_error, false_iff, not_and]
      intro paired
      obtain ⟨same, given⟩ := paired left right rfl
      exact absurd h (by simp [same, given])
    · next h =>
      rw [not_or, not_not, List.isEmpty_iff] at h
      simp [h.1, h.2, Condition.predicate?]
  · rw [condition]
    simp only [Option.some.injEq, reduceCtorEq, false_implies, implies_true, true_and,
      Option.bind_some, Condition.predicate?, forall_eq']
    exact succeeds_bind_ok

/-- Joins are written one by one. -/
theorem succeeds_joins {qualifier : String} {js : List Join} :
    Succeeds (w.joins qualifier js) ↔ ∀ j ∈ js, w.WritesJoin j := by
  induction js with
  | nil => rw [joins]; simp
  | cons j js ih =>
    have first : w.WritesJoin j ↔ Succeeds (w.target j.label j.target) ∧
        Succeeds (w.condition qualifier "" j.condition) := by
      rw [succeeds_target, succeeds_condition]
      exact ⟨fun h => ⟨⟨h.good.label, h.target⟩, h.good.fields, h.predicate⟩,
        fun h => ⟨⟨h.1.1, h.2.1⟩, h.1.2, h.2.2⟩⟩
    rw [joins, List.forall_mem_cons, ← ih, first, and_assoc]
    refine succeeds_bind_iff fun written => ?_
    obtain ⟨text, name⟩ := written
    -- whether a condition is written does not depend on the names around it
    have named : Succeeds (w.condition qualifier "" j.condition) ↔
        Succeeds (w.condition qualifier (j.label.getD name) j.condition) := by
      rw [succeeds_condition, succeeds_condition]
    rw [named]
    exact succeeds_bind_iff fun _ => succeeds_bind_ok

/-- The condition of a query fails only by its predicate. -/
theorem succeeds_filter {q : Query} :
    Succeeds (w.filter q) ↔ ∀ e, q.predicate? = some e → Succeeds (w.expr e) := by
  cases hp : q.predicate? with
  | none => rw [filter_of_predicate?_none hp]; simp
  | some e => rw [filter_of_predicate? hp]; simp

/-! ### Selects -/

/-- **A select statement** is written exactly if all its clauses are. -/
theorem succeeds_select {q : Query} (h : q.select.isSome) :
    Succeeds (w.select q) ↔ q.collection.isSome ∧ (∀ f ∈ q.fields, Succeeds (w.expr f.expr)) ∧
      (∀ j ∈ q.joins, w.WritesJoin j) ∧ Succeeds (w.filter q) ∧
      ∀ o ∈ q.order, Succeeds (w.expr o.expr) := by
  obtain ⟨selection, hs⟩ := Option.isSome_iff_exists.1 h
  have fields : (∀ f ∈ q.fields, Succeeds (w.expr f.expr)) ↔
      (∀ f ∈ selection, Succeeds (w.expr f.expr)) ∧ ∀ f ∈ q.group, Succeeds (w.expr f.expr) := by
    rw [Query.fields, hs, List.forall_mem_append]
    rfl
  have steps : Succeeds (w.select q) ↔ Succeeds q.entity ∧
      (∀ f ∈ selection, Succeeds (w.expr f.expr)) ∧ (∀ j ∈ q.joins, w.WritesJoin j) ∧
      Succeeds (w.filter q) ∧ (∀ f ∈ q.group, Succeeds (w.expr f.expr)) ∧
      ∀ o ∈ q.order, Succeeds (w.expr o.expr) := by
    -- the steps after the entity depend on its name, but not whether they succeed
    have columns (qualifier : String) : (∀ f ∈ selection, Succeeds (w.expr f.expr)) ↔
        Succeeds (w.fields qualifier selection) := succeeds_fields.symm
    have joined (qualifier : String) : (∀ j ∈ q.joins, w.WritesJoin j) ↔
        Succeeds (w.joins qualifier q.joins) := succeeds_joins.symm
    have grouped : (∀ f ∈ q.group, Succeeds (w.expr f.expr)) ↔ Succeeds (w.groups q.group) :=
      succeeds_groups.symm
    rw [select_of_some hs, grouped, ← succeeds_orders]
    refine succeeds_bind_iff fun entity => ?_
    rw [columns (q.label.getD entity), joined (q.label.getD entity)]
    exact succeeds_bind_iff fun _ => succeeds_bind_iff fun _ => succeeds_bind_iff fun _ =>
      succeeds_bind_iff fun _ => succeeds_bind_ok
  rw [steps, fields, Query.succeeds_entity_iff]
  tauto

/-- A nested query has to be a select. -/
theorem succeeds_subselect {q : Query} :
    Succeeds (w.subselect q) ↔ q.kinds = [.select] ∧ Succeeds (w.select q) := by
  rw [subselect]
  cases hk : q.kind with
  | error e =>
    simp [Query.kinds_ne_of_error hk]
  | ok kind =>
    rw [Query.kind_eq_ok_iff.1 hk]
    cases kind with
    | select =>
      simp only [ok_bind, true_and]
      split
      · rw [limitSelect]
        exact succeeds_bind_ok
      · exact Iff.rfl
    | _ => simp

end Writer

/-! ### Statements -/

namespace Formatter

variable {q : Query}

theorem succeeds_whereClause {f : Formatter} :
    Succeeds (f.whereClause q) ↔ Succeeds (f.writer.filter q) := succeeds_bind_ok

/-- Columns with values that have texts: there have to be some, and then the rest of the
statement is written. -/
theorem succeeds_values {f : Formatter} {kind : Kind} {values : List (String × Json)}
    (objectless : ∀ v ∈ values.map Prod.snd, v.hasObject = false)
    {next : List (String × Json) → List String → Except Error String} {p : Prop}
    (h : ∀ given texts, Succeeds (next given texts) ↔ p) :
    Succeeds (do
      let given ← someValues kind values
      let texts ← f.writer.constants (given.map Prod.snd)
      next given texts) ↔ values ≠ [] ∧ p := by
  cases values with
  | nil => simp [someValues]
  | cons column values =>
    have given : someValues kind (column :: values) = .ok (column :: values) := rfl
    obtain ⟨texts, ht⟩ : Succeeds (f.writer.constants ((column :: values).map Prod.snd)) :=
      Writer.succeeds_constants _ (Writer.anyObject_eq_false objectless)
    rw [given, ok_bind, ht, ok_bind, h]
    simp

/-- **An insert statement** is written exactly if it has an entity and values. -/
theorem succeeds_insert {f : Formatter} {values : List (String × Json)}
    (h : q.insert = some values)
    (objectless : ∀ v ∈ values.map Prod.snd, v.hasObject = false) :
    Succeeds (f.insert q) ↔ q.collection.isSome ∧ values ≠ [] := by
  rw [insert, h, ← Query.succeeds_entity_iff, ← and_true (values ≠ [])]
  exact succeeds_bind_iff fun _ => succeeds_values objectless fun _ _ =>
    iff_of_true (succeeds_ok _) trivial

/-- **An update statement** also needs its condition. -/
theorem succeeds_update {f : Formatter} {values : List (String × Json)}
    (h : q.update = some values)
    (objectless : ∀ v ∈ values.map Prod.snd, v.hasObject = false) :
    Succeeds (f.update q) ↔
      q.collection.isSome ∧ values ≠ [] ∧ Succeeds (f.writer.filter q) := by
  rw [update, h, ← Query.succeeds_entity_iff, ← succeeds_whereClause]
  exact succeeds_bind_iff fun _ => succeeds_values objectless fun _ _ => succeeds_bind_ok

/-- **A delete statement** needs an entity and its condition. -/
theorem succeeds_delete {f : Formatter} (h : q.delete = true) :
    Succeeds (f.delete q) ↔ q.collection.isSome ∧ Succeeds (f.writer.filter q) := by
  rw [delete, if_pos h, ← Query.succeeds_entity_iff, ← succeeds_whereClause]
  exact succeeds_bind_iff fun _ => succeeds_bind_ok

/-- A select statement is written exactly if it is as a nested one. -/
theorem succeeds_statement_select {f : Formatter} (h : q.kind = .ok .select) :
    Succeeds (f.statement q) ↔ Succeeds (f.writer.subselect q) := by
  rw [statement, Writer.subselect, h]
  exact Iff.rfl

/-! ### Texts of expressions -/

variable (settings : Settings)

/-- **A call of a built-in function** is made from its arguments and their texts. -/
theorem expr_call (name : String) (args : List Expr) :
    (ofSettings settings).expr (.call name args) =
      FunctionTable.standard.render name
        (args.map fun e => ⟨e, (ofSettings settings).expr e⟩) := by
  rw [expr, Writer.expr, Writer.operands_eq_map]
  rfl

theorem expr_member (m : String) :
    (ofSettings settings).expr (.member m) = .ok ((ofSettings settings).name m) := by
  rw [expr, Writer.expr]
  rfl

theorem expr_lit (v : Json) :
    (ofSettings settings).expr (.lit v) = (ofSettings settings).constant v := by
  rw [expr, Writer.expr]
  rfl

end Formatter

end Sift.Sql
