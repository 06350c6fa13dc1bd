import Sift.Proofs.Sql.Selects
import Sift.Proofs.Steps
import Sift.Proofs.Tree

/-!
# What a written text is made of

The texts behind a text that was written, construct by construct: where writing succeeds, it
succeeded for the parts, and their texts stand in it where the construct has them.

* `Writer.TextOf`: the text of a node.
* `Writer.compare_eq_ok`, `Writer.nonEmptyTexts_eq_ok`: comparisons and connectives.
* `Writer.FieldText`, `Writer.JoinTexts`: selected fields and joins.
* `Writer.Clauses`: the clauses of a select, each with its text; `Writer.select_eq_ok`.
-/

namespace Sift.Sql

open Text

/-- The collection of a statement is the one that the query names. -/
theorem collection_of_entity {q : Query} {name : String} (h : q.entity = .ok name) :
    q.collection = some name := by
  unfold Query.entity at h
  split at h
  · next given hg => rw [hg, Except.ok.inj h]
  · cases h

namespace Writer

variable {w : Writer}

/-- The text of a node; of a query, as a nested select. -/
def TextOf (w : Writer) : Node → String → Prop
  | .expr e, s => w.expr e = .ok s
  | .query q, s => w.subselect q = .ok s

/-! ### Expressions -/

/-- Constants are written one by one, and all of them. -/
theorem constants_eq_ok {items : List Json} {ts : List String} (h : w.constants items = .ok ts) :
    List.Forall₂ (fun v t => w.constant v = .ok t) items ts := by
  induction items generalizing ts with
  | nil =>
    rw [constants] at h
    cases h
    exact .nil
  | cons v items ih =>
    rw [constants] at h
    obtain ⟨t, ht, h⟩ := bind_eq_ok.1 h
    obtain ⟨rest, hrest, h⟩ := bind_eq_ok.1 h
    cases h
    exact .cons ht (ih hrest)

/-- **Operands of a connective**: all are written, and the empty texts are left out. -/
theorem nonEmptyTexts_eq_ok {es : List Expr} {ts : List String} (h : w.nonEmptyTexts es = .ok ts) :
    ∃ ss, List.Forall₂ (fun e s => w.expr e = .ok s) es ss ∧
      ts = ss.filter fun s => !s.isEmpty := by
  induction es generalizing ts with
  | nil =>
    rw [nonEmptyTexts] at h
    cases h
    exact ⟨[], .nil, rfl⟩
  | cons e es ih =>
    rw [nonEmptyTexts] at h
    obtain ⟨s, hs, h⟩ := bind_eq_ok.1 h
    obtain ⟨rest, hrest, h⟩ := bind_eq_ok.1 h
    obtain ⟨ss, all, rfl⟩ := ih hrest
    refine ⟨s :: ss, .cons hs all, ?_⟩
    obtain rfl := Except.ok.inj h
    cases hempty : s.isEmpty <;> simp [hempty]

/-- A connective is made of the texts of its operands, without the empty ones. -/
theorem logical_eq_ok {op : Connective} {es : List Expr} {s : String}
    (h : w.expr (.logical op es) = .ok s) :
    ∃ ss, List.Forall₂ (fun e s => w.expr e = .ok s) es ss ∧
      s = connected op (ss.filter fun s => !s.isEmpty) := by
  rw [expr] at h
  obtain ⟨ts, hts, h⟩ := bind_eq_ok.1 h
  obtain ⟨ss, all, rfl⟩ := nonEmptyTexts_eq_ok hts
  exact ⟨ss, all, (Except.ok.inj h).symm⟩

theorem not_eq_ok {e : Expr} {s : String} (h : w.expr (.not e) = .ok s) :
    ∃ t, w.expr e = .ok t ∧ s = negated t := by
  rw [expr] at h
  obtain ⟨t, ht, h⟩ := bind_eq_ok.1 h
  exact ⟨t, ht, (Except.ok.inj h).symm⟩

theorem subquery_eq_ok {q : Query} {s : String} (h : w.expr (.subquery q) = .ok s) :
    ∃ t, w.subselect q = .ok t ∧ s = "(" ++ t ++ ")" := by
  rw [expr] at h
  obtain ⟨t, ht, h⟩ := bind_eq_ok.1 h
  exact ⟨t, ht, (Except.ok.inj h).symm⟩

/-- The contents of a set: items, a select without brackets of its own, or an expression. -/
inductive SetText (w : Writer) : Expr → String → Prop where
  | items {items : List Json} {s : String} (h : w.constantSet items = .ok s) :
      w.SetText (.lit (.arr items)) s
  | query {q : Query} {s : String} (h : w.subselect q = .ok s) : w.SetText (.subquery q) s
  | expr {e : Expr} {s : String} (h : w.expr e = .ok s) : w.SetText e s

theorem set_eq_ok {e : Expr} {s : String} (h : w.set e = .ok s) : w.SetText e s := by
  rw [set.eq_def] at h
  split at h
  · exact .items h
  · exact .query h
  · exact .expr h

/-- What stands behind the left side of a comparison, by the form that it has. -/
inductive RightText (w : Writer) (op : Comparison) (r : Expr) : String → Prop where
  | null (h : r = .lit .null) : w.RightText op r " IS NULL"
  | set {s : String} (h : w.SetText r s) : w.RightText op r (" IN (" ++ s ++ ")")
  | value {s : String} (h : w.expr r = .ok s) :
      w.RightText op r (" " ++ (comparisonSymbol op).2 ++ " " ++ s)

/-- Behind the left side of a comparison stand `IS NULL`, a set in brackets, or the operator and the
other side. -/
theorem compare_eq_ok {l : Expr} {op : Comparison} {r : Expr} {s : String}
    (h : w.expr (.compare l op r) = .ok s) :
    ∃ left right, w.expr l = .ok left ∧ w.RightText op r right ∧
      s = bracketed (comparisonSymbol op).1 (left ++ right) := by
  rw [expr] at h
  obtain ⟨left, hl, h⟩ := bind_eq_ok.1 h
  dsimp only at h
  split at h
  · -- only nothing itself is compared by `IS NULL`
    next form =>
    have null : r = .lit .null := by
      unfold comparisonForm at form
      split at form <;> first | rfl | cases form
    exact ⟨left, _, hl, .null null, (Except.ok.inj h).symm⟩
  · obtain ⟨t, ht, h⟩ := bind_eq_ok.1 h
    refine ⟨left, _, hl, .set (set_eq_ok ht), ?_⟩
    simpa only [String.append_assoc] using (Except.ok.inj h).symm
  · obtain ⟨t, ht, h⟩ := bind_eq_ok.1 h
    refine ⟨left, _, hl, .value ht, ?_⟩
    simpa only [String.append_assoc] using (Except.ok.inj h).symm

/-! ### Clauses -/

/-- The text of a selected field without its label. -/
inductive FieldText (w : Writer) (qualifier : String) (f : Field) : String → Prop where
  | own {path : String} (h : f.expr = .member path) :
      w.FieldText qualifier f (w.name (qualifier ++ "." ++ path))
  | expr {s : String} (h : w.expr f.expr = .ok s) : w.FieldText qualifier f s

/-- Each selected field has a text, and its label behind it if it has one. -/
theorem fields_eq_ok {qualifier : String} {fs : List Field} {ss : List String}
    (h : w.fields qualifier fs = .ok ss) :
    List.Forall₂ (fun f s =>
      ∃ t, w.FieldText qualifier f t ∧ s = t ++ w.labelled? (w.fieldLabel? f)) fs ss := by
  induction fs generalizing ss with
  | nil =>
    rw [fields] at h
    cases h
    exact .nil
  | cons f fs ih =>
    rw [fields] at h
    -- a field of the query's own is qualified without being written as an expression
    cases hm : ownMember? f.expr with
    | some path =>
      rw [hm] at h
      obtain ⟨s, hs, h⟩ := bind_eq_ok.1 h
      obtain ⟨rest, hrest, h⟩ := bind_eq_ok.1 h
      cases hs
      cases h
      exact .cons ⟨_, .own (eq_member_of_ownMember? hm), rfl⟩ (ih hrest)
    | none =>
      rw [hm] at h
      obtain ⟨s, hs, h⟩ := bind_eq_ok.1 h
      obtain ⟨rest, hrest, h⟩ := bind_eq_ok.1 h
      cases h
      exact .cons ⟨s, .expr hs, rfl⟩ (ih hrest)

theorem groups_eq_ok {fs : List Field} {ss : List String} (h : w.groups fs = .ok ss) :
    List.Forall₂ (fun f s => w.expr f.expr = .ok s) fs ss := by
  induction fs generalizing ss with
  | nil =>
    rw [groups] at h
    cases h
    exact .nil
  | cons f fs ih =>
    rw [groups] at h
    obtain ⟨s, hs, h⟩ := bind_eq_ok.1 h
    obtain ⟨rest, hrest, h⟩ := bind_eq_ok.1 h
    cases h
    exact .cons hs (ih hrest)

theorem orders_eq_ok {os : List Order} {ss : List String} (h : w.orders os = .ok ss) :
    List.Forall₂ (fun o s => ∃ t, w.expr o.expr = .ok t ∧ s = t ++ " " ++ directionWord o.direction)
      os ss := by
  induction os generalizing ss with
  | nil =>
    rw [orders] at h
    cases h
    exact .nil
  | cons o os ih =>
    rw [orders] at h
    obtain ⟨t, ht, h⟩ := bind_eq_ok.1 h
    obtain ⟨rest, hrest, h⟩ := bind_eq_ok.1 h
    cases h
    exact .cons ⟨t, ht, rfl⟩ (ih hrest)

/-- The text of what is joined, and the name it goes by without a label. -/
inductive TargetText (w : Writer) (label : Option String) : Target → String → String → Prop where
  | entity (name : String) : w.TargetText label (.entity name) (w.name name) name
  | query {q : Query} {s given : String} (h : w.subselect q = .ok s) (hl : label = some given) :
      w.TargetText label (.query q) ("(" ++ s ++ ")") given

/-- A target is written as the name of a collection or as a nested select, and its label is what its
columns are qualified by. -/
theorem target_eq_ok {label : Option String} {t : Target} {s name : String}
    (h : w.target label t = .ok (s, name)) : w.TargetText label t s name := by
  cases t with
  | entity entity =>
    rw [target] at h
    cases h
    exact .entity _
  | query q =>
    cases label with
    | none => rw [target] at h; cases h
    | some label =>
      rw [target] at h
      obtain ⟨s, hs, h⟩ := bind_eq_ok.1 h
      cases h
      exact .query hs rfl

/-- The text of a join condition. -/
inductive OnText (w : Writer) (qualifier joined : String) : Option Condition → String → Prop where
  | none : w.OnText qualifier joined none ""
  | fields {left right : List FieldRef} (same : left.length = right.length) (any : left ≠ []) :
      w.OnText qualifier joined (some (.fields left right))
        (" ON " ++ w.fieldPairs qualifier joined left right)
  | predicate {e : Expr} {s : String} (h : w.expr e = .ok s) :
      w.OnText qualifier joined (some (.predicate e)) (" ON " ++ s)

/-- The condition of a join is a predicate, or pairs of columns that have to be equal. -/
theorem condition_eq_ok {qualifier joined : String} {c? : Option Condition} {s : String}
    (h : w.condition qualifier joined c? = .ok s) : w.OnText qualifier joined c? s := by
  rcases c? with - | ⟨left, right⟩ | e
  · rw [condition] at h
    cases h
    exact .none
  · rw [condition] at h
    split at h
    · cases h
    · next paired =>
      rw [not_or, not_not, List.isEmpty_iff] at paired
      cases h
      exact .fields paired.1 paired.2
  · rw [condition] at h
    obtain ⟨s, hs, h⟩ := bind_eq_ok.1 h
    cases h
    exact .predicate hs

/-- The texts of a join: of what is joined, of the name it goes by, and of the condition. -/
structure JoinTexts (w : Writer) (qualifier : String) (j : Join) where
  joined : String
  name : String
  on : String
  target : w.TargetText j.label j.target joined name
  condition : w.OnText qualifier (j.label.getD name) j.condition on

/-- A join of its texts. -/
def JoinTexts.text {qualifier : String} {j : Join} (t : w.JoinTexts qualifier j) : String :=
  joinWords j.kind ++ " " ++ t.joined ++ w.labelled? j.label ++ t.on

/-- Each join has the text of its target and of its condition. -/
theorem joins_eq_ok {qualifier : String} {js : List Join} {ss : List String}
    (h : w.joins qualifier js = .ok ss) :
    List.Forall₂ (fun j s => ∃ t : w.JoinTexts qualifier j, s = t.text) js ss := by
  induction js generalizing ss with
  | nil =>
    rw [joins] at h
    cases h
    exact .nil
  | cons j js ih =>
    rw [joins] at h
    obtain ⟨⟨joined, name⟩, ht, h⟩ := bind_eq_ok.1 h
    obtain ⟨on, hc, h⟩ := bind_eq_ok.1 h
    obtain ⟨rest, hrest, h⟩ := bind_eq_ok.1 h
    cases h
    exact .cons ⟨⟨joined, name, on, target_eq_ok ht, condition_eq_ok hc⟩, rfl⟩ (ih hrest)

/-! ### Selects -/

/-- The clauses of a select statement, each with its text. -/
structure Clauses (w : Writer) (q : Query) where
  selection : List Field
  entity : String
  columns : List String
  joined : List String
  condition : String
  grouped : List String
  ordered : List String
  select : q.select = some selection
  collection : q.collection = some entity
  fields : w.fields (q.label.getD entity) selection = .ok columns
  joins : w.joins (q.label.getD entity) q.joins = .ok joined
  filter : w.filter q = .ok condition
  groups : w.groups q.group = .ok grouped
  orders : w.orders q.order = .ok ordered

namespace Clauses

variable {q : Query} (c : w.Clauses q)

/-- The name that fields are qualified by. -/
def qualifier : String := q.label.getD c.entity

/-- What is selected: the columns, or all there are. -/
def projection : String := if c.selection.isEmpty then "*" else joinWith ", " c.columns

/-- The statement up to a wrapping. -/
def plain : String :=
  joinWith " " (w.selectParts q c.entity c.projection c.joined c.condition c.grouped c.ordered)

/-- The statement of the clauses. -/
def text : String :=
  if q.fixed then "SELECT * FROM (" ++ c.plain ++ ")" ++ w.labelled c.qualifier else c.plain

end Clauses

/-- A select is made of its clauses, each of which was written. -/
theorem select_eq_ok {q : Query} {s : String} (h : w.select q = .ok s) :
    ∃ c : w.Clauses q, s = c.text := by
  cases hs : q.select with
  | none =>
    rw [select_of_none hs] at h
    cases h
  | some selection =>
    rw [select_of_some hs] at h
    obtain ⟨entity, he, h⟩ := bind_eq_ok.1 h
    obtain ⟨columns, hf, h⟩ := bind_eq_ok.1 h
    obtain ⟨joined, hj, h⟩ := bind_eq_ok.1 h
    obtain ⟨condition, hc, h⟩ := bind_eq_ok.1 h
    obtain ⟨grouped, hg, h⟩ := bind_eq_ok.1 h
    obtain ⟨ordered, ho, h⟩ := bind_eq_ok.1 h
    exact ⟨⟨selection, entity, columns, joined, condition, grouped, ordered, hs,
      collection_of_entity he, hf, hj, hc, hg, ho⟩, (Except.ok.inj h).symm⟩

/-- A nested select: a select, with its limit where there is paging. -/
theorem subselect_eq_ok {q : Query} {s : String} (h : w.subselect q = .ok s) :
    ∃ c : w.Clauses q, s = c.text ∨ s = c.text ++ limit q := by
  rw [subselect] at h
  obtain ⟨kind, hk, h⟩ := bind_eq_ok.1 h
  cases kind with
  | select =>
    dsimp only at h
    split at h
    · rw [limitSelect] at h
      obtain ⟨t, ht, h⟩ := bind_eq_ok.1 h
      obtain ⟨c, rfl⟩ := select_eq_ok ht
      exact ⟨c, .inr (Except.ok.inj h).symm⟩
    · obtain ⟨c, rfl⟩ := select_eq_ok h
      exact ⟨c, .inl rfl⟩
  | _ => cases h

end Writer

end Sift.Sql
