import Mathlib
import Sift.Proofs.Sql.Conditions
import Sift.Proofs.Sql.Success

/-!
# Operands and conditions in statements

What stands around the operators and behind the keywords of a written statement. A condition behind
`WHERE` is never empty, since the clause is left out then. Nothing is left out elsewhere: the text
behind `ON` and the operands of comparisons, of arithmetic and of calls are empty exactly where they
are vacuous.

* `Expr.operands`: the operands of an expression, `Node.Visible`: what shows.
* `Writer.OperandIn`, `Writer.OnIn`, `Writer.WhereIn`: operands and conditions in a text.
* `Writer.inPlace`: those of a whole tree; `statement_inPlace`: those of a statement.
* `statement_with_dangling_on`: a join condition without a text.
-/

namespace Sift

/-- The operands of an expression: the sides of a comparison or of arithmetic, or the arguments
of a call. -/
def Expr.operands : Expr → List Expr
  | .compare l _ r => [l, r]
  | .arith l _ r => [l, r]
  | .call _ args => args
  | _ => []

/-- A node that shows: no member without a path, no array and no object as a constant. -/
def Node.Visible : Node → Prop
  | .expr e => e.Visible
  | .query _ => True

/-- The leaves of a connective or a negation are visible with it. -/
theorem Everywhere.visible_leaves {e : Expr} (h : Everywhere Node.Visible (.expr e)) :
    ∀ d ∈ e.leaves, d.Visible := by
  intro d hd
  match e with
  | .logical op es =>
    obtain ⟨c, hc, hd⟩ := Expr.mem_leavesOfAll.1 hd
    have := List.sizeOf_lt_of_mem hc
    exact visible_leaves ((Everywhere.logical_iff.1 h).2 c hc) d hd
  | .not e => exact visible_leaves (Everywhere.not_iff.1 h).2 d hd
  | .lit _ | .member _ | .compare _ _ _ | .arith _ _ _ | .call _ _ | .subquery _ =>
    rw [List.mem_singleton.1 hd]
    exact h.here
termination_by sizeOf e

/-- The conditions of a visible query are visible, and so is what they are merged to. -/
theorem Query.visibleConditions {q : Query} (h : Everywhere Node.Visible (.query q)) :
    q.VisibleConditions := by
  have inside := (Everywhere.query_iff.1 h).2.1
  rintro e (he | he)
  · exact (inside e (filter_mem_exprs he)).visible_leaves
  · exact (inside e (prepared_mem_exprs he)).visible_leaves

theorem Query.everywhere_visible_predicate {q : Query} (h : Everywhere Node.Visible (.query q))
    {e : Expr} (he : q.predicate? = some e) : Everywhere Node.Visible (.expr e) :=
  everywhere_of_predicate? (fun _ => trivial) (fun _ => trivial) h he

end Sift

namespace Sift.Sql

open Text

/-- What stands for an argument is its text, or comes from a constant and is not empty. -/
theorem Operand.Stands.text_or_constant {a : Operand} {t : String} (h : a.Stands t) :
    a.sql = .ok t ∨ (∃ v, a.expr = .lit v) ∧ t ≠ "" := by
  obtain ⟨e, sql⟩ := a
  cases h with
  | text h => exact .inl h
  | pattern h =>
    refine .inr ⟨?_, quoteText_ne_empty _⟩
    unfold string? at h
    split at h
    · next c he => exact ⟨_, he⟩
    · cases h
  | position h =>
    refine .inr ⟨?_, intText_ne_empty _⟩
    unfold signed? at h
    split at h
    · next v he => exact ⟨v, he⟩
    · cases h

namespace Writer

variable {w : Writer} {sql : String}

/-! ### Places -/

/-- An operand in a text: what stands for it is there, and is empty only if the operand is
vacuous. -/
def OperandIn (w : Writer) (s : String) (e : Expr) : Prop :=
  ∃ t, Operand.Stands ⟨e, w.expr e⟩ t ∧ Within t s ∧ (t = "" ↔ e.vacuous = true)

/-- A join condition in a text: pairs of fields have a text behind `ON`, a predicate unless it
is vacuous. -/
inductive OnIn (w : Writer) (sql : String) : Condition → Prop where
  | fields {left right : List FieldRef} {t : String} (h : Within (" ON " ++ t) sql)
      (text : t ≠ "") : w.OnIn sql (.fields left right)
  | predicate {e : Expr} {t : String} (written : w.expr e = .ok t) (h : Within (" ON " ++ t) sql)
      (text : t = "" ↔ e.vacuous = true) : w.OnIn sql (.predicate e)

/-- The condition of a query in a text: with what restricts the query there is a text behind
`WHERE`, and otherwise the query is written as without a condition. -/
inductive WhereIn (w : Writer) (write : Query → Except Error String) (sql : String) (q : Query) :
    Prop where
  | written {t : String} (h : w.filter q = .ok t) (restricted : q.Restricted) (text : t ≠ "")
      (within : Within ("WHERE " ++ t) sql) : WhereIn w write sql q
  | omitted (h : w.filter q = .ok "") (free : ¬ q.Restricted)
      (same : write q = write q.unconditional) : WhereIn w write sql q

/-- Operands and conditions right in a node, in a text. -/
def InPlace (w : Writer) (sql : String) : Node → Prop
  | .expr e => e.operands ≠ [] →
      ∃ s, w.expr e = .ok s ∧ Within s sql ∧ ∀ d ∈ e.operands, w.OperandIn s d
  | .query q => (∀ j ∈ q.joins, ∀ c, j.condition = some c → w.OnIn sql c) ∧
      w.WhereIn w.select sql q

theorem OnIn.mono {s : String} {c : Condition} (h : w.OnIn s c) (within : Within s sql) :
    w.OnIn sql c := by
  cases h with
  | fields h text => exact .fields (h.trans within) text
  | predicate written h text => exact .predicate written (h.trans within) text

theorem WhereIn.mono {write : Query → Except Error String} {s : String} {q : Query}
    (h : w.WhereIn write s q) (within : Within s sql) : w.WhereIn write sql q := by
  cases h with
  | written h restricted text here => exact .written h restricted text (here.trans within)
  | omitted h free same => exact .omitted h free same

/-- The predicate of a query stands where its condition does. -/
theorem WhereIn.exists_predicate {write : Query → Except Error String} {q : Query}
    (h : w.WhereIn write sql q) {e : Expr} (he : q.predicate? = some e) :
    ∃ t, w.expr e = .ok t ∧ Within t sql := by
  cases h with
  | written h _ _ within =>
    exact ⟨_, by rw [← filter_of_predicate? he, h], ((Within.refl _).append_left _).trans within⟩
  | omitted h => exact ⟨"", by rw [← filter_of_predicate? he, h], List.nil_infix⟩

/-! ### Expressions -/

/-- The text of an operand stands in that of a connective, or is empty and left out. -/
theorem within_connected (op : Connective) {s : String} {ss : List String} (h : s ∈ ss) :
    Within s (connected op (ss.filter fun s => !s.isEmpty)) := by
  by_cases empty : s = ""
  · rw [empty]
    exact List.nil_infix
  · have kept : s ∈ ss.filter fun s => !s.isEmpty := List.mem_filter.2 ⟨h, by simpa using empty⟩
    generalize (ss.filter fun s => !s.isEmpty) = ts at kept
    unfold connected
    split
    · cases kept
    · rw [List.mem_singleton.1 kept]
      exact Within.refl _
    · exact (within_joinWith (Within.refl s) kept _).append_append _ _

theorem within_negated (s : String) : Within s (negated s) := by
  unfold negated
  split
  · exact Within.refl s
  · exact (Within.refl s).append_append _ _

/-- The right side of a comparison stands in what is behind the left one. -/
theorem RightText.exists_within {op : Comparison} {r : Expr} {right : String}
    (h : w.RightText op r right) (visible : r.Visible) :
    ∃ t, w.expr r = .ok t ∧ Within t right := by
  cases h with
  | null h =>
    rw [h, expr, constant]
    exact ⟨_, rfl, " IS ".toList, [], by decide⟩
  | set h => cases h with
    | items => exact visible.elim
    | query h =>
      refine ⟨_, by rw [expr, h]; rfl, " IN ".toList, [], ?_⟩
      simp only [String.toList_append, List.append_nil, ← List.append_assoc]
      rfl
    | expr h => exact ⟨_, h, (Within.refl _).append_append _ _⟩
  | value h => exact ⟨_, h, (Within.refl _).append_left _⟩

/-- Each operand stands in the text of an expression. -/
theorem exists_operand (hw : w.Candid) {e d : Expr} {s : String}
    (visible : Everywhere Node.Visible (.expr e)) (h : w.expr e = .ok s) (hd : d ∈ e.operands) :
    ∃ t, Operand.Stands ⟨d, w.expr d⟩ t ∧ Within t s := by
  cases e with
  | compare l op r =>
    obtain ⟨left, right, hl, hr, rfl⟩ := compare_eq_ok h
    rcases List.mem_cons.1 hd with rfl | hd
    · exact ⟨left, .text hl, ((Within.refl left).append_right _).append_append _ _⟩
    · obtain rfl := List.mem_singleton.1 hd
      obtain ⟨t, ht, within⟩ := hr.exists_within (Everywhere.compare_iff.1 visible).2.2.here
      exact ⟨t, .text ht, (within.append_left _).append_append _ _⟩
  | arith l op r =>
    rw [expr, hw.functions] at h
    exact (FunctionTable.isCall_standard h).exists_within
      (List.mem_map_of_mem (f := fun e => (⟨e, w.expr e⟩ : Operand)) hd)
  | call name args =>
    rw [expr, hw.functions, operands_eq_map] at h
    exact (FunctionTable.isCall_standard h).exists_within (List.mem_map_of_mem hd)
  | _ => cases hd

/-- Each part of an expression that is not a constant stands in its text. -/
theorem exists_part (hw : w.Candid) {e : Expr} {s : String}
    (visible : Everywhere Node.Visible (.expr e)) (h : w.expr e = .ok s) {m : Node}
    (hm : m ∈ (Node.expr e).parts) :
    (∃ v, m = .expr (.lit v)) ∨ ∃ t, w.TextOf m t ∧ Within t s := by
  -- an operand that is a constant may be written otherwise, and then it has no place of its own
  have operand {d : Expr} (hd : d ∈ e.operands) :
      (∃ v, Node.expr d = .expr (.lit v)) ∨ ∃ t, w.TextOf (.expr d) t ∧ Within t s := by
    obtain ⟨t, stands, within⟩ := exists_operand hw visible h hd
    rcases stands.text_or_constant with ht | ⟨⟨v, rfl⟩, -⟩
    · exact .inr ⟨t, ht, within⟩
    · exact .inl ⟨v, rfl⟩
  cases e with
  | lit => cases hm
  | member => cases hm
  | logical op es =>
    obtain ⟨d, hd, rfl⟩ := List.mem_map.1 hm
    obtain ⟨ss, all, rfl⟩ := logical_eq_ok h
    obtain ⟨t, ht, written⟩ := exists_mem_of_forall₂ all hd
    exact .inr ⟨t, written, within_connected op ht⟩
  | not e =>
    obtain ⟨d, hd, rfl⟩ := List.mem_map.1 hm
    obtain rfl := List.mem_singleton.1 hd
    obtain ⟨t, ht, rfl⟩ := not_eq_ok h
    exact .inr ⟨t, ht, within_negated t⟩
  | subquery q =>
    obtain rfl := List.mem_singleton.1 hm
    obtain ⟨t, ht, rfl⟩ := subquery_eq_ok h
    exact .inr ⟨t, ht, (Within.refl t).append_append _ _⟩
  | _ =>
    obtain ⟨d, hd, rfl⟩ := List.mem_map.1 hm
    exact operand hd

/-- Whatever stands for an argument is empty only if it is the text of a vacuous argument. -/
theorem Candid.stands_eq_empty_iff (hw : w.Candid) {e : Expr} {t : String}
    (visible : Everywhere Node.Visible (.expr e)) (h : Operand.Stands ⟨e, w.expr e⟩ t) :
    t = "" ↔ e.vacuous = true := by
  rcases h.text_or_constant with ht | ⟨⟨v, rfl⟩, text⟩
  · rw [hw.expr_eq_empty_iff ht, Expr.blank_iff_vacuous visible.visible_leaves]
  · exact iff_of_false text Bool.false_ne_true

/-- All operands inside of an expression stand in its text. -/
theorem inPlace_expr (hw : w.Candid) {e : Expr} {s : String}
    (visible : Everywhere Node.Visible (.expr e)) (h : w.expr e = .ok s) (within : Within s sql) :
    w.InPlace sql (.expr e) := by
  refine fun _ => ⟨s, h, within, fun d hd => ?_⟩
  obtain ⟨t, stands, here⟩ := exists_operand hw visible h hd
  have part : Node.expr d ∈ (Node.expr e).parts := by
    cases e <;> first | exact List.mem_map_of_mem hd | cases hd
  exact ⟨t, stands, here, hw.stands_eq_empty_iff (visible.part part) stands⟩

/-! ### Selects -/

/-- A select whose condition has no text is written as without it. -/
theorem select_eq_unconditional {q : Query} (h : w.filter q = .ok "") :
    w.select q = w.select q.unconditional := by
  have free := filter_of_predicate?_none (w := w) q.predicate?_unconditional
  cases hs : q.select with
  | none => rw [select_of_none hs, select_of_none (q := q.unconditional) hs]
  | some selection =>
    rw [select_of_some hs, select_of_some (q := q.unconditional) hs, h, free]
    rfl

namespace Clauses

variable {q : Query} (c : w.Clauses q)

/-- Every part of a select is found in its text. -/
theorem within_text {s t : String} (h : Within s t)
    (ht : t ∈ w.selectParts q c.entity c.projection c.joined c.condition c.grouped c.ordered) :
    Within s c.text := by
  have plain : Within s c.plain := within_joinWith h ht _
  unfold text
  split
  · exact (plain.append_append _ _).append_right _
  · exact plain

/-- A selected field is a column or has a text in the select. -/
theorem exists_field {f : Field} (hf : f ∈ q.fields) :
    (∃ path, f.expr = .member path) ∨ ∃ t, w.expr f.expr = .ok t ∧ Within t c.text := by
  rw [Query.fields, c.select, List.mem_append] at hf
  rcases hf with hf | hf
  · obtain ⟨s, hs, t, written, rfl⟩ := exists_mem_of_forall₂ (fields_eq_ok c.fields) hf
    cases written with
    | own h => exact .inl ⟨_, h⟩
    | expr h =>
      -- a field that is written is one of a selection, and not covered by the star
      have given : c.selection.isEmpty = false := by
        cases hsel : c.selection with
        | nil => rw [hsel] at hf; cases hf
        | cons => rfl
      have projection : Within t c.projection := by
        rw [projection, given]
        exact within_joinWith ((Within.refl t).append_right _) hs _
      have first := projection.append_left (if q.distinct then "SELECT DISTINCT " else "SELECT ")
      exact .inr ⟨t, h, c.within_text first (by simp [selectParts])⟩
  · obtain ⟨s, hs, written⟩ := exists_mem_of_forall₂ (groups_eq_ok c.groups) hf
    have given : q.group.isEmpty = false := by
      cases hg : q.group with
      | nil => rw [hg] at hf; cases hf
      | cons => rfl
    have listed : Within s ("GROUP BY " ++ joinWith ", " c.grouped) :=
      (within_joinWith (Within.refl s) hs _).append_left _
    exact .inr ⟨s, written, c.within_text listed (by simp [selectParts, given])⟩

/-- An ordering has a text in the select. -/
theorem exists_order {o : Order} (ho : o ∈ q.order) :
    ∃ t, w.expr o.expr = .ok t ∧ Within t c.text := by
  obtain ⟨s, hs, t, written, rfl⟩ := exists_mem_of_forall₂ (orders_eq_ok c.orders) ho
  have given : q.order.isEmpty = false := by
    cases hq : q.order with
    | nil => rw [hq] at ho; cases ho
    | cons => rfl
  have item : Within t (t ++ " " ++ directionWord o.direction) :=
    ((Within.refl t).append_right _).append_right _
  have listed : Within t ("ORDER BY " ++ joinWith ", " c.ordered) :=
    (within_joinWith item hs _).append_left _
  exact ⟨t, written, c.within_text listed (by simp [selectParts, given])⟩

/-- A join has its parts in the select. -/
theorem exists_join {j : Join} (hj : j ∈ q.joins) :
    ∃ t : w.JoinTexts (q.label.getD c.entity) j, Within t.text c.text := by
  obtain ⟨s, hs, t, rfl⟩ := exists_mem_of_forall₂ (joins_eq_ok c.joins) hj
  exact ⟨t, c.within_text (Within.refl _) (by simp [selectParts, hs])⟩

/-- The predicate stands in the statement, behind `WHERE` if it has a text. -/
theorem within_condition (text : c.condition ≠ "") :
    Within ("WHERE " ++ c.condition) c.text :=
  c.within_text (Within.refl _) (by simp [selectParts, clause, text])

/-- The condition of a select stands behind its keyword, or has no text and is left out. -/
theorem whereIn (hw : w.Candid) (visible : q.VisibleConditions) :
    w.WhereIn w.select c.text q := by
  have restricted := hw.filter_ne_empty_iff visible c.filter
  by_cases text : c.condition = ""
  · have empty : w.filter q = .ok "" := by rw [c.filter, text]
    exact .omitted empty (fun yes => restricted.2 yes text) (select_eq_unconditional empty)
  · exact .written c.filter (restricted.1 text) text (c.within_condition text)

end Clauses

/-- A nested query that is a target is written inside of it. -/
theorem TargetText.exists_within {label : Option String} {t : Target} {s name : String}
    (h : w.TargetText label t s name) {p : Query} (hp : t.query? = some p) :
    ∃ u, w.subselect p = .ok u ∧ Within u s := by
  cases h with
  | entity => cases hp
  | query h =>
    cases hp
    exact ⟨_, h, (Within.refl _).append_append _ _⟩

/-- The condition of a join stands behind its keyword even if it has no text. -/
theorem OnText.onIn (hw : w.Candid) {qualifier joined : String} {c? : Option Condition} {s : String}
    (h : w.OnText qualifier joined c? s) {c : Condition} (hc : c? = some c)
    (visible : ∀ e, c.predicate? = some e → Everywhere Node.Visible (.expr e)) : w.OnIn s c := by
  cases h with
  | none => cases hc
  | @fields left right same any =>
    cases hc
    refine .fields (Within.refl _) ?_
    obtain ⟨l, left, rfl⟩ := List.exists_cons_of_ne_nil any
    cases right with
    | nil => cases same
    | cons r right =>
      -- the sign between the columns is there in any case
      have pair : w.fieldRef qualifier l ++ " = " ++ w.fieldRef joined r ≠ "" := fun empty =>
        absurd (String.append_eq_empty_iff.1 (String.append_eq_empty_iff.1 empty).1).2 (by decide)
      rw [fieldPairs, List.zip_cons_cons, List.map_cons]
      intro empty
      have within : Within (w.fieldRef qualifier l ++ " = " ++ w.fieldRef joined r) "" :=
        empty ▸ within_joinWith (Within.refl _) List.mem_cons_self _
      exact pair (String.toList_eq_nil_iff.1 (List.infix_nil.1 within))
  | @predicate e t h =>
    cases hc
    refine .predicate h (Within.refl _) ?_
    rw [hw.expr_eq_empty_iff h, Expr.blank_iff_vacuous (visible e rfl).visible_leaves]

theorem JoinTexts.within_joined {qualifier : String} {j : Join} (t : w.JoinTexts qualifier j) :
    Within t.joined t.text :=
  (((Within.refl _).append_left _).append_right _).append_right _

theorem JoinTexts.within_on {qualifier : String} {j : Join} (t : w.JoinTexts qualifier j) :
    Within t.on t.text := (Within.refl _).append_left _

/-- The two conditions of a query are merged for writing, and each is in place just where the merged
one is. -/
theorem everywhere_inPlace_predicate?_iff {q : Query} :
    (∀ e, q.predicate? = some e → Everywhere (w.InPlace sql) (.expr e)) ↔
      (∀ e, q.filter = some e → Everywhere (w.InPlace sql) (.expr e)) ∧
      ∀ e, q.prepared = some e → Everywhere (w.InPlace sql) (.expr e) :=
  q.everywhere_predicate?_iff (fun _ other => absurd rfl other) fun _ other => absurd rfl other

/-- **Operands and conditions of a select** are in place if those of its parts are, whose texts are
in it. -/
theorem Clauses.inPlace (hw : w.Candid) {q : Query} (c : w.Clauses q)
    (visible : Everywhere Node.Visible (.query q)) (within : Within c.text sql)
    (part : ∀ m ∈ (Node.query q).parts, ∀ t, w.TextOf m t → Within t sql →
      Everywhere (w.InPlace sql) m)
    (predicate : ∀ e, q.predicate? = some e → ∀ t, w.expr e = .ok t → Within t sql →
      Everywhere (w.InPlace sql) (.expr e)) :
    Everywhere (w.InPlace sql) (.query q) := by
  have inside := (Everywhere.query_iff.1 visible).2.1
  have whereIn := (c.whereIn hw (Query.visibleConditions visible)).mono within
  have expr {e : Expr} (he : e ∈ q.exprs) {t : String} (ht : w.expr e = .ok t)
      (here : Within t sql) : Everywhere (w.InPlace sql) (.expr e) :=
    part (.expr e) (List.mem_append_left _ (List.mem_map_of_mem he)) t ht here
  have join {j : Join} (hj : j ∈ q.joins) :
      ∃ t : w.JoinTexts (q.label.getD c.entity) j, Within t.text sql := by
    obtain ⟨t, here⟩ := c.exists_join hj
    exact ⟨t, here.trans within⟩
  have on {j : Join} (hj : j ∈ q.joins) {d : Condition} (hd : j.condition = some d) :
      w.OnIn sql d := by
    obtain ⟨t, here⟩ := join hj
    refine (t.condition.onIn hw hd fun e he => ?_).mono (t.within_on.trans here)
    exact inside e (Query.predicate_mem_exprs hj (by rw [hd]; exact he))
  -- both conditions of a query are written as one predicate, which is no part of the query
  have conditions := everywhere_inPlace_predicate?_iff.1 fun e he => by
    obtain ⟨t, ht, here⟩ := whereIn.exists_predicate he
    exact predicate e he t ht here
  refine Everywhere.query_iff.2 ⟨⟨fun j hj d hd => on hj hd, whereIn⟩, ?_, ?_⟩
  · refine Query.forall_mem_exprs.2 ⟨fun f hf => ?_, conditions.1, conditions.2, fun o ho => ?_,
      fun j hj e he => ?_⟩
    · rcases c.exists_field hf with ⟨path, hp⟩ | ⟨t, ht, here⟩
      · rw [hp]
        exact Everywhere.member_iff.2 fun other => absurd rfl other
      · exact expr (Query.field_mem_exprs hf) ht (here.trans within)
    · obtain ⟨t, ht, here⟩ := c.exists_order ho
      exact expr (Query.order_mem_exprs ho) ht (here.trans within)
    · obtain ⟨d, hd, hde⟩ := Option.bind_eq_some_iff.1 he
      cases on hj hd with
      | fields => cases hde
      | predicate written here =>
        cases hde
        exact expr (Query.predicate_mem_exprs hj he) written
          (((Within.refl _).append_left _).trans here)
  · refine Query.forall_mem_targets.2 fun j hj p hp => ?_
    obtain ⟨t, here⟩ := join hj
    obtain ⟨u, hu, inner⟩ := t.target.exists_within hp
    exact part (.query p) (List.mem_append_right _ (List.mem_map_of_mem
      (Query.query_mem_targets hj hp))) u hu (inner.trans (t.within_joined.trans here))

/-- **Operands and conditions everywhere** in a tree are in place in every text around its own. -/
theorem inPlace (hw : w.Candid) (n : Node) (visible : Everywhere Node.Visible n) {s : String}
    (h : w.TextOf n s) (within : Within s sql) : Everywhere (w.InPlace sql) n := by
  -- the parts of a node are in place by the recursion, once their texts are found
  have part (m : Node) (hm : m ∈ n.parts) (t : String) (ht : w.TextOf m t) (here : Within t sql) :
      Everywhere (w.InPlace sql) m := inPlace hw m (visible.part hm) ht here
  match n with
  | .expr e =>
    refine .intro (inPlace_expr hw visible h within) fun m hm => ?_
    rcases exists_part hw visible h hm with ⟨v, rfl⟩ | ⟨t, ht, here⟩
    · exact Everywhere.lit_iff.2 fun other => absurd rfl other
    · exact part m hm t ht (here.trans within)
  | .query q =>
    obtain ⟨c, hc⟩ := subselect_eq_ok h
    have text : Within c.text sql := by
      rcases hc with rfl | rfl
      · exact within
      · exact ((Within.refl _).append_right _).trans within
    refine c.inPlace hw visible text part fun e he t ht here => ?_
    have size := Query.sizeOf_lt_of_predicate? he
    exact inPlace hw (.expr e) (q.everywhere_visible_predicate visible he) ht here
termination_by sizeOf n
decreasing_by
  · exact Node.sizeOf_lt_of_mem_parts hm
  · simp only [Node.expr.sizeOf_spec, Node.query.sizeOf_spec]; omega

end Writer

/-! ### Statements -/

/-- The condition of an update or a delete, in its statement. -/
theorem Formatter.whereIn_statement {f : Formatter} (candid : f.writer.Candid) {q : Query}
    (kind : q.kind = .ok .update ∨ q.kind = .ok .delete) (visible : q.VisibleConditions)
    {sql : String} (h : f.statement q = .ok sql) : f.writer.WhereIn f.statement sql q := by
  obtain ⟨head, condition, hh, hcondition, rfl⟩ := conditional_eq_ok kind h
  have restricted := candid.filter_ne_empty_iff visible hcondition
  by_cases text : condition = ""
  · rw [if_pos text] at h
    exact .omitted (text ▸ hcondition) (fun yes => restricted.2 yes text) (h.trans hh.symm)
  · have keyword : " WHERE " = " " ++ "WHERE " := by decide
    have clause : head ++ " WHERE " ++ condition = head ++ " " ++ ("WHERE " ++ condition) := by
      rw [keyword]
      simp only [String.append_assoc]
    rw [if_neg text, clause]
    exact .written hcondition (restricted.1 text) text ((Within.refl _).append_left _)

/-- **Operands and conditions in a statement**. Of a select, those of the whole query are in place;
of an update or a delete, its condition and what is in that. So a condition behind `WHERE` always
has a text, and one behind `ON` or an operand has one unless it is vacuous. -/
theorem statement_inPlace (settings : Settings) (template : settings.nameFormat ≠ "") {q : Query}
    (visible : Everywhere Node.Visible (.query q)) {sql : String}
    (h : (Formatter.ofSettings settings).statement q = .ok sql) :
    (q.kind = .ok .select →
      Everywhere ((Formatter.ofSettings settings).writer.InPlace sql) (.query q)) ∧
    (q.kind = .ok .update ∨ q.kind = .ok .delete →
      (Formatter.ofSettings settings).writer.WhereIn (Formatter.ofSettings settings).statement
        sql q ∧
      ∀ e, q.filter = some e ∨ q.prepared = some e →
        Everywhere ((Formatter.ofSettings settings).writer.InPlace sql) (.expr e)) := by
  set f := Formatter.ofSettings settings
  have candid : f.writer.Candid := Formatter.candid_writer rfl template
  refine ⟨fun kind => ?_, fun kind => ?_⟩
  · have nested : f.writer.subselect q = .ok sql := by
      rw [← h, Formatter.statement, Writer.subselect, kind]
      rfl
    exact Writer.inPlace candid (.query q) visible nested (Within.refl sql)
  · have whereIn := Formatter.whereIn_statement candid kind (Query.visibleConditions visible) h
    have conditions := Writer.everywhere_inPlace_predicate?_iff.1 fun e he => by
      obtain ⟨t, ht, here⟩ := whereIn.exists_predicate he
      exact Writer.inPlace candid (.expr e) (q.everywhere_visible_predicate visible he) ht here
    exact ⟨whereIn, fun e he => he.elim (conditions.1 e) (conditions.2 e)⟩

/-- Users with votes by a join predicate, those of them with an operand that is one. -/
def usersByVotes (on operand : Expr) : Query :=
  { Query.empty with
    collection := some "users"
    select := some []
    filter := some (.compare operand .eq (.lit (.int 1)))
    joins := [⟨.entity "votes", none, .inner, some (.predicate on)⟩] }

/-- The query is visible if the two expressions put into it are. -/
theorem visible_usersByVotes {on operand : Expr} (hon : Everywhere Node.Visible (.expr on))
    (hoperand : Everywhere Node.Visible (.expr operand)) :
    Everywhere Node.Visible (.query (usersByVotes on operand)) := by
  refine Everywhere.query_iff.2 ⟨trivial, ?_, List.forall_mem_nil _⟩
  refine List.forall_mem_cons.2 ⟨?_, List.forall_mem_singleton.2 hon⟩
  exact Everywhere.compare_iff.2 ⟨trivial, hoperand, Everywhere.lit_iff.2 trivial⟩

/-- A select with a join on a condition and a condition of its own. -/
theorem usersByVotes_inPlace :
    Settings.plain.nameFormat ≠ "" ∧
      Everywhere Node.Visible (.query (usersByVotes (.member "voted") (.member "rank"))) ∧
      (Formatter.ofSettings .plain).statement (usersByVotes (.member "voted") (.member "rank")) =
        .ok "SELECT * FROM users INNER JOIN votes ON voted WHERE (rank = 1)" ∧
      Everywhere ((Formatter.ofSettings .plain).writer.InPlace
          "SELECT * FROM users INNER JOIN votes ON voted WHERE (rank = 1)")
        (.query (usersByVotes (.member "voted") (.member "rank"))) := by
  have member {path : String} (h : path ≠ "") : Everywhere Node.Visible (.expr (.member path)) :=
    Everywhere.member_iff.2 h
  have visible :
      Everywhere Node.Visible (.query (usersByVotes (.member "voted") (.member "rank"))) :=
    visible_usersByVotes (member (by decide)) (member (by decide))
  have written : (Formatter.ofSettings .plain).statement
      (usersByVotes (.member "voted") (.member "rank")) =
        .ok "SELECT * FROM users INNER JOIN votes ON voted WHERE (rank = 1)" := by cbv
  exact ⟨by decide, visible, written,
    (statement_inPlace .plain (by decide) visible written).1 rfl⟩

/-- A join condition that is vacuous, and an operand: there is nothing behind `ON`, and nothing in
front of the sign of equality. -/
theorem statement_with_dangling_on :
    Everywhere Node.Visible (.query (usersByVotes (.logical .and []) (.member "rank"))) ∧
      (Formatter.ofSettings .plain).statement (usersByVotes (.logical .and []) (.member "rank")) =
        .ok "SELECT * FROM users INNER JOIN votes ON  WHERE (rank = 1)" ∧
      Everywhere Node.Visible (.query (usersByVotes (.member "voted") (.not (.logical .or [])))) ∧
      (Formatter.ofSettings .plain).statement
          (usersByVotes (.member "voted") (.not (.logical .or []))) =
        .ok "SELECT * FROM users INNER JOIN votes ON voted WHERE ( = 1)" := by
  have nothing (op : Connective) : Everywhere Node.Visible (.expr (.logical op [])) :=
    Everywhere.logical_iff.2 ⟨trivial, List.forall_mem_nil _⟩
  have member {path : String} (h : path ≠ "") : Everywhere Node.Visible (.expr (.member path)) :=
    Everywhere.member_iff.2 h
  have negation : Everywhere Node.Visible (.expr (.not (.logical .or []))) :=
    Everywhere.not_iff.2 ⟨trivial, nothing _⟩
  refine ⟨visible_usersByVotes (nothing _) (member (by decide)), ?_,
    visible_usersByVotes (member (by decide)) negation, ?_⟩
  all_goals cbv

end Sift.Sql
