import Sift.Proofs.Sql.Plain
import Sift.Proofs.Sql.Renderers
import Sift.Proofs.Sql.Selects

/-!
# One walk for two writers

Two writers that write names in corresponding ways write every tree so: each ends in the same fault,
or in texts that correspond. The second one is given the tree with its constants mapped by the
correspondence. What the two statements are compared for is left to the correspondence: everything
that is said of a statement by comparing it with another one comes from this walk.

* `Writer.NameTwins`: two writers that write the names of a class in corresponding ways.
* `Writer.Matches`: what two writers make of a node; `Writer.MatchesQuery`: of the parts of a query.
* `Writer.NameTwins.matches_compare`, `Writer.NameTwins.matches_subselect`: one construct.
* `Writer.Fits`, `Writer.Twins.matches_everywhere`: every tree, if its names and constants fit.
-/

namespace Sift.Sql.Writer

open Text Number

/-- Two writers that write the names of a class in corresponding ways, and label alike. -/
structure NameTwins (C : Correspondence) (N : String → Prop) (w w' : Writer) : Prop where
  names : TextClass N
  name {s : String} (h : N s) : C.Firm (w.name s) (w'.name s)
  forceAlias : w.settings.forceAlias = w'.settings.forceAlias
  useAliasKeyword : w.settings.useAliasKeyword = w'.settings.useAliasKeyword

/-- What two writers make of a node, and of that node with its constants mapped, corresponds. A
query is written as a nested select. -/
def Matches (C : Correspondence) (w w' : Writer) : Node → Prop
  | .expr e => Agree C.Rel (w.expr e) (w'.expr (e.mapConstants C.constant))
  | .query q => Agree C.Rel (w.subselect q) (w'.subselect (q.mapConstants C.constant))

variable {C : Correspondence} {N : String → Prop} {w w' : Writer}

/-! ### Constants -/

mutual

/-- A constant without objects is written in a way of its own, not that of a writer. -/
theorem constant_related (v : Json) (h : v.hasObject = false) :
    Agree C.Rel (w.constant v) (w'.constant (C.constant v)) := by
  -- texts become literals, and everything else is neutral
  cases v with
  | null =>
    rw [C.changes.null]
    exact .ok (C.refl (by decide : Neutral "NULL"))
  | bool b =>
    rw [C.changes.bool]
    cases b with
    | false => exact .ok (C.refl (by decide : Neutral "false"))
    | true => exact .ok (C.refl (by decide : Neutral "true"))
  | int n =>
    rw [C.changes.int]
    exact .ok (C.refl (textClass_neutral.intText n))
  | float x =>
    rw [C.changes.float]
    exact .ok (C.refl (textClass_neutral.write _ x))
  | str s =>
    rw [C.changes.str]
    exact .ok (C.literal id s)
  | obj fields => cases h
  | arr items =>
    rw [C.changes.arr, constant, constant]
    exact (constants_related items h).bind fun ss ts hst =>
      .ok (C.joinWith (by decide) (by decide) hst)

/-- Constants without objects correspond one by one. -/
theorem constants_related (items : List Json) (h : Json.anyObject items = false) :
    Agree (List.Forall₂ C.Rel) (w.constants items) (w'.constants (items.map C.constant)) := by
  cases items with
  | nil => exact .ok .nil
  | cons v items =>
    rw [Json.anyObject, Bool.or_eq_false_iff] at h
    rw [List.map_cons, constants, constants]
    exact (constant_related v h.1).bind fun s t hst =>
      (constants_related items h.2).bind fun ss ts hsts => .ok (.cons hst hsts)

end

/-- Constants of any kind do so if each of them does. -/
theorem constants_related_of_each {items : List Json}
    (h : ∀ v ∈ items, Agree C.Rel (w.constant v) (w'.constant (C.constant v))) :
    Agree (List.Forall₂ C.Rel) (w.constants items) (w'.constants (items.map C.constant)) := by
  induction items with
  | nil => exact .ok .nil
  | cons v items ih =>
    rw [List.forall_mem_cons] at h
    rw [List.map_cons, constants, constants]
    exact h.1.bind fun s t hst => (ih h.2).bind fun ss ts hsts => .ok (.cons hst hsts)

/-- The set of an array is written like the array, but for one without items. -/
theorem constantSet_related {items : List Json}
    (h : Agree C.Rel (w.constant (.arr items)) (w'.constant (C.constant (.arr items)))) :
    Agree C.Rel (w.constantSet items) (w'.constantSet (items.map C.constant)) := by
  unfold constantSet
  rw [List.isEmpty_map]
  split
  · exact .ok (C.refl (by decide))
  · rwa [C.changes.arr, constant, constant] at h

/-! ### Expressions -/

/-- Arguments correspond as constants and as texts. -/
theorem operands_related {es : List Expr} (h : ∀ e ∈ es, Matches C w w' (.expr e)) :
    List.Forall₂ (Operand.Related C) (w.operands es)
      (w'.operands (es.map (Expr.mapConstants C.constant))) := by
  rw [operands_eq_map, operands_eq_map, List.map_map, List.forall₂_map_left_iff,
    List.forall₂_map_right_iff, List.forall₂_same]
  exact fun e he => ⟨rfl, h e he⟩

/-- Both leave out the same operands, because corresponding texts are empty together. -/
theorem nonEmptyTexts_related {es : List Expr} (h : ∀ e ∈ es, Matches C w w' (.expr e)) :
    Agree (List.Forall₂ C.Rel) (w.nonEmptyTexts es)
      (w'.nonEmptyTexts (es.map (Expr.mapConstants C.constant))) := by
  induction es with
  | nil => rw [List.map_nil, nonEmptyTexts, nonEmptyTexts]; exact .ok .nil
  | cons e es ih =>
    rw [List.forall_mem_cons] at h
    rw [List.map_cons, nonEmptyTexts, nonEmptyTexts]
    refine Agree.bind h.1 fun s t hst => (ih h.2).bind fun ss ts hsts => .ok ?_
    rw [C.isEmpty hst]
    split
    · exact hsts
    · exact .cons hst hsts

/-- A connective puts neutral words between its operands, and brackets around more than one. -/
theorem connected_related (op : Connective) {ss ts : List String} (h : List.Forall₂ C.Rel ss ts) :
    C.Rel (connected op ss) (connected op ts) := by
  rcases h with - | ⟨h₁, - | ⟨h₂, rest⟩⟩
  · exact C.refl (by decide : Neutral "")
  · exact h₁
  · have separator : op.separator ≠ "" ∧ Neutral op.separator := by cases op <;> decide
    exact C.rel (C.brackets (C.joinWith separator.1 separator.2 (.cons h₁ (.cons h₂ rest))))

/-- Brackets and a word for a negation are neutral. -/
theorem bracketed_related (negative : Bool) {s t : String} (h : C.Rel s t) :
    C.Rel (bracketed negative s) (bracketed negative t) := by
  cases negative with
  | false => exact C.rel (C.brackets h)
  | true =>
    have negated := C.rel (C.brackets (C.before (u := "NOT ") (by decide) h))
    have opening : "(NOT " = "(" ++ "NOT " := by decide
    simpa only [bracketed, if_true, opening, String.append_assoc] using negated

theorem negated_related {s t : String} (h : C.Rel s t) : C.Rel (negated s) (negated t) := by
  unfold negated
  rw [C.isEmpty h]
  split
  · exact h
  · exact bracketed_related true h

/-- What a comparison is written as does not depend on texts. -/
theorem comparisonForm_mapConstants (op : Comparison) (r : Expr) :
    comparisonForm op (r.mapConstants C.constant) = comparisonForm op r := by
  have changes := C.changes
  cases r with
  | lit v =>
    rw [Expr.mapConstants_lit]
    cases v with
    | obj fields =>
      obtain ⟨fields', h⟩ := changes.obj fields
      cases op <;> simp [comparisonForm, h]
    | _ =>
      cases op <;> simp [comparisonForm, changes.null, changes.bool, changes.int, changes.float,
        changes.str, changes.arr]
  | _ => cases op <;> simp [comparisonForm]

/-- A set is written like any expression, unless it is an array or a nested query. -/
theorem set_eq_expr {e : Expr} (array : ∀ items, e ≠ .lit (.arr items))
    (query : ∀ q, e ≠ .subquery q) : w.set e = w.expr e := by
  rw [set]
  · exact array
  · exact query

/-- A set corresponds as an array of constants, a nested query or an expression. -/
theorem matches_set {e : Expr} (h : Matches C w w' (.expr e))
    (nested : ∀ q, e = .subquery q → Matches C w w' (.query q)) :
    Agree C.Rel (w.set e) (w'.set (e.mapConstants C.constant)) := by
  cases e with
  | subquery q =>
    rw [Expr.mapConstants_subquery, set, set]
    exact nested q rfl
  | lit v =>
    cases v with
    | arr items =>
      rw [Matches, Expr.mapConstants_lit, expr, expr] at h
      rw [Expr.mapConstants_lit, C.changes.arr, set, set]
      exact constantSet_related h
    | obj fields =>
      obtain ⟨fields', hf⟩ := C.changes.obj fields
      rw [set_eq_expr (by simp) (by simp), set_eq_expr (by simp [hf]) (by simp)]
      exact h
    | _ =>
      rw [set_eq_expr (by simp) (by simp), set_eq_expr (by simp [C.changes.null, C.changes.bool,
        C.changes.int, C.changes.float, C.changes.str]) (by simp)]
      exact h
  | _ =>
    rw [set_eq_expr (by simp) (by simp), set_eq_expr (by simp) (by simp)]
    exact h

/-- A comparison has one of three forms, and mapping the constants does not change which. -/
theorem matches_compare {l r : Expr} (op : Comparison) (hl : Matches C w w' (.expr l))
    (hr : Matches C w w' (.expr r))
    (hs : Agree C.Rel (w.set r) (w'.set (r.mapConstants C.constant))) :
    Matches C w w' (.expr (.compare l op r)) := by
  rw [Matches, Expr.mapConstants_compare, expr, expr, comparisonForm_mapConstants]
  refine Agree.bind hl fun s t hst => ?_
  dsimp only
  cases comparisonForm op r with
  | null => exact .ok (bracketed_related _ (C.behind hst (by decide)))
  | set =>
    -- the set has brackets of its own, which are paired inside of the operator's text
    refine hs.bind fun u v huv => .ok (bracketed_related _ ?_)
    have set := C.between hst (u := " IN ") (by decide) (by decide) (C.rel (C.brackets huv))
    have opening : " IN (" = " IN " ++ "(" := by decide
    simpa only [opening, String.append_assoc] using set
  | values =>
    refine Agree.bind hr fun u v huv => .ok (bracketed_related _ ?_)
    have symbol : " " ++ (comparisonSymbol op).2 ++ " " ≠ "" ∧
        Neutral (" " ++ (comparisonSymbol op).2 ++ " ") := by cases op <;> decide
    have values := C.between hst symbol.1 symbol.2 huv
    simpa only [String.append_assoc] using values

/-! ### Parts of queries -/

/-- A selected field that is matched: its expression is, and its names are of the class. -/
structure MatchesField (C : Correspondence) (N : String → Prop) (w w' : Writer) (f : Field) :
    Prop where
  expr : Matches C w w' (.expr f.expr)
  path : ∀ s ∈ f.expr.path?.toList, N s
  label : ∀ s ∈ f.label.toList, N s

/-- A join that is matched: its parts are, and its names are of the class. -/
structure MatchesJoin (C : Correspondence) (N : String → Prop) (w w' : Writer) (j : Join) :
    Prop where
  target : ∀ q, j.target.query? = some q → Matches C w w' (.query q)
  condition : ∀ e, j.condition.bind Condition.predicate? = some e → Matches C w w' (.expr e)
  names : ∀ s ∈ j.names, N s

/-- A query that is matched, clause by clause. -/
structure MatchesQuery (C : Correspondence) (N : String → Prop) (w w' : Writer) (q : Query) :
    Prop where
  fields : ∀ f ∈ q.fields, MatchesField C N w w' f
  orders : ∀ o ∈ q.order, Matches C w w' (.expr o.expr)
  joins : ∀ j ∈ q.joins, MatchesJoin C N w w' j
  predicate : ∀ e, q.predicate? = some e → Matches C w w' (.expr e)
  collection : ∀ s ∈ q.collection.toList, N s
  label : ∀ s ∈ q.label.toList, N s

/-- Groupings are expressions. -/
theorem groups_related {fs : List Field} (h : ∀ f ∈ fs, Matches C w w' (.expr f.expr)) :
    Agree (List.Forall₂ C.Rel) (w.groups fs)
      (w'.groups (fs.map (Field.mapConstants C.constant))) := by
  induction fs with
  | nil => rw [List.map_nil, groups, groups]; exact .ok .nil
  | cons f fs ih =>
    rw [List.forall_mem_cons] at h
    rw [List.map_cons, groups, groups, Field.mapConstants]
    exact Agree.bind h.1 fun _ _ hst => (ih h.2).bind fun _ _ hrest => .ok (.cons hst hrest)

/-- Orderings have a neutral word behind the expression. -/
theorem orders_related {os : List Order} (h : ∀ o ∈ os, Matches C w w' (.expr o.expr)) :
    Agree (List.Forall₂ C.Rel) (w.orders os)
      (w'.orders (os.map (Order.mapConstants C.constant))) := by
  induction os with
  | nil => rw [List.map_nil, orders, orders]; exact .ok .nil
  | cons o os ih =>
    rw [List.forall_mem_cons] at h
    rw [List.map_cons, orders, orders, Order.mapConstants]
    refine Agree.bind h.1 fun s t hst => (ih h.2).bind fun _ _ hrest => .ok (.cons ?_ hrest)
    have direction : Neutral (directionWord o.direction) := by cases o.direction <;> decide
    exact C.behind (C.behind hst (u := " ") (by decide)) direction

/-- The condition corresponds if the merged predicate does. -/
theorem filter_related {q : Query} (h : ∀ e, q.predicate? = some e → Matches C w w' (.expr e)) :
    Agree C.Rel (w.filter q) (w'.filter (q.mapConstants C.constant)) := by
  have mapped := q.predicate?_mapConstants C.changes
  cases hp : q.predicate? with
  | none =>
    rw [hp] at mapped
    rw [filter_of_predicate?_none hp, filter_of_predicate?_none mapped]
    exact .ok (C.refl (by decide))
  | some e =>
    rw [hp] at mapped
    rw [filter_of_predicate? hp, filter_of_predicate? mapped]
    exact h e hp

/-- A clause that is left out by one writer is left out by the other. -/
theorem clause_related {keyword s t : String} (hk : Neutral keyword) (h : C.Rel s t) :
    List.Forall₂ C.Rel (clause keyword s) (clause keyword t) := by
  unfold clause
  rw [C.isEmpty h]
  split
  · exact .nil
  · exact .cons (C.before hk h) .nil

theorem listed_related {keyword : String} (hk : Neutral keyword) (b : Bool) {ss ts : List String}
    (h : List.Forall₂ C.Rel ss ts) :
    List.Forall₂ C.Rel (if b then [] else [keyword ++ joinWith ", " ss])
      (if b then [] else [keyword ++ joinWith ", " ts]) := by
  split
  · exact .nil
  · exact .cons (C.before hk (C.joinWith (by decide) (by decide) h)) .nil

theorem neutral_limit (q : Query) : Neutral (limit q) := by
  have word : Neutral " LIMIT " := by decide
  have number (n : Nat) := textClass_neutral.natText n
  unfold limit
  split
  · exact textClass_neutral.append (textClass_neutral.append
      (textClass_neutral.append word (number _)) (by decide)) (number _)
  · exact textClass_neutral.append word (number _)
  · decide

/-- Limits are numbers of the query and no constants in it. -/
theorem limit_mapConstants (q : Query) (g : Json → Json) :
    limit (q.mapConstants g) = limit q := by
  simp [limit]

/-- Both name one entity, or fail alike. -/
theorem entity_self {q : Query} (h : ∀ s ∈ q.collection.toList, N s) :
    Agree (fun a b => a = b ∧ N a) q.entity q.entity := by
  refine Agree.self_iff.2 fun entity he => ?_
  unfold Query.entity at he
  split at he
  · next hc =>
    cases he
    exact h entity (by simp [hc])
  · cases he

/-- What goes by a label, or else by a name, goes by a name of the class. -/
theorem mem_getD {label : Option String} (h : ∀ s ∈ label.toList, N s) {s : String} (hs : N s) :
    N (label.getD s) := by
  cases label with
  | none => exact hs
  | some label => exact h label (by simp)

namespace NameTwins

variable (hw : NameTwins C N w w')

include hw

/-! ### Labels and fields -/

/-- A label begins with a blank, so it may stand behind a literal. -/
theorem labelled {label s t : String} (h : N label) (hst : C.Rel s t) :
    C.Firm (s ++ w.labelled label) (t ++ w'.labelled label) := by
  have keyword : (if w'.settings.useAliasKeyword then " AS " else " ") ≠ "" ∧
      Neutral (if w'.settings.useAliasKeyword then " AS " else " ") := by split <;> decide
  unfold Writer.labelled
  rw [hw.useAliasKeyword, ← String.append_assoc, ← String.append_assoc]
  exact C.firm_append (C.closed hst keyword.1 keyword.2) (hw.name h)

theorem labelled? {label? : Option String} (h : ∀ s ∈ label?.toList, N s) {s t : String}
    (hst : C.Rel s t) : C.Rel (s ++ w.labelled? label?) (t ++ w'.labelled? label?) := by
  cases label? with
  | none => exact C.behind hst (by decide : Neutral "")
  | some label => exact C.rel (hw.labelled (h label (by simp)) hst)

/-- A text that stays firm takes a label behind it. -/
theorem labelled?_firm {label? : Option String} (h : ∀ s ∈ label?.toList, N s) {s t : String}
    (hst : C.Firm s t) : C.Firm (s ++ w.labelled? label?) (t ++ w'.labelled? label?) := by
  cases label? with
  | none => exact C.firm_append hst (C.neutral (by decide : Neutral ""))
  | some label => exact hw.labelled (h label (by simp)) (C.rel hst)

theorem fieldLabel?_mapConstants (f : Field) :
    w'.fieldLabel? (f.mapConstants C.constant) = w.fieldLabel? f := by
  obtain ⟨e, label⟩ := f
  cases label <;> cases e <;> simp [fieldLabel?, Field.mapConstants, hw.forceAlias]

/-- The label of a field is its own or the end of its path. -/
theorem mem_fieldLabel? {f : Field} (path : ∀ s ∈ f.expr.path?.toList, N s)
    (label : ∀ s ∈ f.label.toList, N s) : ∀ s ∈ (w.fieldLabel? f).toList, N s := by
  obtain ⟨e, l⟩ := f
  cases l with
  | some l => exact label
  | none =>
    cases e with
    | member p =>
      simp only [fieldLabel?]
      split
      · exact List.forall_mem_singleton.2 (hw.names.afterLast (path p (by simp [Expr.path?])))
      · exact List.forall_mem_nil _
    | _ => exact List.forall_mem_nil _

/-- Fields are qualified and labelled alike. -/
theorem fields_related {qualifier : String} (hq : N qualifier) {fs : List Field}
    (h : ∀ f ∈ fs, MatchesField C N w w' f) :
    Agree (List.Forall₂ C.Rel) (w.fields qualifier fs)
      (w'.fields qualifier (fs.map (Field.mapConstants C.constant))) := by
  induction fs with
  | nil => rw [List.map_nil, fields, fields]; exact .ok .nil
  | cons f fs ih =>
    rw [List.forall_mem_cons] at h
    have names := hw.mem_fieldLabel? h.1.path h.1.label
    -- with or without an expression, the label is written behind and the other fields follow
    have row {s t : String} (hst : C.Rel s t) :
        Agree (List.Forall₂ C.Rel)
          (do
            let rest ← w.fields qualifier fs
            return (s ++ w.labelled? (w.fieldLabel? f)) :: rest)
          (do
            let rest ← w'.fields qualifier (fs.map (Field.mapConstants C.constant))
            return (t ++ w'.labelled? (w.fieldLabel? f)) :: rest) :=
      (ih h.2).bind fun _ _ hrest => .ok (.cons (hw.labelled? names hst) hrest)
    have own : ownMember? (f.mapConstants C.constant).expr = ownMember? f.expr := by
      cases he : f.expr <;> simp [Field.mapConstants, he, ownMember?]
    rw [List.map_cons, fields, fields, hw.fieldLabel?_mapConstants, own]
    cases hm : ownMember? f.expr with
    | none => exact Agree.bind h.1.expr fun _ _ hst => row hst
    | some path =>
      have hp : N path := h.1.path path (by simp [eq_member_of_ownMember? hm, Expr.path?])
      exact row (C.rel (hw.name (hw.names.qualified hq hp)))

/-! ### Joins -/

/-- A column of a join is a name behind the name of its side. -/
theorem fieldRef_related {side : String} (hs : N side) {r : FieldRef} (h : ∀ s ∈ r.names, N s) :
    C.Firm (w.fieldRef side r) (w'.fieldRef side r) := by
  have field : N r.field := h _ List.mem_cons_self
  have owner : N (r.entity.getD side) :=
    mem_getD (fun s hs => h s (List.mem_cons_of_mem _ hs)) hs
  exact hw.name (hw.names.qualified owner field)

/-- Pairs of columns have neutral text between them. -/
theorem fieldPairs_related {leftSide rightSide : String} (hl : N leftSide) (hr : N rightSide)
    {left right : List FieldRef} (h : ∀ s ∈ (Condition.fields left right).names, N s) :
    C.Rel (w.fieldPairs leftSide rightSide left right)
      (w'.fieldPairs leftSide rightSide left right) := by
  have names {f : FieldRef} (hf : f ∈ left ++ right) : ∀ s ∈ f.names, N s := fun s hs =>
    h s (List.mem_flatMap.2 ⟨f, hf, hs⟩)
  unfold fieldPairs
  refine C.joinWith (by decide) (by decide) (List.forall₂_map_left_iff.2 ?_)
  refine List.forall₂_map_right_iff.2 (List.forall₂_same.2 fun ⟨l, r⟩ hlr => ?_)
  have first := hw.fieldRef_related hl (names (List.mem_append_left _ (List.of_mem_zip hlr).1))
  have second := hw.fieldRef_related hr (names (List.mem_append_right _ (List.of_mem_zip hlr).2))
  exact C.between (C.rel first) (by decide) (by decide) (C.rel second)

/-- The condition of a join is missing for both, pairs, or a predicate. -/
theorem condition_related {qualifier joined : String} (hq : N qualifier) (hj : N joined)
    {c? : Option Condition} (names : ∀ s ∈ c?.toList.flatMap Condition.names, N s)
    (h : ∀ e, c?.bind Condition.predicate? = some e → Matches C w w' (.expr e)) :
    Agree C.Rel (w.condition qualifier joined c?)
      (w'.condition qualifier joined (c?.map (Condition.mapConstants C.constant))) := by
  rcases c? with - | ⟨left, right⟩ | e
  · rw [Option.map_none, condition, condition]
    exact .ok (C.refl (by decide))
  · rw [Option.map_some, Condition.mapConstants, condition, condition]
    split
    · exact .error _
    · have named : ∀ s ∈ (Condition.fields left right).names, N s := fun s hs =>
        names s (by simpa using hs)
      exact .ok (C.before (by decide) (hw.fieldPairs_related hq hj named))
  · rw [Option.map_some, Condition.mapConstants, condition, condition]
    exact Agree.bind (h e rfl) fun _ _ hst => .ok (C.before (by decide) hst)

/-- What is joined, and the name that it goes by without a label. -/
theorem target_related {label : Option String} (hl : ∀ s ∈ label.toList, N s) {t : Target}
    (names : ∀ s ∈ t.name?.toList, N s) (h : ∀ q, t.query? = some q → Matches C w w' (.query q)) :
    Agree (fun a b => C.Firm a.1 b.1 ∧ a.2 = b.2 ∧ N a.2) (w.target label t)
      (w'.target label (t.mapConstants C.constant)) := by
  cases t with
  | entity name =>
    have hn : N name := names name (by simp [Target.name?])
    rw [Target.mapConstants_entity, target, target]
    exact .ok ⟨hw.name hn, rfl, hn⟩
  | query q =>
    rw [Target.mapConstants_query]
    cases label <;> rw [target, target]
    case none => exact .error _
    case some label =>
      exact Agree.bind (h q rfl) fun s t hst => .ok ⟨C.brackets hst, rfl, hl label (by simp)⟩

/-- A join has its words, a target and a condition. -/
theorem joins_related {qualifier : String} (hq : N qualifier) {js : List Join}
    (h : ∀ j ∈ js, MatchesJoin C N w w' j) :
    Agree (List.Forall₂ C.Rel) (w.joins qualifier js)
      (w'.joins qualifier (js.map (Join.mapConstants C.constant))) := by
  induction js with
  | nil => rw [List.map_nil, joins, joins]; exact .ok .nil
  | cons j js ih =>
    rw [List.forall_mem_cons] at h
    obtain ⟨⟨target, condition, names⟩, hjs⟩ := h
    simp only [Join.names, List.mem_append, or_imp, forall_and] at names
    obtain ⟨⟨name, label⟩, on⟩ := names
    rw [List.map_cons, joins, joins, Join.mapConstants]
    refine (hw.target_related label name target).bind fun written written' same => ?_
    obtain ⟨s, given⟩ := written
    obtain ⟨t, given'⟩ := written'
    obtain ⟨hst, hd, named⟩ := same
    cases hd
    refine (hw.condition_related hq (mem_getD label named) on condition).bind fun u v huv =>
      (ih hjs).bind fun _ _ hrest => .ok (.cons ?_ hrest)
    have words : Neutral (joinWords j.kind ++ " ") := by cases j.kind <;> decide
    have joined := C.firm_append (C.neutral words) hst
    exact C.append (hw.labelled?_firm label joined) huv

/-! ### Selects -/

/-- The clauses of two selects correspond one by one. -/
theorem selectParts_related {q : Query} (hq : MatchesQuery C N w w' q)
    {entity s t u v : String} (he : N entity) (projection : C.Rel s t) (condition : C.Rel u v)
    {joined joined' grouped grouped' ordered ordered' : List String}
    (hj : List.Forall₂ C.Rel joined joined') (hg : List.Forall₂ C.Rel grouped grouped')
    (ho : List.Forall₂ C.Rel ordered ordered') :
    List.Forall₂ C.Rel (w.selectParts q entity s joined u grouped ordered)
      (w'.selectParts (q.mapConstants C.constant) entity t joined' v grouped' ordered') := by
  have select : Neutral (if q.distinct then "SELECT DISTINCT " else "SELECT ") := by
    split <;> decide
  have source := hw.labelled? hq.label
    (C.before (u := "FROM ") (by decide) (C.rel (hw.name he)))
  unfold selectParts
  simp only [Query.distinct_mapConstants, Query.label_mapConstants, Query.group_mapConstants,
    Query.order_mapConstants, List.isEmpty_map]
  refine List.rel_append (List.rel_append (List.rel_append (List.rel_append ?_ hj) ?_) ?_) ?_
  · exact .cons (C.before select projection) (.cons source .nil)
  · exact clause_related (by decide) condition
  · exact listed_related (by decide) _ hg
  · exact listed_related (by decide) _ ho

/-- Both selects decide alike what to write, since that depends on no constant; then their clauses
correspond. -/
theorem matches_select {q : Query} (hq : MatchesQuery C N w w' q) :
    Agree C.Rel (w.select q) (w'.select (q.mapConstants C.constant)) := by
  have mapped := q.select_mapConstants C.constant
  cases hs : q.select with
  | none =>
    rw [hs] at mapped
    rw [select_of_none hs, select_of_none mapped]
    exact .error _
  | some selection =>
    rw [hs] at mapped
    rw [select_of_some hs, select_of_some mapped]
    simp only [Query.entity_mapConstants, Query.label_mapConstants, Query.joins_mapConstants,
      Query.group_mapConstants, Query.order_mapConstants, Query.fixed_mapConstants,
      List.isEmpty_map]
    refine (entity_self hq.collection).bind fun entity _ ⟨same, he⟩ => ?_
    subst same
    -- fields are qualified by the label, or by the entity where there is none
    have qualifier : N (q.label.getD entity) := mem_getD hq.label he
    have selected (f : Field) (hf : f ∈ selection) : MatchesField C N w w' f :=
      hq.fields f (List.mem_append_left _ (by rw [hs]; exact hf))
    have grouped (f : Field) (hf : f ∈ q.group) : Matches C w w' (.expr f.expr) :=
      (hq.fields f (List.mem_append_right _ hf)).expr
    refine (hw.fields_related qualifier selected).bind fun _ _ hcolumns =>
      (hw.joins_related qualifier hq.joins).bind fun _ _ hjoined =>
      (filter_related hq.predicate).bind fun _ _ hcondition =>
      (groups_related grouped).bind fun _ _ hgrouped =>
      (orders_related hq.orders).bind fun _ _ hordered => ?_
    have projection {ss ts : List String} (h : List.Forall₂ C.Rel ss ts) :
        C.Rel (if selection.isEmpty then "*" else joinWith ", " ss)
          (if selection.isEmpty then "*" else joinWith ", " ts) := by
      split
      · exact C.refl (by decide)
      · exact C.joinWith (by decide) (by decide) h
    have parts := C.joinWith (u := " ") (by decide) (by decide)
      (hw.selectParts_related hq he (projection hcolumns) hcondition hjoined hgrouped hordered)
    -- a fixed select is nested into another one
    split
    · have opens : Opens "SELECT * FROM (" := ⟨"SELECT * FROM ", by decide, by decide⟩
      have around := C.enclosed opens parts
      exact .ok (C.rel (hw.labelled qualifier (C.rel around)))
    · exact .ok parts

theorem matches_limitSelect {q : Query} (hq : MatchesQuery C N w w' q) :
    Agree C.Rel (w.limitSelect q) (w'.limitSelect (q.mapConstants C.constant)) := by
  rw [limitSelect, limitSelect, limit_mapConstants]
  exact (hw.matches_select hq).bind fun s t hst => .ok (C.behind hst (neutral_limit q))

/-- A nested query is refused by both or written by both. -/
theorem matches_subselect {q : Query} (hq : MatchesQuery C N w w' q) :
    Matches C w w' (.query q) := by
  rw [Matches, subselect, subselect, Query.kind_mapConstants, Query.hasPaging_mapConstants]
  cases q.kind with
  | error e => exact .error _
  | ok kind =>
    cases kind with
    | select =>
      dsimp only [ok_bind]
      split
      · exact hw.matches_limitSelect hq
      · exact hw.matches_select hq
    | _ => exact .error _

end NameTwins

/-! ### Trees -/

/-- A node that fits: its names are of the class, and its constant, if it is one, is written in
corresponding ways. -/
structure Fits (C : Correspondence) (N : String → Prop) (w w' : Writer) (n : Node) : Prop where
  names : ∀ s ∈ n.names, N s
  constant : ∀ v, n.constant? = some v → Agree C.Rel (w.constant v) (w'.constant (C.constant v))

/-- Without objects, names are all that has to fit. -/
theorem fits_of_objectless {n : Node} (names : ∀ s ∈ n.names, N s)
    (h : ∀ v, n.constant? = some v → v.hasObject = false) : Fits C N w w' n :=
  ⟨names, fun v hv => constant_related v (h v hv)⟩

/-- Composition makes nodes that fit. -/
theorem fits_predicate {q : Query} (h : Everywhere (Fits C N w w') (.query q)) {e : Expr}
    (he : q.predicate? = some e) : Everywhere (Fits C N w w') (.expr e) := by
  refine Query.everywhere_of_predicate? (fun b => ?_) (fun es => ?_) h he
  · refine fits_of_objectless (List.forall_mem_nil _) fun v hv => ?_
    cases hv
    rfl
  · exact fits_of_objectless (List.forall_mem_nil _) fun v hv => by cases hv

/-- The parts of a query that fits are matched if the nodes right inside it are. -/
theorem matchesQuery {q : Query} (fits : Everywhere (Fits C N w w') (.query q))
    (exprs : ∀ e ∈ q.exprs, Matches C w w' (.expr e))
    (targets : ∀ p ∈ q.targets, Matches C w w' (.query p))
    (predicate : ∀ e, q.predicate? = some e → Matches C w w' (.expr e)) :
    MatchesQuery C N w w' q := by
  have names := fits.here.names
  simp only [Node.names, List.mem_append, or_imp, forall_and] at names
  obtain ⟨⟨⟨collection, label⟩, labels⟩, joins⟩ := names
  refine ⟨fun f hf => ?_, fun o ho => exprs _ (Query.order_mem_exprs ho), fun j hj => ?_,
    predicate, collection, label⟩
  · have inside := Query.field_mem_exprs hf
    refine ⟨exprs _ inside, ((Everywhere.query_iff.1 fits).2.1 _ inside).here.names, ?_⟩
    intro s hs
    exact labels s (List.mem_filterMap.2 ⟨f, hf, Option.mem_toList.1 hs⟩)
  · refine ⟨fun p hp => targets p (Query.query_mem_targets hj hp),
      fun e he => exprs e (Query.predicate_mem_exprs hj he), fun s hs => ?_⟩
    exact joins s (List.mem_flatMap.2 ⟨j, hj, hs⟩)

/-- Two writers whose functions keep the correspondence as well. -/
structure Twins (C : Correspondence) (N : String → Prop) (w w' : Writer) : Prop
    extends NameTwins C N w w' where
  functions : w.functions = w'.functions
  keeps : w.functions.Keeps C

namespace Twins

variable (hw : Twins C N w w')

include hw

/-- **Every tree that fits** is written in corresponding ways. -/
theorem matches_everywhere (n : Node) (fits : Everywhere (Fits C N w w') n) : Matches C w w' n := by
  have part {m : Node} (hm : m ∈ n.parts) : Matches C w w' m := matches_everywhere m (fits.part hm)
  match n with
  | .query q =>
    -- the predicate of a query is smaller than the query, but it is no part of it
    refine hw.matches_subselect (matchesQuery fits ?_ ?_ ?_)
    · exact fun e he => part (List.mem_append_left _ (List.mem_map_of_mem he))
    · exact fun p hp => part (List.mem_append_right _ (List.mem_map_of_mem hp))
    · intro e he
      have := Query.sizeOf_lt_of_predicate? he
      exact matches_everywhere (.expr e) (fits_predicate fits he)
  | .expr (.lit v) =>
    rw [Matches, Expr.mapConstants_lit, expr, expr]
    exact fits.here.constant v rfl
  | .expr (.member path) =>
    rw [Matches, Expr.mapConstants_member, expr, expr]
    exact .ok (C.rel (hw.name (fits.here.names path (by simp [Node.names, Expr.path?]))))
  | .expr (.call name args) =>
    have args := operands_related fun e he => part (List.mem_map_of_mem he)
    rw [Matches, Expr.mapConstants_call, expr, expr, ← hw.functions]
    exact hw.keeps.render name args
  | .expr (.arith l op r) =>
    have left : Matches C w w' (.expr l) := part (by simp [Node.parts, Expr.parts])
    have right : Matches C w w' (.expr r) := part (by simp [Node.parts, Expr.parts])
    rw [Matches, Expr.mapConstants_arith, expr, expr, ← hw.functions]
    exact hw.keeps.render op.name (.cons ⟨rfl, left⟩ (.cons ⟨rfl, right⟩ .nil))
  | .expr (.subquery q) =>
    have query : Matches C w w' (.query q) := part (by simp [Node.parts])
    rw [Matches, Expr.mapConstants_subquery, expr, expr]
    exact Agree.bind query fun s t hst => .ok (C.rel (C.brackets hst))
  | .expr (.logical op es) =>
    have operands := nonEmptyTexts_related fun e he => part (List.mem_map_of_mem he)
    rw [Matches, Expr.mapConstants_logical, expr, expr]
    exact operands.bind fun ss ts hsts => .ok (connected_related op hsts)
  | .expr (.not e) =>
    have operand : Matches C w w' (.expr e) := part (by simp [Node.parts, Expr.parts])
    rw [Matches, Expr.mapConstants_not, expr, expr]
    exact Agree.bind operand fun s t hst => .ok (negated_related hst)
  | .expr (.compare l op r) =>
    have left : Matches C w w' (.expr l) := part (by simp [Node.parts, Expr.parts])
    have right : Matches C w w' (.expr r) := part (by simp [Node.parts, Expr.parts])
    have inside := (Everywhere.compare_iff.1 fits).2.2
    -- a subquery in a set is written without brackets, as a query and not as an expression
    refine matches_compare op left right (matches_set right fun q hq => ?_)
    rw [hq] at inside
    have size : sizeOf q < sizeOf r := by rw [hq, Expr.subquery.sizeOf_spec]; omega
    exact matches_everywhere (.query q) (inside.part (by simp [Node.parts]))
termination_by sizeOf n
decreasing_by
  · exact Node.sizeOf_lt_of_mem_parts hm
  · simp only [Node.expr.sizeOf_spec, Node.query.sizeOf_spec]; omega
  · simp only [Node.expr.sizeOf_spec, Node.query.sizeOf_spec, Expr.compare.sizeOf_spec]; omega

/-- The clauses of a query that fits everywhere are matched. -/
theorem matchesQuery_everywhere {q : Query} (fits : Everywhere (Fits C N w w') (.query q)) :
    MatchesQuery C N w w' q := by
  obtain ⟨-, exprs, targets⟩ := Everywhere.query_iff.1 fits
  exact matchesQuery fits (fun e he => hw.matches_everywhere (.expr e) (exprs e he))
    (fun p hp => hw.matches_everywhere (.query p) (targets p hp))
    fun e he => hw.matches_everywhere (.expr e) (fits_predicate fits he)

end Twins

end Sift.Sql.Writer
