import Sift.Proofs.Sql.Plain
import Sift.Proofs.Sql.Success

/-!
# Statements that are written

A query has a statement exactly if it is well formed, at every depth: it is of one kind and about an
entity, its calls are of known functions with as many arguments as these take, and whatever it nests
is a well-formed select.

* `Node.Good`, `Query.Good`: well-formed nodes and queries.
* `Writer.written_iff`: which expressions and nested selects are written.
* `statement_succeeds_iff`: which queries have a statement.
-/

namespace Sift

open Text Sql

/-- A node that can be written: a call is of a known function, in any letter case, with as many
arguments as it takes, and a query is a select from an entity. -/
def Node.Good : Node → Prop
  | .expr (.call name args) => ∃ arity,
      FunctionTable.arities.lookup (asciiLower name) = some arity ∧ arity.Admits args.length
  | .expr _ => True
  | .query q => q.kinds = [.select] ∧ q.collection.isSome ∧ ∀ j ∈ q.joins, j.Good

namespace Query

/-- Predicates that can be written, the one of the query and the one put aside. -/
def GoodPredicates (q : Query) : Prop :=
  (∀ e, q.filter = some e → Everywhere Node.Good (.expr e)) ∧
    ∀ e, q.prepared = some e → Everywhere Node.Good (.expr e)

/-- A query that can be written as one of a kind. -/
def GoodAs (q : Query) : Kind → Prop
  | .select => Everywhere Node.Good (.query q)
  | .insert => ∃ values, q.insert = some values ∧ values ≠ []
  | .update => (∃ values, q.update = some values ∧ values ≠ []) ∧ q.GoodPredicates
  | .delete => q.GoodPredicates

/-- A query that can be written: it is of one kind, about an entity, and good as such. -/
def Good (q : Query) : Prop := ∃ kind, q.kinds = [kind] ∧ q.collection.isSome ∧ q.GoodAs kind

/-- A well-formed query of one kind is about an entity and has what that kind asks for. -/
theorem good_iff {q : Query} {kind : Kind} (h : q.kinds = [kind]) :
    q.Good ↔ q.collection.isSome ∧ q.GoodAs kind := by
  simp [Good, h]

end Query

end Sift

namespace Sift.Sql

open Text

namespace Writer

variable {w : Writer}

/-- Whether a node is written; a query, as a nested select. -/
def Written (w : Writer) : Node → Prop
  | .expr e => Succeeds (w.expr e)
  | .query q => Succeeds (w.subselect q)

/-- The condition is written just where the predicates that it is merged from are well formed. -/
theorem succeeds_filter_iff_good {q : Query}
    (predicate : ∀ e, q.predicate? = some e →
      (Succeeds (w.expr e) ↔ Everywhere Node.Good (.expr e))) :
    Succeeds (w.filter q) ↔ q.GoodPredicates := by
  rw [succeeds_filter, forall₂_congr predicate]
  exact q.everywhere_predicate?_iff (fun _ => trivial) (fun _ => trivial)

/-- A nested select is written exactly if it is good, where that is so of all its parts. -/
theorem succeeds_subselect_iff_good {q : Query}
    (exprs : ∀ e ∈ q.exprs, (Succeeds (w.expr e) ↔ Everywhere Node.Good (.expr e)))
    (targets : ∀ p ∈ q.targets, (Succeeds (w.subselect p) ↔ Everywhere Node.Good (.query p)))
    (predicate : ∀ e, q.predicate? = some e →
      (Succeeds (w.expr e) ↔ Everywhere Node.Good (.expr e))) :
    Succeeds (w.subselect q) ↔ Everywhere Node.Good (.query q) := by
  have fields : (∀ f ∈ q.fields, Succeeds (w.expr f.expr)) ↔
      ∀ f ∈ q.fields, Everywhere Node.Good (.expr f.expr) :=
    forall₂_congr fun _ hf => exprs _ (Query.field_mem_exprs hf)
  have orders : (∀ o ∈ q.order, Succeeds (w.expr o.expr)) ↔
      ∀ o ∈ q.order, Everywhere Node.Good (.expr o.expr) :=
    forall₂_congr fun _ ho => exprs _ (Query.order_mem_exprs ho)
  have joins : (∀ j ∈ q.joins, w.WritesJoin j) ↔ (∀ j ∈ q.joins, j.Good) ∧
      (∀ j ∈ q.joins, ∀ p, j.target.query? = some p → Everywhere Node.Good (.query p)) ∧
      ∀ j ∈ q.joins, ∀ e, j.condition.bind Condition.predicate? = some e →
        Everywhere Node.Good (.expr e) := by
    -- what a join needs of itself is apart from what its query and its predicate need
    rw [← forall₂_and, ← forall₂_and]
    refine forall₂_congr fun j hj => ⟨fun h => ⟨h.good, fun p hp => ?_, fun e he => ?_⟩,
      fun h => ⟨h.1, fun p hp => ?_, fun e he => ?_⟩⟩
    · exact (targets p (Query.query_mem_targets hj hp)).1 (h.target p hp)
    · exact (exprs e (Query.predicate_mem_exprs hj he)).1 (h.predicate e he)
    · exact (targets p (Query.query_mem_targets hj hp)).2 (h.2.1 p hp)
    · exact (exprs e (Query.predicate_mem_exprs hj he)).2 (h.2.2 e he)
  rw [succeeds_subselect, Everywhere.query_iff, Query.forall_mem_exprs, Query.forall_mem_targets,
    Node.Good]
  by_cases kinds : q.kinds = [.select]
  · have select : q.select.isSome := Query.select_mem_kinds_iff.1 (by simp [kinds])
    rw [succeeds_select select, fields, orders, joins, succeeds_filter_iff_good predicate,
      Query.GoodPredicates]
    tauto
  · exact iff_of_false (fun h => kinds h.1) fun h => kinds h.1.1

/-- Merging two conditions brings no object into them. -/
theorem objectless_predicate {q : Query} (h : Everywhere Node.Objectless (.query q)) {e : Expr}
    (he : q.predicate? = some e) : Everywhere Node.Objectless (.expr e) := by
  refine Query.everywhere_of_predicate? (fun b => ?_) (fun es => ?_) h he
  · simp [Node.Objectless, Node.constants, Expr.literal?, Json.hasObject]
  · simp [Node.Objectless, Node.constants, Expr.literal?]

/-- **A tree is written exactly if it is good** everywhere, by the built-in functions and if no
constant is an object. -/
theorem written_iff (hw : w.functions = .standard) (n : Node)
    (objectless : Everywhere Node.Objectless n) : w.Written n ↔ Everywhere Node.Good n := by
  have part (m : Node) (hm : m ∈ n.parts) : w.Written m ↔ Everywhere Node.Good m :=
    written_iff hw m (objectless.part hm)
  match n with
  | .query q =>
    -- the predicate of a query is smaller than the query, but it is no part of it
    refine succeeds_subselect_iff_good (fun e he => ?_) (fun p hp => ?_) (fun e he => ?_)
    · exact part (.expr e) (List.mem_append_left _ (List.mem_map_of_mem he))
    · exact part (.query p) (List.mem_append_right _ (List.mem_map_of_mem hp))
    · have size := Query.sizeOf_lt_of_predicate? he
      exact written_iff hw (.expr e) (objectless_predicate objectless he)
  | .expr (.lit v) =>
    have plain : v.hasObject = false := objectless.here v (by simp [Node.constants, Expr.literal?])
    rw [Written, Everywhere.lit_iff, expr]
    exact iff_of_true (succeeds_constant v plain) trivial
  | .expr (.member path) =>
    rw [Written, Everywhere.member_iff, expr]
    exact iff_of_true (succeeds_ok _) trivial
  | .expr (.call name args) =>
    have inside := (Everywhere.call_iff.1 objectless).2
    have operands : (∀ e ∈ args, Succeeds (w.expr e)) ↔
        ∀ e ∈ args, Everywhere Node.Good (.expr e) :=
      forall₂_congr fun e he => part (.expr e) (List.mem_map_of_mem he)
    rw [Written, Everywhere.call_iff, expr, operands_eq_map,
      succeeds_render hw fun e he => (inside e he).here, operands, Node.Good]
  | .expr (.arith l op r) =>
    obtain ⟨-, left, right⟩ := Everywhere.arith_iff.1 objectless
    have writtenLeft : Succeeds (w.expr l) ↔ Everywhere Node.Good (.expr l) :=
      part (.expr l) (by simp [Node.parts, Expr.parts])
    have writtenRight : Succeeds (w.expr r) ↔ Everywhere Node.Good (.expr r) :=
      part (.expr r) (by simp [Node.parts, Expr.parts])
    rw [Written, Everywhere.arith_iff, succeeds_arith hw left.here right.here, writtenLeft,
      writtenRight]
    exact (and_iff_right trivial).symm
  | .expr (.subquery q) =>
    have query : Succeeds (w.subselect q) ↔ Everywhere Node.Good (.query q) :=
      part (.query q) (by simp [Node.parts])
    rw [Written, Everywhere.subquery_iff, expr, ← query]
    exact succeeds_bind_ok.trans (and_iff_right trivial).symm
  | .expr (.logical op es) =>
    have operands : (∀ e ∈ es, Succeeds (w.expr e)) ↔ ∀ e ∈ es, Everywhere Node.Good (.expr e) :=
      forall₂_congr fun e he => part (.expr e) (List.mem_map_of_mem he)
    rw [Written, Everywhere.logical_iff, expr, ← operands, ← succeeds_nonEmptyTexts]
    exact succeeds_bind_ok.trans (and_iff_right trivial).symm
  | .expr (.not e) =>
    have operand : Succeeds (w.expr e) ↔ Everywhere Node.Good (.expr e) :=
      part (.expr e) (by simp [Node.parts, Expr.parts])
    rw [Written, Everywhere.not_iff, expr, ← operand]
    exact succeeds_bind_ok.trans (and_iff_right trivial).symm
  | .expr (.compare l op r) =>
    have right := (Everywhere.compare_iff.1 objectless).2.2
    have writtenLeft : Succeeds (w.expr l) ↔ Everywhere Node.Good (.expr l) :=
      part (.expr l) (by simp [Node.parts, Expr.parts])
    have writtenRight : Succeeds (w.expr r) ↔ Everywhere Node.Good (.expr r) :=
      part (.expr r) (by simp [Node.parts, Expr.parts])
    rw [Written, Everywhere.compare_iff, succeeds_compare right.here, writtenLeft, writtenRight]
    exact (and_iff_right trivial).symm
termination_by sizeOf n
decreasing_by
  · exact Node.sizeOf_lt_of_mem_parts hm
  · simp only [Node.expr.sizeOf_spec, Node.query.sizeOf_spec]; omega

end Writer

/-- **A statement is written exactly if the query is good**: with the built-in functions, under any
settings, if no constant of the query is an object. -/
theorem statement_succeeds_iff (settings : Settings) {q : Query}
    (objectless : Everywhere Node.Objectless (.query q)) :
    Succeeds ((Formatter.ofSettings settings).statement q) ↔ q.Good := by
  set f := Formatter.ofSettings settings
  have standard : f.writer.functions = .standard := rfl
  have condition : Succeeds (f.writer.filter q) ↔ q.GoodPredicates :=
    Writer.succeeds_filter_iff_good fun e he =>
      Writer.written_iff standard (.expr e) (Writer.objectless_predicate objectless he)
  cases hk : q.kind with
  | error e =>
    simp [Formatter.statement, hk, Query.Good, Query.kinds_ne_of_error hk]
  | ok kind =>
    have kinds := Query.kind_eq_ok_iff.1 hk
    rw [Query.good_iff kinds]
    cases kind with
    | select =>
      have nested : Succeeds (f.writer.subselect q) ↔ Everywhere Node.Good (.query q) :=
        Writer.written_iff standard (.query q) objectless
      rw [Formatter.succeeds_statement_select hk, nested]
      exact (and_iff_right_of_imp fun h => h.here.2.1).symm
    | insert =>
      have given : q.insert.isSome :=
        Query.insert_mem_kinds_iff.1 (by rw [kinds]; exact List.mem_singleton_self _)
      obtain ⟨values, hv⟩ := Option.isSome_iff_exists.1 given
      have written : f.statement q = f.insert q := by
        rw [Formatter.statement, hk, ok_bind]
      rw [written, Formatter.succeeds_insert hv (objectless.here.values (.inl hv))]
      simp [Query.GoodAs, hv]
    | update =>
      have given : q.update.isSome :=
        Query.update_mem_kinds_iff.1 (by rw [kinds]; exact List.mem_singleton_self _)
      obtain ⟨values, hv⟩ := Option.isSome_iff_exists.1 given
      have written : f.statement q = f.update q := by
        rw [Formatter.statement, hk, ok_bind]
      rw [written, Formatter.succeeds_update hv (objectless.here.values (.inr hv)), condition]
      simp [Query.GoodAs, hv]
    | delete =>
      have delete : q.delete :=
        Query.delete_mem_kinds_iff.1 (by rw [kinds]; exact List.mem_singleton_self _)
      have written : f.statement q = f.delete q := by
        rw [Formatter.statement, hk, ok_bind]
      rw [written, Formatter.succeeds_delete delete, condition]
      exact Iff.rfl

/-- Votes on some entries. -/
def votes (args : List Expr) : Query :=
  { Query.empty with
    collection := some "votes"
    select := some []
    filter := some (.call "startsWith" args) }

/-- Users with a vote on some entries. -/
def voters (args : List Expr) : Query :=
  { Query.empty with
    collection := some "users"
    select := some [⟨.call "Lower" [.member "name"], some "name"⟩]
    joins := [⟨.query (votes args), some "v", .inner,
      some (.fields [⟨none, "id"⟩] [⟨none, "user"⟩])⟩] }

/-- What holds everywhere in the query holds of it, of the nested one, and of the expressions of
both. -/
theorem everywhere_voters_iff {P : Node → Prop} {args : List Expr} :
    Everywhere P (.query (voters args)) ↔ P (.query (voters args)) ∧
      Everywhere P (.expr (.call "Lower" [.member "name"])) ∧ P (.query (votes args)) ∧
      Everywhere P (.expr (.call "startsWith" args)) := by
  have exprs : (voters args).exprs = [.call "Lower" [.member "name"]] := rfl
  have targets : (voters args).targets = [votes args] := rfl
  have nestedExprs : (votes args).exprs = [.call "startsWith" args] := rfl
  have nestedTargets : (votes args).targets = [] := rfl
  rw [Everywhere.query_iff, exprs, targets, List.forall_mem_singleton, List.forall_mem_singleton,
    Everywhere.query_iff, nestedExprs, nestedTargets, List.forall_mem_singleton,
    and_iff_left (List.forall_mem_nil _)]

theorem objectless_voters {args : List Expr}
    (h : ∀ e ∈ args, Everywhere Node.Objectless (.expr e)) :
    Everywhere Node.Objectless (.query (voters args)) := by
  have plain {n : Node} (h : n.constants = []) : n.Objectless := fun v hv => by simp [h] at hv
  refine everywhere_voters_iff.2 ⟨plain rfl, ?_, plain rfl, Everywhere.call_iff.2 ⟨plain rfl, h⟩⟩
  exact Everywhere.call_iff.2 ⟨plain rfl,
    List.forall_mem_singleton.2 (Everywhere.member_iff.2 (plain rfl))⟩

/-- The query is well formed just with the two arguments that the call inside asks for. -/
theorem good_voters_iff {args : List Expr} :
    (voters args).Good ↔ args.length = 2 ∧ ∀ e ∈ args, Everywhere Node.Good (.expr e) := by
  have outer : (Node.query (voters args)).Good := by
    refine ⟨rfl, rfl, List.forall_mem_singleton.2 ⟨fun _ => rfl, fun left right h => ?_⟩⟩
    cases h
    exact ⟨rfl, List.cons_ne_nil _ _⟩
  have inner : (Node.query (votes args)).Good := ⟨rfl, rfl, List.forall_mem_nil _⟩
  have lower : FunctionTable.arities.lookup (asciiLower "Lower") = some (.exactly 1) := by decide
  have startsWith :
    FunctionTable.arities.lookup (asciiLower "startsWith") = some (.exactly 2) := by decide
  have entity : (voters args).collection.isSome := rfl
  rw [Query.good_iff (show (voters args).kinds = [.select] from rfl), and_iff_right entity,
    Query.GoodAs, everywhere_voters_iff, and_iff_right outer, and_iff_right inner,
    Everywhere.call_iff, Everywhere.call_iff]
  simp [Node.Good, lower, startsWith, Arity.Admits]

/-- Voters are selected if the nested select calls its function with two arguments, not with one. -/
theorem voters_succeeds :
    Everywhere Node.Objectless (.query (voters [.member "title", .lit (.str "A")])) ∧
      Succeeds ((Formatter.ofSettings .mysql).statement
        (voters [.member "title", .lit (.str "A")])) ∧
      Everywhere Node.Objectless (.query (voters [.member "title"])) ∧
      ¬ Succeeds ((Formatter.ofSettings .mysql).statement (voters [.member "title"])) := by
  have two : Everywhere Node.Objectless (.query (voters [.member "title", .lit (.str "A")])) :=
    objectless_voters (by simp [Node.Objectless, Node.constants, Expr.literal?, Json.hasObject])
  have one : Everywhere Node.Objectless (.query (voters [.member "title"])) :=
    objectless_voters (by simp [Node.Objectless, Node.constants, Expr.literal?])
  refine ⟨two, (statement_succeeds_iff .mysql two).2 ?_, one, fun h => ?_⟩
  · exact good_voters_iff.2 ⟨rfl, by simp [Node.Good]⟩
  · have good := good_voters_iff.1 ((statement_succeeds_iff .mysql one).1 h)
    exact absurd good.1 (by decide)

end Sift.Sql
