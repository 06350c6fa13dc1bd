import Sift.Sql.Writer

/-!
# The clauses of select statements

The walk that writes a query decides by cases what to write. Here is what it writes in each case,
with the clauses of a select as a list of texts.

* `Writer.operands_eq_map`, `Writer.filter_of_predicate?`: arguments and conditions.
* `Writer.selectParts`: the parts of a select statement, of the texts of its clauses.
* `Writer.select_of_some`, `Writer.select_of_none`: a select statement, clause by clause.
-/

namespace Sift.Sql.Writer

open Text

variable {w : Writer}

/-- The arguments of a call are its operands with what is written of each. -/
theorem operands_eq_map (es : List Expr) : w.operands es = es.map fun e => ⟨e, w.expr e⟩ := by
  induction es with
  | nil => rw [operands, List.map_nil]
  | cons e es ih => rw [operands, ih, List.map_cons]

/-- Only a member is qualified as one. -/
theorem eq_member_of_ownMember? {e : Expr} {path : String} (h : ownMember? e = some path) :
    e = .member path := by
  unfold ownMember? at h
  split at h
  · split at h
    · cases h
    · cases h; rfl
  · cases h

/-- The condition is written as the merged predicate of the query. -/
theorem filter_of_predicate? {q : Query} {e : Expr} (h : q.predicate? = some e) :
    w.filter q = w.expr e := by
  rw [filter]
  split
  · next d hd =>
    rw [h] at hd
    cases hd
    rfl
  · next hd => rw [h] at hd; cases hd

/-- Without a predicate the condition has no text. -/
theorem filter_of_predicate?_none {q : Query} (h : q.predicate? = none) : w.filter q = .ok "" := by
  rw [filter]
  split
  · next d hd => rw [h] at hd; cases hd
  · rfl

/-- A query without a selection has no select statement. -/
theorem select_of_none {q : Query} (h : q.select = none) :
    w.select q = .error (.format (.notKind .select)) := by
  rw [select]
  split
  · rfl
  · next hs => rw [h] at hs; cases hs

/-- The parts of a select statement, in order, of the texts of its clauses. -/
def selectParts (w : Writer) (q : Query) (entity projection : String) (joined : List String)
    (condition : String) (grouped ordered : List String) : List String :=
  [(if q.distinct then "SELECT DISTINCT " else "SELECT ") ++ projection,
    "FROM " ++ w.name entity ++ w.labelled? q.label] ++
    joined ++ clause "WHERE " condition ++
    (if q.group.isEmpty then [] else ["GROUP BY " ++ joinWith ", " grouped]) ++
    (if q.order.isEmpty then [] else ["ORDER BY " ++ joinWith ", " ordered])

/-- The parts of a select are written in a fixed order, each by its own function, and then joined.
-/
theorem select_of_some {q : Query} {selection : List Field} (h : q.select = some selection) :
    w.select q = (do
      let entity ← q.entity
      let columns ← w.fields (q.label.getD entity) selection
      let joined ← w.joins (q.label.getD entity) q.joins
      let condition ← w.filter q
      let grouped ← w.groups q.group
      let ordered ← w.orders q.order
      let projection := if selection.isEmpty then "*" else joinWith ", " columns
      let sql := joinWith " " (w.selectParts q entity projection joined condition grouped ordered)
      return if q.fixed then "SELECT * FROM (" ++ sql ++ ")" ++ w.labelled (q.label.getD entity)
        else sql) := by
  rw [select]
  split
  · next hs => rw [h] at hs; cases hs
  · next fs hs =>
    rw [h] at hs
    cases hs
    rfl

end Sift.Sql.Writer
