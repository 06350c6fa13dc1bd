import Sift.Error
import Sift.Expr.Basic

/-!
# Statement kinds

A query is of the kind whose clause is set. Exactly one of them has to be.

* `Query.kinds`: the kinds whose clauses are set.
* `Query.kind`: the one kind, or the fault.
-/

namespace Sift.Query

/-- The kinds whose clauses are set. -/
def kinds (q : Query) : List Kind :=
  (if q.select.isSome then [Kind.select] else []) ++
    (if q.insert.isSome then [Kind.insert] else []) ++
    (if q.update.isSome then [Kind.update] else []) ++
    (if q.delete then [Kind.delete] else [])

/-- The kind of a query. -/
def kind (q : Query) : Except Error Kind :=
  match q.kinds with
  | [k] => .ok k
  | [] => .error (.format .noKind)
  | ks => .error (.format (.manyKinds ks))

/-- Whether a number of rows is asked for. -/
def hasPaging (q : Query) : Bool := q.take.isSome

/-- The entity of a query. -/
def entity (q : Query) : Except Error String :=
  match q.collection with
  | some name => .ok name
  | none => .error (.format .noEntity)

end Sift.Query
