import Sift.Error
import Sift.Expr.Basic
import Sift.Text.Case

/-!
# Resolving members and methods

Every member path and every method call of a text is resolved before its node is built, so that
members can be renamed or refused and methods vetoed.

* `Resolver.identity`: members and methods as they are.
* `Resolver.mapped`: members renamed by a table, strictly or not, and methods from a list.
-/

namespace Sift

/-- How members and methods are resolved. Either may be refused with an error of the resolver's own;
a method without a result is vetoed. -/
structure Resolver where
  member : String → Except Error Expr
  method : String → List Expr → Except Error (Option Expr)

namespace Resolver

/-- Members and methods as they are. -/
def identity : Resolver where
  member path := .ok (.member path)
  method name args := .ok (some (.call name args))

/-- A table of members and methods. Members outside the table are refused if it is strict;
methods outside the list, compared in lower case, are vetoed if there is one. -/
structure Table where
  members : List (String × String)
  strict : Bool
  methods : Option (List String)

/-- Members and methods by a table. -/
def mapped (table : Table) : Resolver where
  member path :=
    match table.members.lookup path with
    | some column => .ok (.member column)
    | none =>
      if table.strict then .error (.parse (.unknownMember path)) else .ok (.member path)
  method name args :=
    match table.methods with
    | some allowed =>
      if (allowed.map Text.lower).contains (Text.lower name) then .ok (some (.call name args))
      else .ok none
    | none => .ok (some (.call name args))

/-- A call, refused where the method is vetoed. -/
def call (r : Resolver) (name : String) (args : List Expr) : Except Error Expr := do
  match ← r.method name args with
  | some e => .ok e
  | none => .error (.parse (.unknownMethod name))

end Resolver

end Sift
