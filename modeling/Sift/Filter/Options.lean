import Sift.Filter.Sequence
import Sift.Object.Shape
import Sift.Query.Build

/-!
# Query options

The options of a request, each a text of its own, and the select query that they make. Blank options
count as missing.

* `Options.read`, `Options.toJson`: options in JSON.
* `Options.query`: the select query over an entity.
-/

namespace Sift.Filter

open Text

/-- The options of a request. -/
structure Options where
  filter : Option String := none
  select : Option String := none
  orderBy : Option String := none
  groupBy : Option String := none
  top : Option UInt64 := none
  skip : Option UInt64 := none
  deriving DecidableEq, Repr

namespace Options

/-- The options, in order. -/
def names : List String := ["$filter", "$select", "$orderby", "$groupby", "$top", "$skip"]

/-- One option stored. -/
def store (o : Options) (name : String) (v : Json) : Except Error Options :=
  match name with
  | "$filter" => do return { o with filter := ← decodeStr? v }
  | "$select" => do return { o with select := ← decodeStr? v }
  | "$orderby" => do return { o with orderBy := ← decodeStr? v }
  | "$groupby" => do return { o with groupBy := ← decodeStr? v }
  | "$top" => do return { o with top := ← decodeCount? v }
  | _ => do return { o with skip := ← decodeCount? v }

/-- The options of a JSON text. -/
def read : String → Except Error Options :=
  decodeText (.record names fun _ => .value) (decodeRecord names store {})

/-- Options in JSON, those that are set. -/
def toJson (o : Options) : Json :=
  .obj (present
    [("$filter", o.filter.map .str), ("$select", o.select.map .str),
     ("$orderby", o.orderBy.map .str), ("$groupby", o.groupBy.map .str),
     ("$top", o.top.map fun n => .int n.toNat), ("$skip", o.skip.map fun n => .int n.toNat)])

/-- An option without the white space around it, unless nothing is left. -/
def nonBlank? (option : Option String) : Option String :=
  (option.map fun s => trim s.toList).bind fun cs =>
    if cs.isEmpty then none else some (String.ofList cs)

/-- What an option yields, if it is not blank. -/
def parsed? {β : Type} (option : Option String)
    (parse : String → Resolver → Except Error (List β)) (resolver : Resolver) :
    Except Error (List β) :=
  match nonBlank? option with
  | some text => parse text resolver
  | none => .ok []

/-- The select query over an entity. A missing selection selects every column. -/
def query (o : Options) (entity : String) (resolver : Resolver) : Except Error Query := do
  let selection ← parsed? o.select parseSelection resolver
  let q := (Query.empty.onEntity entity).selecting selection
  let q ← match nonBlank? o.filter with
    | some text => do pure (q.restrict (← parse text resolver))
    | none => pure q
  let grouping ← parsed? o.groupBy parseGrouping resolver
  let ordering ← parsed? o.orderBy parseOrdering resolver
  return { (q.grouping grouping).orderedThen ordering with skip := o.skip, take := o.top }

end Options

end Sift.Filter
