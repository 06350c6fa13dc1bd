import Sift.Expr.Fold

/-!
# Building queries

Queries built step by step. Choosing a statement kind drops the others, so a query built here has at
most one.

* `Query.restrict`, `Query.prepare`: narrowing the predicate, and putting it aside.
* `Pending`: a predicate being built on one operand. Modifiers such as `Pending.getYear` change the
  operand, and terminals such as `Pending.equal` close the predicate.
* `Query.addJoin`, `Query.joinQuery`: joins.
-/

namespace Sift

namespace Query

/-- The query of no kind, all else kept. -/
def clearKind (q : Query) : Query :=
  { q with select := none, insert := none, update := none, delete := false }

/-- The entity that the query is about. -/
def onEntity (q : Query) (name : String) : Query := { q with collection := some name }

/-- The label of the query. -/
def labelledAs (q : Query) (label : String) : Query := { q with label := some label }

/-- A select statement of fields; of every column if there are none. -/
def selecting (q : Query) (fields : List Field) : Query :=
  { q.clearKind with select := some fields }

/-- Columns with values, put one after another into those already there. -/
def putAll (values : List (String × Json)) (more : List (String × Json)) :
    List (String × Json) :=
  more.foldl (fun values column => Json.insert column.1 column.2 values) values

/-- An insert statement of columns with values; a repeated column takes the last value. -/
def inserting (q : Query) (values : List (String × Json)) : Query :=
  { q.clearKind with insert := some (putAll [] values) }

/-- An update statement on an entity, with nothing assigned yet. -/
def updating (q : Query) (name : String) : Query :=
  { q.clearKind with collection := some name, update := some [] }

/-- Assignments of an update, added to those already made. -/
def assigning (q : Query) (values : List (String × Json)) : Query :=
  { q with update := some (putAll (q.update.getD []) values) }

/-- A delete statement on an entity. -/
def deleting (q : Query) (name : String) : Query :=
  { q.clearKind with collection := some name, delete := true }

/-- A predicate joined to another that may not be there. -/
def joinedTo (op : Connective) (existing : Option Expr) (e : Expr) : Expr :=
  match existing with
  | some d => Expr.connect op d e
  | none => e

/-- A further restriction: the predicate must hold as well. -/
def restrict (q : Query) (e : Expr) : Query := { q with filter := some (joinedTo .and q.filter e) }

/-- The predicate put aside: it is added to what is aside already, and the query starts a new
one. -/
def prepare (q : Query) : Query :=
  match q.filter with
  | some e => { q with filter := none, prepared := some (joinedTo .and q.prepared e) }
  | none => q

/-- Grouping by further fields. -/
def grouping (q : Query) (fields : List Field) : Query := { q with group := q.group ++ fields }

/-- Ordering by one field, in place of any other. -/
def orderedBy (q : Query) (e : Expr) (direction : Direction) : Query :=
  { q with order := [⟨e, direction⟩] }

/-- Ordering by further items. -/
def orderedThen (q : Query) (items : List Order) : Query := { q with order := q.order ++ items }

/-- A join on a condition. -/
def addJoin (q : Query) (target : Target) (label : Option String) (kind : JoinKind)
    (condition : Condition) : Query :=
  { q with joins := q.joins ++ [⟨target, label, kind, some condition⟩] }

/-- A join of a nested select: the label of the select becomes the label of the join, unless the
join has one of its own. -/
def joinQuery (q : Query) (nested : Query) (label : Option String) (condition : Condition) :
    Query :=
  q.addJoin (.query { nested with label := none }) (label <|> nested.label) .inner condition

end Query

/-- A field reference from a path: what stands before the last dot is the entity. -/
def FieldRef.ofPath (path : String) : FieldRef :=
  match Text.splitLast? '.' path.toList with
  | some (entity, field) => ⟨some (String.ofList entity), String.ofList field⟩
  | none => ⟨none, path⟩

/-- The path of a field reference. -/
def FieldRef.path (f : FieldRef) : String :=
  match f.entity with
  | some entity => entity ++ "." ++ f.field
  | none => f.field

namespace Field

/-- An aggregate of a field. -/
def aggregate (name : String) (f : Field) : Field := ⟨.call name [f.expr], none⟩

def count (f : Field) : Field := f.aggregate "count"

def min (f : Field) : Field := f.aggregate "min"

def max (f : Field) : Field := f.aggregate "max"

def avg (f : Field) : Field := f.aggregate "avg"

def sum (f : Field) : Field := f.aggregate "sum"

def length (f : Field) : Field := f.aggregate "length"

end Field

/-- A predicate being built: the query that it will join, how it joins the predicate there (or
replaces it), and the operand so far. -/
structure Pending where
  query : Query
  connective : Option Connective
  operand : Expr

namespace Pending

/-! ### Modifiers -/

/-- A function of the operand and further arguments. -/
def wrap (p : Pending) (name : String) (args : List Expr) : Pending :=
  { p with operand := .call name (p.operand :: args) }

def getYear (p : Pending) : Pending := p.wrap "year" []

def getMonth (p : Pending) : Pending := p.wrap "month" []

/-- The day of the month, not the date without its time. -/
def getDate (p : Pending) : Pending := p.wrap "day" []

def getHours (p : Pending) : Pending := p.wrap "hour" []

def getMinutes (p : Pending) : Pending := p.wrap "minute" []

def getSeconds (p : Pending) : Pending := p.wrap "second" []

def length (p : Pending) : Pending := p.wrap "length" []

def trim (p : Pending) : Pending := p.wrap "trim" []

def toLowerCase (p : Pending) : Pending := p.wrap "tolower" []

def toUpperCase (p : Pending) : Pending := p.wrap "toupper" []

def floor (p : Pending) : Pending := p.wrap "floor" []

def ceil (p : Pending) : Pending := p.wrap "ceiling" []

/-- The operand rounded to so many digits. -/
def round (p : Pending) (digits : UInt32) : Pending := p.wrap "round" [.lit (.int digits.toNat)]

/-- The bits that the operand and another number have in common. -/
def bitAnd (p : Pending) (e : Expr) : Pending := p.wrap "bit" [e]

/-- A part of the operand, from a position on, of some length or to the end. -/
def substring (p : Pending) (start : UInt64) (length : Option UInt64) : Pending :=
  p.wrap "substring" ((start :: length.toList).map fun n => .lit (.int n.toNat))

def indexOf (p : Pending) (search : Expr) : Pending := p.wrap "indexof" [search]

def concat (p : Pending) (e : Expr) : Pending := p.wrap "concat" [e]

/-- The operand, or something else where it is null. -/
def ifNull (p : Pending) (e : Expr) : Pending := p.wrap "ifnull" [e]

/-- Arithmetic on the operand. -/
def arithmetic (p : Pending) (op : Arith) (e : Expr) : Pending :=
  { p with operand := Expr.arithmetic p.operand op e }

def add (p : Pending) (e : Expr) : Pending := p.arithmetic .add e

def subtract (p : Pending) (e : Expr) : Pending := p.arithmetic .sub e

def multiply (p : Pending) (e : Expr) : Pending := p.arithmetic .mul e

def divide (p : Pending) (e : Expr) : Pending := p.arithmetic .div e

def modulo (p : Pending) (e : Expr) : Pending := p.arithmetic .mod e

/-! ### Terminals -/

/-- The query with a predicate, joined to the one it has or in its place. -/
def close (p : Pending) (predicate : Expr) : Query :=
  match p.connective with
  | some op => { p.query with filter := some (Query.joinedTo op p.query.filter predicate) }
  | none => { p.query with filter := some predicate }

/-- A comparison of the operand. -/
def compare (p : Pending) (op : Comparison) (e : Expr) : Query := p.close (.compare p.operand op e)

def equal (p : Pending) (e : Expr) : Query := p.compare .eq e

def notEqual (p : Pending) (e : Expr) : Query := p.compare .ne e

def greaterThan (p : Pending) (e : Expr) : Query := p.compare .gt e

def greaterOrEqual (p : Pending) (e : Expr) : Query := p.compare .ge e

def lowerThan (p : Pending) (e : Expr) : Query := p.compare .lt e

def lowerOrEqual (p : Pending) (e : Expr) : Query := p.compare .le e

/-- A range, ends included. -/
def between (p : Pending) (low high : Expr) : Query :=
  p.close (Expr.connect .and (.compare p.operand .ge low) (.compare p.operand .le high))

def inList (p : Pending) (values : List Json) : Query := p.close (p.operand.within values)

def notInList (p : Pending) (values : List Json) : Query := p.close (p.operand.without values)

def inQuery (p : Pending) (q : Query) : Query := p.compare .isIn (.subquery q)

def notInQuery (p : Pending) (q : Query) : Query := p.compare .notIn (.subquery q)

/-- A predicate function of the operand. -/
def test (p : Pending) (name : String) (e : Expr) : Query := p.close (.call name [p.operand, e])

def startsWith (p : Pending) (e : Expr) : Query := p.test "startswith" e

def endsWith (p : Pending) (e : Expr) : Query := p.test "endswith" e

def contains (p : Pending) (e : Expr) : Query := p.test "contains" e

end Pending

/-- A predicate on an expression, to replace the predicate of a query or to join it. -/
def Query.pending (q : Query) (connective : Option Connective) (operand : Expr) : Pending :=
  ⟨q, connective, operand⟩

end Sift
