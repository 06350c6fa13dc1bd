import Sift.Object.Decode
import Sift.Sql.Writer

/-!
# Statements

Queries as SQL statements. An object constant is written as the expression it stands for, whose own
constants are parts of it, so writing ends.

* `Formatter`: settings and functions.
* `Formatter.statement`: the text of a query of any kind.
* `Formatter.expr`, `Formatter.constant`: the texts of an expression and of a constant.
-/

namespace Sift.Sql

open Text

/-- How statements are written: the settings and the functions. -/
structure Formatter where
  settings : Settings
  functions : FunctionTable

namespace Formatter

/-- The formatter of the settings, with the built-in functions. -/
def ofSettings (settings : Settings) : Formatter := ⟨settings, .standard⟩

/-- An object constant as the expression it stands for. The constants of that expression are
parts of the object, so an object met on the way is smaller. -/
def object (f : Formatter) (fields : List (String × Json)) : Except Error String := do
  let e ← decodeObject fields
  let inner (parts : List (String × Json)) : Except Error String :=
    if Json.sizeFields parts < Json.sizeFields fields then f.object parts
    else .error (.format .emptyObject)
  Writer.expr ⟨f.settings, f.functions, inner⟩ e
termination_by Json.sizeFields fields

/-- The walk of a formatter. -/
def writer (f : Formatter) : Writer := ⟨f.settings, f.functions, f.object⟩

/-- A name under the identifier template. -/
def name (f : Formatter) (s : String) : String := f.writer.name s

/-- The text of a constant. -/
def constant (f : Formatter) (v : Json) : Except Error String := f.writer.constant v

/-- The text of an expression. -/
def expr (f : Formatter) (e : Expr) : Except Error String := f.writer.expr e

/-- The text of the expression that a value stands for. -/
def predicateOf (f : Formatter) (v : Json) : Except Error String := do
  f.expr (← Expr.ofJson v)

/-- The texts of expressions, separated by commas. -/
def list (f : Formatter) (es : List Expr) : Except Error String :=
  Operand.list (f.writer.operands es)

/-- The text of a call. -/
def call (f : Formatter) (function : String) (args : List Expr) : Except Error String :=
  f.functions.render function (f.writer.operands args)

/-- A select statement without its limit. -/
def select (f : Formatter) (q : Query) : Except Error String := f.writer.select q

/-- A select statement with its limit. -/
def limitSelect (f : Formatter) (q : Query) : Except Error String := f.writer.limitSelect q

/-- The values of a statement that needs some. -/
def someValues (kind : Kind) (values : List (String × Json)) :
    Except Error (List (String × Json)) :=
  if values.isEmpty then .error (.format (.noValues kind)) else .ok values

/-- An insert statement: columns and values in the same order. -/
def insert (f : Formatter) (q : Query) : Except Error String :=
  match q.insert with
  | none => .error (.format (.notKind .insert))
  | some values => do
    let entity ← q.entity
    let values ← someValues .insert values
    let texts ← f.writer.constants (values.map Prod.snd)
    return "INSERT INTO " ++ f.name entity ++ "(" ++ joinWith ", " (values.map (f.name ·.1)) ++
      ") VALUES (" ++ joinWith ", " texts ++ ")"

/-- The condition of a statement, if it has a text. -/
def whereClause (f : Formatter) (q : Query) : Except Error String := do
  let condition ← f.writer.filter q
  return if condition.isEmpty then "" else " WHERE " ++ condition

/-- An update statement. -/
def update (f : Formatter) (q : Query) : Except Error String :=
  match q.update with
  | none => .error (.format (.notKind .update))
  | some values => do
    let entity ← q.entity
    let values ← someValues .update values
    let texts ← f.writer.constants (values.map Prod.snd)
    let assignments := (values.zip texts).map fun (column, text) => f.name column.1 ++ " = " ++ text
    return "UPDATE " ++ f.name entity ++ " SET " ++ joinWith ", " assignments ++
      (← f.whereClause q)

/-- A delete statement. -/
def delete (f : Formatter) (q : Query) : Except Error String :=
  if q.delete then do
    let entity ← q.entity
    return "DELETE FROM " ++ f.name entity ++ (← f.whereClause q)
  else .error (.format (.notKind .delete))

/-- The statement of a query, of whatever kind it is. -/
def statement (f : Formatter) (q : Query) : Except Error String := do
  match ← q.kind with
  | .select => if q.hasPaging then f.limitSelect q else f.select q
  | .insert => f.insert q
  | .update => f.update q
  | .delete => f.delete q

end Formatter

end Sift.Sql
