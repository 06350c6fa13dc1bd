import Sift.Error
import Sift.Expr.Basic
import Sift.Sql.Literal
import Sift.Text.Case

/-!
# Functions in SQL

How calls are written. A renderer gets the arguments with their rendered texts and decides which of
them it needs and in what order their faults count; it refuses a wrong number of arguments first.
Names are looked up without regard to ASCII letter case.

* `Renderer`: what writes a call.
* `FunctionTable`: renderers by name, `FunctionTable.standard` the built-in ones.
* `FunctionTable.render`: the text of a call.
-/

namespace Sift.Sql

open Text Number

/-- An argument and its text, or the fault in it. -/
structure Operand where
  expr : Expr
  sql : Except Error String

/-- What writes a call of given arguments. -/
abbrev Renderer := List Operand → Except Error String

/-- The text of an argument that is a text constant. -/
def Operand.string? (a : Operand) : Option String :=
  match a.expr with
  | .lit (.str s) => some s
  | _ => none

/-- The 64-bit integer that an argument is, if it is a constant one. -/
def Operand.signed? (a : Operand) : Option Int :=
  match a.expr with
  | .lit v => v.signed?
  | _ => none

/-- The texts of arguments, separated by commas. -/
def Operand.list (args : List Operand) : Except Error String := do
  return joinWith ", " (← args.mapM Operand.sql)

namespace Renderer

/-- The fault of a wrong number of arguments. -/
def refuse (name : String) (arity : Arity) (args : List Operand) : Except Error String :=
  .error (.format (.arity name arity args.length))

/-- A renderer of one argument. -/
def unary (name : String) (write : Operand → Except Error String) : Renderer
  | [a] => write a
  | args => refuse name (.exactly 1) args

/-- A renderer of two arguments. -/
def binary (name : String) (write : Operand → Operand → Except Error String) : Renderer
  | [a, b] => write a b
  | args => refuse name (.exactly 2) args

/-- A function of one argument. -/
def apply (name sql : String) : Renderer :=
  unary name fun a => do return sql ++ "(" ++ (← a.sql) ++ ")"

/-- An operator between two arguments. -/
def infixed (name symbol : String) : Renderer :=
  binary name fun a b => do
    return "(" ++ (← a.sql) ++ " " ++ symbol ++ " " ++ (← b.sql) ++ ")"

/-- A call of any arguments under another name. -/
def anyArguments (sql : String) : Renderer :=
  fun args => do return sql ++ "(" ++ (← Operand.list args) ++ ")"

/-- A concatenation of one argument or more. -/
def concat (name : String) : Renderer
  | [] => refuse name (.atLeast 1) []
  | args => anyArguments "CONCAT" args

/-- The position of the second argument in the first. -/
def locate (name : String) : Renderer :=
  binary name fun a b => do
    let needle ← b.sql
    return "LOCATE(" ++ needle ++ ", " ++ (← a.sql) ++ ")"

/-- A position from one of an argument that counts from zero: computed for a constant where it
fits 64 bits, else added in SQL. -/
def fromOne (a : Operand) : Except Error String :=
  let next := do
    let start ← a.signed?
    if Json.inSigned (start + 1) then some (start + 1) else none
  match next with
  | some n => .ok (intText n)
  | none => do return (← a.sql) ++ " + 1"

/-- A part of a text: a start that counts from zero, and a length if there is one. -/
def substring (name : String) : Renderer
  | [a, start] => do
    let position ← fromOne start
    return "SUBSTRING(" ++ (← a.sql) ++ ", " ++ position ++ ")"
  | [a, start, length] => do
    let position ← fromOne start
    return "SUBSTRING(" ++ (← a.sql) ++ ", " ++ position ++ ", " ++ (← length.sql) ++ ")"
  | args => refuse name (.between 2 3) args

/-- A match against a pattern. -/
def matching (text pattern : String) : String := "(" ++ text ++ " REGEXP " ++ pattern ++ ")"

/-- A text at the start: the pattern is anchored, and a constant text escaped in it. -/
def startsWith (name : String) : Renderer :=
  binary name fun a b => do
    let pattern ← match b.string? with
      | some s => pure (quoteText (String.ofList ('^' :: escapePattern s.toList)))
      | none => do pure ("CONCAT('^', " ++ (← b.sql) ++ ")")
    return matching (← a.sql) pattern

/-- A text at the end. -/
def endsWith (name : String) : Renderer :=
  binary name fun a b => do
    let pattern ← match b.string? with
      | some s => pure (quoteText (String.ofList (escapePattern s.toList ++ ['$'])))
      | none => do pure ("CONCAT(" ++ (← b.sql) ++ ", '$')")
    return matching (← a.sql) pattern

/-- A literal search pattern: a constant text is escaped, anything else is a pattern as it is.
-/
def literalPattern (a : Operand) : Except Error String :=
  match a.string? with
  | some s => .ok (quoteText (String.ofList (escapePattern s.toList)))
  | none => a.sql

/-- A text anywhere in the first argument. -/
def contains (name : String) : Renderer :=
  binary name fun a b => do
    let text ← a.sql
    return matching text (← literalPattern b)

/-- A text anywhere in the second argument. -/
def substringOf (name : String) : Renderer :=
  binary name fun a b => do
    let text ← b.sql
    return matching text (← literalPattern a)

/-- A match against a pattern as it is. -/
def rawPattern (name : String) : Renderer :=
  binary name fun a b => do
    let text ← a.sql
    return matching text (← b.sql)

/-- Rounding, to no places unless they are given. -/
def round (name : String) : Renderer
  | [a] => do return "ROUND(" ++ (← a.sql) ++ ", 0)"
  | [a, digits] => do
    let places ← digits.sql
    return "ROUND(" ++ (← a.sql) ++ ", " ++ places ++ ")"
  | args => refuse name (.between 1 2) args

/-- The first argument that is not null. -/
def coalesce (name : String) : Renderer :=
  binary name fun a b => do return "COALESCE(" ++ (← a.sql) ++ ", " ++ (← b.sql) ++ ")"

/-- A count of an argument, or of rows. -/
def count (name : String) : Renderer
  | [] => .ok "COUNT(*)"
  | [a] => do return "COUNT(" ++ (← a.sql) ++ ")"
  | args => refuse name (.between 0 1) args

end Renderer

/-- Renderers by name, names in lower case. -/
abbrev FunctionTable := List (String × Renderer)

namespace FunctionTable

/-- A renderer added, in place of one of the same name. -/
def register (name : String) (renderer : Renderer) (table : FunctionTable) : FunctionTable :=
  (asciiLower name, renderer) :: table.filter fun entry => entry.1 != asciiLower name

/-- The renderer of a name. -/
def find? (table : FunctionTable) (name : String) : Option Renderer :=
  table.lookup (asciiLower name)

/-- Whether a name is known. -/
def knows (table : FunctionTable) (name : String) : Bool := (table.find? name).isSome

/-- The text of a call. -/
def render (table : FunctionTable) (name : String) (args : List Operand) : Except Error String :=
  match table.find? name with
  | some renderer => renderer args
  | none => .error (.format (.unknownFunction name))

/-- The names of a table, sorted. -/
def names (table : FunctionTable) : List String :=
  (table.map Prod.fst).mergeSort fun a b => decide (a ≤ b)

/-- A table in brief: the sorted names of its functions. -/
def summary (table : FunctionTable) : String :=
  "FunctionRegistry \x7b functions: [" ++
    joinWith ", " (table.names.map fun name => "\"" ++ name ++ "\"") ++ "] \x7d"

open Renderer

/-- The built-in functions. -/
def standard : FunctionTable :=
  [ -- texts
    ("length", apply "length" "LENGTH"),
    ("trim", apply "trim" "TRIM"),
    ("tolower", apply "tolower" "LOWER"),
    ("lower", apply "lower" "LOWER"),
    ("toupper", apply "toupper" "UPPER"),
    ("upper", apply "upper" "UPPER"),
    ("concat", concat "concat"),
    ("indexof", locate "indexof"),
    ("substring", substring "substring"),
    ("substr", substring "substr"),
    -- patterns
    ("startswith", startsWith "startswith"),
    ("endswith", endsWith "endswith"),
    ("contains", contains "contains"),
    ("substringof", substringOf "substringof"),
    ("text", rawPattern "text"),
    ("regex", rawPattern "regex"),
    -- dates and times
    ("day", apply "day" "DAY"),
    ("month", apply "month" "MONTH"),
    ("year", apply "year" "YEAR"),
    ("hour", apply "hour" "HOUR"),
    ("minute", apply "minute" "MINUTE"),
    ("second", apply "second" "SECOND"),
    ("date", apply "date" "DATE"),
    -- numbers
    ("floor", apply "floor" "FLOOR"),
    ("ceiling", apply "ceiling" "CEILING"),
    ("round", round "round"),
    ("add", infixed "add" "+"),
    ("sub", infixed "sub" "-"),
    ("mul", infixed "mul" "*"),
    ("div", infixed "div" "/"),
    ("mod", infixed "mod" "%"),
    ("bit", infixed "bit" "&"),
    ("ifnull", coalesce "ifnull"),
    -- aggregates
    ("count", count "count"),
    ("min", apply "min" "MIN"),
    ("max", apply "max" "MAX"),
    ("avg", apply "avg" "AVG"),
    ("sum", apply "sum" "SUM")]

end FunctionTable

end Sift.Sql
