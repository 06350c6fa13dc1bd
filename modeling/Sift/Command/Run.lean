import Sift.Command.Arguments
import Sift.Lambda.Translate
import Sift.Sql.Statement

/-!
# Running commands

What an invocation prints, given the variables and the files. Settings are loaded before the command
is looked at, so a fault in them comes first.

* `Invocation.paths`: the files that an invocation reads.
* `Invocation.run`: the text it prints, or its fault.
-/

namespace Sift.Command

open Config Text

/-- Why an invocation fails. -/
inductive Fault where
  | missingConfig (path : String)
  | unreadable (path : String)
  | malformed (cause : Option Error)
  | failed (error : Error)

/-- The text of a fault. -/
def Fault.message : Fault → String
  | missingConfig path => "Config file not found: " ++ path
  | unreadable path => "Failed to read " ++ path
  | malformed none => "malformed query"
  | malformed (some cause) => cause.message
  | failed error => error.message

/-- A result of the library as a result of a command. -/
def lift {α : Type} : Except Error α → Except Fault α
  | .ok a => .ok a
  | .error e => .error (.failed e)

/-- A path without what says nothing at its end: slashes, and dots that stand for the folder
itself. -/
def trimPath (path : List Char) : List Char :=
  (go path.reverse).reverse
where
  /-- The same, on a path written backwards. -/
  go : List Char → List Char
    | '/' :: cs => go cs
    | '.' :: '/' :: cs => go cs
    | cs => cs

/-- The file of variables beside a file. -/
def variablePath (path : String) : String :=
  match splitLast? '/' (trimPath path.toList) with
  | some (folder, _) => String.ofList folder ++ "/.env"
  | none => ".env"

/-- The file of settings that counts where none is named. -/
def defaultConfig : String := "query-expr.toml"

namespace Invocation

/-- The file of settings. -/
def configPath (inv : Invocation) : String := inv.config.getD defaultConfig

/-- The files that an invocation reads. -/
def paths (inv : Invocation) : List String :=
  [inv.configPath, variablePath inv.configPath] ++ match inv.action with
    | .format path => [path]
    | _ => []

/-- The settings of an invocation. A file that is named must be there. -/
def settings (inv : Invocation) (vars : Variables) (files : String → Found) :
    Except Fault Settings := do
  match inv.config, files inv.configPath with
  | some path, .missing => .error (.missingConfig path)
  | _, file => lift do
    let c ← Config.load vars (files (variablePath inv.configPath)) file
    { c with dialect := inv.dialect.or c.dialect }.settings

end Invocation

/-- A text with blanks before it, to a width. -/
def padFrom (width : Nat) (s : String) : String :=
  String.ofList (List.replicate (width - s.length) ' ') ++ s

/-- A text with blanks after it, to a width. -/
def padTo (width : Nat) (s : String) : String :=
  s ++ String.ofList (List.replicate (width - s.length) ' ')

/-- The kind of a token in words. -/
def kindText : Filter.Token → String
  | .literal l => l.typeName
  | .name _ => "Identifier"
  | .sign _ => "Syntax"

/-- One line for a token: its number, its kind and its text. -/
def tokenLine (index : Nat) (t : Filter.Token) : String :=
  padFrom 4 (Number.natText index) ++ "  " ++ padTo 12 (kindText t) ++ " " ++ t.text ++ "\n"

/-- The lines of tokens. -/
def tokenLines (ts : List Filter.Token) : String := String.join (ts.mapIdx tokenLine)

/-- What an action prints, with the settings. -/
def Action.run (settings : Settings) (files : String → Found) : Action → Except Fault String
  | tokenize source => do return tokenLines (← lift (Filter.tokenize source))
  | filter entity options => lift do statement (← options.query entity .identity)
  | closure entity source bindings take => lift do
    let e ← Lambda.parse source { resolver := .identity, bindings, handlers := [] }
    let q := ((Query.empty.selecting []).onEntity entity).restrict e
    statement { q with take }
  | format path =>
    match files path with
    | .text content =>
      match Query.read content with
      | .ok q => lift (statement q)
      | .error (.json cause) => .error (.malformed cause)
      | .error e => .error (.failed e)
    | _ => .error (.unreadable path)
where
  /-- A statement on a line. -/
  statement (q : Query) : Except Error String := do
    return (← (Sql.Formatter.ofSettings settings).statement q) ++ "\n"

/-- What an invocation prints, given the variables and what is found under paths. -/
def Invocation.run (inv : Invocation) (vars : Variables) (files : String → Found) :
    Except Fault String := do
  inv.action.run (← inv.settings vars files) files

end Sift.Command
