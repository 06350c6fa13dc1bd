import Sift.Command.Help

/-!
# The command line

Reads the variables and files that an invocation needs, runs it, and prints what comes of it.
-/

namespace Sift.Command

/-- The variables that choose settings. -/
def readVariables : IO Config.Variables :=
  ["QUERY_EXPR_DIALECT", "QUERY_EXPR_NAME_FORMAT", "QUERY_EXPR_FORCE_ALIAS",
    "QUERY_EXPR_USE_ALIAS_KEYWORD"].filterMapM fun name => do
      let value ← IO.getEnv name
      return value.map (name, ·)

/-- The text of an open file. -/
def readOpened (file : IO.FS.Handle) : IO Config.Found := do
  try
    return .text (← file.readToEnd)
  catch _ => return .unreadable

/-- What is found under a path. A path that goes on behind a file leads nowhere. -/
def readFound (path : String) : IO Config.Found := do
  try
    readOpened (← IO.FS.Handle.mk path .read)
  catch
    | .noFileOrDirectory .. => return .missing
    | .inappropriateType .. => return .missing
    | _ => return .unreadable

/-- The whole program: the exit code is 1 for a fault and 2 for wrong arguments. -/
def execute (args : List String) : IO UInt32 := do
  match Invocation.read args with
  | .error refusal =>
    match refusal.help? with
    | some text => IO.print text; return 0
    | none => IO.eprintln "Usage: query-expr [OPTIONS] <COMMAND>"; return 2
  | .ok inv =>
    let found ← inv.paths.mapM readFound
    let files (path : String) : Config.Found := ((inv.paths.zip found).lookup path).getD .missing
    match inv.run (← readVariables) files with
    | .ok text => IO.print text; return 0
    | .error fault => IO.eprintln ("Error: " ++ fault.message); return 1

end Sift.Command

/-- The command line. -/
def main (args : List String) : IO UInt32 := Sift.Command.execute args
