import Sift.Command.Run

/-!
# Help

What the command line prints about itself and its commands.

* `Refusal.help?`: the text for a request of help.
-/

namespace Sift.Command

open Text

/-- The command in one sentence. -/
def Verb.about : Verb → String
  | tokenize => "Print the tokens of an OData filter"
  | filter => "Compile OData query options to a select statement"
  | closure => "Compile a closure filter (e.g. \"x => x.price > 5\") to a select statement"
  | format => "Format a query expression stored as JSON"

/-- The word for a command. -/
def Verb.word : Verb → String
  | tokenize => "tokenize"
  | filter => "filter"
  | closure => "closure"
  | format => "format"

/-- The operands of a command, each with its meaning. -/
def Verb.operandHelp : Verb → List (String × String)
  | tokenize => [("<FILTER>", "")]
  | filter => [("<ENTITY>", "Entity to select from"), ("<FILTER>", "$filter expression")]
  | closure => [("<ENTITY>", ""), ("<SOURCE>", "")]
  | format => [("<FILE>", "")]

/-- The option for the file of settings. -/
def configHelp : String × String :=
  ("--config <CONFIG>", "Config file (defaults to ./query-expr.toml when present)")

/-- The option for the dialect. -/
def dialectHelp : String × String :=
  ("--dialect <DIALECT>", "Dialect preset: plain, mysql, postgres, mssql")

/-- The options of a command, each with its meaning. -/
def Verb.optionHelp : Verb → List (String × String)
  | tokenize => [configHelp, dialectHelp]
  | filter =>
    [configHelp, ("--select <SELECT>", "$select list, e.g. \"id, count(id) as total\""),
     dialectHelp, ("--orderby <ORDERBY>", "$orderby list, e.g. \"name desc, id\""),
     ("--groupby <GROUPBY>", "$groupby list"), ("--top <TOP>", ""), ("--skip <SKIP>", "")]
  | closure =>
    [("--bind <BINDINGS>",
      "Bind a free identifier: name=json (plain text is bound as a string)"), configHelp,
     dialectHelp, ("--take <TAKE>", "")]
  | format => [configHelp, dialectHelp]

/-- Two columns, the first filled to a width. -/
def columns (indent : String) (width : Nat) (rows : List (String × String)) : String :=
  joinWith "\n" (rows.map fun (left, right) => indent ++ padTo width left ++ "  " ++ right)

/-- Options in two columns; the last one is always the request for help. -/
def optionColumns (rows : List (String × String)) : String :=
  columns "      " 19 rows ++ "\n" ++ columns "  " 23 [("-h, --help", "Print help")]

/-- The help of a command. -/
def Verb.help (verb : Verb) : String :=
  verb.about ++ "\n\nUsage: query-expr " ++ verb.word ++ " [OPTIONS] " ++
    joinWith " " (verb.operandHelp.map (·.1)) ++ "\n\nArguments:\n" ++
    columns "  " ((verb.operandHelp.map (·.1.length)).foldl max 0) verb.operandHelp ++
    "\n\nOptions:\n" ++ optionColumns verb.optionHelp ++ "\n"

/-- The help in general. -/
def generalHelp : String :=
  "Compile OData filters and closure sources to SQL\n\nUsage: query-expr [OPTIONS] <COMMAND>" ++
    "\n\nCommands:\n" ++
    columns "  " 8 ([Verb.tokenize, .filter, .closure, .format].map (fun v => (v.word, v.about)) ++
      [("help", "Print this message or the help of the given subcommand(s)")]) ++
    "\n\nOptions:\n" ++ optionColumns [configHelp, dialectHelp] ++ "\n"

/-- The help of the request for help. -/
def helpOfHelp : String :=
  "Print this message or the help of the given subcommand(s)\n\n" ++
    "Usage: query-expr help [COMMAND]...\n\nArguments:\n" ++
    columns "  " 12 [("[COMMAND]...", "Print help for the subcommand(s)")] ++ "\n"

/-- The text for a request of help; wrong arguments have none. -/
def Refusal.help? : Refusal → Option String
  | usage => none
  | help none => some generalHelp
  | help (some verb) => some verb.help
  | helpOfHelp => some Command.helpOfHelp

end Sift.Command
