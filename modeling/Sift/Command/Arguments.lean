import Sift.Config.Basic
import Sift.Filter.Options
import Sift.Read

/-!
# Arguments of the command line

An invocation names a command, its operands and its options. Options are written `--name value` or
`--name=value`; those of the settings may stand before the command or after it. After `--` every
argument is an operand.

* `Invocation.read`: the invocation that arguments make, or why they make none.
-/

namespace Sift.Command

open Text

/-- Commands. -/
inductive Verb where
  | tokenize
  | filter
  | closure
  | format
  deriving DecidableEq, Repr

/-- The command of a word. -/
def Verb.ofWord? : String → Option Verb
  | "tokenize" => some tokenize
  | "filter" => some filter
  | "closure" => some closure
  | "format" => some format
  | _ => none

/-- Why arguments make no invocation: they are wrong, or they ask for help, with a command or in
general. -/
inductive Refusal where
  | usage
  | help (verb : Option Verb)
  | helpOfHelp
  deriving DecidableEq, Repr

/-- What an argument may be: any text, a path (which is not empty), a count, or a name with a
value. -/
inductive Slot where
  | text
  | path
  | count
  | binding
  deriving DecidableEq, Repr

/-- A chosen value. -/
inductive Choice where
  | text (s : String)
  | count (n : UInt64)
  | binding (name : String) (value : Json)

/-- A count: digits, after an optional plus sign, that fit 64 bits. -/
def readCount? (s : String) : Option UInt64 :=
  let ds := match s.toList with
    | '+' :: cs => cs
    | cs => cs
  let n := Number.digitsValue 10 ds
  if !ds.isEmpty && ds.all Char.isDigit && n < 0x10000000000000000 then some (UInt64.ofNat n)
  else none

/-- A name with a value: JSON text, or else the text itself. -/
def readBinding? (s : String) : Option Choice :=
  (splitFirst? '=' s.toList).map fun (name, raw) =>
    let raw := String.ofList raw
    .binding (String.ofList (trim name)) ((Json.read? raw).getD (.str raw))

/-- The value of an argument in its place. -/
def Slot.read? : Slot → String → Option Choice
  | .text, s => some (.text s)
  | .path, s => if s.isEmpty then none else some (.text s)
  | .count, s => (readCount? s).map .count
  | .binding, s => readBinding? s

/-- The options of the settings, which every command takes. -/
def sharedOptions : List (String × Slot) := [("config", .path), ("dialect", .text)]

/-- The options of a command. -/
def Verb.options : Verb → List (String × Slot)
  | tokenize => sharedOptions
  | filter => [("select", .text), ("orderby", .text), ("groupby", .text), ("top", .count),
      ("skip", .count)] ++ sharedOptions
  | closure => [("bind", .binding), ("take", .count)] ++ sharedOptions
  | format => sharedOptions

/-- The operands of a command. -/
def Verb.operands : Verb → List Slot
  | tokenize => [.text]
  | filter => [.text, .text]
  | closure => [.text, .text]
  | format => [.path]

/-- Chosen options, the last first. -/
abbrev Choices := List (String × Choice)

/-- How an argument looks: the mark after which there are only operands, an option's name with
an attached value, a short option, or an operand. -/
inductive Shape where
  | mark
  | option (name : String) (attached : Option String)
  | short (letter : Char)
  | operand

/-- The look of an argument. A single hyphen is an operand. -/
def Shape.of (s : String) : Shape :=
  match s.toList with
  | ['-', '-'] => .mark
  | '-' :: '-' :: cs =>
    match splitFirst? '=' cs with
    | some (name, value) => .option (String.ofList name) (some (String.ofList value))
    | none => .option (String.ofList cs) none
  | '-' :: c :: _ => .short c
  | _ => .operand

/-- The value of an option: attached, or the next argument, if that is no option itself. -/
def optionValue (attached : Option String) (args : List String) :
    Except Refusal (Scan String args) :=
  match attached, args with
  | some value, args => .ok (.nothing value args)
  | none, value :: rest =>
    match Shape.of value with
    | .operand => .ok (.one value value rest)
    | _ => .error .usage
  | none, [] => .error .usage

/-- One option added to those chosen before. Only bindings may be repeated. -/
def readOption (verb : Option Verb) (options : List (String × Slot)) (chosen : Choices)
    (name : String) (attached : Option String) (args : List String) :
    Except Refusal (Scan Choices args) :=
  if name = "help" then .error (if attached.isSome then .usage else .help verb)
  else
    match options.lookup name with
    | none => .error .usage
    | some slot => do
      let value ← optionValue attached args
      if slot ≠ .binding ∧ (chosen.lookup name).isSome then .error .usage
      else
        match slot.read? value.value with
        | some choice => .ok (value.map fun _ => (name, choice) :: chosen)
        | none => .error .usage

/-- One operand added to those read before. -/
def readOperand (slots : List Slot) (operands : List String) (s : String) :
    Except Refusal (List String) :=
  match slots[operands.length]? with
  | some slot => if (slot.read? s).isSome then .ok (operands ++ [s]) else .error .usage
  | none => .error .usage

/-- The options and operands of a command. -/
def readArguments (verb : Verb) (chosen : Choices) (operands : List String) (args : List String) :
    Except Refusal (Choices × List String) :=
  match args with
  | [] => .ok (chosen, operands)
  | s :: rest =>
    match Shape.of s with
    | .mark => do return (chosen, ← rest.foldlM (readOperand verb.operands) operands)
    | .option name attached => do
      let read ← readOption (some verb) verb.options chosen name attached rest
      readArguments verb read.value operands read.rest
    | .short letter => .error (if letter = 'h' then .help (some verb) else .usage)
    | .operand => do readArguments verb chosen (← readOperand verb.operands operands s) rest
termination_by args.length
decreasing_by
  · exact read.length_lt_cons _
  · exact length_lt_cons _ _

/-- What a command is to do. -/
inductive Action where
  | tokenize (filter : String)
  | filter (entity : String) (options : Filter.Options)
  | closure (entity source : String) (bindings : List (String × Json)) (take : Option UInt64)
  | format (path : String)

/-- The text chosen for an option. -/
def Choices.text? (chosen : Choices) (name : String) : Option String :=
  chosen.findSome? fun (option, choice) => match choice with
    | .text s => if option = name then some s else none
    | _ => none

/-- The count chosen for an option. -/
def Choices.count? (chosen : Choices) (name : String) : Option UInt64 :=
  chosen.findSome? fun (option, choice) => match choice with
    | .count n => if option = name then some n else none
    | _ => none

/-- The chosen bindings, the last first. -/
def Choices.bindings (chosen : Choices) : List (String × Json) :=
  chosen.filterMap fun (_, choice) => match choice with
    | .binding name value => some (name, value)
    | _ => none

/-- The action of a command with its operands; there may be too few of them. -/
def Action.of? (verb : Verb) (chosen : Choices) (operands : List String) : Option Action :=
  match verb, operands with
  | .tokenize, [source] => some (.tokenize source)
  | .filter, [entity, condition] => some (.filter entity
      { filter := some condition
        select := chosen.text? "select"
        orderBy := chosen.text? "orderby"
        groupBy := chosen.text? "groupby"
        top := chosen.count? "top"
        skip := chosen.count? "skip" })
  | .closure, [entity, source] =>
    some (.closure entity source chosen.bindings (chosen.count? "take"))
  | .format, [path] => some (.format path)
  | _, _ => none

/-- An invocation: where the settings come from, and what to do. -/
structure Invocation where
  config : Option String
  dialect : Option String
  action : Action

/-- The invocation of a command with its arguments, given the options before it. Options after
it win over those before. -/
def readCommand (before : Choices) (verb : Verb) (args : List String) :
    Except Refusal Invocation := do
  let (chosen, operands) ← readArguments verb [] [] args
  match Action.of? verb chosen operands with
  | some action => return {
      config := (chosen.text? "config").or (before.text? "config")
      dialect := (chosen.text? "dialect").or (before.text? "dialect")
      action }
  | none => .error .usage

/-- The help that is asked for by words after the word `help`. -/
def helpFor : List String → Refusal
  | [] => .help none
  | ["help"] => .helpOfHelp
  | [word] =>
    match Verb.ofWord? word with
    | some verb => .help (some verb)
    | none => .usage
  | _ => .usage

/-- The invocation of arguments, given the options already chosen. -/
def readInvocation (chosen : Choices) (args : List String) : Except Refusal Invocation :=
  match args with
  | [] => .error .usage
  | s :: rest =>
    match Shape.of s with
    | .mark => .error .usage
    | .option name attached => do
      let read ← readOption none sharedOptions chosen name attached rest
      readInvocation read.value read.rest
    | .short letter => .error (if letter = 'h' then .help none else .usage)
    | .operand =>
      if s = "help" then .error (helpFor rest)
      else
        match Verb.ofWord? s with
        | some verb => readCommand chosen verb rest
        | none => .error .usage
termination_by args.length
decreasing_by exact read.length_lt_cons _

/-- The invocation that arguments make. -/
def Invocation.read (args : List String) : Except Refusal Invocation := readInvocation [] args

end Sift.Command
