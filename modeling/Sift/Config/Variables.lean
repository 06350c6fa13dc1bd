import Sift.Read
import Sift.Text.Basic

/-!
# Files of variables

Lines `NAME=value`, where `export` may stand in front and a comment behind. A value may be quoted,
in single quotes as it stands or in double quotes with escapes, and quotes may span lines. Outside
of single quotes a dollar sign stands for the value of a variable.

* `readLine?`: the variable that a line sets.
* `loadVariables?`: the variables after a file; those that were set before keep their values.
-/

namespace Sift.Config

open Text

/-- Variables with their values; the first of a name counts. -/
abbrev Variables := List (String × String)

/-- What is open at some point of a line, which decides whether the line goes on. -/
inductive LineState where
  | plain
  | afterBlank
  | escaped
  | quoted (quote : Char)
  | quotedEscape (quote : Char)
  deriving DecidableEq, Repr

/-- The state after a character; nothing for a character that starts a comment. -/
def LineState.next? (state : LineState) (c : Char) : Option LineState :=
  match state with
  | .escaped => some .plain
  | .quotedEscape quote => some (.quoted quote)
  | .quoted quote =>
    some (if c = '\\' then .quotedEscape quote else if c = quote then .plain else .quoted quote)
  | .plain =>
    some (if isWhite c && c != '\n' && c != '\r' then .afterBlank else opening c)
  | .afterBlank => if c = '#' then none else some (opening c)
where
  /-- The state after a character that nothing open precedes. -/
  opening (c : Char) : LineState :=
    if c = '\\' then .escaped else if c = '"' ∨ c = '\'' then .quoted c else .plain

/-- One line with its end. -/
def takeLine : List Char → List Char
  | [] => []
  | '\n' :: _ => ['\n']
  | c :: cs => c :: takeLine cs

/-- A line has at least one character, if anything is left. -/
theorem length_takeLine_pos (c : Char) (cs : List Char) : 0 < (takeLine (c :: cs)).length := by
  unfold takeLine
  split <;> simp_all

/-- The text after its first line. -/
def afterLine (s : List Char) : List Char := s.drop (takeLine s).length

/-- Less is left behind a line, so lines come to an end. -/
theorem length_afterLine_lt (c : Char) (cs : List Char) :
    (afterLine (c :: cs)).length < (c :: cs).length := by
  have := length_takeLine_pos c cs
  simp only [afterLine, List.length_drop, List.length_cons]
  omega

/-- A line without its end. -/
def dropLineEnd (line : List Char) : List Char :=
  match line.reverse with
  | '\n' :: '\r' :: cs => cs.reverse
  | '\n' :: cs => cs.reverse
  | _ => line

/-- A line up to a comment, with the state at its end, or nothing after a comment. -/
def scanLine (state : LineState) : List Char → List Char × Option LineState
  | [] => ([], some state)
  | c :: cs =>
    match state.next? c with
    | none => ([], none)
    | some next => let (line, last) := scanLine next cs; (c :: line, last)

/-- The lines of a file, those joined that a quote or an escape holds together. `begun` is what
is joined so far, with its state. An end of the file inside of such a line is a fault. -/
def joinedLines? (begun : List Char) (state : LineState) (s : List Char) :
    Option (List (List Char)) :=
  match s with
  | [] => if state = .plain then some [] else none
  | c :: r =>
    let line := takeLine (c :: r)
    if (trimStart (begun ++ line)).head? = some '#' then
      joinedLines? [] .plain (afterLine (c :: r))
    else
      match scanLine state line with
      | (part, none) =>
        (joinedLines? [] .plain (afterLine (c :: r))).map ((begun ++ part) :: ·)
      | (part, some .plain) =>
        (joinedLines? [] .plain (afterLine (c :: r))).map (dropLineEnd (begun ++ part) :: ·)
      | (part, some state) => joinedLines? (begun ++ part) state (afterLine (c :: r))
termination_by s.length
decreasing_by all_goals exact length_afterLine_lt c r

/-- What is being read inside of a value: plain text, or the name of a variable, in braces or
not. -/
inductive ValueMode where
  | plain
  | name
  | braced
  deriving DecidableEq, Repr

/-- A value so far. -/
structure ValueState where
  output : List Char := []
  quote : Option Char := none
  escaped : Bool := false
  mode : ValueMode := .plain
  name : List Char := []

namespace ValueState

variable (value : String → String)

/-- A character added. -/
def push (st : ValueState) (c : Char) : ValueState := { st with output := st.output ++ [c] }

/-- The variable named so far, put in its place. -/
def substitute (st : ValueState) : ValueState :=
  let text := (value (String.ofList st.name)).toList
  { st with output := st.output ++ text, name := [], mode := .plain }

/-- A character inside the name of a variable. -/
def stepName (st : ValueState) (c : Char) : ValueState :=
  if isAlphanumeric c then { st with name := st.name ++ [c] }
  else if st.mode = .braced then
    if c = '\x7d' then st.substitute value else { st with name := st.name ++ [c] }
  else if c = '\x7b' ∧ st.name = [] then { st with mode := .braced }
  else if c = '$' then { st.substitute value with mode := .name }
  else (st.substitute value).push c

/-- One character. Inside of double quotes a blank and a single quote are like any other. -/
def step? (st : ValueState) (c : Char) : Option ValueState :=
  if st.escaped then
    let st := { st with escaped := false }
    if c = '\\' ∨ c = '\'' ∨ c = '"' ∨ c = '$' ∨ c = ' ' then some (st.push c)
    else if c = 'n' then some (st.push '\n')
    else none
  else if st.quote = some '\'' then
    some (if c = '\'' then { st with quote := none } else st.push c)
  else if st.mode ≠ .plain then some (st.stepName value c)
  else if c = '$' then some { st with mode := .name }
  else if c = '\\' then some { st with escaped := true }
  else if st.quote = some '"' then
    some (if c = '"' then { st with quote := none } else st.push c)
  else if c = '\'' ∨ c = '"' then some { st with quote := some c }
  else some (st.push c)

/-- The value, unless a quote or a name in braces is still open. -/
def finish? (st : ValueState) : Option String :=
  if st.mode = .braced ∨ st.quote.isSome then none
  else some (String.ofList (st.substitute value).output)

end ValueState

/-- What may follow a value: blanks, and a comment. -/
def isTrailer (cs : List Char) : Bool :=
  match cs.dropWhile fun c => c == ' ' || c == '\t' with
  | [] => true
  | c :: _ => c == '#'

/-- A value, given the values of variables. It ends with a blank outside of quotes. -/
def readValue (value : String → String) (st : ValueState) : List Char → Option String
  | [] => st.finish? value
  | c :: cs =>
    if (c = ' ' ∨ c = '\t') ∧ st.quote = none ∧ !st.escaped ∧ st.mode = .plain then
      if isTrailer cs then st.finish? value else none
    else (st.step? value c).bind fun st => readValue value st cs

/-- A name at the front of a text. -/
def readVariableName? (cs : List Char) : Option (String × List Char) :=
  let inName (c : Char) : Bool := c.isAlphanum || c == '_' || c == '.'
  match cs with
  | c :: _ =>
    if c.isAlpha || c == '_' then some (String.ofList (cs.takeWhile inName), cs.dropWhile inName)
    else none
  | [] => none

/-- The rest after an equals sign, which white space may precede. -/
def readEquals? (cs : List Char) : Option (List Char) :=
  match trimStart cs with
  | '=' :: cs => some cs
  | _ => none

/-- A name and the text after its equals sign. The word `export` in front means nothing, unless
it is the name itself. -/
def readAssignment? (cs : List Char) : Option (String × List Char) := do
  let (name, rest) ← readVariableName? cs
  match readEquals? rest with
  | some text => some (name, text)
  | none =>
    if name = "export" then do
      let (name, rest) ← readVariableName? (trimStart rest)
      let text ← readEquals? rest
      some (name, text)
    else none

/-- The variable that a line sets, if it sets any. A line that cannot be read is a fault. -/
def readLine? (value : String → String) (line : List Char) : Option (Option (String × String)) :=
  let line := trim line
  match line with
  | [] => some none
  | '#' :: _ => some none
  | line => do
    let (name, text) ← readAssignment? line
    match trimStart text with
    | [] => some (some (name, ""))
    | '#' :: _ => some (some (name, ""))
    | text => (readValue value {} text).map fun v => some (name, v)

/-- The variables after lines, given those set already and those that earlier lines named. -/
def setAll? (set named : Variables) : List (List Char) → Option Variables
  | [] => some set
  | line :: lines => do
    let value (name : String) : String := ((set.lookup name).or (named.lookup name)).getD ""
    match ← readLine? value line with
    | none => setAll? set named lines
    | some (name, v) =>
      let set := if (set.lookup name).isSome then set else (name, v) :: set
      setAll? set ((name, v) :: named) lines

/-- The variables after a file. A byte order mark may precede it. -/
def loadVariables? (set : Variables) (source : String) : Option Variables := do
  let cs := match source.toList with
    | '\uFEFF' :: cs => cs
    | cs => cs
  setAll? set [] (← joinedLines? [] .plain cs)

end Sift.Config
