import Sift.Config.Scalar

/-!
# Reading documents

A document is read line by line: a header opens a table, and the keys after it are set there.

* `readValue?`: a value, which may be a list or a table in one piece.
* `readStatement?`: one header or one setting.
* `parseDocument?`: the fields of a document.
-/

namespace Sift.Config

/-- The rest after blanks. -/
def skipBlank (s : List Char) : Scan Unit s := (scanRun isBlank s).map fun _ => ()

/-- The rest after blanks, line ends and comments. -/
def skipFiller (s : List Char) : Scan Unit s :=
  match s with
  | ' ' :: r => (skipFiller r).past ' '
  | '\t' :: r => (skipFiller r).past '\t'
  | '\n' :: r => (skipFiller r).past '\n'
  | '\r' :: '\n' :: r => ((skipFiller r).past '\n').past '\r'
  | '#' :: r =>
    let comment := scanRun isPlain r
    (comment.thenScan (skipFiller comment.rest) ()).past '#'
  | s => .nothing () s
termination_by s.length
decreasing_by
  · exact length_lt_cons _ _
  · exact length_lt_cons _ _
  · exact length_lt_cons _ _
  · exact length_lt_cons_cons _ _ _
  · exact comment.length_lt_cons _

/-- The rest after a character, which blanks may precede. -/
def readSign? (c : Char) (s : List Char) : Option (Read Unit s) :=
  let t := skipBlank s
  match h : t.rest with
  | d :: _ => if d = c then some (t.thenOne h ()) else none
  | [] => none

/-- The characters of bare keys. -/
def isBare (c : Char) : Bool := c.isAlphanum || c == '_' || c == '-'

/-- A key: bare, or a text on one line. -/
def readKey? (s : List Char) : Option (Read String s) :=
  match s with
  | '"' :: r => (readText? '"' r).map fun t => (t.map String.ofList).past '"'
  | '\'' :: r => (readText? '\'' r).map fun t => (t.map String.ofList).past '\''
  | s => (readRun? isBare s).map fun t => t.map String.ofList

/-- How deep values may nest, and how long dotted keys may get. -/
def maxDepth : Nat := 79

/-- Keys with points between them: the keys on the way, and the last one. -/
def readKeys? (s : List Char) : Option (Read (List String × String) s) := do
  let t := skipBlank s
  let key ← readKey? t.rest
  match readSign? '.' key.rest with
  | none => some (t.thenRead key ([], key.value))
  | some dot => do
    let before := t.thenRead (key.thenRead dot ()) ()
    let path ← readKeys? before.rest
    some (before.thenRead path (key.value :: path.value.1, path.value.2))
termination_by s.length
decreasing_by exact Read.shorter _

/-- A dotted key, which may not be too long. -/
def readPath? (s : List Char) : Option (Read (List String × String) s) := do
  let path ← readKeys? s
  if path.value.1.length < maxDepth then some path else none

/-- The characters of truth values, numbers and moments. -/
def isScalarChar (c : Char) : Bool :=
  c.isAlphanum || c == '+' || c == '-' || c == '_' || c == '.' || c == ':'

/-- A date and a clock time with one blank between them, where a run of characters is a date. -/
def readMoment? {s : List Char} (run : Read (List Char) s) : Option (Read (List Char) s) :=
  match h : run.rest with
  | ' ' :: r => do
    let time ← readRun? isScalarChar r
    if isMoment run.value && (time.value.head?.any Char.isDigit) then
      some (run.thenPast h time (run.value ++ ' ' :: time.value))
    else none
  | _ => none

/-- A truth value, a number or a moment. -/
def readScalar? (s : List Char) : Option (Read Entry s) := do
  let run ← readRun? isScalarChar s
  let whole := (readMoment? run).getD run
  let entry ← scalar? whole.value
  some (whole.map fun _ => entry)

/-- A text on several lines, after its opening quotes. A line end right after them is dropped.
-/
def readBlockText? (quote : Char) (s : List Char) : Option (Read Entry s) := do
  match readLineEnd? s with
  | some e => do
    let t ← readLines? quote e.rest
    some (e.thenRead t (.text (String.ofList t.value)))
  | none => do
    let t ← readLines? quote s
    some (t.map fun cs => .text (String.ofList cs))

mutual

/-- A value. `depth` is how many more lists and tables may be opened. -/
def readValue? (depth : Nat) (s : List Char) : Option (Read Entry s) :=
  match s, depth with
  | '"' :: '"' :: '"' :: r, _ =>
    (readBlockText? '"' r).map fun t => ((t.past '"').past '"').past '"'
  | '\'' :: '\'' :: '\'' :: r, _ =>
    (readBlockText? '\'' r).map fun t => ((t.past '\'').past '\'').past '\''
  | '"' :: r, _ =>
    (readText? '"' r).map fun t => (t.map fun cs => .text (String.ofList cs)).past '"'
  | '\'' :: r, _ =>
    (readText? '\'' r).map fun t => (t.map fun cs => .text (String.ofList cs)).past '\''
  | '[' :: _, 0 => none
  | '[' :: r, depth + 1 => (readItems? depth r).map fun t => (t.map fun _ => .other).past '['
  | '\x7b' :: _, 0 => none
  | '\x7b' :: r, depth + 1 =>
    match readSign? '\x7d' r with
    | some close => some ((close.map fun _ => .table .closed []).past '\x7b')
    | none => (readFields? depth [] r).map fun t => (t.map (.table .closed)).past '\x7b'
  | s, _ => readScalar? s
termination_by (s.length, 0)
decreasing_by all_goals exact Prod.Lex.left _ _ (length_lt_cons _ _)

/-- The items of a list, to the closing bracket. A last comma is allowed. -/
def readItems? (depth : Nat) (s : List Char) : Option (Read Unit s) :=
  let t := skipFiller s
  match h : t.rest with
  | ']' :: _ => some (t.thenOne h ())
  | _ => do
    let item ← readValue? depth t.rest
    let before := t.thenRead item ()
    let u := skipFiller before.rest
    match h : u.rest with
    | ',' :: r => do
      let items ← readItems? depth r
      some (before.thenScan (u.thenPast h items ()).toScan ())
    | ']' :: _ => some (before.thenScan (u.thenOne h ()).toScan ())
    | _ => none
termination_by (s.length, 1)
decreasing_by
  · exact t.lex_lt Nat.zero_lt_one
  · exact Prod.Lex.left _ _ (Nat.lt_trans (u.length_lt h) before.shorter)

/-- The keys of a table in one piece, at least one, to the closing brace. -/
def readFields? (depth : Nat) (done : Fields) (s : List Char) : Option (Read Fields s) := do
  let path ← readPath? s
  let equals ← readSign? '=' path.rest
  let front := (path.thenRead equals ()).thenScan (skipBlank equals.rest) ()
  let value ← readValue? depth front.rest
  let entry := front.thenRead value value.value
  let done ← assign? path.value.1 path.value.2 entry.value done
  match readSign? ',' entry.rest with
  | some comma => do
    let before := entry.thenRead comma ()
    let fields ← readFields? depth done before.rest
    some (before.thenRead fields fields.value)
  | none => do
    let close ← readSign? '\x7d' entry.rest
    some (entry.thenRead close done)
termination_by (s.length, 1)
decreasing_by all_goals exact Prod.Lex.left _ _ (Read.shorter _)

end

/-- A header or a setting. -/
inductive Statement where
  | table (path : List String) (key : String)
  | listed (path : List String) (key : String)
  | setting (path : List String) (key : String) (entry : Entry)

/-- One header or setting, at the start of a line. -/
def readStatement? (s : List Char) : Option (Read Statement s) :=
  match s with
  | '[' :: '[' :: r => do
    let path ← readPath? r
    let close ← readSign? ']' path.rest
    match h : close.rest with
    | ']' :: _ =>
      let both := path.thenScan (close.thenOne h ()).toScan (.listed path.value.1 path.value.2)
      some ((both.past '[').past '[')
    | _ => none
  | '[' :: r => do
    let path ← readPath? r
    let close ← readSign? ']' path.rest
    some ((path.thenRead close (.table path.value.1 path.value.2)).past '[')
  | s => do
    let path ← readPath? s
    let equals ← readSign? '=' path.rest
    let front := (path.thenRead equals ()).thenScan (skipBlank equals.rest) ()
    let entry ← readValue? maxDepth front.rest
    some (front.thenRead entry (.setting path.value.1 path.value.2 entry.value))

/-- A document so far: its fields, and the table that settings go to. -/
structure Draft where
  fields : Fields
  header : List String

/-- A draft with one more statement, unless it contradicts the draft. -/
def Draft.add? (d : Draft) : Statement → Option Draft
  | .table path key =>
    (openTable? path key d.fields).map fun fields => ⟨fields, path ++ [key]⟩
  | .listed path key =>
    (openListed? path key d.fields).map fun fields => ⟨fields, path ++ [key]⟩
  | .setting path key entry =>
    (descend? d.header (assign? path key entry) d.fields).map fun fields => { d with fields }

/-- The rest after a comment, if there is one. -/
def skipComment (s : List Char) : Scan Unit s :=
  match s with
  | '#' :: r => ((scanRun isPlain r).map fun _ => ()).past '#'
  | s => .nothing () s

/-- The rest of a line: blanks, a comment, and the line end. -/
def finishLine? (s : List Char) : Option (Scan Unit s) :=
  let blank := skipBlank s
  let t := blank.thenScan (skipComment blank.rest) ()
  if t.rest.isEmpty then some t else (readLineEnd? t.rest).map fun e => (t.thenRead e ()).toScan

/-- The statements of a document, added to a draft. -/
def readDraft? (d : Draft) (s : List Char) : Option Draft :=
  let t := skipFiller s
  if t.rest.isEmpty then some d
  else do
    let statement ← readStatement? t.rest
    let d ← d.add? statement.value
    let line := (t.thenRead statement ()).thenScan (← finishLine? statement.rest) ()
    readDraft? d line.rest
termination_by s.length
decreasing_by exact Read.shorter _

/-- The fields of a document. A byte order mark may precede it. -/
def parseDocument? (source : String) : Option Fields :=
  let cs := match source.toList with
    | '\uFEFF' :: cs => cs
    | cs => cs
  (readDraft? ⟨[], []⟩ cs).map (·.fields)

end Sift.Config
