import Sift.Config.Document
import Sift.Filter.DateTime
import Sift.Json.Basic
import Sift.Read

/-!
# Scalars of documents

Texts in four kinds of quotes, integers in four radices, floats, and moments.

* `readText?`: a text on one line, also as a key.
* `readLines?`: a text on several lines.
* `scalar?`: truth values, numbers and moments.
-/

namespace Sift.Config

open Number Text Sift.Filter

/-- Characters that stand for themselves in texts and comments: no control character but the
tab. -/
def isPlain (c : Char) : Bool := c == '\t' || (0x20 ≤ c.toNat && c.toNat != 0x7f)

/-- A character given by a number of hexadecimal digits. -/
def readCode? (count : Nat) (s : List Char) : Option (Scan Char s) :=
  let ds := scanCount s count
  let n := digitsValue 16 ds.value
  if ds.value.length = count ∧ ds.value.all isHexDigit ∧ n.isValidChar then
    some (ds.map fun _ => Char.ofNat n)
  else none

/-- The character of a short escape. -/
def shortEscape? (c : Char) : Option Char :=
  match c with
  | 'b' => some '\x08'
  | 't' => some '\t'
  | 'n' => some '\n'
  | 'f' => some '\x0c'
  | 'r' => some '\r'
  | '"' => some '"'
  | '\\' => some '\\'
  | _ => none

/-- An escape, read after its backslash. -/
def readEscape? (s : List Char) : Option (Read Char s) :=
  match s with
  | 'u' :: r => (readCode? 4 r).map (Scan.after 'u')
  | 'U' :: r => (readCode? 8 r).map (Scan.after 'U')
  | c :: r => (shortEscape? c).map fun d => .one d c r
  | [] => none

/-- The rest of a text on one line, to the closing quote. Only double quotes allow escapes. -/
def readText? (quote : Char) (s : List Char) : Option (Read (List Char) s) :=
  match s with
  | [] => none
  | c :: r =>
    if c = quote then some (.one [] c r)
    else if c = '\\' ∧ quote = '"' then do
      let d ← readEscape? r
      let t ← readText? quote d.rest
      some ((d.thenRead t (d.value :: t.value)).past c)
    else if isPlain c then do
      some (((← readText? quote r).map (c :: ·)).past c)
    else none
termination_by s.length
decreasing_by
  · exact d.length_lt_cons _
  · exact length_lt_cons _ _

/-- The rest after a line end. -/
def readLineEnd? (s : List Char) : Option (Read Unit s) :=
  match s with
  | '\n' :: r => some (.one () '\n' r)
  | '\r' :: '\n' :: r => some (.two () '\r' '\n' r)
  | _ => none

/-- The rest after blanks and line ends. -/
def skipLines (s : List Char) : Scan Unit s :=
  match s with
  | ' ' :: r => (skipLines r).past ' '
  | '\t' :: r => (skipLines r).past '\t'
  | '\n' :: r => (skipLines r).past '\n'
  | '\r' :: '\n' :: r => ((skipLines r).past '\n').past '\r'
  | s => .nothing () s

/-- Blanks inside a line. -/
def isBlank (c : Char) : Bool := c == ' ' || c == '\t'

/-- A line end that an escape removes, with the blanks before it and all blank space after it.
-/
def readJoint? (s : List Char) : Option (Read Unit s) := do
  let blanks := scanRun isBlank s
  let e ← readLineEnd? blanks.rest
  some (blanks.thenRead (e.thenScan (skipLines e.rest) ()) ())

/-- The rest of a text on several lines, to three closing quotes, before which one or two more
belong to the text. -/
def readLines? (quote : Char) (s : List Char) : Option (Read (List Char) s) :=
  match s with
  | [] => none
  | c :: r =>
    let quotes := ((c :: r).takeWhile (· == quote)).length
    if 3 ≤ quotes then
      let close := (scanCount r (min quotes 5 - 1)).after c
      some (close.map fun _ => List.replicate (min quotes 5 - 3) quote)
    else if c = '\\' ∧ quote = '"' then
      match readJoint? r with
      | some j => do
        let t ← readLines? quote j.rest
        some ((j.thenRead t t.value).past c)
      | none => do
        let d ← readEscape? r
        let t ← readLines? quote d.rest
        some ((d.thenRead t (d.value :: t.value)).past c)
    else
      match readLineEnd? (c :: r) with
      | some e => do
        let t ← readLines? quote e.rest
        some (e.thenRead t ('\n' :: t.value))
      | none =>
        if isPlain c then do
          some (((← readLines? quote r).map (c :: ·)).past c)
        else none
termination_by s.length
decreasing_by
  · exact j.length_lt_cons _
  · exact d.length_lt_cons _
  · exact e.shorter
  · exact length_lt_cons _ _

/-- Digits with single underscores between them. -/
def grouped (p : Char → Bool) : List Char → Bool
  | [] => false
  | [c] => p c
  | c :: '_' :: cs => p c && grouped p cs
  | c :: cs => p c && grouped p cs

/-- A text without underscores. -/
def ungrouped (cs : List Char) : List Char := cs.filter (· != '_')

/-- Digits in a radix that make a signed 64-bit integer. -/
def isRadixInteger (radix : Nat) (cs : List Char) : Bool :=
  grouped (fun c => digitValue c < radix) cs && Json.inSigned (digitsValue radix (ungrouped cs))

/-- A whole part in decimal: grouped digits without a leading zero. -/
def isWhole (cs : List Char) : Bool :=
  grouped Char.isDigit cs && (cs.head? != some '0' || cs.length == 1)

/-- Integers: in decimal with an optional sign, or in another radix after its mark. -/
def isInteger : List Char → Bool
  | '0' :: 'x' :: cs => isRadixInteger 16 cs
  | '0' :: 'o' :: cs => isRadixInteger 8 cs
  | '0' :: 'b' :: cs => isRadixInteger 2 cs
  | cs =>
    let (negative, body) := readSign cs
    isWhole body && Json.inSigned (signed negative (digitsValue 10 (ungrouped body)))

/-- Exponent parts, which may have leading zeros. -/
def isExponent : List Char → Bool
  | [] => true
  | c :: cs => (c == 'e' || c == 'E') && grouped Char.isDigit (readSign cs).2

/-- Floats: a whole part with a fraction, an exponent or both, or a word. A float beyond the
positive range is refused. -/
def isFloat (cs : List Char) : Bool :=
  let body := (readSign cs).2
  if body == ['i', 'n', 'f'] || body == ['n', 'a', 'n'] then true
  else
    let part (c : Char) : Bool := c.isDigit || c == '_'
    let whole := body.takeWhile part
    let tail := body.dropWhile part
    let formed := isWhole whole && !tail.isEmpty && match tail with
      | '.' :: r => grouped Char.isDigit (r.takeWhile part) && isExponent (r.dropWhile part)
      | r => isExponent r
    formed && match readFloat? (ungrouped cs) with
      | some x => !(x.isInf && x > 0.0)
      | none => false

/-- The rest after a clock time: hours, minutes and seconds, with an optional fraction. -/
def readClock? (cs : List Char) : Option (List Char) := do
  let (hour, cs) ← readFixed? 2 cs
  let (minute, cs) ← readFixed? 2 (← readMark? ':' cs)
  let (second, cs) ← readFixed? 2 (← readMark? ':' cs)
  if hour < 24 ∧ minute < 60 ∧ second ≤ 60 then
    match cs with
    | '.' :: r => (readRun? Char.isDigit r).map Read.rest
    | r => some r
  else none

/-- Offsets from universal time; a local time has none. -/
def isOffset : List Char → Bool
  | [] => true
  | ['Z'] => true
  | ['z'] => true
  | c :: cs =>
    (c == '+' || c == '-') && (do
      let (hour, cs) ← readFixed? 2 cs
      let (minute, cs) ← readFixed? 2 (← readMark? ':' cs)
      pure (decide (hour < 24 ∧ minute < 60) && cs.isEmpty)) == some true

/-- Moments: a date, a clock time, or both, and then with an optional offset. -/
def isMoment (cs : List Char) : Bool :=
  match readDate? cs with
  | some (_, []) => true
  | some (_, c :: r) => (c == 'T' || c == 't' || c == ' ') && match readClock? r with
    | some offset => isOffset offset
    | none => false
  | none => readClock? cs == some []

/-- A truth value, a number or a moment. -/
def scalar? (cs : List Char) : Option Entry :=
  if cs == "true".toList then some (.flag true)
  else if cs == "false".toList then some (.flag false)
  else if isInteger cs || isFloat cs || isMoment cs then some .other
  else none

end Sift.Config
