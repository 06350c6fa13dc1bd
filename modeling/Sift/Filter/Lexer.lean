import Sift.Error
import Sift.Filter.Token
import Sift.Read
import Sift.Text.Case

/-!
# From filter texts to tokens

Tokens are read from the front of the text, white space between them skipped. A fault carries the
text from where it was found, so that reading does not depend on what stands before; the byte offset
is computed at the end.

* `readToken`: one token.
* `tokenize`: all tokens of a text.
-/

namespace Sift.Filter

open Text Number

/-- The rest of a quoted text, to its closing quote; a quote written twice stands for one. -/
def readQuoted? (s : List Char) : Option (Read (List Char) s) :=
  match s with
  | [] => none
  | '\'' :: '\'' :: r => (readQuoted? r).map fun q => ((q.map ('\'' :: ·)).past '\'').past '\''
  | '\'' :: r => some (.one [] '\'' r)
  | c :: r => (readQuoted? r).map fun q => (q.map (c :: ·)).past c

/-- A fractional part, if there is one. A second point is a fault. -/
def scanFraction (s : List Char) : Except Stop (Scan (Option (List Char)) s) :=
  match s with
  | '.' :: r =>
    if (r.dropWhile Char.isDigit).head? = some '.' then
      .error ⟨.secondPoint, r.dropWhile Char.isDigit⟩
    else .ok (((scanRun Char.isDigit r).map some).past '.')
  | s => .ok (.nothing none s)

/-- A sign in front of an exponent, if there is one. -/
def scanSign (s : List Char) : Scan (Option Char) s :=
  match s with
  | '+' :: r => .one (some '+') '+' r
  | '-' :: r => .one (some '-') '-' r
  | s => .nothing none s

/-- An exponent, if there is one: its sign and its digits. One without digits is a fault. -/
def scanExponent (s : List Char) : Except Stop (Scan (Option (Option Char × List Char)) s) :=
  match s with
  | c :: r =>
    if c = 'e' ∨ c = 'E' then
      let sign := scanSign r
      let ds := scanRun Char.isDigit sign.rest
      if ds.value.isEmpty then .error ⟨.emptyExponent, sign.rest⟩
      else .ok ((sign.thenScan ds (some (sign.value, ds.value))).past c)
    else .ok (.nothing none (c :: r))
  | [] => .ok (.nothing none [])

/-- The type that a number is marked with. -/
inductive Suffix where
  | single
  | double
  | decimal
  | long
  deriving DecidableEq, Repr

/-- A type mark, if there is one, in either letter case. -/
def scanSuffix (s : List Char) : Scan (Option Suffix) s :=
  match s with
  | c :: r =>
    let suffix? : Option Suffix := match c.toUpper with
      | 'F' => some .single
      | 'D' => some .double
      | 'M' => some .decimal
      | 'L' => some .long
      | _ => none
    match suffix? with
    | some suffix => .one (some suffix) c r
    | none => .nothing none (c :: r)
  | [] => .nothing none []

/-- Integers of 32 bits. -/
def fitsInt (n : Int) : Bool := -0x80000000 ≤ n && n < 0x80000000

/-- The literal of a number: its sign, its digits before and after the point, its exponent and
its type mark. Digits alone are the smaller integer type that holds them. -/
def numberLiteral (negative : Bool) (whole : List Char) (fraction : Option (List Char))
    (exponent : Option (Option Char × List Char)) (suffix : Option Suffix) :
    Except LexFault Literal :=
  let text := String.ofList <| (if negative then ['-'] else []) ++ whole ++
    (match fraction with | some ds => '.' :: ds | none => []) ++
    (match exponent with | some (sign, ds) => 'e' :: sign.toList ++ ds | none => [])
  let n := signed negative (digitsValue 10 whole)
  let digits := digitsValue 10 (whole ++ fraction.getD [])
  let power : Int := match exponent with
    | some (sign, ds) => signed (sign = some '-') (digitsValue 10 ds)
    | none => 0
  let scale := power - (fraction.getD []).length
  let integral := fraction.isNone && exponent.isNone
  match suffix with
  | some .single => .ok (.single (ofDecimalSingle negative digits scale))
  | some .double => .ok (.double (ofDecimal negative digits scale))
  | some .decimal => .ok (.decimal text (ofDecimal negative digits scale))
  | some .long =>
    if integral && Json.inSigned n then .ok (.long n) else .error (.badLiteral "long" text)
  | none =>
    if !integral then .ok (.double (ofDecimal negative digits scale))
    else if fitsInt n then .ok (.int n)
    else if Json.inSigned n then .ok (.long n)
    else .error (.outOfRange text)

/-- The end of a number: no character of a name and no point may follow it directly. -/
def endOfNumber (s : List Char) : Except Stop Unit :=
  match s with
  | c :: _ => if isNameChar c || c == '.' then .error ⟨.charAfterNumber c, s⟩ else .ok ()
  | [] => .ok ()

/-- A number, whose digits start at `c`. `start` is the text from its sign. -/
def readNumber (start : List Char) (negative : Bool) (c : Char) (r : List Char) :
    Except Stop (Read Literal (c :: r)) := do
  let whole := runFrom Char.isDigit r c
  let fraction ← scanFraction whole.rest
  let exponent ← scanExponent fraction.rest
  let suffix := scanSuffix exponent.rest
  endOfNumber suffix.rest
  match numberLiteral negative whole.value fraction.value exponent.value suffix.value with
  | .ok l => .ok (whole.thenScan (fraction.thenScan (exponent.thenScan suffix ()) ()) l)
  | .error fault => .error ⟨fault, start⟩

/-- The text after an optional part of a duration: digits and a unit. -/
def dropUnit (unit : Char) (cs : List Char) : List Char :=
  match cs.takeWhile isDecimalDigit, cs.dropWhile isDecimalDigit with
  | _ :: _, c :: r => if c = unit then r else cs
  | _, _ => cs

/-- The text after optional seconds of a duration, whose digits may have a fraction. -/
def dropSeconds (cs : List Char) : List Char :=
  match cs.takeWhile isDecimalDigit, cs.dropWhile isDecimalDigit with
  | _ :: _, 'S' :: r => r
  | _ :: _, '.' :: r =>
    match r.takeWhile isDecimalDigit, r.dropWhile isDecimalDigit with
    | _ :: _, 'S' :: r' => r'
    | _, _ => cs
  | _, _ => cs

/-- Durations: years, months and days, then hours, minutes and seconds after a `T`; at least one
of them, and one after the `T`. Digits of all scripts count. -/
def isDuration (text : List Char) : Bool :=
  let unsigned := match text with
    | '-' :: r => r
    | r => r
  match unsigned with
  | 'P' :: r =>
    let afterDate := dropUnit 'D' (dropUnit 'M' (dropUnit 'Y' r))
    let afterTime := match afterDate with
      | 'T' :: t => dropSeconds (dropUnit 'M' (dropUnit 'H' t))
      | t => t
    afterTime.isEmpty && !r.isEmpty && text.getLast? != some 'T'
  | _ => false

/-- Bytes in hexadecimal, two digits each. -/
def readBytes? : List Char → Option (List UInt8)
  | [] => some []
  | a :: b :: cs =>
    if isHexDigit a && isHexDigit b then
      (readBytes? cs).map (UInt8.ofNat (digitsValue 16 [a, b]) :: ·)
    else none
  | [_] => none

/-- An identifier of 128 bits in groups of 8, 4, 4, 4 and 12 hexadecimal digits. -/
def readGuid? (text : List Char) : Option (BitVec 128) :=
  let groups := text.splitOn '-'
  if groups.map List.length = [8, 4, 4, 4, 12] ∧ groups.flatten.all isHexDigit then
    some (BitVec.ofNat 128 (digitsValue 16 groups.flatten))
  else none

/-- Types that a literal can name. -/
inductive TypeName where
  | guid
  | dateTime
  | duration
  | binary
  deriving DecidableEq, Repr

/-- The type of a word, in lower case. -/
def TypeName.ofWord? : String → Option TypeName
  | "guid" => some guid
  | "datetime" => some dateTime
  | "time" => some duration
  | "binary" => some binary
  | "x" => some binary
  | _ => none

/-- A type in error texts. -/
def TypeName.text : TypeName → String
  | guid => "guid"
  | dateTime => "datetime"
  | duration => "duration"
  | binary => "binary"

/-- A literal of a named type. -/
def typedLiteral? (type : TypeName) (text : List Char) : Option Literal :=
  match type with
  | .guid => (readGuid? text).map .guid
  | .dateTime => (Instant.read? text).map .dateTime
  | .duration => if isDuration text then some (.duration (String.ofList text)) else none
  | .binary => (readBytes? text).map .binary

/-- The token of a word: a literal if the word is one, else a name. -/
def wordToken (word : String) : Token :=
  match word with
  | "true" => .literal (.boolean true)
  | "false" => .literal (.boolean false)
  | "null" => .literal .null
  | "INF" => .literal (.double (1.0 / 0.0))
  | "NaN" => .literal (.double (0.0 / 0.0))
  | "Nan" => .literal (.double (0.0 / 0.0))
  | word => .name word

/-- A word starting at `c`: a literal of a type that it names, if a quote follows directly, else
a token of its own. -/
def readWord (c : Char) (r : List Char) : Except Stop (Read Token (c :: r)) :=
  let word := runFrom isNameChar r c
  let name := String.ofList word.value
  match h : word.rest, TypeName.ofWord? (lower name) with
  | '\'' :: q, some type =>
    match readQuoted? q with
    | none => .error ⟨.openString, word.rest⟩
    | some text =>
      match typedLiteral? type text.value with
      | some l => .ok (word.thenPast h text (.literal l))
      | none => .error ⟨.badLiteral type.text (String.ofList text.value), c :: r⟩
  | _, _ => .ok (word.map fun _ => wordToken name)

/-- A token that starts with a minus sign: a number, negative infinity, or the sign alone. -/
def readMinus (r : List Char) : Except Stop (Read Token ('-' :: r)) :=
  match r with
  | c :: r =>
    if c.isDigit then do
      let n ← readNumber ('-' :: c :: r) true c r
      return (n.map .literal).past '-'
    else
      let word := runFrom isNameChar r c
      if isNameStart c && String.ofList word.value == "INF" then
        .ok ((word.map fun _ => .literal (.double (-1.0 / 0.0))).past '-')
      else .ok (.one (.sign .minus) '-' (c :: r))
  | [] => .ok (.one (.sign .minus) '-' [])

/-- One token, whose first character is `c`. -/
def readToken (c : Char) (r : List Char) : Except Stop (Read Token (c :: r)) :=
  match c with
  | '\'' => match readQuoted? r with
    | some q => .ok ((q.map fun cs => .literal (.string (String.ofList cs))).past '\'')
    | none => .error ⟨.openString, '\'' :: r⟩
  | '(' => .ok (.one (.sign .open_) '(' r)
  | ')' => .ok (.one (.sign .close) ')' r)
  | '/' => .ok (.one (.sign .slash) '/' r)
  | ',' => .ok (.one (.sign .comma) ',' r)
  | '-' => readMinus r
  | c =>
    if c.isDigit then do return (← readNumber (c :: r) false c r).map .literal
    else if isNameStart c then readWord c r
    else .error ⟨.unexpectedChar c, c :: r⟩

/-- All tokens, white space between them skipped. -/
def readTokens (s : List Char) : Except Stop (List Token) :=
  let white := scanRun isWhite s
  match h : white.rest with
  | [] => .ok []
  | c :: r => do
    let t ← readToken c r
    have := white.rest_length_lt h t
    let ts ← readTokens t.rest
    return t.value :: ts
termination_by s.length

/-- The tokens of a text. -/
def tokenize (source : String) : Except Error (List Token) :=
  match readTokens source.toList with
  | .ok ts => .ok ts
  | .error stop => .error (stop.toError source.toList)

end Sift.Filter
