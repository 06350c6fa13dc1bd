import Sift.Error
import Sift.Json.Basic
import Sift.Read

/-!
# Tokens of closures

Names, numbers, texts and punctuators, read from the front of a source with white space and comments
skipped.

* `Token.show`: a token as error texts show it.
* `tokenize`: all tokens of a source.
-/

namespace Sift.Lambda

open Text Number

/-- A token. -/
inductive Token where
  | name (s : String)
  | number (x : Float)
  | text (s : String)
  | punct (symbol : String)

/-- Floats in error texts are always positional, without a fractional zero. A tie goes up. -/
def plainFormat : FloatFormat := ⟨-400, 400, false, .up⟩

/-- A token as error texts show it. -/
def Token.show : Token → String
  | name s => s
  | number x => if x.isInf then "inf" else plainFormat.write x
  | text s => "'" ++ s ++ "'"
  | punct symbol => symbol

/-- The first token as error texts show it, or the end of the input. -/
def showFirst : List Token → String
  | [] => "end of input"
  | t :: _ => t.show

/-- The punctuators, longest first, so that the first match is the longest. -/
def punctuators : List String :=
  [">>>", "===", "!==", "=>", "==", "!=", "<=", ">=", "&&", "||", "<<", ">>", "(", ")", "\x7b",
   "\x7d", "[", "]", ",", ";", ".", "<", ">", "+", "-", "*", "/", "%", "!", "&", "|", "^", "~",
   "?", ":", "="]

/-- The rest after a comment's end. -/
def closeComment? (s : List Char) : Option (Scan Unit s) :=
  match s with
  | '*' :: '/' :: r => some ((Scan.one () '/' r).past '*')
  | c :: r => (closeComment? r).map (Scan.past c)
  | [] => none

/-- The rest after white space and comments. A comment of slashes ends with the line. -/
def skipSpace (s : List Char) : Except Stop (Scan Unit s) :=
  match s with
  | '/' :: '/' :: r => do
    let line := scanRun (· != '\n') r
    let t ← skipSpace line.rest
    return ((line.thenScan t ()).past '/').past '/'
  | '/' :: '*' :: r =>
    match closeComment? r with
    | none => .error ⟨.openComment, s⟩
    | some c => do
      let t ← skipSpace c.rest
      return ((c.thenScan t ()).past '*').past '/'
  | c :: r =>
    if isWhite c then do
      return (← skipSpace r).past c
    else .ok (.nothing () (c :: r))
  | [] => .ok (.nothing () [])
termination_by s.length
decreasing_by
  · exact line.length_lt_cons_cons _ _
  · exact c.length_lt_cons_cons _ _
  · exact length_lt_cons c r

/-- The characters of a number: digits, points and exponent marks, and a sign right after such a
mark. -/
def scanNumber (afterMark : Bool) (s : List Char) : Scan (List Char) s :=
  match s with
  | c :: r =>
    if c.isDigit || c == '.' || c == 'e' || c == 'E' || (afterMark && (c == '+' || c == '-')) then
      ((scanNumber (c == 'e' || c == 'E') r).map (c :: ·)).past c
    else .nothing [] (c :: r)
  | [] => .nothing [] []

/-- A number in decimal, starting at `c`. -/
def readDecimal (c : Char) (r : List Char) : Except Stop (Read Token (c :: r)) :=
  let t := scanNumber false r
  let text := c :: t.value
  match t.rest with
  | d :: _ =>
    if isNameStart d then .error ⟨.wordAfterNumber, t.rest⟩ else finish text t
  | [] => finish text t
where
  /-- The value of the characters of a number. -/
  finish (text : List Char) (t : Scan (List Char) r) : Except Stop (Read Token (c :: r)) :=
    match readFloat? text with
    | some x => .ok ((t.map fun _ => .number x).after c)
    | none => .error ⟨.badNumber (String.ofList text), c :: r⟩

/-- A number in hexadecimal, after its mark. `start` is the text from the mark. -/
def readHexadecimal (start r : List Char) : Except Stop (Scan Token r) :=
  let ds := scanRun isHexDigit r
  let n := digitsValue 16 ds.value
  if ds.value.isEmpty || !Json.inSigned n then .error ⟨.badHexadecimal, start⟩
  else .ok (ds.map fun _ => .number (ofInt n))

/-- A character given by four hexadecimal digits. -/
def readCode (s : List Char) : Except Stop (Read Char s) :=
  match s with
  | a :: b :: c :: d :: r =>
    let n := digitsValue 16 [a, b, c, d]
    if [a, b, c, d].all isHexDigit && !(0xD800 ≤ n && n < 0xE000) then
      .ok (((Read.two (Char.ofNat n) c d r).past b).past a)
    else .error ⟨.badUnicodeEscape, s⟩
  | _ => .error ⟨.badUnicodeEscape, s⟩

/-- The character of a short escape; characters without a meaning stand for themselves. -/
def shortEscape (c : Char) : Char :=
  match c with
  | 'n' => '\n'
  | 't' => '\t'
  | 'r' => '\r'
  | 'b' => '\x08'
  | 'f' => '\x0c'
  | 'v' => '\x0b'
  | '0' => '\x00'
  | c => c

/-- The rest of a text, to the closing quote. A text ends before the line does. -/
def readText (start : List Char) (quote : Char) (s : List Char) :
    Except Stop (Read (List Char) s) :=
  match s with
  | [] => .error ⟨.openString, start⟩
  | '\n' :: _ => .error ⟨.openString, start⟩
  | c :: r =>
    if c = quote then .ok (.one [] c r)
    else if c = '\\' then
      match r with
      | [] => .error ⟨.openString, start⟩
      | 'u' :: r => do
        let d ← readCode r
        let t ← readText start quote d.rest
        return ((d.thenRead t (d.value :: t.value)).past 'u').past c
      | d :: r => do
        return (((← readText start quote r).map (shortEscape d :: ·)).past d).past c
    else do
      return ((← readText start quote r).map (c :: ·)).past c
termination_by s.length
decreasing_by
  · exact Nat.lt_trans (d.length_lt_cons _) (length_lt_cons _ _)
  · exact length_lt_cons_cons _ _ _
  · exact length_lt_cons _ _

/-- A punctuator that starts with `c`: the first of a list that the text starts with. -/
def readPunct? (c : Char) (r : List Char) : List String → Option (Read Token (c :: r))
  | [] => none
  | symbol :: symbols =>
    if symbol.toList.isPrefixOf (c :: r) then
      some (((scanCount r (symbol.toList.length - 1)).map fun _ => Token.punct symbol).after c)
    else readPunct? c r symbols

/-- One token, starting at `c`. -/
def readToken (c : Char) (r : List Char) : Except Stop (Read Token (c :: r)) :=
  let afterPoint := match r with
    | d :: _ => c == '.' && d.isDigit
    | [] => false
  if c.isDigit || afterPoint then
    match r with
    | x :: digits =>
      if c = '0' ∧ (x = 'x' ∨ x = 'X') then do
        return ((← readHexadecimal (c :: x :: digits) digits).after x).past c
      else readDecimal c (x :: digits)
    | [] => readDecimal c []
  else if c = '\'' ∨ c = '"' then do
    return ((← readText (c :: r) c r).map fun cs => .text (String.ofList cs)).past c
  else if isNameStart c then
    .ok ((runFrom isNameChar r c).map fun cs => .name (String.ofList cs))
  else
    match readPunct? c r punctuators with
    | some t => .ok t
    | none => .error ⟨.unexpectedChar c, c :: r⟩

/-- All tokens. -/
def readTokens (s : List Char) : Except Stop (List Token) := do
  let t ← skipSpace s
  match h : t.rest with
  | [] => return []
  | c :: r => do
    let u ← readToken c r
    have := t.rest_length_lt h u
    let us ← readTokens u.rest
    return u.value :: us
termination_by s.length

/-- The tokens of a source. -/
def tokenize (source : String) : Except Error (List Token) :=
  match readTokens source.toList with
  | .ok ts => .ok ts
  | .error stop => .error (stop.toError source.toList)

end Sift.Lambda
