import Sift.Json.Written
import Sift.Number.Decimal
import Sift.Read

/-!
# Reading JSON text

A strict reader: blanks between tokens, nothing after the value, at most 127 nested arrays and
objects, no lone surrogates, and no number beyond the range of floats. What is well formed is read
first, as it is written; what it stands for is decided afterwards.

* `readValue`: a value as it is written, or what stands before the place where it breaks off.
* `Written.ofText`: what a text holds.
* `read?`, `readWithin?`: the value of a text, with unique keys.
-/

namespace Sift.Json

open Sift.Number Sift.Text

/-- Blanks between tokens. -/
def isBlank (c : Char) : Bool := c == ' ' || c == '\t' || c == '\n' || c == '\r'

/-- Blanks in front of a token. -/
def skipBlank (s : List Char) : Scan (List Char) s := scanRun isBlank s

/-- One mark, after any blanks. -/
def readMark? (mark : Char) (s : List Char) : Option (Read Unit s) :=
  let t := skipBlank s
  match h : t.rest with
  | c :: _ => if c = mark then some (t.thenOne h ()) else none
  | [] => none

/-- Four hexadecimal digits. -/
def readHex4? (s : List Char) : Option (Read Nat s) :=
  match s with
  | a :: b :: c :: d :: r =>
    if [a, b, c, d].all isHexDigit then
      some (((Read.two (digitsValue 16 [a, b, c, d]) c d r).past b).past a)
    else none
  | _ => none

/-- Whether a code is the first half of a surrogate pair. -/
def isHighHalf (n : Nat) : Bool := 0xD800 ≤ n && n < 0xDC00

/-- Whether a code is the second half of a surrogate pair. -/
def isLowHalf (n : Nat) : Bool := 0xDC00 ≤ n && n < 0xE000

/-- The characters of codes: two halves together make a character beyond the first plane, and no
half may stand alone. -/
def characters? : List Nat → Option (List Char)
  | [] => some []
  | high :: low :: codes =>
    if isHighHalf high then
      if isLowHalf low then
        let c := Char.ofNat (0x10000 + (high - 0xD800) * 0x400 + (low - 0xDC00))
        (characters? codes).map (c :: ·)
      else none
    else if isLowHalf high then none
    else (characters? (low :: codes)).map (Char.ofNat high :: ·)
  | [code] => if isHighHalf code || isLowHalf code then none else some [Char.ofNat code]

/-- The text of codes. -/
def text? (codes : List Nat) : Option String := (characters? codes).map String.ofList

/-- The character of a short escape. -/
def shortEscape? (c : Char) : Option Char :=
  match c with
  | '"' => some '"'
  | '\\' => some '\\'
  | '/' => some '/'
  | 'b' => some '\x08'
  | 'f' => some '\x0c'
  | 'n' => some '\n'
  | 'r' => some '\r'
  | 't' => some '\t'
  | _ => none

/-- The code of an escape, read after its backslash. -/
def readEscape? (s : List Char) : Option (Read Nat s) :=
  match s with
  | 'u' :: r => (readHex4? r).map (Read.past 'u')
  | c :: r => (shortEscape? c).map fun d => .one d.toNat c r
  | [] => none

/-- The codes of the rest of a string, to its closing quote. -/
def readString? (s : List Char) : Option (Read (List Nat) s) :=
  match s with
  | [] => none
  | '"' :: r => some (.one [] '"' r)
  | '\\' :: r => do
    let code ← readEscape? r
    let codes ← readString? code.rest
    some ((code.thenRead codes (code.value :: codes.value)).past '\\')
  | c :: r =>
    if c.toNat < 0x20 then none
    else (readString? r).map fun codes => (codes.map (c.toNat :: ·)).past c
termination_by s.length
decreasing_by
  · exact Nat.lt_succ_of_lt code.shorter
  · exact length_lt_cons c r

/-- The characters of numbers. None of them may follow a number directly, so a number is the
longest run of them. -/
def isNumberChar (c : Char) : Bool :=
  c.isDigit || c == '-' || c == '+' || c == '.' || c == 'e' || c == 'E'

/-- A fractional part and an exponent that fill the rest of a number: the digits after the
point, and the exponent if there is one. -/
def readTail? (s : List Char) : Option (List Char × Option Int) :=
  let exponent (r : List Char) : Option (Option Int) :=
    if r.isEmpty then some none else (readExponent? r).map some
  match s with
  | '.' :: r =>
    let ds := r.takeWhile Char.isDigit
    if ds.isEmpty then none else (exponent (r.dropWhile Char.isDigit)).map (ds, ·)
  | r => (exponent r).map ([], ·)

/-- Digits appended to a number while it fits 64 bits, and the digits that are left. -/
def appendDigits (n : Nat) : List Char → Nat × List Char
  | [] => (n, [])
  | d :: ds =>
    let m := n * 10 + digitValue d
    if m < 0x10000000000000000 then appendDigits m ds else (n, d :: ds)

/-- A power of ten as a float. -/
def powerOfTen (e : Nat) : Float := ofDecimal false 1 e

/-- A float scaled by a power of ten, in one multiplication or division where the power is
itself a float, and in two divisions where it is too small for that. Nothing if the result is out of
range. -/
def scale? (x : Float) (e : Int) : Option Float :=
  if e > 308 then (if x == 0.0 then some x else none)
  else if 0 ≤ e then
    let y := x * powerOfTen e.toNat
    if y.isInf then none else some y
  else if -308 ≤ e then some (x / powerOfTen (-e).toNat)
  else if -616 ≤ e then some (x / powerOfTen 308 / powerOfTen (-e - 308).toNat)
  else some 0.0

/-- A float, from as many of its leading digits as fit 64 bits, scaled by a power of ten. Short
numbers are thereby read exactly, and long ones almost. -/
def scaled? (negative : Bool) (whole fraction : List Char) (e : Int) : Option Json :=
  let (n, moreWhole) := appendDigits 0 whole
  let (n, moreFraction) := appendDigits n fraction
  let places : Int := fraction.length - moreFraction.length
  (scale? (ofInt n) (e + moreWhole.length - places)).map fun x =>
    .float (if negative then -x else x)

/-- The value of a number, if it is in range. Digits alone are an integer where a 64-bit one can
hold it, and a float otherwise; a minus sign before zero makes the float that keeps it. The outer
`none` is for what is no number. -/
def number? (s : List Char) : Option (Option Json) :=
  let negative := s.head? == some '-'
  let body := if negative then s.drop 1 else s
  let whole := body.takeWhile Char.isDigit
  let n := digitsValue 10 whole
  if whole.isEmpty || (whole.head? == some '0' && whole.length != 1) then none
  else (readTail? (body.dropWhile Char.isDigit)).map fun
    | ([], none) =>
      if negative then
        if 0 < n ∧ n ≤ 0x8000000000000000 then some (.int (-n)) else scaled? true whole [] 0
      else if n < 0x10000000000000000 then some (.int n) else scaled? false whole [] 0
    | (fraction, e) => scaled? negative whole fraction (e.getD 0)

/-- A number at the front of a text. -/
def readNumber? (s : List Char) : Option (Read (Option Json) s) := do
  let run ← readRun? isNumberChar s
  let v ← number? run.value
  some (run.map fun _ => v)

/-- A value without parts, at the front of a text. -/
def readAtom? (s : List Char) : Option (Read (Option Json) s) :=
  match s with
  | 'n' :: 'u' :: 'l' :: 'l' :: r =>
    some (((Read.two (some .null) 'l' 'l' r).past 'u').past 'n')
  | 't' :: 'r' :: 'u' :: 'e' :: r =>
    some (((Read.two (some (.bool true)) 'u' 'e' r).past 'r').past 't')
  | 'f' :: 'a' :: 'l' :: 's' :: 'e' :: r =>
    some ((((Read.two (some (.bool false)) 's' 'e' r).past 'l').past 'a').past 'f')
  | '"' :: r =>
    (readString? r).map fun codes => (codes.map fun cs => (text? cs).map .str).past '"'
  | s => readNumber? s

/-- A key with its colon, after any blanks. -/
def readKey? (s : List Char) : Option (Read (Option String) s) := do
  let quote ← readMark? '"' s
  let key ← readString? quote.rest
  let colon ← readMark? ':' key.rest
  some ((quote.thenRead key ()).thenRead colon (text? key.value))

mutual

/-- A value, after any blanks, or what stands before the place where it breaks off. -/
def readValue (s : List Char) : Except (Option Written) (Read Written s) :=
  let t := skipBlank s
  match h : t.rest with
  | '[' :: r =>
    match readMark? ']' r with
    | some close => .ok (t.thenPast h close (.arr [] true))
    | none => match readItems r with
      | .ok items => .ok (t.thenPast h items (.arr items.value true))
      | .error items => .error (some (.arr items false))
  | '\x7b' :: r =>
    match readMark? '\x7d' r with
    | some close => .ok (t.thenPast h close (.obj [] true))
    | none => match readFields r with
      | .ok fields => .ok (t.thenPast h fields (.obj fields.value true))
      | .error fields => .error (some (.obj fields false))
  | _ =>
    match readAtom? t.rest with
    | some v => .ok (t.thenRead v (.atom v.value))
    | none => .error none
termination_by (s.length, 0)
decreasing_by all_goals exact Prod.Lex.left _ _ (Scan.length_lt _ h)

/-- Items, at least one, to the closing bracket, or those before the place where they break off.
-/
def readItems (s : List Char) : Except (List Written) (Read (List Written) s) :=
  match readValue s with
  | .error part => .error part.toList
  | .ok v =>
    match readMark? ',' v.rest with
    | some comma =>
      let before := v.thenRead comma ()
      match readItems before.rest with
      | .ok items => .ok (before.thenRead items (v.value :: items.value))
      | .error items => .error (v.value :: items)
    | none =>
      match readMark? ']' v.rest with
      | some close => .ok (v.thenRead close [v.value])
      | none => .error [v.value]
termination_by (s.length, 1)
decreasing_by
  · exact Prod.Lex.right _ Nat.zero_lt_one
  · exact Prod.Lex.left _ _ (Read.shorter _)

/-- Fields, at least one, to the closing brace, or those before the place where they break off.
-/
def readFields (s : List Char) :
    Except (List (Option String × Written)) (Read (List (Option String × Written)) s) :=
  match readKey? s with
  | none => .error []
  | some front =>
    match readValue front.rest with
    | .error part => .error (part.toList.map (front.value, ·))
    | .ok v =>
      let field := front.thenRead v (front.value, v.value)
      match readMark? ',' field.rest with
      | some comma =>
        let before := field.thenRead comma ()
        match readFields before.rest with
        | .ok fields => .ok (before.thenRead fields (field.value :: fields.value))
        | .error fields => .error (field.value :: fields)
      | none =>
        match readMark? '\x7d' field.rest with
        | some close => .ok (field.thenRead close [field.value])
        | none => .error [field.value]
termination_by (s.length, 1)
decreasing_by all_goals exact Prod.Lex.left _ _ (Read.shorter _)

end

/-- How deep arrays and objects may nest. -/
def maxDepth : Nat := 127

/-- Whether only blanks are left. -/
def isEnd (s : List Char) : Bool := (skipBlank s).rest.isEmpty

/-- What a text holds, as far as it goes, and whether it is one value and nothing else. -/
def Written.ofText (s : String) : Option Written × Bool :=
  match readValue s.toList with
  | .ok v => (some v.value, isEnd v.rest)
  | .error part => (part, false)

/-- The value of a text of bounded depth, with unique keys. -/
def readWithin? (depth : Nat) (s : String) : Option Json :=
  match Written.ofText s with
  | (some w, true) => w.value? depth
  | _ => none

/-- The value of a text, with unique keys. -/
def read? (s : String) : Option Json := readWithin? maxDepth s

end Sift.Json
