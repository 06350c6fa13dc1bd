import Sift.Number.Shortest
import Sift.Text.Basic

/-!
# Numbers in decimal text

Writing integers and floats in decimal, and reading decimal text as a float.

* `intText`: an integer in decimal.
* `positional`, `FloatFormat.write`: floats with the fewest digits that read back.
* `readFloat?`: the float nearest to a decimal text.
* `digitsValue`: the value of a run of digits in a radix.
-/

namespace Sift.Number

/-- A natural number in decimal. -/
def natText (n : Nat) : String := String.ofList (Nat.toDigits 10 n)

/-- An integer in decimal, with a sign only when negative. -/
def intText (n : Int) : String :=
  if n < 0 then "-" ++ natText n.natAbs else natText n.natAbs

/-- The value of a digit in any radix up to 36, either letter case. -/
def digitValue (c : Char) : Nat :=
  if c.isDigit then c.toNat - '0'.toNat
  else if 'a' ≤ c ∧ c ≤ 'z' then c.toNat - 'a'.toNat + 10
  else if 'A' ≤ c ∧ c ≤ 'Z' then c.toNat - 'A'.toNat + 10
  else 36

/-- The value of a run of digits, first digit highest. -/
def digitsValue (radix : Nat) (ds : List Char) : Nat :=
  ds.foldl (fun n c => n * radix + digitValue c) 0

/-- Zeros in a row. -/
def zeros (n : Nat) : List Char := List.replicate n '0'

/-- Positional decimal of `d * 10 ^ k`, with a fractional part only when there is one. -/
def positional (d : Nat) (k : Int) : List Char :=
  let ds := Nat.toDigits 10 d
  if 0 ≤ k then ds ++ zeros k.toNat
  else
    let places := (-k).toNat
    let padded := zeros (places + 1 - ds.length) ++ ds
    padded.take (padded.length - places) ++ '.' :: padded.drop (padded.length - places)

/-- How floats are written: the exponents written positionally, whether an integral value keeps
a fractional zero, and how a tie between two digits is broken. -/
structure FloatFormat where
  positionalFrom : Int
  positionalTo : Int
  fractionalZero : Bool
  tie : Tie

/-- Scientific decimal of `d * 10 ^ k`: one digit before the point, the exponent with its sign.
-/
def scientific (d : Nat) (k : Int) : List Char :=
  let ds := Nat.toDigits 10 d
  let e := k + (ds.length - 1 : Nat)
  let fraction := match ds.drop 1 with
    | [] => []
    | rest => '.' :: rest
  ds.take 1 ++ fraction ++ 'e' :: (if e < 0 then '-' else '+') :: Nat.toDigits 10 e.natAbs

/-- A finite float in a format, with the fewest digits that read back. -/
def FloatFormat.write (format : FloatFormat) (x : Float) : String :=
  let p := parts x
  let sign := if p.negative then ['-'] else []
  let (d, k) := if p.significand = 0 then (0, 0) else shortest format.tie p.significand p.exponent
  let e := k + ((Nat.toDigits 10 d).length - 1 : Nat)
  String.ofList <| sign ++
    if format.positionalFrom ≤ e ∧ e ≤ format.positionalTo then
      positional d k ++ (if 0 ≤ k ∧ format.fractionalZero then ['.', '0'] else [])
    else scientific d k

/-- The float nearest to `± n * 10 ^ e`. Magnitudes far outside the range are decided by their
number of digits alone. -/
def ofDecimal (negative : Bool) (n : Nat) (e : Int) : Float :=
  let top := e + (Nat.toDigits 10 n).length
  let size : Float :=
    if n = 0 ∨ top < -400 then 0.0
    else if top > 400 then 1.0 / 0.0
    else if 0 ≤ e then Float.ofScientific n false e.toNat
    else Float.ofScientific n true (-e).toNat
  if negative then -size else size

/-- The single-precision float nearest to `± n * 10 ^ e`, widened. -/
def ofDecimalSingle (negative : Bool) (n : Nat) (e : Int) : Float :=
  let top := e + (Nat.toDigits 10 n).length
  let size : Float :=
    if n = 0 ∨ top < -100 then 0.0
    else if top > 100 then 1.0 / 0.0
    else if 0 ≤ e then (Float32.ofScientific n false e.toNat).toFloat
    else (Float32.ofScientific n true (-e).toNat).toFloat
  if negative then -size else size

/-- An integer as the nearest float. -/
def ofInt (n : Int) : Float := ofDecimal (n < 0) n.natAbs 0

/-- A decimal text taken apart: its sign, all its digits as one number, and the power of ten
that they are to be multiplied with. -/
structure DecimalText where
  negative : Bool
  digits : Nat
  exponent : Int

/-- The sign in front of a text, and the rest. -/
def readSign : List Char → Bool × List Char
  | '-' :: cs => (true, cs)
  | '+' :: cs => (false, cs)
  | cs => (false, cs)

/-- An exponent part that fills the rest of a text: nothing, or a mark, a sign and digits. -/
def readExponent? : List Char → Option Int
  | [] => some 0
  | c :: cs =>
    let (negative, ds) := readSign cs
    if (c == 'e' || c == 'E') && !ds.isEmpty && ds.all Char.isDigit then
      some (signed negative (digitsValue 10 ds))
    else none

/-- A decimal text: an optional sign, digits with an optional point among or around them, and an
optional exponent. At least one digit is required. -/
def readDecimal? (cs : List Char) : Option DecimalText :=
  let (negative, body) := readSign cs
  let whole := body.takeWhile Char.isDigit
  let afterWhole := body.dropWhile Char.isDigit
  let (fraction, rest) := match afterWhole with
    | '.' :: r => (r.takeWhile Char.isDigit, r.dropWhile Char.isDigit)
    | r => ([], r)
  if whole.isEmpty && fraction.isEmpty then none
  else (readExponent? rest).map fun e =>
    { negative, digits := digitsValue 10 (whole ++ fraction), exponent := e - fraction.length }

/-- A float in decimal text, or one of the words for the values that are not finite, in any
letter case. -/
def readFloat? (cs : List Char) : Option Float :=
  match readDecimal? cs with
  | some t => some (ofDecimal t.negative t.digits t.exponent)
  | none =>
    let (negative, word) := readSign cs
    let size : Option Float := match String.ofList (word.map Char.toLower) with
      | "inf" | "infinity" => some (1.0 / 0.0)
      | "nan" => some (0.0 / 0.0)
      | _ => none
    size.map fun x => if negative then -x else x

end Sift.Number
