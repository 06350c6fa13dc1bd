import Sift.Filter.DateTime
import Sift.Json.Printer

/-!
# Tokens of filter texts

Literals, names and signs. Operator keywords are names; what they mean depends on their place.

* `Literal.toJson`: the constant that a literal stands for.
* `Token.text`: a token as error texts show it.
-/

namespace Sift.Filter

open Number

/-- A literal. Decimals keep their digits; an identifier of 128 bits and binary data are kept as
such. -/
inductive Literal where
  | null
  | string (s : String)
  | boolean (b : Bool)
  | single (x : Float)
  | double (x : Float)
  | decimal (text : String) (x : Float)
  | int (n : Int)
  | long (n : Int)
  | binary (bytes : List UInt8)
  | dateTime (t : Instant)
  | guid (value : BitVec 128)
  | duration (text : String)

namespace Literal

/-- The name of a literal's type. -/
def typeName : Literal → String
  | null => "Null"
  | string _ => "String"
  | boolean _ => "Boolean"
  | single _ => "Single"
  | double _ => "Double"
  | decimal _ _ => "Decimal"
  | int _ => "Int"
  | long _ => "Long"
  | binary _ => "Binary"
  | dateTime _ => "DateTime"
  | guid _ => "Guid"
  | duration _ => "Duration"

/-- A float as a constant; the ones that are not finite are texts. -/
def floatJson (x : Float) : Json :=
  if x.isNaN then .str "NaN"
  else if x.isInf then .str (if x > 0.0 then "INF" else "-INF")
  else .float x

/-- Bytes in hexadecimal, upper case. -/
def hexText (bytes : List UInt8) : String :=
  String.ofList <| bytes.flatMap fun b =>
    [(Nat.digitChar (b.toNat / 16)).toUpper, (Nat.digitChar (b.toNat % 16)).toUpper]

/-- Hexadecimal digits of a number, so many of them, lower case. -/
def hexDigits (value : Nat) : Nat → List Char
  | 0 => []
  | count + 1 => hexDigits (value / 16) count ++ [Nat.digitChar (value % 16)]

/-- An identifier of 128 bits in five groups. -/
def guidText (value : BitVec 128) : String :=
  let ds := hexDigits value.toNat 32
  let group (start count : Nat) := (ds.drop start).take count
  String.ofList <| group 0 8 ++ '-' :: group 8 4 ++ '-' :: group 12 4 ++ '-' :: group 16 4 ++
    '-' :: group 20 12

/-- The constant that a literal stands for. -/
def toJson : Literal → Json
  | null => .null
  | string s => .str s
  | boolean b => .bool b
  | single x => floatJson x
  | double x => floatJson x
  | decimal _ x => floatJson x
  | int n => .int n
  | long n => .int n
  | binary bytes => .str (hexText bytes)
  | dateTime t => .str t.text
  | guid value => .str (guidText value)
  | duration text => .str text

end Literal

/-- A sign of one character. -/
inductive Sign where
  | open_
  | close
  | slash
  | comma
  | minus
  deriving DecidableEq, Repr

/-- The character of a sign. -/
def Sign.char : Sign → Char
  | .open_ => '('
  | .close => ')'
  | .slash => '/'
  | .comma => ','
  | .minus => '-'

/-- A token. -/
inductive Token where
  | literal (l : Literal)
  | name (s : String)
  | sign (s : Sign)

/-- A token as error texts show it. -/
def Token.text : Token → String
  | literal l => l.toJson.text
  | name s => s
  | sign s => s.char.toString

end Sift.Filter
