import Sift.Json.Basic
import Sift.Number.Decimal

/-!
# JSON text

The compact text of a value: no blanks, characters above ASCII as they are, and floats with the
fewest digits that read back.

* `numberFormat`: where floats are written positionally.
* `text`: the text of a value.
-/

namespace Sift.Json

open Sift.Number Sift.Text

/-- Floats in JSON are positional for decimal exponents from -5 to 15 and keep a fractional zero
there, so that they read back as floats. A tie goes to the even digit. -/
def numberFormat : FloatFormat := ⟨-5, 15, true, .toEven⟩

/-- A hexadecimal digit in lower case. -/
def hexDigit (n : Nat) : Char := Nat.digitChar n

/-- A character inside a string: quotes, backslashes and control characters are escaped. -/
def escapeChar (c : Char) : List Char :=
  match c with
  | '"' => ['\\', '"']
  | '\\' => ['\\', '\\']
  | '\x08' => ['\\', 'b']
  | '\x0c' => ['\\', 'f']
  | '\n' => ['\\', 'n']
  | '\r' => ['\\', 'r']
  | '\t' => ['\\', 't']
  | c =>
    if c.toNat < 0x20 then ['\\', 'u', '0', '0', hexDigit (c.toNat / 16), hexDigit (c.toNat % 16)]
    else [c]

/-- A string in quotes. -/
def quote (s : String) : String :=
  String.ofList ('"' :: s.toList.flatMap escapeChar ++ ['"'])

mutual

/-- The compact text of a value. -/
def text : Json → String
  | .null => "null"
  | .bool true => "true"
  | .bool false => "false"
  | .int n => intText n
  | .float x => numberFormat.write x
  | .str s => quote s
  | .arr items => "[" ++ joinWith "," (itemTexts items) ++ "]"
  | .obj fields => "\x7b" ++ joinWith "," (fieldTexts fields) ++ "\x7d"

/-- The texts of items. -/
def itemTexts : List Json → List String
  | [] => []
  | v :: items => text v :: itemTexts items

/-- The texts of fields. -/
def fieldTexts : List (String × Json) → List String
  | [] => []
  | (k, v) :: fields => (quote k ++ ":" ++ text v) :: fieldTexts fields

end

end Sift.Json
