import Sift.Text.Alphabetic
import Sift.Text.Numeric
import Sift.Text.Mark

/-!
# Character classes

The classes that the notations of the library are built from: letters and numbers as of Unicode 17,
words and decimal digits as of Unicode 16. ASCII is decided by core's own tests and everything above
it by the range tables, so a proof about ASCII text never meets a table.

* `isWhite`: white space, of all scripts.
* `isAlphabetic`, `isAlphanumeric`: how identifiers start and go on.
* `isWord`: the characters of a name that an identifier template replaces.
* `isDecimalDigit`: decimal digits of all scripts.
-/

namespace Sift.Text

/-- Membership in a range table. -/
def inRanges (table : List (Nat × Nat)) (n : Nat) : Bool :=
  table.any fun range => decide (range.1 ≤ n) && decide (n ≤ range.2)

/-- White space: tab to carriage return, the blank, and the blanks and separators above ASCII.
-/
def isWhite (c : Char) : Bool :=
  inRanges [(0x09, 0x0d), (0x20, 0x20), (0x85, 0x85), (0xa0, 0xa0), (0x1680, 0x1680),
    (0x2000, 0x200a), (0x2028, 0x2029), (0x202f, 0x202f), (0x205f, 0x205f),
    (0x3000, 0x3000)] c.toNat

/-- Letters and the marks that Unicode counts as alphabetic. -/
def isAlphabetic (c : Char) : Bool :=
  if c.toNat < 0x80 then c.isAlpha else inRanges alphabeticRanges c.toNat

/-- Numbers of any kind: decimal digits, letter numbers and others. -/
def isNumeric (c : Char) : Bool :=
  if c.toNat < 0x80 then c.isDigit else inRanges numericRanges c.toNat

/-- Letters and numbers. -/
def isAlphanumeric (c : Char) : Bool := isAlphabetic c || isNumeric c

/-- Decimal digits of all scripts, as of Unicode 16. -/
def isDecimalDigit (c : Char) : Bool :=
  if c.toNat < 0x80 then c.isDigit else inRanges decimalRanges c.toNat

/-- Word characters: letters, marks, decimal digits, connector punctuation and join controls, as
of Unicode 16. -/
def isWord (c : Char) : Bool :=
  if c.toNat < 0x80 then c.isAlphanum || c == '_'
  else (inRanges alphabeticRanges c.toNat && !inRanges lateRanges c.toNat) ||
    inRanges markRanges c.toNat || inRanges decimalRanges c.toNat ||
    inRanges connectorRanges c.toNat

/-- How an identifier starts: a letter, an underscore or a dollar sign. -/
def isNameStart (c : Char) : Bool := isAlphabetic c || c == '_' || c == '$'

/-- How an identifier goes on: as it starts, or with a number. -/
def isNameChar (c : Char) : Bool := isAlphanumeric c || c == '_' || c == '$'

/-- Hexadecimal digits, ASCII only. -/
def isHexDigit (c : Char) : Bool :=
  c.isDigit || ('a' ≤ c && c ≤ 'f') || ('A' ≤ c && c ≤ 'F')

end Sift.Text
