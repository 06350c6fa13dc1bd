import Sift.Text.Basic

/-!
# String literals

Texts as SQL string literals, and literal search texts inside regular expressions.

* `quoteText`: a text as a string literal.
* `escapePattern`: a pattern that matches a text literally.
-/

namespace Sift.Sql

/-- A character inside a string literal: a quote is written twice, and the control characters
with a name, double quotes and backslashes after a backslash. -/
def escapeChar (c : Char) : List Char :=
  match c with
  | '\x00' => ['\\', '0']
  | '\x08' => ['\\', 'b']
  | '\t' => ['\\', 't']
  | '\n' => ['\\', 'n']
  | '\r' => ['\\', 'r']
  | '\x1a' => ['\\', 'Z']
  | '\'' => ['\'', '\'']
  | '"' => ['\\', '"']
  | '\\' => ['\\', '\\']
  | c => [c]

/-- A text as a string literal, as characters. -/
def quoteChars (cs : List Char) : List Char := '\'' :: cs.flatMap escapeChar ++ ['\'']

/-- A text as a string literal. -/
def quoteText (s : String) : String := String.ofList (quoteChars s.toList)

/-- The characters with a meaning in regular expressions. -/
def isMeta (c : Char) : Bool :=
  ['\\', '.', '+', '*', '?', '(', ')', '|', '[', ']', '\x7b', '\x7d', '^', '$', '#', '&', '-',
    '~'].contains c

/-- A pattern for a literal text: a backslash before each character with a meaning. -/
def escapePattern (cs : List Char) : List Char :=
  cs.flatMap fun c => if isMeta c then ['\\', c] else [c]

end Sift.Sql
