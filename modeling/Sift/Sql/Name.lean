import Sift.Text.Basic
import Sift.Read

/-!
# Identifiers

The identifier template is applied to every longest run of word characters; whatever stands between
runs, such as the dots of a qualified name, is kept.

* `fill`: a template with its placeholder replaced.
* `quoteName`: a name with the template applied to every run.
-/

namespace Sift.Sql

open Text

/-- A template filled in: every `$1`, from the left, is replaced. -/
def fill (word : List Char) : List Char → List Char
  | '$' :: '1' :: rest => word ++ fill word rest
  | c :: rest => c :: fill word rest
  | [] => []

/-- A name under a template, as characters. -/
def quoteNameChars (template : List Char) (name : List Char) : List Char :=
  match name with
  | [] => []
  | c :: rest =>
    if isWord c then
      fill (c :: rest.takeWhile isWord) template ++
        quoteNameChars template (rest.dropWhile isWord)
    else c :: quoteNameChars template rest
termination_by name.length
decreasing_by
  · have := length_dropWhile_le isWord rest; simp; omega
  · simp

/-- A name under a template. -/
def quoteName (template name : String) : String :=
  String.ofList (quoteNameChars template.toList name.toList)

end Sift.Sql
