import Sift.Text.Cased
import Sift.Text.CaseTable

/-!
# Letter case

Lower and upper case of whole texts. One letter may become several (`ß` is `SS` in upper case), and
a capital sigma depends on its context: it takes its final form after a cased letter when none
follows, where marks and other case-ignorable characters are looked through.

* `lower`, `upper`: the case of a list of characters.
* `asciiLower`: lower case of ASCII letters alone, for keywords and registered names.
-/

namespace Sift.Text

/-- The image of a code point under the runs of a case table. -/
def runImage? (runs : List (Nat × Nat × Nat × Nat)) (n : Nat) : Option Nat :=
  runs.findSome? fun (first, last, step, image) =>
    if first ≤ n ∧ n ≤ last ∧ (n - first) % step = 0 then some (image + (n - first)) else none

/-- One character in another case: an expansion if there is one, else a run, else itself. -/
def mapCase (expansions : List (Nat × List Nat)) (runs : List (Nat × Nat × Nat × Nat)) (c : Char) :
    List Char :=
  match expansions.lookup c.toNat with
  | some image => image.map Char.ofNat
  | none => match runImage? runs c.toNat with
    | some n => [Char.ofNat n]
    | none => [c]

/-- Lower case of one character, without regard to context. -/
def lowerChar (c : Char) : List Char :=
  if c.toNat < 0x80 then [c.toLower] else mapCase lowerExpansions lowerRuns c

/-- Upper case of one character. -/
def upperChar (c : Char) : List Char :=
  if c.toNat < 0x80 then [c.toUpper] else mapCase upperExpansions upperRuns c

/-- Cased letters: those that have a lower, upper or title form. -/
def isCased (c : Char) : Bool :=
  if c.toNat < 0x80 then c.isAlpha
  else casedRanges.any fun r => decide (r.1 ≤ c.toNat) && decide (c.toNat ≤ r.2)

/-- Case-ignorable characters: those that case context looks through. -/
def isCaseIgnorable (c : Char) : Bool :=
  if c.toNat < 0x80 then ['\'', '.', ':', '^', '\x60'].contains c
  else caseIgnorableRanges.any fun r => decide (r.1 ≤ c.toNat) && decide (c.toNat ≤ r.2)

/-- A cased letter comes next, after any case-ignorable characters. -/
def casedNext (cs : List Char) : Bool :=
  match cs.dropWhile isCaseIgnorable with
  | c :: _ => isCased c
  | [] => false

/-- Lower case with context: `before` holds the characters already passed, last first. -/
def lowerFrom (before : List Char) : List Char → List Char
  | [] => []
  | c :: cs =>
    (if c == 'Σ' then (if casedNext before && !casedNext cs then ['ς'] else ['σ'])
     else lowerChar c) ++ lowerFrom (c :: before) cs

/-- Lower case of a text. -/
def lower (s : String) : String := String.ofList (lowerFrom [] s.toList)

/-- Upper case of a text. -/
def upper (s : String) : String := String.ofList (s.toList.flatMap upperChar)

/-- Lower case of ASCII letters, every other character unchanged. -/
def asciiLower (s : String) : String := String.ofList (s.toList.map Char.toLower)

end Sift.Text
