import Sift.Text.Classes

/-!
# Texts as lists of characters

Operations on texts that the notations share: trimming, lengths in several units, search, and
joining with a separator.

* `utf8Length`, `utf16Length`: lengths in bytes and in 16-bit units.
* `indexOf?`: the position of the first occurrence, counted in characters.
* `joinWith`: parts separated by a text.
* `afterLast`, `splitLast?`: what follows the last occurrence of a character.
-/

namespace Sift.Text

/-- Without leading white space. -/
def trimStart (cs : List Char) : List Char := cs.dropWhile isWhite

/-- Without trailing white space. -/
def trimEnd (cs : List Char) : List Char := (cs.reverse.dropWhile isWhite).reverse

/-- Without white space at either end. -/
def trim (cs : List Char) : List Char := trimEnd (trimStart cs)

/-- Length in bytes of the UTF-8 form. -/
def utf8Length : List Char → Nat
  | [] => 0
  | c :: cs => c.utf8Size + utf8Length cs

/-- Length in 16-bit units: characters beyond the first plane take two. -/
def utf16Length : List Char → Nat
  | [] => 0
  | c :: cs => (if c.toNat < 0x10000 then 1 else 2) + utf16Length cs

/-- First occurrence of `needle`, as a count of characters before it. -/
def indexOf? (needle : List Char) : List Char → Option Nat
  | [] => if needle.isEmpty then some 0 else none
  | c :: cs =>
    if needle.isPrefixOf (c :: cs) then some 0 else (indexOf? needle cs).map (· + 1)

/-- Parts with a separator between every two. -/
def joinWith (separator : String) : List String → String
  | [] => ""
  | [part] => part
  | part :: parts => part ++ separator ++ joinWith separator parts

/-- What follows the last occurrence of `mark`; the whole text if there is none. -/
def afterLast (mark : Char) (cs : List Char) : List Char :=
  (cs.reverse.takeWhile (· != mark)).reverse

/-- The two sides of the last occurrence of `mark`. -/
def splitLast? (mark : Char) (cs : List Char) : Option (List Char × List Char) :=
  match cs.reverse.dropWhile (· != mark) with
  | [] => none
  | _ :: before => some (before.reverse, afterLast mark cs)

/-- The two sides of the first occurrence of `mark`. -/
def splitFirst? (mark : Char) (cs : List Char) : Option (List Char × List Char) :=
  match cs.dropWhile (· != mark) with
  | [] => none
  | _ :: after => some (cs.takeWhile (· != mark), after)

end Sift.Text
