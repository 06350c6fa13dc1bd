import Sift.Json.Basic

/-!
# Values as they are written

A value can be well formed and still stand for nothing: a number beyond the range of floats, half of
a surrogate pair, brackets nested too deeply. And a text can break off inside a value. Both matter
only where the value is used, so they are kept until it is known whether it is.

* `Written`: what stands at a place of a text, repeated keys included.
* `Written.value?`: the value that it stands for.
-/

namespace Sift.Json

/-- What stands at a place of a text: a value without parts, or brackets that may still be open
where the text breaks off. A number, a text or a key that stands for nothing is missing. -/
inductive Written where
  | atom (value : Option Json)
  | arr (items : List Written) (closed : Bool)
  | obj (fields : List (Option String × Written)) (closed : Bool)

namespace Written

/-- Whether it is written to its end. -/
def closed : Written → Bool
  | atom _ => true
  | arr _ closed => closed
  | obj _ closed => closed

mutual

/-- The value that is written, with at most `depth` arrays and objects in one another. A
repeated key keeps its first place and takes its last value. -/
def value? (depth : Nat) : Written → Option Json
  | atom v => v
  | arr items closed =>
    match depth with
    | 0 => none
    | depth + 1 => if closed then (values? depth items).map .arr else none
  | obj fields closed =>
    match depth with
    | 0 => none
    | depth + 1 => if closed then (fields? depth [] fields).map .obj else none

/-- The values of items. -/
def values? (depth : Nat) : List Written → Option (List Json)
  | [] => some []
  | w :: items => do
    let v ← value? depth w
    let vs ← values? depth items
    some (v :: vs)

/-- The values of fields, inserted one by one behind those before them. -/
def fields? (depth : Nat) (done : List (String × Json)) :
    List (Option String × Written) → Option (List (String × Json))
  | [] => some done
  | (none, _) :: _ => none
  | (some key, w) :: fields => do
    let v ← value? depth w
    fields? depth (insert key v done) fields

end

end Written

end Sift.Json
