/-!
# JSON values

Values with ordered objects. Integers and floats are different values, so `1` is not `1.0`; an
integer stays within the signed and unsigned 64-bit ranges and a float is finite, because the reader
makes no others.

* `get?`, `insert`: lookup in the fields of an object and insertion, which keeps a key's place.
* `size`: the number of values inside a value, the measure by which functions on values end.
* `same`: equality of values, without regard to the order of keys.
-/

namespace Sift

/-- A JSON value. -/
inductive Json where
  | null
  | bool (b : Bool)
  | int (n : Int)
  | float (x : Float)
  | str (s : String)
  | arr (items : List Json)
  | obj (fields : List (String × Json))
  deriving Inhabited

namespace Json

/-- The value under a key. -/
def get? (key : String) : List (String × Json) → Option Json
  | [] => none
  | (k, v) :: fields => if k == key then some v else get? key fields

/-- Whether a key occurs. -/
def hasKey (key : String) (fields : List (String × Json)) : Bool := (get? key fields).isSome

/-- Insertion: a new key goes to the end, an old one keeps its place and takes the new value. -/
def insert (key : String) (value : Json) : List (String × Json) → List (String × Json)
  | [] => [(key, value)]
  | (k, v) :: fields => if k == key then (k, value) :: fields else (k, v) :: insert key value fields

mutual

/-- The number of values inside a value. -/
def size : Json → Nat
  | .arr items => 1 + sizeItems items
  | .obj fields => 1 + sizeFields fields
  | _ => 0

/-- The number of values in a list of values. -/
def sizeItems : List Json → Nat
  | [] => 0
  | v :: items => 1 + size v + sizeItems items

/-- The number of values in a list of fields. -/
def sizeFields : List (String × Json) → Nat
  | [] => 0
  | (_, v) :: fields => 1 + size v + sizeFields fields

end

/-- An array counts itself and its items. -/
@[simp] theorem size_arr (items : List Json) : (arr items).size = 1 + sizeItems items := by
  simp [size]

/-- An object counts itself and its fields. -/
@[simp] theorem size_obj (fields : List (String × Json)) :
    (obj fields).size = 1 + sizeFields fields := by
  simp [size]

@[simp] theorem sizeItems_cons (v : Json) (items : List Json) :
    sizeItems (v :: items) = 1 + v.size + sizeItems items := by
  simp [sizeItems]

@[simp] theorem sizeFields_cons (k : String) (v : Json) (fields : List (String × Json)) :
    sizeFields ((k, v) :: fields) = 1 + v.size + sizeFields fields := by
  simp [sizeFields]

/-- A value found in fields is smaller than they are. -/
theorem size_lt_of_get? {key : String} {fields : List (String × Json)} {v : Json}
    (h : get? key fields = some v) : v.size < sizeFields fields := by
  induction fields with
  | nil => simp [get?] at h
  | cons field fields ih =>
    obtain ⟨k, w⟩ := field
    unfold get? at h
    split at h
    · cases h; simp; omega
    · have := ih h; simp; omega

/-- Naming items adds nothing to their size. -/
theorem sizeFields_zip_le (names : List String) (items : List Json) :
    sizeFields (names.zip items) ≤ sizeItems items := by
  induction names generalizing items with
  | nil => simp [sizeFields]
  | cons name names ih =>
    cases items with
    | nil => simp [sizeFields]
    | cons v items => have := ih items; simp; omega

mutual

/-- Equality of values: objects are equal when they have equally many fields and every field of
the one is found in the other, whatever the order; numbers are equal only within their kind. -/
def same : Json → Json → Bool
  | .null, .null => true
  | .bool a, .bool b => a == b
  | .int a, .int b => a == b
  | .float a, .float b => a == b
  | .str a, .str b => a == b
  | .arr xs, .arr ys => sameItems xs ys
  | .obj fs, .obj gs => fs.length == gs.length && sameFields fs gs
  | _, _ => false

/-- Equality of lists of values, place by place. -/
def sameItems : List Json → List Json → Bool
  | [], [] => true
  | x :: xs, y :: ys => same x y && sameItems xs ys
  | _, _ => false

/-- Every field of the first is found in the second with an equal value. -/
def sameFields : List (String × Json) → List (String × Json) → Bool
  | [], _ => true
  | (k, v) :: fields, others =>
    (match get? k others with
     | some w => same v w
     | none => false) && sameFields fields others

end

/-- Integers of 64 bits with a sign. -/
def inSigned (n : Int) : Bool := -0x8000000000000000 ≤ n && n < 0x8000000000000000

/-- The signed 64-bit integer that a value is, if it is one. -/
def signed? : Json → Option Int
  | .int n => if inSigned n then some n else none
  | _ => none

/-- The unsigned 64-bit integer that a value is, if it is one. -/
def unsigned? : Json → Option Nat
  | .int n => if 0 ≤ n ∧ n < 0x10000000000000000 then some n.toNat else none
  | _ => none

/-- Whether a value is an array. -/
def isArr : Json → Bool
  | .arr _ => true
  | _ => false

/-- Whether a value is an object. -/
def isObj : Json → Bool
  | .obj _ => true
  | _ => false

end Json

end Sift
