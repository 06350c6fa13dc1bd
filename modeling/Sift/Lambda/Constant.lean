import Sift.Error
import Sift.Expr.Operator
import Sift.Lambda.Term
import Sift.Text.Case

/-!
# Calls on constants

The functions and methods that closures may call on constants. Nothing else is ever computed while a
closure is read.

* `textOf`: a constant as text.
* `callFunction`: a global function or a function of `Math`.
* `callMethod?`: a method of a text or of a list.
* `length?`: the length of a text or of a list.

A call of a name without a meaning has no value, which is no fault.
-/

namespace Sift.Lambda.Constant

open Number Text

mutual

/-- A constant as text. Integral numbers below `1000000000000000000000` are written as signed
64-bit integers, where those beyond the range are written as its ends. -/
def textOf : Json → String
  | .str s => s
  | .null => "null"
  | .bool b => if b then "true" else "false"
  | .int n => intText (min n 0x7FFFFFFFFFFFFFFF)
  | .float x =>
    if isIntegral x && (truncate x).natAbs < 1000000000000000000000 then
      intText (max (-0x8000000000000000) (min (truncate x) 0x7FFFFFFFFFFFFFFF))
    else Json.text (.float x)
  | .arr items => joinWith "," (textsOf items)
  | .obj _ => "[object Object]"

/-- The items of a list as texts. -/
def textsOf : List Json → List String
  | [] => []
  | v :: items => textOf v :: textsOf items

end

/-- An argument as text. -/
def argumentText : Option Json → String
  | none => "undefined"
  | some v => textOf v

/-- Truth of an argument: nothing, null, zero and the empty text are false. -/
def truthy : Option Json → Bool
  | none => false
  | some .null => false
  | some (.bool b) => b
  | some (.int n) => n != 0
  | some (.float x) => x != 0.0
  | some (.str s) => s != ""
  | some (.arr _) => true
  | some (.obj _) => true

/-- A computed number as a constant; it must be finite. -/
def number (function : String) (x : Float) : Except Error Json :=
  match constant? x with
  | some v => .ok v
  | none => .error (.parse (.notFinite function))

/-- A missing number. -/
def notANumber : Float := 0.0 / 0.0

/-- The text without an optional radix mark in front. -/
def dropRadixMark : List Char → List Char
  | '0' :: 'x' :: cs => cs
  | '0' :: 'X' :: cs => cs
  | cs => cs

/-- The integer at the front of a text, in a radix from 2 to 36: an optional sign, for radix 16
an optional mark, and at least one digit. What follows the digits is ignored. -/
def integerAt? (radix : Nat) (cs : List Char) : Option Int :=
  if radix < 2 ∨ 36 < radix then none
  else
    let (negative, body) := readSign cs
    let body := if radix = 16 then dropRadixMark body else body
    let ds := body.takeWhile fun c => decide (digitValue c < radix)
    let n := digitsValue radix ds
    if ds.isEmpty || !Json.inSigned n then none else some (signed negative n)

/-- The float at the front of a text: the longest prefix that is one. -/
def floatAt? (cs : List Char) : Option Float :=
  (List.range cs.length).reverse.findSome? fun n => readFloat? (cs.take (n + 1))

/-- A number from a constant: a number itself, `1` and `0` for truth values, `0` for null and
for blank text, and the number that a text holds. -/
def toNumber : Option Json → Except Error Json
  | none => .ok (.int 0)
  | some (.int n) => .ok (.int n)
  | some (.float x) => .ok (.float x)
  | some (.bool b) => .ok (.int (if b then 1 else 0))
  | some .null => .ok (.int 0)
  | some (.str s) =>
    let cs := trim s.toList
    if cs.isEmpty then .ok (.int 0) else number "Number" ((readFloat? cs).getD notANumber)
  | some (.arr _) => .error (.parse (.notFinite "Number"))
  | some (.obj _) => .error (.parse (.notFinite "Number"))

/-- The greater of two numbers. -/
def greater (x y : Float) : Float := if x < y then y else x

/-- The lesser of two numbers. -/
def lesser (x y : Float) : Float := if y < x then y else x

/-- A function of a finite number with integral values. A missing number has none. -/
def integral (f : Float → Int) (x : Float) : Float := if x.isFinite then ofInt (f x) else x

/-- A function of `Math` on numbers. A half is rounded up. -/
def math? (name : String) (xs : List Float) : Option Float :=
  let x := xs.headD notANumber
  let y := (xs.drop 1).headD notANumber
  match name, xs with
  | "abs", _ => some x.abs
  | "ceil", _ => some (integral ceiling x)
  | "floor", _ => some (integral floor x)
  | "round", _ => some (integral floor (x + 0.5))
  | "trunc", _ => some (integral truncate x)
  | "sign", _ => some (if x > 0.0 then 1.0 else if x < 0.0 then -1.0 else x)
  | "sqrt", _ => some x.sqrt
  | "pow", _ => some (x.pow y)
  | "max", x :: xs => some (xs.foldl greater x)
  | "min", x :: xs => some (xs.foldl lesser x)
  | _, _ => none

/-- A call of a function of `Math`, whose arguments must be numbers, whatever its name. -/
def callMath (name : String) (args : List Json) : Except Error (Option Json) :=
  match args.mapM Json.float? with
  | none => .error (.parse (.notNumeric ("Math." ++ name)))
  | some xs =>
    match math? name xs with
    | some x => some <$> number ("Math." ++ name) x
    | none => .ok none

/-- The name of a function of `Math` in a qualified name. -/
def mathName? (name : String) : Option String :=
  match name.toList with
  | 'M' :: 'a' :: 't' :: 'h' :: '.' :: cs => some (String.ofList cs)
  | _ => none

/-- A call of a function on constants. -/
def callFunction (name : String) (args : List Json) : Except Error (Option Json) :=
  match mathName? name with
  | some function => callMath function args
  | none =>
    let text := trim (argumentText args.head?).toList
    match name with
    | "parseInt" =>
      let radix := ((args[1]?.bind Json.unsigned?).getD 10) % 0x100000000
      match integerAt? radix text with
      | some n => .ok (some (.int n))
      | none => .error (.parse (.notFinite name))
    | "parseFloat" => some <$> number name ((floatAt? text).getD notANumber)
    | "String" => .ok (some (.str (argumentText args.head?)))
    | "Number" => some <$> toNumber args.head?
    | "Boolean" => .ok (some (.bool (truthy args.head?)))
    | _ => .ok none

/-- A position in a text, as an argument gives it: whether it lies before the start, and the
integer it is truncated to. -/
structure Position where
  negative : Bool
  index : Int

/-- A number as a position. -/
def position? : Json → Option Position
  | .int n => some ⟨n < 0, n⟩
  | .float x => some ⟨x < 0.0, truncate x⟩
  | _ => none

/-- A number counted from the end of a text of a given length. -/
def fromEnd (length : Nat) : Json → Int
  | .int n => length + n
  | .float x => truncate (ofInt length + x)
  | _ => 0

/-- The character at a position, as a text; the empty text outside. -/
def characterAt (cs : List Char) (arg : Option Json) : List Char :=
  match arg.bind position? with
  | some p => if p.negative then [] else cs[p.index.toNat]?.toList
  | none => cs[0]?.toList

/-- The start that an argument gives: a negative one counts from the end. -/
def startOf (length : Nat) (arg : Option Json) : Nat :=
  match arg with
  | none => 0
  | some v =>
    match position? v with
    | some p => if p.negative then (fromEnd length v).toNat else p.index.toNat
    | none => 0

/-- The part from a start with a length; without a length, to the end. -/
def slice (cs : List Char) (start length : Option Json) : List Char :=
  let count := match length.bind position? with
    | some p => p.index.toNat
    | none => cs.length
  (cs.drop (startOf cs.length start)).take count

/-- A position clamped to a text of a given length. -/
def clamped (length : Nat) (arg : Option Json) : Option Nat :=
  (arg.bind position?).map fun p => min p.index.toNat length

/-- The part between two positions, in either order; without an end, to the end. -/
def between (cs : List Char) (start finish : Option Json) : List Char :=
  let a := (clamped cs.length start).getD 0
  let b := (clamped cs.length finish).getD cs.length
  (cs.drop (min a b)).take (max a b - min a b)

/-- A position, or `-1` for none. -/
def positionOrMinusOne : Option Nat → Json
  | some n => .int n
  | none => .int (-1)

/-- A method of a text. -/
def textMethod? (s : String) (method : String) (args : List Json) : Option Json :=
  let cs := s.toList
  let needle := (argumentText args.head?).toList
  match method with
  | "toLowerCase" | "toLocaleLowerCase" => some (.str (lower s))
  | "toUpperCase" | "toLocaleUpperCase" => some (.str (upper s))
  | "trim" => some (.str (String.ofList (trim cs)))
  | "trimStart" => some (.str (String.ofList (trimStart cs)))
  | "trimEnd" => some (.str (String.ofList (trimEnd cs)))
  | "startsWith" => some (.bool (needle.isPrefixOf cs))
  | "endsWith" => some (.bool (needle.isSuffixOf cs))
  | "includes" => some (.bool (indexOf? needle cs).isSome)
  | "indexOf" => some (positionOrMinusOne (indexOf? needle cs))
  | "charAt" => some (.str (String.ofList (characterAt cs args[0]?)))
  | "substr" => some (.str (String.ofList (slice cs args[0]? args[1]?)))
  | "substring" => some (.str (String.ofList (between cs args[0]? args[1]?)))
  | "concat" => some (.str (args.foldl (fun t v => t ++ textOf v) s))
  | "toString" => some (.str s)
  | _ => none

/-- An item in a joined list: null is left empty. -/
def itemText : Json → String
  | .null => ""
  | v => textOf v

/-- A method of a list. -/
def listMethod? (items : List Json) (method : String) (args : List Json) : Option Json :=
  let needle := args.headD .null
  match method with
  | "includes" => some (.bool (items.any (·.same needle)))
  | "indexOf" => some (positionOrMinusOne (items.findIdx? (·.same needle)))
  | "join" =>
    let separator := match args.head? with
      | some (.str s) => s
      | _ => ","
    some (.str (joinWith separator (items.map itemText)))
  | _ => none

/-- A call of a method on a constant. -/
def callMethod? (receiver : Json) (method : String) (args : List Json) : Option Json :=
  match receiver with
  | .str s => textMethod? s method args
  | .arr items => listMethod? items method args
  | _ => none

/-- The length of a constant: a text's in 16-bit units, a list's in items. -/
def length? : Json → Option Json
  | .str s => some (.int (utf16Length s.toList))
  | .arr items => some (.int items.length)
  | _ => none

end Sift.Lambda.Constant
