import Sift.Number.Binary64

/-!
# Shortest decimal digits of a binary number

The fewest decimal digits that read back as the same binary number, and of those the nearest. On the
grid of `n` significant digits only the two neighbours of the number matter: if any point of the
grid reads back, one of them does.

* `Tie`: which neighbour is taken when both are equally near.
* `shortest`: digits `d` and exponent `k`, the number being `d * 10 ^ k`.
-/

namespace Sift.Number

/-- `a * 2 ^ e` against `b * 10 ^ k`, in exact integers. -/
def compareScaled (a : Nat) (e : Int) (b : Nat) (k : Int) : Ordering :=
  compare (a * Nat.pow 2 e.toNat * Nat.pow 10 (-k).toNat)
    (b * Nat.pow 10 k.toNat * Nat.pow 2 (-e).toNat)

/-- Quotient and remainder test: the floor of `a * 2 ^ e / 10 ^ k`. -/
def floorScaled (a : Nat) (e : Int) (k : Int) : Nat :=
  a * Nat.pow 2 e.toNat * Nat.pow 10 (-k).toNat / (Nat.pow 10 k.toNat * Nat.pow 2 (-e).toNat)

/-- Decimal exponent of `m * 2 ^ q`: the `k` with `10 ^ k ≤ m * 2 ^ q < 10 ^ (k + 1)`. -/
def decimalExponent (m : Nat) (q : Int) : Int :=
  let guess := (q + m.log2) * 30103 / 100000
  if compareScaled m q 1 guess == .lt then guess - 1
  else if compareScaled m q 1 (guess + 1) == .lt then guess
  else guess + 1

/-- Reading back: `d * 10 ^ k` lies among the reals that round to `m * 2 ^ q`. The interval ends
half a unit away on either side, a quarter of one below a power of two, and holds its ends exactly
when `m` is even. -/
def readsBack (m : Nat) (q : Int) (d : Nat) (k : Int) : Bool :=
  let low := if m == 0x10000000000000 && q > -1074 then 4 * m - 1 else 4 * m - 2
  let inside := fun (o : Ordering) => o == .lt || (o == .eq && m % 2 == 0)
  inside (compareScaled low (q - 2) d k) && inside (compareScaled (4 * m + 2) (q - 2) d k).swap

/-- How a tie is broken between two points of a grid: the even digit, or the greater one. -/
inductive Tie where
  | toEven
  | up

/-- The point taken of `d` and `d + 1` when they are equally near. -/
def Tie.pick (tie : Tie) (d : Nat) : Nat :=
  match tie with
  | toEven => if d % 2 = 0 then d else d + 1
  | up => d + 1

/-- The nearest point that reads back on the grid of step `10 ^ k`, if one does. -/
def nearestOnGrid? (tie : Tie) (m : Nat) (q : Int) (k : Int) : Option Nat :=
  let d := floorScaled m q k
  match readsBack m q d k, readsBack m q (d + 1) k with
  | true, true =>
    match compareScaled (2 * m) q (2 * d + 1) k with
    | .lt => some d
    | .gt => some (d + 1)
    | .eq => some (tie.pick d)
  | true, false => some d
  | false, true => some (d + 1)
  | false, false => none

/-- Digits without trailing zeros, the exponent raised to match. -/
def stripZeros (d : Nat) (k : Int) : Nat × Int :=
  if h : d ≠ 0 ∧ d % 10 = 0 then stripZeros (d / 10) (k + 1) else (d, k)
termination_by d
decreasing_by omega

/-- Shortest digits of `m * 2 ^ q`, for `m` other than zero: the first grid with a hit, from one
digit to seventeen, which always suffice. -/
def shortest (tie : Tie) (m : Nat) (q : Int) : Nat × Int :=
  let top := decimalExponent m q
  let hit := (List.range 17).findSome? fun (n : Nat) =>
    (nearestOnGrid? tie m q (top - n)).map fun d => (d, top - n)
  match hit with
  | some (d, k) => stripZeros d k
  | none => stripZeros (floorScaled m q (top - 16)) (top - 16)

end Sift.Number
