/-!
# Finite binary64 numbers as integers times powers of two

A finite number is `± significand * 2 ^ exponent`. Reading it that way makes the integral parts and
the remainder exact integer computations.

* `parts`: sign, significand and exponent, from the bits.
* `truncate`, `floor`, `ceiling`: integral parts, as integers.
* `remainder`: the remainder of a truncating division, with the sign of the dividend.
-/

namespace Sift.Number

/-- A finite number taken apart. -/
structure Parts where
  negative : Bool
  significand : Nat
  exponent : Int
  deriving DecidableEq, Repr

/-- The parts of a finite number. The exponent field counts from `-1074`, and every number but
the subnormal ones has a hidden leading bit. -/
def parts (x : Float) : Parts :=
  let bits := x.toBits.toNat
  let field := bits / 0x10000000000000 % 0x800
  let fraction := bits % 0x10000000000000
  { negative := bits / 0x8000000000000000 = 1
    significand := if field = 0 then fraction else fraction + 0x10000000000000
    exponent := (if field = 0 then 1 else field : Nat) - 1075 }

/-- The number with given parts, for a significand below `2 ^ 53` and an exponent in range: the
significand is shifted up as far as the format allows and packed. -/
def ofParts (p : Parts) : Float :=
  let shift := min (52 - p.significand.log2) (p.exponent + 1074).toNat
  let significand := p.significand * Nat.pow 2 shift
  let field := if significand < 0x10000000000000 then 0 else (p.exponent - shift + 1075).toNat
  let sign := if p.negative then 0x8000000000000000 else 0
  Float.ofBits (UInt64.ofNat (sign + field * 0x10000000000000 + significand % 0x10000000000000))

/-- The integer of given sign and size. -/
def signed (negative : Bool) (n : Nat) : Int := if negative then -(n : Int) else n

/-- Integral part toward zero. -/
def truncate (x : Float) : Int :=
  let p := parts x
  signed p.negative (if 0 ≤ p.exponent then p.significand * Nat.pow 2 p.exponent.toNat
    else p.significand / Nat.pow 2 (-p.exponent).toNat)

/-- Integrality of a finite number. -/
def isIntegral (x : Float) : Bool :=
  let p := parts x
  0 ≤ p.exponent || p.significand % Nat.pow 2 (-p.exponent).toNat == 0

/-- Greatest integer not above. -/
def floor (x : Float) : Int :=
  if isIntegral x || !(parts x).negative then truncate x else truncate x - 1

/-- Least integer not below. -/
def ceiling (x : Float) : Int :=
  if isIntegral x || (parts x).negative then truncate x else truncate x + 1

/-- Remainder of a truncating division, exact, for a finite dividend and a finite divisor other
than zero. One of the two significands keeps its size when both are brought to the smaller exponent,
so the remainder fits the format. -/
def remainder (x y : Float) : Float :=
  let a := parts x
  let b := parts y
  let e := min a.exponent b.exponent
  let m := a.significand * Nat.pow 2 (a.exponent - e).toNat
  let n := b.significand * Nat.pow 2 (b.exponent - e).toNat
  ofParts ⟨a.negative, m % n, e⟩

end Sift.Number
