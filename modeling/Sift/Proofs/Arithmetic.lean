import Mathlib
import Sift.Expr.Fold

/-!
# Arithmetic on integer constants

Two integer constants of 64 bits are computed exactly wherever the exact result is an integer of 64
bits, with one exception: the remainder of the least integer by minus one, whose quotient is too
large. Elsewhere there is a float, or nothing at all.

* `Arith.Exact`: the exact result of an operator, if it is an integer.
* `Arith.exact_div_iff`, `Arith.exact_mod_iff`: exact quotients and remainders are the truncating
  ones.
* `Arith.inSigned_tdiv_iff`: the one quotient that is too large.
* `Arith.integer?_eq_some_iff`: where an integer is computed.
* `computed_exactly_iff`: the integers among the results, and what stands for the others.
-/

namespace Sift

open Number

/-- The range of signed integers of 64 bits, in numbers. -/
theorem Json.inSigned_iff {n : Int} :
    Json.inSigned n = true ↔ -0x8000000000000000 ≤ n ∧ n < 0x8000000000000000 := by
  rw [Json.inSigned, Bool.and_eq_true, decide_eq_true_eq, decide_eq_true_eq]

namespace Arith

/-- The exact result of an operator, if it is an integer: a quotient without a remainder, and
for a remainder the one on the side of zero that the dividend is on. -/
inductive Exact (a b : Int) : Arith → Int → Prop where
  | add : Exact a b .add (a + b)
  | sub : Exact a b .sub (a - b)
  | mul : Exact a b .mul (a * b)
  | div {q : Int} (divisor : b ≠ 0) (whole : a = b * q) : Exact a b .div q
  | mod {q r : Int} (divisor : b ≠ 0) (parts : a = b * q + r) (small : r.natAbs < b.natAbs)
    (side : 0 ≤ a ∧ 0 ≤ r ∨ a ≤ 0 ∧ r ≤ 0) : Exact a b .mod r

/-- A remainder whose quotient is too large for 64 bits. -/
def Excess (op : Arith) (a b : Int) : Prop := op = .mod ∧ a = -0x8000000000000000 ∧ b = -1

variable {a b n : Int}

/-! ### Quotients and remainders -/

/-- An exact quotient is the truncating one, where it leaves no remainder. -/
theorem exact_div_iff : Exact a b .div n ↔ (b ≠ 0 ∧ a.tmod b = 0) ∧ a.tdiv b = n := by
  constructor
  · intro exact
    cases exact with
    | div divisor whole =>
      rw [whole]
      exact ⟨⟨divisor, Int.mul_tmod_right b n⟩, Int.mul_tdiv_cancel_left n divisor⟩
  · rintro ⟨⟨divisor, whole⟩, rfl⟩
    have parts := Int.mul_tdiv_add_tmod a b
    rw [whole, add_zero] at parts
    exact .div divisor parts.symm

/-- An exact remainder is the truncating one, with the sign of the dividend. -/
theorem exact_mod_iff : Exact a b .mod n ↔ b ≠ 0 ∧ a.tmod b = n := by
  constructor
  · intro exact
    cases exact with
    | @mod q r divisor parts small side =>
      refine ⟨divisor, ?_⟩
      -- quotient and remainder are unique for each sign of the dividend, as rounding is to zero
      rcases side with ⟨ha, hr⟩ | ⟨ha, hr⟩
      · have same := (Int.tdiv_tmod_unique (r := n) (q := q) ha divisor).2 ⟨by omega, hr, by omega⟩
        exact same.2
      · have same := (Int.tdiv_tmod_unique' (r := n) (q := q) ha divisor).2 ⟨by omega, by omega, hr⟩
        exact same.2
  · rintro ⟨divisor, rfl⟩
    refine .mod divisor (Int.mul_tdiv_add_tmod a b).symm ?_ ?_
    · rw [Int.natAbs_tmod]
      exact Nat.mod_lt _ (Int.natAbs_pos.2 divisor)
    · rcases le_total 0 a with ha | ha
      · exact .inl ⟨ha, Int.tmod_nonneg b ha⟩
      · have mirrored := Int.tmod_nonneg b (Int.neg_nonneg.2 ha)
        rw [Int.neg_tmod] at mirrored
        exact .inr ⟨ha, by omega⟩

/-! ### Results of 64 bits -/

/-- **Every quotient fits** 64 bits but that of the least integer by minus one. -/
theorem inSigned_tdiv_iff (ha : Json.inSigned a = true) :
    Json.inSigned (a.tdiv b) = true ↔ ¬ (a = -0x8000000000000000 ∧ b = -1) := by
  rw [Json.inSigned_iff] at ha ⊢
  constructor
  · rintro fits ⟨rfl, rfl⟩
    rw [Int.tdiv_neg, Int.tdiv_one] at fits
    omega
  · intro other
    by_cases unit : b.natAbs ≤ 1
    · -- only a divisor of at most one leaves the dividend as large as it is
      obtain rfl | rfl | rfl : b = 0 ∨ b = 1 ∨ b = -1 := by omega
      · rw [Int.tdiv_zero]
        omega
      · rw [Int.tdiv_one]
        exact ha
      · rw [Int.tdiv_neg, Int.tdiv_one]
        omega
    · -- any larger divisor leaves half of the dividend at most
      have size : (a.tdiv b).natAbs = a.natAbs / b.natAbs := Int.natAbs_tdiv a b
      have half : a.natAbs / b.natAbs ≤ a.natAbs / 2 := Nat.div_le_div_left (by omega) (by decide)
      omega

/-- A remainder fits 64 bits if its divisor does. -/
theorem Exact.inSigned_mod (h : Exact a b .mod n) (hb : Json.inSigned b = true) :
    Json.inSigned n = true := by
  rw [Json.inSigned_iff] at hb ⊢
  cases h with
  | mod divisor parts small side => omega

/-- What is kept only if it fits is given exactly if it fits. -/
theorem fitting_eq_some_iff {m : Int} :
    (if Json.inSigned m = true then some m else none) = some n ↔
      m = n ∧ Json.inSigned n = true := by
  rw [Option.ite_none_right_eq_some, Option.some_inj, and_comm]
  exact and_congr_right fun same => by rw [same]

/-- **An integer is computed** where it is the exact result, of 64 bits, and comes from no quotient
that is too large. -/
theorem integer?_eq_some_iff (op : Arith) (ha : Json.inSigned a = true)
    (hb : Json.inSigned b = true) :
    op.integer? a b = some n ↔ op.Exact a b n ∧ Json.inSigned n = true ∧ ¬ op.Excess a b := by
  have plain (other : op ≠ .mod) : Json.inSigned n = true ∧ ¬ op.Excess a b ↔
      Json.inSigned n = true := and_iff_left fun excess => other excess.1
  cases op with
  | add =>
    have exact : Exact a b .add n ↔ a + b = n := ⟨by rintro ⟨⟩; rfl, by rintro rfl; exact .add⟩
    rw [plain (by decide), exact]
    exact fitting_eq_some_iff
  | sub =>
    have exact : Exact a b .sub n ↔ a - b = n := ⟨by rintro ⟨⟩; rfl, by rintro rfl; exact .sub⟩
    rw [plain (by decide), exact]
    exact fitting_eq_some_iff
  | mul =>
    have exact : Exact a b .mul n ↔ a * b = n := ⟨by rintro ⟨⟩; rfl, by rintro rfl; exact .mul⟩
    rw [plain (by decide), exact]
    exact fitting_eq_some_iff
  | div =>
    rw [plain (by decide), exact_div_iff, integer?, Option.ite_none_right_eq_some,
      fitting_eq_some_iff]
    exact and_assoc.symm
  | mod =>
    -- `checked_rem` refuses just the pair whose quotient is out of range
    have fits (h : Exact a b .mod n) : Json.inSigned n = true ∧ ¬ Excess .mod a b ↔
        Json.inSigned (a.tdiv b) = true := by
      rw [and_iff_right (h.inSigned_mod hb), inSigned_tdiv_iff ha, Excess, and_iff_right rfl]
    rw [and_congr_right fits, exact_mod_iff, integer?, Option.ite_none_right_eq_some,
      Option.some_inj, and_right_comm]

end Arith

/-! ### Constants -/

variable {a b : Int}

/-- Two integers of 64 bits give an integer, or else what floats give. -/
theorem Arith.compute?_int (op : Arith) (ha : Json.inSigned a = true)
    (hb : Json.inSigned b = true) : op.compute? (.int a) (.int b) =
      ((op.integer? a b).map Json.int).or
        ((op.approximate? (ofInt a) (ofInt b)).bind Json.ofFinite?) := by
  have left : (Json.int a).signed? = some a := by rw [Json.signed?, if_pos ha]
  have right : (Json.int b).signed? = some b := by rw [Json.signed?, if_pos hb]
  have numbers : ¬ (op = .add ∧ ((Json.int a).isStr || (Json.int b).isStr) = true) := by
    simp [Json.isStr]
  rw [compute?, if_neg numbers, left, right]
  dsimp only [Option.bind_eq_bind, Option.bind_some]
  cases op.integer? a b <;> rfl

/-- A finite float or nothing is what floats give. -/
theorem Json.ofFinite?_cases (x : Option Float) : x.bind Json.ofFinite? = none ∨
    ∃ y : Float, y.isFinite = true ∧ x.bind Json.ofFinite? = some (.float y) := by
  cases x with
  | none => exact .inl rfl
  | some y =>
    by_cases finite : y.isFinite = true
    · exact .inr ⟨y, finite, by rw [Option.bind_some, ofFinite?, if_pos finite]⟩
    · exact .inl (by rw [Option.bind_some, ofFinite?, if_neg finite])

/-- Nothing is divided by zero, neither as integers nor as floats. -/
theorem Arith.approximate?_zero {op : Arith} (h : op = .div ∨ op = .mod) (x : Float) :
    op.approximate? x (ofInt 0) = none := by
  have zero : (ofInt 0 == 0.0) = true := by decide +kernel
  rcases h with rfl | rfl <;> rw [approximate?, if_pos zero]

/-- **Integers are computed exactly**. Two constants of 64 bits give an integer exactly where the
exact result is an integer of 64 bits, and then they give that one; the only remainder left out is
the one whose quotient is too large. Everywhere else there is no integer, but a finite float or
nothing, and nothing at all for a division by zero. -/
theorem computed_exactly_iff (op : Arith) (ha : Json.inSigned a = true)
    (hb : Json.inSigned b = true) :
    (∀ n, op.compute? (.int a) (.int b) = some (.int n) ↔
      op.Exact a b n ∧ Json.inSigned n = true ∧ ¬ op.Excess a b) ∧
    ((∀ n, op.compute? (.int a) (.int b) ≠ some (.int n)) →
      op.compute? (.int a) (.int b) = none ∨
        ∃ x : Float, x.isFinite = true ∧ op.compute? (.int a) (.int b) = some (.float x)) ∧
    (b = 0 → op = .div ∨ op = .mod → op.compute? (.int a) (.int b) = none) := by
  have floats := Json.ofFinite?_cases (op.approximate? (ofInt a) (ofInt b))
  rw [Arith.compute?_int op ha hb]
  refine ⟨fun n => ?_, fun other => ?_, ?_⟩
  · rw [← Arith.integer?_eq_some_iff op ha hb]
    cases op.integer? a b with
    | none =>
      -- a float is never an integer
      rcases floats with nothing | ⟨x, -, float⟩
      · simp [nothing]
      · simp [float]
    | some m => simp
  · cases computed : op.integer? a b with
    | none => exact floats
    | some n => exact absurd (by rw [computed]; rfl) (other n)
  · rintro rfl division
    have outside : op.integer? a 0 = none := by
      rcases division with rfl | rfl <;>
        rw [Arith.integer?, if_neg fun divided : (0 : Int) ≠ 0 ∧ _ => divided.1 rfl]
    rw [outside, Arith.approximate?_zero division]
    rfl

/-- The least integer divided by three leaves two below zero. -/
theorem least_by_three_computed : Json.inSigned (-0x8000000000000000) = true ∧
    Json.inSigned 3 = true ∧
    Arith.mod.compute? (.int (-0x8000000000000000)) (.int 3) = some (.int (-2)) := by
  have least : Json.inSigned (-0x8000000000000000) = true := by decide
  have three : Json.inSigned 3 = true := by decide
  have exact : Arith.mod.Exact (-0x8000000000000000) 3 (-2) :=
    .mod (q := -0x2AAAAAAAAAAAAAAA) (by decide) (by decide) (by decide) (.inr (by decide))
  refine ⟨least, three, ((computed_exactly_iff .mod least three).1 (-2)).2 ⟨exact, by decide, ?_⟩⟩
  rintro ⟨-, -, unit⟩
  cases unit

/-- The least integer by minus one leaves nothing, but the remainder is a negative zero and no
integer. -/
theorem least_by_minus_one_inexact : Json.inSigned (-0x8000000000000000) = true ∧
    Json.inSigned (-1) = true ∧ Arith.mod.Exact (-0x8000000000000000) (-1) 0 ∧
    Arith.mod.compute? (.int (-0x8000000000000000)) (.int (-1)) = some (.float (-0.0)) := by
  have least : Json.inSigned (-0x8000000000000000) = true := by decide
  have unit : Json.inSigned (-1) = true := by decide
  have outside : Arith.mod.integer? (-0x8000000000000000) (-1) = none := by decide
  have divisor : (ofInt (-1) == 0.0) = false := by decide +kernel
  have zero : remainder (ofInt (-0x8000000000000000)) (ofInt (-1)) = -0.0 := by decide +kernel
  have finite : (-0.0 : Float).isFinite = true := by decide +kernel
  refine ⟨least, unit, .mod (q := 0x8000000000000000) (by decide) (by decide) (by decide)
    (.inr (by decide)), ?_⟩
  rw [Arith.compute?_int .mod least unit, outside, Arith.approximate?, divisor,
    if_neg Bool.false_ne_true, zero]
  rw [Option.map_none, Option.none_or, Option.bind_some, Json.ofFinite?, if_pos finite]

end Sift
