import Mathlib
import Sift.Number.Decimal

/-!
# Integers as floats

An integer below `2 ^ 53` is read from its digits without rounding: the float is finite and
integral, and its integral part is the integer.

* `Full`: a significand with all 53 bits in use, and an exponent at which it is an integer.
* `roundWithAccuracy_shifted`, `Full.unpack_pack`: rounding and packing lose nothing of it.
* `ofScientific_eq`, `parts_full`: the float of an integer, and its parts.
* `exact_ofDecimal`, `readFloat?_toDigits`: its value, and how its digits are read.
-/

namespace Sift.Number

open Float.Model (Format UnpackedFloat totalExponent)
open Float.Model.UnpackedFloat

/-! ### Rounding what needs none -/

/-- Zeros that are shifted out leave no remainder. -/
theorem shiftRight_two_pow (m j : Nat) :
    (ExtendedMantissa.mk (m * 2 ^ j) false false) >>> j = ExtendedMantissa.mk m false false := by
  induction j generalizing m with
  | zero => simp [HShiftRight.hShiftRight, Nat.repeat]
  | succ j ih =>
    have first := ih (m * 2)
    rw [show m * 2 * 2 ^ j = m * 2 ^ (j + 1) by ring] at first
    change ExtendedMantissa.shiftRightOne
      ((ExtendedMantissa.mk (m * 2 ^ (j + 1)) false false) >>> j) = _
    rw [first]
    simp [ExtendedMantissa.shiftRightOne]

theorem log2_mul_two_pow {m : Nat} (hm : m ≠ 0) (j : Nat) : (m * 2 ^ j).log2 = m.log2 + j := by
  induction j with
  | zero => rw [Nat.pow_zero, Nat.mul_one, Nat.add_zero]
  | succ j ih =>
    have nonzero : m * 2 ^ j ≠ 0 := by positivity
    rw [show m * 2 ^ (j + 1) = 2 * (m * 2 ^ j) by ring, Nat.log2_two_mul nonzero, ih]
    omega

/-- Rounding to the target exponent of a significand of 53 bits with zeros behind it. -/
theorem shiftToTargetExponent_shifted {m : Nat} (hm : m.log2 = 52) (j : Nat) {e : Int}
    (he : -1074 ≤ e + j) :
    shiftToTargetExponent Format.binary64 (m * 2 ^ j) e .exact = (⟨m, false, false⟩, e + j) := by
  have nonzero : m ≠ 0 := by rintro rfl; simp at hm
  have target : Format.binary64.targetExponent (totalExponent (m * 2 ^ j) e) = e + j := by
    simp only [Format.targetExponent, totalExponent, log2_mul_two_pow nonzero, hm,
      Format.mantissaBits, Format.minExponent]
    norm_num
    omega
  have shift : (e + (j : Int) - e).toNat = j := by omega
  rw [shiftToTargetExponent, target, shiftToExponent, shift,
    ExtendedMantissa.ofMantissaAndAccuracy, shiftRight_two_pow]

/-- A significand that is shifted up loses only zeros when it is rounded to 53 bits. -/
theorem roundWithAccuracy_shifted {m : Nat} (hm : m.log2 = 52) (hpos : 0 < m) (j : Nat) {e : Int}
    (he : -1074 ≤ e + j) (sign : Sign) :
    roundWithAccuracy Format.binary64 sign (m * 2 ^ j) e .exact =
      .finite sign m (e + j) hpos := by
  have again := shiftToTargetExponent_shifted hm 0 (e := e + j) (by omega)
  rw [Nat.pow_zero, Nat.mul_one] at again
  unfold roundWithAccuracy
  simp only [shiftToTargetExponent_shifted hm j he, ExtendedMantissa.roundedMantissa,
    ExtendedMantissa.accuracy, Accuracy.roundToNearestEven, again, Nat.ne_of_gt hpos,
    dite_false, Nat.cast_zero, add_zero]

/-! ### Significands of 53 bits -/

/-- The sign stands in the highest bit and is found there again. -/
theorem unpackSign_packComponents {spec : Format} {sign : Sign}
    {exponent : BitVec spec.exponentBits} {mantissa : BitVec spec.mantissaBitsWithoutImplicit} :
    unpackSign (packComponents spec sign exponent mantissa) = sign.toBitVec := by
  ext i hi
  obtain rfl : i = 0 := by omega
  simp [unpackSign, packComponents, BitVec.getLsbD_append, BitVec.getElem_append]

/-- A significand and an exponent of a number that is an integer, and all bits in use. -/
structure Full (m : Nat) (e : Int) : Prop where
  least : 2 ^ 52 ≤ m
  most : m < 2 ^ 53
  lowest : -1022 ≤ e
  highest : e ≤ 0

namespace Full

variable {m : Nat} {e : Int} (h : Full m e)

include h

theorem pos : 0 < m := lt_of_lt_of_le (by positivity) h.least

theorem log2_eq : m.log2 = 52 := (Nat.log2_eq_iff (Nat.ne_of_gt h.pos)).2 ⟨h.least, h.most⟩

/-- A full significand has its leading bit implied, and the exponent is biased by 1075: the usual
1023 and the 52 bits behind the point. -/
theorem pack_eq : pack Format.binary64 (.finite .positive m e h.pos) =
    packComponents Format.binary64 .positive (BitVec.ofNat 11 (e + 1075).toNat)
      (BitVec.ofNat 52 m) := by
  have log := h.log2_eq
  obtain ⟨-, -, lowest, highest⟩ := h
  have biased : (e + (Format.binary64.exponentBias : Nat) +
      (Format.binary64.mantissaBitsWithoutImplicit : Nat)).toNat = (e + 1075).toNat := by
    simp only [Format.exponentBias]
    norm_num
    omega
  have finite : ¬ 2 ^ 11 ≤ (e + 1075).toNat + 1 := by omega
  have normal : m.log2 + 1 = Format.binary64.mantissaBits := by rw [log]; rfl
  rw [pack]
  dsimp only
  rw [biased, if_neg finite, if_pos normal]

/-- The bits of such a number. -/
theorem toNat_pack : (pack Format.binary64 (.finite .positive m e h.pos)).toNat =
    (e + 1075).toNat * 2 ^ 52 + (m - 2 ^ 52) := by
  rw [h.pack_eq]
  obtain ⟨least, most, lowest, highest⟩ := h
  have small : (e + 1075).toNat < 2 ^ 11 := by omega
  have fraction : m % 2 ^ 52 = m - 2 ^ 52 := by omega
  rw [packComponents, BitVec.toNat_append, BitVec.toNat_append, BitVec.toNat_ofNat,
    BitVec.toNat_ofNat, Nat.mod_eq_of_lt small, fraction]
  rw [← Nat.shiftLeft_add_eq_or_of_lt (by omega), ← Nat.shiftLeft_add_eq_or_of_lt (by omega)]
  simp [Sign.toBitVec, Nat.shiftLeft_eq]

/-- What is packed of a full significand is unpacked again. -/
theorem unpack_pack : unpack Format.binary64 (pack Format.binary64 (.finite .positive m e h.pos)) =
    .finite .positive m e h.pos := by
  rw [h.pack_eq]
  obtain ⟨least, most, lowest, highest⟩ := h
  have small : (e + 1075).toNat % 2 ^ 11 = (e + 1075).toNat := Nat.mod_eq_of_lt (by omega)
  -- the exponents of all bits or none belong to infinities, to what is no number and to small
  -- numbers
  have ordinary : BitVec.ofNat 11 (e + 1075).toNat ≠ -1#11 ∧
      BitVec.ofNat 11 (e + 1075).toNat ≠ 0#11 := by
    constructor <;> rw [ne_eq, ← BitVec.toNat_inj, BitVec.toNat_ofNat, small] <;> simp <;> omega
  have exponent : ((BitVec.ofNat 11 (e + 1075).toNat).toNat : Int) -
      ((Format.binary64.exponentBias : Nat) + (Format.binary64.mantissaBitsWithoutImplicit : Nat)) =
        e := by
    rw [BitVec.toNat_ofNat, small]
    simp only [Format.exponentBias]
    norm_num
    omega
  have significand : (1#1 ++ BitVec.ofNat 52 m).toNat = m := by
    rw [BitVec.toNat_append, ← Nat.shiftLeft_add_eq_or_of_lt (by omega)]
    simp [Nat.shiftLeft_eq]
    omega
  unfold unpack
  simp only [unpackMantissa_packComponents, unpackExponent_packComponents,
    unpackSign_packComponents, ordinary, if_false, exponent, significand]
  rfl

end Full

/-! ### Integers -/

/-- The float of a significand and an exponent. -/
def full {m : Nat} {e : Int} (h : Full m e) : Float :=
  .ofModel (.pack (.finite .positive m e h.pos))

theorem unpack_full {m : Nat} {e : Int} (h : Full m e) :
    (full h).toModel.unpack = .finite .positive m e h.pos := h.unpack_pack

/-- **Sign, significand and exponent** of such a float. -/
theorem parts_full {m : Nat} {e : Int} (h : Full m e) : parts (full h) = ⟨false, m, e⟩ := by
  have bits : (full h).toBits.toNat = (e + 1075).toNat * 2 ^ 52 + (m - 2 ^ 52) := h.toNat_pack
  obtain ⟨least, most, lowest, highest⟩ := h
  have field : (e + 1075).toNat < 2 ^ 11 ∧ (e + 1075).toNat ≠ 0 := by omega
  have exponent : ((e + 1075).toNat : Int) = e + 1075 := by omega
  unfold parts
  rw [bits]
  generalize (e + 1075).toNat = k at *
  have high : (k * 2 ^ 52 + (m - 2 ^ 52)) / 0x10000000000000 % 0x800 = k := by omega
  have low : (k * 2 ^ 52 + (m - 2 ^ 52)) % 0x10000000000000 = m - 2 ^ 52 := by omega
  have sign : (k * 2 ^ 52 + (m - 2 ^ 52)) / 0x8000000000000000 ≠ 1 := by omega
  have significand : m - 2 ^ 52 + 0x10000000000000 = m := by omega
  have top : (k : Int) - 1075 = e := by omega
  simp only [high, low, sign, field.2, if_false, decide_false, significand, top]

theorem isFinite_full {m : Nat} {e : Int} (h : Full m e) : (full h).isFinite = true := by
  change UnpackedFloat.isFinite (full h).toModel.unpack = true
  rw [unpack_full]
  rfl

/-- One, by which an integer is scaled. -/
theorem full_one : Full (2 ^ 52) (-52) := ⟨by norm_num, by norm_num, by norm_num, by norm_num⟩

theorem ofBits_one : Float.ofBits 0x3FF0000000000000 = full full_one := rfl

/-- Scaling by one rounds nothing. -/
theorem full_mul_one {m : Nat} {e : Int} (h : Full m e) : full h * full full_one = full h := by
  have product : UnpackedFloat.mul Format.binary64 (full h).toModel.unpack
      (full full_one).toModel.unpack = .finite .positive m e h.pos := by
    rw [unpack_full, unpack_full, UnpackedFloat.mul]
    have rounded := roundWithAccuracy_shifted h.log2_eq h.pos 52 (e := e + -52)
      (by have := h.lowest; omega) .positive
    have back : e + -52 + (52 : Nat) = e := by omega
    simp only [back] at rounded
    exact rounded
  change Float.ofModel (.pack (UnpackedFloat.mul _ _ _)) = _
  rw [product]
  rfl

section

variable {n : Nat} (hn : 0 < n) (hlt : n < 2 ^ 53)

/-- The places by which an integer is shifted up to 53 bits. -/
def places (n : Nat) : Nat := 52 - n.log2

include hn hlt

/-- The places are those by which the number has to be shifted to have its leading bit in front. -/
theorem log2_add_places : n.log2 + places n = 52 := by
  have := (Nat.log2_lt (Nat.ne_of_gt hn)).2 hlt
  unfold places
  omega

/-- Shifted by them, a number below `2 ^ 53` is a full significand. -/
theorem full_shifted : Full (n * 2 ^ places n) (-(places n : Int)) := by
  have log : (n * 2 ^ places n).log2 = 52 := by
    rw [log2_mul_two_pow (Nat.ne_of_gt hn), log2_add_places hn hlt]
  have bounds := (Nat.log2_eq_iff (by positivity)).1 log
  have := log2_add_places hn hlt
  exact ⟨bounds.1, bounds.2, by omega, by omega⟩

/-- The number is unpacked without rounding. -/
theorem ofNat_eq : UnpackedFloat.ofNat Format.binary64 n =
    .finite .positive (n * 2 ^ places n) (-(places n : Int)) (full_shifted hn hlt).pos := by
  have full := full_shifted hn hlt
  have positive : compare (n : Int) 0 = .gt := by
    rw [Int.compare_eq_gt]
    omega
  -- rounding asks for the exponent at which the leading bit is the highest of 53
  have target : Format.binary64.targetExponent (totalExponent n 0) = -(places n : Int) := by
    have := log2_add_places hn hlt
    simp only [Format.targetExponent, totalExponent, Format.mantissaBits, Format.minExponent]
    norm_num
    omega
  have rounded := roundWithAccuracy_shifted full.log2_eq full.pos 0 (e := -(places n : Int))
    (by have := full.lowest; omega) .positive
  rw [UnpackedFloat.ofNat, UnpackedFloat.ofInt, UnpackedFloat.normalize, positive]
  dsimp only
  rw [UnpackedFloat.round, Int.toNat_natCast, target]
  have shift : (0 - -(places n : Int)).toNat = places n := by omega
  have exponent : 0 - (places n : Int) = -(places n : Int) := by omega
  simp only [decreaseExponent, shift, exponent, Nat.shiftLeft_eq]
  simpa using rounded

/-- Read as a decimal without an exponent, it is that float. -/
theorem ofScientific_eq : Float.ofScientific n false 0 = full (full_shifted hn hlt) := by
  have word : n.toUInt64.toNat = n := by
    rw [Nat.toUInt64_eq, UInt64.toNat_ofNat']
    omega
  have float : n.toUInt64.toFloat = full (full_shifted hn hlt) := by
    have model := ofNat_eq hn hlt
    change Float.ofModel (.pack (UnpackedFloat.ofNat Format.binary64 n.toUInt64.toNat)) = _
    rw [word, model]
    rfl
  have one : Float.exactlyRepresentablePowersOfTen[0] = full full_one := ofBits_one
  rw [Float.ofScientific, dif_pos ⟨hlt, by norm_num⟩]
  dsimp only
  rw [float, one, if_neg (by simp), full_mul_one]

end

/-- An integer in decimal has at most as many digits as its size says. -/
theorem length_toDigits_le {n : Nat} (h : n < 2 ^ 53) : (Nat.toDigits 10 n).length ≤ 16 := by
  rw [Nat.length_toDigits_le_iff (by norm_num) (by norm_num)]
  omega

theorem ofDecimal_zero : ofDecimal false 0 0 = 0.0 := by
  simp [ofDecimal]

/-- The decimal reader answers numbers far out of range at once; this one is in range. -/
theorem ofDecimal_eq {n : Nat} (hn : 0 < n) (hlt : n < 2 ^ 53) :
    ofDecimal false n 0 = full (full_shifted hn hlt) := by
  have digits := length_toDigits_le hlt
  have low : ¬ (n = 0 ∨ (0 + ((Nat.toDigits 10 n).length : Int)) < -400) := by omega
  have high : ¬ (0 + ((Nat.toDigits 10 n).length : Int)) > 400 := by omega
  unfold ofDecimal
  dsimp only
  rw [if_neg low, if_neg high, if_pos le_rfl, if_neg (by simp)]
  exact ofScientific_eq hn hlt

/-- **An integer below `2 ^ 53`** is read as a finite float that is integral, with the integer as
its integral part. -/
theorem exact_ofDecimal {n : Nat} (hlt : n < 2 ^ 53) :
    (ofDecimal false n 0).isFinite = true ∧ isIntegral (ofDecimal false n 0) = true ∧
      truncate (ofDecimal false n 0) = n := by
  rcases Nat.eq_zero_or_pos n with rfl | hn
  · rw [ofDecimal_zero]
    decide +kernel
  · have form := full_shifted hn hlt
    have exponent : (- -(places n : Int)).toNat = places n := by omega
    have whole : n * 2 ^ places n % 2 ^ places n = 0 := Nat.mul_mod_left _ _
    have size : n * 2 ^ places n / 2 ^ places n = n := Nat.mul_div_cancel _ (by positivity)
    rw [ofDecimal_eq hn hlt]
    refine ⟨isFinite_full form, ?_, ?_⟩
    · simp [isIntegral, parts_full, whole]
    · -- a number of 53 bits is not shifted, and any other has places behind the point
      rcases Nat.eq_zero_or_pos (places n) with unshifted | shifted
      · simp [truncate, parts_full, signed, unshifted]
      · have fraction : ¬ (0 : Int) ≤ -(places n : Int) := by omega
        simp only [truncate, parts_full, signed, if_neg fraction, exponent]
        simp [size]

/-! ### Digits -/

theorem isDigit_toDigits (n : Nat) : ∀ c ∈ Nat.toDigits 10 n, c.isDigit = true := fun _ h =>
  Nat.isDigit_of_mem_toDigits (by decide) (by decide) h

/-- The value of decimal digits is the library's. -/
theorem digitsValue_eq_ofDigitChars {ds : List Char} (h : ∀ c ∈ ds, c.isDigit = true) :
    digitsValue 10 ds = Nat.ofDigitChars 10 ds 0 := by
  have step (k : Nat) (c : Char) (hc : c ∈ ds) :
      k * 10 + digitValue c = 10 * k + (c.toNat - '0'.toNat) := by
    rw [digitValue, if_pos (h c hc), Nat.mul_comm]
  exact List.foldl_ext _ _ 0 step

theorem digitsValue_toDigits (n : Nat) : digitsValue 10 (Nat.toDigits 10 n) = n := by
  rw [digitsValue_eq_ofDigitChars (isDigit_toDigits n), Nat.ofDigitChars_ten_toDigits]

/-- Digits have no sign in front. -/
theorem readSign_digits {cs : List Char} (h : ∀ c ∈ cs, c.isDigit = true) :
    readSign cs = (false, cs) := by
  unfold readSign
  split
  · exact absurd (h '-' List.mem_cons_self) (by decide)
  · exact absurd (h '+' List.mem_cons_self) (by decide)
  · rfl

/-- **Digits** are read as the number they write. -/
theorem readFloat?_toDigits (n : Nat) :
    readFloat? (Nat.toDigits 10 n) = some (ofDecimal false n 0) := by
  have digits := isDigit_toDigits n
  have all : (Nat.toDigits 10 n).takeWhile Char.isDigit = Nat.toDigits 10 n :=
    List.takeWhile_eq_self_iff.2 digits
  have behind : (Nat.toDigits 10 n).dropWhile Char.isDigit = [] :=
    List.dropWhile_eq_nil_iff.2 digits
  have digit : (Nat.toDigits 10 n).isEmpty = false := by
    rw [List.isEmpty_eq_false_iff]
    exact Nat.toDigits_ne_nil
  have text : readDecimal? (Nat.toDigits 10 n) = .some ⟨false, n, 0⟩ := by
    unfold readDecimal?
    rw [readSign_digits digits]
    dsimp only
    rw [all, behind, digit]
    simp [readExponent?, digitsValue_toDigits]
  rw [readFloat?, text]

end Sift.Number
