import Mathlib
import Sift.Lambda.Constant
import Sift.Proofs.Arithmetic
import Sift.Proofs.Names
import Sift.Proofs.Scanning

/-!
# Integers at the front of a text

A constant text is read as an integer in a radix from 2 to 36: after white space, by an optional
sign, for radix 16 an optional mark, and the digits that follow, whatever comes behind them.

* `IsDigit`: the digits of a value, in either letter case; `ofDigits_map_digitValue`: the value of a
  run of them.
* `Numeral`: the parts that a text is read by; `exists_numeral`: every text has them.
* `Numeral.integerAt?_trim`: what is read of a text by its parts.
* `parseInt_numeral`: the integer of every text, or the fault where it has none.
-/

namespace Sift.Text

/-- Trimming at the end leaves the front. -/
theorem trimEnd_begins (cs : List Char) : trimEnd cs <+: cs := by
  have back := List.reverse_prefix.2 (List.dropWhile_suffix isWhite (l := cs.reverse))
  rwa [List.reverse_reverse] at back

/-- What ends in no white space stays in front of what is trimmed. -/
theorem trimEnd_append {cs : List Char} (h : ∀ c ∈ cs, isWhite c = false) (rest : List Char) :
    trimEnd (cs ++ rest) = cs ++ trimEnd rest := by
  have kept : cs.reverse.dropWhile isWhite = cs.reverse := by
    refine List.dropWhile_eq_self_iff.2 fun any => ?_
    rw [Bool.not_eq_true]
    exact h _ (List.mem_reverse.1 (List.getElem_mem any))
  rw [trimEnd, List.reverse_append, List.dropWhile_append, trimEnd]
  split
  · next white =>
    rw [List.isEmpty_iff.1 white, kept, List.reverse_reverse, List.reverse_nil, List.append_nil]
  · rw [List.reverse_append, List.reverse_reverse]

end Sift.Text

namespace Sift.Lambda

open Text Number

/-! ### Digits -/

/-- A digit of a value below 36, in either letter case. -/
def IsDigit (c : Char) (d : Nat) : Prop :=
  (d < 10 ∧ c.toNat = 48 + d) ∨ (10 ≤ d ∧ d < 36 ∧ (c.toNat = 87 + d ∨ c.toNat = 55 + d))

instance (c : Char) (d : Nat) : Decidable (IsDigit c d) := inferInstanceAs (Decidable (_ ∨ _))

/-- A digit of a value is what the reader takes for a digit of that value, which for it ends at 35.
-/
theorem isDigit_iff {c : Char} {d : Nat} : IsDigit c d ↔ d < 36 ∧ digitValue c = d := by
  have le (a b : Char) : a ≤ b ↔ a.toNat ≤ b.toNat := Iff.rfl
  have small : 'a'.toNat = 97 ∧ 'z'.toNat = 122 := by decide
  have capital : 'A'.toNat = 65 ∧ 'Z'.toNat = 90 := by decide
  have decimal : '0'.toNat = 48 ∧ '9'.toNat = 57 := by decide
  unfold IsDigit digitValue
  simp only [Char.isDigit_iff_toNat, le, small, capital, decimal]
  split
  · omega
  · split
    · omega
    · split <;> omega

/-- The digits of a radix. -/
def inRadix (radix : Nat) (c : Char) : Bool := decide (digitValue c < radix)

/-- No digit is white space or a sign. -/
theorem IsDigit.apart {c : Char} {d : Nat} (h : IsDigit c d) :
    isWhite c = false ∧ c ≠ '+' ∧ c ≠ '-' := by
  have codes : '+'.toNat = 43 ∧ '-'.toNat = 45 := by decide
  refine ⟨?_, fun same => ?_, fun same => ?_⟩
  · by_contra white
    rw [Bool.not_eq_false] at white
    simp only [isWhite, inRanges, List.any_cons, List.any_nil, Bool.or_eq_true, Bool.and_eq_true,
      decide_eq_true_eq, Bool.or_false] at white
    unfold IsDigit at h
    omega
  · unfold IsDigit at h
    rw [same] at h
    omega
  · unfold IsDigit at h
    rw [same] at h
    omega

/-- **The value of a run of digits** from the values of the digits, the last one first. -/
theorem ofDigits_map_digitValue (radix : Nat) (ds : List Char) :
    Nat.ofDigits radix (ds.map digitValue).reverse = digitsValue radix ds := by
  induction ds using List.reverseRecOn with
  | nil => rfl
  | append_singleton ds c ih =>
    rw [List.map_append, List.map_singleton, List.reverse_append, List.reverse_singleton,
      List.singleton_append, Nat.ofDigits_cons, ih, digitsValue, digitsValue, List.foldl_append,
      List.foldl_cons, List.foldl_nil, Nat.add_comm, Nat.mul_comm]

/-! ### The parts of a text -/

/-- The sign in front of digits, if there is one. -/
inductive Sign where
  | none
  | plus
  | minus
  deriving DecidableEq

/-- A sign as it is written. -/
def Sign.text : Sign → List Char
  | none => []
  | plus => ['+']
  | minus => ['-']

/-- A number under a sign. -/
def Sign.value (n : Nat) : Sign → Int
  | none => n
  | plus => n
  | minus => -n

/-- The mark of radix 16, if there is one. -/
inductive Mark where
  | none
  | small
  | capital
  deriving DecidableEq

/-- A mark as it is written. -/
def Mark.text : Mark → List Char
  | none => []
  | small => ['0', 'x']
  | capital => ['0', 'X']

/-- A sign is read in front of what starts with none. -/
theorem readSign_text (s : Sign) {body : List Char}
    (h : s = .none → Follows (fun c => c != '+' && c != '-') body) :
    readSign (s.text ++ body) = (s == .minus, body) := by
  cases s with
  | plus => rfl
  | minus => rfl
  | none =>
    have plain := h rfl
    cases body with
    | nil => rfl
    | cons c cs =>
      have other : (c != '+' && c != '-') = true := plain c rfl
      simp only [Bool.and_eq_true, bne_iff_ne] at other
      rw [Sign.text, List.nil_append, readSign]
      · rfl
      · rintro rest ⟨⟩
        exact other.2 rfl
      · rintro rest ⟨⟩
        exact other.1 rfl

/-- A mark is dropped in front of anything; without one, what is no mark stays. -/
theorem dropRadixMark_text (m : Mark) {body : List Char}
    (h : m = .none → ∀ x ∈ ['x', 'X'], ¬ ['0', x] <+: body) :
    Constant.dropRadixMark (m.text ++ body) = body := by
  cases m with
  | small => rfl
  | capital => rfl
  | none =>
    have plain := h rfl
    rw [Mark.text, List.nil_append, Constant.dropRadixMark]
    · rintro rest rfl
      exact plain 'x' (by simp) ⟨rest, rfl⟩
    · rintro rest rfl
      exact plain 'X' (by simp) ⟨rest, rfl⟩

/-- The parts of a text that an integer is read of: white space, a sign, a mark, zeros, the
digits of a number in any letter case, and the rest, to which white space behind the digits belongs.
Without zeros and with zero for the number there is no digit. Every part is as long as it can be. -/
structure Numeral (radix : Nat) where
  front : List Char
  sign : Sign
  mark : Mark
  zeros : Nat
  number : Nat
  digits : List Char
  rest : List Char
  front_white : ∀ c ∈ front, isWhite c = true
  mark_radix : mark ≠ .none → radix = 16
  digits_spell : List.Forall₂ IsDigit digits (Nat.digits radix number).reverse
  rest_stop : Follows (!inRadix radix ·) rest
  unmarked : mark = .none → radix = 16 →
    ∀ x ∈ ['x', 'X'], ¬ ['0', x] <+: List.replicate zeros '0' ++ digits ++ rest
  unsigned : sign = .none → mark = .none → zeros = 0 → number = 0 →
    Follows (fun c => !isWhite c && c != '+' && c != '-') rest

namespace Numeral

variable {radix : Nat} (p : Numeral radix)

/-- The run of digits, with its zeros. -/
def run : List Char := List.replicate p.zeros '0' ++ p.digits

/-- The text that has the parts. -/
def text : String :=
  String.ofList (p.front ++ (p.sign.text ++ (p.mark.text ++ (p.run ++ p.rest))))

/-- An integer of 64 bits stands at the front: there is a digit, and the number is no greater
than the greatest signed one. -/
def Readable : Prop := (p.zeros ≠ 0 ∨ p.number ≠ 0) ∧ p.number ≤ 0x7FFFFFFFFFFFFFFF

instance : Decidable p.Readable := inferInstanceAs (Decidable (_ ∧ _))

/-- There are no digits at all where no zeros stand in front and the number behind them is 0, which
`Nat.digits` spells with none. -/
theorem run_eq_nil_iff : p.run = [] ↔ p.zeros = 0 ∧ p.number = 0 := by
  have spelled : p.digits = [] ↔ p.number = 0 := by
    rw [← List.length_eq_zero_iff, p.digits_spell.length_eq, List.length_reverse,
      List.length_eq_zero_iff, Nat.digits_eq_nil_iff_eq_zero]
  rw [run, List.append_eq_nil_iff, spelled, List.replicate_eq_nil_iff]

theorem map_digits : p.digits.map digitValue = (Nat.digits radix p.number).reverse := by
  rw [← List.forall₂_eq_eq_eq, List.forall₂_map_left_iff]
  exact p.digits_spell.imp fun c d h => (isDigit_iff.1 h).2

/-- Zeros in front add nothing, so the value of the whole run is the number. -/
theorem digitsValue_run : digitsValue radix p.run = p.number := by
  have zero : digitValue '0' = 0 := by decide
  rw [← ofDigits_map_digitValue, run, List.map_append, map_digits, List.map_replicate, zero,
    List.reverse_append, List.reverse_reverse, List.reverse_replicate,
    Nat.ofDigits_append_replicate_zero, Nat.ofDigits_digits]

section

variable (least : 2 ≤ radix)

include least

/-- Every character of the run is a digit of the radix. -/
theorem digitValue_run : ∀ c ∈ p.run, digitValue c < radix := by
  intro c hc
  rcases List.mem_append.1 hc with zero | hc
  · have value : digitValue '0' = 0 := by decide
    rw [List.eq_of_mem_replicate zero, value]
    omega
  · have mem := List.mem_map_of_mem (f := digitValue) hc
    rw [map_digits, List.mem_reverse] at mem
    exact Nat.digits_lt_base least mem

variable (most : radix ≤ 36)

include most

theorem isDigit_run : ∀ c ∈ p.run, IsDigit c (digitValue c) := fun c hc =>
  isDigit_iff.2 ⟨Nat.lt_of_lt_of_le (p.digitValue_run least c hc) most, rfl⟩

/-- No character of a mark or a run is white space or a sign. -/
theorem apart_body : ∀ c ∈ p.mark.text ++ p.run, isWhite c = false ∧ c ≠ '+' ∧ c ≠ '-' := by
  have mark : (p.mark.text.all fun c => !isWhite c && c != '+' && c != '-') = true := by
    cases p.mark <;> decide
  intro c hc
  rcases List.mem_append.1 hc with hc | hc
  · simpa [and_assoc] using List.all_eq_true.1 mark c hc
  · exact (p.isDigit_run least most c hc).apart

/-- What stands in front of the rest is no white space. -/
theorem isWhite_core : ∀ c ∈ p.sign.text ++ (p.mark.text ++ p.run), isWhite c = false := by
  have sign : (p.sign.text.all fun c => !isWhite c) = true := by
    cases p.sign <;> decide
  intro c hc
  rcases List.mem_append.1 hc with hc | hc
  · simpa using List.all_eq_true.1 sign c hc
  · exact (p.apart_body least most c hc).1

omit most least in
/-- With nothing in front of it, the rest starts with neither white space nor a sign. -/
theorem follows_rest (nothing : p.sign.text ++ (p.mark.text ++ p.run) = []) :
    Follows (fun c => !isWhite c && c != '+' && c != '-') p.rest := by
  obtain ⟨sign, others⟩ := List.append_eq_nil_iff.1 nothing
  obtain ⟨mark, run⟩ := List.append_eq_nil_iff.1 others
  obtain ⟨zeros, number⟩ := p.run_eq_nil_iff.1 run
  refine p.unsigned ?_ ?_ zeros number
  · cases h : p.sign
    · rfl
    all_goals
      rw [h] at sign
      cases sign
  · cases h : p.mark
    · rfl
    all_goals
      rw [h] at mark
      cases mark

/-- The text trimmed keeps everything between the white space in front and the rest. -/
theorem trim_text : trim p.text.toList =
    p.sign.text ++ (p.mark.text ++ (p.run ++ trimEnd p.rest)) := by
  have core := p.isWhite_core least most
  have start : Follows (!isWhite ·) (p.sign.text ++ (p.mark.text ++ (p.run ++ p.rest))) := by
    rw [← List.append_assoc, ← List.append_assoc, List.append_assoc p.sign.text]
    refine follows_append (fun c hc => by rw [core c hc]; rfl) fun nothing => ?_
    refine (p.follows_rest nothing).mono fun c hc => ?_
    rw [Bool.and_assoc] at hc
    exact (Bool.and_eq_true_iff.1 hc).1
  have apart : ∀ c, (!isWhite c) = true → isWhite c = false := by simp
  have begun := (takeWhile_append_of_follows p.front_white start apart).2
  have ended := trimEnd_append core p.rest
  rw [List.append_assoc, List.append_assoc, List.append_assoc, List.append_assoc] at ended
  rw [trim, trimStart, text, String.toList_ofList, begun, ended]

/-- The sign is all that is read as one: where there is none, the rest does not begin with one. -/
theorem readSign_core :
    readSign (p.sign.text ++ (p.mark.text ++ (p.run ++ trimEnd p.rest))) =
      (p.sign == .minus, p.mark.text ++ (p.run ++ trimEnd p.rest)) := by
  refine readSign_text p.sign fun unsigned => ?_
  rw [← List.append_assoc]
  refine follows_append (fun c hc => ?_) fun empty => ?_
  · have other := (p.apart_body least most c hc).2
    simpa using other
  · have bare := p.follows_rest (by rw [unsigned, Sign.text, List.nil_append, empty])
    refine Follows.of_prefix (bare.mono fun c hc => ?_) (trimEnd_begins p.rest)
    rw [Bool.and_assoc] at hc
    exact (Bool.and_eq_true_iff.1 hc).2

omit least most in
/-- The mark is dropped for radix 16 and read as a digit 0 for the others, where the parts have no
mark. -/
theorem dropRadixMark_core :
    (if radix = 16 then Constant.dropRadixMark (p.mark.text ++ (p.run ++ trimEnd p.rest))
      else p.mark.text ++ (p.run ++ trimEnd p.rest)) = p.run ++ trimEnd p.rest := by
  split
  · next sixteen =>
    refine dropRadixMark_text p.mark fun unmarked x hx marked => ?_
    have longer := (List.prefix_append_right_inj p.run).2 (trimEnd_begins p.rest)
    exact p.unmarked unmarked sixteen x hx (marked.trans longer)
  · next other =>
    have unmarked : p.mark = .none := by
      by_contra marked
      exact other (p.mark_radix marked)
    rw [unmarked, Mark.text, List.nil_append]

omit most in
/-- The digits taken are the run and no more, whatever is trimmed from the end of the rest. -/
theorem takeWhile_core :
    (p.run ++ trimEnd p.rest).takeWhile (fun c => decide (digitValue c < radix)) = p.run := by
  have stop := p.rest_stop.of_prefix (trimEnd_begins p.rest)
  refine (takeWhile_append_of_follows (fun c hc => ?_) stop fun c hc => ?_).1
  · exact decide_eq_true (p.digitValue_run least c hc)
  · simpa [inRadix] using hc

/-- **What is read** of the parts: the number under its sign, if there is a digit and the number is
one of 64 bits. -/
theorem integerAt?_trim : Constant.integerAt? radix (trim p.text.toList) =
    if p.Readable then some (p.sign.value p.number) else none := by
  have empty : p.run.isEmpty = true ↔ p.zeros = 0 ∧ p.number = 0 := by
    rw [List.isEmpty_iff, run_eq_nil_iff]
  have fits : Json.inSigned p.number = true ↔ p.number ≤ 0x7FFFFFFFFFFFFFFF := by
    rw [Json.inSigned_iff]
    omega
  -- digits that are missing or too many fail alike, so the two are one condition
  have missing : (p.run.isEmpty || !Json.inSigned p.number) = true ↔ ¬ p.Readable := by
    rw [Bool.or_eq_true, Bool.not_eq_true', ← Bool.not_eq_true, empty, fits, Readable, not_and_or,
      not_or, not_not, not_not]
  have value : signed (p.sign == .minus) p.number = p.sign.value p.number := by
    cases p.sign <;> rfl
  rw [p.trim_text least most, Constant.integerAt?, if_neg (by omega), p.readSign_core least most]
  dsimp only
  rw [p.dropRadixMark_core, p.takeWhile_core least, digitsValue_run, value]
  by_cases read : p.Readable
  · rw [if_pos read, if_neg (missing.not.2 (not_not.2 read))]
  · rw [if_neg read, if_pos (missing.2 read)]

end

end Numeral

/-! ### Every text has the parts -/

/-- Every text begins with a sign or with none. -/
theorem exists_sign (body : List Char) : ∃ (s : Sign) (rest : List Char), s.text ++ rest = body ∧
    (s = .none → Follows (fun c => c != '+' && c != '-') rest) := by
  cases body with
  | nil => exact ⟨.none, [], rfl, fun _ => follows_nil⟩
  | cons c cs =>
    by_cases plus : c = '+'
    · exact ⟨.plus, cs, plus ▸ rfl, fun other => absurd other (by decide)⟩
    by_cases minus : c = '-'
    · exact ⟨.minus, cs, minus ▸ rfl, fun other => absurd other (by decide)⟩
    · exact ⟨.none, c :: cs, rfl, fun _ => follows_cons (by simp [plus, minus])⟩

/-- Every text begins with a mark or with none, and with one only where the radix has it. -/
theorem exists_mark (radix : Nat) (body : List Char) : ∃ (m : Mark) (rest : List Char),
    m.text ++ rest = body ∧ (m ≠ .none → radix = 16) ∧
      (m = .none → radix = 16 → ∀ x ∈ ['x', 'X'], ¬ ['0', x] <+: rest) := by
  by_cases marked : radix = 16 ∧ ∃ x ∈ ['x', 'X'], ['0', x] <+: body
  · obtain ⟨sixteen, x, hx, rest, rfl⟩ := marked
    rcases List.mem_pair.1 hx with rfl | rfl
    · exact ⟨.small, rest, rfl, fun _ => sixteen, fun other => absurd other (by decide)⟩
    · exact ⟨.capital, rest, rfl, fun _ => sixteen, fun other => absurd other (by decide)⟩
  · refine ⟨.none, body, rfl, fun other => absurd rfl other, fun _ sixteen x hx front => ?_⟩
    exact marked ⟨sixteen, x, hx, front⟩

/-- Digits without a leading zero are the digits of their value. -/
theorem spell_digitsValue {radix : Nat} (least : 2 ≤ radix) (most : radix ≤ 36) {ds : List Char}
    (digits : ∀ c ∈ ds, digitValue c < radix) (first : ∀ c ∈ ds.head?, c ≠ '0') :
    List.Forall₂ IsDigit ds (Nat.digits radix (digitsValue radix ds)).reverse := by
  have small : ∀ d ∈ (ds.map digitValue).reverse, d < radix := by
    simpa using digits
  -- the digit in front is the last one of the number's own, which must not be zero
  have last (any : (ds.map digitValue).reverse ≠ []) :
      (ds.map digitValue).reverse.getLast any ≠ 0 := by
    cases ds with
    | nil => exact absurd rfl any
    | cons c cs =>
      rw [List.getLast_reverse]
      intro zero
      have digit : IsDigit c 0 := isDigit_iff.2 ⟨by decide, zero⟩
      refine first c rfl (Char.toNat_inj.1 ?_)
      unfold IsDigit at digit
      rw [show '0'.toNat = 48 from rfl]
      omega
  rw [← ofDigits_map_digitValue, Nat.digits_ofDigits radix least _ small last, List.reverse_reverse,
    List.forall₂_map_right_iff, List.forall₂_same]
  exact fun c hc => isDigit_iff.2 ⟨Nat.lt_of_lt_of_le (digits c hc) most, rfl⟩

/-- Every text begins with a run of digits, of which the leading zeros are counted apart. -/
theorem exists_run {radix : Nat} (least : 2 ≤ radix) (most : radix ≤ 36) (body : List Char) :
    ∃ (zeros number : Nat) (ds rest : List Char), List.replicate zeros '0' ++ ds ++ rest = body ∧
      List.Forall₂ IsDigit ds (Nat.digits radix number).reverse ∧
      Follows (!inRadix radix ·) rest := by
  let run := body.takeWhile (inRadix radix)
  let ds := run.dropWhile (· == '0')
  have zeros := List.eq_replicate_of_mem (a := '0') (l := run.takeWhile (· == '0')) fun c hc =>
    beq_iff_eq.1 (List.mem_takeWhile_imp (p := (· == '0')) hc)
  have digits : ∀ c ∈ ds, digitValue c < radix := fun c hc =>
    of_decide_eq_true (List.mem_takeWhile_imp (p := inRadix radix)
      ((List.dropWhile_sublist (· == '0')).mem hc))
  have first : ∀ c ∈ ds.head?, c ≠ '0' := fun c hc => by
    simpa using follows_dropWhile (· == '0') run c hc
  refine ⟨(run.takeWhile (· == '0')).length, digitsValue radix ds, ds,
    body.dropWhile (inRadix radix), ?_, spell_digitsValue least most digits first,
    follows_dropWhile _ _⟩
  rw [← zeros, List.takeWhile_append_dropWhile, List.takeWhile_append_dropWhile]

/-- **Every text** has the parts of a numeral. -/
theorem exists_numeral {radix : Nat} (least : 2 ≤ radix) (most : radix ≤ 36) (s : String) :
    ∃ p : Numeral radix, p.text = s := by
  obtain ⟨sign, signed, spelledSign, unsigned⟩ := exists_sign (s.toList.dropWhile isWhite)
  obtain ⟨mark, marked, spelledMark, sixteen, unmarked⟩ := exists_mark radix signed
  obtain ⟨zeros, number, digits, rest, spelled, digitsSpell, stop⟩ := exists_run least most marked
  have white : ∀ c ∈ s.toList.takeWhile isWhite, isWhite c = true := fun c hc =>
    List.mem_takeWhile_imp hc
  have whole : String.ofList (s.toList.takeWhile isWhite ++ (sign.text ++ (mark.text ++
      (List.replicate zeros '0' ++ digits ++ rest)))) = s := by
    rw [spelled, spelledMark, spelledSign, List.takeWhile_append_dropWhile, String.ofList_toList]
  refine ⟨⟨s.toList.takeWhile isWhite, sign, mark, zeros, number, digits, rest, white, sixteen,
    digitsSpell, stop, ?_, ?_⟩, whole⟩
  · rw [spelled]
    exact unmarked
  · rintro rfl rfl rfl rfl c first
    rw [Nat.digits_zero, List.reverse_nil, List.forall₂_nil_right_iff] at digitsSpell
    subst digitsSpell
    -- without digits, the rest is all that stands behind the white space
    obtain rfl : rest = marked := spelled
    obtain rfl : rest = signed := spelledMark
    have apart := unsigned rfl c first
    have dark := follows_dropWhile isWhite s.toList c (spelledSign ▸ first)
    simp only [Bool.and_assoc, Bool.and_eq_true] at dark apart ⊢
    exact ⟨dark, apart⟩

/-! ### Reading as a call -/

theorem unsigned?_natCast {n : Nat} (small : n < 0x10000000000000000) :
    (Json.int n).unsigned? = some n := by
  have fits : 0 ≤ (n : Int) ∧ (n : Int) < 0x10000000000000000 := by omega
  unfold Json.unsigned?
  dsimp only
  split
  · rw [Int.toNat_natCast]
  · next beyond => exact absurd fits beyond

/-- The call reads the text without the blanks around it, in the radix as a 32-bit number, 10 where
the second value is no unsigned integer. -/
theorem callFunction_parseInt (s : String) (v : Json) :
    Constant.callFunction "parseInt" [.str s, v] =
      match Constant.integerAt? (v.unsigned?.getD 10 % 0x100000000) (trim s.toList) with
      | some n => .ok (some (.int n))
      | none => .error (.parse (.notFinite "parseInt")) := by
  have other : Constant.mathName? "parseInt" = none := by decide
  have second : [Json.str s, v][1]? = some v := rfl
  have first : Constant.argumentText [Json.str s, v].head? = s := by
    rw [List.head?_cons, Constant.argumentText, Constant.textOf]
  unfold Constant.callFunction
  rw [other]
  dsimp only
  rw [second, first, Option.bind_some]
  rfl

/-- **The integer of a text** in a radix from 2 to 36, whatever the text is. Every text has the
parts of a numeral, and however it is taken apart into them, what is read is the number under its
sign. It is a fault if there is no digit, or if the number is greater than the greatest signed
integer of 64 bits; no other number is ever read. -/
theorem parseInt_numeral {radix : Nat} (least : 2 ≤ radix) (most : radix ≤ 36) :
    (∀ p : Numeral radix, Constant.callFunction "parseInt" [.str p.text, .int radix] =
      if p.Readable then .ok (some (.int (p.sign.value p.number)))
      else .error (.parse (.notFinite "parseInt"))) ∧
    ∀ s : String, ∃ p : Numeral radix, p.text = s := by
  refine ⟨fun p => ?_, exists_numeral least most⟩
  have small : radix % 0x100000000 = radix := Nat.mod_eq_of_lt (by omega)
  rw [callFunction_parseInt, unsigned?_natCast (by omega), Option.getD_some, small,
    p.integerAt?_trim least most]
  by_cases read : p.Readable
  · rw [if_pos read, if_pos read]
  · rw [if_neg read, if_neg read]

/-- A marked number of radix 16, with all parts. -/
def shaded : Numeral 16 where
  front := [' ', '\t']
  sign := .minus
  mark := .capital
  zeros := 2
  number := 255
  digits := ['f', 'F']
  rest := ['g', ' ']
  front_white := List.all_eq_true.1 (by decide)
  mark_radix := fun _ => rfl
  digits_spell := by
    have values : Nat.digits 16 255 = [15, 15] := by norm_num
    rw [values]
    exact .cons (by decide) (.cons (by decide) .nil)
  rest_stop := follows_cons (by decide)
  unmarked := fun other => absurd other (by decide)
  unsigned := fun other => absurd other (by decide)

/-- A tab, a sign, a mark and digits of either case in front of a letter that is no digit of the
radix. -/
theorem shaded_read :
    (2 ≤ 16 ∧ 16 ≤ 36) ∧ shaded.text = " \t-0X00fFg " ∧ shaded.Readable ∧
    Constant.callFunction "parseInt" [.str shaded.text, .int 16] = .ok (some (.int (-255))) := by
  have readable : shaded.Readable := ⟨.inl (by decide), by decide⟩
  have called := (@parseInt_numeral 16 (by decide) (by decide)).1 shaded
  rw [if_pos readable] at called
  exact ⟨by decide, rfl, readable, called⟩

end Sift.Lambda
