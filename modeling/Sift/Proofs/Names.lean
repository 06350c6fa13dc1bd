import Mathlib.Tactic.ByContra
import Sift.Text.Classes

/-!
# Names and numbers in texts

What scanners tell apart by one character: names, numbers and white space.

* `isName`: what reads as one name.
* `isWhite_of_isNameStart`, `isDigit_of_isNameStart`: what starts a name starts nothing else.
* `isNameStart_of_isAlpha`, `isNameChar_of_isDigit`: ASCII letters and digits in names.
* `isNameChar_of_isWhite`: white space ends a name.
-/

namespace Sift.Text

/-- Names: a character that starts one, and any that go on with it. -/
def isName (s : String) : Bool :=
  match s.toList with
  | [] => false
  | c :: cs => isNameStart c && cs.all isNameChar

/-- Ranges of characters outside of a class, checked code by code. -/
theorem eq_false_of_inRanges {p : Char → Bool} {table : List (Nat × Nat)} {c : Char}
    (hc : inRanges table c.toNat = true)
    (apart : table.all (fun range => (List.range' range.1 (range.2 + 1 - range.1)).all
      fun n => !p (Char.ofNat n)) = true) : p c = false := by
  obtain ⟨range, mem, hn⟩ := List.any_eq_true.1 hc
  rw [Bool.and_eq_true, decide_eq_true_eq, decide_eq_true_eq] at hn
  have inside : c.toNat ∈ List.range' range.1 (range.2 + 1 - range.1) := by
    rw [List.mem_range'_1]
    omega
  have code := List.all_eq_true.1 (List.all_eq_true.1 apart range mem) c.toNat inside
  rwa [Char.ofNat_toNat, Bool.not_eq_true'] at code

/-- What starts a name can go on with one. -/
theorem isNameChar_of_isNameStart {c : Char} (h : isNameStart c = true) : isNameChar c = true := by
  unfold isNameStart at h
  unfold isNameChar isAlphanumeric
  generalize isAlphabetic c = letter at h ⊢
  cases letter
  · rw [Bool.false_or] at h
    rw [Bool.or_assoc, h, Bool.or_true]
  · rfl

/-- **ASCII letters start names**. -/
theorem isNameStart_of_isAlpha {c : Char} (h : c.isAlpha = true) : isNameStart c = true := by
  have small : c.toNat < 0x80 := by
    rcases Bool.or_eq_true_iff.1 h with upper | lower
    · exact Nat.lt_of_le_of_lt (of_decide_eq_true upper).2 (by decide)
    · exact Nat.lt_of_le_of_lt (of_decide_eq_true (Bool.and_eq_true_iff.1 lower).2) (by decide)
  rw [isNameStart, isAlphabetic, if_pos small, h, Bool.true_or, Bool.true_or]

/-- **ASCII digits go on with names**. -/
theorem isNameChar_of_isDigit {c : Char} (h : c.isDigit = true) : isNameChar c = true := by
  have small : c.toNat < 0x80 := Nat.lt_of_le_of_lt (Char.isDigit_iff_toNat.1 h).2 (by decide)
  rw [isNameChar, isAlphanumeric, isNumeric, if_pos small, h, Bool.or_true, Bool.true_or,
    Bool.true_or]

/-- **White space goes on with no name**, in any script. -/
theorem isNameChar_of_isWhite {c : Char} (h : isWhite c = true) : isNameChar c = false :=
  eq_false_of_inRanges h (by decide +kernel)

/-- **White space starts no name**. -/
theorem isWhite_of_isNameStart {c : Char} (h : isNameStart c = true) : isWhite c = false := by
  by_contra white
  rw [Bool.not_eq_false] at white
  have apart := isNameChar_of_isWhite white
  rw [isNameChar_of_isNameStart h] at apart
  cases apart

/-- A digit starts a number, never a name. -/
theorem isDigit_of_isNameStart {c : Char} (h : isNameStart c = true) : c.isDigit = false := by
  by_contra digit
  rw [Bool.not_eq_false, Char.isDigit_iff_toNat] at digit
  have code : inRanges [(48, 57)] c.toNat = true := by simpa [inRanges] using digit
  have apart : isNameStart c = false := eq_false_of_inRanges code (by decide)
  rw [apart] at h
  cases h

/-- What starts a name starts nothing else. -/
theorem isNameStart_apart {c d : Char} (h : isNameStart c = true) (hd : isNameStart d = false) :
    c ≠ d := by
  rintro rfl
  rw [h] at hd
  cases hd

/-- A digit is no white space, so numbers survive trimming. -/
theorem isWhite_of_isDigit {c : Char} (h : c.isDigit = true) : isWhite c = false := by
  rw [Char.isDigit_iff_toNat, show '0'.toNat = 48 from rfl, show '9'.toNat = 57 from rfl] at h
  by_contra white
  rw [Bool.not_eq_false] at white
  simp only [isWhite, inRanges, List.any_cons, List.any_nil, Bool.or_eq_true, Bool.and_eq_true,
    decide_eq_true_eq, Bool.or_false] at white
  omega

end Sift.Text
