import Sift.Json.Printer
import Sift.Sql.Name

/-!
# Characters of names and numbers

Which characters can occur in what is written for names and numbers.

* `mem_quoteName`: those of a name under a template are those of the name and of the template.
* `isNumberChar_of_mem_intText`, `isNumberChar_of_mem_write`: those of numbers.
-/

namespace Sift.Sql

/-- Filling a template adds no character to its own and those of the word. -/
theorem mem_fill {c : Char} {word template : List Char} (h : c ∈ fill word template) :
    c ∈ word ∨ c ∈ template := by
  fun_induction fill word template with
  | case1 rest ih =>
    rcases List.mem_append.1 h with h | h
    · exact .inl h
    · exact (ih h).imp_right fun h => List.mem_cons_of_mem _ (List.mem_cons_of_mem _ h)
  | case2 d rest _ ih =>
    rcases List.mem_cons.1 h with rfl | h
    · exact .inr List.mem_cons_self
    · exact (ih h).imp_right (List.mem_cons_of_mem d)
  | case3 => cases h

/-- Nor does quoting a name word by word, by induction on the name. -/
theorem mem_quoteNameChars {c : Char} {template name : List Char}
    (h : c ∈ quoteNameChars template name) : c ∈ template ∨ c ∈ name := by
  fun_induction quoteNameChars template name with
  | case1 => cases h
  | case2 d rest hd ih =>
    rcases List.mem_append.1 h with h | h
    · rcases mem_fill h with h | h
      · rcases List.mem_cons.1 h with rfl | h
        · exact .inr List.mem_cons_self
        · exact .inr (List.mem_cons_of_mem d ((List.takeWhile_sublist _).subset h))
      · exact .inl h
    · exact (ih h).imp_right fun h =>
        List.mem_cons_of_mem d ((List.dropWhile_sublist _).subset h)
  | case3 d rest hd ih =>
    rcases List.mem_cons.1 h with rfl | h
    · exact .inr List.mem_cons_self
    · exact (ih h).imp_right (List.mem_cons_of_mem d)

theorem mem_quoteName {c : Char} {template name : String}
    (h : c ∈ (quoteName template name).toList) : c ∈ template.toList ∨ c ∈ name.toList := by
  rw [quoteName, String.toList_ofList] at h
  exact mem_quoteNameChars h

end Sift.Sql

namespace Sift.Number

/-- The characters of numbers: digits, signs, the point and the mark of an exponent. -/
def isNumberChar (c : Char) : Bool := c.isDigit || ['-', '+', '.', 'e'].contains c

theorem isNumberChar_of_mem_toDigits {c : Char} {n : Nat} (h : c ∈ Nat.toDigits 10 n) :
    isNumberChar c = true := by
  rw [isNumberChar, Nat.isDigit_of_mem_toDigits (by decide) (by decide) h, Bool.true_or]

theorem isNumberChar_of_mem_natText {c : Char} {n : Nat} (h : c ∈ (natText n).toList) :
    isNumberChar c = true := by
  rw [natText, String.toList_ofList] at h
  exact isNumberChar_of_mem_toDigits h

theorem isNumberChar_of_mem_intText {c : Char} {n : Int} (h : c ∈ (intText n).toList) :
    isNumberChar c = true := by
  unfold intText at h
  split at h
  · rw [String.toList_append] at h
    rcases List.mem_append.1 h with h | h
    · rw [List.mem_singleton.1 h]; rfl
    · exact isNumberChar_of_mem_natText h
  · exact isNumberChar_of_mem_natText h

theorem isNumberChar_of_mem_zeros {c : Char} {n : Nat} (h : c ∈ zeros n) :
    isNumberChar c = true := by
  rw [List.eq_of_mem_replicate h]; rfl

/-- A number in positional form has digits and one point. -/
theorem isNumberChar_of_mem_positional {c : Char} {d : Nat} {k : Int} (h : c ∈ positional d k) :
    isNumberChar c = true := by
  unfold positional at h
  split at h
  · rcases List.mem_append.1 h with h | h
    · exact isNumberChar_of_mem_toDigits h
    · exact isNumberChar_of_mem_zeros h
  · have padded {m : Nat} (h : c ∈ zeros m ++ Nat.toDigits 10 d) : isNumberChar c = true := by
      rcases List.mem_append.1 h with h | h
      · exact isNumberChar_of_mem_zeros h
      · exact isNumberChar_of_mem_toDigits h
    rcases List.mem_append.1 h with h | h
    · exact padded ((List.take_sublist _ _).subset h)
    · rcases List.mem_cons.1 h with rfl | h
      · rfl
      · exact padded ((List.drop_sublist _ _).subset h)

/-- In scientific form it has an `e` and a sign besides. -/
theorem isNumberChar_of_mem_scientific {c : Char} {d : Nat} {k : Int} (h : c ∈ scientific d k) :
    isNumberChar c = true := by
  unfold scientific at h
  simp only [List.mem_append, List.mem_cons] at h
  rcases h with (h | h) | rfl | h | h
  · exact isNumberChar_of_mem_toDigits ((List.take_sublist _ _).subset h)
  · split at h
    · cases h
    · rcases List.mem_cons.1 h with rfl | h
      · rfl
      · exact isNumberChar_of_mem_toDigits ((List.drop_sublist 1 _).subset h)
  · rfl
  · rw [h]; split <;> rfl
  · exact isNumberChar_of_mem_toDigits h

/-- All forms of a float are made of such characters, those that are no number included. -/
theorem isNumberChar_of_mem_write {c : Char} {format : FloatFormat} {x : Float}
    (h : c ∈ (format.write x).toList) : isNumberChar c = true := by
  unfold FloatFormat.write at h
  simp only [String.toList_ofList] at h
  -- the digits and the exponent do not matter, only how they are written
  generalize (if (parts x).significand = 0 then ((0, 0) : Nat × Int)
    else shortest format.tie (parts x).significand (parts x).exponent) = p at h
  rcases List.mem_append.1 h with h | h
  · split at h
    · rw [List.mem_singleton.1 h]; rfl
    · cases h
  · split at h
    · rcases List.mem_append.1 h with h | h
      · exact isNumberChar_of_mem_positional h
      · split at h
        · simp only [List.mem_cons, List.not_mem_nil, or_false] at h
          rcases h with rfl | rfl <;> rfl
        · cases h
    · exact isNumberChar_of_mem_scientific h

end Sift.Number
