import Mathlib.Tactic.ByContra
import Sift.Proofs.Sql.Characters
import Sift.Text.Basic

/-!
# Classes of texts

Texts that are told by their characters: none of them quotes, or opens a bracket, or is a comma.
Such a class has every text that is put together from texts of the class, every part of one, and
all numbers. That is all that is needed of the names in a statement.

* `TextClass`: a class of this kind; `TextClass.quoteName`, `TextClass.afterLast`, `TextClass.write`:
  names under a template, their last segments, and numbers.
* `Quoteless`, `Bare`: no quote, and no character that quotes in any dialect.
* `Flat`, `Atomic`: no literal and no bracket, nor a comma.
* `Neutral`: texts that mean nothing to any reader of literals, names and brackets.
-/

namespace Sift.Sql

open Text Number

/-- A class of texts that are told by their characters, with those of numbers among them. -/
structure TextClass (P : String → Prop) : Prop where
  append {s t : String} (hs : P s) (ht : P t) : P (s ++ t)
  of_subset {s t : String} (h : P t) (sub : ∀ c ∈ s.toList, c ∈ t.toList) : P s
  number {s : String} (h : ∀ c ∈ s.toList, isNumberChar c = true) : P s

namespace TextClass

variable {P : String → Prop} (hP : TextClass P)

/-- Texts without the characters of some kind are a class, if no number has one. -/
theorem of_forall {p : Char → Bool} (spec : ∀ s, P s ↔ ∀ c ∈ s.toList, p c = false)
    (number : ∀ c, isNumberChar c = true → p c = false) : TextClass P where
  append hs ht := by
    rw [spec, String.toList_append, List.forall_mem_append]
    exact ⟨(spec _).1 hs, (spec _).1 ht⟩
  of_subset h sub := (spec _).2 fun c hc => (spec _).1 h c (sub c hc)
  number h := (spec _).2 fun c hc => number c (h c hc)

/-- The class of all texts. -/
theorem all : TextClass fun _ => True := ⟨fun _ _ => trivial, fun _ _ => trivial, fun _ => trivial⟩

include hP

/-- The dot is a character of numbers, so names of a class may be qualified. -/
theorem dot : P "." := hP.number (by simp [isNumberChar])

theorem intText (n : Int) : P (intText n) := hP.number fun _ => isNumberChar_of_mem_intText

theorem natText (n : Nat) : P (natText n) := hP.number fun _ => isNumberChar_of_mem_natText

theorem write (format : FloatFormat) (x : Float) : P (format.write x) :=
  hP.number fun _ => isNumberChar_of_mem_write

/-- A name under a template is of the class if both are. -/
theorem quoteName {template name : String} (ht : P template) (hn : P name) :
    P (quoteName template name) := by
  refine hP.of_subset (hP.append ht hn) fun c hc => ?_
  rw [String.toList_append, List.mem_append]
  exact mem_quoteName hc

theorem qualified {s t : String} (hs : P s) (ht : P t) : P (s ++ "." ++ t) :=
  hP.append (hP.append hs hP.dot) ht

/-- The last segment of a path has no character that the path has not. -/
theorem afterLast {path : String} (h : P path) :
    P (String.ofList (afterLast '.' path.toList)) := by
  refine hP.of_subset h fun c hc => ?_
  rw [String.toList_ofList, Text.afterLast, List.mem_reverse] at hc
  exact List.mem_reverse.1 ((List.takeWhile_sublist _).subset hc)

end TextClass

/-- The separator stands between the first text and the rest, if there is a rest. -/
theorem joinWith_cons_cons (separator s t : String) (ss : List String) :
    joinWith separator (s :: t :: ss) = s ++ separator ++ joinWith separator (t :: ss) := by
  rw [joinWith]
  simp

/-! ### Quotes -/

/-- No quote in a text. -/
def Quoteless (s : String) : Prop := '\'' ∉ s.toList

instance (s : String) : Decidable (Quoteless s) := inferInstanceAs (Decidable (¬ _))

/-- No quote stands in the characters of numbers, and none arises where texts meet. -/
theorem textClass_quoteless : TextClass Quoteless := by
  refine .of_forall (p := (· == '\'')) (fun s => ?_) fun c hc => ?_
  · simp only [Quoteless, beq_eq_false_iff_ne]
    exact ⟨fun h c hc e => h (e ▸ hc), fun h hc => h _ hc rfl⟩
  · rw [beq_eq_false_iff_ne]
    rintro rfl
    exact absurd hc (by decide)

/-- The characters that quote: texts, and identifiers in one dialect or the other. -/
def isQuoting (c : Char) : Bool := ['\'', '\x60', '"', '[', ']'].contains c

/-- No quoting character in a text. -/
def Bare (s : String) : Prop := s.toList.any isQuoting = false

instance (s : String) : Decidable (Bare s) := inferInstanceAs (Decidable (_ = _))

theorem bare_iff {s : String} : Bare s ↔ ∀ c ∈ s.toList, isQuoting c = false := by
  simp only [Bare, List.any_eq_false, Bool.not_eq_true]

/-- No character of a number is in a list without characters of numbers. -/
theorem contains_eq_false_of_isNumberChar {c : Char} {cs : List Char} (h : isNumberChar c = true)
    (hcs : cs.all (fun d => !isNumberChar d) = true) : cs.contains c = false := by
  by_contra hc
  rw [Bool.not_eq_false, List.contains_iff_mem] at hc
  simpa [h] using List.all_eq_true.1 hcs c hc

/-- The same of the characters that quote names. -/
theorem textClass_bare : TextClass Bare :=
  .of_forall (fun _ => bare_iff) fun _ h => contains_eq_false_of_isNumberChar h (by decide)

/-! ### Brackets and commas -/

/-- The characters that open or close something: literals and brackets. -/
def isNesting (c : Char) : Bool := ['\'', '(', ')'].contains c

/-- No literal and no bracket begins or ends in a text. -/
def Flat (s : String) : Prop := s.toList.any isNesting = false

instance (s : String) : Decidable (Flat s) := inferInstanceAs (Decidable (_ = _))

/-- Nor is there a comma. -/
def Atomic (s : String) : Prop := Flat s ∧ ',' ∉ s.toList

instance (s : String) : Decidable (Atomic s) := inferInstanceAs (Decidable (_ ∧ _))

theorem flat_iff {s : String} : Flat s ↔ ∀ c ∈ s.toList, isNesting c = false := by
  simp only [Flat, List.any_eq_false, Bool.not_eq_true]

theorem textClass_flat : TextClass Flat :=
  .of_forall (fun _ => flat_iff) fun _ h => contains_eq_false_of_isNumberChar h (by decide)

/-- Numbers have no comma: the point is written as a dot. -/
theorem textClass_atomic : TextClass Atomic where
  append hs ht := by
    refine ⟨textClass_flat.append hs.1 ht.1, ?_⟩
    rw [String.toList_append, List.mem_append]
    exact fun h => h.elim hs.2 ht.2
  of_subset h sub := ⟨textClass_flat.of_subset h.1 sub, fun hc => h.2 (sub _ hc)⟩
  number h := ⟨textClass_flat.number h, fun hc => absurd (h _ hc) (by decide)⟩

/-! ### Neutral texts -/

/-- A text that no reader takes for the mark of a literal, of a name or of a bracket: so are the
words and the symbols that stand between the parts of a statement. -/
def Neutral (s : String) : Prop := Bare s ∧ Flat s

instance (s : String) : Decidable (Neutral s) := inferInstanceAs (Decidable (_ ∧ _))

/-- Being neutral is being of both classes. -/
theorem textClass_neutral : TextClass Neutral where
  append hs ht := ⟨textClass_bare.append hs.1 ht.1, textClass_flat.append hs.2 ht.2⟩
  of_subset h sub := ⟨textClass_bare.of_subset h.1 sub, textClass_flat.of_subset h.2 sub⟩
  number h := ⟨textClass_bare.number h, textClass_flat.number h⟩

theorem Neutral.quoteless {s : String} (h : Neutral s) : Quoteless s := fun hc =>
  absurd (bare_iff.1 h.1 _ hc) (by decide)

end Sift.Sql
