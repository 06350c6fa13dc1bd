import Mathlib.Data.List.Forall2
import Sift.Proofs.Constants
import Sift.Proofs.Sql.Classes
import Sift.Sql.Literal

/-!
# Texts that correspond

Two statements are compared piece by piece: by what stands in their literals, by how names are
quoted, or not at all. What such comparisons have in common is how the pieces are put together. The
texts between them are the same ones, brackets come in pairs, and a literal is kept apart from the
next one by the text between them.

* `Correspondence`: a relation of texts that composition keeps, and the map of constants with it.
* `Correspondence.between`, `enclosed`, `joinWith`: texts with neutral ones between and around them.
* `Correspondence.same`: the correspondence of every text with itself.
* `Correspondence.ofClass`: texts that are the same and have a property that composition keeps.
-/

namespace Sift.Sql

open Text

/-- A relation of texts that the composition of statements keeps. Firmly related texts are related
whatever stands behind them; others are, once a neutral text does. A constant stands for the one
that it is mapped to, which differs from it in texts only. -/
structure Correspondence where
  Rel : String → String → Prop
  Firm : String → String → Prop
  constant : Json → Json
  text : String → String
  changes : Json.ChangesTexts constant text
  rel {s t : String} (h : Firm s t) : Rel s t
  neutral {s : String} (h : Neutral s) : Firm s s
  append {s t u v : String} (h : Firm s t) (h' : Rel u v) : Rel (s ++ u) (t ++ v)
  firm_append {s t u v : String} (h : Firm s t) (h' : Firm u v) : Firm (s ++ u) (t ++ v)
  closed {s t u : String} (h : Rel s t) (hne : u ≠ "") (hu : Neutral u) : Firm (s ++ u) (t ++ u)
  brackets {s t : String} (h : Rel s t) : Firm ("(" ++ s ++ ")") ("(" ++ t ++ ")")
  literal (f : String → String) (s : String) : Rel (quoteText (f s)) (quoteText (f (text s)))
  isEmpty {s t : String} (h : Rel s t) : s.isEmpty = t.isEmpty

/-- A word with an opening bracket behind it. -/
def Opens (s : String) : Prop := ∃ word, Neutral word ∧ s = word ++ "("

namespace Correspondence

variable (C : Correspondence) {s t u v : String}

theorem refl (h : Neutral s) : C.Rel s s := C.rel (C.neutral h)

theorem before (hu : Neutral u) (h : C.Rel s t) : C.Rel (u ++ s) (u ++ t) :=
  C.append (C.neutral hu) h

theorem behind (h : C.Rel s t) (hu : Neutral u) : C.Rel (s ++ u) (t ++ u) := by
  by_cases hne : u = ""
  · rw [hne, String.append_empty, String.append_empty]
    exact h
  · exact C.rel (C.closed h hne hu)

/-- Two texts with a neutral one between them. -/
theorem between (h : C.Rel s t) (hne : u ≠ "") (hu : Neutral u) {s' t' : String}
    (h' : C.Rel s' t') : C.Rel (s ++ u ++ s') (t ++ u ++ t') :=
  C.append (C.closed h hne hu) h'

/-- A text in brackets behind a word. -/
theorem enclosed (ho : Opens u) (h : C.Rel s t) : C.Firm (u ++ s ++ ")") (u ++ t ++ ")") := by
  obtain ⟨word, hw, rfl⟩ := ho
  have inBrackets (s : String) : word ++ "(" ++ s ++ ")" = word ++ ("(" ++ s ++ ")") := by
    simp only [String.append_assoc]
  rw [inBrackets, inBrackets]
  exact C.firm_append (C.neutral hw) (C.brackets h)

/-- Two texts in brackets behind a word, with a comma between them. -/
theorem pair (ho : Opens u) (h : C.Rel s t) {s' t' : String} (h' : C.Rel s' t') :
    C.Rel (u ++ s ++ ", " ++ s' ++ ")") (u ++ t ++ ", " ++ t' ++ ")") := by
  have inside := C.between h (u := ", ") (by decide) (by decide) h'
  simpa only [String.append_assoc] using C.rel (C.enclosed ho inside)

/-- Lists that correspond element by element do so joined, because the separator keeps the elements
apart. -/
theorem joinWith (hne : u ≠ "") (hu : Neutral u) {ss ts : List String}
    (h : List.Forall₂ C.Rel ss ts) : C.Rel (joinWith u ss) (joinWith u ts) := by
  induction h with
  | nil => exact C.refl (by decide : Neutral "")
  | cons first rest ih =>
    cases rest with
    | nil => exact first
    | cons second rest =>
      rw [joinWith_cons_cons, joinWith_cons_cons]
      exact C.between first hne hu ih

/-- Every text corresponds to itself, and to no other. -/
def same : Correspondence where
  Rel := Eq
  Firm := Eq
  constant := id
  text := id
  changes := Json.changesTexts_id
  rel h := h
  neutral _ := rfl
  append h h' := by rw [h, h']
  firm_append h h' := by rw [h, h']
  closed h _ _ := by rw [h]
  brackets h := by rw [h]
  literal _ _ := rfl
  isEmpty h := by rw [h]

/-- The texts of a property that composition keeps, each of which corresponds to itself. So a
statement has the property if what is compared with it is the statement. -/
def ofClass (P : String → Prop) (neutral : ∀ s, Neutral s → P s)
    (append : ∀ s t, P s → P t → P (s ++ t)) (brackets : ∀ s, P s → P ("(" ++ s ++ ")"))
    (literal : ∀ s, P (quoteText s)) : Correspondence where
  Rel s t := s = t ∧ P s
  Firm s t := s = t ∧ P s
  constant := id
  text := id
  changes := Json.changesTexts_id
  rel h := h
  neutral h := ⟨rfl, neutral _ h⟩
  append := by
    rintro s _ u _ ⟨rfl, hs⟩ ⟨rfl, hu⟩
    exact ⟨rfl, append s u hs hu⟩
  firm_append := by
    rintro s _ u _ ⟨rfl, hs⟩ ⟨rfl, hu⟩
    exact ⟨rfl, append s u hs hu⟩
  closed := by
    rintro s _ u ⟨rfl, hs⟩ - hu
    exact ⟨rfl, append s u hs (neutral u hu)⟩
  brackets := by
    rintro s _ ⟨rfl, hs⟩
    exact ⟨rfl, brackets s hs⟩
  literal _ _ := ⟨rfl, literal _⟩
  isEmpty := by
    rintro s _ ⟨rfl, -⟩
    rfl

end Correspondence

end Sift.Sql
