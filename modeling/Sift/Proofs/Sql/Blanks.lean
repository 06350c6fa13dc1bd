import Sift.Proofs.Sql.Assembly
import Sift.Proofs.Sql.Clauses
import Sift.Sql.Statement

/-!
# Expressions without a text

A connective leaves out what has no text, and has none itself if nothing is left; nothing negated is
nothing; and a constant array without items, or of one such item, has no text either. Everything
else that is written has one.

* `Expr.Blank`: an expression without a text.
* `Expr.vacuous`: nothing but connectives and negations; `Expr.blank_iff_vacuous`: under what
  constants and members stand, the same.
* `Formatter.object_induction`: what holds of object constants if it passes on from those inside.
* `Writer.Candid.expr_eq_empty_iff`: which expressions are written without a text.
* `Formatter.candid_writer`: formatters with the built-in functions are such writers.
-/

namespace Sift

/-- An expression without a text, as the rules for constants, connectives and negations have it.
-/
inductive Expr.Blank : Expr → Prop where
  | member : Blank (.member "")
  | noItems : Blank (.lit (.arr []))
  | oneItem {v : Json} (h : Blank (.lit v)) : Blank (.lit (.arr [v]))
  | object {fields : List (String × Json)} {e : Expr} (decoded : decodeObject fields = .ok e)
      (h : Blank e) : Blank (.lit (.obj fields))
  | logical {op : Connective} {es : List Expr} (h : ∀ e ∈ es, Blank e) : Blank (.logical op es)
  | not {e : Expr} (h : Blank e) : Blank (.not e)

namespace Expr

mutual

/-- Vacuous: a connective all of whose operands are vacuous, or the negation of something
vacuous. -/
def vacuous : Expr → Bool
  | .logical _ es => allVacuous es
  | .not e => vacuous e
  | _ => false

/-- Whether all are vacuous. -/
def allVacuous : List Expr → Bool
  | [] => true
  | e :: es => vacuous e && allVacuous es

/-- What connectives and negations stand around: the expressions below all of them. -/
def leaves : Expr → List Expr
  | .logical _ es => leavesOfAll es
  | .not e => leaves e
  | e => [e]

/-- The leaves of several. -/
def leavesOfAll : List Expr → List Expr
  | [] => []
  | e :: es => leaves e ++ leavesOfAll es

end

theorem allVacuous_iff {es : List Expr} : allVacuous es = true ↔ ∀ e ∈ es, e.vacuous = true := by
  induction es with
  | nil => simp [allVacuous]
  | cons e es ih => rw [allVacuous, Bool.and_eq_true, ih, List.forall_mem_cons]

theorem mem_leavesOfAll {d : Expr} {es : List Expr} :
    d ∈ leavesOfAll es ↔ ∃ e ∈ es, d ∈ e.leaves := by
  induction es with
  | nil => simp [leavesOfAll]
  | cons e es ih => simp [leavesOfAll, ih]

/-- An expression that shows: neither a member without a path, nor an array or an object as a
constant. -/
def Visible : Expr → Prop
  | .member path => path ≠ ""
  | .lit (.arr _) => False
  | .lit (.obj _) => False
  | _ => True

/-- Vacuous expressions are blank: by induction on them, since connectives and negations pass it on.
-/
theorem Blank.of_vacuous {e : Expr} (h : e.vacuous = true) : e.Blank := by
  cases e with
  | logical op es =>
    rw [vacuous, allVacuous_iff] at h
    exact .logical fun d hd =>
      have := List.sizeOf_lt_of_mem hd
      .of_vacuous (h d hd)
  | not e =>
    rw [vacuous] at h
    exact .not (.of_vacuous h)
  | _ => cases h
termination_by sizeOf e

/-- **Where the leaves show**, nothing but connectives and negations is without a text. -/
theorem blank_iff_vacuous {e : Expr} (h : ∀ d ∈ e.leaves, d.Visible) :
    e.Blank ↔ e.vacuous = true := by
  refine ⟨fun blank => ?_, .of_vacuous⟩
  induction blank with
  | member =>
    -- a leaf that is blank would not be visible
    have shown : Visible (.member "") := h _ (List.mem_singleton_self _)
    exact absurd rfl shown
  | noItems =>
    have shown : Visible (.lit (.arr [])) := h _ (List.mem_singleton_self _)
    exact shown.elim
  | @oneItem v =>
    have shown : Visible (.lit (.arr [v])) := h _ (List.mem_singleton_self _)
    exact shown.elim
  | @object fields =>
    have shown : Visible (.lit (.obj fields)) := h _ (List.mem_singleton_self _)
    exact shown.elim
  | logical _ ih =>
    rw [vacuous, allVacuous_iff]
    exact fun d hd => ih d hd fun c hc => h c (by
      rw [leaves]
      exact mem_leavesOfAll.2 ⟨d, hd, hc⟩)
  | not _ ih =>
    rw [vacuous]
    exact ih fun c hc => h c (by rwa [leaves])

/-! ### Blank expressions, construct by construct -/

/-- A connective has no text just where none of its operands has one. -/
theorem blank_logical_iff {op : Connective} {es : List Expr} :
    (logical op es).Blank ↔ ∀ e ∈ es, e.Blank := by
  refine ⟨fun h => ?_, .logical⟩
  cases h with
  | logical h => exact h

theorem blank_not_iff {e : Expr} : (Expr.not e).Blank ↔ e.Blank := by
  refine ⟨fun h => ?_, .not⟩
  cases h with
  | not h => exact h

theorem blank_member_iff {path : String} : (member path).Blank ↔ path = "" := by
  refine ⟨fun h => ?_, fun h => h ▸ .member⟩
  cases h with
  | member => rfl

/-- A list of one item is written like the item. -/
theorem blank_oneItem_iff {v : Json} : (lit (.arr [v])).Blank ↔ (lit v).Blank := by
  refine ⟨fun h => ?_, .oneItem⟩
  cases h with
  | oneItem h => exact h

/-- An object is blank as the expression that it stands for. -/
theorem blank_object_iff {fields : List (String × Json)} {e : Expr}
    (decoded : decodeObject fields = .ok e) : (lit (.obj fields)).Blank ↔ e.Blank := by
  refine ⟨fun h => ?_, .object decoded⟩
  cases h with
  | object decoded' h =>
    rw [decoded] at decoded'
    exact Except.ok.inj decoded' ▸ h

/-- Taking a list of the same connective apart changes nothing: the list is blank as its operands
are. -/
theorem blank_operandsOf_iff {op : Connective} {e : Expr} :
    (∀ d ∈ operandsOf op e, d.Blank) ↔ e.Blank := by
  unfold operandsOf
  split
  · split
    · exact blank_logical_iff.symm
    · simp
  · simp

/-- Two under a connective are without a text exactly if both are. -/
theorem blank_connect_iff {op : Connective} {d e : Expr} :
    (connect op d e).Blank ↔ d.Blank ∧ e.Blank := by
  unfold connect
  split
  · next a b =>
    have text (b : Bool) : ¬ (lit (.bool b)).Blank := by rintro ⟨⟩
    exact iff_of_false (text _) fun h => text _ h.1
  · rw [blank_logical_iff, List.forall_mem_append, blank_operandsOf_iff, blank_operandsOf_iff]

end Expr

/-- The predicate of a query is without a text exactly if what it filters by is, and what was
put aside. -/
theorem Query.blank_predicate?_iff (q : Query) :
    (∀ e, q.predicate? = some e → e.Blank) ↔
      (∀ e, q.filter = some e → e.Blank) ∧ ∀ e, q.prepared = some e → e.Blank := by
  unfold predicate?
  cases q.filter <;> cases q.prepared <;> simp [Expr.all, Expr.joined, Expr.blank_connect_iff]

end Sift

namespace Sift.Sql

open Text Number

/-! ### Texts that are empty -/

theorem eq_nil_of_fill_eq_nil {word template : List Char} (h : template ≠ []) :
    fill word template = [] → word = [] := by
  fun_cases fill word template with
  | case1 rest => exact fun empty => (List.append_eq_nil_iff.1 empty).1
  | case2 c rest _ => exact fun empty => absurd empty (List.cons_ne_nil _ _)
  | case3 => exact absurd rfl h

/-- Only the empty name is written without a text, if the template is not empty. -/
theorem quoteName_eq_empty_iff {template name : String} (h : template ≠ "") :
    quoteName template name = "" ↔ name = "" := by
  have template : template.toList ≠ [] := fun nil => h (String.toList_eq_nil_iff.1 nil)
  rw [quoteName, ← String.toList_eq_nil_iff, String.toList_ofList, ← String.toList_eq_nil_iff]
  cases name.toList with
  | nil => rw [quoteNameChars]
  | cons c rest =>
    rw [quoteNameChars]
    refine iff_of_false ?_ (List.cons_ne_nil _ _)
    split
    · exact fun empty => absurd (eq_nil_of_fill_eq_nil template (List.append_eq_nil_iff.1 empty).1)
        (List.cons_ne_nil _ _)
    · exact List.cons_ne_nil _ _

theorem natText_ne_empty (n : Nat) : natText n ≠ "" := by
  rw [natText, ne_eq, ← String.toList_eq_nil_iff, String.toList_ofList]
  exact Nat.toDigits_ne_nil

theorem intText_ne_empty (n : Int) : intText n ≠ "" := by
  unfold intText
  split
  · exact fun empty => absurd (String.append_eq_empty_iff.1 empty).1 (by decide)
  · exact natText_ne_empty _

/-- A number has one digit at least. -/
theorem positional_ne_nil (d : Nat) (k : Int) : positional d k ≠ [] := by
  unfold positional
  split
  · exact List.append_ne_nil_of_left_ne_nil Nat.toDigits_ne_nil _
  · exact List.append_ne_nil_of_right_ne_nil _ (List.cons_ne_nil _ _)

/-- Every float has a text, in each of the forms. -/
theorem write_ne_empty (format : FloatFormat) (x : Float) : format.write x ≠ "" := by
  unfold FloatFormat.write
  rw [ne_eq, ← String.toList_eq_nil_iff]
  simp only [String.toList_ofList]
  generalize (if (parts x).significand = 0 then ((0, 0) : Nat × Int)
    else shortest format.tie (parts x).significand (parts x).exponent) = p
  refine List.append_ne_nil_of_right_ne_nil _ ?_
  split
  · exact List.append_ne_nil_of_left_ne_nil (positional_ne_nil p.1 p.2) _
  · exact List.append_ne_nil_of_right_ne_nil _ (List.cons_ne_nil _ _)

theorem quoteText_ne_empty (s : String) : quoteText s ≠ "" := by
  rw [quoteText, ne_eq, ← String.toList_eq_nil_iff, String.toList_ofList]
  exact List.cons_ne_nil _ _

theorem ne_empty_of_append {s t : String} (h : s ≠ "") : s ++ t ≠ "" := fun empty =>
  h (String.append_eq_empty_iff.1 empty).1

theorem joinWith_cons_cons_ne_empty {separator : String} (h : separator ≠ "") (s t : String)
    (ss : List String) : joinWith separator (s :: t :: ss) ≠ "" := by
  rw [joinWith_cons_cons]
  intro empty
  exact h (String.append_eq_empty_iff.1 (String.append_eq_empty_iff.1 empty).1).2

/-- What two related lists have element by element, they have as a whole. -/
theorem forall_mem_iff_of_forall₂ {α β : Type} {P : α → Prop} {Q : β → Prop} {as : List α}
    {bs : List β} (h : List.Forall₂ (fun a b => P a ↔ Q b) as bs) :
    (∀ a ∈ as, P a) ↔ ∀ b ∈ bs, Q b := by
  induction h with
  | nil => simp
  | cons first _ ih => rw [List.forall_mem_cons, List.forall_mem_cons, first, ih]

namespace Writer

variable {w : Writer}

/-- A writer that leaves out nothing else: it has the built-in functions and a template that is
not empty, and object constants are without a text where the expressions they stand for are. -/
structure Candid (w : Writer) : Prop where
  functions : w.functions = .standard
  template : w.settings.nameFormat ≠ ""
  objects (fields : List (String × Json)) (t : String) (h : w.objects fields = .ok t) :
    t = "" ↔ (Expr.lit (.obj fields)).Blank

/-- Empty texts are left out of a connective, so it is empty just where all are. -/
theorem connected_eq_empty_iff {op : Connective} {ss : List String} :
    connected op (ss.filter fun s => !s.isEmpty) = "" ↔ ∀ s ∈ ss, s = "" := by
  have nothing : (ss.filter fun s => !s.isEmpty) = [] ↔ ∀ s ∈ ss, s = "" := by simp
  rw [← nothing]
  have texts : ∀ s ∈ ss.filter fun s => !s.isEmpty, s ≠ "" := by simp
  generalize (ss.filter fun s => !s.isEmpty) = ts at texts
  unfold connected
  split
  · simp
  · next s =>
    exact iff_of_false (texts s (List.mem_singleton_self s)) (List.cons_ne_nil _ _)
  · next _ many _ =>
    exact iff_of_false (ne_empty_of_append (ne_empty_of_append (by decide))) many

theorem negated_eq_empty_iff {s : String} : negated s = "" ↔ s = "" := by
  unfold negated
  split
  · exact Iff.rfl
  · next text =>
    rw [String.isEmpty_iff] at text
    exact iff_of_false (ne_empty_of_append (ne_empty_of_append (by decide))) text

theorem bracketed_ne_empty (negative : Bool) (s : String) : bracketed negative s ≠ "" :=
  ne_empty_of_append (ne_empty_of_append (by split <;> decide))

namespace Candid

variable (hw : w.Candid)

include hw

theorem name_eq_empty_iff {s : String} : w.name s = "" ↔ s = "" :=
  quoteName_eq_empty_iff hw.template

/-- Which constants are written without a text: an empty list, a list of one such constant, or an
object that stands for a blank expression. -/
theorem constant_eq_empty_iff {v : Json} {t : String} (h : w.constant v = .ok t) :
    t = "" ↔ (Expr.lit v).Blank := by
  have written {v : Json} (plain : ¬ (Expr.lit v).Blank) {t : String} (text : t ≠ "") :
      t = "" ↔ (Expr.lit v).Blank := iff_of_false text plain
  match v with
  | .null | .bool true | .bool false =>
    rw [constant] at h
    obtain rfl := Except.ok.inj h
    exact written (by rintro ⟨⟩) (by decide)
  | .int n =>
    rw [constant] at h
    obtain rfl := Except.ok.inj h
    exact written (by rintro ⟨⟩) (intText_ne_empty n)
  | .float x =>
    rw [constant] at h
    obtain rfl := Except.ok.inj h
    exact written (by rintro ⟨⟩) (write_ne_empty _ x)
  | .str s =>
    rw [constant] at h
    obtain rfl := Except.ok.inj h
    exact written (by rintro ⟨⟩) (quoteText_ne_empty s)
  | .arr [] =>
    rw [constant, constants] at h
    cases h
    exact iff_of_true rfl .noItems
  | .arr [v] =>
    rw [constant, constants, constants] at h
    obtain ⟨ts, hts, h⟩ := bind_eq_ok.1 h
    obtain ⟨s, hs, hts⟩ := bind_eq_ok.1 hts
    cases hts
    cases h
    rw [Expr.blank_oneItem_iff]
    exact constant_eq_empty_iff hs
  | .arr (u :: v :: items) =>
    rw [constant] at h
    obtain ⟨ts, hts, h⟩ := bind_eq_ok.1 h
    obtain rfl := Except.ok.inj h
    -- two texts have a comma between them, whatever they are
    cases constants_eq_ok hts with
    | cons _ rest => cases rest with
      | cons _ _ => exact written (by rintro ⟨⟩) (joinWith_cons_cons_ne_empty (by decide) _ _ _)
  | .obj fields =>
    rw [constant] at h
    exact hw.objects fields t h

/-- **What is written without a text**. -/
theorem expr_eq_empty_iff {e : Expr} {t : String} (h : w.expr e = .ok t) :
    t = "" ↔ e.Blank := by
  -- by recursion on the expression, as the operands of a connective are in a list
  match e with
  | .lit v =>
    rw [expr] at h
    exact hw.constant_eq_empty_iff h
  | .member path =>
    rw [expr] at h
    cases h
    rw [hw.name_eq_empty_iff, Expr.blank_member_iff]
  | .logical op es =>
    obtain ⟨ss, all, rfl⟩ := logical_eq_ok h
    have each : List.Forall₂ (fun d s => d.Blank ↔ s = "") es ss := by
      refine ((List.forall₂_and_left es ss).2 ⟨fun d hd => hd, all⟩).imp fun d s both => ?_
      -- operands are smaller, for the recursion
      have size := List.sizeOf_lt_of_mem both.1
      exact (expr_eq_empty_iff both.2).symm
    rw [connected_eq_empty_iff, Expr.blank_logical_iff]
    exact (forall_mem_iff_of_forall₂ each).symm
  | .not e =>
    obtain ⟨s, hs, rfl⟩ := not_eq_ok h
    rw [negated_eq_empty_iff, Expr.blank_not_iff]
    exact expr_eq_empty_iff hs
  | .compare l op r =>
    obtain ⟨left, right, -, -, rfl⟩ := compare_eq_ok h
    exact iff_of_false (bracketed_ne_empty _ _) (by rintro ⟨⟩)
  | .arith l op r =>
    rw [expr, hw.functions] at h
    exact iff_of_false (FunctionTable.isCall_standard h).ne_empty (by rintro ⟨⟩)
  | .call name args =>
    rw [expr, hw.functions] at h
    exact iff_of_false (FunctionTable.isCall_standard h).ne_empty (by rintro ⟨⟩)
  | .subquery q =>
    obtain ⟨s, -, rfl⟩ := subquery_eq_ok h
    exact iff_of_false (ne_empty_of_append (ne_empty_of_append (by decide))) (by rintro ⟨⟩)
termination_by sizeOf e

end Candid

end Writer

namespace Formatter

variable {f : Formatter}

/-- **Induction over object constants**: what passes on from the objects inside the expression that
an object stands for to the object itself holds of all. -/
theorem object_induction {P : List (String × Json) → String → Prop}
    (step : ∀ (w : Writer) (fields : List (String × Json)) (e : Expr) (t : String),
      w.settings = f.settings → w.functions = f.functions →
      (∀ parts s, w.objects parts = .ok s → P parts s) →
      decodeObject fields = .ok e → w.expr e = .ok t → P fields t)
    {fields : List (String × Json)} {t : String} (h : f.object fields = .ok t) : P fields t := by
  rw [object] at h
  obtain ⟨e, decoded, h⟩ := bind_eq_ok.1 h
  refine step _ fields e t rfl rfl (fun parts s hs => ?_) decoded h
  dsimp only at hs
  -- objects inside are written only if they are smaller, which decoding leaves them
  split at hs
  · next smaller => exact object_induction step hs
  · cases hs
termination_by Json.sizeFields fields

/-- **The walk of a formatter** with the built-in functions leaves out nothing else. -/
theorem candid_writer (functions : f.functions = .standard)
    (template : f.settings.nameFormat ≠ "") : f.writer.Candid := by
  refine ⟨functions, template, fun fields t h => ?_⟩
  refine object_induction (P := fun fields t => t = "" ↔ (Expr.lit (.obj fields)).Blank)
    (fun w fields e t settings functions' inside decoded h => ?_) h
  have hw : w.Candid := ⟨functions' ▸ functions, settings ▸ template, inside⟩
  rw [Expr.blank_object_iff decoded]
  exact hw.expr_eq_empty_iff h

end Formatter

end Sift.Sql
