import Sift.Proofs.Sql.Blanks
import Sift.Proofs.Sql.Items
import Sift.Proofs.Sql.Twins

/-!
# Expressions as items

Which expressions are one item where they stand in a list. What is written in brackets or as a call
is; but an array is as many items as its constants, and what has no text is none. A connective with
one operand left is written as that operand, an object constant as the expression it stands for.

* `Node.Reaches`: what is written for a node; `Node.Tidy`: the names in it are plain.
* `Expr.Single`: an expression that is one item.
* `Writer.Neat`: a writer for such names; `Writer.Shaped`: the form of the texts that it writes.
* `Writer.Neat.balanced`: whatever it writes is balanced, by the walk for two writers.
* `Writer.Neat.shaped`: which expressions are one item of a list.
-/

namespace Sift

/-- What is written for a node: the nodes inside it, at any depth, those of the constants in an
array, and those of the expression that an object stands for. -/
inductive Node.Reaches : Node → Node → Prop where
  | here (n : Node) : n.Reaches n
  | part {n m k : Node} (hm : m ∈ n.parts) (h : m.Reaches k) : n.Reaches k
  | item {items : List Json} {v : Json} {k : Node} (hv : v ∈ items)
      (h : (Node.expr (.lit v)).Reaches k) : (Node.expr (.lit (.arr items))).Reaches k
  | object {fields : List (String × Json)} {e : Expr} {k : Node}
      (decoded : decodeObject fields = .ok e) (h : (Node.expr e).Reaches k) :
      (Node.expr (.lit (.obj fields))).Reaches k

/-- A node with plain names: no literal, bracket or comma is in any name written for it. -/
def Node.Tidy (n : Node) : Prop := ∀ k, n.Reaches k → ∀ s ∈ k.names, Sql.Atomic s

namespace Node.Tidy

variable {n m : Node}

theorem names (h : n.Tidy) : ∀ s ∈ n.names, Sql.Atomic s := h n (.here n)

theorem part (h : n.Tidy) (hm : m ∈ n.parts) : m.Tidy := fun k hk => h k (.part hm hk)

theorem item {items : List Json} (h : (Node.expr (.lit (.arr items))).Tidy) {v : Json}
    (hv : v ∈ items) : (Node.expr (.lit v)).Tidy := fun k hk => h k (.item hv hk)

theorem object {fields : List (String × Json)} (h : (Node.expr (.lit (.obj fields))).Tidy)
    {e : Expr} (decoded : decodeObject fields = .ok e) : (Node.expr e).Tidy := fun k hk =>
  h k (.object decoded hk)

/-- Being tidy is a property of a whole tree, and so of all its parts. -/
theorem everywhere (h : n.Tidy) : Everywhere Node.Tidy n := by
  induction n using Node.induction with
  | step n ih => exact .intro h fun m hm => ih m hm (h.part hm)

end Node.Tidy

/-- A constant without parts. -/
def Json.isScalar : Json → Bool
  | .arr _ => false
  | .obj _ => false
  | _ => true

open Classical in
/-- The operands that are written: those with a text. -/
noncomputable def Expr.kept (es : List Expr) : List Expr := es.filter fun e => ¬ e.Blank

/-- An expression that is one item. -/
inductive Expr.Single : Expr → Prop where
  | scalar {v : Json} (h : v.isScalar = true) : Single (.lit v)
  | oneItem {v : Json} (h : Single (.lit v)) : Single (.lit (.arr [v]))
  | object {fields : List (String × Json)} {e : Expr} (decoded : decodeObject fields = .ok e)
      (h : Single e) : Single (.lit (.obj fields))
  | member {path : String} (h : path ≠ "") : Single (.member path)
  | oneOperand {op : Connective} {es : List Expr} {e : Expr} (alone : kept es = [e])
      (h : Single e) : Single (.logical op es)
  | operands {op : Connective} {es : List Expr} (several : 2 ≤ (kept es).length) :
      Single (.logical op es)
  | not {e : Expr} (h : ¬ e.Blank) : Single (.not e)
  | compare (l : Expr) (op : Comparison) (r : Expr) : Single (.compare l op r)
  | arith (l : Expr) (op : Arith) (r : Expr) : Single (.arith l op r)
  | call (name : String) (args : List Expr) : Single (.call name args)
  | subquery (q : Query) : Single (.subquery q)

namespace Expr

theorem single_member_iff {path : String} : (member path).Single ↔ path ≠ "" := by
  refine ⟨fun h => ?_, .member⟩
  cases h with
  | member h => exact h

/-- A negation has brackets of its own, so it is one item if it has a text. -/
theorem single_not_iff {e : Expr} : (Expr.not e).Single ↔ ¬ e.Blank := by
  refine ⟨fun h => ?_, .not⟩
  cases h with
  | not h => exact h

/-- A list of one item is the item. -/
theorem single_oneItem_iff {v : Json} : (lit (.arr [v])).Single ↔ (lit v).Single := by
  refine ⟨fun h => ?_, .oneItem⟩
  cases h with
  | scalar h => cases h
  | oneItem h => exact h

/-- An object is one item as the expression that it stands for. -/
theorem single_object_iff {fields : List (String × Json)} {e : Expr}
    (decoded : decodeObject fields = .ok e) : (lit (.obj fields)).Single ↔ e.Single := by
  refine ⟨fun h => ?_, .object decoded⟩
  cases h with
  | scalar h => cases h
  | object decoded' h =>
    rw [decoded] at decoded'
    exact Except.ok.inj decoded' ▸ h

/-- A connective is one item with two operands left, which have brackets around them, or as the only
one left. -/
theorem single_logical_iff (op : Connective) (es : List Expr) :
    (logical op es).Single ↔ (∃ e, kept es = [e] ∧ e.Single) ∨ 2 ≤ (kept es).length := by
  constructor
  · intro h
    cases h with
    | oneOperand alone h => exact .inl ⟨_, alone, h⟩
    | operands several => exact .inr several
  · rintro (⟨e, alone, h⟩ | several)
    · exact .oneOperand alone h
    · exact .operands several

end Expr

end Sift

namespace Sift.Sql

open Text Number

/-- **What stands for a balanced argument** is balanced. -/
theorem Operand.Stands.balanced {a : Operand} {t : String} (h : a.Stands t)
    (text : ∀ s, a.sql = .ok s → Balanced s) : Balanced t := by
  cases h with
  | text h => exact text _ h
  | pattern => exact (firm_quoteText _).balanced
  | position => exact (textClass_atomic.intText _).firm.balanced

/-- The texts that are read over in brackets. Composition keeps them, so a statement is one of them
if it corresponds to itself. -/
def balancedTexts : Correspondence :=
  .ofClass Balanced (fun _ h => h.2.balanced) (fun _ _ => .append) (fun _ h => h.brackets.balanced)
    fun s => (firm_quoteText s).balanced

namespace Writer

variable {w : Writer}

/-- A writer for plain names: the template is plain, and object constants are written as the
expressions they stand for, the items of these counted. -/
structure Neat (w : Writer) : Prop extends w.Candid where
  atomic : Atomic w.settings.nameFormat
  parted (fields : List (String × Json)) (t : String) (h : w.objects fields = .ok t)
    (tidy : (Node.expr (.lit (.obj fields))).Tidy) :
    Parted t ∧ (Sole t ↔ (Expr.lit (.obj fields)).Single)

/-- The shape of a text: it is made of items, and is one item exactly if the expression that it
is written for is single. -/
def Shaped (e : Expr) (s : String) : Prop := Parted s ∧ (Sole s ↔ e.Single)

/-- What is read over as a whole is one item if it has a text. -/
theorem shaped_of_firm {e : Expr} {s : String} (firm : Firm s) (single : s ≠ "" ↔ e.Single) :
    Shaped e s :=
  ⟨firm.parted, firm.sole_iff.trans single⟩

/-- In brackets of its own, a text is read over as a whole. -/
theorem firm_bracketed {negative : Bool} {s : String} (h : Balanced s) :
    Firm (bracketed negative s) := by
  cases negative with
  | false => exact h.brackets
  | true =>
    have inner : Balanced ("NOT " ++ s) := (Flat.balanced (by decide)).append h
    have opening : "(NOT " = "(" ++ "NOT " := by decide
    have whole : bracketed true s = "(" ++ ("NOT " ++ s) ++ ")" := by
      rw [bracketed, if_pos rfl, opening]
      simp only [String.append_assoc]
    rw [whole]
    exact inner.brackets

/-- What is in brackets is one item. -/
theorem shaped_brackets {e : Expr} {s : String} (h : Balanced s) (single : e.Single) :
    Shaped e ("(" ++ s ++ ")") :=
  shaped_of_firm h.brackets
    (iff_of_true (ne_empty_of_append (ne_empty_of_append (by decide))) single)

/-- So an expression that is always in brackets is single and one item. -/
theorem shaped_bracketed {e : Expr} {negative : Bool} {s : String} (h : Balanced s)
    (single : e.Single) : Shaped e (bracketed negative s) :=
  shaped_of_firm (firm_bracketed h) (iff_of_true (bracketed_ne_empty _ _) single)

theorem shaped_nothing {e : Expr} (single : ¬ e.Single) : Shaped e "" :=
  shaped_of_firm (Atomic.firm (by decide)) (iff_of_false (fun h => h rfl) single)

/-- Several texts with commas between them are not one item. -/
theorem shaped_several {e : Expr} {s t : String} {ts : List String}
    (parted : ∀ u ∈ s :: t :: ts, Parted u) (single : ¬ e.Single) :
    Shaped e (joinWith ", " (s :: t :: ts)) := by
  have any : s :: t :: ts ≠ [] := List.cons_ne_nil _ _
  refine ⟨Parted.joinWith any parted, iff_of_false (fun sole => ?_) single⟩
  have count := length_le_length_flatMap_items parted
  rw [← items_joinWith_parted any parted, sole.1] at count
  exact absurd count (by simp)

namespace Neat

variable (hw : w.Neat)

include hw

/-! ### Constants -/

/-- A constant: scalars are one item, arrays as many as they have, and objects what they stand for.
-/
theorem shaped_constant {v : Json} (tidy : (Node.expr (.lit v)).Tidy) {s : String}
    (h : w.constant v = .ok s) : Shaped (.lit v) s := by
  -- by recursion on the constant, as the items of an array are in a list
  match v with
  | .null | .bool true | .bool false =>
    rw [constant] at h
    obtain rfl := Except.ok.inj h
    exact shaped_of_firm (Atomic.firm (by decide)) (iff_of_true (by decide) (.scalar rfl))
  | .int n =>
    rw [constant] at h
    obtain rfl := Except.ok.inj h
    exact shaped_of_firm (textClass_atomic.intText n).firm
      (iff_of_true (intText_ne_empty n) (.scalar rfl))
  | .float x =>
    rw [constant] at h
    obtain rfl := Except.ok.inj h
    exact shaped_of_firm (textClass_atomic.write _ x).firm
      (iff_of_true (write_ne_empty _ x) (.scalar rfl))
  | .str c =>
    rw [constant] at h
    obtain rfl := Except.ok.inj h
    exact shaped_of_firm (firm_quoteText c) (iff_of_true (quoteText_ne_empty c) (.scalar rfl))
  | .arr items =>
    rw [constant] at h
    obtain ⟨ts, hts, h⟩ := bind_eq_ok.1 h
    obtain rfl := Except.ok.inj h
    have each (v : Json) (hv : v ∈ items) (t : String) (ht : w.constant v = .ok t) :
        Shaped (.lit v) t :=
      have := List.sizeOf_lt_of_mem hv
      shaped_constant (tidy.item hv) ht
    have written := constants_eq_ok hts
    match items, ts, written with
    | [], [], _ => exact shaped_nothing (by rintro ⟨⟨⟩⟩)
    | [v], [t], .cons ht .nil =>
      obtain ⟨parted, sole⟩ := each v List.mem_cons_self t ht
      exact ⟨parted, sole.trans Expr.single_oneItem_iff.symm⟩
    | u :: v :: items, s :: t :: ts, written =>
      have parted := forall_mem_of_forall₂ written fun v hv t ht => (each v hv t ht).1
      exact shaped_several parted (by rintro ⟨⟨⟩⟩)
  | .obj fields =>
    rw [constant] at h
    exact hw.parted fields s h tidy
termination_by sizeOf v

/-! ### Whole trees -/

/-- Names, calls and all that is between them are balanced, so all that is written for plain names
is, and no clause has to be looked at again. -/
theorem twins : Twins balancedTexts Atomic w w where
  names := textClass_atomic
  name h := ⟨rfl, (textClass_atomic.quoteName hw.atomic h).firm.balanced⟩
  forceAlias := rfl
  useAliasKeyword := rfl
  functions := rfl
  keeps := hw.functions ▸ FunctionTable.keeps_standard _

/-- A tidy tree fits a writer that is compared with itself: names have no comma or bracket, and
constants are balanced. -/
theorem fits {n : Node} (tidy : n.Tidy) : Everywhere (Fits balancedTexts Atomic w w) n := by
  refine tidy.everywhere.mono fun m tidy =>
    ⟨tidy.names, fun v hv => Agree.self_iff.2 fun s hs => ?_⟩
  rw [Node.eq_lit_of_constant? hv] at tidy
  exact (hw.shaped_constant tidy hs).1.balanced

/-- **What is written for plain names** closes all that it opens. -/
theorem balanced {n : Node} (tidy : n.Tidy) {s : String} (h : w.TextOf n s) : Balanced s := by
  have walk := hw.twins.matches_everywhere n (hw.fits tidy)
  have constant : balancedTexts.constant = id := rfl
  cases n with
  | expr e =>
    rw [Matches, constant, e.mapConstants_id] at walk
    exact Agree.self_iff.1 walk s h
  | query q =>
    rw [Matches, constant, q.mapConstants_id] at walk
    exact Agree.self_iff.1 walk s h

/-! ### Expressions -/

/-- The operands that are kept are those whose texts are. -/
theorem forall₂_kept {R : Expr → String → Prop} {es : List Expr} {ss : List String}
    (written : List.Forall₂ (fun e s => w.expr e = .ok s ∧ R e s) es ss) :
    List.Forall₂ (fun e s => R e s ∧ s ≠ "") (Expr.kept es) (ss.filter fun s => !s.isEmpty) := by
  induction written with
  | nil => exact .nil
  | @cons e s es ss first _ ih =>
    have blank_iff := hw.expr_eq_empty_iff first.1
    by_cases text : s = ""
    · have blank : e.Blank := blank_iff.1 text
      simpa [Expr.kept, text, blank] using ih
    · have written : ¬ e.Blank := fun h => text (blank_iff.2 h)
      have more : List.Forall₂ (fun e s => R e s ∧ s ≠ "") (e :: Expr.kept es)
          (s :: ss.filter fun s => !s.isEmpty) := .cons ⟨first.2, text⟩ ih
      simpa [Expr.kept, text, written] using more

/-- A connective is what its operands with a text make it. -/
theorem shaped_logical {op : Connective} {es : List Expr} {ss : List String}
    (written : List.Forall₂ (fun e s => w.expr e = .ok s) es ss)
    (each : ∀ e ∈ es, ∀ s, w.expr e = .ok s → Shaped e s) :
    Shaped (.logical op es) (connected op (ss.filter fun s => !s.isEmpty)) := by
  have shaped : List.Forall₂ (fun e s => w.expr e = .ok s ∧ Shaped e s) es ss :=
    ((List.forall₂_and_left es ss).2 ⟨fun e he => each e he, written⟩).imp
      fun _ _ both => ⟨both.2, both.1 _ both.2⟩
  have kept := hw.forall₂_kept shaped
  -- the rest is about the operands that are kept and their texts alone
  have single := Expr.single_logical_iff op es
  generalize Expr.kept es = ks at kept single
  generalize (ss.filter fun s => !s.isEmpty) = ts at kept
  match ks, ts, kept with
  | [], [], _ => exact shaped_nothing (by simp [single])
  | [e], [s], .cons first .nil =>
    refine ⟨first.1.1, first.1.2.trans ?_⟩
    simp [single]
  | d :: e :: ks, s :: t :: ts, kept =>
    have parted := forall_mem_of_forall₂ kept fun e _ s h => h.1.1.balanced
    have separator : Balanced op.separator := by cases op <;> exact Flat.balanced (by decide)
    exact shaped_brackets (Balanced.joinWith separator parted) (by simp [single])

/-- A negation is one item, unless nothing is negated. -/
theorem shaped_not {e : Expr} {s : String} (h : w.expr e = .ok s) (balanced : Balanced s) :
    Shaped (.not e) (negated s) := by
  have blank_iff := hw.expr_eq_empty_iff h
  by_cases text : s = ""
  · rw [text]
    exact shaped_nothing (by simpa [Expr.single_not_iff] using blank_iff.1 text)
  · have given : ¬ e.Blank := fun h => text (blank_iff.2 h)
    have written : negated s = bracketed true s := by
      rw [negated, if_neg (by simpa using text)]
      rfl
    rw [written]
    exact shaped_bracketed balanced (.not given)

/-- A call is one item. -/
theorem shaped_call {e : Expr} (single : e.Single) {args : List Expr} {name s : String}
    (h : w.functions.render name (args.map fun e => ⟨e, w.expr e⟩) = .ok s)
    (tidy : ∀ d ∈ args, (Node.expr d).Tidy) : Shaped e s := by
  rw [hw.functions] at h
  have call := FunctionTable.isCall_standard h
  refine shaped_of_firm (call.firm fun a ha t stands => ?_) (iff_of_true call.ne_empty single)
  obtain ⟨d, hd, rfl⟩ := List.mem_map.1 ha
  exact stands.balanced fun s hs => hw.balanced (tidy d hd) hs

/-- What stands behind the left side of a comparison. A query in a set stands there without
brackets of its own. -/
theorem balanced_rightText {op : Comparison} {r : Expr} {right : String}
    (tidy : (Node.expr r).Tidy) (h : w.RightText op r right) : Balanced right := by
  cases h with
  | null => exact Flat.balanced (by decide)
  | set h =>
    have opening : Opening " IN (" := ⟨" IN ", by decide, by decide⟩
    -- an array, a nested query, or an expression that is a set
    have inside {s : String} (h : w.SetText r s) : Balanced s := by
      cases h with
      | @items items s h =>
        unfold constantSet at h
        split at h
        · cases h
          exact Flat.balanced (by decide)
        · have same : w.expr (.lit (.arr items)) = .ok s := by
            rw [Writer.expr, constant]
            exact h
          exact hw.balanced tidy same
      | @query q s h => exact hw.balanced (tidy.part (m := .query q) (by simp [Node.parts])) h
      | expr h => exact hw.balanced tidy h
    exact (opening.firm_enclosed (inside h)).balanced
  | value h =>
    have symbol : Balanced (" " ++ (comparisonSymbol op).2 ++ " ") := by
      cases op <;> exact Flat.balanced (by decide)
    exact symbol.append (hw.balanced tidy h)

/-- **What is written for plain names** is made of items, one for each expression that is single. -/
theorem shaped (e : Expr) (tidy : (Node.expr e).Tidy) {s : String} (h : w.expr e = .ok s) :
    Shaped e s := by
  match e with
  | .lit v =>
    rw [expr] at h
    exact hw.shaped_constant tidy h
  | .member path =>
    rw [expr] at h
    obtain rfl := Except.ok.inj h
    have plain : Atomic path := tidy.names path (by simp [Node.names, Expr.path?])
    exact shaped_of_firm (textClass_atomic.quoteName hw.atomic plain).firm
      (by rw [ne_eq, hw.name_eq_empty_iff, Expr.single_member_iff])
  | .call name args =>
    rw [expr, operands_eq_map] at h
    exact hw.shaped_call (.call name args) h fun e he => tidy.part (List.mem_map_of_mem he)
  | .arith l op r =>
    rw [expr] at h
    have tidy : ∀ e ∈ [l, r], (Node.expr e).Tidy := fun e he => tidy.part (List.mem_map_of_mem he)
    exact hw.shaped_call (.arith l op r) h tidy
  | .subquery q =>
    obtain ⟨t, ht, rfl⟩ := subquery_eq_ok h
    have inside : Balanced t := hw.balanced (tidy.part (m := .query q) (by simp [Node.parts])) ht
    exact shaped_brackets inside (.subquery q)
  | .logical op es =>
    obtain ⟨ss, written, rfl⟩ := logical_eq_ok h
    refine hw.shaped_logical written fun e he s h => ?_
    -- an operand that is left alone is written without brackets, so it is looked at again
    exact shaped e (tidy.part (List.mem_map_of_mem he)) h
  | .not e =>
    obtain ⟨t, ht, rfl⟩ := not_eq_ok h
    exact hw.shaped_not ht (hw.balanced (tidy.part (m := .expr e) (by simp [Node.parts,
      Expr.parts])) ht)
  | .compare l op r =>
    obtain ⟨left, right, hl, hr, rfl⟩ := compare_eq_ok h
    have part {e : Expr} (he : e ∈ [l, r]) : (Node.expr e).Tidy :=
      tidy.part (List.mem_map_of_mem he)
    have hleft : Balanced left := hw.balanced (part List.mem_cons_self) hl
    have hright : Balanced right := hw.balanced_rightText (part (by simp)) hr
    exact shaped_bracketed (hleft.append hright) (.compare l op r)
termination_by sizeOf e
decreasing_by
  have := List.sizeOf_lt_of_mem he
  simp only [Expr.logical.sizeOf_spec]
  omega

end Neat

end Writer

end Sift.Sql
