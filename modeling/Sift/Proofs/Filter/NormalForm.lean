import Mathlib
import Sift.Proofs.Filter.Completeness
import Sift.Proofs.Folding

/-!
# The normal form of filters

An expression that a filter text gives has nothing left to fold, to merge, to undo or to turn
around, at any depth and in whatever order parentheses, negations, connectives and arithmetic were
put together: each construct keeps the form, given that its parts have it.

* `Node.Normal`: the form, node by node.
* `Everywhere.normal_connect`, `normal_negate`, `normal_arithmetic`, `normal_compareFacing`: what
  each construct keeps.
* `parse_normal`: the expression of a filter text is in normal form at every depth.
-/

namespace Sift

open Sift.Expr

/-- A node in normal form. A connective joins two operands or more, none of the same connective,
and not two truth values alone. A negation is on no negation and no truth value. Arithmetic on two
constants has no value. A comparison has no constant on the left alone and is no membership, and
there is no subquery. -/
def Node.Normal : Node → Prop
  | .expr (.logical op es) => 2 ≤ es.length ∧ (∀ e ∈ es, ∀ ds, e ≠ .logical op ds) ∧
      ∀ a b, es ≠ [.lit (.bool a), .lit (.bool b)]
  | .expr (.not e) => (∀ d, e ≠ .not d) ∧ ∀ b, e ≠ .lit (.bool b)
  | .expr (.arith l op r) => ∀ a b, l = .lit a → r = .lit b → op.compute? a b = none
  | .expr (.compare l op r) => op ≠ .isIn ∧ op ≠ .notIn ∧ (l.isLiteral → r.isLiteral)
  | .expr (.subquery _) => False
  | .expr _ => True
  | .query _ => False

/-- The operands of an expression in normal form under a connective: there is one, none is of
that connective, and a single one is the expression itself. -/
theorem Expr.normal_operandsOf (op : Connective) {e : Expr}
    (h : Everywhere Node.Normal (.expr e)) :
    operandsOf op e ≠ [] ∧ (∀ d, operandsOf op e = [d] → d = e) ∧
      ∀ d ∈ operandsOf op e, Everywhere Node.Normal (.expr d) ∧ ∀ ds, d ≠ .logical op ds := by
  unfold operandsOf
  split
  · next op' es =>
    split
    · next same =>
      subst same
      obtain ⟨⟨two, apart, -⟩, inside⟩ := Everywhere.logical_iff.1 h
      refine ⟨?_, fun d hd => ?_, fun d hd => ⟨inside d hd, apart d hd⟩⟩
      · -- a connective has two operands at least, so neither none nor one is left
        rintro rfl
        simp at two
      · rw [hd] at two
        simp at two
    · next other =>
      refine ⟨by simp, fun d hd => (List.singleton_inj.1 hd).symm, ?_⟩
      exact List.forall_mem_singleton.2 ⟨h, fun ds hds => other (Expr.logical.inj hds).1⟩
  · next apart =>
    refine ⟨by simp, fun d hd => (List.singleton_inj.1 hd).symm, ?_⟩
    exact List.forall_mem_singleton.2 ⟨h, fun ds => apart op ds⟩

namespace Everywhere

variable {d e : Expr}

/-- Merging two connectives of a kind leaves none right inside the other, and two operands at least.
-/
theorem normal_connect (op : Connective) (hd : Everywhere Node.Normal (.expr d))
    (he : Everywhere Node.Normal (.expr e)) :
    Everywhere Node.Normal (.expr (connect op d e)) := by
  obtain ⟨a, b, -, -, h⟩ | h := connect_cases op d e
  · rw [h, lit_iff]
    trivial
  · obtain ⟨someLeft, aloneLeft, left⟩ := Expr.normal_operandsOf op hd
    obtain ⟨someRight, aloneRight, right⟩ := Expr.normal_operandsOf op he
    have operands : ∀ c ∈ operandsOf op d ++ operandsOf op e,
        Everywhere Node.Normal (.expr c) ∧ ∀ ds, c ≠ .logical op ds :=
      List.forall_mem_append.2 ⟨left, right⟩
    rw [h, logical_iff]
    refine ⟨⟨?_, fun c hc => (operands c hc).2, fun a b both => ?_⟩,
      fun c hc => (operands c hc).1⟩
    · have := List.length_pos_iff.2 someLeft
      have := List.length_pos_iff.2 someRight
      rw [List.length_append]
      omega
    · -- two operands in all are the sides themselves, and truth values would have been computed
      obtain ⟨x, xs, hx⟩ := List.exists_cons_of_ne_nil someLeft
      obtain ⟨y, ys, hy⟩ := List.exists_cons_of_ne_nil someRight
      rw [hx, hy] at both
      obtain ⟨rfl, rfl, rfl, rfl⟩ :
          x = .lit (.bool a) ∧ xs = [] ∧ y = .lit (.bool b) ∧ ys = [] := by
        cases xs <;> simp_all
      rw [← aloneLeft _ hx, ← aloneRight _ hy] at h
      cases h

/-- A negation that is made stands on none, and on no truth value. -/
theorem normal_negate (he : Everywhere Node.Normal (.expr e)) :
    Everywhere Node.Normal (.expr (Expr.negate e)) := by
  obtain ⟨b, -, h⟩ | ⟨d, rfl, h⟩ | ⟨h, bool, negation⟩ := negate_cases e
  · rw [h, lit_iff]
    trivial
  · rw [h]
    exact (not_iff.1 he).2
  · rw [h, not_iff]
    exact ⟨⟨negation, bool⟩, he⟩

/-- Arithmetic that is left has a side that is no constant, or no value. -/
theorem normal_arithmetic (op : Arith) (hd : Everywhere Node.Normal (.expr d))
    (he : Everywhere Node.Normal (.expr e)) :
    Everywhere Node.Normal (.expr (Expr.arithmetic d op e)) := by
  obtain ⟨a, b, v, -, -, -, h⟩ | ⟨h, stuck⟩ := arithmetic_cases d op e
  · rw [h, lit_iff]
    trivial
  · rw [h, arith_iff]
    exact ⟨stuck, hd, he⟩

end Everywhere

namespace Filter

variable {d e : Expr}

/-- A comparison written in a filter is no membership, and neither is its mirror image, which it
has. -/
theorem exists_mirror_of_mem {s : String} {op : Comparison} (h : (s, op) ∈ comparisonOperators) :
    (op ≠ .isIn ∧ op ≠ .notIn) ∧ ∃ op', op.mirror? = some op' ∧ op' ≠ .isIn ∧ op' ≠ .notIn := by
  simp only [comparisonOperators, List.mem_cons, Prod.mk.injEq, List.not_mem_nil, or_false] at h
  rcases h with ⟨-, rfl⟩ | ⟨-, rfl⟩ | ⟨-, rfl⟩ | ⟨-, rfl⟩ | ⟨-, rfl⟩ | ⟨-, rfl⟩ <;>
    simp [Comparison.mirror?]

/-- A comparison that is faced has no constant on the left alone. -/
theorem normal_compareFacing {s : String} {op : Comparison} (hs : (s, op) ∈ comparisonOperators)
    (hd : Everywhere Node.Normal (.expr d)) (he : Everywhere Node.Normal (.expr e)) :
    Everywhere Node.Normal (.expr (compareFacing op d e)) := by
  obtain ⟨⟨notIn, notOut⟩, op', mirror, notIn', notOut'⟩ := exists_mirror_of_mem hs
  unfold compareFacing
  split
  · next left =>
    rw [Bool.and_eq_true] at left
    rw [mirror, Everywhere.compare_iff]
    exact ⟨⟨notIn', notOut', fun _ => left.1⟩, he, hd⟩
  · next facing =>
    rw [Everywhere.compare_iff]
    refine ⟨⟨notIn, notOut, fun left => ?_⟩, hd, he⟩
    simpa [left] using facing

/-- A phrase of a filter is in normal form. -/
theorem Derives.normal {p : Phrase} {ts : List Token}
    (h : Derives (.expr .identity) p ts e) : Everywhere Node.Normal (.expr e) := by
  -- only operators and negations make a node that might not be normal
  induction h with
  | operand _ ih => exact ih
  | @joined _ _ _ _ _ _ op _ _ _ ihl ihr =>
    cases op with
    | connective op => exact ihl.normal_connect op ihr
    | arith op => exact ihl.normal_arithmetic op ihr
  | not _ ih => exact ih.normal_negate
  | comparison _ ih => exact ih
  | sum _ ih => exact ih
  | compared _ hs _ ihl ihr => exact normal_compareFacing hs ihl ihr
  | literal l => exact Everywhere.lit_iff.2 trivial
  | parentheses _ ih => exact ih
  | call _ _ hx ih =>
    cases hx
    refine Everywhere.call_iff.2 ⟨trivial, List.forall_mem_map.2 ih⟩
  | path _ _ hx =>
    cases hx
    exact Everywhere.member_iff.2 trivial

/-- **The expression of a filter text is in normal form** at every depth, arguments of calls
included. -/
theorem parse_normal {source : String} (h : parse source .identity = .ok e) :
    Everywhere Node.Normal (.expr e) := by
  obtain ⟨ts, -, h⟩ := bind_eq_ok.1 h
  exact (parseTokens_eq_ok_iff.1 h).normal

/-- A double negation is undone and shows a conjunction to merge; a sum is computed, and a
comparison turned around in an argument. -/
theorem parse_normal_of_doubled :
    ∃ e, parse "not not (sale and new) and 1 add 2 eq f(5 lt price)" .identity = .ok e ∧
      e = .logical .and [.member "sale", .member "new",
        .compare (.call "f" [.compare (.member "price") .gt (.lit (.int 5))]) .eq (.lit (.int 3))] ∧
      Everywhere Node.Normal (.expr e) := by
  have read : parse "not not (sale and new) and 1 add 2 eq f(5 lt price)" .identity =
      .ok (.logical .and [.member "sale", .member "new",
        .compare (.call "f" [.compare (.member "price") .gt (.lit (.int 5))]) .eq
          (.lit (.int 3))]) := by cbv
  exact ⟨_, read, rfl, parse_normal read⟩

end Filter

end Sift
