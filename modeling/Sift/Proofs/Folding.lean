import Sift.Expr.Fold
import Sift.Proofs.Tree

/-!
# What folding gives

The constructors that fold give one of few forms, and what they give is made of the nodes that they
are given.

* `Expr.arithmetic_cases`, `Expr.connect_cases`, `Expr.negate_cases`: the forms.
* `Everywhere.arithmetic`, `Everywhere.connect_iff`, `Everywhere.negate`: a property of all nodes
  stays one, if the nodes that folding makes have it.
-/

namespace Sift

namespace Expr

/-- **Arithmetic** is computed exactly where both sides are constants that it has a value on. -/
theorem arithmetic_cases (l : Expr) (op : Arith) (r : Expr) :
    (∃ a b v, l = .lit a ∧ r = .lit b ∧ op.compute? a b = some v ∧ arithmetic l op r = .lit v) ∨
    arithmetic l op r = .arith l op r ∧
      ∀ a b, l = .lit a → r = .lit b → op.compute? a b = none := by
  unfold arithmetic
  split
  · next a b =>
    cases hv : op.compute? a b with
    | some v => exact .inl ⟨a, b, v, rfl, rfl, hv, rfl⟩
    | none =>
      refine .inr ⟨rfl, fun a' b' ha hb => ?_⟩
      cases ha; cases hb; exact hv
  · next h => exact .inr ⟨rfl, fun a b ha hb => absurd hb (h a b ha)⟩

/-- **A connective** is computed exactly where both sides are truth values. -/
theorem connect_cases (op : Connective) (d e : Expr) :
    (∃ a b, d = .lit (.bool a) ∧ e = .lit (.bool b) ∧
      connect op d e = .lit (.bool (op.apply a b))) ∨
    connect op d e = .logical op (operandsOf op d ++ operandsOf op e) := by
  unfold connect
  split
  · next a b => exact .inl ⟨a, b, rfl, rfl, rfl⟩
  · exact .inr rfl

/-- **Negation** inverts a truth value, undoes a negation, or is a node of its own. -/
theorem negate_cases (e : Expr) :
    (∃ b, e = .lit (.bool b) ∧ negate e = .lit (.bool !b)) ∨
    (∃ d, e = .not d ∧ negate e = d) ∨
    negate e = .not e ∧ (∀ b, e ≠ .lit (.bool b)) ∧ ∀ d, e ≠ .not d := by
  unfold negate
  split
  · next b => exact .inl ⟨b, rfl, rfl⟩
  · next d => exact .inr (.inl ⟨d, rfl, rfl⟩)
  · next hb hd => exact .inr (.inr ⟨rfl, hb, hd⟩)

end Expr

namespace Everywhere

open Sift.Expr

variable {P : Node → Prop} {d e : Expr}

/-- Folded arithmetic has a property everywhere if its sides do, and constants and arithmetic nodes
have it. -/
theorem arithmetic {op : Arith} (lit : ∀ v, P (.expr (.lit v)))
    (arith : P (.expr (.arith d op e))) (hd : Everywhere P (.expr d))
    (he : Everywhere P (.expr e)) : Everywhere P (.expr (Expr.arithmetic d op e)) := by
  obtain ⟨a, b, v, -, -, -, h⟩ | ⟨h, -⟩ := arithmetic_cases d op e
  · rw [h, lit_iff]
    exact lit v
  · rw [h, arith_iff]
    exact ⟨arith, hd, he⟩

/-- Arithmetic has a property everywhere exactly if both sides have, where constants and its own
nodes have it anyway. -/
theorem arithmetic_iff {op : Arith} (lit : ∀ v, P (.expr (.lit v)))
    (arith : P (.expr (.arith d op e))) :
    Everywhere P (.expr (Expr.arithmetic d op e)) ↔
      Everywhere P (.expr d) ∧ Everywhere P (.expr e) := by
  obtain ⟨a, b, v, rfl, rfl, -, h⟩ | ⟨h, -⟩ := arithmetic_cases d op e
  · rw [h, lit_iff, lit_iff, lit_iff]
    exact ⟨fun _ => ⟨lit a, lit b⟩, fun _ => lit v⟩
  · rw [h, arith_iff, and_iff_right arith]

/-- Flattening does not lose a node: operands have a property everywhere exactly if what they are
taken from has. -/
theorem forall_operandsOf_iff {op : Connective} (logical : ∀ es, P (.expr (.logical op es))) :
    (∀ d ∈ operandsOf op e, Everywhere P (.expr d)) ↔ Everywhere P (.expr e) := by
  unfold operandsOf
  split
  · next op' es =>
    split
    · next h => rw [h, logical_iff, and_iff_right (logical es)]
    · exact List.forall_mem_singleton
  · exact List.forall_mem_singleton

/-- **A connective** has a property everywhere exactly if both sides have, where truth values and
its own nodes have it anyway. -/
theorem connect_iff {op : Connective} (bool : ∀ b, P (.expr (.lit (.bool b))))
    (logical : ∀ es, P (.expr (.logical op es))) :
    Everywhere P (.expr (connect op d e)) ↔ Everywhere P (.expr d) ∧ Everywhere P (.expr e) := by
  obtain ⟨a, b, rfl, rfl, h⟩ | h := connect_cases op d e
  · rw [h, lit_iff, lit_iff, lit_iff]
    exact ⟨fun _ => ⟨bool a, bool b⟩, fun _ => bool _⟩
  · rw [h, logical_iff, and_iff_right (logical _), List.forall_mem_append,
      forall_operandsOf_iff logical, forall_operandsOf_iff logical]

/-- A folded negation has a property everywhere if what is negated does, and truth values and
negations have it. -/
theorem negate (bool : ∀ b, P (.expr (.lit (.bool b)))) (not : P (.expr (.not e)))
    (he : Everywhere P (.expr e)) : Everywhere P (.expr (Expr.negate e)) := by
  obtain ⟨b, -, h⟩ | ⟨d, rfl, h⟩ | ⟨h, -⟩ := negate_cases e
  · rw [h, lit_iff]
    exact bool _
  · rw [h]
    exact (not_iff.1 he).2
  · rw [h, not_iff]
    exact ⟨not, he⟩

/-- A negation has a property everywhere exactly if the operand has, where truth values and
negations have it anyway. -/
theorem negate_iff (bool : ∀ b, P (.expr (.lit (.bool b)))) (not : ∀ d, P (.expr (.not d))) :
    Everywhere P (.expr (Expr.negate e)) ↔ Everywhere P (.expr e) := by
  obtain ⟨b, rfl, h⟩ | ⟨d, rfl, h⟩ | ⟨h, -⟩ := negate_cases e
  · rw [h, lit_iff, lit_iff]
    exact ⟨fun _ => bool b, fun _ => bool _⟩
  · rw [h, not_iff, and_iff_right (not d)]
  · rw [h, not_iff, and_iff_right (not e)]

end Everywhere

end Sift
