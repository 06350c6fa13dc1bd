import Sift.Expr.Fold

/-!
# Truth in three values

Predicates are true, false or unknown, as in SQL. What is known of one side can decide a connective
whatever the other side is; otherwise an unknown side leaves it unknown.

* `Connective.kleene`, `Connective.kleeneAll`: connectives on two truth values and on any number.
* `Expr.truth`: the truth value of an expression, given those of all that is no connective.
* `Valuation`: what gives every connective the truth value it has by those of its operands.
* `Valuation.connect`, `Valuation.negate`: folding keeps truth values.
-/

namespace Sift

/-- A truth value, none where it is unknown. -/
abbrev Truth := Option Bool

namespace Truth

/-- Conjunction. -/
def and : Truth → Truth → Truth
  | some false, _ => some false
  | _, some false => some false
  | some true, some true => some true
  | _, _ => none

/-- Disjunction. -/
def or : Truth → Truth → Truth
  | some true, _ => some true
  | _, some true => some true
  | some false, some false => some false
  | _, _ => none

/-- Negation. -/
def not (t : Truth) : Truth := Option.map Bool.not t

theorem not_not (t : Truth) : t.not.not = t := by
  rcases t with - | - | - <;> rfl

theorem and_true (t : Truth) : t.and (some true) = t := by
  rcases t with - | - | - <;> rfl

theorem and_assoc (s t u : Truth) : and (and s t) u = and s (and t u) := by
  rcases s with - | - | - <;> rcases t with - | - | - <;> rcases u with - | - | - <;> rfl

end Truth

namespace Connective

variable (op : Connective)

/-- A connective on truth values that may be unknown. -/
def kleene : Connective → Truth → Truth → Truth
  | .and => Truth.and
  | .or => Truth.or

/-- The truth value that changes nothing. -/
def unit : Connective → Truth
  | .and => some true
  | .or => some false

/-- A connective on any number of truth values. -/
def kleeneAll (ts : List Truth) : Truth := ts.foldr op.kleene op.unit

/-- On known truth values a connective is the boolean one. -/
theorem kleene_some (a b : Bool) : op.kleene (some a) (some b) = some (op.apply a b) := by
  cases op <;> cases a <;> cases b <;> rfl

/-- The unit of a connective changes nothing, not even the unknown. -/
theorem unit_kleene (t : Truth) : op.kleene op.unit t = t := by
  cases op <;> rcases t with - | - | - <;> rfl

theorem kleene_unit (t : Truth) : op.kleene t op.unit = t := by
  cases op <;> rcases t with - | - | - <;> rfl

/-- Grouping does not matter, so a connective may be flattened. -/
theorem kleene_assoc (s t u : Truth) :
    op.kleene (op.kleene s t) u = op.kleene s (op.kleene t u) := by
  cases op with
  | and => exact Truth.and_assoc s t u
  | or => rcases s with - | - | - <;> rcases t with - | - | - <;> rcases u with - | - | - <;> rfl

theorem kleeneAll_cons (t : Truth) (ts : List Truth) :
    op.kleeneAll (t :: ts) = op.kleene t (op.kleeneAll ts) := rfl

theorem kleeneAll_singleton (t : Truth) : op.kleeneAll [t] = t := op.kleene_unit t

/-- A connective of two lists is that of their truth values, so operands may be spliced in. -/
theorem kleeneAll_append (ss ts : List Truth) :
    op.kleeneAll (ss ++ ts) = op.kleene (op.kleeneAll ss) (op.kleeneAll ts) := by
  induction ss with
  | nil => exact (op.unit_kleene _).symm
  | cons s ss ih => rw [List.cons_append, kleeneAll_cons, kleeneAll_cons, ih, kleene_assoc]

end Connective

mutual

/-- The truth value of an expression: constants of truth are what they are, connectives and
negations go by their operands, and anything else has the truth value given for it. -/
def Expr.truth (given : Expr → Truth) : Expr → Truth
  | .lit (.bool b) => some b
  | .logical op es => op.kleeneAll (truths given es)
  | .not e => (e.truth given).not
  | e => given e
termination_by structural e => e

/-- The truth values of expressions. -/
def truths (given : Expr → Truth) : List Expr → List Truth
  | [] => []
  | e :: es => e.truth given :: truths given es
termination_by structural es => es

end

/-- The walk over operands takes the truth value of each. -/
theorem truths_eq_map (given : Expr → Truth) (es : List Expr) :
    truths given es = es.map (Expr.truth given) := by
  induction es with
  | nil => rfl
  | cons e es ih => rw [truths, ih, List.map_cons]

/-- A valuation gives constants of truth, connectives and negations the truth values that they
have by their operands. -/
structure Valuation (f : Expr → Truth) : Prop where
  bool (b : Bool) : f (.lit (.bool b)) = some b
  logical (op : Connective) (es : List Expr) : f (.logical op es) = op.kleeneAll (es.map f)
  not (e : Expr) : f (.not e) = (f e).not

/-- Truth values themselves are such a valuation. -/
theorem Expr.valuation_truth (given : Expr → Truth) : Valuation (Expr.truth given) where
  bool b := rfl
  logical op es := by rw [truth, truths_eq_map]
  not e := rfl

namespace Valuation

variable {f : Expr → Truth} (hf : Valuation f) (op : Connective)

include hf

/-- An expression has the truth value of the operands that it is flattened to. -/
theorem kleeneAll_operandsOf (e : Expr) : op.kleeneAll ((Expr.operandsOf op e).map f) = f e := by
  cases e with
  | logical op' es =>
    rw [Expr.operandsOf]
    split
    · next h => rw [hf.logical, h]
    · exact op.kleeneAll_singleton _
  | _ => exact op.kleeneAll_singleton _

/-- **Connecting two expressions** connects their truth values, computed or merged as they may be.
-/
theorem connect (d e : Expr) : f (Expr.connect op d e) = op.kleene (f d) (f e) := by
  unfold Expr.connect
  split
  · next a b => rw [hf.bool, hf.bool, hf.bool, op.kleene_some]
  · rw [hf.logical, List.map_append, op.kleeneAll_append, hf.kleeneAll_operandsOf,
      hf.kleeneAll_operandsOf]

/-- Folding a negation, with a double one removed, negates the truth value. -/
theorem negate (e : Expr) : f (Expr.negate e) = (f e).not := by
  unfold Expr.negate
  split
  · next b => rw [hf.bool, hf.bool]; rfl
  · next d => rw [hf.not, Truth.not_not]
  · exact hf.not e

end Valuation

end Sift
