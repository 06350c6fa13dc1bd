import Sift.Proofs.Filter.Completeness
import Sift.Proofs.Folding

/-!
# Filters as they are written

Reading a filter computes constants, merges connectives, turns comparisons around and undoes double
negations. Here the tree of the same filter with one node for each operator, which can be compared
with the one that reading gives.

* `Actions.verbatim`: one node for each operator; `parseVerbatim`: the tree of a filter as written.
* `Derives.reflect`: a phrase has a value for each way to build values that one can be mapped from.
* `Expr.folded`: a tree composed again with folding.
* `parse_eq_folded`: reading gives the tree as written, folded.
* `Expr.reduced_folded`: folding leaves nothing to fold.
-/

namespace Sift.Filter

variable {α β : Type} {A : Actions α} {B : Actions β} {f : α → β}

/-- Expressions as they are written, one node for each operator. -/
def Actions.verbatim : Actions Expr where
  literal := .lit
  member path := .ok (.member path)
  call name args := .ok (.call name args)
  connect op left right := .logical op [left, right]
  arithmetic op left right := .arith left op right
  compare op left right := .compare left op right
  negate := .not

/-- The tree of a filter as it is written. -/
def parseVerbatim (source : String) : Except Error Expr := do
  parseTokens .verbatim (← tokenize source)

/-- Values that are mapped from others: each construct on mapped values is mapped from the
construct on the values, and a member or a call is accepted only if it is for the others. -/
structure Actions.Reflects (f : α → β) (A : Actions α) (B : Actions β) : Prop where
  literal (v : Json) : f (A.literal v) = B.literal v
  member {path : String} {y : β} (h : B.member path = .ok y) : ∃ x, A.member path = .ok x ∧ f x = y
  call {name : String} {xs : List α} {y : β} (h : B.call name (xs.map f) = .ok y) :
    ∃ x, A.call name xs = .ok x ∧ f x = y
  connect (op : Connective) (x x' : α) : f (A.connect op x x') = B.connect op (f x) (f x')
  arithmetic (op : Arith) (x x' : α) : f (A.arithmetic op x x') = B.arithmetic op (f x) (f x')
  compare (op : Comparison) (x x' : α) : f (A.compare op x x') = B.compare op (f x) (f x')
  negate (x : α) : f (A.negate x) = B.negate (f x)

namespace Actions.Reflects

/-- Values are mapped through every operator, if they are through what operators build. -/
theorem apply (hf : Reflects f A B) (op : Operator) (x x' : α) :
    f (op.apply A x x') = op.apply B (f x) (f x') := by
  cases op with
  | connective op => exact hf.connect op x x'
  | arith op => exact hf.arithmetic op x x'

/-- Arguments that are mapped one by one are mapped as a list. -/
theorem arguments {P : List Token → α → Prop} (args : List (List Token × β))
    (h : ∀ a ∈ args, ∃ x, P a.1 x ∧ f x = a.2) :
    ∃ args' : List (List Token × α), args'.map Prod.fst = args.map Prod.fst ∧
      (args'.map Prod.snd).map f = args.map Prod.snd ∧ ∀ a ∈ args', P a.1 a.2 := by
  induction args with
  | nil => exact ⟨[], rfl, rfl, by simp⟩
  | cons a args ih =>
    rw [List.forall_mem_cons] at h
    obtain ⟨⟨x, hx, ha⟩, others⟩ := h
    obtain ⟨args', tokens, values, derived⟩ := ih others
    refine ⟨(a.1, x) :: args', by simp [tokens], by simp [ha, values], ?_⟩
    rw [List.forall_mem_cons]
    exact ⟨hx, derived⟩

end Actions.Reflects

/-- **A phrase with a mapped value** has a value that this one is mapped from. -/
theorem Derives.reflect (hf : A.Reflects f B) {p : Phrase} {ts : List Token} {y : β}
    (h : Derives B p ts y) : ∃ x, Derives A p ts x ∧ f x = y := by
  -- the derivation of the image is followed rule by rule, as the rules are the same for both
  induction h with
  | operand _ ih =>
    obtain ⟨x, hx, rfl⟩ := ih
    exact ⟨x, .operand hx, rfl⟩
  | joined _ hs _ ihl ihr =>
    obtain ⟨x, hx, rfl⟩ := ihl
    obtain ⟨x', hx', rfl⟩ := ihr
    exact ⟨_, .joined hx hs hx', hf.apply _ x x'⟩
  | not _ ih =>
    obtain ⟨x, hx, rfl⟩ := ih
    exact ⟨_, hx.not, hf.negate x⟩
  | comparison _ ih =>
    obtain ⟨x, hx, rfl⟩ := ih
    exact ⟨x, .comparison hx, rfl⟩
  | sum _ ih =>
    obtain ⟨x, hx, rfl⟩ := ih
    exact ⟨x, .sum hx, rfl⟩
  | compared _ hs _ ihl ihr =>
    obtain ⟨x, hx, rfl⟩ := ihl
    obtain ⟨x', hx', rfl⟩ := ihr
    exact ⟨_, .compared hx hs hx', hf.compare _ x x'⟩
  | literal l => exact ⟨_, .literal l, hf.literal _⟩
  | parentheses _ ih =>
    obtain ⟨x, hx, rfl⟩ := ih
    exact ⟨x, .parentheses hx, rfl⟩
  | @call s args y hs _ hy ih =>
    obtain ⟨args', tokens, values, derived⟩ := Actions.Reflects.arguments args ih
    rw [← values] at hy
    obtain ⟨x, hx, rfl⟩ := hf.call hy
    rw [← tokens]
    exact ⟨x, .call hs derived hx, rfl⟩
  | path hs hne hy =>
    obtain ⟨x, hx, rfl⟩ := hf.member hy
    exact ⟨x, .path hs hne hx, rfl⟩

end Sift.Filter

namespace Sift.Expr

open Sift.Filter

/-! ### Folding a tree -/

mutual

/-- A tree composed again, each node by the constructor that folds. -/
def folded : Expr → Expr
  | .lit v => .lit v
  | .member path => .member path
  | .logical op es => match foldedAll es with
    | [l, r] => .connect op l r
    | es => .logical op es
  | .compare l op r => compareFacing op l.folded r.folded
  | .arith l op r => .arithmetic l.folded op r.folded
  | .call name args => .call name (foldedAll args)
  | .not e => .negate e.folded
  | .subquery q => .subquery q
termination_by structural e => e

/-- Trees composed again. -/
def foldedAll : List Expr → List Expr
  | [] => []
  | e :: es => e.folded :: foldedAll es
termination_by structural es => es

end

/-- Several trees are folded one by one. -/
theorem foldedAll_eq_map (es : List Expr) : foldedAll es = es.map folded := by
  induction es with
  | nil => rfl
  | cons e es ih => rw [foldedAll, ih, List.map_cons]

theorem folded_call (name : String) (args : List Expr) :
    folded (.call name args) = .call name (args.map folded) := by
  rw [folded, foldedAll_eq_map]

/-! ### What folding leaves -/

/-- The constant that an expression stands for: a literal, or arithmetic on constants that has a
value. -/
def constant? : Expr → Option Json
  | .lit v => some v
  | .arith l op r => l.constant?.bind fun a => r.constant?.bind fun b => op.compute? a b
  | _ => none

/-- Nothing left to fold at an expression: a constant is a literal, and no negation is right
under another or right above a truth value. -/
structure Reduced (e : Expr) : Prop where
  constant (v : Json) (h : e.constant? = some v) : e = .lit v
  negation (d : Expr) : e ≠ .not (.not d)
  truth (b : Bool) : e ≠ .not (.lit (.bool b))

theorem reduced_lit (v : Json) : Reduced (.lit v) where
  constant w h := congrArg lit (Option.some.inj h)
  negation _ h := by cases h
  truth _ h := by cases h

/-- What is neither a constant nor a negation has nothing to fold at its top. -/
theorem reduced_of_not_constant {e : Expr} (constant : e.constant? = none)
    (negation : ∀ d, e ≠ .not d) : Reduced e where
  constant v h := by rw [constant] at h; cases h
  negation d := negation (.not d)
  truth b := negation (.lit (.bool b))

/-- Folded arithmetic has nothing left to compute at its top, if its sides have not. -/
theorem Reduced.arithmetic {l r : Expr} (hl : Reduced l) (hr : Reduced r) (op : Arith) :
    Reduced (.arithmetic l op r) := by
  obtain ⟨a, b, v, -, -, -, h⟩ | ⟨h, stuck⟩ := arithmetic_cases l op r
  · rw [h]
    exact reduced_lit v
  · rw [h]
    refine ⟨fun v hv => ?_, by simp, by simp⟩
    obtain ⟨a, ha, hv⟩ := Option.bind_eq_some_iff.1 hv
    obtain ⟨b, hb, hv⟩ := Option.bind_eq_some_iff.1 hv
    rw [stuck a b (hl.constant a ha) (hr.constant b hb)] at hv
    cases hv

/-- A connective that is composed is no negation, and a constant only where both sides are truth
values. -/
theorem reduced_connect (op : Connective) (d e : Expr) :
    Reduced (.connect op d e) ∧ ∀ c, connect op d e ≠ .not c := by
  obtain ⟨a, b, -, -, h⟩ | h := connect_cases op d e
  · rw [h]
    exact ⟨reduced_lit _, by simp⟩
  · rw [h]
    exact ⟨reduced_of_not_constant rfl (by simp), by simp⟩

/-- A comparison is turned around or stays as it is. -/
theorem compareFacing_cases (op : Comparison) (l r : Expr) :
    (∃ op', op.mirror? = some op' ∧ compareFacing op l r = .compare r op' l) ∨
    compareFacing op l r = .compare l op r := by
  unfold compareFacing
  split
  · split
    · next op' h => exact .inl ⟨op', h, rfl⟩
    · exact .inr rfl
  · exact .inr rfl

/-- A negation is undone or made on something that is none. What was under one that is undone is
no negation either. -/
theorem Reduced.negate {e : Expr} (h : Reduced e) (under : ∀ d, e = .not d → Reduced d) :
    Reduced (.negate e) ∧ ∀ d, negate e = .not d → Reduced d := by
  obtain ⟨b, -, hn⟩ | ⟨d, rfl, hn⟩ | ⟨hn, hb, hd⟩ := negate_cases e
  · rw [hn]
    exact ⟨reduced_lit _, fun d hd => by cases hd⟩
  · rw [hn]
    refine ⟨under d rfl, fun c hc => ?_⟩
    subst hc
    exact absurd rfl (h.negation c)
  · rw [hn]
    refine ⟨⟨fun v hv => ?_, fun d hc => ?_, fun b hc => ?_⟩, fun d hc => ?_⟩
    · cases hv
    · exact hd d (Expr.not.inj hc)
    · exact hb b (Expr.not.inj hc)
    · exact Expr.not.inj hc ▸ h

/-- **A folded tree** has nothing left to fold, also right under a negation. -/
theorem reduced_folded (n : Expr) :
    Reduced n.folded ∧ ∀ d, n.folded = .not d → Reduced d := by
  cases n with
  | lit v => exact ⟨reduced_lit v, fun d hd => by cases hd⟩
  | member path => exact ⟨reduced_of_not_constant rfl (by simp [folded]), fun d hd => by cases hd⟩
  | subquery q => exact ⟨reduced_of_not_constant rfl (by simp [folded]), fun d hd => by cases hd⟩
  | call name args =>
    exact ⟨reduced_of_not_constant rfl (by simp [folded]), fun d hd => by cases hd⟩
  | logical op es =>
    rw [folded]
    split
    · next l r _ =>
      obtain ⟨reduced, apart⟩ := reduced_connect op l r
      exact ⟨reduced, fun d hd => absurd hd (apart d)⟩
    · exact ⟨reduced_of_not_constant rfl (by simp), fun d hd => by cases hd⟩
  | compare l op r =>
    rw [folded]
    obtain ⟨op', -, h⟩ | h := compareFacing_cases op l.folded r.folded
    · rw [h]
      exact ⟨reduced_of_not_constant rfl (by simp), fun d hd => by cases hd⟩
    · rw [h]
      exact ⟨reduced_of_not_constant rfl (by simp), fun d hd => by cases hd⟩
  | arith l op r =>
    -- only computing with two constants gives one, and none of the results is a negation
    refine ⟨(reduced_folded l).1.arithmetic (reduced_folded r).1 op, fun d hd => ?_⟩
    obtain ⟨a, b, v, -, -, -, h⟩ | ⟨h, -⟩ := arithmetic_cases l.folded op r.folded
    · rw [folded, h] at hd; cases hd
    · rw [folded, h] at hd; cases hd
  | not e => exact (reduced_folded e).1.negate (reduced_folded e).2
termination_by sizeOf n

/-- Folding a tree with a constant value gives that constant. -/
theorem constant?_folded {n : Expr} {v : Json} (h : n.constant? = some v) : n.folded = .lit v := by
  cases n with
  | lit w => exact congrArg lit (Option.some.inj h)
  | arith l op r =>
    obtain ⟨a, ha, h⟩ := Option.bind_eq_some_iff.1 h
    obtain ⟨b, hb, h⟩ := Option.bind_eq_some_iff.1 h
    rw [folded, constant?_folded ha, constant?_folded hb, arithmetic, h]
  | _ => cases h
termination_by sizeOf n

end Sift.Expr

namespace Sift.Filter

open Sift.Expr

/-- Folding expressions are mapped from expressions as written. -/
theorem Actions.verbatim_reflects :
    Actions.Reflects folded .verbatim (.expr .identity) where
  literal _ := rfl
  member {path} _ h := ⟨.member path, rfl, Except.ok.inj h⟩
  call {name xs} _ h := ⟨.call name xs, rfl, (folded_call name xs).trans (Except.ok.inj h)⟩
  connect _ _ _ := rfl
  arithmetic _ _ _ := rfl
  compare _ _ _ := rfl
  negate _ := rfl

/-- **Reading a filter** gives the tree as written, folded. -/
theorem parse_eq_folded {source : String} {e : Expr} (h : parse source .identity = .ok e) :
    ∃ n, parseVerbatim source = .ok n ∧ n.folded = e := by
  obtain ⟨ts, hts, h⟩ := bind_eq_ok.1 h
  obtain ⟨n, hn, he⟩ := (parseTokens_eq_ok_iff.1 h).reflect Actions.verbatim_reflects
  refine ⟨n, ?_, he⟩
  rw [parseVerbatim, hts]
  exact parseTokens_eq_ok_iff.2 hn

end Sift.Filter
