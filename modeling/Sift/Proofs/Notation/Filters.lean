import Sift.Proofs.Filter.Completeness
import Sift.Proofs.Notation.Tree

/-!
# Trees as filters

The words of a tree are a filter, which stands for the expression of the tree.

* `Shared.filterKnown`: the words are words of filters.
* `Shared.derives`: their tokens are an operand of the grammar.
* `Shared.parse_filter`: a text of the words is read as the expression.
-/

namespace Sift.Notation

open Text Sift.Filter

namespace Tree

/-! ### Words are known -/

/-- A segment is none of the words that stand for a constant. -/
theorem Segment.wordToken {s : String} (h : Segment s) : wordToken s = .name s := by
  have other := h.2
  simp only [reservedSegments, List.mem_append, List.mem_cons, List.not_mem_nil, or_false,
    not_or] at other
  obtain ⟨-, true_, false_, null, inf, nan, nan', -, -⟩ := other
  unfold Filter.wordToken
  split
  · exact absurd rfl true_
  · exact absurd rfl false_
  · exact absurd rfl null
  · exact absurd rfl inf
  · exact absurd rfl nan
  · exact absurd rfl nan'
  · rfl

/-- A segment is none of the words that the grammar of filters reserves. -/
theorem Segment.not_keyword {s : String} (h : Segment s) : s ∉ keywords := fun hk =>
  h.2 (List.mem_append_left _ hk)

theorem known_enclosed {ws : List Word} (h : ∀ w ∈ ws, w.Known) : ∀ w ∈ enclosed ws, w.Known := by
  rw [enclosed, List.forall_mem_cons, List.forall_mem_append, List.forall_mem_singleton]
  exact ⟨by decide, h, by decide⟩

/-- Operators of filters are written as names, which are known words. -/
theorem known_joined {ws vs : List Word} {s : String} (left : ∀ w ∈ ws, w.Known)
    (hs : isName s = true) (right : ∀ w ∈ vs, w.Known) :
    ∀ w ∈ enclosed (ws ++ .name s :: vs), w.Known := by
  refine known_enclosed ?_
  rw [List.forall_mem_append, List.forall_mem_cons]
  exact ⟨left, hs, right⟩

/-- Further arguments have a comma in front of each. -/
theorem known_further {ts : List Tree} (h : ∀ t ∈ ts, ∀ w ∈ t.filterWords, w.Known) :
    ∀ w ∈ furtherFilterWords ts, w.Known := by
  induction ts with
  | nil => simp [furtherFilterWords]
  | cons t ts ih =>
    rw [List.forall_mem_cons] at h
    rw [furtherFilterWords, List.forall_mem_cons, List.forall_mem_append]
    exact ⟨by decide, h.1, ih h.2⟩

/-- **The words of a tree** are words of filters. -/
theorem Shared.filterKnown {t : Tree} (h : t.Shared) : ∀ w ∈ t.filterWords, w.Known := by
  induction h with
  | @int n h =>
    -- constants of trees are small enough to need no mark behind them
    have fits : fitsInt n = true := by
      unfold fitsInt
      rw [Bool.and_eq_true, decide_eq_true_eq, decide_eq_true_eq]
      omega
    exact List.forall_mem_singleton.2 fits
  | str s => exact List.forall_mem_singleton.2 trivial
  | bool b => cases b <;> exact List.forall_mem_singleton.2 (by decide)
  | null => exact List.forall_mem_singleton.2 (by decide)
  | member h =>
    rw [List.forall_mem_cons] at h
    rw [filterWords, List.forall_mem_cons]
    refine ⟨h.1.1, fun w hw => ?_⟩
    obtain ⟨s, hs, hw⟩ := List.mem_flatMap.1 hw
    rw [List.mem_cons, List.mem_singleton] at hw
    rcases hw with rfl | rfl
    · decide
    · exact (h.2 s hs).1
  | arith op left right ihl ihr => exact known_joined ihl (by cases op <;> decide) ihr
  | compare op left right h ihl ihr => exact known_joined ihl (by cases op <;> decide) ihr
  | connect op left right ihl ihr => exact known_joined ihl (by cases op <;> decide) ihr
  | not operand ih => exact known_enclosed (List.forall_mem_cons.2 ⟨by decide, ih⟩)
  | call method receiver args h iht iha =>
    have name : isName method.function = true := by cases method <;> decide
    rw [filterWords, List.forall_mem_cons]
    exact ⟨name, known_enclosed (List.forall_mem_append.2 ⟨iht, known_further iha⟩)⟩

/-! ### Words are phrases -/

/-- The actions that build expressions, with members and methods as they are. -/
abbrev plain : Actions Expr := .expr .identity

section

variable {ts us : List Token} {e d : Expr}

/-- An operand is a phrase of every kind, up to a sum. -/
theorem derives_sum (h : Derives plain .primary ts e) : Derives plain (.run .sum) ts e :=
  .operand (.operand h)

/-- A comparison is an expression of every looser rank, with nothing joined to it. -/
theorem derives_comparison (h : Derives plain .comparison ts e) :
    Derives plain (.run .disjunction) ts e :=
  .operand (.operand (.comparison h))

/-- So is an operand alone. -/
theorem derives_primary (h : Derives plain .primary ts e) :
    Derives plain (.run .disjunction) ts e :=
  derives_comparison (.sum (derives_sum h))

/-- An operation of two operands is a sum or a product, by the rank of its operator; in both cases
it is a whole expression. -/
theorem derives_arith (op : Arith) (left : Derives plain .primary ts d)
    (right : Derives plain .primary us e) :
    Derives plain (.run .disjunction) (ts ++ .name op.name :: us) (Expr.arithmetic d op e) := by
  -- by its level, the operator joins two operands to a product or to a sum
  have product (hs : (op.name, .arith op) ∈ Level.product.operators) :
      Derives plain (.run .product) (ts ++ .name op.name :: us)
        ((Filter.Operator.arith op).apply plain d e) := .joined (.operand left) hs right
  have sum (hs : (op.name, .arith op) ∈ Level.sum.operators) :
      Derives plain (.run .sum) (ts ++ .name op.name :: us)
        ((Filter.Operator.arith op).apply plain d e) :=
    .joined (derives_sum left) hs (.operand right)
  have whole : Derives plain (.run .sum) (ts ++ .name op.name :: us) (Expr.arithmetic d op e) := by
    cases op with
    | add => exact sum (by decide)
    | sub => exact sum (by decide)
    | mul => exact .operand (product (by decide))
    | div => exact .operand (product (by decide))
    | mod => exact .operand (product (by decide))
  exact derives_comparison (.sum whole)

/-- Two operands joined by a connective are a disjunction; under `and` it has one operand, their
conjunction. -/
theorem derives_connect (op : Connective) (left : Derives plain .primary ts d)
    (right : Derives plain .primary us e) :
    Derives plain (.run .disjunction) (ts ++ .name (connectiveWord op) :: us)
      (Expr.connect op d e) := by
  have negation {vs : List Token} {x : Expr} (h : Derives plain .primary vs x) :
      Derives plain .negation vs x := .comparison (.sum (derives_sum h))
  cases op with
  | and =>
    have hs : ("and", .connective .and) ∈ Level.conjunction.operators := by decide
    exact .operand (.joined (.operand (negation left)) hs (negation right))
  | or =>
    have hs : ("or", .connective .or) ∈ Level.disjunction.operators := by decide
    exact .joined (.operand (.operand (negation left))) hs (.operand (negation right))

/-- A comparison is not turned around where its left side is no constant. -/
theorem derives_compare (op : Relation) (left : Derives plain .primary ts d)
    (right : Derives plain .primary us e) (notLit : ∀ v, d ≠ .lit v) :
    Derives plain (.run .disjunction) (ts ++ .name op.keyword :: us)
      (.compare d op.comparison e) := by
  -- the sides would be exchanged only for a constant on the left
  have open_ : d.isLiteral = false := by
    cases d with
    | lit v => exact absurd rfl (notLit v)
    | _ => rfl
  have facing : compareFacing op.comparison d e = .compare d op.comparison e := by
    rw [compareFacing, open_]
    rfl
  have hs : (op.keyword, op.comparison) ∈ comparisonOperators := by cases op <;> decide
  have compared := Derives.compared (derives_sum left) hs (derives_sum right)
  change Derives plain .comparison _ (compareFacing op.comparison d e) at compared
  rw [facing] at compared
  exact derives_comparison compared

end

/-- The tokens of words. -/
def filterTokens (ws : List Word) : List Token := ws.map Word.token

@[simp] theorem filterTokens_nil : filterTokens [] = [] := rfl

@[simp] theorem filterTokens_cons (w : Word) (ws : List Word) :
    filterTokens (w :: ws) = w.token :: filterTokens ws := rfl

@[simp] theorem filterTokens_append (ws vs : List Word) :
    filterTokens (ws ++ vs) = filterTokens ws ++ filterTokens vs := List.map_append

/-- The words of a member are its segments with slashes between them. -/
theorem path_tokens {first : String} {others : List String}
    (h : ∀ s ∈ first :: others, Segment s) :
    filterTokens (filterWords (.member first others)) =
      ((first :: others).map Token.name).intersperse (.sign .slash) := by
  induction others generalizing first with
  | nil => simp [filterWords, Word.token, (h first List.mem_cons_self).wordToken]
  | cons s others ih =>
    rw [List.forall_mem_cons] at h
    have rest := ih h.2
    rw [filterWords] at rest ⊢
    rw [List.map_cons, List.map_cons, List.intersperse_cons_cons, ← List.map_cons, ← rest]
    simp [Word.token, h.1.wordToken]

/-- Arguments are written with commas between them. -/
theorem arguments_tokens (t : Tree) (ts : List Tree) :
    filterTokens (t.filterWords ++ furtherFilterWords ts) =
      [Token.sign .comma].intercalate ((t :: ts).map fun u => filterTokens u.filterWords) := by
  induction ts generalizing t with
  | nil => simp [furtherFilterWords, List.intercalate]
  | cons u ts ih =>
    have rest := ih u
    rw [List.map_cons] at rest
    rw [List.map_cons, List.map_cons, List.intercalate_cons_cons, ← rest]
    simp [furtherFilterWords, Word.token]

theorem exprs_eq_map (ts : List Tree) : exprs ts = ts.map expr := by
  induction ts with
  | nil => rfl
  | cons t ts ih => rw [exprs, ih, List.map_cons]

/-- In parentheses, any expression is an operand. -/
theorem derives_enclosed {ws : List Word} {e : Expr}
    (h : Derives plain (.run .disjunction) (filterTokens ws) e) :
    Derives plain .primary (filterTokens (enclosed ws)) e := by
  have whole := Derives.parentheses h
  simpa [enclosed, Word.token] using whole

/-- **The words of a tree** are an operand, with the expression of the tree. -/
theorem Shared.derives {t : Tree} (h : t.Shared) :
    Derives plain .primary (filterTokens t.filterWords) t.expr := by
  induction h with
  | @int n h => exact .literal (.int n)
  | str s => exact .literal (.string s)
  | bool b => cases b <;> exact .literal (.boolean _)
  | null => exact .literal .null
  | @member first others h =>
    have segment := h first List.mem_cons_self
    -- the name of the row is none of the segments, so no segment is left out
    have it : first ≠ "$it" := by
      rintro rfl
      exact segment.2 (by decide)
    have names : pathNames first others = first :: others := if_neg it
    rw [path_tokens h]
    refine .path segment.not_keyword ?_ ?_
    · rw [names]
      exact List.cons_ne_nil _ _
    · rw [names]
      rfl
  | @arith l r op left right ihl ihr =>
    have word : (Word.name op.name).token = .name op.name := by cases op <;> rfl
    have whole := derives_arith op ihl ihr
    refine derives_enclosed ?_
    rwa [filterTokens_append, filterTokens_cons, word]
  | @compare l r op left right h ihl ihr =>
    have word : (Word.name op.keyword).token = .name op.keyword := by cases op <;> rfl
    -- a left side without constants stays on the left
    have whole := derives_compare op ihl ihr (left.expr_ne_lit h)
    refine derives_enclosed ?_
    rwa [filterTokens_append, filterTokens_cons, word]
  | @connect l r op left right ihl ihr =>
    have word : (Word.name (connectiveWord op)).token = .name (connectiveWord op) := by
      cases op <;> rfl
    have whole := derives_connect op ihl ihr
    refine derives_enclosed ?_
    rwa [filterTokens_append, filterTokens_cons, word]
  | not operand ih =>
    have negation := Derives.not (.comparison (.sum (derives_sum ih)))
    exact derives_enclosed (.operand (.operand negation))
  | @call t ts method receiver args h iht iha =>
    have word : wordToken method.function = .name method.function := by cases method <;> rfl
    have free : method.function ∉ keywords := by cases method <;> decide
    have items : ∀ a ∈ (t :: ts).map fun u => (filterTokens u.filterWords, u.expr),
        Derives plain (.run .disjunction) a.1 a.2 := by
      rw [List.forall_mem_map, List.forall_mem_cons]
      exact ⟨derives_primary iht, fun u hu => derives_primary (iha u hu)⟩
    have value : plain.call method.function
        (((t :: ts).map fun u => (filterTokens u.filterWords, u.expr)).map Prod.snd) =
          .ok (Tree.call method t ts).expr := by
      rw [List.map_map, List.map_cons, expr, exprs_eq_map]
      rfl
    have whole := Derives.call free items value
    rw [List.map_map] at whole
    change Derives plain .primary (.name method.function :: .sign .open_ ::
      ([Token.sign .comma].intercalate ((t :: ts).map fun u => filterTokens u.filterWords) ++
        [.sign .close])) _ at whole
    rw [← arguments_tokens] at whole
    simpa [filterWords, enclosed, Word.token, word] using whole

/-- **A text of the words of a tree** is a filter for the expression of the tree. -/
theorem Shared.parse_filter {t : Tree} (h : t.Shared) {source : String}
    (spelled : Filter.vocabulary.spells t.filterWords source.toList = true) :
    Filter.parse source .identity = .ok t.expr := by
  have whole := derives_primary h.derives
  rw [Filter.parse, tokenize_eq h.filterKnown spelled, ok_bind]
  exact parseTokens_eq_ok_iff.2 whole

end Tree

end Sift.Notation
