import Mathlib
import Sift.Proofs.Filter.Verbatim
import Sift.Proofs.Truth

/-!
# The values of filters

What a filter says about a row. Members and calls have values in a row, truth values are one and
zero, and what is unknown is null. A filter that was read says of every row what it says as written:
turned comparisons, merged connectives and computed constants change no value, and a double negation
that is undone changes only whether the value is a truth value.

* `Value`, `Row`, `Row.value`: values, rows and the value of an expression in a row.
* `Row.Settled`: what was negated twice has a truth value in the row.
* `Row.Agrees`: the same of all that is used as a value, for which folding could matter.
* `Row.kept`: folding keeps truth values, and the values of what is settled.
* `parse_keeps_values`: the same of filters that are read.
-/

namespace Sift

/-- A value. -/
inductive Value where
  | null
  | int (n : Int)
  | float (x : Float)
  | text (s : String)

namespace Value

/-- The value of a constant. Lists and objects are none. -/
def ofJson : Json → Value
  | .bool b => .int b.toNat
  | .int n => .int n
  | .float x => .float x
  | .str s => .text s
  | _ => .null

/-- A constant with a value. -/
def toJson : Value → Json
  | .null => .null
  | .int n => .int n
  | .float x => .float x
  | .text s => .str s

/-- The value of a truth value: one, zero, or null if it is unknown. -/
def ofTruth : Truth → Value
  | some b => .int b.toNat
  | none => .null

/-- Whether a value is one of a truth value. -/
def IsTruth (v : Value) : Prop := ∃ t, v = ofTruth t

end Value

/-- A row: values of members and calls, comparison, arithmetic on what is no constant, and which
texts count as true. A comparison can be turned around. -/
structure Row where
  member : String → Value
  call : String → List Value → Value
  subquery : Query → Value
  compare : Comparison → Value → Value → Truth
  mirrored {op op' : Comparison} (h : op.mirror? = some op') (a b : Value) :
    compare op a b = compare op' b a
  arithmetic : Arith → Value → Value → Value
  textTruth : String → Truth

namespace Row

variable (row : Row)

/-- The truth of a value: numbers other than zero are true, and null is unknown. -/
def truth : Value → Truth
  | .null => none
  | .int n => some (n != 0)
  | .float x => some (x != 0.0)
  | .text s => row.textTruth s

mutual

/-- The value of an expression in a row. Arithmetic on constants that it can be computed on has
the computed value. -/
def value : Expr → Value
  | .lit v => .ofJson v
  | .member path => row.member path
  | .logical op es => .ofTruth (op.kleeneAll ((values es).map row.truth))
  | .compare l op r => .ofTruth (row.compare op (value l) (value r))
  | .arith l op r => match (Expr.arith l op r).constant? with
    | some v => .ofJson v
    | none => row.arithmetic op (value l) (value r)
  | .call name args => row.call name (values args)
  | .not e => .ofTruth (row.truth (value e)).not
  | .subquery q => row.subquery q
termination_by structural e => e

/-- The values of expressions in a row. -/
def values : List Expr → List Value
  | [] => []
  | e :: es => value e :: values es
termination_by structural es => es

end

/-- The walk over arguments takes the value of each. -/
theorem values_eq_map (es : List Expr) : row.values es = es.map row.value := by
  induction es with
  | nil => rfl
  | cons e es ih => rw [values, ih, List.map_cons]

/-- A truth value is found again in the value that it has. -/
theorem truth_ofTruth (t : Truth) : row.truth (.ofTruth t) = t := by
  rcases t with - | - | - <;> rfl

/-- A value that is a truth value is the one of its truth. -/
theorem ofTruth_truth {v : Value} (h : v.IsTruth) : .ofTruth (row.truth v) = v := by
  obtain ⟨t, rfl⟩ := h
  rw [truth_ofTruth]

/-- The truth of values is a valuation. -/
theorem valuation : Valuation fun e => row.truth (row.value e) where
  bool b := by cases b <;> rfl
  logical op es := by
    rw [value, truth_ofTruth, values_eq_map, List.map_map]
    rfl
  not e := by rw [value, truth_ofTruth]

/-! ### Expressions with truth values -/

theorem isTruth_bool (b : Bool) : (row.value (.lit (.bool b))).IsTruth := ⟨some b, rfl⟩

theorem isTruth_logical (op : Connective) (es : List Expr) :
    (row.value (.logical op es)).IsTruth := ⟨_, rfl⟩

theorem isTruth_not (e : Expr) : (row.value (.not e)).IsTruth := ⟨_, rfl⟩

/-- A connective has a truth value, folded or not. -/
theorem isTruth_connect (op : Connective) (d e : Expr) :
    (row.value (.connect op d e)).IsTruth := by
  obtain ⟨a, b, -, -, h⟩ | h := Expr.connect_cases op d e
  · rw [h]; exact row.isTruth_bool _
  · rw [h]; exact row.isTruth_logical _ _

/-- Turning a comparison around changes no value, whatever is compared. -/
theorem value_compareFacing (op : Comparison) (l r : Expr) :
    row.value (Filter.compareFacing op l r) = row.value (.compare l op r) := by
  obtain ⟨op', hop, h⟩ | h := Expr.compareFacing_cases op l r
  · rw [h, value, value, row.mirrored hop]
  · rw [h]

/-! ### What folding keeps -/

end Row

/-- An expression without the double negations around it. -/
def Expr.undoubled : Expr → Expr
  | .not (.not e) => e.undoubled
  | e => e

namespace Row

variable (row : Row)

/-- What is negated twice has a truth value in the row without the negations. -/
def Settled (n : Expr) : Prop := ∀ d, n = .not (.not d) → (row.value n.undoubled).IsTruth

/-- Where folding keeps the value of a node: what is used as a value is settled, and constants
that only folding makes are computed as the row does. -/
def Agrees : Node → Prop
  | .expr (.compare l _ r) => row.Settled l ∧ row.Settled r
  | .expr (.call _ args) => ∀ a ∈ args, row.Settled a
  | .expr (.arith l op r) => row.Settled l ∧ row.Settled r ∧
      ((Expr.arith l op r).constant? = none → ∀ a b v, l.folded = .lit a → r.folded = .lit b →
        op.compute? a b = some v → row.arithmetic op (.ofJson a) (.ofJson b) = .ofJson v)
  | _ => True

/-- A tree keeps its meaning when it is folded: its truth, and its value if it is settled. -/
structure Kept (n : Expr) : Prop where
  truth : row.truth (row.value n.folded) = row.truth (row.value n)
  value (h : row.Settled n) : row.value n.folded = row.value n

variable {row}

/-- An expression that keeps its value keeps its truth. -/
theorem kept_of_value {n : Expr} (h : row.value n.folded = row.value n) : row.Kept n :=
  ⟨congrArg row.truth h, fun _ => h⟩

/-- A comparison keeps its value if the sides do, which are used as values. -/
theorem kept_compare {l r : Expr} (op : Comparison) (hl : row.Kept l) (hr : row.Kept r)
    (sides : row.Settled l ∧ row.Settled r) : row.Kept (.compare l op r) := by
  refine kept_of_value ?_
  rw [Expr.folded, value_compareFacing, Row.value, Row.value, hl.value sides.1, hr.value sides.2]

/-- Arithmetic keeps its value if the sides do, and if what is computed early is what the row has.
-/
theorem kept_arith {l r : Expr} {op : Arith} (hl : row.Kept l) (hr : row.Kept r)
    (agrees : row.Agrees (.expr (.arith l op r))) : row.Kept (.arith l op r) := by
  obtain ⟨left, right, computed⟩ := agrees
  have hl := hl.value left
  have hr := hr.value right
  refine kept_of_value ?_
  -- constants alone are computed by both; otherwise folding may compute what the row would
  cases hc : (Expr.arith l op r).constant? with
  | some v =>
    rw [Expr.constant?_folded hc, Row.value, Row.value, hc]
  | none =>
    have written : row.value (.arith l op r) = row.arithmetic op (row.value l) (row.value r) := by
      rw [Row.value, hc]
    rw [written, Expr.folded]
    obtain ⟨a, b, v, ha, hb, hv, h⟩ | ⟨h, stuck⟩ := Expr.arithmetic_cases l.folded op r.folded
    · rw [h, ← hl, ← hr, ha, hb]
      exact (computed hc a b v ha hb hv).symm
    · -- what is not computed with its own operands folded is no constant either
      have unfolded : (Expr.arith l.folded op r.folded).constant? = none := by
        by_contra constant
        obtain ⟨v, hv⟩ := Option.ne_none_iff_exists'.1 constant
        have reduced := (Expr.reduced_folded (.arith l op r)).1
        rw [Expr.folded, h] at reduced
        cases reduced.constant v hv
      rw [h, Row.value, unfolded, hl, hr]

/-- A call keeps its value if its arguments do. -/
theorem kept_call {name : String} {args : List Expr} (h : ∀ a ∈ args, row.Kept a)
    (agrees : ∀ a ∈ args, row.Settled a) : row.Kept (.call name args) := by
  have values : (args.map Expr.folded).map row.value = args.map row.value := by
    rw [List.map_map]
    exact List.map_congr_left fun a ha => (h a ha).value (agrees a ha)
  refine kept_of_value ?_
  rw [Expr.folded_call, Row.value, Row.value, values_eq_map, values_eq_map, values]

/-- A connective that is merged has the truth of its operands together. -/
theorem value_folded_logical (op : Connective) (es : List Expr) :
    row.value (Expr.logical op es).folded =
      .ofTruth (op.kleeneAll ((es.map Expr.folded).map fun e => row.truth (row.value e))) := by
  rw [Expr.folded, ← Expr.foldedAll_eq_map]
  split
  · next l r h =>
    rw [h, ← row.ofTruth_truth (row.isTruth_connect op l r)]
    have connect := row.valuation.connect op l r
    rw [connect, List.map_cons, op.kleeneAll_cons, List.map_singleton, op.kleeneAll_singleton]
  · rw [Row.value, values_eq_map, List.map_map]
    rfl

/-- A connective keeps its value if its operands keep their truth, which is all it asks of them. -/
theorem kept_logical {op : Connective} {es : List Expr} (h : ∀ e ∈ es, row.Kept e) :
    row.Kept (.logical op es) := by
  have truths : (es.map Expr.folded).map (fun e => row.truth (row.value e)) =
      (es.map row.value).map row.truth := by
    rw [List.map_map, List.map_map]
    exact List.map_congr_left fun e he => (h e he).truth
  refine kept_of_value ?_
  rw [value_folded_logical, truths, Row.value, values_eq_map]

end Row

/-- Only a negation folds to a negation. -/
theorem Expr.folded_eq_not {n d : Expr} (h : n.folded = .not d) :
    ∃ e, n = .not e ∧ e.folded = d := by
  -- a negation is left only of a negation: no other construct folds to one
  cases n with
  | not e =>
    refine ⟨e, rfl, ?_⟩
    rw [folded] at h
    obtain ⟨b, -, hn⟩ | ⟨c, hc, hn⟩ | ⟨hn, -, -⟩ := negate_cases e.folded
    · rw [hn] at h; cases h
    · rw [hn] at h
      exact absurd (h ▸ hc) ((reduced_folded e).1.negation d)
    · rw [hn] at h
      exact Expr.not.inj h
  | logical op es =>
    -- merging two sides makes a connective or a truth value
    rw [folded] at h
    split at h
    · next l r _ => exact absurd h ((reduced_connect op l r).2 d)
    · cases h
  | compare l op r =>
    rw [folded] at h
    obtain ⟨op', -, hc⟩ | hc := compareFacing_cases op l.folded r.folded
    · rw [hc] at h; cases h
    · rw [hc] at h; cases h
  | arith l op r =>
    rw [folded] at h
    obtain ⟨a, b, v, -, -, -, ha⟩ | ⟨ha, -⟩ := arithmetic_cases l.folded op r.folded
    · rw [ha] at h; cases h
    · rw [ha] at h; cases h
  | _ => cases h

namespace Row

variable {row : Row}

/-- What is left of a double negation has a truth value, if it had one before. -/
theorem isTruth_undoubled {d : Expr} (h : row.Kept d) (settled : row.Settled (.not (.not d))) :
    (row.value d.folded).IsTruth := by
  have under : (row.value d.undoubled).IsTruth := settled d rfl
  rw [h.value fun _ _ => under]
  cases d with
  | not e => exact row.isTruth_not e
  | _ => exact under

/-- A negation keeps its truth. Undone on another one, it leaves what was negated twice, whose value
is kept only where it is settled. -/
theorem kept_not {e : Expr} (h : row.Kept e) (under : ∀ d, e = .not d → row.Kept d) :
    row.Kept (.not e) := by
  have truth : row.truth (row.value (Expr.not e).folded) = row.truth (row.value (.not e)) := by
    have negated := row.valuation.negate e.folded
    rw [Expr.folded, negated, h.truth, Row.value, truth_ofTruth]
  refine ⟨truth, fun settled => ?_⟩
  -- both values are those of truth values, and so they are equal if their truth is
  have folded : (row.value (Expr.not e).folded).IsTruth := by
    rw [Expr.folded]
    obtain ⟨b, -, hn⟩ | ⟨c, hc, hn⟩ | ⟨hn, -, -⟩ := Expr.negate_cases e.folded
    · rw [hn]; exact row.isTruth_bool _
    · rw [hn]
      obtain ⟨d, rfl, rfl⟩ := Expr.folded_eq_not hc
      exact isTruth_undoubled (under d rfl) settled
    · rw [hn]; exact row.isTruth_not _
  rw [← row.ofTruth_truth folded, truth, row.ofTruth_truth (row.isTruth_not e)]

/-- **Folding a tree keeps its meaning** in a row that agrees with it. -/
theorem kept {n : Expr} (h : Everywhere row.Agrees (.expr n)) : row.Kept n := by
  cases n with
  | lit v => exact kept_of_value rfl
  | member path => exact kept_of_value rfl
  | subquery q => exact kept_of_value rfl
  | logical op es =>
    obtain ⟨-, inside⟩ := Everywhere.logical_iff.1 h
    exact kept_logical fun e he =>
      have := List.sizeOf_lt_of_mem he
      kept (inside e he)
  | compare l op r =>
    obtain ⟨sides, left, right⟩ := Everywhere.compare_iff.1 h
    exact kept_compare op (kept left) (kept right) sides
  | arith l op r =>
    obtain ⟨agrees, left, right⟩ := Everywhere.arith_iff.1 h
    exact kept_arith (kept left) (kept right) agrees
  | call name args =>
    obtain ⟨settled, inside⟩ := Everywhere.call_iff.1 h
    exact kept_call (fun a ha =>
      have := List.sizeOf_lt_of_mem ha
      kept (inside a ha)) settled
  | not e =>
    obtain ⟨-, inside⟩ := Everywhere.not_iff.1 h
    refine kept_not (kept inside) fun d hd => ?_
    subst hd
    exact kept (Everywhere.not_iff.1 inside).2
termination_by sizeOf n

end Row

namespace Filter

/-- **A filter that was read says of every row what it says as written**: it is true of it, false or
unknown if that is. It has the same value too, unless all that is left of a double negation is no
truth value. -/
theorem parse_keeps_values {source : String} {e : Expr} (h : parse source .identity = .ok e) :
    ∃ n, parseVerbatim source = .ok n ∧ ∀ row : Row, Everywhere row.Agrees (.expr n) →
      row.truth (row.value e) = row.truth (row.value n) ∧
      (row.Settled n → row.value e = row.value n) := by
  obtain ⟨n, hn, rfl⟩ := parse_eq_folded h
  refine ⟨n, hn, fun row agrees => ?_⟩
  obtain ⟨truth, value⟩ := row.kept agrees
  exact ⟨truth, value⟩

/-! ### A row -/

/-- A comparison of integers. -/
def holds : Comparison → Int → Int → Truth
  | .eq, m, n => some (m == n)
  | .ne, m, n => some (m != n)
  | .lt, m, n => some (m < n)
  | .le, m, n => some (m ≤ n)
  | .gt, m, n => some (n < m)
  | .ge, m, n => some (n ≤ m)
  | _, _, _ => none

/-- An article on sale for five, whose arithmetic is the one of constants. -/
def article : Row where
  member path := if path = "price" then .int 5 else if path = "sale" then .int 1 else .null
  call _ _ := .null
  subquery _ := .null
  compare op a b := match a, b with
    | .int m, .int n => holds op m n
    | _, _ => none
  mirrored {op _} h a b := by
    cases op <;> cases h <;> cases a <;> cases b <;> simp [holds, eq_comm, bne_comm]
  arithmetic op a b := ((op.compute? a.toJson b.toJson).map .ofJson).getD .null
  textTruth _ := none

/-- Where what was negated twice is a truth value, its value is kept in a comparison. -/
theorem parse_keeps_values_of_article :
    ∃ e n, parse "1 eq (not not sale)" .identity = .ok e ∧
      parseVerbatim "1 eq (not not sale)" = .ok n ∧ Everywhere article.Agrees (.expr n) ∧
      article.Settled n ∧ article.value e = article.value n := by
  have read : parse "1 eq (not not sale)" .identity =
      .ok (.compare (.member "sale") .eq (.lit (.int 1))) := by cbv
  have written : parseVerbatim "1 eq (not not sale)" =
      .ok (.compare (.lit (.int 1)) .eq (.not (.not (.member "sale")))) := by cbv
  have sale : (article.value (.member "sale")).IsTruth := ⟨some true, rfl⟩
  have agrees : Everywhere article.Agrees
      (.expr (.compare (.lit (.int 1)) .eq (.not (.not (.member "sale"))))) := by
    simp [Row.Agrees, Row.Settled, Expr.undoubled, sale]
  have settled : article.Settled (.compare (.lit (.int 1)) .eq (.not (.not (.member "sale")))) :=
    fun d hd => by cases hd
  obtain ⟨n, hn, keeps⟩ := parse_keeps_values read
  cases written.symm.trans hn
  exact ⟨_, _, read, written, agrees, settled, (keeps article agrees).2 settled⟩

/-- Values that reading changes: a price is compared with one, and not its truth; a truth value
that was computed is written as a word. -/
theorem parse_changes_values :
    (∃ e n, parse "(not not price) eq 1" .identity = .ok e ∧
      parseVerbatim "(not not price) eq 1" = .ok n ∧
      article.value e = .int 0 ∧ article.value n = .int 1) ∧
    ∃ e n, parse "(true and true) add 'x'" .identity = .ok e ∧
      parseVerbatim "(true and true) add 'x'" = .ok n ∧
      article.value e = .text "truex" ∧ article.value n = .text "1x" := by
  refine ⟨⟨.compare (.member "price") .eq (.lit (.int 1)),
    .compare (.not (.not (.member "price"))) .eq (.lit (.int 1)), ?_, ?_, ?_, ?_⟩,
    .lit (.str "truex"), .arith (.logical .and [.lit (.bool true), .lit (.bool true)]) .add
      (.lit (.str "x")), ?_, ?_, ?_, ?_⟩
  · cbv
  · cbv
  · rfl
  · rfl
  · cbv
  · cbv
  · rfl
  · rfl

end Filter

end Sift
