import Sift.Lambda.Translate
import Sift.Proofs.Filter.Scanning
import Sift.Proofs.Folding
import Sift.Proofs.Lambda.Printing

/-!
# What filters and closures have in common

Trees that can be written in both notations: as the text of a filter, and as the body of a closure.
Every operator stands in parentheses, with its operands, so that precedence has no part in it.

* `Relation`, `Method`: comparisons and calls, with their names in both notations.
* `Tree`: constants, members, operators and calls; `Tree.Shared`: those that both notations have.
* `Tree.expr`: the expression that a tree stands for.
* `Tree.filterWords`, `Tree.closureWords`: how a tree is written.
* `Shared.expr_ne_lit`: where a member is mentioned, folding leaves no constant.
-/

namespace Sift.Notation

open Text

/-- Comparisons, as closures write them: equality has two signs. -/
inductive Relation where
  | eq
  | looseEq
  | ne
  | looseNe
  | lt
  | le
  | gt
  | ge
  deriving DecidableEq, Repr

namespace Relation

/-- The comparison that is meant. -/
def comparison : Relation → Comparison
  | eq | looseEq => .eq
  | ne | looseNe => .ne
  | lt => .lt
  | le => .le
  | gt => .gt
  | ge => .ge

/-- The word of a comparison in filters. -/
def keyword : Relation → String
  | eq | looseEq => "eq"
  | ne | looseNe => "ne"
  | lt => "lt"
  | le => "le"
  | gt => "gt"
  | ge => "ge"

/-- The operator of a comparison in closures. -/
def operator : Relation → Lambda.Operator
  | eq => .strictEq
  | looseEq => .eq
  | ne => .strictNe
  | looseNe => .ne
  | lt => .lt
  | le => .le
  | gt => .gt
  | ge => .ge

end Relation

/-- Methods of closures that are functions of filters. -/
inductive Method where
  | startsWith
  | endsWith
  | includes
  | indexOf
  | toLowerCase
  | toLocaleLowerCase
  | toUpperCase
  | toLocaleUpperCase
  | trim
  | concat
  | getDate
  | getMonth
  | getFullYear
  | getHours
  | getMinutes
  | getSeconds
  deriving DecidableEq, Repr

namespace Method

/-- The name of the function in filters. -/
def function : Method → String
  | startsWith => "startswith"
  | endsWith => "endswith"
  | includes => "contains"
  | indexOf => "indexof"
  | toLowerCase | toLocaleLowerCase => "tolower"
  | toUpperCase | toLocaleUpperCase => "toupper"
  | trim => "trim"
  | concat => "concat"
  | getDate => "day"
  | getMonth => "month"
  | getFullYear => "year"
  | getHours => "hour"
  | getMinutes => "minute"
  | getSeconds => "second"

/-- The name of the method in closures. -/
def name : Method → String
  | startsWith => "startsWith"
  | endsWith => "endsWith"
  | includes => "includes"
  | indexOf => "indexOf"
  | toLowerCase => "toLowerCase"
  | toLocaleLowerCase => "toLocaleLowerCase"
  | toUpperCase => "toUpperCase"
  | toLocaleUpperCase => "toLocaleUpperCase"
  | trim => "trim"
  | concat => "concat"
  | getDate => "getDate"
  | getMonth => "getMonth"
  | getFullYear => "getFullYear"
  | getHours => "getHours"
  | getMinutes => "getMinutes"
  | getSeconds => "getSeconds"

end Method

/-- A tree: constants, members, and what is made of them. A member has a path of at least one
segment, and a call at least one argument. -/
inductive Tree where
  | int (n : Int)
  | str (s : String)
  | bool (b : Bool)
  | null
  | member (first : String) (others : List String)
  | arith (op : Arith) (left right : Tree)
  | compare (op : Relation) (left right : Tree)
  | connect (op : Connective) (left right : Tree)
  | not (operand : Tree)
  | call (method : Method) (receiver : Tree) (args : List Tree)

namespace Tree

mutual

/-- Whether a tree mentions a member anywhere. -/
def mentions : Tree → Bool
  | member _ _ => true
  | arith _ left right => left.mentions || right.mentions
  | compare _ left right => left.mentions || right.mentions
  | connect _ left right => left.mentions || right.mentions
  | not operand => operand.mentions
  | call _ receiver args => receiver.mentions || anyMentions args
  | _ => false

/-- Whether any of some trees mentions a member. -/
def anyMentions : List Tree → Bool
  | [] => false
  | t :: ts => t.mentions || anyMentions ts

end

/-- Words with a meaning of their own in filters, and properties with one in closures. -/
def reservedSegments : List String :=
  Filter.keywords ++ ["true", "false", "null", "INF", "NaN", "Nan", "length", "$it"]

/-- A segment of a path that is no more than a name in both notations. -/
def Segment (s : String) : Prop := isName s = true ∧ s ∉ reservedSegments

instance (s : String) : Decidable (Segment s) := inferInstanceAs (Decidable (_ ∧ _))

/-- Trees that both notations have: with small integers, and with a member on the left of each
comparison and in the first argument of each call. -/
inductive Shared : Tree → Prop where
  | int {n : Int} (h : n.natAbs < 2 ^ 31) : Shared (int n)
  | str (s : String) : Shared (str s)
  | bool (b : Bool) : Shared (bool b)
  | null : Shared null
  | member {first : String} {others : List String} (h : ∀ s ∈ first :: others, Segment s) :
      Shared (member first others)
  | arith {l r : Tree} (op : Arith) (left : Shared l) (right : Shared r) : Shared (arith op l r)
  | compare {l r : Tree} (op : Relation) (left : Shared l) (right : Shared r)
      (h : l.mentions = true) : Shared (compare op l r)
  | connect {l r : Tree} (op : Connective) (left : Shared l) (right : Shared r) :
      Shared (connect op l r)
  | not {t : Tree} (operand : Shared t) : Shared (not t)
  | call {t : Tree} {ts : List Tree} (method : Method) (receiver : Shared t)
      (args : ∀ a ∈ ts, Shared a) (h : t.mentions = true) : Shared (call method t ts)

/-! ### What trees stand for -/

mutual

/-- The expression of a tree, folded. -/
def expr : Tree → Expr
  | int n => .lit (.int n)
  | str s => .lit (.str s)
  | bool b => .lit (.bool b)
  | null => .lit .null
  | member first others => .member (joinWith "." (first :: others))
  | arith op left right => Expr.arithmetic left.expr op right.expr
  | compare op left right => .compare left.expr op.comparison right.expr
  | connect op left right => Expr.connect op left.expr right.expr
  | not operand => operand.expr.negate
  | call method receiver args => .call method.function (receiver.expr :: exprs args)

/-- The expressions of trees. -/
def exprs : List Tree → List Expr
  | [] => []
  | t :: ts => t.expr :: exprs ts

end

/-! ### Members and constants -/

/-- A node that is no member. -/
def Memberless (n : Node) : Prop := ∀ path, n ≠ .expr (.member path)

/-- No tree of a list mentions a member if none does by itself. -/
theorem anyMentions_eq_false {ts : List Tree} (h : ∀ t ∈ ts, t.mentions = false) :
    anyMentions ts = false := by
  induction ts with
  | nil => rfl
  | cons t ts ih =>
    rw [List.forall_mem_cons] at h
    rw [anyMentions, h.1, ih h.2, Bool.or_false]

theorem mem_exprs {t : Tree} {ts : List Tree} (h : t ∈ ts) : t.expr ∈ exprs ts := by
  induction ts with
  | nil => cases h
  | cons u ts ih =>
    rw [exprs]
    cases h with
    | head => exact List.mem_cons_self
    | tail _ h => exact List.mem_cons_of_mem _ (ih h)

/-- Folding loses no member: an expression without members is that of a tree without. -/
theorem Shared.mentions_eq_false {t : Tree} (h : t.Shared)
    (memberless : Everywhere Memberless (.expr t.expr)) : t.mentions = false := by
  -- that a side is no constant would not pass through a negation, which may undo another one
  have lit (v : Json) : Memberless (.expr (.lit v)) := by
    intro path same
    cases same
  have both {l r : Tree} (ihl : Everywhere Memberless (.expr l.expr) → l.mentions = false)
      (ihr : Everywhere Memberless (.expr r.expr) → r.mentions = false)
      (sides : Everywhere Memberless (.expr l.expr) ∧ Everywhere Memberless (.expr r.expr)) :
      (l.mentions || r.mentions) = false := by
    rw [ihl sides.1, ihr sides.2, Bool.or_false]
  induction h with
  | int h => rfl
  | str s => rfl
  | bool b => rfl
  | null => rfl
  | member h => exact absurd rfl (memberless.here _)
  | @arith l r op left right ihl ihr =>
    have node : Memberless (.expr (.arith l.expr op r.expr)) := by
      intro path same
      cases same
    exact both ihl ihr ((Everywhere.arithmetic_iff lit node).1 memberless)
  | compare op left right h ihl ihr => exact both ihl ihr (Everywhere.compare_iff.1 memberless).2
  | @connect l r op left right ihl ihr =>
    have node (es : List Expr) : Memberless (.expr (.logical op es)) := by
      intro path same
      cases same
    exact both ihl ihr ((Everywhere.connect_iff (fun b => lit (.bool b)) node).1 memberless)
  | not operand ih =>
    have node (e : Expr) : Memberless (.expr (.not e)) := by
      intro path same
      cases same
    exact ih ((Everywhere.negate_iff (fun b => lit (.bool b)) node).1 memberless)
  | @call t ts method receiver args h iht iha =>
    obtain ⟨first, others⟩ := List.forall_mem_cons.1 (Everywhere.call_iff.1 memberless).2
    have further : anyMentions ts = false :=
      anyMentions_eq_false fun a ha => iha a ha (others _ (mem_exprs ha))
    rw [mentions, iht first, further, Bool.or_false]

/-- **A tree that mentions a member** is no constant, however it is folded. -/
theorem Shared.expr_ne_lit {t : Tree} (h : t.Shared) (mentions : t.mentions = true) (v : Json) :
    t.expr ≠ .lit v := by
  intro same
  have memberless : Everywhere Memberless (.expr t.expr) := by
    rw [same, Everywhere.lit_iff]
    intro path member
    cases member
  rw [h.mentions_eq_false memberless] at mentions
  cases mentions

/-! ### Filters -/

/-- Words of filters in parentheses. -/
def enclosed (ws : List Filter.Word) : List Filter.Word := .sign .open_ :: (ws ++ [.sign .close])

/-- The word of a connective in filters. -/
def connectiveWord : Connective → String
  | .and => "and"
  | .or => "or"

mutual

/-- The words of a tree in a filter. -/
def filterWords : Tree → List Filter.Word
  | int n => [.int n]
  | str s => [.text s]
  | bool true => [.name "true"]
  | bool false => [.name "false"]
  | null => [.name "null"]
  | member first others => .name first :: others.flatMap fun s => [.sign .slash, .name s]
  | arith op left right => enclosed (left.filterWords ++ .name op.name :: right.filterWords)
  | compare op left right => enclosed (left.filterWords ++ .name op.keyword :: right.filterWords)
  | connect op left right =>
    enclosed (left.filterWords ++ .name (connectiveWord op) :: right.filterWords)
  | not operand => enclosed (.name "not" :: operand.filterWords)
  | call method receiver args =>
    .name method.function :: enclosed (receiver.filterWords ++ furtherFilterWords args)

/-- The words of further arguments in a filter. -/
def furtherFilterWords : List Tree → List Filter.Word
  | [] => []
  | t :: ts => .sign .comma :: (t.filterWords ++ furtherFilterWords ts)

end

/-! ### Closures -/

/-- The operator of arithmetic in closures. -/
def arithOperator : Arith → Lambda.Operator
  | .add => .add
  | .sub => .sub
  | .mul => .mul
  | .div => .div
  | .mod => .mod

/-- The operator of a connective in closures. -/
def connectiveOperator : Connective → Lambda.Operator
  | .and => .and
  | .or => .or

mutual

/-- The words of a tree in the body of a closure, whose parameter is `x`. Integers have no sign
of their own there: a negative one is the negation of a positive one. -/
def closureWords : Tree → List Lambda.Word
  | int n =>
    if n < 0 then Lambda.enclosed [.punct "-", .number n.natAbs] else [.number n.natAbs]
  | str s => [.text s]
  | bool true => [.name "true"]
  | bool false => [.name "false"]
  | null => [.name "null"]
  | member first others => .name "x" :: (first :: others).flatMap fun s => [.punct ".", .name s]
  | arith op left right =>
    Lambda.enclosed (left.closureWords ++ .punct (arithOperator op).symbol :: right.closureWords)
  | compare op left right =>
    Lambda.enclosed (left.closureWords ++ .punct op.operator.symbol :: right.closureWords)
  | connect op left right =>
    Lambda.enclosed
      (left.closureWords ++ .punct (connectiveOperator op).symbol :: right.closureWords)
  | not operand => Lambda.enclosed (.punct "!" :: operand.closureWords)
  | call method receiver args =>
    receiver.closureWords ++ [.punct ".", .name method.name] ++ Lambda.enclosed (argumentWords args)

/-- The words of arguments in a closure. -/
def argumentWords : List Tree → List Lambda.Word
  | [] => []
  | [t] => t.closureWords
  | t :: u :: ts => t.closureWords ++ .punct "," :: argumentWords (u :: ts)

end

mutual

/-- The term of a tree in the body of a closure. -/
def term : Tree → Lambda.Term
  | int n => if n < 0 then .unary .minus (.lit (.int n.natAbs)) else .lit (.int n.natAbs)
  | str s => .lit (.str s)
  | bool b => .lit (.bool b)
  | null => .lit .null
  | member first others => (first :: others).foldl .member (.name "x")
  | arith op left right => .binary (arithOperator op) left.term right.term
  | compare op left right => .binary op.operator left.term right.term
  | connect op left right => .binary (connectiveOperator op) left.term right.term
  | not operand => .unary .not operand.term
  | call method receiver args => .call (.member receiver.term method.name) (terms args)

/-- The terms of trees. -/
def terms : List Tree → List Lambda.Term
  | [] => []
  | t :: ts => t.term :: terms ts

end

end Tree

end Sift.Notation
