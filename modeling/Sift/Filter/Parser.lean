import Sift.Expr.Fold
import Sift.Filter.Lexer
import Sift.Resolver

/-!
# From tokens to expressions

The grammar of filters, by precedence from the lowest: `or`, `and`, `not`, comparisons (which do not
chain), `add` and `sub`, `mul`, `div` and `mod`, and operands: literals, member paths, calls and
parentheses. Binary operators associate to the left.

What each construct builds is given by a record of actions, so the same grammar can build
expressions or anything else.

* `Actions`: what the constructs build; `Actions.expr` builds expressions.
* `readExpr`: an expression at the front of a list of tokens.
* `parse`: the expression of a filter text.
-/

namespace Sift.Filter

open Text

/-- What the constructs of filters build. Members and calls can be refused. -/
structure Actions (α : Type) where
  literal : Json → α
  member : String → Except Error α
  call : String → List α → Except Error α
  connect : Connective → α → α → α
  arithmetic : Arith → α → α → α
  compare : Comparison → α → α → α
  negate : α → α

/-- A comparison with the constant on the right, where only the left side is one and the
operator can be turned around. -/
def compareFacing (op : Comparison) (left right : Expr) : Expr :=
  if left.isLiteral && !right.isLiteral then
    match op.mirror? with
    | some mirrored => .compare right mirrored left
    | none => .compare left op right
  else .compare left op right

/-- Expressions, folded as they are built, with members and methods from a resolver. -/
def Actions.expr (resolver : Resolver) : Actions Expr where
  literal := .lit
  member := resolver.member
  call := resolver.call
  connect := Expr.connect
  arithmetic op left right := Expr.arithmetic left op right
  compare := compareFacing
  negate := Expr.negate

/-- The operator keywords, which are no operands. -/
def keywords : List String :=
  ["and", "or", "not", "eq", "ne", "lt", "le", "gt", "ge", "add", "sub", "mul", "div", "mod"]

/-- The comparison of a token. -/
def comparison? : Token → Option Comparison
  | .name "eq" => some .eq
  | .name "ne" => some .ne
  | .name "lt" => some .lt
  | .name "le" => some .le
  | .name "gt" => some .gt
  | .name "ge" => some .ge
  | _ => none

/-- The levels of binary operators that associate to the left. -/
inductive Level where
  | disjunction
  | conjunction
  | sum
  | product
  deriving DecidableEq, Repr

/-- A binary operator. -/
inductive Operator where
  | connective (op : Connective)
  | arith (op : Arith)
  deriving DecidableEq, Repr

/-- The operator of a token at a level. -/
def Level.operator? : Level → Token → Option Operator
  | .disjunction, .name "or" => some (.connective .or)
  | .conjunction, .name "and" => some (.connective .and)
  | .sum, .name "add" => some (.arith .add)
  | .sum, .name "sub" => some (.arith .sub)
  | .product, .name "mul" => some (.arith .mul)
  | .product, .name "div" => some (.arith .div)
  | .product, .name "mod" => some (.arith .mod)
  | _, _ => none

/-- The place of a level among the steps of reading: each step calls only lower ones before it
takes a token. -/
def Level.rank : Level → Nat
  | .disjunction => 10
  | .conjunction => 8
  | .sum => 4
  | .product => 2

/-- What is read inside of a level comes before it in the order by which reading ends. -/
theorem Level.pred_rank_lt (level : Level) : level.rank - 1 < level.rank := by
  cases level <;> decide

section

variable {α : Type} (actions : Actions α)

/-- What an operator builds. -/
def Operator.apply : Operator → α → α → α
  | .connective op => actions.connect op
  | .arith op => actions.arithmetic op

/-- The segments of a path, with those already read. A segment cannot be called. -/
def readPath (done : List String) (ts : List Token) : Except Error (Read (List String) ts) :=
  match ts with
  | .name s :: .sign .open_ :: _ =>
    .error (.parse (.callOnPath (joinWith "/" (done ++ [s]))))
  | .name s :: .sign .slash :: rest => do
    return ((← readPath (done ++ [s]) rest).past (.sign .slash)).past (.name s)
  | .name s :: rest => .ok (.one (done ++ [s]) (.name s) rest)
  | t :: _ => .error (.parse (.expectedMember (some t.text)))
  | [] => .error (.parse (.expectedMember none))

/-- The member of a path; the range variable in front stands for nothing. -/
def memberOf (segments : List String) : Except Error α :=
  let segments := match segments with
    | "$it" :: rest => rest
    | segments => segments
  if segments.isEmpty then .error (.parse .emptyPath) else actions.member (joinWith "." segments)

/-- The rest after a closing parenthesis. -/
def readClose (ts : List Token) : Except Error (Read Unit ts) :=
  match ts with
  | .sign .close :: rest => .ok (.one () (.sign .close) rest)
  | t :: _ => .error (.parse (.expected ")" t.text))
  | [] => .error (.parse .openParenthesis)

mutual

/-- A run of operands joined by the operators of a level. -/
def readBinary (level : Level) (ts : List Token) : Except Error (Read α ts) := do
  let left ← readOperand level ts
  readChain level left
termination_by (ts.length, level.rank)
decreasing_by
  · exact Prod.Lex.right _ level.pred_rank_lt
  · exact Prod.Lex.left _ _ left.shorter

/-- One operand of a level. -/
def readOperand (level : Level) (ts : List Token) : Except Error (Read α ts) :=
  match level with
  | .disjunction => readBinary .conjunction ts
  | .conjunction => readNegation ts
  | .sum => readBinary .product ts
  | .product => readPrimary ts
termination_by (ts.length, level.rank - 1)
decreasing_by all_goals exact Prod.Lex.right _ (by decide)

/-- Further operators and operands of a level after a left side. -/
def readChain (level : Level) {ts : List Token} (left : Read α ts) : Except Error (Read α ts) :=
  match h : left.rest with
  | t :: rest =>
    match level.operator? t with
    | some op => do
      let right ← readOperand level rest
      readChain level (left.thenPast h right (op.apply actions left.value right.value))
    | none => .ok left
  | [] => .ok left
termination_by (left.rest.length, level.rank)
decreasing_by
  · exact Prod.Lex.left _ _ (length_lt_of_eq_cons h)
  · exact Prod.Lex.left _ _ (left.length_thenPast_lt h right _)

/-- A negation or a comparison. -/
def readNegation (ts : List Token) : Except Error (Read α ts) :=
  match ts with
  | .name "not" :: rest => do
    return ((← readNegation rest).map actions.negate).past (.name "not")
  | ts => readComparison ts
termination_by (ts.length, 6)

/-- A comparison, or its left side alone. Comparisons do not chain. -/
def readComparison (ts : List Token) : Except Error (Read α ts) := do
  let left ← readBinary .sum ts
  match h : left.rest with
  | t :: rest =>
    match comparison? t with
    | some op => do
      let right ← readBinary .sum rest
      if (right.rest.head?.bind comparison?).isSome then .error (.parse .chainedComparison)
      else .ok (left.thenPast h right (actions.compare op left.value right.value))
    | none => .ok left
  | [] => .ok left
termination_by (ts.length, 5)
decreasing_by
  · exact Prod.Lex.right _ (by decide)
  · exact Prod.Lex.left _ _ (left.length_lt h)

/-- An operand: a literal, an expression in parentheses, a call, or a member path. -/
def readPrimary (ts : List Token) : Except Error (Read α ts) :=
  match ts with
  | [] => .error (.parse .unexpectedEnd)
  | .literal l :: rest => .ok (.one (actions.literal l.toJson) (.literal l) rest)
  | .sign .open_ :: rest => do
    let inner ← readBinary .disjunction rest
    let close ← readClose inner.rest
    return (inner.thenRead close inner.value).past (.sign .open_)
  | .sign .minus :: _ => .error (.parse .negativeSign)
  | .sign s :: _ => .error (.parse (.unexpected s.char.toString))
  | .name s :: rest =>
    if keywords.contains s then .error (.parse (.keywordAsOperand s))
    else match rest with
      | .sign .open_ :: rest => do
        let args ← readArguments s rest
        let e ← actions.call s args.value
        return ((args.map fun _ => e).past (.sign .open_)).past (.name s)
      | rest => do
        let path ← readPath [] (.name s :: rest)
        let e ← memberOf actions path.value
        return path.map fun _ => e
termination_by (ts.length, 0)

/-- The arguments of a call, to the closing parenthesis. -/
def readArguments (callee : String) (ts : List Token) : Except Error (Read (List α) ts) :=
  match ts with
  | .sign .close :: rest => .ok (.one [] (.sign .close) rest)
  | ts => readItems callee ts
termination_by (ts.length, 12)

/-- Arguments, at least one, to the closing parenthesis. None may be missing after a comma. -/
def readItems (callee : String) (ts : List Token) : Except Error (Read (List α) ts) :=
  if ts.isEmpty then .error (.parse .openParenthesis)
  else do
    let item ← readBinary .disjunction ts
    match h : item.rest with
    | .sign .comma :: .sign .close :: _ => .error (.parse (.missingArgument callee))
    | .sign .comma :: rest => do
      let items ← readItems callee rest
      return item.thenPast h items (item.value :: items.value)
    | _ => do
      let close ← readClose item.rest
      return item.thenRead close [item.value]
termination_by (ts.length, 11)
decreasing_by
  · exact Prod.Lex.right _ (by decide)
  · exact Prod.Lex.left _ _ (item.length_lt h)

end

/-- An expression at the front of a list of tokens. -/
def readExpr (ts : List Token) : Except Error (Read α ts) := readBinary actions .disjunction ts

end

/-- The end of the tokens. A name there was meant as an operator. -/
def expectEnd : List Token → Except Error Unit
  | [] => .ok ()
  | .name s :: _ => .error (.parse (.unknownOperator s))
  | t :: _ => .error (.parse (.unexpectedToken t.text))

/-- What a whole list of tokens builds. -/
def parseTokens {α : Type} (actions : Actions α) (ts : List Token) : Except Error α := do
  let e ← readExpr actions ts
  expectEnd e.rest
  return e.value

/-- The expression of a filter text. -/
def parse (source : String) (resolver : Resolver) : Except Error Expr := do
  parseTokens (.expr resolver) (← tokenize source)

end Sift.Filter
