import Sift.Number.Decimal
import Sift.Expr.Basic
import Sift.Proofs.Sql.Literals

/-!
# Predicates as a server reads them

A reader of SQL predicates, by the precedence that MySQL gives to operators: signs first, then
products, sums, comparisons with `IS` and `IN`, `NOT`, `AND` and `OR`. Operators of one level
associate to the left, and a run of `AND` or `OR` is one node.

* `Tree`: what a predicate is read as.
* `scan?`: the tokens of a text.
* `readPredicate?`: operands and operators without brackets, by precedence.
* `State.step?`: one token after another, with the brackets that are open.
* `read?`: the tree of a text.
-/

namespace Sift.Sql.Server

/-- What a predicate is read as. A negative number is a constant; any other sign is a node. -/
inductive Tree where
  | null
  | bool (b : Bool)
  | int (n : Int)
  | text (s : String)
  | column (names : List String)
  | negative (t : Tree)
  | arith (left : Tree) (op : Arith) (right : Tree)
  | compare (left : Tree) (op : Comparison) (right : Tree)
  | isNull (t : Tree)
  | isIn (t : Tree) (items : List Tree)
  | not (t : Tree)
  | logical (op : Connective) (operands : List Tree)

/-- A tree behind a sign. -/
def Tree.negate : Tree → Tree
  | .int n => .int (-n)
  | t => .negative t

/-! ### Tokens -/

/-- The operators of predicates. -/
inductive Operator where
  | connective (op : Connective)
  | not
  | is
  | isIn
  | compare (op : Comparison)
  | arith (op : Arith)
  deriving DecidableEq

/-- A token: a constant or a column, an operator, or punctuation. -/
inductive Token where
  | leaf (t : Tree)
  | operator (op : Operator)
  | open_
  | close
  | comma

/-- A column behind its opening grave accent, and what follows it. Names are joined by dots, and
two accents stand for one. -/
def readColumn? : List Char → Option (List (List Char) × List Char)
  | [] => none
  | '\x60' :: '\x60' :: cs => (readColumn? cs).map (push '\x60')
  | '\x60' :: '.' :: '\x60' :: cs => (readColumn? cs).map fun r => ([] :: r.1, r.2)
  | '\x60' :: cs => some ([[]], cs)
  | c :: cs => (readColumn? cs).map (push c)
where
  /-- One more character at the front of the first name. -/
  push (c : Char) (r : List (List Char) × List Char) : List (List Char) × List Char :=
    (r.1.modifyHead (c :: ·), r.2)

/-- A keyword, in any letter case. -/
def keyword? (word : List Char) : Option Token :=
  match String.ofList (word.map Char.toUpper) with
  | "NULL" => some (.leaf .null)
  | "TRUE" => some (.leaf (.bool true))
  | "FALSE" => some (.leaf (.bool false))
  | "AND" => some (.operator (.connective .and))
  | "OR" => some (.operator (.connective .or))
  | "NOT" => some (.operator .not)
  | "IS" => some (.operator .is)
  | "IN" => some (.operator .isIn)
  | _ => none

/-- The characters of words. -/
def isWordChar (c : Char) : Bool := c.isAlphanum || c == '_'

/-- A token at the front of a text, and what follows it. Comments are no tokens. -/
def readToken? : List Char → Option (Token × List Char)
  | '(' :: cs => some (.open_, cs)
  | ')' :: cs => some (.close, cs)
  | ',' :: cs => some (.comma, cs)
  | '\'' :: cs => (readQuoted? cs).map fun r => (.leaf (.text (String.ofList r.1)), r.2)
  | '\x60' :: cs => (readColumn? cs).map fun r => (.leaf (.column (r.1.map String.ofList)), r.2)
  | '-' :: '-' :: ' ' :: _ => none
  | '/' :: '*' :: _ => none
  | '+' :: cs => some (.operator (.arith .add), cs)
  | '-' :: cs => some (.operator (.arith .sub), cs)
  | '*' :: cs => some (.operator (.arith .mul), cs)
  | '/' :: cs => some (.operator (.arith .div), cs)
  | '%' :: cs => some (.operator (.arith .mod), cs)
  | '=' :: cs => some (.operator (.compare .eq), cs)
  | '<' :: '=' :: cs => some (.operator (.compare .le), cs)
  | '>' :: '=' :: cs => some (.operator (.compare .ge), cs)
  | '<' :: cs => some (.operator (.compare .lt), cs)
  | '>' :: cs => some (.operator (.compare .gt), cs)
  | cs =>
    let digits := cs.takeWhile Char.isDigit
    if digits.isEmpty then
      (keyword? (cs.takeWhile isWordChar)).map fun t => (t, cs.dropWhile isWordChar)
    else some (.leaf (.int (Nat.ofDigitChars 10 digits 0)), cs.dropWhile Char.isDigit)

/-- The tokens of a text, with blanks between them. -/
def scan? (cs : List Char) : Option (List Token) :=
  match cs with
  | [] => some []
  | ' ' :: cs => scan? cs
  | c :: cs =>
    match readToken? (c :: cs) with
    | none => none
    | some (t, rest) =>
      if _ : rest.length < (c :: cs).length then (scan? rest).map (t :: ·) else none
termination_by cs.length
decreasing_by
  · exact Nat.lt_succ_self _
  · assumption

/-! ### Precedence -/

/-- An operand: an expression, or expressions in brackets with commas between them. -/
inductive Operand where
  | one (t : Tree)
  | bracketed (ts : List Tree)

/-- The expression that an operand is; brackets around one expression change nothing. -/
def Operand.tree? : Operand → Option Tree
  | .one t => some t
  | .bracketed [t] => some t
  | .bracketed _ => none

/-- An operand or an operator of a predicate. -/
inductive Atom where
  | operand (o : Operand)
  | operator (op : Operator)

/-- What an operator makes of the operands on its sides. -/
def Operator.build? (op : Operator) (left right : Operand) : Option Tree :=
  match op, right with
  | .arith op, right => do return .arith (← left.tree?) op (← right.tree?)
  | .compare op, right => do return .compare (← left.tree?) op (← right.tree?)
  | .is, .one .null => do return .isNull (← left.tree?)
  | .isIn, .bracketed ts => do return .isIn (← left.tree?) ts
  | _, _ => none

/-- Operands and the operators between them: the first operand, and what follows it. -/
def alternate? : List Atom → Option (Operand × List (Operator × Operand))
  | [.operand o] => some (o, [])
  | .operand o :: .operator op :: atoms => do
    let (second, more) ← alternate? atoms
    some (o, (op, second) :: more)
  | _ => none

/-- The operators of one level applied, from the left. -/
def reduce? (level : Operator → Bool) (first : Operand) :
    List (Operator × Operand) → Option (Operand × List (Operator × Operand))
  | [] => some (first, [])
  | (op, second) :: more =>
    if level op then do reduce? level (.one (← op.build? first second)) more
    else do
      let (second, more) ← reduce? level second more
      some (first, (op, second) :: more)

/-- Products. -/
def Operator.isProduct (op : Operator) : Bool := [.arith .mul, .arith .div, .arith .mod].contains op

/-- Sums. -/
def Operator.isSum (op : Operator) : Bool := [.arith .add, .arith .sub].contains op

/-- An expression without connectives: products first, then sums, then comparisons. -/
def readComparison? (atoms : List Atom) : Option Tree := do
  let (first, more) ← alternate? atoms
  let (first, more) ← reduce? Operator.isProduct first more
  let (first, more) ← reduce? Operator.isSum first more
  match ← reduce? (fun _ => true) first more with
  | (o, _) => o.tree?

/-- A negation, or an expression without connectives. -/
def readNegation? : List Atom → Option Tree
  | .operator .not :: atoms => (readNegation? atoms).map .not
  | atoms => readComparison? atoms

/-- Whether an atom is a connective. -/
def Atom.isConnective (op : Connective) : Atom → Bool
  | .operator (.connective op') => op = op'
  | _ => false

/-- Expressions under a connective; one alone is itself. -/
def joined (op : Connective) : List Tree → Tree
  | [t] => t
  | ts => .logical op ts

/-- A run of `AND`. -/
def readConjunction? (atoms : List Atom) : Option Tree := do
  return joined .and (← (atoms.splitOnP (Atom.isConnective .and)).mapM readNegation?)

/-- An expression without open brackets: a run of `OR`. -/
def readPredicate? (atoms : List Atom) : Option Tree := do
  return joined .or (← (atoms.splitOnP (Atom.isConnective .or)).mapM readConjunction?)

/-! ### Brackets -/

/-- What is read between brackets: the expressions before commas, and the atoms since the last
one, the newest first. -/
structure Frame where
  items : List Tree
  atoms : List Atom

/-- What has been read: between the innermost brackets, and between those around them. -/
structure State where
  inner : Frame
  outer : List Frame

/-- One more operand. A minus sign where an operand is expected belongs to the operand. -/
def pushOperand (o : Operand) : List Atom → List Atom
  | [.operator (.arith .sub)] => [.operand (signed o)]
  | .operator (.arith .sub) :: .operator op :: atoms =>
    pushOperand (signed o) (.operator op :: atoms)
  | atoms => .operand o :: atoms
where
  /-- An operand behind a sign. -/
  signed (o : Operand) : Operand :=
    match o.tree? with
    | some t => .one t.negate
    | none => o

/-- One more token. -/
def State.step? (s : State) : Token → Option State
  | .leaf t => some ⟨⟨s.inner.items, pushOperand (.one t) s.inner.atoms⟩, s.outer⟩
  | .operator op => some ⟨⟨s.inner.items, .operator op :: s.inner.atoms⟩, s.outer⟩
  | .open_ => some ⟨⟨[], []⟩, s.inner :: s.outer⟩
  | .comma => do
    let t ← readPredicate? s.inner.atoms.reverse
    some ⟨⟨s.inner.items ++ [t], []⟩, s.outer⟩
  | .close =>
    match s.outer with
    | [] => none
    | frame :: outer => do
      let t ← readPredicate? s.inner.atoms.reverse
      some ⟨⟨frame.items, pushOperand (.bracketed (s.inner.items ++ [t])) frame.atoms⟩, outer⟩

/-- The tree of a text, if it is one predicate. -/
def read? (text : String) : Option Tree := do
  let tokens ← scan? text.toList
  match ← tokens.foldlM State.step? ⟨⟨[], []⟩, []⟩ with
  | ⟨⟨[], atoms⟩, []⟩ => readPredicate? atoms.reverse
  | _ => none

end Sift.Sql.Server
