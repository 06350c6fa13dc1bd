import Sift.Lambda.Term
import Sift.Lambda.Token

/-!
# From tokens to closures

A closure is a function with a block (`function (x) { return … }`) or an arrow (`x => …`), with one
parameter and one returned term. Terms are read by precedence: ten levels of binary operators that
associate to the left, then unary operators, then accesses and calls, then names, constants, lists
and parentheses.

* `readTerm`: a term at the front of a list of tokens.
* `readClosure`: a closure that fills a list of tokens.
* `Closure.parse`: the closure of a source.
-/

namespace Sift.Lambda

open Number

/-- The text that a token may spell an operator with: a punctuator, or a word. -/
def Token.spelling? : Token → Option String
  | name s => some s
  | punct s => some s
  | _ => none

/-- The binary operator of a token at a level. -/
def Token.operator? (level : Nat) (t : Token) : Option Operator :=
  (t.spelling?.bind Operator.ofSymbol?).filter (·.level == level)

/-- The unary operator of a token. -/
def Token.unary? (t : Token) : Option Unary := t.spelling?.bind Unary.ofSymbol?

/-- The rest after a punctuator. -/
def expect (symbol : String) (ts : List Token) : Except Error (Read Unit ts) :=
  match ts with
  | .punct s :: rest =>
    if s = symbol then .ok (.one () (.punct s) rest) else .error (.parse (.expected symbol s))
  | ts => .error (.parse (.expected symbol (showFirst ts)))

/-- The rest after a name. -/
def readName (ts : List Token) : Except Error (Read String ts) :=
  match ts with
  | .name s :: rest => .ok (.one s (.name s) rest)
  | ts => .error (.parse (.expectedName (showFirst ts)))

/-- The property of an access in brackets: a text, or a number without sign and fraction. -/
def readKey (ts : List Token) : Except Error (Read String ts) :=
  match ts with
  | .text s :: rest => .ok (.one s (.text s) rest)
  | .number x :: rest =>
    if x.isFinite && isIntegral x && 0 ≤ truncate x then
      .ok (.one (natText (min (truncate x).toNat 0xFFFFFFFFFFFFFFFF)) (.number x) rest)
    else .error (.parse (.computedKey (Token.number x).show))
  | ts => .error (.parse (.computedKey (showFirst ts)))

/-- A higher level comes before a lower one in the order by which reading ends. -/
theorem Operator.rank_lt {level : Nat} (h : level < Operator.levels) :
    10 + (Operator.levels - (level + 1)) < 10 + (Operator.levels - level) := by
  omega

/-- The words that cannot stand in a term. -/
def reservedWords : List String := ["function", "return", "new", "this"]

/-- The term of a single name. -/
def termOfName (s : String) : Except Error Term :=
  if s = "true" then .ok (.lit (.bool true))
  else if s = "false" then .ok (.lit (.bool false))
  else if s = "null" ∨ s = "undefined" then .ok (.lit .null)
  else if reservedWords.contains s then .error (.parse (.reservedWord s))
  else .ok (.name s)

mutual

/-- A term, which neither a condition nor an assignment may follow. -/
def readTerm (ts : List Token) : Except Error (Read Term ts) := do
  let t ← readBinary 0 ts
  match t.rest with
  | .punct "?" :: _ => .error (.parse .conditional)
  | .punct "=" :: _ => .error (.parse .assignment)
  | _ => return t
termination_by (ts.length, 30)
decreasing_by exact Prod.Lex.right _ (by decide)

/-- Operands joined by the operators of a level. -/
def readBinary (level : Nat) (ts : List Token) : Except Error (Read Term ts) :=
  if h : level < Operator.levels then do
    let left ← readBinary (level + 1) ts
    readChain level left
  else readUnary ts
termination_by (ts.length, 10 + (Operator.levels - level))
decreasing_by
  · exact Prod.Lex.right _ (Operator.rank_lt h)
  · exact Prod.Lex.left _ _ left.shorter
  · exact Prod.Lex.right _ (Nat.lt_add_right _ (by decide))

/-- Further operators and operands of a level after a left side. -/
def readChain (level : Nat) {ts : List Token} (left : Read Term ts) : Except Error (Read Term ts) :=
  match h : left.rest with
  | t :: rest =>
    match t.operator? level with
    | some op => do
      let right ← readBinary (level + 1) rest
      readChain level (left.thenPast h right (.binary op left.value right.value))
    | none => .ok left
  | [] => .ok left
termination_by (left.rest.length, 10 + (Operator.levels - level))
decreasing_by
  · exact Prod.Lex.left _ _ (length_lt_of_eq_cons h)
  · exact Prod.Lex.left _ _ (left.length_thenPast_lt h right _)

/-- An operand with the unary operators in front of it. -/
def readUnary (ts : List Token) : Except Error (Read Term ts) :=
  match ts with
  | t :: rest =>
    match t.unary? with
    | some op => do
      return ((← readUnary rest).map (.unary op)).past t
    | none => do
      let head ← readPrimary (t :: rest)
      readSuffixes head
  | [] => .error (.parse .unexpectedEnd)
termination_by (ts.length, 5)
decreasing_by
  · exact Prod.Lex.left _ _ (length_lt_cons t rest)
  · exact Prod.Lex.right _ (by decide)
  · exact Prod.Lex.left _ _ head.shorter

/-- Accesses and calls after a term. -/
def readSuffixes {ts : List Token} (head : Read Term ts) : Except Error (Read Term ts) :=
  match h : head.rest with
  | .punct "." :: rest => do
    let property ← readName rest
    readSuffixes (head.thenPast h property (.member head.value property.value))
  | .punct "[" :: rest => do
    let property ← readKey rest
    let key := property.thenRead (← expect "]" property.rest) property.value
    readSuffixes (head.thenPast h key (.member head.value key.value))
  | .punct "(" :: rest => do
    let args ← readList ")" rest
    readSuffixes (head.thenPast h args (.call head.value args.value))
  | _ => .ok head
termination_by (head.rest.length, 4)
decreasing_by
  · exact Prod.Lex.left _ _ (head.length_thenPast_lt h _ _)
  · exact Prod.Lex.left _ _ (head.length_thenPast_lt h _ _)
  · exact Prod.Lex.left _ _ (length_lt_of_eq_cons h)
  · exact Prod.Lex.left _ _ (head.length_thenPast_lt h args _)

/-- A constant, a name, a list, or a term in parentheses. -/
def readPrimary (ts : List Token) : Except Error (Read Term ts) :=
  match ts with
  | .number x :: rest => .ok (.one (.lit ((constant? x).getD .null)) (.number x) rest)
  | .text s :: rest => .ok (.one (.lit (.str s)) (.text s) rest)
  | .name s :: rest => do
    return .one (← termOfName s) (.name s) rest
  | .punct "(" :: rest => do
    let inner ← readTerm rest
    let close ← expect ")" inner.rest
    return (inner.thenRead close inner.value).past (.punct "(")
  | .punct "[" :: rest => do
    return ((← readList "]" rest).map .array).past (.punct "[")
  | .punct s :: _ => .error (.parse (.unexpected s))
  | [] => .error (.parse .unexpectedEnd)
termination_by (ts.length, 0)

/-- Terms with commas between them, to the closing punctuator. A last comma is allowed. -/
def readList (close : String) (ts : List Token) : Except Error (Read (List Term) ts) :=
  match expect close ts with
  | .ok closed => .ok (closed.map fun _ => [])
  | .error _ =>
    if ts.isEmpty then .error (.parse (.expectedAtEnd close))
    else do
      let item ← readTerm ts
      match h : item.rest with
      | .punct "," :: rest => do
        let items ← readList close rest
        return item.thenPast h items (item.value :: items.value)
      | _ => do
        return item.thenRead (← expect close item.rest) [item.value]
termination_by (ts.length, 31)
decreasing_by
  · exact Prod.Lex.right _ (by decide)
  · exact Prod.Lex.left _ _ (item.length_lt h)

end

/-- The parameter in parentheses. -/
def readParameter (ts : List Token) : Except Error (Read String ts) := do
  let start ← expect "(" ts
  match start.rest with
  | .punct ")" :: _ => .error (.parse .noParameter)
  | _ =>
    let parameter ← readName start.rest
    match parameter.rest with
    | .punct "," :: _ => .error (.parse .manyParameters)
    | _ =>
      let close ← expect ")" parameter.rest
      return start.thenRead (parameter.thenRead close ()) parameter.value

/-- The tokens without the semicolons in front. -/
def skipSemicolons : List Token → List Token
  | .punct ";" :: rest => skipSemicolons rest
  | ts => ts

/-- A block: the word `return`, a term, and any semicolons, in braces. Returns the term and the
tokens after the block. -/
def readBlock (ts : List Token) : Except Error (Term × List Token) := do
  let start ← expect "\x7b" ts
  match start.rest with
  | .name "return" :: .punct ";" :: _ => .error (.parse .noValue)
  | .name "return" :: .punct "\x7d" :: _ => .error (.parse .noValue)
  | .name "return" :: rest =>
    let body ← readTerm rest
    match skipSemicolons body.rest with
    | .punct "\x7d" :: rest => return (body.value, rest)
    | _ => .error (.parse .noValue)
  | _ => .error (.parse .noValue)

/-- What an arrow leads to: a block, or a term. -/
def readArrow (ts : List Token) : Except Error (Term × List Token) := do
  let start ← expect "=>" ts
  match start.rest with
  | .punct "\x7b" :: _ => readBlock start.rest
  | _ =>
    let body ← readTerm start.rest
    return (body.value, body.rest)

/-- A closure at the front of a list of tokens. A function may have a name, which means
nothing. -/
def readFunction (ts : List Token) : Except Error (Closure × List Token) :=
  match ts with
  | .name "function" :: rest => do
    let rest := match rest with
      | .name _ :: rest => rest
      | rest => rest
    let parameter ← readParameter rest
    let (body, rest) ← readBlock parameter.rest
    return (⟨parameter.value, body⟩, rest)
  | .punct "(" :: _ => do
    let parameter ← readParameter ts
    let (body, rest) ← readArrow parameter.rest
    return (⟨parameter.value, body⟩, rest)
  | ts => do
    let parameter ← readName ts
    let (body, rest) ← readArrow parameter.rest
    return (⟨parameter.value, body⟩, rest)

/-- A closure that fills a list of tokens, semicolons at its end apart. -/
def readClosure (ts : List Token) : Except Error Closure := do
  let (closure, rest) ← readFunction ts
  match skipSemicolons rest with
  | [] => return closure
  | t :: _ => .error (.parse (.afterClosure t.show))

/-- The closure of a source. -/
def Closure.parse (source : String) : Except Error Closure := do readClosure (← tokenize source)

end Sift.Lambda
