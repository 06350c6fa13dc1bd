import Sift.Expr.Fold
import Sift.Lambda.Constant
import Sift.Lambda.Parser
import Sift.Resolver

/-!
# From closures to expressions

Accesses that start at the parameter of a closure become members; every other name must be bound to
a constant. Calls on constants are computed where they have a meaning; other calls become calls of
expressions, under the names that they have there.

* `Scope`: the parameter, the bindings, the resolver, and custom translations of calls.
* `Scope.expr`: the expression of a term.
* `parse`: the expression of a closure's source.
-/

namespace Sift.Lambda

/-- What the names of a closure mean. A custom translation is given the receiver of a call, if
there is one, and the arguments; it is preferred to every other meaning of the name. -/
structure Environment where
  resolver : Resolver
  bindings : List (String × Json)
  handlers : List (String × (List Expr → Except Error Expr))

/-- An environment inside a closure. -/
structure Scope extends Environment where
  parameter : String

/-- What a term denotes: an expression, or a path from the parameter that may still go on. -/
inductive Denotation where
  | expr (e : Expr)
  | path (segments : List String)

/-- The call that a method stands for. -/
def methodName? : String → Option String
  | "startsWith" => some "startswith"
  | "endsWith" => some "endswith"
  | "includes" => some "contains"
  | "indexOf" => some "indexof"
  | "toLowerCase" => some "tolower"
  | "toLocaleLowerCase" => some "tolower"
  | "toUpperCase" => some "toupper"
  | "toLocaleUpperCase" => some "toupper"
  | "trim" => some "trim"
  | "substr" => some "substring"
  | "substring" => some "substring"
  | "concat" => some "concat"
  | "getDate" => some "day"
  | "getMonth" => some "month"
  | "getFullYear" => some "year"
  | "getHours" => some "hour"
  | "getMinutes" => some "minute"
  | "getSeconds" => some "second"
  | _ => none

/-- The call that a function of `Math` stands for. -/
def mathCallName? : String → Option String
  | "floor" => some "floor"
  | "ceil" => some "ceiling"
  | "round" => some "round"
  | _ => none

/-- The constants that expressions are, if all of them are. -/
def literals? (es : List Expr) : Option (List Json) := es.mapM Expr.literal?

/-- The arguments of a part of a text: two constant positions become a start and a length. -/
def partArguments (method : String) (args : List Expr) : List Expr :=
  match args with
  | [.lit a, .lit b] =>
    match a.signed?, b.signed? with
    | some i, some j =>
      if method = "substring" then
        let start := max (min i j) 0
        [.lit (.int start), .lit (.int (max (max i j) 0 - start))]
      else args
    | _, _ => args
  | _ => args

/-- The index that a property is: digits, after an optional plus sign. -/
def index? (property : String) : Option Nat :=
  let ds := match property.toList with
    | '+' :: cs => cs
    | cs => cs
  if !ds.isEmpty && ds.all Char.isDigit then some (Number.digitsValue 10 ds) else none

/-- A property of a constant: its length, a field of an object, or an item of a list. -/
def constantProperty (v : Json) (property : String) : Except Error Json :=
  let length := if property = "length" then Constant.length? v else none
  let found := length.or <| match v with
    | .obj fields => Json.get? property fields
    | .arr items => (index? property).bind (items[·]?)
    | _ => none
  match found with
  | some w => .ok w
  | none => .error (.parse (.unresolvedProperty property))

/-- What a binary operator makes of two expressions. -/
def Operator.combine (op : Operator) (left right : Expr) : Except Error Expr :=
  match op with
  | .or => .ok (Expr.connect .or left right)
  | .and => .ok (Expr.connect .and left right)
  | .strictEq | .eq => .ok (.compare left .eq right)
  | .strictNe | .ne => .ok (.compare left .ne right)
  | .le => .ok (.compare left .le right)
  | .ge => .ok (.compare left .ge right)
  | .lt => .ok (.compare left .lt right)
  | .gt => .ok (.compare left .gt right)
  | .add => .ok (Expr.arithmetic left .add right)
  | .sub => .ok (Expr.arithmetic left .sub right)
  | .mul => .ok (Expr.arithmetic left .mul right)
  | .div => .ok (Expr.arithmetic left .div right)
  | .mod => .ok (Expr.arithmetic left .mod right)
  | .bitOr | .bitXor | .bitAnd | .isIn | .instanceOf | .shiftLeft | .shiftRightZero
  | .shiftRight => .error (.parse (.unsupportedOperator op.symbol))

/-- What a unary operator makes of an expression. A sign is only for numbers and for what is not
constant. -/
def Unary.apply (op : Unary) (operand : Expr) : Except Error Expr :=
  match op with
  | .not => .ok operand.negate
  | .plus => .ok operand
  | .minus =>
    match operand with
    | .lit (.int _) => .ok (Expr.arithmetic (.lit (.int 0)) .sub operand)
    | .lit (.float _) => .ok (Expr.arithmetic (.lit (.int 0)) .sub operand)
    | .lit _ => .error (.parse .minusOperand)
    | _ => .ok (Expr.arithmetic (.lit (.int 0)) .sub operand)
  | .bitNot | .typeOf => .error (.parse (.unsupportedOperator op.symbol))

namespace Scope

variable (scope : Scope)

/-- The expression of a path. The length of a member is a call on the member. -/
def resolvePath (segments : List String) : Except Error Expr :=
  match segments.getLast? with
  | none => .error (.parse (.parameterAsValue scope.parameter))
  | some last =>
    if last = "length" ∧ segments.dropLast ≠ [] then do
      let member ← scope.resolver.member (Text.joinWith "." segments.dropLast)
      scope.resolver.call last [member]
    else scope.resolver.member (Text.joinWith "." segments)

/-- The expression of a denotation, when nothing goes on from it. -/
def resolve : Denotation → Except Error Expr
  | .expr e => .ok e
  | .path segments => scope.resolvePath segments

/-- A name: the parameter, or a bound constant. -/
def denoteName (s : String) : Except Error Denotation :=
  if s = scope.parameter then .ok (.path [])
  else
    match scope.bindings.lookup s with
    | some v => .ok (.expr (.lit v))
    | none => .error (.parse (.unresolvedName s))

/-- A property of what a term denotes. -/
def property (of : Denotation) (name : String) : Except Error Denotation :=
  match of with
  | .path segments => .ok (.path (segments ++ [name]))
  | .expr (.lit v) => do return .expr (.lit (← constantProperty v name))
  | .expr e =>
    if name = "length" then do return .expr (← scope.resolver.call name [e])
    else .error (.parse (.propertyOfComputed name))

/-- A call of a function. -/
def callFunction (name : String) (args : List Expr) : Except Error Expr :=
  match scope.handlers.lookup name with
  | some handler => handler args
  | none => do
    let value ← match literals? args with
      | some values => Constant.callFunction name values
      | none => .ok none
    match value with
    | some v => return .lit v
    | none => scope.resolver.call name args

/-- A call of a function of `Math`. -/
def callMath (name : String) (args : List Expr) : Except Error Expr :=
  match scope.handlers.lookup name with
  | some handler => handler args
  | none => do
    let value ← match literals? args with
      | some values => Constant.callMath name values
      | none => .ok none
    match value, mathCallName? name with
    | some v, _ => return .lit v
    | none, some call => scope.resolver.call call args
    | none, none => .error (.parse (.unsupportedMethod ("Math." ++ name)))

/-- A call of a method. All of it constant, it is computed; a member sought in a constant list
is a test for membership; anything else is a call with the receiver as its first argument. -/
def callMethod (receiver : Expr) (method : String) (args : List Expr) : Except Error Expr :=
  match scope.handlers.lookup method with
  | some handler => handler (receiver :: args)
  | none =>
    match receiver, literals? args, args with
    | .lit v, some values, _ =>
      match Constant.callMethod? v method values with
      | some w => .ok (.lit w)
      | none => .error (.parse (.unsupportedMethod method))
    | .lit (.arr _), none, [needle] =>
      if method = "includes" then .ok (.compare needle .isIn receiver) else general
    | _, _, _ => general
where
  /-- A call of what the method stands for. -/
  general : Except Error Expr :=
    match methodName? method with
    | some name => scope.resolver.call name (receiver :: partArguments method args)
    | none => .error (.parse (.unsupportedMethod method))

/-- Whether a name means the functions of `Math`: it is theirs unless the closure uses it. -/
def isMath (t : Term) : Bool :=
  match t with
  | .name s => s == "Math" && s != scope.parameter && (scope.bindings.lookup s).isNone
  | _ => false

mutual

/-- What a term denotes. -/
def denote : Term → Except Error Denotation
  | .name s => scope.denoteName s
  | .lit v => .ok (.expr (.lit v))
  | .member of name => do scope.property (← denote of) name
  | .call (.name s) args => do return .expr (← scope.callFunction s (← exprs args))
  | .call (.member of name) args =>
    if scope.isMath of then do return .expr (← scope.callMath name (← exprs args))
    else do
      let receiver ← scope.resolve (← denote of)
      return .expr (← scope.callMethod receiver name (← exprs args))
  | .call _ _ => .error (.parse .namelessCall)
  | .binary op left right => do
    let l ← scope.resolve (← denote left)
    let r ← scope.resolve (← denote right)
    return .expr (← op.combine l r)
  | .unary op operand => do return .expr (← op.apply (← scope.resolve (← denote operand)))
  | .array items => do return .expr (.lit (.arr (← constants items)))

/-- The expressions of terms. -/
def exprs : List Term → Except Error (List Expr)
  | [] => .ok []
  | t :: ts => do
    let e ← scope.resolve (← denote t)
    let es ← exprs ts
    return e :: es

/-- The constants of the items of a list. -/
def constants : List Term → Except Error (List Json)
  | [] => .ok []
  | t :: ts => do
    match ← scope.resolve (← denote t) with
    | .lit v =>
      let vs ← constants ts
      return v :: vs
    | _ => .error (.parse .openArray)

end

/-- The expression of a term. -/
def expr (t : Term) : Except Error Expr := do scope.resolve (← scope.denote t)

end Scope

/-- The expression of a closure's source. -/
def parse (source : String) (env : Environment) : Except Error Expr := do
  let closure ← Closure.parse source
  Scope.expr { env with parameter := closure.parameter } closure.body

end Sift.Lambda
