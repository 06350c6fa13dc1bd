import Sift.Lambda.Translate
import Sift.Proofs.Steps

/-!
# What terms mean

The expression of a term from those of its parts, for every kind of term that has some.

* `Scope.expr_binary`, `Scope.expr_unary`, `Scope.expr_array`: operators and lists.
* `Scope.expr_function`, `Scope.expr_method`: calls of functions and of methods.
* `Scope.callMethod_constant`, `Scope.expr_general`: a method of a constant, and of what is none.
* `parse_eq`: a closure's source has the expression of the closure's body.
-/

namespace Sift.Lambda

variable {scope : Scope} {x y t : Term} {d e : Expr} {ts : List Term} {es : List Expr}

namespace Scope

/-! ### Operators and lists -/

/-- A binary operator combines the expressions of its sides. -/
theorem denote_binary (op : Operator) : scope.denote (.binary op x y) =
    scope.expr x >>= fun l => scope.expr y >>= fun r =>
      op.combine l r >>= fun e => .ok (.expr e) := by
  rw [denote, expr, expr]
  cases scope.denote x <;> cases scope.denote y <;> rfl

theorem expr_binary (op : Operator) (left : scope.expr x = .ok d) (right : scope.expr y = .ok e) :
    scope.expr (.binary op x y) = op.combine d e := by
  rw [expr, denote_binary, left, ok_bind, right, ok_bind]
  cases op.combine d e <;> rfl

/-- A unary operator is applied to the expression of its operand. -/
theorem expr_unary (op : Unary) (h : scope.expr x = .ok d) :
    scope.expr (.unary op x) = op.apply d := by
  have step : scope.denote (.unary op x) =
      scope.expr x >>= fun a => op.apply a >>= fun e => .ok (.expr e) := by
    rw [denote, expr]
    cases scope.denote x <;> rfl
  rw [expr, step, h, ok_bind]
  cases op.apply d <;> rfl

/-- Arguments have expressions if each has one. -/
theorem exprs_cons (h : scope.expr t = .ok e) (others : scope.exprs ts = .ok es) :
    scope.exprs (t :: ts) = .ok (e :: es) := by
  have step : scope.exprs (t :: ts) =
      scope.expr t >>= fun e => scope.exprs ts >>= fun es => .ok (e :: es) := by
    rw [exprs, expr]
    cases scope.denote t <;> rfl
  rw [step, h, ok_bind, others, ok_bind]

/-- Items are constants if each is one. -/
theorem constants_cons {v : Json} {vs : List Json} (h : scope.expr t = .ok (.lit v))
    (others : scope.constants ts = .ok vs) : scope.constants (t :: ts) = .ok (v :: vs) := by
  rw [expr] at h
  obtain ⟨d, denoted, resolved⟩ := bind_eq_ok.1 h
  rw [constants, denoted, ok_bind, resolved, ok_bind]
  dsimp only
  rw [others, ok_bind]
  rfl

/-- A list of constants is a constant. -/
theorem expr_array {vs : List Json} (h : scope.constants ts = .ok vs) :
    scope.expr (.array ts) = .ok (.lit (.arr vs)) := by
  rw [expr, denote, h]
  rfl

/-! ### Calls -/

/-- What has an expression is not the name of the functions of `Math`. -/
theorem isMath_eq_false (h : scope.expr x = .ok d) : scope.isMath x = false := by
  cases x with
  | name s =>
    by_contra math
    rw [Bool.not_eq_false, isMath, Bool.and_eq_true, Bool.and_eq_true, beq_iff_eq, bne_iff_ne,
      Option.isNone_iff_eq_none] at math
    obtain ⟨⟨-, other⟩, unbound⟩ := math
    rw [expr, denote, denoteName, if_neg other, unbound] at h
    cases h
  | _ => rfl

/-- A call of a name calls a function on the expressions of its arguments. -/
theorem expr_function (name : String) (items : scope.exprs ts = .ok es) :
    scope.expr (.call (.name name) ts) = scope.callFunction name es := by
  rw [expr, denote, items, ok_bind]
  cases scope.callFunction name es <;> rfl

/-- A call of a member calls a method of the expression in front. -/
theorem expr_method (method : String) (receiver : scope.expr x = .ok d)
    (items : scope.exprs ts = .ok es) :
    scope.expr (.call (.member x method) ts) = scope.callMethod d method es := by
  have step : scope.denote (.call (.member x method) ts) =
      scope.expr x >>= fun a => scope.exprs ts >>= fun es =>
        scope.callMethod a method es >>= fun e => .ok (.expr e) := by
    rw [denote, isMath_eq_false receiver, expr]
    cases scope.denote x <;> rfl
  rw [expr, step, receiver, ok_bind, items, ok_bind]
  cases scope.callMethod d method es <;> rfl

/-- **A method of a constant** with constant arguments is computed. -/
theorem callMethod_constant {method : String} {v w : Json} {vs : List Json}
    (plain : scope.handlers.lookup method = none) (items : literals? es = some vs)
    (h : Constant.callMethod? v method vs = some w) :
    scope.callMethod (.lit v) method es = .ok (.lit w) := by
  unfold callMethod
  rw [plain, items]
  dsimp only
  rw [h]

/-- A method of what is no constant is a call of what the method stands for. -/
theorem callMethod_general {method : String} (plain : scope.handlers.lookup method = none)
    (notLit : ∀ v, d ≠ .lit v) (es : List Expr) :
    scope.callMethod d method es = callMethod.general scope d method es := by
  unfold callMethod
  rw [plain]
  cases d with
  | lit v => exact absurd rfl (notLit v)
  | _ => rfl

/-- A method of what is no constant is a call of the function that it stands for, up to its
arguments. -/
theorem expr_general {method name : String} (plain : scope.handlers.lookup method = none)
    (stands : methodName? method = .some name) (notLit : ∀ v, d ≠ .lit v)
    (receiver : scope.expr x = .ok d) (items : scope.exprs ts = .ok es) :
    scope.expr (.call (.member x method) ts) =
      scope.resolver.call name (d :: partArguments method es) := by
  rw [expr_method method receiver items, callMethod_general plain notLit, callMethod.general,
    stands]

end Scope

/-- The arguments of a call are handed on as they are, but for parts of texts. -/
theorem partArguments_eq {name : String} (h : name ≠ "substring") (args : List Expr) :
    partArguments name args = args := by
  unfold partArguments
  split
  · split
    · exact if_neg h
    · rfl
  · rfl

/-- **The source of a closure** has the expression of the closure's body. -/
theorem parse_eq {source parameter : String} {body : Term} {env : Environment}
    (h : Closure.parse source = .ok ⟨parameter, body⟩) :
    parse source env = Scope.expr { env with parameter } body := by
  rw [parse, h]
  rfl

end Sift.Lambda
