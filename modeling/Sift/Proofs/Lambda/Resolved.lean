import Sift.Lambda.Translate
import Sift.Proofs.Resolution
import Sift.Proofs.Steps

/-!
# What closures are made of

Expressions of closures are made with a resolver, by one of many ways: as members, as calls under
other names, as properties, or as tests for membership. Where no custom translation interferes, what
the resolver upholds holds at every node of them.

* `Denotation.Everywhere`: a property of all nodes of what a term denotes.
* `Scope.callMethod_everywhere` and its kin: one kind of call.
* `Scope.denote_everywhere`: every term, by induction on it.
* `parse_everywhere`: the expression of a closure.
-/

namespace Sift.Lambda

variable {r : Resolver} {P : Node → Prop}

/-- A property of all nodes of what a term denotes; a path has none yet. -/
def Denotation.Everywhere (P : Node → Prop) : Denotation → Prop
  | .expr e => Sift.Everywhere P (.expr e)
  | .path _ => True

/-! ### Operators -/

/-- What an operator makes of two operands is held by every resolver that upholds the property. -/
theorem Operator.everywhere_combine (h : r.Upholds P) {op : Operator} {left right e : Expr}
    (hl : Everywhere P (.expr left)) (hr : Everywhere P (.expr right))
    (he : op.combine left right = .ok e) : Everywhere P (.expr e) := by
  cases op <;> cases he
  · exact h.everywhere_connect .or hl hr
  · exact h.everywhere_connect .and hl hr
  all_goals first
    | exact h.everywhere_compare _ hl hr
    | exact h.everywhere_arithmetic _ hl hr

/-- A unary operator negates its operand, leaves it, or takes it from the constant 0. -/
theorem Unary.everywhere_apply (h : r.Upholds P) {op : Unary} {operand e : Expr}
    (ho : Everywhere P (.expr operand)) (he : op.apply operand = .ok e) :
    Everywhere P (.expr e) := by
  have zero := h.everywhere_lit (.int 0)
  cases op with
  | not =>
    cases he
    exact h.everywhere_negate ho
  | plus =>
    cases he
    exact ho
  | minus =>
    unfold apply at he
    dsimp only at he
    split at he <;> cases he <;> exact h.everywhere_arithmetic .sub zero ho
  | bitNot => cases he
  | typeOf => cases he

/-- The arguments of a part of a text are those given, or new constants. -/
theorem everywhere_partArguments (h : r.Upholds P) (method : String) {args : List Expr}
    (inside : ∀ a ∈ args, Everywhere P (.expr a)) :
    ∀ a ∈ partArguments method args, Everywhere P (.expr a) := by
  intro a ha
  unfold partArguments at ha
  split at ha
  · split at ha
    · split at ha
      · simp only [List.mem_cons, List.not_mem_nil, or_false] at ha
        rcases ha with rfl | rfl <;> exact h.everywhere_lit _
      · exact inside a ha
    · exact inside a ha
  · exact inside a ha

namespace Scope

variable {scope : Scope}

/-! ### Paths, names and properties -/

/-- A path is resolved to a member, or to a call on one. -/
theorem resolvePath_everywhere (h : scope.resolver.Upholds P) {segments : List String} {e : Expr}
    (he : scope.resolvePath segments = .ok e) : Everywhere P (.expr e) := by
  unfold resolvePath at he
  split at he
  · cases he
  · split at he
    · obtain ⟨member, hm, he⟩ := bind_eq_ok.1 he
      exact h.call he (List.forall_mem_singleton.2 (h.member hm))
    · exact h.member he

/-- What a denotation is resolved to is an expression it holds, a member or a constant. -/
theorem resolve_everywhere (h : scope.resolver.Upholds P) {d : Denotation} (hd : d.Everywhere P)
    {e : Expr} (he : scope.resolve d = .ok e) : Everywhere P (.expr e) := by
  cases d with
  | expr d =>
    cases he
    exact hd
  | path segments => exact resolvePath_everywhere h he

/-- A name denotes the parameter, which is no expression yet, or a bound value. -/
theorem denoteName_everywhere (h : scope.resolver.Upholds P) {s : String} {d : Denotation}
    (hd : scope.denoteName s = .ok d) : d.Everywhere P := by
  unfold denoteName at hd
  split at hd
  · cases hd
    trivial
  · split at hd
    · next v _ =>
      cases hd
      exact h.everywhere_lit v
    · cases hd

/-- A property lengthens a path, takes a value apart, or is a call made with the resolver. -/
theorem property_everywhere (h : scope.resolver.Upholds P) {of d : Denotation} {name : String}
    (ho : of.Everywhere P) (hd : scope.property of name = .ok d) : d.Everywhere P := by
  unfold property at hd
  split at hd
  · cases hd
    trivial
  · obtain ⟨w, -, hd⟩ := bind_eq_ok.1 hd
    cases hd
    exact h.everywhere_lit w
  · split at hd
    · obtain ⟨e, he, hd⟩ := bind_eq_ok.1 hd
      cases hd
      exact h.call he (List.forall_mem_singleton.2 ho)
    · cases hd

/-! ### Calls -/

section Calls

variable (h : scope.resolver.Upholds P) (plain : scope.handlers = []) {args : List Expr}
  (inside : ∀ a ∈ args, Everywhere P (.expr a))

include h plain inside

/-- A function called by its own name is a call of the resolver, or a constant. -/
theorem callFunction_everywhere {name : String} {e : Expr}
    (he : scope.callFunction name args = .ok e) : Everywhere P (.expr e) := by
  unfold callFunction at he
  rw [plain, List.lookup_nil] at he
  dsimp only at he
  split at he
  · obtain ⟨value, -, he⟩ := bind_eq_ok.1 he
    cases value with
    | some v =>
      cases he
      exact h.everywhere_lit v
    | none => exact h.call he inside
  · exact h.call he inside

/-- Functions of the mathematical object are calls too, under the names that the server has for
them. -/
theorem callMath_everywhere {name : String} {e : Expr}
    (he : scope.callMath name args = .ok e) : Everywhere P (.expr e) := by
  unfold callMath at he
  rw [plain, List.lookup_nil] at he
  dsimp only at he
  -- computed or not, it goes on alike
  split at he
  all_goals
    obtain ⟨value, -, he⟩ := bind_eq_ok.1 he
    split at he
    · cases he
      exact h.everywhere_lit _
    · exact h.call he inside
    · cases he

/-- Each method that a closure may call is a call under another name, a comparison, or a test for
membership with the sides turned round. -/
theorem callMethod_everywhere {receiver : Expr} (hr : Everywhere P (.expr receiver))
    {method : String} {e : Expr} (he : scope.callMethod receiver method args = .ok e) :
    Everywhere P (.expr e) := by
  -- any other method is a call that the resolver makes
  have general (he : callMethod.general scope receiver method args = .ok e) :
      Everywhere P (.expr e) := by
    unfold callMethod.general at he
    split at he
    · exact h.call he (List.forall_mem_cons.2 ⟨hr, everywhere_partArguments h method inside⟩)
    · cases he
  unfold callMethod at he
  rw [plain, List.lookup_nil] at he
  dsimp only at he
  -- methods of constant texts and arrays are computed at once
  split at he
  · split at he
    · next w _ =>
      cases he
      exact h.everywhere_lit w
    · cases he
  · next needle _ =>
    split at he
    · -- a test for membership is a comparison, and no call that the resolver would see
      cases he
      exact h.everywhere_compare .isIn (inside needle List.mem_cons_self) hr
    · exact general he
  · exact general he

end Calls

/-! ### Terms -/

mutual

/-- **What a term denotes** has at every node what the resolver upholds. -/
theorem denote_everywhere (h : scope.resolver.Upholds P) (plain : scope.handlers = []) (t : Term)
    {d : Denotation} (hd : scope.denote t = .ok d) : d.Everywhere P := by
  -- by recursion on the term, as its arguments are in a list
  match t with
  | .name s =>
    rw [denote] at hd
    exact denoteName_everywhere h hd
  | .lit v =>
    rw [denote] at hd
    cases hd
    exact h.everywhere_lit v
  | .member of name =>
    rw [denote] at hd
    obtain ⟨o, ho, hd⟩ := bind_eq_ok.1 hd
    exact property_everywhere h (denote_everywhere h plain of ho) hd
  | .call (.name s) args =>
    rw [denote] at hd
    obtain ⟨es, hes, hd⟩ := bind_eq_ok.1 hd
    obtain ⟨e, he, hd⟩ := bind_eq_ok.1 hd
    cases hd
    exact callFunction_everywhere h plain (exprs_everywhere h plain args hes) he
  | .call (.member of name) args =>
    rw [denote] at hd
    split at hd
    · obtain ⟨es, hes, hd⟩ := bind_eq_ok.1 hd
      obtain ⟨e, he, hd⟩ := bind_eq_ok.1 hd
      cases hd
      exact callMath_everywhere h plain (exprs_everywhere h plain args hes) he
    · obtain ⟨o, ho, hd⟩ := bind_eq_ok.1 hd
      obtain ⟨receiver, hr, hd⟩ := bind_eq_ok.1 hd
      obtain ⟨es, hes, hd⟩ := bind_eq_ok.1 hd
      obtain ⟨e, he, hd⟩ := bind_eq_ok.1 hd
      cases hd
      have on := resolve_everywhere h (denote_everywhere h plain of ho) hr
      exact callMethod_everywhere h plain (exprs_everywhere h plain args hes) on he
  | .call (.lit _) _ | .call (.call _ _) _ | .call (.binary _ _ _) _ | .call (.unary _ _) _
  | .call (.array _) _ => cases hd
  | .binary op left right =>
    rw [denote] at hd
    obtain ⟨dl, hdl, hd⟩ := bind_eq_ok.1 hd
    obtain ⟨l, hl, hd⟩ := bind_eq_ok.1 hd
    obtain ⟨dr, hdr, hd⟩ := bind_eq_ok.1 hd
    obtain ⟨r, hr, hd⟩ := bind_eq_ok.1 hd
    obtain ⟨e, he, hd⟩ := bind_eq_ok.1 hd
    cases hd
    exact op.everywhere_combine h (resolve_everywhere h (denote_everywhere h plain left hdl) hl)
      (resolve_everywhere h (denote_everywhere h plain right hdr) hr) he
  | .unary op operand =>
    rw [denote] at hd
    obtain ⟨o, ho, hd⟩ := bind_eq_ok.1 hd
    obtain ⟨on, hon, hd⟩ := bind_eq_ok.1 hd
    obtain ⟨e, he, hd⟩ := bind_eq_ok.1 hd
    cases hd
    exact op.everywhere_apply h (resolve_everywhere h (denote_everywhere h plain operand ho) hon) he
  | .array items =>
    rw [denote] at hd
    obtain ⟨vs, -, hd⟩ := bind_eq_ok.1 hd
    cases hd
    exact h.everywhere_lit _

/-- The arguments of a call, one after the other. -/
theorem exprs_everywhere (h : scope.resolver.Upholds P) (plain : scope.handlers = [])
    (ts : List Term) {es : List Expr} (hes : scope.exprs ts = .ok es) :
    ∀ e ∈ es, Everywhere P (.expr e) := by
  match ts with
  | [] =>
    rw [exprs] at hes
    cases hes
    simp
  | t :: ts =>
    rw [exprs] at hes
    obtain ⟨d, hd, hes⟩ := bind_eq_ok.1 hes
    obtain ⟨e, he, hes⟩ := bind_eq_ok.1 hes
    obtain ⟨others, ho, hes⟩ := bind_eq_ok.1 hes
    cases hes
    have first := resolve_everywhere h (denote_everywhere h plain t hd) he
    exact List.forall_mem_cons.2 ⟨first, exprs_everywhere h plain ts ho⟩

end

theorem expr_everywhere (h : scope.resolver.Upholds P) (plain : scope.handlers = []) {t : Term}
    {e : Expr} (he : scope.expr t = .ok e) : Everywhere P (.expr e) := by
  obtain ⟨d, hd, he⟩ := bind_eq_ok.1 he
  exact resolve_everywhere h (denote_everywhere h plain t hd) he

end Scope

/-- **The expression of a closure** has at every node what the resolver upholds. -/
theorem parse_everywhere (h : r.Upholds P) {source : String} {bindings : List (String × Json)}
    {e : Expr} (he : parse source ⟨r, bindings, []⟩ = .ok e) : Everywhere P (.expr e) := by
  obtain ⟨closure, -, he⟩ := bind_eq_ok.1 he
  exact Scope.expr_everywhere h rfl he

end Sift.Lambda
