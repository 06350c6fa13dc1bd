import Sift.Proofs.Arithmetic
import Sift.Proofs.Lambda.Closures
import Sift.Proofs.Lambda.Meaning
import Sift.Proofs.Notation.Tree

/-!
# Trees as closures

The words of a tree are the body of a closure, which stands for the expression of the tree.

* `Shared.closureKnown`: the words are words of closures.
* `Shared.derivesTerm`: their tokens are a phrase of the grammar, with the term of the tree.
* `Shared.expr_term`: the term has the expression of the tree.
* `Shared.parse_closure`: a text of the words is read as the expression.
-/

namespace Sift.Notation

open Text Number Lambda

namespace Tree

/-! ### Words are known -/

/-- An operation in parentheses has known words if its operands do: the parentheses and the operator
are punctuators. -/
theorem known_operation {ws vs : List Word} {s : String} (left : ∀ w ∈ ws, w.Known)
    (hs : s ∈ punctuators) (right : ∀ w ∈ vs, w.Known) :
    ∀ w ∈ Lambda.enclosed (ws ++ .punct s :: vs), w.Known := by
  refine Lambda.known_enclosed ?_
  rw [List.forall_mem_append, List.forall_mem_cons]
  exact ⟨left, hs, right⟩

/-- The words of arguments are their own and commas. -/
theorem known_arguments {ts : List Tree} (h : ∀ t ∈ ts, ∀ w ∈ t.closureWords, w.Known) :
    ∀ w ∈ argumentWords ts, w.Known := by
  induction ts with
  | nil => simp [argumentWords]
  | cons t ts ih =>
    rw [List.forall_mem_cons] at h
    cases ts with
    | nil => simpa [argumentWords] using h.1
    | cons u ts =>
      rw [argumentWords, List.forall_mem_append, List.forall_mem_cons]
      exact ⟨h.1, by decide, ih h.2⟩

/-- **The words of a tree** are words of closures. -/
theorem Shared.closureKnown {t : Tree} (h : t.Shared) : ∀ w ∈ t.closureWords, w.Known := by
  induction h with
  | @int n h =>
    unfold closureWords
    split
    · refine Lambda.known_enclosed ?_
      rw [List.forall_mem_cons, List.forall_mem_singleton]
      exact ⟨by decide, trivial⟩
    · exact List.forall_mem_singleton.2 trivial
  | str s => exact List.forall_mem_singleton.2 trivial
  | bool b => cases b <;> exact List.forall_mem_singleton.2 (by decide)
  | null => exact List.forall_mem_singleton.2 (by decide)
  | member h =>
    rw [closureWords, List.forall_mem_cons]
    refine ⟨by decide, fun w hw => ?_⟩
    obtain ⟨s, hs, hw⟩ := List.mem_flatMap.1 hw
    rw [List.mem_cons, List.mem_singleton] at hw
    rcases hw with rfl | rfl
    · decide
    · exact (h s hs).1
  | arith op left right ihl ihr => exact known_operation ihl (by cases op <;> decide) ihr
  | compare op left right h ihl ihr => exact known_operation ihl (by cases op <;> decide) ihr
  | connect op left right ihl ihr => exact known_operation ihl (by cases op <;> decide) ihr
  | not operand ih => exact Lambda.known_enclosed (List.forall_mem_cons.2 ⟨by decide, ih⟩)
  | call method receiver args h iht iha =>
    have name : (Word.name method.name).Known := by cases method <;> decide
    rw [closureWords, List.forall_mem_append, List.forall_mem_append, List.forall_mem_cons,
      List.forall_mem_singleton]
    exact ⟨⟨iht, by decide, name⟩, Lambda.known_enclosed (known_arguments iha)⟩

/-! ### Words are phrases -/

/-- An operation in parentheses is an operand again, so the precedence of its operator has no part
in it. -/
theorem derives_operation {ws vs : List Word} {x y : Term} (op : Lambda.Operator)
    (word : op.word = .punct op.symbol) (left : Derives 11 (tokens ws) x)
    (right : Derives 11 (tokens vs) y) :
    Derives 11 (tokens (Lambda.enclosed (ws ++ .punct op.symbol :: vs))) (.binary op x y) := by
  have tight : op.level + 1 ≤ 11 := Nat.succ_le_succ (Nat.le_of_lt op.level_lt)
  have whole := Derives.joined (left.loosen (Nat.le_of_succ_le tight) (Nat.le_refl _))
    (operator?_word op) (right.loosen tight (Nat.le_refl _))
  refine Lambda.derives_enclosed ?_
  rw [tokens_append, tokens_cons, ← word]
  exact whole.loosen (Nat.zero_le _) (Nat.le_of_succ_le tight)

/-- Segments behind a phrase lead further into the member that it denotes. -/
theorem derives_path (segments : List String) {ts : List Token} {x : Term} (h : Derives 11 ts x) :
    Derives 11 (ts ++ tokens (segments.flatMap fun s => [.punct ".", .name s]))
      (segments.foldl .member x) := by
  induction segments generalizing ts x with
  | nil => simpa using h
  | cons s segments ih =>
    have whole := ih (h.property s)
    simpa [Word.token] using whole

theorem terms_eq_map (ts : List Tree) : terms ts = ts.map term := by
  induction ts with
  | nil => rfl
  | cons t ts ih => rw [terms, ih, List.map_cons]

/-- Written arguments are a list of phrases as the grammar of calls has it. -/
theorem tokens_arguments (ts : List Tree) :
    tokens (argumentWords ts) = listed (ts.map fun t => (tokens t.closureWords, t.term)) := by
  induction ts with
  | nil => rfl
  | cons t ts ih =>
    cases ts with
    | nil => simp [argumentWords, listed_one]
    | cons u ts =>
      rw [argumentWords, tokens_append, tokens_cons, ih, List.map_cons, List.map_cons,
        List.map_cons, listed_more]
      rfl

/-- A number as small as those of the trees has a float of its own, and reads as the integer. -/
theorem derives_natural {n : Nat} (h : n < 2 ^ 31) :
    Derives 11 [(Word.number n).token] (.lit (.int n)) :=
  derives_constant (.int (Nat.lt_trans h (by decide)))

/-- **The words of a tree** are a phrase, with the term of the tree. -/
theorem Shared.derivesTerm {t : Tree} (h : t.Shared) :
    Derives 11 (tokens t.closureWords) t.term := by
  induction h with
  | @int n h =>
    unfold closureWords term
    split
    · -- a negative constant is an operator in parentheses, since no token is negative
      have minus : Derives 10 (tokens [.punct "-", .number n.natAbs])
          (.unary .minus (.lit (.int n.natAbs))) :=
        .unary rfl ((derives_natural h).loosen (Nat.le_succ _) (Nat.le_refl _))
      exact Lambda.derives_enclosed (minus.loosen (Nat.zero_le _) (Nat.le_succ _))
    · exact derives_natural h
  | str s => exact .text s
  | bool b => cases b <;> exact .name rfl rfl
  | null => exact .name rfl rfl
  | @member first others h =>
    have parameter : Derives 11 [.name "x"] (.name "x") := .name rfl rfl
    exact derives_path (first :: others) parameter
  | arith op left right ihl ihr =>
    exact derives_operation (arithOperator op) (by cases op <;> rfl) ihl ihr
  | compare op left right h ihl ihr =>
    exact derives_operation op.operator (by cases op <;> rfl) ihl ihr
  | connect op left right ihl ihr =>
    exact derives_operation (connectiveOperator op) (by cases op <;> rfl) ihl ihr
  | not operand ih =>
    have negation : Derives 10 (tokens (.punct "!" :: _)) (.unary .not _) :=
      .unary rfl (ih.loosen (Nat.le_succ _) (Nat.le_refl _))
    exact Lambda.derives_enclosed (negation.loosen (Nat.zero_le _) (Nat.le_succ _))
  | @call t ts method receiver args h iht iha =>
    have items : ∀ a ∈ ts.map fun u => (tokens u.closureWords, u.term), Derives 0 a.1 a.2 := by
      rw [List.forall_mem_map]
      exact fun u hu => (iha u hu).loosen (Nat.zero_le _) (Nat.le_refl _)
    have whole := Derives.call (iht.property method.name) items
    rw [List.map_map, ← tokens_arguments] at whole
    have terms : ts.map (Prod.snd ∘ fun u => (tokens u.closureWords, u.term)) = terms ts :=
      (terms_eq_map ts).symm
    rw [terms] at whole
    simpa [closureWords, Lambda.enclosed, term, Word.token] using whole

/-! ### Terms mean expressions -/

/-- The scope of a closure with the parameter `x`, with members and methods as they are. -/
def plainScope : Scope :=
  { resolver := .identity, bindings := [], handlers := [], parameter := "x" }

section

variable {x : Term} {d : Expr}

/-- Arguments mean what they stand for, one after the other. -/
theorem exprs_terms {ts : List Tree} (h : ∀ t ∈ ts, plainScope.expr t.term = .ok t.expr) :
    plainScope.exprs (terms ts) = .ok (exprs ts) := by
  induction ts with
  | nil => rfl
  | cons t ts ih =>
    rw [List.forall_mem_cons] at h
    exact Scope.exprs_cons h.1 (ih h.2)

/-- A path from the parameter may still go on. -/
theorem denote_path (segments : List String) {done : List String}
    (h : plainScope.denote x = .ok (.path done)) :
    plainScope.denote (segments.foldl .member x) = .ok (.path (done ++ segments)) := by
  induction segments generalizing x done with
  | nil => simpa using h
  | cons s segments ih =>
    have step : plainScope.denote (.member x s) = .ok (.path (done ++ [s])) := by
      rw [Scope.denote, h]
      rfl
    simpa using ih step

/-- A path from the parameter is the member of its segments. -/
theorem expr_member {first : String} {others : List String}
    (h : ∀ s ∈ first :: others, Segment s) :
    plainScope.expr (Tree.member first others).term = .ok (Tree.member first others).expr := by
  have parameter : plainScope.denote (.name "x") = .ok (.path []) := rfl
  have path : plainScope.denote (Tree.member first others).term = .ok (.path (first :: others)) :=
    denote_path (first :: others) parameter
  rw [Scope.expr, path, ok_bind, Scope.resolve, Scope.resolvePath]
  split
  · next empty => exact absurd (List.getLast?_eq_none_iff.1 empty) (List.cons_ne_nil _ _)
  · next last final =>
    have segment := h last (List.mem_of_getLast? final)
    have other : last ≠ "length" := by
      rintro rfl
      exact segment.2 (by decide)
    rw [if_neg fun length => other length.1]
    rfl

/-- A call of a method on what is no constant is a call of its function. -/
theorem expr_call (method : Method) {args : List Term} {es : List Expr}
    (notLit : ∀ v, d ≠ .lit v) (receiver : plainScope.expr x = .ok d)
    (items : plainScope.exprs args = .ok es) :
    plainScope.expr (.call (.member x method.name) args) =
      .ok (.call method.function (d :: es)) := by
  have name : methodName? method.name = .some method.function := by cases method <;> rfl
  have whole : method.name ≠ "substring" := by cases method <;> decide
  rw [Scope.expr_general rfl name notLit receiver items, partArguments_eq whole]
  rfl

end

/-- A negative integer is what zero without its size is folded to. -/
theorem negated {n : Int} (h : n.natAbs < 2 ^ 31) (negative : n < 0) :
    Expr.arithmetic (.lit (.int 0)) .sub (.lit (.int n.natAbs)) = .lit (.int n) := by
  have difference : 0 - (n.natAbs : Int) = n := by omega
  have size : Json.inSigned n.natAbs = true := Json.inSigned_iff.2 (by omega)
  have fits : Json.inSigned n = true := Json.inSigned_iff.2 (by omega)
  have exact : Arith.sub.Exact 0 n.natAbs n := by
    have exact := @Arith.Exact.sub 0 n.natAbs
    rwa [difference] at exact
  have result : Arith.sub.integer? 0 n.natAbs = some n :=
    (Arith.integer?_eq_some_iff .sub (by decide) size).2 ⟨exact, fits, by rintro ⟨⟨⟩, -⟩⟩
  rw [Expr.arithmetic, Arith.compute?_int .sub (by decide) size, result]
  rfl

/-- **The term of a tree** has the expression of the tree. -/
theorem Shared.expr_term {t : Tree} (h : t.Shared) : plainScope.expr t.term = .ok t.expr := by
  induction h with
  | @int n h =>
    unfold term expr
    split
    · -- the minus is computed, and gives the constant back
      next negative =>
      rw [Scope.expr_unary .minus (d := .lit (.int n.natAbs)) rfl]
      exact congrArg Except.ok (negated h negative)
    · next natural =>
      have same : (n.natAbs : Int) = n := by omega
      rw [same]
      rfl
  | str s => rfl
  | bool b => rfl
  | null => rfl
  | member h => exact expr_member h
  | arith op left right ihl ihr =>
    rw [term, Scope.expr_binary _ ihl ihr]
    cases op <;> rfl
  | compare op left right h ihl ihr =>
    rw [term, Scope.expr_binary _ ihl ihr]
    cases op <;> rfl
  | connect op left right ihl ihr =>
    rw [term, Scope.expr_binary _ ihl ihr]
    cases op <;> rfl
  | not operand ih =>
    rw [term, Scope.expr_unary _ ih]
    rfl
  | call method receiver args h iht iha =>
    exact expr_call method (receiver.expr_ne_lit h) iht (exprs_terms iha)

/-- **A text of the words of a tree**, behind a parameter and an arrow, is a closure for the
expression of the tree. -/
theorem Shared.parse_closure {t : Tree} (h : t.Shared) {source : String}
    (spelled : Lambda.vocabulary.spells (.name "x" :: .punct "=>" :: t.closureWords)
      source.toList = true) :
    Lambda.parse source ⟨.identity, [], []⟩ = .ok t.expr := by
  have phrase : Derives 0 (tokens t.closureWords) t.term :=
    h.derivesTerm.loosen (Nat.zero_le _) (Nat.le_refl _)
  have closure : Closure.parse source = .ok ⟨"x", t.term⟩ :=
    parse_spelled h.closureKnown (by decide) (by decide) phrase spelled
  rw [parse_eq closure]
  exact h.expr_term

end Tree

end Sift.Notation
