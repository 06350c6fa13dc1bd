import Sift.Lambda.Parser
import Sift.Proofs.Steps

/-!
# The grammar of terms

What terms are made of, apart from how they are read. A phrase has a rank: that of the level of its
binary operators, 10 where it is an operand of these with unary operators in front, and 11 where it
is a name, a constant, a list, an access or a call.

* `Derives`: a list of tokens is a phrase of a rank, with its term.
* `Ends`: what may follow a phrase without being taken into it.
* `Begins`: how a phrase begins.
-/

namespace Sift.Lambda

open Number

/-- Phrases with commas between them. -/
def listed (args : List (List Token × Term)) : List Token :=
  [Token.punct ","].intercalate (args.map Prod.fst)

/-- One argument is listed without a comma, and more with commas between them. -/
theorem listed_one (a : List Token × Term) : listed [a] = a.1 := by
  simp [listed, List.intercalate]

theorem listed_more (a b : List Token × Term) (args : List (List Token × Term)) :
    listed (a :: b :: args) = a.1 ++ .punct "," :: listed (b :: args) := by
  rw [listed, List.map_cons, List.map_cons, List.intercalate_cons_cons, ← List.map_cons,
    List.append_assoc]
  rfl

/-- A list of tokens is a phrase of a rank, with a term. Binary operators associate to the left:
the left side of an operator may be of its level, and the right side binds tighter. -/
inductive Derives : Nat → List Token → Term → Prop where
  | operand {level : Nat} {ts : List Token} {x : Term} (h : level < Operator.levels)
      (inner : Derives (level + 1) ts x) : Derives level ts x
  | joined {level : Nat} {ts us : List Token} {t : Token} {x y : Term} {op : Operator}
      (left : Derives level ts x) (ht : t.operator? level = some op)
      (right : Derives (level + 1) us y) : Derives level (ts ++ t :: us) (.binary op x y)
  | unary {ts : List Token} {t : Token} {x : Term} {op : Unary} (ht : t.unary? = some op)
      (operand : Derives 10 ts x) : Derives 10 (t :: ts) (.unary op x)
  | access {ts : List Token} {x : Term} (inner : Derives 11 ts x) : Derives 10 ts x
  | name {s : String} {x : Term} (hs : (Token.name s).unary? = none) (hx : termOfName s = .ok x) :
      Derives 11 [.name s] x
  | number {x : Float} {v : Json} (hv : constant? x = some v) : Derives 11 [.number x] (.lit v)
  | text (s : String) : Derives 11 [.text s] (.lit (.str s))
  | parentheses {ts : List Token} {x : Term} (inner : Derives 0 ts x) :
      Derives 11 (.punct "(" :: (ts ++ [.punct ")"])) x
  | array {args : List (List Token × Term)} (items : ∀ a ∈ args, Derives 0 a.1 a.2) :
      Derives 11 (.punct "[" :: (listed args ++ [.punct "]"])) (.array (args.map Prod.snd))
  | property {ts : List Token} {x : Term} (s : String) (of : Derives 11 ts x) :
      Derives 11 (ts ++ [.punct ".", .name s]) (.member x s)
  | key {ts : List Token} {x : Term} (s : String) (of : Derives 11 ts x) :
      Derives 11 (ts ++ [.punct "[", .text s, .punct "]"]) (.member x s)
  | call {ts : List Token} {x : Term} {args : List (List Token × Term)} (callee : Derives 11 ts x)
      (items : ∀ a ∈ args, Derives 0 a.1 a.2) :
      Derives 11 (ts ++ .punct "(" :: (listed args ++ [.punct ")"])) (.call x (args.map Prod.snd))

/-- A phrase of a rank is one of every looser rank. -/
theorem Derives.loosen {r s : Nat} {ts : List Token} {x : Term} (h : Derives s ts x) (hr : r ≤ s)
    (hs : s ≤ 11) : Derives r ts x := by
  obtain ⟨k, rfl⟩ := Nat.exists_eq_add_of_le hr
  -- one rank at a time, from the tightest on
  induction k generalizing r with
  | zero => exact h
  | succ k ih =>
    have tighter : Derives (r + 1) ts x := by
      refine ih ?_ (Nat.le_add_right _ _) ?_
      · rwa [Nat.add_right_comm]
      · omega
    by_cases binary : r < Operator.levels
    · exact .operand binary tighter
    · have last : r = 10 := by
        unfold Operator.levels at binary
        omega
      subst last
      exact .access tighter

variable {ts us rest : List Token} {t : Token} {x y : Term} {rank : Nat}

/-! ### What may follow a phrase -/

/-- The rank of the tightest phrases that a token behind them would be taken into. -/
def Token.binding (t : Token) : Nat :=
  match t.spelling?.bind Operator.ofSymbol?, t with
  | some op, _ => op.level + 1
  | none, .punct s => if s = "." ∨ s = "[" ∨ s = "(" then 12 else if s = "?" ∨ s = "=" then 1 else 0
  | none, _ => 0

/-- What may follow a phrase without being taken into it. -/
def Ends (rank : Nat) (rest : List Token) : Prop :=
  ∀ t, rest.head? = some t → t.binding ≤ rank

theorem ends_nil : Ends rank [] := fun _ h => by cases h

/-- A token that binds no more tightly than a phrase ends it. -/
theorem ends_cons (h : t.binding ≤ rank) : Ends rank (t :: rest) := fun _ ht => by
  cases ht
  exact h

/-- What ends a phrase ends one of a higher rank. -/
theorem Ends.mono {r : Nat} (h : Ends rank rest) (hr : rank ≤ r) : Ends r rest := fun t ht =>
  Nat.le_trans (h t ht) hr

/-- An operator binds more tightly than the operands on its left by one. -/
theorem binding_of_operator? {op : Operator} (h : t.operator? rank = some op) :
    t.binding = rank + 1 := by
  obtain ⟨ho, hl⟩ := Option.filter_eq_some_iff.1 h
  unfold Token.binding
  rw [ho]
  exact congrArg (· + 1) (beq_iff_eq.1 hl)

theorem Operator.level_lt (op : Operator) : op.level < levels := by
  cases op <;> decide

/-- Operators are on one of the levels. -/
theorem level_lt_of_operator? {op : Operator} (h : t.operator? rank = some op) :
    rank < Operator.levels := by
  have level := beq_iff_eq.1 (Option.filter_eq_some_iff.1 h).2
  rw [← level]
  exact op.level_lt

/-- What ends a phrase is no operator of its level. -/
theorem Ends.operator?_eq_none (h : Ends rank (t :: rest)) : t.operator? rank = none := by
  cases ht : t.operator? rank with
  | none => rfl
  | some op =>
    have := h t rfl
    rw [binding_of_operator? ht] at this
    omega

/-- A punctuator that would be taken in does not follow. -/
theorem Ends.head?_ne {s : String} (h : Ends rank rest) (hs : rank < (Token.punct s).binding) :
    rest.head? ≠ some (.punct s) := fun ht => absurd (h _ ht) (Nat.not_le.2 hs)

/-! ### How phrases begin -/

/-- Punctuators that no phrase begins with. -/
def closers : List String := [")", "]", "\x7b", "\x7d", ";"]

/-- A beginning of a phrase: nothing that closes something, and a unary operator only where the
phrase may have one. -/
def Begins (rank : Nat) (ts : List Token) : Prop :=
  ∃ t us, ts = t :: us ∧ (∀ s ∈ closers, t ≠ .punct s) ∧ (rank = 11 → t.unary? = none)

/-- How tokens begin does not depend on what follows them. -/
theorem Begins.append (h : Begins rank ts) (us : List Token) : Begins rank (ts ++ us) := by
  obtain ⟨t, vs, rfl, hc, hn⟩ := h
  exact ⟨t, vs ++ us, rfl, hc, hn⟩

/-- A phrase with unary operators in front may begin as one without them. -/
theorem Begins.loosen {r : Nat} (h : Begins rank ts) (hr : r ≠ 11) : Begins r ts := by
  obtain ⟨t, vs, rfl, hc, -⟩ := h
  exact ⟨t, vs, rfl, hc, fun h => absurd h hr⟩

/-- No phrase begins with what closes one. -/
theorem Begins.head?_ne {s : String} (h : Begins rank ts) (hs : s ∈ closers) :
    ts.head? ≠ some (.punct s) := by
  obtain ⟨t, us, rfl, hc, -⟩ := h
  intro ht
  exact hc s hs (Option.some.inj ht)

/-- What closes a phrase is no unary operator. -/
theorem unary?_eq_none_of_closer {s : String} (hs : s ∈ closers) :
    (Token.punct s).unary? = none := by
  simp only [closers, List.mem_cons, List.not_mem_nil, or_false] at hs
  rcases hs with rfl | rfl | rfl | rfl | rfl <;> rfl

theorem begins_punct {s : String} (hs : s ∉ closers) (hn : (Token.punct s).unary? = none) :
    Begins rank (.punct s :: ts) := by
  refine ⟨_, _, rfl, fun c hc h => ?_, fun _ => hn⟩
  cases h
  exact hs hc

/-- Every phrase begins with a token that tells that it is one. -/
theorem Derives.begins (h : Derives rank ts x) : Begins rank ts := by
  induction h with
  | @operand level ts x h inner ih =>
    have tight : level ≠ 11 := by
      unfold Operator.levels at h
      omega
    exact ih.loosen tight
  | joined left ht right ihl ihr => exact ihl.append _
  | unary ht operand ih =>
    -- no punctuator that closes something is a unary operator
    refine ⟨_, _, rfl, fun s hs h => ?_, fun h => absurd h (by decide)⟩
    rw [h, unary?_eq_none_of_closer hs] at ht
    cases ht
  | access inner ih => exact ih.loosen (by decide)
  | name hs hx => exact ⟨_, _, rfl, by simp, fun _ => hs⟩
  | number hv => exact ⟨_, _, rfl, by simp, fun _ => rfl⟩
  | text s => exact ⟨_, _, rfl, by simp, fun _ => rfl⟩
  | parentheses inner ih => exact begins_punct (by decide) rfl
  | array items ih => exact begins_punct (by decide) rfl
  | property s of ih => exact ih.append _
  | key s of ih => exact ih.append _
  | call callee items ihc ihi => exact ihc.append _

end Sift.Lambda
