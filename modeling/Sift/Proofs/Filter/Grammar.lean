import Sift.Filter.Parser

/-!
# The grammar of filters

What each phrase of a filter is made of, apart from how it is read. A phrase has a value, which is
built by the actions of its constructs from the values of its parts.

* `Phrase`: the kinds of phrases, from disjunctions down to operands.
* `Derives`: a list of tokens is a phrase with a value.
-/

namespace Sift.Filter

open Text

/-- The kinds of phrases. A run is a list of operands with operators of one level between them,
and may be a single operand. -/
inductive Phrase where
  | run (level : Level)
  | negation
  | comparison
  | primary
  deriving DecidableEq

namespace Level

/-- The operands of a run. -/
def operand : Level → Phrase
  | .disjunction => .run .conjunction
  | .conjunction => .negation
  | .sum => .run .product
  | .product => .primary

/-- The operators of a run. -/
def operators : Level → List (String × Operator)
  | .disjunction => [("or", .connective .or)]
  | .conjunction => [("and", .connective .and)]
  | .sum => [("add", .arith .add), ("sub", .arith .sub)]
  | .product => [("mul", .arith .mul), ("div", .arith .div), ("mod", .arith .mod)]

end Level

/-- The operators between the sides of a comparison. -/
def comparisonOperators : List (String × Comparison) :=
  [("eq", .eq), ("ne", .ne), ("lt", .lt), ("le", .le), ("gt", .gt), ("ge", .ge)]

/-- The names that a path stands for: the range variable in front stands for nothing. -/
def pathNames (first : String) (others : List String) : List String :=
  if first = "$it" then others else first :: others

/-- A list of tokens is a phrase with a value. Runs associate to the left: a run and one more
operand are a run. A comparison has at most one operator. -/
inductive Derives {α : Type} (actions : Actions α) : Phrase → List Token → α → Prop where
  | operand {level : Level} {ts : List Token} {x : α} (h : Derives actions level.operand ts x) :
      Derives actions (.run level) ts x
  | joined {level : Level} {ts us : List Token} {x y : α} {s : String} {op : Operator}
      (left : Derives actions (.run level) ts x) (hs : (s, op) ∈ level.operators)
      (right : Derives actions level.operand us y) :
      Derives actions (.run level) (ts ++ .name s :: us) (op.apply actions x y)
  | not {ts : List Token} {x : α} (h : Derives actions .negation ts x) :
      Derives actions .negation (.name "not" :: ts) (actions.negate x)
  | comparison {ts : List Token} {x : α} (h : Derives actions .comparison ts x) :
      Derives actions .negation ts x
  | sum {ts : List Token} {x : α} (h : Derives actions (.run .sum) ts x) :
      Derives actions .comparison ts x
  | compared {ts us : List Token} {x y : α} {s : String} {op : Comparison}
      (left : Derives actions (.run .sum) ts x) (hs : (s, op) ∈ comparisonOperators)
      (right : Derives actions (.run .sum) us y) :
      Derives actions .comparison (ts ++ .name s :: us) (actions.compare op x y)
  | literal (l : Literal) : Derives actions .primary [.literal l] (actions.literal l.toJson)
  | parentheses {ts : List Token} {x : α} (h : Derives actions (.run .disjunction) ts x) :
      Derives actions .primary (.sign .open_ :: (ts ++ [.sign .close])) x
  | call {s : String} {args : List (List Token × α)} {x : α} (hs : s ∉ keywords)
      (h : ∀ a ∈ args, Derives actions (.run .disjunction) a.1 a.2)
      (hx : actions.call s (args.map Prod.snd) = .ok x) :
      Derives actions .primary
        (.name s :: .sign .open_ ::
          ([Token.sign .comma].intercalate (args.map Prod.fst) ++ [.sign .close])) x
  | path {s : String} {others : List String} {x : α} (hs : s ∉ keywords)
      (hne : pathNames s others ≠ [])
      (hx : actions.member (joinWith "." (pathNames s others)) = .ok x) :
      Derives actions .primary (((s :: others).map Token.name).intersperse (.sign .slash)) x

/-! ### The tokens of operators -/

/-- The tokens of operators, level by level, are those of the grammar. -/
theorem Level.operator?_eq_some_iff {level : Level} {t : Token} {op : Operator} :
    level.operator? t = some op ↔ ∃ s, t = .name s ∧ (s, op) ∈ level.operators := by
  constructor
  · intro h
    unfold operator? at h
    split at h <;> cases h <;> exact ⟨_, rfl, by simp [operators]⟩
  · rintro ⟨s, rfl, h⟩
    cases level <;> simp only [operators, List.mem_cons, Prod.mk.injEq, List.not_mem_nil, or_false]
      at h
    · obtain ⟨rfl, rfl⟩ := h; rfl
    · obtain ⟨rfl, rfl⟩ := h; rfl
    · rcases h with ⟨rfl, rfl⟩ | ⟨rfl, rfl⟩ <;> rfl
    · rcases h with ⟨rfl, rfl⟩ | ⟨rfl, rfl⟩ | ⟨rfl, rfl⟩ <;> rfl

/-- The tokens that compare are those of the grammar. -/
theorem comparison?_eq_some_iff {t : Token} {op : Comparison} :
    comparison? t = some op ↔ ∃ s, t = .name s ∧ (s, op) ∈ comparisonOperators := by
  constructor
  · intro h
    unfold comparison? at h
    split at h <;> cases h <;> exact ⟨_, rfl, by simp [comparisonOperators]⟩
  · rintro ⟨s, rfl, h⟩
    simp only [comparisonOperators, List.mem_cons, Prod.mk.injEq, List.not_mem_nil, or_false] at h
    rcases h with ⟨rfl, rfl⟩ | ⟨rfl, rfl⟩ | ⟨rfl, rfl⟩ | ⟨rfl, rfl⟩ | ⟨rfl, rfl⟩ | ⟨rfl, rfl⟩ <;>
      rfl

end Sift.Filter
