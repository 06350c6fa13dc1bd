import Sift.Proofs.Filter.Soundness

/-!
# Every phrase is read

A phrase in front of anything that does not go on with it is read as itself, with its value.

* `Phrase.Ends`: what may follow a phrase without belonging to it.
* `Completes`: what reading a phrase of some kind does, whatever follows.
* `complete`: every phrase is read.
* `parseTokens_eq_ok_iff`: a whole list of tokens is accepted exactly if it is a disjunction.
* `accepted_iff_derives`: the expressions that filters stand for; `derives_comparison_iff`: which of
  them are comparisons, and when the sides of these change.
-/

namespace Sift.Filter

open Text

variable {α : Type} {actions : Actions α} {p q : Phrase} {ts us rest : List Token} {t : Token}
  {x : α}

/-- The place of a phrase among the kinds, from the loosest to the tightest. -/
def Phrase.rank : Phrase → Nat
  | .run .disjunction => 1
  | .run .conjunction => 2
  | .negation => 3
  | .comparison => 4
  | .run .sum => 5
  | .run .product => 6
  | .primary => 7

/-- The tightest phrases that a token behind them would be taken into. -/
def Token.binding : Token → Nat
  | .name "or" => 1
  | .name "and" => 2
  | .name "eq" => 4
  | .name "ne" => 4
  | .name "lt" => 4
  | .name "le" => 4
  | .name "gt" => 4
  | .name "ge" => 4
  | .name "add" => 5
  | .name "sub" => 5
  | .name "mul" => 6
  | .name "div" => 6
  | .name "mod" => 6
  | .sign .open_ => 7
  | .sign .slash => 7
  | _ => 0

/-- What may follow a phrase without being taken into it. -/
def Phrase.Ends (p : Phrase) (rest : List Token) : Prop :=
  ∀ t, rest.head? = some t → t.binding < p.rank

/-- What ends a phrase ends the tighter ones in it. -/
theorem Phrase.Ends.mono (h : p.Ends rest) (hpq : p.rank ≤ q.rank) : q.Ends rest := fun t ht =>
  Nat.lt_of_lt_of_le (h t ht) hpq

/-- A token that binds more loosely than a phrase ends it. -/
theorem Phrase.ends_cons (h : t.binding < p.rank) : p.Ends (t :: rest) := fun _ ht => by
  cases ht
  exact h

theorem Phrase.ends_close : p.Ends (.sign .close :: rest) :=
  ends_cons (by cases p with | run level => cases level <;> decide | _ => decide)

theorem Phrase.ends_comma : p.Ends (.sign .comma :: rest) :=
  ends_cons (by cases p with | run level => cases level <;> decide | _ => decide)

/-- The operands of a run bind more tightly than the run. -/
theorem Level.rank_lt_operand (level : Level) : (Phrase.run level).rank < level.operand.rank := by
  cases level <;> decide

/-- An operator binds as its level does. -/
theorem Level.binding_of_operator? {level : Level} {op : Operator}
    (h : level.operator? t = some op) : t.binding = (Phrase.run level).rank := by
  obtain ⟨s, rfl, hs⟩ := operator?_eq_some_iff.1 h
  cases level <;> simp only [operators, List.mem_cons, Prod.mk.injEq, List.not_mem_nil, or_false]
    at hs
  · obtain ⟨rfl, -⟩ := hs; rfl
  · obtain ⟨rfl, -⟩ := hs; rfl
  · rcases hs with ⟨rfl, -⟩ | ⟨rfl, -⟩ <;> rfl
  · rcases hs with ⟨rfl, -⟩ | ⟨rfl, -⟩ | ⟨rfl, -⟩ <;> rfl

/-- Operators of comparisons bind as comparisons do. -/
theorem binding_of_comparison? {op : Comparison} (h : comparison? t = some op) :
    t.binding = Phrase.comparison.rank := by
  obtain ⟨s, rfl, hs⟩ := comparison?_eq_some_iff.1 h
  simp only [comparisonOperators, List.mem_cons, Prod.mk.injEq, List.not_mem_nil, or_false] at hs
  rcases hs with ⟨rfl, -⟩ | ⟨rfl, -⟩ | ⟨rfl, -⟩ | ⟨rfl, -⟩ | ⟨rfl, -⟩ | ⟨rfl, -⟩ <;> rfl

/-- What ends a run is no operator of it. -/
theorem Phrase.Ends.operator?_eq_none {level : Level}
    (h : (Phrase.run level).Ends (t :: rest)) : level.operator? t = none := by
  cases ht : level.operator? t with
  | none => rfl
  | some op =>
    have := h t rfl
    rw [Level.binding_of_operator? ht] at this
    exact absurd this (Nat.lt_irrefl _)

/-- What ends a comparison compares nothing, so comparisons do not chain. -/
theorem Phrase.Ends.comparison?_eq_none (h : Phrase.comparison.Ends (t :: rest)) :
    comparison? t = none := by
  cases ht : comparison? t with
  | none => rfl
  | some op =>
    have := h t rfl
    rw [binding_of_comparison? ht] at this
    exact absurd this (Nat.lt_irrefl _)

/-! ### How phrases begin -/

/-- A beginning of a phrase: not a closing parenthesis, and `not` only before negations. -/
def Starts (p : Phrase) (ts : List Token) : Prop :=
  ∃ t us, ts = t :: us ∧ t ≠ .sign .close ∧ (t = .name "not" → p.rank ≤ 3)

/-- How a tighter phrase may start, a looser one may too. -/
theorem Starts.mono (h : Starts p ts) (hpq : q.rank ≤ p.rank) : Starts q ts := by
  obtain ⟨t, vs, rfl, hc, hn⟩ := h
  exact ⟨t, vs, rfl, hc, fun ht => Nat.le_trans hpq (hn ht)⟩

theorem Starts.append (h : Starts p ts) (us : List Token) : Starts p (ts ++ us) := by
  obtain ⟨t, vs, rfl, hc, hn⟩ := h
  exact ⟨t, vs ++ us, rfl, hc, hn⟩

/-- A name that is no keyword starts a phrase of any kind. -/
theorem starts_name {s : String} (hs : s ∉ keywords) : Starts p (.name s :: us) := by
  refine ⟨.name s, us, rfl, by simp, fun h => ?_⟩
  cases h
  exact absurd (by decide) hs

/-- Every phrase starts with a token that tells that it is one, so that alternatives are told apart
in front. -/
theorem Derives.starts (h : Derives actions p ts x) : Starts p ts := by
  induction h with
  | @operand level ts x h ih => exact ih.mono (Nat.le_of_lt level.rank_lt_operand)
  | joined left hs right ihl ihr => exact ihl.append _
  | not h ih => exact ⟨_, _, rfl, by simp, fun _ => by decide⟩
  | comparison h ih => exact ih.mono (by decide)
  | sum h ih => exact ih.mono (by decide)
  | compared left hs right ihl ihr => exact (ihl.mono (by decide)).append _
  | literal l => exact ⟨_, _, rfl, by simp, by simp⟩
  | parentheses h ih => exact ⟨_, _, rfl, by simp, by simp⟩
  | call hs h hx ih => exact starts_name hs
  | @path s others x hs hne hx =>
    cases others with
    | nil => exact starts_name hs
    | cons s' others => exact starts_name hs

/-! ### One construct at a time -/

/-- A run that gives a value and a rest. -/
def Gives {β : Type} (result : Except Error (Read β ts)) (y : β) (rest : List Token) : Prop :=
  ∃ h, result = .ok ⟨y, rest, h⟩

/-- A phrase that is read as itself, in front of anything that it ends at. -/
def Taken (actions : Actions α) (p : Phrase) (ts : List Token) (x : α) : Prop :=
  ∀ rest, p.Ends rest → Gives (p.read actions (ts ++ rest)) x rest

/-- A run of operands that is read as a left side, in front of anything that its last operand
ends at. What goes on with the run is still to be read. -/
def Led (actions : Actions α) (level : Level) (ts : List Token) (x : α) : Prop :=
  ∀ rest, level.operand.Ends rest →
    ∃ h, readBinary actions level (ts ++ rest) = readChain actions level ⟨x, rest, h⟩

/-- A run that is read as a left side is read as itself where no operator of it follows. -/
theorem Led.taken {level : Level} (h : Led actions level ts x) :
    Taken actions (.run level) ts x := by
  intro rest hrest
  obtain ⟨hlt, he⟩ := h rest (hrest.mono (Nat.le_of_lt level.rank_lt_operand))
  refine ⟨hlt, he.trans ?_⟩
  cases rest with
  | nil => exact readChain_nil
  | cons t rest => exact readChain_stop hrest.operator?_eq_none

/-- A single operand is a left side already. -/
theorem led_operand {level : Level} (h : Taken actions level.operand ts x) :
    Led actions level ts x := by
  intro rest hrest
  obtain ⟨hlt, he⟩ := h rest hrest
  refine ⟨hlt, ?_⟩
  rw [readBinary, readOperand_eq, he]
  rfl

/-- A left side with one more operand is a left side again, which makes runs associate to the left.
-/
theorem led_joined {level : Level} {s : String} {op : Operator} {y : α}
    (left : Led actions level ts x) (hs : (s, op) ∈ level.operators)
    (right : Taken actions level.operand us y) :
    Led actions level (ts ++ .name s :: us) (op.apply actions x y) := by
  intro rest hrest
  have hop : level.operator? (.name s) = some op := Level.operator?_eq_some_iff.2 ⟨s, rfl, hs⟩
  have ends : level.operand.Ends (.name s :: (us ++ rest)) :=
    Phrase.ends_cons (Level.binding_of_operator? hop ▸ level.rank_lt_operand)
  obtain ⟨hlt, hl⟩ := left _ ends
  obtain ⟨hlt', hr⟩ := right rest hrest
  rw [List.append_assoc, List.cons_append]
  refine ⟨length_lt_of_cons_lt hlt hlt', hl.trans ?_⟩
  rw [readChain_step hop, readOperand_eq, hr]
  rfl

/-- A negation reads what is behind it. -/
theorem taken_not (h : Taken actions .negation ts x) :
    Taken actions .negation (.name "not" :: ts) (actions.negate x) := by
  intro rest hrest
  obtain ⟨hlt, he⟩ : Gives (readNegation actions (ts ++ rest)) x rest := h rest hrest
  have step : readNegation actions (.name "not" :: (ts ++ rest)) =
      .ok ⟨actions.negate x, rest, Nat.lt_succ_of_lt hlt⟩ := by
    rw [readNegation, he]
    rfl
  exact ⟨_, step⟩

/-- Without a negation in front, a comparison is read; its start tells. -/
theorem taken_negation (h : Taken actions .comparison ts x) (hs : Starts .comparison ts) :
    Taken actions .negation ts x := by
  intro rest hrest
  obtain ⟨t, us, rfl, -, hn⟩ := hs
  -- no comparison begins with `not`, which would be read as a negation
  have step : readNegation actions (t :: (us ++ rest)) =
      readComparison actions (t :: (us ++ rest)) := by
    rw [readNegation]
    intro vs hvs
    cases hvs
    exact absurd (hn rfl) (by decide)
  obtain ⟨hlt, he⟩ := h rest (hrest.mono (by decide))
  exact ⟨hlt, step.trans he⟩

/-- A sum that nothing is compared with is read alone. -/
theorem taken_sum (h : Taken actions (.run .sum) ts x) : Taken actions .comparison ts x := by
  intro rest hrest
  obtain ⟨hlt, he⟩ := h rest (hrest.mono (by decide))
  refine ⟨hlt, ?_⟩
  cases rest with
  | nil => exact readComparison_nil he
  | cons t rest => exact readComparison_stop he hrest.comparison?_eq_none

/-- The two sides of a comparison are read, and nothing may be compared with it again. -/
theorem taken_compared {s : String} {op : Comparison} {y : α}
    (left : Taken actions (.run .sum) ts x) (hs : (s, op) ∈ comparisonOperators)
    (right : Taken actions (.run .sum) us y) :
    Taken actions .comparison (ts ++ .name s :: us) (actions.compare op x y) := by
  intro rest hrest
  have hop : comparison? (.name s) = some op := comparison?_eq_some_iff.2 ⟨s, rfl, hs⟩
  have ends : (Phrase.run .sum).Ends (.name s :: (us ++ rest)) :=
    Phrase.ends_cons (binding_of_comparison? hop ▸ by decide)
  obtain ⟨hlt, hl⟩ := left _ ends
  obtain ⟨hlt', hr⟩ : Gives (readBinary actions .sum (us ++ rest)) y rest :=
    right rest (hrest.mono (by decide))
  -- a second operator behind the right side would be a fault
  have last : ¬ (rest.head?.bind comparison?).isSome := by
    cases rest with
    | nil => simp
    | cons t rest => simp [hrest.comparison?_eq_none]
  rw [List.append_assoc, List.cons_append]
  refine ⟨length_lt_of_cons_lt hlt hlt', (readComparison_step hl hop).trans ?_⟩
  rw [hr]
  exact if_neg last

/-! ### Operands -/

/-- A literal is read as its value. -/
theorem taken_literal (l : Literal) :
    Taken actions .primary [.literal l] (actions.literal l.toJson) := fun _ _ =>
  ⟨Nat.lt_succ_self _, readPrimary_literal⟩

/-- What is in parentheses is read whole, whatever its kind, and the parentheses are gone. -/
theorem taken_parentheses (h : Taken actions (.run .disjunction) ts x) :
    Taken actions .primary (.sign .open_ :: (ts ++ [.sign .close])) x := by
  intro rest hrest
  obtain ⟨hlt, he⟩ : Gives (readBinary actions .disjunction (ts ++ .sign .close :: rest)) x _ :=
    h (.sign .close :: rest) Phrase.ends_close
  have step : readPrimary actions (.sign .open_ :: (ts ++ .sign .close :: rest)) =
      .ok ⟨x, rest, Nat.lt_succ_of_lt (Nat.lt_of_succ_lt hlt)⟩ := by
    rw [readPrimary_parentheses, he]
    rfl
  rw [List.cons_append, List.append_assoc]
  exact ⟨_, step⟩

/-- The arguments of a call are read one by one, each up to its comma or to the closing parenthesis.
-/
theorem gives_items {callee : String} {a : List Token × α} {args : List (List Token × α)}
    (h : ∀ b ∈ a :: args,
      Starts (.run .disjunction) b.1 ∧ Taken actions (.run .disjunction) b.1 b.2)
    (rest : List Token) :
    Gives (readItems actions callee
      ([Token.sign .comma].intercalate ((a :: args).map Prod.fst) ++ .sign .close :: rest))
      ((a :: args).map Prod.snd) rest := by
  induction args generalizing a with
  | nil =>
    have tokens : [Token.sign .comma].intercalate ([a].map Prod.fst) = a.1 := by
      simp [List.intercalate]
    obtain ⟨hlt, he⟩ := (h a List.mem_cons_self).2 (.sign .close :: rest) Phrase.ends_close
    rw [tokens]
    refine ⟨Nat.lt_of_succ_lt hlt, (readItems_last he (by simp)).trans ?_⟩
    rfl
  | cons b args ih =>
    rw [List.forall_mem_cons] at h
    obtain ⟨⟨-, first⟩, others⟩ := h
    obtain ⟨hlt', he'⟩ := ih others
    obtain ⟨t, us, ht, hc, -⟩ := (others b List.mem_cons_self).1
    have tokens : [Token.sign .comma].intercalate ((a :: b :: args).map Prod.fst) ++
        .sign .close :: rest = a.1 ++ .sign .comma ::
          ([Token.sign .comma].intercalate ((b :: args).map Prod.fst) ++ .sign .close :: rest) := by
      rw [List.map_cons, List.map_cons, List.intercalate_cons_cons, ← List.map_cons,
        List.append_assoc, List.append_assoc]
      rfl
    -- another argument follows the comma, which would be one too many in front of the end
    have begins : ([Token.sign .comma].intercalate ((b :: args).map Prod.fst) ++
        .sign .close :: rest).head? ≠ some (.sign .close) := by
      cases args <;> simp [List.intercalate, ht, hc]
    obtain ⟨hlt, he⟩ := first _ Phrase.ends_comma
    rw [tokens]
    refine ⟨length_lt_of_cons_lt hlt hlt', (readItems_more he begins).trans ?_⟩
    rw [he']
    rfl

/-- The arguments of a call may also be none. -/
theorem gives_arguments {callee : String} {args : List (List Token × α)}
    (h : ∀ a ∈ args, Starts (.run .disjunction) a.1 ∧ Taken actions (.run .disjunction) a.1 a.2)
    (rest : List Token) :
    Gives (readArguments actions callee
      ([Token.sign .comma].intercalate (args.map Prod.fst) ++ .sign .close :: rest))
      (args.map Prod.snd) rest := by
  cases args with
  | nil => exact ⟨Nat.lt_succ_self _, readArguments_close⟩
  | cons a args =>
    obtain ⟨hlt, he⟩ := gives_items h rest
    obtain ⟨t, us, ht, hc, -⟩ := (h a List.mem_cons_self).1
    -- the first argument does not begin with the parenthesis that would close the call
    have begins : ∃ vs, [Token.sign .comma].intercalate ((a :: args).map Prod.fst) ++
        .sign .close :: rest = t :: vs := by
      cases args <;> exact ⟨_, by simp [List.intercalate, ht]; rfl⟩
    have step : readArguments actions callee
        ([Token.sign .comma].intercalate ((a :: args).map Prod.fst) ++ .sign .close :: rest) =
      readItems actions callee
        ([Token.sign .comma].intercalate ((a :: args).map Prod.fst) ++ .sign .close :: rest) := by
      obtain ⟨vs, hvs⟩ := begins
      rw [hvs]
      exact readArguments_items hc
    exact ⟨hlt, step.trans he⟩

/-- A name in front of parentheses is a call, if the actions accept it. -/
theorem taken_call {s : String} {args : List (List Token × α)} (hs : s ∉ keywords)
    (h : ∀ a ∈ args, Starts (.run .disjunction) a.1 ∧ Taken actions (.run .disjunction) a.1 a.2)
    (hx : actions.call s (args.map Prod.snd) = .ok x) :
    Taken actions .primary
      (.name s :: .sign .open_ ::
        ([Token.sign .comma].intercalate (args.map Prod.fst) ++ [.sign .close])) x := by
  intro rest _
  obtain ⟨hlt, he⟩ := gives_arguments h rest
  have step : readPrimary actions (.name s :: .sign .open_ ::
      ([Token.sign .comma].intercalate (args.map Prod.fst) ++ .sign .close :: rest)) =
    .ok ⟨x, rest, Nat.lt_succ_of_lt (Nat.lt_succ_of_lt hlt)⟩ := by
    rw [readPrimary_call hs, he]
    dsimp only [ok_bind]
    rw [hx]
    rfl
  rw [List.cons_append, List.cons_append, List.append_assoc]
  exact ⟨_, step⟩

/-- Nothing that goes on with an operand stands behind one. -/
theorem Phrase.Ends.head?_ne {c : Sign} (h : Phrase.primary.Ends rest)
    (hc : (Token.sign c).binding = 7) : rest.head? ≠ some (.sign c) := by
  intro ht
  have := h _ ht
  rw [hc] at this
  exact absurd this (by decide)

/-- A path is read to its last name. -/
theorem gives_path (done : List String) (s : String) (others : List String)
    (hrest : Phrase.primary.Ends rest) :
    Gives (readPath done (((s :: others).map Token.name).intersperse (.sign .slash) ++ rest))
      (done ++ s :: others) rest := by
  induction others generalizing done s with
  | nil => exact ⟨Nat.lt_succ_self _, readPath_last (hrest.head?_ne rfl) (hrest.head?_ne rfl)⟩
  | cons s' others ih =>
    obtain ⟨hlt, he⟩ := ih (done ++ [s]) s'
    rw [List.append_assoc] at he
    have step : readPath done (.name s :: .sign .slash ::
        (((s' :: others).map Token.name).intersperse (.sign .slash) ++ rest)) =
      .ok ⟨done ++ s :: s' :: others, rest, Nat.lt_succ_of_lt (Nat.lt_succ_of_lt hlt)⟩ := by
      rw [readPath_more, he]
      rfl
    exact ⟨_, step⟩

/-- A path is a member with dots, without the range variable in front. -/
theorem taken_path {s : String} {others : List String} (hs : s ∉ keywords)
    (hne : pathNames s others ≠ [])
    (hx : actions.member (joinWith "." (pathNames s others)) = .ok x) :
    Taken actions .primary (((s :: others).map Token.name).intersperse (.sign .slash)) x := by
  intro rest hrest
  -- a name alone must not be followed by a parenthesis, which would make a call of it
  have begins : ∃ us, ((s :: others).map Token.name).intersperse (.sign .slash) ++ rest =
      .name s :: us ∧ us.head? ≠ some (.sign .open_) := by
    cases others with
    | nil => exact ⟨rest, rfl, hrest.head?_ne rfl⟩
    | cons s' others => exact ⟨_, rfl, by simp⟩
  obtain ⟨us, hus, ho⟩ := begins
  have path : Gives (readPath [] _) (s :: others) rest := gives_path [] s others hrest
  rw [hus] at path
  obtain ⟨hlt, he⟩ := path
  have member : memberOf actions (s :: others) = .ok x := by
    rw [memberOf_eq, if_neg hne, hx]
  have step : readPrimary actions (.name s :: us) = .ok ⟨x, rest, hlt⟩ := by
    rw [readPrimary_path hs ho, he]
    dsimp only [ok_bind]
    rw [member]
    rfl
  rw [hus]
  exact ⟨_, step⟩

/-! ### All constructs -/

/-- What reading a phrase does: a run is read as a left side, anything else as itself. -/
def Completes (actions : Actions α) : Phrase → List Token → α → Prop
  | .run level => Led actions level
  | p => Taken actions p

/-- Whatever is read, as a left side or not, is read as itself in front of what ends it. -/
theorem Completes.taken (h : Completes actions p ts x) : Taken actions p ts x := by
  cases p with
  | run level => exact Led.taken h
  | _ => exact h

/-- **Every phrase is read** as what it is. -/
theorem complete (h : Derives actions p ts x) : Completes actions p ts x := by
  -- a run may still be the left side of an operator, and so it is not yet read as itself
  induction h with
  | operand h ih => exact led_operand ih.taken
  | joined left hs right ihl ihr => exact led_joined ihl hs ihr.taken
  | not h ih => exact taken_not ih
  | comparison h ih => exact taken_negation ih h.starts
  | sum h ih => exact taken_sum (Led.taken ih)
  | compared left hs right ihl ihr => exact taken_compared ihl.taken hs ihr.taken
  | literal l => exact taken_literal l
  | parentheses h ih => exact taken_parentheses ih.taken
  | call hs h hx ih => exact taken_call hs (fun a ha => ⟨(h a ha).starts, (ih a ha).taken⟩) hx
  | path hs hne hx => exact taken_path hs hne hx

/-- Reading ends well only at the end. -/
theorem expectEnd_eq_ok_iff : expectEnd ts = .ok () ↔ ts = [] := by
  cases ts with
  | nil => simp [expectEnd]
  | cons t ts => cases t <;> simp [expectEnd]

/-- **A list of tokens is accepted** exactly if it is a disjunction of the grammar, whatever the
constructs build, and what is built is its value. -/
theorem parseTokens_eq_ok_iff :
    parseTokens actions ts = .ok x ↔ Derives actions (.run .disjunction) ts x := by
  unfold parseTokens readExpr
  constructor
  · intro h
    obtain ⟨r, hr, h⟩ := bind_eq_ok.1 h
    obtain ⟨⟨⟩, hend, h⟩ := bind_eq_ok.1 h
    cases h
    obtain ⟨us, hus, hd⟩ := sound (.run .disjunction) ts r hr
    rw [expectEnd_eq_ok_iff.1 hend, List.append_nil] at hus
    exact hus ▸ hd
  · intro h
    -- nothing follows a whole filter, so its phrase ends whatever its level is
    have ends : (Phrase.run .disjunction).Ends [] := fun t ht => by cases ht
    have whole := (complete h).taken [] ends
    rw [List.append_nil] at whole
    obtain ⟨hlt, he⟩ : Gives (readBinary actions .disjunction ts) x [] := whole
    rw [he]
    rfl

/-! ### The sides of a comparison -/

/-- The operators of comparisons, each with the one that says the same of the sides exchanged. -/
def exchanged : List (Comparison × Comparison) :=
  [(.eq, .eq), (.ne, .ne), (.lt, .gt), (.le, .ge), (.gt, .lt), (.ge, .le)]

/-- What a comparison of two values is. Its sides change exactly if the left one is a constant and
the right one is not, and the operator with them; otherwise they stay as they are written. -/
inductive Faces (op : Comparison) : Expr → Expr → Expr → Prop where
  | exchanged {op' : Comparison} {v : Json} {e : Expr} (turned : (op, op') ∈ exchanged)
      (right : e.isLiteral = false) : Faces op (.lit v) e (.compare e op' (.lit v))
  | written {d e : Expr} (h : d.isLiteral = true → e.isLiteral = true) :
      Faces op d e (.compare d op e)

/-- Between the sides of a filter, folding a comparison is facing it. -/
theorem compareFacing_eq_iff {s : String} {op : Comparison} (hs : (s, op) ∈ comparisonOperators)
    {d e x : Expr} : compareFacing op d e = x ↔ Faces op d e x := by
  -- one case for each operator: the table is that of the parser
  have turned : ∃ op', op.mirror? = some op' ∧ ∀ other, (op, other) ∈ exchanged ↔ other = op' := by
    simp only [comparisonOperators, List.mem_cons, Prod.mk.injEq, List.not_mem_nil, or_false] at hs
    rcases hs with ⟨-, rfl⟩ | ⟨-, rfl⟩ | ⟨-, rfl⟩ | ⟨-, rfl⟩ | ⟨-, rfl⟩ | ⟨-, rfl⟩ <;>
      simp [exchanged, Comparison.mirror?]
  obtain ⟨op', mirror, only⟩ := turned
  unfold compareFacing
  split
  · next sides =>
    obtain ⟨left, right⟩ : d.isLiteral = true ∧ e.isLiteral = false := by simpa using sides
    obtain ⟨v, rfl⟩ : ∃ v, d = .lit v := by
      cases d <;> simp [Expr.isLiteral, Expr.literal?] at left ⊢
    rw [mirror]
    constructor
    · rintro rfl
      exact .exchanged ((only op').2 rfl) right
    · intro h
      cases h with
      | exchanged turned => rw [(only _).1 turned]
      | written h => rw [h left] at right; cases right
  · next sides =>
    constructor
    · rintro rfl
      exact .written fun left => by simpa [left] using sides
    · intro h
      cases h with
      | exchanged _ right => exact absurd (by rw [right]; rfl) sides
      | written => rfl

/-- **The comparisons of the grammar**: a sum alone, or two sums with an operator between them. The
sides change exactly if the left one alone is a constant. -/
theorem derives_comparison_iff {resolver : Resolver} {ts : List Token} {x : Expr} :
    Derives (.expr resolver) .comparison ts x ↔
      Derives (.expr resolver) (.run .sum) ts x ∨
      ∃ left s op right d e, ts = left ++ .name s :: right ∧ (s, op) ∈ comparisonOperators ∧
        Derives (.expr resolver) (.run .sum) left d ∧
        Derives (.expr resolver) (.run .sum) right e ∧ Faces op d e x := by
  constructor
  · intro h
    cases h with
    | sum h => exact .inl h
    | compared left hs right =>
      exact .inr ⟨_, _, _, _, _, _, rfl, hs, left, right, (compareFacing_eq_iff hs).1 rfl⟩
  · rintro (h | ⟨ts, s, op, us, d, e, rfl, hs, left, right, faces⟩)
    · exact .sum h
    · rw [← (compareFacing_eq_iff hs).2 faces]
      exact .compared left hs right

/-- **The filters that are accepted** are the disjunctions of the grammar, and no others. With
members and methods as they are, a list of tokens gives an expression exactly if it derives it: by
connectives and arithmetic from the left, negations, comparisons with the constant on the right,
calls, and paths with dots and without the range variable. It derives no second one. -/
theorem accepted_iff_derives (ts : List Token) :
    (∀ e, parseTokens (.expr .identity) ts = .ok e ↔
      Derives (.expr .identity) (.run .disjunction) ts e) ∧
    ∀ e e', Derives (.expr .identity) (.run .disjunction) ts e →
      Derives (.expr .identity) (.run .disjunction) ts e' → e = e' := by
  refine ⟨fun e => parseTokens_eq_ok_iff, fun e e' h h' => ?_⟩
  have same := (parseTokens_eq_ok_iff.2 h).symm.trans (parseTokens_eq_ok_iff.2 h')
  exact Except.ok.inj same

/-- A negation in a choice. -/
def negatedChoice : List Token := [.name "not", .name "closed", .name "or", .name "open"]

/-- A negation binds its operand only, and the choice stands around it. -/
theorem negatedChoice_accepted :
    parseTokens (.expr .identity) negatedChoice =
        .ok (.logical .or [.not (.member "closed"), .member "open"]) ∧
      ∀ e, Derives (.expr .identity) (.run .disjunction) negatedChoice e →
        e = .logical .or [.not (.member "closed"), .member "open"] := by
  -- a name alone is a phrase of every level below
  have member (s : String) (hs : s ∉ keywords) (hit : s ≠ "$it") :
      Derives (.expr .identity) .negation [.name s] (.member s) := by
    have names : pathNames s [] = [s] := if_neg hit
    have value : (Actions.expr .identity).member (joinWith "." (pathNames s [])) =
        .ok (.member s) := by
      rw [names]
      rfl
    have path : Derives (.expr .identity) .primary [.name s] (.member s) :=
      .path hs (by rw [names]; simp) value
    exact .comparison (.sum (.operand (.operand path)))
  have left : Derives (.expr .identity) (.run .disjunction) _ _ :=
    .operand (.operand (member "closed" (by decide) (by decide)).not)
  have right : Derives (.expr .identity) (.run .conjunction) _ _ :=
    .operand (member "open" (by decide) (by decide))
  have choice : ("or", .connective .or) ∈ Level.disjunction.operators := List.mem_singleton_self _
  have whole : Derives (.expr .identity) (.run .disjunction) negatedChoice
      (.logical .or [.not (.member "closed"), .member "open"]) := .joined left choice right
  obtain ⟨accepted, unique⟩ := accepted_iff_derives negatedChoice
  exact ⟨(accepted _).2 whole, fun e h => unique e _ h whole⟩

end Sift.Filter
