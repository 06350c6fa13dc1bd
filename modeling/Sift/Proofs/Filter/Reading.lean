import Sift.Proofs.Filter.Grammar
import Sift.Proofs.Steps

/-!
# The steps of reading a filter

What each reader does next, by what stands in front of it.

* `Phrase.read`: the reader of each kind of phrase.
* `readChain_stop`, `readChain_step`: a run ends, or goes on with one more operand.
* `readComparison_stop`, `readComparison_step`: a comparison has one side, or two.
* `readItems_last`, `readItems_more`: the last argument of a call, or one before others.
-/

namespace Sift.Filter

variable {α : Type} {actions : Actions α} {ts rest : List Token} {t : Token} {x : α}

/-- The reader of a kind of phrase. -/
def Phrase.read (actions : Actions α) :
    Phrase → (ts : List Token) → Except Error (Read α ts)
  | .run level => readBinary actions level
  | .negation => readNegation actions
  | .comparison => readComparison actions
  | .primary => readPrimary actions

/-! ### Runs -/

section

variable {level : Level}

theorem readOperand_eq : readOperand actions level ts = level.operand.read actions ts := by
  cases level <;> rw [readOperand] <;> rfl

theorem readChain_nil {h : [].length < ts.length} :
    readChain actions level (⟨x, [], h⟩ : Read α ts) = .ok ⟨x, [], h⟩ := by
  rw [readChain]

/-- A run ends in front of what is no operator of its level. -/
theorem readChain_stop {h : (t :: rest).length < ts.length} (ht : level.operator? t = none) :
    readChain actions level (⟨x, t :: rest, h⟩ : Read α ts) = .ok ⟨x, t :: rest, h⟩ := by
  rw [readChain]
  dsimp only
  rw [ht]

/-- A run goes on with an operator of its level, and what was read becomes a left side. -/
theorem readChain_step {h : (t :: rest).length < ts.length} {op : Operator}
    (ht : level.operator? t = some op) :
    readChain actions level (⟨x, t :: rest, h⟩ : Read α ts) =
      readOperand actions level rest >>= fun right =>
        readChain actions level (⟨op.apply actions x right.value, right.rest,
          length_lt_of_cons_lt h right.shorter⟩ : Read α ts) := by
  rw [readChain]
  dsimp only
  rw [ht]
  rfl

end

/-! ### Comparisons -/

theorem readComparison_nil {h : [].length < ts.length}
    (left : readBinary actions .sum ts = .ok ⟨x, [], h⟩) :
    readComparison actions ts = .ok ⟨x, [], h⟩ := by
  rw [readComparison, left]
  rfl

/-- A comparison of one side ends in front of what compares nothing. -/
theorem readComparison_stop {h : (t :: rest).length < ts.length}
    (left : readBinary actions .sum ts = .ok ⟨x, t :: rest, h⟩) (ht : comparison? t = none) :
    readComparison actions ts = .ok ⟨x, t :: rest, h⟩ := by
  rw [readComparison, left]
  dsimp only [ok_bind]
  rw [ht]

/-- A comparison goes on with its right side, and a second operator behind that is refused. -/
theorem readComparison_step {h : (t :: rest).length < ts.length} {op : Comparison}
    (left : readBinary actions .sum ts = .ok ⟨x, t :: rest, h⟩) (ht : comparison? t = some op) :
    readComparison actions ts =
      readBinary actions .sum rest >>= fun right =>
        if (right.rest.head?.bind comparison?).isSome then .error (.parse .chainedComparison)
        else .ok ⟨actions.compare op x right.value, right.rest,
          length_lt_of_cons_lt h right.shorter⟩ := by
  rw [readComparison, left]
  dsimp only [ok_bind]
  rw [ht]
  rfl

/-! ### Arguments -/

section

variable {callee : String}

/-- A call may have no arguments. -/
theorem readArguments_close : readArguments actions callee (.sign .close :: rest) =
    .ok ⟨[], rest, Nat.lt_succ_self _⟩ := by
  rw [readArguments]
  rfl

/-- A call that is not closed at once has an argument. -/
theorem readArguments_items (ht : t ≠ .sign .close) :
    readArguments actions callee (t :: rest) = readItems actions callee (t :: rest) := by
  rw [readArguments]
  intro rest' h
  cases h
  exact ht rfl

/-- A comma right in front of the closing parenthesis lacks an argument. -/
theorem readItems_missing {h : (Token.sign .comma :: .sign .close :: rest).length < ts.length}
    (item : readBinary actions .disjunction ts = .ok ⟨x, .sign .comma :: .sign .close :: rest, h⟩) :
    readItems actions callee ts = .error (.parse (.missingArgument callee)) := by
  rw [readItems, if_neg (not_isEmpty h), item]
  rfl

/-- Behind a comma there is one more argument. -/
theorem readItems_more {h : (Token.sign .comma :: rest).length < ts.length}
    (item : readBinary actions .disjunction ts = .ok ⟨x, .sign .comma :: rest, h⟩)
    (hrest : rest.head? ≠ some (.sign .close)) :
    readItems actions callee ts =
      readItems actions callee rest >>= fun items =>
        .ok ⟨x :: items.value, items.rest, length_lt_of_cons_lt h items.shorter⟩ := by
  rw [readItems, if_neg (not_isEmpty h), item]
  rcases rest with - | ⟨_ | _ | s, rest⟩
  case cons.sign => cases s <;> first | rfl | exact absurd rfl hrest
  all_goals rfl

/-- The last argument is followed by the closing parenthesis. -/
theorem readItems_last {h : rest.length < ts.length}
    (item : readBinary actions .disjunction ts = .ok ⟨x, rest, h⟩)
    (hrest : rest.head? ≠ some (.sign .comma)) :
    readItems actions callee ts =
      readClose rest >>= fun close => .ok ⟨[x], close.rest, Nat.lt_trans close.shorter h⟩ := by
  rw [readItems, if_neg (not_isEmpty h), item]
  rcases rest with - | ⟨_ | _ | s, rest⟩
  case cons.sign => cases s <;> first | rfl | exact absurd rfl hrest
  all_goals rfl

end

/-! ### Operands -/

section

variable {done : List String} {s : String}

/-- A slash goes on with a path. -/
theorem readPath_more : readPath done (.name s :: .sign .slash :: rest) =
    readPath (done ++ [s]) rest >>= fun path =>
      .ok ⟨path.value, path.rest, Nat.lt_succ_of_lt (Nat.lt_succ_of_lt path.shorter)⟩ := by
  rw [readPath]
  rfl

/-- A path ends with a name that neither a slash nor a parenthesis follows. -/
theorem readPath_last (ho : rest.head? ≠ some (.sign .open_))
    (hs : rest.head? ≠ some (.sign .slash)) :
    readPath done (.name s :: rest) = .ok ⟨done ++ [s], rest, Nat.lt_succ_self _⟩ := by
  rw [readPath]
  · rfl
  · rintro us rfl
    exact ho rfl
  · rintro us rfl
    exact hs rfl

end

/-- A literal is an operand. -/
theorem readPrimary_literal {l : Literal} : readPrimary actions (.literal l :: rest) =
    .ok ⟨actions.literal l.toJson, rest, Nat.lt_succ_self _⟩ := by
  rw [readPrimary]
  rfl

/-- An operand in parentheses may be any phrase. -/
theorem readPrimary_parentheses : readPrimary actions (.sign .open_ :: rest) =
    readBinary actions .disjunction rest >>= fun inner =>
      readClose inner.rest >>= fun close =>
        .ok ⟨inner.value, close.rest,
          Nat.lt_succ_of_lt (Nat.lt_trans close.shorter inner.shorter)⟩ := by
  rw [readPrimary]
  rfl

section

variable {s : String} (hs : s ∉ keywords)

include hs

/-- A name in front of a parenthesis is called. -/
theorem readPrimary_call : readPrimary actions (.name s :: .sign .open_ :: rest) =
    readArguments actions s rest >>= fun args =>
      actions.call s args.value >>= fun x =>
        .ok ⟨x, args.rest, Nat.lt_succ_of_lt (Nat.lt_succ_of_lt args.shorter)⟩ := by
  rw [readPrimary, if_neg (by simpa using hs)]
  rfl

/-- Any other name starts a path. -/
theorem readPrimary_path (hrest : rest.head? ≠ some (.sign .open_)) :
    readPrimary actions (.name s :: rest) =
      readPath [] (.name s :: rest) >>= fun path =>
        memberOf actions path.value >>= fun x => .ok ⟨x, path.rest, path.shorter⟩ := by
  rw [readPrimary, if_neg (by simpa using hs)]
  · rfl
  · rintro rest rfl
    exact hrest rfl

end

/-- No other sign starts an operand. -/
theorem readPrimary_sign (actions : Actions α) (rest : List Token) {c : Sign} (hc : c ≠ .open_) :
    ∃ e, readPrimary actions (.sign c :: rest) = .error e := by
  unfold readPrimary
  cases c <;> first | exact absurd rfl hc | exact ⟨_, rfl⟩

/-- Nor does a keyword. -/
theorem readPrimary_keyword {s : String} (hs : s ∈ keywords) :
    readPrimary actions (.name s :: rest) = .error (.parse (.keywordAsOperand s)) := by
  unfold readPrimary
  exact if_pos (by simpa using hs)

end Sift.Filter
