import Sift.Proofs.Truth
import Sift.Proofs.Sql.Selects
import Sift.Query.Build

/-!
# Predicates built step by step

A query is built by any sequence of calls. Its two predicates, the one being built and the one put
aside, mean what the calls say, although they are merged and computed on the way: every call does to
them what it does to a pair of truth values.

* `Call`, `Call.run`: the calls that build queries; `built`: the query of a sequence of them.
* `Meaning`: the truth values of the two predicates; `Meaning.after`: what a call does to them.
* `meaning_run`: one call on a query and on its meaning.
* `Meaning.prepared_foldl`: whatever was put aside stays, and further calls can only narrow it.
* `built_means`: a whole sequence, what is written of it, and that nothing put aside gets lost.
-/

namespace Sift.Query

/-! ### Calls -/

/-- A step on the operand of a predicate before the predicate is closed. -/
inductive Modifier where
  | function (name : String) (args : List Expr)
  | round (digits : UInt32)
  | substring (start : UInt64) (length : Option UInt64)
  | arithmetic (op : Arith) (e : Expr)

/-- A modifier on a predicate being built. -/
def Modifier.run (p : Pending) : Modifier → Pending
  | .function name args => p.wrap name args
  | .round digits => p.round digits
  | .substring start length => p.substring start length
  | .arithmetic op e => p.arithmetic op e

/-- What closes a predicate. -/
inductive Terminal where
  | compare (op : Comparison) (e : Expr)
  | between (low high : Expr)
  | test (name : String) (e : Expr)

/-- The query of a closed predicate. -/
def Terminal.run (p : Pending) : Terminal → Query
  | .compare op e => p.compare op e
  | .between low high => p.between low high
  | .test name e => p.test name e

/-- A call that is about no predicate. -/
inductive Detail where
  | onEntity (name : String)
  | labelledAs (label : String)
  | selecting (fields : List Field)
  | inserting (values : List (String × Json))
  | updating (name : String)
  | assigning (values : List (String × Json))
  | deleting (name : String)
  | distinct (value : Bool)
  | fixed (value : Bool)
  | grouping (fields : List Field)
  | orderedBy (e : Expr) (direction : Direction)
  | orderedThen (items : List Order)
  | skip (n : UInt64)
  | take (n : UInt64)
  | addJoin (target : Target) (label : Option String) (kind : JoinKind) (condition : Condition)
  | joinQuery (nested : Query) (label : Option String) (condition : Condition)

/-- A query with a detail. -/
def Detail.run (q : Query) : Detail → Query
  | .onEntity name => q.onEntity name
  | .labelledAs label => q.labelledAs label
  | .selecting fields => q.selecting fields
  | .inserting values => q.inserting values
  | .updating name => q.updating name
  | .assigning values => q.assigning values
  | .deleting name => q.deleting name
  | .distinct value => { q with distinct := value }
  | .fixed value => { q with fixed := value }
  | .grouping fields => q.grouping fields
  | .orderedBy e direction => q.orderedBy e direction
  | .orderedThen items => q.orderedThen items
  | .skip n => { q with skip := some n }
  | .take n => { q with take := some n }
  | .addJoin target label kind condition => q.addJoin target label kind condition
  | .joinQuery nested label condition => q.joinQuery nested label condition

/-- A call on a query: a restriction, putting the predicate aside, a predicate on an operand
(which joins the one there, or replaces it without a connective), or a detail. -/
inductive Call where
  | filter (e : Expr)
  | prepare
  | predicate (connective : Option Connective) (operand : Expr) (modifiers : List Modifier)
      (terminal : Terminal)
  | detail (d : Detail)

/-- A call on a query. -/
def Call.run (q : Query) : Call → Query
  | .filter e => q.restrict e
  | .prepare => q.prepare
  | .predicate connective operand modifiers terminal =>
    terminal.run (modifiers.foldl Modifier.run (q.pending connective operand))
  | .detail d => d.run q

/-- The query of a sequence of calls. -/
def built (calls : List Call) : Query := calls.foldl Call.run empty

/-! ### What calls mean -/

/-- The operand after a modifier. -/
def Modifier.on (operand : Expr) : Modifier → Expr
  | .function name args => .call name (operand :: args)
  | .round digits => .call "round" [operand, .lit (.int digits.toNat)]
  | .substring start length =>
    .call "substring" (operand :: (start :: length.toList).map fun n => .lit (.int n.toNat))
  | .arithmetic op e => .arithmetic operand op e

/-- The truth value of a closed predicate. -/
def Terminal.truth (given : Expr → Truth) (operand : Expr) : Terminal → Truth
  | .compare op e => given (.compare operand op e)
  | .between low high =>
    Truth.and (given (.compare operand .ge low)) (given (.compare operand .le high))
  | .test name e => given (.call name [operand, e])

/-- What the predicates of a query mean: the truth values of the one being built and of the one
put aside, each of which may be absent. -/
structure Meaning where
  current : Option Truth
  prepared : Option Truth

namespace Meaning

/-- A truth value joined to another that may be absent. -/
def joinedTo (op : Connective) : Option Truth → Truth → Truth
  | some s, t => op.kleene s t
  | none, t => t

/-- What a call does to the meaning of a query. -/
def after (given : Expr → Truth) (m : Meaning) : Call → Meaning
  | .filter e => { m with current := some (joinedTo .and m.current (e.truth given)) }
  | .prepare => match m.current with
    | some t => ⟨none, some (joinedTo .and m.prepared t)⟩
    | none => m
  | .predicate connective operand modifiers terminal =>
    let t := terminal.truth given (modifiers.foldl Modifier.on operand)
    match connective with
    | some op => { m with current := some (joinedTo op m.current t) }
    | none => { m with current := some t }
  | .detail _ => m

/-- What a sequence of calls means. -/
def ofCalls (given : Expr → Truth) (calls : List Call) : Meaning :=
  calls.foldl (after given) ⟨none, none⟩

/-- The conjunction of the predicates that are present. -/
def conjunction (m : Meaning) : Option Truth :=
  match m.current, m.prepared with
  | some s, some t => some (s.and t)
  | some s, none => some s
  | none, t => t

end Meaning

/-- The meaning of a query. -/
def meaning (given : Expr → Truth) (q : Query) : Meaning :=
  ⟨q.filter.map (Expr.truth given), q.prepared.map (Expr.truth given)⟩

/-! ### One call -/

variable (given : Expr → Truth)

theorem Modifier.run_eq (p : Pending) (m : Modifier) :
    m.run p = { p with operand := m.on p.operand } := by
  cases m <;> rfl

/-- Modifiers wrap the operand one by one and leave the rest of what is pending. -/
theorem Modifier.foldl_run (p : Pending) (ms : List Modifier) :
    ms.foldl Modifier.run p = { p with operand := ms.foldl Modifier.on p.operand } := by
  induction ms generalizing p with
  | nil => rfl
  | cons m ms ih =>
    rw [List.foldl_cons, List.foldl_cons, ih, Modifier.run_eq]

/-- Details leave both predicates as they are. -/
theorem meaning_detail (q : Query) (d : Detail) : meaning given (d.run q) = meaning given q := by
  cases d <;> rfl

/-- A predicate joined to another has their joint truth value, though it may be merged into the
other's list or folded. -/
theorem truth_joinedTo (op : Connective) (existing : Option Expr) (e : Expr) :
    (joinedTo op existing e).truth given =
      Meaning.joinedTo op (existing.map (Expr.truth given)) (e.truth given) := by
  cases existing with
  | none => rfl
  | some d => exact (Expr.valuation_truth given).connect op d e

/-- A filter is joined to the predicate that is there, and everything else stays. -/
theorem meaning_restrict (q : Query) (e : Expr) :
    meaning given (q.restrict e) = (meaning given q).after given (.filter e) := by
  unfold meaning restrict
  rw [Option.map_some, truth_joinedTo]
  rfl

/-- The predicate is put aside behind what was put aside before, and the place is free again. -/
theorem meaning_prepare (q : Query) :
    meaning given q.prepare = (meaning given q).after given .prepare := by
  unfold meaning prepare
  cases hf : q.filter with
  | none => rw [hf]; rfl
  | some e =>
    simp only [Option.map_some, truth_joinedTo]
    rfl

/-- What closes an operand is joined by the connective chosen for it, or stands in the place of the
predicate. -/
theorem meaning_close (q : Query) (connective : Option Connective) (operand e : Expr) :
    meaning given (Pending.close ⟨q, connective, operand⟩ e) =
      ⟨some (match connective with
        | some op => Meaning.joinedTo op (q.filter.map (Expr.truth given)) (e.truth given)
        | none => e.truth given), q.prepared.map (Expr.truth given)⟩ := by
  unfold meaning Pending.close
  cases connective with
  | none => rfl
  | some op => rw [Option.map_some, truth_joinedTo]

/-- A closed predicate has the truth value of what closes it. A range is two comparisons, both
of which must hold also where it is one of two alternatives. -/
theorem meaning_terminal (q : Query) (connective : Option Connective) (operand : Expr)
    (terminal : Terminal) :
    ∃ e, terminal.run ⟨q, connective, operand⟩ = Pending.close ⟨q, connective, operand⟩ e ∧
      e.truth given = terminal.truth given operand := by
  cases terminal with
  | compare op e => exact ⟨.compare operand op e, rfl, rfl⟩
  | between low high =>
    refine ⟨.connect .and (.compare operand .ge low) (.compare operand .le high), rfl, ?_⟩
    exact (Expr.valuation_truth given).connect .and _ _
  | test name e => exact ⟨.call name [operand, e], rfl, rfl⟩

/-- **One call** does to a query what it does to its meaning. -/
theorem meaning_run (q : Query) (c : Call) :
    meaning given (c.run q) = (meaning given q).after given c := by
  cases c with
  | filter e => exact meaning_restrict given q e
  | prepare => exact meaning_prepare given q
  | predicate connective operand modifiers terminal =>
    obtain ⟨e, run, truth⟩ :=
      meaning_terminal given q connective (modifiers.foldl Modifier.on operand) terminal
    rw [Call.run, Modifier.foldl_run]
    refine (congrArg (meaning given) run).trans ?_
    rw [meaning_close, truth]
    cases connective <;> rfl
  | detail d => exact meaning_detail given q d

/-! ### Sequences of calls -/

/-- A sequence of calls does to the meaning what they do one by one. -/
theorem meaning_foldl (q : Query) (calls : List Call) :
    meaning given (calls.foldl Call.run q) =
      calls.foldl (Meaning.after given) (meaning given q) := by
  induction calls generalizing q with
  | nil => rfl
  | cons c calls ih => rw [List.foldl_cons, List.foldl_cons, ih, meaning_run]

theorem meaning_built (calls : List Call) :
    meaning given (built calls) = Meaning.ofCalls given calls := meaning_foldl given empty calls

/-- The predicate that is written is the conjunction of the two. -/
theorem truth_predicate? (q : Query) :
    q.predicate?.map (Expr.truth given) = (meaning given q).conjunction := by
  unfold predicate? meaning
  cases q.filter with
  | none => cases q.prepared <;> rfl
  | some d => cases q.prepared with
    | none => rfl
    | some e => exact congrArg some ((Expr.valuation_truth given).connect .and d e)

/-- One call narrows what is put aside, or leaves it. -/
theorem Meaning.prepared_after (m : Meaning) (c : Call) {s : Truth} (h : m.prepared = some s) :
    ∃ t : Truth, (m.after given c).prepared = some (s.and t) := by
  have same : some s = some (s.and (some true)) := by rw [s.and_true]
  cases c with
  | filter e => exact ⟨some true, h.trans same⟩
  | prepare =>
    cases hc : m.current with
    | none => exact ⟨some true, by simp only [after, hc]; exact h.trans same⟩
    | some t => exact ⟨t, by simp only [after, hc, h]; rfl⟩
  | predicate connective operand modifiers terminal =>
    refine ⟨some true, Eq.trans ?_ (h.trans same)⟩
    cases connective <;> rfl
  | detail d => exact ⟨some true, h.trans same⟩

/-- What was put aside stays a part of all that is put aside later: by induction on the calls, each
of which can only add to it. -/
theorem Meaning.prepared_foldl (m : Meaning) (calls : List Call) {s : Truth}
    (h : m.prepared = some s) :
    ∃ t : Truth, (calls.foldl (Meaning.after given) m).prepared = some (s.and t) := by
  induction calls generalizing m s with
  | nil => exact ⟨some true, by rw [s.and_true]; exact h⟩
  | cons c calls ih =>
    obtain ⟨t, ht⟩ := prepared_after given m c h
    obtain ⟨u, hu⟩ := ih (m.after given c) ht
    exact ⟨t.and u, by rw [List.foldl_cons, hu, Truth.and_assoc]⟩

/-- **The predicates of a query** that any calls built mean what the calls say. What is written of
them is their conjunction, or nothing where there is none. Whatever was put aside stays: further
calls can only make it narrower. -/
theorem built_means (calls : List Call) :
    (built calls).filter.map (Expr.truth given) = (Meaning.ofCalls given calls).current ∧
    (built calls).prepared.map (Expr.truth given) = (Meaning.ofCalls given calls).prepared ∧
    (∃ predicate : Option Expr,
      predicate.map (Expr.truth given) = (Meaning.ofCalls given calls).conjunction ∧
      ∀ w : Sql.Writer, w.filter (built calls) = match predicate with
        | some e => w.expr e
        | none => .ok "") ∧
    ∀ s, (Meaning.ofCalls given calls).prepared = some s → ∀ more : List Call,
      ∃ t : Truth, (built (calls ++ more)).prepared.map (Expr.truth given) = some (s.and t) := by
  have means := meaning_built given calls
  refine ⟨congrArg Meaning.current means, congrArg Meaning.prepared means, ?_, ?_⟩
  · -- both predicates are merged before they are written
    refine ⟨(built calls).predicate?, ?_, fun w => ?_⟩
    · rw [truth_predicate?, means]
    · cases hp : (built calls).predicate? with
      | none => exact w.filter_of_predicate?_none hp
      | some e => exact w.filter_of_predicate? hp
  · intro s hs more
    obtain ⟨t, ht⟩ := Meaning.prepared_foldl given (Meaning.ofCalls given calls) more hs
    -- the later calls are run on the query built so far
    have later := congrArg Meaning.prepared (meaning_built given (calls ++ more))
    refine ⟨t, later.trans ?_⟩
    rw [Meaning.ofCalls, List.foldl_append]
    exact ht

end Sift.Query
