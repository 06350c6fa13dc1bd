import Sift.Proofs.Query.Predicates

/-!
# Statement kinds of built queries

Calls that choose a kind drop the others. Assigning columns chooses none, but sets the clause of an
update beside whatever kind was chosen before, so a query that any calls built has one kind at most
exactly when its assignments stand behind an update, or behind no choice at all.

* `Choice`, `Choice.after`: the kind chosen last, and whether columns were assigned since.
* `isSet_run`: one call does to the clauses of a query what it does to the choice.
* `kinds_built`: the kinds of a built query, whatever the calls.
* `kinds_exclusive_iff`: when there is one at most, and that the kind is refused otherwise.
* `assigned_deletion_has_two_kinds`: a query of two kinds.
-/

namespace Sift.Query

/-- All kinds, in the order in which they are listed. -/
def allKinds : List Kind := [.select, .insert, .update, .delete]

/-- Whether the clause of a kind is set. -/
def isSet (q : Query) : Kind → Bool
  | .select => q.select.isSome
  | .insert => q.insert.isSome
  | .update => q.update.isSome
  | .delete => q.delete

/-- The kinds of a query are those whose clause is set, in a fixed order. -/
theorem kinds_eq_filter (q : Query) : q.kinds = allKinds.filter q.isSet := by
  unfold kinds allKinds
  simp only [List.filter_cons, List.filter_nil, isSet]
  by_cases hs : q.select.isSome <;> by_cases hi : q.insert.isSome <;>
    by_cases hu : q.update.isSome <;> by_cases hd : q.delete <;> simp [hs, hi, hu, hd]

/-! ### What calls choose -/

/-- What calls have chosen: the kind that was chosen last, if any was, and whether columns were
assigned since. -/
structure Choice where
  kind : Option Kind
  assigned : Bool

namespace Choice

/-- Nothing chosen. -/
def start : Choice := ⟨none, false⟩

/-- What a call does to the choice. -/
def after (s : Choice) : Call → Choice
  | .detail (.selecting _) => ⟨some .select, false⟩
  | .detail (.inserting _) => ⟨some .insert, false⟩
  | .detail (.updating _) => ⟨some .update, false⟩
  | .detail (.deleting _) => ⟨some .delete, false⟩
  | .detail (.assigning _) => { s with assigned := true }
  | _ => s

/-- What a sequence of calls has chosen. -/
def ofCalls (calls : List Call) : Choice := calls.foldl after start

/-- The kinds that a choice leaves: the one chosen, and an update where columns were assigned.
-/
def leaves (s : Choice) (k : Kind) : Bool := s.kind == some k || (s.assigned && k == .update)

/-- Assignments to an update: columns are assigned only where an update was chosen, or nothing.
-/
def AssignsToUpdate (s : Choice) : Prop := s.assigned = true → ∀ k ∈ s.kind, k = .update

instance (s : Choice) : Decidable s.AssignsToUpdate :=
  inferInstanceAs (Decidable (_ → _))

/-- A choice leaves one kind at most exactly when columns were assigned to no other kind. -/
theorem length_leaves_le_one_iff (s : Choice) :
    (allKinds.filter s.leaves).length ≤ 1 ↔ s.AssignsToUpdate := by
  obtain ⟨kind, assigned⟩ := s
  rcases kind with - | - | - | - | - <;> cases assigned <;> decide

/-- A choice that leaves several kinds leaves two, one of them an update. -/
theorem length_leaves_of_one_lt {s : Choice} (h : 1 < (allKinds.filter s.leaves).length) :
    (allKinds.filter s.leaves).length = 2 ∧ Kind.update ∈ allKinds.filter s.leaves := by
  obtain ⟨kind, assigned⟩ := s
  rcases kind with - | - | - | - | - <;> cases assigned <;> revert h <;> decide

end Choice

/-! ### One call -/

/-- Closing a predicate sets no clause of a kind. -/
theorem isSet_close (p : Pending) (e : Expr) : (p.close e).isSet = p.query.isSet := by
  obtain ⟨q, connective, operand⟩ := p
  funext k
  cases connective <;> cases k <;> rfl

/-- What closes a pending operand adds to the predicate only. -/
theorem isSet_terminal (p : Pending) (terminal : Terminal) :
    (terminal.run p).isSet = p.query.isSet := by
  cases terminal <;> exact isSet_close p _

/-- Putting the predicate aside sets no clause. -/
theorem isSet_prepare (q : Query) : q.prepare.isSet = q.isSet := by
  unfold prepare
  funext k
  split <;> cases k <;> rfl

/-- **One call** does to the clauses of a query what it does to the choice. -/
theorem isSet_run {q : Query} {s : Choice} (h : q.isSet = s.leaves) (c : Call) :
    (c.run q).isSet = (s.after c).leaves := by
  -- a call that is about no kind leaves both sides as they are
  have kept {p : Query} (hp : p.isSet = q.isSet) : p.isSet = s.leaves := hp.trans h
  cases c with
  | filter e => exact kept (by funext k; cases k <;> rfl)
  | prepare => exact kept (isSet_prepare q)
  | predicate connective operand modifiers terminal =>
    rw [Call.run, Modifier.foldl_run, isSet_terminal]
    exact kept rfl
  | detail d =>
    cases d with
    | selecting fields => funext k; cases k <;> rfl
    | inserting values => funext k; cases k <;> rfl
    | updating name => funext k; cases k <;> rfl
    | deleting name => funext k; cases k <;> rfl
    | assigning values =>
      -- the other clauses stay, and that of an update is there whatever was chosen
      funext k
      have old : q.isSet k = s.leaves k := congrFun h k
      have new : ((Detail.assigning values).run q).isSet k = (q.isSet k || k == .update) := by
        cases k <;> simp [Detail.run, assigning, isSet]
      rw [Call.run, new, old]
      simp only [Choice.leaves, Choice.after]
      cases s.assigned <;> cases k <;> simp
    | _ => exact kept (by funext k; cases k <;> rfl)

/-! ### Sequences of calls -/

/-- Any calls do to the clauses what they do to the choice, by induction on them. -/
theorem isSet_foldl {q : Query} {s : Choice} (h : q.isSet = s.leaves) (calls : List Call) :
    (calls.foldl Call.run q).isSet = (calls.foldl Choice.after s).leaves := by
  induction calls generalizing q s with
  | nil => exact h
  | cons c calls ih => exact ih (isSet_run h c)

/-- **The kinds of a built query** are those that the calls leave. -/
theorem kinds_built (calls : List Call) :
    (built calls).kinds = allKinds.filter (Choice.ofCalls calls).leaves := by
  have start : empty.isSet = Choice.start.leaves := by
    funext k
    cases k <;> rfl
  rw [kinds_eq_filter, built, isSet_foldl start, Choice.ofCalls]

/-- The fault of many kinds is that of a query with more than one. -/
theorem exists_manyKinds_iff (q : Query) :
    (∃ ks, q.kind = .error (.format (.manyKinds ks))) ↔ 1 < q.kinds.length := by
  unfold kind
  split
  · next k hk => simp [hk]
  · next hk => simp [hk]
  · next one any =>
    refine iff_of_true ⟨_, rfl⟩ ?_
    rcases hq : q.kinds with - | ⟨a, - | ⟨b, ks⟩⟩
    · exact absurd hq any
    · exact absurd hq (one a)
    · simp

/-- **A query that any calls built has one kind at most** exactly when columns were assigned to no
other statement than an update. Only such a query is never refused for having several kinds; every
other one is, and then for two, one of them an update. -/
theorem kinds_exclusive_iff (calls : List Call) :
    ((built calls).kinds.length ≤ 1 ↔ (Choice.ofCalls calls).AssignsToUpdate) ∧
      ((∃ ks, (built calls).kind = .error (.format (.manyKinds ks))) ↔
        ¬ (Choice.ofCalls calls).AssignsToUpdate) ∧
      ∀ ks, (built calls).kind = .error (.format (.manyKinds ks)) →
        ks.length = 2 ∧ Kind.update ∈ ks := by
  have one : (built calls).kinds.length ≤ 1 ↔ (Choice.ofCalls calls).AssignsToUpdate := by
    rw [kinds_built]
    exact Choice.length_leaves_le_one_iff _
  refine ⟨one, ?_, ?_⟩
  · rw [exists_manyKinds_iff, ← one, Nat.not_le]
  · intro ks hks
    -- the fault lists the kinds that are set
    have listed : (built calls).kinds = ks := by
      unfold kind at hks
      split at hks <;> cases hks
      rfl
    have many : 1 < (built calls).kinds.length := (exists_manyKinds_iff _).1 ⟨ks, hks⟩
    rw [kinds_built] at listed many
    rw [← listed]
    exact Choice.length_leaves_of_one_lt many

/-- **A deletion with columns assigned** is of two kinds, and refused. -/
theorem assigned_deletion_has_two_kinds :
    let q := built [.detail (.deleting "T"), .detail (.assigning [("a", .int 1)])]
    q.kinds = [.update, .delete] ∧ q.kind = .error (.format (.manyKinds [.update, .delete])) :=
  ⟨rfl, rfl⟩

end Sift.Query
