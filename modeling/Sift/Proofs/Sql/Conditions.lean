import Mathlib
import Sift.Proofs.Sql.Blanks

/-!
# Conditions of updates and deletes

An update or a delete is written as if it had no condition, with the condition behind it if that has
a text. So it reaches all rows only if nothing restricts it: no condition is set, or what is set is
vacuous.

* `Query.unconditional`: the query without a condition.
* `Formatter.statement_eq_unconditional`: a statement is that of the query without a condition, and
  the clause behind it.
* `condition_written_iff`: which conditions are written.
-/

namespace Sift

/-- The query without a condition. -/
def Query.unconditional (q : Query) : Query := { q with filter := none, prepared := none }

/-- What restricts a query: a condition of it, or one put aside, that is not vacuous. -/
def Query.Restricted (q : Query) : Prop :=
  ∃ e, (q.filter = some e ∨ q.prepared = some e) ∧ e.vacuous = false

/-- Whether the leaves of the conditions show. -/
def Query.VisibleConditions (q : Query) : Prop :=
  ∀ e, (q.filter = some e ∨ q.prepared = some e) → ∀ d ∈ e.leaves, d.Visible

namespace Query

variable {q : Query}

theorem kind_unconditional (q : Query) : q.unconditional.kind = q.kind := rfl

theorem predicate?_unconditional (q : Query) : q.unconditional.predicate? = none := rfl

/-- Where the leaves show, a query is restricted exactly if its predicate has a text. -/
theorem restricted_iff (visible : q.VisibleConditions) :
    q.Restricted ↔ ∃ e, q.predicate? = some e ∧ ¬ e.Blank := by
  have vacuous {e : Expr} (he : q.filter = some e ∨ q.prepared = some e) :
      e.Blank ↔ e.vacuous = true := Expr.blank_iff_vacuous (visible e he)
  have unrestricted : ¬ q.Restricted ↔
      (∀ e, q.filter = some e → e.Blank) ∧ ∀ e, q.prepared = some e → e.Blank := by
    simp only [Restricted, not_exists, not_and, Bool.not_eq_false, or_imp, forall_and]
    exact and_congr (forall₂_congr fun e he => (vacuous (.inl he)).symm)
      (forall₂_congr fun e he => (vacuous (.inr he)).symm)
  rw [← not_iff_not, unrestricted, ← blank_predicate?_iff]
  simp only [not_exists, not_and, not_not]

end Query

end Sift

namespace Sift.Sql

open Text

namespace Formatter

variable {f : Formatter} {q : Query}

theorem whereClause_unconditional (f : Formatter) (q : Query) :
    f.whereClause q.unconditional = .ok "" := by
  rw [whereClause, Writer.filter_of_predicate?_none q.predicate?_unconditional]
  rfl

/-- The clause of the condition is the last of an update. -/
theorem update_eq_unconditional (f : Formatter) (q : Query) :
    f.update q = do return (← f.update q.unconditional) ++ (← f.whereClause q) := by
  have entity : q.unconditional.entity = q.entity := rfl
  have update' : q.unconditional.update = q.update := rfl
  unfold update
  rw [whereClause_unconditional, entity, update']
  -- every step in front of the condition is the same, in success and in failure
  cases q.update with
  | none => rfl
  | some values =>
    cases q.entity with
    | error e => rfl
    | ok entity =>
      dsimp only [ok_bind]
      cases someValues .update values with
      | error e => rfl
      | ok values =>
        dsimp only [ok_bind]
        cases f.writer.constants (values.map Prod.snd) with
        | error e => rfl
        | ok texts => simp

/-- It is the last of a delete too. -/
theorem delete_eq_unconditional (f : Formatter) (q : Query) :
    f.delete q = do return (← f.delete q.unconditional) ++ (← f.whereClause q) := by
  have entity : q.unconditional.entity = q.entity := rfl
  have delete' : q.unconditional.delete = q.delete := rfl
  unfold delete
  rw [whereClause_unconditional, entity, delete']
  cases q.delete with
  | false => rfl
  | true =>
    cases q.entity with
    | error e => rfl
    | ok entity => simp

/-- **An update or a delete** is written as if it had no condition, and the clause behind it. -/
theorem statement_eq_unconditional (kind : q.kind = .ok .update ∨ q.kind = .ok .delete) :
    f.statement q = do return (← f.statement q.unconditional) ++ (← f.whereClause q) := by
  unfold statement
  rw [q.kind_unconditional]
  rcases kind with kind | kind <;> rw [kind]
  · exact f.update_eq_unconditional q
  · exact f.delete_eq_unconditional q

/-- An update or a delete that was written: what is written without a condition, and behind it
the text of the condition, if it has one. -/
theorem conditional_eq_ok (kind : q.kind = .ok .update ∨ q.kind = .ok .delete) {sql : String}
    (h : f.statement q = .ok sql) :
    ∃ head condition, f.statement q.unconditional = .ok head ∧
      f.writer.filter q = .ok condition ∧
      sql = if condition = "" then head else head ++ " WHERE " ++ condition := by
  rw [statement_eq_unconditional kind] at h
  obtain ⟨head, hh, h⟩ := bind_eq_ok.1 h
  obtain ⟨clause, hc, h⟩ := bind_eq_ok.1 h
  obtain ⟨condition, hcondition, hc⟩ := bind_eq_ok.1 hc
  obtain rfl := Except.ok.inj hc
  obtain rfl := Except.ok.inj h
  refine ⟨head, condition, hh, hcondition, ?_⟩
  by_cases empty : condition = ""
  · rw [if_pos empty, empty]
    exact String.append_empty
  · rw [if_neg empty, if_neg (by simpa using empty), String.append_assoc]

end Formatter

/-- The condition of a query has a text exactly if something restricts the query. -/
theorem Writer.Candid.filter_ne_empty_iff {w : Writer} (hw : w.Candid) {q : Query}
    (visible : q.VisibleConditions) {s : String} (h : w.filter q = .ok s) :
    s ≠ "" ↔ q.Restricted := by
  rw [Query.restricted_iff visible]
  cases hp : q.predicate? with
  | none =>
    rw [filter_of_predicate?_none hp] at h
    cases h
    simp
  | some e =>
    rw [filter_of_predicate? hp] at h
    simp [hw.expr_eq_empty_iff h]

/-- **Which conditions are written**. Behind an update or a delete, as it is without a condition,
there is a clause exactly if something restricts the query; the text in it is that of the
conditions, and not empty. Otherwise there is nothing. -/
theorem condition_written_iff (settings : Settings) (template : settings.nameFormat ≠ "")
    {q : Query} (kind : q.kind = .ok .update ∨ q.kind = .ok .delete)
    (visible : q.VisibleConditions) {sql : String}
    (h : (Formatter.ofSettings settings).statement q = .ok sql) :
    ∃ head, (Formatter.ofSettings settings).statement q.unconditional = .ok head ∧
      ((∃ condition, sql = head ++ " WHERE " ++ condition) ↔ q.Restricted) ∧
      (∀ condition, sql = head ++ " WHERE " ++ condition → condition ≠ "" ∧
        (Formatter.ofSettings settings).writer.filter q = .ok condition) ∧
      (¬ q.Restricted → sql = head) := by
  set f := Formatter.ofSettings settings
  have candid : f.writer.Candid := Formatter.candid_writer rfl template
  obtain ⟨head, condition, hh, hcondition, rfl⟩ := Formatter.conditional_eq_ok kind h
  have restricted := candid.filter_ne_empty_iff visible hcondition
  refine ⟨head, hh, ?_⟩
  by_cases empty : condition = ""
  · have no : ¬ q.Restricted := fun yes => restricted.2 yes empty
    -- a clause would make the statement longer than it is
    have without (c : String) : head ≠ head ++ " WHERE " ++ c := by
      rw [String.append_assoc]
      intro longer
      have rest := (String.append_right_inj _).1 (String.append_empty.trans longer)
      exact absurd (String.append_eq_empty_iff.1 rest.symm).1 (by decide)
    rw [if_pos empty]
    exact ⟨iff_of_false (fun clause => clause.elim without) no, fun c hc => absurd hc (without c),
      fun _ => rfl⟩
  · rw [if_neg empty]
    refine ⟨iff_of_true ⟨condition, rfl⟩ (restricted.1 empty), fun c hc => ?_,
      fun no => absurd (restricted.1 empty) no⟩
    exact (String.append_right_inj _).1 hc ▸ ⟨empty, hcondition⟩

/-- Old drafts deleted, by one condition among vacuous ones. -/
def purge : Query :=
  { Query.empty with
    collection := some "drafts"
    delete := true
    filter := some (.logical .and
      [.not (.logical .or []), .compare (.member "age") .gt (.lit (.int 9))])
    prepared := some (.not (.logical .or [])) }

/-- A delete with a condition keeps it, and its text. -/
theorem purge_condition_written :
    Settings.plain.nameFormat ≠ "" ∧ purge.kind = .ok .delete ∧ purge.VisibleConditions ∧
      (Formatter.ofSettings .plain).statement purge = .ok "DELETE FROM drafts WHERE (age > 9)" ∧
      purge.Restricted ∧
      ∃ head condition, (Formatter.ofSettings .plain).statement purge.unconditional = .ok head ∧
        "DELETE FROM drafts WHERE (age > 9)" = head ++ " WHERE " ++ condition ∧ condition ≠ "" := by
  -- the only leaf is a comparison
  have visible : purge.VisibleConditions := by
    rintro e (h | h) d hd
    · obtain rfl := Option.some.inj h
      have leaf : d = .compare (.member "age") .gt (.lit (.int 9)) := List.mem_singleton.1 hd
      rw [leaf]
      trivial
    · obtain rfl := Option.some.inj h
      cases hd
  have written : (Formatter.ofSettings .plain).statement purge =
      .ok "DELETE FROM drafts WHERE (age > 9)" := by cbv
  have restricted : purge.Restricted := ⟨_, .inl rfl, rfl⟩
  obtain ⟨head, hh, iff, text, -⟩ :=
    condition_written_iff .plain (by decide) (.inr rfl) visible written
  obtain ⟨condition, hc⟩ := iff.2 restricted
  exact ⟨by decide, rfl, visible, written, restricted, head, condition, hh, hc, (text _ hc).1⟩

end Sift.Sql
