import Sift.Proofs.Sql.Alike
import Sift.Proofs.Sql.Twins
import Sift.Sql.Statement

/-!
# Text constants and the structure of statements

No text constant changes the structure of a statement: with other texts in their places, a predicate
is written if it was, and what is written differs inside string literals only.

* `Formatter.twins_alike`: a formatter against itself, with all texts emptied.
* `same_structure`: two expressions that differ in texts, and their skeletons.
-/

namespace Sift.Sql

/-- A writer of names without quotes is its own twin up to what is in literals. -/
theorem Formatter.twins_alike {settings : Settings} (format : Quoteless settings.nameFormat) :
    Writer.Twins alike Quoteless (ofSettings settings).writer (ofSettings settings).writer where
  names := textClass_quoteless
  name h := (textClass_quoteless.quoteName format h).firmlyAlike
  forceAlias := rfl
  useAliasKeyword := rfl
  functions := rfl
  keeps := FunctionTable.keeps_standard alike

/-- A plain expression is written like the one with its texts emptied. -/
theorem Formatter.expr_alike {settings : Settings} (format : Quoteless settings.nameFormat)
    {e : Expr} (plain : Everywhere Node.Plain (.expr e)) :
    Agree Alike ((ofSettings settings).expr e)
      ((ofSettings settings).expr (e.mapConstants Json.blank)) :=
  (twins_alike format).matches_everywhere (.expr e)
    (plain.mono fun _ h => Writer.fits_of_objectless h.names h.constant)

/-- A text has at most one skeleton, so having the same one is transitive. -/
theorem Alike.trans {s t u : String} (h : Alike s t) (h' : Alike u t) : Alike s u := by
  obtain ⟨m, hs, ht⟩ := h
  obtain ⟨n, hu, ht'⟩ := h'
  have same : m = n := by
    rw [← Option.some.injEq, ← ht.skeleton?_eq, ← ht'.skeleton?_eq]
  exact ⟨m, hs, same ▸ hu⟩

/-- **Text constants do not change the structure** of a predicate. Under a template without a
quote, take an expression with no quote in its names and no object among its constants, and put
any other texts in place of its text constants, at any depth. The one is written exactly when the
other is, and then every literal in both texts is closed and the texts are the same but for their
literals. -/
theorem same_structure (settings : Settings) (format : Quoteless settings.nameFormat) {e e' : Expr}
    (plain : Everywhere Node.Plain (.expr e)) (same : e.SameButTexts e') :
    ((∃ s, (Formatter.ofSettings settings).expr e = .ok s) ↔
      ∃ s', (Formatter.ofSettings settings).expr e' = .ok s') ∧
    ∀ s s', (Formatter.ofSettings settings).expr e = .ok s →
      (Formatter.ofSettings settings).expr e' = .ok s' →
      ∃ m, skeleton? s.toList = some m ∧ skeleton? s'.toList = some m := by
  have plain' : Everywhere Node.Plain (.expr e') := by
    have blank := (Everywhere.mapConstants_iff .blank Node.plain_blank_iff (.expr e)).2 plain
    rw [Node.mapConstants, same] at blank
    exact (Everywhere.mapConstants_iff .blank Node.plain_blank_iff (.expr e')).1 blank
  have run := Formatter.expr_alike format plain
  have run' := Formatter.expr_alike format plain'
  rw [same] at run
  -- with its texts emptied, the one expression is the other
  have both : Agree Alike ((Formatter.ofSettings settings).expr e)
      ((Formatter.ofSettings settings).expr e') :=
    run.comp run'.symm fun _ _ _ h h' => h.trans h'
  refine ⟨both.isOk_iff, fun s s' hs hs' => ?_⟩
  rw [hs, hs'] at both
  obtain ⟨m, hm, hm'⟩ := both.rel
  exact ⟨m, hm.skeleton?_eq, hm'.skeleton?_eq⟩

/-- A prefix in a nested select. -/
def chosenBy (text : String) : Expr :=
  .compare (.member "id") .isIn (.subquery { Query.empty with
    collection := some "users"
    select := some [⟨.member "id", none⟩]
    filter := some (.call "startswith" [.member "name", .lit (.str text)]) })

/-- A quote and a backslash for a plain letter change nothing outside of the literal. -/
theorem chosenBy_same_structure :
    Quoteless Settings.mysql.nameFormat ∧ Everywhere Node.Plain (.expr (chosenBy "a")) ∧
      (chosenBy "a").SameButTexts (chosenBy "'\\") ∧
      ∃ s s' m, (Formatter.ofSettings .mysql).expr (chosenBy "a") = .ok s ∧
        (Formatter.ofSettings .mysql).expr (chosenBy "'\\") = .ok s' ∧
        skeleton? s.toList = some m ∧ skeleton? s'.toList = some m := by
  have plain : Everywhere Node.Plain (.expr (chosenBy "a")) := by
    -- only the members have a name, and only the text is a constant
    have unnamed {n : Node} (h : n.names = []) (h' : n.constant? = none) : n.Plain :=
      Node.plain_of_no_names h h'
    have member {path : String} (h : Quoteless path) :
        Everywhere Node.Plain (.expr (.member path)) :=
      Everywhere.member_iff.2 ⟨by simpa [Node.names, Expr.path?], fun _ h => by cases h⟩
    have text : Everywhere Node.Plain (.expr (.lit (.str "a"))) :=
      Everywhere.lit_iff.2 ⟨by simp [Node.names, Expr.path?], fun v h => by cases h; rfl⟩
    refine Everywhere.compare_iff.2 ⟨unnamed rfl rfl, member (by decide), ?_⟩
    refine Everywhere.subquery_iff.2 ⟨unnamed rfl rfl, Everywhere.query_iff.2 ⟨?_, ?_, ?_⟩⟩
    · exact ⟨by decide, fun _ h => by cases h⟩
    · refine List.forall_mem_cons.2 ⟨member (by decide), List.forall_mem_singleton.2 ?_⟩
      refine Everywhere.call_iff.2 ⟨unnamed rfl rfl, ?_⟩
      exact List.forall_mem_cons.2 ⟨member (by decide), List.forall_mem_singleton.2 text⟩
    · exact fun p h => by cases h
  have same : (chosenBy "a").SameButTexts (chosenBy "'\\") := by
    simp [Expr.SameButTexts, chosenBy, Query.mapConstants_eq, Query.empty, Json.blank]
  have written : ∃ s, (Formatter.ofSettings .mysql).expr (chosenBy "a") = .ok s := by
    -- written step by step, since the walk over an expression recurses on its size
    rw [Formatter.expr, chosenBy, Writer.expr, Writer.expr, Writer.comparisonForm, Writer.set,
      Writer.subselect, Writer.select_of_some rfl,
      Writer.filter_of_predicate?
        (e := .call "startswith" [.member "name", .lit (.str "a")]) rfl]
    simp only [Writer.fields, Writer.joins, Writer.groups, Writer.orders, Writer.expr,
      Writer.operands, Query.empty]
    exact ⟨_, rfl⟩
  obtain ⟨iff, structure'⟩ := same_structure .mysql (by decide) plain same
  obtain ⟨s, hs⟩ := written
  obtain ⟨s', hs'⟩ := iff.1 ⟨s, hs⟩
  obtain ⟨m, hm, hm'⟩ := structure' s s' hs hs'
  exact ⟨by decide, plain, same, s, s', m, hs, hs', hm, hm'⟩

end Sift.Sql
