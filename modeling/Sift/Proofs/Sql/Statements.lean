import Sift.Proofs.Sql.Twins
import Sift.Sql.Statement

/-!
# Statements by two writers

Statements of every kind, written by any writer: with the constants of a formatter or with others in
their places. Two writers that correspond write every statement so.

* `Writer.statement`: a statement by any writer.
* `Writer.FitColumns`: columns with values that two writers write in corresponding ways.
* `Writer.Twins.statement_related`: statements of every kind.
-/

namespace Sift

/-- The columns right in a node that are given values. -/
def Node.columns : Node → List String
  | .expr _ => []
  | .query q => (q.insert.getD [] ++ q.update.getD []).map Prod.fst

end Sift

namespace Sift.Sql.Writer

open Text

variable {C : Correspondence} {N : String → Prop} {w w' : Writer}

/-! ### Statements by any writer -/

section

variable (w) (q : Query)

/-- The condition of a statement by any writer. -/
def whereClause : Except Error String := do
  let condition ← w.filter q
  return if condition.isEmpty then "" else " WHERE " ++ condition

/-- An insert statement by any writer. -/
def insert : Except Error String :=
  match q.insert with
  | none => .error (.format (.notKind .insert))
  | some values => do
    let entity ← q.entity
    let values ← Formatter.someValues .insert values
    let texts ← w.constants (values.map Prod.snd)
    return "INSERT INTO " ++ w.name entity ++ "(" ++ joinWith ", " (values.map (w.name ·.1)) ++
      ") VALUES (" ++ joinWith ", " texts ++ ")"

/-- An update statement by any writer. -/
def update : Except Error String :=
  match q.update with
  | none => .error (.format (.notKind .update))
  | some values => do
    let entity ← q.entity
    let values ← Formatter.someValues .update values
    let texts ← w.constants (values.map Prod.snd)
    let assignments := (values.zip texts).map fun (column, text) => w.name column.1 ++ " = " ++ text
    return "UPDATE " ++ w.name entity ++ " SET " ++ joinWith ", " assignments ++
      (← w.whereClause q)

/-- A delete statement by any writer. -/
def delete : Except Error String :=
  if q.delete then do
    let entity ← q.entity
    return "DELETE FROM " ++ w.name entity ++ (← w.whereClause q)
  else .error (.format (.notKind .delete))

/-- A statement by any writer. -/
def statement : Except Error String := do
  match ← q.kind with
  | .select => if q.hasPaging then w.limitSelect q else w.select q
  | .insert => w.insert q
  | .update => w.update q
  | .delete => w.delete q

end

/-! ### Columns with values -/

/-- Columns with values are written if there are any. -/
theorem someValues_mapValues {kind : Kind} {values : List (String × Json)} (g : Json → Json) :
    Agree (fun a b => a = values ∧ b = mapValues g values) (Formatter.someValues kind values)
      (Formatter.someValues kind (mapValues g values)) := by
  unfold Formatter.someValues
  rw [mapValues, List.isEmpty_map]
  split
  · exact .error _
  · exact .ok ⟨rfl, rfl⟩

theorem map_snd_mapValues (g : Json → Json) (values : List (String × Json)) :
    (mapValues g values).map Prod.snd = (values.map Prod.snd).map g := by
  rw [mapValues, List.map_map, List.map_map]
  rfl

/-- A condition behind a text is set off from it by its keyword, if there is one. -/
theorem whereClause_related {q : Query}
    (h : ∀ e, q.predicate? = some e → Matches C w w' (.expr e)) :
    Agree (fun u v => ∀ s t, C.Rel s t → C.Rel (s ++ u) (t ++ v)) (w.whereClause q)
      (w'.whereClause (q.mapConstants C.constant)) := by
  refine (filter_related h).bind fun u v huv => ?_
  rw [C.isEmpty huv]
  split
  · exact .ok fun s t hst => C.behind hst (by decide)
  · refine .ok fun s t hst => ?_
    have condition := C.between hst (u := " WHERE ") (by decide) (by decide) huv
    simpa only [String.append_assoc] using condition

/-- Columns with values that fit: the columns are names of the class, and the values are written in
corresponding ways. -/
structure FitColumns (C : Correspondence) (N : String → Prop) (w w' : Writer)
    (values : List (String × Json)) : Prop where
  columns : ∀ v ∈ values, N v.1
  values : ∀ v ∈ values, Agree C.Rel (w.constant v.2) (w'.constant (C.constant v.2))

/-- The values of columns that fit are written in corresponding texts, in order. -/
theorem FitColumns.texts {values : List (String × Json)} (h : FitColumns C N w w' values) :
    Agree (List.Forall₂ C.Rel) (w.constants (values.map Prod.snd))
      (w'.constants ((mapValues C.constant values).map Prod.snd)) := by
  rw [map_snd_mapValues]
  exact constants_related_of_each (List.forall_mem_map.2 h.values)

namespace NameTwins

variable (hw : NameTwins C N w w') {q : Query}

include hw

/-- An insert has names, which both quote alike, and values between them. -/
theorem insert_related (collection : ∀ s ∈ q.collection.toList, N s)
    (fit : ∀ values, q.insert = some values → FitColumns C N w w' values) :
    Agree C.Rel (w.insert q) (w'.insert (q.mapConstants C.constant)) := by
  unfold insert
  rw [Query.insert_mapConstants, Query.entity_mapConstants]
  cases hv : q.insert with
  | none => exact .error _
  | some values =>
    have fit := fit values hv
    have columns : List.Forall₂ C.Rel (values.map (w.name ·.1))
        ((mapValues C.constant values).map (w'.name ·.1)) := by
      rw [mapValues, List.map_map, List.forall₂_map_left_iff, List.forall₂_map_right_iff,
        List.forall₂_same]
      exact fun v mem => C.rel (hw.name (fit.columns v mem))
    refine (entity_self collection).bind fun entity _ same => ?_
    obtain ⟨rfl, he⟩ := same
    refine (someValues_mapValues C.constant).bind fun _ _ given => ?_
    obtain ⟨rfl, rfl⟩ := given
    refine fit.texts.bind fun ss ts texts => .ok ?_
    have target := C.firm_append (C.neutral (s := "INSERT INTO ") (by decide)) (hw.name he)
    have named := C.brackets (C.joinWith (u := ", ") (by decide) (by decide) columns)
    have listed := C.brackets (C.joinWith (u := ", ") (by decide) (by decide) texts)
    have values := C.firm_append (C.neutral (s := " VALUES ") (by decide)) listed
    -- the statement is written with one text between the lists, which opens and closes brackets
    have middle : ") VALUES (" = ")" ++ " VALUES " ++ "(" := by decide
    simpa only [middle, String.append_assoc] using
      C.rel (C.firm_append (C.firm_append target named) values)

/-- Columns and their values in an update. -/
theorem assignments_related {values : List (String × Json)} (columns : ∀ v ∈ values, N v.1)
    {ss ts : List String} (texts : List.Forall₂ C.Rel ss ts) :
    List.Forall₂ C.Rel ((values.zip ss).map fun v => w.name v.1.1 ++ " = " ++ v.2)
      (((mapValues C.constant values).zip ts).map fun v => w'.name v.1.1 ++ " = " ++ v.2) := by
  induction values generalizing ss ts with
  | nil => exact .nil
  | cons v values ih =>
    rw [List.forall_mem_cons] at columns
    cases texts with
    | nil => exact .nil
    | cons first rest =>
      have column := C.rel (hw.name columns.1)
      exact .cons (C.between column (by decide) (by decide) first) (ih columns.2 rest)

/-- An update has its assignments and its condition. -/
theorem update_related (collection : ∀ s ∈ q.collection.toList, N s)
    (predicate : ∀ e, q.predicate? = some e → Matches C w w' (.expr e))
    (fit : ∀ values, q.update = some values → FitColumns C N w w' values) :
    Agree C.Rel (w.update q) (w'.update (q.mapConstants C.constant)) := by
  unfold update
  rw [Query.update_mapConstants, Query.entity_mapConstants]
  cases hv : q.update with
  | none => exact .error _
  | some values =>
    have fit := fit values hv
    refine (entity_self collection).bind fun entity _ same => ?_
    obtain ⟨rfl, he⟩ := same
    refine (someValues_mapValues C.constant).bind fun _ _ given => ?_
    obtain ⟨rfl, rfl⟩ := given
    refine fit.texts.bind fun ss ts texts =>
      (whereClause_related predicate).bind fun u v condition => .ok (condition _ _ ?_)
    have assignments := C.joinWith (u := ", ") (by decide) (by decide)
      (hw.assignments_related fit.columns texts)
    have target := C.before (u := "UPDATE ") (by decide) (C.rel (hw.name he))
    exact C.between target (by decide) (by decide) assignments

/-- A delete has its condition only. -/
theorem delete_related (collection : ∀ s ∈ q.collection.toList, N s)
    (predicate : ∀ e, q.predicate? = some e → Matches C w w' (.expr e)) :
    Agree C.Rel (w.delete q) (w'.delete (q.mapConstants C.constant)) := by
  unfold delete
  rw [Query.delete_mapConstants, Query.entity_mapConstants]
  split
  · refine (entity_self collection).bind fun entity _ same => ?_
    obtain ⟨rfl, he⟩ := same
    refine (whereClause_related predicate).bind fun u v condition => .ok (condition _ _ ?_)
    exact C.before (by decide) (C.rel (hw.name he))
  · exact .error _

end NameTwins

/-- **A statement of any kind** is written in corresponding ways if the query fits everywhere, with
the columns that it gives values. -/
theorem Twins.statement_related (hw : Twins C N w w') {q : Query}
    (fits : Everywhere (Fits C N w w') (.query q)) (columns : ∀ s ∈ (Node.query q).columns, N s)
    (values : ∀ v ∈ (Node.query q).constants,
      Agree C.Rel (w.constant v) (w'.constant (C.constant v))) :
    Agree C.Rel (w.statement q) (w'.statement (q.mapConstants C.constant)) := by
  have clauses := hw.matchesQuery_everywhere fits
  -- the columns and values of a statement are those of the query, whichever clause they are in
  have given {vs : List (String × Json)} (h : q.insert = some vs ∨ q.update = some vs) :
      FitColumns C N w w' vs := by
    have inside : ∀ v ∈ vs, v ∈ q.insert.getD [] ++ q.update.getD [] := fun v hv => by
      rcases h with h | h
      · exact List.mem_append_left _ (by rwa [h])
      · exact List.mem_append_right _ (by rwa [h])
    exact ⟨fun v hv => columns v.1 (List.mem_map_of_mem (inside v hv)),
      fun v hv => values v.2 (List.mem_map_of_mem (inside v hv))⟩
  unfold statement
  rw [Query.kind_mapConstants, Query.hasPaging_mapConstants]
  cases q.kind with
  | error e => exact .error e
  | ok kind =>
    rw [ok_bind, ok_bind]
    cases kind with
    | select =>
      dsimp only
      split
      · exact hw.matches_limitSelect clauses
      · exact hw.matches_select clauses
    | insert => exact hw.insert_related clauses.collection fun vs h => given (.inl h)
    | update =>
      exact hw.update_related clauses.collection clauses.predicate fun vs h => given (.inr h)
    | delete => exact hw.delete_related clauses.collection clauses.predicate

end Sift.Sql.Writer
