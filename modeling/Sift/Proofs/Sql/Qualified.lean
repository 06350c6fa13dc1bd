import Mathlib
import Sift.Config.Basic
import Sift.Proofs.Sql.Classes
import Sift.Proofs.Sql.Clauses
import Sift.Proofs.Sql.Templates
import Sift.Sql.Statement

/-!
# Qualified names

A name is put together before it goes under the template in some places of a statement and after it
in others. Both give the same text, so a field is qualified by just what its owner was declared as.

* `Writer.name_append`: names put together; `Writer.name_qualified`: an owner and a field.
* `Writer.Clauses.Referenced`: the columns and join conditions of a select refer to owners as they
  are declared; `Writer.referenced`.
* `Config.placeholder_of_settings`: the template of a configuration has a place for the word.
* `Writer.names_compose`: the properties of the template, for all statements.
-/

namespace Sift

open Text Sql

/-! ### Templates that a configuration chooses -/

/-- The template of every dialect has a place for the name. -/
theorem Settings.placeholder_of_ofDialect {dialect : String} {s : Settings}
    (h : ofDialect dialect = .ok s) : ['$', '1'] <:+: s.nameFormat.toList := by
  unfold ofDialect at h
  split at h <;> cases h <;> exact placeholder_of_indexOf? (by decide)

/-- **The template of a configuration** has a placeholder, or the configuration is refused. -/
theorem Config.placeholder_of_settings {c : Config} {s : Settings} (h : c.settings = .ok s) :
    ['$', '1'] <:+: s.nameFormat.toList := by
  unfold settings at h
  -- a template of one's own is refused without a place for the name; otherwise the dialect's is
  -- used
  cases own : c.nameFormat with
  | some format =>
    by_cases found : (indexOf? ['$', '1'] format.toList).isSome
    · simp only [own, found, if_true] at h
      split at h
      · obtain ⟨preset, _, h⟩ := bind_eq_ok.1 h
        cases h
        exact placeholder_of_indexOf? found
      · cases h
        exact placeholder_of_indexOf? found
    · simp only [own, found] at h
      split at h
      · obtain ⟨preset, _, h⟩ := bind_eq_ok.1 h
        cases h
      · cases h
  | none =>
    simp only [own] at h
    split at h
    · obtain ⟨preset, chosen, h⟩ := bind_eq_ok.1 h
      have placed := Settings.placeholder_of_ofDialect chosen
      cases h
      exact placed
    · have placed : ['$', '1'] <:+: Settings.plain.nameFormat.toList :=
        placeholder_of_indexOf? (by decide)
      cases h
      exact placed

namespace Sql.Writer

variable {w : Writer}

/-! ### Names put together -/

theorem toList_name (s : String) :
    (w.name s).toList = quoteNameChars w.settings.nameFormat.toList s.toList :=
  String.toList_ofList

/-- **Names put together** around a character of no word. -/
theorem name_append {c : Char} (hc : isWord c = false) (a b : String) :
    w.name (a ++ String.singleton c ++ b) = w.name a ++ String.singleton c ++ w.name b := by
  have stop : Follows (!isWord ·) (c :: b.toList) := follows_cons (by rw [hc]; rfl)
  rw [← String.toList_inj]
  simp only [String.toList_append, String.toList_singleton, toList_name, List.append_assoc,
    List.singleton_append]
  rw [quoteNameChars_append stop, quoteNameChars_cons hc]

variable (w) in
/-- A reference to a field of an owner, each under the template. -/
def reference (owner field : String) : String := w.name owner ++ "." ++ w.name field

/-- **A qualified name** is a reference. -/
theorem name_qualified (owner field : String) :
    w.name (owner ++ "." ++ field) = w.reference owner field := by
  have dot : String.singleton '.' = "." := by decide
  rw [reference, ← dot, name_append (by decide)]

/-- A longest run of word characters is filled in where it stands. -/
theorem name_run {front run behind : String}
    (h : WordRun front.toList run.toList behind.toList) :
    (w.name (front ++ run ++ behind)).toList =
      (w.name front).toList ++ fill run.toList w.settings.nameFormat.toList ++
        (w.name behind).toList := by
  simp only [toList_name, String.toList_append]
  exact h.quote

/-- A longest run of word characters stands in its place. -/
theorem name_kept (h : ['$', '1'] <:+: w.settings.nameFormat.toList) :
    ∃ opening : String, ∀ front run behind : String,
      WordRun front.toList run.toList behind.toList → ∃ closing : String,
        w.name (front ++ run ++ behind) =
          w.name front ++ opening ++ run ++ closing ++ w.name behind := by
  obtain ⟨opening, filled⟩ := filled_of_placeholder h
  refine ⟨String.ofList opening, fun front run behind hr => ?_⟩
  obtain ⟨closing, hc⟩ := filled run.toList
  refine ⟨String.ofList closing, ?_⟩
  rw [← String.toList_inj, name_run hr, hc]
  simp only [String.toList_append, String.toList_ofList, List.append_assoc]

theorem toList_joinWith (separator : String) (ss : List String) :
    (joinWith separator ss).toList = separator.toList.intercalate (ss.map String.toList) := by
  induction ss with
  | nil => rfl
  | cons s ss ih =>
    cases ss with
    | nil => simp [joinWith]
    | cons t ss =>
      rw [joinWith_cons_cons, String.toList_append, String.toList_append, ih]
      simp only [List.map_cons, List.intercalate_cons_cons]

/-- The template around its placeholders: a longest run of word characters takes the place of
each, and all else is written as it is. -/
theorem exists_parts (w : Writer) :
    ∃ parts : List String, w.settings.nameFormat = joinWith "$1" parts ∧
      (∀ part ∈ parts, ¬ ['$', '1'] <:+: part.toList) ∧
      ∀ front run behind : String, WordRun front.toList run.toList behind.toList →
        w.name (front ++ run ++ behind) = w.name front ++ joinWith run parts ++ w.name behind := by
  generalize hp : templateParts w.settings.nameFormat.toList = ps
  have texts : (ps.map String.ofList).map String.toList = ps := by simp [List.map_map]
  refine ⟨ps.map String.ofList, ?_, ?_, fun front run behind h => ?_⟩
  · rw [← String.toList_inj, toList_joinWith, texts, ← hp]
    exact (intercalate_templateParts _).symm
  · rw [List.forall_mem_map]
    intro part mem
    rw [String.toList_ofList]
    exact not_placeholder_of_mem (hp ▸ mem)
  · rw [← String.toList_inj, name_run h, fill_eq_intercalate, hp]
    simp only [String.toList_append, toList_joinWith, texts]

/-! ### Owners of fields -/

variable (w) in
/-- A text declares an owner when it ends in its name under the template. -/
def Declares (text owner : String) : Prop := ∃ front, text = front ++ w.name owner

theorem declares_labelled (front label : String) :
    w.Declares (front ++ w.labelled? (some label)) label :=
  ⟨front ++ if w.settings.useAliasKeyword then " AS " else " ", (String.append_assoc ..).symm⟩

theorem declares_name (front owner : String) :
    w.Declares (front ++ w.name owner ++ w.labelled? none) owner :=
  ⟨front, String.append_empty⟩

/-- A member of the entity is selected as a reference to it. -/
theorem fields_references {qualifier : String} {fs : List Field} {ss : List String}
    (h : w.fields qualifier fs = .ok ss) :
    List.Forall₂ (fun f s => ∀ path, ownMember? f.expr = some path →
      s = w.reference qualifier path ++ w.labelled? (w.fieldLabel? f)) fs ss := by
  induction fs generalizing ss with
  | nil =>
    rw [fields] at h
    cases h
    exact .nil
  | cons f fs ih =>
    rw [fields] at h
    -- only a member of the query itself is written without its expression
    cases own : ownMember? f.expr with
    | some path =>
      rw [own] at h
      obtain ⟨s, hs, h⟩ := bind_eq_ok.1 h
      obtain ⟨rest, hrest, h⟩ := bind_eq_ok.1 h
      cases hs
      cases h
      refine .cons (fun _ same => ?_) (ih hrest)
      rw [← Option.some.inj (own.symm.trans same), name_qualified]
    | none =>
      rw [own] at h
      obtain ⟨s, hs, h⟩ := bind_eq_ok.1 h
      obtain ⟨rest, hrest, h⟩ := bind_eq_ok.1 h
      cases h
      exact .cons (fun _ member => by rw [own] at member; cases member) (ih hrest)

/-- What is joined without a label is an entity, which goes by its own name. -/
theorem TargetText.eq_name {t : Target} {s name : String} (h : w.TargetText none t s name) :
    s = w.name name := by
  cases h with
  | entity => rfl
  | query _ hl => cases hl

/-- A condition of columns is written in pairs. -/
theorem OnText.eq_pairs {qualifier joined s : String} {left right : List FieldRef}
    (h : w.OnText qualifier joined (some (.fields left right)) s) :
    s = " ON " ++ w.fieldPairs qualifier joined left right := by
  cases h
  rfl

/-- What is joined by a join, with the label that it gets. -/
def JoinTexts.declared {qualifier : String} {j : Join} (t : w.JoinTexts qualifier j) : String :=
  joinWords j.kind ++ " " ++ t.joined ++ w.labelled? j.label

/-- A join that refers to owners as they are declared: it declares its own side, and each of the
fields that it compares is a reference, to its own entity or to the side that it stands on. -/
structure JoinTexts.Referenced {qualifier : String} {j : Join} (t : w.JoinTexts qualifier j) :
    Prop where
  declared : w.Declares t.declared (j.label.getD t.name)
  pairs : ∀ left right, j.condition = some (.fields left right) →
    t.on = " ON " ++ joinWith " AND " ((left.zip right).map fun (l, r) =>
      w.reference (l.entity.getD qualifier) l.field ++ " = " ++
        w.reference (r.entity.getD (j.label.getD t.name)) r.field)

/-- Both sides of a join are qualified by what they were declared as. -/
theorem JoinTexts.referenced {qualifier : String} {j : Join} (t : w.JoinTexts qualifier j) :
    t.Referenced where
  declared := by
    unfold JoinTexts.declared
    cases label : j.label with
    | some given => exact declares_labelled _ given
    | none =>
      have target := t.target
      rw [label] at target
      rw [target.eq_name]
      exact declares_name _ t.name
  pairs left right fields := by
    have condition := t.condition
    rw [fields] at condition
    rw [condition.eq_pairs]
    simp only [fieldPairs, fieldRef, name_qualified]

/-- A select that refers to owners as they are declared: by the label of the entity or the
entity itself, and by those of the joins. -/
structure Clauses.Referenced {q : Query} (c : w.Clauses q) : Prop where
  declared : w.Declares ("FROM " ++ w.name c.entity ++ w.labelled? q.label) c.qualifier
  columns : List.Forall₂ (fun f s => ∀ path, ownMember? f.expr = some path →
    s = w.reference c.qualifier path ++ w.labelled? (w.fieldLabel? f)) c.selection c.columns
  joins : List.Forall₂ (fun j s => ∃ t : w.JoinTexts c.qualifier j,
    s = t.declared ++ t.on ∧ t.Referenced) q.joins c.joined

/-- All fields of a select are, in the clauses of the joins as well. -/
theorem Clauses.referenced {q : Query} (c : w.Clauses q) : c.Referenced where
  declared := by
    unfold Clauses.qualifier
    cases q.label with
    | some label => exact declares_labelled _ label
    | none => exact declares_name _ _
  columns := fields_references c.fields
  joins := (joins_eq_ok c.joins).imp fun _ _ ⟨t, ht⟩ => ⟨t, ht, t.referenced⟩

/-! ### Statements -/

/-- **Names go under the template piece by piece**, whatever the template is. A name is put together
before the template or after it, around any character of no word; so a qualified member is a
reference, and so are the columns and join conditions of every select, to owners that are declared
by the same text. No template of a configuration loses a word: each longest run of word characters
stands in its place. All of a template but its placeholders is written as it is, other dollar signs
too. -/
theorem names_compose (w : Writer) :
    (∀ (a b : String) (c : Char), isWord c = false →
      w.name (a ++ String.singleton c ++ b) = w.name a ++ String.singleton c ++ w.name b) ∧
    (∀ owner field, w.expr (.member (owner ++ "." ++ field)) = .ok (w.reference owner field)) ∧
    (∀ q s, w.select q = .ok s → ∃ c : w.Clauses q, s = c.text ∧ c.Referenced) ∧
    (∀ c : Config, c.settings = .ok w.settings →
      ∃ opening : String, ∀ front run behind : String,
        WordRun front.toList run.toList behind.toList → ∃ closing : String,
          w.name (front ++ run ++ behind) =
            w.name front ++ opening ++ run ++ closing ++ w.name behind) ∧
    ∃ parts : List String, w.settings.nameFormat = joinWith "$1" parts ∧
      (∀ part ∈ parts, ¬ ['$', '1'] <:+: part.toList) ∧
      ∀ front run behind : String, WordRun front.toList run.toList behind.toList →
        w.name (front ++ run ++ behind) = w.name front ++ joinWith run parts ++ w.name behind := by
  refine ⟨fun a b c hc => name_append hc a b, fun owner field => ?_, fun q s h => ?_,
    fun c hc => name_kept (c.placeholder_of_settings hc), exists_parts w⟩
  · rw [expr, name_qualified]
  · obtain ⟨c, hs⟩ := select_eq_ok h
    exact ⟨c, hs, c.referenced⟩

/-- Users with their votes, both under a label. -/
def usersWithVotes : Query :=
  { Query.empty with
    collection := some "users"
    label := some "u"
    select := some [⟨.member "name", none⟩]
    joins :=
      [⟨.entity "votes", some "v", .inner, some (.fields [⟨none, "id"⟩] [⟨none, "user"⟩])⟩] }

/-- Two collections, one of them with a label, under a template with quotes. -/
theorem usersWithVotes_compose :
    ({ dialect := some "mysql" } : Config).settings = .ok .mysql ∧
      (Formatter.ofSettings .mysql).writer.select usersWithVotes =
        .ok ("SELECT \x60u\x60.\x60name\x60 FROM \x60users\x60 AS \x60u\x60 INNER JOIN " ++
          "\x60votes\x60 AS \x60v\x60 ON \x60u\x60.\x60id\x60 = \x60v\x60.\x60user\x60") ∧
      (∃ c : (Formatter.ofSettings .mysql).writer.Clauses usersWithVotes, c.Referenced) ∧
      isWord '.' = false ∧
      (Formatter.ofSettings .mysql).writer.name ("u" ++ String.singleton '.' ++ "name") =
        (Formatter.ofSettings .mysql).writer.name "u" ++ String.singleton '.' ++
          (Formatter.ofSettings .mysql).writer.name "name" ∧
      WordRun "u.".toList "name".toList "".toList ∧
      ∃ opening closing, (Formatter.ofSettings .mysql).writer.name ("u." ++ "name" ++ "") =
        (Formatter.ofSettings .mysql).writer.name "u." ++ opening ++ "name" ++ closing ++
          (Formatter.ofSettings .mysql).writer.name "" := by
  obtain ⟨together, -, selects, kept, -⟩ := names_compose (Formatter.ofSettings .mysql).writer
  have chosen : ({ dialect := some "mysql" } : Config).settings = .ok .mysql := by cbv
  have written : (Formatter.ofSettings .mysql).writer.select usersWithVotes =
      .ok ("SELECT \x60u\x60.\x60name\x60 FROM \x60users\x60 AS \x60u\x60 INNER JOIN " ++
        "\x60votes\x60 AS \x60v\x60 ON \x60u\x60.\x60id\x60 = \x60v\x60.\x60user\x60") := by cbv
  -- a dot in front and nothing behind keep the word apart
  have run : WordRun "u.".toList "name".toList "".toList := by
    refine ⟨by decide, List.all_eq_true.1 (by decide), fun c hc => ?_, follows_nil⟩
    obtain rfl : '.' = c := Option.some.inj hc
    decide
  obtain ⟨c, -, referenced⟩ := selects _ _ written
  obtain ⟨opening, places⟩ := kept _ chosen
  have apart : isWord '.' = false := by decide
  exact ⟨chosen, written, ⟨c, referenced⟩, apart, together _ _ _ apart, run, opening,
    places _ _ _ run⟩

end Sql.Writer

end Sift
