import Sift.Proofs.Sql.Statements

/-!
# Statements in a dialect

A dialect changes how names are quoted and nothing else: take the quoting characters away wherever
they stand outside literals, and the plain statement is left.

* `unmarked`: a statement without some characters, its literals left as they are.
* `Unmarks`: what is left of a text; `unmarks`: the correspondence of the two.
* `Dialect.unmarks_name`: a name without the marks of its dialect.
* `plain_statement_eq`: a plain statement, from that of a dialect.
-/

namespace Sift

/-- No quoting character in a name or a column, no object as a constant. -/
structure Node.Bare (n : Node) : Prop where
  names : ∀ s ∈ n.names, Sql.Bare s
  columns : ∀ s ∈ n.columns, Sql.Bare s
  constants : n.Objectless

end Sift

namespace Sift.Sql

open Text

/-! ### Marks outside literals -/

mutual

/-- Characters outside literals, without the marks among them. -/
def unmarked (marks : List Char) : List Char → List Char
  | [] => []
  | '\'' :: cs => '\'' :: literalKept marks cs
  | c :: cs => if marks.contains c then unmarked marks cs else c :: unmarked marks cs

/-- Characters inside a literal are kept, up to the quote that closes it. A backslash goes with
the next character. A quote that is written twice closes a literal and opens another with nothing
in between, so it needs no rule of its own. -/
def literalKept (marks : List Char) : List Char → List Char
  | [] => []
  | '\\' :: c :: cs => '\\' :: c :: literalKept marks cs
  | '\'' :: cs => '\'' :: unmarked marks cs
  | c :: cs => c :: literalKept marks cs

end

/-- A text without its marks, except in literals. -/
def withoutMarks (marks : List Char) (s : String) : String :=
  String.ofList (unmarked marks s.toList)

section

variable {marks : List Char}

/-- Outside of a literal, a mark is dropped and anything else is kept. -/
theorem unmarked_cons {c : Char} (hc : c ≠ '\'') (cs : List Char) :
    unmarked marks (c :: cs) =
      if marks.contains c then unmarked marks cs else c :: unmarked marks cs := by
  rw [unmarked.eq_def]
  split
  · next h => cases h
  · next h => exact absurd (List.cons.inj h).1 hc
  · next h =>
    cases h
    rfl

/-- In a literal everything is kept. -/
theorem literalKept_cons {c : Char} (hb : c ≠ '\\') (hq : c ≠ '\'') (cs : List Char) :
    literalKept marks (c :: cs) = c :: literalKept marks cs := by
  rw [literalKept.eq_def]
  split <;> simp_all

/-- Bare characters are kept where no mark is among them. -/
theorem unmarked_append {cs : List Char} (h : ∀ c ∈ cs, isQuoting c = false)
    (hm : marks.all isQuoting = true) (rest : List Char) :
    unmarked marks (cs ++ rest) = cs ++ unmarked marks rest := by
  induction cs with
  | nil => rfl
  | cons c cs ih =>
    rw [List.forall_mem_cons] at h
    have quote : c ≠ '\'' := by
      rintro rfl
      exact absurd h.1 (by decide)
    have unlisted : marks.contains c = false := by
      by_contra hc
      rw [Bool.not_eq_false, List.contains_iff_mem] at hc
      exact absurd (List.all_eq_true.1 hm c hc) (by simp [h.1])
    rw [List.cons_append, unmarked_cons quote, unlisted, ih h.2]
    rfl

/-- A character that was written in a literal is kept, whatever stands for it. -/
theorem literalKept_escapeChar (c : Char) (rest : List Char) :
    literalKept marks (escapeChar c ++ rest) = escapeChar c ++ literalKept marks rest := by
  unfold escapeChar
  split
  case h_7 =>
    -- a doubled quote leaves the literal and comes back to it
    simp only [List.cons_append, List.nil_append, literalKept, unmarked]
  case h_10 hq _ hb => exact literalKept_cons hb hq rest
  all_goals simp only [List.cons_append, List.nil_append, literalKept]

/-- An escaped text is kept up to the quote that closes it. -/
theorem literalKept_flatMap (cs rest : List Char) :
    literalKept marks (cs.flatMap escapeChar ++ '\'' :: rest) =
      cs.flatMap escapeChar ++ '\'' :: unmarked marks rest := by
  induction cs with
  | nil => rw [List.flatMap_nil, List.nil_append, List.nil_append, literalKept]
  | cons c cs ih =>
    rw [List.flatMap_cons, List.append_assoc, literalKept_escapeChar, ih, List.append_assoc]

end

/-- What is left of a text, in front of anything, when its marks are taken away. -/
structure Unmarks (marks : List Char) (s t : String) : Prop where
  left (rest : List Char) :
    unmarked marks (s.toList ++ rest) = t.toList ++ unmarked marks rest
  isEmpty : s.isEmpty = t.isEmpty

/-- What is left of a whole text is what is left in front of nothing. -/
theorem Unmarks.withoutMarks_eq {marks : List Char} {s t : String} (h : Unmarks marks s t) :
    withoutMarks marks s = t := by
  have all := h.left []
  rw [List.append_nil, unmarked, List.append_nil] at all
  rw [withoutMarks, all, String.ofList_toList]

/-- Where both texts begin and end outside of literals, so does what they are joined to. -/
theorem Unmarks.append {marks : List Char} {s t u v : String} (h : Unmarks marks s t)
    (h' : Unmarks marks u v) : Unmarks marks (s ++ u) (t ++ v) := by
  refine ⟨fun rest => ?_, ?_⟩
  · rw [String.toList_append, List.append_assoc, h.left, h'.left, String.toList_append,
      List.append_assoc]
  · have first : s = "" ↔ t = "" := by rw [← String.isEmpty_iff, h.isEmpty, String.isEmpty_iff]
    have second : u = "" ↔ v = "" := by
      rw [← String.isEmpty_iff, h'.isEmpty, String.isEmpty_iff]
    rw [Bool.eq_iff_iff, String.isEmpty_iff, String.isEmpty_iff, String.append_eq_empty_iff,
      String.append_eq_empty_iff, first, second]

/-- A text without quoting characters has no mark to lose. -/
theorem Bare.unmarks {marks : List Char} {s : String} (h : Bare s)
    (hm : marks.all isQuoting = true) : Unmarks marks s s :=
  ⟨fun rest => unmarked_append (bare_iff.1 h) hm rest, rfl⟩

/-- A literal keeps everything in it. -/
theorem unmarks_quoteText (marks : List Char) (s : String) :
    Unmarks marks (quoteText s) (quoteText s) := by
  refine ⟨fun rest => ?_, rfl⟩
  rw [quoteText, String.toList_ofList, quoteChars, List.append_assoc, List.cons_append,
    List.singleton_append, unmarked, literalKept_flatMap]
  simp

/-- The correspondence of texts with what is left of them. Marks that quote names are taken away
part by part, and the constants stay. -/
def unmarks {marks : List Char} (hm : marks.all isQuoting = true) : Correspondence where
  Rel := Unmarks marks
  Firm := Unmarks marks
  constant := id
  text := id
  changes := Json.changesTexts_id
  rel h := h
  neutral h := h.1.unmarks hm
  append := Unmarks.append
  firm_append := Unmarks.append
  closed h _ hu := h.append (hu.1.unmarks hm)
  brackets h := by
    have bracket {s : String} (hs : Bare s) := hs.unmarks hm
    exact ((bracket (by decide)).append h).append (bracket (by decide))
  literal _ _ := unmarks_quoteText marks _
  isEmpty h := h.isEmpty

/-! ### Dialects -/

/-- The dialects that quote names. -/
inductive Dialect where
  | mysql
  | postgres
  | mssql
  deriving DecidableEq, Repr

namespace Dialect

/-- The preset of a dialect. -/
def preset : Dialect → Settings
  | mysql => .mysql
  | postgres => .postgres
  | mssql => .mssql

/-- The character in front of a name. -/
def opening : Dialect → Char
  | mysql => '\x60'
  | postgres => '"'
  | mssql => '['

/-- The character behind a name. -/
def closing : Dialect → Char
  | mysql => '\x60'
  | postgres => '"'
  | mssql => ']'

/-- The quoting characters of a dialect. -/
def marks (d : Dialect) : List Char := [d.opening, d.closing]

theorem all_marks (d : Dialect) : d.marks.all isQuoting = true := by cases d <;> decide

theorem nameFormat_toList (d : Dialect) :
    d.preset.nameFormat.toList = [d.opening, '$', '1', d.closing] := by cases d <;> decide

theorem fill_nameFormat (d : Dialect) (word : List Char) :
    fill word d.preset.nameFormat.toList = d.opening :: word ++ [d.closing] := by
  rw [nameFormat_toList]
  cases d <;> simp [fill, opening, closing]

theorem unmarked_opening (d : Dialect) (cs : List Char) :
    unmarked d.marks (d.opening :: cs) = unmarked d.marks cs := by
  rw [unmarked_cons (by cases d <;> decide), if_pos (by cases d <;> decide)]

theorem unmarked_closing (d : Dialect) (cs : List Char) :
    unmarked d.marks (d.closing :: cs) = unmarked d.marks cs := by
  rw [unmarked_cons (by cases d <;> decide), if_pos (by cases d <;> decide)]

/-- A name in a dialect is the name as it is, once the marks are taken away. -/
theorem unmarked_quoteNameChars (d : Dialect) (name rest : List Char)
    (bare : ∀ c ∈ name, isQuoting c = false) :
    unmarked d.marks (quoteNameChars d.preset.nameFormat.toList name ++ rest) =
      name ++ unmarked d.marks rest := by
  -- each run of word characters has a mark on either side, and the rest of the name has none
  fun_induction quoteNameChars d.preset.nameFormat.toList name with
  | case1 => rfl
  | case2 c cs _ ih =>
    have split : c :: cs = (c :: cs.takeWhile isWord) ++ cs.dropWhile isWord := by
      rw [List.cons_append, List.takeWhile_append_dropWhile]
    rw [split, List.forall_mem_append] at bare
    rw [fill_nameFormat, List.append_assoc, List.append_assoc, List.cons_append, unmarked_opening,
      unmarked_append bare.1 d.all_marks, List.singleton_append, unmarked_closing, ih bare.2]
    rw [← List.append_assoc, ← split]
  | case3 c cs _ ih =>
    rw [List.forall_mem_cons] at bare
    have alone : ∀ a ∈ [c], isQuoting a = false := List.forall_mem_singleton.2 bare.1
    have first := unmarked_append alone d.all_marks
    rw [List.cons_append, ← List.singleton_append, first, ih bare.2]
    rfl

/-- A quoted name is empty only if the name is. -/
theorem quoteNameChars_eq_nil_iff (d : Dialect) (name : List Char) :
    quoteNameChars d.preset.nameFormat.toList name = [] ↔ name = [] := by
  cases name with
  | nil => simp [quoteNameChars]
  | cons c cs =>
    rw [quoteNameChars]
    split <;> simp [fill_nameFormat]

end Dialect

/-- The plain template leaves names as they are. -/
theorem quoteName_plain (s : String) : quoteName Settings.plain.nameFormat s = s := by
  have template : Settings.plain.nameFormat.toList = ['$', '1'] := by decide
  have kept (name : List Char) : quoteNameChars ['$', '1'] name = name := by
    fun_induction quoteNameChars ['$', '1'] name with
    | case1 => rfl
    | case2 c cs _ ih =>
      rw [ih, fill, fill, List.append_nil, List.cons_append, List.takeWhile_append_dropWhile]
    | case3 c cs _ ih => rw [ih]
  rw [quoteName, template, kept, String.ofList_toList]

/-- A quoted name without its marks is the name. -/
theorem Dialect.unmarks_name (d : Dialect) {s : String} (bare : Bare s) :
    Unmarks d.marks (quoteName d.preset.nameFormat s) s := by
  refine ⟨fun rest => ?_, ?_⟩
  · rw [quoteName, String.toList_ofList]
    exact d.unmarked_quoteNameChars _ rest (bare_iff.1 bare)
  · rw [Bool.eq_iff_iff, String.isEmpty_iff, String.isEmpty_iff, ← String.toList_eq_nil_iff,
      ← String.toList_eq_nil_iff, quoteName, String.toList_ofList, d.quoteNameChars_eq_nil_iff]

/-! ### Statements -/

/-- Settings with other labels. -/
def Settings.withLabels (settings : Settings) (forceAlias useAliasKeyword : Bool) : Settings :=
  { settings with forceAlias := forceAlias, useAliasKeyword := useAliasKeyword }

/-- A formatter of a dialect and the plain one are twins up to the marks of the dialect. -/
theorem Dialect.twins (d : Dialect) (forceAlias useAliasKeyword : Bool) :
    Writer.Twins (unmarks d.all_marks) Bare
      (Formatter.ofSettings (Settings.withLabels d.preset forceAlias useAliasKeyword)).writer
      (Formatter.ofSettings (Settings.withLabels .plain forceAlias useAliasKeyword)).writer where
  names := textClass_bare
  name {s} bare := by
    have plain : (Formatter.ofSettings (Settings.withLabels .plain forceAlias
        useAliasKeyword)).writer.name s = s := quoteName_plain s
    rw [plain]
    exact d.unmarks_name bare
  forceAlias := rfl
  useAliasKeyword := rfl
  functions := rfl
  keeps := FunctionTable.keeps_standard _

/-- **A dialect changes the quoting of names only.** Take a query of any kind with no quoting
character in a name or a column and no object among its constants, at any depth, and write it in a
dialect and plainly, with the same choice of labels. Either both end in the same fault, or the plain
statement is that of the dialect without the quoting characters that stand outside literals. -/
theorem plain_statement_eq (d : Dialect) (forceAlias useAliasKeyword : Bool) {q : Query}
    (bare : Everywhere Node.Bare (.query q)) :
    (Formatter.ofSettings (Settings.withLabels .plain forceAlias useAliasKeyword)).statement q =
      ((Formatter.ofSettings (Settings.withLabels d.preset forceAlias useAliasKeyword)).statement
        q).map (withoutMarks d.marks) := by
  -- a constant of a bare tree has no object, so that both writers make the same of it
  have constant {n : Node} (h : n.Bare) (v : Json) (hv : n.constant? = some v) :
      v.hasObject = false := by
    refine h.constants v ?_
    cases n with
    | expr e => exact Option.mem_toList.2 hv
    | query q => cases hv
  have run := (d.twins forceAlias useAliasKeyword).statement_related
    (bare.mono fun _ h => Writer.fits_of_objectless h.names (constant h)) bare.here.columns
    fun v hv => Writer.constant_related v (bare.here.constants v hv)
  -- no constant is changed, since this correspondence is about marks only
  rw [show (unmarks d.all_marks).constant = id from rfl, q.mapConstants_id] at run
  change Agree (Unmarks d.marks)
    ((Formatter.ofSettings (Settings.withLabels d.preset forceAlias useAliasKeyword)).statement q)
    ((Formatter.ofSettings (Settings.withLabels .plain forceAlias useAliasKeyword)).statement q)
    at run
  generalize (Formatter.ofSettings _).statement q = quoted at run ⊢
  generalize (Formatter.ofSettings _).statement q = plain at run ⊢
  cases run with
  | ok h => rw [Except.map, h.withoutMarks_eq]
  | error e => rfl

/-- Users whose name contains a text. -/
def usersNamed (text : String) : Query :=
  { Query.empty with
    collection := some "users"
    label := some "u"
    select := some [⟨.member "id", none⟩]
    filter := some (.call "contains" [.member "u.name", .lit (.str text)]) }

/-- Votes of such users, with a note. -/
def annotated (text : String) : Query :=
  { Query.empty with
    collection := some "dbo.votes"
    update := some [("note", .str text)]
    filter := some (.compare (.member "voter") .isIn (.subquery (usersNamed text))) }

/-- All names in the query are free of quoting characters. -/
theorem bare_annotated (text : String) : Everywhere Node.Bare (.query (annotated text)) := by
  -- a node without names of its own, without columns and without constants is bare
  have unnamed {n : Node} (names : n.names = []) (columns : n.columns = [])
      (constants : n.constants = []) : n.Bare :=
    ⟨by simp [names], by simp [columns], fun v hv => by simp [constants] at hv⟩
  have member {path : String} (h : Bare path) : Everywhere Node.Bare (.expr (.member path)) :=
    Everywhere.member_iff.2 ⟨by simpa [Node.names, Expr.path?], (fun _ hs => by cases hs),
      (fun _ hv => by cases hv)⟩
  have constant : Everywhere Node.Bare (.expr (.lit (.str text))) := by
    refine Everywhere.lit_iff.2 ⟨(fun _ hs => by cases hs), (fun _ hs => by cases hs), ?_⟩
    simp [Node.Objectless, Node.constants, Expr.literal?, Json.hasObject]
  have inner : Everywhere Node.Bare (.query (usersNamed text)) := by
    refine Everywhere.query_iff.2 ⟨⟨?_, (fun _ hs => by cases hs), (fun _ hv => by cases hv)⟩, ?_,
      (fun _ hp => by cases hp)⟩
    · have names : (Node.query (usersNamed text)).names = ["users", "u"] := rfl
      rw [names]
      decide
    · refine List.forall_mem_cons.2 ⟨member (by decide), List.forall_mem_singleton.2 ?_⟩
      refine Everywhere.call_iff.2 ⟨unnamed rfl rfl rfl, ?_⟩
      exact List.forall_mem_cons.2 ⟨member (by decide), List.forall_mem_singleton.2 constant⟩
  refine Everywhere.query_iff.2 ⟨⟨?_, ?_, ?_⟩, List.forall_mem_singleton.2 ?_,
    (fun _ hp => by cases hp)⟩
  · have names : (Node.query (annotated text)).names = ["dbo.votes"] := rfl
    rw [names]
    decide
  · have columns : (Node.query (annotated text)).columns = ["note"] := rfl
    rw [columns]
    decide
  · have constants : (Node.query (annotated text)).constants = [.str text] := rfl
    simp [Node.Objectless, constants, Json.hasObject]
  · exact Everywhere.compare_iff.2 ⟨unnamed rfl rfl rfl, member (by decide),
      Everywhere.subquery_iff.2 ⟨unnamed rfl rfl rfl, inner⟩⟩

theorem annotated_statement :
    Everywhere Node.Bare (.query (annotated "[it's]")) ∧
      ∃ s, (Formatter.ofSettings (Settings.withLabels .mssql true false)).statement
          (annotated "[it's]") = .ok s ∧
        (Formatter.ofSettings (Settings.withLabels .plain true false)).statement
          (annotated "[it's]") = .ok (withoutMarks ['[', ']'] s) := by
  have update : (annotated "[it's]").kind = .ok .update := rfl
  have nested : (usersNamed "[it's]").kind = .ok .select := rfl
  have written : ∃ s, (Formatter.ofSettings (Settings.withLabels .mssql true false)).statement
      (annotated "[it's]") = .ok s := by
    -- written step by step, since the walk over an expression recurses on its size
    rw [Formatter.statement, update, ok_bind, Formatter.update, Formatter.whereClause,
      Writer.filter_of_predicate?
        (e := .compare (.member "voter") .isIn (.subquery (usersNamed "[it's]"))) rfl,
      Writer.expr, Writer.expr, Writer.comparisonForm, Writer.set, Writer.subselect, nested,
      Writer.select_of_some rfl,
      Writer.filter_of_predicate?
        (e := .call "contains" [.member "u.name", .lit (.str "[it's]")]) rfl]
    simp only [usersNamed, Query.empty, Writer.fields, Writer.joins, Writer.groups, Writer.orders,
      Writer.expr, Writer.operands]
    exact ⟨_, rfl⟩
  have bare := bare_annotated "[it's]"
  have plain := plain_statement_eq .mssql true false bare
  obtain ⟨s, hs⟩ := written
  refine ⟨bare, s, hs, ?_⟩
  rw [plain]
  exact congrArg (Except.map _) hs

end Sift.Sql
