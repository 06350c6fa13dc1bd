import Sift.Proofs.Sql.Correspondence
import Sift.Proofs.Steps
import Sift.Sql.Function

/-!
# Calls of corresponding arguments

A call is written in the same way whatever corresponding texts its arguments have: a constant text
is used only inside one literal, and what stands between the arguments is neutral.

* `Operand.Related`: two arguments that correspond.
* `Renderer.Keeps`: from such arguments, a renderer makes such texts.
* `FunctionTable.keeps_standard`: all the built-in functions do.
-/

namespace Sift.Sql

open Text Number

/-- Two arguments that correspond: their texts do, and the expressions are the same up to texts. -/
structure Operand.Related (C : Correspondence) (a b : Operand) : Prop where
  expr : b.expr = a.expr.mapConstants C.constant
  sql : Agree C.Rel a.sql b.sql

namespace Operand.Related

variable {C : Correspondence} {a b : Operand}

/-- What a function looks for in a constant text, it finds in the corresponding one. -/
theorem string? (h : a.Related C b) : b.string? = a.string?.map C.text := by
  rw [Operand.string?, Operand.string?, h.expr]
  rcases a.expr with v | _ <;> try simp
  cases v with
  | obj fields =>
    obtain ⟨fields', hf⟩ := C.changes.obj fields
    simp [hf]
  | _ => simp [C.changes.null, C.changes.bool, C.changes.int, C.changes.float, C.changes.str,
      C.changes.arr]

/-- Integers are the same for both, since only texts are changed. -/
theorem signed? (h : a.Related C b) : b.signed? = a.signed? := by
  rw [Operand.signed?, Operand.signed?, h.expr]
  rcases a.expr with v | _ <;> try simp
  cases v with
  | obj fields =>
    obtain ⟨fields', hf⟩ := C.changes.obj fields
    simp [hf, Json.signed?]
  | _ => simp [C.changes.null, C.changes.bool, C.changes.int, C.changes.float, C.changes.str,
      C.changes.arr, Json.signed?]

end Operand.Related

/-- A renderer that makes corresponding texts of corresponding arguments. -/
def Renderer.Keeps (C : Correspondence) (r : Renderer) : Prop :=
  ∀ as bs, List.Forall₂ (Operand.Related C) as bs → Agree C.Rel (r as) (r bs)

namespace Renderer

variable {C : Correspondence}

/-! ### Numbers of arguments -/

/-- A call of too many arguments or too few is refused by both with one fault. -/
theorem refuse_related (name : String) (arity : Arity) {as bs : List Operand}
    (h : List.Forall₂ (Operand.Related C) as bs) :
    Agree C.Rel (refuse name arity as) (refuse name arity bs) := by
  rw [refuse, refuse, h.length_eq]
  exact .error _

/-- A function of one argument keeps the correspondence if what it writes of one does. -/
theorem keeps_unary {name : String} {write : Operand → Except Error String}
    (h : ∀ a b, a.Related C b → Agree C.Rel (write a) (write b)) : Keeps C (unary name write) := by
  intro as bs hab
  rcases hab with - | ⟨h₁, - | ⟨h₂, rest⟩⟩
  · exact .error _
  · exact h _ _ h₁
  · exact refuse_related name _ (.cons h₁ (.cons h₂ rest))

/-- So does a function of two. -/
theorem keeps_binary {name : String} {write : Operand → Operand → Except Error String}
    (h : ∀ a b c d, a.Related C b → c.Related C d → Agree C.Rel (write a c) (write b d)) :
    Keeps C (binary name write) := by
  intro as bs hab
  rcases hab with - | ⟨h₁, - | ⟨h₂, - | ⟨h₃, rest⟩⟩⟩
  · exact .error _
  · exact refuse_related name _ (.cons h₁ .nil)
  · exact h _ _ _ _ h₁ h₂
  · exact refuse_related name _ (.cons h₁ (.cons h₂ (.cons h₃ rest)))

/-! ### Calls -/

theorem keeps_apply (name : String) {sql : String} (hs : Neutral sql) :
    Keeps C (apply name sql) :=
  keeps_unary fun _ _ hab => hab.sql.bind fun _ _ hst => .ok (C.rel (C.enclosed ⟨sql, hs, rfl⟩ hst))

/-- An operation is put together from its operands with neutral text between and around them. -/
theorem keeps_infixed (name : String) {symbol : String} (hs : Neutral symbol) :
    Keeps C (infixed name symbol) := by
  refine keeps_binary fun _ _ _ _ hab hcd => hab.sql.bind fun s t hst =>
    hcd.sql.bind fun u v huv => .ok ?_
  have spaced : Neutral (" " ++ symbol ++ " ") :=
    textClass_neutral.append (textClass_neutral.append (by decide) hs) (by decide)
  have apart : " " ++ symbol ++ " " ≠ "" := fun h =>
    absurd (String.append_eq_empty_iff.1 h).2 (by decide)
  have inside := C.rel (C.brackets (C.between hst apart spaced huv))
  simpa only [String.append_assoc] using inside

/-- A call of any arguments is the list of them in brackets. -/
theorem keeps_anyArguments {sql : String} (hs : Neutral sql) : Keeps C (anyArguments sql) := by
  intro as bs h
  have texts := Agree.mapM h fun a b hab => hab.sql
  have list : Agree C.Rel (Operand.list as) (Operand.list bs) :=
    texts.bind fun ss ts h => .ok (C.joinWith (by decide) (by decide) h)
  exact list.bind fun s t hst => .ok (C.rel (C.enclosed ⟨sql, hs, rfl⟩ hst))

theorem keeps_concat (name : String) : Keeps C (concat name) := by
  intro as bs h
  cases h with
  | nil => exact .error _
  | cons h₁ rest =>
    exact keeps_anyArguments (by decide : Neutral "CONCAT") _ _ (.cons h₁ rest)

theorem keeps_locate (name : String) : Keeps C (locate name) :=
  keeps_binary fun _ _ _ _ hab hcd => hcd.sql.bind fun _ _ huv => hab.sql.bind fun _ _ hst =>
    .ok (C.pair (u := "LOCATE(") ⟨"LOCATE", by decide, by decide⟩ huv hst)

theorem keeps_coalesce (name : String) : Keeps C (coalesce name) :=
  keeps_binary fun _ _ _ _ hab hcd => hab.sql.bind fun _ _ hst => hcd.sql.bind fun _ _ huv =>
    .ok (C.pair (u := "COALESCE(") ⟨"COALESCE", by decide, by decide⟩ hst huv)

/-! ### Positions -/

/-- A position is an integer, the same for both, or an addition to the argument's text. -/
theorem fromOne_related {a b : Operand} (h : a.Related C b) :
    Agree C.Rel (fromOne a) (fromOne b) := by
  unfold fromOne
  rw [h.signed?]
  dsimp only
  split
  · exact .ok (C.refl (textClass_neutral.intText _))
  · exact h.sql.bind fun s t hst => .ok (C.behind hst (by decide))

/-- A part has a position, and a length if one is given. -/
theorem keeps_substring (name : String) : Keeps C (substring name) := by
  intro as bs hab
  have opens : Opens "SUBSTRING(" := ⟨"SUBSTRING", by decide, by decide⟩
  rcases hab with - | ⟨h₁, - | ⟨h₂, - | ⟨h₃, - | ⟨h₄, rest⟩⟩⟩⟩
  · exact .error _
  · exact refuse_related name _ (.cons h₁ .nil)
  · exact (fromOne_related h₂).bind fun _ _ hp => h₁.sql.bind fun _ _ hst =>
      .ok (C.pair opens hst hp)
  · refine (fromOne_related h₂).bind fun p p' hp => h₁.sql.bind fun s t hst =>
      h₃.sql.bind fun l l' hl => .ok ?_
    have rest := C.between hp (u := ", ") (by decide) (by decide) hl
    simpa only [String.append_assoc] using C.pair opens hst rest
  · exact refuse_related name _ (.cons h₁ (.cons h₂ (.cons h₃ (.cons h₄ rest))))

/-! ### Patterns -/

/-- A match puts two texts together. -/
theorem matching_related {s t u v : String} (h : C.Rel s t) (h' : C.Rel u v) :
    C.Rel (matching s u) (matching t v) := by
  have inside := C.rel (C.brackets (C.between h (u := " REGEXP ") (by decide) (by decide) h'))
  simpa only [matching, String.append_assoc] using inside

/-- A match against a pattern with a text in front of it and a text behind it. A constant is made a
pattern here, anything else by the database. -/
def anchored (name : String) (pattern : String → String) (front back : String) : Renderer :=
  binary name fun a b => do
    let pattern ← match b.string? with
      | some s => pure (quoteText (pattern s))
      | none => do pure (front ++ (← b.sql) ++ back)
    return matching (← a.sql) pattern

theorem startsWith_eq_anchored (name : String) :
    startsWith name = anchored name (fun s => String.ofList ('^' :: escapePattern s.toList))
      "CONCAT('^', " ")" := rfl

theorem endsWith_eq_anchored (name : String) :
    endsWith name = anchored name (fun s => String.ofList (escapePattern s.toList ++ ['$']))
      "CONCAT(" ", '$')" := rfl

/-- The anchor is a part of the constant pattern, or stands beside the argument; for both sides of
the text alike. -/
theorem keeps_anchored (name : String) (pattern : String → String) {front back : String}
    (framed : ∀ s t, C.Rel s t → C.Rel (front ++ s ++ back) (front ++ t ++ back)) :
    Keeps C (anchored name pattern front back) := by
  refine keeps_binary fun a b c d hab hcd => ?_
  have matched {p p' : String} (hp : C.Rel p p') := hab.sql.bind fun s t hst =>
    Agree.ok (ε := Error) (matching_related hst hp)
  rw [hcd.string?]
  cases c.string? with
  | some s => exact matched (C.literal pattern s)
  | none => exact hcd.sql.bind fun u v huv => matched (framed u v huv)

theorem keeps_startsWith (name : String) : Keeps C (startsWith name) := by
  rw [startsWith_eq_anchored]
  refine keeps_anchored name _ fun s t h => ?_
  -- the anchor is a literal of its own in front of the pattern
  have anchor := C.between (C.literal (fun _ => "^") "") (u := ", ") (by decide) (by decide) h
  have call := C.rel (C.enclosed ⟨"CONCAT", by decide, rfl⟩ anchor)
  have front : "CONCAT('^', " = "CONCAT" ++ "(" ++ (quoteText "^" ++ ", ") := by decide
  rw [front]
  simpa only [String.append_assoc] using call

theorem keeps_endsWith (name : String) : Keeps C (endsWith name) := by
  rw [endsWith_eq_anchored]
  refine keeps_anchored name _ fun s t h => ?_
  have anchor := C.between h (u := ", ") (by decide) (by decide) (C.literal (fun _ => "$") "")
  have call := C.rel (C.enclosed ⟨"CONCAT", by decide, rfl⟩ anchor)
  have front : "CONCAT(" = "CONCAT" ++ "(" := by decide
  have back : ", '$')" = ", " ++ quoteText "$" ++ ")" := by decide
  rw [front, back]
  simpa only [String.append_assoc] using call

/-- A constant pattern is escaped inside of one literal; any other is the argument's text. -/
theorem literalPattern_related {a b : Operand} (h : a.Related C b) :
    Agree C.Rel (literalPattern a) (literalPattern b) := by
  unfold literalPattern
  rw [h.string?]
  cases a.string? with
  | some s => exact .ok (C.literal (fun s => String.ofList (escapePattern s.toList)) s)
  | none => exact h.sql

theorem keeps_contains (name : String) : Keeps C (contains name) :=
  keeps_binary fun _ _ _ _ hab hcd => hab.sql.bind fun _ _ hst =>
    (literalPattern_related hcd).bind fun _ _ hp => .ok (matching_related hst hp)

theorem keeps_substringOf (name : String) : Keeps C (substringOf name) :=
  keeps_binary fun _ _ _ _ hab hcd => hcd.sql.bind fun _ _ hst =>
    (literalPattern_related hab).bind fun _ _ hp => .ok (matching_related hst hp)

theorem keeps_rawPattern (name : String) : Keeps C (rawPattern name) :=
  keeps_binary fun _ _ _ _ hab hcd => hab.sql.bind fun _ _ hst => hcd.sql.bind fun _ _ hp =>
    .ok (matching_related hst hp)

/-! ### Arguments that may be missing -/

theorem keeps_round (name : String) : Keeps C (round name) := by
  intro as bs hab
  have opens : Opens "ROUND(" := ⟨"ROUND", by decide, by decide⟩
  rcases hab with - | ⟨h₁, - | ⟨h₂, - | ⟨h₃, rest⟩⟩⟩
  · exact .error _
  · refine h₁.sql.bind fun s t hst => .ok ?_
    have back : ", 0)" = ", 0" ++ ")" := by decide
    have call := C.rel (C.enclosed opens (C.behind hst (u := ", 0") (by decide)))
    simpa only [back, String.append_assoc] using call
  · exact h₂.sql.bind fun _ _ hp => h₁.sql.bind fun _ _ hst => .ok (C.pair opens hst hp)
  · exact refuse_related name _ (.cons h₁ (.cons h₂ (.cons h₃ rest)))

theorem keeps_count (name : String) : Keeps C (count name) := by
  intro as bs hab
  have opens : Opens "COUNT(" := ⟨"COUNT", by decide, by decide⟩
  rcases hab with - | ⟨h₁, - | ⟨h₂, rest⟩⟩
  · have rows : "COUNT(*)" = "COUNT(" ++ "*" ++ ")" := by decide
    rw [count, rows]
    exact .ok (C.rel (C.enclosed opens (C.refl (by decide))))
  · exact h₁.sql.bind fun _ _ hst => .ok (C.rel (C.enclosed opens hst))
  · exact refuse_related name _ (.cons h₁ (.cons h₂ rest))

end Renderer

namespace FunctionTable

open Renderer

variable {C : Correspondence}

/-- A table of renderers that keep a correspondence. -/
def Keeps (C : Correspondence) (table : FunctionTable) : Prop := ∀ entry ∈ table, entry.2.Keeps C

/-- **The built-in functions keep every correspondence**: what they write differs no more than the
arguments do. -/
theorem keeps_standard (C : Correspondence) : standard.Keeps C := by
  unfold FunctionTable.Keeps standard
  simp (disch := decide) only [List.forall_mem_cons, keeps_apply, keeps_infixed, keeps_concat,
    keeps_locate, keeps_substring, keeps_startsWith, keeps_endsWith, keeps_contains,
    keeps_substringOf, keeps_rawPattern, keeps_round, keeps_coalesce, keeps_count, true_and]
  exact fun entry h => absurd h List.not_mem_nil

/-- Every table keeps the correspondence of texts with themselves. -/
theorem keeps_same (table : FunctionTable) : table.Keeps .same := by
  intro entry _ as bs h
  have same : List.Forall₂ Eq as bs := by
    refine h.imp fun a b hab => ?_
    obtain ⟨e, x⟩ := a
    obtain ⟨d, y⟩ := b
    have expr : d = e := hab.expr.trans e.mapConstants_id
    have sql : x = y := Agree.eq_iff.1 hab.sql
    rw [expr, sql]
  rw [List.forall₂_eq_eq_eq] at same
  exact Agree.eq_iff.2 (congrArg entry.2 same)

/-- A table whose functions keep the correspondence keeps it for calls by name, unknown names
included. -/
theorem Keeps.render {table : FunctionTable} (h : table.Keeps C) (name : String)
    {as bs : List Operand} (hab : List.Forall₂ (Operand.Related C) as bs) :
    Agree C.Rel (table.render name as) (table.render name bs) := by
  unfold FunctionTable.render find?
  split
  · next r hr =>
    obtain ⟨l₁, l₂, hl, -⟩ := List.lookup_eq_some_iff.1 hr
    exact h _ (hl ▸ List.mem_append_right l₁ List.mem_cons_self) as bs hab
  · exact .error _

end FunctionTable

end Sift.Sql
