import Sift.Proofs.Sql.Pieces
import Sift.Proofs.Sql.Templates
import Sift.Proofs.Steps
import Sift.Sql.Statement

/-!
# Predicates read back

What is written for a predicate is read as the tree that the predicate stands for, so that the
reading of a server and the meaning of the expression never differ.

* `Expr.Simple`: predicates over columns and scalars, without calls and subqueries.
* `Expr.tree?`: the tree that an expression stands for.
* `reads_back`: every simple predicate is written, and **its text is read as its tree**.
-/

namespace Sift

/-- Scalars without floats. -/
inductive Json.Scalar : Json → Prop where
  | null : Scalar .null
  | bool (b : Bool) : Scalar (.bool b)
  | int (n : Int) : Scalar (.int n)
  | str (s : String) : Scalar (.str s)

end Sift

namespace Sift.Sql.Server

open Text

/-- A path: words with dots between them. -/
def IsPath (path : String) : Prop :=
  ∃ words : List (List Char), words ≠ [] ∧
    (∀ word ∈ words, word ≠ [] ∧ word.all isWordChar = true) ∧
    path.toList = ['.'].intercalate words

/-- Predicates over columns and scalars, without calls and subqueries. -/
inductive Simple : Expr → Prop where
  | lit {v : Json} (h : v.Scalar) : Simple (.lit v)
  | member {path : String} (h : IsPath path) : Simple (.member path)
  | arith {l r : Expr} (op : Arith) (hl : Simple l) (hr : Simple r) : Simple (.arith l op r)
  | compare {l r : Expr} {op : Comparison} (hop : op ≠ .isIn ∧ op ≠ .notIn) (hl : Simple l)
    (hr : Simple r) : Simple (.compare l op r)
  | within {l : Expr} {items : List Json} {op : Comparison} (hop : op = .isIn ∨ op = .notIn)
    (hl : Simple l) (h : ∀ v ∈ items, v.Scalar) : Simple (.compare l op (.lit (.arr items)))
  | not {e : Expr} (h : Simple e) : Simple (.not e)
  | logical {es : List Expr} (op : Connective) (hlen : 2 ≤ es.length) (h : ∀ e ∈ es, Simple e) :
    Simple (.logical op es)

/-! ### The tree of an expression -/

/-- The tree of a constant, if it is a scalar. -/
def constantTree? : Json → Option Tree
  | .null => some .null
  | .bool b => some (.bool b)
  | .int n => some (.int n)
  | .str s => some (.text s)
  | _ => none

/-- The trees of a set; an empty one holds null. -/
def setTrees? (items : List Json) : Option (List Tree) :=
  if items.isEmpty then some [.null] else items.mapM constantTree?

/-- The tree of a comparison: equality with null is a test for it, and what is negated is
negated outside. -/
def comparisonTree? (left : Tree) (op : Comparison) (r : Expr) (right : Option Tree) :
    Option Tree :=
  match op, r with
  | .isIn, .lit (.arr items) => do return .isIn left (← setTrees? items)
  | .notIn, .lit (.arr items) => do return .not (.isIn left (← setTrees? items))
  | .isIn, _ => none
  | .notIn, _ => none
  | .eq, .lit .null => some (.isNull left)
  | .ne, .lit .null => some (.not (.isNull left))
  | .ne, _ => do return .not (.compare left .eq (← right))
  | op, _ => do return .compare left op (← right)

mutual

/-- The tree that an expression stands for, if it has no calls and no subqueries. -/
def tree? : Expr → Option Tree
  | .lit v => constantTree? v
  | .member path => some (.column ((path.toList.splitOn '.').map String.ofList))
  | .arith l op r => do return .arith (← tree? l) op (← tree? r)
  | .compare l op r => do comparisonTree? (← tree? l) op r (tree? r)
  | .not e => do return .not (← tree? e)
  | .logical op es => do return .logical op (← trees? es)
  | _ => none

/-- The trees of expressions. -/
def trees? : List Expr → Option (List Tree)
  | [] => some []
  | e :: es => do return (← tree? e) :: (← trees? es)

end

/-! ### Constants and columns -/

theorem readsAs_bool (b : Bool) : ReadsAs (if b then "true" else "false") (.bool b) := by
  cases b
  · exact readsAs_leaf (scans_word ['f', 'a', 'l', 's', 'e'] (by decide) rfl rfl)
  · exact readsAs_leaf (scans_word ['t', 'r', 'u', 'e'] (by decide) rfl rfl)

theorem isWord_of_isWordChar {c : Char} (h : isWordChar c = true) : Text.isWord c = true := by
  have upTo {d : Char} (hd : d.val.toNat < 0x80) (hc : c.val ≤ d.val) : c.toNat < 0x80 :=
    Nat.lt_of_le_of_lt (UInt32.le_iff_toNat_le.1 hc) hd
  have ascii : c.toNat < 0x80 := by
    rcases (Bool.or_eq_true c.isAlphanum (c == '_')).mp h with h | h
    · rcases (Bool.or_eq_true c.isAlpha c.isDigit).mp h with h | h
      · rcases (Bool.or_eq_true c.isUpper c.isLower).mp h with h | h
        · exact upTo (d := 'Z') (by decide) (of_decide_eq_true h).2
        · exact upTo (d := 'z') (by decide) (of_decide_eq_true ((Bool.and_eq_true _ _).mp h).2)
      · exact upTo (d := '9') (by decide) (of_decide_eq_true ((Bool.and_eq_true _ _).mp h).2)
    · rw [beq_iff_eq.1 h]
      decide
  rw [Text.isWord, if_pos ascii]
  exact h

/-- A word at the front of a name is written between accents. -/
theorem quoteNameChars_word {word : List Char} (rest : List Char) (hne : word ≠ [])
    (hw : ∀ c ∈ word, Text.isWord c = true)
    (hr : Follows (!Text.isWord ·) rest) :
    quoteNameChars ['\x60', '$', '1', '\x60'] (word ++ rest) =
      '\x60' :: (word ++ ['\x60']) ++ quoteNameChars ['\x60', '$', '1', '\x60'] rest := by
  rw [quoteNameChars_run hne hw hr]
  simp [fill]

/-- A path is quoted segment by segment, and the dots between them stay. -/
theorem quoteNameChars_intercalate {words : List (List Char)}
    (hw : ∀ word ∈ words, word ≠ [] ∧ word.all isWordChar = true) :
    quoteNameChars ['\x60', '$', '1', '\x60'] (['.'].intercalate words) = accented words := by
  induction words with
  | nil => rw [List.intercalate_nil, quoteNameChars]; rfl
  | cons word words ih =>
    rw [List.forall_mem_cons] at hw
    have chars : ∀ c ∈ word, Text.isWord c = true := fun c hc =>
      isWord_of_isWordChar (List.all_eq_true.1 hw.1.2 c hc)
    cases words with
    | nil =>
      have single := quoteNameChars_word [] hw.1.1 chars follows_nil
      rw [List.append_nil] at single
      rw [List.intercalate_singleton, single, quoteNameChars]
      simp [accented]
    | cons next words =>
      have first := quoteNameChars_word ('.' :: ['.'].intercalate (next :: words)) hw.1.1
        chars (follows_cons (by decide))
      rw [List.intercalate_cons_cons, List.append_assoc]
      refine first.trans ?_
      rw [quoteNameChars_cons (by decide), ih hw.2]
      simp only [accented, List.map_cons, List.intercalate_cons_cons, List.append_assoc,
        List.cons_append, List.nil_append]

/-- A quoted path is read as the column of its segments. -/
theorem readsAs_column {path : String} (h : IsPath path) :
    ReadsAs (quoteName Settings.mysql.nameFormat path)
      (.column ((path.toList.splitOn '.').map String.ofList)) := by
  obtain ⟨words, hne, hw, hpath⟩ := h
  have plain (c : Char) (hc : isWordChar c = false) : ∀ word ∈ words, c ∉ word := by
    intro word hword hmem
    rw [List.all_eq_true.1 (hw word hword).2 c hmem] at hc
    cases hc
  have names : path.toList.splitOn '.' = words := by
    rw [hpath, List.splitOn_intercalate '.' (plain '.' (by decide)) hne]
  have text : (quoteName Settings.mysql.nameFormat path).toList = accented words := by
    rw [quoteName, String.toList_ofList, hpath]
    exact quoteNameChars_intercalate hw
  rw [names]
  refine readsAs_leaf ?_
  rw [text]
  exact scans_accented hne (plain '\x60' (by decide))

/-! ### Scalars and sets -/

section

variable (w : Writer)

/-- A scalar is written, has a tree, and is read as it. -/
theorem readsAs_constant {v : Json} (h : v.Scalar) :
    ∃ s t, w.constant v = .ok s ∧ constantTree? v = some t ∧ ReadsAs s t := by
  cases h with
  | null => exact ⟨_, _, by rw [Writer.constant], rfl, readsAs_leaf scans_null⟩
  | bool b =>
    refine ⟨_, _, ?_, rfl, readsAs_bool b⟩
    cases b <;> rw [Writer.constant] <;> rfl
  | int n => exact ⟨_, _, by rw [Writer.constant], rfl, readsAs_intText n⟩
  | str s => exact ⟨_, _, by rw [Writer.constant], rfl, readsAs_leaf (scans_quoteText s)⟩

/-- So are all the items of a list. -/
theorem readsAs_constants {items : List Json} (h : ∀ v ∈ items, v.Scalar) :
    ∃ ss ts, w.constants items = .ok ss ∧ items.mapM constantTree? = some ts ∧
      List.Forall₂ ReadsAs ss ts := by
  induction items with
  | nil => exact ⟨[], [], by rw [Writer.constants], rfl, .nil⟩
  | cons v items ih =>
    rw [List.forall_mem_cons] at h
    obtain ⟨s, t, hs, ht, first⟩ := readsAs_constant w h.1
    obtain ⟨ss, ts, hss, hts, rest⟩ := ih h.2
    refine ⟨s :: ss, t :: ts, ?_, ?_, .cons first rest⟩
    · rw [Writer.constants, hs, hss]
      rfl
    · rw [List.mapM_cons, ht, hts]
      rfl

/-- The items of a set are never none: an empty one is written with `NULL` in it. -/
theorem readsAs_constantSet {items : List Json} (h : ∀ v ∈ items, v.Scalar) :
    ∃ ss ts, w.constantSet items = .ok (joinWith ", " ss) ∧ setTrees? items = some ts ∧
      List.Forall₂ ReadsAs ss ts ∧ ss ≠ [] := by
  rcases items with - | ⟨v, items⟩
  · refine ⟨["NULL"], [.null], rfl, rfl, .cons (readsAs_leaf scans_null) .nil, by simp⟩
  obtain ⟨ss, ts, hss, hts, rest⟩ := readsAs_constants w h
  refine ⟨ss, ts, ?_, hts, rest, ?_⟩
  · rw [Writer.constantSet, hss]
    rfl
  · rintro rfl
    cases rest
    simp [Option.bind_eq_some_iff] at hts

/-! ### Comparisons -/

/-- A text that is one operand is not empty. -/
theorem ReadsAs.isEmpty {s : String} {t : Tree} (h : ReadsAs s t) : s.isEmpty = false := by
  obtain ⟨o, -, adds⟩ := h
  obtain ⟨ts, scans, run⟩ := adds [] [] ready_nil
  by_contra hs
  have empty : s = "" := String.isEmpty_iff.1 (by simpa using hs)
  have tokens := scans.scan?_eq
  rw [empty, String.toList_empty, scan?] at tokens
  cases tokens
  cases run []

/-- A span in brackets, negated or not. -/
theorem Spans.readsAs_bracketed {s : String} {t : Tree} (h : Spans s t) (negative : Bool) :
    ReadsAs (Writer.bracketed negative s) (if negative then .not t else t) := by
  cases negative
  · exact h.bracketed
  · exact h.negated

/-- The symbol of an operator. -/
def arithSymbol : Arith → String
  | .add => "+"
  | .sub => "-"
  | .mul => "*"
  | .div => "/"
  | .mod => "%"

theorem spaced_arith (op : Arith) : Spaced (" " ++ arithSymbol op ++ " ") (.arith op) :=
  spaced_symbol (by cases op <;> decide)

/-- Operations are written between their operands, in brackets. -/
theorem render_arith (op : Arith) {a b : Sql.Operand} {s u : String} (hs : a.sql = .ok s)
    (hu : b.sql = .ok u) : FunctionTable.standard.render op.name [a, b] =
      .ok ("(" ++ s ++ " " ++ arithSymbol op ++ " " ++ u ++ ")") := by
  have infixed (name symbol : String) : Renderer.infixed name symbol [a, b] =
      .ok ("(" ++ s ++ " " ++ symbol ++ " " ++ u ++ ")") := by
    simp [Renderer.infixed, Renderer.binary, hs, hu]
  cases op
  · exact infixed "add" "+"
  · exact infixed "sub" "-"
  · exact infixed "mul" "*"
  · exact infixed "div" "/"
  · exact infixed "mod" "%"

theorem spaced_compare {op : Comparison} (hop : op ≠ .isIn ∧ op ≠ .notIn) :
    Spaced (" " ++ (Writer.comparisonSymbol op).2 ++ " ")
      (.compare (if op = .ne then .eq else op)) := by
  cases op with
  | isIn => exact absurd rfl hop.1
  | notIn => exact absurd rfl hop.2
  | _ => exact spaced_symbol (by decide)

/-- Where `IS NULL` and sets have no part, a comparison is written between its sides. -/
theorem comparisonForm_values {op : Comparison} {r : Expr} (hop : op ≠ .isIn ∧ op ≠ .notIn)
    (hr : Simple r) (h : r = .lit .null → op ≠ .eq ∧ op ≠ .ne) :
    Writer.comparisonForm op r = .values := by
  cases hr with
  | lit hv =>
    cases hv <;> cases op <;> simp_all [Writer.comparisonForm]
  | _ => cases op <;> simp_all [Writer.comparisonForm]

/-- Its tree is that comparison too, negated where the operator is the one for unequal. -/
theorem comparisonTree?_values {op : Comparison} {r : Expr} (hop : op ≠ .isIn ∧ op ≠ .notIn)
    (hr : Simple r) (h : r = .lit .null → op ≠ .eq ∧ op ≠ .ne) (left right : Tree) :
    comparisonTree? left op r (some right) =
      some (if (Writer.comparisonSymbol op).1 then
        .not (.compare left (if op = .ne then .eq else op) right)
      else .compare left (if op = .ne then .eq else op) right) := by
  cases hr with
  | lit hv =>
    cases hv <;> cases op <;> simp_all [comparisonTree?, Writer.comparisonSymbol]
  | _ => cases op <;> simp_all [comparisonTree?, Writer.comparisonSymbol]

/-! ### Expressions -/

/-- An expression that is read back: its text is one operand with its tree. -/
def ReadsBack (e : Expr) : Prop :=
  ∃ s t, w.expr e = .ok s ∧ tree? e = some t ∧ ReadsAs s t

variable {w} {e l r : Expr}

/-- An operation is read back as its operands are. -/
theorem ReadsBack.arith (functions : w.functions = .standard) (op : Arith) (hl : ReadsBack w l)
    (hr : ReadsBack w r) : ReadsBack w (.arith l op r) := by
  obtain ⟨s, left, hs, hleft, first⟩ := hl
  obtain ⟨u, right, hu, hright, second⟩ := hr
  have whole := (first.arith (spaced_arith op) second).bracketed
  refine ⟨"(" ++ s ++ " " ++ arithSymbol op ++ " " ++ u ++ ")", .arith left op right, ?_, ?_, ?_⟩
  · rw [Writer.expr, functions]
    exact render_arith op hs hu
  · rw [tree?, hleft, hright]
    rfl
  · simpa only [String.append_assoc] using whole

/-- Equality with nothing is written as a test for `NULL`, and every other comparison between its
sides. -/
theorem ReadsBack.compare {op : Comparison} (hop : op ≠ .isIn ∧ op ≠ .notIn) (simple : Simple r)
    (hl : ReadsBack w l) (hr : ReadsBack w r) : ReadsBack w (.compare l op r) := by
  obtain ⟨s, left, hs, hleft, first⟩ := hl
  obtain ⟨u, right, hu, hright, second⟩ := hr
  -- only equality with null is written in another way than the operator says
  by_cases null : r = .lit .null ∧ (op = .eq ∨ op = .ne)
  · obtain ⟨rfl, hop⟩ := null
    have whole := first.isNull.readsAs_bracketed (Writer.comparisonSymbol op).1
    refine ⟨_, _, ?_, ?_, whole⟩
    · rw [Writer.expr, hs]
      rcases hop with rfl | rfl <;> rfl
    · rw [tree?, hleft]
      rcases hop with rfl | rfl <;> rfl
  · have values : r = .lit .null → op ≠ .eq ∧ op ≠ .ne := fun hr =>
      ⟨fun he => null ⟨hr, .inl he⟩, fun he => null ⟨hr, .inr he⟩⟩
    have whole := (first.compare (spaced_compare hop) second).readsAs_bracketed
      (Writer.comparisonSymbol op).1
    have text : s ++ (" " ++ (Writer.comparisonSymbol op).2 ++ " ") ++ u =
        s ++ " " ++ (Writer.comparisonSymbol op).2 ++ " " ++ u := by
      simp only [String.append_assoc]
    rw [text] at whole
    refine ⟨_, _, ?_, ?_, whole⟩
    · rw [Writer.expr, hs, comparisonForm_values hop simple values, hu]
      rfl
    · rw [tree?, hleft, hright]
      exact comparisonTree?_values hop simple values left right

/-- A set may have any scalars in it, `NULL` included. -/
theorem ReadsBack.within {items : List Json} {op : Comparison} (hop : op = .isIn ∨ op = .notIn)
    (hl : ReadsBack w l) (h : ∀ v ∈ items, v.Scalar) :
    ReadsBack w (.compare l op (.lit (.arr items))) := by
  obtain ⟨s, left, hs, hleft, first⟩ := hl
  obtain ⟨ss, ts, hss, hts, rest, hne⟩ := readsAs_constantSet w h
  have whole := (first.isIn rest hne).readsAs_bracketed (Writer.comparisonSymbol op).1
  refine ⟨_, _, ?_, ?_, whole⟩
  · rw [Writer.expr, hs]
    rcases hop with rfl | rfl <;> simp [Writer.comparisonForm, Writer.set, hss]
  · rw [tree?, hleft]
    rcases hop with rfl | rfl <;> simp [comparisonTree?, Writer.comparisonSymbol, hts]

theorem ReadsBack.not (h : ReadsBack w e) : ReadsBack w (.not e) := by
  obtain ⟨s, t, hs, ht, reads⟩ := h
  refine ⟨"(NOT " ++ s ++ ")", .not t, ?_, ?_, reads.spans.negated⟩
  · rw [Writer.expr, hs, ok_bind, Writer.negated, reads.isEmpty]
    rfl
  · rw [tree?, ht]
    rfl

/-- No operand of a connective has an empty text, so none is left out. -/
theorem ReadsBack.texts {es : List Expr} (h : ∀ e ∈ es, ReadsBack w e) :
    ∃ ss ts, w.nonEmptyTexts es = .ok ss ∧ trees? es = some ts ∧
      List.Forall₂ ReadsAs ss ts ∧ ts.length = es.length := by
  induction es with
  | nil => exact ⟨[], [], by rw [Writer.nonEmptyTexts], rfl, .nil, rfl⟩
  | cons e es ih =>
    rw [List.forall_mem_cons] at h
    obtain ⟨s, t, hs, ht, first⟩ := h.1
    obtain ⟨ss, ts, hss, hts, rest, length⟩ := ih h.2
    refine ⟨s :: ss, t :: ts, ?_, ?_, .cons first rest, congrArg Nat.succ length⟩
    · rw [Writer.nonEmptyTexts, hs, ok_bind, hss, ok_bind, first.isEmpty]
      rfl
    · rw [trees?, ht, hts]
      rfl

/-- With two operands at least, a connective is read back as one run. -/
theorem ReadsBack.logical {es : List Expr} (op : Connective) (hlen : 2 ≤ es.length)
    (h : ∀ e ∈ es, ReadsBack w e) : ReadsBack w (.logical op es) := by
  obtain ⟨ss, ts, hss, hts, reads, length⟩ := ReadsBack.texts h
  have whole := readsAs_connected (c := op) reads (by omega)
  refine ⟨"(" ++ joinWith op.separator ss ++ ")", .logical op ts, ?_, ?_, whole⟩
  · rw [Writer.expr, hss, ok_bind]
    -- two texts or more are in brackets
    have two : 2 ≤ ss.length := by rw [reads.length_eq, length]; exact hlen
    rcases ss with - | ⟨s, - | ⟨s', ss⟩⟩
    · simp at two
    · simp at two
    · rfl
  · rw [tree?, hts]
    rfl

/-- Every simple predicate reads back, by induction on how it is built. -/
theorem Simple.readsBack (functions : w.functions = .standard)
    (settings : w.settings = .mysql) (h : Simple e) : ReadsBack w e := by
  induction h with
  | lit h =>
    obtain ⟨s, t, hs, ht, reads⟩ := readsAs_constant w h
    exact ⟨s, t, by rw [Writer.expr, hs], by rw [tree?, ht], reads⟩
  | member h =>
    refine ⟨_, _, by rw [Writer.expr], by rw [tree?], ?_⟩
    rw [Writer.name, settings]
    exact readsAs_column h
  | arith op _ _ left right => exact left.arith functions op right
  | compare hop _ simple left right => exact left.compare hop simple right
  | within hop _ h left => exact left.within hop h
  | not _ operand => exact operand.not
  | logical op hlen _ operands => exact .logical op hlen operands

end

/-- **Predicates read back**: every simple predicate is written, its text is read as the tree that
it stands for, and so no two predicates of different trees have the same text. -/
theorem reads_back {e : Expr} (h : Simple e) :
    (∃ s t, (Formatter.ofSettings .mysql).expr e = .ok s ∧ tree? e = some t ∧ read? s = some t) ∧
      ∀ e', Simple e' → (Formatter.ofSettings .mysql).expr e' =
        (Formatter.ofSettings .mysql).expr e → tree? e' = tree? e := by
  have each (e : Expr) (h : Simple e) : ∃ s t, (Formatter.ofSettings .mysql).expr e = .ok s ∧
      tree? e = some t ∧ read? s = some t := by
    obtain ⟨s, t, hs, ht, reads⟩ :=
      h.readsBack (w := (Formatter.ofSettings .mysql).writer) rfl rfl
    exact ⟨s, t, hs, ht, reads.spans.read?_eq⟩
  refine ⟨each e h, fun e' h' same => ?_⟩
  obtain ⟨s, t, hs, ht, read⟩ := each e h
  obtain ⟨s', t', hs', ht', read'⟩ := each e' h'
  rw [hs, hs'] at same
  cases same
  rw [ht, ht', ← read, ← read']

/-- Orders without a price, or with a balance that is outside a set. -/
def outside (items : List Json) : Expr :=
  .logical .or [.compare (.member "order.price") .eq (.lit .null),
    .not (.compare (.arith (.member "paid") .sub (.lit (.int (-5)))) .isIn (.lit (.arr items)))]

/-- The predicate is simple for any scalars in its set. -/
theorem simple_outside (items : List Json) (h : ∀ v ∈ items, v.Scalar) :
    Simple (outside items) := by
  have price : IsPath "order.price" :=
    ⟨[['o', 'r', 'd', 'e', 'r'], ['p', 'r', 'i', 'c', 'e']], by decide, by decide, by decide⟩
  have paid : IsPath "paid" := ⟨[['p', 'a', 'i', 'd']], by decide, by decide, by decide⟩
  refine .logical .or (Nat.le_refl 2) (List.forall_mem_cons.2 ⟨?_, List.forall_mem_singleton.2 ?_⟩)
  · exact .compare ⟨by decide, by decide⟩ (.member price) (.lit .null)
  · exact .not (.within (.inl rfl) (.arith .sub (.member paid) (.lit (.int (-5)))) h)

theorem outside_reads_back :
    Simple (outside []) ∧ Simple (outside [.null]) ∧
      tree? (outside []) = some (.logical .or [.isNull (.column ["order", "price"]),
        .not (.isIn (.arith (.column ["paid"]) .sub (.int (-5))) [.null])]) ∧
      (∃ s t, (Formatter.ofSettings .mysql).expr (outside []) = .ok s ∧
        tree? (outside []) = some t ∧ read? s = some t) ∧
      (Formatter.ofSettings .mysql).expr (outside [.null]) =
        (Formatter.ofSettings .mysql).expr (outside []) ∧
      tree? (outside [.null]) = tree? (outside []) := by
  have nothing : Simple (outside []) := simple_outside [] (by simp)
  have null : Simple (outside [.null]) := simple_outside _ (List.forall_mem_singleton.2 .null)
  have text : (Formatter.ofSettings .mysql).expr (outside [.null]) =
      (Formatter.ofSettings .mysql).expr (outside []) := by
    simp [outside, Formatter.expr, Writer.expr, Writer.nonEmptyTexts, Writer.comparisonForm,
      Writer.set, Writer.constantSet, Writer.constants, Writer.constant, joinWith]
  obtain ⟨written, same⟩ := reads_back nothing
  exact ⟨nothing, null, rfl, written, text, same _ null text⟩

end Sift.Sql.Server
