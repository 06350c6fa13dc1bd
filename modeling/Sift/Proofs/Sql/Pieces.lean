import Sift.Proofs.Sql.Precedence
import Sift.Proofs.Sql.Scanning
import Sift.Text.Basic

/-!
# Pieces of predicates

What each piece of a predicate adds to what has been read, whatever is open around it. A piece in
brackets is one operand, so that it is read alike behind any operator.

* `Ready`: where an operand may be read.
* `Adds`, `FirmlyAdds`: what a piece adds to what has been read.
* `ReadsAs`: pieces that are one operand, `Spans` those that make sense in brackets.
* `Spans.bracketed`, `Spans.negated`, `readsAs_connected`: pieces in brackets.
* `Spans.read?_eq`: a piece on its own.
-/

namespace Sift.Sql.Server

open Text

/-- Where an operand may be read, with a sign or without one. -/
structure Ready (atoms : List Atom) : Prop where
  operand : ∀ o, pushOperand o atoms = .operand o :: atoms
  signed : ∀ o, pushOperand o (.operator (.arith .sub) :: atoms) =
    .operand (pushOperand.signed o) :: atoms

theorem ready_nil : Ready [] := ⟨fun _ => rfl, fun _ => rfl⟩

theorem ready_not : Ready [.operator .not] := ⟨fun _ => rfl, fun _ => rfl⟩

/-- Behind an operator there is room for an operand. -/
theorem ready_operator (op : Operator) (o : Operand) (atoms : List Atom) :
    Ready (.operator op :: .operand o :: atoms) where
  operand p := by
    cases op with
    | arith op => cases op <;> rfl
    | _ => rfl
  signed p := by
    cases op with
    | arith op => cases op <;> rfl
    | _ => rfl

/-- What a piece adds to what has been read since the last open bracket. -/
def Adds (s : String) (f g : Frame) : Prop :=
  ∃ ts, Scans s.toList ts ∧ ∀ outer, ts.foldlM State.step? ⟨f, outer⟩ = some ⟨g, outer⟩

/-- What a piece adds, whatever follows it. -/
def FirmlyAdds (s : String) (f g : Frame) : Prop :=
  ∃ ts, FirmlyScans s.toList ts ∧ ∀ outer, ts.foldlM State.step? ⟨f, outer⟩ = some ⟨g, outer⟩

section

variable {s u v : String} {f g h : Frame} {op : Operator} {items : List Tree} {atoms : List Atom}

/-- Reading two runs of tokens is reading the one behind the other. -/
theorem foldlM_append {ts us : List Token}
    (hs : ∀ outer, ts.foldlM State.step? ⟨f, outer⟩ = some ⟨g, outer⟩)
    (hu : ∀ outer, us.foldlM State.step? ⟨g, outer⟩ = some ⟨h, outer⟩) (outer : List Frame) :
    (ts ++ us).foldlM State.step? ⟨f, outer⟩ = some ⟨h, outer⟩ := by
  rw [List.foldlM_append, hs outer]
  exact hu outer

/-- A piece that may stand in front of anything is followed by any other. -/
theorem FirmlyAdds.append (hs : FirmlyAdds s f g) (hu : Adds u g h) : Adds (s ++ u) f h := by
  obtain ⟨ts, scans, run⟩ := hs
  obtain ⟨us, scans', run'⟩ := hu
  refine ⟨ts ++ us, ?_, foldlM_append run run'⟩
  rw [String.toList_append]
  exact scans.append_scans scans'

/-- A piece that begins at a boundary behind another one. -/
theorem Adds.append (hs : Adds s f g) (hu : FirmlyAdds u g h) (hne : u ≠ "")
    (hb : Boundary u.toList) : FirmlyAdds (s ++ u) f h := by
  obtain ⟨ts, scans, run⟩ := hs
  obtain ⟨us, scans', run'⟩ := hu
  refine ⟨ts ++ us, ?_, foldlM_append run run'⟩
  rw [String.toList_append]
  exact scans.append_firm scans' (fun he => hne (String.toList_eq_nil_iff.1 he)) hb

/-! ### Operators -/

/-- An operator with blanks around it. -/
structure Spaced (s : String) (op : Operator) : Prop where
  scans : FirmlyScans s.toList [.operator op]
  boundary : Boundary s.toList
  nonempty : s ≠ ""

/-- A word operator needs the blanks around it to be a word of its own. -/
theorem spaced_word (word : List Char) (hw : word.all isWordChar = true)
    (hd : word.head?.any (fun c => !c.isDigit) = true)
    (ht : keyword? word = some (.operator op)) :
    Spaced (String.ofList (' ' :: (word ++ [' ']))) op where
  scans := by
    rw [String.toList_ofList]
    exact (scans_word word hw hd ht).firmly_blank.blank
  boundary := by
    rw [String.toList_ofList]
    exact boundary_cons (.inl rfl)
  nonempty he := by simpa using congrArg String.toList he

/-- A symbol is read alike with blanks around it. -/
theorem spaced_symbol {symbol : String} (hs : (symbol.toList, op) ∈ symbols) :
    Spaced (" " ++ symbol ++ " ") op where
  scans := by
    rw [String.toList_append, String.toList_append]
    exact firmlyScans_symbol hs
  boundary := by
    rw [String.toList_append, String.toList_append]
    exact boundary_cons (.inl rfl)
  nonempty he := by simpa using congrArg String.toList he

theorem spaced_separator (c : Connective) : Spaced c.separator (.connective c) := by
  cases c
  · exact spaced_word ['A', 'N', 'D'] (by decide) (by decide) rfl
  · exact spaced_word ['O', 'R'] (by decide) (by decide) rfl

/-- An operator behind an operand. -/
theorem Adds.spaced (hs : Adds s f ⟨items, atoms⟩) (hu : Spaced u op) :
    FirmlyAdds (s ++ u) f ⟨items, .operator op :: atoms⟩ :=
  hs.append ⟨_, hu.scans, fun _ => rfl⟩ hu.nonempty hu.boundary

/-! ### Operands -/

/-- A piece that is one operand. -/
def IsOperand (s : String) (o : Operand) : Prop :=
  ∀ items atoms, Ready atoms → Adds s ⟨items, atoms⟩ ⟨items, .operand o :: atoms⟩

/-- A piece that is one operand, read as a tree. -/
def ReadsAs (s : String) (t : Tree) : Prop := ∃ o : Operand, o.tree? = some t ∧ IsOperand s o

/-- A constant or a column. -/
theorem isOperand_leaf {t : Tree} (h : Scans s.toList [.leaf t]) : IsOperand s (.one t) := by
  refine fun items atoms ready => ⟨_, h, fun outer => ?_⟩
  rw [← ready.operand]
  rfl

theorem readsAs_leaf {t : Tree} (h : Scans s.toList [.leaf t]) : ReadsAs s t :=
  ⟨.one t, rfl, isOperand_leaf h⟩

/-- A negative number is a sign in front of a number, which is one operand all the same. -/
theorem readsAs_intText (n : Int) : ReadsAs (Number.intText n) (.int n) := by
  unfold Number.intText
  split
  · next hn =>
    refine ⟨.one (.int (-n.natAbs)), by rw [Operand.tree?]; congr 2; omega, ?_⟩
    intro items atoms ready
    refine ⟨[.operator (.arith .sub), .leaf (.int n.natAbs)], ?_, fun outer => ?_⟩
    · rw [String.toList_append]
      exact scans_negative n.natAbs
    · -- the sign is an operator until the number behind it has been read
      have signed := ready.signed (.one (.int n.natAbs))
      exact congrArg some (congrArg (fun atoms => State.mk ⟨items, atoms⟩ outer) signed)
  · next hn =>
    have value : (n.natAbs : Int) = n := Int.natAbs_of_nonneg (by omega)
    have digits := scans_natText n.natAbs
    rw [value] at digits
    exact readsAs_leaf digits

/-! ### Brackets -/

/-- Brackets end what is read since they were opened. -/
theorem adds_brackets {t : Tree} {items' : List Tree} {atoms' : List Atom}
    (hs : Adds s ⟨[], []⟩ ⟨items, atoms⟩) (ht : readPredicate? atoms.reverse = some t)
    (ready : Ready atoms') :
    Adds ("(" ++ s ++ ")") ⟨items', atoms'⟩
      ⟨items', .operand (.bracketed (items ++ [t])) :: atoms'⟩ := by
  obtain ⟨ts, scans, run⟩ := hs
  refine ⟨.open_ :: (ts ++ [.close]), ?_, fun outer => ?_⟩
  · have closed := scans.append_firm firmlyScans_close (by simp) (boundary_cons (.inr (.inl rfl)))
    have whole := (firmlyScans_open.append closed).scans
    rw [String.toList_append, String.toList_append, List.append_assoc]
    exact whole
  · -- inside the brackets, what is open around them is one more frame outside
    have opened : (⟨⟨items', atoms'⟩, outer⟩ : State).step? .open_ =
        some ⟨⟨[], []⟩, ⟨items', atoms'⟩ :: outer⟩ := rfl
    have closed : (⟨⟨items, atoms⟩, ⟨items', atoms'⟩ :: outer⟩ : State).step? .close =
        some ⟨⟨items', .operand (.bracketed (items ++ [t])) :: atoms'⟩, outer⟩ := by
      simp only [State.step?, ht, Option.bind_eq_bind, Option.bind_some, ready.operand]
    rw [List.foldlM_cons, opened, Option.bind_eq_bind, Option.bind_some, List.foldlM_append,
      run, Option.bind_eq_bind, Option.bind_some, List.foldlM_cons, closed]
    rfl

/-- What is read whole inside of brackets is one operand outside of them. -/
theorem readsAs_brackets {t : Tree} (hs : Adds s ⟨[], []⟩ ⟨[], atoms⟩)
    (ht : readPredicate? atoms.reverse = some t) : ReadsAs ("(" ++ s ++ ")") t :=
  ⟨.bracketed [t], rfl, fun _ _ ready => adds_brackets hs ht ready⟩

/-- A piece that makes sense in brackets, behind a negation as well. -/
structure Spans (s : String) (t : Tree) : Prop where
  adds : ∃ atoms, (∀ x ∈ atoms, ∀ c, x.isConnective c = false) ∧
    readPredicate? atoms.reverse = some t ∧
    ∀ items before, Ready before → Adds s ⟨items, before⟩ ⟨items, atoms ++ before⟩

variable {t l r : Tree}

theorem ReadsAs.spans (h : ReadsAs s t) : Spans s t := by
  obtain ⟨o, ho, adds⟩ := h
  refine ⟨[.operand o], by simp [Atom.isConnective], ?_, adds⟩
  rw [List.reverse_singleton, readPredicate?_eq (by simp [Atom.isConnective])]
  exact readNegation?_operand ho

theorem Spans.bracketed (h : Spans s t) : ReadsAs ("(" ++ s ++ ")") t := by
  obtain ⟨atoms, -, ht, adds⟩ := h.adds
  have adds := adds [] [] ready_nil
  rw [List.append_nil] at adds
  exact readsAs_brackets adds ht

theorem firmlyAdds_not : FirmlyAdds "NOT " ⟨items, []⟩ ⟨items, [.operator .not]⟩ :=
  ⟨[.operator .not], (scans_word ['N', 'O', 'T'] (by decide) rfl rfl).firmly_blank,
    fun _ => rfl⟩

/-- A negation stands in brackets with its operand, so nothing else is negated. -/
theorem Spans.negated (h : Spans s t) : ReadsAs ("(NOT " ++ s ++ ")") (.not t) := by
  obtain ⟨atoms, plain, ht, adds⟩ := h.adds
  -- the text begins with `(NOT `, so the span is read behind a negation and not in its own brackets
  have behind := firmlyAdds_not.append (adds [] [.operator .not] ready_not)
  have whole := readsAs_brackets behind (t := .not t) (by
    rw [List.reverse_append, List.reverse_singleton]
    exact readPredicate?_not (fun x hx => plain x (List.mem_reverse.1 hx)) ht)
  rw [← String.append_assoc] at whole
  exact whole

/-- **A piece on its own**. -/
theorem Spans.read?_eq (h : Spans s t) : read? s = some t := by
  obtain ⟨atoms, -, ht, adds⟩ := h.adds
  obtain ⟨ts, scans, run⟩ := adds [] [] ready_nil
  rw [List.append_nil] at run
  rw [read?, scans.scan?_eq]
  simp only [Option.bind_eq_bind, Option.bind_some, run, ht]

/-! ### Operators between operands -/

/-- An operator between two operands that is no connective. -/
theorem IsOperand.binary {o p : Operand} (left : IsOperand s o) (hv : Spaced v op)
    (right : IsOperand u p) (hc : ∀ c, op ≠ .connective c) (ht : op.build? o p = some t) :
    Spans (s ++ v ++ u) t := by
  refine ⟨[.operand p, .operator op, .operand o], ?_, ?_, fun items before ready => ?_⟩
  · exact fun x hx c => isConnective_binary hc o p c x (List.mem_reverse.2 hx)
  · exact readPredicate?_binary hc ht
  · have behind := (left items before ready).spaced hv
    exact behind.append (right items _ (ready_operator op o before))

/-- An operation between operands spans all three pieces. -/
theorem ReadsAs.arith {a : Arith} (hs : ReadsAs s l) (hv : Spaced v (.arith a))
    (hu : ReadsAs u r) : Spans (s ++ v ++ u) (.arith l a r) := by
  obtain ⟨o, ho, left⟩ := hs
  obtain ⟨p, hp, right⟩ := hu
  exact left.binary hv right (by simp) (by simp [Operator.build?, ho, hp])

/-- So does a comparison. -/
theorem ReadsAs.compare {c : Comparison} (hs : ReadsAs s l) (hv : Spaced v (.compare c))
    (hu : ReadsAs u r) : Spans (s ++ v ++ u) (.compare l c r) := by
  obtain ⟨o, ho, left⟩ := hs
  obtain ⟨p, hp, right⟩ := hu
  exact left.binary hv right (by simp) (by simp [Operator.build?, ho, hp])

theorem scans_null : Scans "NULL".toList [.leaf .null] :=
  scans_word ['N', 'U', 'L', 'L'] (by decide) rfl rfl

theorem spaced_is : Spaced " IS " .is :=
  spaced_word ['I', 'S'] (by decide) rfl rfl

theorem spaced_isIn : Spaced " IN " .isIn :=
  spaced_word ['I', 'N'] (by decide) rfl rfl

/-- A test for null. -/
theorem ReadsAs.isNull (hs : ReadsAs s l) : Spans (s ++ " IS NULL") (.isNull l) := by
  obtain ⟨o, ho, left⟩ := hs
  have whole := left.binary spaced_is (isOperand_leaf scans_null) (by simp)
    (show Operator.is.build? o (.one .null) = some (.isNull l) by simp [Operator.build?, ho])
  rw [String.append_assoc] at whole
  exact whole

/-! ### Runs of operands -/

/-- Items with commas between them: all but the last one have been read when it ends. -/
theorem adds_items {ss : List String} {ts : List Tree} (h : List.Forall₂ ReadsAs ss ts)
    (hne : ss ≠ []) (items : List Tree) : ∃ read last atoms, ts = read ++ [last] ∧
      readPredicate? atoms.reverse = some last ∧
      Adds (joinWith ", " ss) ⟨items, []⟩ ⟨items ++ read, atoms⟩ := by
  -- a comma turns the atoms in front of it into one more item
  induction h generalizing items with
  | nil => exact absurd rfl hne
  | @cons s t ss ts first rest ih =>
    obtain ⟨atoms, -, ht, adds⟩ := first.spans.adds
    have adds := adds items [] ready_nil
    rw [List.append_nil] at adds
    cases rest with
    | nil =>
      refine ⟨[], t, atoms, rfl, ht, ?_⟩
      rw [List.append_nil]
      exact adds
    | cons =>
      obtain ⟨read, last, atoms', hts, hlast, behind⟩ := ih (by simp) (items ++ [t])
      have comma : FirmlyAdds ", " ⟨items, atoms⟩ ⟨items ++ [t], []⟩ :=
        ⟨[.comma], firmlyScans_comma, fun outer => by simp [State.step?, ht]⟩
      refine ⟨t :: read, last, atoms', by rw [hts]; rfl, hlast, ?_⟩
      have whole := (adds.append comma (by decide) (boundary_cons (.inr (.inr rfl)))).append behind
      rw [List.append_assoc] at whole
      exact whole

/-- A test for membership. -/
theorem ReadsAs.isIn {ss : List String} {ts : List Tree} (hs : ReadsAs s l)
    (h : List.Forall₂ ReadsAs ss ts) (hne : ss ≠ []) :
    Spans (s ++ " IN (" ++ joinWith ", " ss ++ ")") (.isIn l ts) := by
  obtain ⟨o, ho, left⟩ := hs
  obtain ⟨read, last, atoms, rfl, ht, adds⟩ := adds_items h hne []
  have right : IsOperand ("(" ++ joinWith ", " ss ++ ")") (.bracketed (read ++ [last])) :=
    fun _ _ ready => adds_brackets adds ht ready
  have build : Operator.isIn.build? o (.bracketed (read ++ [last])) =
      some (.isIn l (read ++ [last])) := by simp [Operator.build?, ho]
  have whole := left.binary spaced_isIn right (by simp) build
  have text : s ++ " IN " ++ ("(" ++ joinWith ", " ss ++ ")") =
      s ++ " IN (" ++ joinWith ", " ss ++ ")" := by
    have keyword : " IN (" = " IN " ++ "(" := rfl
    simp only [keyword, String.append_assoc]
  rw [text] at whole
  exact whole

/-- Operands under a connective. -/
theorem adds_connected {c : Connective} {ss : List String} {ts : List Tree}
    (h : List.Forall₂ ReadsAs ss ts) (hne : ss ≠ []) :
    ∃ os, List.Forall₂ (fun o t => o.tree? = some t) os ts ∧
      ∀ before, Ready before →
        Adds (joinWith c.separator ss) ⟨[], before⟩ ⟨[], (between c os).reverse ++ before⟩ := by
  -- the newest atom comes first, and so what is read last stands in front
  induction h with
  | nil => exact absurd rfl hne
  | @cons s t ss ts first rest ih =>
    obtain ⟨o, ho, adds⟩ := first
    cases rest with
    | nil => exact ⟨[o], .cons ho .nil, adds []⟩
    | cons =>
      obtain ⟨os, hos, behind⟩ := ih (by simp)
      refine ⟨o :: os, .cons ho hos, fun before ready => ?_⟩
      have first := (adds [] before ready).spaced (spaced_separator c)
      have whole := first.append (behind _ (ready_operator (.connective c) o before))
      cases hos with
      | cons =>
        rw [between, List.reverse_cons, List.reverse_cons, List.append_assoc, List.append_assoc]
        exact whole

/-- Two or more operands with a connective between them, in brackets, are one operand. -/
theorem readsAs_connected {c : Connective} {ss : List String} {ts : List Tree}
    (h : List.Forall₂ ReadsAs ss ts) (hlen : 2 ≤ ts.length) :
    ReadsAs ("(" ++ joinWith c.separator ss ++ ")") (.logical c ts) := by
  obtain ⟨os, hos, adds⟩ := adds_connected (c := c) h (by rintro rfl; cases h; cases hlen)
  have adds := adds [] ready_nil
  rw [List.append_nil] at adds
  refine readsAs_brackets adds ?_
  rw [List.reverse_reverse]
  exact readPredicate?_between hlen hos

end

end Sift.Sql.Server
