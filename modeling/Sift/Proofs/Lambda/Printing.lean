import Sift.Proofs.Lambda.Grammar
import Sift.Proofs.Lambda.Scanning

/-!
# Printed terms

A term is printed with as few parentheses as precedence allows, and its words are a phrase of the
grammar again.

* `Term.rank`: the rank of the phrase that a term is printed as.
* `enclosed`, `bracketed`: parentheses, always, or where a phrase of a higher rank is needed.
* `Term.words`: the words of a term.
* `Printable`: the terms whose words say them.
* `Printable.derives`, `Printable.known`: what is printed is a phrase of known words.
-/

namespace Sift.Lambda

open Number Text

/-- The rank of a term: what stands in a place of a higher rank needs parentheses. -/
def Term.rank : Term → Nat
  | .binary op _ _ => op.level
  | .unary _ _ => 10
  | _ => 11

/-- The word of a binary operator. -/
def Operator.word : Operator → Word
  | .isIn => .name "in"
  | .instanceOf => .name "instanceof"
  | op => .punct op.symbol

/-- The word of a unary operator. -/
def Unary.word : Unary → Word
  | .typeOf => .name "typeof"
  | op => .punct op.symbol

/-- The words of a constant. Only some constants have words. -/
def constantWords : Json → List Word
  | .null => [.name "null"]
  | .bool true => [.name "true"]
  | .bool false => [.name "false"]
  | .int n => [.number n.toNat]
  | .str s => [.text s]
  | _ => []

/-- Words in parentheses. -/
def enclosed (ws : List Word) : List Word := .punct "(" :: (ws ++ [.punct ")"])

/-- Words in parentheses, where a phrase of a rank is needed and the term has a lower one. -/
def bracketed (rank : Nat) (x : Term) (ws : List Word) : List Word :=
  if x.rank < rank then enclosed ws else ws

/-- The words of an access, behind a point or in brackets. -/
def propertyWords (dotted : String → Bool) (s : String) : List Word :=
  if dotted s then [.punct ".", .name s] else [.punct "[", .text s, .punct "]"]

section

variable (dotted : String → Bool)

mutual

/-- The words of a term. Properties of a class are written with a point, others in brackets. -/
def Term.words : Term → List Word
  | .name s => [.name s]
  | .lit v => constantWords v
  | .member of s => bracketed 11 of of.words ++ propertyWords dotted s
  | .call callee args => bracketed 11 callee callee.words ++ enclosed (itemWords args)
  | .binary op left right =>
    bracketed op.level left left.words ++ op.word :: bracketed (op.level + 1) right right.words
  | .unary op operand => op.word :: bracketed 10 operand operand.words
  | .array items => .punct "[" :: (itemWords items ++ [.punct "]"])

/-- The words of terms with commas between them. -/
def itemWords : List Term → List Word
  | [] => []
  | [x] => x.words
  | x :: y :: items => x.words ++ .punct "," :: itemWords (y :: items)

end

end

/-- Names with a meaning of their own, which are no identifiers. -/
def reservedNames : List String :=
  ["true", "false", "null", "undefined", "function", "return", "new", "this", "typeof", "in",
   "instanceof"]

/-- Terms that can be printed: any term of identifiers, of texts, truth values, nothing and
integers that have one number. -/
inductive Printable : Term → Prop where
  | name {s : String} (hs : isName s = true) (other : s ∉ reservedNames) : Printable (.name s)
  | null : Printable (.lit .null)
  | bool (b : Bool) : Printable (.lit (.bool b))
  | int {n : Nat} (h : n < 2 ^ 53) : Printable (.lit (.int n))
  | str (s : String) : Printable (.lit (.str s))
  | member {x : Term} (of : Printable x) (s : String) : Printable (.member x s)
  | call {x : Term} {args : List Term} (callee : Printable x) (items : ∀ a ∈ args, Printable a) :
      Printable (.call x args)
  | binary {x y : Term} (op : Operator) (left : Printable x) (right : Printable y) :
      Printable (.binary op x y)
  | unary {x : Term} (op : Unary) (operand : Printable x) : Printable (.unary op x)
  | array {items : List Term} (h : ∀ a ∈ items, Printable a) : Printable (.array items)

variable {dotted : String → Bool} {x : Term} {rank : Nat}

/-! ### Words are phrases -/

/-- The tokens of a list of words. -/
def tokens (ws : List Word) : List Token := ws.map Word.token

@[simp] theorem tokens_nil : tokens [] = [] := rfl

@[simp] theorem tokens_cons (w : Word) (ws : List Word) :
    tokens (w :: ws) = w.token :: tokens ws := rfl

@[simp] theorem tokens_append (ws vs : List Word) :
    tokens (ws ++ vs) = tokens ws ++ tokens vs := List.map_append

/-- No phrase has a rank beyond that of names and calls, so parentheses are never put around those.
-/
theorem Term.rank_le (x : Term) : x.rank ≤ 11 := by
  cases x with
  | binary op left right => exact Nat.le_of_lt (Nat.lt_succ_of_lt op.level_lt)
  | unary op operand => exact Nat.le_succ 10
  | _ => exact Nat.le_refl 11

/-- Parentheses make a phrase of the highest rank of any phrase. -/
theorem derives_enclosed {ws : List Word} (h : Derives 0 (tokens ws) x) :
    Derives 11 (tokens (enclosed ws)) x := by
  have whole := Derives.parentheses h
  simpa [enclosed, Word.token] using whole

/-- With parentheses only where they are needed, a term is a phrase of the rank asked for. -/
theorem derives_bracketed {ws : List Word} (h : Derives x.rank (tokens ws) x) (hr : rank ≤ 11) :
    Derives rank (tokens (bracketed rank x ws)) x := by
  unfold bracketed
  split
  · have inner : Derives 0 (tokens ws) x := h.loosen (Nat.zero_le _) x.rank_le
    exact (derives_enclosed inner).loosen hr (Nat.le_refl _)
  · next high => exact h.loosen (Nat.not_lt.1 high) x.rank_le

theorem operator?_word (op : Operator) : op.word.token.operator? op.level = some op := by
  cases op <;> decide

theorem unary?_word (op : Unary) : op.word.token.unary? = some op := by
  cases op <;> decide

/-- A name is no unary operator, except the one operator that is spelled with letters. -/
theorem unary?_name {s : String} (hs : isName s = true) (other : s ≠ "typeof") :
    (Token.name s).unary? = none := by
  refine List.find?_eq_none.2 fun op _ same => ?_
  have symbol := beq_iff_eq.1 same
  subst symbol
  cases op with
  | typeOf => exact other rfl
  | _ => exact absurd hs (by decide)

/-- Names that the grammar keeps for itself apart, a name is a phrase of its own. -/
theorem derives_name {s : String} (hs : isName s = true) (other : s ∉ reservedNames) :
    Derives 11 [.name s] (.name s) := by
  simp only [reservedNames, List.mem_cons, List.not_mem_nil, or_false, not_or] at other
  obtain ⟨true_, false_, null, undefined, function, return_, new, this, typeOf, -, -⟩ := other
  have term : termOfName s = .ok (.name s) := by
    simp [termOfName, reservedWords, true_, false_, null, undefined, function, return_, new, this]
  exact .name (unary?_name hs typeOf) term

/-- A constant that can be printed is a phrase of one word. -/
theorem derives_constant {v : Json} (h : Printable (.lit v)) :
    Derives 11 (tokens (constantWords v)) (.lit v) := by
  cases h with
  | null => exact .name rfl rfl
  | bool b => cases b <;> exact .name rfl rfl
  | @int n h =>
    have small : n < 0x20000000000000 := h
    obtain ⟨finite, integral, value⟩ := exact_ofDecimal h
    have constant : constant? (ofDecimal false n 0) = some (.int n) := by
      simp [constant?, finite, integral, value, small]
    exact .number constant
  | str s => exact .text s

/-- The printed items of a list are the tokens of its items with commas between them. -/
theorem tokens_itemWords (items : List Term) :
    tokens (itemWords dotted items) = listed (items.map fun x => (tokens (x.words dotted), x)) := by
  induction items with
  | nil => rfl
  | cons x items ih =>
    cases items with
    | nil => simp [itemWords, listed_one]
    | cons y items =>
      rw [itemWords, tokens_append, tokens_cons, ih, List.map_cons, List.map_cons, List.map_cons,
        listed_more]
      rfl

/-- Terms whose words are phrases, as the items of a list. -/
theorem derives_items {items : List Term}
    (h : ∀ a ∈ items, Derives a.rank (tokens (a.words dotted)) a) :
    (∀ a ∈ items.map fun x => (tokens (x.words dotted), x), Derives 0 a.1 a.2) ∧
      (items.map fun x => (tokens (x.words dotted), x)).map Prod.snd = items := by
  constructor
  · rw [List.forall_mem_map]
    exact fun x hx => (h x hx).loosen (Nat.zero_le _) x.rank_le
  · simp [Function.comp_def]

/-- **The words of a term** are a phrase of its rank. -/
theorem Printable.derives (h : Printable x) : Derives x.rank (tokens (x.words dotted)) x := by
  induction h with
  | name hs other => exact derives_name hs other
  | null => exact derives_constant .null
  | bool b => exact derives_constant (.bool b)
  | int h => exact derives_constant (.int h)
  | str s => exact derives_constant (.str s)
  | @member x of s ih =>
    -- what an access or a call stands behind is printed with the highest rank
    have inner := derives_bracketed ih (Nat.le_refl 11)
    rw [Term.words, tokens_append]
    unfold propertyWords
    split
    · exact .property s inner
    · exact .key s inner
  | @call x args callee items ihc ihi =>
    have inner := derives_bracketed ihc (Nat.le_refl 11)
    obtain ⟨phrases, terms⟩ := derives_items ihi
    have whole := Derives.call inner phrases
    rw [terms, ← tokens_itemWords] at whole
    simpa [Term.words, Term.rank, enclosed, Word.token] using whole
  | @binary x y op left right ihl ihr =>
    -- operators of one level group to the left, so the right side needs a higher rank
    have tight : op.level + 1 ≤ 11 := Nat.succ_le_succ (Nat.le_of_lt op.level_lt)
    have first := derives_bracketed ihl (Nat.le_of_succ_le tight)
    have second := derives_bracketed ihr tight
    have whole := Derives.joined first (operator?_word op) second
    simpa [Term.words, Term.rank] using whole
  | unary op operand ih =>
    have inner := derives_bracketed ih (Nat.le_succ 10)
    exact .unary (unary?_word op) inner
  | array h ih =>
    obtain ⟨phrases, terms⟩ := derives_items ih
    have whole := Derives.array phrases
    rw [terms, ← tokens_itemWords] at whole
    simpa [Term.words, Term.rank, Word.token] using whole

/-! ### Words are known -/

theorem known_enclosed {ws : List Word} (h : ∀ w ∈ ws, w.Known) : ∀ w ∈ enclosed ws, w.Known := by
  rw [enclosed, List.forall_mem_cons, List.forall_mem_append, List.forall_mem_singleton]
  exact ⟨by decide, h, by decide⟩

theorem known_bracketed {ws : List Word} (h : ∀ w ∈ ws, w.Known) :
    ∀ w ∈ bracketed rank x ws, w.Known := by
  unfold bracketed
  split
  · exact known_enclosed h
  · exact h

theorem Operator.known_word (op : Operator) : op.word.Known := by
  cases op <;> decide

theorem Unary.known_word (op : Unary) : op.word.Known := by
  cases op <;> decide

/-- The words of a constant that can be printed are known to the scanner. -/
theorem known_constant {v : Json} (h : Printable (.lit v)) : ∀ w ∈ constantWords v, w.Known := by
  cases h with
  | null => exact List.forall_mem_singleton.2 (by decide)
  | bool b => cases b <;> exact List.forall_mem_singleton.2 (by decide)
  | int h => exact List.forall_mem_singleton.2 trivial
  | str s => exact List.forall_mem_singleton.2 trivial

/-- Between the items there are commas only, which are known. -/
theorem known_items {items : List Term} (h : ∀ a ∈ items, ∀ w ∈ a.words dotted, w.Known) :
    ∀ w ∈ itemWords dotted items, w.Known := by
  induction items with
  | nil => simp [itemWords]
  | cons x items ih =>
    rw [List.forall_mem_cons] at h
    cases items with
    | nil => simpa [itemWords] using h.1
    | cons y items =>
      rw [itemWords, List.forall_mem_append, List.forall_mem_cons]
      exact ⟨h.1, by decide, ih h.2⟩

/-- **The words of a term** are known, if what is written behind a point is a name. -/
theorem Printable.known (h : Printable x) (names : ∀ s, dotted s = true → isName s = true) :
    ∀ w ∈ x.words dotted, w.Known := by
  induction h with
  | name hs other => exact List.forall_mem_singleton.2 hs
  | null => exact known_constant .null
  | bool b => exact known_constant (.bool b)
  | int h => exact known_constant (.int h)
  | str s => exact known_constant (.str s)
  | member of s ih =>
    rw [Term.words, List.forall_mem_append]
    refine ⟨known_bracketed ih, ?_⟩
    -- behind a dot, or as a text in square brackets where the name has no dotted spelling
    unfold propertyWords
    split
    · next name =>
      rw [List.forall_mem_cons, List.forall_mem_singleton]
      exact ⟨by decide, names s name⟩
    · rw [List.forall_mem_cons, List.forall_mem_cons, List.forall_mem_singleton]
      exact ⟨by decide, trivial, by decide⟩
  | call callee items ihc ihi =>
    rw [Term.words, List.forall_mem_append]
    exact ⟨known_bracketed ihc, known_enclosed (known_items ihi)⟩
  | binary op left right ihl ihr =>
    rw [Term.words, List.forall_mem_append, List.forall_mem_cons]
    exact ⟨known_bracketed ihl, op.known_word, known_bracketed ihr⟩
  | unary op operand ih =>
    rw [Term.words, List.forall_mem_cons]
    exact ⟨op.known_word, known_bracketed ih⟩
  | array h ih =>
    rw [Term.words, List.forall_mem_cons, List.forall_mem_append, List.forall_mem_singleton]
    exact ⟨by decide, known_items ih, by decide⟩

end Sift.Lambda
