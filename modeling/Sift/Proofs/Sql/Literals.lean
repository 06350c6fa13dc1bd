import Sift.Sql.Literal

/-!
# String literals as a server reads them

How a literal is read from its opening quote on, and what of a statement is left when every literal
is taken out of it.

* `readQuoted?`: the text of a literal, behind its opening quote.
* `skeleton?`: a statement with a mark in place of each literal.
* `readQuoted?_flatMap`: reading a literal gives the text that was written.
* `Masks`, `FirmlyMasks`: the skeleton of a text, whatever follows it.
* `readLiteral?`: one literal at the start of a text; `quoteText_read_back`: literals that were
  written.
-/

namespace Sift.Sql

/-- What a character stands for behind a backslash. The wildcards of patterns keep theirs. -/
def unescape (c : Char) : List Char :=
  match c with
  | '0' => ['\x00']
  | 'b' => ['\x08']
  | 't' => ['\t']
  | 'n' => ['\n']
  | 'r' => ['\r']
  | 'Z' => ['\x1a']
  | '%' => ['\\', '%']
  | '_' => ['\\', '_']
  | c => [c]

/-- The text of a literal behind its opening quote, and what follows the literal: a backslash
goes with the next character, two quotes stand for one, and a quote alone closes. -/
def readQuoted? : List Char → Option (List Char × List Char)
  | [] => none
  | '\\' :: c :: cs => (readQuoted? cs).map fun r => (unescape c ++ r.1, r.2)
  | ['\\'] => none
  | '\'' :: '\'' :: cs => (readQuoted? cs).map fun r => ('\'' :: r.1, r.2)
  | '\'' :: cs => some ([], cs)
  | c :: cs => (readQuoted? cs).map fun r => (c :: r.1, r.2)

/-- A literal takes at least the quote that closes it from the text. -/
theorem length_lt_of_readQuoted? {cs : List Char} {r : List Char × List Char}
    (h : readQuoted? cs = some r) : r.2.length < cs.length := by
  fun_induction readQuoted? cs generalizing r with
  | case1 => cases h
  | case2 c cs ih =>
    obtain ⟨r, hr, rfl⟩ := Option.map_eq_some_iff.1 h
    have := ih hr
    simp only [List.length_cons]; omega
  | case3 => cases h
  | case4 cs ih =>
    obtain ⟨r, hr, rfl⟩ := Option.map_eq_some_iff.1 h
    have := ih hr
    simp only [List.length_cons]; omega
  | case5 cs => cases h; simp
  | case6 c cs _ _ _ _ ih =>
    obtain ⟨r, hr, rfl⟩ := Option.map_eq_some_iff.1 h
    have := ih hr
    simp only [List.length_cons]; omega

/-- A character outside literals, or a whole literal. -/
inductive Mark where
  | char (c : Char)
  | literal
  deriving DecidableEq, Repr

/-- A statement without its literals; there is none if one of them is not closed. -/
def skeleton? (cs : List Char) : Option (List Mark) :=
  match cs with
  | [] => some []
  | '\'' :: cs => match h : readQuoted? cs with
    | some r =>
      have := length_lt_of_readQuoted? h
      (skeleton? r.2).map (.literal :: ·)
    | none => none
  | c :: cs => (skeleton? cs).map (.char c :: ·)
termination_by cs.length
decreasing_by
  · simp only [List.length_cons]; omega
  · simp

/-! ### Literals that were written -/

/-- What does not go on with a literal in front of it. -/
def NoQuote (cs : List Char) : Prop := cs.head? ≠ some '\''

/-- A quote closes a literal where no second one follows it. -/
theorem readQuoted?_close {rest : List Char} (h : NoQuote rest) :
    readQuoted? ('\'' :: rest) = some ([], rest) := by
  cases rest with
  | nil => rfl
  | cons c rest =>
    have hc : c ≠ '\'' := fun e => h (e ▸ rfl)
    rw [readQuoted?.eq_def]
    split
    case h_6 hne he => exact absurd (List.cons.inj he).1.symm hne
    all_goals simp_all

theorem readQuoted?_plain {c : Char} (h₁ : c ≠ '\\') (h₂ : c ≠ '\'') (cs : List Char) :
    readQuoted? (c :: cs) = (readQuoted? cs).map fun r => (c :: r.1, r.2) := by
  rw [readQuoted?.eq_def]
  split <;> simp_all

/-- A character that was written is read as itself. -/
theorem readQuoted?_escapeChar (c : Char) (cs : List Char) :
    readQuoted? (escapeChar c ++ cs) = (readQuoted? cs).map fun r => (c :: r.1, r.2) := by
  unfold escapeChar
  split
  case h_10 c h₀ h₁ h₂ h₃ h₄ h₅ h₆ h₇ h₈ => exact readQuoted?_plain h₈ h₆ cs
  case h_7 => rw [List.cons_append, List.cons_append, List.nil_append, readQuoted?]
  all_goals rw [List.cons_append, List.cons_append, List.nil_append, readQuoted?]; rfl

/-- What stands behind the text of a literal is read with the text in front of it. -/
theorem readQuoted?_escaped (cs rest : List Char) :
    readQuoted? (cs.flatMap escapeChar ++ rest) =
      (readQuoted? rest).map fun r => (cs ++ r.1, r.2) := by
  induction cs with
  | nil => simp
  | cons c cs ih =>
    rw [List.flatMap_cons, List.append_assoc, readQuoted?_escapeChar, ih, Option.map_map]
    rfl

/-- **Reading a literal** gives the text that was written, and stops where the literal ends. -/
theorem readQuoted?_flatMap (cs : List Char) {rest : List Char} (h : NoQuote rest) :
    readQuoted? (cs.flatMap escapeChar ++ '\'' :: rest) = some (cs, rest) := by
  -- only the end of the literal looks at what follows it
  rw [readQuoted?_escaped, readQuoted?_close h, Option.map_some, List.append_nil]

/-! ### Skeletons of texts put together -/

theorem skeleton?_nil : skeleton? [] = some [] := by rw [skeleton?]

theorem skeleton?_plain {c : Char} (h : c ≠ '\'') (cs : List Char) :
    skeleton? (c :: cs) = (skeleton? cs).map (.char c :: ·) := by
  rw [skeleton?.eq_def]
  split
  · next he => cases he
  · next he => cases he; exact absurd rfl h
  · next he => cases he; rfl

/-- A quote opens a literal, which is one mark in the skeleton, whatever is in it. -/
theorem skeleton?_quote {cs : List Char} {r : List Char × List Char}
    (h : readQuoted? cs = some r) :
    skeleton? ('\'' :: cs) = (skeleton? r.2).map (.literal :: ·) := by
  rw [skeleton?.eq_def]
  split
  · next he => cases he
  · next he =>
    cases he
    split
    · next hr => rw [h] at hr; cases hr; rfl
    · next hr => rw [h] at hr; cases hr
  · next hne he => cases he; exact absurd rfl hne

/-- The skeleton of a text in front of anything that does not begin with a quote. -/
def Masks (s : List Char) (m : List Mark) : Prop :=
  ∀ rest, NoQuote rest → skeleton? (s ++ rest) = (skeleton? rest).map (m ++ ·)

/-- The skeleton of a text in front of anything. -/
def FirmlyMasks (s : List Char) (m : List Mark) : Prop :=
  ∀ rest, skeleton? (s ++ rest) = (skeleton? rest).map (m ++ ·)

section

variable {s t : List Char} {m n : List Mark}

theorem FirmlyMasks.masks (h : FirmlyMasks s m) : Masks s m := fun rest _ => h rest

theorem Masks.skeleton?_eq (h : Masks s m) : skeleton? s = some m := by
  have h := h [] (by simp [NoQuote])
  rw [List.append_nil, skeleton?_nil] at h
  simpa using h

/-- A text without quotes is its own skeleton. -/
theorem firmlyMasks_plain (h : '\'' ∉ s) : FirmlyMasks s (s.map .char) := by
  intro rest
  induction s with
  | nil => simp
  | cons c s ih =>
    rw [List.mem_cons, not_or] at h
    rw [List.cons_append, skeleton?_plain (Ne.symm h.1), ih h.2, Option.map_map]
    rfl

/-- A literal is one mark in a skeleton. -/
theorem masks_quoteChars (cs : List Char) : Masks (quoteChars cs) [.literal] := by
  intro rest h
  have hr := readQuoted?_flatMap cs h
  have text : quoteChars cs ++ rest = '\'' :: (cs.flatMap escapeChar ++ '\'' :: rest) := by
    simp [quoteChars]
  rw [text, skeleton?_quote hr]
  rfl

/-- A text that is not empty decides by itself what it begins with. -/
theorem noQuote_append (hs : s ≠ []) (h : NoQuote s) (rest : List Char) : NoQuote (s ++ rest) := by
  cases s with
  | nil => exact absurd rfl hs
  | cons c s => exact h

theorem noQuote_of_not_mem (h : '\'' ∉ s) : NoQuote s := by
  cases s with
  | nil => simp [NoQuote]
  | cons c s =>
    intro he
    cases he
    exact h List.mem_cons_self

theorem map_append_map {α : Type} (m n : List α) (o : Option (List α)) :
    (o.map (n ++ ·)).map (m ++ ·) = o.map (m ++ n ++ ·) := by
  rw [Option.map_map]
  congr 1
  funext k
  exact (List.append_assoc m n k).symm

/-- Skeletons are put together like the texts, where both are read in front of anything. -/
theorem FirmlyMasks.append (hs : FirmlyMasks s m) (ht : FirmlyMasks t n) :
    FirmlyMasks (s ++ t) (m ++ n) := by
  intro rest
  rw [List.append_assoc, hs, ht, map_append_map]

/-- The last of them may be one that must not touch a literal. -/
theorem FirmlyMasks.append_masks (hs : FirmlyMasks s m) (ht : Masks t n) :
    Masks (s ++ t) (m ++ n) := by
  intro rest h
  rw [List.append_assoc, hs, ht rest h, map_append_map]

/-- A text that ends in plain characters is firm. -/
theorem Masks.append_plain (hs : Masks s m) (hne : t ≠ []) (ht : '\'' ∉ t) :
    FirmlyMasks (s ++ t) (m ++ t.map .char) := by
  intro rest
  rw [List.append_assoc, hs _ (noQuote_append hne (noQuote_of_not_mem ht) rest),
    firmlyMasks_plain ht, map_append_map]

/-- Nothing but the empty text has an empty skeleton. -/
theorem Masks.eq_nil_iff (h : Masks s m) : s = [] ↔ m = [] := by
  have h := h.skeleton?_eq
  constructor
  · rintro rfl
    rw [skeleton?_nil] at h
    cases h
    rfl
  · rintro rfl
    rw [skeleton?.eq_def] at h
    split at h
    · rfl
    · split at h
      · obtain ⟨k, -, hk⟩ := Option.map_eq_some_iff.1 h
        cases hk
      · cases h
    · obtain ⟨k, -, hk⟩ := Option.map_eq_some_iff.1 h
      cases hk

end

/-! ### Literals read back -/

/-- One literal at the start of a text, and what follows it. -/
def readLiteral? : List Char → Option (String × List Char)
  | '\'' :: cs => (readQuoted? cs).map fun r => (String.ofList r.1, r.2)
  | _ => none

theorem toList_quoteText_append (s : String) (rest : List Char) :
    (quoteText s).toList ++ rest = '\'' :: (s.toList.flatMap escapeChar ++ '\'' :: rest) := by
  simp [quoteText, quoteChars]

/-- A literal that was written is read as the text it was made of, where no quote follows. -/
theorem readLiteral?_quoteText (s : String) {rest : List Char} (h : NoQuote rest) :
    readLiteral? ((quoteText s).toList ++ rest) = some (s, rest) := by
  rw [toList_quoteText_append, readLiteral?, readQuoted?_flatMap s.toList h]
  exact congrArg (fun t => some (t, rest)) String.ofList_toList

/-- A quote behind a literal goes on with it: less is left than follows the literal. -/
theorem readLiteral?_quote (s : String) (rest : List Char) {r : String × List Char}
    (h : readLiteral? ((quoteText s).toList ++ '\'' :: rest) = some r) :
    r.2.length < rest.length := by
  rw [toList_quoteText_append, readLiteral?, readQuoted?_escaped, readQuoted?] at h
  rw [Option.map_map, Option.map_map] at h
  obtain ⟨q, hq, rfl⟩ := Option.map_eq_some_iff.1 h
  exact length_lt_of_readQuoted? hq

/-- Characters that break a line or end a text are written as others. -/
theorem escapeChar_plain {c d : Char} (h : d ∈ escapeChar c) :
    d ≠ '\x00' ∧ d ≠ '\n' ∧ d ≠ '\r' := by
  unfold escapeChar at h
  split at h
  case h_10 nul _ _ newline carriage _ _ _ _ =>
    obtain rfl := List.mem_singleton.1 h
    exact ⟨nul, newline, carriage⟩
  all_goals
    simp only [List.mem_cons, List.not_mem_nil, or_false] at h
    rcases h with rfl | rfl <;> decide

/-- **A literal is read as the text that was written**, and nothing behind it is read, exactly if
what follows does not begin with a quote. So two texts have two literals, and there is no character
in a literal that ends a text or a line. -/
theorem quoteText_read_back :
    (∀ s rest, readLiteral? ((quoteText s).toList ++ rest) = some (s, rest) ↔ NoQuote rest) ∧
    Function.Injective quoteText ∧
    ∀ s, ∀ c ∈ (quoteText s).toList, c ≠ '\x00' ∧ c ≠ '\n' ∧ c ≠ '\r' := by
  refine ⟨fun s rest => ⟨fun h quote => ?_, readLiteral?_quoteText s⟩, fun s t h => ?_,
    fun s c hc => ?_⟩
  · -- a quote behind the literal would be read into it, so that less of the text is left
    obtain ⟨rest, rfl⟩ := List.head?_eq_some_iff.1 quote
    have shorter := readLiteral?_quote s rest h
    rw [List.length_cons] at shorter
    omega
  · have nothing : NoQuote [] := by simp [NoQuote]
    have first := readLiteral?_quoteText s nothing
    rw [h, readLiteral?_quoteText t nothing] at first
    exact (Prod.mk.inj (Option.some.inj first)).1.symm
  · -- what is written stands between two quotes, escaped character by character
    have text := toList_quoteText_append s []
    rw [List.append_nil] at text
    rw [text, List.mem_cons, List.mem_append, List.mem_singleton, List.mem_flatMap] at hc
    rcases hc with rfl | ⟨d, -, hd⟩ | rfl
    · decide
    · exact escapeChar_plain hd
    · decide

end Sift.Sql
