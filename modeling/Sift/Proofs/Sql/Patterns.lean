import Mathlib
import Sift.Proofs.Sql.Literals
import Sift.Proofs.Sql.Success

/-!
# Texts that are searched for

A search for a constant text is written as a match against a pattern: the text with a backslash
before each character that has a meaning in patterns, an anchor where the search is for a start or
an end, and all of that as a string literal. A server takes the literal apart first and the pattern
then, and finds the text.

* `Demand`, `readPattern?`: a pattern as a server reads it.
* `found`: the texts that a pattern is found in.
* `Search`: the four searches, `Search.Finds` what they are for.
* `readPattern?_pattern`, `found_demands`: the pattern of a search.
* `search_matches`: a search that was written finds what it is for.
-/

namespace Sift.Sql

open Text

/-! ### Patterns as they are read -/

/-- Characters with a meaning in patterns, unless a backslash stands before them. -/
def metaCharacters : List Char :=
  ['\\', '.', '+', '*', '?', '(', ')', '|', '[', ']', '\x7b', '\x7d', '^', '$', '#', '&', '-', '~']

/-- Punctuation of ASCII. -/
def isPunctuation (c : Char) : Bool :=
  inRanges [(0x21, 0x2f), (0x3a, 0x40), (0x5b, 0x60), (0x7b, 0x7e)] c.toNat

/-- What a pattern demands: that the text starts here, that it ends here, or a character. -/
inductive Demand where
  | start
  | finish
  | char (c : Char)
  deriving DecidableEq, Repr

/-- The demands of a pattern without an anchor in front. A backslash before punctuation stands
for it, and a dollar sign at the end for the end. No other character with a meaning is read. -/
def readDemands? : List Char → Option (List Demand)
  | [] => some []
  | ['$'] => some [.finish]
  | '\\' :: c :: cs => if isPunctuation c then (readDemands? cs).map (.char c :: ·) else none
  | c :: cs => if c ∈ metaCharacters then none else (readDemands? cs).map (.char c :: ·)

/-- The demands of a pattern. A circumflex in front stands for the start. -/
def readPattern? : List Char → Option (List Demand)
  | '^' :: cs => (readDemands? cs).map (.start :: ·)
  | cs => readDemands? cs

/-- Whether demands are met by what stands from a place on, which may be the start of a text. -/
def metAt : List Demand → Bool → List Char → Bool
  | [], _, _ => true
  | .start :: ds, first, cs => first && metAt ds first cs
  | .finish :: ds, first, cs => cs.isEmpty && metAt ds first cs
  | .char _ :: _, _, [] => false
  | .char c :: ds, _, d :: cs => c == d && metAt ds false cs

/-- Whether demands are met at a place or at any one behind it. -/
def foundFrom (ds : List Demand) : Bool → List Char → Bool
  | first, [] => metAt ds first []
  | first, c :: cs => metAt ds first (c :: cs) || foundFrom ds false cs

/-- Whether a pattern is found in a text. -/
def found (ds : List Demand) (text : List Char) : Bool := foundFrom ds true text

/-! ### Searches -/

/-- Searches for a text: at the start, at the end, or anywhere, where the text comes behind the
member or in front of it. -/
inductive Search where
  | startsWith
  | endsWith
  | contains
  | substringOf
  deriving DecidableEq, Repr

namespace Search

/-- The call that searches a member. -/
def call (m t : String) : Search → Expr
  | startsWith => .call "startswith" [.member m, .lit (.str t)]
  | endsWith => .call "endswith" [.member m, .lit (.str t)]
  | contains => .call "contains" [.member m, .lit (.str t)]
  | substringOf => .call "substringof" [.lit (.str t), .member m]

/-- What a search is for. -/
def Finds (t text : List Char) : Search → Prop
  | startsWith => t <+: text
  | endsWith => t <:+ text
  | contains => t <:+: text
  | substringOf => t <:+: text

/-- The pattern that is written. -/
def pattern (t : List Char) : Search → List Char
  | startsWith => '^' :: escapePattern t
  | endsWith => escapePattern t ++ ['$']
  | contains => escapePattern t
  | substringOf => escapePattern t

/-- The demands of that pattern. -/
def demands (t : List Char) : Search → List Demand
  | startsWith => .start :: t.map .char
  | endsWith => t.map .char ++ [.finish]
  | contains => t.map .char
  | substringOf => t.map .char

/-- A search is written as a match of the member against the literal of its pattern. -/
theorem expr_call (settings : Settings) (m t : String) (search : Search) :
    (Formatter.ofSettings settings).expr (search.call m t) =
      .ok ("(" ++ (Formatter.ofSettings settings).name m ++ " REGEXP " ++
        (quoteText (String.ofList (search.pattern t.toList)) ++ ")")) := by
  have written : (Formatter.ofSettings settings).expr (search.call m t) =
      .ok (Renderer.matching ((Formatter.ofSettings settings).name m)
        (quoteText (String.ofList (search.pattern t.toList)))) := by
    -- only the text of the member is asked for, and that of the constant is not used
    cases search <;>
    · rw [call, Formatter.expr_call, List.map_cons, List.map_cons, Formatter.expr_member]
      rfl
  rw [written, Renderer.matching]
  exact congrArg Except.ok String.append_assoc

/-! ### Patterns that were written -/

end Search

theorem isMeta_iff {c : Char} : isMeta c = true ↔ c ∈ metaCharacters := by
  unfold isMeta
  rw [List.contains_iff_mem]
  rfl

theorem isPunctuation_of_isMeta {c : Char} (h : isMeta c = true) : isPunctuation c = true := by
  have all : metaCharacters.all isPunctuation = true := by rfl
  exact List.all_eq_true.1 all c (isMeta_iff.1 h)

/-- A character without a meaning in patterns demands itself. -/
theorem readDemands?_plain {c : Char} (h : ¬ isMeta c = true) (cs : List Char) :
    readDemands? (c :: cs) = (readDemands? cs).map (.char c :: ·) := by
  have apart (d : Char) (hd : isMeta d = true) : c ≠ d := fun same => h (same ▸ hd)
  rw [readDemands?]
  · exact if_neg fun mem => h (isMeta_iff.2 mem)
  · exact fun same _ => apart '$' (by decide) same
  · exact fun _ _ same _ => apart '\\' (by decide) same

/-- A character that was written in a pattern is demanded as itself. -/
theorem readDemands?_escaped (c : Char) (cs : List Char) :
    readDemands? ((if isMeta c then ['\\', c] else [c]) ++ cs) =
      (readDemands? cs).map (.char c :: ·) := by
  by_cases h : isMeta c = true
  · rw [if_pos h]
    change readDemands? ('\\' :: c :: cs) = _
    rw [readDemands?, if_pos (isPunctuation_of_isMeta h)]
  · rw [if_neg h]
    exact readDemands?_plain h cs

/-- A text that was written in a pattern is demanded character by character. -/
theorem readDemands?_escapePattern (t rest : List Char) :
    readDemands? (escapePattern t ++ rest) =
      (readDemands? rest).map (t.map .char ++ ·) := by
  induction t with
  | nil => simp [escapePattern]
  | cons c t ih =>
    change readDemands? ((if isMeta c then ['\\', c] else [c]) ++ escapePattern t ++ rest) = _
    rw [List.append_assoc, readDemands?_escaped, ih, Option.map_map]
    rfl

/-- No circumflex stands in front of a text that was written. -/
theorem readPattern?_escapePattern (t : List Char) {rest : List Char} (h : rest.head? ≠ some '^') :
    readPattern? (escapePattern t ++ rest) = readDemands? (escapePattern t ++ rest) := by
  -- an anchor that is searched for has a backslash in front, so it does not come first
  have apart : ∀ cs, escapePattern t ++ rest ≠ '^' :: cs := by
    intro cs same
    cases t with
    | nil =>
      have front : rest = '^' :: cs := same
      exact h (front ▸ rfl)
    | cons c t =>
      change (if isMeta c then ['\\', c] else [c]) ++ escapePattern t ++ rest = _ at same
      by_cases special : isMeta c = true
      · rw [if_pos special] at same
        cases same
      · rw [if_neg special] at same
        cases same
        exact special (by decide)
  rw [readPattern?]
  exact apart

namespace Search

/-- The pattern of a search is read as its characters, with the anchors around them that the search
has. -/
theorem readPattern?_pattern (t : List Char) (search : Search) :
    readPattern? (search.pattern t) = some (search.demands t) := by
  have whole : readDemands? (escapePattern t) = some (t.map .char) := by
    have read := readDemands?_escapePattern t []
    simpa [readDemands?] using read
  have plain : readPattern? (escapePattern t) = some (t.map .char) := by
    have front := @readPattern?_escapePattern t [] (by simp)
    rw [List.append_nil] at front
    exact front.trans whole
  cases search with
  | startsWith => rw [pattern, readPattern?, whole]; rfl
  | endsWith =>
    rw [pattern, readPattern?_escapePattern t (by decide), readDemands?_escapePattern]
    rfl
  | contains => exact plain
  | substringOf => exact plain

end Search

/-! ### Where demands are met -/

/-- Characters demanded one after the other are met where the text begins with them. -/
theorem metAt_chars (t : List Char) (ds : List Demand) (first : Bool) (text : List Char) :
    metAt (t.map .char ++ ds) first text = true ↔
      ∃ rest, text = t ++ rest ∧ metAt ds (first && t.isEmpty) rest = true := by
  -- one character after the other; the anchor counts in front of the first one only
  induction t generalizing first text with
  | nil => simp
  | cons c t ih =>
    cases text with
    | nil => simp [metAt]
    | cons d text =>
      have step : metAt ((c :: t).map .char ++ ds) first (d :: text) =
          (c == d && metAt (t.map .char ++ ds) false text) := rfl
      rw [step, Bool.and_eq_true, beq_iff_eq, ih]
      constructor
      · rintro ⟨rfl, rest, rfl, met⟩
        exact ⟨rest, rfl, by simpa using met⟩
      · rintro ⟨rest, same, met⟩
        obtain ⟨rfl, rfl⟩ := List.cons.inj same
        exact ⟨rfl, rest, rfl, by simpa using met⟩

/-- A search looks at every place of the text: by induction on the text, one character further each
time. -/
theorem foundFrom_iff (ds : List Demand) (first : Bool) (text : List Char) :
    foundFrom ds first text = true ↔
      ∃ front rest, text = front ++ rest ∧ metAt ds (first && front.isEmpty) rest = true := by
  induction text generalizing first with
  | nil => simp [foundFrom]
  | cons c text ih =>
    rw [foundFrom, Bool.or_eq_true, ih]
    constructor
    · rintro (met | ⟨front, rest, rfl, met⟩)
      · exact ⟨[], c :: text, rfl, by simpa using met⟩
      · exact ⟨c :: front, rest, rfl, by simpa using met⟩
    · rintro ⟨front, rest, same, met⟩
      cases front with
      | nil =>
        left
        rw [List.nil_append] at same
        simpa [same] using met
      | cons d front =>
        obtain ⟨rfl, rfl⟩ := List.cons.inj same
        exact .inr ⟨front, rest, rfl, by simpa using met⟩

/-- Where a text is found with demands behind it. -/
theorem found_chars_iff (t : List Char) (ds : List Demand) (text : List Char) :
    found (t.map .char ++ ds) text = true ↔
      ∃ front behind, text = front ++ (t ++ behind) ∧
        metAt ds (front.isEmpty && t.isEmpty) behind = true := by
  rw [found, foundFrom_iff]
  constructor
  · rintro ⟨front, rest, rfl, met⟩
    obtain ⟨behind, same, met⟩ := (metAt_chars t ds _ rest).1 met
    exact ⟨front, behind, by rw [same], met⟩
  · rintro ⟨front, behind, rfl, met⟩
    exact ⟨front, t ++ behind, rfl, (metAt_chars t ds _ _).2 ⟨behind, rfl, met⟩⟩

namespace Search

/-- **The demands of a search** are met by the texts that it is for. -/
theorem found_demands (t text : List Char) (search : Search) :
    found (search.demands t) text = true ↔ search.Finds t text := by
  have anywhere : found (t.map .char) text = true ↔ t <:+: text := by
    have chars := found_chars_iff t [] text
    rw [List.append_nil] at chars
    rw [chars]
    constructor
    · rintro ⟨front, behind, rfl, -⟩
      exact ⟨front, behind, List.append_assoc front t behind⟩
    · rintro ⟨front, behind, rfl⟩
      exact ⟨front, behind, List.append_assoc front t behind, rfl⟩
  cases search with
  | startsWith =>
    -- the anchor leaves no place but the start
    have anchored (first : Bool) (cs : List Char) : metAt (.start :: t.map .char) first cs = true ↔
        first = true ∧ ∃ rest, cs = t ++ rest := by
      have chars := metAt_chars t [] first cs
      rw [List.append_nil] at chars
      rw [metAt, Bool.and_eq_true, chars]
      simp [metAt]
    rw [demands, found, foundFrom_iff]
    constructor
    · rintro ⟨front, rest, rfl, met⟩
      obtain ⟨here, behind, rfl⟩ := (anchored _ rest).1 met
      rw [Bool.true_and, List.isEmpty_iff] at here
      exact ⟨behind, by rw [here]; rfl⟩
    · rintro ⟨behind, rfl⟩
      exact ⟨[], t ++ behind, rfl, (anchored _ _).2 ⟨rfl, behind, rfl⟩⟩
  | endsWith =>
    rw [demands, found_chars_iff]
    constructor
    · rintro ⟨front, behind, rfl, met⟩
      obtain rfl : behind = [] := by simpa [metAt] using met
      exact ⟨front, by rw [List.append_nil]⟩
    · rintro ⟨front, rfl⟩
      exact ⟨front, [], by rw [List.append_nil], rfl⟩
  | contains => exact anywhere
  | substringOf => exact anywhere

end Search

/-- **A search finds its text** and nothing else. The literal behind the operator is a string
literal in front of a parenthesis, and what it stands for is a pattern. There is no character with a
meaning in the pattern but for the anchors, and it is found in the texts that start with the text,
that end with it, or that contain it. -/
theorem search_matches (settings : Settings) (m t : String) (search : Search) :
    ∃ (literal pattern : String) (demands : List Demand),
      (Formatter.ofSettings settings).expr (search.call m t) =
        .ok ("(" ++ (Formatter.ofSettings settings).name m ++ " REGEXP " ++ literal) ∧
      readLiteral? literal.toList = some (pattern, [')']) ∧
      readPattern? pattern.toList = some demands ∧
      ∀ text : String, found demands text.toList = true ↔ search.Finds t.toList text.toList := by
  have behind : NoQuote [')'] := by simp [NoQuote]
  refine ⟨_, String.ofList (search.pattern t.toList), search.demands t.toList,
    Search.expr_call settings m t search, ?_, ?_,
    fun text => Search.found_demands t.toList text.toList search⟩
  · rw [String.toList_append]
    exact readLiteral?_quoteText _ behind
  · rw [String.toList_ofList]
    exact Search.readPattern?_pattern t.toList search

example : quoteText (String.ofList (Search.startsWith.pattern "it's 5.0\\".toList)) =
    "'^it''s 5\\\\.0\\\\\\\\'" := by decide

end Sift.Sql
