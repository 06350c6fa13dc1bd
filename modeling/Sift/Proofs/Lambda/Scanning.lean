import Mathlib.Data.List.Find
import Sift.Lambda.Parser
import Sift.Proofs.Names
import Sift.Proofs.Number.Exact
import Sift.Proofs.Scanning
import Sift.Proofs.Steps

/-!
# The words of closures

How a token is spelled, and that its spelling is read as the token.

* `Word`: a token with a spelling; `vocabulary`: the words and their tokens.
* `readTokens_blank`, `readTokens_token`: one step of the scanner.
* `Word.scans_ends`: the token of a word, in front of anything that may follow it.
* `scans_spaced`: the tokens of words with blanks between them; `tokenize_eq`: with any blanks.
-/

namespace Sift.Lambda

open Text Number

/-- A token with a spelling. -/
inductive Word where
  | name (s : String)
  | number (n : Nat)
  | text (s : String)
  | punct (symbol : String)

/-- A character inside a text: the quote, the backslash and the end of a line are escaped. -/
def escaped (c : Char) : List Char :=
  match c with
  | '\'' => ['\\', '\'']
  | '\\' => ['\\', '\\']
  | '\n' => ['\\', 'n']
  | c => [c]

namespace Word

/-- The spelling of a word. -/
def spelling : Word → List Char
  | name s => s.toList
  | number n => Nat.toDigits 10 n
  | text s => '\'' :: (s.toList.flatMap escaped ++ ['\''])
  | punct symbol => symbol.toList

/-- The token of a word. -/
def token : Word → Token
  | name s => .name s
  | number n => .number (ofDecimal false n 0)
  | text s => .text s
  | punct symbol => .punct symbol

/-- What can be a word: any name, number and text, and the known punctuators. -/
def Known : Word → Prop
  | name s => isName s = true
  | punct symbol => symbol ∈ punctuators
  | _ => True

instance (w : Word) : Decidable w.Known :=
  match w with
  | name s => inferInstanceAs (Decidable (isName s = true))
  | punct symbol => inferInstanceAs (Decidable (symbol ∈ punctuators))
  | number _ | text _ => isTrue trivial

end Word

/-- Characters that may follow any word directly. -/
def wordEnds : List Char := [' ', ';', '(', ')']

/-- What may follow any word directly. -/
def endsWord (c : Char) : Bool := wordEnds.contains c

/-! ### Steps of the scanner -/

section

variable {c : Char} {r : List Char}

theorem readTokens_nil : readTokens [] = .ok [] := by
  rw [readTokens, skipSpace]
  rfl

/-- The tokens from the first one on. -/
def tokensBehind (s : List Char) : Except Stop (List Token) :=
  match s with
  | [] => .ok []
  | c :: r => do
    let t ← readToken c r
    return t.value :: (← readTokens t.rest)

/-- The scanner skips what is no token and then reads what stands behind it. -/
theorem readTokens_eq (s : List Char) :
    readTokens s = skipSpace s >>= fun space => tokensBehind space.rest := by
  rw [readTokens]
  refine bind_congr fun space => ?_
  obtain ⟨-, rest, hle⟩ := space
  cases rest <;> rfl

theorem readTokens_blank : readTokens (' ' :: r) = readTokens r := by
  have step : skipSpace (' ' :: r) = skipSpace r >>= fun t => .ok (t.past ' ') := by
    rw [skipSpace]
    · rfl
    all_goals exact fun _ h => absurd h (by decide)
  rw [readTokens_eq, readTokens_eq, step]
  cases skipSpace r <;> rfl

/-- What makes no comment behind a slash. -/
def notComment (c : Char) : Bool := c != '/' && c != '*'

/-- A character that starts a token: it is no white space, and starts no comment. -/
def Starts (c : Char) (r : List Char) : Prop :=
  isWhite c = false ∧ (c = '/' → Follows notComment r)

/-- At the start of a token there is nothing to skip. -/
theorem skipSpace_eq (h : Starts c r) : skipSpace (c :: r) = .ok (.nothing () (c :: r)) := by
  rw [skipSpace]
  · rw [h.1]
    rfl
  · rintro r' rfl rfl
    exact absurd (h.2 rfl _ rfl) (by decide)
  · rintro r' rfl rfl
    exact absurd (h.2 rfl _ rfl) (by decide)

/-- **One token** and those behind it. -/
theorem readTokens_token {t : Read Token (c :: r)} (h : Starts c r) (ht : readToken c r = .ok t) :
    readTokens (c :: r) = ([t.value] ++ ·) <$> readTokens t.rest := by
  rw [readTokens_eq, skipSpace_eq h, ok_bind]
  change (readToken c r >>= fun t => readTokens t.rest >>= fun ts => .ok (t.value :: ts)) = _
  rw [ht, ok_bind]
  cases readTokens t.rest <;> rfl

end

/-! ### Names -/

theorem readToken_name {c : Char} (h : isNameStart c = true) (r : List Char) :
    readToken c r = .ok ((runFrom isNameChar r c).map fun cs => .name (String.ofList cs)) := by
  have digit := isDigit_of_isNameStart h
  have point : c ≠ '.' := isNameStart_apart h (by decide)
  have quotes : ¬ (c = '\'' ∨ c = '"') := by
    rintro (rfl | rfl) <;> exact absurd h (by decide)
  cases r <;> simp [readToken, digit, point, quotes, h]

/-- A name ends where no letter of a name follows. -/
theorem scans_name {s : String} (h : isName s = true) :
    Scans readTokens (fun c => !isNameChar c) s.toList [.name s] := by
  intro rest hrest
  unfold isName at h
  cases hs : s.toList with
  | nil => simp [hs] at h
  | cons c cs =>
    simp only [hs, Bool.and_eq_true, List.all_eq_true] at h
    obtain ⟨first, others⟩ := h
    have starts : Starts c (cs ++ rest) :=
      ⟨isWhite_of_isNameStart first, fun hc => absurd hc (isNameStart_apart first (by decide))⟩
    obtain ⟨taken, left⟩ := takeWhile_append_of_follows others hrest (by simp)
    rw [List.cons_append, readTokens_token starts (readToken_name first _)]
    simp only [Read.value_map, Read.rest_map, runFrom, taken, left, ← hs, String.ofList_toList]

/-! ### Numbers -/

/-- What ends a number: no digit, point or exponent mark, and nothing that starts a name. -/
def endsNumber (c : Char) : Bool := !(c.isDigit || c == '.' || isNameStart c)

/-- Digits are taken to the end of the run, when neither a point nor an exponent follows them. -/
theorem scanNumber_digits {ds rest : List Char} (hds : ∀ c ∈ ds, c.isDigit = true)
    (hrest : Follows endsNumber rest) :
    (scanNumber false (ds ++ rest)).value = ds ∧ (scanNumber false (ds ++ rest)).rest = rest := by
  induction ds with
  | nil =>
    cases rest with
    | nil => exact ⟨rfl, rfl⟩
    | cons c rest =>
      -- what ends a number is neither a digit, nor a point, nor the letter of an exponent
      have ends := hrest c rfl
      simp only [endsNumber, Bool.not_eq_true', Bool.or_eq_false_iff] at ends
      obtain ⟨⟨digit, point⟩, name⟩ := ends
      have e : (c == 'e') = false := by
        rw [beq_eq_false_iff_ne]
        rintro rfl
        exact absurd name (by decide)
      have E : (c == 'E') = false := by
        rw [beq_eq_false_iff_ne]
        rintro rfl
        exact absurd name (by decide)
      rw [List.nil_append, scanNumber]
      simp [digit, point, e, E, Scan.nothing]
  | cons d ds ih =>
    rw [List.forall_mem_cons] at hds
    obtain ⟨value, left⟩ := ih hds.2
    have mark : (d == 'e' || d == 'E') = false := by
      rw [Bool.or_eq_false_iff, beq_eq_false_iff_ne, beq_eq_false_iff_ne]
      constructor <;> rintro rfl <;> exact absurd hds.1 (by decide)
    rw [List.cons_append, scanNumber]
    simp only [hds.1, Bool.true_or, if_true, mark]
    exact ⟨congrArg (d :: ·) value, left⟩

theorem readToken_digit {c : Char} {r : List Char} (hc : c.isDigit = true)
    (hr : ∀ x, r.head? = some x → x ≠ 'x' ∧ x ≠ 'X') : readToken c r = readDecimal c r := by
  cases r with
  | nil => simp [readToken, hc]
  | cons x r =>
    obtain ⟨lower, upper⟩ := hr x rfl
    simp [readToken, hc, lower, upper]

/-- A run of digits is a number token of the value that the run denotes. -/
theorem readDecimal_digits {c : Char} {ds rest : List Char} {x : Float}
    (hds : ∀ d ∈ ds, d.isDigit = true) (hrest : Follows endsNumber rest)
    (hx : readFloat? (c :: ds) = some x) :
    ∃ t, readDecimal c (ds ++ rest) = .ok t ∧ t.value = .number x ∧ t.rest = rest := by
  obtain ⟨value, left⟩ := scanNumber_digits hds hrest
  refine ⟨((scanNumber false (ds ++ rest)).map fun _ => .number x).after c, ?_, rfl, left⟩
  unfold readDecimal
  generalize scanNumber false (ds ++ rest) = t at value left ⊢
  have finished : readDecimal.finish c (ds ++ rest) (c :: t.value) t =
      .ok ((t.map fun _ => .number x).after c) := by
    rw [readDecimal.finish, value, hx]
  dsimp only
  rw [left]
  -- no letter may follow a number directly
  cases rest with
  | nil => exact finished
  | cons d rest =>
    have ends := hrest d rfl
    simp only [endsNumber, Bool.not_eq_true', Bool.or_eq_false_iff] at ends
    exact (if_neg (by simp [ends.2])).trans finished

/-- Digits are one token. -/
theorem scans_number (n : Nat) :
    Scans readTokens endsNumber (Nat.toDigits 10 n) [.number (ofDecimal false n 0)] := by
  intro rest hrest
  have digits := isDigit_toDigits n
  have float := readFloat?_toDigits n
  cases hds : Nat.toDigits 10 n with
  | nil => exact absurd hds Nat.toDigits_ne_nil
  | cons c ds =>
    rw [hds] at digits float
    rw [List.forall_mem_cons] at digits
    obtain ⟨t, ht, value, left⟩ := readDecimal_digits digits.2 hrest float
    -- neither a digit nor what may follow a number is the mark of another radix
    have radix (x : Char) (hx : (ds ++ rest).head? = some x) : x ≠ 'x' ∧ x ≠ 'X' := by
      have ok : x.isDigit = true ∨ endsNumber x = true := by
        cases ds with
        | nil => exact .inr (hrest x hx)
        | cons d ds =>
          cases hx
          exact .inl (digits.2 _ List.mem_cons_self)
      constructor <;> rintro rfl <;> rcases ok with ok | ok <;> exact absurd ok (by decide)
    have starts : Starts c (ds ++ rest) := by
      refine ⟨isWhite_of_isDigit digits.1, ?_⟩
      rintro rfl
      exact absurd digits.1 (by decide)
    have token : readToken c (ds ++ rest) = .ok t := (readToken_digit digits.1 radix).trans ht
    rw [List.cons_append, readTokens_token starts token, value, left]

/-! ### Texts -/

section

variable {start r : List Char} {c : Char}

theorem readText_close : readText start '\'' ('\'' :: r) = .ok (.one [] '\'' r) := by
  rw [readText.eq_def]
  rfl

/-- Most characters stand for themselves in a text. -/
theorem readText_plain (line : c ≠ '\n') (quote : c ≠ '\'') (slash : c ≠ '\\') :
    readText start '\'' (c :: r) =
      readText start '\'' r >>= fun t => .ok ((t.map (c :: ·)).past c) := by
  cases r with
  | nil => simp [readText, quote, slash]
  | cons d r =>
    -- what follows matters only behind a backslash
    by_cases hd : d = 'u'
    · rw [hd, readText, if_neg quote, if_neg slash]
      · rfl
      · exact line
    · rw [readText, if_neg quote, if_neg slash]
      · rfl
      · exact line
      · exact hd

/-- Behind a backslash stands one character that is looked up, the long form of an escape apart. -/
theorem readText_escape (code : c ≠ 'u') :
    readText start '\'' ('\\' :: c :: r) =
      readText start '\'' r >>= fun t => .ok (((t.map (shortEscape c :: ·)).past c).past '\\') := by
  rw [readText]
  · rfl
  · exact fun h => absurd h (by decide)
  · exact code

theorem escaped_plain (quote : c ≠ '\'') (slash : c ≠ '\\') (line : c ≠ '\n') :
    escaped c = [c] := by
  unfold escaped
  split
  · exact absurd rfl quote
  · exact absurd rfl slash
  · exact absurd rfl line
  · rfl

/-- An escaped text is read as it was, up to its closing quote. -/
theorem readText_escaped (start cs rest : List Char) :
    ∃ t, readText start '\'' (cs.flatMap escaped ++ '\'' :: rest) = .ok t ∧ t.value = cs ∧
      t.rest = rest := by
  induction cs with
  | nil => exact ⟨_, readText_close, rfl, rfl⟩
  | cons c cs ih =>
    rw [List.flatMap_cons, List.append_assoc]
    generalize cs.flatMap escaped ++ '\'' :: rest = tail at ih ⊢
    obtain ⟨t, ht, value, left⟩ := ih
    have escape {d : Char} (hd : d ≠ 'u') (short : shortEscape d = c) :
        ∃ t, readText start '\'' ('\\' :: d :: tail) = .ok t ∧ t.value = c :: cs ∧
          t.rest = rest := by
      rw [readText_escape hd, ht]
      exact ⟨_, rfl, by simp [short, value], left⟩
    -- three characters are escaped in a text, and all others stand for themselves
    by_cases quote : c = '\''
    · subst quote
      exact escape (by decide) rfl
    by_cases slash : c = '\\'
    · subst slash
      exact escape (by decide) rfl
    by_cases line : c = '\n'
    · subst line
      exact escape (by decide) rfl
    rw [escaped_plain quote slash line, List.singleton_append, readText_plain line quote slash, ht]
    exact ⟨_, rfl, by simp [value], left⟩

end

/-- A quoted text is one token. -/
theorem scans_text (s : String) :
    Scans readTokens anyChar ('\'' :: (s.toList.flatMap escaped ++ ['\''])) [.text s] := by
  intro rest _
  obtain ⟨t, ht, value, left⟩ := readText_escaped
    ('\'' :: (s.toList.flatMap escaped ++ '\'' :: rest)) s.toList rest
  have token : readToken '\'' (s.toList.flatMap escaped ++ '\'' :: rest) =
      .ok ((t.map fun cs => .text (String.ofList cs)).past '\'') := by
    generalize s.toList.flatMap escaped ++ '\'' :: rest = tail at t ht value left ⊢
    have token : readToken '\'' tail =
        readText ('\'' :: tail) '\'' tail >>= fun t =>
          .ok ((t.map fun cs => .text (String.ofList cs)).past '\'') := by
      cases tail <;> rfl
    rw [token, ht]
    rfl
  have starts : Starts '\'' (s.toList.flatMap escaped ++ '\'' :: rest) :=
    ⟨by decide, fun h => absurd h (by decide)⟩
  rw [List.cons_append, List.append_assoc, List.singleton_append, readTokens_token starts token]
  simp [value, left]

/-! ### Punctuators -/

/-- What may follow a punctuator without making a longer one of it. -/
def Separates (p : Char → Bool) (symbol : String) : Prop :=
  punctuators.all (fun longer => !(symbol.toList.isPrefixOf longer.toList) ||
    (longer.toList.drop symbol.toList.length).all fun c => !p c) = true

instance (p : Char → Bool) (symbol : String) : Decidable (Separates p symbol) :=
  inferInstanceAs (Decidable (_ = _))

/-- Whether a symbol begins a text is decided within the word written there, if what follows cannot
lengthen the word to that symbol. -/
theorem isPrefixOf_append {p : Char → Bool} {u s rest : List Char} (hrest : Follows p rest)
    (h : s.isPrefixOf u = true → (u.drop s.length).all (fun c => !p c) = true) :
    u.isPrefixOf (s ++ rest) = u.isPrefixOf s := by
  induction s generalizing u with
  | nil =>
    cases u with
    | nil => simp
    | cons c u =>
      -- a longer symbol would have to go on with the first character of the rest
      have out : p c = false := by simpa using List.all_eq_true.1 (h rfl) c List.mem_cons_self
      cases rest with
      | nil => rfl
      | cons d rest =>
        have other : c ≠ d := by
          rintro rfl
          rw [hrest c rfl] at out
          cases out
        simp [List.isPrefixOf, other]
  | cons a s ih =>
    cases u with
    | nil => simp
    | cons c u =>
      by_cases hc : c = a
      · subst hc
        have rest := ih (u := u) fun hs => h (by simpa [List.isPrefixOf] using hs)
        simp [List.isPrefixOf, rest]
      · have differ : (c == a) = false := beq_eq_false_iff_ne.2 hc
        simp [List.isPrefixOf, differ]

/-- The punctuator read is the first of the table that the text begins with. -/
theorem readPunct?_eq {s : String} {c : Char} {cs rest : List Char} (hs : s.toList = c :: cs)
    {symbols : List String}
    (h : symbols.find? (fun u => u.toList.isPrefixOf (c :: (cs ++ rest))) = some s) :
    ∃ t, readPunct? c (cs ++ rest) symbols = some t ∧ t.value = .punct s ∧ t.rest = rest := by
  -- on the table, of which the reader tries one symbol after the other
  induction symbols with
  | nil => cases h
  | cons u symbols ih =>
    rw [readPunct?]
    rw [List.find?_cons] at h
    split at h
    · next hu =>
      cases h
      rw [if_pos hu]
      refine ⟨_, rfl, rfl, ?_⟩
      rw [hs]
      simp [scanCount, Scan.map]
    · next hu =>
      rw [if_neg (by simp [hu])]
      exact ih h

/-- The first character of a punctuator starts no other kind of token. -/
theorem punctuator_head {s : String} (hs : s ∈ punctuators) :
    ∃ c cs, s.toList = c :: cs ∧ c.isDigit = false ∧ ¬ (c = '\'' ∨ c = '"') ∧
      isNameStart c = false ∧ isWhite c = false ∧ (c = '.' → s = ".") ∧ (c = '/' → s = "/") := by
  have heads : punctuators.all (fun u => u.toList.head?.any fun c => !c.isDigit &&
      !(c == '\'' || c == '"') && !isNameStart c && !isWhite c && (c != '.' || u == ".") &&
      (c != '/' || u == "/")) = true := by decide
  have head := List.all_eq_true.1 heads s hs
  cases hl : s.toList with
  | nil => simp [hl] at head
  | cons c cs =>
    simp only [hl, List.head?_cons, Option.any_some, Bool.and_eq_true, Bool.not_eq_true',
      Bool.or_eq_false_iff, beq_eq_false_iff_ne, Bool.or_eq_true, bne_iff_ne, beq_iff_eq] at head
    obtain ⟨⟨⟨⟨⟨digit, quote⟩, name⟩, white⟩, point⟩, slash⟩ := head
    exact ⟨c, cs, rfl, digit, by tauto, name, white, by tauto, by tauto⟩

/-- For a punctuator that what follows keeps apart from the longer ones, the first of the table is
the punctuator itself. -/
theorem find?_punctuators {s : String} (hs : s ∈ punctuators) {p : Char → Bool}
    (h : Separates p s) {rest : List Char} (hrest : Follows p rest) :
    punctuators.find? (fun u => u.toList.isPrefixOf (s.toList ++ rest)) = some s := by
  have longest : punctuators.all (fun s =>
      punctuators.find? (fun u => u.toList.isPrefixOf s.toList) == some s) = true := by decide
  have alone := List.all_eq_true.1 longest s hs
  rw [beq_iff_eq] at alone
  rw [← alone]
  refine List.find?_congr fun u hu => isPrefixOf_append hrest fun longer => ?_
  have apart := List.all_eq_true.1 h u hu
  rwa [longer, Bool.not_true, Bool.false_or] at apart

/-- A punctuator is one token where nothing makes a longer one of it, a number or a comment. -/
theorem scans_punct {s : String} (hs : s ∈ punctuators) {p : Char → Bool} (h : Separates p s)
    (point : s = "." → ∀ c, p c = true → c.isDigit = false)
    (slash : s = "/" → ∀ c, p c = true → notComment c = true) :
    Scans readTokens p s.toList [.punct s] := by
  intro rest hrest
  have found := find?_punctuators hs h hrest
  obtain ⟨c, cs, hl, digit, quotes, name, white, isPoint, isSlash⟩ := punctuator_head hs
  rw [hl] at found ⊢
  obtain ⟨t, ht, value, left⟩ := readPunct?_eq hl found
  -- a point or a slash is the whole symbol, so that what follows the symbol follows it
  have alone {d : Char} (whole : s = String.singleton d) : cs = [] := by
    rw [whole, String.toList_singleton] at hl
    exact (List.cons.inj hl).2.symm
  have starts : Starts c (cs ++ rest) := by
    refine ⟨white, fun hc => ?_⟩
    have whole := isSlash hc
    rw [alone (d := '/') whole, List.nil_append]
    exact hrest.mono (slash whole)
  have noDigit (hc : c = '.') : ∀ d, (cs ++ rest).head? = some d → d.isDigit = false := by
    have whole := isPoint hc
    rw [alone (d := '.') whole, List.nil_append]
    exact fun d hd => point whole d (hrest d hd)
  have token : readToken c (cs ++ rest) = .ok t := by
    generalize cs ++ rest = r at t ht noDigit ⊢
    cases r with
    | nil => simp [readToken, digit, quotes, name, ht]
    | cons d r =>
      have plain : (c == '.' && d.isDigit) = false := by
        by_cases hc : c = '.'
        · rw [noDigit hc d rfl, Bool.and_false]
        · rw [beq_eq_false_iff_ne.2 hc, Bool.false_and]
      simp [readToken, digit, plain, quotes, name, ht]
  rw [List.cons_append, readTokens_token starts token, value, left]

/-- What may follow a punctuator directly: nothing that makes a longer one of it, a number or a
comment. -/
def endsSymbol (symbol : String) (c : Char) : Bool :=
  decide (Separates (· == c) symbol) && (symbol != "." || !c.isDigit) &&
    (symbol != "/" || notComment c)

/-- What may follow a symbol is by definition what keeps it apart from all longer ones. -/
theorem separates_endsSymbol (symbol : String) : Separates (endsSymbol symbol) symbol := by
  refine List.all_eq_true.2 fun longer hl => ?_
  rw [Bool.or_eq_true, Bool.not_eq_true', ← Bool.not_eq_true, ← imp_iff_not_or]
  refine fun front => List.all_eq_true.2 fun c hc => ?_
  rw [Bool.not_eq_true', ← Bool.not_eq_true]
  intro ends
  rw [endsSymbol, Bool.and_eq_true, Bool.and_eq_true] at ends
  have apart := List.all_eq_true.1 (of_decide_eq_true ends.1.1) longer hl
  rw [front, Bool.not_true, Bool.false_or] at apart
  simpa using List.all_eq_true.1 apart c hc

theorem scans_symbol {s : String} (hs : s ∈ punctuators) :
    Scans readTokens (endsSymbol s) s.toList [.punct s] := by
  refine scans_punct hs (separates_endsSymbol s) ?_ ?_
  · rintro rfl c hc
    simp only [endsSymbol, Bool.and_eq_true] at hc
    simpa using hc.1.2
  · rintro rfl c hc
    simp only [endsSymbol, Bool.and_eq_true] at hc
    simpa using hc.2

/-! ### Words -/

/-- What may follow a word directly. -/
def Word.ends : Word → Char → Bool
  | name _, c => !isNameChar c
  | number _, c => endsNumber c
  | text _, _ => true
  | punct symbol, c => endsSymbol symbol c

/-- The words of closures. -/
def vocabulary : Vocabulary Word Token where
  spelling := Word.spelling
  token := Word.token
  ends := Word.ends

/-- **A word** is one token in front of anything that may follow it. -/
theorem Word.scans_ends {w : Word} (h : w.Known) :
    Scans readTokens (vocabulary.ends w) (vocabulary.spelling w) [vocabulary.token w] := by
  cases w with
  | name s => exact scans_name h
  | number n => exact scans_number n
  | text s => exact scans_text s
  | punct symbol => exact scans_symbol h

/-- **The tokens of a text** of words, with whatever blanks around them. -/
theorem tokenize_eq {ws : List Word} (known : ∀ w ∈ ws, w.Known) {source : String}
    (h : vocabulary.spells ws source.toList = true) :
    tokenize source = .ok (ws.map Word.token) := by
  have each : ∀ w ∈ ws, Scans readTokens (vocabulary.ends w) (vocabulary.spelling w)
      [vocabulary.token w] := fun w hw => Word.scans_ends (known w hw)
  have scanned := Vocabulary.scan_eq readTokens_nil (fun _ => readTokens_blank) each h
  rw [tokenize, scanned]
  rfl

/-- What ends every kind of word ends each of them. -/
theorem all_of_endsWord {p : Char → Bool} (h : wordEnds.all p = true) {c : Char}
    (hc : endsWord c = true) : p c = true :=
  List.all_eq_true.1 h c (List.contains_iff_mem.1 hc)

/-- A word is one token in front of a blank, a semicolon or a parenthesis. -/
theorem Word.scans {w : Word} (h : w.Known) : Scans readTokens endsWord w.spelling [w.token] := by
  refine (Word.scans_ends h).mono fun c hc => ?_
  cases w with
  | name s => exact all_of_endsWord (p := fun c => !isNameChar c) (by decide) hc
  | number n => exact all_of_endsWord (p := endsNumber) (by decide) hc
  | text s => rfl
  | punct symbol =>
    have ends : punctuators.all (fun s => wordEnds.all (endsSymbol s)) = true := by decide
    exact all_of_endsWord (List.all_eq_true.1 ends symbol h) hc

/-- Words with blanks between them. -/
def spaced : List Word → List Char
  | [] => []
  | [w] => w.spelling
  | w :: ws => w.spelling ++ ' ' :: spaced ws

end Sift.Lambda
