import Mathlib.Tactic.ByContra
import Sift.Filter.Parser
import Sift.Proofs.Names
import Sift.Proofs.Number.Exact
import Sift.Proofs.Scanning
import Sift.Proofs.Steps

/-!
# The words of filters

How a token is spelled, and that its spelling is read as the token.

* `Word`: a token with a spelling; `vocabulary`: the words and their tokens.
* `readTokens_white`, `readTokens_token`: one step of the scanner.
* `TokenAt`, `FaultAt`: what is read at one place.
* `start_cases`, `readWord_cases`: how a token can begin, and how a word can end.
* `integer_at`: integers, whatever their digits.
* `Word.scans`: the token of a word, in front of anything that may follow it.
* `tokenize_eq`: the tokens of a text of words.
-/

namespace Sift.Filter

open Text Number

/-- A token with a spelling. -/
inductive Word where
  | name (s : String)
  | int (n : Int)
  | text (s : String)
  | sign (sign : Sign)

/-- A character inside a text: a quote is written twice. -/
def doubled (c : Char) : List Char := if c = '\'' then ['\'', '\''] else [c]

/-- What ends a number: nothing that goes on with a name, and no point. -/
def endsNumber (c : Char) : Bool := !isNameChar c && c != '.'

namespace Word

/-- The spelling of a word. -/
def spelling : Word → List Char
  | name s => s.toList
  | int n => (if n < 0 then ['-'] else []) ++ Nat.toDigits 10 n.natAbs
  | text s => '\'' :: (s.toList.flatMap doubled ++ ['\''])
  | sign s => [s.char]

/-- The token of a word. Some names are words for constants. -/
def token : Word → Token
  | name s => wordToken s
  | int n => .literal (.int n)
  | text s => .literal (.string s)
  | sign s => .sign s

/-- What may follow a word directly. A quote makes a constant of a name, and doubles another
quote. -/
def ends : Word → Char → Bool
  | name _, c => !isNameChar c && c != '\''
  | int _, c => endsNumber c
  | text _, c => c != '\''
  | sign _, _ => true

/-- What can be a word: any name, integer of 32 bits and text, and the signs that are no part of
a number. -/
def Known : Word → Prop
  | name s => isName s = true
  | int n => fitsInt n = true
  | text _ => True
  | sign s => s ≠ .minus

instance (w : Word) : Decidable w.Known :=
  match w with
  | name s => inferInstanceAs (Decidable (isName s = true))
  | int n => inferInstanceAs (Decidable (fitsInt n = true))
  | text _ => isTrue trivial
  | sign s => inferInstanceAs (Decidable (s ≠ .minus))

end Word

/-- The words of filters. -/
def vocabulary : Vocabulary Word Token where
  spelling := Word.spelling
  token := Word.token
  ends := Word.ends

/-! ### Steps of the scanner -/

section

variable {c : Char} {r : List Char}

/-- The tokens from the first one on. -/
def tokensBehind (s : List Char) : Except Stop (List Token) :=
  match s with
  | [] => .ok []
  | c :: r => do
    let t ← readToken c r
    return t.value :: (← readTokens t.rest)

/-- The scanner passes over white space first. -/
theorem readTokens_eq (s : List Char) : readTokens s = tokensBehind (scanRun isWhite s).rest := by
  rw [readTokens]
  dsimp only
  split
  · next h => exact (congrArg tokensBehind h).symm
  · next c r h => exact (congrArg tokensBehind h).symm

theorem readTokens_nil : readTokens [] = .ok [] := by
  rw [readTokens_eq]
  rfl

/-- White space in front makes no token. -/
theorem readTokens_white (hc : isWhite c = true) : readTokens (c :: r) = readTokens r := by
  have behind : (scanRun isWhite (c :: r)).rest = (scanRun isWhite r).rest :=
    List.dropWhile_cons_of_pos hc
  rw [readTokens_eq, readTokens_eq, behind]

theorem readTokens_blank : readTokens (' ' :: r) = readTokens r := readTokens_white (by decide)

/-- Where no white space stands, one token is read, and then what is behind it. -/
theorem readTokens_cons (hc : isWhite c = false) : readTokens (c :: r) =
    readToken c r >>= fun t => readTokens t.rest >>= fun ts => .ok (t.value :: ts) := by
  have here : (scanRun isWhite (c :: r)).rest = c :: r :=
    List.dropWhile_cons_of_neg (by simp [hc])
  rw [readTokens_eq, here]
  rfl

/-- A token that is read comes out in front of the tokens of what it leaves. -/
theorem readTokens_token {t : Read Token (c :: r)} (hc : isWhite c = false)
    (ht : readToken c r = .ok t) :
    readTokens (c :: r) = ([t.value] ++ ·) <$> readTokens t.rest := by
  rw [readTokens_cons hc, ht, ok_bind]
  cases readTokens t.rest <;> rfl

end

/-- The token at a place: what the scanner reads there, and where it goes on. -/
def TokenAt (place : List Char) (token : Token) (rest : List Char) : Prop :=
  ∃ (c : Char) (r : List Char) (t : Read Token (c :: r)), place = c :: r ∧ isWhite c = false ∧
    readToken c r = .ok t ∧ t.value = token ∧ t.rest = rest

/-- Where a token stands, the tokens are that one and those behind it. -/
theorem TokenAt.readTokens_eq {place rest : List Char} {token : Token}
    (h : TokenAt place token rest) : readTokens place = ([token] ++ ·) <$> readTokens rest := by
  obtain ⟨c, r, t, rfl, white, ht, rfl, rfl⟩ := h
  exact readTokens_token white ht

/-- There is one token at a place. -/
theorem TokenAt.eq {place rest rest' : List Char} {token token' : Token}
    (h : TokenAt place token rest) (h' : TokenAt place token' rest') :
    token = token' ∧ rest = rest' := by
  obtain ⟨c, r, t, rfl, -, ht, rfl, rfl⟩ := h
  obtain ⟨c', r', t', same, -, ht', rfl, rfl⟩ := h'
  obtain ⟨rfl, rfl⟩ := List.cons.inj same
  obtain rfl := Except.ok.inj (ht.symm.trans ht')
  exact ⟨rfl, rfl⟩

/-- A fault in the token at a place. -/
def FaultAt (place : List Char) (stop : Stop) : Prop :=
  ∃ (c : Char) (r : List Char), place = c :: r ∧ isWhite c = false ∧ readToken c r = .error stop

/-- Where a fault stands, there are no tokens. -/
theorem FaultAt.readTokens_eq {place : List Char} {stop : Stop} (h : FaultAt place stop) :
    readTokens place = .error stop := by
  obtain ⟨c, r, rfl, white, ht⟩ := h
  rw [readTokens_cons white, ht, error_bind]

/-- No place has a token and a fault. -/
theorem TokenAt.not_faultAt {place rest : List Char} {token : Token} {stop : Stop}
    (h : TokenAt place token rest) : ¬ FaultAt place stop := by
  rintro ⟨c, r, rfl, -, fault⟩
  obtain ⟨c', r', t, same, -, ht, -, -⟩ := h
  obtain ⟨rfl, rfl⟩ := List.cons.inj same
  rw [ht] at fault
  cases fault

/-! ### Signs and texts -/

/-- A sign is a token of its own, but for the minus, which may start a number. -/
theorem readToken_sign {s : Sign} (h : s ≠ .minus) (r : List Char) :
    readToken s.char r = .ok (.one (.sign s) s.char r) := by
  cases s with
  | minus => exact absurd rfl h
  | _ => rfl

/-- Anything may follow a sign. -/
theorem scans_sign {s : Sign} (h : s ≠ .minus) : Scans readTokens anyChar [s.char] [.sign s] := by
  intro rest _
  have white : isWhite s.char = false := by cases s <;> decide
  exact readTokens_token white (readToken_sign h rest)

/-- A character that is no quote stands for itself in a quoted text. -/
theorem readQuoted?_plain {c : Char} {r : List Char} (h : c ≠ '\'') :
    readQuoted? (c :: r) = (readQuoted? r).map fun q => (q.map (c :: ·)).past c := by
  rw [readQuoted?]
  · rintro r' rfl
    exact absurd rfl h
  · exact h

/-- Two quotes stand for one. -/
theorem readQuoted?_quote {r : List Char} : readQuoted? ('\'' :: '\'' :: r) =
    (readQuoted? r).map fun q => ((q.map ('\'' :: ·)).past '\'').past '\'' := by
  rw [readQuoted?]

/-- One quote ends a quoted text. -/
theorem readQuoted?_end {r : List Char} (h : Follows (· != '\'') r) :
    readQuoted? ('\'' :: r) = some (.one [] '\'' r) := by
  rw [readQuoted?]
  rintro r' rfl
  exact absurd (h '\'' rfl) (by decide)

/-- A text with its quotes doubled is read as it was, up to its closing quote. -/
theorem readQuoted?_doubled (cs : List Char) {rest : List Char}
    (hrest : Follows (· != '\'') rest) :
    ∃ q, readQuoted? (cs.flatMap doubled ++ '\'' :: rest) = some q ∧ q.value = cs ∧
      q.rest = rest := by
  induction cs with
  | nil => exact ⟨_, readQuoted?_end hrest, rfl, rfl⟩
  | cons c cs ih =>
    rw [List.flatMap_cons, List.append_assoc]
    -- what follows the first character is read by the induction hypothesis, whatever it looks like
    generalize cs.flatMap doubled ++ '\'' :: rest = tail at ih ⊢
    obtain ⟨q, hq, value, left⟩ := ih
    by_cases quote : c = '\''
    · subst quote
      have step : readQuoted? ('\'' :: '\'' :: tail) = _ := readQuoted?_quote
      rw [hq] at step
      exact ⟨_, step, by simp [value], left⟩
    · have step : readQuoted? (c :: tail) = _ := readQuoted?_plain quote
      rw [hq] at step
      rw [doubled, if_neg quote]
      exact ⟨_, step, by simp [value], left⟩

/-- A quoted text is one token. -/
theorem scans_text (s : String) :
    Scans readTokens (· != '\'') ('\'' :: (s.toList.flatMap doubled ++ ['\'']))
      [.literal (.string s)] := by
  intro rest hrest
  obtain ⟨q, hq, value, left⟩ := readQuoted?_doubled s.toList hrest
  have token : readToken '\'' (s.toList.flatMap doubled ++ '\'' :: rest) =
      .ok ((q.map fun cs => .literal (.string (String.ofList cs))).past '\'') := by
    rw [readToken, hq]
  rw [List.cons_append, List.append_assoc, List.singleton_append,
    readTokens_token (by decide) token]
  simp [value, left]

/-! ### Names -/

/-- What starts a name is read as a word. -/
theorem readToken_name {c : Char} (h : isNameStart c = true) (r : List Char) :
    readToken c r = readWord c r := by
  have digit := isDigit_of_isNameStart h
  unfold readToken
  split
  all_goals first
    | exact absurd h (by decide)
    | simp [digit, h]

/-- The type that a word names, in any letter case. -/
def typeNamed? (c : Char) (r : List Char) : Option TypeName :=
  TypeName.ofWord? (lower (String.ofList (c :: r.takeWhile isNameChar)))

/-- What a word is read as: a token of its own, or with a quote behind the name of a type what
stands between the quotes. -/
inductive WordRead (c : Char) (r : List Char) : Except Stop (Read Token (c :: r)) → Prop where
  | plain (h : ∀ q, r.dropWhile isNameChar = '\'' :: q → typeNamed? c r = none) :
      WordRead c r (.ok ((runFrom isNameChar r c).map fun cs => wordToken (String.ofList cs)))
  | typed {q : List Char} {type : TypeName} {text : Read (List Char) q} {l : Literal}
      {t : Read Token (c :: r)} (quote : r.dropWhile isNameChar = '\'' :: q)
      (ofType : typeNamed? c r = some type) (quoted : readQuoted? q = some text)
      (literal : typedLiteral? type text.value = some l)
      (value : t.value = .literal l) (left : t.rest = text.rest) : WordRead c r (.ok t)
  | unclosed {q : List Char} {type : TypeName} (quote : r.dropWhile isNameChar = '\'' :: q)
      (ofType : typeNamed? c r = some type) (quoted : readQuoted? q = none) :
      WordRead c r (.error ⟨.openString, '\'' :: q⟩)
  | bad {q : List Char} {type : TypeName} {text : Read (List Char) q}
      (quote : r.dropWhile isNameChar = '\'' :: q) (ofType : typeNamed? c r = some type)
      (quoted : readQuoted? q = some text) (literal : typedLiteral? type text.value = none) :
      WordRead c r (.error ⟨.badLiteral type.text (String.ofList text.value), c :: r⟩)

/-- A word ends in one of few ways, told by whether it names a type that a quote follows. -/
theorem readWord_cases (c : Char) (r : List Char) : WordRead c r (readWord c r) := by
  unfold readWord
  dsimp only
  split
  · next q type quote ofType =>
    split
    · next quoted =>
      have unclosed := WordRead.unclosed (c := c) quote ofType quoted
      rwa [← quote] at unclosed
    · next text quoted =>
      split
      · next l literal => exact .typed quote ofType quoted literal rfl rfl
      · next literal => exact .bad quote ofType quoted literal
  · next h =>
    refine .plain fun q quote => ?_
    cases ofType : typeNamed? c r with
    | none => rfl
    | some type => exact absurd ofType (h q type quote)

/-- A word is plain if no quote follows it, or if it names no type. -/
theorem readWord_plain {c : Char} {r : List Char}
    (h : ∀ q, r.dropWhile isNameChar = '\'' :: q → typeNamed? c r = none) :
    readWord c r = .ok ((runFrom isNameChar r c).map fun cs => wordToken (String.ofList cs)) := by
  have view := readWord_cases c r
  generalize readWord c r = x at view ⊢
  cases view with
  | plain => rfl
  | typed quote ofType => rw [h _ quote] at ofType; cases ofType
  | unclosed quote ofType => rw [h _ quote] at ofType; cases ofType
  | bad quote ofType => rw [h _ quote] at ofType; cases ofType

/-- A quoted text behind the name of a type is a literal, if the type has one for it, and else a
fault where the word starts. -/
theorem readWord_quoted {c : Char} {r q : List Char} {type : TypeName} {text : Read (List Char) q}
    (quote : r.dropWhile isNameChar = '\'' :: q) (ofType : typeNamed? c r = some type)
    (quoted : readQuoted? q = some text) :
    (∀ l, typedLiteral? type text.value = some l →
      ∃ t, readWord c r = .ok t ∧ t.value = .literal l ∧ t.rest = text.rest) ∧
    (typedLiteral? type text.value = none → readWord c r =
      .error ⟨.badLiteral type.text (String.ofList text.value), c :: r⟩) := by
  have view := readWord_cases c r
  generalize readWord c r = x at view ⊢
  cases view with
  | plain h =>
    -- a quote behind a type's name always starts a typed literal
    rw [h q quote] at ofType
    cases ofType
  | typed quote' ofType' quoted' literal' value left =>
    obtain ⟨-, rfl⟩ := List.cons.inj (quote.symm.trans quote')
    obtain rfl := Option.some.inj (ofType.symm.trans ofType')
    obtain rfl := Option.some.inj (quoted.symm.trans quoted')
    refine ⟨fun l literal => ?_, fun literal => ?_⟩
    · obtain rfl := Option.some.inj (literal.symm.trans literal')
      exact ⟨_, rfl, value, left⟩
    · rw [literal'] at literal
      cases literal
  | unclosed quote' ofType' quoted' =>
    obtain ⟨-, rfl⟩ := List.cons.inj (quote.symm.trans quote')
    rw [quoted'] at quoted
    cases quoted
  | bad quote' ofType' quoted' literal' =>
    obtain ⟨-, rfl⟩ := List.cons.inj (quote.symm.trans quote')
    obtain rfl := Option.some.inj (ofType.symm.trans ofType')
    obtain rfl := Option.some.inj (quoted.symm.trans quoted')
    refine ⟨fun l literal => ?_, fun _ => rfl⟩
    rw [literal'] at literal
    cases literal

/-- A name is read up to what goes on with no name; a quote behind it could make it a type. -/
theorem scans_name {s : String} (h : isName s = true) :
    Scans readTokens (fun c => !isNameChar c && c != '\'') s.toList [wordToken s] := by
  intro rest hrest
  unfold isName at h
  cases hs : s.toList with
  | nil => simp [hs] at h
  | cons c cs =>
    simp only [hs, Bool.and_eq_true, List.all_eq_true] at h
    obtain ⟨first, others⟩ := h
    have ends (d : Char) (hd : (!isNameChar d && d != '\'') = true) : isNameChar d = false := by
      simpa using (Bool.and_eq_true_iff.1 hd).1
    obtain ⟨taken, left⟩ := takeWhile_append_of_follows others hrest ends
    -- with a quote behind it, the name could be that of a type
    have token := (readToken_name first (cs ++ rest)).trans <| readWord_plain fun q quote => by
      rw [left] at quote
      subst quote
      exact absurd (hrest '\'' rfl) (by decide)
    rw [List.cons_append, readTokens_token (isWhite_of_isNameStart first) token]
    simp only [Read.value_map, Read.rest_map, runFrom, taken, left, ← hs, String.ofList_toList]

/-! ### Integers -/

section

variable {c : Char} {rest : List Char}

/-- Letters go on with a name, so that what does not is its own upper case. -/
theorem toUpper_eq (h : isNameChar c = false) : c.toUpper = c := by
  unfold Char.toUpper
  split
  · next lower =>
    have lowerCase : c.isLower = true :=
      Bool.and_eq_true_iff.2 ⟨decide_eq_true lower.1, decide_eq_true lower.2⟩
    have letter : c.isAlpha = true := Bool.or_eq_true_iff.2 (.inr lowerCase)
    rw [isNameChar_of_isNameStart (isNameStart_of_isAlpha letter)] at h
    cases h
  · rfl

/-- What ends a number goes on with no name. -/
theorem isNameChar_of_endsNumber (h : endsNumber c = true) : isNameChar c = false := by
  simpa using (Bool.and_eq_true_iff.1 h).1

/-- What ends a number is no digit. -/
theorem isDigit_of_endsNumber (h : endsNumber c = true) : c.isDigit = false := by
  have name := isNameChar_of_endsNumber h
  by_contra digit
  rw [Bool.not_eq_false] at digit
  rw [isNameChar_of_isDigit digit] at name
  cases name

/-- Without a point there is no fraction. -/
theorem scanFraction_nothing (h : rest.head? ≠ some '.') :
    scanFraction rest = .ok (.nothing none rest) := by
  unfold scanFraction
  split
  · exact absurd rfl h
  · rfl

/-- Without a letter for it there is no exponent. -/
theorem scanExponent_nothing (h : ∀ c, rest.head? = some c → c ≠ 'e' ∧ c ≠ 'E') :
    scanExponent rest = .ok (.nothing none rest) := by
  cases rest with
  | nil => rfl
  | cons c rest => rw [scanExponent, if_neg (not_or.2 (h c rfl))]

/-- A number does not end in front of a point. -/
theorem head?_ne_point (h : Follows endsNumber rest) : rest.head? ≠ some '.' :=
  fun hd => absurd (h '.' hd) (by decide)

/-- Nor in front of the letter of an exponent. -/
theorem head?_ne_exponent (h : Follows endsNumber rest) :
    ∀ c, rest.head? = some c → c ≠ 'e' ∧ c ≠ 'E' := by
  intro c hc
  have ends := h c hc
  constructor <;> rintro rfl <;> exact absurd ends (by decide)

/-- What ends a number is no mark of a type. -/
theorem scanSuffix_nothing (h : Follows endsNumber rest) :
    scanSuffix rest = .nothing none rest := by
  cases rest with
  | nil => rfl
  | cons c rest =>
    have name := isNameChar_of_endsNumber (h c rfl)
    rw [scanSuffix, toUpper_eq name]
    split
    · next marked =>
      split at marked
      · exact absurd name (by decide)
      · exact absurd name (by decide)
      · exact absurd name (by decide)
      · exact absurd name (by decide)
      · cases marked
    · rfl

/-- A number ends in front of what ends numbers. -/
theorem endOfNumber_ok (h : Follows endsNumber rest) : endOfNumber rest = .ok () := by
  cases rest with
  | nil => rfl
  | cons c rest =>
    have ends := h c rfl
    simp only [endsNumber, Bool.and_eq_true, Bool.not_eq_true', bne_iff_ne] at ends
    simp [endOfNumber, ends]

/-- What can stand behind the digits of an integer: nothing, or the mark of the long type. -/
def integerMarks : List (List Char × Option Suffix) :=
  [([], none), (['L'], some .long), (['l'], some .long)]

/-- A mark of an integer type is read as that type. -/
theorem scanSuffix_mark {mark : List Char} {suffix : Option Suffix}
    (hmark : (mark, suffix) ∈ integerMarks) (hrest : Follows endsNumber rest) :
    (scanSuffix (mark ++ rest)).value = suffix ∧ (scanSuffix (mark ++ rest)).rest = rest := by
  simp only [integerMarks, List.mem_cons, Prod.mk.injEq, List.not_mem_nil, or_false] at hmark
  rcases hmark with ⟨rfl, rfl⟩ | ⟨rfl, rfl⟩ | ⟨rfl, rfl⟩
  · rw [List.nil_append, scanSuffix_nothing hrest]
    exact ⟨rfl, rfl⟩
  · exact ⟨rfl, rfl⟩
  · exact ⟨rfl, rfl⟩

/-- A mark goes on with no digits, and with no other part of a number. -/
theorem head?_mark {mark : List Char} {suffix : Option Suffix}
    (hmark : (mark, suffix) ∈ integerMarks) (hrest : Follows endsNumber rest) {c : Char}
    (hc : (mark ++ rest).head? = some c) : c.isDigit = false ∧ c ≠ '.' ∧ c ≠ 'e' ∧ c ≠ 'E' := by
  simp only [integerMarks, List.mem_cons, Prod.mk.injEq, List.not_mem_nil, or_false] at hmark
  rcases hmark with ⟨rfl, -⟩ | ⟨rfl, -⟩ | ⟨rfl, -⟩
  · refine ⟨isDigit_of_endsNumber (hrest c hc), ?_, head?_ne_exponent hrest c hc⟩
    rintro rfl
    exact head?_ne_point hrest hc
  · cases hc
    decide
  · cases hc
    decide

/-- A number from its parts: the literal that they make, or its fault. -/
theorem readNumber_parts (start : List Char) (negative : Bool) {c : Char}
    {r s₁ s₂ s₃ : List Char} {fraction : Scan (Option (List Char)) s₁}
    {exponent : Scan (Option (Option Char × List Char)) s₂} {suffix : Scan (Option Suffix) s₃}
    (whole : r.dropWhile Char.isDigit = s₁) (hfraction : scanFraction s₁ = .ok fraction)
    (behindFraction : fraction.rest = s₂) (hexponent : scanExponent s₂ = .ok exponent)
    (behindExponent : exponent.rest = s₃) (hsuffix : scanSuffix s₃ = suffix)
    (ends : endOfNumber suffix.rest = .ok ()) :
    (∀ l, numberLiteral negative (c :: r.takeWhile Char.isDigit) fraction.value exponent.value
        suffix.value = .ok l →
      ∃ t, readNumber start negative c r = .ok t ∧ t.value = l ∧ t.rest = suffix.rest) ∧
    ∀ fault, numberLiteral negative (c :: r.takeWhile Char.isDigit) fraction.value exponent.value
        suffix.value = .error fault →
      readNumber start negative c r = .error ⟨fault, start⟩ := by
  subst whole behindFraction behindExponent hsuffix
  unfold readNumber
  dsimp only [runFrom]
  rw [hfraction, ok_bind, hexponent, ok_bind, ends, ok_bind]
  constructor
  · intro l hl
    rw [hl]
    exact ⟨_, rfl, rfl, rfl⟩
  · intro fault hfault
    rw [hfault]

/-- Digits with a mark or without are the literal of their value, if it has one. -/
theorem readNumber_integer (start : List Char) (negative : Bool) {ds mark : List Char}
    {suffix : Option Suffix} (hds : ∀ d ∈ ds, d.isDigit = true)
    (hmark : (mark, suffix) ∈ integerMarks) (hrest : Follows endsNumber rest) :
    (∀ l, numberLiteral negative (c :: ds) none none suffix = .ok l →
      ∃ t, readNumber start negative c (ds ++ (mark ++ rest)) = .ok t ∧ t.value = l ∧
        t.rest = rest) ∧
    ∀ fault, numberLiteral negative (c :: ds) none none suffix = .error fault →
      readNumber start negative c (ds ++ (mark ++ rest)) = .error ⟨fault, start⟩ := by
  -- neither a mark nor what ends a number goes on with digits, a point or an exponent
  have behindDigits : Follows (fun d => !d.isDigit) (mark ++ rest) := by
    intro d hd
    simp [head?_mark hmark hrest hd]
  have point : (mark ++ rest).head? ≠ some '.' := fun hd => (head?_mark hmark hrest hd).2.1 rfl
  have exponent : ∀ d, (mark ++ rest).head? = some d → d ≠ 'e' ∧ d ≠ 'E' :=
    fun d hd => (head?_mark hmark hrest hd).2.2
  obtain ⟨marked, afterMark⟩ := scanSuffix_mark hmark hrest
  obtain ⟨taken, left⟩ := takeWhile_append_of_follows hds behindDigits (by simp)
  have ends : endOfNumber (scanSuffix (mark ++ rest)).rest = .ok () := by
    rw [afterMark]
    exact endOfNumber_ok hrest
  have parts := readNumber_parts (c := c) start negative left (scanFraction_nothing point) rfl
    (scanExponent_nothing exponent) rfl rfl ends
  dsimp only [Scan.nothing] at parts
  rw [taken, marked, afterMark] at parts
  exact parts

end

/-- A digit starts a number. -/
theorem readToken_digit {c : Char} {r : List Char} (h : c.isDigit = true) :
    readToken c r = readNumber (c :: r) false c r >>= fun t => .ok (t.map .literal) := by
  unfold readToken
  split
  all_goals first
    | exact absurd h (by decide)
    | rw [if_pos h]; rfl

/-- So does a minus in front of a digit. -/
theorem readToken_minus {c : Char} {r : List Char} (h : c.isDigit = true) :
    readToken '-' (c :: r) = readNumber ('-' :: c :: r) true c r >>= fun t =>
      .ok ((t.map .literal).past '-') := by
  rw [readToken, readMinus, if_pos h]
  rfl

/-- What begins a token: a quote, a sign, a digit or a character of a name. -/
inductive Start : Char → Prop where
  | quote : Start '\''
  | sign {s : Sign} (h : s ≠ .minus) : Start s.char
  | minus : Start '-'
  | digit {c : Char} (h : c.isDigit = true) : Start c
  | name {c : Char} (h : isNameStart c = true) : Start c
  | other {c : Char} (h : ∀ r, readToken c r = .error ⟨.unexpectedChar c, c :: r⟩) : Start c

/-- A character starts a token in one of few ways. -/
theorem start_cases (c : Char) : Start c := by
  by_cases digit : c.isDigit = true
  · exact .digit digit
  by_cases name : isNameStart c = true
  · exact .name name
  by_cases quote : c = '\''
  · exact quote ▸ .quote
  by_cases minus : c = '-'
  · exact minus ▸ .minus
  by_cases sign : ∃ s : Sign, s.char = c
  · obtain ⟨s, rfl⟩ := sign
    exact .sign fun hs => minus (congrArg Sign.char hs)
  · -- no alternative of the scanner is left
    rw [not_exists] at sign
    refine .other fun r => ?_
    unfold readToken
    split
    · exact absurd rfl quote
    · exact absurd rfl (sign .open_)
    · exact absurd rfl (sign .close)
    · exact absurd rfl (sign .slash)
    · exact absurd rfl (sign .comma)
    · exact absurd rfl minus
    · rw [if_neg digit, if_neg name]

/-- An integer as it is written: a sign, digits, and a mark. -/
def integerText (negative : Bool) (ds mark : List Char) : List Char :=
  (if negative then ['-'] else []) ++ ds ++ mark

/-- A number is one token, or a fault, at its sign or first digit. -/
theorem number_at {negative : Bool} {c : Char} {r start : List Char} (digit : c.isDigit = true)
    (hstart : (if negative then ['-'] else []) ++ c :: r = start) :
    (∀ t, readNumber start negative c r = .ok t → TokenAt start (.literal t.value) t.rest) ∧
      ∀ stop, readNumber start negative c r = .error stop → FaultAt start stop := by
  cases negative with
  | true =>
    obtain rfl : '-' :: c :: r = start := hstart
    refine ⟨fun t ht => ?_, fun stop hstop => ?_⟩
    · -- the minus sign in front belongs to the token and to its fault
      refine ⟨'-', _, (t.map .literal).past '-', rfl, by decide, ?_, rfl, rfl⟩
      rw [readToken_minus digit, ht, ok_bind]
    · refine ⟨'-', _, rfl, by decide, ?_⟩
      rw [readToken_minus digit, hstop, error_bind]
  | false =>
    obtain rfl : c :: r = start := hstart
    refine ⟨fun t ht => ?_, fun stop hstop => ?_⟩
    · refine ⟨c, _, t.map .literal, rfl, isWhite_of_isDigit digit, ?_, rfl, rfl⟩
      rw [readToken_digit digit, ht, ok_bind]
    · refine ⟨c, _, rfl, isWhite_of_isDigit digit, ?_⟩
      rw [readToken_digit digit, hstop, error_bind]

/-- **An integer** is one token, or a fault where it starts. -/
theorem integer_at (negative : Bool) {ds mark rest : List Char} {suffix : Option Suffix}
    (nonempty : ds ≠ []) (hds : ∀ d ∈ ds, d.isDigit = true)
    (hmark : (mark, suffix) ∈ integerMarks) (hrest : Follows endsNumber rest) :
    (∀ l, numberLiteral negative ds none none suffix = .ok l →
      TokenAt (integerText negative ds mark ++ rest) (.literal l) rest) ∧
    ∀ fault, numberLiteral negative ds none none suffix = .error fault →
      FaultAt (integerText negative ds mark ++ rest)
        ⟨fault, integerText negative ds mark ++ rest⟩ := by
  obtain ⟨c, ds, rfl⟩ := List.exists_cons_of_ne_nil nonempty
  rw [List.forall_mem_cons] at hds
  obtain ⟨first, others⟩ := hds
  have text : (if negative then ['-'] else []) ++ c :: (ds ++ (mark ++ rest)) =
      integerText negative (c :: ds) mark ++ rest := by
    simp [integerText]
  obtain ⟨reads, fails⟩ := number_at first text
  obtain ⟨literal, faulty⟩ := readNumber_integer (c := c)
    (integerText negative (c :: ds) mark ++ rest) negative others hmark hrest
  constructor
  · intro l hl
    obtain ⟨t, ht, value, left⟩ := literal l hl
    have token := reads t ht
    rwa [value, left] at token
  · intro fault hfault
    exact fails _ (faulty fault hfault)

/-- The decimal digits of an integer with its sign are the integer. -/
theorem signed_toDigits (n : Int) :
    signed (decide (n < 0)) (digitsValue 10 (Nat.toDigits 10 n.natAbs)) = n := by
  rw [digitsValue_toDigits, signed]
  by_cases negative : n < 0
  · rw [if_pos (by simpa using negative)]
    omega
  · rw [if_neg (by simpa using negative)]
    omega

/-- An integer is one token, with its sign and its mark. -/
theorem scans_integer {n : Int} {mark : List Char} {suffix : Option Suffix} {l : Literal}
    (hmark : (mark, suffix) ∈ integerMarks) (literal : numberLiteral (decide (n < 0))
      (Nat.toDigits 10 n.natAbs) none none suffix = .ok l) :
    Scans readTokens endsNumber
      (integerText (decide (n < 0)) (Nat.toDigits 10 n.natAbs) mark) [.literal l] := by
  intro rest hrest
  have token : TokenAt (integerText (decide (n < 0)) (Nat.toDigits 10 n.natAbs) mark ++ rest)
      (.literal l) rest :=
    (integer_at _ Nat.toDigits_ne_nil (isDigit_toDigits _) hmark hrest).1 l literal
  exact token.readTokens_eq

/-- An integer as it is written is a literal, in front of what ends numbers. -/
theorem scans_int {n : Int} (h : fitsInt n = true) :
    Scans readTokens endsNumber (Word.int n).spelling [.literal (.int n)] := by
  have literal : numberLiteral (decide (n < 0)) (Nat.toDigits 10 n.natAbs) none none none =
      .ok (.int n) := by
    simp [numberLiteral, signed_toDigits, h]
  have text : (Word.int n).spelling =
      integerText (decide (n < 0)) (Nat.toDigits 10 n.natAbs) [] := by
    simp [Word.spelling, integerText]
  rw [text]
  exact scans_integer List.mem_cons_self literal

/-! ### Words -/

/-- **A word** is one token in front of anything that may follow it. -/
theorem Word.scans {w : Word} (h : w.Known) :
    Scans readTokens (vocabulary.ends w) (vocabulary.spelling w) [vocabulary.token w] := by
  cases w with
  | name s => exact scans_name h
  | int n => exact scans_int h
  | text s => exact scans_text s
  | sign s => exact (scans_sign h).mono fun _ _ => rfl

/-- **The tokens of a text** of words, with whatever blanks around them. -/
theorem tokenize_eq {ws : List Word} (known : ∀ w ∈ ws, w.Known) {source : String}
    (h : vocabulary.spells ws source.toList = true) :
    tokenize source = .ok (ws.map Word.token) := by
  have each : ∀ w ∈ ws, Scans readTokens (vocabulary.ends w) (vocabulary.spelling w)
      [vocabulary.token w] := fun w hw => Word.scans (known w hw)
  have scanned := Vocabulary.scan_eq readTokens_nil (fun _ => readTokens_blank) each h
  rw [tokenize, scanned]
  rfl

end Sift.Filter
