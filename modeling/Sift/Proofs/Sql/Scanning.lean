import Sift.Proofs.Scanning
import Sift.Proofs.Sql.Reader

/-!
# The tokens of what is written

Each piece of a predicate has the same tokens wherever it stands, as long as a blank, a comma or a
closing bracket follows it.

* `Scans`, `FirmlyScans`: the tokens of a text, whatever follows it.
* `scans_natText`, `scans_quoteText`, `scans_accented`, `scans_word`: operands and words.
* `firmlyScans_symbol`, `firmlyScans_comma`: what stands between operands.
-/

namespace Sift.Sql.Server

open Number

/-- What may follow an operand. -/
def Boundary (rest : List Char) : Prop :=
  ∀ c, rest.head? = some c → c = ' ' ∨ c = ')' ∨ c = ','

theorem boundary_nil : Boundary [] := fun _ h => by cases h

theorem boundary_cons {c : Char} {rest : List Char} (h : c = ' ' ∨ c = ')' ∨ c = ',') :
    Boundary (c :: rest) := fun _ hc => by
  cases hc
  exact h

/-- The tokens of a text in front of a boundary. -/
def Scans (s : List Char) (ts : List Token) : Prop :=
  ∀ rest, Boundary rest → scan? (s ++ rest) = (scan? rest).map (ts ++ ·)

/-- The tokens of a text in front of anything. -/
def FirmlyScans (s : List Char) (ts : List Token) : Prop :=
  ∀ rest, scan? (s ++ rest) = (scan? rest).map (ts ++ ·)

section

variable {s u rest : List Char} {ts us : List Token} {t : Token} {c : Char}

theorem FirmlyScans.scans (h : FirmlyScans s ts) : Scans s ts := fun rest _ => h rest

/-- Tokens of texts that are read in front of anything are put together like the texts. -/
theorem FirmlyScans.append (hs : FirmlyScans s ts) (hu : FirmlyScans u us) :
    FirmlyScans (s ++ u) (ts ++ us) := by
  intro rest
  rw [List.append_assoc, hs, hu, map_append_map]

theorem FirmlyScans.append_scans (hs : FirmlyScans s ts) (hu : Scans u us) :
    Scans (s ++ u) (ts ++ us) := by
  intro rest h
  rw [List.append_assoc, hs, hu rest h, map_append_map]

/-- A piece that begins at a boundary settles the end of what stands in front of it. -/
theorem Scans.append_firm (hs : Scans s ts) (hu : FirmlyScans u us) (hne : u ≠ [])
    (hb : Boundary u) : FirmlyScans (s ++ u) (ts ++ us) := by
  intro rest
  have boundary : Boundary (u ++ rest) := by
    cases u with
    | nil => exact absurd rfl hne
    | cons c u => exact fun d hd => hb d hd
  rw [List.append_assoc, hs _ boundary, hu, map_append_map]

theorem Scans.scan?_eq (h : Scans s ts) : scan? s = some ts := by
  have h := h [] boundary_nil
  rw [List.append_nil, scan?] at h
  simpa using h

/-! ### One token -/

theorem scan?_blank : scan? (' ' :: rest) = scan? rest := by rw [scan?]

/-- Off a blank, the scanner reads one token and goes on behind it. -/
theorem scan?_token (hc : c ≠ ' ') (h : readToken? (c :: s) = some (t, rest))
    (hlt : rest.length < (c :: s).length) : scan? (c :: s) = (scan? rest).map (t :: ·) := by
  rw [scan?.eq_def]
  split
  · next he => cases he
  · next he => cases he; exact absurd rfl hc
  · next he =>
    cases he
    rw [h]
    exact dif_pos hlt

theorem length_lt_cons_append : rest.length < (c :: (s ++ rest)).length := by
  rw [List.length_cons, List.length_append]
  omega

/-- A run of characters ends at the first one of another kind. -/
theorem run_append {p : Char → Bool} (hs : ∀ c ∈ s, p c = true)
    (hr : ∀ c, rest.head? = some c → p c = false) :
    (s ++ rest).takeWhile p = s ∧ (s ++ rest).dropWhile p = rest := by
  have follows : Follows (!p ·) rest := fun c hc => by simp [hr c hc]
  exact takeWhile_append_of_follows hs follows (by simp)

/-- What is neither a blank nor a closing bracket nor a comma does not stand at a boundary. -/
theorem Boundary.eq_false {p : Char → Bool} (h : Boundary rest) (hb : p ' ' = false)
    (hc : p ')' = false) (hk : p ',' = false) : ∀ c, rest.head? = some c → p c = false := by
  intro c hc'
  rcases h c hc' with rfl | rfl | rfl
  · exact hb
  · exact hc
  · exact hk

/-- A number or a word is read by its longest run of characters. -/
theorem readToken?_wordChar (hc : isWordChar c = true) :
    readToken? (c :: s) =
      if ((c :: s).takeWhile Char.isDigit).isEmpty then
        (keyword? ((c :: s).takeWhile isWordChar)).map fun t => (t, (c :: s).dropWhile isWordChar)
      else some (.leaf (.int (Nat.ofDigitChars 10 ((c :: s).takeWhile Char.isDigit) 0)),
        (c :: s).dropWhile Char.isDigit) := by
  unfold readToken?
  split
  -- every other case is that of a character which occurs in no word
  case h_18 => rfl
  all_goals
    next he =>
    cases he
    exact absurd hc (by decide)

/-! ### Numbers and words -/

theorem isWordChar_of_isDigit (h : c.isDigit = true) : isWordChar c = true := by
  simp [isWordChar, Char.isAlphanum, h]

/-- The digits of a number are one token. -/
theorem scans_natText (n : Nat) : Scans (natText n).toList [.leaf (.int n)] := by
  intro rest h
  rw [natText, String.toList_ofList]
  have digits : ∀ c ∈ Nat.toDigits 10 n, c.isDigit = true := fun c hc =>
    Nat.isDigit_of_mem_toDigits (by decide) (by decide) hc
  have ends := h.eq_false (p := Char.isDigit) (by decide) (by decide) (by decide)
  have value : Nat.ofDigitChars 10 (Nat.toDigits 10 n) 0 = n := Nat.ofDigitChars_ten_toDigits
  obtain ⟨run, behind⟩ := run_append digits ends
  have length := Nat.length_toDigits_pos (b := 10) (n := n)
  -- only that they are digits matters from here on
  generalize Nat.toDigits 10 n = ds at *
  rcases ds with - | ⟨d, ds⟩
  · exact absurd length (by decide)
  have hd : d.isDigit = true := digits d List.mem_cons_self
  have token : readToken? (d :: (ds ++ rest)) = some (.leaf (.int n), rest) := by
    rw [readToken?_wordChar (isWordChar_of_isDigit hd), ← List.cons_append, run, behind, value]
    rfl
  refine scan?_token (fun he => ?_) token length_lt_cons_append
  rw [he] at hd
  exact absurd hd (by decide)

/-- A keyword is one token, unless it begins with a digit. -/
theorem scans_word (word : List Char) (hw : word.all isWordChar = true)
    (hd : word.head?.any (fun c => !c.isDigit) = true) (ht : keyword? word = some t) :
    Scans word [t] := by
  intro rest h
  rw [List.all_eq_true] at hw
  have ends := h.eq_false (p := isWordChar) (by decide) (by decide) (by decide)
  obtain ⟨run, behind⟩ := run_append hw ends
  rcases word with - | ⟨c, word⟩
  · cases hd
  have token : readToken? (c :: (word ++ rest)) = some (t, rest) := by
    have first : c.isDigit = false := by simpa using hd
    rw [readToken?_wordChar (hw c List.mem_cons_self), ← List.cons_append, run, behind, ht,
      List.cons_append, List.takeWhile_cons_of_neg (by simp [first])]
    rfl
  refine scan?_token (fun he => ?_) token length_lt_cons_append
  have := hw c List.mem_cons_self
  rw [he] at this
  exact absurd this (by decide)

/-- A negative number begins with a minus sign. -/
theorem scans_negative (n : Nat) :
    Scans ('-' :: (natText n).toList) [.operator (.arith .sub), .leaf (.int n)] := by
  intro rest h
  have digits := scans_natText n rest h
  rw [natText, String.toList_ofList] at digits ⊢
  have first : ∀ d ∈ Nat.toDigits 10 n, d.isDigit = true := fun d hd =>
    Nat.isDigit_of_mem_toDigits (by decide) (by decide) hd
  have length := Nat.length_toDigits_pos (b := 10) (n := n)
  generalize Nat.toDigits 10 n = ds at *
  rcases ds with - | ⟨d, ds⟩
  · exact absurd length (by decide)
  -- a digit follows the sign, so that the two begin no comment
  have token : readToken? ('-' :: d :: (ds ++ rest)) =
      some (.operator (.arith .sub), d :: (ds ++ rest)) := by
    have hd : d ≠ '-' := fun he => absurd (first d List.mem_cons_self) (by rw [he]; decide)
    rw [readToken?]
    exact fun us he => hd (List.cons.inj he).1
  have step := scan?_token (by decide) token (Nat.lt_succ_self _)
  rw [← List.cons_append, digits] at step
  rw [List.cons_append, step, Option.map_map]
  rfl

/-! ### Literals and columns -/

theorem Boundary.noQuote (h : Boundary rest) : NoQuote rest := by
  intro hq
  rcases h _ hq with h | h | h <;> exact absurd h (by decide)

/-- A literal is one token, because no second quote follows it at a boundary. -/
theorem scans_quoteText (text : String) :
    Scans (quoteText text).toList [.leaf (.text text)] := by
  intro rest h
  have read := readQuoted?_flatMap text.toList h.noQuote
  have quoted : (quoteText text).toList ++ rest =
      '\'' :: (text.toList.flatMap escapeChar ++ '\'' :: rest) := by
    simp [quoteText, quoteChars]
  have token : readToken? ('\'' :: (text.toList.flatMap escapeChar ++ '\'' :: rest)) =
      some (.leaf (.text text), rest) := by
    rw [readToken?, read, Option.map_some, String.ofList_toList]
  have shorter : rest.length <
      ('\'' :: (text.toList.flatMap escapeChar ++ '\'' :: rest)).length := by
    rw [List.length_cons, List.length_append, List.length_cons]
    omega
  rw [quoted]
  exact scan?_token (by decide) token shorter

/-- Between the quotes of a name, characters stand for themselves. -/
theorem readColumn?_plain (hc : c ≠ '\x60') (cs : List Char) :
    readColumn? (c :: cs) = (readColumn? cs).map (readColumn?.push c) := by
  rw [readColumn?.eq_def]
  split <;> simp_all

/-- So does a whole word without such quotes. -/
theorem readColumn?_append {word : List Char} (hw : '\x60' ∉ word) {ws : List (List Char)}
    (hs : readColumn? s = some ([] :: ws, rest)) :
    readColumn? (word ++ s) = some (word :: ws, rest) := by
  induction word with
  | nil => exact hs
  | cons c word ih =>
    rw [List.mem_cons, not_or] at hw
    rw [List.cons_append, readColumn?_plain (Ne.symm hw.1), ih hw.2]
    rfl

/-- Names between accents, joined by dots. -/
def accented (words : List (List Char)) : List Char :=
  ['.'].intercalate (words.map fun word => '\x60' :: (word ++ ['\x60']))

/-- A name ends at its closing quote where neither a dot nor another quote follows. -/
theorem readColumn?_close (h : Boundary rest) :
    readColumn? ('\x60' :: rest) = some ([[]], rest) := by
  rcases rest with - | ⟨c, rest⟩
  · rfl
  · rcases h c rfl with rfl | rfl | rfl <;> rfl

/-- A dot between two quoted words leads on to the next segment: by induction on the words. -/
theorem readColumn?_accented {word : List Char} {words : List (List Char)}
    (hw : ∀ w ∈ word :: words, '\x60' ∉ w) (h : Boundary rest) :
    ∃ body, accented (word :: words) = '\x60' :: body ∧
      readColumn? (body ++ rest) = some (word :: words, rest) := by
  induction words generalizing word with
  | nil =>
    refine ⟨word ++ ['\x60'], by simp [accented], ?_⟩
    rw [List.append_assoc]
    exact readColumn?_append (hw word List.mem_cons_self) (readColumn?_close h)
  | cons next words ih =>
    rw [List.forall_mem_cons] at hw
    obtain ⟨body, hbody, hread⟩ := ih hw.2
    refine ⟨word ++ '\x60' :: '.' :: '\x60' :: body, ?_, ?_⟩
    · have step : accented (word :: next :: words) =
          '\x60' :: (word ++ ['\x60']) ++ ['.'] ++ accented (next :: words) := by
        simp [accented, List.intercalate]
      rw [step, hbody]
      simp
    · rw [List.append_assoc]
      refine readColumn?_append hw.1 ?_
      have step : readColumn? ('\x60' :: '.' :: '\x60' :: (body ++ rest)) =
          (readColumn? (body ++ rest)).map fun r => ([] :: r.1, r.2) := rfl
      exact step.trans (by rw [hread]; rfl)

/-- A quoted column is one token. -/
theorem scans_accented {words : List (List Char)} (hne : words ≠ [])
    (hw : ∀ w ∈ words, '\x60' ∉ w) :
    Scans (accented words) [.leaf (.column (words.map String.ofList))] := by
  intro rest h
  rcases words with - | ⟨word, words⟩
  · exact absurd rfl hne
  obtain ⟨body, hbody, hread⟩ := readColumn?_accented hw h
  have token : readToken? ('\x60' :: (body ++ rest)) =
      some (.leaf (.column ((word :: words).map String.ofList)), rest) := by
    rw [readToken?, hread, Option.map_some]
  rw [hbody]
  exact scan?_token (by decide) token length_lt_cons_append

/-! ### Operators and brackets -/

/-- The symbols of operators. -/
def symbols : List (List Char × Operator) :=
  [(['+'], .arith .add), (['-'], .arith .sub), (['*'], .arith .mul), (['/'], .arith .div),
    (['%'], .arith .mod), (['='], .compare .eq), (['<'], .compare .lt), (['<', '='], .compare .le),
    (['>'], .compare .gt), (['>', '='], .compare .ge)]

/-- An operator has blanks around it, so it needs no boundary behind. -/
theorem firmlyScans_symbol {op : Operator} (h : (s, op) ∈ symbols) :
    FirmlyScans (' ' :: (s ++ [' '])) [.operator op] := by
  intro rest
  have step : scan? (s ++ ' ' :: rest) = (scan? (' ' :: rest)).map (.operator op :: ·) := by
    simp only [symbols, List.mem_cons, Prod.mk.injEq, List.not_mem_nil, or_false] at h
    rcases h with ⟨rfl, rfl⟩ | ⟨rfl, rfl⟩ | ⟨rfl, rfl⟩ | ⟨rfl, rfl⟩ | ⟨rfl, rfl⟩ | ⟨rfl, rfl⟩ |
      ⟨rfl, rfl⟩ | ⟨rfl, rfl⟩ | ⟨rfl, rfl⟩ | ⟨rfl, rfl⟩ <;>
      exact scan?_token (by decide) rfl (by simp)
  rw [List.cons_append, scan?_blank, List.append_assoc]
  exact step.trans (by rw [scan?_blank]; rfl)

/-- A word between blanks. -/
theorem Scans.firmly_blank (h : Scans s ts) : FirmlyScans (s ++ [' ']) ts := by
  intro rest
  have boundary : Boundary ([' '] ++ rest) := boundary_cons (.inl rfl)
  rw [List.append_assoc, h _ boundary]
  exact congrArg (Option.map (ts ++ ·)) scan?_blank

theorem FirmlyScans.blank (h : FirmlyScans s ts) : FirmlyScans (' ' :: s) ts := by
  intro rest
  rw [List.cons_append, scan?_blank, h]

theorem firmlyScans_open : FirmlyScans ['('] [.open_] := fun rest =>
  scan?_token (by decide) rfl (Nat.lt_succ_self _)

theorem firmlyScans_close : FirmlyScans [')'] [.close] := fun rest =>
  scan?_token (by decide) rfl (Nat.lt_succ_self _)

theorem firmlyScans_comma : FirmlyScans [',', ' '] [.comma] := fun rest => by
  have token : scan? (',' :: ' ' :: rest) = (scan? (' ' :: rest)).map (.comma :: ·) :=
    scan?_token (by decide) rfl (Nat.lt_succ_self _)
  rw [scan?_blank] at token
  exact token

end

end Sift.Sql.Server
