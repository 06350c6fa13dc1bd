import Mathlib
import Sift.Proofs.Filter.Places

/-!
# Tokens do not depend on what stands around them

A reader that succeeds in front of nothing succeeds in front of white space or a sign, with the same
value, and leaves what it left with the new text behind it. So the tokens of a text come out in
front of those of another one, and a fault of the other one is the same fault, as many bytes later
as stand in front.

* `isBreak`: what may follow any token.
* `readToken_append`: one token in front of more text; `readTokens_append`: all of them.
* `tokenize_append`: two texts with white space between them.
-/

namespace Sift.Filter

open Text Number

/-! ### What may follow a token -/

/-- What ends every token: white space and the signs. -/
def isBreak (c : Char) : Bool :=
  isWhite c || [Sign.open_, .close, .slash, .comma, .minus].any fun s => s.char == c

section

variable {c : Char}

/-- What breaks tokens is white space or a sign. -/
theorem isBreak_cases (h : isBreak c = true) : isWhite c = true ∨ ∃ s : Sign, s.char = c := by
  rcases Bool.or_eq_true_iff.1 h with h | h
  · exact .inl h
  · obtain ⟨s, -, hs⟩ := List.any_eq_true.1 h
    exact .inr ⟨s, beq_iff_eq.1 hs⟩

/-- No break goes on with a name, ends a number wrongly or is a digit: so for each class below. -/
theorem isNameChar_of_isBreak (h : isBreak c = true) : isNameChar c = false := by
  rcases isBreak_cases h with white | ⟨s, rfl⟩
  · exact isNameChar_of_isWhite white
  · cases s <;> decide

theorem ne_of_isBreak {d : Char} (h : isBreak c = true) (hd : isBreak d = false) : c ≠ d := by
  rintro rfl
  rw [h] at hd
  cases hd

theorem endsNumber_of_isBreak (h : isBreak c = true) : endsNumber c = true := by
  have point : c ≠ '.' := ne_of_isBreak h (by decide)
  simp [endsNumber, isNameChar_of_isBreak h, point]

theorem isDigit_of_isBreak (h : isBreak c = true) : c.isDigit = false :=
  isDigit_of_endsNumber (endsNumber_of_isBreak h)

theorem isNameStart_of_isBreak (h : isBreak c = true) : isNameStart c = false := by
  by_contra start
  rw [Bool.not_eq_false] at start
  have apart := isNameChar_of_isBreak h
  rw [isNameChar_of_isNameStart start] at apart
  cases apart

end

/-! ### One token in front of more text -/

section

variable {s rest : List Char} (hrest : Follows isBreak rest)

include hrest

/-- A run of digits does not go on into text that starts with a break. -/
theorem digits_append (s : List Char) :
    (s ++ rest).takeWhile Char.isDigit = s.takeWhile Char.isDigit ∧
      (s ++ rest).dropWhile Char.isDigit = s.dropWhile Char.isDigit ++ rest :=
  takeWhile_append_of_stop (hrest.mono fun c hc => by simp [isDigit_of_isBreak hc]) s

/-- Nor does a run of characters of names. -/
theorem names_append (s : List Char) :
    (s ++ rest).takeWhile isNameChar = s.takeWhile isNameChar ∧
      (s ++ rest).dropWhile isNameChar = s.dropWhile isNameChar ++ rest :=
  takeWhile_append_of_stop (hrest.mono fun c hc => by simp [isNameChar_of_isBreak hc]) s

/-- What does not begin with a character does not in front of a break either. -/
theorem head?_append_ne {c : Char} (hc : isBreak c = false) (h : s.head? ≠ some c) :
    (s ++ rest).head? ≠ some c := by
  cases s with
  | nil => exact fun hd => ne_of_isBreak (hrest c hd) hc rfl
  | cons d s => exact h

/-- A quoted text that has ended ends at the same place in front of more text. -/
theorem readQuoted?_append {q : Read (List Char) s} (h : readQuoted? s = some q) :
    ∃ q', readQuoted? (s ++ rest) = some q' ∧ q'.value = q.value ∧ q'.rest = q.rest ++ rest := by
  fun_induction readQuoted? s with
  | case1 => cases h
  | case2 r ih =>
    obtain ⟨p, hp, rfl⟩ := Option.map_eq_some_iff.1 h
    obtain ⟨p', hp', value, left⟩ := ih hp
    have step : readQuoted? ('\'' :: '\'' :: (r ++ rest)) = _ := readQuoted?_quote
    rw [hp'] at step
    exact ⟨_, step, by simp [value], left⟩
  | case3 r closed =>
    cases h
    -- the quote that closes the text is not followed by one, and what is added does not begin with
    -- one
    have follows : Follows (· != '\'') (r ++ rest) := by
      intro c hc
      rw [bne_iff_ne]
      rintro rfl
      refine head?_append_ne hrest (by decide) (fun hr => ?_) hc
      obtain ⟨r', rfl⟩ := List.head?_eq_some_iff.1 hr
      exact closed r' rfl
    exact ⟨_, readQuoted?_end follows, rfl, rfl⟩
  | case4 c r plain ordinary ih =>
    obtain ⟨p, hp, rfl⟩ := Option.map_eq_some_iff.1 h
    obtain ⟨p', hp', value, left⟩ := ih hp
    have step : readQuoted? (c :: (r ++ rest)) = _ := readQuoted?_plain ordinary
    rw [hp'] at step
    exact ⟨_, step, by simp [value], left⟩

/-! ### Numbers -/

/-- A fraction is the same in front of a break; its digits do not go on. -/
theorem scanFraction_append {f : Scan (Option (List Char)) s} (h : scanFraction s = .ok f) :
    ∃ f', scanFraction (s ++ rest) = .ok f' ∧ f'.value = f.value ∧ f'.rest = f.rest ++ rest := by
  by_cases point : s.head? = some '.'
  · obtain ⟨r, rfl⟩ := List.head?_eq_some_iff.1 point
    obtain ⟨taken, left⟩ := digits_append hrest r
    rw [scanFraction] at h
    split at h
    · cases h
    · next single =>
      obtain rfl := Except.ok.inj h
      have apart := head?_append_ne hrest (by decide) single
      rw [← left] at apart
      refine ⟨_, if_neg apart, ?_, left⟩
      exact congrArg some taken
  · rw [scanFraction_nothing point] at h
    obtain rfl := Except.ok.inj h
    exact ⟨_, scanFraction_nothing (head?_append_ne hrest (by decide) point), rfl, rfl⟩

omit hrest in
/-- The sign of an exponent is looked for in what is there, if anything is. -/
theorem scanSign_append (nonempty : s ≠ []) : (scanSign (s ++ rest)).value = (scanSign s).value ∧
    (scanSign (s ++ rest)).rest = (scanSign s).rest ++ rest := by
  obtain ⟨c, r, rfl⟩ := List.exists_cons_of_ne_nil nonempty
  by_cases plus : c = '+'
  · subst plus
    exact ⟨rfl, rfl⟩
  by_cases minus : c = '-'
  · subst minus
    exact ⟨rfl, rfl⟩
  have nothing (r : List Char) : scanSign (c :: r) = .nothing none (c :: r) := by
    rw [scanSign]
    · rintro r' h
      exact plus (List.cons.inj h).1
    · rintro r' h
      exact minus (List.cons.inj h).1
  rw [List.cons_append, nothing, nothing]
  exact ⟨rfl, rfl⟩

/-- An exponent is the same in front of a break, and a letter that starts none stays where it is. -/
theorem scanExponent_append {e : Scan (Option (Option Char × List Char)) s}
    (h : scanExponent s = .ok e) :
    ∃ e', scanExponent (s ++ rest) = .ok e' ∧ e'.value = e.value ∧ e'.rest = e.rest ++ rest := by
  cases s with
  | nil =>
    obtain rfl := Except.ok.inj h
    refine ⟨_, scanExponent_nothing fun c hc => ?_, rfl, rfl⟩
    exact ⟨ne_of_isBreak (hrest c hc) (by decide), ne_of_isBreak (hrest c hc) (by decide)⟩
  | cons c r =>
    by_cases mark : c = 'e' ∨ c = 'E'
    · rw [scanExponent, if_pos mark] at h
      dsimp only at h
      split at h
      · cases h
      · next digits =>
        obtain rfl := Except.ok.inj h
        -- an exponent has digits, so that its sign does not look at the new text
        have behind : r ≠ [] := by
          rintro rfl
          exact digits rfl
        obtain ⟨sign, behindSign⟩ := scanSign_append behind
        obtain ⟨taken, left⟩ := digits_append hrest (scanSign r).rest
        rw [← behindSign] at taken left
        rw [List.cons_append, scanExponent, if_pos mark]
        have digit : ¬ (scanRun Char.isDigit (scanSign (r ++ rest)).rest).value.isEmpty := by
          change ¬ (List.takeWhile _ _).isEmpty
          rwa [taken]
        refine ⟨_, if_neg digit, ?_, left⟩
        change Option.some (_, List.takeWhile _ _) = Option.some (_, List.takeWhile _ _)
        rw [sign, taken]
    · rw [scanExponent, if_neg mark] at h
      obtain rfl := Except.ok.inj h
      exact ⟨_, if_neg mark, rfl, rfl⟩

/-- A mark of a type is the same in front of a break, which is no letter. -/
theorem scanSuffix_append : (scanSuffix (s ++ rest)).value = (scanSuffix s).value ∧
    (scanSuffix (s ++ rest)).rest = (scanSuffix s).rest ++ rest := by
  cases s with
  | nil =>
    rw [List.nil_append, scanSuffix_nothing (hrest.mono fun c hc => endsNumber_of_isBreak hc)]
    exact ⟨rfl, rfl⟩
  | cons c r =>
    rw [List.cons_append, scanSuffix, scanSuffix]
    split
    · exact ⟨rfl, rfl⟩
    · exact ⟨rfl, rfl⟩

/-- A number that has ended does not go on with a break. -/
theorem endOfNumber_append (h : endOfNumber s = .ok ()) : endOfNumber (s ++ rest) = .ok () := by
  cases s with
  | nil => exact endOfNumber_ok (hrest.mono fun c hc => endsNumber_of_isBreak hc)
  | cons c r =>
    by_cases goesOn : (isNameChar c || c == '.') = true
    · rw [endOfNumber, if_pos goesOn] at h
      cases h
    · rw [List.cons_append, endOfNumber, if_neg goesOn]

/-- A number that was read is read again in front of a break, part by part. -/
theorem readNumber_append {start start' : List Char} {negative : Bool} {c : Char} {r : List Char}
    {t : Read Literal (c :: r)} (h : readNumber start negative c r = .ok t) :
    ∃ t', readNumber start' negative c (r ++ rest) = .ok t' ∧ t'.value = t.value ∧
      t'.rest = t.rest ++ rest := by
  obtain ⟨taken, whole⟩ := digits_append hrest r
  unfold readNumber at h
  obtain ⟨fraction, hfraction, h⟩ := bind_eq_ok.1 h
  obtain ⟨exponent, hexponent, h⟩ := bind_eq_ok.1 h
  obtain ⟨⟨⟩, ends, h⟩ := bind_eq_ok.1 h
  obtain ⟨fraction', hfraction', fractionSame, behindFraction⟩ :=
    scanFraction_append hrest hfraction
  obtain ⟨exponent', hexponent', exponentSame, behindExponent⟩ :=
    scanExponent_append hrest hexponent
  obtain ⟨suffixSame, behindSuffix⟩ := scanSuffix_append (s := exponent.rest) hrest
  have ends' : endOfNumber (scanSuffix (exponent.rest ++ rest)).rest = .ok () := by
    rw [behindSuffix]
    exact endOfNumber_append hrest ends
  -- every part of the number is the same with more text behind, so the number is
  have parts := (readNumber_parts (c := c) start' negative whole hfraction' behindFraction
    hexponent' behindExponent rfl ends').1
  rw [taken, fractionSame, exponentSame, suffixSame, behindSuffix] at parts
  split at h
  · next l literal =>
    obtain rfl := Except.ok.inj h
    exact parts l literal
  · cases h

/-! ### Words -/

/-- Which type a word names depends on the word alone. -/
theorem typeNamed?_append {c : Char} {r : List Char} :
    typeNamed? c (r ++ rest) = typeNamed? c r := by
  rw [typeNamed?, (names_append hrest r).1, typeNamed?]

/-- A word that was read is read again in front of a break, with what it quotes if it names a type.
-/
theorem readWord_append {c : Char} {r : List Char} {t : Read Token (c :: r)}
    (h : readWord c r = .ok t) : ∃ t', readWord c (r ++ rest) = .ok t' ∧ t'.value = t.value ∧
      t'.rest = t.rest ++ rest := by
  obtain ⟨taken, left⟩ := names_append hrest r
  have view := readWord_cases c r
  rw [h] at view
  cases view with
  | plain apart =>
    refine ⟨_, readWord_plain fun q quote => ?_, ?_, left⟩
    · -- a quote behind the longer word stood behind the word alone, for no break is a quote
      rw [left] at quote
      rw [typeNamed?_append hrest]
      have front : (r.dropWhile isNameChar).head? = some '\'' := by
        by_contra other
        exact head?_append_ne hrest (by decide) other (quote ▸ rfl)
      obtain ⟨q', hq'⟩ := List.head?_eq_some_iff.1 front
      exact apart q' hq'
    · exact congrArg (fun cs => wordToken (String.ofList (c :: cs))) taken
  | typed quote ofType quoted literal value behind =>
    obtain ⟨text', quoted', textSame, behindText⟩ := readQuoted?_append hrest quoted
    rw [quote] at left
    rw [← typeNamed?_append hrest] at ofType
    rw [← textSame] at literal
    obtain ⟨t', ht', value', behind'⟩ := (readWord_quoted left ofType quoted').1 _ literal
    exact ⟨t', ht', value'.trans value.symm, by rw [behind', behindText, behind]⟩

/-! ### Tokens -/

/-- So is what starts with a minus: a number, or an infinity. -/
theorem readMinus_append {r : List Char} {t : Read Token ('-' :: r)} (h : readMinus r = .ok t) :
    ∃ t', readMinus (r ++ rest) = .ok t' ∧ t'.value = t.value ∧ t'.rest = t.rest ++ rest := by
  cases r with
  | nil =>
    -- the sign alone: what follows is neither a digit nor the start of a name
    obtain rfl := Except.ok.inj h
    cases rest with
    | nil => exact ⟨_, rfl, rfl, rfl⟩
    | cons c r =>
      have digit := isDigit_of_isBreak (hrest c rfl)
      have name := isNameStart_of_isBreak (hrest c rfl)
      refine ⟨.one (.sign .minus) '-' (c :: r), ?_, rfl, rfl⟩
      simp [readMinus, digit, name]
  | cons c r =>
    by_cases digit : c.isDigit = true
    · rw [readMinus, if_pos digit] at h
      obtain ⟨n, hn, h⟩ := bind_eq_ok.1 h
      obtain rfl := Except.ok.inj h
      obtain ⟨n', hn', value, left⟩ := readNumber_append hrest hn
      have step : readMinus (c :: (r ++ rest)) = _ := readToken_minus digit
      rw [hn', ok_bind] at step
      exact ⟨_, step, congrArg Token.literal value, left⟩
    · obtain ⟨taken, left⟩ := names_append hrest r
      have word : (runFrom isNameChar (r ++ rest) c).value = (runFrom isNameChar r c).value :=
        congrArg (c :: ·) taken
      rw [readMinus, if_neg digit] at h
      rw [List.cons_append, readMinus, if_neg digit]
      dsimp only at h ⊢
      rw [word]
      split at h
      · next infinite =>
        obtain rfl := Except.ok.inj h
        exact ⟨_, if_pos infinite, rfl, left⟩
      · next other =>
        obtain rfl := Except.ok.inj h
        exact ⟨_, if_neg other, rfl, rfl⟩

/-- **A token** in front of white space or a sign. -/
theorem readToken_append {c : Char} {r : List Char} {t : Read Token (c :: r)}
    (h : readToken c r = .ok t) :
    ∃ t', readToken c (r ++ rest) = .ok t' ∧ t'.value = t.value ∧ t'.rest = t.rest ++ rest := by
  -- the first character decides which reader goes on
  cases start_cases c with
  | quote =>
    rw [readToken] at h ⊢
    split at h
    · next q quoted =>
      obtain rfl := Except.ok.inj h
      obtain ⟨q', quoted', value, left⟩ := readQuoted?_append hrest quoted
      rw [quoted']
      refine ⟨_, rfl, ?_, left⟩
      exact congrArg (fun cs => Token.literal (.string (String.ofList cs))) value
    · cases h
  | sign hs =>
    rw [readToken_sign hs] at h
    obtain rfl := Except.ok.inj h
    exact ⟨_, readToken_sign hs _, rfl, rfl⟩
  | minus => exact readMinus_append hrest h
  | digit hc =>
    rw [readToken_digit hc] at h
    obtain ⟨n, hn, h⟩ := bind_eq_ok.1 h
    obtain rfl := Except.ok.inj h
    obtain ⟨n', hn', value, left⟩ := readNumber_append hrest hn
    refine ⟨n'.map .literal, ?_, congrArg Token.literal value, left⟩
    rw [readToken_digit hc, hn', ok_bind]
  | name hc =>
    rw [readToken_name hc] at h ⊢
    exact readWord_append hrest h
  | other hc =>
    rw [hc] at h
    cases h

end

/-! ### Texts in front of more text -/

/-- **The tokens of a text** come out in front of white space and signs. -/
theorem readTokens_append {s : List Char} {ts : List Token} (h : readTokens s = .ok ts) :
    Scans readTokens isBreak s ts := by
  -- on the length: white space and a token both leave less than they are given
  induction size : s.length using Nat.strong_induction_on generalizing s ts with
  | _ n ih =>
  subst size
  intro rest hrest
  cases s with
  | nil =>
    rw [readTokens_nil] at h
    obtain rfl := Except.ok.inj h
    exact Scans.nil rest hrest
  | cons c r =>
    cases white : isWhite c with
    | true =>
      rw [readTokens_white white] at h
      rw [List.cons_append, readTokens_white white]
      exact ih r.length (Nat.lt_succ_self _) h rfl rest hrest
    | false =>
      rw [readTokens_cons white] at h
      obtain ⟨t, ht, h⟩ := bind_eq_ok.1 h
      obtain ⟨us, hus, h⟩ := bind_eq_ok.1 h
      obtain rfl := Except.ok.inj h
      obtain ⟨t', ht', value, left⟩ := readToken_append hrest ht
      have behind := ih t.rest.length t.shorter hus rfl rest hrest
      rw [List.cons_append, readTokens_token white ht', value, left, behind, Scans.map_append]
      rfl

/-- White space has no tokens. -/
theorem scans_white {w : List Char} (white : ∀ c ∈ w, isWhite c = true) :
    Scans readTokens anyChar w [] := by
  induction w with
  | nil => exact .nil
  | cons c w ih =>
    rw [List.forall_mem_cons] at white
    intro rest hrest
    rw [List.cons_append, readTokens_white white.1]
    exact ih white.2 rest hrest

/-- A text with white space behind it, in front of anything. -/
theorem scans_before_white {s w : List Char} {ts : List Token} (h : readTokens s = .ok ts)
    (nonempty : w ≠ []) (white : ∀ c ∈ w, isWhite c = true) :
    Scans readTokens anyChar (s ++ w) ts := by
  obtain ⟨c, w, rfl⟩ := List.exists_cons_of_ne_nil nonempty
  have first : isBreak c = true := Bool.or_eq_true_iff.2 (.inl (white c List.mem_cons_self))
  have both := (readTokens_append h).append_cons (scans_white white) first
  rwa [List.append_nil] at both

/-- Scanning a text that has no fault is scanning its characters. -/
theorem tokenize_eq_ok {source : String} {ts : List Token} :
    tokenize source = .ok ts ↔ readTokens source.toList = .ok ts := by
  unfold tokenize
  cases readTokens source.toList <;> simp

/-- **Two texts with white space between them**. The tokens of the second one stand behind those of
the first one, and a fault of the second one is the same fault, as many bytes later as stand in
front of it. The offset of a fault is the size in bytes of what stands in front of its place. -/
theorem tokenize_append {a w b : String} {ts : List Token} (first : tokenize a = .ok ts)
    (nonempty : w ≠ "") (white : w.toList.all isWhite = true) :
    (∀ us, tokenize b = .ok us → tokenize (a ++ w ++ b) = .ok (ts ++ us)) ∧
      (∀ k fault, tokenize b = .error (.lex k fault) →
        tokenize (a ++ w ++ b) = .error (.lex (k + (a ++ w).utf8ByteSize) fault)) ∧
      ∀ e, tokenize b = .error e → ∃ front back fault, b = front ++ back ∧
        FoundAt back.toList fault ∧ e = .lex front.utf8ByteSize fault := by
  have front : Scans readTokens anyChar (a ++ w).toList ts := by
    have blank : w.toList ≠ [] := fun empty => nonempty (String.toList_eq_nil_iff.1 empty)
    rw [String.toList_append]
    exact scans_before_white (tokenize_eq_ok.1 first) blank (List.all_eq_true.1 white)
  have whole : readTokens (a ++ w ++ b).toList = (ts ++ ·) <$> readTokens b.toList := by
    rw [String.toList_append]
    exact front b.toList follows_any
  refine ⟨fun us second => ?_, fun k fault second => ?_, fun e second => tokenize_eq_error second⟩
  · rw [tokenize_eq_ok, whole, tokenize_eq_ok.1 second]
    rfl
  · have found := inside_readTokens b.toList
    unfold tokenize at second ⊢
    rw [whole]
    cases hb : readTokens b.toList with
    | ok us =>
      rw [hb] at second
      cases second
    | error stop =>
      rw [hb] at second found
      obtain ⟨before, split⟩ := found.1
      -- both offsets are sizes of what stands in front of the same place
      have offset := toError_append before stop
      have offset' := toError_append ((a ++ w).toList ++ before) stop
      rw [split, Except.error.inj second] at offset
      rw [List.append_assoc, split, ← String.toList_append, utf8Length_append,
        utf8Length_toList] at offset'
      obtain ⟨rfl, rfl⟩ := Error.lex.inj offset
      rw [Nat.add_comm]
      exact congrArg Except.error offset'

/-- A fault behind white space of three bytes, and texts that are not ASCII. -/
theorem unexpected_behind_wide_space :
    tokenize "'né'" = .ok [.literal (.string "né")] ∧
      tokenize "'ß' ?" = .error (.lex 5 (.unexpectedChar '?')) ∧
      tokenize ("'né'" ++ "\u2003" ++ "'ß' ?") = .error (.lex 13 (.unexpectedChar '?')) := by
  have first : tokenize "'né'" = .ok [.literal (.string "né")] := by cbv
  have second : tokenize "'ß' ?" = .error (.lex 5 (.unexpectedChar '?')) := by cbv
  have size : ("'né'" ++ "\u2003" : String).utf8ByteSize = 8 := by cbv
  have joined := (tokenize_append (b := "'ß' ?") first (w := "\u2003") (by decide)
    (by cbv)).2.1 _ _ second
  rw [size] at joined
  exact ⟨first, second, joined⟩

end Sift.Filter
