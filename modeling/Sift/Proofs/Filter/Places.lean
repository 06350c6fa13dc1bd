import Mathlib
import Sift.Proofs.Filter.Scanning

/-!
# Where faults of spelling are found

Every step of the scanner ends inside of the text that it was given: what it leaves is the end of
the text, and so is the place of a fault, where stands what the wording of the fault names. The
offset of a fault is therefore the size in bytes of what stands in front of it.

* `FoundAt`: what stands where a fault is found.
* `Inside`: a step that ends inside of its text; `inside_readTokens`: all of them do.
* `tokenize_eq_error`: the fault of a text, at the offset in bytes of its place.
-/

namespace Sift.Filter

open Text Number

/-! ### Sizes in bytes -/

theorem utf8Length_append (s t : List Char) :
    utf8Length (s ++ t) = utf8Length s + utf8Length t := by
  induction s with
  | nil => rw [List.nil_append, utf8Length, Nat.zero_add]
  | cons c s ih => rw [List.cons_append, utf8Length, utf8Length, ih, Nat.add_assoc]

theorem utf8Length_toList (s : String) : utf8Length s.toList = s.utf8ByteSize := by
  have chars (cs : List Char) : utf8Length cs = String.utf8Len cs := by
    induction cs with
    | nil => rfl
    | cons c cs ih => rw [utf8Length, String.utf8Len_cons, ih, Nat.add_comm]
  rw [chars, ← String.utf8ByteSize_ofList, String.ofList_toList]

/-! ### Places -/

/-- What stands where a fault is found: the character that it names, the quote that is not
closed, the second point, something other than the digits of an exponent, or the literal that has no
value. -/
def FoundAt (place : List Char) : LexFault → Prop
  | .unexpectedChar c | .charAfterNumber c => place.head? = some c
  | .openString => ∃ r, place = '\'' :: r ∧ readQuoted? r = none
  | .secondPoint => place.head? = some '.'
  | .emptyExponent => Follows (fun c => !c.isDigit) place
  | .badLiteral _ _ =>
    ∃ c, place.head? = some c ∧ (c = '-' ∨ c.isDigit = true ∨ isNameStart c = true)
  | .outOfRange text => text.toList <+: place
  | _ => False

universe u

variable {α β : Type u}

/-- Steps that end inside of their text: before its end, or with a fault that is found in it. -/
def Inside (s : List Char) (rest : α → List Char) : Except Stop α → Prop
  | .ok a => rest a <:+ s
  | .error stop => stop.place <:+ s ∧ FoundAt stop.place stop.fault

namespace Inside

variable {s t : List Char} {rest : α → List Char} {after : β → List Char} {x : Except Stop α}

/-- What ends inside of a text ends inside of a longer one with that end. -/
theorem mono (h : Inside s rest x) (suffix : s <:+ t) : Inside t rest x := by
  cases x with
  | ok a => exact List.IsSuffix.trans h suffix
  | error stop => exact ⟨h.1.trans suffix, h.2⟩

/-- One step after another. -/
theorem bind {f : α → Except Stop β} (h : Inside s rest x)
    (next : ∀ a, rest a <:+ s → Inside s after (f a)) : Inside s after (x >>= f) := by
  cases x with
  | ok a => exact next a h
  | error stop => exact h

end Inside

/-! ### The steps of the scanner -/

/-- What is left of a quoted text is an end of it; so for the other steps here. -/
theorem readQuoted?_suffix {s : List Char} {q : Read (List Char) s} (h : readQuoted? s = some q) :
    q.rest <:+ s := by
  fun_induction readQuoted? s with
  | case1 => cases h
  | case2 r ih =>
    obtain ⟨p, hp, rfl⟩ := Option.map_eq_some_iff.1 h
    exact (ih hp).trans ((List.suffix_cons _ _).trans (List.suffix_cons _ _))
  | case3 r closed =>
    cases h
    exact List.suffix_cons _ _
  | case4 c r plain ordinary ih =>
    obtain ⟨p, hp, rfl⟩ := Option.map_eq_some_iff.1 h
    exact (ih hp).trans (List.suffix_cons _ _)

/-- A fault in a fraction is found where digits are missing. -/
theorem inside_scanFraction (s : List Char) : Inside s Scan.rest (scanFraction s) := by
  unfold scanFraction
  split
  · next r =>
    have behind : r.dropWhile Char.isDigit <:+ '.' :: r :=
      (List.dropWhile_suffix _).trans (List.suffix_cons _ _)
    split
    · next second => exact ⟨behind, second⟩
    · exact behind
  · exact List.suffix_rfl

theorem scanSign_suffix (s : List Char) : (scanSign s).rest <:+ s := by
  unfold scanSign
  split
  · exact List.suffix_cons _ _
  · exact List.suffix_cons _ _
  · exact List.suffix_rfl

/-- Where a run of a class is empty, nothing of the class stands. -/
theorem follows_of_takeWhile {p : Char → Bool} {s : List Char} (h : s.takeWhile p = []) :
    Follows (!p ·) s := by
  intro c hc
  obtain ⟨r, rfl⟩ := List.head?_eq_some_iff.1 hc
  by_contra taken
  simp_all

/-- A fault in an exponent is found behind its sign, where digits are missing. -/
theorem inside_scanExponent (s : List Char) : Inside s Scan.rest (scanExponent s) := by
  cases s with
  | nil => exact List.suffix_rfl
  | cons c r =>
    rw [scanExponent]
    have sign : (scanSign r).rest <:+ c :: r := (scanSign_suffix r).trans (List.suffix_cons _ _)
    split
    · dsimp only
      split
      · next digits =>
        refine ⟨sign, ?_⟩
        change Follows _ (scanSign r).rest
        generalize (scanSign r).rest = place at digits ⊢
        rw [List.isEmpty_iff] at digits
        exact follows_of_takeWhile digits
      · exact (List.dropWhile_suffix _).trans sign
    · exact List.suffix_rfl

theorem scanSuffix_suffix (s : List Char) : (scanSuffix s).rest <:+ s := by
  cases s with
  | nil => exact List.suffix_rfl
  | cons c r =>
    rw [scanSuffix]
    split
    · exact List.suffix_cons _ _
    · exact List.suffix_rfl

/-- A fault at the end of a number is found at what goes on with it. -/
theorem inside_endOfNumber (s : List Char) : Inside s (fun _ => s) (endOfNumber s) := by
  cases s with
  | nil => exact List.suffix_rfl
  | cons c r =>
    rw [endOfNumber]
    split
    · exact ⟨List.suffix_rfl, rfl⟩
    · exact List.suffix_rfl

/-- What is wrong with a number: its type, or as an integer its value. -/
theorem numberLiteral_fault {negative : Bool} {whole : List Char} {fraction : Option (List Char)}
    {exponent : Option (Option Char × List Char)} {suffix : Option Suffix} {fault : LexFault}
    (h : numberLiteral negative whole fraction exponent suffix = .error fault) :
    (∃ kind text, fault = .badLiteral kind text) ∨
      fault = .outOfRange (String.ofList ((if negative then ['-'] else []) ++ whole)) := by
  unfold numberLiteral at h
  dsimp only at h
  split at h
  · cases h
  · cases h
  · cases h
  · split at h
    · cases h
    · exact .inl ⟨_, _, (Except.error.inj h).symm⟩
  · by_cases integral : (!(fraction.isNone && exponent.isNone)) = true
    · rw [if_pos integral] at h
      cases h
    · rw [if_neg integral] at h
      simp only [Bool.not_eq_true, Bool.not_eq_false', Bool.and_eq_true,
        Option.isNone_iff_eq_none] at integral
      -- without a fraction and an exponent, the text is the sign and the digits
      obtain ⟨rfl, rfl⟩ := integral
      split at h
      · cases h
      · split at h
        · cases h
        · refine .inr ((Except.error.inj h).symm.trans ?_)
          simp

/-- The text of a number, from its sign. -/
theorem inside_readNumber {negative : Bool} {c : Char} {r start : List Char}
    (digit : c.isDigit = true) (hstart : start = (if negative then ['-'] else []) ++ c :: r) :
    Inside start Read.rest (readNumber start negative c r) := by
  have digits : r.dropWhile Char.isDigit <:+ start := by
    rw [hstart]
    exact (List.dropWhile_suffix _).trans ((List.suffix_cons _ _).trans (List.suffix_append _ _))
  have behind : Inside start Scan.rest (scanFraction (r.dropWhile Char.isDigit)) :=
    (inside_scanFraction _).mono digits
  unfold readNumber
  refine behind.bind fun fraction left => ?_
  refine ((inside_scanExponent _).mono left).bind fun exponent left => ?_
  -- the literal is made last, and its faults are found where the number starts
  have left : (scanSuffix exponent.rest).rest <:+ start := (scanSuffix_suffix _).trans left
  refine ((inside_endOfNumber _).mono left).bind fun _ left => ?_
  split
  · exact left
  · next fault hfault =>
    refine ⟨List.suffix_rfl, ?_⟩
    rcases numberLiteral_fault hfault with ⟨kind, text, rfl⟩ | rfl
    · cases negative with
      | true => exact ⟨'-', by rw [hstart]; rfl, .inl rfl⟩
      | false => exact ⟨c, by rw [hstart]; rfl, .inr (.inl digit)⟩
    · change String.toList _ <+: start
      rw [String.toList_ofList, hstart]
      refine (List.prefix_append_right_inj _).2 ?_
      exact (List.prefix_cons_inj c).2 (List.takeWhile_prefix _)

/-! ### Tokens -/

/-- A fault in a word is found where it starts, or where its quote does. -/
theorem inside_readWord {c : Char} (start : isNameStart c = true) (r : List Char) :
    Inside (c :: r) Read.rest (readWord c r) := by
  have word : r.dropWhile isNameChar <:+ c :: r :=
    (List.dropWhile_suffix _).trans (List.suffix_cons _ _)
  have view := readWord_cases c r
  generalize readWord c r = x at view ⊢
  cases view with
  | plain => exact word
  | typed quote ofType quoted literal value left =>
    change Read.rest _ <:+ _
    rw [quote] at word
    rw [left]
    exact (readQuoted?_suffix quoted).trans ((List.suffix_cons _ _).trans word)
  | unclosed quote ofType quoted =>
    rw [quote] at word
    exact ⟨word, _, rfl, quoted⟩
  | bad => exact ⟨List.suffix_rfl, c, rfl, .inr (.inr start)⟩

/-- A fault behind a minus is one of the number that starts there. -/
theorem inside_readMinus (r : List Char) : Inside ('-' :: r) Read.rest (readMinus r) := by
  cases r with
  | nil => exact List.suffix_cons _ _
  | cons c r =>
    rw [readMinus]
    split
    · next digit =>
      exact (inside_readNumber digit rfl).bind fun n left => left
    · dsimp only
      split
      · exact (List.dropWhile_suffix _).trans ((List.suffix_cons _ _).trans (List.suffix_cons _ _))
      · exact List.suffix_cons _ _

/-- Every fault of a token is found inside of it, or where it starts. -/
theorem inside_readToken (c : Char) (r : List Char) :
    Inside (c :: r) Read.rest (readToken c r) := by
  -- by what the token begins with, as the scanner does
  cases start_cases c with
  | quote =>
    rw [readToken]
    split
    · next q quoted => exact (readQuoted?_suffix quoted).trans (List.suffix_cons _ _)
    · next quoted => exact ⟨List.suffix_rfl, r, rfl, quoted⟩
  | sign h =>
    rw [readToken_sign h]
    exact List.suffix_cons _ _
  | minus => exact inside_readMinus r
  | digit h =>
    rw [readToken_digit h]
    exact (inside_readNumber h rfl).bind fun n left => left
  | name h =>
    rw [readToken_name h]
    exact inside_readWord h r
  | other h =>
    rw [h]
    exact ⟨List.suffix_rfl, rfl⟩

/-- **A fault of a text** is found in it. -/
theorem inside_readTokens (s : List Char) : Inside s (fun _ => []) (readTokens s) := by
  rw [readTokens_eq]
  have behind : (scanRun isWhite s).rest <:+ s := List.dropWhile_suffix _
  generalize (scanRun isWhite s).rest = rest at behind ⊢
  cases rest with
  | nil => exact List.nil_suffix
  | cons c r =>
    refine Inside.bind ((inside_readToken c r).mono behind) fun t left => ?_
    refine Inside.bind ((inside_readTokens t.rest).mono left) fun ts _ => ?_
    exact List.nil_suffix
termination_by s.length
decreasing_by
  have := t.shorter
  have := behind.length_le
  omega

/-! ### Offsets -/

/-- The offset of a fault is the size of what stands in front of its place. -/
theorem toError_append (front : List Char) (stop : Stop) :
    stop.toError (front ++ stop.place) = .lex (utf8Length front) stop.fault := by
  rw [Stop.toError, utf8Length_append, Nat.add_sub_cancel]

/-- **The offset of a fault** is the size in bytes of what stands in front of it. -/
theorem tokenize_eq_error {source : String} {e : Error} (h : tokenize source = .error e) :
    ∃ front back fault, source = front ++ back ∧ FoundAt back.toList fault ∧
      e = .lex front.utf8ByteSize fault := by
  have found := inside_readTokens source.toList
  unfold tokenize at h
  cases hs : readTokens source.toList with
  | ok ts =>
    rw [hs] at h
    cases h
  | error stop =>
    rw [hs] at h found
    obtain ⟨⟨front, split⟩, found⟩ := found
    -- the offset of the fault is the length of what stands in front of its place
    have offset := toError_append front stop
    rw [split, Except.error.inj h] at offset
    refine ⟨String.ofList front, String.ofList stop.place, stop.fault, ?_, ?_, ?_⟩
    · rw [← String.ofList_append, split, String.ofList_toList]
    · rwa [String.toList_ofList]
    · rw [offset, ← utf8Length_toList, String.toList_ofList]

end Sift.Filter
