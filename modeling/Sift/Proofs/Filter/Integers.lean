import Mathlib
import Sift.Proofs.Filter.Locality

/-!
# Integers by their value

An integer in a filter is of the smaller type that holds its value, however many digits it is
written with; the mark of the long type leaves that one only. An integer that no type holds is a
fault where it starts.

* `Reaches`: the places at which the scanner reads a token.
* `integerValue`: the value of an integer as it is written.
* `token_at_integer_iff`: the token of an integer is its literal, if it has one.
* `integer_classified`: the types of integers, and their faults.
-/

namespace Sift.Filter

open Text Number

/-! ### Where tokens start -/

/-- The places that the scanner comes to, with the tokens that it has read before. -/
inductive Reaches : List Char → List Token → List Char → Prop where
  | here {s : List Char} : Reaches s [] s
  | white {c : Char} {s place : List Char} {ts : List Token} (h : isWhite c = true)
      (further : Reaches s ts place) : Reaches (c :: s) ts place
  | token {s middle place : List Char} {t : Token} {ts : List Token} (h : TokenAt s t middle)
      (further : Reaches middle ts place) : Reaches s (t :: ts) place

/-- From a place that is reached on, the scanner reads what it reads from there alone. -/
theorem Reaches.readTokens_eq {s place : List Char} {ts : List Token} (h : Reaches s ts place) :
    readTokens s = (ts ++ ·) <$> readTokens place := by
  induction h with
  | @here s => cases readTokens s <;> rfl
  | white h further ih => rw [readTokens_white h, ih]
  | token h further ih =>
    rw [h.readTokens_eq, ih, Scans.map_append]
    rfl

/-! ### Values -/

/-- The value of an integer as it is written: of its digits, with its sign. -/
def integerValue (negative : Bool) (ds : List Char) : Int :=
  if negative then -(Nat.ofDigitChars 10 ds 0 : Int) else Nat.ofDigitChars 10 ds 0

/-- What 32 bits hold. -/
def InInt (n : Int) : Prop := -2 ^ 31 ≤ n ∧ n < 2 ^ 31

/-- What 64 bits hold. -/
def InLong (n : Int) : Prop := -2 ^ 63 ≤ n ∧ n < 2 ^ 63

instance (n : Int) : Decidable (InInt n) := inferInstanceAs (Decidable (_ ∧ _))

instance (n : Int) : Decidable (InLong n) := inferInstanceAs (Decidable (_ ∧ _))

theorem fitsInt_iff {n : Int} : fitsInt n = true ↔ InInt n := by
  simp [fitsInt, InInt]

theorem inSigned_iff {n : Int} : Json.inSigned n = true ↔ InLong n := by
  simp [Json.inSigned, InLong]

/-- What the smaller type holds the larger one holds. -/
theorem InInt.inLong {n : Int} (h : InInt n) : InLong n := by
  obtain ⟨least, most⟩ := h
  constructor <;> omega

section

variable {negative : Bool} {ds : List Char} (digits : ∀ d ∈ ds, d.isDigit = true)

include digits

/-- The digits with their sign have the value of the integer. -/
theorem signed_digits : signed negative (digitsValue 10 ds) = integerValue negative ds := by
  rw [digitsValue_eq_ofDigitChars digits, signed, integerValue]

/-- Without a mark, the smaller type is tried first, then the larger one. -/
theorem numberLiteral_plain : numberLiteral negative ds none none none =
    if fitsInt (integerValue negative ds) then .ok (.int (integerValue negative ds))
    else if Json.inSigned (integerValue negative ds) then .ok (.long (integerValue negative ds))
    else .error (.outOfRange (String.ofList (integerText negative ds []))) := by
  simp [numberLiteral, signed_digits digits, integerText]

/-- With the mark, only the larger type is tried. -/
theorem numberLiteral_long : numberLiteral negative ds none none (some .long) =
    if Json.inSigned (integerValue negative ds) then .ok (.long (integerValue negative ds))
    else .error (.badLiteral "long" (String.ofList (integerText negative ds []))) := by
  simp [numberLiteral, signed_digits digits, integerText]

/-- The literal without a mark is of 32 bits if they hold the value. -/
theorem numberLiteral_plain_int_iff {v : Int} :
    numberLiteral negative ds none none none = .ok (.int v) ↔
      v = integerValue negative ds ∧ InInt v := by
  rw [numberLiteral_plain digits, ← fitsInt_iff]
  generalize integerValue negative ds = n
  by_cases int : fitsInt n = true
  · rw [if_pos int, Except.ok.injEq, Literal.int.injEq, eq_comm]
    exact (and_iff_left_of_imp fun same => same ▸ int).symm
  · rw [if_neg int]
    refine iff_of_false (fun h => ?_) ?_
    · split at h <;> cases h
    · rintro ⟨rfl, fits⟩
      exact int fits

/-- The literal without a mark is of 64 bits if they hold the value and 32 do not. -/
theorem numberLiteral_plain_long_iff {v : Int} :
    numberLiteral negative ds none none none = .ok (.long v) ↔
      v = integerValue negative ds ∧ InLong v ∧ ¬ InInt v := by
  rw [numberLiteral_plain digits, ← fitsInt_iff, ← inSigned_iff]
  generalize integerValue negative ds = n
  by_cases int : fitsInt n = true
  · rw [if_pos int]
    refine iff_of_false (fun h => by cases h) ?_
    rintro ⟨rfl, -, beyond⟩
    exact beyond int
  rw [if_neg int]
  by_cases long : Json.inSigned n = true
  · rw [if_pos long, Except.ok.injEq, Literal.long.injEq, eq_comm]
    exact (and_iff_left_of_imp fun same => same ▸ ⟨long, int⟩).symm
  · rw [if_neg long]
    refine iff_of_false (fun h => by cases h) ?_
    rintro ⟨rfl, fits, -⟩
    exact long fits

/-- The literal with the mark of the long type is of 64 bits if they hold the value. -/
theorem numberLiteral_long_iff {v : Int} :
    numberLiteral negative ds none none (some .long) = .ok (.long v) ↔
      v = integerValue negative ds ∧ InLong v := by
  rw [numberLiteral_long digits, ← inSigned_iff]
  generalize integerValue negative ds = n
  by_cases long : Json.inSigned n = true
  · rw [if_pos long, Except.ok.injEq, Literal.long.injEq, eq_comm]
    exact (and_iff_left_of_imp fun same => same ▸ long).symm
  · rw [if_neg long]
    refine iff_of_false (fun h => by cases h) ?_
    rintro ⟨rfl, fits⟩
    exact long fits

/-- An integer that no type holds is out of range. -/
theorem numberLiteral_plain_fault (outside : ¬ InLong (integerValue negative ds)) :
    numberLiteral negative ds none none none =
      .error (.outOfRange (String.ofList (integerText negative ds []))) := by
  have int : ¬ fitsInt (integerValue negative ds) = true :=
    fun fits => outside (fitsInt_iff.1 fits).inLong
  rw [numberLiteral_plain digits, if_neg int, if_neg fun fits => outside (inSigned_iff.1 fits)]

/-- A marked integer that the type does not hold is no literal of it. -/
theorem numberLiteral_long_fault (outside : ¬ InLong (integerValue negative ds)) :
    numberLiteral negative ds none none (some .long) =
      .error (.badLiteral "long" (String.ofList (integerText negative ds []))) := by
  rw [numberLiteral_long digits, if_neg fun fits => outside (inSigned_iff.1 fits)]

/-! ### Tokens -/

variable {mark rest : List Char} {suffix : Option Suffix} (nonempty : ds ≠ [])
  (hmark : (mark, suffix) ∈ integerMarks) (hrest : Follows isBreak rest)

include nonempty hmark hrest

/-- **The token of an integer** is its literal, if it has one. -/
theorem token_at_integer_iff {l : Literal} :
    TokenAt (integerText negative ds mark ++ rest) (.literal l) rest ↔
      numberLiteral negative ds none none suffix = .ok l := by
  obtain ⟨reads, fails⟩ := integer_at negative nonempty digits hmark
    (hrest.mono fun c hc => endsNumber_of_isBreak hc)
  constructor
  · intro h
    cases literal : numberLiteral negative ds none none suffix with
    | ok l' => rw [Token.literal.inj (h.eq (reads l' literal)).1]
    | error fault => exact absurd (fails fault literal) h.not_faultAt
  · exact reads l

/-- The fault of an integer that no type holds is found where it starts. -/
theorem tokenize_of_fault {source front : String} {ts : List Token} {fault : LexFault}
    (whole : source.toList = front.toList ++ (integerText negative ds mark ++ rest))
    (start : Reaches source.toList ts (integerText negative ds mark ++ rest))
    (literal : numberLiteral negative ds none none suffix = .error fault) :
    tokenize source = .error (.lex front.utf8ByteSize fault) := by
  obtain ⟨-, fails⟩ := integer_at negative nonempty digits hmark
    (hrest.mono fun c hc => endsNumber_of_isBreak hc)
  have found := (fails fault literal).readTokens_eq
  have read := start.readTokens_eq
  rw [found] at read
  rw [tokenize, read]
  change Except.error (Stop.toError _ source.toList) = _
  rw [whole, toError_append, utf8Length_toList]

end

/-- **Integers are classified by their value**, wherever the scanner comes to one in front of white
space, a sign or the end. Without a mark the token is of the smaller type that holds the value; with
the mark of the long type it is of that one. What no type holds is a fault at the offset in bytes of
the integer. Tokens come out where they stand. -/
theorem integer_classified {source front : String} {rest ds mark : List Char} {negative : Bool}
    {ts : List Token} (nonempty : ds ≠ []) (digits : ∀ d ∈ ds, d.isDigit = true)
    (hmark : mark ∈ [[], ['L'], ['l']]) (hrest : Follows isBreak rest)
    (whole : source.toList = front.toList ++ (integerText negative ds mark ++ rest))
    (start : Reaches source.toList ts (integerText negative ds mark ++ rest)) :
    (mark = [] →
      (∀ v, TokenAt (integerText negative ds mark ++ rest) (.literal (.int v)) rest ↔
        v = integerValue negative ds ∧ InInt v) ∧
      (∀ v, TokenAt (integerText negative ds mark ++ rest) (.literal (.long v)) rest ↔
        v = integerValue negative ds ∧ InLong v ∧ ¬ InInt v) ∧
      (¬ InLong (integerValue negative ds) → tokenize source = .error
        (.lex front.utf8ByteSize (.outOfRange (String.ofList (integerText negative ds [])))))) ∧
    (mark ≠ [] →
      (∀ v, TokenAt (integerText negative ds mark ++ rest) (.literal (.long v)) rest ↔
        v = integerValue negative ds ∧ InLong v) ∧
      (¬ InLong (integerValue negative ds) → tokenize source = .error
        (.lex front.utf8ByteSize
          (.badLiteral "long" (String.ofList (integerText negative ds [])))))) ∧
    ∀ t us, TokenAt (integerText negative ds mark ++ rest) t rest → readTokens rest = .ok us →
      tokenize source = .ok (ts ++ t :: us) := by
  have reads {suffix : Option Suffix} (hm : (mark, suffix) ∈ integerMarks) {l : Literal} :
      TokenAt (integerText negative ds mark ++ rest) (.literal l) rest ↔
        numberLiteral negative ds none none suffix = .ok l :=
    token_at_integer_iff digits nonempty hm hrest
  have fails {suffix : Option Suffix} (hm : (mark, suffix) ∈ integerMarks) {fault : LexFault}
      (literal : numberLiteral negative ds none none suffix = .error fault) :
      tokenize source = .error (.lex front.utf8ByteSize fault) :=
    tokenize_of_fault digits nonempty hm hrest whole start literal
  -- without a mark, with the mark of the long type, and the tokens around the integer
  refine ⟨fun plain => ?_, fun marked => ?_, fun t us token behind => ?_⟩
  · have unmarked : (mark, none) ∈ integerMarks := by
      rw [plain]
      exact List.mem_cons_self
    exact ⟨fun v => (reads unmarked).trans (numberLiteral_plain_int_iff digits),
      fun v => (reads unmarked).trans (numberLiteral_plain_long_iff digits),
      fun outside => fails unmarked (numberLiteral_plain_fault digits outside)⟩
  · have long : (mark, some Suffix.long) ∈ integerMarks := by
      simp only [List.mem_cons, List.not_mem_nil, or_false] at hmark
      rcases hmark with rfl | rfl | rfl
      · exact absurd rfl marked
      · decide
      · decide
    exact ⟨fun v => (reads long).trans (numberLiteral_long_iff digits),
      fun outside => fails long (numberLiteral_long_fault digits outside)⟩
  · have read := start.readTokens_eq
    rw [token.readTokens_eq, behind] at read
    exact tokenize_eq_ok.2 read

/-- One more than 64 bits hold, with zeros in front, behind a text of two characters and three
bytes. -/
theorem too_long_behind_text : tokenize "'é' 009223372036854775808)" =
    .error (.lex 5 (.outOfRange "009223372036854775808")) := by
  have whole : "'é' 009223372036854775808)".toList = "'é' ".toList ++
      (integerText false "009223372036854775808".toList [] ++ [')']) := by decide
  have start (s : List Char) : Reaches ("'é' ".toList ++ s) [.literal (.string "é")] s :=
    .token ⟨'\'', _, _, rfl, by decide, rfl, rfl, rfl⟩ (.white (by decide) .here)
  have outside : ¬ InLong (integerValue false "009223372036854775808".toList) := by decide
  have classified := (integer_classified (by decide) (by simp) (by decide)
    (follows_cons (by decide)) whole (whole ▸ start _)).1 rfl
  have failed := classified.2.2 outside
  have offset : "'é' ".utf8ByteSize = 5 := by decide
  have text : String.ofList (integerText false "009223372036854775808".toList []) =
      "009223372036854775808" := by decide
  rwa [offset, text] at failed

end Sift.Filter
