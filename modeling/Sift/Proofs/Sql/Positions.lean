import Mathlib
import Sift.Proofs.Number.Exact
import Sift.Proofs.Scanning
import Sift.Proofs.Sql.Literals
import Sift.Proofs.Sql.Success

/-!
# Positions in texts

What a server computes from a column by a call with positions. Servers count characters from one;
positions below zero count from the end of the text.

* `part`, `locate`: a part of a text, and the position of one text in another.
* `Lookup`, `Lookup.value`: a call over a column, and its value.
* `readLookup?`, `IsLookup`: a call as a server reads it.
* `isLookup_part`, `isLookup_locate`: calls that were written.
* `between`, `part_eq_between`: the characters between two indices that count from zero.
* `indexOf?_eq_findIdx?`: positions that count from zero.
-/

namespace Sift.Sql

open Text Number

/-! ### Calls with positions -/

/-- The index of a position in a text of a given length: from one on, or from the end. There is
none at zero, nor in front of the text. -/
def start? (size : Nat) (position : Int) : Option Nat :=
  if 0 < position then some (position - 1).toNat
  else if position < 0 ∧ 0 ≤ size + position then some (size + position).toNat
  else none

/-- The part of a text from a position on, or so many characters of it, of which there are none
below one. -/
def part (cs : List Char) (position : Int) (length : Option Int) : List Char :=
  match start? cs.length position with
  | some i => (cs.drop i).take (length.elim cs.length Int.toNat)
  | none => []

/-- The position of a text where it first occurs in another, and zero if it does not. -/
def locate (needle cs : List Char) : Nat :=
  match cs.tails.findIdx? needle.isPrefixOf with
  | some i => i + 1
  | none => 0

/-- A call over a column: a part of its text, or the position of a text in it. -/
inductive Lookup where
  | part (position : Int) (length : Option Int)
  | locate (needle : String)
  deriving DecidableEq, Repr

/-- The value of a call over a column that holds a text. -/
def Lookup.value (s : String) : Lookup → Json
  | part position length => .str (String.ofList (Sql.part s.toList position length))
  | locate needle => .int (Sql.locate needle.toList s.toList)

/-! ### Calls as they are read -/

/-- Digits at the front of a text, as a number, and what follows them. -/
def readNatural? (cs : List Char) : Option (Nat × List Char) :=
  let digits := cs.takeWhile Char.isDigit
  if digits.isEmpty then none
  else some (Nat.ofDigitChars 10 digits 0, cs.dropWhile Char.isDigit)

/-- An integer at the front of a text. -/
def readInteger? : List Char → Option (Int × List Char)
  | '-' :: cs => (readNatural? cs).map fun r => (-(r.1 : Int), r.2)
  | cs => (readNatural? cs).map fun r => ((r.1 : Int), r.2)

/-- An integer or the sum of two at the front of a text. -/
def readSum? (cs : List Char) : Option (Int × List Char) :=
  match readInteger? cs with
  | some (n, ' ' :: '+' :: ' ' :: rest) => (readInteger? rest).map fun r => (n + r.1, r.2)
  | r => r

/-- The length of a part, if there is one, up to the end of the call. -/
def readLength? (position : Int) : List Char → Option Lookup
  | [')'] => some (.part position none)
  | ',' :: ' ' :: cs => (readSum? cs).bind fun r =>
    if r.2 = [')'] then some (.part position (some r.1)) else none
  | _ => none

/-- The numbers of a part up to the end of the call. -/
def readPart? (cs : List Char) : Option Lookup := (readSum? cs).bind fun r => readLength? r.1 r.2

/-- The text that is sought, up to the end of the call. -/
def readNeedle? (column cs : List Char) : Option Lookup := (readLiteral? cs).bind fun r =>
  if r.2 = ", ".toList ++ column ++ [')'] then some (.locate r.1) else none

/-- A call over a column of a given name. -/
def readLookup? (column cs : List Char) : Option Lookup :=
  match cs.dropPrefix? ("SUBSTRING(".toList ++ column ++ ", ".toList) with
  | some rest => readPart? rest
  | none => (cs.dropPrefix? "LOCATE(".toList).bind (readNeedle? column)

/-- What is written as a call over the column of a member. -/
def IsLookup (settings : Settings) (m : String) (e : Expr) (l : Lookup) : Prop :=
  ∃ sql, (Formatter.ofSettings settings).expr e = .ok sql ∧
    readLookup? ((Formatter.ofSettings settings).name m).toList sql.toList = some l

/-! ### Numbers read back -/

theorem toList_natText (n : Nat) : (natText n).toList = Nat.toDigits 10 n := String.toList_ofList

theorem isDigit_natText (n : Nat) : ∀ c ∈ (natText n).toList, c.isDigit = true := by
  rw [toList_natText]
  exact isDigit_toDigits n

section

variable {rest : List Char} {p : Char → Bool} (h : Follows p rest)
  (apart : ∀ c, p c = true → c.isDigit = false)

include h apart

/-- A number is read up to where its digits end. -/
theorem readNatural?_natText (n : Nat) :
    readNatural? ((natText n).toList ++ rest) = some (n, rest) := by
  obtain ⟨taken, left⟩ := takeWhile_append_of_follows (isDigit_natText n) h apart
  have filled : (Nat.toDigits 10 n).isEmpty = false :=
    List.isEmpty_eq_false_iff.2 Nat.toDigits_ne_nil
  rw [readNatural?, taken, left, toList_natText, filled, Nat.ofDigitChars_ten_toDigits]
  rfl

/-- So is one with a sign. -/
theorem readInteger?_intText (n : Int) :
    readInteger? ((intText n).toList ++ rest) = some (n, rest) := by
  have read := readNatural?_natText h apart n.natAbs
  unfold intText
  split
  · next negative =>
    have size : -(n.natAbs : Int) = n := by omega
    have text : ("-" ++ natText n.natAbs).toList ++ rest =
        '-' :: ((natText n.natAbs).toList ++ rest) := by
      rw [String.toList_append]
      rfl
    rw [text, readInteger?, read, Option.map_some, size]
  · next natural =>
    have size : (n.natAbs : Int) = n := by omega
    -- no digit is a sign
    have unsigned : ∀ cs, (natText n.natAbs).toList ++ rest ≠ '-' :: cs := by
      intro cs same
      cases digits : (natText n.natAbs).toList with
      | nil =>
        rw [toList_natText] at digits
        exact Nat.toDigits_ne_nil digits
      | cons c ds =>
        have digit := isDigit_natText n.natAbs c (digits ▸ List.mem_cons_self)
        rw [digits] at same
        rw [(List.cons.inj same).1] at digit
        exact absurd digit (by decide)
    rw [readInteger?, read, Option.map_some, size]
    exact unsigned

end

/-- What ends a number in a call. -/
def endsNumber (c : Char) : Bool := c == ')' || c == ','

theorem isDigit_of_endsNumber {c : Char} (h : endsNumber c = true) : c.isDigit = false := by
  rw [endsNumber, Bool.or_eq_true, beq_iff_eq, beq_iff_eq] at h
  rcases h with rfl | rfl <;> rfl

variable {rest : List Char}

/-- An integer that is not the first part of a sum. -/
theorem readSum?_intText (n : Int) (h : Follows endsNumber rest) :
    readSum? ((intText n).toList ++ rest) = some (n, rest) := by
  have last : ∀ cs, rest ≠ ' ' :: '+' :: ' ' :: cs := by
    rintro cs rfl
    exact absurd (h ' ' rfl) (by decide)
  rw [readSum?, readInteger?_intText h (fun _ => isDigit_of_endsNumber) n]
  split
  · next same =>
    cases same
    exact absurd rfl (last _)
  · rfl

/-- The next position, whether it is computed or left as a sum. -/
theorem readSum?_fromOne (n : Int) : ∃ text,
    Renderer.fromOne ⟨.lit (.int n), .ok (intText n)⟩ = .ok text ∧
      ∀ rest, Follows endsNumber rest → readSum? (text.toList ++ rest) = some (n + 1, rest) := by
  -- where one more is out of range, the server is left to add it
  by_cases fits : Json.inSigned n = true ∧ Json.inSigned (n + 1) = true
  · refine ⟨intText (n + 1), ?_, fun rest h => readSum?_intText (n + 1) h⟩
    simp [Renderer.fromOne, Operand.signed?, Json.signed?, fits.1, fits.2]
  · refine ⟨intText n ++ " + 1", ?_, fun rest h => ?_⟩
    · by_cases signed : Json.inSigned n = true
      · have beyond : ¬ Json.inSigned (n + 1) = true := fun next => fits ⟨signed, next⟩
        simp [Renderer.fromOne, Operand.signed?, Json.signed?, signed, beyond]
      · simp [Renderer.fromOne, Operand.signed?, Json.signed?, signed]
    · have first := @readInteger?_intText (' ' :: '+' :: ' ' :: '1' :: rest) (· == ' ')
        (follows_cons rfl) (fun c blank => by rw [beq_iff_eq.1 blank]; rfl) n
      have second := readInteger?_intText h (fun _ => isDigit_of_endsNumber) 1
      have text : (intText n ++ " + 1").toList ++ rest =
          (intText n).toList ++ (' ' :: '+' :: ' ' :: '1' :: rest) := by
        rw [String.toList_append, List.append_assoc]
        rfl
      have one : readInteger? ('1' :: rest) = some (1, rest) := second
      rw [text, readSum?, first]
      change (readInteger? ('1' :: rest)).map _ = _
      rw [one]
      rfl

/-- Without a length, the part runs to the end. -/
theorem readPart?_rest {text : List Char} {position : Int}
    (h : ∀ rest, Follows endsNumber rest → readSum? (text ++ rest) = some (position, rest)) :
    readPart? (text ++ [')']) = some (.part position none) := by
  rw [readPart?, h _ (follows_cons rfl)]
  rfl

/-- A length stands behind a comma. -/
theorem readPart?_length {text : List Char} {position : Int} (n : Int)
    (h : ∀ rest, Follows endsNumber rest → readSum? (text ++ rest) = some (position, rest)) :
    readPart? (text ++ (',' :: ' ' :: ((intText n).toList ++ [')']))) =
      some (.part position (some n)) := by
  rw [readPart?, h _ (follows_cons rfl), Option.bind_some, readLength?,
    readSum?_intText n (follows_cons rfl)]
  rfl

/-- The text searched for is a literal, and the column stands behind it. -/
theorem readNeedle?_quoteText (needle : String) (column : List Char) :
    readNeedle? column ((quoteText needle).toList ++ (", ".toList ++ (column ++ [')']))) =
      some (.locate needle) := by
  have behind : NoQuote (", ".toList ++ (column ++ [')'])) := by
    intro quote
    cases quote
  rw [readNeedle?, readLiteral?_quoteText needle behind, Option.bind_some, List.append_assoc]
  exact if_pos rfl

theorem readLookup?_substring (column rest : List Char) :
    readLookup? column ("SUBSTRING(".toList ++ column ++ ", ".toList ++ rest) =
      readPart? rest := by
  rw [readLookup?, List.dropPrefix?_append_of_beq rest (beq_self_eq_true _)]

theorem readLookup?_locate (column rest : List Char) :
    readLookup? column ("LOCATE(".toList ++ rest) = readNeedle? column rest := by
  have other : ("LOCATE(".toList ++ rest).dropPrefix?
      ("SUBSTRING(".toList ++ column ++ ", ".toList) = none := rfl
  rw [readLookup?, other, List.dropPrefix?_append_of_beq rest (beq_self_eq_true _)]
  rfl

/-! ### Calls that were written -/

variable (settings : Settings) (m : String)

/-- **A part of a column** is read as it is meant, with its position counted from one. -/
theorem isLookup_part (start : Int) (length : Option Int) :
    IsLookup settings m
      (.call "substring" (.member m :: .lit (.int start) ::
        (length.map fun n => .lit (.int n)).toList))
      (.part (start + 1) length) := by
  obtain ⟨position, written, read⟩ := readSum?_fromOne start
  let column := (Formatter.ofSettings settings).name m
  cases length with
  | none =>
    refine ⟨"SUBSTRING(" ++ column ++ ", " ++ position ++ ")", ?_, ?_⟩
    · rw [Formatter.expr_call, List.map_cons, List.map_cons, Formatter.expr_member,
        Formatter.expr_lit]
      change Renderer.substring "substring" [⟨_, .ok column⟩, ⟨_, .ok (intText start)⟩] = _
      rw [Renderer.substring, written]
      rfl
    · rw [String.toList_append, String.toList_append, String.toList_append, String.toList_append,
        List.append_assoc, readLookup?_substring]
      exact readPart?_rest read
  | some n =>
    refine ⟨"SUBSTRING(" ++ column ++ ", " ++ position ++ ", " ++ intText n ++ ")", ?_, ?_⟩
    · rw [Formatter.expr_call, Option.map_some, Option.toList_some, List.map_cons, List.map_cons,
        List.map_singleton, Formatter.expr_member, Formatter.expr_lit, Formatter.expr_lit]
      change Renderer.substring "substring"
        [⟨_, .ok column⟩, ⟨_, .ok (intText start)⟩, ⟨_, .ok (intText n)⟩] = _
      rw [Renderer.substring, written]
      rfl
    · have rest : ", ".toList ++ ((intText n).toList ++ ")".toList) =
          ',' :: ' ' :: ((intText n).toList ++ [')']) := rfl
      simp only [String.toList_append]
      rw [List.append_assoc, List.append_assoc, List.append_assoc, readLookup?_substring, rest]
      exact readPart?_length n read

example : readLookup? ['m'] "SUBSTRING(m, 9223372036854775807 + 1, 0)".toList =
    some (.part 0x8000000000000000 (some 0)) := by decide +kernel

/-- **A position in a column** is read as it is meant. -/
theorem isLookup_locate (t : String) :
    IsLookup settings m (.call "indexof" [.member m, .lit (.str t)]) (.locate t) := by
  let column := (Formatter.ofSettings settings).name m
  refine ⟨"LOCATE(" ++ quoteText t ++ ", " ++ column ++ ")", ?_, ?_⟩
  · rw [Formatter.expr_call, List.map_cons, List.map_singleton, Formatter.expr_member,
      Formatter.expr_lit]
    rfl
  · simp only [String.toList_append]
    rw [List.append_assoc, List.append_assoc, List.append_assoc, readLookup?_locate]
    exact readNeedle?_quoteText t column.toList

/-! ### Positions that count from zero -/

/-- The characters between two indices, in either order, each of which is moved into the text
first. -/
def between (cs : List Char) (a b : Int) : List Char :=
  let i := min a.toNat cs.length
  let j := min b.toNat cs.length
  cs.extract (min i j) (max i j)

/-- Indices beyond a text mean its end. -/
theorem extract_min (cs : List Char) (i j : Nat) :
    cs.extract (min i cs.length) (min j cs.length) = cs.extract i j := by
  have front : cs.drop (min i cs.length) = cs.drop i :=
    List.drop_eq_drop_iff.2 (by omega)
  rw [List.extract, List.extract, front, List.take_eq_take_iff, List.length_drop]
  omega

/-- The part behind an index that counts from zero. -/
theorem part_succ {start : Int} (h : 0 ≤ start) (cs : List Char) (length : Option Int) :
    part cs (start + 1) length = (cs.drop start.toNat).take (length.elim cs.length Int.toNat) := by
  have index : start? cs.length (start + 1) = some start.toNat := by
    rw [start?, if_pos (by omega), Int.add_sub_cancel]
  rw [part, index]

/-- **The characters between two indices** are a part: from behind the smaller one on, as many as
the larger one lies behind it. -/
theorem part_eq_between (cs : List Char) (a b : Int) :
    part cs (max (min a b) 0 + 1) (some (max (max a b) 0 - max (min a b) 0)) =
      between cs a b := by
  have first : (max (min a b) 0).toNat = min a.toNat b.toNat := by omega
  have last : (max (max a b) 0).toNat = max a.toNat b.toNat := by omega
  have distance {i j : Int} (hi : 0 ≤ i) : (j - i).toNat = j.toNat - i.toNat := by omega
  have low : min (min a.toNat cs.length) (min b.toNat cs.length) =
      min (min a.toNat b.toNat) cs.length := (inf_inf_distrib_right _ _ _).symm
  have high : max (min a.toNat cs.length) (min b.toNat cs.length) =
      min (max a.toNat b.toNat) cs.length := (min_max_distrib_right _ _ _).symm
  have front : 0 ≤ max (min a b) 0 := le_max_right _ _
  rw [part_succ front, Option.elim_some, distance front, first, last, between, low, high,
    extract_min]

example : between "hello".toList 4 (-1) = "hell".toList := by decide

/-- **The position of a text** that counts from zero. -/
theorem indexOf?_eq_findIdx? (needle cs : List Char) :
    indexOf? needle cs = cs.tails.findIdx? needle.isPrefixOf := by
  induction cs with
  | nil => cases needle <;> rfl
  | cons c cs ih => rw [indexOf?, List.tails_cons, List.findIdx?_cons, ih]

end Sift.Sql
