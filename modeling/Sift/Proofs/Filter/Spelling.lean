import Mathlib
import Sift.Proofs.Filter.Integers

/-!
# Tokens as they are written

Signs, names and the constants of most types have a spelling of their own. Tokens written so, with a
space between every two, are read as they were.

* `Lexeme`: a token with a spelling; `Lexeme.Known`: the ones that can be written.
* `digitsValue_hexSpelling`: hexadecimal digits; `readBytes?_bytesSpelling` and
  `readGuid?_guidSpelling`: what is written with them.
* `Lexeme.readTokens_spelling`: one token alone.
* `tokenize_written`: tokens with spaces between them.
-/

namespace Sift.Filter

open Text Number

/-! ### Hexadecimal digits -/

/-- A digit in either letter case. -/
def inCase (upper : Bool) (c : Char) : Char := if upper then c.toUpper else c

/-- So many hexadecimal digits of a number, in either letter case. -/
def hexSpelling (upper : Bool) (value count : Nat) : List Char :=
  (Literal.hexDigits value count).map (inCase upper)

/-- A hexadecimal digit has its value in either letter case. -/
theorem inCase_digitChar (upper : Bool) {d : Nat} (h : d < 16) :
    isHexDigit (inCase upper (Nat.digitChar d)) = true ∧
      digitValue (inCase upper (Nat.digitChar d)) = d := by
  have all : ∀ d : Fin 16, ∀ upper : Bool, isHexDigit (inCase upper (Nat.digitChar d)) = true ∧
      digitValue (inCase upper (Nat.digitChar d)) = d := by decide
  exact all ⟨d, h⟩ upper

section

variable (upper : Bool) (value count : Nat)

theorem hexSpelling_succ : hexSpelling upper value (count + 1) =
    hexSpelling upper (value / 16) count ++ [inCase upper (Nat.digitChar (value % 16))] := by
  simp [hexSpelling, Literal.hexDigits]

/-- A value is spelled with as many digits as asked for. -/
theorem length_hexSpelling : (hexSpelling upper value count).length = count := by
  induction count generalizing value with
  | zero => rfl
  | succ count ih => simp [hexSpelling_succ, ih]

/-- It is spelled with hexadecimal digits only. -/
theorem isHexDigit_hexSpelling : ∀ c ∈ hexSpelling upper value count, isHexDigit c = true := by
  induction count generalizing value with
  | zero => simp [hexSpelling, Literal.hexDigits]
  | succ count ih =>
    intro c hc
    rw [hexSpelling_succ, List.mem_append, List.mem_singleton] at hc
    rcases hc with hc | rfl
    · exact ih (value / 16) c hc
    · exact (inCase_digitChar upper (Nat.mod_lt _ (by decide))).1

/-- The digits have the value, as far as they are enough for it. -/
theorem digitsValue_hexSpelling :
    digitsValue 16 (hexSpelling upper value count) = value % 16 ^ count := by
  induction count generalizing value with
  | zero => simp [hexSpelling, Literal.hexDigits, digitsValue, Nat.mod_one]
  | succ count ih =>
    have last := (inCase_digitChar upper (Nat.mod_lt value (by decide : 0 < 16))).2
    have front := ih (value / 16)
    rw [digitsValue] at front
    rw [digitsValue, hexSpelling_succ, List.foldl_append, front, List.foldl_cons, List.foldl_nil,
      last, Nat.pow_succ, Nat.mul_comm (16 ^ count) 16, Nat.mod_mul]
    omega

end

/-- No hexadecimal digit is a quote or a dash. -/
theorem isHexDigit_apart {c : Char} (h : isHexDigit c = true) : c ≠ '\'' ∧ c ≠ '-' := by
  constructor <;> rintro rfl <;> exact absurd h (by decide)

/-! ### Bytes -/

/-- Bytes in hexadecimal, in either letter case. -/
def bytesSpelling (upper : Bool) (bytes : List UInt8) : List Char :=
  bytes.flatMap fun b => hexSpelling upper b.toNat 2

/-- Bytes are read back from two digits each. -/
theorem readBytes?_bytesSpelling (upper : Bool) (bytes : List UInt8) :
    readBytes? (bytesSpelling upper bytes) = some bytes := by
  induction bytes with
  | nil => rfl
  | cons b bytes ih =>
    have length := length_hexSpelling upper b.toNat 2
    have digits := isHexDigit_hexSpelling upper b.toNat 2
    have value := digitsValue_hexSpelling upper b.toNat 2
    -- a byte is two digits, which the reader takes together
    obtain ⟨x, y, pair⟩ := List.length_eq_two.1 length
    rw [pair] at digits value
    have both : (isHexDigit x && isHexDigit y) = true := by
      simp [digits x (by simp), digits y (by simp)]
    rw [bytesSpelling, List.flatMap_cons, ← bytesSpelling, pair]
    have step : readBytes? (x :: y :: bytesSpelling upper bytes) = _ := if_pos both
    refine step.trans ?_
    have byte : b.toNat % 16 ^ 2 = b.toNat := Nat.mod_eq_of_lt b.toNat_lt
    rw [ih, value, byte, UInt8.ofNat_toNat]
    rfl

/-- No digit is a quote, so bytes may stand in quotes. -/
theorem not_mem_bytesSpelling (upper : Bool) (bytes : List UInt8) :
    '\'' ∉ bytesSpelling upper bytes := by
  intro quote
  obtain ⟨b, -, hb⟩ := List.mem_flatMap.1 quote
  exact (isHexDigit_apart (isHexDigit_hexSpelling upper b.toNat 2 _ hb)).1 rfl

/-! ### Identifiers of 128 bits -/

/-- Five groups of digits of an identifier of 128 bits. -/
def guidGroups (upper : Bool) (value : BitVec 128) : List (List Char) :=
  [8, 4, 4, 4, 12].splitLengths (hexSpelling upper value.toNat 32)

/-- An identifier of 128 bits, in either letter case. -/
def guidSpelling (upper : Bool) (value : BitVec 128) : List Char :=
  ['-'].intercalate (guidGroups upper value)

section

variable (upper : Bool) (value : BitVec 128)

/-- The groups of an identifier are the digits of its value, cut in pieces. -/
theorem flatten_guidGroups : (guidGroups upper value).flatten = hexSpelling upper value.toNat 32 :=
  List.flatten_splitLengths _ _ (by simp [length_hexSpelling])

theorem isHexDigit_guidGroups {group : List Char} (h : group ∈ guidGroups upper value) :
    ∀ c ∈ group, isHexDigit c = true := by
  intro c hc
  have mem : c ∈ (guidGroups upper value).flatten := List.mem_flatten_of_mem h hc
  rw [flatten_guidGroups] at mem
  exact isHexDigit_hexSpelling upper value.toNat 32 c mem

/-- The spelling of an identifier has its hyphens where the reader looks for them, so it is read as
the value it was made from. -/
theorem readGuid?_guidSpelling : readGuid? (guidSpelling upper value) = some value := by
  have lengths : (guidGroups upper value).map List.length = [8, 4, 4, 4, 12] :=
    List.map_splitLengths_length _ _ (by simp [length_hexSpelling])
  have digits : (guidGroups upper value).flatten.all isHexDigit = true := by
    rw [flatten_guidGroups]
    exact List.all_eq_true.2 (isHexDigit_hexSpelling upper value.toNat 32)
  -- no digit is a hyphen, so splitting at hyphens gives the groups again
  have groups : (guidSpelling upper value).splitOn '-' = guidGroups upper value := by
    refine List.splitOn_intercalate '-' (fun group hgroup dash => ?_) ?_
    · exact (isHexDigit_apart (isHexDigit_guidGroups upper value hgroup '-' dash)).2 rfl
    · intro empty
      rw [empty] at lengths
      cases lengths
  have fits : value.toNat % 16 ^ 32 = value.toNat :=
    Nat.mod_eq_of_lt (value.isLt.trans_eq (by norm_num))
  unfold readGuid?
  dsimp only
  rw [groups, if_pos ⟨lengths, digits⟩, flatten_guidGroups, digitsValue_hexSpelling, fits,
    BitVec.ofNat_toNat, BitVec.setWidth_eq]

/-- What stands in joined parts stands in the separator or in one of the parts. -/
theorem mem_intercalate {c : Char} {sep : List Char} {parts : List (List Char)}
    (h : c ∈ sep.intercalate parts) : c ∈ sep ∨ ∃ part ∈ parts, c ∈ part := by
  induction parts with
  | nil => cases h
  | cons part parts ih =>
    cases parts with
    | nil =>
      rw [List.intercalate_singleton] at h
      exact .inr ⟨part, List.mem_cons_self, h⟩
    | cons next parts =>
      rw [List.intercalate_cons_cons, List.mem_append, List.mem_append] at h
      rcases h with (here | between) | further
      · exact .inr ⟨part, List.mem_cons_self, here⟩
      · exact .inl between
      · obtain between | ⟨other, mem, inside⟩ := ih further
        · exact .inl between
        · exact .inr ⟨other, List.mem_cons_of_mem part mem, inside⟩

theorem not_mem_guidSpelling : '\'' ∉ guidSpelling upper value := by
  intro quote
  rcases mem_intercalate quote with dash | ⟨group, hgroup, inside⟩
  · cases List.mem_singleton.1 dash
  · exact (isHexDigit_apart (isHexDigit_guidGroups upper value hgroup _ inside)).1 rfl

end

/-! ### Tokens with a spelling -/

/-- A token with a spelling. Hexadecimal digits are in either letter case. -/
inductive Lexeme where
  | sign (s : Sign)
  | name (s : String)
  | null
  | boolean (b : Bool)
  | string (s : String)
  | int (n : Int)
  | long (n : Int)
  | binary (upper : Bool) (bytes : List UInt8)
  | guid (upper : Bool) (value : BitVec 128)

/-- Names of ASCII characters: a letter, an underscore or a dollar sign, and any of them or
digits behind it. -/
def isAsciiName (s : String) : Bool :=
  match s.toList with
  | [] => false
  | c :: cs =>
    (c.isAlpha || c == '_' || c == '$') && cs.all fun d => d.isAlphanum || d == '_' || d == '$'

/-- Words that are constants and no names. -/
def constantWords : List String := ["true", "false", "null", "INF", "NaN", "Nan"]

namespace Lexeme

/-- The token. -/
def token : Lexeme → Token
  | sign s => .sign s
  | name s => .name s
  | null => .literal .null
  | boolean b => .literal (.boolean b)
  | string s => .literal (.string s)
  | int n => .literal (.int n)
  | long n => .literal (.long n)
  | binary _ bytes => .literal (.binary bytes)
  | guid _ value => .literal (.guid value)

/-- The spelling of a token. -/
def spelling : Lexeme → List Char
  | sign s => [s.char]
  | name s => s.toList
  | null => "null".toList
  | boolean b => (if b then "true" else "false").toList
  | string s => '\'' :: (s.toList.flatMap doubled ++ ['\''])
  | int n => integerText (n < 0) (Nat.toDigits 10 n.natAbs) []
  | long n => integerText (n < 0) (Nat.toDigits 10 n.natAbs) ['L']
  | binary upper bytes => 'X' :: '\'' :: (bytesSpelling upper bytes ++ ['\''])
  | guid upper value => "guid".toList ++ '\'' :: (guidSpelling upper value ++ ['\''])

/-- What can be written: names of ASCII characters that are no constants, integers of 32 and of
64 bits, and everything of the other kinds. -/
def Known : Lexeme → Prop
  | name s => isAsciiName s = true ∧ s ∉ constantWords
  | int n => InInt n
  | long n => InLong n
  | _ => True

instance (w : Lexeme) : Decidable w.Known :=
  match w with
  | name s => inferInstanceAs (Decidable (isAsciiName s = true ∧ s ∉ constantWords))
  | int n => inferInstanceAs (Decidable (InInt n))
  | long n => inferInstanceAs (Decidable (InLong n))
  | sign _ | null | boolean _ | string _ | binary _ _ | guid _ _ => isTrue trivial

end Lexeme

/-- The names of the grammar of this notation are among the names that the scanner accepts, which
also knows letters outside ASCII. -/
theorem isName_of_isAsciiName {s : String} (h : isAsciiName s = true) : isName s = true := by
  unfold isAsciiName at h
  unfold isName
  cases hs : s.toList with
  | nil => simp [hs] at h
  | cons c cs =>
    rw [hs] at h
    obtain ⟨first, others⟩ := Bool.and_eq_true_iff.1 h
    refine Bool.and_eq_true_iff.2 ⟨?_, List.all_eq_true.2 fun d hd => ?_⟩
    · simp only [Bool.or_eq_true] at first
      rcases first with (letter | mark) | mark
      · exact isNameStart_of_isAlpha letter
      · simp [isNameStart, mark]
      · simp [isNameStart, mark]
    · have other := List.all_eq_true.1 others d hd
      simp only [Char.isAlphanum, Bool.or_eq_true] at other
      rcases other with ((letter | digit) | mark) | mark
      · exact isNameChar_of_isNameStart (isNameStart_of_isAlpha letter)
      · exact isNameChar_of_isDigit digit
      · simp [isNameChar, mark]
      · simp [isNameChar, mark]

/-- A word that is no constant is a name, also where it is an operator's: which it is, the parser
decides. -/
theorem wordToken_of_not_mem {s : String} (h : s ∉ constantWords) : wordToken s = .name s := by
  simp only [constantWords, List.mem_cons, List.not_mem_nil, or_false, not_or] at h
  unfold wordToken
  split <;> simp_all

/-- A quoted text behind the name of a type, alone: a literal, if the type has one for it, and
else a fault where the name starts. -/
theorem readTokens_typed {c : Char} (word : List Char) {text : List Char} {type : TypeName}
    (first : isNameStart c = true) (others : word.all isNameChar = true)
    (ofType : TypeName.ofWord? (lower (String.ofList (c :: word))) = some type)
    (plain : '\'' ∉ text) :
    (∀ l, typedLiteral? type text = some l →
      readTokens (c :: (word ++ '\'' :: (text ++ ['\'']))) = .ok [.literal l]) ∧
    (typedLiteral? type text = none → readTokens (c :: (word ++ '\'' :: (text ++ ['\'']))) =
      .error ⟨.badLiteral type.text (String.ofList text),
        c :: (word ++ '\'' :: (text ++ ['\'']))⟩) := by
  have stop : Follows (fun d => !isNameChar d) ('\'' :: (text ++ ['\''])) :=
    follows_cons (by decide)
  obtain ⟨taken, left⟩ := takeWhile_append_of_follows (List.all_eq_true.1 others) stop (by simp)
  -- there is no quote in the text that would be doubled
  have single : text.flatMap doubled = text := by
    have each : text.flatMap doubled = text.flatMap fun d => [d] :=
      List.flatMap_congr fun d hd => if_neg fun (quote : d = '\'') => plain (quote ▸ hd)
    rw [each, List.flatMap_singleton']
  have read := readQuoted?_doubled text follows_nil
  rw [single] at read
  obtain ⟨q, quoted, value, behind⟩ := read
  have named : typeNamed? c (word ++ '\'' :: (text ++ ['\''])) = some type := by
    rw [typeNamed?, taken, ofType]
  have white := isWhite_of_isNameStart first
  obtain ⟨reads, fails⟩ := readWord_quoted left named quoted
  rw [value] at reads fails
  refine ⟨fun l literal => ?_, fun literal => ?_⟩
  · obtain ⟨t, ht, token, rest⟩ := reads l literal
    have here : TokenAt (c :: (word ++ '\'' :: (text ++ ['\'']))) (.literal l) [] :=
      ⟨c, _, t, rfl, white, (readToken_name first _).trans ht, token, rest.trans behind⟩
    rw [here.readTokens_eq, readTokens_nil]
    rfl
  · have here : FaultAt (c :: (word ++ '\'' :: (text ++ ['\'']))) _ :=
      ⟨c, _, rfl, white, (readToken_name first _).trans (fails literal)⟩
    exact here.readTokens_eq

/-- **One token** alone. -/
theorem Lexeme.readTokens_spelling {w : Lexeme} (known : w.Known) :
    readTokens w.spelling = .ok [w.token] := by
  -- names and the words for constants are read by one rule
  have word (s : String) (h : isName s = true) : readTokens s.toList = .ok [wordToken s] :=
    (scans_name h).eq readTokens_nil
  -- each kind of lexeme by the reader for what it begins with
  cases w with
  | sign s =>
    cases s with
    | minus =>
      have here : TokenAt ['-'] (.sign .minus) [] := ⟨'-', [], _, rfl, by decide, rfl, rfl, rfl⟩
      have read := here.readTokens_eq
      rwa [readTokens_nil] at read
    | _ => exact (scans_sign (by decide)).eq readTokens_nil
  | name s =>
    obtain ⟨ascii, plain⟩ := known
    rw [spelling, word s (isName_of_isAsciiName ascii), wordToken_of_not_mem plain]
    rfl
  | null => exact word "null" (by decide)
  | boolean b =>
    cases b with
    | true => exact word "true" (by decide)
    | false => exact word "false" (by decide)
  | string s => exact (scans_text s).eq readTokens_nil
  | int n =>
    have literal : numberLiteral (n < 0) (Nat.toDigits 10 n.natAbs) none none none =
        .ok (.int n) := by
      simp [numberLiteral, signed_toDigits, fitsInt_iff.2 known]
    exact (scans_integer List.mem_cons_self literal).eq readTokens_nil
  | long n =>
    have literal : numberLiteral (n < 0) (Nat.toDigits 10 n.natAbs) none none (some .long) =
        .ok (.long n) := by
      simp [numberLiteral, signed_toDigits, inSigned_iff.2 known]
    exact (scans_integer (by decide) literal).eq readTokens_nil
  | binary upper bytes =>
    have literal : typedLiteral? .binary (bytesSpelling upper bytes) = some (.binary bytes) := by
      rw [typedLiteral?, readBytes?_bytesSpelling]
      rfl
    exact (readTokens_typed [] (by decide) rfl (by decide)
      (not_mem_bytesSpelling upper bytes)).1 _ literal
  | guid upper value =>
    have literal : typedLiteral? .guid (guidSpelling upper value) = some (.guid value) := by
      rw [typedLiteral?, readGuid?_guidSpelling]
      rfl
    exact (readTokens_typed ['u', 'i', 'd'] (by decide) (by decide) (by decide)
      (not_mem_guidSpelling upper value)).1 _ literal

/-- Tokens with spaces between them, as they are written. -/
def written (ws : List Lexeme) : String :=
  joinWith " " (ws.map fun w => String.ofList w.spelling)

/-- Lexemes with blanks between them are read one by one; a blank may follow any of them. -/
theorem readTokens_written {ws : List Lexeme} (known : ∀ w ∈ ws, w.Known) :
    readTokens (written ws).toList = .ok (ws.map Lexeme.token) := by
  -- each token is read alone, and a space behind it keeps it apart from the others
  induction ws with
  | nil => exact readTokens_nil
  | cons w ws ih =>
    rw [List.forall_mem_cons] at known
    obtain ⟨first, others⟩ := known
    have alone := Lexeme.readTokens_spelling first
    cases ws with
    | nil =>
      have text : (written [w]).toList = w.spelling := String.toList_ofList
      rw [text, alone]
      rfl
    | cons next ws =>
      have text : (written (w :: next :: ws)).toList =
          w.spelling ++ [' '] ++ (written (next :: ws)).toList := by
        change (String.ofList w.spelling ++ " " ++ written (next :: ws)).toList = _
        simp
      have front := scans_before_white alone (w := [' ']) (by decide)
        (List.all_eq_true.1 (by decide))
      rw [text, front _ follows_any, ih others]
      rfl

/-- **Tokens are read as they were written**, with a space between every two: signs, names of ASCII
characters, and constants of all types that have a spelling of their own. -/
theorem tokenize_written {ws : List Lexeme} (known : ∀ w ∈ ws, w.Known) :
    tokenize (written ws) = .ok (ws.map Lexeme.token) :=
  tokenize_eq_ok.2 (readTokens_written known)

/-- Neighbours that would be one token without the space, and the ends of the ranges. -/
def neighbours : List Lexeme :=
  [.name "x", .string "it''s", .sign .minus, .int (-2147483648), .name "guid", .string "",
    .sign .minus, .name "INF_", .long (-9223372036854775808), .binary true [0, 255],
    .guid false 0x6f9619ff8b86d011b42d00c04fc964ff, .null, .boolean true]

/-- Lexemes that would run together without a blank are told apart by it. -/
theorem neighbours_read_back : (∀ w ∈ neighbours, w.Known) ∧
    tokenize (written neighbours) = .ok (neighbours.map Lexeme.token) := by
  have known : ∀ w ∈ neighbours, w.Known := by decide
  exact ⟨known, tokenize_written known⟩

example : written [.name "x", .string "it's", .sign .minus, .long (-5), .binary false [0, 255]] =
    "x 'it''s' - -5L X'00ff'" := by decide

end Sift.Filter
