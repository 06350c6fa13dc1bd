import Mathlib
import Sift.Proofs.Lambda.Closures
import Sift.Proofs.Lambda.Meaning
import Sift.Proofs.Sql.Positions

/-!
# Lengths of constant texts

The length of a constant text counts units of 16 bits, of which a character beyond the first plane
takes two. The methods with positions count characters. So a length is no position behind the text
where the text holds such characters.

* `utf16Length_eq`: the two counts, and `isWide`: the characters by which they differ.
* `Measured`: what a closure may ask of a text by its length; `Measured.term`, `Measured.value`.
* `Measured.Law`: what the answer is by a length in the unit of the positions.
* `measured_iff`: where it is that.
-/

namespace Sift.Text

/-- Characters beyond the first plane. -/
def isWide (c : Char) : Bool := 0x10000 ≤ c.toNat

/-- **Units of 16 bits** are as many as there are characters, and one more for each wide one. -/
theorem utf16Length_eq (cs : List Char) : utf16Length cs = cs.length + cs.countP isWide := by
  induction cs with
  | nil => rfl
  | cons c cs ih =>
    by_cases wide : isWide c = true
    · have two : ¬ c.toNat < 0x10000 := Nat.not_lt.2 (of_decide_eq_true wide)
      rw [utf16Length, if_neg two, ih, List.length_cons, List.countP_cons_of_pos wide]
      omega
    · have one : c.toNat < 0x10000 := Nat.not_le.1 fun large => wide (decide_eq_true large)
      rw [utf16Length, if_pos one, ih, List.length_cons, List.countP_cons_of_neg wide]
      omega

/-- Each character counts once at least. -/
theorem length_le_utf16Length (cs : List Char) : cs.length ≤ utf16Length cs := by
  rw [utf16Length_eq]
  exact Nat.le_add_right _ _

/-- A text behind another is found at the end of that one, if not before. -/
theorem findIdx_tails_append_le (cs needle : List Char) :
    (cs ++ needle).tails.findIdx needle.isPrefixOf ≤ cs.length := by
  have size : cs.length < (cs ++ needle).tails.length := by
    rw [List.length_tails, List.length_append]
    omega
  refine Nat.not_lt.1 fun later => ?_
  have missed := List.not_of_lt_findIdx later
  rw [List.getElem_tails, List.drop_left, List.isPrefixOf_iff_prefix.2 List.prefix_rfl] at missed
  cases missed

end Sift.Text

namespace Sift.Lambda

open Text

namespace Constant

/-- The part from a position on, however far behind the text the position is. -/
theorem between_from (cs : List Char) (n : Nat) : between cs (some (.int n)) none = cs.drop n := by
  have start : clamped cs.length (some (.int n)) = some (min n cs.length) := rfl
  have finish : clamped cs.length none = none := rfl
  rw [between, start, finish, Option.getD_some, Option.getD_none]
  rcases Nat.le_total n cs.length with inside | behind
  · rw [min_eq_left inside, min_eq_left inside, max_eq_right inside]
    exact List.take_of_length_le (Nat.le_of_eq List.length_drop)
  · rw [min_eq_right behind, min_self, max_self, Nat.sub_self, List.take_zero,
      List.drop_eq_nil_of_le behind]

/-- Behind as many units of 16 bits as a text takes. -/
theorem between_utf16Length (cs ds : List Char) :
    between (cs ++ ds) (some (.int (utf16Length cs))) none = ds.drop (cs.countP isWide) := by
  rw [between_from, utf16Length_eq, List.drop_append, List.drop_eq_nil_of_le (Nat.le_add_right _ _),
    Nat.add_sub_cancel_left, List.nil_append]

/-- What follows a text in front is found where it starts first, at its end or before. -/
theorem positionOrMinusOne_append (cs ds : List Char) :
    positionOrMinusOne (indexOf? ds (cs ++ ds)) =
      .int ((cs ++ ds).tails.findIdx ds.isPrefixOf) := by
  have found : (cs ++ ds).tails.findIdx ds.isPrefixOf < (cs ++ ds).tails.length := by
    have place := findIdx_tails_append_le cs ds
    rw [List.length_tails, List.length_append]
    omega
  rw [Sql.indexOf?_eq_findIdx?, List.findIdx?_eq_some_iff_findIdx_eq.2 ⟨found, rfl⟩]
  rfl

/-- The character at a position, if there is one. -/
theorem characterAt_int (cs : List Char) (i : Int) :
    characterAt cs (some (.int i)) = if i < 0 then [] else cs[i.toNat]?.toList := by
  by_cases h : i < 0 <;> simp [characterAt, position?, h]

end Constant

/-- What a closure asks of a text by its length: what is behind it in a longer text, where a
text that was put behind it is found, and the character at an index. -/
inductive Measured where
  | rest
  | position
  | character
  deriving DecidableEq

namespace Measured

/-- The term of a text, one to put behind it, and an index. -/
def term (text behind index : Term) : Measured → Term
  | rest => .call (.member (.call (.member text "concat") [behind]) "substring")
      [.member text "length"]
  | position => .call (.member (.call (.member text "concat") [behind]) "indexOf") [behind]
  | character => .call (.member text "charAt") [index]

/-- Each question has a text, if its parts have. -/
theorem printable {x y z : Term} (hx : Printable x) (hy : Printable y) (hz : Printable z) :
    (m : Measured) → Printable (m.term x y z)
  | rest =>
    have joined := (hx.member "concat").call (List.forall_mem_singleton.2 hy)
    (joined.member "substring").call (List.forall_mem_singleton.2 (hx.member "length"))
  | position =>
    .call (.member (.call (hx.member "concat") (List.forall_mem_singleton.2 hy)) "indexOf")
      (List.forall_mem_singleton.2 hy)
  | character => .call (hx.member "charAt") (List.forall_mem_singleton.2 hz)

/-- The methods that are called. -/
def called : List String := ["concat", "substring", "indexOf", "charAt"]

/-- The answer. Of the text that was put behind, as many characters are left out as there are
wide ones in front of it. -/
def value (s t : String) (i : Int) : Measured → Json
  | rest => .str (String.ofList (t.toList.drop (s.toList.countP isWide)))
  | position => .int ((s ++ t).toList.tails.findIdx t.toList.isPrefixOf)
  | character => .str (String.ofList (if i < 0 then [] else s.toList[i.toNat]?.toList))

/-- What the answer is if the length counts what positions count: the text that was put behind,
a position up to the length, and a character below the length only. -/
def Law (t : String) (i : Int) (length : Nat) (answer : Json) : Measured → Prop
  | rest => answer = .str t
  | position => ∃ n : Nat, answer = .int n ∧ n ≤ length
  | character => answer ≠ .str "" ↔ 0 ≤ i ∧ i < length

/-- Where the answer is that: without wide characters, and where their number is of no account.
-/
def Kept (s t : String) (i : Int) : Measured → Prop
  | rest => t = "" ∨ s.toList.countP isWide = 0
  | position => True
  | character => i < s.toList.length ∨ s.toList.length + s.toList.countP isWide ≤ i

instance (s t : String) (i : Int) : (m : Measured) → Decidable (m.Kept s t i)
  | rest => inferInstanceAs (Decidable (_ ∨ _))
  | position => inferInstanceAs (Decidable True)
  | character => inferInstanceAs (Decidable (_ ∨ _))

section

variable {scope : Scope} {x y z : Term} {s t : String} {i : Int}
  (text : scope.denote x = .ok (.expr (.lit (.str s))))

include text

/-- A bound text is a constant; so is what two of them are concatenated to. -/
theorem expr_text : scope.expr x = .ok (.lit (.str s)) := by
  rw [Scope.expr, text, ok_bind]
  rfl

/-- The length of a constant text in a closure. -/
theorem expr_length : scope.expr (.member x "length") =
    .ok (.lit (.int (utf16Length s.toList))) := by
  rw [Scope.expr, Scope.denote, text, ok_bind]
  rfl

variable (behind : scope.expr y = .ok (.lit (.str t)))
  (plain : ∀ name ∈ called, scope.handlers.lookup name = none)

include behind plain

theorem expr_concat : scope.expr (.call (.member x "concat") [y]) =
    .ok (.lit (.str (s ++ t))) := by
  rw [Scope.expr_method "concat" (expr_text text) (Scope.exprs_cons behind rfl)]
  exact Scope.callMethod_constant (plain _ (by decide)) rfl rfl

variable (index : scope.expr z = .ok (.lit (.int i)))

include index

/-- The answer is computed while the closure is read. -/
theorem expr_term (m : Measured) : scope.expr (m.term x y z) = .ok (.lit (m.value s t i)) := by
  have joined := expr_concat text behind plain
  cases m with
  | rest =>
    rw [term, Scope.expr_method "substring" joined (Scope.exprs_cons (expr_length text) rfl)]
    refine Scope.callMethod_constant (plain _ (by decide)) rfl ?_
    -- the length of the text in front is counted in units, and the characters behind it in
    -- characters
    have part := Constant.between_utf16Length s.toList t.toList
    rw [← String.toList_append] at part
    rw [value, ← part]
    rfl
  | position =>
    rw [term, Scope.expr_method "indexOf" joined (Scope.exprs_cons behind rfl)]
    refine Scope.callMethod_constant (plain _ (by decide)) rfl ?_
    have found := Constant.positionOrMinusOne_append s.toList t.toList
    rw [← String.toList_append] at found
    rw [value, ← found]
    rfl
  | character =>
    rw [term, Scope.expr_method "charAt" (expr_text text) (Scope.exprs_cons index rfl)]
    refine Scope.callMethod_constant (plain _ (by decide)) rfl ?_
    rw [value, ← Constant.characterAt_int]
    rfl

end

variable {s t : String} {i : Int}

/-- What is behind the length is the text put there, if no character before it takes two units. -/
theorem rest_eq_iff : rest.value s t i = .str t ↔ t = "" ∨ s.toList.countP isWide = 0 := by
  rw [value]
  constructor
  · intro same
    injection same with same
    have lengths := congrArg String.length same
    rw [String.length_ofList, List.length_drop, String.length_toList] at lengths
    by_cases nothing : t = ""
    · exact .inl nothing
    · have text : t.length ≠ 0 := fun zero => nothing (String.length_eq_zero_iff.1 zero)
      exact .inr (by omega)
  · rintro (rfl | narrow)
    · rw [String.toList_empty, List.drop_nil]
    · rw [narrow, List.drop_zero, String.ofList_toList]

/-- A character at an index counts characters. -/
theorem character_ne_iff : character.value s t i ≠ .str "" ↔ 0 ≤ i ∧ i < s.toList.length := by
  have empty (cs : List Char) : Json.str (String.ofList cs) = .str "" ↔ cs = [] := by
    rw [Json.str.injEq, String.ofList_eq_empty_iff]
  rw [value, ne_eq, empty]
  split
  · next negative => exact iff_of_false (fun h => h rfl) (by omega)
  · next natural =>
    rw [Option.toList_eq_nil_iff, List.getElem?_eq_none_iff]
    omega

/-- The answer is what it should be by the length in units of 16 bits. -/
theorem law_iff (m : Measured) :
    m.Law t i (utf16Length s.toList) (m.value s t i) ↔ m.Kept s t i := by
  cases m with
  | rest => exact rest_eq_iff
  | position =>
    have place := findIdx_tails_append_le s.toList t.toList
    rw [← String.toList_append] at place
    exact iff_of_true ⟨_, rfl, place.trans (length_le_utf16Length _)⟩ trivial
  | character =>
    rw [Law, Kept, character_ne_iff, utf16Length_eq]
    omega

/-- Always so for texts without wide characters, and for no others. -/
theorem forall_kept_iff :
    (∀ (m : Measured) (t : String) (i : Int), m.Kept s t i) ↔ ∀ c ∈ s.toList, isWide c = false := by
  have narrow : s.toList.countP isWide = 0 ↔ ∀ c ∈ s.toList, isWide c = false := by
    simp [List.countP_eq_zero]
  rw [← narrow]
  constructor
  · intro kept
    have between : Kept s "" s.toList.length character := kept character "" s.toList.length
    rw [Kept] at between
    omega
  · intro zero m t i
    cases m with
    | rest => exact .inr zero
    | position => trivial
    | character =>
      rw [Kept]
      omega

end Measured

/-- **The length of a constant text** counts units of 16 bits, positions in it count characters. So
what a closure asks of the text by its length is answered as if they counted the same exactly where
no wide character comes between: a text put behind is missing its first characters, as many as there
are wide ones in front, and there is no character at the last indices below the length. A position
is never behind the length. For all texts behind and all indices, that is so exactly if the text
holds no wide character. -/
theorem measured_iff (m : Measured) {source parameter : String} {x y z : Term} {env : Environment}
    {s t : String} {i : Int} (closure : Closure.parse source = .ok ⟨parameter, m.term x y z⟩)
    (plain : ∀ name ∈ Measured.called, env.handlers.lookup name = none)
    (text : Scope.denote { env with parameter } x = .ok (.expr (.lit (.str s))))
    (behind : Scope.expr { env with parameter } y = .ok (.lit (.str t)))
    (index : Scope.expr { env with parameter } z = .ok (.lit (.int i))) :
    Scope.expr { env with parameter } (.member x "length") =
      .ok (.lit (.int (utf16Length s.toList))) ∧
    (∃ answer, parse source env = .ok (.lit answer) ∧
      (m.Law t i (utf16Length s.toList) answer ↔ m.Kept s t i)) ∧
    ((∀ (m : Measured) (t : String) (i : Int), m.Kept s t i) ↔
      ∀ c ∈ s.toList, isWide c = false) := by
  refine ⟨Measured.expr_length text, ⟨m.value s t i, ?_, m.law_iff⟩, Measured.forall_kept_iff⟩
  rw [parse_eq closure]
  exact Measured.expr_term text behind plain index m

/-- A text of one wide character, one to put behind it, and the index after the first. -/
def faced : Environment where
  resolver := .identity
  bindings := [("s", .str "😀"), ("t", .str "ab"), ("i", .int 1)]
  handlers := []

/-- Any text with the words of a question is read as its term. -/
theorem faced_read (m : Measured) (source : String)
    (spelled : vocabulary.spells
      (.name "x" :: .punct "=>" :: (m.term (.name "s") (.name "t") (.name "i")).words isName)
      source.toList = true) :
    Closure.parse source = .ok ⟨"x", m.term (.name "s") (.name "t") (.name "i")⟩ :=
  have printable := m.printable (.name (by decide) (by decide)) (.name (by decide) (by decide))
    (.name (by decide) (by decide))
  printable.parse_spelled (fun _ h => h) (by decide) (by decide) spelled

/-- Behind one wide character a length is one position too far. -/
theorem faced_rest_measured :
    Closure.parse "x => s.concat(t).substring(s.length)" =
      .ok ⟨"x", Measured.rest.term (.name "s") (.name "t") (.name "i")⟩ ∧
    ∃ answer, parse "x => s.concat(t).substring(s.length)" faced = .ok (.lit answer) ∧
      ¬ Measured.rest.Law "ab" 1 2 answer := by
  have closure := faced_read .rest "x => s.concat(t).substring(s.length)" (by decide +kernel)
  have plain : ∀ name ∈ Measured.called, faced.handlers.lookup name = none := fun _ _ => rfl
  obtain ⟨-, ⟨answer, parsed, law⟩, -⟩ := measured_iff .rest closure plain rfl rfl rfl
  refine ⟨closure, answer, parsed, fun same => ?_⟩
  exact absurd (law.1 same) (by decide)

/-- A wide character in front cuts what was put behind it, and there is no character at the last
index below the length. -/
theorem faced_rest_cut :
    Scope.expr { faced with parameter := "x" } (.member (.name "s") "length") =
      .ok (.lit (.int 2)) ∧
    parse "x => s.concat(t).substring(s.length)" faced = .ok (.lit (.str "b")) ∧
    parse "x => s.charAt(i)" faced = .ok (.lit (.str "")) := by
  have plain : ∀ name ∈ Measured.called, faced.handlers.lookup name = none := fun _ _ => rfl
  have rest := faced_read .rest "x => s.concat(t).substring(s.length)" (by decide +kernel)
  have character := faced_read .character "x => s.charAt(i)" (by decide +kernel)
  have text : Scope.denote { faced with parameter := "x" } (.name "s") =
      .ok (.expr (.lit (.str "😀"))) := rfl
  rw [parse_eq rest, parse_eq character, Measured.expr_term text rfl plain rfl .rest,
    Measured.expr_term text rfl plain rfl .character, Measured.expr_length text]
  exact ⟨rfl, rfl, rfl⟩

end Sift.Lambda
