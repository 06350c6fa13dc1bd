import Mathlib
import Sift.Proofs.Arithmetic
import Sift.Proofs.Lambda.Closures
import Sift.Proofs.Lambda.Meaning
import Sift.Proofs.Sql.Positions

/-!
# Parts and positions in closures

What a closure asks of a text by positions that count from zero. On a constant text it is computed
while the closure is read; on a member it is a call for the server to compute.

* `parse_called`: a method of a member, as a call.
* `partArguments_substring`: the arguments of the part between two indices.
* `between_translated`: that part of a member, as it is written.
* `PositionCall`: the other methods with positions; `PositionCall.Kept`: those that mean the same on
  a member as on a constant.
* `positions_kept_iff`: that they do, and no others.
-/

namespace Sift.Lambda

open Text

section

variable {source parameter method name m : String} {path : Term} {items : List Term}
  {env : Environment} {es : List Expr}

/-- **A method of a member** in a closure is a call of what the method stands for. -/
theorem parse_called
    (closure : Closure.parse source = .ok ⟨parameter, .call (.member path method) items⟩)
    (plain : env.handlers.lookup method = none) (stands : methodName? method = some name)
    (kept : ∀ args, env.resolver.method name args = .ok (some (.call name args)))
    (member : Scope.expr { env with parameter } path = .ok (.member m))
    (constants : Scope.exprs { env with parameter } items = .ok es) :
    parse source env = .ok (.call name (.member m :: partArguments method es)) := by
  have general : ∀ v, Expr.member m ≠ .lit v := fun v => Expr.noConfusion
  rw [parse_eq closure, Scope.expr_general plain stands general member constants, Resolver.call,
    kept]
  rfl

end

/-! ### The part between two indices -/

/-- **Two indices** become the smaller one and the distance to the larger one, each moved behind
the start of the text first. -/
theorem partArguments_substring {a b : Int} (ha : Json.inSigned a = true)
    (hb : Json.inSigned b = true) :
    partArguments "substring" [.lit (.int a), .lit (.int b)] =
      [.lit (.int (max (min a b) 0)),
        .lit (.int (max (max a b) 0 - max (min a b) 0))] := by
  have first : (Json.int a).signed? = some a := if_pos ha
  have second : (Json.int b).signed? = some b := if_pos hb
  rw [partArguments, first, second]
  rfl

/-- **The part between two indices** of a member is the part that the server computes, whatever the
indices are: in either order, in front of the text, behind its end, or as large as they can be. Its
length is never negative, and at most the greatest signed integer of 64 bits. -/
theorem between_translated (settings : Settings) {source parameter m : String}
    {path first last : Term} {env : Environment} {a b : Int}
    (closure : Closure.parse source =
      .ok ⟨parameter, .call (.member path "substring") [first, last]⟩)
    (plain : env.handlers.lookup "substring" = none)
    (kept : ∀ args, env.resolver.method "substring" args = .ok (some (.call "substring" args)))
    (member : Scope.expr { env with parameter } path = .ok (.member m))
    (start : Scope.expr { env with parameter } first = .ok (.lit (.int a)))
    (finish : Scope.expr { env with parameter } last = .ok (.lit (.int b)))
    (ha : Json.inSigned a = true) (hb : Json.inSigned b = true) :
    ∃ e position length, parse source env = .ok e ∧
      Sql.IsLookup settings m e (.part position (some length)) ∧
      0 ≤ length ∧ length ≤ 0x7FFFFFFFFFFFFFFF ∧
      ∀ s : String, (Sql.Lookup.part position (some length)).value s =
        .str (String.ofList (Sql.between s.toList a b)) := by
  have indices : Scope.exprs { env with parameter } [first, last] =
      .ok [.lit (.int a), .lit (.int b)] :=
    Scope.exprs_cons start (Scope.exprs_cons finish rfl)
  have called := parse_called closure plain rfl kept member indices
  rw [partArguments_substring ha hb] at called
  refine ⟨_, _, _, called, Sql.isLookup_part settings m _ (some _), ?_, ?_, fun s => ?_⟩
  · -- the length is clamped from below and from above
    omega
  · have la := Json.inSigned_iff.1 ha
    have lb := Json.inSigned_iff.1 hb
    omega
  · rw [Sql.Lookup.value, Sql.part_eq_between]

/-- The least and the greatest signed integer of 64 bits. -/
def extremes : Environment where
  resolver := .identity
  bindings := [("low", .int (-0x8000000000000000)), ("high", .int 0x7FFFFFFFFFFFFFFF)]
  handlers := []

theorem extremes_translated :
    Closure.parse "x => x.user.name.substring(high, low)" =
      .ok ⟨"x", .call (.member (.member (.member (.name "x") "user") "name") "substring")
        [.name "high", .name "low"]⟩ ∧
    ∃ e position length, parse "x => x.user.name.substring(high, low)" extremes = .ok e ∧
      Sql.IsLookup .mysql "user.name" e (.part position (some length)) ∧
      0 ≤ length ∧ length ≤ 0x7FFFFFFFFFFFFFFF ∧
      ∀ s : String, (Sql.Lookup.part position (some length)).value s =
        .str (String.ofList (Sql.between s.toList 0x7FFFFFFFFFFFFFFF (-0x8000000000000000))) := by
  -- the bounds are bound values, since no numeral is negative or that large
  have bound (s : String) (hs : isName s = true) (other : s ∉ reservedNames) :
      Printable (.name s) := .name hs other
  have path := ((bound "x" (by decide) (by decide)).member "user").member "name"
  have indices := List.forall_mem_cons.2 ⟨bound "high" (by decide) (by decide),
    List.forall_mem_singleton.2 (bound "low" (by decide) (by decide))⟩
  have closure : Closure.parse "x => x.user.name.substring(high, low)" = .ok ⟨"x", _⟩ :=
    (Printable.call (path.member "substring") indices).parse_spelled
      (fun _ h => h) (by decide) (by decide) (by decide +kernel)
  exact ⟨closure, between_translated .mysql closure rfl (fun _ => rfl) rfl rfl rfl (by decide)
    (by decide)⟩

/-! ### Other methods with positions -/

/-- Methods with positions: a part from an index on, of some length or up to the end, and where
a text occurs first. -/
inductive PositionCall where
  | substr (start : Int) (length : Option Int)
  | indexOf (needle : String)

namespace PositionCall

/-- The name of the method. -/
def method : PositionCall → String
  | substr _ _ => "substr"
  | indexOf _ => "indexOf"

/-- The constants it is called with. -/
def constants : PositionCall → List Json
  | substr start length => .int start :: (length.map .int).toList
  | indexOf needle => [.str needle]

/-- The call that the method stands for. -/
def function : PositionCall → String
  | substr _ _ => "substring"
  | indexOf _ => "indexof"

/-- What a server computes for the method of a member. -/
def lookup : PositionCall → Sql.Lookup
  | substr start length => .part (start + 1) length
  | indexOf needle => .locate needle

/-- The value on a constant text. -/
def computed (c : PositionCall) (s : String) : Option Json :=
  Constant.callMethod? (.str s) c.method c.constants

/-- Calls that mean the same on a member as on a constant: parts that start at an index from the
front, and empty ones. -/
def Kept : PositionCall → Prop
  | substr start length => 0 ≤ start ∨ ∃ n ∈ length, n ≤ 0
  | indexOf _ => False

/-- A negative position counts from the end, and no further than the beginning. -/
theorem startOf_int (size : Nat) (n : Int) :
    Constant.startOf size (some (.int n)) = if n < 0 then (size + n).toNat else n.toNat := by
  by_cases h : n < 0 <;> simp [Constant.startOf, Constant.position?, Constant.fromEnd, h]

/-- What a constant text gives for `substr`: characters from the start, as many as there are without
a length. -/
theorem computed_substr (start : Int) (length : Option Int) (s : String) :
    (substr start length).computed s = some (.str (String.ofList
      ((s.toList.drop (Constant.startOf s.toList.length (some (.int start)))).take
        (length.elim s.toList.length Int.toNat)))) := by
  cases length <;> rfl

/-- A part from the front is the same on a member as on a constant. -/
theorem computed_substr_of_nonneg {start : Int} (h : 0 ≤ start) (length : Option Int) (s : String) :
    (substr start length).computed s = some ((substr start length).lookup.value s) := by
  rw [computed_substr, startOf_int, if_neg (Int.not_lt.2 h), lookup, Sql.Lookup.value,
    Sql.part_succ h]

/-- No characters are the same on a member as on a constant. -/
theorem computed_substr_of_nonpos (start : Int) {n : Int} (h : n ≤ 0) (s : String) :
    (substr start (some n)).computed s = some ((substr start (some n)).lookup.value s) := by
  have zero : n.toNat = 0 := Int.toNat_of_nonpos h
  have empty : Sql.part s.toList (start + 1) (some n) = [] := by
    rw [Sql.part]
    split
    · rw [Option.elim_some, zero, List.take_zero]
    · rfl
  rw [computed_substr, Option.elim_some, zero, List.take_zero, lookup, Sql.Lookup.value, empty]

/-- A text with a mark in front that is as long as an index from the end reaches back. -/
def marked (start : Int) : List Char := 'a' :: List.replicate (-start - 1).toNat 'b'

/-- The text on which a negative start is told apart from the one that the server is given is just
long enough for it. -/
theorem length_marked {start : Int} (h : start < 0) : ((marked start).length : Int) = -start := by
  rw [marked, List.length_cons, List.length_replicate]
  omega

/-- The server counts from one, and so misses the mark. -/
theorem mark_not_mem_part {start : Int} (h : start < 0) (length : Option Int) :
    'a' ∉ Sql.part (marked start) (start + 1) length := by
  have size := length_marked h
  -- a position is counted from the end, and the marked text is just one longer than that
  have second (i : Nat) (found : Sql.start? (marked start).length (start + 1) = some i) :
      i = 1 := by
    rw [Sql.start?, if_neg (by omega)] at found
    split at found
    · cases found
      omega
    · cases found
  intro mem
  rw [Sql.part] at mem
  split at mem
  · next i found =>
    rw [second i found] at mem
    have other := List.eq_of_mem_replicate (List.mem_of_mem_take mem)
    exact absurd other (by decide)
  · cases mem

/-- The mark is in the part of a constant, unless that is empty. -/
theorem mark_mem_computed {start : Int} (h : start < 0) {length : Option Int}
    (positive : ∀ n ∈ length, 0 < n) :
    'a' ∈ ((marked start).drop (Constant.startOf (marked start).length (some (.int start)))).take
      (length.elim (marked start).length Int.toNat) := by
  have size := length_marked h
  have front : Constant.startOf (marked start).length (some (.int start)) = 0 := by
    rw [startOf_int, if_pos h]
    omega
  obtain ⟨k, count⟩ : ∃ k, length.elim (marked start).length Int.toNat = k + 1 := by
    cases length with
    | none => exact ⟨(-start - 1).toNat, by rw [Option.elim_none]; omega⟩
    | some n =>
      have one := positive n rfl
      exact ⟨(n - 1).toNat, by rw [Option.elim_some]; omega⟩
  rw [front, count]
  exact List.mem_cons_self

/-- A part keeps its meaning just where the start is not negative, or where a length leaves nothing
of the text. -/
theorem kept_substr_iff (start : Int) (length : Option Int) :
    (∀ s, (substr start length).computed s = some ((substr start length).lookup.value s)) ↔
      (substr start length).Kept := by
  constructor
  · intro same
    by_contra lost
    rw [Kept, not_or, Int.not_le] at lost
    -- otherwise the marked text is told apart: computing keeps its mark, and the server drops it
    have positive : ∀ n ∈ length, 0 < n := fun n hn =>
      Int.not_le.1 fun small => lost.2 ⟨n, hn, small⟩
    have texts := same (String.ofList (marked start))
    rw [computed_substr, lookup, Sql.Lookup.value, String.toList_ofList] at texts
    injection texts with texts
    injection texts with texts
    have mem := mark_mem_computed lost.1 positive
    rw [String.ofList_injective texts] at mem
    exact mark_not_mem_part lost.1 length mem
  · rintro (front | ⟨n, given, small⟩) s
    · exact computed_substr_of_nonneg front length s
    · cases given
      exact computed_substr_of_nonpos start small s

/-- A position on a member is one more than on a constant. -/
theorem computed_indexOf (needle s : String) : ∃ n : Int,
    (indexOf needle).computed s = some (.int n) ∧
      (indexOf needle).lookup.value s = .int (n + 1) := by
  have value : (indexOf needle).computed s =
      some (Constant.positionOrMinusOne (indexOf? needle.toList s.toList)) := rfl
  rw [value, lookup, Sql.Lookup.value, Sql.locate, ← Sql.indexOf?_eq_findIdx?]
  cases indexOf? needle.toList s.toList with
  | some i => exact ⟨i, rfl, rfl⟩
  | none => exact ⟨-1, rfl, rfl⟩

/-- A method with positions of a member is written as the call that it stands for. -/
theorem parse_lookup (settings : Settings) (c : PositionCall) {source parameter m : String}
    {path : Term} {items : List Term} {env : Environment}
    (closure : Closure.parse source = .ok ⟨parameter, .call (.member path c.method) items⟩)
    (plain : env.handlers.lookup c.method = none)
    (kept : ∀ args, env.resolver.method c.function args = .ok (some (.call c.function args)))
    (member : Scope.expr { env with parameter } path = .ok (.member m))
    (constants : Scope.exprs { env with parameter } items = .ok (c.constants.map .lit)) :
    ∃ e, parse source env = .ok e ∧ Sql.IsLookup settings m e c.lookup := by
  have stands : methodName? c.method = some c.function := by cases c <;> rfl
  have whole : c.method ≠ "substring" := by cases c <;> simp [method]
  have called := parse_called closure plain stands kept member constants
  rw [partArguments_eq whole] at called
  refine ⟨_, called, ?_⟩
  cases c with
  | substr start length =>
    have part := Sql.isLookup_part settings m start length
    cases length <;> exact part
  | indexOf needle => exact Sql.isLookup_locate settings m needle

end PositionCall

/-- **Methods with positions** mean the same on a member as on a constant, for every text, exactly
if they ask for a part that starts at an index from the front, or for no characters. A start from
the end is moved by one like any other, though servers count from the end as well; and a position
that the server finds is one more than that in a constant. -/
theorem positions_kept_iff (settings : Settings) (c : PositionCall) {source parameter m : String}
    {path : Term} {items : List Term} {env : Environment}
    (closure : Closure.parse source = .ok ⟨parameter, .call (.member path c.method) items⟩)
    (plain : env.handlers.lookup c.method = none)
    (kept : ∀ args, env.resolver.method c.function args = .ok (some (.call c.function args)))
    (member : Scope.expr { env with parameter } path = .ok (.member m))
    (constants : Scope.exprs { env with parameter } items = .ok (c.constants.map .lit)) :
    ∃ e, parse source env = .ok e ∧ Sql.IsLookup settings m e c.lookup ∧
      ((∀ s, c.computed s = some (c.lookup.value s)) ↔ c.Kept) ∧
      ∀ needle, c = .indexOf needle → ∀ s, ∃ n : Int,
        c.computed s = some (.int n) ∧ c.lookup.value s = .int (n + 1) := by
  obtain ⟨e, parsed, lookup⟩ := c.parse_lookup settings closure plain kept member constants
  refine ⟨e, parsed, lookup, ?_, ?_⟩
  · cases c with
    | substr start length => exact PositionCall.kept_substr_iff start length
    | indexOf needle =>
      constructor
      · -- on the empty text the one is off by one from the other already
        intro same
        obtain ⟨n, computed, value⟩ := PositionCall.computed_indexOf needle ""
        have next := same ""
        rw [computed, value] at next
        injection next with next
        injection next with next
        omega
      · exact False.elim
  · rintro needle rfl s
    exact PositionCall.computed_indexOf needle s

/-- No bindings, with members and methods as they are. -/
def unbound : Environment where
  resolver := .identity
  bindings := []
  handlers := []

theorem printable_name : Printable (.member (.name "x") "name") :=
  (Printable.name (by decide) (by decide)).member "name"

/-- The first three characters of a member, read, written and computed. -/
theorem initial_kept :
    Closure.parse "x => x.name.substr(0, 3)" =
      .ok ⟨"x", .call (.member (.member (.name "x") "name") "substr")
        [.lit (.int 0), .lit (.int 3)]⟩ ∧
    ∃ e, parse "x => x.name.substr(0, 3)" unbound = .ok e ∧
      Sql.IsLookup .plain "name" e (.part 1 (some 3)) ∧
      ∀ s, (PositionCall.substr 0 (some 3)).computed s =
        some ((Sql.Lookup.part 1 (some 3)).value s) := by
  have indices := List.forall_mem_cons.2 ⟨Printable.int (n := 0) (by decide),
    List.forall_mem_singleton.2 (Printable.int (n := 3) (by decide))⟩
  have closure : Closure.parse "x => x.name.substr(0, 3)" = .ok ⟨"x", _⟩ :=
    (Printable.call (printable_name.member "substr") indices).parse_spelled
      (fun _ h => h) (by decide) (by decide) (by decide +kernel)
  obtain ⟨e, parsed, lookup, same, -⟩ := @positions_kept_iff .plain (.substr 0 (some 3)) _ "x"
    "name" _ _ unbound closure rfl (fun _ => rfl) rfl rfl
  exact ⟨closure, e, parsed, lookup, same.2 (.inl (by decide))⟩

/-- A part from the end and a position in a member, and what they are on a constant. -/
theorem positions_apart :
    (∃ e, parse "x => x.name.substr(-2)" unbound = .ok e ∧
      Sql.IsLookup .plain "name" e (.part (-1) none)) ∧
    Constant.callMethod? (.str "abc") "substr" [.int (-2)] = some (.str "bc") ∧
    (Sql.Lookup.part (-1) none).value "abc" = .str "c" ∧
    (∃ e, parse "x => x.name.indexOf('b')" unbound = .ok e ∧
      Sql.IsLookup .plain "name" e (.locate "b")) ∧
    Constant.callMethod? (.str "abc") "indexOf" [.str "b"] = some (.int 1) ∧
    (Sql.Lookup.locate "b").value "abc" = .int 2 := by
  -- a negative position is a minus sign in front of a numeral
  have index := List.forall_mem_singleton.2
    (Printable.unary .minus (Printable.int (n := 2) (by decide)))
  have part : Closure.parse "x => x.name.substr(-2)" = .ok ⟨"x", _⟩ :=
    (Printable.call (printable_name.member "substr") index).parse_spelled
      (fun _ h => h) (by decide) (by decide) (by decide +kernel)
  have needle := List.forall_mem_singleton.2 (Printable.str "b")
  have position : Closure.parse "x => x.name.indexOf('b')" = .ok ⟨"x", _⟩ :=
    (Printable.call (printable_name.member "indexOf") needle).parse_spelled
      (fun _ h => h) (by decide) (by decide) (by decide +kernel)
  exact ⟨
    (PositionCall.substr (-2) none).parse_lookup .plain part rfl (fun _ => rfl) rfl rfl, rfl, rfl,
    (PositionCall.indexOf "b").parse_lookup .plain position rfl (fun _ => rfl) rfl rfl, rfl, rfl⟩

end Sift.Lambda
