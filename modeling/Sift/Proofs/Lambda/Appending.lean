import Mathlib
import Sift.Proofs.Lambda.Closures
import Sift.Proofs.Lambda.Meaning

/-!
# Numbers behind texts

A closure can put a constant number behind a constant text in four ways. All of them are computed
while the closure is read, and give the text and the digits of the number, as far as the number is
no larger than the greatest signed integer of 64 bits. Beyond it only the sum has the digits of the
number; the others have those of the greatest signed integer.

* `Appending`, `Appending.term`: the four ways, and their terms.
* `intText_eq_toString`: integers are written in decimal digits.
* `Appending.expr_term`: what each of them is computed to.
* `appended_iff`: where that is the text with the digits of the number.
-/

namespace Sift.Lambda

open Number Text

/-- The ways to put a number behind a text: a sum, a concatenation, a list joined without a
separator, and a sum with the number as a text. -/
inductive Appending where
  | sum
  | concat
  | join
  | converted
  deriving DecidableEq

namespace Appending

/-- The term of a text and a number. -/
def term (text number : Term) : Appending → Term
  | sum => .binary .add text number
  | concat => .call (.member text "concat") [number]
  | join => .call (.member (.array [text, number]) "join") [.lit (.str "")]
  | converted => .binary .add text (.call (.name "String") [number])

/-- Each of the four ways has a text, if its parts have. -/
theorem printable {x y : Term} (hx : Printable x) (hy : Printable y) :
    (a : Appending) → Printable (a.term x y)
  | sum => .binary .add hx hy
  | concat => .call (.member hx "concat") (List.forall_mem_singleton.2 hy)
  | join =>
    .call (.member (.array (List.forall_mem_cons.2 ⟨hx, List.forall_mem_singleton.2 hy⟩)) "join")
      (List.forall_mem_singleton.2 (.str ""))
  | converted =>
    .binary .add hx (.call (.name (by decide) (by decide)) (List.forall_mem_singleton.2 hy))

/-- The integer that is written for a number: calls write none above the greatest signed one. -/
def written (n : Int) : Appending → Int
  | sum => n
  | _ => min n 0x7FFFFFFFFFFFFFFF

/-- The functions and methods that are called. -/
def called : List String := ["concat", "join", "String"]

end Appending

/-- Integers are written in decimal digits, with a minus in front of negative ones. -/
theorem intText_eq_toString (n : Int) : intText n = toString n := by
  cases n with
  | ofNat m =>
    have natural : ¬ Int.ofNat m < 0 := Int.not_lt.2 (Int.natCast_nonneg m)
    rw [intText, if_neg natural]
    rfl
  | negSucc m =>
    rw [intText, if_pos (Int.negSucc_lt_zero m)]
    rfl

section

variable {scope : Scope} {x y : Term} {s t : String} {n : Int}

/-- The sum of two texts is the one behind the other. -/
theorem expr_text_sum (left : scope.expr x = .ok (.lit (.str s)))
    (right : scope.expr y = .ok (.lit (.str t))) :
    scope.expr (.binary .add x y) = .ok (.lit (.str (s ++ t))) := by
  rw [Scope.expr_binary .add left right]
  rfl

variable (text : scope.expr x = .ok (.lit (.str s))) (number : scope.expr y = .ok (.lit (.int n)))
  (plain : ∀ name ∈ Appending.called, scope.handlers.lookup name = none)

include text number plain

/-- **A number behind a text** is computed, however it is put there. -/
theorem Appending.expr_term (a : Appending) :
    scope.expr (a.term x y) = .ok (.lit (.str (s ++ toString (a.written n)))) := by
  have shown : Constant.textOf (.int n) = toString (min n 0x7FFFFFFFFFFFFFFF) := by
    rw [Constant.textOf, intText_eq_toString]
  have numbers : scope.exprs [y] = .ok [.lit (.int n)] := Scope.exprs_cons number rfl
  -- all forms but the sum convert the number to a text first, and that is where it is bounded
  cases a with
  | sum =>
    rw [term, Scope.expr_binary .add text number, written, ← intText_eq_toString]
    rfl
  | concat =>
    have computed : Constant.callMethod? (.str s) "concat" [.int n] =
        some (.str (s ++ Constant.textOf (.int n))) := rfl
    rw [term, Scope.expr_method "concat" text numbers,
      Scope.callMethod_constant (plain _ (by decide)) rfl computed, shown]
    rfl
  | join =>
    have items : scope.expr (.array [x, y]) = .ok (.lit (.arr [.str s, .int n])) :=
      Scope.expr_array (Scope.constants_cons text (Scope.constants_cons number rfl))
    have separator : scope.exprs [.lit (.str "")] = .ok [.lit (.str "")] :=
      Scope.exprs_cons rfl rfl
    have computed : Constant.callMethod? (.arr [.str s, .int n]) "join" [.str ""] =
        some (.str (Constant.textOf (.str s) ++ "" ++ Constant.textOf (.int n))) := rfl
    rw [term, Scope.expr_method "join" items separator,
      Scope.callMethod_constant (plain _ (by decide)) rfl computed, shown, Constant.textOf,
      String.append_empty]
    rfl
  | converted =>
    have digits : scope.expr (.call (.name "String") [y]) =
        .ok (.lit (.str (Constant.textOf (.int n)))) := by
      rw [Scope.expr_function "String" numbers, Scope.callFunction, plain _ (by decide)]
      rfl
    rw [term, expr_text_sum text digits, shown]
    rfl

end

/-- **A number behind a text** is a text in every closure that puts it there, and which text depends
on the way only above the greatest signed integer of 64 bits. It is the text with the digits of the
number exactly for a sum, or up to that integer, and has the digits of that integer otherwise. -/
theorem appended_iff (a : Appending) {source parameter : String} {x y : Term} {env : Environment}
    {s : String} {n : Int} (closure : Closure.parse source = .ok ⟨parameter, a.term x y⟩)
    (plain : ∀ name ∈ Appending.called, env.handlers.lookup name = none)
    (text : Scope.expr { env with parameter } x = .ok (.lit (.str s)))
    (number : Scope.expr { env with parameter } y = .ok (.lit (.int n))) :
    (parse source env = .ok (.lit (.str (s ++ toString n))) ↔
      a = .sum ∨ n ≤ 0x7FFFFFFFFFFFFFFF) ∧
    (a ≠ .sum → 0x7FFFFFFFFFFFFFFF ≤ n →
      parse source env = .ok (.lit (.str (s ++ "9223372036854775807")))) := by
  have computed : parse source env = .ok (.lit (.str (s ++ toString (a.written n)))) := by
    rw [parse_eq closure]
    exact a.expr_term text number plain
  have least (other : a ≠ .sum) : a.written n = min n 0x7FFFFFFFFFFFFFFF := by
    cases a with
    | sum => exact absurd rfl other
    | _ => rfl
  rw [computed]
  constructor
  · constructor
    · intro same
      -- the texts agree just where the numbers are written with the same digits
      have digits : toString (a.written n) = toString n := by
        injection same with same
        injection same with same
        injection same with same
        exact (String.append_right_inj s).1 same
      have exact : a.written n = n := Int.repr_injective digits
      by_cases sum : a = .sum
      · exact .inl sum
      · exact .inr (min_eq_left_iff.1 ((least sum).symm.trans exact))
    · rintro (rfl | small)
      · rfl
      · by_cases sum : a = .sum
        · rw [sum, Appending.written]
        · rw [least sum, min_eq_left small]
  · intro other large
    rw [least other, min_eq_right large]
    rfl

/-- A text and a number, the least one above the greatest signed integer of 64 bits. -/
def numbered : Environment where
  resolver := .identity
  bindings := [("s", .str "no. "), ("n", .int 0x8000000000000000)]
  handlers := []

/-- Any text with the words of one of the four ways is read as its term. -/
theorem numbered_read (a : Appending) (source : String)
    (spelled : vocabulary.spells
      (.name "x" :: .punct "=>" :: (a.term (.name "s") (.name "n")).words isName)
      source.toList = true) :
    Closure.parse source = .ok ⟨"x", a.term (.name "s") (.name "n")⟩ :=
  have printable := a.printable (.name (by decide) (by decide)) (.name (by decide) (by decide))
  printable.parse_spelled (fun _ h => h) (by decide) (by decide) spelled

/-- Joining a list loses the digits of a number above the signed range. -/
theorem numbered_joined :
    Closure.parse "x => [s, n].join('')" =
      .ok ⟨"x", Appending.join.term (.name "s") (.name "n")⟩ ∧
    parse "x => [s, n].join('')" numbered = .ok (.lit (.str "no. 9223372036854775807")) := by
  have closure := numbered_read .join "x => [s, n].join('')" (by decide +kernel)
  have plain : ∀ name ∈ Appending.called, numbered.handlers.lookup name = none := fun _ _ => rfl
  exact ⟨closure, (appended_iff .join closure plain rfl rfl).2 (by decide) (by decide)⟩

/-- A number above the greatest signed integer is cut in a concatenation and not in a sum. -/
theorem numbered_otherwise :
    parse "x => s + n" numbered = .ok (.lit (.str "no. 9223372036854775808")) ∧
    parse "x => s.concat(n)" numbered = .ok (.lit (.str "no. 9223372036854775807")) := by
  have plain : ∀ name ∈ Appending.called, numbered.handlers.lookup name = none := fun _ _ => rfl
  have sum := numbered_read .sum "x => s + n" (by decide +kernel)
  have concat := numbered_read .concat "x => s.concat(n)" (by decide +kernel)
  have number : Scope.expr { numbered with parameter := "x" } (.name "n") =
      .ok (.lit (.int 0x8000000000000000)) := rfl
  rw [parse_eq sum, parse_eq concat, Appending.expr_term rfl number plain .sum,
    Appending.expr_term rfl number plain .concat]
  exact ⟨rfl, rfl⟩

end Sift.Lambda
