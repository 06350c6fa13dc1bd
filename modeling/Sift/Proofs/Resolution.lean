import Sift.Proofs.Folding
import Sift.Proofs.Steps
import Sift.Resolver

/-!
# What resolvers uphold

Members and calls come from the resolver and from nowhere else. A property of nodes that every
member and every call of a resolver has, and that says nothing about other nodes, is one of all
nodes that are made with the resolver.

* `Resolver.Upholds`: members and calls of a resolver have a property, other nodes have it anyway.
* `Node.Listed`: members that a table maps to, and methods from a list.
* `Resolver.upholds_listed`: a strict table with a list of methods upholds that.
-/

namespace Sift

/-- A property that a resolver upholds: its members and calls have it, if the arguments have,
and so has every node that is neither. -/
structure Resolver.Upholds (r : Resolver) (P : Node → Prop) : Prop where
  lit (v : Json) : P (.expr (.lit v))
  logical (op : Connective) (es : List Expr) : P (.expr (.logical op es))
  compare (l : Expr) (op : Comparison) (e : Expr) : P (.expr (.compare l op e))
  arith (l : Expr) (op : Arith) (e : Expr) : P (.expr (.arith l op e))
  not (e : Expr) : P (.expr (.not e))
  query (q : Query) : P (.query q)
  member {path : String} {e : Expr} (h : r.member path = .ok e) : Everywhere P (.expr e)
  call {name : String} {args : List Expr} {e : Expr} (h : r.call name args = .ok e)
    (inside : ∀ a ∈ args, Everywhere P (.expr a)) : Everywhere P (.expr e)

namespace Resolver.Upholds

variable {r : Resolver} {P : Node → Prop} {d e : Expr}

/-- A constant has what a resolver upholds. -/
theorem everywhere_lit (h : r.Upholds P) (v : Json) : Everywhere P (.expr (.lit v)) :=
  Everywhere.lit_iff.2 (h.lit v)

/-- A comparison has it with its sides; so do the others here with their parts, folded or not. -/
theorem everywhere_compare (h : r.Upholds P) (op : Comparison) (hd : Everywhere P (.expr d))
    (he : Everywhere P (.expr e)) : Everywhere P (.expr (.compare d op e)) :=
  Everywhere.compare_iff.2 ⟨h.compare d op e, hd, he⟩

theorem everywhere_arithmetic (h : r.Upholds P) (op : Arith) (hd : Everywhere P (.expr d))
    (he : Everywhere P (.expr e)) : Everywhere P (.expr (.arithmetic d op e)) :=
  hd.arithmetic h.lit (h.arith d op e) he

theorem everywhere_connect (h : r.Upholds P) (op : Connective) (hd : Everywhere P (.expr d))
    (he : Everywhere P (.expr e)) : Everywhere P (.expr (.connect op d e)) :=
  (Everywhere.connect_iff (fun b => h.lit (.bool b)) (h.logical op)).2 ⟨hd, he⟩

theorem everywhere_negate (h : r.Upholds P) (he : Everywhere P (.expr e)) :
    Everywhere P (.expr (.negate e)) :=
  he.negate (fun b => h.lit (.bool b)) (h.not e)

end Resolver.Upholds

/-! ### Lists of what is allowed -/

/-- Members that a table maps to, methods from a list. Methods are compared in lower case. -/
def Node.Listed (members : List (String × String)) (methods : List String) : Node → Prop
  | .expr (.member path) => ∃ name, members.lookup name = some path
  | .expr (.call name _) => Text.lower name ∈ methods.map Text.lower
  | _ => True

variable {members : List (String × String)} {methods : List String}

/-- A strict table gives only members that it maps to. -/
theorem Resolver.member_of_strict {path : String} {e : Expr}
    (h : (mapped ⟨members, true, some methods⟩).member path = .ok e) :
    ∃ column, members.lookup path = some column ∧ e = .member column := by
  simp only [mapped] at h
  split at h
  · next column hc => exact ⟨column, hc, (Except.ok.inj h).symm⟩
  · cases h

/-- With a list of methods a call keeps its name and arguments, and the name is listed up to case.
-/
theorem Resolver.call_of_listed {name : String} {args : List Expr} {e : Expr}
    (h : (mapped ⟨members, true, some methods⟩).call name args = .ok e) :
    Text.lower name ∈ methods.map Text.lower ∧ e = .call name args := by
  simp only [call, mapped] at h
  split at h
  · next listed =>
    rw [ok_bind] at h
    exact ⟨List.contains_iff_mem.1 listed, (Except.ok.inj h).symm⟩
  · rw [ok_bind] at h
    cases h

/-- **A strict table with a list of methods** upholds both. -/
theorem Resolver.upholds_listed :
    (mapped ⟨members, true, some methods⟩).Upholds (Node.Listed members methods) where
  lit _ := trivial
  logical _ _ := trivial
  compare _ _ _ := trivial
  arith _ _ _ := trivial
  not _ := trivial
  query _ := trivial
  member {path} _ h := by
    obtain ⟨column, mapped, rfl⟩ := member_of_strict h
    exact Everywhere.member_iff.2 ⟨path, mapped⟩
  call h inside := by
    obtain ⟨listed, rfl⟩ := call_of_listed h
    exact Everywhere.call_iff.2 ⟨listed, inside⟩

end Sift
