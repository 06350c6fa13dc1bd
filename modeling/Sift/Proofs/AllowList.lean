import Mathlib
import Sift.Proofs.Filter.Resolved
import Sift.Proofs.Lambda.Resolved

/-!
# Lists of what may be asked

A strict table of members with a list of methods decides what a request can reach: no text, in
either notation, gives a tree with another member or another method anywhere in it.

* `Produced`: the trees that texts give with a resolver, in every notation.
* `Produced.everywhere`: what a resolver upholds holds at every node of them.
* `produced_listed`: with a strict table and a list, members and methods are from these.
-/

namespace Sift

/-- Trees that texts give with a resolver: filters, the items of selections, orderings and
groupings, queries of options, and closures without custom translations. -/
inductive Produced (r : Resolver) : Node → Prop where
  | filter {source : String} {e : Expr} (h : Filter.parse source r = .ok e) : Produced r (.expr e)
  | selection {source : String} {fields : List Field}
      (h : Filter.parseSelection source r = .ok fields) {f : Field} (hf : f ∈ fields) :
      Produced r (.expr f.expr)
  | ordering {source : String} {orders : List Order}
      (h : Filter.parseOrdering source r = .ok orders) {o : Order} (ho : o ∈ orders) :
      Produced r (.expr o.expr)
  | grouping {source : String} {fields : List Field}
      (h : Filter.parseGrouping source r = .ok fields) {f : Field} (hf : f ∈ fields) :
      Produced r (.expr f.expr)
  | options {o : Filter.Options} {entity : String} {q : Query} (h : o.query entity r = .ok q) :
      Produced r (.query q)
  | closure {source : String} {bindings : List (String × Json)} {e : Expr}
      (h : Lambda.parse source ⟨r, bindings, []⟩ = .ok e) : Produced r (.expr e)

/-- **What a resolver upholds** holds at every node of the trees that texts give with it. -/
theorem Produced.everywhere {r : Resolver} {P : Node → Prop} (upholds : r.Upholds P) {n : Node}
    (hn : Produced r n) : Everywhere P n := by
  cases hn with
  | filter h => exact Filter.parse_everywhere upholds h
  | selection h hf => exact Filter.parseSelection_everywhere upholds h _ hf
  | ordering h ho => exact Filter.parseOrdering_everywhere upholds h _ ho
  | grouping h hf => exact Filter.parseGrouping_everywhere upholds h _ hf
  | options h => exact Filter.Options.query_everywhere upholds h
  | closure h => exact Lambda.parse_everywhere upholds h

/-- **A strict table with a list of methods is complete**: every member anywhere in a tree that a
text gives is one that the table maps to, and every call has a method from the list. -/
theorem produced_listed {members : List (String × String)} {methods : List String} {n : Node}
    (h : Produced (.mapped ⟨members, true, some methods⟩) n) :
    Everywhere (Node.Listed members methods) n :=
  h.everywhere Resolver.upholds_listed

/-- A listed method may be written in other letter case, and keeps it. -/
theorem produced_listed_of_year :
    Produced (.mapped ⟨[("made", "made_at")], true, some ["year"]⟩)
        (.expr (.compare (.call "Year" [.member "made_at"]) .eq (.lit (.int 2020)))) ∧
      Everywhere (Node.Listed [("made", "made_at")] ["year"])
        (.expr (.compare (.call "Year" [.member "made_at"]) .eq (.lit (.int 2020)))) := by
  have read : Filter.parse "Year(made) eq 2020"
      (.mapped ⟨[("made", "made_at")], true, some ["year"]⟩) =
      .ok (.compare (.call "Year" [.member "made_at"]) .eq (.lit (.int 2020))) := by cbv
  exact ⟨.filter read, produced_listed (.filter read)⟩

end Sift
