import Sift.Proofs.Notation.Closures
import Sift.Proofs.Notation.Filters

/-!
# Filters and closures agree

What can be written in both notations means the same in both.

* `front_ends_agree`: a tree is read as one expression from both of its texts.
-/

namespace Sift.Notation

open Sift.Notation.Tree

/-- **Both notations agree** on the trees that they share. Whatever blanks stand around the words, a
tree written as a filter and the same tree written as the body of a closure are both read, and are
read as one expression: constants, signs and escapes come out alike, calls get the names of filters,
and both are folded in the same way. -/
theorem front_ends_agree {t : Tree} (h : t.Shared) {filter closure : String}
    (hf : Filter.vocabulary.spells t.filterWords filter.toList = true)
    (hc : Lambda.vocabulary.spells (.name "x" :: .punct "=>" :: t.closureWords)
      closure.toList = true) :
    Filter.parse filter .identity = .ok t.expr ∧
      Lambda.parse closure ⟨.identity, [], []⟩ = .ok t.expr :=
  ⟨h.parse_filter hf, h.parse_closure hc⟩

/-- A choice of a product above a folded constant and a negated test of a text. -/
def product : Tree :=
  .connect .or
    (.compare .gt (.arith .mul (.member "item" ["price"]) (.int 2))
      (.arith .sub (.int 3) (.int (-4))))
    (.not (.call .startsWith (.call .toLowerCase (.member "name" []) []) [.str "o'x"]))

theorem product_agrees :
    Filter.parse "(((item/price mul 2) gt (3 sub -4)) or (not startswith(tolower(name), 'o''x')))"
        .identity = .ok product.expr ∧
      Lambda.parse
        "x => (((x.item.price * 2) > (3 - (-4))) || (!x.name.toLowerCase().startsWith('o\\'x')))"
        ⟨.identity, [], []⟩ = .ok product.expr := by
  -- every subtree is shared, from the leaves up
  have price : Shared (.member "item" ["price"]) := .member <| by
    rw [List.forall_mem_cons, List.forall_mem_singleton]
    exact ⟨by decide, by decide⟩
  have name : Shared (.member "name" []) :=
    .member (List.forall_mem_singleton.2 (by decide))
  have above : Shared (.compare .gt (.arith .mul (.member "item" ["price"]) (.int 2))
      (.arith .sub (.int 3) (.int (-4)))) :=
    .compare .gt (.arith .mul price (.int (by decide)))
      (.arith .sub (.int (by decide)) (.int (by decide))) rfl
  have lower : Shared (.call .toLowerCase (.member "name" []) []) :=
    .call .toLowerCase name (by simp) rfl
  have test : Shared (.call .startsWith (.call .toLowerCase (.member "name" []) []) [.str "o'x"]) :=
    .call .startsWith lower (List.forall_mem_singleton.2 (.str _)) rfl
  have shared : Shared product := .connect .or above (.not test)
  exact front_ends_agree shared (by decide +kernel) (by decide +kernel)

end Sift.Notation
