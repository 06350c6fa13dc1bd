import Mathlib.Data.List.Forall2
import Sift.Proofs.Sql.Reader

/-!
# Predicates without brackets

What operands are read as with operators between them. Operands in brackets are whole, so that only
a few forms occur: one operator, a negation in front of it, and a run of one connective.

* `readPredicate?_binary`: one operator between two operands.
* `readPredicate?_not`: a negation, which reaches to the end.
* `readPredicate?_between`: a run of one connective.
-/

namespace Sift.Sql.Server

variable {t l r : Tree} {o p : Operand} {op : Operator}

/-! ### Operators and negations -/

theorem readComparison?_operand (h : o.tree? = some t) :
    readComparison? [.operand o] = some t := by
  simp [readComparison?, alternate?, reduce?, h]

theorem readComparison?_binary (o p : Operand) (op : Operator) :
    readComparison? [.operand o, .operator op, .operand p] = op.build? o p := by
  -- whatever the level of the operator is, it is the only one there
  cases hb : op.build? o p <;> cases hp : op.isProduct <;> cases hs : op.isSum <;>
    simp [readComparison?, alternate?, reduce?, hb, hp, hs, Operand.tree?]

/-- Without a connective outside of brackets, a predicate is a negation or a comparison. -/
theorem readPredicate?_eq {atoms : List Atom} (h : ∀ x ∈ atoms, ∀ op, x.isConnective op = false) :
    readPredicate? atoms = readNegation? atoms := by
  have conjunction : readConjunction? atoms = readNegation? atoms := by
    rw [readConjunction?, List.splitOnP_eq_singleton fun x hx => h x hx .and]
    cases hn : readNegation? atoms <;> simp [hn, joined]
  rw [readPredicate?, List.splitOnP_eq_singleton fun x hx => h x hx .or, List.mapM_cons,
    conjunction]
  cases hn : readNegation? atoms <;> simp [joined]

theorem readNegation?_operand (h : o.tree? = some t) : readNegation? [.operand o] = some t := by
  rw [readNegation?, readComparison?_operand h]
  exact fun _ he => by cases he

theorem isConnective_binary (hc : ∀ c, op ≠ .connective c) (o p : Operand) (c : Connective) :
    ∀ x ∈ [Atom.operand o, .operator op, .operand p], x.isConnective c = false := by
  have plain : (Atom.operator op).isConnective c = false := by
    cases op with
    | connective c' => exact absurd rfl (hc c')
    | _ => rfl
  refine List.forall_mem_cons.2 ⟨rfl, List.forall_mem_cons.2 ⟨plain, ?_⟩⟩
  exact List.forall_mem_singleton.2 rfl

/-- **Two operands with an operator between them** that is no connective. -/
theorem readPredicate?_binary (hc : ∀ c, op ≠ .connective c) (h : op.build? o p = some t) :
    readPredicate? [.operand o, .operator op, .operand p] = some t := by
  rw [readPredicate?_eq fun x hx c => isConnective_binary hc o p c x hx]
  rw [readNegation?, readComparison?_binary, h]
  exact fun _ he => by cases he

/-- **A negation** reaches over operators that are no connectives. -/
theorem readPredicate?_not {atoms : List Atom} (h : ∀ x ∈ atoms, ∀ c, x.isConnective c = false)
    (ht : readPredicate? atoms = some t) :
    readPredicate? (.operator .not :: atoms) = some (.not t) := by
  have h' : ∀ x ∈ Atom.operator .not :: atoms, ∀ c, x.isConnective c = false :=
    List.forall_mem_cons.2 ⟨fun _ => rfl, h⟩
  rw [readPredicate?_eq h] at ht
  rw [readPredicate?_eq h', readNegation?, ht, Option.map_some]

/-! ### Connectives -/

/-- Operands with a connective between them. -/
def between (c : Connective) : List Operand → List Atom
  | [] => []
  | [o] => [.operand o]
  | o :: p :: os => .operand o :: .operator (.connective c) :: between c (p :: os)

/-- A run of one connective is split into its operands. -/
theorem splitOnP_between (c : Connective) (o : Operand) (os : List Operand) :
    (between c (o :: os)).splitOnP (Atom.isConnective c) =
      (o :: os).map fun o => [Atom.operand o] := by
  induction os generalizing o with
  | nil => exact List.splitOnP_eq_singleton (by simp [between, Atom.isConnective])
  | cons p os ih =>
    have first : ∀ x ∈ [Atom.operand o], x.isConnective c = false := by simp [Atom.isConnective]
    have split := List.splitOnP_append_cons_of_forall_mem first (.operator (.connective c))
      (by simp [Atom.isConnective]) (between c (p :: os))
    exact split.trans (by rw [ih]; rfl)

theorem mapM_eq_some {α β : Type} {f : α → Option β} {xs : List α} {ys : List β}
    (h : List.Forall₂ (fun x y => f x = some y) xs ys) : xs.mapM f = some ys := by
  induction h with
  | nil => rfl
  | cons first _ ih => simp [List.mapM_cons, first, ih]

theorem joined_eq_logical {c : Connective} {ts : List Tree} (h : 2 ≤ ts.length) :
    joined c ts = .logical c ts := by
  rcases ts with - | ⟨t, - | ⟨t', ts⟩⟩
  · cases h
  · simp at h
  · rfl

/-- No other connective stands in the run. -/
theorem isConnective_between {c d : Connective} (hd : d ≠ c) (os : List Operand) :
    ∀ x ∈ between c os, x.isConnective d = false := by
  intro x hx
  fun_induction between c os with
  | case1 => cases hx
  | case2 o => rw [List.mem_singleton.1 hx]; rfl
  | case3 o p os ih =>
    rcases List.mem_cons.1 hx with rfl | hx
    · rfl
    rcases List.mem_cons.1 hx with rfl | hx
    · exact decide_eq_false hd
    · exact ih hx

/-- **A run of one connective** is one node. -/
theorem readPredicate?_between {c : Connective} {os : List Operand} {ts : List Tree}
    (hlen : 2 ≤ ts.length) (h : List.Forall₂ (fun o t => o.tree? = some t) os ts) :
    readPredicate? (between c os) = some (.logical c ts) := by
  obtain ⟨o, os, rfl⟩ : ∃ o os', os = o :: os' := by
    cases h with
    | nil => cases hlen
    | cons => exact ⟨_, _, rfl⟩
  have parts := splitOnP_between c o os
  have each : ((o :: os).map fun o => [Atom.operand o]).mapM readNegation? = some ts := by
    rw [List.mapM_map]
    exact mapM_eq_some (h.imp fun o t ht => readNegation?_operand ht)
  -- under `OR` each operand is a run of `AND` of its own; a run of `AND` is the one operand of `OR`
  cases c with
  | and =>
    have conjunction : readConjunction? (between .and (o :: os)) = some (.logical .and ts) := by
      rw [readConjunction?, parts, each, ← joined_eq_logical hlen]
      rfl
    have whole := List.splitOnP_eq_singleton
      (isConnective_between (show Connective.or ≠ .and by decide) (o :: os))
    rw [readPredicate?, whole, List.mapM_cons, conjunction]
    rfl
  | or =>
    have alone (o : Operand) (t : Tree) (ht : o.tree? = some t) :
        readConjunction? [.operand o] = some t := by
      rw [readConjunction?, List.splitOnP_eq_singleton (by simp [Atom.isConnective]),
        List.mapM_cons, readNegation?_operand ht]
      rfl
    have each : ((o :: os).map fun o => [Atom.operand o]).mapM readConjunction? = some ts := by
      rw [List.mapM_map]
      exact mapM_eq_some (h.imp alone)
    rw [readPredicate?, parts, each, ← joined_eq_logical hlen]
    rfl

end Sift.Sql.Server
