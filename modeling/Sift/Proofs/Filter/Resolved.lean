import Sift.Filter.Options
import Sift.Proofs.Filter.Completeness
import Sift.Proofs.Resolution

/-!
# What filters and their kin are made of

Expressions of filters, selections, orderings and groupings are made with a resolver, and so is a
query of options. What the resolver upholds holds at every node of them.

* `Derives.everywhere`: one phrase.
* `ReadsSequence`: the items of a list, one after another.
* `parse_everywhere`, `parseSelection_everywhere` and their kin: what a text gives.
* `Options.query_everywhere`: the query of options.
-/

namespace Sift.Filter

variable {r : Resolver} {P : Node → Prop}

/-! ### Expressions -/

/-- Turning a comparison around makes no other node than a comparison of the same sides. -/
theorem everywhere_compareFacing (h : r.Upholds P) (op : Comparison) {d e : Expr}
    (hd : Everywhere P (.expr d)) (he : Everywhere P (.expr e)) :
    Everywhere P (.expr (compareFacing op d e)) := by
  unfold compareFacing
  split
  · split
    · exact h.everywhere_compare _ he hd
    · exact h.everywhere_compare op hd he
  · exact h.everywhere_compare op hd he

/-- What an operator builds has what a resolver upholds, if its operands do. -/
theorem Operator.everywhere_apply (h : r.Upholds P) (op : Operator) {d e : Expr}
    (hd : Everywhere P (.expr d)) (he : Everywhere P (.expr e)) :
    Everywhere P (.expr (op.apply (.expr r) d e)) := by
  cases op with
  | connective op => exact h.everywhere_connect op hd he
  | arith op => exact h.everywhere_arithmetic op hd he

/-- **The expression of a phrase** has at every node what the resolver upholds. -/
theorem Derives.everywhere (h : r.Upholds P) {p : Phrase} {ts : List Token} {e : Expr}
    (he : Derives (.expr r) p ts e) : Everywhere P (.expr e) := by
  induction he with
  | operand _ ih => exact ih
  | @joined _ _ _ _ _ _ op _ _ _ ihl ihr => exact op.everywhere_apply h ihl ihr
  | not _ ih => exact h.everywhere_negate ih
  | comparison _ ih => exact ih
  | sum _ ih => exact ih
  | compared _ _ _ ihl ihr => exact everywhere_compareFacing h _ ihl ihr
  | literal l => exact h.everywhere_lit l.toJson
  | parentheses _ ih => exact ih
  | call _ _ hx ih =>
    refine h.call hx fun a ha => ?_
    obtain ⟨b, hb, rfl⟩ := List.mem_map.1 ha
    exact ih b hb
  | path _ _ hx => exact h.member hx

/-- So has every expression of a filter text. -/
theorem parse_everywhere (h : r.Upholds P) {source : String} {e : Expr}
    (he : parse source r = .ok e) : Everywhere P (.expr e) := by
  obtain ⟨ts, -, he⟩ := bind_eq_ok.1 he
  exact (parseTokens_eq_ok_iff.1 he).everywhere h

/-- So has every expression at the front of a list of tokens. -/
theorem readExpr_everywhere (h : r.Upholds P) {ts : List Token} {e : Read Expr ts}
    (he : readExpr (.expr r) ts = .ok e) : Everywhere P (.expr e.value) := by
  obtain ⟨us, -, derives⟩ := sound (.run .disjunction) ts e he
  exact derives.everywhere h

/-! ### Lists -/

section Sequences

variable {β : Type} {Q : β → Prop} {item : ItemReader β}

/-- A list that was read, item by item: a comma behind each one but the last, and nothing behind
that. -/
inductive ReadsSequence (item : ItemReader β) : List Token → List β → Prop where
  | last {ts : List Token} {x : Read β ts} (first : item ts = .ok x) (done : x.rest = []) :
      ReadsSequence item ts [x.value]
  | more {ts rest : List Token} {x : Read β ts} {xs : List β} (first : item ts = .ok x)
      (comma : x.rest = .sign .comma :: rest) (others : ReadsSequence item rest xs) :
      ReadsSequence item ts (x.value :: xs)

/-- A list that is read is read item by item. -/
theorem readsSequence_of_readSequence {ts : List Token} {xs : List β}
    (h : readSequence item ts = .ok xs) : ReadsSequence item ts xs := by
  -- on the length: an item leaves less than it is given
  induction size : ts.length using Nat.strongRecOn generalizing ts xs with
  | ind n ih =>
    rw [readSequence] at h
    obtain ⟨x, first, h⟩ := bind_eq_ok.1 h
    split at h
    · next rest comma =>
      obtain ⟨others, read, h⟩ := bind_eq_ok.1 h
      cases h
      have shorter : rest.length < n := size ▸ x.length_lt comma
      exact .more first comma (ih rest.length shorter read rfl)
    · obtain ⟨_, done, h⟩ := bind_eq_ok.1 h
      cases h
      exact .last first (expectEnd_eq_ok_iff.1 done)

/-- Items of a sequence are what the reader of one item gives. -/
theorem ReadsSequence.all (each : ∀ ts x, item ts = .ok x → Q x.value) {ts : List Token}
    {xs : List β} (h : ReadsSequence item ts xs) : ∀ x ∈ xs, Q x := by
  induction h with
  | last first => exact List.forall_mem_singleton.2 (each _ _ first)
  | more first _ _ ih => exact List.forall_mem_cons.2 ⟨each _ _ first, ih⟩

/-- A text with tokens is read as a list of them. -/
theorem parseSequence_eq {source : String} {ts : List Token} (tokens : tokenize source = .ok ts)
    (nonempty : ts ≠ []) : parseSequence item source = readSequence item ts := by
  rw [parseSequence, tokens]
  cases ts with
  | nil => exact absurd rfl nonempty
  | cons t ts => rfl

/-- What all items of a kind have, all items of a text have. -/
theorem parseSequence_all (each : ∀ ts x, item ts = .ok x → Q x.value) {source : String}
    {xs : List β} (h : parseSequence item source = .ok xs) : ∀ x ∈ xs, Q x := by
  obtain ⟨ts, -, h⟩ := bind_eq_ok.1 h
  split at h
  · cases h
    simp
  · exact (readsSequence_of_readSequence h).all each

end Sequences

/-- The fields of a selection have what the resolver upholds; so have orderings and groupings. -/
theorem parseSelection_everywhere (h : r.Upholds P) {source : String} {fields : List Field}
    (hf : parseSelection source r = .ok fields) : ∀ f ∈ fields, Everywhere P (.expr f.expr) := by
  refine parseSequence_all (fun ts f hf => ?_) hf
  obtain ⟨e, he, hf⟩ := bind_eq_ok.1 hf
  split at hf
  · cases hf; exact readExpr_everywhere h he
  · cases hf
  · cases hf; exact readExpr_everywhere h he

theorem parseOrdering_everywhere (h : r.Upholds P) {source : String} {orders : List Order}
    (ho : parseOrdering source r = .ok orders) : ∀ o ∈ orders, Everywhere P (.expr o.expr) := by
  refine parseSequence_all (fun ts o ho => ?_) ho
  obtain ⟨e, he, ho⟩ := bind_eq_ok.1 ho
  split at ho <;> cases ho <;> exact readExpr_everywhere h he

theorem parseGrouping_everywhere (h : r.Upholds P) {source : String} {fields : List Field}
    (hf : parseGrouping source r = .ok fields) : ∀ f ∈ fields, Everywhere P (.expr f.expr) := by
  refine parseSequence_all (fun ts f hf => ?_) hf
  obtain ⟨e, he, hf⟩ := bind_eq_ok.1 hf
  cases hf
  exact readExpr_everywhere h he

/-! ### Options -/

/-- An option that is not given has no items, and those of one that is given have what all such
items have. -/
theorem Options.parsed?_all {β : Type} {Q : β → Prop} {option : Option String}
    {parse : String → Resolver → Except Error (List β)}
    (each : ∀ source xs, parse source r = .ok xs → ∀ x ∈ xs, Q x) {xs : List β}
    (h : parsed? option parse r = .ok xs) : ∀ x ∈ xs, Q x := by
  unfold parsed? at h
  split at h
  · exact each _ xs h
  · cases h
    simp

/-- A query of options is a select query of what the options yield. -/
theorem Options.query_eq_ok {o : Options} {entity : String} {q : Query}
    (h : o.query entity r = .ok q) :
    ∃ selection filter grouping ordering, parsed? o.select parseSelection r = .ok selection ∧
      (∀ e, filter = some e → ∃ text, parse text r = .ok e) ∧
      parsed? o.groupBy parseGrouping r = .ok grouping ∧
      parsed? o.orderBy parseOrdering r = .ok ordering ∧
      q = { Query.empty with
        collection := some entity, select := some selection, filter := filter, group := grouping,
        order := ordering, skip := o.skip, take := o.top } := by
  unfold query at h
  obtain ⟨selection, hs, h⟩ := bind_eq_ok.1 h
  dsimp only at h
  -- the filter is the one option that is kept as an expression, if it is given at all
  split at h
  · next text _ =>
    obtain ⟨e, he, h⟩ := bind_eq_ok.1 h
    rw [pure_eq_ok, ok_bind] at h
    obtain ⟨grouping, hg, h⟩ := bind_eq_ok.1 h
    obtain ⟨ordering, ho, h⟩ := bind_eq_ok.1 h
    cases h
    refine ⟨selection, some e, grouping, ordering, hs, fun d hd => ?_, hg, ho, rfl⟩
    cases hd
    exact ⟨text, he⟩
  · rw [pure_eq_ok, ok_bind] at h
    obtain ⟨grouping, hg, h⟩ := bind_eq_ok.1 h
    obtain ⟨ordering, ho, h⟩ := bind_eq_ok.1 h
    cases h
    exact ⟨selection, none, grouping, ordering, hs, by simp, hg, ho, rfl⟩

/-- **The query of options** has at every node what the resolver upholds. -/
theorem Options.query_everywhere (h : r.Upholds P) {o : Options} {entity : String} {q : Query}
    (hq : o.query entity r = .ok q) : Everywhere P (.query q) := by
  obtain ⟨selection, filter, grouping, ordering, hs, hf, hg, ho, rfl⟩ := query_eq_ok hq
  have selected := parsed?_all (fun _ _ => parseSelection_everywhere h) hs
  have grouped := parsed?_all (fun _ _ => parseGrouping_everywhere h) hg
  have ordered := parsed?_all (fun _ _ => parseOrdering_everywhere h) ho
  refine Everywhere.query_iff.2 ⟨h.query _, fun e he => ?_, fun p hp => by cases hp⟩
  simp [Query.exprs, Query.fields, Query.empty] at he
  rcases he with ⟨f, hf, rfl⟩ | ⟨f, hf, rfl⟩ | he | ⟨o, ho, rfl⟩
  · exact selected f hf
  · exact grouped f hf
  · obtain ⟨text, he⟩ := hf e he
    exact parse_everywhere h he
  · exact ordered o ho

end Sift.Filter
