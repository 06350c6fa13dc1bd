import Sift.Proofs.Object.Queries

/-!
# Written objects read back

Every tree that is safe everywhere reads back from the object that is written for it, at any depth
of expressions in queries in expressions. A field reads back exactly if it is safe itself.

* `objects_read_back`: expressions, queries and fields.
-/

namespace Sift

/-- A node reads back from what is written for it. -/
def Node.ReadsBack : Node → Prop
  | .expr e => Expr.ofJson e.toJson = .ok e
  | .query q => Query.ofJson q.toJson = .ok q

theorem Query.isQueryObject_clauses {q : Query} (h : (Expr.subquery q).JsonSafe) :
    isQueryObject (present q.clauses) = true := by
  rw [isQueryObject_iff]
  rcases h with h | h | h | h | h
  · obtain ⟨c, hc⟩ := Option.isSome_iff_exists.1 h
    exact ⟨"collection", by decide, .str c, mem_present.2 (by simp [clauses, hc])⟩
  · obtain ⟨fs, hfs⟩ := Option.isSome_iff_exists.1 h
    exact ⟨"select", by decide, .arr (encodeFields fs), mem_present.2
      (by simp [clauses, hfs, encodeSelection?])⟩
  · obtain ⟨v, hv⟩ := Option.isSome_iff_exists.1 h
    exact ⟨"insert", by decide, .obj v, mem_present.2 (by simp [clauses, hv])⟩
  · obtain ⟨v, hv⟩ := Option.isSome_iff_exists.1 h
    exact ⟨"update", by decide, .obj v, mem_present.2 (by simp [clauses, hv])⟩
  · exact ⟨"delete", by decide, .bool true, mem_present.2 (by simp [clauses, h, flag])⟩

theorem decodeObject_query {fields : List (String × Json)} (h : isQueryObject fields = true) :
    decodeObject fields = do return .subquery (← decodeClauses [] .empty fields) := by
  unfold decodeObject
  rw [if_pos h]

theorem Expr.ofJson_subquery {q : Query} (h : (Expr.subquery q).JsonSafe)
    (ih : Query.ofJson q.toJson = .ok q) :
    Expr.ofJson (Expr.subquery q).toJson = .ok (.subquery q) := by
  rw [Query.toJson_eq, Query.ofJson_obj] at ih
  rw [Expr.toJson, Query.toJson_eq, Expr.ofJson, decodeObject_query (Query.isQueryObject_clauses h),
    ih]
  rfl

/-- A set is written as one. -/
theorem Expr.isSet_toJson {e : Expr} (he : e.JsonSafe) (h : e.isSetOperand = true) :
    isSet e.toJson = true := by
  unfold isSetOperand at h
  split at h
  · rw [toJson]; rfl
  · next q =>
    rw [toJson, Query.toJson_eq]
    exact Query.isQueryObject_clauses he
  · cases h

section

variable {l r : Expr} {op : Comparison}

/-- A comparison reads back where its sides and their parts do. -/
theorem Expr.ofJson_compare_of_safe (here : (Expr.compare l op r).JsonSafe) (safeL : l.JsonSafe)
    (safeR : r.JsonSafe) (hl : ofJson l.toJson = .ok l) (hr : ofJson r.toJson = .ok r)
    (parts : ∀ e ∈ l.parts, ofJson e.toJson = .ok e) :
    ofJson (Expr.compare l op r).toJson = .ok (.compare l op r) := by
  cases hk : l.keyMember? with
  | none => exact ofJson_compare op hk hl hr
  | some path =>
    obtain ⟨hkey, hcallee, hop⟩ := here path hk
    have hset : op = .isIn ∨ op = .notIn → isSet r.toJson = true := fun h =>
      isSet_toJson safeR (hop h)
    -- the left side is a member, or a call or an operation on one, written under its path
    unfold keyMember? at hk
    split at hk <;> cases hk
    · exact ofJson_compare_member hkey hr hset
    · next name args =>
      exact ofJson_compare_call hkey hr hset safeL (hcallee name _ rfl) fun e he =>
        parts e (List.mem_cons_of_mem _ he)
    · next a operand =>
      exact ofJson_compare_arith hkey hr hset a (parts operand (by simp [Expr.parts]))

end

/-- An expression reads back where its parts, and theirs, do. -/
theorem Expr.ofJson_of_parts {e : Expr} (here : e.JsonSafe)
    (safe : ∀ d ∈ e.parts, d.JsonSafe) (ih : ∀ d ∈ e.parts, ofJson d.toJson = .ok d)
    (deep : ∀ d ∈ e.parts, ∀ c ∈ d.parts, ofJson c.toJson = .ok c)
    (sub : ∀ q, e = .subquery q → Query.ofJson q.toJson = .ok q) :
    ofJson e.toJson = .ok e := by
  cases e with
  | lit v => rw [toJson]; exact ofJson_lit here
  | member path => exact ofJson_member path
  | logical op es => exact ofJson_logical op ih
  | compare l op r =>
    have hl : l ∈ (Expr.compare l op r).parts := List.mem_cons_self
    have hr : r ∈ (Expr.compare l op r).parts := List.mem_cons_of_mem l List.mem_cons_self
    exact ofJson_compare_of_safe here (safe l hl) (safe r hr) (ih l hl) (ih r hr) (deep l hl)
  | arith l op r => exact ofJson_arith op (ih l (by simp [parts])) (ih r (by simp [parts]))
  | call name args => exact ofJson_call here ih
  | not e => exact ofJson_not (ih e (by simp [parts]))
  | subquery q => exact ofJson_subquery here (sub q rfl)

/-- A query reads back where its parts do. -/
theorem Query.ofJson_of_parts {q : Query} (here : q.JsonSafe) (safe : ∀ e ∈ q.exprs, e.JsonSafe)
    (ih : ∀ e ∈ q.exprs, Expr.ofJson e.toJson = .ok e)
    (targets : ∀ p ∈ q.targets, ofJson p.toJson = .ok p) : ofJson q.toJson = .ok q := by
  rw [toJson_eq, ofJson_obj]
  refine decodeClauses_clauses (fun f hf => ?_) (fun e he => ?_) (fun e he => ?_) (fun o ho => ?_)
    fun j hj => ?_
  · have hmem := field_mem_exprs hf
    exact Field.ofJson_toJson (here.fields f hf) (safe _ hmem) (ih _ hmem)
  · exact ⟨fun h => here.filter (h ▸ he), ih e (filter_mem_exprs he)⟩
  · exact ⟨fun h => here.prepared (h ▸ he), ih e (prepared_mem_exprs he)⟩
  · exact ih _ (order_mem_exprs ho)
  · exact Join.ofJson_toJson (fun p hp => targets p (query_mem_targets hj hp))
      fun c e hc he => ih e (predicate_mem_exprs hj (by rw [hc]; exact he))

theorem Expr.mem_parts_node {d e : Expr} (h : d ∈ e.parts) : Node.expr d ∈ (Node.expr e).parts := by
  cases e <;> first
    | exact List.mem_map_of_mem h
    | exact absurd h List.not_mem_nil

/-- A node reads back where its parts, and theirs, do. -/
theorem Node.readsBack_of_parts {n : Node} (here : n.JsonSafe)
    (safe : ∀ m ∈ n.parts, m.JsonSafe) (ih : ∀ m ∈ n.parts, m.ReadsBack)
    (deep : ∀ m ∈ n.parts, ∀ k ∈ m.parts, k.ReadsBack) : n.ReadsBack := by
  cases n with
  | expr e =>
    refine Expr.ofJson_of_parts here (fun d hd => safe _ (Expr.mem_parts_node hd))
      (fun d hd => ih _ (Expr.mem_parts_node hd))
      (fun d hd c hc => deep _ (Expr.mem_parts_node hd) _ (Expr.mem_parts_node hc)) ?_
    rintro q rfl
    exact ih _ (List.mem_singleton_self (Node.query q))
  | query q =>
    have hexpr {e : Expr} (h : e ∈ q.exprs) : Node.expr e ∈ (Node.query q).parts :=
      List.mem_append_left _ (List.mem_map_of_mem h)
    refine Query.ofJson_of_parts here (fun e he => safe _ (hexpr he)) (fun e he => ih _ (hexpr he))
      fun p hp => ih (.query p) (List.mem_append_right _ (List.mem_map_of_mem hp))

/-- A node that is safe everywhere reads back, and so do its parts. -/
theorem Everywhere.readsBack {n : Node} (h : Everywhere Node.JsonSafe n) :
    n.ReadsBack ∧ ∀ m ∈ n.parts, m.ReadsBack := by
  -- a comparison that a member keys is read through the parts of its left side
  induction h with
  | intro here parts ih =>
    have safe m hm := (parts m hm).here
    have back m hm := (ih m hm).1
    exact ⟨Node.readsBack_of_parts here safe back fun m hm => (ih m hm).2, back⟩

/-! ### Fields, exactly -/

theorem Field.label_of_dollar {key : String} {v : Json} {f : Field}
    (hkey : isDollarKey key = true) (h : Field.ofJson (single key v) = .ok f) :
    f.label = none := by
  obtain ⟨name, hname⟩ := dollarName?_eq_some hkey
  unfold Field.ofJson single at h
  simp only [hname] at h
  obtain ⟨e, -, he⟩ := bind_eq_ok.1 h
  cases he
  rfl

theorem Field.label_of_plain {key : String} {v : Json} {f : Field}
    (hkey : isDollarKey key = false) (h : Field.ofJson (single key v) = .ok f) :
    f.label = some key ∧ ∀ s, v = .str s → f.expr = .member s := by
  unfold Field.ofJson single at h
  simp only [dollarName?_eq_none hkey] at h
  cases v
  case str s =>
    cases h
    exact ⟨rfl, fun t ht => by cases ht; rfl⟩
  all_goals
    obtain ⟨e, -, he⟩ := bind_eq_ok.1 h
    cases he
    exact ⟨rfl, fun t ht => by cases ht⟩

/-- A field that reads back is safe itself, if its expression is. -/
theorem Field.jsonSafe_of_ofJson {f : Field} (he : f.expr.JsonSafe)
    (h : Field.ofJson f.toJson = .ok f) : f.JsonSafe := by
  obtain ⟨e, label⟩ := f
  -- a label with a dollar sign would be read as a part of the expression
  have plain (name : String) (hn : label = some name) : isDollarKey name = false := by
    subst hn
    rw [← Bool.not_eq_true]
    intro hd
    cases Field.label_of_dollar hd h
  refine ⟨fun s hs => ?_, plain, fun hnone => ?_⟩
  · have hs : e = .lit (.str s) := hs
    subst hs
    cases label with
    | none =>
      have written : Field.toJson ⟨.lit (.str s), none⟩ = .str s := by
        rw [Field.toJson, labelled, Expr.toJson]
      rw [written, Field.ofJson] at h
      cases h
    | some name =>
      rw [Field.toJson, labelled, Expr.toJson] at h
      cases (Field.label_of_plain (plain name rfl) h).2 s rfl
  · have hnone : label = none := hnone
    subst hnone
    rw [← Bool.not_eq_true]
    intro hk
    obtain ⟨l, op, r, path, hcompare, hp⟩ := Expr.keyMember?_of_isKeyed hk
    have hcompare : e = .compare l op r := hcompare
    subst hcompare
    obtain ⟨v, hv⟩ := Expr.toJson_keyed op r hp
    have written : Field.toJson ⟨.compare l op r, none⟩ = single path v := hv
    rw [written] at h
    cases (Field.label_of_plain (he path hp).key h).1

/-- **Written objects read back**: expressions and queries that are safe everywhere, and of the
fields with such an expression exactly the safe ones. -/
theorem objects_read_back :
    (∀ e : Expr, Everywhere Node.JsonSafe (.expr e) → Expr.ofJson e.toJson = .ok e) ∧
    (∀ q : Query, Everywhere Node.JsonSafe (.query q) → Query.ofJson q.toJson = .ok q) ∧
    ∀ f : Field, Everywhere Node.JsonSafe (.expr f.expr) →
      (Field.ofJson f.toJson = .ok f ↔ f.JsonSafe) := by
  refine ⟨fun e h => h.readsBack.1, fun q h => h.readsBack.1, fun f h => ⟨?_, fun hf => ?_⟩⟩
  · exact Field.jsonSafe_of_ofJson h.here
  · exact Field.ofJson_toJson hf h.here h.readsBack.1

/-- The identifiers of orders. -/
def orderedProducts : Query :=
  { Query.empty with collection := some "Orders", select := some [⟨.member "product", none⟩] }

/-- A query with a subquery in a comparison that a call of a member keys. -/
def unorderedProducts : Query :=
  { Query.empty with
    collection := some "Products"
    select := some [⟨.member "name", none⟩, ⟨.call "count" [.member "id"], some "total"⟩]
    filter := some (.not (.compare (.call "round" [.member "id", .lit (.int 2)]) .isIn
      (.subquery orderedProducts)))
    take := some 5 }

theorem unorderedProducts_reads_back :
    Everywhere Node.JsonSafe (.query unorderedProducts) ∧
      Query.ofJson unorderedProducts.toJson = .ok unorderedProducts := by
  have plain (name : String) : (⟨.member name, none⟩ : Field).JsonSafe :=
    ⟨by simp, by simp, fun _ => rfl⟩
  -- from the inside out: the nested query first, then what is compared with it
  have inner : Everywhere Node.JsonSafe (.query orderedProducts) := by
    rw [Everywhere.query_iff]
    refine ⟨⟨?_, ?_, ?_⟩, ?_, ?_⟩
    · simp [orderedProducts, Query.empty]
    · simp [orderedProducts, Query.empty]
    · intro f hf
      rw [List.mem_singleton.1 hf]
      exact plain _
    · intro e he
      rw [List.mem_singleton.1 he]
      simp [Node.JsonSafe, Expr.JsonSafe]
    · intro p hp
      cases hp
  have call (name : String) (args : List Expr) (h : name ∉ reservedNames)
      (ha : name ∉ arithNames) : (Expr.call name args).JsonSafe := ⟨h, fun hn => absurd hn ha⟩
  have count := call "count" [.member "id"] (by decide) (by decide)
  have round := call "round" [.member "id", .lit (.int 2)] (by decide) (by decide)
  have keyed : (Expr.compare (.call "round" [.member "id", .lit (.int 2)]) .isIn
      (.subquery orderedProducts)).JsonSafe := by
    intro path hp
    cases hp
    refine ⟨by decide, fun name args h => ?_, fun _ => rfl⟩
    cases h
    decide
  have safe : Everywhere Node.JsonSafe (.query unorderedProducts) := by
    rw [Everywhere.query_iff]
    refine ⟨⟨by simp [unorderedProducts], by simp [unorderedProducts, Query.empty], ?_⟩, ?_, ?_⟩
    · intro f hf
      have hf : f ∈ [⟨.member "name", none⟩, ⟨.call "count" [.member "id"], some "total"⟩] := hf
      rcases List.mem_cons.1 hf with rfl | hf
      · exact plain _
      · rw [List.mem_singleton.1 hf]
        refine ⟨by simp, fun name h => ?_, by simp⟩
        cases h
        decide
    · intro e he
      have he : e ∈ [.member "name", .call "count" [.member "id"], .not (.compare
        (.call "round" [.member "id", .lit (.int 2)]) .isIn (.subquery orderedProducts))] := he
      simp only [List.mem_cons, List.not_mem_nil, or_false] at he
      rcases he with rfl | rfl | rfl
      · simp [Node.JsonSafe, Expr.JsonSafe]
      · simp only [Everywhere.call_iff, List.forall_mem_singleton, Everywhere.member_iff]
        exact ⟨count, trivial⟩
      · simp only [Everywhere.not_iff, Everywhere.compare_iff, Everywhere.call_iff,
          Everywhere.subquery_iff, List.forall_mem_cons, Everywhere.member_iff,
          Everywhere.lit_iff]
        exact ⟨trivial, keyed, ⟨round, trivial, rfl, by simp⟩, .inl rfl, inner⟩
    · intro p hp
      cases hp
  exact ⟨safe, objects_read_back.2.1 unorderedProducts safe⟩

end Sift
