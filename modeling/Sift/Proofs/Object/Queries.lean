import Sift.Proofs.Object.Expressions
import Sift.Proofs.Steps

/-!
# Query objects read back

What is read from the clauses of a query, clause by clause, where the expressions and queries inside
read back.

* `Field.ofJson_toJson`, `Order.ofJson_toJson`, `Join.ofJson_toJson`: the parts of a select.
* `decodeClauses_present`: one clause of a query after those in front of it.
* `ClauseReads.option`, `flag`, `items`, `predicate`: clauses of each kind; `Query.reads_collection`
  and its kin: what each of them fills.
* `Query.filled`: a query as far as it was read; `Query.reads_clause`, `Query.decodeClauses_filled`:
  one more clause, and all that are left.
-/

namespace Sift

open Json

/-! ### Joins -/

theorem FieldRef.ofJson_toJson (f : FieldRef) : FieldRef.ofJson f.toJson = .ok f := by
  obtain ⟨entity, field⟩ := f
  cases entity <;> rfl

/-- Columns of a join are read one by one. -/
theorem decodeFieldRefs_map (fs : List FieldRef) :
    decodeFieldRefs (.arr (fs.map FieldRef.toJson)) = .ok fs := by
  rw [decodeFieldRefs, List.mapM_map]
  induction fs with
  | nil => rfl
  | cons f fs ih =>
    rw [List.mapM_cons, ih, Function.comp_apply, FieldRef.ofJson_toJson]
    rfl

/-- The two sides of a join stand under keys of their own. -/
theorem decodeFieldPairs_sides (left right : List FieldRef) :
    decodeFieldPairs (.obj [("left", .arr (left.map FieldRef.toJson)),
      ("right", .arr (right.map FieldRef.toJson))]) = .ok (.fields left right) := by
  unfold decodeFieldPairs decodeRecord
  simp [recordFields?, decodeRecord.go, decodeFieldRefs_map]
  rfl

theorem decodeJoinKind_word (kind : JoinKind) : decodeJoinKind (.str kind.word) = .ok kind := by
  cases kind <;> rfl

theorem decodeDirection_word (d : Direction) : decodeDirection (.str d.word) = .ok d := by
  cases d <;> rfl

theorem Query.ofJson_obj (fields : List (String × Json)) :
    Query.ofJson (.obj fields) = decodeClauses [] .empty fields := by
  unfold Query.ofJson
  simp [recordFields?, isSurplus]

/-- A target is a name or a nested query, which is an object. -/
theorem Target.ofJson_toJson {t : Target}
    (ih : ∀ q, t.query? = some q → Query.ofJson q.toJson = .ok q) :
    Target.ofJson t.toJson = .ok t := by
  cases t with
  | entity name => rw [Target.toJson, single, Target.ofJson]
  | query q =>
    rw [Target.toJson, single, Target.ofJson, ih q rfl]
    rfl

/-- A condition has two lists of columns under two keys, or is a predicate, whose object has no such
keys. -/
theorem decodeCondition?_encodeCondition? {c : Condition}
    (ih : ∀ e, c.predicate? = some e → Expr.ofJson e.toJson = .ok e) :
    ∃ v, encodeCondition? (some c) = some v ∧ decodeCondition? v = .ok (some c) := by
  cases c with
  | fields left right =>
    refine ⟨_, by rw [encodeCondition?], ?_⟩
    rw [single, decodeCondition?, decodeFieldPairs_sides]
    rfl
  | predicate e =>
    refine ⟨_, by rw [encodeCondition?], ?_⟩
    rw [single, decodeCondition?, ih e rfl]
    rfl

theorem encodeCondition?_none : encodeCondition? none = none := by rw [encodeCondition?]

/-- The object of a join. -/
def Join.toJson (j : Join) : Json :=
  .obj (present [("target", some j.target.toJson), ("alias", j.label.map .str),
    ("kind", some (.str j.kind.word)), ("on", encodeCondition? j.condition)])

/-- A join reads back, if the query it joins and the predicate it has do. -/
theorem Join.ofJson_toJson {j : Join}
    (target : ∀ q, j.target.query? = some q → Query.ofJson q.toJson = .ok q)
    (condition : ∀ c e, j.condition = some c → c.predicate? = some e →
      Expr.ofJson e.toJson = .ok e) : Join.ofJson j.toJson = .ok j := by
  obtain ⟨t, label, kind, c⟩ := j
  have ht := Target.ofJson_toJson target
  unfold Join.ofJson Join.toJson
  cases c with
  | none =>
    cases label <;> simp [present, recordFields?, decodeJoinParts, ht, decodeJoinKind_word,
      encodeCondition?_none, isSurplus, decodeStr?, decodeStr]
  | some c =>
    obtain ⟨v, hv, hd⟩ := decodeCondition?_encodeCondition? fun e he => condition c e rfl he
    cases label <;> simp [present, recordFields?, decodeJoinParts, ht, decodeJoinKind_word, hv, hd,
      isSurplus, decodeStr?, decodeStr]

theorem encodeJoins_eq_map (js : List Join) : encodeJoins js = js.map Join.toJson := by
  induction js with
  | nil => rw [encodeJoins, List.map_nil]
  | cons j js ih => rw [encodeJoins, ih, List.map_cons, Join.toJson]

/-- Joins are read one by one. -/
theorem decodeJoins_encodeJoins {js : List Join} (ih : ∀ j ∈ js, Join.ofJson j.toJson = .ok j) :
    decodeJoins (encodeJoins js) = .ok js := by
  rw [encodeJoins_eq_map]
  induction js with
  | nil => rw [List.map_nil, decodeJoins]
  | cons j js ihs =>
    have hj := ih j List.mem_cons_self
    have hjs := ihs fun k hk => ih k (List.mem_cons_of_mem j hk)
    rw [List.map_cons, decodeJoins, hj, hjs]
    rfl

/-! ### Orderings -/

/-- An ordering has its direction under its own key. -/
theorem Order.ofJson_toJson {o : Order} (ih : Expr.ofJson o.expr.toJson = .ok o.expr) :
    Order.ofJson o.toJson = .ok o := by
  obtain ⟨e, d⟩ := o
  unfold Order.ofJson Order.toJson
  simp [recordFields?, decodeOrderParts, ih, insideQuery, decodeDirection_word, isSurplus]

theorem encodeOrders_eq_map (os : List Order) : encodeOrders os = os.map Order.toJson := by
  induction os with
  | nil => rw [encodeOrders, List.map_nil]
  | cons o os ih => rw [encodeOrders, ih, List.map_cons, Order.toJson]

theorem decodeOrders_encodeOrders {os : List Order}
    (ih : ∀ o ∈ os, Expr.ofJson o.expr.toJson = .ok o.expr) :
    decodeOrders (encodeOrders os) = .ok os := by
  rw [encodeOrders_eq_map]
  induction os with
  | nil => rw [List.map_nil, decodeOrders]
  | cons o os ihs =>
    have ho := Order.ofJson_toJson (ih o List.mem_cons_self)
    have hos := ihs fun k hk => ih k (List.mem_cons_of_mem o hk)
    rw [List.map_cons, decodeOrders, ho, hos]
    rfl

/-! ### Fields -/

/-- The clauses that are written are those with a value. -/
theorem mem_present {fields : List (String × Option Json)} {key : String} {v : Json} :
    (key, v) ∈ present fields ↔ (key, some v) ∈ fields := by
  rw [present, List.mem_filterMap]
  constructor
  · rintro ⟨⟨k, w?⟩, hk, hw⟩
    obtain ⟨w, rfl, hv⟩ := Option.map_eq_some_iff.1 hw
    cases hv
    exact hk
  · intro h
    exact ⟨(key, some v), h, rfl⟩

/-- The clauses of a query with what is written for them, if anything is. -/
def Query.clauses (q : Query) : List (String × Option Json) :=
  [("$collection", q.collection.map .str),
   ("$alias", q.label.map .str),
   ("$select", encodeSelection? q.select),
   ("$insert", q.insert.map .obj),
   ("$update", q.update.map .obj),
   ("$delete", flag q.delete),
   ("$where", encodeExpr? q.filter),
   ("$prepared", encodeExpr? q.prepared),
   ("$order", nonEmpty (encodeOrders q.order)),
   ("$group", nonEmpty (encodeFields q.group)),
   ("$expand", nonEmpty (encodeJoins q.joins)),
   ("$skip", q.skip.map fun n => .int n.toNat),
   ("$take", q.take.map fun n => .int n.toNat),
   ("$distinct", flag q.distinct),
   ("$fixed", flag q.fixed)]

theorem Query.toJson_eq (q : Query) : q.toJson = .obj (present q.clauses) := by
  rw [Query.toJson, Query.clauses]

theorem Query.keys_clauses (q : Query) : q.clauses.map Prod.fst = clauseNames := rfl

/-- The names of clauses have a dollar sign in front, so they are no labels. -/
theorem isDollarKey_of_mem_clauseNames {key : String} (h : key ∈ clauseNames) :
    isDollarKey key = true := by
  have all : clauseNames.all isDollarKey = true := by decide
  exact List.all_eq_true.1 all key h

theorem isDollarKey_dollar (name : String) : isDollarKey ("$" ++ name) = true := by
  rw [isDollarKey, toList_dollar]
  rfl

/-- The object of a tree that no member keys has keys with dollar signs only. -/
theorem Expr.toJson_dollar {e : Expr} (hlit : e.isLiteral = false) (hkeyed : e.isKeyed = false) :
    ∃ fields, e.toJson = .obj fields ∧ ∀ key v, (key, v) ∈ fields → isDollarKey key = true := by
  -- all but a nested query are objects of one entry
  have of_single {k : String} {w : Json} (h : e.toJson = single k w) (hk : isDollarKey k = true) :
      ∃ fields, e.toJson = .obj fields ∧
        ∀ key v, (key, v) ∈ fields → isDollarKey key = true := by
    refine ⟨[(k, w)], h, fun key v hmem => ?_⟩
    rw [List.mem_singleton, Prod.mk.injEq] at hmem
    rw [hmem.1, hk]
  cases e with
  | lit v => simp [isLiteral, literal?] at hlit
  | member path => exact of_single (by rw [toJson]) (by rfl)
  | logical op es => exact of_single (by rw [toJson]) (by cases op <;> rfl)
  | compare l op r =>
    have hl : l.keyMember? = none := by simpa [isKeyed] using hkeyed
    exact of_single (toJson_compare op r hl) (by cases op <;> rfl)
  | arith l op r => exact of_single (by rw [toJson, Arith.key]) (isDollarKey_dollar op.name)
  | call name args => exact of_single (by rw [toJson]) (isDollarKey_dollar name)
  | not e => exact of_single (by rw [toJson]) (by rfl)
  | subquery q =>
    refine ⟨present q.clauses, by rw [toJson, Query.toJson_eq], fun key v hmem => ?_⟩
    have hkey := List.mem_map_of_mem (f := Prod.fst) (mem_present.1 hmem)
    exact isDollarKey_of_mem_clauseNames (q.keys_clauses ▸ hkey)

/-- The object of a tree that a member keys is one entry under the member. -/
theorem Expr.toJson_keyed {l : Expr} {path : String} (op : Comparison) (r : Expr)
    (h : l.keyMember? = some path) : ∃ v, (Expr.compare l op r).toJson = single path v := by
  unfold keyMember? at h
  split at h <;> cases h
  all_goals exact ⟨_, by rw [toJson]⟩

/-- An expression is keyed by a member only as a comparison with one on its left. -/
theorem Expr.keyMember?_of_isKeyed {e : Expr} (h : e.isKeyed = true) :
    ∃ l op r path, e = .compare l op r ∧ l.keyMember? = some path := by
  cases e <;> simp only [isKeyed, Bool.false_eq_true] at h
  case compare l op r =>
    obtain ⟨path, hp⟩ := Option.isSome_iff_exists.1 h
    exact ⟨l, op, r, path, rfl, hp⟩

/-- What stands for itself as a field: anything but a text and an object under a plain key. -/
theorem Field.ofJson_bare {v : Json} {e : Expr} (ih : Expr.ofJson v = .ok e)
    (htext : ∀ s, v ≠ .str s)
    (hkey : ∀ key w, v = .obj [(key, w)] → isDollarKey key = true) :
    Field.ofJson v = .ok ⟨e, none⟩ := by
  unfold Field.ofJson
  split
  · next s => exact absurd rfl (htext s)
  · next key w =>
    obtain ⟨name, hname⟩ := dollarName?_eq_some (hkey key w rfl)
    rw [Expr.ofJson] at ih
    simp only [hname, ih]
    rfl
  · rw [ih]
    rfl

/-- Under its label, an expression is told from a keyed comparison by the label, which has no dollar
sign and no comparison in it. -/
theorem Field.ofJson_labelled {v : Json} {e : Expr} {name : String} (ih : Expr.ofJson v = .ok e)
    (htext : ∀ s, v ≠ .str s) (hname : isDollarKey name = false) :
    Field.ofJson (single name v) = .ok ⟨e, some name⟩ := by
  rw [single]
  unfold Field.ofJson
  rw [dollarName?_eq_none hname]
  cases v
  case str s => exact absurd rfl (htext s)
  all_goals simp only [ih]; rfl

/-- Nothing but a constant is written as anything but an object. -/
theorem Expr.eq_lit_of_toJson {e : Expr} {v : Json} (h : e.toJson = v) (hv : v.isObj = false) :
    e = .lit v := by
  cases hlit : e.isLiteral with
  | true =>
    cases e <;> simp [isLiteral, literal?] at hlit
    rw [toJson] at h
    rw [h]
  | false =>
    cases hk : e.isKeyed with
    | false =>
      obtain ⟨fields, he, -⟩ := toJson_dollar hlit hk
      rw [← h, he] at hv; cases hv
    | true =>
      obtain ⟨l, op, r, path, rfl, hp⟩ := keyMember?_of_isKeyed hk
      obtain ⟨w, hw⟩ := toJson_keyed op r hp
      rw [← h, hw] at hv; cases hv

/-- **A field reads back** if its expression does and it is not written like another one. -/
theorem Field.ofJson_toJson {f : Field} (hf : f.JsonSafe) (he : f.expr.JsonSafe)
    (ih : Expr.ofJson f.expr.toJson = .ok f.expr) : Field.ofJson f.toJson = .ok f := by
  obtain ⟨e, label⟩ := f
  have htext : ∀ s, e.toJson ≠ .str s := fun s hs => hf.text s (Expr.eq_lit_of_toJson hs rfl)
  cases label with
  | some name => exact Field.ofJson_labelled ih htext (hf.label name rfl)
  | none =>
    refine Field.ofJson_bare ih htext fun key w hw => ?_
    -- an expression that is no constant is written under a key with a dollar sign
    cases hlit : e.isLiteral with
    | false =>
      obtain ⟨fields, hfields, hkeys⟩ := Expr.toJson_dollar hlit (hf.bare rfl)
      rw [show e.toJson = .obj [(key, w)] from hw, Json.obj.injEq] at hfields
      exact hkeys key w (hfields ▸ List.mem_singleton_self _)
    | true =>
      cases e <;> simp [Expr.isLiteral, Expr.literal?] at hlit
      case lit v =>
        have hv : (Expr.lit v).toJson = .obj [(key, w)] := hw
        rw [Expr.toJson] at hv
        subst hv
        cases he

theorem encodeFields_eq_map (fs : List Field) : encodeFields fs = fs.map Field.toJson := by
  induction fs with
  | nil => rw [encodeFields, List.map_nil]
  | cons f fs ih => rw [encodeFields, ih, List.map_cons, Field.toJson]

/-- Fields are read one by one. -/
theorem decodeFields_encodeFields {fs : List Field}
    (ih : ∀ f ∈ fs, Field.ofJson f.toJson = .ok f) : decodeFields (encodeFields fs) = .ok fs := by
  rw [encodeFields_eq_map]
  induction fs with
  | nil => rw [List.map_nil, decodeFields]
  | cons f fs ihs =>
    have hf := ih f List.mem_cons_self
    have hfs := ihs fun g hg => ih g (List.mem_cons_of_mem f hg)
    rw [List.map_cons, decodeFields, hf, hfs]
    rfl

/-! ### Clauses -/

/-- A clause takes one query to another: what is written is stored, and where nothing is,
nothing changes. -/
def ClauseReads (p : Query) (key : String) (v? : Option Json) (p' : Query) : Prop :=
  match v? with
  | none => p' = p
  | some v => decodeClause p key v = .ok p'

/-- **One clause after those in front of it**, whose keys are among `done`. -/
theorem decodeClauses_present {done : List String} {key : String} {v? : Option Json}
    {rest : List (String × Option Json)} {p r q : Query} (hkey : key ∈ clauseNames)
    (hnew : key ∉ done) (hread : ClauseReads p key v? r)
    (hrest : ∀ seen ⊆ key :: done, decodeClauses seen r (present rest) = .ok q) :
    ∀ seen ⊆ done, decodeClauses seen p (present ((key, v?) :: rest)) = .ok q := by
  intro seen hseen
  -- a clause that is not written leaves the query as it is, and the keys seen too
  cases v? with
  | none =>
    have hp : r = p := hread
    subst hp
    exact hrest seen fun k hk => List.mem_cons_of_mem key (hseen hk)
  | some v =>
    have hp : decodeClause p key v = .ok r := hread
    have hns : seen.contains key = false := by
      rw [List.contains_eq_mem, decide_eq_false_iff_not]
      exact fun h => hnew (hseen h)
    have hstep : present ((key, some v) :: rest) = (key, v) :: present rest := rfl
    rw [hstep, decodeClauses, if_pos (by simpa using hkey), hns, hp]
    exact hrest _ (List.cons_subset_cons key hseen)

/-- A predicate reads back unless it is the constant for nothing, which would be no predicate. -/
theorem decodePredicate?_toJson {e : Expr} (hnull : e ≠ .lit .null)
    (ih : Expr.ofJson e.toJson = .ok e) : decodePredicate? e.toJson = .ok (some e) := by
  have hv : e.toJson ≠ .null := fun h => hnull (Expr.eq_lit_of_toJson h rfl)
  unfold decodePredicate?
  split
  · next h => exact absurd h hv
  · rw [ih]
    rfl

/-- Counts are unsigned and have at most 64 bits. -/
theorem unsigned?_toNat (n : UInt64) : unsigned? (.int n.toNat) = some n.toNat := by
  have hn : (0 : Int) ≤ n.toNat ∧ (n.toNat : Int) < 0x10000000000000000 := by
    have := n.toNat_lt
    omega
  rw [unsigned?, if_pos hn, Int.toNat_natCast]

theorem decodeCount?_toNat (n : UInt64) : decodeCount? (.int n.toNat) = .ok (some n) := by
  rw [decodeCount?, unsigned?_toNat]
  · exact congrArg (fun m => Except.ok (some m)) (UInt64.ofNat_toNat)
  · intro h; cases h

/-! A clause of each kind. What it fills has a value that is not written, and the query that it is
read into has that value there. -/

namespace ClauseReads

variable {p : Query} {key : String}

theorem option {β : Type} {x? : Option β} {encode : β → Json} (fill : Option β → Query)
    (unset : fill none = p)
    (read : ∀ x, x? = some x → decodeClause p key (encode x) = .ok (fill x?)) :
    ClauseReads p key (x?.map encode) (fill x?) := by
  cases x? with
  | none => exact unset
  | some x => exact read x rfl

theorem flag {b : Bool} (fill : Bool → Query) (unset : fill false = p)
    (read : decodeClause p key (.bool true) = .ok (fill true)) :
    ClauseReads p key (flag b) (fill b) := by
  cases b with
  | false => exact unset
  | true => exact read

theorem items {β : Type} {xs : List β} {encode : β → Json} {items : List Json}
    (fill : List β → Query) (written : items = xs.map encode) (unset : fill [] = p)
    (read : decodeClause p key (.arr items) = .ok (fill xs)) :
    ClauseReads p key (nonEmpty items) (fill xs) := by
  subst written
  cases xs with
  | nil => exact unset
  | cons x xs => exact read

theorem predicate {e? : Option Expr} (fill : Option Expr → Query) (unset : fill none = p)
    (read : ∀ v, decodeClause p key v = decodePredicate? v >>= fun e? => .ok (fill e?))
    (safe : ∀ e, e? = some e → e ≠ .lit .null ∧ Expr.ofJson e.toJson = .ok e) :
    ClauseReads p key (encodeExpr? e?) (fill e?) := by
  cases e? with
  | none =>
    rw [encodeExpr?]
    exact unset
  | some e =>
    obtain ⟨notNull, back⟩ := safe e rfl
    rw [encodeExpr?, ClauseReads, read, decodePredicate?_toJson notNull back]
    rfl

end ClauseReads

/-! Each clause fills one field of a query, which was not set, and leaves the rest as it is. -/

namespace Query

variable (q : Query) {p : Query}

theorem reads_collection (unset : { p with collection := none } = p) :
    ClauseReads p "$collection" (q.collection.map .str) { p with collection := q.collection } :=
  .option (fun x? => { p with collection := x? }) unset fun s h => by
    rw [decodeClause.eq_def]
    simp [decodeStr?, decodeStr, h]

theorem reads_label (unset : { p with label := none } = p) :
    ClauseReads p "$alias" (q.label.map .str) { p with label := q.label } :=
  .option (fun x? => { p with label := x? }) unset fun s h => by
    rw [decodeClause.eq_def]
    simp [decodeStr?, decodeStr, h]

theorem reads_select (unset : { p with select := none } = p)
    (fields : ∀ f ∈ q.select.getD [], Field.ofJson f.toJson = .ok f) :
    ClauseReads p "$select" (encodeSelection? q.select) { p with select := q.select } := by
  have written : encodeSelection? q.select = q.select.map fun fs => .arr (encodeFields fs) := by
    cases q.select <;> rw [encodeSelection?] <;> rfl
  rw [written]
  refine .option (fun x? => { p with select := x? }) unset fun fs h => ?_
  rw [h] at fields
  have back : decodeFields (encodeFields fs) = .ok fs := decodeFields_encodeFields fields
  rw [decodeClause.eq_def]
  simp [back, h]

theorem reads_insert (unset : { p with insert := none } = p) :
    ClauseReads p "$insert" (q.insert.map .obj) { p with insert := q.insert } :=
  .option (fun x? => { p with insert := x? }) unset fun s h => by
    rw [decodeClause.eq_def]
    simp [decodeValues?, h]

theorem reads_update (unset : { p with update := none } = p) :
    ClauseReads p "$update" (q.update.map .obj) { p with update := q.update } :=
  .option (fun x? => { p with update := x? }) unset fun s h => by
    rw [decodeClause.eq_def]
    simp [decodeValues?, h]

theorem reads_delete (unset : { p with delete := false } = p) :
    ClauseReads p "$delete" (flag q.delete) { p with delete := q.delete } :=
  .flag (fun b => { p with delete := b }) unset (by
    rw [decodeClause.eq_def]
    simp [decodeBool])

theorem reads_filter (unset : { p with filter := none } = p)
    (safe : ∀ e, q.filter = some e → e ≠ .lit .null ∧ Expr.ofJson e.toJson = .ok e) :
    ClauseReads p "$where" (encodeExpr? q.filter) { p with filter := q.filter } :=
  .predicate (fun e? => { p with filter := e? }) unset (fun v => by
    rw [decodeClause.eq_def]
    rfl) safe

theorem reads_prepared (unset : { p with prepared := none } = p)
    (safe : ∀ e, q.prepared = some e → e ≠ .lit .null ∧ Expr.ofJson e.toJson = .ok e) :
    ClauseReads p "$prepared" (encodeExpr? q.prepared) { p with prepared := q.prepared } :=
  .predicate (fun e? => { p with prepared := e? }) unset (fun v => by
    rw [decodeClause.eq_def]
    rfl) safe

theorem reads_order (unset : { p with order := [] } = p)
    (order : ∀ o ∈ q.order, Expr.ofJson o.expr.toJson = .ok o.expr) :
    ClauseReads p "$order" (nonEmpty (encodeOrders q.order)) { p with order := q.order } :=
  .items (fun os => { p with order := os }) (encodeOrders_eq_map q.order) unset (by
    rw [decodeClause.eq_def]
    simp [decodeOrders_encodeOrders order])

theorem reads_group (unset : { p with group := [] } = p)
    (fields : ∀ f ∈ q.group, Field.ofJson f.toJson = .ok f) :
    ClauseReads p "$group" (nonEmpty (encodeFields q.group)) { p with group := q.group } :=
  .items (fun fs => { p with group := fs }) (encodeFields_eq_map q.group) unset (by
    rw [decodeClause.eq_def]
    simp [decodeFields_encodeFields fields])

theorem reads_joins (unset : { p with joins := [] } = p)
    (joins : ∀ j ∈ q.joins, Join.ofJson j.toJson = .ok j) :
    ClauseReads p "$expand" (nonEmpty (encodeJoins q.joins)) { p with joins := q.joins } :=
  .items (fun js => { p with joins := js }) (encodeJoins_eq_map q.joins) unset (by
    rw [decodeClause.eq_def]
    simp [decodeJoins_encodeJoins joins])

theorem reads_skip (unset : { p with skip := none } = p) :
    ClauseReads p "$skip" (q.skip.map fun n => .int n.toNat) { p with skip := q.skip } :=
  .option (fun n? => { p with skip := n? }) unset fun n h => by
    rw [decodeClause.eq_def]
    simp [decodeCount?_toNat, h]

theorem reads_take (unset : { p with take := none } = p) :
    ClauseReads p "$take" (q.take.map fun n => .int n.toNat) { p with take := q.take } :=
  .option (fun n? => { p with take := n? }) unset fun n h => by
    rw [decodeClause.eq_def]
    simp [decodeCount?_toNat, h]

theorem reads_distinct (unset : { p with distinct := false } = p) :
    ClauseReads p "$distinct" (flag q.distinct) { p with distinct := q.distinct } :=
  .flag (fun b => { p with distinct := b }) unset (by
    rw [decodeClause.eq_def]
    simp [decodeBool])

theorem reads_fixed (unset : { p with fixed := false } = p) :
    ClauseReads p "$fixed" (flag q.fixed) { p with fixed := q.fixed } :=
  .flag (fun b => { p with fixed := b }) unset (by
    rw [decodeClause.eq_def]
    simp [decodeBool])

/-- A query as far as it was read: the fields of the clauses with the given keys are filled. -/
def filled (q : Query) (keys : List String) : Query where
  collection := if "$collection" ∈ keys then q.collection else none
  label := if "$alias" ∈ keys then q.label else none
  select := if "$select" ∈ keys then q.select else none
  insert := if "$insert" ∈ keys then q.insert else none
  update := if "$update" ∈ keys then q.update else none
  delete := if "$delete" ∈ keys then q.delete else false
  filter := if "$where" ∈ keys then q.filter else none
  prepared := if "$prepared" ∈ keys then q.prepared else none
  order := if "$order" ∈ keys then q.order else []
  group := if "$group" ∈ keys then q.group else []
  joins := if "$expand" ∈ keys then q.joins else []
  skip := if "$skip" ∈ keys then q.skip else none
  take := if "$take" ∈ keys then q.take else none
  distinct := if "$distinct" ∈ keys then q.distinct else false
  fixed := if "$fixed" ∈ keys then q.fixed else false

theorem filled_nil : q.filled [] = .empty := by simp [filled, empty]

theorem filled_of_subset {keys : List String} (all : clauseNames ⊆ keys) : q.filled keys = q := by
  have filled : ∀ key ∈ clauseNames, key ∈ keys := fun _ h => all h
  simp only [clauseNames, List.forall_mem_cons] at filled
  cases q
  simp [Query.filled, filled]

variable {q}

/-- One clause fills its field, which was not filled before. -/
theorem reads_clause {done : List String} {key : String} {v? : Option Json}
    (h : (key, v?) ∈ q.clauses) (new : key ∉ done)
    (fields : ∀ f ∈ q.fields, Field.ofJson f.toJson = .ok f)
    (filter : ∀ e, q.filter = some e → e ≠ .lit .null ∧ Expr.ofJson e.toJson = .ok e)
    (prepared : ∀ e, q.prepared = some e → e ≠ .lit .null ∧ Expr.ofJson e.toJson = .ok e)
    (order : ∀ o ∈ q.order, Expr.ofJson o.expr.toJson = .ok o.expr)
    (joins : ∀ j ∈ q.joins, Join.ofJson j.toJson = .ok j) :
    ClauseReads (q.filled done) key v? (q.filled (key :: done)) := by
  obtain ⟨selected, grouped⟩ := List.forall_mem_append.1 fields
  -- each clause fills the field that is not filled yet, whatever the others hold
  simp only [clauses, List.mem_cons, Prod.mk.injEq, List.not_mem_nil, or_false] at h
  rcases h with ⟨rfl, rfl⟩ | ⟨rfl, rfl⟩ | ⟨rfl, rfl⟩ | ⟨rfl, rfl⟩ | ⟨rfl, rfl⟩ | ⟨rfl, rfl⟩ |
    ⟨rfl, rfl⟩ | ⟨rfl, rfl⟩ | ⟨rfl, rfl⟩ | ⟨rfl, rfl⟩ | ⟨rfl, rfl⟩ | ⟨rfl, rfl⟩ |
    ⟨rfl, rfl⟩ | ⟨rfl, rfl⟩ | ⟨rfl, rfl⟩
  · simpa [filled, new] using q.reads_collection (p := q.filled done) (by simp [filled, new])
  · simpa [filled, new] using q.reads_label (p := q.filled done) (by simp [filled, new])
  · simpa [filled, new] using q.reads_select (p := q.filled done) (by simp [filled, new]) selected
  · simpa [filled, new] using q.reads_insert (p := q.filled done) (by simp [filled, new])
  · simpa [filled, new] using q.reads_update (p := q.filled done) (by simp [filled, new])
  · simpa [filled, new] using q.reads_delete (p := q.filled done) (by simp [filled, new])
  · simpa [filled, new] using q.reads_filter (p := q.filled done) (by simp [filled, new]) filter
  · simpa [filled, new] using q.reads_prepared (p := q.filled done) (by simp [filled, new]) prepared
  · simpa [filled, new] using q.reads_order (p := q.filled done) (by simp [filled, new]) order
  · simpa [filled, new] using q.reads_group (p := q.filled done) (by simp [filled, new]) grouped
  · simpa [filled, new] using q.reads_joins (p := q.filled done) (by simp [filled, new]) joins
  · simpa [filled, new] using q.reads_skip (p := q.filled done) (by simp [filled, new])
  · simpa [filled, new] using q.reads_take (p := q.filled done) (by simp [filled, new])
  · simpa [filled, new] using q.reads_distinct (p := q.filled done) (by simp [filled, new])
  · simpa [filled, new] using q.reads_fixed (p := q.filled done) (by simp [filled, new])

/-- Clauses one after another: each finds its field as it is in the empty query, since no clause in
front of it has its key. -/
theorem decodeClauses_filled {rest : List (String × Option Json)} {done : List String}
    (known : ∀ c ∈ rest, c.1 ∈ clauseNames) (once : (rest.map Prod.fst).Nodup)
    (new : ∀ c ∈ rest, c.1 ∉ done)
    (reads : ∀ c ∈ rest, ∀ done, c.1 ∉ done →
      ClauseReads (q.filled done) c.1 c.2 (q.filled (c.1 :: done))) :
    ∀ seen ⊆ done, decodeClauses seen (q.filled done) (present rest) =
      .ok (q.filled ((rest.map Prod.fst).reverse ++ done)) := by
  induction rest generalizing done with
  | nil =>
    intro seen _
    rw [present, List.filterMap_nil, decodeClauses]
    rfl
  | cons c rest ih =>
    obtain ⟨key, v?⟩ := c
    rw [List.forall_mem_cons] at known new reads
    rw [List.map_cons, List.nodup_cons] at once
    have later : ∀ c ∈ rest, c.1 ∉ key :: done := fun c hc mem => by
      rcases List.mem_cons.1 mem with same | before
      · exact once.1 (List.mem_map.2 ⟨c, hc, same⟩)
      · exact new.2 c hc before
    rw [List.map_cons, List.reverse_cons, List.append_assoc]
    exact decodeClauses_present known.1 new.1 (reads.1 done new.1)
      (ih known.2 once.2 later reads.2)

/-- All clauses of a query are read back, and make the query again. -/
theorem decodeClauses_clauses
    (fields : ∀ f ∈ q.fields, Field.ofJson f.toJson = .ok f)
    (filter : ∀ e, q.filter = some e → e ≠ .lit .null ∧ Expr.ofJson e.toJson = .ok e)
    (prepared : ∀ e, q.prepared = some e → e ≠ .lit .null ∧ Expr.ofJson e.toJson = .ok e)
    (order : ∀ o ∈ q.order, Expr.ofJson o.expr.toJson = .ok o.expr)
    (joins : ∀ j ∈ q.joins, Join.ofJson j.toJson = .ok j) :
    decodeClauses [] .empty (present q.clauses) = .ok q := by
  have known : ∀ c ∈ q.clauses, c.1 ∈ clauseNames := fun c hc =>
    q.keys_clauses ▸ List.mem_map_of_mem hc
  have once : (q.clauses.map Prod.fst).Nodup := by
    rw [keys_clauses]
    decide
  have all := decodeClauses_filled known once (fun _ _ => List.not_mem_nil) (fun c hc done new =>
    reads_clause hc new fields filter prepared order joins) [] (List.Subset.refl [])
  rw [filled_nil, filled_of_subset] at all
  · exact all
  · rw [keys_clauses, List.append_nil]
    exact fun key h => List.mem_reverse.2 h

end Query

end Sift
