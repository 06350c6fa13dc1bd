import Sift.Expr.Fold
import Sift.Proofs.Tree
import Sift.Query.Kind

/-!
# Trees with other constants

Replacing the constants of a tree, at any depth, leaves everything else as it is.

* `Expr.mapConstants`, `Query.mapConstants`: every constant replaced; `Node.mapConstants_id`.
* `Json.ChangesTexts`: a map of constants that changes texts and leaves the rest as it is. What a
  tree is made of does not depend on texts, so composition goes with such maps.
* `Json.blank`: a constant with all its texts emptied.
* `Expr.SameButTexts`: two expressions that differ in text constants only.
-/

namespace Sift

variable (g : Json → Json)

/-- Columns with values replaced. -/
def mapValues (values : List (String × Json)) : List (String × Json) :=
  values.map fun (column, v) => (column, g v)

mutual

/-- An expression with every constant replaced. -/
def Expr.mapConstants (e : Expr) : Expr :=
  match e with
  | .lit v => .lit (g v)
  | .member path => .member path
  | .logical op es => .logical op (mapExprs es)
  | .compare l op r => .compare l.mapConstants op r.mapConstants
  | .arith l op r => .arith l.mapConstants op r.mapConstants
  | .call name args => .call name (mapExprs args)
  | .not e => .not e.mapConstants
  | .subquery q => .subquery q.mapConstants
termination_by sizeOf e

/-- Expressions with every constant replaced. -/
def mapExprs (es : List Expr) : List Expr :=
  match es with
  | [] => []
  | e :: es => e.mapConstants :: mapExprs es
termination_by sizeOf es

/-- An optional expression with every constant replaced. -/
def mapExpr? (e? : Option Expr) : Option Expr :=
  match e? with
  | none => none
  | some e => some e.mapConstants
termination_by sizeOf e?

/-- Fields with every constant replaced. -/
def mapFields (fs : List Field) : List Field :=
  match fs with
  | [] => []
  | f :: fs => ⟨f.expr.mapConstants, f.label⟩ :: mapFields fs
termination_by sizeOf fs
decreasing_by
  · have := f.sizeOf_expr_lt; simp only [List.cons.sizeOf_spec]; omega
  · simp only [List.cons.sizeOf_spec]; omega

/-- A selection with every constant replaced. -/
def mapSelection? (fs? : Option (List Field)) : Option (List Field) :=
  match fs? with
  | none => none
  | some fs => some (mapFields fs)
termination_by sizeOf fs?

/-- An ordering with every constant replaced. -/
def mapOrders (os : List Order) : List Order :=
  match os with
  | [] => []
  | o :: os => ⟨o.expr.mapConstants, o.direction⟩ :: mapOrders os
termination_by sizeOf os
decreasing_by
  · have := o.sizeOf_expr_lt; simp only [List.cons.sizeOf_spec]; omega
  · simp only [List.cons.sizeOf_spec]; omega

/-- A join target with every constant replaced. -/
def Target.mapConstants (t : Target) : Target :=
  match t with
  | .entity name => .entity name
  | .query q => .query q.mapConstants
termination_by sizeOf t

/-- A join condition with every constant replaced. -/
def mapCondition? (c? : Option Condition) : Option Condition :=
  match c? with
  | none => none
  | some (.fields left right) => some (.fields left right)
  | some (.predicate e) => some (.predicate e.mapConstants)
termination_by sizeOf c?

/-- Joins with every constant replaced. -/
def mapJoins (js : List Join) : List Join :=
  match js with
  | [] => []
  | j :: js =>
    ⟨j.target.mapConstants, j.label, j.kind, mapCondition? j.condition⟩ :: mapJoins js
termination_by sizeOf js
decreasing_by
  · have := j.sizeOf_target_lt; simp only [List.cons.sizeOf_spec]; omega
  · have := j.sizeOf_condition_lt; simp only [List.cons.sizeOf_spec]; omega
  · simp only [List.cons.sizeOf_spec]; omega

/-- A query with every constant replaced, the values of its columns included. -/
def Query.mapConstants (q : Query) : Query :=
  { q with
    select := mapSelection? q.select
    insert := q.insert.map (mapValues g)
    update := q.update.map (mapValues g)
    filter := mapExpr? q.filter
    prepared := mapExpr? q.prepared
    order := mapOrders q.order
    group := mapFields q.group
    joins := mapJoins q.joins }
termination_by sizeOf q
decreasing_by
  · exact q.sizeOf_select_lt
  · exact q.sizeOf_filter_lt
  · exact q.sizeOf_prepared_lt
  · exact q.sizeOf_order_lt
  · exact q.sizeOf_group_lt
  · exact q.sizeOf_joins_lt

end

/-! ### The walks as maps -/

theorem mapExprs_eq_map (es : List Expr) : mapExprs g es = es.map (Expr.mapConstants g) := by
  induction es with
  | nil => rw [mapExprs, List.map_nil]
  | cons e es ih => rw [mapExprs, ih, List.map_cons]

theorem mapExpr?_eq_map (e? : Option Expr) : mapExpr? g e? = e?.map (Expr.mapConstants g) := by
  cases e? <;> rw [mapExpr?] <;> rfl

/-- A field with every constant replaced. -/
def Field.mapConstants (f : Field) : Field := ⟨f.expr.mapConstants g, f.label⟩

theorem mapFields_eq_map (fs : List Field) : mapFields g fs = fs.map (Field.mapConstants g) := by
  induction fs with
  | nil => rw [mapFields, List.map_nil]
  | cons f fs ih => rw [mapFields, ih, List.map_cons, Field.mapConstants]

theorem mapSelection?_eq_map (fs? : Option (List Field)) :
    mapSelection? g fs? = fs?.map (List.map (Field.mapConstants g)) := by
  cases fs? <;> rw [mapSelection?]
  · rfl
  · rw [mapFields_eq_map]; rfl

/-- An order item with every constant replaced. -/
def Order.mapConstants (o : Order) : Order := ⟨o.expr.mapConstants g, o.direction⟩

theorem mapOrders_eq_map (os : List Order) : mapOrders g os = os.map (Order.mapConstants g) := by
  induction os with
  | nil => rw [mapOrders, List.map_nil]
  | cons o os ih => rw [mapOrders, ih, List.map_cons, Order.mapConstants]

/-- A condition with every constant replaced. -/
def Condition.mapConstants : Condition → Condition
  | .fields left right => .fields left right
  | .predicate e => .predicate (e.mapConstants g)

theorem mapCondition?_eq_map (c? : Option Condition) :
    mapCondition? g c? = c?.map (Condition.mapConstants g) := by
  rcases c? with - | ⟨l, r⟩ | e <;> rw [mapCondition?] <;> rfl

/-- A join with every constant replaced. -/
def Join.mapConstants (j : Join) : Join :=
  ⟨j.target.mapConstants g, j.label, j.kind, j.condition.map (Condition.mapConstants g)⟩

theorem mapJoins_eq_map (js : List Join) : mapJoins g js = js.map (Join.mapConstants g) := by
  induction js with
  | nil => rw [mapJoins, List.map_nil]
  | cons j js ih => rw [mapJoins, ih, List.map_cons, Join.mapConstants, mapCondition?_eq_map]

/-- A node with every constant replaced. -/
def Node.mapConstants : Node → Node
  | .expr e => .expr (e.mapConstants g)
  | .query q => .query (q.mapConstants g)

/-! ### What is left as it is -/

namespace Expr

@[simp] theorem mapConstants_lit (v : Json) : (lit v).mapConstants g = .lit (g v) := by
  rw [mapConstants]

@[simp] theorem mapConstants_member (path : String) :
    (member path).mapConstants g = .member path := by
  rw [mapConstants]

@[simp] theorem mapConstants_logical (op : Connective) (es : List Expr) :
    (logical op es).mapConstants g = .logical op (es.map (mapConstants g)) := by
  rw [mapConstants, mapExprs_eq_map]

@[simp] theorem mapConstants_compare (l : Expr) (op : Comparison) (r : Expr) :
    (compare l op r).mapConstants g = .compare (l.mapConstants g) op (r.mapConstants g) := by
  rw [mapConstants]

@[simp] theorem mapConstants_arith (l : Expr) (op : Arith) (r : Expr) :
    (arith l op r).mapConstants g = .arith (l.mapConstants g) op (r.mapConstants g) := by
  rw [mapConstants]

@[simp] theorem mapConstants_call (name : String) (args : List Expr) :
    (call name args).mapConstants g = .call name (args.map (mapConstants g)) := by
  rw [mapConstants, mapExprs_eq_map]

@[simp] theorem mapConstants_not (e : Expr) :
    (not e).mapConstants g = .not (e.mapConstants g) := by
  rw [mapConstants]

@[simp] theorem mapConstants_subquery (q : Query) :
    (subquery q).mapConstants g = .subquery (q.mapConstants g) := by
  rw [mapConstants]

end Expr

@[simp] theorem Target.mapConstants_entity (name : String) :
    (Target.entity name).mapConstants g = .entity name := by
  rw [mapConstants]

@[simp] theorem Target.mapConstants_query (q : Query) :
    (Target.query q).mapConstants g = .query (q.mapConstants g) := by
  rw [mapConstants]

/-- A query with every constant replaced, clause by clause. -/
theorem Query.mapConstants_eq (q : Query) :
    q.mapConstants g = { q with
      select := q.select.map (List.map (Field.mapConstants g))
      insert := q.insert.map (mapValues g)
      update := q.update.map (mapValues g)
      filter := q.filter.map (Expr.mapConstants g)
      prepared := q.prepared.map (Expr.mapConstants g)
      order := q.order.map (Order.mapConstants g)
      group := q.group.map (Field.mapConstants g)
      joins := q.joins.map (Join.mapConstants g) } := by
  rw [mapConstants, mapSelection?_eq_map, mapExpr?_eq_map, mapExpr?_eq_map, mapOrders_eq_map,
    mapFields_eq_map, mapJoins_eq_map]

namespace Query

variable (q : Query)

/-! What a query is besides its clauses does not depend on constants. -/

@[simp] theorem collection_mapConstants : (q.mapConstants g).collection = q.collection := by
  rw [mapConstants_eq]

@[simp] theorem label_mapConstants : (q.mapConstants g).label = q.label := by
  rw [mapConstants_eq]

@[simp] theorem skip_mapConstants : (q.mapConstants g).skip = q.skip := by rw [mapConstants_eq]

@[simp] theorem take_mapConstants : (q.mapConstants g).take = q.take := by rw [mapConstants_eq]

@[simp] theorem distinct_mapConstants : (q.mapConstants g).distinct = q.distinct := by
  rw [mapConstants_eq]

@[simp] theorem fixed_mapConstants : (q.mapConstants g).fixed = q.fixed := by rw [mapConstants_eq]

@[simp] theorem delete_mapConstants : (q.mapConstants g).delete = q.delete := by
  rw [mapConstants_eq]

@[simp] theorem select_mapConstants :
    (q.mapConstants g).select = q.select.map (List.map (Field.mapConstants g)) := by
  rw [mapConstants_eq]

@[simp] theorem insert_mapConstants :
    (q.mapConstants g).insert = q.insert.map (mapValues g) := by
  rw [mapConstants_eq]

@[simp] theorem update_mapConstants :
    (q.mapConstants g).update = q.update.map (mapValues g) := by
  rw [mapConstants_eq]

@[simp] theorem order_mapConstants :
    (q.mapConstants g).order = q.order.map (Order.mapConstants g) := by
  rw [mapConstants_eq]

@[simp] theorem group_mapConstants :
    (q.mapConstants g).group = q.group.map (Field.mapConstants g) := by
  rw [mapConstants_eq]

@[simp] theorem joins_mapConstants :
    (q.mapConstants g).joins = q.joins.map (Join.mapConstants g) := by
  rw [mapConstants_eq]

@[simp] theorem kind_mapConstants : (q.mapConstants g).kind = q.kind := by
  simp [kind, kinds]

@[simp] theorem hasPaging_mapConstants : (q.mapConstants g).hasPaging = q.hasPaging := by
  simp [hasPaging]

@[simp] theorem entity_mapConstants : (q.mapConstants g).entity = q.entity := by
  simp [entity]

end Query

/-- The fields of a query are mapped one by one, selected and grouped ones alike. -/
theorem Query.fields_mapConstants (q : Query) :
    (q.mapConstants g).fields = q.fields.map (Field.mapConstants g) := by
  rw [mapConstants_eq, fields, fields, List.map_append]
  cases q.select <;> rfl

/-- The expressions right inside a query are mapped one by one, in whichever clause they stand. -/
theorem Query.exprs_mapConstants (q : Query) :
    (q.mapConstants g).exprs = q.exprs.map (Expr.mapConstants g) := by
  -- a condition of a join is an expression only where it is a predicate
  have conditions (js : List Join) :
      ((js.map (Join.mapConstants g)).filterMap fun j => j.condition.bind Condition.predicate?) =
        (js.filterMap fun j => j.condition.bind Condition.predicate?).map
          (Expr.mapConstants g) := by
    rw [List.filterMap_map, List.map_filterMap]
    congr 1
    funext j
    rcases hc : j.condition with - | ⟨l, r⟩ | e <;>
      simp [Join.mapConstants, hc, Condition.mapConstants, Condition.predicate?]
  have options (o : Option Expr) :
      (o.map (Expr.mapConstants g)).toList = o.toList.map (Expr.mapConstants g) := by
    cases o <;> rfl
  unfold exprs
  rw [fields_mapConstants, mapConstants_eq]
  simp only [conditions, options, List.map_append, List.map_map]
  rfl

/-- The joined queries are mapped one by one. -/
theorem Query.targets_mapConstants (q : Query) :
    (q.mapConstants g).targets = q.targets.map (Query.mapConstants g) := by
  rw [mapConstants_eq, targets, targets, List.filterMap_map, List.map_filterMap]
  congr 1
  funext j
  cases ht : j.target <;> simp [Join.mapConstants, ht, Target.query?]

/-- Mapping constants goes part by part, so it keeps the shape of a tree. -/
theorem Node.parts_mapConstants (n : Node) :
    (n.mapConstants g).parts = n.parts.map (Node.mapConstants g) := by
  cases n with
  | expr e => cases e <;> simp [mapConstants, parts, Expr.parts]
  | query q =>
    rw [mapConstants, parts, parts, Query.exprs_mapConstants, Query.targets_mapConstants,
      List.map_append, List.map_map, List.map_map, List.map_map, List.map_map]
    rfl

/-- A property that does not see the constants holds everywhere in both trees or in none. -/
theorem Everywhere.mapConstants_iff {P : Node → Prop} (h : ∀ n, P (n.mapConstants g) ↔ P n)
    (n : Node) : Everywhere P (n.mapConstants g) ↔ Everywhere P n := by
  induction n using Node.induction with
  | step n ih =>
    rw [iff_parts, iff_parts, h, n.parts_mapConstants, List.forall_mem_map]
    exact and_congr_right fun _ => forall₂_congr ih

/-! ### Constants that stay -/

theorem map_eq_self {α : Type} {f : α → α} {as : List α} (h : ∀ a ∈ as, f a = a) :
    as.map f = as := by
  rw [List.map_congr_left h, List.map_id']

theorem option_map_eq_self {α : Type} {f : α → α} {a? : Option α} (h : ∀ a, a? = some a → f a = a) :
    a?.map f = a? := by
  cases a? with
  | none => rfl
  | some a => rw [Option.map_some, h a rfl]

/-- The clauses of a query stay as they are if the nodes right inside it do. -/
theorem Query.mapConstants_id_of_parts {q : Query} (exprs : ∀ e ∈ q.exprs, e.mapConstants id = e)
    (targets : ∀ p ∈ q.targets, p.mapConstants id = p) : q.mapConstants id = q := by
  have fields {fs : List Field} (h : ∀ f ∈ fs, f ∈ q.fields) :
      fs.map (Field.mapConstants id) = fs := by
    refine map_eq_self fun f hf => ?_
    rw [Field.mapConstants, exprs _ (field_mem_exprs (h f hf))]
    cases f; rfl
  have select : q.select.map (List.map (Field.mapConstants id)) = q.select :=
    option_map_eq_self fun fs hs => fields fun f hf => List.mem_append_left _ (by rwa [hs])
  have values (values? : Option (List (String × Json))) :
      values?.map (mapValues id) = values? :=
    option_map_eq_self fun _ _ => map_eq_self fun _ _ => rfl
  have filter : q.filter.map (Expr.mapConstants id) = q.filter :=
    option_map_eq_self fun e he => exprs e (filter_mem_exprs he)
  have prepared : q.prepared.map (Expr.mapConstants id) = q.prepared :=
    option_map_eq_self fun e he => exprs e (prepared_mem_exprs he)
  have order : q.order.map (Order.mapConstants id) = q.order := by
    refine map_eq_self fun o ho => ?_
    rw [Order.mapConstants, exprs _ (order_mem_exprs ho)]
    cases o; rfl
  have group : q.group.map (Field.mapConstants id) = q.group :=
    fields fun f hf => List.mem_append_right _ hf
  -- a join may hold a nested query, an expression, or both
  have joins : q.joins.map (Join.mapConstants id) = q.joins := by
    refine map_eq_self fun j hj => ?_
    have target : j.target.mapConstants id = j.target := by
      cases ht : j.target with
      | entity name => rw [Target.mapConstants_entity]
      | query p =>
        rw [Target.mapConstants_query, targets p (query_mem_targets hj (by rw [ht]; rfl))]
    have condition : j.condition.map (Condition.mapConstants id) = j.condition := by
      refine option_map_eq_self fun c hc => ?_
      cases c with
      | fields left right => rfl
      | predicate e =>
        rw [Condition.mapConstants, exprs e (predicate_mem_exprs hj (by rw [hc]; rfl))]
    rw [Join.mapConstants, target, condition]
    cases j; rfl
  rw [mapConstants_eq, select, values, values, filter, prepared, order, group, joins]
  cases q; rfl

/-- A tree whose constants stay as they are is the same tree. -/
theorem Node.mapConstants_id (n : Node) : n.mapConstants id = n := by
  induction n using Node.induction with
  | step n ih =>
    cases n with
    | query q =>
      refine congrArg Node.query (Query.mapConstants_id_of_parts (fun e he => ?_) fun p hp => ?_)
      · exact Node.expr.inj (ih (.expr e) (List.mem_append_left _ (List.mem_map_of_mem he)))
      · exact Node.query.inj (ih (.query p) (List.mem_append_right _ (List.mem_map_of_mem hp)))
    | expr e =>
      refine congrArg Node.expr ?_
      have part {d : Expr} (h : .expr d ∈ (Node.expr e).parts) : d.mapConstants id = d :=
        Node.expr.inj (ih (.expr d) h)
      cases e with
      | lit v => rw [Expr.mapConstants_lit]; rfl
      | member path => rw [Expr.mapConstants_member]
      | logical op es =>
        have same : ∀ d ∈ es, d.mapConstants id = d := fun d hd => part (List.mem_map_of_mem hd)
        rw [Expr.mapConstants_logical, map_eq_self same]
      | call name args =>
        have same : ∀ d ∈ args, d.mapConstants id = d := fun d hd => part (List.mem_map_of_mem hd)
        rw [Expr.mapConstants_call, map_eq_self same]
      | compare l op r =>
        rw [Expr.mapConstants_compare, part (d := l) (by simp [parts, Expr.parts]),
          part (d := r) (by simp [parts, Expr.parts])]
      | arith l op r =>
        rw [Expr.mapConstants_arith, part (d := l) (by simp [parts, Expr.parts]),
          part (d := r) (by simp [parts, Expr.parts])]
      | not d => rw [Expr.mapConstants_not, part (d := d) (by simp [parts, Expr.parts])]
      | subquery q =>
        have inner : q.mapConstants id = q := Node.query.inj (ih (.query q) (by simp [parts]))
        rw [Expr.mapConstants_subquery, inner]

/-- Nothing changes if every constant stays. -/
theorem Expr.mapConstants_id (e : Expr) : e.mapConstants id = e :=
  Node.expr.inj (Node.mapConstants_id (.expr e))

theorem Query.mapConstants_id (q : Query) : q.mapConstants id = q :=
  Node.query.inj (Node.mapConstants_id (.query q))

/-! ### Maps of texts -/

/-- A map of constants that changes texts, those in arrays too, and leaves the other constants as
they are. What becomes of objects is left open, since they stand for trees of their own. -/
structure Json.ChangesTexts (g : Json → Json) (text : String → String) : Prop where
  null : g .null = .null
  bool (b : Bool) : g (.bool b) = .bool b
  int (n : Int) : g (.int n) = .int n
  float (x : Float) : g (.float x) = .float x
  str (s : String) : g (.str s) = .str (text s)
  arr (items : List Json) : g (.arr items) = .arr (items.map g)
  obj (fields : List (String × Json)) : ∃ fields', g (.obj fields) = .obj fields'

theorem Json.changesTexts_id : ChangesTexts id id where
  null := rfl
  bool _ := rfl
  int _ := rfl
  float _ := rfl
  str _ := rfl
  arr items := by rw [List.map_id]; rfl
  obj fields := ⟨fields, rfl⟩

/-- A map that changes texts makes no truth value of anything else. -/
theorem Json.ChangesTexts.eq_bool_iff {g : Json → Json} {text : String → String}
    (hg : ChangesTexts g text) {v : Json} {b : Bool} : g v = .bool b ↔ v = .bool b := by
  cases v with
  | obj fields =>
    obtain ⟨fields', h⟩ := hg.obj fields
    simp [h]
  | _ => simp [hg.null, hg.bool, hg.int, hg.float, hg.str, hg.arr]

mutual

/-- A value with its texts emptied, those of its items and fields too. -/
def Json.blank : Json → Json
  | .str _ => .str ""
  | .arr items => .arr (blankItems items)
  | .obj fields => .obj (blankFields fields)
  | v => v

/-- Items with their texts emptied. -/
def Json.blankItems : List Json → List Json
  | [] => []
  | v :: items => v.blank :: blankItems items

/-- Fields with the texts of their values emptied. -/
def Json.blankFields : List (String × Json) → List (String × Json)
  | [] => []
  | (key, v) :: fields => (key, v.blank) :: blankFields fields

end

/-- The items of an array are emptied one by one. -/
theorem Json.blankItems_eq_map (items : List Json) : blankItems items = items.map blank := by
  induction items with
  | nil => rfl
  | cons v items ih => rw [blankItems, ih, List.map_cons]

/-- Emptying texts changes nothing but texts. -/
theorem Json.changesTexts_blank : ChangesTexts blank fun _ => "" where
  null := rfl
  bool _ := rfl
  int _ := rfl
  float _ := rfl
  str _ := rfl
  arr items := by rw [blank, blankItems_eq_map]
  obj _ := ⟨_, rfl⟩

/-- Two expressions that differ in text constants only: emptying these gives one expression. -/
def Expr.SameButTexts (e e' : Expr) : Prop := e.mapConstants Json.blank = e'.mapConstants Json.blank

end Sift
