import Sift.Proofs.Constants
import Sift.Proofs.Folding
import Sift.Proofs.Sql.Classes
import Sift.Sql.Writer

/-!
# Plain trees

What keeps quotes out of the text around literals: no name has one, and no constant is an object,
which would be written as an expression of its own.

* `Node.Plain`: no quote in a name, no object as a constant.
* `Node.plain_blank_iff`: emptying the texts of a tree does not change that.
* `Query.predicate?_mapConstants`, `Query.everywhere_of_predicate?`: the predicate of a query, which
  is no part of it, but composed of parts.
-/

namespace Sift

mutual

/-- Whether a value holds an object, or is one. -/
def Json.hasObject : Json → Bool
  | .arr items => anyObject items
  | .obj _ => true
  | _ => false

/-- Whether one of the items holds an object. -/
def Json.anyObject : List Json → Bool
  | [] => false
  | v :: items => v.hasObject || anyObject items

end

/-- The names in a field reference. -/
def FieldRef.names (f : FieldRef) : List String := f.field :: f.entity.toList

/-- The names in a join condition. -/
def Condition.names : Condition → List String
  | .fields left right => (left ++ right).flatMap FieldRef.names
  | .predicate _ => []

/-- The name of what is joined, if it has one. -/
def Target.name? : Target → Option String
  | .entity name => some name
  | .query _ => none

/-- The names in a join: of an entity, of fields, and its label. -/
def Join.names (j : Join) : List String :=
  j.target.name?.toList ++ j.label.toList ++ j.condition.toList.flatMap Condition.names

/-- The names right in a node: the path of a member, or the entity and the labels of a query. -/
def Node.names : Node → List String
  | .expr e => e.path?.toList
  | .query q =>
    q.collection.toList ++ q.label.toList ++ q.fields.filterMap Field.label ++
      q.joins.flatMap Join.names

/-- No quote in a name, no object as a constant. -/
structure Node.Plain (n : Node) : Prop where
  names : ∀ s ∈ n.names, Sql.Quoteless s
  constant : ∀ v, n.constant? = some v → v.hasObject = false

/-- The constants right in a node: of an expression, or of columns with values. -/
def Node.constants : Node → List Json
  | .expr e => e.literal?.toList
  | .query q => (q.insert.getD [] ++ q.update.getD []).map Prod.snd

/-- No object as a constant. -/
def Node.Objectless (n : Node) : Prop := ∀ v ∈ n.constants, v.hasObject = false

/-- The values that are inserted or assigned are constants of the query. -/
theorem Node.Objectless.values {q : Query} {values : List (String × Json)}
    (h : (Node.query q).Objectless) (hv : q.insert = some values ∨ q.update = some values) :
    ∀ v ∈ values.map Prod.snd, v.hasObject = false := by
  intro v mem
  refine h v ?_
  rw [constants, List.map_append, List.mem_append]
  rcases hv with hv | hv
  · exact .inl (by rw [hv]; exact mem)
  · exact .inr (by rw [hv]; exact mem)

/-! ### Emptied texts -/

mutual

theorem Json.hasObject_blank (v : Json) : v.blank.hasObject = v.hasObject := by
  cases v with
  | arr items => rw [blank, hasObject, hasObject, anyObject_blankItems]
  | _ => rfl

theorem Json.anyObject_blankItems (items : List Json) :
    anyObject (blankItems items) = anyObject items := by
  cases items with
  | nil => rfl
  | cons v items =>
    rw [blankItems, anyObject, anyObject, hasObject_blank, anyObject_blankItems]

end

theorem Join.names_mapConstants (g : Json → Json) (j : Join) :
    (j.mapConstants g).names = j.names := by
  obtain ⟨t, l, k, c⟩ := j
  cases t <;> rcases c with - | ⟨_, _⟩ | _ <;>
    simp [names, mapConstants, Target.name?, Condition.mapConstants, Condition.names]

theorem Node.names_mapConstants (g : Json → Json) (n : Node) :
    (n.mapConstants g).names = n.names := by
  cases n with
  | expr e => cases e <;> simp [mapConstants, names, Expr.path?]
  | query q =>
    have labels : Field.label ∘ Field.mapConstants g = Field.label := rfl
    have joins : (fun j => (Join.mapConstants g j).names) = Join.names :=
      funext (Join.names_mapConstants g)
    rw [mapConstants, names, names, Query.fields_mapConstants, Query.mapConstants_eq,
      List.filterMap_map, labels, List.flatMap_map, joins]

theorem Node.constant?_mapConstants (g : Json → Json) (n : Node) :
    (n.mapConstants g).constant? = n.constant?.map g := by
  cases n with
  | expr e => cases e <;> simp [mapConstants, constant?, Expr.literal?]
  | query q => rfl

/-- **Plainness does not depend on texts**. -/
theorem Node.plain_blank_iff (n : Node) : (n.mapConstants .blank).Plain ↔ n.Plain := by
  have names := n.names_mapConstants .blank
  have constant := n.constant?_mapConstants .blank
  constructor
  · intro h
    refine ⟨names ▸ h.names, fun v hv => ?_⟩
    rw [← v.hasObject_blank]
    exact h.constant v.blank (by rw [constant, hv, Option.map_some])
  · intro h
    refine ⟨names ▸ h.names, fun v hv => ?_⟩
    rw [constant] at hv
    obtain ⟨u, hu, rfl⟩ := Option.map_eq_some_iff.1 hv
    rw [u.hasObject_blank]
    exact h.constant u hu

/-! ### The predicate of a query -/

section

variable {g : Json → Json} {text : String → String}

/-- Taking a connective apart does not look at constants. -/
theorem Expr.operandsOf_mapConstants (op : Connective) (e : Expr) :
    operandsOf op (e.mapConstants g) = (operandsOf op e).map (Expr.mapConstants g) := by
  cases e with
  | logical op' es =>
    rw [mapConstants_logical, operandsOf, operandsOf]
    split
    · rfl
    · rw [List.map_cons, mapConstants_logical, List.map_nil]
  | _ => simp [operandsOf]

/-- Connecting folds two truth values and nothing else. -/
theorem Expr.connect_eq_logical {op : Connective} {d e : Expr}
    (h : ∀ a b, d = .lit (.bool a) → e ≠ .lit (.bool b)) :
    connect op d e = .logical op (operandsOf op d ++ operandsOf op e) := by
  unfold connect
  split
  · next a b => exact absurd rfl (h a b rfl)
  · rfl

theorem Expr.mapConstants_eq_bool_iff (hg : Json.ChangesTexts g text) {e : Expr} {b : Bool} :
    e.mapConstants g = .lit (.bool b) ↔ e = .lit (.bool b) := by
  cases e <;> simp [hg.eq_bool_iff]

/-- Connectives compose in the same way whatever the texts in their operands are. -/
theorem Expr.connect_mapConstants (hg : Json.ChangesTexts g text) (op : Connective) (d e : Expr) :
    connect op (d.mapConstants g) (e.mapConstants g) = (connect op d e).mapConstants g := by
  by_cases h : ∃ a b, d = .lit (.bool a) ∧ e = .lit (.bool b)
  · obtain ⟨a, b, rfl, rfl⟩ := h
    simp [connect, hg.bool]
  · have apart (a b : Bool) (hd : d = .lit (.bool a)) : e ≠ .lit (.bool b) :=
      fun he => h ⟨a, b, hd, he⟩
    rw [connect_eq_logical apart, connect_eq_logical, operandsOf_mapConstants,
      operandsOf_mapConstants, mapConstants_logical, List.map_append]
    intro a b hd he
    rw [mapConstants_eq_bool_iff hg] at hd he
    exact apart a b hd he

/-- The merged condition is merged the same when the texts in it change, because truth values stay
what they are. -/
theorem Query.predicate?_mapConstants (hg : Json.ChangesTexts g text) (q : Query) :
    (q.mapConstants g).predicate? = q.predicate?.map (Expr.mapConstants g) := by
  rw [mapConstants_eq, predicate?, predicate?]
  cases q.filter <;> cases q.prepared <;>
    simp [Expr.all, Expr.joined, Expr.connect_mapConstants hg]

end

theorem Node.plain_of_no_names {n : Node} (names : n.names = []) (constant : n.constant? = none) :
    n.Plain :=
  ⟨by simp [names], by simp [constant]⟩

/-- The predicate of a query has a property everywhere exactly if what it filters by has, and
what was put aside. -/
theorem Query.everywhere_predicate?_iff {P : Node → Prop} (bool : ∀ b, P (.expr (.lit (.bool b))))
    (logical : ∀ es, P (.expr (.logical .and es))) (q : Query) :
    (∀ e, q.predicate? = some e → Everywhere P (.expr e)) ↔
      (∀ e, q.filter = some e → Everywhere P (.expr e)) ∧
      ∀ e, q.prepared = some e → Everywhere P (.expr e) := by
  unfold predicate?
  cases q.filter <;> cases q.prepared <;>
    simp [Expr.all, Expr.joined, Everywhere.connect_iff bool logical]

/-- The predicate of a query is composed of parts of it, so it has every property that these have
everywhere and that composition gives to truth values and connectives. -/
theorem Query.everywhere_of_predicate? {P : Node → Prop} (bool : ∀ b, P (.expr (.lit (.bool b))))
    (logical : ∀ es, P (.expr (.logical .and es))) {q : Query} (h : Everywhere P (.query q))
    {e : Expr} (he : q.predicate? = some e) : Everywhere P (.expr e) := by
  have inside := (Everywhere.query_iff.1 h).2.1
  exact (q.everywhere_predicate?_iff bool logical).2
    ⟨fun d hd => inside d (filter_mem_exprs hd), fun d hd => inside d (prepared_mem_exprs hd)⟩ e he

end Sift
