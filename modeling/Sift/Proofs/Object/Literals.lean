import Sift.Object.Decode
import Sift.Proofs.Inside
import Sift.Proofs.Steps
import Sift.Proofs.Tree

/-!
# The constants of a decoded tree

Every constant of the tree that a value stands for is a value inside it, and none is an object: an
object is read as an expression wherever it stands, in nested queries and joins too.

* `Node.LiteralIn`: a constant with a property, that is no object; `Decoded`: all constants are.
* `Reads`: values that are read as such trees; `Reads.object` and its kin: one construct each, from
  the values inside it.
* `reads_below`: values of any size, by induction on it.
* `Expr.decoded_inside`: the constants of a tree are values inside the value it was read from.
-/

namespace Sift

open Json

/-! ### Trees whose constants have a property -/

/-- A constant with a property, that is no object. -/
def Node.LiteralIn (S : Json → Prop) (n : Node) : Prop :=
  ∀ w, n.constant? = some w → S w ∧ w.isObj = false

/-- All constants have a property, and none is an object. -/
abbrev Decoded (S : Json → Prop) (n : Node) : Prop := Everywhere (Node.LiteralIn S) n

section

variable {S : Json → Prop}

/-- Only constants are restricted. -/
theorem Node.literalIn_of_none {n : Node} (h : n.constant? = none) : n.LiteralIn S := by
  intro w hw
  rw [h] at hw
  cases hw

theorem decoded_lit {v : Json} (h : S v) (hv : v.isObj = false) : Decoded S (.expr (.lit v)) := by
  refine Everywhere.lit_iff.2 fun w hw => ?_
  cases hw
  exact ⟨h, hv⟩

theorem decoded_member (path : String) : Decoded S (.expr (.member path)) :=
  Everywhere.member_iff.2 (Node.literalIn_of_none rfl)

theorem decoded_logical {op : Connective} {es : List Expr} (h : ∀ e ∈ es, Decoded S (.expr e)) :
    Decoded S (.expr (.logical op es)) :=
  Everywhere.logical_iff.2 ⟨Node.literalIn_of_none rfl, h⟩

theorem decoded_compare {op : Comparison} {l r : Expr} (hl : Decoded S (.expr l))
    (hr : Decoded S (.expr r)) : Decoded S (.expr (.compare l op r)) :=
  Everywhere.compare_iff.2 ⟨Node.literalIn_of_none rfl, hl, hr⟩

theorem decoded_call {name : String} {args : List Expr} (h : ∀ e ∈ args, Decoded S (.expr e)) :
    Decoded S (.expr (.call name args)) :=
  Everywhere.call_iff.2 ⟨Node.literalIn_of_none rfl, h⟩

theorem decoded_not {e : Expr} (h : Decoded S (.expr e)) : Decoded S (.expr (.not e)) :=
  Everywhere.not_iff.2 ⟨Node.literalIn_of_none rfl, h⟩

theorem decoded_subquery {q : Query} (h : Decoded S (.query q)) :
    Decoded S (.expr (.subquery q)) :=
  Everywhere.subquery_iff.2 ⟨Node.literalIn_of_none rfl, h⟩

/-- Whether a name becomes a call or an operation, the arguments are its only parts. -/
theorem decoded_functionExpr {name : String} {args : List Expr}
    (h : ∀ e ∈ args, Decoded S (.expr e)) : Decoded S (.expr (functionExpr name args)) := by
  unfold functionExpr
  split
  · rw [List.forall_mem_cons, List.forall_mem_singleton] at h
    exact Everywhere.arith_iff.2 ⟨Node.literalIn_of_none rfl, h⟩
  · exact decoded_call h

/-- A target or none whose constants have a property. -/
def DecodedTarget (S : Json → Prop) (target? : Option Target) : Prop :=
  ∀ q, target?.bind Target.query? = some q → Decoded S (.query q)

/-- A condition or none whose constants have a property. -/
def DecodedCondition (S : Json → Prop) (condition? : Option Condition) : Prop :=
  ∀ e, condition?.bind Condition.predicate? = some e → Decoded S (.expr e)

/-- A query whose constants have a property, clause by clause. -/
structure DecodedClauses (S : Json → Prop) (q : Query) : Prop where
  select : ∀ f ∈ q.select.getD [], Decoded S (.expr f.expr)
  group : ∀ f ∈ q.group, Decoded S (.expr f.expr)
  filter : ∀ e ∈ q.filter, Decoded S (.expr e)
  prepared : ∀ e ∈ q.prepared, Decoded S (.expr e)
  order : ∀ o ∈ q.order, Decoded S (.expr o.expr)
  joins : ∀ j ∈ q.joins, DecodedTarget S (some j.target) ∧ DecodedCondition S j.condition

theorem DecodedClauses.empty : DecodedClauses S .empty := by
  constructor <;> simp [Query.empty]

theorem DecodedClauses.query {q : Query} (h : DecodedClauses S q) : Decoded S (.query q) := by
  refine Everywhere.query_iff.2 ⟨Node.literalIn_of_none rfl, ?_, ?_⟩
  · exact Query.forall_mem_exprs.2 ⟨List.forall_mem_append.2 ⟨h.select, h.group⟩, h.filter,
      h.prepared, h.order, fun j hj => (h.joins j hj).2⟩
  · exact Query.forall_mem_targets.2 fun j hj => (h.joins j hj).1

end

/-! ### Reading -/

/-- Wrapping its faults does not change what is read. -/
theorem insideQuery_eq_ok {α : Type} {x : Except Error α} {a : α} (h : insideQuery x = .ok a) :
    x = .ok a := by
  cases x with
  | ok b => exact h
  | error e => cases h

/-- A list read item by item: what is read has a property if what is read from each item does.
-/
theorem forall_mem_of_read {α β : Type} {read : α → Except Error β}
    {readAll : List α → Except Error (List β)} (nil : readAll [] = .ok [])
    (cons : ∀ a as, readAll (a :: as) = do
      let b ← read a
      let bs ← readAll as
      return b :: bs)
    {P : β → Prop} {Q : α → Prop} (each : ∀ a b, read a = .ok b → Q a → P b) {as : List α}
    {bs : List β} (h : readAll as = .ok bs) (has : ∀ a ∈ as, Q a) : ∀ b ∈ bs, P b := by
  -- one element after the other, which is all that the readers of lists have in common
  induction as generalizing bs with
  | nil =>
    rw [nil] at h
    cases h
    exact List.forall_mem_nil _
  | cons a as ih =>
    rw [List.forall_mem_cons] at has
    rw [cons] at h
    obtain ⟨b, hb, h⟩ := bind_eq_ok.1 h
    obtain ⟨bs, hbs, h⟩ := bind_eq_ok.1 h
    cases h
    exact List.forall_mem_cons.2 ⟨each a b hb has.1, ih hbs has.2⟩

/-- Two lists of columns hold no predicate. -/
theorem predicate?_of_decodeFieldPairs {v : Json} {c : Condition}
    (h : decodeFieldPairs v = .ok c) : c.predicate? = none := by
  unfold decodeFieldPairs at h
  obtain ⟨sides, _, h⟩ := bind_eq_ok.1 h
  split at h
  · cases h
    rfl
  · cases h

namespace Json.Inward

variable {T : Json → Prop} (hT : Inward T)

include hT

/-- The pattern of a search is the value itself, or the one under its key for searches. -/
theorem searchPattern {v : Json} (h : T v) : T (Sift.searchPattern v) := by
  unfold Sift.searchPattern
  split
  · next fields =>
    cases found : get? "$search" fields with
    | none => exact h
    | some w =>
      obtain ⟨key, mem⟩ := exists_mem_of_get? found
      exact hT.field h mem
  · exact h

/-- A record is an object, or a list of the values of its fields in order. -/
theorem recordFields {names : List String} {v : Json} {fields : List (String × Json)}
    (h : T v) (hf : recordFields? names v = some fields) : ∀ field ∈ fields, T field.2 := by
  unfold recordFields? at hf
  split at hf
  · cases hf
    exact fun field mem => hT.field h mem
  · cases hf
    exact fun field mem => hT.item h (List.of_mem_zip mem).2
  · cases hf

end Json.Inward

/-- Values that are read as trees whose constants have a property: on their own, compared with
something, and as queries. -/
structure Reads (S T : Json → Prop) : Prop where
  expr {v : Json} {e : Expr} (h : Expr.ofJson v = .ok e) (hv : T v) : Decoded S (.expr e)
  comparison {left : Expr} {v : Json} {e : Expr} (h : decodeComparison left v = .ok e)
    (hl : Decoded S (.expr left)) (hv : T v) : Decoded S (.expr e)
  query {v : Json} {q : Query} (h : Query.ofJson v = .ok q) (hv : T v) : Decoded S (.query q)

namespace Reads

variable {S T : Json → Prop} (ih : Reads S T) (hT : Inward T)

include ih

/-! ### Expressions of values that are read -/

/-- The elements of a list are read one by one. -/
theorem exprs {items : List Json} {es : List Expr} (h : decodeExprs items = .ok es)
    (hi : ∀ v ∈ items, T v) : ∀ e ∈ es, Decoded S (.expr e) :=
  forall_mem_of_read (by rw [decodeExprs]) (fun v items => by rw [decodeExprs])
    (fun _ _ read hv => ih.expr read hv) h hi

/-- A function under a member has its arguments in front of what it is compared with. -/
theorem applied {key name : String} {args : List Expr} {items : List Json} {e : Expr}
    (h : decodeApplied key name args items = .ok e) (ha : ∀ a ∈ args, Decoded S (.expr a))
    (hi : ∀ v ∈ items, T v) : Decoded S (.expr e) := by
  -- the last value is what is compared, and those in front of it are arguments
  induction items generalizing args with
  | nil =>
    rw [decodeApplied] at h
    cases h
  | cons v items rest =>
    cases items with
    | nil =>
      rw [decodeApplied] at h
      exact ih.comparison h (decoded_functionExpr ha) (hi v (List.mem_singleton_self v))
    | cons w items =>
      rw [List.forall_mem_cons] at hi
      rw [decodeApplied] at h
      obtain ⟨arg, harg, h⟩ := bind_eq_ok.1 h
      have read : ∀ a ∈ [arg], Decoded S (.expr a) :=
        List.forall_mem_singleton.2 (ih.expr harg hi.1)
      exact rest h (List.forall_mem_append.2 ⟨ha, read⟩) hi.2

/-- A predicate may be absent or nothing. -/
theorem predicate {v : Json} {e? : Option Expr} (h : decodePredicate? v = .ok e?) (hv : T v) :
    ∀ e ∈ e?, Decoded S (.expr e) := by
  rw [decodePredicate?.eq_def] at h
  split at h
  · cases h
    simp
  · obtain ⟨e, he, h⟩ := bind_eq_ok.1 h
    cases h
    rintro _ ⟨⟩
    exact ih.expr (insideQuery_eq_ok he) hv

include hT

/-- A function has a list of arguments, one argument or none. -/
theorem function {name : String} {v : Json} {e : Expr}
    (h : decodeFunction name v = .ok e) (hv : T v) : Decoded S (.expr e) := by
  rw [decodeFunction.eq_def] at h
  split at h
  · obtain ⟨args, hargs, h⟩ := bind_eq_ok.1 h
    cases h
    exact decoded_functionExpr (ih.exprs hargs fun w mem => hT.item hv mem)
  · obtain ⟨arg, harg, h⟩ := bind_eq_ok.1 h
    cases h
    exact decoded_functionExpr (List.forall_mem_singleton.2 (ih.expr harg hv))

/-- An entry is a member that is compared, a connective, a comparison of two sides, a negation or a
function. -/
theorem entry {key : String} {v : Json} {e : Expr} (h : decodeEntry key v = .ok e)
    (hv : T v) : Decoded S (.expr e) := by
  rw [decodeEntry.eq_def] at h
  -- no key with a dollar sign, a name, a negation, or one of the operators
  split at h
  · exact ih.comparison h (decoded_member _) hv
  · split at h
    · cases h
      exact decoded_member _
    · exact ih.function hT h hv
  · obtain ⟨e, he, h⟩ := bind_eq_ok.1 h
    cases h
    exact decoded_not (ih.expr he hv)
  · split at h
    · split at h
      · obtain ⟨es, hes, h⟩ := bind_eq_ok.1 h
        cases h
        exact decoded_logical (ih.exprs hes fun w mem => hT.item hv mem)
      · cases h
    · split at h
      · split at h
        · next l r =>
          obtain ⟨left, hl, h⟩ := bind_eq_ok.1 h
          obtain ⟨right, hr, h⟩ := bind_eq_ok.1 h
          cases h
          have first : T l := hT.item hv List.mem_cons_self
          have second : T r := hT.item hv (List.mem_cons_of_mem l List.mem_cons_self)
          exact decoded_compare (ih.expr hl first) (ih.expr hr second)
        · cases h
      · exact ih.function hT h hv

theorem entries {fields : List (String × Json)} {es : List Expr}
    (h : decodeEntries fields = .ok es) (hf : ∀ field ∈ fields, T field.2) :
    ∀ e ∈ es, Decoded S (.expr e) :=
  forall_mem_of_read (by rw [decodeEntries]) (fun field fields => by rw [decodeEntries])
    (fun _ _ read hv => ih.entry hT read hv) h hf

/-- The right side of a comparison under a member, or a function applied to the member. -/
theorem comparisonEntry {left : Expr} {key : String} {v : Json} {e : Expr}
    (h : decodeComparisonEntry left key v = .ok e) (hl : Decoded S (.expr left)) (hv : T v) :
    Decoded S (.expr e) := by
  -- what stands on the left has been read already
  have alone : ∀ e ∈ [left], Decoded S (.expr e) := List.forall_mem_singleton.2 hl
  have pattern {name : String} {e : Expr} (he : Decoded S (.expr e)) :
      Decoded S (.expr (.call name [left, e])) :=
    decoded_call (List.forall_mem_cons.2 ⟨hl, List.forall_mem_singleton.2 he⟩)
  rw [decodeComparisonEntry.eq_def] at h
  split at h
  · cases h
  · split at h
    · split at h
      · cases h
      · obtain ⟨right, hr, h⟩ := bind_eq_ok.1 h
        cases h
        exact decoded_compare hl (ih.expr hr hv)
    · split at h
      · obtain ⟨text, ht, h⟩ := bind_eq_ok.1 h
        cases h
        exact pattern (ih.expr ht (hT.searchPattern hv))
      · obtain ⟨text, ht, h⟩ := bind_eq_ok.1 h
        cases h
        exact pattern (ih.expr ht hv)
      · split at h
        · exact ih.applied h alone fun w mem => hT.item hv mem
        · exact ih.comparison h (decoded_functionExpr alone) hv

theorem comparisons {left : Expr} {fields : List (String × Json)} {es : List Expr}
    (h : decodeComparisons left fields = .ok es) (hl : Decoded S (.expr left))
    (hf : ∀ field ∈ fields, T field.2) : ∀ e ∈ es, Decoded S (.expr e) :=
  forall_mem_of_read (by rw [decodeComparisons]) (fun field fields => by rw [decodeComparisons])
    (fun _ _ read hv => ih.comparisonEntry hT read hl hv) h hf

/-! ### Clauses of values that are read -/

/-- A field is a column's name, a keyed comparison, or an expression under its label. -/
theorem field {v : Json} {f : Field} (h : Field.ofJson v = .ok f) (hv : T v) :
    Decoded S (.expr f.expr) := by
  rw [Field.ofJson.eq_def] at h
  split at h
  · cases h
    exact decoded_member _
  · next key w =>
    have inside : T w := hT.field hv (List.mem_singleton_self (key, w))
    -- an object of one entry may be an expression as a whole, or one under a label
    have whole {e : Expr} (he : decodeObject [(key, w)] = .ok e) :
        Expr.ofJson (.obj [(key, w)]) = .ok e := by rw [Expr.ofJson, he]
    split at h
    · obtain ⟨e, he, h⟩ := bind_eq_ok.1 h
      cases h
      exact ih.expr (whole he) hv
    · cases h
      exact decoded_member _
    · obtain ⟨e, he, h⟩ := bind_eq_ok.1 h
      cases h
      exact ih.expr he inside
  · obtain ⟨e, he, h⟩ := bind_eq_ok.1 h
    cases h
    exact ih.expr he hv

theorem fields {items : List Json} {fs : List Field} (h : decodeFields items = .ok fs)
    (hi : ∀ v ∈ items, T v) : ∀ f ∈ fs, Decoded S (.expr f.expr) :=
  forall_mem_of_read (by rw [decodeFields]) (fun v items => by rw [decodeFields])
    (fun _ _ read hv => ih.field hT (insideQuery_eq_ok read) hv) h hi

omit hT in
/-- The parts of an ordering come in any order, so the property of what is read already is carried
along. -/
theorem orderParts {seen : List String} {e? : Option Expr} {direction : Direction}
    {fields : List (String × Json)} {parts : Option Expr × Direction}
    (h : decodeOrderParts seen e? direction fields = .ok parts)
    (he : ∀ e ∈ e?, Decoded S (.expr e)) (hf : ∀ field ∈ fields, T field.2) :
    ∀ e ∈ parts.1, Decoded S (.expr e) := by
  -- on the fields, whatever was read of the ordering in front of them
  induction fields generalizing seen e? direction with
  | nil =>
    rw [decodeOrderParts] at h
    cases h
    exact he
  | cons field fields rest =>
    rw [List.forall_mem_cons] at hf
    rw [decodeOrderParts.eq_def] at h
    dsimp only at h
    split at h
    · cases h
    · split at h
      · obtain ⟨e, read, h⟩ := bind_eq_ok.1 h
        refine rest h ?_ hf.2
        rintro _ ⟨⟩
        exact ih.expr (insideQuery_eq_ok read) hf.1
      · obtain ⟨d, _, h⟩ := bind_eq_ok.1 h
        exact rest h he hf.2
      · exact rest h he hf.2

/-- An ordering is a path, or an object of its parts. -/
theorem order {v : Json} {o : Order} (h : Order.ofJson v = .ok o) (hv : T v) :
    Decoded S (.expr o.expr) := by
  rw [Order.ofJson.eq_def] at h
  split at h
  · cases h
  · next fields record =>
    obtain ⟨⟨e?, direction⟩, parts, h⟩ := bind_eq_ok.1 h
    have read := ih.orderParts parts (by simp) (hT.recordFields hv record)
    cases e? with
    | none => cases h
    | some e =>
      dsimp only at h
      split at h
      · cases h
      · cases h
        exact read e rfl

theorem orders {items : List Json} {os : List Order} (h : decodeOrders items = .ok os)
    (hi : ∀ v ∈ items, T v) : ∀ o ∈ os, Decoded S (.expr o.expr) :=
  forall_mem_of_read (by rw [decodeOrders]) (fun v items => by rw [decodeOrders])
    (fun _ _ read hv => ih.order hT read hv) h hi

/-- A target is a name or a nested query. -/
theorem target {v : Json} {t : Target} (h : Target.ofJson v = .ok t) (hv : T v) :
    DecodedTarget S (some t) := by
  rw [Target.ofJson.eq_def] at h
  split at h
  · cases h
    intro q hq
    cases hq
  · obtain ⟨q, read, h⟩ := bind_eq_ok.1 h
    cases h
    rintro _ ⟨⟩
    exact ih.query read (hT.field hv (List.mem_singleton_self _))
  · cases h

/-- A condition is two lists of columns or a predicate. -/
theorem condition {v : Json} {c? : Option Condition} (h : decodeCondition? v = .ok c?)
    (hv : T v) : DecodedCondition S c? := by
  rw [decodeCondition?.eq_def] at h
  split at h
  · cases h
    intro e he
    cases he
  · next sides =>
    obtain ⟨pairs, hp, h⟩ := bind_eq_ok.1 h
    cases h
    intro e he
    rw [Option.bind_some, predicate?_of_decodeFieldPairs hp] at he
    cases he
  · next w _ =>
    obtain ⟨e, he, h⟩ := bind_eq_ok.1 h
    cases h
    rintro _ ⟨⟩
    exact ih.expr (insideQuery_eq_ok he) (hT.field hv (List.mem_singleton_self _))
  · cases h

/-- The parts of a join come in any order too. -/
theorem joinParts {seen : List String} {target? : Option Target} {join : Join}
    {fields : List (String × Json)} {parts : Option Target × Join}
    (h : decodeJoinParts seen target? join fields = .ok parts)
    (ht : DecodedTarget S target?) (hc : DecodedCondition S join.condition)
    (hf : ∀ field ∈ fields, T field.2) :
    DecodedTarget S parts.1 ∧ DecodedCondition S parts.2.condition := by
  -- on the fields, with what was read of the target and the condition so far
  induction fields generalizing seen target? join with
  | nil =>
    rw [decodeJoinParts] at h
    cases h
    exact ⟨ht, hc⟩
  | cons field fields rest =>
    rw [List.forall_mem_cons] at hf
    rw [decodeJoinParts.eq_def] at h
    dsimp only at h
    split at h
    · cases h
    · split at h
      · obtain ⟨target, read, h⟩ := bind_eq_ok.1 h
        exact rest h (ih.target hT read hf.1) hc hf.2
      · obtain ⟨label, _, h⟩ := bind_eq_ok.1 h
        exact rest h ht hc hf.2
      · obtain ⟨kind, _, h⟩ := bind_eq_ok.1 h
        exact rest h ht hc hf.2
      · obtain ⟨condition, read, h⟩ := bind_eq_ok.1 h
        exact rest h ht (ih.condition hT read hf.1) hf.2
      · exact rest h ht hc hf.2

/-- A join reads its parts into one that is empty so far. -/
theorem join {v : Json} {j : Join} (h : Join.ofJson v = .ok j) (hv : T v) :
    DecodedTarget S (some j.target) ∧ DecodedCondition S j.condition := by
  rw [Join.ofJson.eq_def] at h
  split at h
  · cases h
  · next fields record =>
    obtain ⟨⟨target?, join⟩, parts, h⟩ := bind_eq_ok.1 h
    -- nothing has been read when the first part is
    have noTarget : DecodedTarget S none := fun q hq => by cases hq
    have noCondition : DecodedCondition S none := fun e he => by cases he
    have read := ih.joinParts hT parts noTarget noCondition (hT.recordFields hv record)
    cases target? with
    | none => cases h
    | some target =>
      dsimp only at h
      split at h
      · cases h
      · cases h
        exact read

theorem joins {items : List Json} {js : List Join} (h : decodeJoins items = .ok js)
    (hi : ∀ v ∈ items, T v) :
    ∀ j ∈ js, DecodedTarget S (some j.target) ∧ DecodedCondition S j.condition :=
  forall_mem_of_read (by rw [decodeJoins]) (fun v items => by rw [decodeJoins])
    (fun _ _ read hv => ih.join hT read hv) h hi

/-- Every clause fills one field; those with nodes in them are read by the lemmas above, the others
hold none. -/
theorem clause {q r : Query} {key : String} {v : Json} (h : decodeClause q key v = .ok r)
    (hq : DecodedClauses S q) (hv : T v) : DecodedClauses S r := by
  have items {items : List Json} (arr : v = .arr items) : ∀ w ∈ items, T w := by
    subst arr
    exact fun w mem => hT.item hv mem
  rw [decodeClause.eq_def] at h
  split at h
  case h_3 =>
    split at h
    · cases h
      exact { hq with select := List.forall_mem_nil _ }
    · obtain ⟨fs, hfs, h⟩ := bind_eq_ok.1 h
      cases h
      exact { hq with select := ih.fields hT hfs (items rfl) }
    · cases h
  case h_7 =>
    obtain ⟨e?, he, h⟩ := bind_eq_ok.1 h
    cases h
    exact { hq with filter := ih.predicate he hv }
  case h_8 =>
    obtain ⟨e?, he, h⟩ := bind_eq_ok.1 h
    cases h
    exact { hq with prepared := ih.predicate he hv }
  case h_9 =>
    split at h
    · obtain ⟨os, hos, h⟩ := bind_eq_ok.1 h
      cases h
      exact { hq with order := ih.orders hT hos (items rfl) }
    · cases h
  case h_10 =>
    split at h
    · obtain ⟨fs, hfs, h⟩ := bind_eq_ok.1 h
      cases h
      exact { hq with group := ih.fields hT hfs (items rfl) }
    · cases h
  case h_11 =>
    split at h
    · obtain ⟨js, hjs, h⟩ := bind_eq_ok.1 h
      cases h
      exact { hq with joins := ih.joins hT hjs (items rfl) }
    · cases h
  case h_16 =>
    cases h
    exact hq
  -- no other clause holds an expression
  all_goals
    obtain ⟨_, _, h⟩ := bind_eq_ok.1 h
    cases h
    exact { hq with }

/-- Clauses come in any order, each into the query as it was filled by those in front. -/
theorem clauses {seen : List String} {q r : Query} {fields : List (String × Json)}
    (h : decodeClauses seen q fields = .ok r) (hq : DecodedClauses S q)
    (hf : ∀ field ∈ fields, T field.2) : DecodedClauses S r := by
  induction fields generalizing seen q with
  | nil =>
    rw [decodeClauses] at h
    cases h
    exact hq
  | cons field fields rest =>
    rw [List.forall_mem_cons] at hf
    rw [decodeClauses] at h
    split at h
    · split at h
      · cases h
      · obtain ⟨p, hp, h⟩ := bind_eq_ok.1 h
        exact rest h (ih.clause hT hp hq hf.1) hf.2
    · exact rest h hq hf.2

/-! ### All values -/

/-- An object is a query, one entry or several entries that all have to hold. -/
theorem object {fields : List (String × Json)} {e : Expr} (h : decodeObject fields = .ok e)
    (hf : ∀ field ∈ fields, T field.2) : Decoded S (.expr e) := by
  rw [decodeObject.eq_def] at h
  split at h
  · obtain ⟨q, hq, h⟩ := bind_eq_ok.1 h
    cases h
    exact decoded_subquery (ih.clauses hT hq .empty hf).query
  · split at h
    · cases h
    · exact ih.entry hT h (hf _ List.mem_cons_self)
    · obtain ⟨es, hes, h⟩ := bind_eq_ok.1 h
      cases h
      exact decoded_logical (ih.entries hT hes hf)

/-- What stands under a member is an object of comparisons or a constant, the right side for
equality. -/
theorem compared {left : Expr} {v : Json} {e : Expr} (h : decodeComparison left v = .ok e)
    (hl : Decoded S (.expr left)) (hv : S v)
    (inside : ∀ fields, v = .obj fields → ∀ field ∈ fields, T field.2) : Decoded S (.expr e) := by
  cases v
  case obj fields =>
    -- an object on the right is compared part by part, unless it is an expression
    have inside := inside fields rfl
    rw [decodeComparison] at h
    split at h
    · cases h
    · split at h
      · obtain ⟨right, hr, h⟩ := bind_eq_ok.1 h
        cases h
        exact decoded_compare hl (ih.object hT hr inside)
      · obtain ⟨es, hes, h⟩ := bind_eq_ok.1 h
        have all := ih.comparisons hT hes hl inside
        split at h
        · cases h
          exact all _ (List.mem_singleton_self _)
        · cases h
          exact decoded_logical all
  all_goals
    rw [decodeComparison.eq_def] at h
    cases h
    exact decoded_compare hl (decoded_lit hv rfl)

end Reads

/-- Values of a bounded size with a property. -/
def Json.Below (S : Json → Prop) (n : Nat) (v : Json) : Prop := S v ∧ v.size < n

/-- A bound on the size goes inward with the property, because items and fields are smaller. -/
theorem Json.Inward.below {S : Json → Prop} (hS : Inward S) (n : Nat) : Inward (Below S n) where
  item h mem := by
    have smaller := size_lt_of_mem_items mem
    have bound := h.2
    rw [size_arr] at bound
    exact ⟨hS.item h.1 mem, by omega⟩
  field h mem := by
    have smaller := size_lt_of_mem_fields mem
    have bound := h.2
    rw [size_obj] at bound
    exact ⟨hS.field h.1 mem, by omega⟩

/-- **Values of any size** are read: those inside an object are smaller than it. -/
theorem reads_below {S : Json → Prop} (hS : Inward S) (n : Nat) : Reads S (Json.Below S n) := by
  induction n with
  | zero =>
    exact ⟨fun _ hv => absurd hv.2 (Nat.not_lt_zero _),
      fun _ _ hv => absurd hv.2 (Nat.not_lt_zero _), fun _ hv => absurd hv.2 (Nat.not_lt_zero _)⟩
  | succ n ih =>
    -- values inside are smaller by one at least, so the induction hypothesis reads them
    have record {names : List String} {v : Json} {fields : List (String × Json)}
        (hv : Json.Below S (n + 1) v) (hf : recordFields? names v = some fields) :
        ∀ field ∈ fields, Json.Below S n field.2 := by
      intro field mem
      have smaller := size_lt_of_mem_fields (show (field.1, field.2) ∈ fields from mem)
      have bound := sizeFields_lt_of_recordFields? hf
      have size := hv.2
      exact ⟨hS.recordFields hv.1 hf field mem, by omega⟩
    have fields {fields : List (String × Json)} (hv : Json.Below S (n + 1) (.obj fields)) :
        ∀ field ∈ fields, Json.Below S n field.2 :=
      record hv (show recordFields? [] (.obj fields) = some fields from rfl)
    refine ⟨fun {v e} h hv => ?_, fun {left v e} h hl hv => ?_, fun {v q} h hv => ?_⟩
    · cases v
      case obj =>
        rw [Expr.ofJson] at h
        exact ih.object (hS.below n) h (fields hv)
      all_goals
        rw [Expr.ofJson.eq_def] at h
        cases h
        exact decoded_lit hv.1 rfl
    · refine ih.compared (hS.below n) h hl hv.1 fun _ object => ?_
      subst object
      exact fields hv
    · rw [Query.ofJson.eq_def] at h
      split at h
      · cases h
      · next given =>
        obtain ⟨q, hq, h⟩ := bind_eq_ok.1 h
        split at h
        · cases h
        · cases h
          exact (ih.clauses (hS.below n) hq .empty (record hv given)).query

/-- The constants of a decoded tree have every property of the value that passes on to the
values inside it, and none is an object. -/
theorem Expr.decoded_ofJson {S : Json → Prop} (hS : Inward S) {v : Json} {e : Expr}
    (h : Expr.ofJson v = .ok e) (hv : S v) : Decoded S (.expr e) :=
  (reads_below hS (v.size + 1)).expr h ⟨hv, Nat.lt_succ_self _⟩

/-- **The constants of a decoded tree** are values inside the value, and none is an object. -/
theorem Expr.decoded_inside {v : Json} {e : Expr} (h : Expr.ofJson v = .ok e) :
    Decoded (Inside · v) (.expr e) :=
  Expr.decoded_ofJson (inward_inside v) h .here

end Sift
