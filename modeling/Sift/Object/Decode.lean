import Sift.Object.Encode
import Sift.Error

/-!
# Expression objects: reading

Reading the JSON form of expressions and queries. An object with a clause of a query among its keys
is a subquery; one entry is that entry's expression, several are their conjunction; anything but an
object is a constant.

* `Expr.ofJson`: the expression of a value.
* `Query.ofJson`: the query of a value.
* `Field.ofJson`: a field, where a bare text names a member.

A query and its parts can also be given as arrays, their fields in order. Unknown fields are
ignored, a repeated field is refused. Faults are reported in the order of the fields.
-/

namespace Sift

open Json

/-- The fault of JSON that does not fit a query. -/
def malformed {α : Type} : Except Error α := .error (.json none)

/-- A fault inside a query is a fault of the query's JSON. -/
def insideQuery {α : Type} : Except Error α → Except Error α
  | .ok a => .ok a
  | .error e => .error (.json (some e))

/-- The name after a dollar sign, if a key starts with one. -/
def dollarName? (key : String) : Option String :=
  match key.toList with
  | '$' :: name => some (String.ofList name)
  | _ => none

/-- A query by its keys. -/
def isQueryObject (fields : List (String × Json)) : Bool :=
  ["$select", "$insert", "$update", "$delete", "$collection"].any (hasKey · fields)

/-- A function of arguments: arithmetic if the name is an operator's and there are two of them.
-/
def functionExpr (name : String) (args : List Expr) : Expr :=
  match Arith.ofName? name, args with
  | some op, [l, r] => .arith l op r
  | _, _ => .call name args

/-- A set for membership: an array or a query. -/
def isSet : Json → Bool
  | .arr _ => true
  | .obj fields => isQueryObject fields
  | _ => false

/-- The pattern of a text search, bare or under its own key. -/
def searchPattern (v : Json) : Json :=
  match v with
  | .obj fields => (get? "$search" fields).getD v
  | v => v

/-- The pattern in an object of a search is no larger than the object. -/
theorem size_searchPattern_le (v : Json) : (searchPattern v).size ≤ v.size := by
  unfold searchPattern
  split
  · next fields =>
    cases h : get? "$search" fields with
    | none => simp
    | some w => have := size_lt_of_get? h; simp; omega
  · exact Nat.le_refl _

/-- The fields of a record: those of an object, or the items of an array under the names of
their places. -/
def recordFields? (names : List String) : Json → Option (List (String × Json))
  | .obj fields => some fields
  | .arr items => some (names.zip items)
  | _ => none

/-- The fields that are read of a record are smaller than it, in either of its forms. -/
theorem sizeFields_lt_of_recordFields? {names : List String} {v : Json}
    {fields : List (String × Json)} (h : recordFields? names v = some fields) :
    sizeFields fields < v.size := by
  cases v <;> simp [recordFields?] at h
  · next items => subst h; have := sizeFields_zip_le names items; simp; omega
  · subst h; simp

/-- Whether an array has more items than a record has fields. -/
def isSurplus (names : List String) : Json → Bool
  | .arr items => names.length < items.length
  | _ => false

/-- The name of a variant without content: a word, or a key with null. -/
def variantName? : Json → Option String
  | .str s => some s
  | .obj [(k, .null)] => some k
  | _ => none

/-- A text. -/
def decodeStr : Json → Except Error String
  | .str s => .ok s
  | _ => malformed

/-- A text or nothing. -/
def decodeStr? : Json → Except Error (Option String)
  | .null => .ok none
  | v => some <$> decodeStr v

/-- A truth value. -/
def decodeBool : Json → Except Error Bool
  | .bool b => .ok b
  | _ => malformed

/-- A count or nothing. -/
def decodeCount? : Json → Except Error (Option UInt64)
  | .null => .ok none
  | v => match v.unsigned? with
    | some n => .ok (some (UInt64.ofNat n))
    | none => malformed

/-- Columns with values, or nothing. -/
def decodeValues? : Json → Except Error (Option (List (String × Json)))
  | .null => .ok none
  | .obj fields => .ok (some fields)
  | _ => malformed

/-- A join kind. -/
def decodeJoinKind (v : Json) : Except Error JoinKind :=
  match variantName? v with
  | some "inner" => .ok .inner
  | some "left" => .ok .left
  | some "right" => .ok .right
  | _ => malformed

/-- A direction. -/
def decodeDirection (v : Json) : Except Error Direction :=
  match variantName? v with
  | some "asc" => .ok .ascending
  | some "desc" => .ok .descending
  | _ => malformed

/-- A record's fields one after another: the known ones are stored, at most once each, and the
others ignored. -/
def decodeRecord {σ : Type} (names : List String) (store : σ → String → Json → Except Error σ)
    (start : σ) (v : Json) : Except Error σ :=
  let rec go (seen : List String) (state : σ) : List (String × Json) → Except Error σ
    | [] => .ok state
    | (k, w) :: fields =>
      if names.contains k then
        if seen.contains k then malformed
        else do go (k :: seen) (← store state k w) fields
      else go seen state fields
  match recordFields? names v with
  | none => malformed
  | some fields => do
    let result ← go [] start fields
    if isSurplus names v then malformed else .ok result

/-- A field of a joined entity. -/
def FieldRef.ofJson (v : Json) : Except Error FieldRef := do
  let store (state : Option String × Option String) (k : String) (w : Json) :=
    match k with
    | "entity" => do return (← decodeStr? w, state.2)
    | _ => do return (state.1, some (← decodeStr w))
  match ← decodeRecord ["entity", "field"] store (none, none) v with
  | (entity, some field) => .ok ⟨entity, field⟩
  | (_, none) => malformed

/-- A list of fields of joined entities. -/
def decodeFieldRefs : Json → Except Error (List FieldRef)
  | .arr items => items.mapM FieldRef.ofJson
  | _ => malformed

/-- Fields equal pair by pair. -/
def decodeFieldPairs (v : Json) : Except Error Condition := do
  let store (state : Option (List FieldRef) × Option (List FieldRef)) (k : String) (w : Json) :=
    match k with
    | "left" => do return (some (← decodeFieldRefs w), state.2)
    | _ => do return (state.1, some (← decodeFieldRefs w))
  match ← decodeRecord ["left", "right"] store (none, none) v with
  | (some left, some right) => .ok (.fields left right)
  | _ => malformed

/-- The clauses of a query, in order. -/
def clauseNames : List String :=
  ["$collection", "$alias", "$select", "$insert", "$update", "$delete", "$where", "$prepared",
   "$order", "$group", "$expand", "$skip", "$take", "$distinct", "$fixed"]

/-- The parts of a join, in order. -/
def joinNames : List String := ["target", "alias", "kind", "on"]

/-- The parts of an order item, in order. -/
def orderNames : List String := ["field", "direction"]

mutual

/-- The expression of a value. -/
def Expr.ofJson (v : Json) : Except Error Expr :=
  match v with
  | .obj fields => decodeObject fields
  | v => .ok (.lit v)
termination_by 8 * v.size

/-- The expression of an object. -/
def decodeObject (fields : List (String × Json)) : Except Error Expr :=
  if isQueryObject fields then do
    let q ← decodeClauses [] .empty fields
    return .subquery q
  else match fields with
    | [] => .error (.format .emptyObject)
    | [(key, v)] => decodeEntry key v
    | fields => do return .logical .and (← decodeEntries fields)
termination_by 8 * sizeFields fields + 5
decreasing_by all_goals (simp; try omega)

/-- The expressions of entries. -/
def decodeEntries (fields : List (String × Json)) : Except Error (List Expr) :=
  match fields with
  | [] => .ok []
  | (key, v) :: fields => do
    let e ← decodeEntry key v
    let es ← decodeEntries fields
    return e :: es
termination_by 8 * sizeFields fields + 4
decreasing_by all_goals (simp; try omega)

/-- The expressions of items. -/
def decodeExprs (items : List Json) : Except Error (List Expr) :=
  match items with
  | [] => .ok []
  | v :: items => do
    let e ← Expr.ofJson v
    let es ← decodeExprs items
    return e :: es
termination_by 8 * sizeItems items + 4
decreasing_by all_goals (simp; try omega)

/-- The expression of an entry: a comparison under a member, or an operator or function under
its name. -/
def decodeEntry (key : String) (v : Json) : Except Error Expr :=
  match dollarName? key with
  | none => decodeComparison (.member key) v
  | some "name" => match v with
    | .str path => .ok (.member path)
    | v => decodeFunction "name" v
  | some "not" => do return .not (← Expr.ofJson v)
  | some name =>
    match Connective.ofKey? key with
    | some op => match v with
      | .arr items => do return .logical op (← decodeExprs items)
      | _ => .error (.format (.notExpressions key))
    | none => match Comparison.ofKey? key with
      | some op => match v with
        | .arr [l, r] => do return .compare (← Expr.ofJson l) op (← Expr.ofJson r)
        | _ => .error (.format (.notTwoOperands key))
      | none => decodeFunction name v
termination_by 8 * v.size + 7
decreasing_by all_goals (simp; try omega)

/-- A function of a value: its arguments are the items of an array, or the value alone. -/
def decodeFunction (name : String) (v : Json) : Except Error Expr :=
  match v with
  | .arr items => do return functionExpr name (← decodeExprs items)
  | v => do return functionExpr name [← Expr.ofJson v]
termination_by 8 * v.size + 6
decreasing_by all_goals (simp; try omega)

/-- A left side compared with a value: equality with a scalar, a member or a query, else the
comparisons of an object, all of which must hold. -/
def decodeComparison (left : Expr) (v : Json) : Except Error Expr :=
  match v with
  | .obj fields =>
    if fields.isEmpty then .error (.format .emptyComparison)
    else if isQueryObject fields || (fields.length == 1 && hasKey "$name" fields) then do
      return .compare left .eq (← decodeObject fields)
    else do
      match ← decodeComparisons left fields with
      | [e] => return e
      | es => return .logical .and es
  | v => .ok (.compare left .eq (.lit v))
termination_by 8 * v.size
decreasing_by all_goals (simp; try omega)

/-- The comparisons of one left side. -/
def decodeComparisons (left : Expr) (fields : List (String × Json)) : Except Error (List Expr) :=
  match fields with
  | [] => .ok []
  | (key, v) :: fields => do
    let e ← decodeComparisonEntry left key v
    let es ← decodeComparisons left fields
    return e :: es
termination_by 8 * sizeFields fields + 4
decreasing_by all_goals (simp; try omega)

/-- One comparison of a left side: an operator, a search, or a function of the left side that is
compared in turn. -/
def decodeComparisonEntry (left : Expr) (key : String) (v : Json) : Except Error Expr :=
  match dollarName? key with
  | none => .error (.format (.unexpectedKey key))
  | some name =>
    match Comparison.ofKey? key with
    | some op =>
      if (op = .isIn ∨ op = .notIn) ∧ !isSet v then .error (.format (.notASet key))
      else do return .compare left op (← Expr.ofJson v)
    | none => match name with
      | "text" => do return .call "text" [left, ← Expr.ofJson (searchPattern v)]
      | "regex" => do return .call "regex" [left, ← Expr.ofJson v]
      | name => match v with
        | .arr items => decodeApplied key name [left] items
        | v => decodeComparison (functionExpr name [left]) v
termination_by 8 * v.size + 6
decreasing_by
  · simp
  · have := size_searchPattern_le v; simp; omega
  · simp
  · simp; omega
  · simp

/-- A function that is compared: the items are its further arguments, the last one the
comparison. -/
def decodeApplied (key name : String) (args : List Expr) (items : List Json) : Except Error Expr :=
  match items with
  | [] => .error (.format (.noComparison key))
  | [v] => decodeComparison (functionExpr name args) v
  | v :: w :: items => do
    let e ← Expr.ofJson v
    decodeApplied key name (args ++ [e]) (w :: items)
termination_by 8 * sizeItems items + 4
decreasing_by all_goals (simp; try omega)

/-- The clauses of a query one after another. -/
def decodeClauses (seen : List String) (q : Query) (fields : List (String × Json)) :
    Except Error Query :=
  match fields with
  | [] => .ok q
  | (key, v) :: fields =>
    if clauseNames.contains key then
      if seen.contains key then malformed
      else do
        let q ← decodeClause q key v
        decodeClauses (key :: seen) q fields
    else decodeClauses seen q fields
termination_by 8 * sizeFields fields + 4
decreasing_by all_goals (simp; try omega)

/-- One clause of a query. -/
def decodeClause (q : Query) (key : String) (v : Json) : Except Error Query :=
  match key with
  | "$collection" => do return { q with collection := ← decodeStr? v }
  | "$alias" => do return { q with label := ← decodeStr? v }
  | "$select" => match v with
    | .null => .ok { q with select := none }
    | .arr items => do return { q with select := some (← decodeFields items) }
    | _ => malformed
  | "$insert" => do return { q with insert := ← decodeValues? v }
  | "$update" => do return { q with update := ← decodeValues? v }
  | "$delete" => do return { q with delete := ← decodeBool v }
  | "$where" => do return { q with filter := ← decodePredicate? v }
  | "$prepared" => do return { q with prepared := ← decodePredicate? v }
  | "$order" => match v with
    | .arr items => do return { q with order := ← decodeOrders items }
    | _ => malformed
  | "$group" => match v with
    | .arr items => do return { q with group := ← decodeFields items }
    | _ => malformed
  | "$expand" => match v with
    | .arr items => do return { q with joins := ← decodeJoins items }
    | _ => malformed
  | "$skip" => do return { q with skip := ← decodeCount? v }
  | "$take" => do return { q with take := ← decodeCount? v }
  | "$distinct" => do return { q with distinct := ← decodeBool v }
  | "$fixed" => do return { q with fixed := ← decodeBool v }
  | _ => .ok q
termination_by 8 * v.size + 6
decreasing_by all_goals (simp; try omega)

/-- A predicate of a query, or nothing. -/
def decodePredicate? (v : Json) : Except Error (Option Expr) :=
  match v with
  | .null => .ok none
  | v => do return some (← insideQuery (Expr.ofJson v))
termination_by 8 * v.size + 5
decreasing_by all_goals (simp; try omega)

/-- A field: a member by its bare name, an expression under a label, or an expression. -/
def Field.ofJson (v : Json) : Except Error Field :=
  match v with
  | .str name => .ok ⟨.member name, none⟩
  | .obj [(key, w)] =>
    match dollarName? key, w with
    | some _, w => do return ⟨← decodeObject [(key, w)], none⟩
    | none, .str name => .ok ⟨.member name, some key⟩
    | none, w => do return ⟨← Expr.ofJson w, some key⟩
  | v => do return ⟨← Expr.ofJson v, none⟩
termination_by 8 * v.size + 1
decreasing_by all_goals (simp; try omega)

/-- Fields of a query. -/
def decodeFields (items : List Json) : Except Error (List Field) :=
  match items with
  | [] => .ok []
  | v :: items => do
    let f ← insideQuery (Field.ofJson v)
    let fs ← decodeFields items
    return f :: fs
termination_by 8 * sizeItems items + 4
decreasing_by all_goals (simp; try omega)

/-- An ordering. -/
def decodeOrders (items : List Json) : Except Error (List Order) :=
  match items with
  | [] => .ok []
  | v :: items => do
    let o ← Order.ofJson v
    let os ← decodeOrders items
    return o :: os
termination_by 8 * sizeItems items + 4
decreasing_by all_goals (simp; try omega)

/-- An order item; it is ascending unless it says otherwise. -/
def Order.ofJson (v : Json) : Except Error Order :=
  match h : recordFields? orderNames v with
  | none => malformed
  | some fields =>
    have := sizeFields_lt_of_recordFields? h
    do
    match ← decodeOrderParts [] none .ascending fields with
    | (some e, direction) => if isSurplus orderNames v then malformed else return ⟨e, direction⟩
    | (none, _) => malformed
termination_by 8 * v.size
decreasing_by omega

/-- The parts of an order item. -/
def decodeOrderParts (seen : List String) (e? : Option Expr) (direction : Direction)
    (fields : List (String × Json)) : Except Error (Option Expr × Direction) :=
  match fields with
  | [] => .ok (e?, direction)
  | (key, v) :: fields =>
    if seen.contains key then malformed
    else match key with
      | "field" => do
        let e ← insideQuery (Expr.ofJson v)
        decodeOrderParts (key :: seen) (some e) direction fields
      | "direction" => do
        let d ← decodeDirection v
        decodeOrderParts (key :: seen) e? d fields
      | _ => decodeOrderParts seen e? direction fields
termination_by 8 * sizeFields fields + 4
decreasing_by all_goals (simp; try omega)

/-- Joins. -/
def decodeJoins (items : List Json) : Except Error (List Join) :=
  match items with
  | [] => .ok []
  | v :: items => do
    let j ← Join.ofJson v
    let js ← decodeJoins items
    return j :: js
termination_by 8 * sizeItems items + 4
decreasing_by all_goals (simp; try omega)

/-- A join; it is an inner one unless it says otherwise. -/
def Join.ofJson (v : Json) : Except Error Join :=
  match h : recordFields? joinNames v with
  | none => malformed
  | some fields =>
    have := sizeFields_lt_of_recordFields? h
    do
    let (target?, join) ← decodeJoinParts [] none ⟨.entity "", none, .inner, none⟩ fields
    match target? with
    | some target => if isSurplus joinNames v then malformed else return { join with target }
    | none => malformed
termination_by 8 * v.size
decreasing_by omega

/-- The parts of a join: its target, and the others stored in `join`. -/
def decodeJoinParts (seen : List String) (target? : Option Target) (join : Join)
    (fields : List (String × Json)) : Except Error (Option Target × Join) :=
  match fields with
  | [] => .ok (target?, join)
  | (key, v) :: fields =>
    if seen.contains key then malformed
    else match key with
      | "target" => do
        let target ← Target.ofJson v
        decodeJoinParts (key :: seen) (some target) join fields
      | "alias" => do
        let label ← decodeStr? v
        decodeJoinParts (key :: seen) target? { join with label } fields
      | "kind" => do
        let kind ← decodeJoinKind v
        decodeJoinParts (key :: seen) target? { join with kind } fields
      | "on" => do
        let condition ← decodeCondition? v
        decodeJoinParts (key :: seen) target? { join with condition } fields
      | _ => decodeJoinParts seen target? join fields
termination_by 8 * sizeFields fields + 4
decreasing_by all_goals (simp; try omega)

/-- A join target. -/
def Target.ofJson (v : Json) : Except Error Target :=
  match v with
  | .obj [("entity", .str name)] => .ok (.entity name)
  | .obj [("query", w)] => do return .query (← Query.ofJson w)
  | _ => malformed
termination_by 8 * v.size
decreasing_by all_goals (simp; try omega)

/-- A join condition, or nothing. -/
def decodeCondition? (v : Json) : Except Error (Option Condition) :=
  match v with
  | .null => .ok none
  | .obj [("fields", .obj sides)] => do return some (← decodeFieldPairs (.obj sides))
  | .obj [("predicate", w)] => do return some (.predicate (← insideQuery (Expr.ofJson w)))
  | _ => malformed
termination_by 8 * v.size
decreasing_by all_goals (simp; try omega)

/-- The query of a value. -/
def Query.ofJson (v : Json) : Except Error Query :=
  match h : recordFields? clauseNames v with
  | none => malformed
  | some fields =>
    have := sizeFields_lt_of_recordFields? h
    do
    let q ← decodeClauses [] .empty fields
    if isSurplus clauseNames v then malformed else return q
termination_by 8 * v.size
decreasing_by omega

end

end Sift
