import Sift.Filter.Parser

/-!
# Lists of expressions

Selections, orderings and groupings: items separated by commas, none for an empty text.

* `parseSelection`: expressions, each with an optional label after `as`.
* `parseOrdering`: expressions, each with an optional direction.
* `parseGrouping`: expressions alone.
-/

namespace Sift.Filter

/-- A reader of one item. -/
abbrev ItemReader (β : Type) := (ts : List Token) → Except Error (Read β ts)

/-- Items separated by commas, at least one, to the end. -/
def readSequence {β : Type} (item : ItemReader β) (ts : List Token) : Except Error (List β) := do
  let first ← item ts
  match h : first.rest with
  | .sign .comma :: rest => do
    have := first.length_lt h
    let others ← readSequence item rest
    return first.value :: others
  | rest => do
    expectEnd rest
    return [first.value]
termination_by ts.length

/-- Items of a text; no tokens are no items. -/
def parseSequence {β : Type} (item : ItemReader β) (source : String) : Except Error (List β) := do
  match ← tokenize source with
  | [] => return []
  | ts => readSequence item ts

/-- A selected field, with its label if it has one. -/
def readField (resolver : Resolver) : ItemReader Field := fun ts => do
  let e ← readExpr (.expr resolver) ts
  match h : e.rest with
  | .name "as" :: .name label :: rest =>
    return e.thenPast h (Read.one () (.name label) rest) ⟨e.value, some label⟩
  | .name "as" :: _ => .error (.parse .missingAlias)
  | _ => return e.map (⟨·, none⟩)

/-- An order item, ascending unless it says otherwise. -/
def readOrder (resolver : Resolver) : ItemReader Order := fun ts => do
  let e ← readExpr (.expr resolver) ts
  match h : e.rest with
  | .name "desc" :: _ =>
    return e.thenOne h ⟨e.value, .descending⟩
  | .name "asc" :: _ =>
    return e.thenOne h ⟨e.value, .ascending⟩
  | _ => return e.map (⟨·, .ascending⟩)

/-- A grouped field. -/
def readGroup (resolver : Resolver) : ItemReader Field := fun ts => do
  return (← readExpr (.expr resolver) ts).map (⟨·, none⟩)

/-- The fields of a selection. -/
def parseSelection (source : String) (resolver : Resolver) : Except Error (List Field) :=
  parseSequence (readField resolver) source

/-- The items of an ordering. -/
def parseOrdering (source : String) (resolver : Resolver) : Except Error (List Order) :=
  parseSequence (readOrder resolver) source

/-- The fields of a grouping. -/
def parseGrouping (source : String) (resolver : Resolver) : Except Error (List Field) :=
  parseSequence (readGroup resolver) source

end Sift.Filter
