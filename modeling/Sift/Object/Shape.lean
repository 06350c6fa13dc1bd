import Sift.Json.Parser
import Sift.Object.Decode

/-!
# Shapes of JSON text

Text is read from its front, and the first fault counts. So a fault of meaning in one clause comes
before a fault of spelling in the next; what stands under an unknown key has to be well formed and
no more; and the second of two equal keys is a fault where a record stands, though not elsewhere. A
shape says what stands at a place, which settles all of this.

* `Shape`: what is expected at a place of a text.
* `Shape.fit`: what a place holds before the first fault of spelling.
* `decodeText`: what a text of a shape decodes to.
-/

namespace Sift

open Json

/-- What is expected at a place of a text: any value; a list; a record of named parts, by their
names or by their places; one of several variants under its name; or a whole query. -/
inductive Shape where
  | value
  | list (item : Shape)
  | record (names : List String) (part : String → Shape)
  | variant (names : List String) (part : String → Shape)
  | query

/-- What was seen of something before the first fault of spelling, and whether that is all. -/
structure Seen (α : Type) where
  value : α
  whole : Bool

namespace Seen

variable {α β : Type}

/-- All of it was seen, or nothing. -/
def all (value : Option α) : Seen (Option α) := ⟨value, value.isSome⟩

/-- A part and those behind it, which were seen only if the part was seen as a whole. -/
def cons (make : α → β) (part : Seen (Option α)) (parts : Seen (List β)) : Seen (List β) :=
  match part with
  | ⟨some v, true⟩ => ⟨make v :: parts.value, parts.whole⟩
  | ⟨some v, false⟩ => ⟨[make v], false⟩
  | ⟨none, _⟩ => ⟨[], false⟩

/-- Parts between brackets, which may still be open. -/
def between (wrap : α → Json) (closed : Bool) (parts : Seen α) : Seen (Option Json) :=
  ⟨some (wrap parts.value), parts.whole && closed⟩

end Seen

namespace Shape

/-- A field of a joined entity. -/
def fieldRef : Shape := record ["entity", "field"] fun _ => value

/-- A join. -/
def join : Shape := record joinNames fun
  | "target" => variant ["entity", "query"] fun
    | "query" => query
    | _ => value
  | "kind" => variant ["inner", "left", "right"] fun _ => value
  | "on" => variant ["fields", "predicate"] fun
    | "fields" => record ["left", "right"] fun _ => list fieldRef
    | _ => value
  | _ => value

/-- An order item. -/
def order : Shape := record orderNames fun
  | "direction" => variant ["asc", "desc"] fun _ => value
  | _ => value

/-- A clause of a query. -/
def clause : String → Shape
  | "$select" | "$group" => list value
  | "$order" => list order
  | "$expand" => list join
  | _ => value

/-- The shape itself, where a query is a record of its clauses. -/
def unfold : Shape → Shape
  | query => record clauseNames clause
  | shape => shape

mutual

/-- What a place holds, with at most `depth` arrays and objects in one another. A record by its
places becomes one by its names. What does not have the shape is taken as any value. -/
def fit (depth : Nat) (shape : Shape) : Written → Seen (Option Json)
  | .atom v => .all v
  | .arr items closed =>
    match depth, shape.unfold with
    | depth + 1, list item => (fitItems depth item items).between .arr closed
    | depth + 1, record names part => (fitPlaces depth part names items).between .obj closed
    | depth, _ => .all ((Written.arr items closed).value? depth)
  | .obj fields closed =>
    match depth, shape.unfold with
    | depth + 1, record names part => (fitFields depth names part fields).between .obj closed
    | depth + 1, variant names part => (fitVariant depth names part fields).between .obj closed
    | depth, _ => .all ((Written.obj fields closed).value? depth)

/-- What items hold. -/
def fitItems (depth : Nat) (item : Shape) : List Written → Seen (List Json)
  | [] => ⟨[], true⟩
  | w :: items => (fit depth item w).cons id (fitItems depth item items)

/-- What the parts of a record hold, given by their places. There may not be more of them than
names. -/
def fitPlaces (depth : Nat) (part : String → Shape) (names : List String) :
    List Written → Seen (List (String × Json))
  | [] => ⟨[], true⟩
  | w :: items =>
    match names with
    | [] => ⟨[], false⟩
    | name :: names => (fit depth (part name) w).cons (name, ·) (fitPlaces depth part names items)

/-- What the parts of a record hold. Under an unknown key anything well formed is passed over.
-/
def fitFields (depth : Nat) (names : List String) (part : String → Shape) :
    List (Option String × Written) → Seen (List (String × Json))
  | [] => ⟨[], true⟩
  | (none, _) :: _ => ⟨[], false⟩
  | (some key, w) :: fields =>
    if names.contains key then
      (fit depth (part key) w).cons (key, ·) (fitFields depth names part fields)
    else if w.closed then fitFields depth names part fields
    else ⟨[], false⟩

/-- What a variant holds. Nothing may stand behind it. -/
def fitVariant (depth : Nat) (names : List String) (part : String → Shape) :
    List (Option String × Written) → Seen (List (String × Json))
  | [] => ⟨[], true⟩
  | (none, _) :: _ => ⟨[], false⟩
  | (some key, w) :: fields =>
    if names.contains key then (fit depth (part key) w).cons (key, ·) ⟨[], fields.isEmpty⟩
    else ⟨[], false⟩

end

end Shape

/-- What a text of a shape decodes to. A fault of meaning in what was seen comes first; then it
counts whether that was all. -/
def decodeText {α : Type} (shape : Shape) (decode : Json → Except Error α) (text : String) :
    Except Error α := do
  let (written?, ended) := Written.ofText text
  match written?.map (shape.fit maxDepth) with
  | some ⟨some v, whole⟩ => do
    let a ← decode v
    if whole && ended then return a else malformed
  | _ => malformed

/-- The query of a text. -/
def Query.read : String → Except Error Query := decodeText .query Query.ofJson

/-- The field of a text. -/
def Field.read : String → Except Error Field :=
  decodeText .value fun v => insideQuery (Field.ofJson v)

end Sift
