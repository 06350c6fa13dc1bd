/-!
# Documents of settings

A TOML document is a tree of tables. A key may be set once; a table may be opened by one header,
grown by dotted keys, or written in one piece, and none of these may be mixed with another.

* `Entry`: what a key holds.
* `assign?`: sets a dotted key.
* `openTable?`, `openListed?`: what headers do.
-/

namespace Sift.Config

/-- How a table came to be: as part of a longer header, by a header of its own, by dotted keys,
or in one piece. -/
inductive Origin where
  | passed
  | opened
  | dotted
  | closed
  deriving DecidableEq, Repr

/-- What a key holds. Numbers, moments and plain lists are checked and not kept, because no
setting has such a value. -/
inductive Entry where
  | text (s : String)
  | flag (b : Bool)
  | other
  | table (origin : Origin) (fields : List (String × Entry))
  | tables (items : List (List (String × Entry)))

/-- The keys of a table with what they hold, in order. -/
abbrev Fields := List (String × Entry)

/-- A key set, in its place if it is there already. -/
def Fields.put (key : String) (entry : Entry) : Fields → Fields
  | [] => [(key, entry)]
  | (k, e) :: fields =>
    if k = key then (k, entry) :: fields else (k, e) :: Fields.put key entry fields

/-- A change of the last table of a list. -/
def changeLast? (change : Fields → Option Fields) (items : List Fields) : Option (List Fields) :=
  match items.getLast? with
  | some last => (change last).map fun fields => items.dropLast ++ [fields]
  | none => none

/-- A dotted key set: the tables on the way are made, unless dotted keys made them before. -/
def assign? (path : List String) (key : String) (entry : Entry) (fields : Fields) : Option Fields :=
  match path with
  | [] => if (fields.lookup key).isSome then none else some (fields.put key entry)
  | k :: ks =>
    match fields.lookup k with
    | none => (assign? ks key entry []).map fun inner => fields.put k (.table .dotted inner)
    | some (.table origin inner) =>
      if origin = .dotted ∨ (origin = .passed ∧ ks ≠ []) then
        (assign? ks key entry inner).map fun inner => fields.put k (.table origin inner)
      else none
    | some (.tables items) =>
      if ks = [] then none
      else (changeLast? (assign? ks key entry) items).map fun items => fields.put k (.tables items)
    | some _ => none

/-- A change at the end of a header's path: missing tables on the way are made, and the last of
listed tables is meant. -/
def descend? (path : List String) (change : Fields → Option Fields) (fields : Fields) :
    Option Fields :=
  match path with
  | [] => change fields
  | k :: ks =>
    match fields.lookup k with
    | none => (descend? ks change []).map fun inner => fields.put k (.table .passed inner)
    | some (.table origin inner) =>
      if origin = .closed then none
      else (descend? ks change inner).map fun inner => fields.put k (.table origin inner)
    | some (.tables items) =>
      (changeLast? (descend? ks change) items).map fun items => fields.put k (.tables items)
    | some _ => none

/-- A table opened by its header, at most once. -/
def openTable? (path : List String) (key : String) : Fields → Option Fields :=
  descend? path fun fields =>
    match fields.lookup key with
    | none => some (fields.put key (.table .opened []))
    | some (.table .passed inner) => some (fields.put key (.table .opened inner))
    | some _ => none

/-- A further table of a list, opened by its header. -/
def openListed? (path : List String) (key : String) : Fields → Option Fields :=
  descend? path fun fields =>
    match fields.lookup key with
    | none => some (fields.put key (.tables [[]]))
    | some (.tables items) => some (fields.put key (.tables (items ++ [[]])))
    | some _ => none

end Sift.Config
