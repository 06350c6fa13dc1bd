import Sift.Proofs.Inside
import Sift.Proofs.Sql.Statements

/-!
# Writers that differ in object constants

A tree is written by how its constants are, and no object counts but those inside them. So a writer
with another way to write objects makes the same of every tree whose constants it writes alike.

* `Writer.withObjects`: a writer with another way to write objects; `Writer.twins_withObjects`: it
  has the names and the functions of the first one.
* `Writer.constant_kept`: a constant inside which all objects are written alike.
* `Writer.expr_kept`, `Writer.statement_kept`: trees whose constants are written alike.
-/

namespace Sift.Sql.Writer

open Text

/-- A writer with another way to write object constants. -/
def withObjects (w : Writer) (g : List (String × Json) → Except Error String) : Writer :=
  { w with objects := g }

variable {w : Writer} {g : List (String × Json) → Except Error String}

mutual

/-- A constant is written alike if all the objects inside it are. -/
theorem constant_kept (v : Json)
    (h : ∀ fields, (Json.obj fields).Inside v → g fields = w.objects fields) :
    (w.withObjects g).constant v = w.constant v := by
  cases v with
  | arr items =>
    rw [constant, constant, constants_kept items fun fields v mem hv => h fields (hv.item mem)]
  | obj fields => exact h fields .here
  | bool b => cases b <;> rfl
  | _ => rfl

/-- Arrays are written alike if the objects in them are. -/
theorem constants_kept (items : List Json)
    (h : ∀ fields, ∀ v ∈ items, (Json.obj fields).Inside v → g fields = w.objects fields) :
    (w.withObjects g).constants items = w.constants items := by
  cases items with
  | nil => rfl
  | cons v items =>
    rw [constants, constants, constant_kept v fun fields => h fields v List.mem_cons_self,
      constants_kept items fun fields u mem => h fields u (List.mem_cons_of_mem v mem)]

end

/-- A constant that is written alike by a writer with another way to write objects, if a node is
one. -/
def KeptConstant (w : Writer) (g : List (String × Json) → Except Error String) (n : Node) : Prop :=
  ∀ v, n.constant? = some v → (w.withObjects g).constant v = w.constant v

/-- Names and calls do not depend on how objects are written. -/
theorem twins_withObjects (w : Writer) (g : List (String × Json) → Except Error String) :
    Twins .same (fun _ => True) (w.withObjects g) w where
  names := .all
  name _ := rfl
  forceAlias := rfl
  useAliasKeyword := rfl
  functions := rfl
  keeps := w.functions.keeps_same

/-- Constants that are kept are constants that correspond, for two writers with the same names. -/
theorem fits_of_kept {n : Node} (h : Everywhere (KeptConstant w g) n) :
    Everywhere (Fits .same (fun _ => True) (w.withObjects g) w) n :=
  h.mono fun _ kept => ⟨fun _ _ => trivial, fun v hv => Agree.eq_iff.2 (kept v hv)⟩

/-- **An expression whose constants are written alike** is written alike. -/
theorem expr_kept {e : Expr} (h : Everywhere (KeptConstant w g) (.expr e)) :
    (w.withObjects g).expr e = w.expr e := by
  have same := (w.twins_withObjects g).matches_everywhere (.expr e) (fits_of_kept h)
  rw [Matches, show Correspondence.same.constant = id from rfl, e.mapConstants_id] at same
  exact Agree.eq_iff.1 same

/-- **A statement whose constants are written alike**, in it and among its values, is written
alike. -/
theorem statement_kept {q : Query} (h : Everywhere (KeptConstant w g) (.query q))
    (values : ∀ v ∈ (Node.query q).constants, (w.withObjects g).constant v = w.constant v) :
    (w.withObjects g).statement q = w.statement q := by
  have same := (w.twins_withObjects g).statement_related (fits_of_kept h) (fun _ _ => trivial)
    fun v hv => Agree.eq_iff.2 (values v hv)
  rw [show Correspondence.same.constant = id from rfl, q.mapConstants_id] at same
  exact Agree.eq_iff.1 same

end Sift.Sql.Writer
