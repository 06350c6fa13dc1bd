import Mathlib
import Sift.Proofs.Object.Literals
import Sift.Proofs.Sql.Objects

/-!
# How deep writing goes

An object constant is written as the expression that it is read as, whose own constants may hold
objects again. They are parts of the first, so this goes only as deep as the constants do.

* `Node.Under`: a node at any depth inside a node.
* `Json.Met`: a constant that is met while another one is written; `Json.Met.size_lt`.
* `Formatter.object_eq`: an object constant is written as the expression it stands for.
* `Formatter.deep`: the writer that goes down a number of times, and then does anything.
* `Formatter.constant_deep`, `Formatter.statement_deep`: how deep is enough.
* `Formatter.writing_ends`: the properties of all constants, expressions and statements.
-/

namespace Sift

open Json

/-! ### Constants that are met -/

/-- A node at any depth inside a node, or the node itself. -/
inductive Node.Under (m : Node) : Node → Prop where
  | here : Under m m
  | part {n k : Node} (h : Under m k) (mem : k ∈ n.parts) : Under m n

theorem Everywhere.under {P : Node → Prop} {m n : Node} (h : Everywhere P n) (hm : m.Under n) :
    P m := by
  induction hm with
  | here => exact h.here
  | part _ mem ih => exact ih (h.part mem)

/-- A property holds everywhere in a node if it holds at every node under it: by induction on the
node. -/
theorem Everywhere.of_under {P : Node → Prop} {n : Node} (h : ∀ m : Node, m.Under n → P m) :
    Everywhere P n := by
  induction n using Node.induction with
  | step n ih => exact .intro (h n .here) fun m hm => ih m hm fun k hk => h k (hk.part hm)

/-- A constant under a decoded tree is inside the value it was read from, and no object. -/
theorem Expr.inside_of_under {v w : Json} {e : Expr} (h : Expr.ofJson v = .ok e)
    (hw : (Node.expr (.lit w)).Under (.expr e)) : w.Inside v ∧ w.isObj = false :=
  (Expr.decoded_inside h).under hw w rfl

/-- A constant that is met while another one is written: an item of an array, or a constant of
the expression that an object is read as. -/
inductive Json.Met (w : Json) : Json → Prop where
  | item {items : List Json} (mem : w ∈ items) : Met w (.arr items)
  | literal {fields : List (String × Json)} {e : Expr} (read : Expr.ofJson (.obj fields) = .ok e)
      (h : (Node.expr (.lit w)).Under (.expr e)) : Met w (.obj fields)

/-- What is met while a constant is written is a value inside it, so it is smaller. -/
theorem Json.Met.size_lt {v w : Json} (h : w.Met v) : w.size < v.size := by
  cases h with
  | item mem =>
    have := size_lt_of_mem_items mem
    rw [size_arr]
    omega
  | literal read under =>
    obtain ⟨inside, scalar⟩ := Expr.inside_of_under read under
    exact inside.size_lt rfl scalar

/-- No constant is met without end. -/
theorem Json.wellFounded_met : WellFounded Json.Met :=
  Subrelation.wf Json.Met.size_lt (InvImage.wf Json.size Nat.lt_wfRel.wf)

/-! ### Sizes of constants in trees -/

mutual

/-- The size that the writer counts down is within the one that Lean gives to values. -/
theorem Json.size_le_sizeOf (v : Json) : v.size ≤ sizeOf v := by
  cases v with
  | arr items =>
    have := Json.sizeItems_le_sizeOf items
    rw [size_arr, Json.arr.sizeOf_spec]
    omega
  | obj fields =>
    have := Json.sizeFields_le_sizeOf fields
    rw [size_obj, Json.obj.sizeOf_spec]
    omega
  | _ => exact Nat.zero_le _

theorem Json.sizeItems_le_sizeOf (items : List Json) : sizeItems items ≤ sizeOf items := by
  cases items with
  | nil => exact Nat.zero_le _
  | cons v items =>
    have := Json.size_le_sizeOf v
    have := Json.sizeItems_le_sizeOf items
    rw [sizeItems_cons, List.cons.sizeOf_spec]
    omega

theorem Json.sizeFields_le_sizeOf (fields : List (String × Json)) :
    sizeFields fields ≤ sizeOf fields := by
  cases fields with
  | nil => exact Nat.zero_le _
  | cons field fields =>
    obtain ⟨key, v⟩ := field
    have := Json.size_le_sizeOf v
    have := Json.sizeFields_le_sizeOf fields
    rw [sizeFields_cons, List.cons.sizeOf_spec, Prod.mk.sizeOf_spec]
    omega

end

/-- The constants of a tree are no larger than the tree. -/
theorem Node.everywhere_size_le (n : Node) {bound : Nat} (h : sizeOf n ≤ bound) :
    Everywhere (fun m => ∀ v, m.constant? = some v → v.size ≤ bound) n := by
  induction n using Node.induction with
  | step n ih =>
    refine .intro (fun v hv => ?_) fun m hm => ih m hm ?_
    · cases n with
      | query q => cases hv
      | expr e =>
        cases e <;> cases hv
        have := v.size_le_sizeOf
        simp only [Node.expr.sizeOf_spec, Expr.lit.sizeOf_spec] at h
        omega
    · have := Node.sizeOf_lt_of_mem_parts hm
      omega

namespace Sql

open Writer

/-- A writer of bounded constants: where objects smaller than a bound are written alike, so is
every tree whose constants are no larger. -/
theorem Writer.keptConstant_of_size {w : Writer} {g : List (String × Json) → Except Error String}
    {bound : Nat} (same : ∀ fields, sizeFields fields < bound → g fields = w.objects fields)
    {v : Json} (hv : v.size ≤ bound) : (w.withObjects g).constant v = w.constant v := by
  refine constant_kept v fun fields inside => same fields ?_
  have := inside.size_le
  rw [size_obj] at this
  omega

namespace Formatter

variable (f : Formatter)

/-- The expression that an object is read as is written alike where the constants are that are
met on the way. -/
theorem expr_of_met {fields : List (String × Json)} {e : Expr}
    {g : List (String × Json) → Except Error String} (h : decodeObject fields = .ok e)
    (met : ∀ w : Json, w.Met (.obj fields) →
      (f.writer.withObjects g).constant w = f.constant w) :
    (f.writer.withObjects g).expr e = f.expr e := by
  have read : Expr.ofJson (.obj fields) = .ok e := by rw [Expr.ofJson, h]
  refine expr_kept (Everywhere.of_under fun n under v hv => met v ?_)
  rw [Node.eq_lit_of_constant? hv] at under
  exact .literal read under

/-- The expression that an object is read as is written alike where smaller objects are. -/
theorem expr_of_smaller {fields : List (String × Json)} {e : Expr}
    {g : List (String × Json) → Except Error String} (h : decodeObject fields = .ok e)
    (same : ∀ parts, sizeFields parts < sizeFields fields → g parts = f.object parts) :
    (f.writer.withObjects g).expr e = f.expr e := by
  refine f.expr_of_met h fun w met => keptConstant_of_size same ?_
  have smaller := met.size_lt
  rw [size_obj] at smaller
  omega

/-- **An object constant** is written as the expression that it is read as. -/
theorem object_eq (fields : List (String × Json)) :
    f.object fields = decodeObject fields >>= f.expr := by
  rw [object]
  exact bind_congr_ok fun e h => f.expr_of_smaller h fun parts smaller => if_pos smaller

/-- Object constants written by going down a number of times, and then by anything. -/
def unrolled (g : List (String × Json) → Except Error String) :
    Nat → List (String × Json) → Except Error String
  | 0 => g
  | n + 1 => fun fields => decodeObject fields >>= (f.writer.withObjects (unrolled g n)).expr

/-- The writer that goes down a number of times, and then does anything with objects. -/
def deep (g : List (String × Json) → Except Error String) (n : Nat) : Writer :=
  f.writer.withObjects (f.unrolled g n)

variable {f} {g : List (String × Json) → Except Error String} {n : Nat}

/-- Going down as often as an object is large is enough for it. -/
theorem unrolled_eq {fields : List (String × Json)} (h : sizeFields fields < n) :
    f.unrolled g n fields = f.object fields := by
  induction n generalizing fields with
  | zero => exact absurd h (Nat.not_lt_zero _)
  | succ n ih =>
    rw [unrolled, object_eq]
    exact bind_congr_ok fun e he => f.expr_of_smaller he fun parts smaller =>
      ih (by omega)

/-- Going down as often as the constant is large is enough. -/
theorem constant_deep {v : Json} (h : v.size ≤ n) :
    (f.deep g n).constant v = f.constant v :=
  keptConstant_of_size (fun _ smaller => unrolled_eq smaller) h

/-- So it is for every constant of a tree that is no larger. -/
theorem everywhere_deep {m : Node} (h : sizeOf m ≤ n) :
    Everywhere (KeptConstant f.writer (f.unrolled g n)) m :=
  (m.everywhere_size_le h).mono fun _ size v hv => constant_deep (size v hv)

theorem expr_deep {e : Expr} (h : sizeOf (Node.expr e) ≤ n) : (f.deep g n).expr e = f.expr e :=
  expr_kept (everywhere_deep h)

/-- A statement is written the same by going down often enough for the tree and for the constants in
it. -/
theorem statement_deep {q : Query} (h : sizeOf (Node.query q) ≤ n)
    (values : ∀ v ∈ (Node.query q).constants, v.size ≤ n) :
    (f.deep g n).statement q = f.statement q :=
  statement_kept (everywhere_deep h) fun v hv => constant_deep (values v hv)

/-- **Writing ends**. Every constant of the tree that a value is read as, at any depth, is a value
inside it and no object, so it is smaller than an object; no constant is met without end on the way
of another. An object constant is written as the expression that it is read as, by nothing but the
constants that are met. Writing a constant goes down no more often than the constant is large, and
writing an expression or a statement no more often than some number: deeper down, anything may be
put in place of it. -/
theorem writing_ends (f : Formatter) :
    (∀ v e w, Expr.ofJson v = .ok e → (Node.expr (.lit w)).Under (.expr e) →
      w.Inside v ∧ w.isObj = false ∧ (v.isObj = true → w.size < v.size)) ∧
    WellFounded Json.Met ∧
    (∀ fields, f.constant (.obj fields) = Expr.ofJson (.obj fields) >>= f.expr) ∧
    (∀ g fields, (∀ w : Json, w.Met (.obj fields) →
        (f.writer.withObjects g).constant w = f.constant w) →
      f.constant (.obj fields) = Expr.ofJson (.obj fields) >>= (f.writer.withObjects g).expr) ∧
    (∀ v n g, v.size ≤ n → (f.deep g n).constant v = f.constant v) ∧
    (∀ e, ∃ depth, ∀ n g, depth ≤ n → (f.deep g n).expr e = f.expr e) ∧
    ∀ q, ∃ depth, ∀ n g, depth ≤ n → (f.deep g n).statement q = f.statement q := by
  refine ⟨fun v e w read under => ?_, Json.wellFounded_met, fun fields => ?_,
    fun g fields met => ?_, fun v n g size => constant_deep size,
    fun e => ⟨sizeOf (Node.expr e), fun n g h => expr_deep h⟩, fun q => ?_⟩
  · obtain ⟨inside, scalar⟩ := Expr.inside_of_under read under
    exact ⟨inside, scalar, fun object => inside.size_lt object scalar⟩
  · rw [Expr.ofJson]
    exact f.object_eq fields
  · rw [Expr.ofJson]
    exact (f.object_eq fields).trans (bind_congr_ok fun e h => (f.expr_of_met h met).symm)
  · -- deep enough for the tree, and for the constants of a statement that are in no expression
    refine ⟨sizeOf (Node.query q) + sizeFields (q.insert.getD [] ++ q.update.getD []),
      fun n g h => statement_deep (by omega) fun v hv => ?_⟩
    obtain ⟨⟨column, v⟩, mem, rfl⟩ := List.mem_map.1 hv
    have := size_lt_of_mem_fields mem
    dsimp only
    omega

/-- A rank among a sum and a number: the items of an array are written on the way, one of them
an object. -/
def rankAmong : Json :=
  .obj [("rank", .obj [("$in", .arr [.obj [("$add", .arr [.int 1, .int 2])], .int 3])])]

/-- A constant with an object in an array, which is smaller than the whole. -/
theorem rankAmong_ends :
    Expr.ofJson rankAmong = .ok (.compare (.member "rank") .isIn
        (.lit (.arr [.obj [("$add", .arr [.int 1, .int 2])], .int 3]))) ∧
      (Json.arr [.obj [("$add", .arr [.int 1, .int 2])], .int 3]).size < rankAmong.size ∧
      rankAmong.size ≤ 12 ∧
      (ofSettings .plain).constant rankAmong = .ok "(rank IN ((1 + 2), 3))" ∧
      ∀ g, ((ofSettings .plain).deep g 12).constant rankAmong =
        (ofSettings .plain).constant rankAmong := by
  obtain ⟨inside, -, -, -, enough, -⟩ := writing_ends (ofSettings .plain)
  have read : Expr.ofJson rankAmong = .ok (.compare (.member "rank") .isIn
      (.lit (.arr [.obj [("$add", .arr [.int 1, .int 2])], .int 3]))) := by cbv
  have under : (Node.expr (.lit (.arr [.obj [("$add", .arr [.int 1, .int 2])], .int 3]))).Under
      (.expr (.compare (.member "rank") .isIn
        (.lit (.arr [.obj [("$add", .arr [.int 1, .int 2])], .int 3])))) :=
    .part .here (List.mem_cons_of_mem _ List.mem_cons_self)
  have size : rankAmong.size ≤ 12 := by decide
  exact ⟨read, (inside _ _ _ read under).2.2 rfl, size, by cbv, fun g => enough _ _ g size⟩

end Formatter

end Sql

end Sift
