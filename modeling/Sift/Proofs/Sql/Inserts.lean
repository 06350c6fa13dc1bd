import Mathlib
import Sift.Proofs.Sql.Shapes

/-!
# Columns and values of inserts

The values of an insert are written one after another with commas between them, like the items of a
set. So each column has its value exactly if every value is one item: an array of several constants
takes as many places, one without constants leaves an empty one, and so do object constants that
come down to either.

* `Formatter.neat_writer`: formatters with the built-in functions write items, one for each
  expression that is single.
* `Formatter.insert_eq_ok`: the parts of an insert statement.
* `values_aligned_iff`: when the items between the brackets are those of the columns.
* `insert_with_array`: an insert of two columns and three values.
-/

namespace Sift.Sql

open Text

namespace Formatter

variable {f : Formatter}

/-- **The walk of a formatter** with the built-in functions and a plain template. -/
theorem neat_writer (functions : f.functions = .standard) (template : f.settings.nameFormat ≠ "")
    (atomic : Atomic f.settings.nameFormat) : f.writer.Neat := by
  refine ⟨candid_writer functions template, atomic, fun fields t h => ?_⟩
  have inside := object_induction (P := fun fields t =>
    (t = "" ↔ (Expr.lit (.obj fields)).Blank) ∧ ((Node.expr (.lit (.obj fields))).Tidy →
      Parted t ∧ (Sole t ↔ (Expr.lit (.obj fields)).Single)))
    (fun w fields e t settings functions' inside decoded h => ?_) h
  · exact inside.2
  · have candid : w.Candid :=
      ⟨functions' ▸ functions, settings ▸ template, fun parts s hs => (inside parts s hs).1⟩
    have neat : w.Neat := ⟨candid, settings ▸ atomic, fun parts s hs => (inside parts s hs).2⟩
    rw [Expr.blank_object_iff decoded, Expr.single_object_iff decoded]
    exact ⟨candid.expr_eq_empty_iff h, fun tidy => neat.shaped e (tidy.object decoded) h⟩

/-- **An insert statement** that was written: the texts of the values stand in it in the order of
their columns. -/
theorem insert_eq_ok {q : Query} {values : List (String × Json)} (hv : q.insert = some values)
    {sql : String} (h : f.insert q = .ok sql) :
    values ≠ [] ∧ ∃ entity texts, q.collection = some entity ∧
      List.Forall₂ (fun column text => f.constant column.2 = .ok text) values texts ∧
      sql = "INSERT INTO " ++ f.name entity ++ "(" ++ joinWith ", " (values.map (f.name ·.1)) ++
        ") VALUES (" ++ joinWith ", " texts ++ ")" := by
  rw [insert, hv] at h
  obtain ⟨entity, he, h⟩ := bind_eq_ok.1 h
  obtain ⟨given, hg, h⟩ := bind_eq_ok.1 h
  obtain ⟨texts, ht, h⟩ := bind_eq_ok.1 h
  unfold someValues at hg
  split at hg
  · cases hg
  · next given =>
    cases hg
    exact ⟨by simpa using given, entity, texts, collection_of_entity he,
      List.forall₂_map_left_iff.1 (Writer.constants_eq_ok ht), (Except.ok.inj h).symm⟩

end Formatter

/-- The text of a value, by the built-in functions. The template matters only to objects. -/
theorem Formatter.shaped_constant (settings : Settings) {v : Json}
    (template : v.hasObject = true → settings.nameFormat ≠ "" ∧ Atomic settings.nameFormat)
    (tidy : (Node.expr (.lit v)).Tidy) {s : String}
    (h : (Formatter.ofSettings settings).constant v = .ok s) :
    Writer.Shaped (.lit v) s := by
  cases objects : v.hasObject with
  | true =>
    obtain ⟨given, atomic⟩ := template objects
    have neat : (Formatter.ofSettings settings).writer.Neat := neat_writer rfl given atomic
    exact neat.shaped_constant tidy h
  | false =>
    have neat : (Formatter.ofSettings .plain).writer.Neat := neat_writer rfl (by decide) (by decide)
    -- names are written in objects only, so any template does
    refine neat.shaped_constant tidy ?_
    have same : Agree Eq ((Formatter.ofSettings .plain).writer.constant v)
        ((Formatter.ofSettings settings).writer.constant v) :=
      Writer.constant_related (C := .same) v objects
    exact (Agree.eq_iff.1 same).trans h

/-- **Columns and values are aligned** exactly if every value is one item: then the items between
the brackets, read at the commas outside of literals and brackets, are the texts of the values in
the order of their columns, and none is empty. Names, which only object constants hold, are taken
to be plain, and so is the template for them. -/
theorem values_aligned_iff (settings : Settings) {q : Query} {values : List (String × Json)}
    (hv : q.insert = some values)
    (template : ∀ column ∈ values, column.2.hasObject = true →
      settings.nameFormat ≠ "" ∧ Atomic settings.nameFormat)
    (tidy : ∀ column ∈ values, (Node.expr (.lit column.2)).Tidy) {sql : String}
    (h : (Formatter.ofSettings settings).insert q = .ok sql) :
    ∃ entity texts, q.collection = some entity ∧
      List.Forall₂ (fun column text =>
        (Formatter.ofSettings settings).constant column.2 = .ok text) values texts ∧
      sql = "INSERT INTO " ++ (Formatter.ofSettings settings).name entity ++ "(" ++
        joinWith ", " (values.map ((Formatter.ofSettings settings).name ·.1)) ++
        ") VALUES (" ++ joinWith ", " texts ++ ")" ∧
      ((items (joinWith ", " texts) = texts ∧ ∀ text ∈ texts, text ≠ "") ↔
        ∀ column ∈ values, (Expr.lit column.2).Single) := by
  obtain ⟨given, entity, texts, collection, written, rfl⟩ := Formatter.insert_eq_ok hv h
  have shaped : List.Forall₂ (fun column text => Writer.Shaped (.lit column.2) text)
      values texts := ((List.forall₂_and_left values texts).2 ⟨fun _ hc => hc, written⟩).imp
    fun column _ both =>
      Formatter.shaped_constant settings (template column both.1) (tidy column both.1) both.2
  have parted : ∀ text ∈ texts, Parted text := forall_mem_of_forall₂ shaped fun _ _ _ h => h.1
  -- there is a column, so the joined texts are not those of an empty list
  have any : texts ≠ [] := by
    intro empty
    rw [empty] at written
    cases written
    exact given rfl
  have single : List.Forall₂ (fun column text => (Expr.lit column.2).Single ↔ Sole text)
      values texts := shaped.imp fun _ _ h => h.2.symm
  refine ⟨entity, texts, collection, written, rfl, ?_⟩
  rw [items_joinWith_eq_iff any parted, ← forall₂_and]
  exact (forall_mem_iff_of_forall₂ single).symm

/-- A title, a rank and the price of something. -/
def ranked : List (String × Json) :=
  [("title", .str "it's (a, b)"), ("rank", .arr [.int 3]),
    ("total", .obj [("$name", .str "price")])]

theorem decodeObject_price : decodeObject [("$name", .str "price")] = .ok (.member "price") := by
  cbv

/-- The values hold no names but one, and that has no comma or bracket. -/
theorem tidy_ranked : ∀ column ∈ ranked, (Node.expr (.lit column.2)).Tidy := by
  -- a scalar has no part that is reached
  have scalar {v : Json} (h : v.isScalar = true) : (Node.expr (.lit v)).Tidy := by
    intro k hk
    cases hk with
    | here => exact List.forall_mem_nil _
    | part hm => cases hm
    | item => cases h
    | object => cases h
  have array : (Node.expr (.lit (.arr [.int 3]))).Tidy := by
    intro k hk
    cases hk with
    | here => exact List.forall_mem_nil _
    | part hm => cases hm
    | item hv hk =>
      rw [List.mem_singleton.1 hv] at hk
      exact scalar rfl k hk
  have object : (Node.expr (.lit (.obj [("$name", .str "price")]))).Tidy := by
    intro k hk
    cases hk with
    | here => exact List.forall_mem_nil _
    | part hm => cases hm
    | object decoded hk =>
      rw [decodeObject_price] at decoded
      cases decoded
      cases hk with
      | here => exact List.forall_mem_singleton.2 (by decide)
      | part hm => cases hm
  exact List.forall_mem_cons.2 ⟨scalar rfl, List.forall_mem_cons.2 ⟨array,
    List.forall_mem_singleton.2 object⟩⟩

/-- A text with brackets and a comma in it, a list of one item and an object that stands for a
column: each of them is one item. -/
theorem ranked_aligned :
    (∀ column ∈ ranked, column.2.hasObject = true →
      Settings.plain.nameFormat ≠ "" ∧ Atomic Settings.plain.nameFormat) ∧
    (∀ column ∈ ranked, (Node.expr (.lit column.2)).Tidy) ∧
    (Formatter.ofSettings .plain).insert
        { Query.empty with collection := some "log", insert := some ranked } =
      .ok "INSERT INTO log(title, rank, total) VALUES ('it''s (a, b)', 3, price)" ∧
    ∃ texts, List.Forall₂ (fun column text =>
        (Formatter.ofSettings .plain).constant column.2 = .ok text) ranked texts ∧
      items (joinWith ", " texts) = texts ∧ ∀ text ∈ texts, text ≠ "" := by
  have template : ∀ column ∈ ranked, column.2.hasObject = true →
      Settings.plain.nameFormat ≠ "" ∧ Atomic Settings.plain.nameFormat := fun _ _ _ => by decide
  have written : (Formatter.ofSettings .plain).insert
      { Query.empty with collection := some "log", insert := some ranked } =
        .ok "INSERT INTO log(title, rank, total) VALUES ('it''s (a, b)', 3, price)" := by cbv
  have single : ∀ column ∈ ranked, (Expr.lit column.2).Single := by
    exact List.forall_mem_cons.2 ⟨.scalar rfl, List.forall_mem_cons.2 ⟨.oneItem (.scalar rfl),
      List.forall_mem_singleton.2 (.object decodeObject_price (.member (by decide)))⟩⟩
  obtain ⟨_, texts, -, texts_eq, -, aligned⟩ :=
    values_aligned_iff .plain rfl template tidy_ranked written
  exact ⟨template, tidy_ranked, written, texts, texts_eq, aligned.2 single⟩

/-- Two columns and three values: the items of an array take places of their own. -/
theorem insert_with_array :
    (Formatter.ofSettings .plain).insert
        { Query.empty with
          collection := some "T"
          insert := some [("a", .arr [.int 1, .int 2]), ("b", .int 3)] } =
      .ok "INSERT INTO T(a, b) VALUES (1, 2, 3)" ∧
    items "1, 2, 3" = ["1", "2", "3"] := by
  constructor <;> cbv

end Sift.Sql
