import Sift.Proofs.Steps
import Sift.Sql.Function

/-!
# Calls that are written

Every built-in function takes a number of arguments in a fixed range, and writes a call of so many
arguments exactly if every one of them is written: none is left out, and no call fails otherwise.

* `Arity.Admits`: the numbers of arguments in a range.
* `Renderer.Takes`: a renderer writes calls of so many arguments, each of which is needed.
* `FunctionTable.arities`: the ranges of the built-in functions.
* `FunctionTable.succeeds_render_standard`: which calls the built-in functions write.
-/

namespace Sift

/-- The numbers of arguments in a range. -/
def Arity.Admits : Arity → Nat → Prop
  | .exactly n, k => k = n
  | .atLeast n, k => n ≤ k
  | .between least most, k => least ≤ k ∧ k ≤ most

namespace Sql

open Text

/-- A constant argument is written. -/
def Operand.Sound (a : Operand) : Prop := ∀ v, a.expr = .lit v → Succeeds a.sql

/-- Calls of so many arguments are written, if each of the arguments is, and no others. -/
def Renderer.Takes (arity : Arity) (r : Renderer) : Prop :=
  ∀ args : List Operand, (∀ a ∈ args, a.Sound) →
    (Succeeds (r args) ↔ arity.Admits args.length ∧ ∀ a ∈ args, Succeeds a.sql)

namespace Renderer

variable (name : String)

theorem not_succeeds_refuse (arity : Arity) (args : List Operand) :
    ¬ Succeeds (refuse name arity args) := not_succeeds_error _

/-- A call of one argument is written just where its argument is, if what it writes of one is. -/
theorem takes_unary {write : Operand → Except Error String}
    (h : ∀ a, a.Sound → (Succeeds (write a) ↔ Succeeds a.sql)) :
    Takes (.exactly 1) (unary name write) := by
  intro args sound
  rcases args with - | ⟨a, - | ⟨b, args⟩⟩
  · simp [unary, not_succeeds_refuse, Arity.Admits]
  · rw [unary, h a (sound a List.mem_cons_self)]
    simp [Arity.Admits]
  · simp [unary, not_succeeds_refuse, Arity.Admits]

/-- So is a call of two. -/
theorem takes_binary {write : Operand → Operand → Except Error String}
    (h : ∀ a b, a.Sound → b.Sound → (Succeeds (write a b) ↔ Succeeds a.sql ∧ Succeeds b.sql)) :
    Takes (.exactly 2) (binary name write) := by
  intro args sound
  rcases args with - | ⟨a, - | ⟨b, - | ⟨c, args⟩⟩⟩
  · simp [binary, not_succeeds_refuse, Arity.Admits]
  · simp [binary, not_succeeds_refuse, Arity.Admits]
  · rw [binary, h a b (sound a (by simp)) (sound b (by simp))]
    simp [Arity.Admits]
  · simp [binary, not_succeeds_refuse, Arity.Admits]

theorem takes_apply (sql : String) : Takes (.exactly 1) (apply name sql) :=
  takes_unary name fun _ _ => succeeds_bind_ok

theorem takes_infixed (symbol : String) : Takes (.exactly 2) (infixed name symbol) :=
  takes_binary name fun _ _ _ _ => succeeds_bind_iff fun _ => succeeds_bind_ok

theorem takes_locate : Takes (.exactly 2) (locate name) :=
  -- what is sought is written first, although it is the second argument
  takes_binary name fun _ _ _ _ =>
    (succeeds_bind_iff fun _ => succeeds_bind_ok).trans and_comm

theorem takes_coalesce : Takes (.exactly 2) (coalesce name) :=
  takes_binary name fun _ _ _ _ => succeeds_bind_iff fun _ => succeeds_bind_ok

theorem takes_rawPattern : Takes (.exactly 2) (rawPattern name) :=
  takes_binary name fun _ _ _ _ => succeeds_bind_iff fun _ => succeeds_bind_ok

/-- The texts of arguments are written if each is. -/
theorem succeeds_mapM {args : List Operand} :
    Succeeds (args.mapM Operand.sql) ↔ ∀ a ∈ args, Succeeds a.sql := by
  induction args with
  | nil => simp
  | cons a args ih =>
    rw [List.mapM_cons, List.forall_mem_cons, ← ih]
    exact succeeds_bind_iff fun _ => succeeds_bind_ok

/-- A concatenation takes any number of texts, but at least one. -/
theorem takes_concat : Takes (.atLeast 1) (concat name) := by
  intro args _
  rcases args with - | ⟨a, args⟩
  · simp [concat, not_succeeds_refuse, Arity.Admits]
  · have written : Succeeds (concat name (a :: args)) ↔ ∀ b ∈ a :: args, Succeeds b.sql :=
      (succeeds_bind_ok.trans succeeds_bind_ok).trans succeeds_mapM
    rw [written]
    simp [Arity.Admits]

/-! ### Constants that are not written as they are -/

/-- The text of a constant argument is a literal, which never fails. -/
theorem succeeds_of_string? {a : Operand} (ha : a.Sound) {s : String} (hs : a.string? = some s) :
    Succeeds a.sql := by
  unfold Operand.string? at hs
  split at hs
  · next he => exact ha _ he
  · cases hs

/-- Nor is a constant integer refused. -/
theorem succeeds_of_signed? {a : Operand} (ha : a.Sound) {n : Int} (hn : a.signed? = some n) :
    Succeeds a.sql := by
  unfold Operand.signed? at hn
  split at hn
  · next he => exact ha _ he
  · cases hn

/-- A pattern is made of a constant text, or written as the argument it is. -/
theorem succeeds_literalPattern {a : Operand} (ha : a.Sound) :
    Succeeds (literalPattern a) ↔ Succeeds a.sql := by
  unfold literalPattern
  split
  · -- the pattern of a constant is made of its value, whose own text is not asked for
    next hs => simp [succeeds_of_string? ha hs]
  · exact Iff.rfl

/-- A pattern made of the second argument, then the first. -/
theorem succeeds_anchored {a b : Operand} (hb : b.Sound) {f g : String → String} :
    Succeeds (do
      let pattern ← match b.string? with
        | some s => pure (f s)
        | none => do pure (g (← b.sql))
      return matching (← a.sql) pattern : Except Error String) ↔
    Succeeds a.sql ∧ Succeeds b.sql := by
  cases hs : b.string? with
  | some s => exact succeeds_bind_ok.trans (and_iff_left (succeeds_of_string? hb hs)).symm
  | none => exact (succeeds_bind_iff fun _ => succeeds_bind_ok).trans and_comm

theorem takes_startsWith : Takes (.exactly 2) (startsWith name) :=
  takes_binary name fun _ _ _ hb => succeeds_anchored hb

theorem takes_endsWith : Takes (.exactly 2) (endsWith name) :=
  takes_binary name fun _ _ _ hb => succeeds_anchored hb

theorem takes_contains : Takes (.exactly 2) (contains name) :=
  takes_binary name fun _ _ _ hb =>
    succeeds_bind_iff fun _ => succeeds_bind_ok.trans (succeeds_literalPattern hb)

theorem takes_substringOf : Takes (.exactly 2) (substringOf name) :=
  takes_binary name fun _ _ ha _ => (succeeds_bind_iff fun _ =>
    succeeds_bind_ok.trans (succeeds_literalPattern ha)).trans and_comm

/-- A position is moved by one as a constant or with an addition, and in both cases written where
the argument is. -/
theorem succeeds_fromOne {a : Operand} (ha : a.Sound) :
    Succeeds (fromOne a) ↔ Succeeds a.sql := by
  unfold fromOne
  dsimp only
  split
  · next hn =>
    obtain ⟨start, hs, -⟩ := Option.bind_eq_some_iff.1 hn
    simp [succeeds_of_signed? ha hs]
  · exact succeeds_bind_ok

/-! ### Arguments that may be missing -/

/-- A part has a start and may have a length. -/
theorem takes_substring : Takes (.between 2 3) (substring name) := by
  intro args sound
  rcases args with - | ⟨a, - | ⟨start, - | ⟨length, - | ⟨b, args⟩⟩⟩⟩
  · simp [substring, not_succeeds_refuse, Arity.Admits]
  · simp [substring, not_succeeds_refuse, Arity.Admits]
  · have written : Succeeds (substring name [a, start]) ↔
        Succeeds (fromOne start) ∧ Succeeds a.sql :=
      succeeds_bind_iff fun _ => succeeds_bind_ok
    rw [written, succeeds_fromOne (sound start (by simp)), and_comm]
    simp [Arity.Admits]
  · have written : Succeeds (substring name [a, start, length]) ↔
        Succeeds (fromOne start) ∧ Succeeds a.sql ∧ Succeeds length.sql :=
      succeeds_bind_iff fun _ => succeeds_bind_iff fun _ => succeeds_bind_ok
    rw [written, succeeds_fromOne (sound start (by simp)), and_left_comm]
    simp [Arity.Admits]
  · simp [substring, not_succeeds_refuse, Arity.Admits]

/-- Rounding may be told the number of places. -/
theorem takes_round : Takes (.between 1 2) (round name) := by
  intro args _
  rcases args with - | ⟨a, - | ⟨digits, - | ⟨b, args⟩⟩⟩
  · simp [round, not_succeeds_refuse, Arity.Admits]
  · have written : Succeeds (round name [a]) ↔ Succeeds a.sql := succeeds_bind_ok
    simp [written, Arity.Admits]
  · have written : Succeeds (round name [a, digits]) ↔ Succeeds digits.sql ∧ Succeeds a.sql :=
      succeeds_bind_iff fun _ => succeeds_bind_ok
    rw [written, and_comm]
    simp [Arity.Admits]
  · simp [round, not_succeeds_refuse, Arity.Admits]

/-- Counting may be told what to count, and counts all rows otherwise. -/
theorem takes_count : Takes (.between 0 1) (count name) := by
  intro args _
  rcases args with - | ⟨a, - | ⟨b, args⟩⟩
  · simp [count, Arity.Admits]
  · have written : Succeeds (count name [a]) ↔ Succeeds a.sql := succeeds_bind_ok
    simp [written, Arity.Admits]
  · simp [count, not_succeeds_refuse, Arity.Admits]

end Renderer

/-! ### The built-in functions -/

namespace FunctionTable

open Renderer

/-- The numbers of arguments that the built-in functions take. -/
def arities : List (String × Arity) :=
  [ -- texts
    ("length", .exactly 1),
    ("trim", .exactly 1),
    ("tolower", .exactly 1),
    ("lower", .exactly 1),
    ("toupper", .exactly 1),
    ("upper", .exactly 1),
    ("concat", .atLeast 1),
    ("indexof", .exactly 2),
    ("substring", .between 2 3),
    ("substr", .between 2 3),
    -- patterns
    ("startswith", .exactly 2),
    ("endswith", .exactly 2),
    ("contains", .exactly 2),
    ("substringof", .exactly 2),
    ("text", .exactly 2),
    ("regex", .exactly 2),
    -- dates and times
    ("day", .exactly 1),
    ("month", .exactly 1),
    ("year", .exactly 1),
    ("hour", .exactly 1),
    ("minute", .exactly 1),
    ("second", .exactly 1),
    ("date", .exactly 1),
    -- numbers
    ("floor", .exactly 1),
    ("ceiling", .exactly 1),
    ("round", .between 1 2),
    ("add", .exactly 2),
    ("sub", .exactly 2),
    ("mul", .exactly 2),
    ("div", .exactly 2),
    ("mod", .exactly 2),
    ("bit", .exactly 2),
    ("ifnull", .exactly 2),
    -- aggregates
    ("count", .between 0 1),
    ("min", .exactly 1),
    ("max", .exactly 1),
    ("avg", .exactly 1),
    ("sum", .exactly 1)]

/-- A function with its range. -/
def Fits (entry : String × Renderer) (arity : String × Arity) : Prop :=
  entry.1 = arity.1 ∧ entry.2.Takes arity.2

/-- Each built-in function takes the arguments of its range. -/
theorem fits_arities : List.Forall₂ Fits standard arities := by
  unfold standard arities Fits
  simp only [List.forall₂_cons, List.Forall₂.nil, takes_apply, takes_infixed, takes_concat,
    takes_locate, takes_substring, takes_startsWith, takes_endsWith, takes_contains,
    takes_substringOf, takes_rawPattern, takes_round, takes_coalesce, takes_count, and_self]

/-- A name is found in both tables or in neither. -/
theorem lookup_fits {table : FunctionTable} {ranges : List (String × Arity)}
    (h : List.Forall₂ Fits table ranges) (name : String) :
    table.lookup name = none ∧ ranges.lookup name = none ∨
    ∃ r arity, table.lookup name = some r ∧ ranges.lookup name = some arity ∧ r.Takes arity := by
  induction h with
  | nil => exact .inl ⟨rfl, rfl⟩
  | @cons entry range table ranges first _ ih =>
    obtain ⟨s, r⟩ := entry
    obtain ⟨t, arity⟩ := range
    obtain ⟨rfl, takes⟩ := first
    rw [List.lookup_cons, List.lookup_cons]
    cases name == s with
    | true => exact .inr ⟨r, arity, rfl, rfl, takes⟩
    | false => exact ih

/-- **A call of a built-in function** is written exactly if the function takes so many arguments and
each of them is written. -/
theorem succeeds_render_standard {name : String} {args : List Operand}
    (sound : ∀ a ∈ args, a.Sound) :
    Succeeds (standard.render name args) ↔
      (∃ arity, arities.lookup (asciiLower name) = some arity ∧ arity.Admits args.length) ∧
      ∀ a ∈ args, Succeeds a.sql := by
  unfold render find?
  obtain ⟨missing, unknown⟩ | ⟨r, arity, found, range, takes⟩ :=
    lookup_fits fits_arities (asciiLower name)
  · rw [missing, unknown]
    simp
  · rw [found, range]
    simp [takes args sound]

end FunctionTable

end Sql

end Sift
