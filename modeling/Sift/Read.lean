/-!
# Values read from the front of a list

What one step of a reader returns: the value, the rest of the input, and the evidence that the rest
is shorter, by which every reader of the library ends. Steps are put together by the operations
here, so that readers carry no proofs of their own.

* `Read`: a value that took at least one element; `Scan`: one that may have taken none.
* `Read.past`, `Scan.past`: the same value, read one element later.
* `Read.thenRead` and its kin: one step after another.
* `readRun?`, `runFrom`: the longest run of elements that satisfy a test.
-/

namespace Sift

universe u v

variable {α β γ : Type u} {τ : Type v}

theorem length_lt_cons (x : τ) (xs : List τ) : xs.length < (x :: xs).length :=
  Nat.lt_succ_self xs.length

theorem length_lt_cons_cons (x y : τ) (xs : List τ) : xs.length < (x :: y :: xs).length :=
  Nat.lt_trans (length_lt_cons y xs) (length_lt_cons x (y :: xs))

theorem length_lt_of_eq_cons {x : τ} {xs ys : List τ} (h : ys = x :: xs) : xs.length < ys.length :=
  h ▸ length_lt_cons x xs

/-- Two readers one after another leave less than either found. -/
theorem length_lt_of_cons_lt {x : τ} {xs ys zs : List τ} (h : (x :: xs).length < ys.length)
    (hz : zs.length < xs.length) : zs.length < ys.length :=
  Nat.lt_trans hz (Nat.lt_of_succ_lt h)

/-- What is longer than something is not empty. -/
theorem not_isEmpty {xs ys : List τ} (h : xs.length < ys.length) : ¬ ys.isEmpty := by
  intro empty
  rw [List.isEmpty_iff.1 empty] at h
  exact absurd h (Nat.not_lt_zero _)

/-- A value read from the front of `input`, and what is left of it. -/
structure Read (α : Type u) {τ : Type v} (input : List τ) where
  value : α
  rest : List τ
  shorter : rest.length < input.length

/-- A part that may be missing at the front of `input`, and what follows it. -/
structure Scan (α : Type u) {τ : Type v} (input : List τ) where
  value : α
  rest : List τ
  le : rest.length ≤ input.length

variable {input xs : List τ} {x : τ}

namespace Read

/-- One element read. -/
def one (value : α) (x : τ) (xs : List τ) : Read α (x :: xs) := ⟨value, xs, length_lt_cons x xs⟩

/-- Two elements read. -/
def two (value : α) (x y : τ) (xs : List τ) : Read α (x :: y :: xs) :=
  ⟨value, xs, length_lt_cons_cons x y xs⟩

/-- The same rest with another value. -/
def map (f : α → β) (r : Read α input) : Read β input := ⟨f r.value, r.rest, r.shorter⟩

/-- The same value, read one element later. -/
def past (x : τ) (r : Read α xs) : Read α (x :: xs) :=
  ⟨r.value, r.rest, Nat.lt_succ_of_lt r.shorter⟩

/-- Reading on after a first step, with a value made of both. -/
def thenRead (r : Read α input) (s : Read β r.rest) (value : γ) : Read γ input :=
  ⟨value, s.rest, Nat.lt_trans s.shorter r.shorter⟩

/-- Scanning on after a first step. -/
def thenScan (r : Read α input) (s : Scan β r.rest) (value : γ) : Read γ input :=
  ⟨value, s.rest, Nat.lt_of_le_of_lt s.le r.shorter⟩

/-- Something read as a scan. -/
def toScan (r : Read α input) : Scan α input := ⟨r.value, r.rest, Nat.le_of_lt r.shorter⟩

/-- A step past one more element that was found behind the first step. -/
def thenOne (r : Read α input) (h : r.rest = x :: xs) (value : γ) : Read γ input :=
  ⟨value, xs, by have := r.shorter; rw [h, List.length_cons] at this; omega⟩

/-- Reading on past an element that was found behind the first step. -/
def thenPast (r : Read α input) (h : r.rest = x :: xs) (s : Read β xs) (value : γ) :
    Read γ input :=
  ⟨value, s.rest, by
    have := r.shorter; have := s.shorter; rw [h, List.length_cons] at *; omega⟩

/-- What an element behind a step leaves is shorter than the input. -/
theorem length_lt (r : Read α input) (h : r.rest = x :: xs) : xs.length < input.length := by
  have := r.shorter
  rw [h, List.length_cons] at this
  omega

/-- A step past an element leaves less than stood in front of it. -/
theorem length_thenPast_lt (r : Read α input) (h : r.rest = x :: xs) (s : Read β xs) (value : γ) :
    (r.thenPast h s value).rest.length < r.rest.length :=
  Nat.lt_trans s.shorter (length_lt_of_eq_cons h)

/-- One element in front of something read. -/
theorem length_lt_cons (r : Read α xs) (x : τ) : r.rest.length < (x :: xs).length :=
  Nat.lt_succ_of_lt r.shorter

@[simp] theorem value_one (value : α) (x : τ) (xs : List τ) : (one value x xs).value = value := rfl

@[simp] theorem rest_one (value : α) (x : τ) (xs : List τ) : (one value x xs).rest = xs := rfl

@[simp] theorem value_two (value : α) (x y : τ) (xs : List τ) :
    (two value x y xs).value = value := rfl

@[simp] theorem rest_two (value : α) (x y : τ) (xs : List τ) : (two value x y xs).rest = xs := rfl

@[simp] theorem value_map (f : α → β) (r : Read α input) : (r.map f).value = f r.value := rfl

@[simp] theorem rest_map (f : α → β) (r : Read α input) : (r.map f).rest = r.rest := rfl

@[simp] theorem value_past (r : Read α xs) : (r.past x).value = r.value := rfl

@[simp] theorem rest_past (r : Read α xs) : (r.past x).rest = r.rest := rfl

@[simp] theorem value_thenRead (r : Read α input) (s : Read β r.rest) (value : γ) :
    (r.thenRead s value).value = value := rfl

@[simp] theorem rest_thenRead (r : Read α input) (s : Read β r.rest) (value : γ) :
    (r.thenRead s value).rest = s.rest := rfl

@[simp] theorem value_thenScan (r : Read α input) (s : Scan β r.rest) (value : γ) :
    (r.thenScan s value).value = value := rfl

@[simp] theorem rest_thenScan (r : Read α input) (s : Scan β r.rest) (value : γ) :
    (r.thenScan s value).rest = s.rest := rfl

@[simp] theorem value_thenOne (r : Read α input) (h : r.rest = x :: xs) (value : γ) :
    (r.thenOne h value).value = value := rfl

@[simp] theorem rest_thenOne (r : Read α input) (h : r.rest = x :: xs) (value : γ) :
    (r.thenOne h value).rest = xs := rfl

@[simp] theorem value_thenPast (r : Read α input) (h : r.rest = x :: xs) (s : Read β xs)
    (value : γ) : (r.thenPast h s value).value = value := rfl

@[simp] theorem rest_thenPast (r : Read α input) (h : r.rest = x :: xs) (s : Read β xs)
    (value : γ) : (r.thenPast h s value).rest = s.rest := rfl

end Read

namespace Scan

/-- Nothing taken. -/
def nothing (value : α) (input : List τ) : Scan α input := ⟨value, input, Nat.le_refl _⟩

/-- One element taken. -/
def one (value : α) (x : τ) (xs : List τ) : Scan α (x :: xs) := ⟨value, xs, Nat.le_succ _⟩

/-- The same rest with another value. -/
def map (f : α → β) (s : Scan α input) : Scan β input := ⟨f s.value, s.rest, s.le⟩

/-- The same value, one element later. -/
def past (x : τ) (s : Scan α xs) : Scan α (x :: xs) :=
  ⟨s.value, s.rest, Nat.le_succ_of_le s.le⟩

/-- An element and a scan behind it are something read. -/
def after (x : τ) (s : Scan α xs) : Read α (x :: xs) :=
  ⟨s.value, s.rest, Nat.lt_succ_of_le s.le⟩

/-- Scanning on. -/
def thenScan (s : Scan α input) (t : Scan β s.rest) (value : γ) : Scan γ input :=
  ⟨value, t.rest, Nat.le_trans t.le s.le⟩

/-- Reading on after a scan. -/
def thenRead (s : Scan α input) (r : Read β s.rest) (value : γ) : Read γ input :=
  ⟨value, r.rest, Nat.lt_of_lt_of_le r.shorter s.le⟩

/-- A step past one element that was found behind a scan. -/
def thenOne (s : Scan α input) (h : s.rest = x :: xs) (value : γ) : Read γ input :=
  ⟨value, xs, by have := s.le; rw [h, List.length_cons] at this; omega⟩

/-- Reading on past an element that was found behind a scan. -/
def thenPast (s : Scan α input) (h : s.rest = x :: xs) (r : Read β xs) (value : γ) :
    Read γ input :=
  ⟨value, r.rest, by
    have := s.le; have := r.shorter; rw [h, List.length_cons] at *; omega⟩

/-- What an element behind a scan leaves is shorter than the input. -/
theorem length_lt (s : Scan α input) (h : s.rest = x :: xs) : xs.length < input.length := by
  have := s.le
  rw [h, List.length_cons] at this
  omega

/-- A scan does not lengthen what a reader may call the next one on. -/
theorem lex_lt {m n : Nat} (s : Scan α input) (h : m < n) :
    Prod.Lex (· < ·) (· < ·) (s.rest.length, m) (input.length, n) :=
  (Nat.lt_or_eq_of_le s.le).elim (Prod.Lex.left _ _) fun e => e ▸ Prod.Lex.right _ h

/-- Two elements in front of a scan. -/
theorem length_lt_cons_cons (s : Scan α xs) (x y : τ) : s.rest.length < (x :: y :: xs).length :=
  Nat.lt_of_le_of_lt s.le (Sift.length_lt_cons_cons x y xs)

/-- One element in front of a scan. -/
theorem length_lt_cons (s : Scan α xs) (x : τ) : s.rest.length < (x :: xs).length :=
  Nat.lt_succ_of_le s.le

/-- Something read at the end of a scan leaves less than the input. -/
theorem rest_length_lt (s : Scan α input) (h : s.rest = x :: xs) (r : Read β (x :: xs)) :
    r.rest.length < input.length :=
  Nat.lt_of_lt_of_le r.shorter (congrArg List.length h ▸ s.le)

@[simp] theorem value_after (s : Scan α xs) : (s.after x).value = s.value := rfl

@[simp] theorem rest_after (s : Scan α xs) : (s.after x).rest = s.rest := rfl

end Scan

section Span

variable (p : τ → Bool) (xs : List τ)

/-- Dropping never adds. -/
theorem length_dropWhile_le : (xs.dropWhile p).length ≤ xs.length :=
  (List.dropWhile_sublist p).length_le

/-- Dropping after one element leaves less. -/
theorem length_dropWhile_lt_cons (x : τ) : (xs.dropWhile p).length < (x :: xs).length :=
  Nat.lt_succ_of_le (length_dropWhile_le p xs)

/-- Something taken is something dropped. -/
theorem length_dropWhile_lt (h : xs.takeWhile p ≠ []) :
    (xs.dropWhile p).length < xs.length := by
  cases xs with
  | nil => simp at h
  | cons x xs =>
    by_cases hx : p x
    · have := length_dropWhile_le p xs
      simp only [List.dropWhile_cons, hx, if_true, List.length_cons]
      omega
    · simp [hx] at h

/-- The longest run of elements that satisfy `p`, if there is any. -/
def readRun? : Option (Read (List τ) xs) :=
  if h : xs.takeWhile p ≠ [] then some ⟨xs.takeWhile p, xs.dropWhile p, length_dropWhile_lt p xs h⟩
  else none

/-- The longest run, which may be empty. -/
def scanRun : Scan (List τ) xs := ⟨xs.takeWhile p, xs.dropWhile p, length_dropWhile_le p xs⟩

/-- So many elements, or all there are. -/
def scanCount (n : Nat) : Scan (List τ) xs :=
  ⟨xs.take n, xs.drop n, (List.drop_sublist n xs).length_le⟩

/-- The longest run that starts with a given element. -/
def runFrom (x : τ) : Read (List τ) (x :: xs) :=
  ⟨x :: xs.takeWhile p, xs.dropWhile p, length_dropWhile_lt_cons p xs x⟩

end Span

end Sift
