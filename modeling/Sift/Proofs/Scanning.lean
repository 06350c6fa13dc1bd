import Mathlib.Data.List.TakeWhile

/-!
# Texts that are scanned piece by piece

A scanner turns a text into tokens. A piece of a text has tokens of its own if they come out in
front of whatever may follow it.

* `Follows`: the first character of a text, if it has one, is of a class.
* `Scans`: the tokens of a piece, in front of any text that a class allows.
* `Scans.append`: pieces put together; `Scans.eq`: a piece that is the whole text.
* `Vocabulary`: words with spelling and token; `Vocabulary.spells`: the texts that words have, which
  differ in their blanks.
* `Vocabulary.scan_eq`: every text of words has their tokens.
-/

namespace Sift

universe u

variable {ε τ : Type u}

/-- What may follow a piece: nothing, or a text whose first character is of a class. -/
def Follows (p : Char → Bool) (rest : List Char) : Prop := ∀ c, rest.head? = some c → p c = true

/-- Any text may follow. -/
def anyChar : Char → Bool := fun _ => true

theorem follows_nil {p : Char → Bool} : Follows p [] := fun _ h => by cases h

/-- A text starts with a class if its first character is of it. -/
theorem follows_cons {p : Char → Bool} {c : Char} {rest : List Char} (h : p c = true) :
    Follows p (c :: rest) := fun _ hd => by
  cases hd
  exact h

theorem follows_any {rest : List Char} : Follows anyChar rest := fun _ _ => rfl

/-- What starts with a class starts with a wider one. -/
theorem Follows.mono {p q : Char → Bool} {rest : List Char} (h : Follows p rest)
    (le : ∀ c, p c = true → q c = true) : Follows q rest := fun c hc => le c (h c hc)

/-- A text in front decides what comes first, if there is one. -/
theorem follows_append {p : Char → Bool} {s rest : List Char} (h : ∀ c ∈ s, p c = true)
    (behind : s = [] → Follows p rest) : Follows p (s ++ rest) := by
  cases s with
  | nil => exact behind rfl
  | cons c s => exact follows_cons (h c List.mem_cons_self)

/-- A beginning of a text starts as the text does. -/
theorem Follows.of_prefix {p : Char → Bool} {s rest : List Char} (h : Follows p rest)
    (front : s <+: rest) : Follows p s := by
  obtain ⟨behind, rfl⟩ := front
  cases s with
  | nil => exact follows_nil
  | cons c s => exact follows_cons (h c rfl)

/-- What is left behind the longest run of a class starts with nothing of the class. -/
theorem follows_dropWhile (p : Char → Bool) (s : List Char) : Follows (!p ·) (s.dropWhile p) := by
  intro c first
  have stop := List.head?_dropWhile_not p s
  rw [first] at stop
  simp [show p c = false from stop]

/-- The longest run of a class is the same in front of what is not of the class. -/
theorem takeWhile_append_of_stop {p : Char → Bool} {rest : List Char} (h : Follows (!p ·) rest)
    (s : List Char) :
    (s ++ rest).takeWhile p = s.takeWhile p ∧ (s ++ rest).dropWhile p = s.dropWhile p ++ rest := by
  induction s with
  | nil =>
    cases rest with
    | nil => exact ⟨rfl, rfl⟩
    | cons c rest =>
      have stop : p c = false := by simpa using h c rfl
      simp [stop]
  | cons c s ih =>
    cases hc : p c
    · simp [hc]
    · simp [hc, ih]

/-- A run of a class ends in front of what is not of the class. -/
theorem takeWhile_append_of_follows {p q : Char → Bool} {s rest : List Char}
    (hs : ∀ c ∈ s, p c = true) (h : Follows q rest) (apart : ∀ c, q c = true → p c = false) :
    (s ++ rest).takeWhile p = s ∧ (s ++ rest).dropWhile p = rest := by
  have stop : Follows (!p ·) rest := h.mono fun c hc => by simp [apart c hc]
  obtain ⟨taken, left⟩ := takeWhile_append_of_stop stop s
  rw [taken, left, List.takeWhile_eq_self_iff.2 hs, List.dropWhile_eq_nil_iff.2 hs]
  exact ⟨rfl, rfl⟩

/-- The tokens of a piece of text, in front of anything that may follow it. -/
def Scans (scan : List Char → Except ε (List τ)) (p : Char → Bool) (s : List Char) (ts : List τ) :
    Prop :=
  ∀ rest, Follows p rest → scan (s ++ rest) = (ts ++ ·) <$> scan rest

namespace Scans

variable {scan : List Char → Except ε (List τ)} {p q : Char → Bool} {s t : List Char}
  {ts us : List τ}

/-- Tokens put in front twice are put in front together. -/
theorem map_append (x : Except ε (List τ)) :
    (ts ++ ·) <$> (us ++ ·) <$> x = (ts ++ us ++ ·) <$> x := by
  cases x with
  | error e => rfl
  | ok vs => exact congrArg Except.ok (List.append_assoc ts us vs).symm

/-- Nothing has no tokens. -/
theorem nil : Scans scan p [] [] := fun rest _ => by
  rw [List.nil_append]
  cases scan rest <;> rfl

/-- **Two pieces**, the second of which may follow the first. -/
theorem append (hs : Scans scan p s ts) (ht : Scans scan q t us)
    (h : ∀ rest, Follows q rest → Follows p (t ++ rest)) : Scans scan q (s ++ t) (ts ++ us) := by
  intro rest hrest
  rw [List.append_assoc, hs _ (h rest hrest), ht rest hrest, map_append]

/-- Two pieces, the second of which begins with a character that may follow the first. -/
theorem append_cons {c : Char} (hs : Scans scan p s ts) (ht : Scans scan q (c :: t) us)
    (hc : p c = true) : Scans scan q (s ++ c :: t) (ts ++ us) :=
  hs.append ht fun _ _ => follows_cons hc

/-- A piece in front of a class is one in front of a narrower class. -/
theorem mono (h : Scans scan p s ts) (le : ∀ c, q c = true → p c = true) : Scans scan q s ts :=
  fun rest hrest => h rest (hrest.mono le)

/-- **A piece alone**. -/
theorem eq (h : Scans scan p s ts) (nil : scan [] = .ok []) : scan s = .ok ts := by
  have whole := h [] follows_nil
  rw [List.append_nil, nil] at whole
  rw [whole]
  exact congrArg Except.ok (List.append_nil ts)

end Scans

/-! ### Texts of words -/

/-- Words and their tokens: how a word is spelled, and what may follow it directly. -/
structure Vocabulary (ω τ : Type u) where
  spelling : ω → List Char
  token : ω → τ
  ends : ω → Char → Bool

namespace Vocabulary

variable {ω : Type u} (v : Vocabulary ω τ)

/-- Whether a text spells words, one after another. There may be blanks around each word, and
there are some where the next one may not follow directly. -/
def spells : List ω → List Char → Bool
  | [], s => s.all (· == ' ')
  | w :: ws, s =>
    let here := s.dropWhile (· == ' ')
    let rest := here.drop (v.spelling w).length
    (v.spelling w).isPrefixOf here && rest.head?.all (v.ends w) && spells ws rest

variable {v} {scan : List Char → Except ε (List τ)}

/-- A scanner that passes over one blank passes over a run of them. -/
theorem scan_dropWhile (blank : ∀ s, scan (' ' :: s) = scan s) (s : List Char) :
    scan (s.dropWhile (· == ' ')) = scan s := by
  induction s with
  | nil => rfl
  | cons c s ih =>
    by_cases hc : c = ' '
    · subst hc
      rw [blank, ← ih]
      rfl
    · rw [List.dropWhile_cons_of_neg (by simpa using hc)]

/-- **A text of words** has their tokens, if each of them is scanned as its own. -/
theorem scan_eq (nil : scan [] = .ok []) (blank : ∀ s, scan (' ' :: s) = scan s) {ws : List ω}
    (each : ∀ w ∈ ws, Scans scan (v.ends w) (v.spelling w) [v.token w]) {s : List Char}
    (h : v.spells ws s = true) : scan s = .ok (ws.map v.token) := by
  induction ws generalizing s with
  | nil =>
    have only : s.dropWhile (· == ' ') = [] := List.dropWhile_eq_nil_iff.2 (List.all_eq_true.1 h)
    rw [← scan_dropWhile blank, only, nil]
    rfl
  | cons w ws ih =>
    rw [List.forall_mem_cons] at each
    obtain ⟨first, others⟩ := each
    unfold spells at h
    simp only [Bool.and_eq_true] at h
    obtain ⟨⟨front, ends⟩, rest⟩ := h
    -- from here on the text begins with the spelling of the first word
    rw [← scan_dropWhile blank]
    generalize s.dropWhile (· == ' ') = here at front ends rest ⊢
    obtain ⟨tail, rfl⟩ := List.isPrefixOf_iff_prefix.1 front
    rw [List.drop_left] at ends rest
    have follows : Follows (v.ends w) tail := by
      intro c hc
      rwa [hc] at ends
    rw [first tail follows, ih others rest]
    rfl

end Vocabulary

end Sift
