import Sift.Proofs.Sql.Renderers

/-!
# What calls are put together from

Every built-in function writes a call as a word with brackets behind it, and what stands in the
brackets is put together from the arguments and plain text. Each argument is there once: as its own
text, or, where it is a constant that the function looks into, as a pattern or a position made of
it.

* `Within`: one text somewhere in another.
* `Assembled`: a text put together from given ones.
* `Operand.Stands`: what can stand for an argument.
* `IsCall`: the form of a call; `FunctionTable.isCall_standard`: all built-in functions write it.
-/

namespace Sift.Sql

open Text Number

/-! ### Texts in texts -/

/-- A text somewhere in another. -/
def Within (s t : String) : Prop := s.toList <:+: t.toList

theorem Within.refl (s : String) : Within s s := List.infix_rfl

theorem Within.trans {s t u : String} (h : Within s t) (h' : Within t u) : Within s u :=
  List.IsInfix.trans h h'

theorem Within.append_right {s t : String} (h : Within s t) (u : String) : Within s (t ++ u) := by
  refine h.trans ?_
  rw [Within, String.toList_append]
  exact (List.prefix_append _ _).isInfix

theorem Within.append_left {s t : String} (h : Within s t) (u : String) : Within s (u ++ t) := by
  refine h.trans ?_
  rw [Within, String.toList_append]
  exact (List.suffix_append _ _).isInfix

theorem Within.append_append {s t : String} (h : Within s t) (u v : String) :
    Within s (u ++ t ++ v) := (h.append_left u).append_right v

/-- Each of several texts is somewhere in them joined. -/
theorem within_joinWith {s t : String} {ss : List String} (h : Within s t) (ht : t ∈ ss)
    (separator : String) : Within s (joinWith separator ss) := by
  induction ss with
  | nil => cases ht
  | cons first rest ih =>
    cases rest with
    | nil =>
      rw [List.mem_singleton] at ht
      exact ht ▸ h
    | cons second rest =>
      rw [joinWith_cons_cons]
      rcases List.mem_cons.1 ht with rfl | ht
      · exact (h.append_right _).append_right _
      · exact (ih ht).append_left _

/-! ### Texts put together -/

/-- A text put together from the given ones, each of them once and in this order, with flat
texts and literals in between, and brackets in pairs. -/
inductive Assembled : List String → String → Prop where
  | part (s : String) : Assembled [s] s
  | flat {s : String} (h : Flat s) : Assembled [] s
  | literal (s : String) : Assembled [] (quoteText s)
  | append {ss ts : List String} {s t : String} (h : Assembled ss s) (h' : Assembled ts t) :
      Assembled (ss ++ ts) (s ++ t)
  | brackets {ss : List String} {s : String} (h : Assembled ss s) : Assembled ss ("(" ++ s ++ ")")

namespace Assembled

variable {ss : List String} {s : String}

/-- What a text was put together from is somewhere in it. -/
theorem within (h : Assembled ss s) {t : String} (ht : t ∈ ss) : Within t s := by
  induction h with
  | part s => rw [List.mem_singleton.1 ht]; exact Within.refl s
  | flat => cases ht
  | literal => cases ht
  | append _ _ ih ih' =>
    rcases List.mem_append.1 ht with ht | ht
    · exact (ih ht).append_right _
    · exact (ih' ht).append_left _
  | brackets _ ih => exact (ih ht).append_append _ _

theorem before (h : Assembled ss s) {t : String} (ht : Flat t) : Assembled ss (t ++ s) :=
  .append (.flat ht) h

theorem after (h : Assembled ss s) {t : String} (ht : Flat t) : Assembled ss (s ++ t) := by
  have all := Assembled.append h (.flat ht)
  rwa [List.append_nil] at all

/-- A list with a plain separator is put together from its elements. -/
theorem joinWith {separator : String} (h : Flat separator) (ss : List String) :
    Assembled ss (joinWith separator ss) := by
  induction ss with
  | nil => exact .flat (s := "") (by decide)
  | cons first rest ih =>
    cases rest with
    | nil => exact .part first
    | cons second rest =>
      rw [joinWith_cons_cons]
      exact ((Assembled.part first).after h).append ih

end Assembled

/-! ### Calls -/

/-- What can stand for an argument: its own text, a pattern made of the text that it is, or the
position behind the integer that it is. -/
inductive Operand.Stands (a : Operand) : String → Prop where
  | text {s : String} (h : a.sql = .ok s) : a.Stands s
  | pattern {s : String} (h : a.string? = some s) (before after : List Char) :
      a.Stands (quoteText (String.ofList (before ++ escapePattern s.toList ++ after)))
  | position {n : Int} (h : a.signed? = some n) : a.Stands (intText (n + 1))

/-- A word with an opening bracket. -/
def Opening (s : String) : Prop := ∃ word, Atomic word ∧ s = word ++ "("

theorem opening_bracket : Opening "(" := ⟨"", by decide, by decide⟩

/-- A call: a word, and brackets around what is put together from the arguments, in some order.
-/
inductive IsCall (args : List Operand) : String → Prop where
  | intro {opening inner : String} {ss ts : List String} (word : Opening opening)
      (stands : List.Forall₂ Operand.Stands args ss) (order : ts.Perm ss)
      (assembled : Assembled ts inner) : IsCall args (opening ++ inner ++ ")")

/-- A call has its opening word at least. -/
theorem IsCall.ne_empty {args : List Operand} {s : String} (h : IsCall args s) : s ≠ "" := by
  cases h with
  | intro =>
    intro empty
    exact absurd (String.append_eq_empty_iff.1 empty).2 (by decide)

theorem exists_mem_of_forall₂ {α β : Type} {R : α → β → Prop} {as : List α} {bs : List β}
    (h : List.Forall₂ R as bs) {a : α} (ha : a ∈ as) : ∃ b ∈ bs, R a b := by
  induction h with
  | nil => cases ha
  | @cons _ b _ _ first _ ih =>
    rcases List.mem_cons.1 ha with rfl | ha
    · exact ⟨b, List.mem_cons_self, first⟩
    · obtain ⟨b, hb, related⟩ := ih ha
      exact ⟨b, List.mem_cons_of_mem _ hb, related⟩

theorem forall_mem_of_forall₂ {α β : Type} {R : α → β → Prop} {P : β → Prop} {as : List α}
    {bs : List β} (h : List.Forall₂ R as bs) (each : ∀ a ∈ as, ∀ b, R a b → P b) :
    ∀ b ∈ bs, P b := by
  induction h with
  | nil => exact List.forall_mem_nil _
  | cons first _ ih =>
    rw [List.forall_mem_cons] at each ⊢
    exact ⟨each.1 _ first, ih each.2⟩

/-- Each argument is within the call, in one of the forms that can stand for it. -/
theorem IsCall.exists_within {args : List Operand} {s : String} (h : IsCall args s) {a : Operand}
    (ha : a ∈ args) : ∃ t, a.Stands t ∧ Within t s := by
  cases h with
  | intro _ stands order assembled =>
    obtain ⟨t, ht, standing⟩ := exists_mem_of_forall₂ stands ha
    exact ⟨t, standing, (assembled.within (order.mem_iff.2 ht)).append_append _ _⟩

/-- A renderer that writes calls and nothing else. -/
def Renderer.Calls (r : Renderer) : Prop := ∀ args s, r args = .ok s → IsCall args s

namespace Renderer

/-- A function of one argument writes no other number of them. -/
theorem unary_eq_ok {name : String} {write : Operand → Except Error String} {args : List Operand}
    {s : String} (h : unary name write args = .ok s) : ∃ a, args = [a] ∧ write a = .ok s := by
  rcases args with - | ⟨a, - | ⟨b, args⟩⟩
  · cases h
  · exact ⟨a, rfl, h⟩
  · cases h

/-- A function of two writes no other number of them. -/
theorem binary_eq_ok {name : String} {write : Operand → Operand → Except Error String}
    {args : List Operand} {s : String} (h : binary name write args = .ok s) :
    ∃ a b, args = [a, b] ∧ write a b = .ok s := by
  rcases args with - | ⟨a, - | ⟨b, - | ⟨c, args⟩⟩⟩
  · cases h
  · cases h
  · exact ⟨a, b, rfl, h⟩
  · cases h

/-- Where several arguments are written, each is, in the same order. -/
theorem mapM_eq_ok {args : List Operand} {ts : List String} (h : args.mapM Operand.sql = .ok ts) :
    List.Forall₂ (fun a t => a.sql = .ok t) args ts := by
  induction args generalizing ts with
  | nil => cases h; exact .nil
  | cons a args ih =>
    rw [List.mapM_cons] at h
    obtain ⟨t, ht, h⟩ := bind_eq_ok.1 h
    obtain ⟨ts, hts, h⟩ := bind_eq_ok.1 h
    cases h
    exact .cons ht (ih hts)

/-! Calls of one argument and of two. -/

variable {a b : Operand} {s t opening inner : String}

/-- A word, and in brackets behind it what was made of the one argument. -/
theorem isCall_one (word : Opening opening) (ha : a.Stands s) (assembled : Assembled [s] inner) :
    IsCall [a] (opening ++ inner ++ ")") :=
  .intro word (.cons ha .nil) (.refl _) assembled

/-- The same with two. -/
theorem isCall_two (word : Opening opening) (ha : a.Stands s) (hb : b.Stands t)
    (assembled : Assembled [s, t] inner) : IsCall [a, b] (opening ++ inner ++ ")") :=
  .intro word (.cons ha (.cons hb .nil)) (.refl _) assembled

/-- Two texts with a comma between them. -/
theorem assembled_pair (s t : String) : Assembled [s, t] (s ++ ", " ++ t) :=
  ((Assembled.part s).after (by decide)).append (.part t)

variable (name : String)

theorem calls_apply {sql : String} (h : Atomic sql) : (apply name sql).Calls := by
  intro args s hs
  obtain ⟨a, rfl, hs⟩ := unary_eq_ok hs
  obtain ⟨t, ht, hs⟩ := bind_eq_ok.1 hs
  cases hs
  exact isCall_one ⟨sql, h, rfl⟩ (.text ht) (.part t)

/-- An operation is a call without a word: it has its brackets around both operands. -/
theorem calls_infixed {symbol : String} (h : Flat symbol) : (infixed name symbol).Calls := by
  intro args s hs
  obtain ⟨a, b, rfl, hs⟩ := binary_eq_ok hs
  obtain ⟨t, ht, hs⟩ := bind_eq_ok.1 hs
  obtain ⟨u, hu, hs⟩ := bind_eq_ok.1 hs
  cases hs
  have inner : Assembled [t, u] (t ++ (" " ++ symbol ++ " ") ++ u) := by
    refine ((Assembled.part t).after ?_).append (.part u)
    simp only [Flat, String.toList_append, List.any_append, Bool.or_eq_false_iff]
    exact ⟨⟨by decide, h⟩, by decide⟩
  have call := isCall_two opening_bracket (.text ht) (.text hu) inner
  simpa only [String.append_assoc] using call

theorem calls_concat : (concat name).Calls := by
  intro args s hs
  cases args with
  | nil => cases hs
  | cons a args =>
    obtain ⟨list, hl, hs⟩ := bind_eq_ok.1 hs
    obtain ⟨ts, hts, hl⟩ := bind_eq_ok.1 hl
    cases hl
    cases hs
    exact .intro ⟨"CONCAT", by decide, rfl⟩ ((mapM_eq_ok hts).imp fun _ _ h => .text h) (.refl _)
      (.joinWith (by decide) ts)

theorem calls_locate : (locate name).Calls := by
  intro args s hs
  obtain ⟨a, b, rfl, hs⟩ := binary_eq_ok hs
  obtain ⟨u, hu, hs⟩ := bind_eq_ok.1 hs
  obtain ⟨t, ht, hs⟩ := bind_eq_ok.1 hs
  cases hs
  -- what is looked for is the second argument, and stands first
  have call : IsCall [a, b] ("LOCATE(" ++ (u ++ ", " ++ t) ++ ")") :=
    .intro ⟨"LOCATE", by decide, by decide⟩ (.cons (.text ht) (.cons (.text hu) .nil))
      (.swap t u []) (assembled_pair u t)
  simpa only [String.append_assoc] using call

theorem calls_coalesce : (coalesce name).Calls := by
  intro args s hs
  obtain ⟨a, b, rfl, hs⟩ := binary_eq_ok hs
  obtain ⟨t, ht, hs⟩ := bind_eq_ok.1 hs
  obtain ⟨u, hu, hs⟩ := bind_eq_ok.1 hs
  cases hs
  have opening : Opening "COALESCE(" := ⟨"COALESCE", by decide, by decide⟩
  have call := isCall_two opening (.text ht) (.text hu) (assembled_pair t u)
  simpa only [String.append_assoc] using call

/-! ### Positions -/

/-- A position that counts from one holds the argument, or the constant that stands for it. -/
theorem fromOne_eq_ok {a : Operand} {p : String} (h : fromOne a = .ok p) :
    ∃ t, a.Stands t ∧ Assembled [t] p := by
  unfold fromOne at h
  dsimp only at h
  split at h
  · next n hn =>
    obtain ⟨start, hs, hn⟩ := Option.bind_eq_some_iff.1 hn
    split at hn
    · cases hn
      cases h
      exact ⟨_, .position hs, .part _⟩
    · cases hn
  · obtain ⟨t, ht, h⟩ := bind_eq_ok.1 h
    cases h
    exact ⟨t, .text ht, (Assembled.part t).after (by decide)⟩

/-- With two arguments or three, each is there once. -/
theorem calls_substring : (substring name).Calls := by
  intro args s hs
  have opening : Opening "SUBSTRING(" := ⟨"SUBSTRING", by decide, by decide⟩
  rcases args with - | ⟨a, - | ⟨start, - | ⟨length, - | ⟨b, args⟩⟩⟩⟩
  · cases hs
  · cases hs
  · obtain ⟨p, hp, hs⟩ := bind_eq_ok.1 hs
    obtain ⟨t, ht, hs⟩ := bind_eq_ok.1 hs
    cases hs
    obtain ⟨u, hu, position⟩ := fromOne_eq_ok hp
    -- the position may be put together itself, from the argument and the addition
    have inner : Assembled [t, u] (t ++ ", " ++ p) :=
      ((Assembled.part t).after (by decide)).append position
    simpa only [String.append_assoc] using isCall_two opening (.text ht) hu inner
  · obtain ⟨p, hp, hs⟩ := bind_eq_ok.1 hs
    obtain ⟨t, ht, hs⟩ := bind_eq_ok.1 hs
    obtain ⟨l, hl, hs⟩ := bind_eq_ok.1 hs
    cases hs
    obtain ⟨u, hu, position⟩ := fromOne_eq_ok hp
    have inner : Assembled [t, u, l] (t ++ ", " ++ p ++ ", " ++ l) :=
      ((((Assembled.part t).after (by decide)).append position).after (by decide)).append (.part l)
    have call := IsCall.intro opening (.cons (.text ht) (.cons hu (.cons (.text hl) .nil)))
      (.refl _) inner
    simpa only [String.append_assoc] using call
  · cases hs

/-! ### Patterns -/

/-- A match is written in brackets of its own, with the pattern as its second part. -/
theorem isCall_matching {text pattern : String} (ha : a.Stands text) (hb : b.Stands t)
    (assembled : Assembled [t] pattern) : IsCall [a, b] (matching text pattern) := by
  have inner : Assembled [text, t] (text ++ " REGEXP " ++ pattern) :=
    ((Assembled.part text).after (by decide)).append assembled
  have call := isCall_two opening_bracket ha hb inner
  simpa only [matching, String.append_assoc] using call

/-- A pattern is made of a constant here, with an anchor at one of its ends; of anything else the
database makes it, with the anchor as a literal. -/
theorem calls_anchored (pattern : String → String) {front back : String} (before after : List Char)
    (escaped : ∀ s, pattern s = String.ofList (before ++ escapePattern s.toList ++ after))
    (assembled : ∀ u, Assembled [u] (front ++ u ++ back)) :
    (anchored name pattern front back).Calls := by
  intro args s hs
  obtain ⟨a, b, rfl, h⟩ := binary_eq_ok hs
  dsimp only at h
  -- a constant text stands inside of the pattern, and any other argument beside the anchor
  split at h
  · next c hc =>
    obtain ⟨p, hp, h⟩ := bind_eq_ok.1 h
    obtain rfl := Except.ok.inj hp
    obtain ⟨t, ht, h⟩ := bind_eq_ok.1 h
    obtain rfl := Except.ok.inj h
    have stands := Operand.Stands.pattern hc before after
    rw [← escaped] at stands
    exact isCall_matching (.text ht) stands (.part _)
  · obtain ⟨u, hu, h⟩ := bind_eq_ok.1 h
    obtain ⟨p, hp, h⟩ := bind_eq_ok.1 h
    obtain rfl := Except.ok.inj hp
    obtain ⟨t, ht, h⟩ := bind_eq_ok.1 h
    obtain rfl := Except.ok.inj h
    exact isCall_matching (.text ht) (.text hu) (assembled u)

theorem calls_startsWith : (startsWith name).Calls := by
  rw [startsWith_eq_anchored]
  refine calls_anchored name _ ['^'] [] (fun s => ?_) fun u => ?_
  · rw [List.append_nil, List.singleton_append]
  · have front : "CONCAT('^', " = "CONCAT" ++ ("(" ++ (quoteText "^" ++ ", ")) := by decide
    have inner : Assembled [u] (quoteText "^" ++ ", " ++ u) :=
      ((Assembled.literal "^").after (by decide)).append (.part u)
    have call := inner.brackets.before (t := "CONCAT") (by decide)
    simpa only [front, String.append_assoc] using call

theorem calls_endsWith : (endsWith name).Calls := by
  rw [endsWith_eq_anchored]
  refine calls_anchored name _ [] ['$'] (fun s => ?_) fun u => ?_
  · rw [List.nil_append]
  · have front : "CONCAT(" = "CONCAT" ++ "(" := by decide
    have back : ", '$')" = ", " ++ (quoteText "$" ++ ")") := by decide
    have inner : Assembled [u] (u ++ ", " ++ quoteText "$") :=
      ((Assembled.part u).after (by decide)).append (.literal "$")
    have call := inner.brackets.before (t := "CONCAT") (by decide)
    simpa only [front, back, String.append_assoc] using call

/-- A pattern made of a constant stands for that constant. -/
theorem literalPattern_eq_ok {a : Operand} {p : String} (h : literalPattern a = .ok p) :
    a.Stands p := by
  unfold literalPattern at h
  split at h
  · next c hc =>
    obtain rfl := Except.ok.inj h
    have stands := Operand.Stands.pattern hc [] []
    rwa [List.nil_append, List.append_nil] at stands
  · exact .text h

theorem calls_contains : (contains name).Calls := by
  intro args s hs
  obtain ⟨a, b, rfl, hs⟩ := binary_eq_ok hs
  obtain ⟨t, ht, hs⟩ := bind_eq_ok.1 hs
  obtain ⟨p, hp, hs⟩ := bind_eq_ok.1 hs
  obtain rfl := Except.ok.inj hs
  exact isCall_matching (.text ht) (literalPattern_eq_ok hp) (.part p)

/-- The text searched for stands in front here, so the arguments change places. -/
theorem calls_substringOf : (substringOf name).Calls := by
  intro args s hs
  obtain ⟨a, b, rfl, hs⟩ := binary_eq_ok hs
  obtain ⟨t, ht, hs⟩ := bind_eq_ok.1 hs
  obtain ⟨p, hp, hs⟩ := bind_eq_ok.1 hs
  cases hs
  -- here the first argument is the pattern
  have call : IsCall [a, b] ("(" ++ (t ++ " REGEXP " ++ p) ++ ")") :=
    .intro opening_bracket (.cons (literalPattern_eq_ok hp) (.cons (.text ht) .nil)) (.swap p t [])
      (((Assembled.part t).after (by decide)).append (.part p))
  simpa only [matching, String.append_assoc] using call

theorem calls_rawPattern : (rawPattern name).Calls := by
  intro args s hs
  obtain ⟨a, b, rfl, hs⟩ := binary_eq_ok hs
  obtain ⟨t, ht, hs⟩ := bind_eq_ok.1 hs
  obtain ⟨p, hp, hs⟩ := bind_eq_ok.1 hs
  obtain rfl := Except.ok.inj hs
  exact isCall_matching (.text ht) (.text hp) (.part p)

/-! ### Arguments that may be missing -/

/-- Without a number of places there is one argument only. -/
theorem calls_round : (round name).Calls := by
  intro args s hs
  have opening : Opening "ROUND(" := ⟨"ROUND", by decide, by decide⟩
  rcases args with - | ⟨a, - | ⟨digits, - | ⟨b, args⟩⟩⟩
  · cases hs
  · obtain ⟨t, ht, hs⟩ := bind_eq_ok.1 hs
    cases hs
    have closing : ", 0)" = ", 0" ++ ")" := by decide
    have call := isCall_one opening (.text ht) ((Assembled.part t).after (t := ", 0") (by decide))
    simpa only [closing, String.append_assoc] using call
  · obtain ⟨d, hd, hs⟩ := bind_eq_ok.1 hs
    obtain ⟨t, ht, hs⟩ := bind_eq_ok.1 hs
    cases hs
    simpa only [String.append_assoc] using
      isCall_two opening (.text ht) (.text hd) (assembled_pair t d)
  · cases hs

/-- A count of all rows has no argument, and a star in its place. -/
theorem calls_count : (count name).Calls := by
  intro args s hs
  have opening : Opening "COUNT(" := ⟨"COUNT", by decide, by decide⟩
  rcases args with - | ⟨a, - | ⟨b, args⟩⟩
  · cases hs
    have rows : "COUNT(*)" = "COUNT(" ++ "*" ++ ")" := by decide
    rw [rows]
    exact .intro opening .nil (.refl _) (.flat (by decide))
  · obtain ⟨t, ht, hs⟩ := bind_eq_ok.1 hs
    cases hs
    exact isCall_one opening (.text ht) (.part t)
  · cases hs

end Renderer

namespace FunctionTable

open Renderer

/-- Each built-in function writes calls. -/
theorem calls_standard : ∀ entry ∈ standard, entry.2.Calls := by
  unfold standard
  simp (disch := decide) only [List.forall_mem_cons, calls_apply, calls_infixed, calls_concat,
    calls_locate, calls_substring, calls_startsWith, calls_endsWith, calls_contains,
    calls_substringOf, calls_rawPattern, calls_round, calls_coalesce, calls_count, true_and]
  exact fun entry h => absurd h List.not_mem_nil

/-- **What the built-in functions write** is a call of the arguments. -/
theorem isCall_standard {name : String} {args : List Operand} {s : String}
    (h : standard.render name args = .ok s) : IsCall args s := by
  unfold render find? at h
  split at h
  · next r hr =>
    obtain ⟨l₁, l₂, hl, -⟩ := List.lookup_eq_some_iff.1 hr
    exact calls_standard _ (hl ▸ List.mem_append_right l₁ List.mem_cons_self) args s h
  · cases h

end FunctionTable

end Sift.Sql
