import Sift.Proofs.Sql.Assembly

/-!
# Items between commas

A list in a statement is read by its commas: those in literals and in brackets belong to an item.
Texts whose literals and brackets close are read over as a whole, and so are calls of such texts;
joined by commas, they are the items again.

* `items`: the items of a list.
* `Firm`, `Balanced`: texts that are read over at any depth, and inside of brackets.
* `items_joinWith`: the items of firm texts with commas between them.
* `Parted`: a text made of firm items; `items_joinWith_eq_iff`: when each of several is one item.
-/

namespace Sift.Sql

open Text Number

/-! ### Reading -/

/-- Where a reader stands: outside of literals, in one, or behind a backslash in one, and inside
of so many brackets. -/
inductive Place where
  | outside (depth : Nat)
  | literal (depth : Nat)
  | escaped (depth : Nat)
  deriving DecidableEq, Repr

/-- The place behind a character. A quote that is written twice closes a literal and opens it
again. -/
def Place.after : Place → Char → Place
  | .outside depth, c =>
    if c = '\'' then .literal depth
    else if c = '(' then .outside (depth + 1)
    else if c = ')' then .outside (depth - 1)
    else .outside depth
  | .literal depth, c =>
    if c = '\'' then .outside depth
    else if c = '\\' then .escaped depth
    else .literal depth
  | .escaped depth, _ => .literal depth

/-- Whether an item ends with a character: a comma outside of literals and brackets. -/
def Place.cuts (p : Place) (c : Char) : Bool := p = .outside 0 && c = ','

/-- The items from a place on; the first one is what is left of the item at the place. -/
def itemsFrom : Place → List Char → List (List Char)
  | _, [] => [[]]
  | p, c :: cs =>
    if p.cuts c then [] :: itemsFrom p cs else (itemsFrom (p.after c) cs).modifyHead (c :: ·)

/-- Without the blank behind a comma. -/
def dropBlank : List Char → List Char
  | ' ' :: cs => cs
  | cs => cs

/-- The items of a list that is separated by commas. -/
def items (s : String) : List String :=
  match itemsFrom (.outside 0) s.toList with
  | [] => []
  | first :: rest => String.ofList first :: rest.map fun item => String.ofList (dropBlank item)

/-! ### Passing over texts -/

/-- A text that is read over from one place to another without an end of an item in it. -/
def Passes (p : Place) (cs : List Char) (q : Place) : Prop :=
  ∀ rest, itemsFrom p (cs ++ rest) = (itemsFrom q rest).modifyHead (cs ++ ·)

namespace Passes

variable {p q r : Place} {c : Char} {cs ds : List Char} {depth : Nat}

theorem nil (p : Place) : Passes p [] p := by
  intro rest
  rw [List.nil_append]
  cases itemsFrom p rest <;> rfl

theorem cons (h : p.cuts c = false) (h' : Passes (p.after c) cs q) : Passes p (c :: cs) q := by
  intro rest
  rw [List.cons_append, itemsFrom, h, h' rest]
  cases itemsFrom q rest <;> rfl

theorem append (h : Passes p cs q) (h' : Passes q ds r) : Passes p (cs ++ ds) r := by
  intro rest
  rw [List.append_assoc, h, h' rest]
  cases itemsFrom r rest with
  | nil => rfl
  | cons => simp

/-- Where no quote, bracket or backslash stands, a comma cuts outside of brackets only. -/
theorem flat (h : cs.any isNesting = false) (comma : depth = 0 → ',' ∉ cs) :
    Passes (.outside depth) cs (.outside depth) := by
  induction cs with
  | nil => exact .nil _
  | cons c cs ih =>
    rw [List.any_cons, Bool.or_eq_false_iff] at h
    have plain : c ≠ '\'' ∧ c ≠ '(' ∧ c ≠ ')' := by simpa [isNesting] using h.1
    have after : Place.after (.outside depth) c = .outside depth := by
      simp [Place.after, plain]
    refine .cons ?_ ?_
    · have other : depth = 0 → c ≠ ',' := fun zero e => comma zero (e ▸ List.mem_cons_self)
      simpa [Place.cuts] using other
    · rw [after]
      exact ih h.2 fun zero mem => comma zero (List.mem_cons_of_mem c mem)

/-! A literal is read over from its opening quote to its closing one. -/

theorem inLiteral (h : c ≠ '\'') (h' : c ≠ '\\') :
    Passes (.literal depth) [c] (.literal depth) := by
  refine .cons (by simp [Place.cuts]) ?_
  rw [Place.after, if_neg h, if_neg h']
  exact .nil _

theorem escape (c : Char) : Passes (.literal depth) ['\\', c] (.literal depth) :=
  .cons (by simp [Place.cuts]) (.cons (by simp [Place.cuts, Place.after]) (.nil _))

theorem quotes : Passes (.literal depth) ['\'', '\''] (.literal depth) :=
  .cons (by simp [Place.cuts]) (.cons (by simp [Place.cuts, Place.after]) (.nil _))

/-- Every character of an escaped text stays inside of the literal: none of them closes it. -/
theorem escapeChar (c : Char) : Passes (.literal depth) (escapeChar c) (.literal depth) := by
  unfold Sql.escapeChar
  split
  case h_7 => exact quotes
  case h_10 c _ _ _ _ _ quote _ backslash => exact inLiteral quote backslash
  all_goals exact escape _

/-- A literal is left again by the quote that closes it. -/
theorem quoteChars (cs : List Char) :
    Passes (.outside depth) (quoteChars cs) (.outside depth) := by
  have opening : Passes (.outside depth) ['\''] (.literal depth) :=
    .cons (by simp [Place.cuts]) (.nil _)
  have closing : Passes (.literal depth) ['\''] (.outside depth) :=
    .cons (by simp [Place.cuts]) (.nil _)
  have inside : Passes (.literal depth) (cs.flatMap Sql.escapeChar) (.literal depth) := by
    induction cs with
    | nil => exact .nil _
    | cons c cs ih =>
      rw [List.flatMap_cons]
      exact (escapeChar c).append ih
  exact (opening.append inside).append closing

end Passes

/-- A text that closes what it opens, inside of so many brackets. -/
def Closed (depth : Nat) (s : String) : Prop := Passes (.outside depth) s.toList (.outside depth)

/-- A text that is read over at any depth, as a part of one item. -/
def Firm (s : String) : Prop := ∀ depth, Closed depth s

/-- A text that is read over in brackets. -/
def Balanced (s : String) : Prop := ∀ depth, Closed (depth + 1) s

section

variable {s t : String} {depth : Nat}

theorem Closed.append (h : Closed depth s) (h' : Closed depth t) : Closed depth (s ++ t) := by
  rw [Closed, String.toList_append]
  exact Passes.append h h'

/-- Brackets around a text put it one level deeper and lead out again. -/
theorem Closed.brackets (h : Closed (depth + 1) s) : Closed depth ("(" ++ s ++ ")") := by
  rw [Closed, String.toList_append, String.toList_append]
  have opening : Passes (.outside depth) ['('] (.outside (depth + 1)) :=
    .cons (by simp [Place.cuts]) (.nil _)
  have closing : Passes (.outside (depth + 1)) [')'] (.outside depth) :=
    .cons (by simp [Place.cuts]) (.nil _)
  exact (opening.append h).append closing

theorem Firm.append (h : Firm s) (h' : Firm t) : Firm (s ++ t) := fun depth =>
  (h depth).append (h' depth)

theorem Balanced.append (h : Balanced s) (h' : Balanced t) : Balanced (s ++ t) := fun depth =>
  (h depth).append (h' depth)

theorem Firm.balanced (h : Firm s) : Balanced s := fun depth => h (depth + 1)

/-- In brackets, a text may have commas: they are not seen from outside. -/
theorem Balanced.brackets (h : Balanced s) : Firm ("(" ++ s ++ ")") := fun depth =>
  (h depth).brackets

theorem Flat.balanced (h : Flat s) : Balanced s := fun _ =>
  Passes.flat h fun zero => absurd zero (Nat.succ_ne_zero _)

theorem Atomic.firm (h : Atomic s) : Firm s := fun _ => Passes.flat h.1 fun _ => h.2

theorem firm_quoteText (s : String) : Firm (quoteText s) := by
  intro depth
  rw [Closed, quoteText, String.toList_ofList]
  exact Passes.quoteChars _

/-- Balanced texts are balanced with any such separator between them. -/
theorem Balanced.joinWith {separator : String} (h : Balanced separator) {ss : List String}
    (hs : ∀ t ∈ ss, Balanced t) : Balanced (joinWith separator ss) := by
  induction ss with
  | nil => exact Flat.balanced (s := "") (by decide)
  | cons first rest ih =>
    rw [List.forall_mem_cons] at hs
    cases rest with
    | nil => exact hs.1
    | cons second rest =>
      rw [joinWith_cons_cons]
      exact (hs.1.append h).append (ih hs.2)

/-- What is put together from balanced texts is balanced. -/
theorem Assembled.balanced {ss : List String} (h : Assembled ss s)
    (parts : ∀ t ∈ ss, Balanced t) : Balanced s := by
  induction h with
  | part s => exact parts s (List.mem_singleton_self s)
  | flat h => exact h.balanced
  | literal s => exact (firm_quoteText s).balanced
  | append _ _ ih ih' =>
    rw [List.forall_mem_append] at parts
    exact (ih parts.1).append (ih' parts.2)
  | brackets _ ih => exact (ih parts).brackets.balanced

/-- A word and brackets around a balanced text. -/
theorem Opening.firm_enclosed {opening : String} (h : Opening opening) (hs : Balanced s) :
    Firm (opening ++ s ++ ")") := by
  obtain ⟨word, hw, rfl⟩ := h
  have inBrackets : word ++ "(" ++ s ++ ")" = word ++ ("(" ++ s ++ ")") := by
    simp only [String.append_assoc]
  rw [inBrackets]
  exact hw.firm.append hs.brackets

/-- A call of balanced texts is firm. -/
theorem IsCall.firm {args : List Operand} (h : IsCall args s)
    (stands : ∀ a ∈ args, ∀ t, a.Stands t → Balanced t) : Firm s := by
  cases h with
  | @intro opening inner ss ts word all order assembled =>
    have parts := forall_mem_of_forall₂ all stands
    exact word.firm_enclosed (assembled.balanced fun t ht => parts t (order.mem_iff.1 ht))

/-! ### Items that were joined -/

/-- An item that is closed ends at the comma behind it. -/
theorem itemsFrom_append (h : Closed 0 s) (rest : List Char) :
    itemsFrom (.outside 0) (s.toList ++ ',' :: rest) = s.toList :: itemsFrom (.outside 0) rest := by
  have cut : Place.cuts (.outside 0) ',' = true := rfl
  rw [h, itemsFrom, if_pos cut]
  simp

/-- Closed texts with commas between them are their own items, up to the blank behind each comma. -/
theorem itemsFrom_joinWith {ss : List String} (hs : ∀ t ∈ s :: ss, Closed 0 t) :
    itemsFrom (.outside 0) (joinWith ", " (s :: ss)).toList =
      s.toList :: ss.map fun t => ' ' :: t.toList := by
  induction ss generalizing s with
  | nil =>
    have alone := hs s (List.mem_singleton_self s) []
    rw [List.append_nil] at alone
    rw [joinWith, alone, itemsFrom]
    simp
  | cons t ss ih =>
    rw [List.forall_mem_cons] at hs
    -- the blank of a separator is the first character of the item behind it
    have blank : Passes (.outside 0) [' '] (.outside 0) :=
      Passes.flat (by decide) fun _ => by decide
    have comma : ", ".toList = [',', ' '] := by decide
    rw [joinWith_cons_cons, String.toList_append, String.toList_append, comma, List.append_assoc,
      List.cons_append, itemsFrom_append hs.1, blank, ih hs.2]
    rfl

/-- **The items of joined texts** are the texts, if these are read over. -/
theorem items_joinWith {ss : List String} (any : ss ≠ []) (hs : ∀ t ∈ ss, Closed 0 t) :
    items (joinWith ", " ss) = ss := by
  cases ss with
  | nil => exact absurd rfl any
  | cons s ss =>
    rw [items, itemsFrom_joinWith hs]
    simp [dropBlank, Function.comp_def]

end

/-! ### Texts of several items -/

/-- A text made of firm items. -/
def Parted (s : String) : Prop := ∃ ps, ps ≠ [] ∧ (∀ p ∈ ps, Firm p) ∧ s = joinWith ", " ps

/-- A text that is one item, and not empty. -/
def Sole (s : String) : Prop := items s = [s] ∧ s ≠ ""

theorem Firm.parted {s : String} (h : Firm s) : Parted s :=
  ⟨[s], List.cons_ne_nil _ _, List.forall_mem_singleton.2 h, rfl⟩

theorem Firm.items_eq {s : String} (h : Firm s) : items s = [s] :=
  items_joinWith (List.cons_ne_nil s []) (List.forall_mem_singleton.2 (h 0))

theorem Firm.sole_iff {s : String} (h : Firm s) : Sole s ↔ s ≠ "" := and_iff_right h.items_eq

namespace Parted

variable {s : String}

theorem items_ne_nil (h : Parted s) : items s ≠ [] := by
  obtain ⟨ps, any, firm, rfl⟩ := h
  rwa [items_joinWith any fun p hp => firm p hp 0]

theorem firm_of_mem_items (h : Parted s) {p : String} (hp : p ∈ items s) : Firm p := by
  obtain ⟨ps, any, firm, rfl⟩ := h
  rw [items_joinWith any fun p hp => firm p hp 0] at hp
  exact firm p hp

theorem joinWith_items (h : Parted s) : joinWith ", " (items s) = s := by
  obtain ⟨ps, any, firm, rfl⟩ := h
  rw [items_joinWith any fun p hp => firm p hp 0]

theorem balanced (h : Parted s) : Balanced s := by
  obtain ⟨ps, -, firm, rfl⟩ := h
  exact Balanced.joinWith (Flat.balanced (by decide)) fun p hp => (firm p hp).balanced

/-- A parted text is its only item where there is just one. -/
theorem items_eq_singleton_iff (h : Parted s) : items s = [s] ↔ (items s).length = 1 := by
  refine ⟨fun one => by rw [one]; rfl, fun one => ?_⟩
  obtain ⟨p, hp⟩ := List.length_eq_one_iff.1 one
  have same := h.joinWith_items
  rw [hp] at same ⊢
  exact congrArg (fun t => [t]) same

end Parted

/-- Two lists joined are their parts joined, with the separator where they meet. -/
theorem joinWith_append {separator : String} {as bs : List String} (ha : as ≠ []) (hb : bs ≠ []) :
    joinWith separator (as ++ bs) =
      joinWith separator as ++ separator ++ joinWith separator bs := by
  induction as with
  | nil => exact absurd rfl ha
  | cons a as ih =>
    cases as with
    | nil =>
      obtain ⟨b, bs, rfl⟩ := List.exists_cons_of_ne_nil hb
      exact joinWith_cons_cons separator a b bs
    | cons c as =>
      have rest := ih (List.cons_ne_nil _ _)
      rw [List.cons_append, List.cons_append, joinWith_cons_cons, joinWith_cons_cons,
        ← List.cons_append, rest]
      simp only [String.append_assoc]

theorem flatMap_items_ne_nil {ts : List String} (any : ts ≠ []) (hs : ∀ t ∈ ts, Parted t) :
    ts.flatMap items ≠ [] := by
  obtain ⟨t, ts, rfl⟩ := List.exists_cons_of_ne_nil any
  rw [List.flatMap_cons]
  exact List.append_ne_nil_of_left_ne_nil (hs t List.mem_cons_self).items_ne_nil _

/-- Joining the items of several texts joins the texts. -/
theorem joinWith_flatMap_items {ts : List String} (hs : ∀ t ∈ ts, Parted t) :
    joinWith ", " (ts.flatMap items) = joinWith ", " ts := by
  induction ts with
  | nil => rfl
  | cons t ts ih =>
    rw [List.forall_mem_cons] at hs
    cases ts with
    | nil => rw [List.flatMap_cons, List.flatMap_nil, List.append_nil, hs.1.joinWith_items]; rfl
    | cons u ts =>
      have rest := flatMap_items_ne_nil (List.cons_ne_nil u ts) hs.2
      rw [List.flatMap_cons, joinWith_append hs.1.items_ne_nil rest, ih hs.2, hs.1.joinWith_items,
        joinWith_cons_cons]

/-- Several texts with commas between them have the items of all. -/
theorem items_joinWith_parted {ts : List String} (any : ts ≠ []) (hs : ∀ t ∈ ts, Parted t) :
    items (joinWith ", " ts) = ts.flatMap items := by
  rw [← joinWith_flatMap_items hs]
  refine items_joinWith (flatMap_items_ne_nil any hs) fun p hp => ?_
  obtain ⟨t, ht, hp⟩ := List.mem_flatMap.1 hp
  exact (hs t ht).firm_of_mem_items hp 0

/-- Parted texts joined by commas are parted. -/
theorem Parted.joinWith {ts : List String} (any : ts ≠ []) (hs : ∀ t ∈ ts, Parted t) :
    Parted (joinWith ", " ts) := by
  refine ⟨ts.flatMap items, flatMap_items_ne_nil any hs, fun p hp => ?_,
    (joinWith_flatMap_items hs).symm⟩
  obtain ⟨t, ht, hp⟩ := List.mem_flatMap.1 hp
  exact (hs t ht).firm_of_mem_items hp

/-- Every text has an item, so there are no fewer of these. -/
theorem length_le_length_flatMap_items {ts : List String} (hs : ∀ t ∈ ts, Parted t) :
    ts.length ≤ (ts.flatMap items).length := by
  induction ts with
  | nil => exact Nat.le_refl 0
  | cons t ts ih =>
    rw [List.forall_mem_cons] at hs
    have first := List.length_pos_iff.2 hs.1.items_ne_nil
    have rest := ih hs.2
    rw [List.flatMap_cons, List.length_append, List.length_cons]
    omega

/-- **A list keeps its places** exactly if each of the texts in it is one item. -/
theorem items_joinWith_eq_iff {ts : List String} (any : ts ≠ []) (hs : ∀ t ∈ ts, Parted t) :
    items (joinWith ", " ts) = ts ↔ ∀ t ∈ ts, items t = [t] := by
  rw [items_joinWith_parted any hs]
  constructor
  · intro same
    -- counting the items is enough: each text has one at least, so none may have two
    have lengths := congrArg List.length same
    clear any same
    induction ts with
    | nil => exact List.forall_mem_nil _
    | cons t ts ih =>
      rw [List.forall_mem_cons] at hs ⊢
      have first := List.length_pos_iff.2 hs.1.items_ne_nil
      have rest := length_le_length_flatMap_items hs.2
      rw [List.flatMap_cons, List.length_append, List.length_cons] at lengths
      exact ⟨hs.1.items_eq_singleton_iff.2 (by omega), ih hs.2 (by omega)⟩
  · intro each
    clear any hs
    induction ts with
    | nil => rfl
    | cons t ts ih =>
      rw [List.forall_mem_cons] at each
      rw [List.flatMap_cons, each.1, ih each.2]
      rfl

end Sift.Sql
