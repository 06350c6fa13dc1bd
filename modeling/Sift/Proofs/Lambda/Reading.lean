import Sift.Proofs.Lambda.Grammar

/-!
# Every term is read

A phrase in front of anything that does not go on with it is read as itself, with its term.

* `readChain_step` and its kin: what each reader does next, by what stands in front of it.
* `Gives`, `Taken`: a reader that gives a term, and a phrase that is read as itself.
* `Completes`: what reading a phrase of a rank does, whatever follows.
* `Derives.completes`: every phrase is read; `Derives.readTerm`: so is every whole term.
-/

namespace Sift.Lambda

open Number

variable {ts us rest : List Token} {t : Token} {x y : Term} {rank level : Nat}

/-! ### What each reader does next -/

theorem readBinary_operand (h : level < Operator.levels) :
    readBinary level ts = readBinary (level + 1) ts >>= readChain level := by
  rw [readBinary, dif_pos h]

theorem readBinary_unary (h : Operator.levels ≤ level) : readBinary level ts = readUnary ts := by
  rw [readBinary, dif_neg (Nat.not_lt.2 h)]

/-- A chain stops in front of what cannot go on with it. -/
theorem readChain_stop {h : rest.length < ts.length} (hrest : Ends level rest) :
    readChain level (⟨x, rest, h⟩ : Read Term ts) = .ok ⟨x, rest, h⟩ := by
  cases rest with
  | nil => rw [readChain]
  | cons t rest =>
    rw [readChain]
    dsimp only
    rw [hrest.operator?_eq_none]

/-- Behind an operator of the level, the chain reads an operand of the next level and goes on with
both joined, so that operators of one level group to the left. -/
theorem readChain_step {h : (t :: rest).length < ts.length} {op : Operator}
    (ht : t.operator? level = some op) :
    readChain level (⟨x, t :: rest, h⟩ : Read Term ts) =
      readBinary (level + 1) rest >>= fun right =>
        readChain level (⟨.binary op x right.value, right.rest,
          length_lt_of_cons_lt h right.shorter⟩ : Read Term ts) := by
  rw [readChain]
  dsimp only
  rw [ht]
  rfl

theorem readUnary_step {op : Unary} (ht : t.unary? = some op) :
    readUnary (t :: rest) = readUnary rest >>= fun r => .ok ((r.map (.unary op)).past t) := by
  rw [readUnary, ht]
  rfl

theorem readUnary_primary (ht : t.unary? = none) :
    readUnary (t :: rest) = readPrimary (t :: rest) >>= readSuffixes := by
  rw [readUnary, ht]

/-- Without a dot, a bracket or a parenthesis there is no further suffix. -/
theorem readSuffixes_stop {h : rest.length < ts.length} (hrest : Ends 10 rest) :
    readSuffixes (⟨x, rest, h⟩ : Read Term ts) = .ok ⟨x, rest, h⟩ := by
  have other {s : String} (hs : 10 < (Token.punct s).binding) (us : List Token) :
      rest ≠ .punct s :: us := by
    rintro rfl
    exact hrest.head?_ne hs rfl
  rw [readSuffixes]
  split
  · exact absurd ‹_› (other (by decide) _)
  · exact absurd ‹_› (other (by decide) _)
  · exact absurd ‹_› (other (by decide) _)
  · rfl

theorem readSuffixes_property {s : String}
    {h : (Token.punct "." :: .name s :: rest).length < ts.length} :
    readSuffixes (⟨x, .punct "." :: .name s :: rest, h⟩ : Read Term ts) =
      readSuffixes (⟨.member x s, rest, length_lt_of_cons_lt h (Nat.lt_succ_self _)⟩ :
        Read Term ts) := by
  rw [readSuffixes]
  rfl

/-- A text in square brackets is a member as if behind a dot. -/
theorem readSuffixes_key {s : String}
    {h : (Token.punct "[" :: .text s :: .punct "]" :: rest).length < ts.length} :
    readSuffixes (⟨x, .punct "[" :: .text s :: .punct "]" :: rest, h⟩ : Read Term ts) =
      readSuffixes (⟨.member x s, rest,
        length_lt_of_cons_lt h (Nat.lt_succ_of_lt (Nat.lt_succ_self _))⟩ : Read Term ts) := by
  rw [readSuffixes]
  rfl

/-- The arguments in parentheses make a call of all that stands in front of them. -/
theorem readSuffixes_call {h : (Token.punct "(" :: rest).length < ts.length} :
    readSuffixes (⟨x, .punct "(" :: rest, h⟩ : Read Term ts) =
      readList ")" rest >>= fun args =>
        readSuffixes (⟨.call x args.value, args.rest, length_lt_of_cons_lt h args.shorter⟩ :
          Read Term ts) := by
  rw [readSuffixes]
  rfl

theorem readPrimary_parentheses : readPrimary (.punct "(" :: rest) =
    readTerm rest >>= fun inner => expect ")" inner.rest >>= fun close =>
      .ok ((inner.thenRead close inner.value).past (.punct "(")) := by
  rw [readPrimary]
  rfl

theorem readPrimary_array : readPrimary (.punct "[" :: rest) =
    readList "]" rest >>= fun items => .ok ((items.map .array).past (.punct "[")) := by
  rw [readPrimary]
  rfl

/-- A whole term is read where nothing behind it belongs to a conditional or another statement. -/
theorem readTerm_stop {h : rest.length < ts.length} (hrest : Ends 0 rest)
    (whole : readBinary 0 ts = .ok ⟨x, rest, h⟩) : readTerm ts = .ok ⟨x, rest, h⟩ := by
  have other {s : String} (hs : 0 < (Token.punct s).binding) (us : List Token) :
      rest ≠ .punct s :: us := by
    rintro rfl
    exact hrest.head?_ne hs rfl
  rw [readTerm, whole, ok_bind]
  dsimp only
  split
  · exact absurd rfl (other (by decide) _)
  · exact absurd rfl (other (by decide) _)
  · rfl

theorem expect_same (symbol : String) :
    expect symbol (.punct symbol :: rest) = .ok (.one () (.punct symbol) rest) := by
  rw [expect, if_pos rfl]

/-- Anything but the symbol expected is a fault. -/
theorem expect_other {symbol : String} (h : ts.head? ≠ some (.punct symbol)) :
    ∃ e, expect symbol ts = .error e := by
  unfold expect
  split
  · next s rest =>
    have differ : s ≠ symbol := by
      rintro rfl
      exact h rfl
    exact ⟨_, if_neg differ⟩
  · exact ⟨_, rfl⟩

theorem readList_close {close : String} :
    readList close (.punct close :: rest) = .ok ⟨[], rest, Nat.lt_succ_self _⟩ := by
  rw [readList, expect_same]
  rfl

section

variable {close : String} (hts : ts.head? ≠ some (.punct close))

include hts

/-- A comma behind an item is followed by more items, or by the end of the list. -/
theorem readList_more {h : (Token.punct "," :: rest).length < ts.length}
    (item : readTerm ts = .ok ⟨x, .punct "," :: rest, h⟩) :
    readList close ts = readList close rest >>= fun items =>
      .ok ⟨x :: items.value, items.rest, length_lt_of_cons_lt h items.shorter⟩ := by
  obtain ⟨e, he⟩ := expect_other hts
  rw [readList, he]
  dsimp only
  rw [if_neg (not_isEmpty h), item]
  rfl

/-- Behind the last item stands the end of the list, which is not the comma itself. -/
theorem readList_last {h : (Token.punct close :: rest).length < ts.length} (hc : close ≠ ",")
    (item : readTerm ts = .ok ⟨x, .punct close :: rest, h⟩) :
    readList close ts = .ok ⟨[x], rest, Nat.lt_of_succ_lt h⟩ := by
  obtain ⟨e, he⟩ := expect_other hts
  rw [readList, he]
  dsimp only
  rw [if_neg (not_isEmpty h), item, ok_bind]
  dsimp only
  split
  · next us hus =>
    rw [List.cons.injEq, Token.punct.injEq] at hus
    exact absurd hus.1 hc
  · rw [expect_same]
    rfl

end

/-! ### One construct at a time -/

/-- A reader that gives a value, and what it leaves. -/
def Gives {β : Type} (result : Except Error (Read β ts)) (y : β) (rest : List Token) : Prop :=
  ∃ h, result = .ok ⟨y, rest, h⟩

/-- A phrase that is read as itself, in front of anything that it ends at. -/
def Taken (rank : Nat) (ts : List Token) (x : Term) : Prop :=
  ∀ rest, Ends rank rest → Gives (readBinary rank (ts ++ rest)) x rest

/-- A run of operands that is read as a left side, in front of anything that its last operand
ends at. -/
def Led (level : Nat) (ts : List Token) (x : Term) : Prop :=
  ∀ rest, Ends (level + 1) rest →
    ∃ h, readBinary level (ts ++ rest) = readChain level ⟨x, rest, h⟩

/-- A term that accesses and calls may follow, whatever it stands in front of. -/
def Accessed (ts : List Token) (x : Term) : Prop :=
  ∀ rest, ∃ h, readUnary (ts ++ rest) = readSuffixes ⟨x, rest, h⟩

theorem Led.taken (h : Led level ts x) : Taken level ts x := by
  intro rest hrest
  obtain ⟨hlt, he⟩ := h rest (hrest.mono (Nat.le_succ _))
  exact ⟨hlt, he.trans (readChain_stop hrest)⟩

/-- What suffixes may follow is read as an operand of a unary operator when none does. -/
theorem Accessed.taken (h : Accessed ts x) : Taken 10 ts x := by
  intro rest hrest
  obtain ⟨hlt, he⟩ := h rest
  refine ⟨hlt, ?_⟩
  rw [readBinary_unary (by decide), he, readSuffixes_stop hrest]

theorem led_operand (hl : level < Operator.levels) (h : Taken (level + 1) ts x) :
    Led level ts x := by
  intro rest hrest
  obtain ⟨hlt, he⟩ := h rest hrest
  refine ⟨hlt, ?_⟩
  rw [readBinary_operand hl, he]
  rfl

/-- One more operator of the level behind what is read already: the chain is ready to go on behind
it. -/
theorem led_joined {op : Operator} (left : Led level ts x) (ht : t.operator? level = some op)
    (right : Taken (level + 1) us y) : Led level (ts ++ t :: us) (.binary op x y) := by
  intro rest hrest
  have ends : Ends (level + 1) (t :: (us ++ rest)) :=
    ends_cons (Nat.le_of_eq (binding_of_operator? ht))
  obtain ⟨hlt, hl⟩ := left _ ends
  obtain ⟨hlt', hr⟩ := right rest hrest
  rw [List.append_assoc, List.cons_append]
  refine ⟨length_lt_of_cons_lt hlt hlt', hl.trans ?_⟩
  rw [readChain_step ht, hr]
  rfl

theorem taken_unary {op : Unary} (ht : t.unary? = some op) (h : Taken 10 ts x) :
    Taken 10 (t :: ts) (.unary op x) := by
  intro rest hrest
  obtain ⟨hlt, he⟩ := h rest hrest
  rw [readBinary_unary (by decide)] at he
  have step : readUnary (t :: (ts ++ rest)) = .ok ⟨.unary op x, rest, Nat.lt_succ_of_lt hlt⟩ := by
    rw [readUnary_step ht, he]
    rfl
  exact ⟨_, (readBinary_unary (by decide)).trans step⟩

/-- A term of one token is read by the reader of primary terms alone. -/
theorem accessed_one (ht : t.unary? = none)
    (primary : ∀ rest, readPrimary (t :: rest) = .ok (.one x t rest)) : Accessed [t] x := by
  intro rest
  have step : readUnary (t :: rest) = readSuffixes ⟨x, rest, Nat.lt_succ_self _⟩ := by
    rw [readUnary_primary ht, primary]
    rfl
  exact ⟨_, step⟩

theorem taken_term (h : Taken 0 ts x) (hrest : Ends 0 rest) :
    Gives (readTerm (ts ++ rest)) x rest := by
  obtain ⟨hlt, he⟩ := h rest hrest
  exact ⟨hlt, readTerm_stop hrest he⟩

/-- A term in parentheses may have suffixes, whatever its own rank was. -/
theorem accessed_parentheses (h : Taken 0 ts x) :
    Accessed (.punct "(" :: (ts ++ [.punct ")"])) x := by
  intro rest
  have closed : Ends 0 (.punct ")" :: rest) := ends_cons (by decide)
  obtain ⟨hlt, he⟩ := taken_term h closed
  have step : readUnary (.punct "(" :: (ts ++ .punct ")" :: rest)) =
      readSuffixes (⟨x, rest, Nat.lt_succ_of_lt (Nat.lt_of_succ_lt hlt)⟩ :
        Read Term (.punct "(" :: (ts ++ .punct ")" :: rest))) := by
    rw [readUnary_primary rfl, readPrimary_parentheses, he, ok_bind, expect_same]
    rfl
  rw [List.cons_append, List.append_assoc]
  exact ⟨_, step⟩

/-- Terms with commas between them, in front of the punctuator that closes them. -/
theorem gives_list (close : String) (hc : close ∈ closers) (ends : (Token.punct close).binding = 0)
    {args : List (List Token × Term)} (h : ∀ a ∈ args, Begins 0 a.1 ∧ Taken 0 a.1 a.2)
    (rest : List Token) :
    Gives (readList close (listed args ++ .punct close :: rest)) (args.map Prod.snd) rest := by
  have other : close ≠ "," := by
    rintro rfl
    exact absurd hc (by decide)
  induction args with
  | nil => exact ⟨Nat.lt_succ_self _, readList_close⟩
  | cons a args ih =>
    rw [List.forall_mem_cons] at h
    obtain ⟨⟨begins, first⟩, others⟩ := h
    -- an item is looked for only where the list is not closed
    have notClosed (us : List Token) : (a.1 ++ us).head? ≠ some (.punct close) :=
      (begins.append us).head?_ne hc
    cases args with
    | nil =>
      have closed : Ends 0 (.punct close :: rest) := ends_cons (Nat.le_of_eq ends)
      obtain ⟨hlt, he⟩ := taken_term first closed
      rw [listed_one]
      exact ⟨Nat.lt_of_succ_lt hlt, readList_last (notClosed _) other he⟩
    | cons b args =>
      obtain ⟨hlt', he'⟩ := ih others
      have comma : Ends 0 (.punct "," :: (listed (b :: args) ++ .punct close :: rest)) :=
        ends_cons (by decide)
      obtain ⟨hlt, he⟩ := taken_term first comma
      rw [listed_more, List.append_assoc, List.cons_append]
      refine ⟨length_lt_of_cons_lt hlt hlt', (readList_more (notClosed _) he).trans ?_⟩
      rw [he']
      rfl

/-- An array may have suffixes too. -/
theorem accessed_array {args : List (List Token × Term)}
    (h : ∀ a ∈ args, Begins 0 a.1 ∧ Taken 0 a.1 a.2) :
    Accessed (.punct "[" :: (listed args ++ [.punct "]"])) (.array (args.map Prod.snd)) := by
  intro rest
  obtain ⟨hlt, he⟩ := gives_list "]" (by decide) (by decide) h rest
  have step : readUnary (.punct "[" :: (listed args ++ .punct "]" :: rest)) =
      readSuffixes (⟨.array (args.map Prod.snd), rest, Nat.lt_succ_of_lt hlt⟩ :
        Read Term (.punct "[" :: (listed args ++ .punct "]" :: rest))) := by
    rw [readUnary_primary rfl, readPrimary_array, he]
    rfl
  rw [List.cons_append, List.append_assoc]
  exact ⟨_, step⟩

theorem accessed_property (s : String) (h : Accessed ts x) :
    Accessed (ts ++ [.punct ".", .name s]) (.member x s) := by
  intro rest
  obtain ⟨hlt, he⟩ := h (.punct "." :: .name s :: rest)
  rw [List.append_assoc]
  exact ⟨_, he.trans readSuffixes_property⟩

theorem accessed_key (s : String) (h : Accessed ts x) :
    Accessed (ts ++ [.punct "[", .text s, .punct "]"]) (.member x s) := by
  intro rest
  obtain ⟨hlt, he⟩ := h (.punct "[" :: .text s :: .punct "]" :: rest)
  rw [List.append_assoc]
  exact ⟨_, he.trans readSuffixes_key⟩

/-- A call keeps its own suffixes in front of the parentheses, so calls chain from left to right. -/
theorem accessed_call {args : List (List Token × Term)} (hx : Accessed ts x)
    (h : ∀ a ∈ args, Begins 0 a.1 ∧ Taken 0 a.1 a.2) :
    Accessed (ts ++ .punct "(" :: (listed args ++ [.punct ")"])) (.call x (args.map Prod.snd)) := by
  intro rest
  obtain ⟨hlt', he'⟩ := gives_list ")" (by decide) (by decide) h rest
  obtain ⟨hlt, he⟩ := hx (.punct "(" :: (listed args ++ .punct ")" :: rest))
  rw [List.append_assoc, List.cons_append, List.append_assoc]
  refine ⟨length_lt_of_cons_lt hlt hlt', he.trans ?_⟩
  rw [readSuffixes_call, he']
  rfl

/-! ### All constructs -/

/-- What reading a phrase does: operators may follow a run of operands, and accesses and calls
may follow what has no unary operator in front. -/
def Completes (rank : Nat) (ts : List Token) (x : Term) : Prop :=
  if rank < Operator.levels then Led rank ts x
  else if rank = 10 then Taken 10 ts x
  else Accessed ts x

theorem Completes.led (h : Completes rank ts x) (hr : rank < Operator.levels) : Led rank ts x := by
  rwa [Completes, if_pos hr] at h

theorem Completes.accessed (h : Completes 11 ts x) : Accessed ts x := h

theorem Completes.taken (h : Completes rank ts x) (hr : rank ≤ 10) : Taken rank ts x := by
  rcases Nat.lt_or_eq_of_le hr with lt | rfl
  · exact (h.led lt).taken
  · exact h

/-- **Every phrase is read** as what it is. -/
theorem Derives.completes (h : Derives rank ts x) : Completes rank ts x := by
  -- an operator may still follow a run of operands, and so it is not yet read as itself
  induction h with
  | @operand level ts x h inner ih =>
    have led := led_operand h (ih.taken h)
    rwa [Completes, if_pos h]
  | @joined level ts us t x y op left ht right ihl ihr =>
    have tight := level_lt_of_operator? ht
    have led := led_joined (ihl.led tight) ht (ihr.taken tight)
    rwa [Completes, if_pos tight]
  | unary ht operand ih => exact taken_unary ht ih
  | access inner ih => exact ih.accessed.taken
  | @name s x hs hx =>
    refine accessed_one hs fun rest => ?_
    rw [readPrimary, hx]
    rfl
  | number hv =>
    refine accessed_one rfl fun rest => ?_
    rw [readPrimary, hv]
    rfl
  | text s =>
    refine accessed_one rfl fun rest => ?_
    rw [readPrimary]
  | parentheses inner ih => exact accessed_parentheses (ih.taken (by decide))
  | array items ih =>
    exact accessed_array fun a ha => ⟨(items a ha).begins, (ih a ha).taken (by decide)⟩
  | property s of ih => exact accessed_property s ih
  | key s of ih => exact accessed_key s ih
  | call callee items ihc ihi =>
    exact accessed_call ihc fun a ha => ⟨(items a ha).begins, (ihi a ha).taken (by decide)⟩

/-- **A whole term** is read in front of anything that ends it. -/
theorem Derives.readTerm (h : Derives 0 ts x) (hrest : Ends 0 rest) :
    Gives (readTerm (ts ++ rest)) x rest :=
  taken_term (h.completes.taken (Nat.zero_le _)) hrest

end Sift.Lambda
