import Sift.Proofs.Filter.Grammar
import Sift.Proofs.Filter.Reading

/-!
# What is read is a phrase

Whatever a reader accepts is a phrase of the grammar, with the value that was built for it.

* `Reads`: the tokens in front of the rest are a phrase with the value that was read.
* `sound_run`, `sound_primary`: one kind of phrase, if what is inside it is sound.
* `sound`: every kind of phrase.
-/

namespace Sift.Filter

open Text

variable {α : Type} {actions : Actions α} {ts : List Token}

/-- What was read is a phrase, and its tokens stood in front of the rest. -/
def Reads (actions : Actions α) (p : Phrase) (r : Read α ts) : Prop :=
  ∃ us, ts = us ++ r.rest ∧ Derives actions p us r.value

/-- Arguments that were read are phrases with commas between them, up to a closing
parenthesis. -/
def ReadsArguments (actions : Actions α) (r : Read (List α) ts) : Prop :=
  ∃ args : List (List Token × α),
    ts = [Token.sign .comma].intercalate (args.map Prod.fst) ++ .sign .close :: r.rest ∧
    (∀ a ∈ args, Derives actions (.run .disjunction) a.1 a.2) ∧ r.value = args.map Prod.snd

/-- Only a closing parenthesis closes. -/
theorem readClose_eq_ok {r : Read Unit ts} (h : readClose ts = .ok r) :
    ts = .sign .close :: r.rest := by
  unfold readClose at h
  split at h <;> cases h
  rfl

/-- A path that was read: names with slashes between them. -/
theorem readPath_eq_ok {done : List String} {r : Read (List String) ts}
    (h : readPath done ts = .ok r) :
    ∃ s others, ts = ((s :: others).map Token.name).intersperse (.sign .slash) ++ r.rest ∧
      r.value = done ++ s :: others := by
  fun_induction readPath done ts with
  | case1 => cases h
  | case2 done s rest ih =>
    obtain ⟨path, hp, h⟩ := bind_eq_ok.1 h
    cases h
    obtain ⟨s', others, hrest, hvalue⟩ := ih hp
    refine ⟨s, s' :: others, ?_, ?_⟩
    · exact congrArg (fun us => Token.name s :: .sign .slash :: us) hrest
    · rw [Read.value_past, Read.value_past, hvalue]
      simp
  | case3 done s rest =>
    cases h
    exact ⟨s, [], rfl, rfl⟩
  | case4 => cases h
  | case5 => cases h

/-- A path is a member unless nothing is left of it without the range variable. -/
theorem memberOf_eq (s : String) (others : List String) :
    memberOf actions (s :: others) =
      if pathNames s others = [] then .error (.parse .emptyPath)
      else actions.member (joinWith "." (pathNames s others)) := by
  unfold memberOf pathNames
  by_cases hs : s = "$it"
  · subst hs
    cases others <;> rfl
  · rw [if_neg hs, if_neg (List.cons_ne_nil s others)]
    split
    · next he => cases he; exact absurd rfl hs
    · rfl

/-! ### One construct at a time -/

/-- A reader accepts phrases only, of its own kind, in front of these tokens. -/
def Sound (actions : Actions α) (p : Phrase) (ts : List Token) : Prop :=
  ∀ r, p.read actions ts = .ok r → Reads actions p r

/-- A run is read as one operand more behind a left side, again and again. -/
theorem reads_readChain {level : Level} {left r : Read α ts}
    (operands : ∀ us, us.length < left.rest.length → Sound actions level.operand us)
    (hl : Reads actions (.run level) left) (h : readChain actions level left = .ok r) :
    Reads actions (.run level) r := by
  obtain ⟨x, rest, hlt⟩ := left
  -- what was read so far is the left side of the next operator, and less is left behind it
  induction hn : rest.length using Nat.strongRecOn generalizing x rest with
  | ind n ih =>
    rcases rest with - | ⟨t, rest⟩
    · rw [readChain_nil] at h
      cases h
      exact hl
    cases ht : level.operator? t with
    | none =>
      rw [readChain_stop ht] at h
      cases h
      exact hl
    | some op =>
      rw [readChain_step ht, readOperand_eq] at h
      obtain ⟨right, hr, h⟩ := bind_eq_ok.1 h
      obtain ⟨us, hus, hd⟩ := hl
      obtain ⟨vs, hvs, hd'⟩ := operands rest (Nat.lt_succ_self _) right hr
      obtain ⟨s, rfl, hs⟩ := Level.operator?_eq_some_iff.1 ht
      have shorter : right.rest.length < (Token.name s :: rest).length :=
        Nat.lt_succ_of_lt right.shorter
      have tokens : ts = (us ++ .name s :: vs) ++ right.rest := by
        rw [List.append_assoc, List.cons_append, ← hvs]
        exact hus
      exact ih _ (hn ▸ shorter) _ _ _ (fun us hu => operands us (Nat.lt_trans hu shorter))
        ⟨us ++ .name s :: vs, tokens, .joined hd hs hd'⟩ h rfl

/-- A run is sound if its operands are. -/
theorem sound_run {level : Level}
    (operands : ∀ us, us.length ≤ ts.length → Sound actions level.operand us) :
    Sound actions (.run level) ts := by
  intro r h
  rw [Phrase.read, readBinary, readOperand_eq] at h
  obtain ⟨left, hl, h⟩ := bind_eq_ok.1 h
  obtain ⟨us, hus, hd⟩ := operands ts (Nat.le_refl _) left hl
  refine reads_readChain (fun vs hv => operands vs ?_) ⟨us, hus, .operand hd⟩ h
  exact Nat.le_of_lt (Nat.lt_trans hv left.shorter)

/-- A negation is sound if what is negated is, which is shorter. -/
theorem sound_negation (comparison : Sound actions .comparison ts)
    (operands : ∀ us, us.length < ts.length → Sound actions .negation us) :
    Sound actions .negation ts := by
  intro r h
  rw [Phrase.read] at h
  by_cases hn : ∃ rest, ts = .name "not" :: rest
  · obtain ⟨rest, rfl⟩ := hn
    rw [readNegation] at h
    obtain ⟨operand, ho, h⟩ := bind_eq_ok.1 h
    cases h
    obtain ⟨us, hus, hd⟩ := operands rest (Nat.lt_succ_self _) operand ho
    exact ⟨.name "not" :: us, congrArg (Token.name "not" :: ·) hus, .not hd⟩
  · rw [readNegation] at h
    · obtain ⟨us, hus, hd⟩ := comparison r h
      exact ⟨us, hus, .comparison hd⟩
    · exact fun rest he => hn ⟨rest, he⟩

/-- A comparison is sound if its sides are; a second operator is refused. -/
theorem sound_comparison (sides : ∀ us, us.length ≤ ts.length → Sound actions (.run .sum) us) :
    Sound actions .comparison ts := by
  intro r h
  rw [Phrase.read] at h
  have start := h
  rw [readComparison] at start
  obtain ⟨⟨x, rest, hlt⟩, hl, -⟩ := bind_eq_ok.1 start
  obtain ⟨us, hus, hd⟩ := sides ts (Nat.le_refl _) _ hl
  -- nothing behind the left side, no operator there, or one
  rcases rest with - | ⟨t, rest⟩
  · rw [readComparison_nil hl] at h
    cases h
    exact ⟨us, hus, .sum hd⟩
  cases ht : comparison? t with
  | none =>
    rw [readComparison_stop hl ht] at h
    cases h
    exact ⟨us, hus, .sum hd⟩
  | some op =>
    rw [readComparison_step hl ht] at h
    obtain ⟨right, hr, h⟩ := bind_eq_ok.1 h
    obtain ⟨vs, hvs, hd'⟩ := sides rest (Nat.le_of_lt (Nat.lt_of_succ_lt hlt)) right hr
    obtain ⟨s, rfl, hs⟩ := comparison?_eq_some_iff.1 ht
    split at h
    · cases h
    · cases h
      refine ⟨us ++ .name s :: vs, ?_, .compared hd hs hd'⟩
      rw [List.append_assoc, List.cons_append]
      exact hus.trans (congrArg (fun rest => us ++ Token.name s :: rest) hvs)

/-! ### Operands -/

/-- Arguments that are read stand between commas, up to the closing parenthesis. -/
theorem reads_readItems {callee : String} {r : Read (List α) ts}
    (items : ∀ us, us.length ≤ ts.length → Sound actions (.run .disjunction) us)
    (h : readItems actions callee ts = .ok r) :
    ∃ a args, ts = [Token.sign .comma].intercalate ((a :: args).map Prod.fst) ++
        .sign .close :: r.rest ∧
      (∀ b ∈ a :: args, Derives actions (.run .disjunction) b.1 b.2) ∧
      r.value = (a :: args).map Prod.snd := by
  -- on the number of tokens, as the items behind a comma are a shorter list of them
  induction hn : ts.length using Nat.strongRecOn generalizing ts with
  | ind n ih =>
    have start := h
    rw [readItems] at start
    split at start
    · cases start
    obtain ⟨⟨x, rest, hlt⟩, hi, -⟩ := bind_eq_ok.1 start
    obtain ⟨us, hus, hd⟩ := items ts (Nat.le_refl _) _ hi
    -- a comma goes on with another item, and anything else has to close the list
    by_cases hc : rest.head? = some (.sign .comma)
    · obtain ⟨rest, rfl⟩ := List.head?_eq_some_iff.1 hc
      by_cases hm : rest.head? = some (.sign .close)
      · obtain ⟨rest, rfl⟩ := List.head?_eq_some_iff.1 hm
        rw [readItems_missing hi] at h
        cases h
      · rw [readItems_more hi hm] at h
        obtain ⟨others, ho, h⟩ := bind_eq_ok.1 h
        cases h
        have shorter : rest.length < ts.length := Nat.lt_of_succ_lt hlt
        obtain ⟨a, args, htokens, hderives, hvalue⟩ :=
          ih rest.length (hn ▸ shorter) (fun us hu => items us (by omega)) ho rfl
        refine ⟨(us, x), a :: args, ?_, List.forall_mem_cons.2 ⟨hd, hderives⟩, ?_⟩
        · rw [List.map_cons, List.map_cons, List.intercalate_cons_cons, ← List.map_cons,
            List.append_assoc, List.append_assoc, ← htokens]
          exact hus
        · exact congrArg (x :: ·) hvalue
    · rw [readItems_last hi hc] at h
      obtain ⟨close, hclose, h⟩ := bind_eq_ok.1 h
      cases h
      have tokens : ts = us ++ .sign .close :: close.rest :=
        hus.trans (congrArg (us ++ ·) (readClose_eq_ok hclose))
      exact ⟨(us, x), [], by simpa [List.intercalate] using tokens,
        List.forall_mem_singleton.2 hd, rfl⟩

/-- Arguments in parentheses are none, or items with commas between them. -/
theorem reads_readArguments {callee : String} {r : Read (List α) ts}
    (items : ∀ us, us.length ≤ ts.length → Sound actions (.run .disjunction) us)
    (h : readArguments actions callee ts = .ok r) : ReadsArguments actions r := by
  by_cases hc : ∃ rest, ts = .sign .close :: rest
  · obtain ⟨rest, rfl⟩ := hc
    rw [readArguments_close] at h
    cases h
    exact ⟨[], rfl, fun a ha => absurd ha List.not_mem_nil, rfl⟩
  · rw [readArguments] at h
    · obtain ⟨a, args, htokens, hderives, hvalue⟩ := reads_readItems items h
      exact ⟨a :: args, htokens, hderives, hvalue⟩
    · exact fun rest he => hc ⟨rest, he⟩

/-- An operand is sound: by its first tokens it is a literal, in parentheses, a call or a path. -/
theorem sound_primary
    (inner : ∀ us, us.length < ts.length → Sound actions (.run .disjunction) us) :
    Sound actions .primary ts := by
  intro r h
  rw [Phrase.read] at h
  rcases ts with - | ⟨l | s | c, rest⟩
  · rw [readPrimary] at h
    cases h
  · rw [readPrimary_literal] at h
    cases h
    exact ⟨[.literal l], rfl, .literal l⟩
  · by_cases hs : s ∈ keywords
    · rw [readPrimary_keyword hs] at h
      cases h
    by_cases ho : ∃ us, rest = .sign .open_ :: us
    · obtain ⟨us, rfl⟩ := ho
      rw [readPrimary_call hs] at h
      obtain ⟨args, ha, h⟩ := bind_eq_ok.1 h
      obtain ⟨x, hx, h⟩ := bind_eq_ok.1 h
      cases h
      have shorter (vs : List Token) (hv : vs.length ≤ us.length) :
          Sound actions (.run .disjunction) vs := inner vs (by simp only [List.length_cons]; omega)
      obtain ⟨phrases, htokens, hderives, hvalue⟩ := reads_readArguments shorter ha
      have tokens : us = ([Token.sign .comma].intercalate (phrases.map Prod.fst) ++
          [.sign .close]) ++ args.rest := by
        rw [List.append_assoc]
        exact htokens
      exact ⟨_, congrArg (fun us => Token.name s :: .sign .open_ :: us) tokens,
        .call hs hderives (hvalue ▸ hx)⟩
    · have hrest : rest.head? ≠ some (.sign .open_) := fun he =>
        ho (List.head?_eq_some_iff.1 he)
      rw [readPrimary_path hs hrest] at h
      obtain ⟨path, hp, h⟩ := bind_eq_ok.1 h
      obtain ⟨x, hx, h⟩ := bind_eq_ok.1 h
      cases h
      obtain ⟨s', others, htokens, hvalue⟩ := readPath_eq_ok hp
      -- the path begins with the name that was no keyword
      have first : s' = s := by
        have heads := congrArg List.head? htokens
        cases others <;> cases heads <;> rfl
      subst first
      rw [hvalue, List.nil_append, memberOf_eq] at hx
      split at hx
      · cases hx
      · next hne => exact ⟨_, htokens, .path hs hne hx⟩
  · by_cases ho : c = .open_
    · subst ho
      rw [readPrimary_parentheses] at h
      obtain ⟨content, hi, h⟩ := bind_eq_ok.1 h
      obtain ⟨close, hc, h⟩ := bind_eq_ok.1 h
      cases h
      obtain ⟨us, hus, hd⟩ := inner rest (Nat.lt_succ_self _) content hi
      have tokens : rest = (us ++ [.sign .close]) ++ close.rest := by
        rw [List.append_assoc]
        exact hus.trans (congrArg (us ++ ·) (readClose_eq_ok hc))
      exact ⟨_, congrArg (Token.sign .open_ :: ·) tokens, .parentheses hd⟩
    · obtain ⟨e, he⟩ := readPrimary_sign actions rest ho
      rw [he] at h
      cases h

/-! ### All constructs -/

/-- **What is read is a phrase** of the kind that was asked for. -/
theorem sound (p : Phrase) (ts : List Token) : Sound actions p ts := by
  -- lists of tokens of one length are done together, phrase by phrase from the operands up
  induction hn : ts.length using Nat.strongRecOn generalizing p ts with
  | ind n ih =>
    have primary (us : List Token) (hu : us.length ≤ n) : Sound actions .primary us :=
      sound_primary fun vs hv => ih vs.length (Nat.lt_of_lt_of_le hv hu) _ vs rfl
    have product (us : List Token) (hu : us.length ≤ n) : Sound actions (.run .product) us :=
      sound_run fun vs hv => primary vs (Nat.le_trans hv hu)
    have sum (us : List Token) (hu : us.length ≤ n) : Sound actions (.run .sum) us :=
      sound_run fun vs hv => product vs (Nat.le_trans hv hu)
    have comparison (us : List Token) (hu : us.length ≤ n) : Sound actions .comparison us :=
      sound_comparison fun vs hv => sum vs (Nat.le_trans hv hu)
    have negation (us : List Token) (hu : us.length ≤ n) : Sound actions .negation us :=
      sound_negation (comparison us hu) fun vs hv =>
        ih vs.length (Nat.lt_of_lt_of_le hv hu) _ vs rfl
    have conjunction (us : List Token) (hu : us.length ≤ n) :
        Sound actions (.run .conjunction) us :=
      sound_run fun vs hv => negation vs (Nat.le_trans hv hu)
    have disjunction (us : List Token) (hu : us.length ≤ n) :
        Sound actions (.run .disjunction) us :=
      sound_run fun vs hv => conjunction vs (Nat.le_trans hv hu)
    have here : ts.length ≤ n := Nat.le_of_eq hn
    match p with
    | .primary => exact primary ts here
    | .run .product => exact product ts here
    | .run .sum => exact sum ts here
    | .comparison => exact comparison ts here
    | .negation => exact negation ts here
    | .run .conjunction => exact conjunction ts here
    | .run .disjunction => exact disjunction ts here

end Sift.Filter
