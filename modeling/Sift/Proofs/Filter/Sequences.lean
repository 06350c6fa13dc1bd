import Mathlib
import Sift.Filter.Sequence
import Sift.Proofs.Filter.Completeness
import Sift.Proofs.Filter.Locality
import Sift.Proofs.Filter.Resolved

/-!
# Lists of items joined by a comma

An item is read in front of a comma as it is read in front of anything else: no call, no operator
and no label that it ends with goes on with a comma. So the items of a list come out in front of a
comma and more items, in selections, in orderings and in groupings.

* `EndsAtComma`: readers of items that are the same in front of a comma.
* `readField_endsAtComma`, `readOrder_endsAtComma`, `readGroup_endsAtComma`: the three readers.
* `ReadsSequence.append`: a list in front of a comma and more tokens.
* `parse_joined`: two texts with a comma between them.
-/

namespace Sift.Filter

open Text

variable {β : Type} {item : ItemReader β} {ts us rest : List Token} {r : Resolver}

/-! ### Items -/

/-- Readers of items that end at a comma: what was taken as an item is the same item in front of
a comma, whatever follows that. -/
def EndsAtComma (item : ItemReader β) : Prop :=
  ∀ ⦃ts : List Token⦄ ⦃x : Read β ts⦄, item ts = .ok x →
    ∃ vs, ts = vs ++ x.rest ∧
      ∀ us, Gives (item (vs ++ .sign .comma :: us)) x.value (.sign .comma :: us)

/-- An expression in front of anything that does not go on with it. -/
theorem readExpr_before {α : Type} {actions : Actions α} {e : Read α ts}
    (h : readExpr actions ts = .ok e) :
    ∃ vs, ts = vs ++ e.rest ∧ ∀ rest, (Phrase.run .disjunction).Ends rest →
      Gives (readExpr actions (vs ++ rest)) e.value rest := by
  obtain ⟨vs, hvs, derives⟩ := sound (.run .disjunction) ts e h
  exact ⟨vs, hvs, (complete derives).taken⟩

/-- A grouping ends where its expression does. -/
theorem readGroup_endsAtComma : EndsAtComma (readGroup r) := by
  intro ts x h
  obtain ⟨e, he, h⟩ := bind_eq_ok.1 h
  obtain ⟨vs, hvs, taken⟩ := readExpr_before he
  obtain rfl := Except.ok.inj h
  refine ⟨vs, hvs, fun us => ?_⟩
  obtain ⟨shorter, again⟩ := taken (.sign .comma :: us) Phrase.ends_comma
  rw [readGroup, again]
  exact ⟨shorter, rfl⟩

/-- A field ends with its label, or with its expression; a comma is none of what would go on with
either. -/
theorem readField_endsAtComma : EndsAtComma (readField r) := by
  intro ts x h
  obtain ⟨e, he, h⟩ := bind_eq_ok.1 h
  obtain ⟨vs, hvs, taken⟩ := readExpr_before he
  split at h
  · next label rest hr =>
    obtain rfl := Except.ok.inj h
    refine ⟨vs ++ [Token.name "as", Token.name label], ?_, fun us => ?_⟩
    · rw [List.append_assoc, Read.rest_thenPast, Read.rest_one]
      rw [hr] at hvs
      exact hvs
    · -- the label is there again, whatever follows the comma
      have ends : (Phrase.run .disjunction).Ends
          (.name "as" :: .name label :: .sign .comma :: us) := Phrase.ends_cons (by decide)
      obtain ⟨shorter, again⟩ := taken _ ends
      rw [List.append_assoc]
      change Gives (readField r (vs ++ .name "as" :: .name label :: .sign .comma :: us)) _ _
      rw [readField, again]
      exact ⟨_, rfl⟩
  · cases h
  · obtain rfl := Except.ok.inj h
    refine ⟨vs, hvs, fun us => ?_⟩
    obtain ⟨shorter, again⟩ := taken (.sign .comma :: us) Phrase.ends_comma
    rw [readField, again]
    exact ⟨shorter, rfl⟩

/-- The words for directions. -/
def directionWords : List (String × Direction) := [("desc", .descending), ("asc", .ascending)]

/-- The words of directions bind nothing. -/
theorem binding_directionWord {word : String} {direction : Direction}
    (h : (word, direction) ∈ directionWords) : (Token.name word).binding = 0 := by
  simp only [directionWords, List.mem_cons, Prod.mk.injEq, List.not_mem_nil, or_false] at h
  rcases h with ⟨rfl, -⟩ | ⟨rfl, -⟩ <;> rfl

/-- An expression in front of a direction is ordered by it. -/
theorem gives_directed {word : String} {direction : Direction} {e : Expr}
    (h : (word, direction) ∈ directionWords)
    (he : Gives (readExpr (.expr r) ts) e (.name word :: rest)) :
    Gives (readOrder r ts) ⟨e, direction⟩ rest := by
  obtain ⟨shorter, he⟩ := he
  simp only [directionWords, List.mem_cons, Prod.mk.injEq, List.not_mem_nil, or_false] at h
  rcases h with ⟨rfl, rfl⟩ | ⟨rfl, rfl⟩ <;>
  · rw [readOrder, he]
    exact ⟨_, rfl⟩

/-- An ordering ends with its direction, or with its expression if the next token is no direction.
-/
theorem readOrder_endsAtComma : EndsAtComma (readOrder r) := by
  intro ts x h
  obtain ⟨e, he, h⟩ := bind_eq_ok.1 h
  obtain ⟨vs, hvs, taken⟩ := readExpr_before he
  -- a direction that is written belongs to the item
  have directed {word : String} {direction : Direction} (hw : (word, direction) ∈ directionWords)
      {rest : List Token} (hr : e.rest = .name word :: rest) :
      ∃ vs, ts = vs ++ rest ∧ ∀ us, Gives (readOrder r (vs ++ .sign .comma :: us))
        ⟨e.value, direction⟩ (.sign .comma :: us) := by
    refine ⟨vs ++ [Token.name word], ?_, fun us => ?_⟩
    · rw [List.append_assoc, List.singleton_append, ← hr]
      exact hvs
    have ends : (Phrase.run .disjunction).Ends (.name word :: .sign .comma :: us) :=
      Phrase.ends_cons (by rw [binding_directionWord hw]; decide)
    rw [List.append_assoc]
    exact gives_directed hw (taken _ ends)
  split at h
  · next rest hr =>
    obtain rfl := Except.ok.inj h
    exact directed List.mem_cons_self hr
  · next rest hr =>
    obtain rfl := Except.ok.inj h
    exact directed (List.mem_cons_of_mem _ List.mem_cons_self) hr
  · obtain rfl := Except.ok.inj h
    refine ⟨vs, hvs, fun us => ?_⟩
    obtain ⟨shorter, again⟩ := taken (.sign .comma :: us) Phrase.ends_comma
    rw [readOrder, again]
    exact ⟨shorter, rfl⟩

/-! ### Lists -/

/-- Behind a comma the list goes on. -/
theorem readSequence_more {x : β} (h : Gives (item ts) x (.sign .comma :: us)) :
    readSequence item ts = (x :: ·) <$> readSequence item us := by
  obtain ⟨shorter, h⟩ := h
  rw [readSequence, h]
  rfl

/-- **A list in front of a comma**: its items come first, and what follows the comma is read as a
list of its own. -/
theorem ReadsSequence.append (ends : EndsAtComma item) {xs : List β}
    (h : ReadsSequence item ts xs) (us : List Token) :
    readSequence item (ts ++ .sign .comma :: us) = (xs ++ ·) <$> readSequence item us := by
  induction h with
  | @last ts x first done =>
    obtain ⟨vs, hvs, again⟩ := ends first
    rw [done, List.append_nil] at hvs
    subst hvs
    exact readSequence_more (again us)
  | @more ts rest x xs first comma _ ih =>
    obtain ⟨vs, hvs, again⟩ := ends first
    -- the first item ends at its comma, so the rest is joined as the induction hypothesis says
    have tokens : ts ++ .sign .comma :: us =
        vs ++ .sign .comma :: (rest ++ .sign .comma :: us) := by
      rw [comma] at hvs
      rw [hvs, List.append_assoc]
      rfl
    rw [tokens, readSequence_more (again _), ih]
    change ([x.value] ++ ·) <$> (xs ++ ·) <$> readSequence item us = _
    exact Scans.map_append _

/-! ### Texts -/

/-- A comma between two texts is one token more. -/
theorem tokenize_joined {a b : String} (first : tokenize a = .ok ts)
    (second : tokenize b = .ok us) : tokenize (a ++ "," ++ b) = .ok (ts ++ .sign .comma :: us) := by
  have comma : Scans readTokens anyChar [','] [.sign .comma] :=
    @scans_sign .comma (by decide)
  have front := (readTokens_append (tokenize_eq_ok.1 first)).append_cons comma (by decide)
  have text : (a ++ "," ++ b).toList = a.toList ++ [','] ++ b.toList := by simp
  rw [tokenize_eq_ok, text, front _ follows_any, tokenize_eq_ok.1 second]
  exact congrArg Except.ok (List.append_assoc ts _ us)

/-- Two texts with a comma between them: the items of the first one, and then whatever the
second one alone is read as. -/
theorem parseSequence_joined (ends : EndsAtComma item) {a b : String} {xs : List β}
    (first : tokenize a = .ok ts) (second : tokenize b = .ok us) (front : ts ≠ []) (back : us ≠ [])
    (h : parseSequence item a = .ok xs) :
    parseSequence item (a ++ "," ++ b) = (xs ++ ·) <$> parseSequence item b := by
  rw [parseSequence_eq first front] at h
  rw [parseSequence_eq (tokenize_joined first second) (by simp), parseSequence_eq second back]
  exact (readsSequence_of_readSequence h).append ends us

/-- **Lists joined by a comma** are the items of one and then those of the other, in selections, in
orderings and in groupings, with every resolver, if there is a token in both of them. -/
theorem parse_joined (r : Resolver) {a b : String} (first : tokenize a ≠ .ok [])
    (second : tokenize b ≠ .ok []) :
    (∀ xs ys, parseSelection a r = .ok xs → parseSelection b r = .ok ys →
      parseSelection (a ++ "," ++ b) r = .ok (xs ++ ys)) ∧
    (∀ xs ys, parseOrdering a r = .ok xs → parseOrdering b r = .ok ys →
      parseOrdering (a ++ "," ++ b) r = .ok (xs ++ ys)) ∧
    (∀ xs ys, parseGrouping a r = .ok xs → parseGrouping b r = .ok ys →
      parseGrouping (a ++ "," ++ b) r = .ok (xs ++ ys)) := by
  have joined {β : Type} {item : ItemReader β} (ends : EndsAtComma item) (xs ys : List β)
      (ha : parseSequence item a = .ok xs) (hb : parseSequence item b = .ok ys) :
      parseSequence item (a ++ "," ++ b) = .ok (xs ++ ys) := by
    obtain ⟨ts, hts, -⟩ := bind_eq_ok.1 ha
    obtain ⟨us, hus, -⟩ := bind_eq_ok.1 hb
    have front : ts ≠ [] := fun empty => first (empty ▸ hts)
    have back : us ≠ [] := fun empty => second (empty ▸ hus)
    rw [parseSequence_joined ends hts hus front back ha, hb]
    rfl
  exact ⟨joined readField_endsAtComma, joined readOrder_endsAtComma, joined readGroup_endsAtComma⟩

/-- An order with commas inside of a call and of a text, in front of another one. -/
theorem orders_joined :
    (tokenize "f(x,'a,b') desc" ≠ .ok [] ∧ tokenize "z asc" ≠ .ok []) ∧
    parseOrdering ("f(x,'a,b') desc" ++ "," ++ "z asc") .identity =
      .ok ([⟨.call "f" [.member "x", .lit (.str "a,b")], .descending⟩] ++
        [⟨.member "z", .ascending⟩]) := by
  have front : tokenize "f(x,'a,b') desc" = .ok [.name "f", .sign .open_, .name "x", .sign .comma,
      .literal (.string "a,b"), .sign .close, .name "desc"] := by cbv
  have behind : tokenize "z asc" = .ok [.name "z", .name "asc"] := by cbv
  have first : tokenize "f(x,'a,b') desc" ≠ .ok [] := by simp [front]
  have second : tokenize "z asc" ≠ .ok [] := by simp [behind]
  have orders : parseOrdering "f(x,'a,b') desc" .identity = _ :=
    (parseSequence_eq front (by simp)).trans (by cbv)
  have order : parseOrdering "z asc" .identity = _ :=
    (parseSequence_eq behind (by simp)).trans (by cbv)
  exact ⟨⟨first, second⟩, (parse_joined .identity first second).2.1 _ _ orders order⟩

end Sift.Filter
