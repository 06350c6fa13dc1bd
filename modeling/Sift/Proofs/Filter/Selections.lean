import Mathlib
import Sift.Proofs.Filter.NormalForm
import Sift.Proofs.Filter.Resolved
import Sift.Proofs.Object.RoundTrip

/-!
# Selections read back

A selection is a list of fields with commas between them, each an expression with a label behind
`as` or without. With names that are no keys of another meaning, every expression in it reads back
from its object. A field does not always: a text alone names a member, and the object of a
comparison that a member keys looks like a label with an expression under it.

* `ReadsSequence.eq_intercalate`: what a list of items is made of.
* `Node.Unreserved`, `Keyable`: names that stand for themselves, in a tree and among tokens.
* `Derives.unreserved`: what such tokens derive reads back.
* `selected_reads_back_iff`: the fields of a selection that read back.
-/

namespace Sift

/-- Names that mean something else than a call as keys: the reserved ones, and those that are
told apart inside of comparisons. -/
def specialNames : List String := reservedNames ++ ["name", "text", "regex"]

/-- A node without names of another meaning: a constant that is no object, a member without a
dollar sign, a call by an ordinary name, a comparison that is no membership, and no query. -/
def Node.Unreserved : Node → Prop
  | .expr (.lit v) => v.isObj = false
  | .expr (.member path) => isDollarKey path = false
  | .expr (.call name _) => name ∉ specialNames ∧ name ∉ arithNames
  | .expr (.compare _ op _) => op ≠ .isIn ∧ op ≠ .notIn
  | .expr (.subquery _) => False
  | .expr _ => True
  | .query _ => False

/-- The member that keys a comparison stands in its left side. -/
theorem Expr.isDollarKey_of_keyMember? {l : Expr} {path : String}
    (h : Everywhere Node.Unreserved (.expr l)) (hp : l.keyMember? = some path) :
    isDollarKey path = false := by
  unfold keyMember? at hp
  split at hp <;> cases hp
  · exact h.here
  · exact ((Everywhere.call_iff.1 h).2 _ List.mem_cons_self).here
  · exact (Everywhere.arith_iff.1 h).2.1.here

/-- A node reads back where names have no other meaning in it and inside of it. -/
theorem Node.jsonSafe_of_unreserved {n : Node} (here : n.Unreserved)
    (parts : ∀ m ∈ n.parts, Everywhere Node.Unreserved m) : n.JsonSafe := by
  cases n with
  | query q => exact absurd here id
  | expr e =>
    cases e with
    | lit v => exact here
    | call name args =>
      obtain ⟨special, arith⟩ := here
      exact ⟨fun h => special (List.mem_append_left _ h), fun h => absurd h arith⟩
    | compare l op r =>
      intro path hp
      have left : Everywhere Node.Unreserved (.expr l) := parts _ List.mem_cons_self
      refine ⟨Expr.isDollarKey_of_keyMember? left hp, fun name args hl hn => ?_, fun h => ?_⟩
      · -- names of short forms are reserved as well, so no call has one
        subst hl
        exact left.here.1 (List.mem_append_right _ hn)
      · exact absurd h (not_or.2 here)
    | subquery q => exact absurd here id
    | member _ | logical _ _ | arith _ _ _ | not _ => trivial

/-- Names that stand for themselves make a tree safe to write as JSON. -/
theorem Everywhere.jsonSafe {n : Node} (h : Everywhere Node.Unreserved n) :
    Everywhere Node.JsonSafe n := by
  induction h with
  | intro here parts ih => exact .intro (Node.jsonSafe_of_unreserved here parts) ih

/-- A computed constant is no object. -/
theorem Arith.isObj_of_compute? {op : Arith} {a b v : Json} (h : op.compute? a b = some v) :
    v.isObj = false := by
  unfold compute? at h
  -- texts are joined, integers computed, and all else is a float: never an object
  split at h
  · obtain ⟨s, -, h⟩ := Option.bind_eq_some_iff.1 h
    obtain ⟨t, -, h⟩ := Option.bind_eq_some_iff.1 h
    cases h
    rfl
  · dsimp only at h
    split at h
    · cases h
      rfl
    · obtain ⟨x, -, h⟩ := Option.bind_eq_some_iff.1 h
      obtain ⟨y, -, h⟩ := Option.bind_eq_some_iff.1 h
      obtain ⟨z, -, h⟩ := Option.bind_eq_some_iff.1 h
      unfold Json.ofFinite? at h
      split at h <;> cases h
      rfl

/-- Folded arithmetic keeps names that stand for themselves. -/
theorem Everywhere.unreserved_arithmetic {d e : Expr} (op : Arith)
    (hd : Everywhere Node.Unreserved (.expr d)) (he : Everywhere Node.Unreserved (.expr e)) :
    Everywhere Node.Unreserved (.expr (Expr.arithmetic d op e)) := by
  obtain ⟨a, b, v, -, -, computed, h⟩ | ⟨h, -⟩ := Expr.arithmetic_cases d op e
  · rw [h, lit_iff]
    exact Arith.isObj_of_compute? computed
  · rw [h, arith_iff]
    exact ⟨trivial, hd, he⟩

/-- Which fields read back, of those with an expression that does and a label that is one. -/
theorem Field.ofJson_toJson_iff {f : Field} (safe : Everywhere Node.JsonSafe (.expr f.expr))
    (label : ∀ name, f.label = some name → isDollarKey name = false) :
    Field.ofJson f.toJson = .ok f ↔
      (∀ s, f.expr ≠ .lit (.str s)) ∧ (f.label = none → f.expr.isKeyed = false) := by
  constructor
  · intro h
    have own := Field.jsonSafe_of_ofJson safe.here h
    exact ⟨own.text, own.bare⟩
  · rintro ⟨text, bare⟩
    exact Field.ofJson_toJson ⟨text, label, bare⟩ safe.here safe.readsBack.1

namespace Filter

open Text

/-! ### Lists of items -/

section

variable {β : Type} {item : ItemReader β} {P : List Token → β → Prop}

/-- **A list of items** that was read: what stands between the commas was read as the items. -/
theorem ReadsSequence.eq_intercalate
    (each : ∀ us x, item us = .ok x → ∃ vs, us = vs ++ x.rest ∧ P vs x.value) {ts : List Token}
    {xs : List β} (h : ReadsSequence item ts xs) :
    ∃ part parts, ts = [Token.sign .comma].intercalate ((part :: parts).map Prod.fst) ∧
      (∀ p ∈ part :: parts, P p.1 p.2) ∧ xs = (part :: parts).map Prod.snd := by
  induction h with
  | @last ts x first done =>
    obtain ⟨vs, hvs, hfirst⟩ := each ts x first
    rw [done, List.append_nil] at hvs
    exact ⟨(vs, x.value), [], by simpa [List.intercalate] using hvs,
      List.forall_mem_singleton.2 hfirst, rfl⟩
  | @more ts rest x xs first comma _ ih =>
    obtain ⟨vs, hvs, hfirst⟩ := each ts x first
    obtain ⟨part, parts, hrest, hparts, hvalues⟩ := ih
    refine ⟨(vs, x.value), part :: parts, ?_, List.forall_mem_cons.2 ⟨hfirst, hparts⟩, ?_⟩
    · rw [List.map_cons, List.map_cons, List.intercalate_cons_cons, ← List.map_cons, ← hrest,
        List.append_assoc, List.singleton_append, ← comma]
      exact hvs
    · rw [hvalues]
      rfl

/-- What stands between commas stands in the list. -/
theorem infix_intercalate {us : List Token} {uss : List (List Token)} (h : us ∈ uss) :
    us <:+: [Token.sign .comma].intercalate uss := by
  induction uss with
  | nil => cases h
  | cons vs uss ih =>
    cases uss with
    | nil =>
      rw [List.mem_singleton.1 h]
      simp [List.intercalate]
    | cons ws uss =>
      rw [List.intercalate_cons_cons]
      rcases List.mem_cons.1 h with rfl | h
      · rw [List.append_assoc]
        exact (List.prefix_append _ _).isInfix
      · exact (ih h).trans (List.suffix_append _ _).isInfix

end

/-- An item of a selection: an expression, with a label behind it or without. -/
inductive DerivesField (r : Resolver) : List Token → Field → Prop where
  | bare {ts : List Token} {e : Expr} (h : Derives (.expr r) (.run .disjunction) ts e) :
      DerivesField r ts ⟨e, none⟩
  | labelled {ts : List Token} {e : Expr} {label : String}
      (h : Derives (.expr r) (.run .disjunction) ts e) :
      DerivesField r (ts ++ [.name "as", .name label]) ⟨e, some label⟩

/-- A field that is read is an expression with the label behind it, if there is one. -/
theorem readField_eq_ok {r : Resolver} {ts : List Token} {x : Read Field ts}
    (h : readField r ts = .ok x) : ∃ us, ts = us ++ x.rest ∧ DerivesField r us x.value := by
  obtain ⟨e, he, h⟩ := bind_eq_ok.1 h
  obtain ⟨us, hus, derives⟩ := sound (.run .disjunction) ts e he
  split at h
  · next label rest hr =>
    cases h
    refine ⟨us ++ [.name "as", .name label], ?_, .labelled derives⟩
    rw [List.append_assoc, Read.rest_thenPast, Read.rest_one]
    rw [hr] at hus
    exact hus
  · cases h
  · cases h
    exact ⟨us, hus, .bare derives⟩

/-- The fields of a selection are its items. -/
theorem parseSelection_eq_ok {source : String} {r : Resolver} {ts : List Token}
    {fields : List Field} (tokens : tokenize source = .ok ts)
    (h : parseSelection source r = .ok fields) :
    ∀ f ∈ fields, ∃ us, us <:+: ts ∧ DerivesField r us f := by
  obtain ⟨ts', tokens', h⟩ := bind_eq_ok.1 h
  obtain rfl := Except.ok.inj (tokens.symm.trans tokens')
  split at h
  · cases h
    simp
  · obtain ⟨part, parts, htokens, hparts, rfl⟩ :=
      (readsSequence_of_readSequence h).eq_intercalate fun _ _ => readField_eq_ok
    refine List.forall_mem_map.2 fun p hp => ⟨p.1, ?_, hparts p hp⟩
    rw [htokens]
    exact infix_intercalate (List.mem_map_of_mem hp)

/-! ### Names -/

/-- Tokens whose names have no other meaning as keys: none starts with a dollar sign, and
nothing is called by a special name. An operator may stand before a parenthesis. -/
structure Keyable (ts : List Token) : Prop where
  names : ∀ s, .name s ∈ ts → isDollarKey s = false
  callees : ∀ s, [.name s, .sign .open_] <:+: ts → s ∉ keywords → s ∉ specialNames

/-- Tokens inside of others have no more names. -/
theorem Keyable.mono {ts us : List Token} (h : Keyable ts) (hus : us <:+: ts) : Keyable us :=
  ⟨fun s hs => h.names s (hus.subset hs), fun s hs => h.callees s (hs.trans hus)⟩

/-- A path starts as its first name does. -/
theorem isDollarKey_joinWith {s : String} (others : List String) (h : isDollarKey s = false) :
    isDollarKey (joinWith "." (s :: others)) = false := by
  cases others with
  | nil => exact h
  | cons t others =>
    change isDollarKey (s ++ "." ++ joinWith "." (t :: others)) = false
    unfold isDollarKey at h ⊢
    rw [String.append_assoc, String.toList_append, String.toList_append]
    cases hs : s.toList with
    | nil => rfl
    | cons c cs =>
      rw [hs] at h
      exact h

/-- The names of arithmetic are keywords of filters, so no call has one. -/
theorem not_mem_arithNames {s : String} (h : s ∉ keywords) : s ∉ arithNames := by
  have all : arithNames ⊆ keywords := by decide
  exact fun hs => h (all hs)

/-- Turning a comparison around makes no operator that a filter has not. -/
theorem unreserved_compareFacing {s : String} {op : Comparison}
    (hs : (s, op) ∈ comparisonOperators) {d e : Expr} (hd : Everywhere Node.Unreserved (.expr d))
    (he : Everywhere Node.Unreserved (.expr e)) :
    Everywhere Node.Unreserved (.expr (compareFacing op d e)) := by
  obtain ⟨plain, op', mirror, plain'⟩ := exists_mirror_of_mem hs
  unfold compareFacing
  split
  · rw [mirror, Everywhere.compare_iff]
    exact ⟨plain', he, hd⟩
  · exact Everywhere.compare_iff.2 ⟨plain, hd, he⟩

/-- No literal of a filter is an object. -/
theorem Literal.isObj_toJson (l : Literal) : l.toJson.isObj = false := by
  have float (x : Float) : (floatJson x).isObj = false := by
    unfold floatJson
    split
    · rfl
    · split <;> rfl
  cases l <;> first
    | rfl
    | exact float _

/-- **What tokens without names of another meaning derive** has none either. -/
theorem Derives.unreserved {p : Phrase} {ts : List Token} {e : Expr}
    (h : Derives (.expr .identity) p ts e) (names : Keyable ts) :
    Everywhere Node.Unreserved (.expr e) := by
  -- every phrase inside is made of some of the tokens, whose names are unreserved still
  induction h with
  | operand _ ih => exact ih names
  | @joined _ ts us _ _ s op _ _ _ ihl ihr =>
    have left := ihl (names.mono (List.prefix_append _ _).isInfix)
    have behind : us <:+: ts ++ .name s :: us :=
      ((List.suffix_cons _ us).trans (List.suffix_append _ _)).isInfix
    have right := ihr (names.mono behind)
    cases op with
    | connective op =>
      exact (Everywhere.connect_iff (fun _ => rfl) fun _ => trivial).2 ⟨left, right⟩
    | arith op => exact left.unreserved_arithmetic op right
  | @not ts _ _ ih =>
    exact (ih (names.mono (List.suffix_cons _ ts).isInfix)).negate (fun _ => rfl) trivial
  | comparison _ ih => exact ih names
  | sum _ ih => exact ih names
  | @compared ts us _ _ s _ _ hs _ ihl ihr =>
    have behind : us <:+: ts ++ .name s :: us :=
      ((List.suffix_cons _ us).trans (List.suffix_append _ _)).isInfix
    exact unreserved_compareFacing hs (ihl (names.mono (List.prefix_append _ _).isInfix))
      (ihr (names.mono behind))
  | literal l => exact Everywhere.lit_iff.2 l.isObj_toJson
  | @parentheses ts _ _ ih =>
    refine ih (names.mono ?_)
    exact (List.prefix_append ts _).isInfix.trans (List.suffix_cons _ _).isInfix
  | @call s args _ hs _ hx ih =>
    cases hx
    have callee : [Token.name s, .sign .open_] <:+:
        .name s :: .sign .open_ ::
          ([Token.sign .comma].intercalate (args.map Prod.fst) ++ [.sign .close]) :=
      (List.prefix_append [Token.name s, .sign .open_] _).isInfix
    refine Everywhere.call_iff.2 ⟨⟨names.callees s callee hs, not_mem_arithNames hs⟩, ?_⟩
    refine List.forall_mem_map.2 fun a ha => ih a ha (names.mono ?_)
    have inside := infix_intercalate (List.mem_map_of_mem (f := Prod.fst) ha)
    exact (inside.trans (List.prefix_append _ _).isInfix).trans
      (List.suffix_append [Token.name s, .sign .open_] _).isInfix
  | @path s others _ _ _ hx =>
    have first := names.names s (by cases others <;> simp)
    -- the name of the row itself is no segment that a selected field may have
    have apart : s ≠ "$it" := by
      rintro rfl
      cases first
    rw [pathNames, if_neg apart] at hx
    cases hx
    exact Everywhere.member_iff.2 (isDollarKey_joinWith others first)

/-- The expression of a field and its label stand for themselves if the tokens of the field do. -/
theorem DerivesField.unreserved {ts : List Token} {f : Field} (h : DerivesField .identity ts f)
    (names : Keyable ts) : Everywhere Node.Unreserved (.expr f.expr) ∧
      ∀ name, f.label = some name → isDollarKey name = false := by
  cases h with
  | bare h => exact ⟨h.unreserved names, by simp⟩
  | @labelled ts _ label h =>
    refine ⟨h.unreserved (names.mono (List.prefix_append ts _).isInfix), ?_⟩
    rintro _ ⟨⟩
    exact names.names label (by simp)

/-! ### Fields -/

/-- **The fields of a selection that read back** from their objects, where names have no other
meaning as keys: all but constants that are texts, and comparisons without a label that a member
keys. -/
theorem selected_reads_back_iff {source : String} {ts : List Token} {fields : List Field}
    (tokens : tokenize source = .ok ts) (names : Keyable ts)
    (h : parseSelection source .identity = .ok fields) :
    ∀ f ∈ fields, (Field.ofJson f.toJson = .ok f ↔
      (∀ s, f.expr ≠ .lit (.str s)) ∧ (f.label = none → f.expr.isKeyed = false)) := by
  intro f hf
  obtain ⟨us, inside, derives⟩ := parseSelection_eq_ok tokens h f hf
  obtain ⟨unreserved, label⟩ := derives.unreserved (names.mono inside)
  exact Field.ofJson_toJson_iff unreserved.jsonSafe label

/-- A selection of a comparison with a label, a call, and a comparison without a label. -/
def pricedFields : List Field :=
  [⟨.compare (.member "price") .gt (.lit (.int 5)), some "dear"⟩,
   ⟨.call "count" [.member "id"], none⟩,
   ⟨.compare (.member "size") .lt (.lit (.int 3)), none⟩]

/-- The tokens of that selection. -/
def pricedTokens : List Token :=
  [.name "price", .name "gt", .literal (.int 5), .name "as", .name "dear", .sign .comma,
   .name "count", .sign .open_, .name "id", .sign .close, .sign .comma,
   .name "size", .name "lt", .literal (.int 3)]

/-- None of the names in the example has another meaning. -/
theorem keyable_pricedTokens : Keyable pricedTokens := by
  constructor
  · intro s hs
    simp only [pricedTokens, List.mem_cons, Token.name.injEq, reduceCtorEq, List.not_mem_nil,
      or_false, false_or] at hs
    rcases hs with rfl | rfl | rfl | rfl | rfl | rfl | rfl | rfl <;> rfl
  · intro s hs _
    have callee : s = "count" := by
      simpa [pricedTokens, List.infix_cons_iff, List.cons_prefix_cons] using hs
    subst callee
    decide

/-- A labelled comparison reads back, and one without a label does not. -/
theorem pricedFields_read_back :
    (tokenize "price gt 5 as dear, count(id), size lt 3" = .ok pricedTokens ∧
      Keyable pricedTokens ∧
      parseSelection "price gt 5 as dear, count(id), size lt 3" .identity = .ok pricedFields) ∧
    ∀ f ∈ pricedFields, (Field.ofJson f.toJson = .ok f ↔
      (∀ s, f.expr ≠ .lit (.str s)) ∧ (f.label = none → f.expr.isKeyed = false)) := by
  have tokens : tokenize "price gt 5 as dear, count(id), size lt 3" = .ok pricedTokens := by cbv
  have read : parseSelection "price gt 5 as dear, count(id), size lt 3" .identity =
      .ok pricedFields := (parseSequence_eq tokens (List.cons_ne_nil _ _)).trans (by cbv)
  exact ⟨⟨tokens, keyable_pricedTokens, read⟩,
    selected_reads_back_iff tokens keyable_pricedTokens read⟩

/-- A comparison without a label is selected, and its object reads as a constant under the label
of its member. -/
theorem selected_comparison_becomes_label :
    tokenize "price eq 1" = .ok [.name "price", .name "eq", .literal (.int 1)] ∧
    Keyable [.name "price", .name "eq", .literal (.int 1)] ∧
    parseSelection "price eq 1" .identity =
      .ok [⟨.compare (.member "price") .eq (.lit (.int 1)), none⟩] ∧
    Field.ofJson (Field.toJson ⟨.compare (.member "price") .eq (.lit (.int 1)), none⟩) =
      .ok ⟨.lit (.int 1), some "price"⟩ := by
  refine ⟨by cbv, ⟨fun s hs => ?_, fun s hs => ?_⟩, by cbv, ?_⟩
  · simp only [List.mem_cons, Token.name.injEq, reduceCtorEq, List.not_mem_nil, or_false] at hs
    rcases hs with rfl | rfl <;> rfl
  · simp [List.infix_cons_iff, List.cons_prefix_cons] at hs
  · have object : Field.toJson ⟨.compare (.member "price") .eq (.lit (.int 1)), none⟩ =
        single "price" (.int 1) := by
      rw [Field.toJson, labelled, Expr.toJson, Expr.toJson]
      rfl
    rw [object]
    exact Field.ofJson_labelled (Expr.ofJson_lit rfl) (by simp) rfl

end Filter

end Sift
