import Sift.Proofs.Object.Safe

/-!
# Expression objects read back

What is read from the object of an expression, construct by construct, where the objects of its
parts read back.

* `Expr.ofJson_lit` and its kin: one statement per construct.
* `decodeComparison_comparisonPart`: a comparison with a left side that is known.
-/

namespace Sift

/-! ### Keys -/

theorem toList_dollar (name : String) : ("$" ++ name).toList = '$' :: name.toList := by
  rw [String.toList_append]; rfl

theorem dollar_inj {a b : String} (h : "$" ++ a = "$" ++ b) : a = b := by
  have h := congrArg String.toList h
  rw [toList_dollar, toList_dollar, List.cons.injEq] at h
  exact String.toList_inj.1 h.2

theorem dollarName?_dollar (name : String) : dollarName? ("$" ++ name) = some name := by
  unfold dollarName?
  rw [toList_dollar]
  simp

/-- Keys without a dollar sign name nothing. -/
theorem dollarName?_eq_none {key : String} (h : isDollarKey key = false) :
    dollarName? key = none := by
  unfold dollarName?
  unfold isDollarKey at h
  split
  · next name hn => rw [hn] at h; simp at h
  · rfl

/-- Keys with one are the sign in front of a name. -/
theorem dollarName?_eq_some {key : String} (h : isDollarKey key = true) :
    ∃ name, dollarName? key = some name := by
  unfold dollarName?
  unfold isDollarKey at h
  cases hk : key.toList with
  | nil => rw [hk] at h; simp at h
  | cons c cs =>
    rw [hk] at h
    simp at h
    subst h
    exact ⟨_, rfl⟩

theorem Comparison.ofKey?_key (op : Comparison) : ofKey? op.key = some op := by cases op <;> rfl

/-- A comparison is found under its own key only. -/
theorem Comparison.eq_key_of_ofKey? {key : String} {op : Comparison} (h : ofKey? key = some op) :
    key = op.key := by
  unfold ofKey? at h
  split at h <;> cases h <;> rfl

theorem Connective.ofKey?_key (op : Connective) : ofKey? op.key = some op := by cases op <;> rfl

/-- A connective is found under its own key only. -/
theorem Connective.eq_key_of_ofKey? {key : String} {op : Connective} (h : ofKey? key = some op) :
    key = op.key := by
  unfold ofKey? at h
  split at h <;> cases h <;> rfl

theorem Arith.ofName?_name (op : Arith) : ofName? op.name = some op := by cases op <;> rfl

/-- What is read as an operation has the name of one. -/
theorem Arith.mem_arithNames_of_ofName? {name : String} {op : Arith} (h : ofName? name = some op) :
    name ∈ arithNames := by
  unfold ofName? at h
  split at h <;> simp [arithNames] at h ⊢

/-- The keys of comparisons are reserved names, so no call has one of them. -/
theorem Comparison.exists_reserved :
    ∀ op : Comparison, ∃ name ∈ reservedNames, op.key = "$" ++ name
  | .eq => ⟨"eq", by decide, rfl⟩
  | .ne => ⟨"ne", by decide, rfl⟩
  | .lt => ⟨"lt", by decide, rfl⟩
  | .le => ⟨"lte", by decide, rfl⟩
  | .gt => ⟨"gt", by decide, rfl⟩
  | .ge => ⟨"gte", by decide, rfl⟩
  | .isIn => ⟨"in", by decide, rfl⟩
  | .notIn => ⟨"nin", by decide, rfl⟩

/-- Those of connectives are reserved too. -/
theorem Connective.exists_reserved :
    ∀ op : Connective, ∃ name ∈ reservedNames, op.key = "$" ++ name
  | .and => ⟨"and", by decide, rfl⟩
  | .or => ⟨"or", by decide, rfl⟩

/-- A name that is not reserved is no key of a comparison. -/
theorem Comparison.ofKey?_dollar {name : String} (h : name ∉ reservedNames) :
    ofKey? ("$" ++ name) = none := by
  cases hk : ofKey? ("$" ++ name) with
  | none => rfl
  | some op =>
    obtain ⟨word, hw, hop⟩ := op.exists_reserved
    have : name = word := dollar_inj ((eq_key_of_ofKey? hk).trans hop)
    exact absurd (this ▸ hw) h

/-- A name that is not reserved is no key of a connective. -/
theorem Connective.ofKey?_dollar {name : String} (h : name ∉ reservedNames) :
    ofKey? ("$" ++ name) = none := by
  cases hk : ofKey? ("$" ++ name) with
  | none => rfl
  | some op =>
    obtain ⟨word, hw, hop⟩ := op.exists_reserved
    have : name = word := dollar_inj ((eq_key_of_ofKey? hk).trans hop)
    exact absurd (this ▸ hw) h

/-! ### Objects of queries -/

/-- An object has a key just where an entry of it has. -/
theorem Json.hasKey_iff_mem {key : String} {fields : List (String × Json)} :
    hasKey key fields = true ↔ ∃ v, (key, v) ∈ fields := by
  unfold hasKey
  induction fields with
  | nil => simp [get?]
  | cons field fields ih =>
    obtain ⟨k, w⟩ := field
    rw [get?]
    by_cases h : k = key
    · subst h
      simp
    · rw [if_neg (by simpa using h), ih]
      simp [Ne.symm h]

/-- The names of the clauses by which an object is a query's. -/
def queryNames : List String := ["select", "insert", "update", "delete", "collection"]

/-- An object is a query if one of its keys is the name of a clause. -/
theorem isQueryObject_iff {fields : List (String × Json)} :
    isQueryObject fields = true ↔ ∃ name ∈ queryNames, ∃ v, ("$" ++ name, v) ∈ fields := by
  have keys : ["$select", "$insert", "$update", "$delete", "$collection"] =
      queryNames.map ("$" ++ ·) := rfl
  rw [isQueryObject, keys, List.any_map, List.any_eq_true]
  simp only [Function.comp_apply, Json.hasKey_iff_mem]

/-- Clause names are reserved, so objects of calls are no queries. -/
theorem mem_reservedNames_of_mem_queryNames {name : String} (h : name ∈ queryNames) :
    name ∈ reservedNames := by
  simp only [queryNames, List.mem_cons, List.not_mem_nil, or_false] at h
  rcases h with rfl | rfl | rfl | rfl | rfl <;> decide

/-- An object under the name of a member is an expression. -/
theorem isQueryObject_single_of_key {key : String} (h : isDollarKey key = false) (v : Json) :
    isQueryObject [(key, v)] = false := by
  rw [← Bool.not_eq_true, isQueryObject_iff]
  rintro ⟨name, -, w, hw⟩
  have hk : key = "$" ++ name := congrArg Prod.fst (List.mem_singleton.1 hw).symm
  rw [hk, isDollarKey, toList_dollar] at h
  simp at h

/-- So is one under a name that is not a clause's. -/
theorem isQueryObject_single_of_name {name : String} (h : name ∉ queryNames) (v : Json) :
    isQueryObject [("$" ++ name, v)] = false := by
  rw [← Bool.not_eq_true, isQueryObject_iff]
  rintro ⟨other, ho, w, hw⟩
  have hk : name = other := dollar_inj (congrArg Prod.fst (List.mem_singleton.1 hw).symm)
  exact h (hk ▸ ho)

/-! ### Constants and objects of one entry -/

/-- Whatever is no object is a constant of itself. -/
theorem Expr.ofJson_lit {v : Json} (h : v.isObj = false) : Expr.ofJson v = .ok (.lit v) := by
  cases v
  case obj fields => simp [Json.isObj] at h
  all_goals rw [Expr.ofJson]; intro fields hv; cases hv

/-- An object of one entry that is no query is read by its entry. -/
theorem Expr.ofJson_single {key : String} {v : Json} (h : isQueryObject [(key, v)] = false) :
    Expr.ofJson (single key v) = decodeEntry key v := by
  rw [single, Expr.ofJson, decodeObject, h]
  rfl

theorem Expr.ofJson_dollar {name : String} (h : name ∉ queryNames) (v : Json) :
    Expr.ofJson (single ("$" ++ name) v) = decodeEntry ("$" ++ name) v :=
  Expr.ofJson_single (isQueryObject_single_of_name h v)

/-- A name that is no operator's keys a function. -/
theorem decodeEntry_function {name : String} (h : name ∉ reservedNames) (items : List Json) :
    decodeEntry ("$" ++ name) (.arr items) = decodeFunction name (.arr items) := by
  unfold decodeEntry
  rw [dollarName?_dollar]
  have hnot : name ≠ "not" := fun e => h (e ▸ by decide)
  split
  · next hn => cases hn
  · next hn => cases hn; rfl
  · next hn => cases hn; exact absurd rfl hnot
  · next other _ _ hn =>
    cases hn
    rw [Connective.ofKey?_dollar h, Comparison.ofKey?_dollar h]

/-! ### Constructs of parts that read back -/

/-- A list reads back if its elements do. -/
theorem decodeExprs_encodeExprs {es : List Expr} (ih : ∀ e ∈ es, Expr.ofJson e.toJson = .ok e) :
    decodeExprs (encodeExprs es) = .ok es := by
  induction es with
  | nil => rw [encodeExprs, decodeExprs]
  | cons e es ihs =>
    have he := ih e List.mem_cons_self
    have hes := ihs fun d hd => ih d (List.mem_cons_of_mem e hd)
    rw [encodeExprs, decodeExprs, he, hes]
    rfl

/-- A name stands for a call unless it is an operation's and has two operands. -/
theorem functionExpr_call {name : String} {args : List Expr}
    (h : name ∈ arithNames → args.length ≠ 2) : functionExpr name args = .call name args := by
  unfold functionExpr
  split
  · next op hop => exact absurd rfl (h (Arith.mem_arithNames_of_ofName? hop))
  · rfl

/-- The name of an operation stands for it where it has two operands. -/
theorem functionExpr_arith (op : Arith) (l r : Expr) :
    functionExpr op.name [l, r] = .arith l op r := by
  unfold functionExpr
  rw [Arith.ofName?_name]

theorem Arith.name_not_mem_reservedNames (op : Arith) : op.name ∉ reservedNames := by
  cases op <;> decide

namespace Expr

theorem ofJson_member (path : String) : ofJson (Expr.member path).toJson = .ok (.member path) := by
  rw [toJson, ofJson_single (by rfl)]
  unfold decodeEntry
  rfl

/-- A connective is told from a comparison and a call by its key. -/
theorem ofJson_logical (op : Connective) {es : List Expr}
    (ih : ∀ e ∈ es, ofJson e.toJson = .ok e) :
    ofJson (Expr.logical op es).toJson = .ok (.logical op es) := by
  rw [toJson]
  -- the key decides which clause of the decoder it is, and so the connective comes first
  cases op
  all_goals
    rw [ofJson_single (by rfl)]
    unfold decodeEntry
  · rw [show dollarName? Connective.and.key = some "and" from rfl]
    simp only [Connective.ofKey?_key, decodeExprs_encodeExprs ih]
    rfl
  · rw [show dollarName? Connective.or.key = some "or" from rfl]
    simp only [Connective.ofKey?_key, decodeExprs_encodeExprs ih]
    rfl

/-- A negation has a reserved name and one operand. -/
theorem ofJson_not {e : Expr} (ih : ofJson e.toJson = .ok e) :
    ofJson (Expr.not e).toJson = .ok (.not e) := by
  rw [toJson, ofJson_single (by rfl)]
  unfold decodeEntry
  rw [show dollarName? "$not" = some "not" from rfl]
  simp only [ih]
  rfl

/-- A call reads back when its name is none of the reserved ones, and is not an operation on two
operands. -/
theorem ofJson_call {name : String} {args : List Expr} (h : (Expr.call name args).JsonSafe)
    (ih : ∀ e ∈ args, ofJson e.toJson = .ok e) :
    ofJson (Expr.call name args).toJson = .ok (.call name args) := by
  have hq : name ∉ queryNames := fun hn => h.1 (mem_reservedNames_of_mem_queryNames hn)
  rw [toJson, ofJson_dollar hq, decodeEntry_function h.1, decodeFunction,
    decodeExprs_encodeExprs ih]
  exact congrArg Except.ok (functionExpr_call h.2)

/-- An operation has the form of a call and is told from one by name and count. -/
theorem ofJson_arith (op : Arith) {l r : Expr} (hl : ofJson l.toJson = .ok l)
    (hr : ofJson r.toJson = .ok r) :
    ofJson (Expr.arith l op r).toJson = .ok (.arith l op r) := by
  have hn := op.name_not_mem_reservedNames
  have hq : op.name ∉ queryNames := fun h => hn (mem_reservedNames_of_mem_queryNames h)
  have ih : ∀ e ∈ [l, r], ofJson e.toJson = .ok e := by simp [hl, hr]
  have items : [l.toJson, r.toJson] = encodeExprs [l, r] := by simp only [encodeExprs]
  rw [toJson, Arith.key, ofJson_dollar hq, decodeEntry_function hn, decodeFunction, items,
    decodeExprs_encodeExprs ih]
  exact congrArg Except.ok (functionExpr_arith op l r)

/-- A comparison that no member keys is written with both sides. -/
theorem toJson_compare {l : Expr} (op : Comparison) (r : Expr) (h : l.keyMember? = none) :
    (Expr.compare l op r).toJson = single op.key (.arr [l.toJson, r.toJson]) := by
  unfold keyMember? at h
  split at h <;> cases h
  rw [toJson] <;> assumption

/-- Where the left side is no member that the object could be keyed by, a comparison has a list of
two sides. -/
theorem ofJson_compare {l : Expr} (op : Comparison) {r : Expr} (h : l.keyMember? = none)
    (hl : ofJson l.toJson = .ok l) (hr : ofJson r.toJson = .ok r) :
    ofJson (Expr.compare l op r).toJson = .ok (.compare l op r) := by
  rw [toJson_compare op r h]
  cases op
  all_goals
    rw [ofJson_single (by rfl)]
    unfold decodeEntry
    simp only [Comparison.key, hl, hr]
    rfl

end Expr

/-! ### Comparisons under a member -/

/-- An object of one entry under a left side is what the entry says of it. -/
theorem decodeComparison_single {l : Expr} {key : String} {v : Json}
    (hq : isQueryObject [(key, v)] = false) (hname : key ≠ "$name") :
    decodeComparison l (single key v) = decodeComparisonEntry l key v := by
  have hn : Json.hasKey "$name" [(key, v)] = false := by
    simp [Json.hasKey, Json.get?, hname]
  rw [single, decodeComparison]
  simp only [List.isEmpty_cons, Bool.false_eq_true, if_false, hq, hn, Bool.and_false,
    Bool.or_false, decodeComparisons]
  cases decodeComparisonEntry l key v <;> rfl

/-- A value alone under a member is compared for equality. -/
theorem decodeComparison_bare (l : Expr) {v : Json} (h : v.isObj = false) :
    decodeComparison l v = .ok (.compare l .eq (.lit v)) := by
  cases v
  case obj fields => simp [Json.isObj] at h
  all_goals rw [decodeComparison]; intro fields hv; cases hv

/-- Under a member, the key of a comparison stands for it with the right side behind the key, if
that is a set wherever a set is asked for. -/
theorem decodeComparisonEntry_key (l : Expr) (op : Comparison) {v : Json}
    (hset : op = .isIn ∨ op = .notIn → isSet v = true) :
    decodeComparisonEntry l op.key v = do return .compare l op (← Expr.ofJson v) := by
  obtain ⟨name, -, hkey⟩ := op.exists_reserved
  unfold decodeComparisonEntry
  rw [hkey, dollarName?_dollar, ← hkey]
  simp only [Comparison.ofKey?_key]
  rw [if_neg]
  rintro ⟨hop, hv⟩
  rw [hset hop] at hv
  simp at hv

/-- **A left side compared** with what is written for a comparison. -/
theorem decodeComparison_comparisonPart (l : Expr) (op : Comparison) {r : Expr}
    (hr : Expr.ofJson r.toJson = .ok r) (hset : op = .isIn ∨ op = .notIn → isSet r.toJson = true) :
    decodeComparison l (comparisonPart op r r.toJson) = .ok (.compare l op r) := by
  have keyed : decodeComparison l (single op.key r.toJson) = .ok (.compare l op r) := by
    obtain ⟨name, -, hkey⟩ := op.exists_reserved
    rw [decodeComparison_single (by cases op <;> rfl) (by cases op <;> decide),
      decodeComparisonEntry_key l op hset, hr]
    rfl
  -- equality with a constant is written as the constant alone, if that reads back so
  unfold comparisonPart
  split
  · next v =>
    split
    · exact keyed
    · next h =>
      rw [Bool.or_eq_true, not_or] at h
      rw [Expr.toJson]
      exact decodeComparison_bare l (by simpa using h.2)
  · exact keyed

/-- What is written for a comparison is no array. -/
theorem isArr_comparisonPart (op : Comparison) (r : Expr) :
    (comparisonPart op r r.toJson).isArr = false := by
  unfold comparisonPart
  split
  · next v =>
    split
    · rfl
    · next h =>
      rw [Bool.or_eq_true, not_or] at h
      rw [Expr.toJson]
      simpa using h.1
  · rfl

/-- The comparison stands behind the arguments of the function that is applied to the member. -/
theorem decodeApplied_append {key name : String} {part : Json} (args : List Expr) {es : List Expr}
    (ih : ∀ e ∈ es, Expr.ofJson e.toJson = .ok e) :
    decodeApplied key name args (encodeExprs es ++ [part]) =
      decodeComparison (functionExpr name (args ++ es)) part := by
  -- the arguments that were read are carried along, and what stands last is the comparison
  induction es generalizing args with
  | nil => rw [encodeExprs, List.nil_append, decodeApplied, List.append_nil]
  | cons e es ihs =>
    have he := ih e List.mem_cons_self
    have hes := ihs (args ++ [e]) fun d hd => ih d (List.mem_cons_of_mem e hd)
    obtain ⟨w, items, hitems⟩ : ∃ w items, encodeExprs es ++ [part] = w :: items := by
      cases encodeExprs es <;> simp
    rw [encodeExprs, List.cons_append, hitems, decodeApplied, he, ← hitems]
    simp only [List.append_assoc, List.cons_append, List.nil_append] at hes
    exact hes

/-- A function of a member, compared: its further arguments stand before the comparison. -/
theorem decodeComparisonEntry_function {l : Expr} {name : String} {part : Json} {es : List Expr}
    (hname : name ∉ reservedNames) (hspecial : name ∉ ["text", "regex"])
    (hpart : part.isArr = false) (ih : ∀ e ∈ es, Expr.ofJson e.toJson = .ok e) :
    decodeComparisonEntry l ("$" ++ name) (withArguments (encodeExprs es) part) =
      decodeComparison (functionExpr name (l :: es)) part := by
  unfold decodeComparisonEntry
  rw [dollarName?_dollar]
  simp only [Comparison.ofKey?_dollar hname]
  split
  · exact absurd (by decide) hspecial
  · exact absurd (by decide) hspecial
  · cases es with
    | nil =>
      -- without further arguments the comparison stands alone, where an array would be a list
      rw [encodeExprs, withArguments, List.isEmpty_nil, if_pos rfl]
      split
      · next items => simp [Json.isArr] at hpart
      · rfl
    | cons e es =>
      rw [withArguments, if_neg (by rw [encodeExprs]; simp)]
      exact decodeApplied_append [l] ih

/-- A key without a dollar sign is the path of a member that is compared. -/
theorem decodeEntry_member {path : String} (h : isDollarKey path = false) (v : Json) :
    decodeEntry path v = decodeComparison (.member path) v := by
  unfold decodeEntry
  rw [dollarName?_eq_none h]

namespace Expr

section

variable {path : String} {op : Comparison} {r : Expr} (hkey : isDollarKey path = false)
  (hr : ofJson r.toJson = .ok r) (hset : op = .isIn ∨ op = .notIn → isSet r.toJson = true)

include hkey hr hset

/-- The simplest comparison: its key is the path itself. -/
theorem ofJson_compare_member :
    ofJson (Expr.compare (.member path) op r).toJson = .ok (.compare (.member path) op r) := by
  rw [toJson, ofJson_single (isQueryObject_single_of_key hkey _), decodeEntry_member hkey,
    decodeComparison_comparisonPart _ op hr hset]

/-- A function of a member, compared, reads back where its name and arguments make that
function again. -/
theorem ofJson_function {l : Expr} {name : String} {es : List Expr} (hname : name ∉ reservedNames)
    (hspecial : name ∉ ["name", "text", "regex"])
    (hl : functionExpr name (.member path :: es) = l) (ih : ∀ e ∈ es, ofJson e.toJson = .ok e) :
    ofJson (single path (single ("$" ++ name)
      (withArguments (encodeExprs es) (comparisonPart op r r.toJson)))) =
        .ok (.compare l op r) := by
  have hq : name ∉ queryNames := fun h => hname (mem_reservedNames_of_mem_queryNames h)
  rw [List.mem_cons, not_or] at hspecial
  rw [ofJson_single (isQueryObject_single_of_key hkey _), decodeEntry_member hkey,
    decodeComparison_single (isQueryObject_single_of_name hq _)
      (fun h => hspecial.1 (dollar_inj (b := "name") h)),
    decodeComparisonEntry_function hname hspecial.2 (isArr_comparisonPart op r) ih, hl,
    decodeComparison_comparisonPart _ op hr hset]

/-- A call on a member is written under the member; three names have a short form of their own
there, and are left to other lemmas. -/
theorem ofJson_compare_call {name : String} {args : List Expr}
    (hcall : (Expr.call name (.member path :: args)).JsonSafe)
    (hspecial : name ∉ ["name", "text", "regex"]) (ih : ∀ e ∈ args, ofJson e.toJson = .ok e) :
    ofJson (Expr.compare (.call name (.member path :: args)) op r).toJson =
      .ok (.compare (.call name (.member path :: args)) op r) := by
  rw [toJson]
  exact ofJson_function hkey hr hset hcall.1 hspecial (functionExpr_call hcall.2) ih

/-- An operation on a member is written like a call of its name. -/
theorem ofJson_compare_arith (a : Arith) {operand : Expr}
    (ih : ofJson operand.toJson = .ok operand) :
    ofJson (Expr.compare (.arith (.member path) a operand) op r).toJson =
      .ok (.compare (.arith (.member path) a operand) op r) := by
  have items : [operand.toJson] = encodeExprs [operand] := by simp only [encodeExprs]
  rw [toJson, Arith.key, items]
  exact ofJson_function hkey hr hset a.name_not_mem_reservedNames (by cases a <;> decide)
    (functionExpr_arith a _ _) (by simpa using ih)

end

end Expr

end Sift
