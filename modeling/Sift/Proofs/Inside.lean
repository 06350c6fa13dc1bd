import Sift.Json.Basic

/-!
# Values inside values

A value holds others at any depth, all of them smaller than it.

* `Inside`: a value inside a value; `Inside.size_lt`: what is no object is smaller than an object
  that it is inside.
* `Inward`: a property of values that passes on to the values inside.
-/

namespace Sift.Json

/-- An item is smaller than the list that it is in. -/
theorem size_lt_of_mem_items {v : Json} {items : List Json} (h : v ∈ items) :
    v.size < sizeItems items := by
  induction items with
  | nil => cases h
  | cons w items ih =>
    rw [sizeItems_cons]
    rcases List.mem_cons.1 h with rfl | h
    · omega
    · have := ih h
      omega

/-- The value of a field is smaller than the fields together. -/
theorem size_lt_of_mem_fields {key : String} {v : Json} {fields : List (String × Json)}
    (h : (key, v) ∈ fields) : v.size < sizeFields fields := by
  induction fields with
  | nil => cases h
  | cons field fields ih =>
    obtain ⟨k, w⟩ := field
    rw [sizeFields_cons]
    rcases List.mem_cons.1 h with h | h
    · cases h
      omega
    · have := ih h
      omega

/-- A value inside a value: the value itself, and what is inside an item or a field of it. -/
inductive Inside (w : Json) : Json → Prop where
  | here : Inside w w
  | item {v : Json} {items : List Json} (h : Inside w v) (mem : v ∈ items) : Inside w (.arr items)
  | field {key : String} {v : Json} {fields : List (String × Json)} (h : Inside w v)
      (mem : (key, v) ∈ fields) : Inside w (.obj fields)

namespace Inside

variable {u v w : Json}

/-- What is inside a value that is inside another is inside that one. -/
theorem trans (huw : u.Inside w) (hwv : w.Inside v) : u.Inside v := by
  induction hwv with
  | here => exact huw
  | item _ mem ih => exact .item ih mem
  | field _ mem ih => exact .field ih mem

/-- What is inside a value is the value itself, or smaller. -/
theorem eq_or_size_lt (h : w.Inside v) : w = v ∨ w.size < v.size := by
  induction h with
  | here => exact .inl rfl
  | item _ mem ih =>
    have := size_lt_of_mem_items mem
    rw [size_arr]
    rcases ih with rfl | ih <;> right <;> omega
  | field _ mem ih =>
    have := size_lt_of_mem_fields mem
    rw [size_obj]
    rcases ih with rfl | ih <;> right <;> omega

/-- What is inside a value is no larger. -/
theorem size_le (h : w.Inside v) : w.size ≤ v.size := by
  rcases h.eq_or_size_lt with rfl | h
  · exact Nat.le_refl _
  · exact Nat.le_of_lt h

/-- **What is no object inside an object** is smaller. -/
theorem size_lt (h : w.Inside v) (object : v.isObj = true) (hw : w.isObj = false) :
    w.size < v.size := by
  rcases h.eq_or_size_lt with rfl | h
  · rw [object] at hw
    cases hw
  · exact h

end Inside

/-- A property of values that passes on to the values inside. -/
structure Inward (S : Json → Prop) : Prop where
  item {v : Json} {items : List Json} (h : S (.arr items)) (mem : v ∈ items) : S v
  field {key : String} {v : Json} {fields : List (String × Json)} (h : S (.obj fields))
    (mem : (key, v) ∈ fields) : S v

/-- Being inside a given value is passed on to the values inside. -/
theorem inward_inside (v : Json) : Inward (Inside · v) where
  item h mem := (Inside.here.item mem).trans h
  field h mem := (Inside.here.field mem).trans h

/-- A value that is looked up is in one of the fields. -/
theorem exists_mem_of_get? {key : String} {fields : List (String × Json)} {v : Json}
    (h : get? key fields = some v) : ∃ k, (k, v) ∈ fields := by
  induction fields with
  | nil => cases h
  | cons field fields ih =>
    obtain ⟨k, w⟩ := field
    unfold get? at h
    split at h
    · cases h
      exact ⟨k, List.mem_cons_self⟩
    · obtain ⟨k', mem⟩ := ih h
      exact ⟨k', List.mem_cons_of_mem _ mem⟩

end Sift.Json
