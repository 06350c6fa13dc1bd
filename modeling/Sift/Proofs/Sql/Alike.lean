import Sift.Proofs.Sql.Correspondence
import Sift.Proofs.Sql.Literals

/-!
# Texts with one skeleton

Two texts with the same skeleton are the same but for what is in their literals. Such texts may be
put together piece by piece, as long as two literals never touch: the quote that closes the one and
that which opens the other would be read as one quote inside of a literal.

* `Alike`: two texts with the same skeleton; `FirmlyAlike`: in front of anything.
* `alike`: the correspondence of such texts, under which any text constant may stand for any other.
-/

namespace Sift.Sql

open Text

/-- Two texts with the same skeleton. -/
def Alike (s t : String) : Prop := ∃ m, Masks s.toList m ∧ Masks t.toList m

/-- Two texts with the same skeleton in front of anything. -/
def FirmlyAlike (s t : String) : Prop := ∃ m, FirmlyMasks s.toList m ∧ FirmlyMasks t.toList m

section

variable {s t u v : String}

theorem FirmlyAlike.alike (h : FirmlyAlike s t) : Alike s t := by
  obtain ⟨m, hs, ht⟩ := h
  exact ⟨m, hs.masks, ht.masks⟩

theorem Quoteless.firmlyAlike (h : Quoteless s) : FirmlyAlike s s :=
  ⟨_, firmlyMasks_plain h, firmlyMasks_plain h⟩

/-- Any two constants have the same skeleton: that of an empty literal. -/
theorem alike_quoteText (s t : String) : Alike (quoteText s) (quoteText t) := by
  refine ⟨[.literal], ?_, ?_⟩
  all_goals
    rw [quoteText, String.toList_ofList]
    exact masks_quoteChars _

/-- In front of anything, such texts may be put together in any number. -/
theorem FirmlyAlike.append (h : FirmlyAlike s t) (h' : FirmlyAlike u v) :
    FirmlyAlike (s ++ u) (t ++ v) := by
  obtain ⟨m, hs, ht⟩ := h
  obtain ⟨n, hu, hv⟩ := h'
  refine ⟨m ++ n, ?_, ?_⟩ <;> rw [String.toList_append]
  · exact hs.append hu
  · exact ht.append hv

/-- A literal may end what stands last. -/
theorem FirmlyAlike.append_alike (h : FirmlyAlike s t) (h' : Alike u v) :
    Alike (s ++ u) (t ++ v) := by
  obtain ⟨m, hs, ht⟩ := h
  obtain ⟨n, hu, hv⟩ := h'
  refine ⟨m ++ n, ?_, ?_⟩ <;> rw [String.toList_append]
  · exact hs.append_masks hu
  · exact ht.append_masks hv

/-- Plain text behind a literal keeps it apart from what follows. -/
theorem Alike.append_plain (h : Alike s t) (hne : u ≠ "") (hu : Quoteless u) :
    FirmlyAlike (s ++ u) (t ++ u) := by
  obtain ⟨m, hs, ht⟩ := h
  have hne : u.toList ≠ [] := fun h => hne (String.toList_eq_nil_iff.1 h)
  refine ⟨m ++ u.toList.map .char, ?_, ?_⟩ <;> rw [String.toList_append]
  · exact hs.append_plain hne hu
  · exact ht.append_plain hne hu

/-- A skeleton is empty only for the empty text. -/
theorem Alike.isEmpty_eq (h : Alike s t) : s.isEmpty = t.isEmpty := by
  obtain ⟨m, hs, ht⟩ := h
  rw [Bool.eq_iff_iff, String.isEmpty_iff, String.isEmpty_iff, ← String.toList_eq_nil_iff,
    ← String.toList_eq_nil_iff, hs.eq_nil_iff, ht.eq_nil_iff]

end

/-- The correspondence of texts with one skeleton. Every text constant becomes the empty one, which
has the skeleton of any. -/
def alike : Correspondence where
  Rel := Alike
  Firm := FirmlyAlike
  constant := Json.blank
  text := fun _ => ""
  changes := Json.changesTexts_blank
  rel := FirmlyAlike.alike
  neutral h := h.quoteless.firmlyAlike
  append := FirmlyAlike.append_alike
  firm_append := FirmlyAlike.append
  closed h hne hu := h.append_plain hne hu.quoteless
  brackets h := by
    have opening : FirmlyAlike "(" "(" := Quoteless.firmlyAlike (by decide)
    exact (opening.append_alike h).append_plain (by decide) (by decide)
  literal _ _ := alike_quoteText _ _
  isEmpty := Alike.isEmpty_eq

end Sift.Sql
