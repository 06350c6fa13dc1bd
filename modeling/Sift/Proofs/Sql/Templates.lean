import Mathlib.Data.List.Infix
import Sift.Proofs.Scanning
import Sift.Proofs.Sql.Characters

/-!
# Identifiers under a template

A template goes to each longest run of word characters on its own, so a name can be taken apart
wherever it has another character.

* `quoteNameChars_append`: a name in front of what is not a word.
* `WordRun`: a longest run of word characters; `WordRun.quote`: the template goes to it alone.
* `templateParts`: a template around its placeholders; `fill_eq_intercalate`,
  `intercalate_templateParts`, `not_placeholder_of_mem`.
* `filled_of_placeholder`: a template with a placeholder keeps the word.
-/

namespace Sift.Sql

open Text

variable {template : List Char}

/-! ### Names taken apart -/

/-- What is no letter of a word stays outside of the template. -/
theorem quoteNameChars_cons {c : Char} (hc : isWord c = false) (rest : List Char) :
    quoteNameChars template (c :: rest) = c :: quoteNameChars template rest := by
  rw [quoteNameChars, if_neg (by rw [hc]; decide)]

/-- **A name in front of what is not a word**: no run goes across. -/
theorem quoteNameChars_append {rest : List Char} (stop : Follows (!isWord ·) rest)
    (name : List Char) :
    quoteNameChars template (name ++ rest) =
      quoteNameChars template name ++ quoteNameChars template rest := by
  fun_induction quoteNameChars template name with
  | case1 => rfl
  | case2 c cs hc ih =>
    obtain ⟨run, behind⟩ := takeWhile_append_of_stop stop cs
    rw [List.cons_append, quoteNameChars, if_pos hc, run, behind, ih, List.append_assoc]
  | case3 c cs hc ih =>
    rw [List.cons_append, quoteNameChars_cons (Bool.not_eq_true _ ▸ hc), ih, List.cons_append]

/-- A name that ends in no word in front of anything. -/
theorem quoteNameChars_append_of_end {name : List Char}
    (stop : ∀ c, name.getLast? = some c → isWord c = false) (rest : List Char) :
    quoteNameChars template (name ++ rest) =
      quoteNameChars template name ++ quoteNameChars template rest := by
  rcases List.eq_nil_or_concat name with rfl | ⟨front, c, rfl⟩
  · rw [List.nil_append, quoteNameChars, List.nil_append]
  · have hc : isWord c = false := stop c (by simp)
    have ends (behind : List Char) : Follows (!isWord ·) (c :: behind) :=
      follows_cons (by rw [hc]; rfl)
    rw [List.concat_eq_append, List.append_assoc, List.singleton_append,
      quoteNameChars_append (ends rest), quoteNameChars_append (ends []), quoteNameChars_cons hc,
      quoteNameChars_cons hc, quoteNameChars, List.append_assoc, List.singleton_append]

/-- A run of word characters at the front of a name is filled in as a whole. -/
theorem quoteNameChars_run {run rest : List Char} (any : run ≠ [])
    (word : ∀ c ∈ run, isWord c = true) (stop : Follows (!isWord ·) rest) :
    quoteNameChars template (run ++ rest) = fill run template ++ quoteNameChars template rest := by
  rcases run with - | ⟨c, cs⟩
  · exact absurd rfl any
  rw [List.forall_mem_cons] at word
  obtain ⟨taken, left⟩ := takeWhile_append_of_follows word.2 stop (by simp)
  rw [List.cons_append, quoteNameChars, if_pos word.1, taken, left]

/-- A longest run of word characters in a name, with what is in front of it and behind it. -/
structure WordRun (front run behind : List Char) : Prop where
  any : run ≠ []
  word : ∀ c ∈ run, isWord c = true
  starts : ∀ c, front.getLast? = some c → isWord c = false
  ends : Follows (!isWord ·) behind

/-- **A longest run** is filled in where it stands. -/
theorem WordRun.quote {front run behind : List Char} (h : WordRun front run behind) :
    quoteNameChars template (front ++ run ++ behind) =
      quoteNameChars template front ++ fill run template ++ quoteNameChars template behind := by
  rw [List.append_assoc, quoteNameChars_append_of_end h.starts,
    quoteNameChars_run h.any h.word h.ends, List.append_assoc]

/-! ### Templates taken apart -/

/-- A template around its placeholders: what is in front of the first one, between every two and
behind the last. -/
def templateParts : List Char → List (List Char)
  | '$' :: '1' :: rest => [] :: templateParts rest
  | c :: rest => (templateParts rest).modifyHead (c :: ·)
  | [] => [[]]

theorem templateParts_ne_nil (template : List Char) : templateParts template ≠ [] := by
  fun_induction templateParts template with
  | case1 => simp
  | case2 c rest _ ih => simpa using ih
  | case3 => simp

/-- A character in front of the first part is in front of the whole. -/
theorem intercalate_modifyHead {separator : List Char} {c : Char} {ps : List (List Char)}
    (any : ps ≠ []) :
    separator.intercalate (ps.modifyHead (c :: ·)) = c :: separator.intercalate ps := by
  rcases ps with - | ⟨p, - | ⟨q, ps⟩⟩
  · exact absurd rfl any
  · simp
  · simp [List.intercalate_cons_cons]

/-- **A template filled in** is its parts with the word between them, whatever the parts are. -/
theorem fill_eq_intercalate (word template : List Char) :
    fill word template = word.intercalate (templateParts template) := by
  fun_induction templateParts template with
  | case1 rest ih =>
    obtain ⟨p, ps, hp⟩ := List.exists_cons_of_ne_nil (templateParts_ne_nil rest)
    rw [fill, ih, hp, List.intercalate_cons_cons, List.nil_append]
  | case2 c rest other ih =>
    rw [fill, ih, intercalate_modifyHead (templateParts_ne_nil rest)]
    exact other
  | case3 => rw [fill, List.intercalate_singleton]

/-- **The parts of a template** with the placeholder between them are the template. -/
theorem intercalate_templateParts (template : List Char) :
    ['$', '1'].intercalate (templateParts template) = template := by
  rw [← fill_eq_intercalate]
  fun_induction fill ['$', '1'] template with
  | case1 rest ih => rw [ih]; rfl
  | case2 c rest other ih => rw [ih]
  | case3 => rfl

/-- The template begins with its first part. -/
theorem headD_templateParts_begins (template : List Char) :
    (templateParts template).headD [] <+: template := by
  fun_induction templateParts template with
  | case1 => exact List.nil_prefix
  | case2 c rest _ ih =>
    obtain ⟨p, ps, hp⟩ := List.exists_cons_of_ne_nil (templateParts_ne_nil rest)
    rw [hp] at ih ⊢
    exact (List.prefix_cons_inj c).2 ih
  | case3 => exact List.nil_prefix

/-- **No part of a template** holds a placeholder, so every other dollar sign stands in a part. -/
theorem not_placeholder_of_mem {part : List Char} (h : part ∈ templateParts template) :
    ¬ ['$', '1'] <:+: part := by
  fun_induction templateParts template generalizing part with
  | case1 rest ih =>
    rcases List.mem_cons.1 h with rfl | h
    · simp
    · exact ih h
  | case2 c rest other ih =>
    have front := headD_templateParts_begins rest
    obtain ⟨p, ps, hp⟩ := List.exists_cons_of_ne_nil (templateParts_ne_nil rest)
    rw [hp] at h ih front
    rw [List.modifyHead_cons] at h
    rcases List.mem_cons.1 h with rfl | h
    · rw [List.infix_cons_iff]
      rintro (begins | inside)
      -- the part begins as the template does, where there is no placeholder
      · obtain ⟨behind, hb⟩ := begins
        obtain ⟨after, rfl⟩ := front
        cases hb
        exact other _ rfl rfl
      · exact ih List.mem_cons_self inside
    · exact ih (List.mem_cons_of_mem p h)
  | case3 =>
    rw [List.mem_singleton.1 h]
    simp

/-- **A template with a placeholder** keeps what it is filled with. -/
theorem filled_of_placeholder (h : ['$', '1'] <:+: template) :
    ∃ front, ∀ word, ∃ behind, fill word template = front ++ word ++ behind := by
  have whole := intercalate_templateParts template
  have filled (word : List Char) := fill_eq_intercalate word template
  obtain ⟨p, ps, hp⟩ := List.exists_cons_of_ne_nil (templateParts_ne_nil template)
  rw [hp] at whole filled
  rcases ps with - | ⟨q, ps⟩
  · rw [List.intercalate_singleton] at whole
    subst whole
    exact absurd h (not_placeholder_of_mem (by rw [hp]; exact List.mem_singleton_self _))
  · refine ⟨p, fun word => ⟨word.intercalate (q :: ps), ?_⟩⟩
    rw [filled, List.intercalate_cons_cons]

/-- Where a search succeeds, the text searched for is there. -/
theorem placeholder_of_indexOf? {needle cs : List Char} (h : (indexOf? needle cs).isSome) :
    needle <:+: cs := by
  fun_induction indexOf? needle cs with
  | case1 empty => rw [List.isEmpty_iff.1 empty]
  | case2 => cases h
  | case3 c cs begins =>
    have front : needle <+: c :: cs := List.isPrefixOf_iff_prefix.1 begins
    exact front.isInfix
  | case4 c cs _ ih =>
    rw [Option.isSome_map] at h
    exact (ih h).trans (List.suffix_cons c cs).isInfix

end Sift.Sql
