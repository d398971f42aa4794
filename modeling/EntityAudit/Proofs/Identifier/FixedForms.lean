import EntityAudit.Proofs.Identifier.RoundTrip

/-!
# `EntityAudit.Proofs.Identifier.FixedForms` — the names that are their own delimited form

The delimited form of a form may be taken in another way than that of the name: the join of words brings
delimiters in, and a text that has one is only lowercased.  Both ways leave a form as it is, since a text
in lowercase stays so wherever its sigmas stand, and a form without a delimiter is a single small word, or
empty.

## Contents

* `delimiter_mem_lower`, `lower_delimitedChars` — forms are in lowercase and keep their delimiters
* `isSmallWord_of_mem_lowered`, `delimitedChars_eq_nil_iff` — words in lowercase, and the names without any
* `delimitedChars_eq_self_iff` — which names are their own form
* `delimited_delimited` — every form is its own form
-/

namespace EntityAudit.Identifier

variable {cs : List Char}

/-- A text in lowercase keeps its delimiters. -/
theorem delimiter_mem_lower (h : delimiter ∈ cs) : delimiter ∈ Unicode.lower cs := by
  rw [← List.count_pos_iff] at h ⊢
  rwa [delimiter, Unicode.caseless_underscore.count_lower]

/-- The delimited form stays as it is in lowercase. -/
theorem lower_delimitedChars (cs : List Char) : Unicode.lower (delimitedChars cs) = delimitedChars cs := by
  obtain ⟨text, htext⟩ := delimitedChars_eq_lower cs
  rw [htext, Unicode.lower_lower]

/-- The words of a text are small words in lowercase. -/
theorem isSmallWord_of_mem_lowered {w : List Char} (h : w ∈ (words cs).map Unicode.lower) :
    IsSmallWord w := by
  obtain ⟨v, hv, rfl⟩ := List.mem_map.mp h
  exact ((scan_words cs).isWord v hv).isSmallWord_lower.1

/-- Joined words are empty only if there is none of them. -/
theorem intercalate_words_eq_nil_iff :
    [delimiter].intercalate ((words cs).map Unicode.lower) = [] ↔ words cs = [] := by
  constructor
  · intro h
    cases hwords : (words cs).map Unicode.lower with
    | nil => exact List.map_eq_nil_iff.mp hwords
    | cons w ws =>
        have hw : IsSmallWord w := isSmallWord_of_mem_lowered (hwords ▸ List.mem_cons_self)
        rw [hwords, Text.intercalate_cons] at h
        exact absurd (List.append_eq_nil_iff.mp h).1 hw.1
  · intro h
    rw [h]
    rfl

/-- **A form is empty exactly if the name has neither a delimiter nor a small letter.** -/
theorem delimitedChars_eq_nil_iff :
    delimitedChars cs = [] ↔ delimiter ∉ cs ∧ ∀ c ∈ cs, isSmall c = false := by
  by_cases hdelim : delimiter ∈ cs
  · rw [delimitedChars, if_pos hdelim]
    have hne : Unicode.lower cs ≠ [] := List.ne_nil_of_mem (delimiter_mem_lower hdelim)
    exact ⟨fun h => absurd h hne, fun h => absurd hdelim h.1⟩
  · rw [delimitedChars_eq_intercalate hdelim, intercalate_words_eq_nil_iff, words_eq_nil_iff,
      List.any_eq_false]
    exact ⟨fun h => ⟨hdelim, fun c hc => Bool.eq_false_iff.mpr (h c hc)⟩,
      fun h c hc => Bool.eq_false_iff.mp (h.2 c hc)⟩

/-- A form without a delimiter is empty or a single small word. -/
theorem delimitedChars_of_delimiter_notMem (h : delimiter ∉ delimitedChars cs) :
    delimitedChars cs = [] ∨ IsSmallWord (delimitedChars cs) := by
  have hdelim : delimiter ∉ cs := by
    intro hmem
    rw [delimitedChars, if_pos hmem] at h
    exact h (delimiter_mem_lower hmem)
  rw [delimitedChars_eq_intercalate hdelim] at h ⊢
  cases hwords : (words cs).map Unicode.lower with
  | nil => exact Or.inl rfl
  | cons w ws =>
      cases ws with
      | nil =>
          rw [List.intercalate_singleton]
          exact Or.inr (isSmallWord_of_mem_lowered (hwords ▸ List.mem_cons_self))
      | cons v vs =>
          -- The join of two words has a delimiter.
          rw [hwords, List.intercalate_cons_cons] at h
          exact absurd (List.mem_append_left _ (List.mem_append_right w List.mem_cons_self)) h

/-- A small word is its only word. -/
theorem delimitedChars_smallWord (h : IsSmallWord cs) : delimitedChars cs = cs := by
  have hnone : ∀ v ∈ ([] : List (List Char)), IsCapitalized v := fun v hv => absurd hv List.not_mem_nil
  have hdelim := delimiter_notMem_compactName h hnone
  have hwords := words_compactName h hnone
  rw [List.flatten_nil, List.append_nil] at hdelim hwords
  rw [delimitedChars_eq_intercalate hdelim, hwords, List.map_singleton, List.intercalate_singleton,
    h.lower_eq_self]

/-- **The names that are their own delimited form** are the texts in lowercase that have a delimiter, the small
words, and the empty one. -/
theorem delimitedChars_eq_self_iff :
    delimitedChars cs = cs ↔ (delimiter ∈ cs ∧ Unicode.lower cs = cs) ∨ cs = [] ∨ IsSmallWord cs := by
  constructor
  · intro h
    by_cases hdelim : delimiter ∈ cs
    · exact Or.inl ⟨hdelim, by rw [← h, lower_delimitedChars]⟩
    · have hform := delimitedChars_of_delimiter_notMem (h.symm ▸ hdelim)
      rw [h] at hform
      exact Or.inr hform
  · rintro (⟨hdelim, hlower⟩ | rfl | hsmall)
    · rw [delimitedChars, if_pos hdelim, hlower]
    · rfl
    · exact delimitedChars_smallWord hsmall

/-- **Every delimited form is its own delimited form.** -/
theorem delimited_delimited (s : String) : delimited (delimited s) = delimited s := by
  rw [← String.toList_inj, toList_delimited, toList_delimited, delimitedChars_eq_self_iff]
  by_cases hdelim : delimiter ∈ delimitedChars s.toList
  · exact Or.inl ⟨hdelim, lower_delimitedChars s.toList⟩
  · exact Or.inr (delimitedChars_of_delimiter_notMem hdelim)

end EntityAudit.Identifier
