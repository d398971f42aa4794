import EntityAudit.Proofs.Identifier.Stem

/-!
# `EntityAudit.Proofs.Identifier.Caseless` — punctuation that goes through both spellings

A name without a delimiter is taken apart into words, so nothing but letters is left of it.  A name with
one is only lowercased: whatever else stands in it stays, and both spellings show it as often as the name
does.  For a caseless character this can be counted.

## Contents

* `count_flatten_splitOn` — the pieces of a text
* `Caseless.not_letter` — a caseless character is no ASCII letter
* `count_delimitedChars`, `count_compactChars` — the two spellings
-/

namespace EntityAudit

/-- The pieces of a text have every character but the separator as often as the text. -/
theorem Text.count_flatten_splitOn {sep c : Char} (h : c ≠ sep) (cs : List Char) :
    (cs.splitOn sep).flatten.count c = cs.count c := by
  induction cs with
  | nil => simp
  | cons d rest ih =>
      rw [List.splitOn_cons_eq_if_modifyHead]
      by_cases hd : d = sep
      · rw [hd, beq_self_eq_true, if_pos rfl, List.flatten_cons, List.nil_append, ih,
          List.count_cons_of_ne h.symm]
      · rw [beq_false_of_ne hd, if_neg Bool.false_ne_true]
        obtain ⟨first, others, hsplit⟩ := List.exists_cons_of_ne_nil (List.splitOn_ne_nil sep rest)
        rw [hsplit, List.flatten_cons, List.count_append] at ih
        rw [hsplit, List.modifyHead_cons, List.flatten_cons, List.count_append, List.count_cons,
          List.count_cons]
        omega

open Identifier in
/-- A caseless character is no ASCII letter. -/
theorem Unicode.Caseless.not_letter {c : Char} (h : Caseless c) :
    ¬ (isSmall c = true ∨ isCapital c = true) := by
  rintro (hs | hc)
  · have hself := h.upper_self
    rw [Unicode.upperChar_ascii (toNat_lt_of_isSmall hs)] at hself
    have hcapital := (small_cases hs).2.2
    rw [List.singleton_inj.mp hself] at hcapital
    rw [isSmall_of_isCapital hcapital] at hs
    exact Bool.false_ne_true hs
  · have hself := h.lower_self
    rw [Unicode.lowerChar_ascii (toNat_lt_of_isCapital hc)] at hself
    have hsmall := (capital_cases hc).2
    rw [List.singleton_inj.mp hself, isSmall_of_isCapital hc] at hsmall
    exact Bool.false_ne_true hsmall

namespace Identifier

open Unicode (Caseless)

variable {c : Char}

/-- A name without a delimiter loses its punctuation, and one with a delimiter keeps it. -/
theorem count_delimitedChars (h : Caseless c) (hne : c ≠ delimiter) (cs : List Char) :
    (delimitedChars cs).count c = if delimiter ∈ cs then cs.count c else 0 := by
  unfold delimitedChars
  split
  · exact h.count_lower cs
  · rw [h.count_lower]
    apply List.count_eq_zero_of_not_mem
    intro hmem
    rcases Text.mem_intercalate hmem with hdelim | ⟨w, hw, hc⟩
    · exact hne hdelim
    · exact h.not_letter (((scan_words cs).isWord w hw).letter hc)

theorem count_capitalizeChars (h : Caseless c) (w : List Char) :
    (capitalizeChars w).count c = w.count c := by
  cases w with
  | nil => rfl
  | cons d rest =>
      rw [capitalizeChars, List.count_append, h.count_upperChar, ← List.count_append,
        List.singleton_append]

theorem count_joinPieces (h : Caseless c) (pieces : List (List Char)) :
    (joinPieces pieces).count c = pieces.flatten.count c := by
  have hothers : ∀ others : List (List Char),
      (others.flatMap capitalizeChars).count c = others.flatten.count c := by
    intro others
    induction others with
    | nil => rfl
    | cons w others ih =>
        rw [List.flatMap_cons, List.count_append, count_capitalizeChars h, ih, List.flatten_cons,
          List.count_append]
  cases pieces with
  | nil => rfl
  | cons first others =>
      rw [joinPieces, List.count_append, h.count_lower, hothers, List.flatten_cons, List.count_append]

/-- The compact spelling loses nothing but delimiters. -/
theorem count_compactChars (h : Caseless c) (hne : c ≠ delimiter) (cs : List Char) :
    (compactChars cs).count c = cs.count c := by
  unfold compactChars
  split
  · rw [count_joinPieces h, Text.count_flatten_splitOn hne]
    cases cs with
    | nil => rfl
    | cons d rest =>
        rw [dropLeadingDelimiter]
        split
        · rename_i hd
          rw [hd, List.count_cons_of_ne hne.symm]
        · rfl
  · rfl

end Identifier

end EntityAudit
