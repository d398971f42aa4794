import EntityAudit.Proofs.Identifier.Stem

/-!
# `EntityAudit.Proofs.Identifier.Initial` — a first character in uppercase stays as it is

The uppercase image of a character may have several characters, of which the first one is its own image.
So a text whose first character was put in uppercase keeps it when this is done once more.  The compact
spelling of a delimited form leaves only its first piece uncapitalized; with its first character in
uppercase it is the pieces side by side, all of them capitalized, wherever the delimiters stand.

## Contents

* `upperShifts_apart`, `upperSpecial_apart` — no image is mapped again
* `exists_upperChar` — the first character of an uppercase image
* `capitalizeChars_append`, `capitalizeChars_flatMap` — capitalizing once more
* `capitalizeChars_compactChars` — the compact spelling with its first character in uppercase
-/

namespace EntityAudit

/-! ## First characters of images -/

namespace Unicode

/-- The characters with longer uppercase images, as runs. -/
def upperKeys : List Shift := upperSpecial.map fun row => ⟨row.1, row.1, 1, 0⟩

/-- No image of a run of the uppercase table is in a row of the tables again. -/
theorem upperShifts_apart :
    (upperShifts.all fun s => s.lands && (upperKeys ++ upperShifts).all s.apart) = true := by
  decide +kernel

/-- Whether a longer image begins with a character that no row of the tables has. -/
def beginsApart : List Nat → Bool
  | [] => false
  | n :: _ => Nat.blt n 0xD800 && (upperKeys ++ upperShifts).all fun t => !t.covers n

theorem upperSpecial_apart : (upperSpecial.all fun row => beginsApart row.2) = true := by
  decide +kernel

/-- A character whose code point no row of the uppercase tables has is its own uppercase image. -/
theorem upperChar_eq_self {c : Char} (h : ∀ t ∈ upperKeys ++ upperShifts, t.covers c.toNat = false) :
    upperChar c = [c] := by
  have hlookup : upperSpecial.lookup c.toNat = none := by
    rw [List.lookup_eq_none_iff]
    intro row hrow
    have hkey := h ⟨row.1, row.1, 1, 0⟩ (List.mem_append_left _ (List.mem_map_of_mem hrow))
    rw [Bool.eq_false_iff, ne_eq, Shift.covers_iff] at hkey
    rw [bne_iff_ne]
    intro heq
    exact hkey ⟨Nat.le_of_eq heq.symm, Nat.le_of_eq heq, Nat.mod_one _⟩
  have hshift : shifted c.toNat upperShifts = c.toNat :=
    shifted_eq_self fun t ht => h t (List.mem_append_right _ ht)
  rw [upperChar, image, hlookup, hshift, Char.ofNat_toNat]

/-- **The uppercase image of a character begins with a character that is its own uppercase image.** -/
theorem exists_upperChar (c : Char) : ∃ d rest, upperChar c = d :: rest ∧ upperChar d = [d] := by
  cases hrow : upperSpecial.lookup c.toNat with
  | some points =>
      -- A longer image: its first character is in no row.
      have himage : upperChar c = points.map Char.ofNat := by rw [upperChar, image, hrow]
      obtain ⟨before, after, hsplit, -⟩ := List.lookup_eq_some_iff.mp hrow
      have hmem : (c.toNat, points) ∈ upperSpecial := by
        rw [hsplit]
        exact List.mem_append_right before List.mem_cons_self
      have hbegins := List.all_eq_true.mp upperSpecial_apart _ hmem
      cases points with
      | nil => exact absurd hbegins Bool.false_ne_true
      | cons n rest =>
          obtain ⟨hvalid, hapart⟩ := Bool.and_eq_true_iff.mp hbegins
          have hn : (Char.ofNat n).toNat = n := by
            rw [Char.ofNat, dif_pos (Or.inl (Nat.blt_eq.mp hvalid))]
            rfl
          refine ⟨Char.ofNat n, rest.map Char.ofNat, himage, upperChar_eq_self fun t ht => ?_⟩
          rw [hn]
          simpa using List.all_eq_true.mp hapart t ht
  | none =>
      have himage : upperChar c = [Char.ofNat (shifted c.toNat upperShifts)] := by
        rw [upperChar, image, hrow]
      refine ⟨_, [], himage, ?_⟩
      rcases shifted_cases c.toNat upperShifts with hstay | ⟨s, hs, hcov, hmove⟩
      · rw [hstay, Char.ofNat_toNat] at himage ⊢
        exact himage
      · -- A run takes it out of the tables, and what is in no row stays.
        obtain ⟨hlands, hapart⟩ := Bool.and_eq_true_iff.mp (List.all_eq_true.mp upperShifts_apart s hs)
        rw [hmove]
        refine upperChar_eq_self fun t ht => ?_
        rw [Shift.toNat_ofNat_image hlands hcov]
        exact Shift.not_covers_of_apart hlands (List.all_eq_true.mp hapart t ht) hcov

end Unicode

namespace Identifier

/-! ## Capitalizing once more -/

/-- What was capitalized stays as it is in front of any text. -/
theorem capitalizeChars_append {w : List Char} (h : w ≠ []) (rest : List Char) :
    capitalizeChars (capitalizeChars w ++ rest) = capitalizeChars w ++ rest := by
  cases w with
  | nil => exact absurd rfl h
  | cons c tail =>
      obtain ⟨d, more, himage, hself⟩ := Unicode.exists_upperChar c
      rw [capitalizeChars, himage, List.cons_append, List.cons_append, capitalizeChars, hself,
        List.singleton_append]

/-- Capitalized pieces side by side begin with a character in uppercase, whichever of them are empty. -/
theorem capitalizeChars_flatMap (pieces : List (List Char)) :
    capitalizeChars (pieces.flatMap capitalizeChars) = pieces.flatMap capitalizeChars := by
  induction pieces with
  | nil => rfl
  | cons w pieces ih =>
      by_cases hw : w = []
      · rw [hw, List.flatMap_cons, capitalizeChars, List.nil_append, ih]
      · rw [List.flatMap_cons, capitalizeChars_append hw]

/-! ## Compact spellings -/

/-- The pieces of a text without the delimiter that it may begin with: only an empty one is missing. -/
theorem splitOn_dropLeadingDelimiter (cs : List Char) :
    (dropLeadingDelimiter cs).splitOn delimiter = cs.splitOn delimiter
      ∨ cs.splitOn delimiter = [] :: (dropLeadingDelimiter cs).splitOn delimiter := by
  cases cs with
  | nil => exact Or.inl rfl
  | cons c rest =>
      by_cases hc : c = delimiter
      · right
        rw [dropLeadingDelimiter, if_pos hc, hc, List.splitOn_cons_eq_if_modifyHead, beq_self_eq_true,
          if_pos rfl]
      · left
        rw [dropLeadingDelimiter, if_neg hc]

/-- **The compact spelling of a delimited form, capitalized, is its pieces, capitalized.** The first piece is
in lowercase already; where it is empty, the spelling begins with a later one, which is capitalized. -/
theorem capitalizeChars_compactChars (cs : List Char) :
    capitalizeChars (compactChars (delimitedChars cs))
      = ((delimitedChars cs).splitOn delimiter).flatMap capitalizeChars := by
  by_cases hdelim : delimiter ∈ delimitedChars cs
  · have hpieces := splitOn_dropLeadingDelimiter (delimitedChars cs)
    obtain ⟨first, others, hsplit⟩ := List.exists_cons_of_ne_nil
      (List.splitOn_ne_nil delimiter (dropLeadingDelimiter (delimitedChars cs)))
    have hflat : ((delimitedChars cs).splitOn delimiter).flatMap capitalizeChars
        = (first :: others).flatMap capitalizeChars := by
      rcases hpieces with hsame | hempty
      · rw [← hsame, hsplit]
      · rw [hempty, hsplit, List.flatMap_cons, capitalizeChars, List.nil_append]
    have hmem : first ∈ (delimitedChars cs).splitOn delimiter := by
      rcases hpieces with hsame | hempty
      · rw [← hsame, hsplit]
        exact List.mem_cons_self
      · rw [hempty, hsplit]
        exact List.mem_cons_of_mem _ List.mem_cons_self
    have hfirst : Unicode.lower first = first := lower_piece hmem
    rw [hflat, compactChars, if_pos hdelim, hsplit, joinPieces, hfirst, List.flatMap_cons]
    cases first with
    | nil => exact capitalizeChars_flatMap others
    | cons c tail => rw [List.cons_append, capitalizeChars, capitalizeChars, List.append_assoc]
  · -- A form of a single piece is its own compact spelling.
    rw [compactChars, if_neg hdelim, List.splitOn_eq_singleton hdelim, List.flatMap_singleton]

end Identifier

end EntityAudit
