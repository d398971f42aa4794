import EntityAudit.Identifier.Words

/-!
# `EntityAudit.Proofs.Identifier.Scan` — what the search for words finds

A scan reads a text from the left: either the next characters are a word and the word cannot go on, or
the next character is dropped.  `words` is the one scan that a text has, so a text that is put together
from words can be taken apart again, and facts about words go by induction on the scan.

## Contents

* `IsCapitalized`, `IsWord` — the words
* `Scan` — what it is to take a text apart
* `scan_words`, `Scan.eq_words` — `words` is the scan of a text
* `Scan.isWord`, `Scan.flatten_sublist` — its words are words, in the order of the text
* `words_flatten` — capitalized words are found again where they stand side by side
-/

namespace EntityAudit.Identifier

/-! ## Words -/

/-- A capitalized word: an ASCII capital and one or more ASCII small letters. -/
def IsCapitalized (w : List Char) : Prop :=
  ∃ c rest, w = c :: rest ∧ isCapital c = true ∧ rest ≠ [] ∧ ∀ d ∈ rest, isSmall d = true

/-- A word: one or more ASCII small letters, or a capitalized word. -/
def IsWord (w : List Char) : Prop :=
  (w ≠ [] ∧ ∀ d ∈ w, isSmall d = true) ∨ IsCapitalized w

theorem isSmall_of_isCapital {c : Char} (h : isCapital c = true) : isSmall c = false := by
  rw [Bool.eq_false_iff]
  intro hs
  simp only [isCapital, isSmall, Bool.and_eq_true, decide_eq_true_eq, Char.le_def,
    UInt32.le_iff_toNat_le] at h hs
  have hz : ('Z').val.toNat = 90 := rfl
  have ha : ('a').val.toNat = 97 := rfl
  omega

theorem IsCapitalized.isWord {w : List Char} (h : IsCapitalized w) : IsWord w := Or.inr h

theorem IsCapitalized.beginsSmall {w : List Char} (h : IsCapitalized w) (rest : List Char) :
    beginsSmall (w ++ rest) = false := by
  obtain ⟨c, tail, rfl, hc, -, -⟩ := h
  exact isSmall_of_isCapital hc

theorem IsWord.ne_nil {w : List Char} (h : IsWord w) : w ≠ [] := by
  rcases h with ⟨hne, -⟩ | ⟨c, rest, rfl, -⟩
  · exact hne
  · exact List.cons_ne_nil c rest

/-- The letters of a word are ASCII letters. -/
theorem IsWord.letter {w : List Char} (h : IsWord w) {d : Char} (hd : d ∈ w) :
    isSmall d = true ∨ isCapital d = true := by
  rcases h with ⟨-, hall⟩ | ⟨c, rest, rfl, hc, -, hall⟩
  · exact Or.inl (hall d hd)
  · rcases List.mem_cons.mp hd with rfl | hrest
    · exact Or.inr hc
    · exact Or.inl (hall d hrest)

/-- A word that begins with a small letter has small letters only. -/
theorem IsWord.small {c : Char} {rest : List Char} (h : IsWord (c :: rest)) (hc : isSmall c = true) :
    ∀ d ∈ c :: rest, isSmall d = true := by
  rcases h with ⟨-, hall⟩ | ⟨c', rest', heq, hcap, -⟩
  · exact hall
  · obtain ⟨rfl, -⟩ := List.cons.inj heq
    rw [isSmall_of_isCapital hcap] at hc
    exact absurd hc Bool.false_ne_true

/-! ## Scans -/

/-- A way to take a text apart: a character that is not a small letter may be dropped, and a word may be
read as a whole if no small letter follows it. -/
inductive Scan : List Char → List (List Char) → Prop where
  | nil : Scan [] []
  | skip {c : Char} {rest : List Char} {ws : List (List Char)}
      (hc : isSmall c = false) (hcut : isCapital c = true → beginsSmall rest = false)
      (h : Scan rest ws) : Scan (c :: rest) ws
  | word {w rest : List Char} {ws : List (List Char)}
      (hw : IsWord w) (hcut : beginsSmall rest = false) (h : Scan rest ws) :
      Scan (w ++ rest) (w :: ws)

/-- A scan of a text that begins with a small letter begins with a word of small letters. -/
theorem Scan.of_beginsSmall {cs : List Char} {ws : List (List Char)} (h : Scan cs ws)
    (hb : beginsSmall cs = true) :
    ∃ w rest ws', cs = w ++ rest ∧ ws = w :: ws' ∧ w ≠ [] ∧ (∀ d ∈ w, isSmall d = true)
      ∧ beginsSmall rest = false ∧ Scan rest ws' := by
  cases h with
  | nil => exact absurd hb Bool.false_ne_true
  | skip hc hcut h =>
      rw [beginsSmall, hc] at hb
      exact absurd hb Bool.false_ne_true
  | word hw hcut h =>
      rename_i w rest ws'
      refine ⟨w, rest, ws', rfl, rfl, hw.ne_nil, ?_, hcut, h⟩
      cases w with
      | nil => exact absurd rfl hw.ne_nil
      | cons c tail => exact hw.small hb

/-- **The words of a text are a scan of it.** -/
theorem scan_words (cs : List Char) : Scan cs (words cs) := by
  induction cs with
  | nil => exact .nil
  | cons c rest ih =>
      rw [words]
      by_cases hs : isSmall c = true
      · by_cases hb : beginsSmall rest = true
        · -- A small letter in front of a word of small letters.
          obtain ⟨w, rest', ws, hrest, hws, -, hall, hcut, h⟩ := ih.of_beginsSmall hb
          rw [hs, hb, Bool.true_or, Bool.and_self, if_pos rfl, hws, extendFirst, hrest]
          refine Scan.word (w := c :: w) (Or.inl ⟨List.cons_ne_nil c w, ?_⟩) hcut h
          exact List.forall_mem_cons.mpr ⟨hs, hall⟩
        · -- A small letter by itself.
          rw [Bool.not_eq_true] at hb
          rw [hb, Bool.and_false, if_neg Bool.false_ne_true, if_pos hs]
          refine Scan.word (w := [c]) (Or.inl ⟨List.cons_ne_nil c [], ?_⟩) hb ih
          exact List.forall_mem_singleton.mpr hs
      · rw [Bool.not_eq_true] at hs
        by_cases hu : isCapital c = true ∧ beginsSmall rest = true
        · -- A capital in front of a word of small letters.
          obtain ⟨hc, hb⟩ := hu
          obtain ⟨w, rest', ws, hrest, hws, hne, hall, hcut, h⟩ := ih.of_beginsSmall hb
          rw [hs, hc, hb, Bool.or_true, Bool.and_self, if_pos rfl, hws, extendFirst, hrest]
          exact Scan.word (w := c :: w) (Or.inr ⟨c, w, rfl, hc, hne, hall⟩) hcut h
        · -- Anything else is dropped.
          have hcond : ((isSmall c || isCapital c) && beginsSmall rest) = false := by
            rw [hs, Bool.false_or, Bool.eq_false_iff]
            exact fun hand => hu (Bool.and_eq_true_iff.mp hand)
          rw [hcond, if_neg Bool.false_ne_true, hs, if_neg Bool.false_ne_true]
          refine Scan.skip hs (fun hc => ?_) ih
          rw [Bool.eq_false_iff]
          exact fun hb => hu ⟨hc, hb⟩

/-- A run of small letters is read as one word where no small letter follows it. -/
theorem words_small_append {w rest : List Char} (hne : w ≠ []) (hall : ∀ d ∈ w, isSmall d = true)
    (hcut : beginsSmall rest = false) : words (w ++ rest) = w :: words rest := by
  induction w with
  | nil => exact absurd rfl hne
  | cons c tail ih =>
      obtain ⟨hc, htail⟩ := List.forall_mem_cons.mp hall
      rw [List.cons_append, words, hc]
      cases tail with
      | nil => rw [List.nil_append, hcut, Bool.and_false, if_neg Bool.false_ne_true, if_pos rfl]
      | cons d tail =>
          have hb : beginsSmall (d :: tail ++ rest) = true := htail d List.mem_cons_self
          rw [hb, Bool.true_or, Bool.and_self, if_pos rfl,
            ih (List.cons_ne_nil d tail) htail, extendFirst]

/-- A word is read as a whole where no small letter follows it. -/
theorem words_append {w rest : List Char} (hw : IsWord w) (hcut : beginsSmall rest = false) :
    words (w ++ rest) = w :: words rest := by
  rcases hw with ⟨hne, hall⟩ | ⟨c, tail, rfl, hc, hne, hall⟩
  · exact words_small_append hne hall hcut
  · have hb : beginsSmall (tail ++ rest) = true := by
      cases tail with
      | nil => exact absurd rfl hne
      | cons d tail => exact hall d List.mem_cons_self
    rw [List.cons_append, words, hc, hb, Bool.or_true, Bool.and_self, if_pos rfl,
      words_small_append hne hall hcut, extendFirst]

/-- **A text has no other scan.** -/
theorem Scan.eq_words {cs : List Char} {ws : List (List Char)} (h : Scan cs ws) : words cs = ws := by
  induction h with
  | nil => rfl
  | @skip c rest ws hc hcut _ ih =>
      have hcond : ((isSmall c || isCapital c) && beginsSmall rest) = false := by
        rw [hc, Bool.false_or]
        cases hu : isCapital c with
        | false => rfl
        | true => exact hcut hu
      rw [words, hcond, if_neg Bool.false_ne_true, hc, if_neg Bool.false_ne_true, ih]
  | word hw hcut _ ih => rw [words_append hw hcut, ih]

/-- What a scan finds are words. -/
theorem Scan.isWord {cs : List Char} {ws : List (List Char)} (h : Scan cs ws) :
    ∀ w ∈ ws, IsWord w := by
  induction h with
  | nil => exact fun w hw => absurd hw List.not_mem_nil
  | skip _ _ _ ih => exact ih
  | word hw _ _ ih => exact List.forall_mem_cons.mpr ⟨hw, ih⟩

/-- The words of a scan stand in the text in their order. -/
theorem Scan.flatten_sublist {cs : List Char} {ws : List (List Char)} (h : Scan cs ws) :
    ws.flatten.Sublist cs := by
  induction h with
  | nil => exact List.Sublist.refl []
  | skip _ _ _ ih => exact ih.cons _
  | word _ _ _ ih =>
      rw [List.flatten_cons]
      exact ih.append_left _

/-! ## Capitalized words side by side -/

/-- Capitalized words that stand side by side are a scan of the text that they make. -/
theorem scan_flatten {ws : List (List Char)} (h : ∀ w ∈ ws, IsCapitalized w) : Scan ws.flatten ws := by
  induction ws with
  | nil => exact .nil
  | cons w ws ih =>
      obtain ⟨hw, hws⟩ := List.forall_mem_cons.mp h
      rw [List.flatten_cons]
      refine Scan.word hw.isWord ?_ (ih hws)
      cases ws with
      | nil => rfl
      | cons v vs =>
          rw [List.flatten_cons]
          exact (hws v List.mem_cons_self).beginsSmall vs.flatten

/-- **Capitalized words are found again where they stand side by side.** -/
theorem words_flatten {ws : List (List Char)} (h : ∀ w ∈ ws, IsCapitalized w) :
    words ws.flatten = ws := (scan_flatten h).eq_words

end EntityAudit.Identifier
