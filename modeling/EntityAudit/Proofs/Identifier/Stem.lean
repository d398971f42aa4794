import EntityAudit.Identifier.Forms
import EntityAudit.Proofs.Identifier.Scan
import EntityAudit.Proofs.Text.Pieces
import EntityAudit.Proofs.Unicode.CaseStable

/-!
# `EntityAudit.Proofs.Identifier.Stem` — the name that an accessor is built on

A field name goes through its delimited form into the names of the column and of the two accessors.  The
delimiters that the first step puts in are taken out again by the second, so what remains is the *stem*:
the parts of the name in lowercase, each with its first character in uppercase.  An accessor is its verb
and the stem, and the column is the stem with a small first letter.

## Contents

* `nameParts`, `stem` — the parts of a field name and its stem
* `splitOn_delimitedChars` — the pieces of the delimited form are the parts
* `compactChars_afterVerb` — an accessor is its verb and what follows it, piece by piece
* `compactChars_delimited` — the column is the stem with a small first letter
* `beginsSmall_delimitedChars` — how the delimited form of a capitalized name begins
* `stem_eq_self_iff` — the names that are their own stem
-/

namespace EntityAudit.Identifier

/-! ## Parts and stems -/

/-- The parts of a field name in lowercase: what stands between delimiters, or else its words. -/
def nameParts (cs : List Char) : List (List Char) :=
  if delimiter ∈ cs then (Unicode.lower cs).splitOn delimiter else (words cs).map Unicode.lower

/-- The parts of a field name, each with its first character in uppercase, side by side. -/
def stem (cs : List Char) : List Char := (nameParts cs).flatMap capitalizeChars

/-- A text that is one or more capitalized words side by side. -/
def IsCapitalizedWords (cs : List Char) : Prop :=
  ∃ ws, ws ≠ [] ∧ (∀ w ∈ ws, IsCapitalized w) ∧ cs = ws.flatten

/-- A text with a small first letter. -/
def decapitalize : List Char → List Char
  | [] => []
  | c :: rest => c.toLower :: rest

/-! ## Letters -/

/-- What the two cases of an ASCII letter have to do with each other. -/
theorem letters_ascii : ∀ n ∈ List.range 128,
    (isSmall (Char.ofNat n) = true → (Char.ofNat n).toLower = Char.ofNat n
      ∧ (Char.ofNat n).toUpper.toLower = Char.ofNat n ∧ isCapital (Char.ofNat n).toUpper = true)
    ∧ (isCapital (Char.ofNat n) = true → (Char.ofNat n).toLower.toUpper = Char.ofNat n
      ∧ isSmall (Char.ofNat n).toLower = true) := by
  decide +kernel

theorem toNat_lt_of_isSmall {c : Char} (h : isSmall c = true) : c.toNat < 128 := by
  simp only [isSmall, Bool.and_eq_true, decide_eq_true_eq, Char.le_def, UInt32.le_iff_toNat_le] at h
  have hz : ('z').val.toNat = 122 := rfl
  have hc : c.val.toNat = c.toNat := rfl
  omega

theorem toNat_lt_of_isCapital {c : Char} (h : isCapital c = true) : c.toNat < 128 := by
  simp only [isCapital, Bool.and_eq_true, decide_eq_true_eq, Char.le_def,
    UInt32.le_iff_toNat_le] at h
  have hz : ('Z').val.toNat = 90 := rfl
  have hc : c.val.toNat = c.toNat := rfl
  omega

/-- The lowercase form of a small letter is the letter, and its capital leads back to it. -/
theorem small_cases {c : Char} (h : isSmall c = true) :
    c.toLower = c ∧ c.toUpper.toLower = c ∧ isCapital c.toUpper = true := by
  have hrow := (letters_ascii c.toNat (List.mem_range.mpr (toNat_lt_of_isSmall h))).1
  rw [Char.ofNat_toNat] at hrow
  exact hrow h

/-- The lowercase form of a capital is a small letter, and its capital leads back to it. -/
theorem capital_cases {c : Char} (h : isCapital c = true) :
    c.toLower.toUpper = c ∧ isSmall c.toLower = true := by
  have hrow := (letters_ascii c.toNat (List.mem_range.mpr (toNat_lt_of_isCapital h))).2
  rw [Char.ofNat_toNat] at hrow
  exact hrow h

theorem toNat_lt_of_letter {c : Char} (h : isSmall c = true ∨ isCapital c = true) :
    c.toNat < 128 := by
  rcases h with hs | hc
  · exact toNat_lt_of_isSmall hs
  · exact toNat_lt_of_isCapital hc

theorem isSmall_toLower {c : Char} (h : isSmall c = true ∨ isCapital c = true) :
    isSmall c.toLower = true := by
  rcases h with hs | hc
  · rw [(small_cases hs).1]
    exact hs
  · exact (capital_cases hc).2

/-- A letter in the sense of the library is a small letter or a capital. -/
theorem letter_of_isAlpha {c : Char} (h : c.isAlpha = true) :
    isSmall c = true ∨ isCapital c = true := by
  change (c.isUpper || c.isLower) = true at h
  rcases Bool.or_eq_true_iff.mp h with hu | hl
  · change decide ('A'.val ≤ c.val ∧ c.val ≤ 'Z'.val) = true at hu
    obtain ⟨hfirst, hlast⟩ := of_decide_eq_true hu
    refine Or.inr ?_
    rw [isCapital, Bool.and_eq_true, decide_eq_true_eq, decide_eq_true_eq]
    exact ⟨hfirst, hlast⟩
  · change (decide ('a'.val ≤ c.val) && decide (c.val ≤ 'z'.val)) = true at hl
    obtain ⟨hfirst, hlast⟩ := Bool.and_eq_true_iff.mp hl
    refine Or.inl ?_
    rw [isSmall, Bool.and_eq_true, decide_eq_true_eq, decide_eq_true_eq]
    exact ⟨of_decide_eq_true hfirst, of_decide_eq_true hlast⟩

theorem IsWord.ascii {w : List Char} (h : IsWord w) : ∀ d ∈ w, d.toNat < 128 :=
  fun _ hd => toNat_lt_of_letter (h.letter hd)

/-- The lowercase form of a word changes at most its first letter. -/
theorem IsWord.lower_eq {c : Char} {rest : List Char} (h : IsWord (c :: rest)) :
    Unicode.lower (c :: rest) = c.toLower :: rest := by
  have hrest : ∀ d ∈ rest, d.toLower = d := by
    intro d hd
    rcases h with ⟨-, hall⟩ | ⟨c', rest', heq, -, -, hall⟩
    · exact (small_cases (hall d (List.mem_cons_of_mem c hd))).1
    · rw [(List.cons.inj heq).2] at hd
      exact (small_cases (hall d hd)).1
  rw [Unicode.lower_ascii h.ascii, List.map_cons, List.map_congr_left hrest, List.map_id']

/-! ## Taking the delimited form apart -/

/-- A mapping that keeps the delimiter goes through the join. -/
theorem map_intercalate {f : Char → Char} (hf : f delimiter = delimiter) (ws : List (List Char)) :
    ([delimiter].intercalate ws).map f = [delimiter].intercalate (ws.map (List.map f)) := by
  induction ws with
  | nil => rfl
  | cons w ws ih =>
      cases ws with
      | nil => rw [List.map_singleton, List.intercalate_singleton, List.intercalate_singleton]
      | cons v vs =>
          rw [List.intercalate_cons_cons, List.map_append, List.map_append, ih, List.map_singleton, hf]
          exact List.intercalate_cons_cons.symm

/-- Words are lowercased one by one. -/
theorem lower_intercalate {ws : List (List Char)} (h : ∀ w ∈ ws, IsWord w) :
    Unicode.lower ([delimiter].intercalate ws) = [delimiter].intercalate (ws.map Unicode.lower) := by
  have hascii : ∀ d ∈ [delimiter].intercalate ws, d.toNat < 128 := by
    intro d hd
    rcases Text.mem_intercalate hd with rfl | ⟨w, hw, hmem⟩
    · decide
    · exact (h w hw).ascii d hmem
  have hmap : ws.map Unicode.lower = ws.map (List.map Char.toLower) :=
    List.map_congr_left fun w hw => Unicode.lower_ascii (h w hw).ascii
  rw [Unicode.lower_ascii hascii, hmap]
  exact map_intercalate (by decide) ws

/-- A word in lowercase has no delimiter. -/
theorem IsWord.delimiter_notMem {w : List Char} (h : IsWord w) : delimiter ∉ Unicode.lower w := by
  rw [Unicode.lower_ascii h.ascii]
  intro hmem
  obtain ⟨d, hd, heq⟩ := List.mem_map.mp hmem
  have hsmall : isSmall d.toLower = true := isSmall_toLower (h.letter hd)
  rw [heq] at hsmall
  exact absurd hsmall (by decide)

/-- The pieces of the delimited form are the parts of the name. -/
theorem splitOn_delimitedChars {cs : List Char} (h : delimitedChars cs ≠ []) :
    (delimitedChars cs).splitOn delimiter = nameParts cs := by
  rw [delimitedChars] at h ⊢
  rw [nameParts]
  by_cases hdelim : delimiter ∈ cs
  · rw [if_pos hdelim, if_pos hdelim]
  · rw [if_neg hdelim] at h
    rw [if_neg hdelim, if_neg hdelim, lower_intercalate (scan_words cs).isWord]
    apply List.splitOn_intercalate
    · intro part hpart
      obtain ⟨w, hw, rfl⟩ := List.mem_map.mp hpart
      exact ((scan_words cs).isWord w hw).delimiter_notMem
    · intro hnil
      rw [List.map_eq_nil_iff.mp hnil] at h
      exact h rfl

/-! ## Putting the names together -/

/-- **Behind a verb every piece of a form is capitalized.** -/
theorem compactChars_afterVerb {verb : List Char} (hverb : delimiter ∉ verb) (hne : verb ≠ [])
    (form : List Char) :
    compactChars (verb ++ delimiter :: form)
      = Unicode.lower verb ++ (form.splitOn delimiter).flatMap capitalizeChars := by
  have hmem : delimiter ∈ verb ++ delimiter :: form := List.mem_append_right verb List.mem_cons_self
  have hdrop : dropLeadingDelimiter (verb ++ delimiter :: form) = verb ++ delimiter :: form := by
    cases verb with
    | nil => exact absurd rfl hne
    | cons c rest =>
        have hc : c ≠ delimiter := fun heq => hverb (heq ▸ List.mem_cons_self)
        rw [List.cons_append, dropLeadingDelimiter, if_neg hc]
  rw [compactChars, if_pos hmem, hdrop, List.splitOn_append_cons_self_of_not_mem hverb, joinPieces]

theorem isSmall_delimiter : isSmall delimiter = false := by decide

/-- A text that begins with a small letter has no delimiter in front, and its first piece begins with
the letter. -/
theorem pieces_of_beginsSmall {cs : List Char} (h : beginsSmall cs = true) :
    dropLeadingDelimiter cs = cs
      ∧ ∃ c tail others, isSmall c = true ∧ cs.splitOn delimiter = (c :: tail) :: others := by
  cases cs with
  | nil => exact absurd h Bool.false_ne_true
  | cons c rest =>
      have hc : c ≠ delimiter := by
        intro heq
        rw [beginsSmall, heq, isSmall_delimiter] at h
        exact absurd h Bool.false_ne_true
      obtain ⟨first, others, hsplit⟩ := List.exists_cons_of_ne_nil (List.splitOn_ne_nil delimiter rest)
      refine ⟨by rw [dropLeadingDelimiter, if_neg hc], c, first, others, h, ?_⟩
      rw [List.splitOn_cons_eq_if_modifyHead, beq_false_of_ne hc, if_neg Bool.false_ne_true, hsplit,
        List.modifyHead_cons]

/-- The delimited form is in lowercase. -/
theorem delimitedChars_eq_lower (cs : List Char) : ∃ text, delimitedChars cs = Unicode.lower text := by
  rw [delimitedChars]
  split
  · exact ⟨cs, rfl⟩
  · exact ⟨[delimiter].intercalate (words cs), rfl⟩

/-- The pieces of the delimited form stay as they are in lowercase. -/
theorem lower_piece {cs w : List Char} (h : w ∈ (delimitedChars cs).splitOn delimiter) :
    Unicode.lower w = w := by
  obtain ⟨text, htext⟩ := delimitedChars_eq_lower cs
  rw [htext] at h
  apply Unicode.lower_eq_self
  · intro hsigma
    exact Unicode.sigma_notMem_lower text (Text.mem_of_mem_splitOn h hsigma).1
  · intro d hd
    exact Unicode.lowerChar_of_mem_lower (Text.mem_of_mem_splitOn h hd).1

/-- **The column and the stem are the same but for the case of the first letter.** -/
theorem compactChars_delimited {cs : List Char} (h : beginsSmall (delimitedChars cs) = true) :
    compactChars (delimitedChars cs) = decapitalize (stem cs)
      ∧ stem cs = capitalizeChars (compactChars (delimitedChars cs)) := by
  have hne : delimitedChars cs ≠ [] := by
    intro hnil
    rw [hnil] at h
    exact absurd h Bool.false_ne_true
  obtain ⟨hdrop, c, tail, others, hc, hsplit⟩ := pieces_of_beginsSmall h
  have hparts : nameParts cs = (c :: tail) :: others := by
    rw [← splitOn_delimitedChars hne]
    exact hsplit
  -- The pieces are in lowercase already, so the join leaves the first one as it is.
  have hcolumn : compactChars (delimitedChars cs) = c :: tail ++ others.flatMap capitalizeChars := by
    rw [compactChars]
    by_cases hdelim : delimiter ∈ delimitedChars cs
    · have hmem : c :: tail ∈ (delimitedChars cs).splitOn delimiter := by
        rw [hsplit]
        exact List.mem_cons_self
      have hfirst : Unicode.lower (c :: tail) = c :: tail := lower_piece hmem
      rw [if_pos hdelim, hdrop, hsplit, joinPieces, hfirst]
    · -- A single piece is not joined at all.
      rw [if_neg hdelim]
      rw [List.splitOn_eq_singleton hdelim] at hsplit
      obtain ⟨hfirst, hothers⟩ := List.cons.inj hsplit
      rw [← hothers, List.flatMap_nil, List.append_nil]
      exact hfirst
  have hupper : Unicode.upperChar c = [c.toUpper] := Unicode.upperChar_ascii (toNat_lt_of_isSmall hc)
  have hstem : stem cs = c.toUpper :: (tail ++ others.flatMap capitalizeChars) := by
    rw [stem, hparts, List.flatMap_cons, capitalizeChars, hupper]
    rfl
  rw [hcolumn, hstem]
  constructor
  · rw [decapitalize, (small_cases hc).2.1, List.cons_append]
  · rw [List.cons_append, capitalizeChars, hupper, List.singleton_append]

/-! ## How the delimited form begins -/

/-- A text that begins with an ASCII letter begins with a small one in lowercase. -/
theorem beginsSmall_lower {c : Char} (h : isSmall c = true ∨ isCapital c = true) (rest : List Char) :
    beginsSmall (Unicode.lower (c :: rest)) = true := by
  have hascii : c.toNat < 128 := toNat_lt_of_letter h
  have hsigma : c ≠ 'Σ' := by
    rintro rfl
    exact absurd hascii (by decide)
  rw [Unicode.lower, Unicode.lowerAfter, if_neg hsigma, Unicode.lowerChar_ascii hascii]
  exact isSmall_toLower h

/-- The delimited form of a name that begins with a capital begins with a small letter, if it is not
empty. -/
theorem beginsSmall_delimitedChars {c : Char} {rest : List Char} (hc : isCapital c = true)
    (hne : delimitedChars (c :: rest) ≠ []) : beginsSmall (delimitedChars (c :: rest)) = true := by
  rw [delimitedChars] at hne ⊢
  by_cases hdelim : delimiter ∈ c :: rest
  · rw [if_pos hdelim]
    exact beginsSmall_lower (Or.inr hc) rest
  · rw [if_neg hdelim] at hne ⊢
    have hwords := (scan_words (c :: rest)).isWord
    cases hw : words (c :: rest) with
    | nil =>
        rw [hw] at hne
        exact absurd rfl hne
    | cons w ws =>
        rw [hw] at hwords
        have hword := hwords w List.mem_cons_self
        cases w with
        | nil => exact absurd rfl hword.ne_nil
        | cons d tail =>
            have hjoin : ∃ after, [delimiter].intercalate ((d :: tail) :: ws) = d :: after := by
              cases ws with
              | nil => exact ⟨tail, List.intercalate_singleton⟩
              | cons v vs => exact ⟨_, List.intercalate_cons_cons⟩
            obtain ⟨after, hafter⟩ := hjoin
            rw [hafter]
            exact beginsSmall_lower (hword.letter List.mem_cons_self) after

/-! ## Names that are their own stem -/

/-- A word in the spelling that it has in a stem. -/
theorem IsWord.capitalizeChars_lower {c : Char} {rest : List Char} (h : IsWord (c :: rest)) :
    capitalizeChars (Unicode.lower (c :: rest)) = c.toLower.toUpper :: rest := by
  have hsmall : isSmall c.toLower = true := isSmall_toLower (h.letter List.mem_cons_self)
  rw [h.lower_eq, capitalizeChars, Unicode.upperChar_ascii (toNat_lt_of_isSmall hsmall),
    List.singleton_append]

/-- A stem keeps the length of a word. -/
theorem IsWord.length_capitalizeChars_lower {w : List Char} (h : IsWord w) :
    (capitalizeChars (Unicode.lower w)).length = w.length := by
  cases w with
  | nil => exact absurd rfl h.ne_nil
  | cons c rest => rw [h.capitalizeChars_lower, List.length_cons, List.length_cons]

/-- A stem keeps a word exactly when the word is capitalized. -/
theorem IsWord.capitalizeChars_lower_eq_self_iff {w : List Char} (h : IsWord w) :
    capitalizeChars (Unicode.lower w) = w ↔ IsCapitalized w := by
  constructor
  · intro heq
    rcases h with ⟨hne, hall⟩ | hcap
    · cases w with
      | nil => exact absurd rfl hne
      | cons c rest =>
          have hword : IsWord (c :: rest) := Or.inl ⟨hne, hall⟩
          obtain ⟨hlower, -, hcapital⟩ := small_cases (hall c List.mem_cons_self)
          rw [hword.capitalizeChars_lower, hlower] at heq
          rw [(List.cons.inj heq).1] at hcapital
          have hsmall := hall c List.mem_cons_self
          rw [isSmall_of_isCapital hcapital] at hsmall
          exact absurd hsmall Bool.false_ne_true
    · exact hcap
  · rintro ⟨c, rest, rfl, hc, -, -⟩
    rw [h.capitalizeChars_lower, (capital_cases hc).1]

/-- A mapping of words that keeps their lengths and the text that they make keeps every word. -/
theorem forall_eq_of_flatMap_eq_flatten {f : List Char → List Char} {ws : List (List Char)}
    (hlen : ∀ w ∈ ws, (f w).length = w.length) (h : ws.flatMap f = ws.flatten) :
    ∀ w ∈ ws, f w = w := by
  induction ws with
  | nil => exact fun w hw => absurd hw List.not_mem_nil
  | cons w ws ih =>
      obtain ⟨hw, hws⟩ := List.forall_mem_cons.mp hlen
      rw [List.flatMap_cons, List.flatten_cons] at h
      obtain ⟨hfirst, hrest⟩ := List.append_inj h hw
      exact List.forall_mem_cons.mpr ⟨hfirst, ih hws hrest⟩

/-- A first character in uppercase brings in no delimiter. -/
theorem delimiter_notMem_capitalizeChars {part : List Char} (h : delimiter ∉ part) :
    delimiter ∉ capitalizeChars part := by
  intro hmem
  cases part with
  | nil => exact List.not_mem_nil hmem
  | cons c rest =>
      rcases List.mem_append.mp hmem with hfirst | hrest
      · rw [Unicode.underscore_mem_upperChar hfirst] at h
        exact h List.mem_cons_self
      · exact h (List.mem_cons_of_mem c hrest)

/-- A stem has no delimiter if the name has one. -/
theorem delimiter_notMem_stem {cs : List Char} (h : delimiter ∈ cs) : delimiter ∉ stem cs := by
  intro hmem
  rw [stem, nameParts, if_pos h] at hmem
  obtain ⟨part, hpart, hd⟩ := List.mem_flatMap.mp hmem
  exact delimiter_notMem_capitalizeChars (Text.notMem_of_mem_splitOn hpart) hd

/-- Without a delimiter the stem is made of the words of the name. -/
theorem stem_of_delimiter_notMem {cs : List Char} (h : delimiter ∉ cs) :
    stem cs = (words cs).flatMap fun w => capitalizeChars (Unicode.lower w) := by
  rw [stem, nameParts, if_neg h, List.flatMap_map]

/-- A name that is its own stem is made of capitalized words: the stem has no delimiter, it is no longer
than the words that the search finds, and so nothing was dropped and every word begins with a capital. -/
theorem isCapitalizedWords_of_stem_eq {cs : List Char} (hne : cs ≠ []) (h : stem cs = cs) :
    IsCapitalizedWords cs := by
  have hdelim : delimiter ∉ cs := by
    intro hmem
    have hnot := delimiter_notMem_stem hmem
    rw [h] at hnot
    exact hnot hmem
  have hscan := scan_words cs
  rw [stem_of_delimiter_notMem hdelim] at h
  -- The words stand in the text in their order and, respelled, are as long as the text: nothing is left.
  have hlen : ∀ w ∈ words cs, (capitalizeChars (Unicode.lower w)).length = w.length :=
    fun w hw => (hscan.isWord w hw).length_capitalizeChars_lower
  have hflatten : (words cs).flatten = cs := by
    apply hscan.flatten_sublist.eq_of_length
    have hlens : (words cs).map (fun w => (capitalizeChars (Unicode.lower w)).length)
        = (words cs).map List.length := List.map_congr_left hlen
    calc (words cs).flatten.length
        = ((words cs).map List.length).sum := List.length_flatten
      _ = ((words cs).map fun w => (capitalizeChars (Unicode.lower w)).length).sum := by rw [hlens]
      _ = ((words cs).flatMap fun w => capitalizeChars (Unicode.lower w)).length :=
          List.length_flatMap.symm
      _ = cs.length := by rw [h]
  -- Now both sides are cut at the same places, so each word is its own respelling.
  have hkept := forall_eq_of_flatMap_eq_flatten hlen (h.trans hflatten.symm)
  refine ⟨words cs, ?_, fun w hw => ?_, hflatten.symm⟩
  · intro hnil
    rw [hnil] at hflatten
    exact hne hflatten.symm
  · exact (hscan.isWord w hw).capitalizeChars_lower_eq_self_iff.mp (hkept w hw)

/-- Capitalized words side by side are their own stem. -/
theorem stem_eq_of_isCapitalizedWords {cs : List Char} (h : IsCapitalizedWords cs) : stem cs = cs := by
  obtain ⟨ws, -, hws, rfl⟩ := h
  have hdelim : delimiter ∉ ws.flatten := by
    intro hmem
    obtain ⟨w, hw, hd⟩ := List.mem_flatten.mp hmem
    rcases (hws w hw).isWord.letter hd with hs | hc
    · exact absurd hs (by decide)
    · exact absurd hc (by decide)
  have hkept : ∀ w ∈ ws, capitalizeChars (Unicode.lower w) = w :=
    fun w hw => (hws w hw).isWord.capitalizeChars_lower_eq_self_iff.mpr (hws w hw)
  rw [stem_of_delimiter_notMem hdelim, words_flatten hws, List.flatMap_congr hkept]
  exact List.flatMap_id'

/-- **A name is its own stem exactly when it is one or more capitalized words side by side.** -/
theorem stem_eq_self_iff {cs : List Char} (hne : cs ≠ []) : stem cs = cs ↔ IsCapitalizedWords cs :=
  ⟨isCapitalizedWords_of_stem_eq hne, stem_eq_of_isCapitalizedWords⟩

theorem IsCapitalizedWords.ne_nil {cs : List Char} (h : IsCapitalizedWords cs) : cs ≠ [] := by
  obtain ⟨ws, hne, hws, rfl⟩ := h
  intro hnil
  obtain ⟨w, hw⟩ := List.exists_mem_of_ne_nil ws hne
  exact (hws w hw).isWord.ne_nil (List.flatten_eq_nil_iff.mp hnil w hw)

instance (cs : List Char) : Decidable (IsCapitalizedWords cs) :=
  decidable_of_iff (cs ≠ [] ∧ stem cs = cs)
    ⟨fun h => (stem_eq_self_iff h.1).mp h.2, fun h => ⟨h.ne_nil, (stem_eq_self_iff h.ne_nil).mpr h⟩⟩

example : IsCapitalizedWords "CarMake".toList ∧ ¬ IsCapitalizedWords "CarMake2".toList := by
  decide +kernel

end EntityAudit.Identifier
