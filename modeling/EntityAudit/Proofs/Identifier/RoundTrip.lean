import EntityAudit.Proofs.Identifier.Stem

/-!
# `EntityAudit.Proofs.Identifier.RoundTrip` — the names that survive a change of spelling

Each of the two spellings of a name can be changed into the other, and the change loses whatever the
other spelling cannot show: a digit or a mark belongs to no word, and a word of a single letter becomes a
capital that no small letter follows.  A name comes back from the round trip exactly when it is spelled
by words alone, each of which can be found again.

## Contents

* `IsSmallWord`, `IsCompactName`, `IsDelimitedName` — names that are spelled by words
* `delimiter_notMem_compactChars`, `delimitedChars_compactChars` — what the two spellings look like
* `compactChars_intercalate` — the compact spelling of words
* `words_kept` — a text that is the compact spelling of its own words
* `compactChars_delimitedChars_eq_self_iff`, `delimitedChars_compactChars_eq_self_iff` — the round trips
* `round_trips` — both of them, for names
-/

namespace EntityAudit.Identifier

/-! ## Names that are spelled by words -/

/-- One or more ASCII small letters. -/
def IsSmallWord (w : List Char) : Prop := w ≠ [] ∧ ∀ d ∈ w, isSmall d = true

/-- A small word and then capitalized words: `[a-z]+([A-Z][a-z]+)*`. -/
def IsCompactName (cs : List Char) : Prop :=
  ∃ (w : List Char) (ws : List (List Char)), IsSmallWord w ∧ (∀ v ∈ ws, IsCapitalized v) ∧ cs = w ++ ws.flatten

/-- Small words with the delimiter between them, of which only the first may be a single letter:
`[a-z]+(_[a-z][a-z]+)*`. -/
def IsDelimitedName (cs : List Char) : Prop :=
  ∃ (w : List Char) (ws : List (List Char)), IsSmallWord w ∧ (∀ v ∈ ws, IsSmallWord v ∧ 2 ≤ v.length)
    ∧ cs = [delimiter].intercalate (w :: ws)

theorem IsSmallWord.isWord {w : List Char} (h : IsSmallWord w) : IsWord w := Or.inl h

/-- A small word is in lowercase. -/
theorem IsSmallWord.lower_eq_self {w : List Char} (h : IsSmallWord w) : Unicode.lower w = w := by
  obtain ⟨hne, hall⟩ := h
  cases w with
  | nil => exact absurd rfl hne
  | cons c rest =>
      have hword : IsWord (c :: rest) := Or.inl ⟨hne, hall⟩
      rw [hword.lower_eq, (small_cases (hall c List.mem_cons_self)).1]

/-- A word in lowercase is a small word of the same length. -/
theorem IsWord.isSmallWord_lower {w : List Char} (h : IsWord w) :
    IsSmallWord (Unicode.lower w) ∧ (Unicode.lower w).length = w.length := by
  rw [Unicode.lower_ascii h.ascii]
  refine ⟨⟨?_, ?_⟩, List.length_map _⟩
  · intro hnil
    exact h.ne_nil (List.map_eq_nil_iff.mp hnil)
  · intro d hd
    obtain ⟨c, hc, rfl⟩ := List.mem_map.mp hd
    exact isSmall_toLower (h.letter hc)

/-- A capitalized word has two letters or more. -/
theorem IsCapitalized.two_le_length {w : List Char} (h : IsCapitalized w) : 2 ≤ w.length := by
  obtain ⟨c, rest, rfl, -, hne, -⟩ := h
  have hpos : 0 < rest.length := List.length_pos_of_ne_nil hne
  rw [List.length_cons]
  omega

/-- A small word of two letters or more, with a capital in front, is a capitalized word, and its lowercase
form leads back. -/
theorem IsSmallWord.capitalizeChars {w : List Char} (h : IsSmallWord w) (hlen : 2 ≤ w.length) :
    IsCapitalized (capitalizeChars w) ∧ Unicode.lower (Identifier.capitalizeChars w) = w := by
  obtain ⟨hne, hall⟩ := h
  cases w with
  | nil => exact absurd rfl hne
  | cons c rest =>
      obtain ⟨hc, hrest⟩ := List.forall_mem_cons.mp hall
      obtain ⟨-, hback, hcapital⟩ := small_cases hc
      have hspelled : Identifier.capitalizeChars (c :: rest) = c.toUpper :: rest := by
        rw [Identifier.capitalizeChars, Unicode.upperChar_ascii (toNat_lt_of_isSmall hc),
          List.singleton_append]
      have hcapitalized : IsCapitalized (c.toUpper :: rest) := by
        refine ⟨c.toUpper, rest, rfl, hcapital, ?_, hrest⟩
        intro hnil
        rw [hnil] at hlen
        exact absurd hlen (by decide : ¬ 2 ≤ 1)
      rw [hspelled]
      refine ⟨hcapitalized, ?_⟩
      rw [hcapitalized.isWord.lower_eq, hback]

/-! ## What the two spellings look like -/

/-- The compact spelling has no delimiter. -/
theorem delimiter_notMem_compactChars (cs : List Char) : delimiter ∉ compactChars cs := by
  rw [compactChars]
  by_cases hdelim : delimiter ∈ cs
  · rw [if_pos hdelim]
    have hpieces : ∀ w ∈ (dropLeadingDelimiter cs).splitOn delimiter, delimiter ∉ w :=
      fun w hw => Text.notMem_of_mem_splitOn hw
    cases hsplit : (dropLeadingDelimiter cs).splitOn delimiter with
    | nil => exact List.not_mem_nil
    | cons first others =>
        rw [hsplit] at hpieces
        obtain ⟨hfirst, hothers⟩ := List.forall_mem_cons.mp hpieces
        intro hmem
        rcases List.mem_append.mp hmem with hlower | hrest
        · exact hfirst (Unicode.underscore_mem_lower hlower)
        · obtain ⟨w, hw, hd⟩ := List.mem_flatMap.mp hrest
          exact delimiter_notMem_capitalizeChars (hothers w hw) hd
  · rw [if_neg hdelim]
    exact hdelim

/-- Without a delimiter the delimited spelling is the join of the words. -/
theorem delimitedChars_eq_intercalate {cs : List Char} (h : delimiter ∉ cs) :
    delimitedChars cs = [delimiter].intercalate ((words cs).map Unicode.lower) := by
  rw [delimitedChars, if_neg h, lower_intercalate (scan_words cs).isWord]

theorem joinPieces_map_lower (w : List Char) (ws : List (List Char)) :
    joinPieces ((w :: ws).map Unicode.lower)
      = Unicode.lower w ++ ws.flatMap fun v => capitalizeChars (Unicode.lower v) := by
  rw [List.map_cons, joinPieces, Unicode.lower_lower, List.flatMap_map]

/-- **The compact spelling of words**: they are taken apart at the delimiters where they were joined. -/
theorem compactChars_intercalate {ws : List (List Char)} (h : ∀ w ∈ ws, IsWord w) :
    compactChars ([delimiter].intercalate (ws.map Unicode.lower)) = joinPieces (ws.map Unicode.lower) := by
  have hpieces : ∀ piece ∈ ws.map Unicode.lower, delimiter ∉ piece := by
    intro piece hpiece
    obtain ⟨w, hw, rfl⟩ := List.mem_map.mp hpiece
    exact (h w hw).delimiter_notMem
  cases ws with
  | nil => rfl
  | cons w ws =>
      have hw : IsWord w := h w List.mem_cons_self
      cases ws with
      | nil =>
          -- A single word stands without a delimiter and is not taken apart at all.
          rw [joinPieces_map_lower, List.map_singleton, List.intercalate_singleton, compactChars,
            if_neg hw.delimiter_notMem, List.flatMap_nil, List.append_nil]
      | cons v vs =>
          have hmem : delimiter ∈ [delimiter].intercalate ((w :: v :: vs).map Unicode.lower) := by
            rw [List.map_cons, List.map_cons, List.intercalate_cons_cons]
            exact List.mem_append_left _ (List.mem_append_right _ List.mem_cons_self)
          have hdrop : dropLeadingDelimiter ([delimiter].intercalate ((w :: v :: vs).map Unicode.lower))
              = [delimiter].intercalate ((w :: v :: vs).map Unicode.lower) := by
            obtain ⟨⟨hne, hsmall⟩, -⟩ := hw.isSmallWord_lower
            cases hlower : Unicode.lower w with
            | nil => exact absurd hlower hne
            | cons c rest =>
                rw [hlower] at hsmall
                have hc : c ≠ delimiter := by
                  intro heq
                  have := hsmall c List.mem_cons_self
                  rw [heq, isSmall_delimiter] at this
                  exact absurd this Bool.false_ne_true
                rw [List.map_cons, hlower, List.intercalate_cons_cons_left, dropLeadingDelimiter,
                  if_neg hc]
          rw [compactChars, if_pos hmem, hdrop,
            List.splitOn_intercalate delimiter hpieces (List.cons_ne_nil _ _)]

/-- Without a delimiter, the way there and back gives the compact spelling of the words. -/
theorem compactChars_delimitedChars {cs : List Char} (h : delimiter ∉ cs) :
    compactChars (delimitedChars cs) = joinPieces ((words cs).map Unicode.lower) := by
  rw [delimitedChars_eq_intercalate h, compactChars_intercalate (scan_words cs).isWord]

/-! ## Texts that are spelled by their words -/

/-- The compact spelling of words has as many letters as they have. -/
theorem length_joinPieces {ws : List (List Char)} (h : ∀ w ∈ ws, IsWord w) :
    (joinPieces (ws.map Unicode.lower)).length = ws.flatten.length := by
  cases ws with
  | nil => rfl
  | cons w ws =>
      obtain ⟨hw, hws⟩ := List.forall_mem_cons.mp h
      have hlens : ws.map (fun v => (capitalizeChars (Unicode.lower v)).length) = ws.map List.length :=
        List.map_congr_left fun v hv => (hws v hv).length_capitalizeChars_lower
      rw [joinPieces_map_lower, List.flatten_cons, List.length_append, List.length_append,
        hw.isSmallWord_lower.2, List.length_flatMap, hlens, List.length_flatten]

/-- **A text that is the compact spelling of its own words** is empty or a compact name, and its words
are those of the name: nothing was dropped, so all words stand where they stood, and each of them is
spelled as it was. -/
theorem words_kept {cs : List Char} (h : joinPieces ((words cs).map Unicode.lower) = cs) :
    cs = [] ∨ ∃ w ws, words cs = w :: ws ∧ IsSmallWord w ∧ (∀ v ∈ ws, IsCapitalized v)
      ∧ cs = w ++ ws.flatten := by
  have hscan := scan_words cs
  have hflatten : (words cs).flatten = cs := by
    apply hscan.flatten_sublist.eq_of_length
    rw [← length_joinPieces hscan.isWord, h]
  cases hwords : words cs with
  | nil =>
      rw [hwords] at hflatten
      exact Or.inl hflatten.symm
  | cons w ws =>
      have hall := hscan.isWord
      rw [hwords] at hall h hflatten
      obtain ⟨hw, hws⟩ := List.forall_mem_cons.mp hall
      obtain ⟨hsmall, hlen⟩ := hw.isSmallWord_lower
      -- Both sides are cut after the first word, and then after each of the others.
      have hcut : Unicode.lower w ++ ws.flatMap (fun v => capitalizeChars (Unicode.lower v))
          = w ++ ws.flatten := by
        rw [← joinPieces_map_lower, h, ← hflatten, List.flatten_cons]
      obtain ⟨hfirst, hothers⟩ := List.append_inj hcut hlen
      have hkept := forall_eq_of_flatMap_eq_flatten
        (fun v hv => (hws v hv).length_capitalizeChars_lower) hothers
      rw [hfirst] at hsmall
      refine Or.inr ⟨w, ws, rfl, hsmall, fun v hv => ?_, hflatten.symm⟩
      exact (hws v hv).capitalizeChars_lower_eq_self_iff.mp (hkept v hv)

/-- The words of a compact name are those that it is made of. -/
theorem words_compactName {w : List Char} {ws : List (List Char)} (hw : IsSmallWord w)
    (hws : ∀ v ∈ ws, IsCapitalized v) : words (w ++ ws.flatten) = w :: ws := by
  have hcut : beginsSmall ws.flatten = false := by
    cases ws with
    | nil => rfl
    | cons v vs =>
        rw [List.flatten_cons]
        exact (hws v List.mem_cons_self).beginsSmall vs.flatten
  rw [words_append hw.isWord hcut, words_flatten hws]

/-- A compact name has no delimiter. -/
theorem delimiter_notMem_compactName {w : List Char} {ws : List (List Char)} (hw : IsSmallWord w)
    (hws : ∀ v ∈ ws, IsCapitalized v) : delimiter ∉ w ++ ws.flatten := by
  have hletter : ∀ v ∈ w :: ws, delimiter ∉ v := by
    intro v hv hmem
    have hword : IsWord v := by
      rcases List.mem_cons.mp hv with rfl | hrest
      · exact hw.isWord
      · exact (hws v hrest).isWord
    rcases hword.letter hmem with hs | hc
    · exact absurd hs (by decide)
    · exact absurd hc (by decide)
  intro hmem
  rw [← List.flatten_cons] at hmem
  obtain ⟨v, hv, hd⟩ := List.mem_flatten.mp hmem
  exact hletter v hv hd

/-! ## The round trips -/

/-- **A text survives the way to the delimited spelling and back exactly when it is empty or a compact
name.** -/
theorem compactChars_delimitedChars_eq_self_iff {cs : List Char} :
    compactChars (delimitedChars cs) = cs ↔ cs = [] ∨ IsCompactName cs := by
  constructor
  · intro h
    have hdelim : delimiter ∉ cs := by
      rw [← h]
      exact delimiter_notMem_compactChars (delimitedChars cs)
    rw [compactChars_delimitedChars hdelim] at h
    rcases words_kept h with hnil | ⟨w, ws, -, hw, hws, hcs⟩
    · exact Or.inl hnil
    · exact Or.inr ⟨w, ws, hw, hws, hcs⟩
  · rintro (rfl | ⟨w, ws, hw, hws, rfl⟩)
    · rfl
    · have hkept : ws.flatMap (fun v => capitalizeChars (Unicode.lower v)) = ws.flatten := by
        rw [List.flatMap_congr fun v hv =>
          (hws v hv).isWord.capitalizeChars_lower_eq_self_iff.mpr (hws v hv)]
        exact List.flatMap_id'
      rw [compactChars_delimitedChars (delimiter_notMem_compactName hw hws), words_compactName hw hws,
        joinPieces_map_lower, hw.lower_eq_self, hkept]

/-- **A text survives the way to the compact spelling and back exactly when it is empty or a delimited
name.** -/
theorem delimitedChars_compactChars_eq_self_iff {cs : List Char} :
    delimitedChars (compactChars cs) = cs ↔ cs = [] ∨ IsDelimitedName cs := by
  constructor
  · intro h
    -- The compact spelling is that of its own words, since the text is the join of them.
    rw [delimitedChars_eq_intercalate (delimiter_notMem_compactChars cs)] at h
    have hown : joinPieces ((words (compactChars cs)).map Unicode.lower) = compactChars cs := by
      rw [← compactChars_intercalate (scan_words (compactChars cs)).isWord, h]
    rcases words_kept hown with hnil | ⟨w, ws, hwords, hw, hws, -⟩
    · rw [hnil] at h
      exact Or.inl h.symm
    · rw [hwords, List.map_cons, hw.lower_eq_self] at h
      refine Or.inr ⟨w, ws.map Unicode.lower, hw, ?_, h.symm⟩
      intro piece hpiece
      obtain ⟨v, hv, rfl⟩ := List.mem_map.mp hpiece
      obtain ⟨hsmall, hlen⟩ := (hws v hv).isWord.isSmallWord_lower
      rw [hlen]
      exact ⟨hsmall, (hws v hv).two_le_length⟩
  · rintro (rfl | ⟨w, ws, hw, hws, rfl⟩)
    · rfl
    · have hlower : (w :: ws).map Unicode.lower = w :: ws := by
        have hall : ∀ v ∈ w :: ws, Unicode.lower v = v :=
          List.forall_mem_cons.mpr ⟨hw.lower_eq_self, fun v hv => (hws v hv).1.lower_eq_self⟩
        rw [List.map_congr_left hall, List.map_id']
      have hwords : ∀ v ∈ w :: ws, IsWord v :=
        List.forall_mem_cons.mpr ⟨hw.isWord, fun v hv => (hws v hv).1.isWord⟩
      have hcapitalized : ∀ v ∈ ws.map capitalizeChars, IsCapitalized v := by
        intro v hv
        obtain ⟨u, hu, rfl⟩ := List.mem_map.mp hv
        exact ((hws u hu).1.capitalizeChars (hws u hu).2).1
      have hback : (ws.map capitalizeChars).map Unicode.lower = ws := by
        rw [List.map_map]
        have hall : ∀ v ∈ ws, (Unicode.lower ∘ capitalizeChars) v = v :=
          fun v hv => ((hws v hv).1.capitalizeChars (hws v hv).2).2
        rw [List.map_congr_left hall, List.map_id']
      have hcompact : compactChars ([delimiter].intercalate (w :: ws))
          = w ++ (ws.map capitalizeChars).flatten := by
        rw [← hlower, compactChars_intercalate hwords, hlower, joinPieces, hw.lower_eq_self,
          List.flatMap_def]
      rw [hcompact, delimitedChars_eq_intercalate (delimiter_notMem_compactName hw hcapitalized),
        words_compactName hw hcapitalized, List.map_cons, hback, hw.lower_eq_self]

theorem IsCompactName.ne_nil {cs : List Char} (h : IsCompactName cs) : cs ≠ [] := by
  obtain ⟨w, ws, hw, -, rfl⟩ := h
  exact List.append_ne_nil_of_left_ne_nil hw.1 _

theorem IsDelimitedName.ne_nil {cs : List Char} (h : IsDelimitedName cs) : cs ≠ [] := by
  obtain ⟨w, ws, ⟨hne, -⟩, -, rfl⟩ := h
  obtain ⟨c, rest, rfl⟩ := List.exists_cons_of_ne_nil hne
  rw [List.intercalate_cons_cons_left]
  exact List.cons_ne_nil c _

instance (cs : List Char) : Decidable (IsCompactName cs) :=
  decidable_of_iff (cs ≠ [] ∧ compactChars (delimitedChars cs) = cs)
    ⟨fun h => (compactChars_delimitedChars_eq_self_iff.mp h.2).resolve_left h.1,
      fun h => ⟨h.ne_nil, compactChars_delimitedChars_eq_self_iff.mpr (Or.inr h)⟩⟩

instance (cs : List Char) : Decidable (IsDelimitedName cs) :=
  decidable_of_iff (cs ≠ [] ∧ delimitedChars (compactChars cs) = cs)
    ⟨fun h => (delimitedChars_compactChars_eq_self_iff.mp h.2).resolve_left h.1,
      fun h => ⟨h.ne_nil, delimitedChars_compactChars_eq_self_iff.mpr (Or.inr h)⟩⟩

/-- A later word of a single letter does not come back: `a_b` becomes `aB`, which has one word. -/
example : IsDelimitedName "a_bc".toList ∧ ¬ IsDelimitedName "a_b".toList := by decide +kernel

theorem ofList_eq_iff {cs : List Char} {s : String} : String.ofList cs = s ↔ cs = s.toList := by
  rw [← String.toList_inj, String.toList_ofList]

/-- **The names that survive a change of spelling.** A name comes back from its delimited form exactly
when it is empty or a compact name, and from its compact form exactly when it is empty or a delimited
name. -/
theorem round_trips (s : String) :
    (compact (delimited s) = s ↔ s = "" ∨ IsCompactName s.toList) ∧
      (delimited (compact s) = s ↔ s = "" ∨ IsDelimitedName s.toList) := by
  have hempty : s = "" ↔ s.toList = [] := by
    rw [← String.toList_inj]
    rfl
  constructor
  · rw [hempty, ← compactChars_delimitedChars_eq_self_iff, compact, toList_delimited, ofList_eq_iff]
  · rw [hempty, ← delimitedChars_compactChars_eq_self_iff, delimited, toList_compact, ofList_eq_iff]

end EntityAudit.Identifier
