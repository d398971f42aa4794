import EntityAudit.Proofs.Identifier.Expression
import EntityAudit.Proofs.Identifier.FixedForms
import EntityAudit.Proofs.Identifier.Search

/-!
# `EntityAudit.Proofs.Identifier.Ranges` — the search in the bytes of a text

The bytes of an ASCII letter occur in the UTF-8 form of a text only where the letter stands, so a search
that looks at single bytes sees what a search that looks at characters sees.

## Contents

* `byte_behind`, `Detects`, `detects_small`, `detects_capital` — the bytes of a text, and the tests of letters
* `smallEnd_of_word`, `wordRangesFrom_word`, `wordRangesFrom_skip` — what the two cursors do at a word, and at
  a character that begins none
* `IsWord.longest`, `Scan.searches` — a word that no small letter follows is the longest match, so the cursors
  find the successive matches
* `TakesApart`, `Successive.takesApart` — ranges that have every small letter once, between characters
* `delimited_joins_words` — the delimited form of a name is the join of the slices at these ranges
-/

namespace EntityAudit.Identifier

/-! ## The bytes of a text -/

theorem getElem?_toByteArray (l : List UInt8) (i : Nat) : l.toByteArray[i]? = l[i]? := by
  by_cases h : i < l.length
  · rw [List.getElem?_eq_getElem h, getElem?_pos _ _ (by rwa [List.size_toByteArray]),
      List.getElem_toByteArray]
  · rw [List.getElem?_eq_none (Nat.le_of_not_lt h), getElem?_neg]
    rwa [List.size_toByteArray]

theorem length_flatMap_utf8EncodeChar (cs : List Char) :
    (cs.flatMap String.utf8EncodeChar).length = byteLength cs := by
  rw [byteLength_eq_size, List.utf8Encode, List.size_toByteArray]

/-- The bytes behind the front of a text are those of its back. -/
theorem byte_behind {s : String} {front back : List Char} (h : s.toList = front ++ back) (k : Nat) :
    s.toUTF8[byteLength front + k]? = (back.flatMap String.utf8EncodeChar)[k]? := by
  rw [String.toUTF8_eq_toByteArray, ← String.utf8Encode_toList, h, List.utf8Encode,
    getElem?_toByteArray, List.flatMap_append, List.getElem?_append_right, length_flatMap_utf8EncodeChar,
    Nat.add_sub_cancel_left]
  rw [length_flatMap_utf8EncodeChar]
  exact Nat.le_add_right _ _

theorem utf8EncodeChar_ascii {c : Char} (h : c.toNat < 128) :
    String.utf8EncodeChar c = [c.val.toUInt8] := by
  apply String.utf8EncodeChar_eq_singleton
  rw [Char.utf8Size_eq_one_iff, UInt32.le_iff_toNat_le]
  exact Nat.le_of_lt_succ h

/-- A character outside ASCII has no byte of an ASCII character. -/
theorem high_of_mem_utf8EncodeChar {c : Char} (h : 128 ≤ c.toNat) {b : UInt8}
    (hb : b ∈ String.utf8EncodeChar c) : 128 ≤ b.toNat := by
  have hascii : ¬ c.val.toNat ≤ 0x7F := by
    have : c.val.toNat = c.toNat := rfl
    omega
  unfold String.utf8EncodeChar at hb
  simp only [if_neg hascii] at hb
  split at hb
  · simp only [List.mem_cons, List.not_mem_nil, or_false] at hb
    rcases hb with rfl | rfl <;> rw [UInt8.toNat_ofNat'] <;> omega
  · split at hb
    · simp only [List.mem_cons, List.not_mem_nil, or_false] at hb
      rcases hb with rfl | rfl | rfl <;> rw [UInt8.toNat_ofNat'] <;> omega
    · simp only [List.mem_cons, List.not_mem_nil, or_false] at hb
      rcases hb with rfl | rfl | rfl | rfl <;> rw [UInt8.toNat_ofNat'] <;> omega

/-- A test of bytes that detects the letters of a class: it accepts them and no byte of another character. -/
structure Detects (p : UInt8 → Bool) (q : Char → Bool) : Prop where
  ascii : ∀ c : Char, c.toNat < 128 → p c.val.toUInt8 = q c
  high : ∀ b : UInt8, 128 ≤ b.toNat → p b = false
  letter : ∀ c : Char, q c = true → c.toNat < 128

theorem detects_of_table {p : UInt8 → Bool} {q : Char → Bool}
    (hascii : ∀ n ∈ List.range 128, p (Char.ofNat n).val.toUInt8 = q (Char.ofNat n))
    (hhigh : ∀ b : UInt8, 128 ≤ b.toNat → p b = false) (hletter : ∀ c, q c = true → c.toNat < 128) :
    Detects p q where
  ascii c hc := by
    have hrow := hascii c.toNat (List.mem_range.mpr hc)
    rwa [Char.ofNat_toNat] at hrow
  high := hhigh
  letter := hletter

/-- A byte outside ASCII is no letter. -/
theorem between_eq_false {first last b : UInt8} (hlast : last.toNat < 128) (h : 128 ≤ b.toNat) :
    (decide (first ≤ b) && decide (b ≤ last)) = false := by
  have hnot : ¬ b ≤ last := by
    rw [UInt8.le_iff_toNat_le]
    omega
  rw [decide_eq_false hnot, Bool.and_false]

theorem detects_small : Detects isSmallByte isSmall :=
  detects_of_table (by decide +kernel) (fun _ => between_eq_false (by decide))
    fun _ => toNat_lt_of_isSmall

theorem detects_capital : Detects isCapitalByte isCapital :=
  detects_of_table (by decide +kernel) (fun _ => between_eq_false (by decide))
    fun _ => toNat_lt_of_isCapital

theorem Detects.any_behind {p : UInt8 → Bool} {q : Char → Bool} (hdetects : Detects p q) {s : String}
    {front back : List Char} (h : s.toList = front ++ back) :
    s.toUTF8[byteLength front]?.any p = back.head?.any q := by
  have hbyte := byte_behind h 0
  rw [Nat.add_zero] at hbyte
  rw [hbyte]
  cases back with
  | nil => rfl
  | cons c rest =>
      rw [List.flatMap_cons, List.head?_cons, Option.any_some]
      by_cases hc : c.toNat < 128
      · rw [utf8EncodeChar_ascii hc]
        exact hdetects.ascii c hc
      · -- Neither the first byte nor the character is a letter.
        obtain ⟨b, bytes, hbytes⟩ := List.exists_cons_of_ne_nil (String.utf8EncodeChar_ne_nil (c := c))
        have hhigh : 128 ≤ b.toNat :=
          high_of_mem_utf8EncodeChar (Nat.le_of_not_lt hc) (hbytes ▸ List.mem_cons_self)
        have hnot : q c = false := Bool.eq_false_iff.mpr fun hq => hc (hdetects.letter c hq)
        rw [hbytes, hnot]
        exact hdetects.high b hhigh

/-! ## The cursor that runs ahead -/

variable {s : String} {front w back : List Char} {c : Char}

theorem beginsSmall_eq (cs : List Char) : beginsSmall cs = cs.head?.any isSmall := by
  cases cs <;> rfl

theorem byteLength_singleton_ascii (h : c.toNat < 128) : byteLength [c] = 1 := by
  rw [← length_flatMap_utf8EncodeChar, List.flatMap_singleton, utf8EncodeChar_ascii h,
    List.length_singleton]

theorem size_toUTF8 (h : s.toList = front ++ back) :
    s.toUTF8.size = byteLength front + byteLength back := by
  rw [String.toUTF8_eq_toByteArray, ← String.utf8Encode_toList, h, ← byteLength_eq_size,
    byteLength_append]

/-- The second cursor runs to the end of the small letters. -/
theorem smallEnd_of_run (h : s.toList = front ++ w ++ back) (hall : ∀ d ∈ w, isSmall d = true)
    (hcut : beginsSmall back = false) :
    smallEnd s.toUTF8 (byteLength front) = byteLength (front ++ w) := by
  -- The letter that the cursor has passed goes to the front, so the front is left general.
  induction w generalizing front with
  | nil =>
      rw [List.append_nil] at h ⊢
      have hend := detects_small.any_behind h
      rw [← beginsSmall_eq, hcut] at hend
      rw [smallEnd, hend, dif_neg Bool.false_ne_true]
  | cons c w ih =>
      obtain ⟨hc, hw⟩ := List.forall_mem_cons.mp hall
      have hletter := detects_small.any_behind (h.trans (List.append_assoc ..))
      rw [List.cons_append, List.head?_cons, Option.any_some, hc] at hletter
      have hnext : byteLength front + 1 = byteLength (front ++ [c]) := by
        rw [byteLength_append, byteLength_singleton_ascii (toNat_lt_of_isSmall hc)]
      have hsplit : front ++ c :: w = front ++ [c] ++ w := List.append_cons front c w
      rw [smallEnd, dif_pos hletter, hnext, hsplit]
      exact ih (h.trans (by rw [hsplit])) hw

/-- Where a word stands, the second cursor goes through it and stops at its end. -/
theorem smallEnd_of_word (h : s.toList = front ++ w ++ back) (hw : IsWord w)
    (hcut : beginsSmall back = false) :
    smallStart s.toUTF8 (byteLength front) < byteLength (front ++ w)
      ∧ smallEnd s.toUTF8 (smallStart s.toUTF8 (byteLength front)) = byteLength (front ++ w) := by
  have hfirst := detects_capital.any_behind (h.trans (List.append_assoc ..))
  rcases hw with ⟨hne, hall⟩ | ⟨c, run, rfl, hc, hne, hall⟩
  · -- A word of small letters begins where it stands.
    obtain ⟨d, rest, rfl⟩ := List.exists_cons_of_ne_nil hne
    have hd : isCapital d = false := by
      rw [Bool.eq_false_iff]
      intro hcapital
      have hsmall := hall d List.mem_cons_self
      rw [isSmall_of_isCapital hcapital] at hsmall
      exact Bool.false_ne_true hsmall
    rw [List.cons_append, List.head?_cons, Option.any_some, hd] at hfirst
    rw [smallStart, hfirst, if_neg Bool.false_ne_true, smallEnd_of_run h hall hcut]
    refine ⟨?_, rfl⟩
    have hpos := byteLength_pos hne
    rw [byteLength_append]
    omega
  · -- A capital is passed over, and the small letters begin behind it.
    rw [List.cons_append, List.head?_cons, Option.any_some, hc] at hfirst
    have hnext : byteLength front + 1 = byteLength (front ++ [c]) := by
      rw [byteLength_append, byteLength_singleton_ascii (toNat_lt_of_isCapital hc)]
    have hsplit : front ++ c :: run = front ++ [c] ++ run := List.append_cons front c run
    rw [smallStart, hfirst, if_pos rfl, hnext, hsplit, smallEnd_of_run (h.trans (by rw [hsplit])) hall hcut]
    refine ⟨?_, rfl⟩
    have hpos := byteLength_pos hne
    rw [byteLength_append _ run]
    omega

/-! ## The cursor that stands where a word may begin -/

theorem wordRangesFrom_end {bytes : ByteArray} {i : Nat} (h : bytes.size ≤ i) :
    wordRangesFrom bytes i = [] := by
  rw [wordRangesFrom, dif_neg (Nat.not_lt_of_le h)]

/-- A word is found where it stands, if no small letter follows it. -/
theorem wordRangesFrom_word (h : s.toList = front ++ w ++ back) (hw : IsWord w)
    (hcut : beginsSmall back = false) :
    wordRangesFrom s.toUTF8 (byteLength front)
      = ⟨byteLength front, byteLength (front ++ w)⟩
        :: wordRangesFrom s.toUTF8 (byteLength (front ++ w)) := by
  obtain ⟨hstart, hend⟩ := smallEnd_of_word h hw hcut
  have hsize := size_toUTF8 h
  have hfront := le_smallStart s.toUTF8 (byteLength front)
  rw [wordRangesFrom, dif_pos (by omega), hend, dif_pos hstart]

/-- The first cursor goes on by one byte where no small letter stands, or stands behind a capital. -/
theorem wordRangesFrom_step {bytes : ByteArray} {i : Nat} (hi : i < bytes.size)
    (h : bytes[smallStart bytes i]?.any isSmallByte = false) :
    wordRangesFrom bytes i = wordRangesFrom bytes (i + 1) := by
  have hend : smallEnd bytes (smallStart bytes i) = smallStart bytes i := by
    rw [smallEnd, h, dif_neg Bool.false_ne_true]
  rw [wordRangesFrom, dif_pos hi, hend, dif_neg (Nat.lt_irrefl _)]

/-- The first cursor goes through bytes outside ASCII one by one. -/
theorem wordRangesFrom_high {bytes : ByteArray} {i n : Nat}
    (h : ∀ k < n, ∃ b, bytes[i + k]? = some b ∧ 128 ≤ b.toNat) :
    wordRangesFrom bytes i = wordRangesFrom bytes (i + n) := by
  induction n with
  | zero => rfl
  | succ n ih =>
      obtain ⟨b, hb, hhigh⟩ := h n (Nat.lt_succ_self n)
      have hsmall : bytes[i + n]?.any isSmallByte = false := by
        rw [hb]
        exact detects_small.high b hhigh
      have hcapital : bytes[i + n]?.any isCapitalByte = false := by
        rw [hb]
        exact detects_capital.high b hhigh
      have hnot : bytes[smallStart bytes (i + n)]?.any isSmallByte = false := by
        rw [smallStart, hcapital, if_neg Bool.false_ne_true, hsmall]
      have hsize : i + n < bytes.size := (getElem?_eq_some_iff.mp hb).1
      rw [ih fun k hk => h k (hk.trans (Nat.lt_succ_self n)), wordRangesFrom_step hsize hnot]
      rfl

/-- **A character that begins no word is passed over**, whatever the number of its bytes. -/
theorem wordRangesFrom_skip (h : s.toList = front ++ c :: back) (hc : isSmall c = false)
    (hcut : isCapital c = true → beginsSmall back = false) :
    wordRangesFrom s.toUTF8 (byteLength front) = wordRangesFrom s.toUTF8 (byteLength (front ++ [c])) := by
  have hsplit : s.toList = front ++ [c] ++ back := h.trans (List.append_cons front c back)
  by_cases hascii : c.toNat < 128
  · have hnext : byteLength (front ++ [c]) = byteLength front + 1 := by
      rw [byteLength_append, byteLength_singleton_ascii hascii]
    have hsize := size_toUTF8 hsplit
    rw [hnext]
    apply wordRangesFrom_step (by omega)
    have hcapital := detects_capital.any_behind h
    rw [List.head?_cons, Option.any_some] at hcapital
    rw [smallStart, hcapital]
    split
    · rename_i hbig
      rw [← hnext, detects_small.any_behind hsplit, ← beginsSmall_eq]
      exact hcut hbig
    · rw [detects_small.any_behind h, List.head?_cons, Option.any_some]
      exact hc
  · rw [byteLength_append]
    apply wordRangesFrom_high
    intro k hk
    rw [← length_flatMap_utf8EncodeChar, List.flatMap_singleton] at hk
    refine ⟨(String.utf8EncodeChar c)[k], ?_, ?_⟩
    · rw [byte_behind h, List.flatMap_cons, List.getElem?_append_left hk, List.getElem?_eq_getElem hk]
    · exact high_of_mem_utf8EncodeChar (Nat.le_of_not_lt hascii) (List.getElem_mem hk)

/-! ## The search -/

/-- Only the first letter of a word may be a capital. -/
theorem IsWord.small_of_mem_tail {rest : List Char} (h : IsWord (c :: rest)) :
    ∀ d ∈ rest, isSmall d = true := by
  rcases h with ⟨-, hall⟩ | ⟨c', rest', heq, -, -, hall⟩
  · exact fun d hd => hall d (List.mem_cons_of_mem c hd)
  · rwa [(List.cons.inj heq).2]

/-- No word begins at a character that is passed over. -/
theorem not_isWord_of_skip {v after : List Char} (hc : isSmall c = false)
    (hcut : isCapital c = true → beginsSmall back = false) (h : c :: back = v ++ after) : ¬ IsWord v := by
  intro hv
  obtain ⟨d, run, rfl⟩ := List.exists_cons_of_ne_nil hv.ne_nil
  obtain ⟨rfl, rfl⟩ := List.cons.inj h
  rcases hv with ⟨-, hall⟩ | ⟨d, run', heq, hd, hne, hall⟩
  · have hsmall := hall c List.mem_cons_self
    rw [hc] at hsmall
    exact Bool.false_ne_true hsmall
  · obtain ⟨rfl, rfl⟩ := List.cons.inj heq
    obtain ⟨e, rest, rfl⟩ := List.exists_cons_of_ne_nil hne
    exact Bool.false_ne_true ((hcut hd).symm.trans (hall e List.mem_cons_self))

/-- A word is the longest one at its place, if no small letter follows it. -/
theorem IsWord.longest {v after : List Char} (hw : IsWord w) (hcut : beginsSmall back = false)
    (hv : IsWord v) (h : w ++ back = v ++ after) : byteLength v ≤ byteLength w := by
  by_contra hlonger
  -- A longer word would have the first character behind this one among its small letters.
  obtain ⟨m, rfl, rfl⟩ := exists_of_byteLength_le h (Nat.le_of_not_le hlonger)
  obtain ⟨c, rest, rfl⟩ := List.exists_cons_of_ne_nil hw.ne_nil
  cases m with
  | nil => exact hlonger (by rw [List.append_nil])
  | cons d m =>
      have hd : isSmall d = true :=
        hv.small_of_mem_tail d (List.mem_append_right rest List.mem_cons_self)
      exact Bool.false_ne_true (hcut.symm.trans hd)

/-- **What the two cursors find in the rest of a text are the successive matches in it**, and the slices at
these ranges are its words. -/
theorem Scan.searches {cs : List Char} {ws : List (List Char)} (hscan : Scan cs ws)
    (h : s.toList = front ++ cs) :
    Successive wordExpression.matches' s (byteLength front) (wordRangesFrom s.toUTF8 (byteLength front))
      ∧ (wordRangesFrom s.toUTF8 (byteLength front)).mapM (slice? s) = some (ws.map String.ofList) := by
  induction hscan generalizing front with
  | nil =>
      have hend : s.toUTF8.size ≤ byteLength front := by
        rw [size_toUTF8 h, byteLength_nil, Nat.add_zero]
      rw [wordRangesFrom_end hend]
      -- Behind the text there is only the empty one, which is no word.
      refine ⟨.done fun r hr hi => ?_, rfl⟩
      obtain ⟨m, v, after, hnil, hv, -⟩ := hr.behind h hi
      have hempty : v = [] := (List.append_eq_nil_iff.mp (List.append_eq_nil_iff.mp hnil.symm).2).1
      exact (mem_wordExpression_iff.mp hv).ne_nil hempty
  | @skip c rest ws hc hcut _ ih =>
      obtain ⟨hsearch, hslices⟩ := ih (h.trans (List.append_cons front c rest))
      rw [wordRangesFrom_skip h hc hcut]
      -- No match begins at the character, so those from here on are those from behind it on.
      refine ⟨hsearch.earlier (by rw [byteLength_append]; omega) fun r hr hi => ?_, hslices⟩
      obtain ⟨m, v, after, hrest, hv, rfl⟩ := hr.behind h hi
      cases m with
      | nil => exact absurd (mem_wordExpression_iff.mp hv) (not_isWord_of_skip hc hcut hrest)
      | cons d m =>
          obtain ⟨rfl, -⟩ := List.cons.inj hrest
          show byteLength (front ++ [c]) ≤ byteLength (front ++ c :: m)
          rw [List.append_cons front c m, byteLength_append _ m]
          exact Nat.le_add_right _ _
  | @word w rest ws hw hcut _ ih =>
      have hsplit : s.toList = front ++ w ++ rest := h.trans (List.append_assoc ..).symm
      obtain ⟨hsearch, hslices⟩ := ih hsplit
      rw [wordRangesFrom_word hsplit hw hcut]
      constructor
      · have hmatch : MatchesAt wordExpression.matches' s ⟨byteLength front, byteLength (front ++ w)⟩ :=
          matchesAt_iff.mpr ⟨front, w, rest, hsplit, mem_wordExpression_iff.mpr hw, rfl⟩
        -- It begins where the search stands; what else begins there is no longer.
        refine .next hmatch le_rfl (fun r' _ hi => hi) (fun r' hr' hstart => ?_) hsearch
        obtain ⟨m, v, after, hrest, hv, rfl⟩ := hr'.behind h hstart.ge
        have hempty : m = [] := by
          have hplace : byteLength (front ++ m) = byteLength front := hstart
          rw [byteLength_append] at hplace
          exact byteLength_eq_zero_iff.mp (by omega)
        rw [hempty, List.nil_append] at hrest
        have hle := hw.longest hcut (mem_wordExpression_iff.mp hv) hrest
        show byteLength (front ++ m ++ v) ≤ byteLength (front ++ w)
        rw [hempty, List.append_nil, byteLength_append, byteLength_append]
        omega
      · rw [List.mapM_cons, slice?_of_split hsplit, hslices, List.map_cons]
        rfl

/-- **Ranges that take a text apart into its words**: they are what the search for `[A-Z]?[a-z]+` finds in it;
each has a word between characters of the text; they stand in their order, without an overlap; and every
small letter is in exactly one of them. -/
structure TakesApart (s : String) (ranges : List ByteRange) : Prop where
  found : ∀ rs, Successive wordExpression.matches' s 0 rs ↔ rs = ranges
  inside : ∀ r ∈ ranges, r.start < r.stop ∧ r.stop ≤ s.utf8ByteSize
    ∧ (String.Pos.Raw.mk r.start).IsValid s ∧ (String.Pos.Raw.mk r.stop).IsValid s
  ordered : ranges.Pairwise fun r r' => r.stop ≤ r'.start
  letters : ∀ before c after, s.toList = before ++ c :: after → isSmall c = true →
    ∃! r, r ∈ ranges ∧ r.start ≤ byteLength before ∧ byteLength before < r.stop

/-- Where a word matches, the ends of the range are boundaries of characters. -/
theorem inside_of_matchesAt {r : ByteRange} (h : MatchesAt wordExpression.matches' s r) :
    r.start < r.stop ∧ r.stop ≤ s.utf8ByteSize
      ∧ (String.Pos.Raw.mk r.start).IsValid s ∧ (String.Pos.Raw.mk r.stop).IsValid s := by
  obtain ⟨before, v, after, hs, hv, rfl⟩ := matchesAt_iff.mp h
  have hstart : (String.Pos.Raw.mk (byteLength before)).IsValid s :=
    isValid_iff.mpr ⟨before, v ++ after, by rw [hs, List.append_assoc], rfl⟩
  have hstop : (String.Pos.Raw.mk (byteLength (before ++ v))).IsValid s :=
    isValid_iff.mpr ⟨before ++ v, after, hs, rfl⟩
  have hpos := byteLength_pos (mem_wordExpression_iff.mp hv).ne_nil
  refine ⟨?_, hstop.le_utf8ByteSize, hstart, hstop⟩
  show byteLength before < byteLength (before ++ v)
  rw [byteLength_append]
  omega

/-- **A search for words takes the text apart**: a small letter is a match by itself. -/
theorem Successive.takesApart {ranges : List ByteRange} (h : Successive wordExpression.matches' s 0 ranges) :
    TakesApart s ranges where
  found rs := ⟨fun hrs => hrs.unique h, fun hrs => hrs ▸ h⟩
  inside r hr := inside_of_matchesAt (h.matchesAt_of_mem r hr).1
  ordered := h.ordered
  letters before c after hs hc := by
    have hletter : IsWord [c] := Or.inl ⟨List.cons_ne_nil c [], List.forall_mem_singleton.mpr hc⟩
    have hmatch : MatchesAt wordExpression.matches' s ⟨byteLength before, byteLength (before ++ [c])⟩ :=
      matchesAt_iff.mpr ⟨before, [c], after, hs.trans (List.append_cons before c after),
        mem_wordExpression_iff.mpr hletter, rfl⟩
    obtain ⟨r, hr, hplace⟩ := h.covers hmatch (Nat.zero_le _)
    exact ⟨r, ⟨hr, hplace⟩, fun r' hr' => eq_of_ordered h.ordered hr'.1 hr hr'.2 hplace⟩

/-- The two cursors search the whole text, and find its words. -/
theorem searches_wordRanges (s : String) :
    Successive wordExpression.matches' s 0 (wordRanges s)
      ∧ wordSlices? s = some ((words s.toList).map String.ofList) := by
  have hwhole : s.toList = [] ++ s.toList := rfl
  have hsearch := (scan_words s.toList).searches hwhole
  rw [byteLength_nil] at hsearch
  exact hsearch

/-- **The delimited form of a name is the join of its words.** The two cursors find the successive
leftmost-longest matches of `[A-Z]?[a-z]+`, and there is always a slice at their ranges.  Of a name without a
delimiter the form is these slices in lowercase, joined by delimiters: it is empty exactly if the name has no
small letter, and `[a-z]+(_[a-z]+)*` matches it otherwise. -/
theorem delimited_joins_words {s : String} (h : delimiter ∉ s.toList) :
    TakesApart s (wordRanges s) ∧
      (∃ ws, wordSlices? s = some ws ∧ delimited s = "_".intercalate (ws.map lowercase)) ∧
      (delimited s = "" ↔ ∀ c ∈ s.toList, isSmall c = false) ∧
      (delimited s ≠ "" → (delimited s).toList ∈ delimitedExpression.matches') := by
  obtain ⟨hsearch, hslices⟩ := searches_wordRanges s
  have hform : (delimited s).toList = [delimiter].intercalate ((words s.toList).map Unicode.lower) := by
    rw [toList_delimited, delimitedChars_eq_intercalate h]
  have hempty : delimited s = "" ↔ delimitedChars s.toList = [] := by
    rw [← toList_delimited, String.toList_eq_nil_iff]
  refine ⟨hsearch.takesApart, ⟨_, hslices, ?_⟩, ?_, fun hne => ?_⟩
  · have hlower : ∀ w : List Char, (lowercase (String.ofList w)).toList = Unicode.lower w := by
      intro w
      rw [lowercase, String.toList_ofList, String.toList_ofList]
    rw [← String.toList_inj, hform, String.toList_intercalate, List.map_map, List.map_map]
    exact congrArg _ (List.map_congr_left fun w _ => (hlower w).symm)
  · rw [hempty, delimitedChars_eq_nil_iff]
    exact and_iff_right h
  · rw [hform]
    refine intercalate_mem_delimitedExpression (fun hnil => hne ?_) fun _ => isSmallWord_of_mem_lowered
    rw [← String.toList_eq_nil_iff, hform, hnil]
    rfl

/-- A character of two bytes, capitals by themselves and a digit stand between the words or before them. -/
theorem delimited_joins_words_mixed :
    delimiter ∉ "éURLPath2of".toList ∧ TakesApart "éURLPath2of" [⟨5, 9⟩, ⟨10, 12⟩]
      ∧ wordSlices? "éURLPath2of" = some ["Path", "of"] ∧ delimited "éURLPath2of" = "path_of"
      ∧ "path_of".toList ∈ delimitedExpression.matches' := by
  have hdelim : delimiter ∉ "éURLPath2of".toList := by decide +kernel
  have hranges : wordRanges "éURLPath2of" = [⟨5, 9⟩, ⟨10, 12⟩] := by decide +kernel
  have hslices : wordSlices? "éURLPath2of" = some ["Path", "of"] := by decide +kernel
  obtain ⟨happart, ⟨ws, hws, hjoin⟩, -, hmatches⟩ := delimited_joins_words hdelim
  have hform : delimited "éURLPath2of" = "path_of" := by
    rw [hjoin, ← Option.some.inj (hslices.symm.trans hws)]
    decide +kernel
  refine ⟨hdelim, hranges ▸ happart, hslices, hform, ?_⟩
  have hne : delimited "éURLPath2of" ≠ "" := by
    rw [hform]
    decide +kernel
  exact hform ▸ hmatches hne

end EntityAudit.Identifier
