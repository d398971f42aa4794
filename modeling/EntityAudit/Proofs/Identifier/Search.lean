import Mathlib.Computability.Language
import EntityAudit.Identifier.Ranges

/-!
# `EntityAudit.Proofs.Identifier.Search` — successive matches in a text

A search for a language goes through a text from the left: it takes the first place where something
matches, the longest match there, and goes on behind it.  Places are counted in bytes, and a match is a
slice of the text, so a range of a search never cuts a character.  What such a search finds is determined
by the language and the text; the matches do not overlap, and every place where something matches is in
one of them.

## Contents

* `byteLength`, `exists_of_byteLength_le` — places in bytes
* `slice?_of_split`, `exists_split_of_slice?` — slices cut a text in three
* `MatchesAt`, `Successive` — matches, and what a search finds
* `Successive.unique`, `Successive.earlier` — it finds one thing, and nothing before its first match
* `Successive.ordered`, `Successive.covers` — the ranges of a search
-/

namespace EntityAudit.Identifier

/-! ## Places in bytes -/

/-- The number of bytes of a text in UTF-8. -/
def byteLength (cs : List Char) : Nat := (String.ofList cs).utf8ByteSize

theorem byteLength_eq_size (cs : List Char) : byteLength cs = cs.utf8Encode.size := by
  rw [byteLength, ← String.size_toByteArray, String.toByteArray_ofList]

@[simp] theorem byteLength_nil : byteLength [] = 0 := by
  rw [byteLength_eq_size, List.utf8Encode_nil, ByteArray.size_empty]

@[simp] theorem byteLength_append (cs ds : List Char) :
    byteLength (cs ++ ds) = byteLength cs + byteLength ds := by
  rw [byteLength_eq_size, List.utf8Encode_append, ByteArray.size_append, ← byteLength_eq_size,
    ← byteLength_eq_size]

theorem byteLength_eq_zero_iff {cs : List Char} : byteLength cs = 0 ↔ cs = [] := by
  rw [byteLength_eq_size, ByteArray.size_eq_zero_iff, List.utf8Encode_eq_empty]

theorem byteLength_pos {cs : List Char} (h : cs ≠ []) : 0 < byteLength cs :=
  Nat.pos_of_ne_zero fun hzero => h (byteLength_eq_zero_iff.mp hzero)

/-- Of two ways to cut a text, the one that comes no later is an earlier cut of the other front. -/
theorem exists_of_byteLength_le {front front' back back' : List Char}
    (h : front ++ back = front' ++ back') (hle : byteLength front ≤ byteLength front') :
    ∃ m, front' = front ++ m ∧ back = m ++ back' := by
  rcases List.append_eq_append_iff.mp h with hlater | ⟨m, hm, hback⟩
  · exact hlater
  · -- The other front is the shorter one, so the two are the same.
    have hempty : m = [] := by
      rw [hm, byteLength_append] at hle
      exact byteLength_eq_zero_iff.mp (by omega)
    rw [hempty, List.append_nil] at hm
    rw [hempty, List.nil_append] at hback
    exact ⟨[], by rw [hm, List.append_nil], hback.symm⟩

theorem isValid_iff {s : String} {i : Nat} :
    (String.Pos.Raw.mk i).IsValid s ↔ ∃ front back, s.toList = front ++ back ∧ i = byteLength front := by
  rw [String.Pos.Raw.isValid_iff_exists_take_toList]
  constructor
  · rintro ⟨n, hn⟩
    refine ⟨s.toList.take n, s.toList.drop n, (List.take_append_drop n _).symm, ?_⟩
    exact hn
  · rintro ⟨front, back, hs, rfl⟩
    refine ⟨front.length, ?_⟩
    rw [hs, List.take_left, byteLength]

/-! ## Slices -/

theorem extract_middle (a b c : ByteArray) : (a ++ b ++ c).extract a.size (a.size + b.size) = b := by
  rw [← ByteArray.size_append, ByteArray.extract_append_size_left,
    ByteArray.extract_append_eq_right rfl ByteArray.size_append]

/-- The middle of a text is its slice between the ends of the middle. -/
theorem slice?_of_split {s : String} {before w after : List Char}
    (h : s.toList = before ++ w ++ after) :
    slice? s ⟨byteLength before, byteLength (before ++ w)⟩ = some (String.ofList w) := by
  have hends : byteLength before ≤ byteLength (before ++ w)
      ∧ (String.Pos.Raw.mk (byteLength before)).IsValid s
      ∧ (String.Pos.Raw.mk (byteLength (before ++ w))).IsValid s := by
    refine ⟨by rw [byteLength_append]; omega, isValid_iff.mpr ?_, isValid_iff.mpr ?_⟩
    · exact ⟨before, w ++ after, by rw [h, List.append_assoc], rfl⟩
    · exact ⟨before ++ w, after, h, rfl⟩
  rw [slice?, dif_pos hends, Option.some.injEq, ← String.toByteArray_inj, String.toByteArray_extract,
    ← String.utf8Encode_toList, h, String.toByteArray_ofList, List.utf8Encode_append,
    List.utf8Encode_append]
  show ByteArray.extract _ (byteLength before) (byteLength (before ++ w)) = _
  rw [byteLength_append, byteLength_eq_size, byteLength_eq_size]
  exact extract_middle _ _ _

/-- A slice cuts the text in three. -/
theorem exists_split_of_slice? {s w : String} {r : ByteRange} (h : slice? s r = some w) :
    ∃ before after, s.toList = before ++ w.toList ++ after
      ∧ r = ⟨byteLength before, byteLength (before ++ w.toList)⟩ := by
  have hends : r.start ≤ r.stop ∧ (String.Pos.Raw.mk r.start).IsValid s
      ∧ (String.Pos.Raw.mk r.stop).IsValid s := by
    by_contra hnot
    rw [slice?, dif_neg hnot] at h
    exact nomatch h
  obtain ⟨hle, hstart, hstop⟩ := hends
  obtain ⟨before, back, hs, hbefore⟩ := isValid_iff.mp hstart
  obtain ⟨front, after, hs', hfront⟩ := isValid_iff.mp hstop
  obtain ⟨m, rfl, rfl⟩ := exists_of_byteLength_le (hs.symm.trans hs') (by omega)
  have hr : r = ⟨byteLength before, byteLength (before ++ m)⟩ := by rw [← hbefore, ← hfront]
  rw [hr, slice?_of_split hs'] at h
  rw [← Option.some.inj h, String.toList_ofList]
  exact ⟨before, after, hs', hr⟩

/-! ## Searches -/

/-- Something matches in the text at the range. -/
def MatchesAt (L : Language Char) (s : String) (r : ByteRange) : Prop :=
  ∃ w, slice? s r = some w ∧ w.toList ∈ L

/-- **The successive leftmost-longest matches of a language in a text**, from a place on.  The first of them
begins where no match begins earlier and ends where no match that begins there ends later; the others are
those from its end on. -/
inductive Successive (L : Language Char) (s : String) : Nat → List ByteRange → Prop where
  | done {i : Nat} (hnone : ∀ r, MatchesAt L s r → ¬ i ≤ r.start) : Successive L s i []
  | next {i : Nat} {r : ByteRange} {rs : List ByteRange} (hmatch : MatchesAt L s r) (hfrom : i ≤ r.start)
      (hleftmost : ∀ r', MatchesAt L s r' → i ≤ r'.start → r.start ≤ r'.start)
      (hlongest : ∀ r', MatchesAt L s r' → r'.start = r.start → r'.stop ≤ r.stop)
      (hmore : Successive L s r.stop rs) : Successive L s i (r :: rs)

variable {L : Language Char} {s : String} {i : Nat} {rs : List ByteRange}

theorem matchesAt_iff {r : ByteRange} :
    MatchesAt L s r ↔ ∃ before w after, s.toList = before ++ w ++ after ∧ w ∈ L
      ∧ r = ⟨byteLength before, byteLength (before ++ w)⟩ := by
  constructor
  · rintro ⟨w, hslice, hw⟩
    obtain ⟨before, after, hs, hr⟩ := exists_split_of_slice? hslice
    exact ⟨before, w.toList, after, hs, hw, hr⟩
  · rintro ⟨before, w, after, hs, hw, rfl⟩
    refine ⟨String.ofList w, slice?_of_split hs, ?_⟩
    rwa [String.toList_ofList]

/-- A match that begins behind a front of the text is a match in what follows the front. -/
theorem MatchesAt.behind {r : ByteRange} {front back : List Char} (h : MatchesAt L s r)
    (hs : s.toList = front ++ back) (hle : byteLength front ≤ r.start) :
    ∃ m v after, back = m ++ (v ++ after) ∧ v ∈ L
      ∧ r = ⟨byteLength (front ++ m), byteLength (front ++ m ++ v)⟩ := by
  obtain ⟨before, v, after, hsplit, hv, rfl⟩ := matchesAt_iff.mp h
  rw [List.append_assoc] at hsplit
  obtain ⟨m, rfl, hback⟩ := exists_of_byteLength_le (hs.symm.trans hsplit) hle
  exact ⟨m, v, after, hback, hv, rfl⟩

theorem MatchesAt.start_le_stop {r : ByteRange} (h : MatchesAt L s r) : r.start ≤ r.stop := by
  obtain ⟨before, w, after, -, -, rfl⟩ := matchesAt_iff.mp h
  exact (Nat.le_add_right _ _).trans_eq (byteLength_append before w).symm

/-- **A search finds one thing only.** -/
theorem Successive.unique {rs' : List ByteRange} (h : Successive L s i rs) (h' : Successive L s i rs') :
    rs = rs' := by
  induction h generalizing rs' with
  | done hnone =>
      cases h' with
      | done _ => rfl
      | next hmatch hfrom _ _ _ => exact absurd hfrom (hnone _ hmatch)
  | @next i r rs hmatch hfrom hleftmost hlongest hmore ih =>
      cases h' with
      | done hnone => exact absurd hfrom (hnone _ hmatch)
      | @next _ r' rs' hmatch' hfrom' hleftmost' hlongest' hmore' =>
          -- Each of the two first matches begins no later than the other, and ends no later.
          have hstart : r.start = r'.start :=
            Nat.le_antisymm (hleftmost r' hmatch' hfrom') (hleftmost' r hmatch hfrom)
          have hstop : r.stop = r'.stop :=
            Nat.le_antisymm (hlongest' r hmatch hstart) (hlongest r' hmatch' hstart.symm)
          obtain rfl : r = r' := by
            cases r
            cases r'
            exact congrArg₂ ByteRange.mk hstart hstop
          rw [ih hmore']

/-- A search may begin earlier if nothing that matches begins in between. -/
theorem Successive.earlier {j : Nat} (h : Successive L s j rs) (hij : i ≤ j)
    (hbetween : ∀ r, MatchesAt L s r → i ≤ r.start → j ≤ r.start) : Successive L s i rs := by
  cases h with
  | done hnone => exact .done fun r hr hi => hnone r hr (hbetween r hr hi)
  | next hmatch hfrom hleftmost hlongest hmore =>
      refine .next hmatch (hij.trans hfrom) (fun r' hr' hi => ?_) hlongest hmore
      exact hleftmost r' hr' (hbetween r' hr' hi)

/-! ## The ranges of a search -/

/-- What a search finds matches, from its place on. -/
theorem Successive.matchesAt_of_mem (h : Successive L s i rs) :
    ∀ r ∈ rs, MatchesAt L s r ∧ i ≤ r.start := by
  induction h with
  | done _ => exact fun r hr => absurd hr List.not_mem_nil
  | next hmatch hfrom _ _ _ ih =>
      refine List.forall_mem_cons.mpr ⟨⟨hmatch, hfrom⟩, fun r hr => ?_⟩
      obtain ⟨hr, hstop⟩ := ih r hr
      exact ⟨hr, (hfrom.trans hmatch.start_le_stop).trans hstop⟩

/-- **The matches of a search do not overlap**, and stand in the order of the text. -/
theorem Successive.ordered (h : Successive L s i rs) : rs.Pairwise fun r r' => r.stop ≤ r'.start := by
  induction h with
  | done _ => exact .nil
  | next _ _ _ _ hmore ih => exact .cons (fun r hr => (hmore.matchesAt_of_mem r hr).2) ih

/-- **Every match begins within one that the search finds.** -/
theorem Successive.covers (h : Successive L s i rs) {m : ByteRange} (hm : MatchesAt L s m)
    (hi : i ≤ m.start) : ∃ r ∈ rs, r.start ≤ m.start ∧ m.start < r.stop := by
  induction h with
  | done hnone => exact absurd hi (hnone m hm)
  | @next i r rs _ _ hleftmost _ _ ih =>
      by_cases hwithin : m.start < r.stop
      · exact ⟨r, List.mem_cons_self, hleftmost m hm hi, hwithin⟩
      · obtain ⟨r', hr', hplace⟩ := ih (Nat.le_of_not_lt hwithin)
        exact ⟨r', List.mem_cons_of_mem r hr', hplace⟩

/-- No place is in two of the ranges. -/
theorem eq_of_ordered {r r' : ByteRange} {p : Nat} (h : rs.Pairwise fun r r' => r.stop ≤ r'.start)
    (hr : r ∈ rs) (hr' : r' ∈ rs) (hp : r.start ≤ p ∧ p < r.stop) (hp' : r'.start ≤ p ∧ p < r'.stop) :
    r = r' := by
  induction h with
  | nil => exact absurd hr List.not_mem_nil
  | @cons first rs hfirst _ ih =>
      rcases List.mem_cons.mp hr with rfl | hrest
      · rcases List.mem_cons.mp hr' with rfl | hrest'
        · rfl
        · have := hfirst r' hrest'
          omega
      · rcases List.mem_cons.mp hr' with rfl | hrest'
        · have := hfirst r hrest
          omega
        · exact ih hrest hrest'

end EntityAudit.Identifier
