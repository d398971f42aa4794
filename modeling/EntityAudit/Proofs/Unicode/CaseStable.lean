import Mathlib.Data.List.Basic
import EntityAudit.Unicode.Case

/-!
# `EntityAudit.Proofs.Unicode.CaseStable` — a text in lowercase stays as it is

Lowercasing twice is lowercasing once.  The table of runs shows it by its rows alone: the place where a
run takes its characters meets no run again, so two rows are compared by their ends and the parity of
their beginnings, and the characters in between are never listed.

## Contents

* `shifted_cases`, `shifted_eq_self` — where the runs take a code point
* `Shift.apart`, `lowerShifts_apart` — no run is taken into another
* `lowerChar_of_mem`, `lower_lower` — images are their own images
* `lowerChar_ascii`, `upperChar_ascii` — the mappings on ASCII
* `Avoids`, `Caseless` — characters that no mapping changes or makes
* `Caseless.count_lower` — a text in lowercase has them as often as the text
* `underscore_mem_upperChar`, `underscore_mem_lower` — no other character has the underscore in its image
-/

namespace EntityAudit.Unicode

/-! ## Runs -/

/-- A code point stays where it is, or one of the runs that contain it moves it. -/
theorem shifted_cases (n : Nat) (runs : List Shift) :
    shifted n runs = n ∨
      ∃ s ∈ runs, s.covers n = true ∧ shifted n runs = ((n : Int) + s.offset).toNat := by
  induction runs with
  | nil => exact Or.inl rfl
  | cons s rest ih =>
      rw [shifted]
      by_cases hlt : n < s.first
      · rw [if_pos hlt]
        exact Or.inl rfl
      · rw [if_neg hlt]
        by_cases hs : s.covers n = true
        · rw [if_pos hs]
          exact Or.inr ⟨s, List.mem_cons_self, hs, rfl⟩
        · rw [if_neg hs]
          rcases ih with hstay | ⟨t, ht, hcov, hmove⟩
          · exact Or.inl hstay
          · exact Or.inr ⟨t, List.mem_cons_of_mem s ht, hcov, hmove⟩

/-- A code point that no run contains stays where it is. -/
theorem shifted_eq_self {n : Nat} {runs : List Shift} (h : ∀ s ∈ runs, s.covers n = false) :
    shifted n runs = n := by
  rcases shifted_cases n runs with hstay | ⟨s, hs, hcov, -⟩
  · exact hstay
  · rw [h s hs] at hcov
    exact absurd hcov Bool.false_ne_true

/-- The first image of a run. -/
def Shift.lowest (s : Shift) : Nat := ((s.first : Int) + s.offset).toNat

/-- The last image of a run. -/
def Shift.highest (s : Shift) : Nat := ((s.last : Int) + s.offset).toNat

/-- Whether all images of a run are code points of characters. -/
def Shift.lands (s : Shift) : Bool :=
  Nat.blt 0 s.lowest
    && (Nat.blt s.highest 0xD800 || (Nat.blt 0xDFFF s.lowest && Nat.blt s.highest 0x110000))

/-- Whether no image of the run `s` is in the run `t`: the two intervals do not meet, or `t` has every
second code point and the images are among those that it skips. -/
def Shift.apart (s t : Shift) : Bool :=
  Nat.blt s.highest t.first || Nat.blt t.last s.lowest
    || (Nat.beq t.step 2 && (Nat.beq s.step 2 || Nat.beq s.first s.last)
      && Nat.beq ((s.lowest + t.first) % 2) 1)

theorem Shift.covers_iff {s : Shift} {n : Nat} :
    s.covers n = true ↔ s.first ≤ n ∧ n ≤ s.last ∧ (n - s.first) % s.step = 0 := by
  simp [Shift.covers, and_assoc]

/-- The images of a run that lands lie between its ends, as far from the first one as the code point is
from the beginning of the run. -/
theorem Shift.image_of_covers {s : Shift} {n : Nat} (hl : s.lands = true) (hn : s.covers n = true) :
    ((n : Int) + s.offset).toNat = s.lowest + (n - s.first)
      ∧ ((n : Int) + s.offset).toNat ≤ s.highest := by
  obtain ⟨hfirst, hlast, -⟩ := Shift.covers_iff.mp hn
  simp only [Shift.lands, Bool.and_eq_true, Nat.blt_eq] at hl
  have hpos : 0 < s.lowest := hl.1
  rw [Shift.lowest] at hpos ⊢
  rw [Shift.highest]
  omega

/-- The image of a code point in a run that lands is the code point of a character. -/
theorem Shift.toNat_ofNat_image {s : Shift} {n : Nat} (hl : s.lands = true)
    (hn : s.covers n = true) :
    (Char.ofNat ((n : Int) + s.offset).toNat).toNat = ((n : Int) + s.offset).toNat := by
  obtain ⟨himage, hhigh⟩ := Shift.image_of_covers hl hn
  simp only [Shift.lands, Bool.or_eq_true, Bool.and_eq_true, Nat.blt_eq] at hl
  have hvalid : ((n : Int) + s.offset).toNat.isValidChar := by
    rw [Nat.isValidChar]
    omega
  rw [Char.ofNat, dif_pos hvalid]
  rfl

/-- Of two runs that are apart, the second does not contain an image of the first. -/
theorem Shift.not_covers_of_apart {s t : Shift} {n : Nat} (hl : s.lands = true)
    (h : s.apart t = true) (hn : s.covers n = true) :
    t.covers ((n : Int) + s.offset).toNat = false := by
  obtain ⟨himage, hhigh⟩ := Shift.image_of_covers hl hn
  obtain ⟨hfirst, hlast, hstep⟩ := Shift.covers_iff.mp hn
  rw [Bool.eq_false_iff]
  intro hcov
  rw [Shift.covers_iff, himage] at hcov
  rw [himage] at hhigh
  obtain ⟨hfirst', hlast', hstep'⟩ := hcov
  simp only [Shift.apart, Bool.or_eq_true, Bool.and_eq_true, Nat.blt_eq, Nat.beq_eq] at h
  rcases h with (hbelow | habove) | ⟨⟨ht, hs | hs⟩, hodd⟩
  · omega
  · omega
  -- The images have all the parity of the first one, which is not that of the run `t`.
  · rw [hs] at hstep
    rw [ht] at hstep'
    omega
  · rw [ht] at hstep'
    omega

/-- The capital i with a dot as a run: its lowercase image is the only one with two characters. -/
def dottedCapital : Shift := ⟨0x0130, 0x0130, 1, 0⟩

/-- No image of a run of the lowercase table is in a run of the table again. -/
theorem lowerShifts_apart :
    (lowerShifts.all fun s => s.lands && (dottedCapital :: lowerShifts).all s.apart) = true := by
  decide +kernel

/-! ## Images are their own images -/

/-- A character whose code point no row of the lowercase tables has is its own lowercase image. -/
theorem lowerChar_eq_self {c : Char} (h : ∀ t ∈ dottedCapital :: lowerShifts, t.covers c.toNat = false) :
    lowerChar c = [c] := by
  have hlookup : lowerSpecial.lookup c.toNat = none := by
    have hdot := h dottedCapital List.mem_cons_self
    have hne : c.toNat ≠ 0x0130 := by
      intro heq
      rw [heq] at hdot
      exact absurd hdot (by decide)
    simp [lowerSpecial, hne]
  have hshift : shifted c.toNat lowerShifts = c.toNat :=
    shifted_eq_self fun t ht => h t (List.mem_cons_of_mem _ ht)
  simp [lowerChar, image, hlookup, hshift]

/-- The lowercase images of a character are their own lowercase images. -/
theorem lowerChar_of_mem {c d : Char} (h : d ∈ lowerChar c) : lowerChar d = [d] := by
  by_cases hdot : c.toNat = 0x0130
  · have hc : lowerChar c = ['i', Char.ofNat 0x0307] := by
      simp [lowerChar, image, hdot, lowerSpecial]
    have hletter : lowerChar 'i' = ['i'] := by decide +kernel
    have hmark : lowerChar (Char.ofNat 0x0307) = [Char.ofNat 0x0307] := by decide +kernel
    rw [hc, List.mem_cons, List.mem_singleton] at h
    rcases h with rfl | rfl
    · exact hletter
    · exact hmark
  · have hlookup : lowerSpecial.lookup c.toNat = none := by simp [lowerSpecial, hdot]
    have hc : lowerChar c = [Char.ofNat (shifted c.toNat lowerShifts)] := by
      simp [lowerChar, image, hlookup]
    have hd : d = Char.ofNat (shifted c.toNat lowerShifts) := by
      rw [hc] at h
      exact List.mem_singleton.mp h
    rcases shifted_cases c.toNat lowerShifts with hstay | ⟨s, hs, hcov, hmove⟩
    · rw [hstay, Char.ofNat_toNat] at hd hc
      rw [hd]
      exact hc
    · -- A run takes it out of the table, and what is in no run stays.
      have hrun := List.all_eq_true.mp lowerShifts_apart s hs
      obtain ⟨hlands, hapart⟩ := Bool.and_eq_true_iff.mp hrun
      rw [hmove] at hd
      refine lowerChar_eq_self fun t ht => ?_
      rw [hd, Shift.toNat_ofNat_image hlands hcov]
      exact Shift.not_covers_of_apart hlands (List.all_eq_true.mp hapart t ht) hcov

/-- No lowercase image is the capital sigma. -/
theorem sigma_notMem_lowerChar (c : Char) : 'Σ' ∉ lowerChar c := by
  intro h
  have hself := lowerChar_of_mem h
  have hsigma : lowerChar 'Σ' = ['σ'] := by decide +kernel
  rw [hsigma] at hself
  exact absurd hself (by decide)

/-! ## Texts -/

/-- The characters of a text in lowercase are their own lowercase images, and none is a capital
sigma. -/
theorem lowerChar_of_mem_lowerAfter {before cs : List Char} {d : Char} (h : d ∈ lowerAfter before cs) :
    lowerChar d = [d] ∧ d ≠ 'Σ' := by
  induction cs generalizing before with
  | nil => exact absurd h List.not_mem_nil
  | cons c rest ih =>
      rw [lowerAfter, List.mem_append] at h
      rcases h with hc | hrest
      · -- The sigma has two images, by its place; any other character has those of the tables.
        by_cases hsigma : c = 'Σ'
        · have hfinal : lowerChar 'ς' = ['ς'] ∧ 'ς' ≠ 'Σ' := by decide +kernel
          have hmedial : lowerChar 'σ' = ['σ'] ∧ 'σ' ≠ 'Σ' := by decide +kernel
          rw [if_pos hsigma, List.mem_singleton] at hc
          rw [hc]
          split
          · exact hfinal
          · exact hmedial
        · rw [if_neg hsigma] at hc
          refine ⟨lowerChar_of_mem hc, fun hd => ?_⟩
          rw [hd] at hc
          exact sigma_notMem_lowerChar c hc
      · exact ih hrest

theorem lowerChar_of_mem_lower {cs : List Char} {d : Char} (h : d ∈ lower cs) :
    lowerChar d = [d] := (lowerChar_of_mem_lowerAfter h).1

theorem sigma_notMem_lower (cs : List Char) : 'Σ' ∉ lower cs :=
  fun h => (lowerChar_of_mem_lowerAfter h).2 rfl

/-- A text without a capital sigma whose characters are their own lowercase images stays as it is. -/
theorem lower_eq_self {cs : List Char} (hsigma : 'Σ' ∉ cs) (h : ∀ d ∈ cs, lowerChar d = [d]) :
    lower cs = cs := by
  rw [lower_of_noSigma hsigma]
  have hsingle : cs.flatMap lowerChar = cs.flatMap fun d => [d] := List.flatMap_congr h
  rw [hsingle, List.flatMap_singleton']

/-- **Lowercasing twice is lowercasing once.** -/
theorem lower_lower (cs : List Char) : lower (lower cs) = lower cs :=
  lower_eq_self (sigma_notMem_lower cs) fun _ => lowerChar_of_mem_lower

/-! ## ASCII -/

/-- The characters with more than one character in an image are outside ASCII. -/
theorem special_not_ascii : ∀ row ∈ lowerSpecial ++ upperSpecial, 128 ≤ row.1 := by decide +kernel

/-- On ASCII the runs are those of the twenty-six letters. -/
theorem shifted_ascii : ∀ n ∈ List.range 128,
    Char.ofNat (shifted n lowerShifts) = (Char.ofNat n).toLower
      ∧ Char.ofNat (shifted n upperShifts) = (Char.ofNat n).toUpper := by
  decide +kernel

/-- A mapping that has only single images on ASCII is there what its runs are. -/
theorem image_ascii {special : List (Nat × List Nat)} {shifts : List Shift} {g : Char → Char}
    (hspecial : ∀ row ∈ special, 128 ≤ row.1)
    (hshifts : ∀ n ∈ List.range 128, Char.ofNat (shifted n shifts) = g (Char.ofNat n)) {c : Char}
    (h : c.toNat < 128) : image special shifts c = [g c] := by
  have hlookup : special.lookup c.toNat = none := by
    rw [List.lookup_eq_none_iff]
    intro row hrow
    have hge := hspecial row hrow
    simp only [bne_iff_ne]
    omega
  have hshift := hshifts c.toNat (List.mem_range.mpr h)
  rw [Char.ofNat_toNat] at hshift
  rw [image, hlookup, hshift]

theorem lowerChar_ascii {c : Char} (h : c.toNat < 128) : lowerChar c = [c.toLower] :=
  image_ascii (fun row hrow => special_not_ascii row (List.mem_append_left _ hrow))
    (fun n hn => (shifted_ascii n hn).1) h

theorem upperChar_ascii {c : Char} (h : c.toNat < 128) : upperChar c = [c.toUpper] :=
  image_ascii (fun row hrow => special_not_ascii row (List.mem_append_right _ hrow))
    (fun n hn => (shifted_ascii n hn).2) h

theorem lower_ascii {cs : List Char} (h : ∀ c ∈ cs, c.toNat < 128) : lower cs = cs.map Char.toLower := by
  have hsigma : 'Σ' ∉ cs := fun hmem => absurd (h 'Σ' hmem) (by decide)
  rw [lower_of_noSigma hsigma, List.map_eq_flatMap]
  exact List.flatMap_congr fun c hc => lowerChar_ascii (h c hc)

/-! ## Characters that no other becomes -/

/-- No run takes a character to the code point `n`, and no longer image has it. -/
def Avoids (n : Nat) (special : List (Nat × List Nat)) (shifts : List Shift) : Prop :=
  (∀ s ∈ shifts, s.highest < n ∨ n < s.lowest) ∧ ∀ row ∈ special, n ∉ row.2

instance (n : Nat) (special : List (Nat × List Nat)) (shifts : List Shift) :
    Decidable (Avoids n special shifts) := by
  unfold Avoids
  infer_instance

theorem eq_toNat_of_ofNat {n : Nat} {c : Char} (hc : c.toNat ≠ 0) (h : Char.ofNat n = c) :
    n = c.toNat := by
  by_cases hvalid : n.isValidChar
  · rw [Char.ofNat, dif_pos hvalid] at h
    exact congrArg Char.toNat h
  · rw [Char.ofNat, dif_neg hvalid] at h
    rw [← h] at hc
    exact absurd rfl hc

/-- Where the tables avoid a character, only that character has it in its image. -/
theorem eq_of_mem_image {special : List (Nat × List Nat)} {shifts : List Shift} {c d : Char}
    (hc : c.toNat ≠ 0) (havoid : Avoids c.toNat special shifts) (h : c ∈ image special shifts d) :
    d = c := by
  rw [image] at h
  cases hrow : special.lookup d.toNat with
  | some points =>
      -- A longer image: no row has the character.
      rw [hrow] at h
      obtain ⟨n, hn, heq⟩ := List.mem_map.mp h
      rw [eq_toNat_of_ofNat hc heq] at hn
      obtain ⟨before, after, hsplit, -⟩ := List.lookup_eq_some_iff.mp hrow
      have hmem : (d.toNat, points) ∈ special := by
        rw [hsplit]
        exact List.mem_append_right before List.mem_cons_self
      exact absurd hn (havoid.2 _ hmem)
  | none =>
      rw [hrow] at h
      have heq := eq_toNat_of_ofNat hc (List.mem_singleton.mp h).symm
      rcases shifted_cases d.toNat shifts with hstay | ⟨s, hs, hcov, hmove⟩
      · rw [hstay] at heq
        rw [← Char.ofNat_toNat d, heq, Char.ofNat_toNat]
      · -- A run: the character is outside of the interval of its images.
        obtain ⟨hfirst, hlast, -⟩ := Shift.covers_iff.mp hcov
        have haway := havoid.1 s hs
        rw [hmove] at heq
        rw [Shift.highest, Shift.lowest] at haway
        omega

/-- No mapping changes the character or makes it out of another one. -/
structure Caseless (c : Char) : Prop where
  lower_self : lowerChar c = [c]
  upper_self : upperChar c = [c]
  eq_of_mem_lower : ∀ d, c ∈ lowerChar d → d = c
  eq_of_mem_upper : ∀ d, c ∈ upperChar d → d = c

/-- Punctuation of ASCII is caseless where the tables avoid it. -/
theorem caseless_of_avoids {c : Char} (hascii : c.toNat < 128) (hc : c.toNat ≠ 0)
    (hself : c.toLower = c ∧ c.toUpper = c) (hlower : Avoids c.toNat lowerSpecial lowerShifts)
    (hupper : Avoids c.toNat upperSpecial upperShifts) : Caseless c where
  lower_self := by rw [lowerChar_ascii hascii, hself.1]
  upper_self := by rw [upperChar_ascii hascii, hself.2]
  eq_of_mem_lower _ hd := eq_of_mem_image hc hlower hd
  eq_of_mem_upper _ hd := eq_of_mem_image hc hupper hd

/-- A character that is its own image, and in no other one, is in images as often as it is mapped. -/
theorem count_image {g : Char → List Char} {c : Char} (hself : g c = [c]) (h : ∀ d, c ∈ g d → d = c)
    (d : Char) : (g d).count c = [d].count c := by
  by_cases hd : d = c
  · rw [hd, hself]
  · rw [List.count_eq_zero_of_not_mem fun hmem => hd (h d hmem),
      List.count_eq_zero_of_not_mem fun hmem => hd (List.mem_singleton.mp hmem).symm]

namespace Caseless

variable {c : Char}

/-- The sigma is not caseless in any of its three forms. -/
theorem ne_sigma (h : Caseless c) : c ≠ 'Σ' ∧ c ≠ 'σ' ∧ c ≠ 'ς' := by
  refine ⟨?_, ?_, ?_⟩
  · rintro rfl
    exact absurd h.lower_self (by decide +kernel)
  · rintro rfl
    exact absurd h.upper_self (by decide +kernel)
  · rintro rfl
    exact absurd h.upper_self (by decide +kernel)

theorem count_lowerChar (h : Caseless c) (d : Char) : (lowerChar d).count c = [d].count c :=
  count_image h.lower_self h.eq_of_mem_lower d

theorem count_upperChar (h : Caseless c) (d : Char) : (upperChar d).count c = [d].count c :=
  count_image h.upper_self h.eq_of_mem_upper d

/-- A text in lowercase has a caseless character as often as the text. -/
theorem count_lowerAfter (h : Caseless c) (before cs : List Char) :
    (lowerAfter before cs).count c = cs.count c := by
  induction cs generalizing before with
  | nil => rfl
  | cons d rest ih =>
      rw [lowerAfter, List.count_append, ih, ← List.singleton_append (l := rest),
        List.count_append]
      congr 1
      by_cases hsigma : d = 'Σ'
      · -- Neither the sigma nor one of its two images is caseless.
        obtain ⟨hcapital, hmedial, hfinal⟩ := h.ne_sigma
        rw [if_pos hsigma, hsigma]
        split <;> simp [hcapital.symm, hmedial.symm, hfinal.symm]
      · rw [if_neg hsigma]
        exact h.count_lowerChar d

theorem count_lower (h : Caseless c) (cs : List Char) : (lower cs).count c = cs.count c :=
  h.count_lowerAfter [] cs

theorem mem_of_mem_lower (h : Caseless c) {cs : List Char} (hmem : c ∈ lower cs) : c ∈ cs := by
  rw [← List.count_pos_iff] at hmem ⊢
  rw [h.count_lower] at hmem
  exact hmem

end Caseless

/-! ## The underscore -/

theorem caseless_underscore : Caseless '_' :=
  caseless_of_avoids (by decide) (by decide) (by decide) (by decide +kernel) (by decide +kernel)

/-- Only the underscore has the underscore in its uppercase image. -/
theorem underscore_mem_upperChar {c : Char} (h : '_' ∈ upperChar c) : c = '_' :=
  caseless_underscore.eq_of_mem_upper c h

/-- A text in lowercase has an underscore only where the text has one. -/
theorem underscore_mem_lower {cs : List Char} (h : '_' ∈ lower cs) : '_' ∈ cs :=
  caseless_underscore.mem_of_mem_lower h

end EntityAudit.Unicode
