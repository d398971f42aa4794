import Mathlib.Data.List.Basic
import EntityAudit.Document.Json.Text

/-!
# `EntityAudit.Proofs.Document.Json.Strings` — what stands between quotes

A text is spelled character by character: as itself, by a letter after a backslash, by the four digits of
its number, or by those of its two halves.  The scanner reads units first and joins them afterwards; it
finds a text exactly where one is spelled.

## Contents

* `CharSpelled`, `TextSpelled` — how characters and texts are spelled
* `joinUnits?_char`, `joinUnits?_pair` — one character at the front of the units
* `scanUnits?_piece` — a spelled character gives its units
* `scanUnits?_cases` — what the scanner does first
* `scanText?_eq_some_iff` — the scanner finds exactly what is spelled
-/

namespace EntityAudit.Json

/-! ## Spelling -/

/-- How a character may be written between quotes. -/
inductive CharSpelled : List Char → Char → Prop where
  | plain {c : Char} (hquote : c ≠ '"') (hbackslash : c ≠ '\\') (hcontrol : 0x20 ≤ c.toNat) :
      CharSpelled [c] c
  | short {letter c : Char} (h : shortEscape? letter = some c) : CharSpelled ['\\', letter] c
  | unit {x₁ x₂ x₃ x₄ c : Char} (h : numberOf? 16 [x₁, x₂, x₃, x₄] = some c.toNat) :
      CharSpelled ['\\', 'u', x₁, x₂, x₃, x₄] c
  /-- The numbers of the halves make up the number of the character. -/
  | pair {x₁ x₂ x₃ x₄ y₁ y₂ y₃ y₄ c : Char} {n m : Nat}
      (hn : numberOf? 16 [x₁, x₂, x₃, x₄] = some n) (hm : numberOf? 16 [y₁, y₂, y₃, y₄] = some m)
      (hleading : isLeadingHalf n = true) (htrailing : isTrailingHalf m = true)
      (hc : c.toNat = 0x10000 + (n - 0xD800) * 0x400 + (m - 0xDC00)) :
      CharSpelled ['\\', 'u', x₁, x₂, x₃, x₄, '\\', 'u', y₁, y₂, y₃, y₄] c

/-- How a text may be written between quotes: its characters, one after the other. -/
inductive TextSpelled : List Char → List Char → Prop where
  | nil : TextSpelled [] []
  | cons {piece cs text : List Char} {c : Char} (hpiece : CharSpelled piece c)
      (hrest : TextSpelled cs text) : TextSpelled (piece ++ cs) (c :: text)

/-! ## Numbers of characters -/

/-- The number of a character is not that of a half. -/
theorem not_half_toNat (c : Char) : isLeadingHalf c.toNat = false ∧ isTrailingHalf c.toNat = false := by
  have hvalue : c.toNat = c.val.toNat := rfl
  have hvalid : c.val.toNat < 0xD800 ∨ 0xDFFF < c.val.toNat ∧ c.val.toNat < 0x110000 := c.valid
  simp only [isLeadingHalf, isTrailingHalf, Bool.and_eq_false_iff, decide_eq_false_iff_not]
  omega

/-- A number below `0x110000` that is not that of a half is the number of a character. -/
theorem toNat_ofNat {n : Nat} (hn : n < 0x110000) (hleading : isLeadingHalf n = false)
    (htrailing : isTrailingHalf n = false) : (Char.ofNat n).toNat = n := by
  have hvalid : n.isValidChar := by
    simp only [isLeadingHalf, isTrailingHalf, Bool.and_eq_false_iff, decide_eq_false_iff_not] at *
    unfold Nat.isValidChar
    omega
  rw [Char.ofNat, dif_pos hvalid]
  rfl

theorem digitValue?_lt {base d : Nat} {c : Char} (h : digitValue? base c = some d) : d < base := by
  rw [digitValue?, Option.ite_none_right_eq_some] at h
  obtain ⟨hlt, hvalue⟩ := h
  rw [← Option.some.inj hvalue]
  exact hlt

/-- One digit after another. -/
theorem numberAfter?_cons {base n m : Nat} {c : Char} {rest : List Char}
    (h : numberAfter? base n (c :: rest) = some m) :
    ∃ d < base, numberAfter? base (n * base + d) rest = some m := by
  rw [numberAfter?] at h
  split at h
  · cases h
  · rename_i d hd
    exact ⟨d, digitValue?_lt hd, h⟩

/-- Four digits spell a number below `16 ^ 4`. -/
theorem numberOf?_lt {n : Nat} {x₁ x₂ x₃ x₄ : Char} (h : numberOf? 16 [x₁, x₂, x₃, x₄] = some n) :
    n < 0x10000 := by
  obtain ⟨d₁, h₁, h⟩ := numberAfter?_cons h
  obtain ⟨d₂, h₂, h⟩ := numberAfter?_cons h
  obtain ⟨d₃, h₃, h⟩ := numberAfter?_cons h
  obtain ⟨d₄, h₄, h⟩ := numberAfter?_cons h
  rw [← Option.some.inj h]
  omega

/-! ## Joining units -/

/-- The number of a character stands for it. -/
theorem joinUnits?_char (c : Char) (us : List Nat) :
    joinUnits? (c.toNat :: us) = (joinUnits? us).map (c :: ·) := by
  obtain ⟨hleading, htrailing⟩ := not_half_toNat c
  cases us with
  | nil => simp [joinUnits?, hleading, htrailing]
  | cons m rest => simp [joinUnits?, hleading, htrailing]

/-- Two halves stand for one character. -/
theorem joinUnits?_pair {n m : Nat} (hleading : isLeadingHalf n = true)
    (htrailing : isTrailingHalf m = true) (us : List Nat) :
    joinUnits? (n :: m :: us) = (joinUnits? us).map (joined n m :: ·) := by
  simp [joinUnits?, hleading, htrailing]

/-- The number of the character of two halves. -/
theorem toNat_joined {n m : Nat} (hleading : isLeadingHalf n = true)
    (htrailing : isTrailingHalf m = true) :
    (joined n m).toNat = 0x10000 + (n - 0xD800) * 0x400 + (m - 0xDC00) := by
  simp only [isLeadingHalf, isTrailingHalf, Bool.and_eq_true, decide_eq_true_eq] at hleading htrailing
  apply toNat_ofNat
  · omega
  · simp only [isLeadingHalf, Bool.and_eq_false_iff, decide_eq_false_iff_not]
    omega
  · simp only [isTrailingHalf, Bool.and_eq_false_iff, decide_eq_false_iff_not]
    omega

/-- Units that can be joined begin with a character or with two halves. -/
theorem joinUnits?_cases {n : Nat} {us : List Nat} {text : List Char}
    (h : joinUnits? (n :: us) = some text) :
    (isLeadingHalf n = false ∧ isTrailingHalf n = false
        ∧ ∃ rest, joinUnits? us = some rest ∧ text = Char.ofNat n :: rest)
      ∨ (isLeadingHalf n = true ∧ ∃ m vs rest, us = m :: vs ∧ isTrailingHalf m = true
        ∧ joinUnits? vs = some rest ∧ text = joined n m :: rest) := by
  cases us with
  | nil =>
      rw [joinUnits?] at h
      split at h
      · cases h
      · rename_i hhalf
        rw [Bool.not_eq_true, Bool.or_eq_false_iff] at hhalf
        exact Or.inl ⟨hhalf.1, hhalf.2, [], rfl, (Option.some.inj h).symm⟩
  | cons m vs =>
      rw [joinUnits?] at h
      split at h
      · rename_i hleading
        split at h
        · rename_i htrailing
          obtain ⟨rest, hrest, heq⟩ := Option.map_eq_some_iff.mp h
          exact Or.inr ⟨hleading, m, vs, rest, rfl, htrailing, hrest, heq.symm⟩
        · cases h
      · rename_i hleading
        split at h
        · cases h
        · rename_i htrailing
          obtain ⟨rest, hrest, heq⟩ := Option.map_eq_some_iff.mp h
          rw [Bool.not_eq_true] at hleading htrailing
          exact Or.inl ⟨hleading, htrailing, rest, hrest, heq.symm⟩

/-! ## Scanning units -/

theorem scanUnits?_plain {c : Char} (hquote : c ≠ '"') (hbackslash : c ≠ '\\')
    (hcontrol : 0x20 ≤ c.toNat) (tail : List Char) :
    scanUnits? (c :: tail) = (scanUnits? tail).map (consUnit c.toNat) := by
  rw [scanUnits?, if_neg (Nat.not_lt.mpr hcontrol)]
  · exact fun hq => hquote hq
  · exact fun _ _ _ _ _ hb => absurd hb hbackslash
  · exact fun _ _ hb => absurd hb hbackslash

theorem scanUnits?_unit {x₁ x₂ x₃ x₄ : Char} {n : Nat} (hn : numberOf? 16 [x₁, x₂, x₃, x₄] = some n)
    (tail : List Char) :
    scanUnits? ('\\' :: 'u' :: x₁ :: x₂ :: x₃ :: x₄ :: tail) = (scanUnits? tail).map (consUnit n) := by
  rw [scanUnits?, hn]

theorem scanUnits?_short {letter c : Char} (h : shortEscape? letter = some c) (tail : List Char) :
    scanUnits? ('\\' :: letter :: tail) = (scanUnits? tail).map (consUnit c.toNat) := by
  have hletter : letter ≠ 'u' := by
    rintro rfl
    cases h
  rw [scanUnits?, h]
  exact fun _ _ _ _ _ hu => absurd hu hletter

/-- **A spelled character gives its units**, and they stand for it. -/
theorem scanUnits?_piece {piece : List Char} {c : Char} (h : CharSpelled piece c) :
    ∃ us, (∀ tail, scanUnits? (piece ++ tail) = (scanUnits? tail).map fun r => (us ++ r.1, r.2))
      ∧ ∀ vs, joinUnits? (us ++ vs) = (joinUnits? vs).map (c :: ·) := by
  cases h with
  | plain hquote hbackslash hcontrol =>
      exact ⟨[c.toNat], scanUnits?_plain hquote hbackslash hcontrol, joinUnits?_char c⟩
  | short hletter => exact ⟨[c.toNat], scanUnits?_short hletter, joinUnits?_char c⟩
  | unit hn => exact ⟨[c.toNat], scanUnits?_unit hn, joinUnits?_char c⟩
  | @pair _ _ _ _ _ _ _ _ _ n m hn hm hleading htrailing hc =>
      have hjoined : joined n m = c := by
        rw [← Char.toNat_inj, toNat_joined hleading htrailing, hc]
      refine ⟨[n, m], fun tail => ?_, fun vs => ?_⟩
      · simp only [List.cons_append, List.nil_append]
        rw [scanUnits?_unit hn, scanUnits?_unit hm, Option.map_map]
        rfl
      · rw [← hjoined]
        exact joinUnits?_pair hleading htrailing vs

/-- What the scanner does first: it stops at a quote, reads the number of a unit, or reads a character
that is spelled otherwise. -/
theorem scanUnits?_cases {cs rest : List Char} {units : List Nat}
    (h : scanUnits? cs = some (units, rest)) :
    (cs = '"' :: rest ∧ units = [])
      ∨ (∃ x₁ x₂ x₃ x₄ tail n us, cs = '\\' :: 'u' :: x₁ :: x₂ :: x₃ :: x₄ :: tail
        ∧ numberOf? 16 [x₁, x₂, x₃, x₄] = some n ∧ units = n :: us
        ∧ scanUnits? tail = some (us, rest))
      ∨ (∃ piece c tail us, cs = piece ++ tail ∧ CharSpelled piece c ∧ units = c.toNat :: us
        ∧ scanUnits? tail = some (us, rest)) := by
  rw [scanUnits?.eq_def] at h
  split at h
  · cases h
  · obtain ⟨hunits, hrest⟩ := Prod.mk.inj (Option.some.inj h)
    rw [hrest]
    exact Or.inl ⟨rfl, hunits.symm⟩
  · rename_i x₁ x₂ x₃ x₄ tail
    split at h
    · cases h
    · rename_i n hn
      obtain ⟨⟨us, r⟩, hr, heq⟩ := Option.map_eq_some_iff.mp h
      obtain ⟨hunits, rfl⟩ := Prod.mk.inj heq
      exact Or.inr (Or.inl ⟨x₁, x₂, x₃, x₄, tail, n, us, rfl, hn, hunits.symm, hr⟩)
  · rename_i letter tail _
    split at h
    · cases h
    · rename_i c hc
      obtain ⟨⟨us, r⟩, hr, heq⟩ := Option.map_eq_some_iff.mp h
      obtain ⟨hunits, rfl⟩ := Prod.mk.inj heq
      exact Or.inr (Or.inr ⟨['\\', letter], c, tail, us, rfl, .short hc, hunits.symm, hr⟩)
  · rename_i c tail hquote _ hbackslash
    split at h
    · cases h
    · rename_i hcontrol
      obtain ⟨⟨us, r⟩, hr, heq⟩ := Option.map_eq_some_iff.mp h
      obtain ⟨hunits, rfl⟩ := Prod.mk.inj heq
      have hne : c ≠ '\\' := by
        rintro rfl
        -- A backslash at the end of the text is followed by no quote.
        cases tail with
        | nil => cases hr
        | cons d tail => exact hbackslash d tail rfl rfl
      refine Or.inr (Or.inr ⟨[c], c, tail, us, rfl, ?_, hunits.symm, hr⟩)
      exact .plain hquote hne (Nat.le_of_not_lt hcontrol)

/-! ## Texts -/

/-- A spelled text and a quote are scanned to the quote. -/
theorem scanText?_of_spelled {cs text : List Char} (h : TextSpelled cs text) (rest : List Char) :
    ∃ units, scanUnits? (cs ++ '"' :: rest) = some (units, rest) ∧ joinUnits? units = some text := by
  induction h with
  | nil => exact ⟨[], rfl, rfl⟩
  | @cons piece cs text c hpiece _ ih =>
      obtain ⟨us, hscan, hjoin⟩ := scanUnits?_piece hpiece
      obtain ⟨units, hunits, htext⟩ := ih
      refine ⟨us ++ units, ?_, ?_⟩
      · rw [List.append_assoc, hscan, hunits]
        rfl
      · rw [hjoin, htext]
        rfl

/-- What was scanned to a quote and joined is spelled. -/
theorem spelled_of_scanUnits? {cs rest text : List Char} {units : List Nat}
    (hscan : scanUnits? cs = some (units, rest)) (hjoin : joinUnits? units = some text) :
    ∃ body, cs = body ++ '"' :: rest ∧ TextSpelled body text := by
  -- By induction on the length: two halves are read in one step of the joining.
  induction hlength : cs.length using Nat.strongRecOn generalizing cs units text with
  | ind length ih =>
    rcases scanUnits?_cases hscan with ⟨rfl, rfl⟩ | hunit | hchar
    · cases Option.some.inj hjoin
      exact ⟨[], rfl, .nil⟩
    · obtain ⟨x₁, x₂, x₃, x₄, tail, n, us, rfl, hn, rfl, htail⟩ := hunit
      simp only [List.length_cons] at hlength
      rcases joinUnits?_cases hjoin with
        ⟨hleading, htrailing, others, hothers, rfl⟩
        | ⟨hleading, m, vs, others, rfl, htrailing, hothers, rfl⟩
      · obtain ⟨body, rfl, hbody⟩ := ih tail.length (by omega) htail hothers rfl
        refine ⟨_, rfl, .cons (.unit ?_) hbody⟩
        rw [toNat_ofNat (Nat.lt_trans (numberOf?_lt hn) (by decide)) hleading htrailing]
        exact hn
      · -- The second half can only come from the number of a unit.
        rcases scanUnits?_cases htail with ⟨-, hnil⟩ | hunit | hchar
        · cases hnil
        · obtain ⟨y₁, y₂, y₃, y₄, tail', m', us, rfl, hm, hcons, htail'⟩ := hunit
          obtain ⟨rfl, rfl⟩ := List.cons.inj hcons
          simp only [List.length_cons] at hlength
          obtain ⟨body, rfl, hbody⟩ := ih tail'.length (by omega) htail' hothers rfl
          refine ⟨_, rfl, .cons (.pair hn hm hleading htrailing ?_) hbody⟩
          exact toNat_joined hleading htrailing
        · obtain ⟨-, c, -, us, -, -, hcons, -⟩ := hchar
          obtain ⟨rfl, -⟩ := List.cons.inj hcons
          rw [(not_half_toNat c).2] at htrailing
          exact absurd htrailing Bool.false_ne_true
    · obtain ⟨piece, c, tail, us, rfl, hpiece, rfl, htail⟩ := hchar
      rw [joinUnits?_char] at hjoin
      obtain ⟨others, hothers, rfl⟩ := Option.map_eq_some_iff.mp hjoin
      have hne : piece ≠ [] := by
        cases hpiece <;> exact List.cons_ne_nil _ _
      have hpos := List.length_pos_of_ne_nil hne
      rw [List.length_append] at hlength
      obtain ⟨body, rfl, hbody⟩ := ih tail.length (by omega) htail hothers rfl
      refine ⟨piece ++ body, ?_, .cons hpiece hbody⟩
      rw [List.append_assoc]

/-- **The scanner finds exactly the spelled texts**: it reads a text and stops at `rest` if and only if
what stands before `rest` is the text as it may be spelled, and a quote. -/
theorem scanText?_eq_some_iff {cs rest : List Char} {text : String} :
    scanText? cs = some (text, rest) ↔
      ∃ body, cs = body ++ '"' :: rest ∧ TextSpelled body text.toList := by
  rw [scanText?.eq_def]
  constructor
  · intro h
    split at h
    · cases h
    · rename_i units tail hscan
      obtain ⟨chars, hjoin, heq⟩ := Option.map_eq_some_iff.mp h
      obtain ⟨rfl, rfl⟩ := Prod.mk.inj heq
      rw [String.toList_ofList]
      exact spelled_of_scanUnits? hscan hjoin
  · rintro ⟨body, rfl, hbody⟩
    obtain ⟨units, hscan, hjoin⟩ := scanText?_of_spelled hbody rest
    rw [hscan]
    simp only [hjoin, Option.map_some, String.ofList_toList]

end EntityAudit.Json
