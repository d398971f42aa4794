import Mathlib.Data.List.TakeWhile
import EntityAudit.Document.Json.Number

/-!
# `EntityAudit.Proofs.Document.Json.Numbers` — how numbers are spelled

A number is spelled by a sign, digits, a fraction and an exponent, of which only the digits must be there.
Where a number ends is not marked, so it is found where what follows cannot continue it.

## Contents

* `IsDigits`, `IsWhole`, `FractionSpelled`, `ExponentSpelled`, `NumberSpelled` — the parts and the whole
* `EndsNumber` — what follows a number
* `scanWhole?_spelled`, `scanFraction?_spelled`, `scanExponent?_spelled`, `scan?_of_spelled` — what is
  spelled is found
* `spelled_of_scan?` — what is found is spelled
-/

namespace EntityAudit.Json

/-! ## Spelling -/

/-- Digits, at least one. -/
def IsDigits (cs : List Char) : Prop := cs ≠ [] ∧ ∀ c ∈ cs, c.isDigit = true

/-- The digits before the point: a zero, or digits that do not begin with one. -/
def IsWhole (cs : List Char) : Prop := cs = ['0'] ∨ IsDigits cs ∧ cs.head? ≠ some '0'

/-- The sign of a number. -/
inductive SignSpelled : List Char → Bool → Prop where
  | none : SignSpelled [] false
  | minus : SignSpelled ['-'] true

/-- The digits after the point, if there are any. -/
inductive FractionSpelled : List Char → Option (List Char) → Prop where
  | none : FractionSpelled [] none
  | point {digits : List Char} (h : IsDigits digits) : FractionSpelled ('.' :: digits) (some digits)

/-- The sign of an exponent. -/
inductive ExponentSignSpelled : List Char → Bool → Prop where
  | none : ExponentSignSpelled [] false
  | plus : ExponentSignSpelled ['+'] false
  | minus : ExponentSignSpelled ['-'] true

/-- The exponent, if there is one. -/
inductive ExponentSpelled : List Char → Option Int → Prop where
  | none : ExponentSpelled [] none
  | mark {mark : Char} {sign digits : List Char} {isNegative : Bool} (hmark : mark = 'e' ∨ mark = 'E')
      (hsign : ExponentSignSpelled sign isNegative) (hdigits : IsDigits digits) :
      ExponentSpelled (mark :: sign ++ digits)
        (some (if isNegative then -(natOf digits : Int) else natOf digits))

/-- How a number may be written. -/
inductive NumberSpelled : List Char → Number → Prop where
  | parts {sign whole fraction exponent : List Char} {isNegative : Bool} {places : Option (List Char)}
      {power : Option Int} {n : Number} (hsign : SignSpelled sign isNegative) (hwhole : IsWhole whole)
      (hfraction : FractionSpelled fraction places) (hexponent : ExponentSpelled exponent power)
      (hvalue : Number.ofParts? isNegative whole places power = some n) :
      NumberSpelled (sign ++ (whole ++ (fraction ++ exponent))) n

/-! ## What follows -/

/-- The text does not begin with a digit. -/
def EndsDigits (cs : List Char) : Prop := ∀ c ∈ cs.head?, c.isDigit = false

theorem endsDigits_cons {c : Char} (h : c.isDigit = false) (rest : List Char) : EndsDigits (c :: rest) := by
  intro d hd
  cases hd
  exact h

/-- The text cannot continue a number. -/
def EndsNumber (cs : List Char) : Prop :=
  EndsDigits cs ∧ ∀ c ∈ cs.head?, c ≠ '.' ∧ c ≠ 'e' ∧ c ≠ 'E'

/-- Digits are taken up to where they end. -/
theorem takeWhile_digits {digits rest : List Char} (hdigits : ∀ c ∈ digits, c.isDigit = true)
    (hrest : EndsDigits rest) :
    (digits ++ rest).takeWhile Char.isDigit = digits
      ∧ (digits ++ rest).dropWhile Char.isDigit = rest := by
  rw [List.takeWhile_append_of_pos hdigits, List.dropWhile_append_of_pos hdigits]
  cases rest with
  | nil => exact ⟨List.append_nil digits, rfl⟩
  | cons c rest =>
      have hc : ¬ c.isDigit = true := Bool.not_eq_true _ ▸ hrest c rfl
      rw [List.takeWhile_cons_of_neg hc, List.dropWhile_cons_of_neg hc, List.append_nil]
      exact ⟨rfl, rfl⟩

theorem isDigits_takeWhile {cs digits : List Char} (h : cs.takeWhile Char.isDigit = digits)
    (hne : digits ≠ []) : IsDigits digits := by
  refine ⟨hne, fun c hc => ?_⟩
  rw [← h] at hc
  exact List.mem_takeWhile_imp hc

/-- Digits begin with one. -/
theorem IsDigits.exists_cons {cs : List Char} (h : IsDigits cs) :
    ∃ d rest, cs = d :: rest ∧ d.isDigit = true ∧ ∀ c ∈ rest, c.isDigit = true := by
  obtain ⟨d, rest, rfl⟩ := List.exists_cons_of_ne_nil h.1
  exact ⟨d, rest, rfl, List.forall_mem_cons.mp h.2⟩

theorem IsWhole.isDigits {cs : List Char} (h : IsWhole cs) : IsDigits cs := by
  rcases h with rfl | ⟨hdigits, -⟩
  · exact ⟨List.cons_ne_nil _ _, List.all_eq_true.mp (by decide)⟩
  · exact hdigits

/-! ## What is spelled is found -/

theorem scanSign_spelled {sign rest : List Char} {isNegative : Bool} (h : SignSpelled sign isNegative)
    (hrest : rest.head? ≠ some '-') : scanSign (sign ++ rest) = (isNegative, rest) := by
  cases h with
  | none =>
      rw [List.nil_append, scanSign.eq_def]
      split
      · exact absurd rfl hrest
      · rfl
  | minus => rfl

theorem scanWhole?_spelled {whole rest : List Char} (h : IsWhole whole) (hrest : EndsDigits rest) :
    scanWhole? (whole ++ rest) = some (whole, rest) := by
  rcases h with rfl | ⟨hdigits, hzero⟩
  · cases rest with
    | nil => rfl
    | cons d rest =>
        have hd : d.isDigit = false := hrest d rfl
        show (if d.isDigit then none else some (['0'], d :: rest)) = _
        rw [hd, if_neg Bool.false_ne_true]
  · obtain ⟨d, digits, rfl, hd, hrest'⟩ := hdigits.exists_cons
    have hne : d ≠ '0' := by
      rintro rfl
      exact hzero rfl
    obtain ⟨htake, hdrop⟩ := takeWhile_digits hrest' hrest
    rw [List.cons_append, scanWhole?.eq_def]
    simp only [if_neg hne, if_pos hd, htake, hdrop]

theorem scanFraction?_spelled {fraction rest : List Char} {places : Option (List Char)}
    (h : FractionSpelled fraction places) (hrest : EndsDigits rest) (hpoint : rest.head? ≠ some '.') :
    scanFraction? (fraction ++ rest) = some (places, rest) := by
  cases h with
  | none =>
      rw [List.nil_append, scanFraction?.eq_def]
      split
      · exact absurd rfl hpoint
      · rfl
  | point hdigits =>
      obtain ⟨htake, hdrop⟩ := takeWhile_digits hdigits.2 hrest
      rw [List.cons_append, scanFraction?, htake, hdrop]
      split
      · exact absurd rfl hdigits.1
      · rfl

theorem scanExponentSign_spelled {sign digits : List Char} {isNegative : Bool}
    (h : ExponentSignSpelled sign isNegative) (hdigits : ¬ EndsDigits digits) :
    scanExponentSign (sign ++ digits) = (isNegative, digits) := by
  cases h with
  | none =>
      rw [List.nil_append, scanExponentSign.eq_def]
      split
      · exact absurd (endsDigits_cons (by decide) _) hdigits
      · exact absurd (endsDigits_cons (by decide) _) hdigits
      · rfl
  | plus => rfl
  | minus => rfl

theorem scanExponent?_spelled {exponent rest : List Char} {power : Option Int}
    (h : ExponentSpelled exponent power) (hrest : EndsDigits rest)
    (hmark : ∀ c ∈ rest.head?, c ≠ 'e' ∧ c ≠ 'E') :
    scanExponent? (exponent ++ rest) = some (power, rest) := by
  cases h with
  | none =>
      cases rest with
      | nil => rfl
      | cons c rest =>
          obtain ⟨he, hE⟩ := hmark c rfl
          rw [List.nil_append, scanExponent?, if_neg (not_or.mpr ⟨he, hE⟩)]
  | @mark mark sign digits isNegative hmark hsign hdigits =>
      obtain ⟨d, others, rfl, hd, -⟩ := hdigits.exists_cons
      obtain ⟨htake, hdrop⟩ := takeWhile_digits hdigits.2 hrest
      have hstart : ¬ EndsDigits (d :: others ++ rest) := by
        intro hends
        rw [hends d rfl] at hd
        exact Bool.false_ne_true hd
      rw [List.cons_append, List.cons_append, List.append_assoc, scanExponent?, if_pos hmark,
        scanExponentSign_spelled hsign hstart]
      simp only [htake, hdrop]

/-- **A spelled number is found** where what follows cannot continue it. -/
theorem scan?_of_spelled {cs rest : List Char} {n : Number} (h : NumberSpelled cs n)
    (hrest : EndsNumber rest) : Number.scan? (cs ++ rest) = some (n, rest) := by
  cases h with
  | @parts sign whole fraction exponent isNegative places power _ hsign hwhole hfraction hexponent hvalue =>
      obtain ⟨hdigits, hothers⟩ := hrest
      -- An exponent begins with its mark, and a fraction with the point.
      have hafterFraction : EndsDigits (exponent ++ rest) ∧ (exponent ++ rest).head? ≠ some '.' := by
        cases hexponent with
        | none => exact ⟨hdigits, fun hpoint => (hothers '.' hpoint).1 rfl⟩
        | mark hmark =>
            rcases hmark with rfl | rfl
            · exact ⟨endsDigits_cons (by decide) _, by simp⟩
            · exact ⟨endsDigits_cons (by decide) _, by simp⟩
      have hafterWhole : EndsDigits (fraction ++ (exponent ++ rest)) := by
        cases hfraction with
        | none => exact hafterFraction.1
        | point => exact endsDigits_cons (by decide) _
      have hafterSign : (whole ++ (fraction ++ (exponent ++ rest))).head? ≠ some '-' := by
        obtain ⟨d, others, rfl, hd, -⟩ := hwhole.isDigits.exists_cons
        intro hminus
        rw [Option.some.inj hminus] at hd
        exact absurd hd (by decide)
      have htext : sign ++ (whole ++ (fraction ++ exponent)) ++ rest
          = sign ++ (whole ++ (fraction ++ (exponent ++ rest))) := by
        simp only [List.append_assoc]
      rw [htext, Number.scan?, scanSign_spelled hsign hafterSign]
      simp only [scanWhole?_spelled hwhole hafterWhole,
        scanFraction?_spelled hfraction hafterFraction.1 hafterFraction.2,
        scanExponent?_spelled hexponent hdigits fun c hc => (hothers c hc).2, hvalue, Option.map_some]

/-! ## What is found is spelled -/

theorem exists_signSpelled (cs : List Char) :
    ∃ sign, cs = sign ++ (scanSign cs).2 ∧ SignSpelled sign (scanSign cs).1 := by
  rw [scanSign.eq_def]
  split
  · exact ⟨['-'], rfl, .minus⟩
  · exact ⟨[], rfl, .none⟩

theorem isWhole_of_scanWhole? {cs whole rest : List Char} (h : scanWhole? cs = some (whole, rest)) :
    cs = whole ++ rest ∧ IsWhole whole := by
  cases cs with
  | nil => cases h
  | cons c tail =>
      rw [scanWhole?.eq_def] at h
      simp only at h
      split at h
      · rename_i hzero
        rw [hzero]
        split at h
        · cases Option.some.inj h
          exact ⟨rfl, Or.inl rfl⟩
        · split at h
          · cases h
          · cases Option.some.inj h
            exact ⟨rfl, Or.inl rfl⟩
      · rename_i hzero
        rw [Option.ite_none_right_eq_some] at h
        obtain ⟨hdigit, hparts⟩ := h
        obtain ⟨rfl, rfl⟩ := Prod.mk.inj (Option.some.inj hparts)
        constructor
        · rw [List.cons_append, List.takeWhile_append_dropWhile]
        · refine Or.inr ⟨⟨List.cons_ne_nil _ _, List.forall_mem_cons.mpr ⟨hdigit, ?_⟩⟩, ?_⟩
          · exact fun d hd => List.mem_takeWhile_imp hd
          · exact fun heq => hzero (Option.some.inj heq)

theorem spelled_of_scanFraction? {cs rest : List Char} {places : Option (List Char)}
    (h : scanFraction? cs = some (places, rest)) :
    ∃ fraction, cs = fraction ++ rest ∧ FractionSpelled fraction places := by
  rw [scanFraction?.eq_def] at h
  split at h
  · rename_i tail
    split at h
    · cases h
    · rename_i digits hne
      obtain ⟨rfl, rfl⟩ := Prod.mk.inj (Option.some.inj h)
      refine ⟨'.' :: tail.takeWhile Char.isDigit, ?_, .point (isDigits_takeWhile rfl hne)⟩
      rw [List.cons_append, List.takeWhile_append_dropWhile]
  · obtain ⟨rfl, rfl⟩ := Prod.mk.inj (Option.some.inj h)
    exact ⟨[], rfl, .none⟩

theorem exists_exponentSignSpelled (cs : List Char) :
    ∃ sign, cs = sign ++ (scanExponentSign cs).2 ∧ ExponentSignSpelled sign (scanExponentSign cs).1 := by
  rw [scanExponentSign.eq_def]
  split
  · exact ⟨['+'], rfl, .plus⟩
  · exact ⟨['-'], rfl, .minus⟩
  · exact ⟨[], rfl, .none⟩

theorem spelled_of_scanExponent? {cs rest : List Char} {power : Option Int}
    (h : scanExponent? cs = some (power, rest)) :
    ∃ exponent, cs = exponent ++ rest ∧ ExponentSpelled exponent power := by
  cases cs with
  | nil =>
      obtain ⟨rfl, rfl⟩ := Prod.mk.inj (Option.some.inj h)
      exact ⟨[], rfl, .none⟩
  | cons c tail =>
      rw [scanExponent?] at h
      split at h
      · rename_i hmark
        obtain ⟨sign, htail, hsign⟩ := exists_exponentSignSpelled tail
        simp only at h
        split at h
        · cases h
        · rename_i digits hne
          obtain ⟨rfl, rfl⟩ := Prod.mk.inj (Option.some.inj h)
          refine ⟨_, ?_, .mark hmark hsign (isDigits_takeWhile rfl hne)⟩
          rw [List.append_assoc, List.takeWhile_append_dropWhile, List.cons_append, ← htail]
      · obtain ⟨rfl, rfl⟩ := Prod.mk.inj (Option.some.inj h)
        exact ⟨[], rfl, .none⟩

/-- **A number that is found is spelled** by what stands before the rest. -/
theorem spelled_of_scan? {cs rest : List Char} {n : Number} (h : Number.scan? cs = some (n, rest)) :
    ∃ body, cs = body ++ rest ∧ NumberSpelled body n := by
  obtain ⟨sign, hcs, hsign⟩ := exists_signSpelled cs
  simp only [Number.scan?] at h
  split at h
  · cases h
  · rename_i whole afterWhole hscanWhole
    split at h
    · cases h
    · rename_i places afterFraction hscanFraction
      split at h
      · cases h
      · rename_i power tail hscanExponent
        obtain ⟨m, hvalue, heq⟩ := Option.map_eq_some_iff.mp h
        obtain ⟨rfl, rfl⟩ := Prod.mk.inj heq
        obtain ⟨hunsigned, hwhole⟩ := isWhole_of_scanWhole? hscanWhole
        obtain ⟨fraction, hafterWhole, hfraction⟩ := spelled_of_scanFraction? hscanFraction
        obtain ⟨exponent, hafterFraction, hexponent⟩ := spelled_of_scanExponent? hscanExponent
        refine ⟨_, ?_, .parts hsign hwhole hfraction hexponent hvalue⟩
        rw [hcs, hunsigned, hafterWhole, hafterFraction]
        simp only [List.append_assoc]

end EntityAudit.Json
