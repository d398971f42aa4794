import Mathlib.Computability.RegularExpressions
import EntityAudit.Proofs.Identifier.RoundTrip

/-!
# `EntityAudit.Proofs.Identifier.Expression` — the regular expressions of names

What a word is, and what a name in its delimited form looks like, can be said by regular expressions.
They are spelled out here, letter class by letter class; what they match are the words that the search
finds, and the joins of words in lowercase.

## Contents

* `oneOf`, `oneOrMore`, `capitals`, `smalls` — letter classes
* `wordExpression`, `mem_wordExpression_iff` — `[A-Z]?[a-z]+` matches the words
* `delimitedExpression`, `intercalate_mem_delimitedExpression` — `[a-z]+(_[a-z]+)*` matches joined words
* `HasWord`, `hasWord_iff` — a text has a match exactly if it has a small letter
-/

namespace EntityAudit.Identifier

open RegularExpression (char star)

/-! ## Letter classes -/

/-- One of several characters. -/
def oneOf : List Char → RegularExpression Char
  | [] => 0
  | c :: rest => char c + oneOf rest

/-- One or more of several characters. -/
def oneOrMore (cs : List Char) : RegularExpression Char := oneOf cs * star (oneOf cs)

/-- The class `[A-Z]`. -/
def capitals : List Char := "ABCDEFGHIJKLMNOPQRSTUVWXYZ".toList

/-- The class `[a-z]`. -/
def smalls : List Char := "abcdefghijklmnopqrstuvwxyz".toList

theorem mem_oneOf_iff {cs w : List Char} : w ∈ (oneOf cs).matches' ↔ ∃ c ∈ cs, w = [c] := by
  induction cs with
  | nil => simp [oneOf]
  | cons c rest ih =>
      rw [oneOf, RegularExpression.matches'_add, Language.mem_add, ih, List.exists_mem_cons_iff]
      exact or_congr_left Iff.rfl

/-- A run of characters of a class is not empty and has no others. -/
theorem mem_oneOrMore_iff {cs w : List Char} : w ∈ (oneOrMore cs).matches' ↔ w ≠ [] ∧ ∀ d ∈ w, d ∈ cs := by
  rw [oneOrMore, RegularExpression.matches'_mul, Language.mem_mul]
  constructor
  · rintro ⟨a, ha, b, hb, rfl⟩
    obtain ⟨c, hc, rfl⟩ := mem_oneOf_iff.mp ha
    obtain ⟨parts, rfl, hparts⟩ := Language.mem_kstar.mp hb
    refine ⟨List.cons_ne_nil c _, List.forall_mem_cons.mpr ⟨hc, fun d hd => ?_⟩⟩
    obtain ⟨part, hpart, hmem⟩ := List.mem_flatten.mp hd
    obtain ⟨e, he, rfl⟩ := mem_oneOf_iff.mp (hparts part hpart)
    rwa [List.mem_singleton.mp hmem]
  · rintro ⟨hne, hall⟩
    obtain ⟨c, rest, rfl⟩ := List.exists_cons_of_ne_nil hne
    obtain ⟨hc, hrest⟩ := List.forall_mem_cons.mp hall
    have hflatten : rest = (rest.map fun d => [d]).flatten := by
      rw [← List.flatMap_def, List.flatMap_singleton']
    refine ⟨[c], mem_oneOf_iff.mpr ⟨c, hc, rfl⟩, rest, Language.mem_kstar.mpr ⟨_, hflatten, ?_⟩, rfl⟩
    intro part hpart
    obtain ⟨d, hd, rfl⟩ := List.mem_map.mp hpart
    exact mem_oneOf_iff.mpr ⟨d, hrest d hd, rfl⟩

/-- A class of ASCII letters is what a test of ASCII letters accepts, if they agree on ASCII. -/
theorem mem_iff_of_ascii {cs : List Char} {p : Char → Bool} (hcs : cs.all (·.toNat < 128) = true)
    (hp : ∀ c, p c = true → c.toNat < 128)
    (hagree : ∀ n ∈ List.range 128, Char.ofNat n ∈ cs ↔ p (Char.ofNat n) = true) (c : Char) :
    c ∈ cs ↔ p c = true := by
  have hrow : c.toNat < 128 → (c ∈ cs ↔ p c = true) := by
    intro hascii
    have hc := hagree c.toNat (List.mem_range.mpr hascii)
    rwa [Char.ofNat_toNat] at hc
  exact ⟨fun h => (hrow (of_decide_eq_true (List.all_eq_true.mp hcs c h))).mp h,
    fun h => (hrow (hp c h)).mpr h⟩

theorem mem_smalls_iff {c : Char} : c ∈ smalls ↔ isSmall c = true :=
  mem_iff_of_ascii (by decide +kernel) (fun _ => toNat_lt_of_isSmall) (by decide +kernel) c

theorem mem_capitals_iff {c : Char} : c ∈ capitals ↔ isCapital c = true :=
  mem_iff_of_ascii (by decide +kernel) (fun _ => toNat_lt_of_isCapital) (by decide +kernel) c

theorem mem_smallRun_iff {w : List Char} : w ∈ (oneOrMore smalls).matches' ↔ IsSmallWord w := by
  rw [mem_oneOrMore_iff, IsSmallWord]
  exact and_congr_right fun _ => forall₂_congr fun _ _ => mem_smalls_iff

/-! ## Words -/

/-- The regular expression `[A-Z]?[a-z]+`. -/
def wordExpression : RegularExpression Char := (1 + oneOf capitals) * oneOrMore smalls

/-- **The words are what `[A-Z]?[a-z]+` matches.** -/
theorem mem_wordExpression_iff {w : List Char} : w ∈ wordExpression.matches' ↔ IsWord w := by
  rw [wordExpression, RegularExpression.matches'_mul, Language.mem_mul, RegularExpression.matches'_add,
    RegularExpression.matches'_epsilon]
  constructor
  · rintro ⟨front, hfront, run, hrun, rfl⟩
    have hsmall := mem_smallRun_iff.mp hrun
    rcases (Language.mem_add _ _ _).mp hfront with hnone | hone
    · rw [(Language.mem_one _).mp hnone]
      exact Or.inl hsmall
    · obtain ⟨c, hc, rfl⟩ := mem_oneOf_iff.mp hone
      exact Or.inr ⟨c, run, rfl, mem_capitals_iff.mp hc, hsmall⟩
  · rintro (hsmall | ⟨c, run, rfl, hc, hsmall⟩)
    · exact ⟨[], Or.inl rfl, w, mem_smallRun_iff.mpr hsmall, rfl⟩
    · exact ⟨[c], Or.inr (mem_oneOf_iff.mpr ⟨c, mem_capitals_iff.mpr hc, rfl⟩), run,
        mem_smallRun_iff.mpr hsmall, rfl⟩

/-- A text in which something stands that `[A-Z]?[a-z]+` matches. -/
def HasWord (cs : List Char) : Prop :=
  ∃ before w after, cs = before ++ w ++ after ∧ w ∈ wordExpression.matches'

/-- **A text has a word exactly if it has a small letter**, which is one by itself. -/
theorem hasWord_iff {cs : List Char} : HasWord cs ↔ ∃ c ∈ cs, isSmall c = true := by
  constructor
  · rintro ⟨before, w, after, rfl, hw⟩
    have hsmall : ∃ c ∈ w, isSmall c = true := by
      rcases mem_wordExpression_iff.mp hw with ⟨hne, hall⟩ | ⟨c, rest, rfl, -, hne, hall⟩
      · obtain ⟨d, hd⟩ := List.exists_mem_of_ne_nil w hne
        exact ⟨d, hd, hall d hd⟩
      · obtain ⟨d, hd⟩ := List.exists_mem_of_ne_nil rest hne
        exact ⟨d, List.mem_cons_of_mem c hd, hall d hd⟩
    obtain ⟨c, hc, hs⟩ := hsmall
    exact ⟨c, List.mem_append_left after (List.mem_append_right before hc), hs⟩
  · rintro ⟨c, hc, hs⟩
    obtain ⟨before, after, rfl⟩ := List.append_of_mem hc
    refine ⟨before, [c], after, (List.append_cons before c after), mem_wordExpression_iff.mpr ?_⟩
    exact Or.inl ⟨List.cons_ne_nil c [], List.forall_mem_singleton.mpr hs⟩

/-! ## Joined words -/

/-- The regular expression `[a-z]+(_[a-z]+)*`. -/
def delimitedExpression : RegularExpression Char :=
  oneOrMore smalls * star (char delimiter * oneOrMore smalls)

/-- Small words with delimiters between them are what `[a-z]+(_[a-z]+)*` matches. -/
theorem intercalate_mem_delimitedExpression {ws : List (List Char)} (hne : ws ≠ [])
    (h : ∀ w ∈ ws, IsSmallWord w) : [delimiter].intercalate ws ∈ delimitedExpression.matches' := by
  obtain ⟨first, others, rfl⟩ := List.exists_cons_of_ne_nil hne
  obtain ⟨hfirst, hothers⟩ := List.forall_mem_cons.mp h
  rw [delimitedExpression, RegularExpression.matches'_mul, Language.mem_mul, Text.intercalate_cons]
  refine ⟨first, mem_smallRun_iff.mpr hfirst, _, Language.mem_kstar.mpr ?_, rfl⟩
  refine ⟨others.map (delimiter :: ·), List.flatMap_def .., fun part hpart => ?_⟩
  obtain ⟨w, hw, rfl⟩ := List.mem_map.mp hpart
  exact ⟨[delimiter], rfl, w, mem_smallRun_iff.mpr (hothers w hw), rfl⟩

end EntityAudit.Identifier
