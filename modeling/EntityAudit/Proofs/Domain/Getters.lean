import EntityAudit.Proofs.Domain.Extraction
import EntityAudit.Proofs.Identifier.Expression
import EntityAudit.Proofs.Identifier.FixedForms

/-!
# `EntityAudit.Proofs.Domain.Getters` — the names of getters

A getter is named by the stem and the name of a field, which begins with a capital.  Whether that name has
a word is not looked up in it, but in its delimited form, which is empty if there is none.  A name with a
delimiter is only lowercased, so its form is never empty, and it is accepted without a word as well.

## Contents

* `IsGetter` — the stem, and the name of a field that begins with a capital
* `getterField?_iff_form` — the form decides
* `getterField?_iff_word_or_delimiter` — the names that are accepted
* `getter_without_word` — a name without a word that is accepted
-/

namespace EntityAudit

open Identifier (HasWord isSmall isCapital delimiter delimitedChars)

theorem beginsCapital_iff {cs : List Char} :
    beginsCapital cs = true ↔ ∃ c rest, cs = c :: rest ∧ isCapital c = true := by
  constructor
  · intro h
    cases cs with
    | nil => exact absurd h Bool.false_ne_true
    | cons c rest => exact ⟨c, rest, rfl, h⟩
  · rintro ⟨c, rest, rfl, hc⟩
    exact hc

/-- The method has the stem and the name of the field as its name, and the latter begins with a capital. -/
structure IsGetter (method rawName : String) : Prop where
  name_eq : method = getterStem ++ rawName
  capital : ∃ c rest, rawName.toList = c :: rest ∧ isCapital c = true

variable {method rawName : String}

/-- A getter reads a field exactly if the name of the field has a delimited form. -/
theorem getterField?_iff_form :
    getterField? method = some rawName ↔ IsGetter method rawName ∧ delimitedChars rawName.toList ≠ [] := by
  constructor
  · intro h
    obtain ⟨hname, hcapital, hform⟩ := getterField?_eq_some h
    exact ⟨⟨hname, beginsCapital_iff.mp hcapital⟩, hform⟩
  · rintro ⟨⟨hname, hcapital⟩, hform⟩
    have hstem : getterStem.toList.isPrefixOf? method.toList = some rawName.toList := by
      rw [Text.isPrefixOf?_eq_some_iff, hname, String.toList_append]
    have hnonempty : (!(delimitedChars rawName.toList).isEmpty) = true := by
      rwa [Bool.not_eq_true', List.isEmpty_eq_false_iff]
    have hcond : (beginsCapital rawName.toList && !(delimitedChars rawName.toList).isEmpty) = true :=
      Bool.and_eq_true_iff.mpr ⟨beginsCapital_iff.mpr hcapital, hnonempty⟩
    rw [getterField?, hstem]
    show (if (beginsCapital rawName.toList && !(delimitedChars rawName.toList).isEmpty) = true then
      some (String.ofList rawName.toList) else none) = some rawName
    rw [if_pos hcond, String.ofList_toList]

/-- A name has a delimited form exactly if it has a word or a delimiter. -/
theorem delimitedChars_ne_nil_iff {cs : List Char} :
    delimitedChars cs ≠ [] ↔ HasWord cs ∨ delimiter ∈ cs := by
  rw [Ne, Identifier.delimitedChars_eq_nil_iff, Identifier.hasWord_iff, not_and_or, not_not, or_comm]
  refine or_congr_left ?_
  simp only [not_forall, Bool.not_eq_false, exists_prop]

/-- **The getters that read a field** are those where the name of the field has something that
`[A-Z]?[a-z]+` matches, a small letter that is, and besides these the ones where it has a delimiter. -/
theorem getterField?_iff_word_or_delimiter (method rawName : String) :
    (getterField? method = some rawName ↔
      IsGetter method rawName ∧ (HasWord rawName.toList ∨ delimiter ∈ rawName.toList))
    ∧ (HasWord rawName.toList ↔ ∃ c ∈ rawName.toList, isSmall c = true) := by
  refine ⟨?_, Identifier.hasWord_iff⟩
  rw [getterField?_iff_form, delimitedChars_ne_nil_iff]

/-- A capital and a delimiter are the name of a field, but not a word. -/
theorem getter_without_word :
    ¬ ∀ method rawName : String, getterField? method = some rawName ↔
      IsGetter method rawName ∧ HasWord rawName.toList := by
  intro hall
  have hread : getterField? "getX_" = some "X_" := by decide +kernel
  obtain ⟨c, hc, hsmall⟩ := Identifier.hasWord_iff.mp ((hall "getX_" "X_").mp hread).2
  have hnone : "X_".toList.any isSmall = false := by decide +kernel
  exact List.any_eq_false.mp hnone c hc hsmall

end EntityAudit
