import Mathlib.Data.List.Nodup
import EntityAudit.Proofs.Java.Accessors

/-!
# `EntityAudit.Proofs.Java.Members` — when the members of a class have different names

Getters, setters and columns are all named after the stems of the fields, so the three families have
different names under one condition: the stems of the columns differ from each other and from those of
the identifier and the date.  Different getters in the domain type are not enough, since a stem forgets
digits and marks; they are enough where capitalized words name the fields.

## Contents

* `AuditType.allFields`, `AuditType.Unambiguous` — the fields of a class, and the condition on them
* `toList_idField`, `memberStem_idField` — the identifier and its stem
* `beginsSmall_of_mem`, `namedBy_of_mem` — all fields of a class give their properties names built on their stems
* `nodup_map_iff_of_eq_iff`, `nodup_stems_iff`, `nodup_names_iff` — from names to stems
* `AuditType.Members`, `members_of_ofDomain` — what the condition decides, for every accepted type
* `members_collide` — two getters with one stem
-/

namespace EntityAudit

open Java (memberStem)
open Identifier (IsCapitalizedWords)

/-! ## The fields of a class -/

namespace AuditType

/-- The identifier, the date and the columns. -/
def allFields (a : AuditType) : List AuditField := a.idField :: dateField :: a.fields

theorem properties_ofAuditType (a : AuditType) :
    (Java.EntityClass.ofAuditType a).properties = a.allFields.map Java.Property.ofField := rfl

/-- The stems of the columns differ from each other and from those of the date and the identifier. -/
structure Unambiguous (a : AuditType) : Prop where
  distinct : (a.fields.map fun f => memberStem f.rawName).Nodup
  apart_date : ∀ f ∈ a.fields, memberStem f.rawName ≠ "AuditDate"
  apart_identity : ∀ f ∈ a.fields, memberStem f.rawName ≠ memberStem a.idField.rawName

end AuditType

/-- The field of the identifier is the name of the type in lowercase and a fixed ending. -/
theorem toList_idField (a : AuditType) : a.idField.rawName.toList
    = Unicode.lower a.domainName.toList ++ Identifier.delimiter :: "audit_id".toList := by
  rw [AuditType.idField, String.toList_append, Identifier.lowercase, String.toList_ofList]
  rfl

theorem delimiter_mem_idField (a : AuditType) : Identifier.delimiter ∈ a.idField.rawName.toList := by
  rw [toList_idField]
  exact List.mem_append_right _ List.mem_cons_self

/-- The delimited form of the identifier of a type with a type name begins with a small letter. -/
theorem beginsSmall_idField {a : AuditType} (h : isTypeName a.domainName = true) :
    Identifier.beginsSmall (Identifier.delimitedChars a.idField.rawName.toList) = true := by
  rw [Identifier.delimitedChars, if_pos (delimiter_mem_idField a), toList_idField]
  rw [isTypeName] at h
  cases hname : a.domainName.toList with
  | nil =>
      rw [hname] at h
      exact absurd h Bool.false_ne_true
  | cons c rest =>
      rw [hname] at h
      obtain ⟨halpha, -⟩ := Bool.and_eq_true_iff.mp h
      have hsmall := Identifier.beginsSmall_lower (Identifier.letter_of_isAlpha halpha) rest
      -- The first letter is lowercased twice: once by the name of the field, once by its delimited form.
      cases hlower : Unicode.lower (c :: rest) with
      | nil =>
          rw [hlower] at hsmall
          exact absurd hsmall Bool.false_ne_true
      | cons d tail =>
          rw [hlower] at hsmall
          exact Identifier.beginsSmall_lower (Or.inl hsmall) _

theorem memberStem_dateField : memberStem AuditType.dateField.rawName = "AuditDate" := by
  decide +kernel

/-- The stem of the identifier ends like that of every other identifier. -/
theorem memberStem_idField (a : AuditType) :
    ∃ head, memberStem a.idField.rawName = String.ofList (head ++ "AuditId".toList) := by
  -- The name is in lowercase already, and so is what is put behind it.
  have htail : ∀ d ∈ Identifier.delimiter :: "audit_id".toList,
      Unicode.lowerChar d = [d] ∧ d ≠ 'Σ' := by
    have hall : ((Identifier.delimiter :: "audit_id".toList).all fun d =>
        decide (Unicode.lowerChar d = [d] ∧ d ≠ 'Σ')) = true := by
      decide +kernel
    exact fun d hd => of_decide_eq_true (List.all_eq_true.mp hall d hd)
  have hlower : Unicode.lower a.idField.rawName.toList = a.idField.rawName.toList := by
    rw [toList_idField]
    apply Unicode.lower_eq_self
    · intro hsigma
      rcases List.mem_append.mp hsigma with hname | hsuffix
      · exact Unicode.sigma_notMem_lower _ hname
      · exact (htail _ hsuffix).2 rfl
    · intro d hd
      rcases List.mem_append.mp hd with hname | hsuffix
      · exact Unicode.lowerChar_of_mem_lower hname
      · exact (htail d hsuffix).1
  have hsuffix : ("audit_id".toList.splitOn Identifier.delimiter).flatMap Identifier.capitalizeChars
      = "AuditId".toList := by
    decide +kernel
  refine ⟨((Unicode.lower a.domainName.toList).splitOn Identifier.delimiter).flatMap
    Identifier.capitalizeChars, ?_⟩
  rw [memberStem, Identifier.stem, Identifier.nameParts, if_pos (delimiter_mem_idField a), hlower,
    toList_idField, List.splitOn_append_cons_self, List.flatMap_append, hsuffix]

/-- The identifier and the date have different stems. -/
theorem memberStem_idField_ne_date (a : AuditType) : memberStem a.idField.rawName ≠ "AuditDate" := by
  obtain ⟨head, hhead⟩ := memberStem_idField a
  intro heq
  -- One ends in `d`, the other in `e`.
  rw [hhead, ← String.toList_inj, String.toList_ofList] at heq
  have hlast := congrArg List.getLast? heq
  have hd : "AuditId".toList.getLast? = some 'd' := by decide
  rw [List.getLast?_append, hd, Option.some_or] at hlast
  exact absurd hlast (by decide)

/-- The delimited form of every field of an accepted type begins with a small letter. -/
theorem beginsSmall_of_mem {n : Naming} {t : DomainType} {a : AuditType}
    (h : AuditType.ofDomain n t = .ok a) {f : AuditField} (hf : f ∈ a.allFields) :
    Identifier.beginsSmall (Identifier.delimitedChars f.rawName.toList) = true := by
  obtain ⟨hname, hdomain, hfields⟩ := extracts_of_ofDomain h
  rcases List.mem_cons.mp hf with rfl | hf
  · apply beginsSmall_idField
    rw [hdomain]
    exact hname
  rcases List.mem_cons.mp hf with rfl | hf
  · decide +kernel
  · obtain ⟨m, -, hextracts⟩ := exists_method_of_mem hfields hf
    exact Java.beginsSmall_of_extracts hextracts

/-- All members of the class of an accepted type are named after stems. -/
theorem namedBy_of_mem {n : Naming} {t : DomainType} {a : AuditType}
    (h : AuditType.ofDomain n t = .ok a) {f : AuditField} (hf : f ∈ a.allFields) :
    (Java.Property.ofField f).NamedBy f.rawName :=
  Java.Property.namedBy_ofField (beginsSmall_of_mem h hf)

/-! ## From names to stems -/

/-- Two families of names that agree on which members share a name are free of repetitions together. -/
theorem nodup_map_iff_of_eq_iff {α β γ : Type} {f : α → β} {g : α → γ} {l : List α}
    (h : ∀ x ∈ l, ∀ y ∈ l, f x = f y ↔ g x = g y) : (l.map f).Nodup ↔ (l.map g).Nodup := by
  rw [List.Nodup, List.Nodup, List.pairwise_map, List.pairwise_map]
  exact List.Pairwise.iff_of_mem fun {x y} hx hy => not_congr (h x hx y hy)

/-- The stems of all fields are different exactly if the type is unambiguous. -/
theorem nodup_stems_iff (a : AuditType) :
    (a.allFields.map fun f => memberStem f.rawName).Nodup ↔ a.Unambiguous := by
  rw [AuditType.allFields, List.map_cons, List.map_cons, List.nodup_cons, List.nodup_cons,
    List.mem_cons, memberStem_dateField]
  constructor
  · rintro ⟨hidentity, hdate, hdistinct⟩
    refine ⟨hdistinct, fun f hf heq => ?_, fun f hf heq => ?_⟩
    · exact hdate (List.mem_map.mpr ⟨f, hf, heq⟩)
    · exact hidentity (Or.inr (List.mem_map.mpr ⟨f, hf, heq⟩))
  · intro hclear
    refine ⟨?_, ?_, hclear.distinct⟩
    · rintro (heq | hmem)
      · exact memberStem_idField_ne_date a heq
      · obtain ⟨f, hf, heq⟩ := List.mem_map.mp hmem
        exact hclear.apart_identity f hf heq
    · intro hmem
      obtain ⟨f, hf, heq⟩ := List.mem_map.mp hmem
      exact hclear.apart_date f hf heq

/-! ## The condition -/

/-- What decides whether the members of the class of `t` have different names. -/
structure AuditType.Members (a : AuditType) (t : DomainType) : Prop where
  getters_nodup_iff :
    ((Java.EntityClass.ofAuditType a).properties.map Java.Property.getter).Nodup ↔ a.Unambiguous
  setters_nodup_iff :
    ((Java.EntityClass.ofAuditType a).properties.map Java.Property.setter).Nodup ↔ a.Unambiguous
  columns_nodup_iff :
    ((Java.EntityClass.ofAuditType a).properties.map Java.Property.column).Nodup ↔ a.Unambiguous
  /-- Different getters are enough where capitalized words name the fields and none has the stem of the
  date or the identifier. -/
  of_capitalizedWords : (t.columns.map Method.name).Nodup →
    (∀ m ∈ t.columns, IsCapitalizedWords m.rawName.toList
      ∧ m.rawName ≠ "AuditDate" ∧ m.rawName ≠ memberStem a.idField.rawName) → a.Unambiguous
  /-- The file has the accessors of all properties, one after the other and once each. -/
  written : a.artifact.contents = (Java.EntityClass.ofAuditType a).openingText
    ++ String.join ((Java.EntityClass.ofAuditType a).properties.map Java.Property.text) ++ "\x7d\n"

/-- A family of names of the properties that repeats where the stems do is free of repetitions exactly
if the type is unambiguous. -/
theorem nodup_names_iff {a : AuditType} {name : Java.Property → String}
    (h : ∀ f ∈ a.allFields, ∀ g ∈ a.allFields,
      name (.ofField f) = name (.ofField g) ↔ memberStem f.rawName = memberStem g.rawName) :
    ((Java.EntityClass.ofAuditType a).properties.map name).Nodup ↔ a.Unambiguous := by
  rw [AuditType.properties_ofAuditType, List.map_map, ← nodup_stems_iff]
  exact nodup_map_iff_of_eq_iff h

/-- Where capitalized words name the fields, different getters give different stems. -/
theorem unambiguous_of_capitalizedWords {t : DomainType} {a : AuditType}
    (hfields : List.Forall₂ Method.Extracts t.columns a.fields)
    (hnodup : (t.columns.map Method.name).Nodup)
    (hwords : ∀ m ∈ t.columns, IsCapitalizedWords m.rawName.toList
      ∧ m.rawName ≠ "AuditDate" ∧ m.rawName ≠ memberStem a.idField.rawName) : a.Unambiguous := by
  -- On such names the stem forgets nothing, so the names themselves can be compared.
  have hself : ∀ m ∈ t.columns, memberStem m.rawName = m.rawName := by
    intro m hm
    rw [memberStem, Identifier.stem_eq_of_isCapitalizedWords (hwords m hm).1, String.ofList_toList]
  have hstems : a.fields.map (fun f => memberStem f.rawName) = t.columns.map Method.rawName := by
    calc a.fields.map (fun f => memberStem f.rawName)
        = (a.fields.map AuditField.rawName).map memberStem := by
          rw [List.map_map]
          rfl
      _ = (t.columns.map Method.rawName).map memberStem := by rw [rawNames_eq hfields]
      _ = t.columns.map Method.rawName := by
          rw [List.map_map]
          exact List.map_congr_left hself
  have hmem : ∀ f ∈ a.fields, ∃ m ∈ t.columns, memberStem f.rawName = m.rawName := by
    intro f hf
    obtain ⟨m, hm, hextracts⟩ := exists_method_of_mem hfields hf
    refine ⟨m, hm, ?_⟩
    rw [hextracts.rawName_eq]
    exact hself m hm
  refine ⟨?_, fun f hf => ?_, fun f hf => ?_⟩
  · rw [hstems]
    refine (nodup_map_iff_of_eq_iff fun m hm m' hm' => ?_).mp hnodup
    rw [name_eq_of_mem hfields hm, name_eq_of_mem hfields hm']
    exact String.append_right_inj getterStem
  · obtain ⟨m, hm, heq⟩ := hmem f hf
    rw [heq]
    exact (hwords m hm).2.1
  · obtain ⟨m, hm, heq⟩ := hmem f hf
    rw [heq]
    exact (hwords m hm).2.2

/-- **The members of a class have different names exactly if its type is unambiguous.** For every type
that has an audit type and under every naming, this decides for getters, setters and columns alike. -/
theorem members_of_ofDomain {n : Naming} {t : DomainType} {a : AuditType}
    (h : AuditType.ofDomain n t = .ok a) : a.Members t := by
  obtain ⟨-, -, hfields⟩ := extracts_of_ofDomain h
  refine ⟨?_, ?_, ?_, unambiguous_of_capitalizedWords hfields, a.contents_eq_text⟩
  · refine nodup_names_iff fun f hf g hg => ?_
    rw [(namedBy_of_mem h hf).getter_eq, (namedBy_of_mem h hg).getter_eq]
    exact String.append_right_inj "get"
  · refine nodup_names_iff fun f hf g hg => ?_
    rw [(namedBy_of_mem h hf).setter_eq, (namedBy_of_mem h hg).setter_eq]
    exact String.append_right_inj "set"
  · refine nodup_names_iff fun f hf g hg => ?_
    rw [← String.toList_inj]
    -- Column and stem determine each other, each by the case of its first letter.
    constructor
    · intro hcolumn
      rw [← String.toList_inj, (namedBy_of_mem h hf).stem_eq, (namedBy_of_mem h hg).stem_eq, hcolumn]
    · intro hstem
      rw [(namedBy_of_mem h hf).column_eq, (namedBy_of_mem h hg).column_eq, hstem]

/-- The members of the class of a type with two columns. -/
theorem members_carWithDoors :
    AuditType.ofDomain ⟨"p", "Audit"⟩ Java.carWithDoors = .ok Java.carWithDoorsAudit ∧
      Java.carWithDoorsAudit.Members Java.carWithDoors := by
  have haccepted : AuditType.ofDomain ⟨"p", "Audit"⟩ Java.carWithDoors = .ok Java.carWithDoorsAudit := by
    decide +kernel
  exact ⟨haccepted, members_of_ofDomain haccepted⟩

/-! ## Different getters with one stem -/

/-- A type with two getters that differ in a digit. -/
def carWithTwoMakes : DomainType :=
  ⟨"Car", "a", [.auditable],
    [⟨"getCarMake", ⟨"java.lang.String"⟩, [.column]⟩,
     ⟨"getCarMake2", ⟨"java.lang.String"⟩, [.column]⟩]⟩

/-- The audit type of that type. -/
def carWithTwoMakesAudit : AuditType :=
  ⟨"Car", "CarAudit", "p", [⟨"CarMake", .string, true⟩, ⟨"CarMake2", .string, true⟩]⟩

/-- **Different getters do not give different members**: the digit is dropped, and both fields have the
same getter, setter and column. -/
theorem members_collide :
    AuditType.ofDomain ⟨"p", "Audit"⟩ carWithTwoMakes = .ok carWithTwoMakesAudit
      ∧ (carWithTwoMakes.columns.map Method.name).Nodup
      ∧ ¬ ((Java.EntityClass.ofAuditType carWithTwoMakesAudit).properties.map
          Java.Property.getter).Nodup
      ∧ ¬ ((Java.EntityClass.ofAuditType carWithTwoMakesAudit).properties.map
          Java.Property.setter).Nodup
      ∧ ¬ ((Java.EntityClass.ofAuditType carWithTwoMakesAudit).properties.map
          Java.Property.column).Nodup := by
  decide +kernel

end EntityAudit
