import EntityAudit.Proofs.Domain.Extraction
import EntityAudit.Proofs.Identifier.Stem
import EntityAudit.Proofs.Java.Text

/-!
# `EntityAudit.Proofs.Java.Accessors` — which getters are overridden

An entity class extends the domain type, so a generated getter replaces that of the domain type if it has
the same name.  Its name is rebuilt from the stem of the field, and it comes out the same exactly when
the field is named by capitalized words: a digit, a mark, a letter outside ASCII or a word without its
own capital is lost or respelled on the way.

## Contents

* `memberStem` — the stem of a field name as a text
* `toList_accessorName` — an accessor is its verb and the pieces of the form
* `Property.NamedBy`, `Property.namedBy_ofField` — the three names of a property
* `Property.Mirrors`, `mirrors_of_ofDomain` — the getters that are overridden
-/

namespace EntityAudit.Java

open Identifier (delimiter stem IsCapitalizedWords)

/-! ## The names of a property -/

/-- The stem of a field name: what follows the verb in the names of its accessors. -/
def memberStem (name : String) : String := String.ofList (stem name.toList)

@[simp] theorem toList_memberStem (name : String) : (memberStem name).toList = stem name.toList :=
  String.toList_ofList

/-- The names of the property are those of a field: each accessor is a verb and the stem, the column is
the stem with a small first letter, and the stem is the column with that letter in uppercase. -/
structure Property.NamedBy (p : Property) (name : String) : Prop where
  getter_eq : p.getter = "get" ++ memberStem name
  setter_eq : p.setter = "set" ++ memberStem name
  column_eq : p.column.toList = Identifier.decapitalize (memberStem name).toList
  stem_eq : (memberStem name).toList = Identifier.capitalizeChars p.column.toList

/-- The name of an accessor is the verb, if that is in lowercase, and the pieces of the form, capitalized. -/
theorem toList_accessorName {verb : String} (hverb : delimiter ∉ verb.toList)
    (hlower : Unicode.lower verb.toList = verb.toList) (hne : verb.toList ≠ []) (name : String) :
    (accessorName verb (Identifier.delimited name)).toList
      = verb.toList
        ++ ((Identifier.delimitedChars name.toList).splitOn delimiter).flatMap Identifier.capitalizeChars := by
  have htext : (verb ++ "_" ++ Identifier.delimited name).toList
      = verb.toList ++ delimiter :: Identifier.delimitedChars name.toList := by
    rw [String.toList_append, String.toList_append, Identifier.toList_delimited, List.append_assoc]
    rfl
  rw [accessorName, Identifier.toList_compact, htext, Identifier.compactChars_afterVerb hverb hne, hlower]

/-- The name of an accessor is the verb and the stem, for a verb that is in lowercase. -/
theorem accessorName_delimited {verb name : String} (hverb : delimiter ∉ verb.toList)
    (hlower : Unicode.lower verb.toList = verb.toList) (hne : verb.toList ≠ [])
    (h : Identifier.delimitedChars name.toList ≠ []) :
    accessorName verb (Identifier.delimited name) = verb ++ memberStem name := by
  rw [← String.toList_inj, toList_accessorName hverb hlower hne, Identifier.splitOn_delimitedChars h,
    String.toList_append, toList_memberStem, stem]

/-- **The names of a property are built on the stem of its field.** -/
theorem Property.namedBy_ofField {f : AuditField}
    (h : Identifier.beginsSmall (Identifier.delimitedChars f.rawName.toList) = true) :
    (Property.ofField f).NamedBy f.rawName := by
  have hne : Identifier.delimitedChars f.rawName.toList ≠ [] := by
    intro hnil
    rw [hnil] at h
    exact absurd h Bool.false_ne_true
  obtain ⟨hcolumn, hstem⟩ := Identifier.compactChars_delimited h
  have hdelimited : (Property.ofField f).column.toList
      = Identifier.compactChars (Identifier.delimitedChars f.rawName.toList) := by
    show (Identifier.compact (Identifier.delimited f.rawName)).toList = _
    rw [Identifier.toList_compact, Identifier.toList_delimited]
  refine ⟨?_, ?_, ?_, ?_⟩
  · exact accessorName_delimited (by decide) (by decide +kernel) (by decide) hne
  · exact accessorName_delimited (by decide) (by decide +kernel) (by decide) hne
  · rw [hdelimited, toList_memberStem, hcolumn]
  · rw [hdelimited, toList_memberStem, hstem]

/-- The delimited form of the field of an accepted getter begins with a small letter. -/
theorem beginsSmall_of_extracts {m : Method} {f : AuditField} (h : m.Extracts f) :
    Identifier.beginsSmall (Identifier.delimitedChars f.rawName.toList) = true := by
  have hcapital := h.capital
  have hne := h.delimited_ne_nil
  rw [h.rawName_eq]
  cases hname : m.rawName.toList with
  | nil =>
      rw [hname] at hcapital
      exact absurd hcapital Bool.false_ne_true
  | cons c rest =>
      rw [hname] at hcapital hne
      exact Identifier.beginsSmall_delimitedChars hcapital hne

/-! ## The getters that are overridden -/

/-- The property is generated for the getter `m` of the domain type, in a file with the text `contents`. -/
structure Property.Mirrors (contents : String) (p : Property) (m : Method) : Prop where
  /-- The getter is named after a field. -/
  name_eq : m.name = "get" ++ m.rawName
  /-- It is overridden exactly when capitalized words name the field. -/
  getter_eq_iff : p.getter = m.name ↔ IsCapitalizedWords m.rawName.toList
  /-- Then the setter is named alike. -/
  setter_eq : IsCapitalizedWords m.rawName.toList → p.setter = "set" ++ m.rawName
  /-- Then the column is the field with a small first letter. -/
  column_eq : IsCapitalizedWords m.rawName.toList →
    p.column.toList = Identifier.decapitalize m.rawName.toList
  /-- The file has the annotations, the getter and the setter, with these names in their places. -/
  written : ∃ before after, contents = before
    ++ ("\t@Column(name = \"" ++ p.column ++ "\")\n"
      ++ (if p.valueType.isTemporal then "\t@Temporal(TemporalType.TIMESTAMP)\n" else "")
      ++ (if p.isOptional then "" else "\t@Basic(optional = false)\n")
      ++ "\tpublic " ++ p.valueType.simpleName ++ " " ++ p.getter ++ "()\n"
      ++ "\t\x7b\n\t\treturn " ++ p.backing ++ ";\n\t\x7d\n\n"
      ++ "\tpublic void " ++ p.setter ++ "(" ++ p.valueType.simpleName ++ " " ++ p.parameter ++ ")\n"
      ++ "\t\x7b\n\t\t" ++ p.backing ++ " = " ++ p.parameter ++ ";\n\t\x7d\n\n")
    ++ after

/-- The property of a getter mirrors it. -/
theorem Property.mirrors_of_extracts {contents : String} {m : Method} {f : AuditField}
    (h : m.Extracts f)
    (hwritten : ∃ before after, contents = before ++ (Property.ofField f).text ++ after) :
    (Property.ofField f).Mirrors contents m := by
  have hnamed := Property.namedBy_ofField (beginsSmall_of_extracts h)
  rw [h.rawName_eq] at hnamed
  have hne : m.rawName.toList ≠ [] := by
    intro hnil
    have hcapital := h.capital
    rw [hnil] at hcapital
    exact absurd hcapital Bool.false_ne_true
  -- Getter and getter agree when stem and field do, and then setter and column follow.
  have hself : memberStem m.rawName = m.rawName ↔ IsCapitalizedWords m.rawName.toList := by
    rw [← Identifier.stem_eq_self_iff hne, ← String.toList_inj, toList_memberStem]
  refine ⟨h.name_eq, ?_, fun hwords => ?_, fun hwords => ?_, hwritten⟩
  · rw [hnamed.getter_eq, h.name_eq, ← hself]
    exact String.append_right_inj getterStem
  · rw [hnamed.setter_eq, hself.mpr hwords]
  · rw [hnamed.column_eq, hself.mpr hwords]

/-- **A generated getter overrides that of the domain type exactly when capitalized words name its
field.** For every type that has an audit type and under every naming, the columns of the class mirror
the getters one by one. -/
theorem mirrors_of_ofDomain {n : Naming} {t : DomainType} {a : AuditType}
    (h : AuditType.ofDomain n t = .ok a) :
    List.Forall₂ (fun m p => p.Mirrors a.artifact.contents m) t.columns
      (EntityClass.ofAuditType a).columns := by
  obtain ⟨-, -, hfields⟩ := extracts_of_ofDomain h
  have hwritten : ∀ f ∈ a.fields,
      ∃ before after, a.artifact.contents = before ++ (Property.ofField f).text ++ after := by
    intro f hf
    apply AuditType.exists_contents_of_mem
    exact List.mem_cons_of_mem _ (List.mem_cons_of_mem _ (List.mem_map_of_mem hf))
  show List.Forall₂ _ t.columns (a.fields.map Property.ofField)
  rw [List.forall₂_map_right_iff]
  obtain ⟨hlength, hpairs⟩ := List.forall₂_iff_zip.mp hfields
  refine List.forall₂_iff_zip.mpr ⟨hlength, fun {m f} hpair => ?_⟩
  exact Property.mirrors_of_extracts (hpairs hpair) (hwritten f (List.of_mem_zip hpair).2)

/-- A type with a getter that is overridden and one that is not. -/
def carWithDoors : DomainType :=
  ⟨"Car", "a", [.auditable],
    [⟨"getCarMake", ⟨"java.lang.String"⟩, [.column]⟩,
     ⟨"getDoors2", ⟨"java.lang.Integer"⟩, [.column]⟩]⟩

/-- The audit type of that type. -/
def carWithDoorsAudit : AuditType :=
  ⟨"Car", "CarAudit", "p", [⟨"CarMake", .string, true⟩, ⟨"Doors2", .integer, true⟩]⟩

/-- The columns of the class mirror both getters. -/
theorem mirrors_carWithDoors :
    AuditType.ofDomain ⟨"p", "Audit"⟩ carWithDoors = .ok carWithDoorsAudit ∧
      List.Forall₂ (fun m p => p.Mirrors carWithDoorsAudit.artifact.contents m) carWithDoors.columns
        (EntityClass.ofAuditType carWithDoorsAudit).columns := by
  have haccepted : AuditType.ofDomain ⟨"p", "Audit"⟩ carWithDoors = .ok carWithDoorsAudit := by
    decide +kernel
  exact ⟨haccepted, mirrors_of_ofDomain haccepted⟩

end EntityAudit.Java
