import EntityAudit.Proofs.Identifier.Initial
import EntityAudit.Proofs.Java.Accessors

/-!
# `EntityAudit.Proofs.Java.BeanNames` — the accessors of a property are those of its column

A bean property is read and written by `get` and `set` with its name behind them, the first character in
uppercase.  The column of a property and its two accessors are spelled by separate runs from the delimited
form of the field.  They come out as one bean property all the same, for every name that a field may have:
also where the form begins with delimiters, has none, is empty, or has characters whose uppercase image is
longer than they are.

## Contents

* `beanGetter`, `beanSetter` — the accessors of a bean property
* `accessorName_delimited_eq` — an accessor is its verb and the column, capitalized
* `Property.InStep`, `inStep_ofField` — column and accessors of every field
-/

namespace EntityAudit.Java

open Identifier (delimiter)

/-! ## Bean properties -/

/-- The getter of the bean property `name`. -/
def beanGetter (name : String) : String := "get" ++ Identifier.capitalize name

/-- The setter of the bean property `name`. -/
def beanSetter (name : String) : String := "set" ++ Identifier.capitalize name

/-- **An accessor is its verb and the column, capitalized**, for a verb that is in lowercase. -/
theorem accessorName_delimited_eq {verb : String} (hverb : delimiter ∉ verb.toList)
    (hlower : Unicode.lower verb.toList = verb.toList) (hne : verb.toList ≠ []) (name : String) :
    accessorName verb (Identifier.delimited name)
      = verb ++ Identifier.capitalize (Identifier.compact (Identifier.delimited name)) := by
  rw [← String.toList_inj, toList_accessorName hverb hlower hne, String.toList_append,
    Identifier.toList_capitalize, Identifier.toList_compact, Identifier.toList_delimited,
    Identifier.capitalizeChars_compactChars]

/-! ## Columns and accessors -/

/-- The line that names the column in the database. -/
def columnLine (column : String) : Line := ⟨1, "@Column(name = \"" ++ column ++ "\")"⟩

/-- What else the persistence provider may be told about a column. -/
def otherMarks : List Line := [⟨1, "@Temporal(TemporalType.TIMESTAMP)"⟩, ⟨1, "@Basic(optional = false)"⟩]

/-- **The accessors of a property are those of the bean property that its column names**, in the property
itself and in the lines that are written for it. -/
structure Property.InStep (p : Property) : Prop where
  getter_eq : p.getter = beanGetter p.column
  setter_eq : p.setter = beanSetter p.column
  /-- The lines begin with the name of the column, and end with the two accessors. -/
  written : ∃ marks, (∀ mark ∈ marks, mark ∈ otherMarks) ∧
    p.lines = ⟨1, "@Column(name = \"" ++ p.column ++ "\")"⟩ :: marks
      ++ [⟨1, "public " ++ p.valueType.simpleName ++ " " ++ beanGetter p.column ++ "()"⟩,
          ⟨1, "\x7b"⟩,
          ⟨2, "return " ++ p.backing ++ ";"⟩,
          ⟨1, "\x7d"⟩,
          ⟨0, ""⟩,
          ⟨1, "public void " ++ beanSetter p.column ++ "(" ++ p.valueType.simpleName ++ " "
            ++ p.parameter ++ ")"⟩,
          ⟨1, "\x7b"⟩,
          ⟨2, p.backing ++ " = " ++ p.parameter ++ ";"⟩,
          ⟨1, "\x7d"⟩,
          ⟨0, ""⟩]

/-- Behind the name of the column there are other marks only. -/
theorem annotations_eq (p : Property) :
    ∃ marks, (∀ mark ∈ marks, mark ∈ otherMarks) ∧ p.annotations = columnLine p.column :: marks := by
  refine ⟨(if p.valueType.isTemporal then [⟨1, "@Temporal(TemporalType.TIMESTAMP)"⟩] else [])
    ++ (if p.isOptional then [] else [⟨1, "@Basic(optional = false)"⟩]), ?_, rfl⟩
  intro mark hmark
  rcases List.mem_append.mp hmark with htemporal | hbasic
  · split at htemporal
    · rw [List.mem_singleton.mp htemporal]
      exact List.mem_cons_self
    · exact absurd htemporal List.not_mem_nil
  · split at hbasic
    · exact absurd hbasic List.not_mem_nil
    · rw [List.mem_singleton.mp hbasic]
      exact List.mem_cons_of_mem _ List.mem_cons_self

/-- A property whose accessors are named after its column is written with them. -/
theorem Property.InStep.of_names {p : Property} (hgetter : p.getter = beanGetter p.column)
    (hsetter : p.setter = beanSetter p.column) : p.InStep := by
  obtain ⟨marks, hmarks, hannotations⟩ := annotations_eq p
  refine ⟨hgetter, hsetter, marks, hmarks, ?_⟩
  rw [Property.lines, hannotations, Property.getterLines, Property.getterHead_eq, hgetter,
    Property.setterLines, Property.setterHead_eq, hsetter, method, method, List.append_assoc]
  rfl

/-- **Column and accessors are in step for every field**, whatever its name is. -/
theorem inStep_ofField (f : AuditField) : (Property.ofField f).InStep := by
  apply Property.InStep.of_names
  · exact accessorName_delimited_eq (by decide) (by decide +kernel) (by decide) f.rawName
  · exact accessorName_delimited_eq (by decide) (by decide +kernel) (by decide) f.rawName

/-- A delimiter in front, two in a row, and a letter with an uppercase image of two letters. -/
example : (Property.ofField ⟨"__\u00dfa__b", .string, true⟩).column = "SSaB" ∧
    (Property.ofField ⟨"__\u00dfa__b", .string, true⟩).getter = "getSSaB" := by
  decide +kernel

end EntityAudit.Java
