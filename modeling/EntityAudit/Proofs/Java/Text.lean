import Mathlib.Data.List.Basic
import EntityAudit.Java.EntityClass

/-!
# `EntityAudit.Proofs.Java.Text` — the text of a class, spelled out

What stands in the file of an audit type is spelled out here as text, with its tabs and line breaks.  The
printer arrives at the same text by lines and their depths.  So a statement on the names of a class can say
where they stand in the file, without a mention of the lines.

## Contents

* `Property.text`, `Property.render_lines` — the accessors of a property
* `EntityClass.text`, `AuditType.contents_eq_text` — the whole file
* `EntityClass.exists_text_of_mem`, `AuditType.exists_contents_of_mem` — the accessors stand in the file
-/

namespace EntityAudit.Java

/-! ## Accessors -/

/-- The accessors of a property as they stand in a file: the annotations, the getter and the setter. -/
def Property.text (p : Property) : String :=
  "\t@Column(name = \"" ++ p.column ++ "\")\n"
    ++ (if p.valueType.isTemporal then "\t@Temporal(TemporalType.TIMESTAMP)\n" else "")
    ++ (if p.isOptional then "" else "\t@Basic(optional = false)\n")
    ++ "\tpublic " ++ p.valueType.simpleName ++ " " ++ p.getter ++ "()\n"
    ++ "\t\x7b\n\t\treturn " ++ p.backing ++ ";\n\t\x7d\n\n"
    ++ "\tpublic void " ++ p.setter ++ "(" ++ p.valueType.simpleName ++ " " ++ p.parameter ++ ")\n"
    ++ "\t\x7b\n\t\t" ++ p.backing ++ " = " ++ p.parameter ++ ";\n\t\x7d\n\n"

/-- **The lines of a property have the text of its accessors.** -/
theorem Property.render_lines (p : Property) : render p.lines = p.text := by
  rw [← String.toList_inj, toList_render]
  unfold lines annotations getterLines setterLines method text
  -- The two annotations that may be missing are there or not on both sides.
  split <;> split <;>
    simp only [getterHead_eq, setterHead_eq, Line.chars, Line.blank, List.flatMap_cons, List.flatMap_nil,
      List.cons_append, List.nil_append, List.append_nil, List.append_assoc, String.toList_append] <;>
    rfl

/-- The text of several properties is that of one after the other. -/
theorem render_flatMap_lines (ps : List Property) :
    render (ps.flatMap Property.lines) = String.join (ps.map Property.text) := by
  induction ps with
  | nil => rfl
  | cons p ps ih =>
      rw [List.flatMap_cons, render_append, Property.render_lines, ih, List.map_cons, String.join_cons]

/-! ## Files -/

namespace EntityClass

/-- The text of a class up to its accessors. -/
def openingText (c : EntityClass) : String :=
  "package " ++ c.package ++ ";\n\n"
    ++ String.join (imports.map fun name => "import " ++ name ++ ";\n") ++ "\n"
    ++ "@Entity\n"
    ++ "@Table(name = \"" ++ c.name ++ "\")\n"
    ++ "@XmlRootElement(name = \"" ++ c.name ++ "\")\n"
    ++ "public class " ++ c.name ++ " extends " ++ c.parent ++ " implements " ++ auditInterface
    ++ "\n\x7b\n"
    ++ "\tprivate " ++ c.identity.valueType.simpleName ++ " " ++ c.identity.backing ++ ";\n"
    ++ "\tprivate " ++ c.date.valueType.simpleName ++ " " ++ c.date.backing ++ ";\n\n"
    ++ "\t@Id\n\t@GeneratedValue\n"

/-- The text of a class: its opening, the accessors of all properties, and the closing brace. -/
def text (c : EntityClass) : String :=
  c.openingText ++ String.join (c.properties.map Property.text) ++ "\x7d\n"

theorem render_packageLines (package : String) :
    render (packageLines package) = "package " ++ package ++ ";\n\n" := by
  rw [← String.toList_inj, toList_render, packageLines]
  simp only [Line.chars, Line.blank, List.flatMap_cons, List.flatMap_nil, List.append_nil,
    List.append_assoc, String.toList_append]
  rfl

theorem render_importLines (names : List String) :
    render (names.map importLine) = String.join (names.map fun name => "import " ++ name ++ ";\n") := by
  rw [← String.toList_inj, toList_render, String.toList_join, List.flatMap_map, List.flatMap_map]
  refine List.flatMap_congr fun name _ => ?_
  simp only [importLine, Line.chars, List.append_assoc, String.toList_append]
  rfl

theorem render_headLines (c : EntityClass) :
    render c.headLines = "@Entity\n"
      ++ "@Table(name = \"" ++ c.name ++ "\")\n"
      ++ "@XmlRootElement(name = \"" ++ c.name ++ "\")\n"
      ++ "public class " ++ c.name ++ " extends " ++ c.parent ++ " implements " ++ auditInterface
      ++ "\n\x7b\n" := by
  rw [← String.toList_inj, toList_render, headLines]
  simp only [Line.chars, List.flatMap_cons, List.flatMap_nil, List.append_nil, List.append_assoc,
    String.toList_append]
  rfl

theorem render_fieldLines (c : EntityClass) :
    render c.fieldLines = "\tprivate " ++ c.identity.valueType.simpleName ++ " " ++ c.identity.backing ++ ";\n"
      ++ "\tprivate " ++ c.date.valueType.simpleName ++ " " ++ c.date.backing ++ ";\n\n"
      ++ "\t@Id\n\t@GeneratedValue\n" := by
  rw [← String.toList_inj, toList_render, fieldLines, Property.declaration, Property.declaration]
  simp only [Line.chars, Line.blank, List.flatMap_cons, List.flatMap_nil, List.append_nil,
    List.append_assoc, String.toList_append]
  rfl

/-- **The lines of a class have its text.** -/
theorem render_lines (c : EntityClass) : render c.lines = c.text := by
  have hblank : render [.blank] = "\n" := by decide
  have hclose : render [⟨0, "\x7d"⟩] = "\x7d\n" := by decide
  rw [lines]
  simp only [render_append]
  rw [render_packageLines, render_importLines, hblank, render_headLines, render_fieldLines,
    render_flatMap_lines, hclose]
  unfold text openingText
  simp only [String.append_assoc]

/-- The accessors of every property of a class stand in its text. -/
theorem exists_text_of_mem {c : EntityClass} {p : Property} (h : p ∈ c.properties) :
    ∃ before after, c.text = before ++ p.text ++ after := by
  obtain ⟨above, below, hsplit⟩ := List.append_of_mem h
  refine ⟨c.openingText ++ String.join (above.map Property.text),
    String.join (below.map Property.text) ++ "\x7d\n", ?_⟩
  rw [text, hsplit, List.map_append, List.map_cons, String.join_append, String.join_cons]
  simp only [String.append_assoc]

end EntityClass

end EntityAudit.Java

namespace EntityAudit

/-- **The file of an audit type is the text of its class.** -/
theorem AuditType.contents_eq_text (a : AuditType) :
    a.artifact.contents = (Java.EntityClass.ofAuditType a).text :=
  Java.EntityClass.render_lines _

/-- The accessors of every property stand in the file. -/
theorem AuditType.exists_contents_of_mem {a : AuditType} {p : Java.Property}
    (h : p ∈ (Java.EntityClass.ofAuditType a).properties) :
    ∃ before after, a.artifact.contents = before ++ p.text ++ after := by
  rw [a.contents_eq_text]
  exact Java.EntityClass.exists_text_of_mem h

end EntityAudit
