import Mathlib.Algebra.Ring.Nat
import EntityAudit.Java.EntityClass
import EntityAudit.Proofs.Domain.Extraction
import EntityAudit.Proofs.Identifier.Caseless

/-!
# `EntityAudit.Proofs.Java.Shape` — what the names do to the shape of a class

The shape of a source text is in its marks: the braces and the ends of its lines.  Its fixed pieces have
the marks of a well-formed class.  A name without a delimiter adds none, since only its letters are left
of it; a name with one is only lowercased, so a mark in it goes into the text wherever the name does,
which is seven times.

## Contents

* `marks`, `countIn` — the marks, and how often a character stands in lines
* `fixedTexts` — the text between the names
* `Property.countIn_lines`, `EntityClass.countIn_lines` — the marks of the accessors and of a class
* `strayCount`, `countNames_ofField` — the marks that a name adds
* `countIn_columns`, `count_artifact` — all columns, and the class of an accepted type
* `WellShaped`, `AuditType.Shaped`, `shaped_of_ofDomain` — the shape of every accepted type
* `shape_broken` — a name that opens a brace
-/

namespace EntityAudit.Java

/-! ## Marks -/

/-- The characters that give a source text its shape: the braces and the end of a line. -/
def marks : List Char := ['\x7b', '\x7d', '\n']

theorem forall_marks {P : Char → Prop} : (∀ c ∈ marks, P c) ↔ P '\x7b' ∧ P '\x7d' ∧ P '\n' := by
  rw [marks, List.forall_mem_cons, List.forall_mem_cons, List.forall_mem_singleton]

/-- How often a character stands in the text of lines. -/
def countIn (c : Char) (lines : List Line) : Nat := (render lines).toList.count c

@[simp] theorem countIn_nil (c : Char) : countIn c [] = 0 := rfl

@[simp] theorem countIn_append (c : Char) (xs ys : List Line) :
    countIn c (xs ++ ys) = countIn c xs + countIn c ys := by
  unfold countIn
  rw [render_append, String.toList_append, List.count_append]

theorem countIn_flatMap (c : Char) (ps : List Property) :
    countIn c (ps.flatMap Property.lines) = (ps.map fun p => countIn c p.lines).sum := by
  induction ps with
  | nil => rfl
  | cons p ps ih => rw [List.flatMap_cons, countIn_append, ih, List.map_cons, List.sum_cons]

variable {c : Char}

/-- The indentation of a line has no marks, so they are in its text and at its end. -/
theorem countIn_cons (hc : c ∈ marks) (l : Line) (ls : List Line) :
    countIn c (l :: ls) = ['\n'].count c + l.text.toList.count c + countIn c ls := by
  have hindent : (List.replicate l.depth '\t').count c = 0 := by
    apply List.count_eq_zero_of_not_mem
    intro hmem
    rw [List.eq_of_mem_replicate hmem] at hc
    exact absurd hc (by decide)
  unfold countIn
  rw [toList_render, toList_render, List.flatMap_cons, Line.chars, List.count_append,
    List.count_append, List.count_append, hindent]
  omega

/-! ## The fixed text of a class -/

/-- The pieces of text between the names of a class, except for the lines that are a brace. -/
def fixedTexts : List String :=
  ["package ", "import ", "@Entity", "@Table(name = \"", "@XmlRootElement(name = \"", "public class ",
   " extends ", " implements ", auditInterface, "private ", "@Id", "@GeneratedValue",
   "@Column(name = \"", "\")", "@Temporal(TemporalType.TIMESTAMP)", "@Basic(optional = false)",
   "public ", "public void ", "return ", "()", "(", ")", " = ", "_", " ", ";", ""]
    ++ imports ++ ValueType.all.map ValueType.simpleName

/-- The fixed pieces have no marks. -/
theorem count_fixedTexts (hc : c ∈ marks) : ∀ s ∈ fixedTexts, s.toList.count c = 0 := by
  have hall : (fixedTexts.all fun s => s.toList.all fun d => decide (d ∉ marks)) = true := by
    decide +kernel
  intro s hs
  apply List.count_eq_zero_of_not_mem
  intro hmem
  exact absurd hc (of_decide_eq_true (List.all_eq_true.mp (List.all_eq_true.mp hall s hs) c hmem))

theorem count_simpleName (hc : c ∈ marks) (t : ValueType) : t.simpleName.toList.count c = 0 :=
  count_fixedTexts hc _ (List.mem_append_right _ (List.mem_map_of_mem (ValueType.mem_all t)))

theorem toList_braces : "\x7b".toList = ['\x7b'] ∧ "\x7d".toList = ['\x7d'] := ⟨rfl, rfl⟩

namespace Property

/-- How often a character stands in the names in the accessors of a property: the column, the getter,
the setter, and its parameter and the private field in two places each. -/
def countNames (c : Char) (p : Property) : Nat :=
  p.column.toList.count c + p.getter.toList.count c + p.setter.toList.count c
    + 4 * p.parameter.toList.count c

/-- How many lines of annotations a property has. -/
def annotationCount (p : Property) : Nat :=
  1 + (if p.valueType.isTemporal then 1 else 0) + (if p.isOptional then 0 else 1)

theorem countIn_annotations (hc : c ∈ marks) (p : Property) :
    countIn c p.annotations = p.annotationCount * ['\n'].count c + p.column.toList.count c := by
  have hfixed := count_fixedTexts hc
  simp only [fixedTexts, List.cons_append, List.forall_mem_cons] at hfixed
  unfold annotations annotationCount
  split <;> split <;>
    simp only [countIn_append, countIn_cons hc, countIn_nil, String.toList_append, List.count_append,
      hfixed] <;> omega

/-- **The marks in the accessors of a property**: two pairs of braces, the ends of the annotations and of
ten more lines, and what the names add. -/
theorem countIn_lines (hc : c ∈ marks) (p : Property) :
    countIn c p.lines = (p.annotationCount + 10) * ['\n'].count c + 2 * ['\x7b'].count c
      + 2 * ['\x7d'].count c + p.countNames c := by
  have hfixed := count_fixedTexts hc
  simp only [fixedTexts, List.cons_append, List.forall_mem_cons] at hfixed
  simp only [lines, countIn_append, countIn_annotations hc]
  simp only [getterLines, setterLines, method, getterHead_eq, setterHead_eq, backing, Line.blank,
    countIn_cons hc, countIn_nil, String.toList_append, List.count_append, hfixed,
    count_simpleName hc, toList_braces, Nat.add_mul]
  unfold countNames
  omega

end Property

namespace EntityClass

/-- How often a character stands in the names of a class outside of its accessors. -/
def countNames (c : Char) (e : EntityClass) : Nat :=
  e.package.toList.count c + 3 * e.name.toList.count c + e.parent.toList.count c
    + e.identity.parameter.toList.count c + e.date.parameter.toList.count c

/-- **The marks in a class**: a pair of braces, the ends of twenty-four lines, what the names add, and
those of the accessors. -/
theorem countIn_lines (hc : c ∈ marks) (e : EntityClass) :
    countIn c e.lines = 24 * ['\n'].count c + ['\x7b'].count c + ['\x7d'].count c + e.countNames c
      + (e.properties.map fun p => countIn c p.lines).sum := by
  have hfixed := count_fixedTexts hc
  simp only [fixedTexts, imports, List.cons_append, List.nil_append, List.forall_mem_cons] at hfixed
  simp only [lines, countIn_append, countIn_flatMap]
  simp only [packageLines, imports, List.map_cons, List.map_nil, importLine, headLines, fieldLines,
    Property.declaration, Property.backing, Line.blank, countIn_cons hc, countIn_nil,
    String.toList_append, List.count_append, hfixed, count_simpleName hc, toList_braces]
  unfold countNames
  omega

end EntityClass

end EntityAudit.Java

namespace EntityAudit

open Identifier (delimiter)
open Unicode (Caseless)
open Java (marks countIn)

/-! ## The names of a field -/

/-- How often a character goes from the name of a field into each of the names made of it. -/
def strayCount (c : Char) (name : String) : Nat :=
  if delimiter ∈ name.toList then name.toList.count c else 0

/-- How often a character goes from the names of all columns into the names made of them. -/
def AuditType.strayCount (c : Char) (a : AuditType) : Nat :=
  (a.fields.map fun f => EntityAudit.strayCount c f.rawName).sum

theorem caseless_of_mem_marks {c : Char} (hc : c ∈ marks) : Caseless c := by
  have hself : ∀ d ∈ marks, d.toNat < 128 ∧ d.toNat ≠ 0 ∧ d.toLower = d ∧ d.toUpper = d :=
    Java.forall_marks.mpr (by decide)
  have havoid : ∀ d ∈ marks, Unicode.Avoids d.toNat Unicode.lowerSpecial Unicode.lowerShifts
      ∧ Unicode.Avoids d.toNat Unicode.upperSpecial Unicode.upperShifts :=
    Java.forall_marks.mpr (by decide +kernel)
  obtain ⟨hascii, hne, hcase⟩ := hself c hc
  exact Unicode.caseless_of_avoids hascii hne hcase (havoid c hc).1 (havoid c hc).2

theorem ne_delimiter_of_mem_marks {c : Char} (hc : c ∈ marks) : c ≠ delimiter := by
  rintro rfl
  exact absurd hc (by decide)

variable {c : Char}

theorem count_accessorName (hc : c ∈ marks) {verb : String} (hverb : verb ∈ ["get", "set"])
    (delimited : String) :
    (Java.accessorName verb delimited).toList.count c = delimited.toList.count c := by
  have hverbs : ∀ v ∈ ["get", "set"], (v ++ "_").toList.count '\x7b' = 0
      ∧ (v ++ "_").toList.count '\x7d' = 0 ∧ (v ++ "_").toList.count '\n' = 0 := by
    decide
  have hclear : ∀ d ∈ marks, (verb ++ "_").toList.count d = 0 :=
    Java.forall_marks.mpr (hverbs verb hverb)
  rw [Java.accessorName, Identifier.toList_compact,
    Identifier.count_compactChars (caseless_of_mem_marks hc) (ne_delimiter_of_mem_marks hc),
    String.toList_append, List.count_append, hclear c hc, Nat.zero_add]

/-- The parameter of the setter has the stray marks of the name once. -/
theorem count_parameter (hc : c ∈ marks) (f : AuditField) :
    (Java.Property.ofField f).parameter.toList.count c = strayCount c f.rawName := by
  show (Identifier.delimited f.rawName).toList.count c = _
  rw [Identifier.toList_delimited, strayCount]
  exact Identifier.count_delimitedChars (caseless_of_mem_marks hc) (ne_delimiter_of_mem_marks hc) _

/-- **The accessors of a field have its stray marks seven times.** -/
theorem countNames_ofField (hc : c ∈ marks) (f : AuditField) :
    (Java.Property.ofField f).countNames c = 7 * strayCount c f.rawName := by
  have hparameter := count_parameter hc f
  have hcolumn : (Java.Property.ofField f).column.toList.count c = strayCount c f.rawName := by
    show (Identifier.compact (Identifier.delimited f.rawName)).toList.count c = _
    rw [Identifier.toList_compact,
      Identifier.count_compactChars (caseless_of_mem_marks hc) (ne_delimiter_of_mem_marks hc)]
    exact hparameter
  have hgetter : (Java.Property.ofField f).getter.toList.count c = strayCount c f.rawName :=
    (count_accessorName hc (by decide) _).trans hparameter
  have hsetter : (Java.Property.ofField f).setter.toList.count c = strayCount c f.rawName :=
    (count_accessorName hc (by decide) _).trans hparameter
  unfold Java.Property.countNames
  omega

/-! ## The columns -/

/-- How many columns are dates. -/
def AuditType.dateCount (a : AuditType) : Nat := a.fields.countP fun f => f.valueType.isTemporal

/-- The marks of the accessors of a column that may be empty. -/
theorem countIn_ofField (hc : c ∈ marks) {f : AuditField} (h : f.isOptional = true) :
    countIn c (Java.Property.ofField f).lines
      = (11 + if f.valueType.isTemporal then 1 else 0) * ['\n'].count c + 2 * ['\x7b'].count c
        + 2 * ['\x7d'].count c + 7 * strayCount c f.rawName := by
  have hlines : (Java.Property.ofField f).annotationCount + 10
      = 11 + if f.valueType.isTemporal then 1 else 0 := by
    show 1 + (if f.valueType.isTemporal then 1 else 0) + (if f.isOptional then 0 else 1) + 10 = _
    rw [h, if_pos rfl]
    omega
  rw [Java.Property.countIn_lines hc, countNames_ofField hc, hlines]

/-- The marks of the accessors of all columns. -/
theorem countIn_columns (hc : c ∈ marks) {fields : List AuditField}
    (h : ∀ f ∈ fields, f.isOptional = true) :
    (fields.map fun f => countIn c (Java.Property.ofField f).lines).sum
      = (11 * fields.length + fields.countP fun f => f.valueType.isTemporal) * ['\n'].count c
        + 2 * fields.length * ['\x7b'].count c + 2 * fields.length * ['\x7d'].count c
        + 7 * (fields.map fun f => strayCount c f.rawName).sum := by
  induction fields with
  | nil => simp
  | cons f fields ih =>
      obtain ⟨hf, hfields⟩ := List.forall_mem_cons.mp h
      rw [List.map_cons, List.sum_cons, countIn_ofField hc hf, ih hfields, List.map_cons,
        List.sum_cons, List.length_cons, List.countP_cons]
      simp only [Nat.add_mul, Nat.mul_add]
      omega

/-! ## The class of an accepted type -/

/-- Names that a type or a package may have are without marks. -/
theorem count_typeName (hc : c ∈ marks) {name : String} (h : isTypeName name = true) :
    name.toList.count c = 0 := by
  have hmarks : ∀ d ∈ marks, isTypeNameChar d = false := Java.forall_marks.mpr (by decide)
  apply List.count_eq_zero_of_not_mem
  intro hmem
  have hchar := isTypeNameChar_of_mem h hmem
  rw [hmarks c hc] at hchar
  exact Bool.false_ne_true hchar

/-- The identifier of a type adds no marks. -/
theorem strayCount_idField (hc : c ∈ marks) {a : AuditType} (h : isTypeName a.domainName = true) :
    strayCount c a.idField.rawName = 0 := by
  have hending : ∀ d ∈ marks, "_audit_id".toList.count d = 0 := Java.forall_marks.mpr (by decide)
  have hcount : a.idField.rawName.toList.count c = 0 := by
    show (Identifier.lowercase a.domainName ++ "_audit_id").toList.count c = 0
    rw [String.toList_append, List.count_append, hending c hc, Identifier.lowercase,
      String.toList_ofList, (caseless_of_mem_marks hc).count_lower, count_typeName hc h]
  unfold strayCount
  split
  · exact hcount
  · rfl

/-- **The marks in the class of an accepted type** under the usual naming. -/
theorem count_artifact (hc : c ∈ marks) {t : DomainType} {a : AuditType}
    (h : AuditType.ofDomain {} t = .ok a) :
    a.artifact.contents.toList.count c
      = (48 + 11 * a.fields.length + a.dateCount) * ['\n'].count c
        + (5 + 2 * a.fields.length) * ['\x7b'].count c
        + (5 + 2 * a.fields.length) * ['\x7d'].count c + 7 * a.strayCount c := by
  obtain ⟨hname, hdomain, -⟩ := extracts_of_ofDomain h
  obtain ⟨hgenerated, hpackage, hoptional⟩ := named_of_ofDomain h
  have hdate : strayCount c AuditType.dateField.rawName = 0 := by
    have hmarks : ∀ d ∈ marks, strayCount d AuditType.dateField.rawName = 0 :=
      Java.forall_marks.mpr (by decide)
    exact hmarks c hc
  have hidentity : strayCount c a.idField.rawName = 0 := by
    apply strayCount_idField hc
    rw [hdomain]
    exact hname
  have hidentityLines : countIn c (Java.Property.ofField a.idField).lines
      = 11 * ['\n'].count c + 2 * ['\x7b'].count c + 2 * ['\x7d'].count c := by
    have hannotations : (Java.Property.ofField a.idField).annotationCount = 1 := rfl
    rw [Java.Property.countIn_lines hc, countNames_ofField hc, hidentity, hannotations]
    omega
  have hdateLines : countIn c (Java.Property.ofField AuditType.dateField).lines
      = 13 * ['\n'].count c + 2 * ['\x7b'].count c + 2 * ['\x7d'].count c := by
    have hannotations : (Java.Property.ofField AuditType.dateField).annotationCount = 3 := rfl
    rw [Java.Property.countIn_lines hc, countNames_ofField hc, hdate, hannotations]
    omega
  have hhead : (Java.EntityClass.ofAuditType a).countNames c = 0 := by
    have hpackages : ∀ d ∈ marks, ({} : Naming).package.toList.count d = 0
        ∧ ({} : Naming).suffix.toList.count d = 0 :=
      Java.forall_marks.mpr (by decide)
    show a.package.toList.count c + 3 * a.generatedName.toList.count c + a.domainName.toList.count c
      + (Java.Property.ofField a.idField).parameter.toList.count c
      + (Java.Property.ofField AuditType.dateField).parameter.toList.count c = 0
    rw [count_parameter hc, count_parameter hc, hidentity, hdate, hpackage, hgenerated, hdomain,
      Naming.generatedName, String.toList_append, List.count_append, count_typeName hc hname,
      (hpackages c hc).1, (hpackages c hc).2]
  have hproperties : (Java.EntityClass.ofAuditType a).properties
      = .ofField a.idField :: .ofField AuditType.dateField :: a.fields.map .ofField := rfl
  have hcolumns := countIn_columns hc hoptional
  show countIn c (Java.EntityClass.ofAuditType a).lines = _
  rw [Java.EntityClass.countIn_lines hc, hhead, hproperties, List.map_cons, List.map_cons,
    List.sum_cons, List.sum_cons, hidentityLines, hdateLines, List.map_map]
  unfold AuditType.strayCount AuditType.dateCount
  simp only [Nat.add_mul] at hcolumns ⊢
  simp only [Function.comp_def]
  omega

/-- A class for `n` columns, of which `d` are dates, has the shape of a well-formed one: as many opening
as closing braces, and the lines of its members. -/
structure WellShaped (contents : List Char) (n d : Nat) : Prop where
  openings : contents.count '\x7b' = 5 + 2 * n
  closings : contents.count '\x7d' = 5 + 2 * n
  lines : contents.count '\n' = 48 + 11 * n + d

/-- What the names of the columns of `t` do to the shape of the class. -/
structure AuditType.Shaped (a : AuditType) (t : DomainType) : Prop where
  openings : a.artifact.contents.toList.count '\x7b' = 5 + 2 * a.fields.length + 7 * a.strayCount '\x7b'
  closings : a.artifact.contents.toList.count '\x7d' = 5 + 2 * a.fields.length + 7 * a.strayCount '\x7d'
  lines : a.artifact.contents.toList.count '\n'
    = 48 + 11 * a.fields.length + a.dateCount + 7 * a.strayCount '\n'
  /-- Every line is ended, so that the ends count the lines. -/
  ended : a.artifact.contents.toList.getLast? = some '\n'
  /-- The shape is kept exactly if no name that has a delimiter has a mark. -/
  wellShaped_iff : WellShaped a.artifact.contents.toList a.fields.length a.dateCount ↔
    ∀ m ∈ t.columns, delimiter ∈ m.rawName.toList → ∀ c ∈ marks, c ∉ m.rawName.toList

theorem strayCount_eq_zero_iff {name : String} :
    strayCount c name = 0 ↔ (delimiter ∈ name.toList → c ∉ name.toList) := by
  unfold strayCount
  split
  · rename_i hmem
    rw [List.count_eq_zero]
    exact ⟨fun h _ => h, fun h => h hmem⟩
  · rename_i hmem
    exact ⟨fun _ hdelim => absurd hdelim hmem, fun _ => rfl⟩

/-- A class has no stray marks exactly if none of the names has one. -/
theorem AuditType.strayCount_eq_zero_iff {t : DomainType} {a : AuditType}
    (hfields : List.Forall₂ Method.Extracts t.columns a.fields) :
    a.strayCount c = 0 ↔ ∀ m ∈ t.columns, delimiter ∈ m.rawName.toList → c ∉ m.rawName.toList := by
  have hsum : a.strayCount c = ((t.columns.map Method.rawName).map (EntityAudit.strayCount c)).sum := by
    rw [rawNames_eq hfields, List.map_map]
    rfl
  rw [hsum, List.sum_eq_zero_iff_forall_eq_nat]
  simp only [List.mem_map, forall_exists_index, and_imp, forall_apply_eq_imp_iff₂,
    EntityAudit.strayCount_eq_zero_iff]

theorem getLast?_artifact (a : AuditType) : a.artifact.contents.toList.getLast? = some '\n' := by
  show (Java.render (Java.EntityClass.ofAuditType a).lines).toList.getLast? = some '\n'
  rw [Java.EntityClass.lines, Java.render_append, String.toList_append, Java.toList_render [_],
    List.flatMap_singleton, Java.Line.chars, ← List.append_assoc, List.getLast?_concat]

/-- **The shape of the class of every accepted type**: the braces and lines of a well-formed class, and
seven times the marks in the names that have a delimiter. -/
theorem shaped_of_ofDomain {t : DomainType} {a : AuditType} (h : AuditType.ofDomain {} t = .ok a) :
    a.Shaped t := by
  obtain ⟨-, -, hfields⟩ := extracts_of_ofDomain h
  have hmarks : '\x7b' ∈ marks ∧ '\x7d' ∈ marks ∧ '\n' ∈ marks := by decide
  have hopenings : a.artifact.contents.toList.count '\x7b'
      = 5 + 2 * a.fields.length + 7 * a.strayCount '\x7b' := by
    simpa using count_artifact hmarks.1 h
  have hclosings : a.artifact.contents.toList.count '\x7d'
      = 5 + 2 * a.fields.length + 7 * a.strayCount '\x7d' := by
    simpa using count_artifact hmarks.2.1 h
  have hlines : a.artifact.contents.toList.count '\n'
      = 48 + 11 * a.fields.length + a.dateCount + 7 * a.strayCount '\n' := by
    simpa using count_artifact hmarks.2.2 h
  refine ⟨hopenings, hclosings, hlines, getLast?_artifact a, ?_, ?_⟩
  · intro hshape m hm hdelim c hc
    have hstray : a.strayCount c = 0 := by
      have hsums := hshape.openings
      have hsums' := hshape.closings
      have hsums'' := hshape.lines
      simp only [marks, List.mem_cons, List.not_mem_nil, or_false] at hc
      rcases hc with rfl | rfl | rfl <;> omega
    exact (AuditType.strayCount_eq_zero_iff hfields).mp hstray m hm hdelim
  · intro hnames
    have hstray : ∀ c ∈ marks, a.strayCount c = 0 := fun c hc =>
      (AuditType.strayCount_eq_zero_iff hfields).mpr fun m hm hdelim => hnames m hm hdelim c hc
    refine ⟨?_, ?_, ?_⟩
    · rw [hopenings, hstray _ hmarks.1, Nat.mul_zero, Nat.add_zero]
    · rw [hclosings, hstray _ hmarks.2.1, Nat.mul_zero, Nat.add_zero]
    · rw [hlines, hstray _ hmarks.2.2, Nat.mul_zero, Nat.add_zero]

/-- A type with a date, and with a name that has a delimiter. -/
def boatBuilt : DomainType :=
  ⟨"Boat", "a", [.auditable],
    [⟨"getHull", ⟨"java.lang.String"⟩, [.column]⟩,
     ⟨"getBuilt_On", ⟨"java.util.Date"⟩, [.column]⟩]⟩

/-- The audit type of that type. -/
def boatBuiltAudit : AuditType :=
  ⟨"Boat", "BoatAudit", "com.lsq.systems.metagen58",
    [⟨"Hull", .string, true⟩, ⟨"Built_On", .date, true⟩]⟩

/-- The class of that type has the shape of a well-formed one. -/
theorem shaped_boatBuilt :
    AuditType.ofDomain {} boatBuilt = .ok boatBuiltAudit ∧ boatBuiltAudit.Shaped boatBuilt
      ∧ WellShaped boatBuiltAudit.artifact.contents.toList 2 1 := by
  have haccepted : AuditType.ofDomain {} boatBuilt = .ok boatBuiltAudit := by decide +kernel
  have hshaped : boatBuiltAudit.Shaped boatBuilt := shaped_of_ofDomain haccepted
  have hclear : ∀ m ∈ boatBuilt.columns, '\x7b' ∉ m.rawName.toList ∧ '\x7d' ∉ m.rawName.toList
      ∧ '\n' ∉ m.rawName.toList := by
    decide +kernel
  refine ⟨haccepted, hshaped, hshaped.wellShaped_iff.mpr fun m hm _ => ?_⟩
  exact Java.forall_marks.mpr (hclear m hm)

/-! ## A name that opens a brace -/

/-- A type whose column has a brace in its name. -/
def boatBraced : DomainType :=
  ⟨"Boat", "a", [.auditable], [⟨"getHull_\x7b", ⟨"java.lang.String"⟩, [.column]⟩]⟩

/-- The audit type of that type. -/
def boatBracedAudit : AuditType :=
  ⟨"Boat", "BoatAudit", "com.lsq.systems.metagen58", [⟨"Hull_\x7b", .string, true⟩]⟩

/-- **Not every name keeps the shape of the class**: the brace goes into the class seven times, and is
never closed. -/
theorem shape_broken :
    AuditType.ofDomain {} boatBraced = .ok boatBracedAudit
      ∧ boatBracedAudit.artifact.contents.toList.count '\x7b' = 14
      ∧ boatBracedAudit.artifact.contents.toList.count '\x7d' = 7
      ∧ ¬ WellShaped boatBracedAudit.artifact.contents.toList 1 0 := by
  have haccepted : AuditType.ofDomain {} boatBraced = .ok boatBracedAudit := by decide +kernel
  have hopenings : boatBracedAudit.artifact.contents.toList.count '\x7b' = 14 := by
    rw [count_artifact (by decide) haccepted]
    decide +kernel
  have hclosings : boatBracedAudit.artifact.contents.toList.count '\x7d' = 7 := by
    rw [count_artifact (by decide) haccepted]
    decide +kernel
  refine ⟨haccepted, hopenings, hclosings, fun hshape => ?_⟩
  exact absurd (hopenings.symm.trans hshape.openings) (by decide)

end EntityAudit
