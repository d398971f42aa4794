import EntityAudit.Proofs.Java.BeanNames
import EntityAudit.Proofs.Java.Identifiers

/-!
# `EntityAudit.Proofs.Java.Unambiguous` — what can be read back from a class

The file of an audit type is compared as a whole with the one on disk, and by its fingerprint.  This is
sound because the text tells the type: under a given naming two classes have the same text exactly when
their domain types have the same name and their columns show the same, one by one.  A column shows its
delimited form and its value type; different names with one delimited form are the same column.

The text is read from the front.  The header gives the name, whatever the suffix is: a name is followed by
the suffix and a quotation mark, and a longer name would have that mark in it.  What follows the two fixed
properties is read line by line, and the lines of the columns one column after the other.

## Contents

* `Line.IsPlain`, `lines_eq_of_render_eq` — lines that can be read back
* `AuditField.signature`, `Property.ofSignature` — what a column shows, and the property made of it
* `Property.signature_eq_of_lines`, `signatures_eq_of_lines` — one column, and all of them
* `name_eq_of_suffixed`, `domainName_eq_of_contents` — the header
* `contents_eq_iff` — the class of every accepted type
-/

namespace EntityAudit

namespace Java

/-! ## Plain lines -/

/-- A line that can be read back: without line breaks, and its text is not indented itself. -/
structure Line.IsPlain (l : Line) : Prop where
  unbroken : '\n' ∉ l.text.toList
  unindented : l.text.toList.head? ≠ some '\t'

/-- A plain line is read back from the front of a text. -/
theorem Line.chars_append_inj {l k : Line} (hl : l.IsPlain) (hk : k.IsPlain) {r s : List Char}
    (h : l.chars ++ r = k.chars ++ s) : l = k ∧ r = s := by
  have hunbroken : ∀ {l : Line}, l.IsPlain → '\n' ∉ List.replicate l.depth '\t' ++ l.text.toList := by
    intro l hl hmem
    rcases List.mem_append.mp hmem with htab | htext
    · exact absurd (List.eq_of_mem_replicate htab) (by decide)
    · exact hl.unbroken htext
  rw [Line.chars, Line.chars, List.append_assoc _ ['\n'], List.append_assoc _ ['\n'],
    List.singleton_append, List.singleton_append] at h
  obtain ⟨hline, hrest⟩ := Text.append_cons_inj (hunbroken hl) (hunbroken hk) h
  obtain ⟨hdepth, htext⟩ := Text.replicate_append_inj hl.unindented hk.unindented hline
  refine ⟨?_, hrest⟩
  cases l
  cases k
  exact Line.mk.injEq _ _ _ _ ▸ ⟨hdepth, String.toList_inj.mp htext⟩

/-- **Plain lines are read back from their text.** -/
theorem lines_eq_of_render_eq {xs ys : List Line} (hxs : ∀ l ∈ xs, l.IsPlain)
    (hys : ∀ l ∈ ys, l.IsPlain) (h : render xs = render ys) : xs = ys := by
  rw [← String.toList_inj, toList_render, toList_render] at h
  induction xs generalizing ys with
  | nil =>
      cases ys with
      | nil => rfl
      | cons k ys =>
          rw [List.flatMap_nil, List.flatMap_cons, Line.chars] at h
          exact absurd h.symm (by simp)
  | cons l xs ih =>
      cases ys with
      | nil =>
          rw [List.flatMap_nil, List.flatMap_cons, Line.chars] at h
          exact absurd h (by simp)
      | cons k ys =>
          obtain ⟨hl, hxs⟩ := List.forall_mem_cons.mp hxs
          obtain ⟨hk, hys⟩ := List.forall_mem_cons.mp hys
          rw [List.flatMap_cons, List.flatMap_cons] at h
          obtain ⟨hline, hrest⟩ := Line.chars_append_inj hl hk h
          rw [hline, ih hxs hys hrest]

end Java

/-! ## What a column shows -/

/-- What a class shows of a column. -/
def AuditField.signature (f : AuditField) : String × ValueType :=
  (Identifier.delimited f.rawName, f.valueType)

namespace Java

/-- The property of a column that shows `s` and may be empty. -/
def Property.ofSignature (s : String × ValueType) : Property where
  column := Identifier.compact s.1
  parameter := s.1
  getter := accessorName "get" s.1
  setter := accessorName "set" s.1
  valueType := s.2
  isOptional := true

/-- A column that may be empty is seen in the class by what it shows only. -/
theorem Property.ofField_eq {f : AuditField} (h : f.isOptional = true) :
    Property.ofField f = .ofSignature f.signature := by
  rw [Property.ofField, h]
  rfl

/-- The lines of a column: its name, perhaps the mark of a date, and then the accessors. -/
theorem Property.lines_ofSignature (s : String × ValueType) :
    (Property.ofSignature s).lines
      = columnLine (Identifier.compact s.1)
        :: ((if s.2.isTemporal then [⟨1, "@Temporal(TemporalType.TIMESTAMP)"⟩] else [])
          ++ ((Property.ofSignature s).getterLines ++ (Property.ofSignature s).setterLines)) := by
  rw [Property.lines, Property.annotations]
  simp only [Property.ofSignature, if_true, List.append_nil, List.append_assoc]
  rfl

/-! ### Their lines are plain -/

theorem newline_notMem_simpleName (t : ValueType) : '\n' ∉ t.simpleName.toList := by
  cases t <;> decide

/-- The lines of a column are plain if its form has characters of identifiers only. -/
theorem Property.isPlain_of_mem_lines {s : String × ValueType}
    (h : ∀ c ∈ s.1.toList, isTypeNameChar c = true) :
    ∀ l ∈ (Property.ofSignature s).lines, l.IsPlain := by
  have hfree : ∀ {name : String}, (∀ c ∈ name.toList, isTypeNameChar c = true) → '\n' ∉ name.toList :=
    fun hname hmem => absurd (hname '\n' hmem) (by decide)
  have hform : '\n' ∉ s.1.toList := hfree h
  have hcolumn : '\n' ∉ Identifier.compactChars s.1.toList := fun hmem =>
    absurd (isTypeNameChar_of_mem_compactChars h hmem) (by decide)
  have hgetter : '\n' ∉ (accessorName "get" s.1).toList :=
    hfree (isTypeNameChar_of_mem_accessorName (Or.inl rfl) h)
  have hsetter : '\n' ∉ (accessorName "set" s.1).toList :=
    hfree (isTypeNameChar_of_mem_accessorName (Or.inr rfl) h)
  have htype := newline_notMem_simpleName s.2
  have hmethod : ∀ head statement, Line.IsPlain ⟨1, head⟩ → Line.IsPlain ⟨2, statement⟩ →
      ∀ l ∈ method head statement, l.IsPlain := by
    intro head statement hhead hstatement
    simp only [method, List.forall_mem_cons]
    exact ⟨hhead, ⟨by decide, by decide⟩, hstatement, ⟨by decide, by decide⟩, ⟨by decide, by decide⟩,
      fun l hl => absurd hl List.not_mem_nil⟩
  rw [Property.lines_ofSignature]
  simp only [List.mem_append, List.mem_cons]
  rintro l (rfl | hmark | hget | hset)
  · constructor
    · simp [columnLine, hcolumn]
    · simp [columnLine]
  · split at hmark
    · rw [List.mem_singleton.mp hmark]
      exact ⟨by decide, by decide⟩
    · exact absurd hmark List.not_mem_nil
  · refine hmethod _ _ ⟨?_, ?_⟩ ⟨?_, ?_⟩ l hget
    · simp [Property.getterHead_eq, Property.ofSignature, htype, hgetter]
    · simp [Property.getterHead_eq]
    · simp [Property.backing, Property.ofSignature, hform]
    · simp [Property.backing]
  · refine hmethod _ _ ⟨?_, ?_⟩ ⟨?_, ?_⟩ l hset
    · simp [Property.setterHead_eq, Property.ofSignature, htype, hsetter, hform]
    · simp [Property.setterHead_eq]
    · simp [Property.backing, Property.ofSignature, hform]
    · simp [Property.backing]

/-! ### Reading a column -/

/-- A value type is read back from the head of a getter. -/
theorem Property.valueType_eq_of_getterHead {p q : Property} (h : p.getterHead = q.getterHead) :
    p.valueType = q.valueType := by
  have hspace : ∀ t : ValueType, ' ' ∉ t.simpleName.toList := by
    intro t
    cases t <;> decide
  have htext : ∀ p : Property, p.getterHead.toList
      = "public ".toList ++ (p.valueType.simpleName.toList ++ ' ' :: (p.getter.toList ++ "()".toList)) := by
    intro p
    rw [getterHead_eq]
    simp only [String.toList_append, List.append_assoc]
    rfl
  rw [← String.toList_inj, htext, htext, List.append_cancel_left_eq] at h
  obtain ⟨htype, -⟩ := Text.append_cons_inj (hspace p.valueType) (hspace q.valueType) h
  exact ValueType.simpleName_injective (String.toList_inj.mp htype)

/-- A parameter is read back from what a getter returns. -/
theorem Property.parameter_eq_of_statement {p q : Property}
    (h : "return " ++ p.backing ++ ";" = "return " ++ q.backing ++ ";") : p.parameter = q.parameter := by
  rwa [String.append_left_inj, String.append_right_inj, backing, backing, String.append_right_inj] at h

/-- The mark of a date is no head of a getter. -/
theorem Property.mark_ne_getterHead (p : Property) : "@Temporal(TemporalType.TIMESTAMP)" ≠ p.getterHead := by
  intro h
  rw [← String.toList_inj, getterHead_eq] at h
  simp at h

/-- What a column shows is read back from its getter. -/
theorem Property.signature_eq_of_getterLines {s u : String × ValueType} {xs ys : List Line}
    (h : (Property.ofSignature s).getterLines ++ xs = (Property.ofSignature u).getterLines ++ ys) :
    s = u := by
  simp only [getterLines, method, List.cons_append, List.cons.injEq, Line.mk.injEq] at h
  obtain ⟨⟨-, hhead⟩, -, ⟨-, hstatement⟩, -⟩ := h
  exact Prod.ext (parameter_eq_of_statement hstatement) (valueType_eq_of_getterHead hhead)

/-- **A column is read back from its lines**, whatever follows them. -/
theorem Property.signature_eq_of_lines {s u : String × ValueType} {xs ys : List Line}
    (h : (Property.ofSignature s).lines ++ xs = (Property.ofSignature u).lines ++ ys) : s = u := by
  rw [lines_ofSignature, lines_ofSignature, List.cons_append, List.cons_append, List.append_assoc,
    List.append_assoc, List.append_assoc, List.append_assoc] at h
  have hbody := (List.cons.inj h).2
  -- Behind the name there is the mark of a date or the head of the getter, and these differ.
  by_cases hs : s.2.isTemporal = true <;> by_cases hu : u.2.isTemporal = true
  · rw [if_pos hs, if_pos hu, List.append_cancel_left_eq] at hbody
    exact signature_eq_of_getterLines hbody
  · rw [if_pos hs, if_neg hu] at hbody
    exact absurd (congrArg Line.text (List.cons.inj hbody).1) (mark_ne_getterHead _)
  · rw [if_neg hs, if_pos hu] at hbody
    exact absurd (congrArg Line.text (List.cons.inj hbody).1).symm (mark_ne_getterHead _)
  · rw [if_neg hs, if_neg hu, List.append_cancel_left_eq] at hbody
    exact signature_eq_of_getterLines hbody

/-- The lines of columns, up to the end of the class. -/
def columnLines (ss : List (String × ValueType)) : List Line :=
  ss.flatMap (fun s => (Property.ofSignature s).lines) ++ [⟨0, "\x7d"⟩]

theorem columnLines_cons (s : String × ValueType) (ss : List (String × ValueType)) :
    columnLines (s :: ss) = (Property.ofSignature s).lines ++ columnLines ss := by
  rw [columnLines, List.flatMap_cons, List.append_assoc]
  rfl

/-- The lines of columns are plain if their forms have characters of identifiers only. -/
theorem isPlain_of_mem_columnLines {ss : List (String × ValueType)}
    (h : ∀ s ∈ ss, ∀ c ∈ s.1.toList, isTypeNameChar c = true) : ∀ l ∈ columnLines ss, l.IsPlain := by
  intro l hl
  rcases List.mem_append.mp hl with hcolumn | hlast
  · obtain ⟨s, hs, hline⟩ := List.mem_flatMap.mp hcolumn
    exact Property.isPlain_of_mem_lines (h s hs) l hline
  · rw [List.mem_singleton.mp hlast]
    exact ⟨by decide, by decide⟩

/-- **The columns are read back from their lines**, up to the end of the class. -/
theorem signatures_eq_of_lines {ss us : List (String × ValueType)}
    (h : columnLines ss = columnLines us) : ss = us := by
  have hfirst : ∀ s : String × ValueType, ∀ rest,
      (Property.ofSignature s).lines ++ rest ≠ columnLines [] := by
    intro s rest heq
    rw [Property.lines_ofSignature, List.cons_append] at heq
    exact absurd (congrArg Line.depth (List.cons.inj heq).1) Nat.one_ne_zero
  induction ss generalizing us with
  | nil =>
      cases us with
      | nil => rfl
      | cons u us =>
          rw [columnLines_cons] at h
          exact absurd h.symm (hfirst u _)
  | cons s ss ih =>
      cases us with
      | nil =>
          rw [columnLines_cons] at h
          exact absurd h (hfirst s _)
      | cons u us =>
          rw [columnLines_cons, columnLines_cons] at h
          have hsignature : s = u := Property.signature_eq_of_lines h
          rw [hsignature, List.append_cancel_left_eq] at h
          rw [hsignature, ih h]

/-! ## The header -/

namespace EntityClass

/-- The lines before those of the columns. -/
def opening (c : EntityClass) : List Line :=
  packageLines c.package ++ imports.map importLine ++ [.blank] ++ c.headLines ++ c.fieldLines
    ++ c.identity.lines ++ c.date.lines

theorem lines_eq_opening (c : EntityClass) :
    c.lines = c.opening ++ (c.columns.flatMap Property.lines ++ [⟨0, "\x7d"⟩]) := by
  rw [lines, opening, properties, List.flatMap_cons, List.flatMap_cons]
  simp only [List.append_assoc]

/-- The lines before the first one with the name of the class. -/
def leadLines (package : String) : List Line :=
  packageLines package ++ imports.map importLine ++ [.blank, ⟨0, "@Entity"⟩]

/-- The text before the first name of a class. -/
def leadChars (package : String) : List Char :=
  (leadLines package).flatMap Line.chars ++ "@Table(name = \"".toList

theorem exists_lines (c : EntityClass) :
    ∃ below, c.lines = leadLines c.package ++ ⟨0, "@Table(name = \"" ++ c.name ++ "\")"⟩ :: below := by
  refine ⟨c.headLines.drop 2 ++ c.fieldLines ++ c.properties.flatMap Property.lines ++ [⟨0, "\x7d"⟩], ?_⟩
  rw [lines, leadLines, headLines]
  simp only [List.append_assoc, List.cons_append, List.nil_append, List.drop_succ_cons, List.drop_zero]

/-- The first name of the class in its text, and the quotation mark behind it. -/
theorem exists_chars (c : EntityClass) :
    ∃ rest, (render c.lines).toList = leadChars c.package ++ (c.name.toList ++ '"' :: rest) := by
  obtain ⟨below, hbelow⟩ := c.exists_lines
  have hmark : "\")".toList = ['"', ')'] := by decide
  refine ⟨')' :: '\n' :: below.flatMap Line.chars, ?_⟩
  rw [toList_render, hbelow, List.flatMap_append, List.flatMap_cons, leadChars, Line.chars,
    List.replicate_zero, List.nil_append, String.toList_append, String.toList_append, hmark]
  simp only [List.append_assoc, List.cons_append, List.nil_append]

end EntityClass

/-- Of two names with one text behind them up to a mark that they do not have, none is longer. -/
theorem name_eq_of_suffixed {s t w r r' : List Char} (h : s ++ (w ++ '"' :: r) = t ++ (w ++ '"' :: r'))
    (hs : '"' ∉ s) (ht : '"' ∉ t) : s = t := by
  have hnil : ∀ {v r r' : List Char}, '"' ∉ v → w ++ '"' :: r = v ++ (w ++ r') → v = [] :=
    fun hv hmoved => by_contra fun hne => hv (Text.mem_of_append_eq hne w hmoved)
  rcases List.append_eq_append_iff.mp h with ⟨v, htext, hrest⟩ | ⟨v, htext, hrest⟩
  · have hv : '"' ∉ v := fun hmem => ht (htext ▸ List.mem_append_right s hmem)
    rw [htext, hnil hv hrest, List.append_nil]
  · have hv : '"' ∉ v := fun hmem => hs (htext ▸ List.mem_append_right t hmem)
    rw [htext, hnil hv hrest, List.append_nil]

end Java

/-! ## The class of an accepted type -/

section Class

open Java

/-- **The header tells the name of the domain type**, whatever the suffix is. -/
theorem domainName_eq_of_contents {n : Naming} {t u : DomainType} {a b : AuditType}
    (ha : AuditType.ofDomain n t = .ok a) (hb : AuditType.ofDomain n u = .ok b)
    (h : a.artifact.contents = b.artifact.contents) : t.name = u.name := by
  have hquote : ∀ {name : String}, isTypeName name = true → '"' ∉ name.toList :=
    fun hname hmem => absurd (isTypeNameChar_of_mem hname hmem) (by decide)
  have htext : ∀ {t : DomainType} {a : AuditType}, AuditType.ofDomain n t = .ok a →
      ∃ rest, a.artifact.contents.toList
        = EntityClass.leadChars n.package ++ (t.name.toList ++ (n.suffix.toList ++ '"' :: rest)) := by
    intro t a ha
    obtain ⟨hgenerated, hpackage, -⟩ := named_of_ofDomain ha
    obtain ⟨rest, hrest⟩ := EntityClass.exists_chars (EntityClass.ofAuditType a)
    refine ⟨rest, hrest.trans ?_⟩
    show EntityClass.leadChars a.package ++ (a.generatedName.toList ++ '"' :: rest) = _
    rw [hpackage, hgenerated, Naming.generatedName, String.toList_append, List.append_assoc]
  obtain ⟨rest, hrest⟩ := htext ha
  obtain ⟨rest', hrest'⟩ := htext hb
  rw [h, hrest', List.append_cancel_left_eq] at hrest
  exact (String.toList_inj.mp (name_eq_of_suffixed hrest (hquote (extracts_of_ofDomain hb).1)
    (hquote (extracts_of_ofDomain ha).1))).symm

/-- Classes of types with one name begin with the same lines. -/
theorem opening_eq_of_name {n : Naming} {t u : DomainType} {a b : AuditType}
    (ha : AuditType.ofDomain n t = .ok a) (hb : AuditType.ofDomain n u = .ok b) (h : t.name = u.name) :
    (EntityClass.ofAuditType a).opening = (EntityClass.ofAuditType b).opening := by
  have hdomain : a.domainName = b.domainName := by
    rw [(extracts_of_ofDomain ha).2.1, (extracts_of_ofDomain hb).2.1, h]
  have hgenerated : a.generatedName = b.generatedName := by
    rw [(named_of_ofDomain ha).1, (named_of_ofDomain hb).1, h]
  have hpackage : a.package = b.package := by
    rw [(named_of_ofDomain ha).2.1, (named_of_ofDomain hb).2.1]
  simp only [EntityClass.opening, EntityClass.headLines, EntityClass.fieldLines, EntityClass.ofAuditType,
    AuditType.idField, hdomain, hgenerated, hpackage]

/-- The class of an accepted type is its opening and the lines of what its columns show. -/
theorem contents_eq_render {n : Naming} {t : DomainType} {a : AuditType}
    (h : AuditType.ofDomain n t = .ok a) :
    a.artifact.contents = render (EntityClass.ofAuditType a).opening
      ++ render (columnLines (a.fields.map AuditField.signature)) := by
  have hcolumns : (EntityClass.ofAuditType a).columns
      = (a.fields.map AuditField.signature).map Property.ofSignature := by
    rw [List.map_map]
    exact List.map_congr_left fun f hf => Property.ofField_eq ((named_of_ofDomain h).2.2 f hf)
  show render (EntityClass.ofAuditType a).lines = _
  rw [EntityClass.lines_eq_opening, render_append, hcolumns, List.flatMap_map]
  rfl

/-- The forms of the columns have characters of identifiers only, if the methods have legal names. -/
theorem isTypeNameChar_of_mem_signatures {n : Naming} {t : DomainType} {a : AuditType}
    (h : AuditType.ofDomain n t = .ok a)
    (hnames : ∀ m ∈ t.columns, ∀ c ∈ m.name.toList, isTypeNameChar c = true) :
    ∀ s ∈ a.fields.map AuditField.signature, ∀ c ∈ s.1.toList, isTypeNameChar c = true := by
  obtain ⟨hname, hdomain, hfields⟩ := extracts_of_ofDomain h
  rw [← hdomain] at hname
  intro s hs c hc
  obtain ⟨f, hf, rfl⟩ := List.mem_map.mp hs
  have hmem : f ∈ a.allFields := List.mem_cons_of_mem _ (List.mem_cons_of_mem _ hf)
  have hraw := isTypeNameChar_of_mem_allFields hname hfields hnames hmem
  rw [AuditField.signature, Identifier.toList_delimited] at hc
  exact isTypeNameChar_of_mem_delimitedChars hraw hc

/-- **Two classes have the same text exactly when their types have the same name and their columns show
the same**, for all accepted types whose methods have legal names, and under every naming. -/
theorem contents_eq_iff {n : Naming} {t u : DomainType} {a b : AuditType}
    (ha : AuditType.ofDomain n t = .ok a) (hb : AuditType.ofDomain n u = .ok b)
    (hta : ∀ m ∈ t.columns, ∀ c ∈ m.name.toList, isTypeNameChar c = true)
    (hub : ∀ m ∈ u.columns, ∀ c ∈ m.name.toList, isTypeNameChar c = true) :
    a.artifact.contents = b.artifact.contents ↔
      t.name = u.name ∧ a.fields.map AuditField.signature = b.fields.map AuditField.signature := by
  constructor
  · intro h
    have hname : t.name = u.name := domainName_eq_of_contents ha hb h
    rw [contents_eq_render ha, contents_eq_render hb, opening_eq_of_name ha hb hname,
      String.append_right_inj] at h
    have hplain := isPlain_of_mem_columnLines (isTypeNameChar_of_mem_signatures ha hta)
    have hplain' := isPlain_of_mem_columnLines (isTypeNameChar_of_mem_signatures hb hub)
    exact ⟨hname, signatures_eq_of_lines (lines_eq_of_render_eq hplain hplain' h)⟩
  · rintro ⟨hname, hsignatures⟩
    rw [contents_eq_render ha, contents_eq_render hb, opening_eq_of_name ha hb hname, hsignatures]

/-- A type with a text and a date. -/
def carBuilt : DomainType :=
  ⟨"Car", "a", [.auditable],
    [⟨"getCarMake", ⟨"java.lang.String"⟩, [.column]⟩, ⟨"getBuilt", ⟨"java.util.Date"⟩, [.column]⟩]⟩

/-- The audit type of that type. -/
def carBuiltAudit : AuditType :=
  ⟨"Car", "CarAudit", "p", [⟨"CarMake", .string, true⟩, ⟨"Built", .date, true⟩]⟩

/-- The same columns, one of them spelled with a delimiter. -/
def carSpelled : DomainType :=
  ⟨"Car", "b", [.auditable],
    [⟨"getCar_Make", ⟨"()java.lang.String"⟩, [.column]⟩, ⟨"getBuilt", ⟨"java.util.Date"⟩, [.column]⟩]⟩

/-- The audit type of that type. -/
def carSpelledAudit : AuditType :=
  ⟨"Car", "CarAudit", "p", [⟨"Car_Make", .string, true⟩, ⟨"Built", .date, true⟩]⟩

/-- The same columns in the other order. -/
def carSwapped : DomainType :=
  ⟨"Car", "a", [.auditable],
    [⟨"getBuilt", ⟨"java.util.Date"⟩, [.column]⟩, ⟨"getCarMake", ⟨"java.lang.String"⟩, [.column]⟩]⟩

/-- The audit type of that type. -/
def carSwappedAudit : AuditType :=
  ⟨"Car", "CarAudit", "p", [⟨"Built", .date, true⟩, ⟨"CarMake", .string, true⟩]⟩

/-- Another spelling of a column leaves the class as it is, and another order of the columns does not. -/
theorem contents_carBuilt :
    AuditType.ofDomain ⟨"p", "Audit"⟩ carBuilt = .ok carBuiltAudit
      ∧ AuditType.ofDomain ⟨"p", "Audit"⟩ carSpelled = .ok carSpelledAudit
      ∧ AuditType.ofDomain ⟨"p", "Audit"⟩ carSwapped = .ok carSwappedAudit
      ∧ carBuiltAudit.artifact.contents = carSpelledAudit.artifact.contents
      ∧ carBuiltAudit.artifact.contents ≠ carSwappedAudit.artifact.contents := by
  have hbuilt : AuditType.ofDomain ⟨"p", "Audit"⟩ carBuilt = .ok carBuiltAudit := by decide +kernel
  have hspelled : AuditType.ofDomain ⟨"p", "Audit"⟩ carSpelled = .ok carSpelledAudit := by decide +kernel
  have hswapped : AuditType.ofDomain ⟨"p", "Audit"⟩ carSwapped = .ok carSwappedAudit := by decide +kernel
  have hall : ([carBuilt, carSpelled, carSwapped].all fun t =>
      t.columns.all fun m => m.name.toList.all isTypeNameChar) = true := by
    decide +kernel
  have hnames : ∀ t ∈ [carBuilt, carSpelled, carSwapped], ∀ m ∈ t.columns, ∀ c ∈ m.name.toList,
      isTypeNameChar c = true :=
    fun t ht m hm => List.all_eq_true.mp (List.all_eq_true.mp (List.all_eq_true.mp hall t ht) m hm)
  refine ⟨hbuilt, hspelled, hswapped, ?_, ?_⟩
  · apply (contents_eq_iff hbuilt hspelled (hnames _ (by simp)) (hnames _ (by simp))).mpr
    exact ⟨rfl, by decide +kernel⟩
  · rw [ne_eq, contents_eq_iff hbuilt hswapped (hnames _ (by simp)) (hnames _ (by simp))]
    rintro ⟨-, hsignatures⟩
    exact absurd hsignatures (by decide +kernel)

end Class

end EntityAudit
